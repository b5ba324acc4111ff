import RowFilter.Json.Reader
import RowFilter.Residual.Query

/-!
# Reading residuals from JSON

The second form of residuals is the JSON encoding of a policy engine.

```text
document    {"queries": [[expression, ...], ...]}
expression  {"terms": [operator, argument, ...] or a term, "negated": true or false}
term        {"type": kind, "value": content}
```

The document may also be the bare list, or be wrapped, any number of times, as the member `result`
of an object.  Of members with the same name the last one counts, and unknown members are ignored.
An object that stands for a number (`Json.numberMark`) is that number wherever it occurs.  The first
value that does not have the right shape, in the order of the document, is the error.

* `Residual.ofJson` — the residual that a JSON value encodes.
* `Residual.decode` — the residual that a document encodes.
-/

set_option autoImplicit false

namespace RowFilter

/-! ## Errors -/

/-- What has to stand at some place of the encoding. -/
inductive Expected where
  /-- The list of queries. -/
  | queries
  /-- A query. -/
  | query
  /-- An expression. -/
  | expression
  /-- The flag of a negated expression. -/
  | negated
  /-- The terms of an expression. -/
  | terms
  /-- A term. -/
  | term
  /-- The kind of a term. -/
  | kind
  /-- A key and a value of an object. -/
  | entry
  /-- The content of a term of the kind it names. -/
  | content
deriving Repr, DecidableEq

/-- What messages call it. -/
def Expected.text : Expected → String
  | queries => "array of queries"
  | query => "query (array of expressions)"
  | expression => "expression object"
  | negated => "boolean negated flag"
  | terms => "expression terms"
  | term => "term object"
  | kind => "term type string"
  | entry => "object entry [key, value]"
  | content => "term value matching its type"

/-- Why a document encodes no residual. -/
inductive DecodeError where
  /-- The text is no JSON document. -/
  | json
  /-- A value has the wrong shape. -/
  | shape (expected : Expected) (found : String)
  /-- An object lacks a member. -/
  | missing (name : String)
  /-- There are no terms of this kind. -/
  | unknownKind (kind : String)
deriving Repr, DecidableEq

/-- The wording of an error. -/
def DecodeError.message : DecodeError → String
  | json => "invalid JSON: "
  | shape expected found => "expected " ++ expected.text ++ ", found " ++ found
  | missing name => "missing field " ++ name
  | unknownKind kind => "unknown term type " ++ kind

namespace Decoder

/-- The error that `found` stands where something else has to. -/
def mismatch {α : Type} (expected : Expected) (found : Json) : Except DecodeError α :=
  .error (.shape expected found.describe)

/-! ## Terms -/

/-- The kinds of terms. -/
def kinds : List String :=
  ["null", "boolean", "number", "string", "var", "ref", "array", "set", "object", "call"]

/-- The kind that a term names. -/
def kindOf (members : List (String × Json)) : Except DecodeError String :=
  match Json.lastMember "type" members with
  | none => .error (.missing "type")
  | some (.string kind) => .ok kind
  | some other => mismatch .kind other

/-- The term of the given kind whose content has no parts. -/
def leaf (kind : String) (value : Json) : Except DecodeError Term :=
  match kind, value with
  | "null", _ => .ok .null
  | "boolean", .boolean b => .ok (.boolean b)
  | "number", .number text => .ok (.number text)
  | "string", .string s => .ok (.string s)
  | "var", .string s => .ok (.var s)
  | kind, value =>
    if kinds.contains kind then mismatch .content value else .error (.unknownKind kind)

mutual

/-- The term that a value encodes. -/
def term : Json → Except DecodeError Term
  | .object members =>
    match kindOf members with
    | .error e => .error e
    | .ok kind => memberContent kind members
  | other => mismatch .term other

/-- The term of the given kind whose content is the last member `value`.  A missing one counts as
null. -/
def memberContent (kind : String) : List (String × Json) → Except DecodeError Term
  | [] => leaf kind .null
  | (key, value) :: rest =>
    if key = "value" ∧ Json.has "value" rest = false then content kind value
    else memberContent kind rest

/-- The term of the given kind with the given content. -/
def content (kind : String) : Json → Except DecodeError Term
  | .array items =>
    if kind = "ref" then (terms items).map .ref
    else if kind = "array" then (terms items).map .array
    else if kind = "set" then (terms items).map .set
    else if kind = "call" then (terms items).map .call
    else if kind = "object" then (entries items).map .object
    else leaf kind (.array items)
  | other => leaf kind other

/-- The terms that the items of an array encode. -/
def terms : List Json → Except DecodeError (List Term)
  | [] => .ok []
  | item :: rest => do
    let t ← term item
    let ts ← terms rest
    pure (t :: ts)

/-- The keys and values that the items of an array encode. -/
def entries : List Json → Except DecodeError (List (Term × Term))
  | [] => .ok []
  | item :: rest =>
    match item with
    | .array [key, value] => do
      let k ← term key
      let v ← term value
      let es ← entries rest
      pure ((k, v) :: es)
    | other => mismatch .entry other

end

/-! ## Expressions, queries and residuals -/

/-- Whether the expression with the given members is negated. -/
def negatedOf (members : List (String × Json)) : Except DecodeError Bool :=
  match Json.lastMember "negated" members with
  | none => .ok false
  | some .null => .ok false
  | some (.boolean b) => .ok b
  | some other => mismatch .negated other

/-- The condition of the expression with the given members. -/
def conditionOf (members : List (String × Json)) : Except DecodeError Condition :=
  match Json.lastMember "terms" members with
  | none => .error (.missing "terms")
  | some (.array items) => (terms items).map .call
  | some (.object fields) => (term (.object fields)).map .term
  | some other => mismatch .terms other

/-- The expression that a value encodes. -/
def expression : Json → Except DecodeError Expression
  | .object members => do
    let negated ← negatedOf members
    let condition ← conditionOf members
    pure { condition, negated }
  | other => mismatch .expression other

/-- The query that a value encodes. -/
def query : Json → Except DecodeError Query
  | .array items => items.mapM expression
  | other => mismatch .query other

/-- The queries that a value encodes. -/
def queries : Json → Except DecodeError Residual
  | .array items => items.mapM query
  | other => mismatch .queries other

mutual

/-- The residual that a value encodes: a list of queries, or an object that holds one. -/
def residual : Json → Except DecodeError Residual
  | .object members =>
    match wrapped members with
    | some r => r
    | none =>
      match Json.lastMember "queries" members with
      | none => .ok []
      | some .null => .ok []
      | some value => queries value
  | other => queries other

/-- The residual that the last member `result` encodes, if there is one. -/
def wrapped : List (String × Json) → Option (Except DecodeError Residual)
  | [] => none
  | (key, value) :: rest =>
    match wrapped rest with
    | some r => some r
    | none => if key = "result" then some (residual value) else none

end

end Decoder

/-- The residual that a JSON value encodes. -/
def Residual.ofJson (value : Json) : Except DecodeError Residual :=
  Decoder.residual value

/-- **The residual that a document encodes.** -/
def Residual.decode (document : String) : Except DecodeError Residual :=
  match Json.read document with
  | none => .error .json
  | some value => Residual.ofJson value

end RowFilter
