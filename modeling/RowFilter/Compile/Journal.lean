import RowFilter.Compile.Basic

/-!
# The journal of a compilation

Compilation can be followed in a journal: how many queries there are, which references were looked
up and which resolver knew them, which operands had no form in SQL, and how it ended.  References
are looked up in the order in which they are compiled, up to the first error.
-/

set_option autoImplicit false

namespace RowFilter.Compile

/-- How important an entry is. -/
inductive Level where
  /-- A step. -/
  | trace
  /-- A stage. -/
  | debug
  /-- Something that went wrong. -/
  | warn
deriving Repr, DecidableEq

/-- An entry of the journal. -/
structure Entry where
  /-- How important it is. -/
  level : Level
  /-- What it says. -/
  text : String
deriving Repr, DecidableEq

/-! ## References looked up -/

/-- Whether a result is no error. -/
def succeeds {α : Type} : Except CompileError α → Bool
  | .ok _ => true
  | .error _ => false

/-- The lookups of the parts of something, up to and including the first part that fails. -/
def upToFailure : List (List Path × Bool) → List Path
  | [] => []
  | (paths, succeeded) :: rest => paths ++ if succeeded then upToFailure rest else []

/-- The lookup of a reference, if it has a path and there are resolvers. -/
def referenceLookups (s : Settings) (segments : List Term) : List Path :=
  match Path.ofRef segments, s.resolvers with
  | .ok path, some _ => [path]
  | _, _ => []

/-- A term with its lookups. -/
abbrev Followed := Term × List Path

/-- The lookups of compiled terms, up to the first that fails. -/
def collectLookups (s : Settings) (ts : List Followed) : List Path :=
  upToFailure (ts.map fun t => (t.2, succeeds (term s t.1)))

mutual

/-- The lookups of a term. -/
def termLookups (s : Settings) : Term → List Path
  | .ref segments => referenceLookups s segments
  | .array elements => collectLookups s (termsLookups s elements)
  | .set elements =>
    collectLookups s ((termsLookups s elements).mergeSort fun a b => (Term.cmp a.1 b.1).isLE)
  | .call ts => callLookups s ts
  | _ => []

/-- The terms of a list, each with its lookups. -/
def termsLookups (s : Settings) : List Term → List Followed
  | [] => []
  | t :: ts => (t, termLookups s t) :: termsLookups s ts

/-- The lookups of a call. -/
def callLookups (s : Settings) : List Term → List Path
  | [] => []
  | op :: arguments =>
    match operator op with
    | .ok _ =>
      if arguments.length = 2 then collectLookups s (termsLookups s arguments) else []
    | .error _ => []

end

/-- The lookups of an expression. -/
def expressionLookups (s : Settings) (e : Expression) : List Path :=
  if e.negated then []
  else
    match e.condition with
    | .call ts => callLookups s ts
    | .term t => termLookups s t

/-- The lookups of a query. -/
def queryLookups (s : Settings) (q : Query) : List Path :=
  upToFailure (q.map fun e => (expressionLookups s e, succeeds (expression s e)))

/-- The lookups of a residual. -/
def lookups (s : Settings) (r : Residual) : List Path :=
  if r.any List.isEmpty then []
  else upToFailure (r.map fun q => (queryLookups s q, succeeds (query s q)))

/-! ## Entries -/

/-- The entry of a lookup: the resolver that knew the path, or that none did. -/
def lookupEntry (s : Settings) (path : Path) : Entry :=
  match Resolver.first (s.resolvers.getD []) path with
  | some (r, _) => ⟨.trace, path.dotted ++ " resolved by " ++ r.name⟩
  | none => ⟨.debug, "no matcher resolves " ++ path.dotted⟩

/-- The entries of rendering. -/
def renderingEntries (r : Residual) (rendered : Sql.Rendered) : List Entry :=
  rendered.faults.map (fun f => ⟨.trace, "sql generation error: " ++ f.message⟩) ++
    if rendered.faults.isEmpty then [⟨.debug, "compiled sql: " ++ rendered.text⟩]
    else
      [⟨.warn, toString rendered.faults.length ++ " error(s) rendering residual queries:\n" ++
        r.text⟩]

/-- **The journal of a compilation.** -/
def journal (s : Settings) (r : Residual) : List Entry :=
  ⟨.debug, "compiling " ++ toString r.length ++ " residual queries"⟩ ::
    (lookups s r).map (lookupEntry s) ++
    match predicate s r with
    | .ok n => renderingEntries r n.render
    | .error _ => []

end RowFilter.Compile
