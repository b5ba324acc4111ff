import RowFilter.Proofs.Compile.Inversion
import RowFilter.Proofs.Resolver.Column

/-!
# Which residuals compile, and what is said of those that do not

Compilation stops at the first part of a residual that has no counterpart in SQL, and its error
leads there: to a query, an expression of it, and terms inside of each other down to the one that is
at fault.  This file says which residuals compile and where the others fail, without compiling them.

Neither description mentions the other.  A term is convertible because of what it is and what its
parts are; it fails because of what it is, or because of the first of its parts that fails.  That
the two exhaust all terms is proved by induction on terms, and with it they describe compilation
completely: what is convertible compiles, and what fails gives the error that it fails with.

* `Compile.Convertible`, `Compile.HasTruth` — which terms compile, and to something true or false.
* `Compile.RootCause`, `Compile.FailsAt` — why and where a term fails.
* `Compile.convertible_or_failsAt` — there is no third case.
* `Compile.term_of_convertible`, `Compile.term_of_failsAt` — what becomes of a term in either.
* `Compile.predicate_accepts` — the same for residuals.
-/

set_option autoImplicit false

namespace RowFilter

open Sql (Node)

/-! ## The first that fails -/

/-- Either all members of a list are of the first sort, or one of the second sort comes behind
members of the first sort only. -/
theorem forall_or_exists_first {α : Type} {P Q : α → Prop} {xs : List α}
    (h : ∀ x ∈ xs, P x ∨ Q x) :
    (∀ x ∈ xs, P x) ∨ ∃ before x after, xs = before ++ x :: after ∧ (∀ y ∈ before, P y) ∧ Q x := by
  induction xs with
  | nil => exact .inl (by simp)
  | cons x xs ih =>
    rw [List.forall_mem_cons] at h
    rcases h.1 with hx | hx
    · rcases ih h.2 with hall | ⟨before, y, after, rfl, hbefore, hy⟩
      · exact .inl (List.forall_mem_cons.2 ⟨hx, hall⟩)
      · exact .inr ⟨x :: before, y, after, rfl, List.forall_mem_cons.2 ⟨hx, hbefore⟩, hy⟩
    · exact .inr ⟨[], x, xs, rfl, by simp, hx⟩

section Traversal

/-! A list is compiled one by one up to the first error, which `wrap` puts into the words of the
member where it lies. -/

variable {ε α β : Type} (f : α → Except ε β) (wrap : α → ε → ε) (all : List α → Except ε (List β))

theorem exists_ok_of_traversal (hnil : all [] = .ok [])
    (hok : ∀ x xs b, f x = .ok b → all (x :: xs) = (all xs).map (b :: ·)) {xs : List α}
    (h : ∀ x ∈ xs, ∃ b, f x = .ok b) : ∃ bs, all xs = .ok bs := by
  induction xs with
  | nil => exact ⟨[], hnil⟩
  | cons x xs ih =>
    rw [List.forall_mem_cons] at h
    obtain ⟨b, hb⟩ := h.1
    obtain ⟨bs, hbs⟩ := ih h.2
    exact ⟨b :: bs, by rw [hok x xs b hb, hbs]; rfl⟩

theorem error_of_traversal (hok : ∀ x xs b, f x = .ok b → all (x :: xs) = (all xs).map (b :: ·))
    (herror : ∀ x xs e, f x = .error e → all (x :: xs) = .error (wrap x e)) {before after : List α}
    {x : α} {e : ε} (hbefore : ∀ y ∈ before, ∃ b, f y = .ok b) (hx : f x = .error e) :
    all (before ++ x :: after) = .error (wrap x e) := by
  induction before with
  | nil => exact herror x after e hx
  | cons y before ih =>
    rw [List.forall_mem_cons] at hbefore
    obtain ⟨b, hb⟩ := hbefore.1
    rw [List.cons_append, hok y _ b hb, ih hbefore.2]
    rfl

end Traversal

namespace Compile

variable (s : Settings)

/-! ## Terms -/

/-- The names of the operators that have a form in SQL. -/
def operatorNames : List String :=
  ["eq", "equal", "equals", "neq", "notequal", "notequals", "internal.member_2"]

/-- The column that a reference leads to: it has a path, and there are resolvers that know it. -/
def LeadsTo (segments : List Term) (n : Node) : Prop :=
  ∃ path rs, Path.ofRef segments = .ok path ∧ s.resolvers = some rs ∧
    Resolver.resolveFirst rs path = some n

/-- **Which terms compile.** -/
inductive Convertible : Term → Prop
  | string (value : String) : Convertible (.string value)
  | boolean (b : Bool) : Convertible (.boolean b)
  | number {text : String} (hvalid : Number.isValid text = true) : Convertible (.number text)
  | array {es : List Term} (hes : ∀ e ∈ es, Convertible e) : Convertible (.array es)
  | set {es : List Term} (hes : ∀ e ∈ es, Convertible e) : Convertible (.set es)
  | ref {segments : List Term} {n : Node} (hn : LeadsTo s segments n) : Convertible (.ref segments)
  | call {op l r : Term} {name : String} (hname : op.operatorName = some name)
      (hknown : name ∈ operatorNames) (hl : Convertible l) (hr : Convertible r) :
      Convertible (.call [op, l, r])

/-- **Which of them compile to something that is true or false**: calls, truth values, and
references to the whole of a boolean column. -/
def HasTruth : Term → Prop
  | .call _ => True
  | .boolean _ => True
  | .ref segments => ∃ sql, LeadsTo s segments (.column sql .boolean .whole)
  | _ => False

/-- **Why a term fails by itself**, whatever its parts are. -/
inductive RootCause : Term → CompileError → Prop
  | null : RootCause .null (.unsupported "null")
  | object (entries : List (Term × Term)) : RootCause (.object entries) (.unsupported "object")
  | var (name : String) : RootCause (.var name) (.unboundVar name)
  | number {text : String} (hinvalid : Number.isValid text = false) :
      RootCause (.number text) (.invalidNumber text)
  | path {segments : List Term} {e : PathError} (he : Path.ofRef segments = .error e) :
      RootCause (.ref segments) (.path e)
  | noResolvers {segments : List Term} {path : Path} (hpath : Path.ofRef segments = .ok path)
      (hnone : s.resolvers = none) : RootCause (.ref segments) .noResolvers
  | unresolved {segments : List Term} {path : Path} {rs : List Resolver}
      (hpath : Path.ofRef segments = .ok path) (hrs : s.resolvers = some rs)
      (hnone : Resolver.resolveFirst rs path = none) :
      RootCause (.ref segments) (.unresolved (Term.text (.ref segments)))
  | emptyCall : RootCause (.call []) (.unsupported "empty call")
  | unnamed {op : Term} {arguments : List Term} (hnone : op.operatorName = none) :
      RootCause (.call (op :: arguments)) (.unsupportedOperator op.text)
  | unknown {op : Term} {arguments : List Term} {name : String}
      (hname : op.operatorName = some name) (hunknown : name ∉ operatorNames) :
      RootCause (.call (op :: arguments)) (.unsupportedOperator name)
  | arity {op : Term} {arguments : List Term} {name : String}
      (hname : op.operatorName = some name) (hknown : name ∈ operatorNames)
      (hlength : arguments.length ≠ 2) :
      RootCause (.call (op :: arguments)) (.arity 2 arguments.length)

/-- **Where a term fails**: the terms that the failure lies in, from the outside to the inside, each
of them the first part that fails of the one around it; and the root cause.  The elements of a set
come in the order of terms. -/
inductive FailsAt : Term → List Term → CompileError → Prop
  | here {t : Term} {cause : CompileError} (hcause : RootCause s t cause) : FailsAt t [] cause
  | array {before after inner : List Term} {e : Term} {cause : CompileError}
      (hbefore : ∀ b ∈ before, Convertible s b) (he : FailsAt e inner cause) :
      FailsAt (.array (before ++ e :: after)) (e :: inner) cause
  | set {es before after inner : List Term} {e : Term} {cause : CompileError}
      (hes : Term.sorted es = before ++ e :: after) (hbefore : ∀ b ∈ before, Convertible s b)
      (he : FailsAt e inner cause) : FailsAt (.set es) (e :: inner) cause
  | left {op l r : Term} {name : String} {inner : List Term} {cause : CompileError}
      (hname : op.operatorName = some name) (hknown : name ∈ operatorNames)
      (hl : FailsAt l inner cause) : FailsAt (.call [op, l, r]) (l :: inner) cause
  | right {op l r : Term} {name : String} {inner : List Term} {cause : CompileError}
      (hname : op.operatorName = some name) (hknown : name ∈ operatorNames)
      (hl : Convertible s l) (hr : FailsAt r inner cause) :
      FailsAt (.call [op, l, r]) (r :: inner) cause

/-- The error of a failure inside of some terms. -/
def within (inner : List Term) (cause : CompileError) : CompileError :=
  inner.foldr (fun t e => .inTerm t.text e) cause

variable {s}

theorem mem_operatorNames {name : String} :
    name ∈ operatorNames ↔ ∃ op, Operator.ofName? name = some op := by
  constructor
  · intro h
    simp only [operatorNames, List.mem_cons, List.not_mem_nil, or_false] at h
    rcases h with rfl | rfl | rfl | rfl | rfl | rfl | rfl <;> exact ⟨_, rfl⟩
  · rintro ⟨op, h⟩
    unfold Operator.ofName? at h
    split at h <;> simp [operatorNames] at h ⊢

theorem operator_of_mem {op : Term} {name : String} (hname : op.operatorName = some name)
    (hknown : name ∈ operatorNames) : ∃ known, operator op = .ok known := by
  obtain ⟨known, hof⟩ := mem_operatorNames.1 hknown
  exact ⟨known, by simp only [operator, hname, hof]⟩

/-- **Every term is convertible or fails.** -/
theorem convertible_or_failsAt (t : Term) :
    Convertible s t ∨ ∃ inner cause, FailsAt s t inner cause := by
  have hroot {t : Term} {cause : CompileError} (hcause : RootCause s t cause) :
      Convertible s t ∨ ∃ inner cause, FailsAt s t inner cause := .inr ⟨[], cause, .here hcause⟩
  induction t using Term.induct with
  | null => exact hroot .null
  | boolean b => exact .inl (.boolean b)
  | number text =>
    cases hvalid : Number.isValid text with
    | true => exact .inl (.number hvalid)
    | false => exact hroot (.number hvalid)
  | string value => exact .inl (.string value)
  | var name => exact hroot (.var name)
  | ref segments =>
    cases hpath : Path.ofRef segments with
    | error e => exact hroot (.path hpath)
    | ok path =>
      cases hrs : s.resolvers with
      | none => exact hroot (.noResolvers hpath hrs)
      | some rs =>
        cases hn : Resolver.resolveFirst rs path with
        | none => exact hroot (.unresolved hpath hrs hn)
        | some n => exact .inl (.ref ⟨path, rs, hpath, hrs, hn⟩)
  | array es ih =>
    rcases forall_or_exists_first ih with hes | ⟨before, e, after, rfl, hbefore, inner, cause, he⟩
    · exact .inl (.array hes)
    · exact .inr ⟨e :: inner, cause, .array hbefore he⟩
  | set es ih =>
    rcases forall_or_exists_first fun e he => ih e (Term.mem_sorted.1 he) with
      hes | ⟨before, e, after, hsorted, hbefore, inner, cause, he⟩
    · exact .inl (.set fun e he => hes e (Term.mem_sorted.2 he))
    · exact .inr ⟨e :: inner, cause, .set hsorted hbefore he⟩
  | object entries => exact hroot (.object entries)
  | call ts ih =>
    rcases ts with _ | ⟨op, arguments⟩
    · exact hroot .emptyCall
    cases hname : op.operatorName with
    | none => exact hroot (.unnamed hname)
    | some name =>
      by_cases hknown : name ∈ operatorNames
      · rcases arguments with _ | ⟨l, _ | ⟨r, _ | ⟨t, ts⟩⟩⟩
        · exact hroot (.arity hname hknown (by simp))
        · exact hroot (.arity hname hknown (by simp))
        · rcases ih l (by simp) with hl | ⟨inner, cause, hl⟩
          · rcases ih r (by simp) with hr | ⟨inner, cause, hr⟩
            · exact .inl (.call hname hknown hl hr)
            · exact .inr ⟨r :: inner, cause, .right hname hknown hl hr⟩
          · exact .inr ⟨l :: inner, cause, .left hname hknown hl⟩
        · exact hroot (.arity hname hknown (by simp))
      · exact hroot (.unknown hname hknown)

/-! ### Compilation -/

theorem reference_of_leadsTo {segments : List Term} {n : Node} (h : LeadsTo s segments n) :
    reference s segments = .ok n := by
  obtain ⟨path, rs, hpath, hrs, hn⟩ := h
  simp only [reference, hpath, hrs, hn]

theorem leadsTo_of_reference {segments : List Term} {n : Node} (h : reference s segments = .ok n) :
    LeadsTo s segments n := by
  obtain ⟨path, rs, r, hpath, hrs, hfirst⟩ := resolver_of_reference h
  exact ⟨path, rs, hpath, hrs, by rw [Resolver.resolveFirst, hfirst, Option.map_some]⟩

theorem collect_cons_ok (c : Compiled) (cs : List Compiled) (n : Node) (h : c.2 = .ok n) :
    collect (c :: cs) = (collect cs).map (n :: ·) := by
  obtain ⟨t, result⟩ := c
  obtain rfl : result = .ok n := h
  rfl

theorem collect_cons_error (c : Compiled) (cs : List Compiled) (e : CompileError)
    (h : c.2 = .error e) : collect (c :: cs) = .error (.inTerm c.1.text e) := by
  obtain ⟨t, result⟩ := c
  obtain rfl : result = .error e := h
  rfl

/-- An array compiles if its elements do. -/
theorem term_array_of_ok {es : List Term} (h : ∀ e ∈ es, ∃ n, term s e = .ok n) :
    ∃ n, term s (.array es) = .ok n := by
  have hterms : ∀ c ∈ terms s es, ∃ n, c.2 = .ok n := by
    rw [terms_eq]
    exact List.forall_mem_map.2 h
  obtain ⟨ns, hns⟩ := exists_ok_of_traversal Prod.snd collect rfl collect_cons_ok hterms
  exact ⟨_, by rw [term, arrayOf, hns]; rfl⟩

/-- An array whose elements compile up to one that does not. -/
theorem term_array_of_error {before after : List Term} {e : Term} {err : CompileError}
    (hbefore : ∀ b ∈ before, ∃ n, term s b = .ok n) (he : term s e = .error err) :
    term s (.array (before ++ e :: after)) = .error (.inTerm e.text err) := by
  have hbefore : ∀ c ∈ terms s before, ∃ n, c.2 = .ok n := by
    rw [terms_eq]
    exact List.forall_mem_map.2 hbefore
  have hterms : terms s (before ++ e :: after) =
      terms s before ++ (e, term s e) :: terms s after := by
    simp [terms_eq]
  have hcollect : collect (terms s (before ++ e :: after)) = .error (.inTerm e.text err) := by
    rw [hterms]
    exact error_of_traversal Prod.snd (fun c => .inTerm c.1.text) collect collect_cons_ok
      collect_cons_error hbefore (x := (e, term s e)) he
  rw [term, arrayOf, hcollect]
  rfl

/-- **What is convertible compiles.** -/
theorem term_of_convertible {t : Term} (h : Convertible s t) : ∃ n, term s t = .ok n := by
  induction h with
  | string value => exact ⟨_, rfl⟩
  | boolean b => exact ⟨_, rfl⟩
  | number hvalid => exact ⟨_, by rw [term, if_pos hvalid]⟩
  | array _ ih => exact term_array_of_ok ih
  | set _ ih =>
    rw [term_set]
    exact term_array_of_ok fun e he => ih e (Term.mem_sorted.1 he)
  | ref hn => exact ⟨_, reference_of_leadsTo hn⟩
  | call hname hknown _ _ ihl ihr =>
    obtain ⟨known, hop⟩ := operator_of_mem hname hknown
    obtain ⟨left, hleft⟩ := ihl
    obtain ⟨right, hright⟩ := ihr
    exact ⟨known.apply left right, by simp only [term, call, hop, terms, applied, hleft, hright]⟩

theorem applied_of_length_ne (op : Operator) {cs : List Compiled} (h : cs.length ≠ 2) :
    applied op cs = .error (.arity 2 cs.length) := by
  rcases cs with _ | ⟨c, _ | ⟨d, _ | ⟨e, cs⟩⟩⟩
  · rfl
  · rfl
  · exact absurd rfl h
  · rfl

theorem term_of_rootCause {t : Term} {cause : CompileError} (h : RootCause s t cause) :
    term s t = .error cause := by
  cases h with
  | null => rfl
  | object entries => rfl
  | var name => rfl
  | number hinvalid => simp [term, hinvalid]
  | path he => simp only [term, reference, he]
  | noResolvers hpath hnone => simp only [term, reference, hpath, hnone]
  | unresolved hpath hrs hnone => simp only [term, reference, hpath, hrs, hnone]
  | emptyCall => rfl
  | unnamed hnone => simp only [term, call, operator, hnone]
  | unknown hname hunknown =>
    have hof : Operator.ofName? _ = none :=
      Option.eq_none_iff_forall_ne_some.2 fun op hop => hunknown (mem_operatorNames.2 ⟨op, hop⟩)
    simp only [term, call, operator, hname, hof]
  | @arity op arguments name hname hknown hlength =>
    obtain ⟨known, hop⟩ := operator_of_mem hname hknown
    have hterms : (terms s arguments).length = arguments.length := by simp [terms_eq]
    simp only [term, call, hop]
    rw [applied_of_length_ne known (hterms ▸ hlength), hterms]

/-- **What fails gives the error that it fails with.** -/
theorem term_of_failsAt {t : Term} {inner : List Term} {cause : CompileError}
    (h : FailsAt s t inner cause) : term s t = .error (within inner cause) := by
  induction h with
  | here hcause => exact term_of_rootCause hcause
  | array hbefore _ ih =>
    exact term_array_of_error (fun b hb => term_of_convertible (hbefore b hb)) ih
  | set hes hbefore _ ih =>
    rw [term_set, hes]
    exact term_array_of_error (fun b hb => term_of_convertible (hbefore b hb)) ih
  | left hname hknown _ ih =>
    obtain ⟨known, hop⟩ := operator_of_mem hname hknown
    simp only [term, call, hop, terms, applied, ih]
    rfl
  | right hname hknown hl _ ih =>
    obtain ⟨known, hop⟩ := operator_of_mem hname hknown
    obtain ⟨left, hleft⟩ := term_of_convertible hl
    simp only [term, call, hop, terms, applied, hleft, ih]
    rfl

/-- Whether what a term compiles to is true or false shows in the term. -/
theorem isBoolean_iff {t : Term} {n : Node} (hn : term s t = .ok n) :
    n.isBoolean = true ↔ HasTruth s t := by
  cases t with
  | boolean b =>
    cases hn
    simp [HasTruth, Node.isBoolean, Node.kind]
  | number text =>
    rw [term] at hn
    split at hn
    · cases hn
      simp [HasTruth, Node.isBoolean, Node.kind]
    · cases hn
  | string value =>
    cases hn
    simp [HasTruth, Node.isBoolean, Node.kind]
  | ref segments =>
    obtain ⟨sql, type, scope, rfl, -⟩ := isColumn_of_reference hn
    have hleads := leadsTo_of_reference hn
    constructor
    · intro hboolean
      cases scope with
      | anyElement => cases hboolean
      | whole =>
        cases type with
        | boolean => exact ⟨sql, hleads⟩
        | _ => cases hboolean
    · rintro ⟨sql', hleads'⟩
      cases hn.symm.trans (reference_of_leadsTo hleads')
      rfl
  | array es =>
    obtain ⟨source, ns, rfl, -⟩ := term_array_eq_ok hn
    simp [HasTruth, Node.isBoolean, Node.kind]
  | set es =>
    rw [term_set] at hn
    obtain ⟨source, ns, rfl, -⟩ := term_array_eq_ok hn
    simp [HasTruth, Node.isBoolean, Node.kind]
  | call ts =>
    obtain ⟨_, _, _, _, op, _, _, _, _, _, _, _, rfl⟩ := call_eq_ok hn
    cases op <;> simp [HasTruth, Node.isBoolean, Node.kind, Operator.apply]
  | null => cases hn
  | var name => cases hn
  | object entries => cases hn

/-! ## Expressions -/

variable (s) in
/-- **Which expressions compile**: those without negation whose condition compiles to something true
or false. -/
structure Accepted (e : Expression) : Prop where
  negated : e.negated = false
  convertible : Convertible s e.condition.asserted
  hasTruth : HasTruth s e.condition.asserted

variable (s) in
/-- **Why and where an expression fails.** -/
inductive RejectedAt (e : Expression) : List Term → CompileError → Prop
  | negated (hnegated : e.negated = true) : RejectedAt e [] (.unsupported "negated expression")
  | condition {inner : List Term} {cause : CompileError} (hnegated : e.negated = false)
      (hcondition : FailsAt s e.condition.asserted inner cause) : RejectedAt e inner cause
  | notBoolean (hnegated : e.negated = false) (hconvertible : Convertible s e.condition.asserted)
      (htruth : ¬ HasTruth s e.condition.asserted) : RejectedAt e [] (.notBoolean e.text)

theorem accepted_or_rejectedAt (e : Expression) :
    Accepted s e ∨ ∃ inner cause, RejectedAt s e inner cause := by
  cases hnegated : e.negated with
  | true => exact .inr ⟨[], _, .negated hnegated⟩
  | false =>
    rcases convertible_or_failsAt e.condition.asserted with hconvertible | ⟨inner, cause, hfails⟩
    · by_cases htruth : HasTruth s e.condition.asserted
      · exact .inl ⟨hnegated, hconvertible, htruth⟩
      · exact .inr ⟨[], _, .notBoolean hnegated hconvertible htruth⟩
    · exact .inr ⟨inner, cause, .condition hnegated hfails⟩

theorem expression_of_accepted {e : Expression} (h : Accepted s e) :
    ∃ n, expression s e = .ok n ∧ condition s e.condition = .ok n := by
  obtain ⟨n, hn⟩ := term_of_convertible h.convertible
  have hboolean := (isBoolean_iff hn).2 h.hasTruth
  rw [← condition_eq] at hn
  exact ⟨n, by simp [expression_eq, h.negated, hn, hboolean], hn⟩

theorem expression_of_rejectedAt {e : Expression} {inner : List Term} {cause : CompileError}
    (h : RejectedAt s e inner cause) : expression s e = .error (within inner cause) := by
  rw [expression_eq, condition_eq]
  cases h with
  | negated hnegated => rw [if_pos hnegated]; rfl
  | condition hnegated hcondition => simp [hnegated, term_of_failsAt hcondition]
  | notBoolean hnegated hconvertible htruth =>
    obtain ⟨n, hn⟩ := term_of_convertible hconvertible
    have hboolean : ¬ n.isBoolean = true := fun hn' => htruth ((isBoolean_iff hn).1 hn')
    simp [hnegated, hn, hboolean, within]

/-! ## Residuals -/

theorem expressions_cons_ok (e : Expression) (es : List Expression) (n : Node)
    (h : expression s e = .ok n) :
    expressions s (e :: es) = (expressions s es).map (n :: ·) := by
  simp only [expressions, h]

theorem expressions_cons_error (e : Expression) (es : List Expression) (err : CompileError)
    (h : expression s e = .error err) :
    expressions s (e :: es) = .error (.inExpression e.text err) := by
  simp only [expressions, h]

theorem queries_cons_ok (q : Query) (qs : List Query) (n : Node) (h : query s q = .ok n) :
    queries s (q :: qs) = (queries s qs).map (n :: ·) := by
  simp only [queries, h]

theorem queries_cons_error (q : Query) (qs : List Query) (err : CompileError)
    (h : query s q = .error err) : queries s (q :: qs) = .error (.inQuery q.text err) := by
  simp only [queries, h]

theorem query_of_accepted {q : Query} (h : ∀ e ∈ q, Accepted s e) : ∃ n, query s q = .ok n := by
  have hq : ∀ e ∈ q, ∃ n, expression s e = .ok n := fun e he =>
    (expression_of_accepted (h e he)).imp fun _ hn => hn.1
  obtain ⟨ns, hns⟩ := exists_ok_of_traversal _ (expressions s) rfl expressions_cons_ok hq
  exact ⟨.conjunction q.text ns, by rw [query, hns]; rfl⟩

/-- A query fails with its first expression that is rejected. -/
theorem query_of_rejectedAt {before after : List Expression} {e : Expression} {inner : List Term}
    {cause : CompileError} (hbefore : ∀ b ∈ before, Accepted s b)
    (he : RejectedAt s e inner cause) :
    query s (before ++ e :: after) = .error (.inExpression e.text (within inner cause)) := by
  have hok : ∀ b ∈ before, ∃ n, expression s b = .ok n := fun b hb =>
    (expression_of_accepted (hbefore b hb)).imp fun _ hn => hn.1
  have hexpressions : expressions s (before ++ e :: after) =
      .error (.inExpression e.text (within inner cause)) :=
    error_of_traversal _ (fun e => .inExpression e.text) _ expressions_cons_ok
      expressions_cons_error hok (expression_of_rejectedAt he)
  rw [query, hexpressions]
  rfl

theorem predicate_of_ne_nil {r : Residual} (hne : r ≠ []) (hempty : [] ∉ r) :
    predicate s r = (queries s r).map (.disjunction r.text) := by
  have hany : ¬ r.any List.isEmpty = true := by
    simpa [List.any_eq_true] using hempty
  rw [predicate, if_neg (by simpa using hne), if_neg hany]

theorem predicate_of_accepted {r : Residual}
    (h : r = [] ∨ [] ∈ r ∨ ∀ q ∈ r, ∀ e ∈ q, Accepted s e) : ∃ n, predicate s r = .ok n := by
  by_cases hne : r = []
  · exact ⟨.boolean false, by rw [hne]; rfl⟩
  by_cases hempty : [] ∈ r
  · have hany : r.any List.isEmpty = true := List.any_eq_true.2 ⟨[], hempty, rfl⟩
    exact ⟨.boolean true, by rw [predicate, if_neg (by simpa using hne), if_pos hany]⟩
  have haccepted := (h.resolve_left hne).resolve_left hempty
  obtain ⟨ns, hns⟩ := exists_ok_of_traversal _ (queries s) rfl queries_cons_ok
    fun q hq => query_of_accepted (haccepted q hq)
  exact ⟨_, by rw [predicate_of_ne_nil hne hempty, hns]; rfl⟩

/-- A residual without empty queries fails with the first of its queries that fails. -/
theorem predicate_of_rejectedAt {before after : List Query} {es fs : List Expression}
    {e : Expression} {inner : List Term} {cause : CompileError}
    (hempty : [] ∉ before ++ (es ++ e :: fs) :: after)
    (hbefore : ∀ q ∈ before, ∀ e ∈ q, Accepted s e) (hes : ∀ e ∈ es, Accepted s e)
    (he : RejectedAt s e inner cause) :
    predicate s (before ++ (es ++ e :: fs) :: after) =
      .error (.inQuery (Query.text (es ++ e :: fs))
        (.inExpression e.text (within inner cause))) := by
  have hqueries : queries s (before ++ (es ++ e :: fs) :: after) = _ :=
    error_of_traversal _ (fun q => .inQuery (Query.text q)) _ queries_cons_ok queries_cons_error
      (fun q hq => query_of_accepted (hbefore q hq)) (query_of_rejectedAt hes he)
  rw [predicate_of_ne_nil (by simp) hempty, hqueries]
  rfl

/-- The first expression of a residual that is rejected, if there is one. -/
theorem accepted_or_rejected (r : Residual) :
    (∀ q ∈ r, ∀ e ∈ q, Accepted s e) ∨
    ∃ before q after es e fs inner cause, r = before ++ q :: after ∧
      (∀ p ∈ before, ∀ e ∈ p, Accepted s e) ∧ q = es ++ e :: fs ∧ (∀ e ∈ es, Accepted s e) ∧
      RejectedAt s e inner cause := by
  rcases forall_or_exists_first fun q (_ : q ∈ r) =>
      forall_or_exists_first fun e (_ : e ∈ q) => accepted_or_rejectedAt (s := s) e with
    hall | ⟨before, q, after, hr, hbefore, es, e, fs, hq, hes, inner, cause, he⟩
  · exact .inl hall
  · exact .inr ⟨before, q, after, es, e, fs, inner, cause, hr, hbefore, hq, hes, he⟩

theorem rootCause_within (inner : List Term) (cause : CompileError) :
    (within inner cause).rootCause = cause.rootCause := by
  induction inner with
  | nil => rfl
  | cons t inner ih => exact ih

theorem FailsAt.rootCause {t : Term} {inner : List Term} {cause : CompileError}
    (h : FailsAt s t inner cause) : cause.rootCause = cause := by
  induction h with
  | here hcause => cases hcause <;> rfl
  | array _ _ ih => exact ih
  | set _ _ _ ih => exact ih
  | left _ _ _ ih => exact ih
  | right _ _ _ _ ih => exact ih

theorem RejectedAt.rootCause {e : Expression} {inner : List Term} {cause : CompileError}
    (h : RejectedAt s e inner cause) : cause.rootCause = cause := by
  cases h with
  | negated _ => rfl
  | condition _ hcondition => exact hcondition.rootCause
  | notBoolean _ _ _ => rfl

theorem predicate_isOk_iff (r : Residual) :
    (∃ n, predicate s r = .ok n) ↔ r = [] ∨ [] ∈ r ∨ ∀ q ∈ r, ∀ e ∈ q, Accepted s e := by
  refine ⟨fun ⟨n, hn⟩ => ?_, predicate_of_accepted⟩
  by_cases hempty : [] ∈ r
  · exact .inr (.inl hempty)
  rcases accepted_or_rejected r with
    hall | ⟨before, q, after, es, e, fs, inner, cause, rfl, hbefore, rfl, hes, he⟩
  · exact .inr (.inr hall)
  · cases hn.symm.trans (predicate_of_rejectedAt hempty hbefore hes he)

/-- Unless it is true or false outright, a predicate has the shape of its residual. -/
theorem forall₂_of_predicate {r : Residual} {n : Node} (hne : r ≠ []) (hempty : [] ∉ r)
    (hn : predicate s r = .ok n) : ∃ ns, n = .disjunction r.text ns ∧
      List.Forall₂ (fun q m => ∃ ms, m = .conjunction (Query.text q) ms ∧
        List.Forall₂ (fun e k => condition s e.condition = .ok k) q ms) r ns := by
  rcases predicate_eq_ok hn with ⟨hnil, -⟩ | ⟨hmem, -⟩ | ⟨ns, rfl, hns⟩
  · exact absurd hnil hne
  · exact absurd hmem hempty
  · refine ⟨ns, rfl, hns.imp fun q m hm => ?_⟩
    obtain ⟨ms, rfl, hms⟩ := query_eq_ok hm
    exact ⟨ms, rfl, hms.imp fun e k hk => (expression_eq_ok hk).2.1⟩

/-- **Compilation accepts the residuals that are supported, and reports the first failure of the
others.**  A residual has a predicate if it has no queries, an empty one, or only expressions that
are accepted.  Unless it is true or false outright, the predicate is the disjunction of the queries
in their order, each the conjunction of its expressions in theirs.  An error names the first query
and the first of its expressions that fails, then the terms inside of each other that the failure
lies in, and the root cause. -/
theorem predicate_accepts (s : Settings) (r : Residual) :
    ((∃ n, predicate s r = .ok n) ↔ r = [] ∨ [] ∈ r ∨ ∀ q ∈ r, ∀ e ∈ q, Accepted s e) ∧
    (r ≠ [] → [] ∉ r → ∀ n, predicate s r = .ok n → ∃ ns, n = .disjunction r.text ns ∧
      List.Forall₂ (fun q m => ∃ ms, m = .conjunction (Query.text q) ms ∧
        List.Forall₂ (fun e k => condition s e.condition = .ok k) q ms) r ns) ∧
    ∀ err, predicate s r = .error err ↔ [] ∉ r ∧
      ∃ (before : List Query) (q : Query) (after : List Query) (es : List Expression)
        (e : Expression) (fs : List Expression) (inner : List Term) (cause : CompileError),
        r = before ++ q :: after ∧ (∀ p ∈ before, ∀ e ∈ p, Accepted s e) ∧
        q = es ++ e :: fs ∧ (∀ e ∈ es, Accepted s e) ∧ RejectedAt s e inner cause ∧
        err = .inQuery q.text (.inExpression e.text (within inner cause)) ∧
        err.rootCause = cause := by
  refine ⟨predicate_isOk_iff r, fun hne hempty n => forall₂_of_predicate hne hempty, fun err => ?_⟩
  constructor
  · intro herr
    -- What fails is not accepted for any of the three reasons.
    have hnot : ¬ (r = [] ∨ [] ∈ r ∨ ∀ q ∈ r, ∀ e ∈ q, Accepted s e) := by
      rw [← predicate_isOk_iff]
      rintro ⟨n, hn⟩
      cases herr.symm.trans hn
    have hempty : [] ∉ r := fun hmem => hnot (.inr (.inl hmem))
    rcases accepted_or_rejected r with
      hall | ⟨before, q, after, es, e, fs, inner, cause, rfl, hbefore, rfl, hes, he⟩
    · exact absurd (.inr (.inr hall)) hnot
    · obtain rfl : _ = err := Except.error.inj
        ((predicate_of_rejectedAt hempty hbefore hes he).symm.trans herr)
      exact ⟨hempty, before, _, after, es, e, fs, inner, cause, rfl, hbefore, rfl, hes, he, rfl,
        (rootCause_within inner cause).trans he.rootCause⟩
  · rintro ⟨hempty, before, q, after, es, e, fs, inner, cause, rfl, hbefore, rfl, hes, he, rfl, -⟩
    exact predicate_of_rejectedAt hempty hbefore hes he

end Compile

end RowFilter
