import RowFilter.Proofs.Sql.Grammar

/-!
# Reading conditions

`read` reads the lexemes of a condition one after the other.  It keeps, for every bracket that is
still open, the parts that are complete and the comparison that it is in the middle of; the order in
which a sign completes what stands before it is the precedence of the grammar.

The reader accepts exactly what the grammar derives (`read_eq_some_iff`).  Since it is a function,
this also says that the grammar is unambiguous: no list of lexemes is the condition of two trees.

* `Derives.taken` — whatever a phrase derives, the reader takes it and completes the phrase's trees.
* `Reader.Covers` — the invariant behind the converse: what has been read so far is made of phrases
  that the grammar derives, and of the signs and brackets between them.
-/

set_option autoImplicit false

namespace RowFilter.Sql

/-! ## The reader -/

/-- What has been read of the comparison that the reader is in. -/
inductive Pending where
  /-- Nothing yet. -/
  | nothing
  /-- An operand, which may be all there is. -/
  | operand (e : Expr)
  /-- An operand and the sign of an equality. -/
  | equating (e : Expr) (negate : Bool)
  /-- An operand and the sign of an overlap. -/
  | overlapping (e : Expr)
  /-- A comparison with both its operands. -/
  | comparison (e : Expr)

/-- The expression that is complete as it stands. -/
def Pending.complete : Pending → Option Expr
  | operand e => some e
  | comparison e => some e
  | _ => none

/-- What has been read of a condition. -/
structure Context where
  /-- The disjuncts that an `OR` has ended. -/
  disjuncts : List Expr := []
  /-- The conjuncts of the current disjunct that an `AND` has ended. -/
  conjuncts : List Expr := []
  /-- The current comparison. -/
  pending : Pending := .nothing

namespace Context

/-- The context after an operand, where one can stand. -/
def operand (c : Context) (e : Expr) : Option Context :=
  match c.pending with
  | .nothing => some { c with pending := .operand e }
  | .equating l negate => some { c with pending := .comparison (.compare negate l e) }
  | .overlapping l => some { c with pending := .comparison (.overlap l e) }
  | _ => none

/-- Whether an operand can stand next. -/
def isReady (c : Context) : Bool :=
  match c.pending with
  | .nothing => true
  | .equating _ _ => true
  | .overlapping _ => true
  | _ => false

/-- The context after the sign of an equality. -/
def equality (c : Context) (negate : Bool) : Option Context :=
  match c.pending with
  | .operand e => some { c with pending := .equating e negate }
  | _ => none

/-- The context after the sign of an overlap. -/
def overlap (c : Context) : Option Context :=
  match c.pending with
  | .operand e => some { c with pending := .overlapping e }
  | _ => none

/-- The context after an array that stands between the parentheses of `ANY`. -/
def anyOf (c : Context) (e : Expr) : Option Context :=
  match c.pending with
  | .equating l negate => some { c with pending := .comparison (.compareAny negate l e) }
  | _ => none

/-- Whether `ANY` can stand next. -/
def isEquating (c : Context) : Bool :=
  match c.pending with
  | .equating _ _ => true
  | _ => false

/-- The context after `AND`. -/
def and (c : Context) : Option Context :=
  c.pending.complete.map fun e => { c with conjuncts := c.conjuncts ++ [e], pending := .nothing }

/-- The context after `OR`. -/
def or (c : Context) : Option Context :=
  c.pending.complete.map fun e =>
    { disjuncts := c.disjuncts ++ [.allOf (c.conjuncts ++ [e])] }

/-- The condition, if it can end here. -/
def finish (c : Context) : Option Expr :=
  c.pending.complete.map fun e => .oneOf (c.disjuncts ++ [.allOf (c.conjuncts ++ [e])])

/-- Whether nothing has been read. -/
def isFresh (c : Context) : Bool :=
  match c with
  | ⟨[], [], .nothing⟩ => true
  | _ => false

end Context

/-- What an open bracket encloses. -/
inductive Bracket where
  /-- A condition, as an operand. -/
  | paren
  /-- The array of `ANY`. -/
  | any
  /-- The elements of an array, with those that a comma has ended. -/
  | array (elements : List Expr)

/-- How far a condition has been read. -/
structure Reader where
  /-- The condition inside of the innermost open bracket. -/
  current : Context := {}
  /-- The open brackets, the innermost first, each with the condition around it. -/
  outer : List (Bracket × Context) := []

namespace Reader

/-- The reader inside of a bracket that has just been opened. -/
def enter (r : Reader) (b : Bracket) : Reader :=
  { outer := (b, r.current) :: r.outer }

/-- The reader after a closing parenthesis. -/
def closeParen (r : Reader) : Option Reader :=
  match r.outer with
  | (.paren, c) :: outer =>
    r.current.finish.bind fun e => (c.operand e).map fun c' => { current := c', outer }
  | (.any, c) :: outer =>
    r.current.finish.bind fun e => (c.anyOf e).map fun c' => { current := c', outer }
  | _ => none

/-- The reader after a comma. -/
def comma (r : Reader) : Option Reader :=
  match r.outer with
  | (.array es, c) :: outer =>
    r.current.finish.map fun e => { outer := (.array (es ++ [e]), c) :: outer }
  | _ => none

/-- The reader after the closing bracket of an array. -/
def closeArray (r : Reader) : Option Reader :=
  match r.outer with
  | (.array es, c) :: outer =>
    if es.isEmpty && r.current.isFresh then
      (c.operand (.array [])).map fun c' => { current := c', outer }
    else
      r.current.finish.bind fun e =>
        (c.operand (.array (es ++ [e]))).map fun c' => { current := c', outer }
  | _ => none

/-- The reader after one more lexeme, if it can stand there. -/
def step (r : Reader) : Lexeme → Option Reader
  | .boolean b => (r.current.operand (.boolean b)).map ({ r with current := · })
  | .string s => (r.current.operand (.string s)).map ({ r with current := · })
  | .number t => (r.current.operand (.number t)).map ({ r with current := · })
  | .column t => (r.current.operand (.column t)).map ({ r with current := · })
  | .equality negate => (r.current.equality negate).map ({ r with current := · })
  | .overlap => r.current.overlap.map ({ r with current := · })
  | .and => r.current.and.map ({ r with current := · })
  | .or => r.current.or.map ({ r with current := · })
  | .openParen => if r.current.isReady then some (r.enter .paren) else none
  | .openArray => if r.current.isReady then some (r.enter (.array [])) else none
  | .openAny => if r.current.isEquating then some (r.enter .any) else none
  | .closeParen => r.closeParen
  | .comma => r.comma
  | .closeArray => r.closeArray

/-- The reader after some more lexemes. -/
def run (r : Reader) : List Lexeme → Option Reader
  | [] => some r
  | l :: ls => (r.step l).bind fun r' => r'.run ls

/-- The condition that has been read, if all brackets are closed. -/
def result (r : Reader) : Option Expr :=
  if r.outer.isEmpty then r.current.finish else none

end Reader

/-- **The condition that the lexemes spell**, if they spell one. -/
def read (ls : List Lexeme) : Option Expr :=
  (({} : Reader).run ls).bind Reader.result

/-! ## The reader takes what the grammar derives -/

namespace Reader

theorem run_append (r : Reader) (ls ms : List Lexeme) :
    r.run (ls ++ ms) = (r.run ls).bind fun r' => r'.run ms := by
  induction ls generalizing r with
  | nil => rfl
  | cons l ls ih =>
    rw [List.cons_append, run, run]
    cases r.step l with
    | none => rfl
    | some r' => exact ih r'

/-- Reading goes on with `ms` from where `ls` has led. -/
theorem run_append_of_eq_some {r r' : Reader} {ls : List Lexeme} (h : r.run ls = some r')
    (ms : List Lexeme) : r.run (ls ++ ms) = r'.run ms := by
  rw [run_append, h, Option.bind_some]

theorem run_cons_of_eq_some {r r' : Reader} {l : Lexeme} (h : r.step l = some r')
    (ls : List Lexeme) : r.run (l :: ls) = r'.run ls := by
  rw [run, h, Option.bind_some]

theorem run_singleton (r : Reader) (l : Lexeme) : r.run [l] = r.step l := by
  rw [run]
  cases r.step l <;> rfl

end Reader

theorem Context.isReady_of_operand {c c' : Context} {e : Expr} (h : c.operand e = some c') :
    c.isReady = true := by
  rw [Context.operand] at h
  rw [Context.isReady]
  split at h <;> simp_all

theorem Context.operand_of_nothing {c : Context} (h : c.pending = .nothing) (e : Expr) :
    c.operand e = some { c with pending := .operand e } := by
  rw [Context.operand, h]

/-- A context in which a condition can end is not a fresh one. -/
theorem Context.isFresh_of_finish {c : Context} {e : Expr} (h : c.finish = some e) :
    c.isFresh = false := by
  obtain ⟨ds, cs, p⟩ := c
  cases p with
  | nothing => simp [Context.finish, Pending.complete] at h
  | _ => cases ds <;> cases cs <;> rfl

/-- Where an operand may stand, an array may be opened. -/
theorem Reader.step_openArray {c c' : Context} {e : Expr} (h : c.operand e = some c')
    (outer : List (Bracket × Context)) :
    Reader.step ⟨c, outer⟩ .openArray = some ⟨{}, (.array [], c) :: outer⟩ := by
  simp [Reader.step, Context.isReady_of_operand h, Reader.enter]

/-- How the reader takes the lexemes of a phrase: whatever context it is in, it ends in one where
the phrase's expressions have been completed. -/
def Phrase.Taken (ls : List Lexeme) : Phrase → Prop
  | operand e => ∀ (c c' : Context) (outer : List (Bracket × Context)), c.operand e = some c' →
      Reader.run ⟨c, outer⟩ ls = some ⟨c', outer⟩
  | comparison e => ∀ (c : Context) (outer : List (Bracket × Context)), c.pending = .nothing →
      ∃ p : Pending, p.complete = some e ∧
        Reader.run ⟨c, outer⟩ ls = some ⟨{ c with pending := p }, outer⟩
  | conjuncts es => ∀ (c : Context) (outer : List (Bracket × Context)), c.pending = .nothing →
      ∃ (init : List Expr) (e : Expr) (p : Pending), es = init ++ [e] ∧ p.complete = some e ∧
        Reader.run ⟨c, outer⟩ ls =
          some ⟨{ c with conjuncts := c.conjuncts ++ init, pending := p }, outer⟩
  | disjuncts es => ∀ (ds : List Expr) (outer : List (Bracket × Context)),
      ∃ c : Context, c.finish = some (.oneOf (ds ++ es)) ∧
        Reader.run ⟨{ disjuncts := ds }, outer⟩ ls = some ⟨c, outer⟩
  | condition e => ∀ outer : List (Bracket × Context),
      ∃ c : Context, c.finish = some e ∧ Reader.run ⟨{}, outer⟩ ls = some ⟨c, outer⟩
  | elements es => ∀ (done : List Expr) (around : Context) (outer : List (Bracket × Context)),
      ∃ (init : List Expr) (e : Expr) (c : Context), es = init ++ [e] ∧ c.finish = some e ∧
        Reader.run ⟨{}, (.array done, around) :: outer⟩ ls =
          some ⟨c, (.array (done ++ init), around) :: outer⟩

/-- **The reader takes what the grammar derives.** -/
theorem Derives.taken {p : Phrase} {ls : List Lexeme} (h : Derives p ls) : p.Taken ls := by
  induction h with
  | boolean b => intro c c' outer hc; simp [Reader.run, Reader.step, hc]
  | string s => intro c c' outer hc; simp [Reader.run, Reader.step, hc]
  | number t => intro c c' outer hc; simp [Reader.run, Reader.step, hc]
  | column t => intro c c' outer hc; simp [Reader.run, Reader.step, hc]
  | parens _ ih =>
    intro c c' outer hc
    obtain ⟨inner, hfinish, hrun⟩ := ih ((.paren, c) :: outer)
    have hopen : Reader.step ⟨c, outer⟩ .openParen = some ⟨{}, (.paren, c) :: outer⟩ := by
      simp [Reader.step, Context.isReady_of_operand hc, Reader.enter]
    rw [Reader.run_cons_of_eq_some hopen, Reader.run_append_of_eq_some hrun, Reader.run_singleton]
    simp [Reader.step, Reader.closeParen, hfinish, hc]
  | emptyArray =>
    intro c c' outer hc
    rw [Reader.run_cons_of_eq_some (Reader.step_openArray hc outer), Reader.run_singleton]
    simp [Reader.step, Reader.closeArray, Context.isFresh, hc]
  | array _ ih =>
    intro c c' outer hc
    obtain ⟨init, e, inner, rfl, hfinish, hrun⟩ := ih [] c outer
    rw [Reader.run_cons_of_eq_some (Reader.step_openArray hc outer),
      Reader.run_append_of_eq_some hrun, Reader.run_singleton]
    simp [Reader.step, Reader.closeArray, Context.isFresh_of_finish hfinish, hfinish, hc]
  | element _ ih =>
    intro done around outer
    obtain ⟨c, hfinish, hrun⟩ := ih ((.array done, around) :: outer)
    exact ⟨[], _, c, rfl, hfinish, by rw [hrun, List.append_nil]⟩
  | moreElements _ _ ih ihs =>
    rename_i e es ls ms _ _
    intro done around outer
    obtain ⟨c, hfinish, hrun⟩ := ih ((.array done, around) :: outer)
    have hcomma : Reader.step ⟨c, (.array done, around) :: outer⟩ .comma =
        some ⟨{}, (.array (done ++ [e]), around) :: outer⟩ := by
      simp [Reader.step, Reader.comma, hfinish]
    obtain ⟨init, e', c', rfl, hfinish', hrun'⟩ := ihs (done ++ [e]) around outer
    refine ⟨e :: init, e', c', rfl, hfinish', ?_⟩
    rw [Reader.run_append_of_eq_some hrun, Reader.run_cons_of_eq_some hcomma, hrun']
    simp
  | bare _ ih =>
    intro c outer hc
    exact ⟨.operand _, rfl, ih c _ outer (Context.operand_of_nothing hc _)⟩
  | @compare negate l r ls ms _ _ ihl ihr =>
    intro c outer hc
    have hl := ihl c _ outer (Context.operand_of_nothing hc l)
    refine ⟨.comparison (.compare negate l r), rfl, ?_⟩
    rw [Reader.run_append_of_eq_some hl]
    exact ihr { c with pending := .equating l negate } _ outer rfl
  | @compareAny negate l r ls ms _ _ ihl ihr =>
    intro c outer hc
    have hl := ihl c _ outer (Context.operand_of_nothing hc l)
    obtain ⟨inner, hfinish, hrun⟩ :=
      ihr ((.any, { c with pending := .equating l negate }) :: outer)
    refine ⟨.comparison (.compareAny negate l r), rfl, ?_⟩
    rw [Reader.run_append_of_eq_some hl]
    show Reader.run ⟨{}, (.any, { c with pending := .equating l negate }) :: outer⟩
      (ms ++ [.closeParen]) = _
    rw [Reader.run_append_of_eq_some hrun, Reader.run_singleton]
    simp [Reader.step, Reader.closeParen, Context.anyOf, hfinish]
  | @overlap l r ls ms _ _ ihl ihr =>
    intro c outer hc
    have hl := ihl c _ outer (Context.operand_of_nothing hc l)
    refine ⟨.comparison (.overlap l r), rfl, ?_⟩
    rw [Reader.run_append_of_eq_some hl]
    exact ihr { c with pending := .overlapping l } _ outer rfl
  | conjunct _ ih =>
    intro c outer hc
    obtain ⟨p, hp, hrun⟩ := ih c outer hc
    exact ⟨[], _, p, rfl, hp, by rw [hrun, List.append_nil]⟩
  | @moreConjuncts e es ls ms _ _ ih ihs =>
    intro c outer hc
    obtain ⟨p, hp, hrun⟩ := ih c outer hc
    obtain ⟨init, e', p', rfl, hp', hrun'⟩ :=
      ihs { c with conjuncts := c.conjuncts ++ [e], pending := .nothing } outer rfl
    have hand : Reader.step ⟨{ c with pending := p }, outer⟩ .and =
        some ⟨{ c with conjuncts := c.conjuncts ++ [e], pending := .nothing }, outer⟩ := by
      simp [Reader.step, Context.and, hp]
    refine ⟨e :: init, e', p', rfl, hp', ?_⟩
    rw [Reader.run_append_of_eq_some hrun, Reader.run_cons_of_eq_some hand, hrun']
    simp
  | disjunct _ ih =>
    intro ds outer
    obtain ⟨init, e, p, rfl, hp, hrun⟩ := ih { disjuncts := ds } outer rfl
    exact ⟨_, by simp [Context.finish, hp], hrun⟩
  | @moreDisjuncts es ds' ls ms _ _ ih ihs =>
    intro ds outer
    obtain ⟨init, e, p, rfl, hp, hrun⟩ := ih { disjuncts := ds } outer rfl
    obtain ⟨c, hfinish, hrun'⟩ := ihs (ds ++ [.allOf (init ++ [e])]) outer
    refine ⟨c, by simpa using hfinish, ?_⟩
    rw [Reader.run_append_of_eq_some hrun, ← hrun']
    apply Reader.run_cons_of_eq_some
    simp [Reader.step, Context.or, hp]
  | condition _ ih => exact fun outer => ih [] outer

theorem Derives.read_eq_some {e : Expr} {ls : List Lexeme} (h : Derives (.condition e) ls) :
    read ls = some e := by
  obtain ⟨c, hfinish, hrun⟩ := h.taken []
  rw [read, hrun, Option.bind_some, Reader.result]
  exact hfinish

/-! ## The reader takes nothing else

What has been read is cut up along the state of the reader: into the parts that are complete, each
with the sign that ended it, into the brackets that are open, and into the current comparison. -/

/-- The lexemes are those of some parts, each with the sign that ended it. -/
inductive Ended (part : Expr → List Lexeme → Prop) (sign : Lexeme) :
    List Expr → List Lexeme → Prop
  | nil : Ended part sign [] []
  | snoc {es : List Expr} {e : Expr} {ls ms : List Lexeme}
      (hs : Ended part sign es ls) (h : part e ms) :
      Ended part sign (es ++ [e]) (ls ++ ms ++ [sign])

/-- A conjunct of a condition, that is, a comparison. -/
def IsConjunct (e : Expr) (ls : List Lexeme) : Prop :=
  Derives (.comparison e) ls

/-- A disjunct of a condition, that is, a chain of comparisons. -/
def IsDisjunct (e : Expr) (ls : List Lexeme) : Prop :=
  ∃ es, e = .allOf es ∧ Derives (.conjuncts es) ls

/-- An element of an array, that is, a condition. -/
def IsElement (e : Expr) (ls : List Lexeme) : Prop :=
  Derives (.condition e) ls

theorem Ended.eq_nil {part : Expr → List Lexeme → Prop} {sign : Lexeme} {ls : List Lexeme}
    (h : Ended part sign [] ls) : ls = [] := by
  generalize hes : ([] : List Expr) = es at h
  cases h with
  | nil => rfl
  | snoc => simp at hes

theorem Ended.conjuncts {cs es : List Expr} {ls ms : List Lexeme}
    (hc : Ended IsConjunct .and cs ls) (h : Derives (.conjuncts es) ms) :
    Derives (.conjuncts (cs ++ es)) (ls ++ ms) := by
  induction hc generalizing es ms with
  | nil => exact h
  | snoc _ he ih => simpa using ih (.moreConjuncts he h)

theorem Ended.disjuncts {ds es : List Expr} {ls ms : List Lexeme}
    (hd : Ended IsDisjunct .or ds ls) (h : Derives (.disjuncts es) ms) :
    Derives (.disjuncts (ds ++ es)) (ls ++ ms) := by
  induction hd generalizing es ms with
  | nil => exact h
  | snoc _ he ih =>
    obtain ⟨cs, rfl, hcs⟩ := he
    simpa using ih (.moreDisjuncts hcs h)

theorem Ended.elements {ds es : List Expr} {ls ms : List Lexeme}
    (hd : Ended IsElement .comma ds ls) (h : Derives (.elements es) ms) :
    Derives (.elements (ds ++ es)) (ls ++ ms) := by
  induction hd generalizing es ms with
  | nil => exact h
  | snoc _ he ih => simpa using ih (.moreElements he h)

/-- The lexemes are those of the current comparison as far as it goes. -/
def Pending.Covers (ls : List Lexeme) : Pending → Prop
  | nothing => ls = []
  | operand e => Derives (.operand e) ls
  | equating e negate => ∃ ms, Derives (.operand e) ms ∧ ls = ms ++ [.equality negate]
  | overlapping e => ∃ ms, Derives (.operand e) ms ∧ ls = ms ++ [.overlap]
  | comparison e => Derives (.comparison e) ls

theorem Pending.Covers.comparison_of_complete {p : Pending} {e : Expr} {ls : List Lexeme}
    (h : p.Covers ls) (he : p.complete = some e) : Derives (.comparison e) ls := by
  cases p with
  | operand e' => cases he; exact .bare h
  | comparison e' => cases he; exact h
  | _ => cases he

/-- The lexemes are those of a condition as far as it has been read. -/
def Context.Covers (c : Context) (ls : List Lexeme) : Prop :=
  ∃ ds cs ps, Ended IsDisjunct .or c.disjuncts ds ∧ Ended IsConjunct .and c.conjuncts cs ∧
    c.pending.Covers ps ∧ ls = ds ++ cs ++ ps

namespace Context

theorem covers_fresh : ({} : Context).Covers [] :=
  ⟨[], [], [], .nil, .nil, rfl, rfl⟩

/-- Only the current comparison has changed, from the lexemes `ps` to `ps ++ ms`. -/
theorem Covers.pending {c : Context} {ls ms : List Lexeme} {p : Pending} (h : c.Covers ls)
    (hp : ∀ ps, c.pending.Covers ps → p.Covers (ps ++ ms)) :
    Covers { c with pending := p } (ls ++ ms) := by
  obtain ⟨ds, cs, ps, hd, hc, hps, rfl⟩ := h
  exact ⟨ds, cs, ps ++ ms, hd, hc, hp ps hps, by simp⟩

theorem Covers.operand {c c' : Context} {e : Expr} {ls ms : List Lexeme} (h : c.Covers ls)
    (he : Derives (.operand e) ms) (hc : c.operand e = some c') : c'.Covers (ls ++ ms) := by
  rw [Context.operand] at hc
  split at hc
  · next hn =>
    cases hc
    refine h.pending fun ps hps => ?_
    rw [hn] at hps
    cases hps
    exact he
  · next l negate hn =>
    cases hc
    refine h.pending fun ps hps => ?_
    rw [hn] at hps
    obtain ⟨ns, hl, rfl⟩ := hps
    have hcompare : Derives (.comparison (.compare negate l e)) (ns ++ .equality negate :: ms) :=
      .compare hl he
    simpa [Pending.Covers] using hcompare
  · next l hn =>
    cases hc
    refine h.pending fun ps hps => ?_
    rw [hn] at hps
    obtain ⟨ns, hl, rfl⟩ := hps
    simpa [Pending.Covers] using Derives.overlap hl he
  · cases hc

theorem Covers.anyOf {c c' : Context} {e : Expr} {ls ms : List Lexeme} (h : c.Covers ls)
    (he : Derives (.condition e) ms) (hc : c.anyOf e = some c') :
    c'.Covers (ls ++ .openAny :: (ms ++ [.closeParen])) := by
  rw [Context.anyOf] at hc
  split at hc
  · next l negate hn =>
    cases hc
    refine h.pending fun ps hps => ?_
    rw [hn] at hps
    obtain ⟨ns, hl, rfl⟩ := hps
    have hcompare : Derives (.comparison (.compareAny negate l e))
        (ns ++ .equality negate :: .openAny :: (ms ++ [.closeParen])) := .compareAny hl he
    simpa [Pending.Covers] using hcompare
  · cases hc

theorem Covers.equality {c c' : Context} {negate : Bool} {ls : List Lexeme} (h : c.Covers ls)
    (hc : c.equality negate = some c') : c'.Covers (ls ++ [.equality negate]) := by
  rw [Context.equality] at hc
  split at hc
  · next e hn =>
    cases hc
    refine h.pending fun ps hps => ?_
    rw [hn] at hps
    exact ⟨ps, hps, rfl⟩
  · cases hc

theorem Covers.overlap {c c' : Context} {ls : List Lexeme} (h : c.Covers ls)
    (hc : c.overlap = some c') : c'.Covers (ls ++ [.overlap]) := by
  rw [Context.overlap] at hc
  split at hc
  · next e hn =>
    cases hc
    refine h.pending fun ps hps => ?_
    rw [hn] at hps
    exact ⟨ps, hps, rfl⟩
  · cases hc

theorem Covers.and {c c' : Context} {ls : List Lexeme} (h : c.Covers ls)
    (hc : c.and = some c') : c'.Covers (ls ++ [.and]) := by
  obtain ⟨ds, cs, ps, hds, hcs, hps, rfl⟩ := h
  obtain ⟨e, he, rfl⟩ := Option.map_eq_some_iff.1 hc
  refine ⟨ds, cs ++ ps ++ [.and], [], hds, hcs.snoc (hps.comparison_of_complete he), rfl, ?_⟩
  simp

/-- The comparisons since the last `OR` are a chain. -/
theorem Covers.disjunct {c : Context} {e : Expr} {cs ps : List Lexeme}
    (hcs : Ended IsConjunct .and c.conjuncts cs) (hps : c.pending.Covers ps)
    (he : c.pending.complete = some e) : Derives (.conjuncts (c.conjuncts ++ [e])) (cs ++ ps) :=
  hcs.conjuncts (.conjunct (hps.comparison_of_complete he))

theorem Covers.or {c c' : Context} {ls : List Lexeme} (h : c.Covers ls)
    (hc : c.or = some c') : c'.Covers (ls ++ [.or]) := by
  obtain ⟨ds, cs, ps, hds, hcs, hps, rfl⟩ := h
  obtain ⟨e, he, rfl⟩ := Option.map_eq_some_iff.1 hc
  refine ⟨ds ++ (cs ++ ps) ++ [.or], [], [], hds.snoc ⟨_, rfl, Covers.disjunct hcs hps he⟩, .nil,
    rfl, ?_⟩
  simp

theorem Covers.finish {c : Context} {e : Expr} {ls : List Lexeme} (h : c.Covers ls)
    (hc : c.finish = some e) : Derives (.condition e) ls := by
  obtain ⟨ds, cs, ps, hds, hcs, hps, rfl⟩ := h
  obtain ⟨e', he, rfl⟩ := Option.map_eq_some_iff.1 hc
  rw [List.append_assoc]
  exact .condition (hds.disjuncts (.disjunct (Covers.disjunct hcs hps he)))

theorem Covers.eq_nil_of_isFresh {c : Context} {ls : List Lexeme} (h : c.Covers ls)
    (hc : c.isFresh = true) : ls = [] := by
  obtain ⟨ds, cs, ps, hds, hcs, hps, rfl⟩ := h
  unfold Context.isFresh at hc
  split at hc
  · rw [hds.eq_nil, hcs.eq_nil, show ps = [] from hps]
    rfl
  · cases hc

end Context

/-- The lexemes are those of an open bracket and of the elements that have been ended in it. -/
def Bracket.Covers (ls : List Lexeme) : Bracket → Prop
  | paren => ls = [.openParen]
  | any => ls = [.openAny]
  | array es => ∃ ms, Ended IsElement .comma es ms ∧ ls = .openArray :: ms

/-- The lexemes are those before the innermost open bracket, and of the bracket itself. -/
def outerCovers : List (Bracket × Context) → List Lexeme → Prop
  | [], ls => ls = []
  | (b, c) :: outer, ls =>
    ∃ os cs bs, outerCovers outer os ∧ c.Covers cs ∧ b.Covers bs ∧ ls = os ++ cs ++ bs

/-- **The invariant of the reader**: the lexemes are exactly what has brought it where it is. -/
def Reader.Covers (r : Reader) (ls : List Lexeme) : Prop :=
  ∃ os cs, outerCovers r.outer os ∧ r.current.Covers cs ∧ ls = os ++ cs

namespace Reader

/-- Only the innermost condition has changed. -/
theorem Covers.current {r : Reader} {c : Context} {ls ms : List Lexeme} (h : r.Covers ls)
    (hc : ∀ cs, r.current.Covers cs → c.Covers (cs ++ ms)) :
    Covers { r with current := c } (ls ++ ms) := by
  obtain ⟨os, cs, hos, hcs, rfl⟩ := h
  exact ⟨os, cs ++ ms, hos, hc cs hcs, by simp⟩

theorem Covers.enter {r : Reader} {b : Bracket} {ls : List Lexeme} {l : Lexeme} (h : r.Covers ls)
    (hb : b.Covers [l]) : (r.enter b).Covers (ls ++ [l]) := by
  obtain ⟨os, cs, hos, hcs, rfl⟩ := h
  exact ⟨os ++ cs ++ [l], [], ⟨os, cs, [l], hos, hcs, hb, rfl⟩, Context.covers_fresh, by simp⟩

theorem Covers.closeParen {r r' : Reader} {ls : List Lexeme} (h : r.Covers ls)
    (hr : r.closeParen = some r') : r'.Covers (ls ++ [.closeParen]) := by
  obtain ⟨current, outer⟩ := r
  obtain ⟨os, cs, hos, hcs, rfl⟩ := h
  rw [Reader.closeParen] at hr
  split at hr
  · next c outer' heq =>
    cases heq
    obtain ⟨e, he, hr⟩ := Option.bind_eq_some_iff.1 hr
    obtain ⟨c', hc, rfl⟩ := Option.map_eq_some_iff.1 hr
    obtain ⟨os', cs', bs, hos', hcs', hbs, rfl⟩ := hos
    cases hbs
    exact ⟨os', cs' ++ .openParen :: (cs ++ [.closeParen]), hos',
      hcs'.operand (.parens (hcs.finish he)) hc, by simp⟩
  · next c outer' heq =>
    cases heq
    obtain ⟨e, he, hr⟩ := Option.bind_eq_some_iff.1 hr
    obtain ⟨c', hc, rfl⟩ := Option.map_eq_some_iff.1 hr
    obtain ⟨os', cs', bs, hos', hcs', hbs, rfl⟩ := hos
    cases hbs
    exact ⟨os', cs' ++ .openAny :: (cs ++ [.closeParen]), hos',
      hcs'.anyOf (hcs.finish he) hc, by simp⟩
  · cases hr

theorem Covers.comma {r r' : Reader} {ls : List Lexeme} (h : r.Covers ls)
    (hr : r.comma = some r') : r'.Covers (ls ++ [.comma]) := by
  obtain ⟨current, outer⟩ := r
  obtain ⟨os, cs, hos, hcs, rfl⟩ := h
  rw [Reader.comma] at hr
  split at hr
  · next es c outer' heq =>
    cases heq
    obtain ⟨e, he, rfl⟩ := Option.map_eq_some_iff.1 hr
    obtain ⟨os', cs', bs, hos', hcs', ⟨ms, hms, rfl⟩, rfl⟩ := hos
    refine ⟨_, [], ⟨os', cs', .openArray :: (ms ++ cs ++ [.comma]), hos', hcs',
      ⟨_, hms.snoc (hcs.finish he), rfl⟩, rfl⟩, Context.covers_fresh, by simp⟩
  · cases hr

theorem Covers.closeArray {r r' : Reader} {ls : List Lexeme} (h : r.Covers ls)
    (hr : r.closeArray = some r') : r'.Covers (ls ++ [.closeArray]) := by
  obtain ⟨current, outer⟩ := r
  obtain ⟨os, cs, hos, hcs, rfl⟩ := h
  rw [Reader.closeArray] at hr
  split at hr
  · next es c outer' heq =>
    cases heq
    obtain ⟨os', cs', bs, hos', hcs', ⟨ms, hms, rfl⟩, rfl⟩ := hos
    split at hr
    · next hfresh =>
      rw [Bool.and_eq_true, List.isEmpty_iff] at hfresh
      obtain ⟨rfl, hfresh⟩ := hfresh
      obtain ⟨c', hc, rfl⟩ := Option.map_eq_some_iff.1 hr
      rw [hms.eq_nil, hcs.eq_nil_of_isFresh hfresh]
      exact ⟨os', cs' ++ [.openArray, .closeArray], hos', hcs'.operand .emptyArray hc, by simp⟩
    · obtain ⟨e, he, hr⟩ := Option.bind_eq_some_iff.1 hr
      obtain ⟨c', hc, rfl⟩ := Option.map_eq_some_iff.1 hr
      have helements : Derives (.elements (es ++ [e])) (ms ++ cs) :=
        hms.elements (.element (hcs.finish he))
      exact ⟨os', cs' ++ .openArray :: (ms ++ cs ++ [.closeArray]), hos',
        hcs'.operand (.array helements) hc, by simp⟩
  · cases hr

/-- The invariant is kept by every lexeme. -/
theorem Covers.step {r r' : Reader} {ls : List Lexeme} {l : Lexeme} (h : r.Covers ls)
    (hr : r.step l = some r') : r'.Covers (ls ++ [l]) := by
  cases l with
  | boolean b =>
    obtain ⟨c, hc, rfl⟩ := Option.map_eq_some_iff.1 hr
    exact h.current fun cs hcs => hcs.operand (.boolean b) hc
  | string s =>
    obtain ⟨c, hc, rfl⟩ := Option.map_eq_some_iff.1 hr
    exact h.current fun cs hcs => hcs.operand (.string s) hc
  | number t =>
    obtain ⟨c, hc, rfl⟩ := Option.map_eq_some_iff.1 hr
    exact h.current fun cs hcs => hcs.operand (.number t) hc
  | column t =>
    obtain ⟨c, hc, rfl⟩ := Option.map_eq_some_iff.1 hr
    exact h.current fun cs hcs => hcs.operand (.column t) hc
  | equality negate =>
    obtain ⟨c, hc, rfl⟩ := Option.map_eq_some_iff.1 hr
    exact h.current fun cs hcs => hcs.equality hc
  | overlap =>
    obtain ⟨c, hc, rfl⟩ := Option.map_eq_some_iff.1 hr
    exact h.current fun cs hcs => hcs.overlap hc
  | and =>
    obtain ⟨c, hc, rfl⟩ := Option.map_eq_some_iff.1 hr
    exact h.current fun cs hcs => hcs.and hc
  | or =>
    obtain ⟨c, hc, rfl⟩ := Option.map_eq_some_iff.1 hr
    exact h.current fun cs hcs => hcs.or hc
  | openParen =>
    obtain ⟨_, ⟨⟩⟩ := Option.ite_none_right_eq_some.1 hr
    exact h.enter rfl
  | openArray =>
    obtain ⟨_, ⟨⟩⟩ := Option.ite_none_right_eq_some.1 hr
    exact h.enter ⟨[], .nil, rfl⟩
  | openAny =>
    obtain ⟨_, ⟨⟩⟩ := Option.ite_none_right_eq_some.1 hr
    exact h.enter rfl
  | closeParen => exact h.closeParen hr
  | comma => exact h.comma hr
  | closeArray => exact h.closeArray hr

theorem Covers.run {r r' : Reader} {ls ms : List Lexeme} (h : r.Covers ls)
    (hr : r.run ms = some r') : r'.Covers (ls ++ ms) := by
  induction ms generalizing r ls with
  | nil => cases hr; simpa using h
  | cons l ms ih =>
    obtain ⟨r1, hstep, hrun⟩ := Option.bind_eq_some_iff.1 hr
    simpa using ih (h.step hstep) hrun

end Reader

/-- **The reader accepts exactly what the grammar derives**, and reads it as the same tree. -/
theorem read_eq_some_iff {ls : List Lexeme} {e : Expr} :
    read ls = some e ↔ Derives (.condition e) ls := by
  refine ⟨fun h => ?_, Derives.read_eq_some⟩
  obtain ⟨r, hrun, hresult⟩ := Option.bind_eq_some_iff.1 h
  have hstart : ({} : Reader).Covers [] := ⟨[], [], rfl, Context.covers_fresh, rfl⟩
  obtain ⟨os, cs, hos, hcs, hls⟩ := hstart.run hrun
  obtain ⟨houter, hfinish⟩ := Option.ite_none_right_eq_some.1 hresult
  rw [List.isEmpty_iff] at houter
  rw [houter] at hos
  cases hos
  rw [List.nil_append, List.nil_append] at hls
  exact hls ▸ hcs.finish hfinish

end RowFilter.Sql
