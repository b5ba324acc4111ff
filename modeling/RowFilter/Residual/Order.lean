import RowFilter.Number.Binary64
import RowFilter.Number.Decimal96
import RowFilter.Residual.Query

/-!
# The order of terms

Terms are totally ordered: first by kind, then by content.  Sets are compared as the sorted lists
of their elements, at every depth, so that the order in which a set was written does not matter.

To compare two terms, both are brought into *canonical form*, in which the elements of every set are
sorted (`Term.canonical`), and canonical forms are compared part by part (`Term.compareParts`).

Number texts are compared by the double precision number nearest to them, then by their value as a
decimal number of 96 bits, and at last as texts.  A text that has no value by one of the criteria
comes before those that have one.  The last criterion makes two texts equal only if they are
spelled alike.

* `Number.compareTexts` — the order of number texts.
* `Term.cmp` — the order of terms.
* `Term.sorted` — a list of terms, sorted by it.
* `Term.same`, `Expression.same`, `Query.same`, `Residual.same` — equality up to the order of sets.
-/

set_option autoImplicit false

namespace RowFilter

namespace Number

/-- The exact value of the text as a decimal number of 96 bits, in units of its last place. -/
def decimalUnits (text : String) : Option Int :=
  (Decimal96.read text).map Decimal96.units

/-- The order of number texts. -/
def compareTexts (a b : String) : Ordering :=
  (compare (Binary64.read a) (Binary64.read b)).then
    ((compare (decimalUnits a) (decimalUnits b)).then (compare a b))

end Number

namespace Term

/-- The place of each kind of term in the order of kinds. -/
def rank : Term → Nat
  | null => 0
  | boolean _ => 1
  | number _ => 2
  | string _ => 3
  | var _ => 4
  | ref _ => 5
  | array _ => 6
  | object _ => 7
  | set _ => 8
  | call _ => 9

mutual

/-- Compares terms part by part, the elements of sets in the order they are written. -/
def compareParts : Term → Term → Ordering
  | null, null => .eq
  | boolean a, boolean b => compare a b
  | number a, number b => Number.compareTexts a b
  | string a, string b => compare a b
  | var a, var b => compare a b
  | ref a, ref b => compareLists a b
  | array a, array b => compareLists a b
  | object a, object b => compareEntries a b
  | set a, set b => compareLists a b
  | call a, call b => compareLists a b
  | a, b => compare a.rank b.rank

/-- Compares lists of terms lexicographically. -/
def compareLists : List Term → List Term → Ordering
  | [], [] => .eq
  | [], _ :: _ => .lt
  | _ :: _, [] => .gt
  | a :: as, b :: bs => (compareParts a b).then (compareLists as bs)

/-- Compares the entries of objects lexicographically, keys before values. -/
def compareEntries : List (Term × Term) → List (Term × Term) → Ordering
  | [], [] => .eq
  | [], _ :: _ => .lt
  | _ :: _, [] => .gt
  | (k, v) :: as, (l, w) :: bs =>
    ((compareParts k l).then (compareParts v w)).then (compareEntries as bs)

end

mutual

/-- The term with the elements of every set sorted. -/
def canonical : Term → Term
  | ref ts => ref (canonicalList ts)
  | array ts => array (canonicalList ts)
  | set ts => set ((canonicalList ts).mergeSort fun a b => (compareParts a b).isLE)
  | object es => object (canonicalEntries es)
  | call ts => call (canonicalList ts)
  | null => null
  | boolean b => boolean b
  | number n => number n
  | string s => string s
  | var x => var x

/-- Canonical forms of the terms of a list. -/
def canonicalList : List Term → List Term
  | [] => []
  | t :: ts => t.canonical :: canonicalList ts

/-- Canonical forms of keys and values. -/
def canonicalEntries : List (Term × Term) → List (Term × Term)
  | [] => []
  | (k, v) :: es => (k.canonical, v.canonical) :: canonicalEntries es

end

/-- **The order of terms.** -/
def cmp (a b : Term) : Ordering :=
  compareParts a.canonical b.canonical

/-- The terms from the smallest to the largest; equal ones keep their order. -/
def sorted (ts : List Term) : List Term :=
  ts.mergeSort fun a b => (cmp a b).isLE

/-- Equality up to the order in which sets are written. -/
def same (a b : Term) : Bool :=
  cmp a b == .eq

end Term

/-! ## Equality of residuals -/

/-- Whether two lists have the same length and agree part by part. -/
def agree {α : Type} (same : α → α → Bool) : List α → List α → Bool
  | [], [] => true
  | a :: as, b :: bs => same a b && agree same as bs
  | _, _ => false

/-- Equality of conditions up to the order of sets. -/
def Condition.same : Condition → Condition → Bool
  | .call as, .call bs => agree Term.same as bs
  | .term a, .term b => Term.same a b
  | _, _ => false

/-- Equality of expressions up to the order of sets. -/
def Expression.same (a b : Expression) : Bool :=
  a.condition.same b.condition && a.negated == b.negated

/-- Equality of queries up to the order of sets. -/
def Query.same (p q : Query) : Bool :=
  agree Expression.same p q

/-- Equality of residuals up to the order of sets. -/
def Residual.same (r s : Residual) : Bool :=
  agree Query.same r s

end RowFilter
