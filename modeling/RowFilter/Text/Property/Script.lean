import RowFilter.Text.CharSet
import RowFilter.Text.Table.Age
import RowFilter.Text.Table.Script

/-!
# Scripts and versions

The characters of a script, the characters that texts in a script use, and the characters that exist
since a version of Unicode.

* `CharSet.script?` — the characters of the script of the given name.
* `CharSet.scriptExtension?` — the characters that texts in the script use.
* `CharSet.age?` — the characters of a version of Unicode.
-/

set_option autoImplicit false

namespace RowFilter.Text.CharSet

/-- **The characters of the script of the given name**, which is in lower case and has no signs that
part words. -/
def script? (name : String) : Option CharSet :=
  (Script.all.find? fun s => s.names.contains name).map fun s => ofTables [s.own]

/-- The characters that some script shares with others. -/
def shared (scripts : List Script) : CharSet :=
  ofTables (scripts.map Script.shared)

/-- **The characters that texts in the script of the given name use**: those of the script and those
it shares with others.  What is left for `common` and `inherited` are the characters that no script
shares. -/
def scriptExtension? (name : String) : Option CharSet :=
  (Script.all.find? fun s => s.names.contains name).map fun s =>
    if s = Script.common ∨ s = Script.inherited then diff (ofTables [s.own]) (shared Script.all)
    else ofTables [s.own, s.shared]

/-- The names of a version: its number, and its number behind a letter and without the point. -/
def ageNames (a : Age) : List String :=
  [a.version, String.ofList ('v' :: a.version.toList.filter (· != '.'))]

/-- The versions up to the one of the given name. -/
def agesUpTo (name : String) : List Age → Option (List Age)
  | [] => none
  | a :: rest => if (ageNames a).contains name then some [a] else (agesUpTo name rest).map (a :: ·)

/-- **The characters of the version of the given name**, those of all earlier ones included. -/
def age? (name : String) : Option CharSet :=
  (agesUpTo name Age.all).map fun ages => ofTables (ages.map Age.added)

end RowFilter.Text.CharSet
