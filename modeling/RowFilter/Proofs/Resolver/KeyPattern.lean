import RowFilter.Proofs.Pattern.Substituting
import RowFilter.Proofs.Sql.Doubling
import RowFilter.Resolver.Projection

/-!
# Maps whose names are computed from a key

A map can be declared with a pattern that captures the key behind its path, and with a template that
puts the key between quotes, as in `input\.authors\.(.*)` and `authors->'$1'`.  The quotes of the
key have been doubled before, so that the key should stay inside of its literal.

It does as far as the first line feed: a dot does not stand for one, and what a pattern does not
match is kept.  What follows the first line of a key stands behind the literal.  The quotes of the
path are doubled as well, and then the pattern, in which they are not, is not found where it should
be.

* `Namer.byKey?` — the namer of a path and a name.
* `Namer.name_byKey` — what it makes of a text.
* `Namer.name_eq_literal_iff` — when the whole key becomes one literal.
* `Catalog.resolve_byKey` — what a catalog with such a namer makes of a key.
-/

set_option autoImplicit false

namespace RowFilter

open Pattern (firstLine furtherLines)
open Sql (Node doubleQuotes)

/-! ## Lines of a text with doubled quotes -/

namespace Sql

theorem firstLine_doubleQuotes (cs : List Char) :
    firstLine (doubleQuotes cs) = doubleQuotes (firstLine cs) := by
  induction cs with
  | nil => rfl
  | cons c cs ih =>
    by_cases hline : c = '\n'
    · subst hline
      rfl
    · rw [doubleQuotes_cons, Pattern.firstLine_cons, if_neg hline, doubleQuotes_cons]
      by_cases hquote : c = '\x27'
      · subst hquote
        exact congrArg (fun ds => '\x27' :: '\x27' :: ds) ih
      · rw [if_neg hquote, List.singleton_append, Pattern.firstLine_cons, if_neg hline, ih,
          List.singleton_append]

theorem furtherLines_doubleQuotes (cs : List Char) :
    furtherLines (doubleQuotes cs) = doubleQuotes (furtherLines cs) := by
  have hparts : doubleQuotes (firstLine cs) ++ furtherLines (doubleQuotes cs) =
      doubleQuotes (firstLine cs) ++ doubleQuotes (furtherLines cs) := by
    rw [← firstLine_doubleQuotes, Pattern.firstLine_append, firstLine_doubleQuotes,
      ← doubleQuotes_append, Pattern.firstLine_append]
  exact List.append_cancel_left hparts

end Sql

/-! ## Dotted paths -/

namespace Path

/-- What stands before a key in the dotted form of a path that ends with it. -/
def lead (path : Path) : List Char :=
  path.dotted.toList ++ ['.']

theorem lead_ne_nil (path : Path) : path.lead ≠ [] := by
  simp [lead]

theorem joined_concat {texts : List String} (h : texts ≠ []) (text : String) :
    Text.joined "." (texts ++ [text]) = Text.joined "." texts ++ "." ++ text := by
  induction texts with
  | nil => exact absurd rfl h
  | cons t ts ih =>
    cases ts with
    | nil => rfl
    | cons u us =>
      have hrest := ih (List.cons_ne_nil u us)
      rw [List.cons_append, List.cons_append, Text.joined_cons_cons, ← List.cons_append, hrest,
        Text.joined_cons_cons]
      simp only [String.append_assoc]

/-- A key stands behind the lead of its path. -/
theorem toList_dotted_concat {path : Path} (h : path ≠ []) (key : String) :
    (dotted (path ++ [Segment.field key])).toList = path.lead ++ key.toList := by
  have htexts : path.map Segment.text ≠ [] := by simpa using h
  rw [dotted, List.map_append]
  exact (congrArg String.toList (joined_concat htexts key)).trans (by simp [lead, dotted])

theorem joined_doubled (texts : List String) :
    Text.joined "." (texts.map Sql.doubled) = Sql.doubled (Text.joined "." texts) := by
  induction texts with
  | nil => rfl
  | cons t ts ih =>
    cases ts with
    | nil => rfl
    | cons u us =>
      rw [List.map_cons] at ih
      rw [List.map_cons, List.map_cons, Text.joined_cons_cons, ih, Text.joined_cons_cons,
        Sql.doubled_append, Sql.doubled_append]
      rfl

/-- The input of a pattern is the dotted path with its quotes doubled. -/
theorem patternInput_eq (path : Path) : Projection.patternInput path = Sql.doubled path.dotted := by
  rw [dotted, ← joined_doubled, List.map_map]
  rfl

end Path

/-! ## The namer -/

namespace Namer

/-- **The namer of a path by its keys**: the pattern captures what follows the path, and the
template puts it between quotes behind the name. -/
def byKey? (path : Path) (name : String) : Option Namer :=
  ofPattern? (String.ofList (Pattern.escaped path.dotted.toList) ++ "\\.(.*)") (name ++ "->'$1'")

theorem byKey?_eq (path : Path) (name : String) :
    byKey? path name =
      ofPattern? (String.ofList (Pattern.escaped path.lead ++ ['(', '.', '*', ')']))
        (String.ofList (name.toList ++ ['-', '>'] ++ ['\x27', '$', '1', '\x27'])) := by
  have hsource : String.ofList (Pattern.escaped path.dotted.toList) ++ "\\.(.*)" =
      String.ofList (Pattern.escaped path.lead ++ ['(', '.', '*', ')']) := by
    rw [Path.lead, Pattern.escaped_append, List.append_assoc, String.ofList_append]
    rfl
  have htemplate : name ++ "->'$1'" =
      String.ofList (name.toList ++ ['-', '>'] ++ ['\x27', '$', '1', '\x27']) := by
    rw [List.append_assoc, String.ofList_append, String.ofList_toList]
    rfl
  rw [byKey?, hsource, htemplate]

variable {path : Path} {name : String}

/-- The namer exists, unless the path is very long. -/
theorem exists_byKey (h : (Pattern.Encoding.ofChars path.lead).length ≤ 300000) :
    ∃ namer, byKey? path name = some namer := by
  rw [byKey?_eq, ofPattern?, Pattern.ofText?_lineAfter path.lead_ne_nil,
    if_pos (Pattern.fits_lineAfter h)]
  exact ⟨_, rfl⟩

/-- **What the namer makes of a text**: the first occurrence of the path gives way to the name, and
the line behind it is put between quotes. -/
theorem name_byKey {namer : Namer} (hnamer : byKey? path name = some namer)
    (hdollar : '$' ∉ name.toList) (text : String) :
    namer.name text =
      (Pattern.Escape.cutAt path.lead text.toList).map fun r =>
        String.ofList (r.1 ++
          (name.toList ++ ['-', '>'] ++ '\x27' :: (firstLine r.2 ++ ['\x27'])) ++
            furtherLines r.2) := by
  have htemplate : '$' ∉ name.toList ++ ['-', '>'] := by simpa using hdollar
  rw [byKey?_eq, ofPattern?, Pattern.ofText?_lineAfter path.lead_ne_nil] at hnamer
  obtain ⟨p, hp, rfl⟩ := Option.map_eq_some_iff.1 hnamer
  obtain ⟨_, ⟨⟩⟩ := Option.ite_none_right_eq_some.1 hp
  exact Pattern.replaceFirst_lineAfter path.lead_ne_nil rfl
    (Pattern.Regex.approach_dotted path.dotted.toList) htemplate text

end Namer

/-! ## Keys -/

section Key

variable {path : Path} {name : String} {namer : Namer}

/-- The pattern is found in front of the key, if the path has no quotes. -/
theorem Path.cutAt_lead (hpath : path ≠ []) (hquote : '\x27' ∉ path.dotted.toList) (key : String) :
    Pattern.Escape.cutAt path.lead (Sql.doubled (dotted (path ++ [Segment.field key]))).toList =
      some ([], doubleQuotes key.toList) := by
  have hlead : '\x27' ∉ path.lead := by simpa [lead] using hquote
  rw [Sql.doubled, String.toList_ofList, toList_dotted_concat hpath, Sql.doubleQuotes_append,
    Sql.doubleQuotes_of_notMem hlead, Pattern.cutAt_append path.lead_ne_nil]

/-- **The text of the column for a key**: the first line of the key is a literal, and what follows
stands behind it. -/
def Namer.keyText (name key : String) : String :=
  name ++ "->" ++ Sql.literal (String.ofList (firstLine key.toList)) ++
    Sql.doubled (String.ofList (furtherLines key.toList))

theorem Namer.name_key (hpath : path ≠ []) (hquote : '\x27' ∉ path.dotted.toList)
    (hnamer : byKey? path name = some namer) (hdollar : '$' ∉ name.toList) (key : String) :
    namer.name (Sql.doubled (Path.dotted (path ++ [Segment.field key]))) =
      some (keyText name key) := by
  rw [name_byKey hnamer hdollar, Path.cutAt_lead hpath hquote, Option.map_some, Option.some.injEq]
  apply String.toList_inj.1
  simp [keyText, Sql.toList_literal, Sql.doubled, Sql.firstLine_doubleQuotes,
    Sql.furtherLines_doubleQuotes]

/-- **All of the key is inside of the literal exactly if it has no line feed.** -/
theorem Namer.keyText_eq_iff (name key : String) :
    keyText name key = name ++ "->" ++ Sql.literal key ↔ '\n' ∉ key.toList := by
  constructor
  · intro h hline
    obtain ⟨rest, hrest⟩ := Pattern.furtherLines_of_mem hline
    -- Behind the first line stands a quote on one side and a line feed on the other.
    have hquoted : doubleQuotes key.toList =
        doubleQuotes (firstLine key.toList) ++ '\n' :: doubleQuotes rest := by
      conv_lhs => rw [← Pattern.firstLine_append key.toList, hrest]
      exact Sql.doubleQuotes_append _ _
    have hlists := congrArg String.toList h
    simp [keyText, hrest, Sql.toList_literal, Sql.doubled, hquoted] at hlists
  · intro hline
    rw [keyText, Pattern.firstLine_of_notMem hline, Pattern.furtherLines_of_notMem hline,
      String.ofList_toList]
    exact String.append_empty

/-- **A path with a quote in it spoils the column**: the pattern is not found where the path stands,
and what is kept in front of it has a quote that opens a literal. -/
theorem Namer.name_ne_of_quote (hpath : path ≠ []) (hquote : '\x27' ∈ path.dotted.toList)
    (hnamer : byKey? path name = some namer) (hdollar : '$' ∉ name.toList)
    (hname : '\x27' ∉ name.toList) (key : String) :
    namer.name (Sql.doubled (Path.dotted (path ++ [Segment.field key]))) ≠
      some (name ++ "->" ++ Sql.literal key) := by
  intro h
  rw [name_byKey hnamer hdollar] at h
  obtain ⟨⟨before, after⟩, hcut, htext⟩ := Option.map_eq_some_iff.1 h
  have hinput := Pattern.append_of_cutAt hcut
  obtain ⟨front, back, hdotted, hfront⟩ := List.eq_append_cons_of_mem hquote
  have hfound : front ++ '\x27' :: '\x27' :: doubleQuotes (back ++ '.' :: key.toList) =
      before ++ (front ++ '\x27' :: (back ++ '.' :: after)) := by
    rw [Sql.doubled, String.toList_ofList, Path.toList_dotted_concat hpath, Path.lead, hdotted]
      at hinput
    simpa [Sql.doubleQuotes_append, Sql.doubleQuotes_cons, Sql.doubleQuotes_of_notMem hfront]
      using hinput
  have hcode : '\x27' ∉ name.toList ++ ['-', '>'] := by simpa using hname
  have hlists := congrArg String.toList htext
  rw [String.toList_append, String.toList_append, Sql.toList_literal, String.toList_ofList,
    List.append_assoc, List.append_assoc] at hlists
  exact Sql.append_ne_literal (by decide) hfront hcode (by simp) hfound hlists

/-- **The whole key becomes one literal behind the name** exactly if the path has no quote and the
key no line feed. -/
theorem Namer.name_eq_literal_iff (hpath : path ≠ []) (hnamer : byKey? path name = some namer)
    (hdollar : '$' ∉ name.toList) (hname : '\x27' ∉ name.toList) (key : String) :
    namer.name (Sql.doubled (Path.dotted (path ++ [Segment.field key]))) =
        some (name ++ "->" ++ Sql.literal key) ↔
      '\x27' ∉ path.dotted.toList ∧ '\n' ∉ key.toList := by
  by_cases hquote : '\x27' ∈ path.dotted.toList
  · have hne := name_ne_of_quote hpath hquote hnamer hdollar hname key
    exact iff_of_false hne fun h => h.1 hquote
  · rw [name_key hpath hquote hnamer hdollar, Option.some.injEq, keyText_eq_iff]
    exact (and_iff_right hquote).symm

theorem Catalog.resolve_of_lookup {c : Catalog}
    (hnamer : Namer.byKey? path name = some namer) (key : String)
    (hlookup : c.lookup (path ++ [Segment.field key]) =
      some { declaration := { type := .map .string, namer }, matched := path,
             rest := [.field key] }) :
    c.resolve (path ++ [Segment.field key]) =
      (namer.name (Sql.doubled (Path.dotted (path ++ [Segment.field key])))).map fun sql =>
        .column sql .string .whole := by
  obtain ⟨p, _, rfl⟩ := Option.map_eq_some_iff.1 hnamer
  rw [Catalog.resolve, hlookup, ← Path.patternInput_eq]
  rfl

/-- **What becomes of a key behind a path that is named by its keys.**  The first place where the
pattern is found gives way to the name, with the line behind it between quotes.  All of the key is
in one literal exactly if the path has no quote and the key no line feed; if only the path is free
of quotes, then the first line is. -/
theorem Catalog.resolve_byKey {c : Catalog} (hpath : path ≠ [])
    (hnamer : Namer.byKey? path name = some namer)
    (hdollar : '$' ∉ name.toList) (hname : '\x27' ∉ name.toList) (key : String)
    (hlookup : c.lookup (path ++ [Segment.field key]) =
      some { declaration := { type := .map .string, namer }, matched := path,
             rest := [.field key] }) :
    (c.resolve (path ++ [Segment.field key]) =
      (Pattern.Escape.cutAt path.lead
        (Sql.doubled (Path.dotted (path ++ [Segment.field key]))).toList).map fun r =>
          .column (String.ofList (r.1 ++
            (name.toList ++ ['-', '>'] ++ '\x27' :: (firstLine r.2 ++ ['\x27'])) ++
              furtherLines r.2)) .string .whole) ∧
    ('\x27' ∉ path.dotted.toList →
      c.resolve (path ++ [Segment.field key]) =
        some (.column (Namer.keyText name key) .string .whole)) ∧
    (c.resolve (path ++ [Segment.field key]) =
        some (.column (name ++ "->" ++ Sql.literal key) .string .whole) ↔
      '\x27' ∉ path.dotted.toList ∧ '\n' ∉ key.toList) ∧
    Sql.cutLiterals (name ++ "->" ++ Sql.literal key).toList =
      some { outside := (name ++ "->").toList.map some ++ [none], literals := [key] } := by
  have hresolve := Catalog.resolve_of_lookup hnamer key hlookup
  refine ⟨?_, fun hquote => ?_, ?_, Sql.cutLiterals_code_literal ?_ key⟩
  · rw [hresolve, Namer.name_byKey hnamer hdollar, Option.map_map]
    rfl
  · rw [hresolve, Namer.name_key hpath hquote hnamer hdollar, Option.map_some]
  · rw [hresolve, ← Namer.name_eq_literal_iff hpath hnamer hdollar hname key]
    have hcolumn : Function.Injective fun sql => Node.column sql .string .whole :=
      fun _ _ h => (Node.column.inj h).1
    exact (Option.map_injective hcolumn).eq_iff (b := some (name ++ "->" ++ Sql.literal key))
  · simpa using hname

/-- The authors of a post. -/
def Path.authors : Path :=
  [.field "input", .field "post", .field "authors"]

/-- The authors by their names, as a map with a namer. -/
def Catalog.authors (namer : Namer) : Catalog :=
  (({} : Catalog).insert Path.authors { type := .map .string, namer }).2

theorem Namer.exists_authors : ∃ namer, byKey? Path.authors "authors" = some namer :=
  exists_byKey (by decide +kernel)

/-- A key with a quote in it stays inside of its literal. -/
theorem Catalog.resolve_byKey_authors :
    ∃ namer, Namer.byKey? Path.authors "authors" = some namer ∧
      (Catalog.authors namer).resolve (Path.authors ++ [Segment.field "it's"]) =
        some (.column "authors->'it''s'" .string .whole) := by
  obtain ⟨namer, hnamer⟩ := Namer.exists_authors
  have hkey := Catalog.resolve_byKey (c := Catalog.authors namer) (by decide) hnamer (by decide)
    (by decide) "it's" rfl
  exact ⟨namer, hnamer, hkey.2.2.1.2 (by decide)⟩

/-- A key of two lines does not: the second line is read as code. -/
theorem Catalog.resolve_two_lines :
    ∃ namer, Namer.byKey? Path.authors "authors" = some namer ∧
      (Catalog.authors namer).resolve (Path.authors ++ [Segment.field "a\nb"]) =
        some (.column "authors->'a'\nb" .string .whole) ∧
      "authors->'a'\nb" ≠ "authors->" ++ Sql.literal "a\nb" := by
  obtain ⟨namer, hnamer⟩ := Namer.exists_authors
  refine ⟨namer, hnamer, ?_, by decide⟩
  have hlookup := Catalog.resolve_of_lookup (c := Catalog.authors namer) hnamer "a\nb" rfl
  rw [hlookup, Namer.name_key (by decide) (by decide) hnamer (by decide)]
  rfl

end Key

end RowFilter
