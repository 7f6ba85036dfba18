import TagWeave.ViewTag.Basic

/-!
# Substitution

Every needle of every resolved tag is replaced in one scan from left to right. Where
several needles begin at the same place the longest one counts, and what was put in
is not scanned again. If a needle is listed more than once, its last content counts.
An empty needle occurs wherever no other one does, also at the end.
-/

namespace TagWeave

/-- Needles with the texts that replace them; each needle occurs once. -/
abbrev Replacements := List (List Char × List Char)

namespace Replacements

/-- Sets the text that replaces a needle. -/
def set (rs : Replacements) (needle text : List Char) : Replacements :=
  match rs with
  | [] => [(needle, text)]
  | (n, t) :: rest => if n = needle then (n, text) :: rest else (n, t) :: set rest needle text

/-- The replacements that some resolved tags give. -/
def ofResolved (resolved : List (ViewTag × Content)) : Replacements :=
  resolved.foldl (fun rs (tag, content) =>
    tag.needles.foldl (fun rs needle => rs.set needle.toList content.text.toList) rs) []

/-- The longer of two candidates; the first one of equally long ones. -/
def longer (a? b? : Option (List Char × List Char)) : Option (List Char × List Char) :=
  match a?, b? with
  | some a, some b => if a.1.length < b.1.length then some b else some a
  | some a, none => some a
  | none, b? => b?

/-- The longest needle at the start of a text, with its replacement. -/
def longestAt? (rs : Replacements) (s : List Char) : Option (List Char × List Char) :=
  rs.foldr (fun r best? =>
    if !r.1.isEmpty && r.1.isPrefixOf s then longer (some r) best? else best?) none

/-- The text that replaces the empty needle. -/
def ofEmpty (rs : Replacements) : List Char :=
  ((rs.find? (·.1.isEmpty)).map (·.2)).getD []

/-- Replaces the needles in a text, `fuel` bounding the number of steps. -/
def applyWithin (rs : Replacements) : Nat → List Char → List Char
  | 0, s => s
  | fuel + 1, s =>
    match rs.longestAt? s with
    | some (needle, text) => text ++ rs.applyWithin fuel (s.drop needle.length)
    | none =>
      rs.ofEmpty ++
        match s with
        | [] => []
        | c :: s => c :: rs.applyWithin fuel s

/-- Replaces the needles in a text. -/
def apply (rs : Replacements) (s : List Char) : List Char := rs.applyWithin (s.length + 1) s

end Replacements

/-- A template in which the needles of resolved tags are replaced by their contents. -/
def substitute (template : String) (resolved : List (ViewTag × Content)) : String :=
  String.ofList ((Replacements.ofResolved resolved).apply template.toList)

end TagWeave
