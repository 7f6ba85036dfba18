import Mathlib.Data.List.Forall2
import Mathlib.Data.List.TakeWhile
import Mathlib.Tactic.Common
import TagWeave.Proofs.Text.Order
import TagWeave.ViewTag.Finder

/-!
# Names of tags and their spellings

A name is spelled in any case. The documented form of a name is a letter followed by
letters, digits, underscores and hyphens; what is accepted beside it is a line end
after such a name. Either way no spelling contains an angle bracket or a slash, and
one text never spells two names of the documented form in lower case.

A finder keeps its names in lower case and without repetitions.
-/

namespace TagWeave.ViewTag

open TagWeave.Text TagWeave.Markup

/-! ### Characters -/

theorem isLetter_iff {c : Char} : isLetter c = true ↔
    (97 ≤ c.toNat ∧ c.toNat ≤ 122) ∨ (65 ≤ c.toNat ∧ c.toNat ≤ 90) := by
  simp only [isLetter, Bool.or_eq_true, Bool.and_eq_true, decide_eq_true_eq, Char.le_def,
    UInt32.le_iff_toNat_le]
  rfl

theorem isNameChar_iff {c : Char} : isNameChar c = true ↔
    (97 ≤ c.toNat ∧ c.toNat ≤ 122) ∨ (65 ≤ c.toNat ∧ c.toNat ≤ 90) ∨
      (48 ≤ c.toNat ∧ c.toNat ≤ 57) ∨ c.toNat = 95 ∨ c.toNat = 45 := by
  simp only [isNameChar, Bool.or_eq_true, isLetter_iff, Bool.and_eq_true, decide_eq_true_eq,
    Char.le_def, UInt32.le_iff_toNat_le, ← Char.toNat_inj]
  change ((_ ∨ 48 ≤ c.toNat ∧ c.toNat ≤ 57) ∨ c.toNat = 95) ∨ c.toNat = 45 ↔ _
  omega

theorem isLetter_iff_isAlpha {c : Char} : isLetter c = true ↔ c.isAlpha = true := by
  rw [isLetter_iff]
  change _ ↔ (decide ('A'.val ≤ c.val ∧ c.val ≤ 'Z'.val) ||
    (decide ('a'.val ≤ c.val) && decide (c.val ≤ 'z'.val))) = true
  simp only [Bool.or_eq_true, Bool.and_eq_true, decide_eq_true_eq, UInt32.le_iff_toNat_le]
  exact or_comm

theorem isNameChar_iff_isAlphanum {c : Char} :
    isNameChar c = true ↔ c.isAlphanum = true ∨ c = '_' ∨ c = '-' := by
  change _ ↔ (c.isAlpha || (decide ('0' ≤ c) && decide (c ≤ '9'))) = true ∨ _
  simp only [isNameChar, Bool.or_eq_true, Bool.and_eq_true, isLetter_iff_isAlpha,
    decide_eq_true_eq, or_assoc]

theorem isNameChar_of_isLetter {c : Char} (h : isLetter c = true) : isNameChar c = true := by
  simp [isNameChar, h]

theorem toNat_asciiLower (c : Char) : (asciiLower c).toNat =
    if 65 ≤ c.toNat ∧ c.toNat ≤ 90 then c.toNat + 32 else c.toNat := by
  unfold asciiLower
  split
  · have hvalid : (c.toNat + 32).isValidChar := .inl (by omega)
    rw [Char.ofNat, dif_pos hvalid]
    rfl
  · rfl

theorem sameLetter_iff {c d : Char} : sameLetter c d = true ↔ asciiLower c = asciiLower d ∨
    (asciiLower c = 'k' ∧ d.toNat = 0x212a) ∨ (asciiLower c = 's' ∧ d.toNat = 0x17f) ∨
    (asciiLower c = 'i' ∧ (d.toNat = 0x130 ∨ d.toNat = 0x131)) := by
  unfold sameLetter
  simp only [Bool.or_eq_true, beq_iff_eq]
  refine or_congr Iff.rfl ?_
  split <;> simp_all

/-- Apart from ASCII, only four characters spell a character of a name. -/
theorem toNat_of_sameLetter {c d : Char} (hc : c.toNat < 128) (h : sameLetter c d = true) :
    (asciiLower c).toNat = (asciiLower d).toNat ∧ d.toNat < 128 ∨
      (asciiLower c = 'k' ∧ d.toNat = 0x212a) ∨ (asciiLower c = 's' ∧ d.toNat = 0x17f) ∨
      (asciiLower c = 'i' ∧ (d.toNat = 0x130 ∨ d.toNat = 0x131)) := by
  rcases sameLetter_iff.mp h with same | other
  · left
    have hnat := congrArg Char.toNat same
    refine ⟨hnat, ?_⟩
    rw [toNat_asciiLower, toNat_asciiLower] at hnat
    split at hnat <;> split at hnat <;> omega
  · exact .inr other

/-- A character that has only one case is spelled by itself alone. -/
theorem eq_of_sameLetter {c d : Char} (hd : d.toNat < 65) (h : sameLetter c d = true) :
    c = d := by
  apply Char.toNat_inj.mp
  rcases sameLetter_iff.mp h with same | ⟨_, hd'⟩ | ⟨_, hd'⟩ | ⟨_, hd'⟩
  · have hnat := congrArg Char.toNat same
    rw [toNat_asciiLower, toNat_asciiLower] at hnat
    split at hnat <;> split at hnat <;> omega
  all_goals omega

/-! ### Spellings -/

/-- The text spells the name, each character in some case. -/
def Spells (name u : List Char) : Prop := List.Forall₂ (fun c d => sameLetter c d = true) name u

/-- There is no angle bracket and no slash in the text. -/
def NoBracket (u : List Char) : Prop := ∀ c ∈ u, c ≠ '<' ∧ c ≠ '/' ∧ c ≠ '>'

theorem afterName?_eq_some_iff {name s rest : List Char} :
    afterName? name s = some rest ↔ ∃ u, Spells name u ∧ s = u ++ rest := by
  induction name generalizing s with
  | nil =>
      constructor
      · intro h
        exact ⟨[], .nil, Option.some.inj h⟩
      · rintro ⟨u, hu, rfl⟩
        cases hu
        rfl
  | cons c name ih =>
      cases s with
      | nil =>
          refine ⟨fun h => by simp [afterName?] at h, ?_⟩
          rintro ⟨u, hu, hs⟩
          cases hu
          simp at hs
      | cons d s =>
          rw [afterName?]
          constructor
          · intro h
            by_cases hd : sameLetter c d = true
            · rw [if_pos hd] at h
              obtain ⟨u, hu, rfl⟩ := ih.mp h
              exact ⟨d :: u, .cons hd hu, rfl⟩
            · simp [hd] at h
          · rintro ⟨u, hu, hs⟩
            cases hu with
            | cons hd hu =>
                obtain ⟨rfl, rfl⟩ := List.cons.inj hs
                rw [if_pos hd]
                exact ih.mpr ⟨_, hu, rfl⟩

theorem Spells.noBracket {name u : List Char} (h : Spells name u) (hname : NoBracket name) :
    NoBracket u := by
  induction h with
  | nil => simp [NoBracket]
  | @cons c d name u hd hu ih =>
      intro x hx
      rcases List.mem_cons.mp hx with rfl | hx
      · have hc := hname c (List.mem_cons_self ..)
        refine ⟨?_, ?_, ?_⟩ <;> rintro rfl
        · exact hc.1 (eq_of_sameLetter (by decide) hd)
        · exact hc.2.1 (eq_of_sameLetter (by decide) hd)
        · exact hc.2.2 (eq_of_sameLetter (by decide) hd)
      · exact ih (fun y hy => hname y (List.mem_cons_of_mem _ hy)) x hx

/-! ### The forms of names -/

/-- The documented form of a name: a letter, then letters, digits, underscores and hyphens. -/
def IsPlain (s : String) : Prop :=
  ∃ c cs, s.toList = c :: cs ∧ isLetter c = true ∧ ∀ d ∈ cs, isNameChar d = true

/-- A name of the documented form as it is kept, in lower case. -/
def IsKey (name : List Char) : Prop := ∀ c ∈ name, isNameChar c = true ∧ asciiLower c = c

theorem IsPlain.isNameChar {s : String} (h : IsPlain s) : ∀ c ∈ s.toList, isNameChar c = true := by
  obtain ⟨c, cs, hs, hc, hcs⟩ := h
  intro d hd
  rw [hs] at hd
  rcases List.mem_cons.mp hd with rfl | hd
  · exact isNameChar_of_isLetter hc
  · exact hcs d hd

theorem IsPlain.isName {s : String} (h : IsPlain s) : isName s = true := by
  obtain ⟨c, cs, hs, hc, hcs⟩ := h
  have hdrop : cs.dropWhile ViewTag.isNameChar = [] := List.dropWhile_eq_nil_iff.mpr hcs
  simp [ViewTag.isName, hs, hc, hdrop]

/-- The texts that are taken for names: those of the documented form, also before a line end. -/
def TakenForName (s : String) : Prop := ∃ plain, IsPlain plain ∧ (s = plain ∨ s = plain ++ "\n")

/-- The documented form, in terms of the classes of ASCII characters. -/
theorem isPlain_iff {s : String} : IsPlain s ↔ ∃ letter rest, s.toList = letter :: rest ∧
    letter.isAlpha = true ∧ ∀ c ∈ rest, c.isAlphanum = true ∨ c = '_' ∨ c = '-' := by
  simp only [IsPlain, isLetter_iff_isAlpha, isNameChar_iff_isAlphanum]

theorem isName_iff {s : String} : isName s = true ↔ TakenForName s := by
  constructor
  · intro accepted
    unfold isName at accepted
    split at accepted
    · cases accepted
    · next c cs chars =>
      obtain ⟨letter, ended⟩ := Bool.and_eq_true_iff.mp accepted
      rw [← List.takeWhile_append_dropWhile (p := ViewTag.isNameChar) (l := cs)] at chars
      refine ⟨String.ofList (c :: cs.takeWhile ViewTag.isNameChar),
        ⟨c, _, String.toList_ofList, letter, fun d among => List.mem_takeWhile_imp among⟩, ?_⟩
      rw [← String.toList_inj, ← String.toList_inj, String.toList_append, String.toList_ofList,
        chars]
      -- what follows the characters of the name is nothing, or one line end
      split at ended
      · next nothing => exact .inl (by rw [nothing, List.append_nil])
      · next lineEnd => exact .inr (by rw [lineEnd]; rfl)
      · cases ended
  · rintro ⟨plain, form, rfl | rfl⟩
    · exact form.isName
    · obtain ⟨c, cs, chars, letter, rest⟩ := form
      have left : (cs ++ ['\n']).dropWhile ViewTag.isNameChar = ['\n'] :=
        (List.dropWhile_append_of_pos rest).trans rfl
      simp [ViewTag.isName, chars, letter, left]

/-- What is accepted as a name is of the documented form, but for a line end. -/
theorem chars_of_isName {s : String} (h : isName s = true) :
    ∀ c ∈ s.toList, ViewTag.isNameChar c = true ∨ c = '\n' := by
  obtain ⟨plain, form, rfl | rfl⟩ := isName_iff.mp h
  · exact fun c hc => .inl (form.isNameChar c hc)
  · rw [String.toList_append]
    exact List.forall_mem_append.mpr
      ⟨fun c hc => .inl (form.isNameChar c hc), List.forall_mem_singleton.mpr (.inr rfl)⟩

theorem toNat_lt_of_isNameChar {c : Char} (h : ViewTag.isNameChar c = true) : c.toNat < 128 := by
  rcases isNameChar_iff.mp h with h | h | h | h | h <;> omega

theorem toNat_lt_of_isName {s : String} (h : isName s = true) :
    ∀ c ∈ s.toList, c.toNat < 128 := by
  intro c hc
  rcases chars_of_isName h c hc with ordinary | rfl
  · exact toNat_lt_of_isNameChar ordinary
  · decide

theorem lowerFrom_of_ascii {cs : List Char} (h : ∀ c ∈ cs, c.toNat < 128) (before : List Char) :
    lowerFrom before cs = cs.map asciiLower := by
  induction cs generalizing before with
  | nil => rfl
  | cons c cs ih =>
      rw [lowerFrom, lowerChar, if_pos (h c (List.mem_cons_self ..)),
        ih (fun d hd => h d (List.mem_cons_of_mem _ hd))]
      rfl

theorem toList_lower_of_ascii {s : String} (h : ∀ c ∈ s.toList, c.toNat < 128) :
    (lower s).toList = s.toList.map asciiLower := by
  rw [lower, lowerChars, lowerFrom_of_ascii h, String.toList_ofList]

theorem isNameChar_asciiLower {c : Char} (h : ViewTag.isNameChar c = true) :
    ViewTag.isNameChar (asciiLower c) = true := by
  rw [isNameChar_iff] at h ⊢
  rw [toNat_asciiLower]
  split <;> omega

theorem asciiLower_asciiLower (c : Char) : asciiLower (asciiLower c) = asciiLower c := by
  apply Char.toNat_inj.mp
  rw [toNat_asciiLower, toNat_asciiLower, if_neg]
  split <;> omega

theorem isLetter_asciiLower {c : Char} (h : isLetter c = true) :
    isLetter (asciiLower c) = true := by
  rw [isLetter_iff] at h ⊢
  rw [toNat_asciiLower]
  split <;> omega

theorem IsPlain.toList_lower {s : String} (h : IsPlain s) :
    (lower s).toList = s.toList.map asciiLower :=
  toList_lower_of_ascii fun c hc => toNat_lt_of_isNameChar (h.isNameChar c hc)

theorem IsPlain.lower {s : String} (h : IsPlain s) : IsPlain (lower s) := by
  have hlower := h.toList_lower
  obtain ⟨c, cs, hs, hc, hcs⟩ := h
  rw [hs, List.map_cons] at hlower
  refine ⟨asciiLower c, cs.map asciiLower, hlower, isLetter_asciiLower hc, ?_⟩
  intro d hd
  obtain ⟨e, he, rfl⟩ := List.mem_map.mp hd
  exact isNameChar_asciiLower (hcs e he)

/-- What is accepted as a name is so in lower case. -/
theorem isName_lower {s : String} (h : isName s = true) : isName (Text.lower s) = true := by
  have lowered := toList_lower_of_ascii (toNat_lt_of_isName h)
  obtain ⟨plain, form, rfl | rfl⟩ := isName_iff.mp h
  · exact form.lower.isName
  · refine isName_iff.mpr ⟨_, form.lower, .inr (String.toList_injective ?_)⟩
    rw [lowered, String.toList_append, List.map_append, String.toList_append, form.toList_lower]
    rfl

/-- What is accepted as a name is in lower case once it has been put so. -/
theorem lower_lower_of_isName {s : String} (h : isName s = true) :
    Text.lower (Text.lower s) = Text.lower s := by
  have lowered := toList_lower_of_ascii (toNat_lt_of_isName h)
  apply String.toList_injective
  rw [toList_lower_of_ascii (toNat_lt_of_isName (isName_lower h)), lowered, List.map_map]
  exact List.map_congr_left fun c _ => asciiLower_asciiLower c

/-- A name that is kept in lower case is kept as it is. -/
theorem IsPlain.lower_lower {s : String} (h : IsPlain s) :
    Text.lower (Text.lower s) = Text.lower s :=
  lower_lower_of_isName h.isName

theorem IsPlain.isKey_lower {s : String} (h : IsPlain s) : IsKey (Text.lower s).toList := by
  rw [h.toList_lower]
  intro d hd
  obtain ⟨c, hc, rfl⟩ := List.mem_map.mp hd
  exact ⟨isNameChar_asciiLower (h.isNameChar c hc), asciiLower_asciiLower c⟩

/-- No accepted name, as it is kept, contains a bracket or a slash. -/
theorem noBracket_lower_of_isName {s : String} (h : isName s = true) :
    NoBracket (lower s).toList := by
  rw [toList_lower_of_ascii (toNat_lt_of_isName h)]
  intro d hd
  obtain ⟨c, hc, rfl⟩ := List.mem_map.mp hd
  rcases chars_of_isName h c hc with h | rfl
  · have hlower := isNameChar_asciiLower h
    refine ⟨?_, ?_, ?_⟩ <;> intro heq <;> rw [heq] at hlower <;> exact absurd hlower (by decide)
  · decide

theorem IsKey.noBracket {name : List Char} (h : IsKey name) : NoBracket name := by
  intro c hc
  have hchar := (h c hc).1
  refine ⟨?_, ?_, ?_⟩ <;> intro heq <;> rw [heq] at hchar <;> exact absurd hchar (by decide)

/-! ### Spellings of kept names -/

theorem isBlank_iff {c : Char} : isBlank c = true ↔
    (9 ≤ c.toNat ∧ c.toNat ≤ 13) ∨ (28 ≤ c.toNat ∧ c.toNat ≤ 32) ∨ c.toNat = 0x85 ∨
      c.toNat = 0xa0 ∨ c.toNat = 0x1680 ∨ (0x2000 ≤ c.toNat ∧ c.toNat ≤ 0x200a) ∨
      c.toNat = 0x2028 ∨ c.toNat = 0x2029 ∨ c.toNat = 0x202f ∨ c.toNat = 0x205f ∨
      c.toNat = 0x3000 := by
  unfold isBlank
  simp only
  split <;> simp only [Bool.or_eq_true, Bool.and_eq_true, decide_eq_true_eq, beq_iff_eq] <;> omega

theorem isBlank_of_isNameChar {c : Char} (h : isNameChar c = true) : isBlank c = false := by
  have ascii := isNameChar_iff.mp h
  rw [← Bool.not_eq_true, isBlank_iff]
  omega

theorem ne_of_isNameChar {c d : Char} (h : isNameChar c = true) (hd : isNameChar d = false) :
    c ≠ d := by
  rintro rfl
  rw [h] at hd
  cases hd

theorem endsName_iff {c : Char} : endsName c = true ↔
    isBlank c = true ∨ c.toNat = 47 ∨ c.toNat = 62 := by
  simp only [endsName, Bool.or_eq_true, decide_eq_true_eq, ← Char.toNat_inj, or_assoc]
  rfl

/-- What spells a character of a kept name is that character, its capital letter, or one of four
characters beyond ASCII. -/
theorem toNat_of_sameLetter_key {c d : Char} (hc : isNameChar c = true ∧ asciiLower c = c)
    (h : sameLetter c d = true) :
    d.toNat = c.toNat ∨ (d.toNat + 32 = c.toNat ∧ 97 ≤ c.toNat ∧ c.toNat ≤ 122) ∨
      (c.toNat = 107 ∧ d.toNat = 0x212a) ∨ (c.toNat = 115 ∧ d.toNat = 0x17f) ∨
      (c.toNat = 105 ∧ (d.toNat = 0x130 ∨ d.toNat = 0x131)) := by
  have hletters : 'k'.toNat = 107 ∧ 's'.toNat = 115 ∧ 'i'.toNat = 105 := by decide
  rcases toNat_of_sameLetter (toNat_lt_of_isNameChar hc.1) h with ⟨same, _⟩ | h | h | h
  · rw [hc.2, toNat_asciiLower] at same
    split at same <;> omega
  all_goals
    rw [hc.2] at h
    obtain ⟨rfl, hd⟩ := h
    omega

theorem Spells.not_endsName {name u : List Char} (hname : IsKey name) (h : Spells name u) :
    ∀ d ∈ u, endsName d = false := by
  induction h with
  | nil => simp
  | @cons c d name u hd hu ih =>
      intro x hx
      rcases List.mem_cons.mp hx with rfl | hx
      · have hc := hname c (List.mem_cons_self ..)
        have hrange := isNameChar_iff.mp hc.1
        have hnat := toNat_of_sameLetter_key hc hd
        rw [← Bool.not_eq_true, endsName_iff, isBlank_iff]
        omega
      · exact ih (fun y hy => hname y (List.mem_cons_of_mem _ hy)) x hx

/-- No text spells two kept names. -/
theorem Spells.unique {name name' u : List Char} (hname : IsKey name) (hname' : IsKey name')
    (h : Spells name u) (h' : Spells name' u) : name = name' := by
  induction h generalizing name' with
  | nil =>
      cases h'
      rfl
  | @cons c d name u hd hu ih =>
      cases h' with
      | @cons c' _ name' _ hd' hu' =>
          have hc := hname c (List.mem_cons_self ..)
          have hc' := hname' c' (List.mem_cons_self ..)
          have hnat := toNat_of_sameLetter_key hc hd
          have hnat' := toNat_of_sameLetter_key hc' hd'
          have hrange := isNameChar_iff.mp hc.1
          have hrange' := isNameChar_iff.mp hc'.1
          have hcapital : ∀ x : Char, asciiLower x = x → ¬ (65 ≤ x.toNat ∧ x.toNat ≤ 90) := by
            intro x hx hcap
            have hlow := toNat_asciiLower x
            rw [if_pos hcap, hx] at hlow
            omega
          have hlow := hcapital c hc.2
          have hlow' := hcapital c' hc'.2
          have hhead : c = c' := Char.toNat_inj.mp (by omega)
          rw [hhead, ih (fun y hy => hname y (List.mem_cons_of_mem _ hy))
            (fun y hy => hname' y (List.mem_cons_of_mem _ hy)) hu']

end TagWeave.ViewTag

namespace TagWeave

open TagWeave.Text

/-! ### The names of finders -/

theorem Finder.addNames_eq_ok_iff {names rest result : List String} :
    Finder.addNames names rest = .ok result ↔
      (∀ name ∈ rest, ViewTag.isName name = true) ∧
        result = (rest.map lower).foldl addTo names := by
  induction rest generalizing names with
  | nil =>
      constructor
      · intro h
        exact ⟨by simp, (Except.ok.inj h).symm⟩
      · rintro ⟨_, rfl⟩
        rfl
  | cons name rest ih =>
      rw [Finder.addNames, Finder.addName]
      by_cases hname : ViewTag.isName name = true
      · simp [hname, ih]
      · simp [hname]

/-- A finder is made of accepted names only. It keeps them in lower case, in the order of their
first occurrences. -/
theorem Finder.ofNames_eq_ok_iff {names : List String} {finder : Finder} :
    Finder.ofNames names = .ok finder ↔
      (∀ name ∈ names, ViewTag.isName name = true) ∧ finder.names = distinct (names.map lower) := by
  cases hadd : Finder.addNames [] names with
  | ok result =>
      have h := Finder.addNames_eq_ok_iff.mp hadd
      simp only [Finder.ofNames, hadd, Except.map]
      constructor
      · intro heq
        cases heq
        exact ⟨h.1, h.2⟩
      · rintro ⟨_, hnames⟩
        rw [h.2]
        exact congrArg (fun n => Except.ok (Finder.mk n)) hnames.symm
  | error e =>
      simp only [Finder.ofNames, hadd, Except.map, reduceCtorEq, false_iff]
      rintro ⟨hnames, _⟩
      have hok := (@Finder.addNames_eq_ok_iff [] names _).mpr ⟨hnames, rfl⟩
      rw [hadd] at hok
      cases hok

/-- Names of the documented form as they are kept, each of them once. -/
structure KeptNames (names : List String) : Prop where
  plain : ∀ name ∈ names, ∃ s, ViewTag.IsPlain s ∧ lower s = name
  nodup : names.Nodup

theorem KeptNames.isKey {names : List String} (kept : KeptNames names) {name : String}
    (hname : name ∈ names) : ViewTag.IsKey name.toList := by
  obtain ⟨s, plain, rfl⟩ := kept.plain name hname
  exact plain.isKey_lower

theorem KeptNames.noBracket {names : List String} (kept : KeptNames names) {name : String}
    (hname : name ∈ names) : ViewTag.NoBracket name.toList :=
  (kept.isKey hname).noBracket

/-- A finder for one of the names looks for just that. -/
theorem KeptNames.ofNames_singleton {names : List String} (kept : KeptNames names) {name : String}
    (hname : name ∈ names) : Finder.ofNames [name] = .ok ⟨[name]⟩ := by
  obtain ⟨s, plain, rfl⟩ := kept.plain name hname
  refine Finder.ofNames_eq_ok_iff.mpr ⟨?_, ?_⟩
  · intro n hn
    rw [List.mem_singleton.mp hn]
    exact plain.lower.isName
  · rw [List.map_singleton, plain.lower_lower]
    rfl

/-- A finder can be made of any names of the documented form. -/
theorem Finder.ofNames_of_isPlain {names : List String} (h : ∀ name ∈ names, ViewTag.IsPlain name) :
    ∃ finder, Finder.ofNames names = .ok finder ∧ KeptNames finder.names := by
  refine ⟨⟨distinct (names.map lower)⟩,
    ofNames_eq_ok_iff.mpr ⟨fun name hn => (h name hn).isName, rfl⟩, ?_, nodup_distinct _⟩
  intro name hname
  obtain ⟨n, hn, rfl⟩ := List.mem_map.mp (mem_distinct.mp hname)
  exact ⟨n, h n hn, rfl⟩

theorem Finder.noBracket_of_mem {names : List String} {finder : Finder}
    (h : Finder.ofNames names = .ok finder) {name : String} (hname : name ∈ finder.names) :
    ViewTag.NoBracket name.toList := by
  obtain ⟨accepted, kept⟩ := ofNames_eq_ok_iff.mp h
  rw [kept, mem_distinct] at hname
  obtain ⟨n, hn, rfl⟩ := List.mem_map.mp hname
  exact ViewTag.noBracket_lower_of_isName (accepted n hn)

end TagWeave
