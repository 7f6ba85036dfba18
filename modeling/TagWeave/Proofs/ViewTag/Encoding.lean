import Mathlib.Tactic.Common
import TagWeave.Proofs.ViewTag.Name

/-!
# Tags that can be encoded

The canonical text of a tag can be encoded just if each text of the tag can: what is
written around them, and the escapes in them, are plain ASCII.
-/

namespace TagWeave

open TagWeave.Text

theorem Json.isLone_hexDigit : ∀ n < 16, isLone (hexDigit n) = false := by decide

theorem Json.isEncodable_hexDigits (width n : Nat) : IsEncodable (hexDigits width n) := by
  induction width generalizing n with
  | zero => simp [hexDigits, IsEncodable]
  | succ width ih =>
      intro c hc
      rcases List.mem_append.mp hc with hc | hc
      · exact ih _ c hc
      · rw [List.mem_singleton.mp hc]
        exact Json.isLone_hexDigit _ (Nat.mod_lt _ (by decide))

theorem Text.IsEncodable.not_mem {cs : List Char} (h : IsEncodable cs) {c : Char}
    (lone : isLone c = true) : c ∉ cs := by
  intro hc
  rw [h c hc] at lone
  cases lone

theorem Text.isEncodable_iff {cs : List Char} :
    IsEncodable cs ↔ ∀ c, isLone c = true → c ∉ cs :=
  ⟨fun h _ => h.not_mem, fun h c hc => Bool.eq_false_iff.mpr fun lone => h c lone hc⟩

/-- The only lone surrogate in what is written for a character is that character. -/
theorem Json.mem_escaped_iff {c d : Char} (lone : isLone d = true) :
    d ∈ Json.escaped c ↔ d = c := by
  have signs : IsEncodable ['\\', '"', 'n', 'r', 't', 'b', 'f', 'u', '\n', '\r', '\t', Char.ofNat 8,
    Char.ofNat 12] := by decide
  have signs := signs.not_mem lone
  simp only [List.mem_cons, not_or] at signs
  unfold Json.escaped
  split_ifs with own own own own own own own control
  iterate 7
    · simp [own, signs]
  · have own : d ≠ c := by
      rintro rfl
      simp only [isLone, Bool.and_eq_true, decide_eq_true_eq] at lone
      omega
    simp [Json.unitEscape, signs, own, (Json.isEncodable_hexDigits 4 c.toNat).not_mem lone]
  · exact List.mem_singleton

namespace ViewTag

/-- The texts of a tag that its identity consists of. -/
def texts (tag : ViewTag) : List String :=
  tag.name :: tag.content :: tag.attributes.flatMap fun a => [a.key, a.value]

theorem mem_canonicalText_iff {c : Char} {s : String} (lone : isLone c = true) :
    c ∈ canonicalText s ↔ c ∈ s.toList := by
  have quote : IsEncodable ['"'] := by decide
  have quote := quote.not_mem lone
  simp only [List.mem_singleton] at quote
  simp [canonicalText, Json.quotedBy, Json.mem_escaped_iff lone, quote]

theorem mem_separated_iff {c : Char} {items : List (List Char)} (lone : isLone c = true) :
    c ∈ separated items ↔ ∃ item ∈ items, c ∈ item := by
  have comma : IsEncodable [','] := by decide
  have comma := comma.not_mem lone
  simp only [List.mem_singleton] at comma
  induction items with
  | nil => simp [separated]
  | cons item items ih =>
      cases items with
      | nil => simp [separated]
      | cons next items =>
          simp only [separated, List.mem_append, List.mem_cons, ih]
          simp only [comma, false_or, or_and_right, exists_or, exists_eq_left]

theorem mem_canonicalAttribute_iff {c : Char} (a : Attribute) (lone : isLone c = true) :
    c ∈ canonicalAttribute a ↔ c ∈ a.key.toList ∨ c ∈ a.value.toList := by
  have signs : IsEncodable ['[', ',', ']'] := by decide
  have signs := signs.not_mem lone
  simp only [List.mem_cons, List.not_mem_nil, or_false, not_or] at signs
  simp [canonicalAttribute, mem_canonicalText_iff lone, signs]

theorem exists_mem_texts_iff (tag : ViewTag) (p : String → Prop) :
    (∃ s ∈ tag.texts, p s) ↔
      p tag.name ∨ p tag.content ∨ ∃ a ∈ tag.attributes, p a.key ∨ p a.value := by
  constructor
  · rintro ⟨s, hs, h⟩
    simp only [texts, List.mem_cons, List.mem_flatMap, List.not_mem_nil, or_false] at hs
    rcases hs with rfl | rfl | ⟨a, ha, rfl | rfl⟩
    · exact .inl h
    · exact .inr (.inl h)
    · exact .inr (.inr ⟨a, ha, .inl h⟩)
    · exact .inr (.inr ⟨a, ha, .inr h⟩)
  · rintro (h | h | ⟨a, ha, h | h⟩)
    · exact ⟨_, List.mem_cons_self .., h⟩
    · exact ⟨_, List.mem_cons_of_mem _ (List.mem_cons_self ..), h⟩
    · have among : a.key ∈ tag.attributes.flatMap fun a => [a.key, a.value] :=
        List.mem_flatMap.mpr ⟨a, ha, by simp⟩
      exact ⟨a.key, List.mem_cons_of_mem _ (List.mem_cons_of_mem _ among), h⟩
    · have among : a.value ∈ tag.attributes.flatMap fun a => [a.key, a.value] :=
        List.mem_flatMap.mpr ⟨a, ha, by simp⟩
      exact ⟨a.value, List.mem_cons_of_mem _ (List.mem_cons_of_mem _ among), h⟩

theorem mem_framed_iff {c : Char} {first second third last a b d : List Char} (hfirst : c ∉ first)
    (hsecond : c ∉ second) (hthird : c ∉ third) (hlast : c ∉ last) :
    c ∈ first ++ a ++ second ++ b ++ third ++ d ++ last ↔ c ∈ d ∨ c ∈ b ∨ c ∈ a := by
  simp only [List.mem_append, hfirst, hsecond, hthird, hlast, false_or, or_false]
  tauto

/-- The lone surrogates of the canonical text are those of the texts of the tag. -/
theorem mem_canonicalForm_iff {c : Char} (tag : ViewTag) (lone : isLone c = true) :
    c ∈ canonicalForm tag.name tag.content tag.attributes ↔ ∃ s ∈ tag.texts, c ∈ s.toList := by
  have first : IsEncodable "\x7b\"attributes\":[".toList := by decide +kernel
  have second : IsEncodable "],\"content\":".toList := by decide +kernel
  have third : IsEncodable ",\"tag\":".toList := by decide +kernel
  have last : IsEncodable ['\x7d'] := by decide
  delta canonicalForm
  rw [mem_framed_iff (first.not_mem lone) (second.not_mem lone) (third.not_mem lone)
    (last.not_mem lone)]
  rw [exists_mem_texts_iff, mem_canonicalText_iff lone, mem_canonicalText_iff lone,
    mem_separated_iff lone]
  simp only [List.mem_map, exists_exists_and_eq_and, mem_canonicalAttribute_iff _ lone]

/-- A tag can be identified just if each of its texts can be encoded. -/
theorem identityFault?_eq_none_iff (tag : ViewTag) :
    tag.identityFault? = none ↔ ∀ s ∈ tag.texts, IsEncodable s.toList := by
  rw [identityFault?, Option.map_eq_none_iff, encodeError?_eq_none_iff]
  simp only [isEncodable_iff]
  constructor
  · intro whole s hs c lone hc
    exact whole c lone ((mem_canonicalForm_iff tag lone).mpr ⟨s, hs, hc⟩)
  · intro each c lone hc
    obtain ⟨s, hs, within⟩ := (mem_canonicalForm_iff tag lone).mp hc
    exact each s hs c lone within

theorem IsKey.isEncodable {name : List Char} (h : IsKey name) : IsEncodable name := by
  intro c hc
  have small := toNat_lt_of_isNameChar (h c hc).1
  simp only [isLone, Bool.and_eq_false_iff, decide_eq_false_iff_not]
  omega

/-- A tag whose name and keys are as they are kept can be identified just if its content and its values
can be encoded. -/
theorem identityFault?_eq_none_iff_of_isKey {tag : ViewTag} (kept : IsKey tag.name.toList)
    (keys : ∀ a ∈ tag.attributes, IsKey a.key.toList) : tag.identityFault? = none ↔
      IsEncodable tag.content.toList ∧ ∀ a ∈ tag.attributes, IsEncodable a.value.toList := by
  rw [identityFault?_eq_none_iff]
  constructor
  · intro each
    refine ⟨each _ (by simp [texts]), fun a ha => each _ ?_⟩
    exact (List.mem_cons_of_mem _ (List.mem_cons_of_mem _ (List.mem_flatMap.mpr ⟨a, ha, by simp⟩)))
  · rintro ⟨content, values⟩ s hs
    simp only [texts, List.mem_cons, List.mem_flatMap, List.not_mem_nil, or_false] at hs
    rcases hs with rfl | rfl | ⟨a, ha, rfl | rfl⟩
    · exact kept.isEncodable
    · exact content
    · exact (keys a ha).isEncodable
    · exact values a ha

end ViewTag

end TagWeave
