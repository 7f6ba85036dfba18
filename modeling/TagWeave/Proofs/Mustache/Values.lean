import TagWeave.Proofs.Mustache.Stencil
import TagWeave.Proofs.ViewTag.Junctions

/-!
# Values that open no tag

A value is put into the output with its markup escaped, so it brings no brackets. If no
value opens a tag, a tag can be opened only where two of them meet; that cannot be if
none of them ends with a brace, or none begins with one. Neither can the texts of view
tags bring two such braces together then, as long as what they bring has none itself.
-/

namespace TagWeave.Mustache

open TagWeave.Text

/-- A character is put into the output as it is, unless it is replaced by a text without braces and
brackets. -/
theorem escapeChar_cases (c : Char) :
    (escapeChar c = [c] ∧ c ≠ '<' ∧ c ≠ '>') ∨
      (escapeChar c ≠ [] ∧ c ≠ '\x7b' ∧
        ∀ d ∈ escapeChar c, d ≠ '\x7b' ∧ d ≠ '<' ∧ d ≠ '>') := by
  unfold escapeChar
  split_ifs with same same noOpening noClosing
  · rw [same]
    exact .inr (by simp)
  · rw [same]
    exact .inr (by simp)
  · rw [noOpening]
    exact .inr (by simp)
  · rw [noClosing]
    exact .inr (by simp)
  · exact .inl ⟨rfl, noOpening, noClosing⟩

theorem not_bracket_of_mem_escape {c : Char} {s : List Char} (h : c ∈ escape s) :
    c ≠ '<' ∧ c ≠ '>' := by
  obtain ⟨d, -, hc⟩ := List.mem_flatMap.mp h
  rcases escapeChar_cases d with ⟨same, noBracket⟩ | ⟨-, -, plain⟩
  · rw [same] at hc
    rwa [List.mem_singleton.mp hc]
  · exact (plain c hc).2

theorem eq_of_mem_escapeChar {c : Char} (h : '\x7b' ∈ escapeChar c) : c = '\x7b' := by
  rcases escapeChar_cases c with ⟨same, -⟩ | ⟨-, -, plain⟩
  · rw [same] at h
    exact (List.mem_singleton.mp h).symm
  · exact absurd rfl (plain _ h).1

theorem escapeChar_ne_nil (c : Char) : escapeChar c ≠ [] := by
  rcases escapeChar_cases c with ⟨same, -⟩ | ⟨nonempty, -⟩
  · rw [same]
    exact List.cons_ne_nil _ _
  · exact nonempty

/-- The output of a value begins with a brace only if the value does. -/
theorem head?_of_escape {s : List Char} (h : (escape s).head? = some '\x7b') :
    s.head? = some '\x7b' := by
  cases s with
  | nil => cases h
  | cons c s =>
      rw [escape, List.flatMap_cons, List.head?_append_of_ne_nil _ (escapeChar_ne_nil c)] at h
      rw [List.head?_cons, eq_of_mem_escapeChar (List.mem_of_mem_head? h)]

/-- It ends with a brace only if the value does. -/
theorem getLast?_of_escape {s : List Char} (h : (escape s).getLast? = some '\x7b') :
    s.getLast? = some '\x7b' := by
  rcases List.eq_nil_or_concat s with rfl | ⟨t, c, rfl⟩
  · cases h
  · rw [List.concat_eq_append, escape, List.flatMap_append, List.flatMap_singleton,
      List.getLast?_append_of_ne_nil _ (escapeChar_ne_nil c)] at h
    rw [List.concat_eq_append, List.getLast?_concat, eq_of_mem_escapeChar (List.mem_of_getLast? h)]

/-- The output of a value opens a tag only if the value does. -/
theorem isChain_escape {s : List Char} (unopened : ¬ opener <:+: s) :
    List.IsChain (fun x y => ¬ (x = '\x7b' ∧ y = '\x7b')) (escape s) := by
  induction s with
  | nil => exact .nil
  | cons c s ih =>
      rw [escape, List.flatMap_cons, List.isChain_append]
      refine ⟨?_, ih fun within => unopened (List.infix_cons within), ?_⟩
      · rcases escapeChar_cases c with ⟨same, -⟩ | ⟨-, -, plain⟩
        · rw [same]
          exact .singleton c
        · apply List.Pairwise.isChain
          exact List.pairwise_of_forall_mem_list fun x hx y _ both => (plain x hx).1 both.1
      · rintro x hx y hy ⟨rfl, rfl⟩
        have first := eq_of_mem_escapeChar (List.mem_of_getLast? hx)
        have second := head?_of_escape hy
        obtain ⟨t, rfl⟩ := List.head?_eq_some_iff.mp second
        exact unopened ⟨[], t, by rw [first]; rfl⟩

/-! ### Filling in values -/

/-- What holds of the parts of a stencil that is filled in, and of texts that are put together of such,
holds of the whole. -/
theorem fillOf_of_append {property : List Char → Prop}
    (append : ∀ {s t}, property s → property t → property (s ++ t)) {value : String → String}
    {slots : List Slot} {rest : List Char} (before : ∀ slot ∈ slots, property slot.before)
    (values : ∀ slot ∈ slots, property (escape (value slot.name).toList)) (last : property rest) :
    property (fillOf value slots rest) := by
  induction slots with
  | nil => exact last
  | cons slot slots ih =>
      obtain ⟨first, before⟩ := List.forall_mem_cons.mp before
      obtain ⟨own, values⟩ := List.forall_mem_cons.mp values
      exact append first (append own (ih before values))

/-- A text that does not end with an opening brace, and none of whose braces brackets follow. -/
structure EndsApart (s : List Char) : Prop where
  chain : List.IsChain SealedAfter s
  last : s.getLast? ≠ some '\x7b'

theorem EndsApart.append {s t : List Char} (hs : EndsApart s) (ht : EndsApart t) :
    EndsApart (s ++ t) where
  chain := by
    refine List.isChain_append.mpr ⟨hs.chain, ht.chain, ?_⟩
    rintro x hx y - rfl
    exact absurd hx hs.last
  last := by
    rw [List.getLast?_append]
    cases last : t.getLast? with
    | none => exact hs.last
    | some c =>
        rw [Option.some_or, ← last]
        exact ht.last

/-- A text that does not begin with an opening brace, and none of whose braces brackets precede. -/
structure BeginsApart (s : List Char) : Prop where
  chain : List.IsChain SealedBefore s
  first : s.head? ≠ some '\x7b'

theorem BeginsApart.append {s t : List Char} (hs : BeginsApart s) (ht : BeginsApart t) :
    BeginsApart (s ++ t) where
  chain := by
    refine List.isChain_append.mpr ⟨hs.chain, ht.chain, ?_⟩
    rintro x - y hy rfl
    exact absurd hy ht.first
  first := by
    cases s with
    | nil => exact ht.first
    | cons c s => exact hs.first

theorem endsApart_of_not_mem {s : List Char} (absent : '\x7b' ∉ s) : EndsApart s :=
  ⟨seals_after.isChain_of_not_mem absent, fun h => absent (List.mem_of_getLast? h)⟩

theorem beginsApart_of_not_mem {s : List Char} (absent : '\x7b' ∉ s) : BeginsApart s :=
  ⟨seals_before.isChain_of_not_mem absent, fun h => absent (List.mem_of_mem_head? h)⟩

theorem endsApart_escape {s : List Char} (unopened : ¬ opener <:+: s)
    (last : s.getLast? ≠ some '\x7b') : EndsApart (escape s) := by
  refine ⟨?_, fun h => last (getLast?_of_escape h)⟩
  refine (isChain_escape unopened).imp_of_mem_imp ?_
  intro x y _ hy apart same
  exact ⟨fun next => apart ⟨same, next⟩, (not_bracket_of_mem_escape hy).1⟩

theorem beginsApart_escape {s : List Char} (unopened : ¬ opener <:+: s)
    (first : s.head? ≠ some '\x7b') : BeginsApart (escape s) := by
  refine ⟨?_, fun h => first (head?_of_escape h)⟩
  refine (isChain_escape unopened).imp_of_mem_imp ?_
  intro x y hx _ apart same
  exact ⟨fun before => apart ⟨before, same⟩, (not_bracket_of_mem_escape hx).2⟩

/-- The values of some variables open no tags, and they do not all begin and end with braces where they
may meet. -/
structure Harmless (value : String → String) (slots : List Slot) : Prop where
  unopened : ∀ slot ∈ slots, ¬ opener <:+: (value slot.name).toList
  apart : (∀ slot ∈ slots, (value slot.name).toList.getLast? ≠ some '\x7b') ∨
    ∀ slot ∈ slots, (value slot.name).toList.head? ≠ some '\x7b'

/-- A stencil filled in with such values has its opening braces kept apart for good. -/
theorem Harmless.exists_seals {value : String → String} {slots : List Slot}
    (harmless : Harmless value slots) (plain : ∀ slot ∈ slots, slot.Plain) {rest : List Char}
    (last : '\x7b' ∉ rest) : ∃ R, Seals R ∧ List.IsChain R (fillOf value slots rest) := by
  obtain ⟨unopened, noneLast | noneFirst⟩ := harmless
  · have whole : EndsApart (fillOf value slots rest) :=
      fillOf_of_append EndsApart.append
        (fun slot hslot => endsApart_of_not_mem (plain slot hslot).before)
        (fun slot hslot => endsApart_escape (unopened slot hslot) (noneLast slot hslot))
        (endsApart_of_not_mem last)
    exact ⟨SealedAfter, seals_after, whole.chain⟩
  · have whole : BeginsApart (fillOf value slots rest) :=
      fillOf_of_append BeginsApart.append
        (fun slot hslot => beginsApart_of_not_mem (plain slot hslot).before)
        (fun slot hslot => beginsApart_escape (unopened slot hslot) (noneFirst slot hslot))
        (beginsApart_of_not_mem last)
    exact ⟨SealedBefore, seals_before, whole.chain⟩

end TagWeave.Mustache
