import Mathlib.Data.List.Chain
import TagWeave.Proofs.ViewTag.Brackets

/-!
# What comes together in a substitution

When needles are replaced, characters come to stand next to each other that did not
before. Of a relation that may hold between neighbours it is said here when no
substitution can spoil it, whatever is put in, as long as that has no opening brace. In
this way no tag of a template language comes about that was not there.
-/

namespace TagWeave

/-- A relation between neighbours that keeps opening braces apart, and that holds after the needles
between brackets are replaced by texts without opening braces. -/
structure Seals (R : Char → Char → Prop) : Prop where
  apart : ¬ R '\x7b' '\x7b'
  enter : ∀ {x y}, R x '<' → y ≠ '\x7b' → R x y
  inside : ∀ {x y}, x ≠ '\x7b' → y ≠ '\x7b' → R x y
  leave : ∀ {x y}, x ≠ '\x7b' → R '>' y → R x y
  bridge : ∀ {x y}, R x '<' → R '>' y → R x y
  blank : ∀ y, R ' ' y

/-- An opening brace is followed neither by another one nor by a bracket. -/
def SealedAfter (x y : Char) : Prop := x = '\x7b' → y ≠ '\x7b' ∧ y ≠ '<'

/-- An opening brace is preceded neither by another one nor by a bracket. -/
def SealedBefore (x y : Char) : Prop := y = '\x7b' → x ≠ '\x7b' ∧ x ≠ '>'

theorem seals_after : Seals SealedAfter where
  apart := fun h => (h rfl).1 rfl
  enter := fun h _ same => absurd rfl (h same).2
  inside := fun h _ same => absurd same h
  leave := fun h _ same => absurd same h
  bridge := fun h _ same => absurd rfl (h same).2
  blank := fun _ same => absurd same (by decide)

theorem seals_before : Seals SealedBefore where
  apart := fun h => (h rfl).1 rfl
  enter := fun _ h same => absurd same h
  inside := fun _ h same => absurd same h
  leave := fun _ h same => absurd rfl (h same).2
  bridge := fun _ h same => absurd rfl (h same).2
  blank := fun _ _ => by decide

/-- Texts without opening braces can be put in. -/
theorem Seals.isChain_of_not_mem {R : Char → Char → Prop} (seals : Seals R) {s : List Char}
    (absent : '\x7b' ∉ s) : List.IsChain R s := by
  apply List.Pairwise.isChain
  exact List.pairwise_of_forall_mem_list fun x hx y hy =>
    seals.inside (ne_of_mem_of_not_mem hx absent) (ne_of_mem_of_not_mem hy absent)

namespace Replacements

variable {rs : Replacements} {R : Char → Char → Prop}

/-- Replacing needles between brackets by texts without opening braces keeps such a relation, also
with the character before. -/
theorem isChain_applyWithin (seals : Seals R)
    (between : ∀ r ∈ rs, ∃ middle, r.1 = '<' :: (middle ++ ['>'])) (calm : ∀ r ∈ rs, '\x7b' ∉ r.2)
    (fuel : Nat) {x : Char} {s : List Char} (h : List.IsChain R (x :: s)) :
    List.IsChain R (x :: rs.applyWithin fuel s) := by
  have nonempty : ∀ r ∈ rs, r.1 ≠ [] := by
    intro r hr
    obtain ⟨middle, hmiddle⟩ := between r hr
    simp [hmiddle]
  induction fuel generalizing x s with
  | zero => exact h
  | succ fuel ih =>
      cases found : rs.longestAt? s with
      | none =>
          cases s with
          | nil =>
              rw [applyWithin_nil nonempty]
              exact h
          | cons c s =>
              obtain ⟨here, rest⟩ := List.isChain_cons_cons.mp h
              rw [applyWithin_cons nonempty found]
              exact List.isChain_cons_cons.mpr ⟨here, ih rest⟩
      | some r =>
          obtain ⟨hr, -, rest, rfl⟩ := of_longestAt? found
          obtain ⟨middle, hmiddle⟩ := between r hr
          rw [applyWithin_append found]
          have whole : x :: (r.1 ++ rest) = (x :: '<' :: middle) ++ '>' :: rest := by
            simp [hmiddle]
          rw [whole, List.isChain_split] at h
          obtain ⟨front, back⟩ := h
          have entered : R x '<' := (List.isChain_cons_cons.mp front).1
          obtain ⟨left, later⟩ := List.isChain_cons.mp back
          have after : ∀ z, (∀ y ∈ rest.head?, R z y) → List.IsChain R (z :: rs.applyWithin fuel rest) :=
            fun z next => ih (List.isChain_cons.mpr ⟨next, later⟩)
          have calm := calm r hr
          rcases List.eq_nil_or_concat r.2 with empty | ⟨u, z, hu⟩
          · rw [empty]
            exact after x fun y hy => seals.bridge entered (left y hy)
          · rw [List.concat_eq_append] at hu
            rw [hu] at calm ⊢
            have shape : x :: (u ++ [z] ++ rs.applyWithin fuel rest) =
                (x :: u) ++ z :: rs.applyWithin fuel rest := by simp
            rw [shape, List.isChain_split]
            constructor
            · rw [List.cons_append, List.isChain_cons]
              refine ⟨fun y hy => seals.enter entered ?_, seals.isChain_of_not_mem calm⟩
              exact ne_of_mem_of_not_mem (List.mem_of_mem_head? hy) calm
            · have last : z ≠ '\x7b' := ne_of_mem_of_not_mem (by simp) calm
              exact after z fun y hy => seals.leave last (left y hy)

end Replacements

variable {R : Char → Char → Prop} {text : String}

/-- Replacing the tags that were found by contents without opening braces keeps such a relation. -/
theorem Seals.substitute (seals : Seals R) {names : List String} {tags : List ViewTag}
    (found : Finder.findAll text names = .ok tags) {resolved : List (ViewTag × Content)}
    (whole : resolved.map (·.1) = tags) (calm : ∀ pair ∈ resolved, '\x7b' ∉ pair.2.text.toList)
    (h : List.IsChain R text.toList) :
    List.IsChain R (TagWeave.substitute text resolved).toList := by
  have start : List.IsChain R (' ' :: text.toList) :=
    List.isChain_cons.mpr ⟨fun y _ => seals.blank y, h⟩
  have after : List.IsChain R (' ' ::
      (Replacements.ofResolved resolved).applyWithin (text.toList.length + 1) text.toList) := by
    refine Replacements.isChain_applyWithin seals ?_ ?_ _ start
    · exact fun r hr => (Replacements.of_mem_ofResolved found whole hr).1
    · intro r hr
      obtain ⟨-, pair, hpair, htext⟩ := Replacements.of_mem_ofResolved found whole hr
      rw [htext]
      exact calm pair hpair
  rw [TagWeave.substitute, String.toList_ofList]
  exact after.tail

/-- There are no two opening braces in a row then. -/
theorem Seals.not_infix (seals : Seals R) {s : List Char} (h : List.IsChain R s) :
    ¬ ['\x7b', '\x7b'] <:+: s := by
  intro within
  have pair := List.IsChain.infix h within
  exact seals.apart (List.isChain_pair.mp pair)

end TagWeave
