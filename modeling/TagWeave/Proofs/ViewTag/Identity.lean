import TagWeave.Proofs.Json.Escape
import TagWeave.Proofs.Text.Utf8
import TagWeave.ViewTag.Basic

/-!
# The identity of a tag

The canonical text of a tag's identity tells its name, its content and its attributes
in their order. So tags with the same fingerprint have the same identity, unless two of
the canonical texts collide under the digest.
-/

namespace TagWeave.ViewTag

open TagWeave.Text

theorem canonicalText_append_inj {s t : String} {rest rest' : List Char}
    (h : canonicalText s ++ rest = canonicalText t ++ rest') : s = t ∧ rest = rest' := by
  obtain ⟨same, rest⟩ := Json.quotedBy_escaped_append_inj h
  exact ⟨String.toList_injective same, rest⟩

theorem canonicalAttribute_append_inj {a b : Attribute} {rest rest' : List Char}
    (h : canonicalAttribute a ++ rest = canonicalAttribute b ++ rest') : a = b ∧ rest = rest' := by
  simp only [canonicalAttribute, List.cons_append, List.append_assoc, List.nil_append,
    List.cons.injEq, true_and] at h
  obtain ⟨key, tail⟩ := canonicalText_append_inj h
  obtain ⟨value, last⟩ := canonicalText_append_inj (List.cons.inj tail).2
  refine ⟨?_, (List.cons.inj last).2⟩
  cases a
  cases b
  simp only at key value
  rw [key, value]

/-- A list of attributes is told by its canonical text and the bracket behind it. -/
theorem separated_append_inj {as bs : List Attribute} {rest rest' : List Char}
    (h : separated (as.map canonicalAttribute) ++ ']' :: rest =
      separated (bs.map canonicalAttribute) ++ ']' :: rest') : as = bs ∧ rest = rest' := by
  induction as generalizing bs with
  | nil =>
      cases bs with
      | nil => exact ⟨rfl, (List.cons.inj h).2⟩
      | cons b bs => cases bs <;> simp [separated, canonicalAttribute] at h
  | cons a as ih =>
      cases bs with
      | nil => cases as <;> simp [separated, canonicalAttribute] at h
      | cons b bs =>
          cases as with
          | nil =>
              cases bs with
              | nil =>
                  obtain ⟨rfl, tail⟩ := canonicalAttribute_append_inj h
                  exact ⟨rfl, (List.cons.inj tail).2⟩
              | cons c bs =>
                  simp only [List.map_cons, List.map_nil, separated, List.append_assoc] at h
                  obtain ⟨-, tail⟩ := canonicalAttribute_append_inj h
                  simp at tail
          | cons c as =>
              cases bs with
              | nil =>
                  simp only [List.map_cons, List.map_nil, separated, List.append_assoc] at h
                  obtain ⟨-, tail⟩ := canonicalAttribute_append_inj h
                  simp at tail
              | cons d bs =>
                  simp only [List.map_cons, separated, List.append_assoc] at h
                  obtain ⟨rfl, tail⟩ := canonicalAttribute_append_inj h
                  rw [List.cons_append, List.cons_append, ← List.map_cons, ← List.map_cons] at tail
                  obtain ⟨same, rest⟩ := ih (List.cons.inj tail).2
                  rw [same]
                  exact ⟨rfl, rest⟩

/-- The canonical text tells the whole identity. -/
theorem canonicalForm_inj {name name' content content' : String} {as as' : List Attribute}
    (h : canonicalForm name content as = canonicalForm name' content' as') :
    name = name' ∧ content = content' ∧ as = as' := by
  have bracket : "],\"content\":".toList = ']' :: ",\"content\":".toList := by decide
  delta canonicalForm at h
  rw [bracket] at h
  -- the fixed parts are of no concern, and stay closed
  generalize "\x7b\"attributes\":[".toList = opening at h
  generalize ",\"content\":".toList = beforeContent at h
  generalize ",\"tag\":".toList = beforeName at h
  simp only [List.append_assoc, List.cons_append, List.append_cancel_left_eq] at h
  obtain ⟨hattributes, h⟩ := separated_append_inj h
  rw [List.append_cancel_left_eq] at h
  obtain ⟨hcontent, h⟩ := canonicalText_append_inj h
  rw [List.append_cancel_left_eq] at h
  obtain ⟨hname, -⟩ := canonicalText_append_inj h
  exact ⟨hname, hcontent, hattributes⟩

/-- Two tags have the same name, the same content and the same attributes in the same order. -/
structure SameIdentity (tag tag' : ViewTag) : Prop where
  name : tag.name = tag'.name
  content : tag.content = tag'.content
  attributes : tag.attributes = tag'.attributes

theorem SameIdentity.fingerprint {tag tag' : ViewTag} (same : SameIdentity tag tag') :
    tag.fingerprint = tag'.fingerprint := by
  rw [ViewTag.fingerprint, ViewTag.fingerprint, same.name, same.content, same.attributes]

/-- The bytes of which a tag's fingerprint is the digest. -/
def digested (name content : String) (attributes : List Attribute) : List UInt8 :=
  encode (String.ofList (canonicalForm name content attributes))

theorem digested_inj {name name' content content' : String} {as as' : List Attribute}
    (h : digested name content as = digested name' content' as') :
    name = name' ∧ content = content' ∧ as = as' :=
  canonicalForm_inj (String.ofList_injective (encode_injective h))

/-- No two of the messages have the same digest. -/
def NoCollision (messages : List (List UInt8)) : Prop :=
  ∀ m ∈ messages, ∀ m' ∈ messages, Digest.sha256 m = Digest.sha256 m' → m = m'

/-- Tags with the same fingerprint have the same identity. -/
theorem identity_of_fingerprint {messages : List (List UInt8)} (distinct : NoCollision messages)
    {tag tag' : ViewTag} (h : digested tag.name tag.content tag.attributes ∈ messages)
    (h' : digested tag'.name tag'.content tag'.attributes ∈ messages)
    (same : tag.fingerprint = tag'.fingerprint) :
    tag.name = tag'.name ∧ tag.content = tag'.content ∧ tag.attributes = tag'.attributes :=
  digested_inj (distinct _ h _ h' same)

/-! ### Keys of caches -/

theorem length_hexDigits (width n : Nat) : (hexDigits width n).length = width := by
  induction width generalizing n with
  | zero => rfl
  | succ width ih => rw [hexDigits, List.length_append, ih, List.length_singleton]

theorem length_sha256 (message : List UInt8) : (Digest.sha256 message).toList.length = 64 := by
  simp [Digest.sha256, Digest.State.words, length_hexDigits]

/-- All fingerprints are of the same length, so a key tells the name from the fingerprint. -/
theorem cacheKey_inj {tag tag' : ViewTag} (h : tag.cacheKey = tag'.cacheKey) :
    tag.name = tag'.name ∧ tag.fingerprint = tag'.fingerprint := by
  have lists := congrArg String.toList h
  simp only [cacheKey, String.toList_append] at lists
  have lengths : tag.fingerprint.toList.length = tag'.fingerprint.toList.length :=
    (length_sha256 _).trans (length_sha256 _).symm
  obtain ⟨names, fingerprints⟩ := List.append_inj' lists lengths
  exact ⟨String.toList_injective (List.append_cancel_right names),
    String.toList_injective fingerprints⟩

/-- Tags with the same key have the same identity. -/
theorem sameIdentity_of_cacheKey {messages : List (List UInt8)} (distinct : NoCollision messages)
    {tag tag' : ViewTag} (h : digested tag.name tag.content tag.attributes ∈ messages)
    (h' : digested tag'.name tag'.content tag'.attributes ∈ messages)
    (same : tag.cacheKey = tag'.cacheKey) : SameIdentity tag tag' := by
  obtain ⟨name, content, attributes⟩ :=
    identity_of_fingerprint distinct h h' (cacheKey_inj same).2
  exact ⟨name, content, attributes⟩

/-! ### Collisions

Without any assumption on the digest: whatever two tags of different identity share, a
fingerprint or a key, is the digest of two different messages. -/

theorem SameIdentity.cacheKey {tag tag' : ViewTag} (same : SameIdentity tag tag') :
    tag.cacheKey = tag'.cacheKey := by
  rw [ViewTag.cacheKey, ViewTag.cacheKey, same.name, same.fingerprint]

/-- Two messages have one digest. -/
def Collide (m m' : List UInt8) : Prop := m ≠ m' ∧ Digest.sha256 m = Digest.sha256 m'

theorem fingerprint_eq_iff (tag tag' : ViewTag) :
    tag.fingerprint = tag'.fingerprint ↔ SameIdentity tag tag' ∨
      Collide (digested tag.name tag.content tag.attributes)
        (digested tag'.name tag'.content tag'.attributes) := by
  constructor
  · intro same
    by_cases spelled : digested tag.name tag.content tag.attributes =
        digested tag'.name tag'.content tag'.attributes
    · obtain ⟨name, content, attributes⟩ := digested_inj spelled
      exact .inl ⟨name, content, attributes⟩
    · exact .inr ⟨spelled, same⟩
  · rintro (same | collision)
    · exact same.fingerprint
    · exact collision.2

theorem cacheKey_eq_iff (tag tag' : ViewTag) :
    tag.cacheKey = tag'.cacheKey ↔ SameIdentity tag tag' ∨ (tag.name = tag'.name ∧
      Collide (digested tag.name tag.content tag.attributes)
        (digested tag'.name tag'.content tag'.attributes)) := by
  constructor
  · intro same
    obtain ⟨name, fingerprint⟩ := cacheKey_inj same
    exact ((fingerprint_eq_iff tag tag').mp fingerprint).imp_right fun collision =>
      ⟨name, collision⟩
  · rintro (same | ⟨name, collision⟩)
    · exact same.cacheKey
    · have fingerprint := (fingerprint_eq_iff tag tag').mpr (.inr collision)
      rw [ViewTag.cacheKey, ViewTag.cacheKey, name, fingerprint]

/-- The canonical text tells name, content and the attributes in their order, whatever
characters they are made of. Two tags have one fingerprint if they have the same identity,
and otherwise only where their canonical texts collide under the digest; the same holds of
the keys under which caches keep their contents, and then the names agree even so. -/
theorem identity_told_by_canonicalForm :
    (∀ (name name' content content' : String) (as as' : List Attribute),
      canonicalForm name content as = canonicalForm name' content' as' ↔
        name = name' ∧ content = content' ∧ as = as') ∧
    ∀ tag tag' : ViewTag,
      (tag.fingerprint = tag'.fingerprint ↔ SameIdentity tag tag' ∨
        Collide (digested tag.name tag.content tag.attributes)
          (digested tag'.name tag'.content tag'.attributes)) ∧
      (tag.cacheKey = tag'.cacheKey ↔ SameIdentity tag tag' ∨ (tag.name = tag'.name ∧
        Collide (digested tag.name tag.content tag.attributes)
          (digested tag'.name tag'.content tag'.attributes))) := by
  refine ⟨fun name name' content content' as as' => ⟨canonicalForm_inj, ?_⟩,
    fun tag tag' => ⟨fingerprint_eq_iff tag tag', cacheKey_eq_iff tag tag'⟩⟩
  rintro ⟨rfl, rfl, rfl⟩
  rfl

end TagWeave.ViewTag
