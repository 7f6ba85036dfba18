import TagWeave.Value.Basic

/-!
# The entries of a mapping

What is found in a mapping whose keys are all texts is what its fields say. Mappings that stand one
inside the other have places, which are told by the keys that lead there.
-/

namespace TagWeave

theorem Key.same_str (a b : String) : (Key.str a).same (.str b) = (b == a) := by
  rw [Bool.eq_iff_iff]
  simp only [Key.same, Key.sense, beq_iff_eq, Key.Sense.text.injEq]
  exact eq_comm

/-- A text is no number and not nothing, so that such a key is no key of a field. -/
theorem Key.not_same_str {key : Key} (other : ∀ name, key ≠ .str name) (name : String) :
    (Key.str name).same key = false := by
  rw [Key.same, beq_eq_false_iff_ne]
  cases key with
  | null | bool | int => simp [Key.sense]
  | float x => by_cases whole : Number.isWhole x <;> simp [Key.sense, whole]
  | str name => exact absurd rfl (other name)

/-- Only a text shares an entry with a text, and only the same one. -/
theorem Key.same_str_iff {name : String} {key : Key} :
    (Key.str name).same key = true ↔ key = .str name := by
  constructor
  · intro same
    by_cases text : ∃ other, key = .str other
    · obtain ⟨other, rfl⟩ := text
      rw [Key.same_str, beq_iff_eq] at same
      rw [same]
    · rw [Key.not_same_str fun other is => text ⟨other, is⟩] at same
      cases same
  · rintro rfl
    rw [Key.same_str, beq_self_eq_true]

theorem Key.same_of_same {key other : Key} (same : key.same other) (third : Key) :
    key.same third = other.same third := by
  rw [Key.same, Key.same, eq_of_beq same]

theorem Key.not_same_of_same {key other third : Key} (differ : ¬ key.same other)
    (same : key.same third) : other.same third = false := by
  rw [Key.same, beq_eq_false_iff_ne]
  intro there
  exact differ (beq_iff_eq.mpr ((eq_of_beq same).trans there.symm))

namespace Entries

@[simp] theorem get?_nil (key : Key) : get? [] key = none := rfl

theorem get?_cons (k : Key) (held : Value) (entries : Entries) (key : Key) :
    get? ((k, held) :: entries) key = if k.same key then some held else entries.get? key := by
  rw [get?, get?, List.find?_cons]
  cases k.same key <;> rfl

/-- What is set under a key is found under the keys that share its entry, and nothing else has
changed. -/
theorem get?_insert (entries : Entries) (key : Key) (value : Value) (other : Key) :
    (entries.insert key value).get? other =
      if key.same other then some value else entries.get? other := by
  induction entries with
  | nil => rw [insert, get?_cons]
  | cons entry entries ih =>
      obtain ⟨k, held⟩ := entry
      rw [insert]
      split
      · next shared =>
        rw [get?_cons, get?_cons, Key.same_of_same shared]
        cases key.same other <;> rfl
      · next differ =>
        rw [get?_cons, get?_cons, ih]
        by_cases here : k.same other
        · rw [if_pos here, if_pos here, Key.not_same_of_same differ here]
          rfl
        · rw [if_neg here, if_neg here]

theorem get?_ofFields (fields : List (String × Value)) (name : String) :
    get? (fields.map fun field => (.str field.1, field.2)) (.str name) = fields.lookup name := by
  induction fields with
  | nil => rfl
  | cons field fields ih =>
      rw [get?] at ih ⊢
      rw [List.map_cons, List.find?_cons, List.lookup_cons, Key.same_str]
      cases name == field.1 with
      | true => rfl
      | false => exact ih

/-- Nothing is found under a key if it is no text, or a text that no field has. -/
theorem get?_ofFields_eq_none {fields : List (String × Value)} {key : Key}
    (absent : ∀ name, key = .str name → fields.lookup name = none) :
    get? (fields.map fun field => (.str field.1, field.2)) key = none := by
  by_cases text : ∃ name, key = .str name
  · obtain ⟨name, rfl⟩ := text
    rw [get?_ofFields, absent name rfl]
  · rw [get?, Option.map_eq_none_iff, List.find?_eq_none]
    intro entry member
    obtain ⟨field, -, rfl⟩ := List.mem_map.mp member
    simp [Key.not_same_str fun name same => text ⟨name, same⟩]

/-- Fields that are made of items with different names: under a name is what is made of its item. -/
theorem lookup_map_eq_some_iff {α β : Type} {items : List α} {name : α → String} {made : α → β}
    (distinct : (items.map name).Nodup) {key : String} {value : β} :
    (items.map fun item => (name item, made item)).lookup key = some value ↔
      ∃ item ∈ items, name item = key ∧ made item = value := by
  induction items with
  | nil => simp
  | cons item items ih =>
      rw [List.map_cons, List.nodup_cons] at distinct
      rw [List.map_cons, List.lookup_cons]
      by_cases same : key = name item
      · subst same
        have once : ∀ other ∈ items, name other ≠ name item :=
          fun other member named => distinct.1 (List.mem_map.mpr ⟨other, member, named⟩)
        simp only [beq_self_eq_true, Option.some.injEq, List.mem_cons, exists_eq_or_imp, true_and]
        exact ⟨.inl, fun there => there.resolve_right
          fun ⟨other, member, named, _⟩ => once other member named⟩
      · simp [beq_false_of_ne same, ih distinct.2, Ne.symm same]

end Entries

@[simp] theorem Value.field?_ofFields (fields : List (String × Value)) (name : String) :
    (Value.ofFields fields).field? name = fields.lookup name :=
  Entries.get?_ofFields fields name

/-- The value at a place: keys, one inside the other. -/
def Value.at? : Value → List Key → Option Value
  | value, [] => some value
  | .dict entries, key :: keys => (Entries.get? entries key).bind fun held => held.at? keys
  | _, _ :: _ => none

theorem Value.at?_dict_cons (entries : Entries) (key : Key) (keys : List Key) :
    (Value.dict entries).at? (key :: keys) = (entries.get? key).bind (·.at? keys) := rfl

end TagWeave
