import Mathlib.Data.List.Basic
import TagWeave.Proofs.Value.Entries
import TagWeave.Value.Merge

/-!
# What a merge holds

When one mapping is laid over another, what is found at a place is told by what both of them
hold there. A value of the upper mapping that is no mapping prevails, and nothing is left
inside of its place; where both hold mappings, these are merged in turn; and where the upper
one says nothing, the lower one stays as it is. Laid over once more, it changes nothing.
-/

namespace TagWeave

namespace Entries

/-- In a mapping, and in each mapping inside of it, there is one entry for each key. -/
inductive Keyed : Entries → Prop
  | intro {entries : Entries} (distinct : entries.Pairwise fun e e' => ¬ e.1.same e'.1)
      (inside : ∀ key inner, (key, Value.dict inner) ∈ entries → Keyed inner) : Keyed entries

variable {a b entries : Entries} {key : Key} {held : Value}

theorem Keyed.distinct (keyed : Keyed entries) :
    entries.Pairwise fun e e' => ¬ e.1.same e'.1 := by
  cases keyed
  assumption

theorem Keyed.of_cons {entry : Key × Value} (keyed : Keyed (entry :: entries)) : Keyed entries := by
  cases keyed with
  | intro distinct inside =>
      exact .intro (List.pairwise_cons.mp distinct).2
        fun key inner among => inside key inner (List.mem_cons_of_mem _ among)

/-- Keys that share an entry have the same value. -/
theorem get?_eq_of_same {key other : Key} (shared : key.same other) (entries : Entries) :
    entries.get? key = entries.get? other := by
  induction entries with
  | nil => rfl
  | cons entry entries ih =>
      have senses : key.sense = other.sense := eq_of_beq shared
      rw [get?_cons, get?_cons, ih, Key.same, Key.same, senses]

/-- What is found is an entry, under a key that shares it. -/
theorem exists_mem_of_get? (found : entries.get? key = some held) :
    ∃ k, (k, held) ∈ entries ∧ k.same key := by
  obtain ⟨entry, there, rfl⟩ := Option.map_eq_some_iff.mp found
  have shared := List.find?_some there
  exact ⟨entry.1, List.mem_of_find?_eq_some there, shared⟩

/-- If each key occurs once, an entry is what is found under its key. -/
theorem get?_of_mem (distinct : entries.Pairwise fun e e' => ¬ e.1.same e'.1)
    (among : (key, held) ∈ entries) : entries.get? key = some held := by
  induction entries with
  | nil => cases among
  | cons entry entries ih =>
      obtain ⟨apart, distinct⟩ := List.pairwise_cons.mp distinct
      rw [get?_cons]
      rcases List.mem_cons.mp among with rfl | among
      · have shared : key.same key := beq_self_eq_true key.sense
        rw [if_pos shared]
      · rw [if_neg (apart _ among), ih distinct among]

/-- The mapping that is found under a key is keyed, too. -/
theorem Keyed.get? {inner : Entries} (keyed : Keyed entries)
    (found : entries.get? key = some (.dict inner)) : Keyed inner := by
  cases keyed with
  | intro _ inside =>
      obtain ⟨k, among, -⟩ := exists_mem_of_get? found
      exact inside k inner among

/-- Setting what is already there changes nothing. -/
theorem insert_of_get? (found : entries.get? key = some held) : entries.insert key held = entries := by
  induction entries with
  | nil => cases found
  | cons entry entries ih =>
      rw [get?_cons] at found
      rw [insert]
      split
      · next shared =>
        rw [if_pos shared] at found
        rw [← Option.some.inj found]
      · next differ =>
        rw [if_neg differ] at found
        rw [ih found]

/-- What is set under a new key comes last. -/
theorem insert_of_get?_eq_none (fresh : entries.get? key = none) (held : Value) :
    entries.insert key held = entries ++ [(key, held)] := by
  induction entries with
  | nil => rfl
  | cons entry entries ih =>
      rw [get?_cons] at fresh
      split at fresh
      · cases fresh
      · next differ => rw [insert, if_neg differ, ih fresh, List.cons_append]

theorem keys_insert (entries : Entries) (key : Key) (held : Value) :
    (entries.insert key held).map (·.1) =
      if entries.has key then entries.map (·.1) else entries.map (·.1) ++ [key] := by
  induction entries with
  | nil => rfl
  | cons entry entries ih =>
      rw [insert, has, get?_cons]
      by_cases shared : entry.1.same key
      · rw [if_pos shared, if_pos shared]
        rfl
      · rw [if_neg shared, if_neg shared, List.map_cons, ih, has]
        split
        · rfl
        · rfl

theorem has_insert (entries : Entries) (key : Key) (held : Value) (other : Key) :
    (entries.insert key held).has other = (key.same other || entries.has other) := by
  rw [has, get?_insert, has]
  cases key.same other <;> rfl

/-! ### Entries -/

/-- The mapping that a value is, or else one without entries. -/
def ofHeld (held? : Option Value) : Entries := (held?.bind Value.entries?).getD []

/-- Laid over entries with other keys, a mapping comes after them. -/
theorem merge_eq_append (distinct : (a ++ b).Pairwise fun e e' => ¬ e.1.same e'.1) :
    merge a b = a ++ b := by
  induction b generalizing a with
  | nil => rw [merge, List.append_nil]
  | cons entry b ih =>
      obtain ⟨key, held⟩ := entry
      have fresh : get? a key = none := by
        rw [get?, Option.map_eq_none_iff, List.find?_eq_none]
        intro entry among
        exact (List.pairwise_append.mp distinct).2.2 entry among _ (List.mem_cons_self ..)
      have new : mergeValue (get? a key) held = held := by
        rw [fresh]
        cases held <;> rfl
      rw [List.append_cons] at distinct ⊢
      rw [merge, new, insert_of_get?_eq_none fresh, ih distinct]

theorem merge_nil_left (distinct : b.Pairwise fun e e' => ¬ e.1.same e'.1) : merge [] b = b :=
  merge_eq_append distinct

/-- A mapping is laid over the mapping that was there, or over none. -/
theorem mergeValue_dict {inner : Entries} (keyed : Keyed inner) (current : Option Value) :
    mergeValue current (.dict inner) = .dict (merge (ofHeld current) inner) := by
  rcases current with _ | held
  · exact congrArg Value.dict (merge_nil_left keyed.distinct).symm
  · cases held with
    | dict base => rfl
    | _ => exact congrArg Value.dict (merge_nil_left keyed.distinct).symm

/-- Anything else takes the place of what was there. -/
theorem mergeValue_of_entries? (single : held.entries? = none) (current : Option Value) :
    mergeValue current held = held := by
  cases held with
  | dict => cases single
  | _ => rfl

/-- What is found under a key: what the lower mapping holds, or else what comes about when the
value of the upper one is laid over it. -/
theorem get?_merge (keyed : Keyed b) (a : Entries) (key : Key) :
    get? (merge a b) key =
      match b.get? key with
      | none => a.get? key
      | some held => some (mergeValue (a.get? key) held) := by
  induction b generalizing a with
  | nil => rw [merge, get?_nil]
  | cons entry b ih =>
      obtain ⟨k, held⟩ := entry
      rw [merge, ih keyed.of_cons, get?_insert, get?_cons]
      by_cases shared : k.same key
      · have once : get? b key = none := by
          rw [← get?_eq_of_same shared, get?, Option.map_eq_none_iff, List.find?_eq_none]
          intro entry among same
          refine (List.pairwise_cons.mp keyed.distinct).1 entry among ?_
          exact beq_iff_eq.mpr (eq_of_beq same).symm
        rw [once, if_pos shared, if_pos shared, get?_eq_of_same shared]
      · rw [if_neg shared, if_neg shared]

/-- The keys of the lower mapping come first, then those that only the upper one has. -/
theorem keys_merge (keyed : Keyed b) (a : Entries) :
    (merge a b).map (·.1) = a.map (·.1) ++ (b.map (·.1)).filter fun key => !a.has key := by
  induction b generalizing a with
  | nil => rw [merge, List.map_nil, List.filter_nil, List.append_nil]
  | cons entry b ih =>
      obtain ⟨key, held⟩ := entry
      have later : ∀ k ∈ List.map (·.1) b,
          (a.insert key (mergeValue (a.get? key) held)).has k = a.has k := by
        intro k known
        obtain ⟨other, among, rfl⟩ := List.mem_map.mp known
        have apart := (List.pairwise_cons.mp keyed.distinct).1 other among
        rw [has_insert, Bool.eq_false_iff.mpr apart, Bool.false_or]
      rw [merge, ih keyed.of_cons, keys_insert, List.map_cons, List.filter_cons,
        List.filter_congr fun k among => congrArg (!·) (later k among)]
      cases a.has key with
      | true => rfl
      | false => exact List.append_assoc ..

/-- If each entry of the upper mapping leaves the lower one as it is, so does all of it. -/
theorem merge_eq_self (settled : ∀ key held, (key, held) ∈ b →
    a.get? key = some (mergeValue (a.get? key) held)) : merge a b = a := by
  induction b with
  | nil => rw [merge]
  | cons entry b ih =>
      rw [merge, insert_of_get? (settled _ _ (List.mem_cons_self ..))]
      exact ih fun key held among => settled key held (List.mem_cons_of_mem _ among)

/-- Laid over once more, a mapping changes nothing. -/
theorem merge_merge (keyed : Keyed b) (a : Entries) : merge (merge a b) b = merge a b := by
  induction keyed generalizing a with
  | @intro b distinct inside ih =>
      apply merge_eq_self
      intro key held among
      have keyed : Keyed b := .intro distinct inside
      simp only [get?_merge keyed, get?_of_mem distinct among, Option.some.injEq]
      cases held with
      | dict inner =>
          have keyed := inside key inner among
          rw [mergeValue_dict keyed, mergeValue_dict keyed]
          exact congrArg Value.dict (ih key inner among (ofHeld (get? a key))).symm
      | _ => rfl

/-! ### Places -/

/-- Nothing is found inside of a value that is no mapping. -/
theorem at?_cons_of_entries? (single : held.entries? = none) (key : Key) (keys : List Key) :
    held.at? (key :: keys) = none := by
  cases held with
  | dict => cases single
  | _ => rfl

/-- What stands at the end of a place stands inside of what its beginning leads to. -/
theorem at?_append (value : Value) (outer inner : List Key) :
    value.at? (outer ++ inner) = (value.at? outer).bind (·.at? inner) := by
  induction outer generalizing value with
  | nil => rw [List.nil_append, Value.at?, Option.bind_some]
  | cons key keys ih =>
      cases value with
      | dict entries =>
          rw [List.cons_append, Value.at?_dict_cons, Value.at?_dict_cons, Option.bind_assoc]
          exact congrArg _ (funext fun held => ih held)
      | _ => rfl

/-- Inside of a value the mapping that it is has the same places. -/
theorem at?_ofHeld (held? : Option Value) (key : Key) (keys : List Key) :
    (Value.dict (ofHeld held?)).at? (key :: keys) = held?.bind (·.at? (key :: keys)) := by
  rcases held? with _ | held
  · rfl
  · cases held <;> rfl

variable {place : List Key}

/-- The mapping that is found at a place is keyed, too. -/
theorem Keyed.at? {inner : Entries} (keyed : Keyed entries)
    (there : (Value.dict entries).at? place = some (.dict inner)) : Keyed inner := by
  induction place generalizing entries with
  | nil =>
      rw [Value.at?, Option.some.injEq, Value.dict.injEq] at there
      exact there ▸ keyed
  | cons key keys ih =>
      rw [Value.at?_dict_cons] at there
      obtain ⟨held, found, there⟩ := Option.bind_eq_some_iff.mp there
      cases held with
      | dict middle => exact ih (keyed.get? found) there
      | _ => cases keys <;> cases there

/-- Where the upper mapping holds a mapping, it is merged with what the lower one holds there. -/
theorem at?_merge_of_dict (keyed : Keyed b) {inner : Entries}
    (there : (Value.dict b).at? place = some (.dict inner)) (a : Entries) :
    (Value.dict (merge a b)).at? place =
      some (.dict (merge (ofHeld ((Value.dict a).at? place)) inner)) := by
  induction place generalizing a b with
  | nil =>
      rw [Value.at?, Option.some.injEq, Value.dict.injEq] at there
      subst there
      rfl
  | cons key keys ih =>
      rw [Value.at?_dict_cons] at there ⊢
      obtain ⟨held, found, there⟩ := Option.bind_eq_some_iff.mp there
      rw [get?_merge keyed, found, Option.bind_some]
      cases held with
      | dict middle =>
          have keyed := keyed.get? found
          rw [mergeValue_dict keyed, ih keyed there]
          cases keys with
          | nil =>
              have here : (Value.dict a).at? [key] = a.get? key := Option.bind_fun_some _
              rw [here]
              rfl
          | cons next keys => rw [at?_ofHeld, Value.at?_dict_cons]
      | _ => cases keys <;> cases there

/-- A value of the upper mapping that is no mapping is found where it was. -/
theorem at?_merge_of_single (keyed : Keyed b) (single : held.entries? = none)
    (there : (Value.dict b).at? place = some held) (a : Entries) :
    (Value.dict (merge a b)).at? place = some held := by
  rcases List.eq_nil_or_concat place with rfl | ⟨outer, key, rfl⟩
  · rw [Value.at?, Option.some.injEq] at there
    subst there
    cases single
  · rw [List.concat_eq_append, at?_append] at there ⊢
    obtain ⟨around, outside, there⟩ := Option.bind_eq_some_iff.mp there
    cases around with
    | dict middle =>
        rw [Value.at?_dict_cons] at there
        obtain ⟨value, found, there⟩ := Option.bind_eq_some_iff.mp there
        rw [Value.at?, Option.some.injEq] at there
        subst there
        rw [at?_merge_of_dict keyed outside, Option.bind_some, Value.at?_dict_cons,
          get?_merge (keyed.at? outside), found, Option.bind_some, mergeValue_of_entries? single]
        rfl
    | _ => cases there

/-- Inside of a value that is no mapping nothing is left of the lower one. -/
theorem at?_merge_of_single_around (keyed : Keyed b) (single : held.entries? = none)
    {around : List Key} (before : around <+: place) (proper : around ≠ place)
    (there : (Value.dict b).at? around = some held) (a : Entries) :
    (Value.dict (merge a b)).at? place = none := by
  obtain ⟨inner, rfl⟩ := before
  rw [at?_append, at?_merge_of_single keyed single there, Option.bind_some]
  cases inner with
  | nil => exact absurd (List.append_nil around).symm proper
  | cons key keys => exact at?_cons_of_entries? single key keys

/-- Where the upper mapping says nothing, and not because of a value around, what the lower one
holds is found. -/
theorem at?_merge_of_none (keyed : Keyed b) (absent : (Value.dict b).at? place = none)
    (uncovered : ∀ around held, around <+: place → (Value.dict b).at? around = some held →
      held.entries? ≠ none) (a : Entries) :
    (Value.dict (merge a b)).at? place = (Value.dict a).at? place := by
  induction place generalizing a b with
  | nil => cases absent
  | cons key keys ih =>
      rw [Value.at?_dict_cons] at absent ⊢
      rw [get?_merge keyed]
      cases found : b.get? key with
      | none => rw [Value.at?_dict_cons]
      | some held =>
          rw [found, Option.bind_some] at absent
          have here : (Value.dict b).at? [key] = some held := by
            rw [Value.at?_dict_cons, found]
            rfl
          obtain ⟨middle, rfl⟩ : ∃ middle, held = .dict middle := by
            have mapping := uncovered [key] held ((List.prefix_cons_inj key).mpr (List.nil_prefix)) here
            cases held with
            | dict middle => exact ⟨middle, rfl⟩
            | _ => exact absurd rfl mapping
          have keyed := keyed.get? found
          have inside : ∀ around held, around <+: keys → (Value.dict middle).at? around = some held →
              held.entries? ≠ none := by
            intro around held before there
            refine uncovered (key :: around) held ((List.prefix_cons_inj key).mpr before) ?_
            rw [Value.at?_dict_cons, found, Option.bind_some, there]
          rw [Option.bind_some, mergeValue_dict keyed, ih keyed absent inside, Value.at?_dict_cons]
          cases keys with
          | nil => cases absent
          | cons next keys => rw [at?_ofHeld]

/-- Place by place, what one mapping laid over another holds; in which order the keys come; and that
the upper mapping, laid over once more, changes nothing. -/
theorem merge_place_by_place (keyed : Keyed b) (a : Entries) :
    (∀ place,
      (∀ held, (Value.dict b).at? place = some held → held.entries? = none →
        (Value.dict (merge a b)).at? place = some held) ∧
      (∀ around held, around <+: place → around ≠ place →
        (Value.dict b).at? around = some held → held.entries? = none →
        (Value.dict (merge a b)).at? place = none) ∧
      ((Value.dict b).at? place = none →
        (∀ around held, around <+: place → (Value.dict b).at? around = some held →
          held.entries? ≠ none) →
        (Value.dict (merge a b)).at? place = (Value.dict a).at? place) ∧
      ∀ inner, (Value.dict b).at? place = some (.dict inner) →
        (Value.dict (merge a b)).at? place =
          some (.dict (merge (ofHeld ((Value.dict a).at? place)) inner))) ∧
    (merge a b).map (·.1) = a.map (·.1) ++ (b.map (·.1)).filter (fun key => !a.has key) ∧
    merge (merge a b) b = merge a b := by
  refine ⟨fun place => ⟨?single, ?around, ?none, ?dict⟩, keys_merge keyed a, merge_merge keyed a⟩
  case single =>
    intro held there single
    exact at?_merge_of_single keyed single there a
  case around =>
    intro around held before proper there single
    exact at?_merge_of_single_around keyed single before proper there a
  case none =>
    intro absent uncovered
    exact at?_merge_of_none keyed absent uncovered a
  case dict =>
    intro inner there
    exact at?_merge_of_dict keyed there a

/-- A text over a mapping, nothing over a list and a mapping over a number, next to an entry that only
the lower mapping has. -/
theorem merge_of_unlike_shapes :
    let a : Entries := [(.str "x", .dict [(.str "y", .int 1), (.str "z", .null)]),
      (.str "s", .list [.int 3]), (.str "n", .int 5)]
    let b : Entries := [(.str "m", .bool true), (.str "x", .dict [(.str "y", .str "t")]),
      (.str "s", .null), (.str "n", .dict [(.str "k", .int 7)])]
    Keyed b ∧
      (Value.dict (merge a b)).at? [.str "x", .str "y"] = some (.str "t") ∧
      (Value.dict (merge a b)).at? [.str "s", .str "k"] = none ∧
      (Value.dict (merge a b)).at? [.str "x", .str "z"] = some .null ∧
      (Value.dict (merge a b)).at? [.str "n"] = some (.dict [(.str "k", .int 7)]) ∧
      (merge a b).map (·.1) = [.str "x", .str "s", .str "n", .str "m"] ∧
      merge (merge a b) b = merge a b := by
  intro a b
  have keyed : Keyed b := by
    refine .intro (by decide) fun key inner among => ?_
    have single : key = .str "x" ∧ inner = [(.str "y", .str "t")] ∨
        key = .str "n" ∧ inner = [(.str "k", .int 7)] := by
      simpa [b] using among
    rcases single with ⟨-, rfl⟩ | ⟨-, rfl⟩
    · exact .intro (by decide) fun key inner among => by simp at among
    · exact .intro (by decide) fun key inner among => by simp at among
  obtain ⟨places, keys, again⟩ := merge_place_by_place keyed a
  refine ⟨keyed, ?text, ?inside, ?kept, ?mapping, keys, again⟩
  case text => exact (places _).1 _ rfl rfl
  case inside => exact (places _).2.1 [.str "s"] .null (by decide) (by decide) rfl rfl
  case kept =>
    refine (places [.str "x", .str "z"]).2.2.1 rfl fun around held before there => ?_
    rcases List.prefix_cons_iff.mp before with rfl | ⟨inner, rfl, inside⟩
    · cases there
      nofun
    · rcases List.prefix_cons_iff.mp inside with rfl | ⟨last, rfl, ended⟩
      · cases there
        nofun
      · rw [List.prefix_nil.mp ended] at there
        cases there
  case mapping => exact (places [.str "n"]).2.2.2 [(.str "k", .int 7)] rfl

end Entries

end TagWeave
