import TagWeave.Proofs.Found
import TagWeave.Proofs.ViewTag.Name
import TagWeave.Registry

/-!
# What stands in registries

A table of retrievers becomes a registry if its names are those of tags, no two of them alike up to
case, and if what stands under them are retrievers. The registry has its names in lower case, and
what it finds for a name in any case is what stands under it. A retriever that is set for a name
takes the place of the one that stood there, and all others stay.
-/

namespace TagWeave

open TagWeave.Text

namespace Registry

/-! ### Tables -/

variable {τ σ : Type} {entries rest result table : List (String × Retriever τ σ)}
variable {registry registry' : Registry τ σ} {name : String} {retriever : Retriever τ σ}

theorem addEntry_eq_ok_iff :
    addEntry entries name retriever = .ok result ↔
      (ViewTag.isName name ∧ retriever.isGenuine) ∧ lower name ∉ entries.map (·.1) ∧
        result = entries ++ [(lower name, retriever)] := by
  have twice : entries.any (·.1 = lower name) = decide (lower name ∈ entries.map (·.1)) := by
    rw [Bool.eq_iff_iff, List.any_eq_true, decide_eq_true_iff, List.mem_map]
    simp only [decide_eq_true_eq]
  rw [addEntry, twice]
  cases ViewTag.isName name with
  | false => simp
  | true =>
      cases retriever.isGenuine with
      | false => simp
      | true =>
          by_cases there : lower name ∈ entries.map (·.1)
          · simp only [there]
            simp
          · simp only [there]
            simp [@eq_comm _ result]

/-- Retrievers are added to others if their names are those of tags, each of which occurs once. -/
theorem addEntries_eq_ok_iff (distinct : (entries.map (·.1)).Nodup) :
    addEntries entries rest = .ok result ↔
      (∀ r ∈ rest, ViewTag.isName r.1 ∧ r.2.isGenuine) ∧
        (entries.map (·.1) ++ rest.map (lower ·.1)).Nodup ∧
        result = entries ++ rest.map fun r => (lower r.1, r.2) := by
  induction rest generalizing entries with
  | nil => simp [addEntries, distinct, @eq_comm _ result]
  | cons entry rest ih =>
      obtain ⟨name, retriever⟩ := entry
      have step : addEntries entries ((name, retriever) :: rest) = .ok result ↔
          ∃ more, addEntry entries name retriever = .ok more ∧ addEntries more rest = .ok result := by
        rw [addEntries]
        cases addEntry entries name retriever <;> simp
      have fresh : (entries.map (·.1) ++ lower name :: rest.map (lower ·.1)).Nodup ↔
          lower name ∉ entries.map (·.1) ∧
            ((entries ++ [(lower name, retriever)]).map (·.1) ++ rest.map (lower ·.1)).Nodup := by
        rw [List.map_append, List.map_singleton, List.append_assoc, List.singleton_append]
        refine ⟨fun all => ⟨fun there => ?_, all⟩, And.right⟩
        exact (List.nodup_append.mp all).2.2 _ there _ (List.mem_cons_self ..) rfl
      rw [step, List.forall_mem_cons, List.map_cons, List.map_cons, fresh]
      constructor
      · rintro ⟨more, added, others⟩
        obtain ⟨good, absent, rfl⟩ := addEntry_eq_ok_iff.mp added
        have once : ((entries ++ [(lower name, retriever)]).map (·.1)).Nodup := by
          rw [List.map_append, List.map_singleton]
          exact List.nodup_append'.mpr ⟨distinct, List.nodup_singleton _, by simpa using absent⟩
        obtain ⟨goods, all, rfl⟩ := (ih once).mp others
        exact ⟨⟨good, goods⟩, ⟨absent, all⟩, List.append_assoc ..⟩
      · rintro ⟨⟨good, goods⟩, ⟨absent, all⟩, rfl⟩
        refine ⟨_, addEntry_eq_ok_iff.mpr ⟨good, absent, rfl⟩, (ih ?_).mpr ⟨goods, all, ?_⟩⟩
        · exact (List.nodup_append.mp all).1
        · exact List.append_cons ..

/-- A registry is made of a table with names of tags, each of which occurs once up to case, and with
retrievers. -/
theorem ofList_eq_ok_iff :
    ofList table = .ok registry ↔
      (∀ r ∈ table, ViewTag.isName r.1 ∧ r.2.isGenuine) ∧ (table.map (lower ·.1)).Nodup ∧
        registry = ⟨table.map fun r => (lower r.1, r.2)⟩ := by
  have added : addEntries [] table = .ok registry.entries ↔ _ :=
    addEntries_eq_ok_iff List.nodup_nil
  rw [List.map_nil, List.nil_append, List.nil_append] at added
  have made : ofList table = .ok registry ↔ addEntries [] table = .ok registry.entries := by
    rw [ofList]
    cases addEntries [] table with
    | error => simp
    | ok entries =>
      simp only [Except.ok.injEq]
      exact ⟨fun same => same ▸ rfl, fun same => same ▸ rfl⟩
  rw [made, added]
  refine and_congr_right fun _ => and_congr_right fun _ => ⟨fun same => ?_, fun same => same ▸ rfl⟩
  rw [← same]

/-- A registry keeps the names of its retrievers in lower case and in their order, each once. -/
theorem names_of_ofList (made : ofList table = .ok registry) :
    registry.names = table.map (lower ·.1) ∧ registry.names.Nodup := by
  obtain ⟨-, once, rfl⟩ := ofList_eq_ok_iff.mp made
  have same : names ⟨table.map fun r => (lower r.1, r.2)⟩ = table.map (lower ·.1) := by
    rw [names, List.map_map]
    rfl
  exact ⟨same, same ▸ once⟩

theorem keptNames_of_ofList (made : ofList table = .ok registry)
    (plain : ∀ r ∈ table, ViewTag.IsPlain r.1) : KeptNames registry.names := by
  obtain ⟨names, once⟩ := names_of_ofList made
  refine ⟨?_, once⟩
  rw [names]
  exact List.forall_mem_map.mpr fun r among => ⟨r.1, plain r among, rfl⟩

/-! ### Registries -/

/-- What holds of every registry: names that are accepted, in lower case and each of them once, and
retrievers under them. -/
structure Sound (registry : Registry τ σ) : Prop where
  good : ∀ entry ∈ registry.entries, ViewTag.isName entry.1 ∧ entry.2.isGenuine
  low : ∀ entry ∈ registry.entries, lower entry.1 = entry.1
  once : registry.names.Nodup

theorem sound_of_ofList (made : ofList table = .ok registry) : registry.Sound := by
  have once := (names_of_ofList made).2
  obtain ⟨good, -, rfl⟩ := ofList_eq_ok_iff.mp made
  refine ⟨?_, ?_, once⟩
  · exact List.forall_mem_map.mpr fun r among =>
      ⟨ViewTag.isName_lower (good r among).1, (good r among).2⟩
  · exact List.forall_mem_map.mpr fun r among => ViewTag.lower_lower_of_isName (good r among).1

/-- What is found for a name is what stands under it in lower case. -/
theorem find?_eq_some_iff (once : registry.names.Nodup) :
    registry.find? name = some retriever ↔ (lower name, retriever) ∈ registry.entries :=
  find?_key_eq_some_iff once

/-- There is a retriever for each name of a registry. -/
theorem exists_find?_of_mem_names (made : ofList table = .ok registry)
    (registered : name ∈ registry.names) : ∃ retriever, registry.find? name = some retriever := by
  have sound := sound_of_ofList made
  obtain ⟨entry, among, rfl⟩ := List.mem_map.mp registered
  refine ⟨entry.2, (find?_eq_some_iff sound.once).mpr ?_⟩
  rwa [sound.low entry among]

/-- A retriever is set for an accepted name, and the one that stood under this name is left out. -/
theorem withRetriever_eq_ok_iff (sound : registry.Sound) :
    registry.withRetriever name retriever = .ok registry' ↔
      (ViewTag.isName name ∧ retriever.isGenuine) ∧
        registry' = ⟨registry.entries.filter (·.1 ≠ lower name) ++ [(lower name, retriever)]⟩ := by
  let others := registry.entries.filter (·.1 ≠ lower name)
  have kept : ∀ entry ∈ others, entry ∈ registry.entries := fun _ => List.mem_of_mem_filter
  have low : others.map (fun r => (lower r.1, r.2)) = others := by
    calc others.map (fun r => (lower r.1, r.2)) = others.map id :=
          List.map_congr_left fun entry among => Prod.ext (sound.low entry (kept entry among)) rfl
      _ = others := List.map_id others
  have names : others.map (lower ·.1) = others.map (·.1) :=
    List.map_congr_left fun entry among => sound.low entry (kept entry among)
  have once : ((others ++ [(name, retriever)]).map (lower ·.1)).Nodup := by
    rw [List.map_append, names, List.map_singleton]
    refine List.nodup_append'.mpr ⟨sound.once.sublist (List.filter_sublist.map _),
      List.nodup_singleton _, ?_⟩
    simp [others]
  have entries : (others ++ [(name, retriever)]).map (fun r => (lower r.1, r.2)) =
      others ++ [(lower name, retriever)] := by
    rw [List.map_append, low, List.map_singleton]
  rw [withRetriever, ofList_eq_ok_iff, entries, List.forall_mem_append, List.forall_mem_singleton]
  constructor
  · rintro ⟨⟨-, good⟩, -, made⟩
    exact ⟨good, made⟩
  · rintro ⟨good, made⟩
    exact ⟨⟨fun entry among => sound.good entry (kept entry among), good⟩, once, made⟩

end Registry

end TagWeave
