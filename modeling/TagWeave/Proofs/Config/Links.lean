import TagWeave.Config.Environment
import TagWeave.Proofs.Value.Entries
import TagWeave.Value.Linked

/-!
# Overrides and mappings in several places

As long as no override leads through a mapping that stands in several places, overrides set in a
configuration what they set in the tree of its values. In a configuration in which each mapping stands
in one place this is so of all overrides.
-/

namespace TagWeave

namespace Linked

mutual

@[simp] theorem value_ofValue : (v : Value) → (ofValue v).value = v
  | .list items => by rw [ofValue, value, values_ofValues]
  | .dict entries => by rw [ofValue, value, entryValues_ofEntries]
  | .null | .bool _ | .int _ | .float _ | .str _ | .record _ | .lambda _ | .foreign .. => rfl

@[simp] theorem values_ofValues : (items : List Value) → values (ofValues items) = items
  | [] => rfl
  | item :: items => by rw [ofValues, values, value_ofValue, values_ofValues]

@[simp] theorem entryValues_ofEntries : (entries : Entries) → entryValues (ofEntries entries) = entries
  | [] => rfl
  | (key, held) :: entries => by rw [ofEntries, entryValues, value_ofValue, entryValues_ofEntries]

end

theorem get?_ofEntries (entries : Entries) (key : Key) :
    get? (ofEntries entries) key = (entries.get? key).map ofValue := by
  induction entries with
  | nil => rfl
  | cons entry entries ih =>
      obtain ⟨k, held⟩ := entry
      rw [get?, Entries.get?] at ih ⊢
      rw [ofEntries, List.find?_cons, List.find?_cons]
      cases k.same key with
      | true => rfl
      | false => exact ih

theorem insert_ofEntries (entries : Entries) (key : Key) (held : Value) :
    insert (ofEntries entries) key (ofValue held) = ofEntries (entries.insert key held) := by
  induction entries with
  | nil => rfl
  | cons entry entries ih =>
      obtain ⟨k, v⟩ := entry
      rw [ofEntries, insert, Entries.insert, ih]
      split <;> rfl

theorem insert_dict_ofEntries (entries : Entries) (key : Key) (inner : Entries) :
    insert (ofEntries entries) key (.dict none (ofEntries inner)) =
      ofEntries (entries.insert key (.dict inner)) := by
  rw [← insert_ofEntries, ofValue]

theorem get?_entryValues (entries : LinkedEntries) (key : Key) :
    (entryValues entries).get? key = (get? entries key).map value := by
  induction entries with
  | nil => rfl
  | cons entry entries ih =>
      obtain ⟨k, held⟩ := entry
      rw [get?, Entries.get?] at ih ⊢
      rw [entryValues, List.find?_cons, List.find?_cons]
      cases k.same key with
      | true => rfl
      | false => exact ih

theorem entryValues_insert (entries : LinkedEntries) (key : Key) (held : Linked) :
    entryValues (insert entries key held) = (entryValues entries).insert key held.value := by
  induction entries with
  | nil => rfl
  | cons entry entries ih =>
      obtain ⟨k, v⟩ := entry
      rw [insert, entryValues, Entries.insert]
      split
      · rfl
      · rw [entryValues, ih]

theorem get?_cons (k : Key) (held : Linked) (entries : LinkedEntries) (key : Key) :
    get? ((k, held) :: entries) key = if k.same key then some held else get? entries key := by
  rw [get?, get?, List.find?_cons]
  cases k.same key <;> rfl

theorem get?_insert (entries : LinkedEntries) (key : Key) (held : Linked) (other : Key) :
    get? (insert entries key held) other =
      if key.same other then some held else get? entries other := by
  induction entries with
  | nil => rw [insert, get?_cons]
  | cons entry entries ih =>
      obtain ⟨k, v⟩ := entry
      rw [insert]
      split
      · next shared =>
        rw [get?_cons, get?_cons, Key.same_of_same shared]
        cases key.same other <;> rfl
      · next differ =>
        rw [get?_cons, get?_cons, ih]
        by_cases here : k.same other
        · rw [if_pos here, if_pos here, Key.not_same_of_same differ here]
          rfl
        · rw [if_neg here, if_neg here]

/-- Whether a path leads through no mapping that stands in several places. -/
def apart (config : LinkedEntries) : List String → Bool
  | [] | [_] => true
  | part :: rest =>
    match get? config (.str part) with
    | some (.dict number? inner) => number?.isNone && apart inner rest
    | _ => true

theorem apart_ofEntries (entries : Entries) (path : List String) : apart (ofEntries entries) path := by
  induction path generalizing entries with
  | nil => rfl
  | cons part rest ih =>
      cases rest with
      | nil => rfl
      | cons next rest =>
          rw [apart, get?_ofEntries]
          · cases entries.get? (.str part) with
            | none => rfl
            | some held =>
                cases held with
                | dict inner => exact ih inner
                | _ => rfl
          · nofun

theorem of_ofValue_eq_dict {v : Value} {number? : Option Nat} {inner : LinkedEntries}
    (same : ofValue v = .dict number? inner) : number? = none ∧ ∃ entries, inner = ofEntries entries := by
  cases v with
  | dict entries =>
      cases same
      exact ⟨rfl, entries, rfl⟩
  | _ => cases same

/-- What is set at an entry decides about the paths that lead through it. -/
theorem apart_insert {config : LinkedEntries} {part : String} {held : Linked} {path : List String}
    (was : apart config path)
    (within : ∀ number? inner rest, held = .dict number? inner → path = part :: rest →
      number? = none ∧ apart inner rest) :
    apart (insert config (.str part) held) path := by
  match path with
  | [] | [_] => rfl
  | first :: next :: rest =>
      rw [apart, get?_insert]
      · by_cases here : part = first
        · subst here
          rw [if_pos (Key.same_str_iff.mpr rfl)]
          cases held with
          | dict number? inner =>
              obtain ⟨single, further⟩ := within number? inner (next :: rest) rfl rfl
              rw [single]
              exact further
          | _ => rfl
        · have differ : ¬ (Key.str part).same (.str first) := by
            rw [Key.same_str_iff]
            exact fun same => here (Key.str.inj same).symm
          rw [if_neg differ]
          rwa [apart] at was
          nofun
      · nofun

end Linked

namespace Config

open Linked (ofEntries)

theorem pathOf_of_readOverride {name text : String} {override : List String × Value}
    (read : readOverride name text = .ok override) : pathOf name = .ok override.1 := by
  rw [readOverride] at read
  split at read
  · cases read
  · next path spelled =>
    split at read
    · cases read
    · cases read
      exact spelled

theorem setInTree_ofEntries (config : Entries) (value : Value) (path : List String) :
    Linked.setInTree (ofEntries config) value path =
      (setAt config value path).map fun config => (ofEntries config, []) := by
  induction path generalizing config with
  | nil => rfl
  | cons part rest ih =>
      cases rest with
      | nil =>
          rw [Linked.setInTree, setAt, Linked.insert_ofEntries]
          rfl
      | cons next rest =>
          rw [Linked.setInTree, setAt, Linked.get?_ofEntries]
          · cases config.get? (.str part) with
            | none =>
                have inner := ih []
                rw [Linked.ofEntries] at inner
                simp only [Option.map_none, inner]
                cases setAt [] value (next :: rest) with
                | error => rfl
                | ok inner => simp only [Except.map, Linked.insert_dict_ofEntries]
            | some held =>
                cases held with
                | dict entries =>
                    simp only [Option.map_some, Linked.ofValue, ih entries]
                    cases setAt entries value (next :: rest) with
                    | error => rfl
                    | ok inner =>
                        simp only [Except.map, Linked.insert_dict_ofEntries]
                        rfl
                | _ => rfl
          · nofun
          · nofun

theorem setAt_ofEntries (config : Entries) (value : Value) (path : List String) :
    Linked.setAt (ofEntries config) value path = (setAt config value path).map ofEntries := by
  rw [Linked.setAt, setInTree_ofEntries]
  cases setAt config value path <;> rfl

/-- Overrides of a tree give a tree. -/
theorem applyOverrides_ofEntries (config : Entries) (overrides : List (String × String)) :
    applyOverrides Linked.setAt (ofEntries config) overrides =
      (ofEntries (applyOverrides setAt config overrides).1,
        (applyOverrides setAt config overrides).2) := by
  induction overrides generalizing config with
  | nil => rfl
  | cons override overrides ih =>
      obtain ⟨name, text⟩ := override
      rw [applyOverrides, applyOverrides, applyOverride, applyOverride]
      cases readOverride name text with
      | error => rfl
      | ok override =>
          obtain ⟨path, value⟩ := override
          simp only [setAt_ofEntries]
          cases setAt config value path with
          | error => rfl
          | ok config => exact ih config

section

open Linked (apart entryValues)

variable {config result : LinkedEntries} {value : Value} {path : List String}

/-- What is found at the first part of a path that leads further, which is a mapping that stands in
one place, or nothing. -/
theorem setInTree_inside {part next : String} {rest : List String}
    {changed : List (Nat × LinkedEntries)} (single : apart config (part :: next :: rest))
    (set : Linked.setInTree config value (part :: next :: rest) = .ok (result, changed)) :
    ∃ inner laid more, Linked.setInTree inner value (next :: rest) = .ok (laid, more) ∧
      result = Linked.insert config (.str part) (.dict none laid) ∧
      (more = [] → changed = []) ∧
      setAt (entryValues config) value (part :: next :: rest) =
        (setAt (entryValues inner) value (next :: rest)).map
          (fun laid => (entryValues config).insert (.str part) (.dict laid)) ∧
      ∀ others, apart config (part :: others) → apart inner others := by
  have found := Linked.get?_entryValues config (.str part)
  cases held : Linked.get? config (.str part) with
  | none =>
      rw [held] at found
      simp only [Linked.setInTree, held] at set
      cases further : Linked.setInTree [] value (next :: rest) with
      | error => simp [further, Except.map] at set
      | ok laid =>
          simp only [further, Except.map, Except.ok.injEq, Prod.mk.injEq] at set
          refine ⟨[], laid.1, laid.2, further, set.1.symm, fun _ => set.2.symm, ?_, ?_⟩
          · simp only [setAt, found, Option.map_none]
            rfl
          · exact fun others _ => Linked.apart_ofEntries [] others
  | some held' =>
      rw [held] at found
      simp only [Linked.setInTree, held] at set
      simp only [apart, held] at single
      cases held' with
      | dict number? inner =>
          obtain ⟨alone, single⟩ := Bool.and_eq_true_iff.mp single
          cases Option.isNone_iff_eq_none.mp alone
          cases further : Linked.setInTree inner value (next :: rest) with
          | error => simp [further, Except.map] at set
          | ok laid =>
              simp only [further, Except.map, Except.ok.injEq, Prod.mk.injEq] at set
              refine ⟨inner, laid.1, laid.2, further, set.1.symm, fun none => ?_, ?_, ?_⟩
              · rw [← set.2, none]
                rfl
              · simp only [setAt, found, Option.map_some, Linked.value]
              · intro others was
                cases others with
                | nil => rfl
                | cons other others =>
                    simp only [apart, held] at was
                    exact (Bool.and_eq_true_iff.mp was).2
      | _ => cases set

/-- A path that leads through no mapping in several places sets what it sets in the tree, and leads no
path through such a mapping. -/
theorem setInTree_of_apart {changed : List (Nat × LinkedEntries)} (single : apart config path)
    (set : Linked.setInTree config value path = .ok (result, changed)) :
    changed = [] ∧ setAt (entryValues config) value path = .ok (entryValues result) ∧
      ∀ other, apart config other → apart result other := by
  induction path generalizing config result changed with
  | nil =>
      cases set
      exact ⟨rfl, rfl, fun other was => was⟩
  | cons part rest ih =>
      cases rest with
      | nil =>
          cases set
          refine ⟨rfl, ?_, ?_⟩
          · rw [setAt, Linked.entryValues_insert, Linked.value_ofValue]
          · intro other was
            refine Linked.apart_insert was fun number? inner rest held _ => ?_
            obtain ⟨alone, entries, rfl⟩ := Linked.of_ofValue_eq_dict held
            exact ⟨alone, Linked.apart_ofEntries entries rest⟩
      | cons next rest =>
          obtain ⟨inner, laid, more, further, made, quiet, values, inside⟩ :=
            setInTree_inside single set
          obtain ⟨rfl, laidValues, keeps⟩ := ih (inside _ single) further
          refine ⟨quiet rfl, ?_, fun other was => ?_⟩
          · rw [values, laidValues, made, Linked.entryValues_insert, Linked.value]
            rfl
          · rw [made]
            refine Linked.apart_insert was fun number? entries others same leads => ?_
            cases same
            rw [leads] at was
            exact ⟨rfl, keeps others (inside others was)⟩

theorem setAt_of_apart (single : apart config path)
    (set : Linked.setAt config value path = .ok result) :
    setAt (entryValues config) value path = .ok (entryValues result) ∧
      ∀ other, apart config other → apart result other := by
  rw [Linked.setAt] at set
  cases laid : Linked.setInTree config value path with
  | error => simp [laid, Except.map] at set
  | ok laid' =>
      obtain ⟨laid', changed⟩ := laid'
      obtain ⟨rfl, values, keeps⟩ := setInTree_of_apart single laid
      simp only [laid, Except.map, List.foldl_nil, Except.ok.injEq] at set
      rw [← set]
      exact ⟨values, keeps⟩

/-- Overrides that lead through no mapping in several places set what they set in the tree. -/
theorem applyOverrides_of_apart {named : List (String × String)}
    (single : ∀ override ∈ named, ∀ path, pathOf override.1 = .ok path → apart config path)
    (applied : applyOverrides Linked.setAt config named = (result, none)) :
    applyOverrides setAt (entryValues config) named = (entryValues result, none) := by
  induction named generalizing config with
  | nil =>
      cases applied
      rfl
  | cons override named ih =>
      obtain ⟨name, text⟩ := override
      rw [applyOverrides, applyOverride] at applied ⊢
      cases read : readOverride name text with
      | error => simp [read] at applied
      | ok override =>
          obtain ⟨path, value⟩ := override
          simp only [read] at applied ⊢
          cases set : Linked.setAt config value path with
          | error => simp [set] at applied
          | ok next =>
              simp only [set] at applied
              have here := single (name, text) List.mem_cons_self path (pathOf_of_readOverride read)
              obtain ⟨values, keeps⟩ := setAt_of_apart here set
              simp only [values]
              refine ih (fun other member path spelled => ?_) applied
              exact keeps path (single other (List.mem_cons_of_mem _ member) path spelled)

/-- A mapping that stands in two places, and an entry that is set in both. -/
example :
    let shared (n : Int) : Linked := .dict (some 0) [(.str "k", .single (.int n))]
    Linked.setAt [(.str "a", shared 1), (.str "b", shared 1)] (.int 2) ["a", "k"] =
      .ok [(.str "a", shared 2), (.str "b", shared 2)] := rfl

end

end Config

end TagWeave
