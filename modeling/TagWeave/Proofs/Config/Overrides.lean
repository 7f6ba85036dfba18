import Mathlib.Data.List.Basic
import Mathlib.Data.List.Forall2
import TagWeave.Config.Manager
import TagWeave.Proofs.Config.Links
import TagWeave.Proofs.Text.Order
import TagWeave.Proofs.Text.Split
import TagWeave.Proofs.Value.Entries

/-!
# What overrides leave

An override gives the entry at its place a value, and with it all places inside this one.
Overrides are applied one after the other, so that the last one that is at a place or around
it says what is there; a place that no override is at, around or inside keeps its value.
An override is therefore hidden only by a later one around it. The order of the names puts
what is around a place first, as long as no two names write a part in different case. All this
is so as long as no override leads through a mapping that stands in several places.
-/

namespace TagWeave.Config

open TagWeave.Text
open Linked (entryValues)

/-- An override: the path of an entry, and the value that it gets. -/
abbrev Override := List String × Value

/-- The place of an override. -/
def Override.place (override : Override) : List Key := override.1.map .str

/-- The overrides that the environment gives, in the order in which they apply. -/
def readOverrides (environment : Environment) : Except Error (List Override) :=
  (overridesOf environment).mapM fun (name, text) => readOverride name text

/-- The last override that is at a place or around it. -/
def covering? (overrides : List Override) (place : List Key) : Option Override :=
  overrides.reverse.find? fun override => decide (override.place <+: place)

/-- What an override leaves at a place that it is at or around. -/
def Override.left? (override : Override) (place : List Key) : Option Value :=
  override.2.at? (place.drop override.place.length)

/-- Values are found by their names as they are found by their keys. -/
theorem valueAt?_eq_at? (value : Value) (names : List String) :
    valueAt? value names = value.at? (names.map .str) := by
  induction names generalizing value with
  | nil => rw [valueAt?, List.map_nil, Value.at?]
  | cons name names ih =>
      rw [valueAt?, List.map_cons]
      cases value with
      | dict entries =>
          rw [Value.at?, Value.field?, Value.entries?, Option.bind_some]
          exact congrArg _ (funext fun held => ih held)
      | _ => rfl

/-! ### One override -/

section

variable {config result : Entries} {value : Value} {path : List String} {place : List Key}

theorem at?_insert (config : Entries) (part : String) (held : Value) (key : Key) (keys : List Key) :
    (Value.dict (config.insert (.str part) held)).at? (key :: keys) =
      if key = .str part then held.at? keys else (Value.dict config).at? (key :: keys) := by
  rw [Value.at?, Value.at?, Entries.get?_insert]
  by_cases here : key = .str part
  · rw [if_pos here, if_pos (Key.same_str_iff.mpr here), Option.bind_some]
  · rw [if_neg here, if_neg fun same => here (Key.same_str_iff.mp same)]

/-- Setting an entry further inside sets it in the mapping at the first part, or in a new one. -/
theorem setAt_inside {part next : String} {rest : List String}
    (set : setAt config value (part :: next :: rest) = .ok result) :
    ∃ inner laid, setAt inner value (next :: rest) = .ok laid ∧
      result = config.insert (.str part) (.dict laid) ∧
      ∀ key keys, (Value.dict inner).at? (key :: keys) =
        (Value.dict config).at? (.str part :: key :: keys) := by
  rw [setAt] at set
  · simp only [Value.at?_dict_cons config]
    cases held : config.get? (.str part) with
    | none =>
        rw [held] at set
        cases further : setAt [] value (next :: rest) with
        | error => simp [further, Except.map] at set
        | ok laid =>
            simp only [further, Except.map, Except.ok.injEq] at set
            exact ⟨[], laid, further, set.symm, fun key keys => rfl⟩
    | some held' =>
        rw [held] at set
        cases held' with
        | dict inner =>
            cases further : setAt inner value (next :: rest) with
            | error => simp [further, Except.map] at set
            | ok laid =>
                simp only [further, Except.map, Except.ok.injEq] at set
                exact ⟨inner, laid, further, set.symm, fun key keys => rfl⟩
        | _ => cases set
  · exact List.cons_ne_nil _ _

/-- What is set at a path is all that changes, but for the mappings around it. -/
theorem at?_setAt (nonempty : path ≠ []) (set : setAt config value path = .ok result)
    (outside : place <+: path.map Key.str → path.map Key.str <+: place) :
    (Value.dict result).at? place =
      if path.map Key.str <+: place then value.at? (place.drop path.length)
      else (Value.dict config).at? place := by
  induction path generalizing config result place with
  | nil => exact absurd rfl nonempty
  | cons part rest ih =>
      cases place with
      | nil => exact absurd (outside List.nil_prefix) (by simp)
      | cons key keys =>
          simp only [List.map_cons, List.cons_prefix_cons, List.length_cons,
            List.drop_succ_cons] at outside ⊢
          cases rest with
          | nil =>
              rw [setAt] at set
              cases set
              rw [at?_insert]
              simp only [List.map_nil, List.nil_prefix, and_true, List.length_nil, List.drop_zero,
                eq_comm]
          | cons next rest =>
              obtain ⟨inner, laid, further, made, found⟩ := setAt_inside set
              rw [made, at?_insert]
              by_cases here : key = .str part
              · subst here
                have outside' := fun around => (outside ⟨rfl, around⟩).2
                obtain ⟨key, keys, rfl⟩ : ∃ key more, keys = key :: more := by
                  refine List.exists_cons_of_ne_nil fun none => ?_
                  simp [none] at outside'
                rw [if_pos rfl, ih (List.cons_ne_nil _ _) further outside', found]
                simp only [true_and]
              · rw [if_neg here, if_neg fun inside => here inside.1.symm]

end

/-! ### Overrides one after the other -/

section

variable {name text : String} {override : Override}

/-- A path is told by the parts of the name. -/
theorem path_eq_map {path : List String} (spelled : pathOf name = .ok path) :
    path = (piecesBy ['_', '_'] name.toList).map fun part => lower (String.ofList part) := by
  simp only [pathOf] at spelled
  split at spelled
  · cases spelled
  · cases spelled
    rfl

theorem path_ne_nil (read : readOverride name text = .ok override) : override.1 ≠ [] := by
  rw [path_eq_map (pathOf_of_readOverride read), ne_eq, List.map_eq_nil_iff]
  exact piecesBy_ne_nil _ _

end

theorem covering?_cons (override : Override) (overrides : List Override) (place : List Key) :
    covering? (override :: overrides) place =
      (covering? overrides place).or (if override.place <+: place then some override else none) := by
  rw [covering?, covering?, List.reverse_cons, List.find?_append, List.find?_singleton]
  simp only [decide_eq_true_eq]

/-- The override that is at a place or around it, and behind which there is no such one. -/
theorem covering?_eq_some_iff {overrides : List Override} {place : List Key} {override : Override} :
    covering? overrides place = some override ↔
      override.place <+: place ∧ ∃ earlier later, overrides = earlier ++ override :: later ∧
        ∀ other ∈ later, ¬ other.place <+: place := by
  rw [covering?, List.find?_eq_some_iff_append, decide_eq_true_eq]
  refine and_congr_right fun _ => ?_
  constructor
  · rintro ⟨later, earlier, split, apart⟩
    refine ⟨earlier.reverse, later.reverse, ?_, ?_⟩
    · rw [← List.reverse_reverse overrides, split]
      simp
    · intro other member
      simpa using apart other (List.mem_reverse.mp member)
  · rintro ⟨earlier, later, rfl, apart⟩
    refine ⟨later.reverse, earlier.reverse, by simp, ?_⟩
    intro other member
    simpa using apart other (List.mem_reverse.mp member)

theorem covering?_eq_none_iff {overrides : List Override} {place : List Key} :
    covering? overrides place = none ↔ ∀ other ∈ overrides, ¬ other.place <+: place := by
  simp [covering?, List.find?_eq_none]

/-- With the overrides behind one that is at a place, this one need not be asked. -/
theorem covering?_append {earlier later : List Override} {override : Override} {place : List Key}
    (here : override.place <+: place) :
    covering? (earlier ++ override :: later) place = (covering? later place).or (some override) := by
  induction earlier with
  | nil => rw [List.nil_append, covering?_cons, if_pos here]
  | cons first earlier ih =>
      rw [List.cons_append, covering?_cons, ih]
      cases covering? later place <;> rfl

/-- What is at a place once overrides are applied, if none of them is inside it: what the last one
leaves that is at the place or around it, or else what was there before. -/
theorem at?_applyOverrides {config result : Entries} {named : List (String × String)}
    (applied : applyOverrides setAt config named = (result, none)) :
    ∃ overrides, named.mapM (fun (name, text) => readOverride name text) = .ok overrides ∧
      ∀ place, (∀ override ∈ overrides, place <+: override.place → override.place <+: place) →
        (Value.dict result).at? place =
          match covering? overrides place with
          | some override => override.left? place
          | none => (Value.dict config).at? place := by
  induction named generalizing config with
  | nil =>
      cases applied
      exact ⟨[], rfl, fun place _ => rfl⟩
  | cons first named ih =>
      obtain ⟨name, text⟩ := first
      rw [applyOverrides, applyOverride] at applied
      cases read : readOverride name text with
      | error => simp [read] at applied
      | ok override =>
          obtain ⟨path, value⟩ := override
          simp only [read] at applied
          cases set : setAt config value path with
          | error => simp [set] at applied
          | ok next =>
              simp only [set] at applied
              obtain ⟨overrides, readRest, law⟩ := ih applied
              refine ⟨(path, value) :: overrides, ?_, ?_⟩
              · simp only [List.mapM_cons, read, readRest]
                rfl
              · intro place outside
                obtain ⟨here, further⟩ := List.forall_mem_cons.mp outside
                rw [law place further, covering?_cons]
                cases covering? overrides place with
                | some later => rfl
                | none =>
                    simp only [Option.none_or]
                    have step : (Value.dict next).at? place =
                        if Override.place (path, value) <+: place then
                          Override.left? (path, value) place
                        else (Value.dict config).at? place := by
                      rw [Override.left?, Override.place, List.length_map]
                      exact at?_setAt (path_ne_nil read) set here
                    rw [step]
                    by_cases around : Override.place (path, value) <+: place
                    · rw [if_pos around, if_pos around]
                    · rw [if_neg around, if_neg around]

/-! ### The environment -/

/-- Whether no two of the variables that override write a part of their names in different case. -/
def SpelledAlike (environment : Environment) : Prop :=
  ∀ one ∈ overridesOf environment, ∀ another ∈ overridesOf environment,
    ∀ part ∈ piecesBy ['_', '_'] one.1.toList, ∀ other ∈ piecesBy ['_', '_'] another.1.toList,
      lower (String.ofList part) = lower (String.ofList other) → part = other

theorem pairwise_overridesOf (environment : Environment) :
    (overridesOf environment).Pairwise fun one another => one.1 ≤ another.1 := by
  refine List.Pairwise.imp Text.atMost_iff.mp (List.pairwise_mergeSort ?_ ?_ _)
  · exact fun a b c hab hbc =>
      Text.atMost_iff.mpr (le_trans (Text.atMost_iff.mp hab) (Text.atMost_iff.mp hbc))
  · intro a b
    rw [Bool.or_eq_true, Text.atMost_iff, Text.atMost_iff]
    exact le_total a.1 b.1

/-- A list of parts begins another one if it does so in lower case, where no two parts differ in case
alone. -/
theorem prefix_of_map_prefix {α β : Type} {f : α → β} {parts others : List α}
    (alike : ∀ part ∈ parts, ∀ other ∈ others, f part = f other → part = other)
    (begins : parts.map f <+: others.map f) : parts <+: others := by
  induction parts generalizing others with
  | nil => exact List.nil_prefix
  | cons part parts ih =>
      cases others with
      | nil => simp at begins
      | cons other others =>
          rw [List.map_cons, List.map_cons, List.cons_prefix_cons] at begins
          rw [List.cons_prefix_cons]
          constructor
          · exact alike part List.mem_cons_self other List.mem_cons_self begins.1
          · refine ih (fun part member other member' => ?_) begins.2
            exact alike part (List.mem_cons_of_mem _ member) other (List.mem_cons_of_mem _ member')

/-- A name whose path begins another's comes first, where the names are spelled alike. -/
theorem name_le_of_around {environment : Environment} (alike : SpelledAlike environment)
    {one another : String × String} (mem : one ∈ overridesOf environment)
    (mem' : another ∈ overridesOf environment) {path path' : List String}
    (spelled : pathOf one.1 = .ok path) (spelled' : pathOf another.1 = .ok path')
    (around : path <+: path') : one.1 ≤ another.1 := by
  rw [path_eq_map spelled, path_eq_map spelled'] at around
  have parts := prefix_of_map_prefix (alike one mem another mem') around
  have chars : ['_', '_'].intercalate (piecesBy ['_', '_'] one.1.toList) <+:
      ['_', '_'].intercalate (piecesBy ['_', '_'] another.1.toList) :=
    intercalate_prefix (piecesBy_ne_nil _ _) parts
  rw [intercalate_piecesBy, intercalate_piecesBy] at chars
  exact not_lt.mp fun less => chars.le (String.lt_iff_toList_lt.mp less)

/-- Each variable that overrides gives an override, and they are in the same order. -/
theorem forall₂_of_mapM {named : List (String × String)} {overrides : List Override}
    (read : named.mapM (fun (name, text) => readOverride name text) = .ok overrides) :
    List.Forall₂ (fun named override => readOverride named.1 named.2 = .ok override)
      named overrides := by
  induction named generalizing overrides with
  | nil =>
      cases read
      exact .nil
  | cons first named ih =>
      rw [List.mapM_cons] at read
      cases readFirst : readOverride first.1 first.2 with
      | error e => simp [readFirst, bind, Except.bind] at read
      | ok override =>
          cases readRest : named.mapM fun (name, text) => readOverride name text with
          | error e => simp [readFirst, readRest, bind, Except.bind] at read
          | ok others =>
              simp only [readFirst, readRest, bind, Except.bind, pure, Except.pure,
                Except.ok.injEq] at read
              subst read
              exact .cons readFirst (ih readRest)

/-- Of overrides that are spelled alike, a later one is around an earlier one only at its place. -/
theorem pairwise_of_spelledAlike {environment : Environment} (alike : SpelledAlike environment)
    {overrides : List Override} (read : readOverrides environment = .ok overrides) :
    overrides.Pairwise fun override later =>
      later.place <+: override.place → later.place = override.place := by
  have each := forall₂_of_mapM read
  rw [List.pairwise_iff_getElem]
  intro i j hi hj before around
  have hi' : i < (overridesOf environment).length := each.length_eq.symm ▸ hi
  have hj' : j < (overridesOf environment).length := each.length_eq.symm ▸ hj
  have spelled := pathOf_of_readOverride (each.get hi' hi)
  have spelled' := pathOf_of_readOverride (each.get hj' hj)
  rw [Override.place, Override.place, List.prefix_map_iff_of_injective fun a b => Key.str.inj] at around
  have ascending := List.pairwise_iff_getElem.mp (pairwise_overridesOf environment) i j hi' hj' before
  have descending := name_le_of_around alike (List.getElem_mem hj') (List.getElem_mem hi')
    spelled' spelled around
  have same := le_antisymm descending ascending
  simp only [List.get_eq_getElem] at spelled spelled'
  rw [same, spelled] at spelled'
  rw [Override.place, Override.place, Except.ok.inj spelled']

/-- What the environment sets stands in the configuration as long as it is not hidden: an override
that is around no other one, and the last one at its place, is found there, if and only if a later one
that hides it leaves the same value there. Overrides that are spelled alike hide nothing. What
no override is at, around or inside is as it was. -/
theorem overrides_stand {config result : LinkedEntries} {environment : Environment}
    (single : ∀ override ∈ overridesOf environment, ∀ path, pathOf override.1 = .ok path →
      Linked.apart config path)
    (applied : applyOverrides Linked.setAt config (overridesOf environment) = (result, none)) :
    ∃ overrides, readOverrides environment = .ok overrides ∧
      (∀ earlier override later, overrides = earlier ++ override :: later →
        (∀ other ∈ overrides, override.place <+: other.place → other.place = override.place) →
        (∀ other ∈ later, other.place ≠ override.place) →
          (valueAt? (.dict (entryValues result)) override.1 = some override.2 ↔
            ∀ other, covering? later override.place = some other →
              other.left? override.place = some override.2) ∧
          (SpelledAlike environment →
            valueAt? (.dict (entryValues result)) override.1 = some override.2)) ∧
      ∀ place, (∀ override ∈ overrides, ¬ place <+: override.place ∧ ¬ override.place <+: place) →
        (Value.dict (entryValues result)).at? place = (Value.dict (entryValues config)).at? place := by
  obtain ⟨overrides, read, law⟩ := at?_applyOverrides (applyOverrides_of_apart single applied)
  refine ⟨overrides, read, ?_, ?_⟩
  · intro earlier override later split inmost last
    have outside : ∀ other ∈ overrides,
        override.place <+: other.place → other.place <+: override.place := by
      intro other member around
      exact inmost other member around ▸ List.prefix_rfl
    have own : override.left? override.place = some override.2 := by
      rw [Override.left?, List.drop_length, Value.at?]
    have found : valueAt? (.dict (entryValues result)) override.1 = some override.2 ↔
        ∀ other, covering? later override.place = some other →
          other.left? override.place = some override.2 := by
      rw [valueAt?_eq_at?]
      change (Value.dict (entryValues result)).at? override.place = _ ↔ _
      rw [law override.place outside, split, covering?_append List.prefix_rfl]
      cases covering? later override.place with
      | none => simp [own]
      | some other => simp
    refine ⟨found, fun alike => found.mpr ?_⟩
    intro other covers
    obtain ⟨around, before, behind, split', -⟩ := covering?_eq_some_iff.mp covers
    have member : other ∈ later := by
      rw [split']
      exact List.mem_append_right _ List.mem_cons_self
    have order := pairwise_of_spelledAlike alike read
    rw [split, List.pairwise_append] at order
    have same := (List.pairwise_cons.mp order.2.1).1 other member around
    exact absurd same (last other member)
  · intro place apart
    have outside : ∀ override ∈ overrides,
        place <+: override.place → override.place <+: place :=
      fun override member inside => absurd inside (apart override member).1
    rw [law place outside, covering?_eq_none_iff.mpr fun other member => (apart other member).2]

/-- A section that is set as a whole and one of its entries, which is found, next to a section that is
as it was. -/
theorem section_overrides_stand :
    let environment := [("VIEWCOMPOSE_CACHE", "\x7b\x7d"), ("VIEWCOMPOSE_CACHE__SIZE", "7")]
    let config : LinkedEntries := [(.str "cache", .dict none [(.str "enabled", .single (.bool true))]),
      (.str "logging", .dict none [(.str "level", .single (.str "INFO"))])]
    let result : LinkedEntries := [(.str "cache", .dict none [(.str "size", .single (.int 7))]),
      (.str "logging", .dict none [(.str "level", .single (.str "INFO"))])]
    applyOverrides Linked.setAt config (overridesOf environment) = (result, none) ∧
      valueAt? (.dict (entryValues result)) ["cache", "size"] = some (.int 7) ∧
      (Value.dict (entryValues result)).at? [.str "logging", .str "level"] =
        (Value.dict (entryValues config)).at? [.str "logging", .str "level"] := by
  intro environment config result
  have named : overridesOf environment = [("CACHE", "\x7b\x7d"), ("CACHE__SIZE", "7")] :=
    List.mergeSort_of_pairwise (by decide)
  have read : readOverrides environment = .ok [(["cache"], .dict []), (["cache", "size"], .int 7)] := by
    rw [readOverrides, named]
    rfl
  have single : ∀ override ∈ overridesOf environment, ∀ path, pathOf override.1 = .ok path →
      Linked.apart config path := by
    intro override member path spelled
    rw [named] at member
    rcases List.mem_pair.mp member with rfl | rfl
    · cases (show pathOf "CACHE" = .ok ["cache"] from rfl).symm.trans spelled
      rfl
    · cases (show pathOf "CACHE__SIZE" = .ok ["cache", "size"] from rfl).symm.trans spelled
      rfl
  have applied : applyOverrides Linked.setAt config (overridesOf environment) = (result, none) := by
    rw [named]
    rfl
  obtain ⟨overrides, given, stand, keep⟩ := overrides_stand single applied
  cases read.symm.trans given
  refine ⟨applied, ?_, ?_⟩
  · refine (stand [_] _ [] rfl ?_ ?_).1.mpr ?_
    · decide
    · nofun
    · nofun
  · refine keep _ ?_
    decide

/-- An entry is lost where its section is set after it, since its name is written in another case. -/
theorem override_hidden :
    let environment := [("VIEWCOMPOSE_A__X", "1"), ("VIEWCOMPOSE_a", "\x7b\x7d")]
    applyOverrides Linked.setAt [] (overridesOf environment) = ([(.str "a", .dict none [])], none) ∧
      readOverrides environment = .ok [(["a", "x"], .int 1), (["a"], .dict [])] ∧
      valueAt? (.dict [(.str "a", .dict [])]) ["a", "x"] = none := by
  intro environment
  have named : overridesOf environment = [("A__X", "1"), ("a", "\x7b\x7d")] :=
    List.mergeSort_of_pairwise (by decide)
  refine ⟨?_, ?_, ?_⟩
  · rw [named]
    rfl
  · rw [readOverrides, named]
    rfl
  · rfl

end TagWeave.Config
