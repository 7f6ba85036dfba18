import Mathlib.Data.List.Forall2
import Mathlib.Data.List.Induction
import TagWeave.Proofs.Lasting
import TagWeave.Proofs.Registry.Table

/-!
# Registries in a session

A session begins with a table of retrievers. In any registry that there is by then, a retriever can
be set for a name, which gives one more registry. What is taken for a name is the same for a table,
for such a call and for a finder, and a registry that was made goes on to answer as it did.

A registry answers by its own history: the settings of the table and those that led from there to
it. Found for a name, in any case, is the retriever that was set last for this name.
-/

namespace TagWeave

open TagWeave.Text

namespace Registry

variable {τ σ : Type} {registry registry' : Registry τ σ} {name : String}
variable {retriever : Retriever τ σ} {table settings : List (String × Retriever τ σ)}

/-! ### Answers -/

/-- A registry answers by settings, the latest one last: found for a name is the retriever that was
set last for it, both in any case. -/
def AnswersBy (settings : List (String × Retriever τ σ)) (registry : Registry τ σ) : Prop :=
  ∀ s retriever, registry.find? s = some retriever ↔
    ∃ name, lower name = lower s ∧
      Lasting (fun later => lower later.1 = lower s) settings (name, retriever)

/-- In a table that has each name once up to case, nothing is set a second time. -/
theorem lasting_of_mem (once : (table.map (lower ·.1)).Nodup) {entry : String × Retriever τ σ}
    (among : entry ∈ table) : Lasting (fun later => lower later.1 = lower entry.1) table entry := by
  obtain ⟨before, since, rfl⟩ := List.append_of_mem among
  refine ⟨before, since, rfl, fun later after same => ?_⟩
  rw [List.map_append, List.map_cons] at once
  have fresh := (List.nodup_cons.mp (List.nodup_append.mp once).2.1).1
  exact fresh (List.mem_map.mpr ⟨later, after, same⟩)

theorem answersBy_of_ofList (made : ofList table = .ok registry) : registry.AnswersBy table := by
  intro s retriever
  rw [find?_eq_some_iff (sound_of_ofList made).once]
  obtain ⟨-, once, rfl⟩ := ofList_eq_ok_iff.mp made
  rw [List.mem_map]
  constructor
  · rintro ⟨entry, among, same⟩
    obtain ⟨low, rfl⟩ := Prod.mk.inj same
    exact ⟨entry.1, low, low ▸ lasting_of_mem once among⟩
  · rintro ⟨name, same, lasting⟩
    exact ⟨_, lasting.mem, Prod.ext same rfl⟩

/-- A registry in which one more retriever is set answers by one more setting. -/
theorem AnswersBy.withRetriever (answers : registry.AnswersBy settings) (sound : registry.Sound)
    (set : registry.withRetriever name retriever = .ok registry') :
    registry'.AnswersBy (settings ++ [(name, retriever)]) := by
  intro s found
  have once := (sound_of_ofList set).once
  obtain ⟨-, rfl⟩ := (withRetriever_eq_ok_iff sound).mp set
  rw [find?_eq_some_iff once, List.mem_append, List.mem_filter, List.mem_singleton,
    ← find?_eq_some_iff sound.once, answers s found, Prod.mk.injEq, decide_eq_true_eq]
  simp only [lasting_concat]
  constructor
  · rintro (⟨⟨other, same, lasting⟩, differs⟩ | ⟨same, rfl⟩)
    · exact ⟨other, same, .inr ⟨lasting, Ne.symm differs⟩⟩
    · exact ⟨name, same.symm, .inl rfl⟩
  · rintro ⟨other, same, latest | ⟨lasting, differs⟩⟩
    · obtain ⟨rfl, rfl⟩ := Prod.mk.inj latest
      exact .inr ⟨same.symm, rfl⟩
    · exact .inl ⟨⟨other, same, lasting⟩, Ne.symm differs⟩

/-! ### Settings -/

/-- What may be set: a retriever, and not any other thing, for what is taken for a name. -/
def Settable (setting : String × Retriever τ σ) : Prop :=
  ViewTag.TakenForName setting.1 ∧ ∀ typeName, setting.2 ≠ .foreign typeName

theorem settable_iff {setting : String × Retriever τ σ} :
    Settable setting ↔ ViewTag.isName setting.1 ∧ setting.2.isGenuine := by
  rw [Settable, ViewTag.isName_iff]
  refine and_congr_right fun _ => ?_
  cases setting.2 <;> simp [Retriever.isGenuine]

instance (setting : String × Retriever τ σ) : Decidable (Settable setting) :=
  decidable_of_iff _ settable_iff.symm

/-- A table of what may be set, with no two names that are the same up to case. -/
def Registrable (table : List (String × Retriever τ σ)) : Prop :=
  (∀ setting ∈ table, Settable setting) ∧ (table.map (lower ·.1)).Nodup

instance (table : List (String × Retriever τ σ)) : Decidable (Registrable table) :=
  instDecidableAnd

theorem exists_ofList_iff : (∃ registry, ofList table = .ok registry) ↔ Registrable table := by
  simp [ofList_eq_ok_iff, Registrable, settable_iff]

theorem exists_withRetriever_iff (sound : registry.Sound) :
    (∃ registry', registry.withRetriever name retriever = .ok registry') ↔
      Settable (name, retriever) := by
  simp [withRetriever_eq_ok_iff sound, settable_iff]

/-! ### Sessions -/

/-- A call that sets a retriever for a name, in the registry at some place among those that there
are. -/
structure Registration (τ σ : Type) where
  place : Nat
  name : String
  retriever : Retriever τ σ

/-- What there is after a call: all that there was, and what is made of the item at the place of the
call. -/
def extend {α : Type} (make : α → Registration τ σ → List α) (items : List α)
    (call : Registration τ σ) : List α :=
  match items[call.place]? with
  | none => items
  | some item => items ++ make item call

/-- The registries of a session in the order in which they are made: that of a table and those that
calls give, unless they are refused. -/
def registriesOf (table : List (String × Retriever τ σ)) (calls : List (Registration τ σ)) :
    List (Registry τ σ) :=
  let make registry call := (withRetriever registry call.name call.retriever).toOption.toList
  calls.foldl (extend make) (ofList table).toOption.toList

/-- The histories of the registries of a session, each a list of settings with the latest one last.
A call gives one more if what it sets may be set. -/
def historiesOf (table : List (String × Retriever τ σ)) (calls : List (Registration τ σ)) :
    List (List (String × Retriever τ σ)) :=
  let make settings call :=
    if Settable (call.name, call.retriever) then [settings ++ [(call.name, call.retriever)]] else []
  calls.foldl (extend make) (if Registrable table then [table] else [])

section Extend

variable {α β : Type} {R : α → β → Prop} {as : List α} {bs : List β} {call : Registration τ σ}
variable {make : α → Registration τ σ → List α} {make' : β → Registration τ σ → List β}

/-- Lists that are related item by item are related at each place. -/
theorem rel_getElem? (related : List.Forall₂ R as bs) (place : Nat) :
    Option.Rel R as[place]? bs[place]? := by
  induction related generalizing place with
  | nil => exact .none
  | cons first _ ih =>
      cases place with
      | zero => exact .some first
      | succ place => simpa using ih place

theorem forall₂_extend (related : List.Forall₂ R as bs)
    (made : ∀ a b, R a b → List.Forall₂ R (make a call) (make' b call)) :
    List.Forall₂ R (extend make as call) (extend make' bs call) := by
  have there := rel_getElem? related call.place
  rw [extend, extend]
  generalize as[call.place]? = a?, bs[call.place]? = b? at there
  cases there with
  | none => exact related
  | some one => exact List.rel_append related (made _ _ one)

/-- Calls take nothing away and change nothing. -/
theorem prefix_foldl_extend (calls : List (Registration τ σ)) (items : List α) :
    items <+: calls.foldl (extend make) items := by
  induction calls generalizing items with
  | nil => exact List.prefix_rfl
  | cons call calls ih =>
      refine List.IsPrefix.trans ?_ (ih _)
      rw [extend]
      split
      · exact List.prefix_rfl
      · exact List.prefix_append ..

end Extend

/-- A registry is sound and answers by a history. -/
def Follows (settings : List (String × Retriever τ σ)) (registry : Registry τ σ) : Prop :=
  registry.Sound ∧ registry.AnswersBy settings

/-- What is made just in an allowed case has a history in this case. -/
theorem follows_toOption {outcome : Outcome (Registry τ σ)} {allowed : Prop} [Decidable allowed]
    (made : (∃ registry, outcome = .ok registry) ↔ allowed)
    (follows : ∀ registry, outcome = .ok registry → Follows settings registry) :
    List.Forall₂ Follows (if allowed then [settings] else []) outcome.toOption.toList := by
  cases outcome with
  | ok registry =>
      rw [if_pos (made.mp ⟨registry, rfl⟩)]
      exact .cons (follows registry rfl) .nil
  | error e =>
      rw [if_neg fun fine => nomatch made.mpr fine]
      exact .nil

/-- The registries of a session are as many as its histories, and answer by these. -/
theorem follows_registriesOf (table : List (String × Retriever τ σ))
    (calls : List (Registration τ σ)) :
    List.Forall₂ Follows (historiesOf table calls) (registriesOf table calls) := by
  induction calls using List.reverseRecOn with
  | nil =>
      exact follows_toOption exists_ofList_iff fun _ made =>
        ⟨sound_of_ofList made, answersBy_of_ofList made⟩
  | append_singleton calls call ih =>
      rw [historiesOf, registriesOf, List.foldl_concat, List.foldl_concat]
      refine forall₂_extend ih fun settings registry follows => ?_
      obtain ⟨sound, answers⟩ := follows
      exact follows_toOption (exists_withRetriever_iff sound) fun _ set =>
        ⟨sound_of_ofList set, answers.withRetriever sound set⟩

/-- Whatever calls follow, the registries that there are stay as they are. -/
theorem prefix_registriesOf (table : List (String × Retriever τ σ))
    (calls more : List (Registration τ σ)) :
    registriesOf table calls <+: registriesOf table (calls ++ more) := by
  rw [registriesOf, registriesOf, List.foldl_append]
  exact prefix_foldl_extend more _

/-- Finders and registries take the same texts for names: a letter followed by letters, digits,
underscores and hyphens, all of them ASCII, and the same before a line end. A finder looks for the
names in lower case, in the order of their first occurrences. A registry is made of a table if what
stands in it are retrievers under such names, each of them once up to case, and in any registry of a
session a retriever can be set for any such name. The registries answer by their histories, and no
call changes one that there is. -/
theorem names_and_answers (names : List String) (table : List (String × Retriever τ σ))
    (calls more : List (Registration τ σ)) :
    (∀ s, ViewTag.IsPlain s ↔ ∃ letter rest, s.toList = letter :: rest ∧ letter.isAlpha = true ∧
      ∀ c ∈ rest, c.isAlphanum = true ∨ c = '_' ∨ c = '-') ∧
    (∀ finder, Finder.ofNames names = .ok finder ↔
      (∀ name ∈ names, ViewTag.TakenForName name) ∧
        finder.names = (names.map lower).eraseDups) ∧
    ((∃ registry, ofList table = .ok registry) ↔ Registrable table) ∧
    (∀ registry ∈ registriesOf table calls, ∀ name retriever,
      (∃ registry', registry.withRetriever name retriever = .ok registry') ↔
        Settable (name, retriever)) ∧
    List.Forall₂ AnswersBy (historiesOf table calls) (registriesOf table calls) ∧
    registriesOf table calls <+: registriesOf table (calls ++ more) := by
  have follow := follows_registriesOf table calls
  have sound := ((List.forall₂_and_left _ _).mp follow.flip).1
  refine ⟨fun _ => ViewTag.isPlain_iff, fun finder => ?finder, exists_ofList_iff,
    fun registry among _ _ => exists_withRetriever_iff (sound registry among),
    follow.imp fun _ _ follows => follows.2, prefix_registriesOf table calls more⟩
  case finder =>
    rw [Finder.ofNames_eq_ok_iff, distinct_eq_eraseDups]
    simp only [ViewTag.isName_iff]

/-- A retriever is set in place of another one, a text that is no name is refused, and a retriever
is set for a new name. The first registry goes on to answer as it did. -/
theorem answers_for_blocks :
    let table : List (String × Retriever Nat Unit) := [("Block", .static { text := "a" })]
    let calls : List (Registration Nat Unit) := [⟨0, "BLOCK", .static { text := "b" }⟩,
      ⟨1, "2nd", .static { text := "c" }⟩, ⟨1, "widget", .static { text := "d" }⟩]
    ∃ first second third, registriesOf table calls = [first, second, third] ∧
      first.find? "block" = some (.static { text := "a" }) ∧
      third.find? "bLOCK" = some (.static { text := "b" }) ∧
      first.find? "widget" = none := by
  intro table calls
  obtain ⟨-, -, -, -, follow, -⟩ := names_and_answers [] table calls []
  have told : historiesOf table calls = [table,
      table ++ [("BLOCK", .static { text := "b" })],
      table ++ [("BLOCK", .static { text := "b" })] ++ [("widget", .static { text := "d" })]] := rfl
  rw [told] at follow
  generalize registriesOf table calls = made at follow ⊢
  rcases follow with _ | ⟨first, _ | ⟨-, _ | ⟨third, _ | _⟩⟩⟩
  refine ⟨_, _, _, rfl, (first "block" _).mpr ⟨"Block", by decide, [], [], rfl, nofun⟩,
    (third "bLOCK" _).mpr ⟨"BLOCK", by decide, table, _, rfl, ?_⟩, ?_⟩
  · exact List.forall_mem_singleton.mpr (by decide)
  · refine Option.eq_none_iff_forall_ne_some.mpr fun retriever found => ?_
    obtain ⟨name, same, lasting⟩ := (first "widget" retriever).mp found
    rw [(Prod.mk.inj (List.mem_singleton.mp lasting.mem)).1] at same
    exact absurd same (by decide)

/-- A finder and a registry are made for a name before a line end, which is not of the documented
form. -/
theorem not_plain_of_line_end :
    ¬ ((∃ finder, Finder.ofNames ["block\n"] = .ok finder) ↔
      ∀ name ∈ ["block\n"], ViewTag.IsPlain name) ∧
    ¬ ((∃ registry : Registry Nat Unit,
      ofList [("block\n", .static { text := "a" })] = .ok registry) ↔
        ViewTag.IsPlain "block\n") := by
  have other : ¬ ViewTag.IsPlain "block\n" := fun plain =>
    absurd (plain.isNameChar '\n' (by decide)) (by decide)
  constructor
  · intro documented
    exact other (documented.mp ⟨⟨["block\n"]⟩, rfl⟩ _ (List.mem_singleton_self _))
  · intro documented
    exact other (documented.mp ⟨⟨[("block\n", .static { text := "a" })]⟩, rfl⟩)

-- With the same name without the line end beside it, an occurrence belongs to two tags.
example : (Finder.mk ["block", "block\n"]).find "<block\n/>" =
    .ok [⟨"block", "", [], ["<block\n/>"]⟩, ⟨"block\n", "", [], ["<block\n/>"]⟩] := rfl

end Registry

end TagWeave
