import TagWeave.Mustache.Render

/-!
# Renderings that agree

Two renderings agree if, begun with the same memory, they fail with the same fault or give
results that are related, and leave the same memory. What is said of the memory before and
after them is said of the texts with known tokens; the line counters and the notes of what
was not found may be anything.
-/

namespace TagWeave.Mustache

variable {α β γ δ : Type}

theorem run_bind_ok {first : Rendering α} {next : α → Rendering β} {a : α}
    {memory memory' : Memory} (h : first.run.run memory = (.ok a, memory')) :
    (first >>= next).run.run memory = (next a).run.run memory' := by
  rw [ExceptT.run_bind, StateT.run_bind, h]
  rfl

/-- The steps of a text are those of its known tokens, or those of reading it. -/
theorem stepsOf_cases (text : List Char) (memory : Memory) :
    (∃ entry ∈ memory.known,
      (stepsOf text).run.run memory = (.ok (entry.2.map .token), memory)) ∨
    ((∀ entry ∈ memory.known, entry.1 ≠ text) ∧
      (stepsOf text).run.run memory = (.ok (scan text), { memory with lines := {} })) := by
  have recalled : (get : Rendering Memory).run.run memory = (.ok memory, memory) := rfl
  cases found : memory.known.find? (·.1 = text) with
  | some entry =>
      refine .inl ⟨entry, List.mem_of_find?_eq_some found, ?_⟩
      rw [stepsOf, run_bind_ok recalled, found]
      rfl
  | none =>
      refine .inr ⟨by simpa using found, ?_⟩
      rw [stepsOf, run_bind_ok recalled, found]
      rfl

/-- The texts with known tokens. -/
abbrev Known := List (List Char × List Token)

/-- Two outcomes match. -/
inductive Matches (after : α → β → Known → Prop) :
    Except InterpolationFault α × Memory → Except InterpolationFault β × Memory → Prop
  | fault (fault : InterpolationFault) (memory : Memory) :
      Matches after (.error fault, memory) (.error fault, memory)
  | result {a : α} {b : β} {memory : Memory} :
      after a b memory.known → Matches after (.ok a, memory) (.ok b, memory)

/-- Two renderings agree. -/
def Agree (before : Known → Prop) (after : α → β → Known → Prop) (first : Rendering α)
    (second : Rendering β) : Prop :=
  ∀ memory : Memory, before memory.known →
    Matches after (first.run.run memory) (second.run.run memory)

namespace Agree

variable {before : Known → Prop} {after : α → β → Known → Prop}

theorem pure {a : α} {b : β} (related : ∀ known, before known → after a b known) :
    Agree before after (pure a) (pure b) :=
  fun _ holds => .result (related _ holds)

theorem throw (fault : InterpolationFault) : Agree before after (throw fault) (throw fault) :=
  fun memory _ => .fault fault memory

/-- A rendering agrees with itself. -/
theorem refl (rendering : Rendering α) : Agree before (fun a b _ => a = b) rendering rendering := by
  intro memory _
  rcases rendering.run.run memory with ⟨_ | _, _⟩
  · exact .fault _ _
  · exact .result rfl

theorem bind {between : α → β → Known → Prop} {after : γ → δ → Known → Prop}
    {first : Rendering α} {second : Rendering β} {next : α → Rendering γ} {next' : β → Rendering δ}
    (agree : Agree before between first second)
    (rest : ∀ a b, Agree (between a b) after (next a) (next' b)) :
    Agree before after (first >>= next) (second >>= next') := by
  intro memory holds
  have matched := agree memory holds
  rw [ExceptT.run_bind, StateT.run_bind, ExceptT.run_bind, StateT.run_bind]
  generalize first.run.run memory = outcome at matched ⊢
  generalize second.run.run memory = outcome' at matched ⊢
  cases matched with
  | fault fault memory => exact .fault fault memory
  | result related => exact rest _ _ _ related

/-- What gives the same on both sides. -/
theorem bind_eq {between : Known → Prop} {after : γ → δ → Known → Prop}
    {first second : Rendering α} {next : α → Rendering γ} {next' : α → Rendering δ}
    (agree : Agree before (fun a b known => between known ∧ a = b) first second)
    (rest : ∀ a, Agree between after (next a) (next' a)) :
    Agree before after (first >>= next) (second >>= next') := by
  refine agree.bind ?_
  rintro a _ memory ⟨holds, rfl⟩
  exact rest a memory holds

/-- What changes the memory in the same way on both sides. -/
theorem modify {change : Memory → Memory} {after : Unit → Unit → Known → Prop}
    (holds : ∀ memory, before memory.known → after () () (change memory).known) :
    Agree before after (modify change) (modify change) :=
  fun memory known => .result (holds memory known)

theorem weaken {before' : Known → Prop} {after' : α → β → Known → Prop} {first : Rendering α}
    {second : Rendering β} (agree : Agree before after first second)
    (less : ∀ known, before' known → before known)
    (more : ∀ a b known, after a b known → after' a b known) :
    Agree before' after' first second := by
  intro memory holds
  have matched := agree memory (less _ holds)
  generalize first.run.run memory = outcome at matched ⊢
  generalize second.run.run memory = outcome' at matched ⊢
  cases matched with
  | fault fault memory => exact .fault fault memory
  | result related => exact .result (more _ _ _ related)

/-- Going through a list, step by step. -/
theorem foldlM {ι : Type} {items : List ι} {step : α → ι → Rendering α} {step' : β → ι → Rendering β}
    (agree : ∀ item ∈ items, ∀ a b, Agree (after a b) after (step a item) (step' b item)) (a : α)
    (b : β) : Agree (after a b) after (items.foldlM step a) (items.foldlM step' b) := by
  induction items generalizing a b with
  | nil => exact pure fun _ holds => holds
  | cons item items ih =>
      rw [List.foldlM_cons, List.foldlM_cons]
      exact bind (agree item (List.mem_cons_self ..) a b)
        fun a b => ih (fun item member => agree item (List.mem_cons_of_mem _ member)) a b

end Agree

variable {before : Known → Prop}

theorem agree_countLines (count : Nat) :
    Agree before (fun _ _ => before) (countLines count) (countLines count) :=
  .modify fun _ holds => holds

theorem agree_noteOpened : Agree before (fun _ _ => before) noteOpened noteOpened :=
  .modify fun _ holds => holds

theorem agree_textOf (value : Value) :
    Agree before (fun a b known => before known ∧ a = b) (textOf value) (textOf value) := by
  unfold textOf
  split
  · exact .pure fun _ holds => ⟨holds, rfl⟩
  · exact .throw _

theorem agree_complain {after : α → β → Known → Prop} (complaint : Complaint) :
    Agree before after (complain complaint) (complain complaint) := by
  intro memory _
  exact .fault _ _

end TagWeave.Mustache
