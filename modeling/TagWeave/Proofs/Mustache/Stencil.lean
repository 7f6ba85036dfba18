import TagWeave.Proofs.Mustache.Agreement
import TagWeave.Proofs.Mustache.Steps
import TagWeave.Proofs.Text.Split
import TagWeave.Proofs.Value.Entries
import TagWeave.Proofs.ViewTag.Name

/-!
# Stencils

The plainest mustache templates are literal texts with variables between them. With a
single mapping of texts a variable is filled in with its value, in which the characters
of markup are escaped, or with nothing. So what becomes of a stencil depends on the
values of its own variables only. A text in which no tag is opened stays as it is.
-/

namespace TagWeave

/-- A mapping of texts. -/
def Value.ofTexts (fields : List (String × String)) : Value :=
  .ofFields (fields.map fun (name, text) => (name, .str text))

namespace Mustache

open TagWeave.Text

/-- What opens a tag. -/
def opener : List Char := ['\x7b', '\x7b']

/-- What closes a tag. -/
def closer : List Char := ['\x7d', '\x7d']

/-- A variable that is shown with its markup escaped: the text before it, and its name. -/
structure Slot where
  before : List Char
  name : String

/-- The text of some variables and of what follows them. -/
def sourceOf : List Slot → List Char → List Char
  | [], rest => rest
  | slot :: slots, rest =>
    slot.before ++ (opener ++ (slot.name.toList ++ (closer ++ sourceOf slots rest)))

/-- The text with a value for each variable. -/
def fillOf (value : String → String) : List Slot → List Char → List Char
  | [], rest => rest
  | slot :: slots, rest =>
    slot.before ++ (escape (value slot.name).toList ++ fillOf value slots rest)

/-- Whether a character means something in a tag. -/
def isSign (c : Char) : Bool :=
  ['\x7b', '\x7d', '.', '!', '#', '^', '/', '>', '&', '='].contains c

/-- A name that can stand in a tag: it is not empty, and has neither blanks nor signs. -/
structure IsVariable (name : String) : Prop where
  ne_nil : name.toList ≠ []
  plain : ∀ c ∈ name.toList, isBlank c = false ∧ isSign c = false

/-- Names of letters, digits, underscores and hyphens are such. -/
theorem isVariable_of_isNameChar {name : String} (nonempty : name.toList ≠ [])
    (chars : ∀ c ∈ name.toList, ViewTag.isNameChar c = true) : IsVariable name := by
  refine ⟨nonempty, fun c hc => ⟨?_, ?_⟩⟩
  · exact ViewTag.isBlank_of_isNameChar (chars c hc)
  · have noName : ∀ d, isSign d = true → ViewTag.isNameChar d = false := by
      simp [isSign]
      decide
    rw [← Bool.not_eq_true]
    intro sign
    simpa [chars c hc] using noName c sign

/-- A slot whose text opens no tag, and whose name can stand in one. -/
structure Slot.Plain (slot : Slot) : Prop where
  before : '\x7b' ∉ slot.before
  name : IsVariable slot.name

/-- The steps of reading some variables and what follows them. -/
def stepsFor : List Slot → List Char → List Step
  | [], rest => if rest.isEmpty then [] else [.token (.text rest)]
  | slot :: slots, rest =>
    .lineEnds (slot.before.count '\n') ::
      ((if slot.before.isEmpty then [] else [.token (.text slot.before)]) ++
        .token (.escaped slot.name) :: stepsFor slots rest)

theorem trimRightBy_eq_self {p : Char → Bool} {s : List Char} (h : ∀ c ∈ s, p c = false) :
    trimRightBy p s = s := by
  rw [trimRightBy]
  cases hs : s.reverse with
  | nil => simpa using hs
  | cons c t =>
      have hc : c ∈ s := List.mem_reverse.mp (hs ▸ List.mem_cons_self ..)
      rw [List.dropWhile_cons_of_neg (by simp [h c hc]), ← hs, List.reverse_reverse]

theorem trim_eq_self {s : List Char} (h : ∀ c ∈ s, isBlank c = false) : trim s = s := by
  have left : trimLeftBy isBlank s = s := by
    cases s with
    | nil => rfl
    | cons c s => exact List.dropWhile_cons_of_neg (by simp [h c (List.mem_cons_self ..)])
  rw [trim, left, trimRightBy_eq_self h]

/-- A tag that begins with no sign is a variable. -/
theorem readTag_of_not_isSign {c : Char} (h : isSign c = false) (delimiters : Delimiters)
    (s rest : List Char) : readTag delimiters (c :: s) rest =
      .ok (.token (.escaped (String.ofList (trim (c :: s)))), rest) := by
  unfold readTag
  split
  all_goals simp_all [isSign]

theorem readTag_of_isVariable {name : String} (h : IsVariable name) (rest : List Char) :
    readTag {} name.toList rest = .ok (.token (.escaped name), rest) := by
  have trimmed : trim name.toList = name.toList := trim_eq_self fun c hc => (h.plain c hc).1
  obtain ⟨c, s, hname⟩ := List.exists_cons_of_ne_nil h.ne_nil
  have plain := (h.plain c (hname ▸ List.mem_cons_self ..)).2
  rw [hname, readTag_of_not_isSign plain, ← hname, trimmed, String.ofList_toList]

theorem IsVariable.not_mem {name : String} (h : IsVariable name) {c : Char} (sign : isSign c = true) :
    c ∉ name.toList := by
  intro hc
  rw [(h.plain c hc).2] at sign
  cases sign

/-- Reading a variable and the text before it. -/
theorem scanFrom_append {before : List Char} (unopened : '\x7b' ∉ before) {name : String}
    (h : IsVariable name) (fuel : Nat) (standalone : Bool) (s : List Char) :
    scanFrom (fuel + 1) standalone [] {} (before ++ (opener ++ (name.toList ++ (closer ++ s)))) =
      .lineEnds (before.count '\n') ::
        ((if before.isEmpty then [] else [.token (.text before)]) ++
          .token (.escaped name) :: scanFrom fuel false [] {} s) := by
  obtain ⟨c, tail, hname⟩ := List.exists_cons_of_ne_nil h.ne_nil
  have nonempty :
      (before ++ (opener ++ (name.toList ++ (closer ++ s)))).isEmpty = false := by
    simp [opener]
  have opened : splitAt? ({} : Delimiters).left
      (before ++ (opener ++ (name.toList ++ (closer ++ s)))) =
        some (before, name.toList ++ (closer ++ s)) := splitOnce?_append unopened
  have closed : splitAt? ({} : Delimiters).right (name.toList ++ (closer ++ s)) =
      some (name.toList, s) := splitOnce?_append (h.not_mem rfl)
  have read := readTag_of_isVariable h s
  rw [scanFrom, nonempty, opened]
  rw [hname, List.cons_append] at closed ⊢
  rw [hname] at read
  simp only [Bool.false_eq_true, if_false, closed, read, openAfter, Tag.openedStep, tagSteps,
    delimitersAfter, Tag.mayStandAlone, Bool.and_false, Bool.false_and, List.nil_append,
    List.append_assoc, List.singleton_append]

/-- A stencil is read as its variables and the texts between them. -/
theorem scanFrom_sourceOf {slots : List Slot} (plain : ∀ slot ∈ slots, slot.Plain) {rest : List Char}
    (unopened : ¬ opener <:+: rest) {fuel : Nat} (enough : slots.length < fuel)
    (standalone : Bool) :
    scanFrom fuel standalone [] {} (sourceOf slots rest) = stepsFor slots rest := by
  obtain ⟨fuel, rfl⟩ := Nat.exists_eq_add_one_of_ne_zero (Nat.ne_of_gt (Nat.zero_lt_of_lt enough))
  induction slots generalizing fuel standalone with
  | nil =>
      have whole : splitAt? ({} : Delimiters).left rest = none :=
        splitOnce?_eq_none (by decide) unopened
      rw [sourceOf, scanFrom, stepsFor, whole]
      rfl
  | cons slot slots ih =>
      obtain ⟨⟨before, name⟩, others⟩ := List.forall_mem_cons.mp plain
      rw [List.length_cons, Nat.add_lt_add_iff_right] at enough
      obtain ⟨fuel, rfl⟩ := Nat.exists_eq_add_one_of_ne_zero
        (Nat.ne_of_gt (Nat.zero_lt_of_lt enough))
      rw [sourceOf, scanFrom_append before name, ih others false fuel enough, stepsFor]

theorem length_le_sourceOf (slots : List Slot) (rest : List Char) :
    slots.length ≤ (sourceOf slots rest).length := by
  induction slots with
  | nil => exact Nat.zero_le _
  | cons slot slots ih =>
      simp only [sourceOf, opener, List.length_cons, List.length_append]
      omega

theorem scan_sourceOf {slots : List Slot} (plain : ∀ slot ∈ slots, slot.Plain) {rest : List Char}
    (unopened : ¬ opener <:+: rest) : scan (sourceOf slots rest) = stepsFor slots rest :=
  scanFrom_sourceOf plain unopened (Nat.lt_succ_of_le (length_le_sourceOf slots rest)) true

/-! ### Filling in -/

/-- The memory after a variable has been looked up, and the lines before it have been counted. -/
def Memory.afterSlot (value? : String → Option String) (memory : Memory) (slot : Slot) : Memory :=
  { memory with
    lines := { memory.lines with current := memory.lines.current + slot.before.count '\n' }
    notFound := memory.notFound ++ if (value? slot.name).isNone then [slot.name] else [] }

theorem IsVariable.keyParts_eq {name : String} (h : IsVariable name) : keyParts name = [name] := by
  rw [keyParts, pieces_of_not_mem (h.not_mem rfl), List.map_singleton, String.ofList_toList]

theorem get?_ofTexts (fields : List (String × String)) (name : String) :
    Entries.get? (fields.map fun field => (.str field.1, .str field.2)) (.str name) =
      (fields.lookup name).map .str := by
  induction fields with
  | nil => rfl
  | cons field fields ih =>
      rw [Entries.get?] at ih ⊢
      rw [List.map_cons, List.find?_cons, List.lookup_cons, Key.same_str]
      cases name == field.1 with
      | true => rfl
      | false => exact ih

/-- What a mapping has under a variable's name. -/
theorem search_ofTexts {name : String} (h : IsVariable name) (fields : List (String × String)) :
    search (keyParts name) [.ofTexts fields] =
      match fields.lookup name with
      | some text => .found (.str text)
      | none => .missing := by
  have entry : Entries.get? (fields.map ((fun field => (Key.str field.1, field.2)) ∘
      fun field => (field.1, Value.str field.2))) (.str name) =
        (fields.lookup name).map .str := get?_ofTexts fields name
  rw [h.keyParts_eq]
  simp only [search, follow, member, Value.ofTexts, Value.ofFields, List.map_map, entry]
  cases fields.lookup name with
  | none => rfl
  | some text => rfl

theorem shownFound_str (text : String) : shownFound (.str text) = .str text := by
  unfold shownFound
  simp only
  split
  · rfl
  · next empty =>
    have same : text = "" := by simpa [Value.truthy] using empty
    rw [same]

/-- A variable is looked up in the mapping; a name that is missing there is noted. -/
theorem variableValue_ofTexts {name : String} (h : IsVariable name) (fields : List (String × String))
    (memory : Memory) :
    (variableValue name [.ofTexts fields]).run.run memory =
      (.ok (.str ((fields.lookup name).getD "")),
        { memory with notFound := memory.notFound ++
            if (fields.lookup name).isNone then [name] else [] }) := by
  have notPoint : name ≠ "." := by
    rintro rfl
    exact h.not_mem rfl (List.mem_singleton_self '.')
  rw [variableValue, lookup, if_neg notPoint, search_ofTexts h]
  cases fields.lookup name with
  | none =>
      simp
      rfl
  | some text =>
      simp [shownFound_str]
      rfl

/-! ### Rendering -/

section

variable {host : Host} {nested : Renderer} {fuel : Nat} {steps : List Step} {output : List Char}

theorem pad_nil (s : List Char) : pad [] s = s := by
  induction s with
  | nil => rfl
  | cons c s ih =>
      rw [pad] at ih ⊢
      rw [List.flatMap_cons, ih]
      split
      · next same => rw [same]; rfl
      · rfl

theorem run_lineEnds (count : Nat) (scopes : List Value) (memory : Memory) :
    (run host nested (fuel + 1) (.lineEnds count :: steps) [] scopes output).run.run memory =
      (run host nested fuel steps [] scopes output).run.run
        { memory with lines := { memory.lines with current := memory.lines.current + count } } := by
  rw [run]
  rfl

theorem run_escaped_ofTexts {name : String} (h : IsVariable name) (fields : List (String × String))
    (memory : Memory) :
    (run host nested (fuel + 1) (.token (.escaped name) :: steps) [] [.ofTexts fields] output).run.run
        memory =
      (run host nested fuel steps [] [.ofTexts fields]
        (output ++ escape ((fields.lookup name).getD "").toList)).run.run
        { memory with notFound := memory.notFound ++
            if (fields.lookup name).isNone then [name] else [] } := by
  rw [run_escaped (hides_single _), run_bind_ok (variableValue_ofTexts h fields memory)]
  rfl

/-- Following the steps of a stencil fills in its variables. -/
theorem run_stepsFor {slots : List Slot} (plain : ∀ slot ∈ slots, slot.Plain) (rest : List Char)
    (fields : List (String × String)) (enough : (stepsFor slots rest).length < fuel)
    (memory : Memory) :
    (run host nested fuel (stepsFor slots rest) [] [.ofTexts fields] output).run.run memory =
      (.ok (output ++ fillOf (fun name => (fields.lookup name).getD "") slots rest,
          [.ofTexts fields]),
        slots.foldl (Memory.afterSlot (fun name => fields.lookup name)) memory) := by
  induction slots generalizing fuel output memory with
  | nil =>
      obtain ⟨fuel, rfl⟩ := Nat.exists_eq_add_one_of_ne_zero (Nat.ne_of_gt (Nat.zero_lt_of_lt enough))
      rw [stepsFor] at enough ⊢
      split at enough
      · next empty =>
        rw [if_pos empty, run, fillOf, List.isEmpty_iff.mp empty, List.append_nil]
        rfl
      · next nonempty =>
        obtain ⟨fuel, rfl⟩ := Nat.exists_eq_add_one_of_ne_zero
          (Nat.ne_of_gt (Nat.lt_of_succ_lt_succ enough))
        rw [if_neg nonempty, run_text (hides_single _), pad_nil, run]
        rfl
  | cons slot slots ih =>
      obtain ⟨⟨-, variable'⟩, others⟩ := List.forall_mem_cons.mp plain
      obtain ⟨before, name⟩ := slot
      rw [List.foldl_cons, fillOf]
      cases before with
      | nil =>
          obtain ⟨fuel, rfl⟩ : ∃ k, fuel = k + 2 := ⟨fuel - 2, by simp [stepsFor] at enough; omega⟩
          have further : (stepsFor slots rest).length < fuel := by simpa [stepsFor] using enough
          simp only [stepsFor, List.isEmpty_nil, if_true, List.nil_append]
          rw [run_lineEnds, run_escaped_ofTexts variable', ih others further, List.append_assoc]
          rfl
      | cons c before =>
          obtain ⟨fuel, rfl⟩ : ∃ k, fuel = k + 3 := ⟨fuel - 3, by simp [stepsFor] at enough; omega⟩
          have further : (stepsFor slots rest).length < fuel := by simpa [stepsFor] using enough
          simp only [stepsFor, List.isEmpty_cons, Bool.false_eq_true, if_false,
            List.singleton_append]
          rw [run_lineEnds, run_text (hides_single _), pad_nil, run_escaped_ofTexts variable',
            ih others further, List.append_assoc, List.append_assoc]
          rfl

end

/-- Rendering a stencil fills in its variables with the texts of the mapping. If no texts with known
tokens are remembered, it is read anew. -/
theorem interpolate_sourceOf {slots : List Slot} (plain : ∀ slot ∈ slots, slot.Plain)
    {rest : List Char} (unopened : ¬ opener <:+: rest) (host : Host)
    (fields : List (String × String)) {memory : Memory} (fresh : memory.known = []) :
    (interpolate host (String.ofList (sourceOf slots rest)) [.ofTexts fields]).run.run memory =
      (.ok (String.ofList (fillOf (fun name => (fields.lookup name).getD "") slots rest)),
        slots.foldl (Memory.afterSlot (fun name => fields.lookup name))
          { memory with lines := {} }) := by
  have read : (stepsOf (sourceOf slots rest)).run.run memory =
      (.ok (stepsFor slots rest), { memory with lines := {} }) := by
    rw [← scan_sourceOf plain unopened]
    rcases stepsOf_cases (sourceOf slots rest) memory with ⟨entry, member, -⟩ | ⟨-, read⟩
    · rw [fresh] at member
      cases member
    · exact read
  have ran := @run_stepsFor host (renderAt host host.depth) _ [] slots plain rest fields
    (Nat.lt_succ_self _) { memory with lines := {} }
  have rendered : (renderAt host (host.depth + 1) (sourceOf slots rest) []
      (scopesOf [.ofTexts fields])).run.run memory = _ := (run_bind_ok read).trans ran
  rw [interpolate_eq, String.toList_ofList, run_bind_ok rendered]
  rfl

/-! ### The values that matter -/

theorem fillOf_congr {value value' : String → String} {slots : List Slot}
    (agree : ∀ slot ∈ slots, value slot.name = value' slot.name) (rest : List Char) :
    fillOf value slots rest = fillOf value' slots rest := by
  induction slots with
  | nil => rfl
  | cons slot slots ih =>
      obtain ⟨first, others⟩ := List.forall_mem_cons.mp agree
      rw [fillOf, fillOf, first, ih others]

theorem foldl_afterSlot_congr {value? value?' : String → Option String} {slots : List Slot}
    (agree : ∀ slot ∈ slots, value? slot.name = value?' slot.name) (memory : Memory) :
    slots.foldl (Memory.afterSlot value?) memory = slots.foldl (Memory.afterSlot value?') memory := by
  apply List.foldl_ext
  intro memory slot hslot
  rw [Memory.afterSlot, Memory.afterSlot, agree slot hslot]

theorem known_foldl_afterSlot (value? : String → Option String) (slots : List Slot)
    (memory : Memory) : (slots.foldl (Memory.afterSlot value?) memory).known = memory.known := by
  induction slots generalizing memory with
  | nil => rfl
  | cons slot slots ih => exact ih _

end Mustache

end TagWeave
