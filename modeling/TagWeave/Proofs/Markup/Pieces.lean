import TagWeave.Proofs.Markup.Written

/-!
# The pieces of an attribute text

The attributes that are read from a text are pieces of it: the keys and values stand in it
one after the other. So it is, too, when the text stands in an element, before a blank and
the end of the element, with one exception. If the text ends with an equals sign of its last
attribute, the value is looked for behind the blank, and the slash of the end is taken
for it.
-/

namespace TagWeave.Markup

open TagWeave.Text

/-- The end of the element that an attribute text is put into. -/
def ending : List Char := [' ', '/', '>']

/-- Nothing in an attribute text ends a tag. -/
def IsInner (s : List Char) : Prop := ∀ c ∈ s, c ≠ '/' ∧ c ≠ '>'

instance (s : List Char) : Decidable (IsInner s) :=
  List.decidableBAll (fun c => c ≠ '/' ∧ c ≠ '>') s

/-- The keys and values of attributes stand in a text one after the other. -/
inductive Laid : List RawAttribute → List Char → Prop
  | nil (s : List Char) : Laid [] s
  | valueless (before key : List Char) {after : List Char} {fields : List RawAttribute}
      (rest : Laid fields after) : Laid (⟨key, none⟩ :: fields) (before ++ key ++ after)
  | valued (before key between value : List Char) {after : List Char} {fields : List RawAttribute}
      (rest : Laid fields after) :
      Laid (⟨key, some value⟩ :: fields) (before ++ key ++ between ++ value ++ after)

theorem Laid.prepend {fields : List RawAttribute} {s : List Char} (h : Laid fields s)
    (front : List Char) : Laid fields (front ++ s) := by
  cases h with
  | nil => exact .nil _
  | valueless before key rest =>
      have moved := Laid.valueless (front ++ before) key rest
      simpa only [List.append_assoc] using moved
  | valued before key between value rest =>
      have moved := Laid.valued (front ++ before) key between value rest
      simpa only [List.append_assoc] using moved

/-- Each value is a piece of the text. -/
theorem Laid.infix_of_mem {fields : List RawAttribute} {s : List Char} (laid : Laid fields s)
    {field : RawAttribute} (member : field ∈ fields) {value : List Char}
    (h : field.value? = some value) : value <:+: s := by
  induction laid with
  | nil => cases member
  | valueless before key rest ih =>
      rcases List.mem_cons.mp member with rfl | member
      · cases h
      · exact (ih member).trans (List.suffix_append _ _).isInfix
  | valued before key between text rest ih =>
      rcases List.mem_cons.mp member with rfl | member
      · cases h
        exact ⟨_, _, rfl⟩
      · exact (ih member).trans (List.suffix_append _ _).isInfix

/-- No value of an attribute in such a text is the slash that ends an element. -/
theorem IsInner.not_laid_slash {s : List Char} (inner : IsInner s) (others : List RawAttribute)
    (key : List Char) : ¬ Laid (others ++ [⟨key, some ['/']⟩]) s := by
  intro laid
  have member := List.mem_append_right others
    (List.mem_singleton_self (⟨key, some ['/']⟩ : RawAttribute))
  have part := laid.infix_of_mem member rfl
  exact (inner '/' (part.subset (List.mem_singleton_self _))).1 rfl

/-- The last character of a text that is not blank. -/
def lastMark? (s : List Char) : Option Char := (s.filter fun c => !isBlank c).getLast?

theorem lastMark?_append {front s : List Char} {c : Char} (h : lastMark? s = some c) :
    lastMark? (front ++ s) = some c := by
  rw [lastMark?, List.filter_append, List.getLast?_append, ← lastMark?, h]
  rfl

theorem lastMark?_append_blanks {s blanks : List Char} (h : ∀ c ∈ blanks, isBlank c = true) :
    lastMark? (s ++ blanks) = lastMark? s := by
  have none : blanks.filter (fun c => !isBlank c) = [] := by
    simpa using h
  rw [lastMark?, List.filter_append, none, List.append_nil, lastMark?]

/-! ### Gaps -/

/-- What is left of a text before the end of the element, if this is left of the text itself. -/
def closing (s : List Char) : List Char := if s = [] then ['/', '>'] else s ++ ending

theorem IsInner.skipGap {s : List Char} (inner : IsInner s) :
    ∃ gap, s = gap ++ skipGap s ∧ (∀ c ∈ gap, isBlank c = true) ∧
      (∀ c ∈ (skipGap s).head?, isKeyStart c = true) ∧
      Markup.skipGap (s ++ ending) = closing (skipGap s) := by
  induction s with
  | nil => exact ⟨[], rfl, by simp, by simp [Markup.skipGap], rfl⟩
  | cons c s ih =>
      obtain ⟨noEnd, others⟩ := List.forall_mem_cons.mp inner
      obtain ⟨gap, split, blanks, start, closed⟩ := ih others
      by_cases blank : isBlank c = true
      · have skipped : ∀ s, Markup.skipGap (c :: s) = Markup.skipGap s := by
          intro s
          rw [Markup.skipGap, if_pos (by simp [blank])]
          rintro rest rfl
          exact absurd rfl noEnd.1
        refine ⟨c :: gap, ?_, ?_, ?_, ?_⟩
        · rw [skipped, List.cons_append, ← split]
        · exact List.forall_mem_cons.mpr ⟨blank, blanks⟩
        · rwa [skipped]
        · rw [List.cons_append, skipped, skipped, closed]
      · have first : isKeyStart c = true := by simp [isKeyStart, blank, noEnd]
        refine ⟨[], ?_, by simp, ?_, ?_⟩
        · rw [skipGap_cons first, List.nil_append]
        · rw [skipGap_cons first]
          rintro d ⟨⟩
          exact first
        · rw [List.cons_append, skipGap_cons first, skipGap_cons first, closing, if_neg (by simp)]
          rfl

/-! ### Values -/

theorem head?_append_append {α : Type} {a b c : List α} (nonempty : b ≠ []) :
    (a ++ (b ++ c)).head? = (a ++ b).head? := by
  cases a with
  | nil => exact List.head?_append_of_ne_nil _ nonempty
  | cons x a => rfl

/-- The spans at the start of a text in which a value may begin: blanks, equals signs, blanks, and
the rest. -/
structure Spans (s indent signs blanks start : List Char) : Prop where
  text : s = indent ++ (signs ++ (blanks ++ start))
  isBlank_indent : ∀ c ∈ indent, isBlank c = true
  indent_stops : ∀ c ∈ (signs ++ (blanks ++ start)).head?, isBlank c = false
  eq_of_mem_signs : ∀ c ∈ signs, c = '='
  signs_stop : ∀ c ∈ (blanks ++ start).head?, c ≠ '='
  isBlank_blanks : ∀ c ∈ blanks, isBlank c = true
  blanks_stop : ∀ c ∈ start.head?, isBlank c = false

theorem exists_spans (s : List Char) :
    ∃ indent signs blanks start, Spans s indent signs blanks start := by
  let afterIndent := s.dropWhile isBlank
  let afterSigns := afterIndent.dropWhile (fun c => decide (c = '='))
  refine ⟨s.takeWhile isBlank, afterIndent.takeWhile (fun c => decide (c = '=')),
    afterSigns.takeWhile isBlank, afterSigns.dropWhile isBlank, ?_⟩
  constructor
  · rw [List.takeWhile_append_dropWhile, List.takeWhile_append_dropWhile,
      List.takeWhile_append_dropWhile]
  · exact fun _ h => List.mem_takeWhile_imp h
  · rw [List.takeWhile_append_dropWhile, List.takeWhile_append_dropWhile]
    exact head?_dropWhile isBlank s
  · intro c h
    have sign := List.mem_takeWhile_imp h
    exact of_decide_eq_true sign
  · rw [List.takeWhile_append_dropWhile]
    exact fun c h => of_decide_eq_false (head?_dropWhile _ afterIndent c h)
  · exact fun _ h => List.mem_takeWhile_imp h
  · exact head?_dropWhile isBlank afterSigns

namespace Spans

variable {s indent signs blanks start : List Char}

/-- The spans are what `value?` looks at. -/
theorem value?_eq (spans : Spans s indent signs blanks start) :
    value? s =
      if signs.isEmpty then none
      else match start with
        | '\'' :: rest =>
          match quotedValue? '\'' rest with
          | some found => some found
          | none => unclosedValue? signs blanks start
        | '"' :: rest =>
          match quotedValue? '"' rest with
          | some found => some found
          | none => unclosedValue? signs blanks start
        | _ => some (bareValue start) := by
  have signs_eq : ∀ c ∈ signs, decide (c = '=') = true :=
    fun c h => decide_eq_true (spans.eq_of_mem_signs c h)
  have signs_stop : ∀ c ∈ (blanks ++ start).head?, decide (c = '=') = false :=
    fun c h => decide_eq_false (spans.signs_stop c h)
  have read := value?.eq_def s
  rw [spans.text] at read ⊢
  simp only [dropWhile_append_of_stop spans.isBlank_indent spans.indent_stops,
    takeWhile_append_of_stop signs_eq signs_stop, dropWhile_append_of_stop signs_eq signs_stop,
    takeWhile_append_of_stop spans.isBlank_blanks spans.blanks_stop,
    dropWhile_append_of_stop spans.isBlank_blanks spans.blanks_stop] at read
  exact read

theorem value?_eq_none (spans : Spans s indent [] blanks start) : value? s = none := by
  rw [spans.value?_eq]
  rfl

theorem value?_eq_bareValue (spans : Spans s indent signs blanks start) (given : signs ≠ [])
    (unquoted : ∀ c ∈ start.head?, c ≠ '\'' ∧ c ≠ '"') : value? s = some (bareValue start) := by
  rw [spans.value?_eq, if_neg (by simpa using given)]
  split
  · exact absurd rfl (unquoted _ rfl).1
  · exact absurd rfl (unquoted _ rfl).2
  · rfl

theorem value?_eq_quotedValue? {quote : Char} {rest : List Char}
    (spans : Spans s indent signs blanks (quote :: rest)) (given : signs ≠ [])
    (quotes : quote = '\'' ∨ quote = '"') :
    value? s = (quotedValue? quote rest).or (unclosedValue? signs blanks (quote :: rest)) := by
  rw [spans.value?_eq, if_neg (by simpa using given)]
  rcases quotes with rfl | rfl
  · simp only
    cases quotedValue? '\'' rest with
    | none => rfl
    | some found => rfl
  · simp only
    cases quotedValue? '"' rest with
    | none => rfl
    | some found => rfl

/-- The spans stay what they were when the element ends behind them. -/
theorem append_ending (spans : Spans s indent signs blanks start) (nonempty : start ≠ []) :
    Spans (s ++ ending) indent signs blanks (start ++ ending) := by
  constructor
  · rw [spans.text]
    simp only [List.append_assoc]
  · exact spans.isBlank_indent
  · have stops := spans.indent_stops
    rwa [← List.append_assoc blanks, head?_append_append (by simp [nonempty])]
  · exact spans.eq_of_mem_signs
  · rw [head?_append_append nonempty]
    exact spans.signs_stop
  · exact spans.isBlank_blanks
  · rw [List.head?_append_of_ne_nil _ nonempty]
    exact spans.blanks_stop

/-- If nothing is left for a value, the slash of the end is. -/
theorem append_ending_of_signs (spans : Spans s indent signs blanks []) (given : signs ≠ []) :
    Spans (s ++ ending) indent signs (blanks ++ [' ']) ['/', '>'] := by
  constructor
  · rw [spans.text]
    simp only [List.append_assoc, ending]
    rfl
  · exact spans.isBlank_indent
  · have stops := spans.indent_stops
    rw [List.head?_append_of_ne_nil _ given] at stops ⊢
    exact stops
  · exact spans.eq_of_mem_signs
  · have stops := spans.signs_stop
    cases blanks with
    | nil => simp
    | cons blank blanks => simpa using stops
  · intro c h
    rcases List.mem_append.mp h with h | h
    · exact spans.isBlank_blanks c h
    · rw [List.mem_singleton.mp h]
      decide
  · rintro c ⟨⟩
    decide

/-- If there is no equals sign either, the end of the element does not bring one. -/
theorem append_ending_of_nil (spans : Spans s indent [] blanks []) :
    value? (s ++ ending) = none := by
  have none : blanks = [] := by
    cases blanks with
    | nil => rfl
    | cons blank blanks =>
        have stops := spans.indent_stops blank rfl
        rw [spans.isBlank_blanks blank (List.mem_cons_self ..)] at stops
        cases stops
  have closed : Spans (s ++ ending) (indent ++ [' ']) [] [] ['/', '>'] := by
    constructor
    · rw [spans.text, none, ending]
      simp only [List.append_assoc]
      rfl
    · intro c h
      rcases List.mem_append.mp h with h | h
      · exact spans.isBlank_indent c h
      · rw [List.mem_singleton.mp h]
        decide
    · rintro c ⟨⟩
      decide
    · simp
    · rintro c ⟨⟩
      decide
    · simp
    · rintro c ⟨⟩
      decide
  exact closed.value?_eq_none

theorem lastMark?_eq (spans : Spans s indent signs blanks []) (given : signs ≠ []) :
    lastMark? s = some '=' := by
  obtain ⟨init, last, rfl⟩ := (List.eq_nil_or_concat' signs).resolve_left given
  have sign : last = '=' := spans.eq_of_mem_signs last (by simp)
  have text : s = (indent ++ init) ++ (['='] ++ blanks) := by
    rw [spans.text, sign]
    simp
  rw [text]
  apply lastMark?_append
  rw [lastMark?_append_blanks spans.isBlank_blanks]
  decide

end Spans

theorem exists_of_quotedValue? {quote : Char} {s value rest : List Char}
    (h : quotedValue? quote s = some (value, rest)) :
    s = value ++ quote :: rest ∧ quote ∉ value := by
  rw [quotedValue?] at h
  split at h
  · next c after dropped =>
    cases h
    have stops := head?_dropWhile (fun c => decide (c ≠ quote)) s c (by rw [dropped]; rfl)
    obtain rfl : c = quote := by simpa using stops
    refine ⟨?_, ?_⟩
    · rw [← dropped, List.takeWhile_append_dropWhile]
    · intro h
      simpa using List.mem_takeWhile_imp h
  · cases h

theorem quotedValue?_append {quote : Char} {value : List Char} (absent : quote ∉ value)
    (rest : List Char) : quotedValue? quote (value ++ quote :: rest) = some (value, rest) := by
  have before : ∀ c ∈ value, decide (c ≠ quote) = true :=
    fun c hc => decide_eq_true fun same => absent (same ▸ hc)
  rw [quotedValue?, dropWhile_append_of_stop before (by simp),
    takeWhile_append_of_stop before (by simp)]

theorem quotedValue?_eq_none_iff {quote : Char} {s : List Char} :
    quotedValue? quote s = none ↔ quote ∉ s := by
  constructor
  · intro unclosed member
    obtain ⟨value, rest, rfl, absent⟩ := List.eq_append_cons_of_mem member
    rw [quotedValue?_append absent] at unclosed
    cases unclosed
  · intro absent
    have none : s.dropWhile (fun c => decide (c ≠ quote)) = [] :=
      List.dropWhile_eq_nil_iff.mpr fun c hc => decide_eq_true fun same => absent (same ▸ hc)
    rw [quotedValue?, none]

theorem bareValue_append_ending (s : List Char) :
    bareValue (s ++ ending) = ((bareValue s).1, (bareValue s).2 ++ ending) := by
  have before : ∀ c ∈ s.takeWhile isBareChar, isBareChar c = true :=
    fun _ h => List.mem_takeWhile_imp h
  have stops : ∀ c ∈ (s.dropWhile isBareChar ++ ending).head?, isBareChar c = false := by
    cases dropped : s.dropWhile isBareChar with
    | nil =>
        rintro c ⟨⟩
        decide
    | cons c rest =>
        have stops := head?_dropWhile isBareChar s
        rwa [dropped] at stops
  have split : s ++ ending = s.takeWhile isBareChar ++ (s.dropWhile isBareChar ++ ending) := by
    rw [← List.append_assoc, List.takeWhile_append_dropWhile]
  rw [bareValue, split, takeWhile_append_of_stop before stops,
    dropWhile_append_of_stop before stops]
  rfl

/-- A value that is found in a text. -/
structure Found (s value rest : List Char) : Prop where
  placed : ∃ between after, s = between ++ value ++ (after ++ rest)
  resumes : (∀ c ∈ rest.head?, isBlank c = true) ∨
    ∃ read quote, s = read ++ quote :: rest ∧ (quote = '\'' ∨ quote = '"')
  marked : value = [] → (∀ c ∈ rest, isBlank c = true) → ∃ c, lastMark? s = some c ∧ c ≠ '='

theorem Found.bare {s front start : List Char} {c : Char} (inner : IsInner s)
    (text : s = front ++ c :: start) (first : isBlank c = false) :
    Found s (bareValue (c :: start)).1 (bareValue (c :: start)).2 := by
  have split : (bareValue (c :: start)).1 ++ (bareValue (c :: start)).2 = c :: start :=
    List.takeWhile_append_dropWhile
  have begins : isBareChar c = true := by
    have notEnd : c ≠ '>' := (inner c (by rw [text]; simp)).2
    simp [isBareChar, first, notEnd]
  constructor
  · exact ⟨front, [], by rw [List.append_assoc, List.nil_append, split, text]⟩
  · refine .inl fun d h => ?_
    have stops : isBareChar d = false := head?_dropWhile isBareChar (c :: start) d h
    have member : d ∈ s := by
      rw [text, ← split]
      simp [List.mem_of_mem_head? h]
    simpa [isBareChar, (inner d member).2] using stops
  · intro empty
    rw [bareValue, List.takeWhile_cons_of_pos begins] at empty
    cases empty

theorem Found.quoted {s front value rest : List Char} {quote : Char}
    (quotes : quote = '\'' ∨ quote = '"') (text : s = front ++ quote :: (value ++ quote :: rest)) :
    Found s value rest := by
  constructor
  · refine ⟨front ++ [quote], [quote], ?_⟩
    rw [text]
    simp
  · refine .inr ⟨front ++ quote :: value, quote, ?_, quotes⟩
    rw [text]
    simp
  · intro _ blanks
    have shape : s = (front ++ quote :: value ++ [quote]) ++ rest := by
      rw [text]
      simp
    have mark : lastMark? [quote] = some quote := by
      rcases quotes with rfl | rfl
      · decide
      · decide
    refine ⟨quote, ?_, ?_⟩
    · rw [shape, lastMark?_append_blanks blanks, lastMark?_append mark]
    · rcases quotes with rfl | rfl
      · decide
      · decide

/-- What comes of a value when the element ends behind the text. -/
inductive ReadsValue (s : List Char) : Prop
  | absent (alone : value? s = none) (within : value? (s ++ ending) = none)
  | found {value rest : List Char} (alone : value? s = some (value, rest))
      (within : value? (s ++ ending) = some (value, rest ++ ending)) (found : Found s value rest)
  | dangling (alone : value? s = some ([], []))
      (within : value? (s ++ ending) = some (['/'], ['>'])) (marked : lastMark? s = some '=')

/-- A quote that is not closed is not closed behind the text either. -/
theorem readsValue_unclosed {s indent signs blanks start : List Char} {c : Char} (inner : IsInner s)
    (spans : Spans s indent signs blanks (c :: start))
    (alone : value? s = unclosedValue? signs blanks (c :: start))
    (within : value? (s ++ ending) = unclosedValue? signs blanks (c :: start ++ ending)) :
    ReadsValue s := by
  rcases List.eq_nil_or_concat' blanks with rfl | ⟨init, blank, rfl⟩
  · by_cases several : 2 ≤ signs.length
    · have given : signs ≠ [] := by
        rintro rfl
        simp at several
      obtain ⟨init, last, rfl⟩ := (List.eq_nil_or_concat' signs).resolve_left given
      have sign : last = '=' := spans.eq_of_mem_signs last (by simp)
      have text : s = (indent ++ init) ++ '=' :: c :: start := by
        rw [spans.text, sign]
        simp
      apply ReadsValue.found _ _ (Found.bare inner text (by decide))
      · rw [alone, unclosedValue?, List.getLast?_nil]
        exact if_pos several
      · rw [within, unclosedValue?, List.getLast?_nil]
        simp only
        rw [if_pos several, ← List.cons_append, bareValue_append_ending]
    · apply ReadsValue.absent
      · rw [alone, unclosedValue?, List.getLast?_nil]
        exact if_neg several
      · rw [within, unclosedValue?, List.getLast?_nil]
        exact if_neg several
  · have text : s = (indent ++ signs ++ init) ++ blank :: c :: start := by
      rw [spans.text]
      simp
    have isBlank_blank : isBlank blank = true := spans.isBlank_blanks blank (by simp)
    have alone : value? s = some ([], blank :: c :: start) := by
      rw [alone, unclosedValue?, List.getLast?_concat]
    apply ReadsValue.found alone
    · rw [within, unclosedValue?, List.getLast?_concat]
      rfl
    · constructor
      · exact ⟨indent ++ signs ++ init, [], by rw [text]; simp⟩
      · exact .inl (by rintro d ⟨⟩; exact isBlank_blank)
      · intro _ blanks
        -- the quote is not blank
        have first := spans.blanks_stop c rfl
        rw [blanks c (by simp)] at first
        cases first

theorem readsValue_quoted {s indent signs blanks start : List Char} {c : Char} (inner : IsInner s)
    (spans : Spans s indent signs blanks (c :: start)) (given : signs ≠ [])
    (quotes : c = '\'' ∨ c = '"') : ReadsValue s := by
  have alone := spans.value?_eq_quotedValue? given quotes
  have longer : Spans (s ++ ending) indent signs blanks (c :: (start ++ ending)) :=
    spans.append_ending (List.cons_ne_nil c start)
  have within := longer.value?_eq_quotedValue? given quotes
  cases closed : quotedValue? c start with
  | some found =>
      obtain ⟨value, rest⟩ := found
      obtain ⟨rfl, absent⟩ := exists_of_quotedValue? closed
      have text : s = (indent ++ (signs ++ blanks)) ++ c :: (value ++ c :: rest) := by
        rw [spans.text]
        simp
      rw [closed] at alone
      rw [List.append_assoc, List.cons_append, quotedValue?_append absent] at within
      exact .found alone within (Found.quoted quotes text)
  | none =>
      have unclosed : quotedValue? c (start ++ ending) = none := by
        rw [quotedValue?_eq_none_iff] at closed ⊢
        rw [List.mem_append, not_or]
        refine ⟨closed, ?_⟩
        rcases quotes with rfl | rfl
        · decide
        · decide
      rw [closed, Option.none_or] at alone
      rw [unclosed, Option.none_or] at within
      exact readsValue_unclosed inner spans alone within

theorem readsValue {s : List Char} (inner : IsInner s) : ReadsValue s := by
  obtain ⟨indent, signs, blanks, start, spans⟩ := exists_spans s
  by_cases given : signs = []
  · subst given
    apply ReadsValue.absent spans.value?_eq_none
    by_cases nonempty : start = []
    · subst nonempty
      exact spans.append_ending_of_nil
    · exact (spans.append_ending nonempty).value?_eq_none
  · cases start with
    | nil =>
        apply ReadsValue.dangling
        · rw [spans.value?_eq_bareValue given (by simp)]
          rfl
        · rw [(spans.append_ending_of_signs given).value?_eq_bareValue given (by simp)]
          rfl
        · exact spans.lastMark?_eq given
    | cons c start =>
        by_cases quotes : c = '\'' ∨ c = '"'
        · exact readsValue_quoted inner spans given quotes
        · rw [not_or] at quotes
          have unquoted : ∀ t, ∀ d ∈ (c :: t).head?, d ≠ '\'' ∧ d ≠ '"' := by
            rintro t d ⟨⟩
            exact quotes
          have longer : Spans (s ++ ending) indent signs blanks (c :: (start ++ ending)) :=
            spans.append_ending (List.cons_ne_nil c start)
          have text : s = (indent ++ (signs ++ blanks)) ++ c :: start := by
            rw [spans.text]
            simp
          apply ReadsValue.found (spans.value?_eq_bareValue given (unquoted _)) _
            (Found.bare inner text (spans.blanks_stop c rfl))
          rw [longer.value?_eq_bareValue given (unquoted _), ← List.cons_append,
            bareValue_append_ending]
          rfl

/-! ### Attributes -/

/-- An attribute that is taken from the start of a text. -/
structure Taken (s : List Char) (field : RawAttribute) (rest : List Char) : Prop where
  read : ∃ front, front ≠ [] ∧ s = front ++ rest ∧
    ((∀ c ∈ rest.head?, isBlank c = true ∨ c = '=') ∨
      ∃ quote ∈ front.getLast?, quote = '\'' ∨ quote = '"')
  laid : ∀ fields, Laid fields rest → Laid (field :: fields) s
  marked : field.value? = some [] → (∀ c ∈ rest, isBlank c = true) →
    ∃ c, lastMark? s = some c ∧ c ≠ '='

theorem Taken.valueless (c : Char) {key rest : List Char} (inner : IsInner rest)
    (stop : ∀ d ∈ rest.head?, isKeyChar d = false) :
    Taken (c :: (key ++ rest)) ⟨c :: key, none⟩ rest := by
  constructor
  · refine ⟨c :: key, List.cons_ne_nil _ _, rfl, .inl fun d h => ?_⟩
    have noEnd := inner d (List.mem_of_mem_head? h)
    have noKey := stop d h
    simp only [isKeyChar, Bool.not_eq_false', Bool.or_eq_true, decide_eq_true_eq, noEnd,
      or_false] at noKey
    exact noKey
  · intro fields laid
    exact .valueless [] (c :: key) laid
  · intro empty
    cases empty

theorem Taken.valued (c : Char) (key : List Char) {rest value left : List Char}
    (found : Found rest value left) : Taken (c :: (key ++ rest)) ⟨c :: key, some value⟩ left := by
  obtain ⟨between, after, placed⟩ := found.placed
  constructor
  · rcases found.resumes with blank | ⟨read, quote, split, quotes⟩
    · refine ⟨c :: key ++ between ++ value ++ after, by simp, ?_, .inl fun d h => .inl (blank d h)⟩
      rw [placed]
      simp
    · refine ⟨c :: key ++ read ++ [quote], by simp, ?_, .inr ⟨quote, List.getLast?_concat, quotes⟩⟩
      rw [split]
      simp
  · intro fields laid
    have moved := Laid.valued [] (c :: key) between value (laid.prepend after)
    rw [placed]
    show Laid _ (c :: key ++ (between ++ value ++ (after ++ left)))
    simpa only [List.nil_append, List.append_assoc] using moved
  · intro empty blanks
    obtain ⟨d, mark, differs⟩ := found.marked (Option.some.inj empty) blanks
    refine ⟨d, ?_, differs⟩
    show lastMark? (c :: key ++ rest) = some d
    exact lastMark?_append mark

/-- What comes of an attribute when the element ends behind the text. -/
inductive ReadsAttribute (before : Char) (s : List Char) : Prop
  | taken {field : RawAttribute} {rest : List Char}
      (alone : rawAttribute? before s = some (field, skipGap rest))
      (within : rawAttribute? before (s ++ ending) = some (field, skipGap (rest ++ ending)))
      (taken : Taken s field rest)
  | dangling {key : List Char} (alone : rawAttribute? before s = some (⟨key, some []⟩, []))
      (within : rawAttribute? before (s ++ ending) = some (⟨key, some ['/']⟩, ['>']))
      (laid : Laid [⟨key, some []⟩] s) (marked : lastMark? s = some '=')

theorem rawAttribute?_append {before c : Char} {key rest : List Char}
    (ready : mayPrecedeKey before = true) (start : isKeyStart c = true)
    (chars : ∀ d ∈ key, isKeyChar d = true) (stop : ∀ d ∈ rest.head?, isKeyChar d = false) :
    rawAttribute? before (c :: (key ++ rest)) =
      match value? rest with
      | some (value, rest) => some (⟨c :: key, some value⟩, skipGap rest)
      | none => some (⟨c :: key, none⟩, skipGap rest) := by
  have read := rawAttribute?.eq_2 before c (key ++ rest)
  simp only [ready, start, Bool.and_self, if_true, takeWhile_append_of_stop chars stop,
    dropWhile_append_of_stop chars stop] at read
  exact read

theorem readsAttribute {before c : Char} {s : List Char} (inner : IsInner (c :: s))
    (ready : mayPrecedeKey before = true) (start : isKeyStart c = true) :
    ReadsAttribute before (c :: s) := by
  obtain ⟨key, rest, rfl, chars, stop⟩ : ∃ key rest, s = key ++ rest ∧
      (∀ d ∈ key, isKeyChar d = true) ∧ ∀ d ∈ rest.head?, isKeyChar d = false :=
    ⟨_, _, List.takeWhile_append_dropWhile.symm, fun _ h => List.mem_takeWhile_imp h,
      head?_dropWhile isKeyChar s⟩
  have innerRest : IsInner rest := fun d h =>
    inner d (List.mem_cons_of_mem c (List.mem_append_right key h))
  have stopWithin : ∀ d ∈ (rest ++ ending).head?, isKeyChar d = false := by
    cases rest with
    | nil =>
        rintro d ⟨⟩
        decide
    | cons => exact stop
  have alone := rawAttribute?_append ready start chars stop
  have within := rawAttribute?_append ready start chars stopWithin
  rw [← List.append_assoc, ← List.cons_append] at within
  cases readsValue innerRest with
  | absent absent absentWithin =>
      rw [absent] at alone
      rw [absentWithin] at within
      exact .taken alone within (.valueless c innerRest stop)
  | found found foundWithin value =>
      rw [found] at alone
      rw [foundWithin] at within
      exact .taken alone within (.valued c key value)
  | dangling absent absentWithin marked =>
      rw [absent] at alone
      rw [absentWithin] at within
      apply ReadsAttribute.dangling alone within
      · have laid := Laid.valued [] (c :: key) rest [] (Laid.nil [])
        show Laid _ (c :: key ++ rest)
        simpa only [List.nil_append, List.append_nil] using laid
      · show lastMark? (c :: key ++ rest) = some '='
        exact lastMark?_append marked

/-! ### All attributes -/

theorem lastRead_eq (before : Char) (front rest : List Char) :
    lastRead before (front ++ rest) rest = front.getLast?.getD before := by
  rw [lastRead, List.length_append, Nat.add_sub_cancel, List.take_left]

theorem rawAttributes_of_none {fuel : Nat} {before : Char} {s : List Char}
    (h : rawAttribute? before s = none) : rawAttributes fuel before s = ([], s) := by
  cases fuel with
  | zero => rfl
  | succ fuel => rw [rawAttributes, h]

theorem rawAttribute?_eq_none {before c : Char} {s : List Char}
    (h : mayPrecedeKey before = false ∨ isKeyStart c = false) :
    rawAttribute? before (c :: s) = none := by
  rw [rawAttribute?, if_neg]
  rcases h with h | h
  · simp [h]
  · simp [h]

/-- What comes of the attributes of a text, read alone and within an element that ends behind it. -/
inductive ReadsAll (s : List Char) (alone within : List RawAttribute × List Char) : Prop
  | stuck {rest : List Char} (within : within.2 = '=' :: rest)
  | complete (within : within = (alone.1, ['/', '>'])) (laid : Laid alone.1 s)
      (marked : ∀ key, alone.1.getLast? = some ⟨key, some []⟩ → lastMark? s ≠ some '=')
      (empty : alone.1 = [] ↔ s = [])
  | dangling {others : List RawAttribute} {key : List Char}
      (alone : alone.1 = others ++ [⟨key, some []⟩])
      (within : within = (others ++ [⟨key, some ['/']⟩], ['>']))
      (laid : Laid (others ++ [⟨key, some []⟩]) s) (marked : lastMark? s = some '=')

theorem exists_lastMark? {s : List Char} (nonempty : s ≠ [])
    (starts : ∀ c ∈ s.head?, isKeyStart c = true) : ∃ c, lastMark? s = some c := by
  obtain ⟨c, rest, rfl⟩ := List.exists_cons_of_ne_nil nonempty
  have first : isBlank c = false := by
    have start := starts c rfl
    simp only [isKeyStart, Bool.not_eq_true', Bool.or_eq_false_iff] at start
    exact start.1.1
  rw [lastMark?, List.filter_cons_of_pos (by simp [first]), List.getLast?_cons]
  exact ⟨_, rfl⟩

/-- An attribute before others. -/
theorem Taken.readsAll {s rest gap : List Char} {field : RawAttribute}
    {alone within : List RawAttribute × List Char} (taken : Taken s field (gap ++ rest))
    (blanks : ∀ c ∈ gap, isBlank c = true) (starts : ∀ c ∈ rest.head?, isKeyStart c = true)
    (others : ReadsAll rest alone within) :
    ReadsAll s (field :: alone.1, alone.2) (field :: within.1, within.2) := by
  obtain ⟨front, nonempty, split, -⟩ := taken.read
  have shape : s = front ++ gap ++ rest := by
    rw [split, List.append_assoc]
  cases others with
  | stuck within => exact .stuck within
  | complete within laid marked empty =>
      apply ReadsAll.complete
      · rw [within]
      · exact taken.laid _ (laid.prepend gap)
      · intro key last
        by_cases none : alone.1 = []
        · -- nothing follows but blanks
          have value : field.value? = some [] := by
            rw [none] at last
            simp at last
            rw [last]
          have last : ∀ c ∈ gap ++ rest, isBlank c = true := by
            rw [empty.mp none, List.append_nil]
            exact blanks
          obtain ⟨c, mark, differs⟩ := taken.marked value last
          rw [mark]
          exact fun same => differs (Option.some.inj same)
        · obtain ⟨c, mark⟩ := exists_lastMark? (mt empty.mpr none) starts
          have after : alone.1.getLast? = some ⟨key, some []⟩ := by
            rwa [← List.singleton_append, List.getLast?_append_of_ne_nil _ none] at last
          have differs := marked key after
          rwa [shape, lastMark?_append mark, ← mark]
      · simp only [List.cons_ne_nil, false_iff, shape]
        simp [nonempty]
  | @dangling others key ends within laid marked =>
      have ends' : field :: alone.1 = (field :: others) ++ [⟨key, some []⟩] := by
        rw [ends]
        rfl
      apply ReadsAll.dangling ends'
      · rw [within]
        rfl
      · exact taken.laid _ (laid.prepend gap)
      · rw [shape]
        exact lastMark?_append marked

/-- Behind an attribute and a gap another attribute may begin, or an equals sign stands there. -/
theorem Taken.exists_gap {s rest : List Char} {field : RawAttribute} (inner : IsInner s)
    (taken : Taken s field rest) : ∃ front gap, front ≠ [] ∧
      s = front ++ gap ++ skipGap rest ∧ rest = gap ++ skipGap rest ∧
      (∀ c ∈ gap, isBlank c = true) ∧ (∀ c ∈ (skipGap rest).head?, isKeyStart c = true) ∧
      skipGap (rest ++ ending) = closing (skipGap rest) ∧
      ∀ before, ∀ c ∈ (skipGap rest).head?,
        mayPrecedeKey ((front ++ gap).getLast?.getD before) = true ∨ c = '=' := by
  obtain ⟨front, nonempty, split, resumes⟩ := taken.read
  have innerRest : IsInner rest := by
    intro d h
    exact inner d (by rw [split]; exact List.mem_append_right front h)
  obtain ⟨gap, skipped, blanks, starts, closes⟩ := innerRest.skipGap
  refine ⟨front, gap, nonempty, ?_, skipped, blanks, starts, closes, ?_⟩
  · rw [split, List.append_assoc, ← skipped]
  · intro before c hc
    rcases List.eq_nil_or_concat' gap with rfl | ⟨init, blank, rfl⟩
    · rw [List.append_nil]
      rcases resumes with follows | ⟨quote, last, quotes⟩
      · rw [skipped, List.nil_append] at follows
        rcases follows c hc with blank | sign
        · have start := starts c hc
          simp [isKeyStart, blank] at start
        · exact .inr sign
      · left
        rw [Option.mem_def.mp last, Option.getD_some]
        rcases quotes with rfl | rfl
        · decide
        · decide
    · left
      rw [← List.append_assoc, List.getLast?_concat, Option.getD_some, mayPrecedeKey,
        blanks blank (by simp), Bool.or_true]

theorem rawAttributes_ending (fuel : Nat) (before : Char) :
    rawAttributes fuel before ['/', '>'] = ([], ['/', '>']) :=
  rawAttributes_of_none (rawAttribute?_eq_none (.inr (by decide)))

theorem readsAll_nil (fuel fuel' : Nat) (before before' : Char) :
    ReadsAll [] (rawAttributes fuel before []) (rawAttributes fuel' before' (closing [])) := by
  have nothing : rawAttributes fuel before [] = ([], []) := rawAttributes_of_none rfl
  rw [closing, if_pos rfl, rawAttributes_ending, nothing]
  exact .complete rfl (.nil _) nofun (by simp)

/-- Attributes are read from a text within an element as from the text alone, unless the text has no
value behind the equals sign of the last one. -/
theorem readsAll {s : List Char} (inner : IsInner s) (starts : ∀ c ∈ s.head?, isKeyStart c = true)
    {before before' : Char} (same : s ≠ [] → before' = before)
    (ready : ∀ c ∈ s.head?, mayPrecedeKey before = true ∨ c = '=') {fuel fuel' : Nat}
    (enough : s.length ≤ fuel) (enough' : s.length ≤ fuel') :
    ReadsAll s (rawAttributes fuel before s) (rawAttributes fuel' before' (closing s)) := by
  induction fuel generalizing s before before' fuel' with
  | zero =>
      obtain rfl : s = [] := List.eq_nil_of_length_eq_zero (Nat.le_zero.mp enough)
      exact readsAll_nil ..
  | succ fuel ih =>
      cases s with
      | nil => exact readsAll_nil ..
      | cons c s =>
          obtain rfl := same (List.cons_ne_nil c s)
          obtain ⟨fuel', rfl⟩ : ∃ k, fuel' = k + 1 := ⟨fuel' - 1, by simp at enough'; omega⟩
          rw [closing, if_neg (List.cons_ne_nil c s)]
          by_cases follows : mayPrecedeKey before' = true
          · cases readsAttribute inner follows (starts c rfl) with
            | @taken field rest alone within taken =>
                obtain ⟨front, gap, nonempty, text, skipped, blanks, starts', closes, ready'⟩ :=
                  taken.exists_gap inner
                have shorter : (skipGap rest).length < (c :: s).length := by
                  have pos := List.length_pos_iff.mpr nonempty
                  have lengths := congrArg List.length text
                  simp only [List.length_append] at lengths
                  omega
                rw [rawAttributes, rawAttributes, alone, within, closes]
                rw [skipped] at taken
                apply taken.readsAll blanks starts'
                apply ih
                · exact fun d h => inner d (by rw [text]; exact List.mem_append_right _ h)
                · exact starts'
                · intro left
                  rw [closing, if_neg left, text, List.append_assoc (front ++ gap), lastRead_eq,
                    lastRead_eq]
                · rw [text, lastRead_eq]
                  exact ready' before'
                · omega
                · omega
            | @dangling key alone within laid marked =>
                have nothing : ∀ fuel before, rawAttributes fuel before [] = ([], []) :=
                  fun _ _ => rawAttributes_of_none rfl
                have broken : ∀ fuel before, rawAttributes fuel before ['>'] = ([], ['>']) :=
                  fun _ _ => rawAttributes_of_none (rawAttribute?_eq_none (.inr (by decide)))
                rw [rawAttributes, rawAttributes, alone, within]
                simp only [nothing, broken]
                have single : [(⟨key, some []⟩ : RawAttribute)] = [] ++ [⟨key, some []⟩] := rfl
                exact .dangling single rfl laid marked
          · have stops : rawAttribute? before' (c :: (s ++ ending)) = none :=
              rawAttribute?_eq_none (.inl (Bool.not_eq_true _ ▸ follows))
            rw [List.cons_append, rawAttributes_of_none stops]
            have sign := (ready c rfl).resolve_left follows
            exact .stuck (by rw [sign])

end TagWeave.Markup
