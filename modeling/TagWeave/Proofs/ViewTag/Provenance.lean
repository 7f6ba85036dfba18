import Mathlib.Data.List.Sublists
import TagWeave.Proofs.Markup.Pieces

/-!
# Where attributes come from

The attributes of a tag are read from an element that its attribute text is put into. The
keys and values that are read stand in the text, one after the other, unless the text
dangles: unless it ends with an equals sign behind which the value of its last attribute is
missing. Then the slash that ends the element is read as this value, and nothing else comes
from outside the text.
-/

namespace TagWeave.ViewTag

open TagWeave.Text TagWeave.Markup

/-- The attributes of a text that a blank precedes, read by itself. -/
def attributesIn (raw : List Char) : List RawAttribute :=
  let start := skipGap raw
  (rawAttributes start.length (lastRead ' ' raw start) start).1

/-- The attributes that are read from the element that a text is put into. -/
def fieldsIn (name raw : List Char) : List RawAttribute :=
  match readStartTag (name ++ ' ' :: (raw ++ ending)) with
  | .element _ fields _ _ => fields
  | _ => []

/-- The last attribute of a text has an equals sign at the end of the text, and no value behind
it. -/
def Dangles (raw : List Char) : Prop :=
  (∃ key, (attributesIn raw).getLast? = some ⟨key, some []⟩) ∧ lastMark? raw = some '='

/-- An attribute that is told by one that was read: the key in lower case, and the value with its
references resolved, or an empty one if there is none. -/
def Gives (field : RawAttribute) (a : Attribute) : Prop :=
  a.key = String.ofList (lowerChars field.name) ∧
    ((field.value? = none ∧ a.value = "") ∨
      ∃ value, field.value? = some value ∧ resolveReferences value = .ok a.value.toList)

/-! ### The element -/

/-- What is read from the element. -/
inductive ReadsElement (name raw : List Char) : Prop
  | incomplete (read : readStartTag (name ++ ' ' :: (raw ++ ending)) = .incomplete)
  | complete
      (read : readStartTag (name ++ ' ' :: (raw ++ ending)) =
        .element name (attributesIn raw) true [])
      (laid : Laid (attributesIn raw) raw) (closed : ¬ Dangles raw)
  | dangling {others : List RawAttribute} {key : List Char}
      (read : readStartTag (name ++ ' ' :: (raw ++ ending)) =
        .element name (others ++ [⟨key, some ['/']⟩]) false [])
      (laid : Laid (others ++ [⟨key, some []⟩]) raw) (dangles : Dangles raw)

/-- The attributes of the element, and those of the text by itself. -/
theorem readsAll_inner {raw : List Char} (inner : IsInner raw) (before : Char) :
    let start := skipGap raw
    ReadsAll start (rawAttributes start.length (lastRead ' ' raw start) start)
      (rawAttributes (closing start).length
        (lastRead before (' ' :: (raw ++ ending)) (closing start)) (closing start)) := by
  intro start
  obtain ⟨gap, split, blanks, starts, -⟩ := inner.skipGap
  have text : raw = gap ++ start := split
  have first : lastRead ' ' raw start = gap.getLast?.getD ' ' := by
    rw [text, lastRead_eq]
  apply readsAll
  · exact fun c h => inner c (by rw [text]; exact List.mem_append_right gap h)
  · exact starts
  · intro nonempty
    have within : ' ' :: (raw ++ ending) = (' ' :: gap) ++ closing start := by
      rw [closing, if_neg nonempty, List.cons_append, ← List.append_assoc, ← text]
    rw [first, within, lastRead_eq, List.getLast?_cons, Option.getD_some]
  · intro c _
    left
    rw [first]
    rcases List.eq_nil_or_concat' gap with rfl | ⟨init, blank, rfl⟩
    · decide
    · rw [List.getLast?_concat, Option.getD_some, mayPrecedeKey, blanks blank (by simp),
        Bool.or_true]
  · exact Nat.le_refl _
  · unfold closing
    split
    · next empty => simp [empty]
    · simp

theorem readsElement {name raw : List Char} (tagChars : ∀ c ∈ name, isTagChar c = true)
    (inner : IsInner raw) : ReadsElement name raw := by
  obtain ⟨gap, split, blanks, starts, closes⟩ := inner.skipGap
  have stop : ∀ c ∈ (' ' :: (raw ++ ending)).head?, isTagChar c = false := by
    rintro c ⟨⟩
    decide
  have all := readsAll_inner inner
    (lastRead '<' (name ++ ' ' :: (raw ++ ending)) (' ' :: (raw ++ ending)))
  have laidIn : ∀ {fields}, Laid fields (skipGap raw) → Laid fields raw := by
    intro fields laid
    rw [split]
    exact laid.prepend gap
  have element := readStartTag.eq_def (name ++ ' ' :: (raw ++ ending))
  simp only [takeWhile_append_of_stop tagChars stop, dropWhile_append_of_stop tagChars stop,
    skipGap_blank, closes] at element
  cases all with
  | @stuck rest within =>
      apply ReadsElement.incomplete
      simp only [element, within]
      rfl
  | complete within laid marked empty =>
      simp only [within] at element
      apply ReadsElement.complete element (laidIn laid)
      rintro ⟨⟨key, last⟩, sign⟩
      have nonempty : skipGap raw ≠ [] := by
        intro none
        have last : (attributesIn raw).getLast? = some ⟨key, some []⟩ := last
        rw [attributesIn, empty.mpr none] at last
        cases last
      obtain ⟨c, mark⟩ := exists_lastMark? nonempty starts
      rw [split, lastMark?_append mark, ← mark] at sign
      exact marked key last sign
  | @dangling others key alone within laid marked =>
      simp only [within] at element
      apply ReadsElement.dangling element (laidIn laid)
      refine ⟨⟨key, ?_⟩, ?_⟩
      · show (rawAttributes _ _ _).1.getLast? = _
        rw [alone, List.getLast?_concat]
      · rw [split]
        exact lastMark?_append marked

/-! ### The attributes of a tag -/

theorem dropWhile_opening (s : List Char) :
    ('<' :: s).dropWhile (fun c => decide (c ≠ '<')) = '<' :: s :=
  List.dropWhile_cons_of_neg (by decide)

theorem elementsWithin_nil (fuel : Nat) : elementsWithin fuel [] = .ok [] := by
  cases fuel with
  | zero => rfl
  | succ fuel => rfl

/-- An element that ends the text is the only one. -/
theorem elements_of_element {c : Char} {s name : List Char} {fields : List RawAttribute}
    {selfClosed : Bool} (letter : isLetter c = true)
    (read : readStartTag (c :: s) = .element name fields selfClosed []) :
    elements ('<' :: c :: s) =
      (resolveAll fields).map fun pairs => [⟨String.ofList (lowerChars name), pairs⟩] := by
  rw [elements, elementsWithin.eq_def]
  simp only [dropWhile_opening, letter, if_true, read]
  cases resolveAll fields with
  | error e => rfl
  | ok pairs =>
      simp only
      split
      · next next? missing => rfl
      · next rest found =>
        have nothing : rest = [] := by
          split at found
          · cases found
          · exact (Option.some.inj found).symm
        rw [nothing, elementsWithin_nil]
        rfl

/-- What does not end before the last bracket is text. -/
theorem elements_of_incomplete {c : Char} {s : List Char} (letter : isLetter c = true)
    (inner : ∀ d ∈ c :: s, d ≠ '>') (read : readStartTag (c :: (s ++ ['>'])) = .incomplete) :
    elements ('<' :: c :: (s ++ ['>'])) = .ok [] := by
  have skipped : skipIncomplete (c :: (s ++ ['>'])) = [] := by
    have before : ∀ d ∈ c :: s, (!decide (d = '>')) = true := by
      simpa using inner
    rw [skipIncomplete, after?, ← List.cons_append, dropWhile_append_of_stop before (by simp)]
  rw [elements, elementsWithin.eq_def]
  simp only [dropWhile_opening, letter, if_true, read, skipped, elementsWithin_nil]

theorem gives_of_resolve {field : RawAttribute} {key : String} {value? : Option String}
    (resolved : field.resolve = .ok (key, value?)) : Gives field ⟨key, value?.getD ""⟩ := by
  rw [RawAttribute.resolve] at resolved
  cases value : field.value? with
  | none =>
      rw [value] at resolved
      cases resolved
      exact ⟨rfl, .inl ⟨value, rfl⟩⟩
  | some text =>
      simp only [value] at resolved
      cases read : resolveReferences text with
      | error digits =>
          rw [read] at resolved
          cases resolved
      | ok cs =>
          rw [read] at resolved
          cases resolved
          refine ⟨rfl, .inr ⟨text, value, ?_⟩⟩
          rw [read, Option.getD_some, String.toList_ofList]

theorem gives_of_resolveAll {fields : List RawAttribute} {pairs : List (String × Option String)}
    (resolved : resolveAll fields = .ok pairs) :
    List.Forall₂ Gives fields (pairs.map fun (key, value) => ⟨key, value.getD ""⟩) := by
  induction fields generalizing pairs with
  | nil =>
      cases resolved
      exact .nil
  | cons field fields ih =>
      rw [resolveAll] at resolved
      cases first : field.resolve with
      | error e =>
          rw [first] at resolved
          cases resolved
      | ok pair =>
          rw [first] at resolved
          cases others : resolveAll fields with
          | error e =>
              rw [others] at resolved
              cases resolved
          | ok pairs =>
              rw [others] at resolved
              cases resolved
              exact .cons (gives_of_resolve first) (ih others)

theorem wrapped_cons (c : Char) (name raw : List Char) :
    wrapped (c :: name) raw = '<' :: c :: (name ++ ' ' :: (raw ++ ending)) := by
  simp [wrapped, ending]

/-- The attributes of an element that is read are told by its fields. -/
theorem gives_of_readAttributes {c : Char} {name raw : List Char} {fields : List RawAttribute}
    {selfClosed : Bool} {attributes : List Attribute} (letter : isLetter c = true)
    (read : readStartTag (c :: (name ++ ' ' :: (raw ++ ending))) =
      .element (c :: name) fields selfClosed [])
    (visible : raw.all isBlank = false) (parsed : readAttributes (c :: name) raw = .ok attributes) :
    List.Forall₂ Gives fields attributes := by
  rw [readAttributes, visible, wrapped_cons, elements_of_element letter read] at parsed
  cases resolved : resolveAll fields with
  | error e =>
      rw [resolved] at parsed
      cases parsed
  | ok pairs =>
      rw [resolved] at parsed
      simp only [Except.map, Bool.false_eq_true, if_false, List.find?_cons, decide_true,
        attributesOf] at parsed
      split at parsed
      · cases parsed
      · cases parsed
        exact gives_of_resolveAll resolved

/-- An element that is not complete has none. -/
theorem readAttributes_of_incomplete {c : Char} {name raw : List Char} (letter : isLetter c = true)
    (inner : ∀ d ∈ c :: (name ++ ' ' :: raw), d ≠ '>')
    (read : readStartTag (c :: (name ++ ' ' :: (raw ++ ending))) = .incomplete)
    (visible : raw.all isBlank = false) : readAttributes (c :: name) raw = .error .noElement := by
  have last : name ++ ' ' :: (raw ++ ending) = (name ++ ' ' :: raw ++ [' ', '/']) ++ ['>'] := by
    simp [ending]
  have before : ∀ d ∈ c :: (name ++ ' ' :: raw ++ [' ', '/']), d ≠ '>' := by
    rw [← List.cons_append]
    exact List.forall_mem_append.mpr ⟨inner, by simp⟩
  rw [last] at read
  rw [readAttributes, visible, wrapped_cons, last, elements_of_incomplete letter before read]
  rfl

/-- A text of blanks has no attributes. -/
theorem attributesIn_of_blank {raw : List Char} (inner : IsInner raw)
    (blank : raw.all isBlank = true) : attributesIn raw = [] := by
  obtain ⟨gap, split, -, starts, -⟩ := inner.skipGap
  have nothing : skipGap raw = [] := by
    cases left : skipGap raw with
    | nil => rfl
    | cons c rest =>
        have start : isKeyStart c = true := starts c (by rw [left]; rfl)
        have member : c ∈ raw := by
          rw [split, left]
          simp
        simp [isKeyStart, List.all_eq_true.mp blank c member] at start
  rw [attributesIn, nothing]
  rfl

theorem not_dangles_of_blank {raw : List Char} (inner : IsInner raw)
    (blank : raw.all isBlank = true) : ¬ Dangles raw := by
  rintro ⟨⟨key, last⟩, -⟩
  rw [attributesIn_of_blank inner blank] at last
  cases last

/-- The attributes of a tag are those that are read from the element that its attribute text is put
into, and these stand in the text, one after the other, if and only if the text does not
dangle. If it does, the value of the last one is the slash that ends the element, and with
an empty value instead they stand in the text. -/
theorem attributes_stand_in_text {name raw : String} {attributes : List Attribute}
    (plain : IsPlain name) (inner : IsInner raw.toList)
    (parsed : parseAttributes raw name = .ok attributes) :
    let fields := fieldsIn name.toList raw.toList
    List.Forall₂ Gives fields attributes ∧
      (Laid fields raw.toList ↔ ¬ Dangles raw.toList) ∧
      (Dangles raw.toList → ∃ others key, fields = others ++ [⟨key, some ['/']⟩] ∧
        Laid (others ++ [⟨key, some []⟩]) raw.toList) := by
  intro fields
  have parsed : readAttributes name.toList raw.toList = .ok attributes := by
    rw [parseAttributes] at parsed
    split at parsed
    · next read =>
      cases parsed
      exact read
    · cases parsed
  have tagChars : ∀ c ∈ name.toList, isTagChar c = true :=
    fun c h => isTagChar_of_isNameChar (plain.isNameChar c h)
  have noEnd : ∀ c ∈ name.toList, c ≠ '>' :=
    fun c h => ne_of_isNameChar (plain.isNameChar c h) (by decide)
  obtain ⟨c, rest, shape, letter, -⟩ := plain
  have reads := readsElement tagChars inner
  rw [shape] at parsed reads noEnd
  cases visible : raw.toList.all isBlank with
  | true =>
      have none := attributesIn_of_blank inner visible
      have closed := not_dangles_of_blank inner visible
      have nothing : fields = [] := by
        cases reads with
        | incomplete read => simp only [fields, fieldsIn, shape, read]
        | complete read => simp only [fields, fieldsIn, shape, read, none]
        | dangling _ _ dangles => exact absurd dangles closed
      rw [readAttributes, visible] at parsed
      cases parsed
      rw [nothing]
      exact ⟨.nil, iff_of_true (.nil _) closed, fun dangles => absurd dangles closed⟩
  | false =>
      cases reads with
      | incomplete read =>
          have before : ∀ d ∈ c :: rest ++ ' ' :: raw.toList, d ≠ '>' := by
            refine List.forall_mem_append.mpr ⟨noEnd, ?_⟩
            exact List.forall_mem_cons.mpr ⟨by decide, fun d h => (inner d h).2⟩
          rw [readAttributes_of_incomplete letter before read visible] at parsed
          cases parsed
      | complete read laid closed =>
          have told : fields = attributesIn raw.toList := by
            simp only [fields, fieldsIn, shape, read]
          rw [told]
          exact ⟨gives_of_readAttributes letter read visible parsed, iff_of_true laid closed,
            fun dangles => absurd dangles closed⟩
      | @dangling others key read laid dangles =>
          have told : fields = others ++ [⟨key, some ['/']⟩] := by
            simp only [fields, fieldsIn, shape, read]
          rw [told]
          exact ⟨gives_of_readAttributes letter read visible parsed,
            iff_of_false (inner.not_laid_slash others key) (not_not_intro dangles),
            fun _ => ⟨others, key, rfl, laid⟩⟩

/-- A text whose attributes stand in it, and one that dangles. -/
theorem title_stands_in_text :
    IsPlain "Block" ∧
      (parseAttributes "Title='a&#38;b' hidden" "Block" =
          .ok [⟨"title", "a&b"⟩, ⟨"hidden", ""⟩] ∧
        Laid [⟨"Title".toList, some "a&#38;b".toList⟩, ⟨"hidden".toList, none⟩]
          "Title='a&#38;b' hidden".toList ∧
        List.Forall₂ Gives [⟨"Title".toList, some "a&#38;b".toList⟩, ⟨"hidden".toList, none⟩]
          [⟨"title", "a&b"⟩, ⟨"hidden", ""⟩]) ∧
      parseAttributes "hidden title =" "Block" = .ok [⟨"hidden", ""⟩, ⟨"title", "/"⟩] ∧
        ∃ others key, [⟨"hidden".toList, none⟩, ⟨"title".toList, some ['/']⟩] =
            others ++ [(⟨key, some ['/']⟩ : RawAttribute)] ∧
          Laid (others ++ [⟨key, some []⟩]) "hidden title =".toList := by
  have plain : IsPlain "Block" := ⟨'B', "lock".toList, rfl, rfl, List.all_eq_true.mp (by decide)⟩
  have parsed : parseAttributes "Title='a&#38;b' hidden" "Block" =
      .ok [⟨"title", "a&b"⟩, ⟨"hidden", ""⟩] := by rfl
  have dangling : parseAttributes "hidden title =" "Block" =
      .ok [⟨"hidden", ""⟩, ⟨"title", "/"⟩] := by rfl
  refine ⟨plain, ⟨parsed, ?_⟩, dangling, ?_⟩
  · have inner : IsInner "Title='a&#38;b' hidden".toList := by decide
    have closed : ¬ Dangles "Title='a&#38;b' hidden".toList := by
      rintro ⟨-, sign⟩
      exact absurd sign (by decide)
    have fields : fieldsIn "Block".toList "Title='a&#38;b' hidden".toList =
        [⟨"Title".toList, some "a&#38;b".toList⟩, ⟨"hidden".toList, none⟩] := by decide
    obtain ⟨gives, laid, -⟩ := attributes_stand_in_text plain inner parsed
    rw [fields] at gives laid
    exact ⟨laid.mpr closed, gives⟩
  · have inner : IsInner "hidden title =".toList := by decide
    have dangles : Dangles "hidden title =".toList := ⟨⟨"title".toList, by rfl⟩, by decide⟩
    have fields : fieldsIn "Block".toList "hidden title =".toList =
        [⟨"hidden".toList, none⟩, ⟨"title".toList, some ['/']⟩] := by decide
    obtain ⟨-, -, last⟩ := attributes_stand_in_text plain inner dangling
    rw [fields] at last
    exact last dangles

/-- What is missing behind the equals sign is read from the end of the element. -/
theorem slash_stands_not_in_text :
    parseAttributes "a=" "block" = .ok [⟨"a", "/"⟩] ∧
      ¬ ∃ fields, Laid fields "a=".toList ∧ List.Forall₂ Gives fields [⟨"a", "/"⟩] := by
  refine ⟨by rfl, ?_⟩
  rintro ⟨fields, laid, gives⟩
  obtain ⟨field, rest, ⟨-, told⟩, others, rfl⟩ := List.forall₂_cons_right_iff.mp gives
  rcases told with ⟨-, empty⟩ | ⟨value, given, read⟩
  · exact absurd empty (by decide)
  · have part := (laid.infix_of_mem (List.mem_cons_self ..) given).sublist
    have parts : ∀ part ∈ "a=".toList.sublists, (resolveReferences part).toOption ≠ some ['/'] := by
      decide
    apply parts value (List.mem_sublists.mpr part)
    rw [read]
    rfl

end TagWeave.ViewTag
