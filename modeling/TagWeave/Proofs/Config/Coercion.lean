import Mathlib.Data.List.DropRight
import TagWeave.Config.Environment
import TagWeave.Proofs.Text.Split

/-!
# What the texts of variables are read as

Every text of a variable is read as a value, but for integers that are too long. What looks like
a fraction is one.
-/

namespace TagWeave

open TagWeave.Text

/-! ### Trimmed texts -/

namespace Text

theorem trimRightBy_prefix (p : Char → Bool) (cs : List Char) : trimRightBy p cs <+: cs := by
  have suffix := List.dropWhile_suffix (l := cs.reverse) p
  rw [← List.reverse_prefix, List.reverse_reverse] at suffix
  exact suffix

/-- What is trimmed once is trimmed. -/
theorem trim_trim (cs : List Char) : trim (trim cs) = trim cs := by
  have left : trimLeftBy isBlank (trim cs) = trim cs := by
    have begins := trimRightBy_prefix isBlank (trimLeftBy isBlank cs)
    have stop := head?_dropWhile isBlank cs
    rw [trim]
    cases rest : trimRightBy isBlank (trimLeftBy isBlank cs) with
    | nil => rfl
    | cons c rest' =>
        rw [rest] at begins
        obtain ⟨more, same⟩ := begins
        rw [trimLeftBy] at same
        rw [← same] at stop
        exact List.dropWhile_cons_of_neg (by simp [stop c rfl])
  rw [trim, left, trim, trimRightBy, trimRightBy, List.reverse_reverse,
    List.dropWhile_idempotent]

theorem length_le_length_lowerFrom (before cs : List Char) :
    cs.length ≤ (lowerFrom before cs).length := by
  induction cs generalizing before with
  | nil => exact Nat.zero_le _
  | cons c cs ih =>
      have some : 1 ≤ (lowerChar before c cs).length := by
        unfold lowerChar
        split
        · exact Nat.le_refl 1
        · split
          · split <;> exact Nat.le_refl 1
          · split
            · exact Nat.le_succ 1
            · split <;> exact Nat.le_refl 1
      rw [lowerFrom, List.length_append, List.length_cons]
      have rest := ih (c :: before)
      omega

end Text

/-! ### Numbers -/

namespace Number

/-- Digits are read one by one. -/
theorem readDigits_of_all {cs : List Char} (some : cs ≠ []) (digits : cs.all isDigit) :
    ∃ ds, readDigits cs = Option.some ds ∧ ds.length = cs.length := by
  induction cs with
  | nil => exact absurd rfl some
  | cons c cs ih =>
      rw [List.all_cons, Bool.and_eq_true] at digits
      obtain ⟨d, first⟩ := Option.isSome_iff_exists.mp digits.1
      cases cs with
      | nil => exact ⟨[d], by rw [readDigits, first]; rfl, rfl⟩
      | cons next cs =>
          obtain ⟨ds, rest, length⟩ := ih (List.cons_ne_nil _ _) digits.2
          refine ⟨d :: ds, ?_, congrArg Nat.succ length⟩
          rw [readDigits, first, rest]
          · nofun
          · -- An underscore is no digit.
            rintro cs ⟨⟩
            exact absurd digits.2 (by simp [show isDigit '_' = false from rfl])

theorem readDigitsOrNone_of_all {cs : List Char} (digits : cs.all isDigit) :
    ∃ ds, readDigitsOrNone cs = some ds ∧ ds.length = cs.length := by
  cases cs with
  | nil => exact ⟨[], rfl, rfl⟩
  | cons c cs => exact readDigits_of_all (List.cons_ne_nil c cs) digits

/-- Digits around a point are a fraction, if there are any. -/
theorem readUnsigned_of_digits (negative : Bool) {whole places : List Char}
    (digits : whole.all isDigit) (digits' : places.all isDigit)
    (some : whole ≠ [] ∨ places ≠ []) :
    (readUnsigned negative (whole ++ '.' :: places)).isSome := by
  have isNoMark {c : Char} (digit : isDigit c = true) : c ≠ '.' ∧ c ≠ 'e' ∧ c ≠ 'E' := by
    refine ⟨?_, ?_, ?_⟩ <;> rintro rfl <;> cases digit
  have front : ∀ c ∈ whole, (!(c == '.' || c == 'e' || c == 'E')) = true := by
    intro c member
    obtain ⟨point, small, large⟩ := isNoMark (List.all_eq_true.mp digits c member)
    simp [point, small, large]
  have back : ∀ c ∈ places, (c != 'e' && c != 'E') = true := by
    intro c member
    obtain ⟨-, small, large⟩ := isNoMark (List.all_eq_true.mp digits' c member)
    simp [small, large]
  have stop : ∀ c ∈ ('.' :: places).head?, (!(c == '.' || c == 'e' || c == 'E')) = false := by
    rintro c ⟨⟩
    rfl
  obtain ⟨ws, readWhole, lengthWhole⟩ := readDigitsOrNone_of_all digits
  obtain ⟨fs, readPlaces, lengthPlaces⟩ := readDigitsOrNone_of_all digits'
  have nonempty : ¬ (ws = [] ∧ fs = []) := by
    rintro ⟨rfl, rfl⟩
    rcases some with some | some
    · exact some (List.length_eq_zero_iff.mp lengthWhole.symm)
    · exact some (List.length_eq_zero_iff.mp lengthPlaces.symm)
  simp only [readUnsigned, takeWhile_append_of_stop front stop, dropWhile_append_of_stop front stop,
    List.takeWhile_eq_self_iff.mpr back, List.dropWhile_eq_nil_iff.mpr back, readWhole, readPlaces,
    readExponent]
  simp [nonempty]

/-- What stands behind the sign of a text, if it has one. -/
theorem splitSign_snd (cs : List Char) :
    (splitSign cs).2 =
      match cs with
      | '-' :: rest | '+' :: rest => rest
      | rest => rest := by
  fun_cases splitSign cs with
  | case1 rest => rfl
  | case2 rest => rfl
  | case3 noMinus noPlus => simp only

end Number

namespace Config

open Number (splitSign splitSign_snd)

/-- What is looked at is the text behind its sign. -/
theorem looksInteger_eq (cs : List Char) :
    looksInteger cs = (!(splitSign cs).2.isEmpty && (splitSign cs).2.all isDigit) := by
  rw [splitSign_snd]
  rfl

theorem looksFraction_eq (cs : List Char) :
    looksFraction cs =
      match (splitSign cs).2.dropWhile isDigit with
      | '.' :: rest =>
        rest.all isDigit && (!rest.isEmpty || ((splitSign cs).2.head?.map isDigit).getD false)
      | _ => false := by
  rw [splitSign_snd]
  rfl

/-- A text that looks like an integer is one, unless it is too long. -/
theorem readInt_eq_error_iff {cs : List Char} (looks : looksInteger (trim cs))
    {fault : Number.IntegerFault} :
    Number.readInt (String.ofList (trim cs)) = .error fault ↔
      Number.maxDigits < (splitSign (trim cs)).2.length ∧
        fault = .tooLong (splitSign (trim cs)).2.length := by
  rw [looksInteger_eq, Bool.and_eq_true, Bool.not_eq_true', List.isEmpty_eq_false_iff] at looks
  obtain ⟨ds, read, length⟩ := Number.readDigits_of_all looks.1 looks.2
  rw [Number.readInt, String.toList_ofList, trim_trim]
  simp only [read, length]
  split
  · next long => simp [long, eq_comm]
  · next short => simp [short]

/-- A text that looks like a fraction is one. -/
theorem readFloat?_of_looksFraction {cs : List Char} (looks : looksFraction (trim cs)) :
    (Number.readFloat? (String.ofList (trim cs))).isSome := by
  rw [looksFraction_eq] at looks
  split at looks
  · next places rest =>
    have split := List.takeWhile_append_dropWhile (p := isDigit) (l := (splitSign (trim cs)).2)
    rw [rest] at split
    rw [Bool.and_eq_true] at looks
    have whole : ((splitSign (trim cs)).2.takeWhile isDigit).all isDigit := List.all_takeWhile
    have some : (splitSign (trim cs)).2.takeWhile isDigit ≠ [] ∨ places ≠ [] := by
      cases body : (splitSign (trim cs)).2 with
      | nil =>
          rw [body] at rest
          cases rest
      | cons c body' =>
          rw [body] at looks
          rw [Bool.or_eq_true, Bool.not_eq_true', List.isEmpty_eq_false_iff] at looks
          refine looks.2.symm.imp_left fun first => ?_
          rw [List.takeWhile_cons_of_pos (by simpa using first)]
          exact List.cons_ne_nil _ _
    have fraction := Number.readUnsigned_of_digits (splitSign (trim cs)).1 whole looks.1 some
    rw [split] at fraction
    rw [Number.readFloat?, String.toList_ofList, trim_trim]
    dsimp only
    split
    · rfl
    · split
      · rfl
      · exact fraction
  · cases looks

/-- A text that is longer than the words for truth values and for nothing is none of them. -/
theorem lower_ne_of_long {cs : List Char} {word : String} (long : word.toList.length < cs.length) :
    lower (String.ofList cs) ≠ word := by
  intro same
  have length := length_le_length_lowerFrom [] cs
  rw [← same, lower, String.toList_ofList, String.toList_ofList, lowerChars] at long
  omega

theorem length_splitSign_le (cs : List Char) : (splitSign cs).2.length ≤ cs.length := by
  unfold splitSign
  split
  · exact Nat.le_succ _
  · exact Nat.le_succ _
  · exact Nat.le_refl _

/-- A text is none of the words for truth values and for nothing. -/
def NoWord (s : String) : Prop := ∀ word ∈ ["true", "false", "null", "none"], lower s ≠ word

theorem coerce_of_noWord {text : String} (noWord : NoWord (String.ofList (trim text.toList)))
    (json : Json.Reader) : coerce text json = coerceTrimmed (trim text.toList) json := by
  obtain ⟨notTrue, notFalse, notNull, notNone⟩ : _ ∧ _ ∧ _ ∧ _ := by
    simpa [NoWord] using noWord
  simp only [coerce, notTrue, notFalse, notNull, notNone, if_false, decide_false, Bool.or_self,
    Bool.false_eq_true]

/-- A text fails to be read only as what it is where it is none of the words. -/
theorem coerceTrimmed_of_error {text : String} {json : Json.Reader} {f : Fault}
    (failed : coerce text json = .error f) : coerceTrimmed (trim text.toList) json = .error f := by
  simp only [coerce] at failed
  split at failed
  · cases failed
  · split at failed
    · cases failed
    · split at failed
      · cases failed
      · exact failed

/-- A text between brackets is none of the words, and no number. -/
theorem plain_of_looksStructured {cs : List Char} (looks : looksStructured cs) :
    NoWord (String.ofList cs) ∧ looksInteger cs = false ∧ looksFraction cs = false := by
  obtain ⟨c, rest, rfl, bracket⟩ : ∃ c rest, cs = c :: rest ∧ (c = '\x7b' ∨ c = '[') := by
    cases cs with
    | nil => cases looks
    | cons c rest =>
        refine ⟨c, rest, rfl, ?_⟩
        simp only [looksStructured, List.head?_cons, Bool.or_eq_true, Bool.and_eq_true, beq_iff_eq,
          Option.some.injEq] at looks
        exact looks.imp And.left And.left
  have head : (lower (String.ofList (c :: rest))).toList.head? = some c := by
    rw [lower, String.toList_ofList, String.toList_ofList, lowerChars, lowerFrom]
    rcases bracket with rfl | rfl <;> rfl
  refine ⟨fun word member same => ?_, ?_, ?_⟩
  · rw [same] at head
    rcases bracket with rfl | rfl <;> clear same <;> revert word <;> decide
  · rcases bracket with rfl | rfl <;> rfl
  · rcases bracket with rfl | rfl <;> rfl

/-- A text of a variable is read as a value, unless it is an integer with too many digits, or stands
between brackets and cannot be read by the reader of JSON. -/
theorem coerce_eq_error_iff {text : String} {json : Json.Reader} {f : Fault} :
    coerce text json = .error f ↔
      looksInteger (trim text.toList) ∧
          Number.maxDigits < (splitSign (trim text.toList)).2.length ∧
          f = .tooManyDigits (splitSign (trim text.toList)).2.length ∨
        looksStructured (trim text.toList) ∧ json (String.ofList (trim text.toList)) = .error f := by
  constructor
  · intro failed
    have failed := coerceTrimmed_of_error failed
    simp only [coerceTrimmed] at failed
    split at failed
    · next looks =>
      split at failed
      · cases failed
      · next malformed => cases ((readInt_eq_error_iff looks).mp malformed).2
      · next digits tooLong =>
        obtain ⟨long, same⟩ := (readInt_eq_error_iff looks).mp tooLong
        cases same
        cases failed
        exact .inl ⟨looks, long, rfl⟩
    · split at failed
      · next looks =>
        have fraction := readFloat?_of_looksFraction looks
        split at failed
        · cases failed
        · next none =>
          rw [none] at fraction
          cases fraction
      · split at failed
        · next looks =>
          refine .inr ⟨looks, ?_⟩
          cases read : json (String.ofList (trim text.toList)) with
          | error f' =>
              rw [read] at failed
              cases failed
              rfl
          | ok value? =>
              rw [read] at failed
              cases failed
        · cases failed
  · rintro (⟨looks, long, rfl⟩ | ⟨looks, unread⟩)
    · have longer : 5 < (trim text.toList).length := by
        have behind := length_splitSign_le (trim text.toList)
        have limit : 5 < Number.maxDigits := by decide
        omega
      have noWord : NoWord (String.ofList (trim text.toList)) := by
        intro word member
        refine lower_ne_of_long (Nat.lt_of_le_of_lt ?_ longer)
        revert word
        decide
      have read := (readInt_eq_error_iff looks).mpr ⟨long, rfl⟩
      simp only [coerce_of_noWord noWord, coerceTrimmed, looks, read, if_true]
    · obtain ⟨noWord, noInteger, noFraction⟩ := plain_of_looksStructured looks
      simp only [coerce_of_noWord noWord, coerceTrimmed, noInteger, noFraction, looks, unread,
        Bool.false_eq_true, if_false, if_true, Except.map]

end Config

end TagWeave
