import TagWeave.Proofs.Text.Split
import TagWeave.Proofs.ViewTag.Name
import TagWeave.ViewTag.Attributes

/-!
# Attributes as they are written

An attribute is written with its value between quotes, in which references stand for the
characters that could end the value, the tag or its attribute text, and for the
ampersand. Reading what was written gives the attribute again, whatever its value is, if
its key can be read at all: a list of such attributes comes back as it was, with
repeated keys and in its order.
-/

namespace TagWeave.Markup

open TagWeave.Text

/-- A character of a value, with a reference for each character that means something. -/
def writtenChar (c : Char) : List Char :=
  if c = '&' then "&amp;".toList
  else if c = '<' then "&lt;".toList
  else if c = '>' then "&gt;".toList
  else if c = '"' then "&quot;".toList
  else if c = '/' then "&#47;".toList
  else [c]

/-- A value as it is written between quotes. -/
def writtenValue (s : List Char) : List Char := s.flatMap writtenChar

/-- An attribute as it is written. -/
def written (a : Attribute) : List Char :=
  a.key.toList ++ '=' :: '"' :: (writtenValue a.value.toList ++ ['"'])

/-- Attributes as they are written, with a blank before each. -/
def writtenAll : List Attribute → List Char
  | [] => []
  | a :: as => ' ' :: (written a ++ writtenAll as)

/-- A character is written as a reference, or as itself if it means nothing. -/
theorem writtenChar_cases (c : Char) :
    (c ∈ ['&', '<', '>', '"', '/'] ∧
      ∀ d ∈ writtenChar c, d ≠ '<' ∧ d ≠ '>' ∧ d ≠ '"' ∧ d ≠ '/') ∨
    (writtenChar c = [c] ∧ c ≠ '&' ∧ c ≠ '<' ∧ c ≠ '>' ∧ c ≠ '"' ∧ c ≠ '/') := by
  by_cases special : c ∈ ['&', '<', '>', '"', '/']
  · refine .inl ⟨special, ?_⟩
    simp only [List.mem_cons, List.not_mem_nil, or_false] at special
    rcases special with rfl | rfl | rfl | rfl | rfl
    all_goals simp [writtenChar]
  · simp only [List.mem_cons, List.not_mem_nil, or_false, not_or] at special
    exact .inr ⟨by simp [writtenChar, special], special⟩

theorem mem_writtenValue {c : Char} {s : List Char} (h : c ∈ writtenValue s) :
    c ≠ '<' ∧ c ≠ '>' ∧ c ≠ '"' ∧ c ≠ '/' := by
  obtain ⟨d, -, hc⟩ := List.mem_flatMap.mp h
  rcases writtenChar_cases d with ⟨-, plain⟩ | ⟨same, -, plain⟩
  · exact plain c hc
  · rw [same] at hc
    rwa [List.mem_singleton.mp hc]

/-! ### Values -/

/-- What was written for a character is read as that character. -/
theorem resolveWithin_writtenChar (c : Char) (fuel : Nat) (s : List Char) :
    resolveWithin (fuel + 1) (writtenChar c ++ s) = (resolveWithin fuel s).map (c :: ·) := by
  rcases writtenChar_cases c with ⟨special, -⟩ | ⟨same, plain, -⟩
  · simp only [List.mem_cons, List.not_mem_nil, or_false] at special
    rcases special with rfl | rfl | rfl | rfl | rfl
    all_goals rfl
  · rw [same, List.singleton_append, resolveWithin]
    exact fun h => plain h

theorem length_le_writtenValue (s : List Char) : s.length ≤ (writtenValue s).length := by
  induction s with
  | nil => exact Nat.le_refl _
  | cons c s ih =>
      have some : 1 ≤ (writtenChar c).length := by
        unfold writtenChar
        split_ifs
        all_goals simp
      rw [writtenValue, List.flatMap_cons, List.length_append, List.length_cons]
      rw [writtenValue] at ih
      omega

/-- Any value is read as it was before it was written. -/
theorem resolveReferences_writtenValue (s : List Char) :
    resolveReferences (writtenValue s) = .ok s := by
  have enough : ∀ fuel, s.length ≤ fuel → resolveWithin fuel (writtenValue s) = .ok s := by
    induction s with
    | nil =>
        intro fuel _
        cases fuel with
        | zero => rfl
        | succ fuel => rfl
    | cons c s ih =>
        intro fuel hfuel
        obtain ⟨fuel, rfl⟩ := Nat.exists_eq_add_one_of_ne_zero
          (Nat.ne_of_gt (Nat.lt_of_lt_of_le (Nat.succ_pos _) hfuel))
        rw [writtenValue, List.flatMap_cons, resolveWithin_writtenChar, ← writtenValue,
          ih fuel (Nat.le_of_succ_le_succ hfuel)]
        rfl
  exact enough _ (length_le_writtenValue s)

/-! ### Attribute texts -/

/-- A key that can be written: it is not empty, and has lower-case letters, digits, underscores and
hyphens only. -/
structure IsWritable (key : String) : Prop where
  ne_nil : key.toList ≠ []
  chars : ViewTag.IsKey key.toList

instance (key : String) : Decidable (IsWritable key) :=
  let plain (c : Char) : Bool := ViewTag.isNameChar c && asciiLower c == c
  decidable_of_iff (key.toList ≠ [] ∧ key.toList.all plain = true) <| by
    have chars : key.toList.all plain = true ↔ ViewTag.IsKey key.toList := by
      simp [plain, ViewTag.IsKey]
    rw [chars]
    exact ⟨fun h => ⟨h.1, h.2⟩, fun h => ⟨h.ne_nil, h.chars⟩⟩

theorem isKeyChar_of_isNameChar {c : Char} (h : ViewTag.isNameChar c = true) :
    isKeyChar c = true := by
  have plain : c ≠ '/' ∧ c ≠ '=' ∧ c ≠ '>' :=
    ⟨ViewTag.ne_of_isNameChar h (by decide), ViewTag.ne_of_isNameChar h (by decide),
      ViewTag.ne_of_isNameChar h (by decide)⟩
  simp [isKeyChar, ViewTag.isBlank_of_isNameChar h, plain]

theorem isKeyStart_of_isKeyChar {c : Char} (h : isKeyChar c = true) : isKeyStart c = true := by
  simp only [isKeyChar, Bool.not_eq_true', Bool.or_eq_false_iff] at h
  simp [isKeyStart, h]

theorem value?_written (value rest : List Char) :
    value? ('=' :: '"' :: (writtenValue value ++ '"' :: rest)) =
      some (writtenValue value, rest) := by
  have stops : ∀ c ∈ writtenValue value, (decide (c ≠ '"')) = true :=
    fun c hc => decide_eq_true (mem_writtenValue hc).2.2.1
  have quoted : quotedValue? '"' (writtenValue value ++ '"' :: rest) =
      some (writtenValue value, rest) := by
    rw [quotedValue?, dropWhile_append_of_stop stops (by simp),
      takeWhile_append_of_stop stops (by simp)]
  have noBlank : isBlank '=' = false ∧ isBlank '"' = false := by decide
  simp [value?, noBlank, quoted]

theorem skipGap_cons {c : Char} {s : List Char} (h : isKeyStart c = true) :
    skipGap (c :: s) = c :: s := by
  simp only [isKeyStart, Bool.not_eq_true', Bool.or_eq_false_iff, decide_eq_false_iff_not] at h
  obtain ⟨⟨noBlank, noSlash⟩, -⟩ := h
  rw [skipGap]
  · simp [noBlank, noSlash]
  · rintro rest rfl
    exact absurd rfl noSlash

theorem skipGap_blank (s : List Char) : skipGap (' ' :: s) = skipGap s := by
  rw [skipGap, if_pos (by decide)]
  rintro _ ⟨⟩

theorem lastRead_append (before c : Char) (s rest : List Char) :
    lastRead before (s ++ c :: rest) rest = c := by
  have read : (s ++ c :: rest).take ((s ++ c :: rest).length - rest.length) = s ++ [c] := by
    rw [List.append_cons, List.length_append, Nat.add_sub_cancel, List.take_left]
  rw [lastRead, read, List.getLast?_concat, Option.getD_some]

/-- A written attribute begins as a key does. -/
theorem exists_written_eq_cons {a : Attribute} (h : IsWritable a.key) :
    ∃ c s, written a = c :: s ∧ isKeyStart c = true := by
  obtain ⟨c, s, hkey⟩ := List.exists_cons_of_ne_nil h.ne_nil
  refine ⟨c, s ++ '=' :: '"' :: (writtenValue a.value.toList ++ ['"']), ?_, ?_⟩
  · rw [written, hkey]
    rfl
  · exact isKeyStart_of_isKeyChar
      (isKeyChar_of_isNameChar (h.chars c (hkey ▸ List.mem_cons_self ..)).1)

/-- The attribute that is read where one was written. -/
def rawOf (a : Attribute) : RawAttribute := ⟨a.key.toList, some (writtenValue a.value.toList)⟩

theorem rawAttribute?_written {a : Attribute} (h : IsWritable a.key) {before : Char}
    (blank : isBlank before = true) (rest : List Char) :
    rawAttribute? before (written a ++ rest) = some (rawOf a, skipGap rest) := by
  have chars : ∀ c ∈ a.key.toList, isKeyChar c = true :=
    fun c hc => isKeyChar_of_isNameChar (h.chars c hc).1
  obtain ⟨c, s, hkey⟩ := List.exists_cons_of_ne_nil h.ne_nil
  rw [hkey] at chars
  obtain ⟨first, others⟩ := List.forall_mem_cons.mp chars
  have stop : ∀ t, ∀ d ∈ ('=' :: t).head?, isKeyChar d = false := by
    rintro t d hd
    rw [← Option.some.inj hd]
    decide
  have shape : written a ++ rest =
      c :: (s ++ '=' :: '"' :: (writtenValue a.value.toList ++ '"' :: rest)) := by
    simp [written, hkey]
  rw [shape, rawAttribute?]
  simp only [mayPrecedeKey, blank, Bool.or_true, isKeyStart_of_isKeyChar first, Bool.and_self,
    if_true, takeWhile_append_of_stop others (stop _), dropWhile_append_of_stop others (stop _),
    value?_written, rawOf, hkey]

/-- Attributes as they are written in an element that ends with them. -/
def bodyOf : List Attribute → List Char
  | [] => ['/', '>']
  | a :: as => written a ++ ' ' :: bodyOf as

theorem writtenAll_append (attributes : List Attribute) :
    writtenAll attributes ++ [' ', '/', '>'] = ' ' :: bodyOf attributes := by
  induction attributes with
  | nil => rfl
  | cons a as ih => rw [writtenAll, List.cons_append, List.append_assoc, ih, bodyOf]

theorem skipGap_bodyOf {attributes : List Attribute} (h : ∀ a ∈ attributes, IsWritable a.key) :
    skipGap (' ' :: bodyOf attributes) = bodyOf attributes := by
  rw [skipGap_blank]
  cases attributes with
  | nil => rfl
  | cons a as =>
      obtain ⟨c, s, hwritten, start⟩ := exists_written_eq_cons (h a (List.mem_cons_self ..))
      rw [bodyOf, hwritten, List.cons_append, skipGap_cons start]

/-- The attributes that were written are read, each after a blank, up to the end of the element. -/
theorem rawAttributes_bodyOf {attributes : List Attribute} (h : ∀ a ∈ attributes, IsWritable a.key)
    {fuel : Nat} (enough : attributes.length ≤ fuel) :
    rawAttributes fuel ' ' (bodyOf attributes) = (attributes.map rawOf, ['/', '>']) := by
  induction attributes generalizing fuel with
  | nil =>
      cases fuel with
      | zero => rfl
      | succ fuel => rfl
  | cons a as ih =>
      obtain ⟨first, others⟩ := List.forall_mem_cons.mp h
      obtain ⟨fuel, rfl⟩ := Nat.exists_eq_add_one_of_ne_zero
        (Nat.ne_of_gt (Nat.lt_of_lt_of_le (Nat.succ_pos _) enough))
      -- what was read ends with the blank that the next key has to follow
      rw [bodyOf, rawAttributes, rawAttribute?_written first (by decide), skipGap_bodyOf others]
      simp only [lastRead_append, ih others (Nat.le_of_succ_le_succ enough), List.map_cons]

theorem length_le_bodyOf (attributes : List Attribute) :
    attributes.length ≤ (bodyOf attributes).length := by
  induction attributes with
  | nil => exact Nat.zero_le _
  | cons a as ih =>
      rw [bodyOf, List.length_append, List.length_cons, List.length_cons]
      omega

theorem isTagChar_of_isNameChar {c : Char} (h : ViewTag.isNameChar c = true) :
    isTagChar c = true := by
  simp only [isTagChar, Bool.not_eq_true', Bool.or_eq_false_iff, decide_eq_false_iff_not]
  refine ⟨⟨⟨⟨⟨⟨⟨?_, ?_⟩, ?_⟩, ?_⟩, ?_⟩, ?_⟩, ?_⟩, ?_⟩
  all_goals exact ViewTag.ne_of_isNameChar h (by decide)

/-- The element that attributes are put into has just these attributes. -/
theorem readStartTag_bodyOf {name : List Char} (hname : ViewTag.IsKey name)
    {attributes : List Attribute} (h : ∀ a ∈ attributes, IsWritable a.key) :
    readStartTag (name ++ ' ' :: bodyOf attributes) =
      .element name (attributes.map rawOf) true [] := by
  have tagChars : ∀ c ∈ name, isTagChar c = true :=
    fun c hc => isTagChar_of_isNameChar (hname c hc).1
  have stop : ∀ c ∈ (' ' :: bodyOf attributes).head?, isTagChar c = false := by
    rintro c ⟨⟩
    decide
  have last : ∀ before, lastRead before (' ' :: bodyOf attributes) (bodyOf attributes) = ' ' :=
    fun before => lastRead_append before ' ' [] _
  rw [readStartTag, takeWhile_append_of_stop tagChars stop, dropWhile_append_of_stop tagChars stop,
    skipGap_bodyOf h, last, rawAttributes_bodyOf h (length_le_bodyOf attributes)]
  rfl

/-! ### Reading what was written -/

theorem lowerChars_of_isKey {key : List Char} (h : ViewTag.IsKey key) : lowerChars key = key := by
  have ascii : ∀ c ∈ key, c.toNat < 128 := fun c hc => ViewTag.toNat_lt_of_isNameChar (h c hc).1
  rw [lowerChars, ViewTag.lowerFrom_of_ascii ascii]
  exact (List.map_congr_left fun c hc => (h c hc).2).trans (List.map_id _)

theorem resolveAll_rawOf {attributes : List Attribute} (h : ∀ a ∈ attributes, IsWritable a.key) :
    resolveAll (attributes.map rawOf) = .ok (attributes.map fun a => (a.key, some a.value)) := by
  induction attributes with
  | nil => rfl
  | cons a as ih =>
      obtain ⟨first, others⟩ := List.forall_mem_cons.mp h
      have resolved : (rawOf a).resolve = .ok (a.key, some a.value) := by
        simp only [RawAttribute.resolve, rawOf, resolveReferences_writtenValue,
          lowerChars_of_isKey first.chars, String.ofList_toList]
      rw [List.map_cons, resolveAll, resolved, List.map_cons]
      simp only [ih others]
      rfl

/-- The element that attributes are put into is the only one. -/
theorem elements_bodyOf {name : List Char} (hname : ViewTag.IsKey name)
    (letter : ∀ c ∈ name.head?, isLetter c = true) (nonempty : name ≠ [])
    {attributes : List Attribute} (h : ∀ a ∈ attributes, IsWritable a.key) :
    elements ('<' :: (name ++ ' ' :: bodyOf attributes)) =
      .ok [⟨String.ofList name, attributes.map fun a => (a.key, some a.value)⟩] := by
  have start := readStartTag_bodyOf hname h
  obtain ⟨c, s, rfl⟩ := List.exists_cons_of_ne_nil nonempty
  rw [List.cons_append] at start ⊢
  have opened : ∀ t, ('<' :: t).dropWhile (fun c => decide (c ≠ '<')) = '<' :: t :=
    fun t => List.dropWhile_cons_of_neg (by decide)
  rw [elements, elementsWithin.eq_def]
  simp only [opened, letter c rfl, if_true, start, resolveAll_rawOf h, lowerChars_of_isKey hname,
    Bool.not_true, Bool.false_and, Bool.false_eq_true, if_false]
  rfl

end TagWeave.Markup
