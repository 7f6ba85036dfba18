import TagWeave.Proofs.Markup.Written
import TagWeave.Proofs.ViewTag.Encoding
import TagWeave.Proofs.ViewTag.Finder
import TagWeave.Proofs.ViewTag.Removal

/-!
# Tags as they are written

Finding a tag undoes writing it. A tag is written in one of its two forms, with its
attributes as they are written. In a text that has no other opening brackets around it,
it is the only tag that is found, with the name in lower case, the content and the
attributes that were written. The content of a paired tag may be any text in which the
tag is not closed, though it hold brackets and tags of the same name.
-/

namespace TagWeave

open TagWeave.Text

namespace ViewTag

variable {name : List Char} {o : Occurrence} {before after : List Char}

/-! ### An occurrence between texts without brackets -/

theorem opening?_eq_none {c : Char} (h : c ≠ '<') (s : List Char) :
    opening? name (c :: s) = none := by
  unfold opening?
  split
  · next same => exact absurd (List.cons.inj same).1 h
  · rfl

theorem selfClosed?_eq_none {c : Char} (h : c ≠ '<') (s : List Char) :
    selfClosed? name (c :: s) = none := by
  rw [selfClosed?, opening?_eq_none h]

theorem paired?_eq_none {c : Char} (h : c ≠ '<') (s : List Char) :
    paired? name (c :: s) = none := by
  rw [paired?, opening?_eq_none h]

/-- Before the first opening bracket nothing is found. -/
theorem scan_append_of_not_mem {find? : List Char → Option (Occurrence × List Char)}
    (progress : FindsPrefix find?) (opens : ∀ {c}, c ≠ '<' → ∀ s, find? (c :: s) = none)
    (absent : '<' ∉ before) (s : List Char) : scan find? (before ++ s) = scan find? s := by
  induction before with
  | nil => rfl
  | cons c before ih =>
      have other := (List.ne_of_not_mem_cons absent).symm
      rw [List.cons_append, scan_cons progress (opens other _),
        ih (List.not_mem_of_not_mem_cons absent)]

theorem scan_of_not_mem {find? : List Char → Option (Occurrence × List Char)}
    (progress : FindsPrefix find?) (opens : ∀ {c}, c ≠ '<' → ∀ s, find? (c :: s) = none)
    (absent : '<' ∉ before) : scan find? before = [] := by
  have scanned := scan_append_of_not_mem progress opens absent []
  rwa [List.append_nil, scan_nil] at scanned

/-- A text without the first character of a needle stays as it is when the needle is removed. -/
theorem removeAll_append_of_not_mem {needle inner : List Char} {c : Char}
    (hneedle : needle = c :: inner) (absent : c ∉ before) (s : List Char) :
    removeAll needle (before ++ s) = before ++ removeAll needle s := by
  apply removeAll_append
  rintro x y rfl hy ⟨t, same⟩
  obtain ⟨d, y, rfl⟩ := List.exists_cons_of_ne_nil hy
  rw [hneedle] at same
  obtain ⟨rfl, -⟩ := List.cons.inj same
  simp at absent

/-- A paired occurrence is found alone if there are no opening brackets around it. -/
theorem Occurrence.Paired.occurrences_between (hname : NoBracket name) (h : o.Paired name)
    (hbefore : '<' ∉ before) (hafter : '<' ∉ after) :
    occurrences name (before ++ (o.needle ++ after)) = [o] := by
  have paired : scan (paired? name) (before ++ (o.needle ++ after)) = [o] := by
    have found : paired? name (o.needle ++ after) = some (o, after) :=
      (paired?_eq_some_iff hname).mpr ⟨h, rfl⟩
    have progress := findsPrefix_paired? name
    rw [scan_append_of_not_mem progress paired?_eq_none hbefore, scan_append progress found,
      scan_of_not_mem progress paired?_eq_none hafter]
  have outside : '<' ∉ before ++ after := by
    simp [hbefore, hafter]
  have removed : removeAll o.needle (before ++ (o.needle ++ after)) = before ++ after := by
    obtain ⟨u, close, ⟨n, blanks, -, -, -, -, rfl⟩, -, -, -, hneedle⟩ := h
    have nonempty : o.needle ≠ [] := by
      simp [hneedle]
    have last := removeAll_append_of_not_mem hneedle hafter []
    rw [List.append_nil, removeAll_nil, List.append_nil] at last
    rw [removeAll_append_of_not_mem hneedle hbefore, removeAll_append_self nonempty, last]
  rw [occurrences, paired, without, List.foldl_cons, List.foldl_nil, removed,
    scan_of_not_mem (findsPrefix_selfClosed? name) selfClosed?_eq_none outside, List.nil_append]

/-- So is a self-closed one without another bracket in it. -/
theorem Occurrence.SelfClosed.occurrences_between (h : o.SelfClosed name) {inner : List Char}
    (hneedle : o.needle = '<' :: inner) (hinner : '<' ∉ inner) (hbefore : '<' ∉ before)
    (hafter : '<' ∉ after) : occurrences name (before ++ (o.needle ++ after)) = [o] := by
  have found : selfClosed? name (o.needle ++ after) = some (o, after) :=
    selfClosed?_eq_some_iff.mpr ⟨h, rfl⟩
  have paired : scan (paired? name) (before ++ (o.needle ++ after)) = [] := by
    have unpaired := paired?_eq_none_of_selfClosed? found
    have outside : '<' ∉ inner ++ after := by
      simp [hinner, hafter]
    have progress := findsPrefix_paired? name
    rw [hneedle, List.cons_append] at unpaired ⊢
    rw [scan_append_of_not_mem progress paired?_eq_none hbefore, scan_cons progress unpaired,
      scan_of_not_mem progress paired?_eq_none outside]
  have progress := findsPrefix_selfClosed? name
  rw [occurrences, paired, without, List.foldl_nil, List.append_nil,
    scan_append_of_not_mem progress selfClosed?_eq_none hbefore, scan_append progress found,
    scan_of_not_mem progress selfClosed?_eq_none hafter]

/-! ### Written tags -/

open TagWeave.Markup

/-- A tag's name and attributes as they are written. -/
def writtenOpening (name : String) (attributes : List Attribute) : List Char :=
  '<' :: (name.toList ++ writtenAll attributes)

/-- A tag's end as it is written. -/
def writtenClosing (name : String) : List Char := '<' :: '/' :: (name.toList ++ ['>'])

/-- A tag as it is written with its content. -/
def writtenPaired (name : String) (attributes : List Attribute) (content : String) : String :=
  String.ofList (writtenOpening name attributes ++
    '>' :: (content.toList ++ writtenClosing name))

/-- A tag as it is written without content. -/
def writtenSelfClosed (name : String) (attributes : List Attribute) : String :=
  String.ofList (writtenOpening name attributes ++ ['/', '>'])

theorem IsPlain.spells {name : String} (plain : IsPlain name) :
    Spells (Text.lower name).toList name.toList := by
  rw [plain.toList_lower, Spells, List.forall₂_map_left_iff, List.forall₂_same]
  intro c _
  exact sameLetter_iff.mpr (.inl (asciiLower_asciiLower c))

theorem noBracket_writtenAll {attributes : List Attribute}
    (writable : ∀ a ∈ attributes, IsWritable a.key) : NoBracket (writtenAll attributes) := by
  induction attributes with
  | nil => simp [writtenAll, NoBracket]
  | cons a as ih =>
      obtain ⟨first, others⟩ := List.forall_mem_cons.mp writable
      intro c hc
      simp only [writtenAll, written, List.mem_cons, List.mem_append, List.not_mem_nil, or_false]
        at hc
      rcases hc with rfl | (hkey | rfl | rfl | hvalue | rfl) | hc
      · decide
      · exact first.chars.noBracket c hkey
      · decide
      · decide
      · obtain ⟨opening, closing, -, slash⟩ := mem_writtenValue hvalue
        exact ⟨opening, slash, closing⟩
      · decide
      · exact ih others c hc

/-- What is written opens a tag of any name that it spells, with all that follows the first blank as
its attribute text. -/
theorem opens_writtenOpening {key name : String} (spelled : Spells key.toList name.toList)
    {attributes : List Attribute} (writable : ∀ a ∈ attributes, IsWritable a.key) :
    Opens key.toList (writtenAll attributes).tail (writtenOpening name attributes) := by
  have noBracket := noBracket_writtenAll writable
  have raw : ∀ c ∈ (writtenAll attributes).tail, isRawChar c = true := by
    intro c hc
    obtain ⟨-, slash, closing⟩ := noBracket c (List.mem_of_mem_tail hc)
    simp [isRawChar, slash, closing]
  cases attributes with
  | nil => exact ⟨name.toList, [], spelled, by simp, raw, by simp [writtenAll], rfl⟩
  | cons a as =>
      refine ⟨name.toList, [' '], spelled, ?_, raw, ?_, rfl⟩
      · intro c hc
        rw [List.mem_singleton.mp hc]
        decide
      · rintro c ⟨⟩
        decide

theorem trimmed_writtenAll {attributes : List Attribute}
    (writable : ∀ a ∈ attributes, IsWritable a.key) : Trimmed (writtenAll attributes).tail := by
  cases attributes with
  | nil => simp [writtenAll, Trimmed]
  | cons a as =>
      obtain ⟨c, s, hwritten, start⟩ := exists_written_eq_cons (writable a (List.mem_cons_self ..))
      rw [writtenAll, List.tail_cons, hwritten]
      rintro _ ⟨⟩
      simp only [isKeyStart, Bool.not_eq_true', Bool.or_eq_false_iff] at start
      exact start.1.1

/-- What can be written is not refused. -/
theorem isBadKey_eq_false {key : String} (writable : IsWritable key) : isBadKey key = false := by
  obtain ⟨c, s, hkey⟩ := List.exists_cons_of_ne_nil writable.ne_nil
  have plain : ∀ d ∈ c :: s, ∀ e, isNameChar e = false → d ≠ e :=
    fun d hd e he => ne_of_isNameChar (writable.chars d (hkey ▸ hd)).1 he
  have shown : ∀ d ∈ c :: s, ¬ d.toNat < 0x20 := by
    intro d hd
    have ascii := isNameChar_iff.mp (writable.chars d (hkey ▸ hd)).1
    omega
  have noSign := plain c (List.mem_cons_self ..) '=' (by decide)
  have noneBad :
      (c :: s).any (fun d => d = '"' || d = '\'' || d = '<' || d.toNat < 0x20) = false := by
    rw [List.any_eq_false]
    intro d hd
    simp [plain d hd '"' (by decide), plain d hd '\'' (by decide), plain d hd '<' (by decide),
      shown d hd]
  simp only [isBadKey, hkey, noSign, noneBad, decide_false, Bool.or_self]

theorem attributesOf_written {attributes : List Attribute}
    (writable : ∀ a ∈ attributes, IsWritable a.key) :
    attributesOf (attributes.map fun a => (a.key, some a.value)) = .ok attributes := by
  unfold attributesOf
  split
  · next key value found =>
    obtain ⟨a, ha, same⟩ := List.mem_map.mp (List.mem_of_find?_eq_some found)
    obtain ⟨rfl, -⟩ := Prod.mk.inj same
    have bad := List.find?_some found
    simp only [isBadKey_eq_false (writable a ha), Bool.false_eq_true] at bad
  · rw [List.map_map]
    exact congrArg Except.ok (List.map_id _)

/-- The attributes of a tag are read from what follows the first blank. -/
theorem parseAttributes_writtenAll {name : String} (plain : IsPlain name) (kept : IsKey name.toList)
    {attributes : List Attribute} (writable : ∀ a ∈ attributes, IsWritable a.key) :
    parseAttributes (String.ofList (writtenAll attributes).tail) name = .ok attributes := by
  have read : readAttributes name.toList (writtenAll attributes).tail = .ok attributes := by
    cases attributes with
    | nil => rfl
    | cons a as =>
        obtain ⟨d, t, hname, letter, -⟩ := plain
        obtain ⟨c, s, hwritten, start⟩ := exists_written_eq_cons (writable a (List.mem_cons_self ..))
        have shown : (writtenAll (a :: as)).tail.all isBlank = false := by
          simp only [isKeyStart, Bool.not_eq_true', Bool.or_eq_false_iff] at start
          rw [writtenAll, List.tail_cons, hwritten, List.cons_append, List.all_cons, start.1.1,
            Bool.false_and]
        have body : wrapped name.toList (writtenAll (a :: as)).tail =
            '<' :: (name.toList ++ ' ' :: bodyOf (a :: as)) := by
          rw [← writtenAll_append, wrapped, writtenAll]
          simp
        have first : ∀ c ∈ name.toList.head?, isLetter c = true := by
          rw [hname]
          rintro _ ⟨⟩
          exact letter
        have found := elements_bodyOf kept first (by simp [hname]) writable
        rw [readAttributes, shown, if_neg Bool.false_ne_true, body, found]
        simp only [List.find?_cons, lowerChars_of_isKey kept, decide_true]
        exact attributesOf_written writable
  rw [parseAttributes, String.toList_ofList, read]

/-- A content in which the tag is not closed is not closed early by the closing tag after it either. -/
theorem not_prefix_of_unclosed (hname : NoBracket name) {content close : List Char}
    (unclosed : ∀ u, Closes name u → ¬ u <:+: content) (closes : Closes name close) :
    ∀ x y, content = x ++ y → y ≠ [] → ∀ u, Closes name u → ¬ u <+: y ++ close := by
  rintro x y rfl hy u hu within
  obtain ⟨behind, hclose, -⟩ := closes.eq_cons hname
  obtain ⟨inner, rfl, absent⟩ := hu.eq_cons hname
  obtain ⟨c, y, rfl⟩ := List.exists_cons_of_ne_nil hy
  rcases List.prefix_or_prefix_of_prefix within (List.prefix_append (c :: y) close) with h | h
  · exact unclosed _ hu (h.isInfix.trans (List.suffix_append x (c :: y)).isInfix)
  · obtain ⟨z, hz⟩ := h
    obtain ⟨t, ht⟩ := within
    rw [← hz, List.append_assoc, List.append_cancel_left_eq] at ht
    cases z with
    | nil =>
        rw [List.append_nil] at hz
        rw [← hz] at hu
        exact unclosed _ hu (List.suffix_append x (c :: y)).isInfix
    | cons d z =>
        -- a closing tag that goes on beyond the content has the bracket of `close` in it
        rw [hclose] at ht
        obtain ⟨rfl, -⟩ := List.cons.inj ht
        obtain ⟨-, rfl⟩ := List.cons.inj hz
        simp at absent

end ViewTag

namespace Finder

open TagWeave.ViewTag TagWeave.Markup

/-- The search for a tag that can be read finds it, unless it cannot be identified. -/
def foundAlone (tag : ViewTag) : Except Error (List ViewTag) :=
  match tag.identityFault? with
  | none => .ok [tag]
  | some f => .error (.fault f)

theorem foundAlone_of_eq_none {tag : ViewTag} (h : tag.identityFault? = none) :
    foundAlone tag = .ok [tag] := by
  rw [foundAlone, h]

theorem foundAlone_of_ne_none {tag : ViewTag} (h : tag.identityFault? ≠ none) :
    ∃ e, foundAlone tag = .error (.fault (.unencodable e)) := by
  obtain ⟨f, unencodable⟩ := Option.ne_none_iff_exists'.mp h
  obtain ⟨e, -, rfl⟩ := Option.map_eq_some_iff.mp unencodable
  exact ⟨e, by rw [foundAlone, unencodable]⟩

/-- A single occurrence whose attributes can be read is a single tag. -/
theorem findAll_of_occurrences {name before after : String} {o : Occurrence}
    {attributes : List Attribute}
    (single : occurrences name.toList (before.toList ++ (o.needle ++ after.toList)) = [o])
    (parsed : parseAttributes (String.ofList o.raw) name = .ok attributes) :
    findAll (before ++ String.ofList o.needle ++ after) [name] = foundAlone {
      name, content := String.ofList o.content, attributes,
      needles := [String.ofList o.needle] } := by
  have inside : (before ++ String.ofList o.needle ++ after).toList =
      before.toList ++ (o.needle ++ after.toList) := by
    rw [String.toList_append, String.toList_append, String.toList_ofList, List.append_assoc]
  have collected : findOne (before ++ String.ofList o.needle ++ after) name = foundAlone {
      name, content := String.ofList o.content, attributes,
      needles := [String.ofList o.needle] } := by
    rw [findOne, inside, single, collect, single?, parsed, foundAlone]
    simp only
    generalize identityFault? _ = fault
    cases fault with
    | none => rfl
    | some f => rfl
  rw [findAll, collected, foundAlone]
  generalize identityFault? _ = fault
  cases fault with
  | none => rfl
  | some f => rfl

section

variable {key name before after : String} {attributes : List Attribute}

theorem findAll_writtenPaired (plain : IsPlain key) (kept : IsKey key.toList)
    (spelled : Spells key.toList name.toList) (writable : ∀ a ∈ attributes, IsWritable a.key)
    (hbefore : '<' ∉ before.toList) (hafter : '<' ∉ after.toList) {content : String}
    (unclosed : ∀ u, Closes key.toList u → ¬ u <:+: content.toList) :
    findAll (before ++ writtenPaired name attributes content ++ after) [key] = foundAlone {
      name := key, content, attributes, needles := [writtenPaired name attributes content] } := by
  have closes : Closes key.toList (writtenClosing name) := ⟨name.toList, [], spelled, by simp, rfl⟩
  let o : Occurrence := {
    needle := writtenOpening name attributes ++ '>' :: (content.toList ++ writtenClosing name)
    raw := (writtenAll attributes).tail
    content := content.toList }
  have paired : o.Paired key.toList :=
    ⟨_, _, opens_writtenOpening spelled writable, trimmed_writtenAll writable, closes,
      not_prefix_of_unclosed kept.noBracket unclosed closes, rfl⟩
  have single := paired.occurrences_between kept.noBracket hbefore hafter
  have found := findAll_of_occurrences single (parseAttributes_writtenAll plain kept writable)
  rw [String.ofList_toList] at found
  exact found

theorem findAll_writtenSelfClosed (plain : IsPlain key) (kept : IsKey key.toList)
    (spelled : Spells key.toList name.toList) (writable : ∀ a ∈ attributes, IsWritable a.key)
    (hbefore : '<' ∉ before.toList) (hafter : '<' ∉ after.toList) :
    findAll (before ++ writtenSelfClosed name attributes ++ after) [key] = foundAlone {
      name := key, content := "", attributes, needles := [writtenSelfClosed name attributes] } := by
  let o : Occurrence := {
    needle := writtenOpening name attributes ++ ['/', '>']
    raw := (writtenAll attributes).tail
    content := [] }
  have selfClosed : o.SelfClosed key.toList :=
    ⟨_, opens_writtenOpening spelled writable, trimmed_writtenAll writable, rfl, rfl⟩
  have inner : '<' ∉ name.toList ++ writtenAll attributes ++ ['/', '>'] := by
    intro hmem
    simp only [List.mem_append, List.mem_cons, List.not_mem_nil, Char.reduceEq, or_false] at hmem
    rcases hmem with hmem | hmem
    · exact (spelled.noBracket kept.noBracket '<' hmem).1 rfl
    · exact (noBracket_writtenAll writable '<' hmem).1 rfl
  have shape : o.needle = '<' :: (name.toList ++ writtenAll attributes ++ ['/', '>']) := rfl
  have single := selfClosed.occurrences_between shape inner hbefore hafter
  have found := findAll_of_occurrences single (parseAttributes_writtenAll plain kept writable)
  exact found

end

/-- A tag that was written in a text without other opening brackets is found, and nothing else: with
its name in lower case, the content and the attributes that were written. Only if its content or a
value holds a lone surrogate, which cannot be encoded, the search fails. -/
theorem find_written {name : String} (plain : IsPlain name) {attributes : List Attribute}
    (writable : ∀ a ∈ attributes, IsWritable a.key) {before after : String}
    (hbefore : '<' ∉ before.toList) (hafter : '<' ∉ after.toList) :
    ∃ finder, ofNames [name] = .ok finder ∧
      (∀ content : String, (∀ u, Closes (lower name).toList u → ¬ u <:+: content.toList) →
        (IsEncodable content.toList ∧ (∀ a ∈ attributes, IsEncodable a.value.toList) →
          finder.find (before ++ writtenPaired name attributes content ++ after) = .ok [{
            name := lower name, content, attributes,
            needles := [writtenPaired name attributes content] }]) ∧
        (¬ (IsEncodable content.toList ∧ ∀ a ∈ attributes, IsEncodable a.value.toList) → ∃ e,
          finder.find (before ++ writtenPaired name attributes content ++ after) =
            .error (.fault (.unencodable e)))) ∧
      ((∀ a ∈ attributes, IsEncodable a.value.toList) →
        finder.find (before ++ writtenSelfClosed name attributes ++ after) = .ok [{
          name := lower name, content := "", attributes,
          needles := [writtenSelfClosed name attributes] }]) ∧
      (¬ (∀ a ∈ attributes, IsEncodable a.value.toList) → ∃ e,
        finder.find (before ++ writtenSelfClosed name attributes ++ after) =
          .error (.fault (.unencodable e))) := by
  have made : ofNames [name] = .ok ⟨[lower name]⟩ :=
    ofNames_eq_ok_iff.mpr ⟨by simpa using plain.isName, rfl⟩
  have keys : ∀ a ∈ attributes, IsKey a.key.toList := fun a ha => (writable a ha).chars
  refine ⟨_, made, ?_, ?_⟩
  · intro content unclosed
    have found := findAll_writtenPaired plain.lower plain.isKey_lower plain.spells writable hbefore
      hafter unclosed
    let tag : ViewTag := ⟨lower name, content, attributes, [writtenPaired name attributes content]⟩
    have encodable : identityFault? tag = none ↔
        IsEncodable content.toList ∧ ∀ a ∈ attributes, IsEncodable a.value.toList :=
      identityFault?_eq_none_iff_of_isKey plain.isKey_lower keys
    refine ⟨fun h => found.trans (foundAlone_of_eq_none (encodable.mpr h)), fun h => ?_⟩
    obtain ⟨e, fails⟩ := foundAlone_of_ne_none (mt encodable.mp h)
    exact ⟨e, found.trans fails⟩
  · have found := findAll_writtenSelfClosed plain.lower plain.isKey_lower plain.spells writable
      hbefore hafter
    let tag : ViewTag := ⟨lower name, "", attributes, [writtenSelfClosed name attributes]⟩
    have encodable : identityFault? tag = none ↔
        IsEncodable "".toList ∧ ∀ a ∈ attributes, IsEncodable a.value.toList :=
      identityFault?_eq_none_iff_of_isKey plain.isKey_lower keys
    refine ⟨fun h => found.trans (foundAlone_of_eq_none (encodable.mpr ⟨by simp [IsEncodable], h⟩)),
      fun h => ?_⟩
    obtain ⟨e, fails⟩ := foundAlone_of_ne_none (mt encodable.mp fun whole => h whole.2)
    exact ⟨e, found.trans fails⟩

/-- Attributes with a repeated key, whose values have all the characters that mean something. -/
def remarks : List Attribute := [⟨"title", "<a href=\"b/c\">&amp;"⟩, ⟨"data-title", "x"⟩, ⟨"title", ""⟩]

example : writtenSelfClosed "Note" remarks =
    "<Note title=\"&lt;a href=&quot;b&#47;c&quot;&gt;&amp;amp;\" data-title=\"x\" title=\"\"/>" := by
  decide +kernel

/-- They come back, also from a tag whose content begins another tag of the name. -/
theorem find_note : IsPlain "Note" ∧ (∀ a ∈ remarks, IsWritable a.key) ∧
    '<' ∉ "1 > ".toList ∧ '<' ∉ " !".toList ∧
    (∀ u, Closes (lower "Note").toList u → ¬ u <:+: "a <note b".toList) ∧
    ∃ finder, ofNames ["Note"] = .ok finder ∧
      finder.find ("1 > " ++ writtenPaired "Note" remarks "a <note b" ++ " !") = .ok [{
        name := lower "Note", content := "a <note b", attributes := remarks,
        needles := [writtenPaired "Note" remarks "a <note b"] }] ∧
      finder.find ("1 > " ++ writtenSelfClosed "Note" remarks ++ " !") = .ok [{
        name := lower "Note", content := "", attributes := remarks,
        needles := [writtenSelfClosed "Note" remarks] }] := by
  have plain : IsPlain "Note" := ⟨'N', ['o', 't', 'e'], rfl, by decide, List.all_eq_true.mp (by decide)⟩
  have writable : ∀ a ∈ remarks, IsWritable a.key := by
    intro a ha
    simp only [remarks, List.mem_cons, List.not_mem_nil, or_false] at ha
    rcases ha with rfl | rfl | rfl
    all_goals decide
  have before : '<' ∉ "1 > ".toList := by decide
  have after : '<' ∉ " !".toList := by decide
  have unclosed : ∀ u, Closes (lower "Note").toList u → ¬ u <:+: "a <note b".toList := by
    rintro u ⟨n, blanks, -, -, rfl⟩ within
    have slash : '/' ∈ "a <note b".toList := within.subset (by simp)
    exact absurd slash (by decide)
  have values : ∀ a ∈ remarks, IsEncodable a.value.toList := by decide +kernel
  obtain ⟨finder, made, paired, selfClosed, -⟩ := find_written plain writable before after
  exact ⟨plain, writable, before, after, unclosed, finder, made,
    (paired _ unclosed).1 ⟨by decide +kernel, values⟩, selfClosed values⟩

/-- A tag is not found if the value of its attribute is a lone surrogate. -/
theorem not_find_of_lone_surrogate : IsPlain "block" ∧ IsWritable "a" ∧
    ∃ finder, ofNames ["block"] = .ok finder ∧
      ∀ tags, finder.find (writtenSelfClosed "block" [⟨"a", String.singleton (ofCodePoint 0xd800)⟩]) ≠
        .ok tags := by
  refine ⟨⟨'b', ['l', 'o', 'c', 'k'], rfl, by decide, List.all_eq_true.mp (by decide)⟩, by decide,
    ⟨["block"]⟩, rfl, ?_⟩
  intro tags found
  have fails : ((Finder.mk ["block"]).find
      (writtenSelfClosed "block" [⟨"a", String.singleton (ofCodePoint 0xd800)⟩])).isOk = false := by
    decide +kernel
  rw [found] at fails
  cases fails

end Finder

end TagWeave
