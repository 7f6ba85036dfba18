import Mathlib.Logic.ExistsUnique
import TagWeave.Proofs.ViewTag.Brackets

/-!
# Needles and the gaps between them

A text is divided into needles and the gaps before, between and behind them. Of all its
divisions one is leftmost and longest: no needle begins inside a gap, also none that
ends behind the gap, and where a needle begins no longer one does. A substitution puts
contents in place of the needles of that division and leaves the gaps alone; what it
puts in is not looked at.

Needles may overlap and be parts of each other. What is required of them is only that
none is empty: an empty one would begin everywhere.
-/

namespace TagWeave

/-- A text of gaps and needles, each needle with the content that takes its place. -/
inductive Division where
  /-- No needle follows. -/
  | last (gap : List Char)
  /-- A needle, a gap before it and the division of the text behind it. -/
  | next (gap needle content : List Char) (behind : Division)

namespace Division

/-- The text that is divided. -/
def text : Division → List Char
  | last gap => gap
  | next gap needle _ behind => gap ++ (needle ++ behind.text)

/-- The text with the contents in place of the needles. -/
def filled : Division → List Char
  | last gap => gap
  | next gap _ content behind => gap ++ (content ++ behind.filled)

variable (content? : List Char → Option (List Char))

/-- No needle begins inside a gap, wherever in the gap or behind it the needle would end. The
needles are what has a content. -/
def Vacant (gap behind : List Char) : Prop :=
  ∀ before inside, gap = before ++ inside → inside ≠ [] →
    ∀ needle content, content? needle = some content → ¬ needle <+: inside ++ behind

/-- A needle that a text begins with, with its content; the text begins with no longer one. -/
structure Longest (needle content s : List Char) : Prop where
  content : content? needle = some content
  begins : needle <+: s
  length_le : ∀ needle' content', content? needle' = some content' → needle' <+: s →
    needle'.length ≤ needle.length

/-- The leftmost needles are marked, and of those that begin at the same place the longest one. -/
def Leftmost : Division → Prop
  | last gap => Vacant content? gap []
  | next gap needle content behind =>
    Vacant content? gap (needle ++ behind.text) ∧
      Longest content? needle content (needle ++ behind.text) ∧ behind.Leftmost

variable {content?}

/-! ### There is one such division -/

/-- A gap without needles ends at the latest where a needle begins. -/
theorem Vacant.exists_eq_append {gap gap' behind s needle content : List Char}
    (vacant : Vacant content? gap behind) (is : content? needle = some content)
    (begins : needle <+: s) (same : gap ++ behind = gap' ++ s) :
    ∃ between, gap' = gap ++ between ∧ behind = between ++ s := by
  rcases List.append_eq_append_iff.mp same with split | ⟨inside, hgap, hs⟩
  · exact split
  · cases inside with
    | nil => exact ⟨[], by simpa using hgap.symm, by simpa using hs.symm⟩
    | cons c inside =>
        rw [hs] at begins
        exact absurd begins (vacant gap' (c :: inside) hgap (List.cons_ne_nil _ _) needle content is)

theorem Longest.eq {needle needle' content content' s : List Char}
    (longest : Longest content? needle content s) (longest' : Longest content? needle' content' s) :
    needle = needle' ∧ content = content' := by
  have lengths : needle.length = needle'.length :=
    Nat.le_antisymm (longest'.length_le _ _ longest.content longest.begins)
      (longest.length_le _ _ longest'.content longest'.begins)
  have same : needle = needle' :=
    (List.prefix_of_prefix_length_le longest.begins longest'.begins lengths.le).eq_of_length lengths
  refine ⟨same, Option.some.inj ?_⟩
  rw [← longest.content, ← longest'.content, same]

/-- If no needle is empty, none is marked in a gap that holds none. -/
theorem ne_of_vacant {gap gap' needle content s : List Char} (nonempty : content? [] = none)
    (vacant : Vacant content? gap []) (is : content? needle = some content) :
    gap ≠ gap' ++ (needle ++ s) := by
  intro same
  obtain ⟨between, -, empty⟩ := vacant.exists_eq_append is (List.prefix_append needle s)
    ((List.append_nil gap).trans same)
  have : needle = [] := by
    simp only [List.nil_eq, List.append_eq_nil_iff] at empty
    exact empty.2.1
  rw [this, nonempty] at is
  cases is

theorem Leftmost.eq (nonempty : content? [] = none) {d d' : Division}
    (leftmost : d.Leftmost content?) (leftmost' : d'.Leftmost content?) (same : d.text = d'.text) :
    d = d' := by
  induction d generalizing d' with
  | last gap =>
      cases d' with
      | last gap' => exact congrArg last same
      | next gap' needle' content' behind' =>
          exact absurd same (ne_of_vacant nonempty leftmost leftmost'.2.1.content)
  | next gap needle content behind ih =>
      obtain ⟨vacant, longest, rest⟩ := leftmost
      cases d' with
      | last gap' => exact absurd same.symm (ne_of_vacant nonempty leftmost' longest.content)
      | next gap' needle' content' behind' =>
          obtain ⟨vacant', longest', rest'⟩ := leftmost'
          -- each gap ends at the latest where the other one does
          obtain ⟨between, hgap', hs⟩ :=
            vacant.exists_eq_append longest'.content longest'.begins same
          obtain ⟨between', hgap, -⟩ :=
            vacant'.exists_eq_append longest.content longest.begins same.symm
          obtain rfl : between = [] := by
            have lengths := congrArg List.length (hgap'.trans (congrArg (· ++ between) hgap))
            simp only [List.length_append] at lengths
            exact List.eq_nil_of_length_eq_zero (by omega)
          rw [List.append_nil] at hgap'
          rw [List.nil_append] at hs
          rw [← hs] at longest'
          obtain ⟨rfl, rfl⟩ := longest.eq longest'
          rw [hgap', ih rest rest' (List.append_cancel_left hs)]

/-! ### The division along which needles are replaced -/

theorem vacant_nil (behind : List Char) : Vacant content? [] behind := by
  intro before inside split nonempty
  exact absurd (List.append_eq_nil_iff.mp split.symm).2 nonempty

theorem Vacant.cons {c : Char} {gap behind : List Char} (vacant : Vacant content? gap behind)
    (here : ∀ needle content, content? needle = some content → ¬ needle <+: c :: (gap ++ behind)) :
    Vacant content? (c :: gap) behind := by
  intro before inside split nonempty
  cases before with
  | nil =>
      rw [← List.nil_append inside, ← split]
      exact here
  | cons b before => exact vacant before inside (List.cons.inj split).2 nonempty

/-- The division of a text that begins with one more character, which is in a gap. -/
def push (c : Char) : Division → Division
  | last gap => last (c :: gap)
  | next gap needle content behind => next (c :: gap) needle content behind

@[simp] theorem text_push (c : Char) (d : Division) : (d.push c).text = c :: d.text := by
  cases d <;> rfl

@[simp] theorem filled_push (c : Char) (d : Division) : (d.push c).filled = c :: d.filled := by
  cases d <;> rfl

theorem Leftmost.push {c : Char} {d : Division} (leftmost : d.Leftmost content?)
    (here : ∀ needle content, content? needle = some content → ¬ needle <+: c :: d.text) :
    (d.push c).Leftmost content? := by
  cases d with
  | last gap => exact Vacant.cons leftmost (by simpa [text] using here)
  | next gap needle content behind => exact ⟨leftmost.1.cons here, leftmost.2⟩

end Division

namespace Replacements

variable {rs : Replacements} {r : List Char × List Char} {s : List Char}

theorem length_le_of_longer {a r : List Char × List Char} {b? : Option (List Char × List Char)}
    (h : longer (some a) b? = some r) :
    a.1.length ≤ r.1.length ∧ ∀ b, b? = some b → b.1.length ≤ r.1.length := by
  cases b? with
  | none => grind [longer]
  | some b => grind [longer]

theorem length_le_of_longestAt? (h : rs.longestAt? s = some r) {r' : List Char × List Char}
    (hr' : r' ∈ rs) (nonempty : r'.1 ≠ []) (begins : r'.1 <+: s) : r'.1.length ≤ r.1.length := by
  induction rs generalizing r with
  | nil => simp at hr'
  | cons first rs ih =>
      rw [longestAt?_cons] at h
      rcases List.mem_cons.mp hr' with rfl | hr'
      · rw [if_pos (by simp [nonempty, begins])] at h
        exact (length_le_of_longer h).1
      · split at h
        · cases found : longestAt? rs s with
          | none => exact absurd begins (not_prefix_of_longestAt? found hr' nonempty)
          | some best =>
              exact (ih found hr').trans ((length_le_of_longer h).2 best found)
        · exact ih h hr'

variable {content? : List Char → Option (List Char)}

/-- Needles are replaced along a leftmost and longest division of the text. -/
theorem exists_leftmost
    (told : ∀ needle content, content? needle = some content ↔ (needle, content) ∈ rs)
    (nonempty : ∀ r ∈ rs, r.1 ≠ []) {fuel : Nat} (enough : s.length < fuel) :
    ∃ d : Division, d.text = s ∧ d.Leftmost content? ∧ rs.applyWithin fuel s = d.filled := by
  induction fuel generalizing s with
  | zero => omega
  | succ fuel ih =>
      cases found : rs.longestAt? s with
      | some r =>
          obtain ⟨hr, some, rest, rfl⟩ := of_longestAt? found
          have shorter : rest.length < fuel := by
            have := List.length_pos_iff.mpr some
            rw [List.length_append] at enough
            omega
          obtain ⟨d, rfl, leftmost, filled⟩ := ih shorter
          refine ⟨.next [] r.1 r.2 d, rfl, ⟨Division.vacant_nil _, ⟨?_, ?_, ?_⟩, leftmost⟩, ?_⟩
          · exact (told r.1 r.2).mpr hr
          · exact List.prefix_append r.1 _
          · intro needle content is begins
            have listed := (told needle content).mp is
            exact length_le_of_longestAt? found listed (nonempty _ listed) begins
          · rw [applyWithin_append found, filled]
            rfl
      | none =>
          cases s with
          | nil =>
              refine ⟨.last [], rfl, Division.vacant_nil _, ?_⟩
              rw [applyWithin_nil nonempty]
              rfl
          | cons c s =>
              obtain ⟨d, rfl, leftmost, filled⟩ := ih (Nat.lt_of_succ_lt_succ enough)
              refine ⟨d.push c, d.text_push c, leftmost.push ?_, ?_⟩
              · intro needle content is
                have listed := (told needle content).mp is
                exact not_prefix_of_longestAt? found listed (nonempty _ listed)
              · rw [applyWithin_cons nonempty found, filled, Division.filled_push]

/-! ### The contents of needles -/

/-- The needles of resolved tags as they are listed, each with the content of its tag. -/
def listings (resolved : List (ViewTag × Content)) : List (List Char × List Char) :=
  resolved.flatMap fun pair => pair.1.needles.map fun needle =>
    (needle.toList, pair.2.text.toList)

/-- The content of a needle: that of its last listing. -/
def lastContent? (resolved : List (ViewTag × Content)) (needle : List Char) :
    Option (List Char) :=
  (listings resolved).reverse.lookup needle

variable {resolved : List (ViewTag × Content)}

/-- Sets needles one after the other. -/
def ofListings (listed : List (List Char × List Char)) : Replacements :=
  listed.foldl (fun (rs : Replacements) listing => rs.set listing.1 listing.2) []

theorem ofResolved_eq_ofListings (resolved : List (ViewTag × Content)) :
    ofResolved resolved = ofListings (listings resolved) := by
  simp only [ofResolved, ofListings, listings, List.foldl_flatMap, List.foldl_map]

theorem ofListings_concat (listed : List (List Char × List Char)) (needle content : List Char) :
    ofListings (listed ++ [(needle, content)]) = (ofListings listed).set needle content := by
  rw [ofListings, List.foldl_append]
  rfl

theorem keyed_ofListings (listed : List (List Char × List Char)) : (ofListings listed).Keyed := by
  induction listed using List.reverseRecOn with
  | nil => exact List.nodup_nil
  | append_singleton listed listing ih =>
      rw [ofListings_concat]
      exact ih.set ..

/-- A needle that is set again has its last content. -/
theorem lookup_reverse_eq_some_iff (listed : List (List Char × List Char)) (n t : List Char) :
    listed.reverse.lookup n = some t ↔ (n, t) ∈ ofListings listed := by
  induction listed using List.reverseRecOn with
  | nil => simp [ofListings]
  | append_singleton listed listing ih =>
      obtain ⟨needle, content⟩ := listing
      rw [ofListings_concat, mem_set (keyed_ofListings listed), List.reverse_concat, List.lookup_cons,
        ← ih]
      by_cases same : n = needle
      · simp [same, eq_comm]
      · simp [same, beq_false_of_ne same]

theorem lastContent?_eq_some_iff (resolved : List (ViewTag × Content)) (needle content : List Char) :
    lastContent? resolved needle = some content ↔ (needle, content) ∈ ofResolved resolved := by
  rw [lastContent?, lookup_reverse_eq_some_iff, ofResolved_eq_ofListings]

theorem ne_nil_of_mem_ofResolved (nonempty : ∀ pair ∈ resolved, "" ∉ pair.1.needles) :
    ∀ r ∈ ofResolved resolved, r.1 ≠ [] := by
  intro r hr empty
  obtain ⟨pair, hpair, -, needle, hneedle, same⟩ := exists_of_mem_ofResolved hr
  rw [empty] at same
  rw [String.toList_eq_nil_iff.mp same.symm] at hneedle
  exact nonempty pair hpair hneedle

end Replacements

open Replacements in
/-- If no needle is empty, a template has one leftmost and longest division into needles and gaps,
and a substitution puts the contents in place of its needles. So the gaps are left as they are,
what is put in is not scanned, and no needle is missed. A needle that is listed several times has
its last content. -/
theorem substitute_eq_filled (template : String) (resolved : List (ViewTag × Content))
    (nonempty : ∀ pair ∈ resolved, "" ∉ pair.1.needles) :
    (∃! d : Division, d.text = template.toList ∧ d.Leftmost (lastContent? resolved)) ∧
    ∀ d : Division, d.text = template.toList → d.Leftmost (lastContent? resolved) →
      substitute template resolved = String.ofList d.filled := by
  have marked := ne_nil_of_mem_ofResolved nonempty
  have absent : lastContent? resolved [] = none := by
    rw [Option.eq_none_iff_forall_ne_some]
    intro content is
    exact marked _ ((lastContent?_eq_some_iff resolved [] content).mp is) rfl
  obtain ⟨d, hd, leftmost, filled⟩ := exists_leftmost (lastContent?_eq_some_iff resolved)
    marked (Nat.lt_succ_self template.toList.length)
  have only : ∀ d' : Division, d'.text = template.toList → d'.Leftmost (lastContent? resolved) →
      d' = d := fun d' hd' leftmost' => leftmost'.eq absent leftmost (hd'.trans hd.symm)
  refine ⟨⟨d, ⟨hd, leftmost⟩, fun d' h => only d' h.1 h.2⟩, fun d' hd' leftmost' => ?_⟩
  rw [only d' hd' leftmost', substitute, Replacements.apply, filled]

/-- Needles that overlap, of which one is the beginning of another one and one is listed twice. -/
def patchwork : List (ViewTag × Content) :=
  [({ name := "plain", needles := ["ab", "b"] }, { text := "1" }),
    ({ name := "longer", needles := ["abc", "cd", "b"] }, { text := "ab" })]

open Replacements in
theorem patchwork_filled : (∀ pair ∈ patchwork, "" ∉ pair.1.needles) ∧
    ∃ d : Division, d.text = "abcdbab".toList ∧ d.Leftmost (lastContent? patchwork) ∧
      String.ofList d.filled = "abdab1" := by
  have nonempty : ∀ pair ∈ patchwork, "" ∉ pair.1.needles := by decide
  obtain ⟨⟨d, ⟨text, leftmost⟩, -⟩, filled⟩ := substitute_eq_filled "abcdbab" patchwork nonempty
  have result : substitute "abcdbab" patchwork = "abdab1" := by decide
  exact ⟨nonempty, d, text, leftmost, (filled d text leftmost).symm.trans result⟩

end TagWeave
