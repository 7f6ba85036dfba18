import TagWeave.Proofs.Mustache.Agreement
import TagWeave.Proofs.Mustache.Steps
import TagWeave.Proofs.Text.Split

/-!
# The nesting of sections

The steps of a template close its sections in the opposite order of their opening, as long
as they do not end in a fault. The tokens of a section over a list or a lambda are found by
its key alone. They are what the section holds, and nest themselves, if no section of that
key stands inside; over a list, opening ones may.
-/

namespace TagWeave.Mustache

open TagWeave.Text

/-- The steps close the sections that are open, innermost first, and those that they open, each of
which may stand in those that are open there. A fault ends the steps. -/
inductive Nests (may : List String → Token → Prop) : List String → List Step → Prop
  | done : Nests may [] []
  | lineEnds {opened : List String} {steps : List Step} (count : Nat) :
      Nests may opened steps → Nests may opened (.lineEnds count :: steps)
  | sectionOpened {opened : List String} {steps : List Step} :
      Nests may opened steps → Nests may opened (.sectionOpened :: steps)
  | fail (opened : List String) (complaint : Complaint) (steps : List Step) :
      Nests may opened (.fail complaint :: steps)
  | inline {opened : List String} {steps : List Step} {t : Token} :
      t.isInline → Nests may opened steps → Nests may opened (.token t :: steps)
  | opening {opened : List String} {steps : List Step} {key : String} :
      may opened (.opening key) → Nests may (key :: opened) steps →
      Nests may opened (.token (.opening key) :: steps)
  | inverted {opened : List String} {steps : List Step} {key : String} :
      may opened (.inverted key) → Nests may (key :: opened) steps →
      Nests may opened (.token (.inverted key) :: steps)
  | closing {opened : List String} {steps : List Step} {key : String} :
      Nests may opened steps → Nests may (key :: opened) (.token (.closing key) :: steps)

/-! ### Reading -/

section

variable {may : List String → Token → Prop}

theorem nests_finish (opened : List String) : Nests may opened (finish opened) := by
  cases opened with
  | nil => exact .done
  | cons key opened => exact .fail _ _ _

theorem nests_text {before : List Char} {opened : List String} {steps : List Step}
    (rest : Nests may opened steps) :
    Nests may opened ((if before.isEmpty then [] else [.token (.text before)]) ++ steps) := by
  split
  · exact rest
  · exact .inline rfl rest

/-- A tag opens and closes what it is said to open and close. -/
theorem nests_tag {opened opened' : List String} {tag : Tag} {before : List Char}
    {steps : List Step} (free : ∀ opened t, may opened t)
    (after : openAfter opened tag = .ok opened') (rest : Nests may opened' steps) :
    Nests may opened (tag.openedStep ++ tagSteps before tag ++ steps) := by
  unfold tagSteps
  rw [List.append_assoc, List.append_assoc]
  cases tag with
  | comment =>
      cases after
      exact nests_text rest
  | token t =>
      cases t with
      | opening key =>
          cases after
          exact .sectionOpened (nests_text (.opening (free _ _) rest))
      | inverted key =>
          cases after
          exact .sectionOpened (nests_text (.inverted (free _ _) rest))
      | closing key =>
          cases opened with
          | nil => cases after
          | cons last outer =>
              rw [openAfter] at after
              split at after
              · next same =>
                cases after
                rw [same]
                exact nests_text (.closing rest)
              · cases after
      | text | escaped | plain | included | delimiters | unknown =>
          cases after
          exact nests_text (.inline rfl rest)

theorem length_lt_of_splitAt? {delimiter s before rest : List Char}
    (split : splitAt? delimiter s = some (before, rest)) : rest.length < s.length := by
  rw [splitAt?] at split
  split at split
  · cases split
  · next nonempty =>
    have := List.length_pos_iff.mpr (mt List.isEmpty_iff.mpr nonempty)
    rw [← append_of_splitOnce? split, List.length_append, List.length_append]
    omega

theorem length_le_of_readTag {delimiters : Delimiters} {inside rest rest' : List Char} {tag : Tag}
    (read : readTag delimiters inside rest = .ok (tag, rest')) : rest'.length ≤ rest.length := by
  unfold readTag at read
  split at read
  any_goals first | (cases read; done) | (cases read; exact le_rfl)
  · split at read
    · cases read
      exact le_rfl
    · cases read
  · split at read
    · split at read
      · cases read
        exact Nat.le_succ _
      · cases read
        exact le_rfl
    · cases read
      exact le_rfl

theorem length_afterLine_le (s : List Char) : (afterLine s).length ≤ s.length := by
  rw [afterLine]
  have shorter := (s.dropWhile_suffix (· ≠ '\n')).length_le
  split
  · next rest line =>
    rw [line, List.length_cons] at shorter
    omega
  · exact le_rfl

/-- Every template is read as steps that nest. -/
theorem nests_scanFrom (free : ∀ opened t, may opened t) {fuel : Nat} {s : List Char}
    (enough : s.length < fuel) (standalone : Bool) (opened : List String) (delimiters : Delimiters) :
    Nests may opened (scanFrom fuel standalone opened delimiters s) := by
  induction fuel generalizing s standalone opened delimiters with
  | zero => exact absurd enough (Nat.not_lt_zero _)
  | succ fuel ih =>
      rw [scanFrom]
      split
      · exact nests_finish opened
      · split
        · exact .inline rfl (nests_finish opened)
        · exact .lineEnds _ (.inline rfl (nests_finish opened))
        · next before rest _ start =>
          refine .lineEnds _ ?_
          split
          · exact .fail _ _ _
          · next inside rest' stop =>
            split
            · exact .fail _ _ _
            · next tag rest'' read =>
              split
              · exact .fail _ _ _
              · next opened' after =>
                refine nests_tag free after (ih ?_ _ _ _)
                have shorter := length_lt_of_splitAt? start
                have := length_lt_of_splitAt? stop
                have := length_le_of_readTag read
                have := length_afterLine_le rest''
                split <;> omega

theorem nests_scan (s : List Char) : Nests (fun _ _ => True) [] (scan s) :=
  nests_scanFrom (fun _ _ => trivial) (Nat.lt_succ_self _) _ _ _

end

/-! ### Taking sections out -/

/-- Where a template for the host may open sections: no inverted one inside a section of the same key,
and, if there are lambdas, no other one either. -/
def Host.allows (host : Host) (opened : List String) : Token → Prop
  | .opening key => key ∈ opened → ∀ name, host.lambda? name = none
  | .inverted key => key ∉ opened
  | _ => True

variable {host : Host} {before : Known → Prop} {inner outer : List String} {steps : List Step}

theorem Host.allows_of_append {t : Token} (allowed : host.allows (inner ++ outer) t) :
    host.allows inner t := by
  cases t with
  | opening key => exact fun member => allowed (List.mem_append_left _ member)
  | inverted key => exact fun member => allowed (List.mem_append_left _ member)
  | text | escaped | plain | closing | included | delimiters | unknown => trivial

/-- The same is taken out on both sides: tokens that nest in the sections `inner`, and steps after
them that nest in the sections `outer`. -/
def Taken (host : Host) (before : Known → Prop) (inner outer : List String)
    (taken taken' : List Token × List Step) (known : Known) : Prop :=
  before known ∧ taken = taken' ∧ Nests host.allows inner (taken.1.map .token) ∧
    Nests host.allows outer taken.2

/-- One token more is taken out. -/
theorem Agree.taken_cons {inner' : List String} {rest : Rendering (List Token × List Step)}
    {t : Token} (agree : Agree before (Taken host before inner' outer) rest rest)
    (nests : ∀ steps, Nests host.allows inner' steps → Nests host.allows inner (.token t :: steps)) :
    Agree before (Taken host before inner outer)
      (rest >>= fun (tokens, rest) => return (t :: tokens, rest))
      (rest >>= fun (tokens, rest) => return (t :: tokens, rest)) := by
  refine agree.bind ?_
  rintro ⟨tokens, rest⟩ ⟨_, _⟩
  refine .pure ?_
  rintro known ⟨holds, ⟨⟩, nested, after⟩
  exact ⟨holds, rfl, nests _ nested, after⟩

theorem takeSection_of_ne_closing {key : String} {t : Token} (noClosing : t ≠ .closing key)
    (depth : Nat) (rest : List Step) :
    takeSection key depth (.token t :: rest) =
      takeSection key (if t = .opening key then depth + 1 else depth) rest >>=
        fun (tokens, rest) => return (t :: tokens, rest) := by
  rw [takeSection.eq_def]
  exact if_neg noClosing

theorem takeSection_closing_zero (key : String) (rest : List Step) :
    takeSection key 0 (.token (.closing key) :: rest) = pure ([], rest) := by
  rw [takeSection.eq_def]
  exact if_pos rfl

theorem takeSection_closing_succ (key : String) (depth : Nat) (rest : List Step) :
    takeSection key (depth + 1) (.token (.closing key) :: rest) =
      takeSection key depth rest >>=
        fun (tokens, rest) => return (.closing key :: tokens, rest) := by
  rw [takeSection.eq_def]
  exact if_pos rfl

/-- The section of a key is taken out of steps that nest: what it holds nests, and so does what
follows it. -/
theorem agree_takeSection {key : String}
    (nests : Nests host.allows (inner ++ key :: outer) steps) :
    Agree before (Taken host before inner outer)
      (takeSection key (inner.count key) steps) (takeSection key (inner.count key) steps) := by
  generalize same : inner ++ key :: outer = opened at nests
  induction nests generalizing inner with
  | done => simp at same
  | lineEnds count nests ih =>
      rw [takeSection]
      exact .bind (agree_countLines count) fun _ _ => ih same
  | sectionOpened nests ih =>
      rw [takeSection]
      exact .bind agree_noteOpened fun _ _ => ih same
  | fail => exact agree_complain _
  | @inline _ _ t inline nests ih =>
      have noOpening : t ≠ .opening key := by rintro rfl; cases inline
      rw [takeSection_of_ne_closing (by rintro rfl; cases inline), if_neg noOpening]
      exact (ih same).taken_cons fun _ => .inline inline
  | @opening _ _ other allowed nests ih =>
      have further := @ih (other :: inner) (congrArg (List.cons other) same)
      have depth : (other :: inner).count key =
          if Token.opening other = .opening key then inner.count key + 1 else inner.count key := by
        rw [List.count_cons]
        split <;> simp_all
      rw [takeSection_of_ne_closing (by simp), ← depth]
      subst same
      exact further.taken_cons fun _ => .opening (Host.allows_of_append allowed)
  | @inverted _ _ other allowed nests ih =>
      subst same
      have different : other ≠ key := by
        rintro rfl
        exact allowed (by simp)
      have further := @ih (other :: inner) rfl
      rw [List.count_cons_of_ne different] at further
      rw [takeSection_of_ne_closing (by simp), if_neg (by simp)]
      exact further.taken_cons fun _ => .inverted (Host.allows_of_append allowed)
  | @closing _ _ other nests ih =>
      cases inner with
      | nil =>
          cases same
          rw [List.count_nil, takeSection_closing_zero]
          exact .pure fun _ holds => ⟨holds, rfl, .done, nests⟩
      | cons last inner =>
          obtain ⟨rfl, rfl⟩ := List.cons.inj same
          by_cases repeated : last = key
          · subst repeated
            rw [List.count_cons_self, takeSection_closing_succ]
            exact (ih rfl).taken_cons fun _ => .closing
          · rw [List.count_cons_of_ne repeated, takeSection_of_ne_closing (by simpa using repeated),
              if_neg (by simp)]
            exact (ih rfl).taken_cons fun _ => .closing

theorem takeSource_of_ne_closing {key : String} {t : Token} (noClosing : t ≠ .closing key)
    (rest : List Step) :
    takeSource key (.token t :: rest) =
      match t.source? with
      | none => failWith (.missingKey (.str "no escape?"))
      | some source =>
        takeSource key rest >>= fun (text, tokens, rest) =>
          return (source ++ text, t :: tokens, rest) := by
  rw [takeSource.eq_def]
  exact if_neg noClosing

theorem takeSource_closing (key : String) (rest : List Step) :
    takeSource key (.token (.closing key) :: rest) = pure ([], [], rest) := by
  rw [takeSource.eq_def]
  exact if_pos rfl

/-- The same text is taken out on both sides, with tokens that nest. -/
def TakenSource (host : Host) (before : Known → Prop) (inner outer : List String)
    (taken taken' : List Char × List Token × List Step) (known : Known) : Prop :=
  taken.1 = taken'.1 ∧ Taken host before inner outer taken.2 taken'.2 known

theorem Agree.takenSource_cons {key : String} {inner' : List String} {t : Token}
    (noClosing : t ≠ .closing key)
    (agree : Agree before (TakenSource host before inner' outer) (takeSource key steps)
      (takeSource key steps))
    (nests : ∀ steps, Nests host.allows inner' steps → Nests host.allows inner (.token t :: steps)) :
    Agree before (TakenSource host before inner outer) (takeSource key (.token t :: steps))
      (takeSource key (.token t :: steps)) := by
  rw [takeSource_of_ne_closing noClosing]
  cases t.source? with
  | none => exact .throw _
  | some source =>
      refine agree.bind ?_
      rintro ⟨text, tokens, rest⟩ ⟨_, _, _⟩
      refine .pure ?_
      rintro known ⟨⟨⟩, holds, ⟨⟩, nested, after⟩
      exact ⟨rfl, holds, rfl, nests _ nested, after⟩

/-- Where there are lambdas, no section stands in one of the same key; so the text of a section, which
is cut at the first end tag with its key, is the whole of it. -/
theorem agree_takeSource {key : String} (lambdas : ∃ name lambda, host.lambda? name = some lambda)
    (absent : key ∉ inner) (nests : Nests host.allows (inner ++ key :: outer) steps) :
    Agree before (TakenSource host before inner outer) (takeSource key steps)
      (takeSource key steps) := by
  generalize same : inner ++ key :: outer = opened at nests
  induction nests generalizing inner with
  | done => simp at same
  | lineEnds count nests ih =>
      rw [takeSource]
      exact .bind (agree_countLines count) fun _ _ => ih absent same
  | sectionOpened nests ih =>
      rw [takeSource]
      exact .bind agree_noteOpened fun _ _ => ih absent same
  | fail => exact agree_complain _
  | @inline _ _ t inline nests ih =>
      exact (ih absent same).takenSource_cons (by rintro rfl; cases inline) fun _ => .inline inline
  | @opening _ _ other allowed nests ih =>
      subst same
      have different : key ≠ other := by
        rintro rfl
        obtain ⟨name, lambda, found⟩ := lambdas
        rw [allowed (by simp) name] at found
        cases found
      have absent : key ∉ other :: inner := List.not_mem_cons_of_ne_of_not_mem different absent
      exact (ih absent rfl).takenSource_cons (by simp) fun _ =>
        .opening (Host.allows_of_append allowed)
  | @inverted _ _ other allowed nests ih =>
      subst same
      have different : key ≠ other := by
        rintro rfl
        exact allowed (by simp)
      have absent : key ∉ other :: inner := List.not_mem_cons_of_ne_of_not_mem different absent
      exact (ih absent rfl).takenSource_cons (by simp) fun _ =>
        .inverted (Host.allows_of_append allowed)
  | @closing _ _ other nests ih =>
      cases inner with
      | nil =>
          cases same
          rw [takeSource_closing]
          exact .pure fun _ holds => ⟨rfl, holds, rfl, .done, nests⟩
      | cons last inner =>
          obtain ⟨rfl, rfl⟩ := List.cons.inj same
          have different : key ≠ last := List.ne_of_not_mem_cons absent
          exact (ih (List.not_mem_of_not_mem_cons absent) rfl).takenSource_cons
            (by simpa using different.symm) fun _ => .closing

end TagWeave.Mustache
