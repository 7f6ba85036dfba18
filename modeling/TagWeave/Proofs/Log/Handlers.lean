import Mathlib.Data.List.Induction
import TagWeave.Log.Setup
import TagWeave.Proofs.Lasting

/-!
# The handlers of the log

However often the log is set up and reset, whatever files there are each time, and whether
a file can be opened or not: the log has at most one handler, and this is the one that was
installed last. When setting it up returns, the log has the level that was asked for, and
so has its handler, which writes to the target that was asked for.

There is one exception. If another target could not be opened since the target was
installed, the handler was removed, but it is still remembered: setting up its target then
returns and leaves the log without a handler. This lasts until another target is set up or
the log is reset.
-/

namespace TagWeave.Log

/-- What can be asked: to set up the log, with the files that there are at that time, or to reset
it. -/
inductive Request where
  | configure (files : FileTree) (levelName : String) (path? : Option String)
  | reset

/-- What a request came to: a target was set up or could not be opened, a path could not be one, or
the log was reset. -/
inductive Event where
  | returned (target : Target)
  | failed (target : Target)
  | refused
  | reset

namespace Event

/-- Whether what was remembered of a target is forgotten. -/
def Displaces (target : Target) : Event → Prop
  | returned other => other ≠ target
  | reset => True
  | failed _ | refused => False

/-- A target was set up, and is remembered. -/
def Remembered (target : Target) (events : List Event) : Prop :=
  Lasting (Displaces target) events (.returned target)

/-- A target was set up, and is remembered although another one could not be opened since. -/
def Lost (target : Target) (events : List Event) : Prop :=
  ∃ before since, events = before ++ .returned target :: since ∧
    (∃ other, .failed other ∈ since) ∧ ∀ event ∈ since, ¬ event.Displaces target

variable {target : Target} {events : List Event}

theorem remembered_concat {last : Event} :
    Remembered target (events ++ [last]) ↔
      last = .returned target ∨ (Remembered target events ∧ ¬ last.Displaces target) :=
  lasting_concat

theorem not_lost_nil : ¬ Lost target [] := by
  rintro ⟨before, since, split, -⟩
  simp at split

theorem Lost.remembered (lost : Lost target events) : Remembered target events := by
  obtain ⟨before, since, split, -, kept⟩ := lost
  exact ⟨before, since, split, kept⟩

/-- A target gets lost when another one cannot be opened, and stays so until it is displaced. -/
theorem lost_concat {last : Event} :
    Lost target (events ++ [last]) ↔
      (Lost target events ∨ (Remembered target events ∧ ∃ other, last = .failed other)) ∧
        ¬ last.Displaces target := by
  constructor
  · rintro ⟨before, since, split, ⟨other, failed⟩, kept⟩
    rcases List.eq_nil_or_concat since with rfl | ⟨since, final, rfl⟩
    · simp at failed
    · rw [List.concat_eq_append] at split failed kept
      rw [← List.cons_append, ← List.append_assoc] at split
      obtain ⟨same, ended⟩ := List.append_inj' split rfl
      rw [← List.singleton_inj.mp ended] at failed kept
      obtain ⟨kept, last⟩ := List.forall_mem_append.mp kept
      refine ⟨?_, last _ (List.mem_singleton_self _)⟩
      rcases List.mem_append.mp failed with failed | failed
      · exact .inl ⟨before, since, same, ⟨other, failed⟩, kept⟩
      · exact .inr ⟨⟨before, since, same, kept⟩, other, (List.mem_singleton.mp failed).symm⟩
  · rintro ⟨⟨before, since, rfl, ⟨other, failed⟩, kept⟩ | ⟨⟨before, since, rfl, kept⟩, other, rfl⟩,
      last⟩
    · exact ⟨before, since ++ [_], by simp, ⟨other, List.mem_append_left _ failed⟩,
        List.forall_mem_append.mpr ⟨kept, List.forall_mem_singleton.mpr last⟩⟩
    · exact ⟨before, since ++ [_], by simp, ⟨other, by simp⟩,
        List.forall_mem_append.mpr ⟨kept, List.forall_mem_singleton.mpr last⟩⟩

end Event

namespace Setup

/-- What a request comes to, and the setup that it leaves. -/
def respond (setup : Setup) : Request → Event × Setup
  | .reset => (.reset, setup.reset)
  | .configure files levelName path? =>
    match targetOf files path?, setup.configure files levelName path? with
    | .error _, (_, setup, _) => (.refused, setup)
    | .ok target, (.ok (), setup, _) => (.returned target, setup)
    | .ok target, (.error _, setup, _) => (.failed target, setup)

/-- What requests came to one after the other, and the setup that they leave. At first there is
none. -/
def respondAll (requests : List Request) : List Event × Setup :=
  requests.foldl (fun past request =>
    match past.2.respond request with
    | (event, setup) => (past.1 ++ [event], setup)) ([], {})

/-- The setup after some requests. -/
def afterAll (requests : List Request) : Setup := (respondAll requests).2

/-- What some requests came to. -/
def eventsOf (requests : List Request) : List Event := (respondAll requests).1

/-- The setup takes the target for the one that is set up. -/
def Takes (setup : Setup) (target : Target) : Prop :=
  setup.handler?.isSome ∧ setup.target? = some target

/-- What setting up the log can do. The path is refused, the level is adjusted, or the handler before
is removed; then another one is installed, or the target cannot be opened. -/
theorem configure_cases (setup : Setup) (files : FileTree) (levelName : String)
    (path? : Option String) :
    (∃ fault, targetOf files path? = .error fault ∧
      setup.configure files levelName path? =
        (.error fault, { setup with level := levelOfName levelName }, files)) ∨
    ∃ target, targetOf files path? = .ok target ∧
      ((setup.Takes target ∧ setup.configure files levelName path? =
          (.ok (), adjust { setup with level := levelOfName levelName } (levelOfName levelName),
            files)) ∨
        (¬ setup.Takes target ∧ ∃ files',
          (∃ fault, setup.configure files levelName path? =
            (.error fault, detach { setup with level := levelOfName levelName }, files')) ∨
          setup.configure files levelName path? =
            (.ok (), (detach { setup with level := levelOfName levelName }).install
              ⟨target, levelOfName levelName⟩, files'))) := by
  rw [configure]
  cases asked : targetOf files path? with
  | error fault => exact .inl ⟨fault, rfl, rfl⟩
  | ok target =>
      refine .inr ⟨target, rfl, ?_⟩
      have takes : ((setup.handler?.isSome && decide (setup.target? = some target)) = true) ↔
          setup.Takes target := by simp [Takes]
      by_cases same : setup.Takes target
      · exact .inl ⟨same, if_pos (takes.mpr same)⟩
      · refine .inr ⟨same, ?_⟩
        simp only [if_neg (mt takes.mp same)]
        obtain ⟨fault | _, files'⟩ := openTarget files target
        · exact ⟨files', .inl ⟨fault, rfl⟩⟩
        · exact ⟨files', .inr rfl⟩

/-! ### What stays true -/

/-- What is remembered fits together, the log has no handler but the remembered one, and it has this
one unless its target is lost. -/
structure Fits (events : List Event) (setup : Setup) : Prop where
  target : setup.handler?.map (·.target) = setup.target?
  remembered : ∀ target, setup.target? = some target ↔ Event.Remembered target events
  handlers : setup.handlers = [] ∨ setup.handlers = setup.handler?.toList
  lost : ∀ target, Event.Lost target events ↔ setup.target? = some target ∧ setup.handlers = []

variable {setup : Setup} {events : List Event}

theorem Fits.takes_iff (fits : setup.Fits events) (target : Target) :
    setup.Takes target ↔ setup.target? = some target := by
  rw [Takes, ← fits.target]
  cases setup.handler? with
  | none => simp
  | some handler => simp

theorem detach_handlers (handlers : setup.handlers = [] ∨ setup.handlers = setup.handler?.toList) :
    setup.detach.handlers = [] := by
  rw [detach]
  cases remembered : setup.handler? with
  | none => simpa [remembered] using handlers
  | some handler =>
      rcases handlers with none | one
      · simp [none]
      · simp [one, remembered]

theorem adjust_handlers (level : Nat)
    (handlers : setup.handlers = [] ∨ setup.handlers = setup.handler?.toList) :
    (setup.adjust level).handlers = [] ∨
      (setup.adjust level).handlers = (setup.adjust level).handler?.toList := by
  rw [adjust]
  rcases handlers with none | one
  · exact .inl (by simp [none])
  · right
    rw [one]
    cases setup.handler? with
    | none => rfl
    | some handler => simp

theorem fits_reset (setup : Setup) (events : List Event) :
    setup.reset.Fits (events ++ [.reset]) where
  target := rfl
  remembered target := by
    rw [Event.remembered_concat]
    simp [reset, Event.Displaces]
  handlers := .inl rfl
  lost target := by
    rw [Event.lost_concat]
    simp [reset, Event.Displaces]

theorem Fits.refused (fits : setup.Fits events) (level : Nat) :
    Fits (events ++ [.refused]) { setup with level } where
  target := fits.target
  remembered target := by
    rw [Event.remembered_concat]
    simpa [Event.Displaces] using fits.remembered target
  handlers := fits.handlers
  lost target := by
    rw [Event.lost_concat]
    simpa [Event.Displaces] using fits.lost target

theorem Fits.adjust (fits : setup.Fits events) {target : Target}
    (takes : setup.target? = some target) (level : Nat) :
    (setup.adjust level).Fits (events ++ [.returned target]) where
  target := by
    rw [Setup.adjust, ← fits.target, Option.map_map]
    rfl
  remembered other := by
    rw [Event.remembered_concat, ← fits.remembered]
    simp [Setup.adjust, Event.Displaces, takes]
  handlers := adjust_handlers level fits.handlers
  lost other := by
    rw [Event.lost_concat, fits.lost]
    simp +contextual [Setup.adjust, Event.Displaces, takes, and_comm]

theorem Fits.detach (fits : setup.Fits events) (target : Target) :
    setup.detach.Fits (events ++ [.failed target]) where
  target := fits.target
  remembered other := by
    rw [Event.remembered_concat, ← fits.remembered]
    simp [Setup.detach, Event.Displaces]
  handlers := .inl (detach_handlers fits.handlers)
  lost other := by
    have lost : Event.Lost other events → Event.Remembered other events := Event.Lost.remembered
    rw [Event.lost_concat, detach_handlers fits.handlers]
    simpa [Setup.detach, Event.Displaces, fits.remembered] using lost

theorem Fits.install (fits : setup.Fits events) {target : Target}
    (untaken : setup.target? ≠ some target) (level : Nat) :
    (setup.detach.install ⟨target, level⟩).Fits (events ++ [.returned target]) where
  target := rfl
  remembered other := by
    rw [Event.remembered_concat]
    simp +contextual [Setup.install, Event.Displaces]
  handlers := by
    right
    rw [Setup.install, detach_handlers fits.handlers]
    rfl
  lost other := by
    rw [Event.lost_concat, fits.lost]
    constructor
    · rintro ⟨⟨takes, -⟩ | ⟨-, another, ⟨⟩⟩, same⟩
      have same : target = other := by simpa [Event.Displaces] using same
      exact absurd (same ▸ takes) untaken
    · rintro ⟨-, none⟩
      simp [Setup.install] at none

/-- A request keeps the setup fitting. -/
theorem Fits.respond (fits : setup.Fits events) (request : Request) :
    (setup.respond request).2.Fits (events ++ [(setup.respond request).1]) := by
  cases request with
  | reset => exact fits_reset setup events
  | configure files levelName path? =>
      have levelled : Fits events { setup with level := levelOfName levelName } :=
        ⟨fits.target, fits.remembered, fits.handlers, fits.lost⟩
      rw [Setup.respond]
      rcases setup.configure_cases files levelName path? with
        ⟨fault, asked, done⟩ |
          ⟨target, asked, ⟨takes, done⟩ | ⟨untaken, files', ⟨fault, done⟩ | done⟩⟩
      · rw [asked, done]
        exact fits.refused _
      · rw [asked, done]
        exact levelled.adjust takes.2 _
      · rw [asked, done]
        exact levelled.detach target
      · rw [asked, done]
        exact levelled.install (mt (fits.takes_iff target).mpr untaken) _

/-- All requests do. -/
theorem fits_afterAll (requests : List Request) :
    (afterAll requests).Fits (eventsOf requests) := by
  induction requests using List.reverseRecOn with
  | nil =>
      refine ⟨rfl, fun target => ?_, .inl rfl, fun target => ?_⟩
      · exact iff_of_false (by simp [afterAll, respondAll]) not_lasting_nil
      · exact iff_of_false Event.not_lost_nil (by simp [afterAll, respondAll])
  | append_singleton requests request ih =>
      have further := ih.respond request
      rw [afterAll, eventsOf, respondAll, List.foldl_append]
      exact further

/-- Whenever setting up the log returns, after any requests, the log has the level that was asked for.
It also has one handler, with this level, that writes to the target that was asked for, unless this
target is lost; then it has none. -/
theorem handlers_of_configure (requests : List Request) {files files' : FileTree}
    {levelName : String} {path? : Option String} {setup : Setup}
    (returned : (afterAll requests).configure files levelName path? = (.ok (), setup, files')) :
    ∃ target, targetOf files path? = .ok target ∧ setup.level = levelOfName levelName ∧
      (¬ Event.Lost target (eventsOf requests) →
        setup.handlers = [⟨target, levelOfName levelName⟩]) ∧
      (Event.Lost target (eventsOf requests) → setup.handlers = []) := by
  have fits := fits_afterAll requests
  rcases (afterAll requests).configure_cases files levelName path? with
    ⟨fault, asked, done⟩ |
      ⟨target, asked, ⟨takes, done⟩ | ⟨untaken, between, ⟨fault, done⟩ | done⟩⟩
  · rw [returned] at done
    cases done
  · rw [returned] at done
    obtain ⟨rfl, rfl⟩ := Prod.mk.inj (Prod.mk.inj done).2
    refine ⟨target, asked, rfl, fun kept => ?_, fun lost => ?_⟩
    · obtain ⟨handler, remembered⟩ := Option.isSome_iff_exists.mp takes.1
      have one : (afterAll requests).handlers = [handler] := by
        rcases fits.handlers with none | one
        · exact absurd ((fits.lost target).mpr ⟨takes.2, none⟩) kept
        · rw [one, remembered, Option.toList_some]
      have same : handler.target = target := by
        have both := fits.target
        rw [remembered, takes.2] at both
        exact Option.some.inj both
      simp [adjust, one, remembered, same]
    · simp [adjust, ((fits.lost target).mp lost).2]
  · rw [returned] at done
    cases done
  · rw [returned] at done
    obtain ⟨rfl, rfl⟩ := Prod.mk.inj (Prod.mk.inj done).2
    have alone := detach_handlers fits.handlers
    refine ⟨target, asked, rfl, fun _ => ?_, fun lost => ?_⟩
    · simpa [install, detach] using alone
    · exact absurd ((fits.takes_iff target).mpr ((fits.lost target).mp lost).1) untaken

/-- Files among which nothing can be below the notes. -/
def desk : FileTree := { entries := [(["notes"], .file [])] }

/-- Records went to standard error, and are to go to a file that cannot be opened. -/
def misdirected : List Request :=
  [.configure desk "info" none, .configure desk "info" (some "/notes/log")]

/-- After another file has been opened, it is set up again with an unknown level. -/
theorem handlers_of_another :
    ∃ setup, (afterAll (misdirected ++ [.configure desk "error" (some "/log")])).configure desk "loud"
        (some "/log") = (.ok (), setup, desk) ∧
      setup.level = warning ∧ setup.handlers = [⟨.file ["log"], warning⟩] := by
  have returned : (afterAll (misdirected ++ [.configure desk "error" (some "/log")])).configure desk
      "loud" (some "/log") =
        (.ok (), ⟨warning, [⟨.file ["log"], warning⟩], some ⟨.file ["log"], warning⟩,
          some (.file ["log"])⟩, desk) := rfl
  have events : eventsOf (misdirected ++ [.configure desk "error" (some "/log")]) =
      [.returned .standardError, .failed (.file ["notes", "log"])] ++ [.returned (.file ["log"])] :=
    rfl
  obtain ⟨target, asked, level, kept, -⟩ := handlers_of_configure _ returned
  cases asked
  refine ⟨_, returned, level, kept ?_⟩
  intro lost
  rw [events, Event.lost_concat] at lost
  obtain ⟨lost | ⟨-, other, ⟨⟩⟩, -⟩ := lost
  simpa using lost.remembered.mem

/-- Going back to standard error returns, but there is no handler. -/
theorem no_handlers_of_lost :
    (afterAll misdirected).configure desk "debug" none =
        (.ok (), ⟨debug, [], some ⟨.standardError, debug⟩, some .standardError⟩, desk) ∧
      targetOf desk none = .ok .standardError ∧ levelOfName "debug" = debug := by
  refine ⟨?_, rfl, rfl⟩
  rfl

end Setup

end TagWeave.Log
