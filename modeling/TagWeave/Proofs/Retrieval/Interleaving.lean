import TagWeave.Proofs.Lasting
import TagWeave.Proofs.Retrieval.Entries

/-!
# Calls that share a cache

Several retrievers keep contents in one cache, and their calls come in between each other:
a call looks its tag up, reads the content if it did not find any, and keeps what it has
read, and other calls may do something at each of these moments. The application changes
what is read, and drops what it has changed from the cache by its label.

What is dropped are the contents that are in the cache. A content that has been read and is
not yet kept stays outside, and comes into the cache afterwards. So whoever calls after a
change has been announced gets what was read after that change, unless a call that had read
before kept what it read after the announcement.
-/

namespace TagWeave.Interleaving

variable {τ σ : Type}

/-- A call of a retriever that keeps contents. -/
structure Call (τ σ : Type) where
  inner : Retriever τ σ
  lifetime? : Option τ := none
  tag : ViewTag
  guarded : Bool := false

/-- How far a call has come. -/
inductive Progress where
  | waiting
  | missed
  | read (content : Content)
  | returned (outcome : Outcome Content)

/-- The world that the calls share, and how far each of them has come. -/
structure State (τ σ : Type) where
  world : World τ σ
  progress : Nat → Progress := fun _ => .waiting

/-- What is done at one moment, with what comes of it: a call looks up its tag and finds it or
not, it reads, and it keeps what it has read. In between the application changes what is read
under a label, drops labels from the cache, or does something else. -/
inductive Act where
  | found (call : Nat) (content : Content)
  | missed (call : Nat)
  | read (call : Nat) (content : Content)
  | failed (call : Nat) (e : Error)
  | kept (call : Nat) (content : Content)
  | updated (label : String)
  | invalidated (labels : List String)
  | waited

/-- The call that does something. -/
def Act.call? : Act → Option Nat
  | .found i _ | .missed i | .read i _ | .failed i _ | .kept i _ => some i
  | .updated _ | .invalidated _ | .waited => none

/-- Notes how far a call has come. -/
def State.advance (s : State τ σ) (i : Nat) (now : Progress) (world : World τ σ) : State τ σ :=
  ⟨world, fun j => if j = i then now else s.progress j⟩

@[simp] theorem State.world_advance (s : State τ σ) (i : Nat) (now : Progress) (world : World τ σ) :
    (s.advance i now world).world = world := rfl

@[simp] theorem State.progress_advance (s : State τ σ) (i : Nat) (now : Progress)
    (world : World τ σ) : (s.advance i now world).progress i = now := if_pos rfl

theorem State.progress_advance_of_ne (s : State τ σ) {i j : Nat} (differs : j ≠ i) (now : Progress)
    (world : World τ σ) : (s.advance i now world).progress j = s.progress j := if_neg differs

variable [Add τ] [LE τ] [DecidableLE τ]

/-- What a call reads, past the cache. -/
def Call.answer (call : Call τ σ) (world : World τ σ) : Outcome Content × World τ σ :=
  match call.inner.retrieve call.tag call.guarded world with
  | (.error e, world) => (.error e, world)
  | (.ok answer, world) =>
    match answer.toContent with
    | .error f => (.error (.fault f), world)
    | .ok content => (.ok content, world)

/-- What a call that nothing comes in between of does. -/
def Call.retrieve (call : Call τ σ) (cache : String) (world : World τ σ) :
    Outcome Answer × World τ σ :=
  (Retriever.caching call.inner cache call.lifetime?).retrieve call.tag call.guarded world

/-- An act leads from one state to the next. The calls share the cache of a name. -/
inductive Performs (calls : Nat → Call τ σ) (cache : String) : State τ σ → Act → State τ σ → Prop
  | found {s : State τ σ} {i : Nat} {content : Content} {world : World τ σ}
      (waiting : s.progress i = .waiting)
      (looked : s.world.lookUp cache (calls i).tag.cacheKey = (some content, world)) :
      Performs calls cache s (.found i content)
        (s.advance i (.returned (.ok content))
          (world.note Log.debug .retrieval ("cache hit for " ++ (calls i).tag.cacheKey)))
  | missed {s : State τ σ} {i : Nat} {world : World τ σ} (waiting : s.progress i = .waiting)
      (looked : s.world.lookUp cache (calls i).tag.cacheKey = (none, world)) :
      Performs calls cache s (.missed i) (s.advance i .missed world)
  | read {s : State τ σ} {i : Nat} {content : Content} {world : World τ σ}
      (missed : s.progress i = .missed) (answered : (calls i).answer s.world = (.ok content, world)) :
      Performs calls cache s (.read i content) (s.advance i (.read content) world)
  | failed {s : State τ σ} {i : Nat} {e : Error} {world : World τ σ}
      (missed : s.progress i = .missed) (answered : (calls i).answer s.world = (.error e, world)) :
      Performs calls cache s (.failed i e) (s.advance i (.returned (.error e)) world)
  | kept {s : State τ σ} {i : Nat} {content : Content} (read : s.progress i = .read content) :
      Performs calls cache s (.kept i content)
        (s.advance i (.returned (.ok content))
          (s.world.keep cache (calls i).tag.cacheKey content (calls i).lifetime?))
  | updated (s : State τ σ) (label : String) (change : Scene τ σ → Scene τ σ) :
      Performs calls cache s (.updated label)
        { s with world := { s.world with scene := change s.world.scene } }
  | invalidated (s : State τ σ) (labels : List String) :
      Performs calls cache s (.invalidated labels)
        { s with world := s.world.change cache fun c => (c.invalidate labels).2 }
  | waited (s : State τ σ) (change : Scene τ σ → Scene τ σ) :
      Performs calls cache s .waited
        { s with world := { s.world with scene := change s.world.scene } }

/-- Acts that lead from one state to another, the latest one last. -/
inductive Run (calls : Nat → Call τ σ) (cache : String) (start : State τ σ) :
    List Act → State τ σ → Prop
  | nil : Run calls cache start [] start
  | concat {acts : List Act} {s s' : State τ σ} {act : Act} (earlier : Run calls cache start acts s)
      (last : Performs calls cache s act s') : Run calls cache start (acts ++ [act]) s'

variable {calls : Nat → Call τ σ} {cache : String} {start s s' : State τ σ} {acts : List Act}

/-- What a run has come to before one of its acts. -/
theorem Run.divide {earlier later : List Act} {act : Act}
    (run : Run calls cache start (earlier ++ act :: later) s) :
    ∃ mid next, Run calls cache start earlier mid ∧ Performs calls cache mid act next := by
  generalize whole : earlier ++ act :: later = acts at run
  induction run generalizing later with
  | nil => simp at whole
  | @concat acts mid next last before performs ih =>
      rcases List.eq_nil_or_concat later with rfl | ⟨later, final, rfl⟩
      · obtain ⟨rfl, same⟩ := List.append_inj' whole rfl
        obtain rfl := List.singleton_inj.mp same
        exact ⟨mid, next, before, performs⟩
      · rw [List.concat_eq_append, ← List.cons_append, ← List.append_assoc] at whole
        exact ih (List.append_inj' whole rfl).1

/-- A call that has not read yet. -/
def State.Unread (s : State τ σ) (i : Nat) : Prop :=
  s.progress i = .waiting ∨ s.progress i = .missed

/-- A call that has not read after an act had not read before it, and does not do so. -/
theorem Performs.unread {act : Act} (performs : Performs calls cache s act s') {i : Nat}
    (unread : s'.Unread i) : s.Unread i ∧ ∀ content, act ≠ .read i content := by
  cases performs with
  | @found j content world waiting looked =>
      refine ⟨?_, nofun⟩
      by_cases same : i = j
      · exact .inl (same ▸ waiting)
      · rwa [State.Unread, s.progress_advance_of_ne same] at unread
  | @missed j world waiting looked =>
      refine ⟨?_, nofun⟩
      by_cases same : i = j
      · exact .inl (same ▸ waiting)
      · rwa [State.Unread, s.progress_advance_of_ne same] at unread
  | @read j content world missed answered =>
      by_cases same : i = j
      · subst same
        simp [State.Unread] at unread
      · rw [State.Unread, s.progress_advance_of_ne same] at unread
        exact ⟨unread, fun _ h => same (Act.read.inj h).1.symm⟩
  | @failed j e world missed answered =>
      refine ⟨?_, nofun⟩
      by_cases same : i = j
      · exact .inr (same ▸ missed)
      · rwa [State.Unread, s.progress_advance_of_ne same] at unread
  | @kept j content read =>
      refine ⟨?_, nofun⟩
      by_cases same : i = j
      · subst same
        simp [State.Unread] at unread
      · rwa [State.Unread, s.progress_advance_of_ne same] at unread
  | updated => exact ⟨unread, nofun⟩
  | invalidated => exact ⟨unread, nofun⟩
  | waited => exact ⟨unread, nofun⟩

theorem Run.unread (run : Run calls cache start acts s) {i : Nat} (unread : s.Unread i)
    (content : Content) : .read i content ∉ acts := by
  induction run with
  | nil => exact List.not_mem_nil
  | concat earlier last ih =>
      obtain ⟨before, other⟩ := last.unread unread
      rw [List.mem_append, List.mem_singleton]
      rintro (early | late)
      · exact ih before early
      · exact other content late.symm

/-- A call reads once. -/
theorem Run.reads_once {earlier later : List Act} {i : Nat} {content : Content}
    (run : Run calls cache start (earlier ++ .read i content :: later) s) (other : Content) :
    .read i other ∉ earlier := by
  obtain ⟨mid, next, before, reads⟩ := run.divide
  cases reads with
  | read missed answered => exact before.unread (.inr missed) other

/-! ### Calls that nothing comes in between of -/

theorem retrieve_eq (call : Call τ σ) (cache : String) (world : World τ σ) :
    call.retrieve cache world =
      match world.lookUp cache call.tag.cacheKey with
      | (some content, world) => (.ok (.content content),
          world.note Log.debug .retrieval ("cache hit for " ++ call.tag.cacheKey))
      | (none, world) =>
        match call.answer world with
        | (.error e, world) => (.error e, world)
        | (.ok content, world) => (.ok (.content content),
            world.keep cache call.tag.cacheKey content call.lifetime?) := by
  rw [Call.retrieve, Retriever.retrieve]
  obtain ⟨content | content, between⟩ := world.lookUp cache call.tag.cacheKey
  · simp only [Call.answer]
    obtain ⟨e | answer, next⟩ := call.inner.retrieve call.tag call.guarded between
    · rfl
    · simp only
      cases answer.toContent with
      | error f => rfl
      | ok content => rfl
  · rfl

/-- The acts of a call that nothing comes in between of are a retrieval. -/
theorem exists_run_of_retrieve {i : Nat} (waiting : s.progress i = .waiting) :
    ∃ acts s' outcome, Run calls cache s acts s' ∧ (∀ act ∈ acts, act.call? = some i) ∧
      s'.progress i = .returned outcome ∧
      (calls i).retrieve cache s.world = (outcome.map .content, s'.world) := by
  rw [retrieve_eq]
  cases looked : s.world.lookUp cache (calls i).tag.cacheKey with
  | mk content? world =>
      cases content? with
      | some content =>
          exact ⟨_, _, _, .concat .nil (.found waiting looked), by simp [Act.call?],
            s.progress_advance .., rfl⟩
      | none =>
          have missed : Run calls cache s [.missed i] _ := .concat .nil (.missed waiting looked)
          have asking := s.progress_advance i .missed world
          cases answered : (calls i).answer world with
          | mk outcome next =>
              cases outcome with
              | error e =>
                  refine ⟨_, _, _, .concat missed (.failed asking answered), by simp [Act.call?],
                    State.progress_advance .., ?_⟩
                  simp only [answered]
                  rfl
              | ok content =>
                  have read := Run.concat missed (.read asking answered)
                  refine ⟨_, _, _, .concat read (.kept (State.progress_advance ..)),
                    by simp [Act.call?], State.progress_advance .., ?_⟩
                  simp only [answered]
                  rfl

/-! ### What the shared cache holds -/

/-- Whether an act puts an end to content under a key: another one is kept there, or one of its
labels is dropped. -/
def Act.Ends (calls : Nat → Call τ σ) (key : String) (content : Content) : Act → Prop
  | .kept i _ => (calls i).tag.cacheKey = key
  | .invalidated labels => ∃ label ∈ content.labels, label ∈ labels
  | _ => False

/-- What an entry of the cache comes from: it has been there from the beginning, or a call has
kept it, and nothing has put an end to it. -/
def Origin (calls : Nat → Call τ σ) (acts : List Act) (key : String) (content : Content) : Prop :=
  (∀ act ∈ acts, ¬ act.Ends calls key content) ∨
    ∃ i, (calls i).tag.cacheKey = key ∧
      Lasting (Act.Ends calls key content) acts (.kept i content)

omit [Add τ] [LE τ] [DecidableLE τ] in
/-- What an act does not put an end to has the origin that it had. -/
theorem Origin.concat {key : String} {content : Content} (origin : Origin calls acts key content)
    {act : Act} (unended : ¬ act.Ends calls key content) :
    Origin calls (acts ++ [act]) key content := by
  rcases origin with always | ⟨i, own, lasting⟩
  · left
    exact List.forall_mem_append.mpr ⟨always, List.forall_mem_singleton.mpr unended⟩
  · exact .inr ⟨i, own, lasting_concat.mpr (.inr ⟨lasting, unended⟩)⟩

/-- How the state fits the acts that have led to it. -/
structure Fits (calls : Nat → Call τ σ) (cache : String) (acts : List Act) (s : State τ σ) :
    Prop where
  keyed : ((s.world.entriesIn cache).map (·.1)).Nodup
  origin : ∀ e ∈ s.world.entriesIn cache, Origin calls acts e.1 e.2.content
  reading : ∀ i content, s.progress i = .read content → .read i content ∈ acts
  kept : ∀ i content, .kept i content ∈ acts → .read i content ∈ acts

omit [Add τ] [LE τ] [DecidableLE τ] in
theorem fits_nil (keyed : ((start.world.entriesIn cache).map (·.1)).Nodup)
    (waiting : ∀ i, start.progress i = .waiting) : Fits calls cache [] start where
  keyed := keyed
  origin := fun _ _ => .inl (by simp)
  reading := by
    intro i content reading
    rw [waiting i] at reading
    cases reading
  kept := by simp

omit [Add τ] [LE τ] [DecidableLE τ] in
/-- A call that goes on has read something only if it has just done so. -/
theorem Fits.reading_advance (fits : Fits calls cache acts s) {i : Nat} {now : Progress} {act : Act}
    (just : ∀ content, now = .read content → act = .read i content) (world : World τ σ) :
    ∀ j content, (s.advance i now world).progress j = .read content →
      .read j content ∈ acts ++ [act] := by
  intro j content reading
  by_cases same : j = i
  · subst same
    rw [State.progress_advance] at reading
    rw [just content reading]
    exact List.mem_append_right _ (List.mem_singleton_self _)
  · rw [State.progress_advance_of_ne s same] at reading
    exact List.mem_append_left _ (fits.reading j content reading)

omit [Add τ] [LE τ] [DecidableLE τ] in
/-- An act that keeps nothing leaves a state that fits if it leaves only entries that it does not
put an end to. -/
theorem Fits.leave (fits : Fits calls cache acts s) {act : Act}
    (entries : (s'.world.entriesIn cache).Sublist (s.world.entriesIn cache))
    (unended : ∀ e ∈ s'.world.entriesIn cache, ¬ act.Ends calls e.1 e.2.content)
    (reading : ∀ i content, s'.progress i = .read content → .read i content ∈ acts ++ [act])
    (keeps : ∀ i content, act ≠ .kept i content) : Fits calls cache (acts ++ [act]) s' where
  keyed := fits.keyed.sublist (entries.map _)
  origin := fun e left => (fits.origin e (entries.subset left)).concat (unended e left)
  reading := reading
  kept := by
    intro i content there
    rcases List.mem_append.mp there with there | here
    · exact List.mem_append_left _ (fits.kept i content there)
    · exact absurd (List.mem_singleton.mp here).symm (keeps i content)

theorem Call.entriesIn_answer {call : Call τ σ} (uses : call.inner.Uses (· ≠ cache))
    (world : World τ σ) : (call.answer world).2.entriesIn cache = world.entriesIn cache := by
  have asked := uses.entriesIn_retrieve call.tag call.guarded world
  rw [answer]
  generalize call.inner.retrieve call.tag call.guarded world = answered at asked
  obtain ⟨e | answer, next⟩ := answered
  · exact asked
  · simp only
    split
    · exact asked
    · exact asked

/-- Each act leaves a state that fits. -/
theorem Fits.performs (uses : ∀ i, (calls i).inner.Uses (· ≠ cache))
    (fits : Fits calls cache acts s) {act : Act} (performs : Performs calls cache s act s') :
    Fits calls cache (acts ++ [act]) s' := by
  cases performs with
  | @found i content world waiting looked =>
      have left := s.world.entriesIn_lookUp cache (calls i).tag.cacheKey
      rw [looked] at left
      exact fits.leave left (fun _ _ => id) (fits.reading_advance (by simp) _) nofun
  | @missed i world waiting looked =>
      have left := s.world.entriesIn_lookUp cache (calls i).tag.cacheKey
      rw [looked] at left
      exact fits.leave left (fun _ _ => id) (fits.reading_advance (by simp) _) nofun
  | @read i content world missed answered =>
      have left := (calls i).entriesIn_answer (uses i) s.world
      rw [answered] at left
      refine fits.leave (left ▸ List.Sublist.refl _) (fun _ _ => id)
        (fits.reading_advance ?_ _) nofun
      rintro _ ⟨⟩
      rfl
  | @failed i e world missed answered =>
      have left := (calls i).entriesIn_answer (uses i) s.world
      rw [answered] at left
      exact fits.leave (left ▸ List.Sublist.refl _) (fun _ _ => id)
        (fits.reading_advance (by simp) _) nofun
  | @kept i content read =>
      have own := fits.reading i content read
      refine ⟨World.nodup_entriesIn_keep fits.keyed, ?_, fits.reading_advance (by simp) _, ?_⟩
      · intro e among
        rcases World.mem_entriesIn_keep fits.keyed among with ⟨key, same⟩ | ⟨among, differs⟩
        · rw [same, key]
          exact .inr ⟨i, rfl, lasting_concat.mpr (.inl rfl)⟩
        · exact (fits.origin e among).concat (Ne.symm differs)
      · intro j content' there
        rcases List.mem_append.mp there with there | here
        · exact List.mem_append_left _ (fits.kept j content' there)
        · obtain ⟨rfl, rfl⟩ := Act.kept.inj (List.mem_singleton.mp here)
          exact List.mem_append_left _ own
  | updated label change =>
      exact fits.leave (.refl _) (fun _ _ => id)
        (fun i content reading => List.mem_append_left _ (fits.reading i content reading)) nofun
  | invalidated labels =>
      have left := s.world.entriesIn_invalidate cache labels
      refine fits.leave (left ▸ List.filter_sublist) ?_
        (fun i content reading => List.mem_append_left _ (fits.reading i content reading)) nofun
      intro e among
      rw [left] at among
      exact Cache.labelled_eq_false_iff.mp (List.mem_filter.mp among).2
  | waited change =>
      exact fits.leave (.refl _) (fun _ _ => id)
        (fun i content reading => List.mem_append_left _ (fits.reading i content reading)) nofun

/-- So does a run. -/
theorem Run.fits (run : Run calls cache start acts s)
    (uses : ∀ i, (calls i).inner.Uses (· ≠ cache))
    (keyed : ((start.world.entriesIn cache).map (·.1)).Nodup)
    (waiting : ∀ i, start.progress i = .waiting) : Fits calls cache acts s := by
  induction run with
  | nil => exact fits_nil keyed waiting
  | concat _ last ih => exact ih.performs uses last

/-! ### Readers of a front page -/

def front : ViewTag := { name := "front", needles := ["<front/>"] }

/-- Calls that read the front page, which is in the scene's state. -/
def readers : Nat → Call Nat Content := fun _ =>
  { inner := .function fun _ scene => (.ok (.content scene.state), scene), tag := front }

/-- The front page, and what the cache holds under a key. -/
def stand (page : Content) (key : String) (held? : Option Content) : World Nat Content where
  scene := { sessionTime := 0, systemTime := 0, state := page }
  caches := [("shared", { entries := held?.toList.map fun content => (key, ⟨content, none⟩) })]

section Stand

variable {page content : Content} {key : String} {held? : Option Content}

theorem lookUp_stand :
    (stand page key held?).lookUp "shared" key = (held?, stand page key held?) := by
  cases held? with
  | none => simp [World.lookUp, World.cache?, World.setCache, Cache.get, Cache.entry?, stand]
  | some content =>
      simp [World.lookUp, World.cache?, World.setCache, Cache.get, Cache.entry?, CacheEntry.expired,
        stand]

theorem keep_stand :
    (stand page key held?).keep "shared" key content none = stand page key (some content) := by
  cases held? with
  | none =>
      simp [World.keep, World.cache?, World.setCache, Cache.set, Cache.purge, Cache.put,
        Cache.expiryAt, stand]
  | some content =>
      simp [World.keep, World.cache?, World.setCache, Cache.set, Cache.purge, Cache.put,
        Cache.expiryAt, CacheEntry.expired, stand]

theorem change_stand {label : String} (labelled : ∀ content ∈ held?, label ∈ content.labels) :
    ((stand page key held?).change "shared" fun c => (c.invalidate [label]).2) =
      stand page key none := by
  cases held? with
  | none => simp [World.change, World.cache?, World.setCache, Cache.invalidate, stand]
  | some content =>
      simp [World.change, World.cache?, World.setCache, Cache.invalidate, Cache.labelled, stand,
        labelled content rfl]

end Stand

section Readers

variable {s : State Nat Content} {page content : Content} {held? : Option Content} {i : Nat}

theorem readers_find (here : s.world = stand page front.cacheKey (some content))
    (waiting : s.progress i = .waiting) :
    Performs readers "shared" s (.found i content)
      (s.advance i (.returned (.ok content))
        ((stand page front.cacheKey (some content)).note Log.debug .retrieval
          ("cache hit for " ++ front.cacheKey))) := by
  refine .found waiting ?_
  rw [here]
  exact lookUp_stand

theorem readers_miss (here : s.world = stand page front.cacheKey none)
    (waiting : s.progress i = .waiting) :
    Performs readers "shared" s (.missed i)
      (s.advance i .missed (stand page front.cacheKey none)) := by
  refine .missed waiting ?_
  rw [here]
  exact lookUp_stand

theorem readers_read (here : s.world = stand page front.cacheKey held?)
    (missed : s.progress i = .missed) :
    Performs readers "shared" s (.read i page)
      (s.advance i (.read page) (stand page front.cacheKey held?)) := by
  refine .read missed ?_
  rw [here]
  rfl

theorem readers_keep (here : s.world = stand page front.cacheKey held?)
    (read : s.progress i = .read content) :
    Performs readers "shared" s (.kept i content)
      (s.advance i (.returned (.ok content)) (stand page front.cacheKey (some content))) := by
  have held : s.world.keep "shared" front.cacheKey content none =
      stand page front.cacheKey (some content) := by
    rw [here]
    exact keep_stand
  rw [← held]
  exact .kept read

/-- The front page is replaced, and its label is dropped. -/
theorem readers_replace {calls : Nat → Call Nat Content} {start : State Nat Content}
    {acts : List Act} (run : Run calls "shared" start acts s) (here : s.world = stand page front.cacheKey held?)
    (labelled : ∀ content ∈ held?, "front" ∈ content.labels) (next : Content) :
    Run calls "shared" start (acts ++ [.updated "front"] ++ [.invalidated ["front"]])
      { s with world := stand next front.cacheKey none } := by
  have updated := run.concat (.updated _ "front" fun scene => { scene with state := next })
  have dropped := updated.concat (.invalidated _ ["front"])
  rw [here] at dropped
  rw [← change_stand labelled]
  exact dropped

end Readers

def morning : Content := { text := "Rain", labels := ["front"] }

def evening : Content := { text := "Sun", labels := ["front"] }

/-- The readers before the first one comes. -/
def dawn : State Nat Content := { world := stand morning front.cacheKey none }

/-! ### What calls return after a change has been announced -/

/-- The call whose reading a call returns: its own, or that of the call which kept what it found. -/
inductive Supplies (calls : Nat → Call τ σ) (acts : List Act) (caller : Nat) (content : Content) :
    Nat → Prop
  | own (kept : .kept caller content ∈ acts) : Supplies calls acts caller content caller
  | found {earlier later : List Act} {reader : Nat}
      (split : acts = earlier ++ .found caller content :: later)
      (key : (calls reader).tag.cacheKey = (calls caller).tag.cacheKey)
      (lasting : Lasting (Act.Ends calls (calls caller).tag.cacheKey content) earlier
        (.kept reader content)) : Supplies calls acts caller content reader

/-- Something that is not among the first parts of a list is among the rest. -/
theorem exists_of_append_eq {α : Type} {first rest earlier later : List α} {a : α}
    (h : first ++ rest = earlier ++ a :: later) (absent : a ∉ first) :
    ∃ between, earlier = first ++ between ∧ rest = between ++ a :: later := by
  rcases List.append_eq_append_iff.mp h with split | ⟨between, left, right⟩
  · exact split
  · cases between with
    | nil => exact ⟨[], by simpa using left.symm, right.symm⟩
    | cons b between =>
        obtain ⟨rfl, -⟩ := List.cons.inj right
        rw [left] at absent
        exact absurd (List.mem_append_right _ (List.mem_cons_self ..)) absent

/-- A call that finds content with a dropped label finds what another call has kept. -/
theorem Run.exists_supplies (run : Run calls cache start acts s)
    (uses : ∀ i, (calls i).inner.Uses (· ≠ cache))
    (keyed : ((start.world.entriesIn cache).map (·.1)).Nodup)
    (waiting : ∀ i, start.progress i = .waiting) {earlier later : List Act} {caller : Nat}
    {content : Content} (split : acts = earlier ++ .found caller content :: later)
    {labels : List String} (dropped : .invalidated labels ∈ earlier) {label : String}
    (within : label ∈ labels) (labelled : label ∈ content.labels) :
    ∃ reader, Supplies calls acts caller content reader := by
  rw [split] at run
  obtain ⟨mid, next, before, finds⟩ := run.divide
  cases finds with
  | @found _ _ world waits looked =>
      obtain ⟨entry, among, same⟩ := World.exists_entry_of_lookUp (congrArg Prod.fst looked)
      have origin := (before.fits uses keyed waiting).origin _ among
      rw [same] at origin
      rcases origin with always | ⟨reader, key, lasting⟩
      · exact absurd ⟨label, labelled, within⟩ (always _ dropped)
      · exact ⟨reader, .found split key lasting⟩

/-- Calls share a cache, in which each key occurs once. The application has changed what is read
under a label, and has dropped the label from the cache. A call that begins after that and returns
content with the label returns what some call has read since the change; or else what a call had
read before the change, and has kept after the label was dropped. -/
theorem returns_reading_since_update (uses : ∀ i, (calls i).inner.Uses (· ≠ cache))
    (keyed : ((start.world.entriesIn cache).map (·.1)).Nodup)
    (waiting : ∀ i, start.progress i = .waiting) {before between after : List Act}
    {label : String} {labels : List String} (within : label ∈ labels)
    (run : Run calls cache start
      (before ++ .updated label :: (between ++ .invalidated labels :: after)) s)
    {caller : Nat} {content : Content} (labelled : label ∈ content.labels)
    (begins : ∀ act ∈ before ++ between, act.call? ≠ some caller)
    (returns : .found caller content ∈ after ∨ .kept caller content ∈ after) :
    let acts := before ++ .updated label :: (between ++ .invalidated labels :: after)
    (∃ reader, Supplies calls acts caller content reader) ∧
      ∀ reader, Supplies calls acts caller content reader →
        (.read reader content ∈ between ++ after ∧ ∀ other, .read reader other ∉ before) ∨
          (.read reader content ∈ before ∧ .kept reader content ∈ after) := by
  intro acts
  have fits := run.fits uses keyed waiting
  let first := before ++ .updated label :: (between ++ [.invalidated labels])
  have whole : acts = first ++ after := by simp [acts, first]
  have absent : ∀ act ∈ first, act.call? ≠ some caller := by
    intro act hact
    simp only [first, List.mem_append, List.mem_cons, List.not_mem_nil, or_false] at hact
    rcases hact with there | rfl | there | rfl
    · exact begins act (List.mem_append_left _ there)
    · exact nofun
    · exact begins act (List.mem_append_right _ there)
    · exact nofun
  have dropped : .invalidated labels ∈ first := by simp [first]
  -- whoever has read did so either before the change or since
  have placed : ∀ reader, .kept reader content ∈ acts → .read reader content ∈ before ∨
      (.read reader content ∈ between ++ after ∧ ∀ other, .read reader other ∉ before) := by
    intro reader kept
    have read := fits.kept reader content kept
    simp only [List.mem_append, List.mem_cons, reduceCtorEq, false_or] at read
    refine read.imp_right fun late => ⟨List.mem_append.mpr late, fun other early => ?_⟩
    have among : .read reader content ∈ between ++ .invalidated labels :: after := by
      simpa using late
    obtain ⟨earlier, later, split⟩ := List.append_of_mem among
    rw [split, ← List.cons_append, ← List.append_assoc] at run
    exact run.reads_once other (List.mem_append_left _ early)
  refine ⟨?_, ?_⟩
  · rcases returns with found | kept
    · obtain ⟨earlier, later, split⟩ := List.append_of_mem found
      rw [split, ← List.append_assoc] at whole
      exact run.exists_supplies uses keyed waiting whole (List.mem_append_left _ dropped) within
        labelled
    · exact ⟨caller, .own (whole ▸ List.mem_append_right _ kept)⟩
  · intro reader supplies
    cases supplies with
    | own kept =>
        refine .inl ((placed caller kept).resolve_left fun early => ?_)
        exact begins _ (List.mem_append_left _ early) rfl
    | @found earlier later _ split key lasting =>
        obtain ⟨rest, rfl, behind⟩ :=
          exists_of_append_eq (whole.symm.trans split) fun among => absent _ among rfl
        have again : first ++ rest =
            (before ++ .updated label :: between) ++ .invalidated labels :: rest := by simp [first]
        rw [again] at lasting
        have kept : .kept reader content ∈ after := by
          have late := (lasting.since ⟨label, labelled, within⟩ nofun).mem
          rw [behind]
          exact List.mem_append_left _ late
        exact (placed reader (whole ▸ List.mem_append_right _ kept)).elim
          (fun early => .inr ⟨early, kept⟩) .inl

/-- A front page that was kept is dropped when it is replaced. The reader who comes after that
reads the next one, and so the last reader gets that one. -/
theorem evening_found_since_update :
    let before := [.missed 0, .read 0 morning, .kept 0 morning]
    let after := [.missed 1, .read 1 evening, .kept 1 evening, .found 2 evening]
    let acts := before ++ .updated "front" :: ([] ++ .invalidated ["front"] :: after)
    (∃ s, Run readers "shared" dawn acts s) ∧
      ∃ reader, Supplies readers acts 2 evening reader ∧ .read reader evening ∈ after ∧
        ∀ other, .read reader other ∉ before := by
  intro before after acts
  have missed : Run readers "shared" dawn [.missed 0] _ := Run.nil.concat (readers_miss rfl rfl)
  have read := missed.concat (readers_read rfl (i := 0) rfl)
  have kept := read.concat (readers_keep rfl (i := 0) rfl)
  have replaced := readers_replace kept rfl (by simp [morning]) evening
  have again := replaced.concat (readers_miss (i := 1) rfl rfl)
  have reread := again.concat (readers_read rfl (i := 1) rfl)
  have rekept := reread.concat (readers_keep rfl (i := 1) rfl)
  have run : Run readers "shared" dawn acts _ := rekept.concat (readers_find rfl (i := 2) rfl)
  have keyed : ((dawn.world.entriesIn "shared").map (·.1)).Nodup := by
    simp [dawn, stand, World.entriesIn, World.cache?]
  have labelled : "front" ∈ evening.labels := List.mem_singleton_self _
  have begins : ∀ act ∈ before ++ [], act.call? ≠ some 2 := by simp [before, Act.call?]
  have returns : .found 2 evening ∈ after := by simp [after]
  obtain ⟨⟨reader, supplies⟩, since⟩ := returns_reading_since_update (fun _ => .function _) keyed
    (fun _ => rfl) (List.mem_singleton_self _) run labelled begins (.inl returns)
  refine ⟨⟨_, run⟩, reader, supplies, (since reader supplies).resolve_right ?_⟩
  rintro ⟨early, -⟩
  simp [before, evening, morning] at early

/-- The first reader has read the front page of the morning before it is replaced, and keeps it
after it has been dropped. The second one comes after that, and gets it. -/
theorem morning_found_since_update :
    let before := [.missed 0, .read 0 morning]
    let after := [.kept 0 morning, .found 1 morning]
    let acts := before ++ .updated "front" :: ([] ++ .invalidated ["front"] :: after)
    (∃ s, Run readers "shared" dawn acts s) ∧ "front" ∈ morning.labels ∧
      (∀ act ∈ before, act.call? ≠ some 1) ∧ .found 1 morning ∈ after ∧
      ∃ reader, Supplies readers acts 1 morning reader ∧ .read reader morning ∈ before ∧
        .read reader morning ∉ after := by
  intro before after acts
  have missed : Run readers "shared" dawn [.missed 0] _ := Run.nil.concat (readers_miss rfl rfl)
  have read := missed.concat (readers_read rfl (i := 0) rfl)
  have replaced := readers_replace read rfl (by simp) evening
  have kept := replaced.concat (readers_keep rfl (i := 0) rfl)
  have run : Run readers "shared" dawn acts _ := kept.concat (readers_find rfl (i := 1) rfl)
  have lasting : Lasting (Act.Ends readers (readers 1).tag.cacheKey morning)
      (before ++ [.updated "front", .invalidated ["front"]] ++ [.kept 0 morning]) (.kept 0 morning) :=
    lasting_concat.mpr (.inl rfl)
  exact ⟨⟨_, run⟩, List.mem_singleton_self _, by simp [before, Act.call?], by simp [after], 0,
    .found rfl rfl lasting, by simp [before], by simp [after]⟩

end TagWeave.Interleaving
