import TagWeave.Proofs.Render.Caching

/-!
# Sessions

In a session templates are rendered one after the other. In between time passes, and
entries are dropped from caches. Caches that are empty at first do not show in what the
renders come to, whatever caches there are, how many retrievers share them, and for how
long they keep contents. Only in the race of several workers they may: a tag whose content
is found in a cache frees its worker earlier, and so the failure of another tag may be the
first one of a pass.
-/

namespace TagWeave

open TagWeave.ViewTag

variable {τ σ : Type}

/-- What may happen in a session: a render without a token, a clock that goes on, or a change to the
cache of a name. -/
inductive Event (τ σ : Type) where
  | render (renderer : Renderer τ σ) (template : String) (bindings : List Value)
  | wait (clock : Clock) (time : τ)
  | delete (cache key : String)
  | clear (cache : String)
  | invalidate (cache : String) (labels : List String)

/-- A render of a session: how many workers it had, the tags of the passes that it began to resolve, and
what it came to. -/
structure Rendered where
  workers : Nat
  passes : List (List ViewTag)
  outcome : Outcome (String × Report)

variable [Add τ] [LE τ] [DecidableLE τ]

/-- What an event comes to, if it is a render, and what it leaves. All renders are with the registry,
and their pools take the given courses. -/
def Event.occur (registry : Registry τ σ) (course : Nat → Bool → Course) (event : Event τ σ)
    (world : World τ σ) : Option Rendered × World τ σ :=
  match event with
  | render renderer template bindings =>
    let renderer := { renderer with registry, course }
    match renderer.compose template bindings false world with
    | (outcome, next) =>
      (some ⟨renderer.maxWorkers, renderer.passesOf template bindings world, outcome⟩, next)
  | wait clock time => (none, { world with scene := world.scene.forward clock time })
  | delete cache key => (none, world.change cache (·.delete key))
  | clear cache => (none, world.change cache (·.clear))
  | invalidate cache labels => (none, world.change cache fun cache => (cache.invalidate labels).2)

namespace Registry

/-- The renders of a session. The pools of the renders take courses one after the other. -/
def session (registry : Registry τ σ) (courses : Nat → Nat → Bool → Course) :
    List (Event τ σ) → World τ σ → List Rendered
  | [], _ => []
  | event :: events, world =>
    match event.occur registry (courses 0) world with
    | (rendered?, world) =>
      rendered?.toList ++ registry.session (fun n => courses (n + 1)) events world

/-- The tags that a session resolves. -/
def tagsInSession (registry : Registry τ σ) (courses : Nat → Nat → Bool → Course)
    (events : List (Event τ σ)) (world : World τ σ) : List ViewTag :=
  (registry.session courses events world).flatMap (·.passes.flatten)

variable {registry : Registry τ σ} {alike : Scene τ σ → Scene τ σ → Prop} {tags : List ViewTag}
variable {w w' : World τ σ}

theorem Caches.change (h : registry.Caches alike tags w w') (name : String)
    {how how' : Cache τ → Cache τ}
    (kept : ∀ cache, cache.Keeps (registry.Worth tags) → (how cache).Keeps (registry.Worth tags)) :
    registry.Caches alike tags (w.change name how) (w'.change name how') := by
  refine ⟨⟨?_, ?_⟩, h.keeps.change name kept⟩
  · rw [World.scene_change, World.scene_change]
    exact h.looks.scene
  · rw [World.memory_change, World.memory_change]
    exact h.looks.memory

/-- Renders of two sessions agree if they come to the same, but for races. -/
def Agreeing (registry : Registry τ σ) (r r' : Rendered) : Prop :=
  Renderer.Agree registry r'.workers r'.passes r.outcome r'.outcome

/-- With one worker there is no race. -/
theorem map_outcome_eq {rs rs' : List Rendered} (agree : List.Forall₂ registry.Agreeing rs rs')
    (alone : ∀ r' ∈ rs', r'.workers = 1) : rs.map (·.outcome) = rs'.map (·.outcome) := by
  induction agree with
  | nil => rfl
  | @cons r r' _ _ first _ ih =>
      obtain ⟨one, others⟩ := List.forall_mem_cons.mp alone
      rw [Agreeing] at first
      rw [List.map_cons, List.map_cons, ih others]
      generalize r.outcome = o at first ⊢
      generalize r'.outcome = o' at first ⊢
      cases first with
      | same => rfl
      | raced several => exact absurd one several

/-- An event comes to the same with caches and without, but for races. -/
theorem occur_uncached (indistinct : Scene.Indistinct alike)
    (determined : registry.Determined alike) (distinct : NoCollision (digestedOf tags))
    {event : Event τ σ} (overlook : ∀ {renderer template bindings},
      event = .render renderer template bindings → renderer.Overlooks alike)
    {course course' : Nat → Bool → Course} (complete : ∀ workers, (course workers false).Complete)
    (complete' : ∀ workers, (course' workers false).Complete) (h : registry.Caches alike tags w w')
    (covered : ∀ rendered ∈ (event.occur registry.uncached course' w').1,
      ∀ tag ∈ rendered.passes.flatten, tag ∈ tags) :
    List.Forall₂ registry.uncached.Agreeing (event.occur registry course w).1.toList
        (event.occur registry.uncached course' w').1.toList ∧
      registry.Caches alike tags (event.occur registry course w).2
        (event.occur registry.uncached course' w').2 := by
  cases event with
  | render renderer template bindings =>
      obtain ⟨agree, after⟩ := Renderer.compose_uncached indistinct determined distinct
        (overlook rfl) complete complete' h (covered _ rfl)
      exact ⟨.cons agree .nil, after⟩
  | wait clock time =>
      exact ⟨.nil, ⟨indistinct.forward h.looks.scene clock time, h.looks.memory⟩, h.keeps⟩
  | delete cache key => exact ⟨.nil, h.change cache fun _ keeps => keeps.delete key⟩
  | clear cache => exact ⟨.nil, h.change cache fun cache _ => cache.keeps_clear⟩
  | invalidate cache labels =>
      exact ⟨.nil, h.change cache fun _ keeps => keeps.invalidate labels⟩

theorem session_uncached (indistinct : Scene.Indistinct alike)
    (determined : registry.Determined alike) (distinct : NoCollision (digestedOf tags))
    {events : List (Event τ σ)} (overlook : ∀ {renderer template bindings},
      .render renderer template bindings ∈ events → renderer.Overlooks alike)
    {courses courses' : Nat → Nat → Bool → Course}
    (complete : ∀ n workers, (courses n workers false).Complete)
    (complete' : ∀ n workers, (courses' n workers false).Complete)
    (h : registry.Caches alike tags w w')
    (covered : ∀ tag ∈ registry.uncached.tagsInSession courses' events w', tag ∈ tags) :
    List.Forall₂ registry.uncached.Agreeing (registry.session courses events w)
      (registry.uncached.session courses' events w') := by
  induction events generalizing w w' courses courses' with
  | nil => exact .nil
  | cons event events ih =>
      rw [tagsInSession, session, List.flatMap_append] at covered
      obtain ⟨now, later⟩ := List.forall_mem_append.mp covered
      obtain ⟨agree, after⟩ := occur_uncached indistinct determined distinct
        (fun same => overlook (by rw [← same]; exact List.mem_cons_self ..)) (complete 0) (complete' 0) h
        fun rendered there tag among =>
          now tag (List.mem_flatMap_of_mem (Option.mem_toList.mpr there) among)
      exact List.rel_append agree (ih (fun among => overlook (List.mem_cons_of_mem _ among))
        (fun n => complete (n + 1)) (fun n => complete' (n + 1)) after later)

/-- If the functions of a registry's retrievers answer by the identity of a tag only, its caches do not
show but in a race. They may be shared in any way and keep contents for any time; they are empty at
first, and only the registry fills them. Then each render of a session comes to the same text and
report, or to the same error, as with the inner retrievers in place of those that keep contents. If
several workers fail, however, each time by a failure among those of one pass, it may be that of another
tag. On either side pools may take any courses. -/
theorem caching_goes_unnoticed (indistinct : Scene.Indistinct alike)
    (determined : registry.Determined alike) {events : List (Event τ σ)}
    (overlook : ∀ {renderer template bindings},
      .render renderer template bindings ∈ events → renderer.Overlooks alike)
    {courses courses' : Nat → Nat → Bool → Course}
    (complete : ∀ n workers, (courses n workers false).Complete)
    (complete' : ∀ n workers, (courses' n workers false).Complete)
    {world : World τ σ} (empty : ∀ cache ∈ world.caches, cache.2.entries = [])
    (distinct : NoCollision (digestedOf (registry.uncached.tagsInSession courses' events world))) :
    List.Forall₂ registry.uncached.Agreeing (registry.session courses events world)
      (registry.uncached.session courses' events world) := by
  have start : registry.Caches alike (registry.uncached.tagsInSession courses' events world) world
      world :=
    ⟨⟨indistinct.equivalence.refl _, rfl⟩, fun cache there => Cache.keeps_of_empty (empty cache there)⟩
  exact session_uncached indistinct determined distinct overlook complete complete' start
    fun _ taken => taken

/-- A registry with one tag, for which two stations are asked in turn. The first one never answers.
What either of them says is kept in the same cache, and a guess stands for it if neither does. -/
def forecast : Registry Nat Nat where
  entries :=
    [("weather", .fallback
      [.caching (.function fun _ scene => (.error (.fault (.noSources "far")), scene)) "said" (some 5),
        .caching (.function fun _ scene =>
          (.ok (.value (.str "rain")), { scene with state := scene.state + 1 })) "said" none]
      (some { text := "sun" }))]

/-- A renderer that interpolates nothing. -/
def bulletin : Renderer Nat Nat where
  registry := forecast
  finder := ⟨["weather"]⟩
  interpolator := .mustache false
  engine? := some fun text _ scene => (.ok text, scene)
  maxPasses := 2
  maxWorkers := 1

/-- The day before anything is said. -/
def dawn : World Nat Nat where
  scene := { sessionTime := 0, systemTime := 0, state := 0 }
  caches := [("said", { lifetime? := some 10 })]

theorem forecast_determined : forecast.Determined fun _ _ => True := by
  intro name retriever found
  obtain ⟨entry, there, rfl⟩ := Option.map_eq_some_iff.mp found
  have among := List.mem_of_find?_eq_some there
  rw [forecast, List.mem_singleton] at among
  rw [among]
  refine .fallback fun source among => ?_
  simp only [List.mem_cons, List.not_mem_nil, or_false] at among
  rcases among with rfl | rfl
  · exact .caching (.function (fun _ _ _ => rfl) fun _ _ => trivial)
  · exact .caching (.function (fun _ _ _ => rfl) fun _ _ => trivial)

theorem bulletin_overlooks : bulletin.Overlooks fun _ _ => True :=
  fun looks _ _ => ⟨rfl, trivial, looks.memory⟩

/-- Three bulletins. The second one finds in the cache what the first one set there, and the third
one has to ask again. -/
def week : List (Event Nat Nat) :=
  [.render bulletin "Today: <weather/>" [], .wait .session 3, .render bulletin "Still <weather/>" [],
    .clear "said", .render bulletin "<weather/>." []]

/-- The courses of workers who begin a task as soon as they are free. -/
def promptly : Nat → Nat → Bool → Course := fun _ => .prompt

theorem indistinct_true : Scene.Indistinct fun _ _ : Scene Nat Nat => True where
  equivalence := ⟨fun _ => trivial, fun _ => trivial, fun _ _ => trivial⟩
  forward _ _ _ := trivial
  delayed _ _ := trivial

theorem forecast_of_week : (forecast.session promptly week dawn).map (·.outcome) =
    [.ok ("Today: rain", ⟨[1], ["weather"], []⟩), .ok ("Still rain", ⟨[1], ["weather"], []⟩),
      .ok ("rain.", ⟨[1], ["weather"], []⟩)] := by
  have overlook : ∀ {renderer template bindings}, .render renderer template bindings ∈ week →
      renderer.Overlooks fun _ _ => True := by
    intro renderer template bindings among
    simp only [week, List.mem_cons, Event.render.injEq, List.not_mem_nil, reduceCtorEq, false_or,
      or_false] at among
    rcases among with ⟨rfl, -⟩ | ⟨rfl, -⟩ | ⟨rfl, -⟩
    · exact bulletin_overlooks
    · exact bulletin_overlooks
    · exact bulletin_overlooks
  have tags : forecast.uncached.tagsInSession promptly week dawn =
      List.replicate 3 { name := "weather", needles := ["<weather/>"] } := rfl
  have distinct : NoCollision (digestedOf (forecast.uncached.tagsInSession promptly week dawn)) := by
    intro m hm m' hm' _
    rw [tags, digestedOf, List.map_replicate] at hm hm'
    rw [List.eq_of_mem_replicate hm, List.eq_of_mem_replicate hm']
  have empty : ∀ cache ∈ dawn.caches, cache.2.entries = [] :=
    List.forall_mem_singleton.mpr rfl
  have complete : ∀ n workers, (promptly n workers false).Complete :=
    fun _ => Course.prompt_complete
  have agree := caching_goes_unnoticed indistinct_true forecast_determined overlook complete complete
    empty distinct
  have alone : ∀ r ∈ forecast.uncached.session promptly week dawn, r.workers = 1 := by
    change ∀ r ∈ [Rendered.mk 1 _ _, ⟨1, _, _⟩, ⟨1, _, _⟩], r.workers = 1
    simp
  rw [map_outcome_eq agree alone]
  rfl

/-- A desk that takes long to answer, and keeps what it has said. -/
def mapDesk : Retriever Nat Nat :=
  .caching (.function fun _ scene =>
    (.ok (.content { text := "north" }), { scene with delay := scene.delay + 2 })) "maps" none

/-- Three ways to ask for a journey. The map is looked up for long, the bus fails after some time, and
the cab at once. -/
def journey : Registry Nat Nat where
  entries :=
    [("map", mapDesk),
      ("bus", .function fun _ scene =>
        (.error (.fault (.noSources "bus")), { scene with delay := scene.delay + 1 })),
      ("cab", .fallback [] none)]

/-- A renderer with two workers. -/
def planner : Renderer Nat Nat :=
  { bulletin with registry := journey, finder := ⟨["map", "bus", "cab"]⟩, maxWorkers := 2 }

/-- The map is asked for, and then all three. -/
def errands : List (Event Nat Nat) :=
  [.render planner "<map/>" [], .render planner "<map/><bus/><cab/>" []]

/-- The day before anything is asked. -/
def daybreak : World Nat Nat where
  scene := { sessionTime := 0, systemTime := 0, state := 0 }
  caches := [("maps", {})]

theorem journey_determined : journey.Determined fun _ _ => True := by
  intro name retriever found
  obtain ⟨entry, there, rfl⟩ := Option.map_eq_some_iff.mp found
  have among := List.mem_of_find?_eq_some there
  simp only [journey, List.mem_cons, List.not_mem_nil, or_false] at among
  rcases among with rfl | rfl | rfl
  · exact .caching (.function (fun _ _ _ => rfl) fun _ _ => trivial)
  · exact .function (fun _ _ _ => rfl) fun _ _ => trivial
  · exact .fallback (by simp)

theorem planner_overlooks : planner.Overlooks fun _ _ => True :=
  fun looks _ _ => ⟨rfl, trivial, looks.memory⟩

/-- A tag that asks for a way to get on. -/
def way (name : String) : ViewTag := { name, needles := ["<" ++ name ++ "/>"] }

/-- What is found in the cache takes no time. -/
theorem journey_hit {w : World Nat Nat} {cache : Cache Nat} {entry : CacheEntry Nat}
    (named : w.cache? "maps" = some cache) (kept : cache.entry? (way "map").cacheKey = some entry)
    (lasting : entry.expiry? = none) :
    ∃ w', World.timed (journey.resolve false (way "map")) w = ((.ok entry.content, 0), w') := by
  have named : (w.withDelay 0).cache? "maps" = some cache := named
  have found : (w.withDelay 0).lookUp "maps" (way "map").cacheKey =
      (some entry.content, (w.withDelay 0).setCache "maps" cache) := by
    rw [World.lookUp, named]
    simp [Cache.get, kept, CacheEntry.expired, lasting]
  have asked : mapDesk.retrieve (way "map") false (w.withDelay 0) = (.ok (.content entry.content),
      ((w.withDelay 0).setCache "maps" cache).note Log.debug .retrieval
        ("cache hit for " ++ (way "map").cacheKey)) := by
    rw [mapDesk, Retriever.retrieve, found]
  have registered : journey.find? (way "map").name = some mapDesk := rfl
  simp only [World.timed, resolve, Scene.check, Bool.false_eq_true, if_false, registered, asked]
  exact ⟨_, rfl⟩

theorem journey_bus (w : World Nat Nat) : ∃ w',
    World.timed (journey.resolve false (way "bus")) w =
      ((.error (.retrieval (way "bus").site (.fault (.noSources "bus"))), 1), w') := ⟨_, rfl⟩

theorem journey_cab (w : World Nat Nat) : ∃ w',
    World.timed (journey.resolve false (way "cab")) w =
      ((.error (.retrieval (way "cab").site (.fault (.noSources "cab"))), 0), w') := ⟨_, rfl⟩

/-- Two workers, of whom the second one takes long to fail. The first one fails at its second task
before. -/
theorem prompt_race (content : Content) (e e' : Error) :
    (Course.prompt 2 false).cancels [⟨0, .ok content, 0⟩] = false ∧
    (Course.prompt 2 false).cancels [⟨0, .ok content, 0⟩, ⟨1, .error e, 1⟩] = false ∧
    Task.gather (List.replicate 3 none) ((Course.prompt 2 false).ended
      [⟨0, .ok content, 0⟩, ⟨1, .error e, 1⟩, ⟨2, .error e', 0⟩]) = .error e' := ⟨rfl, rfl, rfl⟩

/-- The worker who looks for the map is free at once then, and the cab fails first. -/
theorem cab_of_hit {w : World Nat Nat} {cache : Cache Nat} {entry : CacheEntry Nat}
    (named : w.cache? "maps" = some cache) (kept : cache.entry? (way "map").cacheKey = some entry)
    (lasting : entry.expiry? = none) :
    (planner.resolve false [way "map", way "bus", way "cab"] w).1 =
      .error (.retrieval (way "cab").site (.fault (.noSources "cab"))) := by
  obtain ⟨w₁, hit⟩ := journey_hit named kept lasting
  obtain ⟨w₂, bus⟩ := journey_bus w₁
  obtain ⟨w₃, cab⟩ := journey_cab w₂
  have pooled : planner.resolve false [way "map", way "bus", way "cab"] w =
      resolvePooled (fun tag => World.timed (journey.resolve false tag)) (Course.prompt 2 false)
        [way "map", way "bus", way "cab"] w :=
    Renderer.resolve_of_staffed (by decide) (by decide) (Renderer.not_unstaffed (by decide) (by simp))
      false w
  rw [pooled]
  generalize Error.retrieval (way "bus").site (.fault (.noSources "bus")) = e at bus
  generalize Error.retrieval (way "cab").site (.fault (.noSources "cab")) = e' at cab ⊢
  obtain ⟨second, third, first⟩ := prompt_race entry.content e e'
  have begun : runTasks (fun tag => World.timed (journey.resolve false tag))
      (Course.prompt 2 false).cancels [] [way "map", way "bus", way "cab"] w =
        ([⟨0, .ok entry.content, 0⟩, ⟨1, .error e, 1⟩, ⟨2, .error e', 0⟩], w₃) := by
    rw [runTasks, if_neg (by decide), hit]
    simp only [runTasks, List.nil_append, List.length_nil, second, bus, List.cons_append,
      List.length_cons, third, cab, Bool.false_eq_true, if_false, Nat.zero_add]
  simp only [resolvePooled, begun, List.length_cons, List.length_nil, Nat.zero_add]
  rw [first]

theorem errands_surveyed (w : World Nat Nat) :
    (planner.steps [] false).surveyAt ⟨{}, "<map/><bus/><cab/>", w⟩ =
      (.ok ("<map/><bus/><cab/>", [way "map", way "bus", way "cab"]), w) := by
  have unchecked : ∀ place, (planner.steps [] false).check place w = none := fun _ => rfl
  have filled : (planner.steps [] false).interpolate "<map/><bus/><cab/>" w =
    (.ok "<map/><bus/><cab/>", w) := rfl
  have expands : (planner.steps [] false).expands = true := rfl
  have found : (planner.steps [] false).find "<map/><bus/><cab/>" =
    .ok [way "map", way "bus", way "cab"] := rfl
  simp only [Steps.surveyAt, Steps.survey, unchecked, filled, expands, found, if_true]

/-- So when all three are asked for again, the cab's failure is that of the render. -/
theorem cab_of_warm_cache {w : World Nat Nat} {cache : Cache Nat} {entry : CacheEntry Nat}
    (named : w.cache? "maps" = some cache) (kept : cache.entry? (way "map").cacheKey = some entry)
    (lasting : entry.expiry? = none) :
    (planner.compose "<map/><bus/><cab/>" [] false w).1 =
      .error (.retrieval (way "cab").site (.fault (.noSources "cab"))) := by
  have failed : ∀ message, ((planner.steps [] false).resolve [way "map", way "bus", way "cab"]
      ((planner.steps [] false).note message w)).1 =
        .error (.retrieval (way "cab").site (.fault (.noSources "cab"))) := by
    intro message
    have named : (w.note Log.debug .passes message).cache? "maps" = some cache := named
    have resolves : ∀ renderer : Renderer Nat Nat, (renderer.steps [] false).resolve =
      renderer.resolve false := fun _ => rfl
    rw [resolves]
    exact cab_of_hit named kept lasting
  generalize Error.retrieval (way "cab").site (.fault (.noSources "cab")) = e at failed ⊢
  rw [Renderer.compose, Steps.expand]
  change ((planner.steps [] false).expandAt 2 (1 + 1) ⟨{}, "<map/><bus/><cab/>", w⟩).1 = _
  rw [Steps.expandAt_succ (errands_surveyed w) (List.cons_ne_nil _ _)]
  have failed := failed (Steps.passNote (Report.passes {} + 1) [way "map", way "bus", way "cab"])
  generalize (planner.steps [] false).resolve _ _ = a at failed ⊢
  obtain ⟨outcome, after⟩ := a
  obtain rfl : outcome = .error e := failed
  rfl

theorem outcomes_errands (registry : Registry Nat Nat) :
    (registry.session promptly errands daybreak).map (·.outcome) =
      [(({ planner with registry }).compose "<map/>" [] false daybreak).1,
        (({ planner with registry }).compose "<map/><bus/><cab/>" [] false
          (({ planner with registry }).compose "<map/>" [] false daybreak).2).1] := rfl

/-- With a warm cache the failure of the cab is the first one of a pass, without it is that of the
bus. -/
theorem caching_shows_in_a_race :
    (journey.Determined fun _ _ => True) ∧ (planner.Overlooks fun _ _ => True) ∧
    (∀ n workers, (promptly n workers false).Complete) ∧
    (∀ cache ∈ daybreak.caches, cache.2.entries = []) ∧
    NoCollision (digestedOf
      ((journey.uncached.tagsInSession promptly errands daybreak).filter (·.name = "map"))) ∧
    (journey.session promptly errands daybreak).map (·.outcome) ≠
      (journey.uncached.session promptly errands daybreak).map (·.outcome) := by
  refine ⟨journey_determined, planner_overlooks, fun _ => Course.prompt_complete,
    List.forall_mem_singleton.mpr rfl, ?distinct, ?race⟩
  case distinct =>
    have tags : (journey.uncached.tagsInSession promptly errands daybreak).filter (·.name = "map") =
      List.replicate 2 (way "map") := rfl
    intro m hm m' hm' _
    rw [tags, digestedOf, List.map_replicate] at hm hm'
    rw [List.eq_of_mem_replicate hm, List.eq_of_mem_replicate hm']
  case race =>
    let warm := (planner.compose "<map/>" [] false daybreak).2
    let entry : CacheEntry Nat := ⟨{ text := "north" }, none⟩
    have named : warm.cache? "maps" = some { entries := [((way "map").cacheKey, entry)] } := rfl
    have kept : Cache.entry? { entries := [((way "map").cacheKey, entry)] } (way "map").cacheKey =
        some entry := by
      simp [Cache.entry?]
    have cab := cab_of_warm_cache named kept rfl
    obtain ⟨site, bus⟩ : ∃ site, (({ planner with registry := journey.uncached }).compose
        "<map/><bus/><cab/>" [] false
        (({ planner with registry := journey.uncached }).compose "<map/>" [] false daybreak).2).1 =
          .error (.retrieval site (.fault (.noSources "bus"))) := ⟨_, rfl⟩
    have own : ({ planner with registry := journey } : Renderer Nat Nat) = planner := rfl
    rw [outcomes_errands, outcomes_errands, own, bus]
    intro same
    have errors := cab.symm.trans (List.cons.inj (List.cons.inj same).2).1
    have sources := Error.fault.inj (Error.retrieval.inj (Except.error.inj errors)).2
    exact absurd (Fault.noSources.inj sources) (by decide)

end Registry

end TagWeave
