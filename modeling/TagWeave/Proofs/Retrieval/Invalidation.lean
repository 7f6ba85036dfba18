import TagWeave.Proofs.Retrieval.History

/-!
# What invalidation counts

Labels remove the entries that bear them, and those that have expired are counted with the
others as long as they are in place. Which ones these are is told by the history, too: an
expired entry stays until its key is set or looked up, any key is set, or entries are counted.
So the count is that of the keys which a lookup no longer finds, and on top of that of the
expired entries that nothing happened to remove before.
-/

namespace TagWeave.Cache

variable {τ : Type}

/-- Whether an operation removes what has expired under a key. -/
def Operation.Sweeps (key : String) : Operation τ → Prop
  | .set _ _ _ | .size => True
  | .get other => other = key
  | .delete _ | .clear | .invalidate _ => False

/-- The latest setting of a key is in place: nothing has put an end to it, and nothing has removed
it since it expired. -/
def Remains [Add τ] [LE τ] (default? : Option τ) (history : History τ) (key : String)
    (content : Content) (since : τ) (lifetime? : Option τ) : Prop :=
  Lasting (fun step => step.2.Ends key content ∨
      (step.2.Sweeps key ∧ ∃ expiry ∈ expiryOf default? since lifetime?, expiry ≤ step.1))
    history (since, .set key content lifetime?)

/-- What remains after one more operation: what it sets, and what remained before if it neither puts
an end to that nor removes it. -/
theorem remains_concat [Add τ] [LE τ] {default? : Option τ} {history : History τ} {time : τ}
    {operation : Operation τ} {key : String} {content : Content} {since : τ} {lifetime? : Option τ} :
    Remains default? (history ++ [(time, operation)]) key content since lifetime? ↔
      (time = since ∧ operation = .set key content lifetime?) ∨
        (Remains default? history key content since lifetime? ∧
          ¬ (operation.Ends key content ∨
            (operation.Sweeps key ∧ ∃ expiry ∈ expiryOf default? since lifetime?, expiry ≤ time))) := by
  rw [Remains, lasting_concat, Prod.mk.injEq]
  rfl

/-- The keys under which an entry that has expired is in place and bears one of some labels. -/
def staleKeys [Add τ] [LE τ] (default? : Option τ) (history : History τ) (now : τ)
    (labels : List String) : Set String :=
  {key | ∃ content since lifetime?, Remains default? history key content since lifetime? ∧
    (∃ expiry ∈ expiryOf default? since lifetime?, expiry ≤ now) ∧
    ∃ label ∈ content.labels, label ∈ labels}

section Entries

variable {entries : List (String × CacheEntry τ)} {key : String} {entry other : CacheEntry τ}

theorem entry_eq_of_mem (keyed : (entries.map (·.1)).Nodup) (among : (key, entry) ∈ entries)
    (there : (key, other) ∈ entries) : entry = other :=
  congrArg Prod.snd (List.inj_on_of_nodup_map keyed among there rfl)

/-- Entries that pass a test either pass another one as well or do not. -/
theorem length_filter_split (passes also : String × CacheEntry τ → Bool) :
    (entries.filter passes).length = (entries.filter fun e => passes e && also e).length +
      (entries.filter fun e => passes e && !also e).length := by
  simp only [← List.countP_eq_length_filter]
  rw [List.countP_eq_countP_filter_add entries passes also, List.countP_filter, List.countP_filter]

/-- Entries that pass a test are counted by their keys. -/
theorem length_filter_eq_encard (keyed : (entries.map (·.1)).Nodup)
    (passes : String × CacheEntry τ → Bool) :
    ((entries.filter passes).length : ℕ∞) =
      {key | ∃ entry, (key, entry) ∈ entries ∧ passes (key, entry)}.encard := by
  have names : {key | ∃ entry, (key, entry) ∈ entries ∧ passes (key, entry)} =
      {key | key ∈ (entries.filter passes).map (·.1)} := by
    ext key
    simp
  have distinct : ((entries.filter passes).map (·.1)).Nodup :=
    keyed.sublist (List.filter_sublist.map _)
  rw [names, ← List.coe_toFinset, Set.encard_coe_eq_coe_finsetCard,
    List.toFinset_card_of_nodup distinct, List.length_map]

end Entries

variable [LinearOrder τ] [Add τ] {default? : Option τ} {history : History τ} {now : τ}
variable {cache : Cache τ} {key : String} {entry : CacheEntry τ} {labels : List String}

/-! ### Entries in place -/

omit [Add τ] in
/-- A lookup leaves out what it finds to have expired. -/
theorem mem_get_iff (keyed : cache.keys.Nodup) {name : String} :
    (key, entry) ∈ (cache.get now name).2.entries ↔
      (key, entry) ∈ cache.entries ∧ ¬ (name = key ∧ entry.expired now) := by
  rw [Cache.get]
  cases found : cache.entry? name with
  | none =>
      refine ⟨fun among => ⟨among, ?_⟩, And.left⟩
      rintro ⟨rfl, -⟩
      rw [(found_iff_mem keyed).mpr among] at found
      cases found
  | some there =>
      have same : (key, entry) ∈ cache.entries → name = key → entry = there := by
        rintro among rfl
        exact entry_eq_of_mem keyed among ((found_iff_mem keyed).mp found)
      cases expired : there.expired now with
      | true =>
          simp only [expired, if_true, Cache.delete, List.mem_filter, decide_eq_true_iff]
          refine and_congr_right fun among => ?_
          exact ⟨fun differs named => differs named.1.symm,
            fun kept named => kept ⟨named.symm, same among named.symm ▸ expired⟩⟩
      | false =>
          simp only [expired, Bool.false_eq_true, if_false]
          refine ⟨fun among => ⟨among, fun named => ?_⟩, And.left⟩
          rw [same among named.1, expired] at named
          cases named.2

/-- What is in place after an operation: what it sets, and what was in place before unless the
operation puts an end to it, or removes it because it has expired. -/
theorem mem_after (keyed : cache.keys.Nodup) (operation : Operation τ) :
    (key, entry) ∈ (after cache now operation).entries ↔
      (∃ content lifetime?, operation = .set key content lifetime? ∧
        entry = ⟨content, cache.expiryAt now lifetime?⟩) ∨
      ((key, entry) ∈ cache.entries ∧
        ¬ (operation.Ends key entry.content ∨ (operation.Sweeps key ∧ entry.expired now))) := by
  cases operation with
  | set name content lifetime? =>
      have purged : (cache.purge now).keys.Nodup := keyed.sublist (List.filter_sublist.map _)
      rw [after, Cache.set, mem_put_iff purged, Cache.purge, List.mem_filter]
      simp only [Prod.mk.injEq, Operation.set.injEq, Operation.Ends, Operation.Sweeps]
      grind
  | get name =>
      rw [after, mem_get_iff keyed]
      simp [Operation.Ends, Operation.Sweeps]
  | delete name =>
      rw [after, Cache.delete, List.mem_filter, decide_eq_true_iff]
      simp only [Operation.Ends, Operation.Sweeps]
      grind
  | clear => simp [after, Cache.clear, Operation.Ends]
  | invalidate labels =>
      rw [after, Cache.invalidate, List.mem_filter, labelled_eq_false_iff]
      simp only [Operation.Ends, Operation.Sweeps]
      grind
  | size => simp [after, Cache.size, Cache.purge, Operation.Ends, Operation.Sweeps]

/-- The entries in place after a history are those of the settings that remain. -/
theorem mem_afterAll_iff (clock : Clock) (ordered : Ordered history now) :
    (key, entry) ∈ (afterAll after default? clock history).entries ↔
      ∃ since lifetime?, Remains default? history key entry.content since lifetime? ∧
        entry.expiry? = expiryOf default? since lifetime? := by
  induction history using List.reverseRecOn generalizing now with
  | nil =>
      have none : ∀ {content since lifetime?},
          ¬ Remains default? ([] : History τ) key content since lifetime? := not_lasting_nil
      simp [afterAll, none]
  | append_singleton history step ih =>
      obtain ⟨time, operation⟩ := step
      rw [Ordered, List.map_append, List.map_singleton] at ordered
      have before : Ordered history time := (List.pairwise_append.mp ordered).1
      have tells : Tells default? history time (afterAll after default? clock history) :=
        faithful_after.tells_afterAll clock before
      have last : afterAll after default? clock (history ++ [(time, operation)]) =
          after (afterAll after default? clock history) time operation := by
        rw [afterAll, List.foldl_append]
        rfl
      simp only [last, mem_after tells.keyed, ih before, remains_concat, expired_iff, expiryAt,
        tells.lifetime]
      constructor
      · rintro (⟨content, lifetime?, rfl, rfl⟩ | ⟨⟨since, lifetime?, remains, expiry⟩, kept⟩)
        · exact ⟨time, lifetime?, .inl ⟨rfl, rfl⟩, rfl⟩
        · rw [expiry] at kept
          exact ⟨since, lifetime?, .inr ⟨remains, kept⟩, expiry⟩
      · rintro ⟨since, lifetime?, ⟨rfl, rfl⟩ | ⟨remains, kept⟩, expiry⟩
        · refine .inl ⟨entry.content, lifetime?, rfl, ?_⟩
          rw [← expiryOf, ← expiry]
        · rw [← expiry] at kept
          exact .inr ⟨⟨since, lifetime?, remains, expiry⟩, kept⟩

/-! ### Counts -/

omit [LinearOrder τ] [Add τ] in
theorem labelled_iff {content : Content} :
    labelled labels content = true ↔ ∃ label ∈ content.labels, label ∈ labels := by
  simp [labelled]

omit [Add τ] in
/-- Nothing is found under a key if what is in place there has expired. -/
theorem get_eq_none_iff (keyed : cache.keys.Nodup) :
    (cache.get now key).1 = none ↔ ∀ entry, (key, entry) ∈ cache.entries → entry.expired now := by
  simp only [Option.eq_none_iff_forall_ne_some, ne_eq, get_eq_some_iff_mem keyed]
  grind

omit [Add τ] in
/-- The keys that a lookup finds before an invalidation and not after it have an entry that bears one
of the labels and has not expired. -/
theorem lost_iff (keyed : cache.keys.Nodup) :
    (∃ content, (cache.get now key).1 = some content ∧
        ((cache.invalidate labels).2.get now key).1 = none) ↔
      ∃ entry, (key, entry) ∈ cache.entries ∧
        (labelled labels entry.content && !entry.expired now) := by
  have kept : (cache.invalidate labels).2.keys.Nodup := keyed.sublist (List.filter_sublist.map _)
  have left : ∀ entry, (key, entry) ∈ (cache.invalidate labels).2.entries ↔
      (key, entry) ∈ cache.entries ∧ labelled labels entry.content = false := by
    intro entry
    rw [Cache.invalidate, List.mem_filter, Bool.not_eq_true']
  simp only [get_eq_some_iff_mem keyed, get_eq_none_iff kept, left, Bool.and_eq_true,
    Bool.not_eq_true']
  constructor
  · rintro ⟨content, ⟨entry, among, unexpired, -⟩, gone⟩
    refine ⟨entry, among, ?_, unexpired⟩
    by_contra unlabelled
    rw [gone entry ⟨among, Bool.eq_false_iff.mpr unlabelled⟩] at unexpired
    cases unexpired
  · rintro ⟨entry, among, bears, unexpired⟩
    refine ⟨entry.content, ⟨entry, among, unexpired, rfl⟩, fun other left => ?_⟩
    obtain ⟨there, unlabelled⟩ := left
    rw [entry_eq_of_mem keyed there among, bears] at unlabelled
    cases unlabelled

/-- The keys of entries that bear a label and have expired follow from the history. -/
theorem staleKeys_eq (clock : Clock) (ordered : Ordered history now) (labels : List String) :
    staleKeys default? history now labels =
      {key | ∃ entry, (key, entry) ∈ (afterAll after default? clock history).entries ∧
        (labelled labels entry.content && entry.expired now)} := by
  ext key
  simp only [staleKeys, Set.mem_ofPred_eq, mem_afterAll_iff clock ordered, Bool.and_eq_true,
    expired_iff, labelled_iff]
  constructor
  · rintro ⟨content, since, lifetime?, remains, ended, bears⟩
    exact ⟨⟨content, expiryOf default? since lifetime?⟩, ⟨since, lifetime?, remains, rfl⟩, bears, ended⟩
  · rintro ⟨entry, ⟨since, lifetime?, remains, expiry⟩, bears, ended⟩
    exact ⟨entry.content, since, lifetime?, remains, expiry ▸ ended, bears⟩

/-- After a history in which time never goes back, labels take from the lookups just the current
content that bears them, and the size shrinks accordingly. The count is higher by the keys under
which an entry that bears them has expired and is in place, so that it is right just if there is
none. -/
theorem invalidate_counts (clock : Clock) (ordered : Ordered history now) (labels : List String) :
    let cache := afterAll after default? clock history
    let count := (cache.invalidate labels).1
    let remaining := (cache.invalidate labels).2
    let lost := {key | ∃ content, (cache.get now key).1 = some content ∧
      (remaining.get now key).1 = none}
    let stale := staleKeys default? history now labels
    lost = {key | ∃ content, Current default? history now key content ∧
      ∃ label ∈ content.labels, label ∈ labels} ∧
    ((cache.size now).1 : ℕ∞) = (remaining.size now).1 + lost.encard ∧
    (count : ℕ∞) = lost.encard + stale.encard ∧
    ((count : ℕ∞) = lost.encard ↔ stale = ∅) := by
  intro cache count remaining lost stale
  have tells : Tells default? history now cache := faithful_after.tells_afterAll clock ordered
  have lostEntries : lost = {key | ∃ entry, (key, entry) ∈ cache.entries ∧
      (labelled labels entry.content && !entry.expired now)} :=
    Set.ext fun key => lost_iff tells.keyed
  have lostCount : lost.encard =
      (cache.entries.filter fun e => labelled labels e.2.content && !e.2.expired now).length := by
    rw [lostEntries, length_filter_eq_encard tells.keyed]
  have staleCount : stale.encard =
      (cache.entries.filter fun e => labelled labels e.2.content && e.2.expired now).length := by
    rw [length_filter_eq_encard tells.keyed]
    exact congrArg Set.encard (staleKeys_eq clock ordered labels)
  have counted : (count : ℕ∞) = lost.encard + stale.encard := by
    rw [lostCount, staleCount, add_comm]
    exact_mod_cast length_filter_split _ fun e : String × CacheEntry τ => e.2.expired now
  refine ⟨?current, ?size, counted, ?right⟩
  case current =>
    rw [lostEntries]
    ext key
    simp only [Set.mem_ofPred_eq, ← tells.get_eq_some_iff, get_eq_some_iff_mem tells.keyed,
      Bool.and_eq_true, Bool.not_eq_true', labelled_iff]
    constructor
    · rintro ⟨entry, among, bears, unexpired⟩
      exact ⟨entry.content, ⟨entry, among, unexpired, rfl⟩, bears⟩
    · rintro ⟨_, ⟨entry, among, unexpired, rfl⟩, bears⟩
      exact ⟨entry, among, bears, unexpired⟩
  case size =>
    have before : (cache.size now).1 = (cache.entries.filter fun e => !e.2.expired now).length := rfl
    have after : (remaining.size now).1 = (cache.entries.filter fun e =>
        !e.2.expired now && !labelled labels e.2.content).length :=
      congrArg List.length (List.filter_filter ..)
    rw [lostCount, before, after, add_comm]
    simp only [Bool.and_comm (labelled _ _)]
    exact_mod_cast length_filter_split _ fun e : String × CacheEntry τ => labelled labels e.2.content
  case right =>
    rw [counted, ← Set.encard_eq_zero, lostCount, staleCount]
    norm_cast
    omega

/-- Two keys that bear a label, one of which expires at time 1. -/
def larder : History Int :=
  [(0, .set "milk" { text := "cold", labels := ["dairy"] } (some 1)),
    (0, .set "cheese" { text := "old", labels := ["dairy"] } none)]

/-- The count is too high as long as the expired entry is in place, and right when entries have been
counted before. -/
theorem invalidate_counts_in_larder :
    Ordered larder 2 ∧ Ordered (larder ++ [(2, .size)]) 2 ∧
    ((afterAll after none .session larder).invalidate ["dairy"]).1 = 2 ∧
    ((afterAll after none .session (larder ++ [(2, .size)])).invalidate ["dairy"]).1 = 1 ∧
    staleKeys none larder 2 ["dairy"] ≠ ∅ ∧
    staleKeys none (larder ++ [(2, .size)]) 2 ["dairy"] = ∅ := by
  have ordered : Ordered larder 2 := by
    rw [Ordered]
    decide
  have swept : Ordered (larder ++ [(2, .size)]) 2 := by
    rw [Ordered]
    decide
  obtain ⟨-, shrinks, -, right⟩ := @invalidate_counts _ _ _ none _ _ .session ordered ["dairy"]
  obtain ⟨-, shrinks', -, right'⟩ := @invalidate_counts _ _ _ none _ _ .session swept ["dairy"]
  refine ⟨ordered, swept, rfl, rfl, ?_, ?_⟩
  · intro none
    have same := right.mpr none
    rw [← same] at shrinks
    change ((1 : ℕ) : ℕ∞) = (0 : ℕ) + (2 : ℕ) at shrinks
    norm_cast at shrinks
  · refine right'.mp ?_
    change ((1 : ℕ) : ℕ∞) = (0 : ℕ) + _ at shrinks'
    rwa [Nat.cast_zero, zero_add] at shrinks'

/-- One entry with a label that has expired by the time of the invalidation is counted, though no
lookup found it any more and the size is zero before and after. Where entries have been counted in
between, it is not. -/
theorem invalidate_counts_expired :
    let history : History Int := [(0, .set "k" { text := "v", labels := ["a"] } (some 1))]
    let cache := afterAll after none .session history
    Ordered history 2 ∧
      (∀ key, (cache.get 2 key).1 = none) ∧
      (cache.size 2).1 = 0 ∧ ((cache.invalidate ["a"]).2.size 2).1 = 0 ∧
      (cache.invalidate ["a"]).1 = 1 ∧
      ((afterAll after none .session (history ++ [(2, .size)])).invalidate ["a"]).1 = 0 := by
  intro history cache
  refine ⟨?_, fun key => ?_, rfl, rfl, rfl, rfl⟩
  · rw [Ordered]
    decide
  · have keyed : cache.keys.Nodup := List.nodup_singleton "k"
    rw [get_eq_none_iff keyed]
    intro entry among
    cases List.mem_singleton.mp among
    rfl

end TagWeave.Cache
