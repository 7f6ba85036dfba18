import Mathlib.Data.List.Induction
import Mathlib.Data.List.Nodup
import Mathlib.Data.Set.Card
import Mathlib.Order.Defs.LinearOrder
import TagWeave.Proofs.Lasting
import TagWeave.Proofs.Retrieval.Kept

/-!
# Histories of caches

What a cache answers follows from what was asked of it, and when. Content is current
from the time at which it is set until another setting of its key, a removal, a label
of its own, or the end of its lifetime. A lookup finds the current content of its key,
and the size is the number of keys that have one.

Entries that have expired go at different moments, some when their key is looked up and
others when any key is set or entries are counted. This does not show: a cache from which
no expired entry is removed in between answers the same. Times are of any linearly
ordered type.
-/

namespace TagWeave.Cache

variable {τ : Type}

/-- What can be asked of a cache. -/
inductive Operation (τ : Type) where
  | set (key : String) (content : Content) (lifetime? : Option τ)
  | get (key : String)
  | delete (key : String)
  | clear
  | invalidate (labels : List String)
  | size

/-- Whether an operation puts an end to content under a key. -/
def Operation.Ends (key : String) (content : Content) : Operation τ → Prop
  | .set other _ _ => other = key
  | .delete other => other = key
  | .clear => True
  | .invalidate labels => ∃ label ∈ content.labels, label ∈ labels
  | .get _ | .size => False

/-- Operations with their times, the latest one last. -/
abbrev History (τ : Type) := List (τ × Operation τ)

/-- The latest setting of a key in a history was at some time, to some content with some lifetime,
and nothing has put an end to it. -/
def Stands (history : History τ) (key : String) (content : Content) (since : τ)
    (lifetime? : Option τ) : Prop :=
  Lasting (fun step => step.2.Ends key content) history (since, .set key content lifetime?)

/-- What stands after one more operation: what it sets, and what stood before if it does not put an
end to that. -/
theorem stands_concat {history : History τ} {time : τ} {operation : Operation τ} {key : String}
    {content : Content} {since : τ} {lifetime? : Option τ} :
    Stands (history ++ [(time, operation)]) key content since lifetime? ↔
      (time = since ∧ operation = .set key content lifetime?) ∨
        (Stands history key content since lifetime? ∧ ¬ operation.Ends key content) := by
  rw [Stands, lasting_concat, Prod.mk.injEq]
  rfl

/-- The time at which what was set expires. -/
def expiryOf [Add τ] (default? : Option τ) (since : τ) (lifetime? : Option τ) : Option τ :=
  (lifetime?.or default?).map (since + ·)

/-- The content that a key has at some time: it stands, and its lifetime, which is the default one
unless another was given, is not over. -/
def Current [Add τ] [LT τ] (default? : Option τ) (history : History τ) (now : τ) (key : String)
    (content : Content) : Prop :=
  ∃ since lifetime?, Stands history key content since lifetime? ∧
    ∀ expiry ∈ expiryOf default? since lifetime?, now < expiry

/-! ### Entries by key -/

section Entries

variable {cache : Cache τ} {entries : List (String × CacheEntry τ)} {key : String}
variable {entry : CacheEntry τ}

theorem found_iff_mem (keyed : cache.keys.Nodup) :
    cache.entry? key = some entry ↔ (key, entry) ∈ cache.entries :=
  find?_key_eq_some_iff keyed

theorem keys_put : (put entries key entry).map (·.1) =
    if key ∈ entries.map (·.1) then entries.map (·.1) else entries.map (·.1) ++ [key] := by
  induction entries with
  | nil => rfl
  | cons e entries ih =>
      rw [put, List.map_cons]
      by_cases same : e.1 = key
      · simp [same]
      · rw [if_neg same, List.map_cons, ih]
        by_cases among : key ∈ entries.map (·.1)
        · rw [if_pos among, if_pos (List.mem_cons_of_mem _ among)]
        · rw [if_neg among, if_neg (by simpa [Ne.symm same] using among), List.cons_append]

theorem nodup_put (keyed : (entries.map (·.1)).Nodup) : ((put entries key entry).map (·.1)).Nodup := by
  rw [keys_put]
  split
  · exact keyed
  · next fresh => exact List.nodup_append'.mpr ⟨keyed, List.nodup_singleton key, by simpa using fresh⟩

theorem mem_put_iff (keyed : (entries.map (·.1)).Nodup) {e : String × CacheEntry τ} :
    e ∈ put entries key entry ↔ e = (key, entry) ∨ (e ∈ entries ∧ e.1 ≠ key) := by
  induction entries with
  | nil => simp [put]
  | cons first entries ih =>
      rw [List.map_cons, List.nodup_cons] at keyed
      obtain ⟨fresh, keyed⟩ := keyed
      rw [put]
      by_cases same : first.1 = key
      · subst same
        have others : ∀ e ∈ entries, e.1 ≠ first.1 := by
          intro e among eq
          exact fresh (eq ▸ List.mem_map_of_mem among)
        rw [if_pos rfl, List.mem_cons, List.mem_cons]
        constructor
        · rintro (rfl | among)
          · exact .inl rfl
          · exact .inr ⟨.inr among, others e among⟩
        · rintro (rfl | ⟨rfl | among, differs⟩)
          · exact .inl rfl
          · exact absurd rfl differs
          · exact .inr among
      · rw [if_neg same, List.mem_cons, ih keyed, List.mem_cons]
        constructor
        · rintro (rfl | rfl | ⟨among, differs⟩)
          · exact .inr ⟨.inl rfl, same⟩
          · exact .inl rfl
          · exact .inr ⟨.inr among, differs⟩
        · rintro (rfl | ⟨rfl | among, differs⟩)
          · exact .inr (.inl rfl)
          · exact .inl rfl
          · exact .inr (.inr ⟨among, differs⟩)

end Entries

variable [LinearOrder τ] [Add τ]

/-- The cache that an operation leaves. -/
def after (cache : Cache τ) (now : τ) : Operation τ → Cache τ
  | .set key content lifetime? => cache.set now key content lifetime?
  | .get key => (cache.get now key).2
  | .delete key => cache.delete key
  | .clear => cache.clear
  | .invalidate labels => (cache.invalidate labels).2
  | .size => (cache.size now).2

/-- The cache that an operation would leave if no entry were removed because it has expired. -/
def afterUnpurged (cache : Cache τ) (now : τ) : Operation τ → Cache τ
  | .set key content lifetime? =>
    { cache with entries := put cache.entries key ⟨content, cache.expiryAt now lifetime?⟩ }
  | .get _ | .size => cache
  | .delete key => cache.delete key
  | .clear => cache.clear
  | .invalidate labels => (cache.invalidate labels).2

/-- The cache, empty at first, after a history, given what an operation leaves of a cache. -/
def afterAll (leave : Cache τ → τ → Operation τ → Cache τ) (default? : Option τ) (clock : Clock)
    (history : History τ) : Cache τ :=
  history.foldl (fun cache step => leave cache step.1 step.2) { lifetime? := default?, clock := clock }

/-! ### Caches that tell their history -/

/-- A cache whose entries are what a history has set: each of them stands, and all that stands has
an entry, unless it has expired by now. -/
structure Tells (default? : Option τ) (history : History τ) (now : τ) (cache : Cache τ) : Prop where
  lifetime : cache.lifetime? = default?
  keyed : cache.keys.Nodup
  stands : ∀ {key entry}, (key, entry) ∈ cache.entries → ∃ since lifetime?,
    Stands history key entry.content since lifetime? ∧
      entry.expiry? = expiryOf default? since lifetime?
  complete : ∀ {key content since lifetime?}, Stands history key content since lifetime? →
    (key, ⟨content, expiryOf default? since lifetime?⟩) ∈ cache.entries ∨
      ∃ expiry ∈ expiryOf default? since lifetime?, expiry ≤ now

variable {default? : Option τ} {history : History τ} {now time : τ} {cache : Cache τ}

omit [LinearOrder τ] [Add τ] in
theorem expired_iff [LE τ] [DecidableLE τ] {entry : CacheEntry τ} :
    entry.expired now = true ↔ ∃ expiry ∈ entry.expiry?, expiry ≤ now := by
  rw [CacheEntry.expired]
  cases entry.expiry? with
  | none => simp
  | some expiry => simp

theorem tells_empty (clock : Clock) (now : τ) :
    Tells default? [] now { lifetime? := default?, clock := clock } where
  lifetime := rfl
  keyed := List.nodup_nil
  stands := by simp
  complete := fun standing => absurd standing not_lasting_nil

/-- As time passes, more may have expired. -/
theorem Tells.later (tells : Tells default? history now cache) (le : now ≤ time) :
    Tells default? history time cache where
  lifetime := tells.lifetime
  keyed := tells.keyed
  stands := tells.stands
  complete := fun standing => (tells.complete standing).imp_right fun ⟨expiry, given, ended⟩ =>
    ⟨expiry, given, ended.trans le⟩

/-- Entries may be left out if they have expired, or if an operation puts an end to them. -/
theorem Tells.filter (tells : Tells default? history now cache) {further : History τ}
    (left : String × CacheEntry τ → Bool)
    (stood : ∀ {key content since lifetime?}, Stands further key content since lifetime? →
      Stands history key content since lifetime?)
    (kept : ∀ {key entry since lifetime?}, (key, entry) ∈ cache.entries → left (key, entry) = true →
      Stands history key entry.content since lifetime? →
        Stands further key entry.content since lifetime?)
    (gone : ∀ {key entry}, (key, entry) ∈ cache.entries → left (key, entry) = false →
      entry.expired now = true ∨
        ∀ since lifetime?, ¬ Stands further key entry.content since lifetime?) :
    Tells default? further now { cache with entries := cache.entries.filter left } where
  lifetime := tells.lifetime
  keyed := tells.keyed.sublist (List.filter_sublist.map _)
  stands := by
    intro key entry among
    obtain ⟨among, passes⟩ := List.mem_filter.mp among
    obtain ⟨since, lifetime?, standing, expiry⟩ := tells.stands among
    exact ⟨since, lifetime?, kept among passes standing, expiry⟩
  complete := by
    intro key content since lifetime? standing
    rcases tells.complete (stood standing) with among | ended
    · cases passes : left (key, ⟨content, expiryOf default? since lifetime?⟩) with
      | true => exact .inl (List.mem_filter.mpr ⟨among, passes⟩)
      | false =>
          rcases gone among passes with expired | ended
          · exact .inr (expired_iff.mp expired)
          · exact absurd standing (ended since lifetime?)
    · exact .inr ended

/-- Entries that have expired may be left out. -/
theorem Tells.drop (tells : Tells default? history now cache) (left : String × CacheEntry τ → Bool)
    (gone : ∀ {key entry}, (key, entry) ∈ cache.entries → left (key, entry) = false →
      entry.expired now = true) :
    Tells default? history now { cache with entries := cache.entries.filter left } :=
  tells.filter left id (fun _ _ standing => standing) fun among passes => .inl (gone among passes)

theorem Tells.purge (tells : Tells default? history now cache) :
    Tells default? history now (cache.purge now) :=
  tells.drop _ fun _ passes => by simpa using passes

/-- An operation that sets nothing leaves out the entries that it puts an end to. -/
theorem Tells.remove (tells : Tells default? history now cache) {operation : Operation τ}
    (sets : ∀ key content lifetime?, operation ≠ .set key content lifetime?)
    (left : String × CacheEntry τ → Bool)
    (ends : ∀ key entry, left (key, entry) = true ↔ ¬ operation.Ends key entry.content) :
    Tells default? (history ++ [(time, operation)]) now
      { cache with entries := cache.entries.filter left } := by
  refine tells.filter left ?_ ?_ ?_
  · intro key content since lifetime? standing
    rcases stands_concat.mp standing with ⟨-, same⟩ | ⟨standing, -⟩
    · exact absurd same (sets key content lifetime?)
    · exact standing
  · intro key entry since lifetime? _ passes standing
    exact stands_concat.mpr (.inr ⟨standing, (ends key entry).mp passes⟩)
  · intro key entry _ passes
    right
    intro since lifetime? standing
    rcases stands_concat.mp standing with ⟨-, same⟩ | ⟨-, unended⟩
    · exact sets key entry.content lifetime? same
    · rw [(ends key entry).mpr unended] at passes
      cases passes

/-- An operation that neither sets anything nor puts an end to anything leaves the entries as they
are. -/
theorem Tells.look (tells : Tells default? history now cache) {operation : Operation τ}
    (sets : ∀ key content lifetime?, operation ≠ .set key content lifetime?)
    (ends : ∀ key content, ¬ operation.Ends key content) :
    Tells default? (history ++ [(time, operation)]) now cache := by
  have all : Tells default? (history ++ [(time, operation)]) now
      { cache with entries := cache.entries.filter fun _ => true } :=
    tells.remove sets _ fun key entry => by simp [ends key entry.content]
  rwa [List.filter_true] at all

/-- Setting a key replaces its entry. -/
theorem Tells.put (tells : Tells default? history now cache) (key : String) (content : Content)
    (lifetime? : Option τ) :
    Tells default? (history ++ [(time, .set key content lifetime?)]) now
      { cache with
        entries := Cache.put cache.entries key ⟨content, cache.expiryAt time lifetime?⟩ } := by
  have expiry : cache.expiryAt time lifetime? = expiryOf default? time lifetime? := by
    rw [expiryAt, tells.lifetime, expiryOf]
  rw [expiry]
  refine ⟨tells.lifetime, nodup_put tells.keyed, ?_, ?_⟩
  · intro name entry among
    rcases (mem_put_iff tells.keyed).mp among with same | ⟨among, differs⟩
    · obtain ⟨rfl, rfl⟩ := Prod.mk.inj same
      exact ⟨time, lifetime?, stands_concat.mpr (.inl ⟨rfl, rfl⟩), rfl⟩
    · obtain ⟨since, lifetime', standing, expiry⟩ := tells.stands among
      exact ⟨since, lifetime', stands_concat.mpr (.inr ⟨standing, Ne.symm differs⟩), expiry⟩
  · intro name other since lifetime' standing
    rcases stands_concat.mp standing with ⟨rfl, same⟩ | ⟨standing, differs⟩
    · cases same
      exact .inl ((mem_put_iff tells.keyed).mpr (.inl rfl))
    · exact (tells.complete standing).imp_left fun among =>
        (mem_put_iff tells.keyed).mpr (.inr ⟨among, Ne.symm differs⟩)

/-- Operations on a cache that tells its history leave one that tells of them, too. -/
def Faithful (leave : Cache τ → τ → Operation τ → Cache τ) : Prop :=
  ∀ {default? history now cache}, Tells default? history now cache → ∀ operation,
    Tells default? (history ++ [(now, operation)]) now (leave cache now operation)

omit [Add τ] [LinearOrder τ] in
theorem labelled_eq_false_iff {labels : List String} {content : Content} :
    (!labelled labels content) = true ↔ ¬ ∃ label ∈ content.labels, label ∈ labels := by
  simp [labelled]

theorem Tells.delete (tells : Tells default? history now cache) (key : String) :
    Tells default? (history ++ [(time, .delete key)]) now (cache.delete key) :=
  tells.remove (by simp) _ fun name entry => by simpa [Operation.Ends] using ne_comm

theorem Tells.clear (tells : Tells default? history now cache) :
    Tells default? (history ++ [(time, .clear)]) now cache.clear := by
  have none : Tells default? (history ++ [(time, .clear)]) now
      { cache with entries := cache.entries.filter fun _ => false } :=
    tells.remove (by simp) _ fun _ _ => by simp [Operation.Ends]
  rwa [List.filter_false] at none

theorem Tells.invalidate (tells : Tells default? history now cache) (labels : List String) :
    Tells default? (history ++ [(time, .invalidate labels)]) now (cache.invalidate labels).2 :=
  tells.remove (by simp) _ fun _ _ => labelled_eq_false_iff

theorem Tells.get (tells : Tells default? history now cache) (key : String) :
    Tells default? history now (cache.get now key).2 := by
  rw [Cache.get]
  split
  · exact tells
  · next entry found =>
    split
    · next expired =>
      refine tells.drop _ ?_
      intro name other among passes
      have same : name = key := by simpa using passes
      subst same
      rw [(found_iff_mem tells.keyed).mpr among] at found
      cases found
      exact expired
    · exact tells

theorem faithful_after : Faithful (after : Cache τ → τ → Operation τ → Cache τ) := by
  intro default? history now cache tells operation
  cases operation with
  | set key content lifetime? => exact tells.purge.put key content lifetime?
  | get key => exact (tells.get key).look (by simp) (fun _ _ => id)
  | delete key => exact tells.delete key
  | clear => exact tells.clear
  | invalidate labels => exact tells.invalidate labels
  | size => exact tells.purge.look (by simp) (fun _ _ => id)

theorem faithful_afterUnpurged :
    Faithful (afterUnpurged : Cache τ → τ → Operation τ → Cache τ) := by
  intro default? history now cache tells operation
  cases operation with
  | set key content lifetime? => exact tells.put key content lifetime?
  | get key => exact tells.look (by simp) (fun _ _ => id)
  | delete key => exact tells.delete key
  | clear => exact tells.clear
  | invalidate labels => exact tells.invalidate labels
  | size => exact tells.look (by simp) (fun _ _ => id)

/-- A history in which time never goes back, up to now. -/
def Ordered (history : History τ) (now : τ) : Prop :=
  (history.map (·.1) ++ [now]).Pairwise (· ≤ ·)

/-- The cache after a history tells it. -/
theorem Faithful.tells_afterAll {leave : Cache τ → τ → Operation τ → Cache τ}
    (faithful : Faithful leave) (clock : Clock) (ordered : Ordered history now) :
    Tells default? history now (afterAll leave default? clock history) := by
  induction history using List.reverseRecOn generalizing now with
  | nil => exact tells_empty clock now
  | append_singleton history step ih =>
      rw [Ordered, List.map_append, List.map_singleton] at ordered
      obtain ⟨before, -, upTo⟩ := List.pairwise_append.mp ordered
      have le : step.1 ≤ now := upTo _ (by simp) _ (List.mem_singleton_self now)
      rw [afterAll, List.foldl_append]
      exact (faithful (ih before) step.2).later le

/-! ### Answers -/

omit [Add τ] in
/-- A lookup finds what is among the entries and has not expired. -/
theorem get_eq_some_iff_mem (keyed : cache.keys.Nodup) {key : String} {content : Content} :
    (cache.get now key).1 = some content ↔
      ∃ entry, (key, entry) ∈ cache.entries ∧ entry.expired now = false ∧
        entry.content = content := by
  simp only [← found_iff_mem keyed]
  rw [Cache.get]
  cases cache.entry? key with
  | none => simp
  | some entry => cases expired : entry.expired now <;> simp [expired]

/-- A lookup finds what is current. -/
theorem Tells.get_eq_some_iff (tells : Tells default? history now cache) (key : String)
    (content : Content) :
    (cache.get now key).1 = some content ↔ Current default? history now key content := by
  rw [get_eq_some_iff_mem tells.keyed]
  constructor
  · rintro ⟨entry, among, unexpired, rfl⟩
    obtain ⟨since, lifetime?, standing, expiry⟩ := tells.stands among
    refine ⟨since, lifetime?, standing, fun time given => ?_⟩
    rw [← expiry] at given
    rw [← Bool.not_eq_true, expired_iff] at unexpired
    exact lt_of_not_ge fun ended => unexpired ⟨time, given, ended⟩
  · rintro ⟨since, lifetime?, standing, current⟩
    rcases tells.complete standing with among | ⟨expiry, given, ended⟩
    · refine ⟨_, among, ?_, rfl⟩
      rw [← Bool.not_eq_true, expired_iff]
      rintro ⟨expiry, given, ended⟩
      exact absurd ended (not_le_of_gt (current expiry given))
    · exact absurd ended (not_le_of_gt (current expiry given))

/-- The size is the number of keys with current content. -/
theorem Tells.size_eq (tells : Tells default? history now cache) :
    ((cache.size now).1 : ℕ∞) = {key | ∃ content, Current default? history now key content}.encard := by
  have same : {key | ∃ content, Current default? history now key content} =
      {key | key ∈ (cache.purge now).keys} := by
    ext key
    simp only [Set.mem_ofPred_eq, ← tells.get_eq_some_iff, get_eq_some_iff_mem tells.keyed]
    simp [keys, Cache.purge]
  have card : (cache.purge now).keys.toFinset.card = (cache.purge now).entries.length := by
    rw [List.toFinset_card_of_nodup tells.purge.keyed, keys, List.length_map]
  rw [same, ← List.coe_toFinset, Set.encard_coe_eq_coe_finsetCard, card]
  rfl

/-- After any history in which time never goes back, a lookup finds the content that is current under
its key, and the size is the number of keys that have some. So nothing depends on which entries
were removed because they had expired: without those removals the answers are the same. -/
theorem answers_follow_history (default? : Option τ) (clock : Clock) {history : History τ} {now : τ}
    (ordered : Ordered history now) :
    (∀ key content, ((afterAll after default? clock history).get now key).1 = some content ↔
      Current default? history now key content) ∧
    (((afterAll after default? clock history).size now).1 : ℕ∞) =
      {key | ∃ content, Current default? history now key content}.encard ∧
    (∀ key, ((afterAll after default? clock history).get now key).1 =
      ((afterAll afterUnpurged default? clock history).get now key).1) ∧
    ((afterAll after default? clock history).size now).1 =
      ((afterAll afterUnpurged default? clock history).size now).1 := by
  have tells : Tells default? history now _ := faithful_after.tells_afterAll clock ordered
  have unpurged : Tells default? history now _ :=
    faithful_afterUnpurged.tells_afterAll clock ordered
  refine ⟨tells.get_eq_some_iff, tells.size_eq, fun key => ?_, ?_⟩
  · ext content
    rw [tells.get_eq_some_iff, unpurged.get_eq_some_iff]
  · exact_mod_cast tells.size_eq.trans unpurged.size_eq.symm

/-- Four keys, of which the first is set anew after its label has dropped it, and the second is over
as soon as it is set. -/
def pantry : History Int :=
  [(0, .set "milk" { text := "old", labels := ["cold"] } (some 10)),
    (1, .set "ice" { text := "water" } (some (-1))), (1, .set "salt" { text := "fine" } none), (2, .size),
    (3, .invalidate ["cold", "sweet"]), (3, .set "milk" { text := "new", labels := ["cold"] } (some 4)),
    (4, .get "ice"), (4, .set "bread" { text := "white" } none), (5, .delete "eggs")]

theorem answers_from_pantry :
    Ordered pantry 6 ∧
    (∀ content, Current (some 5) pantry 6 "milk" content ↔
      content = { text := "new", labels := ["cold"] }) ∧
    (∀ content, ¬ Current (some 5) pantry 6 "ice" content) ∧
    (∀ content, ¬ Current (some 5) pantry 6 "salt" content) ∧
    {key | ∃ content, Current (some 5) pantry 6 key content}.encard = 2 := by
  have ordered : Ordered pantry 6 := by
    rw [Ordered]
    decide
  obtain ⟨found, counted, -, -⟩ := answers_follow_history (some 5) .session ordered
  refine ⟨ordered, fun content => ?_, fun content => ?_, fun content => ?_, ?_⟩
  · rw [← found]
    exact Option.some_inj.trans eq_comm
  · rw [← found]
    exact Option.some_ne_none content ∘ Eq.symm
  · rw [← found]
    exact Option.some_ne_none content ∘ Eq.symm
  · exact counted.symm

end TagWeave.Cache
