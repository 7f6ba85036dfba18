import TagWeave.Interpolator
import TagWeave.Proofs.Mustache.EmptyScope

/-!
# Bindings that define nothing

Among the bindings of an interpolation there may be some that define nothing: nothing itself,
and empty mappings. The Jinja templates never notice them. Mustache templates do not notice
nothing itself, nor an empty mapping behind a binding that counts as something, as long as
they open no section inside one of the same key where this is not allowed.

But an empty mapping as the last binding that is something hides all of the template, since
it is then the innermost scope and counts as nothing. Only if there is no other binding, it
does not.
-/

namespace TagWeave

namespace Mustache

/-- The bindings that are something, the last one first. -/
def present (bindings : List Value) : List Value :=
  bindings.reverse.filter fun v => !(v matches .null)

theorem scopesOf_eq (bindings : List Value) :
    scopesOf bindings = if (present bindings).isEmpty then [.dict []] else present bindings := rfl

theorem present_append (before after : List Value) :
    present (before ++ after) = present after ++ present before := by
  simp [present]

theorem present_null_cons (bindings : List Value) :
    present (.null :: bindings) = present bindings := by
  simp [present]

theorem present_empty_cons (bindings : List Value) :
    present (.dict [] :: bindings) = present bindings ++ [.dict []] := by
  simp [present]

theorem scopesOf_null (before after : List Value) :
    scopesOf (before ++ .null :: after) = scopesOf (before ++ after) := by
  simp only [scopesOf_eq, present_append, present_null_cons]

theorem scopesOf_empty (before after : List Value) :
    scopesOf (before ++ .dict [] :: after) = present after ++ .dict [] :: present before := by
  simp only [scopesOf_eq, present_append, present_empty_cons]
  simp

end Mustache

namespace Jinja

/-- A binding that defines nothing adds nothing. -/
theorem mergeBindings_remove {v : Value} (nothing : ∀ entries, addBinding entries v = .ok entries)
    (entries : Entries) (before after : List Value) :
    mergeBindings entries (before ++ v :: after) = mergeBindings entries (before ++ after) := by
  induction before generalizing entries with
  | nil => rw [List.nil_append, mergeBindings, nothing]; rfl
  | cons binding before ih =>
      rw [List.cons_append, List.cons_append, mergeBindings, mergeBindings]
      cases addBinding entries binding with
      | error => rfl
      | ok entries => exact ih entries

end Jinja

namespace Interpolator

open Mustache (Host Memory present)

/-- A binding makes no difference: the outcome is the same without it, and so is the memory. -/
def Idle (interpolator : Interpolator) (host : Host) (template : String) (memory : Memory)
    (before : List Value) (v : Value) (after : List Value) : Prop :=
  interpolator.interpolate host template (before ++ v :: after) memory =
    interpolator.interpolate host template (before ++ after) memory

section

variable {host : Host} {template : String} {memory : Memory} {before after : List Value}

theorem idle_jinja (options : Jinja.Options) {v : Value} (nothing : v = .null ∨ v = .dict []) :
    (jinja options).Idle host template memory before v after := by
  have merged : ∀ entries, Jinja.addBinding entries v = .ok entries := by
    rcases nothing with rfl | rfl <;> exact fun _ => rfl
  rw [Idle, interpolate_jinja, interpolate_jinja, Jinja.interpolateWith, Jinja.interpolateWith,
    Jinja.mergeBindings_remove merged]

theorem idle_of_scopesOf_eq {v : Value}
    (same : Mustache.scopesOf (before ++ v :: after) = Mustache.scopesOf (before ++ after))
    (warn : Bool) : (mustache warn).Idle host template memory before v after := by
  rw [Idle, interpolate_mustache, interpolate_mustache, Mustache.interpolate_eq,
    Mustache.interpolate_eq, same]

/-- Without other bindings there is an empty mapping anyway. -/
theorem idle_of_alone (none : present (before ++ after) = []) (warn : Bool) :
    (mustache warn).Idle host template memory before (.dict []) after := by
  refine idle_of_scopesOf_eq ?_ warn
  obtain ⟨noneAfter, noneBefore⟩ :=
    List.append_eq_nil_iff.mp ((Mustache.present_append before after).symm.trans none)
  rw [Mustache.scopesOf_empty, Mustache.scopesOf_eq, none, noneAfter, noneBefore]
  rfl

theorem idle_of_covers (hostTidy : host.Tidy) (templateTidy : Mustache.Tidy host template.toList)
    (memoryTidy : memory.Tidy host) (covers : Mustache.Covers (present before) (present after))
    (warn : Bool) : (mustache warn).Idle host template memory before (.dict []) after := by
  have alike := Mustache.alike_of_covers covers
  have some : present (before ++ after) ≠ [] := by
    rw [Mustache.present_append]
    intro none
    rw [(List.append_eq_nil_iff.mp none).1] at covers
    exact covers
  have without : Mustache.scopesOf (before ++ after) = present after ++ present before := by
    rw [Mustache.scopesOf_eq, if_neg (mt List.isEmpty_iff.mp some), Mustache.present_append]
  rw [← Mustache.scopesOf_empty, ← without] at alike
  rw [Idle, interpolate_mustache, interpolate_mustache,
    Mustache.interpolate_eq_of_alike hostTidy templateTidy memoryTidy alike]

theorem interpolate_eq_of_last
    (faultless : ∀ complaint, .fail complaint ∉ Mustache.scan template.toList)
    (memoryTidy : memory.Tidy host) (last : present after = []) (others : present before ≠ [])
    (warn : Bool) :
    ((mustache warn).interpolate host template (before ++ .dict [] :: after) memory).1 = .ok "" := by
  have hidden : Mustache.hides (Mustache.scopesOf (before ++ .dict [] :: after)) := by
    rw [Mustache.scopesOf_empty, last]
    simpa [Mustache.hides, Value.truthy] using others
  obtain ⟨memory', rendered⟩ := Mustache.interpolate_of_hides faultless memoryTidy hidden
  rw [interpolate_mustache, rendered]

end

/-- Where a binding that defines nothing makes no difference, and where an empty mapping hides all. -/
theorem idle_of_defines_nothing (host : Host) (template : String) (memory : Memory)
    (before after : List Value) :
    (∀ options v, v = .null ∨ v = .dict [] →
      (jinja options).Idle host template memory before v after) ∧
    ∀ warn,
      (mustache warn).Idle host template memory before .null after ∧
      (present (before ++ after) = [] →
        (mustache warn).Idle host template memory before (.dict []) after) ∧
      (host.Tidy → Mustache.Tidy host template.toList → memory.Tidy host →
        Mustache.Covers (present before) (present after) →
        (mustache warn).Idle host template memory before (.dict []) after) ∧
      ((∀ complaint, .fail complaint ∉ Mustache.scan template.toList) → memory.Tidy host →
        present after = [] → present before ≠ [] →
        ((mustache warn).interpolate host template (before ++ .dict [] :: after) memory).1 =
          .ok "") := by
  refine ⟨fun options _ nothing => idle_jinja options nothing, fun warn => ⟨?_, ?_, ?_, ?_⟩⟩
  · exact idle_of_scopesOf_eq (Mustache.scopesOf_null before after) warn
  · exact fun none => idle_of_alone none warn
  · exact fun hostTidy templateTidy memoryTidy covers =>
      idle_of_covers hostTidy templateTidy memoryTidy covers warn
  · exact fun faultless memoryTidy last others =>
      interpolate_eq_of_last faultless memoryTidy last others warn

/-- A host without lambdas and without other templates. -/
def bareHost : Host := { lambda? := fun _ => none, included := fun _ => .ok "" }

-- An inverted section inside a section over a list of the same key: the first end tag is taken
-- for the outer one, so that the second one drops the last binding, and the empty mapping comes
-- to be the innermost scope.
example : ((mustache false).interpolate bareHost
    "\x7b\x7b#l\x7d\x7d\x7b\x7b^l\x7d\x7d\x7b\x7b/l\x7d\x7d\x7b\x7b/l\x7d\x7dx"
    [.ofFields [("a", .int 1)], .dict [], .ofFields [("l", .list [.int 1])]] {}).1 = .ok "" := rfl

/-- An empty mapping before one that defines a user makes no difference. -/
theorem idle_of_first :
    (mustache false).Idle bareHost
      "\x7b\x7b#user\x7d\x7dHi \x7b\x7bname\x7d\x7d\x7b\x7b/user\x7d\x7d" {} [] (.dict [])
      [.ofFields [("user", .ofFields [("name", .str "World")])]] := by
  have tidy : bareHost.Tidy := by
    refine ⟨fun key text same => ?_, nofun⟩
    cases same
    exact .done
  have steps : Mustache.scan
      "\x7b\x7b#user\x7d\x7dHi \x7b\x7bname\x7d\x7d\x7b\x7b/user\x7d\x7d".toList =
        [.lineEnds 0, .sectionOpened, .token (.opening "user"), .lineEnds 0,
          .token (.text "Hi ".toList), .token (.escaped "name"), .lineEnds 0,
          .token (.closing "user")] := rfl
  refine ((idle_of_defines_nothing _ _ _ _ _).2 false).2.2.1 tidy ?_ ⟨nofun, nofun⟩
    ⟨.inl rfl, nofun⟩
  rw [Mustache.Tidy, steps]
  exact .lineEnds _ (.sectionOpened (.opening nofun (.lineEnds _ (.inline rfl (.inline rfl
    (.lineEnds _ (.closing .done)))))))

/-- An empty mapping after one that defines a name hides the name, and the text around it. -/
theorem not_idle_of_last :
    ¬ (mustache false).Idle bareHost "Hi \x7b\x7bname\x7d\x7d" {}
      [.ofFields [("name", .str "World")]] (.dict []) [] := by
  have hidden : ((mustache false).interpolate bareHost "Hi \x7b\x7bname\x7d\x7d"
      [.ofFields [("name", .str "World")], .dict []] {}).1 = .ok "" := rfl
  have shown : ((mustache false).interpolate bareHost "Hi \x7b\x7bname\x7d\x7d"
      [.ofFields [("name", .str "World")]] {}).1 = .ok "Hi World" := rfl
  intro idle
  have same := (hidden.symm.trans (congrArg Prod.fst idle)).trans shown
  exact absurd (Except.ok.inj same) (by decide)

end Interpolator

end TagWeave
