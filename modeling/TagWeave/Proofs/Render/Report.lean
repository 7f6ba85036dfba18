import TagWeave.Proofs.Render.Passes
import TagWeave.Proofs.Text.Order

/-!
# What reports tell

A report has the names and the labels of the tags that its passes resolved, each of them
once, and the number of tags that each pass resolved.
-/

namespace TagWeave

open TagWeave.Text

namespace Report

variable {report report' : Report} {resolved resolved' : List (ViewTag × Content)}

/-- A set of the report has, after a pass, also what each resolved tag adds to it. -/
theorem mem_recordResolved (set : Report → List String) (adds : ViewTag → Content → Prop)
    {s : String} (recorded : ∀ report n, set (recordPass report n) = set report)
    (noted : ∀ report tag content, s ∈ set (noteTag report tag.name content.labels) ↔
      s ∈ set report ∨ adds tag content) :
    s ∈ set (report.recordResolved resolved) ↔
      s ∈ set report ∨ ∃ pair ∈ resolved, adds pair.1 pair.2 := by
  rw [recordResolved, ← recorded report resolved.length]
  generalize report.recordPass resolved.length = start
  induction resolved generalizing start with
  | nil => simp
  | cons pair resolved ih =>
      obtain ⟨tag, content⟩ := pair
      rw [List.foldl_cons, ih, noted, or_assoc]
      simp

theorem mem_tagNames_recordResolved {name : String} :
    name ∈ (report.recordResolved resolved).tagNames ↔
      name ∈ report.tagNames ∨ ∃ pair ∈ resolved, name = pair.1.name :=
  mem_recordResolved tagNames (fun tag _ => name = tag.name) (fun _ _ => rfl) fun _ _ _ => mem_addTo

theorem mem_labels_recordResolved {label : String} :
    label ∈ (report.recordResolved resolved).labels ↔
      label ∈ report.labels ∨ ∃ pair ∈ resolved, label ∈ pair.2.labels :=
  mem_recordResolved labels (fun _ content => label ∈ content.labels) (fun _ _ => rfl)
    fun _ _ _ => mem_foldl_addTo

/-- The names and the labels are sets: each of them occurs once. -/
structure Tidy (report : Report) : Prop where
  tagNames : report.tagNames.Nodup
  labels : report.labels.Nodup

theorem tidy_empty : Tidy {} := ⟨List.nodup_nil, List.nodup_nil⟩

theorem Tidy.noteTag (tidy : report.Tidy) (name : String) (labels : List String) :
    (report.noteTag name labels).Tidy :=
  ⟨nodup_addTo tidy.tagNames name, nodup_foldl_addTo tidy.labels labels⟩

theorem Tidy.recordResolved (tidy : report.Tidy) (resolved : List (ViewTag × Content)) :
    (report.recordResolved resolved).Tidy := by
  have counted : (report.recordPass resolved.length).Tidy := ⟨tidy.tagNames, tidy.labels⟩
  rw [Report.recordResolved]
  generalize report.recordPass resolved.length = start at counted
  induction resolved generalizing start with
  | nil => exact counted
  | cons pair resolved ih => exact ih _ (counted.noteTag pair.1.name pair.2.labels)

/-- Two reports tell the same: they count the same tags pass by pass, and have the same names and
labels, in whatever order they came by them. -/
structure Agrees (report report' : Report) : Prop where
  resolvedPerPass : report.resolvedPerPass = report'.resolvedPerPass
  tagNames : report.tagNames.Perm report'.tagNames
  labels : report.labels.Perm report'.labels

theorem Agrees.refl (report : Report) : report.Agrees report := ⟨rfl, .refl _, .refl _⟩

/-- Reports that tell the same show the same. -/
theorem Agrees.toFields_eq (agrees : report.Agrees report') (elapsed : Float) :
    report.toFields elapsed = report'.toFields elapsed := by
  rw [toFields, toFields, passes, passes, retrievals, retrievals, agrees.resolvedPerPass,
    sorted_eq_of_perm agrees.tagNames, sorted_eq_of_perm agrees.labels]

/-- They go on to do so after a pass, in whatever order it resolved its tags. -/
theorem Agrees.recordResolved (agrees : report.Agrees report') (tidy : report.Tidy)
    (tidy' : report'.Tidy) (perm : resolved.Perm resolved') :
    (report.recordResolved resolved).Agrees (report'.recordResolved resolved') := by
  have after := tidy.recordResolved resolved
  have after' := tidy'.recordResolved resolved'
  constructor
  · rw [resolvedPerPass_recordResolved, resolvedPerPass_recordResolved, agrees.resolvedPerPass,
      perm.length_eq]
  · apply (List.perm_ext_iff_of_nodup after.tagNames after'.tagNames).mpr
    intro name
    simp only [mem_tagNames_recordResolved, agrees.tagNames.mem_iff, perm.mem_iff]
  · apply (List.perm_ext_iff_of_nodup after.labels after'.labels).mpr
    intro label
    simp only [mem_labels_recordResolved, agrees.labels.mem_iff, perm.mem_iff]

end Report

namespace Steps

variable {ω : Type} {steps : Steps ω} {stage last : Stage ω} {passes : List Pass}

/-- A run counts the tags of each of its passes. -/
theorem Run.resolvedPerPass (run : steps.Run stage passes last) :
    last.report.resolvedPerPass =
      stage.report.resolvedPerPass ++ passes.map (·.resolved.length) := by
  induction run with
  | nil stage => exact (List.append_nil _).symm
  | cons first _ ih =>
      rw [ih, first.report, Report.resolvedPerPass_recordResolved, List.append_assoc]
      rfl

/-- A set of the report has, after a run, also what each resolved tag of its passes adds to it. -/
theorem Run.mem_report (set : Report → List String) (adds : ViewTag → Content → Prop) {s : String}
    (recorded : ∀ report resolved, s ∈ set (Report.recordResolved report resolved) ↔
      s ∈ set report ∨ ∃ pair ∈ resolved, adds pair.1 pair.2)
    (run : steps.Run stage passes last) :
    s ∈ set last.report ↔ s ∈ set stage.report ∨
      ∃ pair ∈ passes.flatMap (·.resolved), adds pair.1 pair.2 := by
  induction run with
  | nil stage => simp
  | cons first _ ih =>
      rw [ih, first.report, recorded, or_assoc, List.flatMap_cons]
      simp only [List.mem_append, or_and_right, exists_or]

theorem Run.mem_tagNames (run : steps.Run stage passes last) {name : String} :
    name ∈ last.report.tagNames ↔ name ∈ stage.report.tagNames ∨
      ∃ pair ∈ passes.flatMap (·.resolved), name = pair.1.name :=
  run.mem_report Report.tagNames (fun tag _ => name = tag.name)
    fun _ _ => Report.mem_tagNames_recordResolved

theorem Run.mem_labels (run : steps.Run stage passes last) {label : String} :
    label ∈ last.report.labels ↔ label ∈ stage.report.labels ∨
      ∃ pair ∈ passes.flatMap (·.resolved), label ∈ pair.2.labels :=
  run.mem_report Report.labels (fun _ content => label ∈ content.labels)
    fun _ _ => Report.mem_labels_recordResolved

theorem Run.tidy (run : steps.Run stage passes last) (tidy : stage.report.Tidy) :
    last.report.Tidy := by
  induction run with
  | nil stage => exact tidy
  | @cons stage mid last pass passes first _ ih =>
      apply ih
      rw [first.report]
      exact tidy.recordResolved pass.resolved

end Steps

end TagWeave
