import TagWeave.Proofs.Files.Rewritten
import TagWeave.Proofs.Interpolation.Escapes

/-!
# Files that an interpolation reads

Of a Jinja template only what the engine itself reads shows in the outcome. A mustache template
reads the files of the templates that it includes, and no others: as long as its rendering comes to
no template to be included whose path can be that of a file, the outcome is the same whatever the
files are, and so it is for a template without tags that include. If it comes to one, then the file
of this one is read, and shows in the outcome.

This holds of any engine that asks for the included templates one after the other.
-/

namespace TagWeave

open TagWeave.Text

namespace Mustache

/-- The path of the template of a key. -/
def pathOf (key : String) : String := Path.below "." (key ++ ".mustache")

/-! ### The files of templates -/

/-- Whether there can be a file at the path of a key's template. -/
def Fileable (key : String) : Prop :=
  FileTree.pathFault? (pathOf key) = none ∧
    ∃ (files : FileTree) (location : List String) (bytes : List UInt8),
      files.locate (pathOf key) = .ok (location, .file bytes)

/-- What is included for a key whose template can have no file. -/
def unfiled (key : String) : Except Fault String :=
  match FileTree.pathFault? (pathOf key) with
  | some fault => .error fault
  | none => .ok ""

theorem isRaised_of_unfiled {key : String} {fault : Fault} (refused : unfiled key = .error fault) :
    fault.isRaised = false := by
  rw [unfiled] at refused
  split at refused
  · next unnameable =>
    cases refused
    exact isRaised_of_pathFault? unnameable
  · cases refused

theorem included_of_not_fileable {key : String} (not : ¬ Fileable key) (files : FileTree)
    (depth : Nat) : (Host.ofFiles (fun _ => none) files depth).included key = unfiled key := by
  rw [Host.ofFiles, unfiled]
  simp only [FileTree.readText, FileTree.readTextAs, FileTree.readBytes]
  rw [← pathOf]
  cases plain : FileTree.pathFault? (pathOf key) with
  | some fault =>
      obtain ⟨e, rfl⟩ | rfl := FileTree.pathFault?_cases plain <;> rfl
  | none =>
      simp only
      cases located : files.locate (pathOf key) with
      | error => rfl
      | ok found =>
          obtain ⟨location, entry⟩ := found
          cases entry with
          | directory => rfl
          | file bytes => exact absurd ⟨plain, files, location, bytes, located⟩ not

/-- The file of a template may hold bytes that are no text, of several kinds. -/
theorem exists_included_of_fileable {key : String} (fileable : Fileable key) {b : UInt8}
    (bad : 0xf4 < b) (depth : Nat) : ∃ files, (Host.ofFiles (fun _ => none) files depth).included key =
      .error (.undecodable ⟨"utf-8", 0, [b], .badStart⟩) := by
  obtain ⟨plain, files, location, bytes, located⟩ := fileable
  have rewritten := FileTree.locate_setEntry_file located [b]
  have utf8 : Encoding.ofName? "utf-8" = some .utf8 := by decide
  have large : ¬ b < 0x80 := fun small => absurd (UInt8.lt_trans bad small) (by decide)
  have decoded : decode .utf8 [b] = .error ⟨"utf-8", 0, [b], .badStart⟩ := by
    rw [decode, decodeUtf8From]
    simp only [large, bad, decide_true, Bool.or_true, if_true, if_false]
  refine ⟨files.setEntry location (.file [b]), ?_⟩
  rw [Host.ofFiles]
  simp only [FileTree.readText, FileTree.readTextAs, FileTree.readBytes]
  rw [← pathOf]
  simp only [plain, rewritten, utf8, decoded]

/-- A directory that holds the template of a key. -/
def treeWith (key : String) (bytes : List UInt8) : FileTree :=
  { entries := [([key ++ ".mustache"], .file bytes)] }

/-! ### The first file that is asked for -/

/-- The fault that tells which template was asked for. -/
def question (key : String) : Fault := .raised "" key

open Classical in
/-- A host without lambdas that tells which template it was asked for, if there can be a file for it. -/
noncomputable def Host.asked (depth : Nat) : Host where
  lambda? _ := none
  depth := depth
  included key := if Fileable key then .error (question key) else unfiled key

/-- The key that an outcome asks for. -/
def keyAsked? : Except InterpolationFault String → Option String
  | .error (.mustacheFailed (.raised "" key)) => some key
  | _ => none

/-- The key of the first template to be included that a rendering without lambdas comes to and that
can have a file. -/
noncomputable def firstFile? (engine : Engine) (depth : Nat) (template : String)
    (bindings : List Value) (memory : Memory) : Option String :=
  keyAsked? ((interpolateWith engine (.asked depth) template bindings).run.run memory).1

section

variable {engine : Engine} {depth : Nat} {template : String} {bindings : List Value} {memory : Memory}

theorem keyAsked?_of_isRaised {fault : Fault} (plain : fault.isRaised = false) :
    keyAsked? (.error (.mustacheFailed fault)) = none := by
  cases fault with
  | raised => cases plain
  | _ => rfl

/-- What the engine fails with by itself asks for nothing. -/
theorem keyAsked?_of_own {fault : Fault}
    (own : fault.isRaised = false ∨ (Host.asked depth).Raises fault) :
    keyAsked? (.error (.mustacheFailed fault)) = none := by
  rcases own with own | ⟨_, _, _, found, _⟩
  · exact keyAsked?_of_isRaised own
  · cases found

theorem Host.included_asked {key : String} {fault : Fault}
    (refused : (Host.asked depth).included key = .error fault) :
    Fileable key ∧ fault = question key ∨
      ¬ Fileable key ∧ unfiled key = .error fault := by
  rw [Host.asked] at refused
  simp only at refused
  split at refused
  · next fileable =>
    cases refused
    exact .inl ⟨fileable, rfl⟩
  · next not => exact .inr ⟨not, refused⟩

theorem Host.asked_within (depth : Nat) (files : FileTree) :
    (Host.asked depth).Within (.ofFiles (fun _ => none) files depth) where
  lambdas := rfl
  depth := rfl
  included key text included := by
    rw [Host.asked] at included
    simp only at included
    split at included
    · cases included
    · next not => rw [included_of_not_fileable not files depth, included]

variable (asks : engine.Asks)

include asks

/-- If no file is asked for, the files make no difference. -/
theorem run_of_no_file (none : firstFile? engine depth template bindings memory = none) (files : FileTree) :
    (interpolateWith engine (.ofFiles (fun _ => Option.none) files depth) template bindings).run.run
        memory = (interpolateWith engine (.asked depth) template bindings).run.run memory := by
  have parted := asks (Host.asked_within depth files) template (scopesOf bindings) memory
  rw [firstFile?] at none
  rw [interpolateWith] at none ⊢
  rw [interpolateWith]
  generalize (engine (.asked depth) template (scopesOf bindings)).run.run memory = outcome at parted none ⊢
  generalize (engine (.ofFiles _ files depth) template (scopesOf bindings)).run.run memory = outcome'
    at parted ⊢
  cases parted with
  | result | malformed | failed => rfl
  | parted refused same =>
      rcases Host.included_asked refused with ⟨-, rfl⟩ | ⟨not, unfiled⟩
      · cases none
      · exact same _ ((included_of_not_fileable not files depth).trans unfiled)

/-- A file that is asked for can be there. -/
theorem fileable_of_firstFile? {key : String}
    (first : firstFile? engine depth template bindings memory = some key) :
    Fileable key ∧ ∀ files fault,
      (Host.ofFiles (fun _ => none) files depth).included key = .error fault →
        ((interpolateWith engine (.ofFiles (fun _ => none) files depth) template bindings).run.run
          memory).1 = .error (.mustacheFailed fault) := by
  have told (files) : Fileable key ∧ ∀ fault,
      (Host.ofFiles (fun _ => none) files depth).included key = .error fault →
        ((interpolateWith engine (.ofFiles (fun _ => none) files depth) template bindings).run.run
          memory).1 = .error (.mustacheFailed fault) := by
    have parted := asks (Host.asked_within depth files) template (scopesOf bindings) memory
    rw [firstFile?, interpolateWith] at first
    rw [interpolateWith]
    generalize (engine (.asked depth) template (scopesOf bindings)).run.run memory = outcome at parted first
    generalize (engine (.ofFiles _ files depth) template (scopesOf bindings)).run.run memory = outcome'
      at parted ⊢
    cases parted with
    | result | malformed => cases first
    | failed memory own =>
        rw [keyAsked?_of_own own] at first
        cases first
    | parted refused same =>
        rcases Host.included_asked refused with ⟨fileable, rfl⟩ | ⟨-, unfiled⟩
        · cases first
          refine ⟨fileable, fun fault included => ?_⟩
          rw [same fault included]
        · rw [keyAsked?_of_isRaised (isRaised_of_unfiled unfiled)] at first
          cases first
  exact ⟨(told {}).1, fun files => (told files).2⟩

end

/-! ### Templates that include none -/

section

variable {template : String} {bindings : List Value} {memory : Memory} {host host' : Host}

theorem run_renderAt_of_bare (quiet : host.lambda? = fun _ => none)
    (quiet' : host'.lambda? = fun _ => none) (depth : Nat) {text : List Char}
    (bare : Bare (scan text)) (known : ∀ entry ∈ memory.known, Bare (entry.2.map .token))
    (scopes : List Value) :
    (renderAt host (depth + 1) text [] scopes).run.run memory =
      (renderAt host' (depth + 1) text [] scopes).run.run memory := by
  rw [renderAt, renderAt]
  rcases stepsOf_cases text memory with ⟨entry, member, steps⟩ | ⟨-, steps⟩
  · rw [run_bind_ok steps, run_bind_ok steps, run_of_bare quiet quiet' _ (known entry member)]
  · rw [run_bind_ok steps, run_bind_ok steps, run_of_bare quiet quiet' _ bare]

/-- A template that includes none is rendered in the same way with all hosts without lambdas. -/
theorem run_render_of_bare (quiet : host.lambda? = fun _ => none)
    (quiet' : host'.lambda? = fun _ => none) (depth : host.depth = host'.depth)
    (bare : Bare (scan template.toList)) (known : ∀ entry ∈ memory.known, Bare (entry.2.map .token))
    (scopes : List Value) :
    (render host template scopes).run.run memory = (render host' template scopes).run.run memory := by
  have rendered := run_renderAt_of_bare quiet quiet' host.depth bare known scopes
  rw [render, render, ExceptT.run_bind, StateT.run_bind, ExceptT.run_bind, StateT.run_bind, rendered,
    depth]

/-- A template that includes none asks for no file. -/
theorem firstFile?_eq_none (bare : Bare (scan template.toList))
    (known : ∀ entry ∈ memory.known, Bare (entry.2.map .token)) :
    firstFile? render depth template bindings memory = none := by
  -- A host that refuses nothing gives the same outcome, and raises nothing.
  let silent : Host := { lambda? := fun _ => none, included := fun _ => .ok "", depth }
  have parted := asks_render (⟨rfl, rfl, fun _ _ same => same⟩ : silent.Within silent) template
    (scopesOf bindings) memory
  have quiet : (Host.asked depth).lambda? = fun _ => none := rfl
  have quiet' : silent.lambda? = fun _ => none := rfl
  have nests : (Host.asked depth).depth = silent.depth := rfl
  have same := run_render_of_bare quiet quiet' nests bare known (scopesOf bindings)
  rw [firstFile?, interpolateWith, same]
  generalize (render silent template (scopesOf bindings)).run.run memory = outcome at parted ⊢
  cases parted with
  | result | malformed => rfl
  | failed memory own =>
      rcases own with own | ⟨_, _, _, found, _⟩
      · exact keyAsked?_of_isRaised own
      · cases found
  | parted refused => cases refused

end

end Mustache

/-- With an engine, the outcome for a Jinja template tells what the engine has rendered. -/
theorem Jinja.interpolateWith_eq_iff {engine engine' : Engine} {options : Options} {template : String}
    {bindings : List Value} :
    interpolateWith engine options template bindings = interpolateWith engine' options template bindings ↔
      ∀ entries, mergeBindings [] bindings = .ok entries →
        render engine options template entries = render engine' options template entries := by
  rw [interpolateWith, interpolateWith]
  cases merged : mergeBindings [] bindings with
  | error => simp
  | ok entries =>
      simp only [Except.ok.injEq, forall_eq']
      rcases render engine options template entries with (_ | _) | _ <;>
        rcases render engine' options template entries with (_ | _) | _ <;> simp

namespace Interpolator

/-- What a Jinja template's outcome shows of the files is what the engine has rendered. What a
mustache template reads are the files of the templates that it includes, and no others: the outcome
is the same for all files if and only if none is asked for, and so is then the memory that is left;
and none is asked for by a template that has no tag that includes one. -/
theorem files_unread_iff (engine : Mustache.Engine) (asks : engine.Asks)
    (jinjaEngine : FileTree → Jinja.Engine) (interpolator : Interpolator) (depth : Nat)
    (template : String) (bindings : List Value) (memory : Mustache.Memory) :
    let outcome files := interpolator.interpolateWith ⟨engine, jinjaEngine files⟩
      (.ofFiles (fun _ => none) files depth) template bindings memory
    match interpolator with
    | .jinja options =>
      ∀ files files', outcome files = outcome files' ↔
        ∀ entries, Jinja.mergeBindings [] bindings = .ok entries →
          Jinja.render (jinjaEngine files) options template entries =
            Jinja.render (jinjaEngine files') options template entries
    | .mustache _ =>
      ((∀ files files', (outcome files).1 = (outcome files').1) ↔
        Mustache.firstFile? engine depth template bindings memory = none) ∧
      (Mustache.firstFile? engine depth template bindings memory = none →
        ∀ files files', outcome files = outcome files') ∧
      (engine = Mustache.render → Mustache.Bare (Mustache.scan template.toList) →
        (∀ entry ∈ memory.known, Mustache.Bare (entry.2.map .token)) →
        ∀ files files', outcome files = outcome files') := by
  intro outcome
  cases interpolator with
  | jinja options =>
      intro files files'
      simp only [outcome, interpolateWith, Prod.mk.injEq, and_true]
      exact Jinja.interpolateWith_eq_iff
  | mustache warn =>
      have alike (none : Mustache.firstFile? engine depth template bindings memory = none)
          (files files' : FileTree) : outcome files = outcome files' := by
        simp only [outcome, interpolateWith]
        rw [Mustache.run_of_no_file asks none files, Mustache.run_of_no_file asks none files']
      refine ⟨⟨fun same => ?_, fun none files files' => ?_⟩, alike, ?_⟩
      · cases first : Mustache.firstFile? engine depth template bindings memory with
        | none => rfl
        | some key =>
            obtain ⟨fileable, refused⟩ := Mustache.fileable_of_firstFile? asks first
            have fails (b : UInt8) (bad : 0xf4 < b) : ∃ files, (outcome files).1 = .error
                (.interpolation (.mustacheFailed (.undecodable ⟨"utf-8", 0, [b], .badStart⟩))) := by
              obtain ⟨files, included⟩ := Mustache.exists_included_of_fileable fileable bad depth
              have failed := refused files _ included
              refine ⟨files, ?_⟩
              simp only [outcome, interpolateWith]
              split
              · next returned =>
                rw [returned] at failed
                cases failed
              · next refusal =>
                rw [refusal] at failed
                cases failed
                rfl
            obtain ⟨files, one⟩ := fails 0xff (by decide)
            obtain ⟨files', another⟩ := fails 0xfe (by decide)
            have equal := (one.symm.trans (same files files')).trans another
            simp at equal
      · rw [alike none files files']
      · rintro rfl bare known
        exact alike (Mustache.firstFile?_eq_none bare known)

/-- A template in a file next to the current directory shows in the output. -/
theorem partial_shows :
    let outcome files := (mustache false).interpolate (.ofFiles (fun _ => none) files)
      "\x7b\x7b> p\x7d\x7d" [] {}
    (outcome (Mustache.treeWith "p" [0x50])).1 = .ok "P" ∧ (outcome {}).1 = .ok "" :=
  ⟨rfl, rfl⟩

/-- A template without tags that include renders alike whether or not there are templates to include. -/
theorem files_unread_of_greeting :
    let outcome files := (mustache false).interpolateWith .own (.ofFiles (fun _ => none) files)
      "Hi \x7b\x7bname\x7d\x7d" [.ofFields [("name", .str "World")]] {}
    outcome (Mustache.treeWith "name" [0x50]) = outcome {} := by
  refine (files_unread_iff Mustache.render Mustache.asks_render (fun _ => Jinja.engine)
    (mustache false) _ _ _ {}).2.2 rfl ?_ (List.forall_mem_nil _) _ _
  have steps : Mustache.scan "Hi \x7b\x7bname\x7d\x7d".toList =
      [.lineEnds 0, .token (.text "Hi ".toList), .token (.escaped "name")] := rfl
  rw [Mustache.Bare, steps]
  simp

end Interpolator

end TagWeave
