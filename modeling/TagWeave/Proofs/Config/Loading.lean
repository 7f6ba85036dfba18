import TagWeave.Proofs.Config.Coercion
import TagWeave.Proofs.Config.Session

/-!
# How a load fails

A load that reads the sources gives a configuration or a configuration error, with a few
exceptions, which are faults of what it uses: a path that is too long or leads to a directory,
bytes that are no text, a document that the reader of YAML cannot read and does not refuse by an
error of its own, a configuration that cannot be copied, an override that is an integer with too
many digits or that the reader of JSON cannot read, and a check that cannot be made or told of.

This holds of any tools that a load makes use of.
-/

namespace TagWeave.Config

open TagWeave.Text
open Linked (entryValues)

/-- Whether a manager reads the sources when it is asked for a configuration. -/
def Manager.reads (manager : Manager) (reload : Bool) : Prop :=
  manager.kept? = none ∨ reload = true

/-- The faults of a file with a configuration that are no configuration errors. -/
inductive FileLapse (yaml : Yaml.Loader) (files : FileTree) (path : String) : Fault → Prop where
  | nameTooLong : files.locate path = .error .nameTooLong →
      FileLapse yaml files path (.file .nameTooLong path)
  | directory {location : List String} : files.locate path = .ok (location, .directory) →
      FileLapse yaml files path (.file .isDirectory path)
  | undecodable {location : List String} {bytes : List UInt8} {error : DecodeError} :
      files.locate path = .ok (location, .file bytes) → decode .utf8 bytes = .error error →
      FileLapse yaml files path (.undecodable error)
  | document {location : List String} {bytes : List UInt8} {cs : List Char} {fault : Fault} :
      files.locate path = .ok (location, .file bytes) → decode .utf8 bytes = .ok cs →
      yaml (String.ofList (unixLines cs)) = .error (.other fault) →
      FileLapse yaml files path fault

/-- The faults of a manager's sources that are no configuration errors. -/
inductive Lapse (tools : Tools) (manager : Manager) (files : FileTree) (environment : Environment)
    (checked : Bool) : Fault → Prop where
  | file {path : String} {fault : Fault} : manager.file? = some path →
      FileTree.pathFault? path = none → FileLapse tools.yaml files path fault →
      Lapse tools manager files environment checked fault
  | copy {config : LinkedEntries} {fault : Fault} : merged files manager.file? tools.yaml = .ok config →
      tools.copyFault? config = some fault → Lapse tools manager files environment checked fault
  | override {config laid : LinkedEntries} {before after : List (String × String)}
      {name text : String} {path : List String} {fault : Fault} :
      layered files manager.file? tools = .ok config →
      overridesOf environment = before ++ (name, text) :: after →
      applyOverrides Linked.setAt config before tools.json = (laid, none) → pathOf name = .ok path →
      -- An integer with too many digits, or what stands between brackets and cannot be read.
      (looksInteger (trim text.toList) ∧
          Number.maxDigits < (Number.splitSign (trim text.toList)).2.length ∧
          fault = .tooManyDigits (Number.splitSign (trim text.toList)).2.length ∨
        looksStructured (trim text.toList) ∧
          tools.json (String.ofList (trim text.toList)) = .error fault) →
      Lapse tools manager files environment checked fault
  | check {config laid : LinkedEntries} {fault : Fault} :
      layered files manager.file? tools = .ok config →
      applyOverrides Linked.setAt config (overridesOf environment) tools.json = (laid, none) →
      checked = true → tools.check (.dict (entryValues laid)) = .error fault →
      Lapse tools manager files environment checked fault

/-! ### The file -/

section

variable {files : FileTree} {path : String} {yaml : Yaml.Loader}

/-- What reading a configuration file comes to. -/
theorem readFile_eq (plain : FileTree.pathFault? path = none) :
    readFile files path yaml =
      match files.locate path with
      | .error .nameTooLong => .error (.fault (.file .nameTooLong path))
      | .error _ => .error (.config (.noFile path))
      | .ok (_, .directory) => .error (.fault (.file .isDirectory path))
      | .ok (_, .file bytes) =>
        match decode .utf8 bytes with
        | .error e => .error (.fault (.undecodable e))
        | .ok cs =>
          match yaml (String.ofList (unixLines cs)) with
          | .error (.text f) => .error (.config (.badYaml path f))
          | .error (.other f) => .error (.fault f)
          | .ok (.single .null) => .ok []
          | .ok (.dict _ entries) => .ok entries
          | .ok _ => .error (.config (.notMapping path)) := by
  have utf8 : Encoding.ofName? "utf-8" = some .utf8 := by decide
  rw [readFile, FileTree.pathExists, FileTree.readText, FileTree.readTextAs, FileTree.readBytes,
    plain, utf8]
  simp only [Option.isSome_none, Bool.false_eq_true, if_false]
  cases files.locate path with
  | error fault => cases fault <;> rfl
  | ok found =>
      obtain ⟨location, entry⟩ := found
      cases entry with
      | directory => rfl
      | file bytes =>
          dsimp only
          cases decode .utf8 bytes <;> rfl

theorem readFile_error {e : Error} (failed : readFile files path yaml = .error e) :
    (∃ fault, e = .config fault) ∨ ∃ fault, e = .fault fault ∧ FileTree.pathFault? path = none ∧
      FileLapse yaml files path fault := by
  cases plain : FileTree.pathFault? path with
  | some fault =>
      rw [readFile, FileTree.pathExists, plain] at failed
      cases failed
      exact .inl ⟨_, rfl⟩
  | none =>
      rw [readFile_eq plain] at failed
      split at failed
      · next located =>
        cases failed
        exact .inr ⟨_, rfl, rfl, .nameTooLong located⟩
      · cases failed
        exact .inl ⟨_, rfl⟩
      · next located =>
        cases failed
        exact .inr ⟨_, rfl, rfl, .directory located⟩
      · next located =>
        split at failed
        · next undecoded =>
          cases failed
          exact .inr ⟨_, rfl, rfl, .undecodable located undecoded⟩
        · next decoded =>
          split at failed
          · cases failed
            exact .inl ⟨_, rfl⟩
          · next refused =>
            cases failed
            exact .inr ⟨_, rfl, rfl, .document located decoded refused⟩
          · cases failed
          · cases failed
          · cases failed
            exact .inl ⟨_, rfl⟩

theorem readFile_of_lapse {fault : Fault} (plain : FileTree.pathFault? path = none)
    (lapse : FileLapse yaml files path fault) :
    readFile files path yaml = .error (.fault fault) := by
  rw [readFile_eq plain]
  cases lapse with
  | nameTooLong located => rw [located]
  | directory located => rw [located]
  | undecodable located undecoded =>
      rw [located]
      dsimp only
      rw [undecoded]
  | document located decoded refused =>
      rw [located]
      dsimp only
      rw [decoded]
      dsimp only
      rw [refused]

end

/-! ### The overrides -/

section

variable {σ : Type} {set : σ → Value → List String → Except String σ} {config laid : σ}
  {before after : List (String × String)} {name text : String} {json : Json.Reader} {e : Error}

theorem applyOverrides_append (set : σ → Value → List String → Except String σ) (config : σ)
    (before after : List (String × String)) (json : Json.Reader) :
    applyOverrides set config (before ++ after) json =
      match applyOverrides set config before json with
      | (laid, none) => applyOverrides set laid after json
      | failed => failed := by
  induction before generalizing config with
  | nil => rfl
  | cons override before ih =>
      rw [List.cons_append, applyOverrides, applyOverrides]
      cases applyOverride set config override.1 override.2 json with
      | error => rfl
      | ok config => exact ih config

/-- Overrides fail at one of them, before which all could be applied. -/
theorem applyOverrides_error {named : List (String × String)}
    (failed : applyOverrides set config named json = (laid, some e)) :
    ∃ before name text after, named = before ++ (name, text) :: after ∧
      applyOverrides set config before json = (laid, none) ∧
      applyOverride set laid name text json = .error e := by
  induction named generalizing config with
  | nil => cases failed
  | cons override named ih =>
      obtain ⟨name, text⟩ := override
      rw [applyOverrides] at failed
      cases applied : applyOverride set config name text json with
      | error =>
          simp only [applied, Prod.mk.injEq, Option.some.injEq] at failed
          obtain ⟨rfl, rfl⟩ := failed
          exact ⟨[], name, text, named, rfl, rfl, applied⟩
      | ok next =>
          simp only [applied] at failed
          obtain ⟨before, name', text', after, rfl, done, stopped⟩ := ih failed
          refine ⟨(name, text) :: before, name', text', after, rfl, ?_, stopped⟩
          simp only [applyOverrides, applied]
          exact done

/-- Where the path of an override is malformed, this is a configuration error. -/
theorem pathOf_error (failed : pathOf name = .error e) : ∃ fault, e = .config fault := by
  simp only [pathOf] at failed
  split at failed
  · cases failed
    exact ⟨_, rfl⟩
  · cases failed

/-- An override fails with a configuration error, unless its text cannot be read as a value. -/
theorem applyOverride_error (failed : applyOverride set laid name text json = .error e) :
    (∃ fault, e = .config fault) ∨
      ∃ path fault, pathOf name = .ok path ∧ coerce text json = .error fault ∧ e = .fault fault := by
  rw [applyOverride, readOverride] at failed
  cases spelled : pathOf name with
  | error e' =>
      simp only [spelled] at failed
      cases failed
      exact .inl (pathOf_error spelled)
  | ok path =>
      cases value : coerce text json with
      | error fault =>
          simp only [spelled, value] at failed
          cases failed
          exact .inr ⟨path, fault, rfl, rfl, rfl⟩
      | ok value' =>
          simp only [spelled, value] at failed
          split at failed
          · cases failed
            exact .inl ⟨_, rfl⟩
          · cases failed

end

/-! ### The load -/

theorem validate_error {value : Value} {check : Check} {e : Error}
    (failed : validate value check = .error e) :
    (∃ fault, e = .config fault) ∨ ∃ fault, e = .fault fault ∧ check value = .error fault := by
  rw [validate] at failed
  split at failed
  · next unchecked =>
    cases failed
    exact .inr ⟨_, rfl, unchecked⟩
  · cases failed
  · cases failed
    exact .inl ⟨_, rfl⟩

section

variable {tools : Tools} {manager : Manager} {files : FileTree} {environment : Environment}
  {checked : Bool}

theorem merged_error {e : Error} (failed : merged files manager.file? tools.yaml = .error e) :
    (∃ fault, e = .config fault) ∨
      ∃ fault, e = .fault fault ∧ Lapse tools manager files environment checked fault := by
  cases file : manager.file? with
  | none =>
      rw [file, merged] at failed
      cases failed
  | some path =>
      rw [file, merged] at failed
      cases read : readFile files path tools.yaml with
      | ok entries => simp [read, Except.map] at failed
      | error e' =>
          simp only [read, Except.map, Except.error.injEq] at failed
          subst failed
          refine (readFile_error read).imp_right ?_
          rintro ⟨fault, same, plain, lapse⟩
          exact ⟨fault, same, .file file plain lapse⟩

theorem layered_error {e : Error} (failed : layered files manager.file? tools = .error e) :
    (∃ fault, e = .config fault) ∨
      ∃ fault, e = .fault fault ∧ Lapse tools manager files environment checked fault := by
  rw [layered] at failed
  split at failed
  · next unmerged =>
    cases failed
    exact merged_error unmerged
  · next laid =>
    split at failed
    · next uncopied =>
      cases failed
      exact .inr ⟨_, rfl, .copy laid uncopied⟩
    · cases failed

/-- A read of the sources fails with a configuration error, or with one of the other faults. -/
theorem read_error {e : Error} (failed : (manager.read files environment checked tools).1 = .error e) :
    (∃ fault, e = .config fault) ∨
      ∃ fault, e = .fault fault ∧ Lapse tools manager files environment checked fault := by
  rw [Manager.read] at failed
  cases sources : layered files manager.file? tools with
  | error e' =>
      simp only [sources, Except.error.injEq] at failed
      subst failed
      exact layered_error sources
  | ok config =>
      simp only [sources] at failed
      split at failed
      · next laid e' applied =>
        cases failed
        obtain ⟨before, name, text, after, split, done, stopped⟩ := applyOverrides_error applied
        refine (applyOverride_error stopped).imp_right ?_
        rintro ⟨path, fault, spelled, value, same⟩
        exact ⟨_, same, .override sources split done spelled (coerce_eq_error_iff.mp value)⟩
      · next laid applied =>
        split at failed
        · next asked =>
          split at failed
          · next invalid =>
            cases failed
            refine (validate_error invalid).imp_right ?_
            rintro ⟨fault, same, unchecked⟩
            exact ⟨fault, same, .check sources applied asked unchecked⟩
          · cases failed
        · cases failed

/-- Each of the other faults is what a read fails with. -/
theorem read_of_lapse {fault : Fault} (lapse : Lapse tools manager files environment checked fault) :
    (manager.read files environment checked tools).1 = .error (.fault fault) := by
  rw [Manager.read]
  cases lapse with
  | file named plain lapse =>
      rw [named, layered, merged, readFile_of_lapse plain lapse]
      rfl
  | copy laid uncopied => simp only [layered, laid, uncopied]
  | override sources split done spelled unread =>
      have value := coerce_eq_error_iff.mpr unread
      simp only [sources, split, applyOverrides_append, done, applyOverrides, applyOverride,
        readOverride, spelled, value]
  | check sources applied asked unchecked =>
      simp only [sources, applied, asked, if_true, validate, unchecked]

end

/-- With any tools, a load gives a configuration or fails with a configuration error, unless it reads
the sources and one of the other faults is among them; then it fails with this fault. -/
theorem load_fails_iff (tools : Tools) (manager : Manager) (files : FileTree)
    (environment : Environment) (checked reload : Bool) :
    let answer := (manager.load files environment checked reload tools).1
    (((∃ config, answer = .ok config) ∨ ∃ fault, answer = .error (.config fault)) ↔
      ¬ (manager.reads reload ∧ ∃ fault, Lapse tools manager files environment checked fault)) ∧
    ∀ fault, answer = .error (.fault fault) ↔
      manager.reads reload ∧ Lapse tools manager files environment checked fault := by
  intro answer
  rcases manager.fresh_or_kept reload with reads | ⟨config, kept, rfl⟩
  · have same : answer = (manager.read files environment checked tools).1 := by
      change (manager.load files environment checked reload tools).1 = _
      rw [Manager.load_of_fresh reads, Manager.load.fresh]
      rcases manager.read files environment checked tools with ⟨_ | _, _⟩ <;> rfl
    have lapses (fault : Fault) : answer = .error (.fault fault) ↔
        manager.reads reload ∧ Lapse tools manager files environment checked fault := by
      rw [same]
      refine ⟨fun failed => ⟨reads, ?_⟩, fun lapse => read_of_lapse lapse.2⟩
      rcases read_error failed with ⟨_, ⟨⟩⟩ | ⟨_, ⟨⟩, lapse⟩
      exact lapse
    refine ⟨⟨?_, fun none => ?_⟩, lapses⟩
    · rintro given ⟨-, fault, lapse⟩
      have failed := (lapses fault).mpr ⟨reads, lapse⟩
      rw [failed] at given
      rcases given with ⟨_, ⟨⟩⟩ | ⟨_, ⟨⟩⟩
    · cases given : answer with
      | ok config => exact .inl ⟨config, rfl⟩
      | error e =>
          rcases read_error (same.symm.trans given) with ⟨fault, rfl⟩ | ⟨fault, -, lapse⟩
          · exact .inr ⟨fault, rfl⟩
          · exact absurd ⟨reads, fault, lapse⟩ none
  · have given : answer = .ok config := by
      change (manager.load files environment checked false tools).1 = _
      rw [Manager.load_of_kept kept]
    have still : ¬ manager.reads false := by
      rintro (none | reload)
      · rw [kept] at none
        cases none
      · cases reload
    refine ⟨⟨fun _ => fun lapse => still lapse.1, fun _ => .inl ⟨config, given⟩⟩, fun fault => ?_⟩
    rw [given]
    refine iff_of_false (fun failed => ?_) fun lapse => still lapse.1
    cases failed

/-- A directory where the file is to be is no configuration error. -/
theorem directory_escapes :
    ((Manager.ofPath "conf").load { entries := [(["conf"], .directory)] } []).1 =
      .error (.fault (.file .isDirectory "conf")) := rfl

end TagWeave.Config
