import TagWeave.Files.Tree
import TagWeave.Log
import TagWeave.Text.Case

/-!
# Where log records go

Records go to standard error or are appended to a file. Setting up the log puts a
handler in the place of the one before; for the same target only the level changes.

If the file cannot be opened, the handler before is removed already but still remembered.
Setting up its target again then leaves the log without one.
-/

namespace TagWeave.Log

/-- Where records go. -/
inductive Target where
  | standardError
  | file (location : List String)
  deriving DecidableEq, Repr

/-- A target, and the level from which on it takes records. -/
structure Handler where
  target : Target
  level : Nat
  deriving DecidableEq, Repr

/-- The setup of the log: the level from which on records are made, which is the usual one if it is
zero; the handlers that records go to; and what is remembered of the last installation, which is its
handler and its target. -/
structure Setup where
  level : Nat := 0
  handlers : List Handler := []
  handler? : Option Handler := none
  target? : Option Target := none
  deriving DecidableEq, Repr

namespace Setup

/-- Removes all handlers, and forgets the last installation. -/
def reset (setup : Setup) : Setup :=
  { setup with level := 0, handlers := [], handler? := none, target? := none }

/-- Removes the handler that was installed last, if it is there. It is remembered all the same. -/
def detach (setup : Setup) : Setup :=
  { setup with handlers := (setup.handler?.map setup.handlers.erase).getD setup.handlers }

/-- Adds a handler, which is then the one that was installed last. -/
def install (setup : Setup) (handler : Handler) : Setup :=
  { setup with
    handlers := setup.handlers ++ [handler]
    handler? := some handler
    target? := some handler.target }

/-- Changes the level of the handler that was installed last, wherever it is. -/
def adjust (setup : Setup) (level : Nat) : Setup :=
  { setup with
    handlers := setup.handlers.map fun handler =>
      if setup.handler? = some handler then { handler with level } else handler
    handler? := setup.handler?.map fun handler => { handler with level } }

/-- The target of a path; without a path, or with an empty one, standard error. -/
def targetOf (files : FileTree) (path? : Option String) : Except Fault Target :=
  match path?.filter fun (path : String) => !path.isEmpty with
  | none => .ok .standardError
  | some path => (files.resolve path).map .file

/-- Opens a target. For a file, the directories above it are made first. -/
def openTarget (files : FileTree) : Target → Except Fault Unit × FileTree
  | .standardError => (.ok (), files)
  | .file location =>
    match files.makeDirectories location.dropLast with
    | .error f => (.error f, files)
    | .ok files =>
      match files.openAppending location with
      | .error f => (.error f, files)
      | .ok files => (.ok (), files)

/-- The level of a name in any case. An unknown name stands for warnings. -/
def levelOfName (name : String) : Nat := (levelOf? (Text.upper name)).getD warning

/-- Sets up the log. -/
def configure (setup : Setup) (files : FileTree) (levelName : String) (path? : Option String) :
    Except Fault Unit × Setup × FileTree :=
  let level := levelOfName levelName
  let setup := { setup with level }
  match targetOf files path? with
  | .error f => (.error f, setup, files)
  | .ok target =>
    if setup.handler?.isSome && setup.target? = some target then
      (.ok (), setup.adjust level, files)
    else
      match openTarget files target with
      | (.error f, files) => (.error f, setup.detach, files)
      | (.ok (), files) => (.ok (), setup.detach.install ⟨target, level⟩, files)

/-- Whether a record is made at all. -/
def makes (setup : Setup) (record : Record) : Bool :=
  0 < record.level && (if setup.level = 0 then warning else setup.level) ≤ record.level

/-- Writes a line to a target. The result is what standard error gets, and the files. -/
def writeLine (files : FileTree) (target : Target) (line : String) : String × FileTree :=
  match target with
  | .standardError => (line ++ "\n", files)
  | .file location => ("", files.append location (line ++ "\n"))

/-- Writes a record to some handlers, each line beginning with a time stamp. -/
def emitTo (stamp : String) (record : Record) :
    List Handler → FileTree → String × FileTree
  | [], files => ("", files)
  | handler :: rest, files =>
    if handler.level ≤ record.level then
      let (text, files) := writeLine files handler.target (stamp ++ " " ++ record.line)
      let (more, files) := emitTo stamp record rest files
      (text ++ more, files)
    else emitTo stamp record rest files

/-- Writes a record to the log. -/
def emit (setup : Setup) (stamp : String) (record : Record) (files : FileTree) : String × FileTree :=
  if setup.makes record then emitTo stamp record setup.handlers files else ("", files)

/-- Writes records to the log. -/
def emitAll (setup : Setup) (stamp : String) : List Record → FileTree → String × FileTree
  | [], files => ("", files)
  | record :: records, files =>
    let (text, files) := setup.emit stamp record files
    let (more, files) := emitAll setup stamp records files
    (text ++ more, files)

end Setup

end TagWeave.Log
