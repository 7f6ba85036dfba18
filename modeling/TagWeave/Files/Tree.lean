import TagWeave.Fault
import TagWeave.Files.Path

/-!
# File trees

A tree of files and directories, without links, and the current directory in it.
Opening a path walks along its names, and every name but the last one has to be that
of a directory. Reading text decodes it and turns all line ends into `\n`.
-/

namespace TagWeave

open TagWeave.Text

/-- A file with its contents, or a directory. -/
inductive FileEntry where
  | file (bytes : List UInt8)
  | directory
  deriving DecidableEq, Repr

/-- The files and directories by location. The root is always a directory. -/
structure FileTree where
  entries : List (List String × FileEntry) := []
  current : List String := []
  deriving Repr

namespace FileTree

/-- What is at a location. -/
def entry? (tree : FileTree) (location : List String) : Option FileEntry :=
  if location.isEmpty then some .directory
  else (tree.entries.find? (·.1 = location)).map (·.2)

/-- Whether a name is longer than a directory can hold. -/
def isTooLong (name : String) : Bool := 255 < name.utf8ByteSize

/-- Goes on from a location along some names, all of which have to be there. -/
def walk (tree : FileTree) (location : List String) : List String → Except FileFault (List String)
  | [] => .ok location
  | name :: rest =>
    match tree.entry? location with
    | some (.file _) => .error .notDirectory
    | none => .error .missing
    | some .directory =>
      if name.isEmpty || name = "." then walk tree location rest
      else if name = ".." then walk tree location.dropLast rest
      else if isTooLong name then .error .nameTooLong
      else match tree.entry? (location ++ [name]) with
        | none => .error .missing
        | some _ => walk tree (location ++ [name]) rest

/-- The entry that a path leads to, and its location. -/
def locate (tree : FileTree) (path : String) : Except FileFault (List String × FileEntry) :=
  if path.isEmpty then .error .missing
  else if 4095 < path.utf8ByteSize then .error .nameTooLong
  else match tree.walk (if Path.isAbsolute path then [] else tree.current) (Path.names path) with
    | .error e => .error e
    | .ok location =>
      match tree.entry? location with
      | some entry => .ok (location, entry)
      | none => .error .missing

/-- What is wrong with a part of a path from a position on that cannot be one, if so. -/
def pathFaultFrom? (position : Nat) (part : String) : Option Fault :=
  match encodeErrorFrom? isByte position part.toList with
  | some e => some (.unencodable e)
  | none => if Path.hasNul part then some .nulInPath else none

/-- What is wrong with a path that cannot be one, if so. -/
def pathFault? (path : String) : Option Fault := pathFaultFrom? 0 path

theorem pathFault?_cases {path : String} {fault : Fault} (refused : pathFault? path = some fault) :
    (∃ e, fault = .unencodable e) ∨ fault = .nulInPath := by
  rw [pathFault?, pathFaultFrom?] at refused
  split at refused
  · exact .inl ⟨_, (Option.some.inj refused).symm⟩
  · split at refused
    · exact .inr (Option.some.inj refused).symm
    · cases refused

/-- What is wrong with the first of some names that cannot be part of a path, if so, as they are gone
along behind those above. -/
def alongFault? (absolute : Bool) (above : List String) : List String → Option Fault
  | [] => none
  | name :: rest =>
    if name.isEmpty || name = "." then alongFault? absolute above rest
    else if name = ".." then
      if !absolute && (above.getLast?.getD "..") = ".." then alongFault? absolute (above ++ [".."]) rest
      else alongFault? absolute above.dropLast rest
    else
      let before := (if absolute then "/" else "") ++ join "/" (above ++ [""])
      match pathFaultFrom? before.length name with
      | some f => some f
      | none => alongFault? absolute (above ++ [name]) rest

/-- What is wrong with a path that cannot be resolved, if so. A path from a known location is written
out, others stay as they are. -/
def resolveFault? (known? : Option (List String)) (path : String) : Option Fault :=
  if Path.isAbsolute path then alongFault? true [] (Path.names path)
  else
    match known? with
    | some location => alongFault? true location (Path.names path)
    | none => alongFault? false [] (Path.names path)

/-- The location that a path leads to, unless it cannot be resolved. -/
def resolve (tree : FileTree) (path : String) : Except Fault (List String) :=
  match resolveFault? none path with
  | some f => .error f
  | none => .ok (Path.resolve tree.current path)

/-- Whether there is something at a path. A path that cannot be one leads nowhere. -/
def pathExists (tree : FileTree) (path : String) : Except Fault Bool :=
  if (pathFault? path).isSome then .ok false
  else match tree.locate path with
    | .ok _ => .ok true
    | .error .nameTooLong => .error (.file .nameTooLong path)
    | .error _ => .ok false

/-- Whether there is a file at a path. -/
def isFile (tree : FileTree) (path : String) : Except Fault Bool :=
  if (pathFault? path).isSome then .ok false
  else match tree.locate path with
    | .ok (_, .file _) => .ok true
    | .ok (_, .directory) => .ok false
    | .error .nameTooLong => .error (.file .nameTooLong path)
    | .error _ => .ok false

/-- The contents of a file. -/
def readBytes (tree : FileTree) (path : String) : Except Fault (List UInt8) :=
  match pathFault? path with
  | some f => .error f
  | none =>
    match tree.locate path with
    | .ok (_, .file bytes) => .ok bytes
    | .ok (_, .directory) => .error (.file .isDirectory path)
    | .error e => .error (.file e path)

/-- The text of a file in a named encoding. -/
def readTextAs (tree : FileTree) (encoding path : String) : Except Fault String :=
  match tree.readBytes path with
  | .error e => .error e
  | .ok bytes =>
    match Encoding.ofName? encoding with
    | none => .error (.unknownEncoding encoding)
    | some encoding =>
      match decode encoding bytes with
      | .error e => .error (.undecodable e)
      | .ok cs => .ok (String.ofList (unixLines cs))

/-- The text of a file in UTF-8. -/
def readText (tree : FileTree) (path : String) : Except Fault String := tree.readTextAs "utf-8" path

/-- Sets the entry at a location. -/
def setEntry (tree : FileTree) (location : List String) (entry : FileEntry) : FileTree :=
  if (tree.entry? location).isSome then
    { tree with entries := tree.entries.map fun e => if e.1 = location then (location, entry) else e }
  else { tree with entries := tree.entries ++ [(location, entry)] }

/-- Makes a directory at a location and those above it where there are none, starting from those
names that are already passed. -/
def makeDirectoriesFrom (tree : FileTree) (above : List String) : List String → Except Fault FileTree
  | [] => .ok tree
  | name :: rest =>
    let location := above ++ [name]
    match tree.entry? location with
    | some .directory => makeDirectoriesFrom tree location rest
    | some (.file _) =>
      let path := Path.ofLocation location
      .error (.file (if rest.isEmpty then .taken else .notDirectory)
        (if rest.isEmpty then path else Path.ofLocation (location ++ rest)))
    | none =>
      if isTooLong name then .error (.file .nameTooLong (Path.ofLocation (location ++ rest)))
      else makeDirectoriesFrom (tree.setEntry location .directory) location rest

/-- Makes a directory at a location and those above it where there are none. -/
def makeDirectories (tree : FileTree) (location : List String) : Except Fault FileTree :=
  tree.makeDirectoriesFrom [] location

/-- Opens a file at a location for appending: one that is not there is made. -/
def openAppending (tree : FileTree) (location : List String) : Except Fault FileTree :=
  match tree.entry? location with
  | some (.file _) => .ok tree
  | some .directory => .error (.file .isDirectory (Path.ofLocation location))
  | none =>
    if location.getLast?.any isTooLong then .error (.file .nameTooLong (Path.ofLocation location))
    else .ok (tree.setEntry location (.file []))

/-- Appends a text to the file at a location. -/
def append (tree : FileTree) (location : List String) (text : String) : FileTree :=
  match tree.entry? location with
  | some (.file bytes) => tree.setEntry location (.file (bytes ++ encode text))
  | _ => tree.setEntry location (.file (encode text))

/-- Writes a file at a location, and makes the directories above it. -/
def write (tree : FileTree) (location : List String) (bytes : List UInt8) : FileTree :=
  let withDirectories := (tree.makeDirectories location.dropLast).toOption.getD tree
  withDirectories.setEntry location (.file bytes)

end FileTree

end TagWeave
