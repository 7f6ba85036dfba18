import Std.Time
import TagWeave.Cli.Run

/-!
# The program

The program loads the files that its command line leads to, runs on them, and carries
out what the run leaves. Nothing else in the library reads or writes anything.

Templates may be included from the current directory and the directories below it, and
fragments from the directory of fragments and those below.
-/

namespace TagWeave.Cli

namespace Request

/-- The files that a command line names. -/
def namedFiles : Request → List String
  | nothing => []
  | command _ reading =>
    reading.operand?.toList ++ reading.values "--context" ++
      (givenPath? reading "--layout").toList ++ (givenPath? reading "--config").toList

/-- The directories whose files a command line may lead to, with the ending of those files. -/
def namedDirectories : Request → List (String × String)
  | nothing => []
  | command _ reading =>
    (".", ".mustache") :: (givenPath? reading "--fragments").toList.map fun path => (path, ".html")

end Request

/-- How deep directories are looked into. -/
def maxDepth : Nat := 255

/-- The files below a directory that have an ending, down to a depth. Links are taken for files. -/
def filesBelow (ending : String) : Nat → String → IO (List String)
  | 0, _ => return []
  | depth + 1, directory => do
    let entries ← try ((← IO.currentDir) / directory).readDir catch _ => pure #[]
    let found ← entries.toList.mapM fun entry => do
      let path := directory ++ "/" ++ entry.fileName
      match (← entry.path.symlinkMetadata).type with
      | .dir => filesBelow ending depth path
      | _ => return if path.endsWith ending then [path] else []
    return found.flatten

/-- Loads what is at a path. What cannot be read is left out. -/
def loadPath (files : FileTree) (path : String) : IO FileTree := do
  let location := Path.resolve files.current path
  try
    if ← ((← IO.currentDir) / path).isDir then
      return (files.makeDirectories location).toOption.getD files
    else return files.write location (← IO.FS.readBinFile path).toList
  catch _ => return files

/-- Loads the files that a command line leads to. -/
def loadFiles (words : List String) : IO FileTree := do
  let current := Path.resolve [] (← IO.currentDir).toString
  let start : FileTree := { current }
  let start := (start.makeDirectories current).toOption.getD start
  match Request.ofWords words with
  | .error _ => return start
  | .ok request => do
    let below ← request.namedDirectories.mapM fun (directory, ending) => do
      return directory :: (← filesBelow ending maxDepth directory)
    (request.namedFiles ++ below.flatten).foldlM loadPath start

/-- The bytes that a file has at a location. -/
def bytesAt (files : FileTree) (location : List String) : List UInt8 :=
  match files.entry? location with
  | some (.file bytes) => bytes
  | _ => []

/-- Makes the directories that are new, and appends to the files what is new in them. -/
def saveFiles (before after : FileTree) : IO Unit :=
  after.entries.forM fun (location, entry) => do
    if before.entry? location = some entry then return
    match entry with
    | .directory => IO.FS.createDirAll (Path.ofLocation location)
    | .file bytes =>
      let handle ← IO.FS.Handle.mk (Path.ofLocation location) .append
      handle.write ⟨(bytes.drop (bytesAt before location).length).toArray⟩

/-- The variables of the process. -/
def loadEnvironment : IO Config.Environment := do
  let bytes ← try IO.FS.readBinFile "/proc/self/environ" catch _ => pure ByteArray.empty
  let entries := Text.pieces (Char.ofNat 0) ((String.fromUTF8? bytes).getD "").toList
  return entries.filterMap fun entry =>
    (Text.splitOnce? ['='] entry).map fun (name, value) => (String.ofList name, String.ofList value)

/-- The time, as log records show it. -/
def timeStamp : IO String := do
  return (← Std.Time.PlainDateTime.now).format "uuuu-MM-dd HH:mm:ss,SSS"

/-- Carries out how the program ends. The result is the exit code. -/
def finish : Ending → IO UInt32
  | .returned code => return code.toUInt32
  | .exited code => return code.toUInt32
  | .failed e => do
    IO.eprintln (e.kind ++ ": " ++ e.message)
    return 1

end TagWeave.Cli

open TagWeave.Cli in
/-- Runs the program on the words of the command line. -/
def main (words : List String) : IO UInt32 := do
  let files ← loadFiles words
  let environment ← loadEnvironment
  let stamp ← timeStamp
  let start ← IO.monoNanosNow
  let output ← IO.lazyPure fun () => run words environment stamp files
  let elapsed := ((← IO.monoNanosNow) - start).toFloat / 1000000
  saveFiles files output.files
  IO.eprint output.stderr
  IO.print (output.stdout elapsed)
  finish output.ending
