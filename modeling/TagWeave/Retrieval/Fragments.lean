import TagWeave.Files.Tree
import TagWeave.ViewTag.Basic

/-!
# Stored fragments

A directory of fragments serves the tags whose attribute names a file in it. The name
is taken as a path, so it may lead through other directories, but never out of the
directory of fragments. The label of the content is the file's path in there.
-/

namespace TagWeave

/-- Where fragments are stored, the attribute that names one, what is added to the name, and how the
files are encoded. -/
structure FragmentStore where
  directory : String
  attributeKey : String := "name"
  suffix : String := ".html"
  encoding : String := "utf-8"
  deriving DecidableEq, Repr

namespace FragmentStore

/-- The names that lead from a directory to a location below it, or to the directory itself. -/
def within? (directory location : List String) : Option (List String) :=
  directory.isPrefixOf? location

/-- The label of the fragment at some names below the directory. -/
def label (names : List String) : String :=
  "file:" ++ (if names.isEmpty then "." else Text.join "/" names)

/-- The text of the fragment at a location. -/
def readAt (store : FragmentStore) (files : FileTree) (location : List String) :
    Except Fault String :=
  let path := Path.ofLocation location
  match files.isFile path with
  | .error f => .error f
  | .ok false => .error (.noFragment path)
  | .ok true => files.readTextAs store.encoding path

/-- The fragment of a name. -/
def fetchNamed (store : FragmentStore) (files : FileTree) (name : String) : Except Fault Content :=
  match files.resolve store.directory with
  | .error f => .error f
  | .ok directory =>
    match FileTree.resolveFault? (some directory) (name ++ store.suffix) with
    | some f => .error f
    | none =>
      let location := Path.resolve directory (name ++ store.suffix)
      match within? directory location with
      | none => .error (.outsideRoot name (Path.ofLocation directory))
      | some names =>
        (store.readAt files location).map fun text => { text, labels := [label names] }

/-- The fragment that a tag names. An empty name is none. -/
def fetch (store : FragmentStore) (files : FileTree) (tag : ViewTag) : Except Fault Content :=
  let key := Text.lower store.attributeKey
  match (tag.attr? key).filter fun (name : String) => !name.isEmpty with
  | none => .error (.noAttribute tag.name key)
  | some name => store.fetchNamed files name

end FragmentStore

end TagWeave
