import TagWeave.Text.Order
import TagWeave.ViewTag.Attributes
import TagWeave.ViewTag.Occurrence

/-!
# Finding view tags

A finder looks for a fixed list of tag names, one name after the other. Occurrences
with the same fingerprint are one tag; tags come in the order of their first
occurrences. An occurrence whose attributes cannot be read, or whose identity cannot be
encoded, spoils the whole search.
-/

namespace TagWeave

open TagWeave.Text

/-- The names that a finder looks for, in lower case and without repetitions. -/
structure Finder where
  names : List String
  deriving DecidableEq, Repr

namespace ViewTag

/-- Whether a character may continue a tag's name. -/
def isNameChar (c : Char) : Bool :=
  Markup.isLetter c || ('0' ≤ c && c ≤ '9') || c = '_' || c = '-'

/-- Whether a text is a tag's name: a letter, then letters, digits, underscores and hyphens. One
line end may follow. -/
def isName (s : String) : Bool :=
  match s.toList with
  | [] => false
  | c :: cs =>
    Markup.isLetter c &&
      match cs.dropWhile isNameChar with
      | [] => true
      | ['\n'] => true
      | _ => false

/-- Adds an occurrence of a tag to the groups of equal ones. -/
def addOccurrence (groups : List ViewTag) (tag : ViewTag) (needle : String) : List ViewTag :=
  match groups with
  | [] => [{ tag with needles := [needle] }]
  | g :: gs =>
    if g.fingerprint = tag.fingerprint then { g with needles := g.needles ++ [needle] } :: gs
    else g :: addOccurrence gs tag needle

/-- What is wrong with a tag that has no fingerprint, if so: its identity cannot be encoded. -/
def identityFault? (tag : ViewTag) : Option Fault :=
  (encodeError? (canonicalForm tag.name tag.content tag.attributes)).map .unencodable

/-- An occurrence of a name as a tag of its own. -/
def single? (name : String) (o : Occurrence) : Except Error ViewTag :=
  match parseAttributes (String.ofList o.raw) name with
  | .error e => .error e
  | .ok attributes =>
    let tag : ViewTag :=
      { name, content := String.ofList o.content, attributes, needles := [String.ofList o.needle] }
    match tag.identityFault? with
    | some f => .error (.fault f)
    | none => .ok tag

/-- Groups occurrences of a name, given the groups so far. -/
def collect (name : String) (groups : List ViewTag) : List Occurrence → Except Error (List ViewTag)
  | [] => .ok groups
  | o :: os =>
    match single? name o with
    | .error e => .error e
    | .ok tag => collect name (addOccurrence groups tag (String.ofList o.needle)) os

end ViewTag

namespace Finder

/-- Adds a name to a list of names, in lower case and unless it is there. -/
def addName (names : List String) (name : String) : Except Error (List String) :=
  if ViewTag.isName name then .ok (addTo names (lower name))
  else .error (.fault (.invalidTagName name))

/-- Adds names to a list of names. -/
def addNames (names : List String) : List String → Except Error (List String)
  | [] => .ok names
  | name :: rest =>
    match addName names name with
    | .error e => .error e
    | .ok names => addNames names rest

/-- The finder for some names. -/
def ofNames (names : List String) : Except Error Finder :=
  (addNames [] names).map fun names => ⟨names⟩

/-- The tags of one name in a text. -/
def findOne (template name : String) : Except Error (List ViewTag) :=
  ViewTag.collect name [] (ViewTag.occurrences name.toList template.toList)

/-- The tags of some names in a text. -/
def findAll (template : String) : List String → Except Error (List ViewTag)
  | [] => .ok []
  | name :: names =>
    match findOne template name with
    | .error e => .error e
    | .ok tags => (findAll template names).map (tags ++ ·)

/-- The tags in a text. -/
def find (finder : Finder) (template : String) : Except Error (List ViewTag) :=
  findAll template finder.names

end Finder

end TagWeave
