import TagWeave.Digest.Sha256
import TagWeave.Json.Escape
import TagWeave.Text.Case
import TagWeave.Text.Utf8
import TagWeave.Value.Basic

/-!
# View tags

A view tag is one or more occurrences, in a template, of the same tag: same name,
same attributes in the same order, same content. The exact pieces of the template
that are its occurrences are its needles.

A tag is identified by its fingerprint, the digest of a canonical text that spells
out name, content and attributes.
-/

namespace TagWeave

open TagWeave.Text

/-- An attribute of a tag. -/
structure Attribute where
  key : String
  value : String
  deriving DecidableEq, Repr, Inhabited

/-- Occurrences of one tag. -/
structure ViewTag where
  name : String
  content : String := ""
  attributes : List Attribute := []
  needles : List String := []
  deriving DecidableEq, Repr, Inhabited

namespace ViewTag

/-- A text of the canonical form, between quotes. -/
def canonicalText (s : String) : List Char := Json.quotedBy Json.escaped s.toList

/-- Texts of the canonical form, separated by commas. -/
def separated : List (List Char) → List Char
  | [] => []
  | [item] => item
  | item :: items => item ++ ',' :: separated items

/-- An attribute in the canonical form. -/
def canonicalAttribute (a : Attribute) : List Char :=
  '[' :: canonicalText a.key ++ ',' :: canonicalText a.value ++ [']']

/-- The canonical text of a tag's identity: a JSON object without blanks. -/
def canonicalForm (name content : String) (attributes : List Attribute) : List Char :=
  "\x7b\"attributes\":[".toList ++ separated (attributes.map canonicalAttribute) ++
    "],\"content\":".toList ++ canonicalText content ++ ",\"tag\":".toList ++ canonicalText name ++
    ['\x7d']

/-- The digest by which tags of the same identity are recognised. -/
def fingerprintOf (name content : String) (attributes : List Attribute) : String :=
  Digest.sha256 (encode (String.ofList (canonicalForm name content attributes)))

/-- The fingerprint of a tag. -/
def fingerprint (tag : ViewTag) : String := fingerprintOf tag.name tag.content tag.attributes

/-- The first occurrence, which messages show. -/
def exampleNeedle (tag : ViewTag) : String := tag.needles.headD ""

/-- The first value of an attribute, named in any case. -/
def attr? (tag : ViewTag) (key : String) : Option String :=
  (tag.attributes.find? (·.key = lower key)).map (·.value)

/-- Adds an attribute unless its key is there already. -/
def addFirst (pairs : List (String × String)) (a : Attribute) : List (String × String) :=
  if pairs.any (·.1 = a.key) then pairs else pairs ++ [(a.key, a.value)]

/-- The attributes as a mapping, in which the first value of a repeated key counts. -/
def attributeMap (tag : ViewTag) : List (String × String) := tag.attributes.foldl addFirst []

/-- The key under which a cache keeps the tag's content. -/
def cacheKey (tag : ViewTag) : String := tag.name ++ ":" ++ tag.fingerprint

end ViewTag

/-- The content that a tag resolves to, with labels by which caches drop it and bindings that a
retriever exposes beside it. -/
structure Content where
  text : String
  labels : List String := []
  bindings : List Value := []
  deriving Repr, Inhabited

end TagWeave
