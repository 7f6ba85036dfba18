import TagWeave.Error
import TagWeave.Markup.Elements
import TagWeave.ViewTag.Basic

/-!
# The attributes of a tag

The text between a tag's name and its closing bracket is read as markup: it is put
into an element of the tag's name, and the attributes of the first such element are
the tag's attributes. An attribute without a value has an empty one. Keys that markup
never allows are refused.
-/

namespace TagWeave.ViewTag

open TagWeave.Text TagWeave.Markup

/-- Whether a key is one that markup does not allow: it begins with an equals sign, or contains a
quote, an opening bracket or a control character. -/
def isBadKey (key : String) : Bool :=
  match key.toList with
  | [] => true
  | c :: cs =>
    c = '=' || (c :: cs).any fun d => d = '"' || d = '\'' || d = '<' || d.toNat < 0x20

/-- The element that an attribute text is put into. -/
def wrapped (name raw : List Char) : List Char := '<' :: name ++ ' ' :: raw ++ [' ', '/', '>']

/-- The attributes that the element of a tag's name has, unless a key is refused. -/
def attributesOf (attributes : List (String × Option String)) :
    Except FragmentFault (List Attribute) :=
  match attributes.find? fun (key, _) => isBadKey key with
  | some (key, _) => .error (.badName key)
  | none => .ok (attributes.map fun (key, value) => ⟨key, value.getD ""⟩)

/-- Reads an attribute text. -/
def readAttributes (name raw : List Char) : Except FragmentFault (List Attribute) :=
  if raw.all isBlank then .ok []
  else match elements (wrapped name raw) with
    | .error e => .error (.unreadable e)
    | .ok found =>
      match found.find? fun e => e.name = String.ofList (lowerChars name) with
      | none => .error .noElement
      | some e => attributesOf e.attributes

/-- The attributes that a text gives a tag. -/
def parseAttributes (raw name : String) : Except Error (List Attribute) :=
  match readAttributes name.toList raw.toList with
  | .ok attributes => .ok attributes
  | .error f => .error (.parse name raw f none)

end TagWeave.ViewTag
