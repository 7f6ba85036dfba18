import TagWeave.Number.Integer
import TagWeave.Text.Quoted

/-!
# Faults of attribute texts

The text of a tag's attributes is refused when it does not read as the attributes of
one element of that name.
-/

namespace TagWeave.Markup

open TagWeave.Number (tooManyDigits)

/-- Why a text cannot be read as markup: a marked section of which the keyword is unknown or
missing, or a character reference with too many digits. -/
inductive ReadFault where
  | unknownKeyword (word : String)
  | noKeyword (start : String)
  | longReference (digits : Nat)
  deriving DecidableEq, Repr

/-- The kind of a fault. -/
def ReadFault.kind : ReadFault → String
  | unknownKeyword _ | noKeyword _ => "AssertionError"
  | longReference _ => "ValueError"

/-- The wording of a fault. -/
def ReadFault.message : ReadFault → String
  | unknownKeyword word => "unknown status keyword " ++ Text.quoted word ++ " in marked section"
  | noKeyword start => "expected name token at " ++ Text.quoted start
  | longReference digits => tooManyDigits digits

/-- Why an attribute text is refused. -/
inductive FragmentFault where
  | unreadable (fault : ReadFault)
  | noElement
  | badName (key : String)
  deriving DecidableEq, Repr

/-- The wording of a fault, given the tag's name. -/
def FragmentFault.message (tag : String) : FragmentFault → String
  | unreadable fault => "failed to parse attributes of <" ++ tag ++ ">: " ++ fault.message
  | noElement => "attribute fragment did not produce a <" ++ tag ++ "> element"
  | badName key => "malformed attribute name " ++ Text.quoted key ++ " in <" ++ tag ++ ">"

end TagWeave.Markup
