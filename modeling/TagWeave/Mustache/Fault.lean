/-!
# Faults of mustache templates

Each fault names the tag that is to blame and the line at which it was noticed. Where a
section was opened is forgotten when another template is read inside it.
-/

namespace TagWeave.Mustache

/-- Why a template is malformed. -/
inductive SyntaxFault where
  | unclosedTag (line : Nat)
  | unclosedDelimiters (line : Nat)
  | notOpened (key : String) (line : Nat)
  | wrongEnd (key opened : String) (line : Nat)
  | neverClosed (key : String) (line? : Option Nat)
  deriving DecidableEq, Repr

/-- A key between double quotes. -/
def shownKey (key : String) : String := "\"" ++ key ++ "\""

/-- The wording of a fault. -/
def SyntaxFault.message : SyntaxFault → String
  | unclosedTag line => "unclosed tag at line " ++ toString line
  | unclosedDelimiters line => "unclosed set delimiter tag\nat line " ++ toString line
  | notOpened key line =>
    "Trying to close tag " ++ shownKey key ++ "\nLooks like it was not opened.\nline " ++
      toString line
  | wrongEnd key opened line =>
    "Trying to close tag " ++ shownKey key ++ "\nlast open tag is " ++ shownKey opened ++ "\nline " ++
      toString line
  | neverClosed key line? =>
    "Unexpected EOF\nthe tag " ++ shownKey key ++ " was never closed\nwas opened at line " ++
      (line?.map toString).getD "None"

end TagWeave.Mustache
