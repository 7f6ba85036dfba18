import TagWeave.Error
import TagWeave.Json.Writer

/-!
# Error records

What users and tools see of an error: its wording, its kind and the facts it recorded.
It is shown as one line of text or as an indented JSON document.
-/

namespace TagWeave

/-- What is shown of an error. -/
structure ErrorRecord where
  message : String
  kind : String
  context : Entries
  deriving Repr

namespace ErrorRecord

/-- The record of an error. -/
def ofError (e : Error) : ErrorRecord := ⟨e.message, e.kind, e.context⟩

/-- A record as a mapping. -/
def toValue (r : ErrorRecord) : Value :=
  Value.ofFields [("message", .str r.message), ("code", .str r.kind), ("context", .dict r.context)]

/-- The report of an error, a line or a document. Another wording replaces the error's own one,
unless it is empty. -/
def print (r : ErrorRecord) (json : Bool) (wording? : Option String) : String :=
  let r := { r with message := (wording?.filter fun (w : String) => !w.isEmpty).getD r.message }
  if json then
    Json.page (Value.ofFields [("status", .str "error"), ("error", r.toValue)]) ++ "\n"
  else "Error: " ++ r.message ++ "\n"

end ErrorRecord

end TagWeave
