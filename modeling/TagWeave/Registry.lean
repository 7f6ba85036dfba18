import TagWeave.Retrieval.Retriever
import TagWeave.ViewTag.Finder

/-!
# Registries

A registry says which retriever resolves the tags of a name. Names are kept in lower
case and found in any case. A registry does not change; adding a retriever gives a new
one.
-/

namespace TagWeave

open TagWeave.Text

/-- Retrievers by tag name. Names are in lower case, and each occurs once. -/
structure Registry (τ σ : Type) where
  entries : List (String × Retriever τ σ) := []

namespace Registry

variable {τ σ : Type}

/-- Adds a retriever under a name to others. -/
def addEntry (entries : List (String × Retriever τ σ)) (name : String) (retriever : Retriever τ σ) :
    Except Fault (List (String × Retriever τ σ)) :=
  if !ViewTag.isName name then .error (.invalidTagName name)
  else if !retriever.isGenuine then .error (.notRetriever name retriever.typeName)
  else if entries.any (·.1 = lower name) then .error (.duplicateTagName name)
  else .ok (entries ++ [(lower name, retriever)])

/-- Adds retrievers to others. -/
def addEntries (entries : List (String × Retriever τ σ)) :
    List (String × Retriever τ σ) → Except Fault (List (String × Retriever τ σ))
  | [] => .ok entries
  | (name, retriever) :: rest =>
    match addEntry entries name retriever with
    | .ok entries => addEntries entries rest
    | .error f => .error f

/-- The registry of some retrievers. -/
def ofList (retrievers : List (String × Retriever τ σ)) : Outcome (Registry τ σ) :=
  match addEntries [] retrievers with
  | .ok entries => .ok ⟨entries⟩
  | .error f => .error (.fault f)

/-- The retriever for a tag name. -/
def find? (registry : Registry τ σ) (name : String) : Option (Retriever τ σ) :=
  (registry.entries.find? (·.1 = lower name)).map (·.2)

/-- The tag names in order. -/
def names (registry : Registry τ σ) : List String := registry.entries.map (·.1)

/-- The registry in which a retriever is set for a name, in the last place. -/
def withRetriever (registry : Registry τ σ) (name : String) (retriever : Retriever τ σ) :
    Outcome (Registry τ σ) :=
  ofList (registry.entries.filter (·.1 ≠ lower name) ++ [(name, retriever)])

/-- How messages show a registry. -/
def shown (registry : Registry τ σ) : String :=
  "RetrieverRegistry(" ++ (Value.ofStrings registry.names).shown ++ ")"

end Registry

end TagWeave
