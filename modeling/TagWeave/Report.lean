import TagWeave.Text.Order
import TagWeave.Value.Basic

/-!
# Reports

What a render did: how many tags each pass resolved, which tag names occurred, and
with which labels the resolved content can be dropped from caches.
-/

namespace TagWeave

open TagWeave.Text

/-- What a render did. -/
structure Report where
  resolvedPerPass : List Nat := []
  tagNames : List String := []
  labels : List String := []
  deriving DecidableEq, Repr

namespace Report

/-- The number of passes that resolved tags. -/
def passes (r : Report) : Nat := r.resolvedPerPass.length

/-- The number of tags that were resolved. -/
def retrievals (r : Report) : Nat := r.resolvedPerPass.foldr (· + ·) 0

/-- Counts a pass. -/
def recordPass (r : Report) (resolved : Nat) : Report :=
  { r with resolvedPerPass := r.resolvedPerPass ++ [resolved] }

/-- Notes the name and the labels of a resolved tag. -/
def noteTag (r : Report) (name : String) (labels : List String) : Report :=
  { r with tagNames := addTo r.tagNames name, labels := labels.foldl addTo r.labels }

/-- A report as a mapping, with the time that the render took in milliseconds. -/
def toFields (r : Report) (elapsed : Float) : List (String × Value) :=
  [("passes", .int r.passes),
    ("resolved_per_pass", .list (r.resolvedPerPass.map fun n => .int (n : Nat))),
    ("retrievals", .int r.retrievals),
    ("tag_names", Value.ofStrings (sorted r.tagNames)),
    ("invalidation_tags", Value.ofStrings (sorted r.labels)),
    ("elapsed_ms", .float (Number.roundPlaces 3 elapsed))]

end Report

end TagWeave
