/-!
# The order of texts

Texts are ordered by code points. A set of texts is kept as a list without
repetitions and shown in this order.
-/

namespace TagWeave.Text

/-- Whether one text comes before another or equals it. -/
def atMost (a b : String) : Bool := !decide (b < a)

/-- Texts in order. -/
def sorted (texts : List String) : List String := texts.mergeSort atMost

/-- Adds a text to a set. -/
def addTo (set : List String) (s : String) : List String :=
  if set.contains s then set else set ++ [s]

/-- The set of some texts, in the order of their first occurrences. -/
def distinct (texts : List String) : List String := texts.foldl addTo []

end TagWeave.Text
