import TagWeave.Value.Basic

/-!
# Merging mappings

Laying one mapping over another replaces entry by entry. Only where both sides
hold a mapping are the two merged in turn; any other value, lists included,
replaces what was there.
-/

namespace TagWeave.Entries

mutual

/-- The value of an entry once `override` is laid over what it held. -/
def mergeValue (current : Option Value) : Value → Value
  | .dict override =>
    match current with
    | some (.dict base) => .dict (merge base override)
    | _ => .dict override
  | value => value

/-- Lays the second mapping over the first one. -/
def merge (base : List (Key × Value)) : List (Key × Value) → List (Key × Value)
  | [] => base
  | (key, value) :: override =>
    merge (Entries.insert base key (mergeValue (Entries.get? base key) value)) override

end

end TagWeave.Entries
