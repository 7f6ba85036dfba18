import TagWeave.Value.Merge

/-!
# Mappings in several places

A document may refer to a mapping that stands elsewhere in it. It is then one mapping, which
stands in several places, and what is set in it is set in all of them. Such a mapping has a
number, by which its places are known.
-/

namespace TagWeave

/-- A tree of values in which a mapping with a number may stand in several places. -/
inductive Linked where
  | single (value : Value)
  | list (items : List Linked)
  | dict (number? : Option Nat) (entries : List (Key × Linked))
  deriving Repr, Inhabited

/-- The entries of such a mapping. -/
abbrev LinkedEntries := List (Key × Linked)

namespace Linked

mutual

/-- The value itself, in which nothing tells that mappings are the same. -/
def value : Linked → Value
  | single v => v
  | list items => .list (values items)
  | dict _ entries => .dict (entryValues entries)

/-- The values themselves. -/
def values : List Linked → List Value
  | [] => []
  | item :: items => item.value :: values items

/-- The entries themselves. -/
def entryValues : LinkedEntries → Entries
  | [] => []
  | (key, held) :: entries => (key, held.value) :: entryValues entries

end

mutual

/-- A value whose mappings all stand in one place. -/
def ofValue : Value → Linked
  | .list items => .list (ofValues items)
  | .dict entries => .dict none (ofEntries entries)
  | v => .single v

/-- Values whose mappings all stand in one place. -/
def ofValues : List Value → List Linked
  | [] => []
  | item :: items => ofValue item :: ofValues items

/-- Entries whose mappings all stand in one place. -/
def ofEntries : Entries → LinkedEntries
  | [] => []
  | (key, held) :: entries => (key, ofValue held) :: ofEntries entries

end

/-- The value of an entry. -/
def get? (entries : LinkedEntries) (key : Key) : Option Linked :=
  (entries.find? (·.1.same key)).map (·.2)

/-- Sets an entry: an existing one keeps its key and place, a new one comes last. -/
def insert (entries : LinkedEntries) (key : Key) (held : Linked) : LinkedEntries :=
  match entries with
  | [] => [(key, held)]
  | (k, v) :: rest => if k.same key then (k, held) :: rest else (k, v) :: insert rest key held

mutual

/-- The numbers of mappings, place by place. -/
def numbers : Linked → List Nat
  | single _ => []
  | list items => itemNumbers items
  | dict number? entries => number?.toList ++ entryNumbers entries

/-- The numbers of mappings in some values. -/
def itemNumbers : List Linked → List Nat
  | [] => []
  | item :: items => item.numbers ++ itemNumbers items

/-- The numbers of mappings in some entries. -/
def entryNumbers : LinkedEntries → List Nat
  | [] => []
  | (_, held) :: entries => held.numbers ++ entryNumbers entries

end

mutual

/-- Takes away the numbers that are not to be kept. -/
def keeping (keep : Nat → Bool) : Linked → Linked
  | single v => single v
  | list items => list (itemsKeeping keep items)
  | dict number? entries => dict (number?.filter keep) (entriesKeeping keep entries)

/-- Takes away numbers in some values. -/
def itemsKeeping (keep : Nat → Bool) : List Linked → List Linked
  | [] => []
  | item :: items => item.keeping keep :: itemsKeeping keep items

/-- Takes away numbers in some entries. -/
def entriesKeeping (keep : Nat → Bool) : LinkedEntries → LinkedEntries
  | [] => []
  | (key, held) :: entries => (key, held.keeping keep) :: entriesKeeping keep entries

end

/-- Takes away the numbers of the mappings that stand in one place. -/
def trimmed (linked : Linked) : Linked :=
  let numbers := linked.numbers
  linked.keeping fun number => 1 < numbers.count number

mutual

/-- Gives the mapping of a number other entries, in all its places. -/
def replacing (number : Nat) (entries : LinkedEntries) : Linked → Linked
  | single v => single v
  | list items => list (itemsReplacing number entries items)
  | dict number? own =>
    if number? = some number then dict number? entries
    else dict number? (entriesReplacing number entries own)

/-- Gives a mapping other entries wherever it stands in some values. -/
def itemsReplacing (number : Nat) (entries : LinkedEntries) : List Linked → List Linked
  | [] => []
  | item :: items => item.replacing number entries :: itemsReplacing number entries items

/-- Gives a mapping other entries wherever it stands in some entries. -/
def entriesReplacing (number : Nat) (entries : LinkedEntries) : LinkedEntries → LinkedEntries
  | [] => []
  | (key, held) :: rest =>
    (key, held.replacing number entries) :: entriesReplacing number entries rest

end

mutual

/-- The value of an entry once `override` is laid over what it held. Where two mappings are laid over
each other, a new one comes about. -/
def mergeValue (current : Option Linked) : Linked → Linked
  | dict number? override =>
    match current with
    | some (dict _ base) => dict none (merge base override)
    | _ => dict number? override
  | held => held

/-- Lays the second mapping over the first one. -/
def merge (base : LinkedEntries) : LinkedEntries → LinkedEntries
  | [] => base
  | (key, held) :: override => merge (insert base key (mergeValue (get? base key) held)) override

end

/-- Sets the entry at a path as in a tree, adding mappings on the way. Tells which mappings with
numbers have changed, and to what, outer ones first. Fails at a part that holds another value. -/
def setInTree (config : LinkedEntries) (value : Value) :
    List String → Except String (LinkedEntries × List (Nat × LinkedEntries))
  | [] => .ok (config, [])
  | [last] => .ok (insert config (.str last) (ofValue value), [])
  | part :: rest =>
    match get? config (.str part) with
    | none =>
      (setInTree [] value rest).map fun (inner, _) =>
        (insert config (.str part) (.dict none inner), [])
    | some (.dict number? inner) =>
      (setInTree inner value rest).map fun (inner, changed) =>
        (insert config (.str part) (.dict number? inner),
          (number?.map fun number => (number, inner)).toList ++ changed)
    | some _ => .error part

/-- Sets the entry at a path, adding mappings on the way, in all places of the mappings that the path
leads through. Fails at a part that holds another value. -/
def setAt (config : LinkedEntries) (value : Value) (path : List String) :
    Except String LinkedEntries :=
  (setInTree config value path).map fun (config, changed) =>
    changed.foldl (fun config (number, entries) => entriesReplacing number entries config) config

end Linked

end TagWeave
