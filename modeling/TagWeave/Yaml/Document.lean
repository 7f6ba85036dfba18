import TagWeave.Text.Case
import TagWeave.Value.Linked
import TagWeave.Yaml.Node

/-!
# The value of a document

A document becomes a value, in which a mapping that is referred to stands in several places.
The entries of mappings that are merged into a mapping come
before its own ones, so that these count; of several mappings that are merged, the first
one counts most. Only scalars can be keys.
-/

namespace TagWeave.Yaml

/-- Why a text gives no value: it is refused, or to read it fails for another reason, as it does where
a scalar has no value. -/
inductive Refusal where
  | text (fault : Fault)
  | other (fault : TagWeave.Fault)
  deriving Repr

/-- What becomes of a fault of the text. -/
def Refusal.ofFault (fault : Fault) : Refusal :=
  if fault.stage.isOwn then .text fault else .other (.raised fault.stage.kind fault.reason)

/-- A refusal of the stage that gives values to nodes. -/
def noValue {α : Type} (reason : String) : Except Refusal α := .error (.text ⟨.values, reason⟩)

namespace Node

/-- Whether a key stands for entries to be merged in. -/
def isMerge : Node → Bool
  | scalar .merge _ => true
  | _ => false

/-- The entries of some mappings, of which the first one counts most. -/
def mappingsEntries : List Node → Except Refusal (List (Node × Node))
  | [] => .ok []
  | mapping _ _ entries :: nodes => (mappingsEntries nodes).map (· ++ entries)
  | _ :: _ => noValue "merged item that is no mapping"

/-- The entries that a merged node adds. -/
def mergedEntries : Node → Except Refusal (List (Node × Node))
  | mapping _ _ entries => .ok entries
  | sequence _ items => mappingsEntries items
  | scalar _ _ => noValue "merged scalar"

/-- Puts the entries that are to be merged before the other ones. -/
def spread (entries : List (Node × Node)) : Except Refusal (List (Node × Node)) := do
  let merged ← (entries.filter (·.1.isMerge)).mapM fun (_, node) => node.mergedEntries
  return merged.flatten ++ entries.filter (!·.1.isMerge)

mutual

/-- The node in which all merging is done. -/
def merged : Node → Except Refusal Node
  | scalar kind text => .ok (scalar kind text)
  | sequence kind items => (mergedItems items).map (sequence kind)
  | mapping number kind entries => do return mapping number kind (← spread (← mergedPairs entries))

/-- Nodes in which all merging is done. -/
def mergedItems : List Node → Except Refusal (List Node)
  | [] => .ok []
  | node :: nodes => do return (← node.merged) :: (← mergedItems nodes)

/-- Entries in whose nodes all merging is done. -/
def mergedPairs : List (Node × Node) → Except Refusal (List (Node × Node))
  | [] => .ok []
  | (key, value) :: entries => do
    return (← key.merged, ← value.merged) :: (← mergedPairs entries)

end

/-- The value of a scalar. -/
def scalarValue (kind : Kind) (text : String) : Except Refusal Value :=
  match kind with
  | .null => .ok .null
  | .str => .ok (.str text)
  | .bool =>
    match boolWords.find? (·.1 = Text.lower text) with
    | some (_, b) => .ok (.bool b)
    | none => .error (.other (.missingKey (.str (Text.lower text))))
  | .int =>
    match readInteger text with
    | .ok n => .ok (.int n)
    | .error f => .error (.other f)
  | .float =>
    match readFraction text with
    | .ok x => .ok (.float x)
    | .error f => .error (.other f)
  | .timestamp =>
    match readTimestamp text with
    | .ok v => .ok v
    | .error f => .error (.other f)
  | .sequence | .mapping | .merge | .value | .other _ => noValue "scalar of another kind"

/-- The key that a value is. A time stamp is a key by its text. -/
def keyOf : Value → Except Refusal Key
  | .null => .ok .null
  | .bool b => .ok (.bool b)
  | .int n => .ok (.int n)
  | .float x => .ok (.float x)
  | .str s | .foreign _ s _ => .ok (.str s)
  | _ => noValue "key that is no scalar"

/-- The key of an entry. The sign for a default value is a text there. -/
def keyOfScalar (kind : Kind) (text : String) : Except Refusal Key :=
  match kind with
  | .value => .ok (.str text)
  | kind =>
    match scalarValue kind text with
    | .ok v => keyOf v
    | .error r => .error r

mutual

/-- The value of a node. -/
def linked : Node → Except Refusal Linked
  | scalar kind text => (scalarValue kind text).map .single
  | sequence .sequence items => (itemsLinked items).map .list
  | mapping number .mapping entries => (entriesLinked [] entries).map (.dict (some number))
  | sequence _ _ | mapping _ _ _ => noValue "collection of another kind"

/-- The values of nodes. -/
def itemsLinked : List Node → Except Refusal (List Linked)
  | [] => .ok []
  | node :: nodes => do return (← node.linked) :: (← itemsLinked nodes)

/-- The entries of a mapping, after some others. Of entries with the same key the last one
counts. -/
def entriesLinked (before : LinkedEntries) : List (Node × Node) → Except Refusal LinkedEntries
  | [] => .ok before
  | (scalar kind text, node) :: entries => do
    let key ← keyOfScalar kind text
    entriesLinked (Linked.insert before key (← node.linked)) entries
  | _ :: _ => noValue "key that is no scalar"

end

end Node

/-- A reader of documents. -/
abbrev Loader := String → Except Refusal Linked

/-- The value of the document in a text, with its mappings that stand in several places; nothing, if
there is none. -/
def readLinked : Loader := fun text =>
  match nodeOf text.toList with
  | .error f => .error (.ofFault f)
  | .ok none => .ok (.single .null)
  | .ok (some node) =>
    match node.merged with
    | .error r => .error r
    | .ok node => node.linked.map Linked.trimmed

/-- The value of the document in a text; nothing, if there is none. -/
def read (text : String) : Except Refusal Value := (readLinked text).map Linked.value

end TagWeave.Yaml
