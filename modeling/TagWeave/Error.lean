import TagWeave.Jinja.Fault
import TagWeave.Markup.Fault
import TagWeave.Mustache.Fault
import TagWeave.Yaml.Fault

/-!
# Errors

An error of this library says what it was doing: reading a configuration, reading a
tag's attributes, interpolating, resolving a tag, running passes. Beside its wording
it has a context, a mapping of the facts that a report may want to show. A fault that
is no error of the library passes through unchanged, or is kept as the cause of one.
-/

namespace TagWeave

/-- The families of errors, with the facts that each of them records. -/
inductive Details where
  | general
  | config
  | parse (tag fragment : Option String)
  | interpolation (operation : String)
  | retrieval (tag needle : String) (fingerprint : Option String)
  | recursionLimit (limit : Int) (pending : List String)
  | cancelled
  deriving DecidableEq, Repr

namespace Details

/-- The name of a family. -/
def kind : Details → String
  | general => "ViewComposeError"
  | config => "ConfigError"
  | parse _ _ => "ParseError"
  | interpolation _ => "InterpolationError"
  | retrieval _ _ _ => "RetrieverError"
  | recursionLimit _ _ => "RecursionLimitExceeded"
  | cancelled => "Cancelled"

/-- The general kinds that a family belongs to. -/
def bases : Details → List String
  | config => ["ValueError", "ViewComposeError"]
  | recursionLimit _ _ => ["RuntimeError", "ViewComposeError"]
  | _ => ["ViewComposeError"]

/-- Records the family's facts in a context. An empty fingerprint is not recorded. -/
def record (details : Details) (context : Entries) : Entries :=
  let set? (context : Entries) (name : String) (value : Option String) : Entries :=
    match value with
    | some value => context.insert (.str name) (.str value)
    | none => context
  match details with
  | general | config | cancelled => context
  | parse tag fragment => set? (set? context "tag" tag) "fragment" fragment
  | interpolation operation => context.insert (.str "operation") (.str operation)
  | retrieval tag needle fingerprint =>
    let context := (context.insert (.str "tag") (.str tag)).insert (.str "needle_example") (.str needle)
    set? context "fingerprint" (fingerprint.filter (!·.isEmpty))
  | recursionLimit limit pending =>
    (context.insert (.str "limit") (.int limit)).insert (.str "pending") (Value.ofStrings pending)

/-- The facts by name, as a report of the error itself lists them. -/
def facts : Details → List (String × Value)
  | general | config | cancelled => []
  | parse tag fragment => [("tag_name", optional tag), ("fragment", optional fragment)]
  | interpolation operation => [("operation", .str operation)]
  | retrieval tag needle fingerprint =>
    [("tag_name", .str tag), ("needle", .str needle), ("fingerprint", optional fingerprint)]
  | recursionLimit limit pending => [("limit", .int limit), ("pending", Value.ofStrings pending)]
where
  /-- A text that may be absent. -/
  optional : Option String → Value
    | some s => .str s
    | none => .null

end Details

/-- What is wrong with a configuration or with the files of a command. -/
inductive ConfigFault where
  | unknownInterpolator (name : String)
  | noFile (path : String)
  | badYaml (path : String) (fault : Yaml.Fault)
  | notMapping (path : String)
  | invalid (messages : List String)
  | emptySegment (key : String)
  | throughValue (path : List String) (part : String)
  | unreadable (what path : String) (cause : Fault)
  | badContextYaml (path : String) (fault : Yaml.Fault)
  | contextNotMapping (path : String)
  deriving Repr

/-- What environment variables that set the configuration start with. -/
def environmentMark : String := "VIEWCOMPOSE_"

namespace ConfigFault

/-- The wording of a fault. -/
def message : ConfigFault → String
  | unknownInterpolator name => "unknown interpolator: " ++ Text.quoted name
  | noFile path => "config file not found: " ++ path
  | badYaml path fault => "invalid YAML in " ++ path ++ ": " ++ fault.reason
  | notMapping path => "config file must contain a mapping: " ++ path
  | invalid messages => "invalid configuration: " ++ Text.join "; " messages
  | emptySegment key => "Malformed " ++ environmentMark ++ "* key: empty segment in '" ++ key ++ "'."
  | throughValue path part =>
    environmentMark ++ Text.join "__" path ++ " traverses non-mapping key '" ++ part ++ "'"
  | unreadable what path cause => "cannot read " ++ what ++ " " ++ path ++ ": " ++ cause.message
  | badContextYaml path fault => "invalid YAML in context file " ++ path ++ ": " ++ fault.reason
  | contextNotMapping path => "context file must contain a mapping: " ++ path

/-- The facts that a fault records. -/
def context : ConfigFault → List (String × Value)
  | unknownInterpolator _ => [("available", Value.ofStrings ["jinja2", "mustache"])]
  | invalid messages => [("errors", Value.ofStrings messages)]
  | emptySegment key => [("key", .str (environmentMark ++ key))]
  | throughValue path _ => [("path", Value.ofStrings path)]
  | noFile path | badYaml path _ | notMapping path | unreadable _ path _ | badContextYaml path _
  | contextNotMapping path => [("path", .str path)]

/-- The kind of what caused the fault. -/
def cause? : ConfigFault → Option String
  | badYaml _ fault | badContextYaml _ fault => some fault.stage.kind
  | unreadable _ _ cause => some cause.kind
  | _ => none

end ConfigFault

/-- Why text could not be interpolated. -/
inductive InterpolationFault where
  | mustacheSyntax (fault : Mustache.SyntaxFault)
  | mustacheFailed (cause : Fault)
  | jinjaFailed (fault : Jinja.TemplateFault)
  | jinjaBinding (typeName : String)
  deriving Repr

namespace InterpolationFault

/-- The wording of a fault. -/
def message : InterpolationFault → String
  | mustacheSyntax fault => "mustache syntax error: " ++ fault.message
  | mustacheFailed cause => "mustache failed to render template: " ++ cause.message
  | jinjaFailed fault => "jinja2 failed to render template: " ++ fault.message
  | jinjaBinding typeName => "unsupported binding type for jinja2: " ++ typeName

/-- What was being done. -/
def operation : InterpolationFault → String
  | jinjaBinding _ => "merge_bindings"
  | _ => "interpolate"

/-- The kind of what caused the fault. -/
def cause? : InterpolationFault → Option String
  | mustacheFailed cause => some cause.kind
  | jinjaFailed fault => some fault.kind
  | mustacheSyntax _ | jinjaBinding _ => none

end InterpolationFault

/-- Why a render was given up, and where that was noticed. -/
inductive Cancellation where
  | requested (place reason : String)
  | deadline (place : String)
  | abandoned
  deriving DecidableEq, Repr

namespace Cancellation

/-- Where it was noticed, in parentheses. -/
def suffix (place : String) : String := if place.isEmpty then "" else " (" ++ place ++ ")"

/-- The wording of a cancellation. -/
def message : Cancellation → String
  | requested place reason => "render cancelled" ++ suffix place ++ ": " ++ reason
  | deadline place => "render deadline exceeded" ++ suffix place
  | abandoned => "render deadline exceeded" ++ suffix "resolving"

/-- The facts that a cancellation records. -/
def context : Cancellation → List (String × Value)
  | requested place reason => [("where", .str place), ("reason", .str reason)]
  | deadline place => [("where", .str place), ("reason", .str "deadline")]
  | abandoned => [("where", .str "resolving"), ("reason", .str "deadline")]

end Cancellation

/-- The tag that an error is about. -/
structure Site where
  tag : String
  needle : String
  fingerprint : String
  deriving DecidableEq, Repr

/-- What a computation may end with instead of a result. An error that the application raises in
the library's name has a wording of its own and no facts but the default ones. -/
inductive Error where
  | fault (fault : Fault)
  | config (fault : ConfigFault)
  | parse (tag fragment : String) (fault : Markup.FragmentFault) (pass : Option Nat)
  | interpolation (fault : InterpolationFault)
  | unregistered (site : Site)
  | retrieval (site : Site) (cause : Error)
  | wrongResult (site : Site) (typeName : String)
  | recursionLimit (limit : Nat) (pending : List String)
  | cancelled (why : Cancellation)
  | custom (details : Details) (message : String)
  deriving Repr

instance : Inhabited Error := ⟨.fault .listIndex⟩

namespace Error

/-- The wording of an error. Of the pending needles of a render that does not end, three are
shown. -/
def message : Error → String
  | fault f => f.message
  | config f => f.message
  | parse tag _ f _ => f.message tag
  | interpolation f => f.message
  | unregistered site => "no retriever registered for <" ++ site.tag ++ ">"
  | retrieval site cause => "failed to retrieve <" ++ site.tag ++ ">: " ++ cause.message
  | wrongResult site typeName => "retriever for <" ++ site.tag ++ "> returned " ++ typeName
  | recursionLimit limit pending =>
    "view tags still unresolved after " ++ toString limit ++ " passes: " ++
      Text.join ", " (pending.take 3)
  | cancelled why => why.message
  | custom _ text => text

/-- The wording of an error, or the fault that asking for it fails with. -/
def told : Error → Except Fault String
  | fault f => f.told
  | e => .ok e.message

/-- The family of an error, unless it is a fault. -/
def details? : Error → Option Details
  | fault _ => none
  | config _ => some .config
  | parse tag fragment _ _ => some (.parse (some tag) (some fragment))
  | interpolation f => some (.interpolation f.operation)
  | unregistered site | retrieval site _ | wrongResult site _ =>
    some (.retrieval site.tag site.needle (some site.fingerprint))
  | recursionLimit limit pending => some (.recursionLimit limit pending)
  | cancelled _ => some .cancelled
  | custom details _ => some details

/-- The kind of an error. -/
def kind (e : Error) : String :=
  match e with
  | fault f => f.kind
  | e => (e.details?.getD .general).kind

/-- The facts that an error records. -/
def context (e : Error) : Entries :=
  let named (fields : List (String × Value)) : Entries :=
    fields.map fun (name, value) => (.str name, value)
  match e with
  | fault _ => []
  | config f => named f.context
  | cancelled why => named why.context
  | parse tag fragment _ (some pass) =>
    ((Details.parse (some tag) (some fragment)).record []).insert (.str "pass") (.int pass)
  | e => (e.details?.getD .general).record []

/-- The kind of what caused an error. -/
def cause? : Error → Option String
  | config f => f.cause?
  | parse _ _ (.unreadable f) _ => some f.kind
  | interpolation f => f.cause?
  | retrieval _ cause => some cause.kind
  | cancelled .abandoned => some "TimeoutError"
  | _ => none

/-- Whether the error says that the render was given up. -/
def isCancellation : Error → Bool
  | cancelled _ => true
  | custom .cancelled _ => true
  | _ => false

/-- Whether the error is a request to end the program. -/
def isExit : Error → Bool
  | fault f => f.isExit
  | _ => false

/-- Whether nothing else is tried after the error, which passes as it is. -/
def isFinal (e : Error) : Bool := e.isCancellation || e.isExit

end Error

/-- A computation that may fail. -/
abbrev Outcome := Except Error

end TagWeave
