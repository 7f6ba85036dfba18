import TagWeave.Mustache.Lookup
import TagWeave.Mustache.Scan

/-!
# Rendering mustache templates

Rendering follows the steps of reading a template with a stack of scopes, which the
end of a section pops. Inside a section whose scope counts as nothing all is skipped.
A section over a list is rendered once for each item; a section over a lambda gives
the lambda its text and takes what it returns.

Some things outlive a template. The line counters are shared with the templates that
are rendered inside it, and the text of a section that was given to a lambda is
remembered with its tokens, which stand for that text from then on. A section of the
same key inside the lambda's section is cut short, so these tokens need not be
balanced, and the scopes that they leave behind are those that rendering goes on with.
-/

namespace TagWeave.Mustache

open TagWeave.Text

/-- What a lambda does with the text of its section: return a text or nothing, fail, or have a text
rendered, within one more scope unless that counts as nothing, and go on with the result. -/
inductive Script where
  | done (text? : Option String)
  | fail (fault : Fault)
  | render (text : String) (scope : Value) (next : String → Script)

/-- What a template is rendered with: the lambdas by name, the texts of included templates, and how
many templates may be nested inside it, which is as many as the machine's stack allows. -/
structure Host where
  lambda? : String → Option (String → Script)
  included : String → Except Fault String
  depth : Nat := 299

/-- What outlives a template: the line counters, the texts with known tokens, latest first, and the
keys that were not found. -/
structure Memory where
  lines : Lines := {}
  known : List (List Char × List Token) := []
  notFound : List String := []
  deriving DecidableEq, Repr

/-- A computation that may fail and keeps its memory when it does. -/
abbrev Rendering := ExceptT InterpolationFault (StateM Memory)

/-- Fails for another reason than the template's form. -/
def failWith {α : Type} (fault : Fault) : Rendering α := throw (.mustacheFailed fault)

/-- Counts lines. -/
def countLines (count : Nat) : Rendering Unit :=
  modify fun m => { m with lines := { m.lines with current := m.lines.current + count } }

/-- Notes that a section was opened at the current line. -/
def noteOpened : Rendering Unit :=
  modify fun m => { m with lines := { m.lines with opened? := some m.lines.current } }

/-- Fails with a complaint at the current line. -/
def complain {α : Type} (complaint : Complaint) : Rendering α := do
  throw (complaint.fault (← get).lines)

/-- Looks up a key. A key that no scope has is noted and gives an empty text. -/
def lookup (key : String) (scopes : List Value) : Rendering Value :=
  if key = "." then pure (scopes.headD .null)
  else match search (keyParts key) scopes with
    | .found value => pure (shownFound value)
    | .fault fault => failWith fault
    | .missing => do
      modify fun m => { m with notFound := m.notFound ++ [key] }
      return .str ""

/-- The text of a value, unless an integer in it has none. -/
def textOf (value : Value) : Rendering (List Char) :=
  if value.isWritable then pure value.text.toList else failWith .longInteger

/-- A character of a value in output. -/
def escapeChar (c : Char) : List Char :=
  if c = '&' then "&amp;".toList
  else if c = '"' then "&quot;".toList
  else if c = '<' then "&lt;".toList
  else if c = '>' then "&gt;".toList
  else [c]

/-- A text with the characters of markup escaped. -/
def escape (s : List Char) : List Char := s.flatMap escapeChar

/-- Puts padding after every line end. -/
def pad (padding s : List Char) : List Char :=
  s.flatMap fun c => if c = '\n' then '\n' :: padding else [c]

/-- The tokens of a section over a list, after its opening tag, and the steps that follow its end
tag. `depth` counts the sections of the same key that are open inside. -/
def takeSection (key : String) : Nat → List Step → Rendering (List Token × List Step)
  | _, [] => pure ([], [])
  | depth, .lineEnds count :: rest => do
    countLines count
    takeSection key depth rest
  | depth, .sectionOpened :: rest => do
    noteOpened
    takeSection key depth rest
  | _, .fail complaint :: _ => complain complaint
  | depth, .token t :: rest =>
    if t = .closing key then
      match depth with
      | 0 => pure ([], rest)
      | depth + 1 => do
        let (tokens, rest) ← takeSection key depth rest
        return (t :: tokens, rest)
    else do
      let (tokens, rest) ← takeSection key (if t = .opening key then depth + 1 else depth) rest
      return (t :: tokens, rest)

/-- The text and the tokens of a section over a lambda, after its opening tag, and the steps that
follow the first end tag with its key. -/
def takeSource (key : String) : List Step → Rendering (List Char × List Token × List Step)
  | [] => pure ([], [], [])
  | .lineEnds count :: rest => do
    countLines count
    takeSource key rest
  | .sectionOpened :: rest => do
    noteOpened
    takeSource key rest
  | .fail complaint :: _ => complain complaint
  | .token t :: rest =>
    if t = .closing key then pure ([], [], rest)
    else match t.source? with
      | none => failWith (.missingKey (.str "no escape?"))
      | some source => do
        let (text, tokens, rest) ← takeSource key rest
        return (source ++ text, t :: tokens, rest)

/-- Renders a text, given its padding and scopes: the output, and the scopes that are left. -/
abbrev Renderer := List Char → List Char → List Value → Rendering (List Char × List Value)

/-- Runs a lambda's script. What it has rendered without a scope of its own shares the scopes. -/
def runScript (nested : Renderer) (padding : List Char) (scopes : List Value) :
    Script → Rendering (List Char × List Value)
  | .done (some text) => pure (text.toList, scopes)
  | .done none => failWith (.type (.concatenation "NoneType"))
  | .fail fault => failWith fault
  | .render text scope next => do
    if scope.truthy then
      let (output, _) ← nested text.toList padding (scope :: scopes)
      runScript nested padding scopes (next (String.ofList output))
    else
      let (output, scopes) ← nested text.toList padding scopes
      runScript nested padding scopes (next (String.ofList output))

/-- The value of a variable. The value true under the name of the current scope stands for the scope
behind it. -/
def variableValue (key : String) (scopes : List Value) : Rendering Value := do
  let value ← lookup key scopes
  match key, value, scopes with
  | ".", .bool true, _ :: outer :: _ => return outer
  | ".", .bool true, _ => failWith .listIndex
  | _, _, _ => return value

/-- Renders an included template after `output`. Blanks before it on its line indent it. -/
def runIncluded (host : Host) (nested : Renderer) (key : String) (padding : List Char)
    (scopes : List Value) (output : List Char) : Rendering (List Char × List Value) :=
  match host.included key with
  | .error fault => failWith fault
  | .ok text => do
    let left := lastLine output
    if allBlank left then
      let (inner, scopes) ← nested text.toList (padding ++ left) scopes
      return (trimRightBy (fun c => c = ' ' || c = '\t') inner, scopes)
    else nested text.toList padding scopes

/-- Renders the section of a lambda. -/
def runLambda (host : Host) (nested : Renderer) (name key : String) (padding : List Char)
    (scopes : List Value) (rest : List Step) :
    Rendering (List Char × List Value × List Step) := do
  let (text, tokens, rest) ← takeSource key rest
  modify fun m => { m with known := (text, tokens) :: m.known }
  match host.lambda? name with
  | none => failWith (.type (.notCallable "function"))
  | some lambda =>
    let (inner, scopes) ← runScript nested padding scopes (lambda (String.ofList text))
    return (inner, scopes, rest)

/-- Follows the steps of a template, `fuel` bounding their number, and appends to `output`. -/
def run (host : Host) (nested : Renderer) : Nat → List Step → List Char → List Value → List Char →
    Rendering (List Char × List Value)
  | 0, _, _, _, _ => failWith .tooDeep
  | _ + 1, [], _, scopes, output => pure (output, scopes)
  | fuel + 1, .lineEnds count :: rest, padding, scopes, output => do
    countLines count
    run host nested fuel rest padding scopes output
  | fuel + 1, .sectionOpened :: rest, padding, scopes, output => do
    noteOpened
    run host nested fuel rest padding scopes output
  | _ + 1, .fail complaint :: _, _, _, _ => complain complaint
  | fuel + 1, .token t :: rest, padding, scopes, output =>
    let go := run host nested fuel rest padding
    match scopes with
    | [] => failWith .listIndex
    | current :: outer =>
      if t matches .closing _ then go outer output
      else if !current.truthy && !outer.isEmpty then
        match t with
        | .opening _ | .inverted _ => go (.bool false :: scopes) output
        | _ => go scopes output
      else match t with
        | .text s => go scopes (output ++ pad padding s)
        | .escaped key => do
          let text ← textOf (← variableValue key scopes)
          go scopes (output ++ escape text)
        | .plain key => do
          let text ← textOf (← lookup key scopes)
          go scopes (output ++ text)
        | .opening key => do
          match ← lookup key scopes with
          | .lambda name =>
            let (inner, scopes, rest) ← runLambda host nested name key padding scopes rest
            run host nested fuel rest padding scopes (output ++ inner)
          | .list items =>
            let (tokens, rest) ← takeSection key 0 rest
            let output ← items.foldlM (fun output item => do
              let (inner, _) ← run host nested fuel (tokens.map .token) padding (item :: scopes) []
              return output ++ inner) output
            run host nested fuel rest padding scopes output
          | value => go (value :: scopes) output
        | .inverted key => do
          let value ← lookup key scopes
          go (.bool (!value.truthy) :: scopes) output
        | .included key => do
          let (inner, scopes) ← runIncluded host nested key padding scopes output
          go scopes (output ++ inner)
        | .closing _ | .delimiters _ | .unknown _ => go scopes output

/-- The end of a section takes away the scope that its beginning has put there. -/
theorem run_closing {host : Host} {nested : Renderer} {fuel : Nat} {key : String} {steps : List Step}
    {padding : List Char} (scope : Value) {scopes : List Value} (output : List Char) :
    run host nested (fuel + 1) (.token (.closing key) :: steps) padding (scope :: scopes) output =
      run host nested fuel steps padding scopes output := by
  rw [run]
  rfl

/-- The steps of a text: those of its known tokens, or those of reading it, which starts the line
counters again. -/
def stepsOf (text : List Char) : Rendering (List Step) := do
  match (← get).known.find? (·.1 = text) with
  | some (_, tokens) => return tokens.map .token
  | none =>
    modify fun m => { m with lines := {} }
    return scan text

/-- Renders a text; templates may be nested to the given depth. -/
def renderAt (host : Host) : Nat → Renderer
  | 0 => fun _ _ _ => failWith .tooDeep
  | depth + 1 => fun text padding scopes => do
    let steps ← stepsOf text
    run host (renderAt host depth) (steps.length + 1) steps padding scopes []

/-- An engine for templates of this language: it renders a text with scopes, of which the first one is
searched first. -/
abbrev Engine := Host → String → List Value → Rendering String

/-- The library's own engine. -/
def render : Engine := fun host template scopes => do
  let (output, _) ← renderAt host (host.depth + 1) template.toList [] scopes
  return String.ofList output

/-- The scopes that bindings give: the last one first, without those that are nothing. -/
def scopesOf (bindings : List Value) : List Value :=
  let scopes := bindings.reverse.filter fun v => !(v matches .null)
  if scopes.isEmpty then [.dict []] else scopes

/-- Renders a template by an engine. -/
def interpolateWith (engine : Engine) (host : Host) (template : String) (bindings : List Value) :
    Rendering String :=
  engine host template (scopesOf bindings)

/-- Renders a template. -/
def interpolate (host : Host) (template : String) (bindings : List Value) : Rendering String :=
  interpolateWith render host template bindings

theorem interpolate_eq (host : Host) (template : String) (bindings : List Value) :
    interpolate host template bindings =
      renderAt host (host.depth + 1) template.toList [] (scopesOf bindings) >>= fun rendered =>
        pure (String.ofList rendered.1) := rfl

end TagWeave.Mustache
