/-!
# Faults of YAML texts

A text is refused by one of five stages: its characters, its tokens, their order,
the references between its nodes, or the values that its nodes stand for. An escape by a
number that is no character's, or that is too large for a machine, is no refusal of these.
-/

namespace TagWeave.Yaml

/-- The stage that refuses a text. -/
inductive Stage where
  | characters
  | tokens
  | order
  | references
  | values
  | codePoints
  | machineNumbers
  deriving DecidableEq, Repr

/-- The name under which a stage's refusal is reported. -/
def Stage.kind : Stage → String
  | characters => "ReaderError"
  | tokens => "ScannerError"
  | order => "ParserError"
  | references => "ComposerError"
  | values => "ConstructorError"
  | codePoints => "ValueError"
  | machineNumbers => "OverflowError"

/-- Whether a stage refuses a text by an error of its own. -/
def Stage.isOwn : Stage → Bool
  | codePoints | machineNumbers => false
  | _ => true

/-- Why a text is refused. -/
structure Fault where
  stage : Stage
  reason : String
  deriving DecidableEq, Repr

end TagWeave.Yaml
