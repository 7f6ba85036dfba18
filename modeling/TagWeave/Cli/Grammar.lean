import TagWeave.Number.Integer
import TagWeave.Text.Split

/-!
# Command lines

The words of a command line are options and operands. An option is known by its names,
a long one also by any beginning that no other one shares, and takes no value or one,
which follows it or stands behind an equals sign. Words that look like negative numbers
or that hold a space are operands, and so are all words behind a double hyphen.

A command has one operand. All words are told apart before any of them takes effect;
then they take effect in order, and the first one that is wrong, or that asks for help,
ends the reading.
-/

namespace TagWeave.Cli

open TagWeave.Text

/-- What an option does. -/
inductive Effect where
  | help
  | version
  | flag
  | value (admits : String → Bool)

/-- An option, with its names. -/
structure Flag where
  names : List String
  effect : Effect

/-- Why the reading of a command line ends early. -/
inductive Interruption where
  | misuse
  | help
  | version
  deriving DecidableEq, Repr

/-- What a word is. -/
inductive Word where
  | operand (text : String)
  | separator
  | option (flag? : Option Flag) (name : String) (value? : Option String)

/-- The option of a name. -/
def flagNamed? (flags : List Flag) (name : String) : Option Flag :=
  flags.find? (·.names.contains name)

/-- The names that begin with a text, each with its option. -/
def flagsFrom (flags : List Flag) (text : String) : List (Flag × String) :=
  flags.flatMap fun flag =>
    (flag.names.filter fun name => text.toList.isPrefixOf name.toList).map fun name => (flag, name)

/-- A word before and behind its first equals sign. -/
def splitValue (word : String) : String × Option String :=
  match splitOnce? ['='] word.toList with
  | some (name, value) => (String.ofList name, some (String.ofList value))
  | none => (word, none)

/-- The options that a word may stand for which is no name of one. A short name may be followed by
more. -/
def candidates (flags : List Flag) (word : String) : List (Flag × String × Option String) :=
  match word.toList with
  | '-' :: '-' :: _ =>
    let (name, value?) := splitValue word
    (flagsFrom flags name).map fun (flag, name) => (flag, name, value?)
  | '-' :: c :: rest =>
    let short := String.ofList ['-', c]
    flags.flatMap fun flag => flag.names.filterMap fun name =>
      if name = short then some (flag, name, some (String.ofList rest))
      else if word.toList.isPrefixOf name.toList then some (flag, name, none)
      else none
  | _ => []

/-- Whether a word looks like a negative number. -/
def looksNegative (word : String) : Bool :=
  match word.toList with
  | '-' :: rest =>
    let body := if rest.getLast? = some '\n' then rest.dropLast else rest
    (!body.isEmpty && body.all isDigit) ||
      match body.dropWhile isDigit with
      | '.' :: places => !places.isEmpty && places.all isDigit
      | _ => false
  | _ => false

/-- What a word is. It is misuse if it stands for several options. -/
def classify (flags : List Flag) (word : String) : Except Interruption Word :=
  if !(word.toList.head? = some '-') || word = "-" then .ok (.operand word)
  else
    match flagNamed? flags word with
    | some flag => .ok (.option (some flag) word none)
    | none =>
      let (name, value?) := splitValue word
      match value?, flagNamed? flags name with
      | some value, some flag => .ok (.option (some flag) name (some value))
      | _, _ =>
        match candidates flags word with
        | [(flag, name, value?)] => .ok (.option (some flag) name value?)
        | _ :: _ :: _ => .error .misuse
        | [] =>
          if looksNegative word || word.toList.contains ' ' then .ok (.operand word)
          else .ok (.option none word none)

/-- What the words are. -/
def classifyAll (flags : List Flag) : List String → Except Interruption (List Word)
  | [] => .ok []
  | word :: words =>
    if word = "--" then .ok (.separator :: words.map .operand)
    else do return (← classify flags word) :: (← classifyAll flags words)

/-- What has been read: the operand, the options in order with their values, and whether there were
words that nothing takes. -/
structure Reading where
  operand? : Option String := none
  options : List (String × String) := []
  strays : Bool := false
  deriving Repr

namespace Reading

/-- The long name of an option. -/
def longName (flag : Flag) : String := flag.names.getLast?.getD ""

/-- Takes an option without a value into effect. -/
def takeFlag (reading : Reading) (flag : Flag) : Except Interruption Reading :=
  match flag.effect with
  | .help => .error .help
  | .version => .error .version
  | .flag => .ok { reading with options := reading.options ++ [(longName flag, "")] }
  | .value _ => .error .misuse

/-- Takes an option with a value into effect. A value that is a double hyphen counts as none. -/
def takeValue (reading : Reading) (flag : Flag) (value : String) : Except Interruption Reading :=
  match flag.effect with
  | .value admits =>
    if value = "--" then .ok reading
    else if admits value then
      .ok { reading with options := reading.options ++ [(longName flag, value)] }
    else .error .misuse
  | _ => .error .misuse

/-- Takes an option that has more letters behind its short name into effect: they are short names of
further options. -/
def takeCluster (flags : List Flag) (reading : Reading) (flag : Flag) (name : String) :
    List Char → Except Interruption Reading
  | [] => .error .misuse
  | c :: rest =>
    if name.toList.take 2 = ['-', '-'] then .error .misuse
    else
      match flagNamed? flags (String.ofList ['-', c]) with
      | none => .error .misuse
      | some next =>
        match reading.takeFlag flag, rest with
        | .error e, _ => .error e
        | .ok reading, [] => reading.takeFlag next
        | .ok reading, rest => takeCluster flags reading next (String.ofList ['-', c]) rest

/-- Takes the operand, and the words behind it. -/
def takeOperands (reading : Reading) : List Word → Reading
  | [] => reading
  | .separator :: .operand text :: rest =>
    match reading.operand? with
    | none => { reading with operand? := some text, strays := reading.strays || !rest.isEmpty }
    | some _ => { reading with strays := true }
  | .operand text :: rest =>
    match reading.operand? with
    | none =>
      let rest := match rest with
        | .separator :: rest => rest
        | rest => rest
      { reading with operand? := some text, strays := reading.strays || !rest.isEmpty }
    | some _ => { reading with strays := true }
  | _ => { reading with strays := true }

/-- Whether one of some words is an option. -/
def hasOption (words : List Word) : Bool :=
  words.any fun word => match word with
    | .option _ _ _ => true
    | _ => false

/-- Takes words into effect, one after the other. -/
def takeWords (flags : List Flag) : Nat → Reading → List Word → Except Interruption Reading
  | 0, reading, _ => .ok reading
  | fuel + 1, reading, words =>
    if !hasOption words then .ok (reading.takeOperands words)
    else
      match words with
      | .option none _ _ :: rest => takeWords flags fuel { reading with strays := true } rest
      | .option (some flag) name (some value) :: rest =>
        match flag.effect, value.toList with
        | .value _, _ => do takeWords flags fuel (← reading.takeValue flag value) rest
        | _, letters => do takeWords flags fuel (← takeCluster flags reading flag name letters) rest
      | .option (some flag) _ none :: rest =>
        match flag.effect, rest with
        | .value _, .operand value :: rest => do
          takeWords flags fuel (← reading.takeValue flag value) rest
        | .value _, _ => .error .misuse
        | _, rest => do takeWords flags fuel (← reading.takeFlag flag) rest
      | .operand text :: rest =>
        match reading.operand? with
        | none => takeWords flags fuel { reading with operand? := some text } rest
        | some _ => takeWords flags fuel { reading with strays := true } rest
      | .separator :: rest => takeWords flags fuel { reading with strays := true } rest
      | [] => .ok reading

/-- Reads the words behind a command. The operand must be there. -/
def ofWords (flags : List Flag) (words : List String) : Except Interruption Reading := do
  let words ← classifyAll flags words
  let reading ← takeWords flags (words.length + 1) {} words
  if reading.operand?.isNone then throw .misuse
  return reading

/-- The values of an option. -/
def values (reading : Reading) (name : String) : List String :=
  (reading.options.filter (·.1 = name)).map (·.2)

/-- The last value of an option. -/
def value? (reading : Reading) (name : String) : Option String := (reading.values name).getLast?

/-- Whether an option is given. -/
def has (reading : Reading) (name : String) : Bool := reading.options.any (·.1 = name)

end Reading

end TagWeave.Cli
