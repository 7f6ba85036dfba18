import TagWeave.Text.Utf8
import TagWeave.Value.Text

/-!
# Faults

What can go wrong outside the library's own rules: names, numbers, files, the types
of values, and whatever code that the application supplies reports. Each fault is of
a kind, which reports name, and has a wording of its own.
-/

namespace TagWeave

open TagWeave.Text

/-- Why the operating system refuses to open a file. -/
inductive FileFault where
  | missing
  | taken
  | notDirectory
  | isDirectory
  | nameTooLong
  deriving DecidableEq, Repr

namespace FileFault

/-- The number of a refusal. -/
def number : FileFault → Nat
  | missing => 2
  | taken => 17
  | notDirectory => 20
  | isDirectory => 21
  | nameTooLong => 36

/-- The wording of a refusal. -/
def reason : FileFault → String
  | missing => "No such file or directory"
  | taken => "File exists"
  | notDirectory => "Not a directory"
  | isDirectory => "Is a directory"
  | nameTooLong => "File name too long"

/-- The kind of a refusal. -/
def kind : FileFault → String
  | missing => "FileNotFoundError"
  | taken => "FileExistsError"
  | notDirectory => "NotADirectoryError"
  | isDirectory => "IsADirectoryError"
  | nameTooLong => "OSError"

end FileFault

/-- An operation that a value's type does not support. -/
inductive TypeFault where
  | operands (operator left right : String)
  | order (operator left right : String)
  | concatenation (typeName : String)
  | listConcatenation (typeName : String)
  | repetition (typeName : String)
  | noLength (typeName : String)
  | notIterable (typeName : String)
  | notSubscriptable (typeName : String)
  | notCallable (typeName : String)
  | joinItem (position : Nat) (typeName : String)
  | notContainer (typeName : String)
  | textContainer (typeName : String)
  | sign (operator typeName : String)
  | badKeys
  | notPath (typeName : String)
  | integerOf (typeName : String)
  | fractionOf (typeName : String)
  | badOption (engine option : String)
  | repeatedArgument (function name : String)
  | unexpectedArgument (function name : String)
  | tooManyArguments (function : String) (least most given : Nat)
  | notOneArgument (function : String) (given : Nat)
  | noNamedArguments (function : String)
  | noTemplates
  deriving DecidableEq, Repr

/-- The wording of a type fault. -/
def TypeFault.message : TypeFault → String
  | operands operator left right =>
    "unsupported operand type(s) for " ++ operator ++ ": '" ++ left ++ "' and '" ++ right ++ "'"
  | order operator left right =>
    "'" ++ operator ++ "' not supported between instances of '" ++ left ++ "' and '" ++ right ++ "'"
  | concatenation typeName => "can only concatenate str (not \"" ++ typeName ++ "\") to str"
  | listConcatenation typeName => "can only concatenate list (not \"" ++ typeName ++ "\") to list"
  | repetition typeName => "can't multiply sequence by non-int of type '" ++ typeName ++ "'"
  | noLength typeName => "object of type '" ++ typeName ++ "' has no len()"
  | notIterable typeName => "'" ++ typeName ++ "' object is not iterable"
  | notSubscriptable typeName => "'" ++ typeName ++ "' object is not subscriptable"
  | notCallable typeName => "'" ++ typeName ++ "' object is not callable"
  | joinItem position typeName =>
    "sequence item " ++ toString position ++ ": expected str instance, " ++ typeName ++ " found"
  | notContainer typeName => "argument of type '" ++ typeName ++ "' is not iterable"
  | textContainer typeName => "'in <string>' requires string as left operand, not " ++ typeName
  | sign operator typeName => "bad operand type for unary " ++ operator ++ ": '" ++ typeName ++ "'"
  | badKeys => "keywords must be strings"
  | notPath typeName => "expected str, bytes or os.PathLike object, not " ++ typeName
  | integerOf typeName =>
    "int() argument must be a string, a bytes-like object or a real number, not '" ++ typeName ++ "'"
  | fractionOf typeName =>
    "float() argument must be a string or a real number, not '" ++ typeName ++ "'"
  | badOption engine option =>
    engine ++ ".__init__() got an unexpected keyword argument '" ++ option ++ "'"
  | repeatedArgument function name =>
    function ++ "() got multiple values for argument '" ++ name ++ "'"
  | unexpectedArgument function name =>
    function ++ "() got an unexpected keyword argument '" ++ name ++ "'"
  | tooManyArguments function least most given =>
    function ++ "() takes " ++
      (if least = most then toString most else "from " ++ toString least ++ " to " ++ toString most) ++
      " positional argument" ++ (if most = 1 then "" else "s") ++ " but " ++ toString given ++
      " were given"
  | notOneArgument function given =>
    function ++ "() takes exactly one argument (" ++ toString given ++ " given)"
  | noNamedArguments function => function ++ "() takes no keyword arguments"
  | noTemplates => "no loader for this environment specified"

/-- What can go wrong. -/
inductive Fault where
  | invalidTagName (name : String)
  | duplicateTagName (name : String)
  | tooFewPasses
  | tooFewWorkers
  | noWorkers
  | notRetriever (tag typeName : String)
  | notContent (typeName : String)
  | noAttribute (tag key : String)
  | outsideRoot (name root : String)
  | noFragment (path : String)
  | noSources (tag : String)
  | noMember (typeName member : String)
  | missingKey (key : Value)
  | file (fault : FileFault) (path : String)
  | nulInPath
  | undecodable (error : DecodeError)
  | unencodable (error : EncodeError)
  | unknownEncoding (name : String)
  | notInteger (text : String)
  | tooManyDigits (digits : Nat)
  | notFraction (text : String)
  | infiniteInteger
  | undefinedInteger
  | hugeFraction
  | hugeQuotient
  | hugeCount
  | longInteger
  | listIndex
  | textIndex
  | divisionByZero (wording : String)
  | tooDeep
  | type (fault : TypeFault)
  | raised (kind text : String)
  /-- An exception of the application that has no wording: to ask for it fails in turn. -/
  | unprintable (kind : String) (failure : Fault)
  deriving Repr

namespace Fault

/-- The kind of a fault. -/
def kind : Fault → String
  | invalidTagName _ | duplicateTagName _ | tooFewPasses | tooFewWorkers | noWorkers => "ValueError"
  | nulInPath | notInteger _ | tooManyDigits _ | notFraction _ => "ValueError"
  | undefinedInteger | longInteger => "ValueError"
  | notRetriever _ _ | notContent _ | type _ => "TypeError"
  | noAttribute _ _ | noSources _ | unknownEncoding _ => "LookupError"
  | outsideRoot _ _ => "PermissionError"
  | noFragment _ => "FileNotFoundError"
  | noMember _ _ => "AttributeError"
  | missingKey _ => "KeyError"
  | file fault _ => fault.kind
  | undecodable _ => "UnicodeDecodeError"
  | unencodable _ => "UnicodeEncodeError"
  | infiniteInteger | hugeFraction | hugeQuotient | hugeCount => "OverflowError"
  | listIndex | textIndex => "IndexError"
  | divisionByZero _ => "ZeroDivisionError"
  | tooDeep => "RecursionError"
  | raised kind _ | unprintable kind _ => kind

/-- A byte as messages show it. -/
def shownByte (b : UInt8) : String := "0x" ++ String.ofList (hexDigits 2 b.toNat)

/-- The wording of a failed decoding, which shows one byte or the range of several. -/
def decodeMessage (e : DecodeError) : String :=
  let place := match e.bytes with
    | [b] => "byte " ++ shownByte b ++ " in position " ++ toString e.position
    | bytes =>
      "bytes in position " ++ toString e.position ++ "-" ++ toString (e.position + bytes.length - 1)
  "'" ++ e.codec ++ "' codec can't decode " ++ place ++ ": " ++ e.fault.reason

/-- The wording of a failed encoding, which shows one code point or the range of several. -/
def encodeMessage (e : EncodeError) : String :=
  let place := match e.units with
    | [unit] => " '\\u" ++ String.ofList (hexDigits 4 unit) ++ "' in position " ++ toString e.position
    | units =>
      "s in position " ++ toString e.position ++ "-" ++ toString (e.position + units.length - 1)
  "'utf-8' codec can't encode character" ++ place ++ ": surrogates not allowed"

/-- The wording of a fault. One that has none is told by what asking for it fails with. -/
def message : Fault → String
  | invalidTagName name => "invalid tag name: " ++ quoted name
  | duplicateTagName name => "duplicate tag name: " ++ quoted name
  | tooFewPasses => "max_passes must be at least 1"
  | tooFewWorkers => "max_workers must be at least 1"
  | noWorkers => "max_workers must be greater than 0"
  | notRetriever tag typeName =>
    "retriever for <" ++ tag ++ "> must be a Retriever, got " ++ typeName
  | notContent typeName =>
    "retriever returned " ++ typeName ++ ", expected CacheableContent or str"
  | noAttribute tag key => "<" ++ tag ++ "> has no " ++ quoted key ++ " attribute"
  | outsideRoot name root => "fragment " ++ quoted name ++ " resolves outside " ++ root
  | noFragment path => "fragment not found: " ++ path
  | noSources tag => "no sources configured for <" ++ tag ++ ">"
  | noMember typeName member =>
    "'" ++ typeName ++ "' object has no attribute '" ++ member ++ "'"
  | missingKey key => key.shown
  | file fault path => "[Errno " ++ toString fault.number ++ "] " ++ fault.reason ++ ": " ++ quoted path
  | nulInPath => "embedded null byte"
  | undecodable error => decodeMessage error
  | unencodable error => encodeMessage error
  | unknownEncoding name => "unknown encoding: " ++ name
  | notInteger text => "invalid literal for int() with base 10: " ++ quoted text
  | tooManyDigits digits => Number.tooManyDigits digits
  | notFraction text => "could not convert string to float: " ++ quoted text
  | infiniteInteger => "cannot convert float infinity to integer"
  | undefinedInteger => "cannot convert float NaN to integer"
  | hugeFraction => "int too large to convert to float"
  | hugeQuotient => "integer division result too large for a float"
  | hugeCount => "cannot fit 'int' into an index-sized integer"
  | longInteger => Number.tooLongToWrite
  | listIndex => "list index out of range"
  | textIndex => "string index out of range"
  | divisionByZero wording => wording
  | tooDeep => "maximum recursion depth exceeded"
  | type fault => fault.message
  | raised _ text => text
  | unprintable _ failure => failure.message

/-- The wording of a fault, or what asking for it fails with. -/
def told : Fault → Except Fault String
  | unprintable _ failure => .error failure
  | f => .ok f.message

/-- Whether the fault is a request of the application's code to end the program. Such a request is
no failure, and whoever catches failures lets it pass. -/
def isExit : Fault → Bool
  | raised kind _ | unprintable kind _ =>
    ["SystemExit", "KeyboardInterrupt", "GeneratorExit", "BaseException"].contains kind
  | _ => false

/-- Whether the fault is one of the kinds that concern a value. -/
def isValueFault (f : Fault) : Bool :=
  ["ValueError", "ConfigError", "UnicodeDecodeError", "UnicodeError", "UnicodeEncodeError"].contains
    f.kind

end Fault

end TagWeave
