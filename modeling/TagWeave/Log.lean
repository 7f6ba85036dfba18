/-!
# Log records

What a part of the library does is told in records, each with a level. Levels are
numbers; some of them have names, and a level without one is named by its number.
-/

namespace TagWeave.Log

/-- The level of records that help to find a fault. -/
def debug : Nat := 10

/-- The level of records about the normal course. -/
def info : Nat := 20

/-- The level of records about something unexpected. -/
def warning : Nat := 30

/-- The level of records about a failure. -/
def error : Nat := 40

/-- The level of records about a failure that ends the program. -/
def critical : Nat := 50

/-- The names under which a level can be asked for. -/
def namedLevels : List (String × Nat) :=
  [("CRITICAL", critical), ("FATAL", critical), ("ERROR", error), ("WARN", warning),
    ("WARNING", warning), ("INFO", info), ("DEBUG", debug), ("NOTSET", 0)]

/-- The level of a name in upper case. -/
def levelOf? (name : String) : Option Nat := (namedLevels.find? (·.1 = name)).map (·.2)

/-- The name that records show of a level. -/
def levelName (level : Nat) : String :=
  if level = critical then "CRITICAL"
  else if level = error then "ERROR"
  else if level = warning then "WARNING"
  else if level = info then "INFO"
  else if level = debug then "DEBUG"
  else if level = 0 then "NOTSET"
  else "Level " ++ toString level

/-- The parts of the library that write records. -/
inductive Origin where
  | configuration
  | assembly
  | passes
  | retrieval
  | application (name : String)
  deriving DecidableEq, Repr

/-- The name of a part. -/
def Origin.name : Origin → String
  | configuration => "viewcompose.core.config.manager"
  | assembly => "viewcompose.core.templ.factory"
  | passes => "viewcompose.core.templ.renderer"
  | retrieval => "viewcompose.core.templ.retrievers"
  | application name => name

/-- A record. -/
structure Record where
  level : Nat
  origin : Origin
  message : String
  deriving DecidableEq, Repr

/-- A record as a line of a log. -/
def Record.line (r : Record) : String :=
  levelName r.level ++ " " ++ r.origin.name ++ ": " ++ r.message

end TagWeave.Log
