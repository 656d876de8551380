import LedgerFlow.Log.Template
import LedgerFlow.Settings

namespace LedgerFlow.Log

def escape (code : String) : String := "\x1b[" ++ code ++ "m"

def reset : String := escape "0"

def colours : List (String × String) := [
  ("DEBUG", "36"),
  ("INFO", "32"),
  ("WARNING", "33"),
  ("ERROR", "31"),
  ("CRITICAL", "35"),
  ("RESET", "0")]

def coloured (levelName : String) : String :=
  match colours.lookup levelName with
  | some code => escape code ++ levelName ++ reset
  | none => levelName

structure Record where
  name : String
  levelName : String
  template : String
  arguments : Option Arguments

def Record.message (r : Record) : Except Fault String :=
  match r.arguments with
  | none => .ok r.template
  | some a => Template.apply r.template a

def Record.line (r : Record) : Except Fault String := do
  return " | ".intercalate [r.name, coloured r.levelName, ← r.message]

def levels : List (String × Int) := [
  ("CRITICAL", 50),
  ("FATAL", 50),
  ("ERROR", 40),
  ("WARN", 30),
  ("WARNING", 30),
  ("INFO", 20),
  ("DEBUG", 10),
  ("NOTSET", 0)]

def levelOf (name : String) : Int :=
  (levels.lookup (Text.upper name)).getD 20

structure Logger where
  level : Int
  handlerLevels : List Int
  propagates : Bool
deriving DecidableEq, Repr

structure Loggers where
  entries : List (String × Logger)
  asked : List String
deriving DecidableEq, Repr

namespace Loggers

def empty : Loggers := ⟨[], []⟩

def contains (l : Loggers) (name : String) : Bool := l.asked.contains name

/-- The root of all loggers has no name of its own; it can also be asked for by the word. -/
def canonical (name : String) : String := if name == "root" then "" else name

def create (settings : Settings) (level : Option Int) : Logger :=
  let level := level.getD (levelOf settings.logLevel)
  ⟨level, [level], settings.logPropagate⟩

def get (l : Loggers) (settings : Settings) (name : String) (level : Option Int) : Logger × Loggers :=
  let fresh := create settings level
  if l.contains name then ((l.entries.lookup (canonical name)).getD fresh, l)
  else (fresh, ⟨Json.put l.entries (canonical name) fresh, name :: l.asked⟩)

end Loggers

end LedgerFlow.Log
