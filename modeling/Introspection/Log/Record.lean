/-!
# Log records

A record is what a part of the program reports while it runs: how grave it is, which logger it
comes from, and its text. Pure code returns records in order; where they go is decided by whoever
runs it.

## Main definitions

* `Log.Level`, `Log.Record`
* `Log.rootLogger`, `Log.loggerName`
-/

namespace Introspection.Log

/-- How grave a record is. -/
inductive Level where
  | debug
  | info
  | warning
  | error
  | critical
  /-- Any number is a level, between the named ones and beyond. -/
  | numbered (number : Int)
deriving DecidableEq, Inhabited, Repr

namespace Level

/-- The number of a level. -/
def number : Level → Int
  | .debug => 10
  | .info => 20
  | .warning => 30
  | .error => 40
  | .critical => 50
  | .numbered number => number

/-- The names of levels by their numbers. -/
def names : List (Int × String) :=
  [(0, "NOTSET"), (10, "DEBUG"), (20, "INFO"), (30, "WARNING"), (40, "ERROR"), (50, "CRITICAL")]

/-- The name of a level. -/
def name (level : Level) : String :=
  (names.lookup level.number).getD ("Level " ++ toString level.number)

/-- The levels with names of their own, least grave first. -/
def all : List Level := [.debug, .info, .warning, .error, .critical]

/-- The level of a name. -/
def ofName? (name : String) : Option Level :=
  all.find? fun level => level.name = name

/-- The weight of a level; thresholds compare weights. No level weighs less than nothing. -/
def weight (level : Level) : Nat :=
  level.number.toNat

end Level

/-- The logger that all others are below. -/
def rootLogger : String := "stubsmith"

/-- The full name of a logger; without a name of its own it is the one above all. -/
def loggerName (name : Option String) : String :=
  match name with
  | none => rootLogger
  | some name => if name.isEmpty then rootLogger else rootLogger ++ "." ++ name

/-- A level, the full name of a logger, and a text. -/
structure Record where
  level : Level
  logger : String
  message : String
deriving DecidableEq, Inhabited, Repr

end Introspection.Log
