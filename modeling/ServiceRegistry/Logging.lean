import ServiceRegistry.Text.LetterCase
import ServiceRegistry.Text.Quoted

/-!
# Log records and the setup of logging

Results:

* `LogRecord`: what is logged.
* `RootLogger`: the root of the loggers, by its level and its handlers.
* `RootLogger.setup`: attaches a console handler once, at the level of a given name.
* `RootLogger.call`, `RootLogger.after`: one call of the setup, and calls one after the other.
-/

namespace ServiceRegistry

/-- The levels of records. -/
inductive LogLevel
  | debug
  | info
  | warning
  | error
  deriving Repr, DecidableEq

/-- The name of a level. -/
def LogLevel.label : LogLevel → String
  | .debug => "DEBUG"
  | .info => "INFO"
  | .warning => "WARNING"
  | .error => "ERROR"

/-- A record: its level, its logger, its text, and the name of the fault that it reports. -/
structure LogRecord where
  level : LogLevel
  logger : String
  message : String
  fault : Option String
  deriving Repr, DecidableEq

/-- What a name in capital letters stands for where levels are looked up. -/
inductive LevelValue
  | number (level : Nat)
  | text (value : String)
  | other (shown : String)
  deriving Repr, DecidableEq

/-- The text of a record without a time. -/
def basicFormat : String := "%(levelname)s:%(name)s:%(message)s"

/-- The format styles, as they are shown in a message. -/
def shownStyles : String :=
  "\x7b'%': (<class 'logging.PercentStyle'>, '%(levelname)s:%(name)s:%(message)s'), " ++
  "'\x7b': (<class 'logging.StrFormatStyle'>, " ++
  "'\x7blevelname\x7d:\x7bname\x7d:\x7bmessage\x7d'), " ++
  "'$': (<class 'logging.StringTemplateStyle'>, " ++
  "'$\x7blevelname\x7d:$\x7bname\x7d:$\x7bmessage\x7d')\x7d"

/-- The names in capital letters. Two of them name no level. -/
def levelValues : List (String × LevelValue) :=
  [("CRITICAL", .number 50), ("FATAL", .number 50), ("ERROR", .number 40), ("WARNING", .number 30),
   ("WARN", .number 30), ("INFO", .number 20), ("DEBUG", .number 10), ("NOTSET", .number 0),
   ("BASIC_FORMAT", .text basicFormat), ("_STYLES", .other shownStyles)]

/-- The level of records that inform, which an unknown name stands for. -/
def infoLevel : Nat := 20

/-- Why a value is no level. -/
inductive LevelFault
  | unknown (value : String)
  | notALevel (shown : String)
  deriving Repr, DecidableEq

/-- The label of a fault. -/
def LevelFault.label : LevelFault → String
  | .unknown _ => "ValueError"
  | .notALevel _ => "TypeError"

/-- The wording of a fault. -/
def LevelFault.message : LevelFault → String
  | .unknown value => "Unknown level: " ++ Text.quoted value
  | .notALevel shown => "Level not an integer or a valid string: " ++ shown

/-- The level of a name, in any letter case. -/
def levelOf (name : String) : Except LevelFault Nat :=
  match levelValues.lookup (Text.upperText name) with
  | some (.number level) => .ok level
  | some (.text value) => .error (.unknown value)
  | some (.other shown) => .error (.notALevel shown)
  | none => .ok infoLevel

/-- The root of the loggers: its level, the handlers that others attached, and whether the console
handler is attached. -/
structure RootLogger where
  level : Nat
  others : Nat
  console : Bool
  deriving Repr, DecidableEq

namespace RootLogger

/-- The root logger with some handlers of others, at the level of warnings. -/
def start (others : Nat) : RootLogger := ⟨30, others, false⟩

/-- The number of handlers. -/
def handlers (root : RootLogger) : Nat :=
  root.others + (if root.console then 1 else 0)

/-- Sets the level of a name and attaches the console handler, unless there is a handler. -/
def setup (root : RootLogger) (name : String) : Except LevelFault RootLogger :=
  if root.handlers ≠ 0 then .ok root
  else (levelOf name).map fun level => { root with level, console := true }

/-- The name that is set up when none is given. -/
def defaultLevelName : String := "INFO"

/-- One call of the setup, with or without a name: why it stopped, if it did, and the logger after
it. -/
def call (root : RootLogger) (name : Option String) : Option LevelFault × RootLogger :=
  match root.setup (name.getD defaultLevelName) with
  | .ok next => (none, next)
  | .error fault => (some fault, root)

/-- The logger after calls one after the other. -/
def after (root : RootLogger) (names : List (Option String)) : RootLogger :=
  names.foldl (fun root name => (root.call name).2) root

/-- The line of the console for a record, by the time of the record. -/
def line (time : String) (record : LogRecord) : String :=
  time ++ " [" ++ record.level.label ++ "] " ++ record.logger ++ ": " ++ record.message

/-- The lines that a record gives on the console. -/
def emit (root : RootLogger) (time : String) (record : LogRecord) : List String :=
  if root.console then [line time record] else []

end RootLogger

end ServiceRegistry
