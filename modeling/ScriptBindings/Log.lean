/-!
# Log lines

What a generation run reports, and which of it a console shows. Until a console has been set up,
only warnings and errors are shown, as bare text.
-/

namespace ScriptBindings

/-- How important a report is. -/
inductive LogLevel where
  | debug
  | info
  | warning
  | error
  deriving DecidableEq, Repr

namespace LogLevel

/-- The rank of a level, higher for more important ones. -/
def rank : LogLevel → Nat
  | debug => 0
  | info => 1
  | warning => 2
  | error => 3

/-- The word for a level in a log line. -/
def label : LogLevel → String
  | debug => "DEBUG"
  | info => "INFO"
  | warning => "WARNING"
  | error => "ERROR"

end LogLevel

/-- A report. -/
structure LogRecord where
  level : LogLevel
  text : String
  deriving DecidableEq, Repr

/-- The name under which everything is reported. -/
def loggerName : String := "sk_gen"

/-- The name of the part of the log that is called `part`, or of the whole log. -/
def loggerNameOf : Option String → String
  | none => loggerName
  | some part => if part = "" then loggerName else loggerName ++ "." ++ part

/-- How a console has been set up. -/
inductive Console where
  | unset
  | plain
  | verbose
  deriving DecidableEq, Repr

namespace Console

/-- The least level that a console shows. -/
def threshold : Console → LogLevel
  | unset => .warning
  | plain => .info
  | verbose => .debug

/-- The line that a console shows for a report, if it shows it. -/
def line? (c : Console) (r : LogRecord) : Option String :=
  if r.level.rank < c.threshold.rank then none
  else if c = .unset then some r.text
  else some ("[" ++ loggerName ++ "] " ++ r.level.label ++ " " ++ r.text)

end Console

end ScriptBindings
