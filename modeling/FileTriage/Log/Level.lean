/-
How much is logged.
-/
import FileTriage.Text.Blank

namespace FileTriage

/-- The levels of a log, from nothing to everything. -/
inductive LogLevel where
  | off
  | error
  | warn
  | info
  | debug
  | trace
deriving DecidableEq, Repr

namespace LogLevel

/-- What a level is called in messages. -/
def label : LogLevel → String
  | off => "OFF"
  | error => "ERROR"
  | warn => "WARN"
  | info => "INFO"
  | debug => "DEBUG"
  | trace => "TRACE"

/-- The levels under the names that a configuration uses. -/
def named : List (String × LogLevel) :=
  [("off", off), ("error", error), ("warn", warn), ("warning", warn), ("info", info),
   ("debug", debug), ("trace", trace)]

/-- The level of a name, in letters of either case and with blanks around it. -/
def ofName? (name : String) : Option LogLevel := named.lookup (Text.trim name).toLower

end LogLevel

end FileTriage
