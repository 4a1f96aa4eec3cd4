/-!
# Log entries

What an operation reports beside its result. Entries are requests of a hardware program like any
other, so their order relative to register accesses is part of the program.
-/

set_option autoImplicit false
set_option relaxedAutoImplicit false

namespace Scanout.Log

/-- Severity of an entry. -/
inductive Level where
  | debug
  | info
  | warn
  | error
  deriving DecidableEq, Repr

/-- The severity's written name. -/
def Level.name : Level → String
  | debug => "DEBUG"
  | info => "INFO"
  | warn => "WARN"
  | error => "ERROR"

/-- One line of the log. -/
structure Entry where
  level : Level
  text : String
  deriving DecidableEq, Repr

/-- The entry as one line, severity first. -/
def Entry.line (entry : Entry) : String :=
  entry.level.name ++ " " ++ entry.text

end Scanout.Log
