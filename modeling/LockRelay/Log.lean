/-! Lines of the log: a level, a message, and fields with their values. -/
namespace LockRelay

inductive LogLevel where
  | error
  | info
  | debug
  deriving DecidableEq, Repr

def LogLevel.name : LogLevel → String
  | .error => "ERROR"
  | .info => "INFO"
  | .debug => "DEBUG"

structure LogLine where
  level : LogLevel
  message : String
  fields : List (String × String) := []
  deriving DecidableEq, Repr

def LogLine.text (l : LogLine) : String :=
  " ".intercalate (l.level.name :: l.message ::
    l.fields.map fun (field, value) => field ++ "=" ++ value)

end LockRelay
