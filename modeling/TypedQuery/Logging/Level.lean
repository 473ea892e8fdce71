import TypedQuery.Error
import TypedQuery.Text.Casing

/-!
Levels of messages. A level is known by its name in any case, and two of them by a second name.
-/
set_option autoImplicit false

namespace TypedQuery

/-- How much a message matters. `notSet` leaves the decision to the parent of a logger. -/
inductive Level
  | notSet
  | debug
  | info
  | warning
  | error
  | critical
  deriving DecidableEq, Repr

namespace Level

def rank : Level → Nat
  | .notSet => 0
  | .debug => 10
  | .info => 20
  | .warning => 30
  | .error => 40
  | .critical => 50

def label : Level → String
  | .notSet => "NOTSET"
  | .debug => "DEBUG"
  | .info => "INFO"
  | .warning => "WARNING"
  | .error => "ERROR"
  | .critical => "CRITICAL"

/-- The level of a value, which has to be a text with the name of one. Two further names belong
to the namespace of levels without being levels. -/
def ofValue (v : Value) : Except Misuse Level :=
  match v with
  | .text s =>
    match upperCase s with
    | "NOTSET" => .ok .notSet
    | "DEBUG" => .ok .debug
    | "INFO" => .ok .info
    | "WARNING" | "WARN" => .ok .warning
    | "ERROR" => .ok .error
    | "CRITICAL" | "FATAL" => .ok .critical
    | "BASIC_FORMAT" => .error .badValue
    | "_STYLES" => .error .wrongType
    | _ => .error .noMember
  | .bytes _ => .error .wrongType
  | _ => .error .noMember

end Level

end TypedQuery
