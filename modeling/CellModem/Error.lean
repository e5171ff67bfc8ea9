import CellModem.Text.Quoted

/-!
# What can go wrong

Reading a modem's answer fails with a `DecodeError`; an operation on the modem fails with an
`Error`. Each names its cause, and `message` words it.
-/

namespace CellModem

inductive FieldKind where
  | integer
  | float
  | quotedString
  | token
  deriving DecidableEq, Repr

def FieldKind.name : FieldKind → String
  | .integer => "integer"
  | .float => "number"
  | .quotedString => "quoted string"
  | .token => "unquoted token"

/-- Why an answer could not be read. Fields count from zero. -/
inductive DecodeError where
  | leadNotFound (lead : String)
  /-- The field is empty or the line has no more fields. -/
  | fieldMissing (index : Nat)
  | fieldMismatch (index : Nat) (expected : FieldKind)
  | tooManyRows (cap : Nat)
  | unknownCode (code : Int)
  /-- `value` is past `max`, or below zero where no sign is allowed. -/
  | outOfRange (value max : Int)
  deriving DecidableEq, Repr

def DecodeError.message : DecodeError → String
  | .leadNotFound lead => "no response line starts with " ++ Text.quoted lead
  | .fieldMissing index => s!"field {index} is missing"
  | .fieldMismatch index expected => s!"field {index} is not a " ++ expected.name
  | .tooManyRows cap => s!"response has more than {cap} rows"
  | .unknownCode code => s!"modem reported unknown code {code}"
  | .outOfRange value max => s!"value {value} exceeds {max}"

inductive Error where
  | rejected
  /-- The modem's final line was not `OK`. -/
  | protocol (status : String)
  | decode (cause : DecodeError)
  | busy
  /-- The bound driver lacks what the operation needs. -/
  | notImplemented
  | invalidArgument (detail : String)
  | instanceGone
  | unsupportedTechnology (code : Int)
  | duplicateDriver (name : String)
  | noDriver (facility : String)
  deriving DecidableEq, Repr

def Error.message : Error → String
  | .rejected => "transport rejected the command"
  | .protocol status => "modem returned " ++ status
  | .decode cause => "decode failed: " ++ cause.message
  | .busy => "operation already in progress"
  | .notImplemented => "operation not implemented by driver"
  | .invalidArgument detail => "invalid argument: " ++ detail
  | .instanceGone => "facility instance is gone"
  | .unsupportedTechnology code => s!"access technology {code} has no RF status report"
  | .duplicateDriver name =>
    "a different driver named " ++ Text.quoted name ++ " is already registered"
  | .noDriver facility => "no driver accepted the " ++ facility ++ " instance"

end CellModem
