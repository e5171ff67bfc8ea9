import CellModem.Config

/-!
# The command line

`--config` names a configuration file; `--device-dir` and `--model` go before what it says.
-/

namespace CellModem

structure CommandLine where
  config : Option String
  deviceDir : Option String
  model : Option String
  deriving DecidableEq, Repr

inductive CommandLineError where
  | unknownOption (option : String)
  | missingValue (option : String)
  deriving DecidableEq, Repr

def CommandLineError.message : CommandLineError → String
  | .unknownOption option => "unknown option " ++ Text.quoted option
  | .missingValue option => "option " ++ option ++ " needs a value"

namespace CommandLine

/-- Options in any order; of one that is repeated the last counts. -/
def parse : List String → CommandLine → Except CommandLineError CommandLine
  | [], line => .ok line
  | "--config" :: path :: rest, line => parse rest { line with config := some path }
  | "--device-dir" :: dir :: rest, line => parse rest { line with deviceDir := some dir }
  | "--model" :: name :: rest, line => parse rest { line with model := some name }
  | [option], _ =>
    if ["--config", "--device-dir", "--model"].contains option then .error (.missingValue option)
    else .error (.unknownOption option)
  | option :: _, _ => .error (.unknownOption option)

def ofArguments (arguments : List String) : Except CommandLineError CommandLine :=
  parse arguments ⟨none, none, none⟩

def override (line : CommandLine) (config : Config) : Except Error Config := do
  let presence := { config.presence with
    deviceDir := line.deviceDir.getD config.presence.deviceDir }
  let model ← match line.model with
    | none => pure config.model
    | some name => Model.ofName name
  return { config with presence, model }

end CommandLine

end CellModem
