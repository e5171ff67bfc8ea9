import CellModem.Channel.Script
import CellModem.CommandLine
import CellModem.Core
import CellModem.Host.Creation
import CellModem.Presence.Watcher

/-!
# The agent

Runs the core on a simulated modem. The device appears at the start. Every line of standard input is
a line the modem sends on its own, and every event is written as a line of JSON. At the end of the
input the modem is taken down.
-/

namespace CellModem.Agent

/-- Writes the events that are not written yet, and forgets them. -/
def report (core : Core Simulator Unit) : IO (Core Simulator Unit) := do
  for event in core.machine.state.events do
    IO.println event.json
  (← IO.getStdout).flush
  let host := { core.machine.state with events := [] }
  return { core with machine := { core.machine with state := host } }

def load (path? : Option String) : IO (Except ConfigError Config) := do
  match path? with
  | none => return .ok .standard
  | some path =>
    let bytes ← try some <$> IO.FS.readBinFile path catch _ => pure none
    return Config.ofFile (bytes.map ByteArray.toList)

/-- Lets the watcher see the device, and gives its action to the core. -/
def attach (config : PresenceConfig) (core : Core Simulator Unit) : IO (Core Simulator Unit) := do
  let core := { core with present := true }
  let (watcher, presence, _) := Watcher.idle.step core.presence .event
  IO.sleep (UInt32.ofNat config.detectDelay)
  let (watcher, presence, _) := watcher.step presence (.elapsed core.present)
  IO.sleep (UInt32.ofNat config.openDelay)
  let (_, presence, action?) := watcher.step presence (.elapsed core.present)
  let core := { core with presence := presence }
  match action? with
  | some action => return core.handle action
  | none => return core

partial def serve (input : IO.FS.Stream) (core : Core Simulator Unit) :
    IO (Core Simulator Unit) := do
  let line ← input.getLine
  if line.isEmpty then return core
  match Text.trim line.toList with
  | [] => serve input core
  | text =>
    let (_, machine) := core.machine.push (String.ofList text)
    serve input (← report { core with machine := machine })

def run (config : Config) : IO Unit := do
  let (_, host) := Host.registerDrivers driverName .full (Host.initial ())
  let core : Core Simulator Unit := .initial config.model host .working
  let core ← report (← attach config.presence core)
  let core ← serve (← IO.getStdin) core
  let _ ← report core.dropModem

def complain (message : String) : IO UInt32 := do
  IO.eprintln message
  return 1

end CellModem.Agent

open CellModem in
def main (arguments : List String) : IO UInt32 := do
  match CommandLine.ofArguments arguments with
  | .error e => Agent.complain e.message
  | .ok line =>
    match ← Agent.load line.config with
    | .error e => Agent.complain e.message
    | .ok config =>
      match line.override config with
      | .error e => Agent.complain e.message
      | .ok config =>
        Agent.run config
        return 0
