import CellModem.CommandSet
import CellModem.Host.Operation

/-!
# Operations on the module itself

Its power state, its pins, how it detects a SIM, and its tracing.
-/

namespace CellModem.Operation

variable {υ : Type}

/-! ## Power -/

def powerProperties : Operation υ .power Properties :=
  .request (fun _ => .ok .queryPower) fun state =>
    .learned (fun _ => some state) [("PwMgmState", .text state.name)]

def setPower (state : PowerState) : Operation υ .power Unit :=
  .request (fun _ => .ok (.setPower state)) fun () =>
    .changed (fun _ => some state) "PwMgmState" (.text state.name)

def setPowerProperty (name : String) (value : PropertyValue) : Operation υ .power Unit :=
  match name, value with
  | "PwMgmState", .text text =>
    match PowerState.ofName text with
    | .ok state => setPower state
    | .error e => .refused e
  | _, _ => .cannotSet name value

/-! ## Pins and SIM detection -/

def setGpio (setting : GpioSetting) : Operation υ .hardware Unit :=
  .request (fun _ => return .setGpio (← setting.checked)) .passing

def queryGpios : Operation υ .hardware (List GpioPin) :=
  .request (fun _ => .ok .queryGpios) .passing

def hardwareProperties : Operation υ .hardware Properties :=
  .request (fun _ => .ok .querySimDetection) fun mode =>
    .learned (fun _ => some mode) [("SIMDetectionMode", .text mode.name)]

def setSimDetection (mode : SimDetection) : Operation υ .hardware Unit :=
  .request (fun _ => .ok (.setSimDetection mode)) fun () =>
    .changed (fun _ => some mode) "SIMDetectionMode" (.text mode.name)

def setHardwareProperty (name : String) (value : PropertyValue) : Operation υ .hardware Unit :=
  match name, value with
  | "SIMDetectionMode", .text text =>
    match SimDetection.ofName text with
    | .ok mode => setSimDetection mode
    | .error e => .refused e
  | _, _ => .cannotSet name value

/-! ## Tracing -/

def reboot : Operation υ .trace Unit := .request (fun _ => .ok .reboot) .passing

def traceProperties : Operation υ .trace Properties where
  plan vendor driver := do
    let (enabled, portConfig, mask) ← (driver.ask (.queryTracing vendor)).both
      ((driver.ask .queryPortConfig).both (driver.ask (.queryTraceMask vendor)))
    return do
      let enabled ← Step.transaction enabled
      let portConfig ← Step.transaction portConfig
      let mask ← Step.transaction mask
      let settings : TraceSettings := { enabled, portConfig, mask }
      return .learned (fun _ => settings) settings.properties

def setTracing (on : Bool) : Operation υ .trace Unit :=
  .request (fun vendor => .ok (.setTracing vendor on)) fun () =>
    .changed (fun (s : TraceSettings) => { s with enabled := on }) "TraceStatus" (.bool on)

def setPortConfig (config : UInt32) : Operation υ .trace Unit :=
  .request (fun _ => .ok (.setPortConfig config)) fun () =>
    .changed (fun (s : TraceSettings) => { s with portConfig := config }) "PortConfig"
      (.uint config)

/-- Sets the mask. One that is too long is refused, and not cut. -/
def setTraceMask (mask : String) : Operation υ .trace Unit :=
  .request
    (fun vendor => do
      checkLength "trace mask" mask TraceSettings.maxMaskLength
      return .setTraceMask vendor mask)
    fun () => .changed (fun (s : TraceSettings) => { s with mask }) "TraceConfig" (.text mask)

def setTraceProperty (name : String) (value : PropertyValue) : Operation υ .trace Unit :=
  match name, value with
  | "TraceStatus", .bool on => setTracing on
  | "PortConfig", .uint config => setPortConfig config
  | "TraceConfig", .text mask => setTraceMask mask
  | _, _ => .cannotSet name value

end CellModem.Operation
