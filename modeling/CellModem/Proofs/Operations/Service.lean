import CellModem.Proofs.Operations.Plan

/-!
# What a host can ask of the facilities

Every operation there is, with its arguments. Some set a property, some read all properties anew,
and the others do neither.
-/

namespace CellModem

/-- An operation of a facility, with the type of its answer. -/
inductive Service : Facility → Type → Type where
  | queryRadioMode : Service .radioSettings RadioMode
  | setRadioMode (mode : RadioMode) : Service .radioSettings Unit
  | setProfile (cid pdpType apn : String) : Service .dataNetwork Unit
  | deleteProfile (cid : String) : Service .dataNetwork Unit
  | queryProfiles : Service .dataNetwork (List Profile)
  | queryReleaseCause : Service .dataNetwork Int
  | queryNetworkCause : Service .dataNetwork Int
  | radioReport : Service .dataNetwork RadioReport
  | networkProperties : Service .dataNetwork Properties
  | setEnhanced (on : Bool) : Service .dataNetwork Unit
  | setAutomatic (on : Bool) : Service .dataNetwork Unit
  | setLteBands (lte : UInt32) : Service .dataNetwork Unit
  | setNetworkProperty (name : String) (value : PropertyValue) : Service .dataNetwork Unit
  | powerProperties : Service .power Properties
  | setPower (state : PowerState) : Service .power Unit
  | setPowerProperty (name : String) (value : PropertyValue) : Service .power Unit
  | setGpio (setting : GpioSetting) : Service .hardware Unit
  | queryGpios : Service .hardware (List GpioPin)
  | hardwareProperties : Service .hardware Properties
  | setSimDetection (mode : SimDetection) : Service .hardware Unit
  | setHardwareProperty (name : String) (value : PropertyValue) : Service .hardware Unit
  | openChannel (application : String) : Service .logicalChannels Int
  | closeChannel (session : Int) : Service .logicalChannels Unit
  | exchange (session : Int) (length : Nat) (command : String) :
    Service .logicalChannels ChannelResponse
  | reboot : Service .trace Unit
  | traceProperties : Service .trace Properties
  | setTracing (on : Bool) : Service .trace Unit
  | setPortConfig (config : UInt32) : Service .trace Unit
  | setTraceMask (mask : String) : Service .trace Unit
  | setTraceProperty (name : String) (value : PropertyValue) : Service .trace Unit
  | reportingProperties : Service .reporting Properties
  | setSwitch (s : Switch) (on : Bool) : Service .reporting Unit
  | setReportingProperty (name : String) (value : PropertyValue) : Service .reporting Unit
  | providerProperties : Service .provider Properties
  | setVerizon (on : Bool) : Service .provider Unit
  | setProviderProperty (name : String) (value : PropertyValue) : Service .provider Unit
  | survey (band : String) : Service .survey (List String)

namespace Service

variable {υ : Type} {f : Facility} {ρ : Type}

def operation : Service f ρ → Operation υ f ρ
  | .queryRadioMode => .queryRadioMode
  | .setRadioMode mode => .setRadioMode mode
  | .setProfile cid pdpType apn => .setProfile cid pdpType apn
  | .deleteProfile cid => .deleteProfile cid
  | .queryProfiles => .queryProfiles
  | .queryReleaseCause => .queryReleaseCause
  | .queryNetworkCause => .queryNetworkCause
  | .radioReport => .radioReport
  | .networkProperties => .networkProperties
  | .setEnhanced on => .setEnhanced on
  | .setAutomatic on => .setAutomatic on
  | .setLteBands lte => .setLteBands lte
  | .setNetworkProperty name value => .setNetworkProperty name value
  | .powerProperties => .powerProperties
  | .setPower state => .setPower state
  | .setPowerProperty name value => .setPowerProperty name value
  | .setGpio setting => .setGpio setting
  | .queryGpios => .queryGpios
  | .hardwareProperties => .hardwareProperties
  | .setSimDetection mode => .setSimDetection mode
  | .setHardwareProperty name value => .setHardwareProperty name value
  | .openChannel application => .openChannel application
  | .closeChannel session => .closeChannel session
  | .exchange session length command => .exchange session length command
  | .reboot => .reboot
  | .traceProperties => .traceProperties
  | .setTracing on => .setTracing on
  | .setPortConfig config => .setPortConfig config
  | .setTraceMask mask => .setTraceMask mask
  | .setTraceProperty name value => .setTraceProperty name value
  | .reportingProperties => .reportingProperties
  | .setSwitch s on => .setSwitch s on
  | .setReportingProperty name value => .setReportingProperty name value
  | .providerProperties => .providerProperties
  | .setVerizon on => .setVerizon on
  | .setProviderProperty name value => .setProviderProperty name value
  | .survey band => .survey band

/-- The property a setter is for, with the value asked for. -/
def sets : Service f ρ → Option (String × PropertyValue)
  | .setRadioMode mode => some ("TechnologyPreference", .text mode.name)
  | .setEnhanced on => some ("EnhancedNetworkSelection", .bool on)
  | .setAutomatic on => some ("AutomaticBandSelection", .bool on)
  | .setLteBands lte => some ("LTEBandSelection", .uint lte)
  | .setPower state => some ("PwMgmState", .text state.name)
  | .setSimDetection mode => some ("SIMDetectionMode", .text mode.name)
  | .setTracing on => some ("TraceStatus", .bool on)
  | .setPortConfig config => some ("PortConfig", .uint config)
  | .setTraceMask mask => some ("TraceConfig", .text mask)
  | .setSwitch s on => some (s.property, .bool on)
  | .setVerizon on => some (Operation.verizonProperty, .bool on)
  | .setNetworkProperty name value | .setPowerProperty name value
  | .setHardwareProperty name value | .setTraceProperty name value
  | .setReportingProperty name value | .setProviderProperty name value => some (name, value)
  | _ => none

/-- Whether the operation reads everything its facility remembers. -/
def gets : Service f ρ → Bool
  | .queryRadioMode | .networkProperties | .powerProperties | .hardwareProperties
  | .traceProperties | .reportingProperties | .providerProperties => true
  | _ => false

theorem overDriver (s : Service f ρ) : (s.operation : Operation υ f ρ).OverDriver := by
  cases s with
  | radioReport => exact Operation.over_radioReport
  | networkProperties => exact Operation.over_networkProperties
  | setLteBands lte => exact Operation.over_setLteBands lte
  | setNetworkProperty name value => exact Operation.over_setNetworkProperty name value
  | setPowerProperty name value => exact Operation.over_setPowerProperty name value
  | setHardwareProperty name value => exact Operation.over_setHardwareProperty name value
  | traceProperties => exact Operation.over_traceProperties
  | setTraceProperty name value => exact Operation.over_setTraceProperty name value
  | reportingProperties => exact Operation.over_reportingProperties
  | setReportingProperty name value => exact Operation.over_setReportingProperty name value
  | setProviderProperty name value => exact Operation.over_setProviderProperty name value
  | survey band => exact Operation.over_survey band
  | _ => exact Operation.over_request _ _

end Service

end CellModem
