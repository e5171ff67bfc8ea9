import CellModem.Hardware.Power
import CellModem.Radio.Mode
import CellModem.Radio.NetworkSettings
import CellModem.Reporting
import CellModem.Sim.Detection
import CellModem.Tracing

/-!
# Facilities

The host uses the modem through facilities, one for each kind of capability. A facility remembers
what it last learned of the settings it is in charge of.
-/

namespace CellModem

inductive Facility where
  | radioSettings
  | dataNetwork
  | power
  | hardware
  /-- Channels to the applications on the SIM. -/
  | logicalChannels
  | trace
  | reporting
  | provider
  | survey
  deriving DecidableEq, Repr

namespace Facility

def all : List Facility :=
  [.radioSettings, .dataNetwork, .power, .hardware, .logicalChannels, .trace, .reporting,
    .provider, .survey]

theorem mem_all (f : Facility) : f ∈ all := by
  cases f <;> decide

def name : Facility → String
  | .radioSettings => "radio-settings"
  | .dataNetwork => "data-network"
  | .power => "power-management"
  | .hardware => "hw-management"
  | .logicalChannels => "me-control"
  | .trace => "trace"
  | .reporting => "urc"
  | .provider => "provider"
  | .survey => "survey"

def ofName? (text : String) : Option Facility := all.find? (·.name = text)

theorem ofName?_name (f : Facility) : ofName? f.name = some f := by
  cases f <;> rfl

/-- What a facility remembers. For the provider it is whether the firmware of Verizon is in use. -/
def Cache : Facility → Type
  | .radioSettings => Option RadioMode
  | .dataNetwork => NetworkSettings
  | .power => Option PowerState
  | .hardware => Option SimDetection
  | .logicalChannels => Unit
  | .trace => TraceSettings
  | .reporting => SwitchReadings
  | .provider => Bool
  | .survey => Unit

def Cache.initial : (f : Facility) → Cache f
  | .radioSettings => (none : Option RadioMode)
  | .dataNetwork => NetworkSettings.initial
  | .power => (none : Option PowerState)
  | .hardware => (none : Option SimDetection)
  | .logicalChannels => ()
  | .trace => TraceSettings.initial
  | .reporting => SwitchReadings.none
  | .provider => false
  | .survey => ()

end Facility

/-! ## One of each -/

structure PerFacility (F : Facility → Type) where
  radioSettings : F .radioSettings
  dataNetwork : F .dataNetwork
  power : F .power
  hardware : F .hardware
  logicalChannels : F .logicalChannels
  trace : F .trace
  reporting : F .reporting
  provider : F .provider
  survey : F .survey

namespace PerFacility

variable {F G : Facility → Type}

def ofFn (value : (f : Facility) → F f) : PerFacility F :=
  ⟨value _, value _, value _, value _, value _, value _, value _, value _, value _⟩

def get (p : PerFacility F) : (f : Facility) → F f
  | .radioSettings => p.radioSettings
  | .dataNetwork => p.dataNetwork
  | .power => p.power
  | .hardware => p.hardware
  | .logicalChannels => p.logicalChannels
  | .trace => p.trace
  | .reporting => p.reporting
  | .provider => p.provider
  | .survey => p.survey

def set (p : PerFacility F) : (f : Facility) → F f → PerFacility F
  | .radioSettings, value => { p with radioSettings := value }
  | .dataNetwork, value => { p with dataNetwork := value }
  | .power, value => { p with power := value }
  | .hardware, value => { p with hardware := value }
  | .logicalChannels, value => { p with logicalChannels := value }
  | .trace, value => { p with trace := value }
  | .reporting, value => { p with reporting := value }
  | .provider, value => { p with provider := value }
  | .survey, value => { p with survey := value }

@[simp]
theorem get_ofFn (value : (f : Facility) → F f) (f : Facility) : (ofFn value).get f = value f := by
  cases f <;> rfl

@[simp]
theorem get_set_self (p : PerFacility F) (f : Facility) (value : F f) :
    (p.set f value).get f = value := by
  cases f <;> rfl

theorem get_set_of_ne (p : PerFacility F) {f g : Facility} (value : F f) (h : g ≠ f) :
    (p.set f value).get g = p.get g := by
  cases f <;> cases g <;> simp_all [get, set]

end PerFacility

end CellModem
