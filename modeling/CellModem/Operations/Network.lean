import CellModem.CommandSet
import CellModem.Host.Operation

/-!
# Operations on the network settings

Radio modes, packet profiles, reports on the serving cell, the ways in which networks and bands are
chosen, and the provider's firmware.
-/

namespace CellModem.Operation

variable {υ : Type}

/-! ## Radio settings -/

def queryRadioMode : Operation υ .radioSettings RadioMode :=
  .request (fun vendor => .ok (.queryRadioMode vendor)) fun mode =>
    .learned (fun _ => some mode) mode

def setRadioMode (mode : RadioMode) : Operation υ .radioSettings Unit :=
  .request (fun _ => .ok (.setRadioMode mode)) fun () =>
    .changed (fun _ => some mode) "TechnologyPreference" (.text mode.name)

/-! ## Profiles and error reports -/

def setProfile (cid pdpType apn : String) : Operation υ .dataNetwork Unit :=
  .request (fun _ => return .setProfile (← Profile.parse cid pdpType apn)) .passing

def deleteProfile (cid : String) : Operation υ .dataNetwork Unit :=
  .request (fun _ => return .deleteProfile (← Profile.parseCid cid)) .passing

def queryProfiles : Operation υ .dataNetwork (List Profile) :=
  .request (fun _ => .ok .queryProfiles) .passing

def queryReleaseCause : Operation υ .dataNetwork Int :=
  .request (fun _ => .ok .queryReleaseCause) .passing

def queryNetworkCause : Operation υ .dataNetwork Int :=
  .request (fun _ => .ok .queryNetworkCause) .passing

/-! ## The serving cell -/

def radioReport : Operation υ .dataNetwork RadioReport where
  plan _ driver := do
    let (technology, umts, lte) ← (driver.ask .queryTechnology).both
      ((driver.ask .queryUmtsReport).both (driver.ask .queryLteReport))
    return do
      let code ← Step.transaction technology
      match Technology.ofCode? code with
      | some .lte => return .passing (.lte (← Step.transaction lte))
      | some .umts => return .passing (.umts (← Step.transaction umts))
      | none => throw (.unsupportedTechnology code)

/-! ## Network selection -/

def networkProperties : Operation υ .dataNetwork Properties where
  plan _ driver := do
    let (enhanced, automatic, bands) ← (driver.ask .queryEnhanced).both
      ((driver.ask .queryAutomatic).both (driver.ask .queryBands))
    return do
      let enhanced ← Step.transaction enhanced
      let automatic ← Step.transaction automatic
      let bands ← Step.transaction bands
      let settings : NetworkSettings := { enhanced, automatic, bands }
      return .learned (fun _ => settings) settings.properties

def setEnhanced (on : Bool) : Operation υ .dataNetwork Unit :=
  .request (fun _ => .ok (.setEnhanced on)) fun () =>
    .changed (fun (s : NetworkSettings) => { s with enhanced := on }) "EnhancedNetworkSelection"
      (.bool on)

def setAutomatic (on : Bool) : Operation υ .dataNetwork Unit :=
  .request (fun _ => .ok (.setAutomatic on)) fun () =>
    .changed (fun (s : NetworkSettings) => { s with automatic := on }) "AutomaticBandSelection"
      (.bool on)

/-- Sets the LTE bands. The modem takes the bands of all technologies together, so those of UMTS are
read first and set again. -/
def setLteBands (lte : UInt32) : Operation υ .dataNetwork Unit where
  plan _ driver := do
    let query ← driver.ask .queryBands
    -- Without this request there is no use in the query.
    let _ ← driver.ask (.setBands .none)
    return do
      let current ← Step.transaction query
      let bands : BandMasks := { umts := current.umts, lte }
      Step.transaction (← Host.asking (driver.ask (.setBands bands)))
      return .changed (fun (s : NetworkSettings) => { s with bands }) "LTEBandSelection" (.uint lte)

def setNetworkProperty (name : String) (value : PropertyValue) : Operation υ .dataNetwork Unit :=
  match name, value with
  | "EnhancedNetworkSelection", .bool on => setEnhanced on
  | "AutomaticBandSelection", .bool on => setAutomatic on
  | "LTEBandSelection", .uint lte => setLteBands lte
  | _, _ => .cannotSet name value

/-! ## The provider's firmware -/

def verizonProperty : String := "VerizonMode"

def providerProperties : Operation υ .provider Properties :=
  .request (fun _ => .ok .queryVerizon) fun on =>
    .learned (fun _ => on) [(verizonProperty, .bool on)]

def setVerizon (on : Bool) : Operation υ .provider Unit :=
  .request (fun _ => .ok (.setVerizon on)) fun () =>
    .changed (fun _ => on) verizonProperty (.bool on)

def setProviderProperty (name : String) (value : PropertyValue) : Operation υ .provider Unit :=
  match value with
  | .bool on => if name = verizonProperty then setVerizon on else .cannotSet name value
  | _ => .cannotSet name value

end CellModem.Operation
