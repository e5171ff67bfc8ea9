import CellModem.Hardware.Gpio
import CellModem.Hardware.Power
import CellModem.Packet.Profile
import CellModem.Radio.Mode
import CellModem.Radio.NetworkSettings
import CellModem.Radio.Report
import CellModem.Radio.Survey
import CellModem.Reporting
import CellModem.Sim.Detection
import CellModem.Sim.LogicalChannel
import CellModem.Tracing
import CellModem.Transaction

/-!
# The command set

Every request a driver can offer, with the command that carries it. Few of them depend on the
flavour of the module.
-/

namespace CellModem

namespace Request

/-- A request of which only the acknowledgement matters. -/
def order (method command : String) : Request Unit := ⟨method, .plain command⟩

/-- A request for a number, the first field of the line with the lead. -/
def number (method command lead : String) : Request Int := ⟨method, .query command lead .integer⟩

/-- A request whose answer is read as a whole, from lines with one lead. -/
def report {α : Type} (method command lead : String) (decode : Response → Except DecodeError α) :
    Request α :=
  ⟨method, command, [lead], decode⟩

/-! ## Radio modes -/

def queryRadioMode (vendor : Vendor) : Request RadioMode :=
  report "query_rat_mode" "AT+WS46?" "+WS46:" (RadioMode.ofResponse vendor)

def setRadioMode (mode : RadioMode) : Request Unit :=
  order "set_rat_mode" s!"AT+WS46={mode.code}"

/-! ## Packet data -/

def setProfile (p : Profile) : Request Unit :=
  order "set_profile" ("AT+CGDCONT=" ++ p.argument)

def deleteProfile (cid : UInt32) : Request Unit :=
  order "delete_profile" s!"AT+CGDCONT={cid}"

def queryProfiles : Request (List Profile) :=
  report "query_profiles" "AT+CGDCONT?" "+CGDCONT:" Profile.ofResponse

/-- Why the last call was released. -/
def queryReleaseCause : Request Int := number "query_ceer" "AT#CEER" "#CEER:"

/-- Why the network refused the last request. -/
def queryNetworkCause : Request Int := number "query_ceernet" "AT#CEERNET" "#CEERNET:"

def queryTechnology : Request Int :=
  report "query_tech" "AT+COPS?" "+COPS:" decodeTechnology

def queryUmtsReport : Request UmtsReport :=
  report "query_rf_status_umts" "AT#RFSTS" "#RFSTS:" UmtsReport.ofResponse

def queryLteReport : Request LteReport :=
  report "query_rf_status_lte" "AT#RFSTS" "#RFSTS:" LteReport.ofResponse

def queryEnhanced : Request Bool :=
  report "query_ens" "AT#ENS?" "#ENS:" (decodeFlag "#ENS:" enhancedCodes)

def setEnhanced (on : Bool) : Request Unit := order "set_ens" s!"AT#ENS={on.toNat}"

def queryAutomatic : Request Bool :=
  report "query_autobnd" "AT#AUTOBND?" "#AUTOBND:" (decodeFlag "#AUTOBND:" automaticCodes)

def setAutomatic (on : Bool) : Request Unit :=
  order "set_autobnd" ("AT#AUTOBND=" ++ if on then "2" else "0")

def queryBands : Request BandMasks := report "query_bnd" "AT#BND?" "#BND:" BandMasks.ofResponse

def setBands (bands : BandMasks) : Request Unit :=
  order "set_bnd" s!"AT#BND=0,{bands.umts},{bands.lte}"

/-! ## The module itself -/

def queryPower : Request PowerState :=
  report "query_state" "AT+CFUN?" "+CFUN:" PowerState.ofResponse

def setPower (state : PowerState) : Request Unit := order "set_state" s!"AT+CFUN={state.code}"

def setGpio (setting : GpioSetting) : Request Unit :=
  order "set_gpio" ("AT#GPIO=" ++ setting.argument)

def queryGpios : Request (List GpioPin) :=
  report "query_gpios" "AT#GPIO?" "#GPIO:" GpioPin.ofResponse

def querySimDetection : Request SimDetection :=
  report "query_simdet" "AT#SIMDET?" "#SIMDET:" SimDetection.ofResponse

def setSimDetection (mode : SimDetection) : Request Unit :=
  order "set_simdet" s!"AT#SIMDET={mode.code}"

/-! ## Applications on the SIM -/

def openChannel (application : String) : Request Int :=
  report "open_logical_channel" ("AT+CCHO=" ++ application) "+CCHO:" decodeSession

def closeChannel (session : Int) : Request Unit :=
  order "close_logical_channel" s!"AT+CCHC={session}"

/-- Sends a command to an application; the modem wants its length told. -/
def exchange (session : Int) (length : Nat) (command : String) : Request ChannelResponse :=
  report "logical_channel_access" (s!"AT+CGLA={session},{length}," ++ command) "+CGLA:"
    ChannelResponse.ofResponse

/-! ## Tracing -/

def reboot : Request Unit := order "reboot" "AT#REBOOT"

def queryTracing : Vendor → Request Bool
  | .le910v2 => ⟨"query_status", TraceSettings.listingQuery, TraceSettings.listingLeads,
      TraceSettings.decodeListing⟩
  | _ => report "query_status" "AT+TRACE?" "+TRACE:" TraceSettings.decodeStatus

def setTracing (vendor : Vendor) (on : Bool) : Request Unit :=
  order "set_status" <|
    if vendor = .le910v2 then
      if on then TraceSettings.listingOn else TraceSettings.listingOff
    else s!"AT+TRACE={on.toNat}"

def queryPortConfig : Request UInt32 :=
  report "query_port_config" "AT#PORTCFG?" "#PORTCFG:" TraceSettings.decodePortConfig

def setPortConfig (config : UInt32) : Request Unit :=
  order "set_port_config" s!"AT#PORTCFG={config}"

def queryTraceMask : Vendor → Request String
  | .le910v2 => report "query_config" "AT#RTDE?" "#RTDE:" TraceSettings.decodePlainMask
  | _ => report "query_config" "AT+XTRACECONFIG?" "+XTRACECONFIG:" TraceSettings.decodeMask

def setTraceMask (vendor : Vendor) (mask : String) : Request Unit :=
  order "set_config" <|
    if vendor = .le910v2 then "AT#RTDE=" ++ mask else "AT+XTRACECONFIG=0,4," ++ mask

/-! ## Unsolicited reporting -/

def querySwitch (s : Switch) : Request Bool :=
  report ("query:" ++ s.property) ("AT" ++ s.commandName ++ "?") s.lead s.ofResponse

def setSwitch (s : Switch) (on : Bool) : Request Unit :=
  order ("set:" ++ s.property) ("AT" ++ s.commandName ++ "=" ++ s.argument on)

/-! ## The provider's firmware -/

/-- The codes for any other firmware and for that of Verizon. -/
def firmwareCodes : List (Int × Bool) := [(0, false), (1, true)]

def decodeFirmware (r : Response) : Except DecodeError Bool := do
  lookupCode (← r.decodeSingle "#FWSWITCH:" .integer) firmwareCodes

def queryVerizon : Request Bool :=
  report "query_verizon_mode" "AT#FWSWITCH?" "#FWSWITCH:" decodeFirmware

/-- The second argument keeps the choice over restarts. -/
def setVerizon (on : Bool) : Request Unit :=
  order "set_verizon_mode" s!"AT#FWSWITCH={on.toNat},1"

/-! ## Surveys -/

def setRegistration (r : Registration) : Request Unit :=
  order "set_registration" s!"AT+COPS={r.code}"

/-- Prepares the form in which the survey is written. -/
def prepareSurvey : Request Unit := order "configure" "AT#ATDELAY=50"

def scan (range : Option (UInt32 × UInt32)) : Request (List String) :=
  ⟨"scan", surveyCommand range, surveyLeads, decodeSurvey⟩

end Request

end CellModem
