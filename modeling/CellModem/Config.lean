import CellModem.Modem.Model
import CellModem.Text.Path
import CellModem.Text.Utf8
import CellModem.Toml.Document

/-!
# Configuration

The configuration is a TOML document. Everything in it is optional, and what it does not know is
ignored. A section may also be written as an array, with its settings in order.
-/

namespace CellModem

/-- The device nodes of the two channels of the multiplexer. -/
structure Ports where
  modem : String
  aux : String
  deriving DecidableEq, Repr

def Ports.inDir (dir modem aux : String) : Ports :=
  ⟨Text.joinPath dir modem, Text.joinPath dir aux⟩

/-- Where the device is, and how long to wait for it; delays are in milliseconds. -/
structure PresenceConfig where
  deviceDir : String
  muxDevice : String
  auxDevice : String
  detectDelay : Nat
  openDelay : Nat
  closeDelay : Nat
  deriving DecidableEq, Repr

namespace PresenceConfig

def standard : PresenceConfig := ⟨"/dev", "ttyMUX1", "ttyMUX2", 3000, 1000, 3000⟩

def devicePath (c : PresenceConfig) : String := Text.joinPath c.deviceDir c.muxDevice

def ports (c : PresenceConfig) : Ports := .inDir c.deviceDir c.muxDevice c.auxDevice

end PresenceConfig

structure Config where
  version : Nat
  presence : PresenceConfig
  model : Model
  deriving DecidableEq, Repr

inductive ConfigError where
  /-- The file is missing or is no text. -/
  | unreadable
  /-- The text is no TOML document, or a setting has the wrong type. -/
  | malformed
  | version (found : Nat)
  | model (name : String)
  | empty (setting : String)
  deriving DecidableEq, Repr

def ConfigError.message : ConfigError → String
  | .unreadable => "cannot read the configuration"
  | .malformed => "invalid config TOML"
  | .version found => s!"unsupported config version {found}"
  | .model name => "unknown modem model " ++ Text.quoted name
  | .empty setting => setting ++ " must not be empty"

/-! ## Reading settings -/

/-- The settings of a section in the order in which an array lists them, as far as they are
given. -/
abbrev Settings := List (Option Toml)

namespace Toml

def overflows (d : Number.Decimal) : Bool :=
  let digits := (Nat.toDigits 10 d.digits).length
  let limit := Nat.pow 2 1024 - Nat.pow 2 970
  if d.digits = 0 then false
  else if 310 < d.exponent then true
  else if 0 ≤ d.exponent then limit ≤ d.digits * Nat.pow 10 d.exponent.toNat
  else if (digits : Int) ≤ -d.exponent then false
  else limit * Nat.pow 10 (-d.exponent).toNat ≤ d.digits

mutual

/-- Whether every number in a value is one that can be held: a whole number in 128 bits, with sign
or without, and any other as one of double precision. -/
def holdable : Toml → Bool
  | .integer (some n) => -(Nat.pow 2 127 : Int) ≤ n && n < (Nat.pow 2 128 : Int)
  | .integer none => false
  | .float (some d) => !overflows d
  | .array items | .tables items => allHoldable items
  | .table _ members => membersHoldable members
  | _ => true

def allHoldable : List Toml → Bool
  | [] => true
  | item :: rest => holdable item && allHoldable rest

def membersHoldable : List (String × Toml) → Bool
  | [] => true
  | (_, value) :: rest => holdable value && membersHoldable rest

end

/-- The settings with the given keys, out of a table, an array or a moment. A moment is taken for a
table without any of them. -/
def settings (keys : List String) : Toml → Except ConfigError Settings
  | .table _ members =>
    if members.all fun (key, value) => keys.contains key || holdable value then
      .ok (keys.map fun key => members.lookup key)
    else .error .malformed
  | .array items | .tables items => .ok ((items.take keys.length).map some)
  | .moment => .ok []
  | _ => .error .malformed

def natural (max : Nat) : Toml → Except ConfigError Nat
  | .integer (some n) => if 0 ≤ n ∧ n ≤ max then .ok n.toNat else .error .malformed
  | _ => .error .malformed

def string : Toml → Except ConfigError String
  | .text s => .ok s
  | _ => .error .malformed

end Toml

def Settings.read {α : Type} (s : Settings) (place : Nat) (read : Toml → Except ConfigError α) :
    Except ConfigError (Option α) :=
  match s[place]? with
  | some (some value) => some <$> read value
  | _ => .ok none

def Settings.section? (s : Settings) (place : Nat) (keys : List String) :
    Except ConfigError Settings := do
  return (← s.read place (Toml.settings keys)).getD []

/-! ## From settings to a configuration -/

namespace Config

def currentVersion : Nat := 1

def standard : Config := ⟨currentVersion, .standard, .telitSerial⟩

/-- A text without the blanks around it, which must not be all of it. -/
def nonBlank (setting : String) (given : Option String) (otherwise : String) :
    Except ConfigError String :=
  match given with
  | none => .ok otherwise
  | some text =>
    match Text.trim text.toList with
    | [] => .error (.empty setting)
    | trimmed => .ok (String.ofList trimmed)

def modelOf (name : String) : Except ConfigError Model :=
  match Model.ofName (String.ofList (Text.trim name.toList)) with
  | .ok model => .ok model
  | .error _ => .error (.model name)

/-- The settings as they are written, types checked and nothing else. -/
structure Written where
  version : Option Nat
  deviceDir : Option String
  muxDevice : Option String
  auxDevice : Option String
  detectDelay : Option Nat
  openDelay : Option Nat
  closeDelay : Option Nat
  model : Option String

def Written.ofDocument (members : Toml.Members) : Except ConfigError Written := do
  let root ← Toml.settings ["version", "presence", "modem"] (.table .header members)
  let version ← root.read 0 (Toml.natural 0xFFFFFFFF)
  let presence ← root.section? 1
    ["device_dir", "mux_device", "aux_device", "detect_delay_ms", "open_delay_ms",
      "close_delay_ms"]
  let delay := Toml.natural 0xFFFFFFFFFFFFFFFF
  let deviceDir ← presence.read 0 Toml.string
  let muxDevice ← presence.read 1 Toml.string
  let auxDevice ← presence.read 2 Toml.string
  let detectDelay ← presence.read 3 delay
  let openDelay ← presence.read 4 delay
  let closeDelay ← presence.read 5 delay
  let modem ← root.section? 2 ["model"]
  let model ← modem.read 0 Toml.string
  return { version, deviceDir, muxDevice, auxDevice, detectDelay, openDelay, closeDelay, model }

/-- Fills in what is not given and checks the rest. Version 0 counts as not given. -/
def ofWritten (w : Written) : Except ConfigError Config := do
  let version := w.version.getD 0
  if version ≠ 0 ∧ version ≠ currentVersion then throw (.version version)
  let muxDevice ← nonBlank "presence.mux_device" w.muxDevice PresenceConfig.standard.muxDevice
  let auxDevice ← nonBlank "presence.aux_device" w.auxDevice PresenceConfig.standard.auxDevice
  let model ← match w.model with
    | none => pure standard.model
    | some name => modelOf name
  let presence : PresenceConfig := {
    deviceDir := w.deviceDir.getD PresenceConfig.standard.deviceDir
    muxDevice
    auxDevice
    detectDelay := w.detectDelay.getD PresenceConfig.standard.detectDelay
    openDelay := w.openDelay.getD PresenceConfig.standard.openDelay
    closeDelay := w.closeDelay.getD PresenceConfig.standard.closeDelay }
  return { version := currentVersion, presence, model }

/-- The configuration in a text; a blank one configures nothing. -/
def ofText (text : String) : Except ConfigError Config :=
  if Text.trim text.toList = [] then .ok standard
  else match Toml.document? text.toList with
    | none => .error .malformed
    | some members => do ofWritten (← Written.ofDocument members)

def ofFile (bytes : Option (List UInt8)) : Except ConfigError Config :=
  match bytes.bind Text.decode? with
  | none => .error .unreadable
  | some text => ofText (String.ofList text)

end Config

end CellModem
