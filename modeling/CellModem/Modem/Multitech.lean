import CellModem.Host

/-!
# Boards of Multitech

Such a board has to be brought into the right USB configuration and to the firmware of Verizon. It
is known by its understanding a command that other boards refuse. The change of the firmware
restarts the module, and so it is restarted by command only when the USB configuration alone was
changed.
-/

namespace CellModem.Modem

variable {υ : Type}

/-- Whether the modem is on such a board: success if it is. -/
def multitechProbe : Transaction Unit := ⟨"AT#FWSWITCH=?", ["#FWSWITCH:"], fun _ => .ok ()⟩

def multitechFixUp : Step (Host υ) Unit := do
  let usb ← Step.queryNumber "AT#USBCFG?" "#USBCFG:"
  unless usb = 2 do
    Step.command "AT#USBCFG=2"
  let firmware ← Step.queryNumber "AT#FWSWITCH?" "#FWSWITCH:"
  if firmware ≠ 1 then Step.command "AT#FWSWITCH=1,1"
  else if usb ≠ 2 then Step.command "AT#REBOOT"

/-- Finds out whether a modem is on such a board, and if so brings the board into order as far as
that goes. -/
def settleMultitech (i : Nat) : Act (Host υ) Unit := do
  match ← (Step.transaction multitechProbe).run with
  | .ok () =>
    let _ ← multitechFixUp.run
    modify (·.modifyModem i fun m => { m with multitech := some true })
  | .error _ => modify (·.modifyModem i fun m => { m with multitech := some false })

end CellModem.Modem
