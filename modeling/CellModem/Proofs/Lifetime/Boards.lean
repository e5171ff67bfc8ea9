import Mathlib.Data.List.Nodup
import CellModem.Proofs.Conduct.Strand
import CellModem.Proofs.Lifetime.SimView

/-!
# Boards brought into order

A board that is found to be one of Multitech is brought into the right USB configuration and to the
right firmware. Either may restart it. What is sent depends on what the board has told and on what
has become of the commands before, so every way through is listed, and what is decided is read off
the list.
-/

namespace CellModem

namespace Modem

/-! ## The ways through -/

/-- What comes of asking for the USB configuration. -/
def usbConfiguration : Option Response → Except Error Int :=
  answerRead (·.decodeSingle "#USBCFG:" .integer)

/-- What comes of asking for the image of the firmware. -/
def firmwareImage : Option Response → Except Error Int :=
  answerRead (·.decodeSingle "#FWSWITCH:" .integer)

/-- The commands that settle the firmware, with what came of them. The USB configuration may have
been changed before. -/
inductive FirmwareSettled (changed : Prop) : List Exchange → Prop where
  | unread {a : Option Response} {e : Error} (failed : firmwareImage a = .error e) :
    FirmwareSettled changed [("AT#FWSWITCH?", a)]
  | switched {a b : Option Response} {image : Int} (read : firmwareImage a = .ok image)
    (other : image ≠ 1) : FirmwareSettled changed [("AT#FWSWITCH?", a), ("AT#FWSWITCH=1,1", b)]
  | restarted {a b : Option Response} (read : firmwareImage a = .ok 1) (new : changed) :
    FirmwareSettled changed [("AT#FWSWITCH?", a), ("AT#REBOOT", b)]
  | right {a : Option Response} (read : firmwareImage a = .ok 1) (old : ¬ changed) :
    FirmwareSettled changed [("AT#FWSWITCH?", a)]

/-- The commands that bring a board into order, with what came of them. -/
inductive FixedUp : List Exchange → Prop where
  | unread {a : Option Response} {e : Error} (failed : usbConfiguration a = .error e) :
    FixedUp [("AT#USBCFG?", a)]
  | right {a : Option Response} {way : List Exchange} (read : usbConfiguration a = .ok 2)
    (rest : FirmwareSettled False way) : FixedUp (("AT#USBCFG?", a) :: way)
  | refused {a b : Option Response} {usb : Int} {e : Error} (read : usbConfiguration a = .ok usb)
    (other : usb ≠ 2) (refused : acknowledgement b = .error e) :
    FixedUp [("AT#USBCFG?", a), ("AT#USBCFG=2", b)]
  | changed {a b : Option Response} {usb : Int} {way : List Exchange}
    (read : usbConfiguration a = .ok usb) (other : usb ≠ 2) (done : acknowledgement b = .ok ())
    (rest : FirmwareSettled True way) :
    FixedUp (("AT#USBCFG?", a) :: ("AT#USBCFG=2", b) :: way)

/-- All commands that are sent to a board, with what came of them, and whether Multitech made it. -/
inductive BoardSettled : List Exchange → Bool → Prop where
  | foreign {a : Option Response} {e : Error} (refused : acknowledgement a = .error e) :
    BoardSettled [("AT#FWSWITCH=?", a)] false
  | known {a : Option Response} {way : List Exchange} (told : acknowledgement a = .ok ())
    (rest : FixedUp way) : BoardSettled (("AT#FWSWITCH=?", a) :: way) true

/-! ## What is decided -/

/-- What came of a command. What it asks for has to be told as well. -/
def answered (x : Exchange) : Except Error Unit :=
  if x.1 = "AT#USBCFG?" then (usbConfiguration x.2).map fun _ => ()
  else if x.1 = "AT#FWSWITCH?" then (firmwareImage x.2).map fun _ => ()
  else acknowledgement x.2

/-- The commands that restart a board. -/
def restarts : List String := ["AT#FWSWITCH=1,1", "AT#REBOOT"]

/-- The commands are sent in this order, none of them twice, and one that restarts the board at
most. -/
def InOrder (commands : List String) : Prop := ∃ last ∈ restarts,
  commands.Sublist ["AT#FWSWITCH=?", "AT#USBCFG?", "AT#USBCFG=2", "AT#FWSWITCH?", last]

/-- How it depends on the answers what is sent. -/
structure Decided (sent : List String) (past : List Exchange) : Prop where
  usb : "AT#USBCFG=2" ∈ sent ↔
    ∃ a usb, ("AT#USBCFG?", a) ∈ past ∧ usbConfiguration a = .ok usb ∧ usb ≠ 2
  firmware : "AT#FWSWITCH=1,1" ∈ sent ↔
    ∃ a image, ("AT#FWSWITCH?", a) ∈ past ∧ firmwareImage a = .ok image ∧ image ≠ 1
  restart : "AT#REBOOT" ∈ sent ↔
    (∃ a, ("AT#FWSWITCH?", a) ∈ past ∧ firmwareImage a = .ok 1) ∧
      ∃ b, ("AT#USBCFG=2", b) ∈ past ∧ acknowledgement b = .ok ()
  /-- The board is restarted only when all before has succeeded. -/
  succeeded : ∀ last ∈ restarts, last ∈ sent → ∀ x ∈ past, x.1 ≠ last → answered x = .ok ()

/-- What a way shows: all but its last command has succeeded as well. -/
structure Shows (way : List Exchange) : Prop extends Decided (way.map Prod.fst) way where
  inOrder : InOrder (way.map Prod.fst)
  front : ∀ x ∈ way.dropLast, answered x = .ok ()

/-- A way names all of its commands, so what is decided can be read off it. -/
theorem BoardSettled.shows {way : List Exchange} {found : Bool} (h : BoardSettled way found) :
    Shows way := by
  cases h with
  | foreign refused => refine ⟨⟨?_, ?_, ?_, ?_⟩, ?_, ?_⟩ <;> simp [InOrder, restarts]
  | known told rest =>
    cases rest with
    | unread failed =>
      refine ⟨⟨?_, ?_, ?_, ?_⟩, ?_, ?_⟩ <;> simp [InOrder, restarts, answered, told, failed]
    | right read rest =>
      cases rest with
      | unread failed =>
        refine ⟨⟨?_, ?_, ?_, ?_⟩, ?_, ?_⟩ <;>
          simp [InOrder, restarts, answered, Except.map, told, read, failed]
      | switched image other =>
        refine ⟨⟨?_, ?_, ?_, ?_⟩, ?_, ?_⟩ <;>
          simp [InOrder, restarts, answered, Except.map, told, read, image, other]
      | restarted _ new => exact absurd new id
      | right image _ =>
        refine ⟨⟨?_, ?_, ?_, ?_⟩, ?_, ?_⟩ <;>
          simp [InOrder, restarts, answered, Except.map, told, read, image]
    | refused read other refused =>
      refine ⟨⟨?_, ?_, ?_, ?_⟩, ?_, ?_⟩ <;>
        simp [InOrder, restarts, answered, Except.map, told, read, other, refused]
    | changed read other done rest =>
      cases rest with
      | unread failed =>
        refine ⟨⟨?_, ?_, ?_, ?_⟩, ?_, ?_⟩ <;>
          simp [InOrder, restarts, answered, Except.map, told, read, other, done, failed]
      | switched image wrong =>
        refine ⟨⟨?_, ?_, ?_, ?_⟩, ?_, ?_⟩ <;>
          simp [InOrder, restarts, answered, Except.map, told, read, other, done, image, wrong]
      | restarted image _ =>
        refine ⟨⟨?_, ?_, ?_, ?_⟩, ?_, ?_⟩ <;>
          simp [InOrder, restarts, answered, Except.map, told, read, other, done, image]
      | right _ old => exact absurd trivial old

/-! ### The order -/

theorem InOrder.beginning {commands sent : List String} (h : InOrder commands)
    (begins : sent <+: commands) : InOrder sent := by
  obtain ⟨last, hlast, horder⟩ := h
  exact ⟨last, hlast, begins.sublist.trans horder⟩

theorem InOrder.nodup {sent : List String} (h : InOrder sent) : sent.Nodup := by
  obtain ⟨last, hlast, horder⟩ := h
  have hdistinct : ∀ last ∈ restarts,
      ["AT#FWSWITCH=?", "AT#USBCFG?", "AT#USBCFG=2", "AT#FWSWITCH?", last].Nodup := by decide
  exact horder.nodup (hdistinct last hlast)

/-- A command that restarts the board is the last one. -/
theorem InOrder.getLast? {sent : List String} (h : InOrder sent) {command : String}
    (restarting : command ∈ restarts) (mem : command ∈ sent) : sent.getLast? = some command := by
  obtain ⟨last, hlast, horder⟩ := h
  have hfront : ∀ command ∈ restarts,
      command ∉ ["AT#FWSWITCH=?", "AT#USBCFG?", "AT#USBCFG=2", "AT#FWSWITCH?"] := by decide
  obtain ⟨front, back, rfl, hsub, hback⟩ := List.sublist_append_iff.mp
    (show sent.Sublist (["AT#FWSWITCH=?", "AT#USBCFG?", "AT#USBCFG=2", "AT#FWSWITCH?"] ++ [last])
      from horder)
  have hmem : command ∈ back := (List.mem_append.mp mem).resolve_left fun hmem =>
    hfront command restarting (hsub.subset hmem)
  obtain rfl | rfl := List.sublist_singleton.mp hback
  · cases hmem
  · obtain rfl := List.mem_singleton.mp hmem
    exact List.getLast?_concat

/-! ### The probe -/

namespace BoardSettled

variable {way : List Exchange} {found : Bool} {a : Option Response}

theorem probed (h : BoardSettled way found) : ∃ a rest, way = ("AT#FWSWITCH=?", a) :: rest ∧
    (found = true ↔ acknowledgement a = .ok ()) ∧
    ∀ e, acknowledgement a = .error e → rest = [] := by
  cases h with
  | foreign refused => exact ⟨_, _, rfl, by simp [refused], fun _ _ => rfl⟩
  | known told rest => exact ⟨_, _, rfl, by simp [told], fun e he => by simp [told] at he⟩

/-- The board is probed but once. -/
theorem probed_at (h : BoardSettled way found) (mem : ("AT#FWSWITCH=?", a) ∈ way) : ∃ rest,
    way = ("AT#FWSWITCH=?", a) :: rest ∧ (found = true ↔ acknowledgement a = .ok ()) ∧
      ∀ e, acknowledgement a = .error e → rest = [] := by
  obtain ⟨a', rest, rfl, hrest⟩ := h.probed
  obtain rfl : a = a' := congrArg Prod.snd <|
    List.inj_on_of_nodup_map h.shows.inOrder.nodup mem List.mem_cons_self rfl
  exact ⟨rest, rfl, hrest⟩

theorem found_iff (h : BoardSettled way found) :
    found = true ↔ ∃ a, ("AT#FWSWITCH=?", a) ∈ way ∧ acknowledgement a = .ok () := by
  constructor
  · intro hfound
    obtain ⟨a, rest, rfl, hiff, -⟩ := h.probed
    exact ⟨a, List.mem_cons_self, hiff.mp hfound⟩
  · rintro ⟨a, hmem, ha⟩
    obtain ⟨rest, -, hiff, -⟩ := h.probed_at hmem
    exact hiff.mpr ha

end BoardSettled

/-! ## What the code does -/

section

variable {υ : Type}

/-- What is left to do once the USB configuration is right. The board is restarted by `last`, if
that is still to be done. -/
theorem does_settleFirmware (changed : Prop) {last : Step (Host υ) Unit}
    (hlast : last.run.Does fun _ did => (changed ∧ ∃ b, did = [.heard ("AT#REBOOT", b)]) ∨
      ¬ changed ∧ did = []) : (do
    let firmware ← Step.queryNumber "AT#FWSWITCH?" "#FWSWITCH:"
    if firmware ≠ 1 then Step.command "AT#FWSWITCH=1,1"
    else last : Step (Host υ) Unit).run.Does fun _ did =>
      ∃ way, FirmwareSettled changed way ∧ did = way.map .heard := by
  refine Step.does_bind (Step.does_queryNumber _ _) ?_ ?_
  · rintro e _ ⟨a, rfl, ha⟩
    exact ⟨_, .unread ha, rfl⟩
  rintro image _ ⟨a, rfl, ha⟩
  split
  · next hother =>
    refine (Step.does_command _).imp ?_
    rintro _ _ ⟨b, rfl, -⟩
    exact ⟨_, .switched ha hother, rfl⟩
  · next hright =>
    obtain rfl := not_not.mp hright
    refine hlast.imp ?_
    rintro _ _ (⟨hchanged, b, rfl⟩ | ⟨hsame, rfl⟩)
    · exact ⟨_, .restarted ha hchanged, rfl⟩
    · exact ⟨_, .right ha hsame, rfl⟩

theorem does_multitechFixUp : (multitechFixUp : Step (Host υ) Unit).run.Does fun _ did =>
    ∃ way, FixedUp way ∧ did = way.map .heard := by
  refine Step.does_bind (Step.does_queryNumber _ _) ?_ ?_
  · rintro e _ ⟨a, rfl, ha⟩
    exact ⟨_, .unread ha, rfl⟩
  rintro usb _ ⟨a, rfl, ha⟩
  dsimp only
  by_cases husb : usb = 2
  · subst husb
    rw [if_pos rfl, if_neg (not_not_intro rfl)]
    refine (does_settleFirmware False (Act.does_pure (.inr ⟨id, rfl⟩))).imp ?_
    rintro _ _ ⟨way, hway, rfl⟩
    exact ⟨_, .right ha hway, rfl⟩
  rw [if_neg husb, if_pos husb]
  refine Step.does_bind (Step.does_command _) ?_ ?_
  · rintro e _ ⟨b, rfl, hb⟩
    exact ⟨_, .refused ha husb hb, rfl⟩
  rintro _ _ ⟨b, rfl, hb⟩
  have hrestart : (Step.command "AT#REBOOT" : Step (Host υ) Unit).run.Does fun _ did =>
      (True ∧ ∃ b, did = [.heard ("AT#REBOOT", b)]) ∨ ¬ True ∧ did = [] :=
    (Step.does_command _).imp fun _ _ ⟨b, hdid, _⟩ => .inl ⟨trivial, b, hdid⟩
  refine (does_settleFirmware True hrestart).imp ?_
  rintro _ _ ⟨way, hway, rfl⟩
  exact ⟨_, .changed ha husb hb hway, rfl⟩

/-- What has been found out is kept. -/
def noteBoard (i : Nat) (found : Bool) (h : Host υ) : Host υ :=
  h.modifyModem i fun m => { m with multitech := some found }

/-- A board has been settled, and what it is has been kept. -/
def SettledFor (i : Nat) (did : List (Doing (Host υ))) : Prop :=
  ∃ way found, BoardSettled way found ∧ did = way.map .heard ++ [.changed (noteBoard i found)]

theorem does_settleMultitech (i : Nat) :
    (settleMultitech i : Act (Host υ) Unit).Does fun _ => SettledFor i := by
  refine (Step.does_transaction multitechProbe).bind ?_
  rintro result _ ⟨a, rfl, ha⟩
  have hacknowledged : acknowledgement a = result := by
    rw [← ha]
    cases a <;> rfl
  cases result with
  | error e =>
    refine (Act.does_modify (noteBoard i false)).imp ?_
    rintro _ _ rfl
    exact ⟨_, _, .foreign hacknowledged, rfl⟩
  | ok _ =>
    refine does_multitechFixUp.bind ?_
    rintro _ _ ⟨way, hway, rfl⟩
    refine (Act.does_modify (noteBoard i true)).imp ?_
    rintro _ _ rfl
    exact ⟨_, _, .known hacknowledged hway, rfl⟩

end

/-! ## How far a board has been settled -/

section

variable {υ : Type} {others : Host υ → Host υ → Prop} {i : Nat} {h : Host υ}
  {w : Strand (Host υ)} {way : List Exchange} {found : Bool}

theorem exchanges_noted (i : Nat) (way : List Exchange) (found : Bool) :
    exchanges (way.map .heard ++ [.changed (noteBoard (υ := υ) i found)]) = way := by
  rw [exchanges_append, exchanges_heard]
  exact List.append_nil _

/-- All of the way has been heard but for a failure at its end. -/
def Nearly (past way : List Exchange) : Prop :=
  way = past ∨ ∃ command, way = past ++ [(command, some (.failure "ERROR"))]

/-- At rest all has been sent that is sent at all, if the command that is still to be answered
fails. -/
theorem exists_way_of_rests (h : w.Follows (SettledFor i)) (rests : w.place.Rests) :
    ∃ way found, BoardSettled way found ∧ w.sent = way.map Prod.fst ∧ Nearly w.past way := by
  rcases h.rests rests with ⟨hended, way, found, hsettled, hdid⟩ | ⟨command, hsent, hmore⟩
  · have hpast : w.past = way := by rw [Strand.past, hdid, exchanges_noted]
    exact ⟨way, found, hsettled, hpast ▸ hended.sent, .inl hpast.symm⟩
  obtain ⟨more, way, found, hsettled, hdid⟩ := hmore (.failure "ERROR")
  have hway : w.past ++ [(command, some (.failure "ERROR"))] ++ exchanges more = way := by
    rw [← exchanges_noted i way found, ← hdid]
    simp [Strand.past, exchanges, Doing.exchange?]
  -- What has failed is the last of its way.
  have hlast : exchanges more = [] := by
    by_contra hgoes
    have hmem : (command, some (Response.failure "ERROR")) ∈ way.dropLast := by
      rw [← hway, List.dropLast_append_of_ne_nil hgoes]
      simp
    have hfailed := hsettled.shows.front _ hmem
    unfold answered usbConfiguration firmwareImage at hfailed
    split at hfailed
    · cases hfailed
    split at hfailed
    · cases hfailed
    · cases hfailed
  rw [hlast, List.append_nil] at hway
  exact ⟨way, found, hsettled, by rw [hsent, ← hway]; simp, .inr ⟨command, hway.symm⟩⟩

theorem Nearly.mem_iff {past : List Exchange} (h : Nearly past way) {command : String}
    {a : Option Response} (fine : a ≠ some (.failure "ERROR")) :
    (command, a) ∈ way ↔ (command, a) ∈ past := by
  rcases h with rfl | ⟨pending, rfl⟩
  · exact Iff.rfl
  · rw [List.mem_append, List.mem_singleton, Prod.mk.injEq]
    exact or_iff_left fun hlast => fine hlast.2

/-- What is decided is decided by what has been heard. -/
theorem Nearly.decided {sent : List String} {past : List Exchange} (h : Nearly past way)
    (decided : Decided sent way) : Decided sent past where
  usb := decided.usb.trans <| exists_congr fun a => exists_congr fun usb =>
    and_congr_left fun hread => h.mem_iff (by rintro rfl; cases hread.1)
  firmware := decided.firmware.trans <| exists_congr fun a => exists_congr fun image =>
    and_congr_left fun hread => h.mem_iff (by rintro rfl; cases hread.1)
  restart := decided.restart.trans <| and_congr
    (exists_congr fun a => and_congr_left fun hread => h.mem_iff (by rintro rfl; cases hread))
    (exists_congr fun b => and_congr_left fun hdone => h.mem_iff (by rintro rfl; cases hdone))
  succeeded last hlast hmem x hx := decided.succeeded last hlast hmem x <| by
    rcases h with rfl | ⟨pending, rfl⟩
    · exact hx
    · exact List.mem_append_left _ hx

end

end Modem

/-! ## What the host knows of a board -/

namespace Host

variable {υ : Type} {i : Nat} {h : Host υ}

/-- Whether the modem is on a board of Multitech, as far as that is known, if there is the modem. -/
def multitech? (i : Nat) (h : Host υ) : Option (Option Bool) := h.modems[i]?.map Modem.multitech

theorem multitech?_modifyModem {change : Modem → Modem}
    (same : ∀ m, (change m).multitech = m.multitech) :
    (h.modifyModem i change).multitech? i = h.multitech? i := by
  unfold multitech? modifyModem
  rw [List.getElem?_modify_eq]
  cases h.modems[i]? with
  | none => rfl
  | some m => exact congrArg some (same m)

theorem multitech?_noteBoard {known : Option Bool} (present : h.multitech? i = some known)
    (found : Bool) : (Modem.noteBoard i found h).multitech? i = some (some found) := by
  obtain ⟨m, hm, -⟩ := Option.map_eq_some_iff.mp present
  unfold multitech? Modem.noteBoard modifyModem
  rw [List.getElem?_modify_eq, hm]
  rfl

theorem modems_bindInstance (f : Facility) (n : Nat) (d : Descriptor Driver) :
    (h.bindInstance f n d).modems = h.modems := by
  unfold bindInstance retire
  split
  · rfl
  · dsimp only
    split <;> rfl

end Host

/-! ## Facilities that are created at once -/

namespace Registry

variable {σ ι β γ : Type} {view : σ → γ} {fresh : Act σ ι} {probe : Descriptor β → ι → Act σ Bool}
  (hfresh : fresh.Inside view) (hprobe : ∀ d n, (probe d n).Inside view)

include hfresh hprobe

theorem inside_offer (ds : List (Descriptor β)) : (offer fresh probe ds).Inside view := by
  induction ds with
  | nil => exact Act.inside_pure _
  | cons d rest ih =>
    refine hfresh.bind fun n => (hprobe d n).bind fun accepted => ?_
    cases accepted with
    | true => exact Act.inside_pure _
    | false => exact ih

theorem inside_create (r : Registry β) (name? : Option String)
    {bind : Descriptor β → ι → Act σ Unit} (hbind : ∀ d n, (bind d n).Inside view) :
    (r.create name? fresh probe bind).Inside view := by
  refine (inside_offer hfresh hprobe _).bind fun chosen => ?_
  cases chosen with
  | none => exact Act.inside_pure _
  | some chosen => exact (hbind _ _).bind fun _ => Act.inside_pure _

end Registry

namespace Modem

section

variable {υ : Type} (i : Nat)

theorem inside_probe {f : Facility} (silent : f ≠ .radioSettings) (vendor : Vendor)
    (d : Descriptor Driver) (n : Nat) :
    (Host.probe f vendor d n : Act (Host υ) Bool).Inside (Host.multitech? i) := by
  have haccept : (Host.accept f n vendor : Act (Host υ) Unit).Inside (Host.multitech? i) := by
    have hshown : Host.accept f n vendor =
        (modify (·.showInstance f n) : Act (Host υ) PUnit) := by
      cases f with
      | radioSettings => exact absurd rfl silent
      | _ => rfl
    rw [hshown]
    exact Act.inside_modify _ fun _ => rfl
  unfold Host.probe
  cases d.body with
  | bare => exact Act.inside_pure _
  | full => exact haccept.bind fun _ => Act.inside_pure _
  | rationed =>
    refine (Act.inside_modifyGet _ fun _ => rfl).bind fun admitted => ?_
    cases admitted with
    | true => exact haccept.bind fun _ => Act.inside_pure _
    | false => exact Act.inside_pure _

theorem inside_create {f : Facility} (silent : f ≠ .radioSettings) (vendor : Vendor)
    (name? : Option String) :
    (Host.create f vendor name? : Step (Host υ) Nat).run.Inside (Host.multitech? i) := by
  refine Act.inside_get.bind fun h => Act.Inside.bind ?_ fun created => Act.inside_pure _
  have hfresh : (modifyGet (·.addInstance f vendor) : Act (Host υ) Nat).Inside
      (Host.multitech? i) := Act.inside_modifyGet _ fun _ => rfl
  refine Registry.inside_create hfresh (inside_probe i silent vendor) _ _ fun d n =>
    Act.inside_modify _ fun h => ?_
  unfold Host.multitech?
  rw [Host.modems_bindInstance]

theorem inside_createEach {wanted : List (Facility × Vendor)}
    (silent : ∀ x ∈ wanted, x.1 ≠ .radioSettings) :
    (createEach wanted : Act (Host υ) _).Inside (Host.multitech? i) := by
  induction wanted with
  | nil => exact Act.inside_pure _
  | cons first rest ih =>
    obtain ⟨hfirst, hrest⟩ := List.forall_mem_cons.mp silent
    refine (inside_create i hfirst _ _).bind fun created => (ih hrest).bind fun more => ?_
    cases created with
    | ok number => exact Act.inside_pure _
    | error e => exact Act.inside_pure _

/-- Before the SIM is there, facilities are created without a word to the modem, and then the board
is settled. -/
theorem preSim_settles {C : Type → Type} [Channel C] (m : Machine C (Host υ)) : ∃ s : Host υ,
    s.multitech? i = m.state.multitech? i ∧ m.start (preSim i .le910v2) =
      (Machine.mk m.channel s : Machine C (Host υ)).start (settleMultitech i) := by
  have hcreated : (createEach Model.le910v2.basicFacilities : Act (Host υ) _).Inside
      (Host.multitech? i) := inside_createEach i (by decide)
  have hinstalled (created : List (Facility × Nat)) :
      (modify (·.modifyModem i (install basic created)) : Act (Host υ) PUnit).Inside
        (Host.multitech? i) := by
    have hsame : ∀ m, (install basic created m).multitech = m.multitech := fun _ => rfl
    exact Act.inside_modify _ fun h => Host.multitech?_modifyModem hsame
  obtain ⟨_, s, hs, hexec⟩ := hcreated.bind hinstalled m.state
  exact ⟨s, hs, hexec m.channel fun _ => .fork (settleMultitech i).routine .done⟩

end

/-! ## Settling a board -/

section

variable {υ : Type} {others : Host υ → Host υ → Prop} {i : Nat} {h : Host υ}
  {w : Strand (Host υ)}

/-- On a machine, what is started before the SIM is there settles the board as a strand does. -/
theorem exists_settling {C : Type → Type} [Channel C] (m : Machine C (Host υ)) :
    ∃ (s : Host υ) (w : Strand (Host υ)), s.multitech? i = m.state.multitech? i ∧
      Strand.Run others (.start s (settleMultitech i)) w ∧ w.place.Rests ∧
      (m.start (preSim i .le910v2)).state = w.state := by
  obtain ⟨s, hs, hstart⟩ := preSim_settles i m
  obtain ⟨w, hrun, hrests, hstate⟩ :=
    Strand.exists_started (does_settleMultitech i) (Machine.mk m.channel s)
  exact ⟨s, w, hs, hrun, hrests, (congrArg Machine.state hstart).trans hstate⟩

theorem begins_settled (h : w.Follows (SettledFor i)) : ∃ way found, BoardSettled way found ∧
    w.did <+: way.map .heard ++ [.changed (noteBoard i found)] ∧ w.past <+: way ∧
    w.sent <+: way.map Prod.fst := by
  obtain ⟨_, ⟨way, found, hsettled, rfl⟩, hdid, hsent⟩ := h.begins
  have hpast : w.past <+: exchanges _ := hdid.filterMap Doing.exchange?
  rw [exchanges_noted] at hpast hsent
  exact ⟨way, found, hsettled, hdid, hpast, hsent⟩

theorem sent_of_refused (h : w.Follows (SettledFor i)) {a : Option Response} {e : Error}
    (mem : ("AT#FWSWITCH=?", a) ∈ w.past) (refused : acknowledgement a = .error e) :
    w.sent = ["AT#FWSWITCH=?"] := by
  obtain ⟨way, found, hsettled, -, hpast, hsent⟩ := begins_settled h
  obtain ⟨rest, rfl, -, hrest⟩ := hsettled.probed_at (hpast.mem mem)
  rw [hrest e refused] at hsent
  rcases List.prefix_cons_iff.mp hsent with hnone | ⟨more, hsome, hmore⟩
  · have hmem : "AT#FWSWITCH=?" ∈ w.sent :=
      List.mem_append_left _ (List.mem_map_of_mem mem)
    rw [hnone] at hmem
    cases hmem
  · rw [hsome, List.prefix_nil.mp hmore]

variable (run : Strand.Run others (.start h (settleMultitech i)) w)
  (apart : ∀ s s', others s s' → s'.multitech? i = s.multitech? i)

include run apart

theorem multitech?_of_noted {way : List Exchange} {found : Bool} {known : Option Bool}
    (present : h.multitech? i = some known)
    (did : w.did = way.map .heard ++ [.changed (noteBoard i found)]) :
    w.state.multitech? i = some (some found) := by
  have hshown := run.shown apart rfl
  rw [did] at hshown
  obtain ⟨s, hs, hstate⟩ := hshown.all (Strand.unseen_heard _) nofun
  exact hstate.trans (Host.multitech?_noteBoard (hs.trans present) found)

theorem multitech?_of_heard {way : List Exchange} (did : w.did <+: way.map .heard) :
    w.state.multitech? i = h.multitech? i := by
  have hunseen : Strand.Unseen (Host.multitech? i) w.did :=
    fun change hchange => Strand.unseen_heard way change (did.mem hchange)
  exact hunseen.shown (run.shown apart rfl)

end

def boarded : Host Unit := ((Host.initial ()).addModem .le910v2).2

/-- Something is announced meanwhile. -/
def Announced (h h' : Host Unit) : Prop := ∃ e, h' = h.emit e

theorem exists_restarted : ∃ w, Strand.Run Announced (.start boarded (settleMultitech 0)) w ∧
    w.Ended ∧ w.past = [("AT#FWSWITCH=?", some (.success [])),
      ("AT#USBCFG?", some (.success ["#USBCFG: 3"])), ("AT#USBCFG=2", some (.success [])),
      ("AT#FWSWITCH?", some (.success ["#FWSWITCH: 1"])), ("AT#REBOOT", none)] := by
  have hprobed : Strand.Run Announced (.start boarded (settleMultitech 0)) _ :=
    .single (.answer boarded [] _ _ _ (some (.success [])))
  have hwaiting := hprobed.tail (.hold _ _ _ _ _)
  have hannounced := hwaiting.tail (.other _ (boarded.emit .simReady) _ _ ⟨_, rfl⟩)
  have hread := hannounced.tail (.deliver _ _ _ _ (.success ["#USBCFG: 3"]))
  have hchanged := hread.tail (.answer _ _ _ _ _ (some (.success [])))
  have himage := hchanged.tail (.answer _ _ _ _ _ (some (.success ["#FWSWITCH: 1"])))
  have hrestarted := himage.tail (.answer _ _ _ _ _ none)
  have hnoted := hrestarted.tail (.change _ _ _ _)
  exact ⟨_, hnoted, rfl, rfl⟩

end Modem

end CellModem
