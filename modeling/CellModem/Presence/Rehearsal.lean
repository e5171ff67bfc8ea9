import CellModem.Presence.Watcher

/-!
# Rehearsals

A watcher is run against a list that says, for each time it looks at the device, what it finds and
what others do meanwhile. All waits are short, except one that may be chosen to never end; the
watcher is then told to stop during it.
-/

namespace CellModem

/-- What goes on around one look at the device. -/
structure Scene where
  present : Bool
  /-- What someone else sets the presence state to, just before the look. -/
  overruled : Option Presence
  /-- How many events come in behind the look; those before it are forgotten by it. -/
  eventsBehind : Nat
  /-- Whether nobody takes actions from now on. -/
  abandoned : Bool
  deriving DecidableEq, Repr

structure Look where
  /-- The presence state before anyone overruled it. -/
  before : Presence
  /-- The presence state at the look. -/
  checked : Presence
  present : Bool
  /-- The actions handed over since the last look. -/
  actions : List PresenceAction
  deriving DecidableEq, Repr

inductive Entry where
  | looked (look : Look)
  | abandoned (actions : List PresenceAction)
  deriving DecidableEq, Repr

structure Rehearsal where
  watcher : Watcher
  presence : Presence
  events : Nat
  /-- Whether anyone takes actions. -/
  heard : Bool
  actions : List PresenceAction
  lastSeen : Bool
  entries : List Entry
  deriving DecidableEq, Repr

namespace Rehearsal

def start (presence : Presence) (events : Nat) : Rehearsal :=
  ⟨.idle, presence, events, true, [], false, []⟩

def advance (r : Rehearsal) (input : Watcher.Input) : Rehearsal :=
  match r.watcher.step r.presence input with
  | (w, p, none) => { r with watcher := w, presence := p }
  | (w, p, some action) =>
    if r.heard then { r with watcher := w, presence := p, actions := r.actions ++ [action] }
    else { r with watcher := (w.step p .abandoned).1, presence := p }

/-- Lets the wait go by, unless it is the one that never ends. -/
def wait (endless : Option Watcher) (r : Rehearsal) (present : Bool) : Rehearsal :=
  r.advance (if endless = some r.watcher then .shutdown else .elapsed present)

/-- What others do just before the look, and the look on record. -/
def set (r : Rehearsal) (scene : Scene) : Rehearsal :=
  let checked := scene.overruled.getD r.presence
  let entries :=
    if scene.abandoned then
      [.abandoned r.actions, .looked ⟨r.presence, checked, scene.present, []⟩]
    else [.looked ⟨r.presence, checked, scene.present, r.actions⟩]
  { r with
    presence := checked
    events := scene.eventsBehind
    heard := r.heard && !scene.abandoned
    actions := []
    lastSeen := scene.present
    entries := r.entries ++ entries }

def evaluate (endless : Option Watcher) (r : Rehearsal) (scene : Scene) : Rehearsal :=
  let r := r.advance .event
  if endless = some r.watcher then r.advance .shutdown
  else
    let r := (r.set scene).advance (.elapsed scene.present)
    if r.watcher = .idle then r else r.wait endless scene.present

/-- The scene for looks behind the end of the list: nothing changes any more. -/
def afterwards (r : Rehearsal) : Scene := ⟨r.lastSeen, none, 0, false⟩

def run (endless : Option Watcher) : List Scene → Rehearsal → Rehearsal
  | scenes, r =>
    if r.watcher ≠ .idle ∨ r.events = 0 then r
    else
      let r := { r with events := r.events - 1 }
      match scenes with
      | [] => r.evaluate endless r.afterwards
      | scene :: rest => run endless rest (r.evaluate endless scene)

/-- A whole rehearsal. A watcher that finds the device at the start looks once more at once. -/
def perform (presence : Presence) (presentAtStart : Bool) (events : Nat) (scenes : List Scene)
    (endless : Option Watcher) : Rehearsal :=
  let r := start presence events
  if presentAtStart then
    match scenes with
    | [] => run endless [] (r.evaluate endless r.afterwards)
    | scene :: rest => run endless rest (r.evaluate endless scene)
  else run endless scenes r

end Rehearsal

end CellModem
