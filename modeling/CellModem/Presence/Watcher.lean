import CellModem.Presence

/-!
# The watcher

The watcher sleeps until a device event comes in. It waits for a while, forgets the events that came
in meanwhile, and looks whether the device exists. If that is news, it takes the presence state half
the way, waits again, takes it the rest of the way, and hands an action over. What the events said
is never looked at.
-/

namespace CellModem

inductive Watcher where
  | idle
  /-- Waiting before it looks at the device. -/
  | detecting
  /-- Waiting while the device comes. -/
  | opening
  /-- Waiting while the device goes. -/
  | closing
  | stopped
  deriving DecidableEq, Repr

namespace Watcher

inductive Input where
  /-- It takes an event, or finds the device at the start. -/
  | event
  /-- The wait is over. `present` is what it sees of the device. -/
  | elapsed (present : Bool)
  | shutdown
  /-- Nobody takes its action any more, or there are no more events to come. -/
  | abandoned
  deriving DecidableEq, Repr

def judge (present : Bool) (p : Presence) : Watcher × Presence :=
  match present, p with
  | true, .detached => (.opening, .attaching)
  | false, .attached => (.closing, .detaching)
  | _, _ => (.idle, p)

/-- The watcher's next state, the presence state it leaves, and the action it hands over. -/
def step (w : Watcher) (p : Presence) (input : Input) :
    Watcher × Presence × Option PresenceAction :=
  match w, input with
  | .stopped, _ | _, .shutdown | _, .abandoned => (.stopped, p, none)
  | .idle, .event => (.detecting, p, none)
  | .detecting, .elapsed present =>
    let (w, p) := judge present p
    (w, p, none)
  | .opening, .elapsed _ => (.idle, .attached, some .create)
  | .closing, .elapsed _ => (.idle, .detached, some .remove)
  | w, _ => (w, p, none)

end Watcher

end CellModem
