import ProvisioningSdk.Lib.Monitor

/-!
# The Platform Event

`pal_event.c`: a flag that one thread sets and another waits for. It has the
shape of `Lib.Monitor`. A wait is blocked while the flag is clear, clears it,
and returns false when it gave up; setting never waits.

## Main definitions

* `syncEventWait`, `syncEventSet`: The two operations.
* `syncEvent`: The event as a monitor.
* `waitNow`: A wait at the moment it takes effect.

## Theorems

* `sequential_wait`, `sequential_set`: The moment of effect is a step of the
  monitor's sequential behaviour.
-/

namespace ProvisioningSdk

namespace IotshdPal

open TimedWait

/-- A call on the event. -/
inductive EventOp
  | wait
  | set
  deriving DecidableEq, Repr

/-- What a call returns. -/
inductive EventRes
  | waited (retStatus : Bool)
  | done
  deriving DecidableEq, Repr

/-- The event's condition variable. -/
inductive EventCond
  | cond
  deriving DecidableEq, Repr

/-- `iotshdPal_syncEventWait`. It broadcasts nothing. -/
def syncEventWait : Operation EventRes Bool EventCond where
  blocked := fun eventStatus => eventStatus == false
  body := fun _ => (false, .waited true)
  gaveUp := .waited false
  waitsOn := .cond
  signals := none

/-- `iotshdPal_syncEventSet`. It never waits. -/
def syncEventSet : Operation EventRes Bool EventCond where
  blocked := fun _ => false
  body := fun _ => (true, .done)
  gaveUp := .done
  waitsOn := .cond
  signals := some .cond

/-- The event as a monitor. -/
def syncEvent : Monitor EventOp EventRes Bool EventCond
  | .wait => syncEventWait
  | .set => syncEventSet

/-- What a wait does at the moment it takes effect: the flag after it, and
    what it returns. -/
def waitNow (eventStatus : Bool) : Bool × Bool := (false, eventStatus)

theorem sequential_wait (e0 e : Bool) :
    (sequential syncEvent e0).apply e .wait (.waited (waitNow e).2) = some (waitNow e).1 := by
  cases e with
  | false => rfl
  | true => rfl

theorem sequential_set (e0 e : Bool) :
    (sequential syncEvent e0).apply e .set .done = some true := rfl

end IotshdPal

end ProvisioningSdk
