import ProvisioningSdk.Lib.Programs
import ProvisioningSdk.Platform.PalEvent
import ProvisioningSdk.Platform.PalQueueThreads

/-!
# Programs over the Platform

Any program whose threads share queues and events of the platform, as many of
each as it likes.

What was shown of one queue and of one event by itself carries over, because
linearizability is local (`Lib.Programs`). Whatever the threads do between their
calls, they cannot tell the mutexes and condition variables of `pal_queue.c` and
`pal_event.c` from FIFO lists and flags on which each call is one step. So the
models of the agent, in which a call of the platform is one step, say something
about the threads that really run.

## Main definitions

* `MadeQueue`: A queue that `iotshdPal_syncQueueCreate` has made.
* `PalObject`: A queue or an event.
* `flag`: What an event is for.

## Theorems

* `palObject_linearizes`: Each object by itself.
* `palObjects_atomic`: Programs over any number of them.
-/

namespace ProvisioningSdk

namespace IotshdPal

open Bytes Transition Linearize TimedWait SharedObjects

/-- A queue as it was made. -/
structure MadeQueue where
  numberOfQueueItems : Nat
  queueItemSize : Nat
  heap : Memory
  queue : SyncQueue
  items_pos : 1 ≤ numberOfQueueItems
  size_pos : 1 ≤ queueItemSize
  fits : numberOfQueueItems * queueItemSize < 2 ^ 32
  made : syncQueueCreate ⟨true, some heap⟩ numberOfQueueItems queueItemSize = .ok (some queue)

theorem MadeQueue.stands (q : MadeQueue) :
    Stands q.numberOfQueueItems q.queueItemSize q.queue [] := by
  have hitems := q.items_pos
  have hsize := q.size_pos
  have hfits := q.fits
  have hle := Nat.le_mul_of_pos_right q.numberOfQueueItems hsize
  have hsle := Nat.le_mul_of_pos_left q.queueItemSize hitems
  exact create_ready q.heap true q.numberOfQueueItems q.queueItemSize q.queue (by omega) (by omega)
    (by omega) q.made

/-- What an event is for: a wait takes the flag, if it is set. -/
def flag : Sequential EventOp EventRes Bool where
  init := false
  apply := fun eventStatus op res => match op with
    | .wait => if res = .waited eventStatus then some false else none
    | .set => if res = .done then some true else none

theorem flag_wait {e e' : Bool} {res : EventRes} (h : flag.apply e .wait res = some e') :
    res = .waited e ∧ e' = false := by
  unfold flag at h
  simp only at h
  split at h
  · cases h
    exact ⟨‹_›, rfl⟩
  · cases h

theorem flag_set {e e' : Bool} {res : EventRes} (h : flag.apply e .set res = some e') :
    res = .done ∧ e' = true := by
  unfold flag at h
  simp only at h
  split at h
  · cases h
    exact ⟨‹_›, rfl⟩
  · cases h

theorem event_refines {e e' : Bool} {op : EventOp} {res : EventRes}
    (h : (sequential syncEvent false).apply e op res = some e') :
    flag.apply e op res = some e' := by
  cases op with
  | wait =>
      cases e with
      | false => exact h
      | true => exact h
  | set => exact h

/-- An object of the platform. -/
inductive PalObject
  | queue (q : MadeQueue)
  | event

namespace PalObject

/-- The calls. -/
def Op : PalObject → Type
  | .queue q => QueueOp q.queueItemSize
  | .event => EventOp

/-- The answers. -/
def Res : PalObject → Type
  | .queue _ => QueueRes
  | .event => EventRes

/-- What it holds. -/
def Value : PalObject → Type
  | .queue _ => List (List UInt8)
  | .event => Bool

instance (o : PalObject) : DecidableEq o.Op := match o with
  | .queue q => inferInstanceAs (DecidableEq (QueueOp q.queueItemSize))
  | .event => inferInstanceAs (DecidableEq EventOp)

instance (o : PalObject) : DecidableEq o.Res := match o with
  | .queue _ => inferInstanceAs (DecidableEq QueueRes)
  | .event => inferInstanceAs (DecidableEq EventRes)

/-- The object in use by threads. -/
def State (ι : Type*) : PalObject → Type _
  | .queue q => TimedWait.State ι (QueueOp q.queueItemSize) QueueRes SyncQueue QueueCond
  | .event => TimedWait.State ι EventOp EventRes Bool EventCond

/-- The steps of the threads in it. -/
def Act (ι : Type*) : PalObject → Type _
  | .queue q => TimedWait.Act ι (QueueOp q.queueItemSize) QueueRes
  | .event => TimedWait.Act ι EventOp EventRes

/-- The code of its calls, run by threads. -/
def threads (ι : Type*) [DecidableEq ι] : (o : PalObject) → System (o.State ι) (o.Act ι)
  | .queue q => queueThreads ι q.queueItemSize q.queue
  | .event => TimedWait.threads ι syncEvent false

/-- The calls and returns among the steps. -/
def seen (ι : Type*) : (o : PalObject) → o.Act ι → Option (Event ι o.Op o.Res)
  | .queue _ => TimedWait.event
  | .event => TimedWait.event

/-- What it is for. -/
def spec : (o : PalObject) → Sequential o.Op o.Res o.Value
  | .queue q => fifo q.numberOfQueueItems q.queueItemSize
  | .event => flag

/-- The object in use holds this. -/
def Holds {ι : Type*} : (o : PalObject) → o.State ι → o.Value → Prop
  | .queue q => fun st items => st.obj.contents = items ∧ items.length ≤ q.numberOfQueueItems
  | .event => fun st eventStatus => st.obj = eventStatus

/-! ### One object -/

/-- The variables behind the object. -/
def Data : PalObject → Type
  | .queue _ => SyncQueue
  | .event => Bool

/-- Its calls, one at a time. -/
def sequential : (o : PalObject) → Sequential o.Op o.Res o.Data
  | .queue q => TimedWait.sequential (syncQueue q.queueItemSize) q.queue
  | .event => TimedWait.sequential syncEvent false

/-- The atomic object fits the one in use. -/
def Matches {ι : Type*} :
    (o : PalObject) → o.State ι → Linearize.State ι o.Op o.Res o.Data → Prop
  | .queue q => TimedWait.Matches (syncQueue q.queueItemSize)
  | .event => TimedWait.Matches syncEvent

/-- The variables stand for what the object holds. -/
def Stands : (o : PalObject) → o.Data → o.Value → Prop
  | .queue q => IotshdPal.Stands q.numberOfQueueItems q.queueItemSize
  | .event => Eq

variable {ι : Type*}

/-- What an object in use holds. -/
theorem holds_of_stands (o : PalObject) {st : o.State ι} {b : Linearize.State ι o.Op o.Res o.Data}
    {v : o.Value} (hmatches : o.Matches st b) (h : o.Stands b.obj v) : o.Holds st v := by
  cases o with
  | queue q =>
      rcases h with ⟨hready, hitems, -, hcontents⟩
      have hobj : b.obj = st.obj := hmatches.1
      have hlength := length_contents b.obj
      have hle := hready.items_le
      rw [hcontents] at hlength
      exact ⟨hobj ▸ hcontents, by omega⟩
  | event => exact hmatches.1.symm.trans h

theorem linearizes [DecidableEq ι] (o : PalObject) :
    Linearizes (o.threads ι) (o.seen ι) o.sequential o.Matches := by
  cases o with
  | queue q => exact monitor_linearizes (syncQueue q.queueItemSize) q.queue
  | event => exact monitor_linearizes syncEvent false

theorem stands_init (o : PalObject) : o.Stands o.sequential.init o.spec.init := by
  cases o with
  | queue q => exact q.stands
  | event => exact rfl

theorem stands_apply (o : PalObject) {m m' : o.Data} {v : o.Value} {op : o.Op} {res : o.Res}
    (h : o.Stands m v) (happly : o.sequential.apply m op res = some m') :
    ∃ v', o.spec.apply v op res = some v' ∧ o.Stands m' v' := by
  cases o with
  | queue q =>
      exact queue_refines q.numberOfQueueItems q.queueItemSize q.queue m m' v op res h happly
  | event =>
      cases h
      exact ⟨m', event_refines happly, rfl⟩

end PalObject

/-! ### Programs -/

section Programs

variable {ι K S L α : Type*} [DecidableEq ι] [DecidableEq K]

/-- The programs whose calls are those of these objects. -/
abbrev PalProgram (ι : Type*) (object : K → PalObject) (S L α : Type*) :=
  Program ι (fun k => (object k).Op) (fun k => (object k).Res) S L α

/-- The program over the code of the platform. -/
def overPal {object : K → PalObject} (P : PalProgram ι object S L α) :
    System (Running ι S L (fun k => (object k).State ι)) (RunAct ι α (fun k => (object k).Act ι)) :=
  P.over (fun k => (object k).threads ι) (fun k => (object k).seen ι)

/-- The program over lists and flags. -/
def overSpec {object : K → PalObject} (P : PalProgram ι object S L α) :
    System (Settled ι S L (fun k => (object k).Value))
      (CallAct ι α (fun k => (object k).Op) (fun k => (object k).Res)) :=
  P.atomically (fun k => (object k).spec)

/-- Threads that make the calls of a list each, and keep the answers. -/
def scripted {object : K → PalObject} (script : ι → List (Σ k, (object k).Op)) :
    PalProgram ι object Unit (List (Σ k, (object k).Op) × List (Σ k, (object k).Res)) Empty where
  shared := ()
  start := fun t => (script t, [])
  own := fun _ a => a.elim
  next := fun _ l => l.1.head?
  resume := fun _ l k _ res => (l.1.tail, l.2 ++ [⟨k, res⟩])

variable {object : K → PalObject}

/-- What is done over the code can be done over lists and flags. -/
theorem overPal_refines (P : PalProgram ι object S L α)
    (acts : List (RunAct ι α (fun k => (object k).Act ι)))
    (st : Running ι S L (fun k => (object k).State ι)) (hrun : (overPal P).run acts = some st) :
    ∃ acts' s, (overSpec P).run acts' = some s ∧
      acts'.filterMap CallAct.ownStep = acts.filterMap RunAct.ownStep ∧
      s.shared = st.threads.shared ∧ (∀ t, Returned P st.threads t (s.locals t)) ∧
      ∀ k, (object k).Holds (st.objects k) (s.objects k) := by
  rcases P.over_atomically (fun k => (object k).linearizes) acts st hrun with
    ⟨acts', s, hs, howns, hshared, hlocals, hobjects⟩
  -- then lists and flags in place of the variables
  rcases P.atomically_refines (fun k => (object k).stands_init)
    (fun k m v op res m' h happly => (object k).stands_apply h happly) acts' s hs with
    ⟨s', hs', hshared', hlocals', hstands⟩
  refine ⟨acts', s', hs', howns, hshared'.trans hshared, fun t => hlocals' ▸ hlocals t,
    fun k => ?_⟩
  rcases hobjects k with ⟨b, hb, heq⟩
  exact (object k).holds_of_stands hb (heq ▸ hstands k)

end Programs

/-- Whatever threads do with any number of queues and events of the platform,
    step by step on their mutexes and condition variables: they could have done it
    with lists and flags on which a call is one step. The steps in between are the
    same, the shared variables end the same, and so does every thread that is in
    no call; and the queues and events hold what the lists and flags are. -/
theorem palObjects_atomic {ι K S L α : Type*} [DecidableEq ι] [DecidableEq K]
    (object : K → PalObject) (P : PalProgram ι object S L α)
    (acts : List (RunAct ι α (fun k => (object k).Act ι)))
    (st : Running ι S L (fun k => (object k).State ι)) (hrun : (overPal P).run acts = some st) :
    ∃ acts' s, (overSpec P).run acts' = some s ∧
      acts'.filterMap CallAct.ownStep = acts.filterMap RunAct.ownStep ∧
      s.shared = st.threads.shared ∧ (∀ t, Returned P st.threads t (s.locals t)) ∧
      (∀ t, st.threads.inside t = false → s.locals t = st.threads.locals t) ∧
      ∀ k, (object k).Holds (st.objects k) (s.objects k) := by
  rcases overPal_refines P acts st hrun with ⟨acts', s, hs, howns, hshared, hlocals, hobjects⟩
  exact ⟨acts', s, hs, howns, hshared, hlocals, fun t hout => (hlocals t).of_out hout, hobjects⟩

/-- Room for one byte. -/
def byteBuffer : Memory := fun _ => UInt8.ofNat 0

theorem byteQueue_pos : 1 ≤ 1 := Nat.le_refl 1

theorem byteQueue_fits : 1 * 1 < 2 ^ 32 := by decide

theorem byteQueue_made : syncQueueCreate ⟨true, some byteBuffer⟩ 1 1 =
    .ok (some ⟨byteBuffer, 1, 1, 1, 0, 0, 0⟩) := rfl

/-- A queue of one byte. -/
def byteQueue : MadeQueue :=
  ⟨1, 1, byteBuffer, ⟨byteBuffer, 1, 1, 1, 0, 0, 0⟩, byteQueue_pos, byteQueue_pos, byteQueue_fits,
    byteQueue_made⟩

/-- What is sent. -/
def sentByte : Item 1 := ⟨[UInt8.ofNat 7], rfl⟩

/-- A queue and an event. -/
def handOverObject : Bool → PalObject
  | true => .queue byteQueue
  | false => .event

/-- One thread sends and then sets the event. The other waits for the event, and
    then receives. -/
def handOver : Bool → List (Σ k, (handOverObject k).Op)
  | true => [⟨true, QueueOp.send sentByte⟩, ⟨false, EventOp.set⟩]
  | false => [⟨false, EventOp.wait⟩, ⟨true, QueueOp.receive⟩]

/-- A step in the queue. -/
def inQueue (a : TimedWait.Act Bool (QueueOp 1) QueueRes) :
    RunAct Bool Empty (fun k => (handOverObject k).Act Bool) :=
  .object true a

/-- A step in the event. -/
def inEvent (a : TimedWait.Act Bool EventOp EventRes) :
    RunAct Bool Empty (fun k => (handOverObject k).Act Bool) :=
  .object false a

/-- The second thread waits already when the first one starts. -/
def handOverSchedule : List (RunAct Bool Empty (fun k => (handOverObject k).Act Bool)) :=
  [inEvent (.call false .wait), inEvent (.lock false), inEvent (.test false),
    inQueue (.call true (.send sentByte)), inQueue (.lock true), inQueue (.test true),
    inQueue (.body true), inQueue (.unlock true), inQueue (.broadcast true),
    inQueue (.ret true (.send sentByte) (.sent true)), inEvent (.call true .set),
    inEvent (.lock true), inEvent (.test true), inEvent (.body true), inEvent (.unlock true),
    inEvent (.broadcast true), inEvent (.relock false), inEvent (.test false),
    inEvent (.body false), inEvent (.unlock false), inEvent (.ret false .wait (.waited true)),
    inQueue (.call false .receive), inQueue (.lock false), inQueue (.test false),
    inQueue (.body false)]

theorem palObjects_atomic_handOver :
    ∃ st, (overPal (scripted handOver)).run handOverSchedule = some st ∧
      ∃ acts' s, (overSpec (scripted handOver)).run acts' = some s ∧
        acts'.filterMap CallAct.ownStep = handOverSchedule.filterMap RunAct.ownStep ∧
        s.shared = st.threads.shared ∧
        (∀ t, Returned (scripted handOver) st.threads t (s.locals t)) ∧
        (∀ t, st.threads.inside t = false → s.locals t = st.threads.locals t) ∧
        ∀ k, (handOverObject k).Holds (st.objects k) (s.objects k) :=
  ⟨_, rfl, palObjects_atomic handOverObject (scripted handOver) handOverSchedule _ rfl⟩

end IotshdPal

end ProvisioningSdk
