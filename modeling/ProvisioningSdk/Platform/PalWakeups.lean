import ProvisioningSdk.Lib.Wakeups
import ProvisioningSdk.Platform.PalEvent
import ProvisioningSdk.Platform.PalQueueThreads

/-!
# Wake-Ups of the Platform Queue and Event

Nobody sleeps on a queue or an event that could give them what they wait for,
except while the thread that made it so has its broadcast still to make.

Sending to an empty queue is what ends the wait of its receivers, receiving
from a full one ends that of its senders, and setting an event ends every wait
on it. Each of the three broadcasts the condition variable in question, so the
argument of `Lib.Wakeups` applies, and what is left is to say who owes the
broadcast.

## Theorems

* `syncQueue_announces`, `syncEvent_announces`: The broadcasts are the right
  ones.
* `no_lost_wakeup`: Nobody sleeps unattended.
-/

namespace ProvisioningSdk

namespace IotshdPal

open Transition TimedWait

/-- A send ends the waits of receivers, and a receive those of senders. -/
theorem syncQueue_announces (s : Nat) : Announces (syncQueue s) := by
  intro op op' q hclear hblocked hended
  cases op with
  | send item =>
      cases op' with
      | send item' =>
          -- a queue that is full for one item is full for any other
          rw [show ((syncQueue s) (.send item')).blocked q = false from hclear] at hblocked
          cases hblocked
      | receive => rfl
  | receive =>
      cases op' with
      | send item => rfl
      | receive =>
          rw [hclear] at hblocked
          cases hblocked

theorem syncEvent_announces : Announces syncEvent := by
  intro op op' e hclear hblocked hended
  cases op with
  | wait =>
      cases op' with
      | wait =>
          rw [hclear] at hblocked
          cases hblocked
      | set => cases hblocked
  | set =>
      cases op' with
      | wait => rfl
      | set => cases hblocked

/-- In every reachable state: if a queue has an item and a thread sleeps in a
    receive, some sender has stored an item and not broadcast yet; if it has a
    free slot and a thread sleeps in a send, some receiver has removed an item
    and not broadcast yet; and if an event is set and a thread sleeps in a wait,
    some setter has not broadcast yet. -/
theorem no_lost_wakeup (ι : Type*) [DecidableEq ι] :
    (∀ (s : Nat) (q : SyncQueue) (st : TimedWait.State ι (QueueOp s) QueueRes SyncQueue QueueCond),
      (queueThreads ι s q).Reachable st →
        (∀ t, st.pc t = .waiting .receive → 1 ≤ st.obj.itemsInQueue →
          ∃ u item, (st.pc u).Owes (.send item) (.sent true) .condEnqueue) ∧
        (∀ t item, st.pc t = .waiting (.send item) →
          st.obj.itemsInQueue < st.obj.numberOfQueueItems →
            ∃ u bytes, (st.pc u).Owes .receive (.received (some bytes)) .condDequeue)) ∧
    (∀ (e : Bool) (st : TimedWait.State ι EventOp EventRes Bool EventCond),
      (threads ι syncEvent e).Reachable st →
        ∀ t, st.pc t = .waiting .wait → st.obj = true → ∃ u, (st.pc u).Owes .set .done .cond) := by
  refine ⟨fun s q st h => ?_, fun e st h t ht hset => ?_⟩
  · have hs := attended_reachable (syncQueue_announces s) q h
    constructor
    · intro t ht hitem
      have hclear : ((syncQueue s) .receive).blocked st.obj = false :=
        beq_eq_false_iff_ne.mpr (by omega)
      rcases hs.asleep t .receive ht hclear with ⟨u, op, res, hu⟩
      rcases hs.owed u op res _ hu with ⟨hsignals, q', -, hres⟩
      -- only a send broadcasts `condEnqueue`
      cases op with
      | send item =>
          subst hres
          exact ⟨u, item, hu⟩
      | receive => cases hsignals
    · -- only a receive broadcasts `condDequeue`
      intro t item ht hroom
      have hclear : ((syncQueue s) (.send item)).blocked st.obj = false :=
        beq_eq_false_iff_ne.mpr (by omega)
      rcases hs.asleep t (.send item) ht hclear with ⟨u, op, res, hu⟩
      rcases hs.owed u op res _ hu with ⟨hsignals, q', -, hres⟩
      cases op with
      | send item' => cases hsignals
      | receive =>
          subst hres
          exact ⟨u, _, hu⟩
  · -- the same of the event, whose condition only a set broadcasts
    have hs := attended_reachable syncEvent_announces e h
    have hclear : (syncEvent .wait).blocked st.obj = false := by
      rw [hset]
      rfl
    rcases hs.asleep t .wait ht hclear with ⟨u, op, res, hu⟩
    rcases hs.owed u op res _ hu with ⟨hsignals, e', -, hres⟩
    cases op with
    | wait => cases hsignals
    | set =>
        subst hres
        exact ⟨u, hu⟩

/-- An empty queue for one byte. -/
def emptyQueue : SyncQueue where
  pBuffer := fun _ => 0
  bufferSize := 1
  numberOfQueueItems := 1
  queueItemSize := 1
  itemsInQueue := 0
  enqueueIndex := 0
  dequeueIndex := 0

/-- One thread goes to sleep in its call, and the other does what it waits for. -/
def sleptSchedule {ι Op Res : Type*} (t u : ι) (op op' : Op) : List (Act ι Op Res) :=
  [.call t op, .lock t, .test t, .call u op', .lock u, .test u, .body u, .unlock u]

/-- A byte is stored for a receiver, one is removed for a sender, and an event is
    set. -/
theorem no_lost_wakeup_stored :
    (∃ st, (queueThreads (Fin 2) 1 emptyQueue).run
        (sleptSchedule 0 1 .receive (.send ⟨[7], rfl⟩)) = some st ∧ st.pc 0 = .waiting .receive ∧
      ∃ u item, (st.pc u).Owes (.send item) (.sent true) .condEnqueue) ∧
    (∃ st, (queueThreads (Fin 2) 1 { emptyQueue with itemsInQueue := 1 }).run
        (sleptSchedule 0 1 (.send ⟨[7], rfl⟩) .receive) = some st ∧
        st.pc 0 = .waiting (.send ⟨[7], rfl⟩) ∧
      ∃ u bytes, (st.pc u).Owes .receive (.received (some bytes)) .condDequeue) ∧
    ∃ st, (threads (Fin 2) syncEvent false).run (sleptSchedule 0 1 .wait .set) = some st ∧
      st.pc 0 = .waiting .wait ∧ ∃ u, (st.pc u).Owes .set .done .cond :=
  have hnone := no_lost_wakeup (Fin 2)
  ⟨⟨_, rfl, rfl, (hnone.1 1 emptyQueue _
      ⟨sleptSchedule 0 1 .receive (.send ⟨[7], rfl⟩), rfl⟩).1 0 rfl (by decide)⟩,
    ⟨_, rfl, rfl, (hnone.1 1 { emptyQueue with itemsInQueue := 1 } _
      ⟨sleptSchedule 0 1 (.send ⟨[7], rfl⟩) .receive, rfl⟩).2 0 ⟨[7], rfl⟩ rfl (by decide)⟩,
    _, rfl, rfl, hnone.2 false _ ⟨sleptSchedule 0 1 .wait .set, rfl⟩ 0 rfl rfl⟩

end IotshdPal

end ProvisioningSdk
