import ProvisioningSdk.Lib.Progress
import ProvisioningSdk.Platform.PalWakeups

/-!
# Progress of the Platform Queue and Event

That the calls on a queue and on an event end, by `Lib.Progress`.

What makes a call take longer is a wake-up that does it no good: another thread
was faster, or there was no reason for it. Each of these is paid for by a call of
another thread or is spurious, so threads that keep each other awake cannot do so
for ever, however the scheduler runs them.

A thread that the scheduler stops for good does no harm either, unless it was
stopped inside. Every other call can still return, and needs nobody for it but
the thread that is inside (`palCalls_return`).

## Theorems

* `palCalls_complete`: Runs end, and then every call has returned.
* `palCalls_return`: A call needs nobody outside the critical section.
-/

namespace ProvisioningSdk

namespace IotshdPal

open Transition TimedWait

/-- A run of the threads `ts` on a queue or an event takes a bounded number of
    steps for each call and each spurious wake-up. When nothing else than these
    can happen any more, every call has returned and the mutex is free. -/
theorem palCalls_complete (ι : Type*) [DecidableEq ι] (ts : List ι) (hts : ts.Nodup) :
    (∀ (s : Nat) (q : SyncQueue) (acts : List (Act ι (QueueOp s) QueueRes))
        (st : TimedWait.State ι (QueueOp s) QueueRes SyncQueue QueueCond),
      (∀ a ∈ acts, a.thread ∈ ts) → (queueThreads ι s q).run acts = some st →
        acts.length ≤
            (2 * ts.length + 5) * acts.countP Act.isCall + 3 * acts.countP Act.isWake ∧
          (Stuck (syncQueue s) st → AllReturned st acts)) ∧
    (∀ (e : Bool) (acts : List (Act ι EventOp EventRes))
        (st : TimedWait.State ι EventOp EventRes Bool EventCond),
      (∀ a ∈ acts, a.thread ∈ ts) → (threads ι syncEvent e).run acts = some st →
        acts.length ≤
            (2 * ts.length + 5) * acts.countP Act.isCall + 3 * acts.countP Act.isWake ∧
          (Stuck syncEvent st → AllReturned st acts)) := by
  refine ⟨fun s q acts st hacts hrun => ?_, fun e acts st hacts hrun => ?_⟩
  · exact ⟨length_le_calls (syncQueue s) q hts hacts hrun,
      allReturned_of_stuck (syncQueue s) q hrun⟩
  · exact ⟨length_le_calls syncEvent e hts hacts hrun, allReturned_of_stuck syncEvent e hrun⟩

/-- A wait that is woken by nothing, and sleeps again. -/
def wokenSchedule {ι : Type*} (t : ι) : List (Act ι EventOp EventRes) :=
  [.call t .wait, .lock t, .test t, .wake t, .relock t, .test t]

/-- A sender that gives up, and a wait that goes on. -/
theorem palCalls_complete_full :
    (∃ st, (queueThreads (Fin 2) 1 emptyQueue).run (fullQueueSchedule 0 1) = some st ∧
      (fullQueueSchedule (0 : Fin 2) 1).length ≤
          (2 * 2 + 5) * (fullQueueSchedule (0 : Fin 2) 1).countP Act.isCall +
            3 * (fullQueueSchedule (0 : Fin 2) 1).countP Act.isWake ∧
        (Stuck (syncQueue 1) st → AllReturned st (fullQueueSchedule 0 1))) ∧
    ∃ st, (threads (Fin 2) syncEvent false).run (wokenSchedule 0) = some st ∧
      (wokenSchedule (0 : Fin 2)).length ≤
          (2 * 2 + 5) * (wokenSchedule (0 : Fin 2)).countP Act.isCall +
            3 * (wokenSchedule (0 : Fin 2)).countP Act.isWake ∧
        (Stuck syncEvent st → AllReturned st (wokenSchedule 0)) :=
  have hall := palCalls_complete (Fin 2) [0, 1] (by decide)
  ⟨⟨_, rfl, hall.1 1 emptyQueue _ _ (by decide) rfl⟩,
    _, rfl, hall.2 false (wokenSchedule 0) _ (by decide) rfl⟩

/-- In every reachable state of a queue and of an event, a call that is under way
    can return by at most nine steps of its own thread and of the one that has the
    mutex, without a spurious wake-up or another call. -/
theorem palCalls_return (ι : Type*) [DecidableEq ι] :
    (∀ (s : Nat) (q : SyncQueue) (st : TimedWait.State ι (QueueOp s) QueueRes SyncQueue QueueCond),
      (queueThreads ι s q).Reachable st → ∀ t, ∃ acts st',
        (∀ a ∈ acts, (a.thread = t ∨ st.owner = some a.thread) ∧ a.isExtra = false) ∧
          acts.length ≤ 9 ∧ (queueThreads ι s q).runFrom st acts = some st' ∧
          st'.pc t = .idle) ∧
    (∀ (e : Bool) (st : TimedWait.State ι EventOp EventRes Bool EventCond),
      (threads ι syncEvent e).Reachable st → ∀ t, ∃ acts st',
        (∀ a ∈ acts, (a.thread = t ∨ st.owner = some a.thread) ∧ a.isExtra = false) ∧
          acts.length ≤ 9 ∧ (threads ι syncEvent e).runFrom st acts = some st' ∧
          st'.pc t = .idle) := by
  refine ⟨fun s q st h t => ?_, fun e st h t => ?_⟩
  · exact returns_alone (syncQueue s) q (ownerInside_reachable _ q h) t
  · exact returns_alone syncEvent e (ownerInside_reachable _ e h) t

/-- A receiver and a waiter that sleep, while the other thread has stored a byte
    or set the event and still has the mutex. -/
theorem palCalls_return_asleep :
    (∃ st, (queueThreads (Fin 2) 1 emptyQueue).run
        ((sleptSchedule 0 1 .receive (.send ⟨[7], rfl⟩)).take 7) = some st ∧
      st.pc 0 = .waiting .receive ∧ st.owner = some 1 ∧ ∃ acts st',
        (∀ a ∈ acts, (a.thread = 0 ∨ st.owner = some a.thread) ∧ a.isExtra = false) ∧
          acts.length ≤ 9 ∧ (queueThreads (Fin 2) 1 emptyQueue).runFrom st acts = some st' ∧
          st'.pc 0 = .idle) ∧
    ∃ st, (threads (Fin 2) syncEvent false).run ((sleptSchedule 0 1 .wait .set).take 7) = some st ∧
      st.pc 0 = .waiting .wait ∧ st.owner = some 1 ∧ ∃ acts st',
        (∀ a ∈ acts, (a.thread = 0 ∨ st.owner = some a.thread) ∧ a.isExtra = false) ∧
          acts.length ≤ 9 ∧ (threads (Fin 2) syncEvent false).runFrom st acts = some st' ∧
          st'.pc 0 = .idle :=
  have hall := palCalls_return (Fin 2)
  ⟨⟨_, rfl, rfl, rfl, hall.1 1 emptyQueue _
      ⟨(sleptSchedule 0 1 .receive (.send ⟨[7], rfl⟩)).take 7, rfl⟩ 0⟩,
    _, rfl, rfl, rfl, hall.2 false _ ⟨(sleptSchedule 0 1 .wait .set).take 7, rfl⟩ 0⟩

end IotshdPal

end ProvisioningSdk
