import ProvisioningSdk.Lib.TimedMonitor
import ProvisioningSdk.Platform.PalEvent
import ProvisioningSdk.Platform.PalWakeups

/-!
# The Deadlines of the Platform Queue and Event

How long a send, a receive or a wait can block.

The three functions wait in a loop, with one and the same body: read the clock,
add the block time, and wait until then. The arithmetic is exact
(`nanoseconds_deadline`), so a deadline is later than the caller asked for by
as much time as has passed between the call and the reading. Nothing passes
only if the condition is found false at the moment of the entry. Whoever is
woken for nothing, or after another thread was faster, starts over with the
whole block time.

## Main definitions

* `deadline`: What a loop passes to `pthread_cond_timedwait`.
* `InTime`: A thread does not wait longer than its caller asked for.
* `AtEntry`: A thread that goes to sleep has only just entered.

## Theorems

* `nanoseconds_deadline`: The deadline is the block time after the reading.
* `deadlines_iff`: When the deadlines of an execution are in time.
-/

namespace ProvisioningSdk

namespace IotshdPal

open Transition TimedWait

/-- `struct timeval`. -/
structure Timeval where
  tv_sec : Nat
  tv_usec : Nat
  deriving DecidableEq, Repr

/-- `struct timespec`. -/
structure Timespec where
  tv_sec : Nat
  tv_nsec : Nat
  deriving DecidableEq, Repr

/-- `gettimeofday`, for a clock that counts microseconds. -/
def gettimeofday (clock : Nat) : Timeval := ⟨clock / 1000000, clock % 1000000⟩

/-- `timeout`, as the wait loops compute it. -/
def deadline (now : Timeval) (blockTimeMs : Nat) : Timespec :=
  let tv_sec := now.tv_sec + blockTimeMs / 1000
  let tv_nsec := (now.tv_usec + blockTimeMs % 1000 * 1000) * 1000
  if 1000000000 ≤ tv_nsec then ⟨tv_sec + 1, tv_nsec - 1000000000⟩ else ⟨tv_sec, tv_nsec⟩

def Timespec.nanoseconds (t : Timespec) : Nat := t.tv_sec * 1000000000 + t.tv_nsec

/-- The deadline is the block time after the reading, and one carry is enough to
    make it a proper time. -/
theorem nanoseconds_deadline (clock blockTimeMs : Nat) :
    (deadline (gettimeofday clock) blockTimeMs).nanoseconds =
        (clock + blockTimeMs * 1000) * 1000 ∧
      (deadline (gettimeofday clock) blockTimeMs).tv_nsec < 1000000000 := by
  have hclock := Nat.div_add_mod clock 1000000
  have husec : clock % 1000000 < 1000000 := Nat.mod_lt _ (by decide)
  have hblock := Nat.div_add_mod blockTimeMs 1000
  have hms : blockTimeMs % 1000 < 1000 := Nat.mod_lt _ (by decide)
  unfold deadline gettimeofday
  by_cases hcarry : 1000000000 ≤ (clock % 1000000 + blockTimeMs % 1000 * 1000) * 1000
  · simp only [if_pos hcarry, Timespec.nanoseconds]
    omega
  · simp only [if_neg hcarry, Timespec.nanoseconds]
    omega

section Deadlines

variable {ι Op Res σ κ : Type*} (M : Monitor Op Res σ κ)

/-- The deadline that a thread passes when it goes to sleep is not later than
    its block time after its entry. -/
def InTime (s : Clocked ι Op Res σ κ) (a : ClockedAct ι Op Res) : Prop :=
  ∀ t, a = .act (.test t) → Sleeps M s t →
    (deadline (gettimeofday s.clock) (s.blockTime t)).nanoseconds ≤
      (s.entered t + s.blockTime t * 1000) * 1000

/-- A thread that goes to sleep reads the time of its entry. -/
def AtEntry (s : Clocked ι Op Res σ κ) (a : ClockedAct ι Op Res) : Prop :=
  ∀ t, a = .act (.test t) → Sleeps M s t → s.clock = s.entered t

variable {M} [DecidableEq ι] [DecidableEq κ] [DecidableEq Op] [DecidableEq Res]

/-- One step is in time exactly if the clock has not gone on since the entry. -/
theorem inTime_iff {obj : σ} {start : Nat} {s : Clocked ι Op Res σ κ}
    (h : (clocked ι M obj start).Reachable s) (a : ClockedAct ι Op Res) :
    InTime M s a ↔ AtEntry M s a := by
  refine forall_congr' (fun t => imp_congr_right (fun _ => imp_congr_right (fun _ => ?_)))
  have hentered := entered_le_clock h t
  rw [(nanoseconds_deadline s.clock (s.blockTime t)).1]
  omega

theorem guarded_inTime_iff (obj : σ) (start : Nat) (acts : List (ClockedAct ι Op Res))
    (s : Clocked ι Op Res σ κ) (hrun : (clocked ι M obj start).run acts = some s) :
    (clocked ι M obj start).Guarded (InTime M) acts ↔
      (clocked ι M obj start).Guarded (AtEntry M) acts :=
  (clocked ι M obj start).guarded_congr (fun _ a _ hs _ => inTime_iff hs a) acts s hrun

end Deadlines

/-- In every execution, the deadlines of a queue and of an event are in time
    exactly if every thread that goes to sleep reads the time of its entry. -/
theorem deadlines_iff (ι : Type*) [DecidableEq ι] :
    (∀ (size : Nat) (q : SyncQueue) (start : Nat)
        (acts : List (ClockedAct ι (QueueOp size) QueueRes))
        (s : Clocked ι (QueueOp size) QueueRes SyncQueue QueueCond),
      (clocked ι (syncQueue size) q start).run acts = some s →
        ((clocked ι (syncQueue size) q start).Guarded (InTime (syncQueue size)) acts ↔
          (clocked ι (syncQueue size) q start).Guarded (AtEntry (syncQueue size)) acts)) ∧
      ∀ (e : Bool) (start : Nat) (acts : List (ClockedAct ι EventOp EventRes))
        (s : Clocked ι EventOp EventRes Bool EventCond),
      (clocked ι syncEvent e start).run acts = some s →
        ((clocked ι syncEvent e start).Guarded (InTime syncEvent) acts ↔
          (clocked ι syncEvent e start).Guarded (AtEntry syncEvent) acts) :=
  ⟨fun size => guarded_inTime_iff (M := syncQueue size), guarded_inTime_iff⟩

/-- A thread begins a call that may block for a second, and is woken for nothing
    after half of it. -/
def spuriousSchedule {ι Op Res : Type*} (t : ι) (op : Op) : List (ClockedAct ι Op Res) :=
  [.enter t op 1000, .act (.lock t), .act (.test t), .tick 500000, .act (.wake t),
    .act (.relock t)]

/-- The call is a receive from an empty queue, or a wait for a clear event. -/
theorem deadlines_iff_spurious :
    (∃ s, (clocked (Fin 1) (syncQueue 1) emptyQueue 0).run (spuriousSchedule 0 .receive) = some s ∧
      ((clocked (Fin 1) (syncQueue 1) emptyQueue 0).Guarded (InTime (syncQueue 1))
          (spuriousSchedule 0 .receive) ↔
        (clocked (Fin 1) (syncQueue 1) emptyQueue 0).Guarded (AtEntry (syncQueue 1))
          (spuriousSchedule 0 .receive))) ∧
    ∃ s, (clocked (Fin 1) syncEvent false 0).run (spuriousSchedule 0 .wait) = some s ∧
      ((clocked (Fin 1) syncEvent false 0).Guarded (InTime syncEvent) (spuriousSchedule 0 .wait) ↔
        (clocked (Fin 1) syncEvent false 0).Guarded (AtEntry syncEvent)
          (spuriousSchedule 0 .wait)) :=
  have hboth := deadlines_iff (Fin 1)
  ⟨⟨_, rfl, hboth.1 1 emptyQueue 0 (spuriousSchedule 0 .receive) _ rfl⟩,
    _, rfl, hboth.2 false 0 (spuriousSchedule 0 .wait) _ rfl⟩

/-- The second deadline of the wait is half a second too late. -/
theorem deadlines_late :
    ∃ s, (clocked (Fin 1) syncEvent false 0).run (spuriousSchedule 0 .wait ++ [.act (.test 0)]) =
        some s ∧
      ¬ (clocked (Fin 1) syncEvent false 0).Guarded (InTime syncEvent)
        (spuriousSchedule 0 .wait ++ [.act (.test 0)]) := by
  refine ⟨_, rfl, fun h => ?_⟩
  have hrun : ∃ s, (clocked (Fin 1) syncEvent false 0).run (spuriousSchedule 0 .wait) = some s ∧
      s.clock = 500000 ∧ s.entered 0 = 0 ∧ s.blockTime 0 = 1000 ∧
      s.base.pc 0 = .testing .wait ∧ s.base.obj = false := ⟨_, rfl, rfl, rfl, rfl, rfl, rfl⟩
  rcases hrun with ⟨s, hs, hclock, hentered, hblock, hpc, hobj⟩
  have hlate := ((System.guarded_concat _ hs).mp h).2 0 rfl ⟨.wait, hpc, by rw [hobj]; rfl⟩
  rw [hclock, hentered, hblock] at hlate
  exact absurd hlate (by decide)

end IotshdPal

end ProvisioningSdk
