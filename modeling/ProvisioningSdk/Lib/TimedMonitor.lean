import ProvisioningSdk.Lib.Monitor

/-!
# Monitors and the Clock

A monitor whose threads can see what time it is.

`Lib.Monitor` leaves open when a wait fails, so time plays no part in it. Here
the clock is an action of its own: it may go on between any two steps of the
threads, by any amount, and never goes back. Each call has a block time, and
the moment of its entry is remembered. Apart from that the steps are those of
the monitor.

What a call does with the clock is for the code to say. It can only do it where
it is about to go to sleep (`Sleeps`), and by then the clock shows at least the
moment of its entry (`entered_le_clock`).

## Main definitions

* `Clocked`: The state of a monitor, the clock, and the calls.
* `clocked`: The monitor with the clock.
* `Sleeps`: The next step of a thread is to wait.

## Theorems

* `entered_le_clock`: A call was entered in the past.
-/

namespace TimedWait

open Transition

variable {ι Op Res σ κ : Type*}

/-- The state of a monitor, the clock, and the moment and the block time of each
    thread's last call. -/
structure Clocked (ι Op Res σ κ : Type*) where
  base : State ι Op Res σ κ
  clock : Nat
  entered : ι → Nat
  blockTime : ι → Nat

/-- The clock goes on, a call is entered with its block time, or a thread takes
    another step. -/
inductive ClockedAct (ι Op Res : Type*)
  | tick (now : Nat)
  | enter (t : ι) (op : Op) (blockTime : Nat)
  | act (a : Act ι Op Res)

/-- The step is the entry into a call. -/
def Act.isCall : Act ι Op Res → Bool
  | .call _ _ => true
  | _ => false

/-- The thread has the mutex and finds its operation blocked, so that it will
    wait. -/
def Sleeps (M : Monitor Op Res σ κ) (s : Clocked ι Op Res σ κ) (t : ι) : Prop :=
  ∃ op, s.base.pc t = .testing op ∧ (M op).blocked s.base.obj = true

variable [DecidableEq ι] [DecidableEq κ] [DecidableEq Op] [DecidableEq Res]

/-- One step of the monitor with the clock. -/
def clockedStep (M : Monitor Op Res σ κ) (s : Clocked ι Op Res σ κ) :
    ClockedAct ι Op Res → Option (Clocked ι Op Res σ κ)
  | .tick now => if s.clock ≤ now then some { s with clock := now } else none
  | .enter t op blockTime =>
      (step M s.base (.call t op)).map (fun base =>
        { s with
          base := base
          entered := Function.update s.entered t s.clock
          blockTime := Function.update s.blockTime t blockTime })
  | .act a =>
      if a.isCall then none else (step M s.base a).map (fun base => { s with base := base })

/-- The monitor run by the threads `ι` from this time on. -/
def clocked (ι : Type*) [DecidableEq ι] (M : Monitor Op Res σ κ) (obj : σ) (start : Nat) :
    System (Clocked ι Op Res σ κ) (ClockedAct ι Op Res) where
  init :=
    { base := (threads ι M obj).init
      clock := start
      entered := fun _ => start
      blockTime := fun _ => 0 }
  step := clockedStep M

variable {M : Monitor Op Res σ κ} {obj : σ} {start : Nat}

/-- Every call was entered in the past. -/
theorem entered_le_clock {s : Clocked ι Op Res σ κ} (h : (clocked ι M obj start).Reachable s)
    (t : ι) : s.entered t ≤ s.clock := by
  refine (clocked ι M obj start).reachable_induction
    (P := fun s => s.entered t ≤ s.clock) (Nat.le_refl _) ?_ h
  intro s a s' _ hs hstep
  simp only [clocked] at hstep
  cases a with
  | tick now =>
      rw [clockedStep, Option.ite_none_right_eq_some] at hstep
      rw [← Option.some.inj hstep.2]
      exact Nat.le_trans hs hstep.1
  | enter u op blockTime =>
      rw [clockedStep, Option.map_eq_some_iff] at hstep
      rcases hstep with ⟨base, -, rfl⟩
      by_cases htu : t = u
      · subst htu
        simp only [Function.update_self]
        exact Nat.le_refl _
      · simp only [Function.update_of_ne htu]
        exact hs
  | act a =>
      rw [clockedStep, Option.ite_none_left_eq_some] at hstep
      rcases Option.map_eq_some_iff.mp hstep.2 with ⟨base, -, rfl⟩
      exact hs

end TimedWait
