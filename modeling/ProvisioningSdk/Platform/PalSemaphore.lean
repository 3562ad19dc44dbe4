import ProvisioningSdk.Lib.GivenUp
import ProvisioningSdk.Platform.PalEvent

/-!
# The Event as a Binary Semaphore

What `pal_event.c` is for: a set leaves one permit, a wait takes it.

`binarySemaphore` says so for one client, and `Pending` says it of a log of
calls: there is a set after which no wait has returned true. The event is the
atomic version of this object for any number of threads, so every schedule has
an order of its calls, each at a moment inside it, in which the log obeys the
laws of a semaphore.

A wait that times out may return false although the event was set meanwhile.
Its moment is the last test of the flag, and that test found the event clear.
A thread that tests a flag that is set does not sleep.

## Main definitions

* `binarySemaphore`: The object for one client.
* `Pending`: A permit is there.
* `SemaphoreLaws`: What holds of a log.

## Theorems

* `sequential_syncEvent`: The event's sequential behaviour is the semaphore's.
* `pending_iff`: The flag says whether a permit is there.
* `semaphoreLaws`: The laws hold of every log.
* `syncEvent_binarySemaphore`: All of it, for any number of threads.
-/

namespace ProvisioningSdk

namespace IotshdPal

open Transition Linearize TimedWait

/-- A semaphore with one permit, which a wait that returns true takes, and a set
    puts there. -/
def binarySemaphore : Sequential EventOp EventRes Bool where
  init := false
  apply := fun permit op res => match op, res with
    | .wait, .waited true => if permit then some false else none
    | .wait, .waited false => if permit then none else some permit
    | .set, .done => some true
    | _, _ => none

/-- A set after which no wait returned true. -/
def Pending (log : List (EventOp × EventRes)) : Prop :=
  ∃ before after, log = before ++ (.set, .done) :: after ∧ (.wait, .waited true) ∉ after

/-- A wait that returns true takes a permit and leaves none, and there is a set
    between it and the next. One that returns false takes none and found none. A
    permit makes the next wait return true. -/
structure SemaphoreLaws (log : List (EventOp × EventRes)) : Prop where
  takes : ∀ before after, log = before ++ (.wait, .waited true) :: after →
    Pending before ∧ ¬ Pending (before ++ [(.wait, .waited true)])
  between : ∀ before mid after,
    log = before ++ (.wait, .waited true) :: (mid ++ (.wait, .waited true) :: after) →
      (.set, .done) ∈ mid
  fails : ∀ before after, log = before ++ (.wait, .waited false) :: after →
    ¬ Pending before ∧ ¬ Pending (before ++ [(.wait, .waited false)])
  next : ∀ before res after, log = before ++ (.wait, res) :: after → Pending before →
    res = .waited true

/-! ### The log of a semaphore -/

theorem not_pending_nil : ¬ Pending [] := by
  rintro ⟨before, after, hlog, -⟩
  exact List.append_ne_nil_of_right_ne_nil before (List.cons_ne_nil _ after) hlog.symm

theorem pending_set (log : List (EventOp × EventRes)) : Pending (log ++ [(.set, .done)]) :=
  ⟨log, [], rfl, List.not_mem_nil⟩

/-- A wait that returned true leaves no permit. -/
theorem not_pending_taken (log : List (EventOp × EventRes)) :
    ¬ Pending (log ++ [(.wait, .waited true)]) := by
  rintro ⟨before, after, hlog, hnone⟩
  rcases List.eq_nil_or_concat after with rfl | ⟨rest, last, rfl⟩
  · have hlast := List.append_inj_right' hlog rfl
    cases hlast
  · rw [List.concat_eq_append] at hlog hnone
    rw [← List.cons_append, ← List.append_assoc] at hlog
    rw [← List.append_inj_right' hlog rfl] at hnone
    exact hnone (List.mem_append_right _ List.mem_cons_self)

/-- A wait that returned false changes nothing. -/
theorem pending_failed (log : List (EventOp × EventRes)) :
    Pending (log ++ [(.wait, .waited false)]) ↔ Pending log := by
  constructor
  · rintro ⟨before, after, hlog, hnone⟩
    rcases List.eq_nil_or_concat after with rfl | ⟨rest, last, rfl⟩
    · have hlast := List.append_inj_right' hlog rfl
      cases hlast
    · rw [List.concat_eq_append] at hlog hnone
      rw [← List.cons_append, ← List.append_assoc] at hlog
      refine ⟨before, rest, List.append_inj_left' hlog rfl, ?_⟩
      exact fun hin => hnone (List.mem_append_left _ hin)
  · rintro ⟨before, after, rfl, hnone⟩
    refine ⟨before, after ++ [(.wait, .waited false)], ?_, ?_⟩
    · rw [List.append_assoc, List.cons_append]
    · intro hin
      rcases List.mem_append.mp hin with hold | hnew
      · exact hnone hold
      · cases List.mem_singleton.mp hnew

/-- A call of the semaphore's client is one of three. -/
theorem binarySemaphore_cases {permit permit' : Bool} {a : EventOp × EventRes}
    (h : binarySemaphore.apply permit a.1 a.2 = some permit') :
    (a = (.wait, .waited true) ∧ permit = true ∧ permit' = false) ∨
      (a = (.wait, .waited false) ∧ permit = false ∧ permit' = false) ∨
      (a = (.set, .done) ∧ permit' = true) := by
  rcases a with ⟨op, res⟩
  cases op with
  | wait =>
      cases res with
      | waited ret => revert h; cases ret <;> cases permit <;> cases permit' <;> decide
      | done => cases h
  | set =>
      cases res with
      | waited ret => cases h
      | done =>
          cases h
          exact Or.inr (Or.inr ⟨rfl, rfl⟩)

/-- The flag says whether a permit is there. -/
theorem pending_iff (log : List (EventOp × EventRes)) (permit : Bool)
    (hrun : binarySemaphore.system.run log = some permit) : permit = true ↔ Pending log := by
  refine binarySemaphore.system.run_induction
    (P := fun log permit => permit = true ↔ Pending log) ?_ ?_ log permit hrun
  · exact ⟨fun h => absurd h (by decide), fun h => absurd h not_pending_nil⟩
  · intro log s a s' _ ih hs
    rcases binarySemaphore_cases hs with ⟨rfl, -, rfl⟩ | ⟨rfl, rfl, rfl⟩ | ⟨rfl, rfl⟩
    · exact ⟨fun h => absurd h (by decide), fun h => absurd h (not_pending_taken log)⟩
    · rw [pending_failed]
      exact ih
    · exact ⟨fun _ => pending_set log, fun _ => rfl⟩

/-- The flag before and after one call of a log. -/
theorem run_split {before after : List (EventOp × EventRes)} {a : EventOp × EventRes}
    {permit : Bool} (hrun : binarySemaphore.system.run (before ++ a :: after) = some permit) :
    ∃ s s', binarySemaphore.system.run before = some s ∧
      binarySemaphore.system.run (before ++ [a]) = some s' ∧
      binarySemaphore.apply s a.1 a.2 = some s' := by
  rw [← List.singleton_append, ← List.append_assoc, System.run_append,
    Option.bind_eq_some_iff] at hrun
  rcases hrun with ⟨s', hmid, -⟩
  rcases (System.run_concat _ before a s').mp hmid with ⟨s, hbefore, hstep⟩
  exact ⟨s, s', hbefore, hmid, hstep⟩

/-- The laws hold of every log. -/
theorem semaphoreLaws {log : List (EventOp × EventRes)} {permit : Bool}
    (hrun : binarySemaphore.system.run log = some permit) : SemaphoreLaws log := by
  have htakes : ∀ before after, log = before ++ (.wait, .waited true) :: after →
      Pending before ∧ ¬ Pending (before ++ [(.wait, .waited true)]) := by
    rintro before after rfl
    rcases run_split hrun with ⟨s, s', hbefore, -, hstep⟩
    refine ⟨(pending_iff before s hbefore).mp ?_, not_pending_taken before⟩
    cases s with
    | true => rfl
    | false => cases hstep
  refine ⟨htakes, ?_, ?_, ?_⟩
  · -- the second of two takes what was set after the first
    rintro before mid after hlog
    have hsecond := htakes (before ++ (.wait, .waited true) :: mid) after (by
      rw [hlog, List.append_assoc, List.cons_append])
    rcases hsecond.1 with ⟨front, back, hsplit, hnone⟩
    rw [List.append_eq_append_iff] at hsplit
    rcases hsplit with ⟨gap, -, hgap⟩ | ⟨gap, rfl, hgap⟩
    · -- the set comes after the first wait
      cases gap with
      | nil => cases hgap
      | cons a gap =>
          rw [List.cons_append, List.cons.injEq] at hgap
          rw [hgap.2]
          exact List.mem_append_right _ List.mem_cons_self
    · -- before it, the first wait would be in between
      cases gap with
      | nil => cases hgap
      | cons a gap =>
          rw [List.cons_append, List.cons.injEq] at hgap
          exact absurd (hgap.2 ▸ List.mem_append_right _ List.mem_cons_self) hnone
  · rintro before after rfl
    rcases run_split hrun with ⟨s, s', hbefore, -, hstep⟩
    have hclear : ¬ Pending before := by
      intro hpending
      rw [(pending_iff before s hbefore).mpr hpending] at hstep
      cases hstep
    exact ⟨hclear, fun hafter => hclear ((pending_failed before).mp hafter)⟩
  · rintro before res after rfl hpending
    rcases run_split hrun with ⟨s, s', hbefore, -, hstep⟩
    rw [(pending_iff before s hbefore).mpr hpending] at hstep
    rcases binarySemaphore_cases hstep with ⟨hwait, -, -⟩ | ⟨-, hpermit, -⟩ | ⟨hset, -⟩
    · exact (Prod.mk.inj hwait).2
    · cases hpermit
    · cases hset

/-! ### The event -/

/-- The sequential behaviour of the event is the semaphore's. -/
theorem sequential_syncEvent : sequential syncEvent false = binarySemaphore := by
  have happly : (sequential syncEvent false).apply = binarySemaphore.apply := by
    funext permit op res
    cases op with
    | wait =>
        cases res with
        | waited ret => cases permit <;> cases ret <;> rfl
        | done => cases permit <;> rfl
    | set =>
        cases res with
        | waited ret => rfl
        | done => rfl
  unfold sequential at happly ⊢
  unfold binarySemaphore at happly ⊢
  simp only at happly
  rw [happly]

section Threads

variable (ι : Type*) [DecidableEq ι]

/-- Any number of threads on a new event: some order of the calls, each at a
    moment inside it, is a log of the semaphore and obeys its laws. A thread
    about to return false had the event clear before it at some moment of its
    call. One that tests the flag while it is set does not sleep, and takes the
    permit. -/
theorem syncEvent_binarySemaphore (acts : List (Act ι EventOp EventRes))
    (st : TimedWait.State ι EventOp EventRes Bool EventCond)
    (hrun : (threads ι syncEvent false).run acts = some st) :
    (∃ lin final, (atomic ι binarySemaphore).run lin = some final ∧
        lin.filterMap Linearize.event = acts.filterMap TimedWait.event ∧ final.obj = st.obj ∧
        SemaphoreLaws (lin.filterMap commit)) ∧
      (∀ t, st.pc t = .returning .wait (.waited false) →
        ∃ before during rest s, acts = before ++ .call t .wait :: (during ++ rest) ∧
          (∀ a ∈ during ++ rest, ¬ a.Visible t) ∧
          (threads ι syncEvent false).run (before ++ .call t .wait :: during) = some s ∧
          s.obj = false) ∧
      (∀ t, st.pc t = .testing .wait → st.obj = true →
        ∃ st' st'', (threads ι syncEvent false).step st (.test t) = some st' ∧
          (threads ι syncEvent false).step st' (.body t) = some st'' ∧
          st''.pc t = .leaving .wait (.waited true) none ∧ st''.obj = false) := by
  refine ⟨?_, ?_, ?_⟩
  · rcases monitor_linearizable syncEvent false acts st hrun with ⟨lin, final, hlin, hevents, hobj⟩
    rw [sequential_syncEvent] at hlin
    exact ⟨lin, final, hlin, hevents, hobj, semaphoreLaws (run_commits _ lin final hlin)⟩
  · intro t hpc
    -- a wait that gives up found the event clear inside the call
    rcases foundBlocked_of_gaveUp hrun hpc (fun obj' hbody => by cases hbody) with
      ⟨before, during, rest, s, hacts, hduring, hmoment, hblocked⟩
    refine ⟨before, during, rest, s, hacts, hduring, hmoment, ?_⟩
    exact beq_iff_eq.mp hblocked
  · intro t hpc hset
    have hclear : ((syncEvent .wait).blocked st.obj) = false := by
      rw [hset]
      rfl
    -- the test passes, and the body clears the event
    have htest : TimedWait.step syncEvent st (.test t) =
        some (st.move t st.owner (.acting .wait)) := by
      simp only [TimedWait.step, hpc, hclear, Bool.false_eq_true, if_false]
    have hacting : (st.move t st.owner (.acting .wait)).pc t = .acting .wait :=
      move_pc_self st t _ _
    have hbody : TimedWait.step syncEvent (st.move t st.owner (.acting .wait)) (.body t) =
        some { (st.move t st.owner (.acting .wait)).move t st.owner
          (.leaving .wait (.waited true) none) with obj := false } := by
      simp only [TimedWait.step, hacting]
      rfl
    refine ⟨_, _, htest, hbody, ?_, rfl⟩
    exact move_pc_self (st.move t st.owner (.acting .wait)) t st.owner
      (.leaving .wait (.waited true) none)

/-- One thread sets the event while another, which found it clear, times out. -/
theorem syncEvent_binarySemaphore_late :
    ∃ st, (threads (Fin 2) syncEvent false).run
        [.call 0 .wait, .lock 0, .test 0, .call 1 .set, .lock 1, .test 1, .body 1, .unlock 1,
          .expire 0 110, .relock 0, .unlock 0] = some st ∧ st.obj = true ∧
      ∃ before during rest s, [Act.call 0 EventOp.wait, .lock 0, .test 0, .call 1 .set, .lock 1,
          .test 1, .body 1, .unlock 1, .expire 0 110, .relock 0, .unlock 0] =
          before ++ .call 0 .wait :: (during ++ rest) ∧
        (∀ a ∈ during ++ rest, ¬ a.Visible (0 : Fin 2)) ∧
        (threads (Fin 2) syncEvent false).run (before ++ .call 0 .wait :: during) = some s ∧
        s.obj = false := by
  refine ⟨_, rfl, rfl, ?_⟩
  exact (syncEvent_binarySemaphore (Fin 2) [.call 0 .wait, .lock 0, .test 0, .call 1 .set, .lock 1,
    .test 1, .body 1, .unlock 1, .expire 0 110, .relock 0, .unlock 0] _ rfl).2.1 0 rfl

end Threads

end IotshdPal

end ProvisioningSdk
