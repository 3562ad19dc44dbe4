import ProvisioningSdk.Lib.Transition
import ProvisioningSdk.Platform.PalEvent

/-!
# Waiting for a Completion

The two waits of `iotshdDev_MQTTAgentAddSubscription` and `RemoveSubscription`
beside the callback that sets the event, mutex call by mutex call.

`Agent.Commands` has a wait as one step, which says when it takes effect and not
when it gives up. Here the event is the monitor of `Platform.PalEvent`, run by
the thread that calls and the agent's thread. A call submits its command, waits
once with block time zero to get rid of an event that an earlier command left
behind, and waits again for its own. A wait is at its deadline when the monitor
takes an `expire` step; from then on it returns false whatever happens to the
event.

The two can only tell their own event from a stale one by when it is set. The
agent may be so fast that the command completes before the first wait has looked
at the event, and then it is that wait which gets the completion.

## Main definitions

* `CompletionState`, `completionWait`: The two threads.
* `CompletionKept`: The first wait leaves the own completion alone, and the
  second returns true if it is signalled in time.
* `SetsAfterDrain`: The condition on steps.
* `CompletionInv`: The invariant.

## Theorems

* `completionInv_step`: The invariant, for each kind of step.
* `completion_kept`: With the condition completions are kept.
-/

namespace ProvisioningSdk

namespace MqttAgent

open IotshdPal Transition TimedWait

/-- The two threads on a context. -/
inductive Party
  | caller
  | agent
  deriving DecidableEq, Repr

/-- How far the calling thread is in a call. -/
inductive CallerPc
  | idle
  | submitting (isPublish : Bool)
  /-- At the wait with block time zero, or in it. -/
  | draining (command : Nat)
  /-- At the wait for the callback, or in it. -/
  | waiting (isPublish : Bool) (command : Nat)
  | returning (retStatus : Bool)
  deriving DecidableEq, Repr

/-- The event of a context, run by the two threads. -/
abbrev EventState := TimedWait.State Party EventOp EventRes Bool EventCond

/-- A step of one of them in a call on the event. -/
abbrev EventAct := TimedWait.Act Party EventOp EventRes

/-- How far a thread is in a call on the event. -/
abbrev EventPc := TimedWait.Pc EventOp EventRes EventCond

/-- The two threads. `signalled` and `inTime` are not variables of the program:
    the commands the event was set for, and those for which it was set and
    signalled before the deadline of the wait for the callback. -/
structure CompletionState where
  event : EventState
  caller : CallerPc
  /-- The command whose callback the agent's thread is in. -/
  agent : Option Nat
  pending : Nat → Bool
  nextCommand : Nat
  signalled : Nat → Bool
  inTime : Nat → Bool

/-- One step of one thread. -/
inductive CompletionAct
  | call (isPublish : Bool)
  | submit (accepted : Bool)
  /-- The callback of a command starts. -/
  | callback (command : Nat)
  | event (act : EventAct)
  | ret

/-- The deadline of a wait has passed, or it has returned false already. -/
def EventPc.expired : EventPc → Bool
  | .woken _ err => err != 0
  | .leaving _ res _ => res == .waited false
  | .signalling _ res _ => res == .waited false
  | .returning _ res => res == .waited false
  | _ => false

namespace CompletionState

/-- Where a call on the event begins. -/
def begins (st : CompletionState) : EventAct → Bool
  | .call .caller .wait => match st.caller with
      | .draining _ => true
      | .waiting _ _ => true
      | _ => false
  | .call .agent .set => st.agent.isSome
  | .call _ _ => false
  | _ => true

/-- The wait for the callback of this command is not at its deadline. -/
def beforeDeadline (st : CompletionState) (id : Nat) : Bool :=
  match st.caller with
  | .draining n => n == id
  | .waiting _ n => n == id && !EventPc.expired (st.event.pc .caller)
  | _ => false

/-- The calling thread after a wait. -/
def afterWait (st : CompletionState) (res : EventRes) : CallerPc :=
  match st.caller with
  -- the result of the first wait is not looked at
  | .draining id => .waiting false id
  | .waiting _ _ => .returning (res == .waited true)
  | caller => caller

/-- What a step on the event is to the calls. -/
def after (st : CompletionState) (event : EventState) : EventAct → CompletionState
  | .body .agent =>
      { st with
        event := event
        signalled := st.agent.elim st.signalled (fun id => Function.update st.signalled id true) }
  | .broadcast .agent =>
      { st with
        event := event
        inTime := st.agent.elim st.inTime
          (fun id => Function.update st.inTime id (st.beforeDeadline id)) }
  | .ret .caller _ res => { st with event := event, caller := st.afterWait res }
  | .ret .agent _ _ =>
      { st with
        event := event
        agent := none
        pending := st.agent.elim st.pending (fun id => Function.update st.pending id false) }
  | _ => { st with event := event }

end CompletionState

/-- One step. -/
def completionStep (st : CompletionState) : CompletionAct → Option CompletionState
  | .call isPublish => match st.caller with
      | .idle => some { st with caller := .submitting isPublish }
      | _ => none
  | .submit accepted => match st.caller with
      | .submitting isPublish =>
          if accepted then
            some
              { st with
                caller :=
                  if isPublish then .waiting true st.nextCommand else .draining st.nextCommand
                pending := Function.update st.pending st.nextCommand true
                nextCommand := st.nextCommand + 1 }
          else some { st with caller := .returning false }
      | _ => none
  | .callback id =>
      if st.agent = none ∧ st.pending id = true then some { st with agent := some id } else none
  | .event act =>
      if st.begins act then (TimedWait.step syncEvent st.event act).map (fun e => st.after e act)
      else none
  | .ret => match st.caller with
      | .returning _ => some { st with caller := .idle }
      | _ => none

/-- The two threads on a context that was just made. -/
def completionWait : System CompletionState CompletionAct where
  init :=
    { event := (threads Party syncEvent false).init
      caller := .idle
      agent := none
      pending := fun _ => false
      nextCommand := 0
      signalled := fun _ => false
      inTime := fun _ => false }
  step := completionStep

/-! ### What is asked for -/

/-- The first wait does not take the event that was set for the command just
    submitted, and the second one returns true if that happens in time. -/
def CompletionKept (st : CompletionState) (act : CompletionAct) : Prop :=
  (∀ id, act = .event (.body .caller) → st.caller = .draining id → st.signalled id = false) ∧
    (∀ id ret, act = .event (.ret .caller .wait (.waited ret)) → st.caller = .waiting false id →
      st.inTime id = true → ret = true)

/-- A wait that has taken the event, or is to return without it. -/
def EventPc.decided : EventPc → Bool
  | .woken _ err => err != 0
  | .leaving _ _ _ => true
  | .signalling _ _ _ => true
  | .returning _ _ => true
  | _ => false

/-- The event is set for a command only when the first wait of its call is
    decided. -/
def SetsAfterDrain (st : CompletionState) (act : CompletionAct) : Prop :=
  ∀ id, act = .event (.body .agent) → st.agent = some id → st.caller = .draining id →
    EventPc.decided (st.event.pc .caller) = true

/-! ### The invariant -/

/-- The call on the event a thread is in. -/
def EventPc.op : EventPc → Option EventOp
  | .idle => none
  | .entered op => some op
  | .testing op => some op
  | .acting op => some op
  | .waiting op => some op
  | .woken op _ => some op
  | .leaving op _ _ => some op
  | .signalling op _ _ => some op
  | .returning op _ => some op

/-- The call has its result. -/
def EventPc.finishing : EventPc → Bool
  | .leaving _ _ _ => true
  | .signalling _ _ _ => true
  | .returning _ _ => true
  | _ => false

/-- The thread sleeps on the condition variable. -/
def EventPc.asleep : EventPc → Bool
  | .waiting _ => true
  | _ => false

/-- The thread has gone to sleep in this call and has not got the mutex back. -/
def EventPc.slept : EventPc → Bool
  | .waiting _ => true
  | .woken _ _ => true
  | _ => false

/-- The command whose completion the calling thread is to wait for. -/
def CallerPc.awaits : CallerPc → Option Nat
  | .draining id => some id
  | .waiting _ id => some id
  | _ => none

/-- What the two threads can count on. -/
structure CompletionInv (st : CompletionState) : Prop where
  callerOp : ∀ op, EventPc.op (st.event.pc .caller) = some op → op = .wait
  agentOp : ∀ op, EventPc.op (st.event.pc .agent) = some op →
    op = .set ∧ ∃ id, st.agent = some id
  awake : EventPc.slept (st.event.pc .agent) = false
  known : ∀ id, (st.pending id = true ∨ st.agent = some id ∨ st.signalled id = true ∨
    st.inTime id = true) → id < st.nextCommand
  set : EventPc.finishing (st.event.pc .agent) = true →
    ∃ id, st.agent = some id ∧ st.signalled id = true
  timely : ∀ id, st.inTime id = true → st.signalled id = true
  /-- The first wait has not looked at the event for the last time. -/
  undecided : ∀ id, st.caller = .draining id → EventPc.decided (st.event.pc .caller) = false →
    st.signalled id = false
  /-- The event stays set until the second wait takes it. -/
  kept : ∀ id, st.caller.awaits = some id → st.signalled id = true → st.event.obj = true ∨
    (∃ isPublish, st.caller = .waiting isPublish id) ∧
      EventPc.finishing (st.event.pc .caller) = true
  onTime : ∀ isPublish id, st.caller = .waiting isPublish id → st.inTime id = true →
    EventPc.asleep (st.event.pc .caller) = false ∧ EventPc.expired (st.event.pc .caller) = false

section Notify

theorem op_notify (c : EventCond) (p : EventPc) :
    EventPc.op (notify syncEvent c p) = EventPc.op p := by
  cases p with
  | waiting op => cases op <;> cases c <;> rfl
  | _ => rfl

theorem finishing_notify (c : EventCond) (p : EventPc) :
    EventPc.finishing (notify syncEvent c p) = EventPc.finishing p := by
  cases p with
  | waiting op => cases op <;> cases c <;> rfl
  | _ => rfl

theorem decided_notify (c : EventCond) (p : EventPc) :
    EventPc.decided (notify syncEvent c p) = EventPc.decided p := by
  cases p with
  | waiting op => cases op <;> cases c <;> rfl
  | _ => rfl

theorem expired_notify (c : EventCond) (p : EventPc) :
    EventPc.expired (notify syncEvent c p) = EventPc.expired p := by
  cases p with
  | waiting op => cases op <;> cases c <;> rfl
  | _ => rfl

/-- There is one condition variable, so a broadcast leaves nobody asleep. -/
theorem asleep_notify (c : EventCond) (p : EventPc) :
    EventPc.asleep (notify syncEvent c p) = false := by
  cases p with
  | waiting op => cases op <;> cases c <;> rfl
  | _ => rfl

end Notify

/-- A step of the calling thread inside a wait. -/
theorem CompletionInv.caller {st : CompletionState} (h : CompletionInv st) (event : EventState)
    (hagent : event.pc .agent = st.event.pc .agent)
    (hop : ∀ op, EventPc.op (event.pc .caller) = some op → op = .wait)
    (hundecided : EventPc.decided (event.pc .caller) = false →
      EventPc.decided (st.event.pc .caller) = false)
    (hkept : st.event.obj = true → event.obj = true)
    (hdone : EventPc.finishing (st.event.pc .caller) = true →
      EventPc.finishing (event.pc .caller) = true)
    (htime : ∀ isPublish id, st.caller = .waiting isPublish id → st.inTime id = true →
      EventPc.asleep (event.pc .caller) = false ∧ EventPc.expired (event.pc .caller) = false) :
    CompletionInv { st with event := event } where
  callerOp := hop
  agentOp := by
    rw [hagent]
    exact h.agentOp
  awake := by
    rw [hagent]
    exact h.awake
  known := h.known
  set := by
    rw [hagent]
    exact h.set
  timely := h.timely
  undecided := fun id hid hd => h.undecided id hid (hundecided hd)
  kept := fun id hid hs => (h.kept id hid hs).imp hkept (fun hw => ⟨hw.1, hdone hw.2⟩)
  onTime := htime

/-- A step of the agent's thread inside a call that changes nothing but its
    place. -/
theorem CompletionInv.agent {st : CompletionState} (h : CompletionInv st) (event : EventState)
    (hcaller : event.pc .caller = st.event.pc .caller) (hobj : event.obj = st.event.obj)
    (hop : ∀ op, EventPc.op (event.pc .agent) = some op → op = .set ∧ ∃ id, st.agent = some id)
    (hawake : EventPc.slept (event.pc .agent) = false)
    (hfinishing : EventPc.finishing (event.pc .agent) = true →
      EventPc.finishing (st.event.pc .agent) = true) :
    CompletionInv { st with event := event } where
  callerOp := by
    rw [hcaller]
    exact h.callerOp
  agentOp := hop
  awake := hawake
  known := h.known
  set := fun hf => h.set (hfinishing hf)
  timely := h.timely
  undecided := by
    rw [hcaller]
    exact h.undecided
  kept := by
    rw [hcaller, hobj]
    exact h.kept
  onTime := by
    rw [hcaller]
    exact h.onTime

/-- A step of one thread leaves the other where it is. -/
theorem move_agent (s : EventState) (o : Option Party) (p : EventPc) :
    (s.move .caller o p).pc .agent = s.pc .agent :=
  move_pc_other s .caller .agent o p (by decide)

theorem move_caller (s : EventState) (o : Option Party) (p : EventPc) :
    (s.move .agent o p).pc .caller = s.pc .caller :=
  move_pc_other s .agent .caller o p (by decide)

/-- The calling thread moves to another place of the same wait, without going to
    sleep, giving up, or being done. -/
theorem CompletionInv.callerMove {st : CompletionState} (h : CompletionInv st) (o : Option Party)
    (p : EventPc) (hop : ∀ op, EventPc.op p = some op → op = .wait)
    (hundecided : EventPc.decided p = false → EventPc.decided (st.event.pc .caller) = false)
    (hdone : EventPc.finishing (st.event.pc .caller) = true → EventPc.finishing p = true)
    (htime : ∀ isPublish id, st.caller = .waiting isPublish id → st.inTime id = true →
      EventPc.asleep p = false ∧ EventPc.expired p = false) :
    CompletionInv { st with event := st.event.move .caller o p } := by
  refine h.caller _ (move_agent _ _ _) ?_ ?_ id ?_ ?_
  · rw [move_pc_self]
    exact hop
  · rw [move_pc_self]
    exact hundecided
  · rw [move_pc_self]
    exact hdone
  · rw [move_pc_self]
    exact htime

theorem CompletionInv.agentMove {st : CompletionState} (h : CompletionInv st) (o : Option Party)
    (p : EventPc) (hop : ∀ op, EventPc.op p = some op → op = .set ∧ ∃ id, st.agent = some id)
    (hawake : EventPc.slept p = false)
    (hfinishing : EventPc.finishing p = true → EventPc.finishing (st.event.pc .agent) = true) :
    CompletionInv { st with event := st.event.move .agent o p } := by
  refine h.agent _ (move_caller _ _ _) rfl ?_ ?_ ?_
  · rw [move_pc_self]
    exact hop
  · rw [move_pc_self]
    exact hawake
  · rw [move_pc_self]
    exact hfinishing

/-- The event is taken, by the second wait or before it was set for the
    command. -/
theorem completionInv_take {st : CompletionState} (h : CompletionInv st) (op : EventOp)
    (hpc : st.event.pc .caller = .acting op) :
    CompletionInv { st with
      event := { st.event.move .caller st.event.owner
        (.leaving op ((syncEvent op).body st.event.obj).2 (syncEvent op).signals) with
          obj := ((syncEvent op).body st.event.obj).1 } } := by
  obtain rfl := h.callerOp op (by rw [hpc]; rfl)
  have hagent := move_agent st.event st.event.owner (.leaving .wait (.waited true) none)
  refine ⟨?_, ?_, ?_, h.known, ?_, h.timely, ?_, ?_, ?_⟩
  · intro op hop
    simp only [move_pc_self] at hop
    cases hop
    rfl
  · exact hagent ▸ h.agentOp
  · exact hagent ▸ h.awake
  · exact hagent ▸ h.set
  · intro id hid hundecided
    simp only [move_pc_self] at hundecided
    cases hundecided
  · intro id hid hs
    cases hcaller : st.caller with
    | draining n =>
        -- a wait that is about to take the event has not decided yet
        have hn : n = id := by
          simp only [hcaller, CallerPc.awaits, Option.some.injEq] at hid
          exact hid
        have hnot := h.undecided id (hn ▸ hcaller) (by rw [hpc]; rfl)
        rw [hs] at hnot
        cases hnot
    | waiting isPublish n =>
        have hn : n = id := by
          simp only [hcaller, CallerPc.awaits, Option.some.injEq] at hid
          exact hid
        refine Or.inr ⟨⟨isPublish, hn ▸ rfl⟩, ?_⟩
        simp only [move_pc_self]
        rfl
    | _ =>
        simp only [hcaller, CallerPc.awaits] at hid
        cases hid
  · intro isPublish id _ _
    simp only [move_pc_self]
    exact ⟨rfl, rfl⟩

/-- The event is set, for the command whose callback the agent is in. -/
theorem completionInv_set {st : CompletionState} (h : CompletionInv st) (op : EventOp)
    (hpc : st.event.pc .agent = .acting op)
    (hguard : SetsAfterDrain st (.event (.body .agent))) :
    CompletionInv (st.after { st.event.move .agent st.event.owner
      (.leaving op ((syncEvent op).body st.event.obj).2 (syncEvent op).signals) with
        obj := ((syncEvent op).body st.event.obj).1 } (.body .agent)) := by
  rcases h.agentOp op (by rw [hpc]; rfl) with ⟨rfl, id, hid⟩
  have hcaller := move_caller st.event st.event.owner (.leaving .set .done (some .cond))
  -- what was signalled stays so
  have hsignalled : ∀ n, st.signalled n = true → Function.update st.signalled id true n = true := by
    intro n hn
    by_cases hni : n = id
    · rw [hni, Function.update_self]
    · rw [Function.update_of_ne hni]
      exact hn
  simp only [CompletionState.after, hid, Option.elim_some]
  refine ⟨?_, ?_, ?_, ?_, ?_, ?_, ?_, ?_, ?_⟩
  · exact hcaller ▸ h.callerOp
  · intro op hop
    simp only [move_pc_self] at hop
    cases hop
    exact ⟨rfl, id, rfl⟩
  · simp only [move_pc_self]
    rfl
  · -- the commands that are known are the same
    intro n hn
    rcases hn with hp | ha | hs | ht
    · exact h.known n (Or.inl hp)
    · exact h.known n (Or.inr (Or.inl (hid.trans ha)))
    · by_cases hni : n = id
      · exact h.known n (Or.inr (Or.inl (hni ▸ hid)))
      · simp only [Function.update_of_ne hni] at hs
        exact h.known n (Or.inr (Or.inr (Or.inl hs)))
    · exact h.known n (Or.inr (Or.inr (Or.inr ht)))
  · exact fun _ => ⟨id, rfl, Function.update_self _ _ _⟩
  · exact fun n hn => hsignalled n (h.timely n hn)
  · intro n hn hundecided
    have hundecided' : EventPc.decided (st.event.pc .caller) = false := hcaller ▸ hundecided
    by_cases hni : n = id
    · -- the condition: the first wait of this command's call is decided
      have hdecided := hguard n rfl (hni ▸ hid) hn
      rw [hdecided] at hundecided'
      cases hundecided'
    · simp only [Function.update_of_ne hni]
      exact h.undecided n hn hundecided'
  · -- the event is set now
    exact fun _ _ _ => Or.inl rfl
  · intro isPublish n hn ht
    have htime := h.onTime isPublish n hn ht
    exact hcaller ▸ htime

/-- The setting of the event is signalled, and whoever slept on it is awake. -/
theorem completionInv_signal {st : CompletionState} (h : CompletionInv st) (op : EventOp)
    (res : EventRes) (c : EventCond) (hpc : st.event.pc .agent = .signalling op res c) :
    CompletionInv (st.after { st.event with
      pc := Function.update (fun u => notify syncEvent c (st.event.pc u)) .agent
        (.returning op res) } (.broadcast .agent)) := by
  rcases h.agentOp op (by rw [hpc]; rfl) with ⟨rfl, id, hid⟩
  rcases h.set (by rw [hpc]; rfl) with ⟨id', hid', hs⟩
  obtain rfl : id = id' := by
    rw [hid] at hid'
    exact Option.some.inj hid'
  have hne : Party.caller ≠ Party.agent := by decide
  simp only [CompletionState.after, hid, Option.elim_some]
  -- a broadcast moves the other thread only from sleep to the relocking
  refine ⟨?_, ?_, ?_, ?_, ?_, ?_, ?_, ?_, ?_⟩
  · intro op hop
    simp only [Function.update_of_ne hne, op_notify] at hop
    exact h.callerOp op hop
  · intro op hop
    simp only [Function.update_self] at hop
    cases hop
    exact ⟨rfl, id, rfl⟩
  · simp only [Function.update_self]
    rfl
  · -- the command that is signalled in time is the one of the callback
    intro n hn
    rcases hn with hp | ha | hs' | ht
    · exact h.known n (Or.inl hp)
    · exact h.known n (Or.inr (Or.inl (hid.trans ha)))
    · exact h.known n (Or.inr (Or.inr (Or.inl hs')))
    · by_cases hni : n = id
      · exact h.known n (Or.inr (Or.inl (hni ▸ hid)))
      · simp only [Function.update_of_ne hni] at ht
        exact h.known n (Or.inr (Or.inr (Or.inr ht)))
  · exact fun _ => ⟨id, rfl, hs⟩
  · intro n hn
    by_cases hni : n = id
    · exact hni ▸ hs
    · simp only [Function.update_of_ne hni] at hn
      exact h.timely n hn
  · intro n hn hundecided
    simp only [Function.update_of_ne hne, decided_notify] at hundecided
    exact h.undecided n hn hundecided
  · intro n hn hs'
    simp only [Function.update_of_ne hne, finishing_notify]
    exact h.kept n hn hs'
  · intro isPublish n hn ht
    simp only [Function.update_of_ne hne, asleep_notify, expired_notify, true_and]
    by_cases hni : n = id
    · -- in time means that the wait had not expired
      subst hni
      have hn' : st.caller = .waiting isPublish n := hn
      simp only [Function.update_self, CompletionState.beforeDeadline, hn', Bool.and_eq_true,
        Bool.not_eq_true'] at ht
      exact ht.2
    · simp only [Function.update_of_ne hni] at ht
      exact (h.onTime isPublish n hn ht).2

/-- A wait returns to its call. -/
theorem completionInv_callerRet {st : CompletionState} (h : CompletionInv st) (op : EventOp)
    (res : EventRes) :
    CompletionInv (st.after (st.event.move .caller st.event.owner .idle)
      (.ret .caller op res)) := by
  have hagent := move_agent st.event st.event.owner .idle
  -- only a first wait leaves its call with something to wait for
  have hawaits : ∀ id, (st.afterWait res).awaits = some id →
      st.caller = .draining id ∧ st.afterWait res = .waiting false id := by
    intro id hid
    unfold CompletionState.afterWait at hid ⊢
    cases hcaller : st.caller with
    | draining n =>
        simp only [hcaller, CallerPc.awaits, Option.some.injEq] at hid
        exact ⟨by rw [hid], by rw [hid]⟩
    | _ =>
        simp only [hcaller, CallerPc.awaits] at hid
        cases hid
  simp only [CompletionState.after]
  refine ⟨?_, ?_, ?_, h.known, ?_, h.timely, ?_, ?_, ?_⟩
  · intro op hop
    rw [move_pc_self] at hop
    cases hop
  · exact hagent ▸ h.agentOp
  · exact hagent ▸ h.awake
  · exact hagent ▸ h.set
  · intro id hid
    have hid' : st.afterWait res = .draining id := hid
    have hwaiting := (hawaits id (by rw [hid']; rfl)).2
    rw [hid'] at hwaiting
    cases hwaiting
  · intro id hid hs
    have hdraining := (hawaits id hid).1
    rcases h.kept id (by rw [hdraining]; rfl) hs with hobj | ⟨⟨isPublish, hwaiting⟩, -⟩
    · exact Or.inl hobj
    · rw [hdraining] at hwaiting
      cases hwaiting
  · intro isPublish id _ _
    rw [move_pc_self]
    exact ⟨rfl, rfl⟩

/-- The callback is over. -/
theorem completionInv_agentRet {st : CompletionState} (h : CompletionInv st) (op : EventOp)
    (res : EventRes) :
    CompletionInv (st.after (st.event.move .agent st.event.owner .idle) (.ret .agent op res)) := by
  have hcaller := move_caller st.event st.event.owner .idle
  -- the command of the callback is pending no more
  have hpending : ∀ n, (st.agent.elim st.pending
      (fun id => Function.update st.pending id false)) n = true → st.pending n = true := by
    intro n hn
    cases hagent : st.agent with
    | none =>
        rw [hagent] at hn
        exact hn
    | some id =>
        rw [hagent, Option.elim_some] at hn
        by_cases hni : n = id
        · rw [hni, Function.update_self] at hn
          cases hn
        · rw [Function.update_of_ne hni] at hn
          exact hn
  simp only [CompletionState.after]
  refine ⟨?_, ?_, ?_, ?_, ?_, h.timely, ?_, ?_, ?_⟩
  · exact hcaller ▸ h.callerOp
  · intro op hop
    rw [move_pc_self] at hop
    cases hop
  · rw [move_pc_self]
    rfl
  · intro n hn
    rcases hn with hp | ha | hs
    · exact h.known n (Or.inl (hpending n hp))
    · cases ha
    · exact h.known n (Or.inr (Or.inr hs))
  · intro hf
    rw [move_pc_self] at hf
    cases hf
  · exact hcaller ▸ h.undecided
  · exact hcaller ▸ h.kept
  · exact hcaller ▸ h.onTime

/-- Nobody asleep, a broadcast leaves a thread where it is. -/
theorem notify_awake (c : EventCond) {p : EventPc} (h : EventPc.slept p = false) :
    notify syncEvent c p = p := by
  cases p with
  | waiting op => cases h
  | _ => rfl

/-- An event that was signalled in time is there to be found. -/
theorem CompletionInv.found {st : CompletionState} (h : CompletionInv st) {isPublish : Bool}
    {id : Nat} (hcaller : st.caller = .waiting isPublish id) (htime : st.inTime id = true)
    (hpc : EventPc.finishing (st.event.pc .caller) = false) : st.event.obj = true := by
  rcases h.kept id (by rw [hcaller]; rfl) (h.timely id htime) with hobj | ⟨-, hfinishing⟩
  · exact hobj
  · rw [hpc] at hfinishing
    cases hfinishing

/-- A step of the calling thread in a wait, by the way it takes through the
    code. -/
theorem completionInv_wait {st : CompletionState} (h : CompletionInv st) {act : EventAct}
    {event : EventState} (hbegins : st.begins act = true)
    (hsteps : Steps syncEvent st.event act event) (hact : act.thread = .caller) :
    CompletionInv (st.after event act) := by
  have hop : ∀ {op : EventOp}, EventPc.op (st.event.pc .caller) = some op →
      ∀ op', some op = some op' → op' = .wait :=
    fun hp op' he => h.callerOp op' (hp.trans he)
  -- the places of a wait, from its call on
  cases hsteps with
  -- before the test nothing is decided, and the thread does not sleep
  | call t op hpc =>
      obtain rfl : t = .caller := hact
      cases op with
      | set => cases hbegins
      | wait =>
          refine h.callerMove _ _ ?_ (fun _ => by rw [hpc]; rfl) ?_ (fun _ _ _ _ => ⟨rfl, rfl⟩)
          · exact fun _ hp => (Option.some.inj hp).symm
          · rw [hpc]
            exact fun hf => by cases hf
  | lock t op hpc ho =>
      obtain rfl : t = .caller := hact
      refine h.callerMove _ _ (hop (by rw [hpc]; rfl)) (fun _ => by rw [hpc]; rfl) ?_
        (fun _ _ _ _ => ⟨rfl, rfl⟩)
      rw [hpc]
      exact fun hf => by cases hf
  -- the test, which sends it to sleep or on
  | testBlocked t op hpc hb =>
      obtain rfl : t = .caller := hact
      obtain rfl := h.callerOp op (by rw [hpc]; rfl)
      refine h.callerMove _ _ (hop (by rw [hpc]; rfl)) (fun _ => by rw [hpc]; rfl) ?_ ?_
      · rw [hpc]
        exact fun hf => by cases hf
      · -- an event that was signalled in time would not have blocked it
        intro isPublish id hcaller htime
        have hobj := h.found hcaller htime (by rw [hpc]; rfl)
        rw [hobj] at hb
        cases hb
  | testClear t op hpc hb =>
      obtain rfl : t = .caller := hact
      refine h.callerMove _ _ (hop (by rw [hpc]; rfl)) (fun _ => by rw [hpc]; rfl) ?_
        (fun _ _ _ _ => ⟨rfl, rfl⟩)
      rw [hpc]
      exact fun hf => by cases hf
  | body t op hpc =>
      obtain rfl : t = .caller := hact
      exact completionInv_take h op hpc
  -- awake again, by a signal or by the timeout
  | wake t op hpc =>
      obtain rfl : t = .caller := hact
      refine h.callerMove _ _ (hop (by rw [hpc]; rfl)) (fun _ => by rw [hpc]; rfl) ?_
        (fun _ _ _ _ => ⟨rfl, rfl⟩)
      rw [hpc]
      exact fun hf => by cases hf
  | expire t op err hpc he =>
      obtain rfl : t = .caller := hact
      refine h.callerMove _ _ (hop (by rw [hpc]; rfl)) (fun _ => by rw [hpc]; rfl) ?_ ?_
      · rw [hpc]
        exact fun hf => by cases hf
      · -- the broadcast would have woken it
        intro isPublish id hcaller htime
        have hasleep := (h.onTime isPublish id hcaller htime).1
        rw [hpc] at hasleep
        cases hasleep
  | relockClean t op hpc ho =>
      obtain rfl : t = .caller := hact
      refine h.callerMove _ _ (hop (by rw [hpc]; rfl)) (fun _ => by rw [hpc]; rfl) ?_
        (fun _ _ _ _ => ⟨rfl, rfl⟩)
      rw [hpc]
      exact fun hf => by cases hf
  -- only a wait that expired gives up
  | relockFailed t op err hpc he ho =>
      obtain rfl : t = .caller := hact
      refine h.callerMove _ _ (hop (by rw [hpc]; rfl)) (fun hd => by cases hd) (fun _ => rfl) ?_
      intro isPublish id hcaller htime
      have hexpired := (h.onTime isPublish id hcaller htime).2
      rw [hpc] at hexpired
      exact absurd (by simpa only [EventPc.expired, bne_eq_false_iff_eq] using hexpired) he
  -- what was decided stays decided on the way out
  | unlock t op res c hpc =>
      obtain rfl : t = .caller := hact
      have hplace : EventPc.op (afterUnlock op res c) = some op ∧
          EventPc.decided (afterUnlock op res c) = true ∧
          EventPc.finishing (afterUnlock op res c) = true ∧
          EventPc.asleep (afterUnlock op res c) = false ∧
          EventPc.expired (afterUnlock op res c) = EventPc.expired (.leaving op res c) := by
        cases c with
        | none => exact ⟨rfl, rfl, rfl, rfl, rfl⟩
        | some c => exact ⟨rfl, rfl, rfl, rfl, rfl⟩
      rcases hplace with ⟨hp, hdecided, hfinishing, hasleep, hexpired⟩
      refine h.callerMove _ _ ?_ (fun hd => ?_) (fun _ => hfinishing) ?_
      · rw [hp]
        exact hop (by rw [hpc]; rfl)
      · rw [hdecided] at hd
        cases hd
      · intro isPublish id hcaller htime
        rw [hasleep, hexpired, ← hpc]
        exact ⟨rfl, (h.onTime isPublish id hcaller htime).2⟩
  | broadcast t op res c hpc =>
      obtain rfl : t = .caller := hact
      -- a wait has nobody to signal, and the agent sleeps on nothing
      have hne : Party.agent ≠ Party.caller := by decide
      refine h.caller _ ?_ ?_ ?_ id ?_ ?_
      · simp only [Function.update_of_ne hne, notify_awake c h.awake]
      · simp only [Function.update_self]
        exact hop (by rw [hpc]; rfl)
      · simp only [Function.update_self]
        exact fun hd => by cases hd
      · simp only [Function.update_self]
        exact fun _ => rfl
      · intro isPublish id hcaller htime
        simp only [Function.update_self]
        have hexpired := (h.onTime isPublish id hcaller htime).2
        rw [hpc] at hexpired
        exact ⟨rfl, hexpired⟩
  | ret t op res hpc =>
      obtain rfl : t = .caller := hact
      exact completionInv_callerRet h op res

/-- A step of the agent's thread in the callback. -/
theorem completionInv_callback {st : CompletionState} (h : CompletionInv st) {act : EventAct}
    {event : EventState} (hbegins : st.begins act = true)
    (hsteps : Steps syncEvent st.event act event) (hact : act.thread = .agent)
    (hguard : SetsAfterDrain st (.event act)) : CompletionInv (st.after event act) := by
  have hop : ∀ {op : EventOp}, EventPc.op (st.event.pc .agent) = some op →
      ∀ op', some op = some op' → op' = .set ∧ ∃ id, st.agent = some id :=
    fun hp op' he => h.agentOp op' (hp.trans he)
  have hawake : ∀ {p : EventPc}, st.event.pc .agent = p → EventPc.slept p = false :=
    fun hpc => hpc ▸ h.awake
  -- the agent sets the event, and never waits for it
  cases hsteps with
  | call t op hpc =>
      obtain rfl : t = .agent := hact
      cases op with
      | wait => cases hbegins
      | set =>
          refine h.agentMove _ _ ?_ rfl (fun hf => by cases hf)
          exact fun _ hp => ⟨(Option.some.inj hp).symm, Option.isSome_iff_exists.mp hbegins⟩
  | lock t op hpc ho =>
      obtain rfl : t = .agent := hact
      exact h.agentMove _ _ (hop (by rw [hpc]; rfl)) rfl (fun hf => by cases hf)
  | testBlocked t op hpc hb =>
      obtain rfl : t = .agent := hact
      rcases h.agentOp op (by rw [hpc]; rfl) with ⟨rfl, -⟩
      cases hb
  | testClear t op hpc hb =>
      obtain rfl : t = .agent := hact
      exact h.agentMove _ _ (hop (by rw [hpc]; rfl)) rfl (fun hf => by cases hf)
  -- the two steps that the other thread sees
  | body t op hpc =>
      obtain rfl : t = .agent := hact
      exact completionInv_set h op hpc hguard
  -- a set does not sleep, so there is nothing to wake from
  | wake t op hpc =>
      obtain rfl : t = .agent := hact
      cases hawake hpc
  | expire t op err hpc he =>
      obtain rfl : t = .agent := hact
      cases hawake hpc
  | relockClean t op hpc ho =>
      obtain rfl : t = .agent := hact
      cases hawake hpc
  | relockFailed t op err hpc he ho =>
      obtain rfl : t = .agent := hact
      cases hawake hpc
  | unlock t op res c hpc =>
      obtain rfl : t = .agent := hact
      refine h.agentMove _ _ ?_ ?_ (fun _ => by rw [hpc]; rfl)
      · cases c with
        | none => exact hop (by rw [hpc]; rfl)
        | some c => exact hop (by rw [hpc]; rfl)
      · cases c with
        | none => rfl
        | some c => rfl
  | broadcast t op res c hpc =>
      obtain rfl : t = .agent := hact
      exact completionInv_signal h op res c hpc
  | ret t op res hpc =>
      obtain rfl : t = .agent := hact
      exact completionInv_agentRet h op res

/-- A call with nothing to wait for. -/
theorem CompletionInv.goto {st : CompletionState} (h : CompletionInv st) (caller : CallerPc)
    (hawaits : caller.awaits = none) : CompletionInv { st with caller := caller } where
  callerOp := h.callerOp
  agentOp := h.agentOp
  awake := h.awake
  known := h.known
  set := h.set
  timely := h.timely
  undecided := by
    rintro id rfl
    cases hawaits
  kept := by
    intro id hid
    simp only at hid
    rw [hawaits] at hid
    cases hid
  onTime := by
    rintro isPublish id rfl
    cases hawaits

/-- A command nobody knew before. -/
theorem completionInv_submit {st : CompletionState} (h : CompletionInv st) (isPublish : Bool) :
    CompletionInv { st with
      caller := if isPublish then .waiting true st.nextCommand else .draining st.nextCommand
      pending := Function.update st.pending st.nextCommand true
      nextCommand := st.nextCommand + 1 } := by
  -- the new command has no callback yet
  have hfresh : st.signalled st.nextCommand = false := by
    by_contra hs
    have hlt := h.known st.nextCommand (Or.inr (Or.inr (Or.inl (by simpa using hs))))
    omega
  -- the caller waits for none but the new one
  have hnext : ∀ id, CallerPc.awaits (if isPublish then .waiting true st.nextCommand
      else .draining st.nextCommand) = some id → id = st.nextCommand := by
    intro id hid
    cases isPublish with
    | true => exact (Option.some.inj hid).symm
    | false => exact (Option.some.inj hid).symm
  have hunsignalled : ∀ id, CallerPc.awaits (if isPublish then .waiting true st.nextCommand
      else .draining st.nextCommand) = some id → st.signalled id = false := by
    intro id hid
    rw [hnext id hid]
    exact hfresh
  refine ⟨h.callerOp, h.agentOp, h.awake, ?_, h.set, h.timely, ?_, ?_, ?_⟩
  · intro n hn
    rcases hn with hp | hrest
    · by_cases hnn : n = st.nextCommand
      · simp only [hnn]
        omega
      · simp only [Function.update_of_ne hnn] at hp
        have hlt := h.known n (Or.inl hp)
        simp only
        omega
    · have hlt := h.known n (Or.inr hrest)
      simp only
      omega
  · intro id hid _
    exact hunsignalled id (by simp only at hid; rw [hid]; rfl)
  · intro id hid hs
    rw [hunsignalled id hid] at hs
    cases hs
  · intro isPublish' id hid htime
    have hs := hunsignalled id (by simp only at hid; rw [hid]; rfl)
    rw [h.timely id htime] at hs
    cases hs

/-- The agent's thread enters a callback. -/
theorem completionInv_start {st : CompletionState} (h : CompletionInv st) {id : Nat}
    (hagent : st.agent = none) (hpending : st.pending id = true) :
    CompletionInv { st with agent := some id } where
  callerOp := h.callerOp
  agentOp := fun op hop => ⟨(h.agentOp op hop).1, id, rfl⟩
  awake := h.awake
  known := by
    intro n hn
    rcases hn with hp | ha | hrest
    · exact h.known n (Or.inl hp)
    · obtain rfl : id = n := Option.some.inj ha
      exact h.known id (Or.inl hpending)
    · exact h.known n (Or.inr (Or.inr hrest))
  set := by
    intro hfinishing
    rcases h.set hfinishing with ⟨n, hn, -⟩
    rw [hagent] at hn
    cases hn
  timely := h.timely
  undecided := h.undecided
  kept := h.kept
  onTime := h.onTime

/-- The invariant, for each kind of step. -/
theorem completionInv_step {st st' : CompletionState} {act : CompletionAct}
    (h : CompletionInv st) (hguard : SetsAfterDrain st act)
    (hstep : completionStep st act = some st') : CompletionInv st' := by
  cases act with
  | call isPublish =>
      simp only [completionStep] at hstep
      split at hstep
      · cases hstep
        exact h.goto _ rfl
      · cases hstep
  | submit accepted =>
      simp only [completionStep] at hstep
      split at hstep
      · cases accepted with
        | true =>
            cases hstep
            exact completionInv_submit h _
        | false =>
            cases hstep
            exact h.goto _ rfl
      · cases hstep
  | callback id =>
      simp only [completionStep] at hstep
      split at hstep
      case isTrue hfree =>
        cases hstep
        exact completionInv_start h hfree.1 hfree.2
      case isFalse => cases hstep
  -- on the event, the caller waits and the callback sets
  | event act =>
      simp only [completionStep] at hstep
      split at hstep
      case isTrue hbegins =>
        rcases Option.map_eq_some_iff.mp hstep with ⟨event, hevent, rfl⟩
        have hsteps := steps_of_step syncEvent hevent
        cases hthread : act.thread with
        | caller => exact completionInv_wait h hbegins hsteps hthread
        | agent => exact completionInv_callback h hbegins hsteps hthread hguard
      case isFalse => cases hstep
  | ret =>
      simp only [completionStep] at hstep
      split at hstep
      · cases hstep
        exact h.goto _ rfl
      · cases hstep

/-- What a step on the event does, seen from the whole. -/
theorem event_step {st st' : CompletionState} {act : EventAct}
    (hstep : completionStep st (.event act) = some st') :
    ∃ event, Steps syncEvent st.event act event := by
  simp only [completionStep] at hstep
  split at hstep
  · rcases Option.map_eq_some_iff.mp hstep with ⟨event, hevent, -⟩
    exact ⟨event, steps_of_step syncEvent hevent⟩
  · cases hstep

/-- With the invariant a step keeps the completion. -/
theorem completionKept_of_inv {st st' : CompletionState} {act : CompletionAct}
    (h : CompletionInv st) (hstep : completionStep st act = some st') :
    CompletionKept st act := by
  constructor
  · rintro id rfl hcaller
    rcases event_step hstep with ⟨event, hsteps⟩
    cases hsteps with
    | body t op hpc => exact h.undecided id hcaller (by rw [hpc]; rfl)
  · rintro id ret rfl hcaller htime
    rcases event_step hstep with ⟨event, hsteps⟩
    cases hsteps with
    | ret t op res hpc =>
        have hexpired := (h.onTime false id hcaller htime).2
        rw [hpc] at hexpired
        cases ret with
        | true => rfl
        | false => cases hexpired

theorem completionInv_init : CompletionInv completionWait.init where
  callerOp := fun _ hop => by cases hop
  agentOp := fun _ hop => by cases hop
  awake := rfl
  known := by
    intro id hid
    rcases hid with h | h | h | h <;> cases h
  set := fun hf => by cases hf
  timely := fun _ h => by cases h
  undecided := fun _ h => by cases h
  kept := fun _ h => by cases h
  onTime := fun _ _ h => by cases h

/-- While the event is set for a command only after the first wait of its call
    is decided, no completion is lost: the first wait never takes the one of the
    command just submitted, and the second returns true if it is signalled before
    its deadline. -/
theorem completion_kept (acts : List CompletionAct) (st : CompletionState)
    (hrun : completionWait.run acts = some st)
    (hguard : completionWait.Guarded SetsAfterDrain acts) :
    completionWait.Guarded CompletionKept acts :=
  (completionWait.guarded_of_guarded completionInv_init
    (fun _ _ _ _ h hset hstep =>
      ⟨completionInv_step h hset hstep, completionKept_of_inv h hstep⟩)
    acts st hrun hguard).2

/-- Steps that do not set the event meet the condition. -/
theorem guardedFrom_of_unset (acts : List CompletionAct)
    (h : ∀ act ∈ acts, act ≠ .event (.body .agent)) (st : CompletionState) :
    completionWait.GuardedFrom SetsAfterDrain st acts := by
  induction acts generalizing st with
  | nil => exact trivial
  | cons act acts ih =>
      refine ⟨fun _ hact => absurd hact (h act (List.mem_cons_self ..)), fun s _ => ih ?_ s⟩
      exact fun a ha => h a (List.mem_cons_of_mem _ ha)

/-- A call up to the moment its first wait has given up. -/
def drainedCall : List CompletionAct :=
  [.call false, .submit true, .event (.call .caller .wait), .event (.lock .caller),
    .event (.test .caller), .event (.expire .caller 110), .event (.relock .caller),
    .event (.unlock .caller), .event (.ret .caller .wait (.waited false))]

/-- The callback up to the moment it sets the event. -/
def startedCallback : List CompletionAct :=
  [.callback 0, .event (.call .agent .set), .event (.lock .agent), .event (.test .agent)]

/-- The rest of the callback. -/
def finishedCallback : List CompletionAct :=
  [.event (.unlock .agent), .event (.broadcast .agent), .event (.ret .agent .set .done)]

/-- A wait that takes the event. -/
def takingWait : List CompletionAct :=
  [.event (.call .caller .wait), .event (.lock .caller), .event (.test .caller),
    .event (.body .caller), .event (.unlock .caller), .event (.ret .caller .wait (.waited true))]

/-- A wait that finds no event. -/
def failingWait : List CompletionAct :=
  [.event (.call .caller .wait), .event (.lock .caller), .event (.test .caller),
    .event (.expire .caller 110), .event (.relock .caller), .event (.unlock .caller),
    .event (.ret .caller .wait (.waited false))]

theorem completion_kept_drained :
    completionWait.Guarded CompletionKept
      (drainedCall ++ startedCallback ++ [.event (.body .agent)] ++
        (finishedCallback ++ takingWait)) := by
  refine completion_kept _ _ rfl ?_
  have hset : completionWait.run (drainedCall ++ startedCallback ++ [.event (.body .agent)]) =
    some _ := rfl
  refine (completionWait.guardedFrom_append _ _ _ _ hset).mpr ⟨?_, ?_⟩
  · refine (completionWait.guarded_concat (rfl : completionWait.run
      (drainedCall ++ startedCallback) = some _)).mpr ⟨guardedFrom_of_unset _ ?_ _, ?_⟩
    · simp [drainedCall, startedCallback]
    · -- the call is at its second wait
      intro id _ _ hcaller
      cases hcaller
  · exact guardedFrom_of_unset _ (by simp [finishedCallback, takingWait]) _

/-- The agent is faster than the calling thread. The first wait takes the
    completion, and the second, for which the event was signalled long before its
    deadline, returns false. -/
theorem completion_lost :
    ∃ st st', completionWait.run ([.call false, .submit true] ++ startedCallback ++
        [.event (.body .agent)] ++ finishedCallback ++ takingWait.take 3) = some st ∧
      ¬ CompletionKept st (.event (.body .caller)) ∧
      completionWait.run ([.call false, .submit true] ++ startedCallback ++
        [.event (.body .agent)] ++ finishedCallback ++ takingWait ++ failingWait.take 6) =
          some st' ∧
      (∃ st'', completionWait.step st' (.event (.ret .caller .wait (.waited false))) =
        some st'') ∧
      ¬ CompletionKept st' (.event (.ret .caller .wait (.waited false))) := by
  refine ⟨_, _, rfl, fun hkept => ?_, rfl, ⟨_, rfl⟩, fun hkept => ?_⟩
  · cases hkept.1 0 rfl rfl
  · cases hkept.2 0 false rfl rfl rfl

end MqttAgent

end ProvisioningSdk
