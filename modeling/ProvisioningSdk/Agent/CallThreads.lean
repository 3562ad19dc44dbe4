import ProvisioningSdk.Agent.Commands
import ProvisioningSdk.Platform.PalObjects

/-!
# Calls on the Threads of the Platform

The calls of `Agent.Commands`, with the events of the user contexts as
`pal_event.c` has them: a wait takes the mutex, tests the flag, may be woken with
nothing to find, and may time out at any time.

`agentSystem` takes a wait and a set for one step each. Here they are calls of an
event (`callProgram`), and each thread takes the steps in between by itself. The
threads share the status of each context, the subscription list and the commands.
That a command has completed is written down when the event is set, so it is a
variable of the agent thread.

Every execution of the one is an execution of the other (`calls_overEvents`). So
what was shown of the calls, and what was shown to go wrong, is so on the mutexes
and condition variables of the platform.

## Main definitions

* `callProgram`: The calls, as a program over events.
* `agentOf`: The state of `agentSystem` that is meant.

## Theorems

* `agentOf_step`: A step is one of `agentSystem`.
* `calls_overEvents`: Executions over the platform.
-/

namespace ProvisioningSdk

namespace MqttAgent

open IotshdPal SubscriptionManager Transition SharedObjects

/-- What the threads share. The commands, which are accepted and not yet known to
    be completed, are those of the model. -/
structure CallShared (κ Cb Cx : Type*) where
  xReturnStatus : κ → MQTTStatus
  xGlobalSubscriptionList : SubscriptionList Cb Cx
  commands : Nat → Option (AgentCall κ Cb Cx)
  nextCommand : Nat

/-- How far the agent thread is in the callback of a command, which has the call
    as its context. -/
inductive CommandCallback (κ Cb Cx : Type*)
  | idle
  | stored (call : AgentCall κ Cb Cx) (command : Nat) (returnCode : MQTTStatus)
  | updated (call : AgentCall κ Cb Cx) (command : Nat) (returnCode : MQTTStatus)

/-- The variables of a thread. -/
inductive CallVars (κ Cb Cx : Type*)
  | application (pc : CallPc κ Cb Cx)
  | agent (callback : CommandCallback κ Cb Cx) (completed : Nat → Option MQTTStatus)

/-- The steps between the calls of an event. -/
inductive CallStep (κ Cb Cx : Type*)
  | call (call : AgentCall κ Cb Cx)
  | submit (xCommandAdded : MQTTStatus)
  | read
  | ret
  | store (command : Nat) (returnCode : MQTTStatus)
  | update

section Program

variable {ι κ Cb Cx : Type*} [DecidableEq κ] [DecidableEq Cb] [DecidableEq Cx]

/-- A step of an application thread. -/
def applicationStep (s : CallShared κ Cb Cx) :
    CallPc κ Cb Cx → CallStep κ Cb Cx → Option (CallShared κ Cb Cx × CallPc κ Cb Cx)
  | .idle, .call call => some (s, .submitting call)
  | .submitting call, .submit status =>
      if status = .MQTTSuccess then
        some ({ s with
          commands := Function.update s.commands s.nextCommand (some call)
          nextCommand := s.nextCommand + 1 }, afterSubmit call s.nextCommand)
      else some (s, .returning call none status false)
  | .reading call id, .read =>
      some (s, .returning call (some id) (s.xReturnStatus call.context) true)
  | .returning _ _ _ _, .ret => some (s, .idle)
  | _, _ => none

/-- A step of the agent thread. A callback is run once. -/
def callbackStep (s : CallShared κ Cb Cx) (completed : Nat → Option MQTTStatus) :
    CommandCallback κ Cb Cx → CallStep κ Cb Cx →
      Option (CallShared κ Cb Cx × CommandCallback κ Cb Cx)
  | .idle, .store id returnCode => match s.commands id, completed id with
      | some call, none =>
          some ({ s with
            xReturnStatus := Function.update s.xReturnStatus call.context returnCode },
            .stored call id returnCode)
      | _, _ => none
  | .stored call id returnCode, .update =>
      some ({ s with
        xGlobalSubscriptionList := updateList call returnCode s.xGlobalSubscriptionList },
        .updated call id returnCode)
  | _, _ => none

/-- The event of a user context. -/
def contextEvent : κ → PalObject := fun _ => .event

/-- The application threads, and the agent thread. -/
def callProgram (ι κ : Type*) {Cb Cx : Type*} [DecidableEq κ] [DecidableEq Cb] [DecidableEq Cx]
    (slots : SubscriptionList Cb Cx) :
    PalProgram (Option ι) (contextEvent (κ := κ)) (CallShared κ Cb Cx) (CallVars κ Cb Cx)
      (CallStep κ Cb Cx) where
  shared :=
    { xReturnStatus := fun _ => .MQTTSuccess
      xGlobalSubscriptionList := slots
      commands := fun _ => none
      nextCommand := 0 }
  start := fun
    | some _ => .application .idle
    | none => .agent .idle (fun _ => none)
  own := fun
    | some _, step, s, .application pc =>
        (applicationStep s pc step).map (fun r => (r.1, .application r.2))
    | none, step, s, .agent callback completed =>
        (callbackStep s completed callback step).map (fun r => (r.1, .agent r.2 completed))
    | _, _, _, _ => none
  next := fun
    | some _, .application (.draining call _) => some ⟨call.context, EventOp.wait⟩
    | some _, .application (.waiting call _) => some ⟨call.context, EventOp.wait⟩
    | none, .agent (.updated call _ _) _ => some ⟨call.context, EventOp.set⟩
    | _, _ => none
  resume := fun _ vars _ _ res => match vars, (res : EventRes) with
    | .application (.draining call id), _ => .application (.waiting call id)
    | .application (.waiting call id), .waited retStatus =>
        .application (afterWait call id retStatus)
    | .agent (.updated _ id returnCode) completed, _ =>
        .agent .idle (Function.update completed id (some returnCode))
    | vars, _ => vars

end Program

/-! ### The state that is meant -/

section Meaning

variable {ι κ Cb Cx : Type*}

/-- Where an application thread is. -/
def CallVars.pc : CallVars κ Cb Cx → CallPc κ Cb Cx
  | .application pc => pc
  | .agent _ _ => .idle

/-- Where the agent thread is. -/
def CallVars.callback : CallVars κ Cb Cx → CommandCallback κ Cb Cx
  | .application _ => .idle
  | .agent callback _ => callback

/-- The commands that have completed. -/
def CallVars.completed : CallVars κ Cb Cx → Nat → Option MQTTStatus
  | .application _ => fun _ => none
  | .agent _ completed => completed

/-- The same place, without the call. -/
def CommandCallback.agentPc : CommandCallback κ Cb Cx → AgentPc
  | .idle => .idle
  | .stored _ id returnCode => .stored id returnCode
  | .updated _ id returnCode => .updated id returnCode

/-- A command. -/
def commandState : Option (AgentCall κ Cb Cx) → Option MQTTStatus → CommandState κ Cb Cx
  | none, _ => .absent
  | some call, none => .pending call
  | some call, some returnCode => .completed call returnCode

/-- The threads with their events. -/
abbrev CallThreads (ι κ Cb Cx : Type*) :=
  Settled (Option ι) (CallShared κ Cb Cx) (CallVars κ Cb Cx)
    (fun k : κ => (contextEvent k).Value)

/-- The state that is meant. -/
def agentOf (s : CallThreads ι κ Cb Cx) : AgentState ι κ Cb Cx where
  xReturnStatus := s.shared.xReturnStatus
  syncEvent := s.objects
  xGlobalSubscriptionList := s.shared.xGlobalSubscriptionList
  commands := fun id => commandState (s.shared.commands id) ((s.locals none).completed id)
  nextCommand := s.shared.nextCommand
  agent := (s.locals none).callback.agentPc
  pc := fun i => (s.locals (some i)).pc

/-- The command that the callback has, with its call. -/
def CommandCallback.command : CommandCallback κ Cb Cx → Option (AgentCall κ Cb Cx × Nat)
  | .idle => none
  | .stored call id _ => some (call, id)
  | .updated call id _ => some (call, id)

/-- The callback is that of a command which has not completed, and commands that
    were not given out are not there. -/
structure CallsInv (s : CallThreads ι κ Cb Cx) : Prop where
  running : ∀ call id, (s.locals none).callback.command = some (call, id) →
    s.shared.commands id = some call ∧ (s.locals none).completed id = none
  fresh : ∀ id, s.shared.nextCommand ≤ id →
    s.shared.commands id = none ∧ (s.locals none).completed id = none

/-- The step of the program. -/
def AgentAct.ownStep : AgentAct ι κ Cb Cx → Option (Option ι × CallStep κ Cb Cx)
  | .call i c => some (some i, .call c)
  | .submit i status => some (some i, .submit status)
  | .read i => some (some i, .read)
  | .ret i => some (some i, .ret)
  | .store id returnCode => some (none, .store id returnCode)
  | .update => some (none, .update)
  | _ => none

end Meaning

/-! ### A step is one of the model -/

section Meant

variable {ι κ Cb Cx : Type*} {s s' : CallThreads ι κ Cb Cx}

/-- The invariant is one of the agent thread and of the commands. -/
theorem CallsInv.congr (h : CallsInv s) (hnone : s'.locals none = s.locals none)
    (hcommands : s'.shared.commands = s.shared.commands)
    (hnext : s'.shared.nextCommand = s.shared.nextCommand) : CallsInv s' where
  running := by
    rw [hnone, hcommands]
    exact h.running
  fresh := by
    rw [hnone, hcommands, hnext]
    exact h.fresh

/-- A command is accepted. -/
theorem CallsInv.accepted (h : CallsInv s) (call : AgentCall κ Cb Cx)
    (hnone : s'.locals none = s.locals none)
    (hcommands : s'.shared.commands =
      Function.update s.shared.commands s.shared.nextCommand (some call))
    (hnext : s'.shared.nextCommand = s.shared.nextCommand + 1) : CallsInv s' where
  running := by
    intro c id hid
    rw [hnone] at hid ⊢
    rcases h.running c id hid with ⟨hc, hcompleted⟩
    -- the new command has no name that is in use
    have hne : id ≠ s.shared.nextCommand := by
      intro heq
      have hfresh := (h.fresh id (by omega)).1
      rw [hc] at hfresh
      cases hfresh
    rw [hcommands, Function.update_of_ne hne]
    exact ⟨hc, hcompleted⟩
  fresh := by
    intro id hid
    rw [hnext] at hid
    have hne : id ≠ s.shared.nextCommand := by omega
    rw [hnone, hcommands, Function.update_of_ne hne]
    exact h.fresh id (by omega)

/-- The agent thread has gone on in a callback. -/
theorem CallsInv.moved (h : CallsInv s) [DecidableEq ι] {callback : CommandCallback κ Cb Cx}
    {shared : CallShared κ Cb Cx} {objects : ∀ k : κ, (contextEvent k).Value}
    (hcommands : shared.commands = s.shared.commands)
    (hnext : shared.nextCommand = s.shared.nextCommand)
    (hrunning : ∀ call id, callback.command = some (call, id) →
      s.shared.commands id = some call ∧ (s.locals none).completed id = none) :
    CallsInv (⟨shared, Function.update s.locals none
      (.agent callback (s.locals none).completed), objects⟩ : CallThreads ι κ Cb Cx) where
  running := by
    simp only [Function.update_self]
    rw [hcommands]
    exact hrunning
  fresh := by
    simp only [Function.update_self]
    rw [hcommands, hnext]
    exact h.fresh

/-- The commands that are meant, when one is accepted. -/
theorem commands_accepted (h : CallsInv s) (call : AgentCall κ Cb Cx) :
    (fun id => commandState
        (Function.update s.shared.commands s.shared.nextCommand (some call) id)
        ((s.locals none).completed id)) =
      Function.update (agentOf s).commands s.shared.nextCommand (.pending call) := by
  funext id
  by_cases hid : id = s.shared.nextCommand
  · rw [hid, Function.update_self, Function.update_self, (h.fresh _ (le_refl _)).2]
    rfl
  · rw [Function.update_of_ne hid, Function.update_of_ne hid]
    rfl

/-- The commands that are meant, when one has completed. -/
theorem commands_completed {call : AgentCall κ Cb Cx} {id : Nat}
    (hcall : s.shared.commands id = some call) (returnCode : MQTTStatus) :
    (fun id' => commandState (s.shared.commands id')
        (Function.update (s.locals none).completed id (some returnCode) id')) =
      Function.update (agentOf s).commands id (.completed call returnCode) := by
  funext id'
  by_cases hid : id' = id
  · rw [hid, Function.update_self, Function.update_self, hcall]
    rfl
  · rw [Function.update_of_ne hid, Function.update_of_ne hid]
    rfl

variable [DecidableEq ι]

/-- Where the application threads are, when one has moved. -/
theorem pcs_update (locals : Option ι → CallVars κ Cb Cx) (i : ι) (vars : CallVars κ Cb Cx) :
    (fun j => (Function.update locals (some i) vars (some j)).pc) =
      Function.update (fun j => (locals (some j)).pc) i vars.pc := by
  funext j
  by_cases hj : j = i
  · rw [hj, Function.update_self, Function.update_self]
  · rw [Function.update_of_ne hj, Function.update_of_ne (fun h => hj (Option.some.inj h))]

/-- The state that is meant, when an application thread has moved. -/
theorem agentOf_application (s : CallThreads ι κ Cb Cx) (shared : CallShared κ Cb Cx) (i : ι)
    (pc : CallPc κ Cb Cx) (objects : ∀ k, (contextEvent k).Value) :
    agentOf ⟨shared, Function.update s.locals (some i) (.application pc), objects⟩ =
      { agentOf s with
        xReturnStatus := shared.xReturnStatus
        syncEvent := objects
        xGlobalSubscriptionList := shared.xGlobalSubscriptionList
        commands := fun id => commandState (shared.commands id) ((s.locals none).completed id)
        nextCommand := shared.nextCommand
        pc := Function.update (agentOf s).pc i pc } := by
  unfold agentOf
  have hnone : Function.update s.locals (some i) (.application pc) none = s.locals none :=
    Function.update_of_ne (Option.some_ne_none i).symm _ _
  simp only [hnone, pcs_update]
  rfl

/-- The state that is meant, when the agent thread has moved. -/
theorem agentOf_agent (s : CallThreads ι κ Cb Cx) (shared : CallShared κ Cb Cx)
    (callback : CommandCallback κ Cb Cx) (completed : Nat → Option MQTTStatus)
    (objects : ∀ k, (contextEvent k).Value) :
    agentOf ⟨shared, Function.update s.locals none (.agent callback completed), objects⟩ =
      { agentOf s with
        xReturnStatus := shared.xReturnStatus
        syncEvent := objects
        xGlobalSubscriptionList := shared.xGlobalSubscriptionList
        commands := fun id => commandState (shared.commands id) (completed id)
        nextCommand := shared.nextCommand
        agent := callback.agentPc } := by
  unfold agentOf
  have hsome : ∀ i, Function.update s.locals none (.agent callback completed) (some i) =
      s.locals (some i) := fun i => Function.update_of_ne (Option.some_ne_none i) _ _
  simp only [hsome, Function.update_self]
  rfl

end Meant

section Steps

variable {ι κ Cb Cx : Type*} [DecidableEq ι] [DecidableEq κ] [DecidableEq Cb] [DecidableEq Cx]
  {slots : SubscriptionList Cb Cx} {s s' : CallThreads ι κ Cb Cx}

/-- A step of an application thread between its waits. -/
theorem applicationStep_agent (h : CallsInv s) {i : ι} {pc : CallPc κ Cb Cx}
    {step : CallStep κ Cb Cx} {r : CallShared κ Cb Cx × CallPc κ Cb Cx}
    (hpc : s.locals (some i) = .application pc)
    (hstep : applicationStep s.shared pc step = some r) :
    ∃ b, agentStep (agentOf s) b = some (agentOf
        ⟨r.1, Function.update s.locals (some i) (.application r.2), s.objects⟩) ∧
      AgentAct.ownStep b = some (some i, step) ∧
      CallsInv (⟨r.1, Function.update s.locals (some i) (.application r.2), s.objects⟩ :
        CallThreads ι κ Cb Cx) := by
  have hat : (agentOf s).pc i = pc := congrArg CallVars.pc hpc
  have hnone : Function.update s.locals (some i) (.application r.2) none = s.locals none :=
    Function.update_of_ne (Option.some_ne_none i).symm _ _
  rw [agentOf_application]
  unfold applicationStep at hstep
  -- the cases are the lines of the call: its begin, the submission, reading the result
  -- and the return
  split at hstep
  · rename_i call
    cases hstep
    refine ⟨.call i call, ?_, rfl, h.congr hnone rfl rfl⟩
    simp only [agentStep, hat]
    rfl
  · rename_i call status
    split at hstep
    · rename_i hstatus
      cases hstep
      -- only an accepted command is seen by the agent thread
      refine ⟨.submit i status, ?_, rfl, h.accepted call hnone rfl rfl⟩
      simp only [agentStep, hat, if_pos hstatus, commands_accepted h]
      rfl
    · rename_i hstatus
      cases hstep
      refine ⟨.submit i status, ?_, rfl, h.congr hnone rfl rfl⟩
      simp only [agentStep, hat, if_neg hstatus]
      rfl
  · rename_i call id
    cases hstep
    refine ⟨.read i, ?_, rfl, h.congr hnone rfl rfl⟩
    simp only [agentStep, hat]
    rfl
  · cases hstep
    refine ⟨.ret i, ?_, rfl, h.congr hnone rfl rfl⟩
    simp only [agentStep, hat]
    rfl
  · cases hstep

/-- A step of the agent thread between its calls. -/
theorem callbackStep_agent (h : CallsInv s) {callback : CommandCallback κ Cb Cx}
    {completed : Nat → Option MQTTStatus} {step : CallStep κ Cb Cx}
    {r : CallShared κ Cb Cx × CommandCallback κ Cb Cx}
    (hvars : s.locals none = .agent callback completed)
    (hstep : callbackStep s.shared completed callback step = some r) :
    ∃ b, agentStep (agentOf s) b = some (agentOf
        ⟨r.1, Function.update s.locals none (.agent r.2 completed), s.objects⟩) ∧
      AgentAct.ownStep b = some (none, step) ∧
      CallsInv (⟨r.1, Function.update s.locals none (.agent r.2 completed), s.objects⟩ :
        CallThreads ι κ Cb Cx) := by
  have hagent : (agentOf s).agent = callback.agentPc :=
    congrArg (fun vars => vars.callback.agentPc) hvars
  have hcompleted : (s.locals none).completed = completed := congrArg CallVars.completed hvars
  have hcallback : (s.locals none).callback = callback := congrArg CallVars.callback hvars
  have hcommands : ∀ id, (agentOf s).commands id =
      commandState (s.shared.commands id) (completed id) := by
    intro id
    rw [← hcompleted]
    rfl
  rw [agentOf_agent]
  unfold callbackStep at hstep
  split at hstep
  · -- the callback stores the result, or changes the list
    rename_i id returnCode
    split at hstep
    · rename_i call hcall hnone
      cases hstep
      refine ⟨.store id returnCode, ?_, rfl, ?_⟩
      · simp only [agentStep, hagent, hcommands, hcall, hnone]
        rw [← funext hcommands]
        rfl
      · rw [← hcompleted] at hnone ⊢
        -- it goes on with a command that is still pending
        refine h.moved rfl rfl (fun c id' hid => ?_)
        cases hid
        exact ⟨hcall, hnone⟩
    · cases hstep
  · rename_i call id returnCode
    cases hstep
    have hrunning := h.running call id (congrArg CommandCallback.command hcallback)
    refine ⟨.update, ?_, rfl, ?_⟩
    · rw [hcompleted] at hrunning
      simp only [agentStep, hagent, CommandCallback.agentPc, hcommands, hrunning]
      rw [← funext hcommands]
      rfl
    · rw [← hcompleted]
      refine h.moved rfl rfl (fun c id' hid => ?_)
      cases hid
      exact hrunning
  · cases hstep

/-- A call of an event: one of the two waits of an application thread, or the end
    of a callback. -/
theorem eventCall_cases {t : Option ι} {k : κ} {op : (contextEvent k).Op}
    {res : (contextEvent k).Res}
    (hstep : (overSpec (callProgram ι κ slots)).step s (.call t k op res) = some s') :
    (∃ i call id, s.locals (some i) = .application (.draining call id) ∧
      s' = ⟨s.shared, Function.update s.locals (some i) (.application (.waiting call id)),
        Function.update s.objects call.context false⟩) ∨
    (∃ i call id, s.locals (some i) = .application (.waiting call id) ∧
      s' = ⟨s.shared, Function.update s.locals (some i)
          (.application (afterWait call id (s.objects call.context))),
        Function.update s.objects call.context false⟩) ∨
    (∃ call id returnCode completed,
      s.locals none = .agent (.updated call id returnCode) completed ∧
      s' = ⟨s.shared, Function.update s.locals none
          (.agent .idle (Function.update completed id (some returnCode))),
        Function.update s.objects call.context true⟩) := by
  have hnext : (callProgram ι κ slots).next t (s.locals t) = some ⟨k, op⟩ := by
    by_contra hne
    cases (if_neg hne).symm.trans hstep
  have hcall := (if_pos hnext).symm.trans hstep
  rcases Option.map_eq_some_iff.mp hcall with ⟨o, ho, rfl⟩
  clear hstep hcall
  -- which calls of the event there are is read off the program of the thread
  cases t with
  -- a thread of the application waits, once to empty the event and once for its command
  | some i =>
      cases hvars : s.locals (some i) with
      | agent callback completed =>
          rw [hvars] at hnext
          cases hnext
      | application pc =>
          rw [hvars] at hnext
          cases pc with
          | draining call id =>
              cases hnext
              rcases flag_wait ho with ⟨rfl, rfl⟩
              exact Or.inl ⟨i, call, id, hvars, rfl⟩
          | waiting call id =>
              cases hnext
              rcases flag_wait ho with ⟨rfl, rfl⟩
              exact Or.inr (Or.inl ⟨i, call, id, hvars, rfl⟩)
          | idle => cases hnext
          | submitting => cases hnext
          | reading => cases hnext
          | returning => cases hnext
  -- the agent signals at the end of its callback
  | none =>
      cases hvars : s.locals none with
      | application pc =>
          rw [hvars] at hnext
          cases hnext
      | agent callback completed =>
          rw [hvars] at hnext
          cases callback with
          | idle => cases hnext
          | stored => cases hnext
          | updated call id returnCode =>
              cases hnext
              rcases flag_set ho with ⟨rfl, rfl⟩
              exact Or.inr (Or.inr ⟨call, id, returnCode, completed, rfl, rfl⟩)

/-- It is one step of the model. -/
theorem eventCall_agent (h : CallsInv s) {t : Option ι} {k : κ} {op : (contextEvent k).Op}
    {res : (contextEvent k).Res}
    (hstep : (overSpec (callProgram ι κ slots)).step s (.call t k op res) = some s') :
    ∃ b, agentStep (agentOf s) b = some (agentOf s') ∧ AgentAct.ownStep b = none ∧
      CallsInv s' := by
  have hnone : ∀ i vars, Function.update s.locals (some i) vars none = s.locals none :=
    fun i vars => Function.update_of_ne (Option.some_ne_none i).symm _ _
  rcases eventCall_cases hstep with ⟨i, call, id, hvars, rfl⟩ | ⟨i, call, id, hvars, rfl⟩ |
    ⟨call, id, returnCode, completed, hvars, rfl⟩
  · -- the two waits of the application
    have hat : (agentOf s).pc i = .draining call id := congrArg CallVars.pc hvars
    refine ⟨.drain i, ?_, rfl, h.congr (hnone i (.application (.waiting call id))) rfl rfl⟩
    rw [agentOf_application]
    simp only [agentStep, hat]
    rfl
  · have hat : (agentOf s).pc i = .waiting call id := congrArg CallVars.pc hvars
    refine ⟨.wait i, ?_, rfl,
      h.congr (hnone i (.application (afterWait call id (s.objects call.context)))) rfl rfl⟩
    rw [agentOf_application]
    simp only [agentStep, hat]
    rfl
  · -- the signal completes the command
    have hrunning := h.running call id (congrArg (fun vars => vars.callback.command) hvars)
    have hagent : (agentOf s).agent = .updated id returnCode :=
      congrArg (fun vars => vars.callback.agentPc) hvars
    have hcompleted : completed = (s.locals none).completed :=
      (congrArg CallVars.completed hvars).symm
    have hcommand : (agentOf s).commands id = .pending call := by
      unfold agentOf
      simp only [hrunning]
      rfl
    subst hcompleted
    refine ⟨.signal, ?_, rfl, ?_⟩
    · rw [agentOf_agent, commands_completed hrunning.1]
      simp only [agentStep, hagent, hcommand]
      rfl
    · refine ⟨fun c id' hid => ?_, fun id' hid => ?_⟩
      · simp only [Function.update_self] at hid
        cases hid
      · -- a command that completes was given out
        have hne : id' ≠ id := by
          intro heq
          have hfresh := (h.fresh id' hid).1
          rw [heq, hrunning.1] at hfresh
          cases hfresh
        simp only [Function.update_self]
        refine ⟨(h.fresh id' hid).1, ?_⟩
        exact (Function.update_of_ne hne _ _).trans (h.fresh id' hid).2

/-- Every step with waits and sets that are one step is one of the model. -/
theorem agentOf_step (h : CallsInv s)
    {a : CallAct (Option ι) (CallStep κ Cb Cx) (fun k : κ => (contextEvent k).Op)
      (fun k => (contextEvent k).Res)}
    (hstep : (overSpec (callProgram ι κ slots)).step s a = some s') :
    ∃ b, agentStep (agentOf s) b = some (agentOf s') ∧ AgentAct.ownStep b = a.ownStep ∧
      CallsInv s' := by
  cases a with
  | own t step =>
      rcases Option.map_eq_some_iff.mp hstep with ⟨r, hr, rfl⟩
      cases t with
      | some i =>
          cases hvars : s.locals (some i) with
          | agent callback completed =>
              -- an application thread is in a call, the agent thread in a callback
              rw [hvars] at hr
              cases hr
          | application pc =>
              rw [hvars] at hr
              rcases Option.map_eq_some_iff.mp hr with ⟨r', hr', rfl⟩
              exact applicationStep_agent h hvars hr'
      | none =>
          cases hvars : s.locals none with
          | application pc =>
              rw [hvars] at hr
              cases hr
          | agent callback completed =>
              rw [hvars] at hr
              rcases Option.map_eq_some_iff.mp hr with ⟨r', hr', rfl⟩
              exact callbackStep_agent h hvars hr'
  -- a call on an event may end a wait
  | call t k op res => exact eventCall_agent h hstep

/-- An execution is one of the model. -/
theorem agentOf_run
    (acts : List (CallAct (Option ι) (CallStep κ Cb Cx) (fun k : κ => (contextEvent k).Op)
      (fun k => (contextEvent k).Res)))
    (s : CallThreads ι κ Cb Cx) (hrun : (overSpec (callProgram ι κ slots)).run acts = some s) :
    ∃ acts', (agentSystem ι κ slots).run acts' = some (agentOf s) ∧
      acts'.filterMap AgentAct.ownStep = acts.filterMap CallAct.ownStep := by
  have hinit : CallsInv (overSpec (callProgram ι κ slots)).init :=
    ⟨fun _ _ hid => (nomatch hid), fun _ _ => ⟨rfl, rfl⟩⟩
  have h := System.run_induction (overSpec (callProgram ι κ slots))
    (P := fun acts s => CallsInv s ∧ ∃ acts', (agentSystem ι κ slots).run acts' = some (agentOf s) ∧
      acts'.filterMap AgentAct.ownStep = acts.filterMap CallAct.ownStep)
    ⟨hinit, [], rfl, rfl⟩ ?_ acts s hrun
  · exact h.2
  · rintro acts s a s' - ⟨h, acts', hacts', howns⟩ hstep
    rcases agentOf_step h hstep with ⟨b, hb, hown, h'⟩
    refine ⟨h', acts' ++ [b], (System.run_concat _ _ _ _).mpr ⟨_, hacts', hb⟩, ?_⟩
    rw [System.filterMap_concat, System.filterMap_concat, howns, hown]

end Steps

/-- Every execution of the calls over the events of the platform, step by step on
    their mutexes and condition variables, is one of the model: with the same steps
    between the waits, the same status, list and commands at the end, the same
    flags, and every thread that is in no wait at the same place. -/
theorem calls_overEvents {ι κ Cb Cx : Type*} [DecidableEq ι] [DecidableEq κ] [DecidableEq Cb]
    [DecidableEq Cx] (slots : SubscriptionList Cb Cx)
    (acts : List (RunAct (Option ι) (CallStep κ Cb Cx)
      (fun k : κ => (contextEvent k).Act (Option ι))))
    (st : Running (Option ι) (CallShared κ Cb Cx) (CallVars κ Cb Cx)
      (fun k : κ => (contextEvent k).State (Option ι)))
    (hrun : (overPal (callProgram ι κ slots)).run acts = some st) :
    ∃ acts' s, (agentSystem ι κ slots).run acts' = some s ∧
      acts'.filterMap AgentAct.ownStep = acts.filterMap RunAct.ownStep ∧
      s.xReturnStatus = st.threads.shared.xReturnStatus ∧
      s.xGlobalSubscriptionList = st.threads.shared.xGlobalSubscriptionList ∧
      (∀ k, (st.objects k).obj = s.syncEvent k) ∧
      (∀ i, st.threads.inside (some i) = false → s.pc i = (st.threads.locals (some i)).pc) ∧
      (st.threads.inside none = false → s.agent = (st.threads.locals none).callback.agentPc ∧
        ∀ id, s.commands id = commandState (st.threads.shared.commands id)
          ((st.threads.locals none).completed id)) := by
  rcases overPal_refines (callProgram ι κ slots) acts st hrun with
    ⟨calls, s, hs, howns, hshared, hlocals, hobjects⟩
  rcases agentOf_run calls s hs with ⟨acts', hacts', howns'⟩
  refine ⟨acts', agentOf s, hacts', howns'.trans howns, ?_, ?_, hobjects, fun i hout => ?_,
    fun hout => ?_⟩
  · exact congrArg CallShared.xReturnStatus hshared
  · exact congrArg CallShared.xGlobalSubscriptionList hshared
  · exact congrArg CallVars.pc ((hlocals (some i)).of_out hout)
  · unfold agentOf
    simp only [hshared, (hlocals none).of_out hout]
    exact ⟨trivial, fun _ => trivial⟩

/-- A step between the waits. -/
def between (t : Option Unit) (step : CallStep Unit Nat Nat) :
    RunAct (Option Unit) (CallStep Unit Nat Nat)
      (fun k : Unit => (contextEvent k).Act (Option Unit)) :=
  .own t step

/-- A step in the event. -/
def onEvent (act : TimedWait.Act (Option Unit) EventOp EventRes) :
    RunAct (Option Unit) (CallStep Unit Nat Nat)
      (fun k : Unit => (contextEvent k).Act (Option Unit)) :=
  .object () act

/-- A publish waits already when its callback sets the event. -/
def wokenPublish : List (RunAct (Option Unit) (CallStep Unit Nat Nat)
    (fun k : Unit => (contextEvent k).Act (Option Unit))) :=
  [between (some ()) (.call (.publish ())), between (some ()) (.submit .MQTTSuccess),
    onEvent (.call (some ()) .wait), onEvent (.lock (some ())), onEvent (.test (some ())),
    between none (.store 0 .MQTTServerRefused), between none .update,
    onEvent (.call none .set), onEvent (.lock none), onEvent (.test none), onEvent (.body none),
    onEvent (.unlock none), onEvent (.broadcast none), onEvent (.relock (some ())),
    onEvent (.test (some ())), onEvent (.body (some ())), onEvent (.unlock (some ())),
    onEvent (.ret (some ()) .wait (.waited true)), between (some ()) .read]

theorem calls_overEvents_woken :
    ∃ st, (overPal (callProgram Unit Unit
        (fun _ => (zeroElement : SubscriptionElement Nat Nat)))).run wokenPublish = some st ∧
      ∃ acts' s, (agentSystem Unit Unit
          (fun _ => (zeroElement : SubscriptionElement Nat Nat))).run acts' = some s ∧
        acts'.filterMap AgentAct.ownStep = wokenPublish.filterMap RunAct.ownStep ∧
        s.pc () = .returning (.publish ()) (some 0) .MQTTServerRefused true := by
  refine ⟨_, rfl, ?_⟩
  rcases calls_overEvents (fun _ => (zeroElement : SubscriptionElement Nat Nat)) wokenPublish _ rfl
    with ⟨acts', s, hs, howns, -, -, -, hpc, -⟩
  exact ⟨acts', s, hs, howns, hpc () rfl⟩

end MqttAgent

end ProvisioningSdk
