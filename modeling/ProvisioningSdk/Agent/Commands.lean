import ProvisioningSdk.Agent.SubscriptionList
import ProvisioningSdk.Platform.PalEvent

/-!
# Synchronous Commands

`iotshdDev_MQTTAgentPublish`, `iotshdDev_MQTTAgentAddSubscription` and
`iotshdDev_MQTTAgentRemoveSubscription` of `mqtt_agent.c`: calls that submit a
command to the MQTT agent and wait on their user context's event until the
command's callback, run by the agent thread, sets it.

The agent is outside the model. It accepts a command or refuses it, and runs
the callback of an accepted one at most once, at any later time and with any
return code. A step is what one thread does between two points where the other
can see it: submitting, either wait on the event at the moment it takes effect,
reading `xReturnStatus`, and in the callback storing the status, changing the
subscription list, and setting the event. Nothing ties the event or the status
to a command. The names of commands below are for the statements only.

The callback's arguments are locals of the call. Here they keep their values
after the call has returned, which is more than the code can count on.

## Main definitions

* `AgentCall`: A call of one of the three functions.
* `AgentState`: The contexts, the subscription list, the commands, and the
  threads.
* `agentSystem`: The application threads and the agent thread.
* `AgentSteps`: What each step needs and what it does.
* `AgentInv`: Commands belong to the calls that submitted them.

## Theorems

* `agentSteps_of_step`: One step, as one of the ten named ones.
* `agentInv_reachable`: The invariant holds in every reachable state.
-/

namespace ProvisioningSdk

namespace MqttAgent

open IotshdPal SubscriptionManager Transition

/-- `MQTTStatus_t`. -/
inductive MQTTStatus
  | MQTTSuccess
  | MQTTBadParameter
  | MQTTNoMemory
  | MQTTSendFailed
  | MQTTRecvFailed
  | MQTTBadResponse
  | MQTTServerRefused
  | MQTTNoDataAvailable
  | MQTTIllegalState
  | MQTTStateCollision
  | MQTTKeepAliveTimeout
  | MQTTNeedMoreBytes
  deriving DecidableEq, Repr

/-- `SUBSCRIPTION_MANAGER_MAX_SUBSCRIPTIONS`. -/
def maxSubscriptions : Nat := 10

/-- The arguments of a subscription call. Its filter is a C string. -/
structure SubscribeArgs (Cb Cx : Type*) where
  pcTopicFilterString : List UInt8
  usTopicFilterLength : Nat
  pxIncomingPublishCallback : Option Cb
  pvIncomingPublishCallbackContext : Option Cx

/-- The bytes of a C string before its NUL. -/
def cString (s : List UInt8) : List UInt8 := s.takeWhile (fun b => b != 0)

/-- `topicFilterLength`, which is `( uint16_t ) strlen( pcTopicFilterString )`. -/
def topicFilterLength {Cb Cx : Type*} (args : SubscribeArgs Cb Cx) : Nat :=
  (cString args.pcTopicFilterString).length % 2 ^ 16

theorem topicFilterLength_lt {Cb Cx : Type*} (args : SubscribeArgs Cb Cx) :
    topicFilterLength args < 2 ^ 16 :=
  Nat.mod_lt _ (by decide)

/-- A call on a user context. -/
inductive AgentCall (κ Cb Cx : Type*)
  | publish (pUserContext : κ)
  | addSubscription (pUserContext : κ) (args : SubscribeArgs Cb Cx)
  | removeSubscription (pUserContext : κ) (args : SubscribeArgs Cb Cx)

section Model

variable {ι κ Cb Cx : Type*}

/-- The user context of a call. -/
def AgentCall.context : AgentCall κ Cb Cx → κ
  | .publish k => k
  | .addSubscription k _ => k
  | .removeSubscription k _ => k

/-- The call is a publish. -/
def AgentCall.isPublish : AgentCall κ Cb Cx → Bool
  | .publish _ => true
  | _ => false

/-- How far a thread is in a call. `returning` has the value of `retStatus`,
    false if no wait was made. -/
inductive CallPc (κ Cb Cx : Type*)
  | idle
  | submitting (call : AgentCall κ Cb Cx)
  | draining (call : AgentCall κ Cb Cx) (command : Nat)
  | waiting (call : AgentCall κ Cb Cx) (command : Nat)
  | reading (call : AgentCall κ Cb Cx) (command : Nat)
  | returning (call : AgentCall κ Cb Cx) (command : Option Nat) (xCommandAdded : MQTTStatus)
      (retStatus : Bool)

/-- An accepted command, before and after its callback. -/
inductive CommandState (κ Cb Cx : Type*)
  | absent
  | pending (call : AgentCall κ Cb Cx)
  | completed (call : AgentCall κ Cb Cx) (returnCode : MQTTStatus)

/-- How far the agent thread is in a callback. -/
inductive AgentPc
  | idle
  | stored (command : Nat) (returnCode : MQTTStatus)
  | updated (command : Nat) (returnCode : MQTTStatus)

/-- The user contexts' shared fields, the subscription list, and the
    threads. -/
structure AgentState (ι κ Cb Cx : Type*) where
  xReturnStatus : κ → MQTTStatus
  syncEvent : κ → Bool
  xGlobalSubscriptionList : SubscriptionList Cb Cx
  commands : Nat → CommandState κ Cb Cx
  nextCommand : Nat
  agent : AgentPc
  pc : ι → CallPc κ Cb Cx

/-- One step of an application thread, or of the agent thread. -/
inductive AgentAct (ι κ Cb Cx : Type*)
  | call (thread : ι) (call : AgentCall κ Cb Cx)
  /-- The agent accepts the command, or refuses it with another status. -/
  | submit (thread : ι) (xCommandAdded : MQTTStatus)
  /-- The wait with block time zero. -/
  | drain (thread : ι)
  /-- The wait for the callback. -/
  | wait (thread : ι)
  | read (thread : ι)
  | ret (thread : ι)
  /-- The callback of a command starts and stores its return code. -/
  | store (command : Nat) (returnCode : MQTTStatus)
  /-- It changes the subscription list. -/
  | update
  /-- It sets the event. -/
  | signal

variable [DecidableEq ι] [DecidableEq κ] [DecidableEq Cb] [DecidableEq Cx]

/-- The list after the callback of a command. -/
def updateList (call : AgentCall κ Cb Cx) (returnCode : MQTTStatus)
    (slots : SubscriptionList Cb Cx) : SubscriptionList Cb Cx :=
  if returnCode = .MQTTSuccess then
    match call with
    | .publish _ => slots
    | .addSubscription _ args =>
        (SubscriptionManager.addSubscription maxSubscriptions slots (some args.pcTopicFilterString)
          (topicFilterLength args) args.pxIncomingPublishCallback
          args.pvIncomingPublishCallbackContext).1
    | .removeSubscription _ args =>
        SubscriptionManager.removeSubscription maxSubscriptions slots
          (some args.pcTopicFilterString) (topicFilterLength args)
  else slots

/-- Where a thread is once its command was accepted. -/
def afterSubmit (call : AgentCall κ Cb Cx) (command : Nat) : CallPc κ Cb Cx :=
  if call.isPublish then .waiting call command else .draining call command

/-- Where a thread is once its wait for the callback returned. Only a publish
    looks at the result. -/
def afterWait (call : AgentCall κ Cb Cx) (command : Nat) (retStatus : Bool) : CallPc κ Cb Cx :=
  if call.isPublish && retStatus then .reading call command
  else .returning call (some command) .MQTTSuccess retStatus

/-- Thread `i` moves on. -/
def AgentState.goto (st : AgentState ι κ Cb Cx) (i : ι) (p : CallPc κ Cb Cx) :
    AgentState ι κ Cb Cx :=
  { st with pc := Function.update st.pc i p }

/-- The event of context `k` changes. -/
def AgentState.setEvent (st : AgentState ι κ Cb Cx) (k : κ) (e : Bool) : AgentState ι κ Cb Cx :=
  { st with syncEvent := Function.update st.syncEvent k e }

/-- The state of command `id` changes. -/
def AgentState.setCommand (st : AgentState ι κ Cb Cx) (id : Nat) (c : CommandState κ Cb Cx) :
    AgentState ι κ Cb Cx :=
  { st with commands := Function.update st.commands id c }

/-- One step. -/
def agentStep (st : AgentState ι κ Cb Cx) : AgentAct ι κ Cb Cx → Option (AgentState ι κ Cb Cx)
  | .call i call => match st.pc i with
      | .idle => some (st.goto i (.submitting call))
      | _ => none
  | .submit i status => match st.pc i with
      | .submitting call =>
          if status = .MQTTSuccess then
            -- the name of the command is known to the model only
            some ({ st.setCommand st.nextCommand (.pending call) with
              nextCommand := st.nextCommand + 1 }.goto i (afterSubmit call st.nextCommand))
          else some (st.goto i (.returning call none status false))
      | _ => none
  | .drain i => match st.pc i with
      | .draining call id =>
          some ((st.setEvent call.context (waitNow (st.syncEvent call.context)).1).goto i
            (.waiting call id))
      | _ => none
  | .wait i => match st.pc i with
      -- a wait that ends with the event clear is one that timed out
      | .waiting call id =>
          some ((st.setEvent call.context (waitNow (st.syncEvent call.context)).1).goto i
            (afterWait call id (waitNow (st.syncEvent call.context)).2))
      | _ => none
  | .read i => match st.pc i with
      | .reading call id =>
          some (st.goto i (.returning call (some id) (st.xReturnStatus call.context) true))
      | _ => none
  | .ret i => match st.pc i with
      | .returning _ _ _ _ => some (st.goto i .idle)
      | _ => none
  | .store id returnCode => match st.agent, st.commands id with
      | .idle, .pending call =>
          some { st with
            xReturnStatus := Function.update st.xReturnStatus call.context returnCode
            agent := .stored id returnCode }
      | _, _ => none
  | .update => match st.agent with
      | .stored id returnCode => match st.commands id with
          | .pending call =>
              some { st with
                xGlobalSubscriptionList :=
                  updateList call returnCode st.xGlobalSubscriptionList
                agent := .updated id returnCode }
          | _ => none
      | _ => none
  | .signal => match st.agent with
      | .updated id returnCode => match st.commands id with
          | .pending call =>
              some { (st.setEvent call.context true).setCommand id (.completed call returnCode) with
                agent := .idle }
          | _ => none
      | _ => none

/-- The threads, from a subscription list in any state. -/
def agentSystem (ι κ : Type*) {Cb Cx : Type*} [DecidableEq ι] [DecidableEq κ] [DecidableEq Cb]
    [DecidableEq Cx] (slots : SubscriptionList Cb Cx) :
    System (AgentState ι κ Cb Cx) (AgentAct ι κ Cb Cx) where
  init :=
    { xReturnStatus := fun _ => .MQTTSuccess
      syncEvent := fun _ => false
      xGlobalSubscriptionList := slots
      commands := fun _ => .absent
      nextCommand := 0
      agent := .idle
      pc := fun _ => .idle }
  step := agentStep

/-! ### The steps by name -/

/-- What each step needs, and the state it leads to. -/
inductive AgentSteps (st : AgentState ι κ Cb Cx) :
    AgentAct ι κ Cb Cx → AgentState ι κ Cb Cx → Prop
  | call (i : ι) (call : AgentCall κ Cb Cx) (hpc : st.pc i = .idle) :
      AgentSteps st (.call i call) (st.goto i (.submitting call))
  | accepted (i : ι) (call : AgentCall κ Cb Cx) (hpc : st.pc i = .submitting call) :
      AgentSteps st (.submit i .MQTTSuccess)
        ({ st.setCommand st.nextCommand (.pending call) with
          nextCommand := st.nextCommand + 1 }.goto i (afterSubmit call st.nextCommand))
  | refused (i : ι) (call : AgentCall κ Cb Cx) (status : MQTTStatus)
      (hpc : st.pc i = .submitting call) (hstatus : status ≠ .MQTTSuccess) :
      AgentSteps st (.submit i status) (st.goto i (.returning call none status false))
  | drain (i : ι) (call : AgentCall κ Cb Cx) (id : Nat) (hpc : st.pc i = .draining call id) :
      AgentSteps st (.drain i) ((st.setEvent call.context false).goto i (.waiting call id))
  | wait (i : ι) (call : AgentCall κ Cb Cx) (id : Nat) (hpc : st.pc i = .waiting call id) :
      AgentSteps st (.wait i) ((st.setEvent call.context false).goto i
        (afterWait call id (st.syncEvent call.context)))
  | read (i : ι) (call : AgentCall κ Cb Cx) (id : Nat) (hpc : st.pc i = .reading call id) :
      AgentSteps st (.read i)
        (st.goto i (.returning call (some id) (st.xReturnStatus call.context) true))
  | ret (i : ι) (call : AgentCall κ Cb Cx) (id : Option Nat) (status : MQTTStatus) (b : Bool)
      (hpc : st.pc i = .returning call id status b) :
      AgentSteps st (.ret i) (st.goto i .idle)
  | store (id : Nat) (returnCode : MQTTStatus) (call : AgentCall κ Cb Cx)
      (hagent : st.agent = .idle) (hcommand : st.commands id = .pending call) :
      AgentSteps st (.store id returnCode) { st with
        xReturnStatus := Function.update st.xReturnStatus call.context returnCode
        agent := .stored id returnCode }
  | update (id : Nat) (returnCode : MQTTStatus) (call : AgentCall κ Cb Cx)
      (hagent : st.agent = .stored id returnCode) (hcommand : st.commands id = .pending call) :
      AgentSteps st .update { st with
        xGlobalSubscriptionList := updateList call returnCode st.xGlobalSubscriptionList
        agent := .updated id returnCode }
  | signal (id : Nat) (returnCode : MQTTStatus) (call : AgentCall κ Cb Cx)
      (hagent : st.agent = .updated id returnCode) (hcommand : st.commands id = .pending call) :
      AgentSteps st .signal
        { (st.setEvent call.context true).setCommand id (.completed call returnCode) with
          agent := .idle }

theorem agentSteps_of_step {st st' : AgentState ι κ Cb Cx} {act : AgentAct ι κ Cb Cx}
    (hstep : agentStep st act = some st') : AgentSteps st act st' := by
  unfold agentStep at hstep
  cases act with
  -- a call of a thread is at one place of it
  | call i c =>
      simp only at hstep
      split at hstep
      · rename_i hpc
        cases hstep
        exact .call i c hpc
      · cases hstep
  | submit i status =>
      simp only at hstep
      split at hstep
      · rename_i c hpc
        split at hstep
        · -- what the queue answers decides whether there is a command
          rename_i hstatus
          subst hstatus
          cases hstep
          exact .accepted i c hpc
        · rename_i hstatus
          cases hstep
          exact .refused i c status hpc hstatus
      · cases hstep
  | drain i =>
      simp only at hstep
      split at hstep
      · rename_i c id hpc
        cases hstep
        exact .drain i c id hpc
      · cases hstep
  | wait i =>
      simp only at hstep
      split at hstep
      · rename_i c id hpc
        cases hstep
        exact .wait i c id hpc
      · cases hstep
  | read i =>
      simp only at hstep
      split at hstep
      · rename_i c id hpc
        cases hstep
        exact .read i c id hpc
      · cases hstep
  | ret i =>
      simp only at hstep
      split at hstep
      · rename_i c id status b hpc
        cases hstep
        exact .ret i c id status b hpc
      · cases hstep
  -- the callback is about a command that is pending
  | store id rc =>
      simp only at hstep
      split at hstep
      · rename_i c hagent hcommand
        cases hstep
        exact .store id rc c hagent hcommand
      · cases hstep
  | update =>
      simp only at hstep
      split at hstep
      · rename_i id rc hagent
        split at hstep
        · rename_i c hcommand
          cases hstep
          exact .update id rc c hagent hcommand
        · cases hstep
      · cases hstep
  | signal =>
      simp only at hstep
      split at hstep
      · rename_i id rc hagent
        split at hstep
        · rename_i c hcommand
          cases hstep
          exact .signal id rc c hagent hcommand
        · cases hstep
      · cases hstep

/-! ### Commands and their calls -/

/-- The call a thread is in and its command, once it was accepted. -/
def CallPc.command : CallPc κ Cb Cx → Option (AgentCall κ Cb Cx × Nat)
  | .draining call id => some (call, id)
  | .waiting call id => some (call, id)
  | .reading call id => some (call, id)
  | .returning call (some id) _ _ => some (call, id)
  | _ => none

/-- The command whose callback the agent thread is in. -/
def AgentPc.command : AgentPc → Option Nat
  | .idle => none
  | .stored id _ => some id
  | .updated id _ => some id

/-- The command of this name was submitted by this call. -/
def CommandState.ownedBy (command : CommandState κ Cb Cx) (call : AgentCall κ Cb Cx) : Prop :=
  command = .pending call ∨ ∃ returnCode, command = .completed call returnCode

/-- Commands belong to the calls that submitted them. -/
structure AgentInv (st : AgentState ι κ Cb Cx) : Prop where
  fresh : ∀ id, st.nextCommand ≤ id → st.commands id = .absent
  running : ∀ id, st.agent.command = some id → ∃ call, st.commands id = .pending call
  owned : ∀ i call id, (st.pc i).command = some (call, id) → (st.commands id).ownedBy call
  refused : ∀ i call status b, st.pc i = .returning call none status b → status ≠ .MQTTSuccess
  reads : ∀ i call id, st.pc i = .reading call id → call.isPublish = true

omit [DecidableEq κ] [DecidableEq Cb] [DecidableEq Cx] in
/-- A property of every thread's place survives a move to a place that has
    it. -/
theorem forall_goto {st : AgentState ι κ Cb Cx} {i : ι} {p : CallPc κ Cb Cx}
    {Q : CallPc κ Cb Cx → Prop} (h : ∀ j, Q (st.pc j)) (hp : Q p) :
    ∀ j, Q ((st.goto i p).pc j) := by
  intro j
  unfold AgentState.goto
  by_cases hji : j = i
  · rw [hji]
    simp only [Function.update_self]
    exact hp
  · simp only [Function.update_of_ne hji]
    exact h j

omit [DecidableEq κ] [DecidableEq Cb] [DecidableEq Cx] in
/-- Moving on within a call keeps the invariant, whatever else changes beside
    the commands. -/
theorem AgentInv.goto {st st' : AgentState ι κ Cb Cx} (h : AgentInv st) (i : ι)
    (p : CallPc κ Cb Cx) (hcommands : st'.commands = st.commands)
    (hnext : st'.nextCommand = st.nextCommand) (hagent : st'.agent = st.agent)
    (hpc : st'.pc = (st.goto i p).pc)
    (howned : ∀ call id, p.command = some (call, id) → (st.commands id).ownedBy call)
    (hrefused : ∀ call status b, p = .returning call none status b → status ≠ .MQTTSuccess)
    (hreads : ∀ call id, p = .reading call id → call.isPublish = true) :
    AgentInv st' where
  fresh := by
    rw [hcommands, hnext]
    exact h.fresh
  running := by
    rw [hcommands, hagent]
    exact h.running
  owned := by
    rw [hcommands, hpc]
    exact forall_goto (Q := fun p => ∀ call id, p.command = some (call, id) →
      (st.commands id).ownedBy call) h.owned howned
  refused := by
    rw [hpc]
    exact forall_goto (Q := fun p => ∀ call status b, p = .returning call none status b →
      status ≠ .MQTTSuccess) h.refused hrefused
  reads := by
    rw [hpc]
    exact forall_goto (Q := fun p => ∀ call id, p = .reading call id → call.isPublish = true)
      h.reads hreads

omit [DecidableEq κ] [DecidableEq Cb] [DecidableEq Cx] in
theorem command_afterSubmit (call : AgentCall κ Cb Cx) (id : Nat) :
    (afterSubmit call id).command = some (call, id) := by
  unfold afterSubmit
  split
  · rfl
  · rfl

omit [DecidableEq κ] [DecidableEq Cb] [DecidableEq Cx] in
theorem command_afterWait (call : AgentCall κ Cb Cx) (id : Nat) (b : Bool) :
    (afterWait call id b).command = some (call, id) := by
  unfold afterWait
  split
  · rfl
  · rfl

omit [DecidableEq κ] [DecidableEq Cb] [DecidableEq Cx] in
theorem afterWait_reading {call c : AgentCall κ Cb Cx} {id n : Nat} {b : Bool}
    (h : afterWait call id b = .reading c n) : c.isPublish = true := by
  unfold afterWait at h
  split at h
  · rename_i hcond
    cases h
    rw [Bool.and_eq_true] at hcond
    exact hcond.1
  · cases h

theorem agentInv_step {st st' : AgentState ι κ Cb Cx} {act : AgentAct ι κ Cb Cx}
    (h : AgentInv st) (hstep : AgentSteps st act st') : AgentInv st' := by
  cases hstep with
  | call i call hpc =>
      refine h.goto i _ rfl rfl rfl rfl ?_ ?_ ?_
      · intro c id hc
        cases hc
      · intro c status b hc
        cases hc
      · intro c id hc
        cases hc
  | accepted i call hpc =>
      -- the new command has a name no thread and no callback has
      have hne : ∀ id, st.commands id ≠ .absent → id ≠ st.nextCommand := by
        intro id hid hc
        exact hid (h.fresh id (by omega))
      have hkeep : ∀ id c, (st.commands id).ownedBy c →
          ((st.setCommand st.nextCommand (.pending call)).commands id).ownedBy c := by
        intro id c hid
        have hid' : id ≠ st.nextCommand := by
          refine hne id ?_
          rcases hid with hp | ⟨rc, hp⟩
          · rw [hp]
            exact fun hc => by cases hc
          · rw [hp]
            exact fun hc => by cases hc
        simp only [AgentState.setCommand, Function.update_of_ne hid']
        exact hid
      -- the new name is not given again, and every other command is as it was
      refine ⟨?_, ?_, ?_, ?_, ?_⟩
      · intro id hid
        have hlt : st.nextCommand + 1 ≤ id := hid
        have hid' : id ≠ st.nextCommand := by omega
        simp only [AgentState.goto, AgentState.setCommand, Function.update_of_ne hid']
        exact h.fresh id (by omega)
      · intro id hid
        rcases h.running id hid with ⟨c, hc⟩
        have hid' : id ≠ st.nextCommand := hne id (by rw [hc]; exact fun hc => by cases hc)
        refine ⟨c, ?_⟩
        simp only [AgentState.goto, AgentState.setCommand, Function.update_of_ne hid']
        exact hc
      · refine forall_goto (Q := fun p => ∀ c id, p.command = some (c, id) →
          ((st.setCommand st.nextCommand (.pending call)).commands id).ownedBy c) ?_ ?_
        · intro j c id hc
          exact hkeep id c (h.owned j c id hc)
        · intro c id hc
          rw [command_afterSubmit, Option.some.injEq, Prod.mk.injEq] at hc
          rcases hc with ⟨rfl, rfl⟩
          simp only [AgentState.setCommand, Function.update_self]
          exact Or.inl rfl
      · refine forall_goto (Q := fun p => ∀ c status b, p = .returning c none status b →
          status ≠ .MQTTSuccess) h.refused ?_
        intro c status b hc
        have hcommand := command_afterSubmit call st.nextCommand
        rw [hc] at hcommand
        cases hcommand
      · refine forall_goto (Q := fun p => ∀ c id, p = .reading c id → c.isPublish = true)
          h.reads ?_
        intro c id hc
        unfold afterSubmit at hc
        split at hc
        · cases hc
        · cases hc
  | refused i call status hpc hstatus =>
      refine h.goto i _ rfl rfl rfl rfl ?_ ?_ ?_
      · intro c id hc
        cases hc
      · intro c status' b hc
        cases hc
        exact hstatus
      · intro c id hc
        cases hc
  | drain i call id hpc =>
      -- the thread goes on with the same command
      refine h.goto i (.waiting call id) rfl rfl rfl rfl ?_ ?_ ?_
      · intro c id' hc
        cases hc
        exact h.owned i _ _ (by rw [hpc]; rfl)
      · intro c status b hc
        cases hc
      · intro c id' hc
        cases hc
  | wait i call id hpc =>
      refine h.goto i (afterWait call id (st.syncEvent call.context)) rfl rfl rfl rfl ?_ ?_
        (fun c id' hc => afterWait_reading hc)
      · intro c id' hc
        rw [command_afterWait] at hc
        cases hc
        exact h.owned i _ _ (by rw [hpc]; rfl)
      · intro c status b hc
        have hcommand := command_afterWait call id (st.syncEvent call.context)
        rw [hc] at hcommand
        cases hcommand
  | read i call id hpc =>
      refine h.goto i _ rfl rfl rfl rfl ?_ ?_ ?_
      · intro c id' hc
        cases hc
        exact h.owned i _ _ (by rw [hpc]; rfl)
      · intro c status b hc
        cases hc
      · intro c id' hc
        cases hc
  | ret i call id status b hpc =>
      refine h.goto i .idle rfl rfl rfl rfl ?_ ?_ ?_
      · intro c id' hc
        cases hc
      · intro c status b hc
        cases hc
      · intro c id' hc
        cases hc
  | store id returnCode call hagent hcommand =>
      refine ⟨h.fresh, ?_, h.owned, h.refused, h.reads⟩
      intro id' hid
      cases hid
      exact ⟨call, hcommand⟩
  | update id returnCode call hagent hcommand =>
      refine ⟨h.fresh, ?_, h.owned, h.refused, h.reads⟩
      intro id' hid
      cases hid
      exact ⟨call, hcommand⟩
  | signal id returnCode call hagent hcommand =>
      refine ⟨?_, ?_, ?_, h.refused, h.reads⟩
      · intro id' hid
        -- a name that was not given yet is not the one that completes
        have hne : id' ≠ id := by
          intro hc
          rw [hc] at hid
          have hid' : st.nextCommand ≤ id := hid
          rw [h.fresh id hid'] at hcommand
          cases hcommand
        simp only [AgentState.setCommand, AgentState.setEvent, Function.update_of_ne hne]
        exact h.fresh id' hid
      · intro id' hid
        cases hid
      · intro j c id' hc
        have howned := h.owned j c id' hc
        by_cases hid : id' = id
        · -- the command that completes keeps its call
          subst hid
          rw [hcommand] at howned
          simp only [AgentState.setCommand, AgentState.setEvent, Function.update_self]
          rcases howned with hp | ⟨rc, hp⟩
          · cases hp
            exact Or.inr ⟨returnCode, rfl⟩
          · cases hp
        · simp only [AgentState.setCommand, AgentState.setEvent, Function.update_of_ne hid]
          exact howned

theorem agentInv_reachable {slots : SubscriptionList Cb Cx} {st : AgentState ι κ Cb Cx}
    (h : (agentSystem ι κ slots).Reachable st) : AgentInv st := by
  refine (agentSystem ι κ slots).reachable_induction ?_ ?_ h
  · refine ⟨fun _ _ => rfl, ?_, ?_, ?_, ?_⟩
    · intro id hid
      cases hid
    · intro i call id hid
      cases hid
    · intro i call status b hpc
      cases hpc
    · intro i call id hpc
      cases hpc
  · intro s a s' _ hinv hstep
    exact agentInv_step hinv (agentSteps_of_step hstep)

end Model

end MqttAgent

end ProvisioningSdk
