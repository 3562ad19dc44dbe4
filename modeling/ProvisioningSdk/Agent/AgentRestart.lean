import ProvisioningSdk.Agent.CommandPool

/-!
# Restarting the Agent

`iotshdDev_MQTTAgentInit` once more, as `main` calls it on every pass of its
loop, while the threads of the pass before still run.

The pool is made once, which `initStatus` takes care of. The agent's queue is
made anew every time, and the one it replaces is forgotten together with what
was in it. `Agent_MessageSend` and `Agent_MessageReceive` read the pointer to the
queue before they wait for it, so a thread in one of them goes on with the queue
it has read, be it replaced or not. All queues that were made are kept in the
state, by their number, and so is what each thread has read.

A structure can be lost in two ways. A restart loses what is in the agent's queue
at that moment, and a send that has read the pointer before a restart puts its
structure into a queue nobody receives from. With the replaced queues counted
nothing is ever lost, so these two are the only ways.

Without a restart there is one queue, and when its pointer was read does not
matter. The threads of the command pool, which read it and use it in one step,
are that case.

## Main definitions

* `RestartState`, `RestartAct`, `restartStep`: The threads, with restarts among
  their calls.
* `LosesNone`: A step after which every structure is still somewhere.
* `RestartsSafe`: A restart that finds the agent's queue empty, or a send that
  does not go to a replaced queue.
* `madePlaces`: Where the structures are, replaced queues included.

## Theorems

* `callsSound_step`: A thread in a call keeps what it sends.
* `restartInv_step`: A step moves a structure between the places of `madePlaces`.
* `losesNone_iff_restartsSafe`: The two conditions agree on every step.
* `agentRestarts_commandPool`: Without a restart, it is the command pool.
* `agentRestart_losesNone_iff`: The two conditions agree on whole runs, and every
  structure is in its place in those.
-/

namespace ProvisioningSdk

namespace MqttAgent

open Bytes IotshdPal Transition

section Restart

variable (ι : Type*)

/-- A call that has read the pointer to the agent's queue, with the number of that
    queue. -/
inductive MessageCall
  | messageSend (queue command : Nat)
  | messageReceive (queue : Nat)
  deriving DecidableEq, Repr

/-- The queues, who holds which structure, and who is in which call. -/
structure RestartState where
  poolQueue : Option SyncQueue
  initStatus : Bool
  /-- The agent's queues, in the order in which they were made. -/
  commandQueues : Nat → Option SyncQueue
  /-- The one `xCommandQueue` points to. -/
  current : Nat
  held : List (ι × Nat)
  calls : ι → Option MessageCall

/-- A step of a thread, or `iotshdDev_MQTTAgentInit` with what its two queues are
    given by `malloc`. -/
inductive RestartAct
  | getCommand (thread : ι) (command : Option Nat)
  | releaseCommand (thread : ι) (command : Nat) (structReturned : Bool)
  /-- `Agent_MessageSend` reads `pMsgCtx->queue`. -/
  | enterSend (thread : ι) (command : Nat)
  /-- The send takes effect. -/
  | messageSend (thread : ι) (command : Nat) (queueStatus : Bool)
  /-- `Agent_MessageReceive` reads `pMsgCtx->queue`. -/
  | enterReceive (thread : ι)
  /-- The receive takes effect. -/
  | messageReceive (thread : ι) (command : Option Nat)
  | agentInit (commandMalloc poolMalloc : QueueMalloc)

variable {ι}

/-- What `iotshdDev_MQTTAgentInit` finds. -/
def RestartState.messages (st : RestartState ι) : AgentMessages where
  commandQueue := st.commandQueues st.current
  poolQueue := st.poolQueue
  initStatus := st.initStatus

/-- The state without the queues that were replaced. -/
def RestartState.pool (st : RestartState ι) : PoolState ι where
  messages := st.messages
  held := st.held

variable [DecidableEq ι] (base size commandQueueLength : Nat)

/-- One step. A thread in a call takes no other step than the end of the call. -/
def restartStep (st : RestartState ι) : RestartAct ι → Option (RestartState ι)
  | .getCommand i res => match st.calls i, getCommand st.poolQueue with
      | none, .ok (queue, command) =>
          if command = res then
            some { st with poolQueue := queue, held := takeUp i command st.held }
          else none
      | _, _ => none
  | .releaseCommand i p res => match st.calls i, releaseCommand base size st.poolQueue p with
      | none, .ok (queue, structReturned) =>
          if st.held.contains (i, p) ∧ structReturned = res then
            some { st with poolQueue := queue, held := giveUp i p structReturned st.held }
          else none
      | _, _ => none
  | .enterSend i p =>
      if st.calls i = none ∧ st.held.contains (i, p) then
        some { st with calls := Function.update st.calls i (some (.messageSend st.current p)) }
      else none
  | .messageSend i p res => match st.calls i with
      | some (.messageSend k command) => match messageSend (st.commandQueues k) command with
          | .ok (queue, queueStatus) =>
              if command = p ∧ queueStatus = res then
                some
                  { st with
                    commandQueues := Function.update st.commandQueues k queue
                    held := giveUp i command queueStatus st.held
                    calls := Function.update st.calls i none }
              else none
          | .error _ => none
      | _ => none
  | .enterReceive i =>
      if st.calls i = none then
        some { st with calls := Function.update st.calls i (some (.messageReceive st.current)) }
      else none
  | .messageReceive i res => match st.calls i with
      | some (.messageReceive k) => match messageReceive (st.commandQueues k) with
          | .ok (queue, command) =>
              if command = res then
                some
                  { st with
                    commandQueues := Function.update st.commandQueues k queue
                    held := takeUp i command st.held
                    calls := Function.update st.calls i none }
              else none
          | .error _ => none
      | _ => none
  | .agentInit commandMalloc poolMalloc =>
      match agentInit base size commandMalloc poolMalloc commandQueueLength st.messages with
      | .ok messages =>
          some
            { st with
              poolQueue := messages.poolQueue
              initStatus := messages.initStatus
              commandQueues :=
                Function.update st.commandQueues (st.current + 1) messages.commandQueue
              current := st.current + 1 }
      | .error _ => none

variable (ι) in
/-- The threads `ι` after the first `iotshdDev_MQTTAgentInit`. -/
def agentRestarts (messages : AgentMessages) : System (RestartState ι) (RestartAct ι) where
  init :=
    { poolQueue := messages.poolQueue
      initStatus := messages.initStatus
      commandQueues := fun _ => messages.commandQueue
      current := 0
      held := []
      calls := fun _ => none }
  step := restartStep base size commandQueueLength

/-- Every structure is still in the pool, in the agent's queue or with a thread
    after the step, and a restart takes none from the thread that holds it. -/
def LosesNone (st : RestartState ι) (act : RestartAct ι) : Prop :=
  ∀ st', restartStep base size commandQueueLength st act = some st' →
    (∀ p ∈ commandPlaces st.pool, p ∈ commandPlaces st'.pool) ∧
      match act with
      | .agentInit _ _ => st'.held = st.held
      | _ => True

omit [DecidableEq ι] in
/-- The queue a send has read is the agent's queue of the moment, or full. -/
def SendSafe (st : RestartState ι) : MessageCall → Prop
  | .messageSend k _ =>
      k = st.current ∨ commandQueueLength ≤ (pointers (st.commandQueues k)).length
  | .messageReceive _ => True

omit [DecidableEq ι] in
/-- The agent's queue is empty when it is replaced, and no send puts its structure
    into a queue that was replaced. -/
def RestartsSafe (st : RestartState ι) : RestartAct ι → Prop
  | .agentInit _ _ => pointers st.messages.commandQueue = []
  | .messageSend i _ _ => ∀ call ∈ st.calls i, SendSafe commandQueueLength st call
  | _ => True

instance (st : RestartState ι) : (call : MessageCall) →
    Decidable (SendSafe commandQueueLength st call)
  | .messageSend k _ => inferInstanceAs
      (Decidable (k = st.current ∨ commandQueueLength ≤ (pointers (st.commandQueues k)).length))
  | .messageReceive _ => inferInstanceAs (Decidable True)

instance (st : RestartState ι) : (act : RestartAct ι) →
    Decidable (RestartsSafe commandQueueLength st act)
  | .agentInit _ _ => inferInstanceAs (Decidable (pointers st.messages.commandQueue = []))
  | .messageSend i _ _ =>
      inferInstanceAs (Decidable (∀ call ∈ st.calls i, SendSafe commandQueueLength st call))
  | .getCommand _ _ => inferInstanceAs (Decidable True)
  | .releaseCommand _ _ _ => inferInstanceAs (Decidable True)
  | .enterSend _ _ => inferInstanceAs (Decidable True)
  | .enterReceive _ => inferInstanceAs (Decidable True)
  | .messageReceive _ _ => inferInstanceAs (Decidable True)

/-- The call of the command pool a step is. A thread that reads the pointer does
    nothing to the queues yet. -/
def RestartAct.effect : RestartAct ι → Option (PoolAct ι)
  | .getCommand i res => some (.getCommand i res)
  | .releaseCommand i p res => some (.releaseCommand i p res)
  | .messageSend i p res => some (.messageSend i p res)
  | .messageReceive i res => some (.messageReceive i res)
  | _ => none

/-- A step that is not a restart. -/
def RestartAct.ofThread : RestartAct ι → Bool
  | .agentInit _ _ => false
  | _ => true

/-! ### What a step does -/

variable {base size commandQueueLength} {st st' : RestartState ι}

theorem getCommand_inv {i : ι} {res : Option Nat}
    (hstep : restartStep base size commandQueueLength st (.getCommand i res) = some st') :
    ∃ queue, st.calls i = none ∧ getCommand st.poolQueue = .ok (queue, res) ∧
      st' = { st with poolQueue := queue, held := takeUp i res st.held } := by
  simp only [restartStep] at hstep
  split at hstep
  · rename_i queue command hcalls hqueue
    split at hstep
    · rename_i hres
      cases hres
      exact ⟨queue, hcalls, hqueue, (Option.some.inj hstep).symm⟩
    · cases hstep
  · cases hstep

theorem releaseCommand_inv {i : ι} {p : Nat} {res : Bool}
    (hstep : restartStep base size commandQueueLength st (.releaseCommand i p res) = some st') :
    ∃ queue, st.calls i = none ∧ releaseCommand base size st.poolQueue p = .ok (queue, res) ∧
      (i, p) ∈ st.held ∧ st' = { st with poolQueue := queue, held := giveUp i p res st.held } := by
  simp only [restartStep] at hstep
  split at hstep
  · rename_i queue structReturned hcalls hqueue
    split at hstep
    · rename_i hcase
      rcases hcase with ⟨hheld, rfl⟩
      exact ⟨queue, hcalls, hqueue, List.contains_iff_mem.mp hheld, (Option.some.inj hstep).symm⟩
    · cases hstep
  · cases hstep

theorem enterSend_inv {i : ι} {p : Nat}
    (hstep : restartStep base size commandQueueLength st (.enterSend i p) = some st') :
    st.calls i = none ∧ (i, p) ∈ st.held ∧
      st' = { st with
        calls := Function.update st.calls i (some (.messageSend st.current p)) } := by
  simp only [restartStep, Option.ite_none_right_eq_some] at hstep
  exact ⟨hstep.1.1, List.contains_iff_mem.mp hstep.1.2, (Option.some.inj hstep.2).symm⟩

theorem messageSend_inv {i : ι} {p : Nat} {res : Bool}
    (hstep : restartStep base size commandQueueLength st (.messageSend i p res) = some st') :
    ∃ k queue, st.calls i = some (.messageSend k p) ∧
      messageSend (st.commandQueues k) p = .ok (queue, res) ∧
      st' = { st with
        commandQueues := Function.update st.commandQueues k queue
        held := giveUp i p res st.held
        calls := Function.update st.calls i none } := by
  simp only [restartStep] at hstep
  split at hstep
  · rename_i k command hcalls
    split at hstep
    · rename_i queue queueStatus hqueue
      split at hstep
      · rename_i hcase
        rcases hcase with ⟨rfl, rfl⟩
        exact ⟨k, queue, hcalls, hqueue, (Option.some.inj hstep).symm⟩
      · cases hstep
    · cases hstep
  · cases hstep

theorem enterReceive_inv {i : ι}
    (hstep : restartStep base size commandQueueLength st (.enterReceive i) = some st') :
    st.calls i = none ∧
      st' = { st with
        calls := Function.update st.calls i (some (.messageReceive st.current)) } := by
  simp only [restartStep, Option.ite_none_right_eq_some] at hstep
  exact ⟨hstep.1, (Option.some.inj hstep.2).symm⟩

theorem messageReceive_inv {i : ι} {res : Option Nat}
    (hstep : restartStep base size commandQueueLength st (.messageReceive i res) = some st') :
    ∃ k queue, st.calls i = some (.messageReceive k) ∧
      messageReceive (st.commandQueues k) = .ok (queue, res) ∧
      st' = { st with
        commandQueues := Function.update st.commandQueues k queue
        held := takeUp i res st.held
        calls := Function.update st.calls i none } := by
  simp only [restartStep] at hstep
  split at hstep
  · rename_i k hcalls
    split at hstep
    · rename_i queue command hqueue
      split at hstep
      · rename_i hres
        cases hres
        exact ⟨k, queue, hcalls, hqueue, (Option.some.inj hstep).symm⟩
      · cases hstep
    · cases hstep
  · cases hstep

omit [DecidableEq ι] in
/-- The pool is made once. -/
theorem initializePool_again {malloc : QueueMalloc} {messages : AgentMessages}
    (hstatus : messages.initStatus = true) :
    initializePool base size malloc messages = .ok messages := by
  have hnot : ¬ messages.initStatus = false := by
    rw [hstatus]
    decide
  rw [initializePool, if_neg hnot]

/-- A second `iotshdDev_MQTTAgentInit` makes an empty queue and leaves the pool as
    it is. -/
theorem agentInit_inv_again (hlength : commandQueueLength ≤ 2 ^ 29)
    {commandMalloc poolMalloc : QueueMalloc} (hstatus : st.initStatus = true)
    (hstep : restartStep base size commandQueueLength st (.agentInit commandMalloc poolMalloc) =
      some st') :
    ∃ queue, (QueueSound commandQueueLength queue ∨ QueueDead queue) ∧ pointers queue = [] ∧
      st' = { st with
        commandQueues := Function.update st.commandQueues (st.current + 1) queue
        current := st.current + 1 } := by
  simp only [restartStep] at hstep
  split at hstep
  · rename_i messages hinit
    rcases bind_eq_ok.mp hinit with ⟨queue, hqueue, hpool⟩
    rw [initializePool_again hstatus, Except.ok.injEq] at hpool
    subst hpool
    rcases syncQueueCreate_pointers hlength hqueue with ⟨hok, hempty⟩
    exact ⟨queue, hok, hempty, (Option.some.inj hstep).symm⟩
  · cases hstep

/-! ### Threads in a call -/

omit [DecidableEq ι] in
/-- A thread that sends holds what it sends, and the queue a thread has read was
    made. -/
def CallsSound (current : Nat) (calls : ι → Option MessageCall) (held : List (ι × Nat)) : Prop :=
  ∀ i, match calls i with
    | none => True
    | some (.messageSend k p) => k ≤ current ∧ (i, p) ∈ held
    | some (.messageReceive k) => k ≤ current

omit [DecidableEq ι] in
/-- More queues, fewer calls, and no structure taken from a thread in a call. -/
theorem CallsSound.mono {current current' : Nat} {calls calls' : ι → Option MessageCall}
    {held held' : List (ι × Nat)} (h : CallsSound current calls held)
    (hcurrent : current ≤ current')
    (hcalls : ∀ j call, calls' j = some call →
      calls j = some call ∧ ∀ p, (j, p) ∈ held → (j, p) ∈ held') :
    CallsSound current' calls' held' := by
  intro j
  have hj := h j
  cases hcall : calls' j with
  | none => trivial
  | some call =>
      rcases hcalls j call hcall with ⟨hbefore, hkeeps⟩
      rw [hbefore] at hj
      cases call with
      | messageSend k p => exact ⟨Nat.le_trans hj.1 hcurrent, hkeeps p hj.2⟩
      | messageReceive k => exact Nat.le_trans hj hcurrent

/-- A thread enters a call. -/
theorem CallsSound.enter {current : Nat} {calls : ι → Option MessageCall} {held : List (ι × Nat)}
    (h : CallsSound current calls held) {i : ι} {call : MessageCall}
    (hcall : match call with
      | .messageSend k p => k ≤ current ∧ (i, p) ∈ held
      | .messageReceive k => k ≤ current) :
    CallsSound current (Function.update calls i (some call)) held := by
  intro j
  by_cases hj : j = i
  · subst hj
    rw [Function.update_self]
    cases call with
    | messageSend k p => exact hcall
    | messageReceive k => exact hcall
  · rw [Function.update_of_ne hj]
    exact h j

/-- A thread leaves its call, and what the others hold stays with them. -/
theorem CallsSound.leave {current : Nat} {calls : ι → Option MessageCall}
    {held held' : List (ι × Nat)} (h : CallsSound current calls held) {i : ι}
    (hheld : ∀ j p, j ≠ i → (j, p) ∈ held → (j, p) ∈ held') :
    CallsSound current (Function.update calls i none) held' := by
  refine h.mono (Nat.le_refl _) ?_
  intro j call hcall
  have hj : j ≠ i := by
    intro hj
    rw [hj, Function.update_self] at hcall
    cases hcall
  rw [Function.update_of_ne hj] at hcall
  exact ⟨hcall, fun p => hheld j p hj⟩

/-- A thread that is in no call changes what it holds. -/
theorem CallsSound.idle {current : Nat} {calls : ι → Option MessageCall}
    {held held' : List (ι × Nat)} (h : CallsSound current calls held) {i : ι}
    (hidle : calls i = none) (hheld : ∀ j p, j ≠ i → (j, p) ∈ held → (j, p) ∈ held') :
    CallsSound current calls held' := by
  have hsame : Function.update calls i none = calls := by
    rw [← hidle, Function.update_eq_self]
  exact hsame ▸ h.leave hheld

omit [DecidableEq ι] in
theorem mem_takeUp (i : ι) (command : Option Nat) {held : List (ι × Nat)} (j : ι) (p : Nat)
    (h : (j, p) ∈ held) : (j, p) ∈ takeUp i command held :=
  List.mem_append_right _ h

theorem mem_giveUp (i : ι) (command : Nat) (taken : Bool) {held : List (ι × Nat)} (j : ι) (p : Nat)
    (hj : j ≠ i) (h : (j, p) ∈ held) : (j, p) ∈ giveUp i command taken held := by
  have hne : (j, p) ≠ (i, command) := fun heq => hj (congrArg Prod.fst heq)
  cases taken with
  | false => exact h
  | true => exact (List.mem_erase_of_ne hne).mpr h

theorem callsSound_step {act : RestartAct ι} (h : CallsSound st.current st.calls st.held)
    (hstep : restartStep base size commandQueueLength st act = some st') :
    CallsSound st'.current st'.calls st'.held := by
  cases act with
  -- the pool is called by a thread that is in no other call
  | getCommand i res =>
      rcases getCommand_inv hstep with ⟨queue, hidle, -, rfl⟩
      exact h.idle hidle (fun j p _ => mem_takeUp i res j p)
  | releaseCommand i p res =>
      rcases releaseCommand_inv hstep with ⟨queue, hidle, -, -, rfl⟩
      exact h.idle hidle (mem_giveUp i p res)
  | enterSend i p =>
      rcases enterSend_inv hstep with ⟨-, hheld, rfl⟩
      exact h.enter ⟨Nat.le_refl _, hheld⟩
  | messageSend i p res =>
      rcases messageSend_inv hstep with ⟨k, queue, -, -, rfl⟩
      exact h.leave (mem_giveUp i p res)
  | enterReceive i =>
      rcases enterReceive_inv hstep with ⟨-, rfl⟩
      exact h.enter (Nat.le_refl _)
  | messageReceive i res =>
      rcases messageReceive_inv hstep with ⟨k, queue, -, -, rfl⟩
      exact h.leave (fun j p _ => mem_takeUp i res j p)
  -- the queues that were read stay where they are
  | agentInit commandMalloc poolMalloc =>
      simp only [restartStep] at hstep
      split at hstep
      · cases hstep
        exact h.mono (Nat.le_succ _) (fun _ _ hcall => ⟨hcall, fun _ hp => hp⟩)
      · cases hstep

/-! ### All queues that were made -/

/-- What is in the first `n` queues of the agent. -/
def queuePlaces (queues : Nat → Option SyncQueue) (n : Nat) : List Nat :=
  (List.range n).flatMap (fun k => pointers (queues k))

/-- Every place a structure is in, with those nobody takes it from any more. -/
def madePlaces (st : RestartState ι) : List Nat :=
  pointers st.poolQueue ++ queuePlaces st.commandQueues (st.current + 1) ++ st.held.map Prod.snd

theorem queuePlaces_succ (queues : Nat → Option SyncQueue) (n : Nat) :
    queuePlaces queues (n + 1) = queuePlaces queues n ++ pointers (queues n) := by
  simp only [queuePlaces, List.range_succ, List.flatMap_append, List.flatMap_cons,
    List.flatMap_nil, List.append_nil]

/-- A queue that was not counted changes. -/
theorem queuePlaces_update_of_le (queues : Nat → Option SyncQueue) {n k : Nat} (hk : n ≤ k)
    (queue : Option SyncQueue) :
    queuePlaces (Function.update queues k queue) n = queuePlaces queues n := by
  induction n with
  | zero => rfl
  | succ n ih =>
      have hne : n ≠ k := by omega
      rw [queuePlaces_succ, queuePlaces_succ, ih (by omega), Function.update_of_ne hne]

/-- One of those that were counted changes. -/
theorem count_queuePlaces_update (queues : Nat → Option SyncQueue) {n k : Nat} (hk : k < n)
    (queue : Option SyncQueue) (a : Nat) :
    (queuePlaces (Function.update queues k queue) n).count a + (pointers (queues k)).count a =
      (queuePlaces queues n).count a + (pointers queue).count a := by
  induction n with
  | zero => omega
  | succ n ih =>
      rw [queuePlaces_succ, queuePlaces_succ, List.count_append, List.count_append]
      by_cases hlast : k = n
      · subst hlast
        rw [queuePlaces_update_of_le queues (Nat.le_refl k), Function.update_self]
        omega
      · have hne : n ≠ k := fun h => hlast h.symm
        have hrest := ih (by omega)
        rw [Function.update_of_ne hne]
        omega

omit [DecidableEq ι] in
theorem count_madePlaces (st : RestartState ι) (a : Nat) :
    (madePlaces st).count a = (pointers st.poolQueue).count a +
      (queuePlaces st.commandQueues (st.current + 1)).count a +
      (st.held.map Prod.snd).count a := by
  simp only [madePlaces, List.count_append]

omit [DecidableEq ι] in
/-- A structure is in its place or in a replaced queue. -/
theorem count_madePlaces_pool (st : RestartState ι) (a : Nat) :
    (madePlaces st).count a =
      (commandPlaces st.pool).count a + (queuePlaces st.commandQueues st.current).count a := by
  rw [count_madePlaces, count_commandPlaces, queuePlaces_succ, List.count_append]
  simp only [RestartState.pool, RestartState.messages]
  omega

/-- The queues are sound as far as they were made, and they and the threads have
    the structures between them. -/
structure RestartInv (base size commandQueueLength : Nat) (st : RestartState ι) : Prop where
  pool : QueueSound commandContextsPoolSize st.poolQueue
  command : ∀ k, k ≤ st.current →
    QueueSound commandQueueLength (st.commandQueues k) ∨ QueueDead (st.commandQueues k)
  initStatus : st.initStatus = true
  calls : CallsSound st.current st.calls st.held
  perm : (madePlaces st).Perm (commandAddrs base size)

omit [DecidableEq ι] in
/-- What a thread sends is a pointer to a structure. -/
theorem RestartInv.sends (h : RestartInv base size commandQueueLength st) {i : ι} {k p : Nat}
    (hcall : st.calls i = some (.messageSend k p)) :
    k ≤ st.current ∧ (i, p) ∈ st.held ∧ p ∈ commandAddrs base size := by
  have hi := h.calls i
  rw [hcall] at hi
  refine ⟨hi.1, hi.2, h.perm.mem_iff.mp ?_⟩
  exact List.mem_append_right _ (List.mem_map.mpr ⟨_, hi.2, rfl⟩)

omit [DecidableEq ι] in
theorem RestartInv.receives (h : RestartInv base size commandQueueLength st) {i : ι} {k : Nat}
    (hcall : st.calls i = some (.messageReceive k)) : k ≤ st.current := by
  have hi := h.calls i
  rw [hcall] at hi
  exact hi

omit [DecidableEq ι] in
/-- One queue of the agent changes. -/
theorem RestartInv.command_update (h : RestartInv base size commandQueueLength st) {k : Nat}
    {queue : Option SyncQueue} (hqueue : QueueSound commandQueueLength queue ∨ QueueDead queue)
    (j : Nat) (hj : j ≤ st.current) :
    QueueSound commandQueueLength (Function.update st.commandQueues k queue j) ∨
      QueueDead (Function.update st.commandQueues k queue j) := by
  by_cases hjk : j = k
  · rw [hjk, Function.update_self]
    exact hqueue
  · rw [Function.update_of_ne hjk]
    exact h.command j hj

/-- A step moves a structure from one place to another, or none, and no restart
    loses any as long as the replaced queues are counted. -/
theorem restartInv_step (hsize : 0 < size) (hbase : base + commandContextsPoolSize * size ≤ 2 ^ 64)
    (hlength : commandQueueLength ≤ 2 ^ 29) {act : RestartAct ι}
    (h : RestartInv base size commandQueueLength st)
    (hstep : restartStep base size commandQueueLength st act = some st') :
    RestartInv base size commandQueueLength st' := by
  have hbounded : ∀ {p : Nat}, p ∈ commandAddrs base size → p < 2 ^ 64 := fun hp =>
    (commandAddr_bounds hsize hbase hp).1
  -- the places have to be counted only where something moves
  have hcount : (∀ a, (madePlaces st').count a = (madePlaces st).count a) →
      (madePlaces st').Perm (commandAddrs base size) := fun hcount =>
    (List.perm_iff_count.mpr hcount).trans h.perm
  have hcalls := callsSound_step h.calls hstep
  cases act with
  | getCommand i res =>
      rcases getCommand_inv hstep with ⟨queue, -, hqueue, rfl⟩
      rcases h.pool.receive with ⟨queue', command, hqueue', hsound, hpop⟩
      rw [getCommand, hqueue', Except.ok.injEq, Prod.mk.injEq] at hqueue
      rcases hqueue with ⟨rfl, rfl⟩
      refine ⟨hsound, h.command, h.initStatus, hcalls, hcount ?_⟩
      intro a
      rw [count_madePlaces, count_madePlaces, count_takeUp, hpop, List.count_append]
      simp only
      omega
  | releaseCommand i p res =>
      rcases releaseCommand_inv hstep with ⟨queue, -, hqueue, hheld, rfl⟩
      have hmem : p ∈ commandAddrs base size :=
        h.perm.mem_iff.mp (List.mem_append_right _ (List.mem_map.mpr ⟨_, hheld, rfl⟩))
      rcases releaseCommand_cases h.pool (hbounded hmem) hqueue with
        ⟨hsound, ⟨rfl, hpush, -⟩ | ⟨rfl, rfl, -⟩⟩
      · -- a thread that holds it gives it back to the pool
        refine ⟨hsound, h.command, h.initStatus, hcalls, hcount ?_⟩
        intro a
        rw [count_madePlaces, count_madePlaces, count_giveUp hheld, hpush, List.count_append]
        simp only
        omega
      · exact ⟨hsound, h.command, h.initStatus, hcalls, h.perm⟩
  -- reading the pointer moves nothing
  | enterSend i p =>
      rcases enterSend_inv hstep with ⟨-, -, rfl⟩
      exact ⟨h.pool, h.command, h.initStatus, hcalls, h.perm⟩
  | messageSend i p res =>
      rcases messageSend_inv hstep with ⟨k, queue, hcall, hqueue, rfl⟩
      rcases h.sends hcall with ⟨hk, hheld, hmem⟩
      have hmade : k < st.current + 1 := by omega
      rcases messageSend_cases (h.command k hk) (hbounded hmem) hqueue with
        ⟨hsound, ⟨rfl, hpush, -⟩ | ⟨rfl, rfl, -⟩⟩
      · refine ⟨h.pool, h.command_update (Or.inl hsound), h.initStatus, hcalls, hcount ?_⟩
        -- the queue is one of those made, whether or not it was replaced
        intro a
        have hupdate := count_queuePlaces_update st.commandQueues hmade queue a
        rw [hpush, List.count_append] at hupdate
        rw [count_madePlaces, count_madePlaces, count_giveUp hheld]
        simp only
        omega
      · rw [Function.update_eq_self]
        exact ⟨h.pool, h.command, h.initStatus, hcalls, h.perm⟩
  | enterReceive i =>
      rcases enterReceive_inv hstep with ⟨-, rfl⟩
      exact ⟨h.pool, h.command, h.initStatus, hcalls, h.perm⟩
  | messageReceive i res =>
      rcases messageReceive_inv hstep with ⟨k, queue, hcall, hqueue, rfl⟩
      have hk := h.receives hcall
      have hmade : k < st.current + 1 := by omega
      rcases messageReceive_cases (h.command k hk) hqueue with ⟨hok, hpop⟩
      refine ⟨h.pool, h.command_update hok, h.initStatus, hcalls, hcount ?_⟩
      intro a
      have hupdate := count_queuePlaces_update st.commandQueues hmade queue a
      rw [hpop, List.count_append] at hupdate
      rw [count_madePlaces, count_madePlaces, count_takeUp]
      simp only
      omega
  | agentInit commandMalloc poolMalloc =>
      rcases agentInit_inv_again hlength h.initStatus hstep with ⟨queue, hok, hempty, rfl⟩
      refine ⟨h.pool, ?_, h.initStatus, hcalls, hcount ?_⟩
      · intro k hk
        by_cases hnew : k = st.current + 1
        · simp only [hnew, Function.update_self]
          exact hok
        · simp only [Function.update_of_ne hnew]
          simp only at hk
          exact h.command k (by omega)
      · -- the queue it replaces stays among those made
        intro a
        rw [count_madePlaces, count_madePlaces, queuePlaces_succ,
          queuePlaces_update_of_le _ (Nat.le_refl _)]
        simp only [Function.update_self, hempty, List.append_nil]

/-! ### What is lost -/

omit [DecidableEq ι] in
/-- No structure is in two places. -/
theorem RestartInv.count_le (h : RestartInv base size commandQueueLength st) (hsize : 0 < size)
    (a : Nat) : (madePlaces st).count a ≤ 1 :=
  List.nodup_iff_count_le_one.mp
    (h.perm.nodup_iff.mpr (nodup_commandAddrs base size hsize)) a

omit [DecidableEq ι] in
/-- A structure that is in no replaced queue it was not in before is still in its
    place. -/
theorem RestartInv.keeps (h : RestartInv base size commandQueueLength st)
    (h' : RestartInv base size commandQueueLength st')
    (hreplaced : ∀ a, (queuePlaces st'.commandQueues st'.current).count a ≤
      (queuePlaces st.commandQueues st.current).count a) :
    ∀ p ∈ commandPlaces st.pool, p ∈ commandPlaces st'.pool := by
  intro p hp
  have hmade := (h'.perm.trans h.perm.symm).count_eq p
  rw [count_madePlaces_pool, count_madePlaces_pool] at hmade
  have hpos := List.count_pos_iff.mpr hp
  have hle := hreplaced p
  exact List.count_pos_iff.mp (by omega)

omit [DecidableEq ι] in
/-- A structure in a replaced queue is in no place any more. -/
theorem RestartInv.loses (h : RestartInv base size commandQueueLength st) (hsize : 0 < size)
    {p : Nat} (hp : p ∈ queuePlaces st.commandQueues st.current) :
    p ∉ commandPlaces st.pool := by
  intro hplace
  have hone := h.count_le hsize p
  rw [count_madePlaces_pool] at hone
  have hpos := List.count_pos_iff.mpr hp
  have hpos' := List.count_pos_iff.mpr hplace
  omega

omit [DecidableEq ι] in
/-- With every structure in its place, there is nothing else. -/
theorem RestartInv.placed (h : RestartInv base size commandQueueLength st) (hsize : 0 < size)
    (hplace : ∀ p ∈ commandAddrs base size, p ∈ commandPlaces st.pool) :
    (commandPlaces st.pool).Perm (commandAddrs base size) := by
  refine (List.perm_iff_count.mpr ?_).trans h.perm
  intro a
  have hone := h.count_le hsize a
  rw [count_madePlaces_pool] at hone ⊢
  by_cases ha : a ∈ commandAddrs base size
  · have hpos := List.count_pos_iff.mpr (hplace a ha)
    omega
  · have hnone : (madePlaces st).count a = 0 :=
      List.count_eq_zero.mpr (fun hmem => ha (h.perm.mem_iff.mp hmem))
    rw [count_madePlaces_pool] at hnone
    omega

/-- There is one state after a step. -/
theorem losesNone_iff_of_step (act : RestartAct ι) :
    restartStep base size commandQueueLength st act = some st' →
    (LosesNone base size commandQueueLength st act ↔
      (∀ p ∈ commandPlaces st.pool, p ∈ commandPlaces st'.pool) ∧
        match act with
        | .agentInit _ _ => st'.held = st.held
        | _ => True) := by
  intro hstep
  constructor
  · intro h
    exact h st' hstep
  · intro h st'' hstep''
    cases Option.some.inj (hstep.symm.trans hstep'')
    exact h

/-- A step keeps every structure somewhere if and only if it is neither a restart
    with something in the agent's queue nor a send that puts its structure into a
    queue that was replaced. -/
theorem losesNone_iff_restartsSafe (hsize : 0 < size)
    (hbase : base + commandContextsPoolSize * size ≤ 2 ^ 64)
    (hlength : commandQueueLength ≤ 2 ^ 29) {act : RestartAct ι}
    (h : RestartInv base size commandQueueLength st)
    (hstep : restartStep base size commandQueueLength st act = some st') :
    LosesNone base size commandQueueLength st act ↔
      RestartsSafe commandQueueLength st act := by
  have h' := restartInv_step hsize hbase hlength h hstep
  rw [losesNone_iff_of_step act hstep]
  -- the calls on the pool, and reading the pointer
  cases act with
  | getCommand i res =>
      rcases getCommand_inv hstep with ⟨queue, -, -, rfl⟩
      exact ⟨fun _ => trivial, fun _ => ⟨h.keeps h' (fun _ => Nat.le_refl _), trivial⟩⟩
  | releaseCommand i p res =>
      rcases releaseCommand_inv hstep with ⟨queue, -, -, -, rfl⟩
      exact ⟨fun _ => trivial, fun _ => ⟨h.keeps h' (fun _ => Nat.le_refl _), trivial⟩⟩
  | enterSend i p =>
      rcases enterSend_inv hstep with ⟨-, -, rfl⟩
      exact ⟨fun _ => trivial, fun _ => ⟨fun _ hp => hp, trivial⟩⟩
  | enterReceive i =>
      rcases enterReceive_inv hstep with ⟨-, rfl⟩
      exact ⟨fun _ => trivial, fun _ => ⟨fun _ hp => hp, trivial⟩⟩
  -- a send is safe where its queue has a receiver, or takes nothing
  | messageSend i p res =>
      rcases messageSend_inv hstep with ⟨k, queue, hcall, hqueue, rfl⟩
      rcases h.sends hcall with ⟨hk, hheld, hmem⟩
      have hsafe : RestartsSafe commandQueueLength st (.messageSend i p res) ↔
          k = st.current ∨ commandQueueLength ≤ (pointers (st.commandQueues k)).length := by
        simp only [RestartsSafe, SendSafe, hcall, Option.mem_def, Option.some.injEq, forall_eq']
      rcases messageSend_cases (h.command k hk) (commandAddr_bounds hsize hbase hmem).1 hqueue with
        ⟨-, ⟨-, hpush, hroom⟩ | ⟨-, rfl, hfull⟩⟩
      · rw [hsafe]
        constructor
        · rintro ⟨hkeeps, -⟩
          left
          by_contra hreplaced
          -- the thread had the structure, and now the replaced queue has it
          refine h'.loses hsize (List.mem_flatMap.mpr ⟨k, List.mem_range.mpr ?_, ?_⟩) (hkeeps p ?_)
          · exact Nat.lt_of_le_of_ne hk hreplaced
          · simp only [Function.update_self, hpush]
            exact List.mem_append_right _ List.mem_cons_self
          · exact List.mem_append_right _ (List.mem_map.mpr ⟨_, hheld, rfl⟩)
        · intro hor
          refine ⟨h.keeps h' ?_, trivial⟩
          intro a
          rcases hor with rfl | hfull
          · exact Nat.le_of_eq (by rw [queuePlaces_update_of_le _ (Nat.le_refl _)])
          · omega
      · -- a full queue takes nothing, and the thread keeps the structure
        refine ⟨fun _ => hsafe.mpr (Or.inr (Nat.not_lt.mp hfull)),
          fun _ => ⟨h.keeps h' ?_, trivial⟩⟩
        intro a
        rw [Function.update_eq_self]
  | messageReceive i res =>
      rcases messageReceive_inv hstep with ⟨k, queue, hcall, hqueue, rfl⟩
      have hk := h.receives hcall
      refine ⟨fun _ => trivial, fun _ => ⟨h.keeps h' ?_, trivial⟩⟩
      intro a
      by_cases hcurrent : k = st.current
      · rw [hcurrent, queuePlaces_update_of_le _ (Nat.le_refl _)]
      · -- a structure that is received from a replaced queue is found again
        have hpop := (messageReceive_cases (h.command k hk) hqueue).2
        have hupdate := count_queuePlaces_update st.commandQueues
          (show k < st.current by omega) queue a
        rw [hpop, List.count_append] at hupdate
        simp only
        omega
  | agentInit commandMalloc poolMalloc =>
      rcases agentInit_inv_again hlength h.initStatus hstep with ⟨queue, -, -, rfl⟩
      -- what was in the agent's queue is in a replaced one now
      have hreplaced : queuePlaces (Function.update st.commandQueues (st.current + 1) queue)
          (st.current + 1) =
            queuePlaces st.commandQueues st.current ++ pointers (st.commandQueues st.current) := by
        rw [queuePlaces_update_of_le _ (Nat.le_refl _), queuePlaces_succ]
      constructor
      · rintro ⟨hkeeps, -⟩
        refine List.eq_nil_iff_forall_not_mem.mpr ?_
        intro p hp
        refine h'.loses hsize ?_ (hkeeps p ?_)
        · exact hreplaced ▸ List.mem_append_right _ hp
        · exact List.mem_append_left _ (List.mem_append_right _ hp)
      · intro hempty
        refine ⟨h.keeps h' ?_, rfl⟩
        intro a
        simp only [RestartsSafe, RestartState.messages] at hempty
        simp only [hreplaced, hempty, List.append_nil]
        exact Nat.le_refl _

/-! ### Runs -/

/-- A step of a thread on the queue made first is a call of the command pool, or
    none. -/
theorem poolStep_of_restartStep {act : RestartAct ι} (hcurrent : st.current = 0)
    (hcalls : CallsSound st.current st.calls st.held) (hthread : act.ofThread = true)
    (hstep : restartStep base size commandQueueLength st act = some st') :
    st'.current = 0 ∧
      (match act.effect with
      | some call => poolStep base size st.pool call = some st'.pool
      | none => st'.pool = st.pool) := by
  cases act with
  | getCommand i res =>
      rcases getCommand_inv hstep with ⟨queue, -, hqueue, rfl⟩
      refine ⟨hcurrent, ?_⟩
      simp only [RestartAct.effect, poolStep, RestartState.pool, RestartState.messages, hqueue,
        if_true]
  | releaseCommand i p res =>
      rcases releaseCommand_inv hstep with ⟨queue, -, hqueue, hheld, rfl⟩
      refine ⟨hcurrent, ?_⟩
      simp only [RestartAct.effect, poolStep, RestartState.pool, RestartState.messages, hqueue,
        hheld, and_self, if_true]
  -- reading the pointer is no call of the pool
  | enterSend i p =>
      rcases enterSend_inv hstep with ⟨-, -, rfl⟩
      exact ⟨hcurrent, rfl⟩
  | enterReceive i =>
      rcases enterReceive_inv hstep with ⟨-, rfl⟩
      exact ⟨hcurrent, rfl⟩
  | messageSend i p res =>
      rcases messageSend_inv hstep with ⟨k, queue, hcall, hqueue, rfl⟩
      have hi := hcalls i
      rw [hcall] at hi
      -- the queue it has read is the only one, and the thread kept its structure
      have hk : k = st.current := by omega
      rw [hk] at hqueue
      refine ⟨hcurrent, ?_⟩
      simp only [RestartAct.effect, poolStep, RestartState.pool, RestartState.messages, hqueue,
        hi.2, hk, Function.update_self, and_self, if_true]
  | messageReceive i res =>
      rcases messageReceive_inv hstep with ⟨k, queue, hcall, hqueue, rfl⟩
      have hi := hcalls i
      rw [hcall] at hi
      have hk : k = st.current := by
        simp only at hi
        omega
      rw [hk] at hqueue
      refine ⟨hcurrent, ?_⟩
      simp only [RestartAct.effect, poolStep, RestartState.pool, RestartState.messages, hqueue,
        hk, Function.update_self, if_true]
  | agentInit commandMalloc poolMalloc => cases hthread

/-- As long as the agent is not initialised again, the threads that read the
    pointer first and use it later do what they do in the command pool, where the
    two are one step. -/
theorem agentRestarts_commandPool (messages : AgentMessages) (acts : List (RestartAct ι))
    (hthread : ∀ a ∈ acts, a.ofThread = true) (st : RestartState ι)
    (hrun : (agentRestarts ι base size commandQueueLength messages).run acts = some st) :
    (commandPool ι base size messages).run (acts.filterMap RestartAct.effect) = some st.pool := by
  refine ((agentRestarts ι base size commandQueueLength messages).run_induction
    (P := fun acts st => (∀ a ∈ acts, a.ofThread = true) →
      st.current = 0 ∧ CallsSound st.current st.calls st.held ∧
        (commandPool ι base size messages).run (acts.filterMap RestartAct.effect) = some st.pool)
    (fun _ => ⟨rfl, fun _ => trivial, rfl⟩) ?_ acts st hrun hthread).2.2
  intro acts s act s' _ ih hstep hthread
  rcases ih (fun a ha => hthread a (List.mem_append_left _ ha)) with ⟨hcurrent, hcalls, hpool⟩
  rcases poolStep_of_restartStep hcurrent hcalls
    (hthread act (List.mem_append_right _ List.mem_cons_self)) hstep with ⟨hcurrent', heffect⟩
  refine ⟨hcurrent', callsSound_step hcalls hstep, ?_⟩
  rw [System.filterMap_concat]
  cases hact : act.effect with
  | none =>
      rw [hact] at heffect
      rw [Option.toList_none, List.append_nil, hpool]
      exact congrArg some heffect.symm
  | some call =>
      rw [hact] at heffect
      exact ((commandPool ι base size messages).run_concat _ call _).mpr ⟨_, hpool, heffect⟩

/-- After the first `iotshdDev_MQTTAgentInit` the pool is marked as made. -/
theorem agentInit_initStatus {commandMalloc poolMalloc : QueueMalloc}
    {messages : AgentMessages}
    (hinit : agentInit base size commandMalloc poolMalloc commandQueueLength ⟨none, none, false⟩ =
      .ok messages) : messages.initStatus = true := by
  rcases bind_eq_ok.mp hinit with ⟨command, -, hpool⟩
  rcases bind_eq_ok.mp hpool with ⟨queue, -, hrest⟩
  rcases bind_eq_ok.mp hrest with ⟨pool, -, hmessages⟩
  cases hmessages
  rfl

/-- The threads start with one queue and all structures in the pool. -/
theorem restartInv_init (hsize : 0 < size)
    (hbase : base + commandContextsPoolSize * size ≤ 2 ^ 64)
    {commandMalloc poolMalloc : QueueMalloc} (hlength : commandQueueLength ≤ 2 ^ 29)
    {messages : AgentMessages}
    (hinit : agentInit base size commandMalloc poolMalloc commandQueueLength ⟨none, none, false⟩ =
      .ok messages) :
    RestartInv base size commandQueueLength
      (agentRestarts ι base size commandQueueLength messages).init := by
  have hpool := agentInit_inv ι hsize hbase commandMalloc poolMalloc hlength hinit
  refine ⟨hpool.pool, fun _ _ => hpool.command, agentInit_initStatus hinit, fun _ => trivial, ?_⟩
  refine (List.perm_iff_count.mpr ?_).trans hpool.perm
  -- there is no queue before the first
  intro a
  rw [count_madePlaces_pool]
  exact Nat.add_zero _

variable (ι base size commandQueueLength) in
/-- Whatever the threads do and however often the agent is initialised again, no
    step of a run loses a structure if and only if every restart finds the
    agent's queue empty and no send puts its structure into a replaced queue. In
    such a run every structure is in exactly one place, and all are in the pool
    once nobody holds or has sent one. -/
theorem agentRestart_losesNone_iff (hsize : 0 < size)
    (hbase : base + commandContextsPoolSize * size ≤ 2 ^ 64)
    (commandMalloc poolMalloc : QueueMalloc) (hlength : commandQueueLength ≤ 2 ^ 29)
    (messages : AgentMessages)
    (hinit : agentInit base size commandMalloc poolMalloc commandQueueLength ⟨none, none, false⟩ =
      .ok messages)
    (acts : List (RestartAct ι)) (st : RestartState ι)
    (hrun : (agentRestarts ι base size commandQueueLength messages).run acts = some st) :
    ((agentRestarts ι base size commandQueueLength messages).Guarded
          (LosesNone base size commandQueueLength) acts ↔
        (agentRestarts ι base size commandQueueLength messages).Guarded
          (RestartsSafe commandQueueLength) acts) ∧
      ((agentRestarts ι base size commandQueueLength messages).Guarded
          (RestartsSafe commandQueueLength) acts →
        (commandPlaces st.pool).Perm (commandAddrs base size) ∧
          (st.held = [] → pointers st.messages.commandQueue = [] →
            (pointers st.poolQueue).Perm (commandAddrs base size))) := by
  have hinv : ∀ s, (agentRestarts ι base size commandQueueLength messages).Reachable s →
      RestartInv base size commandQueueLength s := fun s hs =>
    (agentRestarts ι base size commandQueueLength messages).reachable_induction
      (restartInv_init hsize hbase hlength hinit)
      (fun _ _ _ _ hq hstep => restartInv_step hsize hbase hlength hq hstep) hs
  have hiff := (agentRestarts ι base size commandQueueLength messages).guarded_congr
    (fun s _ _ hs hstep => losesNone_iff_restartsSafe hsize hbase hlength (hinv s hs) hstep)
    acts st hrun
  refine ⟨hiff, ?_⟩
  intro hsafe
  -- what is lost in no step is in its place at the end
  have hplace : ∀ p ∈ commandAddrs base size, p ∈ commandPlaces st.pool :=
    (agentRestarts ι base size commandQueueLength messages).guarded_induction
      (P := LosesNone base size commandQueueLength)
      (Q := fun s => ∀ p ∈ commandAddrs base size, p ∈ commandPlaces s.pool)
      (fun p hp => (agentInit_inv ι hsize hbase commandMalloc poolMalloc hlength
        hinit).perm.mem_iff.mpr hp)
      (fun s a s' _ hq hnone hstep p hp => (hnone s' hstep).1 p (hq p hp))
      acts st hrun (hiff.mpr hsafe)
  have hperm : (commandPlaces st.pool).Perm (commandAddrs base size) :=
    (hinv st ⟨acts, hrun⟩).placed hsize hplace
  refine ⟨hperm, ?_⟩
  intro hheld hqueue
  simp only [commandPlaces, RestartState.pool, hheld, hqueue, List.append_nil,
    List.map_nil] at hperm
  exact hperm

/-- A restart while one thread waits for a command and another holds one, which it
    sends to the new queue. -/
theorem agentRestart_losesNone_iff_held :
    ∃ messages, agentInit 4096 64 ⟨true, some (fun _ => 0)⟩ ⟨true, some (fun _ => 0)⟩ 10
        ⟨none, none, false⟩ = .ok messages ∧
      ∃ st, (agentRestarts (Fin 2) 4096 64 10 messages).run
          [.getCommand 0 (some 4096), .enterReceive 1,
            .agentInit ⟨true, some (fun _ => 0)⟩ ⟨true, none⟩, .enterSend 0 4096,
            .messageReceive 1 none, .messageSend 0 4096 true] = some st ∧
        (commandPlaces st.pool).Perm (commandAddrs 4096 64) := by
  refine ⟨_, rfl, _, rfl, ?_⟩
  refine ((agentRestart_losesNone_iff (Fin 2) 4096 64 10 (by decide) (by decide)
    ⟨true, some (fun _ => 0)⟩ ⟨true, some (fun _ => 0)⟩ (by decide) _ rfl
    [.getCommand 0 (some 4096), .enterReceive 1,
      .agentInit ⟨true, some (fun _ => 0)⟩ ⟨true, none⟩, .enterSend 0 4096,
      .messageReceive 1 none, .messageSend 0 4096 true] _ rfl).2 ?_).1
  decide

/-- A thread sends a command and the agent is initialised again before it takes
    it: nobody has the structure any more. A restart that finds the queue empty
    is no better for a thread that has read the pointer before and sends after
    it. -/
theorem agentRestart_loses_queued :
    ∃ messages, agentInit 4096 64 ⟨true, some (fun _ => 0)⟩ ⟨true, some (fun _ => 0)⟩ 10
        ⟨none, none, false⟩ = .ok messages ∧
      (∃ st, (agentRestarts (Fin 2) 4096 64 10 messages).run
          [.getCommand 0 (some 4096), .enterSend 0 4096, .messageSend 0 4096 true] = some st ∧
        4096 ∈ commandPlaces st.pool ∧
        ∃ st', restartStep 4096 64 10 st
            (.agentInit ⟨true, some (fun _ => 0)⟩ ⟨true, none⟩) = some st' ∧
          4096 ∉ commandPlaces st'.pool) ∧
      ∃ st, (agentRestarts (Fin 2) 4096 64 10 messages).run
          [.getCommand 0 (some 4096), .enterSend 0 4096,
            .agentInit ⟨true, some (fun _ => 0)⟩ ⟨true, none⟩] = some st ∧
        4096 ∈ commandPlaces st.pool ∧
        ∃ st', restartStep 4096 64 10 st (.messageSend 0 4096 true) = some st' ∧
          4096 ∉ commandPlaces st'.pool := by
  refine ⟨_, rfl, ⟨_, rfl, ?_, _, rfl, ?_⟩, _, rfl, ?_, _, rfl, ?_⟩
  · decide
  · decide
  · decide
  · decide

end Restart

end MqttAgent

end ProvisioningSdk
