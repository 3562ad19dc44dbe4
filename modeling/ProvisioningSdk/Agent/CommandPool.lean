import ProvisioningSdk.Agent.PublishQueue

/-!
# The Command Pool

`freertos_command_pool.c` and `freertos_agent_message.c`: the structures for
commands, travelling between the pool, the agent's command queue and the
threads.

Both are platform queues of pointers. A thread takes a structure from the pool,
fills it, and forwards it to the agent's queue; the agent takes it from there
and releases it to the pool when the command is complete. The results of the
sends are not looked at, and the assertions on them are commented out. What
makes that safe is a count: the pool queue has a slot for every structure, so a
structure that is held has a slot to go back to, and the same is true of the
agent's queue if it is as long as the pool is large.

The allocations of both queues are arguments. A pool without its buffer stops
the program in `Agent_InitializePool`, and an agent's queue without one at its
first send.

## Main definitions

* `messageSend`, `messageReceive`: The message interface.
* `initializePool`, `getCommand`, `releaseCommand`: The pool.
* `agentInit`: Both queues made.
* `commandPool`: The threads on them.
* `commandPlaces`: Where the structures are.

## Theorems

* `messageSend_cases`, `messageReceive_cases`: A queue call moves one pointer.
* `releaseCommand_cases`: A release moves one, or turns it away.
* `agentInit_inv`: Every structure starts in the pool.
* `poolStep_places`: A step moves a structure from one place to another.
* `poolInv_step`: It keeps the structures together.
* `commandPool_wellKept`: Every structure is in one place, in every run.
-/

namespace ProvisioningSdk

namespace MqttAgent

open Bytes IotshdPal Transition

/-- `MQTT_COMMAND_CONTEXTS_POOL_SIZE`. -/
def commandContextsPoolSize : Nat := 10

/-- The address of structure `i` of `commandStructurePool`, which begins at
    `base` and has structures of `size` bytes. -/
def commandAddr (base size i : Nat) : Nat := base + i * size

/-- `Agent_MessageSend`, at the moment it takes effect. -/
def messageSend (queue : Option SyncQueue) (pCommandToSend : Nat) :
    Except Fault (Option SyncQueue × Bool) :=
  match queue with
  | none => .error .nullDereference
  | some q =>
      -- a queue with room copies into its buffer, whether or not there is one
      if q.bufferSize = 0 ∧ q.itemsInQueue ≠ q.numberOfQueueItems then .error .nullDereference
      else .ok (some (sendNow (le64 pCommandToSend) q).1, (sendNow (le64 pCommandToSend) q).2)

/-- `Agent_MessageReceive`, with the pointer it stores. -/
def messageReceive (queue : Option SyncQueue) : Except Fault (Option SyncQueue × Option Nat) :=
  match queue with
  | none => .error .nullDereference
  | some q => .ok (some (receiveNow q).1, pointerOf (receiveNow q).2)

/-- The queues of `xCommandQueue` and `commandStructMessageCtx`, and
    `initStatus`. -/
structure AgentMessages where
  commandQueue : Option SyncQueue
  poolQueue : Option SyncQueue
  initStatus : Bool

section Pool

variable (base size : Nat)

/-- The loop of `Agent_InitializePool`. It does not look at the results. -/
def populate : List Nat → Option SyncQueue → Except Fault (Option SyncQueue)
  | [], queue => .ok queue
  | i :: rest, queue => do
      let r ← messageSend queue (commandAddr base size i)
      populate rest r.1

/-- `Agent_InitializePool`. -/
def initializePool (malloc : QueueMalloc) (st : AgentMessages) : Except Fault AgentMessages :=
  if st.initStatus = false then do
    let queue ← syncQueueCreate malloc commandContextsPoolSize sizeofPointer
    let queue ← populate base size (List.range commandContextsPoolSize) queue
    .ok { st with poolQueue := queue, initStatus := true }
  else .ok st

/-- `iotshdDev_MQTTAgentInit`, as far as the queues go. Its queue has
    `MQTT_AGENT_COMMAND_QUEUE_LENGTH` slots, which is 10 unless a build sets it. -/
def agentInit (commandMalloc poolMalloc : QueueMalloc) (commandQueueLength : Nat)
    (st : AgentMessages) : Except Fault AgentMessages := do
  let queue ← syncQueueCreate commandMalloc commandQueueLength sizeofPointer
  initializePool base size poolMalloc { st with commandQueue := queue }

/-- `Agent_ReleaseCommand`. Only a structure of the pool is sent to it. -/
def releaseCommand (queue : Option SyncQueue) (pCommandToRelease : Nat) :
    Except Fault (Option SyncQueue × Bool) :=
  if commandAddr base size 0 ≤ pCommandToRelease ∧
      pCommandToRelease < commandAddr base size commandContextsPoolSize then
    messageSend queue pCommandToRelease
  else .ok (queue, false)

end Pool

/-- `Agent_GetCommand`. -/
def getCommand (queue : Option SyncQueue) : Except Fault (Option SyncQueue × Option Nat) :=
  messageReceive queue

/-- The two queues, and who holds which structure. -/
structure PoolState (ι : Type*) where
  messages : AgentMessages
  held : List (ι × Nat)

/-- A call of a thread, with its result. -/
inductive PoolAct (ι : Type*)
  | getCommand (thread : ι) (command : Option Nat)
  /-- Send a held structure to the agent's queue. -/
  | messageSend (thread : ι) (command : Nat) (queueStatus : Bool)
  | messageReceive (thread : ι) (command : Option Nat)
  | releaseCommand (thread : ι) (command : Nat) (structReturned : Bool)

/-- A release that returned false. -/
def PoolAct.releaseFailed {ι : Type*} : PoolAct ι → Bool
  | .releaseCommand _ _ structReturned => !structReturned
  | _ => false

/-- A send to the agent's queue that found it full. -/
def PoolAct.sendFailed {ι : Type*} : PoolAct ι → Bool
  | .messageSend _ _ queueStatus => !queueStatus
  | _ => false

section System

variable {ι : Type*} [DecidableEq ι] (base size : Nat)

/-- What is held after a thread received a structure, if it did. -/
def takeUp (thread : ι) (command : Option Nat) (held : List (ι × Nat)) : List (ι × Nat) :=
  (command.map (fun p => (thread, p))).toList ++ held

/-- What is held after a thread tried to hand a structure on. It keeps what was
    not taken. -/
def giveUp (thread : ι) (command : Nat) (taken : Bool) (held : List (ι × Nat)) : List (ι × Nat) :=
  if taken then held.erase (thread, command) else held

/-- One call of one thread, of a structure it holds where it hands one on. The
    calls read the pointer to their queue before they wait for it. The pointer
    does not change as long as the agent is not initialised again, so reading it
    and using it are one step here; where it does change, they are two
    (`AgentRestart`, and `agentRestarts_commandPool` connects the two). -/
def poolStep (st : PoolState ι) : PoolAct ι → Option (PoolState ι)
  | .getCommand i res => match getCommand st.messages.poolQueue with
      | .ok (queue, command) =>
          if command = res then
            some
              { messages := { st.messages with poolQueue := queue }
                held := takeUp i command st.held }
          else none
      | .error _ => none
  | .messageSend i p res => match messageSend st.messages.commandQueue p with
      | .ok (queue, queueStatus) =>
          if (i, p) ∈ st.held ∧ queueStatus = res then
            some
              { messages := { st.messages with commandQueue := queue }
                held := giveUp i p queueStatus st.held }
          else none
      | .error _ => none
  | .messageReceive i res => match messageReceive st.messages.commandQueue with
      | .ok (queue, command) =>
          if command = res then
            some
              { messages := { st.messages with commandQueue := queue }
                held := takeUp i command st.held }
          else none
      | .error _ => none
  | .releaseCommand i p res => match releaseCommand base size st.messages.poolQueue p with
      | .ok (queue, structReturned) =>
          if (i, p) ∈ st.held ∧ structReturned = res then
            some
              { messages := { st.messages with poolQueue := queue }
                held := giveUp i p structReturned st.held }
          else none
      | .error _ => none

/-- The threads `ι` after `iotshdDev_MQTTAgentInit`. -/
def commandPool (ι : Type*) [DecidableEq ι] (base size : Nat) (messages : AgentMessages) :
    System (PoolState ι) (PoolAct ι) where
  init := { messages := messages, held := [] }
  step := poolStep base size

end System

/-! ### One queue -/

/-- A queue of `n` pointers, in order. -/
def QueueSound (n : Nat) (queue : Option SyncQueue) : Prop :=
  ∃ q, queue = some q ∧ q.Ready ∧ q.numberOfQueueItems = n ∧ q.queueItemSize = sizeofPointer

/-- A queue that was not made, or has no buffer and is empty. -/
def QueueDead (queue : Option SyncQueue) : Prop :=
  ∀ q, queue = some q → q.bufferSize = 0 ∧ q.itemsInQueue = 0 ∧ q.numberOfQueueItems ≠ 0

theorem QueueDead.pointers {queue : Option SyncQueue} (h : QueueDead queue) :
    pointers queue = [] := by
  cases queue with
  | none => rfl
  | some q =>
      have hempty : q.contents.length = 0 := by
        rw [length_contents]
        exact (h q rfl).2.1
      simp only [MqttAgent.pointers, Option.elim_some, List.length_eq_zero_iff.mp hempty,
        List.map_nil]

/-- Nothing is sent to a dead queue. -/
theorem QueueDead.messageSend {queue : Option SyncQueue} (h : QueueDead queue) (p : Nat) :
    messageSend queue p = .error .nullDereference := by
  cases queue with
  | none => rfl
  | some q =>
      rcases h q rfl with ⟨hbuffer, hitems, hcount⟩
      have hcase : q.bufferSize = 0 ∧ q.itemsInQueue ≠ q.numberOfQueueItems := by
        rw [hitems]
        exact ⟨hbuffer, hcount.symm⟩
      simp only [MqttAgent.messageSend, if_pos hcase]

/-- Nothing is received from it. -/
theorem QueueDead.messageReceive {queue queue' : Option SyncQueue} (h : QueueDead queue)
    {res : Option Nat} (hrecv : messageReceive queue = .ok (queue', res)) :
    queue' = queue ∧ res = none := by
  cases queue with
  | none => cases hrecv
  | some q =>
      have hnow : receiveNow q = (q, none) := if_pos (h q rfl).2.1
      simp only [MqttAgent.messageReceive, hnow, Except.ok.injEq, Prod.mk.injEq] at hrecv
      exact ⟨hrecv.1.symm, hrecv.2.symm⟩

section Sound

variable {n : Nat} {queue : Option SyncQueue}

theorem QueueSound.buffer_pos {q : SyncQueue} (hready : q.Ready) : q.bufferSize ≠ 0 := by
  have hhead := hready.head_lt
  have hsize := hready.size_pos
  rw [hready.buffer]
  exact Nat.mul_ne_zero (by omega) (by omega)

/-- A send to a queue with room appends the pointer. -/
theorem QueueSound.send_room (h : QueueSound n queue) {p : Nat} (hp : p < 2 ^ 64)
    (hroom : (pointers queue).length < n) :
    ∃ queue', messageSend queue p = .ok (queue', true) ∧ QueueSound n queue' ∧
      pointers queue' = pointers queue ++ [p] := by
  rcases h with ⟨q, rfl, hready, hcount, hsize⟩
  have hbuffer : ¬ (q.bufferSize = 0 ∧ q.itemsInQueue ≠ q.numberOfQueueItems) :=
    fun hc => QueueSound.buffer_pos hready hc.1
  rcases sendNow_pointer hready hcount hsize hp hroom with
    ⟨htrue, hready', hcount', hsize', hpush⟩
  refine ⟨some (sendNow (le64 p) q).1, ?_, ⟨_, rfl, hready', hcount', hsize'⟩, hpush⟩
  simp only [messageSend, if_neg hbuffer, htrue]

/-- A send to a queue without room changes nothing. -/
theorem QueueSound.send_full (h : QueueSound n queue) (p : Nat)
    (hfull : ¬ (pointers queue).length < n) : messageSend queue p = .ok (queue, false) := by
  rcases h with ⟨q, rfl, hready, hcount, hsize⟩
  have hitems : q.itemsInQueue = q.numberOfQueueItems := by
    have hlen : (pointers (some q)).length = q.itemsInQueue := by
      simp only [pointers, Option.elim_some, List.length_map, length_contents]
    have hle := hready.items_le
    omega
  have hbuffer : ¬ (q.bufferSize = 0 ∧ q.itemsInQueue ≠ q.numberOfQueueItems) :=
    fun hc => hc.2 hitems
  have hnow : sendNow (le64 p) q = (q, false) := if_pos hitems
  simp only [messageSend, if_neg hbuffer, hnow]

/-- A receive takes the first pointer, if there is one. -/
theorem QueueSound.receive (h : QueueSound n queue) :
    ∃ queue' res, messageReceive queue = .ok (queue', res) ∧ QueueSound n queue' ∧
      pointers queue = res.toList ++ pointers queue' := by
  rcases h with ⟨q, rfl, hready, hcount, hsize⟩
  rcases receiveNow_pointer hready hcount hsize with ⟨hready', hcount', hsize', hpop⟩
  exact ⟨_, _, rfl, ⟨_, rfl, hready', hcount', hsize'⟩, hpop⟩

end Sound

/-- A send to a queue of either kind appends the pointer, or finds the queue
    full. -/
theorem messageSend_cases {n : Nat} {queue queue' : Option SyncQueue} {ret : Bool}
    (h : QueueSound n queue ∨ QueueDead queue) {p : Nat} (hp : p < 2 ^ 64)
    (hsend : messageSend queue p = .ok (queue', ret)) :
    QueueSound n queue' ∧
      ((ret = true ∧ pointers queue' = pointers queue ++ [p] ∧ (pointers queue).length < n) ∨
        (ret = false ∧ queue' = queue ∧ ¬ (pointers queue).length < n)) := by
  rcases h with hsound | hdead
  · by_cases hroom : (pointers queue).length < n
    · rcases hsound.send_room hp hroom with ⟨q, hq, hsound', hpush⟩
      rw [hq, Except.ok.injEq, Prod.mk.injEq] at hsend
      rcases hsend with ⟨rfl, rfl⟩
      exact ⟨hsound', Or.inl ⟨rfl, hpush, hroom⟩⟩
    · rw [hsound.send_full p hroom, Except.ok.injEq, Prod.mk.injEq] at hsend
      rcases hsend with ⟨rfl, rfl⟩
      exact ⟨hsound, Or.inr ⟨rfl, rfl, hroom⟩⟩
  · rw [hdead.messageSend] at hsend
    cases hsend

/-- A receive from a queue of either kind takes the first pointer. -/
theorem messageReceive_cases {n : Nat} {queue queue' : Option SyncQueue} {res : Option Nat}
    (h : QueueSound n queue ∨ QueueDead queue) (hrecv : messageReceive queue = .ok (queue', res)) :
    (QueueSound n queue' ∨ QueueDead queue') ∧
      pointers queue = res.toList ++ pointers queue' := by
  rcases h with hsound | hdead
  · rcases hsound.receive with ⟨q, r, hq, hsound', hpop⟩
    rw [hq, Except.ok.injEq, Prod.mk.injEq] at hrecv
    rcases hrecv with ⟨rfl, rfl⟩
    exact ⟨Or.inl hsound', hpop⟩
  · rcases hdead.messageReceive hrecv with ⟨rfl, rfl⟩
    exact ⟨Or.inr hdead, rfl⟩

/-- A release puts a pointer into the range of the pool back, unless the pool is
    full, and turns away any other. -/
theorem releaseCommand_cases {base size n : Nat} {queue queue' : Option SyncQueue} {ret : Bool}
    (h : QueueSound n queue) {p : Nat} (hp : p < 2 ^ 64)
    (hrelease : releaseCommand base size queue p = .ok (queue', ret)) :
    QueueSound n queue' ∧
      ((ret = true ∧ pointers queue' = pointers queue ++ [p] ∧
          commandAddr base size 0 ≤ p ∧ p < commandAddr base size commandContextsPoolSize ∧
          (pointers queue).length < n) ∨
        (ret = false ∧ queue' = queue ∧ (¬ (commandAddr base size 0 ≤ p ∧
          p < commandAddr base size commandContextsPoolSize) ∨
            ¬ (pointers queue).length < n))) := by
  unfold releaseCommand at hrelease
  split at hrelease
  · rename_i hrange
    by_cases hroom : (pointers queue).length < n
    · rcases h.send_room hp hroom with ⟨q, hq, hsound, hpush⟩
      rw [hq, Except.ok.injEq, Prod.mk.injEq] at hrelease
      rcases hrelease with ⟨rfl, rfl⟩
      exact ⟨hsound, Or.inl ⟨rfl, hpush, hrange.1, hrange.2, hroom⟩⟩
    · rw [h.send_full p hroom, Except.ok.injEq, Prod.mk.injEq] at hrelease
      rcases hrelease with ⟨rfl, rfl⟩
      exact ⟨h, Or.inr ⟨rfl, rfl, Or.inr hroom⟩⟩
  · rename_i hrange
    cases hrelease
    exact ⟨h, Or.inr ⟨rfl, rfl, Or.inl hrange⟩⟩

/-- A queue of pointers that was just made is empty. -/
theorem syncQueueCreate_pointers {malloc : QueueMalloc} {n : Nat} (hn : n ≤ 2 ^ 29)
    {queue : Option SyncQueue} (hcreate : syncQueueCreate malloc n sizeofPointer = .ok queue) :
    (QueueSound n queue ∨ QueueDead queue) ∧ pointers queue = [] := by
  cases queue with
  | none => exact ⟨Or.inr (fun q hq => by cases hq), rfl⟩
  | some q =>
      rcases malloc with ⟨structBlock, buffer⟩
      cases buffer with
      | some heap =>
          rcases create_ready heap structBlock n sizeofPointer q (by omega)
            (by unfold sizeofPointer; omega) (by decide) hcreate with
            ⟨hready, hcount, hsize, hempty⟩
          refine ⟨Or.inl ⟨q, rfl, hready, hcount, hsize⟩, ?_⟩
          simp only [pointers, Option.elim_some, hempty, List.map_nil]
      | none =>
          -- the structure was made, and the buffer was not
          have hdead : QueueDead (some q) := by
            intro q' hq'
            cases hq'
            unfold syncQueueCreate at hcreate
            split at hcreate
            · cases hcreate
            · rename_i hn0
              split at hcreate
              · cases hcreate
              · split at hcreate
                · cases hcreate
                · cases hcreate
                  exact ⟨rfl, rfl, hn0⟩
          exact ⟨Or.inr hdead, hdead.pointers⟩

/-! ### Where the structures are -/

/-- The addresses of the structures. -/
def commandAddrs (base size : Nat) : List Nat :=
  (List.range commandContextsPoolSize).map (commandAddr base size)

/-- Every place a structure is in. -/
def commandPlaces {ι : Type*} (st : PoolState ι) : List Nat :=
  pointers st.messages.poolQueue ++ pointers st.messages.commandQueue ++ st.held.map Prod.snd

/-- The queues are sound, the agent's as far as it was made, and they and the
    threads have the structures between them. -/
structure PoolInv {ι : Type*} (base size commandQueueLength : Nat) (st : PoolState ι) : Prop where
  pool : QueueSound commandContextsPoolSize st.messages.poolQueue
  command : QueueSound commandQueueLength st.messages.commandQueue ∨
    QueueDead st.messages.commandQueue
  perm : (commandPlaces st).Perm (commandAddrs base size)

/-- The queues are sound, the agent's as far as it was made, and what is
    anywhere is a pointer. -/
structure PoolQueues {ι : Type*} (commandQueueLength : Nat) (st : PoolState ι) : Prop where
  pool : QueueSound commandContextsPoolSize st.messages.poolQueue
  command : QueueSound commandQueueLength st.messages.commandQueue ∨
    QueueDead st.messages.commandQueue
  bounded : ∀ p ∈ commandPlaces st, p < 2 ^ 64

theorem nodup_commandAddrs (base size : Nat) (hsize : 0 < size) :
    (commandAddrs base size).Nodup := by
  refine List.Nodup.map (fun i j h => ?_) List.nodup_range
  have hmul : i * size = j * size := by
    unfold commandAddr at h
    omega
  exact Nat.eq_of_mul_eq_mul_right hsize hmul

section Populate

variable {base size : Nat}

/-- The addresses of the pool are those between its first and its last. -/
theorem commandAddr_bounds (hsize : 0 < size)
    (hbase : base + commandContextsPoolSize * size ≤ 2 ^ 64) {p : Nat}
    (hp : p ∈ commandAddrs base size) :
    p < 2 ^ 64 ∧ commandAddr base size 0 ≤ p ∧
      p < commandAddr base size commandContextsPoolSize := by
  rcases List.mem_map.mp hp with ⟨i, hi, rfl⟩
  have hlt : i < commandContextsPoolSize := List.mem_range.mp hi
  have hmul : i * size < commandContextsPoolSize * size := Nat.mul_lt_mul_of_pos_right hlt hsize
  unfold commandAddr
  omega

/-- Populating a queue with room sends it every structure. -/
theorem populate_sound {n : Nat} (l : List Nat) (hl : ∀ i ∈ l, commandAddr base size i < 2 ^ 64)
    {queue queue' : Option SyncQueue} (h : QueueSound n queue)
    (hroom : (pointers queue).length + l.length ≤ n)
    (hpopulate : populate base size l queue = .ok queue') :
    QueueSound n queue' ∧ pointers queue' = pointers queue ++ l.map (commandAddr base size) := by
  induction l generalizing queue with
  | nil =>
      cases hpopulate
      exact ⟨h, (List.append_nil _).symm⟩
  | cons i rest ih =>
      rw [List.length_cons] at hroom
      rcases h.send_room (hl i List.mem_cons_self) (show (pointers queue).length < n by omega) with
        ⟨q, hq, hsound, hpush⟩
      rw [populate, hq] at hpopulate
      have hrest : (pointers q).length + rest.length ≤ n := by
        rw [hpush, List.length_append, List.length_singleton]
        omega
      rcases ih (fun j hj => hl j (List.mem_cons_of_mem _ hj)) hsound hrest hpopulate with
        ⟨hsound', hpointers⟩
      refine ⟨hsound', ?_⟩
      rw [hpointers, hpush, List.append_assoc]
      rfl

/-- After `iotshdDev_MQTTAgentInit` every structure is in the pool. -/
theorem agentInit_inv (ι : Type*) [DecidableEq ι] (hsize : 0 < size)
    (hbase : base + commandContextsPoolSize * size ≤ 2 ^ 64)
    (commandMalloc poolMalloc : QueueMalloc)
    {commandQueueLength : Nat} (hlength : commandQueueLength ≤ 2 ^ 29) {messages : AgentMessages}
    (hinit : agentInit base size commandMalloc poolMalloc commandQueueLength ⟨none, none, false⟩ =
      .ok messages) :
    PoolInv base size commandQueueLength (commandPool ι base size messages).init := by
  rcases bind_eq_ok.mp hinit with ⟨command, hcommand, hpool⟩
  rcases bind_eq_ok.mp hpool with ⟨queue, hqueue, hrest⟩
  rcases bind_eq_ok.mp hrest with ⟨pool, hpopulate, hmessages⟩
  cases hmessages
  rcases syncQueueCreate_pointers hlength hcommand with ⟨hcommandOk, hcommandEmpty⟩
  rcases syncQueueCreate_pointers (by decide) hqueue with ⟨hqueueOk, hqueueEmpty⟩
  rcases hqueueOk with hsound | hdead
  · have haddr : ∀ i ∈ List.range commandContextsPoolSize, commandAddr base size i < 2 ^ 64 :=
      fun i hi => (commandAddr_bounds hsize hbase (List.mem_map.mpr ⟨i, hi, rfl⟩)).1
    have hroom : (pointers queue).length + (List.range commandContextsPoolSize).length ≤
        commandContextsPoolSize := by
      rw [hqueueEmpty, List.length_range]
      exact Nat.le_of_eq (Nat.zero_add _)
    rcases populate_sound _ haddr hsound hroom hpopulate with ⟨hsound', hpointers⟩
    refine ⟨hsound', hcommandOk, ?_⟩
    have hplaces : commandPlaces (commandPool ι base size ⟨command, pool, true⟩).init =
        commandAddrs base size := by
      simp only [commandPlaces, commandPool, hpointers, hqueueEmpty, hcommandEmpty, List.nil_append,
        List.append_nil, List.map_nil, commandAddrs]
    exact hplaces ▸ List.Perm.refl _
  · -- a pool without its buffer does not survive the first send
    have hfault : populate base size (List.range commandContextsPoolSize) queue =
        .error .nullDereference := by
      have hrange : List.range commandContextsPoolSize = 0 :: [1, 2, 3, 4, 5, 6, 7, 8, 9] := rfl
      rw [hrange, populate, hdead.messageSend]
      rfl
    rw [hfault] at hpopulate
    cases hpopulate

end Populate

section Invariant

variable {ι : Type*} {base size commandQueueLength : Nat}

theorem PoolInv.length {st : PoolState ι} (h : PoolInv base size commandQueueLength st) :
    (commandPlaces st).length = commandContextsPoolSize := by
  rw [h.perm.length_eq]
  simp only [commandAddrs, List.length_map, List.length_range]

theorem count_commandPlaces (st : PoolState ι) (a : Nat) :
    (commandPlaces st).count a = (pointers st.messages.poolQueue).count a +
      (pointers st.messages.commandQueue).count a + (st.held.map Prod.snd).count a := by
  unfold commandPlaces
  simp only [List.count_append]

/-- The structures of the pool are pointers. -/
theorem PoolInv.queues (hsize : 0 < size)
    (hbase : base + commandContextsPoolSize * size ≤ 2 ^ 64) {st : PoolState ι}
    (h : PoolInv base size commandQueueLength st) : PoolQueues commandQueueLength st :=
  ⟨h.pool, h.command, fun _ hp => (commandAddr_bounds hsize hbase (h.perm.mem_iff.mp hp)).1⟩

theorem PoolQueues.of_count {st st' : PoolState ι} (h : PoolQueues commandQueueLength st)
    (hpool : QueueSound commandContextsPoolSize st'.messages.poolQueue)
    (hcommand : QueueSound commandQueueLength st'.messages.commandQueue ∨
      QueueDead st'.messages.commandQueue)
    (hcount : ∀ a, (commandPlaces st').count a = (commandPlaces st).count a) :
    PoolQueues commandQueueLength st' ∧ (commandPlaces st').Perm (commandPlaces st) := by
  have hperm := List.perm_iff_count.mpr hcount
  exact ⟨⟨hpool, hcommand, fun p hp => h.bounded p (hperm.mem_iff.mp hp)⟩, hperm⟩

/-- A structure that is held has a slot to go to in the pool, and in an agent's
    queue of that length. -/
theorem PoolInv.room {st : PoolState ι} (h : PoolInv base size commandQueueLength st) {i : ι}
    {p : Nat} (hheld : (i, p) ∈ st.held) :
    (pointers st.messages.poolQueue).length < commandContextsPoolSize ∧
      (pointers st.messages.commandQueue).length < commandContextsPoolSize ∧
      p ∈ commandAddrs base size := by
  have hmem : p ∈ st.held.map Prod.snd := List.mem_map.mpr ⟨_, hheld, rfl⟩
  have hlen := h.length
  have hpos := List.length_pos_of_mem hmem
  unfold commandPlaces at hlen
  rw [List.length_append, List.length_append] at hlen
  refine ⟨by omega, by omega, h.perm.mem_iff.mp ?_⟩
  exact List.mem_append_right _ hmem

theorem count_takeUp (i : ι) (command : Option Nat) (held : List (ι × Nat)) (a : Nat) :
    ((takeUp i command held).map Prod.snd).count a =
      command.toList.count a + (held.map Prod.snd).count a := by
  cases command with
  | none => simp only [takeUp, Option.map_none, Option.toList_none, List.nil_append, List.count_nil,
      Nat.zero_add]
  | some p =>
      simp only [takeUp, Option.map_some, Option.toList_some, List.singleton_append, List.map_cons]
      rw [← List.singleton_append, List.count_append]

variable [DecidableEq ι]

theorem count_giveUp {i : ι} {p : Nat} {held : List (ι × Nat)} (hheld : (i, p) ∈ held) (a : Nat) :
    (held.map Prod.snd).count a =
      [p].count a + ((giveUp i p true held).map Prod.snd).count a := by
  have hperm := (List.perm_cons_erase hheld).map Prod.snd
  rw [hperm.count_eq, List.map_cons, ← List.count_append, List.singleton_append]
  rfl

omit [DecidableEq ι] in
/-- Releasing a structure that is held returns true, and puts it back. -/
theorem PoolInv.release (hsize : 0 < size)
    (hbase : base + commandContextsPoolSize * size ≤ 2 ^ 64) {st : PoolState ι}
    (h : PoolInv base size commandQueueLength st) {i : ι} {p : Nat} (hheld : (i, p) ∈ st.held) :
    ∃ queue, releaseCommand base size st.messages.poolQueue p = .ok (queue, true) ∧
      QueueSound commandContextsPoolSize queue ∧
      pointers queue = pointers st.messages.poolQueue ++ [p] := by
  rcases h.room hheld with ⟨hroom, -, hmem⟩
  rcases commandAddr_bounds hsize hbase hmem with ⟨hp, hrange⟩
  unfold releaseCommand
  rw [if_pos hrange]
  exact h.pool.send_room hp hroom

/-- One step moves a structure from one place to another, or none, whatever is
    in the places. -/
theorem poolStep_places {st st' : PoolState ι} {act : PoolAct ι}
    (h : PoolQueues commandQueueLength st) (hstep : poolStep base size st act = some st') :
    PoolQueues commandQueueLength st' ∧ (commandPlaces st').Perm (commandPlaces st) := by
  have hbounded : ∀ {i : ι} {p : Nat}, (i, p) ∈ st.held → p < 2 ^ 64 := fun hheld =>
    h.bounded _ (List.mem_append_right _ (List.mem_map.mpr ⟨_, hheld, rfl⟩))
  cases act with
  | getCommand i res =>
      rcases h.pool.receive with ⟨queue, command, hqueue, hsound, hpop⟩
      simp only [poolStep, getCommand, hqueue] at hstep
      split at hstep
      · cases hstep
        refine h.of_count hsound h.command ?_
        -- the structure, if any, goes from the pool to the thread
        intro a
        rw [count_commandPlaces, count_commandPlaces, count_takeUp, hpop, List.count_append]
        simp only
        omega
      · cases hstep
  -- a receive, from the agent's queue to the thread
  | messageReceive i res =>
      simp only [poolStep] at hstep
      split at hstep
      · rename_i queue command hqueue
        split at hstep
        · cases hstep
          rcases messageReceive_cases h.command hqueue with ⟨hok, hpop⟩
          refine h.of_count h.pool hok ?_
          intro a
          rw [count_commandPlaces, count_commandPlaces, count_takeUp, hpop, List.count_append]
          simp only
          omega
        · cases hstep
      · cases hstep
  -- a send, from the thread to a queue with room
  | messageSend i p res =>
      simp only [poolStep] at hstep
      split at hstep
      · rename_i queue queueStatus hqueue
        split at hstep
        · rename_i hcase
          rcases hcase with ⟨hheld, rfl⟩
          cases hstep
          rcases messageSend_cases h.command (hbounded hheld) hqueue with
            ⟨hsound, ⟨rfl, hpush, -⟩ | ⟨rfl, rfl, -⟩⟩
          · refine h.of_count h.pool (Or.inl hsound) ?_
            intro a
            rw [count_commandPlaces, count_commandPlaces, count_giveUp hheld, hpush,
              List.count_append]
            simp only
            omega
          · -- the thread keeps what the queue did not take
            exact h.of_count h.pool (Or.inl hsound) (fun a => rfl)
        · cases hstep
      · cases hstep
  -- the same with the queue of the pool
  | releaseCommand i p res =>
      simp only [poolStep] at hstep
      split at hstep
      · rename_i queue structReturned hqueue
        split at hstep
        · rename_i hcase
          rcases hcase with ⟨hheld, rfl⟩
          cases hstep
          rcases releaseCommand_cases h.pool (hbounded hheld) hqueue with
            ⟨hsound, ⟨rfl, hpush, -⟩ | ⟨rfl, rfl, -⟩⟩
          · refine h.of_count hsound h.command ?_
            intro a
            rw [count_commandPlaces, count_commandPlaces, count_giveUp hheld, hpush,
              List.count_append]
            simp only
            omega
          · exact h.of_count hsound h.command (fun a => rfl)
        · cases hstep
      · cases hstep

/-- One step keeps the structures together. A release does not fail, and a send
    only if the agent's queue is shorter than the pool. -/
theorem poolInv_step (hsize : 0 < size) (hbase : base + commandContextsPoolSize * size ≤ 2 ^ 64)
    {st st' : PoolState ι} {act : PoolAct ι} (h : PoolInv base size commandQueueLength st)
    (hstep : poolStep base size st act = some st') :
    PoolInv base size commandQueueLength st' ∧ act.releaseFailed = false ∧
      (commandContextsPoolSize ≤ commandQueueLength → act.sendFailed = false) := by
  have hqueues := h.queues hsize hbase
  rcases poolStep_places hqueues hstep with ⟨hqueues', hperm⟩
  refine ⟨⟨hqueues'.pool, hqueues'.command, hperm.trans h.perm⟩, ?_⟩
  cases act with
  | getCommand i res => exact ⟨rfl, fun _ => rfl⟩
  | messageReceive i res => exact ⟨rfl, fun _ => rfl⟩
  | messageSend i p res =>
      simp only [poolStep] at hstep
      split at hstep
      · rename_i queue queueStatus hqueue
        split at hstep
        · rename_i hcase
          rcases hcase with ⟨hheld, rfl⟩
          -- the structure that is sent is not in the queue, so there is room for it
          rcases h.room hheld with ⟨-, hroom, hmem⟩
          rcases messageSend_cases h.command (commandAddr_bounds hsize hbase hmem).1 hqueue with
            ⟨-, ⟨rfl, -⟩ | ⟨rfl, -, hfull⟩⟩
          · exact ⟨rfl, fun _ => rfl⟩
          · refine ⟨rfl, ?_⟩
            intro hlong
            omega
        · cases hstep
      · cases hstep
  | releaseCommand i p res =>
      simp only [poolStep] at hstep
      split at hstep
      · rename_i queue structReturned hqueue
        split at hstep
        · rename_i hcase
          rcases hcase with ⟨hheld, rfl⟩
          -- the pool queue has room for every structure
          rcases h.release hsize hbase hheld with ⟨queue', hqueue', -, -⟩
          rw [hqueue', Except.ok.injEq, Prod.mk.injEq] at hqueue
          rcases hqueue with ⟨rfl, rfl⟩
          exact ⟨rfl, fun _ => rfl⟩
        · cases hstep
      · cases hstep

/-- A whole run keeps the structures together. -/
theorem poolInv_run (hsize : 0 < size) (hbase : base + commandContextsPoolSize * size ≤ 2 ^ 64)
    (messages : AgentMessages)
    (h0 : PoolInv base size commandQueueLength (commandPool ι base size messages).init)
    (acts : List (PoolAct ι)) (st : PoolState ι)
    (hrun : (commandPool ι base size messages).run acts = some st) :
    PoolInv base size commandQueueLength st ∧ (∀ a ∈ acts, a.releaseFailed = false) ∧
      (commandContextsPoolSize ≤ commandQueueLength → ∀ a ∈ acts, a.sendFailed = false) := by
  refine (commandPool ι base size messages).run_induction
    (P := fun acts st => PoolInv base size commandQueueLength st ∧
      (∀ a ∈ acts, a.releaseFailed = false) ∧
      (commandContextsPoolSize ≤ commandQueueLength → ∀ a ∈ acts, a.sendFailed = false))
    ⟨h0, fun a ha => absurd ha List.not_mem_nil, fun _ a ha => absurd ha List.not_mem_nil⟩
    ?_ acts st hrun
  rintro acts st act st' - ⟨hinv, hreleases, hsends⟩ hstep
  rcases poolInv_step hsize hbase hinv hstep with ⟨hinv', hrelease, hsend⟩
  refine ⟨hinv', ?_, ?_⟩
  · intro a ha
    rcases List.mem_append.mp ha with hold | hnew
    · exact hreleases a hold
    · rw [List.mem_singleton.mp hnew]
      exact hrelease
  · intro hlong a ha
    rcases List.mem_append.mp ha with hold | hnew
    · exact hsends hlong a hold
    · rw [List.mem_singleton.mp hnew]
      exact hsend hlong

variable (base size commandQueueLength) in
/-- After `iotshdDev_MQTTAgentInit`, whatever the threads do, every structure is
    in the pool, in the agent's queue or with one thread. No release of a held
    structure fails, and no send to an agent's queue as long as the pool. -/
theorem commandPool_wellKept (hsize : 0 < size)
    (hbase : base + commandContextsPoolSize * size ≤ 2 ^ 64)
    (commandMalloc poolMalloc : QueueMalloc)
    (hlength : commandQueueLength ≤ 2 ^ 29) (messages : AgentMessages)
    (hinit : agentInit base size commandMalloc poolMalloc commandQueueLength ⟨none, none, false⟩ =
      .ok messages)
    (acts : List (PoolAct ι)) (st : PoolState ι)
    (hrun : (commandPool ι base size messages).run acts = some st) :
    (∀ i, i < commandContextsPoolSize →
        (commandPlaces st).count (commandAddr base size i) = 1) ∧
      (∀ p ∈ commandPlaces st, p ∈ commandAddrs base size) ∧ (st.held.map Prod.snd).Nodup ∧
      (∀ i p, (i, p) ∈ st.held →
        ((commandPool ι base size messages).step st (.releaseCommand i p true)).isSome) ∧
      (∀ a ∈ acts, a.releaseFailed = false) ∧
      (commandContextsPoolSize ≤ commandQueueLength → ∀ a ∈ acts, a.sendFailed = false) := by
  rcases poolInv_run hsize hbase messages
    (agentInit_inv ι hsize hbase commandMalloc poolMalloc hlength hinit) acts st hrun with
    ⟨hinv, hreleases, hsends⟩
  have hnodup : (commandPlaces st).Nodup :=
    hinv.perm.nodup_iff.mpr (nodup_commandAddrs base size hsize)
  refine ⟨?_, fun p hp => hinv.perm.mem_iff.mp hp, ?_, ?_, hreleases, hsends⟩
  · intro i hi
    refine List.count_eq_one_of_mem hnodup (hinv.perm.mem_iff.mpr ?_)
    exact List.mem_map.mpr ⟨i, List.mem_range.mpr hi, rfl⟩
  · unfold commandPlaces at hnodup
    exact hnodup.of_append_right
  · intro i p hheld
    rcases hinv.release hsize hbase hheld with ⟨queue, hqueue, -, -⟩
    simp only [commandPool, poolStep, hqueue, hheld, and_self, if_true, Option.isSome_some]

/-- The queues as the agent makes them, with ten slots each. -/
theorem commandPool_wellKept_ten :
    ∃ messages, agentInit 4096 64 ⟨true, some (fun _ => 0)⟩ ⟨true, some (fun _ => 0)⟩ 10
        ⟨none, none, false⟩ = .ok messages ∧
      ∃ st, (commandPool (Fin 2) 4096 64 messages).run [.getCommand 0 (some 4096)] = some st ∧
        (commandPlaces st).count (commandAddr 4096 64 3) = 1 := by
  refine ⟨_, rfl, _, rfl, ?_⟩
  refine (commandPool_wellKept (ι := Fin 2) 4096 64 10 (by decide) (by decide)
    ⟨true, some (fun _ => 0)⟩ ⟨true, some (fun _ => 0)⟩ (by decide) _ rfl
    [.getCommand 0 (some 4096)] _ ?_).1 3 (by decide)
  rfl

end Invariant

end MqttAgent

end ProvisioningSdk
