import ProvisioningSdk.Agent.PublishQueue
import ProvisioningSdk.Lib.Effect
import ProvisioningSdk.Lib.Ledger

/-!
# Deleting the User Context

`iotshdDev_MQTTAgentDeleteUserContext` of `mqtt_agent.c`, for any context that
the creation and the threads can lead to.

The function means to take the items out of a queue, to free their buffers, and
to delete the queue. It deletes the queue first, and takes the items out of the
free queue both times. The first time the queue was just deleted, and the second
time it is `NULL`. So a context is deleted properly if it has no queues
at all, and no context that has them is (`deleteUserContext_tornDown_iff`).

## Main definitions

* `Owned`, `owned`: The blocks of a context.
* `Misuse`: What the deletion must not do.
* `drain`: The loop that empties a queue.
* `deleteUserContext`: Deleting a context.
* `TornDown`: The deletion does nothing wrong and frees every block once.

## Theorems

* `syncQueueDelete_ok`, `drainQueue_ok`: A queue that was deleted is not live, and
  the loop needs one that is.
* `publishQueue_free`, `publishQueue_bare`: The threads make no queue and take
  none away.
* `deleteUserContext_tornDown_iff`: When a context is deleted properly.
-/

namespace ProvisioningSdk

namespace MqttAgent

open Bytes IotshdPal Transition Effect Ownership

/-! ### The blocks of a context -/

/-- One of the two queues of a context. -/
inductive ContextQueue
  | incomming
  | free
  deriving DecidableEq, Repr

/-- The queue a context has. -/
def UserContext.queue (context : UserContext) : ContextQueue → Option SyncQueue
  | .incomming => context.pIncommingPublishQueue
  | .free => context.pFreePublishMessageQueue

/-- The context with this queue. -/
def UserContext.setQueue (context : UserContext) (which : ContextQueue) (q : Option SyncQueue) :
    UserContext :=
  match which with
  | .incomming => { context with pIncommingPublishQueue := q }
  | .free => { context with pFreePublishMessageQueue := q }

/-- A block that belongs to a context. A queue has two, and an item one if a
    buffer is attached to it. -/
inductive Owned
  | context
  | syncEvent
  | queueItems
  | queue (which : ContextQueue)
  | queueBuffer (which : ContextQueue)
  | topicPayloadBuffer (pQueueItem : Nat)
  deriving DecidableEq, Repr

/-- The blocks of a queue. -/
def queueBlocks (context : UserContext) (which : ContextQueue) : List Owned :=
  match context.queue which with
  | none => []
  | some q => if q.bufferSize = 0 then [.queue which] else [.queue which, .queueBuffer which]

/-- The addresses of the items a buffer is attached to. -/
def attached (context : UserContext) : List Nat :=
  match context.pQueueItems with
  | none => []
  | some base => (itemAddrs base context.queueSize).filter
      (fun p => (context.items p).topicPayloadBuffer.isSome)

/-- The blocks of a context. -/
def owned (context : UserContext) : List Owned :=
  [.context] ++ (if context.pSyncEvent then [.syncEvent] else []) ++
    queueBlocks context .free ++ queueBlocks context .incomming ++
    (if context.pQueueItems.isSome then [.queueItems] else []) ++
    (attached context).map .topicPayloadBuffer

/-! ### The deletion -/

/-- What the deletion must not do: an operation on a queue that is `NULL` or
    deleted, and freeing a block that is not live. -/
inductive Misuse
  | nullQueue
  | deletedQueue
  | invalidFree
  deriving DecidableEq, Repr

/-- A context while it is deleted. -/
structure Deletion where
  context : UserContext
  ledger : Ledger Owned

/-- A program that deletes, up to the first misuse. -/
abbrev Teardown := EStateM Misuse Deletion

/-- `iotshdPal_Free`, or `free`, of one of the blocks. -/
def freeBlock (block : Owned) : Teardown Unit := fun st =>
  match st.ledger.free block with
  | some ledger => .ok () { st with ledger := ledger }
  | none => .error .invalidFree st

/-- The context changed. -/
def modifyContext (f : UserContext → UserContext) : Teardown Unit :=
  modify fun st => { st with context := f st.context }

/-- The queue a field points to, as the operations on it find it. -/
def accessQueue (which : ContextQueue) : Teardown SyncQueue := fun st =>
  match st.context.queue which with
  | none => .error .nullQueue st
  | some q => if st.ledger.Live (.queue which) then .ok q st else .error .deletedQueue st

/-- `iotshdPal_syncQueueDelete`. -/
def syncQueueDelete (which : ContextQueue) : Teardown Unit := do
  let st ← get
  if (st.context.queue which).isNone then pure ()
  else do
    let q ← accessQueue which
    if q.bufferSize = 0 then freeBlock (.queue which)
    else do
      freeBlock (.queueBuffer which)
      freeBlock (.queue which)

/-- `iotshdPal_syncQueueReceive` without a wait: the pointer, if there is
    one. -/
def syncQueueReceivePointer (which : ContextQueue) : Teardown (Option Nat) := do
  let q ← accessQueue which
  modifyContext fun context => context.setQueue which (some (receiveNow q).1)
  return pointerOf (receiveNow q).2

/-- `iotshdPal_Free` of the buffer of an item, if one is attached. -/
def freeBuffer (pQueueItem : Nat) : Teardown Unit := do
  let st ← get
  if (st.context.items pQueueItem).topicPayloadBuffer.isSome then
    freeBlock (.topicPayloadBuffer pQueueItem)
  else pure ()

/-- The item without its buffer. -/
def detach (pQueueItem : Nat) (context : UserContext) : UserContext :=
  { context with
    items := Function.update context.items pQueueItem
      { context.items pQueueItem with topicPayloadBuffer := none, topicPayloadBufferSize := 0 } }

/-- The loop that takes the items out of a queue. The number bounds the
    receives. -/
def drain (which : ContextQueue) : Nat → Teardown Unit
  | 0 => pure ()
  | k + 1 => do
      match ← syncQueueReceivePointer which with
      | none => pure ()
      | some pQueueItem => do
          freeBuffer pQueueItem
          modifyContext (detach pQueueItem)
          drain which k

/-- As many receives as there are items, and the one that finds none. -/
def receives (q : Option SyncQueue) : Nat := q.elim 1 (fun q => q.itemsInQueue + 1)

/-- The loop, with enough receives. -/
def drainQueue (which : ContextQueue) : Teardown Unit := do
  let st ← get
  drain which (receives (st.context.queue which))

/-- A part of the deletion, for a pointer that is not `NULL`. -/
def deletePart (present : UserContext → Bool) (part : Teardown Unit) : Teardown Unit := do
  let st ← get
  if present st.context then part else pure ()

/-- `iotshdDev_MQTTAgentDeleteUserContext`, of a context that is there. -/
def deleteUserContext : Teardown Unit := do
  deletePart (fun context => context.pSyncEvent) do
    freeBlock .syncEvent
    modifyContext fun context => { context with pSyncEvent := false }
  deletePart (fun context => context.pFreePublishMessageQueue.isSome) do
    syncQueueDelete .free
    drainQueue .free
    modifyContext fun context => { context with pFreePublishMessageQueue := none }
  deletePart (fun context => context.pIncommingPublishQueue.isSome) do
    syncQueueDelete .incomming
    -- the free queue once more
    drainQueue .free
    modifyContext fun context => { context with pIncommingPublishQueue := none }
  deletePart (fun context => context.pQueueItems.isSome) do
    freeBlock .queueItems
    modifyContext fun context => { context with pQueueItems := none }
  freeBlock .context

/-- A context that is about to be deleted. -/
def Deletion.of (context : UserContext) : Deletion where
  context := context
  ledger := { taken := owned context, freed := [] }

/-- The deletion does nothing it must not do, and frees every block of the
    context exactly once. -/
def TornDown (context : UserContext) : Prop :=
  ∃ st, deleteUserContext (.of context) = .ok () st ∧ st.ledger.Settled

/-! ### What the parts do -/

theorem freeBlock_ok {block : Owned} {st st' : Deletion} {u : Unit}
    (h : freeBlock block st = .ok u st') :
    st.ledger.free block = some st'.ledger ∧ st'.context = st.context := by
  unfold freeBlock at h
  cases hfree : st.ledger.free block with
  | none =>
      rw [hfree] at h
      cases h
  | some ledger =>
      rw [hfree] at h
      cases h
      exact ⟨rfl, rfl⟩

/-- A queue that can be used is there and live. -/
theorem accessQueue_ok {which : ContextQueue} {st st' : Deletion} {q : SyncQueue}
    (h : accessQueue which st = .ok q st') :
    st.context.queue which = some q ∧ st.ledger.Live (.queue which) ∧ st' = st := by
  unfold accessQueue at h
  cases hq : st.context.queue which with
  | none =>
      rw [hq] at h
      cases h
  | some q' =>
      rw [hq] at h
      simp only at h
      by_cases hlive : st.ledger.Live (.queue which)
      · rw [if_pos hlive] at h
        cases h
        exact ⟨rfl, hlive, rfl⟩
      · rw [if_neg hlive] at h
        cases h

/-- A part is carried out if its pointer is not `NULL`. -/
theorem deletePart_ok {present : UserContext → Bool} {part : Teardown Unit} {st st' : Deletion}
    {u : Unit} (h : deletePart present part st = .ok u st') :
    (present st.context = true ∧ part st = .ok u st') ∨
      (present st.context = false ∧ st' = st) := by
  unfold deletePart at h
  rw [get_bind] at h
  cases hpresent : present st.context with
  | true =>
      rw [hpresent] at h
      exact Or.inl ⟨rfl, h⟩
  | false =>
      rw [hpresent] at h
      cases h
      exact Or.inr ⟨rfl, rfl⟩

/-- A queue that was deleted is not live any more, and the context still points
    to it. -/
theorem syncQueueDelete_ok (which : ContextQueue) {st st' : Deletion} {u : Unit}
    (hsome : (st.context.queue which).isSome = true)
    (h : syncQueueDelete which st = .ok u st') :
    ¬ st'.ledger.Live (.queue which) ∧ st'.context = st.context := by
  have hnone : ¬ (st.context.queue which).isNone = true := by
    rw [Option.isNone_iff_eq_none]
    exact Option.isSome_iff_ne_none.mp hsome
  unfold syncQueueDelete at h
  rw [get_bind, if_neg hnone] at h
  rcases bind_ok.mp h with ⟨q, st1, haccess, hfrees⟩
  rcases accessQueue_ok haccess with ⟨-, -, rfl⟩
  by_cases hsize : q.bufferSize = 0
  · rw [if_pos hsize] at hfrees
    rcases freeBlock_ok hfrees with ⟨hfree, hcontext⟩
    exact ⟨fun hlive => ((Ledger.live_free_iff hfree _).mp hlive).1 rfl, hcontext⟩
  · rw [if_neg hsize] at hfrees
    rcases bind_ok.mp hfrees with ⟨_, st2, hbuffer, hstruct⟩
    rcases freeBlock_ok hbuffer with ⟨-, hcontext2⟩
    rcases freeBlock_ok hstruct with ⟨hfree, hcontext⟩
    exact ⟨fun hlive => ((Ledger.live_free_iff hfree _).mp hlive).1 rfl, hcontext.trans hcontext2⟩

/-- The loop receives at least once, so it needs the queue. -/
theorem drainQueue_ok {which : ContextQueue} {st st' : Deletion} {u : Unit}
    (h : drainQueue which st = .ok u st') : st.ledger.Live (.queue which) := by
  unfold drainQueue at h
  rw [get_bind] at h
  have hreceives : ∃ k, receives (st.context.queue which) = k + 1 := by
    cases st.context.queue which with
    | none => exact ⟨0, rfl⟩
    | some q => exact ⟨q.itemsInQueue, rfl⟩
  rcases hreceives with ⟨k, hk⟩
  rw [hk] at h
  rcases bind_ok.mp h with ⟨_, _, hreceive, -⟩
  rcases bind_ok.mp hreceive with ⟨_, _, haccess, -⟩
  exact (accessQueue_ok haccess).2.1

/-! ### When a context is deleted properly -/

/-- A context with a free queue is not deleted properly: the queue is deleted
    before it is emptied. -/
theorem not_tornDown_of_free {context : UserContext}
    (hfree : context.pFreePublishMessageQueue.isSome = true) : ¬ TornDown context := by
  rintro ⟨st, hrun, -⟩
  unfold deleteUserContext at hrun
  rcases bind_ok.mp hrun with ⟨_, st1, hevent, hrun⟩
  rcases bind_ok.mp hrun with ⟨_, st2, hpart, -⟩
  -- the event is no part of the queues
  have hqueue : st1.context.pFreePublishMessageQueue = context.pFreePublishMessageQueue := by
    rcases deletePart_ok hevent with ⟨-, hbody⟩ | ⟨-, rfl⟩
    · rcases bind_ok.mp hbody with ⟨_, st3, hblock, hmodify⟩
      cases hmodify
      have hsame := congrArg UserContext.pFreePublishMessageQueue (freeBlock_ok hblock).2
      exact hsame
    · rfl
  have hsome : st1.context.pFreePublishMessageQueue.isSome = true := by rw [hqueue, hfree]
  rcases deletePart_ok hpart with ⟨-, hbody⟩ | ⟨hnone, -⟩
  · rcases bind_ok.mp hbody with ⟨_, st3, hdelete, hrest⟩
    rcases bind_ok.mp hrest with ⟨_, _, hdrain, -⟩
    exact (syncQueueDelete_ok .free hsome hdelete).1 (drainQueue_ok hdrain)
  · rw [hsome] at hnone
    cases hnone

/-- A context without queues. -/
def bareContext (pSyncEvent : Bool) : UserContext where
  pSyncEvent := pSyncEvent
  pIncommingPublishQueue := none
  pFreePublishMessageQueue := none
  queueSize := 0
  pQueueItems := none
  items := fun _ => zeroItem

theorem tornDown_bareContext (pSyncEvent : Bool) : TornDown (bareContext pSyncEvent) := by
  cases pSyncEvent with
  | true => exact ⟨_, rfl, by decide⟩
  | false => exact ⟨_, rfl, by decide⟩

/-- A context has no queues, or has a free queue. -/
theorem createUserContext_cases {malloc : ContextMalloc} {n : Nat} {context : UserContext}
    (h : createUserContext malloc n = .ok (some context)) :
    ((n = 0 ∨ malloc.syncEvent = false) ∧ context = bareContext malloc.syncEvent) ∨
      (¬ (n = 0 ∨ malloc.syncEvent = false) ∧
        context.pFreePublishMessageQueue.isSome = true) := by
  unfold createUserContext at h
  by_cases hcontext : malloc.context = false
  · rw [if_pos hcontext] at h
    cases h
  rw [if_neg hcontext] at h
  by_cases hevent : malloc.syncEvent = false
  · rw [if_pos hevent] at h
    cases h
    rw [hevent]
    exact Or.inl ⟨Or.inr rfl, rfl⟩
  rw [if_neg hevent] at h
  by_cases hn : n = 0
  · rw [if_pos hn] at h
    cases h
    rw [Bool.not_eq_false] at hevent
    rw [hevent]
    exact Or.inl ⟨Or.inl hn, rfl⟩
  rw [if_neg hn] at h
  -- from here on both queues are made, or the program stops
  refine Or.inr ⟨not_or.mpr ⟨hn, hevent⟩, ?_⟩
  rcases bind_eq_ok.mp h with ⟨incomming, -, h⟩
  rcases bind_eq_ok.mp h with ⟨free, -, h⟩
  split at h
  case h_1 q base =>
    split at h
    case isTrue => cases h
    case isFalse =>
      cases h
      rfl
  case h_2 => cases h

section Runs

variable {ι : Type*} [DecidableEq ι]

/-- Every step keeps the free queue, or its absence. -/
theorem queueStep_free {st st' : QueueState ι} {act : QueueAct ι}
    (h : queueStep st act = some st') :
    st'.context.pFreePublishMessageQueue.isSome = st.context.pFreePublishMessageQueue.isSome := by
  cases act with
  | callbackReceive info res =>
      rcases callbackReceive_step h with ⟨q, -, hq, -, rfl⟩
      rw [hq]
      rfl
  | callbackFill malloc =>
      rcases callbackFill_step h with ⟨p, info, item, -, -, rfl⟩
      rfl
  | callbackSend ret =>
      rcases callbackSend_step h with ⟨p, q, -, -, -, rfl⟩
      rfl
  | dequeue i res =>
      rcases dequeue_step h with ⟨q, -, -, rfl⟩
      rfl
  | freeClear i p freeBuffer =>
      rcases freeClear_step h with ⟨-, rfl⟩
      rfl
  | freeSend i p ret =>
      rcases freeSend_step h with ⟨q, hq, -, -, rfl⟩
      rw [hq]
      rfl

theorem publishQueue_free {context : UserContext} {acts : List (QueueAct ι)} {st : QueueState ι}
    (hrun : (publishQueue ι context).run acts = some st) :
    st.context.pFreePublishMessageQueue.isSome = context.pFreePublishMessageQueue.isSome := by
  refine (publishQueue ι context).run_induction
    (P := fun _ st => st.context.pFreePublishMessageQueue.isSome =
      context.pFreePublishMessageQueue.isSome) rfl ?_ acts st hrun
  intro acts st act st' _ ih hstep
  exact (queueStep_free hstep).trans ih

/-- Without queues there is nothing the threads can do. -/
theorem publishQueue_bare {pSyncEvent : Bool} {acts : List (QueueAct ι)} {st : QueueState ι}
    (hrun : (publishQueue ι (bareContext pSyncEvent)).run acts = some st) :
    st = (publishQueue ι (bareContext pSyncEvent)).init := by
  refine (publishQueue ι (bareContext pSyncEvent)).run_induction
    (P := fun _ st => st = (publishQueue ι (bareContext pSyncEvent)).init) rfl ?_ acts st hrun
  rintro acts _ act st' _ rfl hstep
  change queueStep (publishQueue ι (bareContext pSyncEvent)).init act = some st' at hstep
  cases act with
  | callbackReceive info res =>
      rcases callbackReceive_step hstep with ⟨q, -, hq, -⟩
      cases hq
  | callbackFill malloc =>
      rcases callbackFill_step hstep with ⟨p, info, item, hfilling, -⟩
      cases hfilling
  | callbackSend ret =>
      rcases callbackSend_step hstep with ⟨p, q, hsending, -⟩
      cases hsending
  | dequeue i res =>
      rcases dequeue_step hstep with ⟨q, hq, -⟩
      cases hq
  | freeClear i p freeBuffer => cases (freeClear_step hstep).1
  | freeSend i p ret =>
      rcases freeSend_step hstep with ⟨q, hq, -⟩
      cases hq

/-- Whatever the threads did with it, a context is deleted properly if and only
    if it was made without queues. -/
theorem deleteUserContext_tornDown_iff (malloc : ContextMalloc) (n : Nat) (context : UserContext)
    (hcreate : createUserContext malloc n = .ok (some context)) (acts : List (QueueAct ι))
    (st : QueueState ι) (hrun : (publishQueue ι context).run acts = some st) :
    TornDown st.context ↔ n = 0 ∨ malloc.syncEvent = false := by
  rcases createUserContext_cases hcreate with ⟨hnone, rfl⟩ | ⟨hsome, hfree⟩
  · rw [publishQueue_bare hrun]
    exact iff_of_true (tornDown_bareContext _) hnone
  · rw [← publishQueue_free hrun] at hfree
    exact iff_of_false (not_tornDown_of_free hfree) hsome

end Runs

/-- A context for one publish, with every allocation successful. -/
def oneItem : ContextMalloc :=
  ⟨true, true, ⟨true, some fun _ => 0⟩, ⟨true, some fun _ => 0⟩, some 4096⟩

def oneItemContext : UserContext := madeContext (fun _ => 0) (fun _ => 0) 4096 1

/-- A publish is received, dequeued, and freed less its buffer. -/
def usedActs : List (QueueAct (Fin 1)) :=
  [.callbackReceive zeroPublishInfo (some 4096), .callbackFill (some fun _ => 0),
    .callbackSend true, .dequeue 0 (some 4096), .freeClear 0 4096 false, .freeSend 0 4096 true]

theorem deleteUserContext_tornDown_iff_used :
    ∃ st, (publishQueue (Fin 1) oneItemContext).run usedActs = some st ∧ st.held = [] ∧
      (TornDown st.context ↔ 1 = 0 ∨ true = false) := by
  refine ⟨_, rfl, rfl, ?_⟩
  exact deleteUserContext_tornDown_iff oneItem 1 oneItemContext rfl usedActs _ rfl

/-- The buffer is still attached to the item, and the deletion receives from the
    queue it just deleted. -/
theorem deleteUserContext_deletedQueue :
    createUserContext oneItem 1 = .ok (some oneItemContext) ∧
      ∃ st t, (publishQueue (Fin 1) oneItemContext).run usedActs = some st ∧ st.held = [] ∧
        attached st.context = [4096] ∧
        deleteUserContext (.of st.context) = .error .deletedQueue t ∧ ¬ TornDown st.context :=
  ⟨rfl, _, _, rfl, rfl, rfl, rfl, not_tornDown_of_free rfl⟩

end MqttAgent

end ProvisioningSdk
