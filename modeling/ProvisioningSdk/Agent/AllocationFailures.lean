import ProvisioningSdk.Agent.ContextTeardown
import ProvisioningSdk.Agent.PublishDelivery

/-!
# Allocation Failures

What `mqtt_agent.c` does when `malloc` has nothing left: while a user context
is made, and in `mqttAgentEnqueuePublishCallback` at any publish of a run.

The creation looks at the context and at its event, and returns the context
without the event where that one failed. Everything after that is used as it
comes. The callback looks at no allocation at all: it records the size it asked
for, and copies the publish through the `NULL`, so the item comes back to
nobody. One failure shows late. A queue of received publishes whose buffer is
missing is made without a complaint, and the first publish is sent into it.

So the exact condition is that nothing fails that is used unseen
(`handlesFailures_iff`). The other parts of it are about sizes: the free queue
has every item only up to `2 ^ 29` of them, a context without items has no
queue for a publish, and the size of the buffer must not wrap.

A missing buffer changes one field of one queue, and no step looks at that
field. The runs of such a context are those of a proper one
(`queueStep_resize`), which is how the invariant of the queues is used here.

## Main definitions

* `CreatesContext`: What the creation should do.
* `HandlesPublish`: What a step of the callback should do.
* `HandlesFailures`: Both, along a run.
* `CreationSucceeds`, `AllocationSucceeds`: The exact condition.

## Theorems

* `createsContext_iff`: When the creation does what it should.
* `recorded_of_reachable`: The recorded sizes are right in every state.
* `queueStep_resize`: No step looks at the size of a queue's buffer.
* `handlesPublish_iff`: When a step does what it should.
* `handlesFailures_iff`: The exact condition on a run.
-/

namespace ProvisioningSdk

namespace MqttAgent

open Bytes IotshdPal Transition

/-! ### What should happen -/

/-- A context that can be used: it has its event, and if it is for publishes
    both queues, with every item in the free one. -/
structure UserContext.Prepared (context : UserContext) (n : Nat) : Prop where
  event : context.pSyncEvent = true
  incomming : 0 < n → context.pIncommingPublishQueue.isSome = true
  free : 0 < n → context.pFreePublishMessageQueue.isSome = true
  items : 0 < n → ∃ base, context.pQueueItems = some base ∧
    (pointers context.pFreePublishMessageQueue).Perm (itemAddrs base n)

/-- The creation returns a prepared context, or `NULL` and keeps no block. It
    frees none, so it keeps none only where it got none. -/
def CreatesContext (malloc : ContextMalloc) (n : Nat) : Prop :=
  match createUserContext malloc n with
  | .ok none => malloc.context = false
  | .ok (some context) => context.Prepared n
  | .error _ => False

/-- The recorded size is the size of the buffer, zero without one. -/
def QueueItem.Exact (item : QueueItem) : Prop :=
  item.topicPayloadBufferSize = item.topicPayloadBuffer.elim 0 Block.size

/-- How many bytes the callback writes to the buffer of an item. -/
def PublishInfo.copied (info : PublishInfo) : Nat :=
  info.topicNameLength + 1 + info.payloadLength + 1

/-- The item's own buffer does not do, and there is no new one. -/
def AllocationFails (malloc : Option Memory) (info : PublishInfo) (item : QueueItem) : Prop :=
  ¬ (item.topicPayloadBuffer.isSome ∧ u64 info.copied ≤ item.topicPayloadBufferSize) ∧
    malloc = none

section Runs

variable {ι : Type*} [DecidableEq ι]

/-- What a step of the callback should do in a state. It needs a queue to take
    an item from. The copy stays inside a block that is there, or the publish is
    dropped and the item is free again, and every size is right afterwards. The
    pointer is sent into a buffer that is there. -/
def HandlesPublish (st : QueueState ι) : QueueAct ι → Prop
  | .callbackReceive _ _ =>
      st.callback = .idle → st.context.pFreePublishMessageQueue.isSome = true
  | .callbackFill malloc => ∀ p info, st.callback = .filling p info →
      ∃ st', queueStep st (.callbackFill malloc) = some st' ∧
        (∀ q, (st'.context.items q).Exact) ∧
        (AllocationFails malloc info (st.context.items p) →
          st'.callback = .idle ∧ p ∈ pointers st'.context.pFreePublishMessageQueue) ∧
        (¬ AllocationFails malloc info (st.context.items p) →
          ∃ block, (st'.context.items p).topicPayloadBuffer = some block ∧
            info.copied ≤ block.size)
  | .callbackSend _ => ∀ p, st.callback = .sending p →
      ∃ q, st.context.pIncommingPublishQueue = some q ∧
        -- a queue that is full is not written to
        ((sendNow (le64 p) q).2 = true →
          slotOffset q q.enqueueIndex + q.queueItemSize ≤ q.bufferSize)
  | _ => True

/-- The creation, and every step of the callback in the run, do what they
    should. -/
def HandlesFailures (malloc : ContextMalloc) (n : Nat) (acts : List (QueueAct ι)) : Prop :=
  CreatesContext malloc n ∧ ∀ context, createUserContext malloc n = .ok (some context) →
    (publishQueue ι context).Guarded HandlesPublish acts

/-! ### The condition -/

/-- There is no context, or everything the creation uses is there, and no two
    slots of the free queue are the same bytes. -/
def CreationSucceeds (malloc : ContextMalloc) (n : Nat) : Prop :=
  malloc.context = false ∨ malloc.syncEvent = true ∧ (n = 0 ∨
    malloc.incomming.structBlock = true ∧ malloc.free.structBlock = true ∧
      malloc.free.buffer.isSome = true ∧ malloc.queueItems.isSome = true ∧ n ≤ 2 ^ 29)

/-- What a step of the callback uses is there. -/
def AllocationSucceeds (malloc : ContextMalloc) (n : Nat) (st : QueueState ι) : QueueAct ι → Prop
  | .callbackReceive _ _ => st.callback = .idle → 0 < n
  | .callbackFill fill => ∀ p info, st.callback = .filling p info →
      ¬ AllocationFails fill info (st.context.items p) ∧ info.copied < 2 ^ 64
  | .callbackSend _ => ∀ p, st.callback = .sending p → malloc.incomming.buffer.isSome = true
  | _ => True

end Runs

/-! ### The creation -/

/-- The context, with a buffer of another size in its queue of received
    publishes. -/
def UserContext.resize (b : Nat) (context : UserContext) : UserContext :=
  { context with
    pIncommingPublishQueue :=
      context.pIncommingPublishQueue.map (fun q => { q with bufferSize := b }) }

/-- The size of the block for the received publishes, zero for `NULL`. -/
def incommingSize (malloc : ContextMalloc) (n : Nat) : Nat :=
  if malloc.incomming.buffer.isSome then n * sizeofPointer else 0

theorem syncQueueCreate_allocated {malloc : QueueMalloc} {n : Nat} (hn : 1 ≤ n) (hn32 : n < 2 ^ 32)
    (hstruct : malloc.structBlock = true) :
    syncQueueCreate malloc n sizeofPointer =
      .ok (some { pointerQueue (malloc.buffer.getD (fun _ => 0)) n with
        bufferSize := if malloc.buffer.isSome then n * sizeofPointer else 0 }) := by
  have hn0 : ¬ n = 0 := by omega
  have hs0 : ¬ sizeofPointer = 0 := by decide
  have hsize : u64 (n * sizeofPointer) = n * sizeofPointer := by
    simp only [sizeofPointer]
    exact u64_of_lt _ (by omega)
  unfold syncQueueCreate
  rw [if_neg hn0, if_neg hs0, hstruct, hsize]
  rfl

/-- The context made when everything is there that the creation uses. -/
theorem createUserContext_allocated {malloc : ContextMalloc} {n base : Nat} {heap : Memory}
    (hn : 1 ≤ n) (hn32 : n < 2 ^ 32) (hcontext : malloc.context = true)
    (hevent : malloc.syncEvent = true) (hincomming : malloc.incomming.structBlock = true)
    (hfree : malloc.free.structBlock = true) (hbuffer : malloc.free.buffer = some heap)
    (hitems : malloc.queueItems = some base) :
    createUserContext malloc n =
      .ok (some ((madeContext (malloc.incomming.buffer.getD (fun _ => 0)) heap base n).resize
        (incommingSize malloc n))) := by
  have hn0 : ¬ n = 0 := by omega
  have hsize : ¬ n * sizeofPointer = 0 := by
    simp only [sizeofPointer]
    omega
  unfold createUserContext
  simp only [hcontext, hevent, Bool.true_eq_false, if_false, if_neg hn0,
    syncQueueCreate_allocated hn hn32 hincomming, syncQueueCreate_allocated hn hn32 hfree, hbuffer,
    hitems, Option.isSome_some, if_true]
  exact if_neg hsize

/-- Without a block for the structure the queue is cleared through the `NULL`. -/
theorem syncQueueCreate_missing {malloc : QueueMalloc} {n : Nat} (hn : 1 ≤ n)
    (hstruct : malloc.structBlock = false) :
    syncQueueCreate malloc n sizeofPointer = .error .nullDereference := by
  have hn0 : ¬ n = 0 := by omega
  have hs0 : ¬ sizeofPointer = 0 := by decide
  unfold syncQueueCreate
  rw [if_neg hn0, if_neg hs0, if_pos hstruct]

/-- The creation goes through a `NULL` that it did not look at. -/
theorem createUserContext_missing {malloc : ContextMalloc} {n : Nat} (hn : 1 ≤ n)
    (hn32 : n < 2 ^ 32) (hcontext : malloc.context = true) (hevent : malloc.syncEvent = true)
    (hmissing : ¬ (malloc.incomming.structBlock = true ∧ malloc.free.structBlock = true ∧
      malloc.free.buffer.isSome = true ∧ malloc.queueItems.isSome = true)) :
    createUserContext malloc n = .error .nullDereference := by
  have hn0 : ¬ n = 0 := by omega
  unfold createUserContext
  simp only [hcontext, hevent, Bool.true_eq_false, if_false, if_neg hn0]
  -- the allocations in the order in which they are used
  cases hincomming : malloc.incomming.structBlock with
  | false =>
      rw [syncQueueCreate_missing hn hincomming]
      rfl
  | true =>
      rw [syncQueueCreate_allocated hn hn32 hincomming]
      cases hfree : malloc.free.structBlock with
      | false =>
          rw [syncQueueCreate_missing hn hfree]
          rfl
      | true =>
          rw [syncQueueCreate_allocated hn hn32 hfree]
          cases hitems : malloc.queueItems with
          | none => rfl
          | some base =>
              have hbuffer : malloc.free.buffer = none := by
                rw [← Option.not_isSome_iff_eq_none]
                exact fun hsome => hmissing ⟨hincomming, hfree, hsome, by rw [hitems]; rfl⟩
              rw [hbuffer]
              rfl

/-- A context with every item in its free queue is prepared only up to `2 ^ 29`
    of them, whatever buffer the other queue has. -/
theorem prepared_resize_iff {heap1 heap2 : Memory} {base n b : Nat} (hn : 1 ≤ n)
    (hn32 : n < 2 ^ 32) (hbase : base + n * sizeofQueueItem ≤ 2 ^ 64) :
    ((madeContext heap1 heap2 base n).resize b).Prepared n ↔ n ≤ 2 ^ 29 := by
  constructor
  · intro h
    by_contra hwraps
    rcases h.items (by omega) with ⟨base', -, hperm⟩
    exact not_nodup_sendItems heap2 base n hn32 (by omega)
      (hperm.nodup_iff.mpr (nodup_itemAddrs base' n))
  · intro hfits
    refine ⟨rfl, fun _ => rfl, fun _ => rfl, fun _ => ⟨base, rfl, ?_⟩⟩
    have hpointers := pointers_sendItems heap2 base n hn hfits hbase
    exact List.Perm.of_eq hpointers

/-- Without items there is nothing to prepare but the event. -/
theorem prepared_bareContext_iff (pSyncEvent : Bool) (n : Nat) :
    (bareContext pSyncEvent).Prepared n ↔ n = 0 ∧ pSyncEvent = true := by
  constructor
  · intro h
    refine ⟨?_, h.event⟩
    by_contra hn
    exact absurd (h.free (Nat.pos_of_ne_zero hn)) Bool.false_ne_true
  · rintro ⟨rfl, hevent⟩
    exact ⟨hevent, fun h => absurd h (Nat.lt_irrefl 0), fun h => absurd h (Nat.lt_irrefl 0),
      fun h => absurd h (Nat.lt_irrefl 0)⟩

/-- A context whose event failed, or that is for no publishes, has no queues. -/
theorem createUserContext_bare {malloc : ContextMalloc} {n : Nat}
    (hcontext : malloc.context = true) (hbare : n = 0 ∨ malloc.syncEvent = false) :
    createUserContext malloc n = .ok (some (bareContext malloc.syncEvent)) := by
  unfold createUserContext
  simp only [hcontext, Bool.true_eq_false, if_false]
  cases hevent : malloc.syncEvent with
  | false => rfl
  | true =>
      rw [hevent, Bool.true_eq_false, or_false] at hbare
      exact if_pos hbare

/-- The creation does what it should if everything is there that it uses
    without a look. -/
theorem createsContext_iff {malloc : ContextMalloc} {n : Nat} (hn32 : n < 2 ^ 32)
    (hbase : ∀ base, malloc.queueItems = some base → base + n * sizeofQueueItem ≤ 2 ^ 64) :
    CreatesContext malloc n ↔ CreationSucceeds malloc n := by
  unfold CreatesContext CreationSucceeds
  cases hcontext : malloc.context with
  | false =>
      -- without a context `NULL` is returned
      have hcreate : createUserContext malloc n = .ok none := if_pos hcontext
      rw [hcreate]
      exact iff_of_true rfl (Or.inl rfl)
  | true =>
      rw [Bool.true_eq_false, false_or]
      by_cases hbare : n = 0 ∨ malloc.syncEvent = false
      · -- no queues are asked for, or the function returns before it makes them
        rw [createUserContext_bare hcontext hbare]
        simp only [prepared_bareContext_iff]
        rcases hbare with rfl | hevent
        · simp
        · simp [hevent]
      obtain ⟨hn0, hevent⟩ := not_or.mp hbare
      rw [Bool.not_eq_false] at hevent
      have hn : 1 ≤ n := Nat.pos_of_ne_zero hn0
      by_cases hall : malloc.incomming.structBlock = true ∧ malloc.free.structBlock = true ∧
          malloc.free.buffer.isSome = true ∧ malloc.queueItems.isSome = true
      · rcases hall with ⟨hincomming, hfree, hbuffer, hitems⟩
        obtain ⟨heap, hheap⟩ := Option.isSome_iff_exists.mp hbuffer
        obtain ⟨base, hbase'⟩ := Option.isSome_iff_exists.mp hitems
        rw [createUserContext_allocated hn hn32 hcontext hevent hincomming hfree hheap hbase']
        simp only [prepared_resize_iff hn hn32 (hbase base hbase'), hevent, hincomming, hfree,
          hbuffer, hitems, hn0, true_and, false_or]
      · -- one of the queues is missing, and so is its use
        rw [createUserContext_missing hn hn32 hcontext hevent hall]
        refine iff_of_false not_false fun h => ?_
        rcases h.2 with hzero | ⟨hincomming, hfree, hbuffer, hitems, -⟩
        · exact hn0 hzero
        · exact hall ⟨hincomming, hfree, hbuffer, hitems⟩

/-! ### The recorded sizes -/

/-- A size that was recorded, and is one of a `size_t`. -/
structure QueueItem.Recorded (item : QueueItem) : Prop where
  exact : item.Exact
  bounded : item.topicPayloadBufferSize < 2 ^ 64

theorem zeroItem_recorded : zeroItem.Recorded where
  exact := rfl
  bounded := by decide

/-- The copy goes through the `NULL`. -/
theorem enqueueFill_fails {malloc : Option Memory} {info : PublishInfo} {item : QueueItem}
    (h : AllocationFails malloc info item) :
    enqueueFill malloc info item = .error .nullDereference := by
  rcases h with ⟨hold, rfl⟩
  have hbuffer : (enqueueBuffer none (u64 info.copied)
      { item with publishInfo := info }).topicPayloadBuffer = none := by
    rw [enqueueBuffer_eq, if_neg hold]
    rfl
  unfold PublishInfo.copied at hbuffer
  simp only [enqueueFill, hbuffer]

/-- A buffer that does is kept, with its size, and the size of a new one is the
    size asked for. -/
theorem enqueueBuffer_recorded (malloc : Option Memory) (info : PublishInfo) {item : QueueItem}
    (hitem : item.Recorded) (h : ¬ AllocationFails malloc info item) :
    (enqueueBuffer malloc (u64 info.copied) item).Recorded ∧
      ∃ block, (enqueueBuffer malloc (u64 info.copied) item).topicPayloadBuffer = some block ∧
        u64 info.copied ≤ block.size := by
  rw [enqueueBuffer_eq]
  by_cases hold : item.topicPayloadBuffer.isSome ∧ u64 info.copied ≤ item.topicPayloadBufferSize
  · rw [if_pos hold]
    obtain ⟨block, hblock⟩ := Option.isSome_iff_exists.mp hold.1
    have hsize := hitem.exact
    rw [QueueItem.Exact, hblock, Option.elim_some] at hsize
    exact ⟨hitem, block, hblock, hsize ▸ hold.2⟩
  · rw [if_neg hold]
    obtain ⟨bytes, rfl⟩ : ∃ bytes, malloc = some bytes :=
      Option.ne_none_iff_exists'.mp fun hnone => h ⟨hold, hnone⟩
    exact ⟨⟨rfl, Nat.mod_lt _ (by decide)⟩, _, rfl, Nat.le_refl _⟩

/-- The callback copies its publish into a block of the size it asked for or a
    larger one. -/
theorem enqueueFill_recorded {malloc : Option Memory} {info : PublishInfo} {item : QueueItem}
    (hitem : item.Recorded) (h : ¬ AllocationFails malloc info item) :
    ∃ item', enqueueFill malloc info item = .ok item' ∧ item'.Recorded ∧
      ∃ block, item'.topicPayloadBuffer = some block ∧ u64 info.copied ≤ block.size := by
  have hcopy : ({ item with publishInfo := info } : QueueItem).Recorded :=
    ⟨hitem.exact, hitem.bounded⟩
  rcases enqueueBuffer_recorded malloc info hcopy h with ⟨hrecorded, block, hblock, hlarge⟩
  have hexact := hrecorded.exact
  rw [QueueItem.Exact, hblock, Option.elim_some] at hexact
  unfold PublishInfo.copied at hblock hlarge hexact hrecorded
  simp only [enqueueFill, hblock]
  exact ⟨_, rfl, ⟨hexact, hrecorded.bounded⟩, _, rfl, hlarge⟩

/-- A freed item keeps its buffer with its size, or has neither. -/
theorem freeClear_recorded {freeBuffer : Bool} {item : QueueItem} (h : item.Recorded) :
    (freeClear freeBuffer item).Recorded := by
  unfold freeClear
  split
  case isTrue => exact ⟨rfl, Nat.two_pow_pos 64⟩
  case isFalse => exact ⟨h.exact, h.bounded⟩

section States

variable {ι : Type*} [DecidableEq ι]

/-- A step that the program survives keeps the sizes right. -/
theorem recorded_step {st st' : QueueState ι} {act : QueueAct ι}
    (h : ∀ p, (st.context.items p).Recorded) (hstep : queueStep st act = some st') :
    ∀ p, (st'.context.items p).Recorded := by
  cases act with
  | callbackReceive info res =>
      rcases callbackReceive_step hstep with ⟨q, -, -, -, rfl⟩
      exact h
  -- only the filling and the freeing touch an item
  | callbackFill malloc =>
      rcases callbackFill_step hstep with ⟨p, info, item, -, hitem, rfl⟩
      by_cases hfails : AllocationFails malloc info (st.context.items p)
      · rw [enqueueFill_fails hfails] at hitem
        cases hitem
      · rcases enqueueFill_recorded (h p) hfails with ⟨item', hitem', hrecorded, -⟩
        obtain rfl : item = item' := Except.ok.inj (hitem.symm.trans hitem')
        exact items_update h hrecorded
  | callbackSend ret =>
      rcases callbackSend_step hstep with ⟨p, q, -, -, -, rfl⟩
      exact h
  | dequeue i res =>
      rcases dequeue_step hstep with ⟨q, -, -, rfl⟩
      exact h
  | freeClear i p freeBuffer =>
      rcases freeClear_step hstep with ⟨-, rfl⟩
      exact items_update h (freeClear_recorded (h p))
  | freeSend i p ret =>
      rcases freeSend_step hstep with ⟨q, -, -, -, rfl⟩
      exact h

/-- In every state of every run the recorded sizes are right. -/
theorem recorded_of_reachable {context : UserContext} (h0 : ∀ p, (context.items p).Recorded)
    {st : QueueState ι} (h : (publishQueue ι context).Reachable st) :
    ∀ p, (st.context.items p).Recorded :=
  (publishQueue ι context).reachable_induction
    (P := fun st => ∀ p, (st.context.items p).Recorded) h0
    (fun _ _ _ _ hrecorded hstep => recorded_step hrecorded hstep) h

/-! ### A queue without its buffer -/

/-- The state, with a buffer of another size in its queue of received
    publishes. -/
def QueueState.resize (b : Nat) (st : QueueState ι) : QueueState ι :=
  { st with context := st.context.resize b }

theorem sendNow_resize (bytes : List UInt8) (q : SyncQueue) (b : Nat) :
    sendNow bytes { q with bufferSize := b } =
      ({ (sendNow bytes q).1 with bufferSize := b }, (sendNow bytes q).2) := by
  unfold sendNow
  split
  · rfl
  · rfl

theorem receiveNow_resize (q : SyncQueue) (b : Nat) :
    receiveNow { q with bufferSize := b } =
      ({ (receiveNow q).1 with bufferSize := b }, (receiveNow q).2) := by
  unfold receiveNow
  split
  · rfl
  · rfl

/-- No step looks at the size of the buffer. -/
theorem queueStep_resize (b : Nat) (st : QueueState ι) (act : QueueAct ι) :
    queueStep (st.resize b) act = (queueStep st act).map (QueueState.resize b) := by
  rcases st with ⟨⟨event, incomming, free, size, address, items⟩, callback, held⟩
  -- without its queue, or at another place of the callback, neither takes the step
  cases act with
  | callbackReceive info res =>
      cases callback <;> cases free <;>
        simp only [queueStep, QueueState.resize, UserContext.resize, Option.map_none,
          apply_ite (Option.map _)]
      rfl
  | callbackFill malloc =>
      cases callback <;>
        simp only [queueStep, QueueState.resize, UserContext.resize, Option.map_none]
      split <;> rfl
  | callbackSend ret =>
      cases callback <;> cases incomming <;>
        simp only [queueStep, QueueState.resize, UserContext.resize, Option.map_none,
          Option.map_some, sendNow_resize, apply_ite (Option.map _)]
  | dequeue i res =>
      cases incomming <;>
        simp only [queueStep, QueueState.resize, UserContext.resize, Option.map_none,
          Option.map_some, receiveNow_resize, apply_ite (Option.map _)]
  | freeClear i p freeBuffer =>
      simp only [queueStep, QueueState.resize, UserContext.resize, apply_ite (Option.map _)]
      rfl
  | freeSend i p ret =>
      cases free <;>
        simp only [queueStep, QueueState.resize, UserContext.resize, Option.map_none,
          apply_ite (Option.map _)]
      rfl

theorem reachable_resize {context : UserContext} {b : Nat} {st : QueueState ι}
    (h : (publishQueue ι (context.resize b)).Reachable st) :
    ∃ st', (publishQueue ι context).Reachable st' ∧ st = st'.resize b :=
  System.reachable_map (publishQueue ι context) (publishQueue ι (context.resize b))
    (QueueState.resize b) rfl (queueStep_resize b) h

end States

/-! ### The steps of the callback -/

section Steps

variable {ι : Type*} [DecidableEq ι]

/-- A copy that can be made stays inside the block if its size did not wrap. -/
theorem callbackFill_iff (st : QueueState ι) (hrecorded : ∀ p, (st.context.items p).Recorded)
    (fill : Option Memory) (malloc : ContextMalloc) (n : Nat) :
    HandlesPublish st (.callbackFill fill) ↔
      AllocationSucceeds malloc n st (.callbackFill fill) := by
  refine forall_congr' fun p => forall_congr' fun info => forall_congr' fun hfilling => ?_
  by_cases hfails : AllocationFails fill info (st.context.items p)
  · -- the program is stopped, so the item is nowhere
    refine iff_of_false ?_ fun h => h.1 hfails
    rintro ⟨st', hstep, -⟩
    rcases callbackFill_step hstep with ⟨p', info', item, hfilling', hitem, -⟩
    obtain ⟨rfl, rfl⟩ := CallbackPc.filling.inj (hfilling.symm.trans hfilling')
    rw [enqueueFill_fails hfails] at hitem
    cases hitem
  · rcases enqueueFill_recorded (hrecorded p) hfails with
      ⟨item, hitem, hnew, block, hblock, hlarge⟩
    have hstep : queueStep st (.callbackFill fill) =
        some { st with
          context := { st.context with items := Function.update st.context.items p item }
          callback := .sending p } := by
      simp only [queueStep, hfilling, hitem]
    constructor
    · rintro ⟨st', hstep', -, -, hcopied⟩
      refine ⟨hfails, ?_⟩
      obtain rfl := Option.some.inj (hstep.symm.trans hstep')
      rcases hcopied hfails with ⟨block', hblock', hsize⟩
      simp only [Function.update_self] at hblock'
      -- a block is no larger than what was recorded for it
      have hexact := hnew.exact
      rw [QueueItem.Exact, hblock', Option.elim_some] at hexact
      exact Nat.lt_of_le_of_lt hsize (hexact ▸ hnew.bounded)
    · rintro ⟨-, hbounded⟩
      refine ⟨_, hstep, fun q => (recorded_step hrecorded hstep q).exact,
        fun h => absurd h hfails, fun _ => ⟨block, ?_, ?_⟩⟩
      · simp only [Function.update_self]
        exact hblock
      · rw [u64_of_lt _ hbounded] at hlarge
        exact hlarge

/-- The pointer is sent into the buffer of the queue, if there is one. -/
theorem callbackSend_iff {base n : Nat} {st : QueueState ι} (hinv : QueueInv base n st)
    (hbase : base + n * sizeofQueueItem ≤ 2 ^ 64) (ret : Bool) (malloc : ContextMalloc) :
    HandlesPublish (st.resize (incommingSize malloc n)) (.callbackSend ret) ↔
      AllocationSucceeds malloc n (st.resize (incommingSize malloc n)) (.callbackSend ret) := by
  refine forall_congr' fun p => forall_congr' fun hsending => ?_
  rcases hinv.incomming with ⟨q, hq, hready, hcount, hsize⟩
  -- the callback has an item, so the queue is not full
  have hhold : p ∈ holders st := by
    unfold holders
    have hcallback : st.callback = .sending p := hsending
    rw [hcallback]
    exact List.mem_append_left _ (List.mem_singleton_self p)
  have hroom := (hinv.room hhold).2
  rw [hq] at hroom
  have hsent := (sendNow_pointer hready hcount hsize
    (hinv.addr_lt hbase (List.mem_append_right _ hhold)) hroom).1
  have hresize : (st.resize (incommingSize malloc n)).context.pIncommingPublishQueue =
      some { q with bufferSize := incommingSize malloc n } := congrArg (Option.map _) hq
  have hsent' : (sendNow (le64 p) { q with bufferSize := incommingSize malloc n }).2 = true := by
    rw [sendNow_resize]
    exact hsent
  constructor
  · rintro ⟨q', hq', hwrites⟩
    obtain rfl := Option.some.inj (hresize.symm.trans hq')
    have hfits : slotOffset q q.enqueueIndex + q.queueItemSize ≤ incommingSize malloc n :=
      hwrites hsent'
    by_contra hmissing
    rw [incommingSize, if_neg hmissing, hsize, sizeofPointer] at hfits
    omega
  · intro hthere
    refine ⟨_, hresize, fun _ => ?_⟩
    have hinside := hready.inside q.enqueueIndex hready.tail_lt
    rw [hready.buffer, hcount, hsize] at hinside
    have hfits : slotOffset q q.enqueueIndex + q.queueItemSize ≤ incommingSize malloc n := by
      rw [incommingSize, if_pos hthere, hsize]
      exact hinside
    exact hfits

/-- A step of the callback does what it should if what it uses is there. -/
theorem handlesPublish_iff {base n : Nat} {st : QueueState ι} (hn : 1 ≤ n)
    (hinv : QueueInv base n st) (hbase : base + n * sizeofQueueItem ≤ 2 ^ 64)
    (hrecorded : ∀ p, (st.context.items p).Recorded) (malloc : ContextMalloc) (act : QueueAct ι) :
    HandlesPublish (st.resize (incommingSize malloc n)) act ↔
      AllocationSucceeds malloc n (st.resize (incommingSize malloc n)) act := by
  cases act with
  | callbackReceive info res =>
      rcases hinv.free with ⟨q, hq, -⟩
      have hsome : st.context.pFreePublishMessageQueue.isSome = true := by
        rw [hq]
        rfl
      exact iff_of_true (fun _ => hsome) (fun _ => hn)
  | callbackFill fill =>
      have hsame : ∀ p, ((st.resize (incommingSize malloc n)).context.items p).Recorded := hrecorded
      exact callbackFill_iff _ hsame fill malloc n
  | callbackSend ret => exact callbackSend_iff hinv hbase ret malloc
  | dequeue i res => exact Iff.rfl
  | freeClear i p freeBuffer => exact Iff.rfl
  | freeSend i p ret => exact Iff.rfl

end Steps

/-! ### The runs -/

section Condition

variable {ι : Type*} [DecidableEq ι]

/-- A context without queues does not get past the first publish. -/
theorem handlesPublish_bare (malloc : ContextMalloc) (pSyncEvent : Bool) (act : QueueAct ι) :
    HandlesPublish (publishQueue ι (bareContext pSyncEvent)).init act ↔
      AllocationSucceeds malloc 0 (publishQueue ι (bareContext pSyncEvent)).init act := by
  cases act with
  | callbackReceive info res =>
      exact iff_of_false (fun h => Bool.false_ne_true (h rfl)) (fun h => Nat.lt_irrefl 0 (h rfl))
  | callbackFill fill => exact iff_of_true (fun _ _ h => nomatch h) (fun _ _ h => nomatch h)
  | callbackSend ret => exact iff_of_true (fun _ h => nomatch h) (fun _ h => nomatch h)
  | dequeue i res => exact Iff.rfl
  | freeClear i p freeBuffer => exact Iff.rfl
  | freeSend i p ret => exact Iff.rfl

/-- In the runs of a context that was made as it should, a step does what it
    should if what it uses is there. -/
theorem handlesPublish_of_reachable {malloc : ContextMalloc} {n : Nat} (hn32 : n < 2 ^ 32)
    (hbase : ∀ base, malloc.queueItems = some base → base + n * sizeofQueueItem ≤ 2 ^ 64)
    (hcreation : CreationSucceeds malloc n) {context : UserContext}
    (hcreate : createUserContext malloc n = .ok (some context)) {st : QueueState ι}
    (hreach : (publishQueue ι context).Reachable st) (act : QueueAct ι) :
    HandlesPublish st act ↔ AllocationSucceeds malloc n st act := by
  have hcontext : malloc.context = true := by
    by_contra hmissing
    have hnone : createUserContext malloc n = .ok none :=
      if_pos (Bool.eq_false_iff.mpr hmissing)
    rw [hnone] at hcreate
    cases hcreate
  rcases hcreation with hmissing | ⟨hevent, hqueues⟩
  · rw [hcontext] at hmissing
    cases hmissing
  rcases createUserContext_cases hcreate with ⟨hbare, rfl⟩ | ⟨hitems, -⟩
  · rw [hevent, Bool.true_eq_false, or_false] at hbare
    subst hbare
    rcases hreach with ⟨acts, hrun⟩
    rw [publishQueue_bare hrun]
    exact handlesPublish_bare malloc _ act
  · have hn0 := (not_or.mp hitems).1
    have hn : 1 ≤ n := Nat.pos_of_ne_zero hn0
    rcases hqueues.resolve_left hn0 with ⟨hincomming, hfree, hbuffer, haddress, hfits⟩
    obtain ⟨heap, hheap⟩ := Option.isSome_iff_exists.mp hbuffer
    obtain ⟨base, haddr⟩ := Option.isSome_iff_exists.mp haddress
    have hlimit := hbase base haddr
    rw [createUserContext_allocated hn hn32 hcontext hevent hincomming hfree hheap haddr,
      Except.ok.injEq, Option.some.injEq] at hcreate
    subst hcreate
    -- the run is one of the context with its buffer
    rcases reachable_resize hreach with ⟨st', hreach', rfl⟩
    have hrecorded := recorded_of_reachable (fun _ => zeroItem_recorded) hreach'
    rcases hreach' with ⟨acts, hrun⟩
    have hinv := (inv_run hlimit _ (madeContext_inv ι _ heap base n hn hfits hlimit) acts st'
      hrun).1
    exact handlesPublish_iff hn hinv hlimit hrecorded malloc act

/-- The creation and the callback do what they should along a run if and only
    if no allocation fails that they use unseen, and the sizes fit. -/
theorem handlesFailures_iff (malloc : ContextMalloc) (n : Nat) (hn32 : n < 2 ^ 32)
    (hbase : ∀ base, malloc.queueItems = some base → base + n * sizeofQueueItem ≤ 2 ^ 64)
    (acts : List (QueueAct ι)) :
    HandlesFailures malloc n acts ↔
      CreationSucceeds malloc n ∧ ∀ context, createUserContext malloc n = .ok (some context) →
        (publishQueue ι context).Guarded (AllocationSucceeds malloc n) acts := by
  unfold HandlesFailures
  rw [createsContext_iff hn32 hbase]
  refine and_congr_right fun hcreation => ?_
  refine forall_congr' fun context => forall_congr' fun hcreate => ?_
  exact System.guarded_iff_of_reachable _
    (fun _ act hreach => handlesPublish_of_reachable hn32 hbase hcreation hcreate hreach act) acts

theorem handlesFailures_iff_used : HandlesFailures oneItem 1 usedActs := by
  refine (handlesFailures_iff oneItem 1 (by decide) (fun base h => by cases h; decide) usedActs).mpr
    ⟨Or.inr ⟨rfl, Or.inr ⟨rfl, rfl, rfl, rfl, by decide⟩⟩, fun context hcreate => ?_⟩
  obtain rfl : oneItemContext = context := Option.some.inj (Except.ok.inj hcreate)
  refine ⟨fun _ => Nat.one_pos, fun st1 hreceive => ⟨?_, fun st2 _ => ⟨fun _ _ => rfl, fun st3 _ =>
    ⟨trivial, fun st4 _ => ⟨trivial, fun st5 _ => ⟨trivial, fun _ _ => trivial⟩⟩⟩⟩⟩⟩
  change queueStep (publishQueue (Fin 1) oneItemContext).init
    (.callbackReceive zeroPublishInfo (some 4096)) = some st1 at hreceive
  rcases callbackReceive_step hreceive with ⟨q, -, -, -, rfl⟩
  intro p info hfilling
  cases hfilling
  exact ⟨fun hfails => absurd hfails.2 (Option.some_ne_none _), by decide⟩

/-- A publish for which there is no memory. -/
def starvedActs : List (QueueAct (Fin 1)) :=
  [.callbackReceive zeroPublishInfo (some 4096), .callbackFill none]

/-- Without memory for a buffer the callback records a size that is not there
    and does not get to the end of its copy. A context whose event failed is
    returned without one. -/
theorem handlesFailures_starved :
    (CreatesContext oneItem 1 ∧ ¬ HandlesFailures oneItem 1 starvedActs ∧
      ¬ (enqueueBuffer none zeroPublishInfo.copied zeroItem).Exact) ∧
      createUserContext { oneItem with syncEvent := false } 1 = .ok (some (bareContext false)) ∧
        ¬ CreatesContext { oneItem with syncEvent := false } 1 := by
  refine ⟨⟨?_, ?_, ?_⟩, rfl, fun h => nomatch h.event⟩
  · exact (createsContext_iff (by decide) (fun base h => by cases h; decide)).mpr
      (Or.inr ⟨rfl, Or.inr ⟨rfl, rfl, rfl, rfl, by decide⟩⟩)
  · rintro ⟨-, h⟩
    rcases (h oneItemContext rfl).2 _ rfl with ⟨hfill, -⟩
    rcases hfill 4096 zeroPublishInfo rfl with ⟨st', hstep, -⟩
    cases hstep
  · intro h
    cases h

end Condition

end MqttAgent

end ProvisioningSdk
