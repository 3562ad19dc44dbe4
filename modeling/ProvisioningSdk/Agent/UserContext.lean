import ProvisioningSdk.Platform.PalQueue

/-!
# The User Context

The part of `mqtt_agent.c` that owns memory: a user context with its two queues
of item pointers, made by `iotshdDev_MQTTAgentCreateUserContext`, and what the
publish callback writes into an item.

The items are an array, and the queues carry the addresses of its elements as
eight bytes each, the way the code passes `&pQueueItem`. One queue has the free
items, the other the received publishes. Every allocation is an argument, so a
failed one is a value like any other; the code checks only the first two of
them, and what it does with the others it does through the `NULL`.

The topic and the payload of a publish are copied into a buffer that belongs to
the item and is kept for the next publish if it is large enough. The pointers
of the copied `publishInfo` are then set to that buffer.

## Main definitions

* `PublishInfo`: `MQTTPublishInfo_t`.
* `QueueItem`: An item, with its buffer.
* `UserContext`: The context with the memory it owns.
* `createUserContext`: Making a context.
* `enqueueFill`: Copying a publish into an item.
* `freeClear`: Clearing an item.

## Theorems

* `createUserContext_eq`: The context made when every allocation succeeds.
* `sendItems_counters`: The free queue counts every item it was sent.
* `sendItems_contents`: The free queue holds every item, if its slots fit.
-/

namespace ProvisioningSdk

namespace MqttAgent

open Bytes IotshdPal

/-- Where a pointer of a publish points: nowhere, to bytes outside the context,
    or into the buffer of the item it is stored in. -/
inductive TextPointer
  | null
  | external (bytes : List UInt8)
  | itemBuffer (offset : Nat)
  deriving DecidableEq, Repr

/-- The bytes at a pointer into memory outside the context. -/
def TextPointer.bytes : TextPointer → List UInt8
  | .external bytes => bytes
  | _ => []

/-- `MQTTPublishInfo_t`. -/
structure PublishInfo where
  qos : Nat
  retain : Bool
  dup : Bool
  pTopicName : TextPointer
  topicNameLength : Nat
  pPayload : TextPointer
  payloadLength : Nat
  deriving DecidableEq, Repr

/-- A block returned by `malloc`. -/
structure Block where
  size : Nat
  bytes : Memory

/-- `iotshdDev_MQTTAgentQueueItem_t`. -/
structure QueueItem where
  publishInfo : PublishInfo
  topicPayloadBuffer : Option Block
  topicPayloadBufferSize : Nat

/-- `publishInfo` with every byte zero. -/
def zeroPublishInfo : PublishInfo where
  qos := 0
  retain := false
  dup := false
  pTopicName := .null
  topicNameLength := 0
  pPayload := .null
  payloadLength := 0

/-- An item with every byte zero. -/
def zeroItem : QueueItem where
  publishInfo := zeroPublishInfo
  topicPayloadBuffer := none
  topicPayloadBufferSize := 0

/-- `sizeof( iotshdDev_MQTTAgentQueueItem_t )`. -/
def sizeofQueueItem : Nat := 56

/-- `sizeof( iotshdDev_MQTTAgentQueueItem_t * )`. -/
def sizeofPointer : Nat := 8

/-- The address of item `i` of an array at `base`. -/
def itemAddr (base i : Nat) : Nat := base + i * sizeofQueueItem

/-- `iotshdDev_MQTTAgentUserContext_t`, less the synchronous commands' part.
    `items` is the memory of the item array, by address. -/
structure UserContext where
  pSyncEvent : Bool
  pIncommingPublishQueue : Option SyncQueue
  pFreePublishMessageQueue : Option SyncQueue
  queueSize : Nat
  pQueueItems : Option Nat
  items : Nat → QueueItem

/-- What the allocations of `createUserContext` return. -/
structure ContextMalloc where
  context : Bool
  syncEvent : Bool
  incomming : QueueMalloc
  free : QueueMalloc
  /-- The address of the item array. -/
  queueItems : Option Nat

/-- The loop of `createUserContext`: the first `k` items sent to the free
    queue. -/
def sendItems (base : Nat) (q : SyncQueue) (k : Nat) : SyncQueue :=
  (List.range k).foldl (fun q i => (sendNow (le64 (itemAddr base i)) q).1) q

/-- `iotshdDev_MQTTAgentCreateUserContext`. The array is cleared, and the
    queue's buffer written, without a look at their pointers. -/
def createUserContext (malloc : ContextMalloc) (incommingPublishQueueSize : Nat) :
    Except Fault (Option UserContext) :=
  if malloc.context = false then .ok none
  else if malloc.syncEvent = false then
    .ok (some
      { pSyncEvent := false
        pIncommingPublishQueue := none
        pFreePublishMessageQueue := none
        queueSize := 0
        pQueueItems := none
        items := fun _ => zeroItem })
  -- a context for commands only
  else if incommingPublishQueueSize = 0 then
    .ok (some
      { pSyncEvent := true
        pIncommingPublishQueue := none
        pFreePublishMessageQueue := none
        queueSize := 0
        pQueueItems := none
        items := fun _ => zeroItem })
  else do
    -- neither queue is looked at before it is used
    let incomming ← syncQueueCreate malloc.incomming incommingPublishQueueSize sizeofPointer
    let free ← syncQueueCreate malloc.free incommingPublishQueueSize sizeofPointer
    match free, malloc.queueItems with
    | some q, some base =>
        -- the first send copies into a buffer that is not there
        if q.bufferSize = 0 then .error .nullDereference
        else .ok (some
          { pSyncEvent := true
            pIncommingPublishQueue := incomming
            pFreePublishMessageQueue := some (sendItems base q incommingPublishQueueSize)
            queueSize := incommingPublishQueueSize
            pQueueItems := some base
            items := fun _ => zeroItem })
    | _, _ => .error .nullDereference

/-- The buffer an item ends up with for a publish of the required size: the one
    it has if that is large enough, and a new block otherwise. -/
def enqueueBuffer (malloc : Option Memory) (required : Nat) (item : QueueItem) : QueueItem :=
  let item :=
    if item.topicPayloadBuffer.isSome ∧ item.topicPayloadBufferSize < required then
      { item with topicPayloadBuffer := none, topicPayloadBufferSize := 0 }
    else item
  if item.topicPayloadBuffer.isNone then
    { item with
      topicPayloadBuffer := malloc.map (fun bytes => { size := required, bytes := bytes })
      topicPayloadBufferSize := required }
  else item

/-- `mqttAgentEnqueuePublishCallback` between its two queue operations: the
    publish copied into the item. -/
def enqueueFill (malloc : Option Memory) (pPublishInfo : PublishInfo) (pQueueItem : QueueItem) :
    Except Fault QueueItem :=
  let topicLength := pPublishInfo.topicNameLength
  let payloadLength := pPublishInfo.payloadLength
  let item := enqueueBuffer malloc (u64 (topicLength + 1 + payloadLength + 1))
    { pQueueItem with publishInfo := pPublishInfo }
  match item.topicPayloadBuffer with
  -- the copy goes to the NULL of the failed allocation
  | none => .error .nullDereference
  | some block =>
      let bytes := ((((block.bytes.copy 0 (pPublishInfo.pTopicName.bytes.take topicLength)).copy
        topicLength [0]).copy
        (topicLength + 1) (pPublishInfo.pPayload.bytes.take payloadLength)).copy
        (topicLength + 1 + payloadLength) [0])
      .ok { item with
        topicPayloadBuffer := some { block with bytes := bytes }
        publishInfo := { item.publishInfo with
          pTopicName := .itemBuffer 0
          pPayload := .itemBuffer (topicLength + 1) } }

/-- `iotshdDev_MQTTAgentFreeIncommingPublish` before its queue operation. -/
def freeClear (freeBuffer : Bool) (pQueueItem : QueueItem) : QueueItem :=
  let item :=
    if freeBuffer ∧ pQueueItem.topicPayloadBuffer.isSome then
      { pQueueItem with topicPayloadBuffer := none, topicPayloadBufferSize := 0 }
    else pQueueItem
  { item with publishInfo := zeroPublishInfo }

/-! ### A context made with every allocation successful -/

/-- The queue `syncQueueCreate` makes for `n` pointers. -/
def pointerQueue (heap : Memory) (n : Nat) : SyncQueue where
  pBuffer := heap
  bufferSize := n * sizeofPointer
  numberOfQueueItems := n
  queueItemSize := sizeofPointer
  itemsInQueue := 0
  enqueueIndex := 0
  dequeueIndex := 0

theorem syncQueueCreate_pointerQueue (heap : Memory) (n : Nat) (hn : 1 ≤ n) (hlt : n < 2 ^ 32) :
    syncQueueCreate ⟨true, some heap⟩ n sizeofPointer = .ok (some (pointerQueue heap n)) := by
  have hn0 : ¬ n = 0 := by omega
  have hs0 : ¬ sizeofPointer = 0 := by decide
  have hsize : u64 (n * sizeofPointer) = n * sizeofPointer := by
    simp only [sizeofPointer]
    exact u64_of_lt _ (by omega)
  unfold syncQueueCreate
  rw [if_neg hn0, if_neg hs0, hsize]
  rfl

theorem createUserContext_eq (heap1 heap2 : Memory) (base n : Nat) (hn : 1 ≤ n)
    (hlt : n < 2 ^ 32) :
    createUserContext ⟨true, true, ⟨true, some heap1⟩, ⟨true, some heap2⟩, some base⟩ n =
      .ok (some
        { pSyncEvent := true
          pIncommingPublishQueue := some (pointerQueue heap1 n)
          pFreePublishMessageQueue := some (sendItems base (pointerQueue heap2 n) n)
          queueSize := n
          pQueueItems := some base
          items := fun _ => zeroItem }) := by
  have hn0 : ¬ n = 0 := by omega
  have hsize : ¬ (pointerQueue heap2 n).bufferSize = 0 := by
    simp only [pointerQueue, sizeofPointer]
    omega
  unfold createUserContext
  simp only [Bool.true_eq_false, if_false, if_neg hn0, syncQueueCreate_pointerQueue _ n hn hlt]
  exact if_neg hsize

theorem sendItems_succ (base : Nat) (q : SyncQueue) (k : Nat) :
    sendItems base q (k + 1) = (sendNow (le64 (itemAddr base k)) (sendItems base q k)).1 := by
  unfold sendItems
  rw [List.range_succ, List.foldl_append]
  rfl

/-- The counters come out right whether or not the slots fit. -/
theorem sendItems_counters (base : Nat) (heap : Memory) (n : Nat) (hn : n < 2 ^ 32) (k : Nat)
    (hk : k ≤ n) :
    (sendItems base (pointerQueue heap n) k).itemsInQueue = k ∧
      (sendItems base (pointerQueue heap n) k).dequeueIndex = 0 ∧
      (sendItems base (pointerQueue heap n) k).numberOfQueueItems = n ∧
      (sendItems base (pointerQueue heap n) k).queueItemSize = sizeofPointer := by
  induction k with
  | zero => exact ⟨rfl, rfl, rfl, rfl⟩
  | succ k ih =>
      rcases ih (by omega) with ⟨hitems, hhead, hcount, hsize⟩
      -- the loop sends no more items than the queue has slots
      have hroom : ¬ (sendItems base (pointerQueue heap n) k).itemsInQueue =
          (sendItems base (pointerQueue heap n) k).numberOfQueueItems := by omega
      rw [sendItems_succ, sendNow, if_neg hroom]
      refine ⟨?_, hhead, hcount, hsize⟩
      simp only [syncQueueSendBody, hitems]
      exact u32_of_lt _ (by omega)

theorem pointerQueue_ready (heap : Memory) (n : Nat) (hn : 1 ≤ n) (hfits : n ≤ 2 ^ 29) :
    (pointerQueue heap n).Ready where
  size_pos := by
    simp only [pointerQueue, sizeofPointer]
    omega
  count_lt := by
    simp only [pointerQueue]
    omega
  fits := by
    simp only [pointerQueue, sizeofPointer]
    omega
  buffer := rfl
  items_le := Nat.zero_le _
  head_lt := by
    simp only [pointerQueue]
    omega
  tail_eq := by simp only [pointerQueue, Nat.add_zero, Nat.zero_mod]

/-- While the slots fit, the queue holds the items in order. -/
theorem sendItems_contents (base : Nat) (heap : Memory) (n : Nat) (hn : 1 ≤ n)
    (hfits : n ≤ 2 ^ 29) (k : Nat) (hk : k ≤ n) :
    (sendItems base (pointerQueue heap n) k).Ready ∧
      (sendItems base (pointerQueue heap n) k).contents =
        (List.range k).map (fun i => le64 (itemAddr base i)) := by
  induction k with
  | zero => exact ⟨pointerQueue_ready heap n hn hfits, rfl⟩
  | succ k ih =>
      rcases ih (by omega) with ⟨hready, hcontents⟩
      rcases sendItems_counters base heap n (by omega) k (by omega) with
        ⟨hitems, -, hcount, hsize⟩
      have hroom : (sendItems base (pointerQueue heap n) k).contents.length <
          (sendItems base (pointerQueue heap n) k).numberOfQueueItems := by
        rw [length_contents]
        omega
      -- the queue has the items so far, and there is room for one more
      rcases sendNow_room hready (le64 (itemAddr base k))
        (by rw [length_le64, hsize]; rfl) hroom with ⟨-, hready', hcontents', -⟩
      rw [sendItems_succ, hcontents', hcontents, List.range_succ, List.map_append]
      exact ⟨hready', rfl⟩

end MqttAgent

end ProvisioningSdk
