import ProvisioningSdk.Lib.Memory
import ProvisioningSdk.Lib.Monitor
import ProvisioningSdk.Lib.Ring
import ProvisioningSdk.Platform.Machine

/-!
# The Platform Queue

`pal_queue.c`: a bounded queue of fixed-size items in one byte buffer, shared
by threads under a mutex and two condition variables.

The structure keeps the source's fields. Its counters are `uint32_t`, so every
sum and product computed from them wraps, the byte offset of a slot included:
`slotOffset` is where the source indexes `pBuffer`. `queueItemSize` is narrowed
from `size_t` when the queue is made.

An operation of the queue is the test of its wait loop, the code after the
loop, and the condition variables it waits on and broadcasts; mutex, loop and
broadcast themselves are the shared protocol of `Lib.Monitor`.

`Ready` is the invariant. It relates the three counters, and it asks that all
slots fit below offset `2 ^ 32`, without which two slots share bytes. Under it
the queue is its `contents`, and the two bodies append and remove there.

## Main definitions

* `SyncQueue`: The queue structure.
* `slotOffset`, `slot`: Where an item is stored, and its bytes.
* `syncQueueCreate`: Making a queue.
* `syncQueueSend`, `syncQueueReceive`: The two operations.
* `syncQueue`: The two operations as a monitor.
* `sendNow`, `receiveNow`: The two operations at the moment they take effect.
* `SyncQueue.contents`: The items of the queue, oldest first.
* `SyncQueue.Ready`: The invariant.

## Theorems

* `SyncQueue.Ready.inside`: No access leaves the buffer.
* `create_ready`: A created queue satisfies the invariant and is empty.
* `sendBody_ready`, `receiveBody_ready`: The bodies keep the invariant.
* `contents_sendBody`: Sending appends.
* `contents_receiveBody`: Receiving removes the oldest item.
* `sequential_send`, `sequential_receive`: The moment of effect is a step of
  the monitor's sequential behaviour.
* `sendNow_room`, `receiveNow_cases`: The outcomes at that moment.
-/

namespace ProvisioningSdk

namespace IotshdPal

open Bytes TimedWait

/-- `struct iotshdPal_SyncQueue`, less the mutex and the condition variables.
    `bufferSize` is the size of the block at `pBuffer`, zero for `NULL`. -/
structure SyncQueue where
  pBuffer : Memory
  bufferSize : Nat
  numberOfQueueItems : Nat
  queueItemSize : Nat
  itemsInQueue : Nat
  enqueueIndex : Nat
  dequeueIndex : Nat

/-- What the two `malloc` calls of `syncQueueCreate` return: whether there is
    a block for the structure, and the contents of the block for the items. -/
structure QueueMalloc where
  structBlock : Bool
  buffer : Option Memory

/-- `iotshdPal_syncQueueCreate`. The structure is cleared before its pointer
    is checked. -/
def syncQueueCreate (malloc : QueueMalloc) (numberOfQueueItems queueItemSize : Nat) :
    Except Fault (Option SyncQueue) :=
  if numberOfQueueItems = 0 then .ok none
  else if queueItemSize = 0 then .ok none
  else if malloc.structBlock = false then .error .nullDereference
  else .ok (some
    { pBuffer := malloc.buffer.getD (fun _ => 0)
      bufferSize := if malloc.buffer.isSome then u64 (numberOfQueueItems * queueItemSize) else 0
      numberOfQueueItems := numberOfQueueItems
      queueItemSize := u32 queueItemSize
      itemsInQueue := 0
      enqueueIndex := 0
      dequeueIndex := 0 })

/-- The offset into `pBuffer` at which slot `queueIndex` starts. -/
def slotOffset (q : SyncQueue) (queueIndex : Nat) : Nat :=
  u32 (queueIndex * q.queueItemSize)

/-- The bytes of slot `queueIndex`. -/
def slot (q : SyncQueue) (queueIndex : Nat) : List UInt8 :=
  q.pBuffer.slice (slotOffset q queueIndex) q.queueItemSize

/-- The code of `iotshdPal_syncQueueSend` after its wait loop. -/
def syncQueueSendBody (item : List UInt8) (q : SyncQueue) : SyncQueue :=
  { q with
    itemsInQueue := u32 (q.itemsInQueue + 1)
    enqueueIndex := u32 (q.enqueueIndex + 1) % q.numberOfQueueItems
    pBuffer := q.pBuffer.copy (slotOffset q q.enqueueIndex) (item.take q.queueItemSize) }

/-- The code of `iotshdPal_syncQueueReceive` after its wait loop; it copies
    the slot at `dequeueIndex` out first. -/
def syncQueueReceiveBody (q : SyncQueue) : SyncQueue :=
  { q with
    itemsInQueue := u32Pred q.itemsInQueue
    dequeueIndex := u32 (q.dequeueIndex + 1) % q.numberOfQueueItems }

/-! ### The operations -/

/-- An item of `s` bytes. -/
abbrev Item (s : Nat) := { bytes : List UInt8 // bytes.length = s }

/-- A call on a queue of items of `s` bytes. -/
inductive QueueOp (s : Nat)
  | send (item : Item s)
  | receive
  deriving DecidableEq

/-- What a call returns, with the bytes a receive delivered. -/
inductive QueueRes
  | sent (retStatus : Bool)
  | received (item : Option (List UInt8))
  deriving DecidableEq, Repr

/-- The queue's two condition variables. -/
inductive QueueCond
  | condEnqueue
  | condDequeue
  deriving DecidableEq, Repr

/-- `iotshdPal_syncQueueSend`. -/
def syncQueueSend (item : List UInt8) : Operation QueueRes SyncQueue QueueCond where
  blocked := fun q => q.itemsInQueue == q.numberOfQueueItems
  body := fun q => (syncQueueSendBody item q, .sent true)
  gaveUp := .sent false
  waitsOn := .condDequeue
  signals := some .condEnqueue

/-- `iotshdPal_syncQueueReceive`. -/
def syncQueueReceive : Operation QueueRes SyncQueue QueueCond where
  blocked := fun q => q.itemsInQueue == 0
  body := fun q => (syncQueueReceiveBody q, .received (some (slot q q.dequeueIndex)))
  gaveUp := .received none
  waitsOn := .condEnqueue
  signals := some .condDequeue

/-- The queue as a monitor. -/
def syncQueue (s : Nat) : Monitor (QueueOp s) QueueRes SyncQueue QueueCond
  | .send item => syncQueueSend item.1
  | .receive => syncQueueReceive

/-- What a send does at the moment it takes effect. -/
def sendNow (item : List UInt8) (q : SyncQueue) : SyncQueue × Bool :=
  if q.itemsInQueue = q.numberOfQueueItems then (q, false) else (syncQueueSendBody item q, true)

/-- What a receive does at the moment it takes effect, with the bytes it
    delivers. -/
def receiveNow (q : SyncQueue) : SyncQueue × Option (List UInt8) :=
  if q.itemsInQueue = 0 then (q, none) else (syncQueueReceiveBody q, some (slot q q.dequeueIndex))

theorem sequential_send (s : Nat) (q0 q : SyncQueue) (item : Item s) :
    (sequential (syncQueue s) q0).apply q (.send item) (.sent (sendNow item.1 q).2) =
      some (sendNow item.1 q).1 := by
  by_cases hfull : q.itemsInQueue = q.numberOfQueueItems
  · have hblocked : ((syncQueue s) (.send item)).blocked q = true := beq_iff_eq.mpr hfull
    simp only [sequential, sendNow, if_pos hfull, hblocked, if_true]
    exact if_pos rfl
  · have hblocked : ((syncQueue s) (.send item)).blocked q = false := beq_eq_false_iff_ne.mpr hfull
    simp only [sequential, sendNow, if_neg hfull, hblocked, Bool.false_eq_true, if_false]
    exact if_pos rfl

theorem sequential_receive (s : Nat) (q0 q : SyncQueue) :
    (sequential (syncQueue s) q0).apply q .receive (.received (receiveNow q).2) =
      some (receiveNow q).1 := by
  by_cases hempty : q.itemsInQueue = 0
  · have hblocked : ((syncQueue s) .receive).blocked q = true := beq_iff_eq.mpr hempty
    simp only [sequential, receiveNow, if_pos hempty, hblocked, if_true]
    exact if_pos rfl
  · have hblocked : ((syncQueue s) .receive).blocked q = false := beq_eq_false_iff_ne.mpr hempty
    simp only [sequential, receiveNow, if_neg hempty, hblocked, Bool.false_eq_true, if_false]
    exact if_pos rfl

/-! ### The invariant -/

/-- The items of the queue, oldest first. -/
def SyncQueue.contents (q : SyncQueue) : List (List UInt8) :=
  Ring.window q.numberOfQueueItems q.dequeueIndex q.itemsInQueue (slot q)

/-- The counters agree with each other, and the slots fit in the buffer and
    below the reach of a 32-bit offset. -/
structure SyncQueue.Ready (q : SyncQueue) : Prop where
  size_pos : 0 < q.queueItemSize
  count_lt : q.numberOfQueueItems < 2 ^ 32
  fits : q.numberOfQueueItems * q.queueItemSize ≤ 2 ^ 32
  buffer : q.bufferSize = q.numberOfQueueItems * q.queueItemSize
  items_le : q.itemsInQueue ≤ q.numberOfQueueItems
  head_lt : q.dequeueIndex < q.numberOfQueueItems
  tail_eq : q.enqueueIndex = (q.dequeueIndex + q.itemsInQueue) % q.numberOfQueueItems

@[simp] theorem length_contents (q : SyncQueue) : q.contents.length = q.itemsInQueue :=
  Ring.length_window _ _ _ _

/-- The index for the next item is a remainder, so it is one of a slot. -/
theorem SyncQueue.Ready.tail_lt {q : SyncQueue} (hq : q.Ready) :
    q.enqueueIndex < q.numberOfQueueItems := by
  rw [hq.tail_eq]
  exact Nat.mod_lt _ (Nat.lt_of_le_of_lt (Nat.zero_le _) hq.head_lt)

/-- No slot offset wraps. -/
theorem SyncQueue.Ready.offset {q : SyncQueue} (hq : q.Ready) (i : Nat)
    (hi : i < q.numberOfQueueItems) : slotOffset q i = i * q.queueItemSize := by
  refine u32_of_lt _ ?_
  -- the slot starts below the end of the last one, which a 32-bit offset reaches
  have hlt : i * q.queueItemSize < q.numberOfQueueItems * q.queueItemSize :=
    Nat.mul_lt_mul_of_pos_right hi hq.size_pos
  exact Nat.lt_of_lt_of_le hlt hq.fits

/-- Different slots do not meet. -/
theorem SyncQueue.Ready.disjoint {q : SyncQueue} (hq : q.Ready) (i j : Nat)
    (hi : i < q.numberOfQueueItems) (hj : j < q.numberOfQueueItems) (hij : i ≠ j) :
    slotOffset q i + q.queueItemSize ≤ slotOffset q j ∨
      slotOffset q j + q.queueItemSize ≤ slotOffset q i := by
  rw [hq.offset i hi, hq.offset j hj, ← Nat.succ_mul, ← Nat.succ_mul]
  rcases Nat.lt_or_gt_of_ne hij with hlt | hgt
  · exact Or.inl (Nat.mul_le_mul_right _ hlt)
  · exact Or.inr (Nat.mul_le_mul_right _ hgt)

/-- Every slot lies inside the buffer. -/
theorem SyncQueue.Ready.inside {q : SyncQueue} (hq : q.Ready) (i : Nat)
    (hi : i < q.numberOfQueueItems) : slotOffset q i + q.queueItemSize ≤ q.bufferSize := by
  rw [hq.offset i hi, hq.buffer, ← Nat.succ_mul]
  exact Nat.mul_le_mul_right _ hi

theorem create_ready (heap : Memory) (structBlock : Bool) (n s : Nat) (q : SyncQueue)
    (hn : n < 2 ^ 32) (hfits : n * s ≤ 2 ^ 32) (hs : s < 2 ^ 32)
    (h : syncQueueCreate ⟨structBlock, some heap⟩ n s = .ok (some q)) :
    q.Ready ∧ q.numberOfQueueItems = n ∧ q.queueItemSize = s ∧ q.contents = [] := by
  unfold syncQueueCreate at h
  by_cases hn0 : n = 0
  · rw [if_pos hn0] at h
    cases h
  by_cases hs0 : s = 0
  · rw [if_neg hn0, if_pos hs0] at h
    cases h
  rw [if_neg hn0, if_neg hs0] at h
  split at h
  · cases h
  · cases h
    refine ⟨⟨?_, hn, ?_, ?_, Nat.zero_le _, Nat.pos_of_ne_zero hn0, ?_⟩, rfl, u32_of_lt s hs, rfl⟩
    · simp only [u32_of_lt s hs]
      omega
    · simpa only [u32_of_lt s hs] using hfits
    · simp only [Option.isSome_some, if_true, u32_of_lt s hs]
      exact u64_of_lt _ (by omega)
    · simp only [Nat.add_zero, Nat.zero_mod]

/-! ### Sending -/

/-- Sending writes the slot at `enqueueIndex` and no other. -/
theorem slot_sendBody {q : SyncQueue} (hq : q.Ready) (item : List UInt8)
    (hlen : item.length = q.queueItemSize) :
    slot (syncQueueSendBody item q) q.enqueueIndex = item ∧
      ∀ i, i < q.numberOfQueueItems → i ≠ q.enqueueIndex →
        slot (syncQueueSendBody item q) i = slot q i := by
  -- an item fills its slot, so nothing of it is cut off
  have htake : item.take q.queueItemSize = item := by
    rw [← hlen, List.take_length]
  constructor
  · simp only [slot, slotOffset, syncQueueSendBody, htake]
    rw [← hlen]
    exact slice_copy_self _ _ _
  · intro i hi hne
    simp only [slot, slotOffset, syncQueueSendBody, htake]
    -- another slot does not meet the one that is written
    refine slice_copy_disjoint _ _ _ _ _ ?_
    rw [hlen]
    exact hq.disjoint i q.enqueueIndex hi hq.tail_lt hne

theorem sendBody_ready {q : SyncQueue} (hq : q.Ready) (item : List UInt8)
    (hroom : q.itemsInQueue < q.numberOfQueueItems) : (syncQueueSendBody item q).Ready := by
  have hcount := hq.count_lt
  have hitems : u32 (q.itemsInQueue + 1) = q.itemsInQueue + 1 := u32_of_lt _ (by omega)
  have htail := hq.tail_lt
  have hindex : u32 (q.enqueueIndex + 1) = q.enqueueIndex + 1 := u32_of_lt _ (by omega)
  refine ⟨hq.size_pos, hq.count_lt, hq.fits, hq.buffer, ?_, hq.head_lt, ?_⟩
  · simp only [syncQueueSendBody, hitems]
    omega
  · simp only [syncQueueSendBody, hitems, hindex]
    rw [hq.tail_eq, Nat.mod_add_mod, Nat.add_assoc]

/-- Sending appends the item. -/
theorem contents_sendBody {q : SyncQueue} (hq : q.Ready) (item : List UInt8)
    (hlen : item.length = q.queueItemSize) (hroom : q.itemsInQueue < q.numberOfQueueItems) :
    (syncQueueSendBody item q).contents = q.contents ++ [item] := by
  have hcount := hq.count_lt
  have hitems : u32 (q.itemsInQueue + 1) = q.itemsInQueue + 1 := u32_of_lt _ (by omega)
  rcases slot_sendBody hq item hlen with ⟨hnew, hold⟩
  rw [hq.tail_eq] at hnew
  refine (congrArg (fun c => Ring.window q.numberOfQueueItems q.dequeueIndex c
    (slot (syncQueueSendBody item q))) hitems).trans ?_
  exact Ring.window_push _ _ _ _ _ item hroom hnew
    (fun i hi hne => hold i hi (by rw [hq.tail_eq]; exact hne))

/-! ### Receiving -/

theorem receive_index {q : SyncQueue} (hq : q.Ready) :
    u32 (q.dequeueIndex + 1) = q.dequeueIndex + 1 := by
  have hhead := hq.head_lt
  have hcount := hq.count_lt
  exact u32_of_lt _ (by omega)

theorem receiveBody_ready {q : SyncQueue} (hq : q.Ready) (hitem : 0 < q.itemsInQueue) :
    (syncQueueReceiveBody q).Ready := by
  have hle := hq.items_le
  refine ⟨hq.size_pos, hq.count_lt, hq.fits, hq.buffer, ?_, ?_, ?_⟩
  · simp only [syncQueueReceiveBody, u32Pred_of_pos _ hitem]
    omega
  · simp only [syncQueueReceiveBody]
    exact Nat.mod_lt _ (by omega)
  · simp only [syncQueueReceiveBody, u32Pred_of_pos _ hitem, receive_index hq]
    -- the tail moves past one item more, and wraps with it
    rw [hq.tail_eq, Nat.mod_add_mod]
    congr 1
    omega

/-- Receiving delivers the oldest item and removes it. -/
theorem contents_receiveBody {q : SyncQueue} (hq : q.Ready) (hitem : 0 < q.itemsInQueue) :
    q.contents = slot q q.dequeueIndex :: (syncQueueReceiveBody q).contents := by
  -- the window without its first slot begins where the body moves the head to
  have hpop := Ring.window_pop q.numberOfQueueItems q.dequeueIndex q.itemsInQueue (slot q)
    hq.head_lt hitem
  refine hpop.trans ?_
  simp only [SyncQueue.contents, syncQueueReceiveBody, u32Pred_of_pos _ hitem, receive_index hq]
  rfl

/-! ### The moment of effect -/

theorem sendNow_room {q : SyncQueue} (hq : q.Ready) (item : List UInt8)
    (hlen : item.length = q.queueItemSize) (hroom : q.contents.length < q.numberOfQueueItems) :
    (sendNow item q).2 = true ∧ (sendNow item q).1.Ready ∧
      (sendNow item q).1.contents = q.contents ++ [item] ∧
      (sendNow item q).1.numberOfQueueItems = q.numberOfQueueItems ∧
      (sendNow item q).1.queueItemSize = q.queueItemSize := by
  rw [length_contents] at hroom
  have hfull : ¬ q.itemsInQueue = q.numberOfQueueItems := by omega
  unfold sendNow
  rw [if_neg hfull]
  exact ⟨rfl, sendBody_ready hq item hroom, contents_sendBody hq item hlen hroom, rfl, rfl⟩

theorem receiveNow_cases {q : SyncQueue} (hq : q.Ready) :
    (q.contents = [] ∧ receiveNow q = (q, none)) ∨
      ∃ item q', receiveNow q = (q', some item) ∧ q'.Ready ∧ q.contents = item :: q'.contents ∧
        q'.numberOfQueueItems = q.numberOfQueueItems ∧ q'.queueItemSize = q.queueItemSize := by
  by_cases hempty : q.itemsInQueue = 0
  · refine Or.inl ⟨List.length_eq_zero_iff.mp (by rw [length_contents, hempty]), ?_⟩
    unfold receiveNow
    rw [if_pos hempty]
  · have hpos := Nat.pos_of_ne_zero hempty
    refine Or.inr ⟨slot q q.dequeueIndex, syncQueueReceiveBody q, ?_, receiveBody_ready hq hpos,
      contents_receiveBody hq hpos, rfl, rfl⟩
    unfold receiveNow
    rw [if_neg hempty]

end IotshdPal

end ProvisioningSdk
