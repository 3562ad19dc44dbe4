import ProvisioningSdk.Agent.UserContext
import ProvisioningSdk.Lib.Transition
import Mathlib.Data.List.Count
import Mathlib.Data.List.Nodup
import Mathlib.Data.List.Perm.Basic

/-!
# The Publish Queue

The items of a user context travelling between the agent thread, which fills
them in `mqttAgentEnqueuePublishCallback`, and any number of application
threads, which dequeue and free them.

Every function here uses the queues one call at a time and ignores what the
sends return, so a call is one step, at the moment it takes effect, and the
ignored result is part of the step's label. The agent thread is somewhere in
the callback or outside it; an application thread has items it dequeued, and
may be in the middle of freeing one of them.

The code is right exactly as long as the queues' slots do not overlap, that is
up to `2 ^ 29` items: the offset of a slot is computed with 32 bits, and a
pointer has eight bytes. Up to there the items are always spread over the two
queues and their holders, each in one place, and because a sender holds an item
that is in neither queue there is room for it. Beyond it the first slot is
overwritten while the context is made, before any thread sees it.

## Main definitions

* `QueueState`: The context, the callback and the holders.
* `publishQueue`: The system of the threads.
* `places`: Where the items are.
* `WellKept`: Every item is in one place and no send fails.

## Theorems

* `inv_step`, `inv_run`: The invariant, over steps and runs.
* `wellKept_of_le`: Up to `2 ^ 29` items everything is well kept.
* `not_wellKept`: With more nothing is.
* `publishQueue_wellKept_iff`: The exact condition.
-/

namespace ProvisioningSdk

namespace MqttAgent

open Bytes IotshdPal Transition

/-- Where the agent thread is in `mqttAgentEnqueuePublishCallback`. -/
inductive CallbackPc
  | idle
  | filling (pQueueItem : Nat) (pPublishInfo : PublishInfo)
  | sending (pQueueItem : Nat)

/-- The item the callback has. -/
def CallbackPc.item : CallbackPc → Option Nat
  | .idle => none
  | .filling p _ => some p
  | .sending p => some p

/-- An item that a thread dequeued and has not freed. `cleared` is set between
    the two halves of `FreeIncommingPublish`. -/
structure Hold (ι : Type*) where
  thread : ι
  pQueueItem : Nat
  cleared : Bool
  deriving DecidableEq

/-- The user context and what the threads have of it. -/
structure QueueState (ι : Type*) where
  context : UserContext
  callback : CallbackPc
  held : List (Hold ι)

/-- The steps of the threads, with the results of the queue operations. -/
inductive QueueAct (ι : Type*)
  /-- The callback takes a free item, if there is one. -/
  | callbackReceive (pPublishInfo : PublishInfo) (pQueueItem : Option Nat)
  /-- It copies the publish. -/
  | callbackFill (malloc : Option Memory)
  /-- It enqueues the item. -/
  | callbackSend (retStatus : Bool)
  /-- A thread returns from `DequeueIncommingPublish`. -/
  | dequeue (thread : ι) (pQueueItem : Option Nat)
  /-- A thread enters `FreeIncommingPublish` and clears its item. -/
  | freeClear (thread : ι) (pQueueItem : Nat) (freeBuffer : Bool)
  /-- It gives the item back. -/
  | freeSend (thread : ι) (pQueueItem : Nat) (retStatus : Bool)

section System

variable {ι : Type*} [DecidableEq ι]

/-- A pointer received from a queue. -/
def pointerOf (item : Option (List UInt8)) : Option Nat := item.map ofLe

/-- One step of one thread. A `NULL` queue stops the program. -/
def queueStep (st : QueueState ι) : QueueAct ι → Option (QueueState ι)
  | .callbackReceive info res =>
      match st.callback, st.context.pFreePublishMessageQueue with
      | .idle, some q =>
          -- the label says what the queue delivered
          if pointerOf (receiveNow q).2 = res then
            some { st with
              context := { st.context with pFreePublishMessageQueue := some (receiveNow q).1 }
              callback := match res with
                | some p => .filling p info
                | none => .idle }
          else none
      | _, _ => none
  | .callbackFill malloc =>
      match st.callback with
      | .filling p info =>
          match enqueueFill malloc info (st.context.items p) with
          | .ok item => some { st with
              context := { st.context with items := Function.update st.context.items p item }
              callback := .sending p }
          | .error _ => none
      | _ => none
  | .callbackSend ret =>
      match st.callback, st.context.pIncommingPublishQueue with
      | .sending p, some q =>
          if (sendNow (le64 p) q).2 = ret then
            some { st with
              context := { st.context with
                pIncommingPublishQueue := some (sendNow (le64 p) q).1 }
              callback := .idle }
          else none
      | _, _ => none
  | .dequeue i res =>
      match st.context.pIncommingPublishQueue with
      | some q =>
          if pointerOf (receiveNow q).2 = res then
            some { st with
              context := { st.context with pIncommingPublishQueue := some (receiveNow q).1 }
              held := match res with
                | some p => { thread := i, pQueueItem := p, cleared := false } :: st.held
                | none => st.held }
          else none
      | none => none
  | .freeClear i p freeBuffer =>
      if { thread := i, pQueueItem := p, cleared := false } ∈ st.held then
        some { st with
          context := { st.context with
            items :=
              Function.update st.context.items p (freeClear freeBuffer (st.context.items p)) }
          held := { thread := i, pQueueItem := p, cleared := true } ::
            st.held.erase { thread := i, pQueueItem := p, cleared := false } }
      else none
  | .freeSend i p ret =>
      match st.context.pFreePublishMessageQueue with
      | some q =>
          if { thread := i, pQueueItem := p, cleared := true } ∈ st.held ∧
              (sendNow (le64 p) q).2 = ret then
            some { st with
              context := { st.context with
                pFreePublishMessageQueue := some (sendNow (le64 p) q).1 }
              held := st.held.erase { thread := i, pQueueItem := p, cleared := true } }
          else none
      | none => none

/-- The threads `ι` on a context that was just made. -/
def publishQueue (ι : Type*) [DecidableEq ι] (context : UserContext) :
    System (QueueState ι) (QueueAct ι) where
  init := { context := context, callback := .idle, held := [] }
  step := queueStep

/-! ### What a step says -/

variable {st st' : QueueState ι}

theorem callbackReceive_step {info : PublishInfo} {res : Option Nat}
    (h : queueStep st (.callbackReceive info res) = some st') :
    ∃ q, st.callback = .idle ∧ st.context.pFreePublishMessageQueue = some q ∧
      pointerOf (receiveNow q).2 = res ∧
      st' = { st with
        context := { st.context with pFreePublishMessageQueue := some (receiveNow q).1 }
        callback := res.elim .idle (fun p => .filling p info) } := by
  simp only [queueStep] at h
  split at h
  case h_1 q hidle hfree =>
    split at h
    case isTrue hres =>
      cases h
      refine ⟨q, hidle, hfree, hres, ?_⟩
      cases res with
      | none => rfl
      | some p => rfl
    case isFalse => cases h
  case h_2 => cases h

theorem callbackFill_step {malloc : Option Memory}
    (h : queueStep st (.callbackFill malloc) = some st') :
    ∃ p info item, st.callback = .filling p info ∧
      enqueueFill malloc info (st.context.items p) = .ok item ∧
      st' = { st with
        context := { st.context with items := Function.update st.context.items p item }
        callback := .sending p } := by
  simp only [queueStep] at h
  split at h
  case h_1 p info hfilling =>
    split at h
    case h_1 item hitem =>
      cases h
      exact ⟨p, info, item, hfilling, hitem, rfl⟩
    case h_2 => cases h
  case h_2 => cases h

theorem callbackSend_step {ret : Bool} (h : queueStep st (.callbackSend ret) = some st') :
    ∃ p q, st.callback = .sending p ∧ st.context.pIncommingPublishQueue = some q ∧
      (sendNow (le64 p) q).2 = ret ∧
      st' = { st with
        context := { st.context with pIncommingPublishQueue := some (sendNow (le64 p) q).1 }
        callback := .idle } := by
  simp only [queueStep] at h
  split at h
  case h_1 p q hsending hincomming =>
    split at h
    case isTrue hret =>
      cases h
      exact ⟨p, q, hsending, hincomming, hret, rfl⟩
    case isFalse => cases h
  case h_2 => cases h

theorem dequeue_step {i : ι} {res : Option Nat} (h : queueStep st (.dequeue i res) = some st') :
    ∃ q, st.context.pIncommingPublishQueue = some q ∧ pointerOf (receiveNow q).2 = res ∧
      st' = { st with
        context := { st.context with pIncommingPublishQueue := some (receiveNow q).1 }
        held := res.elim st.held
          (fun p => { thread := i, pQueueItem := p, cleared := false } :: st.held) } := by
  simp only [queueStep] at h
  split at h
  case h_1 q hincomming =>
    split at h
    case isTrue hres =>
      cases h
      refine ⟨q, hincomming, hres, ?_⟩
      cases res with
      | none => rfl
      | some p => rfl
    case isFalse => cases h
  case h_2 => cases h

theorem freeClear_step {i : ι} {p : Nat} {freeBuffer : Bool}
    (h : queueStep st (.freeClear i p freeBuffer) = some st') :
    { thread := i, pQueueItem := p, cleared := false } ∈ st.held ∧
      st' = { st with
        context := { st.context with
          items := Function.update st.context.items p (freeClear freeBuffer (st.context.items p)) }
        held := { thread := i, pQueueItem := p, cleared := true } ::
          st.held.erase { thread := i, pQueueItem := p, cleared := false } } := by
  simp only [queueStep] at h
  split at h
  case isTrue hmem =>
    cases h
    exact ⟨hmem, rfl⟩
  case isFalse => cases h

theorem freeSend_step {i : ι} {p : Nat} {ret : Bool}
    (h : queueStep st (.freeSend i p ret) = some st') :
    ∃ q, st.context.pFreePublishMessageQueue = some q ∧
      { thread := i, pQueueItem := p, cleared := true } ∈ st.held ∧
      (sendNow (le64 p) q).2 = ret ∧
      st' = { st with
        context := { st.context with pFreePublishMessageQueue := some (sendNow (le64 p) q).1 }
        held := st.held.erase { thread := i, pQueueItem := p, cleared := true } } := by
  simp only [queueStep] at h
  split at h
  case h_1 q hfree =>
    split at h
    case isTrue hcase =>
      cases h
      exact ⟨q, hfree, hcase.1, hcase.2, rfl⟩
    case isFalse => cases h
  case h_2 => cases h

end System

/-! ### Where the items are -/

/-- The pointers in a queue, oldest first. -/
def pointers (q : Option SyncQueue) : List Nat :=
  q.elim [] (fun q => q.contents.map ofLe)

section Places

variable {ι : Type*}

/-- The holders of items outside the queues: the callback and the threads. -/
def holders (st : QueueState ι) : List Nat :=
  st.callback.item.toList ++ st.held.map Hold.pQueueItem

/-- Every place an item is in. -/
def places (st : QueueState ι) : List Nat :=
  pointers st.context.pFreePublishMessageQueue ++ pointers st.context.pIncommingPublishQueue ++
    holders st

/-- The step is a send that found its queue full. -/
def QueueAct.sendFailed : QueueAct ι → Bool
  | .callbackSend ret => !ret
  | .freeSend _ _ ret => !ret
  | _ => false

end Places

/-- The addresses of the `n` items at `base`. -/
def itemAddrs (base n : Nat) : List Nat := (List.range n).map (itemAddr base)

/-- In every run each of the items is in exactly one place, in particular it
    has one holder at most, and no send fails. -/
def WellKept (ι : Type*) [DecidableEq ι] (base n : Nat) (context : UserContext) : Prop :=
  ∀ acts st, (publishQueue ι context).run acts = some st →
    (∀ i, i < n → (places st).count (itemAddr base i) = 1) ∧
      (∀ p ∈ places st, p ∈ itemAddrs base n) ∧ (holders st).Nodup ∧
      ∀ a ∈ acts, a.sendFailed = false

theorem itemAddr_inj (base i j : Nat) (h : itemAddr base i = itemAddr base j) : i = j := by
  unfold itemAddr sizeofQueueItem at h
  omega

theorem nodup_itemAddrs (base n : Nat) : (itemAddrs base n).Nodup :=
  List.Nodup.map (fun i j h => itemAddr_inj base i j h) List.nodup_range

/-! ### The invariant -/

/-- The queues are sound, and they and the holders have the items between
    them. -/
structure QueueInv {ι : Type*} (base n : Nat) (st : QueueState ι) : Prop where
  free : ∃ q, st.context.pFreePublishMessageQueue = some q ∧ q.Ready ∧
    q.numberOfQueueItems = n ∧ q.queueItemSize = sizeofPointer
  incomming : ∃ q, st.context.pIncommingPublishQueue = some q ∧ q.Ready ∧
    q.numberOfQueueItems = n ∧ q.queueItemSize = sizeofPointer
  perm : (places st).Perm (itemAddrs base n)

section Invariant

variable {ι : Type*} {base n : Nat}

theorem QueueInv.length {st : QueueState ι} (h : QueueInv base n st) : (places st).length = n := by
  rw [h.perm.length_eq]
  simp only [itemAddrs, List.length_map, List.length_range]

/-- The addresses of the items are all different, so no item is in two places. -/
theorem QueueInv.places_nodup {st : QueueState ι} (h : QueueInv base n st) : (places st).Nodup :=
  h.perm.nodup_iff.mpr (nodup_itemAddrs base n)

/-- An item in some place is an address of 64 bits. -/
theorem QueueInv.addr_lt {st : QueueState ι} (hbase : base + n * sizeofQueueItem ≤ 2 ^ 64)
    (h : QueueInv base n st) {p : Nat} (hp : p ∈ places st) : p < 2 ^ 64 := by
  -- it is the address of an item of the array, which lies below `2 ^ 64`
  rcases List.mem_map.mp (h.perm.mem_iff.mp hp) with ⟨i, hi, rfl⟩
  have hlt : i < n := List.mem_range.mp hi
  unfold itemAddr
  have hmul : i * sizeofQueueItem < n * sizeofQueueItem :=
    Nat.mul_lt_mul_of_pos_right hlt (by decide)
  omega

/-- Sending a held item finds room and puts it at the end of the queue. -/
theorem sendNow_pointer {q : SyncQueue} (hq : q.Ready) (hcount : q.numberOfQueueItems = n)
    (hsize : q.queueItemSize = sizeofPointer) {p : Nat} (hp : p < 2 ^ 64)
    (hroom : (pointers (some q)).length < n) :
    (sendNow (le64 p) q).2 = true ∧ (sendNow (le64 p) q).1.Ready ∧
      (sendNow (le64 p) q).1.numberOfQueueItems = n ∧
      (sendNow (le64 p) q).1.queueItemSize = sizeofPointer ∧
      pointers (some (sendNow (le64 p) q).1) = pointers (some q) ++ [p] := by
  have hlen : (le64 p).length = q.queueItemSize := by
    rw [length_le64, hsize]
    rfl
  have hless : q.contents.length < q.numberOfQueueItems := by
    rw [hcount]
    simpa only [pointers, Option.elim_some, List.length_map] using hroom
  rcases sendNow_room hq (le64 p) hlen hless with ⟨htrue, hready, hcontents, hcount', hsize'⟩
  refine ⟨htrue, hready, hcount'.trans hcount, hsize'.trans hsize, ?_⟩
  simp only [pointers, Option.elim_some, hcontents, List.map_append, List.map_cons, List.map_nil,
    ofLe_le64 p hp]

/-- Receiving takes the first pointer, if there is one. -/
theorem receiveNow_pointer {q : SyncQueue} (hq : q.Ready) (hcount : q.numberOfQueueItems = n)
    (hsize : q.queueItemSize = sizeofPointer) :
    (receiveNow q).1.Ready ∧ (receiveNow q).1.numberOfQueueItems = n ∧
      (receiveNow q).1.queueItemSize = sizeofPointer ∧
      pointers (some q) =
        (pointerOf (receiveNow q).2).toList ++ pointers (some (receiveNow q).1) := by
  rcases receiveNow_cases hq with ⟨-, hres⟩ | ⟨item, q', hres, hready, hcontents, hcount', hsize'⟩
  · rw [hres]
    exact ⟨hq, hcount, hsize, rfl⟩
  · rw [hres]
    refine ⟨hready, hcount'.trans hcount, hsize'.trans hsize, ?_⟩
    simp only [pointers, Option.elim_some, hcontents, List.map_cons, pointerOf, Option.map_some,
      Option.toList_some, List.singleton_append]

/-- Putting a hold into the list puts its item in. -/
theorem count_cons_hold (held : List (Hold ι)) (h : Hold ι) (a : Nat) :
    ((h :: held).map Hold.pQueueItem).count a =
      ([h.pQueueItem].count a) + (held.map Hold.pQueueItem).count a := by
  rw [List.map_cons, ← List.count_append, List.singleton_append]

/-- Taking a hold out of the list takes its item out. -/
theorem count_erase_hold [DecidableEq ι] {held : List (Hold ι)} {h : Hold ι} (hmem : h ∈ held)
    (a : Nat) :
    (held.map Hold.pQueueItem).count a =
      ([h.pQueueItem].count a) + ((held.erase h).map Hold.pQueueItem).count a := by
  -- the hold is one of the list, so it can be put first
  have hperm := (List.perm_cons_erase hmem).map Hold.pQueueItem
  rw [hperm.count_eq, List.map_cons, ← List.count_append, List.singleton_append]

/-- The places counted one by one. -/
theorem count_places (st : QueueState ι) (a : Nat) :
    (places st).count a = (pointers st.context.pFreePublishMessageQueue).count a +
      (pointers st.context.pIncommingPublishQueue).count a + st.callback.item.toList.count a +
      (st.held.map Hold.pQueueItem).count a := by
  unfold places holders
  simp only [List.count_append]
  omega

/-- Moving items between places keeps them all. -/
theorem QueueInv.perm_of_count {st st' : QueueState ι} (h : QueueInv base n st)
    (hcount : ∀ a, (places st').count a = (places st).count a) :
    (places st').Perm (itemAddrs base n) :=
  (List.perm_iff_count.mpr hcount).trans h.perm

/-- A queue has room as long as somebody holds an item. -/
theorem QueueInv.room {st : QueueState ι} (h : QueueInv base n st) {p : Nat}
    (hp : p ∈ holders st) :
    (pointers st.context.pFreePublishMessageQueue).length < n ∧
      (pointers st.context.pIncommingPublishQueue).length < n := by
  -- the places are `n` in all, and the holder is one outside the queues
  have hlen := h.length
  have hpos := List.length_pos_of_mem hp
  unfold places at hlen
  rw [List.length_append, List.length_append] at hlen
  omega

variable [DecidableEq ι]

/-- One step moves an item from one place to another, and a send finds room. -/
theorem inv_step (hbase : base + n * sizeofQueueItem ≤ 2 ^ 64) {st st' : QueueState ι}
    {act : QueueAct ι} (h : QueueInv base n st) (hstep : queueStep st act = some st') :
    QueueInv base n st' ∧ act.sendFailed = false := by
  rcases h.free with ⟨free, hfree, hfready, hfcount, hfsize⟩
  rcases h.incomming with ⟨inc, hinc, hiready, hicount, hisize⟩
  cases act with
  | callbackReceive info res =>
      rcases callbackReceive_step hstep with ⟨q, hidle, hq, hres, rfl⟩
      obtain rfl : free = q := Option.some.inj (hfree.symm.trans hq)
      rcases receiveNow_pointer hfready hfcount hfsize with ⟨hready, hcount, hsize, hpop⟩
      refine ⟨⟨⟨_, rfl, hready, hcount, hsize⟩, h.incomming, h.perm_of_count ?_⟩, rfl⟩
      -- the item, if any, goes from the free queue to the callback
      intro a
      rw [count_places, count_places, hidle, hfree, hpop, hres, List.count_append]
      cases res with
      | none =>
          simp only [Option.elim_none, CallbackPc.item, Option.toList_none, List.count_nil]
          omega
      | some p =>
          simp only [Option.elim_some, CallbackPc.item, Option.toList_none, List.count_nil]
          omega
  | callbackFill malloc =>
      rcases callbackFill_step hstep with ⟨p, info, item, hfilling, -, rfl⟩
      refine ⟨⟨h.free, h.incomming, h.perm_of_count ?_⟩, rfl⟩
      intro a
      rw [count_places, count_places, hfilling]
      rfl
  | callbackSend ret =>
      rcases callbackSend_step hstep with ⟨p, q, hsending, hq, hret, rfl⟩
      obtain rfl : inc = q := Option.some.inj (hinc.symm.trans hq)
      -- the callback holds the item it sends, so its queue has room
      have hhold : p ∈ holders st := by
        unfold holders
        rw [hsending]
        exact List.mem_append_left _ (List.mem_singleton_self p)
      have hroom := (h.room hhold).2
      rw [hinc] at hroom
      have hp := h.addr_lt hbase (List.mem_append_right _ hhold)
      rcases sendNow_pointer hiready hicount hisize hp hroom with
        ⟨htrue, hready, hcount, hsize, hpush⟩
      rw [← hret]
      refine ⟨⟨h.free, ⟨_, rfl, hready, hcount, hsize⟩, h.perm_of_count ?_⟩, ?_⟩
      · intro a
        rw [count_places, count_places, hsending, hinc, hpush, List.count_append]
        simp only [CallbackPc.item, Option.toList_none, Option.toList_some, List.count_nil]
        omega
      · simp only [QueueAct.sendFailed, htrue, Bool.not_true]
  | dequeue i res =>
      rcases dequeue_step hstep with ⟨q, hq, hres, rfl⟩
      obtain rfl : inc = q := Option.some.inj (hinc.symm.trans hq)
      rcases receiveNow_pointer hiready hicount hisize with ⟨hready, hcount, hsize, hpop⟩
      refine ⟨⟨h.free, ⟨_, rfl, hready, hcount, hsize⟩, h.perm_of_count ?_⟩, rfl⟩
      intro a
      rw [count_places, count_places, hinc, hpop, hres, List.count_append]
      cases res with
      | none => simp only [Option.elim_none, Option.toList_none, List.count_nil]; omega
      | some p =>
          simp only [Option.elim_some, Option.toList_some, count_cons_hold]
          omega
  | freeClear i p freeBuffer =>
      rcases freeClear_step hstep with ⟨hmem, rfl⟩
      refine ⟨⟨h.free, h.incomming, h.perm_of_count ?_⟩, rfl⟩
      -- the thread keeps the item
      intro a
      rw [count_places, count_places, count_erase_hold hmem a, count_cons_hold]
  | freeSend i p ret =>
      rcases freeSend_step hstep with ⟨q, hq, hmem, hret, rfl⟩
      obtain rfl : free = q := Option.some.inj (hfree.symm.trans hq)
      -- the thread holds the item it gives back, so its queue has room
      have hhold : p ∈ holders st :=
        List.mem_append_right _ (List.mem_map.mpr ⟨_, hmem, rfl⟩)
      have hroom := (h.room hhold).1
      rw [hfree] at hroom
      have hp := h.addr_lt hbase (List.mem_append_right _ hhold)
      rcases sendNow_pointer hfready hfcount hfsize hp hroom with
        ⟨htrue, hready, hcount, hsize, hpush⟩
      rw [← hret]
      refine ⟨⟨⟨_, rfl, hready, hcount, hsize⟩, h.incomming, h.perm_of_count ?_⟩, ?_⟩
      · intro a
        rw [count_places, count_places, count_erase_hold hmem a, hfree, hpush, List.count_append]
        simp only
        omega
      · simp only [QueueAct.sendFailed, htrue, Bool.not_true]

/-- A whole run keeps the items together, and none of its sends fails. -/
theorem inv_run (hbase : base + n * sizeofQueueItem ≤ 2 ^ 64) (context : UserContext)
    (h0 : QueueInv base n (publishQueue ι context).init) (acts : List (QueueAct ι))
    (st : QueueState ι) (hrun : (publishQueue ι context).run acts = some st) :
    QueueInv base n st ∧ ∀ a ∈ acts, a.sendFailed = false := by
  refine (publishQueue ι context).run_induction
    (P := fun acts st => QueueInv base n st ∧ ∀ a ∈ acts, a.sendFailed = false)
    ⟨h0, fun a ha => absurd ha List.not_mem_nil⟩ ?_ acts st hrun
  intro acts st act st' _ ih hstep
  rcases inv_step hbase ih.1 hstep with ⟨hinv, hsent⟩
  refine ⟨hinv, ?_⟩
  intro a ha
  rcases List.mem_append.mp ha with hold | hnew
  · exact ih.2 a hold
  · rw [List.mem_singleton.mp hnew]
    exact hsent

end Invariant

/-! ### The exact condition -/

/-- The first slot for pointers and the one at `2 ^ 29` are the same bytes. -/
theorem slot_wraps {q : SyncQueue} (hsize : q.queueItemSize = sizeofPointer) :
    slot q (2 ^ 29) = slot q 0 := by
  have hoffset : ∀ i, slotOffset q i = u32 (i * sizeofPointer) := by
    intro i
    unfold slotOffset
    rw [hsize]
  unfold slot
  rw [hoffset, hoffset]
  rfl

/-- The pointers in the free queue are those that were sent. -/
theorem pointers_sendItems (heap : Memory) (base n : Nat) (hn : 1 ≤ n) (hfits : n ≤ 2 ^ 29)
    (hbase : base + n * sizeofQueueItem ≤ 2 ^ 64) :
    pointers (some (sendItems base (pointerQueue heap n) n)) = itemAddrs base n := by
  have hcontents := (sendItems_contents base heap n hn hfits n (Nat.le_refl n)).2
  simp only [pointers, Option.elim_some, hcontents, List.map_map, itemAddrs]
  refine List.map_congr_left ?_
  intro i hi
  have hlt : i < n := List.mem_range.mp hi
  refine ofLe_le64 _ ?_
  unfold itemAddr
  have hmul : i * sizeofQueueItem < n * sizeofQueueItem :=
    Nat.mul_lt_mul_of_pos_right hlt (by decide)
  omega

/-- With more items the free queue has two equal pointers from the start. -/
theorem not_nodup_sendItems (heap : Memory) (base n : Nat) (hn : n < 2 ^ 32)
    (hwraps : 2 ^ 29 < n) :
    ¬ (pointers (some (sendItems base (pointerQueue heap n) n))).Nodup := by
  intro hnodup
  rcases sendItems_counters base heap n hn n (Nat.le_refl n) with ⟨hitems, hhead, hcount, hsize⟩
  have hslots := slot_wraps hsize
  simp only [pointers, Option.elim_some, SyncQueue.contents, hitems, hhead, hcount, Ring.window,
    Nat.zero_add, List.map_map] at hnodup
  -- two positions with the same bytes cannot be without duplicates
  have heq := List.inj_on_of_nodup_map hnodup (List.mem_range.mpr (show 2 ^ 29 < n from hwraps))
    (List.mem_range.mpr (show 0 < n by omega)) (by
      simp only [Function.comp, Nat.mod_eq_of_lt hwraps, Nat.zero_mod, hslots])
  omega

section Condition

variable (ι : Type*) [DecidableEq ι] (heap1 heap2 : Memory) (base n : Nat)

/-- The context that `createUserContext` makes. -/
def madeContext : UserContext where
  pSyncEvent := true
  pIncommingPublishQueue := some (pointerQueue heap1 n)
  pFreePublishMessageQueue := some (sendItems base (pointerQueue heap2 n) n)
  queueSize := n
  pQueueItems := some base
  items := fun _ => zeroItem

theorem madeContext_inv (hn : 1 ≤ n) (hfits : n ≤ 2 ^ 29)
    (hbase : base + n * sizeofQueueItem ≤ 2 ^ 64) :
    QueueInv base n (publishQueue ι (madeContext heap1 heap2 base n)).init := by
  have hready := (sendItems_contents base heap2 n hn hfits n (Nat.le_refl n)).1
  rcases sendItems_counters base heap2 n (by omega) n (Nat.le_refl n) with ⟨-, -, hcount, hsize⟩
  refine ⟨⟨_, rfl, hready, hcount, hsize⟩,
    ⟨_, rfl, pointerQueue_ready heap1 n hn hfits, rfl, rfl⟩, ?_⟩
  have hplaces : places (publishQueue ι (madeContext heap1 heap2 base n)).init =
      itemAddrs base n := by
    simp only [places, holders, publishQueue, madeContext,
      pointers_sendItems heap2 base n hn hfits hbase]
    exact (List.append_nil _).trans (List.append_nil _)
  rw [hplaces]

/-- Up to `2 ^ 29` items everything is well kept. -/
theorem wellKept_of_le (hn : 1 ≤ n) (hfits : n ≤ 2 ^ 29)
    (hbase : base + n * sizeofQueueItem ≤ 2 ^ 64) :
    WellKept ι base n (madeContext heap1 heap2 base n) := by
  intro acts st hrun
  rcases inv_run hbase _ (madeContext_inv ι heap1 heap2 base n hn hfits hbase) acts st hrun with
    ⟨hinv, hsent⟩
  have hnodup := hinv.places_nodup
  refine ⟨?_, fun p hp => hinv.perm.mem_iff.mp hp, ?_, hsent⟩
  · intro i hi
    refine List.count_eq_one_of_mem hnodup (hinv.perm.mem_iff.mpr ?_)
    exact List.mem_map.mpr ⟨i, List.mem_range.mpr hi, rfl⟩
  · unfold places at hnodup
    exact hnodup.of_append_right

/-- With more items no run keeps them well. -/
theorem not_wellKept (hn : n < 2 ^ 32) (hwraps : 2 ^ 29 < n) :
    ¬ WellKept ι base n (madeContext heap1 heap2 base n) := by
  intro hkept
  -- the empty run is enough: the context itself is in disorder
  rcases hkept [] _ rfl with ⟨hone, hmem, -, -⟩
  -- if each item were in one place, the free queue would have no pointer twice
  have hnodup : (pointers (some (sendItems base (pointerQueue heap2 n) n))).Nodup := by
    rw [List.nodup_iff_count_le_one]
    intro p
    by_cases hp : p ∈ pointers (some (sendItems base (pointerQueue heap2 n) n))
    · have hplace : p ∈ places (publishQueue ι (madeContext heap1 heap2 base n)).init :=
        List.mem_append_left _ (List.mem_append_left _ hp)
      rcases List.mem_map.mp (hmem p hplace) with ⟨i, hi, rfl⟩
      have hcounted := hone i (List.mem_range.mp hi)
      rw [count_places] at hcounted
      have hfree :
          (publishQueue ι (madeContext heap1 heap2 base n)).init.context.pFreePublishMessageQueue =
            some (sendItems base (pointerQueue heap2 n) n) := rfl
      rw [hfree] at hcounted
      omega
    · rw [List.count_eq_zero_of_not_mem hp]
      omega
  exact not_nodup_sendItems heap2 base n hn hwraps hnodup

/-- A context made with every allocation successful keeps its items well
    exactly up to `2 ^ 29` of them. -/
theorem publishQueue_wellKept_iff (hn : 1 ≤ n) (hn32 : n < 2 ^ 32)
    (hbase : base + n * sizeofQueueItem ≤ 2 ^ 64) (context : UserContext)
    (hcreate : createUserContext ⟨true, true, ⟨true, some heap1⟩, ⟨true, some heap2⟩, some base⟩ n =
      .ok (some context)) :
    WellKept ι base n context ↔ n ≤ 2 ^ 29 := by
  rw [createUserContext_eq heap1 heap2 base n hn hn32, Except.ok.injEq, Option.some.injEq]
    at hcreate
  subst hcreate
  constructor
  · intro hkept
    by_contra hwraps
    exact not_wellKept ι heap1 heap2 base n hn32 (by omega) hkept
  · intro hfits
    exact wellKept_of_le ι heap1 heap2 base n hn hfits hbase

theorem publishQueue_wellKept_iff_two :
    ∃ context, createUserContext ⟨true, true, ⟨true, some (fun _ => 0)⟩,
        ⟨true, some (fun _ => 0)⟩, some 4096⟩ 2 = .ok (some context) ∧
      (WellKept (Fin 2) 4096 2 context ↔ 2 ≤ 2 ^ 29) :=
  ⟨_, rfl, publishQueue_wellKept_iff (Fin 2) (fun _ => 0) (fun _ => 0) 4096 2 (by decide)
    (by decide) (by decide) _ rfl⟩

/-- With one item more than fits, making the context is enough to lose one. -/
theorem publishQueue_overlap :
    ∃ context, createUserContext ⟨true, true, ⟨true, some (fun _ => 0)⟩,
        ⟨true, some (fun _ => 0)⟩, some 4096⟩ (2 ^ 29 + 1) = .ok (some context) ∧
      ¬ WellKept (Fin 1) 4096 (2 ^ 29 + 1) context :=
  ⟨_, createUserContext_eq (fun _ => 0) (fun _ => 0) 4096 (2 ^ 29 + 1) (by omega) (by norm_num),
    not_wellKept (Fin 1) (fun _ => 0) (fun _ => 0) 4096 (2 ^ 29 + 1) (by norm_num) (by omega)⟩

end Condition

end MqttAgent

end ProvisioningSdk
