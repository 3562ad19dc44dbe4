import ProvisioningSdk.Platform.PalQueue

/-!
# The Platform Queue Shared by Threads

Any number of threads sending to and receiving from one queue see a FIFO list
of bounded length.

`fifo` is the purpose of the queue, stated on a list: a send appends unless
`n` items are there, a receive removes the oldest item unless there is none,
and a call that fails leaves the list alone. The ring buffer refines it
operation by operation (`queue_refines`), and `Lib.Monitor` has already shown
that the threads see one operation at a time, so what remains is to put the
two together.

`fifo_accounts` reads the order off the list. Of the operations committed so
far, the items received followed by the items still queued are the items sent,
in the order they were sent: nothing is lost, duplicated, reordered or mixed.

## Main definitions

* `fifo`: A FIFO list of bounded length.
* `queueThreads`: One queue and its threads.
* `sentItems`, `receivedItems`: The items that went in and came out.
* `Stands`: A ring buffer stands for a list.

## Theorems

* `queue_refines`: Each operation of the ring buffer is one of the list.
* `fifo_accounts`: What was received and what is left is what was sent.
* `syncQueue_linearizable`: The threads see a FIFO list.
-/

namespace ProvisioningSdk

namespace IotshdPal

open Bytes Transition Linearize TimedWait

/-- A FIFO list holding at most `n` items of `s` bytes. -/
def fifo (n s : Nat) : Sequential (QueueOp s) QueueRes (List (List UInt8)) where
  init := []
  apply := fun items op res => match op with
    | .send item =>
        if items.length < n then (if res = .sent true then some (items ++ [item.1]) else none)
        else (if res = .sent false then some items else none)
    | .receive => match items with
        | [] => if res = .received none then some [] else none
        | item :: rest => if res = .received (some item) then some rest else none

/-- The queue `q` and the threads `ι` calling it. -/
def queueThreads (ι : Type*) [DecidableEq ι] (s : Nat) (q : SyncQueue) :
    System (TimedWait.State ι (QueueOp s) QueueRes SyncQueue QueueCond)
      (Act ι (QueueOp s) QueueRes) :=
  threads ι (syncQueue s) q

/-- The items of the sends that succeeded, in order. -/
def sentItems {s : Nat} (log : List (QueueOp s × QueueRes)) : List (List UInt8) :=
  log.filterMap (fun
    | (.send item, .sent true) => some item.1
    | _ => none)

/-- The items of the receives that succeeded, in order. -/
def receivedItems {s : Nat} (log : List (QueueOp s × QueueRes)) : List (List UInt8) :=
  log.filterMap (fun
    | (.receive, .received item) => item
    | _ => none)

/-- The ring buffer `q` stands for the list `items`. -/
def Stands (n s : Nat) (q : SyncQueue) (items : List (List UInt8)) : Prop :=
  q.Ready ∧ q.numberOfQueueItems = n ∧ q.queueItemSize = s ∧ q.contents = items

/-! ### The ring buffer refines the list -/

theorem send_refines (n s : Nat) (q0 q q' : SyncQueue) (items : List (List UInt8))
    (item : Item s) (res : QueueRes) (h : Stands n s q items)
    (ha : (sequential (syncQueue s) q0).apply q (.send item) res = some q') :
    ∃ items', (fifo n s).apply items (.send item) res = some items' ∧ Stands n s q' items' := by
  rcases h with ⟨hq, hn, hs, hitems⟩
  have hlen : items.length = q.itemsInQueue := by rw [← hitems, length_contents]
  have hle := hq.items_le
  by_cases hfull : q.itemsInQueue = q.numberOfQueueItems
  · have hblocked : ((syncQueue s) (.send item)).blocked q = true := beq_iff_eq.mpr hfull
    -- a full ring is a full list, and both refuse
    have hroom : ¬ items.length < n := by omega
    simp only [sequential, hblocked, if_true] at ha
    split at ha
    · rename_i hres
      cases ha
      refine ⟨items, ?_, hq, hn, hs, hitems⟩
      simp only [fifo, if_neg hroom]
      exact if_pos hres
    · cases ha
  · have hblocked : ((syncQueue s) (.send item)).blocked q = false := beq_eq_false_iff_ne.mpr hfull
    have hroom : items.length < n := by omega
    simp only [sequential, hblocked, Bool.false_eq_true, if_false] at ha
    split at ha
    · rename_i hres
      cases ha
      -- there is room in both, and the item goes to the end of both
      have hilen : item.1.length = q.queueItemSize := item.2.trans hs.symm
      refine ⟨items ++ [item.1], ?_, sendBody_ready hq item.1 (by omega), hn, hs, ?_⟩
      · simp only [fifo, if_pos hroom]
        exact if_pos hres
      · rw [← hitems]
        exact contents_sendBody hq item.1 hilen (by omega)
    · cases ha

theorem receive_refines (n s : Nat) (q0 q q' : SyncQueue) (items : List (List UInt8))
    (res : QueueRes) (h : Stands n s q items)
    (ha : (sequential (syncQueue s) q0).apply q .receive res = some q') :
    ∃ items', (fifo n s).apply items .receive res = some items' ∧ Stands n s q' items' := by
  -- an empty ring is an empty list, and both deliver nothing
  rcases h with ⟨hq, hn, hs, hitems⟩
  have hlen : items.length = q.itemsInQueue := by rw [← hitems, length_contents]
  by_cases hempty : q.itemsInQueue = 0
  · have hblocked : ((syncQueue s) .receive).blocked q = true := beq_iff_eq.mpr hempty
    have hnil : items = [] := List.length_eq_zero_iff.mp (by omega)
    subst hnil
    simp only [sequential, hblocked, if_true] at ha
    split at ha
    · rename_i hres
      cases ha
      exact ⟨[], if_pos hres, hq, hn, hs, hitems⟩
    · cases ha
  · have hblocked : ((syncQueue s) .receive).blocked q = false := beq_eq_false_iff_ne.mpr hempty
    -- the slot at the head is the oldest item of the list
    have hpop := contents_receiveBody hq (Nat.pos_of_ne_zero hempty)
    rw [hitems] at hpop
    subst hpop
    simp only [sequential, hblocked, Bool.false_eq_true, if_false] at ha
    split at ha
    · rename_i hres
      cases ha
      exact ⟨_, if_pos hres, receiveBody_ready hq (Nat.pos_of_ne_zero hempty), hn, hs, rfl⟩
    · cases ha

/-- Each operation of the ring buffer is one of the list it stands for. -/
theorem queue_refines (n s : Nat) (q0 q q' : SyncQueue) (items : List (List UInt8))
    (op : QueueOp s) (res : QueueRes) (h : Stands n s q items)
    (ha : (sequential (syncQueue s) q0).apply q op res = some q') :
    ∃ items', (fifo n s).apply items op res = some items' ∧ Stands n s q' items' := by
  cases op with
  | send item => exact send_refines n s q0 q q' items item res h ha
  | receive => exact receive_refines n s q0 q q' items res h ha

/-! ### The order of the items -/

/-- What the list holds is what went in and has not come out, in order, and
    never more than its capacity. -/
theorem fifo_accounts (n s : Nat) (log : List (QueueOp s × QueueRes)) (items : List (List UInt8))
    (h : (fifo n s).system.run log = some items) :
    sentItems log = receivedItems log ++ items ∧ items.length ≤ n := by
  refine System.run_induction (fifo n s).system
    (P := fun log items => sentItems log = receivedItems log ++ items ∧ items.length ≤ n)
    ⟨rfl, Nat.zero_le n⟩ ?_ log items h
  -- each answered operation adds to at most one of the two sides
  rintro log items ⟨op, res⟩ items' - ⟨hacc, hle⟩ hstep
  simp only [Sequential.system, fifo] at hstep
  unfold sentItems receivedItems at *
  rw [List.filterMap_append, List.filterMap_append, hacc]
  cases op with
  | send item =>
      simp only at hstep
      split at hstep
      · -- a send with room adds to both sides
        split at hstep
        · rename_i hroom hres
          cases hstep
          subst hres
          simp only [List.filterMap_cons, List.filterMap_nil, List.append_nil, List.append_assoc,
            List.length_append, List.length_cons, List.length_nil]
          exact ⟨trivial, by omega⟩
        · cases hstep
      · split at hstep
        · rename_i hres
          cases hstep
          subst hres
          simp only [List.filterMap_cons, List.filterMap_nil, List.append_nil]
          exact ⟨trivial, hle⟩
        · cases hstep
  | receive =>
      cases items with
      -- a receive moves one from what is inside to what was received
      | nil =>
          simp only at hstep
          split at hstep
          · rename_i hres
            cases hstep
            subst hres
            simp only [List.filterMap_cons, List.filterMap_nil, List.append_nil]
            exact ⟨trivial, Nat.zero_le n⟩
          · cases hstep
      | cons item rest =>
          simp only at hstep
          split at hstep
          · rename_i hres
            cases hstep
            subst hres
            simp only [List.length_cons] at hle
            simp only [List.filterMap_cons, List.filterMap_nil, List.append_nil, List.append_assoc,
              List.singleton_append]
            exact ⟨trivial, by omega⟩
          · cases hstep

/-- The threads of a queue made for `n` items of `s` bytes see a FIFO list of
    capacity `n`, whose items the ring buffer holds at the end. -/
theorem syncQueue_linearizable (ι : Type*) [DecidableEq ι] (n s : Nat) (hn : 1 ≤ n) (hs : 1 ≤ s)
    (hfits : n * s < 2 ^ 32) (heap : Memory) (q : SyncQueue)
    (hq : syncQueueCreate ⟨true, some heap⟩ n s = .ok (some q))
    (acts : List (Act ι (QueueOp s) QueueRes))
    (st : TimedWait.State ι (QueueOp s) QueueRes SyncQueue QueueCond)
    (hrun : (queueThreads ι s q).run acts = some st) :
    ∃ lin final, (atomic ι (fifo n s)).run lin = some final ∧
      lin.filterMap Linearize.event = acts.filterMap TimedWait.event ∧
      st.obj.contents = final.obj ∧
      sentItems (lin.filterMap commit) = receivedItems (lin.filterMap commit) ++ final.obj ∧
      final.obj.length ≤ n := by
  have hnle : n ≤ n * s := Nat.le_mul_of_pos_right n hs
  have hsle : s ≤ n * s := Nat.le_mul_of_pos_left s hn
  have hstands : Stands n s q [] :=
    create_ready heap true n s q (by omega) (by omega) (by omega) hq
  -- first one ring buffer in place of the threads, then the list in its place
  rcases monitor_linearizable (syncQueue s) q acts st hrun with ⟨lin, b, hlin, hevents, hobj⟩
  rcases refine_atomic (sequential (syncQueue s) q) (fifo n s) (Stands n s) hstands
    (fun q1 items op res q2 hA ha => queue_refines n s q q1 q2 items op res hA ha)
    lin b hlin with ⟨final, hfinal, hlift⟩
  -- the commits are a history of the list itself, which accounts for its items
  have hcommits := run_commits (fifo n s) lin final hfinal
  rcases fifo_accounts n s _ _ hcommits with ⟨hacc, hle⟩
  exact ⟨lin, final, hfinal, hevents, by rw [← hobj]; exact hlift.1.2.2.2, hacc, hle⟩

/-- A schedule of two threads on a queue of one one-byte item: the second
    sender finds it full, times out, and the first then receives its item. -/
def fullQueueSchedule {ι : Type*} (t u : ι) : List (Act ι (QueueOp 1) QueueRes) :=
  [.call t (.send ⟨[7], rfl⟩), .lock t, .test t, .body t, .unlock t, .broadcast t,
    .ret t (.send ⟨[7], rfl⟩) (.sent true), .call u (.send ⟨[9], rfl⟩), .lock u, .test u,
    .call t .receive, .lock t, .expire u 110, .test t, .body t, .unlock t, .relock u, .unlock u,
    .ret u (.send ⟨[9], rfl⟩) (.sent false), .broadcast t,
    .ret t .receive (.received (some [7]))]

theorem syncQueue_linearizable_full :
    ∃ q st, syncQueueCreate ⟨true, some (fun _ => 0)⟩ 1 1 = .ok (some q) ∧
      (queueThreads (Fin 2) 1 q).run (fullQueueSchedule 0 1) = some st ∧
      ∃ lin final, (atomic (Fin 2) (fifo 1 1)).run lin = some final ∧
        lin.filterMap Linearize.event = (fullQueueSchedule 0 1).filterMap TimedWait.event ∧
        st.obj.contents = final.obj ∧
        sentItems (lin.filterMap commit) = receivedItems (lin.filterMap commit) ++ final.obj ∧
        final.obj.length ≤ 1 :=
  ⟨_, _, rfl, rfl, syncQueue_linearizable (Fin 2) 1 1 (by decide) (by decide) (by decide)
    (fun _ => 0) _ rfl (fullQueueSchedule 0 1) _ rfl⟩

end IotshdPal

end ProvisioningSdk
