import ProvisioningSdk.Agent.PublishQueue
import ProvisioningSdk.Lib.Mailbox

/-!
# Publish Delivery

What the application threads get from a user context: the publishes the callback
had a free item for, in their order and each of them once, and in every item
they hold the publish it came with.

The queue of items is a mailbox in the sense of `Lib.Mailbox`, whose messages
are the publishes. A step of the agent thread or of an application thread is a
step of the mailbox, or, where the callback copies the publish, none at all.
The copy is what the second half is about. An item keeps its buffer when it is
freed without it, so a publish finds a buffer of any age and size there; it is
reused or replaced, and filled before the item is posted. Until the item is
freed nobody else writes to it, because it is in one place only.

That is where the limit of `2 ^ 29` items comes from. With more of them two
slots of the free queue are the same bytes, the callback gets one item twice,
and the second publish is copied over the first while a thread has it.

## Main definitions

* `PublishInfo.Sound`: A publish as coreMQTT hands it to a callback.
* `Shows`: What an item has to show.
* `Delivers`: The property of a context.
* `Mirrors`: The context is in the state of a mailbox.

## Theorems

* `enqueueFill_shows`: The callback copies the whole publish.
* `mirrors_step`: Every step is one of the mailbox.
* `delivers_of_le`: Up to `2 ^ 29` items everything is delivered.
* `not_delivers`: With more a held item is written to.
* `publishQueue_delivers_iff`: The exact condition.
-/

namespace ProvisioningSdk

namespace MqttAgent

open Bytes IotshdPal Transition Mailbox

/-! ### Publishes and items -/

/-- A publish with its topic and its payload in memory. -/
structure PublishInfo.Sound (info : PublishInfo) : Prop where
  topic : info.topicNameLength ≤ info.pTopicName.bytes.length
  payload : info.payloadLength ≤ info.pPayload.bytes.length
  /-- Both together are less than what a `size_t` counts. -/
  fits : info.topicNameLength + 1 + info.payloadLength + 1 < 2 ^ 64

/-- The bytes at a pointer into the item's buffer, as far as the buffer goes. -/
def QueueItem.read (item : QueueItem) (pointer : TextPointer) (length : Nat) :
    Option (List UInt8) :=
  match pointer, item.topicPayloadBuffer with
  | .itemBuffer offset, some block =>
      if offset + length ≤ block.size then some (block.bytes.slice offset length) else none
  | _, _ => none

/-- The item shows the publish: its flags and lengths, and its topic and payload
    with a zero behind each. -/
structure Shows (info : PublishInfo) (item : QueueItem) : Prop where
  qos : item.publishInfo.qos = info.qos
  retain : item.publishInfo.retain = info.retain
  dup : item.publishInfo.dup = info.dup
  topicNameLength : item.publishInfo.topicNameLength = info.topicNameLength
  payloadLength : item.publishInfo.payloadLength = info.payloadLength
  topic : item.read item.publishInfo.pTopicName (info.topicNameLength + 1) =
    some (info.pTopicName.bytes.take info.topicNameLength ++ [0])
  payload : item.read item.publishInfo.pPayload (info.payloadLength + 1) =
    some (info.pPayload.bytes.take info.payloadLength ++ [0])

/-- The size of the buffer is the one that was recorded. -/
def QueueItem.Sound (item : QueueItem) : Prop :=
  ∀ block, item.topicPayloadBuffer = some block → block.size = item.topicPayloadBufferSize

/-- A buffer that is large enough is kept, and another one is replaced. -/
theorem enqueueBuffer_eq (malloc : Option Memory) (required : Nat) (item : QueueItem) :
    enqueueBuffer malloc required item =
      if item.topicPayloadBuffer.isSome ∧ required ≤ item.topicPayloadBufferSize then item
      else { item with
        topicPayloadBuffer := malloc.map (fun bytes => { size := required, bytes := bytes })
        topicPayloadBufferSize := required } := by
  unfold enqueueBuffer
  cases hbuffer : item.topicPayloadBuffer with
  | none => simp [hbuffer]
  | some old =>
      by_cases hsmall : item.topicPayloadBufferSize < required
      · simp [hsmall]
      · simp [hsmall, hbuffer, Nat.not_lt.mp hsmall]

/-- Only the buffer of an item changes. -/
theorem enqueueBuffer_publishInfo (malloc : Option Memory) (required : Nat) (item : QueueItem) :
    (enqueueBuffer malloc required item).publishInfo = item.publishInfo := by
  rw [enqueueBuffer_eq]
  split
  · rfl
  · rfl

/-- The buffer an item ends up with is large enough, whether it is an old one or
    a new one. -/
theorem enqueueBuffer_sound (malloc : Option Memory) (required : Nat) {item : QueueItem}
    (h : item.Sound) :
    (enqueueBuffer malloc required item).Sound ∧
      ∀ block, (enqueueBuffer malloc required item).topicPayloadBuffer = some block →
        required ≤ block.size := by
  rw [enqueueBuffer_eq]
  split
  case isTrue hkept =>
    refine ⟨h, fun block hblock => ?_⟩
    rw [h block hblock]
    exact hkept.2
  case isFalse =>
    have hnew : ∀ block, malloc.map (fun bytes => (⟨required, bytes⟩ : Block)) = some block →
        block.size = required := by
      intro block hblock
      rcases Option.map_eq_some_iff.mp hblock with ⟨bytes, -, rfl⟩
      rfl
    exact ⟨hnew, fun block hblock => (hnew block hblock).ge⟩

/-- The bytes the callback copies, read back: each text with the zero behind
    it. -/
theorem slice_copied (bytes : Memory) (topic payload : List UInt8) :
    (((((bytes.copy 0 topic).copy topic.length [0]).copy (topic.length + 1) payload).copy
        (topic.length + 1 + payload.length) [0]).slice 0 (topic.length + 1) = topic ++ [0]) ∧
      (((((bytes.copy 0 topic).copy topic.length [0]).copy (topic.length + 1) payload).copy
        (topic.length + 1 + payload.length) [0]).slice (topic.length + 1) (payload.length + 1) =
          payload ++ [0]) := by
  have hzero : ∀ (m : Memory) (off : Nat), (m.copy off [0]).slice off 1 = [0] :=
    fun m off => slice_copy_self m off [0]
  constructor
  · -- the topic, under three later copies
    rw [slice_add, slice_copy_disjoint _ _ _ _ _ (by omega),
      slice_copy_disjoint _ _ _ _ _ (by omega), slice_copy_disjoint _ _ _ _ _ (by omega),
      slice_copy_self]
    -- and the zero behind it, under two
    rw [slice_copy_disjoint _ _ _ _ _ (by omega), slice_copy_disjoint _ _ _ _ _ (by omega),
      Nat.zero_add, hzero]
  · rw [slice_add, slice_copy_disjoint _ _ _ _ _ (by omega), slice_copy_self, hzero]

/-- The callback copies the whole publish, into whatever buffer the item had. -/
theorem enqueueFill_shows {malloc : Option Memory} {info : PublishInfo} {item item' : QueueItem}
    (hitem : item.Sound) (hinfo : info.Sound) (h : enqueueFill malloc info item = .ok item') :
    Shows info item' ∧ item'.Sound := by
  have hu64 : u64 (info.topicNameLength + 1 + info.payloadLength + 1) =
      info.topicNameLength + 1 + info.payloadLength + 1 := Nat.mod_eq_of_lt hinfo.fits
  have hbuffer := enqueueBuffer_sound malloc (info.topicNameLength + 1 + info.payloadLength + 1)
    (show ({ item with publishInfo := info } : QueueItem).Sound from hitem)
  simp only [enqueueFill, hu64] at h
  have hpublish := enqueueBuffer_publishInfo malloc
    (info.topicNameLength + 1 + info.payloadLength + 1) { item with publishInfo := info }
  generalize enqueueBuffer malloc (info.topicNameLength + 1 + info.payloadLength + 1)
    { item with publishInfo := info } = buffered at h hbuffer hpublish
  rcases hbuffer with ⟨hsound, hlarge⟩
  cases hblock : buffered.topicPayloadBuffer with
  | none =>
      rw [hblock] at h
      cases h
  | some block =>
      rw [hblock] at h
      cases h
      -- the block has room for the topic, the payload and a NUL behind each
      have hsize := hlarge block hblock
      have htopic : (info.pTopicName.bytes.take info.topicNameLength).length =
          info.topicNameLength := List.length_take_of_le hinfo.topic
      have hpayload : (info.pPayload.bytes.take info.payloadLength).length =
          info.payloadLength := List.length_take_of_le hinfo.payload
      have hcopied := slice_copied block.bytes (info.pTopicName.bytes.take info.topicNameLength)
        (info.pPayload.bytes.take info.payloadLength)
      rw [htopic, hpayload] at hcopied
      simp only at hpublish
      -- the fields of the publish, its topic, its payload, and the item itself
      refine ⟨⟨?_, ?_, ?_, ?_, ?_, ?_, ?_⟩, ?_⟩
      · rw [hpublish]
      · rw [hpublish]
      · rw [hpublish]
      · rw [hpublish]
      · rw [hpublish]
      · refine (if_pos ?_).trans (congrArg some hcopied.1)
        simp only
        omega
      · refine (if_pos ?_).trans (congrArg some hcopied.2)
        simp only
        omega
      · intro block' hblock'
        cases hblock'
        exact hsound block hblock

/-- Freeing an item leaves it sound. -/
theorem freeClear_sound {freeBuffer : Bool} {item : QueueItem} (h : item.Sound) :
    (freeClear freeBuffer item).Sound := by
  unfold freeClear
  split
  case isTrue =>
    intro block hblock
    cases hblock
  case isFalse => exact h

/-! ### The mailbox -/

/-- The step of the mailbox that a step of a thread is. -/
def QueueAct.mail {ι : Type*} : QueueAct ι → Option (Mailbox.Act ι Nat PublishInfo)
  | .callbackReceive info res => some (.obtain info res)
  | .callbackFill _ => none
  | .callbackSend _ => some .post
  | .dequeue i res => some (.take i res)
  | .freeClear i p _ => some (.finish i p)
  | .freeSend _ _ _ => some .giveBack

section Delivery

variable {ι : Type*} [DecidableEq ι]

/-- What a run should be, with the mailbox it leads to. -/
structure Delivered (n : Nat) (acts : List (QueueAct ι)) (st : QueueState ι)
    (box : Box ι Nat PublishInfo) : Prop where
  /-- No publish and no item gets lost on a full queue. -/
  sent : ∀ a ∈ acts, a.sendFailed = false
  /-- The threads take the steps of a mailbox with `n` items. -/
  accepted : (mailbox ι Nat PublishInfo n).run (acts.filterMap QueueAct.mail) = some box
  /-- The items come out in the order of their publishes, each of them once. -/
  inTurn : ∃ done, InTurn (acts.filterMap QueueAct.mail) box done
  /-- An item that a thread has shows its publish. -/
  shown : ∀ e ∈ box.out, Shows e.2.2 (st.context.items e.2.1)

/-- Every run delivers its publishes, if coreMQTT calls the callback with
    publishes that are in memory. -/
def Delivers (ι : Type*) [DecidableEq ι] (n : Nat) (context : UserContext) : Prop :=
  ∀ acts st, (∀ info res, .callbackReceive info res ∈ acts → info.Sound) →
    (publishQueue ι context).run acts = some st → ∃ box, Delivered n acts st box

/-- What the callback has in hand. -/
def InHand (items : Nat → QueueItem) : CallbackPc → Option (Nat × PublishInfo) → Prop
  | .idle, inHand => inHand = none
  | .filling p info, inHand => inHand = some (p, info) ∧ info.Sound
  | .sending p, inHand => ∃ info, inHand = some (p, info) ∧ Shows info (items p)

/-- The context and its threads are in the state of a mailbox. -/
structure Mirrors (base n : Nat) (st : QueueState ι) (box : Box ι Nat PublishInfo) : Prop where
  inv : QueueInv base n st
  free : (pointers st.context.pFreePublishMessageQueue).length = box.free
  hand : InHand st.context.items st.callback box.inHand
  queued : box.queued.map Prod.fst = pointers st.context.pIncommingPublishQueue
  queued_shown : ∀ e ∈ box.queued, Shows e.2 (st.context.items e.1)
  out_held : ∀ e ∈ box.out, { thread := e.1, pQueueItem := e.2.1, cleared := false } ∈ st.held
  held_out : ∀ i p, { thread := i, pQueueItem := p, cleared := false } ∈ st.held →
    ∃ info, (i, p, info) ∈ box.out
  out_shown : ∀ e ∈ box.out, Shows e.2.2 (st.context.items e.2.1)
  sound : ∀ p, (st.context.items p).Sound

end Delivery

/-! ### One place for one item -/

section Places

variable {ι : Type*} {base n : Nat} {st : QueueState ι}

theorem QueueInv.nodup (h : QueueInv base n st) :
    (pointers st.context.pIncommingPublishQueue ++ holders st).Nodup := by
  have hnodup := h.places_nodup
  unfold places at hnodup
  rw [List.append_assoc] at hnodup
  exact hnodup.of_append_right

/-- An item somebody holds was not posted. -/
theorem QueueInv.not_queued (h : QueueInv base n st) {p : Nat} (hp : p ∈ holders st) :
    p ∉ pointers st.context.pIncommingPublishQueue :=
  fun hqueued => (List.nodup_append.mp h.nodup).2.2 p hqueued p hp rfl

/-- The callback and the threads have different items. -/
theorem QueueInv.callback_ne (h : QueueInv base n st) {p : Nat}
    (hp : st.callback.item = some p) {e : Hold ι} (he : e ∈ st.held) : p ≠ e.pQueueItem := by
  have hnodup : (holders st).Nodup := h.nodup.of_append_right
  unfold holders at hnodup
  rw [hp] at hnodup
  exact (List.nodup_append.mp hnodup).2.2 p (List.mem_singleton_self p) e.pQueueItem
    (List.mem_map.mpr ⟨e, he, rfl⟩)

theorem QueueInv.nodup_held (h : QueueInv base n st) : st.held.Nodup := by
  have hnodup : (holders st).Nodup := h.nodup.of_append_right
  unfold holders at hnodup
  exact hnodup.of_append_right.of_map _

/-- An item has one holder. -/
theorem QueueInv.held_inj (h : QueueInv base n st) {e e' : Hold ι} (he : e ∈ st.held)
    (he' : e' ∈ st.held) (heq : e.pQueueItem = e'.pQueueItem) : e = e' := by
  have hnodup : (holders st).Nodup := h.nodup.of_append_right
  unfold holders at hnodup
  exact List.inj_on_of_nodup_map hnodup.of_append_right he he' heq

/-- An entry of the mailbox that was posted is about an item in the queue. -/
theorem Mirrors.queued_mem {box : Box ι Nat PublishInfo} (h : Mirrors base n st box)
    {e : Nat × PublishInfo} (he : e ∈ box.queued) :
    e.1 ∈ pointers st.context.pIncommingPublishQueue := by
  rw [← h.queued]
  exact List.mem_map.mpr ⟨e, he, rfl⟩

end Places

/-! ### Steps -/

section Steps

variable {ι : Type*} [DecidableEq ι] {base n : Nat} {st st' : QueueState ι}
  {box : Box ι Nat PublishInfo}

/-- A queue delivers nothing only if there is nothing in it. -/
theorem pointers_of_none {q : SyncQueue} (hq : q.Ready)
    (hnone : pointerOf (receiveNow q).2 = none) : pointers (some q) = [] := by
  rcases receiveNow_cases hq with ⟨hempty, -⟩ | ⟨item, q', hres, -⟩
  · simp only [pointers, Option.elim_some, hempty, List.map_nil]
  · rw [hres] at hnone
    cases hnone

/-- The callback asks for a free item. -/
theorem mirrors_callbackReceive (hbase : base + n * sizeofQueueItem ≤ 2 ^ 64)
    (h : Mirrors base n st box) {info : PublishInfo} {res : Option Nat} (hinfo : info.Sound)
    (hstep : queueStep st (.callbackReceive info res) = some st') :
    ∃ box', Mailbox.step box (.obtain info res) = some box' ∧ Mirrors base n st' box' := by
  have hinv := (inv_step hbase h.inv hstep).1
  rcases callbackReceive_step hstep with ⟨q, hidle, hfree, hres, rfl⟩
  rcases h.inv.free with ⟨q', hq', hready, hcount, hsize⟩
  obtain rfl : q' = q := Option.some.inj (hq'.symm.trans hfree)
  rcases receiveNow_pointer hready hcount hsize with ⟨-, -, -, hpop⟩
  have hlength := h.free
  have hhand := h.hand
  rw [hidle] at hhand
  have hnone : box.inHand.isNone = true := Option.isNone_iff_eq_none.mpr hhand
  rw [hfree, hpop, hres, List.length_append] at hlength
  cases res with
  | none =>
      have hempty := pointers_of_none hready hres
      rw [hpop, hres] at hempty
      have hrest : pointers (some (receiveNow q').1) = [] := (List.append_eq_nil_iff.mp hempty).2
      rw [hrest] at hlength
      refine ⟨box, if_pos ⟨hnone, hlength.symm⟩, ⟨hinv, ?_, hhand, h.queued, h.queued_shown,
        h.out_held, h.held_out, h.out_shown, h.sound⟩⟩
      simp only [hrest]
      exact hlength
  | some p =>
      rw [Option.toList_some, List.length_singleton] at hlength
      refine ⟨{ box with free := box.free - 1, inHand := some (p, info) },
        if_pos ⟨hnone, by omega⟩, ⟨hinv, ?_, ⟨rfl, hinfo⟩, h.queued, h.queued_shown,
        h.out_held, h.held_out, h.out_shown, h.sound⟩⟩
      simp only
      omega

/-- Another item than the one that changes. -/
theorem shows_update {items : Nat → QueueItem} {info : PublishInfo} {p q : Nat} {item : QueueItem}
    (h : Shows info (items q)) (hne : q ≠ p) : Shows info (Function.update items p item q) := by
  rw [Function.update_of_ne hne]
  exact h

/-- What holds of every item, and of the one that is put in its place. -/
theorem items_update {P : QueueItem → Prop} {items : Nat → QueueItem} (h : ∀ q, P (items q))
    {p : Nat} {item : QueueItem} (hitem : P item) : ∀ q, P (Function.update items p item q) :=
  (Function.forall_update_iff items (fun _ item => P item)).mpr ⟨hitem, fun q _ => h q⟩

/-- The callback copies the publish. -/
theorem mirrors_callbackFill (hbase : base + n * sizeofQueueItem ≤ 2 ^ 64)
    (h : Mirrors base n st box) {malloc : Option Memory}
    (hstep : queueStep st (.callbackFill malloc) = some st') : Mirrors base n st' box := by
  have hinv := (inv_step hbase h.inv hstep).1
  rcases callbackFill_step hstep with ⟨p, info, item, hfilling, hitem, rfl⟩
  have hhand := h.hand
  rw [hfilling] at hhand
  have hcallback : st.callback.item = some p := by
    rw [hfilling]
    rfl
  have hholder : p ∈ holders st := by
    unfold holders
    rw [hcallback]
    exact List.mem_append_left _ (List.mem_singleton_self p)
  rcases enqueueFill_shows (h.sound p) hhand.2 hitem with ⟨hshows, hsound⟩
  -- nobody else has the item
  refine ⟨hinv, h.free, ⟨info, hhand.1, ?_⟩, h.queued, fun e he => ?_, h.out_held, h.held_out,
    fun e he => ?_, items_update h.sound hsound⟩
  · simp only [Function.update_self]
    exact hshows
  · refine shows_update (h.queued_shown e he) (fun heq => ?_)
    exact h.inv.not_queued hholder (heq ▸ h.queued_mem he)
  · refine shows_update (h.out_shown e he) (fun heq => ?_)
    exact h.inv.callback_ne hcallback (h.out_held e he) heq.symm

/-- The callback posts the item. -/
theorem mirrors_callbackSend (hbase : base + n * sizeofQueueItem ≤ 2 ^ 64)
    (h : Mirrors base n st box) {ret : Bool}
    (hstep : queueStep st (.callbackSend ret) = some st') :
    ∃ box', Mailbox.step box .post = some box' ∧ Mirrors base n st' box' := by
  have hinv := (inv_step hbase h.inv hstep).1
  rcases callbackSend_step hstep with ⟨p, q, hsending, hq, -, rfl⟩
  rcases h.inv.incomming with ⟨q', hq', hready, hcount, hsize⟩
  obtain rfl : q' = q := Option.some.inj (hq'.symm.trans hq)
  have hhand := h.hand
  rw [hsending] at hhand
  rcases hhand with ⟨info, hinHand, hshows⟩
  have hholder : p ∈ holders st := by
    unfold holders
    rw [hsending]
    exact List.mem_append_left _ (List.mem_singleton_self p)
  have hroom := (h.inv.room hholder).2
  rw [hq] at hroom
  have hp := h.inv.addr_lt hbase (List.mem_append_right _ hholder)
  rcases sendNow_pointer hready hcount hsize hp hroom with ⟨-, -, -, -, hpush⟩
  refine ⟨{ box with inHand := none, queued := box.queued ++ [(p, info)] }, ?_,
    ⟨hinv, h.free, rfl, ?_, fun e he => ?_, h.out_held, h.held_out, h.out_shown, h.sound⟩⟩
  · unfold Mailbox.step
    rw [hinHand]
  · rw [List.map_append, h.queued, hq, hpush]
    rfl
  · rcases List.mem_append.mp he with he | he
    · exact h.queued_shown e he
    · rw [List.mem_singleton.mp he]
      exact hshows

/-- A thread asks for the oldest item. -/
theorem mirrors_dequeue (hbase : base + n * sizeofQueueItem ≤ 2 ^ 64)
    (h : Mirrors base n st box) {i : ι} {res : Option Nat}
    (hstep : queueStep st (.dequeue i res) = some st') :
    ∃ box', Mailbox.step box (.take i res) = some box' ∧ Mirrors base n st' box' := by
  have hinv := (inv_step hbase h.inv hstep).1
  rcases dequeue_step hstep with ⟨q, hq, hres, rfl⟩
  rcases h.inv.incomming with ⟨q', hq', hready, hcount, hsize⟩
  obtain rfl : q' = q := Option.some.inj (hq'.symm.trans hq)
  rcases receiveNow_pointer hready hcount hsize with ⟨-, -, -, hpop⟩
  have hqueued := h.queued
  rw [hq, hpop, hres] at hqueued
  cases res with
  | none =>
      -- nothing was received, so both are empty
      have hempty := pointers_of_none hready hres
      rw [hpop, hres] at hempty
      have hrest : pointers (some (receiveNow q').1) = [] := (List.append_eq_nil_iff.mp hempty).2
      rw [hrest] at hqueued
      have hbox : box.queued = [] := List.map_eq_nil_iff.mp hqueued
      refine ⟨box, if_pos (List.isEmpty_iff.mpr hbox), ⟨hinv, h.free, h.hand, ?_, h.queued_shown,
        h.out_held, h.held_out, h.out_shown, h.sound⟩⟩
      simp only [hrest]
      exact hqueued
  | some p =>
      -- the first of the queue is the first of the mailbox
      rcases List.map_eq_cons_iff.mp hqueued with ⟨e, rest, hbox, rfl, hrest⟩
      refine ⟨{ box with queued := rest, out := (i, e) :: box.out }, ?_,
        ⟨hinv, h.free, h.hand, hrest, fun e' he' => ?_, fun e' he' => ?_, fun i' p' hheld => ?_,
          fun e' he' => ?_, h.sound⟩⟩
      · unfold Mailbox.step
        rw [hbox]
        exact if_pos rfl
      · exact h.queued_shown e' (by rw [hbox]; exact List.mem_cons_of_mem e he')
      · rcases List.mem_cons.mp he' with rfl | he'
        · exact List.mem_cons_self
        · exact List.mem_cons_of_mem _ (h.out_held e' he')
      · rcases List.mem_cons.mp hheld with heq | hheld
        · obtain ⟨rfl, rfl⟩ : i' = i ∧ p' = e.1 := by
            cases heq
            exact ⟨rfl, rfl⟩
          exact ⟨e.2, List.mem_cons_self⟩
        · rcases h.held_out i' p' hheld with ⟨info, hinfo⟩
          exact ⟨info, List.mem_cons_of_mem _ hinfo⟩
      · rcases List.mem_cons.mp he' with rfl | he'
        · exact h.queued_shown e (by rw [hbox]; exact List.mem_cons_self)
        · exact h.out_shown e' he'

/-- The callback keeps what it has while another item changes. -/
theorem inHand_update {items : Nat → QueueItem} {callback : CallbackPc}
    {inHand : Option (Nat × PublishInfo)} (h : InHand items callback inHand) {p : Nat}
    {item : QueueItem} (hne : ∀ p', callback.item = some p' → p' ≠ p) :
    InHand (Function.update items p item) callback inHand := by
  cases callback with
  | idle => exact h
  | filling p' info => exact h
  | sending p' =>
      rcases h with ⟨info, hinHand, hshows⟩
      exact ⟨info, hinHand, shows_update hshows (hne p' rfl)⟩

/-- A thread clears its item. -/
theorem mirrors_freeClear (hbase : base + n * sizeofQueueItem ≤ 2 ^ 64)
    (h : Mirrors base n st box) {i : ι} {p : Nat} {freeBuffer : Bool}
    (hstep : queueStep st (.freeClear i p freeBuffer) = some st') :
    ∃ box', Mailbox.step box (.finish i p) = some box' ∧ Mirrors base n st' box' := by
  have hinv := (inv_step hbase h.inv hstep).1
  rcases freeClear_step hstep with ⟨hmem, rfl⟩
  have hholder : p ∈ holders st := List.mem_append_right _ (List.mem_map.mpr ⟨_, hmem, rfl⟩)
  rcases h.held_out i p hmem with ⟨info, hout⟩
  have hany : box.out.any (isOf i p) = true :=
    List.any_eq_true.mpr ⟨_, hout, isOf_iff.mpr ⟨rfl, rfl⟩⟩
  refine ⟨{ box with out := box.out.filter (fun e => !isOf i p e) }, if_pos hany,
    ⟨hinv, h.free, inHand_update h.hand (fun p' hp' => ?_), h.queued, fun e he => ?_,
      fun e he => ?_, fun i' p' hheld => ?_, fun e he => ?_,
      items_update h.sound (freeClear_sound (h.sound p))⟩⟩
  · exact h.inv.callback_ne hp' hmem
  · refine shows_update (h.queued_shown e he) (fun heq => ?_)
    exact h.inv.not_queued hholder (heq ▸ h.queued_mem he)
  · rcases mem_others.mp he with ⟨he, hne⟩
    refine List.mem_cons_of_mem _ ((List.mem_erase_of_ne (fun heq => hne ?_)).mpr
      (h.out_held e he))
    cases heq
    exact ⟨rfl, rfl⟩
  · rcases List.mem_cons.mp hheld with heq | hheld
    · cases heq
    · rcases h.inv.nodup_held.mem_erase_iff.mp hheld with ⟨hne, hheld⟩
      rcases h.held_out i' p' hheld with ⟨info', hout'⟩
      refine ⟨info', mem_others.mpr ⟨hout', ?_⟩⟩
      rintro ⟨rfl, rfl⟩
      exact hne rfl
  · -- the item has no other holder
    rcases mem_others.mp he with ⟨he, hne⟩
    refine shows_update (h.out_shown e he) (fun heq => hne ⟨?_, heq⟩)
    exact congrArg Hold.thread (h.inv.held_inj (h.out_held e he) hmem heq)

/-- A thread gives its item back. -/
theorem mirrors_freeSend (hbase : base + n * sizeofQueueItem ≤ 2 ^ 64)
    (h : Mirrors base n st box) {i : ι} {p : Nat} {ret : Bool}
    (hstep : queueStep st (.freeSend i p ret) = some st') :
    ∃ box', Mailbox.step box .giveBack = some box' ∧ Mirrors base n st' box' := by
  have hinv := (inv_step hbase h.inv hstep).1
  rcases freeSend_step hstep with ⟨q, hq, hmem, -, rfl⟩
  rcases h.inv.free with ⟨q', hq', hready, hcount, hsize⟩
  obtain rfl : q' = q := Option.some.inj (hq'.symm.trans hq)
  have hholder : p ∈ holders st := List.mem_append_right _ (List.mem_map.mpr ⟨_, hmem, rfl⟩)
  have hroom := (h.inv.room hholder).1
  rw [hq] at hroom
  have hp := h.inv.addr_lt hbase (List.mem_append_right _ hholder)
  rcases sendNow_pointer hready hcount hsize hp hroom with ⟨-, -, -, -, hpush⟩
  refine ⟨{ box with free := box.free + 1 }, rfl, ⟨hinv, ?_, h.hand, h.queued, h.queued_shown,
    fun e he => ?_, fun i' p' hheld => ?_, h.out_shown, h.sound⟩⟩
  · simp only [hpush, List.length_append, List.length_singleton, ← h.free, hq]
  · refine (List.mem_erase_of_ne (fun heq => ?_)).mpr (h.out_held e he)
    cases heq
  · exact h.held_out i' p' (List.mem_of_mem_erase hheld)

/-- Every step of a thread is a step of the mailbox, or none. -/
theorem mirrors_step (hbase : base + n * sizeofQueueItem ≤ 2 ^ 64) (h : Mirrors base n st box)
    {act : QueueAct ι} (hsound : ∀ info res, act = .callbackReceive info res → info.Sound)
    (hstep : queueStep st act = some st') :
    ∃ box', Mirrors base n st' box' ∧
      match act.mail with
      | some mail => Mailbox.step box mail = some box'
      | none => box' = box := by
  cases act with
  | callbackReceive info res =>
      rcases mirrors_callbackReceive hbase h (hsound info res rfl) hstep with ⟨box', hbox, h'⟩
      exact ⟨box', h', hbox⟩
  | callbackFill malloc => exact ⟨box, mirrors_callbackFill hbase h hstep, rfl⟩
  | callbackSend ret =>
      rcases mirrors_callbackSend hbase h hstep with ⟨box', hbox, h'⟩
      exact ⟨box', h', hbox⟩
  | dequeue i res =>
      rcases mirrors_dequeue hbase h hstep with ⟨box', hbox, h'⟩
      exact ⟨box', h', hbox⟩
  | freeClear i p freeBuffer =>
      rcases mirrors_freeClear hbase h hstep with ⟨box', hbox, h'⟩
      exact ⟨box', h', hbox⟩
  | freeSend i p ret =>
      rcases mirrors_freeSend hbase h hstep with ⟨box', hbox, h'⟩
      exact ⟨box', h', hbox⟩

end Steps

/-! ### The exact condition -/

section Condition

variable {ι : Type*} [DecidableEq ι] {heap1 heap2 : Memory} {base n : Nat}

/-- A new context is a mailbox with all its items free. -/
theorem madeContext_mirrors (hn : 1 ≤ n) (hfits : n ≤ 2 ^ 29)
    (hbase : base + n * sizeofQueueItem ≤ 2 ^ 64) :
    Mirrors base n (publishQueue ι (madeContext heap1 heap2 base n)).init
      (mailbox ι Nat PublishInfo n).init where
  inv := madeContext_inv ι heap1 heap2 base n hn hfits hbase
  free := by
    rcases sendItems_counters base heap2 n (by omega) n (Nat.le_refl n) with ⟨hitems, -⟩
    simp only [publishQueue, madeContext, mailbox, pointers, Option.elim_some, List.length_map,
      length_contents, hitems]
  hand := rfl
  queued := rfl
  queued_shown := fun _ he => absurd he List.not_mem_nil
  out_held := fun _ he => absurd he List.not_mem_nil
  held_out := fun _ _ hheld => absurd hheld List.not_mem_nil
  out_shown := fun _ he => absurd he List.not_mem_nil
  sound := fun _ _ hblock => by cases hblock

/-- A run of the threads is a run of the mailbox. -/
theorem mirrors_run (hn : 1 ≤ n) (hfits : n ≤ 2 ^ 29)
    (hbase : base + n * sizeofQueueItem ≤ 2 ^ 64) (acts : List (QueueAct ι)) (st : QueueState ι)
    (hrun : (publishQueue ι (madeContext heap1 heap2 base n)).run acts = some st)
    (hsound : ∀ info res, .callbackReceive info res ∈ acts → info.Sound) :
    ∃ box, Mirrors base n st box ∧
      (mailbox ι Nat PublishInfo n).run (acts.filterMap QueueAct.mail) = some box := by
  refine (publishQueue ι (madeContext heap1 heap2 base n)).run_induction
    (P := fun acts st => (∀ info res, .callbackReceive info res ∈ acts → info.Sound) →
      ∃ box, Mirrors base n st box ∧
        (mailbox ι Nat PublishInfo n).run (acts.filterMap QueueAct.mail) = some box)
    (fun _ => ⟨_, madeContext_mirrors hn hfits hbase, rfl⟩) ?_ acts st hrun hsound
  intro acts st act st' _ ih hstep hsound
  rcases ih (fun info res hmem => hsound info res (List.mem_append_left _ hmem)) with
    ⟨box, hmirrors, hbox⟩
  rcases mirrors_step hbase hmirrors (fun info res hact =>
    hsound info res (List.mem_append_right _ (hact ▸ List.mem_singleton_self _))) hstep with
    ⟨box', hmirrors', hmail⟩
  refine ⟨box', hmirrors', ?_⟩
  rw [System.filterMap_concat]
  cases hact : act.mail with
  -- a step the mailbox does not see
  | none =>
      rw [hact] at hmail
      rw [Option.toList_none, List.append_nil, hmail]
      exact hbox
  | some mail =>
      rw [hact] at hmail
      exact (System.run_concat _ _ mail box').mpr ⟨box, hbox, hmail⟩

/-- Up to `2 ^ 29` items everything is delivered. -/
theorem delivers_of_le (hn : 1 ≤ n) (hfits : n ≤ 2 ^ 29)
    (hbase : base + n * sizeofQueueItem ≤ 2 ^ 64) :
    Delivers ι n (madeContext heap1 heap2 base n) := by
  intro acts st hsound hrun
  rcases mirrors_run hn hfits hbase acts st hrun hsound with ⟨box, hmirrors, hbox⟩
  have hsent := (inv_run hbase _ (madeContext_inv ι heap1 heap2 base n hn hfits hbase) acts st
    hrun).2
  exact ⟨box, hsent, hbox, run_order _ _ hbox, hmirrors.out_shown⟩

end Condition

/-! ### More items -/

section Overwriting

variable {ι : Type*}

/-- A publish to the topic `a`, without a payload. -/
def barePublish (qos : Nat) : PublishInfo where
  qos := qos
  retain := false
  dup := false
  pTopicName := .external [97]
  topicNameLength := 1
  pPayload := .null
  payloadLength := 0

theorem barePublish_sound (qos : Nat) : (barePublish qos).Sound where
  topic := Nat.le_refl 1
  payload := Nat.le_refl 0
  fits := by
    simp only [barePublish]
    omega

/-- What the callback does with a publish for which it gets this item. -/
def callbackActs (info : PublishInfo) (p : Nat) (ret : Bool) : List (QueueAct ι) :=
  [.callbackReceive info (some p), .callbackFill (some (fun _ => 0)), .callbackSend ret]

/-- The steps are the callback's, with publishes that are all the same. -/
def OnlyCallback (acts : List (QueueAct ι)) : Prop :=
  ∀ act ∈ acts, ∃ p ret, act ∈ callbackActs (barePublish 0) p ret

/-- A publish, which a thread takes, and more of them until one comes that gets
    the same item. -/
def overwritingActs (i : ι) (p : Nat) (acts : List (QueueAct ι)) : List (QueueAct ι) :=
  callbackActs (barePublish 0) p true ++ .dequeue i (some p) :: (acts ++
    [.callbackReceive (barePublish 1) (some p), .callbackFill (some (fun _ => 0))])

/-- The steps of the callback hand nothing out and finish with nothing. -/
theorem OnlyCallback.finish_not_mem {acts : List (QueueAct ι)} (h : OnlyCallback acts) (i : ι)
    (p : Nat) : .finish i p ∉ acts.filterMap QueueAct.mail := by
  intro hmem
  rcases List.mem_filterMap.mp hmem with ⟨act, hact, hmail⟩
  rcases h act hact with ⟨p', ret, hcallback⟩
  simp only [callbackActs, List.mem_cons, List.not_mem_nil, or_false] at hcallback
  rcases hcallback with rfl | rfl | rfl
  · cases hmail
  · cases hmail
  · cases hmail

theorem OnlyCallback.sound {acts : List (QueueAct ι)} (h : OnlyCallback acts)
    {info : PublishInfo} {res : Option Nat} (hmem : .callbackReceive info res ∈ acts) :
    info.Sound := by
  rcases h _ hmem with ⟨p, ret, hcallback⟩
  simp only [callbackActs, List.mem_cons, List.not_mem_nil, or_false, reduceCtorEq] at hcallback
  cases hcallback
  exact barePublish_sound 0

/-- Every publish of the run is one in memory. -/
theorem overwritingActs_sound {acts : List (QueueAct ι)} (h : OnlyCallback acts) {i : ι} {p : Nat}
    {info : PublishInfo} {res : Option Nat}
    (hmem : .callbackReceive info res ∈ overwritingActs i p acts) : info.Sound := by
  simp only [overwritingActs, callbackActs, List.mem_append, List.mem_cons, List.not_mem_nil,
    or_false, false_or, reduceCtorEq, QueueAct.callbackReceive.injEq] at hmem
  rcases hmem with ⟨rfl, -⟩ | hmem | ⟨rfl, -⟩
  · exact barePublish_sound 0
  · exact h.sound hmem
  · exact barePublish_sound 1

theorem mail_overwritingActs (i : ι) (p : Nat) (acts : List (QueueAct ι)) :
    (overwritingActs i p acts).filterMap QueueAct.mail =
      [.obtain (barePublish 0) (some p), .post, .take i (some p)] ++
        (acts.filterMap QueueAct.mail ++ [.obtain (barePublish 1) (some p)]) := by
  unfold overwritingActs
  rw [List.filterMap_append, List.filterMap_cons_some (by rfl), List.filterMap_append]
  rfl

/-- With memory for a new buffer there is a buffer. -/
theorem enqueueBuffer_some (bytes : Memory) (required : Nat) (item : QueueItem) :
    ∃ block, (enqueueBuffer (some bytes) required item).topicPayloadBuffer = some block := by
  rw [enqueueBuffer_eq]
  split
  case isTrue hkept => exact Option.isSome_iff_exists.mp hkept.1
  case isFalse => exact ⟨_, rfl⟩

/-- With memory for a new buffer the callback always copies its publish. -/
theorem enqueueFill_ok (bytes : Memory) (info : PublishInfo) (item : QueueItem) :
    ∃ item', enqueueFill (some bytes) info item = .ok item' ∧
      item'.publishInfo.qos = info.qos := by
  rcases enqueueBuffer_some bytes (u64 (info.topicNameLength + 1 + info.payloadLength + 1))
    { item with publishInfo := info } with ⟨block, hblock⟩
  have hpublish := enqueueBuffer_publishInfo (some bytes)
    (u64 (info.topicNameLength + 1 + info.payloadLength + 1)) { item with publishInfo := info }
  simp only [enqueueFill]
  rw [hblock]
  exact ⟨_, rfl, by simp only [hpublish]⟩

/-- A queue from which the first `k` items were taken. -/
def takenFrom (q : SyncQueue) (k : Nat) : SyncQueue :=
  { q with itemsInQueue := q.itemsInQueue - k, dequeueIndex := k }

/-- The next item is the one in the next slot. -/
theorem receiveNow_takenFrom {q : SyncQueue} {k : Nat} (hk : k < q.itemsInQueue) :
    receiveNow (takenFrom q k) =
      (syncQueueReceiveBody (takenFrom q k), some (slot q k)) := by
  have hnonempty : ¬ (takenFrom q k).itemsInQueue = 0 := by
    simp only [takenFrom]
    omega
  unfold receiveNow
  rw [if_neg hnonempty]
  rfl

theorem receiveBody_takenFrom {q : SyncQueue} {k : Nat} (hn : q.numberOfQueueItems < 2 ^ 32)
    (hitems : q.itemsInQueue = q.numberOfQueueItems) (hk : k + 1 < q.itemsInQueue) :
    syncQueueReceiveBody (takenFrom q k) = takenFrom q (k + 1) := by
  have hpos : 0 < q.itemsInQueue - k := by omega
  have hindex : u32 (k + 1) % q.numberOfQueueItems = k + 1 := by
    rw [u32_of_lt _ (by omega), Nat.mod_eq_of_lt (by omega)]
  simp only [syncQueueReceiveBody, takenFrom, u32Pred_of_pos _ hpos, hindex, Nat.sub_sub]

end Overwriting

section Condition

variable {ι : Type*} [DecidableEq ι] {n : Nat}

/-- The callback is idle and has taken the first `k` items of the free queue. -/
structure Ahead (free : SyncQueue) (k : Nat) (incomming : SyncQueue) (st : QueueState ι) :
    Prop where
  idle : st.callback = .idle
  free : st.context.pFreePublishMessageQueue = some (takenFrom free k)
  incomming : st.context.pIncommingPublishQueue = some incomming

theorem ahead_receive {free incomming : SyncQueue} {k : Nat} {st : QueueState ι}
    (h : Ahead free k incomming st) (hk : k < free.itemsInQueue) (info : PublishInfo) :
    queueStep st (.callbackReceive info (some (ofLe (slot free k)))) =
      some { st with
        context := { st.context with
          pFreePublishMessageQueue := some (syncQueueReceiveBody (takenFrom free k)) }
        callback := .filling (ofLe (slot free k)) info } := by
  simp only [queueStep, h.idle, h.free, receiveNow_takenFrom hk]
  exact if_pos rfl

/-- The item the callback has shows the new publish now. -/
theorem filling_step {st : QueueState ι} {p : Nat} {info : PublishInfo}
    (h : st.callback = .filling p info) :
    ∃ item, queueStep st (.callbackFill (some (fun _ => 0))) =
      some { st with
        context := { st.context with items := Function.update st.context.items p item }
        callback := .sending p } ∧ item.publishInfo.qos = info.qos := by
  rcases enqueueFill_ok (fun _ => 0) info (st.context.items p) with ⟨item, hitem, hqos⟩
  refine ⟨item, ?_, hqos⟩
  simp only [queueStep, h, hitem]

theorem sending_step {st : QueueState ι} {p : Nat} {incomming : SyncQueue}
    (h : st.callback = .sending p)
    (hincomming : st.context.pIncommingPublishQueue = some incomming) :
    queueStep st (.callbackSend (sendNow (le64 p) incomming).2) =
      some { st with
        context := { st.context with
          pIncommingPublishQueue := some (sendNow (le64 p) incomming).1 }
        callback := .idle } := by
  simp only [queueStep, h, hincomming, if_true]

/-- The next free item shows the publish it is taken for. -/
theorem ahead_fill {free incomming : SyncQueue} {k : Nat} {st : QueueState ι}
    (h : Ahead free k incomming st) (hk : k < free.itemsInQueue) (info : PublishInfo)
    (context : UserContext) :
    ∃ st', (publishQueue ι context).runFrom st
        [.callbackReceive info (some (ofLe (slot free k))), .callbackFill (some (fun _ => 0))] =
          some st' ∧
      (st'.context.items (ofLe (slot free k))).publishInfo.qos = info.qos := by
  have hreceive := ahead_receive h hk info
  generalize ofLe (slot free k) = p at hreceive ⊢
  have hfilling : ({ st with
      context := { st.context with
        pFreePublishMessageQueue := some (syncQueueReceiveBody (takenFrom free k)) }
      callback := .filling p info } : QueueState ι).callback = .filling p info := rfl
  rcases filling_step hfilling with ⟨item, hfill, hqos⟩
  have hrun : (publishQueue ι context).runFrom st
      [.callbackReceive info (some p), .callbackFill (some (fun _ => 0))] = some _ :=
    (System.runFrom_of_step _ hreceive _).trans ((System.runFrom_of_step _ hfill _).trans
      (System.runFrom_nil _ _))
  refine ⟨_, hrun, ?_⟩
  simp only [Function.update_self]
  exact hqos

/-- One more publish, with the next free item. -/
theorem ahead_round {free incomming : SyncQueue} {k : Nat} {st : QueueState ι}
    (h : Ahead free k incomming st) (hn : free.numberOfQueueItems < 2 ^ 32)
    (hitems : free.itemsInQueue = free.numberOfQueueItems) (hk : k + 1 < free.itemsInQueue)
    (info : PublishInfo) (context : UserContext) :
    ∃ st', (publishQueue ι context).runFrom st
        (callbackActs info (ofLe (slot free k)) (sendNow (le64 (ofLe (slot free k))) incomming).2) =
          some st' ∧
      Ahead free (k + 1) (sendNow (le64 (ofLe (slot free k))) incomming).1 st' := by
  have hreceive := ahead_receive h (by omega) info
  rw [receiveBody_takenFrom hn hitems hk] at hreceive
  generalize ofLe (slot free k) = p at hreceive ⊢
  have hfilling : ({ st with
      context := { st.context with pFreePublishMessageQueue := some (takenFrom free (k + 1)) }
      callback := .filling p info } : QueueState ι).callback = .filling p info := rfl
  rcases filling_step hfilling with ⟨item, hfill, -⟩
  have hsending : ({ st with
      context := { st.context with
        pFreePublishMessageQueue := some (takenFrom free (k + 1))
        items := Function.update st.context.items p item }
      callback := .sending p } : QueueState ι).callback = .sending p := rfl
  have hsend := sending_step hsending h.incomming
  have hrun : (publishQueue ι context).runFrom st
      (callbackActs info p (sendNow (le64 p) incomming).2) = some _ :=
    (System.runFrom_of_step _ hreceive _).trans ((System.runFrom_of_step _ hfill _).trans
      ((System.runFrom_of_step _ hsend _).trans (System.runFrom_nil _ _)))
  exact ⟨_, hrun, rfl, rfl, rfl⟩

/-- As many publishes as there are free items but one. -/
theorem ahead_rounds {free incomming : SyncQueue} {st : QueueState ι}
    (hn : free.numberOfQueueItems < 2 ^ 32)
    (hitems : free.itemsInQueue = free.numberOfQueueItems) (context : UserContext) {k : Nat}
    (h : Ahead free k incomming st) (j : Nat) (hk : k + j < free.itemsInQueue) :
    ∃ acts incomming' st', (publishQueue ι context).runFrom st acts = some st' ∧
      Ahead free (k + j) incomming' st' ∧ OnlyCallback acts := by
  induction j with
  | zero => exact ⟨[], incomming, st, rfl, h, fun _ hact => absurd hact List.not_mem_nil⟩
  | succ j ih =>
      rcases ih (by omega) with ⟨acts, incomming', st1, hrun, hahead, honly⟩
      rcases ahead_round hahead hn hitems (by omega) (barePublish 0) context with
        ⟨st', hround, hahead'⟩
      have hrun' := System.runFrom_append (publishQueue ι context) st acts
        (callbackActs (barePublish 0) (ofLe (slot free (k + j)))
          (sendNow (le64 (ofLe (slot free (k + j)))) incomming').2)
      rw [hrun, Option.bind_some, hround] at hrun'
      refine ⟨_, _, st', hrun', hahead', fun act hact => ?_⟩
      rcases List.mem_append.mp hact with hact | hact
      · exact honly act hact
      · exact ⟨_, _, hact⟩

/-- What was posted first comes out first, in a new queue of any size. -/
theorem receiveNow_first (heap : Memory) (hn : 1 ≤ n) (hn32 : n < 2 ^ 32) {p : Nat}
    (hp : p < 2 ^ 64) :
    (sendNow (le64 p) (pointerQueue heap n)).2 = true ∧
      pointerOf (receiveNow (sendNow (le64 p) (pointerQueue heap n)).1).2 = some p := by
  have hroom : ¬ (pointerQueue heap n).itemsInQueue =
      (pointerQueue heap n).numberOfQueueItems := by
    simp only [pointerQueue]
    omega
  unfold sendNow
  rw [if_neg hroom]
  refine ⟨rfl, ?_⟩
  -- the first slot begins at offset zero, whatever the number of items
  have hslot : slot (syncQueueSendBody (le64 p) (pointerQueue heap n)) 0 = le64 p := by
    have hread := slice_copy_self heap 0 (le64 p)
    rw [length_le64] at hread
    have htake : (le64 p).take 8 = le64 p := List.take_of_length_le (length_le64 p).le
    refine Eq.trans ?_ hread
    simp only [slot, slotOffset, syncQueueSendBody, pointerQueue, sizeofPointer, Nat.zero_mul,
      htake]
    rfl
  have hone : ¬ (syncQueueSendBody (le64 p) (pointerQueue heap n)).itemsInQueue = 0 := by
    intro hzero
    cases hzero
  unfold receiveNow
  rw [if_neg hone]
  refine (congrArg (fun bytes => some (ofLe bytes)) hslot).trans ?_
  rw [ofLe_le64 p hp]

theorem takenFrom_zero {q : SyncQueue} (h : q.dequeueIndex = 0) : takenFrom q 0 = q := by
  unfold takenFrom
  rw [Nat.sub_zero, ← h]

/-- A thread takes an item. -/
theorem ahead_dequeue {free incomming : SyncQueue} {k p : Nat} {st : QueueState ι}
    (h : Ahead free k incomming st) (hres : pointerOf (receiveNow incomming).2 = some p) (i : ι) :
    ∃ st', queueStep st (.dequeue i (some p)) = some st' ∧
      Ahead free k (receiveNow incomming).1 st' := by
  have hstep : queueStep st (.dequeue i (some p)) =
      some { st with
        context := { st.context with pIncommingPublishQueue := some (receiveNow incomming).1 }
        held := { thread := i, pQueueItem := p, cleared := false } :: st.held } := by
    simp only [queueStep, h.incomming]
    exact if_pos hres
  exact ⟨_, hstep, h.idle, h.free, rfl⟩

/-- With more than `2 ^ 29` items the callback comes to the item a thread has. -/
theorem overwriting_run (heap1 heap2 : Memory) (base : Nat) (hwraps : 2 ^ 29 < n)
    (hn32 : n < 2 ^ 32) (i : ι) :
    ∃ p acts st,
      (publishQueue ι (madeContext heap1 heap2 base n)).run (overwritingActs i p acts) = some st ∧
      OnlyCallback acts ∧ (st.context.items p).publishInfo.qos = 1 := by
  rcases sendItems_counters base heap2 n hn32 n (Nat.le_refl n) with
    ⟨hitems, hhead, hcount, hsize⟩
  have hstart : Ahead (sendItems base (pointerQueue heap2 n) n) 0 (pointerQueue heap1 n)
      (publishQueue ι (madeContext heap1 heap2 base n)).init :=
    ⟨rfl, congrArg some (takenFrom_zero hhead).symm, rfl⟩
  generalize sendItems base (pointerQueue heap2 n) n = free at hitems hhead hcount hsize hstart
  have hslots := slot_wraps hsize
  have hp : ofLe (slot free 0) < 2 ^ 64 := by
    have hlt := ofLe_lt (slot free 0)
    have hlength : (slot free 0).length = 8 := by
      unfold slot
      rw [length_slice, hsize]
      rfl
    rw [hlength] at hlt
    omega
  rcases ahead_round hstart (by omega) (by omega) (by omega) (barePublish 0)
    (madeContext heap1 heap2 base n) with ⟨st1, hrun1, hahead1⟩
  rcases receiveNow_first heap1 (by omega) hn32 hp with ⟨htrue, hfirst⟩
  rw [htrue] at hrun1
  rcases ahead_dequeue hahead1 hfirst i with ⟨st2, hdequeue, hahead2⟩
  rcases ahead_rounds (by omega) (by omega) (madeContext heap1 heap2 base n) hahead2 (2 ^ 29 - 1)
    (by omega) with ⟨acts, incomming, st3, hrun3, hahead3, honly⟩
  -- the free queue is at the slot that is the first one once more
  have hindex : 1 + (2 ^ 29 - 1) = 2 ^ 29 := by omega
  rw [hindex] at hahead3
  rcases ahead_fill hahead3 (by omega) (barePublish 1) (madeContext heap1 heap2 base n) with
    ⟨st', hlast, hqos⟩
  rw [hslots] at hlast hqos
  have hrun : (publishQueue ι (madeContext heap1 heap2 base n)).run
      (overwritingActs i (ofLe (slot free 0)) acts) = some st' := by
    unfold overwritingActs
    rw [System.run_append]
    refine (congrArg (fun o => Option.bind o _) hrun1).trans ?_
    rw [Option.bind_some, System.runFrom_of_step _ hdequeue, System.runFrom_append, hrun3,
      Option.bind_some]
    exact hlast
  exact ⟨_, acts, st', hrun, honly, hqos⟩

/-- With more items a thread does not keep what it has. -/
theorem not_delivers (heap1 heap2 : Memory) (base : Nat) (hwraps : 2 ^ 29 < n) (hn32 : n < 2 ^ 32)
    (i : ι) : ¬ Delivers ι n (madeContext heap1 heap2 base n) := by
  intro hdelivers
  rcases overwriting_run heap1 heap2 base hwraps hn32 i with ⟨p, acts, st, hrun, honly, hqos⟩
  rcases hdelivers _ st (fun info res hmem => overwritingActs_sound honly hmem) hrun with
    ⟨box, hbox⟩
  have haccepted := hbox.accepted
  rw [mail_overwritingActs, System.run_append] at haccepted
  have hfirst : (mailbox ι Nat PublishInfo n).run
      [.obtain (barePublish 0) (some p), .post, .take i (some p)] =
        some ⟨n - 1, none, [], [(i, p, barePublish 0)]⟩ := by
    have hobtain : (mailbox ι Nat PublishInfo n).step ⟨n, none, [], []⟩
        (.obtain (barePublish 0) (some p)) =
          some ⟨n - 1, some (p, barePublish 0), [], []⟩ := if_pos ⟨rfl, show 0 < n by omega⟩
    refine (System.runFrom_of_step _ hobtain _).trans ?_
    simp [mailbox, Mailbox.step]
  rw [hfirst, Option.bind_some] at haccepted
  have hnot : .finish i p ∉ acts.filterMap QueueAct.mail ++
      [Mailbox.Act.obtain (barePublish 1) (some p)] := by
    intro hmem
    rcases List.mem_append.mp hmem with hmem | hmem
    · exact honly.finish_not_mem i p hmem
    · cases List.mem_singleton.mp hmem
  -- the thread has had the first publish since then
  have hout := mem_out_runFrom (List.mem_singleton_self (i, p, barePublish 0)) hnot haccepted
  have hshown := (hbox.shown _ hout).qos
  simp only [hqos, barePublish] at hshown
  cases hshown

/-- A context made with every allocation successful delivers its publishes
    exactly up to `2 ^ 29` items. -/
theorem publishQueue_delivers_iff [Nonempty ι] (heap1 heap2 : Memory) (base : Nat) (hn : 1 ≤ n)
    (hn32 : n < 2 ^ 32) (hbase : base + n * sizeofQueueItem ≤ 2 ^ 64) (context : UserContext)
    (hcreate : createUserContext ⟨true, true, ⟨true, some heap1⟩, ⟨true, some heap2⟩, some base⟩ n =
      .ok (some context)) :
    Delivers ι n context ↔ n ≤ 2 ^ 29 := by
  rw [createUserContext_eq heap1 heap2 base n hn hn32, Except.ok.injEq, Option.some.injEq]
    at hcreate
  subst hcreate
  constructor
  · intro hdelivers
    by_contra hwraps
    rcases ‹Nonempty ι› with ⟨i⟩
    exact not_delivers heap1 heap2 base (by omega) hn32 i hdelivers
  · intro hfits
    exact delivers_of_le hn hfits hbase

theorem publishQueue_delivers_iff_two :
    ∃ context, createUserContext ⟨true, true, ⟨true, some (fun _ => 0)⟩,
        ⟨true, some (fun _ => 0)⟩, some 4096⟩ 2 = .ok (some context) ∧
      (Delivers (Fin 2) 2 context ↔ 2 ≤ 2 ^ 29) :=
  ⟨_, rfl, publishQueue_delivers_iff (fun _ => 0) (fun _ => 0) 4096 (by decide) (by decide)
    (by decide) _ rfl⟩

/-- With one item more than fits a thread that keeps its item loses what is in
    it. -/
theorem publishQueue_overwritten :
    ∃ context, createUserContext ⟨true, true, ⟨true, some (fun _ => 0)⟩,
        ⟨true, some (fun _ => 0)⟩, some 4096⟩ (2 ^ 29 + 1) = .ok (some context) ∧
      ¬ Delivers (Fin 1) (2 ^ 29 + 1) context :=
  ⟨_, createUserContext_eq (fun _ => 0) (fun _ => 0) 4096 (2 ^ 29 + 1) (by omega) (by norm_num),
    not_delivers (fun _ => 0) (fun _ => 0) 4096 (by omega) (by norm_num) 0⟩

end Condition

end MqttAgent

end ProvisioningSdk
