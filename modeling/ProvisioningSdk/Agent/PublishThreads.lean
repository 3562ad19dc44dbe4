import ProvisioningSdk.Agent.ContextTeardown
import ProvisioningSdk.Agent.IncomingPublishes
import ProvisioningSdk.Lib.Programs
import ProvisioningSdk.Platform.PalQueueThreads

/-!
# Incoming Publishes on the Threads of the Platform

The system of `Agent.IncomingPublishes`, with the two queues of each user context
as `pal_queue.c` has them: mutexes and condition variables, in which the agent
thread and the application threads get into each other's way.

`incoming` takes a send or a receive for one step. Here they are calls of a queue
(`publishProgram`). The threads share the subscription list and the items, and an
item is read and written by the one thread that has it. Which items a thread has
are its own variables, and so are the publish that the agent thread hands out and
the calls that are still to come.

Every execution of the one is an execution of the other (`publishes_overQueues`).
So the publishes are routed on the real queues as they are in the model.

## Main definitions

* `publishProgram`: The threads, as a program over queues.
* `StandsFor`: The state of `incoming` that is meant.

## Theorems

* `standsFor_step`: A step is one of `incoming`, or is not seen there.
* `publishes_overQueues`: Executions over the platform.
-/

namespace ProvisioningSdk

namespace MqttAgent

open Bytes IotshdPal Transition SubscriptionManager SharedObjects Linearize

variable {K ι App X : Type*}

/-! ### The threads -/

/-- What the threads share. -/
structure PublishShared (K App X : Type*) where
  xGlobalSubscriptionList : SubscriptionList (IncomingCallback App) (CallbackContext K X)
  items : K → Nat → QueueItem

/-- Where the agent thread is in `mqttAgentEnqueuePublishCallback`. -/
inductive EnqueuePc (K : Type*)
  | idle
  | filling (pUserContext : K) (pQueueItem : Nat) (pPublishInfo : PublishInfo)
  | sending (pUserContext : K) (pQueueItem : Nat)

/-- Where an application thread is. -/
inductive TakePc (K : Type*)
  | idle
  /-- In `DequeueIncommingPublish`. -/
  | dequeuing (pUserContext : K)
  /-- In `FreeIncommingPublish`, behind the `memset`. -/
  | freeing (pUserContext : K) (pQueueItem : Nat)

/-- An item that a thread has, of this context. `cleared` is set behind the
    `memset`. -/
structure Taken (K : Type*) where
  pUserContext : K
  pQueueItem : Nat
  cleared : Bool
  deriving DecidableEq

/-- The variables of a thread. `answers` is what the thread was given so far, and
    known to the model only. -/
inductive PublishVars (K App X : Type*)
  | agent (pxPublishInfo : PublishInfo) (calls : List (Call K App X)) (pc : EnqueuePc K)
  | application (pc : TakePc K) (held : List (Taken K)) (answers : List (K × Option Nat))

/-- The steps between the calls of a queue. -/
inductive PublishStep (K App X : Type*)
  | list (change : ListChange K App X) (res : Option Bool)
  | publish (pxPublishInfo : PublishInfo) (xPublishHandled : Bool)
  | application (callback : App) (context : Option X)
  | fill (malloc : Option Memory)
  /-- `DequeueIncommingPublish` is called. -/
  | dequeue (pUserContext : K)
  /-- `FreeIncommingPublish` is called. -/
  | free (pUserContext : K) (pQueueItem : Nat) (freeBuffer : Bool)

section Program

variable [DecidableEq K] [DecidableEq App] [DecidableEq X] (matchTopic : MatchTopic)
  (capacity : Nat)

/-- A step of the agent thread. -/
def agentThreadStep (s : PublishShared K App X) (info : PublishInfo)
    (calls : List (Call K App X)) : EnqueuePc K → PublishStep K App X →
      Option (PublishShared K App X × PublishVars K App X)
  | .idle, .list change res =>
      if calls.isEmpty = true ∧ (change.call.run capacity s.xGlobalSubscriptionList).2 = res then
        some ({ s with
          xGlobalSubscriptionList := (change.call.run capacity s.xGlobalSubscriptionList).1 },
          .agent info calls .idle)
      else none
  | .idle, .publish next handled =>
      if calls.isEmpty = true ∧ (handleIncomingPublishes matchTopic capacity
          s.xGlobalSubscriptionList next.topic).2 = handled then
        some (s, .agent next (handleIncomingPublishes matchTopic capacity
          s.xGlobalSubscriptionList next.topic).1 .idle)
      else none
  | .idle, .application callback context => match calls with
      | call :: rest =>
          if call = applicationCall callback context then some (s, .agent info rest .idle) else none
      | [] => none
  | .filling k p published, .fill malloc =>
      match enqueueFill malloc published (s.items k p) with
      | .ok item =>
          some ({ s with
            items := Function.update s.items k (Function.update (s.items k) p item) },
            .agent info calls (.sending k p))
      | .error _ => none
  | _, _ => none

/-- A step of an application thread. -/
def takerStep (s : PublishShared K App X) (held : List (Taken K))
    (answers : List (K × Option Nat)) : TakePc K → PublishStep K App X →
      Option (PublishShared K App X × PublishVars K App X)
  | .idle, .dequeue k => some (s, .application (.dequeuing k) held answers)
  | .idle, .free k p freeBuffer =>
      if ⟨k, p, false⟩ ∈ held then
        some ({ s with
          items := Function.update s.items k
            (Function.update (s.items k) p (freeClear freeBuffer (s.items k p))) },
          .application (.freeing k p) (⟨k, p, true⟩ :: held.erase ⟨k, p, false⟩) answers)
      else none
  | _, _ => none

/-- The context of a call of `mqttAgentEnqueuePublishCallback`. -/
def Call.enqueues : Call K App X → Option K
  | (some .mqttAgentEnqueuePublishCallback, some (.userContext k)) => some k
  | _ => none

/-- The bytes of a pointer. -/
def pointerItem (p : Nat) : Item sizeofPointer := ⟨le64 p, length_le64 p⟩

/-- The agent thread, and the application threads, on these contexts. -/
def publishProgram (ι : Type*) (contexts : K → UserContext) :
    Program (Option ι) (fun _ : K × ContextQueue => QueueOp sizeofPointer) (fun _ => QueueRes)
      (PublishShared K App X) (PublishVars K App X) (PublishStep K App X) where
  shared :=
    { xGlobalSubscriptionList := fun _ => zeroElement
      items := fun k => (contexts k).items }
  start := fun
    | some _ => .application .idle [] []
    | none => .agent zeroPublishInfo [] .idle
  own := fun
    | some _, step, s, .application pc held answers => takerStep s held answers pc step
    | none, step, s, .agent info calls pc =>
        agentThreadStep matchTopic capacity s info calls pc step
    | _, _, _, _ => none
  next := fun
    | none, .agent _ (call :: _) .idle => call.enqueues.map (fun k => ⟨(k, .free), .receive⟩)
    | none, .agent _ _ (.sending k p) => some ⟨(k, .incomming), .send (pointerItem p)⟩
    | some _, .application (.dequeuing k) _ _ => some ⟨(k, .incomming), .receive⟩
    | some _, .application (.freeing k p) _ _ => some ⟨(k, .free), .send (pointerItem p)⟩
    | _, _ => none
  resume := fun _ vars kq _ res => match vars, res with
    | .agent info calls .idle, .received item =>
        .agent info calls.tail (item.elim .idle (fun bytes => .filling kq.1 (ofLe bytes) info))
    | .agent info calls (.sending _ _), _ => .agent info calls .idle
    | .application (.dequeuing k) held answers, .received item =>
        .application .idle (item.elim held (fun bytes => ⟨k, ofLe bytes, false⟩ :: held))
          (answers ++ [(k, item.map ofLe)])
    | .application (.freeing k p) held answers, _ =>
        .application .idle (held.erase ⟨k, p, true⟩) answers
    | vars, _ => vars

end Program

/-! ### The state that is meant -/

/-- A context with these items and queues. -/
def contextWith (context : UserContext) (items : Nat → QueueItem)
    (queues : ContextQueue → SyncQueue) : UserContext :=
  { context with
    pIncommingPublishQueue := some (queues .incomming)
    pFreePublishMessageQueue := some (queues .free)
    items := items }

/-- The context whose callback runs. -/
def EnqueuePc.context : EnqueuePc K → Option K
  | .idle => none
  | .filling k _ _ => some k
  | .sending k _ => some k

/-- Where the callback of one context is. -/
def EnqueuePc.at [DecidableEq K] (k : K) : EnqueuePc K → CallbackPc
  | .idle => .idle
  | .filling k' p info => if k' = k then .filling p info else .idle
  | .sending k' p => if k' = k then .sending p else .idle

/-- What a thread was given so far. -/
def PublishVars.answers : PublishVars K App X → List (K × Option Nat)
  | .agent _ _ _ => []
  | .application _ _ answers => answers

/-- A thread has the same items as in the contexts. -/
def Holding [DecidableEq K] [DecidableEq ι] (contexts : K → QueueState ι) (i : ι)
    (held : List (Taken K)) : Prop :=
  ∀ k p cleared, (contexts k).held.count ⟨i, p, cleared⟩ = held.count ⟨k, p, cleared⟩

/-- The threads with their queues. -/
abbrev PublishThreads (K ι App X : Type*) :=
  Settled (Option ι) (PublishShared K App X) (PublishVars K App X)
    (fun _ : K × ContextQueue => SyncQueue)

/-- The application thread `i` has the items that the contexts say. -/
def HasItems [DecidableEq K] [DecidableEq ι] (contexts : K → QueueState ι) (i : ι)
    (vars : PublishVars K App X) : Prop :=
  ∃ pc held answers, vars = .application pc held answers ∧ Holding contexts i held ∧
    ∀ k p, pc = .freeing k p → ⟨k, p, true⟩ ∈ held

/-- The state that is meant. -/
structure StandsFor [DecidableEq K] [DecidableEq ι] (contexts : K → UserContext)
    (s : PublishThreads K ι App X) (t : IncomingState K ι App X) : Prop where
  list : t.xGlobalSubscriptionList = s.shared.xGlobalSubscriptionList
  agent : ∃ pc, s.locals none = .agent t.pxPublishInfo t.calls pc ∧ t.enqueuing = pc.context ∧
    ∀ k, (t.contexts k).callback = pc.at k
  contexts : ∀ k, (t.contexts k).context = contextWith (contexts k) (s.shared.items k)
    (fun which => s.objects (k, which))
  threads : ∀ i, HasItems t.contexts i (s.locals (some i))

/-- What is seen of a step from outside: the list, the publishes, and the callbacks
    of the application. -/
inductive Observed (K App X : Type*)
  | list (change : ListChange K App X) (res : Option Bool)
  | publish (pxPublishInfo : PublishInfo) (xPublishHandled : Bool)
  | application (callback : App) (context : Option X)

/-- What is seen of a step of the threads. -/
def PublishStep.observed : PublishStep K App X → Option (Observed K App X)
  | .list change res => some (.list change res)
  | .publish info handled => some (.publish info handled)
  | .application callback context => some (.application callback context)
  | _ => none

/-- What is seen of a step of the model. -/
def IncomingAct.observed : IncomingAct K ι App X → Option (Observed K App X)
  | .list change res => some (.list change res)
  | .publish info handled => some (.publish info handled)
  | .application callback context _ => some (.application callback context)
  | .queue _ _ => none

/-- What `DequeueIncommingPublish` gives this thread. -/
def IncomingAct.answer [DecidableEq ι] (i : ι) : IncomingAct K ι App X → Option (K × Option Nat)
  | .queue k (.dequeue i' res) => if i' = i then some (k, res) else none
  | _ => none

/-! ### The items that the threads have -/

section Holding

variable [DecidableEq K] [DecidableEq ι] {contexts : K → QueueState ι} {i : ι}
  {held held' : List (Taken K)} {k : K} {st : QueueState ι}

/-- One context has changed. -/
theorem Holding.update (h : Holding contexts i held)
    (hself : ∀ p cleared, st.held.count ⟨i, p, cleared⟩ = held'.count ⟨k, p, cleared⟩)
    (hother : ∀ k', k' ≠ k → ∀ p cleared,
      held'.count ⟨k', p, cleared⟩ = held.count ⟨k', p, cleared⟩) :
    Holding (Function.update contexts k st) i held' := by
  intro k' p cleared
  by_cases hk : k' = k
  · rw [hk, Function.update_self]
    exact hself p cleared
  · rw [Function.update_of_ne hk, hother k' hk]
    exact h k' p cleared

/-- The items stay with the threads. -/
theorem Holding.same (h : Holding contexts i held) (hst : st.held = (contexts k).held) :
    Holding (Function.update contexts k st) i held :=
  h.update (fun p cleared => by rw [hst, h k p cleared]) (fun _ _ _ _ => rfl)

/-- A thread gets an item. -/
theorem Holding.take (h : Holding contexts i held) {p : Nat} {cleared : Bool}
    (hst : st.held = ⟨i, p, cleared⟩ :: (contexts k).held) :
    Holding (Function.update contexts k st) i (⟨k, p, cleared⟩ :: held) := by
  refine h.update (fun p' c => ?_) (fun k' hk p' c => ?_)
  · simp only [hst, List.count_cons, h k p' c, beq_iff_eq, Hold.mk.injEq, Taken.mk.injEq, true_and]
  · rw [List.count_cons_of_ne (fun heq => hk (congrArg Taken.pUserContext heq).symm)]

/-- A thread gives one away. -/
theorem Holding.drop (h : Holding contexts i held) {p : Nat} {cleared : Bool}
    (hst : st.held = (contexts k).held.erase ⟨i, p, cleared⟩) :
    Holding (Function.update contexts k st) i (held.erase ⟨k, p, cleared⟩) := by
  refine h.update (fun p' c => ?_) (fun k' hk p' c => ?_)
  · simp only [hst, List.count_erase, h k p' c, beq_iff_eq, Hold.mk.injEq, Taken.mk.injEq, true_and]
  · rw [List.count_erase_of_ne (fun heq => hk (congrArg Taken.pUserContext heq))]

/-- A thread clears an item that it has. -/
theorem Holding.clear (h : Holding contexts i held) {p : Nat}
    (hst : st.held = ⟨i, p, true⟩ :: (contexts k).held.erase ⟨i, p, false⟩) :
    Holding (Function.update contexts k st) i (⟨k, p, true⟩ :: held.erase ⟨k, p, false⟩) := by
  refine h.update (fun p' c => ?_) (fun k' hk p' c => ?_)
  · simp only [hst, List.count_cons, List.count_erase, h k p' c, beq_iff_eq, Hold.mk.injEq,
      Taken.mk.injEq, true_and]
  · rw [List.count_cons_of_ne (fun heq => hk (congrArg Taken.pUserContext heq).symm),
      List.count_erase_of_ne (fun heq => hk (congrArg Taken.pUserContext heq))]

/-- What another thread gets or gives away is not seen. -/
theorem Holding.other {j : ι} (h : Holding contexts i held) (hj : i ≠ j)
    (hst : ∀ hold : Hold ι, hold.thread ≠ j → st.held.count hold = (contexts k).held.count hold) :
    Holding (Function.update contexts k st) i held :=
  h.update (fun p cleared => (hst ⟨i, p, cleared⟩ hj).trans (h k p cleared)) (fun _ _ _ _ => rfl)

omit [DecidableEq ι] in
theorem hold_ne {hold : Hold ι} {j : ι} (h : hold.thread ≠ j) (p : Nat) (cleared : Bool) :
    hold ≠ ⟨j, p, cleared⟩ :=
  fun heq => h (congrArg Hold.thread heq)

/-- An item that the thread has. -/
theorem Holding.mem (h : Holding contexts i held) {p : Nat} {cleared : Bool}
    (hmem : ⟨k, p, cleared⟩ ∈ held) : ⟨i, p, cleared⟩ ∈ (contexts k).held := by
  have hpos := List.count_pos_iff.mpr hmem
  rw [← h k p cleared] at hpos
  exact List.count_pos_iff.mp hpos

end Holding

/-! ### The calls of a queue -/

theorem Call.eq_queueCall {call : Call K App X} {k : K} (h : call.enqueues = some k) :
    call = queueCall k := by
  unfold Call.enqueues at h
  split at h
  · cases h
    rfl
  · cases h

section Calls

variable [DecidableEq K] [DecidableEq ι] [DecidableEq App] [DecidableEq X]
  {matchTopic : MatchTopic} {capacity : Nat} {contexts : K → UserContext}
  {q : K × ContextQueue → SyncQueue} {s s' : PublishThreads K ι App X}

/-- The threads, with sends and receives that are one step. -/
abbrev publishCalls (matchTopic : MatchTopic) (capacity : Nat) (ι : Type*) [DecidableEq ι]
    (contexts : K → UserContext) (q : K × ContextQueue → SyncQueue) :
    System (PublishThreads K ι App X) (CallAct (Option ι) (PublishStep K App X)
      (fun _ : K × ContextQueue => QueueOp sizeofPointer) (fun _ => QueueRes)) :=
  (publishProgram matchTopic capacity ι contexts).atomically
    (fun kq => TimedWait.sequential (syncQueue sizeofPointer) (q kq))

/-- What a call of a queue does. -/
inductive QueueCalls (s : PublishThreads K ι App X) : PublishThreads K ι App X → Prop
  | callbackReceive (info k rest) (h : s.locals none = .agent info (queueCall k :: rest) .idle) :
      QueueCalls s ⟨s.shared, Function.update s.locals none (.agent info rest
          ((pointerOf (receiveNow (s.objects (k, .free))).2).elim .idle
            (fun p => .filling k p info))),
        Function.update s.objects (k, .free) (receiveNow (s.objects (k, .free))).1⟩
  | callbackSend (info calls k p) (h : s.locals none = .agent info calls (.sending k p)) :
      QueueCalls s ⟨s.shared, Function.update s.locals none (.agent info calls .idle),
        Function.update s.objects (k, .incomming)
          (sendNow (le64 p) (s.objects (k, .incomming))).1⟩
  | dequeue (i k held answers)
      (h : s.locals (some i) = .application (.dequeuing k) held answers) :
      QueueCalls s ⟨s.shared, Function.update s.locals (some i) (.application .idle
          ((pointerOf (receiveNow (s.objects (k, .incomming))).2).elim held
            (fun p => ⟨k, p, false⟩ :: held))
          (answers ++ [(k, pointerOf (receiveNow (s.objects (k, .incomming))).2)])),
        Function.update s.objects (k, .incomming) (receiveNow (s.objects (k, .incomming))).1⟩
  | freeSend (i k p held answers)
      (h : s.locals (some i) = .application (.freeing k p) held answers) :
      QueueCalls s ⟨s.shared, Function.update s.locals (some i)
          (.application .idle (held.erase ⟨k, p, true⟩) answers),
        Function.update s.objects (k, .free) (sendNow (le64 p) (s.objects (k, .free))).1⟩

omit [DecidableEq ι] [DecidableEq App] [DecidableEq X] in
theorem elim_map_ofLe {β : Type*} (item : Option (List UInt8)) (b : β) (f : Nat → β) :
    (pointerOf item).elim b f = item.elim b (fun bytes => f (ofLe bytes)) := by
  cases item with
  | none => rfl
  | some bytes => rfl

theorem queueCalls_of_step {t : Option ι} {kq : K × ContextQueue} {op : QueueOp sizeofPointer}
    {res : QueueRes}
    (hstep : (publishCalls matchTopic capacity ι contexts q).step s (.call t kq op res) = some s') :
    QueueCalls s s' := by
  -- the call is the next one of the thread, and the queue has answered it
  have hnext : (publishProgram matchTopic capacity ι contexts).next t (s.locals t) =
      some ⟨kq, op⟩ := by
    by_contra hne
    cases (if_neg hne).symm.trans hstep
  have hcall := (if_pos hnext).symm.trans hstep
  rcases Option.map_eq_some_iff.mp hcall with ⟨o, ho, rfl⟩
  clear hstep hcall
  have hreceive : op = .receive → res = .received (receiveNow (s.objects kq)).2 ∧
      o = (receiveNow (s.objects kq)).1 := by
    intro hop
    rw [hop] at ho
    exact sequential_answer ho (sequential_receive sizeofPointer (q kq) (s.objects kq))
  have hsend : ∀ p, op = .send (pointerItem p) →
      res = .sent (sendNow (le64 p) (s.objects kq)).2 ∧
        o = (sendNow (le64 p) (s.objects kq)).1 := by
    intro p hop
    rw [hop] at ho
    exact sequential_answer ho (sequential_send sizeofPointer (q kq) (s.objects kq) (pointerItem p))
  cases t with
  -- the agent receives an empty structure and sends it filled
  | none =>
      cases hvars : s.locals none with
      | application pc held answers =>
          rw [hvars] at hnext
          cases hnext
      | agent info calls pc =>
          rw [hvars] at hnext
          cases pc with
          | idle =>
              cases calls with
              | nil => cases hnext
              | cons call rest =>
                  rcases Option.map_eq_some_iff.mp hnext with ⟨k, hk, hop⟩
                  cases hop
                  rw [Call.eq_queueCall hk] at hvars
                  rcases hreceive rfl with ⟨rfl, rfl⟩
                  have h := QueueCalls.callbackReceive info k rest hvars
                  rw [elim_map_ofLe] at h
                  exact h
          | filling k p published =>
              cases calls with
              | nil => cases hnext
              | cons call rest => cases hnext
          | sending k p =>
              have hsending : some ⟨(k, .incomming), .send (pointerItem p)⟩ =
                  some (⟨kq, op⟩ : Σ _ : K × ContextQueue, QueueOp sizeofPointer) := by
                cases calls with
                | nil => exact hnext
                | cons call rest => exact hnext
              cases hsending
              rcases hsend p rfl with ⟨rfl, rfl⟩
              exact QueueCalls.callbackSend info calls k p hvars
  -- a thread receives a filled one and sends it back
  | some i =>
      cases hvars : s.locals (some i) with
      | agent info calls pc =>
          rw [hvars] at hnext
          cases hnext
      | application pc held answers =>
          rw [hvars] at hnext
          cases pc with
          | idle => cases hnext
          | dequeuing k =>
              cases hnext
              rcases hreceive rfl with ⟨rfl, rfl⟩
              have h := QueueCalls.dequeue i k held answers hvars
              rw [elim_map_ofLe] at h
              exact h
          | freeing k p =>
              cases hnext
              rcases hsend p rfl with ⟨rfl, rfl⟩
              exact QueueCalls.freeSend i k p held answers hvars

/-- What a step between the calls does. -/
inductive OwnSteps (matchTopic : MatchTopic) (capacity : Nat) (s : PublishThreads K ι App X) :
    PublishStep K App X → PublishThreads K ι App X → Prop
  | list (info change res) (h : s.locals none = .agent info [] .idle)
      (hres : (change.call.run capacity s.shared.xGlobalSubscriptionList).2 = res) :
      OwnSteps matchTopic capacity s (.list change res) ⟨{ s.shared with
          xGlobalSubscriptionList :=
            (change.call.run capacity s.shared.xGlobalSubscriptionList).1 },
        Function.update s.locals none (.agent info [] .idle), s.objects⟩
  | publish (info next handled) (h : s.locals none = .agent info [] .idle)
      (hhandled : (handleIncomingPublishes matchTopic capacity s.shared.xGlobalSubscriptionList
        next.topic).2 = handled) :
      OwnSteps matchTopic capacity s (.publish next handled) ⟨s.shared,
        Function.update s.locals none (.agent next (handleIncomingPublishes matchTopic capacity
          s.shared.xGlobalSubscriptionList next.topic).1 .idle), s.objects⟩
  | application (info callback context rest)
      (h : s.locals none = .agent info (applicationCall callback context :: rest) .idle) :
      OwnSteps matchTopic capacity s (.application callback context) ⟨s.shared,
        Function.update s.locals none (.agent info rest .idle), s.objects⟩
  | fill (info calls k p published malloc item)
      (h : s.locals none = .agent info calls (.filling k p published))
      (hitem : enqueueFill malloc published (s.shared.items k p) = .ok item) :
      OwnSteps matchTopic capacity s (.fill malloc) ⟨{ s.shared with
          items := Function.update s.shared.items k
            (Function.update (s.shared.items k) p item) },
        Function.update s.locals none (.agent info calls (.sending k p)), s.objects⟩
  | dequeue (i k held answers) (h : s.locals (some i) = .application .idle held answers) :
      OwnSteps matchTopic capacity s (.dequeue k) ⟨s.shared,
        Function.update s.locals (some i) (.application (.dequeuing k) held answers), s.objects⟩
  | free (i k p freeBuffer held answers)
      (h : s.locals (some i) = .application .idle held answers) (hmem : ⟨k, p, false⟩ ∈ held) :
      OwnSteps matchTopic capacity s (.free k p freeBuffer) ⟨{ s.shared with
          items := Function.update s.shared.items k (Function.update (s.shared.items k) p
            (freeClear freeBuffer (s.shared.items k p))) },
        Function.update s.locals (some i)
          (.application (.freeing k p) (⟨k, p, true⟩ :: held.erase ⟨k, p, false⟩) answers),
        s.objects⟩

theorem ownSteps_of_agent {info : PublishInfo} {calls : List (Call K App X)} {pc : EnqueuePc K}
    {step : PublishStep K App X} {r : PublishShared K App X × PublishVars K App X}
    (hvars : s.locals none = .agent info calls pc)
    (h : agentThreadStep matchTopic capacity s.shared info calls pc step = some r) :
    OwnSteps matchTopic capacity s step ⟨r.1, Function.update s.locals none r.2, s.objects⟩ := by
  unfold agentThreadStep at h
  -- the cases are the steps of the agent thread's program
  split at h
  case h_1 change res =>
    split at h
    case isTrue hcase =>
      cases h
      rw [List.isEmpty_iff.mp hcase.1] at hvars ⊢
      exact .list info change res hvars hcase.2
    case isFalse => cases h
  case h_2 next handled =>
    split at h
    case isTrue hcase =>
      cases h
      rw [List.isEmpty_iff.mp hcase.1] at hvars
      exact .publish info next handled hvars hcase.2
    case isFalse => cases h
  case h_3 callback context =>
    split at h
    case h_1 call rest =>
      split at h
      case isTrue hcall =>
        cases h
        rw [hcall] at hvars
        exact .application info callback context rest hvars
      case isFalse => cases h
    case h_2 => cases h
  case h_4 k p published malloc =>
    split at h
    case h_1 item hitem =>
      cases h
      exact .fill info calls k p published malloc item hvars hitem
    case h_2 => cases h
  case h_5 => cases h

theorem ownSteps_of_taker {i : ι} {pc : TakePc K} {held : List (Taken K)}
    {answers : List (K × Option Nat)} {step : PublishStep K App X}
    {r : PublishShared K App X × PublishVars K App X}
    (hvars : s.locals (some i) = .application pc held answers)
    (h : takerStep s.shared held answers pc step = some r) :
    OwnSteps matchTopic capacity s step
      ⟨r.1, Function.update s.locals (some i) r.2, s.objects⟩ := by
  unfold takerStep at h
  split at h
  case h_1 k =>
    cases h
    exact .dequeue i k held answers hvars
  case h_2 k p freeBuffer =>
    split at h
    case isTrue hmem =>
      cases h
      exact .free i k p freeBuffer held answers hvars hmem
    case isFalse => cases h
  case h_3 => cases h

theorem ownSteps_of_step {t : Option ι} {step : PublishStep K App X}
    (hstep : (publishCalls matchTopic capacity ι contexts q).step s (.own t step) = some s') :
    OwnSteps matchTopic capacity s step s' := by
  rcases Option.map_eq_some_iff.mp hstep with ⟨r, hr, rfl⟩
  cases t with
  | none =>
      cases hvars : s.locals none with
      | application pc held answers =>
          rw [hvars] at hr
          cases hr
      | agent info calls pc =>
          rw [hvars] at hr
          exact ownSteps_of_agent hvars hr
  | some i =>
      cases hvars : s.locals (some i) with
      | agent info calls pc =>
          rw [hvars] at hr
          cases hr
      | application pc held answers =>
          rw [hvars] at hr
          exact ownSteps_of_taker hvars hr

end Calls

/-! ### One context changes -/

section Frames

variable [DecidableEq K] [DecidableEq ι] {contexts : K → UserContext} {cs : K → QueueState ι}
  {items : K → Nat → QueueItem} {objects : K × ContextQueue → SyncQueue} {k : K}
  {st : QueueState ι} {locals : Option ι → PublishVars K App X}

omit [DecidableEq ι] in
/-- A queue of the context has moved. -/
theorem contexts_queue (h : ∀ k, (cs k).context = contextWith (contexts k) (items k)
      (fun which => objects (k, which))) {which : ContextQueue} {queue : SyncQueue}
    (hst : st.context = contextWith (contexts k) (items k)
      (Function.update (fun which => objects (k, which)) which queue)) (k' : K) :
    (Function.update cs k st k').context = contextWith (contexts k') (items k')
      (fun which' => Function.update objects (k, which) queue (k', which')) := by
  by_cases hk : k' = k
  · subst hk
    rw [Function.update_self, hst]
    refine congrArg _ (funext (fun which' => ?_))
    by_cases hwhich : which' = which
    · rw [hwhich, Function.update_self, Function.update_self]
    · rw [Function.update_of_ne hwhich,
        Function.update_of_ne (fun heq => hwhich (congrArg Prod.snd heq))]
  · rw [Function.update_of_ne hk, h k']
    refine congrArg _ (funext (fun which' => ?_))
    rw [Function.update_of_ne (fun heq => hk (congrArg Prod.fst heq))]

omit [DecidableEq ι] in
/-- An item of the context has changed. -/
theorem contexts_items (h : ∀ k, (cs k).context = contextWith (contexts k) (items k)
      (fun which => objects (k, which))) {items' : Nat → QueueItem}
    (hst : st.context = contextWith (contexts k) items' (fun which => objects (k, which)))
    (k' : K) :
    (Function.update cs k st k').context = contextWith (contexts k')
      (Function.update items k items' k') (fun which => objects (k', which)) := by
  by_cases hk : k' = k
  · subst hk
    rw [Function.update_self, Function.update_self, hst]
  · rw [Function.update_of_ne hk, Function.update_of_ne hk, h k']

omit [DecidableEq ι] in
/-- The callback goes on in this context. -/
theorem callback_moved {pc pc' : EnqueuePc K} (h : ∀ k, (cs k).callback = pc.at k)
    (hself : st.callback = pc'.at k) (hother : ∀ k', k' ≠ k → pc'.at k' = pc.at k') (k' : K) :
    (Function.update cs k st k').callback = pc'.at k' := by
  by_cases hk : k' = k
  · rw [hk, Function.update_self, hself]
  · rw [Function.update_of_ne hk, h k', hother k' hk]

omit [DecidableEq ι] in
/-- It does not go on in any. -/
theorem callback_kept {pc : EnqueuePc K} (h : ∀ k, (cs k).callback = pc.at k)
    (hst : st.callback = (cs k).callback) (k' : K) :
    (Function.update cs k st k').callback = pc.at k' :=
  callback_moved h (hst.trans (h k)) (fun _ _ => rfl) k'

/-- The application threads have not moved. -/
theorem hasItems_kept (h : ∀ i, HasItems cs i (locals (some i))) (hst : st.held = (cs k).held)
    (i : ι) : HasItems (Function.update cs k st) i (locals (some i)) := by
  rcases h i with ⟨pc, held, answers, hvars, hholding, hfreeing⟩
  exact ⟨pc, held, answers, hvars, hholding.same hst, hfreeing⟩

/-- An application thread has moved. -/
theorem hasItems_thread {cs' : K → QueueState ι} {i : ι} {vars : PublishVars K App X}
    (h : ∀ j, HasItems cs j (locals (some j))) (hself : HasItems cs' i vars)
    (hothers : ∀ j held, j ≠ i → Holding cs j held → Holding cs' j held) (j : ι) :
    HasItems cs' j (Function.update locals (some i) vars (some j)) := by
  by_cases hj : j = i
  · rw [hj, Function.update_self]
    exact hself
  · rw [Function.update_of_ne (fun heq => hj (Option.some.inj heq))]
    rcases h j with ⟨pc, held, answers, hvars, hholding, hfreeing⟩
    exact ⟨pc, held, answers, hvars, hothers j held hj hholding, hfreeing⟩

end Frames

/-! ### The steps are those of the model -/

section QueueSteps

variable [DecidableEq ι] {st : QueueState ι} {q : SyncQueue}

theorem queueStep_receive (hidle : st.callback = .idle)
    (hfree : st.context.pFreePublishMessageQueue = some q) (info : PublishInfo) :
    queueStep st (.callbackReceive info (pointerOf (receiveNow q).2)) = some { st with
      context := { st.context with pFreePublishMessageQueue := some (receiveNow q).1 }
      callback := (pointerOf (receiveNow q).2).elim .idle (fun p => .filling p info) } := by
  simp only [queueStep, hidle, hfree, if_true]
  cases pointerOf (receiveNow q).2 with
  | none => rfl
  | some p => rfl

theorem queueStep_fill {p : Nat} {info : PublishInfo} (hfilling : st.callback = .filling p info)
    {malloc : Option Memory} {item : QueueItem}
    (hitem : enqueueFill malloc info (st.context.items p) = .ok item) :
    queueStep st (.callbackFill malloc) = some { st with
      context := { st.context with items := Function.update st.context.items p item }
      callback := .sending p } := by
  simp only [queueStep, hfilling, hitem]

theorem queueStep_send {p : Nat} (hsending : st.callback = .sending p)
    (hincomming : st.context.pIncommingPublishQueue = some q) :
    queueStep st (.callbackSend (sendNow (le64 p) q).2) = some { st with
      context := { st.context with pIncommingPublishQueue := some (sendNow (le64 p) q).1 }
      callback := .idle } := by
  simp only [queueStep, hsending, hincomming, if_true]

theorem queueStep_dequeue (hincomming : st.context.pIncommingPublishQueue = some q) (i : ι) :
    queueStep st (.dequeue i (pointerOf (receiveNow q).2)) = some { st with
      context := { st.context with pIncommingPublishQueue := some (receiveNow q).1 }
      held := (pointerOf (receiveNow q).2).elim st.held (fun p => ⟨i, p, false⟩ :: st.held) } := by
  simp only [queueStep, hincomming, if_true]
  cases pointerOf (receiveNow q).2 with
  | none => rfl
  | some p => rfl

theorem queueStep_giveBack {i : ι} {p : Nat} (hmem : ⟨i, p, true⟩ ∈ st.held)
    (hfree : st.context.pFreePublishMessageQueue = some q) :
    queueStep st (.freeSend i p (sendNow (le64 p) q).2) = some { st with
      context := { st.context with pFreePublishMessageQueue := some (sendNow (le64 p) q).1 }
      held := st.held.erase ⟨i, p, true⟩ } := by
  simp only [queueStep, hfree, hmem, and_self, if_true]

end QueueSteps

section Simulation

variable [DecidableEq K] [DecidableEq ι] [DecidableEq App] [DecidableEq X]
  {matchTopic : MatchTopic} {capacity : Nat} {contexts : K → UserContext}
  {s s' : PublishThreads K ι App X} {t : IncomingState K ι App X}

omit [DecidableEq App] [DecidableEq X] in
/-- The agent thread, as it is meant. -/
theorem StandsFor.agent_eq (h : StandsFor contexts s t) {info : PublishInfo}
    {calls : List (Call K App X)} {pc : EnqueuePc K}
    (hvars : s.locals none = .agent info calls pc) :
    t.pxPublishInfo = info ∧ t.calls = calls ∧ t.enqueuing = pc.context ∧
      ∀ k, (t.contexts k).callback = pc.at k := by
  rcases h.agent with ⟨pc', hvars', henqueuing, hcallback⟩
  rw [hvars] at hvars'
  cases hvars'
  exact ⟨rfl, rfl, henqueuing, hcallback⟩

omit [DecidableEq App] [DecidableEq X] in
/-- An application thread has its items in the contexts. -/
theorem StandsFor.thread_eq (h : StandsFor contexts s t) {i : ι} {pc : TakePc K}
    {held : List (Taken K)} {answers : List (K × Option Nat)}
    (hvars : s.locals (some i) = .application pc held answers) :
    Holding t.contexts i held ∧ ∀ k p, pc = .freeing k p → ⟨k, p, true⟩ ∈ held := by
  rcases h.threads i with ⟨pc', held', answers', hvars', hholding, hfreeing⟩
  rw [hvars] at hvars'
  cases hvars'
  exact ⟨hholding, hfreeing⟩

omit [DecidableEq App] [DecidableEq X] in
theorem StandsFor.free (h : StandsFor contexts s t) (k : K) :
    (t.contexts k).context.pFreePublishMessageQueue = some (s.objects (k, .free)) := by
  rw [h.contexts k]
  rfl

omit [DecidableEq App] [DecidableEq X] in
theorem StandsFor.incomming (h : StandsFor contexts s t) (k : K) :
    (t.contexts k).context.pIncommingPublishQueue = some (s.objects (k, .incomming)) := by
  rw [h.contexts k]
  rfl

omit [DecidableEq App] [DecidableEq X] in
theorem StandsFor.items (h : StandsFor contexts s t) (k : K) :
    (t.contexts k).context.items = s.shared.items k := by
  rw [h.contexts k]
  rfl

/-- The named steps are accepted. -/
theorem step_of_incomingSteps {a : IncomingAct K ι App X} {t' : IncomingState K ι App X}
    (h : IncomingSteps matchTopic capacity t a t') :
    incomingStep matchTopic capacity t a = some t' := by
  cases h with
  | list change res hidle hres => exact if_pos ⟨hidle, hres⟩
  | publish info handled hidle hhandled => exact if_pos ⟨hidle, hhandled⟩
  | application callback context rest hnone hcalls =>
      simp only [incomingStep, hnone, hcalls, and_self, if_true]
  | receive k res rest st hnone hcalls hstep =>
      simp only [incomingStep, hnone, hcalls, and_self, if_true, IncomingState.stepAt, hstep,
        Option.map_some]
  | fill k malloc st hsome hstep =>
      simp only [incomingStep, hsome, if_true, IncomingState.stepAt, hstep, Option.map_some]
  | send k ret st hsome hstep =>
      simp only [incomingStep, hsome, if_true, IncomingState.stepAt, hstep, Option.map_some]
  | thread k act st hact hstep =>
      cases act with
      | callbackReceive => cases hact
      | callbackFill => cases hact
      | callbackSend => cases hact
      | dequeue => exact Option.map_eq_some_iff.mpr ⟨st, hstep, rfl⟩
      | freeClear => exact Option.map_eq_some_iff.mpr ⟨st, hstep, rfl⟩
      | freeSend => exact Option.map_eq_some_iff.mpr ⟨st, hstep, rfl⟩

/-- The step is this one, and its state is the one that is meant. -/
def Follows (matchTopic : MatchTopic) (capacity : Nat) (contexts : K → UserContext)
    (t : IncomingState K ι App X) (a : IncomingAct K ι App X) (s' : PublishThreads K ι App X) :
    Prop :=
  ∃ t', IncomingSteps matchTopic capacity t a t' ∧ StandsFor contexts s' t'

/-- The callback takes a free item, or returns without one. -/
theorem follows_callbackReceive (h : StandsFor contexts s t) (info : PublishInfo) (k : K)
    (rest : List (Call K App X)) (hvars : s.locals none = .agent info (queueCall k :: rest) .idle) :
    Follows matchTopic capacity contexts t (.queue k (.callbackReceive info
        (pointerOf (receiveNow (s.objects (k, .free))).2)))
      ⟨s.shared, Function.update s.locals none (.agent info rest
          ((pointerOf (receiveNow (s.objects (k, .free))).2).elim .idle
            (fun p => .filling k p info))),
        Function.update s.objects (k, .free) (receiveNow (s.objects (k, .free))).1⟩ := by
  rcases h.agent_eq hvars with ⟨rfl, hcalls, henqueuing, hcallback⟩
  have hstep := queueStep_receive (hcallback k) (h.free k) t.pxPublishInfo
  refine ⟨_, .receive k _ rest _ henqueuing hcalls hstep, h.list,
    ⟨_, Function.update_self none _ s.locals, ?_, callback_moved hcallback ?_ ?_⟩,
    contexts_queue h.contexts ?_, hasItems_kept h.threads rfl⟩
  · cases pointerOf (receiveNow (s.objects (k, .free))).2 with
    | none => rfl
    | some p => rfl
  · cases pointerOf (receiveNow (s.objects (k, .free))).2 with
    | none => rfl
    | some p => exact (if_pos rfl).symm
  · intro k' hk
    cases pointerOf (receiveNow (s.objects (k, .free))).2 with
    | none => rfl
    | some p => exact if_neg (fun heq => hk heq.symm)
  · simp only [h.contexts k, contextWith, Function.update_self]
    rfl

/-- It copies the publish. -/
theorem follows_fill (h : StandsFor contexts s t) (info : PublishInfo)
    (calls : List (Call K App X)) (k : K) (p : Nat) (published : PublishInfo)
    (malloc : Option Memory) (item : QueueItem)
    (hvars : s.locals none = .agent info calls (.filling k p published))
    (hitem : enqueueFill malloc published (s.shared.items k p) = .ok item) :
    Follows matchTopic capacity contexts t (.queue k (.callbackFill malloc))
      ⟨{ s.shared with
          items := Function.update s.shared.items k (Function.update (s.shared.items k) p item) },
        Function.update s.locals none (.agent info calls (.sending k p)), s.objects⟩ := by
  rcases h.agent_eq hvars with ⟨rfl, rfl, henqueuing, hcallback⟩
  rw [← h.items k] at hitem
  have hstep := queueStep_fill ((hcallback k).trans (if_pos rfl)) hitem
  refine ⟨_, .fill k malloc _ henqueuing hstep, h.list,
    ⟨_, Function.update_self none _ s.locals, henqueuing, callback_moved hcallback ?_ ?_⟩,
    contexts_items h.contexts ?_, hasItems_kept h.threads rfl⟩
  · exact (if_pos rfl).symm
  · intro k' hk
    exact (if_neg (fun heq => hk heq.symm)).trans (if_neg (fun heq => hk heq.symm)).symm
  · simp only [h.contexts k, contextWith]

/-- It enqueues the item. -/
theorem follows_callbackSend (h : StandsFor contexts s t) (info : PublishInfo)
    (calls : List (Call K App X)) (k : K) (p : Nat)
    (hvars : s.locals none = .agent info calls (.sending k p)) :
    Follows matchTopic capacity contexts t
      (.queue k (.callbackSend (sendNow (le64 p) (s.objects (k, .incomming))).2))
      ⟨s.shared, Function.update s.locals none (.agent info calls .idle),
        Function.update s.objects (k, .incomming)
          (sendNow (le64 p) (s.objects (k, .incomming))).1⟩ := by
  rcases h.agent_eq hvars with ⟨rfl, rfl, henqueuing, hcallback⟩
  have hstep := queueStep_send ((hcallback k).trans (if_pos rfl)) (h.incomming k)
  refine ⟨_, .send k _ _ henqueuing hstep, h.list,
    ⟨_, Function.update_self none _ s.locals, rfl, callback_moved hcallback rfl ?_⟩,
    contexts_queue h.contexts ?_, hasItems_kept h.threads rfl⟩
  · intro k' hk
    exact (if_neg (fun heq => hk heq.symm)).symm
  · simp only [h.contexts k, contextWith, Function.update_self]
    rfl

/-- A thread receives an item, or returns without one. -/
theorem follows_dequeue (h : StandsFor contexts s t) (i : ι) (k : K) (held : List (Taken K))
    (answers : List (K × Option Nat))
    (hvars : s.locals (some i) = .application (.dequeuing k) held answers) :
    Follows matchTopic capacity contexts t
      (.queue k (.dequeue i (pointerOf (receiveNow (s.objects (k, .incomming))).2)))
      ⟨s.shared, Function.update s.locals (some i) (.application .idle
          ((pointerOf (receiveNow (s.objects (k, .incomming))).2).elim held
            (fun p => ⟨k, p, false⟩ :: held))
          (answers ++ [(k, pointerOf (receiveNow (s.objects (k, .incomming))).2)])),
        Function.update s.objects (k, .incomming)
          (receiveNow (s.objects (k, .incomming))).1⟩ := by
  rcases h.agent with ⟨pc, hagent, henqueuing, hcallback⟩
  have hholding := (h.thread_eq hvars).1
  have hstep := queueStep_dequeue (h.incomming k) i
  refine ⟨_, .thread k _ _ rfl hstep, h.list, ⟨pc, hagent, henqueuing, ?_⟩,
    contexts_queue h.contexts ?_, hasItems_thread h.threads ⟨_, _, _, rfl, ?_, ?_⟩ ?_⟩
  · exact callback_kept hcallback rfl
  · simp only [h.contexts k, contextWith, Function.update_self]
    rfl
  · cases pointerOf (receiveNow (s.objects (k, .incomming))).2 with
    | none => exact hholding.same rfl
    | some p => exact hholding.take rfl
  · intro _ _ hpc
    cases hpc
  · intro j held' hj hother
    cases pointerOf (receiveNow (s.objects (k, .incomming))).2 with
    | none => exact hother.same rfl
    | some p =>
        exact hother.other hj (fun hold hne => List.count_cons_of_ne (hold_ne hne p false).symm)

/-- A thread clears its item. -/
theorem follows_freeClear (h : StandsFor contexts s t) (i : ι) (k : K) (p : Nat)
    (freeBuffer : Bool) (held : List (Taken K)) (answers : List (K × Option Nat))
    (hvars : s.locals (some i) = .application .idle held answers) (hmem : ⟨k, p, false⟩ ∈ held) :
    Follows matchTopic capacity contexts t (.queue k (.freeClear i p freeBuffer))
      ⟨{ s.shared with
          items := Function.update s.shared.items k (Function.update (s.shared.items k) p
            (freeClear freeBuffer (s.shared.items k p))) },
        Function.update s.locals (some i)
          (.application (.freeing k p) (⟨k, p, true⟩ :: held.erase ⟨k, p, false⟩) answers),
        s.objects⟩ := by
  rcases h.agent with ⟨pc, hagent, henqueuing, hcallback⟩
  have hholding := (h.thread_eq hvars).1
  have hstep : queueStep (t.contexts k) (.freeClear i p freeBuffer) = some _ :=
    if_pos (hholding.mem hmem)
  refine ⟨_, .thread k _ _ rfl hstep, h.list, ⟨pc, hagent, henqueuing, ?_⟩,
    contexts_items h.contexts ?_, hasItems_thread h.threads ⟨_, _, _, rfl, ?_, ?_⟩ ?_⟩
  · exact callback_kept hcallback rfl
  · simp only [h.contexts k, contextWith]
  · exact hholding.clear rfl
  · intro k' p' hpc
    cases hpc
    exact List.mem_cons_self
  · intro j held' hj hother
    refine hother.other hj (fun hold hne => ?_)
    rw [List.count_cons_of_ne (hold_ne hne p true).symm,
      List.count_erase_of_ne (hold_ne hne p false)]

/-- It gives the item back. -/
theorem follows_freeSend (h : StandsFor contexts s t) (i : ι) (k : K) (p : Nat)
    (held : List (Taken K)) (answers : List (K × Option Nat))
    (hvars : s.locals (some i) = .application (.freeing k p) held answers) :
    Follows matchTopic capacity contexts t
      (.queue k (.freeSend i p (sendNow (le64 p) (s.objects (k, .free))).2))
      ⟨s.shared, Function.update s.locals (some i)
          (.application .idle (held.erase ⟨k, p, true⟩) answers),
        Function.update s.objects (k, .free) (sendNow (le64 p) (s.objects (k, .free))).1⟩ := by
  rcases h.agent with ⟨pc, hagent, henqueuing, hcallback⟩
  rcases h.thread_eq hvars with ⟨hholding, hfreeing⟩
  have hstep := queueStep_giveBack (hholding.mem (hfreeing k p rfl)) (h.free k)
  refine ⟨_, .thread k _ _ rfl hstep, h.list, ⟨pc, hagent, henqueuing, ?_⟩,
    contexts_queue h.contexts ?_,
    hasItems_thread h.threads ⟨_, _, _, rfl, hholding.drop rfl, ?_⟩ ?_⟩
  · exact callback_kept hcallback rfl
  · simp only [h.contexts k, contextWith, Function.update_self]
    rfl
  · intro _ _ hpc
    cases hpc
  · intro j held' hj hother
    exact hother.other hj (fun hold hne => List.count_erase_of_ne (hold_ne hne p true))

omit [DecidableEq App] [DecidableEq X] in
/-- `DequeueIncommingPublish` is called, which nobody sees. -/
theorem StandsFor.dequeuing (h : StandsFor contexts s t) (i : ι) (k : K) (held : List (Taken K))
    (answers : List (K × Option Nat))
    (hvars : s.locals (some i) = .application .idle held answers) :
    StandsFor contexts ⟨s.shared, Function.update s.locals (some i)
      (.application (.dequeuing k) held answers), s.objects⟩ t := by
  refine ⟨h.list, h.agent, h.contexts, hasItems_thread h.threads
    ⟨_, _, _, rfl, (h.thread_eq hvars).1, ?_⟩ (fun _ _ _ hother => hother)⟩
  intro _ _ hpc
  cases hpc

omit [DecidableEq K] [DecidableEq App] [DecidableEq X] in
/-- What the threads were given, where one of them has moved. -/
theorem answers_update (locals : Option ι → PublishVars K App X) (i j : ι)
    (vars : PublishVars K App X) (more : List (K × Option Nat))
    (hvars : vars.answers = (locals (some i)).answers ++ more) :
    (Function.update locals (some i) vars (some j)).answers =
      (locals (some j)).answers ++ (if i = j then more else []) := by
  by_cases hij : i = j
  · subst hij
    rw [Function.update_self, if_pos rfl, hvars]
  · rw [Function.update_of_ne (fun heq => hij (Option.some.inj heq).symm), if_neg hij,
      List.append_nil]

omit [DecidableEq K] [DecidableEq App] [DecidableEq X] in
/-- The same, if the thread is given nothing. -/
theorem answers_kept (locals : Option ι → PublishVars K App X) (i j : ι)
    (vars : PublishVars K App X) (hvars : vars.answers = (locals (some i)).answers) :
    (Function.update locals (some i) vars (some j)).answers = (locals (some j)).answers := by
  have hupdate := answers_update locals i j vars [] (hvars.trans (List.append_nil _).symm)
  rwa [ite_self, List.append_nil] at hupdate

/-- A step of the model shows this, and the threads are given what they are given
    in it. -/
structure SameStep (a : IncomingAct K ι App X) (observed : Option (Observed K App X))
    (s s' : PublishThreads K ι App X) : Prop where
  observed : a.observed = observed
  answers : ∀ i, (s'.locals (some i)).answers =
    (s.locals (some i)).answers ++ (a.answer i).toList

/-- A step between the calls is one of the model, or is not seen there. -/
theorem standsFor_own (h : StandsFor contexts s t) {step : PublishStep K App X}
    (hstep : OwnSteps matchTopic capacity s step s') :
    (StandsFor contexts s' t ∧ step.observed = none ∧
      ∀ i, (s'.locals (some i)).answers = (s.locals (some i)).answers) ∨
    ∃ a, Follows matchTopic capacity contexts t a s' ∧ SameStep a step.observed s s' := by
  cases hstep with
  | list info change res hvars hres =>
      rcases h.agent_eq hvars with ⟨rfl, hcalls, henqueuing, hcallback⟩
      have hidle : t.Idle := ⟨List.isEmpty_iff.mpr hcalls, Option.isNone_iff_eq_none.mpr henqueuing⟩
      rw [← h.list] at hres ⊢
      refine Or.inr ⟨_, ⟨_, .list change res hidle hres, rfl, ⟨.idle, ?_, henqueuing, hcallback⟩,
        h.contexts, h.threads⟩, rfl, fun i => (List.append_nil _).symm⟩
      rw [hcalls]
      exact Function.update_self none _ s.locals
  | publish info next handled hvars hhandled =>
      rcases h.agent_eq hvars with ⟨rfl, hcalls, henqueuing, hcallback⟩
      have hidle : t.Idle := ⟨List.isEmpty_iff.mpr hcalls, Option.isNone_iff_eq_none.mpr henqueuing⟩
      rw [← h.list] at hhandled ⊢
      exact Or.inr ⟨_, ⟨_, .publish next handled hidle hhandled, h.list,
        ⟨.idle, Function.update_self none _ s.locals, henqueuing, hcallback⟩, h.contexts,
        h.threads⟩, rfl, fun i => (List.append_nil _).symm⟩
  | application info callback context rest hvars =>
      rcases h.agent_eq hvars with ⟨rfl, hcalls, henqueuing, hcallback⟩
      exact Or.inr ⟨_, ⟨_, .application callback context rest henqueuing hcalls, h.list,
        ⟨.idle, Function.update_self none _ s.locals, henqueuing, hcallback⟩, h.contexts,
        h.threads⟩, rfl, fun i => (List.append_nil _).symm⟩
  | fill info calls k p published malloc item hvars hitem =>
      exact Or.inr ⟨_, follows_fill h info calls k p published malloc item hvars hitem, rfl,
        fun i => (List.append_nil _).symm⟩
  -- the receive was the step of the model, and this one keeps what it gave
  | dequeue i k held answers hvars =>
      exact Or.inl ⟨h.dequeuing i k held answers hvars, rfl,
        fun j => answers_kept s.locals i j _ (by rw [hvars]; rfl)⟩
  | free i k p freeBuffer held answers hvars hmem =>
      refine Or.inr ⟨_, follows_freeClear h i k p freeBuffer held answers hvars hmem, rfl,
        fun j => ?_⟩
      exact (answers_kept s.locals i j _ (by rw [hvars]; rfl)).trans (List.append_nil _).symm

/-- A call of a queue is one step of the model. -/
theorem standsFor_call (h : StandsFor contexts s t) (hcall : QueueCalls s s') :
    ∃ a, Follows matchTopic capacity contexts t a s' ∧ SameStep a none s s' := by
  cases hcall with
  | callbackReceive info k rest hvars =>
      exact ⟨_, follows_callbackReceive h info k rest hvars, rfl,
        fun i => (List.append_nil _).symm⟩
  | callbackSend info calls k p hvars =>
      exact ⟨_, follows_callbackSend h info calls k p hvars, rfl, fun i => (List.append_nil _).symm⟩
  | dequeue i k held answers hvars =>
      refine ⟨_, follows_dequeue h i k held answers hvars, rfl, fun j => ?_⟩
      rw [answers_update s.locals i j _ [(k, pointerOf (receiveNow (s.objects (k, .incomming))).2)]
        (by rw [hvars]; rfl)]
      refine congrArg _ ?_
      simp only [IncomingAct.answer]
      split
      · rfl
      · rfl
  | freeSend i k p held answers hvars =>
      refine ⟨_, follows_freeSend h i k p held answers hvars, rfl, fun j => ?_⟩
      exact (answers_kept s.locals i j _ (by rw [hvars]; rfl)).trans (List.append_nil _).symm

/-- What is seen of a step with calls that are one step. -/
def seenOf (act : CallAct (Option ι) (PublishStep K App X)
    (fun _ : K × ContextQueue => QueueOp sizeofPointer) (fun _ => QueueRes)) :
    Option (Observed K App X) :=
  act.ownStep.bind (fun step => step.2.observed)

variable {q : K × ContextQueue → SyncQueue}

/-- Each step of the threads is one of the model, or is not seen there. -/
theorem standsFor_step (h : StandsFor contexts s t)
    {act : CallAct (Option ι) (PublishStep K App X)
      (fun _ : K × ContextQueue => QueueOp sizeofPointer) (fun _ => QueueRes)}
    (hstep : (publishCalls matchTopic capacity ι contexts q).step s act = some s') :
    (StandsFor contexts s' t ∧ seenOf act = none ∧
      ∀ i, (s'.locals (some i)).answers = (s.locals (some i)).answers) ∨
    ∃ a, Follows matchTopic capacity contexts t a s' ∧ SameStep a (seenOf act) s s' := by
  cases act with
  | own t step => exact standsFor_own h (ownSteps_of_step hstep)
  | call t kq op res => exact Or.inr (standsFor_call h (queueCalls_of_step hstep))

/-- The state that is meant at the start. -/
theorem standsFor_init (hfree : ∀ k, (contexts k).pFreePublishMessageQueue = some (q (k, .free)))
    (hincomming : ∀ k, (contexts k).pIncommingPublishQueue = some (q (k, .incomming))) :
    StandsFor contexts (publishCalls matchTopic capacity ι contexts q).init
      (incoming matchTopic capacity ι contexts : System (IncomingState K ι App X) _).init := by
  refine ⟨rfl, ⟨.idle, rfl, rfl, fun _ => rfl⟩, fun k => ?_, fun i => ⟨.idle, [], [], rfl,
    fun _ _ _ => rfl, fun _ _ hpc => ?_⟩⟩
  · have heq : contexts k = contextWith (contexts k) (contexts k).items
        (fun which => q (k, which)) := by
      rw [contextWith, ← hfree k, ← hincomming k]
    exact heq
  · cases hpc

/-- What the threads do on the queues of the contexts is an execution of the model. -/
theorem standsFor_run (hfree : ∀ k, (contexts k).pFreePublishMessageQueue = some (q (k, .free)))
    (hincomming : ∀ k, (contexts k).pIncommingPublishQueue = some (q (k, .incomming)))
    (acts : List (CallAct (Option ι) (PublishStep K App X)
      (fun _ : K × ContextQueue => QueueOp sizeofPointer) (fun _ => QueueRes)))
    (s : PublishThreads K ι App X)
    (hrun : (publishCalls matchTopic capacity ι contexts q).run acts = some s) :
    ∃ acts' t, (incoming matchTopic capacity ι contexts).run acts' = some t ∧
      StandsFor contexts s t ∧
      acts'.filterMap IncomingAct.observed = acts.filterMap seenOf ∧
      ∀ i, (s.locals (some i)).answers = acts'.filterMap (IncomingAct.answer i) := by
  refine System.run_induction (publishCalls matchTopic capacity ι contexts q)
    (P := fun acts s => ∃ acts' t, (incoming matchTopic capacity ι contexts).run acts' = some t ∧
      StandsFor contexts s t ∧
      acts'.filterMap IncomingAct.observed = acts.filterMap seenOf ∧
      ∀ i, (s.locals (some i)).answers = acts'.filterMap (IncomingAct.answer i))
    ⟨[], _, rfl, standsFor_init hfree hincomming, rfl, fun _ => rfl⟩ ?_ acts s hrun
  rintro acts s act s' - ⟨acts', t, ht, h, hobserved, hanswers⟩ hstep
  rcases standsFor_step h hstep with ⟨h', hsilent, hsame⟩ | ⟨a, ⟨t', hstep', h'⟩, hsame⟩
  · refine ⟨acts', t, ht, h', ?_, fun i => (hsame i).trans (hanswers i)⟩
    rw [System.filterMap_concat, hsilent, Option.toList_none, List.append_nil, hobserved]
  · refine ⟨acts' ++ [a], t', (System.run_concat _ _ _ _).mpr ⟨t, ht, step_of_incomingSteps hstep'⟩,
      h', ?_, fun i => ?_⟩
    · rw [System.filterMap_concat, System.filterMap_concat, hsame.observed, hobserved]
    · rw [System.filterMap_concat, hsame.answers i, hanswers i]

end Simulation

/-! ### Over the platform -/

/-- The threads over the queues of `pal_queue.c`. -/
abbrev publishThreads [DecidableEq K] [DecidableEq ι] [DecidableEq App] [DecidableEq X]
    (matchTopic : MatchTopic) (capacity : Nat) (contexts : K → UserContext)
    (q : K × ContextQueue → SyncQueue) :
    System (Running (Option ι) (PublishShared K App X) (PublishVars K App X)
        (fun _ : K × ContextQueue =>
          TimedWait.State (Option ι) (QueueOp sizeofPointer) QueueRes SyncQueue QueueCond))
      (RunAct (Option ι) (PublishStep K App X)
        (fun _ : K × ContextQueue => TimedWait.Act (Option ι) (QueueOp sizeofPointer) QueueRes)) :=
  (publishProgram matchTopic capacity ι contexts).over
    (fun kq => queueThreads (Option ι) sizeofPointer (q kq)) (fun _ => TimedWait.event)

/-- Whatever the agent thread and the application threads do, step by step on the
    mutexes and condition variables of all queues, is an execution in which every
    send and every receive is one step: with the same publishes, callbacks and
    changes of the list, with the same contexts in the end, and with the same
    items for every thread. -/
theorem publishes_overQueues [DecidableEq K] [DecidableEq ι] [DecidableEq App] [DecidableEq X]
    (matchTopic : MatchTopic) (capacity : Nat) (contexts : K → UserContext)
    (q : K × ContextQueue → SyncQueue)
    (hfree : ∀ k, (contexts k).pFreePublishMessageQueue = some (q (k, .free)))
    (hincomming : ∀ k, (contexts k).pIncommingPublishQueue = some (q (k, .incomming)))
    (acts : List (RunAct (Option ι) (PublishStep K App X)
      (fun _ : K × ContextQueue => TimedWait.Act (Option ι) (QueueOp sizeofPointer) QueueRes)))
    (st : Running (Option ι) (PublishShared K App X) (PublishVars K App X)
      (fun _ : K × ContextQueue =>
        TimedWait.State (Option ι) (QueueOp sizeofPointer) QueueRes SyncQueue QueueCond))
    (hrun : (publishThreads matchTopic capacity contexts q).run acts = some st) :
    ∃ acts' t, (incoming matchTopic capacity ι contexts).run acts' = some t ∧
      acts'.filterMap IncomingAct.observed =
        (acts.filterMap RunAct.ownStep).filterMap (fun step => step.2.observed) ∧
      t.xGlobalSubscriptionList = st.threads.shared.xGlobalSubscriptionList ∧
      (∀ k, (t.contexts k).context = contextWith (contexts k) (st.threads.shared.items k)
        (fun which => (st.objects (k, which)).obj)) ∧
      ∀ i, st.threads.inside (some i) = false →
        acts'.filterMap (IncomingAct.answer i) = (st.threads.locals (some i)).answers := by
  -- first the queues of the mutex are replaced by atomic ones, then the threads by the
  -- steps of the model
  rcases (publishProgram matchTopic capacity ι contexts).over_atomically
    (fun kq => monitor_linearizes (syncQueue sizeofPointer) (q kq)) acts st hrun with
    ⟨calls, s, hs, howns, hshared, hlocals, hobjects⟩
  rcases standsFor_run hfree hincomming calls s hs with ⟨acts', t, ht, h, hobserved, hanswers⟩
  refine ⟨acts', t, ht, ?_, h.list.trans (congrArg _ hshared), fun k => ?_, fun i hout => ?_⟩
  · rw [hobserved, ← howns, List.filterMap_filterMap]
    rfl
  · rw [h.contexts k, hshared]
    refine congrArg _ (funext (fun which => ?_))
    rcases hobjects (k, which) with ⟨b, hb, heq⟩
    exact heq.trans hb.1
  · rw [← hanswers i, (hlocals (some i)).of_out hout]

/-- The queues of a context that was just made. -/
def madeQueue (n : Nat) : Unit × ContextQueue → SyncQueue
  | (_, .incomming) => pointerQueue (fun _ => 0) n
  | (_, .free) => sendItems 4096 (pointerQueue (fun _ => 0) n) n

/-- A step between the calls. -/
def betweenCalls (t : Option Unit) (step : PublishStep Unit Unit Unit) :
    RunAct (Option Unit) (PublishStep Unit Unit Unit) (fun _ : Unit × ContextQueue =>
      TimedWait.Act (Option Unit) (QueueOp sizeofPointer) QueueRes) :=
  .own t step

/-- A step in a queue. -/
def inContextQueue (which : ContextQueue)
    (act : TimedWait.Act (Option Unit) (QueueOp sizeofPointer) QueueRes) :
    RunAct (Option Unit) (PublishStep Unit Unit Unit) (fun _ : Unit × ContextQueue =>
      TimedWait.Act (Option Unit) (QueueOp sizeofPointer) QueueRes) :=
  .object ((), which) act

/-- The whole of a call, with nobody in between. -/
def wholeCall (which : ContextQueue) (t : Option Unit) (op : QueueOp sizeofPointer)
    (res : QueueRes) : List (RunAct (Option Unit) (PublishStep Unit Unit Unit)
      (fun _ : Unit × ContextQueue =>
        TimedWait.Act (Option Unit) (QueueOp sizeofPointer) QueueRes)) :=
  [.call t op, .lock t, .test t, .body t, .unlock t, .broadcast t, .ret t op res].map
    (inContextQueue which)

/-- A thread waits already for the publish when the agent thread enqueues it. -/
def awaitedPublish (a : FilterArg) : List (RunAct (Option Unit) (PublishStep Unit Unit Unit)
    (fun _ : Unit × ContextQueue =>
      TimedWait.Act (Option Unit) (QueueOp sizeofPointer) QueueRes)) :=
  [betweenCalls (some ()) (.dequeue ()), inContextQueue .incomming (.call (some ()) .receive),
    inContextQueue .incomming (.lock (some ())), inContextQueue .incomming (.test (some ())),
    betweenCalls none (.list (.subscribed a (.withQueue ())) (some true)),
    betweenCalls none (.publish (barePublish 1) true)] ++
  wholeCall .free none .receive (.received (some (le64 4096))) ++
  [betweenCalls none (.fill (some (fun _ => 0)))] ++
  wholeCall .incomming none (.send (pointerItem 4096)) (.sent true) ++
  [inContextQueue .incomming (.relock (some ())), inContextQueue .incomming (.test (some ())),
    inContextQueue .incomming (.body (some ())), inContextQueue .incomming (.unlock (some ())),
    inContextQueue .incomming (.broadcast (some ())),
    inContextQueue .incomming (.ret (some ()) .receive (.received (some (le64 4096)))),
    betweenCalls (some ()) (.free () 4096 true)]

theorem publishes_overQueues_awaited :
    ∃ (a : FilterArg) (acts' : List (IncomingAct Unit Unit Unit Unit))
      (t : IncomingState Unit Unit Unit Unit), a.filter = [97] ∧
      (incoming matchExact 2 Unit
        (fun _ => madeContext (fun _ => 0) (fun _ => 0) 4096 2)).run acts' = some t ∧
      acts'.filterMap IncomingAct.observed =
        [.list (.subscribed a (.withQueue ())) (some true), .publish (barePublish 1) true] ∧
      acts'.filterMap (IncomingAct.answer ()) = [((), some 4096)] := by
  let a : FilterArg := ⟨[97], 1, by decide, by decide, by decide, by decide⟩
  rcases publishes_overQueues matchExact 2
    (fun _ => madeContext (fun _ => 0) (fun _ => 0) 4096 2) (madeQueue 2) (fun _ => rfl)
    (fun _ => rfl) (awaitedPublish a) _ rfl with ⟨acts', t, ht, hobserved, -, -, hanswers⟩
  exact ⟨a, acts', t, rfl, ht, hobserved, hanswers () rfl⟩

end MqttAgent

end ProvisioningSdk
