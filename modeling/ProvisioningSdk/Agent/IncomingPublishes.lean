import ProvisioningSdk.Agent.PublishDelivery
import ProvisioningSdk.Agent.SubscriptionList

/-!
# Incoming Publishes

What becomes of a publish that coreMQTT hands to the agent: from
`prvIncomingPublishCallback` through the subscription list to the queues of the
user contexts, and to the threads that dequeue it.

The agent thread does all of this, one callback after the other, and it is also
the one that changes the list: the completion callbacks of subscribe and
unsubscribe run on it. So the list stays as it is while a publish is handed out,
and the walk over it can be done in advance. The application threads go on
meanwhile, on all contexts.

The header does not declare `mqttAgentEnqueuePublishCallback`, so it comes into
the list by `iotshdDev_MQTTAgentAddSubscriptionWithQueue` only, which gives it
the user context (`Registration`). Two subscriptions of one context that both
match are two calls, and two items.

## Main definitions

* `Registration`: The two ways to register a callback.
* `IncomingState`, `incomingStep`: The agent thread and all user contexts.
* `dueFrom`: The publishes that are due to a callback, by the live subscriptions.
* `warnUnsolicited`: What is done with a publish nobody wants.
* `Routed`: The publishes have gone where they belong.

## Theorems

* `incomingSteps_of_step`: What a step does.
* `context_run`: What a context sees is a run of its own.
* `calls_due`: The callbacks are called as the live subscriptions say.
* `incomingPublishes_routed`: The publishes on their whole way.
-/

namespace ProvisioningSdk

namespace MqttAgent

open Bytes Transition SubscriptionManager

variable {K ι App X : Type*}

/-- A callback in the subscription list: that of the queues, or one of the
    application. -/
inductive IncomingCallback (App : Type*)
  | mqttAgentEnqueuePublishCallback
  | application (callback : App)
  deriving DecidableEq

/-- What a callback is called with: a user context, or something else. -/
inductive CallbackContext (K X : Type*)
  | userContext (pUserContext : K)
  | other (context : X)
  deriving DecidableEq

/-- A callback with its context, as the list has them. -/
abbrev Call (K App X : Type*) := Option (IncomingCallback App) × Option (CallbackContext K X)

/-- The call for a queue. -/
def queueCall (k : K) : Call K App X :=
  (some .mqttAgentEnqueuePublishCallback, some (.userContext k))

/-- The call of a callback of the application. -/
def applicationCall (callback : App) (context : Option X) : Call K App X :=
  (some (.application callback), context.map .other)

/-- What is registered for a filter. -/
inductive Registration (K App X : Type*)
  /-- `iotshdDev_MQTTAgentAddSubscriptionWithQueue`. -/
  | withQueue (pUserContext : K)
  /-- `iotshdDev_MQTTAgentAddSubscription`. -/
  | withCallback (callback : App) (context : Option X)

/-- `pxIncomingPublishCallback`. -/
def Registration.callback : Registration K App X → IncomingCallback App
  | .withQueue _ => .mqttAgentEnqueuePublishCallback
  | .withCallback callback _ => .application callback

/-- `pvIncomingPublishCallbackContext`. -/
def Registration.context : Registration K App X → Option (CallbackContext K X)
  | .withQueue k => some (.userContext k)
  | .withCallback _ context => context.map .other

/-- What the completion callbacks do to the list. -/
inductive ListChange (K App X : Type*)
  | subscribed (filter : FilterArg) (registration : Registration K App X)
  | unsubscribed (filter : FilterArg)

/-- The call on the list. -/
def ListChange.call : ListChange K App X → ListCall (IncomingCallback App) (CallbackContext K X)
  | .subscribed filter registration => .add filter registration.callback registration.context
  | .unsubscribed filter => .remove filter

/-- The topic of a publish. -/
def PublishInfo.topic (info : PublishInfo) : List UInt8 :=
  info.pTopicName.bytes.take info.topicNameLength

/-- What `prvIncomingPublishCallback` does with a publish nobody wants. A NUL is
    put behind the topic while it is logged: the text that is logged, and the
    network buffer afterwards. -/
def warnUnsolicited (buffer : Memory) (pTopicName topicNameLength : Nat) : List UInt8 × Memory :=
  let pcLocation := pTopicName + topicNameLength
  let cOriginalChar := buffer pcLocation
  let terminated := buffer.copy pcLocation [0]
  (terminated.slice pTopicName (topicNameLength + 1), terminated.copy pcLocation [cOriginalChar])

/-- The topic is logged, and the buffer is as it was. -/
theorem warnUnsolicited_eq (buffer : Memory) (pTopicName topicNameLength : Nat) :
    warnUnsolicited buffer pTopicName topicNameLength =
      (buffer.slice pTopicName topicNameLength ++ [0], buffer) := by
  unfold warnUnsolicited
  refine Prod.ext ?_ ?_
  · have hnul := slice_copy_self buffer (pTopicName + topicNameLength) [0]
    rw [List.length_singleton] at hnul
    simp only [slice_add, hnul]
    rw [slice_copy_disjoint _ _ _ _ _ (Or.inl (Nat.le_refl _))]
  · funext i
    simp only
    by_cases hi : i = pTopicName + topicNameLength
    · subst hi
      exact copy_inside _ _ [_] 0 Nat.zero_lt_one
    · -- neither copy reaches another byte
      have hother : i < pTopicName + topicNameLength ∨ pTopicName + topicNameLength + 1 ≤ i := by
        omega
      rw [copy_outside _ _ _ _ hother, copy_outside _ _ _ _ hother]

/-! ### The system -/

/-- The list, the publish that is being handed out with the calls to come, the
    context whose callback is running, and all contexts. -/
structure IncomingState (K ι App X : Type*) where
  xGlobalSubscriptionList : SubscriptionList (IncomingCallback App) (CallbackContext K X)
  pxPublishInfo : PublishInfo
  calls : List (Call K App X)
  enqueuing : Option K
  contexts : K → QueueState ι

/-- The agent thread is in no publish. -/
def IncomingState.Idle (s : IncomingState K ι App X) : Prop :=
  s.calls.isEmpty = true ∧ s.enqueuing.isNone = true

instance (s : IncomingState K ι App X) : Decidable s.Idle := inferInstanceAs (Decidable (_ ∧ _))

/-- The steps. Those of a context are those of `publishQueue`. -/
inductive IncomingAct (K ι App X : Type*)
  /-- A completion callback changes the list. -/
  | list (change : ListChange K App X) (res : Option Bool)
  /-- `prvIncomingPublishCallback` is called. -/
  | publish (pxPublishInfo : PublishInfo) (xPublishHandled : Bool)
  /-- A callback of the application is called. -/
  | application (callback : App) (context : Option X) (pxPublishInfo : PublishInfo)
  | queue (k : K) (act : QueueAct ι)

section System

variable [DecidableEq K] [DecidableEq ι] [DecidableEq App] [DecidableEq X]
  (matchTopic : MatchTopic) (capacity : Nat)

/-- A step of one context. -/
def IncomingState.stepAt (s : IncomingState K ι App X) (k : K) (act : QueueAct ι) :
    Option (IncomingState K ι App X) :=
  (queueStep (s.contexts k) act).map (fun st =>
    { s with contexts := Function.update s.contexts k st })

/-- One step of the agent thread or of an application thread. -/
def incomingStep (s : IncomingState K ι App X) :
    IncomingAct K ι App X → Option (IncomingState K ι App X)
  | .list change res =>
      if s.Idle ∧ (change.call.run capacity s.xGlobalSubscriptionList).2 = res then
        some { s with
          xGlobalSubscriptionList := (change.call.run capacity s.xGlobalSubscriptionList).1 }
      else none
  | .publish info handled =>
      if s.Idle ∧ (handleIncomingPublishes matchTopic capacity s.xGlobalSubscriptionList
          info.topic).2 = handled then
        some { s with
          pxPublishInfo := info
          calls := (handleIncomingPublishes matchTopic capacity s.xGlobalSubscriptionList
            info.topic).1 }
      else none
  | .application callback context info =>
      match s.enqueuing, s.calls with
      | none, call :: rest =>
          if call = applicationCall callback context ∧ info = s.pxPublishInfo then
            some { s with calls := rest }
          else none
      | _, _ => none
  | .queue k (.callbackReceive info res) =>
      match s.enqueuing, s.calls with
      | none, call :: rest =>
          if call = queueCall k ∧ info = s.pxPublishInfo then
            -- without a free item the callback returns at once
            ({ s with calls := rest, enqueuing := res.map (fun _ => k) }).stepAt k
              (.callbackReceive info res)
          else none
      | _, _ => none
  | .queue k (.callbackFill malloc) =>
      if s.enqueuing = some k then s.stepAt k (.callbackFill malloc) else none
  | .queue k (.callbackSend ret) =>
      if s.enqueuing = some k then ({ s with enqueuing := none }).stepAt k (.callbackSend ret)
      else none
  | .queue k (.dequeue i res) => s.stepAt k (.dequeue i res)
  | .queue k (.freeClear i p freeBuffer) => s.stepAt k (.freeClear i p freeBuffer)
  | .queue k (.freeSend i p ret) => s.stepAt k (.freeSend i p ret)

/-- The agent with these contexts, and a list that is all zero. -/
def incoming (ι : Type*) [DecidableEq ι] (contexts : K → UserContext) :
    System (IncomingState K ι App X) (IncomingAct K ι App X) where
  init :=
    { xGlobalSubscriptionList := fun _ => zeroElement
      pxPublishInfo := zeroPublishInfo
      calls := []
      enqueuing := none
      contexts := fun k => (publishQueue ι (contexts k)).init }
  step := incomingStep matchTopic capacity

end System

/-! ### What a step does -/

/-- A step of the application threads. -/
def QueueAct.ofThreads : QueueAct ι → Bool
  | .dequeue _ _ => true
  | .freeClear _ _ _ => true
  | .freeSend _ _ _ => true
  | _ => false

/-- The change of the list that a step makes, with its result. -/
def IncomingAct.listCall : IncomingAct K ι App X →
    Option (ListCall (IncomingCallback App) (CallbackContext K X) × Option Bool)
  | .list change res => some (change.call, res)
  | _ => none

section Steps

variable [DecidableEq K] [DecidableEq ι]

/-- The step of this context. -/
def IncomingAct.on (k : K) : IncomingAct K ι App X → Option (QueueAct ι)
  | .queue k' act => if k' = k then some act else none
  | _ => none

variable [DecidableEq App] [DecidableEq X] {matchTopic : MatchTopic} {capacity : Nat}
  {s s' : IncomingState K ι App X}

/-- The steps, and what each of them needs. -/
inductive IncomingSteps (matchTopic : MatchTopic) (capacity : Nat) (s : IncomingState K ι App X) :
    IncomingAct K ι App X → IncomingState K ι App X → Prop
  | list (change res) (hidle : s.Idle)
      (hres : (change.call.run capacity s.xGlobalSubscriptionList).2 = res) :
      IncomingSteps matchTopic capacity s (.list change res) { s with
        xGlobalSubscriptionList := (change.call.run capacity s.xGlobalSubscriptionList).1 }
  | publish (info handled) (hidle : s.Idle)
      (hhandled : (handleIncomingPublishes matchTopic capacity s.xGlobalSubscriptionList
        info.topic).2 = handled) :
      IncomingSteps matchTopic capacity s (.publish info handled) { s with
        pxPublishInfo := info
        calls := (handleIncomingPublishes matchTopic capacity s.xGlobalSubscriptionList
          info.topic).1 }
  | application (callback context rest) (hnone : s.enqueuing = none)
      (hcalls : s.calls = applicationCall callback context :: rest) :
      IncomingSteps matchTopic capacity s (.application callback context s.pxPublishInfo)
        { s with calls := rest }
  | receive (k res rest st) (hnone : s.enqueuing = none) (hcalls : s.calls = queueCall k :: rest)
      (hstep : queueStep (s.contexts k) (.callbackReceive s.pxPublishInfo res) = some st) :
      IncomingSteps matchTopic capacity s (.queue k (.callbackReceive s.pxPublishInfo res)) { s with
        calls := rest
        enqueuing := res.map (fun _ => k)
        contexts := Function.update s.contexts k st }
  | fill (k malloc st) (hsome : s.enqueuing = some k)
      (hstep : queueStep (s.contexts k) (.callbackFill malloc) = some st) :
      IncomingSteps matchTopic capacity s (.queue k (.callbackFill malloc)) { s with
        contexts := Function.update s.contexts k st }
  | send (k ret st) (hsome : s.enqueuing = some k)
      (hstep : queueStep (s.contexts k) (.callbackSend ret) = some st) :
      IncomingSteps matchTopic capacity s (.queue k (.callbackSend ret)) { s with
        enqueuing := none
        contexts := Function.update s.contexts k st }
  | thread (k act st) (hact : act.ofThreads = true)
      (hstep : queueStep (s.contexts k) act = some st) :
      IncomingSteps matchTopic capacity s (.queue k act) { s with
        contexts := Function.update s.contexts k st }

omit [DecidableEq App] [DecidableEq X] in
theorem stepAt_eq_some {k : K} {act : QueueAct ι} (h : s.stepAt k act = some s') :
    ∃ st, queueStep (s.contexts k) act = some st ∧
      s' = { s with contexts := Function.update s.contexts k st } := by
  rcases Option.map_eq_some_iff.mp h with ⟨st, hst, rfl⟩
  exact ⟨st, hst, rfl⟩

/-- Every accepted step is one of the named ones. -/
theorem incomingSteps_of_step {a : IncomingAct K ι App X}
    (h : incomingStep matchTopic capacity s a = some s') :
    IncomingSteps matchTopic capacity s a s' := by
  cases a with
  -- between publishes
  | list change res =>
      simp only [incomingStep] at h
      split at h
      case isTrue hcase =>
        cases h
        exact .list change res hcase.1 hcase.2
      case isFalse => cases h
  | publish info handled =>
      simp only [incomingStep] at h
      split at h
      case isTrue hcase =>
        cases h
        exact .publish info handled hcase.1 hcase.2
      case isFalse => cases h
  -- the calls of a publish, in order
  | application callback context info =>
      simp only [incomingStep] at h
      split at h
      case h_1 call rest hnone hcalls =>
        split at h
        case isTrue hcase =>
          cases h
          rw [hcase.1] at hcalls
          rw [hcase.2]
          exact .application callback context rest hnone hcalls
        case isFalse => cases h
      case h_2 => cases h
  | queue k act =>
      cases act with
      | callbackReceive info res =>
          simp only [incomingStep] at h
          split at h
          case h_1 call rest hnone hcalls =>
            split at h
            case isTrue hcase =>
              rcases stepAt_eq_some h with ⟨st, hst, rfl⟩
              rw [hcase.1] at hcalls
              rw [hcase.2] at hst ⊢
              exact .receive k res rest st hnone hcalls hst
            case isFalse => cases h
          case h_2 => cases h
      -- a callback of a queue goes on until it has sent
      | callbackFill malloc =>
          simp only [incomingStep] at h
          split at h
          case isTrue hsome =>
            rcases stepAt_eq_some h with ⟨st, hst, rfl⟩
            exact .fill k malloc st hsome hst
          case isFalse => cases h
      | callbackSend ret =>
          simp only [incomingStep] at h
          split at h
          case isTrue hsome =>
            rcases stepAt_eq_some h with ⟨st, hst, rfl⟩
            exact .send k ret st hsome hst
          case isFalse => cases h
      -- a thread works on its queue at any time
      | dequeue i res =>
          rcases stepAt_eq_some h with ⟨st, hst, rfl⟩
          exact .thread k _ st rfl hst
      | freeClear i p freeBuffer =>
          rcases stepAt_eq_some h with ⟨st, hst, rfl⟩
          exact .thread k _ st rfl hst
      | freeSend i p ret =>
          rcases stepAt_eq_some h with ⟨st, hst, rfl⟩
          exact .thread k _ st rfl hst

/-- A step changes the list by its call, and one context by its step. -/
theorem IncomingSteps.parts {a : IncomingAct K ι App X}
    (h : IncomingSteps matchTopic capacity s a s') :
    (match a.listCall with
      | some call => (subscriptionList _ _ capacity).step s.xGlobalSubscriptionList call =
          some s'.xGlobalSubscriptionList
      | none => s'.xGlobalSubscriptionList = s.xGlobalSubscriptionList) ∧
    ∀ k, match a.on k with
      | some act => queueStep (s.contexts k) act = some (s'.contexts k)
      | none => s'.contexts k = s.contexts k := by
  -- a context moves by its own steps only
  have hcontext : ∀ (k : K) (act : QueueAct ι) (st : QueueState ι),
      queueStep (s.contexts k) act = some st → ∀ k',
        match (if k = k' then some act else none : Option (QueueAct ι)) with
        | some act => queueStep (s.contexts k') act = some (Function.update s.contexts k st k')
        | none => Function.update s.contexts k st k' = s.contexts k' := by
    intro k act st hst k'
    by_cases hk : k = k'
    · subst hk
      rw [if_pos rfl, Function.update_self]
      exact hst
    · rw [if_neg hk, Function.update_of_ne (Ne.symm hk)]
  cases h with
  | list change res hidle hres =>
      refine ⟨?_, fun _ => rfl⟩
      simp only [IncomingAct.listCall, subscriptionList]
      exact if_pos hres
  | publish info handled hidle hhandled => exact ⟨rfl, fun _ => rfl⟩
  | application callback context rest hnone hcalls => exact ⟨rfl, fun _ => rfl⟩
  | receive k res rest st hnone hcalls hst => exact ⟨rfl, hcontext k _ st hst⟩
  | fill k malloc st hsome hst => exact ⟨rfl, hcontext k _ st hst⟩
  | send k ret st hsome hst => exact ⟨rfl, hcontext k _ st hst⟩
  | thread k act st hact hst => exact ⟨rfl, hcontext k act st hst⟩

end Steps

/-! ### What is due -/

section Due

variable [DecidableEq K] [DecidableEq App] [DecidableEq X] (matchTopic : MatchTopic)

/-- The publish matches the filter of the subscription. -/
def PublishInfo.Matches (info : PublishInfo)
    (t : Subscription (IncomingCallback App) (CallbackContext K X)) : Prop :=
  matchTopic info.topic t.filter = some true

instance (info : PublishInfo) (t : Subscription (IncomingCallback App) (CallbackContext K X)) :
    Decidable (info.Matches matchTopic t) :=
  inferInstanceAs (Decidable (_ = _))

/-- The call a subscription asks for. -/
def callOf (t : Subscription (IncomingCallback App) (CallbackContext K X)) : Call K App X :=
  (some t.callback, t.context)

/-- How often these subscriptions ask for the call. -/
def due (c : Call K App X) (L : Finset (Subscription (IncomingCallback App) (CallbackContext K X)))
    (info : PublishInfo) : Nat :=
  (L.filter (fun t => info.Matches matchTopic t ∧ callOf t = c)).card

/-- The publishes with which a callback is due to be called, from these
    subscriptions on. -/
def dueFrom (c : Call K App X) :
    Finset (Subscription (IncomingCallback App) (CallbackContext K X)) →
      List (IncomingAct K ι App X) → List PublishInfo
  | _, [] => []
  | L, .list change res :: acts => dueFrom c (liveStep L (change.call, res)) acts
  | L, .publish info _ :: acts => List.replicate (due matchTopic c L info) info ++ dueFrom c L acts
  | L, _ :: acts => dueFrom c L acts

/-- The publish with which a step calls the callback. -/
def IncomingAct.calling (c : Call K App X) : IncomingAct K ι App X → Option PublishInfo
  | .application callback context info =>
      if applicationCall callback context = c then some info else none
  | .queue k (.callbackReceive info _) => if queueCall k = c then some info else none
  | _ => none

/-- The subscriptions that a run leaves. -/
def liveAfter (acts : List (IncomingAct K ι App X)) :
    Finset (Subscription (IncomingCallback App) (CallbackContext K X)) :=
  live (acts.filterMap IncomingAct.listCall)

theorem dueFrom_append (c : Call K App X) (acts more : List (IncomingAct K ι App X))
    (L : Finset (Subscription (IncomingCallback App) (CallbackContext K X))) :
    dueFrom matchTopic c L (acts ++ more) = dueFrom matchTopic c L acts ++
      dueFrom matchTopic c ((acts.filterMap IncomingAct.listCall).foldl liveStep L) more := by
  induction acts generalizing L with
  | nil => rfl
  | cons a acts ih =>
      cases a with
      | list change res => exact ih _
      | publish info handled =>
          rw [List.cons_append, dueFrom, dueFrom, ih, List.append_assoc]
          rfl
      | application callback context info => exact ih _
      | queue k act => exact ih _

/-- What one more step makes due. -/
theorem dueFrom_concat (c : Call K App X) (acts : List (IncomingAct K ι App X))
    (a : IncomingAct K ι App X) :
    dueFrom matchTopic c ∅ (acts ++ [a]) = dueFrom matchTopic c ∅ acts ++
      match a with
      | .publish info _ => List.replicate (due matchTopic c (liveAfter acts) info) info
      | _ => [] := by
  rw [dueFrom_append]
  cases a with
  | publish info handled =>
      rw [dueFrom, dueFrom, List.append_nil]
      rfl
  | _ => rfl

/-- The walk over the list makes the calls that are due, and reports whether
    there are any. -/
theorem handleIncomingPublishes_due {capacity : Nat}
    (hmatch : ∀ topic filter, topic ≠ [] → filter ≠ [] → (matchTopic topic filter).isSome)
    {slots : SubscriptionList (IncomingCallback App) (CallbackContext K X)}
    {L : Finset (Subscription (IncomingCallback App) (CallbackContext K X))}
    (hcap : capacity < 2 ^ 31) (h : Holds capacity slots L) {info : PublishInfo}
    (htopic : info.topic ≠ []) :
    (∀ c, (handleIncomingPublishes matchTopic capacity slots info.topic).1.countP (· = c) =
        due matchTopic c L info) ∧
      ((handleIncomingPublishes matchTopic capacity slots info.topic).2 = true ↔
        ∃ t ∈ L, info.Matches matchTopic t) := by
  have hserves := serves_of_holds hcap hmatch h
  refine ⟨fun c => ?_, hserves.handled_iff _ htopic⟩
  -- each matching subscription has one element, and so one call
  have hcalls := congrArg (Multiset.countP (· = c)) (hserves.calls_eq _ htopic)
  rw [Multiset.coe_countP, Multiset.countP_map, Finset.filter_val, Multiset.filter_filter] at hcalls
  rw [hcalls, due, Finset.card_def, Finset.filter_val]
  refine congrArg Multiset.card (Multiset.filter_congr (fun t _ => ?_))
  exact and_comm

end Due

/-! ### Runs -/

/-- The publish a context is asked to take. -/
def QueueAct.asked : QueueAct ι → Option PublishInfo
  | .callbackReceive info _ => some info
  | _ => none

section Runs

variable [DecidableEq K] [DecidableEq ι] [DecidableEq App] [DecidableEq X]
  {matchTopic : MatchTopic} {capacity : Nat} {contexts : K → UserContext}
  {acts : List (IncomingAct K ι App X)} {s : IncomingState K ι App X}

/-- What a context sees is a run of its own. -/
theorem context_run (hrun : (incoming matchTopic capacity ι contexts).run acts = some s) (k : K) :
    (publishQueue ι (contexts k)).run (acts.filterMap (IncomingAct.on k)) =
      some (s.contexts k) := by
  refine System.run_part (incoming matchTopic capacity ι contexts) (publishQueue ι (contexts k))
    (fun s => s.contexts k) (IncomingAct.on k) rfl ?_ acts s hrun
  intro s a s' hstep
  have hpart := (incomingSteps_of_step hstep).parts.2 k
  cases hon : a.on k with
  | none =>
      rw [hon] at hpart
      exact hpart
  | some act =>
      rw [hon] at hpart
      exact hpart

/-- The list has the subscriptions that its calls leave. -/
theorem holds_liveAfter (hcap : capacity < 2 ^ 31)
    (hrun : (incoming matchTopic capacity ι contexts).run acts = some s) :
    Holds capacity s.xGlobalSubscriptionList (liveAfter acts) := by
  refine holds_live hcap _ _ (System.run_part (incoming matchTopic capacity ι contexts)
    (subscriptionList _ _ capacity) (fun s => s.xGlobalSubscriptionList) IncomingAct.listCall
    rfl ?_ acts s hrun)
  intro s a s' hstep
  have hpart := (incomingSteps_of_step hstep).parts.1
  cases hcall : a.listCall with
  | none =>
      rw [hcall] at hpart
      exact hpart
  | some call =>
      rw [hcall] at hpart
      exact hpart

/-- The calls made so far, and those to come, are the ones that are due. -/
theorem calls_due (hcap : capacity < 2 ^ 31)
    (hmatch : ∀ topic filter, topic ≠ [] → filter ≠ [] → (matchTopic topic filter).isSome)
    (hrun : (incoming matchTopic capacity ι contexts).run acts = some s)
    (htopics : ∀ info handled, .publish info handled ∈ acts → info.topic ≠ []) (c : Call K App X) :
    acts.filterMap (IncomingAct.calling c) ++
        List.replicate (s.calls.countP (· = c)) s.pxPublishInfo =
      dueFrom matchTopic c ∅ acts := by
  refine System.run_induction (incoming matchTopic capacity ι contexts)
    (P := fun acts s => (∀ info handled, .publish info handled ∈ acts → info.topic ≠ []) →
      acts.filterMap (IncomingAct.calling c) ++
        List.replicate (s.calls.countP (· = c)) s.pxPublishInfo = dueFrom matchTopic c ∅ acts)
    (fun _ => rfl) ?_ acts s hrun htopics
  intro acts s a s' hr ih hstep htopics
  have hbefore := ih (fun info handled hmem => htopics info handled (List.mem_append_left _ hmem))
  rw [System.filterMap_concat, dueFrom_concat, ← hbefore]
  -- a call that is made is the next one to come
  have hmade : ∀ call rest, s.calls = call :: rest →
      acts.filterMap (IncomingAct.calling c) ++
          (if call = c then some s.pxPublishInfo else none : Option PublishInfo).toList ++
        List.replicate (rest.countP (· = c)) s.pxPublishInfo =
      acts.filterMap (IncomingAct.calling c) ++
        List.replicate (s.calls.countP (· = c)) s.pxPublishInfo := by
    intro call rest hcalls
    rw [hcalls, List.countP_cons, List.append_assoc]
    by_cases hc : call = c
    · rw [if_pos hc, if_pos (decide_eq_true hc), List.replicate_succ]
      rfl
    · rw [if_neg hc, if_neg (fun h => hc (of_decide_eq_true h))]
      rfl
  -- any other step makes no call and changes no call to come
  have hquiet : acts.filterMap (IncomingAct.calling c) ++ [] ++
        List.replicate (s.calls.countP (· = c)) s.pxPublishInfo =
      acts.filterMap (IncomingAct.calling c) ++
        List.replicate (s.calls.countP (· = c)) s.pxPublishInfo ++ [] := by
    rw [List.append_nil, List.append_nil]
  cases incomingSteps_of_step hstep with
  | list change res hidle hres => exact hquiet
  | publish info handled hidle hhandled =>
      have hnone : s.calls = [] := List.isEmpty_iff.mp hidle.1
      -- a publish puts the calls it is due before the agent
      have hdue := (handleIncomingPublishes_due matchTopic hmatch hcap (holds_liveAfter hcap hr)
        (htopics info handled (List.mem_append_right _ (List.mem_singleton_self _)))).1 c
      simp only [hnone, hdue, IncomingAct.calling, Option.toList_none, List.append_nil,
        List.countP_nil, List.replicate_zero]
  | application callback context rest hnone hcalls =>
      rw [List.append_nil]
      exact hmade _ rest hcalls
  | receive k res rest st hnone hcalls hst =>
      rw [List.append_nil]
      exact hmade _ rest hcalls
  | fill k malloc st hsome hst => exact hquiet
  | send k ret st hsome hst => exact hquiet
  | thread k act st hact hst =>
      cases act with
      | dequeue i res => exact hquiet
      | freeClear i p freeBuffer => exact hquiet
      | freeSend i p ret => exact hquiet
      | _ => cases hact

/-- A publish is reported as handled if a live subscription matches it. -/
theorem handled_iff (hcap : capacity < 2 ^ 31)
    (hmatch : ∀ topic filter, topic ≠ [] → filter ≠ [] → (matchTopic topic filter).isSome)
    {before after : List (IncomingAct K ι App X)} {info : PublishInfo} {handled : Bool}
    (hrun : (incoming matchTopic capacity ι contexts).run (before ++ .publish info handled :: after)
      = some s) (htopic : info.topic ≠ []) :
    handled = true ↔ ∃ t ∈ liveAfter before, info.Matches matchTopic t := by
  rw [List.append_cons, System.run_append, Option.bind_eq_some_iff] at hrun
  rcases hrun with ⟨s2, hrun, -⟩
  rcases (System.run_concat _ _ _ s2).mp hrun with ⟨s1, hbefore, hstep⟩
  have hhandled : (handleIncomingPublishes matchTopic capacity s1.xGlobalSubscriptionList
      info.topic).2 = handled := by
    have hsteps : IncomingSteps matchTopic capacity s1 (.publish info handled) s2 :=
      incomingSteps_of_step hstep
    cases hsteps with
    | publish _ _ hidle hhandled => exact hhandled
  rw [← hhandled]
  exact (handleIncomingPublishes_due matchTopic hmatch hcap (holds_liveAfter hcap hbefore)
    htopic).2

omit [DecidableEq ι] in
/-- What is due was published. -/
theorem mem_dueFrom {c : Call K App X} {info : PublishInfo}
    {L : Finset (Subscription (IncomingCallback App) (CallbackContext K X))}
    (h : info ∈ dueFrom matchTopic c L acts) : ∃ handled, .publish info handled ∈ acts := by
  induction acts generalizing L with
  | nil => cases h
  | cons a acts ih =>
      have hlater : ∀ {L}, info ∈ dueFrom matchTopic c L acts →
          ∃ handled, .publish info handled ∈ a :: acts := by
        intro L hmem
        rcases ih hmem with ⟨handled, hhandled⟩
        exact ⟨handled, List.mem_cons_of_mem _ hhandled⟩
      cases a with
      | list change res => exact hlater h
      | publish info' handled =>
          rcases List.mem_append.mp h with hnow | hthen
          · rw [List.eq_of_mem_replicate hnow]
            exact ⟨handled, List.mem_cons_self⟩
          · exact hlater hthen
      | application callback context info' => exact hlater h
      | queue k act => exact hlater h

omit [DecidableEq ι] in
/-- The publishes a context is asked to take are those its queue is called with. -/
theorem asked_eq (k : K) :
    (acts.filterMap (IncomingAct.on k)).filterMap QueueAct.asked =
      acts.filterMap (IncomingAct.calling (queueCall k)) := by
  rw [List.filterMap_filterMap]
  refine List.filterMap_congr (fun a _ => ?_)
  cases a with
  | list change res => rfl
  | publish info handled => rfl
  | application callback context info =>
      -- a callback of the application is another one
      have hne : (applicationCall callback context : Call K App X) ≠ queueCall k := by
        intro h
        cases (Prod.mk.injEq _ _ _ _ ▸ h).1
      simp only [IncomingAct.on, Option.bind_none, IncomingAct.calling, if_neg hne]
  | queue k' act =>
      by_cases hk : k' = k
      · subst hk
        simp only [IncomingAct.on, if_true, Option.bind_some]
        cases act with
        | callbackReceive info res => exact (if_pos rfl).symm
        | _ => rfl
      · simp only [IncomingAct.on, if_neg hk, Option.bind_none]
        cases act with
        | callbackReceive info res =>
            have hne : (queueCall k' : Call K App X) ≠ queueCall k := by
              intro h
              cases (Prod.mk.injEq _ _ _ _ ▸ h).2
              exact hk rfl
            exact (if_neg hne).symm
        | _ => rfl

end Runs

/-- `iotshdDev_MQTTAgentCreateUserContext` made the context, and no allocation
    failed. -/
def CreatedFor (n : Nat) (context : UserContext) : Prop :=
  1 ≤ n ∧ n ≤ 2 ^ 29 ∧ ∃ heap1 heap2 base, base + n * sizeofQueueItem ≤ 2 ^ 64 ∧
    createUserContext ⟨true, true, ⟨true, some heap1⟩, ⟨true, some heap2⟩, some base⟩ n =
      .ok (some context)

theorem CreatedFor.delivers [DecidableEq ι] {n : Nat} {context : UserContext}
    (h : CreatedFor n context) : Delivers ι n context := by
  rcases h with ⟨hn, hfits, heap1, heap2, base, hbase, hcreate⟩
  rw [createUserContext_eq heap1 heap2 base n hn (by omega), Except.ok.injEq,
    Option.some.injEq] at hcreate
  subst hcreate
  exact delivers_of_le hn hfits hbase

/-- The publishes of a run have gone where they belong. -/
structure Routed [DecidableEq K] [DecidableEq ι] [DecidableEq App] [DecidableEq X]
    (matchTopic : MatchTopic) (n : K → Nat) (acts : List (IncomingAct K ι App X))
    (s : IncomingState K ι App X) : Prop where
  /-- A user context delivers what its queue is called with. -/
  delivered : ∀ k, ∃ box,
    Delivered (n k) (acts.filterMap (IncomingAct.on k)) (s.contexts k) box
  /-- Its queue is called once for each live subscription that asks for it and
      matches, in the order of the publishes. -/
  queues : ∀ k, (acts.filterMap (IncomingAct.on k)).filterMap QueueAct.asked ++
      List.replicate (s.calls.countP (· = queueCall k)) s.pxPublishInfo =
    dueFrom matchTopic (queueCall k) ∅ acts
  /-- So is a callback of the application. -/
  callbacks : ∀ callback context,
    acts.filterMap (IncomingAct.calling (applicationCall callback context)) ++
        List.replicate (s.calls.countP (· = applicationCall callback context)) s.pxPublishInfo =
      dueFrom matchTopic (applicationCall callback context) ∅ acts
  /-- A publish is unsolicited exactly if no live subscription matches it. -/
  handled : ∀ before info handled after, acts = before ++ .publish info handled :: after →
    (handled = true ↔ ∃ t ∈ liveAfter before, info.Matches matchTopic t)

/-- Every publish goes from the callback of the agent to the threads that wait
    for it, for any number of contexts and however the threads are scheduled. -/
theorem incomingPublishes_routed [DecidableEq K] [DecidableEq ι] [DecidableEq App]
    [DecidableEq X] (matchTopic : MatchTopic)
    (hmatch : ∀ topic filter, topic ≠ [] → filter ≠ [] → (matchTopic topic filter).isSome)
    (capacity : Nat) (hcap : capacity < 2 ^ 31) (contexts : K → UserContext) (n : K → Nat)
    (hcreated : ∀ k, CreatedFor (n k) (contexts k)) (acts : List (IncomingAct K ι App X))
    (hpublishes : ∀ info handled, .publish info handled ∈ acts → info.Sound ∧ info.topic ≠ [])
    (s : IncomingState K ι App X)
    (hrun : (incoming matchTopic capacity ι contexts).run acts = some s) :
    Routed matchTopic n acts s := by
  have htopics : ∀ info handled, .publish info handled ∈ acts → info.topic ≠ [] :=
    fun info handled hmem => (hpublishes info handled hmem).2
  have hdue := calls_due hcap hmatch hrun htopics
  refine ⟨fun k => ?_, fun k => ?_, fun callback context => hdue _, ?_⟩
  · refine (hcreated k).delivers _ _ (fun info res hmem => ?_) (context_run hrun k)
    -- the queue is called with what was published
    have hasked : info ∈ dueFrom matchTopic (queueCall k) ∅ acts := by
      rw [← hdue, ← asked_eq]
      exact List.mem_append_left _ (List.mem_filterMap.mpr ⟨_, hmem, rfl⟩)
    rcases mem_dueFrom hasked with ⟨handled, hpublished⟩
    exact (hpublishes info handled hpublished).1
  · rw [asked_eq]
    exact hdue _
  · rintro before info handled after rfl
    exact handled_iff hcap hmatch hrun
      (htopics info handled (List.mem_append_right _ List.mem_cons_self))

/-- Two subscriptions of one filter, by a queue and by a callback, and three
    publishes for a queue of two: one before, one between and one after them. -/
def routedActs (a : FilterArg) : List (IncomingAct Bool Unit Unit Unit) :=
  [.publish (barePublish 0) false,
    .list (.subscribed a (.withQueue true)) (some true),
    .publish (barePublish 1) true,
    .queue true (.callbackReceive (barePublish 1) (some 4096)),
    .queue true (.callbackFill (some (fun _ => 0))),
    .queue true (.callbackSend true),
    .list (.subscribed a (.withCallback () none)) (some true),
    .publish (barePublish 2) true,
    .queue true (.callbackReceive (barePublish 2) (some 4152)),
    .queue true (.dequeue () (some 4096)),
    .queue true (.callbackFill (some (fun _ => 0))),
    .queue true (.callbackSend true)]

theorem incomingPublishes_routed_two :
    ∃ (a : FilterArg) (s : IncomingState Bool Unit Unit Unit), a.filter = [97] ∧
      (incoming matchExact 2 Unit
        (fun _ => madeContext (fun _ => 0) (fun _ => 0) 4096 2)).run (routedActs a) = some s ∧
      Routed matchExact (fun _ => 2) (routedActs a) s := by
  let a : FilterArg := ⟨[97], 1, by decide, by decide, by decide, by decide⟩
  refine ⟨a, _, rfl, rfl, incomingPublishes_routed matchExact (fun topic filter ht hf => ?_)
    2 (by decide) _ _
    (fun _ => ⟨by decide, by decide, fun _ => 0, fun _ => 0, 4096, by decide,
      createUserContext_eq (fun _ => 0) (fun _ => 0) 4096 2 (by decide) (by decide)⟩)
    (routedActs a) (fun info handled hmem => ?_) _ rfl⟩
  · unfold matchExact
    rw [if_neg (not_or.mpr ⟨ht, hf⟩)]
    rfl
  · simp only [routedActs, List.mem_cons, List.not_mem_nil, or_false, false_or, reduceCtorEq,
      IncomingAct.publish.injEq] at hmem
    rcases hmem with ⟨rfl, -⟩ | ⟨rfl, -⟩ | ⟨rfl, -⟩
    · exact ⟨barePublish_sound 0, List.cons_ne_nil _ _⟩
    · exact ⟨barePublish_sound 1, List.cons_ne_nil _ _⟩
    · exact ⟨barePublish_sound 2, List.cons_ne_nil _ _⟩

end MqttAgent

end ProvisioningSdk
