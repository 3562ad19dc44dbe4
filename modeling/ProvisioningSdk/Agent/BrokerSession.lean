import Mathlib.Data.Finset.Insert
import ProvisioningSdk.Agent.CommandResults
import ProvisioningSdk.Agent.ThreadLoop

/-!
# The Broker's Session

The subscription list beside the set of filters the broker has for the client.

Three parties take steps: the thread loop, which connects; the calls and the
callbacks of `Agent.Commands`, which change the list; and the broker, which
carries out a request and acknowledges it on the connection. Acknowledgements
arrive in the order they were sent in, and those of a connection that is closed
are lost. A command completes with success only on its acknowledgement, and
with an error at any time.

The broker forgets its set when a session is new, and nothing subscribes again
after that: the list is in step with the broker only if it was empty then. The
other way for the two to part is an unsubscribe the broker has carried out and
the agent gives up on.

`SessionInv` allows for what is on its way. A listed filter that the broker does
not have is one a pending removal will take out, and an addition that is
acknowledged is followed by such a removal if the broker has dropped the filter
since.

## Main definitions

* `SessionState`, `brokerSession`: The three parties as a system.
* `Listed`: A filter of the subscription list.
* `InStep`: The broker has every listed filter.
* `KeepsInStep`: The condition on steps.
* `SessionInv`: The invariant.

## Theorems

* `listed_add`, `listed_remove`: What a callback does to the listed filters.
* `session_inStep`: With the condition the two are in step.
-/

namespace ProvisioningSdk

namespace MqttAgent

open SubscriptionManager Transition

variable {ι κ Cb Cx : Type*}

/-- The filter of a subscription call, as its packet and the list have it. -/
def requestedFilter (args : SubscribeArgs Cb Cx) : List UInt8 :=
  (cString args.pcTopicFilterString).take (topicFilterLength args)

/-- The call a command was submitted by. -/
def CommandState.call : CommandState κ Cb Cx → Option (AgentCall κ Cb Cx)
  | .absent => none
  | .pending call => some call
  | .completed call _ => some call

/-- The command waits for its callback. -/
def CommandState.isPending : CommandState κ Cb Cx → Bool
  | .pending _ => true
  | _ => false

/-- The agent's thread, the other threads, and the broker's set of filters.
    `served` are the commands whose requests the broker has carried out, and
    `acks` those whose acknowledgements are on their way. -/
structure SessionState (ι κ Cb Cx : Type*) where
  loop : LoopState
  agent : AgentState ι κ Cb Cx
  broker : Finset (List UInt8)
  served : Nat → Bool
  acks : List Nat

/-- One step of one party. -/
inductive SessionAct (ι κ Cb Cx : Type*)
  | loop (act : LoopAct)
  | agent (act : AgentAct ι κ Cb Cx)
  /-- The broker carries out the request of a command. -/
  | serve (command : Nat)

/-- What a request does to the set. -/
def AgentCall.serve : AgentCall κ Cb Cx → Finset (List UInt8) → Finset (List UInt8)
  | .publish _, broker => broker
  | .addSubscription _ args, broker => insert (requestedFilter args) broker
  | .removeSubscription _ args, broker => broker.erase (requestedFilter args)

/-- The step connects to the broker, and the session there is a new one. -/
def LoopState.newSession (st : LoopState) : LoopAct → Bool
  | .mqttConnect status xSessionPresent =>
      status == .MQTTSuccess && (st.pc == .mqttConnecting true || !xSessionPresent)
  | _ => false

/-- What was on its way on a connection is lost. -/
def LoopAct.drops : LoopAct → Bool
  | .mqttConnect _ _ => true
  | .tlsDisconnect => true
  | _ => false

namespace SessionState

/-- The acknowledgement of a subscription call arrives. -/
def acknowledged (st : SessionState ι κ Cb Cx) (id : Nat) : Prop :=
  st.loop.pc = .commandLoop ∧ st.acks.head? = some id

instance (st : SessionState ι κ Cb Cx) (id : Nat) : Decidable (st.acknowledged id) :=
  inferInstanceAs (Decidable (_ ∧ _))

/-- A callback runs in the command loop, or when a session is resumed. That of
    a subscription call gets `MQTTSuccess` for an acknowledgement only. -/
def allows (st : SessionState ι κ Cb Cx) : AgentAct ι κ Cb Cx → Bool
  | .store id returnCode =>
      (st.loop.pc == .commandLoop || st.loop.pc == .resuming true ||
        st.loop.pc == .resuming false) &&
      (returnCode != .MQTTSuccess || (st.agent.commands id).call.any (fun call => call.isPublish) ||
        decide (st.acknowledged id))
  | _ => true

/-- The acknowledgements that still count after a step. -/
def acksAfter (st : SessionState ι κ Cb Cx) : AgentAct ι κ Cb Cx → List Nat
  | .store id _ => st.acks.erase id
  | _ => st.acks

end SessionState

variable [DecidableEq ι] [DecidableEq κ] [DecidableEq Cb] [DecidableEq Cx]

/-- One step. -/
def sessionStep (st : SessionState ι κ Cb Cx) :
    SessionAct ι κ Cb Cx → Option (SessionState ι κ Cb Cx)
  | .loop act =>
      -- the loop and the callbacks are one thread
      if st.agent.agent.command = none then
        (loopStep st.loop act).map (fun loop =>
          { st with
            loop := loop
            broker := if st.loop.newSession act then ∅ else st.broker
            acks := if act.drops then [] else st.acks })
      else none
  | .agent act =>
      if st.allows act then
        (agentStep st.agent act).map (fun agent =>
          { st with
            agent := agent
            acks := st.acksAfter act })
      else none
  | .serve id => match (st.agent.commands id).call with
      | some call =>
          if call.isPublish = false ∧ st.served id = false ∧ st.loop.Connected then
            some
              { st with
                broker := call.serve st.broker
                served := Function.update st.served id true
                -- nobody waits for the answer to a command that was given up
                acks :=
                  if (st.agent.commands id).isPending ∧ st.agent.agent.command ≠ some id then
                    st.acks ++ [id]
                  else st.acks }
          else none
      | none => none

/-- The parties, from a list and a set of the broker in any state. -/
def brokerSession (ι κ : Type*) {Cb Cx : Type*} [DecidableEq ι] [DecidableEq κ] [DecidableEq Cb]
    [DecidableEq Cx] (slots : SubscriptionList Cb Cx) (broker : Finset (List UInt8)) :
    System (SessionState ι κ Cb Cx) (SessionAct ι κ Cb Cx) where
  init :=
    { loop := threadLoop.init
      agent := (agentSystem ι κ slots).init
      broker := broker
      served := fun _ => false
      acks := [] }
  step := sessionStep

/-! ### What the list has -/

section Lists

omit [DecidableEq ι] [DecidableEq κ] [DecidableEq Cb] [DecidableEq Cx]

/-- The list has a subscription with this filter. -/
def Listed (slots : SubscriptionList Cb Cx) (filter : List UInt8) : Prop :=
  ∃ j t, j < maxSubscriptions ∧ entry (slots j) = some t ∧ t.filter = filter

theorem listed_iff {slots : SubscriptionList Cb Cx} {L : Finset (Subscription Cb Cx)}
    (h : Holds maxSubscriptions slots L) (filter : List UInt8) :
    Listed slots filter ↔ ∃ t ∈ L, t.filter = filter := by
  constructor
  · rintro ⟨j, t, hj, hjt, hfilter⟩
    exact ⟨t, (h.represents.mem_iff t).mpr ⟨j, hj, hjt⟩, hfilter⟩
  · rintro ⟨t, ht, hfilter⟩
    rcases (h.represents.mem_iff t).mp ht with ⟨j, hj, hjt⟩
    exact ⟨j, t, hj, hjt, hfilter⟩

/-- No subscription has the empty filter. -/
theorem not_listed_nil {slots : SubscriptionList Cb Cx} {L : Finset (Subscription Cb Cx)}
    (h : Holds maxSubscriptions slots L) : ¬ Listed slots [] := by
  rintro ⟨j, t, -, hjt, hfilter⟩
  rcases h.written j with hzero | ⟨f, cb, ctx, helement⟩
  · rw [hzero, entry_zeroElement] at hjt
    cases hjt
  · rw [helement, entry_element, Option.some.injEq] at hjt
    rw [← hjt] at hfilter
    exact f.filter_ne_nil hfilter

theorem length_cString_le (s : List UInt8) : (cString s).length ≤ s.length :=
  List.IsPrefix.length_le (List.takeWhile_prefix _)

theorem take_cString {s : List UInt8} {n : Nat} (hn : n ≤ (cString s).length) :
    s.take n = (cString s).take n := by
  have hcut : cString s = s.take (cString s).length :=
    List.prefix_iff_eq_take.mp (List.takeWhile_prefix _)
  rw [hcut, List.take_take, Nat.min_eq_left hn]

theorem topicFilterLength_le (args : SubscribeArgs Cb Cx) :
    topicFilterLength args ≤ (cString args.pcTopicFilterString).length :=
  Nat.mod_le _ _

/-- The filter argument of a call with a filter. -/
def requestArg (args : SubscribeArgs Cb Cx) (h : topicFilterLength args ≠ 0) : FilterArg where
  string := args.pcTopicFilterString
  length := topicFilterLength args
  length_pos := Nat.pos_of_ne_zero h
  length_lt := topicFilterLength_lt args
  length_le := (topicFilterLength_le args).trans (length_cString_le _)
  noNul := by
    rw [take_cString (topicFilterLength_le args)]
    intro hmem
    have hne := List.mem_takeWhile_imp (List.mem_of_mem_take hmem)
    simp only [bne_self_eq_false, Bool.false_eq_true] at hne

theorem filter_requestArg (args : SubscribeArgs Cb Cx) (h : topicFilterLength args ≠ 0) :
    (requestArg args h).filter = requestedFilter args :=
  take_cString (topicFilterLength_le args)

end Lists

omit [DecidableEq κ] in
/-- An addition lists no other filter than its own. -/
theorem listed_add {slots : SubscriptionList Cb Cx} {L : Finset (Subscription Cb Cx)}
    (h : Holds maxSubscriptions slots L) (k : κ) (args : SubscribeArgs Cb Cx) :
    ∃ L', Holds maxSubscriptions (updateList (.addSubscription k args) .MQTTSuccess slots) L' ∧
      ∀ filter, Listed (updateList (.addSubscription k args) .MQTTSuccess slots) filter →
        Listed slots filter ∨ requestedFilter args = filter := by
  by_cases hlen : topicFilterLength args = 0
  · -- a filter of length zero is refused
    have hlist : updateList (.addSubscription k args) .MQTTSuccess slots = slots := by
      simp only [updateList, if_true, SubscriptionManager.addSubscription]
      cases args.pxIncomingPublishCallback with
      | none => rfl
      | some cb => simp only [if_pos hlen]
    rw [hlist]
    exact ⟨L, h, fun _ hf => Or.inl hf⟩
  · cases hcb : args.pxIncomingPublishCallback with
    | none =>
        have hlist : updateList (.addSubscription k args) .MQTTSuccess slots = slots := by
          simp only [updateList, if_true, SubscriptionManager.addSubscription, hcb]
        rw [hlist]
        exact ⟨L, h, fun _ hf => Or.inl hf⟩
    | some cb =>
        have hadd := (h.addSubscription (by decide) (requestArg args hlen) cb
          args.pvIncomingPublishCallbackContext).1
        have hlist : updateList (.addSubscription k args) .MQTTSuccess slots =
            (SubscriptionManager.addSubscription maxSubscriptions slots
              (some (requestArg args hlen).string) (requestArg args hlen).length (some cb)
              args.pvIncomingPublishCallbackContext).1 := by
          simp only [updateList, if_true, hcb, requestArg]
        rw [hlist]
        refine ⟨_, hadd, ?_⟩
        intro filter hfilter
        rcases (listed_iff hadd filter).mp hfilter with ⟨t, ht, htf⟩
        have hmem : t = ⟨(requestArg args hlen).filter, cb,
            args.pvIncomingPublishCallbackContext⟩ ∨ t ∈ L := by
          split at ht
          · exact Finset.mem_insert.mp ht
          · exact Or.inr ht
        rcases hmem with hnew | hold
        · right
          rw [← htf, hnew, filter_requestArg]
        · exact Or.inl ((listed_iff h filter).mpr ⟨t, hold, htf⟩)

omit [DecidableEq κ] in
/-- A removal leaves every listed filter but its own. -/
theorem listed_remove {slots : SubscriptionList Cb Cx} {L : Finset (Subscription Cb Cx)}
    (h : Holds maxSubscriptions slots L) (k : κ) (args : SubscribeArgs Cb Cx) :
    ∃ L', Holds maxSubscriptions (updateList (.removeSubscription k args) .MQTTSuccess slots) L' ∧
      ∀ filter, Listed (updateList (.removeSubscription k args) .MQTTSuccess slots) filter →
        Listed slots filter ∧ requestedFilter args ≠ filter := by
  by_cases hlen : topicFilterLength args = 0
  · -- an empty filter is not removed, and is not listed
    have hlist : updateList (.removeSubscription k args) .MQTTSuccess slots = slots := by
      simp only [updateList, if_true, SubscriptionManager.removeSubscription, if_pos hlen]
    have hnil : requestedFilter args = [] := by
      unfold requestedFilter
      rw [hlen, List.take_zero]
    rw [hlist, hnil]
    refine ⟨L, h, fun filter hf => ⟨hf, ?_⟩⟩
    intro hc
    exact not_listed_nil h (hc ▸ hf)
  · have hremove := h.remove (requestArg args hlen)
    have hlist : updateList (.removeSubscription k args) .MQTTSuccess slots =
        SubscriptionManager.removeSubscription maxSubscriptions slots
          (some (requestArg args hlen).string) (requestArg args hlen).length := by
      simp only [updateList, if_true, requestArg]
    rw [hlist]
    refine ⟨_, hremove, ?_⟩
    intro filter hfilter
    -- what is left was listed with another filter
    rcases (listed_iff hremove filter).mp hfilter with ⟨t, ht, htf⟩
    rw [filter_requestArg, Finset.mem_filter] at ht
    refine ⟨(listed_iff h filter).mpr ⟨t, ht.1, htf⟩, ?_⟩
    intro hc
    exact ht.2 (htf.trans hc.symm)

/-! ### The invariant -/

section Invariant

omit [DecidableEq ι] [DecidableEq κ] [DecidableEq Cb] [DecidableEq Cx]

/-- One of these commands is a pending removal of the filter. -/
def RemovedBy (commands : Nat → CommandState κ Cb Cx) (ids : List Nat) (filter : List UInt8) :
    Prop :=
  ∃ id ∈ ids, ∃ k args, commands id = .pending (.removeSubscription k args) ∧
    requestedFilter args = filter

/-- Where an addition is acknowledged, the broker still has its filter, or an
    acknowledged removal follows. -/
def InOrder (commands : Nat → CommandState κ Cb Cx) (broker : Finset (List UInt8)) :
    List Nat → Prop
  | [] => True
  | id :: rest =>
      (∀ k args, commands id = .pending (.addSubscription k args) →
        requestedFilter args ∈ broker ∨ RemovedBy commands rest (requestedFilter args)) ∧
      InOrder commands broker rest

/-- The broker has the filter, or has carried out a pending removal of it. -/
def Backed (commands : Nat → CommandState κ Cb Cx) (broker : Finset (List UInt8))
    (served : Nat → Bool) (filter : List UInt8) : Prop :=
  filter ∈ broker ∨ ∃ id k args, commands id = .pending (.removeSubscription k args) ∧
    served id = true ∧ requestedFilter args = filter

/-- The list is in step with the broker, up to what is on its way. -/
structure SessionInv (commands : Nat → CommandState κ Cb Cx) (slots : SubscriptionList Cb Cx)
    (agent : AgentPc) (broker : Finset (List UInt8)) (served : Nat → Bool) (acks : List Nat) :
    Prop where
  holds : ∃ L, Holds maxSubscriptions slots L
  backed : ∀ filter, Listed slots filter → Backed commands broker served filter
  acked : ∀ id ∈ acks, (∃ call, commands id = .pending call ∧ call.isPublish = false) ∧
    served id = true ∧ agent.command ≠ some id
  nodup : acks.Nodup
  order : InOrder commands broker acks
  /-- A callback that is about to list a filter. -/
  storing : ∀ id k args, agent = .stored id .MQTTSuccess →
    commands id = .pending (.addSubscription k args) →
      requestedFilter args ∈ broker ∨ RemovedBy commands acks (requestedFilter args)
  /-- A removal that was carried out has not failed. -/
  carried : ∀ id k args rc, (agent = .stored id rc ∨ agent = .updated id rc) →
    commands id = .pending (.removeSubscription k args) → served id = true → rc = .MQTTSuccess
  gone : ∀ id k args, agent = .updated id .MQTTSuccess →
    commands id = .pending (.removeSubscription k args) → ¬ Listed slots (requestedFilter args)

theorem RemovedBy.mono {commands : Nat → CommandState κ Cb Cx} {ids ids' : List Nat}
    {filter : List UInt8} (h : RemovedBy commands ids filter) (hids : ∀ id ∈ ids, id ∈ ids') :
    RemovedBy commands ids' filter := by
  rcases h with ⟨id, hid, hrest⟩
  exact ⟨id, hids id hid, hrest⟩

theorem RemovedBy.congr {commands commands' : Nat → CommandState κ Cb Cx} {ids : List Nat}
    {filter : List UInt8} (h : RemovedBy commands ids filter)
    (hsame : ∀ id ∈ ids, commands' id = commands id) : RemovedBy commands' ids filter := by
  rcases h with ⟨id, hid, k, args, hcommand, hfilter⟩
  exact ⟨id, hid, k, args, (hsame id hid).trans hcommand, hfilter⟩

theorem InOrder.congr {commands commands' : Nat → CommandState κ Cb Cx}
    {broker : Finset (List UInt8)} {acks : List Nat} (h : InOrder commands broker acks)
    (hsame : ∀ id ∈ acks, commands' id = commands id) : InOrder commands' broker acks := by
  induction acks with
  | nil => trivial
  | cons id rest ih =>
      have hrest : ∀ id ∈ rest, commands' id = commands id :=
        fun n hn => hsame n (List.mem_cons_of_mem _ hn)
      refine ⟨fun k args hcommand => ?_, ih h.2 hrest⟩
      rw [hsame id List.mem_cons_self] at hcommand
      exact (h.1 k args hcommand).imp_right (fun hr => hr.congr hrest)

/-- An acknowledgement that is not of a removal can be left out. -/
theorem InOrder.erase {commands : Nat → CommandState κ Cb Cx} {broker : Finset (List UInt8)}
    {acks : List Nat} (h : InOrder commands broker acks) (id : Nat)
    (hid : ∀ k args, commands id ≠ .pending (.removeSubscription k args)) :
    InOrder commands broker (acks.erase id) := by
  induction acks with
  | nil => exact h
  | cons n rest ih =>
      by_cases hn : n = id
      · rw [hn, List.erase_cons_head]
        exact h.2
      · rw [List.erase_cons_tail (by simpa using hn)]
        refine ⟨fun k args hcommand => (h.1 k args hcommand).imp_right ?_, ih h.2⟩
        rintro ⟨m, hm, k', args', hremove, hfilter⟩
        have hne : m ≠ id := by
          intro hc
          exact hid k' args' (hc ▸ hremove)
        exact ⟨m, (List.mem_erase_of_ne hne).mpr hm, k', args', hremove, hfilter⟩

/-- A request takes no filter from the broker but that of a removal. -/
theorem AgentCall.mem_serve (call : AgentCall κ Cb Cx) {broker : Finset (List UInt8)}
    {filter : List UInt8} (h : filter ∈ broker) : filter ∈ call.serve broker ∨
      ∃ k args, call = .removeSubscription k args ∧ requestedFilter args = filter := by
  cases call with
  | publish k => exact Or.inl h
  | addSubscription k args => exact Or.inl (Finset.mem_insert_of_mem h)
  | removeSubscription k args =>
      by_cases hsame : filter = requestedFilter args
      · exact Or.inr ⟨k, args, rfl, hsame.symm⟩
      · exact Or.inl (Finset.mem_erase.mpr ⟨hsame, h⟩)

/-- A request that was carried out is acknowledged last. -/
theorem InOrder.serve {commands : Nat → CommandState κ Cb Cx} {broker : Finset (List UInt8)}
    {acks : List Nat} (h : InOrder commands broker acks) (id : Nat) (call : AgentCall κ Cb Cx)
    (hcommand : commands id = .pending call) :
    InOrder commands (call.serve broker) (acks ++ [id]) := by
  induction acks with
  | nil =>
      refine ⟨fun k args hadd => Or.inl ?_, trivial⟩
      rw [hcommand] at hadd
      cases hadd
      exact Finset.mem_insert_self _ _
  | cons n rest ih =>
      refine ⟨fun k args hadd => ?_, ih h.2⟩
      rcases h.1 k args hadd with hmem | hremoved
      · -- what a removal takes from the broker, its own acknowledgement accounts for
        rcases call.mem_serve hmem with hstill | ⟨k', args', rfl, hfilter⟩
        · exact Or.inl hstill
        · exact Or.inr ⟨id, List.mem_append_right _ (List.mem_singleton_self id), k', args',
            hcommand, hfilter⟩
      · exact Or.inr (hremoved.mono (fun m hm => List.mem_append_left _ hm))

theorem RemovedBy.backed {commands : Nat → CommandState κ Cb Cx} {broker : Finset (List UInt8)}
    {served : Nat → Bool} {acks : List Nat} {filter : List UInt8}
    (h : RemovedBy commands acks filter) (hserved : ∀ id ∈ acks, served id = true) :
    Backed commands broker served filter := by
  rcases h with ⟨id, hid, k, args, hcommand, hfilter⟩
  exact Or.inr ⟨id, k, args, hcommand, hserved id hid, hfilter⟩

theorem InOrder.mono {commands : Nat → CommandState κ Cb Cx} {broker broker' : Finset (List UInt8)}
    {acks : List Nat} (h : InOrder commands broker acks) (hbroker : broker ⊆ broker') :
    InOrder commands broker' acks := by
  induction acks with
  | nil => trivial
  | cons id rest ih =>
      exact ⟨fun k args hcommand => (h.1 k args hcommand).imp_left (fun hm => hbroker hm), ih h.2⟩

/-- A change to a command that nothing is on its way for. -/
theorem SessionInv.update {commands : Nat → CommandState κ Cb Cx}
    {slots : SubscriptionList Cb Cx} {agent : AgentPc} {broker : Finset (List UInt8)}
    {served : Nat → Bool} {acks : List Nat}
    (h : SessionInv commands slots agent broker served acks) (id : Nat) (c : CommandState κ Cb Cx)
    (agent' : AgentPc) (hid : id ∉ acks) (hagent' : ∀ n rc, agent' = .stored n rc →
      agent = .stored n rc ∧ n ≠ id) (hupdated : ∀ n rc, agent' = .updated n rc →
      agent = .updated n rc ∧ n ≠ id)
    (hbacked : ∀ k args, commands id = .pending (.removeSubscription k args) → served id = true →
      ¬ Listed slots (requestedFilter args)) :
    SessionInv (Function.update commands id c) slots agent' broker served acks := by
  -- no answer on its way is about the command
  have hsame : ∀ n ∈ acks, Function.update commands id c n = commands n := by
    intro n hn
    have hne : n ≠ id := by
      intro hc
      exact hid (hc ▸ hn)
    rw [Function.update_of_ne hne]
  refine ⟨h.holds, ?_, ?_, h.nodup, h.order.congr hsame, ?_, ?_, ?_⟩
  · -- a filter that only a removal accounts for is not that of this command
    intro filter hfilter
    rcases h.backed filter hfilter with hmem | ⟨n, k, args, hcommand, hserved, hnf⟩
    · exact Or.inl hmem
    · have hne : n ≠ id := by
        rintro rfl
        exact hbacked k args hcommand hserved (hnf ▸ hfilter)
      exact Or.inr ⟨n, k, args, by rw [Function.update_of_ne hne]; exact hcommand, hserved, hnf⟩
  · intro n hn
    rcases h.acked n hn with ⟨hpending, hserved, hagent⟩
    rw [hsame n hn]
    refine ⟨hpending, hserved, ?_⟩
    cases hcase : agent' with
    | idle => exact fun hc => by cases hc
    | stored m rc =>
        rw [(hagent' m rc hcase).1] at hagent
        exact hagent
    | updated m rc =>
        rw [(hupdated m rc hcase).1] at hagent
        exact hagent
  · -- where the agent is in its callback, it is there for another command
    intro n k args hn hcommand
    rcases hagent' n _ hn with ⟨hold, hne⟩
    rw [Function.update_of_ne hne] at hcommand
    exact (h.storing n k args hold hcommand).imp_right (fun hr => hr.congr hsame)
  · intro n k args rc hn hcommand hserved
    rcases hn with hn | hn
    · rcases hagent' n rc hn with ⟨hold, hne⟩
      rw [Function.update_of_ne hne] at hcommand
      exact h.carried n k args rc (Or.inl hold) hcommand hserved
    · rcases hupdated n rc hn with ⟨hold, hne⟩
      rw [Function.update_of_ne hne] at hcommand
      exact h.carried n k args rc (Or.inr hold) hcommand hserved
  · intro n k args hn hcommand
    rcases hupdated n _ hn with ⟨hold, hne⟩
    rw [Function.update_of_ne hne] at hcommand
    exact h.gone n k args hold hcommand

end Invariant

/-- What keeps the list in step: a new session finds it empty, and a removal is
    not both carried out and completed with an error. -/
def KeepsInStep (st : SessionState ι κ Cb Cx) : SessionAct ι κ Cb Cx → Prop
  | .loop act => st.loop.newSession act = true →
      ∀ filter, ¬ Listed st.agent.xGlobalSubscriptionList filter
  | .agent (.store id returnCode) => returnCode ≠ .MQTTSuccess → ∀ k args,
      st.agent.commands id = .pending (.removeSubscription k args) → st.served id = false
  | .agent _ => True
  | .serve id => ∀ k args, (st.agent.commands id).call = some (.removeSubscription k args) →
      (st.agent.commands id).isPending = true ∧ st.agent.agent.command ≠ some id

/-- The invariant of a state. -/
def SessionState.Inv (st : SessionState ι κ Cb Cx) : Prop :=
  SessionInv st.agent.commands st.agent.xGlobalSubscriptionList st.agent.agent st.broker st.served
    st.acks

omit [DecidableEq ι] [DecidableEq κ] [DecidableEq Cb] [DecidableEq Cx] in
/-- A step of the loop changes the broker only with the list empty. -/
theorem sessionInv_loop {st : SessionState ι κ Cb Cx} (h : st.Inv) (act : LoopAct)
    (loop : LoopState)
    (hidle : st.agent.agent.command = none) (hguard : KeepsInStep st (.loop act)) :
    SessionState.Inv
      { st with
        loop := loop
        broker := if st.loop.newSession act then ∅ else st.broker
        acks := if act.drops then [] else st.acks } := by
  have hagent : st.agent.agent = .idle := by
    cases hcase : st.agent.agent with
    | idle => rfl
    | stored id rc =>
        rw [hcase] at hidle
        cases hidle
    | updated id rc =>
        rw [hcase] at hidle
        cases hidle
  -- only a new connection makes a new session, and nothing is on its way on it
  have hacks : st.loop.newSession act = true → act.drops = true := by
    intro hnew
    cases act with
    | mqttConnect status sessionPresent => rfl
    | _ => cases hnew
  unfold SessionState.Inv at *
  refine ⟨h.holds, ?_, ?_, ?_, ?_, ?_, ?_, ?_⟩
  · -- a new session has no filter, and then none is listed
    intro filter hfilter
    by_cases hnew : st.loop.newSession act = true
    · exact absurd hfilter (hguard hnew filter)
    · simp only [if_neg hnew]
      exact h.backed filter hfilter
  · -- what is left of the answers after the step was there before
    intro id hid
    by_cases hdrops : act.drops = true
    · simp only [if_pos hdrops] at hid
      cases hid
    · simp only [if_neg hdrops] at hid
      exact h.acked id hid
  · by_cases hdrops : act.drops = true
    · simp only [if_pos hdrops]
      exact List.nodup_nil
    · simp only [if_neg hdrops]
      exact h.nodup
  · by_cases hdrops : act.drops = true
    · simp only [if_pos hdrops]
      trivial
    · simp only [if_neg hdrops, if_neg (fun hnew => hdrops (hacks hnew))]
      exact h.order
  · -- the rest is about a callback, and the agent is in none
    intro id k args hid
    simp only [hagent] at hid
    cases hid
  · intro id k args rc hid
    simp only [hagent] at hid
    rcases hid with hid | hid
    · cases hid
    · cases hid
  · intro id k args hid
    simp only [hagent] at hid
    cases hid

omit [DecidableEq ι] [DecidableEq κ] [DecidableEq Cb] [DecidableEq Cx] in
/-- The broker carries out a request, and acknowledges it if the command still
    waits. -/
theorem sessionInv_serve {st : SessionState ι κ Cb Cx} (h : st.Inv) (id : Nat)
    (call : AgentCall κ Cb Cx)
    (hcall : (st.agent.commands id).call = some call) (hsub : call.isPublish = false)
    (hnew : st.served id = false) (hguard : KeepsInStep st (.serve id)) :
    SessionState.Inv
      { st with
        broker := call.serve st.broker
        served := Function.update st.served id true
        acks :=
          if (st.agent.commands id).isPending ∧ st.agent.agent.command ≠ some id then
            st.acks ++ [id]
          else st.acks } := by
  have hserved : ∀ n, st.served n = true → Function.update st.served id true n = true := by
    intro n hn
    by_cases hni : n = id
    · rw [hni, Function.update_self]
    · rw [Function.update_of_ne hni]
      exact hn
  have hfresh : id ∉ st.acks := by
    intro hid
    have hc := (h.acked id hid).2.1
    rw [hnew] at hc
    cases hc
  -- a removal is still waited for, so what it takes from the broker is backed by it
  have hpending : ∀ k args, call = .removeSubscription k args →
      st.agent.commands id = .pending (.removeSubscription k args) := by
    rintro k args rfl
    have hwaits := (hguard k args hcall).1
    cases hcommand : st.agent.commands id with
    | absent =>
        rw [hcommand] at hcall
        cases hcall
    | pending c =>
        rw [hcommand] at hcall
        cases hcall
        rfl
    | completed c rc =>
        rw [hcommand] at hwaits
        cases hwaits
  -- so every filter that was accounted for still is
  have hbacked : ∀ filter, Backed st.agent.commands st.broker st.served filter →
      Backed st.agent.commands (call.serve st.broker) (Function.update st.served id true)
        filter := by
    rintro filter (hmem | ⟨n, k, args, hcommand, hn, hfilter⟩)
    · rcases call.mem_serve hmem with hstill | ⟨k, args, hcall', hfilter⟩
      · exact Or.inl hstill
      · exact Or.inr ⟨id, k, args, hpending k args hcall', by rw [Function.update_self], hfilter⟩
    · exact Or.inr ⟨n, k, args, hcommand, hserved n hn, hfilter⟩
  have hlisted : ∀ filter, Listed st.agent.xGlobalSubscriptionList filter →
      Backed st.agent.commands (call.serve st.broker) (Function.update st.served id true) filter :=
    fun filter hfilter => hbacked filter (h.backed filter hfilter)
  by_cases hwaits : (st.agent.commands id).isPending = true ∧ st.agent.agent.command ≠ some id
  · -- the answer follows those that are on their way
    have hcommand : st.agent.commands id = .pending call := by
      cases hcase : st.agent.commands id with
      | pending c =>
          rw [hcase] at hcall
          cases hcall
          rfl
      | absent =>
          rw [hcase] at hcall
          cases hcall
      | completed c rc =>
          rw [hcase] at hwaits
          cases hwaits.1
    unfold SessionState.Inv
    simp only [if_pos hwaits]
    refine ⟨h.holds, hlisted, ?_, ?_, h.order.serve id call hcommand, ?_, ?_, h.gone⟩
    · intro n hn
      rcases List.mem_append.mp hn with hold | hlast
      · rcases h.acked n hold with ⟨hp, hs, ha⟩
        exact ⟨hp, hserved n hs, ha⟩
      · rw [List.mem_singleton.mp hlast]
        exact ⟨⟨call, hcommand, hsub⟩, Function.update_self _ _ _, hwaits.2⟩
    · rw [List.nodup_append]
      refine ⟨h.nodup, List.nodup_singleton id, ?_⟩
      intro n hn m hm hnm
      rw [hnm, List.mem_singleton.mp hm] at hn
      exact hfresh hn
    · -- a filter that is being added and is taken from the broker now has the removal
      -- among the answers
      intro n k args hn hadd
      rcases h.storing n k args hn hadd with hmem | hremoved
      · rcases call.mem_serve hmem with hstill | ⟨k', args', rfl, hfilter⟩
        · exact Or.inl hstill
        · exact Or.inr ⟨id, List.mem_append_right _ (List.mem_singleton_self id), k', args',
            hcommand, hfilter⟩
      · exact Or.inr (hremoved.mono (fun m hm => List.mem_append_left _ hm))
    · intro n k args rc hn hremove hs
      have hne : n ≠ id := by
        rintro rfl
        refine hwaits.2 ?_
        rcases hn with hn | hn
        · rw [hn]
          rfl
        · rw [hn]
          rfl
      rw [Function.update_of_ne hne] at hs
      exact h.carried n k args rc hn hremove hs
  · -- nobody waits for the answer, and then the request was an addition
    have hadds : ∀ k args, call ≠ .removeSubscription k args := by
      rintro k args rfl
      exact hwaits (hguard k args hcall)
    have hgrows : st.broker ⊆ call.serve st.broker := by
      intro filter hmem
      rcases call.mem_serve hmem with hstill | ⟨k, args, hremove, -⟩
      · exact hstill
      · exact absurd hremove (hadds k args)
    unfold SessionState.Inv
    simp only [if_neg hwaits]
    refine ⟨h.holds, hlisted, ?_, h.nodup, h.order.mono hgrows, ?_, ?_, h.gone⟩
    · intro n hn
      rcases h.acked n hn with ⟨hp, hs, ha⟩
      exact ⟨hp, hserved n hs, ha⟩
    · intro n k args hn hadd
      exact (h.storing n k args hn hadd).imp_left (fun hmem => hgrows hmem)
    · intro n k args rc hn hremove hs
      have hne : n ≠ id := by
        rintro rfl
        rw [hremove] at hcall
        cases hcall
        exact hadds k args rfl
      rw [Function.update_of_ne hne] at hs
      exact h.carried n k args rc hn hremove hs

omit [DecidableEq ι] [DecidableEq κ] [DecidableEq Cb] [DecidableEq Cx] in
/-- A callback starts: its acknowledgement, if it has one, was the first. -/
theorem sessionInv_store {st : SessionState ι κ Cb Cx} (h : st.Inv) (id : Nat) (rc : MQTTStatus)
    (call : AgentCall κ Cb Cx) (hcommand : st.agent.commands id = .pending call)
    (hallow : st.allows (.store id rc) = true) (hguard : KeepsInStep st (.agent (.store id rc))) :
    SessionInv st.agent.commands st.agent.xGlobalSubscriptionList (.stored id rc) st.broker
      st.served (st.acks.erase id) := by
  have hmem : ∀ n ∈ st.acks.erase id, n ∈ st.acks ∧ n ≠ id := by
    intro n hn
    refine ⟨List.mem_of_mem_erase hn, ?_⟩
    rintro rfl
    exact (h.nodup.not_mem_erase) hn
  -- only the first acknowledgement of a removal is taken out of the order
  have horder : InOrder st.agent.commands st.broker (st.acks.erase id) ∧
      ∀ k args, rc = .MQTTSuccess → call = .addSubscription k args →
        requestedFilter args ∈ st.broker ∨
          RemovedBy st.agent.commands (st.acks.erase id) (requestedFilter args) := by
    by_cases hrc : rc = .MQTTSuccess ∧ call.isPublish = false
    · have hack : st.acks.head? = some id := by
        simp only [SessionState.allows, hcommand, CommandState.call, Option.any_some, hrc.1,
          hrc.2, bne_self_eq_false, Bool.false_or, Bool.and_eq_true, decide_eq_true_eq] at hallow
        exact hallow.2.2
      rcases List.head?_eq_some_iff.mp hack with ⟨rest, hrest⟩
      have horder := h.order
      rw [hrest] at horder ⊢
      rw [List.erase_cons_head]
      exact ⟨horder.2, fun k args _ hadd => horder.1 k args (hadd ▸ hcommand)⟩
    · refine ⟨?_, ?_⟩
      · by_cases hin : id ∈ st.acks
        · refine h.order.erase id ?_
          -- a removal that fails was not carried out, so it has no acknowledgement
          intro k args hremove
          rw [hcommand] at hremove
          cases hremove
          have hrc' : rc ≠ .MQTTSuccess := fun hs => hrc ⟨hs, rfl⟩
          have hnot := hguard hrc' k args hcommand
          rw [(h.acked id hin).2.1] at hnot
          cases hnot
        · rw [List.erase_of_not_mem hin]
          exact h.order
      · intro k args hs hadd
        exact absurd ⟨hs, hadd ▸ rfl⟩ hrc
  refine ⟨h.holds, h.backed, ?_, h.nodup.erase id, horder.1, ?_, ?_, ?_⟩
  · intro n hn
    rcases hmem n hn with ⟨hold, hne⟩
    rcases h.acked n hold with ⟨hp, hs, -⟩
    exact ⟨hp, hs, fun hc => hne (Option.some.inj hc).symm⟩
  · intro n k args hn hadd
    cases hn
    rw [hcommand] at hadd
    cases hadd
    exact horder.2 k args rfl rfl
  · intro n k args rc' hn hremove hs
    rcases hn with hn | hn
    · cases hn
      by_contra hrc
      rw [hguard hrc k args hremove] at hs
      cases hs
    · cases hn
  · intro n k args hn
    cases hn

omit [DecidableEq ι] [DecidableEq κ] in
/-- The callback changes the list. -/
theorem sessionInv_update {st : SessionState ι κ Cb Cx} (h : st.Inv) (id : Nat) (rc : MQTTStatus)
    (call : AgentCall κ Cb Cx) (hagent : st.agent.agent = .stored id rc)
    (hcommand : st.agent.commands id = .pending call) :
    SessionInv st.agent.commands (updateList call rc st.agent.xGlobalSubscriptionList)
      (.updated id rc) st.broker st.served st.acks := by
  have hserved : ∀ n ∈ st.acks, st.served n = true := fun n hn => (h.acked n hn).2.1
  rcases h.holds with ⟨L, hL⟩
  -- what the list has now, and what it does not have any more
  have hlist : (∃ L', Holds maxSubscriptions
      (updateList call rc st.agent.xGlobalSubscriptionList) L') ∧
      (∀ filter, Listed (updateList call rc st.agent.xGlobalSubscriptionList) filter →
        Backed st.agent.commands st.broker st.served filter) ∧
      ∀ k args, rc = .MQTTSuccess → call = .removeSubscription k args →
        ¬ Listed (updateList call rc st.agent.xGlobalSubscriptionList) (requestedFilter args) := by
    by_cases hrc : rc = .MQTTSuccess
    · subst hrc
      cases call with
      | publish k => exact ⟨⟨L, hL⟩, h.backed, fun _ _ _ hc => by cases hc⟩
      | addSubscription k args =>
          rcases listed_add hL k args with ⟨L', hL', hlisted⟩
          refine ⟨⟨L', hL'⟩, ?_, fun _ _ _ hc => by cases hc⟩
          intro filter hfilter
          rcases hlisted filter hfilter with hold | hnew
          · exact h.backed filter hold
          · -- the filter of the callback is with the broker, or a removal follows
            rcases h.storing id k args hagent hcommand with hmem | hremoved
            · exact Or.inl (hnew ▸ hmem)
            · exact (hnew ▸ hremoved : RemovedBy _ _ filter).backed hserved
      | removeSubscription k args =>
          rcases listed_remove hL k args with ⟨L', hL', hlisted⟩
          refine ⟨⟨L', hL'⟩, fun filter hfilter => h.backed filter (hlisted filter hfilter).1, ?_⟩
          intro k' args' _ hc hfilter
          cases hc
          exact (hlisted _ hfilter).2 rfl
    · have hkeep : updateList call rc st.agent.xGlobalSubscriptionList =
          st.agent.xGlobalSubscriptionList := if_neg hrc
      rw [hkeep]
      exact ⟨⟨L, hL⟩, h.backed, fun _ _ hc => absurd hc hrc⟩
  rcases hlist with ⟨hholds, hbacked, hgone⟩
  refine ⟨hholds, hbacked, ?_, h.nodup, h.order, ?_, ?_, ?_⟩
  · intro n hn
    rcases h.acked n hn with ⟨hp, hs, ha⟩
    rw [hagent] at ha
    exact ⟨hp, hs, ha⟩
  · intro n k args hn
    cases hn
  · intro n k args rc' hn hremove hs
    rcases hn with hn | hn
    · cases hn
    · cases hn
      exact h.carried id k args rc (Or.inl hagent) hremove hs
  · intro n k args hn hremove
    cases hn
    rw [hcommand] at hremove
    cases hremove
    exact hgone k args rfl rfl

/-- A step of a call or of a callback. -/
theorem sessionInv_agent {st : SessionState ι κ Cb Cx} (h : st.Inv) (hagents : AgentInv st.agent)
    {act : AgentAct ι κ Cb Cx} {agent' : AgentState ι κ Cb Cx}
    (hstep : AgentSteps st.agent act agent') (hallow : st.allows act = true)
    (hguard : KeepsInStep st (.agent act)) :
    SessionState.Inv { st with agent := agent', acks := st.acksAfter act } := by
  cases hstep with
  -- the threads of the application touch neither the list nor the session
  | call i call hpc => exact h
  | refused i call status hpc hstatus => exact h
  | drain i call id hpc => exact h
  | wait i call id hpc => exact h
  | read i call id hpc => exact h
  | ret i call id status b hpc => exact h
  | accepted i call hpc =>
      -- a command that was just accepted is nowhere yet
      have hfresh := hagents.fresh st.agent.nextCommand (Nat.le_refl _)
      have hne : ∀ n, st.agent.agent.command = some n → n ≠ st.agent.nextCommand := by
        rintro n hn rfl
        rcases hagents.running _ hn with ⟨c, hc⟩
        rw [hfresh] at hc
        cases hc
      refine SessionInv.update h _ _ _ ?_ ?_ ?_ ?_
      · intro hid
        rcases (h.acked _ hid).1 with ⟨c, hc, -⟩
        rw [hfresh] at hc
        cases hc
      · intro n rc hn
        have hn' : st.agent.agent = .stored n rc := hn
        exact ⟨hn', hne n (by rw [hn']; rfl)⟩
      · intro n rc hn
        have hn' : st.agent.agent = .updated n rc := hn
        exact ⟨hn', hne n (by rw [hn']; rfl)⟩
      · intro k args hremove
        rw [hfresh] at hremove
        cases hremove
  -- the two steps of the callback that change the list
  | store id rc call hagent hcommand => exact sessionInv_store h id rc call hcommand hallow hguard
  | update id rc call hagent hcommand => exact sessionInv_update h id rc call hagent hcommand
  | signal id rc call hagent hcommand =>
      -- the command completes, and its answer has been taken
      refine SessionInv.update h id (.completed call rc) .idle ?_ ?_ ?_ ?_
      · intro hid
        have hbusy := (h.acked id hid).2.2
        rw [hagent] at hbusy
        exact hbusy rfl
      · intro n rc' hn
        cases hn
      · intro n rc' hn
        cases hn
      · -- a removal that was carried out has taken its filter out of the list
        intro k args hremove hserved
        obtain rfl := h.carried id k args rc (Or.inr hagent) hremove hserved
        exact h.gone id k args hagent hremove

theorem sessionInv_step {st st' : SessionState ι κ Cb Cx} {act : SessionAct ι κ Cb Cx} (h : st.Inv)
    (hagents : AgentInv st.agent) (hguard : KeepsInStep st act)
    (hstep : sessionStep st act = some st') : AgentInv st'.agent ∧ st'.Inv := by
  cases act with
  | loop act =>
      simp only [sessionStep] at hstep
      split at hstep
      · rename_i hidle
        rcases Option.map_eq_some_iff.mp hstep with ⟨loop, -, rfl⟩
        exact ⟨hagents, sessionInv_loop h act loop hidle hguard⟩
      · cases hstep
  | agent act =>
      simp only [sessionStep] at hstep
      split at hstep
      · rename_i hallow
        rcases Option.map_eq_some_iff.mp hstep with ⟨agent', hagent', rfl⟩
        have hsteps := agentSteps_of_step hagent'
        exact ⟨agentInv_step hagents hsteps, sessionInv_agent h hagents hsteps hallow hguard⟩
      · cases hstep
  | serve id =>
      simp only [sessionStep] at hstep
      split at hstep
      · rename_i call hcall
        split at hstep
        · rename_i hcase
          cases hstep
          exact ⟨hagents, sessionInv_serve h id call hcall hcase.1 hcase.2.1 hguard⟩
        · cases hstep
      · cases hstep

/-! ### In step -/

/-- `prvMQTTConnect` has succeeded on the connection that is open. -/
def LoopState.Up (st : LoopState) : Prop :=
  st.Connected ∧ st.xConnectStatus = .MQTTSuccess ∧
    ∀ sessionPresent, st.pc ≠ .resuming sessionPresent

/-- No subscribe or unsubscribe is in flight. -/
def AgentState.Quiet (st : AgentState ι κ Cb Cx) : Prop :=
  ∀ id call, st.commands id = .pending call → call.isPublish = true

/-- On a connection with nothing in flight, the broker has every listed
    filter. -/
def InStep (st : SessionState ι κ Cb Cx) : Prop :=
  st.loop.Up → st.agent.Quiet → ∀ filter, Listed st.agent.xGlobalSubscriptionList filter →
    filter ∈ st.broker

/-- A list that starts in step with the broker stays so, if new sessions find it
    empty and no removal is both carried out and completed with an error. -/
theorem session_inStep (slots : SubscriptionList Cb Cx) (L : Finset (Subscription Cb Cx))
    (hslots : Holds maxSubscriptions slots L) (broker : Finset (List UInt8))
    (hbroker : ∀ filter, Listed slots filter → filter ∈ broker)
    (acts : List (SessionAct ι κ Cb Cx)) (st : SessionState ι κ Cb Cx)
    (hrun : (brokerSession ι κ slots broker).run acts = some st)
    (hguard : (brokerSession ι κ slots broker).Guarded KeepsInStep acts) : InStep st := by
  have hall : AgentInv st.agent ∧ st.Inv := by
    refine (brokerSession ι κ slots broker).guarded_induction
      (Q := fun st => AgentInv st.agent ∧ st.Inv) ?_ ?_ acts st hrun hguard
    · refine ⟨agentInv_reachable (agentSystem ι κ slots).reachable_init, ⟨L, hslots⟩,
        fun filter hfilter => Or.inl (hbroker filter hfilter), ?_, List.nodup_nil, trivial,
        ?_, ?_, ?_⟩
      · intro id hid
        cases hid
      · intro id k args hid
        cases hid
      · intro id k args rc hid
        rcases hid with hid | hid
        · cases hid
        · cases hid
      · intro id k args hid
        cases hid
    · intro s act s' _ hs hallowed hstep
      exact sessionInv_step hs.2 hs.1 hallowed hstep
  intro _ hquiet filter hfilter
  rcases hall.2.backed filter hfilter with hmem | ⟨id, k, args, hremove, -⟩
  · exact hmem
  · -- a removal that backs the filter would be in flight
    have hpub := hquiet id _ hremove
    cases hpub

/-- A subscription on the first connection. -/
def firstSubscription : List (SessionAct Unit Unit Nat Nat) :=
  [.loop (.tlsConnect true false), .loop (.mqttConnect .MQTTSuccess false),
    .loop .enterCommandLoop, .agent (.call () (.addSubscription () subscribeArgs)),
    .agent (.submit () .MQTTSuccess), .agent (.drain ()), .serve 0,
    .agent (.store 0 .MQTTSuccess), .agent .update, .agent .signal, .agent (.wait ()),
    .agent (.ret ())]

theorem keepsInStep_firstSubscription :
    (brokerSession Unit Unit (fun _ => (zeroElement : SubscriptionElement Nat Nat)) ∅).Guarded
      KeepsInStep firstSubscription := by
  refine ⟨fun h => (by cases h), fun s h => ?_⟩
  obtain rfl := Option.some.inj h
  -- the session is new, and the list empty
  refine ⟨fun _ filter => ?_, fun s h => ?_⟩
  · rintro ⟨j, t, -, hjt, -⟩
    cases hjt
  obtain rfl := Option.some.inj h
  refine ⟨fun h => (by cases h), fun s h => ?_⟩
  obtain rfl := Option.some.inj h
  refine ⟨trivial, fun s h => ?_⟩
  obtain rfl := Option.some.inj h
  refine ⟨trivial, fun s h => ?_⟩
  obtain rfl := Option.some.inj h
  refine ⟨trivial, fun s h => ?_⟩
  obtain rfl := Option.some.inj h
  refine ⟨fun k args h => (by cases h), fun s h => ?_⟩
  obtain rfl := Option.some.inj h
  refine ⟨fun h => absurd rfl h, fun s h => ?_⟩
  obtain rfl := Option.some.inj h
  exact ⟨trivial, fun s h => ⟨trivial, fun s h => ⟨trivial, fun s h => ⟨trivial, fun s h =>
    trivial⟩⟩⟩⟩

theorem session_inStep_subscribed :
    ∃ st, (brokerSession Unit Unit (fun _ => (zeroElement : SubscriptionElement Nat Nat)) ∅).run
        firstSubscription = some st ∧ InStep st ∧
      Listed st.agent.xGlobalSubscriptionList [97] := by
  refine ⟨_, rfl, session_inStep (fun _ => zeroElement) ∅ (holds_zero maxSubscriptions) ∅ ?_
    firstSubscription _ rfl keepsInStep_firstSubscription, 0, _, by decide, rfl, rfl⟩
  rintro filter ⟨j, t, -, hjt, -⟩
  cases hjt

/-- The connection breaks, and the broker does not have the session any more. -/
def forgottenSession : List (SessionAct Unit Unit Nat Nat) :=
  firstSubscription ++ [.loop (.leaveCommandLoop .MQTTRecvFailed .MQTTConnected),
    .loop .tlsDisconnect, .loop (.tlsConnect true false),
    .loop (.mqttConnect .MQTTSuccess false), .loop (.resumeSession .MQTTSuccess)]

/-- After that nothing subscribes again: the list still has the filter and the
    broker does not. -/
theorem session_outOfStep :
    ∃ st, (brokerSession Unit Unit (fun _ => (zeroElement : SubscriptionElement Nat Nat)) ∅).run
      forgottenSession = some st ∧ ¬ InStep st := by
  refine ⟨_, rfl, fun hstep => ?_⟩
  have hmem := hstep ⟨⟨rfl, rfl⟩, rfl, fun sp hc => by cases hc⟩ ?_ [97] ⟨0, _, by decide, rfl, rfl⟩
  · cases hmem
  · intro id call hpending
    cases id with
    | zero => cases hpending
    | succ n => cases hpending

end MqttAgent

end ProvisioningSdk
