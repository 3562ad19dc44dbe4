import Mathlib.Data.List.TakeWhile
import ProvisioningSdk.Agent.Commands

/-!
# What a Synchronous Command Returns

Whether the value a call returns is about the command it submitted.

A publish that waited successfully returns the status the context holds. That
is the status of its own command as long as nothing of an earlier command gets
in between: its event is clear when it is submitted, and the callback of no
other command on the context runs before the status is read (`Undisturbed`). A
command that timed out breaks this when its callback finally runs, either
before the next publish, which then finds the event set, or during it.

A subscription call returns what it got for submitting the command. It means
what its name promises when the environment does the rest (`Confirmed`): the
callback has run with success before the wait ends, it finds room in the
subscription list, and no later callback undoes it before the call returns.

## Main definitions

* `Undisturbed`: The condition on steps for publishes.
* `Registered`, `Unregistered`: What a subscription call is for.
* `Confirmed`: The condition on steps for subscription calls.

## Theorems

* `publish_returns_own`: An undisturbed publish returns its own status.
* `subscription_returns_confirmed`: A confirmed subscription call did its work.
-/

namespace ProvisioningSdk

namespace MqttAgent

open IotshdPal SubscriptionManager Transition

variable {ι κ Cb Cx : Type*}

/-! ### Publishing -/

/-- The call and the command of a thread that has not read the status yet. -/
def CallPc.awaited : CallPc κ Cb Cx → Option (AgentCall κ Cb Cx × Nat)
  | .draining call id => some (call, id)
  | .waiting call id => some (call, id)
  | .reading call id => some (call, id)
  | _ => none

/-- The command whose callback takes this step. -/
def callbackOf (st : AgentState ι κ Cb Cx) : AgentAct ι κ Cb Cx → Option Nat
  | .store id _ => some id
  | .update => st.agent.command
  | .signal => st.agent.command
  | _ => none

/-- A publish is submitted with its event clear, and no other command's
    callback on its context runs before it has read the status. -/
def Undisturbed (st : AgentState ι κ Cb Cx) (act : AgentAct ι κ Cb Cx) : Prop :=
  (∀ i call, act = .submit i .MQTTSuccess → st.pc i = .submitting call → call.isPublish = true →
    st.syncEvent call.context = false) ∧
  (∀ id call, callbackOf st act = some id → st.commands id = .pending call →
    ∀ i own n, (st.pc i).awaited = some (own, n) → own.isPublish = true →
      own.context = call.context → n = id)

theorem undisturbed_other {st : AgentState ι κ Cb Cx} {act : AgentAct ι κ Cb Cx}
    (hsubmit : ∀ i, act ≠ .submit i .MQTTSuccess) (hcallback : callbackOf st act = none) :
    Undisturbed st act := by
  constructor
  · intro i call hact
    exact absurd hact (hsubmit i)
  · intro id call hact
    rw [hcallback] at hact
    cases hact

/-- Event and status of the context speak of this command, if at all. -/
structure Due (st : AgentState ι κ Cb Cx) (call : AgentCall κ Cb Cx) (id : Nat) : Prop where
  event : st.syncEvent call.context = true →
    st.commands id = .completed call (st.xReturnStatus call.context)
  stored : ∀ rc, (st.agent = .stored id rc ∨ st.agent = .updated id rc) →
    st.xReturnStatus call.context = rc

/-- What a thread in a publish can count on. -/
structure PublishPc (st : AgentState ι κ Cb Cx) (p : CallPc κ Cb Cx) : Prop where
  due : ∀ call id, p.awaited = some (call, id) → call.isPublish = true → Due st call id
  reading : ∀ call id, p = .reading call id → call.isPublish = true →
    st.commands id = .completed call (st.xReturnStatus call.context)
  returned : ∀ call id status, p = .returning call (some id) status true →
    call.isPublish = true → st.commands id = .completed call status

theorem command_of_awaited {p : CallPc κ Cb Cx} {call : AgentCall κ Cb Cx} {id : Nat}
    (h : p.awaited = some (call, id)) : p.command = some (call, id) := by
  cases p with
  | draining c n => exact h
  | waiting c n => exact h
  | reading c n => exact h
  | idle => cases h
  | submitting c => cases h
  | returning c n status b => cases h

/-- A place where a thread counts on nothing. -/
theorem PublishPc.of_none {st : AgentState ι κ Cb Cx} {p : CallPc κ Cb Cx}
    (h : p.command = none) : PublishPc st p where
  due := by
    intro call id hp
    rw [command_of_awaited hp] at h
    cases h
  reading := by
    intro call id hp
    rw [hp] at h
    cases h
  returned := by
    intro call id status hp
    rw [hp] at h
    cases h

/-- A step that leaves event and status of a publish's context alone, or clears
    the event, takes nothing from it. -/
theorem PublishPc.keep {st st' : AgentState ι κ Cb Cx} {p : CallPc κ Cb Cx} (h : PublishPc st p)
    (hdone : ∀ call id status, p.command = some (call, id) →
      st.commands id = .completed call status → st'.commands id = .completed call status)
    (hstatus : ∀ call id, p.awaited = some (call, id) → call.isPublish = true →
      st'.xReturnStatus call.context = st.xReturnStatus call.context)
    (hevent : ∀ call id, p.awaited = some (call, id) → call.isPublish = true →
      st'.syncEvent call.context = true → st.syncEvent call.context = true)
    (hagent : ∀ call id rc, p.awaited = some (call, id) → call.isPublish = true →
      (st'.agent = .stored id rc ∨ st'.agent = .updated id rc) →
        (st.agent = .stored id rc ∨ st.agent = .updated id rc)) : PublishPc st' p where
  due := by
    intro call id hp hpub
    have hdue := h.due call id hp hpub
    constructor
    · intro he
      rw [hstatus call id hp hpub]
      exact hdone call id _ (command_of_awaited hp) (hdue.event (hevent call id hp hpub he))
    · intro rc hrc
      rw [hstatus call id hp hpub]
      exact hdue.stored rc (hagent call id rc hp hpub hrc)
  reading := by
    intro call id hp hpub
    rw [hstatus call id (by rw [hp]; rfl) hpub]
    exact hdone call id _ (by rw [hp]; rfl) (h.reading call id hp hpub)
  returned := by
    intro call id status hp hpub
    exact hdone call id status (by rw [hp]; rfl) (h.returned call id status hp hpub)

section Steps

variable [DecidableEq κ]

/-- Clearing an event takes nothing from anyone. -/
theorem PublishPc.clear {st : AgentState ι κ Cb Cx} {p : CallPc κ Cb Cx} (h : PublishPc st p)
    (k : κ) : PublishPc (st.setEvent k false) p := by
  refine h.keep (fun _ _ _ _ hd => hd) (fun _ _ _ _ => rfl) ?_ (fun _ _ _ _ _ hrc => hrc)
  intro c id _ _ he
  simp only [AgentState.setEvent] at he
  by_cases hk : c.context = k
  · rw [hk, Function.update_self] at he
    cases he
  · rw [Function.update_of_ne hk] at he
    exact he

/-- A callback that stores its status runs for a publish that waits for it, or
    on another context. -/
theorem PublishPc.store {st : AgentState ι κ Cb Cx} {p : CallPc κ Cb Cx} (h : PublishPc st p)
    {id : Nat} {call : AgentCall κ Cb Cx} (rc : MQTTStatus)
    (hcommand : st.commands id = .pending call) (howned : ∀ c n, p.command = some (c, n) →
      (st.commands n).ownedBy c)
    (hguard : ∀ own n, p.awaited = some (own, n) → own.isPublish = true →
      own.context = call.context → n = id) :
    PublishPc { st with
      xReturnStatus := Function.update st.xReturnStatus call.context rc
      agent := .stored id rc } p := by
  by_cases hk : ∃ own n, p.awaited = some (own, n) ∧ own.isPublish = true ∧
      own.context = call.context
  · -- its own callback: what was said of a completed command was said of nothing
    rcases hk with ⟨own, n, hp, hpub, hctx⟩
    have hn := hguard own n hp hpub hctx
    subst hn
    constructor
    · intro c m hc _
      rw [hp] at hc
      cases hc
      constructor
      · intro he
        have hdone := (h.due own n hp hpub).event he
        rw [hcommand] at hdone
        cases hdone
      · intro rc' hrc
        rcases hrc with hrc | hrc
        · cases hrc
          simp only [hctx, Function.update_self]
        · cases hrc
    · intro c m hc hcpub
      have hdone := h.reading c m hc hcpub
      rw [hc] at hp
      cases hp
      rw [hcommand] at hdone
      cases hdone
    · intro c m status hc _
      rw [hc] at hp
      cases hp
  · have hne : ∀ c m, p.awaited = some (c, m) → c.isPublish = true → c.context ≠ call.context :=
      fun c m hc hcpub hctx => hk ⟨c, m, hc, hcpub, hctx⟩
    refine h.keep (fun _ _ _ _ hd => hd) ?_ (fun _ _ _ _ he => he) ?_
    · intro c m hc hcpub
      simp only [Function.update_of_ne (hne c m hc hcpub)]
    · intro c m rc' hc hcpub hrc
      rcases hrc with hrc | hrc
      · -- the callback's command would be this one, and its context this one
        cases hrc
        rcases howned c id (command_of_awaited hc) with hp | ⟨rc'', hp⟩
        · rw [hcommand] at hp
          cases hp
          exact absurd rfl (hne call id hc hcpub)
        · rw [hcommand] at hp
          cases hp
      · cases hrc

/-- The same for a callback that sets its event. -/
theorem PublishPc.signal {st : AgentState ι κ Cb Cx} {p : CallPc κ Cb Cx} (h : PublishPc st p)
    {id : Nat} {call : AgentCall κ Cb Cx} {rc : MQTTStatus} (hagent : st.agent = .updated id rc)
    (hcommand : st.commands id = .pending call) (howned : ∀ c n, p.command = some (c, n) →
      (st.commands n).ownedBy c)
    (hguard : ∀ own n, p.awaited = some (own, n) → own.isPublish = true →
      own.context = call.context → n = id) :
    PublishPc { (st.setEvent call.context true).setCommand id (.completed call rc) with
      agent := .idle } p := by
  have hdone : ∀ c n status, p.command = some (c, n) → st.commands n = .completed c status →
      (Function.update st.commands id (.completed call rc)) n = .completed c status := by
    intro c n status _ hd
    have hne : n ≠ id := by
      intro hc
      rw [hc, hcommand] at hd
      cases hd
    rw [Function.update_of_ne hne]
    exact hd
  have hidle : ∀ n rc', ¬ (AgentPc.idle = .stored n rc' ∨ AgentPc.idle = .updated n rc') := by
    intro n rc' hc
    rcases hc with hc | hc
    · cases hc
    · cases hc
  constructor
  · intro c n hp hpub
    constructor
    · intro he
      -- the event of this publish's context, or of another one
      by_cases hctx : c.context = call.context
      · -- the event is set by the publish's own command, with the status it stored
        have hn := hguard c n hp hpub hctx
        subst hn
        have hrc := (h.due c n hp hpub).stored rc (Or.inr hagent)
        have hcall : c = call := by
          rcases howned c n (command_of_awaited hp) with hp' | ⟨rc', hp'⟩
          · rw [hcommand] at hp'
            cases hp'
            rfl
          · rw [hcommand] at hp'
            cases hp'
        subst hcall
        simp only [AgentState.setCommand, AgentState.setEvent, Function.update_self, hrc]
      · simp only [AgentState.setCommand, AgentState.setEvent, Function.update_of_ne hctx] at he
        exact hdone c n _ (command_of_awaited hp) ((h.due c n hp hpub).event he)
    · intro rc' hrc
      exact absurd hrc (hidle n rc')
  · intro c n hp hpub
    exact hdone c n _ (by rw [hp]; rfl) (h.reading c n hp hpub)
  · intro c n status hp hpub
    exact hdone c n status (by rw [hp]; rfl) (h.returned c n status hp hpub)

section Goto

variable [DecidableEq ι]

omit [DecidableEq κ]

/-- Where the threads are does not matter to what one of them counts on. -/
theorem PublishPc.goto {st : AgentState ι κ Cb Cx} {p : CallPc κ Cb Cx} (h : PublishPc st p)
    (i : ι) (q : CallPc κ Cb Cx) : PublishPc (st.goto i q) p :=
  h.keep (fun _ _ _ _ hd => hd) (fun _ _ _ _ => rfl) (fun _ _ _ _ he => he)
    (fun _ _ _ _ _ hrc => hrc)

theorem publishPc_goto {st : AgentState ι κ Cb Cx} (h : ∀ j, PublishPc st (st.pc j)) (i : ι)
    (p : CallPc κ Cb Cx) (hp : PublishPc st p) (j : ι) :
    PublishPc (st.goto i p) ((st.goto i p).pc j) :=
  forall_goto (Q := PublishPc (st.goto i p)) (fun j => (h j).goto i p) (hp.goto i p) j

/-- An accepted publish finds its event clear, and its command is new. -/
theorem publishPc_accepted {st : AgentState ι κ Cb Cx} (hinv : AgentInv st)
    (h : ∀ j, PublishPc st (st.pc j)) (i : ι) (call : AgentCall κ Cb Cx)
    (hclear : call.isPublish = true → st.syncEvent call.context = false) (j : ι) :
    PublishPc ({ st.setCommand st.nextCommand (.pending call) with
      nextCommand := st.nextCommand + 1 }.goto i (afterSubmit call st.nextCommand))
      (({ st.setCommand st.nextCommand (.pending call) with
        nextCommand := st.nextCommand + 1 }.goto i (afterSubmit call st.nextCommand)).pc j) := by
  -- the threads before, none of which has the new command, and the one that has it
  refine forall_goto (Q := PublishPc ({ st.setCommand st.nextCommand (.pending call) with
    nextCommand := st.nextCommand + 1 }.goto i (afterSubmit call st.nextCommand))) ?_ ?_ j
  · intro j
    refine (h j).keep ?_ (fun _ _ _ _ => rfl) (fun _ _ _ _ he => he) (fun _ _ _ _ _ hrc => hrc)
    intro c id status _ hdone
    have hne : id ≠ st.nextCommand := by
      intro hc
      rw [hc, hinv.fresh _ (Nat.le_refl _)] at hdone
      cases hdone
    simp only [AgentState.goto, AgentState.setCommand, Function.update_of_ne hne]
    exact hdone
  · have hcommand := command_afterSubmit call st.nextCommand
    constructor
    · intro c id hp hpub
      have hc := command_of_awaited hp
      rw [hcommand] at hc
      cases hc
      constructor
      · intro he
        have hset : st.syncEvent call.context = true := he
        rw [hclear hpub] at hset
        cases hset
      · intro rc hrc
        -- no callback of a command that did not exist is running
        have hrun : st.agent.command = some st.nextCommand := by
          rcases hrc with hrc | hrc
          · have hst : st.agent = .stored st.nextCommand rc := hrc
            rw [hst]
            rfl
          · have hst : st.agent = .updated st.nextCommand rc := hrc
            rw [hst]
            rfl
        rcases hinv.running _ hrun with ⟨c, hc⟩
        rw [hinv.fresh _ (Nat.le_refl _)] at hc
        cases hc
    · intro c id hp _
      unfold afterSubmit at hp
      split at hp
      · cases hp
      · cases hp
    · intro c id status hp _
      unfold afterSubmit at hp
      split at hp
      · cases hp
      · cases hp

end Goto

variable [DecidableEq ι] [DecidableEq Cb] [DecidableEq Cx]

theorem publishPc_step {st st' : AgentState ι κ Cb Cx} {act : AgentAct ι κ Cb Cx}
    (hinv : AgentInv st) (h : ∀ j, PublishPc st (st.pc j)) (hguard : Undisturbed st act)
    (hstep : AgentSteps st act st') : ∀ j, PublishPc st' (st'.pc j) := by
  cases hstep with
  | call i call hpc => exact publishPc_goto h i _ (PublishPc.of_none rfl)
  | accepted i call hpc =>
      exact publishPc_accepted hinv h i call (hguard.1 i call rfl hpc)
  | refused i call status hpc hstatus =>
      exact publishPc_goto h i _ (PublishPc.of_none rfl)
  | drain i call id hpc =>
      refine publishPc_goto (fun j => (h j).clear call.context) i _ ?_
      constructor
      · intro c n hp hpub
        cases hp
        exact ((h i).clear call.context).due call id (by rw [hpc]; rfl) hpub
      · intro c n hp
        cases hp
      · intro c n status hp
        cases hp
  | wait i call id hpc =>
      refine publishPc_goto (fun j => (h j).clear call.context) i _ ?_
      constructor
      · intro c n hp hpub
        have hc := command_of_awaited hp
        rw [command_afterWait] at hc
        cases hc
        exact ((h i).clear call.context).due call id (by rw [hpc]; rfl) hpub
      · intro c n hp hpub
        -- a publish reads only after its wait found the event set
        unfold afterWait at hp
        split at hp
        · rename_i hcond
          cases hp
          rw [Bool.and_eq_true] at hcond
          exact ((h i).due call id (by rw [hpc]; rfl) hpub).event hcond.2
        · cases hp
      · intro c n status hp hpub
        unfold afterWait at hp
        split at hp
        · cases hp
        · rename_i hcond
          rw [Bool.and_eq_true] at hcond
          simp only [CallPc.returning.injEq, Option.some.injEq] at hp
          rcases hp with ⟨rfl, -, -, hset⟩
          exact absurd ⟨hpub, hset⟩ hcond
  | read i call id hpc =>
      refine publishPc_goto h i _ ?_
      constructor
      · intro c n hp
        cases hp
      · intro c n hp
        cases hp
      · intro c n status hp hpub
        cases hp
        exact (h i).reading call id hpc hpub
  | ret i call id status b hpc => exact publishPc_goto h i _ (PublishPc.of_none rfl)
  | store id rc call hagent hcommand =>
      intro j
      exact (h j).store rc hcommand (hinv.owned j) (hguard.2 id call rfl hcommand j)
  | update id rc call hagent hcommand =>
      intro j
      refine (h j).keep (fun _ _ _ _ hd => hd) (fun _ _ _ _ => rfl) (fun _ _ _ _ he => he) ?_
      -- the callback goes on to the same command with the same code
      intro c n rc' _ _ hrc
      rcases hrc with hrc | hrc
      · cases hrc
      · cases hrc
        exact Or.inl hagent
  | signal id rc call hagent hcommand =>
      intro j
      -- the callback that sets the event is the one whose command the guard is about
      have hcallback : callbackOf st .signal = some id := by
        unfold callbackOf
        rw [hagent]
        rfl
      exact (h j).signal hagent hcommand (hinv.owned j) (hguard.2 id call hcallback hcommand j)

/-- An undisturbed publish whose wait succeeded returns the return code of its
    own command. -/
theorem publish_returns_own (slots : SubscriptionList Cb Cx) (acts : List (AgentAct ι κ Cb Cx))
    (st : AgentState ι κ Cb Cx) (hrun : (agentSystem ι κ slots).run acts = some st)
    (hguard : (agentSystem ι κ slots).Guarded Undisturbed acts) (i : ι) (call : AgentCall κ Cb Cx)
    (id : Nat) (status : MQTTStatus) (hpc : st.pc i = .returning call (some id) status true)
    (hpublish : call.isPublish = true) : st.commands id = .completed call status := by
  have hall : ∀ j, PublishPc st (st.pc j) := by
    refine (agentSystem ι κ slots).guarded_induction (Q := fun st => ∀ j, PublishPc st (st.pc j))
      (fun j => PublishPc.of_none rfl) ?_ acts st hrun hguard
    intro s a s' hreach hs hallowed hstep
    exact publishPc_step (agentInv_reachable hreach) hs hallowed (agentSteps_of_step hstep)
  exact (hall i).returned call id status hpc hpublish

/-- A publish whose callback reports a refusal while it waits. -/
def refusedPublish : List (AgentAct Unit Unit Nat Nat) :=
  [.call () (.publish ()), .submit () .MQTTSuccess, .store 0 .MQTTServerRefused, .update, .signal,
    .wait (), .read ()]

theorem undisturbed_refusedPublish (slots : SubscriptionList Nat Nat) :
    (agentSystem Unit Unit slots).Guarded Undisturbed refusedPublish := by
  have hown : ∀ (p : CallPc Unit Nat Nat) (id : Nat), p = .waiting (.publish ()) 0 → id = 0 →
      ∀ own n, p.awaited = some (own, n) → n = id := by
    intro p id hp hid own n hn
    rw [hp] at hn
    cases hn
    exact hid.symm
  refine ⟨undisturbed_other (fun i h => by cases h) rfl, fun s h => ?_⟩
  obtain rfl := Option.some.inj h
  refine ⟨⟨fun i call _ _ _ => rfl, fun id call h => by cases h⟩, fun s h => ?_⟩
  obtain rfl := Option.some.inj h
  -- the three steps of the callback all are of command 0, which the thread awaits
  refine ⟨⟨fun i call h => (by cases h), fun id call h _ i own n hn _ _ =>
    hown _ id rfl (Option.some.inj h).symm own n hn⟩, fun s h => ?_⟩
  obtain rfl := Option.some.inj h
  refine ⟨⟨fun i call h => (by cases h), fun id call h _ i own n hn _ _ =>
    hown _ id rfl (Option.some.inj h).symm own n hn⟩, fun s h => ?_⟩
  obtain rfl := Option.some.inj h
  refine ⟨⟨fun i call h => (by cases h), fun id call h _ i own n hn _ _ =>
    hown _ id rfl (Option.some.inj h).symm own n hn⟩, fun s h => ?_⟩
  obtain rfl := Option.some.inj h
  refine ⟨undisturbed_other (fun i h => by cases h) rfl, fun s h => ?_⟩
  obtain rfl := Option.some.inj h
  exact ⟨undisturbed_other (fun i h => by cases h) rfl, fun s h => trivial⟩

theorem publish_returns_own_refused :
    ∃ st, (agentSystem Unit Unit (fun _ => (zeroElement : SubscriptionElement Nat Nat))).run
        refusedPublish = some st ∧
      st.pc () = .returning (.publish ()) (some 0) .MQTTServerRefused true ∧
      st.commands 0 = .completed (.publish ()) .MQTTServerRefused :=
  ⟨_, rfl, rfl, publish_returns_own (fun _ => zeroElement) refusedPublish _ rfl
    (undisturbed_refusedPublish _) () (.publish ()) 0 .MQTTServerRefused rfl rfl⟩

/-- A publish that times out, its callback after that, and a second publish
    that takes the late event for its own. -/
def latePublish : List (AgentAct Unit Unit Nat Nat) :=
  [.call () (.publish ()), .submit () .MQTTSuccess, .wait (), .ret (), .store 0 .MQTTSendFailed,
    .update, .signal, .call () (.publish ()), .submit () .MQTTSuccess, .wait (), .read ()]

/-- Without the condition the second publish returns the status of the first,
    with its own command not even completed. -/
theorem publish_returns_late :
    ∃ st, (agentSystem Unit Unit (fun _ => (zeroElement : SubscriptionElement Nat Nat))).run
        latePublish = some st ∧
      st.pc () = .returning (.publish ()) (some 1) .MQTTSendFailed true ∧
      st.commands 1 ≠ .completed (.publish ()) .MQTTSendFailed :=
  ⟨_, rfl, rfl, fun h => by cases h⟩

end Steps

/-! ### Subscribing and unsubscribing -/

/-- The list has this subscription. -/
def Registered (slots : SubscriptionList Cb Cx) (t : Subscription Cb Cx) : Prop :=
  ∃ j, j < maxSubscriptions ∧ entry (slots j) = some t

/-- The list has no subscription with this filter. -/
def Unregistered (slots : SubscriptionList Cb Cx) (filter : List UInt8) : Prop :=
  ∀ j t, j < maxSubscriptions → entry (slots j) = some t → t.filter ≠ filter

/-- What the list shows once a call did its work. -/
def Worked (slots : SubscriptionList Cb Cx) : AgentCall κ Cb Cx → Prop
  | .publish _ => True
  | .addSubscription _ args => ∃ cb, args.pxIncomingPublishCallback = some cb ∧
      Registered slots ⟨cString args.pcTopicFilterString, cb, args.pvIncomingPublishCallbackContext⟩
  | .removeSubscription _ args => Unregistered slots (cString args.pcTopicFilterString)

/-- The filter is not empty, and its length fits `topicFilterLength`. -/
def FilterFits (args : SubscribeArgs Cb Cx) : Prop :=
  1 ≤ (cString args.pcTopicFilterString).length ∧
    (cString args.pcTopicFilterString).length < 2 ^ 16

/-- The list can do what the call asks for. -/
def Accommodates (slots : SubscriptionList Cb Cx) : AgentCall κ Cb Cx → Prop
  | .publish _ => True
  | .addSubscription _ args => FilterFits args ∧ ∃ cb, args.pxIncomingPublishCallback = some cb ∧
      (Registered slots
          ⟨cString args.pcTopicFilterString, cb, args.pvIncomingPublishCallbackContext⟩ ∨
        ∃ j, j < maxSubscriptions ∧ entry (slots j) = none)
  | .removeSubscription _ args => FilterFits args

/-- One call asks for a filter and the other asks to be rid of it. -/
def Contradicts : AgentCall κ Cb Cx → AgentCall κ Cb Cx → Prop
  | .addSubscription _ a, .removeSubscription _ b =>
      cString a.pcTopicFilterString = cString b.pcTopicFilterString
  | .removeSubscription _ a, .addSubscription _ b =>
      cString a.pcTopicFilterString = cString b.pcTopicFilterString
  | _, _ => False

/-- The wait of a subscription call ends after its callback has run with
    success. A callback finds what it asks for possible, and undoes nothing for
    a call that has not returned. -/
def Confirmed (st : AgentState ι κ Cb Cx) (act : AgentAct ι κ Cb Cx) : Prop :=
  (∀ i call id, act = .wait i → st.pc i = .waiting call id → call.isPublish = false →
    st.commands id = .completed call .MQTTSuccess) ∧
  (∀ id call, act = .update → st.agent = .stored id .MQTTSuccess →
    st.commands id = .pending call → Accommodates st.xGlobalSubscriptionList call ∧
      ∀ i own n, (st.pc i).command = some (own, n) →
        st.commands n = .completed own .MQTTSuccess → ¬ Contradicts call own)

theorem confirmed_other {st : AgentState ι κ Cb Cx} {act : AgentAct ι κ Cb Cx}
    (hwait : ∀ i, act ≠ .wait i) (hupdate : act ≠ .update) : Confirmed st act := by
  constructor
  · intro i call id hact
    exact absurd hact (hwait i)
  · intro id call hact
    exact absurd hact hupdate

/-- The filter argument of a call whose filter fits. -/
def filterArg (args : SubscribeArgs Cb Cx) (h : FilterFits args) : FilterArg where
  string := args.pcTopicFilterString
  length := topicFilterLength args
  length_pos := by
    unfold topicFilterLength
    rw [Nat.mod_eq_of_lt h.2]
    exact h.1
  length_lt := topicFilterLength_lt args
  length_le := by
    unfold topicFilterLength
    rw [Nat.mod_eq_of_lt h.2]
    exact List.IsPrefix.length_le (List.takeWhile_prefix _)
  noNul := by
    unfold topicFilterLength
    rw [Nat.mod_eq_of_lt h.2]
    intro hmem
    have htake : args.pcTopicFilterString.take (cString args.pcTopicFilterString).length =
        cString args.pcTopicFilterString :=
      (List.prefix_iff_eq_take.mp (List.takeWhile_prefix _)).symm
    rw [htake] at hmem
    have hne := List.mem_takeWhile_imp hmem
    simp only [bne_self_eq_false, Bool.false_eq_true] at hne

theorem filter_filterArg (args : SubscribeArgs Cb Cx) (h : FilterFits args) :
    (filterArg args h).filter = cString args.pcTopicFilterString := by
  unfold FilterArg.filter filterArg topicFilterLength
  simp only [Nat.mod_eq_of_lt h.2]
  exact (List.prefix_iff_eq_take.mp (List.takeWhile_prefix _)).symm

theorem registered_iff {slots : SubscriptionList Cb Cx} {L : Finset (Subscription Cb Cx)}
    (h : Holds maxSubscriptions slots L) (t : Subscription Cb Cx) : Registered slots t ↔ t ∈ L :=
  (h.represents.mem_iff t).symm

theorem unregistered_iff {slots : SubscriptionList Cb Cx} {L : Finset (Subscription Cb Cx)}
    (h : Holds maxSubscriptions slots L) (filter : List UInt8) :
    Unregistered slots filter ↔ ∀ t ∈ L, t.filter ≠ filter := by
  constructor
  · intro hnone t ht
    rcases (h.represents.mem_iff t).mp ht with ⟨j, hj, hjt⟩
    exact hnone j t hj hjt
  · intro hnone j t hj hjt
    exact hnone t ((h.represents.mem_iff t).mpr ⟨j, hj, hjt⟩)

section Confirmed

variable [DecidableEq Cb] [DecidableEq Cx]

/-- A callback that finds its call possible does its work, and spoils none it
    does not contradict. -/
theorem worked_update {slots : SubscriptionList Cb Cx} {L : Finset (Subscription Cb Cx)}
    (h : Holds maxSubscriptions slots L) (call : AgentCall κ Cb Cx)
    (hacc : Accommodates slots call) :
    (∃ L', Holds maxSubscriptions (updateList call .MQTTSuccess slots) L') ∧
      Worked (updateList call .MQTTSuccess slots) call ∧
      ∀ own : AgentCall κ Cb Cx, Worked slots own → ¬ Contradicts call own →
        Worked (updateList call .MQTTSuccess slots) own := by
  cases call with
  | publish k => exact ⟨⟨L, h⟩, trivial, fun own hown _ => hown⟩
  | addSubscription k args =>
      rcases hacc with ⟨hfits, cb, hcb, hroom⟩
      have hadd := (h.addSubscription (by decide) (filterArg args hfits) cb
        args.pvIncomingPublishCallbackContext).1
      rw [filter_filterArg] at hadd
      -- the subscription is there already, or there is a hole for it
      have hcase : (⟨cString args.pcTopicFilterString, cb, args.pvIncomingPublishCallbackContext⟩ :
          Subscription Cb Cx) ∈ L ∨ L.card < maxSubscriptions := by
        rcases hroom with hreg | hhole
        · exact Or.inl ((registered_iff h _).mp hreg)
        · exact Or.inr (h.represents.card_lt_iff.mpr hhole)
      rw [if_pos hcase] at hadd
      have hlist : updateList (.addSubscription k args : AgentCall κ Cb Cx) .MQTTSuccess slots =
          (SubscriptionManager.addSubscription maxSubscriptions slots
            (some (filterArg args hfits).string) (filterArg args hfits).length (some cb)
            args.pvIncomingPublishCallbackContext).1 := by
        simp only [updateList, if_true, hcb, filterArg]
      rw [hlist]
      refine ⟨⟨_, hadd⟩, ⟨cb, hcb, (registered_iff hadd _).mpr (Finset.mem_insert_self _ _)⟩, ?_⟩
      intro own hown hcontra
      cases own with
      | publish k' => trivial
      | addSubscription k' args' =>
          rcases hown with ⟨cb', hcb', hreg⟩
          exact ⟨cb', hcb', (registered_iff hadd _).mpr
            (Finset.mem_insert_of_mem ((registered_iff h _).mp hreg))⟩
      | removeSubscription k' args' =>
          refine (unregistered_iff hadd _).mpr ?_
          intro t ht
          -- the new subscription has another filter, by what the calls do not contradict
          rcases Finset.mem_insert.mp ht with rfl | hold
          · exact hcontra
          · exact (unregistered_iff h _).mp hown t hold
  | removeSubscription k args =>
      have hfits : FilterFits args := hacc
      have hremove := h.remove (filterArg args hfits)
      rw [filter_filterArg] at hremove
      -- the callback calls the list with the filter as a C string
      have hlist : updateList (.removeSubscription k args : AgentCall κ Cb Cx) .MQTTSuccess slots =
          SubscriptionManager.removeSubscription maxSubscriptions slots
            (some (filterArg args hfits).string) (filterArg args hfits).length := by
        simp only [updateList, if_true, filterArg]
      rw [hlist]
      refine ⟨⟨_, hremove⟩, ?_, ?_⟩
      · refine (unregistered_iff hremove _).mpr ?_
        intro t ht
        exact (Finset.mem_filter.mp ht).2
      · intro own hown hcontra
        cases own with
        | publish k' => trivial
        | addSubscription k' args' =>
            rcases hown with ⟨cb', hcb', hreg⟩
            refine ⟨cb', hcb', (registered_iff hremove _).mpr (Finset.mem_filter.mpr ⟨?_, ?_⟩)⟩
            · exact (registered_iff h _).mp hreg
            · intro hsame
              exact hcontra hsame.symm
        | removeSubscription k' args' =>
            refine (unregistered_iff hremove _).mpr ?_
            intro t ht
            exact (unregistered_iff h _).mp hown t (Finset.mem_filter.mp ht).1

end Confirmed

/-- What a thread in a subscription call can count on. -/
structure SubscribePc (commands : Nat → CommandState κ Cb Cx) (slots : SubscriptionList Cb Cx)
    (p : CallPc κ Cb Cx) : Prop where
  worked : ∀ own n, p.command = some (own, n) → commands n = .completed own .MQTTSuccess →
    Worked slots own
  returned : ∀ own n status b, p = .returning own (some n) status b → own.isPublish = false →
    commands n = .completed own .MQTTSuccess

/-- The list is in order, and shows what was done. -/
structure SubscribeInv (st : AgentState ι κ Cb Cx) : Prop where
  holds : ∃ L, Holds maxSubscriptions st.xGlobalSubscriptionList L
  updated : ∀ id call, st.agent = .updated id .MQTTSuccess → st.commands id = .pending call →
    Worked st.xGlobalSubscriptionList call
  threads : ∀ i, SubscribePc st.commands st.xGlobalSubscriptionList (st.pc i)

/-- A place where a thread counts on nothing. -/
theorem SubscribePc.of_none {commands : Nat → CommandState κ Cb Cx}
    {slots : SubscriptionList Cb Cx} {p : CallPc κ Cb Cx} (h : p.command = none) :
    SubscribePc commands slots p where
  worked := by
    intro own n hp
    rw [h] at hp
    cases hp
  returned := by
    intro own n status b hp
    rw [hp] at h
    cases h

/-- Moving on with the same command. -/
theorem SubscribePc.of_command {commands : Nat → CommandState κ Cb Cx}
    {slots : SubscriptionList Cb Cx} {p q : CallPc κ Cb Cx} (h : SubscribePc commands slots p)
    (hpq : q.command = p.command)
    (hreturned : ∀ own n status b, q = .returning own (some n) status b → own.isPublish = false →
      commands n = .completed own .MQTTSuccess) : SubscribePc commands slots q where
  worked := by
    intro own n hq
    exact h.worked own n (hpq ▸ hq)
  returned := hreturned

/-- A command that changes was not completed, and starts out with no work done
    in its name. -/
theorem SubscribePc.update {commands : Nat → CommandState κ Cb Cx}
    {slots : SubscriptionList Cb Cx} {p : CallPc κ Cb Cx} (h : SubscribePc commands slots p)
    (id : Nat) (c : CommandState κ Cb Cx) (hid : ∀ own rc, commands id ≠ .completed own rc)
    (hworked : ∀ own, c = .completed own .MQTTSuccess → Worked slots own) :
    SubscribePc (Function.update commands id c) slots p where
  worked := by
    intro own n hp hdone
    by_cases hn : n = id
    · rw [hn, Function.update_self] at hdone
      exact hworked own hdone
    · rw [Function.update_of_ne hn] at hdone
      exact h.worked own n hp hdone
  returned := by
    intro own n status b hp hpub
    have hdone := h.returned own n status b hp hpub
    have hn : n ≠ id := by
      intro hc
      exact hid own .MQTTSuccess (hc ▸ hdone)
    rw [Function.update_of_ne hn]
    exact hdone

section Steps

variable [DecidableEq ι] [DecidableEq κ] [DecidableEq Cb] [DecidableEq Cx]

theorem subscribeInv_step {st st' : AgentState ι κ Cb Cx} {act : AgentAct ι κ Cb Cx}
    (hinv : AgentInv st) (h : SubscribeInv st) (hguard : Confirmed st act)
    (hstep : AgentSteps st act st') : SubscribeInv st' := by
  have hmove : ∀ i p, SubscribePc st.commands st.xGlobalSubscriptionList p →
      ∀ j, SubscribePc st.commands st.xGlobalSubscriptionList ((st.goto i p).pc j) :=
    fun i p hp => forall_goto (Q := SubscribePc st.commands st.xGlobalSubscriptionList) h.threads hp
  cases hstep with
  | call i call hpc => exact ⟨h.holds, h.updated, hmove i _ (SubscribePc.of_none rfl)⟩
  | accepted i call hpc =>
      have hfresh := hinv.fresh st.nextCommand (Nat.le_refl _)
      -- the name is new, so no completed command changes
      have hkeep : ∀ p, SubscribePc st.commands st.xGlobalSubscriptionList p →
          SubscribePc (Function.update st.commands st.nextCommand (.pending call))
            st.xGlobalSubscriptionList p :=
        fun p hp => hp.update _ _ (fun own rc hc => by rw [hfresh] at hc; cases hc)
          (fun own hc => by cases hc)
      refine ⟨h.holds, ?_, ?_⟩
      · intro id c hagent hcommand
        have hne : id ≠ st.nextCommand := by
          intro hc
          have hagent' : st.agent = .updated id .MQTTSuccess := hagent
          rcases hinv.running id (by rw [hagent']; rfl) with ⟨c', hc'⟩
          rw [hc, hfresh] at hc'
          cases hc'
        simp only [AgentState.goto, AgentState.setCommand, Function.update_of_ne hne] at hcommand
        exact h.updated id c hagent hcommand
      · refine forall_goto (Q := SubscribePc (Function.update st.commands st.nextCommand
          (.pending call)) st.xGlobalSubscriptionList) (fun j => hkeep _ (h.threads j)) ?_
        -- the event is clear, and the command has not stored anything
        have hcommand := command_afterSubmit call st.nextCommand
        constructor
        · intro own n hp hdone
          rw [hcommand] at hp
          cases hp
          rw [Function.update_self] at hdone
          cases hdone
        · intro own n status b hp _
          unfold afterSubmit at hp
          split at hp
          · cases hp
          · cases hp
  | refused i call status hpc hstatus =>
      exact ⟨h.holds, h.updated, hmove i _ (SubscribePc.of_none rfl)⟩
  | drain i call id hpc =>
      refine ⟨h.holds, h.updated, hmove i _ ((h.threads i).of_command (by rw [hpc]; rfl) ?_)⟩
      intro own n status b hp
      cases hp
  | wait i call id hpc =>
      refine ⟨h.holds, h.updated, hmove i _ ((h.threads i).of_command ?_ ?_)⟩
      · rw [hpc, command_afterWait]
        rfl
      · -- the wait of a subscription call ended with its callback run
        intro own n status b hp hsub
        have hcommand := command_afterWait call id (st.syncEvent call.context)
        rw [hp] at hcommand
        cases hcommand
        exact hguard.1 i call id rfl hpc hsub
  | read i call id hpc =>
      refine ⟨h.holds, h.updated, hmove i _ ((h.threads i).of_command (by rw [hpc]; rfl) ?_)⟩
      intro own n status b hp hsub
      cases hp
      -- only a publish reads the status
      rw [hinv.reads i call id hpc] at hsub
      cases hsub
  | ret i call id status b hpc => exact ⟨h.holds, h.updated, hmove i _ (SubscribePc.of_none rfl)⟩
  | store id rc call hagent hcommand =>
      refine ⟨h.holds, ?_, h.threads⟩
      intro id' c hc
      cases hc
  | update id rc call hagent hcommand =>
      rcases h.holds with ⟨L, hL⟩
      by_cases hrc : rc = .MQTTSuccess
      · subst hrc
        -- the callback finds its request possible, and contradicts nobody
        rcases hguard.2 id call rfl hagent hcommand with ⟨hacc, hcontra⟩
        rcases worked_update hL call hacc with ⟨hholds, hworked, hothers⟩
        refine ⟨hholds, ?_, ?_⟩
        · intro id' c hid hc
          cases hid
          have hsame : CommandState.pending call = CommandState.pending c := hcommand.symm.trans hc
          cases hsame
          exact hworked
        · intro j
          constructor
          · intro own n hp hdone
            exact hothers own ((h.threads j).worked own n hp hdone) (hcontra j own n hp hdone)
          · exact (h.threads j).returned
      -- a command that failed leaves the list alone
      · have hlist : updateList call rc st.xGlobalSubscriptionList = st.xGlobalSubscriptionList :=
          if_neg hrc
        rw [hlist]
        refine ⟨⟨L, hL⟩, ?_, h.threads⟩
        intro id' c hid
        cases hid
        exact absurd rfl hrc
  | signal id rc call hagent hcommand =>
      refine ⟨h.holds, ?_, ?_⟩
      · intro id' c hc
        cases hc
      · intro j
        refine (h.threads j).update id _ ?_ ?_
        · intro own rc' hc
          rw [hcommand] at hc
          cases hc
        · intro own hc
          cases hc
          exact h.updated id call hagent hcommand

/-- A confirmed subscription call that returns `MQTTSuccess` has had its
    callback run with success, and the list shows what it asked for. -/
theorem subscription_returns_confirmed (slots : SubscriptionList Cb Cx)
    (L : Finset (Subscription Cb Cx)) (hslots : Holds maxSubscriptions slots L)
    (acts : List (AgentAct ι κ Cb Cx)) (st : AgentState ι κ Cb Cx)
    (hrun : (agentSystem ι κ slots).run acts = some st)
    (hguard : (agentSystem ι κ slots).Guarded Confirmed acts) (i : ι) (call : AgentCall κ Cb Cx)
    (id : Option Nat) (b : Bool) (hpc : st.pc i = .returning call id .MQTTSuccess b)
    (hsub : call.isPublish = false) :
    ∃ n, id = some n ∧ st.commands n = .completed call .MQTTSuccess ∧
      Worked st.xGlobalSubscriptionList call := by
  have hall : SubscribeInv st := by
    refine (agentSystem ι κ slots).guarded_induction (Q := SubscribeInv) ?_ ?_ acts st hrun hguard
    · refine ⟨⟨L, hslots⟩, ?_, fun j => SubscribePc.of_none rfl⟩
      intro n c hagent
      cases hagent
    · intro s a s' hreach hs hallowed hstep
      exact subscribeInv_step (agentInv_reachable hreach) hs hallowed (agentSteps_of_step hstep)
  have hreachable : (agentSystem ι κ slots).Reachable st := ⟨acts, hrun⟩
  have hinv := agentInv_reachable hreachable
  cases id with
  | none => exact absurd rfl (hinv.refused i call .MQTTSuccess b hpc)
  | some n =>
      have hdone := (hall.threads i).returned call n .MQTTSuccess b hpc hsub
      exact ⟨n, rfl, hdone, (hall.threads i).worked call n (by rw [hpc]; rfl) hdone⟩

/-- The arguments of a subscription to `a`. -/
def subscribeArgs : SubscribeArgs Nat Nat where
  pcTopicFilterString := [97]
  usTopicFilterLength := 1
  pxIncomingPublishCallback := some 0
  pvIncomingPublishCallbackContext := none

/-- A subscription that completes while its call waits. -/
def confirmedSubscribe : List (AgentAct Unit Unit Nat Nat) :=
  [.call () (.addSubscription () subscribeArgs), .submit () .MQTTSuccess, .drain (),
    .store 0 .MQTTSuccess, .update, .signal, .wait ()]

theorem confirmed_confirmedSubscribe :
    (agentSystem Unit Unit (fun _ => (zeroElement : SubscriptionElement Nat Nat))).Guarded Confirmed
      confirmedSubscribe := by
  refine ⟨confirmed_other (fun i h => by cases h) (fun h => by cases h), fun s h => ?_⟩
  obtain rfl := Option.some.inj h
  refine ⟨confirmed_other (fun i h => by cases h) (fun h => by cases h), fun s h => ?_⟩
  obtain rfl := Option.some.inj h
  refine ⟨confirmed_other (fun i h => by cases h) (fun h => by cases h), fun s h => ?_⟩
  obtain rfl := Option.some.inj h
  refine ⟨confirmed_other (fun i h => by cases h) (fun h => by cases h), fun s h => ?_⟩
  obtain rfl := Option.some.inj h
  -- the callback finds the list empty, and no other call to spoil
  refine ⟨⟨fun i c n h => (by cases h), fun n c _ hagent hcommand => ?_⟩, fun s h => ?_⟩
  · cases hagent
    cases hcommand
    refine ⟨⟨⟨by decide, by decide⟩, 0, rfl, Or.inr ⟨0, by decide, rfl⟩⟩, ?_⟩
    intro i own n hn hdone
    cases hn
    cases hdone
  obtain rfl := Option.some.inj h
  refine ⟨confirmed_other (fun i h => by cases h) (fun h => by cases h), fun s h => ?_⟩
  obtain rfl := Option.some.inj h
  refine ⟨⟨fun i c n _ hpc _ => ?_, fun n c h => (by cases h)⟩, fun s h => trivial⟩
  cases hpc
  rfl

theorem subscription_returns_confirmed_one :
    ∃ st, (agentSystem Unit Unit (fun _ => (zeroElement : SubscriptionElement Nat Nat))).run
        confirmedSubscribe = some st ∧
      ∃ n, some 0 = some n ∧
        st.commands n = .completed (.addSubscription () subscribeArgs) .MQTTSuccess ∧
        Worked st.xGlobalSubscriptionList
          (.addSubscription () subscribeArgs : AgentCall Unit Nat Nat) :=
  ⟨_, rfl, subscription_returns_confirmed (fun _ => zeroElement) ∅ (holds_zero maxSubscriptions)
    confirmedSubscribe _ rfl confirmed_confirmedSubscribe () (.addSubscription () subscribeArgs)
    (some 0) true rfl rfl⟩

/-- A subscription and an unsubscription whose waits time out. -/
def unconfirmedCalls : List (AgentAct (Fin 2) Unit Nat Nat) :=
  [.call 0 (.addSubscription () subscribeArgs), .submit 0 .MQTTSuccess, .drain 0, .wait 0,
    .call 1 (.removeSubscription () subscribeArgs), .submit 1 .MQTTSuccess, .drain 1, .wait 1]

/-- Without the condition both return `MQTTSuccess`, with neither command
    completed and nothing in the list. -/
theorem subscription_returns_unconfirmed :
    ∃ st, (agentSystem (Fin 2) Unit (fun _ => (zeroElement : SubscriptionElement Nat Nat))).run
        unconfirmedCalls = some st ∧
      st.pc 0 = .returning (.addSubscription () subscribeArgs) (some 0) .MQTTSuccess false ∧
      st.pc 1 = .returning (.removeSubscription () subscribeArgs) (some 1) .MQTTSuccess false ∧
      st.commands 0 ≠ .completed (.addSubscription () subscribeArgs) .MQTTSuccess ∧
      st.commands 1 ≠ .completed (.removeSubscription () subscribeArgs) .MQTTSuccess ∧
      ¬ Worked st.xGlobalSubscriptionList
        (.addSubscription () subscribeArgs : AgentCall Unit Nat Nat) := by
  refine ⟨_, rfl, rfl, rfl, fun h => (by cases h), fun h => (by cases h), ?_⟩
  rintro ⟨cb, -, j, -, hj⟩
  cases hj

end Steps

end MqttAgent

end ProvisioningSdk
