import ProvisioningSdk.Agent.CommandResults

/-!
# The Locals of a Subscription Call

`xSubscribeContext`, `xSubscribeArgs` and `xSubscribeInfo` are local variables
of `iotshdDev_MQTTAgentAddSubscription` and `RemoveSubscription`. The command
the call submits points to them, and so does its callback's context, while the
call may stop waiting at any time.

A command uses the locals of its call when the agent takes it from its queue
and builds the packet, when its callback starts, and when the callback of a
successful command reads the filter. The last of these may already have been
made when the callback is not over yet. A call that returns after it leaves
nothing behind, and one that returns before it leaves a pointer to memory that
is not its own any more: whatever the agent does next with the command uses it.
A comment in both functions says that this is to be done.

## Main definitions

* `LocalsAct`, `callLocals`: The threads, with the agent taking commands.
* `usedBy`: The command whose locals a step uses.
* `UsesAlive`: A step uses the locals of a call only before it has returned.
* `PastUse`: A command is past its last use of them.
* `ReturnsPastUse`: The condition on steps.

## Theorems

* `callLocals_alive`: With the condition no locals are used after the return.
* `abandoned_used`: Without it they can be.
-/

namespace ProvisioningSdk

namespace MqttAgent

open SubscriptionManager Transition

variable {ι κ Cb Cx : Type*}

/-- The threads, and the commands the agent has taken from its queue. -/
structure LocalsState (ι κ Cb Cx : Type*) where
  agent : AgentState ι κ Cb Cx
  processed : Nat → Bool

/-- A step of a thread, or the agent building the packet of a command. -/
inductive LocalsAct (ι κ Cb Cx : Type*)
  | thread (act : AgentAct ι κ Cb Cx)
  | process (command : Nat)

section Uses

/-- The command whose call's locals the step uses. -/
def usedBy (st : LocalsState ι κ Cb Cx) : LocalsAct ι κ Cb Cx → Option Nat
  | .process id => some id
  | .thread (.store id _) => some id
  -- the filter is read only to change the list
  | .thread .update => match st.agent.agent with
      | .stored id .MQTTSuccess => some id
      | _ => none
  | .thread _ => none

/-- A call that submitted this command has not returned. -/
def AgentState.CallAlive (st : AgentState ι κ Cb Cx) (id : Nat) : Prop :=
  ∃ i call, (st.pc i).command = some (call, id)

/-- The step uses locals of subscription calls that have not returned. -/
def UsesAlive (st : LocalsState ι κ Cb Cx) (act : LocalsAct ι κ Cb Cx) : Prop :=
  ∀ id call, usedBy st act = some id → st.agent.commands id = .pending call →
    call.isPublish = false → st.agent.CallAlive id

/-- The callback of the command is running, and has no use for the locals any
    more. -/
def AgentPc.pastUse (agent : AgentPc) (id : Nat) : Prop :=
  match agent with
  | .idle => False
  | .stored n returnCode => n = id ∧ returnCode ≠ .MQTTSuccess
  | .updated n _ => n = id

/-- The command is past its last use of its call's locals. -/
def PastUse (st : AgentState ι κ Cb Cx) (id : Nat) : Prop :=
  (∃ call returnCode, st.commands id = .completed call returnCode) ∨ st.agent.pastUse id

/-- A subscription call returns when its command is past its last use of the
    call's locals. -/
def ReturnsPastUse (st : LocalsState ι κ Cb Cx) (act : LocalsAct ι κ Cb Cx) : Prop :=
  ∀ i call id status b, act = .thread (.ret i) →
    st.agent.pc i = .returning call (some id) status b → call.isPublish = false →
      PastUse st.agent id

end Uses

section System

variable [DecidableEq ι] [DecidableEq κ] [DecidableEq Cb] [DecidableEq Cx]

/-- One step. The agent takes a command at most once, before its callback. -/
def localsStep (st : LocalsState ι κ Cb Cx) :
    LocalsAct ι κ Cb Cx → Option (LocalsState ι κ Cb Cx)
  | .thread act => (agentStep st.agent act).map (fun agent => { st with agent := agent })
  | .process id => match st.agent.agent, st.agent.commands id with
      | .idle, .pending _ =>
          if st.processed id = false then
            some { st with processed := Function.update st.processed id true }
          else none
      | _, _ => none

/-- The threads and the agent, from a subscription list in any state. -/
def callLocals (ι κ : Type*) {Cb Cx : Type*} [DecidableEq ι] [DecidableEq κ] [DecidableEq Cb]
    [DecidableEq Cx] (slots : SubscriptionList Cb Cx) :
    System (LocalsState ι κ Cb Cx) (LocalsAct ι κ Cb Cx) where
  init := { agent := (agentSystem ι κ slots).init, processed := fun _ => false }
  step := localsStep

/-! ### Before the return -/

/-- A pending subscription command is past its last use, or its call has not
    returned. -/
def LocalsInv (st : AgentState ι κ Cb Cx) : Prop :=
  ∀ id call, st.commands id = .pending call → call.isPublish = false →
    st.CallAlive id ∨ st.agent.pastUse id

omit [DecidableEq κ] [DecidableEq Cb] [DecidableEq Cx] in
/-- A thread that moves on keeps its command alive, and every other thread
    its own. -/
theorem callAlive_goto (st : AgentState ι κ Cb Cx) {i : ι} {p : CallPc κ Cb Cx} {id : Nat}
    (h : st.CallAlive id) (hp : ∀ call n, (st.pc i).command = some (call, n) →
      p.command = some (call, n)) : (st.goto i p).CallAlive id := by
  rcases h with ⟨j, call, hj⟩
  refine ⟨j, call, ?_⟩
  unfold AgentState.goto
  by_cases hji : j = i
  · subst hji
    simp only [Function.update_self]
    exact hp call id hj
  · simp only [Function.update_of_ne hji]
    exact hj

theorem localsInv_step {st st' : AgentState ι κ Cb Cx} {act : AgentAct ι κ Cb Cx}
    (hagents : AgentInv st) (h : LocalsInv st)
    (hreturns : ∀ i call id status b, act = .ret i →
      st.pc i = .returning call (some id) status b → call.isPublish = false → PastUse st id)
    (hstep : AgentSteps st act st') : LocalsInv st' := by
  intro id call hpending hsub
  -- a step of one thread leaves the others in their calls
  cases hstep with
  -- until the command is accepted the call has no command
  | call i c hpc =>
      refine (h id call hpending hsub).imp_left (fun ha => callAlive_goto _ ha ?_)
      rw [hpc]
      exact fun _ _ hc => (by cases hc)
  | accepted i c hpc =>
      by_cases hid : id = st.nextCommand
      · -- the new command is the one of the thread that submitted it
        subst hid
        refine Or.inl ⟨i, c, ?_⟩
        simp only [AgentState.goto, Function.update_self]
        exact command_afterSubmit c _
      · simp only [AgentState.goto, AgentState.setCommand, Function.update_of_ne hid] at hpending
        refine (h id call hpending hsub).imp_left (fun ha => ?_)
        refine callAlive_goto { st.setCommand st.nextCommand (.pending c) with
          nextCommand := st.nextCommand + 1 } ha ?_
        intro c' n hc
        simp only [AgentState.setCommand, hpc] at hc
        cases hc
  | refused i c status hpc hstatus =>
      refine (h id call hpending hsub).imp_left (fun ha => callAlive_goto _ ha ?_)
      rw [hpc]
      exact fun _ _ hc => (by cases hc)
  -- the waits keep the call at the same command
  | drain i c n hpc =>
      refine (h id call hpending hsub).imp_left (fun ha =>
        callAlive_goto (st.setEvent c.context false) ha ?_)
      simp only [AgentState.setEvent, hpc]
      exact fun _ _ hc => hc
  | wait i c n hpc =>
      refine (h id call hpending hsub).imp_left (fun ha =>
        callAlive_goto (st.setEvent c.context false) ha ?_)
      simp only [AgentState.setEvent, hpc, command_afterWait]
      exact fun _ _ hc => hc
  | read i c n hpc =>
      refine (h id call hpending hsub).imp_left (fun ha => callAlive_goto _ ha ?_)
      rw [hpc]
      exact fun _ _ hc => hc
  -- only a return ends the life of the locals
  | ret i c n status b hpc =>
      rcases h id call hpending hsub with ⟨j, own, hj⟩ | hpast
      · by_cases hji : j = i
        · -- the call that returns has no use of its locals to come
          subst hji
          rw [hpc] at hj
          cases n with
          | none => cases hj
          | some m =>
              cases hj
              have hpending' : st.commands id = .pending call := hpending
              have hown : c = call := by
                rcases hagents.owned j c id (by rw [hpc]; rfl) with hp | ⟨rc, hp⟩
                · rw [hpending'] at hp
                  cases hp
                  rfl
                · rw [hpending'] at hp
                  cases hp
              subst hown
              rcases hreturns j c id status b rfl hpc hsub with ⟨c', rc, hdone⟩ | hpast
              · rw [hpending'] at hdone
                cases hdone
              · exact Or.inr hpast
        · refine Or.inl ⟨j, own, ?_⟩
          simp only [AgentState.goto, Function.update_of_ne hji]
          exact hj
      · exact Or.inr hpast
  -- the steps of the callback, which is past a use once it has made it
  | store n rc c hagent hcommand =>
      rcases h id call hpending hsub with halive | hpast
      · exact Or.inl halive
      · rw [hagent] at hpast
        exact absurd hpast not_false
  | update n rc c hagent hcommand =>
      refine (h id call hpending hsub).imp_right (fun hpast => ?_)
      rw [hagent] at hpast
      exact hpast.1
  | signal n rc c hagent hcommand =>
      -- the command that completes is not pending any more
      have hne : id ≠ n := by
        rintro rfl
        simp only [AgentState.setCommand, Function.update_self] at hpending
        cases hpending
      simp only [AgentState.setCommand, AgentState.setEvent, Function.update_of_ne hne] at hpending
      rcases h id call hpending hsub with halive | hpast
      · exact Or.inl halive
      · rw [hagent] at hpast
        exact absurd hpast.symm hne

/-- A step finds the call of the command it is about where the invariant says. -/
theorem usesAlive_of_inv {st : LocalsState ι κ Cb Cx} (h : LocalsInv st.agent)
    {act : LocalsAct ι κ Cb Cx} {st' : LocalsState ι κ Cb Cx}
    (hstep : localsStep st act = some st') : UsesAlive st act := by
  intro id call huse hpending hsub
  have hidle : st.agent.agent = .idle → st.agent.CallAlive id := by
    intro hagent
    rcases h id call hpending hsub with halive | hpast
    · exact halive
    · rw [hagent] at hpast
      exact absurd hpast not_false
  cases act with
  | process n =>
      cases huse
      simp only [localsStep] at hstep
      split at hstep
      · rename_i hagent _
        exact hidle hagent
      · cases hstep
  | thread act =>
      rcases Option.map_eq_some_iff.mp hstep with ⟨agent, hact, -⟩
      cases agentSteps_of_step hact with
      | store n rc c hagent hcommand =>
          cases huse
          exact hidle hagent
      | update n rc c hagent hcommand =>
          -- a callback that reads the filter got `MQTTSuccess`
          simp only [usedBy, hagent] at huse
          split at huse
          · rename_i m hm
            cases hm
            cases huse
            rcases h id call hpending hsub with halive | hpast
            · exact halive
            · rw [hagent] at hpast
              exact absurd rfl hpast.2
          · cases huse
      | _ => cases huse

/-- The agent taking commands adds no state to what the threads can reach. -/
theorem callLocals_agent {slots : SubscriptionList Cb Cx} {st : LocalsState ι κ Cb Cx}
    (h : (callLocals ι κ slots).Reachable st) : (agentSystem ι κ slots).Reachable st.agent := by
  refine (callLocals ι κ slots).reachable_induction
    (P := fun st => (agentSystem ι κ slots).Reachable st.agent)
    (agentSystem ι κ slots).reachable_init ?_ h
  intro s act s' _ hreach hs
  cases act with
  | process id =>
      simp only [callLocals, localsStep] at hs
      split at hs
      · split at hs
        · cases hs
          exact hreach
        · cases hs
      · cases hs
  | thread act =>
      rcases Option.map_eq_some_iff.mp hs with ⟨agent, hagent, rfl⟩
      exact hreach.step hagent

/-- If every subscription call returns only when its command is past its last
    use of the call's locals, no locals are used after the return. -/
theorem callLocals_alive (slots : SubscriptionList Cb Cx) (acts : List (LocalsAct ι κ Cb Cx))
    (st : LocalsState ι κ Cb Cx) (hrun : (callLocals ι κ slots).run acts = some st)
    (hguard : (callLocals ι κ slots).Guarded ReturnsPastUse acts) :
    (callLocals ι κ slots).Guarded UsesAlive acts := by
  refine ((callLocals ι κ slots).guarded_of_guarded (Q := fun st => LocalsInv st.agent)
    ?_ ?_ acts st hrun hguard).2
  · intro id call hpending
    cases hpending
  · intro s act s' hreach hinv hallowed hs
    refine ⟨?_, usesAlive_of_inv hinv hs⟩
    cases act with
    -- the agent thread takes a command and no call moves
    | process id =>
        simp only [callLocals, localsStep] at hs
        split at hs
        · split at hs
          · cases hs
            exact hinv
          · cases hs
        · cases hs
    | thread act =>
        rcases Option.map_eq_some_iff.mp hs with ⟨agent, hagent, rfl⟩
        refine localsInv_step (agentInv_reachable (callLocals_agent hreach)) hinv ?_
          (agentSteps_of_step hagent)
        intro i call id status b hact
        exact hallowed i call id status b (congrArg LocalsAct.thread hact)

/-- A subscription that completes before its call returns. -/
def waitedSubscribe : List (LocalsAct Unit Unit Nat Nat) :=
  [.thread (.call () (.addSubscription () subscribeArgs)), .thread (.submit () .MQTTSuccess),
    .thread (.drain ()), .process 0, .thread (.store 0 .MQTTSuccess), .thread .update,
    .thread .signal, .thread (.wait ()), .thread (.ret ())]

theorem returnsPastUse_waitedSubscribe :
    (callLocals Unit Unit (fun _ => (zeroElement : SubscriptionElement Nat Nat))).Guarded
      ReturnsPastUse waitedSubscribe := by
  refine ⟨fun i c n s b h => (by cases h), fun s h => ?_⟩
  obtain rfl := Option.some.inj h
  refine ⟨fun i c n s b h => (by cases h), fun s h => ?_⟩
  obtain rfl := Option.some.inj h
  refine ⟨fun i c n s b h => (by cases h), fun s h => ?_⟩
  obtain rfl := Option.some.inj h
  refine ⟨fun i c n s b h => (by cases h), fun s h => ?_⟩
  obtain rfl := Option.some.inj h
  refine ⟨fun i c n s b h => (by cases h), fun s h => ?_⟩
  obtain rfl := Option.some.inj h
  refine ⟨fun i c n s b h => (by cases h), fun s h => ?_⟩
  obtain rfl := Option.some.inj h
  refine ⟨fun i c n s b h => (by cases h), fun s h => ?_⟩
  obtain rfl := Option.some.inj h
  refine ⟨fun i c n s b h => (by cases h), fun s h => ?_⟩
  obtain rfl := Option.some.inj h
  -- when the call returns, its command is complete
  refine ⟨fun i c n status b h hpc _ => ?_, fun s h => trivial⟩
  cases hpc
  exact Or.inl ⟨_, _, rfl⟩

theorem callLocals_alive_waited :
    (callLocals Unit Unit (fun _ => (zeroElement : SubscriptionElement Nat Nat))).Guarded UsesAlive
      waitedSubscribe :=
  callLocals_alive (fun _ => zeroElement) waitedSubscribe _ rfl returnsPastUse_waitedSubscribe

/-- A subscription whose wait times out. -/
def abandonedSubscribe : List (LocalsAct Unit Unit Nat Nat) :=
  [.thread (.call () (.addSubscription () subscribeArgs)), .thread (.submit () .MQTTSuccess),
    .thread (.drain ()), .thread (.wait ()), .thread (.ret ())]

/-- Without the condition the agent takes a queued command when its call has
    returned, and uses the call's locals. -/
theorem callLocals_dangling :
    ∃ st, (callLocals Unit Unit (fun _ => (zeroElement : SubscriptionElement Nat Nat))).run
        (abandonedSubscribe ++ [.process 0]) = some st ∧
      ¬ (callLocals Unit Unit (fun _ => (zeroElement : SubscriptionElement Nat Nat))).Guarded
        UsesAlive (abandonedSubscribe ++ [.process 0]) := by
  refine ⟨_, rfl, fun hguard => ?_⟩
  have hrun : (callLocals Unit Unit (fun _ => (zeroElement : SubscriptionElement Nat Nat))).run
    abandonedSubscribe = some _ := rfl
  rcases ((callLocals Unit Unit _).guarded_concat hrun).mp hguard with ⟨-, hlast⟩
  rcases hlast 0 _ rfl rfl rfl with ⟨i, call, hcall⟩
  cases hcall

/-! ### After the return -/

/-- No two threads are in calls with the same command. -/
def OwnersDistinct (st : AgentState ι κ Cb Cx) : Prop :=
  ∀ i j c c' id, (st.pc i).command = some (c, id) → (st.pc j).command = some (c', id) → i = j

omit [DecidableEq κ] [DecidableEq Cb] [DecidableEq Cx] in
/-- A thread that moves on with the command it has, or none, or a new one. -/
theorem OwnersDistinct.goto {st st' : AgentState ι κ Cb Cx} (h : OwnersDistinct st) (i : ι)
    (p : CallPc κ Cb Cx) (hpc : st'.pc = (st.goto i p).pc)
    (hp : ∀ c id, p.command = some (c, id) → ∀ j c', j ≠ i →
      (st.pc j).command ≠ some (c', id)) : OwnersDistinct st' := by
  intro j k c c' id hj hk
  rw [hpc] at hj hk
  unfold AgentState.goto at hj hk
  by_cases hji : j = i
  · by_cases hki : k = i
    · rw [hji, hki]
    · subst hji
      simp only [Function.update_self, Function.update_of_ne hki] at hj hk
      exact absurd hk (hp c id hj k c' hki)
  · by_cases hki : k = i
    · subst hki
      simp only [Function.update_self, Function.update_of_ne hji] at hj hk
      exact absurd hj (hp c' id hk j c hji)
    · simp only [Function.update_of_ne hji, Function.update_of_ne hki] at hj hk
      exact h j k c c' id hj hk

theorem ownersDistinct_step {st st' : AgentState ι κ Cb Cx} {act : AgentAct ι κ Cb Cx}
    (hagents : AgentInv st) (h : OwnersDistinct st) (hstep : AgentSteps st act st') :
    OwnersDistinct st' := by
  -- a thread that keeps its command keeps the others away from it
  have hkeep : ∀ i c id, (st.pc i).command = some (c, id) → ∀ j c', j ≠ i →
      (st.pc j).command ≠ some (c', id) :=
    fun i c id hi j c' hji hj => hji (h j i c' c id hj hi)
  cases hstep with
  | call i c hpc => exact h.goto i _ rfl (fun _ _ hc => by cases hc)
  | accepted i c hpc =>
      refine h.goto i _ rfl ?_
      intro c' id hc j own _ hj
      rw [command_afterSubmit, Option.some.injEq, Prod.mk.injEq] at hc
      rcases hc with ⟨rfl, rfl⟩
      have hfresh := hagents.fresh st.nextCommand (Nat.le_refl _)
      rcases hagents.owned j own _ hj with hp | ⟨rc, hp⟩
      · rw [hfresh] at hp
        cases hp
      · rw [hfresh] at hp
        cases hp
  | refused i c status hpc hstatus => exact h.goto i _ rfl (fun _ _ hc => by cases hc)
  | drain i c id hpc =>
      refine h.goto i _ rfl (fun c' n hc => hkeep i c' n ?_)
      rw [hpc]
      exact hc
  | wait i c id hpc =>
      refine h.goto i _ rfl (fun c' n hc => hkeep i c' n ?_)
      rw [command_afterWait] at hc
      rw [hpc]
      exact hc
  | read i c id hpc =>
      refine h.goto i _ rfl (fun c' n hc => hkeep i c' n ?_)
      rw [hpc]
      exact hc
  | ret i c id status b hpc => exact h.goto i _ rfl (fun _ _ hc => by cases hc)
  | store id rc c hagent hcommand => exact h
  | update id rc c hagent hcommand => exact h
  | signal id rc c hagent hcommand => exact h

theorem ownersDistinct_reachable {slots : SubscriptionList Cb Cx} {st : AgentState ι κ Cb Cx}
    (h : (agentSystem ι κ slots).Reachable st) : OwnersDistinct st := by
  refine (agentSystem ι κ slots).reachable_induction ?_ ?_ h
  · intro i j c c' id hi
    cases hi
  · intro s a s' hreach hs hstep
    exact ownersDistinct_step (agentInv_reachable hreach) hs (agentSteps_of_step hstep)

section Abandoned

variable (slots : SubscriptionList Cb Cx)

/-- The execution can be continued so that locals are used after the return. -/
def Dangles (acts : List (LocalsAct ι κ Cb Cx)) : Prop :=
  ∃ more st, (callLocals ι κ slots).run (acts ++ more) = some st ∧
    ¬ (callLocals ι κ slots).Guarded UsesAlive (acts ++ more)

/-- What dangles after one more step dangles. -/
theorem Dangles.of_concat {acts : List (LocalsAct ι κ Cb Cx)} {act : LocalsAct ι κ Cb Cx}
    (h : Dangles slots (acts ++ [act])) : Dangles slots acts := by
  rcases h with ⟨more, st, hrun, hnot⟩
  rw [List.append_assoc] at hrun hnot
  exact ⟨[act] ++ more, st, hrun, hnot⟩

variable {slots}

/-- A step that uses the locals of a call that is over. -/
theorem dangles_of_use {acts : List (LocalsAct ι κ Cb Cx)} {st st' : LocalsState ι κ Cb Cx}
    {act : LocalsAct ι κ Cb Cx} {id : Nat} {call : AgentCall κ Cb Cx}
    (hrun : (callLocals ι κ slots).run acts = some st)
    (hstep : (callLocals ι κ slots).step st act = some st') (huse : usedBy st act = some id)
    (hcommand : st.agent.commands id = .pending call) (hsub : call.isPublish = false)
    (hdead : ¬ st.agent.CallAlive id) : Dangles slots acts := by
  refine ⟨[act], st', ((callLocals ι κ slots).run_concat acts act st').mpr ⟨st, hrun, hstep⟩, ?_⟩
  intro hguard
  rcases ((callLocals ι κ slots).guarded_concat hrun).mp hguard with ⟨-, hlast⟩
  exact hdead (hlast id call huse hcommand hsub)

theorem dangles_of_idle (id : Nat) {acts : List (LocalsAct ι κ Cb Cx)}
    {st : LocalsState ι κ Cb Cx} {call : AgentCall κ Cb Cx}
    (hrun : (callLocals ι κ slots).run acts = some st)
    (hcommand : st.agent.commands id = .pending call) (hsub : call.isPublish = false)
    (hdead : ¬ st.agent.CallAlive id) (hagent : st.agent.agent = .idle) : Dangles slots acts := by
  have hstep : ∃ st', (callLocals ι κ slots).step st (.thread (.store id .MQTTSuccess)) =
      some st' := by
    simp only [callLocals, localsStep, agentStep, hagent, hcommand, Option.map_some,
      Option.some.injEq, exists_eq']
  rcases hstep with ⟨st', hstep⟩
  exact dangles_of_use hrun hstep rfl hcommand hsub hdead

theorem dangles_of_updated {acts : List (LocalsAct ι κ Cb Cx)} {st : LocalsState ι κ Cb Cx}
    {id n : Nat} {rc : MQTTStatus} {call own : AgentCall κ Cb Cx}
    (hrun : (callLocals ι κ slots).run acts = some st)
    (hcommand : st.agent.commands id = .pending call) (hsub : call.isPublish = false)
    (hdead : ¬ st.agent.CallAlive id) (hagent : st.agent.agent = .updated n rc)
    (hown : st.agent.commands n = .pending own) (hne : id ≠ n) : Dangles slots acts := by
  have hstep : (callLocals ι κ slots).step st (.thread .signal) = some { st with
      agent := { (st.agent.setEvent own.context true).setCommand n (.completed own rc) with
        agent := .idle } } := by
    simp only [callLocals, localsStep, agentStep, hagent, hown, Option.map_some]
  have hrun' := ((callLocals ι κ slots).run_concat acts _ _).mpr ⟨st, hrun, hstep⟩
  refine Dangles.of_concat slots (dangles_of_idle id hrun' ?_ hsub hdead rfl)
  simp only [AgentState.setCommand, AgentState.setEvent, Function.update_of_ne hne]
  exact hcommand

/-- The agent gets to the command at the latest when it is done with the
    callback it is in. -/
theorem dangles_of_pending (id : Nat) {acts : List (LocalsAct ι κ Cb Cx)}
    {st : LocalsState ι κ Cb Cx} {call : AgentCall κ Cb Cx}
    (hrun : (callLocals ι κ slots).run acts = some st)
    (hcommand : st.agent.commands id = .pending call) (hsub : call.isPublish = false)
    (hdead : ¬ st.agent.CallAlive id) (hpast : ¬ st.agent.agent.pastUse id) :
    Dangles slots acts := by
  have hagents := agentInv_reachable (callLocals_agent ⟨acts, hrun⟩)
  cases hagent : st.agent.agent with
  | idle => exact dangles_of_idle id hrun hcommand hsub hdead hagent
  | updated n rc =>
      rcases hagents.running n (by rw [hagent]; rfl) with ⟨own, hown⟩
      refine dangles_of_updated hrun hcommand hsub hdead hagent hown ?_
      rintro rfl
      rw [hagent] at hpast
      exact hpast rfl
  | stored n rc =>
      rcases hagents.running n (by rw [hagent]; rfl) with ⟨own, hown⟩
      have hstep : (callLocals ι κ slots).step st (.thread .update) = some { st with
          agent := { st.agent with
            xGlobalSubscriptionList := updateList own rc st.agent.xGlobalSubscriptionList
            agent := .updated n rc } } := by
        simp only [callLocals, localsStep, agentStep, hagent, hown, Option.map_some]
      by_cases hne : id = n
      · -- its own callback is about to read the filter
        subst hne
        have hrc : rc = .MQTTSuccess := by
          by_contra hrc
          rw [hagent] at hpast
          exact hpast ⟨rfl, hrc⟩
        subst hrc
        refine dangles_of_use hrun hstep ?_ hcommand hsub hdead
        simp only [usedBy, hagent]
      · have hrun' := ((callLocals ι κ slots).run_concat acts _ _).mpr ⟨st, hrun, hstep⟩
        exact Dangles.of_concat slots
          (dangles_of_updated hrun' hcommand hsub hdead rfl hown hne)

/-- A subscription call that returns before its command is past its last use
    leaves locals behind that the agent can still use. -/
theorem abandoned_used {acts : List (LocalsAct ι κ Cb Cx)} {st : LocalsState ι κ Cb Cx}
    (hrun : (callLocals ι κ slots).run acts = some st) {i : ι} {call : AgentCall κ Cb Cx}
    {id : Nat} {status : MQTTStatus} {b : Bool}
    (hpc : st.agent.pc i = .returning call (some id) status b) (hsub : call.isPublish = false)
    (hnot : ¬ PastUse st.agent id) : Dangles slots (acts ++ [.thread (.ret i)]) := by
  have hreach := callLocals_agent ⟨acts, hrun⟩
  have hcommand : st.agent.commands id = .pending call := by
    rcases (agentInv_reachable hreach).owned i call id (by rw [hpc]; rfl) with hp | ⟨rc, hp⟩
    · exact hp
    · exact absurd (Or.inl ⟨call, rc, hp⟩) hnot
  have hstep : (callLocals ι κ slots).step st (.thread (.ret i)) = some { st with
      agent := st.agent.goto i .idle } := by
    simp only [callLocals, localsStep, agentStep, hpc, Option.map_some]
  have hrun' := ((callLocals ι κ slots).run_concat acts _ _).mpr ⟨st, hrun, hstep⟩
  refine dangles_of_pending id hrun' hcommand hsub ?_ (fun hpast => hnot (Or.inr hpast))
  -- the call that is over was the only one with this command
  rintro ⟨j, c, hj⟩
  unfold AgentState.goto at hj
  by_cases hji : j = i
  · subst hji
    simp only [Function.update_self] at hj
    cases hj
  · simp only [Function.update_of_ne hji] at hj
    exact hji (ownersDistinct_reachable hreach j i c call id hj (by rw [hpc]; rfl))

end Abandoned

end System

end MqttAgent

end ProvisioningSdk
