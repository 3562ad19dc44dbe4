import ProvisioningSdk.Agent.ThreadLoop
import ProvisioningSdk.Platform.ConnectRetries
import ProvisioningSdk.Provisioning.MqttOperations

/-!
# The Transport below the Loop

The loop of the agent and the workflow are modelled over the outcomes of the
attempts to connect. These models leave open how many attempts there are, and
the loop keeps a flag of its own for the connection. Here both are put over the
transport: the attempts are those of `connectToBrokerWithBackoffRetries`, and the
connection is the socket in the context of the transport.

Each call is a few steps of the model above it, one for each attempt
(`connectSteps_run`, `connectAttempts_run`). So whatever was shown of these models
for all outcomes holds here. The flag of the loop and the socket agree, and no
socket is lost, since the loop disconnects before it connects again.

## Main definitions

* `AgentThread`: The loop of the agent, with the context of its transport.
* `connectSteps`, `connectAttempts`: A call in the two models above.

## Theorems

* `threadInv_step`: What a step keeps.
* `transport_refines`: Runs of the agent, and calls of the workflow.
-/

namespace ProvisioningSdk

namespace MqttAgent

open Transition BrokerConnection
open MbedtlsPkcs11 (Outside MbedtlsPkcs11Context)
open FleetProvisioning (ConnectAttempt World Label)

section Thread

variable (E : Nat → Outside) (A : BackoffAlgorithm) (generateRandomNumber : Nat → UInt32)
  (config : Config) (pSmarthomeEndpoint : String) (pxSession : Nat)

/-- The loop, with the context of its transport. -/
structure AgentThread (A : BackoffAlgorithm) where
  loop : LoopState
  transport : Connecting A

/-- What the loop does. -/
inductive ThreadAct
  | connectToBroker
  /-- `Mbedtls_Pkcs11_Disconnect`. -/
  | disconnect
  /-- Any other call. -/
  | call (act : LoopAct)
  deriving DecidableEq, Repr

/-- A call that is not one of the transport. -/
def isMqtt : LoopAct → Bool
  | .tlsConnect _ _ => false
  | .tlsDisconnect => false
  | _ => true

/-- `Mbedtls_Pkcs11_Disconnect`. What `mbedtls_ssl_close_notify` returns is only
    logged. -/
def Mbedtls_Pkcs11_Disconnect {A : BackoffAlgorithm} (s : Connecting A) : Connecting A :=
  { s with tlsContext := s.tlsContext.free }

/-- One step of `iotshdDev_MQTTAgentThreadLoop` over the transport. -/
def threadStep (st : AgentThread A) : ThreadAct → Option (AgentThread A)
  | .connectToBroker => match st.loop.pc with
      | .tlsConnecting clean =>
          match MqttAgent.connectToBrokerWithBackoffRetries E A generateRandomNumber config
              (CONNECTION_RETRY_MAX_ATTEMPTS + 1) pSmarthomeEndpoint pxSession "Device Cert"
              "Device Priv TLS Key" st.transport with
          | .ok returnStatus transport =>
              some ⟨(st.loop.attempt returnStatus).networkResult clean returnStatus, transport⟩
          | .error _ _ => none
      | _ => none
  | .disconnect => (loopStep st.loop .tlsDisconnect).map
      (fun loop => ⟨loop, Mbedtls_Pkcs11_Disconnect st.transport⟩)
  | .call act =>
      if isMqtt act = true then (loopStep st.loop act).map (fun loop => ⟨loop, st.transport⟩)
      else none

/-- The thread of the agent, from this context. -/
def agentThread (transport : Connecting A) : System (AgentThread A) ThreadAct where
  init := ⟨threadLoop.init, transport⟩
  step := threadStep E A generateRandomNumber config pSmarthomeEndpoint pxSession

end Thread

/-! ### A call in the models above -/

/-- The steps of the loop for a call with this many attempts that failed before
    the last. -/
def connectSteps (n : Nat) (returnStatus : Bool) : List LoopAct :=
  List.replicate n (.tlsConnect false true) ++ [.tlsConnect returnStatus false]

/-- The attempts of the workflow for such a call. -/
def connectAttempts (n : Nat) (returnStatus : Bool) : List ConnectAttempt :=
  List.replicate n ⟨false, true⟩ ++ [⟨returnStatus, false⟩]

/-- An attempt to connect. -/
def isAttempt : LoopAct → Bool
  | .tlsConnect _ _ => true
  | _ => false

theorem attempts_connectSteps (n : Nat) (returnStatus : Bool) :
    (connectSteps n returnStatus).countP isAttempt = n + 1 := by
  simp [connectSteps, isAttempt, List.countP_replicate]

theorem connectSteps_succ (n : Nat) (returnStatus : Bool) :
    connectSteps (n + 1) returnStatus = .tlsConnect false true :: connectSteps n returnStatus := rfl

theorem connectSteps_run (n : Nat) (returnStatus : Bool) {st : LoopState} {clean : Bool}
    (hpc : st.pc = .tlsConnecting clean) :
    threadLoop.runFrom st (connectSteps n returnStatus) =
      some ((st.attempt returnStatus).networkResult clean returnStatus) := by
  induction n generalizing st with
  | zero =>
      have hstep : threadLoop.step st (.tlsConnect returnStatus false) =
          some ((st.attempt returnStatus).networkResult clean returnStatus) := by
        change loopStep st (.tlsConnect returnStatus false) = _
        unfold loopStep
        simp only [hpc]
        cases returnStatus with
        | true => rfl
        | false => rfl
      exact threadLoop.runFrom_of_step hstep []
  | succ n ih =>
      -- an attempt that fails leaves the loop where it is
      have hstep : threadLoop.step st (.tlsConnect false true) = some (st.attempt false) := by
        change loopStep st (.tlsConnect false true) = _
        unfold loopStep
        simp only [hpc]
        rfl
      rw [connectSteps_succ, threadLoop.runFrom_of_step hstep]
      exact ih hpc

theorem connectAttempts_run (n : Nat) (returnStatus : Bool) (clientCert privateKey : Label)
    (w : World) :
    FleetProvisioning.connectAttempts clientCert privateKey (connectAttempts n returnStatus) w =
      .ok returnStatus { w with
        trace := w.trace ++ List.replicate n (.tlsConnect clientCert privateKey false) ++
          [.tlsConnect clientCert privateKey returnStatus] } := by
  induction n generalizing w with
  | zero =>
      rw [List.replicate_zero, List.append_nil]
      cases returnStatus with
      | true => rfl
      | false => rfl
  | succ n ih =>
      refine (ih (w.log (.tlsConnect clientCert privateKey false))).trans ?_
      unfold World.log
      rw [List.replicate_succ]
      simp only [List.append_assoc, List.cons_append, List.nil_append]

/-! ### The loop over the transport -/

section Runs

variable {E : Nat → Outside} {A : BackoffAlgorithm} {generateRandomNumber : Nat → UInt32}
  {config : Config} {pSmarthomeEndpoint : String} {pxSession : Nat}
  {Retries : Nat → A.Context → Prop}

/-- What is known of a call that returned. -/
theorem returned_of_ends {pHostName : String} {port : UInt16}
    {credentials : MbedtlsPkcs11.MbedtlsPkcs11Credentials} {s s' : Connecting A}
    {returnStatus : Bool} (h : CallEnds E pHostName port credentials s (.ok returnStatus s')) :
    isOpen s'.tlsContext = returnStatus ∧
      s'.lost = s.lost + (isOpen s.tlsContext).toNat ∧
      ∃ n, n ≤ CONNECTION_RETRY_MAX_ATTEMPTS ∧ s'.connects = s.connects + n + 1 := by
  cases returnStatus with
  | true =>
      rcases h with ⟨n, hn, hattempted, hconnection, -⟩
      exact ⟨hconnection.isOpen, hattempted.lost, n, hn, hattempted.connects⟩
  | false =>
      rcases h with ⟨tlsStatus, -, hattempted, hfreed, -⟩
      exact ⟨isOpen_of_freed hfreed, hattempted.lost, _, le_refl _, hattempted.connects⟩

/-- What a run of the thread is in the model above. -/
inductive Expands : List ThreadAct → List LoopAct → Prop
  | nil : Expands [] []
  | connectToBroker {acts : List ThreadAct} {loopActs : List LoopAct} (h : Expands acts loopActs)
      {n : Nat} (hn : n ≤ CONNECTION_RETRY_MAX_ATTEMPTS) (returnStatus : Bool) :
      Expands (acts ++ [.connectToBroker]) (loopActs ++ connectSteps n returnStatus)
  | disconnect {acts : List ThreadAct} {loopActs : List LoopAct} (h : Expands acts loopActs) :
      Expands (acts ++ [.disconnect]) (loopActs ++ [.tlsDisconnect])
  | call {acts : List ThreadAct} {loopActs : List LoopAct} (h : Expands acts loopActs)
      {act : LoopAct} (hact : isMqtt act = true) :
      Expands (acts ++ [.call act]) (loopActs ++ [act])

/-- The loop is where a run of the model above has led it, with one attempt for
    each connect. Its flag and the socket agree, it connects from a closed socket,
    and none was lost. -/
structure ThreadInv (connects : Nat) (acts : List ThreadAct) (st : AgentThread A) : Prop where
  above : ∃ loopActs, Expands acts loopActs ∧ threadLoop.run loopActs = some st.loop ∧
    st.transport.connects = connects + loopActs.countP isAttempt
  agree : isOpen st.transport.tlsContext = st.loop.tlsOpen
  closed : ∀ clean, st.loop.pc = .tlsConnecting clean → st.loop.tlsOpen = false
  lost : st.transport.lost = 0

/-- The other calls neither touch the connection nor lead to a connect. -/
theorem mqtt_keeps {st st' : LoopState} {act : LoopAct} (h : LoopSteps st act st')
    (hact : isMqtt act = true) :
    st'.tlsOpen = st.tlsOpen ∧ ∀ clean, st'.pc ≠ .tlsConnecting clean := by
  cases h with
  | tlsUp | tlsRetry | tlsExhausted | closed => cases hact
  | accepted | resumed | enter | disconnected => exact ⟨rfl, fun clean => LoopPc.noConfusion⟩
  | answered clean =>
      cases clean with
      | true => exact ⟨rfl, fun clean => LoopPc.noConfusion⟩
      | false => exact ⟨rfl, fun clean => LoopPc.noConfusion⟩
  | leave status connectStatus =>
      refine ⟨rfl, fun clean h => ?_⟩
      unfold afterCommandLoop at h
      by_cases hclosed : status = .MQTTSuccess ∧ connectStatus = .MQTTNotConnected
      · simp only [if_pos hclosed] at h
        cases h
      · by_cases hended : status = .MQTTSuccess
        · simp only [if_neg hclosed, if_pos hended] at h
          cases h
        · simp only [if_neg hclosed, if_neg hended] at h
          cases h
  | tested =>
      refine ⟨rfl, fun clean h => ?_⟩
      by_cases hagain : st.xMQTTStatus ≠ .MQTTSuccess
      · simp only [if_pos hagain] at h
        cases h
      · simp only [if_neg hagain] at h
        cases h

/-- Each step of the thread is some steps of the model above it. -/
theorem threadInv_step (hA : A.Documented Retries) {connects : Nat} {acts : List ThreadAct}
    {st st' : AgentThread A} {act : ThreadAct} (h : ThreadInv connects acts st)
    (hstep : threadStep E A generateRandomNumber config pSmarthomeEndpoint pxSession st act =
      some st') : ThreadInv connects (acts ++ [act]) st' := by
  rcases h.above with ⟨loopActs, hexpands, hrun, hconnects⟩
  cases act with
  | connectToBroker =>
      unfold threadStep at hstep
      simp only at hstep
      split at hstep
      · rename_i clean hpc
        split at hstep
        · rename_i returnStatus transport hcall
          -- the call of the transport is some attempts of the loop above
          have hends := agent_ends hA E generateRandomNumber config (Nat.lt_succ_self _)
            pSmarthomeEndpoint pxSession "Device Cert" "Device Priv TLS Key" st.transport
          rw [hcall] at hends
          rcases returned_of_ends hends with ⟨hopen, hlost, n, hn, hattempts⟩
          have hclosed : st.transport.lost + (isOpen st.transport.tlsContext).toNat = 0 := by
            rw [h.lost, h.agree, h.closed clean hpc]
            rfl
          cases hstep
          refine ⟨⟨_, hexpands.connectToBroker hn returnStatus, ?_, ?_⟩, hopen,
            fun clean hclean => (nomatch hclean), hlost.trans hclosed⟩
          · rw [threadLoop.run_append, hrun]
            exact connectSteps_run n returnStatus hpc
          · rw [List.countP_append, attempts_connectSteps, hattempts, hconnects]
            omega
        · cases hstep
      · cases hstep
  | disconnect =>
      unfold threadStep at hstep
      simp only [Option.map_eq_some_iff] at hstep
      rcases hstep with ⟨loop, hloop, rfl⟩
      -- one step is one step there
      have habove := (threadLoop.run_concat loopActs .tlsDisconnect loop).mpr ⟨_, hrun, hloop⟩
      cases loopSteps_of_step hloop with
      | closed reconnect hpc =>
          refine ⟨⟨_, hexpands.disconnect, habove, ?_⟩,
            isOpen_of_freed st.transport.tlsContext.freed_free, fun _ _ => rfl, h.lost⟩
          rw [List.countP_append]
          exact hconnects
  | call act =>
      unfold threadStep at hstep
      simp only at hstep
      split at hstep
      · rename_i hact
        rw [Option.map_eq_some_iff] at hstep
        rcases hstep with ⟨loop, hloop, rfl⟩
        have habove := (threadLoop.run_concat loopActs act loop).mpr ⟨_, hrun, hloop⟩
        -- no other call is an attempt
        have hnone : isAttempt act = false := by
          cases act with
          | tlsConnect => cases hact
          | _ => rfl
        rcases mqtt_keeps (loopSteps_of_step hloop) hact with ⟨hopen, hpc⟩
        refine ⟨⟨_, hexpands.call hact, habove, ?_⟩, h.agree.trans hopen.symm,
          fun clean hclean => absurd hclean (hpc clean), h.lost⟩
        rw [List.countP_append, List.countP_singleton, hnone]
        exact hconnects
      · cases hstep

/-- A run of the thread, from a context without a connection. -/
theorem threadInv_run (hA : A.Documented Retries) {transport : Connecting A}
    (hclosed : isOpen transport.tlsContext = false) (hlost : transport.lost = 0)
    {acts : List ThreadAct} {st : AgentThread A}
    (hrun : (agentThread E A generateRandomNumber config pSmarthomeEndpoint pxSession
      transport).run acts = some st) : ThreadInv transport.connects acts st := by
  refine System.run_induction _ (P := ThreadInv transport.connects) ?_
    (fun acts s act s' _ h hstep => threadInv_step hA h hstep) acts st hrun
  exact ⟨⟨[], .nil, rfl, rfl⟩, hclosed, fun _ _ => rfl, hlost⟩

end Runs

/-- Every run of the agent over its transport is one of the model above, where
    the flag is the socket and each attempt is one of the transport. No socket is
    lost. A call of the workflow is one of its model as well. -/
theorem transport_refines {A : BackoffAlgorithm} {Retries : Nat → A.Context → Prop}
    (hA : A.Documented Retries) (E : Nat → Outside) (generateRandomNumber : Nat → UInt32)
    (config : Config) (pMqttEndpoint : String) (p11Session : Nat) :
    (∀ (transport : Connecting A) (acts : List ThreadAct) (st : AgentThread A),
      isOpen transport.tlsContext = false → transport.lost = 0 →
      (agentThread E A generateRandomNumber config pMqttEndpoint p11Session transport).run acts =
        some st →
      (∃ loopActs, Expands acts loopActs ∧ threadLoop.run loopActs = some st.loop ∧
        st.transport.connects = transport.connects + loopActs.countP isAttempt) ∧
      st.loop.tlsOpen = isOpen st.transport.tlsContext ∧ st.transport.lost = 0) ∧
    ∀ (pClientCertLabel pPrivateKeyLabel : String) (s s' : Connecting A) (returnStatus : Bool),
      MqttOperations.connectToBrokerWithBackoffRetries E A generateRandomNumber config
          (CONNECTION_RETRY_MAX_ATTEMPTS + 1) pMqttEndpoint p11Session pClientCertLabel
          pPrivateKeyLabel s = .ok returnStatus s' →
      ∃ n, n ≤ CONNECTION_RETRY_MAX_ATTEMPTS ∧ s'.connects = s.connects + n + 1 ∧
        ∀ (clientCert privateKey : Label) (w : World),
          FleetProvisioning.connectAttempts clientCert privateKey
              (connectAttempts n returnStatus) w =
            .ok returnStatus { w with
              trace := w.trace ++ List.replicate n (.tlsConnect clientCert privateKey false) ++
                [.tlsConnect clientCert privateKey returnStatus] } := by
  constructor
  · intro transport acts st hclosed hlost hrun
    have h := threadInv_run hA hclosed hlost hrun
    exact ⟨h.above, h.agree.symm, h.lost⟩
  · intro pClientCertLabel pPrivateKeyLabel s s' returnStatus hcall
    have hends := operations_ends hA E generateRandomNumber config (Nat.lt_succ_self _)
      pMqttEndpoint p11Session pClientCertLabel pPrivateKeyLabel s
    rw [hcall] at hends
    rcases returned_of_ends hends with ⟨-, -, n, hn, hattempts⟩
    exact ⟨n, hn, hattempts, connectAttempts_run n returnStatus⟩

/-- The agent connects at the third attempt, and again after its command loop
    failed. -/
def reconnects : List ThreadAct :=
  [.connectToBroker, .call (.mqttConnect .MQTTSuccess false), .call .enterCommandLoop,
    .call (.leaveCommandLoop .MQTTRecvFailed .MQTTConnected), .disconnect, .connectToBroker]

/-- The state in which it ends. -/
def reconnected : Option (AgentThread fullJitter) :=
  (agentThread (refusing 2) fullJitter (fun _ => 7) demoConfig "localhost" 1
    unusedConnecting).run reconnects

theorem transport_refines_reconnects :
    ∃ st, reconnected = some st ∧ st.transport.connects = 4 ∧
      (∃ loopActs, Expands reconnects loopActs ∧ threadLoop.run loopActs = some st.loop ∧
        st.transport.connects = 0 + loopActs.countP isAttempt) ∧
      st.loop.tlsOpen = isOpen st.transport.tlsContext ∧ st.transport.lost = 0 := by
  have hrun : (match reconnected with
    | some st => st.transport.connects == 4
    | none => false) = true := by
    decide +kernel
  cases hst : reconnected with
  | none =>
      rw [hst] at hrun
      cases hrun
  | some st =>
      rw [hst] at hrun
      exact ⟨st, rfl, beq_iff_eq.mp hrun, (transport_refines fullJitter_documented (refusing 2)
        (fun _ => 7) demoConfig "localhost" 1).1 unusedConnecting reconnects st rfl rfl hst⟩

end MqttAgent

end ProvisioningSdk
