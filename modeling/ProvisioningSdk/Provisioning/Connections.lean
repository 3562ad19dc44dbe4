import ProvisioningSdk.Provisioning.OutgoingPublishes
import ProvisioningSdk.Provisioning.Retry

/-!
# Connections

When the TLS connection of the provisioning workflow is open, read off the log.

A connect is made only where the connection is closed: an iteration closes its
first connection before it makes the second, and one that fails to establish a
session makes no other, nor do the iterations after it.

The workflow closes what `connectionEstablished` says is there, though, and the
flag is set only when `EstablishMqttSession` succeeds as a whole. A session that
fails in its MQTT part leaves the TLS connection open and the flag clear, and
nothing closes the connection then (`provision_closes_iff`).

## Main definitions

* `connectionOpen`, `ConnectsClosed`: The connection in the log.
* `MqttFails`: The MQTT part of a session fails.
* `LeavesOpen`: A session of the workflow fails with the connection open.
* `Conn`: What the log and the flag say.

## Theorems

* `mqttSession_fails_iff`, `resend_fails_iff`: When the MQTT part fails.
* `establish_conn`, `claimSteps_conn`, `iteration_conn`: The connection after a
  session, after the steps with the claim credentials, and after an iteration.
* `provision_closes_iff`: When a run closes its connections.
-/

namespace ProvisioningSdk

namespace FleetProvisioning

open Effect

/-! ### The connection in the log -/

/-- The connection after an entry. -/
def connectionStep (isOpen : Bool) : Event → Bool
  -- a connect that fails leaves the context closed
  | .tlsConnect _ _ connected => connected
  | .tlsDisconnect => false
  | _ => isOpen

/-- The connection is open after these entries, and was closed before them. -/
def connectionOpen (trace : List Event) : Bool := trace.foldl connectionStep false

/-- The entry is about the connection. -/
def Event.isConnection : Event → Bool
  | .tlsConnect _ _ _ | .tlsDisconnect => true
  | _ => false

/-- Every connect finds the connection closed. -/
def ConnectsClosed (trace : List Event) : Prop :=
  ∀ before clientCert privateKey connected after,
    trace = before ++ .tlsConnect clientCert privateKey connected :: after →
      connectionOpen before = false

/-- What a run should do: connect where the connection is closed, and have it
    closed when it returns. -/
def RunCloses : EStateM.Result Halt World Int → Prop
  | .ok _ w' => ConnectsClosed w'.trace ∧ connectionOpen w'.trace = false
  | .error _ w' => ConnectsClosed w'.trace

theorem connectionOpen_concat (trace : List Event) (e : Event) :
    connectionOpen (trace ++ [e]) = connectionStep (connectionOpen trace) e := by
  unfold connectionOpen
  rw [List.foldl_append]
  rfl

theorem connectionStep_of_aside (isOpen : Bool) {e : Event} (he : e.isConnection = false) :
    connectionStep isOpen e = isOpen := by
  cases e with
  | tlsConnect clientCert privateKey connected => cases he
  | tlsDisconnect => cases he
  | _ => rfl

theorem ConnectsClosed.nil : ConnectsClosed [] := by
  intro before clientCert privateKey connected after h
  exact absurd h.symm (List.append_ne_nil_of_right_ne_nil _ (List.cons_ne_nil _ _))

/-- One more entry, which is no connect or finds the connection closed. -/
theorem ConnectsClosed.concat {trace : List Event} (h : ConnectsClosed trace) (e : Event)
    (he : ∀ clientCert privateKey connected, e = .tlsConnect clientCert privateKey connected →
      connectionOpen trace = false) : ConnectsClosed (trace ++ [e]) := by
  intro before clientCert privateKey connected after heq
  rcases List.eq_nil_or_concat after with rfl | ⟨after', last, rfl⟩
  · -- the connect is the new entry
    have hparts := List.append_inj' heq rfl
    rw [← hparts.1]
    exact he clientCert privateKey connected (List.cons.inj hparts.2).1
  · rw [List.concat_eq_append, ← List.cons_append, ← List.append_assoc] at heq
    exact h before clientCert privateKey connected after' (List.append_inj' heq rfl).1

/-! ### Sessions that fail over an open connection -/

section Sessions

variable (E : External)

/-- The outgoing publishes at these indices that wait for an acknowledgement. -/
def storedAt (packets : Nat → PublishPackets) (indices : List Nat) : Nat :=
  (indices.filter (fun index => (packets index).packetId != MQTT_PACKET_ID_INVALID)).length

/-- The MQTT part of a session that is established from this state fails: the
    broker does not accept it, or one of the publishes that are sent again does
    not succeed. -/
def MqttFails (w : World) : Prop :=
  connack E w.now = none ∨ connack E w.now = some true ∧
    ∃ i < storedAt w.mqtt.outgoingPublishPackets (List.range MAX_OUTGOING_PUBLISHES),
      E.MQTT_Publish (w.now + 3 + i) ≠ .MQTTSuccess

/-- A session that is established from this state has its connection, and
    fails. -/
def FailsOpen (clientCert privateKey : Label) (w : World) : Prop :=
  ∃ w', connectToBrokerWithBackoffRetries E clientCert privateKey w = .ok true w' ∧ MqttFails E w'

variable (pDeviceSerialNumber : List UInt8)

/-- In an iteration that begins here one of the two sessions has its connection
    and fails. -/
def LeavesOpen (w : World) : Prop :=
  FailsOpen E .CLAIM_CERTIFICATE .CLAIM_PRIVATE_KEY w ∨
    ∃ w1 w2, AllSucceed (workflowStep E pDeviceSerialNumber) claimSteps w w1 ∧
      closeConnection E w1 = .ok () w2 ∧
      FailsOpen E .DEVICE_CERTIFICATE_FOR_TLS .DEVICE_PRIVATE_KEY_FOR_TLS w2

end Sessions

/-- The log, the connection, and the flag of the workflow. -/
structure Conn (isOpen established : Bool) (w : World) : Prop where
  closed : ConnectsClosed w.trace
  isOpen : connectionOpen w.trace = isOpen
  established : w.locals.connectionEstablished = established

variable {isOpen established : Bool}

theorem Conn.log {w : World} (h : Conn isOpen established w) {e : Event}
    (he : e.isConnection = false) : Conn isOpen established (w.log e) where
  closed := h.closed.concat e (fun _ _ _ heq => by rw [heq] at he; cases he)
  isOpen := (connectionOpen_concat _ _).trans ((connectionStep_of_aside _ he).trans h.isOpen)
  established := h.established

/-- A connect where the connection is closed. -/
theorem Conn.connect {w : World} (h : Conn false established w) (clientCert privateKey : Label)
    (connected : Bool) :
    Conn connected established (w.log (.tlsConnect clientCert privateKey connected)) where
  closed := h.closed.concat _ (fun _ _ _ _ => h.isOpen)
  isOpen := connectionOpen_concat _ _
  established := h.established

theorem Conn.disconnect {w : World} (h : Conn isOpen established w) :
    Conn false established (w.log .tlsDisconnect) where
  closed := h.closed.concat _ (fun _ _ _ heq => by cases heq)
  isOpen := connectionOpen_concat _ _
  established := h.established

/-- What happens over a connection leaves it as it is. -/
theorem conn_calls (E : External) (isOpen established : Bool) :
    StableCalls E (Conn isOpen established) where
  now := fun _ _ h => ⟨h.closed, h.isOpen, h.established⟩
  mqtt := fun _ _ h => ⟨h.closed, h.isOpen, h.established⟩
  traffic := by
    intro w e he h
    refine h.log ?_
    cases e with
    | tlsConnect clientCert privateKey connected => cases he
    | tlsDisconnect => cases he
    | _ => rfl
  deliver := by
    intro w info h
    have hlog := h.log (e := .delivered info) rfl
    exact ⟨hlog.closed, hlog.isOpen, hlog.established⟩
  responses := fun _ _ h => ⟨h.closed, h.isOpen, h.established⟩

section Runs

variable (E : External)

/-! ### Sessions -/

theorem storedAt_cons (packets : Nat → PublishPackets) (index : Nat) (rest : List Nat) :
    storedAt packets (index :: rest) =
      (if (packets index).packetId ≠ MQTT_PACKET_ID_INVALID then 1 else 0) +
        storedAt packets rest := by
  unfold storedAt
  by_cases h : (packets index).packetId = MQTT_PACKET_ID_INVALID
  · rw [List.filter_cons_of_neg (by simpa using h), if_neg (not_not.mpr h), Nat.zero_add]
  · rw [List.filter_cons_of_pos (by simpa using h), if_pos h, List.length_cons, Nat.add_comm]

/-- A flag does not change what is in use. -/
theorem storedAt_flagged {packets packets' : Nat → PublishPackets} (h : Flagged packets packets')
    (indices : List Nat) : storedAt packets' indices = storedAt packets indices := by
  unfold storedAt
  refine congrArg List.length (List.filter_congr (fun i _ => ?_))
  rcases h i with heq | ⟨-, heq⟩
  · rw [heq]
  · rw [heq]
    rfl

/-- The resend fails if one of the publishes does. -/
theorem resend_fails_iff {indices : List Nat} {w w' : World} {status : Bool}
    (h : resendFrom E indices w = .ok status w') :
    status = false ↔ ∃ i < storedAt w.mqtt.outgoingPublishPackets indices,
      E.MQTT_Publish (w.now + i) ≠ .MQTTSuccess := by
  induction indices generalizing w with
  | nil =>
      cases h
      constructor
      · intro hstatus
        cases hstatus
      · rintro ⟨i, hi, -⟩
        exact absurd hi (Nat.not_lt_zero i)
  | cons index rest ih =>
      by_cases hid : (w.mqtt.outgoingPublishPackets index).packetId = MQTT_PACKET_ID_INVALID
      · -- nothing is kept at this index
        rw [resendFrom_free E hid] at h
        rw [ih h, storedAt_cons, if_neg (not_not.mpr hid), Nat.zero_add]
      · rw [resendFrom_stored E hid] at h
        rw [storedAt_cons, if_pos hid]
        by_cases hpublish : E.MQTT_Publish w.now = .MQTTSuccess
        · -- this one succeeds, and the others are asked for one later
          rw [if_pos hpublish] at h
          have hrest := ih h
          rw [storedAt_flagged (flagged_resent E hid)] at hrest
          have hnow : (w.resent E index).now = w.now + 1 := rfl
          rw [hrest, hnow]
          constructor
          · rintro ⟨i, hi, hfails⟩
            refine ⟨i + 1, by omega, ?_⟩
            rw [← Nat.add_assoc, Nat.add_right_comm]
            exact hfails
          · rintro ⟨i, hi, hfails⟩
            cases i with
            | zero => exact absurd hpublish hfails
            | succ i =>
                refine ⟨i, by omega, ?_⟩
                rw [Nat.add_right_comm, Nat.add_assoc]
                exact hfails
        · rw [if_neg hpublish] at h
          cases h
          exact ⟨fun _ => ⟨0, by omega, hpublish⟩, fun _ => rfl⟩

/-- The MQTT part of a session returns, and fails as it says. -/
theorem mqttSession_fails_iff (w : World) :
    ∃ status w', mqttSession E w = .ok status w' ∧ (status = false ↔ MqttFails E w) := by
  rcases connectMqtt_ok E { w with mqtt := { w.mqtt with appPublishCallback := true } } with
    ⟨sessionPresent, n, hrun, hsession⟩
  simp only at hrun hsession
  unfold mqttSession MqttFails
  -- it fails without a CONNACK, or on a resend in a session that is present
  cases hconnack : connack E w.now with
  | none =>
      rw [hconnack] at hrun
      exact ⟨false, _, bind_ok.mpr ⟨(), _, rfl, bind_ok.mpr ⟨_, _, hrun, rfl⟩⟩,
        fun _ => Or.inl rfl, fun _ => rfl⟩
  | some present =>
      rcases hsession present hconnack with ⟨rfl, hn⟩
      rw [hconnack] at hrun
      cases sessionPresent with
      | false =>
          refine ⟨true, _, bind_ok.mpr ⟨(), _, rfl, bind_ok.mpr ⟨_, _, hrun,
            bind_ok.mpr ⟨(), _, rfl, rfl⟩⟩⟩, fun h => (by cases h), ?_⟩
          rintro (h | ⟨h, -⟩)
          · cases h
          · cases h
      | true =>
          rcases resend_table E (List.range MAX_OUTGOING_PUBLISHES)
            { w with
              mqtt := { w.mqtt with appPublishCallback := true, mqttSessionEstablished := true }
              now := n } with ⟨status, w', hresend, -⟩
          refine ⟨status, w', bind_ok.mpr ⟨(), _, rfl, bind_ok.mpr ⟨_, _, hrun,
            bind_ok.mpr ⟨(), _, rfl, hresend⟩⟩⟩, ?_⟩
          have hfails := resend_fails_iff E hresend
          simp only at hfails
          rw [hn] at hfails
          simp only [hfails, reduceCtorEq, true_and, false_or]

/-- Connecting leaves the connection as the result says. -/
theorem connect_conn (clientCert privateKey : Label) (established : Bool) :
    Triple (Conn false established) (connectToBrokerWithBackoffRetries E clientCert privateKey)
      (fun connected => Conn connected established) (Conn false established) := by
  refine Triple.bind ((conn_calls E false established).ask _) (fun attempts => ?_)
  induction attempts with
  | nil => exact Triple.throw (fun _ h => h)
  | cons attempt rest ih =>
      refine Triple.bind (Q := fun _ => Conn attempt.connected established)
        (Triple.modify (fun w h => h.connect clientCert privateKey attempt.connected)) (fun _ => ?_)
      cases attempt.connected with
      | true => exact Triple.pure (fun _ h => h)
      | false =>
          exact Triple.ite (fun hc => (by cases hc))
            (fun _ => Triple.ite (fun _ => ih) (fun _ => Triple.pure (fun _ h => h)))

/-- The flag is right about the connection, or it was left open by a session
    that failed. -/
def ConnOr (leaves : Prop) (w : World) : Prop :=
  leaves ∧ Conn true false w ∨ ¬ leaves ∧ ∃ isOpen, Conn isOpen isOpen w

/-- The connection after a session was to be established. -/
theorem establish_conn (clientCert privateKey : Label) {w : World} (h : Conn false false w) :
    match establish E clientCert privateKey w with
    | .ok true w' => ¬ FailsOpen E clientCert privateKey w ∧ Conn true true w'
    | .ok false w' => ConnOr (FailsOpen E clientCert privateKey w) w'
    | .error _ w' => ¬ FailsOpen E clientCert privateKey w ∧ Conn false false w' := by
  unfold establish FailsOpen
  rw [establishMqttSession_eq, bind_eq, bind_eq]
  have hconnect := connect_conn E clientCert privateKey false w h
  cases hrun : connectToBrokerWithBackoffRetries E clientCert privateKey w with
  | error halt w1 =>
      rw [hrun] at hconnect
      exact ⟨fun ⟨_, hok, _⟩ => (by cases hok), hconnect⟩
  | ok connected w1 =>
      rw [hrun] at hconnect
      cases connected with
      | false => exact Or.inr ⟨fun ⟨_, hok, _⟩ => (by cases hok), false, hconnect⟩
      | true =>
          rcases mqttSession_fails_iff E w1 with ⟨status, w2, hsession, hfails⟩
          have hconn : Conn true false w2 :=
            (conn_calls E true false).mqttSession.ok hconnect hsession
          have hleaves : (∃ w', EStateM.Result.ok (ε := Halt) true w1 = .ok true w' ∧
              MqttFails E w') ↔ status = false := by
            rw [hfails]
            exact ⟨fun ⟨_, hok, hf⟩ => (by cases hok; exact hf), fun hf => ⟨w1, rfl, hf⟩⟩
          simp only [Bool.true_eq_false, if_false, hsession]
          rw [hleaves]
          cases status with
          | false => exact Or.inl ⟨rfl, hconn⟩
          | true => exact ⟨fun hc => (by cases hc), hconn.closed, hconn.isOpen, rfl⟩

/-! ### Iterations -/

variable (pDeviceSerialNumber : List UInt8)

/-- A step over a connection leaves it as it is. -/
theorem workflowStep_conn (isOpen established : Bool) {s : Step} (hs : s.establishes = false) :
    Triple (Conn isOpen established) (workflowStep E pDeviceSerialNumber s)
      (fun _ => Conn isOpen established) (Conn isOpen established) := by
  refine workflowStep_triple ((conn_calls E isOpen established).call pDeviceSerialNumber s hs ?_
    (fun _ _ _ h => ⟨h.closed, h.isOpen, h.established⟩)
    (fun _ _ _ h => ⟨h.closed, h.isOpen, h.established⟩)) (fun _ _ h => h.log rfl)
  intro w e he h
  refine h.log ?_
  cases e with
  | tlsConnect clientCert privateKey connected => cases s <;> cases he
  | tlsDisconnect => cases s <;> cases he
  | _ => rfl

/-- A step that establishes a session, with its entry in the log. -/
theorem establishStep_conn {s : Step} {clientCert privateKey : Label}
    (hs : call E pDeviceSerialNumber s = establish E clientCert privateKey) {w : World}
    (h : Conn false false w) :
    match workflowStep E pDeviceSerialNumber s w with
    | .ok true w' => ¬ FailsOpen E clientCert privateKey w ∧ Conn true true w'
    | .ok false w' => ConnOr (FailsOpen E clientCert privateKey w) w'
    | .error _ w' => ¬ FailsOpen E clientCert privateKey w ∧ Conn false false w' := by
  have hestablish := establish_conn E clientCert privateKey h
  unfold workflowStep
  rw [hs, bind_eq]
  cases hrun : establish E clientCert privateKey w with
  | error halt w1 =>
      rw [hrun] at hestablish
      exact hestablish
  | ok status w1 =>
      rw [hrun] at hestablish
      cases status with
      | true => exact ⟨hestablish.1, hestablish.2.log rfl⟩
      | false =>
          rcases hestablish with ⟨hfails, hconn⟩ | ⟨hfails, isOpen, hconn⟩
          · exact Or.inl ⟨hfails, hconn.log rfl⟩
          · exact Or.inr ⟨hfails, isOpen, hconn.log rfl⟩

/-- The connection after the steps with the claim credentials. -/
theorem claimSteps_conn {w : World} (h : Conn false false w) :
    let fails := FailsOpen E .CLAIM_CERTIFICATE .CLAIM_PRIVATE_KEY w
    match gates (workflowStep E pDeviceSerialNumber) true claimSteps w with
    | .ok true w' => ¬ fails ∧ Conn true true w'
    | .ok false w' => ConnOr fails w'
    | .error _ w' => ¬ fails ∧ ConnectsClosed w'.trace := by
  intro fails
  have hfirst := establishStep_conn E pDeviceSerialNumber (s := .establishWithClaim) rfl h
  -- the other steps keep the connection that the first has made
  have hrest : ∀ status, Triple
      (Gate (fun w' => ¬ fails ∧ Conn true true w') (ConnOr fails) status)
      (gates (workflowStep E pDeviceSerialNumber) status (claimSteps.drop 1))
      (Gate (fun w' => ¬ fails ∧ Conn true true w') (ConnOr fails))
      (fun w' => ¬ fails ∧ ConnectsClosed w'.trace) := by
    refine fun status => Triple.gates_keeps (fun s hs => ?_)
      (fun w' h' => Or.inr ⟨h'.1, true, h'.2⟩) status
    have hs' : s.establishes = false := by
      revert s
      decide
    exact ((workflowStep_conn E pDeviceSerialNumber true true hs').pure_and (¬ fails)).consequence
      (fun _ h => h) (fun _ _ h => h) (fun _ h => ⟨h.1, h.2.closed⟩)
  have hsteps : claimSteps = .establishWithClaim :: claimSteps.drop 1 := rfl
  rw [hsteps, gates_cons, bind_eq]
  cases hrun : workflowStep E pDeviceSerialNumber .establishWithClaim w with
  | error halt w1 =>
      rw [hrun] at hfirst
      exact ⟨hfirst.1, hfirst.2.closed⟩
  | ok status w1 =>
      rw [hrun] at hfirst
      have hgate : Gate (fun w' => ¬ fails ∧ Conn true true w') (ConnOr fails) status w1 := by
        cases status with
        | true => exact hfirst
        | false => exact hfirst
      have hend := hrest status w1 hgate
      simp only
      cases hgates : gates (workflowStep E pDeviceSerialNumber) status (claimSteps.drop 1) w1 with
      | error halt w2 =>
          rw [hgates] at hend
          exact hend
      | ok status' w2 =>
          rw [hgates] at hend
          cases status' with
          | true => exact hend
          | false => exact hend

/-- Closing the connection that the flag says is there. -/
theorem closeConnection_conn {isOpen : Bool} {w w' : World} (h : Conn isOpen isOpen w)
    (hrun : closeConnection E w = .ok () w') : Conn false false w' := by
  unfold closeConnection at hrun
  rw [get_bind, h.established] at hrun
  cases isOpen with
  | false =>
      cases hrun
      exact h
  | true =>
      rcases bind_ok.mp hrun with ⟨status, w1, hdisconnect, hrun⟩
      cases hrun
      rcases bind_ok.mp hdisconnect with ⟨returnStatus, w2, hmqtt, hdisconnect⟩
      rcases bind_ok.mp hdisconnect with ⟨_, w3, hlog, hdisconnect⟩
      cases hlog
      cases hdisconnect
      -- the MQTT part of disconnecting leaves the connection alone
      have hkeeps : Keeps (Conn true true) (disconnectMqtt E) :=
        Keeps.bind Keeps.get (fun _ => Keeps.ite
          (fun _ => Keeps.bind ((conn_calls E true true).ask _) (fun _ => Keeps.pure _))
          (fun _ => Keeps.pure _))
      have hconn := (hkeeps.ok h hmqtt).disconnect
      exact ⟨hconn.closed, hconn.isOpen, rfl⟩

/-- Without the flag nothing is closed. -/
theorem closeConnection_clear {w w' : World} (h : w.locals.connectionEstablished = false)
    (hrun : closeConnection E w = .ok () w') : w' = w := by
  unfold closeConnection at hrun
  rw [get_bind, h] at hrun
  cases hrun
  rfl

/-- What is left after closing the connection. -/
theorem closeConnection_connOr {leaves : Prop} {w w' : World} (h : ConnOr leaves w)
    (hrun : closeConnection E w = .ok () w') :
    leaves ∧ Conn true false w' ∨ ¬ leaves ∧ Conn false false w' := by
  rcases h with ⟨hleaves, hconn⟩ | ⟨hleaves, isOpen, hconn⟩
  · rw [closeConnection_clear E hconn.established hrun]
    exact Or.inl ⟨hleaves, hconn⟩
  · exact Or.inr ⟨hleaves, closeConnection_conn E hconn hrun⟩

/-- The second session is only come to when the steps before it succeed. -/
theorem leavesOpen_of_fails {w : World}
    (h : ∀ w', gates (workflowStep E pDeviceSerialNumber) true claimSteps w ≠ .ok true w') :
    LeavesOpen E pDeviceSerialNumber w ↔
      FailsOpen E .CLAIM_CERTIFICATE .CLAIM_PRIVATE_KEY w := by
  constructor
  · rintro (hfails | ⟨w1, w2, hall, -, -⟩)
    · exact hfails
    · exact absurd ((gates_true_iff _ _ _).mpr hall) (h w1)
  · exact Or.inl

theorem leavesOpen_of_succeed {w w1 w2 : World}
    (h : gates (workflowStep E pDeviceSerialNumber) true claimSteps w = .ok true w1)
    (hclose : closeConnection E w1 = .ok () w2)
    (hclaim : ¬ FailsOpen E .CLAIM_CERTIFICATE .CLAIM_PRIVATE_KEY w) :
    LeavesOpen E pDeviceSerialNumber w ↔
      FailsOpen E .DEVICE_CERTIFICATE_FOR_TLS .DEVICE_PRIVATE_KEY_FOR_TLS w2 := by
  constructor
  · rintro (hfails | ⟨w1', w2', hall, hclose', hfails⟩)
    · exact absurd hfails hclaim
    · -- the steps end in one state only
      have hsame := (gates_true_iff _ _ _).mpr hall
      rw [h] at hsame
      cases hsame
      rw [hclose] at hclose'
      cases hclose'
      exact hfails
  · intro hfails
    exact Or.inr ⟨w1, w2, (gates_true_iff _ _ _).mp h, hclose, hfails⟩

/-- The connection after an iteration. -/
theorem iteration_conn {w : World} (h : Conn false false w.begin) :
    match iteration E pDeviceSerialNumber true w with
    | .ok _ w' => LeavesOpen E pDeviceSerialNumber w.begin ∧ Conn true false w' ∨
        ¬ LeavesOpen E pDeviceSerialNumber w.begin ∧ Conn false false w'
    | .error _ w' => ¬ LeavesOpen E pDeviceSerialNumber w.begin ∧ ConnectsClosed w'.trace := by
  have hclaim := claimSteps_conn E pDeviceSerialNumber h
  -- the steps with the claim come first, then those with the device certificate
  have hbegin : iteration E pDeviceSerialNumber true w =
      (gates (workflowStep E pDeviceSerialNumber) true claimSteps >>= fun status => do
        closeConnection E
        let status ← gates (workflowStep E pDeviceSerialNumber) status [.establishWithDevice]
        closeConnection E
        return status) w.begin := rfl
  rw [hbegin, bind_eq]
  cases hgates : gates (workflowStep E pDeviceSerialNumber) true claimSteps w.begin with
  | error halt w1 =>
      rw [hgates] at hclaim
      simp only
      -- the program stopped, so those steps did not all succeed
      have hnot : ∀ w', gates (workflowStep E pDeviceSerialNumber) true claimSteps w.begin ≠
          .ok true w' := by
        intro w' hok
        rw [hgates] at hok
        cases hok
      rw [leavesOpen_of_fails E pDeviceSerialNumber hnot]
      exact hclaim
  | ok status w1 =>
      rw [hgates] at hclaim
      rcases closeConnection_ok E w1 with ⟨w2, hclose, -⟩
      simp only
      rw [bind_eq, hclose]
      simp only
      cases status with
      | false =>
          -- a session that failed, or another step: no session is established after it
          rw [leavesOpen_of_fails E pDeviceSerialNumber
            (fun w' hok => by rw [hgates] at hok; cases hok), bind_eq, gates_false]
          rcases closeConnection_ok E w2 with ⟨w3, hclose', -⟩
          simp only
          rw [bind_eq, hclose']
          rcases closeConnection_connOr E hclaim hclose with ⟨hfails, hconn⟩ | ⟨hfails, hconn⟩
          · exact closeConnection_connOr E (Or.inl ⟨hfails, hconn⟩) hclose'
          · exact closeConnection_connOr E (Or.inr ⟨hfails, false, hconn⟩) hclose'
      | true =>
          -- the session with the claim is closed, and the other one is established
          have hconn := closeConnection_conn E hclaim.2 hclose
          have hdevice := establishStep_conn E pDeviceSerialNumber (s := .establishWithDevice)
            rfl hconn
          rw [leavesOpen_of_succeed E pDeviceSerialNumber hgates hclose hclaim.1, bind_eq,
            gates_cons, bind_eq]
          cases hstep : workflowStep E pDeviceSerialNumber .establishWithDevice w2 with
          | error halt w3 =>
              rw [hstep] at hdevice
              exact ⟨hdevice.1, hdevice.2.closed⟩
          | ok status w3 =>
              rw [hstep] at hdevice
              rcases closeConnection_ok E w3 with ⟨w4, hclose', -⟩
              have hend : gates (workflowStep E pDeviceSerialNumber) status [] w3 =
                  .ok status w3 := rfl
              simp only
              rw [hend]
              simp only
              rw [bind_eq, hclose']
              -- whether it is left open depends on the disconnect
              cases status with
              | true =>
                  exact closeConnection_connOr E (Or.inr ⟨hdevice.1, true, hdevice.2⟩) hclose'
              | false => exact closeConnection_connOr E hdevice hclose'

/-! ### Runs -/

/-- Iterations that only begin leave the connection as it is. -/
theorem conn_replicate {trace : List Event} (h : ConnectsClosed trace) (n : Nat) :
    ConnectsClosed (trace ++ List.replicate n .iteration) ∧
      connectionOpen (trace ++ List.replicate n .iteration) = connectionOpen trace := by
  induction n with
  | zero =>
      rw [List.replicate_zero, List.append_nil]
      exact ⟨h, rfl⟩
  | succ n ih =>
      rw [List.replicate_succ', ← List.append_assoc, connectionOpen_concat]
      exact ⟨ih.1.concat _ (fun _ _ _ heq => by cases heq), ih.2⟩

/-- A run connects where the connection is closed, and it leaves none exactly if
    neither of the two sessions of its first iteration fails with the connection
    open. -/
theorem provision_closes_iff (maxDemoLoopCount : Nat) (w : World) :
    RunCloses (ProvisionDevicePKCS11WithFP E pDeviceSerialNumber maxDemoLoopCount w) ↔
      ¬ LeavesOpen E pDeviceSerialNumber w.enter.begin := by
  have hbegin : Conn false false w.enter.begin :=
    ⟨ConnectsClosed.nil.concat _ (fun _ _ _ heq => by cases heq), rfl, rfl⟩
  have hiteration := iteration_conn E pDeviceSerialNumber hbegin
  cases hrun : iteration E pDeviceSerialNumber true w.enter with
  | error halt w1 =>
      rw [hrun] at hiteration
      rw [provision_of_halt E pDeviceSerialNumber maxDemoLoopCount hrun]
      exact ⟨fun _ => hiteration.1, fun _ => hiteration.2⟩
  | ok status w1 =>
      rw [hrun] at hiteration
      rcases provision_of_iteration E pDeviceSerialNumber maxDemoLoopCount hrun with
        ⟨w', hw', htrace, -⟩
      rw [hw']
      unfold RunCloses
      simp only
      rw [htrace]
      rcases hiteration with ⟨hleaves, hconn⟩ | ⟨hleaves, hconn⟩
      · rw [(conn_replicate hconn.closed _).2, hconn.isOpen]
        exact ⟨fun hc => absurd hc.2 (fun hc => by cases hc), fun hnot => absurd hleaves hnot⟩
      · rw [(conn_replicate hconn.closed _).2, hconn.isOpen]
        exact ⟨fun _ => hleaves, fun _ => ⟨(conn_replicate hconn.closed _).1, rfl⟩⟩

end Runs

/-- The broker does not accept the session. -/
def refusedSession : External :=
  { External.reliable [] [] with MQTT_Connect := fun _ => (.other 1, false) }

/-- The TLS connection of a session that the broker does not accept is still
    open when the run returns. -/
theorem provision_leavesOpen :
    ¬ RunCloses (ProvisionDevicePKCS11WithFP refusedSession [83] 3 World.initial) := by
  have hrun : ∃ w', ProvisionDevicePKCS11WithFP refusedSession [83] 3 World.initial =
      .ok (-1) w' ∧ connectionOpen w'.trace = true := ⟨_, rfl, rfl⟩
  rcases hrun with ⟨w', hw', hopen⟩
  rw [hw']
  rintro ⟨-, hclosed⟩
  rw [hopen] at hclosed
  cases hclosed

end FleetProvisioning

end ProvisioningSdk
