import ProvisioningSdk.Lib.Transition
import ProvisioningSdk.Provisioning.Workflow

/-!
# Waiting for an Acknowledgement

What `SubscribeToTopic` and `UnsubscribeFromTopic` return, over runs of the MQTT
operations in any number of sessions.

A wait looks at one number. The callback writes the identifier of every
acknowledgement to it, of a SUBACK, an UNSUBACK or a PUBACK, and whether the
server accepted or refused. So a wait that returns true ended on an
acknowledgement with its own number (`lastAck_of_true`), of whatever kind. The
identifiers start again with every session while the unacknowledged publishes
are kept, so the number alone does not tell.

The log has the packets and not what coreMQTT reports with them. The
`deserializationResult` of a packet is given beside it, by the place of its
entry in the log; nothing in the program reads it.

## Main definitions

* `ApiCall`, `apiRuns`: Runs of the operations.
* `TrueIfAcknowledged`: What a call that returns true should have been sent.
* `lastAck`: The identifier of the last acknowledgement.
* `EndsOnOwn`: The condition on the packets of a wait.

## Theorems

* `acking_mqttCallback`, `acking_processLoops`: The number a wait looks at.
* `lastAck_of_true`: What a wait that returns true ended on.
* `acks_own`: With the condition the calls return true only if acknowledged.
-/

namespace ProvisioningSdk

namespace FleetProvisioning

open Effect Transition

/-- A call of an operation. -/
inductive ApiCall
  | EstablishMqttSession (clientCert privateKey : Label)
  | DisconnectMqttSession
  | SubscribeToTopic (topicFilter : ApiTopic)
  | UnsubscribeFromTopic (topicFilter : ApiTopic)
  | PublishToTopic (topic : ApiTopic) (pPayload : Pointer) (payloadLength : Nat)
  | ProcessLoopWithTimeout
  deriving DecidableEq, Repr

section Calls

variable (E : External)

/-- The program of a call. -/
def ApiCall.program : ApiCall → Program Bool
  | .EstablishMqttSession clientCert privateKey =>
      FleetProvisioning.EstablishMqttSession E clientCert privateKey
  | .DisconnectMqttSession => FleetProvisioning.DisconnectMqttSession E
  | .SubscribeToTopic topicFilter => FleetProvisioning.SubscribeToTopic E topicFilter
  | .UnsubscribeFromTopic topicFilter => FleetProvisioning.UnsubscribeFromTopic E topicFilter
  | .PublishToTopic topic pPayload payloadLength =>
      FleetProvisioning.PublishToTopic E topic pPayload payloadLength
  | .ProcessLoopWithTimeout => FleetProvisioning.ProcessLoopWithTimeout E

/-- A call that returns. -/
def apiStep (w : World) (call : ApiCall) : Option World :=
  match call.program E w with
  | .ok _ w' => some w'
  | .error _ _ => none

/-- The runs from this state. -/
def apiRuns (w : World) : System World ApiCall where
  init := w
  step := apiStep E

/-! ### Acknowledgements -/

/-- The entry of the log at this place is what the call waits for: a SUBACK with
    its own identifier that the server accepted, or an UNSUBACK with its own
    identifier. -/
def Answers (deserializationResult : Nat → MQTTStatus) (packetId i : Nat) (e : Event) :
    ApiCall → Prop
  | .SubscribeToTopic _ =>
      e = .received (.suback packetId) ∧ deserializationResult i = .MQTTSuccess
  | .UnsubscribeFromTopic _ => e = .received (.unsuback packetId)
  | _ => True

/-- The call waits for an acknowledgement. -/
def ApiCall.waits : ApiCall → Bool
  | .SubscribeToTopic _ => true
  | .UnsubscribeFromTopic _ => true
  | _ => false

/-- A call that waits returns true only if it was sent what it waits for. Its
    identifier is what `MQTT_GetPacketId` returns at its beginning. -/
def TrueIfAcknowledged (deserializationResult : Nat → MQTTStatus) (w : World) (call : ApiCall) :
    Prop :=
  ∀ w', call.program E w = .ok true w' → call.waits = true →
    ∃ (i : Nat) (e : Event), w.trace.length ≤ i ∧ w'.trace[i]? = some e ∧
      Answers deserializationResult (E.MQTT_GetPacketId w.now) i e call

/-- The identifier of an acknowledgement. -/
def Event.ack : Event → Option Nat
  | .received (.suback packetIdentifier) => some packetIdentifier
  | .received (.unsuback packetIdentifier) => some packetIdentifier
  | .received (.puback packetIdentifier) => some packetIdentifier
  | _ => none

/-- If the last acknowledgement that is delivered to a call has the number the
    call waits for, it is what the call waits for. -/
def EndsOnOwn (deserializationResult : Nat → MQTTStatus) (w : World) (call : ApiCall) : Prop :=
  ∀ w', apiStep E w call = some w' → ∀ (i : Nat) (e : Event),
    w.trace.length ≤ i → w'.trace[i]? = some e →
    e.ack = some (E.MQTT_GetPacketId w.now) →
      (∀ (j : Nat) (e' : Event), i < j → w'.trace[j]? = some e' → e'.ack = none) →
        Answers deserializationResult (E.MQTT_GetPacketId w.now) i e call

end Calls

/-- The identifier of the last acknowledgement among these entries, and 0 if
    there is none. -/
def lastAck (entries : List Event) : Nat := entries.foldl (fun ack e => e.ack.getD ack) 0

/-- The last acknowledgement, if there is one. -/
theorem exists_lastAck (entries : List Event) (h : lastAck entries ≠ 0) :
    ∃ (i : Nat) (e : Event), entries[i]? = some e ∧ e.ack = some (lastAck entries) ∧
      ∀ (j : Nat) (e' : Event), i < j → entries[j]? = some e' → e'.ack = none := by
  induction entries using List.reverseRecOn with
  | nil => exact absurd rfl h
  | append_singleton entries last ih =>
      have hconcat : lastAck (entries ++ [last]) = last.ack.getD (lastAck entries) := by
        unfold lastAck
        rw [List.foldl_append]
        rfl
      cases hack : last.ack with
      | some packetId =>
          -- it is the last entry
          refine ⟨entries.length, last, List.getElem?_concat_length, ?_, fun j e' hj he' => ?_⟩
          · rw [hconcat, hack]
            rfl
          · have hlt := (List.getElem?_eq_some_iff.mp he').1
            rw [List.length_append, List.length_singleton] at hlt
            omega
      | none =>
          have hsame : lastAck (entries ++ [last]) = lastAck entries := by
            rw [hconcat, hack]
            rfl
          rw [hsame] at h ⊢
          rcases ih h with ⟨i, e, he, hnumber, hafter⟩
          have hi := (List.getElem?_eq_some_iff.mp he).1
          refine ⟨i, e, by rw [List.getElem?_append_left hi, he], hnumber, fun j e' hj he' => ?_⟩
          by_cases hjlt : j < entries.length
          · rw [List.getElem?_append_left hjlt] at he'
            exact hafter j e' hj he'
          · have hlt := (List.getElem?_eq_some_iff.mp he').1
            rw [List.length_append, List.length_singleton] at hlt
            obtain rfl : j = entries.length := by omega
            rw [List.getElem?_concat_length, Option.some.injEq] at he'
            exact he' ▸ hack

/-- The number a wait looks at is that of the last acknowledgement since the log
    had this length. -/
structure Acking (length : Nat) (w : World) : Prop where
  length_le : length ≤ w.trace.length
  ack : w.mqtt.globalAckPacketIdentifier = lastAck (w.trace.drop length)

theorem lastAck_log {length : Nat} {w : World} (h : length ≤ w.trace.length) (e : Event) :
    lastAck ((w.log e).trace.drop length) = e.ack.getD (lastAck (w.trace.drop length)) := by
  unfold lastAck World.log
  rw [List.drop_append_of_le_length h, List.foldl_append]
  rfl

theorem length_log_le {length : Nat} {w : World} (h : length ≤ w.trace.length) (e : Event) :
    length ≤ (w.log e).trace.length := by
  unfold World.log
  rw [List.length_append]
  omega

/-- An entry that is no acknowledgement. -/
theorem Acking.log {length : Nat} {w : World} (h : Acking length w) {e : Event}
    (he : e.ack = none) : Acking length (w.log e) where
  length_le := length_log_le h.length_le e
  ack := by
    rw [lastAck_log h.length_le, he]
    exact h.ack

/-- An acknowledgement is in the log, and its number is not written yet. -/
def Entered (length packetIdentifier : Nat) (w : World) : Prop :=
  length ≤ w.trace.length ∧ lastAck (w.trace.drop length) = packetIdentifier

section Waits

variable (E : External) (length : Nat)

theorem triple_assert {P : World → Prop} (c : Bool) :
    Triple P (assert c) (fun _ => P) (fun _ => True) :=
  Triple.ite (fun _ => Triple.pure (fun _ h => h)) (fun _ => Triple.throw (fun _ _ => trivial))

theorem entered_log {packetIdentifier : Nat} {e : Event} (he : e.ack = some packetIdentifier) :
    Triple (Acking length) (log e) (fun _ => Entered length packetIdentifier) (fun _ => True) := by
  refine Triple.modify (fun w h => ⟨length_log_le h.length_le e, ?_⟩)
  rw [lastAck_log h.length_le, he]
  rfl

/-- The number is written. -/
theorem acking_written (packetIdentifier : Nat) :
    Triple (Entered length packetIdentifier)
      (setMqtt (fun m => { m with globalAckPacketIdentifier := packetIdentifier }))
      (fun _ => Acking length) (fun _ => True) :=
  Triple.modify (fun _ h => ⟨h.1, h.2.symm⟩)

/-- A change of the table leaves the number alone. -/
theorem acking_cleanup (packetId : Nat) :
    Triple (Acking length) (cleanupOutgoingPublishWithPacketID packetId)
      (fun _ => Acking length) (fun _ => True) := by
  refine Triple.bind (triple_assert _) (fun _ => Triple.get_bind (fun w h => ?_))
  have hcleanup : ∀ index, Triple (Acking length) (cleanupOutgoingPublishAt index)
      (fun _ => Acking length) (fun _ => True) := fun index =>
    Triple.bind (triple_assert _) (fun _ => Triple.modify (fun _ h => ⟨h.length_le, h.ack⟩))
  cases (List.range MAX_OUTGOING_PUBLISHES).find?
      (fun index => (w.mqtt.outgoingPublishPackets index).packetId == packetId) with
  | none => exact h
  | some index => exact hcleanup index w h

/-- After each packet the number is that of the last acknowledgement. -/
theorem acking_mqttCallback (packet : Packet) :
    Triple (Acking length) (mqttCallback E packet) (fun _ => Acking length) (fun _ => True) := by
  cases packet with
  | publish info =>
      refine Triple.get_bind (fun w h => ?_)
      refine Triple.ite (P := Acking length) (Q := fun _ => Acking length) (E := fun _ => True)
        (fun _ => Triple.modify (fun w h => ?_)) (fun _ => Triple.pure (fun _ h => h)) w h
      have hlog := h.log (e := .delivered info) rfl
      exact ⟨hlog.length_le, hlog.ack⟩
  | suback packetIdentifier =>
      refine Triple.bind (entered_log length rfl) (fun _ => Triple.bind
        (fun w h => h) (fun _ => Triple.bind (triple_assert _) (fun _ => acking_written length _)))
  | unsuback packetIdentifier =>
      refine Triple.bind (entered_log length rfl) (fun _ => Triple.bind
        (fun w h => h) (fun _ => Triple.bind (triple_assert _) (fun _ => acking_written length _)))
  | pingresp => exact Triple.modify (fun _ h => h.log rfl)
  | puback packetIdentifier =>
      exact Triple.bind (entered_log length rfl) (fun _ => Triple.bind
        (acking_written length _) (fun _ => acking_cleanup length _))
  | other type => exact Triple.modify (fun _ h => h.log rfl)

theorem acking_processLoops (done : Mqtt → Bool) (timeoutTime : Nat) (rounds : List Round)
    (currentTime : Nat) (status : MQTTStatus) :
    Triple (Acking length) (processLoops E done timeoutTime rounds currentTime status)
      (fun _ => Acking length) (fun _ => True) := by
  induction rounds generalizing currentTime status with
  | nil =>
      exact Triple.bind (fun _ h => h) (fun _ =>
        Triple.ite (fun _ => Triple.throw (fun _ _ => trivial))
          (fun _ => Triple.pure (fun _ h => h)))
  | cons round rounds ih =>
      exact Triple.bind (fun _ h => h) (fun _ => Triple.ite
        (fun _ => Triple.bind (Triple.forM (acking_mqttCallback E length) _) (fun _ => ih _ _))
        (fun _ => Triple.pure (fun _ h => h)))

/-- A wait that returns true ended on an acknowledgement with the number it is
    for. -/
theorem waitForPacketAck_true (usPacketIdentifier ulTimeout : Nat) :
    Triple (Entered length 0) (waitForPacketAck E usPacketIdentifier ulTimeout)
      (fun status w => status = true → lastAck (w.trace.drop length) = usPacketIdentifier)
      (fun _ => True) := by
  refine Triple.bind (Q := fun _ => Acking length) (acking_written length 0) (fun _ => ?_)
  refine Triple.bind (Q := fun _ => Acking length) (fun _ h => ⟨h.length_le, h.ack⟩) (fun _ => ?_)
  refine Triple.bind (Q := fun _ => Acking length) (fun _ h => ⟨h.length_le, h.ack⟩) (fun _ => ?_)
  refine Triple.bind (acking_processLoops E length _ _ _ _ _) (fun status w h htrue => ?_)
  -- the last comparison is with the number itself
  simp only [Bool.and_eq_true, beq_iff_eq] at htrue
  rw [← h.ack]
  exact htrue.2

/-- A request is sent and entered into the log, and the wait for its
    acknowledgement begins. -/
theorem wait_of_request {w w1 w' : World} {e : Event} {packetId : Nat}
    (htrace : w1.trace = w.trace ++ [e]) (he : e.ack = none)
    (h : waitForPacketAck E packetId MQTT_PROCESS_LOOP_TIMEOUT_MS w1 = .ok true w') :
    lastAck (w'.trace.drop w.trace.length) = packetId := by
  refine (waitForPacketAck_true E w.trace.length packetId _).ok ⟨?_, ?_⟩ h rfl
  · rw [htrace, List.length_append]
    omega
  · rw [htrace, List.drop_left]
    unfold lastAck
    rw [List.foldl_cons, he]
    rfl

/-- A call that returns true ended on an acknowledgement with its own
    identifier. -/
theorem lastAck_of_true {call : ApiCall} {w w' : World} (hwaits : call.waits = true)
    (h : call.program E w = .ok true w') :
    lastAck (w'.trace.drop w.trace.length) = E.MQTT_GetPacketId w.now := by
  cases call with
  | SubscribeToTopic topicFilter =>
      -- the identifier, the log of it, the request, the log of it, and then the wait
      rcases bind_ok.mp h with ⟨packetId, w1, h1, h⟩
      cases h1
      rcases bind_ok.mp h with ⟨_, w2, h2, h⟩
      cases h2
      rcases bind_ok.mp h with ⟨mqttStatus, w3, h3, h⟩
      cases h3
      rcases bind_ok.mp h with ⟨_, w4, h4, h⟩
      cases h4
      by_cases hstatus : E.MQTT_Subscribe (w.now + 1) = .MQTTSuccess
      · rw [if_neg (not_not.mpr hstatus)] at h
        exact wait_of_request E rfl rfl h
      · rw [if_pos hstatus] at h
        cases h
  | UnsubscribeFromTopic topicFilter =>
      rcases bind_ok.mp h with ⟨packetId, w1, h1, h⟩
      cases h1
      rcases bind_ok.mp h with ⟨_, w2, h2, h⟩
      cases h2
      rcases bind_ok.mp h with ⟨mqttStatus, w3, h3, h⟩
      cases h3
      rcases bind_ok.mp h with ⟨_, w4, h4, h⟩
      cases h4
      by_cases hstatus : E.MQTT_Unsubscribe (w.now + 1) = .MQTTSuccess
      · rw [if_neg (not_not.mpr hstatus)] at h
        exact wait_of_request E rfl rfl h
      · rw [if_pos hstatus] at h
        cases h
  | _ => cases hwaits

/-- With the condition a call returns true only if it was acknowledged. -/
theorem trueIfAcknowledged_of_endsOnOwn (hids : ∀ now, E.MQTT_GetPacketId now ≠ 0)
    {deserializationResult : Nat → MQTTStatus} {w : World} {call : ApiCall}
    (h : EndsOnOwn E deserializationResult w call) :
    TrueIfAcknowledged E deserializationResult w call := by
  intro w' htrue hwaits
  have hstep : apiStep E w call = some w' := by
    unfold apiStep
    rw [htrue]
  have hlast := lastAck_of_true E hwaits htrue
  rcases exists_lastAck (w'.trace.drop w.trace.length) (by rw [hlast]; exact hids w.now) with
    ⟨i, e, he, hack, hafter⟩
  rw [hlast] at hack
  rw [List.getElem?_drop] at he
  refine ⟨w.trace.length + i, e, Nat.le_add_right _ _, he,
    h w' hstep (w.trace.length + i) e (Nat.le_add_right _ _) he hack (fun j e' hj he' => ?_)⟩
  -- what comes after it in the log was delivered to the call as well
  refine hafter (j - w.trace.length) e' (by omega) ?_
  rw [List.getElem?_drop, Nat.add_sub_cancel' (by omega)]
  exact he'

/-- In every run in which a wait ends on its own number only if that was in the
    answer it waits for, the calls return true only if they were acknowledged. -/
theorem acks_own (hids : ∀ now, E.MQTT_GetPacketId now ≠ 0)
    (deserializationResult : Nat → MQTTStatus) (w : World) (calls : List ApiCall) (w' : World)
    (hrun : (apiRuns E w).run calls = some w')
    (hguard : (apiRuns E w).Guarded (EndsOnOwn E deserializationResult) calls) :
    (apiRuns E w).Guarded (TrueIfAcknowledged E deserializationResult) calls :=
  ((apiRuns E w).guarded_of_guarded (Q := fun _ => True) trivial
    (fun _ _ _ _ _ h _ => ⟨trivial, trueIfAcknowledged_of_endsOnOwn E hids h⟩)
    calls w' hrun hguard).2

end Waits

/-- The first subscription is answered by a SUBACK. -/
def answeredSubscription : External := External.reliable [0] [(3, [.suback 1], 0)]

/-- A subscription. -/
def subscription : List ApiCall := [.SubscribeToTopic .FP_CBOR_REGISTER_ACCEPTED_TOPIC]

theorem acks_own_accepted :
    ∃ w', (apiRuns answeredSubscription World.initial).run subscription = some w' ∧
      (apiRuns answeredSubscription World.initial).Guarded
        (TrueIfAcknowledged answeredSubscription (fun _ => .MQTTSuccess)) subscription := by
  refine ⟨_, rfl, acks_own answeredSubscription (fun _ h => by cases h) (fun _ => .MQTTSuccess)
    World.initial subscription _ rfl ⟨?_, fun _ _ => trivial⟩⟩
  intro w' hstep i e _ he hack _
  obtain rfl := Option.some.inj hstep
  -- the log has the request and the SUBACK
  match i with
  | 0 =>
      obtain rfl := Option.some.inj he
      cases hack
  | 1 =>
      obtain rfl := Option.some.inj he
      exact ⟨rfl, rfl⟩
  | i + 2 => cases he

/-- A publish of an earlier session, which began to count at the same number, is
    acknowledged while the call waits. -/
def lateAcknowledgement : External := External.reliable [0] [(3, [.puback 1], 0)]

/-- A request to unsubscribe. -/
def unsubscription : List ApiCall := [.UnsubscribeFromTopic .FP_CBOR_REGISTER_ACCEPTED_TOPIC]

/-- A subscription the server refuses returns true, and so does a request to
    unsubscribe for which only the acknowledgement of a publish comes. -/
theorem acks_foreign :
    (∃ w', (apiRuns answeredSubscription World.initial).run subscription = some w' ∧
      ¬ (apiRuns answeredSubscription World.initial).Guarded
        (TrueIfAcknowledged answeredSubscription (fun _ => .other 1)) subscription) ∧
      ∃ w', (apiRuns lateAcknowledgement World.initial).run unsubscription = some w' ∧
        ¬ (apiRuns lateAcknowledgement World.initial).Guarded
          (TrueIfAcknowledged lateAcknowledgement (fun _ => .MQTTSuccess)) unsubscription := by
  constructor
  · refine ⟨_, rfl, fun hguard => ?_⟩
    rcases hguard.1 _ rfl rfl with ⟨i, e, -, -, -, haccepted⟩
    cases haccepted
  · refine ⟨_, rfl, fun hguard => ?_⟩
    rcases hguard.1 _ rfl rfl with ⟨i, e, -, he, hanswer⟩
    obtain rfl : e = .received (.unsuback 1) := hanswer
    -- there is no UNSUBACK in the whole log
    exact absurd (List.mem_of_getElem? he) (by decide)

end FleetProvisioning

end ProvisioningSdk
