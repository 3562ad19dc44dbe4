import ProvisioningSdk.Provisioning.Connections
import ProvisioningSdk.Provisioning.PacketAcks

/-!
# Invariants of the Calls

What it takes for an invariant on the variables of `mqtt_operations.c` to hold
through every call of its operations.

The operations have their loops and their waits in common, and differ in what
they do to the variables. An invariant that says something about these has to
be looked at in six places only: a packet in the callback, a request of each
kind, a publish, a resend, and the table set to zero. `StableApi` is the list
of them, with what else the calls do to the world; the loops, the waits and the
order of the steps add nothing.

Why a call stopped is part of it. A wait may be blocked, and a packet may fail
an assertion, and the two end in different places.

## Main definitions

* `World.subscribing`, `World.unsubscribing`: A request that was made.
* `StableApi`: What an invariant has to survive.

## Theorems

* `subscribeToTopic_eq`, `unsubscribeFromTopic_eq`: A request and its wait.
* `mqttCallback_suback`, `mqttCallback_unsuback`, `mqttCallback_puback`: What an
  acknowledgement does.
* `StableApi.program`: Every call keeps it.
* `StableApi.run`: So do whole runs.
-/

namespace ProvisioningSdk

namespace FleetProvisioning

open Effect Transition

section Requests

variable (E : External)

/-- The request of `SubscribeToTopic` is made. -/
def World.subscribing (topicFilter : ApiTopic) (w : World) : World :=
  { w with
    mqtt := { w.mqtt with globalSubscribePacketIdentifier := E.MQTT_GetPacketId w.now }
    now := w.now + 2 }.log (.mqttSubscribe topicFilter (E.MQTT_GetPacketId w.now))

/-- The request of `UnsubscribeFromTopic` is made. -/
def World.unsubscribing (topicFilter : ApiTopic) (w : World) : World :=
  { w with
    mqtt := { w.mqtt with globalUnsubscribePacketIdentifier := E.MQTT_GetPacketId w.now }
    now := w.now + 2 }.log (.mqttUnsubscribe topicFilter (E.MQTT_GetPacketId w.now))

theorem subscribeToTopic_eq (topicFilter : ApiTopic) (w : World) :
    SubscribeToTopic E topicFilter w =
      (if E.MQTT_Subscribe (w.now + 1) ≠ .MQTTSuccess then pure false
        else waitForPacketAck E (E.MQTT_GetPacketId w.now) MQTT_PROCESS_LOOP_TIMEOUT_MS)
        (w.subscribing E topicFilter) := rfl

theorem unsubscribeFromTopic_eq (topicFilter : ApiTopic) (w : World) :
    UnsubscribeFromTopic E topicFilter w =
      (if E.MQTT_Unsubscribe (w.now + 1) ≠ .MQTTSuccess then pure false
        else waitForPacketAck E (E.MQTT_GetPacketId w.now) MQTT_PROCESS_LOOP_TIMEOUT_MS)
        (w.unsubscribing E topicFilter) := rfl

end Requests

section Packets

variable (E : External)

/-- An identifier that is taken over if the assertion on it holds. -/
theorem assert_ack (expression : Bool) (packetIdentifier : Nat) (w : World) :
    (assert expression >>= fun _ =>
        setMqtt (fun m => { m with globalAckPacketIdentifier := packetIdentifier })) w =
      if expression = true then
        .ok () { w with mqtt := { w.mqtt with globalAckPacketIdentifier := packetIdentifier } }
      else .error (.fault .assertionFailed) w := by
  cases expression with
  | true => rfl
  | false => rfl

theorem mqttCallback_suback (packetIdentifier : Nat) (w : World) :
    mqttCallback E (.suback packetIdentifier) w =
      if w.mqtt.globalSubscribePacketIdentifier = packetIdentifier then
        .ok () { w.log (.received (.suback packetIdentifier)) with
          mqtt := { w.mqtt with globalAckPacketIdentifier := packetIdentifier } }
      else .error (.fault .assertionFailed) (w.log (.received (.suback packetIdentifier))) := by
  have hassert := assert_ack (w.mqtt.globalSubscribePacketIdentifier == packetIdentifier)
    packetIdentifier (w.log (.received (.suback packetIdentifier)))
  simp only [beq_iff_eq] at hassert
  exact hassert

theorem mqttCallback_unsuback (packetIdentifier : Nat) (w : World) :
    mqttCallback E (.unsuback packetIdentifier) w =
      if w.mqtt.globalUnsubscribePacketIdentifier = packetIdentifier then
        .ok () { w.log (.received (.unsuback packetIdentifier)) with
          mqtt := { w.mqtt with globalAckPacketIdentifier := packetIdentifier } }
      else .error (.fault .assertionFailed) (w.log (.received (.unsuback packetIdentifier))) := by
  have hassert := assert_ack (w.mqtt.globalUnsubscribePacketIdentifier == packetIdentifier)
    packetIdentifier (w.log (.received (.unsuback packetIdentifier)))
  simp only [beq_iff_eq] at hassert
  exact hassert

/-- The acknowledgement of a publish frees its slot, and only an invalid
    identifier is asserted against. -/
theorem mqttCallback_puback (packetIdentifier : Nat) (w : World) :
    mqttCallback E (.puback packetIdentifier) w =
      if packetIdentifier = MQTT_PACKET_ID_INVALID then
        .error (.fault .assertionFailed) { w.log (.received (.puback packetIdentifier)) with
          mqtt := { w.mqtt with globalAckPacketIdentifier := packetIdentifier } }
      else .ok () { w.log (.received (.puback packetIdentifier)) with
        mqtt := { w.mqtt with
          globalAckPacketIdentifier := packetIdentifier
          outgoingPublishPackets := release w.mqtt.outgoingPublishPackets packetIdentifier } } := by
  have hcleanup : mqttCallback E (.puback packetIdentifier) w =
      cleanupOutgoingPublishWithPacketID packetIdentifier
        { w.log (.received (.puback packetIdentifier)) with
          mqtt := { w.mqtt with globalAckPacketIdentifier := packetIdentifier } } := rfl
  rw [hcleanup]
  unfold cleanupOutgoingPublishWithPacketID
  by_cases hid : packetIdentifier = MQTT_PACKET_ID_INVALID
  · rw [if_pos hid, hid]
    rfl
  · have hassert : (packetIdentifier != MQTT_PACKET_ID_INVALID) = true := by simpa using hid
    rw [if_neg hid, hassert]
    refine bind_ok.mpr ⟨(), _, rfl, ?_⟩
    rw [get_bind]
    unfold release
    simp only
    -- the first slot with the identifier is cleaned, if there is one
    cases hfind : (List.range MAX_OUTGOING_PUBLISHES).find?
        (fun index => (w.mqtt.outgoingPublishPackets index).packetId == packetIdentifier) with
    | none => rfl
    | some index =>
        have hindex := List.mem_range.mp (List.mem_of_find?_eq_some hfind)
        simp only
        unfold cleanupOutgoingPublishAt
        rw [decide_eq_true hindex]
        rfl

end Packets

/-- What an invariant of the calls has to survive, and what has to hold where a
    call stops. -/
structure StableApi (E : External) (I : World → Prop) (F : Halt → World → Prop) : Prop where
  now : ∀ w n, I w → I { w with now := n }
  /-- The variables of a wait and of the session. -/
  session : ∀ w ack established callback, I w → I { w with
    mqtt := { w.mqtt with
      globalAckPacketIdentifier := ack
      mqttSessionEstablished := established
      appPublishCallback := callback } }
  connection : ∀ w e, e.isConnection = true → I w → I (w.log e)
  blocked : ∀ w, I w → F .blocked w
  subscribe : ∀ topicFilter w, I w → I (w.subscribing E topicFilter)
  unsubscribe : ∀ topicFilter w, I w → I (w.unsubscribing E topicFilter)
  callback : ∀ packet, KeepsOr I F (mqttCallback E packet)
  publish : ∀ topic pPayload payloadLength,
    KeepsOr I F (PublishToTopic E topic pPayload payloadLength)
  resend : KeepsOr I F (handlePublishResend E)
  forget : KeepsOr I F cleanupOutgoingPublishes

namespace StableApi

variable {E : External} {I : World → Prop} {F : Halt → World → Prop} (h : StableApi E I F)

include h

theorem ask {α : Type} (outcome : Nat → α) : KeepsOr I F (ask outcome) :=
  fun w hw => h.now w (w.now + 1) hw

theorem acks (packetIdentifier : Nat) : KeepsOr I F
    (setMqtt (fun m => { m with globalAckPacketIdentifier := packetIdentifier })) :=
  KeepsOr.modify (fun w hw => h.session w _ w.mqtt.mqttSessionEstablished
    w.mqtt.appPublishCallback hw)

theorem processLoops (done : Mqtt → Bool) (timeoutTime : Nat) (rounds : List Round)
    (currentTime : Nat) (status : MQTTStatus) :
    KeepsOr I F (processLoops E done timeoutTime rounds currentTime status) := by
  induction rounds generalizing currentTime status with
  | nil =>
      exact KeepsOr.get_bind (fun w => KeepsOr.ite (fun _ => KeepsOr.throw h.blocked)
        (fun _ => KeepsOr.pure _))
  | cons round rounds ih =>
      exact KeepsOr.get_bind (fun w => KeepsOr.ite
        (fun _ => KeepsOr.bind (KeepsOr.forM h.callback _) (fun _ => ih _ _))
        (fun _ => KeepsOr.pure _))

theorem waitForPacketAck (usPacketIdentifier ulTimeout : Nat) :
    KeepsOr I F (waitForPacketAck E usPacketIdentifier ulTimeout) :=
  KeepsOr.bind (h.acks 0) (fun _ => KeepsOr.bind (h.ask _) (fun _ => KeepsOr.bind (h.ask _)
    (fun _ => KeepsOr.bind (h.processLoops _ _ _ _ _) (fun _ =>
      KeepsOr.get_bind (fun _ => KeepsOr.pure _)))))

theorem ProcessLoopWithTimeout : KeepsOr I F (ProcessLoopWithTimeout E) :=
  KeepsOr.bind (h.ask _) (fun _ => KeepsOr.bind (h.ask _) (fun _ =>
    KeepsOr.bind (h.processLoops _ _ _ _ _) (fun _ => KeepsOr.pure _)))

theorem SubscribeToTopic (topicFilter : ApiTopic) :
    KeepsOr I F (SubscribeToTopic E topicFilter) := by
  intro w hw
  rw [subscribeToTopic_eq]
  exact KeepsOr.ite (fun _ => KeepsOr.pure _) (fun _ => h.waitForPacketAck _ _) _
    (h.subscribe topicFilter w hw)

theorem UnsubscribeFromTopic (topicFilter : ApiTopic) :
    KeepsOr I F (UnsubscribeFromTopic E topicFilter) := by
  intro w hw
  rw [unsubscribeFromTopic_eq]
  exact KeepsOr.ite (fun _ => KeepsOr.pure _) (fun _ => h.waitForPacketAck _ _) _
    (h.unsubscribe topicFilter w hw)

theorem connectAttempts (clientCert privateKey : Label) (attempts : List ConnectAttempt) :
    KeepsOr I F (connectAttempts clientCert privateKey attempts) := by
  induction attempts with
  | nil => exact KeepsOr.throw h.blocked
  | cons attempt rest ih =>
      exact KeepsOr.bind (KeepsOr.modify (fun w hw => h.connection w _ rfl hw)) (fun _ =>
        KeepsOr.ite (fun _ => KeepsOr.pure _)
          (fun _ => KeepsOr.ite (fun _ => ih) (fun _ => KeepsOr.pure _)))

theorem connectMqtt : KeepsOr I F (connectMqtt E) :=
  KeepsOr.bind (h.ask _) (fun _ => KeepsOr.ite (fun _ => KeepsOr.pure _) (fun _ =>
    KeepsOr.bind (h.ask _) (fun _ => KeepsOr.ite (fun _ => KeepsOr.pure _) (fun _ =>
      KeepsOr.bind (h.ask _) (fun _ => KeepsOr.pure _)))))

theorem mqttSession : KeepsOr I F (mqttSession E) := by
  refine KeepsOr.bind (KeepsOr.modify (fun w hw => h.session w
    w.mqtt.globalAckPacketIdentifier w.mqtt.mqttSessionEstablished true hw)) (fun _ => ?_)
  refine KeepsOr.bind h.connectMqtt (fun result => KeepsOr.ite (fun _ => KeepsOr.pure _)
    (fun _ => KeepsOr.bind (KeepsOr.modify (fun w hw => h.session w
      w.mqtt.globalAckPacketIdentifier true w.mqtt.appPublishCallback hw)) (fun _ => ?_)))
  exact KeepsOr.ite (fun _ => h.resend)
    (fun _ => KeepsOr.bind h.forget (fun _ => KeepsOr.pure _))

theorem EstablishMqttSession (clientCert privateKey : Label) :
    KeepsOr I F (EstablishMqttSession E clientCert privateKey) := by
  rw [establishMqttSession_eq]
  refine KeepsOr.bind (KeepsOr.bind (h.ask _) (fun _ => h.connectAttempts _ _ _))
    (fun connected => ?_)
  exact KeepsOr.ite (fun _ => KeepsOr.pure _) (fun _ => h.mqttSession)

theorem DisconnectMqttSession : KeepsOr I F (DisconnectMqttSession E) := by
  refine KeepsOr.bind (KeepsOr.get_bind (fun w => ?_)) (fun _ =>
    KeepsOr.bind (KeepsOr.modify (fun w hw => h.connection w _ rfl hw)) (fun _ =>
      KeepsOr.pure _))
  exact KeepsOr.ite (fun _ => KeepsOr.bind (h.ask _) (fun _ => KeepsOr.pure _))
    (fun _ => KeepsOr.pure _)

/-- Every call keeps the invariant. -/
theorem program (call : ApiCall) : KeepsOr I F (call.program E) := by
  cases call with
  | EstablishMqttSession clientCert privateKey => exact h.EstablishMqttSession _ _
  | DisconnectMqttSession => exact h.DisconnectMqttSession
  | SubscribeToTopic topicFilter => exact h.SubscribeToTopic _
  | UnsubscribeFromTopic topicFilter => exact h.UnsubscribeFromTopic _
  | PublishToTopic topic pPayload payloadLength => exact h.publish _ _ _
  | ProcessLoopWithTimeout => exact h.ProcessLoopWithTimeout

/-- It holds after every run. -/
theorem run {w w' : World} (hw : I w) {calls : List ApiCall}
    (hrun : (apiRuns E w).run calls = some w') : I w' := by
  refine (apiRuns E w).run_induction (P := fun _ w => I w) hw ?_ calls w' hrun
  intro calls s call s' _ hs hstep
  have hcall : ∃ status, call.program E s = .ok status s' := by
    simp only [apiRuns, apiStep] at hstep
    split at hstep
    · rename_i status w1 hprogram
      cases hstep
      exact ⟨status, hprogram⟩
    · cases hstep
  rcases hcall with ⟨status, hprogram⟩
  exact (h.program call).ok hs hprogram

end StableApi

end FleetProvisioning

end ProvisioningSdk
