import ProvisioningSdk.Provisioning.Responses
import Mathlib.Logic.Function.Basic

/-!
# The MQTT Operations

`mqtt_operations.c`: connecting, subscribing, publishing, and the loops that
wait for packets.

Packets are only handled inside `MQTT_ProcessLoop`, which calls `mqttCallback`
for each of them. Every function that waits for something therefore handles
whatever arrives meanwhile, and a publish that arrives is given to the workflow
even if the caller waits for an acknowledgement only. This is what the rules of
`Stable` say: an invariant that survives the delivery of any publish, and does
not look at the variables of this file, survives every function of it. One that
looks at the connection itself survives all but those that make one or end it
(`StableTraffic`).

## Main definitions

* `mqttCallback`: What happens to a packet.
* `processLoops`: The loop over `MQTT_ProcessLoop`.
* `EstablishMqttSession`, `DisconnectMqttSession`, `SubscribeToTopic`,
  `UnsubscribeFromTopic`, `PublishToTopic`, `ProcessLoopWithTimeout`.
* `StableTraffic`, `Stable`: What an invariant has to survive.

## Theorems

* `StableTraffic.SubscribeToTopic` and so on: The functions that use a connection
  keep what its traffic does not break.
* `Stable.EstablishMqttSession`, `Stable.DisconnectMqttSession`: Those that make
  or end one keep what is stable.
* `disconnectMqttSession_ok`: Disconnecting always returns.
-/

namespace ProvisioningSdk

namespace FleetProvisioning

open Effect

/-- `MAX_OUTGOING_PUBLISHES`. -/
def MAX_OUTGOING_PUBLISHES : Nat := 5

/-- `MQTT_PACKET_ID_INVALID`. -/
def MQTT_PACKET_ID_INVALID : Nat := 0

/-- `MQTT_PROCESS_LOOP_TIMEOUT_MS`. -/
def MQTT_PROCESS_LOOP_TIMEOUT_MS : Nat := 1000

/-- The status a loop over `MQTT_ProcessLoop` goes on with. -/
def MQTTStatus.goesOn (status : MQTTStatus) : Bool :=
  status == .MQTTSuccess || status == .MQTTNeedMoreBytes

/-! ### The outgoing publishes -/

/-- `getNextFreeIndexForOutgoingPublishes`. -/
def getNextFreeIndexForOutgoingPublishes (packets : Nat → PublishPackets) : Option Nat :=
  (List.range MAX_OUTGOING_PUBLISHES).find?
    (fun index => (packets index).packetId == MQTT_PACKET_ID_INVALID)

/-- A change to one of the outgoing publishes. -/
def setOutgoing (index : Nat) (f : PublishPackets → PublishPackets) : Program Unit :=
  setMqtt (fun m => { m with
    outgoingPublishPackets :=
      Function.update m.outgoingPublishPackets index (f (m.outgoingPublishPackets index)) })

/-- `cleanupOutgoingPublishAt`. -/
def cleanupOutgoingPublishAt (index : Nat) : Program Unit := do
  assert (decide (index < MAX_OUTGOING_PUBLISHES))
  setOutgoing index (fun _ => .zero)

/-- `cleanupOutgoingPublishes`. -/
def cleanupOutgoingPublishes : Program Unit :=
  setMqtt (fun m => { m with outgoingPublishPackets := fun _ => .zero })

/-- `cleanupOutgoingPublishWithPacketID`. -/
def cleanupOutgoingPublishWithPacketID (packetId : Nat) : Program Unit := do
  assert (packetId != MQTT_PACKET_ID_INVALID)
  let w ← get
  match (List.range MAX_OUTGOING_PUBLISHES).find?
      (fun index => (w.mqtt.outgoingPublishPackets index).packetId == packetId) with
  | some index => cleanupOutgoingPublishAt index
  | none => pure ()

section Operations

variable (E : External)

/-! ### Packets -/

/-- `mqttCallback`. -/
def mqttCallback : Packet → Program Unit
  | .publish info => do
      let w ← get
      if w.mqtt.appPublishCallback then modify (World.deliver E info)
  | .suback packetIdentifier => do
      log (.received (.suback packetIdentifier))
      let w ← get
      assert (w.mqtt.globalSubscribePacketIdentifier == packetIdentifier)
      setMqtt (fun m => { m with globalAckPacketIdentifier := packetIdentifier })
  | .unsuback packetIdentifier => do
      log (.received (.unsuback packetIdentifier))
      let w ← get
      assert (w.mqtt.globalUnsubscribePacketIdentifier == packetIdentifier)
      setMqtt (fun m => { m with globalAckPacketIdentifier := packetIdentifier })
  -- coreMQTT handles a ping response itself, and the source only warns
  | .pingresp => log (.received .pingresp)
  | .puback packetIdentifier => do
      log (.received (.puback packetIdentifier))
      setMqtt (fun m => { m with globalAckPacketIdentifier := packetIdentifier })
      -- an acknowledged publish is not kept for a resend
      cleanupOutgoingPublishWithPacketID packetIdentifier
  | .other type => log (.received (.other type))

/-- The loop over `MQTT_ProcessLoop`: until something is done, the time is up,
    or a call fails. The result is the last status. -/
def processLoops (done : Mqtt → Bool) (timeoutTime : Nat) :
    List Round → Nat → MQTTStatus → Program MQTTStatus
  | [], currentTime, status => do
      let w ← get
      if done w.mqtt = false ∧ currentTime < timeoutTime ∧ status.goesOn = true then
        -- the call that would come next does not return
        throw .blocked
      else return status
  | round :: rounds, currentTime, status => do
      let w ← get
      if done w.mqtt = false ∧ currentTime < timeoutTime ∧ status.goesOn = true then do
        round.packets.forM (mqttCallback E)
        processLoops done timeoutTime rounds round.time round.status
      else return status

/-- `waitForPacketAck`. -/
def waitForPacketAck (usPacketIdentifier ulTimeout : Nat) : Program Bool := do
  -- an acknowledgement from before the wait does not count
  setMqtt (fun m => { m with globalAckPacketIdentifier := 0 })
  let entryTime ← ask E.getTime
  let rounds ← ask E.MQTT_ProcessLoop
  let status ← processLoops E (fun m => m.globalAckPacketIdentifier == usPacketIdentifier)
    (u32 (entryTime + ulTimeout)) rounds entryTime .MQTTSuccess
  let w ← get
  -- a loop that ran out of time was successful only if the packet came
  return status.goesOn && w.mqtt.globalAckPacketIdentifier == usPacketIdentifier

/-- `ProcessLoopWithTimeout`. -/
def ProcessLoopWithTimeout : Program Bool := do
  let entryTime ← ask E.getTime
  let rounds ← ask E.MQTT_ProcessLoop
  let status ← processLoops E (fun _ => false) (u32 (entryTime + MQTT_PROCESS_LOOP_TIMEOUT_MS))
    rounds entryTime .MQTTSuccess
  return status.goesOn

/-! ### Requests -/

/-- `MQTT_Publish`, of the payload as it is at the moment. -/
def mqttPublish (packet : PublishPackets) : Program MQTTStatus := do
  let w ← get
  let status ← ask E.MQTT_Publish
  log (.mqttPublish packet (w.responses.read packet.pubInfo.pPayload packet.pubInfo.payloadLength)
    status)
  return status

/-- `SubscribeToTopic`. -/
def SubscribeToTopic (pTopicFilter : ApiTopic) : Program Bool := do
  let packetId ← ask E.MQTT_GetPacketId
  setMqtt (fun m => { m with globalSubscribePacketIdentifier := packetId })
  let mqttStatus ← ask E.MQTT_Subscribe
  log (.mqttSubscribe pTopicFilter packetId)
  if mqttStatus ≠ .MQTTSuccess then return false
  else waitForPacketAck E packetId MQTT_PROCESS_LOOP_TIMEOUT_MS

/-- `UnsubscribeFromTopic`. -/
def UnsubscribeFromTopic (pTopicFilter : ApiTopic) : Program Bool := do
  let packetId ← ask E.MQTT_GetPacketId
  setMqtt (fun m => { m with globalUnsubscribePacketIdentifier := packetId })
  let mqttStatus ← ask E.MQTT_Unsubscribe
  log (.mqttUnsubscribe pTopicFilter packetId)
  if mqttStatus ≠ .MQTTSuccess then return false
  else waitForPacketAck E packetId MQTT_PROCESS_LOOP_TIMEOUT_MS

/-- `PublishToTopic`. The record keeps the pointer to the payload, and its
    `dup` is left as it was. -/
def PublishToTopic (pTopicFilter : ApiTopic) (pPayload : Pointer) (payloadLength : Nat) :
    Program Bool := do
  modify (fun w => w.log (.publishToTopic pTopicFilter (w.responses.read pPayload payloadLength)))
  let w ← get
  match getNextFreeIndexForOutgoingPublishes w.mqtt.outgoingPublishPackets with
  -- too many publishes wait for their acknowledgement
  | none => return false
  | some publishIndex => do
      setOutgoing publishIndex (fun p => { p with
        pubInfo := { p.pubInfo with
          qos := 1
          topicName := some pTopicFilter
          pPayload := pPayload
          payloadLength := payloadLength } })
      let packetId ← ask E.MQTT_GetPacketId
      setOutgoing publishIndex (fun p => { p with packetId := packetId })
      let w ← get
      let mqttStatus ← mqttPublish E (w.mqtt.outgoingPublishPackets publishIndex)
      if mqttStatus ≠ .MQTTSuccess then do
        -- what was not sent is not resent either
        cleanupOutgoingPublishAt publishIndex
        return false
      else return true

/-! ### Sessions -/

/-- The attempts of `connectToBrokerWithBackoffRetries`. -/
def connectAttempts (pClientCertLabel pPrivateKeyLabel : Label) :
    List ConnectAttempt → Program Bool
  | [] => throw .blocked
  | attempt :: rest => do
      log (.tlsConnect pClientCertLabel pPrivateKeyLabel attempt.connected)
      if attempt.connected then return true
      else if attempt.retry then connectAttempts pClientCertLabel pPrivateKeyLabel rest
      else return false

/-- `connectToBrokerWithBackoffRetries`. -/
def connectToBrokerWithBackoffRetries (pClientCertLabel pPrivateKeyLabel : Label) :
    Program Bool := do
  let attempts ← ask E.connectAttempts
  connectAttempts pClientCertLabel pPrivateKeyLabel attempts

/-- The part of `handlePublishResend` for these indices. -/
def resendFrom : List Nat → Program Bool
  | [] => return true
  | index :: rest => do
      let w ← get
      if (w.mqtt.outgoingPublishPackets index).packetId ≠ MQTT_PACKET_ID_INVALID then do
        setOutgoing index (fun p => { p with pubInfo := { p.pubInfo with dup := true } })
        let w ← get
        let mqttStatus ← mqttPublish E (w.mqtt.outgoingPublishPackets index)
        if mqttStatus ≠ .MQTTSuccess then return false
        else resendFrom rest
      else resendFrom rest

/-- `handlePublishResend`. -/
def handlePublishResend : Program Bool := resendFrom E (List.range MAX_OUTGOING_PUBLISHES)

/-- The MQTT part of `EstablishMqttSession`: whether the broker accepted, and
    whether a session is present. -/
def connectMqtt : Program (Bool × Bool) := do
  let mqttStatus ← ask E.MQTT_Init
  if mqttStatus ≠ .MQTTSuccess then return (false, false)
  else do
    let mqttStatus ← ask E.MQTT_InitStatefulQoS
    if mqttStatus ≠ .MQTTSuccess then return (false, false)
    else do
      let (mqttStatus, sessionPresent) ← ask E.MQTT_Connect
      return (mqttStatus == .MQTTSuccess, sessionPresent)

/-- `EstablishMqttSession`, with the callback of the workflow. -/
def EstablishMqttSession (pClientCertLabel pPrivateKeyLabel : Label) : Program Bool := do
  let connected ← connectToBrokerWithBackoffRetries E pClientCertLabel pPrivateKeyLabel
  if connected = false then return false
  else do
    -- from here on the callback gets every publish, whatever becomes of the session
    setMqtt (fun m => { m with appPublishCallback := true })
    let (returnStatus, sessionPresent) ← connectMqtt E
    if returnStatus = false then return false
    else do
      setMqtt (fun m => { m with mqttSessionEstablished := true })
      -- only a session that is continued can still have acknowledgements to come
      if sessionPresent then handlePublishResend E
      else do
        cleanupOutgoingPublishes
        return true

/-- What `EstablishMqttSession` does once there is a connection. -/
def mqttSession : Program Bool := do
  setMqtt (fun m => { m with appPublishCallback := true })
  let (returnStatus, sessionPresent) ← connectMqtt E
  if returnStatus = false then return false
  else do
    setMqtt (fun m => { m with mqttSessionEstablished := true })
    if sessionPresent then handlePublishResend E
    else do
      cleanupOutgoingPublishes
      return true

theorem establishMqttSession_eq (pClientCertLabel pPrivateKeyLabel : Label) :
    EstablishMqttSession E pClientCertLabel pPrivateKeyLabel =
      connectToBrokerWithBackoffRetries E pClientCertLabel pPrivateKeyLabel >>= fun connected =>
        if connected = false then pure false else mqttSession E := rfl

/-- The MQTT part of `DisconnectMqttSession`. -/
def disconnectMqtt : Program Bool := do
  let w ← get
  if w.mqtt.mqttSessionEstablished then do
    let mqttStatus ← ask E.MQTT_Disconnect
    return mqttStatus == .MQTTSuccess
  else return false

/-- `DisconnectMqttSession`. -/
def DisconnectMqttSession : Program Bool := do
  let returnStatus ← disconnectMqtt E
  log .tlsDisconnect
  return returnStatus

end Operations

/-! ### What they all keep -/

/-- The entries of the log that are made over a connection, apart from the
    publishes given to the workflow or by it. -/
def Event.isTraffic : Event → Bool
  | .mqttPublish _ _ _ | .mqttSubscribe _ _ | .mqttUnsubscribe _ _ | .received _ => true
  | _ => false

/-- The entries of the log that are about MQTT, apart from the publishes given
    to the workflow or by it. -/
def Event.isTransport : Event → Bool
  | .tlsConnect _ _ _ | .tlsDisconnect | .mqttPublish _ _ _ | .mqttSubscribe _ _
  | .mqttUnsubscribe _ _ | .received _ => true
  | _ => false

theorem isTransport_of_isTraffic {e : Event} (h : e.isTraffic = true) : e.isTransport = true := by
  cases e with
  | mqttPublish packet payload status => rfl
  | mqttSubscribe filter packetId => rfl
  | mqttUnsubscribe filter packetId => rfl
  | received packet => rfl
  | _ => cases h

/-- An invariant that does not look at the variables of `mqtt_operations.c`, and
    survives what happens over a connection. -/
structure StableTraffic (E : External) (I : World → Prop) : Prop where
  now : ∀ w n, I w → I { w with now := n }
  mqtt : ∀ w m, I w → I { w with mqtt := m }
  traffic : ∀ w e, e.isTraffic = true → I w → I (w.log e)
  deliver : ∀ w info, I w → I (w.deliver E info)

namespace StableTraffic

variable {E : External} {I : World → Prop} (h : StableTraffic E I)

include h

theorem ask {α : Type} (outcome : Nat → α) : Keeps I (ask outcome) :=
  fun w hw => h.now w (w.now + 1) hw

theorem setMqtt (f : Mqtt → Mqtt) : Keeps I (setMqtt f) :=
  Keeps.modify (fun w hw => h.mqtt w (f w.mqtt) hw)

theorem log (e : Event) (he : e.isTraffic = true) : Keeps I (log e) :=
  Keeps.modify (fun w hw => h.traffic w e he hw)

omit h in
theorem assert (c : Bool) : Keeps I (assert c) :=
  Keeps.ite (fun _ => Keeps.pure _) (fun _ => Keeps.throw _)

theorem setOutgoing (index : Nat) (f : PublishPackets → PublishPackets) :
    Keeps I (setOutgoing index f) := h.setMqtt _

theorem cleanupOutgoingPublishAt (index : Nat) : Keeps I (cleanupOutgoingPublishAt index) :=
  Keeps.bind (assert _) (fun _ => h.setOutgoing _ _)

theorem cleanupOutgoingPublishWithPacketID (packetId : Nat) :
    Keeps I (cleanupOutgoingPublishWithPacketID packetId) := by
  refine Keeps.bind (assert _) (fun _ => Keeps.bind Keeps.get (fun w => ?_))
  cases (List.range MAX_OUTGOING_PUBLISHES).find?
      (fun index => (w.mqtt.outgoingPublishPackets index).packetId == packetId) with
  -- no publish with this identifier is kept, and nothing is cleaned up
  | none => exact Keeps.pure _
  | some index => exact h.cleanupOutgoingPublishAt index

theorem mqttCallback (packet : Packet) : Keeps I (mqttCallback E packet) := by
  cases packet with
  | publish info =>
      exact Keeps.bind Keeps.get (fun w =>
        Keeps.ite (fun _ => Keeps.modify (fun w hw => h.deliver w info hw)) (fun _ => Keeps.pure _))
  | suback packetIdentifier =>
      exact Keeps.bind (h.log _ rfl) (fun _ => Keeps.bind Keeps.get (fun w =>
        Keeps.bind (assert _) (fun _ => h.setMqtt _)))
  | unsuback packetIdentifier =>
      exact Keeps.bind (h.log _ rfl) (fun _ => Keeps.bind Keeps.get (fun w =>
        Keeps.bind (assert _) (fun _ => h.setMqtt _)))
  | pingresp => exact h.log _ rfl
  | puback packetIdentifier =>
      exact Keeps.bind (h.log _ rfl) (fun _ => Keeps.bind (h.setMqtt _) (fun _ =>
        h.cleanupOutgoingPublishWithPacketID _))
  | other type => exact h.log _ rfl

theorem processLoops (done : Mqtt → Bool) (timeoutTime : Nat) (rounds : List Round)
    (currentTime : Nat) (status : MQTTStatus) :
    Keeps I (processLoops E done timeoutTime rounds currentTime status) := by
  induction rounds generalizing currentTime status with
  | nil =>
      exact Keeps.bind Keeps.get (fun w =>
        Keeps.ite (fun _ => Keeps.throw _) (fun _ => Keeps.pure _))
  | cons round rounds ih =>
      -- what the packets of a round keep, the rounds after it keep as well
      exact Keeps.bind Keeps.get (fun w => Keeps.ite
        (fun _ => Keeps.bind (Keeps.forM h.mqttCallback _) (fun _ => ih _ _))
        (fun _ => Keeps.pure _))

theorem waitForPacketAck (usPacketIdentifier ulTimeout : Nat) :
    Keeps I (waitForPacketAck E usPacketIdentifier ulTimeout) :=
  Keeps.bind (h.setMqtt _) (fun _ => Keeps.bind (h.ask _) (fun _ => Keeps.bind (h.ask _) (fun _ =>
    Keeps.bind (h.processLoops _ _ _ _ _) (fun _ => Keeps.bind Keeps.get (fun _ => Keeps.pure _)))))

theorem ProcessLoopWithTimeout : Keeps I (ProcessLoopWithTimeout E) :=
  Keeps.bind (h.ask _) (fun _ => Keeps.bind (h.ask _) (fun _ =>
    Keeps.bind (h.processLoops _ _ _ _ _) (fun _ => Keeps.pure _)))

theorem mqttPublish (packet : PublishPackets) : Keeps I (mqttPublish E packet) :=
  Keeps.bind Keeps.get (fun _ => Keeps.bind (h.ask _) (fun _ =>
    Keeps.bind (h.log _ rfl) (fun _ => Keeps.pure _)))

theorem SubscribeToTopic (pTopicFilter : ApiTopic) : Keeps I (SubscribeToTopic E pTopicFilter) :=
  Keeps.bind (h.ask _) (fun _ => Keeps.bind (h.setMqtt _) (fun _ => Keeps.bind (h.ask _) (fun _ =>
    Keeps.bind (h.log _ rfl) (fun _ =>
      Keeps.ite (fun _ => Keeps.pure _) (fun _ => h.waitForPacketAck _ _)))))

theorem UnsubscribeFromTopic (pTopicFilter : ApiTopic) :
    Keeps I (UnsubscribeFromTopic E pTopicFilter) :=
  Keeps.bind (h.ask _) (fun _ => Keeps.bind (h.setMqtt _) (fun _ => Keeps.bind (h.ask _) (fun _ =>
    Keeps.bind (h.log _ rfl) (fun _ =>
      Keeps.ite (fun _ => Keeps.pure _) (fun _ => h.waitForPacketAck _ _)))))

/-- Publishing keeps what holds once its entry is in the log. -/
theorem PublishToTopic {P : World → Prop} (pTopicFilter : ApiTopic) (pPayload : Pointer)
    (payloadLength : Nat) (hlog : ∀ w, P w →
      I (w.log (.publishToTopic pTopicFilter (w.responses.read pPayload payloadLength)))) :
    Triple P (PublishToTopic E pTopicFilter pPayload payloadLength) (fun _ => I) I := by
  -- its entry comes first, and the rest is traffic
  refine Triple.bind (Triple.modify hlog) (fun _ => Keeps.bind Keeps.get (fun w => ?_))
  cases getNextFreeIndexForOutgoingPublishes w.mqtt.outgoingPublishPackets with
  | none => exact Keeps.pure _
  | some publishIndex =>
      refine Keeps.bind (h.setOutgoing _ _) (fun _ => Keeps.bind (h.ask _) (fun _ =>
        Keeps.bind (h.setOutgoing _ _) (fun _ => Keeps.bind Keeps.get (fun _ =>
          Keeps.bind (h.mqttPublish _) (fun _ => ?_)))))
      exact Keeps.ite (fun _ => Keeps.bind (h.cleanupOutgoingPublishAt _) (fun _ => Keeps.pure _))
        (fun _ => Keeps.pure _)

theorem resendFrom (indices : List Nat) : Keeps I (resendFrom E indices) := by
  induction indices with
  | nil => exact Keeps.pure _
  | cons index rest ih =>
      exact Keeps.bind Keeps.get (fun _ => Keeps.ite
        (fun _ => Keeps.bind (h.setOutgoing _ _) (fun _ => Keeps.bind Keeps.get (fun _ =>
          Keeps.bind (h.mqttPublish _) (fun _ =>
            Keeps.ite (fun _ => Keeps.pure _) (fun _ => ih)))))
        (fun _ => ih))

theorem connectMqtt : Keeps I (connectMqtt E) :=
  Keeps.bind (h.ask _) (fun _ => Keeps.ite (fun _ => Keeps.pure _) (fun _ =>
    Keeps.bind (h.ask _) (fun _ => Keeps.ite (fun _ => Keeps.pure _) (fun _ =>
      Keeps.bind (h.ask _) (fun _ => Keeps.pure _)))))

theorem mqttSession : Keeps I (mqttSession E) := by
  refine Keeps.bind (h.setMqtt _) (fun _ => Keeps.bind h.connectMqtt (fun result => ?_))
  refine Keeps.ite (fun _ => Keeps.pure _) (fun _ => Keeps.bind (h.setMqtt _) (fun _ => ?_))
  exact Keeps.ite (fun _ => h.resendFrom _)
    (fun _ => Keeps.bind (h.setMqtt _) (fun _ => Keeps.pure _))

end StableTraffic

/-- An invariant that does not look at the variables of `mqtt_operations.c`, and
    survives the delivery of a publish. -/
structure Stable (E : External) (I : World → Prop) : Prop where
  now : ∀ w n, I w → I { w with now := n }
  mqtt : ∀ w m, I w → I { w with mqtt := m }
  transport : ∀ w e, e.isTransport = true → I w → I (w.log e)
  deliver : ∀ w info, I w → I (w.deliver E info)

namespace Stable

variable {E : External} {I : World → Prop} (h : Stable E I)

include h

/-- It does not matter to it that there is a connection. -/
theorem toTraffic : StableTraffic E I where
  now := h.now
  mqtt := h.mqtt
  traffic := fun w e he hw => h.transport w e (isTransport_of_isTraffic he) hw
  deliver := h.deliver

theorem log (e : Event) (he : e.isTransport = true) : Keeps I (log e) :=
  Keeps.modify (fun w hw => h.transport w e he hw)

theorem connectAttempts (pClientCertLabel pPrivateKeyLabel : Label)
    (attempts : List ConnectAttempt) :
    Keeps I (connectAttempts pClientCertLabel pPrivateKeyLabel attempts) := by
  induction attempts with
  | nil => exact Keeps.throw _
  | cons attempt rest ih =>
      exact Keeps.bind (h.log _ rfl) (fun _ => Keeps.ite (fun _ => Keeps.pure _)
        (fun _ => Keeps.ite (fun _ => ih) (fun _ => Keeps.pure _)))

theorem EstablishMqttSession (pClientCertLabel pPrivateKeyLabel : Label) :
    Keeps I (EstablishMqttSession E pClientCertLabel pPrivateKeyLabel) := by
  rw [establishMqttSession_eq]
  refine Keeps.bind (Keeps.bind (h.toTraffic.ask _) (fun _ => h.connectAttempts _ _ _))
    (fun connected => ?_)
  exact Keeps.ite (fun _ => Keeps.pure _) (fun _ => h.toTraffic.mqttSession)

theorem DisconnectMqttSession : Keeps I (DisconnectMqttSession E) := by
  refine Keeps.bind (Keeps.bind Keeps.get (fun w => ?_)) (fun _ =>
    Keeps.bind (h.log _ rfl) (fun _ => Keeps.pure _))
  exact Keeps.ite (fun _ => Keeps.bind (h.toTraffic.ask _) (fun _ => Keeps.pure _))
    (fun _ => Keeps.pure _)

end Stable

/-- Disconnecting always returns. -/
theorem disconnectMqttSession_ok (E : External) (w : World) :
    ∃ status w', DisconnectMqttSession E w = .ok status w' := by
  have hmqtt : ∃ status w', disconnectMqtt E w = .ok status w' := by
    cases hest : w.mqtt.mqttSessionEstablished with
    | false =>
        refine ⟨false, w, bind_ok.mpr ⟨w, w, rfl, ?_⟩⟩
        rw [hest]
        rfl
    | true =>
        refine ⟨E.MQTT_Disconnect w.now == .MQTTSuccess, { w with now := w.now + 1 },
          bind_ok.mpr ⟨w, w, rfl, ?_⟩⟩
        rw [hest]
        rfl
  rcases hmqtt with ⟨status, w', hstatus⟩
  exact ⟨status, _, bind_ok.mpr ⟨_, _, hstatus, rfl⟩⟩

end FleetProvisioning

end ProvisioningSdk
