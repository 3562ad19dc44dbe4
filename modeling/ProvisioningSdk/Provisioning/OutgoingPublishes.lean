import ProvisioningSdk.Lib.Slots
import ProvisioningSdk.Lib.Transition
import ProvisioningSdk.Provisioning.Workflow

/-!
# The Outgoing Publishes

The table of publishes that wait for an acknowledgement, over runs of
`PublishToTopic`, deliveries of a PUBACK and `EstablishMqttSession`.

Five functions share the table. What it is for is simpler than what they do: it
stands for the set of identifiers that are outstanding, in the sense of
`Lib.Slots`. An identifier comes in by a publish that succeeds, and goes by its
acknowledgement or by a session the broker does not have any more.

`PublishToTopic` fills in a record field by field and leaves `dup` as it finds
it. So a publish goes out unflagged only if the slot was free in the stronger
sense of being zero, and every operation that frees a slot has to see to that.

## Main definitions

* `World.sent`, `World.store`: A publish that was sent, and a change of a slot.
* `TableState`, `tableRun`: The three operations, with what has happened.
* `outstanding`, `Outstanding`: The publishes that wait for an acknowledgement.
* `RefusesOutstanding`: What coreMQTT does with an identifier in use.
* `TableFor`: The table stands for a set of identifiers.

## Theorems

* `publishToTopic_full`, `publishToTopic_free`: What a publish does.
* `puback_ok`: What an acknowledgement does.
* `establish_table`: What a connect does to the table.
* `mem_outstanding_iff`: The outstanding publishes, by what happened after them.
* `tableFor_step`: Every operation keeps the table.
* `outgoing_kept`: Whole runs.
-/

namespace ProvisioningSdk

namespace FleetProvisioning

open Effect Slots Transition

section Operations

variable (E : External)

/-! ### Single operations -/

/-- A publish is given to `MQTT_Publish`. -/
def World.sent (packet : PublishPackets) (w : World) : World :=
  { w with now := w.now + 1 }.log (.mqttPublish packet
    (w.responses.read packet.pubInfo.pPayload packet.pubInfo.payloadLength) (E.MQTT_Publish w.now))

/-- One slot of the table changes. -/
def World.store (index : Nat) (packet : PublishPackets) (w : World) : World :=
  { w with mqtt := { w.mqtt with
      outgoingPublishPackets := Function.update w.mqtt.outgoingPublishPackets index packet } }

theorem mqttPublish_eq (packet : PublishPackets) (w : World) :
    mqttPublish E packet w = .ok (E.MQTT_Publish w.now) (w.sent E packet) := rfl

@[simp] theorem sent_mqtt (packet : PublishPackets) (w : World) :
    (w.sent E packet).mqtt = w.mqtt := rfl

@[simp] theorem sent_responses (packet : PublishPackets) (w : World) :
    (w.sent E packet).responses = w.responses := rfl

@[simp] theorem sent_now (packet : PublishPackets) (w : World) :
    (w.sent E packet).now = w.now + 1 := rfl

@[simp] theorem store_table (index : Nat) (packet : PublishPackets) (w : World) :
    (w.store index packet).mqtt.outgoingPublishPackets =
      Function.update w.mqtt.outgoingPublishPackets index packet := rfl

@[simp] theorem store_now (index : Nat) (packet : PublishPackets) (w : World) :
    (w.store index packet).now = w.now := rfl

@[simp] theorem store_trace (index : Nat) (packet : PublishPackets) (w : World) :
    (w.store index packet).trace = w.trace := rfl

/-- The record of a new publish, in a slot that had another. -/
def PublishPackets.fill (old : PublishPackets) (topic : ApiTopic) (pPayload : Pointer)
    (payloadLength packetId : Nat) : PublishPackets where
  packetId := packetId
  pubInfo := { old.pubInfo with
    qos := 1
    topicName := some topic
    pPayload := pPayload
    payloadLength := payloadLength }

/-- The beginning of a publish. -/
def World.publishing (topic : ApiTopic) (pPayload : Pointer) (payloadLength : Nat) (w : World) :
    World :=
  w.log (.publishToTopic topic (w.responses.read pPayload payloadLength))

/-- The record a new publish gets. -/
def World.record (topic : ApiTopic) (pPayload : Pointer) (payloadLength index : Nat)
    (w : World) : PublishPackets :=
  (w.mqtt.outgoingPublishPackets index).fill topic pPayload payloadLength (E.MQTT_GetPacketId w.now)

/-- A new publish is stored. -/
def World.stored (topic : ApiTopic) (pPayload : Pointer) (payloadLength index : Nat)
    (w : World) : World :=
  ({ w with now := w.now + 1 }.publishing topic pPayload payloadLength).store index
    (w.record E topic pPayload payloadLength index)

/-- A new publish is stored and sent. -/
def World.publish (topic : ApiTopic) (pPayload : Pointer) (payloadLength index : Nat)
    (w : World) : World :=
  (w.stored E topic pPayload payloadLength index).sent E
    (w.record E topic pPayload payloadLength index)

theorem publishToTopic_full {topic : ApiTopic} {pPayload : Pointer} {payloadLength : Nat}
    {w : World}
    (hfull : getNextFreeIndexForOutgoingPublishes w.mqtt.outgoingPublishPackets = none) :
    PublishToTopic E topic pPayload payloadLength w =
      .ok false (w.publishing topic pPayload payloadLength) := by
  refine bind_ok.mpr ⟨(), _, rfl, bind_ok.mpr ⟨_, _, rfl, ?_⟩⟩
  have hfull' : getNextFreeIndexForOutgoingPublishes
      (w.publishing topic pPayload payloadLength).mqtt.outgoingPublishPackets = none := hfull
  simp only [World.publishing] at hfull' ⊢
  rw [hfull']
  rfl

theorem free_index {packets : Nat → PublishPackets} {index : Nat}
    (h : getNextFreeIndexForOutgoingPublishes packets = some index) :
    index < MAX_OUTGOING_PUBLISHES ∧ (packets index).packetId = MQTT_PACKET_ID_INVALID := by
  constructor
  · exact List.mem_range.mp (List.mem_of_find?_eq_some h)
  · simpa using List.find?_some h

/-- The part of `PublishToTopic` after the record is complete. -/
def sendStored (index : Nat) : Program Bool := do
  let w ← get
  let mqttStatus ← mqttPublish E (w.mqtt.outgoingPublishPackets index)
  if mqttStatus ≠ .MQTTSuccess then do
    cleanupOutgoingPublishAt index
    return false
  else return true

theorem sendStored_eq {index : Nat} (hindex : index < MAX_OUTGOING_PUBLISHES) (w : World) :
    sendStored E index w =
      if E.MQTT_Publish w.now = .MQTTSuccess then
        .ok true (w.sent E (w.mqtt.outgoingPublishPackets index))
      else .ok false ((w.sent E (w.mqtt.outgoingPublishPackets index)).store index .zero) := by
  by_cases hstatus : E.MQTT_Publish w.now = .MQTTSuccess
  · rw [if_pos hstatus]
    refine bind_ok.mpr ⟨w, w, rfl, bind_ok.mpr ⟨_, _, mqttPublish_eq E _ w, ?_⟩⟩
    rw [if_neg (not_not.mpr hstatus)]
    rfl
  · rw [if_neg hstatus]
    refine bind_ok.mpr ⟨w, w, rfl, bind_ok.mpr ⟨_, _, mqttPublish_eq E _ w, ?_⟩⟩
    rw [if_pos hstatus]
    unfold cleanupOutgoingPublishAt
    rw [decide_eq_true hindex]
    rfl

/-- The record of a publish is filled in first and gets its identifier then. -/
theorem publishToTopic_stored {topic : ApiTopic} {pPayload : Pointer} {payloadLength index : Nat}
    {w : World}
    (hfree : getNextFreeIndexForOutgoingPublishes w.mqtt.outgoingPublishPackets = some index) :
    PublishToTopic E topic pPayload payloadLength w =
      sendStored E index (w.stored E topic pPayload payloadLength index) := by
  have hfree' : getNextFreeIndexForOutgoingPublishes
      (w.publishing topic pPayload payloadLength).mqtt.outgoingPublishPackets = some index := hfree
  have hstored : PublishToTopic E topic pPayload payloadLength w =
      (do
        let p := (w.publishing topic pPayload payloadLength).mqtt.outgoingPublishPackets index
        setOutgoing index (fun _ => { p with
          pubInfo := { p.pubInfo with
            qos := 1
            topicName := some topic
            pPayload := pPayload
            payloadLength := payloadLength } })
        let packetId ← ask E.MQTT_GetPacketId
        setOutgoing index (fun p => { p with packetId := packetId })
        sendStored E index) (w.publishing topic pPayload payloadLength) := by
    unfold PublishToTopic
    rw [modify_bind, get_bind]
    unfold World.publishing at hfree' ⊢
    rw [hfree']
    rfl
  rw [hstored]
  refine congrArg (sendStored E index) ?_
  simp only [Function.update_self]
  unfold World.stored World.store World.publishing World.log
  simp only [Function.update_idem]
  rfl

/-- A publish that finds a slot. If it fails, the slot is zero afterwards. -/
theorem publishToTopic_free {topic : ApiTopic} {pPayload : Pointer} {payloadLength index : Nat}
    {w : World}
    (hfree : getNextFreeIndexForOutgoingPublishes w.mqtt.outgoingPublishPackets = some index) :
    PublishToTopic E topic pPayload payloadLength w =
      if E.MQTT_Publish (w.now + 1) = .MQTTSuccess then
        .ok true (w.publish E topic pPayload payloadLength index)
      else .ok false ((w.publish E topic pPayload payloadLength index).store index .zero) := by
  have hrecord : (w.stored E topic pPayload payloadLength index).mqtt.outgoingPublishPackets index =
      w.record E topic pPayload payloadLength index := Function.update_self _ _ _
  rw [publishToTopic_stored E hfree, sendStored_eq E (free_index hfree).1, hrecord]
  rfl

/-- The table without the publish an acknowledgement is for. -/
def release (packets : Nat → PublishPackets) (packetId : Nat) : Nat → PublishPackets :=
  match (List.range MAX_OUTGOING_PUBLISHES).find?
      (fun index => (packets index).packetId == packetId) with
  | some index => Function.update packets index .zero
  | none => packets

theorem cleanup_ok {packetId : Nat} {w w' : World}
    (h : cleanupOutgoingPublishWithPacketID packetId w = .ok () w') :
    packetId ≠ MQTT_PACKET_ID_INVALID ∧
      w'.mqtt.outgoingPublishPackets = release w.mqtt.outgoingPublishPackets packetId ∧
      w'.trace = w.trace ∧ w'.responses = w.responses := by
  rcases bind_ok.mp h with ⟨_, w1, h1, h⟩
  by_cases hid : packetId = MQTT_PACKET_ID_INVALID
  · -- the identifier is asserted to be valid
    rw [hid] at h1
    cases h1
  · have hassert : (packetId != MQTT_PACKET_ID_INVALID) = true := by simpa using hid
    rw [hassert] at h1
    cases h1
    rw [get_bind] at h
    refine ⟨hid, ?_⟩
    unfold release
    cases hfind : (List.range MAX_OUTGOING_PUBLISHES).find?
        (fun index => (w.mqtt.outgoingPublishPackets index).packetId == packetId) with
    | some index =>
        have hindex := List.mem_range.mp (List.mem_of_find?_eq_some hfind)
        rw [hfind] at h
        rcases bind_ok.mp h with ⟨_, w2, h2, h⟩
        rw [decide_eq_true hindex] at h2
        cases h2
        cases h
        exact ⟨rfl, rfl, rfl⟩
    | none =>
        rw [hfind] at h
        cases h
        exact ⟨rfl, rfl, rfl⟩

theorem puback_ok {packetId : Nat} {w w' : World}
    (h : mqttCallback E (.puback packetId) w = .ok () w') :
    packetId ≠ MQTT_PACKET_ID_INVALID ∧
      w'.mqtt.outgoingPublishPackets = release w.mqtt.outgoingPublishPackets packetId ∧
      w'.trace = w.trace ++ [.received (.puback packetId)] ∧ w'.responses = w.responses := by
  rcases bind_ok.mp h with ⟨_, w1, h1, h⟩
  cases h1
  rcases bind_ok.mp h with ⟨_, w2, h2, h⟩
  cases h2
  exact cleanup_ok h

/-! ### Sessions -/

/-- The answer of the broker to a session that is started at this moment, if it
    is accepted: whether a session is present. -/
def connack (now : Nat) : Option Bool :=
  if E.MQTT_Init now = .MQTTSuccess ∧ E.MQTT_InitStatefulQoS (now + 1) = .MQTTSuccess ∧
      (E.MQTT_Connect (now + 2)).1 = .MQTTSuccess then
    some (E.MQTT_Connect (now + 2)).2
  else none

/-- The session a connect makes, if it makes one. -/
def sessionOf (clientCert privateKey : Label) (w : World) : Option Bool :=
  match connectToBrokerWithBackoffRetries E clientCert privateKey w with
  | .ok true w' => connack E w'.now
  | _ => none

/-- The three calls of the MQTT part before any publish. -/
theorem connectMqtt_ok (w : World) :
    ∃ sessionPresent n,
      connectMqtt E w = .ok ((connack E w.now).isSome, sessionPresent) { w with now := n } ∧
        ∀ b, connack E w.now = some b → sessionPresent = b ∧ n = w.now + 3 := by
  unfold connectMqtt connack
  by_cases hinit : E.MQTT_Init w.now = .MQTTSuccess
  · by_cases hqos : E.MQTT_InitStatefulQoS (w.now + 1) = .MQTTSuccess
    · refine ⟨(E.MQTT_Connect (w.now + 2)).2, w.now + 3, bind_ok.mpr ⟨_, _, rfl, ?_⟩, ?_⟩
      · rw [if_neg (not_not.mpr hinit)]
        refine bind_ok.mpr ⟨_, _, rfl, ?_⟩
        rw [if_neg (not_not.mpr hqos)]
        refine bind_ok.mpr ⟨_, _, rfl, ?_⟩
        by_cases hconnect : (E.MQTT_Connect (w.now + 2)).1 = .MQTTSuccess
        · rw [if_pos ⟨hinit, hqos, hconnect⟩]
          simp only [hconnect, beq_self_eq_true, Option.isSome_some]
          rfl
        · rw [if_neg (fun h => hconnect h.2.2)]
          simp only [beq_eq_false_iff_ne.mpr hconnect, Option.isSome_none]
          rfl
      · intro b hb
        split at hb
        · exact ⟨Option.some.inj hb, rfl⟩
        · cases hb
    · rw [if_neg (fun h => hqos h.2.1)]
      refine ⟨false, w.now + 2, bind_ok.mpr ⟨_, _, rfl, ?_⟩, fun b hb => by cases hb⟩
      rw [if_neg (not_not.mpr hinit)]
      refine bind_ok.mpr ⟨_, _, rfl, ?_⟩
      rw [if_pos hqos]
      rfl
  · rw [if_neg (fun h => hinit h.1)]
    refine ⟨false, w.now + 1, bind_ok.mpr ⟨_, _, rfl, ?_⟩, fun b hb => by cases hb⟩
    rw [if_pos hinit]
    rfl

/-- A record with its `dup` set. -/
def PublishPackets.flag (packet : PublishPackets) : PublishPackets :=
  { packet with pubInfo := { packet.pubInfo with dup := true } }

/-- The publish at an index is flagged and sent again. -/
def World.resent (index : Nat) (w : World) : World :=
  (w.store index (w.mqtt.outgoingPublishPackets index).flag).sent E
    (w.mqtt.outgoingPublishPackets index).flag

theorem resendFrom_free {index : Nat} {rest : List Nat} {w : World}
    (h : (w.mqtt.outgoingPublishPackets index).packetId = MQTT_PACKET_ID_INVALID) :
    resendFrom E (index :: rest) w = resendFrom E rest w := by
  have hget : resendFrom E (index :: rest) w =
      (if (w.mqtt.outgoingPublishPackets index).packetId ≠ MQTT_PACKET_ID_INVALID then do
        setOutgoing index (fun p => { p with pubInfo := { p.pubInfo with dup := true } })
        let w ← get
        let mqttStatus ← mqttPublish E (w.mqtt.outgoingPublishPackets index)
        if mqttStatus ≠ .MQTTSuccess then return false
        else resendFrom E rest
      else resendFrom E rest) w := rfl
  rw [hget, if_neg (not_not.mpr h)]

theorem resendFrom_stored {index : Nat} {rest : List Nat} {w : World}
    (h : (w.mqtt.outgoingPublishPackets index).packetId ≠ MQTT_PACKET_ID_INVALID) :
    resendFrom E (index :: rest) w =
      if E.MQTT_Publish w.now = .MQTTSuccess then resendFrom E rest (w.resent E index)
      else .ok false (w.resent E index) := by
  have hresent : w.resent E index =
      let w1 := w.store index (w.mqtt.outgoingPublishPackets index).flag
      w1.sent E (w1.mqtt.outgoingPublishPackets index) := by
    simp only [store_table, Function.update_self]
    rfl
  have hget : resendFrom E (index :: rest) w =
      (if (w.mqtt.outgoingPublishPackets index).packetId ≠ MQTT_PACKET_ID_INVALID then do
        setOutgoing index PublishPackets.flag
        let w ← get
        let mqttStatus ← mqttPublish E (w.mqtt.outgoingPublishPackets index)
        if mqttStatus ≠ .MQTTSuccess then return false
        else resendFrom E rest
      else resendFrom E rest) w := rfl
  have hsent : resendFrom E (index :: rest) w =
      (if E.MQTT_Publish w.now ≠ .MQTTSuccess then pure false else resendFrom E rest)
        (w.resent E index) := by
    rw [hget, if_pos h, hresent]
    rfl
  rw [hsent]
  by_cases hstatus : E.MQTT_Publish w.now = .MQTTSuccess
  · rw [if_neg (not_not.mpr hstatus), if_pos hstatus]
  · rw [if_pos hstatus, if_neg hstatus]
    rfl

/-- The records that are in use may have been flagged, and nothing else has
    changed. -/
def Flagged (packets packets' : Nat → PublishPackets) : Prop :=
  ∀ i, packets' i = packets i ∨
    (packets i).packetId ≠ MQTT_PACKET_ID_INVALID ∧ packets' i = (packets i).flag

theorem Flagged.refl (packets : Nat → PublishPackets) : Flagged packets packets :=
  fun _ => Or.inl rfl

theorem Flagged.trans {packets packets' packets'' : Nat → PublishPackets}
    (h : Flagged packets packets') (h' : Flagged packets' packets'') :
    Flagged packets packets'' := by
  intro i
  rcases h i with heq | ⟨hid, heq⟩
  · rcases h' i with heq' | ⟨hid', heq'⟩
    · exact Or.inl (heq'.trans heq)
    · rw [heq] at hid' heq'
      exact Or.inr ⟨hid', heq'⟩
  · rcases h' i with heq' | ⟨-, heq'⟩
    · exact Or.inr ⟨hid, heq'.trans heq⟩
    · rw [heq] at heq'
      exact Or.inr ⟨hid, heq'⟩

theorem flagged_resent {index : Nat} {w : World}
    (h : (w.mqtt.outgoingPublishPackets index).packetId ≠ MQTT_PACKET_ID_INVALID) :
    Flagged w.mqtt.outgoingPublishPackets (w.resent E index).mqtt.outgoingPublishPackets := by
  intro i
  by_cases hi : i = index
  · subst hi
    exact Or.inr ⟨h, Function.update_self _ _ _⟩
  · exact Or.inl (Function.update_of_ne hi _ _)

/-- A resend always returns, and only flags what it sends. -/
theorem resend_table (indices : List Nat) (w : World) :
    ∃ status w', resendFrom E indices w = .ok status w' ∧
      Flagged w.mqtt.outgoingPublishPackets w'.mqtt.outgoingPublishPackets := by
  induction indices generalizing w with
  | nil => exact ⟨true, w, rfl, Flagged.refl _⟩
  | cons index rest ih =>
      by_cases hid : (w.mqtt.outgoingPublishPackets index).packetId = MQTT_PACKET_ID_INVALID
      · rw [resendFrom_free E hid]
        exact ih w
      · rw [resendFrom_stored E hid]
        by_cases hstatus : E.MQTT_Publish w.now = .MQTTSuccess
        · rw [if_pos hstatus]
          rcases ih (w.resent E index) with ⟨status, w', hrun, hflagged⟩
          exact ⟨status, w', hrun, (flagged_resent E hid).trans hflagged⟩
        · rw [if_neg hstatus]
          exact ⟨false, _, rfl, flagged_resent E hid⟩

/-- Connecting does not touch the variables of the file. -/
theorem connect_mqtt (clientCert privateKey : Label) (m : Mqtt) :
    Keeps (fun w => w.mqtt = m) (connectToBrokerWithBackoffRetries E clientCert privateKey) := by
  refine Keeps.bind (fun w hw => hw) (fun attempts => ?_)
  induction attempts with
  | nil => exact Keeps.throw _
  | cons attempt rest ih =>
      exact Keeps.bind (Keeps.modify (fun w hw => hw)) (fun _ =>
        Keeps.ite (fun _ => Keeps.pure _)
          (fun _ => Keeps.ite (fun _ => ih) (fun _ => Keeps.pure _)))

/-- What a session does to the table, by the answer of the broker. -/
def AfterSession (session : Option Bool) (packets packets' : Nat → PublishPackets) : Prop :=
  match session with
  | none => packets' = packets
  | some true => Flagged packets packets'
  | some false => packets' = fun _ => .zero

theorem mqttSession_table (w : World) :
    ∃ status w', mqttSession E w = .ok status w' ∧
      AfterSession (connack E w.now) w.mqtt.outgoingPublishPackets
        w'.mqtt.outgoingPublishPackets := by
  rcases connectMqtt_ok E { w with mqtt := { w.mqtt with appPublishCallback := true } } with
    ⟨sessionPresent, n, hrun, hsession⟩
  simp only at hrun hsession
  unfold mqttSession
  cases hconnack : connack E w.now with
  | none =>
      rw [hconnack] at hrun
      exact ⟨false, _, bind_ok.mpr ⟨(), _, rfl, bind_ok.mpr ⟨_, _, hrun, rfl⟩⟩, rfl⟩
  | some present =>
      rcases hsession present hconnack with ⟨rfl, -⟩
      rw [hconnack] at hrun
      cases sessionPresent with
      | false =>
          exact ⟨true, _, bind_ok.mpr ⟨(), _, rfl, bind_ok.mpr ⟨_, _, hrun,
            bind_ok.mpr ⟨(), _, rfl, rfl⟩⟩⟩, rfl⟩
      | true =>
          rcases resend_table E (List.range MAX_OUTGOING_PUBLISHES)
            { w with
              mqtt := { w.mqtt with appPublishCallback := true, mqttSessionEstablished := true }
              now := n } with ⟨status, w', hresend, hflagged⟩
          exact ⟨status, w', bind_ok.mpr ⟨(), _, rfl, bind_ok.mpr ⟨_, _, hrun,
            bind_ok.mpr ⟨(), _, rfl, hresend⟩⟩⟩, hflagged⟩

theorem establish_table {clientCert privateKey : Label} {status : Bool} {w w' : World}
    (h : EstablishMqttSession E clientCert privateKey w = .ok status w') :
    AfterSession (sessionOf E clientCert privateKey w) w.mqtt.outgoingPublishPackets
      w'.mqtt.outgoingPublishPackets := by
  rw [establishMqttSession_eq] at h
  rcases bind_ok.mp h with ⟨connected, w1, hconnect, h⟩
  have hmqtt : w1.mqtt = w.mqtt :=
    (connect_mqtt E clientCert privateKey w.mqtt).ok rfl hconnect
  unfold sessionOf
  rw [hconnect]
  cases connected with
  | false =>
      cases h
      simp only [AfterSession]
      rw [hmqtt]
  | true =>
      rcases mqttSession_table E w1 with ⟨status', w2, hrun, htable⟩
      have h' : mqttSession E w1 = .ok status w' := h
      rw [hrun] at h'
      cases h'
      simp only
      rw [← hmqtt]
      exact htable

end Operations

/-! ### Runs -/

/-- What has happened to the publishes. -/
inductive TableEvent
  /-- `PublishToTopic` returned true for this identifier. -/
  | published (packetId : Nat)
  | acknowledged (packetId : Nat)
  /-- A connect succeeded. -/
  | connected (sessionPresent : Bool)
  deriving DecidableEq, Repr

/-- A call of one of the three operations. -/
inductive TableAct
  | publishToTopic (topic : ApiTopic) (pPayload : Pointer) (payloadLength : Nat)
  | puback (packetId : Nat)
  | establish (clientCert privateKey : Label)
  deriving DecidableEq, Repr

/-- The program, and what has happened so far. -/
structure TableState where
  world : World
  history : List TableEvent

section Runs

variable (E : External)

/-- A call that returns. -/
def tableStep (st : TableState) : TableAct → Option TableState
  | .publishToTopic topic pPayload payloadLength =>
      match PublishToTopic E topic pPayload payloadLength st.world with
      | .ok true w' =>
          some ⟨w', st.history ++ [.published (E.MQTT_GetPacketId st.world.now)]⟩
      | .ok false w' => some ⟨w', st.history⟩
      | .error _ _ => none
  | .puback packetId =>
      match mqttCallback E (.puback packetId) st.world with
      | .ok _ w' => some ⟨w', st.history ++ [.acknowledged packetId]⟩
      | .error _ _ => none
  | .establish clientCert privateKey =>
      match EstablishMqttSession E clientCert privateKey st.world with
      | .ok _ w' =>
          some ⟨w', st.history ++
            ((sessionOf E clientCert privateKey st.world).map TableEvent.connected).toList⟩
      | .error _ _ => none

/-- The runs from this state. -/
def tableRun (w : World) : System TableState TableAct where
  init := ⟨w, []⟩
  step := tableStep E

/-- The publish waits for its acknowledgement: it was published, and after that
    there was neither its acknowledgement nor a connect without a session. -/
def Outstanding (history : List TableEvent) (packetId : Nat) : Prop :=
  ∃ before after, history = before ++ .published packetId :: after ∧
    .acknowledged packetId ∉ after ∧ .connected false ∉ after

/-- The entries a call has added to the log. -/
def Logged (st st' : TableState) (e : Event) : Prop :=
  e ∈ st'.world.trace.drop st.world.trace.length

/-- What coreMQTT does with an identifier in use: a publish without `dup` fails
    while the identifier waits for an acknowledgement. -/
def RefusesOutstanding (st : TableState) (act : TableAct) : Prop :=
  ∀ st', tableStep E st act = some st' → ∀ packet payload status,
    Logged st st' (.mqttPublish packet payload status) → packet.pubInfo.dup = false →
      Outstanding st.history packet.packetId → status ≠ .MQTTSuccess

/-- A new publish goes out without `dup`. -/
def NewUnflagged (st : TableState) (act : TableAct) : Prop :=
  ∀ topic pPayload payloadLength, act = .publishToTopic topic pPayload payloadLength →
    ∀ st', tableStep E st act = some st' → ∀ packet payload status,
      Logged st st' (.mqttPublish packet payload status) → packet.pubInfo.dup = false

/-- What the table should be. -/
structure TableKept (packets : Nat → PublishPackets) (history : List TableEvent) : Prop where
  /-- The identifiers in the table are the outstanding ones. -/
  exact : ∀ packetId, (∃ i < MAX_OUTGOING_PUBLISHES, (packets i).packetId = packetId ∧
    packetId ≠ MQTT_PACKET_ID_INVALID) ↔ Outstanding history packetId
  /-- Each of them is there once. -/
  distinct : ∀ i < MAX_OUTGOING_PUBLISHES, ∀ j < MAX_OUTGOING_PUBLISHES,
    (packets i).packetId ≠ MQTT_PACKET_ID_INVALID → (packets i).packetId = (packets j).packetId →
      i = j
  /-- Every other slot is zero. -/
  zero : ∀ i < MAX_OUTGOING_PUBLISHES, (packets i).packetId = MQTT_PACKET_ID_INVALID →
    packets i = .zero

end Runs

/-! ### The set the table stands for -/

/-- The outstanding identifiers after an event. -/
def TableEvent.apply (ids : Finset Nat) : TableEvent → Finset Nat
  | .published packetId => insert packetId ids
  | .acknowledged packetId => ids.filter (fun id => id ≠ packetId)
  | .connected true => ids
  | .connected false => ∅

/-- The outstanding identifiers. -/
def outstanding (history : List TableEvent) : Finset Nat := history.foldl TableEvent.apply ∅

theorem outstanding_concat (history : List TableEvent) (e : TableEvent) :
    outstanding (history ++ [e]) = e.apply (outstanding history) := by
  unfold outstanding
  rw [List.foldl_append]
  rfl

/-- One event later an identifier is outstanding if it was just published, or
    was outstanding before and the event does not end that. -/
theorem outstanding_concat_iff (history : List TableEvent) (e : TableEvent) (packetId : Nat) :
    Outstanding (history ++ [e]) packetId ↔ e = .published packetId ∨
      Outstanding history packetId ∧ e ≠ .acknowledged packetId ∧ e ≠ .connected false := by
  constructor
  · rintro ⟨before, after, heq, hack, hconnected⟩
    rcases List.eq_nil_or_concat after with rfl | ⟨after', last, rfl⟩
    · exact Or.inl (List.cons.inj (List.append_inj' heq rfl).2).1
    · rw [List.concat_eq_append] at heq hack hconnected
      rw [← List.cons_append, ← List.append_assoc] at heq
      rcases List.append_inj' heq rfl with ⟨hhistory, hlast⟩
      obtain rfl : e = last := (List.cons.inj hlast).1
      simp only [List.mem_append, List.mem_singleton, not_or] at hack hconnected
      exact Or.inr ⟨⟨before, after', hhistory, hack.1, hconnected.1⟩, Ne.symm hack.2,
        Ne.symm hconnected.2⟩
  · rintro (rfl | ⟨⟨before, after, rfl, hack, hconnected⟩, hnack, hnconnected⟩)
    · exact ⟨history, [], rfl, List.not_mem_nil, List.not_mem_nil⟩
    · refine ⟨before, after ++ [e], by rw [List.append_assoc, List.cons_append], ?_, ?_⟩
      · simp only [List.mem_append, List.mem_singleton, not_or]
        exact ⟨hack, Ne.symm hnack⟩
      · simp only [List.mem_append, List.mem_singleton, not_or]
        exact ⟨hconnected, Ne.symm hnconnected⟩

/-- The set is the outstanding identifiers. -/
theorem mem_outstanding_iff (history : List TableEvent) (packetId : Nat) :
    packetId ∈ outstanding history ↔ Outstanding history packetId := by
  induction history using List.reverseRecOn with
  | nil =>
      constructor
      · intro h
        exact absurd h (Finset.notMem_empty _)
      · rintro ⟨before, after, heq, -⟩
        exact absurd heq.symm (List.append_ne_nil_of_right_ne_nil _ (List.cons_ne_nil _ _))
  | append_singleton history e ih =>
      rw [outstanding_concat, outstanding_concat_iff, ← ih]
      cases e with
      | published packetId' =>
          simp only [TableEvent.apply, Finset.mem_insert, TableEvent.published.injEq, ne_eq,
            reduceCtorEq, not_false_eq_true, and_true]
          exact or_congr eq_comm Iff.rfl
      | acknowledged packetId' =>
          simp only [TableEvent.apply, Finset.mem_filter, reduceCtorEq, ne_eq,
            TableEvent.acknowledged.injEq, not_false_eq_true, and_true, false_or]
          exact and_congr_right' (not_congr eq_comm)
      | connected sessionPresent =>
          cases sessionPresent with
          | true => simp [TableEvent.apply]
          | false => simp [TableEvent.apply]

/-- The identifier in a slot. -/
def PublishPackets.id? (packet : PublishPackets) : Option Nat :=
  if packet.packetId = MQTT_PACKET_ID_INVALID then none else some packet.packetId

/-- The table stands for the set, and a slot without an identifier is zero. -/
structure TableFor (packets : Nat → PublishPackets) (ids : Finset Nat) : Prop where
  represents : Represents MAX_OUTGOING_PUBLISHES (fun i => (packets i).id?) ids
  zero : ∀ i < MAX_OUTGOING_PUBLISHES, (packets i).id? = none → packets i = .zero

theorem id?_eq_some {packet : PublishPackets} {packetId : Nat} :
    packet.id? = some packetId ↔
      packet.packetId = packetId ∧ packetId ≠ MQTT_PACKET_ID_INVALID := by
  unfold PublishPackets.id?
  split
  case isTrue h =>
    constructor
    · intro hnone
      cases hnone
    · rintro ⟨rfl, hvalid⟩
      exact absurd h hvalid
  case isFalse h =>
    rw [Option.some.injEq]
    constructor
    · rintro rfl
      exact ⟨rfl, h⟩
    · exact fun hid => hid.1

theorem id?_eq_none {packet : PublishPackets} :
    packet.id? = none ↔ packet.packetId = MQTT_PACKET_ID_INVALID := by
  unfold PublishPackets.id?
  split
  case isTrue h => exact ⟨fun _ => h, fun _ => rfl⟩
  case isFalse h => exact ⟨fun hnone => (by cases hnone), fun hid => absurd hid h⟩

namespace TableFor

variable {packets packets' : Nat → PublishPackets} {ids : Finset Nat}

theorem empty : TableFor (fun _ => .zero) ∅ where
  represents := Represents.empty _
  zero := fun _ _ _ => rfl

/-- Only the slots of the table count. -/
theorem congr (h : TableFor packets ids)
    (heq : ∀ i < MAX_OUTGOING_PUBLISHES, packets' i = packets i) : TableFor packets' ids where
  represents := h.represents.congr (fun i hi => by rw [heq i hi])
  zero := by
    intro i hi hnone
    rw [heq i hi] at hnone ⊢
    exact h.zero i hi hnone

/-- A new identifier in a free slot. -/
theorem publish (h : TableFor packets ids) {index : Nat} (hindex : index < MAX_OUTGOING_PUBLISHES)
    (hfree : (packets index).packetId = MQTT_PACKET_ID_INVALID) {packet : PublishPackets}
    (hvalid : packet.packetId ≠ MQTT_PACKET_ID_INVALID) (hnew : packet.packetId ∉ ids) :
    TableFor (Function.update packets index packet) (insert packet.packetId ids) where
  represents := by
    refine (h.represents.insert hindex (id?_eq_none.mpr hfree) hnew).congr (fun i _ => ?_)
    by_cases hi : i = index
    · rw [hi, Function.update_self, Function.update_self]
      exact id?_eq_some.mpr ⟨rfl, hvalid⟩
    · rw [Function.update_of_ne hi, Function.update_of_ne hi]
  zero := by
    intro i hi hnone
    by_cases hii : i = index
    · rw [hii, Function.update_self] at hnone
      exact absurd (id?_eq_none.mp hnone) hvalid
    · rw [Function.update_of_ne hii] at hnone ⊢
      exact h.zero i hi hnone

/-- An acknowledgement frees the slot of its identifier, and leaves it zero. -/
theorem acknowledge (h : TableFor packets ids) {packetId : Nat}
    (hvalid : packetId ≠ MQTT_PACKET_ID_INVALID) :
    TableFor (release packets packetId) (ids.filter (fun id => id ≠ packetId)) := by
  cases hfind : (List.range MAX_OUTGOING_PUBLISHES).find?
      (fun index => (packets index).packetId == packetId) with
  | none =>
      have hrelease : release packets packetId = packets := by
        unfold release
        rw [hfind]
      -- nothing has the identifier, so the set loses nothing
      have hnone : packetId ∉ ids := by
        intro hmem
        rcases (h.represents.mem_iff packetId).mp hmem with ⟨i, hi, hid⟩
        have hne := List.find?_eq_none.mp hfind i (List.mem_range.mpr hi)
        exact hne (beq_iff_eq.mpr (id?_eq_some.mp hid).1)
      have hfilter : ids.filter (fun id => id ≠ packetId) = ids :=
        Finset.filter_true_of_mem (fun id hid hc => hnone (hc ▸ hid))
      rw [hfilter, hrelease]
      exact h
  | some index =>
      have hrelease : release packets packetId = Function.update packets index .zero := by
        unfold release
        rw [hfind]
      rw [hrelease]
      have hindex := List.mem_range.mp (List.mem_of_find?_eq_some hfind)
      have hid : (packets index).packetId = packetId := by simpa using List.find?_some hfind
      -- the identifier is in this slot only
      have honly : ∀ i < MAX_OUTGOING_PUBLISHES, (packets i).id? = some packetId → i = index :=
        fun i hi hi' => h.represents.once i index packetId hi hindex hi'
          (id?_eq_some.mpr ⟨hid, hvalid⟩)
      constructor
      · refine (h.represents.filter (fun id => id ≠ packetId)).congr (fun i hi => ?_)
        by_cases hii : i = index
        · rw [hii, Function.update_self, id?_eq_some.mpr ⟨hid, hvalid⟩, Option.filter_some,
            if_neg (by simp)]
          rfl
        · rw [Function.update_of_ne hii]
          cases hslot : (packets i).id? with
          | none => rfl
          | some id =>
              have hne : id ≠ packetId := by
                rintro rfl
                exact hii (honly i hi hslot)
              rw [Option.filter_some, if_pos (decide_eq_true hne)]
      · intro i hi hnone
        by_cases hii : i = index
        · rw [hii, Function.update_self]
        · rw [Function.update_of_ne hii] at hnone ⊢
          exact h.zero i hi hnone

/-- A flag is no identifier, and a slot that is free is not flagged. -/
theorem flagged (h : TableFor packets ids) (hflagged : Flagged packets packets') :
    TableFor packets' ids := by
  have hid : ∀ i, (packets' i).id? = (packets i).id? := by
    intro i
    rcases hflagged i with heq | ⟨-, heq⟩
    · rw [heq]
    · rw [heq]
      rfl
  constructor
  · exact h.represents.congr (fun i _ => hid i)
  · intro i hi hnone
    have hnone' : (packets i).id? = none := (hid i).symm.trans hnone
    rcases hflagged i with heq | ⟨hvalid, -⟩
    · rw [heq]
      exact h.zero i hi hnone'
    · exact absurd (id?_eq_none.mp hnone') hvalid

/-- What the table should be, from the set it stands for. -/
theorem kept {history : List TableEvent} (h : TableFor packets (outstanding history)) :
    TableKept packets history where
  exact := by
    intro packetId
    rw [← mem_outstanding_iff, h.represents.mem_iff]
    constructor
    · rintro ⟨i, hi, hid⟩
      exact ⟨i, hi, id?_eq_some.mpr hid⟩
    · rintro ⟨i, hi, hid⟩
      exact ⟨i, hi, id?_eq_some.mp hid⟩
  distinct := fun i hi j hj hvalid heq =>
    h.represents.once i j (packets i).packetId hi hj (id?_eq_some.mpr ⟨rfl, hvalid⟩)
      (id?_eq_some.mpr ⟨heq.symm, hvalid⟩)
  zero := fun i hi hid => h.zero i hi (id?_eq_none.mpr hid)

end TableFor

section Kept

variable {E : External}

/-! ### What a call says -/

theorem logged_iff {st st' : TableState} {entries : List Event}
    (h : st'.world.trace = st.world.trace ++ entries) (e : Event) :
    Logged st st' e ↔ e ∈ entries := by
  unfold Logged
  rw [h, List.drop_left]

/-- A publish finds no slot, or it is sent, or it fails and leaves its slot
    zero. -/
theorem tableStep_publish {st st' : TableState} {topic : ApiTopic} {pPayload : Pointer}
    {payloadLength : Nat}
    (h : tableStep E st (.publishToTopic topic pPayload payloadLength) = some st') :
    st' = ⟨st.world.publishing topic pPayload payloadLength, st.history⟩ ∨
      ∃ index, getNextFreeIndexForOutgoingPublishes st.world.mqtt.outgoingPublishPackets =
          some index ∧
        (E.MQTT_Publish (st.world.now + 1) = .MQTTSuccess ∧
            st' = ⟨st.world.publish E topic pPayload payloadLength index,
              st.history ++ [.published (E.MQTT_GetPacketId st.world.now)]⟩ ∨
          E.MQTT_Publish (st.world.now + 1) ≠ .MQTTSuccess ∧
            st' = ⟨(st.world.publish E topic pPayload payloadLength index).store index .zero,
              st.history⟩) := by
  simp only [tableStep] at h
  cases hindex : getNextFreeIndexForOutgoingPublishes st.world.mqtt.outgoingPublishPackets with
  | none =>
      rw [publishToTopic_full E hindex] at h
      exact Or.inl (Option.some.inj h).symm
  | some index =>
      rw [publishToTopic_free E hindex] at h
      refine Or.inr ⟨index, rfl, ?_⟩
      by_cases hstatus : E.MQTT_Publish (st.world.now + 1) = .MQTTSuccess
      · rw [if_pos hstatus] at h
        exact Or.inl ⟨hstatus, (Option.some.inj h).symm⟩
      · rw [if_neg hstatus] at h
        exact Or.inr ⟨hstatus, (Option.some.inj h).symm⟩

theorem tableStep_puback {st st' : TableState} {packetId : Nat}
    (h : tableStep E st (.puback packetId) = some st') :
    packetId ≠ MQTT_PACKET_ID_INVALID ∧
      st'.world.mqtt.outgoingPublishPackets =
        release st.world.mqtt.outgoingPublishPackets packetId ∧
      st'.world.trace = st.world.trace ++ [.received (.puback packetId)] ∧
      st'.world.responses = st.world.responses ∧
      st'.history = st.history ++ [.acknowledged packetId] := by
  simp only [tableStep] at h
  split at h
  case h_1 w' hrun =>
    cases h
    rcases puback_ok E hrun with ⟨hvalid, htable, htrace, hresponses⟩
    exact ⟨hvalid, htable, htrace, hresponses, rfl⟩
  case h_2 => cases h

theorem tableStep_establish {st st' : TableState} {clientCert privateKey : Label}
    (h : tableStep E st (.establish clientCert privateKey) = some st') :
    (∃ status, EstablishMqttSession E clientCert privateKey st.world = .ok status st'.world) ∧
      st'.history = st.history ++
        ((sessionOf E clientCert privateKey st.world).map TableEvent.connected).toList := by
  simp only [tableStep] at h
  split at h
  case h_1 status w' hrun =>
    cases h
    exact ⟨⟨status, hrun⟩, rfl⟩
  case h_2 => cases h

/-- What a publish adds to the log. -/
theorem logged_publish (st st' : TableState) {topic : ApiTopic} {pPayload : Pointer}
    {payloadLength index : Nat}
    (htrace : st'.world.trace = (st.world.publish E topic pPayload payloadLength index).trace)
    (e : Event) :
    Logged st st' e ↔ e = .publishToTopic topic (st.world.responses.read pPayload payloadLength) ∨
      e = .mqttPublish (st.world.record E topic pPayload payloadLength index)
        (st.world.responses.read pPayload payloadLength) (E.MQTT_Publish (st.world.now + 1)) := by
  have hlog : (st.world.publish E topic pPayload payloadLength index).trace = st.world.trace ++
      [.publishToTopic topic (st.world.responses.read pPayload payloadLength),
        .mqttPublish (st.world.record E topic pPayload payloadLength index)
          (st.world.responses.read pPayload payloadLength)
          (E.MQTT_Publish (st.world.now + 1))] := List.append_assoc ..
  rw [logged_iff (htrace.trans hlog), List.mem_cons, List.mem_singleton]

/-- A publish keeps the table, and goes out without `dup`. -/
theorem tableFor_publish (hids : ∀ now, E.MQTT_GetPacketId now ≠ MQTT_PACKET_ID_INVALID)
    {st st' : TableState} {topic : ApiTopic} {pPayload : Pointer} {payloadLength : Nat}
    (h : TableFor st.world.mqtt.outgoingPublishPackets (outstanding st.history))
    (hrefuses : RefusesOutstanding E st (.publishToTopic topic pPayload payloadLength))
    (hstep : tableStep E st (.publishToTopic topic pPayload payloadLength) = some st') :
    TableFor st'.world.mqtt.outgoingPublishPackets (outstanding st'.history) ∧
      ∀ packet payload status, Logged st st' (.mqttPublish packet payload status) →
        packet.pubInfo.dup = false := by
  have hrefuses' := hrefuses st' hstep
  rcases tableStep_publish hstep with rfl | ⟨index, hindex, hsent⟩
  · refine ⟨h, fun packet payload status hlogged => ?_⟩
    cases List.mem_singleton.mp ((logged_iff rfl _).mp hlogged)
  · rcases free_index hindex with ⟨hlt, hfree⟩
    -- the slot was zero, so the record has no flag
    have hzero : st.world.mqtt.outgoingPublishPackets index = .zero :=
      h.zero index hlt (id?_eq_none.mpr hfree)
    have hdup : (st.world.record E topic pPayload payloadLength index).pubInfo.dup = false := by
      unfold World.record
      rw [hzero]
      rfl
    rcases hsent with ⟨hstatus, rfl⟩ | ⟨-, rfl⟩
    · have hlogged := logged_publish (E := E) st
        ⟨st.world.publish E topic pPayload payloadLength index, st.history ++
          [.published (E.MQTT_GetPacketId st.world.now)]⟩ rfl
      refine ⟨?_, fun packet payload status hl => ?_⟩
      · -- coreMQTT has accepted the identifier, so it was not outstanding
        have hnew : E.MQTT_GetPacketId st.world.now ∉ outstanding st.history := by
          intro hmem
          exact hrefuses' _ _ _ ((hlogged _).mpr (Or.inr rfl)) hdup
            ((mem_outstanding_iff _ _).mp hmem) hstatus
        simp only [outstanding_concat, TableEvent.apply]
        exact h.publish hlt hfree (hids st.world.now) hnew
      · rcases (hlogged _).mp hl with heq | heq
        · cases heq
        · cases heq
          exact hdup
    · refine ⟨h.congr (fun i _ => ?_), fun packet payload status hl => ?_⟩
      · -- the slot was zero before, and it is zero again
        by_cases hi : i = index
        · rw [hi, hzero]
          exact Function.update_self _ _ _
        · exact (Function.update_of_ne hi _ _).trans (Function.update_of_ne hi _ _)
      · rcases (logged_publish (E := E) _ _ rfl _).mp hl with heq | heq
        · cases heq
        · cases heq
          exact hdup

/-- Every operation keeps the table. -/
theorem tableFor_step (hids : ∀ now, E.MQTT_GetPacketId now ≠ MQTT_PACKET_ID_INVALID)
    {st st' : TableState} {act : TableAct}
    (h : TableFor st.world.mqtt.outgoingPublishPackets (outstanding st.history))
    (hrefuses : RefusesOutstanding E st act) (hstep : tableStep E st act = some st') :
    TableFor st'.world.mqtt.outgoingPublishPackets (outstanding st'.history) ∧
      NewUnflagged E st act := by
  cases act with
  | publishToTopic topic pPayload payloadLength =>
      refine ⟨(tableFor_publish hids h hrefuses hstep).1, ?_⟩
      intro topic' pPayload' payloadLength' heq st'' hstep''
      cases heq
      exact (tableFor_publish hids h hrefuses hstep'').2
  | puback packetId =>
      refine ⟨?_, fun _ _ _ heq => by cases heq⟩
      rcases tableStep_puback hstep with ⟨hvalid, htable, -, -, hhistory⟩
      rw [htable, hhistory, outstanding_concat]
      exact h.acknowledge hvalid
  | establish clientCert privateKey =>
      refine ⟨?_, fun _ _ _ heq => by cases heq⟩
      rcases tableStep_establish hstep with ⟨⟨status, hrun⟩, hhistory⟩
      have htable := establish_table E hrun
      rw [hhistory]
      cases hsession : sessionOf E clientCert privateKey st.world with
      | none =>
          rw [hsession] at htable
          simp only [Option.map_none, Option.toList_none, List.append_nil]
          exact (show st'.world.mqtt.outgoingPublishPackets = _ from htable) ▸ h
      | some sessionPresent =>
          rw [hsession] at htable
          simp only [Option.map_some, Option.toList_some, outstanding_concat]
          cases sessionPresent with
          | true => exact h.flagged htable
          | false =>
              exact (show st'.world.mqtt.outgoingPublishPackets = _ from htable) ▸ TableFor.empty

/-- From a table of zeros, and with what coreMQTT promises about identifiers:
    the table has each outstanding identifier once and nothing else, and every
    new publish goes out without `dup`. -/
theorem outgoing_kept (hids : ∀ now, E.MQTT_GetPacketId now ≠ MQTT_PACKET_ID_INVALID) (w : World)
    (hzero : ∀ i < MAX_OUTGOING_PUBLISHES, w.mqtt.outgoingPublishPackets i = .zero)
    (acts : List TableAct) (st : TableState) (hrun : (tableRun E w).run acts = some st)
    (hrefuses : (tableRun E w).Guarded (RefusesOutstanding E) acts) :
    TableKept st.world.mqtt.outgoingPublishPackets st.history ∧
      (tableRun E w).Guarded (NewUnflagged E) acts := by
  have hall := (tableRun E w).guarded_of_guarded
    (Q := fun st => TableFor st.world.mqtt.outgoingPublishPackets (outstanding st.history))
    (TableFor.empty.congr hzero) (fun _ _ _ _ h hguard hstep => tableFor_step hids h hguard hstep)
    acts st hrun hrefuses
  exact ⟨hall.1.kept, hall.2⟩

/-- Nothing is outstanding, so nothing has to be refused. -/
theorem refuses_of_empty {st : TableState} (h : outstanding st.history = ∅) (act : TableAct) :
    RefusesOutstanding E st act := by
  intro st' _ packet payload status _ _ hout
  have hmem := (mem_outstanding_iff _ _).mpr hout
  rw [h] at hmem
  exact absurd hmem (Finset.notMem_empty _)

/-- An acknowledgement publishes nothing. -/
theorem refuses_puback (st : TableState) (packetId : Nat) :
    RefusesOutstanding E st (.puback packetId) := by
  intro st' hstep packet payload status hlogged
  cases List.mem_singleton.mp ((logged_iff (tableStep_puback hstep).2.2.1 _).mp hlogged)

end Kept

/-- A publish, its acknowledgement, and a publish that gets the same identifier. -/
def reusedIdentifier : List TableAct :=
  [.publishToTopic .FP_CBOR_CREATE_KEYS_PUBLISH_TOPIC .empty 0, .puback 1,
    .publishToTopic .FP_CBOR_REGISTER_PUBLISH_TOPIC .payloadBuffer 0]

theorem outgoing_kept_reused :
    ∃ st, (tableRun (External.reliable [0] []) World.initial).run reusedIdentifier = some st ∧
      TableKept st.world.mqtt.outgoingPublishPackets st.history ∧
      (tableRun (External.reliable [0] []) World.initial).Guarded
        (NewUnflagged (External.reliable [0] [])) reusedIdentifier := by
  refine ⟨_, rfl, outgoing_kept (fun _ h => by cases h) World.initial (fun _ _ => rfl)
    reusedIdentifier _ rfl ?_⟩
  refine ⟨refuses_of_empty rfl _, fun s hs => ?_⟩
  obtain rfl := Option.some.inj hs
  refine ⟨refuses_puback _ _, fun s hs => ?_⟩
  obtain rfl := Option.some.inj hs
  exact ⟨refuses_of_empty (by decide) _, fun _ _ => trivial⟩

end FleetProvisioning

end ProvisioningSdk
