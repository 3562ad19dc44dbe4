import ProvisioningSdk.Provisioning.OutgoingPublishes

/-!
# Sending Publishes Again

What `handlePublishResend` sends for a publish that was not acknowledged, over
runs of the operations the provisioning program is made of: publishes, incoming
packets, the request it builds in the payload buffer, disconnects and connects.

A record of an outgoing publish has the pointer to its payload and no copy of
it. A duplicate is therefore made of what the pointer shows when the session is
resumed, while the payload buffer belongs to whoever writes to it next: the
request for the thing is sent from it, and every accepted response is copied
into it. As long as nobody writes over a payload that is still stored, every
record shows what was sent first (`Firsts`), and a duplicate is made of that.

The runs and the table are those of `Provisioning.OutgoingPublishes`, and so is
what they need of coreMQTT. With it an identifier has one publish at a time, and
the first transmission of an identifier is the last one in the log without
`dup`.

## Main definitions

* `ProgramAct`, `programRun`: The operations.
* `firstTransmission`: What was sent first under an identifier.
* `ResendsSame`: A duplicate is what was sent first.
* `written`, `PayloadsKept`: What a step writes over stored payloads.
* `Firsts`: The records show the first transmissions.

## Theorems

* `resend_logged`, `establish_logged`: The duplicates a connect sends.
* `firsts_step`: A step that keeps the payloads keeps the records.
* `resends_same`: While payloads are kept, every duplicate is what was sent
  first.
* `overwritten_resent`: A payload that is not kept is sent as a duplicate.
-/

namespace ProvisioningSdk

namespace FleetProvisioning

open Effect Slots Transition

/-- An operation of the provisioning program. -/
inductive ProgramAct
  /-- A publish, an acknowledgement or a connect. -/
  | table (act : TableAct)
  /-- A publish is delivered to the callback. -/
  | deliver (info : Publish)
  /-- The request for the thing is built in the payload buffer. -/
  | generateRequest (pDeviceSerialNumber : List UInt8)
  | disconnect

/-- The state after a program that returned. -/
def returned {α : Type} : EStateM.Result Halt World α → Option World
  | .ok _ w => some w
  | .error _ _ => none

section Runs

variable (E : External)

/-- An operation that returns. -/
def programStep (st : TableState) : ProgramAct → Option TableState
  | .table act => tableStep E st act
  | .deliver info =>
      (returned (mqttCallback E (.publish info) st.world)).map (fun w => { st with world := w })
  | .generateRequest pDeviceSerialNumber =>
      (returned (generateRequest E pDeviceSerialNumber st.world)).map
        (fun w => { st with world := w })
  | .disconnect =>
      (returned (DisconnectMqttSession E st.world)).map (fun w => { st with world := w })

/-- The runs from this state. -/
def programRun (w : World) : System TableState ProgramAct where
  init := ⟨w, []⟩
  step := programStep E

/-- What coreMQTT does with an identifier in use. -/
def RefusesInUse (st : TableState) : ProgramAct → Prop
  | .table act => RefusesOutstanding E st act
  | _ => True

/-! ### First transmissions -/

/-- The entry is a first transmission: a publish without `dup` that was sent. -/
def Event.first : Event → Option (PublishPackets × List UInt8)
  | .mqttPublish packet payload status =>
      if packet.pubInfo.dup = false ∧ status = .MQTTSuccess then some (packet, payload) else none
  | _ => none

/-- The first transmission under an identifier after an entry. -/
def firstStep (packetId : Nat) (first : Option (PublishPackets × List UInt8)) (e : Event) :
    Option (PublishPackets × List UInt8) :=
  match e.first with
  | some (packet, payload) => if packet.packetId = packetId then some (packet, payload) else first
  | none => first

/-- The first transmission of the publish that has the identifier now, with its
    payload. -/
def firstTransmission (trace : List Event) (packetId : Nat) :
    Option (PublishPackets × List UInt8) :=
  trace.foldl (firstStep packetId) none

/-- Every duplicate that a step sends has the topic, the payload and the length
    of the first transmission of its identifier. -/
def ResendsSame (st : TableState) (act : ProgramAct) : Prop :=
  ∀ st', programStep E st act = some st' → ∀ packet payload status,
    Logged st st' (.mqttPublish packet payload status) → packet.pubInfo.dup = true →
      ∃ first sent, firstTransmission st.world.trace packet.packetId = some (first, sent) ∧
        packet.pubInfo.topicName = first.pubInfo.topicName ∧ payload = sent ∧
        packet.pubInfo.payloadLength = first.pubInfo.payloadLength

/-- What an operation writes to the beginning of the payload buffer: an accepted
    response, or the request as far as it could be built. -/
def written (st : TableState) : ProgramAct → Option (List UInt8)
  | .deliver info =>
      if st.world.mqtt.appPublishCallback then (responseOf E info).bind Response.acceptedPayload
      else none
  | .generateRequest pDeviceSerialNumber =>
      match Serializer.generateRegisterThingRequest E.tinyCborEncoder NETWORK_BUFFER_SIZE
          st.world.locals.token (pDeviceSerialNumber.take 32) with
      | .ok request => some request
      | .error bytes => some bytes
  | _ => none

/-- What an operation writes leaves every stored publish the bytes it points
    to. -/
def PayloadsKept (st : TableState) (act : ProgramAct) : Prop :=
  ∀ bytes ∈ written E st act, ∀ i < MAX_OUTGOING_PUBLISHES,
    (st.world.mqtt.outgoingPublishPackets i).packetId ≠ MQTT_PACKET_ID_INVALID →
      (st.world.mqtt.outgoingPublishPackets i).pubInfo.pPayload = .payloadBuffer →
        (st.world.responses.payloadBuffer.copy 0 bytes).slice 0
            (st.world.mqtt.outgoingPublishPackets i).pubInfo.payloadLength =
          st.world.responses.payloadBuffer.slice 0
            (st.world.mqtt.outgoingPublishPackets i).pubInfo.payloadLength

instance (st : TableState) (act : ProgramAct) : Decidable (PayloadsKept E st act) :=
  inferInstanceAs (Decidable (∀ bytes ∈ written E st act, _))

end Runs

theorem firstTransmission_append (trace entries : List Event) (packetId : Nat)
    (h : ∀ e ∈ entries, e.first = none) :
    firstTransmission (trace ++ entries) packetId = firstTransmission trace packetId := by
  induction entries using List.reverseRecOn with
  | nil => rw [List.append_nil]
  | append_singleton entries e ih =>
      have hlast : e.first = none := h e (List.mem_append_right _ (List.mem_singleton_self e))
      rw [← ih (fun e' he' => h e' (List.mem_append_left _ he')), ← List.append_assoc]
      unfold firstTransmission
      rw [List.foldl_append, List.foldl_cons, List.foldl_nil]
      unfold firstStep
      rw [hlast]

/-- One more first transmission. -/
theorem firstTransmission_concat (trace : List Event) (packetId : Nat) {e : Event}
    {packet : PublishPackets} {payload : List UInt8} (h : e.first = some (packet, payload)) :
    firstTransmission (trace ++ [e]) packetId =
      if packet.packetId = packetId then some (packet, payload)
      else firstTransmission trace packetId := by
  unfold firstTransmission
  rw [List.foldl_append, List.foldl_cons, List.foldl_nil]
  unfold firstStep
  rw [h]

/-! ### What the steps enter into the log -/

section Logs

variable (E : External)

/-- The entries that were added to the log, with the payloads as they were. -/
structure Adds (P : Event → Prop) (w w' : World) : Prop where
  entries : ∃ entries, w'.trace = w.trace ++ entries ∧ ∀ e ∈ entries, P e
  responses : w'.responses = w.responses

variable {P : Event → Prop}

theorem Adds.refl (w : World) : Adds P w w where
  entries := ⟨[], (List.append_nil _).symm, fun _ he => absurd he List.not_mem_nil⟩
  responses := rfl

theorem Adds.trans {w w' w'' : World} (h : Adds P w w') (h' : Adds P w' w'') : Adds P w w'' where
  entries := by
    rcases h.entries with ⟨entries, htrace, hall⟩
    rcases h'.entries with ⟨more, htrace', hall'⟩
    refine ⟨entries ++ more, by rw [htrace', htrace, List.append_assoc], fun e he => ?_⟩
    rcases List.mem_append.mp he with he | he
    · exact hall e he
    · exact hall' e he
  responses := h'.responses.trans h.responses

theorem Adds.mono {Q : Event → Prop} {w w' : World} (h : Adds P w w') (hPQ : ∀ e, P e → Q e) :
    Adds Q w w' where
  entries := by
    rcases h.entries with ⟨entries, htrace, hall⟩
    exact ⟨entries, htrace, fun e he => hPQ e (hall e he)⟩
  responses := h.responses

theorem Adds.log {w : World} {e : Event} (he : P e) : Adds P w (w.log e) where
  entries := ⟨[e], rfl, fun _ he' => (List.mem_singleton.mp he') ▸ he⟩
  responses := rfl

/-- The entry is not about sending a publish. -/
def Event.NoPublish (e : Event) : Prop :=
  ∀ packet payload status, e ≠ .mqttPublish packet payload status

theorem first_of_noPublish {e : Event} (h : e.NoPublish) : e.first = none := by
  cases e with
  | mqttPublish packet payload status => exact absurd rfl (h packet payload status)
  | _ => rfl

/-- The entry is a record of the table, sent again with the payload its pointer
    shows. -/
def Resent (w : World) (e : Event) : Prop :=
  ∃ i < MAX_OUTGOING_PUBLISHES,
    (w.mqtt.outgoingPublishPackets i).packetId ≠ MQTT_PACKET_ID_INVALID ∧ ∃ status,
      e = .mqttPublish (w.mqtt.outgoingPublishPackets i).flag
        (w.responses.read (w.mqtt.outgoingPublishPackets i).pubInfo.pPayload
          (w.mqtt.outgoingPublishPackets i).pubInfo.payloadLength) status

/-- A resend sends records of the table. Those that come later are as they were,
    or flagged already. -/
theorem resend_logged (w0 : World) {indices : List Nat}
    (hindices : ∀ i ∈ indices, i < MAX_OUTGOING_PUBLISHES) {w w' : World} {status : Bool}
    (hflagged : Flagged w0.mqtt.outgoingPublishPackets w.mqtt.outgoingPublishPackets)
    (hresponses : w.responses = w0.responses) (h : resendFrom E indices w = .ok status w') :
    Adds (Resent w0) w w' := by
  induction indices generalizing w with
  | nil =>
      cases h
      exact Adds.refl _
  | cons index rest ih =>
      have hrest : ∀ i ∈ rest, i < MAX_OUTGOING_PUBLISHES :=
        fun i hi => hindices i (List.mem_cons_of_mem index hi)
      by_cases hid : (w.mqtt.outgoingPublishPackets index).packetId = MQTT_PACKET_ID_INVALID
      · rw [resendFrom_free E hid] at h
        exact ih hrest hflagged hresponses h
      · rw [resendFrom_stored E hid] at h
        have hsent : Adds (Resent w0) w (w.resent E index) := by
          refine ⟨⟨[_], rfl, fun e he => ?_⟩, rfl⟩
          rw [List.mem_singleton] at he
          -- a flagged record differs from the record by its flag only
          rcases hflagged index with heq | ⟨hvalid, heq⟩
          · refine ⟨index, hindices index List.mem_cons_self, heq ▸ hid, E.MQTT_Publish w.now, ?_⟩
            rw [he, ← heq, ← hresponses]
            rfl
          · refine ⟨index, hindices index List.mem_cons_self, hvalid, E.MQTT_Publish w.now, ?_⟩
            rw [he, heq, ← hresponses]
            rfl
        by_cases hstatus : E.MQTT_Publish w.now = .MQTTSuccess
        · rw [if_pos hstatus] at h
          exact hsent.trans (ih hrest (hflagged.trans (flagged_resent E hid)) hresponses h)
        · rw [if_neg hstatus] at h
          cases h
          exact hsent

/-- The whole table is sent again, from a state with the table, the payloads and
    the log of this one. -/
theorem handlePublishResend_logged {w w1 w' : World} {status : Bool}
    (htable : w1.mqtt.outgoingPublishPackets = w.mqtt.outgoingPublishPackets)
    (hresponses : w1.responses = w.responses) (htrace : w1.trace = w.trace)
    (h : handlePublishResend E w1 = .ok status w') :
    Adds (Resent w) w w' := by
  have hflagged : Flagged w.mqtt.outgoingPublishPackets w1.mqtt.outgoingPublishPackets := by
    rw [htable]
    exact Flagged.refl _
  have hresent := resend_logged E w (fun i hi => List.mem_range.mp hi) hflagged hresponses h
  exact ⟨htrace ▸ hresent.entries, hresent.responses.trans hresponses⟩

/-- Where every publish succeeds, no record is left out. -/
theorem resend_sends (hsucceeds : ∀ now, E.MQTT_Publish now = .MQTTSuccess) {indices : List Nat}
    (hindices : ∀ i ∈ indices, i < MAX_OUTGOING_PUBLISHES) {i : Nat} (hmem : i ∈ indices)
    {w w' : World} {status : Bool}
    (hid : (w.mqtt.outgoingPublishPackets i).packetId ≠ MQTT_PACKET_ID_INVALID)
    (h : resendFrom E indices w = .ok status w') :
    ∃ entries, w'.trace = w.trace ++ entries ∧
      .mqttPublish (w.mqtt.outgoingPublishPackets i).flag
        (w.responses.read (w.mqtt.outgoingPublishPackets i).pubInfo.pPayload
          (w.mqtt.outgoingPublishPackets i).pubInfo.payloadLength) .MQTTSuccess ∈ entries := by
  induction indices generalizing w with
  | nil => exact absurd hmem List.not_mem_nil
  | cons index rest ih =>
      have hrest : ∀ j ∈ rest, j < MAX_OUTGOING_PUBLISHES :=
        fun j hj => hindices j (List.mem_cons_of_mem index hj)
      by_cases hfree : (w.mqtt.outgoingPublishPackets index).packetId = MQTT_PACKET_ID_INVALID
      · rw [resendFrom_free E hfree] at h
        rcases List.mem_cons.mp hmem with rfl | hlater
        · exact absurd hfree hid
        · exact ih hrest hlater hid h
      · rw [resendFrom_stored E hfree, if_pos (hsucceeds w.now)] at h
        by_cases hi : i = index
        · -- it is sent now, and the others follow
          rcases (resend_logged E (w.resent E index) hrest (Flagged.refl _) rfl h).entries with
            ⟨entries, htrace, -⟩
          refine ⟨_ :: entries, htrace.trans (List.append_assoc ..), ?_⟩
          rw [hi, ← hsucceeds w.now]
          exact List.mem_cons_self
        · have hsame : (w.resent E index).mqtt.outgoingPublishPackets i =
              w.mqtt.outgoingPublishPackets i := Function.update_of_ne hi _ _
          have hlater : i ∈ rest := (List.mem_cons.mp hmem).resolve_left hi
          rcases ih hrest hlater (hsame ▸ hid) h with ⟨entries, htrace, hsent⟩
          rw [hsame] at hsent
          exact ⟨_ :: entries, htrace.trans (List.append_assoc ..), List.mem_cons_of_mem _ hsent⟩

/-- A connect enters no publish into the log. -/
theorem connect_logged {clientCert privateKey : Label} {connected : Bool} {w w' : World}
    (h : connectToBrokerWithBackoffRetries E clientCert privateKey w = .ok connected w') :
    Adds Event.NoPublish w w' := by
  have hkeeps : Keeps (Adds Event.NoPublish w)
      (connectToBrokerWithBackoffRetries E clientCert privateKey) := by
    refine Keeps.bind (fun w' hw => ⟨hw.entries, hw.responses⟩) (fun attempts => ?_)
    induction attempts with
    | nil => exact Keeps.throw _
    | cons attempt rest ih =>
        refine Keeps.bind (Keeps.modify (fun w' hw => hw.trans (Adds.log ?_))) (fun _ =>
          Keeps.ite (fun _ => Keeps.pure _)
            (fun _ => Keeps.ite (fun _ => ih) (fun _ => Keeps.pure _)))
        intro packet payload status heq
        cases heq
  exact hkeeps.ok (Adds.refl w) h

/-- The MQTT part of a session sends the table again if it finds a session, and
    nothing if it does not. -/
theorem mqttSession_cases {w w' : World} {status : Bool} (h : mqttSession E w = .ok status w') :
    (connack E w.now ≠ some true ∧ w'.trace = w.trace ∧ w'.responses = w.responses) ∨
      (connack E w.now = some true ∧ ∃ w1, handlePublishResend E w1 = .ok status w' ∧
        w1.mqtt.outgoingPublishPackets = w.mqtt.outgoingPublishPackets ∧
        w1.responses = w.responses ∧ w1.trace = w.trace) := by
  rcases connectMqtt_ok E { w with mqtt := { w.mqtt with appPublishCallback := true } } with
    ⟨sessionPresent, n, hrun, hsession⟩
  simp only at hrun hsession
  rcases bind_ok.mp h with ⟨_, w1, h1, h⟩
  cases h1
  rcases bind_ok.mp h with ⟨result, w2, h2, h⟩
  have h2' := hrun.symm.trans h2
  cases h2'
  -- only a session that is present resends
  cases hconnack : connack E w.now with
  | none =>
      rw [hconnack] at h
      cases h
      exact Or.inl ⟨(fun heq => by cases heq), rfl, rfl⟩
  | some present =>
      rcases hsession present hconnack with ⟨rfl, -⟩
      rw [hconnack] at h
      rcases bind_ok.mp h with ⟨_, w3, h3, h⟩
      cases h3
      cases sessionPresent with
      | false =>
          rcases bind_ok.mp h with ⟨_, w4, h4, h⟩
          cases h4
          cases h
          exact Or.inl ⟨(fun heq => by cases heq), rfl, rfl⟩
      | true =>
          rw [if_pos rfl] at h
          exact Or.inr ⟨rfl, _, h, rfl, rfl, rfl⟩

/-- The MQTT part of a session sends publishes only where it finds a session. -/
theorem mqttSession_logged {w w' : World} {status : Bool}
    (h : mqttSession E w = .ok status w') :
    Adds (fun e => connack E w.now = some true ∧ Resent w e) w w' := by
  rcases mqttSession_cases E h with
    ⟨-, htrace, hresponses⟩ | ⟨hconnack, w1, h', htable, hread, hlog⟩
  · exact ⟨⟨[], by rw [htrace, List.append_nil], fun _ he => absurd he List.not_mem_nil⟩,
      hresponses⟩
  · exact (handlePublishResend_logged E htable hread hlog h').mono (fun e he => ⟨hconnack, he⟩)

/-- A connect that finds a session sends the table again. -/
theorem establish_resends {clientCert privateKey : Label} {status : Bool} {w w' : World}
    (h : EstablishMqttSession E clientCert privateKey w = .ok status w')
    (hsession : sessionOf E clientCert privateKey w = some true) :
    ∃ w1, handlePublishResend E w1 = .ok status w' ∧
      w1.mqtt.outgoingPublishPackets = w.mqtt.outgoingPublishPackets ∧
      Adds Event.NoPublish w w1 := by
  rw [establishMqttSession_eq] at h
  rcases bind_ok.mp h with ⟨connected, w1, hconnect, h⟩
  have hmqtt : w1.mqtt = w.mqtt := (connect_mqtt E clientCert privateKey w.mqtt).ok rfl hconnect
  have hlogged := connect_logged E hconnect
  unfold sessionOf at hsession
  rw [hconnect] at hsession
  cases connected with
  | false => cases hsession
  | true =>
      have h' : mqttSession E w1 = .ok status w' := h
      rcases mqttSession_cases E h' with ⟨hnone, -⟩ | ⟨-, w2, h2, htable, hread, hlog⟩
      · exact absurd hsession hnone
      · rcases hlogged.entries with ⟨entries, htrace, hall⟩
        exact ⟨w2, h2, htable.trans (congrArg Mqtt.outgoingPublishPackets hmqtt),
          ⟨entries, hlog.trans htrace, hall⟩, hread.trans hlogged.responses⟩

/-- What establishing a session enters into the log: its duplicates, if there is
    a session to continue, and no other publish. -/
theorem establish_logged {clientCert privateKey : Label} {status : Bool} {w w' : World}
    (h : EstablishMqttSession E clientCert privateKey w = .ok status w') :
    Adds (fun e => e.NoPublish ∨ sessionOf E clientCert privateKey w = some true ∧ Resent w e)
      w w' := by
  rw [establishMqttSession_eq] at h
  rcases bind_ok.mp h with ⟨connected, w1, hconnect, h⟩
  have hlogged := (connect_logged E hconnect).mono (fun e he =>
    (Or.inl he : e.NoPublish ∨ sessionOf E clientCert privateKey w = some true ∧ Resent w e))
  have hmqtt : w1.mqtt = w.mqtt := (connect_mqtt E clientCert privateKey w.mqtt).ok rfl hconnect
  cases connected with
  | false =>
      cases h
      exact hlogged
  | true =>
      have hsession : sessionOf E clientCert privateKey w = connack E w1.now := by
        unfold sessionOf
        rw [hconnect]
      have h' : mqttSession E w1 = .ok status w' := h
      refine hlogged.trans ((mqttSession_logged E h').mono (fun e he => Or.inr ?_))
      -- connecting has changed neither the table nor the payloads
      rw [hsession]
      refine ⟨he.1, ?_⟩
      rcases he.2 with ⟨i, hi, hid, hsent⟩
      rw [hmqtt] at hid hsent
      rw [hlogged.responses] at hsent
      exact ⟨i, hi, hid, hsent⟩

/-- Steps that do not touch the table and send nothing, with what they write to
    the payload buffer. -/
structure Quiet (bytes : Option (List UInt8)) (w w' : World) : Prop where
  table : w'.mqtt.outgoingPublishPackets = w.mqtt.outgoingPublishPackets
  entries : ∃ entries, w'.trace = w.trace ++ entries ∧ ∀ e ∈ entries, e.NoPublish
  buffer : w'.responses.payloadBuffer = match bytes with
    | some bytes => w.responses.payloadBuffer.copy 0 bytes
    | none => w.responses.payloadBuffer

theorem Quiet.refl (w : World) : Quiet none w w where
  table := rfl
  entries := (Adds.refl w).entries
  buffer := rfl

theorem Quiet.log {bytes : Option (List UInt8)} {w w' : World} (h : Quiet bytes w w') {e : Event}
    (he : e.NoPublish) : Quiet bytes w (w'.log e) where
  table := h.table
  entries := by
    rcases h.entries with ⟨entries, htrace, hall⟩
    refine ⟨entries ++ [e], ?_, fun e' he' => ?_⟩
    · unfold World.log
      rw [htrace, List.append_assoc]
    · rcases List.mem_append.mp he' with he' | he'
      · exact hall e' he'
      · exact (List.mem_singleton.mp he') ▸ he
  buffer := h.buffer

/-- The callback copies what is accepted, and nothing else. -/
theorem deliver_buffer (info : Publish) (r : Responses) :
    (provisioningPublishCallback E info r).payloadBuffer =
      match (responseOf E info).bind Response.acceptedPayload with
      | some bytes => r.payloadBuffer.copy 0 bytes
      | none => r.payloadBuffer := by
  rw [provisioningPublishCallback_eq]
  cases responseOf E info with
  | none => rfl
  | some response => cases response <;> rfl

/-- An operation that returns, and changes the table and the log as little as
    this. -/
def QuietStep (st : TableState) (act : ProgramAct) : Prop :=
  ∀ st', programStep E st act = some st' →
    st'.history = st.history ∧ Quiet (written E st act) st.world st'.world

theorem quiet_deliver (st : TableState) (info : Publish) : QuietStep E st (.deliver info) := by
  intro st' hstep
  have hrun : mqttCallback E (.publish info) st.world =
      .ok () (if st.world.mqtt.appPublishCallback then st.world.deliver E info else st.world) := by
    have hget : mqttCallback E (.publish info) st.world =
        (if st.world.mqtt.appPublishCallback then modify (World.deliver E info)
        else pure () : Program Unit) st.world := rfl
    rw [hget]
    cases st.world.mqtt.appPublishCallback <;> rfl
  rw [programStep, hrun] at hstep
  cases hstep
  refine ⟨rfl, ?_⟩
  unfold written
  cases st.world.mqtt.appPublishCallback with
  | false => exact Quiet.refl st.world
  | true =>
      have hdelivered : Quiet ((responseOf E info).bind Response.acceptedPayload) st.world
          { st.world with responses := provisioningPublishCallback E info st.world.responses } :=
        ⟨rfl, (Adds.refl st.world).entries, deliver_buffer E info st.world.responses⟩
      exact hdelivered.log (fun _ _ _ heq => by cases heq)

theorem quiet_generateRequest (st : TableState) (pDeviceSerialNumber : List UInt8) :
    QuietStep E st (.generateRequest pDeviceSerialNumber) := by
  intro st' hstep
  -- a request that fails half-way has written to the buffer as well
  have hget : generateRequest E pDeviceSerialNumber st.world =
      (match Serializer.generateRegisterThingRequest E.tinyCborEncoder NETWORK_BUFFER_SIZE
          st.world.locals.token (pDeviceSerialNumber.take 32) with
        | .ok request => do
            modify (fun w => { w with
              responses := { w.responses with
                payloadBuffer := w.responses.payloadBuffer.copy 0 request
                payloadLength := request.length } }.log (.generated w.locals.token request))
            return true
        | .error bytes => do
            setResponses (fun r => { r with payloadBuffer := r.payloadBuffer.copy 0 bytes })
            return false : Program Bool) st.world := rfl
  rw [programStep, hget] at hstep
  cases hrequest : Serializer.generateRegisterThingRequest E.tinyCborEncoder NETWORK_BUFFER_SIZE
      st.world.locals.token (pDeviceSerialNumber.take 32) with
  | ok request =>
      have hwritten : written E st (.generateRequest pDeviceSerialNumber) = some request := by
        simp only [written, hrequest]
      rw [hrequest] at hstep
      cases hstep
      rw [hwritten]
      refine ⟨rfl, rfl, ⟨[_], rfl, fun e he => ?_⟩, rfl⟩
      rw [List.mem_singleton.mp he]
      exact fun _ _ _ heq => by cases heq
  | error bytes =>
      have hwritten : written E st (.generateRequest pDeviceSerialNumber) = some bytes := by
        simp only [written, hrequest]
      rw [hrequest] at hstep
      cases hstep
      rw [hwritten]
      exact ⟨rfl, rfl, (Adds.refl st.world).entries, rfl⟩

theorem quiet_disconnect (st : TableState) : QuietStep E st .disconnect := by
  intro st' hstep
  have hkeeps : Keeps (Quiet none st.world) (DisconnectMqttSession E) := by
    refine Keeps.bind (Keeps.bind Keeps.get (fun _ => Keeps.ite (fun _ => Keeps.bind
      (fun w' h => ⟨h.table, h.entries, h.buffer⟩) (fun _ => Keeps.pure _))
        (fun _ => Keeps.pure _)))
      (fun _ => Keeps.bind (Keeps.modify (fun w' h => ?_)) (fun _ => Keeps.pure _))
    exact h.log (fun _ _ _ heq => by cases heq)
  simp only [programStep] at hstep
  cases hrun : DisconnectMqttSession E st.world with
  | ok value w' =>
      rw [hrun] at hstep
      cases hstep
      exact ⟨rfl, hkeeps.ok (Quiet.refl st.world) hrun⟩
  | error halt w' =>
      rw [hrun] at hstep
      cases hstep

end Logs

/-! ### Records and first transmissions -/

/-- What the pointer of a record shows. -/
def Responses.payloadOf (r : Responses) (packet : PublishPackets) : List UInt8 :=
  r.read packet.pubInfo.pPayload packet.pubInfo.payloadLength

/-- Every record is that of the first transmission of its identifier, up to its
    flag, and shows the payload of it. -/
def Firsts (w : World) : Prop :=
  ∀ i < MAX_OUTGOING_PUBLISHES,
    (w.mqtt.outgoingPublishPackets i).packetId ≠ MQTT_PACKET_ID_INVALID → ∃ first,
      firstTransmission w.trace (w.mqtt.outgoingPublishPackets i).packetId =
          some (first, w.responses.payloadOf (w.mqtt.outgoingPublishPackets i)) ∧
        first.flag = (w.mqtt.outgoingPublishPackets i).flag

/-- A step that sends nothing new and leaves the records that remain as they
    were, up to their flags, with their payloads. -/
theorem Firsts.mono {w w' : World} (h : Firsts w) (entries : List Event)
    (htrace : w'.trace = w.trace ++ entries) (hentries : ∀ e ∈ entries, e.first = none)
    (hrecords : ∀ i < MAX_OUTGOING_PUBLISHES,
      (w'.mqtt.outgoingPublishPackets i).packetId ≠ MQTT_PACKET_ID_INVALID →
        (w'.mqtt.outgoingPublishPackets i).flag = (w.mqtt.outgoingPublishPackets i).flag ∧
          w'.responses.payloadOf (w.mqtt.outgoingPublishPackets i) =
            w.responses.payloadOf (w.mqtt.outgoingPublishPackets i)) :
    Firsts w' := by
  intro i hi hid
  rcases hrecords i hi hid with ⟨hflag, hpayload⟩
  have hsame : (w'.mqtt.outgoingPublishPackets i).packetId =
      (w.mqtt.outgoingPublishPackets i).packetId := by
    have h' := congrArg PublishPackets.packetId hflag
    exact h'
  -- the payload of a record does not depend on its flag
  have hshown : w'.responses.payloadOf (w'.mqtt.outgoingPublishPackets i) =
      w'.responses.payloadOf (w.mqtt.outgoingPublishPackets i) := by
    have h' := congrArg w'.responses.payloadOf hflag
    exact h'
  rw [hsame] at hid ⊢
  rw [htrace, firstTransmission_append _ _ _ hentries, hflag, hshown, hpayload]
  exact h i hi hid

/-- The records of the table have the flag off or on, and nothing else of them
    changes with it. -/
theorem flag_of_flagged {packets packets' : Nat → PublishPackets} (h : Flagged packets packets')
    (i : Nat) : (packets' i).flag = (packets i).flag := by
  rcases h i with heq | ⟨-, heq⟩
  · rw [heq]
  · rw [heq]
    rfl

theorem publish_table (E : External) (topic : ApiTopic) (pPayload : Pointer)
    (payloadLength index : Nat) (w : World) :
    (w.publish E topic pPayload payloadLength index).mqtt.outgoingPublishPackets =
      Function.update w.mqtt.outgoingPublishPackets index
        (w.record E topic pPayload payloadLength index) := rfl

/-- A publish without `dup` that is sent. -/
theorem firstTransmission_publish (E : External) {topic : ApiTopic} {pPayload : Pointer}
    {payloadLength index : Nat} {w : World}
    (hdup : (w.record E topic pPayload payloadLength index).pubInfo.dup = false)
    (hstatus : E.MQTT_Publish (w.now + 1) = .MQTTSuccess) (packetId : Nat) :
    firstTransmission (w.publish E topic pPayload payloadLength index).trace packetId =
      if (w.record E topic pPayload payloadLength index).packetId = packetId then
        some (w.record E topic pPayload payloadLength index,
          w.responses.read pPayload payloadLength)
      else firstTransmission w.trace packetId := by
  have htrace : (w.publish E topic pPayload payloadLength index).trace =
      (w.trace ++ [.publishToTopic topic (w.responses.read pPayload payloadLength)]) ++
        [.mqttPublish (w.record E topic pPayload payloadLength index)
          (w.responses.read pPayload payloadLength) (E.MQTT_Publish (w.now + 1))] := rfl
  have hfirst : (Event.mqttPublish (w.record E topic pPayload payloadLength index)
      (w.responses.read pPayload payloadLength) (E.MQTT_Publish (w.now + 1))).first =
      some (w.record E topic pPayload payloadLength index,
        w.responses.read pPayload payloadLength) := if_pos ⟨hdup, hstatus⟩
  rw [htrace, firstTransmission_concat _ packetId hfirst,
    firstTransmission_append _ _ _ (fun e he => (List.mem_singleton.mp he) ▸ rfl)]

/-- An acknowledgement leaves a record as it was, or zero. -/
theorem release_cases (packets : Nat → PublishPackets) (packetId i : Nat) :
    release packets packetId i = packets i ∨ release packets packetId i = .zero := by
  unfold release
  cases (List.range MAX_OUTGOING_PUBLISHES).find?
      (fun index => (packets index).packetId == packetId) with
  | some index =>
      by_cases hi : i = index
      · exact Or.inr (hi ▸ Function.update_self _ _ _)
      · exact Or.inl (Function.update_of_ne hi _ _)
  | none => exact Or.inl rfl

section Runs

variable {E : External}

/-- A publish that is sent becomes the first transmission of its identifier. -/
theorem firsts_publish {st st' : TableState} {topic : ApiTopic} {pPayload : Pointer}
    {payloadLength : Nat}
    (htable' : TableFor st'.world.mqtt.outgoingPublishPackets (outstanding st'.history))
    (hfirsts : Firsts st.world)
    (hnew : NewUnflagged E st (.publishToTopic topic pPayload payloadLength))
    (hstep : tableStep E st (.publishToTopic topic pPayload payloadLength) = some st') :
    Firsts st'.world := by
  have hdup := hnew _ _ _ rfl st' hstep
  rcases tableStep_publish hstep with rfl | ⟨index, hindex, ⟨hstatus, rfl⟩ | ⟨hstatus, rfl⟩⟩
  · exact hfirsts.mono [_] rfl (fun e he => (List.mem_singleton.mp he) ▸ rfl)
      (fun _ _ _ => ⟨rfl, rfl⟩)
  · have hflag : (st.world.record E topic pPayload payloadLength index).pubInfo.dup = false :=
      hdup _ _ _ ((logged_publish _ _ rfl _).mpr (Or.inr rfl))
    intro i hi hid
    simp only [publish_table] at hid ⊢
    rw [firstTransmission_publish E hflag hstatus]
    by_cases hii : i = index
    · rw [hii, Function.update_self]
      exact ⟨_, if_pos rfl, rfl⟩
    · rw [Function.update_of_ne hii] at hid ⊢
      -- the table has the new identifier only once
      have hne : (st.world.record E topic pPayload payloadLength index).packetId ≠
          (st.world.mqtt.outgoingPublishPackets i).packetId := by
        intro heq
        refine hii (htable'.represents.once i index
          (st.world.mqtt.outgoingPublishPackets i).packetId hi (free_index hindex).1 ?_ ?_)
        · simp only [publish_table, Function.update_of_ne hii]
          exact id?_eq_some.mpr ⟨rfl, hid⟩
        · simp only [publish_table, Function.update_self]
          exact id?_eq_some.mpr ⟨heq, hid⟩
      rw [if_neg hne]
      exact hfirsts i hi hid
  · refine hfirsts.mono [_, _] (List.append_assoc ..) (fun e he => ?_)
      (fun i hi hid => ⟨?_, rfl⟩)
    · rcases List.mem_cons.mp he with rfl | he
      · rfl
      · rw [List.mem_singleton.mp he]
        exact if_neg (fun h => hstatus h.2)
    · -- the slot is free again
      have hii : i ≠ index := by
        rintro rfl
        simp only [store_table, Function.update_self] at hid
        exact hid rfl
      simp only [store_table, publish_table, Function.update_of_ne hii]

/-- What is not written over stays to be read. -/
theorem quiet_payload {st st' : TableState} {act : ProgramAct} (hkept : PayloadsKept E st act)
    (hquiet : Quiet (written E st act) st.world st'.world) {i : Nat}
    (hi : i < MAX_OUTGOING_PUBLISHES)
    (hid : (st.world.mqtt.outgoingPublishPackets i).packetId ≠ MQTT_PACKET_ID_INVALID) :
    st'.world.responses.payloadOf (st.world.mqtt.outgoingPublishPackets i) =
      st.world.responses.payloadOf (st.world.mqtt.outgoingPublishPackets i) := by
  unfold Responses.payloadOf Responses.read
  cases hpointer : (st.world.mqtt.outgoingPublishPackets i).pubInfo.pPayload with
  | empty => rfl
  | payloadBuffer =>
      simp only
      rw [hquiet.buffer]
      cases hwritten : written E st act with
      | none => rfl
      | some bytes => exact hkept bytes hwritten i hi hid hpointer

/-- A quiet operation that returns. -/
theorem firsts_quiet {st st' : TableState} {act : ProgramAct} (hquiet : QuietStep E st act)
    (htable : TableFor st.world.mqtt.outgoingPublishPackets (outstanding st.history))
    (hfirsts : Firsts st.world) (hkept : PayloadsKept E st act)
    (hstep : programStep E st act = some st') :
    (TableFor st'.world.mqtt.outgoingPublishPackets (outstanding st'.history) ∧
      Firsts st'.world) ∧ ResendsSame E st act := by
  constructor
  · rcases hquiet st' hstep with ⟨hhistory, hw'⟩
    rcases hw'.entries with ⟨entries, htrace, hall⟩
    constructor
    · rw [hw'.table, hhistory]
      exact htable
    · refine hfirsts.mono _ htrace (fun e he => first_of_noPublish (hall e he))
        (fun i hi hid => ?_)
      rw [hw'.table] at hid ⊢
      exact ⟨rfl, quiet_payload hkept hw' hi hid⟩
  · intro st'' hstep' packet payload status hlogged
    rcases hquiet st'' hstep' with ⟨-, hw'⟩
    rcases hw'.entries with ⟨entries, htrace, hall⟩
    exact absurd rfl (hall _ ((logged_iff htrace _).mp hlogged) packet payload status)

/-- A duplicate is what was sent first. -/
theorem resent_same {w : World} (hfirsts : Firsts w) {packet : PublishPackets}
    {payload : List UInt8} {status : MQTTStatus}
    (hresent : Resent w (.mqttPublish packet payload status)) :
    ∃ first sent, firstTransmission w.trace packet.packetId = some (first, sent) ∧
      packet.pubInfo.topicName = first.pubInfo.topicName ∧ payload = sent ∧
      packet.pubInfo.payloadLength = first.pubInfo.payloadLength := by
  rcases hresent with ⟨i, hi, hid, _, heq⟩
  cases heq
  rcases hfirsts i hi hid with ⟨first, hfirst, hflag⟩
  have hinfo := congrArg PublishPackets.pubInfo hflag
  refine ⟨first, _, hfirst, ?_, rfl, ?_⟩
  · have htopic := congrArg PublishInfo.topicName hinfo
    exact htopic.symm
  · have hlength := congrArg PublishInfo.payloadLength hinfo
    exact hlength.symm

/-- A connect keeps the records, and sends duplicates of them. -/
theorem firsts_establish {st st' : TableState} {clientCert privateKey : Label}
    (hfirsts : Firsts st.world)
    (hstep : tableStep E st (.establish clientCert privateKey) = some st') :
    Firsts st'.world ∧ ∀ packet payload status,
      Logged st st' (.mqttPublish packet payload status) →
        ∃ first sent, firstTransmission st.world.trace packet.packetId = some (first, sent) ∧
          packet.pubInfo.topicName = first.pubInfo.topicName ∧ payload = sent ∧
          packet.pubInfo.payloadLength = first.pubInfo.payloadLength := by
  rcases tableStep_establish hstep with ⟨⟨status, hrun⟩, -⟩
  have hlogged := establish_logged E hrun
  rcases hlogged.entries with ⟨entries, htrace, hall⟩
  have htable := establish_table E hrun
  refine ⟨hfirsts.mono _ htrace (fun e he => ?_) (fun i hi hid => ⟨?_, ?_⟩),
    fun packet payload status hpublish => ?_⟩
  · rcases hall e he with hno | ⟨-, i, hi, hid, status', rfl⟩
    · exact first_of_noPublish hno
    · -- a duplicate is no first transmission
      unfold Event.first
      exact if_neg (fun hdup => Bool.noConfusion hdup.1)
  · cases hsession : sessionOf E clientCert privateKey st.world with
    | none =>
        rw [hsession] at htable
        rw [show st'.world.mqtt.outgoingPublishPackets = _ from htable]
    | some sessionPresent =>
        rw [hsession] at htable
        cases sessionPresent with
        | true => exact flag_of_flagged htable i
        | false =>
            -- the table is empty after a connect without a session
            rw [show st'.world.mqtt.outgoingPublishPackets = _ from htable] at hid
            exact absurd rfl hid
  · rw [hlogged.responses]
  · rcases hall _ ((logged_iff htrace _).mp hpublish) with hno | ⟨-, hresent⟩
    · exact absurd rfl (hno packet payload status)
    · exact resent_same hfirsts hresent

/-- Every operation keeps the records those of the first transmissions, and what
    it sends with `dup` was sent before. -/
theorem firsts_step (hids : ∀ now, E.MQTT_GetPacketId now ≠ MQTT_PACKET_ID_INVALID)
    {st st' : TableState} {act : ProgramAct}
    (htable : TableFor st.world.mqtt.outgoingPublishPackets (outstanding st.history))
    (hfirsts : Firsts st.world) (hrefuses : RefusesInUse E st act)
    (hpayloads : PayloadsKept E st act) (hstep : programStep E st act = some st') :
    (TableFor st'.world.mqtt.outgoingPublishPackets (outstanding st'.history) ∧
      Firsts st'.world) ∧ ResendsSame E st act := by
  cases act with
  | table act =>
      have hkept := fun st'' (hstep' : tableStep E st act = some st'') =>
        tableFor_step hids htable hrefuses hstep'
      cases act with
      | publishToTopic topic pPayload payloadLength =>
          refine ⟨⟨(hkept st' hstep).1,
            firsts_publish (hkept st' hstep).1 hfirsts (hkept st' hstep).2 hstep⟩, ?_⟩
          intro st'' hstep' packet payload status hlogged hdup
          -- a publish that is new is no resend
          have hnew := (hkept st'' hstep').2 _ _ _ rfl st'' hstep' packet payload status hlogged
          rw [hnew] at hdup
          cases hdup
      | puback packetId =>
          -- an acknowledgement takes a slot from the table and sends nothing
          rcases tableStep_puback hstep with ⟨-, hrelease, htrace, hresponses, -⟩
          refine ⟨⟨(hkept st' hstep).1, hfirsts.mono _ htrace
            (fun e he => (List.mem_singleton.mp he) ▸ rfl) (fun i hi hid => ⟨?_, ?_⟩)⟩, ?_⟩
          · rw [hrelease] at hid ⊢
            rcases release_cases st.world.mqtt.outgoingPublishPackets packetId i with heq | heq
            · rw [heq]
            · rw [heq] at hid
              exact absurd rfl hid
          · rw [hresponses]
          · intro st'' hstep' packet payload status hlogged
            have hmem := (logged_iff (tableStep_puback hstep').2.2.1 _).mp hlogged
            cases List.mem_singleton.mp hmem
      | establish clientCert privateKey =>
          exact ⟨⟨(hkept st' hstep).1, (firsts_establish hfirsts hstep).1⟩,
            fun st'' hstep' packet payload status hlogged _ =>
              (firsts_establish hfirsts hstep').2 packet payload status hlogged⟩
  | deliver info => exact firsts_quiet (quiet_deliver E st info) htable hfirsts hpayloads hstep
  | generateRequest pDeviceSerialNumber =>
      exact firsts_quiet (quiet_generateRequest E st pDeviceSerialNumber) htable hfirsts hpayloads
        hstep
  | disconnect => exact firsts_quiet (quiet_disconnect E st) htable hfirsts hpayloads hstep

/-- From a table of zeros, with what coreMQTT promises about identifiers: while
    no response and no request is written over the payload of a stored publish,
    every duplicate is what was sent first. -/
theorem resends_same (hids : ∀ now, E.MQTT_GetPacketId now ≠ MQTT_PACKET_ID_INVALID) (w : World)
    (hzero : ∀ i < MAX_OUTGOING_PUBLISHES, w.mqtt.outgoingPublishPackets i = .zero)
    (acts : List ProgramAct) (st : TableState) (hrun : (programRun E w).run acts = some st)
    (hrefuses : (programRun E w).Guarded (RefusesInUse E) acts)
    (hkept : (programRun E w).Guarded (PayloadsKept E) acts) :
    (programRun E w).Guarded (ResendsSame E) acts := by
  have hboth : (programRun E w).Guarded
      (fun st act => RefusesInUse E st act ∧ PayloadsKept E st act) acts :=
    System.guarded_and hrefuses hkept
  have hstart : TableFor w.mqtt.outgoingPublishPackets (outstanding []) ∧ Firsts w := by
    refine ⟨TableFor.empty.congr hzero, fun i hi hid => ?_⟩
    rw [hzero i hi] at hid
    exact absurd rfl hid
  exact ((programRun E w).guarded_of_guarded
    (Q := fun st => TableFor st.world.mqtt.outgoingPublishPackets (outstanding st.history) ∧
      Firsts st.world) hstart
    (fun st act st' _ hq hguard hstep => firsts_step hids hq.1 hq.2 hguard.1 hguard.2 hstep)
    acts st hrun hboth).2

/-- The steps that write to the payload buffer are quiet. -/
theorem quiet_of_written {st : TableState} {act : ProgramAct} {bytes : List UInt8}
    (h : written E st act = some bytes) : QuietStep E st act := by
  cases act with
  | table act => cases h
  | deliver info => exact quiet_deliver E st info
  | generateRequest pDeviceSerialNumber => exact quiet_generateRequest E st pDeviceSerialNumber
  | disconnect => cases h

/-- A payload that was not kept is sent as a duplicate, if the next connect
    finds the session and its publishes succeed. -/
theorem overwritten_resent (hsucceeds : ∀ now, E.MQTT_Publish now = .MQTTSuccess)
    {st st' st'' : TableState} {act : ProgramAct} {clientCert privateKey : Label}
    (hfirsts : Firsts st.world) (hover : ¬ PayloadsKept E st act)
    (hstep : programStep E st act = some st')
    (hsession : sessionOf E clientCert privateKey st'.world = some true)
    (hconnect : programStep E st' (.table (.establish clientCert privateKey)) = some st'') :
    ¬ ResendsSame E st' (.table (.establish clientCert privateKey)) := by
  simp only [PayloadsKept, not_forall] at hover
  rcases hover with ⟨bytes, hwritten, i, hi, hid, hpointer, hother⟩
  rcases quiet_of_written hwritten st' hstep with ⟨-, hw'⟩
  rcases hw'.entries with ⟨entries, htrace, hall⟩
  rcases hfirsts i hi hid with ⟨first, hfirst, -⟩
  rcases tableStep_establish hconnect with ⟨⟨status, hrun⟩, -⟩
  rcases establish_resends E hrun hsession with ⟨w1, hresend, htable, hadds⟩
  rcases hadds.entries with ⟨before, hbefore, -⟩
  have hsame : w1.mqtt.outgoingPublishPackets i = st.world.mqtt.outgoingPublishPackets i :=
    congrFun (htable.trans hw'.table) i
  rcases resend_sends E hsucceeds (fun j hj => List.mem_range.mp hj) (List.mem_range.mpr hi)
    (hsame ▸ hid) hresend with ⟨sent, hsent, hmem⟩
  rw [hsame, hadds.responses] at hmem
  intro hresends
  have hlog : st''.world.trace = st'.world.trace ++ (before ++ sent) := by
    rw [hsent, hbefore, List.append_assoc]
  rcases hresends st'' hconnect _ _ _
    ((logged_iff hlog _).mpr (List.mem_append_right before hmem)) rfl with
    ⟨first', payload, hfirst', -, hpayload, -⟩
  -- the first transmission is still the one before the write
  have hkeptFirst := firstTransmission_append st.world.trace entries
    (st.world.mqtt.outgoingPublishPackets i).packetId
    (fun e he => first_of_noPublish (hall e he))
  rw [← htrace, hfirst] at hkeptFirst
  have heq := hkeptFirst.symm.trans hfirst'
  have hpayload' := congrArg Prod.snd (Option.some.inj heq)
  apply hother
  have hbuffer := hw'.buffer
  rw [Option.mem_def.mp hwritten] at hbuffer
  simp only [hpointer, Responses.payloadOf, Responses.read, hbuffer] at hpayload hpayload'
  rw [hpayload, hpayload']

/-- A connect sends nothing without `dup`. -/
theorem refuses_establish (st : TableState) (clientCert privateKey : Label) :
    RefusesOutstanding E st (.establish clientCert privateKey) := by
  intro st' hstep packet payload status hlogged hdup
  rcases tableStep_establish hstep with ⟨⟨status', hrun⟩, -⟩
  rcases (establish_logged E hrun).entries with ⟨entries, htrace, hall⟩
  rcases hall _ ((logged_iff htrace _).mp hlogged) with hno | ⟨-, i, -, -, status'', heq⟩
  · exact absurd rfl (hno packet payload status)
  · cases heq
    cases hdup

end Runs

/-- The session is there again on every connect. -/
def resumedSession : External :=
  { External.reliable [0] [] with MQTT_Connect := fun _ => (.MQTTSuccess, true) }

/-- The session is resumed with the new certificate. -/
def resume : ProgramAct :=
  .table (.establish .DEVICE_CERTIFICATE_FOR_TLS .DEVICE_PRIVATE_KEY_FOR_TLS)

/-- A request is published and not acknowledged, and built once more before the
    session is resumed. -/
def resentRequest : List ProgramAct :=
  [.table (.establish .CLAIM_CERTIFICATE .CLAIM_PRIVATE_KEY), .generateRequest [83],
    .table (.publishToTopic .FP_CBOR_REGISTER_PUBLISH_TOPIC .payloadBuffer 121),
    .generateRequest [83], .disconnect, resume]

/-- The duplicate has the 121 bytes of the request. -/
theorem resends_same_request :
    ∃ st, (programRun resumedSession World.initial).run resentRequest = some st ∧
      .mqttPublish ⟨1, ⟨1, true, some .FP_CBOR_REGISTER_PUBLISH_TOPIC, .payloadBuffer, 121⟩⟩
        (st.world.responses.read .payloadBuffer 121) .MQTTSuccess ∈ st.world.trace ∧
      (programRun resumedSession World.initial).Guarded (ResendsSame resumedSession)
        resentRequest := by
  have hsome : ((programRun resumedSession World.initial).run resentRequest).any (fun st =>
      Event.mqttPublish ⟨1, ⟨1, true, some .FP_CBOR_REGISTER_PUBLISH_TOPIC, .payloadBuffer, 121⟩⟩
        (st.world.responses.read .payloadBuffer 121) .MQTTSuccess ∈ st.world.trace) = true := by
    decide +kernel
  cases hst : (programRun resumedSession World.initial).run resentRequest with
  | none =>
      rw [hst] at hsome
      cases hsome
  | some st =>
      rw [hst, Option.any_some, decide_eq_true_eq] at hsome
      refine ⟨st, rfl, hsome, resends_same (fun _ h => by cases h) World.initial
        (fun _ _ => rfl) resentRequest st hst ?_ (by decide +kernel)⟩
      -- only the publish sends anything without `dup`, and nothing is outstanding then
      refine ⟨refuses_establish _ _ _, fun s hs => ⟨trivial, fun s' hs' => ⟨?_, fun _ _ => ⟨trivial,
        fun _ _ => ⟨trivial, fun _ _ => ⟨refuses_establish _ _ _, fun _ _ => trivial⟩⟩⟩⟩⟩⟩
      refine refuses_of_empty ?_ _
      rcases Option.map_eq_some_iff.mp hs' with ⟨w', -, rfl⟩
      obtain rfl := Option.some.inj hs
      rfl

/-- A request is published, and its response arrives before its
    acknowledgement. -/
def answeredRequest : List ProgramAct :=
  [.table (.establish .CLAIM_CERTIFICATE .CLAIM_PRIVATE_KEY), .generateRequest [83],
    .table (.publishToTopic .FP_CBOR_REGISTER_PUBLISH_TOPIC .payloadBuffer 121),
    .deliver ⟨ascii "$aws/provisioning-templates/T/provision/cbor/accepted", [160]⟩,
    .disconnect]

/-- The state in which it is resumed. -/
def answeredState : TableState :=
  ((programRun resumedSession World.initial).run answeredRequest).getD ⟨World.initial, []⟩

/-- The duplicate of the request begins with the response to it. -/
theorem resends_overwritten :
    (programRun resumedSession World.initial).run answeredRequest = some answeredState ∧
      (programRun resumedSession World.initial).Guarded (RefusesInUse resumedSession)
        (answeredRequest ++ [resume]) ∧
      ¬ (programRun resumedSession World.initial).Guarded (ResendsSame resumedSession)
        (answeredRequest ++ [resume]) := by
  have hrun : (programRun resumedSession World.initial).run answeredRequest =
      some answeredState := by
    have hsome : ((programRun resumedSession World.initial).run answeredRequest).isSome = true := by
      decide +kernel
    unfold answeredState
    rcases Option.isSome_iff_exists.mp hsome with ⟨st, hst⟩
    rw [hst, Option.getD_some]
  refine ⟨hrun, ?_, fun hsame => ?_⟩
  · refine ⟨refuses_establish _ _ _, fun s hs => ⟨trivial, fun s' hs' => ⟨?_, fun _ _ => ⟨trivial,
      fun _ _ => ⟨trivial, fun _ _ => ⟨refuses_establish _ _ _, fun _ _ => trivial⟩⟩⟩⟩⟩⟩
    refine refuses_of_empty ?_ _
    rcases Option.map_eq_some_iff.mp hs' with ⟨w', -, rfl⟩
    obtain rfl := Option.some.inj hs
    rfl
  · have hlast := (System.guarded_concat _ hrun).mp hsame
    -- the duplicate has the bytes of the response, the first transmission has not
    have hresent : (programStep resumedSession answeredState resume).any (fun st' =>
        Event.mqttPublish ⟨1, ⟨1, true, some .FP_CBOR_REGISTER_PUBLISH_TOPIC, .payloadBuffer, 121⟩⟩
          (answeredState.world.responses.read .payloadBuffer 121) .MQTTSuccess ∈
            st'.world.trace.drop answeredState.world.trace.length) = true := by
      decide +kernel
    have hfirst : (firstTransmission answeredState.world.trace 1).all (fun f =>
        f.2 != answeredState.world.responses.read .payloadBuffer 121) = true := by
      decide +kernel
    cases hstep : programStep resumedSession answeredState resume with
    | none =>
        rw [hstep] at hresent
        cases hresent
    | some st' =>
        rw [hstep, Option.any_some, decide_eq_true_eq] at hresent
        rcases hlast.2 st' hstep _ _ _ hresent rfl with ⟨first, sent, hsent, -, hpayload, -⟩
        simp only at hsent
        rw [hsent, hpayload, Option.all_some, bne_self_eq_false] at hfirst
        cases hfirst

end FleetProvisioning

end ProvisioningSdk
