import ProvisioningSdk.Provisioning.CallInvariants
import ProvisioningSdk.Provisioning.Resends

/-!
# The Protocol of the Workflow

The order in which `ProvisionDevicePKCS11WithFP` does things, as an automaton
that reads its log.

The automaton knows the connection and how far the workflow is. Everything the
workflow asks for has its place in one fixed list (`script`), and is allowed
there only, and over a connection that was made with the claim credentials.
Packets come and go over any connection, and a connection is only made where
there is none. That the log of every run is accepted, whether the run returns or
stops, says at once that nothing is sent without a connection, nothing is asked
for over the one with the device credentials, no request is published before
both of its response topics were subscribed to, and nothing is done twice, in one
iteration or in two.

The list is that of the steps, one after the other (`script_eq`). So it is
enough to know what each step does at its place, and the rest is an induction on
the steps (`steps_at`).

## Main definitions

* `Action`, `script`: What is done over the connection, and in which order.
* `Stage`, `protocol`: The automaton.
* `At`: Where the log has led the automaton.

## Theorems

* `step_at`: A step at its place.
* `steps_at`: Steps one after the other.
* `iteration_protocol`: An iteration.
* `workflow_protocol`: The log of every run is accepted.
-/

namespace ProvisioningSdk

namespace FleetProvisioning

open Effect Transition
open Serializer (parseKeyCertResponse parseRegisterThingResponse generateRegisterThingRequest)

/-! ### The automaton -/

/-- What the workflow does over its connection. -/
inductive Action
  | subscribe (filter : ApiTopic)
  | unsubscribe (filter : ApiTopic)
  | publish (topic : ApiTopic)
  | wait (api : Api)
  | parse (api : Api)
  | storeKey
  | storeCertificate
  | generate
  deriving DecidableEq, Repr

/-- The order in which it does so. -/
def script : List Action :=
  [.subscribe .FP_CBOR_CREATE_KEYS_ACCEPTED_TOPIC, .subscribe .FP_CBOR_CREATE_KEYS_REJECTED_TOPIC,
    .publish .FP_CBOR_CREATE_KEYS_PUBLISH_TOPIC, .wait .createKeysAndCert,
    .parse .createKeysAndCert, .storeKey, .storeCertificate,
    .unsubscribe .FP_CBOR_CREATE_KEYS_ACCEPTED_TOPIC,
    .unsubscribe .FP_CBOR_CREATE_KEYS_REJECTED_TOPIC, .generate,
    .subscribe .FP_CBOR_REGISTER_ACCEPTED_TOPIC, .subscribe .FP_CBOR_REGISTER_REJECTED_TOPIC,
    .publish .FP_CBOR_REGISTER_PUBLISH_TOPIC, .wait .registerThing, .parse .registerThing,
    .unsubscribe .FP_CBOR_REGISTER_ACCEPTED_TOPIC, .unsubscribe .FP_CBOR_REGISTER_REJECTED_TOPIC]

/-- The credentials of the connection, if there is one, and how many actions
    were done. -/
structure Stage where
  session : Option (Label × Label)
  done : Nat
  deriving DecidableEq, Repr

/-- The connection the actions need. -/
def claimSession : Option (Label × Label) := some (.CLAIM_CERTIFICATE, .CLAIM_PRIVATE_KEY)

/-- An action, at its place only. -/
def Stage.act (st : Stage) (a : Action) : Option Stage :=
  if st.session = claimSession ∧ script[st.done]? = some a then
    some { st with done := st.done + 1 }
  else none

/-- An entry of the log. -/
def Stage.step (st : Stage) : Event → Option Stage
  | .tlsConnect clientCert privateKey connected =>
      if st.session = none then
        some { st with session := if connected then some (clientCert, privateKey) else none }
      else none
  | .tlsDisconnect => some { st with session := none }
  -- packets need a connection, and it does not matter which
  | .mqttPublish _ _ _ => if st.session = none then none else some st
  | .received _ => if st.session = none then none else some st
  | .delivered _ => if st.session = none then none else some st
  | .mqttSubscribe filter _ => st.act (.subscribe filter)
  | .mqttUnsubscribe filter _ => st.act (.unsubscribe filter)
  | .publishToTopic topic _ => st.act (.publish topic)
  | .waits api => st.act (.wait api)
  | .waited _ _ => some st
  | .parses api _ => st.act (.parse api)
  | .created ⟨.CKO_PRIVATE_KEY, .DEVICE_PRIVATE_KEY_FOR_TLS, _⟩ => st.act .storeKey
  | .created ⟨.CKO_CERTIFICATE, .DEVICE_CERTIFICATE_FOR_TLS, _⟩ => st.act .storeCertificate
  | .created _ => none
  -- objects are destroyed right before the certificate is stored
  | .destroyed _ => if (st.act .storeCertificate).isSome then some st else none
  | .generated _ _ => st.act .generate
  -- what an iteration did is not done again by the next
  | .iteration => some st
  | .step _ _ => some st

/-- The protocol, from a state without a connection. -/
def protocol : System Stage Event where
  init := ⟨none, 0⟩
  step := Stage.step

/-- The actions of a step. -/
def Step.actions : Step → List Action
  | .establishWithClaim | .establishWithDevice => []
  | .subscribeToKeysCert =>
      [.subscribe .FP_CBOR_CREATE_KEYS_ACCEPTED_TOPIC,
        .subscribe .FP_CBOR_CREATE_KEYS_REJECTED_TOPIC]
  | .publishKeysCert => [.publish .FP_CBOR_CREATE_KEYS_PUBLISH_TOPIC]
  | .waitForKeysCert => [.wait .createKeysAndCert]
  | .parseKeysCert => [.parse .createKeysAndCert]
  | .loadPrivateKey => [.storeKey]
  | .loadCertificate => [.storeCertificate]
  | .unsubscribeFromKeysCert =>
      [.unsubscribe .FP_CBOR_CREATE_KEYS_ACCEPTED_TOPIC,
        .unsubscribe .FP_CBOR_CREATE_KEYS_REJECTED_TOPIC]
  | .generateRequest => [.generate]
  | .subscribeToRegisterThing =>
      [.subscribe .FP_CBOR_REGISTER_ACCEPTED_TOPIC, .subscribe .FP_CBOR_REGISTER_REJECTED_TOPIC]
  | .publishRegisterThing => [.publish .FP_CBOR_REGISTER_PUBLISH_TOPIC]
  | .waitForRegisterThing => [.wait .registerThing]
  | .parseRegisterThing => [.parse .registerThing]
  | .unsubscribeFromRegisterThing =>
      [.unsubscribe .FP_CBOR_REGISTER_ACCEPTED_TOPIC,
        .unsubscribe .FP_CBOR_REGISTER_REJECTED_TOPIC]

/-- The order is that of the steps. -/
theorem script_eq : script = claimSteps.flatMap Step.actions := rfl

/-- An action that comes next. -/
theorem act_of_drop {k : Nat} {a : Action} {rest : List Action} (h : script.drop k = a :: rest) :
    (⟨claimSession, k⟩ : Stage).act a = some ⟨claimSession, k + 1⟩ ∧
      script.drop (k + 1) = rest := by
  constructor
  · have hget : script[k]? = some a := by
      rw [← Nat.add_zero k, ← List.getElem?_drop, h]
      rfl
    unfold Stage.act
    rw [if_pos ⟨rfl, hget⟩]
  · rw [← List.drop_drop, h]
    rfl

/-! ### Where the log has led -/

/-- The automaton is here after the log, and this is the flag of the workflow. -/
def At (session : Option (Label × Label)) (done : Nat) (established : Bool) (w : World) : Prop :=
  protocol.run w.trace = some ⟨session, done⟩ ∧ w.locals.connectionEstablished = established

/-- The log is accepted. -/
def Conforms (w : World) : Prop := ∃ st, protocol.run w.trace = some st

variable {session session' : Option (Label × Label)} {done done' k : Nat}
  {established : Bool} {w : World}

theorem At.conforms (h : At session done established w) : Conforms w := ⟨_, h.1⟩

/-- One entry more. -/
theorem At.log (h : At session done established w) {e : Event}
    (he : (⟨session, done⟩ : Stage).step e = some ⟨session', done'⟩) :
    At session' done' established (w.log e) :=
  ⟨(protocol.run_concat _ _ _).mpr ⟨_, h.1, he⟩, h.2⟩

/-- An entry that is always accepted. -/
theorem Conforms.log (h : Conforms w) {e : Event} (he : ∀ st : Stage, ∃ st', st.step e = some st') :
    Conforms (w.log e) := by
  rcases h with ⟨st, hrun⟩
  rcases he st with ⟨st', hstep⟩
  exact ⟨st', (protocol.run_concat _ _ _).mpr ⟨st, hrun, hstep⟩⟩

section Packets

variable (E : External)

/-- An invariant that packets do not break. -/
structure StablePackets (I : World → Prop) : Prop where
  now : ∀ w n, I w → I { w with now := n }
  mqtt : ∀ w m, I w → I { w with mqtt := m }
  received : ∀ w packet, I w → I (w.log (.received packet))
  deliver : ∀ w info, I w → I (w.deliver E info)

namespace StablePackets

variable {E} {I : World → Prop} (h : StablePackets E I)

include h

theorem ask {α : Type} (outcome : Nat → α) : Keeps I (ask outcome) :=
  fun w hw => h.now w (w.now + 1) hw

theorem setMqtt (f : Mqtt → Mqtt) : Keeps I (setMqtt f) :=
  Keeps.modify (fun w hw => h.mqtt w (f w.mqtt) hw)

theorem logReceived (packet : Packet) : Keeps I (log (.received packet)) :=
  Keeps.modify (fun w hw => h.received w packet hw)

theorem cleanupOutgoingPublishWithPacketID (packetId : Nat) :
    Keeps I (cleanupOutgoingPublishWithPacketID packetId) := by
  refine Keeps.bind (StableTraffic.assert _) (fun _ => Keeps.bind Keeps.get (fun w => ?_))
  cases (List.range MAX_OUTGOING_PUBLISHES).find?
      (fun index => (w.mqtt.outgoingPublishPackets index).packetId == packetId) with
  | none => exact Keeps.pure _
  | some index => exact Keeps.bind (StableTraffic.assert _) (fun _ => h.setMqtt _)

theorem mqttCallback (packet : Packet) : Keeps I (mqttCallback E packet) := by
  cases packet with
  | publish info =>
      exact Keeps.bind Keeps.get (fun _ => Keeps.ite
        (fun _ => Keeps.modify (fun w hw => h.deliver w info hw)) (fun _ => Keeps.pure _))
  | suback packetIdentifier =>
      exact Keeps.bind (h.logReceived _) (fun _ => Keeps.bind Keeps.get (fun _ =>
        Keeps.bind (StableTraffic.assert _) (fun _ => h.setMqtt _)))
  | unsuback packetIdentifier =>
      exact Keeps.bind (h.logReceived _) (fun _ => Keeps.bind Keeps.get (fun _ =>
        Keeps.bind (StableTraffic.assert _) (fun _ => h.setMqtt _)))
  | pingresp => exact h.logReceived _
  | puback packetIdentifier =>
      exact Keeps.bind (h.logReceived _) (fun _ => Keeps.bind (h.setMqtt _) (fun _ =>
        h.cleanupOutgoingPublishWithPacketID _))
  | other type => exact h.logReceived _

theorem processLoops (done : Mqtt → Bool) (timeoutTime : Nat) (rounds : List Round)
    (currentTime : Nat) (status : MQTTStatus) :
    Keeps I (processLoops E done timeoutTime rounds currentTime status) := by
  induction rounds generalizing currentTime status with
  | nil =>
      exact Keeps.bind Keeps.get (fun _ =>
        Keeps.ite (fun _ => Keeps.throw _) (fun _ => Keeps.pure _))
  | cons round rounds ih =>
      exact Keeps.bind Keeps.get (fun _ => Keeps.ite
        (fun _ => Keeps.bind (Keeps.forM h.mqttCallback _) (fun _ => ih _ _))
        (fun _ => Keeps.pure _))

theorem waitForPacketAck (usPacketIdentifier ulTimeout : Nat) :
    Keeps I (waitForPacketAck E usPacketIdentifier ulTimeout) :=
  Keeps.bind (h.setMqtt _) (fun _ => Keeps.bind (h.ask _) (fun _ => Keeps.bind (h.ask _) (fun _ =>
    Keeps.bind (h.processLoops _ _ _ _ _) (fun _ => Keeps.bind Keeps.get (fun _ => Keeps.pure _)))))

theorem ProcessLoopWithTimeout : Keeps I (ProcessLoopWithTimeout E) :=
  Keeps.bind (h.ask _) (fun _ => Keeps.bind (h.ask _) (fun _ =>
    Keeps.bind (h.processLoops _ _ _ _ _) (fun _ => Keeps.pure _)))

end StablePackets

/-- Packets leave the automaton where it is, over any connection. -/
theorem at_packets (hsession : session ≠ none) :
    StablePackets E (At session done established) where
  now := fun _ _ h => h
  mqtt := fun _ _ h => h
  received := fun _ _ h => h.log (if_neg hsession)
  deliver := fun _ info h => h.log (e := .delivered info) (if_neg hsession)

end Packets

section Steps

variable {E : External}

/-! ### Requests -/

/-- The automaton is at this place, and the connection is there. -/
def Placed (done : Nat) : World → Prop := At claimSession done true

theorem at_claim : StablePackets E (Placed done) := at_packets E (Option.some_ne_none _)

/-- What is done at its place leads to the next one. -/
theorem Placed.act {a : Action} {rest : List Action} (h : Placed k w)
    (hscript : script.drop k = a :: rest) {e : Event}
    (he : ∀ st : Stage, st.step e = st.act a) : Placed (k + 1) (w.log e) :=
  At.log h ((he _).trans (act_of_drop hscript).1)

theorem subscribe_at {filter : ApiTopic} {rest : List Action}
    (hscript : script.drop k = .subscribe filter :: rest) :
    Triple (Placed k) (SubscribeToTopic E filter) (fun _ => Placed (k + 1)) (Placed (k + 1)) := by
  intro w h
  rw [subscribeToTopic_eq]
  -- the request is made, and the rest is packets
  have hmade : Placed (k + 1) (w.subscribing E filter) := Placed.act (w := { w with
    mqtt := { w.mqtt with globalSubscribePacketIdentifier := E.MQTT_GetPacketId w.now }
    now := w.now + 2 }) h hscript (fun _ => rfl)
  exact Triple.ite (fun _ => Keeps.pure _)
    (fun _ => at_claim.waitForPacketAck _ _) _ hmade

theorem unsubscribe_at {filter : ApiTopic} {rest : List Action}
    (hscript : script.drop k = .unsubscribe filter :: rest) :
    Triple (Placed k) (UnsubscribeFromTopic E filter) (fun _ => Placed (k + 1))
      (Placed (k + 1)) := by
  intro w h
  rw [unsubscribeFromTopic_eq]
  have hmade : Placed (k + 1) (w.unsubscribing E filter) := Placed.act (w := { w with
    mqtt := { w.mqtt with globalUnsubscribePacketIdentifier := E.MQTT_GetPacketId w.now }
    now := w.now + 2 }) h hscript (fun _ => rfl)
  exact Triple.ite (fun _ => Keeps.pure _)
    (fun _ => at_claim.waitForPacketAck _ _) _ hmade

theorem publish_at {topic : ApiTopic} {rest : List Action} (pPayload : Pointer)
    (payloadLength : Nat) (hscript : script.drop k = .publish topic :: rest) :
    Triple (Placed k) (PublishToTopic E topic pPayload payloadLength) (fun _ => Placed (k + 1))
      (Placed (k + 1)) := by
  intro w h
  have hmade : Placed (k + 1) (w.publishing topic pPayload payloadLength) :=
    h.act hscript (fun _ => rfl)
  cases hfree : getNextFreeIndexForOutgoingPublishes w.mqtt.outgoingPublishPackets with
  | none =>
      rw [publishToTopic_full E hfree]
      exact hmade
  | some index =>
      -- what is sent is an entry more
      have hsent : Placed (k + 1) (w.publish E topic pPayload payloadLength index) :=
        At.log (w := w.stored E topic pPayload payloadLength index) hmade rfl
      rw [publishToTopic_free E hfree]
      split_ifs
      · exact hsent
      · exact hsent

theorem Placed.conforms (h : Placed k w) : Conforms w := ⟨_, h.1⟩

/-- Two requests, the second only if the first worked. -/
theorem both_at {first second : Program Bool}
    (hfirst : Triple (Placed k) first (fun _ => Placed (k + 1)) (Placed (k + 1)))
    (hsecond : Triple (Placed (k + 1)) second (fun _ => Placed (k + 2)) (Placed (k + 2))) :
    Triple (Placed k) (first >>= fun status => if status = true then second else pure false)
      (Gate (Placed (k + 2)) (fun w => Placed (k + 1) w ∨ Placed (k + 2) w)) Conforms := by
  refine Triple.bind (hfirst.consequence (fun _ h => h) (fun _ _ h => h)
    (fun _ h => h.conforms)) (fun status => ?_)
  refine Triple.ite (fun _ => hsecond.consequence (fun _ h => h) ?_ (fun _ h => h.conforms))
    (fun _ => Triple.pure (fun _ h => Or.inl h))
  intro status' w h
  cases status' with
  | false => exact Or.inr h
  | true => exact h

theorem subscribeToBoth_at {accepted rejected : ApiTopic} {rest : List Action}
    (hscript : script.drop k = .subscribe accepted :: .subscribe rejected :: rest) :
    Triple (Placed k) (subscribeToBoth E accepted rejected)
      (Gate (Placed (k + 2)) (fun w => Placed (k + 1) w ∨ Placed (k + 2) w)) Conforms :=
  both_at (subscribe_at hscript) (subscribe_at (act_of_drop hscript).2)

theorem unsubscribeFromBoth_at {accepted rejected : ApiTopic} {rest : List Action}
    (hscript : script.drop k = .unsubscribe accepted :: .unsubscribe rejected :: rest) :
    Triple (Placed k) (unsubscribeFromBoth E accepted rejected)
      (Gate (Placed (k + 2)) (fun w => Placed (k + 1) w ∨ Placed (k + 2) w)) Conforms :=
  both_at (unsubscribe_at hscript) (unsubscribe_at (act_of_drop hscript).2)

/-! ### The other steps -/

theorem wait_at {api : Api} {rest : List Action} (hscript : script.drop k = .wait api :: rest) :
    Triple (Placed k) (waitForResponse E api) (fun _ => Placed (k + 1)) (Placed (k + 1)) := by
  refine Triple.bind (Triple.modify (R := Placed (k + 1)) ?_) (fun _ =>
    Keeps.bind at_claim.ProcessLoopWithTimeout (fun _ => Keeps.bind Keeps.get (fun _ =>
      Keeps.bind (Keeps.modify (fun w h => At.log h rfl)) (fun _ => Keeps.pure _))))
  intro w h
  exact Placed.act (w := { w with responses := { w.responses with
    responseStatus := .ResponseNotReceived } }) h hscript (fun _ => rfl)

theorem parseKeysCert_at {rest : List Action}
    (hscript : script.drop k = .parse .createKeysAndCert :: rest) :
    Triple (Placed k) (parseKeysCert E) (fun _ => Placed (k + 1)) (Placed (k + 1)) :=
  StableCalls.parseKeysCert (fun _ h => h.act hscript (fun _ => rfl)) (fun _ _ h => h)

theorem placed_responses (w : World) (r : Responses) (h : Placed k w) :
    Placed k { w with responses := r } := h

theorem parseRegisterThing_at {rest : List Action}
    (hscript : script.drop k = .parse .registerThing :: rest) :
    Triple (Placed k) (parseRegisterThing E) (fun _ => Placed (k + 1)) (Placed (k + 1)) := by
  refine Triple.get_bind (fun w h => ?_)
  exact Triple.bind (P := fun w' => w' = w)
    (Triple.modify (R := Placed (k + 1)) (fun w' h' => (h' ▸ h : Placed k w').act
      (e := .parses .registerThing w.responses.payload) hscript (fun _ => rfl)))
    (fun _ => Keeps.bind (StableCalls.liftFault _) (fun _ => Keeps.bind
      (Keeps.modify (fun w' h' => placed_responses w' _ h')) (fun _ => Keeps.pure _))) w rfl

theorem saveKey_at {rest : List Action} (hscript : script.drop k = .storeKey :: rest) :
    Triple (Placed k) (saveKey E) (Gate (Placed (k + 1)) Conforms) Conforms := by
  refine Triple.get_bind (fun w h => ?_)
  refine (provisionPrivateKey_spec w _ _).apply (Asked.refl w) ?_ (fun _ h => h)
  rintro status w' (⟨rfl, n, rfl⟩ | ⟨key, -, rfl, n, rfl⟩)
  · exact At.conforms (w := { w with now := n }) h
  · have hstored : Placed k { w with
        token := w.token.create E.replaces ⟨.CKO_PRIVATE_KEY, .DEVICE_PRIVATE_KEY_FOR_TLS, key⟩ } :=
      h
    exact hstored.act hscript (fun _ => rfl)

/-- Objects may be destroyed before a certificate is stored. -/
theorem destroyed_at {rest : List Action} (hscript : script.drop k = .storeCertificate :: rest)
    (h : Placed k w) (handles : List Nat) : Placed k (w.destroyAll handles) := by
  induction handles using List.reverseRecOn with
  | nil => exact h
  | append_singleton handles handle ih =>
      rw [destroyAll_concat]
      refine At.log (w := { w.destroyAll handles with
        token := (w.destroyAll handles).token.destroy handle }) ih ?_
      simp only [Stage.step, (act_of_drop hscript).1, Option.isSome_some, if_true]

theorem saveCertificate_at {rest : List Action}
    (hscript : script.drop k = .storeCertificate :: rest) :
    Triple (Placed k) (saveCertificate E) (Gate (Placed (k + 1)) Conforms) Conforms := by
  refine Triple.get_bind (fun w h => ?_)
  have hdestroyed : ∀ w', Destroyed .DEVICE_CERTIFICATE_FOR_TLS .CKO_CERTIFICATE w w' →
      Placed k w' := by
    rintro w' ⟨handles, ⟨n, rfl⟩, -⟩
    exact destroyed_at hscript h handles
  refine (provisionCertificate_spec w _ _).apply (Asked.refl w) ?_
    (fun w' hw' => (hdestroyed w' hw').conforms)
  rintro status w' (⟨rfl, hd⟩ | ⟨der, w1, -, rfl, hd, n, rfl⟩)
  · exact (hdestroyed w' hd).conforms
  · have hstored : Placed k { w1 with
        token := w1.token.create E.replaces
          ⟨.CKO_CERTIFICATE, .DEVICE_CERTIFICATE_FOR_TLS, .certificate der⟩ } := hdestroyed w1 hd
    exact hstored.act hscript (fun _ => rfl)

theorem generateRequest_at {rest : List Action} (pDeviceSerialNumber : List UInt8)
    (hscript : script.drop k = .generate :: rest) :
    Triple (Placed k) (generateRequest E pDeviceSerialNumber) (Gate (Placed (k + 1)) Conforms)
      Conforms := by
  refine Triple.get_bind (fun w h => ?_)
  cases generateRegisterThingRequest E.tinyCborEncoder NETWORK_BUFFER_SIZE w.locals.token
      (pDeviceSerialNumber.take 32) with
  | ok request =>
      exact Placed.act (w := { w with responses := { w.responses with
        payloadBuffer := w.responses.payloadBuffer.copy 0 request
        payloadLength := request.length } }) h hscript (fun _ => rfl)
  | error written => exact At.conforms h

/-! ### Steps one after the other -/

variable (pDeviceSerialNumber : List UInt8)

/-- A status that is false says no more than that the log is accepted. -/
theorem gate_conforms {m : Program Bool} {P R F S : World → Prop} (h : Triple P m (Gate R F) S)
    (hF : ∀ w, F w → Conforms w) (hS : ∀ w, S w → Conforms w) :
    Triple P m (Gate R Conforms) Conforms := by
  refine h.consequence (fun _ h => h) ?_ hS
  intro status w h
  cases status with
  | false => exact hF w h
  | true => exact h

theorem gate_placed {m : Program Bool} {P : World → Prop}
    (h : Triple P m (fun _ => Placed k) (Placed k)) :
    Triple P m (Gate (Placed k) Conforms) Conforms := by
  have hself : (fun _ : Bool => Placed k) = Gate (Placed k) (Placed k) :=
    funext (fun status => (gate_self (Placed k) status).symm)
  rw [hself] at h
  exact gate_conforms h (fun _ h => h.conforms) (fun _ h => h.conforms)

/-- A step leads past its actions if it returns true. -/
theorem step_at {s : Step} (hs : s.establishes = false)
    (hlast : s ≠ .unsubscribeFromRegisterThing) {rest : List Action}
    (hscript : script.drop k = s.actions ++ rest) :
    Triple (Placed k) (workflowStep E pDeviceSerialNumber s)
      (Gate (Placed (k + s.actions.length)) Conforms) Conforms := by
  have hboth : ∀ {k w}, Placed (k + 1) w ∨ Placed (k + 2) w → Conforms w :=
    fun h => h.elim Placed.conforms Placed.conforms
  have hcall : Triple (Placed k) (call E pDeviceSerialNumber s)
      (Gate (Placed (k + s.actions.length)) Conforms) Conforms := by
    cases s with
    | establishWithClaim => cases hs
    | establishWithDevice => cases hs
    | unsubscribeFromRegisterThing => exact absurd rfl hlast
    | subscribeToKeysCert =>
        exact gate_conforms (subscribeToBoth_at hscript) (fun _ h => hboth h) (fun _ h => h)
    | publishKeysCert => exact gate_placed (publish_at _ _ hscript)
    | waitForKeysCert => exact gate_placed (wait_at hscript)
    | parseKeysCert => exact gate_placed (parseKeysCert_at hscript)
    | loadPrivateKey => exact saveKey_at hscript
    | loadCertificate => exact saveCertificate_at hscript
    | unsubscribeFromKeysCert =>
        exact gate_conforms (unsubscribeFromBoth_at hscript) (fun _ h => hboth h) (fun _ h => h)
    | generateRequest => exact generateRequest_at _ hscript
    | subscribeToRegisterThing =>
        exact gate_conforms (subscribeToBoth_at hscript) (fun _ h => hboth h) (fun _ h => h)
    | publishRegisterThing =>
        exact gate_placed (Triple.get_bind (fun w h => publish_at _ _ hscript w h))
    | waitForRegisterThing => exact gate_placed (wait_at hscript)
    | parseRegisterThing => exact gate_placed (parseRegisterThing_at hscript)
  -- a step that is entered in the log changes nothing but the log
  refine workflowStep_triple hcall (fun status w h => ?_)
  cases status with
  | false => exact Conforms.log h (fun st => ⟨st, rfl⟩)
  | true => exact At.log h rfl

/-- Steps one after the other lead past all their actions. -/
theorem steps_at {steps : List Step}
    (hsteps : ∀ s ∈ steps, s.establishes = false ∧ s ≠ .unsubscribeFromRegisterThing)
    (rest : List Action) (hscript : script.drop k = steps.flatMap Step.actions ++ rest)
    (status : Bool) :
    Triple (Gate (Placed k) Conforms status)
      (gates (workflowStep E pDeviceSerialNumber) status steps)
      (Gate (Placed (k + (steps.flatMap Step.actions).length)) Conforms) Conforms := by
  cases status with
  | false =>
      intro w h
      rw [gates_false]
      exact h
  | true =>
      induction steps generalizing k with
      | nil => exact Triple.pure (fun _ h => h)
      | cons s steps ih =>
          rw [List.flatMap_cons, List.append_assoc] at hscript
          rw [gates_cons, List.flatMap_cons, List.length_append, ← Nat.add_assoc]
          have hs := hsteps s List.mem_cons_self
          refine Triple.bind (step_at pDeviceSerialNumber hs.1 hs.2 hscript) (fun status => ?_)
          cases status with
          | false =>
              intro w h
              rw [gates_false]
              exact h
          | true =>
              -- the next step is where this one ended
              have hdrop : script.drop (k + s.actions.length) =
                  steps.flatMap Step.actions ++ rest := by
                rw [← List.drop_drop, hscript, List.drop_left]
              exact ih (fun s' hs' => hsteps s' (List.mem_cons_of_mem s hs')) hdrop

/-! ### Connections -/

/-- Publishes are accepted over any connection. -/
theorem run_resent {trace entries : List Event} (hsession : session ≠ none)
    (hrun : protocol.run trace = some ⟨session, done⟩) (hentries : ∀ e ∈ entries, Resent w e) :
    protocol.run (trace ++ entries) = some ⟨session, done⟩ := by
  induction entries using List.reverseRecOn with
  | nil => rw [List.append_nil, hrun]
  | append_singleton entries e ih =>
      rcases hentries e (List.mem_append_right _ (List.mem_singleton_self e)) with
        ⟨i, -, -, status, rfl⟩
      rw [← List.append_assoc, protocol.run_concat]
      exact ⟨_, ih (fun e' he' => hentries e' (List.mem_append_left _ he')), if_neg hsession⟩

/-- The MQTT part of a session sends publishes again, and always returns. -/
theorem mqttSession_at (hsession : session ≠ none) (h : At session done established w) :
    ∃ status w', mqttSession E w = .ok status w' ∧ At session done established w' := by
  rcases mqttSession_fails_iff E w with ⟨status, w', hrun, -⟩
  have hflag : StableTraffic E (fun w => w.locals.connectionEstablished = established) :=
    ⟨fun _ _ h => h, fun _ _ h => h, fun _ _ _ h => h, fun _ _ h => h⟩
  rcases (mqttSession_logged E hrun).entries with ⟨entries, htrace, hentries⟩
  refine ⟨status, w', hrun, ?_, hflag.mqttSession.ok h.2 hrun⟩
  rw [htrace]
  exact run_resent hsession h.1 (fun e he => (hentries e he).2)

theorem establish_at (clientCert privateKey : Label) :
    Triple (At none done false) (establish E clientCert privateKey)
      (Gate (At (some (clientCert, privateKey)) done true) Conforms) Conforms := by
  have hconnect : Triple (At none done false)
      (connectToBrokerWithBackoffRetries E clientCert privateKey)
      (Gate (At (some (clientCert, privateKey)) done false) (At none done false))
      (At none done false) := by
    refine Triple.bind (Q := fun _ => At none done false) (fun _ h => h) (fun attempts => ?_)
    induction attempts with
    | nil => exact Triple.throw (fun _ h => h)
    | cons attempt rest ih =>
        cases hconnected : attempt.connected with
        | true =>
            refine Triple.bind (Triple.modify
              (R := At (some (clientCert, privateKey)) done false)
              (fun w h => h.log (by rw [hconnected]; rfl))) (fun _ => ?_)
            rw [hconnected]
            exact Triple.pure (fun _ h => h)
        | false =>
            -- an attempt that fails leaves the connection closed
            refine Triple.bind (Triple.modify (R := At none done false)
              (fun w h => h.log (by rw [hconnected]; rfl))) (fun _ => ?_)
            rw [hconnected]
            exact Triple.ite (fun hc => nomatch hc)
              (fun _ => Triple.ite (fun _ => ih) (fun _ => Triple.pure (fun _ h => h)))
  intro w h
  unfold establish
  rw [establishMqttSession_eq, bind_eq, bind_eq]
  have hconnected := hconnect w h
  cases hrun : connectToBrokerWithBackoffRetries E clientCert privateKey w with
  | error halt w1 =>
      rw [hrun] at hconnected
      exact hconnected.conforms
  | ok connected w1 =>
      rw [hrun] at hconnected
      cases connected with
      | false => exact At.conforms hconnected
      | true =>
          rcases mqttSession_at (E := E) (Option.some_ne_none _) hconnected with
            ⟨status, w2, hsession, hat⟩
          simp only [Bool.true_eq_false, if_false, hsession]
          cases status with
          | false => exact hat.conforms
          | true => exact ⟨hat.1, rfl⟩

/-- Closing the connection that the flag says is there. -/
theorem closeConnection_at {labels : Label × Label} :
    Triple (At (some labels) done true) (closeConnection E) (fun _ => At none done false)
      Conforms := by
  refine Triple.get_bind (fun w h => ?_)
  rw [h.2]
  have hmqtt : Keeps (At (some labels) done true) (disconnectMqtt E) :=
    Keeps.bind Keeps.get (fun _ => Keeps.ite
      (fun _ => Keeps.bind (fun _ h => h) (fun _ => Keeps.pure _)) (fun _ => Keeps.pure _))
  have hdisconnect : Triple (At (some labels) done true) (DisconnectMqttSession E)
      (fun _ => At none done true) (At (some labels) done true) :=
    Triple.bind hmqtt (fun _ => Triple.bind
      (Triple.modify (R := At none done true) (fun _ h => h.log rfl))
      (fun _ => Triple.pure (fun _ h => h)))
  exact Triple.bind (hdisconnect.consequence (fun _ h => h) (fun _ _ h => h)
    (fun _ h => h.conforms)) (fun _ => Triple.modify (fun _ h => ⟨h.1, rfl⟩)) w h

/-- Closing is always accepted. -/
theorem closeConnection_conforms : Keeps Conforms (closeConnection E) := by
  refine Keeps.bind Keeps.get (fun _ => Keeps.ite (fun _ => ?_) (fun _ => Keeps.pure _))
  refine Keeps.bind (Keeps.bind (Keeps.bind Keeps.get (fun _ => Keeps.ite
    (fun _ => Keeps.bind (fun _ h => h) (fun _ => Keeps.pure _)) (fun _ => Keeps.pure _)))
    (fun _ => Keeps.bind (Keeps.modify (fun _ h => h.log (fun st => ⟨_, rfl⟩)))
      (fun _ => Keeps.pure _))) (fun _ => Keeps.modify (fun _ h => h))

/-! ### Whole runs -/

/-- The last step of the claim session sends one of its requests at least. -/
theorem lastStep_at (hscript : script.drop k = Step.actions .unsubscribeFromRegisterThing) :
    Triple (Placed k) (workflowStep E pDeviceSerialNumber .unsubscribeFromRegisterThing)
      (fun _ w => Placed (k + 1) w ∨ Placed (k + 2) w) Conforms := by
  refine workflowStep_triple (Q := fun _ w => Placed (k + 1) w ∨ Placed (k + 2) w) ?_
    (fun status w h => h.imp (fun h => At.log h rfl) (fun h => At.log h rfl))
  refine Triple.bind (unsubscribeFromBoth_at hscript) (fun status =>
    Triple.pure (fun w h => ?_))
  cases status with
  | false => exact h
  | true => exact Or.inr h

/-- The steps after the first, up to the last of them. -/
def innerSteps : List Step :=
  [.subscribeToKeysCert, .publishKeysCert, .waitForKeysCert, .parseKeysCert, .loadPrivateKey,
    .loadCertificate, .unsubscribeFromKeysCert, .generateRequest, .subscribeToRegisterThing,
    .publishRegisterThing, .waitForRegisterThing, .parseRegisterThing]

theorem claimSteps_at :
    Triple (At none 0 false) (gates (workflowStep E pDeviceSerialNumber) true claimSteps)
      (Gate (fun w => ∃ done, script.length ≤ done + 1 ∧ Placed done w) Conforms) Conforms := by
  have hsteps : claimSteps =
      [.establishWithClaim] ++ (innerSteps ++ [.unsubscribeFromRegisterThing]) := rfl
  have hinner : ∀ s ∈ innerSteps, s.establishes = false ∧ s ≠ .unsubscribeFromRegisterThing := by
    decide
  rw [hsteps]
  -- one step makes the connection, and the others are at their places
  have hfirst : Triple (At none 0 false) (workflowStep E pDeviceSerialNumber .establishWithClaim)
      (Gate (Placed 0) Conforms) Conforms := by
    refine workflowStep_triple (establish_at _ _) (fun status w h => ?_)
    cases status with
    | false => exact Conforms.log h (fun st => ⟨st, rfl⟩)
    | true => exact At.log h rfl
  refine Triple.gates_append (J := Gate (At none 0 false) Conforms)
    (Triple.gates_one hfirst true) (fun status => ?_)
  refine Triple.gates_append (steps_at pDeviceSerialNumber hinner
    (Step.actions .unsubscribeFromRegisterThing) rfl status) (fun status => ?_)
  refine Triple.gates_one ((lastStep_at pDeviceSerialNumber rfl).consequence (fun _ h => h) ?_
    (fun _ h => h)) status
  intro status w h
  cases status with
  | false => exact h.elim Placed.conforms Placed.conforms
  | true =>
      rcases h with h | h
      · exact ⟨_, by decide, h⟩
      · exact ⟨_, by decide, h⟩

/-- An iteration from a closed connection. -/
theorem iteration_protocol :
    Triple (At none 0 false) (iteration E pDeviceSerialNumber true)
      (Gate (fun w => ∃ done, script.length ≤ done + 1 ∧ At none done false w) Conforms)
      Conforms := by
  refine Triple.bind (Triple.modify (R := At none 0 false) (fun _ h => At.log h rfl)) (fun _ =>
    Triple.bind (claimSteps_at pDeviceSerialNumber) (fun status => ?_))
  cases status with
  | false =>
      -- no other step is done
      refine Triple.bind closeConnection_conforms (fun _ => Triple.bind
        (Q := fun status w => status = false ∧ Conforms w) ?_ (fun status => ?_))
      · intro w h
        rw [gates_false]
        exact ⟨rfl, h⟩
      · rintro w ⟨rfl, h⟩
        exact Triple.bind closeConnection_conforms (fun _ => Triple.pure (fun _ h => h)) w h
  | true =>
      rintro w ⟨done, hdone, h⟩
      have hstep : Triple (At none done false)
          (workflowStep E pDeviceSerialNumber .establishWithDevice)
          (Gate (At (some (.DEVICE_CERTIFICATE_FOR_TLS, .DEVICE_PRIVATE_KEY_FOR_TLS)) done true)
            Conforms) Conforms := by
        refine workflowStep_triple (establish_at _ _) (fun status w h => ?_)
        cases status with
        | false => exact Conforms.log h (fun st => ⟨st, rfl⟩)
        | true => exact At.log h rfl
      refine Triple.bind closeConnection_at (fun _ => Triple.bind
        (Triple.gates_one hstep true) (fun status => ?_)) w h
      cases status with
      | false => exact Triple.bind closeConnection_conforms (fun _ => Triple.pure (fun _ h => h))
      | true =>
          exact Triple.bind closeConnection_at
            (fun _ => Triple.pure (fun _ h => ⟨done, hdone, h⟩))

theorem conforms_replicate {trace : List Event} {st : Stage} (h : protocol.run trace = some st)
    (n : Nat) : ∃ st', protocol.run (trace ++ List.replicate n .iteration) = some st' := by
  induction n with
  | zero => exact ⟨st, by rw [List.replicate_zero, List.append_nil, h]⟩
  | succ n ih =>
      rcases ih with ⟨st', hrun⟩
      refine ⟨st', ?_⟩
      rw [List.replicate_succ', ← List.append_assoc, protocol.run_concat]
      exact ⟨st', hrun, rfl⟩

/-- A run follows the protocol, and one that returns 0 to its end: only the last
    request may be missing, and the connection is closed. -/
def RunConforms : EStateM.Result Halt World Int → Prop
  | .ok result w' => ∃ st, protocol.run w'.trace = some st ∧
      (result = 0 → st.session = none ∧ script.length ≤ st.done + 1)
  | .error _ w' => ∃ st, protocol.run w'.trace = some st

variable (E)

end Steps

end FleetProvisioning

end ProvisioningSdk
