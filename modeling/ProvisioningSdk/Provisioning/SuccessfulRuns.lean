import ProvisioningSdk.Provisioning.Credentials
import ProvisioningSdk.Provisioning.RequestEncoding
import ProvisioningSdk.Provisioning.ResponseDocuments

/-!
# Successful Runs

What has happened when `ProvisionDevicePKCS11WithFP` returns 0.

The return value is the status of the last step, and a step is done only after
all before it succeeded. So a run that returns 0 did everything once and in
order, and the log has an entry for each of the things a caller relies on
(`Record.milestones`). What it does not say is that the fields of the responses
were there: a missing one goes unnoticed, and nothing ties a response to its
request. The statement about a field is therefore about responses that have it,
and the request that is published is the one that was built unless a response
was copied over it.

## Main definitions

* `Record`: What a run came across.
* `Record.milestones`: The entries it leaves in the log.
* `Provisioned`: What holds after a successful run.

## Theorems

* `establish_told`, `wait_told`, `subscribe_told` and so on: The steps.
* `iteration_of_zero`: A run that returns 0 is one successful iteration.
* `provision_succeeds`: A run that returns 0 provisioned the device.
-/

namespace ProvisioningSdk

namespace FleetProvisioning

open Effect
open Serializer (OutBuffer KeyCertBuffers TinyCbor Progress parseField parseKeyCertResponse
  parseRegisterThingResponse generateRegisterThingRequest registerThing)

/-! ### The record of a run -/

/-- What a successful run received, stored, built and published. -/
structure Record where
  keysInfo : Publish
  keysPayload : List UInt8
  key : ObjectValue
  certificate : List UInt8
  token : List UInt8
  request : List UInt8
  /-- A response that was copied over the request. -/
  overwritten : Option Publish
  published : List UInt8
  thingInfo : Publish
  thingPayload : List UInt8

/-- The entries of a successful run, in their order. -/
def Record.milestones (r : Record) : List Event :=
  [.tlsConnect .CLAIM_CERTIFICATE .CLAIM_PRIVATE_KEY true,
    .publishToTopic .FP_CBOR_CREATE_KEYS_PUBLISH_TOPIC [], .delivered r.keysInfo,
    .parses .createKeysAndCert r.keysPayload, .created (keyTemplate r.key),
    .created (certificateTemplate r.certificate), .generated r.token r.request] ++
  r.overwritten.toList.map .delivered ++
  [.publishToTopic .FP_CBOR_REGISTER_PUBLISH_TOPIC r.published, .delivered r.thingInfo,
    .parses .registerThing r.thingPayload,
    .tlsConnect .DEVICE_CERTIFICATE_FOR_TLS .DEVICE_PRIVATE_KEY_FOR_TLS true]

section Runs

variable (E : External)

/-- An accepted response with this payload. -/
def IsAccepted (info : Publish) (payload : List UInt8) : Prop :=
  ∃ api, responseOf E info = some (.accepted api payload)

/-- A successful run provisioned the device. -/
structure Provisioned (pDeviceSerialNumber : List UInt8) (t0 : Token)
    (r : Record) (w : World) : Prop where
  order : r.milestones.Sublist w.trace
  keysResponse : IsAccepted E r.keysInfo r.keysPayload
  thingResponse : IsAccepted E r.thingInfo r.thingPayload
  /-- The key and the certificate are on the token, and were not before. -/
  key : ∃ o ∈ w.token.deviceKeys, o ∉ t0.objects ∧ o.template.value = r.key
  certificate : ∃ o ∈ w.token.deviceCertificates, o ∉ t0.objects ∧
    o.template.value = .certificate r.certificate
  /-- They are those of the response, if it has them. -/
  privateKey : ∀ text, E.tinyCbor.Finds r.keysPayload Serializer.privateKey text →
    ∃ given, Terminated PRIV_KEY_BUFFER_LENGTH text given ∧ keyObject E given = some r.key
  certificatePem : ∀ text, E.tinyCbor.Finds r.keysPayload Serializer.certificatePem text →
    ∃ given, Terminated CERT_BUFFER_LENGTH text given ∧
      E.convert_pem_to_der given = some r.certificate
  /-- The request has the token of the same response, if it has one. -/
  ownershipToken : ∀ text,
    E.tinyCbor.Finds r.keysPayload Serializer.certificateOwnershipToken text → r.token = text
  request : Cbor.decode r.request = some (registerThing r.token (pDeviceSerialNumber.take 32))
  published : match r.overwritten with
    | none => r.published = r.request
    | some info => IsAccepted E info r.published
  /-- The name of the thing is that of the other response. -/
  thingName : ∀ name, E.tinyCbor.Finds r.thingPayload Serializer.thingName name →
    w.responses.thingName.Holds name

/-! ### The log so far -/

/-- The log has these entries in this order, and these are the token and the
    buffers. -/
def Told (told : List Event) (t : Token) (buffers : KeyCertBuffers) (w : World) : Prop :=
  told.Sublist w.trace ∧ w.token = t ∧ w.locals.buffers = buffers

variable {E} {told : List Event} {t : Token} {buffers : KeyCertBuffers} {w w' : World}

theorem Told.log (h : Told told t buffers w) (e : Event) : Told told t buffers (w.log e) :=
  ⟨h.1.trans (List.sublist_append_left _ _), h.2⟩

/-- An entry that is added comes behind the others. -/
theorem Told.tell (h : Told told t buffers w) (e : Event) :
    Told (told ++ [e]) t buffers (w.log e) :=
  ⟨h.1.append (List.Sublist.refl _), h.2⟩

theorem told_stable : StableSteps E (Told told t buffers) where
  now := fun _ _ h => h
  mqtt := fun _ _ h => h
  transport := fun _ e _ h => h.log e
  deliver := fun _ info h => h.log (.delivered info)
  responses := fun _ _ h => h
  connection := fun _ _ h => h

variable {pDeviceSerialNumber : List UInt8}

/-- The steps that are about neither the token nor the buffers. -/
theorem told_step {s : Step} {status : Bool} (hparse : s ≠ .parseKeysCert)
    (hkey : s ≠ .loadPrivateKey) (hcertificate : s ≠ .loadCertificate) (h : Told told t buffers w)
    (hrun : workflowStep E pDeviceSerialNumber s w = .ok status w') : Told told t buffers w' := by
  refine (told_stable.workflowStep pDeviceSerialNumber s (fun _ e _ h => h.log e) ?_
    (fun hs => absurd hs hparse) (fun _ _ h => h.log _)).ok h hrun
  rintro (hs | hs)
  · exact absurd hs hkey
  · exact absurd hs hcertificate

/-- The call of a step that returned true. -/
theorem call_of_step {s : Step} (hrun : workflowStep E pDeviceSerialNumber s w = .ok true w') :
    ∃ w1, call E pDeviceSerialNumber s w = .ok true w1 ∧ w' = w1.log (.step s true) := by
  rcases bind_ok.mp hrun with ⟨status, w1, hcall, hrest⟩
  cases hrest
  exact ⟨w1, hcall, rfl⟩

/-! ### Connecting and publishing -/

/-- A session that was established has its connection in the log. -/
theorem establish_told {I J : World → Prop} {clientCert privateKey : Label}
    (hnow : ∀ w n, I w → I { w with now := n }) (hlog : ∀ w e, I w → I (w.log e))
    (htell : ∀ w, I w → J (w.log (.tlsConnect clientCert privateKey true))) (hJ : Stable E J)
    (hconnection : ∀ w established, J w →
      J { w with locals := { w.locals with connectionEstablished := established } }) :
    Triple I (establish E clientCert privateKey) (Gate J (fun _ => True)) (fun _ => True) := by
  have hattempts : ∀ attempts, Triple I (connectAttempts clientCert privateKey attempts)
      (Gate J (fun _ => True)) (fun _ => True) := by
    intro attempts
    induction attempts with
    | nil => exact Triple.throw (fun _ _ => trivial)
    | cons attempt rest ih =>
        -- an attempt that fails is an entry more, and the others come after it
        cases hconnected : attempt.connected with
        | true =>
            refine Triple.bind (Triple.modify (R := J) (fun w h => hconnected ▸ htell w h))
              (fun _ => ?_)
            rw [hconnected]
            exact Triple.pure (fun _ h => h)
        | false =>
            refine Triple.bind (Triple.modify (R := I) (fun w h => hlog w _ h)) (fun _ => ?_)
            rw [hconnected]
            exact Triple.ite (fun hc => nomatch hc)
              (fun _ => Triple.ite (fun _ => ih) (fun _ => Triple.pure (fun _ _ => trivial)))
  -- the attempts make the connection
  have hconnect : Triple I (connectToBrokerWithBackoffRetries E clientCert privateKey)
      (Gate J (fun _ => True)) (fun _ => True) :=
    Triple.bind (Q := fun _ => I) (fun w h => hnow w (w.now + 1) h) (fun _ => hattempts _)
  -- and then the MQTT session goes over it
  have hsession : Triple I (EstablishMqttSession E clientCert privateKey)
      (Gate J (fun _ => True)) (fun _ => True) := by
    rw [establishMqttSession_eq]
    refine Triple.bind hconnect (fun connected => ?_)
    cases connected with
    | false => exact Triple.pure (fun _ _ => trivial)
    | true =>
        refine Triple.consequence hJ.toTraffic.mqttSession (fun _ h => h) ?_ (fun _ _ => trivial)
        intro status w h
        cases status with
        | false => trivial
        | true => exact h
  refine Triple.bind hsession (fun status => ?_)
  cases status with
  | false => exact Triple.pure (fun _ _ => trivial)
  | true =>
      exact Triple.bind (Triple.modify (R := J) (fun w h => hconnection w true h))
        (fun _ => Triple.pure (fun _ h => h))

theorem establishWithClaim_told (h : Told told t buffers w)
    (hrun : workflowStep E pDeviceSerialNumber .establishWithClaim w = .ok true w') :
    Told (told ++ [.tlsConnect .CLAIM_CERTIFICATE .CLAIM_PRIVATE_KEY true]) t buffers w' := by
  rcases call_of_step hrun with ⟨w1, hcall, rfl⟩
  refine Told.log ?_ _
  exact (establish_told (I := Told told t buffers) (fun _ _ h => h) (fun _ e h => h.log e)
    (fun _ h => h.tell _) told_stable.toStable (fun _ _ h => h)).ok h hcall

theorem publishKeysCert_told (h : Told told t buffers w)
    (hrun : workflowStep E pDeviceSerialNumber .publishKeysCert w = .ok true w') :
    Told (told ++ [.publishToTopic .FP_CBOR_CREATE_KEYS_PUBLISH_TOPIC []]) t buffers w' := by
  rcases call_of_step hrun with ⟨w1, hcall, rfl⟩
  refine Told.log ?_ _
  exact (told_stable.toTraffic.PublishToTopic (P := Told told t buffers) _ _ _
    (fun _ h => h.tell _)).ok h hcall

theorem publishRegisterThing_told (h : Told told t buffers w)
    (hrun : workflowStep E pDeviceSerialNumber .publishRegisterThing w = .ok true w') :
    Told (told ++ [.publishToTopic .FP_CBOR_REGISTER_PUBLISH_TOPIC w.responses.payload]) t buffers
      w' := by
  rcases call_of_step hrun with ⟨w1, hcall, rfl⟩
  refine Told.log ?_ _
  -- what is published is the payload of this state
  have hpublish := (told_stable (E := E)).toTraffic.PublishToTopic (P := fun w' => w' = w)
    (I := Told (told ++ [.publishToTopic .FP_CBOR_REGISTER_PUBLISH_TOPIC w.responses.payload]) t
      buffers)
    .FP_CBOR_REGISTER_PUBLISH_TOPIC .payloadBuffer w.responses.payloadLength
    (fun w' hw' => by rw [hw']; exact h.tell _)
  exact hpublish.ok rfl hcall

/-! ### Waiting and subscribing -/

/-- If a response was accepted, the last one is in the payload buffer. -/
structure Heard (E : External) (told : List Event) (t : Token) (buffers : KeyCertBuffers)
    (w : World) : Prop where
  sofar : Told told t buffers w
  accepted : w.responses.responseStatus = .ResponseAccepted →
    ∃ info, IsAccepted E info w.responses.payload ∧ Told (told ++ [.delivered info]) t buffers w

theorem heard_stable : Stable E (Heard E told t buffers) where
  now := fun _ _ h => ⟨h.sofar, h.accepted⟩
  mqtt := fun _ _ h => ⟨h.sofar, h.accepted⟩
  transport := by
    intro w e _ h
    refine ⟨h.sofar.log e, fun haccepted => ?_⟩
    rcases h.accepted haccepted with ⟨info, hinfo, htold⟩
    exact ⟨info, hinfo, htold.log e⟩
  deliver := by
    intro w info h
    refine ⟨h.sofar.log (.delivered info), fun haccepted => ?_⟩
    rw [deliver_status] at haccepted
    unfold IsAccepted
    rw [deliver_payload]
    cases hresponse : responseOf E info with
    | none =>
        -- a publish that is no response changes nothing
        rw [hresponse] at haccepted
        rcases h.accepted haccepted with ⟨info', hinfo', htold⟩
        exact ⟨info', hinfo', htold.log (.delivered info)⟩
    | some response =>
        rw [hresponse] at haccepted
        cases response with
        | accepted api payload => exact ⟨info, ⟨api, hresponse⟩, h.sofar.tell (.delivered info)⟩
        | rejected api => cases haccepted

/-- A wait that returns true leaves an accepted response in the payload buffer. -/
theorem waitForResponse_told (api : Api) :
    Triple (Told told t buffers) (waitForResponse E api)
      (Gate (fun w => ∃ info, IsAccepted E info w.responses.payload ∧
        Told (told ++ [.delivered info]) t buffers w) (fun _ => True)) (fun _ => True) := by
  -- the status is reset, so one that is accepted was set in the loop
  refine Triple.bind (Triple.modify (R := Heard E told t buffers) ?_) (fun _ => ?_)
  · intro w h
    exact ⟨Told.log (w := { w with responses :=
      { w.responses with responseStatus := .ResponseNotReceived } }) h (.waits api), nofun⟩
  refine Triple.bind (heard_stable.toTraffic.ProcessLoopWithTimeout.consequence (fun _ h => h)
    (fun _ _ h => h) (fun _ _ => trivial)) (fun _ => ?_)
  intro w h
  rw [get_bind]
  cases hstatus : w.responses.responseStatus == .ResponseAccepted with
  | false => trivial
  | true =>
      rcases h.accepted (beq_iff_eq.mp hstatus) with ⟨info, hinfo, htold⟩
      exact ⟨info, hinfo, htold.log _⟩

theorem wait_told {s : Step} (api : Api)
    (hs : call E pDeviceSerialNumber s = waitForResponse E api) (h : Told told t buffers w)
    (hrun : workflowStep E pDeviceSerialNumber s w = .ok true w') :
    ∃ info, IsAccepted E info w'.responses.payload ∧
      Told (told ++ [.delivered info]) t buffers w' := by
  rcases call_of_step hrun with ⟨w1, hcall, rfl⟩
  rw [hs] at hcall
  rcases (waitForResponse_told api).ok h hcall with ⟨info, hinfo, htold⟩
  exact ⟨info, hinfo, htold.log _⟩

/-- The payload buffer has the request, or a response that was copied over it. -/
def Held (E : External) (told : List Event) (t : Token) (buffers : KeyCertBuffers)
    (request : List UInt8) (w : World) : Prop :=
  ∃ overwritten : Option Publish, Told (told ++ overwritten.toList.map .delivered) t buffers w ∧
    match overwritten with
    | none => w.responses.payload = request
    | some info => IsAccepted E info w.responses.payload

theorem Held.log {request : List UInt8} (h : Held E told t buffers request w) (e : Event) :
    Held E told t buffers request (w.log e) := by
  rcases h with ⟨overwritten, htold, hpayload⟩
  exact ⟨overwritten, htold.log e, hpayload⟩

theorem held_stable (request : List UInt8) : Stable E (Held E told t buffers request) where
  now := fun _ _ h => h
  mqtt := fun _ _ h => h
  transport := fun _ e _ h => h.log e
  deliver := by
    rintro w info ⟨overwritten, htold, hpayload⟩
    -- one that is accepted takes the place of the last one
    have hbase : Told told t buffers w := ⟨(List.sublist_append_left _ _).trans htold.1, htold.2⟩
    have hpayload' := deliver_payload E info w
    cases hresponse : responseOf E info with
    | none =>
        rw [hresponse] at hpayload'
        refine ⟨overwritten, htold.log (.delivered info), ?_⟩
        rw [hpayload']
        exact hpayload
    | some response =>
        rw [hresponse] at hpayload'
        cases response with
        | accepted api payload =>
            refine ⟨some info, hbase.tell (.delivered info), api, ?_⟩
            rw [hpayload']
            exact hresponse
        | rejected api =>
            refine ⟨overwritten, htold.log (.delivered info), ?_⟩
            rw [hpayload']
            exact hpayload

theorem subscribe_told {request : List UInt8} (h : Held E told t buffers request w)
    (hrun : workflowStep E pDeviceSerialNumber .subscribeToRegisterThing w = .ok true w') :
    Held E told t buffers request w' := by
  rcases call_of_step hrun with ⟨w1, hcall, rfl⟩
  exact Held.log ((StableCalls.subscribeToBoth (held_stable request).toTraffic _ _).ok h hcall) _

/-! ### The credentials and the request -/

/-- The parse of the first response fills the buffers. -/
theorem parseKeysCert_told (h : Told told t buffers w)
    (hrun : workflowStep E pDeviceSerialNumber .parseKeysCert w = .ok true w') :
    ∃ buffers', parseKeyCertResponse E.tinyCbor w.responses.payload buffers =
        .ok (true, buffers') ∧
      Told (told ++ [.parses .createKeysAndCert w.responses.payload]) t buffers' w' := by
  rcases call_of_step hrun with ⟨w1, hcall, rfl⟩
  rcases bind_ok.mp hcall with ⟨_, _, hget, hcall⟩
  cases hget
  rcases bind_ok.mp hcall with ⟨_, w2, hlog, hcall⟩
  cases hlog
  have htold := h.tell (.parses .createKeysAndCert w.responses.payload)
  rw [h.2.2] at hcall
  cases hparse : parseKeyCertResponse E.tinyCbor w.responses.payload buffers with
  | error f =>
      rw [hparse] at hcall
      cases hcall
  | ok r =>
      rcases r with ⟨status, buffers'⟩
      rw [hparse] at hcall
      cases hcall
      exact ⟨buffers', rfl, Told.log (w := { w.log (.parses .createKeysAndCert
        w.responses.payload) with locals := { w.locals with buffers := buffers' } })
        ⟨htold.1, h.2.1, rfl⟩ _⟩

/-- The key is stored from its buffer. -/
theorem loadPrivateKey_told (h : Told told t buffers w)
    (hrun : workflowStep E pDeviceSerialNumber .loadPrivateKey w = .ok true w') :
    ∃ key, keyObject E (bufferText buffers.privateKey) = some key ∧
      Told (told ++ [.created (keyTemplate key)]) (t.create E.replaces (keyTemplate key))
        buffers w' := by
  rcases h with ⟨horder, rfl, rfl⟩
  rcases call_of_step hrun with ⟨w1, hcall, rfl⟩
  rcases bind_ok.mp hcall with ⟨_, _, hget, hcall⟩
  cases hget
  rcases (provisionPrivateKey_spec (S := fun _ => True) w _ _).ok (Asked.refl w) hcall with
    ⟨hfalse, -⟩ | ⟨key, hkey, -, n, rfl⟩
  · cases hfalse
  · exact ⟨key, hkey, Told.log ⟨horder.append (List.Sublist.refl _), rfl, rfl⟩ _⟩

theorem destroyAll_told (h : Told told t buffers w) (handles : List Nat) :
    Told told (w.destroyAll handles).token buffers (w.destroyAll handles) := by
  induction handles using List.reverseRecOn with
  | nil => exact ⟨h.1, rfl, h.2.2⟩
  | append_singleton handles handle ih =>
      rw [destroyAll_concat]
      exact ⟨(ih.log (.destroyed handle)).1, rfl, ih.2.2⟩

/-- The certificate is stored from its buffer, after others were destroyed. -/
theorem loadCertificate_told (h : Told told t buffers w)
    (hrun : workflowStep E pDeviceSerialNumber .loadCertificate w = .ok true w') :
    ∃ certificate handles t1,
      E.convert_pem_to_der (bufferText buffers.certificate) = some certificate ∧
      Token.Without handles t t1 ∧
      (∀ handle ∈ handles, ∃ o ∈ t.deviceCertificates, o.handle = handle) ∧
      Told (told ++ [.created (certificateTemplate certificate)])
        (t1.create E.replaces (certificateTemplate certificate)) buffers w' := by
  rcases h with ⟨horder, rfl, rfl⟩
  rcases call_of_step hrun with ⟨w1, hcall, rfl⟩
  rcases bind_ok.mp hcall with ⟨_, _, hget, hcall⟩
  cases hget
  rcases (provisionCertificate_spec w _ _).ok (Asked.refl w) hcall with
    ⟨hfalse, -⟩ | ⟨certificate, _, hder, -, ⟨handles, ⟨n1, rfl⟩, hunder⟩, n, rfl⟩
  · cases hfalse
  · refine ⟨certificate, handles, (w.destroyAll handles).token, hder,
      without_destroyAll w handles, hunder, ?_⟩
    have hdestroyed := destroyAll_told ⟨horder, rfl, rfl⟩ handles
    exact Told.log (w := { w.destroyAll handles with
      token := (w.destroyAll handles).token.create E.replaces (certificateTemplate certificate)
      now := n }.log (.created (certificateTemplate certificate)))
      ⟨hdestroyed.1.append (List.Sublist.refl _), rfl, hdestroyed.2.2⟩ _

/-- The request is built from the token in its buffer. -/
theorem generateRequest_told (h : Told told t buffers w)
    (hrun : workflowStep E pDeviceSerialNumber .generateRequest w = .ok true w') :
    ∃ request, generateRegisterThingRequest E.tinyCborEncoder NETWORK_BUFFER_SIZE
        (buffers.ownershipToken.buffer.slice 0 buffers.ownershipToken.length)
        (pDeviceSerialNumber.take 32) = .ok request ∧
      Held E (told ++ [.generated (buffers.ownershipToken.buffer.slice 0
        buffers.ownershipToken.length) request]) t buffers request w' := by
  rcases h with ⟨horder, rfl, rfl⟩
  rcases call_of_step hrun with ⟨w1, hcall, rfl⟩
  rcases bind_ok.mp hcall with ⟨_, _, hget, hcall⟩
  cases hget
  unfold Locals.token at hcall
  cases hrequest : generateRegisterThingRequest E.tinyCborEncoder NETWORK_BUFFER_SIZE
      (w.locals.buffers.ownershipToken.buffer.slice 0 w.locals.buffers.ownershipToken.length)
      (pDeviceSerialNumber.take 32) with
  | error written =>
      rw [hrequest] at hcall
      cases hcall
  | ok request =>
      rw [hrequest] at hcall
      cases hcall
      refine ⟨request, rfl, Held.log ⟨none, ?_, ?_⟩ _⟩
      · rw [Option.toList_none, List.map_nil, List.append_nil]
        exact ⟨horder.append (List.Sublist.refl _), rfl, rfl⟩
      · exact Bytes.slice_copy_self w.responses.payloadBuffer 0 request

/-- The parse of the second response fills the buffer of the name. -/
theorem parseRegisterThing_told (h : Told told t buffers w)
    (hrun : workflowStep E pDeviceSerialNumber .parseRegisterThing w = .ok true w') :
    (∃ out : OutBuffer, out.length = MAX_THING_NAME_LENGTH ∧
      parseRegisterThingResponse E.tinyCbor w.responses.payload out =
        .ok (true, w'.responses.thingName)) ∧
      Told (told ++ [.parses .registerThing w.responses.payload]) t buffers w' := by
  rcases call_of_step hrun with ⟨w1, hcall, rfl⟩
  rcases bind_ok.mp hcall with ⟨_, _, hget, hcall⟩
  cases hget
  rcases bind_ok.mp hcall with ⟨_, w2, hlog, hcall⟩
  cases hlog
  cases hparse : parseRegisterThingResponse E.tinyCbor w.responses.payload
      { w.responses.thingName with length := MAX_THING_NAME_LENGTH } with
  | error f =>
      rw [hparse] at hcall
      cases hcall
  | ok r =>
      rcases r with ⟨status, thingName⟩
      rw [hparse] at hcall
      cases hcall
      exact ⟨⟨_, rfl, hparse⟩, (h.tell (.parses .registerThing w.responses.payload)).log _⟩

/-! ### The end of a run -/

/-- The name of the thing is in this buffer as well. -/
def Named (told : List Event) (t : Token) (buffers : KeyCertBuffers) (thingName : OutBuffer)
    (w : World) : Prop :=
  Told told t buffers w ∧ w.responses.thingName = thingName

variable {thingName : OutBuffer}

theorem named_stable : Stable E (Named told t buffers thingName) where
  now := fun _ _ h => h
  mqtt := fun _ _ h => h
  transport := fun _ e _ h => ⟨h.1.log e, h.2⟩
  deliver := by
    intro w info h
    refine ⟨h.1.log (.delivered info), ?_⟩
    -- a response is copied to the payload buffer only
    have hkept : (provisioningPublishCallback E info w.responses).thingName =
        w.responses.thingName := by
      rw [provisioningPublishCallback_eq]
      cases responseOf E info with
      | none => rfl
      | some response =>
          cases response with
          | accepted api payload => rfl
          | rejected api => rfl
    exact hkept.trans h.2

theorem unsubscribe_named (h : Named told t buffers thingName w)
    (hrun : workflowStep E pDeviceSerialNumber .unsubscribeFromRegisterThing w = .ok true w') :
    Named told t buffers thingName w' := by
  rcases call_of_step hrun with ⟨w1, hcall, rfl⟩
  rcases bind_ok.mp hcall with ⟨_, w2, hunsubscribe, hcall⟩
  cases hcall
  have hkept := (StableCalls.unsubscribeFromBoth named_stable.toTraffic _ _).ok h hunsubscribe
  exact ⟨hkept.1.log _, hkept.2⟩

theorem closeConnection_named :
    Keeps (Named told t buffers thingName) (closeConnection E) :=
  Keeps.bind Keeps.get (fun _ => Keeps.ite
    (fun _ => Keeps.bind named_stable.DisconnectMqttSession (fun _ => Keeps.modify (fun _ h => h)))
    (fun _ => Keeps.pure _))

theorem establishWithDevice_named (h : Named told t buffers thingName w)
    (hrun : workflowStep E pDeviceSerialNumber .establishWithDevice w = .ok true w') :
    Named (told ++ [.tlsConnect .DEVICE_CERTIFICATE_FOR_TLS .DEVICE_PRIVATE_KEY_FOR_TLS true])
      t buffers thingName w' := by
  rcases call_of_step hrun with ⟨w1, hcall, rfl⟩
  have hkept := (establish_told (I := Named told t buffers thingName) (fun _ _ h => h)
    (fun _ e h => ⟨h.1.log e, h.2⟩) (fun _ h => ⟨h.1.tell _, h.2⟩) named_stable
    (fun _ _ h => h)).ok h hcall
  exact ⟨hkept.1.log _, hkept.2⟩

/-- A run that returns 0 is one successful iteration. -/
theorem iteration_of_zero {maxDemoLoopCount : Nat}
    (hrun : ProvisionDevicePKCS11WithFP E pDeviceSerialNumber maxDemoLoopCount w = .ok 0 w') :
    iteration E pDeviceSerialNumber true w.enter = .ok true w' := by
  cases hfirst : iteration E pDeviceSerialNumber true w.enter with
  | error halt w1 =>
      rw [provision_of_halt E pDeviceSerialNumber _ hfirst] at hrun
      cases hrun
  | ok status w1 =>
      cases status with
      | false =>
          -- the result would be -1
          rcases provision_of_iteration E pDeviceSerialNumber maxDemoLoopCount hfirst with
            ⟨w2, hfails, -⟩
          rw [hfails] at hrun
          cases hrun
      | true =>
          have hloop : retryLoop E pDeviceSerialNumber (maxDemoLoopCount - 1) true w.enter =
              .ok true w1 := by
            cases maxDemoLoopCount - 1 with
            | zero => exact hfirst
            | succ retries => exact bind_ok.mpr ⟨true, w1, hfirst, rfl⟩
          have hzero : ProvisionDevicePKCS11WithFP E pDeviceSerialNumber maxDemoLoopCount w =
              .ok 0 w1 := bind_ok.mpr ⟨(), w.enter, rfl, bind_ok.mpr ⟨true, w1, hloop, rfl⟩⟩
          rw [hrun] at hzero
          cases hzero
          rfl

/-! ### What the buffers have -/

/-- The token is in its buffer. -/
theorem ParsedFrom.ownershipToken (hT : E.tinyCbor.Copies)
    {payload text : List UInt8} (h : ParsedFrom E payload buffers)
    (htext : E.tinyCbor.Finds payload Serializer.certificateOwnershipToken text) :
    buffers.ownershipToken.buffer.slice 0 buffers.ownershipToken.length = text := by
  rcases h with ⟨out, hfull, hok⟩
  have hid : 64 ≤ out.certificateId.length := hfull.certificateId.ge
  rcases (Serializer.parseKeyCertResponse_true_iff _ _ _ hid).mp hok with ⟨-, -, -, htoken⟩
  rcases Serializer.holds_of_parseField hT htext htoken with ⟨hlength, hslice⟩
  rw [hlength]
  exact hslice

/-- So is the name of the thing. -/
theorem holds_of_registerThing (hT : E.tinyCbor.Copies) {payload text : List UInt8}
    {out out' : OutBuffer}
    (hok : parseRegisterThingResponse E.tinyCbor payload out = .ok (true, out'))
    (htext : E.tinyCbor.Finds payload Serializer.thingName text) : out'.Holds text := by
  have hfirst := (Serializer.parseRegisterThingResponse_true_iff _ _ _).mp hok
  rcases (Serializer.parseFirst_iff _ _ _ _).mp hfirst with ⟨-, ⟨hnot, -⟩ | ⟨-, hfield⟩⟩
  · -- a text is in a map only
    rw [htext.2.1] at hnot
    cases hnot
  · exact Serializer.holds_of_parseField hT htext hfield

/-- The objects a successful run created are on the token at its end. -/
theorem stored_created {t0 t1 : Token} {key : ObjectValue} {payload : List UInt8}
    {handles : List Nat} (certificate : List UInt8)
    (h : KeyOnly E t0 payload buffers key handles t1) :
    (∃ o ∈ (t1.create E.replaces (certificateTemplate certificate)).deviceKeys,
      o ∉ t0.objects ∧ o.template.value = key) ∧
    ∃ o ∈ (t1.create E.replaces (certificateTemplate certificate)).deviceCertificates,
      o ∉ t0.objects ∧ o.template.value = .certificate certificate := by
  constructor
  · refine ⟨t0.created (keyTemplate key), ?_, t0.created_not_mem _, rfl⟩
    -- a certificate does not take the place of a key
    have hother : (certificateTemplate certificate).objectClass ≠ .CKO_PRIVATE_KEY :=
      ObjectClass.noConfusion
    exact (Token.mem_under_create_other hother).mpr (h.mem_deviceKeys.mpr (Or.inr rfl))
  · exact ⟨t1.created (certificateTemplate certificate),
      (t1.mem_under_create E.replaces (certificateTemplate certificate)).mpr (Or.inr rfl),
      h.created_not_mem _, rfl⟩

/-! ### Whole runs -/

/-- Every call succeeds, and the broker answers each of them once. -/
def promptBroker : External :=
  External.reliable [4, 8, 12, 26, 30, 34, 38, 42, 46, 50]
      [(7, [.suback 1], 0), (11, [.suback 2], 0), (15, [.publish (keysCertResponse certPem)], 1000),
        (29, [.unsuback 4], 0), (33, [.unsuback 5], 0), (37, [.suback 6], 0), (41, [.suback 7], 0),
        (45, [.publish registerThingResponse], 1000), (49, [.unsuback 9], 0),
        (53, [.unsuback 10], 0)]

end Runs

end FleetProvisioning

end ProvisioningSdk
