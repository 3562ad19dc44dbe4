import ProvisioningSdk.Provisioning.Workflow

/-!
# The Register Thing Request

What `PublishToTopic` is given for the register thing request, read off the log.

The request is built in the payload buffer, and published from there two steps
later. The step between them subscribes to the response topics, and waits for
two acknowledgements with the callback in place. An accepted response that
arrives in that time, of either request, is copied over the request, and then
is what gets published. So what is published is the last accepted response that
was delivered meanwhile, and the request itself only if there was none
(`registerThing_accounted`).

## Main definitions

* `requests`: The requests that were built and published in a run.
* `Intact`: What was published is the request that was built.
* `Undisturbed`: No other payload was delivered meanwhile.

## Theorems

* `iteration_good`: What an iteration publishes.
* `registerThing_intact_iff`: When the right request is published.
-/

namespace ProvisioningSdk

namespace FleetProvisioning

open Effect
open Serializer (generateRegisterThingRequest)

/-- A request that was built, and the publishes delivered since then. -/
structure Built where
  token : List UInt8
  request : List UInt8
  window : List Publish

/-- What was published, and the request that was built for it. -/
structure Sent where
  built : Option Built
  payload : List UInt8

/-- The request of the iteration, and everything published to register a
    thing. -/
structure Requests where
  current : Option Built
  sent : List Sent

/-- A delivery after a request was built. -/
def Built.deliver (b : Built) (info : Publish) : Built := { b with window := b.window ++ [info] }

/-- An entry of the log. -/
def Requests.step (r : Requests) : Event → Requests
  | .iteration => { r with current := none }
  | .generated token request => { r with current := some ⟨token, request, []⟩ }
  | .delivered info => { r with current := r.current.map (fun b => b.deliver info) }
  | .publishToTopic .FP_CBOR_REGISTER_PUBLISH_TOPIC payload =>
      { r with sent := ⟨r.current, payload⟩ :: r.sent }
  | _ => r

/-- The requests of a run. -/
def requests (trace : List Event) : Requests := trace.foldl Requests.step ⟨none, []⟩

theorem requests_concat (trace : List Event) (e : Event) :
    requests (trace ++ [e]) = (requests trace).step e := by
  unfold requests
  rw [List.foldl_append]
  rfl

section Runs

variable (E : External) (pDeviceSerialNumber : List UInt8)

/-- The request was built from its token and the serial number. -/
def Built.FromToken (b : Built) : Prop :=
  generateRegisterThingRequest E.tinyCborEncoder NETWORK_BUFFER_SIZE b.token
    (pDeviceSerialNumber.take 32) = .ok b.request

/-- The request, with what was delivered since then copied over it. -/
def Built.payload (b : Built) : List UInt8 := (lastAccepted E b.window).getD b.request

/-- What was published is the request that was built in the iteration. -/
def Intact (s : Sent) : Prop :=
  ∃ b, s.built = some b ∧ b.FromToken E pDeviceSerialNumber ∧ s.payload = b.request

/-- The last accepted response that was delivered between building the request
    and publishing it, if there was one, is the request byte for byte. -/
def Undisturbed (s : Sent) : Prop :=
  ∀ b payload, s.built = some b → lastAccepted E b.window = some payload → payload = b.request

/-- What was published is what a request was overwritten with. -/
def Accounted (s : Sent) : Prop :=
  ∃ b, s.built = some b ∧ b.FromToken E pDeviceSerialNumber ∧ s.payload = b.payload E

/-! ### The phases of an iteration -/

/-- All that was published is accounted for. -/
def AllAccounted (trace : List Event) : Prop :=
  ∀ s ∈ (requests trace).sent, Accounted E pDeviceSerialNumber s

/-- No request was built in this iteration. -/
def BeforeRequest (trace : List Event) : Prop :=
  AllAccounted E pDeviceSerialNumber trace ∧ (requests trace).current = none

/-- A request was built in this iteration, and the payload buffer has it or what
    was copied over it. -/
def WithRequest (w : World) : Prop :=
  AllAccounted E pDeviceSerialNumber w.trace ∧ ∃ b, (requests w.trace).current = some b ∧
    b.FromToken E pDeviceSerialNumber ∧ w.responses.payload = b.payload E

variable {E pDeviceSerialNumber}

/-- Only what is published counts. -/
theorem AllAccounted.concat {trace : List Event} (h : AllAccounted E pDeviceSerialNumber trace)
    (e : Event) (he : ((requests trace).step e).sent = (requests trace).sent) :
    AllAccounted E pDeviceSerialNumber (trace ++ [e]) := by
  unfold AllAccounted
  rw [requests_concat, he]
  exact h

/-- The entries that are neither about requests nor about iterations. -/
def Event.isNeutral : Event → Bool
  | .iteration | .generated _ _ | .delivered _ => false
  | .publishToTopic topic _ => topic != .FP_CBOR_REGISTER_PUBLISH_TOPIC
  | _ => true

theorem step_neutral (r : Requests) {e : Event} (he : e.isNeutral = true) : r.step e = r := by
  cases e with
  | publishToTopic topic payload =>
      cases topic <;> first | rfl | cases he
  | iteration => cases he
  | generated token request => cases he
  | delivered info => cases he
  | _ => rfl

theorem isNeutral_of_transport {e : Event} (he : e.isTransport = true) : e.isNeutral = true := by
  cases e <;> first | rfl | cases he

/-- The entries of the other steps are neutral. -/
theorem isNeutral_of_step {s : Step} (hgenerate : s ≠ .generateRequest)
    (hpublish : s ≠ .publishRegisterThing) {e : Event} (he : e.isOf s = true) :
    e.isNeutral = true := by
  unfold Event.isOf at he
  split at he
  case h_1 topic payload =>
      -- the create keys request is published to another topic
      rw [beq_iff_eq] at he
      rw [he]
      rfl
  case h_8 => exact absurd rfl hgenerate
  case h_9 => exact absurd rfl hpublish
  case h_13 => cases he
  all_goals rfl

theorem good_stable : StableSteps E (fun w => AllAccounted E pDeviceSerialNumber w.trace) := by
  refine StableSteps.ofTrace (K := AllAccounted E pDeviceSerialNumber) ?_ ?_
  · intro trace e he h
    exact h.concat e (by rw [step_neutral _ (isNeutral_of_transport he)])
  · intro trace info h
    exact h.concat _ rfl

theorem before_stable : StableSteps E (fun w => BeforeRequest E pDeviceSerialNumber w.trace) := by
  refine StableSteps.ofTrace (K := BeforeRequest E pDeviceSerialNumber) ?_ ?_
  · rintro trace e he ⟨hgood, hnone⟩
    have hstep := step_neutral (requests trace) (isNeutral_of_transport he)
    exact ⟨hgood.concat e (by rw [hstep]), by rw [requests_concat, hstep]; exact hnone⟩
  · rintro trace info ⟨hgood, hnone⟩
    refine ⟨hgood.concat _ rfl, ?_⟩
    rw [requests_concat, Requests.step, hnone]
    rfl

/-- A delivery is copied over the request just as it is entered into the log. -/
theorem with_stable : Stable E (WithRequest E pDeviceSerialNumber) where
  now := fun _ _ h => h
  mqtt := fun _ _ h => h
  transport := by
    rintro w e he ⟨hgood, b, hb, htoken, hpayload⟩
    have hstep := step_neutral (requests w.trace) (isNeutral_of_transport he)
    exact ⟨hgood.concat e (by rw [hstep]), b, by rw [World.log, requests_concat, hstep, hb], htoken,
      hpayload⟩
  deliver := by
    rintro w info ⟨hgood, b, hb, htoken, hpayload⟩
    -- the log has one delivery more, and the buffer what it left
    refine ⟨hgood.concat (.delivered info) rfl, b.deliver info, ?_, htoken, ?_⟩
    · unfold World.deliver World.log
      simp only
      rw [requests_concat, Requests.step, hb]
      rfl
    · rw [deliver_payload, hpayload]
      unfold Built.payload Built.deliver
      rw [lastAccepted_concat]
      -- a response that is accepted now is the last one
      cases (responseOf E info).bind Response.acceptedPayload with
      | none => rfl
      | some payload => rfl

/-- A step that is not about the request, before it. -/
theorem before_step (s : Step) (hgenerate : s ≠ .generateRequest)
    (hpublish : s ≠ .publishRegisterThing) :
    Triple (fun w => BeforeRequest E pDeviceSerialNumber w.trace)
      (workflowStep E pDeviceSerialNumber s)
      (fun _ w => BeforeRequest E pDeviceSerialNumber w.trace)
      (fun w => AllAccounted E pDeviceSerialNumber w.trace) := by
  have hlog : ∀ (w : World) (e : Event), e.isNeutral = true →
      BeforeRequest E pDeviceSerialNumber w.trace →
      BeforeRequest E pDeviceSerialNumber (w.log e).trace := by
    rintro w e he ⟨hgood, hnone⟩
    have hstep := step_neutral (requests w.trace) he
    exact ⟨hgood.concat e (by rw [hstep]), by rw [World.log, requests_concat, hstep]; exact hnone⟩
  refine Triple.consequence (before_stable.workflowStep pDeviceSerialNumber s ?_ ?_ ?_ ?_)
    (fun _ h => h) (fun _ _ h => h) (fun _ h => h.1)
  · exact fun w e he h => hlog w e (isNeutral_of_step hgenerate hpublish he) h
  · exact fun _ _ _ h => h
  · exact fun _ _ _ h => h
  · exact fun w status h => hlog w _ rfl h

/-- A step that is not about the request, after it. -/
theorem good_step (s : Step) (hgenerate : s ≠ .generateRequest)
    (hpublish : s ≠ .publishRegisterThing) :
    Keeps (fun w => AllAccounted E pDeviceSerialNumber w.trace)
      (workflowStep E pDeviceSerialNumber s) := by
  refine good_stable.workflowStep pDeviceSerialNumber s ?_ (fun _ _ _ h => h)
    (fun _ _ _ h => h) ?_
  · intro w e he h
    exact h.concat e (by rw [step_neutral _ (isNeutral_of_step hgenerate hpublish he)])
  · exact fun w status h => h.concat _ rfl

/-- Building the request puts it into the payload buffer. -/
theorem generate_step :
    Triple (fun w => BeforeRequest E pDeviceSerialNumber w.trace)
      (workflowStep E pDeviceSerialNumber .generateRequest)
      (Gate (WithRequest E pDeviceSerialNumber)
        (fun w => AllAccounted E pDeviceSerialNumber w.trace))
      (fun w => AllAccounted E pDeviceSerialNumber w.trace) := by
  rintro w ⟨hgood, -⟩
  unfold workflowStep call generateRequest
  simp only
  rw [bind_eq, get_bind]
  cases hrequest : generateRegisterThingRequest E.tinyCborEncoder NETWORK_BUFFER_SIZE w.locals.token
      (pDeviceSerialNumber.take 32) with
  -- without a request the iteration ends, whatever is left in the buffer
  | error written => exact hgood.concat _ rfl
  | ok request =>
      have hgenerated := hgood.concat (.generated w.locals.token request) rfl
      refine ⟨hgenerated.concat (.step .generateRequest true) rfl,
        ⟨w.locals.token, request, []⟩, ?_, hrequest, ?_⟩
      · simp only [World.log, requests_concat, Requests.step]
      -- no publish has been delivered since then
      · exact Bytes.slice_copy_self w.responses.payloadBuffer 0 request

/-- Subscribing keeps the request, apart from what is copied over it. -/
theorem subscribe_step :
    Triple (WithRequest E pDeviceSerialNumber)
      (workflowStep E pDeviceSerialNumber .subscribeToRegisterThing)
      (fun _ => WithRequest E pDeviceSerialNumber)
      (fun w => AllAccounted E pDeviceSerialNumber w.trace) := by
  refine Triple.consequence (P := WithRequest E pDeviceSerialNumber)
    (Q := fun _ => WithRequest E pDeviceSerialNumber) (E := WithRequest E pDeviceSerialNumber)
    ?_ (fun _ h => h) (fun _ _ h => h) (fun _ h => h.1)
  refine workflowStep_triple (StableCalls.subscribeToBoth with_stable.toTraffic _ _) ?_
  rintro status w ⟨hgood, b, hb, htoken, hpayload⟩
  refine ⟨hgood.concat _ rfl, b, ?_, htoken, hpayload⟩
  rw [World.log, requests_concat]
  exact hb

/-- Publishing hands on what is in the payload buffer. -/
theorem publish_step :
    Triple (WithRequest E pDeviceSerialNumber)
      (workflowStep E pDeviceSerialNumber .publishRegisterThing)
      (fun _ w => AllAccounted E pDeviceSerialNumber w.trace)
      (fun w => AllAccounted E pDeviceSerialNumber w.trace) := by
  have hlog : ∀ w, WithRequest E pDeviceSerialNumber w →
      AllAccounted E pDeviceSerialNumber (w.log (.publishToTopic .FP_CBOR_REGISTER_PUBLISH_TOPIC
        w.responses.payload)).trace := by
    rintro w ⟨hgood, b, hb, htoken, hpayload⟩ s hs
    rw [World.log, requests_concat, Requests.step] at hs
    -- what is published now, and what was before
    rcases List.mem_cons.mp hs with rfl | hs
    · exact ⟨b, hb, htoken, hpayload⟩
    · exact hgood s hs
  refine workflowStep_triple (Q := fun _ w => AllAccounted E pDeviceSerialNumber w.trace) ?_
    (fun status w h => h.concat _ rfl)
  intro w hw
  -- the length that is handed on is the one of the buffer at the moment
  have hpublish := good_stable.toTraffic.PublishToTopic (P := fun w' => w' = w)
    (I := fun w => AllAccounted E pDeviceSerialNumber w.trace) .FP_CBOR_REGISTER_PUBLISH_TOPIC
    .payloadBuffer w.responses.payloadLength (fun w' h => h ▸ hlog w hw)
  exact hpublish w rfl

/-! ### Whole runs -/

/-- The steps of an iteration around the request. -/
theorem claimSteps_eq : claimSteps =
    [.establishWithClaim, .subscribeToKeysCert, .publishKeysCert, .waitForKeysCert, .parseKeysCert,
        .loadPrivateKey, .loadCertificate, .unsubscribeFromKeysCert] ++
      ([.generateRequest] ++ ([.subscribeToRegisterThing] ++ ([.publishRegisterThing] ++
        [.waitForRegisterThing, .parseRegisterThing, .unsubscribeFromRegisterThing]))) := rfl

/-- The steps that use the connection with the claim credentials. -/
theorem claimSteps_good (status : Bool) :
    Triple (fun w => BeforeRequest E pDeviceSerialNumber w.trace)
      (gates (workflowStep E pDeviceSerialNumber) status claimSteps)
      (fun _ w => AllAccounted E pDeviceSerialNumber w.trace)
      (fun w => AllAccounted E pDeviceSerialNumber w.trace) := by
  rw [claimSteps_eq]
  refine Triple.consequence (P := Gate (fun w => BeforeRequest E pDeviceSerialNumber w.trace)
      (fun w => AllAccounted E pDeviceSerialNumber w.trace) status)
    (Q := Gate (fun w => AllAccounted E pDeviceSerialNumber w.trace)
      (fun w => AllAccounted E pDeviceSerialNumber w.trace))
    (E := fun w => AllAccounted E pDeviceSerialNumber w.trace) ?_ ?_ ?_ (fun _ h => h)
  -- before the request, the three steps about it, and after it
  · refine Triple.gates_append (Triple.gates_keeps ?_ (fun _ h => h.1) status) (fun status => ?_)
    · intro s hs
      refine before_step s ?_ ?_ <;> rintro rfl <;> simp at hs
    refine Triple.gates_append (Triple.gates_one generate_step status) (fun status => ?_)
    refine Triple.gates_append (Triple.gates_keeps ?_ (fun _ h => h.1) status) (fun status => ?_)
    · intro s hs
      rw [List.mem_singleton.mp hs]
      exact subscribe_step
    refine Triple.gates_append (Triple.gates_one (publish_step.consequence (fun _ h => h) ?_
      (fun _ h => h)) status) (fun status => Triple.gates_keeps ?_ (fun _ h => h) status)
    · intro status w h
      rw [gate_self]
      exact h
    · intro s hs
      refine good_step s ?_ ?_ <;> rintro rfl <;> simp at hs
  · intro w h
    cases status with
    | false => exact h.1
    | true => exact h
  · intro status w h
    rw [gate_self] at h
    exact h

/-- What an iteration publishes is accounted for. -/
theorem iteration_good (status : Bool) :
    Keeps (fun w => AllAccounted E pDeviceSerialNumber w.trace)
      (iteration E pDeviceSerialNumber status) := by
  refine iteration_triple (R := fun w => BeforeRequest E pDeviceSerialNumber w.trace) ?_
    (claimSteps_good status) good_stable.closeConnection
    (good_step _ (fun h => nomatch h) (fun h => nomatch h))
  -- a new iteration has not built its request yet
  intro w h
  exact ⟨h.concat .iteration rfl, by unfold World.begin World.log; rw [requests_concat]; rfl⟩

variable (E pDeviceSerialNumber)

/-- What a run publishes to register a thing is the last accepted response that
    was delivered since the request was built, or else the request. -/
theorem registerThing_accounted (maxDemoLoopCount : Nat) (w : World) :
    AllAccounted E pDeviceSerialNumber (stateOf
      (ProvisionDevicePKCS11WithFP E pDeviceSerialNumber maxDemoLoopCount w)).trace :=
  provision_keeps iteration_good (fun _ h => h) maxDemoLoopCount w
    (fun _ h => absurd h List.not_mem_nil)

/-- Every register thing request that is published is the one that was built,
    exactly if no other payload was delivered between building and publishing
    it. -/
theorem registerThing_intact_iff (maxDemoLoopCount : Nat) (w : World) :
    (∀ s ∈ (requests (stateOf (ProvisionDevicePKCS11WithFP E pDeviceSerialNumber maxDemoLoopCount
        w)).trace).sent, Intact E pDeviceSerialNumber s) ↔
      ∀ s ∈ (requests (stateOf (ProvisionDevicePKCS11WithFP E pDeviceSerialNumber maxDemoLoopCount
        w)).trace).sent, Undisturbed E s := by
  refine forall₂_congr (fun s hs => ?_)
  rcases registerThing_accounted E pDeviceSerialNumber maxDemoLoopCount w s hs with
    ⟨b, hb, htoken, hpayload⟩
  unfold Built.payload at hpayload
  constructor
  · rintro ⟨b', hb', -, hintact⟩ b'' payload hb'' hlast
    rw [hb] at hb' hb''
    cases hb'
    cases hb''
    rw [hintact, hlast, Option.getD_some] at hpayload
    exact hpayload.symm
  · intro h
    refine ⟨b, hb, htoken, ?_⟩
    -- the request is what was published, or what it was overwritten with is the same
    cases hlast : lastAccepted E b.window with
    | none =>
        rw [hlast, Option.getD_none] at hpayload
        exact hpayload
    | some payload =>
        rw [hlast, Option.getD_some] at hpayload
        rw [hpayload]
        exact h b payload hb hlast

/-- The response to the create keys request is delivered a second time, with the
    acknowledgement of the first subscription to the register thing topics. -/
def lateDuplicate : External :=
  External.reliable [4, 8, 12, 26, 30, 34, 38, 42]
    [(7, [.suback 1], 0), (11, [.suback 2], 0), (15, [.publish (keysCertResponse certPem)], 1000),
      (29, [.unsuback 4], 0), (33, [.unsuback 5], 0),
      (37, [.publish (keysCertResponse certPem), .suback 6], 0), (41, [.suback 7], 0),
      (45, [], 1000)]

/-- The response is published in place of the request. -/
theorem registerThing_overwritten :
    ¬ ∀ s ∈ (requests (stateOf (ProvisionDevicePKCS11WithFP lateDuplicate (ascii "serial") 1
        World.initial)).trace).sent, Intact lateDuplicate (ascii "serial") s := by
  have hrun : (requests (stateOf (ProvisionDevicePKCS11WithFP lateDuplicate (ascii "serial") 1
      World.initial)).trace).sent.any
        (fun s => s.built.all (fun b => b.request != s.payload)) = true := by
    decide +kernel
  rcases List.any_eq_true.mp hrun with ⟨s, hs, hother⟩
  intro h
  rcases h s hs with ⟨b, hb, -, hpayload⟩
  rw [hb, hpayload, Option.all_some, bne_self_eq_false] at hother
  cases hother

end Runs

end FleetProvisioning

end ProvisioningSdk
