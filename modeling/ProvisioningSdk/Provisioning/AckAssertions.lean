import ProvisioningSdk.Provisioning.CallInvariants
import ProvisioningSdk.Provisioning.OutgoingPublishes

/-!
# The Assertions on Acknowledgements

When the assertions of `mqttCallback` hold, with a broker that acknowledges
every request at most once and with its own identifier.

The callback compares the identifier of a SUBACK with one variable, which has
the identifier of the last SUBSCRIBE, and that of an UNSUBACK with another. A
wait that runs out of time does not withdraw its request, and the next call
overwrites the variable. An acknowledgement that comes after that is the right
answer to a request of this program, and the program stops at the assertion.

So what counts is the order in which requests and acknowledgements are entered
into the log: each SUBACK has to come before the next SUBSCRIBE, and each
UNSUBACK before the next UNSUBSCRIBE. The acknowledgements of publishes are
looked up in the table, and nothing is asserted of them that a broker of that
kind could break.

## Main definitions

* `RequestKind`, `Event.requests`, `Event.acknowledges`: Requests and their
  acknowledgements in the log.
* `Throughout`: A condition on each entry with those before it.
* `Honest`: What the broker is assumed to do.
* `Timely`: No acknowledgement comes after the next request of its kind.
* `Current`: The variables have the last requests.

## Theorems

* `timely_ack_iff`: An acknowledgement is timely if it is for the variable.
* `current_stable`: Every call keeps the variables, or stops at an assertion on
  an acknowledgement that is late.
* `assertions_hold_iff`: The exact condition, after any calls.
-/

namespace ProvisioningSdk

namespace FleetProvisioning

open Effect Transition

/-- The requests that are acknowledged. -/
inductive RequestKind
  | subscribe
  | unsubscribe
  | publish
  deriving DecidableEq, Repr

/-- The identifier of a request of this kind. -/
def Event.requests : RequestKind → Event → Option Nat
  | .subscribe, .mqttSubscribe _ packetId => some packetId
  | .unsubscribe, .mqttUnsubscribe _ packetId => some packetId
  | .publish, .mqttPublish packet _ _ => some packet.packetId
  | _, _ => none

/-- The identifier of an acknowledgement of such a request. -/
def Event.acknowledges : RequestKind → Event → Option Nat
  | .subscribe, .received (.suback packetIdentifier) => some packetIdentifier
  | .unsubscribe, .received (.unsuback packetIdentifier) => some packetIdentifier
  | .publish, .received (.puback packetIdentifier) => some packetIdentifier
  | _, _ => none

/-- How many requests of this kind there are under an identifier. -/
def requested (kind : RequestKind) (packetId : Nat) (entries : List Event) : Nat :=
  entries.countP (fun e => e.requests kind == some packetId)

/-- How many acknowledgements there are of them. -/
def acknowledged (kind : RequestKind) (packetId : Nat) (entries : List Event) : Nat :=
  entries.countP (fun e => e.acknowledges kind == some packetId)

/-- The identifier of the last request of this kind. -/
def lastRequest (kind : RequestKind) (entries : List Event) : Option Nat :=
  entries.foldl (fun last e => (e.requests kind).or last) none

/-- Each entry meets the condition together with the entries before it. -/
def Throughout (P : List Event → Event → Prop) (before : List Event) : List Event → Prop
  | [] => True
  | e :: rest => P before e ∧ Throughout P (before ++ [e]) rest

theorem throughout_concat (P : List Event → Event → Prop) (before entries : List Event)
    (e : Event) : Throughout P before (entries ++ [e]) ↔
      Throughout P before entries ∧ P (before ++ entries) e := by
  induction entries generalizing before with
  | nil =>
      rw [List.append_nil, List.nil_append]
      exact and_comm
  | cons e' entries ih =>
      rw [List.cons_append, Throughout, Throughout, ih, List.append_assoc, List.singleton_append,
        and_assoc]

/-- Every acknowledgement is for a request that was made and is not acknowledged
    yet. -/
def Honest (trace : List Event) : Prop :=
  Throughout (fun before e => ∀ kind packetId, e.acknowledges kind = some packetId →
    acknowledged kind packetId before < requested kind packetId before) [] trace

/-- Every SUBACK and UNSUBACK is for the last request of its kind. -/
def Timely (trace : List Event) : Prop :=
  Throughout (fun before e => ∀ kind packetId, kind ≠ .publish →
    e.acknowledges kind = some packetId → lastRequest kind before = some packetId) [] trace

/-- The variables have the identifiers of the last requests, no publish has gone
    out without an identifier, and so far every acknowledgement came in time. -/
structure Current (w : World) : Prop where
  subscribe : ∀ packetId ∈ lastRequest .subscribe w.trace,
    w.mqtt.globalSubscribePacketIdentifier = packetId
  unsubscribe : ∀ packetId ∈ lastRequest .unsubscribe w.trace,
    w.mqtt.globalUnsubscribePacketIdentifier = packetId
  published : requested .publish MQTT_PACKET_ID_INVALID w.trace = 0
  timely : Honest w.trace → Timely w.trace

/-- Where a call stops: blocked, with every acknowledgement in time, or at an
    assertion, with one that came late. -/
def StopsLate : Halt → World → Prop
  | .fault .assertionFailed, w => Honest w.trace → ¬ Timely w.trace
  | .fault _, _ => False
  | .blocked, w => Honest w.trace → Timely w.trace

/-- The world a call ends in. -/
def endsIn {α : Type} : EStateM.Result Halt World α → World
  | .ok _ w => w
  | .error _ w => w

/-! ### One more entry -/

theorem honest_concat {trace : List Event} {e : Event} (h : Honest (trace ++ [e])) :
    Honest trace ∧ ∀ kind packetId, e.acknowledges kind = some packetId →
      acknowledged kind packetId trace < requested kind packetId trace :=
  (throughout_concat _ [] trace e).mp h

theorem timely_concat (trace : List Event) (e : Event) :
    Timely (trace ++ [e]) ↔ Timely trace ∧ ∀ kind packetId, kind ≠ .publish →
      e.acknowledges kind = some packetId → lastRequest kind trace = some packetId :=
  throughout_concat _ [] trace e

theorem lastRequest_concat (kind : RequestKind) (entries : List Event) (e : Event) :
    lastRequest kind (entries ++ [e]) = (e.requests kind).or (lastRequest kind entries) := by
  unfold lastRequest
  rw [List.foldl_append]
  rfl

theorem requested_concat (kind : RequestKind) (packetId : Nat) (entries : List Event) (e : Event)
    (h : e.requests kind ≠ some packetId) :
    requested kind packetId (entries ++ [e]) = requested kind packetId entries := by
  unfold requested
  rw [List.countP_append, List.countP_singleton, if_neg, Nat.add_zero]
  rw [beq_iff_eq]
  exact h

/-- Where a request was made there is a last one. -/
theorem exists_lastRequest {kind : RequestKind} {packetId : Nat} {entries : List Event}
    (h : 0 < requested kind packetId entries) : ∃ last, lastRequest kind entries = some last := by
  induction entries using List.reverseRecOn with
  | nil => exact absurd h (Nat.lt_irrefl 0)
  | append_singleton entries e ih =>
      rw [lastRequest_concat]
      cases hreq : e.requests kind with
      | some packetId' => exact ⟨packetId', rfl⟩
      | none =>
          rw [requested_concat kind packetId entries e (by rw [hreq]; exact nofun)] at h
          rcases ih h with ⟨last, hlast⟩
          exact ⟨last, hlast⟩

/-- An acknowledgement that is compared with this variable is timely if and only
    if it is the same. -/
theorem timely_ack_iff {trace : List Event} (e : Event) (kind : RequestKind)
    (packetIdentifier : Nat) {globalIdentifier : Nat} (hkind : kind ≠ .publish)
    (hack : ∀ kind' packetId, e.acknowledges kind' = some packetId ↔
      kind' = kind ∧ packetId = packetIdentifier)
    (hglobal : ∀ packetId ∈ lastRequest kind trace, globalIdentifier = packetId)
    (htimely : Honest trace → Timely trace) (hhonest : Honest (trace ++ [e])) :
    Timely (trace ++ [e]) ↔ globalIdentifier = packetIdentifier := by
  rcases honest_concat hhonest with ⟨hbefore, hanswers⟩
  have hasked := hanswers kind packetIdentifier ((hack kind packetIdentifier).mpr ⟨rfl, rfl⟩)
  rcases exists_lastRequest (Nat.zero_lt_of_lt hasked) with ⟨last, hlast⟩
  have hvariable := hglobal last hlast
  rw [timely_concat, and_iff_right (htimely hbefore)]
  constructor
  · intro h
    have heq := h kind packetIdentifier hkind ((hack kind packetIdentifier).mpr ⟨rfl, rfl⟩)
    rw [hlast, Option.some.injEq] at heq
    exact hvariable.trans heq
  · rintro rfl kind' packetId - hkind'
    rcases (hack kind' packetId).mp hkind' with ⟨rfl, rfl⟩
    rw [hlast, hvariable]

/-- An entry that is no such acknowledgement does not come late. -/
theorem timely_quiet {trace : List Event} {e : Event}
    (hquiet : ∀ kind, kind ≠ .publish → e.acknowledges kind = none)
    (htimely : Honest trace → Timely trace) (hhonest : Honest (trace ++ [e])) :
    Timely (trace ++ [e]) := by
  refine (timely_concat trace e).mpr ⟨htimely (honest_concat hhonest).1, ?_⟩
  intro kind packetId hkind hack
  rw [hquiet kind hkind] at hack
  cases hack

namespace Current

variable {w w' : World}

/-- An entry that is neither a SUBSCRIBE or UNSUBSCRIBE nor one of their
    acknowledgements. -/
theorem of_log (h : Current w) {e : Event} (htrace : w'.trace = w.trace ++ [e])
    (hsubscribe : w'.mqtt.globalSubscribePacketIdentifier = w.mqtt.globalSubscribePacketIdentifier)
    (hunsubscribe : w'.mqtt.globalUnsubscribePacketIdentifier =
      w.mqtt.globalUnsubscribePacketIdentifier)
    (hpublish : e.requests .publish ≠ some MQTT_PACKET_ID_INVALID)
    (hother : ∀ kind, kind ≠ .publish → e.requests kind = none ∧ e.acknowledges kind = none) :
    Current w' where
  subscribe := by
    rw [htrace, lastRequest_concat, (hother .subscribe (by decide)).1, Option.none_or, hsubscribe]
    exact h.subscribe
  unsubscribe := by
    rw [htrace, lastRequest_concat, (hother .unsubscribe (by decide)).1, Option.none_or,
      hunsubscribe]
    exact h.unsubscribe
  published := by
    rw [htrace, requested_concat _ _ _ _ hpublish]
    exact h.published
  timely := by
    rw [htrace]
    exact timely_quiet (fun kind hkind => (hother kind hkind).2) h.timely

/-- A change that is neither in the log nor of the two variables. -/
theorem of_eq (h : Current w) (htrace : w'.trace = w.trace)
    (hsubscribe : w'.mqtt.globalSubscribePacketIdentifier = w.mqtt.globalSubscribePacketIdentifier)
    (hunsubscribe : w'.mqtt.globalUnsubscribePacketIdentifier =
      w.mqtt.globalUnsubscribePacketIdentifier) : Current w' where
  subscribe := by
    rw [htrace, hsubscribe]
    exact h.subscribe
  unsubscribe := by
    rw [htrace, hunsubscribe]
    exact h.unsubscribe
  published := by
    rw [htrace]
    exact h.published
  timely := by
    rw [htrace]
    exact h.timely

end Current

section Calls

variable (E : External)

/-! ### Packets -/

/-- The variables after an acknowledgement with the identifier they have. -/
theorem Current.acknowledged {w : World} (h : Current w) {e : Event} (packetIdentifier : Nat)
    (hrequests : ∀ kind, e.requests kind = none)
    (htimely : Honest (w.trace ++ [e]) → Timely (w.trace ++ [e])) :
    Current { w.log e with
      mqtt := { w.mqtt with globalAckPacketIdentifier := packetIdentifier } } where
  subscribe := by
    simp only [World.log]
    rw [lastRequest_concat, hrequests, Option.none_or]
    exact h.subscribe
  unsubscribe := by
    simp only [World.log]
    rw [lastRequest_concat, hrequests, Option.none_or]
    exact h.unsubscribe
  published := by
    simp only [World.log]
    rw [requested_concat _ _ _ _ (by rw [hrequests]; exact Option.some_ne_none _ ∘ Eq.symm)]
    exact h.published
  timely := htimely

/-- An acknowledgement with the identifier of the variable keeps the variables,
    and one with another is late. -/
theorem Current.answered {w : World} (h : Current w) (e : Event) (kind : RequestKind)
    (packetIdentifier : Nat) {globalIdentifier : Nat} (hkind : kind ≠ .publish)
    (hack : ∀ kind' packetId, e.acknowledges kind' = some packetId ↔
      kind' = kind ∧ packetId = packetIdentifier)
    (hrequests : ∀ kind', e.requests kind' = none)
    (hglobal : ∀ packetId ∈ lastRequest kind w.trace, globalIdentifier = packetId) :
    (globalIdentifier = packetIdentifier →
      Current { w.log e with
        mqtt := { w.mqtt with globalAckPacketIdentifier := packetIdentifier } }) ∧
      (globalIdentifier ≠ packetIdentifier → StopsLate (.fault .assertionFailed) (w.log e)) := by
  have hiff := timely_ack_iff e kind packetIdentifier hkind hack hglobal h.timely
  constructor
  · intro heq
    exact h.acknowledged packetIdentifier hrequests fun hhonest => (hiff hhonest).mpr heq
  · intro hne hhonest htimely
    exact hne ((hiff hhonest).mp htimely)

/-- A packet keeps the variables, or stops the program at the assertion on an
    acknowledgement that is late. -/
theorem current_callback (packet : Packet) :
    KeepsOr Current StopsLate (mqttCallback E packet) := by
  intro w h
  cases packet with
  | publish info =>
      -- a publish is taken over or not, and acknowledges nothing
      have hkeeps : KeepsOr Current StopsLate (mqttCallback E (.publish info)) :=
        KeepsOr.get_bind (fun _ => KeepsOr.ite
          (fun _ => KeepsOr.modify (fun w h => h.of_log (e := .delivered info) rfl rfl rfl
            (fun hpublish => by cases hpublish) (fun kind _ => by cases kind <;> exact ⟨rfl, rfl⟩)))
          (fun _ => KeepsOr.pure _))
      exact hkeeps w h
  | suback packetIdentifier =>
      -- an answer to an older request finds another identifier here
      rcases h.answered (.received (.suback packetIdentifier)) .subscribe packetIdentifier
        (by decide) (fun kind packetId => by cases kind <;> simp [Event.acknowledges, eq_comm])
        (fun kind => by cases kind <;> rfl) h.subscribe with ⟨hcurrent, hlate⟩
      rw [mqttCallback_suback]
      by_cases heq : w.mqtt.globalSubscribePacketIdentifier = packetIdentifier
      · rw [if_pos heq]
        exact hcurrent heq
      · rw [if_neg heq]
        exact hlate heq
  | unsuback packetIdentifier =>
      -- likewise
      rcases h.answered (.received (.unsuback packetIdentifier)) .unsubscribe packetIdentifier
        (by decide) (fun kind packetId => by cases kind <;> simp [Event.acknowledges, eq_comm])
        (fun kind => by cases kind <;> rfl) h.unsubscribe with ⟨hcurrent, hlate⟩
      rw [mqttCallback_unsuback]
      by_cases heq : w.mqtt.globalUnsubscribePacketIdentifier = packetIdentifier
      · rw [if_pos heq]
        exact hcurrent heq
      · rw [if_neg heq]
        exact hlate heq
  | pingresp =>
      exact h.of_log (e := .received .pingresp) rfl rfl rfl (fun hpublish => by cases hpublish)
        (fun kind _ => by cases kind <;> exact ⟨rfl, rfl⟩)
  | puback packetIdentifier =>
      rw [mqttCallback_puback]
      by_cases hid : packetIdentifier = MQTT_PACKET_ID_INVALID
      · rw [if_pos hid, hid]
        intro hhonest
        -- nothing was published under this identifier
        have hasked := (honest_concat hhonest).2 .publish MQTT_PACKET_ID_INVALID rfl
        rw [h.published] at hasked
        exact absurd hasked (Nat.not_lt_zero _)
      · rw [if_neg hid]
        refine h.of_log (e := .received (.puback packetIdentifier)) rfl rfl rfl
          (fun hpublish => by cases hpublish) (fun kind hkind => ?_)
        cases kind with
        | publish => exact absurd rfl hkind
        | subscribe => exact ⟨rfl, rfl⟩
        | unsubscribe => exact ⟨rfl, rfl⟩
  | other type =>
      exact h.of_log (e := .received (.other type)) rfl rfl rfl (fun hpublish => by cases hpublish)
        (fun kind _ => by cases kind <;> exact ⟨rfl, rfl⟩)

/-! ### Requests -/

/-- A SUBSCRIBE and its identifier. -/
theorem Current.subscribing {w : World} (h : Current w) (topicFilter : ApiTopic) :
    Current (w.subscribing E topicFilter) where
  subscribe := by
    simp only [World.subscribing, World.log]
    rw [lastRequest_concat]
    exact fun packetId hlast => Option.some.inj hlast
  unsubscribe := by
    simp only [World.subscribing, World.log]
    rw [lastRequest_concat]
    exact h.unsubscribe
  published := by
    simp only [World.subscribing, World.log]
    rw [requested_concat _ _ _ _ (fun hpublish => by cases hpublish)]
    exact h.published
  timely := timely_quiet (fun kind _ => by cases kind <;> rfl) h.timely

/-- An UNSUBSCRIBE and its identifier. -/
theorem Current.unsubscribing {w : World} (h : Current w) (topicFilter : ApiTopic) :
    Current (w.unsubscribing E topicFilter) where
  subscribe := by
    simp only [World.unsubscribing, World.log]
    rw [lastRequest_concat]
    exact h.subscribe
  unsubscribe := by
    simp only [World.unsubscribing, World.log]
    rw [lastRequest_concat]
    exact fun packetId hlast => Option.some.inj hlast
  published := by
    simp only [World.unsubscribing, World.log]
    rw [requested_concat _ _ _ _ (fun hpublish => by cases hpublish)]
    exact h.published
  timely := timely_quiet (fun kind _ => by cases kind <;> rfl) h.timely

/-- A record with an identifier is sent. -/
theorem Current.sent {w : World} (h : Current w) {packet : PublishPackets}
    (hid : packet.packetId ≠ MQTT_PACKET_ID_INVALID) : Current (w.sent E packet) := by
  refine h.of_log rfl rfl rfl ?_ (fun kind hkind => ?_)
  · exact fun hpublish => hid (Option.some.inj hpublish)
  · cases kind with
    | publish => exact absurd rfl hkind
    | subscribe => exact ⟨rfl, rfl⟩
    | unsubscribe => exact ⟨rfl, rfl⟩

theorem current_publish (hids : ∀ now, E.MQTT_GetPacketId now ≠ MQTT_PACKET_ID_INVALID)
    (topic : ApiTopic) (pPayload : Pointer) (payloadLength : Nat) :
    KeepsOr Current StopsLate (PublishToTopic E topic pPayload payloadLength) := by
  intro w h
  -- the call itself in the log changes no identifier that waits
  have hlogged : ∀ w', w'.trace = w.trace ++
      [.publishToTopic topic (w.responses.read pPayload payloadLength)] →
      w'.mqtt.globalSubscribePacketIdentifier = w.mqtt.globalSubscribePacketIdentifier →
      w'.mqtt.globalUnsubscribePacketIdentifier = w.mqtt.globalUnsubscribePacketIdentifier →
      Current w' := fun w' htrace hsubscribe hunsubscribe =>
    h.of_log htrace hsubscribe hunsubscribe (fun hpublish => by cases hpublish)
      (fun kind _ => by cases kind <;> exact ⟨rfl, rfl⟩)
  cases hindex : getNextFreeIndexForOutgoingPublishes w.mqtt.outgoingPublishPackets with
  | none =>
      rw [publishToTopic_full E hindex]
      exact hlogged _ rfl rfl rfl
  | some index =>
      rw [publishToTopic_free E hindex]
      have hsent : Current (w.publish E topic pPayload payloadLength index) :=
        (hlogged (w.stored E topic pPayload payloadLength index) rfl rfl rfl).sent E (hids w.now)
      split
      · rename_i status w' hrun
        split at hrun
        · cases hrun
          exact hsent
        · cases hrun
          exact hsent.of_eq rfl rfl rfl
      · rename_i halt w' hrun
        split at hrun
        · cases hrun
        · cases hrun

theorem current_resend (indices : List Nat) :
    KeepsOr Current StopsLate (resendFrom E indices) := by
  induction indices with
  | nil => exact KeepsOr.pure _
  | cons index rest ih =>
      intro w h
      by_cases hid : (w.mqtt.outgoingPublishPackets index).packetId = MQTT_PACKET_ID_INVALID
      · rw [resendFrom_free E hid]
        exact ih w h
      · rw [resendFrom_stored E hid]
        have hresent : Current (w.resent E index) := by
          have hstore : Current
              (w.store index (w.mqtt.outgoingPublishPackets index).flag) := h.of_eq rfl rfl rfl
          exact hstore.sent E hid
        by_cases hstatus : E.MQTT_Publish w.now = .MQTTSuccess
        · rw [if_pos hstatus]
          exact ih _ hresent
        · rw [if_neg hstatus]
          exact hresent

/-- Every call keeps the variables, or stops at an assertion on an
    acknowledgement that is late. -/
theorem current_stable (hids : ∀ now, E.MQTT_GetPacketId now ≠ MQTT_PACKET_ID_INVALID) :
    StableApi E Current StopsLate where
  now := fun _ _ h => h.of_eq rfl rfl rfl
  session := fun _ _ _ _ h => h.of_eq rfl rfl rfl
  connection := by
    intro w e he h
    refine h.of_log (e := e) rfl rfl rfl ?_ ?_
    · cases e with
      | tlsConnect clientCert privateKey connected => exact nofun
      | tlsDisconnect => exact nofun
      | _ => cases he
    · intro kind _
      cases e with
      | tlsConnect clientCert privateKey connected => cases kind <;> exact ⟨rfl, rfl⟩
      | tlsDisconnect => cases kind <;> exact ⟨rfl, rfl⟩
      | _ => cases he
  blocked := fun _ h => h.timely
  subscribe := fun topicFilter _ h => h.subscribing E topicFilter
  unsubscribe := fun topicFilter _ h => h.unsubscribing E topicFilter
  callback := current_callback E
  publish := current_publish E hids
  resend := current_resend E _
  forget := KeepsOr.modify (fun _ h => h.of_eq rfl rfl rfl)

/-- After any calls, and with a broker that acknowledges each request at most
    once and with its own identifier, a call fails no assertion if and only if
    every SUBACK and UNSUBACK so far is for the last request of its kind. -/
theorem assertions_hold_iff (hids : ∀ now, E.MQTT_GetPacketId now ≠ MQTT_PACKET_ID_INVALID)
    (calls : List ApiCall) (w : World) (hrun : (apiRuns E World.initial).run calls = some w)
    (call : ApiCall) (hhonest : Honest (endsIn (call.program E w)).trace) :
    (∀ w', call.program E w ≠ .error (.fault .assertionFailed) w') ↔
      Timely (endsIn (call.program E w)).trace := by
  have hinitial : Current World.initial := ⟨nofun, nofun, rfl, fun _ => trivial⟩
  have hw : Current w := (current_stable E hids).run hinitial hrun
  have hend := (current_stable E hids).program call w hw
  cases hcall : call.program E w with
  | ok status w' =>
      rw [hcall] at hend hhonest
      exact ⟨fun _ => hend.timely hhonest, fun _ _ => nofun⟩
  | error halt w' =>
      rw [hcall] at hend hhonest
      cases halt with
      | blocked => exact ⟨fun _ => hend hhonest, fun _ _ => nofun⟩
      | fault f =>
          cases f with
          | assertionFailed =>
              refine ⟨fun hnever => absurd rfl (hnever w'), fun htimely => ?_⟩
              exact absurd htimely (hend hhonest)
          | _ => exact hend.elim

end Calls

/-- A broker that answers in time. -/
def promptSuback : External := External.reliable [0] [(3, [.suback 1], 0)]

/-- An acknowledgement that comes in time. -/
theorem assertions_hold_answered :
    Honest (endsIn ((ApiCall.SubscribeToTopic .FP_CBOR_CREATE_KEYS_ACCEPTED_TOPIC).program
        promptSuback World.initial)).trace ∧
      ∀ w', (ApiCall.SubscribeToTopic .FP_CBOR_CREATE_KEYS_ACCEPTED_TOPIC).program promptSuback
        World.initial ≠ .error (.fault .assertionFailed) w' := by
  -- the one acknowledgement is of the one request
  have hsuback : ∀ kind packetId,
      (Event.received (.suback 1)).acknowledges kind = some packetId →
        kind = .subscribe ∧ packetId = 1 := by
    intro kind packetId hack
    cases kind with
    | subscribe => exact ⟨rfl, (Option.some.inj hack).symm⟩
    | unsubscribe => cases hack
    | publish => cases hack
  have hhonest : Honest
      [.mqttSubscribe .FP_CBOR_CREATE_KEYS_ACCEPTED_TOPIC 1, .received (.suback 1)] := by
    refine ⟨fun kind packetId hack => ?_, fun kind packetId hack => ?_, trivial⟩
    · cases kind <;> cases hack
    · rcases hsuback kind packetId hack with ⟨rfl, rfl⟩
      decide
  have htimely : Timely
      [.mqttSubscribe .FP_CBOR_CREATE_KEYS_ACCEPTED_TOPIC 1, .received (.suback 1)] := by
    refine ⟨fun kind packetId _ hack => ?_, fun kind packetId _ hack => ?_, trivial⟩
    · cases kind <;> cases hack
    · rcases hsuback kind packetId hack with ⟨rfl, rfl⟩
      rfl
  exact ⟨hhonest, (assertions_hold_iff promptSuback (fun _ h => by cases h) [] World.initial rfl
    (.SubscribeToTopic .FP_CBOR_CREATE_KEYS_ACCEPTED_TOPIC) hhonest).mpr htimely⟩

/-- The SUBACK of the first subscription comes while the program waits for that
    of the second. -/
def lateSuback : External := External.reliable [4, 8] [(7, [], 1000), (11, [.suback 1], 0)]

/-- A session, from which these requests were made. -/
def World.established (globalSubscribePacketIdentifier now : Nat) (requests : List Event) :
    World :=
  { World.initial with
    mqtt := ⟨0, globalSubscribePacketIdentifier, 0, fun _ => .zero, true, true⟩
    now := now
    trace := .tlsConnect .CLAIM_CERTIFICATE .CLAIM_PRIVATE_KEY true :: requests }

/-- A session, and a subscription that runs out of time. -/
theorem lateSuback_run :
    (apiRuns lateSuback World.initial).run
        [.EstablishMqttSession .CLAIM_CERTIFICATE .CLAIM_PRIVATE_KEY,
          .SubscribeToTopic .FP_CBOR_CREATE_KEYS_ACCEPTED_TOPIC] =
      some (World.established 1 8 [.mqttSubscribe .FP_CBOR_CREATE_KEYS_ACCEPTED_TOPIC 1]) := by
  have hestablish : (apiRuns lateSuback World.initial).step World.initial
      (.EstablishMqttSession .CLAIM_CERTIFICATE .CLAIM_PRIVATE_KEY) =
      some (World.established 0 4 []) := rfl
  have hsubscribe : (apiRuns lateSuback World.initial).step (World.established 0 4 [])
      (.SubscribeToTopic .FP_CBOR_CREATE_KEYS_ACCEPTED_TOPIC) =
      some (World.established 1 8 [.mqttSubscribe .FP_CBOR_CREATE_KEYS_ACCEPTED_TOPIC 1]) := rfl
  exact (System.runFrom_of_step _ hestablish _).trans (System.runFrom_of_step _ hsubscribe [])

/-- A broker that is only slow makes the second subscription fail the
    assertion. -/
theorem assertions_fail_late :
    ∃ w, (apiRuns lateSuback World.initial).run
        [.EstablishMqttSession .CLAIM_CERTIFICATE .CLAIM_PRIVATE_KEY,
          .SubscribeToTopic .FP_CBOR_CREATE_KEYS_ACCEPTED_TOPIC] = some w ∧
      ∃ w', (ApiCall.SubscribeToTopic .FP_CBOR_CREATE_KEYS_REJECTED_TOPIC).program lateSuback w =
          .error (.fault .assertionFailed) w' ∧ Honest w'.trace := by
  refine ⟨_, lateSuback_run, _, rfl, ?_⟩
  change Honest [.tlsConnect .CLAIM_CERTIFICATE .CLAIM_PRIVATE_KEY true,
    .mqttSubscribe .FP_CBOR_CREATE_KEYS_ACCEPTED_TOPIC 1,
    .mqttSubscribe .FP_CBOR_CREATE_KEYS_REJECTED_TOPIC 2, .received (.suback 1)]
  refine ⟨?_, ?_, ?_, ?_, trivial⟩
  · intro kind packetId hack
    cases kind <;> cases hack
  · intro kind packetId hack
    cases kind <;> cases hack
  · intro kind packetId hack
    cases kind <;> cases hack
  · intro kind packetId hack
    cases kind with
    | subscribe =>
        cases hack
        decide
    | unsubscribe => cases hack
    | publish => cases hack

end FleetProvisioning

end ProvisioningSdk
