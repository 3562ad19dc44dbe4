import ProvisioningSdk.Provisioning.CallInvariants
import ProvisioningSdk.Provisioning.OutgoingPublishes

/-!
# Publishes That Fail

What `PublishToTopic` leaves behind when it returns false.

It fills in a record before it knows whether the publish goes out, and sets the
whole record to zero if it does not. That restores the table only if the slot
was zero before, in every field and not just without an identifier. So all other
operations have to free a slot by zeroing it, and may not touch a free one: a
resend sets `dup` in the records that are in use only.

## Main definitions

* `FreeZero`: A slot without an identifier is zero.

## Theorems

* `freeZero_stable`: Every call keeps it.
* `publishToTopic_false`: A publish that fails leaves the table as it was.
-/

namespace ProvisioningSdk

namespace FleetProvisioning

open Effect Transition

/-- Every slot of the table without an identifier is zero. -/
def FreeZero (packets : Nat → PublishPackets) : Prop :=
  ∀ i < MAX_OUTGOING_PUBLISHES, (packets i).packetId = MQTT_PACKET_ID_INVALID → packets i = .zero

namespace FreeZero

variable {packets packets' : Nat → PublishPackets}

theorem update (h : FreeZero packets) (index : Nat) {packet : PublishPackets}
    (hpacket : packet.packetId = MQTT_PACKET_ID_INVALID → packet = .zero) :
    FreeZero (Function.update packets index packet) := by
  intro i hi hid
  by_cases hii : i = index
  · rw [hii, Function.update_self] at hid ⊢
    exact hpacket hid
  · rw [Function.update_of_ne hii] at hid ⊢
    exact h i hi hid

/-- An acknowledgement frees a slot by zeroing it. -/
theorem release (h : FreeZero packets) (packetId : Nat) : FreeZero (release packets packetId) := by
  unfold FleetProvisioning.release
  split
  · exact h.update _ (fun _ => rfl)
  · exact h

/-- A resend flags no slot that is free. -/
theorem flagged (h : FreeZero packets) (hflagged : Flagged packets packets') :
    FreeZero packets' := by
  intro i hi hid
  rcases hflagged i with heq | ⟨hused, heq⟩
  · rw [heq] at hid ⊢
    exact h i hi hid
  · rw [heq] at hid
    exact absurd hid hused

/-- A record that is stored and zeroed again leaves the table as it was. -/
theorem rollback (h : FreeZero packets) {index : Nat} (hindex : index < MAX_OUTGOING_PUBLISHES)
    (hfree : (packets index).packetId = MQTT_PACKET_ID_INVALID) (packet : PublishPackets) :
    Function.update (Function.update packets index packet) index .zero = packets := by
  rw [Function.update_idem, ← h index hindex hfree, Function.update_eq_self]

end FreeZero

section Calls

variable (E : External)

/-- What a publish does to the table, by its result. -/
theorem publishToTopic_table {topic : ApiTopic} {pPayload : Pointer} {payloadLength : Nat}
    {w w' : World} {status : Bool}
    (h : PublishToTopic E topic pPayload payloadLength w = .ok status w') :
    (status = false ∧ w'.mqtt.outgoingPublishPackets = w.mqtt.outgoingPublishPackets) ∨
      ∃ index packet, index < MAX_OUTGOING_PUBLISHES ∧
        (w.mqtt.outgoingPublishPackets index).packetId = MQTT_PACKET_ID_INVALID ∧
        packet.packetId = E.MQTT_GetPacketId w.now ∧
        ((status = true ∧ w'.mqtt.outgoingPublishPackets =
            Function.update w.mqtt.outgoingPublishPackets index packet) ∨
          (status = false ∧ w'.mqtt.outgoingPublishPackets =
            Function.update (Function.update w.mqtt.outgoingPublishPackets index packet) index
              .zero)) := by
  cases hindex : getNextFreeIndexForOutgoingPublishes w.mqtt.outgoingPublishPackets with
  | none =>
      rw [publishToTopic_full E hindex] at h
      cases h
      exact Or.inl ⟨rfl, rfl⟩
  | some index =>
      rw [publishToTopic_free E hindex] at h
      rcases free_index hindex with ⟨hlt, hfree⟩
      refine Or.inr ⟨index, w.record E topic pPayload payloadLength index, hlt, hfree, rfl, ?_⟩
      split at h
      · cases h
        exact Or.inl ⟨rfl, rfl⟩
      · cases h
        exact Or.inr ⟨rfl, rfl⟩

/-- Only the acknowledgement of a publish changes the table. -/
theorem freeZero_callback (packet : Packet) :
    KeepsOr (fun w => FreeZero w.mqtt.outgoingPublishPackets) (fun _ _ => True)
      (mqttCallback E packet) := by
  cases packet with
  -- only a PUBACK touches the table, and it clears a slot whole
  | puback packetIdentifier =>
      intro w h
      rw [mqttCallback_puback]
      by_cases hid : packetIdentifier = MQTT_PACKET_ID_INVALID
      · rw [if_pos hid]
        trivial
      · rw [if_neg hid]
        exact h.release packetIdentifier
  | publish info =>
      exact KeepsOr.get_bind (fun _ => KeepsOr.ite (fun _ => KeepsOr.modify (fun _ h => h))
        (fun _ => KeepsOr.pure _))
  | suback packetIdentifier =>
      intro w h
      rw [mqttCallback_suback]
      by_cases hid : w.mqtt.globalSubscribePacketIdentifier = packetIdentifier
      · rw [if_pos hid]
        exact h
      · rw [if_neg hid]
        trivial
  | unsuback packetIdentifier =>
      intro w h
      rw [mqttCallback_unsuback]
      by_cases hid : w.mqtt.globalUnsubscribePacketIdentifier = packetIdentifier
      · rw [if_pos hid]
        exact h
      · rw [if_neg hid]
        trivial
  | pingresp => exact fun _ h => h
  | other type => exact fun _ h => h

/-- A publish stores a record with an identifier, or none. -/
theorem freeZero_publish (hids : ∀ now, E.MQTT_GetPacketId now ≠ MQTT_PACKET_ID_INVALID)
    {topic : ApiTopic} {pPayload : Pointer} {payloadLength : Nat} {w w' : World} {status : Bool}
    (h : FreeZero w.mqtt.outgoingPublishPackets)
    (hrun : PublishToTopic E topic pPayload payloadLength w = .ok status w') :
    FreeZero w'.mqtt.outgoingPublishPackets := by
  rcases publishToTopic_table E hrun with
    ⟨-, htable⟩ | ⟨index, packet, -, -, hid, ⟨-, htable⟩ | ⟨-, htable⟩⟩
  · rw [htable]
    exact h
  · rw [htable]
    refine h.update index (fun hinvalid => ?_)
    rw [hid] at hinvalid
    exact absurd hinvalid (hids w.now)
  · rw [htable, Function.update_idem]
    exact h.update index (fun _ => rfl)

/-- Every call keeps the free slots zero. -/
theorem freeZero_stable (hids : ∀ now, E.MQTT_GetPacketId now ≠ MQTT_PACKET_ID_INVALID) :
    StableApi E (fun w => FreeZero w.mqtt.outgoingPublishPackets) (fun _ _ => True) where
  now := fun _ _ h => h
  session := fun _ _ _ _ h => h
  connection := fun _ _ _ h => h
  blocked := fun _ _ => trivial
  subscribe := fun _ _ h => h
  unsubscribe := fun _ _ h => h
  callback := freeZero_callback E
  publish := by
    intro topic pPayload payloadLength w h
    cases hrun : PublishToTopic E topic pPayload payloadLength w with
    | error halt w' => trivial
    | ok status w' => exact freeZero_publish E hids h hrun
  resend := by
    intro w h
    rcases resend_table E (List.range MAX_OUTGOING_PUBLISHES) w with ⟨status, w', hrun, hflagged⟩
    unfold handlePublishResend
    rw [hrun]
    exact h.flagged hflagged
  forget := fun _ _ _ _ _ => rfl

/-- After any calls, with any packets delivered to them, a publish that returns
    false leaves every slot of the table as it was. -/
theorem publishToTopic_false (hids : ∀ now, E.MQTT_GetPacketId now ≠ MQTT_PACKET_ID_INVALID)
    (w : World) (hzero : ∀ i < MAX_OUTGOING_PUBLISHES, w.mqtt.outgoingPublishPackets i = .zero)
    (calls : List ApiCall) (w' : World) (hrun : (apiRuns E w).run calls = some w')
    (topic : ApiTopic) (pPayload : Pointer) (payloadLength : Nat) (w'' : World)
    (hfalse : PublishToTopic E topic pPayload payloadLength w' = .ok false w'') :
    w''.mqtt.outgoingPublishPackets = w'.mqtt.outgoingPublishPackets := by
  have hfree : FreeZero w'.mqtt.outgoingPublishPackets :=
    (freeZero_stable E hids).run (fun i hi _ => hzero i hi) hrun
  rcases publishToTopic_table E hfalse with
    ⟨-, htable⟩ | ⟨index, packet, hindex, hinvalid, -, ⟨hstatus, -⟩ | ⟨-, htable⟩⟩
  · exact htable
  · cases hstatus
  · rw [htable]
    exact hfree.rollback hindex hinvalid packet

end Calls

/-- The second publish fails. -/
def failingPublish : External :=
  { External.reliable [0, 2] [] with
    MQTT_Publish := fun now => if now < 2 then .MQTTSuccess else .other 1 }

theorem publishToTopic_false_second :
    ∃ w', (apiRuns failingPublish World.initial).run
        [.PublishToTopic .FP_CBOR_CREATE_KEYS_PUBLISH_TOPIC .empty 0] = some w' ∧
      ∃ w'', PublishToTopic failingPublish .FP_CBOR_REGISTER_PUBLISH_TOPIC .payloadBuffer 0 w' =
          .ok false w'' ∧
        w''.mqtt.outgoingPublishPackets = w'.mqtt.outgoingPublishPackets := by
  refine ⟨_, rfl, _, rfl, ?_⟩
  exact publishToTopic_false failingPublish (fun _ h => by cases h) World.initial
    (fun _ _ => rfl) [.PublishToTopic .FP_CBOR_CREATE_KEYS_PUBLISH_TOPIC .empty 0] _ rfl
    .FP_CBOR_REGISTER_PUBLISH_TOPIC .payloadBuffer 0 _ rfl

end FleetProvisioning

end ProvisioningSdk
