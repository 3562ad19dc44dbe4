import Mathlib.Data.List.Nodup
import ProvisioningSdk.Lib.Effect
import ProvisioningSdk.Provisioning.Request

/-!
# The World of the Provisioning Program

The state `ProvisionDevicePKCS11WithFP` and the files below it work on, and what
they call outside the repository.

The static variables of the two source files are kept apart (`Mqtt`,
`Responses`), beside the objects on the PKCS #11 token and the local variables
of the workflow. Everything outside the repository is in `External`: coreMQTT,
the transport, mbedTLS, the PKCS #11 module, the clock, and the fleet
provisioning library that names the topics. A call that can turn out either way
asks for its outcome at its own moment (`ask`), so the outcomes of a run are an
arbitrary sequence. A loop asks once for the outcomes of all its rounds; if it
wants more of them than there are, its next call does not return, and the
program stops there.

A program also keeps a log of what it did and what was delivered to it. The
code does not read it. It is what the results about whole runs speak of.

## Main definitions

* `Token`: The objects of the PKCS #11 module.
* `External`: Everything outside the repository.
* `Event`: What the log has.
* `World`, `Program`: The state, and the programs over it.
* `ask`, `log`: An outcome from outside, an entry of the log.
-/

namespace ProvisioningSdk

namespace FleetProvisioning

open Bytes
open Serializer (TinyCbor TinyCborEncoder OutBuffer KeyCertBuffers)
open Effect

/-! ### The token -/

/-- The labels of `core_pkcs11_config.h` that are used here, and all others. -/
inductive Label
  | CLAIM_CERTIFICATE
  | CLAIM_PRIVATE_KEY
  | DEVICE_CERTIFICATE_FOR_TLS
  | DEVICE_PRIVATE_KEY_FOR_TLS
  | other (name : List UInt8)
  deriving DecidableEq, Repr

/-- `CK_OBJECT_CLASS`. -/
inductive ObjectClass
  | CKO_CERTIFICATE
  | CKO_PRIVATE_KEY
  | other (code : Nat)
  deriving DecidableEq, Repr

/-- The attributes of an imported RSA key, as big-endian bytes. -/
structure RsaAttributes where
  CKA_MODULUS : List UInt8
  CKA_PRIVATE_EXPONENT : List UInt8
  CKA_PUBLIC_EXPONENT : List UInt8
  CKA_PRIME_1 : List UInt8
  CKA_PRIME_2 : List UInt8
  CKA_EXPONENT_1 : List UInt8
  CKA_EXPONENT_2 : List UInt8
  CKA_COEFFICIENT : List UInt8
  deriving DecidableEq, Repr

/-- What an object was created from. -/
inductive ObjectValue
  | certificate (der : List UInt8)
  | rsaKey (attributes : RsaAttributes)
  | ecKey (value : List UInt8)
  deriving DecidableEq, Repr

/-- The template of an object: its class, its label and its value. -/
structure Template where
  objectClass : ObjectClass
  label : Label
  value : ObjectValue
  deriving DecidableEq, Repr

/-- An object of the token, under its handle. -/
structure Object where
  handle : Nat
  template : Template
  deriving DecidableEq, Repr

/-- The object is found under this label and class. -/
def Object.Under (label : Label) (objectClass : ObjectClass) (o : Object) : Prop :=
  o.template.label = label ∧ o.template.objectClass = objectClass

instance (label : Label) (objectClass : ObjectClass) (o : Object) :
    Decidable (o.Under label objectClass) := inferInstanceAs (Decidable (_ ∧ _))

/-- The objects of the token. A handle is used once. -/
structure Token where
  objects : List Object
  nextHandle : Nat
  fresh : ∀ o ∈ objects, o.handle < nextHandle
  nodup : (objects.map Object.handle).Nodup

namespace Token

/-- The objects under a label and class. -/
def under (t : Token) (label : Label) (objectClass : ObjectClass) : List Object :=
  t.objects.filter (fun o => decide (o.Under label objectClass))

/-- `C_DestroyObject`, successfully. -/
def destroy (t : Token) (handle : Nat) : Token where
  objects := t.objects.filter (fun o => o.handle != handle)
  nextHandle := t.nextHandle
  fresh := fun o ho => t.fresh o (List.mem_of_mem_filter ho)
  nodup := t.nodup.sublist (List.filter_sublist.map _)

/-- The objects that stay when one is created. A module may allow for several
    under one label and class, or replace them. -/
def kept (t : Token) (replaces : Bool) (template : Template) : List Object :=
  t.objects.filter (fun o =>
    !(replaces && decide (o.Under template.label template.objectClass)))

/-- The object `C_CreateObject` adds. -/
def created (t : Token) (template : Template) : Object := ⟨t.nextHandle, template⟩

/-- `C_CreateObject`, successfully. -/
def create (t : Token) (replaces : Bool) (template : Template) : Token where
  objects := t.kept replaces template ++ [t.created template]
  nextHandle := t.nextHandle + 1
  fresh := by
    intro o ho
    rcases List.mem_append.mp ho with hold | hnew
    · exact Nat.lt_succ_of_lt (t.fresh o (List.mem_of_mem_filter hold))
    · rw [List.mem_singleton.mp hnew]
      exact Nat.lt_succ_self _
  nodup := by
    -- the objects that are kept have the handles they had
    rw [List.map_append, List.nodup_append]
    refine ⟨t.nodup.sublist (List.filter_sublist.map _), List.nodup_singleton _, ?_⟩
    intro h hold h' hnew heq
    rcases List.mem_map.mp hold with ⟨o, ho, rfl⟩
    rw [List.map_singleton, List.mem_singleton] at hnew
    -- the handle of the new object is above all others
    have hlt := t.fresh o (List.mem_of_mem_filter ho)
    rw [heq, hnew] at hlt
    exact Nat.lt_irrefl _ hlt

end Token

/-! ### What is outside -/

/-- `MQTTStatus_t`, as far as it is told apart here. -/
inductive MQTTStatus
  | MQTTSuccess
  | MQTTNeedMoreBytes
  | other (code : Nat)
  deriving DecidableEq, Repr

/-- `FleetProvisioningTopic_t`: the topics of the CBOR API that the callback
    tells apart, and the others. -/
inductive Topic
  | FleetProvCborCreateKeysAndCertAccepted
  | FleetProvCborCreateKeysAndCertRejected
  | FleetProvCborRegisterThingAccepted
  | FleetProvCborRegisterThingRejected
  | other (code : Nat)
  deriving DecidableEq, Repr

/-- The topics the workflow itself names. -/
inductive ApiTopic
  | FP_CBOR_CREATE_KEYS_PUBLISH_TOPIC
  | FP_CBOR_CREATE_KEYS_ACCEPTED_TOPIC
  | FP_CBOR_CREATE_KEYS_REJECTED_TOPIC
  | FP_CBOR_REGISTER_PUBLISH_TOPIC
  | FP_CBOR_REGISTER_ACCEPTED_TOPIC
  | FP_CBOR_REGISTER_REJECTED_TOPIC
  deriving DecidableEq, Repr

/-- An incoming publish. -/
structure Publish where
  topicName : List UInt8
  payload : List UInt8
  deriving DecidableEq, Repr

/-- A packet coreMQTT gives to the callback. An acknowledgement comes with its
    packet identifier. -/
inductive Packet
  | publish (info : Publish)
  | suback (packetIdentifier : Nat)
  | unsuback (packetIdentifier : Nat)
  | pingresp
  | puback (packetIdentifier : Nat)
  | other (type : Nat)
  deriving DecidableEq, Repr

/-- One call of `MQTT_ProcessLoop`: the packets it gives to the callback, its
    status, and the time after it. -/
structure Round where
  packets : List Packet
  status : MQTTStatus
  time : Nat

/-- One attempt to connect: whether TLS came up, and otherwise whether there is
    another attempt after it. -/
structure ConnectAttempt where
  connected : Bool
  retry : Bool

/-- A parsed private key. The integers are those of the key. -/
inductive PrivateKey
  | rsa (n p q d e dp dq qp : Nat)
  | ec (isP256 : Bool) (d : Nat)
  | other
  deriving DecidableEq, Repr

/-- Everything outside the repository. What can turn out either way is given
    for every moment. -/
structure External where
  connectAttempts : Nat → List ConnectAttempt
  MQTT_Init : Nat → MQTTStatus
  MQTT_InitStatefulQoS : Nat → MQTTStatus
  /-- The status, and whether a session is present. -/
  MQTT_Connect : Nat → MQTTStatus × Bool
  MQTT_Disconnect : Nat → MQTTStatus
  MQTT_GetPacketId : Nat → Nat
  MQTT_Subscribe : Nat → MQTTStatus
  MQTT_Unsubscribe : Nat → MQTTStatus
  MQTT_Publish : Nat → MQTTStatus
  /-- The rounds of a loop over `MQTT_ProcessLoop`. -/
  MQTT_ProcessLoop : Nat → List Round
  getTime : Nat → Nat
  FleetProvisioning_MatchTopic : List UInt8 → Option Topic
  tinyCbor : TinyCbor
  tinyCborEncoder : TinyCborEncoder
  malloc : Nat → Bool
  C_GetFunctionList : Nat → Bool
  C_CreateObject : Nat → Bool
  C_DestroyObject : Nat → Bool
  /-- Whether the search succeeds, and which of the objects it finds. -/
  xFindObjectWithLabelAndClass : Nat → Bool × Nat
  /-- The module replaces what is under the label and class of a new object. -/
  replaces : Bool
  /-- The calls of mbedTLS that fail for reasons of their own. -/
  mbedtlsFails : Nat → Bool
  mbedtls_pk_parse_key : List UInt8 → Option PrivateKey
  /-- A number in a buffer of this length, if it fits. -/
  mbedtls_mpi_write_binary : Nat → Nat → Option (List UInt8)
  convert_pem_to_der : List UInt8 → Option (List UInt8)

/-! ### The state -/

/-- Where a payload is read from. -/
inductive Pointer
  | empty
  | payloadBuffer
  deriving DecidableEq, Repr

/-- `MQTTPublishInfo_t` of an outgoing publish. -/
structure PublishInfo where
  qos : Nat
  dup : Bool
  topicName : Option ApiTopic
  pPayload : Pointer
  payloadLength : Nat
  deriving DecidableEq, Repr

/-- `PublishPackets_t`. -/
structure PublishPackets where
  packetId : Nat
  pubInfo : PublishInfo
  deriving DecidableEq, Repr

/-- A record that was set to zero. -/
def PublishPackets.zero : PublishPackets := ⟨0, ⟨0, false, none, .empty, 0⟩⟩

/-- The static variables of `mqtt_operations.c`. -/
structure Mqtt where
  globalAckPacketIdentifier : Nat
  globalSubscribePacketIdentifier : Nat
  globalUnsubscribePacketIdentifier : Nat
  outgoingPublishPackets : Nat → PublishPackets
  mqttSessionEstablished : Bool
  /-- The callback is set, to the one of the workflow. -/
  appPublishCallback : Bool

/-- `ResponseStatus_t`. -/
inductive ResponseStatus
  | ResponseNotReceived
  | ResponseAccepted
  | ResponseRejected
  deriving DecidableEq, Repr

/-- The static variables of `fleet_provisioning_keys_cert_demo.c`. -/
structure Responses where
  responseStatus : ResponseStatus
  thingName : OutBuffer
  payloadBuffer : Memory
  payloadLength : Nat

/-- The payload that was received last, or built last. -/
def Responses.payload (r : Responses) : List UInt8 := r.payloadBuffer.slice 0 r.payloadLength

/-- The bytes a pointer shows at the moment. -/
def Responses.read (r : Responses) : Pointer → Nat → List UInt8
  | .empty, _ => []
  | .payloadBuffer, length => r.payloadBuffer.slice 0 length

/-- The local variables of `ProvisionDevicePKCS11WithFP` that its steps use. -/
structure Locals where
  buffers : KeyCertBuffers
  connectionEstablished : Bool

/-- The two requests of the workflow. -/
inductive Api
  | createKeysAndCert
  | registerThing
  deriving DecidableEq, Repr

/-- The steps of the workflow, in their order. -/
inductive Step
  | establishWithClaim
  | subscribeToKeysCert
  | publishKeysCert
  | waitForKeysCert
  | parseKeysCert
  | loadPrivateKey
  | loadCertificate
  | unsubscribeFromKeysCert
  | generateRequest
  | subscribeToRegisterThing
  | publishRegisterThing
  | waitForRegisterThing
  | parseRegisterThing
  | unsubscribeFromRegisterThing
  | establishWithDevice
  deriving DecidableEq, Repr

/-- The entries of the log. -/
inductive Event
  /-- A connect with the certificate and key under these labels. -/
  | tlsConnect (clientCert privateKey : Label) (connected : Bool)
  | tlsDisconnect
  /-- What `MQTT_Publish` was given, and how it ended. -/
  | mqttPublish (packet : PublishPackets) (payload : List UInt8) (status : MQTTStatus)
  | mqttSubscribe (filter : ApiTopic) (packetId : Nat)
  | mqttUnsubscribe (filter : ApiTopic) (packetId : Nat)
  /-- A publish the callback of the workflow was called with. -/
  | delivered (info : Publish)
  /-- Any other packet. -/
  | received (packet : Packet)
  /-- The arguments of `PublishToTopic`. -/
  | publishToTopic (topic : ApiTopic) (payload : List UInt8)
  | created (template : Template)
  | destroyed (handle : Nat)
  /-- An iteration of the retry loop begins. -/
  | iteration
  /-- A step of the workflow returned. -/
  | step (s : Step) (status : Bool)
  | waits (api : Api)
  | waited (api : Api) (status : Bool)
  /-- The payload a parser is given. -/
  | parses (api : Api) (payload : List UInt8)
  /-- The request built for this token. -/
  | generated (token request : List UInt8)
  deriving DecidableEq, Repr

/-- The state of the program. -/
structure World where
  mqtt : Mqtt
  responses : Responses
  locals : Locals
  token : Token
  /-- Which of the outcomes is asked for next. -/
  now : Nat
  trace : List Event

/-- What keeps a program from returning. -/
inductive Halt
  | fault (f : Fault)
  | blocked
  deriving DecidableEq, Repr

/-- The programs over the world. -/
abbrev Program := EStateM Halt World

/-- The outcome of a call outside. -/
def ask {α : Type} (outcome : Nat → α) : Program α := fun w =>
  .ok (outcome w.now) { w with now := w.now + 1 }

theorem ask_bind {α β : Type} (outcome : Nat → α) (f : α → Program β) (w : World) :
    (ask outcome >>= f) w = f (outcome w.now) { w with now := w.now + 1 } := rfl

/-- Add an entry to the log. -/
def World.log (w : World) (e : Event) : World := { w with trace := w.trace ++ [e] }

/-- Add an entry to the log. -/
def log (e : Event) : Program Unit := modify (fun w => w.log e)

/-- `assert`. -/
def assert (c : Bool) : Program Unit :=
  if c then pure () else throw (.fault .assertionFailed)

/-- A function that may fault, as a part of a program. -/
def liftFault {α : Type} : Except Fault α → Program α
  | .ok a => pure a
  | .error f => throw (.fault f)

/-- A change to the static variables of `mqtt_operations.c`. -/
def setMqtt (f : Mqtt → Mqtt) : Program Unit := modify (fun w => { w with mqtt := f w.mqtt })

/-- A change to the static variables of the workflow. -/
def setResponses (f : Responses → Responses) : Program Unit :=
  modify (fun w => { w with responses := f w.responses })

end FleetProvisioning

end ProvisioningSdk
