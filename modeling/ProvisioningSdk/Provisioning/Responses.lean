import ProvisioningSdk.Provisioning.World

/-!
# Receiving Responses

`provisioningPublishCallback` of `fleet_provisioning_keys_cert_demo.c`.

The callback knows the responses by their topic, an accepted and a rejected one
for each of the two requests. All four lead to the same status variable and the
two accepted ones to the same payload buffer, so after any number of them only
the last one shows in the status, and only the last accepted one in the buffer
(`deliver_status`, `deliver_payload`). Which request it answered is lost.

## Main definitions

* `provisioningPublishCallback`: The callback.
* `Response`, `responseOf`: What a publish is to the callback.
* `lastAccepted`, `lastResponse`: What is left of a list of publishes.

## Theorems

* `provisioningPublishCallback_eq`: The callback by what the publish is to it.
* `lastAccepted_concat`, `lastResponse_concat`: One publish more.
-/

namespace ProvisioningSdk

namespace FleetProvisioning

open Bytes

variable (E : External)

/-- `provisioningPublishCallback`, without the string that is printed of an
    accepted response and then freed. `publishCallbackDump` of `CborDump` has them,
    and does the same to the rest (`publishCallbackDump_responses`). -/
def provisioningPublishCallback (pPublishInfo : Publish) (r : Responses) : Responses :=
  match E.FleetProvisioning_MatchTopic pPublishInfo.topicName with
  | none => r
  | some .FleetProvCborCreateKeysAndCertAccepted =>
      { r with
        responseStatus := .ResponseAccepted
        payloadBuffer := r.payloadBuffer.copy 0 pPublishInfo.payload
        payloadLength := pPublishInfo.payload.length }
  | some .FleetProvCborCreateKeysAndCertRejected =>
      { r with responseStatus := .ResponseRejected }
  | some .FleetProvCborRegisterThingAccepted =>
      { r with
        responseStatus := .ResponseAccepted
        payloadBuffer := r.payloadBuffer.copy 0 pPublishInfo.payload
        payloadLength := pPublishInfo.payload.length }
  | some .FleetProvCborRegisterThingRejected =>
      { r with responseStatus := .ResponseRejected }
  | some (.other _) => r

/-- A publish the callback was called with, in the state and in the log. -/
def World.deliver (info : Publish) (w : World) : World :=
  { w with responses := provisioningPublishCallback E info w.responses }.log (.delivered info)

/-! ### What a publish is to the callback -/

/-- A response to a request of the workflow. -/
inductive Response
  | accepted (api : Api) (payload : List UInt8)
  | rejected (api : Api)
  deriving DecidableEq, Repr

/-- The response a publish is, if it is one. -/
def responseOf (info : Publish) : Option Response :=
  match E.FleetProvisioning_MatchTopic info.topicName with
  | some .FleetProvCborCreateKeysAndCertAccepted => some (.accepted .createKeysAndCert info.payload)
  | some .FleetProvCborCreateKeysAndCertRejected => some (.rejected .createKeysAndCert)
  | some .FleetProvCborRegisterThingAccepted => some (.accepted .registerThing info.payload)
  | some .FleetProvCborRegisterThingRejected => some (.rejected .registerThing)
  | _ => none

/-- The payload of an accepted response. -/
def Response.acceptedPayload : Response → Option (List UInt8)
  | .accepted _ payload => some payload
  | .rejected _ => none

/-- The status a response is reported with. -/
def Response.status : Response → ResponseStatus
  | .accepted _ _ => .ResponseAccepted
  | .rejected _ => .ResponseRejected

/-- A response as it is received. -/
def Responses.receive (r : Responses) (response : Response) : Responses :=
  match response.acceptedPayload with
  | some payload =>
      { r with
        responseStatus := response.status
        payloadBuffer := r.payloadBuffer.copy 0 payload
        payloadLength := payload.length }
  | none => { r with responseStatus := response.status }

/-- The callback sees a publish only as the response it is. -/
theorem provisioningPublishCallback_eq (info : Publish) (r : Responses) :
    provisioningPublishCallback E info r = match responseOf E info with
      | some response => r.receive response
      | none => r := by
  -- the two accepted topics are treated alike, and so are the two rejected ones
  unfold provisioningPublishCallback responseOf
  cases E.FleetProvisioning_MatchTopic info.topicName with
  | none => rfl
  | some topic => cases topic <;> rfl

/-- A response that is received is the one that shows. -/
theorem receive_status (r : Responses) (response : Response) :
    (r.receive response).responseStatus = response.status := by
  unfold Responses.receive
  cases response.acceptedPayload <;> rfl

/-- An accepted response that is received is the one in the buffer. -/
theorem receive_payload (r : Responses) (response : Response) :
    (r.receive response).payload = response.acceptedPayload.getD r.payload := by
  unfold Responses.receive
  cases response.acceptedPayload with
  | none => rfl
  | some payload => exact slice_copy_self r.payloadBuffer 0 payload

/-! ### What is left of a list of publishes -/

/-- The last response among the publishes. -/
def lastResponse (window : List Publish) : Option Response :=
  (window.filterMap (responseOf E)).getLast?

/-- The payload of the last accepted response among the publishes. -/
def lastAccepted (window : List Publish) : Option (List UInt8) :=
  (window.filterMap (fun info => (responseOf E info).bind Response.acceptedPayload)).getLast?

/-- The last of a list that one element may be added to. -/
theorem getLast?_filterMap_concat {α β : Type} (f : α → Option β) (l : List α) (a : α) :
    ((l ++ [a]).filterMap f).getLast? = (f a).or (l.filterMap f).getLast? := by
  rw [List.filterMap_append, List.getLast?_append]
  cases h : f a with
  | none => simp only [List.filterMap_cons, h, List.filterMap_nil, List.getLast?_nil]
  | some b => simp only [List.filterMap_cons, h, List.filterMap_nil, List.getLast?_singleton]

theorem lastResponse_concat (window : List Publish) (info : Publish) :
    lastResponse E (window ++ [info]) = (responseOf E info).or (lastResponse E window) :=
  getLast?_filterMap_concat _ _ _

theorem lastAccepted_concat (window : List Publish) (info : Publish) :
    lastAccepted E (window ++ [info]) =
      ((responseOf E info).bind Response.acceptedPayload).or (lastAccepted E window) :=
  getLast?_filterMap_concat _ _ _

/-- The payload in the buffer after a publish. -/
theorem deliver_payload (info : Publish) (w : World) :
    (w.deliver E info).responses.payload =
      ((responseOf E info).bind Response.acceptedPayload).getD w.responses.payload := by
  unfold World.deliver World.log
  simp only
  rw [provisioningPublishCallback_eq]
  cases responseOf E info with
  | none => rfl
  | some response => exact receive_payload _ _

/-- The status after a publish. -/
theorem deliver_status (info : Publish) (w : World) :
    (w.deliver E info).responses.responseStatus =
      ((responseOf E info).map Response.status).getD w.responses.responseStatus := by
  unfold World.deliver World.log
  simp only
  rw [provisioningPublishCallback_eq]
  cases responseOf E info with
  | none => rfl
  | some response => exact receive_status _ _

end FleetProvisioning

end ProvisioningSdk
