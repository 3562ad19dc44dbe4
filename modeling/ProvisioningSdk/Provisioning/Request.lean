import ProvisioningSdk.Lib.CborItems
import ProvisioningSdk.Provisioning.Serializer

/-!
# Building the Register Thing Request

`generateRegisterThingRequest` of `fleet_provisioning_serializer.c`.

The encoder of tinycbor is a parameter (`TinyCborEncoder`). An encoder writes
into the buffer it was set up with and remembers how far it got; what a caller
can see of it are the bytes in the buffer up to there. Nothing is left out when
a step fails: the items encoded before it are in the buffer all the same, and
only the length that is reported tells the caller not to use them.

`tinyCborEncoder` is an instance, with items written one behind the other and
an item refused if it does not fit. Its encoders are their own `Progress`: the
bytes up to where they got, the size of the buffer, and how many items are still
expected.

## Main definitions

* `TinyCborEncoder`: The library.
* `generateRegisterThingRequest`: The request, or what was written of it.
* `Progress`: How far an encoder got.
* `tinyCborEncoder`: Items in the shortest form, one behind the other.
-/

namespace ProvisioningSdk

namespace Serializer

open Cbor

/-- The functions of tinycbor that the request is written with. -/
structure TinyCborEncoder where
  Encoder : Type
  /-- `cbor_encoder_init`, on a buffer of this length. -/
  init : Nat → Encoder
  /-- `cbor_encoder_create_map`: the encoder, and one for the entries. -/
  createMap : Encoder → Nat → CborError × Encoder × Encoder
  /-- `cbor_encode_text_string`. -/
  encodeTextString : Encoder → List UInt8 → CborError × Encoder
  /-- `cbor_encoder_close_container`, of the encoder for the entries. -/
  closeContainer : Encoder → Encoder → CborError × Encoder
  /-- The bytes in the buffer up to where the encoder got. -/
  written : Encoder → List UInt8

/-- `"parameters"`. -/
def parameters : List UInt8 := [112, 97, 114, 97, 109, 101, 116, 101, 114, 115]

/-- `"SerialNumber"`. -/
def serialNumber : List UInt8 := [83, 101, 114, 105, 97, 108, 78, 117, 109, 98, 101, 114]

section Request

variable (C : TinyCborEncoder)

/-- Go on with the encoder if there was no error. -/
def encoded (r : CborError × C.Encoder) : Except (List UInt8) C.Encoder :=
  if r.1 = .CborNoError then .ok r.2 else .error (C.written r.2)

/-- Go on with the encoder for the entries if there was no error. -/
def opened (r : CborError × C.Encoder × C.Encoder) :
    Except (List UInt8) (C.Encoder × C.Encoder) :=
  if r.1 = .CborNoError then .ok r.2 else .error (C.written r.2.2)

/-- `generateRegisterThingRequest`: the request it left in the buffer, or the
    part of it that was there when it failed. -/
def generateRegisterThingRequest (bufferLength : Nat)
    (pCertificateOwnershipToken pSerial : List UInt8) : Except (List UInt8) (List UInt8) := do
  let (encoder, mapEncoder) ← opened C (C.createMap (C.init bufferLength) 2)
  let mapEncoder ← encoded C (C.encodeTextString mapEncoder certificateOwnershipToken)
  let mapEncoder ← encoded C (C.encodeTextString mapEncoder pCertificateOwnershipToken)
  let mapEncoder ← encoded C (C.encodeTextString mapEncoder parameters)
  let (mapEncoder, parametersEncoder) ← opened C (C.createMap mapEncoder 1)
  let parametersEncoder ← encoded C (C.encodeTextString parametersEncoder serialNumber)
  let parametersEncoder ← encoded C (C.encodeTextString parametersEncoder pSerial)
  let mapEncoder ← encoded C (C.closeContainer mapEncoder parametersEncoder)
  let encoder ← encoded C (C.closeContainer encoder mapEncoder)
  return C.written encoder

end Request

/-! ### A library as documented -/

/-- How far an encoder got: the size of the buffer, the bytes written to it, and
    the number of items that are still expected. -/
structure Progress where
  bufferLength : Nat
  bytes : List UInt8
  expected : Nat
  deriving DecidableEq, Repr

/-- There is room for these bytes. -/
def Progress.Fits (p : Progress) (item : List UInt8) : Prop :=
  p.bytes.length + item.length ≤ p.bufferLength

instance (p : Progress) (item : List UInt8) : Decidable (p.Fits item) :=
  inferInstanceAs (Decidable (_ ≤ _))

/-- These bytes are written, and then so many items are expected. -/
def Progress.write (p : Progress) (item : List UInt8) (expected : Nat) : Progress :=
  { p with bytes := p.bytes ++ item, expected := expected }

/-- Write an item that is expected behind the others, if there is room for it. -/
def Progress.append (p : Progress) (item : List UInt8) : CborError × Progress :=
  if p.Fits item then (.CborNoError, p.write item (p.expected - 1))
  else (.CborErrorOutOfMemory, p)

/-- An encoder that is its own progress. It refuses to close a container that
    expects more items. -/
def tinyCborEncoder : TinyCborEncoder where
  Encoder := Progress
  init := fun bufferLength => ⟨bufferLength, [], 1⟩
  createMap := fun p n =>
    if p.Fits (encodeHead maps n) then
      (.CborNoError, { p with expected := p.expected - 1 }, p.write (encodeHead maps n) (2 * n))
    else (.CborErrorOutOfMemory, p, p)
  encodeTextString := fun p s => p.append (encodeText s)
  closeContainer := fun p entries =>
    if entries.expected = 0 then (.CborNoError, { entries with expected := p.expected })
    else (.other 769, p)
  written := Progress.bytes

/-- A token of one byte and an empty serial number. -/
example : generateRegisterThingRequest tinyCborEncoder 64 [65] [] =
    .ok ([0xA2, 0x78, 0x19] ++ certificateOwnershipToken ++ [0x61, 65, 0x6A] ++ parameters ++
      [0xA1, 0x6C] ++ serialNumber ++ [0x60]) := by
  decide

end Serializer

end ProvisioningSdk
