import ProvisioningSdk.Lib.CborItems
import ProvisioningSdk.Provisioning.Request

/-!
# The Encoding of the Register Thing Request

When `generateRegisterThingRequest` succeeds, and what it writes.

What tinycbor promises of its encoder is stated over how far it got
(`TinyCborEncoder.Documented`): the bytes up to where it got, the room that the
buffer has in all, and how many items its container still expects. An item goes
behind the others if the room is enough for it, and is refused otherwise. A
container is only closed without an error if it has the items that were
announced when it was opened. The nine steps of the request open two
containers, announce two entries and one, and write as many. So no closing
fails, and the request is written exactly if its encoding has room.

## Main definitions

* `TinyCborEncoder.Documented`: What tinycbor promises.
* `registerThing`: The map of a token and a serial number.
* `generateRegisterThingRequestOut`: The function with its output parameters.

## Theorems

* `encoded_text_iff`, `opened_map_iff`, `encoded_close`: One step.
* `generateRegisterThingRequest_ok_iff`: All of them.
* `registerThing_encoded`: When the request is written, and that it can be read
  back.
-/

namespace ProvisioningSdk

namespace Serializer

open Cbor

theorem fits_iff {bufferLength expected : Nat} {bytes item : List UInt8} :
    (⟨bufferLength, bytes, expected⟩ : Progress).Fits item ↔
      (bytes ++ item).length ≤ bufferLength := by
  rw [List.length_append]
  rfl

/-- What tinycbor documents of its encoder. An encoder has `progress`, and its
    functions are called for items that are expected. -/
structure TinyCborEncoder.Documented (C : TinyCborEncoder) (progress : C.Encoder → Progress) :
    Prop where
  written : ∀ e, C.written e = (progress e).bytes
  /-- One item is expected of the outermost encoder. -/
  init : ∀ bufferLength, progress (C.init bufferLength) = ⟨bufferLength, [], 1⟩
  /-- A text string is written if there is room for it. -/
  text : ∀ e s expected, (progress e).expected = expected + 1 →
    ((progress e).Fits (encodeText s) → (C.encodeTextString e s).1 = .CborNoError ∧
        progress (C.encodeTextString e s).2 = (progress e).write (encodeText s) expected) ∧
      (¬ (progress e).Fits (encodeText s) →
        (C.encodeTextString e s).1 = .CborErrorOutOfMemory)
  /-- The encoder for the entries of a map goes on behind the head of it. -/
  map : ∀ e n expected, n < 2 ^ 31 → (progress e).expected = expected + 1 →
    ((progress e).Fits (encodeHead maps n) → (C.createMap e n).1 = .CborNoError ∧
        progress (C.createMap e n).2.1 = { progress e with expected := expected } ∧
        progress (C.createMap e n).2.2 = (progress e).write (encodeHead maps n) (2 * n)) ∧
      (¬ (progress e).Fits (encodeHead maps n) →
        (C.createMap e n).1 = .CborErrorOutOfMemory)
  /-- A container that expects no more items can be closed, and the encoder goes
      on behind it. -/
  close : ∀ e entries,
    ((progress entries).expected = 0 → (C.closeContainer e entries).1 = .CborNoError ∧
        progress (C.closeContainer e entries).2 =
          { progress entries with expected := (progress e).expected }) ∧
      ((progress entries).expected ≠ 0 → (C.closeContainer e entries).1 ≠ .CborNoError)

/-- `{"certificateOwnershipToken": token, "parameters": {"SerialNumber": serial}}`. -/
def registerThing (token serial : List UInt8) : Item :=
  .map (.cons certificateOwnershipToken (.text token)
    (.cons parameters (.map (.cons serialNumber (.text serial) .nil)) .nil))

/-- What the caller of `generateRegisterThingRequest` gets: the result,
    `*pOutLengthWritten`, and what was written to `pBuffer`. -/
structure RequestOut where
  result : Bool
  outLengthWritten : Nat
  buffer : List UInt8
  deriving DecidableEq, Repr

/-- `generateRegisterThingRequest` with its output parameters. -/
def generateRegisterThingRequestOut (C : TinyCborEncoder) (bufferLength : Nat)
    (pCertificateOwnershipToken pSerial : List UInt8) (pOutLengthWritten : Nat) : RequestOut :=
  match generateRegisterThingRequest C bufferLength pCertificateOwnershipToken pSerial with
  | .ok request => ⟨true, request.length, request⟩
  | .error written => ⟨false, pOutLengthWritten, written⟩

/-! ### One step -/

section Steps

variable {C : TinyCborEncoder} {progress : C.Encoder → Progress}

theorem encoded_ok {r : CborError × C.Encoder} {e : C.Encoder} :
    encoded C r = .ok e ↔ r.1 = .CborNoError ∧ r.2 = e := by
  unfold encoded
  by_cases h : r.1 = .CborNoError
  · rw [if_pos h, Except.ok.injEq]
    exact ⟨fun he => ⟨h, he⟩, fun he => he.2⟩
  · rw [if_neg h]
    exact ⟨fun he => (nomatch he), fun he => absurd he.1 h⟩

theorem opened_ok {r : CborError × C.Encoder × C.Encoder} {e : C.Encoder × C.Encoder} :
    opened C r = .ok e ↔ r.1 = .CborNoError ∧ r.2 = e := by
  unfold opened
  by_cases h : r.1 = .CborNoError
  · rw [if_pos h, Except.ok.injEq]
    exact ⟨fun he => ⟨h, he⟩, fun he => he.2⟩
  · rw [if_neg h]
    exact ⟨fun he => (nomatch he), fun he => absurd he.1 h⟩

variable (hC : C.Documented progress)

include hC

/-- A text string that is expected is written exactly if it fits. -/
theorem encoded_text_iff {e : C.Encoder} {s bytes : List UInt8} {bufferLength expected : Nat}
    (he : progress e = ⟨bufferLength, bytes, expected + 1⟩) :
    (∃ e', encoded C (C.encodeTextString e s) = .ok e') ↔
      (bytes ++ encodeText s).length ≤ bufferLength := by
  have htext := hC.text e s expected (by rw [he])
  rw [he, fits_iff] at htext
  constructor
  · rintro ⟨e', hok⟩
    by_contra hroom
    rw [encoded_ok, htext.2 hroom] at hok
    cases hok.1
  · intro hroom
    exact ⟨_, encoded_ok.mpr ⟨(htext.1 hroom).1, rfl⟩⟩

theorem progress_text {e e' : C.Encoder} {s bytes : List UInt8} {bufferLength expected : Nat}
    (he : progress e = ⟨bufferLength, bytes, expected + 1⟩)
    (hok : encoded C (C.encodeTextString e s) = .ok e') :
    progress e' = ⟨bufferLength, bytes ++ encodeText s, expected⟩ := by
  have hroom := (encoded_text_iff hC he).mp ⟨e', hok⟩
  have htext := hC.text e s expected (by rw [he])
  rw [he, fits_iff] at htext
  rw [← (encoded_ok.mp hok).2]
  exact (htext.1 hroom).2

/-- A map that is expected is opened exactly if its head fits. -/
theorem opened_map_iff {e : C.Encoder} {n : Nat} {bytes : List UInt8} {bufferLength expected : Nat}
    (hn : n < 2 ^ 31) (he : progress e = ⟨bufferLength, bytes, expected + 1⟩) :
    (∃ e', opened C (C.createMap e n) = .ok e') ↔
      (bytes ++ encodeHead maps n).length ≤ bufferLength := by
  have hmap := hC.map e n expected hn (by rw [he])
  rw [he, fits_iff] at hmap
  constructor
  · rintro ⟨e', hok⟩
    by_contra hroom
    rw [opened_ok, hmap.2 hroom] at hok
    cases hok.1
  · intro hroom
    exact ⟨_, opened_ok.mpr ⟨(hmap.1 hroom).1, rfl⟩⟩

theorem progress_map {e parent entries : C.Encoder} {n : Nat} {bytes : List UInt8}
    {bufferLength expected : Nat} (hn : n < 2 ^ 31)
    (he : progress e = ⟨bufferLength, bytes, expected + 1⟩)
    (hok : opened C (C.createMap e n) = .ok (parent, entries)) :
    progress parent = ⟨bufferLength, bytes, expected⟩ ∧
      progress entries = ⟨bufferLength, bytes ++ encodeHead maps n, 2 * n⟩ := by
  have hroom := (opened_map_iff hC hn he).mp ⟨_, hok⟩
  have hmap := hC.map e n expected hn (by rw [he])
  rw [he, fits_iff, (opened_ok.mp hok).2] at hmap
  exact (hmap.1 hroom).2

/-- A container that has all its items is closed. -/
theorem encoded_close {e entries : C.Encoder} {bytes bytes' : List UInt8}
    {bufferLength bufferLength' expected : Nat}
    (he : progress e = ⟨bufferLength', bytes', expected⟩)
    (hentries : progress entries = ⟨bufferLength, bytes, 0⟩) :
    ∃ e', encoded C (C.closeContainer e entries) = .ok e' ∧
      progress e' = ⟨bufferLength, bytes, expected⟩ := by
  have hclose := (hC.close e entries).1 (by rw [hentries])
  rw [hentries, he] at hclose
  exact ⟨_, encoded_ok.mpr ⟨hclose.1, rfl⟩, hclose.2⟩

end Steps

/-! ### The request -/

/-- The encoding of the map, in the order in which it is written. -/
theorem encode_registerThing (token serial : List UInt8) :
    (registerThing token serial).encode =
      [] ++ encodeHead maps 2 ++ encodeText certificateOwnershipToken ++ encodeText token ++
        encodeText parameters ++ encodeHead maps 1 ++ encodeText serialNumber ++
        encodeText serial := by
  simp only [registerThing, Item.encode, Entries.encode, Entries.count, List.nil_append,
    List.append_assoc, List.append_nil]

section Request

variable {C : TinyCborEncoder} {progress : C.Encoder → Progress} (hC : C.Documented progress)

include hC

/-- The request is written if the encoding of the map fits, and then it is this
    encoding. -/
theorem generateRegisterThingRequest_ok_iff (bufferLength : Nat)
    (token serial request : List UInt8) :
    generateRegisterThingRequest C bufferLength token serial = .ok request ↔
      (registerThing token serial).encode.length ≤ bufferLength ∧
        request = (registerThing token serial).encode := by
  have hinit := hC.init bufferLength
  rw [encode_registerThing]
  unfold generateRegisterThingRequest
  simp only [bind_eq_ok, Prod.exists]
  constructor
  · rintro ⟨e, m0, h0, m1, h1, m2, h2, m3, h3, m4, p0, h4, p1, h5, p2, h6, m5, h7, e', h8, hok⟩
    -- what each step leaves is what the next one starts from
    have hmap := progress_map hC (by decide) hinit h0
    have hm1 := progress_text hC hmap.2 h1
    have hm2 := progress_text hC hm1 h2
    have hm3 := progress_text hC hm2 h3
    have hparameters := progress_map hC (by decide) hm3 h4
    have hp1 := progress_text hC hparameters.2 h5
    have hp2 := progress_text hC hp1 h6
    rcases encoded_close hC hparameters.1 hp2 with ⟨m5', h7', hm5⟩
    rw [h7', Except.ok.injEq] at h7
    rw [h7] at hm5
    rcases encoded_close hC hmap.1 hm5 with ⟨e'', h8', he''⟩
    rw [h8', Except.ok.injEq] at h8
    rw [h8] at he''
    -- the last item that was written fits, so all of them do
    refine ⟨(encoded_text_iff hC hp1).mp ⟨_, h6⟩, ?_⟩
    cases hok
    rw [hC.written, he'']
  · rintro ⟨hroom, rfl⟩
    simp only [List.length_append] at hroom
    obtain ⟨⟨e, m0⟩, h0⟩ := (opened_map_iff (n := 2) hC (by decide) hinit).mpr
      (by simp only [List.length_append]; omega)
    have hmap := progress_map hC (by decide) hinit h0
    obtain ⟨m1, h1⟩ := (encoded_text_iff (s := certificateOwnershipToken) hC hmap.2).mpr
      (by simp only [List.length_append]; omega)
    have hm1 := progress_text hC hmap.2 h1
    obtain ⟨m2, h2⟩ := (encoded_text_iff (s := token) hC hm1).mpr
      (by simp only [List.length_append]; omega)
    have hm2 := progress_text hC hm1 h2
    obtain ⟨m3, h3⟩ := (encoded_text_iff (s := parameters) hC hm2).mpr
      (by simp only [List.length_append]; omega)
    have hm3 := progress_text hC hm2 h3
    obtain ⟨⟨m4, p0⟩, h4⟩ := (opened_map_iff (n := 1) hC (by decide) hm3).mpr
      (by simp only [List.length_append]; omega)
    have hparameters := progress_map hC (by decide) hm3 h4
    obtain ⟨p1, h5⟩ := (encoded_text_iff (s := serialNumber) hC hparameters.2).mpr
      (by simp only [List.length_append]; omega)
    have hp1 := progress_text hC hparameters.2 h5
    obtain ⟨p2, h6⟩ := (encoded_text_iff (s := serial) hC hp1).mpr
      (by simp only [List.length_append]; omega)
    have hp2 := progress_text hC hp1 h6
    obtain ⟨m5, h7, hm5⟩ := encoded_close hC hparameters.1 hp2
    obtain ⟨e', h8, he'⟩ := encoded_close hC hmap.1 hm5
    refine ⟨e, m0, h0, m1, h1, m2, h2, m3, h3, m4, p0, h4, p1, h5, p2, h6, m5, h7, e', h8, ?_⟩
    simp only [pure, Except.pure]
    rw [hC.written, he']

end Request

/-- The request is written exactly if the encoding of its map fits the buffer.
    Then the length is that of the encoding, and the bytes are decoded to this
    map; otherwise the length is not written. -/
theorem registerThing_encoded (C : TinyCborEncoder) (progress : C.Encoder → Progress)
    (hC : C.Documented progress) (bufferLength : Nat) (hlength : bufferLength < 2 ^ 64)
    (token serial : List UInt8) (pOutLengthWritten : Nat) :
    let out := generateRegisterThingRequestOut C bufferLength token serial pOutLengthWritten
    (out.result = true ↔ (registerThing token serial).encode.length ≤ bufferLength) ∧
      (out.result = true →
        out.outLengthWritten = (registerThing token serial).encode.length ∧
          out.buffer = (registerThing token serial).encode ∧
          decode out.buffer = some (registerThing token serial)) ∧
      (out.result = false → out.outLengthWritten = pOutLengthWritten) := by
  unfold generateRegisterThingRequestOut
  cases hres : generateRegisterThingRequest C bufferLength token serial with
  | ok request =>
      rcases (generateRegisterThingRequest_ok_iff hC _ _ _ _).mp hres with ⟨hroom, rfl⟩
      exact ⟨⟨fun _ => hroom, fun _ => rfl⟩,
        fun _ => ⟨rfl, rfl, decode_encode _ (by omega)⟩, fun hfalse => nomatch hfalse⟩
  | error written =>
      refine ⟨⟨fun htrue => (nomatch htrue), fun hroom => ?_⟩, fun htrue => (nomatch htrue),
        fun _ => rfl⟩
      rw [(generateRegisterThingRequest_ok_iff hC _ _ _ _).mpr ⟨hroom, rfl⟩] at hres
      cases hres

/-! ### A library as documented -/

theorem tinyCborEncoder_documented : tinyCborEncoder.Documented id where
  written := fun _ => rfl
  init := fun _ => rfl
  text := by
    intro p s expected hexpected
    constructor
    · intro hfits
      -- an item that fits is written, and one less is expected
      have happend : tinyCborEncoder.encodeTextString p s =
          (.CborNoError, p.write (encodeText s) (p.expected - 1)) := if_pos hfits
      rw [happend, show p.expected = expected + 1 from hexpected]
      exact ⟨rfl, rfl⟩
    · intro hfits
      have happend : tinyCborEncoder.encodeTextString p s = (.CborErrorOutOfMemory, p) :=
        if_neg hfits
      rw [happend]
  map := by
    intro p n expected _ hexpected
    constructor
    · intro hfits
      have hopen : tinyCborEncoder.createMap p n = (.CborNoError,
          { p with expected := p.expected - 1 }, p.write (encodeHead maps n) (2 * n)) :=
        if_pos hfits
      rw [hopen, show p.expected = expected + 1 from hexpected]
      exact ⟨rfl, rfl, rfl⟩
    · intro hfits
      have hopen : tinyCborEncoder.createMap p n = (.CborErrorOutOfMemory, p, p) := if_neg hfits
      rw [hopen]
  close := by
    intro p entries
    constructor
    · intro hnone
      -- a container is closed once nothing more is expected in it
      have hclose : tinyCborEncoder.closeContainer p entries =
          (.CborNoError, { entries with expected := p.expected }) := if_pos hnone
      rw [hclose]
      exact ⟨rfl, rfl⟩
    · intro hsome
      have hclose : tinyCborEncoder.closeContainer p entries = (.other 769, p) := if_neg hsome
      rw [hclose]
      intro h
      cases h

/-- A token of one byte and an empty serial number, in a buffer of 64 bytes. -/
theorem registerThing_encoded_short :
    let out := generateRegisterThingRequestOut tinyCborEncoder 64 [65] [] 0
    (out.result = true ↔ (registerThing [65] []).encode.length ≤ 64) ∧
      (out.result = true →
        out.outLengthWritten = (registerThing [65] []).encode.length ∧
          out.buffer = (registerThing [65] []).encode ∧
          decode out.buffer = some (registerThing [65] [])) ∧
      (out.result = false → out.outLengthWritten = 0) :=
  registerThing_encoded tinyCborEncoder id tinyCborEncoder_documented 64 (by decide) [65] [] 0

end Serializer

end ProvisioningSdk
