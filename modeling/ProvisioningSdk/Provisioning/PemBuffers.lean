import ProvisioningSdk.Provisioning.Workflow

/-!
# The Buffers of PEM Texts

The texts that are handed on to be imported: from the claim credential files by
`loadClaimCredentials`, and from the response to the create keys request.

mbedTLS wants a PEM text with the NUL behind it, so both sides hand on one byte
more than the length they know. A file is read into a buffer of zeros, and a
string is copied out of a response with a NUL if there is room for one. Both
accept a text that fills the buffer, and then the byte behind it is not in the
buffer any more. A field of the response that is no text string at all leaves
the length at the size of the buffer, with the same effect. In all other cases
the NUL is there (`pemTexts_proper_iff`).

## Main definitions

* `File`, `readFile`: A file, and reading it.
* `loadClaimCredentials`: Importing the claim credentials.
* `PemText`, `PemText.Proper`: What is handed on, and what it should be.
* `ShortText`: A field with a text shorter than its buffer.

## Theorems

* `readFile_accepted`: What reading a file leaves.
* `copyString_proper_iff`: When a copied string has its NUL.
* `parseField_proper_iff`: One field of a response.
* `pemTexts_proper_iff`: When the texts are what mbedTLS wants.
-/

namespace ProvisioningSdk

namespace FleetProvisioning

open Effect Bytes
open Serializer (TinyCbor OutBuffer KeyCertBuffers parseKeyCertResponse parseField parseField_iff
  parseFirst_iff parseKeyCertResponse_true_iff certificatePem certificateId privateKey
  certificateOwnershipToken)

/-- `CLAIM_CERT_BUFFER_LENGTH`. -/
def CLAIM_CERT_BUFFER_LENGTH : Nat := 2048

/-- `CLAIM_PRIVATE_KEY_BUFFER_LENGTH`. -/
def CLAIM_PRIVATE_KEY_BUFFER_LENGTH : Nat := 2048

/-! ### Files -/

/-- A file, with the outcomes of the calls that read it. -/
structure File where
  fopen : Bool
  fseekEnd : Bool
  /-- The position of the end. -/
  ftell : Option Nat
  fseekSet : Bool
  /-- What is read if so many bytes are asked for. -/
  fread : (length : Nat) → { bytes : List UInt8 // bytes.length ≤ length }

/-- The length of the file. -/
def File.length (file : File) : Nat := file.ftell.getD 0

/-- What `readFile` returns and leaves: the status, the buffer, and
    `*pOutWrittenLength`. -/
structure ReadResult where
  status : Bool
  buffer : Memory
  outWrittenLength : Nat

/-- `readFile`. -/
def readFile (file : File) (pBuffer : Memory) (bufferLength outWrittenLength : Nat) : ReadResult :=
  if file.fopen = false then ⟨false, pBuffer, outWrittenLength⟩
  else if file.fseekEnd = false then ⟨false, pBuffer, outWrittenLength⟩
  else match file.ftell with
    | none => ⟨false, pBuffer, outWrittenLength⟩
    | some length =>
        -- a file as long as the buffer is not too long
        if bufferLength < length then ⟨false, pBuffer, outWrittenLength⟩
        else if file.fseekSet = false then ⟨false, pBuffer, outWrittenLength⟩
        else
          let written := (file.fread length).1
          if written.length ≠ length then ⟨false, pBuffer.copy 0 written, outWrittenLength⟩
          else ⟨true, pBuffer.copy 0 written, length⟩

/-- A buffer of zeros. -/
def zeroBuffer : Memory := fun _ => 0

/-- The claim certificate, as `loadClaimCredentials` reads it. -/
def readClaimCert (file : File) : ReadResult := readFile file zeroBuffer CLAIM_CERT_BUFFER_LENGTH 0

/-- The claim private key, as `loadClaimCredentials` reads it. -/
def readClaimPrivateKey (file : File) : ReadResult :=
  readFile file zeroBuffer CLAIM_PRIVATE_KEY_BUFFER_LENGTH 0

/-- `loadClaimCredentials`. -/
def loadClaimCredentials (E : External) (claimCertFile : File) (pClaimCertLabel : Label)
    (claimPrivKeyFile : File) (pClaimPrivKeyLabel : Label) : Program Bool := do
  let claimCert := readClaimCert claimCertFile
  if claimCert.status = false then return false
  else do
    let claimPrivateKey := readClaimPrivateKey claimPrivKeyFile
    if claimPrivateKey.status = false then return false
    else do
      let status ← provisionPrivateKey E
        (claimPrivateKey.buffer.slice 0 (claimPrivateKey.outWrittenLength + 1)) pClaimPrivKeyLabel
      if status = false then return false
      else
        provisionCertificate E (claimCert.buffer.slice 0 (claimCert.outWrittenLength + 1))
          pClaimCertLabel

/-! ### What is handed on -/

/-- A text in a buffer of this size, with the length that is handed on. -/
structure PemText where
  buffer : Memory
  bufferLength : Nat
  textLength : Nat

/-- The bytes that are handed on. -/
def PemText.bytes (t : PemText) : List UInt8 := t.buffer.slice 0 t.textLength

/-- They lie in the buffer, and the last one is a NUL. -/
def PemText.Proper (t : PemText) : Prop :=
  t.textLength ≤ t.bufferLength ∧ ∃ length, t.textLength = length + 1 ∧ t.buffer length = 0

/-- The text of a file. -/
def ReadResult.text (r : ReadResult) (bufferLength : Nat) : PemText :=
  ⟨r.buffer, bufferLength, r.outWrittenLength + 1⟩

/-- The text of a field. -/
def fieldText (out : OutBuffer) (bufferLength : Nat) : PemText :=
  ⟨out.buffer, bufferLength, out.length + 1⟩

/-- The texts of the claim credentials. -/
def claimTexts (claimCertFile claimPrivKeyFile : File) : List PemText :=
  [(readClaimPrivateKey claimPrivKeyFile).text CLAIM_PRIVATE_KEY_BUFFER_LENGTH,
    (readClaimCert claimCertFile).text CLAIM_CERT_BUFFER_LENGTH]

/-- The texts of a response that was parsed. -/
def responseTexts (out : KeyCertBuffers) : List PemText :=
  [fieldText out.privateKey PRIV_KEY_BUFFER_LENGTH, fieldText out.certificate CERT_BUFFER_LENGTH]

/-- Files that are accepted are handed on as these texts. -/
theorem loadClaimCredentials_eq (E : External) (certFile keyFile : File)
    (certLabel keyLabel : Label)
    (hcert : (readClaimCert certFile).status = true)
    (hkey : (readClaimPrivateKey keyFile).status = true) :
    loadClaimCredentials E certFile certLabel keyFile keyLabel =
      provisionPrivateKey E
          ((readClaimPrivateKey keyFile).text CLAIM_PRIVATE_KEY_BUFFER_LENGTH).bytes keyLabel >>=
        fun status => if status = false then pure false else
          provisionCertificate E ((readClaimCert certFile).text CLAIM_CERT_BUFFER_LENGTH).bytes
            certLabel := by
  unfold loadClaimCredentials
  simp only [hcert, hkey, Bool.true_eq_false, if_false]
  rfl

/-- Buffers that were parsed to are handed on as these texts. -/
theorem loadResponse_eq (E : External) (out : KeyCertBuffers) (keyLabel certLabel : Label) :
    loadPrivateKey E out.privateKey.buffer keyLabel out.privateKey.length =
        provisionPrivateKey E (fieldText out.privateKey PRIV_KEY_BUFFER_LENGTH).bytes keyLabel ∧
      loadCertificate E out.certificate.buffer certLabel out.certificate.length =
        provisionCertificate E (fieldText out.certificate CERT_BUFFER_LENGTH).bytes certLabel :=
  ⟨rfl, rfl⟩

/-! ### The claim credentials -/

/-- A file that is accepted fits the buffer, and was read as a whole. -/
theorem readFile_accepted {file : File} {pBuffer : Memory} {bufferLength outWrittenLength : Nat}
    (h : (readFile file pBuffer bufferLength outWrittenLength).status = true) :
    ∃ bytes : List UInt8, bytes.length = file.length ∧ bytes.length ≤ bufferLength ∧
      readFile file pBuffer bufferLength outWrittenLength =
        ⟨true, pBuffer.copy 0 bytes, bytes.length⟩ := by
  unfold readFile at h ⊢
  -- every call on the file succeeds, and all bytes are read
  by_cases hopen : file.fopen = false
  · rw [if_pos hopen] at h
    cases h
  rw [if_neg hopen] at h ⊢
  by_cases hend : file.fseekEnd = false
  · rw [if_pos hend] at h
    cases h
  rw [if_neg hend] at h ⊢
  unfold File.length
  cases htell : file.ftell with
  | none =>
      rw [htell] at h
      cases h
  | some length =>
      rw [htell] at h
      simp only at h ⊢
      by_cases hlong : bufferLength < length
      · rw [if_pos hlong] at h
        cases h
      rw [if_neg hlong] at h ⊢
      by_cases hset : file.fseekSet = false
      · rw [if_pos hset] at h
        cases h
      rw [if_neg hset] at h ⊢
      by_cases hread : (file.fread length).1.length = length
      · rw [if_neg (not_not.mpr hread)]
        exact ⟨(file.fread length).1, hread, by omega, by rw [hread]⟩
      · rw [if_pos hread] at h
        cases h

/-- A text of a file is proper if the file is shorter than the buffer. -/
theorem readText_proper_iff {file : File} {bufferLength : Nat}
    (h : (readFile file zeroBuffer bufferLength 0).status = true) :
    ((readFile file zeroBuffer bufferLength 0).text bufferLength).Proper ↔
      file.length < bufferLength := by
  rcases readFile_accepted h with ⟨bytes, hlength, hle, hres⟩
  rw [hres, ← hlength]
  constructor
  · rintro ⟨hfits, -⟩
    exact hfits
  · intro hlt
    refine ⟨hlt, bytes.length, rfl, ?_⟩
    -- what was not read is still zero
    exact copy_outside zeroBuffer 0 bytes bytes.length (Or.inr (by omega))

/-! ### The fields of a response -/

/-- The response is a map, and has a value under the key. -/
def Present (T : TinyCbor) (pResponse key : List UInt8) : Prop :=
  T.isMap (T.parserInit pResponse).2 = true ∧
    ∃ value, T.mapFindValue (T.parserInit pResponse).2 key = some (.CborNoError, value) ∧
      T.type value ≠ .CborInvalidType

/-- All four fields are present. -/
def AllPresent (T : TinyCbor) (pResponse : List UInt8) : Prop :=
  ∀ key ∈ [certificatePem, certificateId, privateKey, certificateOwnershipToken],
    Present T pResponse key

/-- The field is a text string, and shorter than this. -/
def ShortText (T : TinyCbor) (pResponse key : List UInt8) (bufferLength : Nat) : Prop :=
  ∃ s, T.Finds pResponse key s ∧ s.length < bufferLength

/-- A string that was copied is proper if it is shorter than the buffer. -/
theorem copyString_proper_iff (out : OutBuffer) (s : List UInt8) :
    (fieldText (out.copyString s) out.length).Proper ↔ s.length < out.length := by
  constructor
  · rintro ⟨hfits, -⟩
    exact hfits
  · intro hlt
    refine ⟨hlt, s.length, rfl, ?_⟩
    unfold fieldText OutBuffer.copyString
    simp only [if_pos hlt]
    -- the NUL is copied behind the string
    exact copy_inside (out.buffer.copy 0 s) s.length [0] 0 (by decide)

/-- A field that is present is handed on properly if it is a text string shorter
    than its buffer. -/
theorem parseField_proper_iff {T : TinyCbor} (hT : T.Copies) {pResponse key : List UInt8}
    {out out' : OutBuffer} (hinit : (T.parserInit pResponse).1 = .CborNoError)
    (hpresent : Present T pResponse key)
    (hok : parseField T (T.parserInit pResponse).2 key out = .ok (.CborNoError, out')) :
    (fieldText out' out.length).Proper ↔ ShortText T pResponse key out.length := by
  rcases hpresent with ⟨hmap, -⟩
  rcases parseField_iff.mp hok with ⟨value, hfind, ⟨hother, rfl⟩ | ⟨htype, hcopy⟩⟩
  · -- the length is still that of the buffer
    constructor
    · rintro ⟨hfits, -⟩
      exact absurd hfits (Nat.not_succ_le_self _)
    · rintro ⟨s, ⟨-, -, value', hfind', htype', -⟩, -⟩
      rw [hfind] at hfind'
      cases hfind'
      exact absurd htype' hother
  · rcases (hT.copy_iff htype).mp hcopy with ⟨s, htext, -, rfl⟩
    have hs : T.Finds pResponse key s := ⟨hinit, hmap, value, hfind, htype, htext⟩
    rw [copyString_proper_iff]
    constructor
    · intro hlt
      exact ⟨s, hs, hlt⟩
    · rintro ⟨s', hs', hlt⟩
      rw [hs.unique hs']
      exact hlt

/-- The buffers of `ProvisionDevicePKCS11WithFP` before a response is parsed, with
    these bytes in them. -/
def responseBuffers (certificate certificateId privateKey ownershipToken : Memory) :
    KeyCertBuffers where
  certificate := ⟨certificate, CERT_BUFFER_LENGTH⟩
  certificateId := ⟨certificateId, CERT_ID_BUFFER_LENGTH⟩
  privateKey := ⟨privateKey, PRIV_KEY_BUFFER_LENGTH⟩
  ownershipToken := ⟨ownershipToken, OWNERSHIP_TOKEN_BUFFER_LENGTH⟩

theorem responseTexts_proper_iff {T : TinyCbor} (hT : T.Copies) {pResponse : List UInt8}
    {certificate id key token : Memory} {out : KeyCertBuffers} (hpresent : AllPresent T pResponse)
    (hok : parseKeyCertResponse T pResponse (responseBuffers certificate id key token) =
      .ok (true, out)) :
    (∀ t ∈ responseTexts out, t.Proper) ↔
      ShortText T pResponse privateKey PRIV_KEY_BUFFER_LENGTH ∧
        ShortText T pResponse certificatePem CERT_BUFFER_LENGTH := by
  rcases (parseKeyCertResponse_true_iff pResponse _ out (Nat.le_refl 64)).mp hok with
    ⟨hcertificate, -, hkey, -⟩
  have hcertificatePem := hpresent certificatePem (by simp only [List.mem_cons, true_or])
  have hprivateKey := hpresent privateKey (by simp only [List.mem_cons, true_or, or_true])
  rcases (parseFirst_iff _ _ _ _).mp hcertificate with ⟨hinit, ⟨hmap, -⟩ | ⟨-, hparsed⟩⟩
  · rw [hcertificatePem.1] at hmap
    cases hmap
  · have hkeyProper := parseField_proper_iff hT hinit hprivateKey hkey
    have hcertificateProper := parseField_proper_iff hT hinit hcertificatePem hparsed
    unfold responseTexts
    rw [List.forall_mem_cons, List.forall_mem_singleton]
    exact and_congr hkeyProper hcertificateProper

/-- The texts of files and responses that are accepted are proper exactly if the
    files and the fields are shorter than their buffers. -/
theorem pemTexts_proper_iff (certFile keyFile : File) (T : TinyCbor) (pResponse : List UInt8)
    (certificate id key token : Memory) (out : KeyCertBuffers) :
    ((readClaimCert certFile).status = true → (readClaimPrivateKey keyFile).status = true →
      ((∀ t ∈ claimTexts certFile keyFile, t.Proper) ↔
        keyFile.length < CLAIM_PRIVATE_KEY_BUFFER_LENGTH ∧
          certFile.length < CLAIM_CERT_BUFFER_LENGTH)) ∧
    (T.Copies →
      parseKeyCertResponse T pResponse (responseBuffers certificate id key token) =
        .ok (true, out) →
      AllPresent T pResponse →
        ((∀ t ∈ responseTexts out, t.Proper) ↔
          ShortText T pResponse privateKey PRIV_KEY_BUFFER_LENGTH ∧
            ShortText T pResponse certificatePem CERT_BUFFER_LENGTH)) := by
  refine ⟨fun hcert hkey => ?_, fun hT hok hpresent => responseTexts_proper_iff hT hpresent hok⟩
  unfold claimTexts
  rw [List.forall_mem_cons, List.forall_mem_singleton]
  exact and_congr (readText_proper_iff hkey) (readText_proper_iff hcert)

/-- A file of so many bytes. -/
def fileOfLength (n : Nat) : File where
  fopen := true
  fseekEnd := true
  ftell := some n
  fseekSet := true
  fread := fun length => ⟨List.replicate length 65, by rw [List.length_replicate]⟩

/-- A response whose four fields are the text `A`. -/
def shortResponse : List UInt8 :=
  Cbor.encodeHead Cbor.maps 4 ++ Cbor.encodeText certificateId ++ Cbor.encodeText [65] ++
    Cbor.encodeText certificatePem ++ Cbor.encodeText [65] ++ Cbor.encodeText privateKey ++
    Cbor.encodeText [65] ++ Cbor.encodeText certificateOwnershipToken ++ Cbor.encodeText [65]

theorem shortResponse_present :
    AllPresent (Serializer.tinyCbor Serializer.tinyCborLimits) shortResponse := by
  unfold AllPresent
  simp only [List.forall_mem_cons, List.not_mem_nil, false_implies, implies_true, and_true]
  exact ⟨⟨by rfl, _, by rfl, by decide⟩, ⟨by rfl, _, by rfl, by decide⟩,
    ⟨by rfl, _, by rfl, by decide⟩, ⟨by rfl, _, by rfl, by decide⟩⟩

theorem pemTexts_proper_iff_short :
    ((∀ t ∈ claimTexts (fileOfLength 1) (fileOfLength 1), t.Proper) ↔
      (fileOfLength 1).length < CLAIM_PRIVATE_KEY_BUFFER_LENGTH ∧
        (fileOfLength 1).length < CLAIM_CERT_BUFFER_LENGTH) ∧
    ∃ out, parseKeyCertResponse (Serializer.tinyCbor Serializer.tinyCborLimits) shortResponse
        (responseBuffers zeroBuffer zeroBuffer zeroBuffer zeroBuffer) = .ok (true, out) ∧
      ((∀ t ∈ responseTexts out, t.Proper) ↔
        ShortText (Serializer.tinyCbor Serializer.tinyCborLimits) shortResponse privateKey
            PRIV_KEY_BUFFER_LENGTH ∧
          ShortText (Serializer.tinyCbor Serializer.tinyCborLimits) shortResponse certificatePem
            CERT_BUFFER_LENGTH) :=
  have hboth := fun out => pemTexts_proper_iff (fileOfLength 1) (fileOfLength 1)
    (Serializer.tinyCbor Serializer.tinyCborLimits) shortResponse zeroBuffer zeroBuffer zeroBuffer
    zeroBuffer out
  ⟨(hboth (responseBuffers zeroBuffer zeroBuffer zeroBuffer zeroBuffer)).1 rfl rfl, _, rfl,
    (hboth _).2 (Serializer.tinyCbor_copies _) rfl shortResponse_present⟩

/-- A key file as long as the buffer is accepted, and its text ends behind the
    buffer. -/
theorem pemTexts_exactFit :
    (readClaimPrivateKey (fileOfLength 2048)).status = true ∧
      ¬ ((readClaimPrivateKey (fileOfLength 2048)).text
        CLAIM_PRIVATE_KEY_BUFFER_LENGTH).Proper := by
  have haccepted : (readClaimPrivateKey (fileOfLength 2048)).status = true := by
    unfold readClaimPrivateKey readFile fileOfLength
    simp only [Bool.true_eq_false, if_false, List.length_replicate, ne_eq, not_true_eq_false]
    rw [if_neg (by decide)]
  refine ⟨haccepted, fun hproper => ?_⟩
  exact absurd ((readText_proper_iff haccepted).mp hproper) (by decide)

end FleetProvisioning

end ProvisioningSdk
