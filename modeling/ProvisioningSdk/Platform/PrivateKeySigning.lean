import ProvisioningSdk.Lib.Memory

/-!
# Signing with the Private Key

`privateKeySigningCallback` of `mbedtls_pkcs11_posix.c`, by which mbedTLS signs
a hash with the private key on the token.

The callback goes through its steps with one error code, and returns a variable
that none of them assigns. So it returns 0 whatever happens. Two more things go
wrong on the way: for an RSA key the check of the length is forgotten, as the
error code is assigned anew, and the data to be signed has 32 bytes of the hash
however many there are; for an EC key the hash is copied before the check has
any effect, and a longer one overruns the buffer. What the result promises and
the bounds of the buffer are kept exactly if nothing fails and the hash has a
length that fits the key (`signing_honest_iff`).

## Main definitions

* `Pkcs11`, `Pkcs11.AppendsHash`: The functions outside the repository, and what
  is documented of one.
* `privateKeySigningCallback`: The callback, with what it did.
* `Represents`: Data that stands for a hash.
* `Honest`: What the result promises.
* `Signs`: Nothing fails, and the hash fits the key.

## Theorems

* `result_zero`: The callback returns 0.
* `signing_honest_iff`: When that is honest.
-/

namespace ProvisioningSdk

namespace MbedtlsPkcs11

open Bytes

/-- `CKA_KEY_TYPE`. -/
inductive KeyType
  | CKK_RSA
  | CKK_EC
  | other (code : Nat)
  deriving DecidableEq, Repr

/-- `CK_MECHANISM`, zero at first. -/
inductive Mechanism
  | zero
  | CKM_RSA_PKCS
  | CKM_ECDSA
  deriving DecidableEq, Repr

/-- `CK_RV`, as far as it is told apart here. -/
inductive Rv
  | CKR_OK
  | CKR_ARGUMENTS_BAD
  | CKR_FUNCTION_FAILED
  | other (code : Nat)
  deriving DecidableEq, Repr

/-- `sizeof( toBeSigned )`. -/
def toBeSignedSize : Nat := 256

/-- `pkcs11RSA_SIGNATURE_INPUT_LENGTH`. -/
def pkcs11RSA_SIGNATURE_INPUT_LENGTH : Nat := 51

/-- `pkcs11ECDSA_P256_SIGNATURE_LENGTH`. -/
def pkcs11ECDSA_P256_SIGNATURE_LENGTH : Nat := 64

/-- What comes before a SHA-256 hash in its `DigestInfo`. -/
def sha256AlgorithmIdentifier : List UInt8 :=
  [0x30, 0x31, 0x30, 0x0d, 0x06, 0x09, 0x60, 0x86, 0x48, 0x01, 0x65, 0x03, 0x04, 0x02, 0x01,
    0x05, 0x00, 0x04, 0x20]

/-- The functions outside the repository, with their outcomes. -/
structure Pkcs11 where
  /-- For a hash, the result and what is in the output buffer. -/
  vAppendSHA256AlgorithmIdentifierSequence : Memory → Rv × Memory
  C_SignInit : Mechanism → Rv
  /-- The result, and the signature. -/
  C_Sign : List UInt8 → Rv × List UInt8
  /-- The ASN.1 form of a raw signature. -/
  PKI_pkcs11SignatureTombedTLSSignature : List UInt8 → Option (List UInt8)

/-- What is documented of the first of them: if it succeeds, it has copied the 32
    bytes of the hash behind the algorithm identifier. -/
def Pkcs11.AppendsHash (P : Pkcs11) : Prop :=
  ∀ pHash, (P.vAppendSHA256AlgorithmIdentifierSequence pHash).1 = .CKR_OK →
    (P.vAppendSHA256AlgorithmIdentifierSequence pHash).2.slice 0
      pkcs11RSA_SIGNATURE_INPUT_LENGTH = sha256AlgorithmIdentifier ++ pHash.slice 0 32

/-- What the hash was formatted to. -/
structure Formatted where
  ret : Rv
  mech : Mechanism
  /-- The first `toBeSignedLen` bytes. -/
  toBeSigned : List UInt8
  /-- How many bytes of the buffer were written, if there are as many. -/
  written : Nat
  deriving DecidableEq, Repr

/-- What the callback did. -/
structure Signing where
  /-- What it returns. -/
  result : Int
  /-- The error code it logs. -/
  ret : Rv
  written : Nat
  /-- The result of `C_SignInit`, if it was called. -/
  signInit : Option Rv
  /-- What `C_Sign` was given, its result and its signature, if it was called. -/
  sign : Option (List UInt8 × Rv × List UInt8)
  /-- `pSig`, if a signature was written to it. -/
  pSig : Option (List UInt8)
  deriving DecidableEq, Repr

section Callback

variable (P : Pkcs11) (keyType : KeyType) (pHash : Memory) (hashLen : Nat)

/-- Format the hash data to be signed. -/
def formatHash : Formatted :=
  let ret := if toBeSignedSize < hashLen then .CKR_ARGUMENTS_BAD else .CKR_OK
  match keyType with
  | .CKK_RSA =>
      -- the error code from the check is lost
      let appended := P.vAppendSHA256AlgorithmIdentifierSequence pHash
      { ret := appended.1
        mech := .CKM_RSA_PKCS
        toBeSigned := appended.2.slice 0 pkcs11RSA_SIGNATURE_INPUT_LENGTH
        written := pkcs11RSA_SIGNATURE_INPUT_LENGTH }
  | .CKK_EC =>
      { ret := ret
        mech := .CKM_ECDSA
        toBeSigned := pHash.slice 0 hashLen
        written := hashLen }
  | .other _ =>
      { ret := .CKR_ARGUMENTS_BAD
        mech := .zero
        toBeSigned := []
        written := 0 }

/-- Convert the signature of an EC key: the error code, and `pSig`. What the
    conversion itself returns is not looked at. -/
def convertSignature (signature : List UInt8) : Rv × List UInt8 :=
  if keyType = .CKK_EC then
    if signature.length ≠ pkcs11ECDSA_P256_SIGNATURE_LENGTH then (.CKR_FUNCTION_FAILED, signature)
    else (.CKR_OK, (P.PKI_pkcs11SignatureTombedTLSSignature signature).getD signature)
  else (.CKR_OK, signature)

/-- `privateKeySigningCallback`. -/
def privateKeySigningCallback : Signing :=
  -- the steps assign `ret`, and nothing assigns this
  let result := 0
  let formatted := formatHash P keyType pHash hashLen
  if formatted.ret ≠ .CKR_OK then
    ⟨result, formatted.ret, formatted.written, none, none, none⟩
  else
    let ret := P.C_SignInit formatted.mech
    if ret ≠ .CKR_OK then ⟨result, ret, formatted.written, some ret, none, none⟩
    else
      let signed := P.C_Sign formatted.toBeSigned
      if signed.1 ≠ .CKR_OK then
        ⟨result, signed.1, formatted.written, some .CKR_OK, some (formatted.toBeSigned, signed),
          none⟩
      else
        let converted := convertSignature P keyType signed.2
        ⟨result, converted.1, formatted.written, some .CKR_OK,
          some (formatted.toBeSigned, signed), some converted.2⟩

/-- The data stands for all bytes of the hash: it is the hash itself for an EC
    key, and the `DigestInfo` of a SHA-256 hash for an RSA key. -/
def Represents (hash data : List UInt8) : Prop :=
  match keyType with
  | .CKK_RSA => hash.length = 32 ∧ data = sha256AlgorithmIdentifier ++ hash
  | .CKK_EC => data = hash
  | .other _ => False

/-- If the callback returns 0, the hash was signed, and the signature of an EC key
    had the expected length and was converted. Nothing is written behind the
    buffer. -/
def Honest (s : Signing) : Prop :=
  (s.result = 0 → s.signInit = some .CKR_OK ∧
    ∃ data signature, s.sign = some (data, .CKR_OK, signature) ∧
      Represents keyType (pHash.slice 0 hashLen) data ∧
      (keyType = .CKK_EC → signature.length = pkcs11ECDSA_P256_SIGNATURE_LENGTH ∧
        ∃ converted, P.PKI_pkcs11SignatureTombedTLSSignature signature = some converted ∧
          s.pSig = some converted)) ∧
    s.written ≤ toBeSignedSize

/-- No call fails. An RSA key is given a hash of 32 bytes, and an EC key one that
    fits the buffer. -/
def Signs : Prop :=
  match keyType with
  | .CKK_RSA =>
      hashLen = 32 ∧ (P.vAppendSHA256AlgorithmIdentifierSequence pHash).1 = .CKR_OK ∧
        P.C_SignInit .CKM_RSA_PKCS = .CKR_OK ∧
        (P.C_Sign (sha256AlgorithmIdentifier ++ pHash.slice 0 hashLen)).1 = .CKR_OK
  | .CKK_EC =>
      hashLen ≤ toBeSignedSize ∧ P.C_SignInit .CKM_ECDSA = .CKR_OK ∧
        (P.C_Sign (pHash.slice 0 hashLen)).1 = .CKR_OK ∧
        (P.C_Sign (pHash.slice 0 hashLen)).2.length = pkcs11ECDSA_P256_SIGNATURE_LENGTH ∧
        (P.PKI_pkcs11SignatureTombedTLSSignature (P.C_Sign (pHash.slice 0 hashLen)).2).isSome = true
  | .other _ => False

/-- The callback returns 0, whatever happens. -/
theorem result_zero : (privateKeySigningCallback P keyType pHash hashLen).result = 0 := by
  unfold privateKeySigningCallback
  simp only
  split_ifs
  all_goals rfl

theorem written_eq :
    (privateKeySigningCallback P keyType pHash hashLen).written =
      (formatHash P keyType pHash hashLen).written := by
  unfold privateKeySigningCallback
  simp only
  split_ifs
  all_goals rfl

/-- The hash is signed if it was formatted and neither call fails. -/
theorem sign_ok_iff (data signature : List UInt8) :
    (privateKeySigningCallback P keyType pHash hashLen).sign = some (data, .CKR_OK, signature) ↔
      (formatHash P keyType pHash hashLen).ret = .CKR_OK ∧
        P.C_SignInit (formatHash P keyType pHash hashLen).mech = .CKR_OK ∧
        data = (formatHash P keyType pHash hashLen).toBeSigned ∧
        P.C_Sign data = (.CKR_OK, signature) := by
  unfold privateKeySigningCallback
  simp only
  -- each call is made only if the one before it succeeded
  by_cases hformat : (formatHash P keyType pHash hashLen).ret = .CKR_OK
  case neg =>
    rw [if_pos hformat]
    exact ⟨fun h => (nomatch h), fun h => absurd h.1 hformat⟩
  rw [if_neg (not_not.mpr hformat)]
  by_cases hinit : P.C_SignInit (formatHash P keyType pHash hashLen).mech = .CKR_OK
  case neg =>
    rw [if_pos hinit]
    exact ⟨fun h => (nomatch h), fun h => absurd h.2.1 hinit⟩
  rw [if_neg (not_not.mpr hinit)]
  by_cases hsign : (P.C_Sign (formatHash P keyType pHash hashLen).toBeSigned).1 = .CKR_OK
  · rw [if_neg (not_not.mpr hsign)]
    constructor
    · intro h
      simp only [Option.some.injEq, Prod.mk.injEq] at h
      rcases h with ⟨rfl, h⟩
      exact ⟨hformat, hinit, rfl, h⟩
    · rintro ⟨-, -, rfl, h⟩
      rw [h]
  · rw [if_pos hsign]
    constructor
    · intro h
      simp only [Option.some.injEq, Prod.mk.injEq] at h
      exact absurd (congrArg Prod.fst h.2) hsign
    · rintro ⟨-, -, rfl, h⟩
      rw [h] at hsign
      exact absurd rfl hsign

/-- What was signed was signed by a session that was set up for it, and the
    signature is what the conversion leaves. -/
theorem signInit_pSig {data signature : List UInt8}
    (h : (privateKeySigningCallback P keyType pHash hashLen).sign =
      some (data, .CKR_OK, signature)) :
    (privateKeySigningCallback P keyType pHash hashLen).signInit = some .CKR_OK ∧
      (privateKeySigningCallback P keyType pHash hashLen).pSig =
        some (convertSignature P keyType signature).2 := by
  rcases (sign_ok_iff P keyType pHash hashLen data signature).mp h with
    ⟨hformat, hinit, rfl, hsign⟩
  unfold privateKeySigningCallback
  simp only
  rw [if_neg (not_not.mpr hformat), if_neg (not_not.mpr hinit), hsign,
    if_neg (not_not.mpr rfl)]
  exact ⟨rfl, rfl⟩

/-- The callback is honest exactly if no call fails, and the hash has a length
    that fits the key. -/
theorem signing_honest_iff (hP : P.AppendsHash) :
    Honest P keyType pHash hashLen (privateKeySigningCallback P keyType pHash hashLen) ↔
      Signs P keyType pHash hashLen := by
  unfold Honest
  rw [written_eq]
  cases keyType with
  | CKK_RSA =>
      constructor
      · rintro ⟨hhonest, -⟩
        -- the callback reports success, so it has to have signed the hash
        rcases hhonest (result_zero P .CKK_RSA pHash hashLen) with
          ⟨-, data, signature, hsign, ⟨hlen, rfl⟩, -⟩
        rcases (sign_ok_iff P .CKK_RSA pHash hashLen _ signature).mp hsign with
          ⟨happend, hinit, -, hsigned⟩
        rw [length_slice] at hlen
        exact ⟨hlen, happend, hinit, by rw [hsigned]⟩
      · rintro ⟨rfl, happend, hinit, hsigned⟩
        -- what was copied are the bytes of the hash
        have hsign := (sign_ok_iff P .CKK_RSA pHash 32 _ _).mpr
          ⟨happend, hinit, (hP pHash happend).symm, Prod.ext hsigned rfl⟩
        exact ⟨fun _ => ⟨(signInit_pSig P .CKK_RSA pHash 32 hsign).1, _, _, hsign,
          ⟨length_slice _ _ _, rfl⟩, fun hkey => (nomatch hkey)⟩,
          show pkcs11RSA_SIGNATURE_INPUT_LENGTH ≤ toBeSignedSize by decide⟩
  | CKK_EC =>
      constructor
      · rintro ⟨hhonest, hwritten⟩
        -- the same, and the signature was converted
        rcases hhonest (result_zero P .CKK_EC pHash hashLen) with
          ⟨-, data, signature, hsign, rfl, hconverted⟩
        rcases (sign_ok_iff P .CKK_EC pHash hashLen _ signature).mp hsign with
          ⟨-, hinit, -, hsigned⟩
        rcases hconverted rfl with ⟨hlen, converted, hconvert, -⟩
        refine ⟨hwritten, hinit, ?_⟩
        rw [hsigned]
        exact ⟨rfl, hlen, by rw [hconvert]; rfl⟩
      · rintro ⟨hwritten, hinit, hsigned, hlen, hconvert⟩
        -- what is signed is the hash itself
        have hformat : (formatHash P .CKK_EC pHash hashLen).ret = .CKR_OK :=
          if_neg (Nat.not_lt.mpr hwritten)
        have hsign := (sign_ok_iff P .CKK_EC pHash hashLen _ _).mpr
          ⟨hformat, hinit, rfl, Prod.ext hsigned rfl⟩
        rcases Option.isSome_iff_exists.mp hconvert with ⟨converted, hconverted⟩
        have hpSig := signInit_pSig P .CKK_EC pHash hashLen hsign
        have hfound : (convertSignature P .CKK_EC (P.C_Sign (pHash.slice 0 hashLen)).2).2 =
            converted := by
          unfold convertSignature
          rw [if_pos rfl, if_neg (not_not.mpr hlen), hconverted, Option.getD_some]
        refine ⟨fun _ => ⟨hpSig.1, _, _, hsign, rfl, fun _ => ⟨hlen, converted, hconverted, ?_⟩⟩,
          hwritten⟩
        rw [hpSig.2]
        exact congrArg some hfound
  -- no other key signs anything
  | other code =>
      constructor
      · rintro ⟨hhonest, -⟩
        rcases hhonest (result_zero P (.other code) pHash hashLen) with
          ⟨-, data, signature, hsign, hrepresents, -⟩
        exact hrepresents
      · intro h
        exact h.elim

end Callback

/-- The identifier and the hash behind it, in a buffer of zeros. -/
def appendIdentifier (pHash : Memory) : Rv × Memory :=
  (.CKR_OK, Memory.copy (fun _ => 0) 0 (sha256AlgorithmIdentifier ++ pHash.slice 0 32))

/-- A token that has no key for the session. -/
def noKey : Pkcs11 where
  vAppendSHA256AlgorithmIdentifierSequence := appendIdentifier
  C_SignInit := fun _ => .other 0x60
  C_Sign := fun _ => (.other 0x91, [])
  PKI_pkcs11SignatureTombedTLSSignature := fun signature => some signature

theorem noKey_appendsHash : noKey.AppendsHash := by
  intro pHash _
  have hlength : (sha256AlgorithmIdentifier ++ pHash.slice 0 32).length =
      pkcs11RSA_SIGNATURE_INPUT_LENGTH := by
    rw [List.length_append, length_slice]
    rfl
  have hself := slice_copy_self (fun _ => 0) 0 (sha256AlgorithmIdentifier ++ pHash.slice 0 32)
  rw [hlength] at hself
  exact hself

/-- A hash of 32 bytes, and a key for RSA. -/
theorem signing_honest_iff_noKey :
    Honest noKey .CKK_RSA (fun _ => 0) 32
        (privateKeySigningCallback noKey .CKK_RSA (fun _ => 0) 32) ↔
      Signs noKey .CKK_RSA (fun _ => 0) 32 :=
  signing_honest_iff noKey .CKK_RSA (fun _ => 0) 32 noKey_appendsHash

/-- The callback returns 0 though nothing was signed. -/
theorem signing_silentFailure :
    ¬ Honest noKey .CKK_EC (fun _ => 0) 32
      (privateKeySigningCallback noKey .CKK_EC (fun _ => 0) 32) := by
  rintro ⟨hhonest, -⟩
  have hinit := (hhonest rfl).1
  cases hinit

end MbedtlsPkcs11

end ProvisioningSdk
