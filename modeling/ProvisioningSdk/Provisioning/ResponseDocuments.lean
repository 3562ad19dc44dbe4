import ProvisioningSdk.Provisioning.Serializer

/-!
# Responses as Documents

What the parsers of `fleet_provisioning_serializer.c` make of a response that is
a map, in whatever form it was sent.

The service promises text strings under their names, and nothing about anything
else: the order of the entries, other entries between them, tags on the keys and
the forms of the heads are up to it. Of two values of a key the first counts, with
a tag on the key or without one. `parseResponses_document` says that none of this matters. If
a response has the text strings, their lengths alone decide the result, and the
buffers then have them.

## Main definitions

* `TextsFit`: The four text strings fit their buffers.
* `KeyCertBuffers.copyTexts`: The buffers with the text strings.

## Theorems

* `parseField_text`: One field that is there.
* `parseResponses_document`: The outcome for a response that has the fields.
-/

namespace ProvisioningSdk

namespace Serializer

open Cbor

/-! ### One field -/

section Fields

variable {T : TinyCbor} {pResponse key s : List UInt8}

/-- The error code of a field that is there. -/
def lengthCode (s : List UInt8) (out : OutBuffer) : CborError :=
  if s.length ≤ out.length then .CborNoError else .CborErrorOutOfMemory

/-- A field that is there is copied if it fits, and otherwise an error. -/
theorem parseField_text (hT : T.Copies) (h : T.Finds pResponse key s) (out : OutBuffer) :
    ∃ out', parseField T (T.parserInit pResponse).2 key out = .ok (lengthCode s out, out') ∧
      (s.length ≤ out.length → out' = out.copyString s) := by
  rcases h with ⟨-, -, value, hfind, htype, htext⟩
  have hinvalid : T.type value ≠ .CborInvalidType := by
    rw [htype]
    nofun
  have hfield : parseField T (T.parserInit pResponse).2 key out =
      .ok (T.copyTextString value out) := by
    unfold parseField
    rw [hfind]
    simp only
    rw [if_neg (not_not.mpr rfl), if_neg hinvalid, if_neg (not_not.mpr htype)]
  unfold lengthCode
  by_cases hlen : s.length ≤ out.length
  · rw [if_pos hlen, hfield, hT.copied value s out htype htext hlen]
    exact ⟨_, rfl, fun _ => rfl⟩
  · -- the rest of the buffer is not documented
    have hlong := hT.tooLong value s out htype htext (by omega)
    rw [if_neg hlen, hfield, ← hlong]
    exact ⟨_, rfl, fun hle => absurd hle hlen⟩

theorem parseFirst_text (hT : T.Copies) (h : T.Finds pResponse key s) (out : OutBuffer) :
    ∃ out', parseFirst T pResponse key out = .ok (lengthCode s out, out') ∧
      (s.length ≤ out.length → out' = out.copyString s) := by
  rcases parseField_text hT h out with ⟨out', hfield, hout⟩
  refine ⟨out', ?_, hout⟩
  unfold parseFirst
  rw [if_neg (not_not.mpr h.1), if_neg (by rw [h.2.1]; nofun), hfield]

/-- A field is looked up if the fields before it left no error. -/
theorem parseNext_text (hT : T.Copies) (h : T.Finds pResponse key s) (fits : Prop)
    [Decidable fits] {cborRet : CborError} (hret : cborRet = .CborNoError ↔ fits)
    (out : OutBuffer) :
    ∃ cborRet' out', parseNext T cborRet (T.parserInit pResponse).2 key out = .ok (cborRet', out') ∧
      (cborRet' = .CborNoError ↔ fits ∧ s.length ≤ out.length) ∧
      (fits ∧ s.length ≤ out.length → out' = out.copyString s) := by
  unfold parseNext
  by_cases hfits : fits
  · rcases parseField_text hT h out with ⟨out', hfield, hout⟩
    rw [if_pos (hret.mpr hfits), hfield]
    refine ⟨_, _, rfl, ?_, fun hall => hout hall.2⟩
    unfold lengthCode
    split_ifs with hlen
    · exact ⟨fun _ => ⟨hfits, hlen⟩, fun _ => rfl⟩
    · exact ⟨nofun, fun hall => absurd hall.2 hlen⟩
  · have hne : cborRet ≠ .CborNoError := fun hc => hfits (hret.mp hc)
    rw [if_neg hne]
    exact ⟨_, _, rfl, iff_of_false hne (fun hall => hfits hall.1), fun hall => absurd hall.1 hfits⟩

end Fields

/-! ### Both parsers -/

/-- The four text strings of a response fit their buffers. -/
def TextsFit (certificate certificateId privateKey ownershipToken : List UInt8)
    (out : KeyCertBuffers) : Prop :=
  ((certificate.length ≤ out.certificate.length ∧
      certificateId.length ≤ out.certificateId.length) ∧
    privateKey.length ≤ out.privateKey.length) ∧
      ownershipToken.length ≤ out.ownershipToken.length

instance (c i k t : List UInt8) (out : KeyCertBuffers) : Decidable (TextsFit c i k t out) :=
  inferInstanceAs (Decidable (_ ∧ _))

/-- The four text strings, each in its buffer. -/
def KeyCertBuffers.copyTexts (out : KeyCertBuffers)
    (certificate certificateId privateKey ownershipToken : List UInt8) : KeyCertBuffers where
  certificate := out.certificate.copyString certificate
  certificateId := out.certificateId.copyString certificateId
  privateKey := out.privateKey.copyString privateKey
  ownershipToken := out.ownershipToken.copyString ownershipToken

/-- A response that has the four text strings. -/
theorem parseKeyCertResponse_texts {T : TinyCbor} (hT : T.Copies)
    {pResponse c i k t : List UInt8} (hc : T.Finds pResponse certificatePem c)
    (hi : T.Finds pResponse certificateId i) (hk : T.Finds pResponse privateKey k)
    (ht : T.Finds pResponse certificateOwnershipToken t) (out : KeyCertBuffers)
    (hid : 64 ≤ out.certificateId.length) :
    ∃ out', parseKeyCertResponse T pResponse out = .ok (decide (TextsFit c i k t out), out') ∧
      (TextsFit c i k t out → out' = out.copyTexts c i k t) := by
  rcases parseFirst_text hT hc out.certificate with ⟨c', hc', hcout⟩
  have hcode : lengthCode c out.certificate = .CborNoError ↔ c.length ≤ out.certificate.length := by
    unfold lengthCode
    split_ifs with hlen
    · exact ⟨fun _ => hlen, fun _ => rfl⟩
    · exact ⟨nofun, fun h => absurd h hlen⟩
  -- each field is looked up if those before it fit
  rcases parseNext_text hT hi _ hcode out.certificateId with ⟨r2, i', hi', h2, hiout⟩
  rcases parseNext_text hT hk _ h2 out.privateKey with ⟨r3, k', hk', h3, hkout⟩
  rcases parseNext_text hT ht _ h3 out.ownershipToken with ⟨r4, t', ht', h4, htout⟩
  refine ⟨⟨c', i', k', t'⟩, ?_, fun hfits => ?_⟩
  · have hcode4 : (r4 == .CborNoError) = decide (TextsFit c i k t out) := by
      rw [beq_eq_decide]
      exact decide_eq_decide.mpr h4
    unfold parseKeyCertResponse
    rw [if_neg (by omega), hc']
    simp only [bind, Except.bind, hi', hk', ht', pure, Except.pure, hcode4]
  · rw [KeyCertBuffers.copyTexts, hcout hfits.1.1.1, hiout hfits.1.1, hkout hfits.1, htout hfits]

theorem parseRegisterThingResponse_text {T : TinyCbor} (hT : T.Copies)
    {pResponse name : List UInt8} (h : T.Finds pResponse thingName name) (out : OutBuffer) :
    ∃ out', parseRegisterThingResponse T pResponse out =
        .ok (decide (name.length ≤ out.length), out') ∧
      (name.length ≤ out.length → out' = out.copyString name) := by
  rcases parseFirst_text hT h out with ⟨out', hfirst, hout⟩
  refine ⟨out', ?_, hout⟩
  unfold parseRegisterThingResponse
  rw [hfirst]
  simp only [bind, Except.bind, pure, Except.pure, lengthCode]
  by_cases hlen : name.length ≤ out.length
  · rw [if_pos hlen, decide_eq_true hlen]
    rfl
  · rw [if_neg hlen, decide_eq_false hlen]
    rfl

/-- Whatever else a response has and however it was written: if it is a map with
    the text strings, the parsers succeed exactly if these fit the buffers, and
    then the buffers have them. -/
theorem parseResponses_document {limits : Limits} {T : TinyCbor} (hT : T.Documented limits)
    (response : Document) (h : response.Valid limits (limits.nesting + 1)) (rest : List UInt8) :
    (∀ c i k t, response.HasText certificatePem c → response.HasText certificateId i →
      response.HasText privateKey k → response.HasText certificateOwnershipToken t →
      ∀ out : KeyCertBuffers, 64 ≤ out.certificateId.length →
        ∃ out', parseKeyCertResponse T (response.encode ++ rest) out =
            .ok (decide (TextsFit c i k t out), out') ∧
          (TextsFit c i k t out → out' = out.copyTexts c i k t)) ∧
    (∀ name, response.HasText thingName name → ∀ out : OutBuffer,
      ∃ out', parseRegisterThingResponse T (response.encode ++ rest) out =
          .ok (decide (name.length ≤ out.length), out') ∧
        (name.length ≤ out.length → out' = out.copyString name)) := by
  have hfinds : ∀ {key s}, response.HasText key s → T.Finds (response.encode ++ rest) key s :=
    fun hs => (hT.finds_iff h rest _ _).mpr hs
  refine ⟨fun c i k t hc hi hk ht out hid => ?_, fun name hname out => ?_⟩
  · exact parseKeyCertResponse_texts hT.toCopies (hfinds hc) (hfinds hi) (hfinds hk) (hfinds ht)
      out hid
  · exact parseRegisterThingResponse_text hT.toCopies (hfinds hname) out

/-- A text string behind a head of nine bytes. -/
def longText (s : List UInt8) : Document := .string textStrings (.after (Fin.last 3)) s

/-- Entries in an order that is not that of the parsers. The first has a number
    for its key, one of the keys has a tag, and one of the texts comes in chunks. -/
def mixedEntries : Documents :=
  .cons (.number 0 .first 5)
    (.cons (.container arrays .first (.cons (.tagged .first 1 (longText [])) .nil))
      (.cons (.tagged .first 0 (longText thingName)) (.cons (longText [78])
        (.cons (longText certificateOwnershipToken) (.cons (longText [84])
          (.cons (longText privateKey)
            (.cons (.chunked textStrings [(.first, [75]), (.after (Fin.last 3), [75])])
              (.cons (longText certificateId) (.cons (longText [73])
                (.cons (longText certificatePem) (.cons (longText [67]) .nil)))))))))))

/-- The texts of `mixedEntries`, with another byte behind the map. -/
theorem parseResponses_document_mixed :
    (∃ out', parseKeyCertResponse (tinyCbor tinyCborLimits)
          ((Document.indefinite maps mixedEntries).encode ++ [0]) buffers64 =
        .ok (decide (TextsFit [67] [73] [75, 75] [84] buffers64), out') ∧
      (TextsFit [67] [73] [75, 75] [84] buffers64 →
        out' = buffers64.copyTexts [67] [73] [75, 75] [84])) ∧
    (∃ out', parseRegisterThingResponse (tinyCbor tinyCborLimits)
          ((Document.indefinite maps mixedEntries).encode ++ [0]) buffer64 =
        .ok (decide (1 ≤ 64), out') ∧
      (1 ≤ 64 → out' = buffer64.copyString [78])) := by
  have h := parseResponses_document (tinyCbor_documented tinyCborLimits)
    (.indefinite maps mixedEntries) (by decide) [0]
  exact ⟨h.1 [67] [73] [75, 75] [84] rfl rfl rfl rfl buffers64 (by decide), h.2 [78] rfl buffer64⟩

end Serializer

end ProvisioningSdk
