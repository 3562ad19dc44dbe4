import ProvisioningSdk.Lib.CborDocuments
import ProvisioningSdk.Lib.Memory
import ProvisioningSdk.Platform.Machine

/-!
# Parsing the Fleet Provisioning Responses

The response parsers of `fleet_provisioning_serializer.c`.

The parser of the bytes is tinycbor, a parameter here (`TinyCbor`) with the part
of its documentation the parsers rely on. What it says of copying holds for all
bytes (`Copies`). What it says of lookups is about well-formed items
(`Documented`), stated over the documents of `Lib.CborDocuments`. What it makes
of damaged bytes is left open, since it stops reading at different places in its
versions. `tinyCbor` is an instance.

Both parsers carry success in one error code. A lookup or a copy that fails
puts its error there. The other ways to miss a field, a response that is no
map, a field that is absent and one that is not a text string, are logged and
leave the code at `CborNoError`. So a parser takes a well-formed response for one
that has its fields unless one of them is a text that is too long. Only a
response that is no map does not get through the parser of four fields, which
looks the second one up in it all the same, and there tinycbor stops
(`parseResponses_correct_iff`).

## Main definitions

* `TinyCbor`, `TinyCbor.Copies`, `TinyCbor.Documented`: The library and what it
  promises.
* `TinyCbor.Finds`: A text string is found in some bytes.
* `parseField`: What both parsers do for one field.
* `parseKeyCertResponse`, `parseRegisterThingResponse`: The two parsers.
* `AllTexts`, `SomeTooLong`, `AllFit`, `AllHeld`: What a response has, and the
  buffers.
* `Unread`, `NotRead`: The library reports an error.

## Theorems

* `parseField_iff`: When one field leaves no error.
* `TinyCbor.Documented.finds_iff`: What is found in a well-formed response.
* `noErrors_iff_allFit_iff`: No errors mean the fields are there, or do not.
* `parseResponses_correct_iff`: When the parsers are right.
-/

namespace ProvisioningSdk

namespace Serializer

open Bytes Cbor

/-- `CborError`, as far as it is told apart here. -/
inductive CborError
  | CborNoError
  | CborErrorUnexpectedEOF
  | CborErrorOutOfMemory
  | other (code : Nat)
  deriving DecidableEq, Repr

/-- `CborType`, as far as it is told apart here. -/
inductive CborType
  | CborTextStringType
  | CborInvalidType
  | other (code : Nat)
  deriving DecidableEq, Repr

/-- An output buffer with its in/out length. -/
structure OutBuffer where
  buffer : Memory
  length : Nat

/-- The buffer after a string was copied to it. There is a NUL behind the
    string if there is room for one. -/
def OutBuffer.copyString (out : OutBuffer) (s : List UInt8) : OutBuffer where
  buffer :=
    if s.length < out.length then (out.buffer.copy 0 s).copy s.length [0] else out.buffer.copy 0 s
  length := s.length

/-- The buffer and its length are this string. -/
def OutBuffer.Holds (out : OutBuffer) (s : List UInt8) : Prop :=
  out.length = s.length ∧ out.buffer.slice 0 s.length = s

/-- The functions of tinycbor that the parsers call. A lookup may stop the
    program. -/
structure TinyCbor where
  Value : Type
  parserInit : List UInt8 → CborError × Value
  isMap : Value → Bool
  mapFindValue : Value → List UInt8 → Option (CborError × Value)
  type : Value → CborType
  copyTextString : Value → OutBuffer → CborError × OutBuffer
  /-- Not a function of the library: what a value of the type of text strings
      says, none if it is damaged. -/
  text : Value → Option (List UInt8)

/-- What tinycbor documents of copying a text string: an error if it is damaged or
    too long for the buffer. -/
structure TinyCbor.Copies (T : TinyCbor) : Prop where
  copied : ∀ value s out, T.type value = .CborTextStringType → T.text value = some s →
    s.length ≤ out.length → T.copyTextString value out = (.CborNoError, out.copyString s)
  tooLong : ∀ value s out, T.type value = .CborTextStringType → T.text value = some s →
    out.length < s.length → (T.copyTextString value out).1 = .CborErrorOutOfMemory
  damaged : ∀ value out, T.type value = .CborTextStringType → T.text value = none →
    (T.copyTextString value out).1 ≠ .CborNoError

/-- The value stands for the item. -/
def TinyCbor.Represents (T : TinyCbor) (value : T.Value) (item : Document) : Prop :=
  match item.text? with
  | some s => T.type value = .CborTextStringType ∧ T.text value = some s
  | none => T.type value ≠ .CborTextStringType ∧ T.type value ≠ .CborInvalidType

/-- What it documents beyond that, for a parser with these limits. Nothing is said
    of bytes that are no well-formed item. -/
structure TinyCbor.Documented (T : TinyCbor) (limits : Limits) : Prop extends T.Copies where
  /-- A lookup in a value that is no map stops at an assertion, and no other does. -/
  stops : ∀ value key, T.mapFindValue value key = none ↔ T.isMap value = false
  parsed : ∀ response : Document, response.Valid limits (limits.nesting + 1) → ∀ rest,
    (T.parserInit (response.encode ++ rest)).1 = .CborNoError ∧
      T.isMap (T.parserInit (response.encode ++ rest)).2 = response.entries?.isSome
  /-- The first value whose key is this text, tagged or not. -/
  found : ∀ (response : Document) (entries : Documents),
    response.Valid limits (limits.nesting + 1) → response.entries? = some entries →
    ∀ rest key item more, entries.lookup key = some (item, more) →
      ∃ value, T.mapFindValue (T.parserInit (response.encode ++ rest)).2 key =
        some (.CborNoError, value) ∧ T.Represents value item
  /-- A missing key is no error. -/
  absent : ∀ (response : Document) (entries : Documents),
    response.Valid limits (limits.nesting + 1) → response.entries? = some entries →
    ∀ rest key, entries.lookup key = none →
      ∃ value, T.mapFindValue (T.parserInit (response.encode ++ rest)).2 key =
        some (.CborNoError, value) ∧ T.type value = .CborInvalidType

/-- The bytes are parsed as a map, and this text string is found in it under the
    key. -/
def TinyCbor.Finds (T : TinyCbor) (pResponse key s : List UInt8) : Prop :=
  (T.parserInit pResponse).1 = .CborNoError ∧ T.isMap (T.parserInit pResponse).2 = true ∧
    ∃ value, T.mapFindValue (T.parserInit pResponse).2 key = some (.CborNoError, value) ∧
      T.type value = .CborTextStringType ∧ T.text value = some s

/-! ### The parsers -/

section Parsers

variable (T : TinyCbor)

/-- What the parsers do for one field of a map: `cborRet`, and the buffer. -/
def parseField (map : T.Value) (key : List UInt8) (out : OutBuffer) :
    Except Fault (CborError × OutBuffer) :=
  match T.mapFindValue map key with
  | none => .error .assertionFailed
  | some (cborRet, value) =>
      if cborRet ≠ .CborNoError then .ok (cborRet, out)
      else if T.type value = .CborInvalidType then .ok (cborRet, out)
      else if T.type value ≠ .CborTextStringType then .ok (cborRet, out)
      else .ok (T.copyTextString value out)

/-- The first field: only looked up if the parser was set up and found a
    map. -/
def parseFirst (pResponse : List UInt8) (key : List UInt8) (out : OutBuffer) :
    Except Fault (CborError × OutBuffer) :=
  if (T.parserInit pResponse).1 ≠ .CborNoError then .ok ((T.parserInit pResponse).1, out)
  else if T.isMap (T.parserInit pResponse).2 = false then .ok (.CborNoError, out)
  else parseField T (T.parserInit pResponse).2 key out

/-- A further field: only looked up if there was no error before it. -/
def parseNext (cborRet : CborError) (map : T.Value) (key : List UInt8) (out : OutBuffer) :
    Except Fault (CborError × OutBuffer) :=
  if cborRet = .CborNoError then parseField T map key out else .ok (cborRet, out)

/-- `"certificatePem"`. -/
def certificatePem : List UInt8 :=
  [99, 101, 114, 116, 105, 102, 105, 99, 97, 116, 101, 80, 101, 109]

/-- `"certificateId"`. -/
def certificateId : List UInt8 :=
  [99, 101, 114, 116, 105, 102, 105, 99, 97, 116, 101, 73, 100]

/-- `"privateKey"`. -/
def privateKey : List UInt8 := [112, 114, 105, 118, 97, 116, 101, 75, 101, 121]

/-- `"certificateOwnershipToken"`. -/
def certificateOwnershipToken : List UInt8 :=
  [99, 101, 114, 116, 105, 102, 105, 99, 97, 116, 101, 79, 119, 110, 101, 114, 115, 104, 105, 112,
    84, 111, 107, 101, 110]

/-- `"thingName"`. -/
def thingName : List UInt8 := [116, 104, 105, 110, 103, 78, 97, 109, 101]

/-- The output buffers of `parseKeyCertResponse`. -/
structure KeyCertBuffers where
  certificate : OutBuffer
  certificateId : OutBuffer
  privateKey : OutBuffer
  ownershipToken : OutBuffer

/-- `parseKeyCertResponse`. -/
def parseKeyCertResponse (pResponse : List UInt8) (out : KeyCertBuffers) :
    Except Fault (Bool × KeyCertBuffers) :=
  if out.certificateId.length < 64 then .error .assertionFailed
  else do
    let map := (T.parserInit pResponse).2
    let (cborRet, certificate) ← parseFirst T pResponse certificatePem out.certificate
    let (cborRet, certificateId) ← parseNext T cborRet map certificateId out.certificateId
    let (cborRet, privateKey) ← parseNext T cborRet map privateKey out.privateKey
    let (cborRet, ownershipToken) ←
      parseNext T cborRet map certificateOwnershipToken out.ownershipToken
    return (cborRet == .CborNoError,
      { certificate := certificate
        certificateId := certificateId
        privateKey := privateKey
        ownershipToken := ownershipToken })

/-- `parseRegisterThingResponse`. -/
def parseRegisterThingResponse (pResponse : List UInt8) (out : OutBuffer) :
    Except Fault (Bool × OutBuffer) := do
  let (cborRet, name) ← parseFirst T pResponse thingName out
  return (cborRet == .CborNoError, name)

end Parsers

/-! ### One field -/

section Fields

variable {T : TinyCbor} {limits : Limits}

/-- A string that fits is held after it was copied. -/
theorem copyString_holds (out : OutBuffer) (s : List UInt8) : (out.copyString s).Holds s := by
  unfold OutBuffer.copyString OutBuffer.Holds
  refine ⟨rfl, ?_⟩
  by_cases hroom : s.length < out.length
  · -- the NUL lies behind the string
    simp only [if_pos hroom]
    rw [slice_copy_disjoint _ _ _ _ _ (Or.inl (by omega))]
    exact slice_copy_self _ _ _
  · simp only [if_neg hroom]
    exact slice_copy_self _ _ _

/-- A key has one text string. -/
theorem TinyCbor.Finds.unique {pResponse key s s' : List UInt8} (h : T.Finds pResponse key s)
    (h' : T.Finds pResponse key s') : s = s' := by
  rcases h with ⟨-, -, value, hfind, -, htext⟩
  rcases h' with ⟨-, -, value', hfind', -, htext'⟩
  -- both are the text of the one value that is found
  rw [hfind] at hfind'
  cases hfind'
  rw [htext] at htext'
  exact Option.some.inj htext'

/-- A text string is copied if it is whole and fits. -/
theorem TinyCbor.Copies.copy_iff (hT : T.Copies) {value : T.Value} {out out' : OutBuffer}
    (htype : T.type value = .CborTextStringType) :
    T.copyTextString value out = (.CborNoError, out') ↔
      ∃ s, T.text value = some s ∧ s.length ≤ out.length ∧ out' = out.copyString s := by
  constructor
  · intro hcopy
    cases htext : T.text value with
    | none => exact absurd (congrArg Prod.fst hcopy) (hT.damaged value out htype htext)
    | some s =>
        by_cases hlen : s.length ≤ out.length
        · rw [hT.copied value s out htype htext hlen, Prod.mk.injEq] at hcopy
          exact ⟨s, rfl, hlen, hcopy.2.symm⟩
        · have hlong := hT.tooLong value s out htype htext (by omega)
          rw [hcopy] at hlong
          cases hlong
  · rintro ⟨s, htext, hlen, rfl⟩
    exact hT.copied value s out htype htext hlen

/-- A field leaves no error if it is found, and is copied if it is a text string. -/
theorem parseField_iff {map : T.Value} {key : List UInt8} {out out' : OutBuffer} :
    parseField T map key out = .ok (.CborNoError, out') ↔
      ∃ value, T.mapFindValue map key = some (.CborNoError, value) ∧
        ((T.type value ≠ .CborTextStringType ∧ out' = out) ∨
          (T.type value = .CborTextStringType ∧
            T.copyTextString value out = (.CborNoError, out'))) := by
  unfold parseField
  cases hfind : T.mapFindValue map key with
  | none => simp only [reduceCtorEq, false_and, exists_false]
  | some r =>
      rcases r with ⟨cborRet, value⟩
      simp only [Option.some.injEq, Prod.mk.injEq, and_assoc]
      by_cases herr : cborRet = .CborNoError
      · rw [if_neg (not_not.mpr herr)]
        simp only [herr, true_and, exists_eq_left']
        by_cases htext : T.type value = .CborTextStringType
        · -- a text string is copied
          have hinvalid : T.type value ≠ .CborInvalidType := by
            rw [htext]
            nofun
          rw [if_neg hinvalid, if_neg (not_not.mpr htext), Except.ok.injEq]
          simp only [htext, ne_eq, not_true_eq_false, false_and, false_or, true_and]
        · -- anything else is logged only
          rw [if_pos htext, ite_self, Except.ok.injEq, Prod.mk.injEq]
          simp only [htext, ne_eq, not_false_eq_true, true_and, false_and, or_false]
          exact eq_comm
      · rw [if_pos herr, Except.ok.injEq, Prod.mk.injEq]
        simp only [herr, false_and, exists_false]

theorem parseFirst_iff (pResponse key : List UInt8) (out out' : OutBuffer) :
    parseFirst T pResponse key out = .ok (.CborNoError, out') ↔
      (T.parserInit pResponse).1 = .CborNoError ∧
        ((T.isMap (T.parserInit pResponse).2 = false ∧ out' = out) ∨
          (T.isMap (T.parserInit pResponse).2 = true ∧
            parseField T (T.parserInit pResponse).2 key out = .ok (.CborNoError, out'))) := by
  unfold parseFirst
  by_cases hinit : (T.parserInit pResponse).1 = .CborNoError
  · rw [if_neg (fun hc => hc hinit)]
    cases hmap : T.isMap (T.parserInit pResponse).2 with
    | false =>
        -- a response that is no map is logged only
        simp only [if_true, hinit, true_and, Bool.false_eq_true, false_and, or_false,
          Except.ok.injEq, Prod.mk.injEq]
        exact eq_comm
    | true =>
        simp only [Bool.true_eq_false, if_false, hinit, true_and, false_and, false_or]
  · rw [if_pos hinit]
    simp only [hinit, false_and, Except.ok.injEq, Prod.mk.injEq]

/-- A text string that was found and left no error was copied. -/
theorem copied_of_parseField (hT : T.Copies) {pResponse key s : List UInt8} {out out' : OutBuffer}
    (hs : T.Finds pResponse key s)
    (hok : parseField T (T.parserInit pResponse).2 key out = .ok (.CborNoError, out')) :
    s.length ≤ out.length ∧ out' = out.copyString s := by
  rcases hs with ⟨-, -, value, hfind, htype, htext⟩
  rcases parseField_iff.mp hok with ⟨value', hfind', ⟨hother, -⟩ | ⟨-, hcopy⟩⟩
  · rw [hfind] at hfind'
    cases hfind'
    exact absurd htype hother
  · rw [hfind] at hfind'
    cases hfind'
    -- it is the text of the value that was copied
    rcases (hT.copy_iff htype).mp hcopy with ⟨s', htext', hlen, hout⟩
    rw [htext] at htext'
    cases htext'
    exact ⟨hlen, hout⟩

/-- So it is in the buffer. -/
theorem holds_of_parseField (hT : T.Copies) {pResponse key s : List UInt8} {out out' : OutBuffer}
    (hs : T.Finds pResponse key s)
    (hok : parseField T (T.parserInit pResponse).2 key out = .ok (.CborNoError, out')) :
    out'.Holds s := by
  rw [(copied_of_parseField hT hs hok).2]
  exact copyString_holds out s

/-- A text string that fits is copied. -/
theorem parseField_of_finds (hT : T.Copies) {pResponse key s : List UInt8} {out : OutBuffer}
    (hs : T.Finds pResponse key s) (hlen : s.length ≤ out.length) :
    parseField T (T.parserInit pResponse).2 key out = .ok (.CborNoError, out.copyString s) := by
  rcases hs with ⟨-, -, value, hfind, htype, htext⟩
  exact parseField_iff.mpr ⟨value, hfind, Or.inr ⟨htype, hT.copied value s out htype htext hlen⟩⟩

/-- The library reports an error for the field: the lookup fails, or the text
    string is damaged. -/
def Unread (T : TinyCbor) (map : T.Value) (key : List UInt8) : Prop :=
  ∃ cborRet value, T.mapFindValue map key = some (cborRet, value) ∧
    (cborRet ≠ .CborNoError ∨ (T.type value = .CborTextStringType ∧ T.text value = none))

theorem not_parseField_of_unread (hT : T.Copies) {map : T.Value} {key : List UInt8}
    {out out' : OutBuffer} (h : Unread T map key) :
    parseField T map key out ≠ .ok (.CborNoError, out') := by
  intro hok
  rcases h with ⟨cborRet, value, hfind, h⟩
  rcases parseField_iff.mp hok with ⟨value', hfind', hvalue⟩
  rw [hfind] at hfind'
  cases hfind'
  rcases h with h | ⟨htype, hnone⟩
  · exact h rfl
  · rcases hvalue with ⟨hother, -⟩ | ⟨-, hcopy⟩
    · exact hother htype
    · rcases (hT.copy_iff htype).mp hcopy with ⟨s, htext, -, -⟩
      rw [hnone] at htext
      cases htext

/-- A field of a map leaves no error if it was read and is not too long,
    whatever it is. -/
theorem parseField_of_read (hT : T.Documented limits) {pResponse key : List UInt8}
    {out : OutBuffer} (hinit : (T.parserInit pResponse).1 = .CborNoError)
    (hmap : T.isMap (T.parserInit pResponse).2 = true)
    (hread : ¬ Unread T (T.parserInit pResponse).2 key)
    (hfits : ∀ s, T.Finds pResponse key s → s.length ≤ out.length) :
    ∃ out', parseField T (T.parserInit pResponse).2 key out = .ok (.CborNoError, out') := by
  cases hfind : T.mapFindValue (T.parserInit pResponse).2 key with
  | none =>
      rw [(hT.stops _ _).mp hfind] at hmap
      cases hmap
  | some r =>
      rcases r with ⟨cborRet, value⟩
      obtain rfl : cborRet = .CborNoError := by
        by_contra herr
        exact hread ⟨cborRet, value, hfind, Or.inl herr⟩
      by_cases htype : T.type value = .CborTextStringType
      · cases htext : T.text value with
        | none => exact absurd ⟨_, value, hfind, Or.inr ⟨htype, htext⟩⟩ hread
        | some s =>
            have hs : T.Finds pResponse key s := ⟨hinit, hmap, value, hfind, htype, htext⟩
            exact ⟨_, parseField_of_finds hT.toCopies hs (hfits s hs)⟩
      · exact ⟨out, parseField_iff.mpr ⟨value, hfind, Or.inl ⟨htype, rfl⟩⟩⟩

/-- In the bytes of a document, the text strings of the document are found. -/
theorem TinyCbor.Documented.finds_iff (hT : T.Documented limits) {response : Document}
    (h : response.Valid limits (limits.nesting + 1)) (rest key s : List UInt8) :
    T.Finds (response.encode ++ rest) key s ↔ response.HasText key s := by
  rcases hT.parsed response h rest with ⟨hinit, hisMap⟩
  unfold TinyCbor.Finds Document.HasText Documents.textOf
  cases he : response.entries? with
  | none =>
      rw [hisMap, he]
      simp only [Option.isSome_none, Bool.false_eq_true, false_and, and_false, Option.bind_none,
        reduceCtorEq]
  | some entries =>
      simp only [hinit, hisMap, he, Option.isSome_some, true_and, Option.bind_some]
      cases hl : entries.lookup key with
      | none =>
          rcases hT.absent response entries h he rest key hl with ⟨value, hfind, htype⟩
          simp only [hfind, Option.some.injEq, Prod.mk.injEq, true_and, exists_eq_left', htype,
            reduceCtorEq, false_and, Option.bind_none]
      | some r =>
          rcases r with ⟨item, more⟩
          rcases hT.found response entries h he rest key item more hl with ⟨value, hfind, hitem⟩
          simp only [hfind, Option.some.injEq, Prod.mk.injEq, true_and, exists_eq_left',
            Option.bind_some]
          unfold TinyCbor.Represents at hitem
          cases htext : item.text? with
          | none =>
              rw [htext] at hitem
              simp only [hitem.1, false_and, reduceCtorEq]
          | some s' =>
              rw [htext] at hitem
              simp only [hitem.1, hitem.2, true_and]

/-- They are all read. -/
theorem TinyCbor.Documented.not_unread (hT : T.Documented limits) {response : Document}
    {entries : Documents} (h : response.Valid limits (limits.nesting + 1))
    (he : response.entries? = some entries) (rest key : List UInt8) :
    ¬ Unread T (T.parserInit (response.encode ++ rest)).2 key := by
  rintro ⟨cborRet, value, hfind, hread⟩
  cases hl : entries.lookup key with
  | none =>
      rcases hT.absent response entries h he rest key hl with ⟨value', hfind', htype⟩
      rw [hfind] at hfind'
      cases hfind'
      rcases hread with hread | ⟨htype', -⟩
      · exact hread rfl
      · rw [htype] at htype'
        cases htype'
  | some r =>
      rcases hT.found response entries h he rest key r.1 r.2 hl with ⟨value', hfind', hitem⟩
      rw [hfind] at hfind'
      cases hfind'
      rcases hread with hread | ⟨htype, hnone⟩
      · exact hread rfl
      · unfold TinyCbor.Represents at hitem
        split at hitem
        · rw [hitem.2] at hnone
          cases hnone
        · exact hitem.1 htype

end Fields

/-! ### Several fields -/

section Texts

variable (has : List UInt8 → List UInt8 → Prop)

/-- Every field is a text string. -/
def AllTexts (fields : List (List UInt8 × OutBuffer)) : Prop := ∀ f ∈ fields, ∃ s, has f.1 s

/-- Some field is a text string that is too long for its buffer. -/
def SomeTooLong (fields : List (List UInt8 × OutBuffer)) : Prop :=
  ∃ f ∈ fields, ∃ s, has f.1 s ∧ f.2.length < s.length

/-- Every field is a text string that fits its buffer. -/
def AllFit (fields : List (List UInt8 × OutBuffer)) : Prop :=
  ∀ f ∈ fields, ∃ s, has f.1 s ∧ s.length ≤ f.2.length

/-- Every buffer has the text string of its field. -/
def AllHeld (fields : List (List UInt8 × OutBuffer)) : Prop :=
  ∀ f ∈ fields, ∃ s, has f.1 s ∧ f.2.Holds s

variable {has}

theorem AllFit.allTexts {fields : List (List UInt8 × OutBuffer)} (h : AllFit has fields) :
    AllTexts has fields := by
  intro f hf
  rcases h f hf with ⟨s, hs, -⟩
  exact ⟨s, hs⟩

theorem AllTexts.fit_or_tooLong {fields : List (List UInt8 × OutBuffer)}
    (h : AllTexts has fields) : AllFit has fields ∨ SomeTooLong has fields := by
  by_cases hlong : SomeTooLong has fields
  · exact Or.inr hlong
  · refine Or.inl (fun f hf => ?_)
    rcases h f hf with ⟨s, hs⟩
    have hlen : ¬ f.2.length < s.length := fun hlt => hlong ⟨f, hf, s, hs, hlt⟩
    exact ⟨s, hs, by omega⟩

end Texts

section Lookups

variable {T : TinyCbor} {limits : Limits} {pResponse : List UInt8}
  {fields : List (List UInt8 × OutBuffer)}

/-- The library reports an error on the way through these fields, or stops at the
    lookup in a response that is no map. -/
def NotRead (T : TinyCbor) (pResponse : List UInt8) (fields : List (List UInt8 × OutBuffer)) :
    Prop :=
  (T.parserInit pResponse).1 ≠ .CborNoError ∨ T.isMap (T.parserInit pResponse).2 = false ∨
    ∃ f ∈ fields, Unread T (T.parserInit pResponse).2 f.1

/-- The fields leave no error, found or not. -/
def NoErrors (T : TinyCbor) (pResponse : List UInt8) (fields : List (List UInt8 × OutBuffer)) :
    Prop :=
  (T.parserInit pResponse).1 = .CborNoError ∧ T.isMap (T.parserInit pResponse).2 = true ∧
    ∀ f ∈ fields, ∃ out', parseField T (T.parserInit pResponse).2 f.1 f.2 = .ok (.CborNoError, out')

/-- They leave none exactly if they are read and none is too long. -/
theorem noErrors_iff (hT : T.Documented limits) :
    NoErrors T pResponse fields ↔
      ¬ NotRead T pResponse fields ∧ ¬ SomeTooLong (T.Finds pResponse) fields := by
  constructor
  · rintro ⟨hinit, hmap, hfields⟩
    constructor
    · rintro (h | h | ⟨f, hf, h⟩)
      · exact h hinit
      · rw [hmap] at h
        cases h
      · rcases hfields f hf with ⟨out', hok⟩
        exact not_parseField_of_unread hT.toCopies h hok
    · rintro ⟨f, hf, s, hs, hlong⟩
      rcases hfields f hf with ⟨out', hok⟩
      have hlen := (copied_of_parseField hT.toCopies hs hok).1
      omega
  · rintro ⟨hread, hlong⟩
    unfold NotRead at hread
    simp only [not_or, not_exists, not_and, not_not, Bool.not_eq_false] at hread
    rcases hread with ⟨hinit, hmap, hread⟩
    refine ⟨hinit, hmap, fun f hf => parseField_of_read hT hinit hmap (hread f hf) (fun s hs => ?_)⟩
    have hlen : ¬ f.2.length < s.length := fun hlt => hlong ⟨f, hf, s, hs, hlt⟩
    omega

theorem noErrors_of_allFit (hT : T.Copies) (hne : fields ≠ [])
    (h : AllFit (T.Finds pResponse) fields) : NoErrors T pResponse fields := by
  rcases List.exists_mem_of_ne_nil fields hne with ⟨f, hf⟩
  rcases h f hf with ⟨s, ⟨hinit, hmap, -⟩, -⟩
  refine ⟨hinit, hmap, fun f hf => ?_⟩
  rcases h f hf with ⟨s, hs, hlen⟩
  exact ⟨_, parseField_of_finds hT hs hlen⟩

/-- No errors mean that the fields are there exactly if an error is reported, or a
    text is too long, or they are all texts. -/
theorem noErrors_iff_allFit_iff (hT : T.Documented limits) (hne : fields ≠ []) :
    (NoErrors T pResponse fields ↔ AllFit (T.Finds pResponse) fields) ↔
      NotRead T pResponse fields ∨ SomeTooLong (T.Finds pResponse) fields ∨
        AllTexts (T.Finds pResponse) fields := by
  constructor
  · intro hiff
    by_cases hread : NotRead T pResponse fields
    · exact Or.inl hread
    · by_cases hlong : SomeTooLong (T.Finds pResponse) fields
      · exact Or.inr (Or.inl hlong)
      -- nothing else keeps the fields from being taken for found
      · exact Or.inr (Or.inr (hiff.mp ((noErrors_iff hT).mpr ⟨hread, hlong⟩)).allTexts)
  · intro h
    refine ⟨fun hok => ?_, noErrors_of_allFit hT.toCopies hne⟩
    rcases (noErrors_iff hT).mp hok with ⟨hread, hlong⟩
    rcases h with h | h | h
    · exact absurd h hread
    · exact absurd h hlong
    · exact h.fit_or_tooLong.resolve_right hlong

end Lookups

/-! ### Both parsers -/

section Responses

/-- The fields of the response to the create keys request, with their buffers. -/
def keyCertFields (out : KeyCertBuffers) : List (List UInt8 × OutBuffer) :=
  [(certificatePem, out.certificate), (certificateId, out.certificateId),
    (privateKey, out.privateKey), (certificateOwnershipToken, out.ownershipToken)]

/-- The field of the response to the register thing request, with its buffer. -/
def nameField (out : OutBuffer) : List (List UInt8 × OutBuffer) := [(thingName, out)]

variable (has : List UInt8 → List UInt8 → Prop) (T : TinyCbor)

/-- `parseKeyCertResponse` returns true for the responses that have the fields,
    and then has them in its buffers. -/
def KeyCertCorrect (pResponse : List UInt8) (out : KeyCertBuffers) : Prop :=
  ((∃ out', parseKeyCertResponse T pResponse out = .ok (true, out')) ↔
      AllFit has (keyCertFields out)) ∧
    ∀ out', parseKeyCertResponse T pResponse out = .ok (true, out') →
      AllHeld has (keyCertFields out')

/-- `parseRegisterThingResponse` returns true for the responses that have the
    field, and then has it in its buffer. -/
def RegisterThingCorrect (pResponse : List UInt8) (out : OutBuffer) : Prop :=
  ((∃ out', parseRegisterThingResponse T pResponse out = .ok (true, out')) ↔
      AllFit has (nameField out)) ∧
    ∀ out', parseRegisterThingResponse T pResponse out = .ok (true, out') →
      AllHeld has (nameField out')

variable {has T} {limits : Limits} {pResponse : List UInt8}

theorem parseNext_iff (cborRet : CborError) (map : T.Value) (key : List UInt8)
    (out out' : OutBuffer) :
    parseNext T cborRet map key out = .ok (.CborNoError, out') ↔
      cborRet = .CborNoError ∧ parseField T map key out = .ok (.CborNoError, out') := by
  unfold parseNext
  by_cases hret : cborRet = .CborNoError
  · rw [if_pos hret]
    simp only [hret, true_and]
  · rw [if_neg hret]
    simp only [hret, false_and, Except.ok.injEq, Prod.mk.injEq]

/-- Success means that no field left an error. -/
theorem parseKeyCertResponse_true_iff (pResponse : List UInt8) (out out' : KeyCertBuffers)
    (hid : 64 ≤ out.certificateId.length) :
    parseKeyCertResponse T pResponse out = .ok (true, out') ↔
      parseFirst T pResponse certificatePem out.certificate = .ok (.CborNoError, out'.certificate) ∧
        parseField T (T.parserInit pResponse).2 certificateId out.certificateId =
          .ok (.CborNoError, out'.certificateId) ∧
        parseField T (T.parserInit pResponse).2 privateKey out.privateKey =
          .ok (.CborNoError, out'.privateKey) ∧
        parseField T (T.parserInit pResponse).2 certificateOwnershipToken out.ownershipToken =
          .ok (.CborNoError, out'.ownershipToken) := by
  unfold parseKeyCertResponse
  rw [if_neg (by omega)]
  simp only [bind_eq_ok, Prod.exists]
  constructor
  · rintro ⟨r1, c, h1, r2, i, h2, r3, k, h3, r4, t, h4, hok⟩
    -- the last code is `CborNoError`, and it is passed on unchanged from the first
    simp only [pure, Except.pure, Except.ok.injEq, Prod.mk.injEq, beq_iff_eq] at hok
    rcases hok with ⟨rfl, rfl⟩
    rcases (parseNext_iff r3 _ _ _ _).mp h4 with ⟨rfl, h4'⟩
    rcases (parseNext_iff r2 _ _ _ _).mp h3 with ⟨rfl, h3'⟩
    rcases (parseNext_iff r1 _ _ _ _).mp h2 with ⟨rfl, h2'⟩
    exact ⟨h1, h2', h3', h4'⟩
  · rintro ⟨h1, h2, h3, h4⟩
    exact ⟨_, _, h1, _, _, (parseNext_iff _ _ _ _ _).mpr ⟨rfl, h2⟩, _, _,
      (parseNext_iff _ _ _ _ _).mpr ⟨rfl, h3⟩, _, _, (parseNext_iff _ _ _ _ _).mpr ⟨rfl, h4⟩, rfl⟩

theorem parseRegisterThingResponse_true_iff (pResponse : List UInt8) (out out' : OutBuffer) :
    parseRegisterThingResponse T pResponse out = .ok (true, out') ↔
      parseFirst T pResponse thingName out = .ok (.CborNoError, out') := by
  unfold parseRegisterThingResponse
  simp only [bind_eq_ok, Prod.exists, pure, Except.pure, Except.ok.injEq, Prod.mk.injEq, beq_iff_eq]
  constructor
  · rintro ⟨r, o, h, rfl, rfl⟩
    exact h
  · intro h
    exact ⟨_, _, h, rfl, rfl⟩

/-- It is true if there were no errors. In a response that is no map, the second
    lookup stops. -/
theorem parseKeyCertResponse_fields_iff (hT : T.Documented limits) (out out' : KeyCertBuffers)
    (hid : 64 ≤ out.certificateId.length) :
    parseKeyCertResponse T pResponse out = .ok (true, out') ↔
      ((T.parserInit pResponse).1 = .CborNoError ∧ T.isMap (T.parserInit pResponse).2 = true) ∧
        parseField T (T.parserInit pResponse).2 certificatePem out.certificate =
          .ok (.CborNoError, out'.certificate) ∧
        parseField T (T.parserInit pResponse).2 certificateId out.certificateId =
          .ok (.CborNoError, out'.certificateId) ∧
        parseField T (T.parserInit pResponse).2 privateKey out.privateKey =
          .ok (.CborNoError, out'.privateKey) ∧
        parseField T (T.parserInit pResponse).2 certificateOwnershipToken out.ownershipToken =
          .ok (.CborNoError, out'.ownershipToken) := by
  rw [parseKeyCertResponse_true_iff _ _ _ hid, parseFirst_iff]
  constructor
  · rintro ⟨⟨hinit, ⟨hnot, -⟩ | ⟨hmap, h1⟩⟩, h2, h3, h4⟩
    · rcases parseField_iff.mp h2 with ⟨value, hfind, -⟩
      rw [(hT.stops _ _).mpr hnot] at hfind
      cases hfind
    · exact ⟨⟨hinit, hmap⟩, h1, h2, h3, h4⟩
  · rintro ⟨⟨hinit, hmap⟩, h1, h2, h3, h4⟩
    exact ⟨⟨hinit, Or.inr ⟨hmap, h1⟩⟩, h2, h3, h4⟩

theorem parseKeyCertResponse_noErrors_iff (hT : T.Documented limits) (out : KeyCertBuffers)
    (hid : 64 ≤ out.certificateId.length) :
    (∃ out', parseKeyCertResponse T pResponse out = .ok (true, out')) ↔
      NoErrors T pResponse (keyCertFields out) := by
  unfold NoErrors keyCertFields
  simp only [parseKeyCertResponse_fields_iff hT _ _ hid, List.forall_mem_cons, List.not_mem_nil,
    false_implies, implies_true, and_true]
  constructor
  · rintro ⟨out', ⟨hinit, hmap⟩, h1, h2, h3, h4⟩
    exact ⟨hinit, hmap, ⟨_, h1⟩, ⟨_, h2⟩, ⟨_, h3⟩, ⟨_, h4⟩⟩
  · rintro ⟨hinit, hmap, ⟨o1, h1⟩, ⟨o2, h2⟩, ⟨o3, h3⟩, ⟨o4, h4⟩⟩
    exact ⟨⟨o1, o2, o3, o4⟩, ⟨hinit, hmap⟩, h1, h2, h3, h4⟩

/-- What was found is in the buffers. -/
theorem parseKeyCertResponse_held (hT : T.Documented limits) {out out' : KeyCertBuffers}
    (hid : 64 ≤ out.certificateId.length)
    (hok : parseKeyCertResponse T pResponse out = .ok (true, out'))
    (h : AllFit (T.Finds pResponse) (keyCertFields out)) :
    AllHeld (T.Finds pResponse) (keyCertFields out') := by
  rcases (parseKeyCertResponse_fields_iff hT _ _ hid).mp hok with ⟨-, h1, h2, h3, h4⟩
  unfold AllHeld keyCertFields
  unfold AllFit keyCertFields at h
  simp only [List.forall_mem_cons, List.not_mem_nil, false_implies, implies_true,
    and_true] at h ⊢
  rcases h with ⟨⟨c, hc, -⟩, ⟨i, hi, -⟩, ⟨k, hk, -⟩, ⟨t, ht, -⟩⟩
  exact ⟨⟨c, hc, holds_of_parseField hT.toCopies hc h1⟩,
    ⟨i, hi, holds_of_parseField hT.toCopies hi h2⟩, ⟨k, hk, holds_of_parseField hT.toCopies hk h3⟩,
    ⟨t, ht, holds_of_parseField hT.toCopies ht h4⟩⟩

/-- The parser is right exactly if an error is reported, or a text is too long, or
    all fields are texts. -/
theorem keyCertCorrect_iff (hT : T.Documented limits) (out : KeyCertBuffers)
    (hid : 64 ≤ out.certificateId.length) :
    KeyCertCorrect (T.Finds pResponse) T pResponse out ↔
      NotRead T pResponse (keyCertFields out) ∨
        SomeTooLong (T.Finds pResponse) (keyCertFields out) ∨
          AllTexts (T.Finds pResponse) (keyCertFields out) := by
  have hne : (keyCertFields out) ≠ [] := List.cons_ne_nil _ _
  rw [← noErrors_iff_allFit_iff hT hne, ← parseKeyCertResponse_noErrors_iff hT out hid]
  exact ⟨fun h => h.1, fun h => ⟨h, fun out' hok => parseKeyCertResponse_held hT hid hok
    (h.mp ⟨out', hok⟩)⟩⟩

theorem registerThingCorrect_iff (hT : T.Documented limits) (out : OutBuffer) :
    RegisterThingCorrect (T.Finds pResponse) T pResponse out ↔
      (T.parserInit pResponse).1 ≠ .CborNoError ∨
        (T.isMap (T.parserInit pResponse).2 = true ∧
          Unread T (T.parserInit pResponse).2 thingName) ∨
        ∃ s, T.Finds pResponse thingName s := by
  unfold RegisterThingCorrect AllFit AllHeld nameField
  simp only [List.forall_mem_singleton, parseRegisterThingResponse_true_iff, parseFirst_iff]
  constructor
  · rintro ⟨hiff, -⟩
    by_cases hinit : (T.parserInit pResponse).1 = .CborNoError
    case neg => exact Or.inl hinit
    refine Or.inr ?_
    cases hmap : T.isMap (T.parserInit pResponse).2 with
    | false =>
        -- a response that is no map is accepted
        rcases hiff.mp ⟨out, hinit, Or.inl ⟨hmap, rfl⟩⟩ with ⟨s, hs, -⟩
        exact Or.inr ⟨s, hs⟩
    | true =>
        by_cases hread : Unread T (T.parserInit pResponse).2 thingName
        · exact Or.inl ⟨rfl, hread⟩
        · by_contra hnone
          have hfits : ∀ s, T.Finds pResponse thingName s → s.length ≤ out.length :=
            fun s hs => absurd (Or.inr ⟨s, hs⟩) hnone
          rcases parseField_of_read hT hinit hmap hread hfits with ⟨out', hok⟩
          rcases hiff.mp ⟨out', hinit, Or.inr ⟨hmap, hok⟩⟩ with ⟨s, hs, -⟩
          exact hnone (Or.inr ⟨s, hs⟩)
  · intro h
    -- a true result leaves the text in the buffer in each of the cases
    have hheld : ∀ out', ((T.parserInit pResponse).1 = .CborNoError ∧
        ((T.isMap (T.parserInit pResponse).2 = false ∧ out' = out) ∨
          (T.isMap (T.parserInit pResponse).2 = true ∧
            parseField T (T.parserInit pResponse).2 thingName out = .ok (.CborNoError, out')))) →
        ∃ s, T.Finds pResponse thingName s ∧ s.length ≤ out.length ∧ out'.Holds s := by
      rintro out' ⟨hinit, hfield⟩
      rcases h with h | ⟨hmap, hread⟩ | ⟨s, hs⟩
      · exact absurd hinit h
      · rcases hfield with ⟨hnot, -⟩ | ⟨-, hok⟩
        · rw [hmap] at hnot
          cases hnot
        · exact absurd hok (not_parseField_of_unread hT.toCopies hread)
      · rcases hfield with ⟨hnot, -⟩ | ⟨-, hok⟩
        · rw [hs.2.1] at hnot
          cases hnot
        · exact ⟨s, hs, (copied_of_parseField hT.toCopies hs hok).1,
            holds_of_parseField hT.toCopies hs hok⟩
    refine ⟨⟨?_, ?_⟩, ?_⟩
    · rintro ⟨out', hok⟩
      rcases hheld out' hok with ⟨s, hs, hlen, -⟩
      exact ⟨s, hs, hlen⟩
    · rintro ⟨s, hs, hlen⟩
      exact ⟨_, hs.1, Or.inr ⟨hs.2.1, parseField_of_finds hT.toCopies hs hlen⟩⟩
    · intro out' hok
      rcases hheld out' hok with ⟨s, hs, -, hholds⟩
      exact ⟨s, hs, hholds⟩

/-- In a well-formed response only one that is no map is not read. -/
theorem notRead_iff (hT : T.Documented limits) {response : Document}
    (h : response.Valid limits (limits.nesting + 1)) (rest : List UInt8)
    (fields : List (List UInt8 × OutBuffer)) :
    NotRead T (response.encode ++ rest) fields ↔ response.entries? = none := by
  rcases hT.parsed response h rest with ⟨hinit, hisMap⟩
  unfold NotRead
  rw [hisMap, Option.isSome_eq_false_iff, Option.isNone_iff_eq_none]
  constructor
  · rintro (hc | hnone | ⟨f, -, hunread⟩)
    · exact absurd hinit hc
    · exact hnone
    · cases he : response.entries? with
      | none => rfl
      | some entries => exact absurd hunread (hT.not_unread h he rest f.1)
  · exact fun hnone => Or.inr (Or.inl hnone)

/-- When the parsers are right. About a response that begins with a well-formed
    item this is said of the item: all fields have to be text strings, unless one
    of them is a text that is too long or, where there are four of them, the
    response is no map. About other bytes it is said of what the library makes of
    them. -/
theorem parseResponses_correct_iff (T : TinyCbor) (limits : Limits) (hT : T.Documented limits) :
    (∀ response : Document, response.Valid limits (limits.nesting + 1) → ∀ rest,
      (∀ out : KeyCertBuffers, 64 ≤ out.certificateId.length →
        (KeyCertCorrect response.HasText T (response.encode ++ rest) out ↔
          response.entries? = none ∨ SomeTooLong response.HasText (keyCertFields out) ∨
            AllTexts response.HasText (keyCertFields out))) ∧
      ∀ out : OutBuffer,
        RegisterThingCorrect response.HasText T (response.encode ++ rest) out ↔
          ∃ s, response.HasText thingName s) ∧
    ∀ pResponse : List UInt8,
      (∀ out : KeyCertBuffers, 64 ≤ out.certificateId.length →
        (KeyCertCorrect (T.Finds pResponse) T pResponse out ↔
          NotRead T pResponse (keyCertFields out) ∨
            SomeTooLong (T.Finds pResponse) (keyCertFields out) ∨
              AllTexts (T.Finds pResponse) (keyCertFields out))) ∧
      ∀ out : OutBuffer,
        RegisterThingCorrect (T.Finds pResponse) T pResponse out ↔
          (T.parserInit pResponse).1 ≠ .CborNoError ∨
            (T.isMap (T.parserInit pResponse).2 = true ∧
              Unread T (T.parserInit pResponse).2 thingName) ∨
            ∃ s, T.Finds pResponse thingName s := by
  refine ⟨fun response h rest => ?_, fun pResponse =>
    ⟨fun out hid => keyCertCorrect_iff hT out hid, fun out => registerThingCorrect_iff hT out⟩⟩
  -- in its bytes, the text strings of the item are found
  have hfinds : T.Finds (response.encode ++ rest) = response.HasText :=
    funext₂ (fun key s => propext (hT.finds_iff h rest key s))
  rw [← hfinds]
  refine ⟨fun out hid => ?_, fun out => ?_⟩
  · rw [keyCertCorrect_iff hT out hid, notRead_iff hT h rest]
  · rw [registerThingCorrect_iff hT out]
    rcases hT.parsed response h rest with ⟨hinit, hisMap⟩
    constructor
    · rintro (hc | ⟨hmap, hunread⟩ | hs)
      · exact absurd hinit hc
      · rw [hisMap] at hmap
        rcases Option.isSome_iff_exists.mp hmap with ⟨entries, he⟩
        exact absurd hunread (hT.not_unread h he rest thingName)
      · exact hs
    · exact fun hs => Or.inr (Or.inr hs)

/-! ### A library as documented -/

/-- A parser that works on the bytes an item starts with, none for an invalid
    one. -/
def tinyCbor (limits : Limits) : TinyCbor where
  Value := List UInt8
  parserInit := fun bytes =>
    (if (head bytes).isSome then .CborNoError else .CborErrorUnexpectedEOF, bytes)
  isMap := isMap
  mapFindValue := fun value key =>
    if isMap value then
      match mapFind limits value key with
      | .malformed => some (.CborErrorUnexpectedEOF, [])
      | .absent => some (.CborNoError, [])
      | .at found => some (.CborNoError, found)
    else none
  type := fun value => match head value with
    | some (h, _) => if h.major = textStrings then .CborTextStringType else .other h.major
    | none => .CborInvalidType
  copyTextString := fun value out => match text value with
    | some s =>
        if s.length ≤ out.length then (.CborNoError, out.copyString s)
        else (.CborErrorOutOfMemory, { out with length := s.length })
    | none => (.CborErrorUnexpectedEOF, out)
  text := text

theorem tinyCbor_copies (limits : Limits) : (tinyCbor limits).Copies where
  copied := by
    intro value s out _ htext hlen
    simp only [tinyCbor] at htext ⊢
    rw [htext]
    exact if_pos hlen
  tooLong := by
    intro value s out _ htext hlong
    simp only [tinyCbor] at htext ⊢
    rw [htext]
    simp only
    rw [if_neg (by omega)]
  damaged := by
    intro value out _ htext
    simp only [tinyCbor] at htext ⊢
    rw [htext]
    nofun

/-- The bytes of an item stand for it. -/
theorem tinyCbor_represents {item : Document} {depth : Nat} (h : item.Valid limits depth)
    (rest : List UInt8) : (tinyCbor limits).Represents (item.encode ++ rest) item := by
  rcases head_encode h rest with ⟨argument, tail, hhead⟩
  have htype : (tinyCbor limits).type (item.encode ++ rest) =
      if item.major = textStrings then .CborTextStringType else .other item.major := by
    simp only [tinyCbor, hhead]
  unfold TinyCbor.Represents
  cases htext : item.text? with
  | none =>
      have hmajor : item.major ≠ textStrings := by
        intro hmajor
        have hsome := (Document.isSome_text?_iff h).mpr hmajor
        rw [htext] at hsome
        cases hsome
      rw [htype, if_neg hmajor]
      exact ⟨nofun, nofun⟩
  | some s =>
      have hmajor : item.major = textStrings := by
        rw [← Document.isSome_text?_iff h, htext]
        rfl
      rw [htype, if_pos hmajor]
      exact ⟨rfl, (text_encode h rest).trans htext⟩

theorem tinyCbor_documented (limits : Limits) : (tinyCbor limits).Documented limits where
  toCopies := tinyCbor_copies limits
  stops := by
    intro value key
    simp only [tinyCbor]
    cases isMap value with
    | false => simp only [Bool.false_eq_true, if_false]
    | true =>
        simp only [if_true, Bool.true_eq_false, iff_false]
        split <;> nofun
  parsed := by
    intro response h rest
    rcases head_encode h rest with ⟨argument, tail, hhead⟩
    refine ⟨?_, isMap_encode h rest⟩
    simp only [tinyCbor, hhead, Option.isSome_some, if_true]
  found := by
    intro response entries h he rest key item more hl
    rcases mapFind_encode h he key rest with ⟨tail, hfind⟩
    have hitem := (Documents.valid_lookup (Document.valid_entries h he).1 hl).1
    refine ⟨item.encode ++ (more.encode ++ tail), ?_, tinyCbor_represents hitem _⟩
    rw [foundIn, hl] at hfind
    simp only [tinyCbor, isMap_encode h rest, he, Option.isSome_some, if_true, hfind]
  absent := by
    intro response entries h he rest key hl
    rcases mapFind_encode h he key rest with ⟨tail, hfind⟩
    refine ⟨[], ?_, rfl⟩
    rw [foundIn, hl] at hfind
    simp only [tinyCbor, isMap_encode h rest, he, Option.isSome_some, if_true, hfind]

/-- The limits tinycbor is built with. -/
def tinyCborLimits : Limits where
  nesting := 1024
  elements := 2 ^ 31 - 1

/-- A buffer of 64 bytes. -/
def buffer64 : OutBuffer where
  buffer := fun _ => 0
  length := 64

/-- Four of them. -/
def buffers64 : KeyCertBuffers where
  certificate := buffer64
  certificateId := buffer64
  privateKey := buffer64
  ownershipToken := buffer64

/-- A map with the name of a thing, its key tagged. -/
def taggedName : Document :=
  .container maps .first (.cons (.tagged .first 0 (.string textStrings .first thingName))
    (.cons (.string textStrings .first [78]) .nil))

theorem parseResponses_correct_iff_named :
    ((KeyCertCorrect taggedName.HasText (tinyCbor tinyCborLimits) (taggedName.encode ++ [0])
          buffers64 ↔
        taggedName.entries? = none ∨ SomeTooLong taggedName.HasText (keyCertFields buffers64) ∨
          AllTexts taggedName.HasText (keyCertFields buffers64)) ∧
      (RegisterThingCorrect taggedName.HasText (tinyCbor tinyCborLimits)
          (taggedName.encode ++ [0]) buffer64 ↔
        ∃ s, taggedName.HasText thingName s)) ∧
    (KeyCertCorrect ((tinyCbor tinyCborLimits).Finds [0xFF]) (tinyCbor tinyCborLimits) [0xFF]
        buffers64 ↔
      NotRead (tinyCbor tinyCborLimits) [0xFF] (keyCertFields buffers64) ∨
        SomeTooLong ((tinyCbor tinyCborLimits).Finds [0xFF]) (keyCertFields buffers64) ∨
          AllTexts ((tinyCbor tinyCborLimits).Finds [0xFF]) (keyCertFields buffers64)) :=
  have hboth := parseResponses_correct_iff (tinyCbor tinyCborLimits) tinyCborLimits
    (tinyCbor_documented tinyCborLimits)
  have hnamed := hboth.1 taggedName (by decide) [0]
  ⟨⟨hnamed.1 buffers64 (by decide), hnamed.2 buffer64⟩, (hboth.2 [0xFF]).1 buffers64 (by decide)⟩

/-- The empty map. -/
def emptyMap : Document := .container maps .first .nil

/-- The number zero. -/
def zeroItem : Document := .number 0 .first 0

/-- Both parsers accept the empty map, and the one of a single field also the
    number zero. -/
theorem parseResponses_emptyMap :
    (emptyMap.encode = [0xA0] ∧ zeroItem.encode = [0x00]) ∧
      ¬ KeyCertCorrect emptyMap.HasText (tinyCbor tinyCborLimits) [0xA0] buffers64 ∧
      ¬ RegisterThingCorrect emptyMap.HasText (tinyCbor tinyCborLimits) [0xA0] buffer64 ∧
      ¬ RegisterThingCorrect zeroItem.HasText (tinyCbor tinyCborLimits) [0x00] buffer64 := by
  refine ⟨⟨rfl, rfl⟩, ?_, ?_, ?_⟩
  · rintro ⟨hiff, -⟩
    rcases hiff.mp ⟨buffers64, rfl⟩ _ List.mem_cons_self with ⟨s, hs, -⟩
    cases hs
  · rintro ⟨hiff, -⟩
    rcases hiff.mp ⟨buffer64, rfl⟩ _ List.mem_cons_self with ⟨s, hs, -⟩
    cases hs
  · rintro ⟨hiff, -⟩
    rcases hiff.mp ⟨buffer64, rfl⟩ _ List.mem_cons_self with ⟨s, hs, -⟩
    cases hs

end Responses

end Serializer

end ProvisioningSdk
