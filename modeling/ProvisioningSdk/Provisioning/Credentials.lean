import ProvisioningSdk.Provisioning.Retry

/-!
# The Device Credentials

What is found under the device labels after a call of
`ProvisionDevicePKCS11WithFP`, compared with what was there before.

The private key is stored first. Nothing takes it back: a certificate that
cannot be stored afterwards leaves a new key beside the old certificates, or
beside none, as they are destroyed before the new one is created. An old key is
not destroyed at all, so unless the module replaces it, it stays beside the new
one. And as missing fields go unnoticed, what is stored need not come from the
response. These are all the ways in which the pair can be torn apart
(`credentials_matched_iff`).

The log is followed through the entries about parsing, creating and destroying
only (`custody`). They and the token tell the three ways an iteration can end
(`Ended`).

## Main definitions

* `Matched`: The credentials are the old ones, or come from one response.
* `Renewed`: The whole pair was replaced from one response.
* `custody`: The entries that tell where the credentials come from.
* `Ended`: The ways an iteration can end.

## Theorems

* `iteration_ended`: An iteration ends in one of the ways.
* `Ended.matched_iff`: Which of them keep the credentials together.
* `credentials_matched_iff`: When the credentials belong together after a call.
-/

namespace ProvisioningSdk

namespace FleetProvisioning

open Effect Bytes
open Serializer (OutBuffer KeyCertBuffers TinyCbor parseField parseKeyCertResponse)

/-! ### Objects under a label -/

namespace Token

theorem mem_under {t : Token} {label : Label} {objectClass : ObjectClass} {o : Object} :
    o ∈ t.under label objectClass ↔ o ∈ t.objects ∧ o.Under label objectClass := by
  unfold under
  rw [List.mem_filter, decide_eq_true_eq]

theorem mem_create {t : Token} {replaces : Bool} {template : Template} {o : Object} :
    o ∈ (t.create replaces template).objects ↔
      (o ∈ t.objects ∧ (replaces = true → ¬ o.Under template.label template.objectClass)) ∨
        o = t.created template := by
  unfold create kept
  simp only [List.mem_append, List.mem_filter, List.mem_singleton, Bool.not_eq_true',
    Bool.and_eq_false_imp, decide_eq_false_iff_not]

/-- An object that is created was not there before. -/
theorem created_not_mem (t : Token) (template : Template) : t.created template ∉ t.objects :=
  fun h => Nat.lt_irrefl _ (t.fresh _ h)

/-- The objects under the label and class of a new object. -/
theorem mem_under_create (t : Token) (replaces : Bool) (template : Template) {o : Object} :
    o ∈ (t.create replaces template).under template.label template.objectClass ↔
      (o ∈ t.under template.label template.objectClass ∧ replaces = false) ∨
        o = t.created template := by
  rw [mem_under, mem_create, mem_under]
  have hnew : (t.created template).Under template.label template.objectClass := ⟨rfl, rfl⟩
  constructor
  · rintro ⟨⟨hold, hkept⟩ | rfl, hunder⟩
    -- an old object under the label is kept only if the module does not replace it
    · exact Or.inl ⟨⟨hold, hunder⟩, Bool.eq_false_iff.mpr (fun h => hkept h hunder)⟩
    · exact Or.inr rfl
  · rintro (⟨⟨hold, hunder⟩, hkept⟩ | rfl)
    · exact ⟨Or.inl ⟨hold, fun h => absurd h (Bool.eq_false_iff.mp hkept)⟩, hunder⟩
    · exact ⟨Or.inr rfl, hnew⟩

/-- A new object of another class changes nothing. -/
theorem mem_under_create_other {t : Token} {replaces : Bool} {template : Template}
    {label : Label} {objectClass : ObjectClass} (hother : template.objectClass ≠ objectClass)
    {o : Object} :
    o ∈ (t.create replaces template).under label objectClass ↔ o ∈ t.under label objectClass := by
  rw [mem_under, mem_create, mem_under]
  constructor
  · rintro ⟨⟨hold, -⟩ | rfl, hunder⟩
    · exact ⟨hold, hunder⟩
    · exact absurd hunder.2 hother
  · rintro ⟨hold, hunder⟩
    exact ⟨Or.inl ⟨hold, fun _ h => hother (h.2.symm.trans hunder.2)⟩, hunder⟩

/-- Objects with the same handle are the same. -/
theorem eq_of_handle (t : Token) {o o' : Object} (ho : o ∈ t.objects) (ho' : o' ∈ t.objects)
    (h : o.handle = o'.handle) : o = o' :=
  List.inj_on_of_nodup_map t.nodup ho ho' h

/-- The private keys the device connects with. -/
def deviceKeys (t : Token) : List Object :=
  t.under .DEVICE_PRIVATE_KEY_FOR_TLS .CKO_PRIVATE_KEY

/-- The certificates the device connects with. -/
def deviceCertificates (t : Token) : List Object :=
  t.under .DEVICE_CERTIFICATE_FOR_TLS .CKO_CERTIFICATE

/-- The objects without those that have one of the handles. -/
structure Without (handles : List Nat) (t t' : Token) : Prop where
  objects : ∀ o, o ∈ t'.objects ↔ o ∈ t.objects ∧ o.handle ∉ handles
  nextHandle : t'.nextHandle = t.nextHandle

theorem Without.mem_under {handles : List Nat} {t t' : Token} (h : Without handles t t')
    {label : Label} {objectClass : ObjectClass} {o : Object} :
    o ∈ t'.under label objectClass ↔ o ∈ t.under label objectClass ∧ o.handle ∉ handles := by
  rw [Token.mem_under, h.objects, Token.mem_under, and_right_comm]

/-- Destroying certificates leaves the keys. -/
theorem Without.mem_deviceKeys {handles : List Nat} {t t' : Token} (h : Without handles t t')
    (hunder : ∀ handle ∈ handles, ∃ o ∈ t.deviceCertificates, o.handle = handle) {o : Object} :
    o ∈ t'.deviceKeys ↔ o ∈ t.deviceKeys := by
  unfold deviceKeys
  rw [h.mem_under]
  -- no key has the handle of a certificate
  refine ⟨fun ho => ho.1, fun ho => ⟨ho, fun hhandle => ?_⟩⟩
  rcases hunder o.handle hhandle with ⟨o', ho', heq⟩
  rw [Token.mem_under] at ho
  rcases Token.mem_under.mp ho' with ⟨hmem, hcertificate⟩
  -- the two are one object, and it has one class
  rw [t.eq_of_handle hmem ho.1 heq] at hcertificate
  have hclass := hcertificate.2.symm.trans ho.2.2
  cases hclass

end Token

/-! ### Where the credentials come from -/

/-- The template of a device key. -/
def keyTemplate (value : ObjectValue) : Template :=
  ⟨.CKO_PRIVATE_KEY, .DEVICE_PRIVATE_KEY_FOR_TLS, value⟩

/-- The template of a device certificate. -/
def certificateTemplate (der : List UInt8) : Template :=
  ⟨.CKO_CERTIFICATE, .DEVICE_CERTIFICATE_FOR_TLS, .certificate der⟩

/-- A text and the byte behind it in a buffer of this size, a NUL if there is
    room for one. -/
def Terminated (size : Nat) (text given : List UInt8) : Prop :=
  ∃ b, given = text ++ [b] ∧ (text.length < size → b = 0)

section Origins

variable (E : External)

/-- The object is this private key. -/
def KeyOf (text : List UInt8) (o : Object) : Prop :=
  ∃ given, Terminated PRIV_KEY_BUFFER_LENGTH text given ∧
    keyObject E given = some o.template.value

/-- The object is this certificate. -/
def CertificateOf (text : List UInt8) (o : Object) : Prop :=
  ∃ given der, Terminated CERT_BUFFER_LENGTH text given ∧
    E.convert_pem_to_der given = some der ∧ o.template.value = .certificate der

/-- A response to the create keys request that was delivered and parsed, and has
    a private key and a certificate. -/
structure Origin (trace : List Event) (payload key certificate : List UInt8) : Prop where
  delivered : ∃ info, .delivered info ∈ trace ∧
    responseOf E info = some (.accepted .createKeysAndCert payload)
  parsed : .parses .createKeysAndCert payload ∈ trace
  key : E.tinyCbor.Finds payload Serializer.privateKey key
  certificate : E.tinyCbor.Finds payload Serializer.certificatePem certificate

/-- Whatever is found under the device labels was created since then, and is the
    private key and the certificate of one response. -/
def SameResponse (t0 : Token) (trace : List Event) (t : Token) : Prop :=
  ∃ payload key certificate, Origin E trace payload key certificate ∧
    t.deviceKeys ≠ [] ∧ t.deviceCertificates ≠ [] ∧
    (∀ o ∈ t.deviceKeys, o ∉ t0.objects ∧ KeyOf E key o) ∧
    (∀ o ∈ t.deviceCertificates, o ∉ t0.objects ∧ CertificateOf E certificate o)

/-- What is found under the device labels belongs together if it did before. -/
def Matched (t0 : Token) (trace : List Event) (t : Token) : Prop :=
  (t.deviceKeys = t0.deviceKeys ∧ t.deviceCertificates = t0.deviceCertificates) ∨
    SameResponse E t0 trace t

/-- A device key was created. -/
def KeyCreated (trace : List Event) : Prop := ∃ value, .created (keyTemplate value) ∈ trace

/-- A device certificate was created. -/
def CertificateCreated (trace : List Event) : Prop :=
  ∃ der, .created (certificateTemplate der) ∈ trace

/-- The certificate was created as well, there was a response with both, and
    nothing old was left under the labels. -/
structure Renewed (t0 : Token) (trace : List Event) : Prop where
  certificate : CertificateCreated trace
  origin : ∃ payload key certificate, Origin E trace payload key certificate
  noOldKey : E.replaces = false → t0.deviceKeys = []
  noOldCertificate : E.replaces = false →
    ∀ o ∈ t0.deviceCertificates, .destroyed o.handle ∈ trace

end Origins

/-! ### The entries about credentials -/

/-- The entries that tell where the credentials come from. -/
def Event.isCustody : Event → Bool
  | .parses api _ => api == .createKeysAndCert
  | .created _ => true
  | .destroyed _ => true
  | _ => false

/-- Those entries of a log. -/
def custody (trace : List Event) : List Event := trace.filter Event.isCustody

theorem mem_custody {trace : List Event} {e : Event} (he : e.isCustody = true) :
    e ∈ custody trace ↔ e ∈ trace := by
  unfold custody
  rw [List.mem_filter]
  exact ⟨fun h => h.1, fun h => ⟨h, he⟩⟩

theorem custody_neutral (trace : List Event) {e : Event} (he : e.isCustody = false) :
    custody (trace ++ [e]) = custody trace := by
  unfold custody
  rw [List.filter_append, List.filter_cons_of_neg (by rw [he]; exact Bool.false_ne_true),
    List.filter_nil, List.append_nil]

theorem custody_concat (trace : List Event) {e : Event} (he : e.isCustody = true) :
    custody (trace ++ [e]) = custody trace ++ [e] := by
  unfold custody
  rw [List.filter_append, List.filter_cons_of_pos he, List.filter_nil]

theorem isCustody_of_transport {e : Event} (he : e.isTransport = true) : e.isCustody = false := by
  cases e <;> first | rfl | cases he

/-- Only three steps make such entries. -/
theorem isCustody_of_step {s : Step} (hparse : s ≠ .parseKeysCert) (hkey : s ≠ .loadPrivateKey)
    (hcertificate : s ≠ .loadCertificate) {e : Event} (he : e.isOf s = true) :
    e.isCustody = false := by
  unfold Event.isOf at he
  split at he
  case h_4 => exact absurd rfl hparse
  case h_5 => exact absurd rfl hkey
  case h_6 => exact absurd rfl hcertificate
  case h_7 => exact absurd rfl hcertificate
  case h_12 api payload =>
      -- the other response is parsed for the other request
      rw [beq_iff_eq] at he
      rw [he]
      rfl
  case h_13 => cases he
  all_goals rfl

/-- Destroying objects, in the log. -/
theorem custody_destroyAll (w : World) (handles : List Nat) :
    custody (w.destroyAll handles).trace = custody w.trace ++ handles.map .destroyed := by
  induction handles using List.reverseRecOn with
  | nil => exact (List.append_nil _).symm
  | append_singleton handles handle ih =>
      rw [destroyAll_concat, World.log, custody_concat _ rfl, ih, List.map_append,
        List.append_assoc]
      rfl

/-- Destroying objects, on the token. -/
theorem without_destroyAll (w : World) (handles : List Nat) :
    Token.Without handles w.token (w.destroyAll handles).token where
  objects := fun o => mem_destroyAll w handles o
  nextHandle := by
    induction handles using List.reverseRecOn with
    | nil => rfl
    | append_singleton handles handle ih =>
        rw [destroyAll_concat]
        exact ih

/-! ### What is handed on from a response -/

/-- What `loadPrivateKey` and `loadCertificate` hand on from a buffer. -/
def bufferText (out : OutBuffer) : List UInt8 := out.buffer.slice 0 (out.length + 1)

theorem bufferText_copyString (out : OutBuffer) (text : List UInt8) :
    Terminated out.length text (bufferText (out.copyString text)) := by
  have hheld := (Serializer.copyString_holds out text).2
  have hlength : (out.copyString text).length = text.length := rfl
  -- the byte behind the text, which tinycbor writes if there is room
  refine ⟨(out.copyString text).buffer text.length, ?_, fun hroom => ?_⟩
  · unfold bufferText
    rw [hlength, Memory.slice, List.range_succ, List.map_append, List.map_singleton,
      Nat.zero_add]
    exact congrArg (· ++ _) hheld
  · unfold OutBuffer.copyString
    simp only [if_pos hroom]
    exact copy_inside (out.buffer.copy 0 text) text.length [0] 0 Nat.zero_lt_one

variable {E : External}

/-- A field that is in the response and left no error was copied. -/
theorem terminated_of_parseField {T : TinyCbor} (hT : T.Copies)
    {payload key text : List UInt8} {out out' : OutBuffer}
    (htext : T.Finds payload key text)
    (hok : parseField T (T.parserInit payload).2 key out = .ok (.CborNoError, out')) :
    Terminated out.length text (bufferText out') := by
  rw [(Serializer.copied_of_parseField hT htext hok).2]
  exact bufferText_copyString out text

/-- The lengths an iteration begins with. -/
structure FullLengths (out : KeyCertBuffers) : Prop where
  certificate : out.certificate.length = CERT_BUFFER_LENGTH
  certificateId : out.certificateId.length = CERT_ID_BUFFER_LENGTH
  privateKey : out.privateKey.length = PRIV_KEY_BUFFER_LENGTH

/-- The buffers are what the payload was parsed to. -/
def ParsedFrom (E : External) (payload : List UInt8) (buffers : KeyCertBuffers) : Prop :=
  ∃ out, FullLengths out ∧ parseKeyCertResponse E.tinyCbor payload out = .ok (true, buffers)

theorem ParsedFrom.privateKey (hT : E.tinyCbor.Copies) {payload text : List UInt8}
    {buffers : KeyCertBuffers} (h : ParsedFrom E payload buffers)
    (htext : E.tinyCbor.Finds payload Serializer.privateKey text) :
    Terminated PRIV_KEY_BUFFER_LENGTH text (bufferText buffers.privateKey) := by
  rcases h with ⟨out, hfull, hok⟩
  have hid : 64 ≤ out.certificateId.length := hfull.certificateId.ge
  rcases (Serializer.parseKeyCertResponse_true_iff _ _ _ hid).mp hok with ⟨-, -, hkey, -⟩
  rw [← hfull.privateKey]
  exact terminated_of_parseField hT htext hkey

theorem ParsedFrom.certificate (hT : E.tinyCbor.Copies) {payload text : List UInt8}
    {buffers : KeyCertBuffers} (h : ParsedFrom E payload buffers)
    (htext : E.tinyCbor.Finds payload Serializer.certificatePem text) :
    Terminated CERT_BUFFER_LENGTH text (bufferText buffers.certificate) := by
  rcases h with ⟨out, hfull, hok⟩
  have hid : 64 ≤ out.certificateId.length := hfull.certificateId.ge
  rcases (Serializer.parseKeyCertResponse_true_iff _ _ _ hid).mp hok with ⟨hfirst, -, -, -⟩
  -- the certificate is the field that is looked up first, if there is a map
  rcases (Serializer.parseFirst_iff _ _ _ _).mp hfirst with ⟨-, ⟨hnot, -⟩ | ⟨-, hok'⟩⟩
  · -- a text is in a map only
    rw [htext.2.1] at hnot
    cases hnot
  · rw [← hfull.certificate]
    exact terminated_of_parseField hT htext hok'

/-! ### The phases of an iteration -/

/-- Nothing happened to the credentials. -/
def Ready (t0 : Token) (entries : List Event) (t : Token) (buffers : KeyCertBuffers) : Prop :=
  entries = [] ∧ t = t0 ∧ FullLengths buffers

/-- A response was parsed. -/
def Parsed (E : External) (t0 : Token) (w : World) : Prop :=
  ∃ payload, ParsedFrom E payload w.locals.buffers ∧
    custody w.trace = [.parses .createKeysAndCert payload] ∧ w.token = t0

/-- Its key was stored. -/
def KeySaved (E : External) (t0 : Token) (w : World) : Prop :=
  ∃ payload value, ParsedFrom E payload w.locals.buffers ∧
    keyObject E (bufferText w.locals.buffers.privateKey) = some value ∧
    custody w.trace = [.parses .createKeysAndCert payload, .created (keyTemplate value)] ∧
    w.token = t0.create E.replaces (keyTemplate value)

/-- Some certificates were destroyed after a key was stored. -/
structure KeyOnly (E : External) (t0 : Token) (payload : List UInt8) (buffers : KeyCertBuffers)
    (value : ObjectValue) (handles : List Nat) (t : Token) : Prop where
  parsed : ParsedFrom E payload buffers
  key : keyObject E (bufferText buffers.privateKey) = some value
  without : Token.Without handles (t0.create E.replaces (keyTemplate value)) t
  under : ∀ handle ∈ handles,
    ∃ o ∈ (t0.create E.replaces (keyTemplate value)).deviceCertificates, o.handle = handle

/-- The entries about a key. -/
def keyEntries (payload : List UInt8) (value : ObjectValue) (handles : List Nat) : List Event :=
  [.parses .createKeysAndCert payload, .created (keyTemplate value)] ++ handles.map .destroyed

/-- The ways an iteration can end. -/
inductive Ended (E : External) (t0 : Token) : List Event → Token → Prop
  | untouched {entries : List Event} (h : ∀ template, .created template ∉ entries) :
      Ended E t0 entries t0
  | keyOnly {payload : List UInt8} {buffers : KeyCertBuffers} {value : ObjectValue}
      {handles : List Nat} {t : Token} (h : KeyOnly E t0 payload buffers value handles t) :
      Ended E t0 (keyEntries payload value handles) t
  | both {payload : List UInt8} {buffers : KeyCertBuffers} {value : ObjectValue}
      {handles : List Nat} {t : Token} {der : List UInt8}
      (h : KeyOnly E t0 payload buffers value handles t)
      (hder : E.convert_pem_to_der (bufferText buffers.certificate) = some der) :
      Ended E t0 (keyEntries payload value handles ++ [.created (certificateTemplate der)])
        (t.create E.replaces (certificateTemplate der))

/-- What only looks at the credentials is kept by what does not change them. -/
theorem custody_stable (K : List Event → Token → KeyCertBuffers → Prop) :
    StableSteps E (fun w => K (custody w.trace) w.token w.locals.buffers) where
  now := fun _ _ h => h
  mqtt := fun _ _ h => h
  transport := by
    intro w e he h
    simp only [World.log]
    rw [custody_neutral _ (isCustody_of_transport he)]
    exact h
  deliver := by
    intro w info h
    simp only [World.deliver, World.log]
    rw [custody_neutral _ rfl]
    exact h
  responses := fun _ _ h => h
  connection := fun _ _ h => h

section Phases

variable (pDeviceSerialNumber : List UInt8) {t0 : Token}

/-- The steps that are not about the credentials. -/
theorem other_step (K : List Event → Token → KeyCertBuffers → Prop) (s : Step)
    (hparse : s ≠ .parseKeysCert) (hkey : s ≠ .loadPrivateKey)
    (hcertificate : s ≠ .loadCertificate) :
    Keeps (fun w => K (custody w.trace) w.token w.locals.buffers)
      (workflowStep E pDeviceSerialNumber s) := by
  -- an entry about something else does not show
  have hlog : ∀ (w : World) (e : Event), e.isCustody = false →
      K (custody w.trace) w.token w.locals.buffers →
      K (custody (w.log e).trace) (w.log e).token (w.log e).locals.buffers := by
    intro w e he h
    simp only [World.log]
    rw [custody_neutral _ he]
    exact h
  refine (custody_stable K).workflowStep pDeviceSerialNumber s ?_ ?_ ?_ ?_
  · exact fun w e he h => hlog w e (isCustody_of_step hparse hkey hcertificate he) h
  · rintro (rfl | rfl)
    · exact absurd rfl hkey
    · exact absurd rfl hcertificate
  · intro hs
    exact absurd hs hparse
  · exact fun w status h => hlog w _ rfl h

/-- The iteration ended in one of the ways. -/
def HasEnded (E : External) (t0 : Token) (w : World) : Prop := Ended E t0 (custody w.trace) w.token

/-- Parsing the response. -/
theorem parseKeysCert_step :
    Triple (fun w => Ready t0 (custody w.trace) w.token w.locals.buffers)
      (workflowStep E pDeviceSerialNumber .parseKeysCert)
      (Gate (Parsed E t0) (HasEnded E t0)) (fun _ => True) := by
  rintro w ⟨hentries, htoken, hfull⟩
  unfold workflowStep call parseKeysCert
  simp only
  rw [bind_eq, get_bind]
  cases hparse : parseKeyCertResponse E.tinyCbor w.responses.payload w.locals.buffers with
  | error f => trivial
  | ok r =>
      -- the parse is the one entry, and the token is as it was
      rcases r with ⟨status, buffers⟩
      have hcustody : custody ((w.trace ++ [.parses .createKeysAndCert w.responses.payload]) ++
          [.step .parseKeysCert status]) = [.parses .createKeysAndCert w.responses.payload] := by
        rw [custody_neutral _ rfl, custody_concat _ rfl, hentries]
        rfl
      cases status with
      | false =>
          change Ended E t0 (custody ((w.trace ++ [.parses .createKeysAndCert
            w.responses.payload]) ++ [.step .parseKeysCert false])) w.token
          rw [hcustody, htoken]
          -- an entry of a parse is not one of an import
          exact Ended.untouched (fun template h => by cases List.mem_singleton.mp h)
      | true => exact ⟨w.responses.payload, ⟨_, hfull, hparse⟩, hcustody, htoken⟩

theorem hasEnded_logged (s : Step) (w : World) (status : Bool) (h : HasEnded E t0 w) :
    HasEnded E t0 (w.log (.step s status)) := by
  unfold HasEnded World.log
  simp only
  rw [custody_neutral _ rfl]
  exact h

/-- Saving the key. -/
theorem loadPrivateKey_step :
    Triple (Parsed E t0) (workflowStep E pDeviceSerialNumber .loadPrivateKey)
      (Gate (KeySaved E t0) (HasEnded E t0)) (fun _ => True) := by
  refine workflowStep_triple (Q := Gate (KeySaved E t0) (HasEnded E t0)) ?_ ?_
  case refine_2 =>
    intro status w h
    cases status with
    | false => exact hasEnded_logged _ w false h
    | true =>
        rcases h with ⟨payload, value, hparsed, hvalue, hentries, htoken⟩
        refine ⟨payload, value, hparsed, hvalue, ?_, htoken⟩
        simp only [World.log]
        rw [custody_neutral _ rfl, hentries]
  refine Triple.get_bind (fun w hw => ?_)
  rcases hw with ⟨payload, hparsed, hentries, htoken⟩
  refine (provisionPrivateKey_spec w _ _).apply (Asked.refl w) ?_ (fun _ hs => hs)
  -- no key was stored and the iteration ends here, or its object is on the token
  rintro status w' (⟨rfl, n, rfl⟩ | ⟨value, hvalue, rfl, n, rfl⟩)
  · change Ended E t0 (custody w.trace) w.token
    rw [hentries, htoken]
    exact Ended.untouched (fun template h => by cases List.mem_singleton.mp h)
  · refine ⟨payload, value, hparsed, hvalue, ?_, ?_⟩
    · simp only [World.log]
      rw [custody_concat _ rfl, hentries]
      rfl
    · simp only [World.log]
      rw [htoken]
      rfl

/-- What is left after certificates were destroyed. -/
theorem keyOnly_of_destroyed {w w' : World} {payload : List UInt8} {value : ObjectValue}
    (hparsed : ParsedFrom E payload w.locals.buffers)
    (hvalue : keyObject E (bufferText w.locals.buffers.privateKey) = some value)
    (hentries : custody w.trace =
      [.parses .createKeysAndCert payload, .created (keyTemplate value)])
    (htoken : w.token = t0.create E.replaces (keyTemplate value))
    (h : Destroyed .DEVICE_CERTIFICATE_FOR_TLS .CKO_CERTIFICATE w w') :
    ∃ handles, KeyOnly E t0 payload w.locals.buffers value handles w'.token ∧
      custody w'.trace = keyEntries payload value handles := by
  rcases h with ⟨handles, ⟨n, rfl⟩, hunder⟩
  refine ⟨handles, ⟨hparsed, hvalue, ?_, ?_⟩, ?_⟩
  · rw [← htoken]
    exact without_destroyAll w handles
  · rw [← htoken]
    exact hunder
  · simp only
    rw [custody_destroyAll, hentries]
    rfl

/-- Saving the certificate. -/
theorem loadCertificate_step :
    Triple (KeySaved E t0) (workflowStep E pDeviceSerialNumber .loadCertificate)
      (fun _ => HasEnded E t0) (fun _ => True) := by
  refine workflowStep_triple (Q := fun _ => HasEnded E t0) ?_
    (fun status w h => hasEnded_logged _ w status h)
  refine Triple.get_bind (fun w hw => ?_)
  rcases hw with ⟨payload, value, hparsed, hvalue, hentries, htoken⟩
  refine (provisionCertificate_spec w _ _).apply (Asked.refl w) ?_ (fun _ _ => trivial)
  unfold HasEnded
  -- either way old certificates may be gone; only in one of them there is a new one
  rintro status w' (⟨-, hdestroyed⟩ | ⟨der, w1, hder, -, hdestroyed, n, rfl⟩)
  · rcases keyOnly_of_destroyed hparsed hvalue hentries htoken hdestroyed with
      ⟨handles, honly, hcustody⟩
    rw [hcustody]
    exact Ended.keyOnly honly
  · rcases keyOnly_of_destroyed hparsed hvalue hentries htoken hdestroyed with
      ⟨handles, honly, hcustody⟩
    simp only [World.log]
    rw [custody_concat _ rfl, hcustody]
    exact Ended.both honly hder

/-- The steps of an iteration around the credentials. -/
theorem claimSteps_split : claimSteps =
    [.establishWithClaim, .subscribeToKeysCert, .publishKeysCert, .waitForKeysCert] ++
      ([.parseKeysCert] ++ ([.loadPrivateKey] ++ ([.loadCertificate] ++
        [.unsubscribeFromKeysCert, .generateRequest, .subscribeToRegisterThing,
          .publishRegisterThing, .waitForRegisterThing, .parseRegisterThing,
          .unsubscribeFromRegisterThing]))) := rfl

/-- The steps that use the connection with the claim credentials. -/
theorem claimSteps_ended :
    Triple (fun w => Ready t0 (custody w.trace) w.token w.locals.buffers)
      (gates (workflowStep E pDeviceSerialNumber) true claimSteps)
      (fun _ => HasEnded E t0) (fun _ => True) := by
  have hready : ∀ w : World, Ready t0 (custody w.trace) w.token w.locals.buffers →
      HasEnded E t0 w := by
    rintro w ⟨hentries, htoken, -⟩
    unfold HasEnded
    rw [hentries, htoken]
    exact Ended.untouched (fun template h => absurd h List.not_mem_nil)
  rw [claimSteps_split]
  refine Triple.consequence (P := Gate (fun w : World => Ready t0 (custody w.trace) w.token
      w.locals.buffers) (HasEnded E t0) true) (Q := Gate (HasEnded E t0) (HasEnded E t0))
    (E := fun _ => True) ?_ (fun _ h => h) ?_ (fun _ h => h)
  · -- each of the three steps leads to the next phase, or to an end
    refine Triple.gates_append (Triple.gates_keeps ?_ hready true) (fun status => ?_)
    · intro s hs
      refine (other_step pDeviceSerialNumber (Ready t0) s ?_ ?_ ?_).consequence (fun _ h => h)
        (fun _ _ h => h) (fun _ _ => trivial) <;> rintro rfl <;> simp at hs
    refine Triple.gates_append (Triple.gates_one (parseKeysCert_step pDeviceSerialNumber) status)
      (fun status => ?_)
    refine Triple.gates_append (Triple.gates_one (loadPrivateKey_step pDeviceSerialNumber) status)
      (fun status => ?_)
    refine Triple.gates_append (Triple.gates_one ((loadCertificate_step
      pDeviceSerialNumber).consequence (fun _ h => h) ?_ (fun _ h => h)) status)
      (fun status => Triple.gates_keeps ?_ (fun _ h => h) status)
    · intro status w h
      rw [gate_self]
      exact h
    · intro s hs
      refine (other_step pDeviceSerialNumber (fun entries t _ => Ended E t0 entries t) s
        ?_ ?_ ?_).consequence (fun _ h => h) (fun _ _ h => h) (fun _ _ => trivial) <;>
        rintro rfl <;> simp at hs
  · intro status w h
    rw [gate_self] at h
    exact h

/-- An iteration ends in one of the ways. -/
theorem iteration_ended :
    Triple (fun w => custody w.trace = [] ∧ w.token = t0) (iteration E pDeviceSerialNumber true)
      (fun _ => HasEnded E t0) (fun _ => True) := by
  refine iteration_triple (R := fun w => Ready t0 (custody w.trace) w.token w.locals.buffers) ?_
    (claimSteps_ended pDeviceSerialNumber) ?_ ?_
  · rintro w ⟨hentries, htoken⟩
    refine ⟨?_, htoken, ⟨rfl, rfl, rfl⟩⟩
    simp only [World.begin, World.log]
    rw [custody_neutral _ rfl, hentries]
  · exact (custody_stable (fun entries t _ => Ended E t0 entries t)).closeConnection.consequence
      (fun _ h => h) (fun _ _ h => h) (fun _ _ => trivial)
  · exact (other_step pDeviceSerialNumber (fun entries t _ => Ended E t0 entries t)
      .establishWithDevice Step.noConfusion Step.noConfusion Step.noConfusion).consequence
      (fun _ h => h) (fun _ _ h => h) (fun _ _ => trivial)

end Phases

/-! ### The ways to end -/

section Ends

variable {t0 t : Token} {payload : List UInt8} {buffers : KeyCertBuffers} {value : ObjectValue}
  {handles : List Nat}

/-- The key that was created is there, and the old ones that were not replaced. -/
theorem KeyOnly.mem_deviceKeys (h : KeyOnly E t0 payload buffers value handles t) {o : Object} :
    o ∈ t.deviceKeys ↔
      (o ∈ t0.deviceKeys ∧ E.replaces = false) ∨ o = t0.created (keyTemplate value) := by
  -- destroying certificates does not touch the keys
  rw [h.without.mem_deviceKeys h.under]
  exact t0.mem_under_create E.replaces (keyTemplate value)

/-- The old certificates are there that were not destroyed. -/
theorem KeyOnly.mem_deviceCertificates (h : KeyOnly E t0 payload buffers value handles t)
    {o : Object} :
    o ∈ t.deviceCertificates ↔ o ∈ t0.deviceCertificates ∧ o.handle ∉ handles := by
  have hother : (keyTemplate value).objectClass ≠ .CKO_CERTIFICATE := ObjectClass.noConfusion
  unfold Token.deviceCertificates
  rw [h.without.mem_under, Token.mem_under_create_other hother]

/-- A certificate that is created now was not there at the beginning. -/
theorem KeyOnly.created_not_mem (h : KeyOnly E t0 payload buffers value handles t)
    (template : Template) : t.created template ∉ t0.objects := by
  intro hmem
  have hlt : t.nextHandle < t0.nextHandle := t0.fresh _ hmem
  have hnext : t.nextHandle = t0.nextHandle + 1 := h.without.nextHandle
  omega

/-- The credentials are not the old ones once a key was created. -/
theorem deviceKeys_ne {t' : Token} {template : Template}
    (h : t0.created template ∈ t'.deviceKeys) : t'.deviceKeys ≠ t0.deviceKeys := by
  intro heq
  rw [heq] at h
  exact t0.created_not_mem _ (Token.mem_under.mp h).1

/-- A key without a certificate is a pair torn apart. -/
theorem KeyOnly.not_matched (h : KeyOnly E t0 payload buffers value handles t)
    (trace : List Event) : ¬ Matched E t0 trace t := by
  rintro (⟨hkeys, -⟩ | ⟨p, key, certificate, -, -, hsome, -, hcertificates⟩)
  · exact deviceKeys_ne (h.mem_deviceKeys.mpr (Or.inr rfl)) hkeys
  · -- a certificate that is there was there before
    rcases List.exists_mem_of_ne_nil _ hsome with ⟨o, ho⟩
    exact (hcertificates o ho).1 (Token.mem_under.mp (h.mem_deviceCertificates.mp ho).1).1

theorem mem_keyEntries {e : Event} :
    e ∈ keyEntries payload value handles ↔ e = .parses .createKeysAndCert payload ∨
      e = .created (keyTemplate value) ∨ ∃ handle ∈ handles, Event.destroyed handle = e := by
  unfold keyEntries
  simp only [List.cons_append, List.nil_append, List.mem_cons, List.mem_map]

/-- No certificate is among the entries about a key. -/
theorem certificate_not_mem (der : List UInt8) :
    .created (certificateTemplate der) ∉ keyEntries payload value handles := by
  rw [mem_keyEntries]
  rintro (h | h | ⟨handle, -, h⟩)
  · cases h
  · rw [Event.created.injEq] at h
    exact ObjectClass.noConfusion (congrArg Template.objectClass h)
  · cases h

/-- A key and a certificate are a pair exactly if they were replaced as one. -/
theorem KeyOnly.both_matched_iff (hT : E.tinyCbor.Copies)
    (h : KeyOnly E t0 payload buffers value handles t) {der : List UInt8}
    (hder : E.convert_pem_to_der (bufferText buffers.certificate) = some der)
    {trace : List Event}
    (htrace : custody trace =
      keyEntries payload value handles ++ [.created (certificateTemplate der)]) :
    Matched E t0 trace (t.create E.replaces (certificateTemplate der)) ↔
      Renewed E t0 trace := by
  -- what is under the two labels, and what the log says about it
  have hkeys : ∀ o, o ∈ (t.create E.replaces (certificateTemplate der)).deviceKeys ↔
      (o ∈ t0.deviceKeys ∧ E.replaces = false) ∨ o = t0.created (keyTemplate value) := by
    intro o
    have hother : (certificateTemplate der).objectClass ≠ .CKO_PRIVATE_KEY :=
      ObjectClass.noConfusion
    rw [← h.mem_deviceKeys]
    exact Token.mem_under_create_other hother
  have hcertificates : ∀ o, o ∈ (t.create E.replaces (certificateTemplate der)).deviceCertificates ↔
      ((o ∈ t0.deviceCertificates ∧ o.handle ∉ handles) ∧ E.replaces = false) ∨
        o = t.created (certificateTemplate der) := by
    intro o
    rw [← h.mem_deviceCertificates]
    exact t.mem_under_create E.replaces (certificateTemplate der)
  have hdestroyed : ∀ handle, .destroyed handle ∈ trace ↔ handle ∈ handles := by
    intro handle
    rw [← mem_custody rfl, htrace, List.mem_append, mem_keyEntries, List.mem_singleton]
    simp only [reduceCtorEq, Event.destroyed.injEq, exists_eq_right, false_or, or_false]
  have hcreated : .created (certificateTemplate der) ∈ trace := by
    rw [← mem_custody rfl, htrace]
    exact List.mem_append_right _ (List.mem_singleton_self _)
  have hparsed : ∀ p, .parses .createKeysAndCert p ∈ trace → p = payload := by
    intro p hp
    rw [← mem_custody rfl, htrace, List.mem_append, mem_keyEntries, List.mem_singleton] at hp
    simp only [reduceCtorEq, Event.parses.injEq, true_and, and_false, exists_const, or_false] at hp
    exact hp
  constructor
  -- if the pair is from one response, nothing else is under the labels
  · rintro (⟨hsame, -⟩ | ⟨p, key, certificate, horigin, -, -, hk, hc⟩)
    · exact absurd hsame (deviceKeys_ne ((hkeys _).mpr (Or.inr rfl)))
    · refine ⟨⟨der, hcreated⟩, ⟨p, key, certificate, horigin⟩, ?_, ?_⟩
      · intro hkept
        refine List.eq_nil_iff_forall_not_mem.mpr (fun o ho => ?_)
        exact (hk o ((hkeys o).mpr (Or.inl ⟨ho, hkept⟩))).1 (Token.mem_under.mp ho).1
      · intro hkept o ho
        rw [hdestroyed]
        by_contra hleft
        exact (hc o ((hcertificates o).mpr (Or.inl ⟨⟨ho, hleft⟩, hkept⟩))).1
          (Token.mem_under.mp ho).1
  -- if nothing old is left, what is there came from the buffers
  · rintro ⟨-, ⟨p, key, certificate, horigin⟩, hnoKey, hnoCertificate⟩
    obtain rfl : p = payload := hparsed p horigin.parsed
    refine Or.inr ⟨p, key, certificate, horigin,
      List.ne_nil_of_mem ((hkeys _).mpr (Or.inr rfl)),
      List.ne_nil_of_mem ((hcertificates _).mpr (Or.inr rfl)), ?_, ?_⟩
    · intro o ho
      rcases (hkeys o).mp ho with ⟨hold, hkept⟩ | rfl
      · rw [hnoKey hkept] at hold
        exact absurd hold List.not_mem_nil
      · exact ⟨t0.created_not_mem _, _, h.parsed.privateKey hT horigin.key, h.key⟩
    · intro o ho
      rcases (hcertificates o).mp ho with ⟨⟨hold, hleft⟩, hkept⟩ | rfl
      · exact absurd ((hdestroyed _).mp (hnoCertificate hkept o hold)) hleft
      · exact ⟨h.created_not_mem _, _, der, h.parsed.certificate hT horigin.certificate, hder, rfl⟩

/-- The credentials belong together unless a key was created and the pair was not
    replaced as one. -/
theorem Ended.matched_iff (hT : E.tinyCbor.Copies) {trace : List Event}
    (h : Ended E t0 (custody trace) t) :
    Matched E t0 trace t ↔ (KeyCreated trace → Renewed E t0 trace) := by
  -- the ways to end are told apart by these entries
  generalize hentries : custody trace = entries at h
  have hcreated : ∀ template, .created template ∈ trace ↔ .created template ∈ entries := by
    intro template
    rw [← hentries, mem_custody rfl]
  cases h with
  | untouched hnone =>
      refine ⟨fun _ hkey => ?_, fun _ => Or.inl ⟨rfl, rfl⟩⟩
      rcases hkey with ⟨value, hkey⟩
      exact absurd ((hcreated _).mp hkey) (hnone _)
  | @keyOnly payload buffers value handles t hkey =>
      -- neither side holds
      refine ⟨fun hmatched => absurd hmatched (hkey.not_matched trace), fun hrenewed => ?_⟩
      have hkeyCreated : KeyCreated trace :=
        ⟨value, (hcreated _).mpr (mem_keyEntries.mpr (Or.inr (Or.inl rfl)))⟩
      rcases (hrenewed hkeyCreated).certificate with ⟨der, hder⟩
      exact absurd ((hcreated _).mp hder) (certificate_not_mem der)
  | @both payload buffers value handles t der hkey hder =>
      have hkeyCreated : KeyCreated trace :=
        ⟨value, (hcreated _).mpr (List.mem_append_left _
          (mem_keyEntries.mpr (Or.inr (Or.inl rfl))))⟩
      rw [hkey.both_matched_iff hT hder hentries]
      exact ⟨fun hrenewed _ => hrenewed, fun hrenewed => hrenewed hkeyCreated⟩

end Ends

/-! ### Whole runs -/

theorem custody_replicate (trace : List Event) (n : Nat) :
    custody (trace ++ List.replicate n .iteration) = custody trace := by
  induction n with
  | zero => rw [List.replicate_zero, List.append_nil]
  | succ n ih => rw [List.replicate_succ', ← List.append_assoc, custody_neutral _ rfl, ih]

/-- The credentials found after a call belong together exactly if no device key
    was created, or the whole pair was replaced from one response and nothing
    old is left. -/
theorem credentials_matched_iff (E : External) (pDeviceSerialNumber : List UInt8)
    (hT : E.tinyCbor.Copies) (maxDemoLoopCount : Nat)
    (w w' : World) (result : Int)
    (hrun : ProvisionDevicePKCS11WithFP E pDeviceSerialNumber maxDemoLoopCount w =
      .ok result w') :
    Matched E w.token w'.trace w'.token ↔
      (KeyCreated w'.trace → Renewed E w.token w'.trace) := by
  refine Ended.matched_iff hT ?_
  have hfirst := iteration_ended (E := E) pDeviceSerialNumber w.enter ⟨rfl, rfl⟩
  cases hiteration : iteration E pDeviceSerialNumber true w.enter with
  | error halt w1 =>
      rw [provision_of_halt E pDeviceSerialNumber _ hiteration] at hrun
      cases hrun
  | ok status w1 =>
      rw [hiteration] at hfirst
      -- the later iterations change neither the token nor these entries
      rcases provision_of_iteration E pDeviceSerialNumber maxDemoLoopCount hiteration with
        ⟨w'', hrun', htrace, htoken⟩
      rw [hrun'] at hrun
      cases hrun
      rw [htrace, custody_replicate, htoken]
      exact hfirst

/-- Everything succeeds up to the certificate, which the module does not
    store. -/
def certificateRefused : External :=
  { External.reliable [4, 8, 12] [(7, [.suback 1], 0), (11, [.suback 2], 0),
      (15, [.publish (keysCertResponse certPem)], 1000)] with
    C_CreateObject := fun now => now != 25 }

theorem certificateRefused_run :
    ∃ w', ProvisionDevicePKCS11WithFP certificateRefused (ascii "serial") 3 World.initial =
        .ok (-1) w' ∧
      w'.token.deviceKeys ≠ [] ∧ w'.token.deviceCertificates = [] := by
  have hrun : (match ProvisionDevicePKCS11WithFP certificateRefused (ascii "serial") 3
      World.initial with
    | .error _ _ => false
    | .ok result w' => result == -1 && !w'.token.deviceKeys.isEmpty &&
        w'.token.deviceCertificates.isEmpty) = true := by
    decide +kernel
  cases hres : ProvisionDevicePKCS11WithFP certificateRefused (ascii "serial") 3
      World.initial with
  | error halt w' =>
      rw [hres] at hrun
      cases hrun
  | ok result w' =>
      rw [hres] at hrun
      simp only [Bool.and_eq_true, beq_iff_eq, Bool.not_eq_true', List.isEmpty_eq_false_iff,
        List.isEmpty_iff] at hrun
      rcases hrun with ⟨⟨rfl, hkeys⟩, hcertificates⟩
      exact ⟨w', rfl, hkeys, hcertificates⟩

theorem credentials_matched_iff_refused :
    ∃ result w', ProvisionDevicePKCS11WithFP certificateRefused (ascii "serial") 3
        World.initial = .ok result w' ∧
      (Matched certificateRefused World.initial.token w'.trace w'.token ↔
        (KeyCreated w'.trace →
          Renewed certificateRefused World.initial.token w'.trace)) := by
  rcases certificateRefused_run with ⟨w', hrun, -, -⟩
  exact ⟨-1, w', hrun, credentials_matched_iff certificateRefused (ascii "serial")
    (Serializer.tinyCbor_copies _) 3 World.initial w' (-1) hrun⟩

/-- From an empty token, a key without a certificate is left. -/
theorem credentials_keyAlone :
    ∃ w', ProvisionDevicePKCS11WithFP certificateRefused (ascii "serial") 3 World.initial =
        .ok (-1) w' ∧
      ¬ Matched certificateRefused World.initial.token w'.trace
        w'.token := by
  rcases certificateRefused_run with ⟨w', hrun, hkeys, hcertificates⟩
  refine ⟨w', hrun, ?_⟩
  rintro (⟨hsame, -⟩ | ⟨p, key, certificate, -, -, hsome, -, -⟩)
  · exact hkeys hsame
  · exact hsome hcertificates

end FleetProvisioning

end ProvisioningSdk
