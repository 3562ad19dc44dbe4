import Mathlib.Logic.Relation
import ProvisioningSdk.Lib.Transition
import ProvisioningSdk.Provisioning.PemBuffers
import ProvisioningSdk.Provisioning.RepeatedLoads
import ProvisioningSdk.Provisioning.SuccessfulRuns

/-!
# The Life of a Device

`main` of `main.c`, over as many starts of the device as there are: the claim
credentials are imported once after each start, and then
`ProvisionDevicePKCS11WithFP` is called again and again. A call that stops at an
assertion or for ever ends the program, and the device has to be started anew.
The token outlives all of this.

Everything the programs do to the token is to create objects under certain labels
and to destroy certificates under them (`TokenChange`). So what becomes of the
token is a matter of such changes alone. Other labels keep their objects, and
since the labels of the claim credentials are others than those of the device,
the imports after a start and the calls in between do not get into each other's
way. Whatever went wrong before, the device can always come back to its claim
credentials. The application loop between two calls works on the variables of the
agent, and only reads the token.

## Main definitions

* `Changes`: What may have become of a token.
* `deviceLife`: Starts of the device, and calls in between.

## Theorems

* `changes_other`, `changes_keys`: What such changes leave.
* `boot_changes`, `pass_changes`: A start and a call make no others.
* `deviceLife_custody`: The token after any life.
-/

namespace ProvisioningSdk

namespace FleetProvisioning

open Effect Transition

/-! ### Changes of a token -/

/-- A label and a class. -/
abbrev Place := Label × ObjectClass

/-- Where a template puts its object. -/
def Template.place (template : Template) : Place := (template.label, template.objectClass)

/-- An object is created at one of these places, or a certificate at one of them
    is destroyed. -/
inductive TokenChange (replaces : Bool) (places : List Place) : Token → Token → Prop
  | create (t : Token) {template : Template} (h : template.place ∈ places) :
      TokenChange replaces places t (t.create replaces template)
  | destroy (t : Token) {handle : Nat}
      (h : ∀ o ∈ t.objects, o.handle = handle →
        o.template.place ∈ places ∧ o.template.objectClass = .CKO_CERTIFICATE) :
      TokenChange replaces places t (t.destroy handle)

/-- Any number of such changes. -/
def Changes (replaces : Bool) (places : List Place) : Token → Token → Prop :=
  Relation.ReflTransGen (TokenChange replaces places)

variable {replaces : Bool} {places : List Place} {t t' : Token}

theorem Changes.mono {places' : List Place} (h : Changes replaces places t t')
    (hsub : places ⊆ places') : Changes replaces places' t t' := by
  induction h with
  | refl => exact Relation.ReflTransGen.refl
  | tail _ hchange ih =>
      refine ih.tail ?_
      cases hchange with
      | create hplace => exact .create _ (hsub hplace)
      | destroy hhandle =>
          exact .destroy _ (fun o ho heq => ⟨hsub (hhandle o ho heq).1, (hhandle o ho heq).2⟩)

/-- Objects with other handles stay. -/
theorem under_destroy_kept {handle : Nat} {label : Label} {objectClass : ObjectClass}
    (h : ∀ o ∈ t.under label objectClass, o.handle ≠ handle) :
    (t.destroy handle).under label objectClass = t.under label objectClass := by
  rw [Token.under_destroy, List.filter_eq_self]
  exact fun o ho => bne_iff_ne.mpr (h o ho)

/-- Other places keep their objects. -/
theorem changes_other (h : Changes replaces places t t') {place : Place} (hplace : place ∉ places) :
    t'.under place.1 place.2 = t.under place.1 place.2 := by
  induction h with
  | refl => rfl
  | @tail t1 _ _ hchange ih =>
      rw [← ih]
      cases hchange with
      | create hcreate =>
          exact t1.under_create_other replaces _ (fun heq => hplace (heq ▸ hcreate))
      | destroy hdestroy =>
          refine under_destroy_kept (fun o ho heq => hplace ?_)
          rw [Token.mem_under] at ho
          have hwhere := (hdestroy o ho.1 heq).1
          unfold Template.place at hwhere
          rwa [ho.2.1, ho.2.2] at hwhere

/-- No private key is lost where several may be under one label. -/
theorem changes_keys (h : Changes false places t t') (label : Label) :
    t.under label .CKO_PRIVATE_KEY <+: t'.under label .CKO_PRIVATE_KEY := by
  induction h with
  | refl => exact List.prefix_refl _
  | @tail t1 _ _ hchange ih =>
      refine ih.trans ?_
      cases hchange with
      | @create template _ =>
          by_cases hsame : (label, ObjectClass.CKO_PRIVATE_KEY) = template.place
          · -- the new key is behind those that were there
            have hunder : (t1.create false template).under template.place.1 template.place.2 =
                t1.under template.place.1 template.place.2 ++ [t1.created template] :=
              t1.under_create false template
            rw [← hsame] at hunder
            rw [hunder]
            exact List.prefix_append _ _
          · have hother := t1.under_create_other false template hsame
            exact hother.symm ▸ List.prefix_refl _
      | @destroy handle hdestroy =>
          -- a private key is not destroyed
          have hkept : ∀ o ∈ t1.under label .CKO_PRIVATE_KEY, o.handle ≠ handle := by
            intro o ho heq
            rw [Token.mem_under] at ho
            have hclass := (hdestroy o ho.1 heq).2
            rw [ho.2.2] at hclass
            cases hclass
          exact (under_destroy_kept hkept).symm ▸ List.prefix_refl _

/-! ### The imports -/

section Programs

variable {E : External}

/-- The token has changed at these places only. -/
def ChangedAt (E : External) (places : List Place) (t : Token) (w : World) : Prop :=
  Changes E.replaces places t w.token

theorem changedAt_asked {w w' : World} (h : ChangedAt E places t w) (hasked : Asked w w') :
    ChangedAt E places t w' := by
  rcases hasked with ⟨n, rfl⟩
  exact h

theorem changedAt_created {w w' : World} (h : ChangedAt E places t w) {template : Template}
    (hcreated : Created E template w w') (hplace : template.place ∈ places) :
    ChangedAt E places t w' :=
  changedAt_asked (Relation.ReflTransGen.tail h (.create _ hplace)) hcreated

/-- Destroying what was found under a label. -/
theorem changedAt_destroyed {w w' : World} {label : Label} (h : ChangedAt E places t w)
    (hplace : (label, ObjectClass.CKO_CERTIFICATE) ∈ places)
    (hdestroyed : Destroyed label .CKO_CERTIFICATE w w') : ChangedAt E places t w' := by
  rcases hdestroyed with ⟨handles, hasked, hunder⟩
  refine changedAt_asked ?_ hasked
  clear hasked
  induction handles using List.reverseRecOn with
  | nil => exact h
  | append_singleton handles handle ih =>
      rw [destroyAll_concat]
      refine Relation.ReflTransGen.tail
        (ih (fun other hother => hunder other (List.mem_append_left _ hother)))
        (.destroy _ (fun o ho heq => ?_))
      -- an object with this handle is the one that was found
      rcases hunder handle (List.mem_append_right _ (List.mem_singleton_self _)) with
        ⟨found, hfound, hhandle⟩
      rw [Token.mem_under] at hfound
      rw [w.token.eq_of_handle ((mem_destroyAll w handles o).mp ho).1 hfound.1
        (heq.trans hhandle.symm)]
      refine ⟨?_, hfound.2.2⟩
      unfold Template.place
      rwa [hfound.2.1, hfound.2.2]

theorem provisionPrivateKey_changes {label : Label}
    (hplace : (label, ObjectClass.CKO_PRIVATE_KEY) ∈ places) (privateKey : List UInt8) :
    Keeps (ChangedAt E places t) (provisionPrivateKey E privateKey label) := by
  intro w h
  refine (provisionPrivateKey_spec w privateKey label).apply (Asked.refl w) ?_ (fun _ hs => hs)
  rintro status w' (⟨-, hasked⟩ | ⟨value, -, -, hcreated⟩)
  · exact changedAt_asked h hasked
  · exact changedAt_created h hcreated hplace

theorem provisionCertificate_changes {label : Label}
    (hplace : (label, ObjectClass.CKO_CERTIFICATE) ∈ places) (certificate : List UInt8) :
    Keeps (ChangedAt E places t) (provisionCertificate E certificate label) := by
  intro w h
  refine (provisionCertificate_spec w certificate label).apply (Asked.refl w) ?_
    (fun w' hdestroyed => changedAt_destroyed h hplace hdestroyed)
  rintro status w' (⟨-, hdestroyed⟩ | ⟨der, w1, -, -, hdestroyed, hcreated⟩)
  · exact changedAt_destroyed h hplace hdestroyed
  · exact changedAt_created (changedAt_destroyed h hplace hdestroyed) hcreated hplace

/-! ### A start of the device -/

/-- The places of the claim credentials. -/
def claimPlaces : List Place :=
  [(.CLAIM_PRIVATE_KEY, .CKO_PRIVATE_KEY), (.CLAIM_CERTIFICATE, .CKO_CERTIFICATE)]

/-- The places of what the device is provisioned with. -/
def devicePlaces : List Place :=
  [(.DEVICE_PRIVATE_KEY_FOR_TLS, .CKO_PRIVATE_KEY), (.DEVICE_CERTIFICATE_FOR_TLS, .CKO_CERTIFICATE)]

/-- The text of the private key that is imported from this file. -/
def claimKeyText (file : File) : List UInt8 :=
  (readClaimPrivateKey file).buffer.slice 0 ((readClaimPrivateKey file).outWrittenLength + 1)

/-- The text of the certificate. -/
def claimCertText (file : File) : List UInt8 :=
  (readClaimCert file).buffer.slice 0 ((readClaimCert file).outWrittenLength + 1)

theorem boot_changes (certFile keyFile : File) :
    Keeps (ChangedAt E claimPlaces t)
      (loadClaimCredentials E certFile .CLAIM_CERTIFICATE keyFile .CLAIM_PRIVATE_KEY) := by
  refine Keeps.ite (fun _ => Keeps.pure _) (fun _ => Keeps.ite (fun _ => Keeps.pure _)
    (fun _ => Keeps.bind (provisionPrivateKey_changes (by decide) _) (fun status =>
      Keeps.ite (fun _ => Keeps.pure _) (fun _ => provisionCertificate_changes (by decide) _))))

/-- The claim credentials of these files are on the token. -/
structure Claimed (E : External) (certFile keyFile : File) (t : Token) : Prop where
  key : ∃ value, keyObject E (claimKeyText keyFile) = some value ∧
    ∃ o ∈ t.under .CLAIM_PRIVATE_KEY .CKO_PRIVATE_KEY, o.template.value = value
  certificate : ∃ der, E.convert_pem_to_der (claimCertText certFile) = some der ∧
    ∃ o ∈ t.under .CLAIM_CERTIFICATE .CKO_CERTIFICATE, o.template.value = .certificate der

theorem Claimed.kept {certFile keyFile : File} (h : Claimed E certFile keyFile t)
    (hchanges : Changes E.replaces devicePlaces t t') : Claimed E certFile keyFile t' := by
  rcases h with ⟨⟨value, hvalue, hkey⟩, der, hder, hcertificate⟩
  have hkeys := changes_other hchanges
    (by decide : (Label.CLAIM_PRIVATE_KEY, ObjectClass.CKO_PRIVATE_KEY) ∉ devicePlaces)
  have hcertificates := changes_other hchanges
    (by decide : (Label.CLAIM_CERTIFICATE, ObjectClass.CKO_CERTIFICATE) ∉ devicePlaces)
  exact ⟨⟨value, hvalue, hkeys ▸ hkey⟩, der, hder, hcertificates ▸ hcertificate⟩

/-- An object that was created last is on the token. -/
theorem created_under {w w' : World} {template : Template} (h : Created E template w w') :
    ∃ o ∈ w'.token.under template.label template.objectClass,
      o.template.value = template.value := by
  rcases h with ⟨n, rfl⟩
  exact ⟨w.token.created template,
    (w.token.mem_under_create E.replaces template).mpr (Or.inr rfl), rfl⟩

/-- A start that succeeds leaves the claim credentials on the token. -/
theorem boot_claimed {certFile keyFile : File} {w w' : World}
    (hboot : loadClaimCredentials E certFile .CLAIM_CERTIFICATE keyFile .CLAIM_PRIVATE_KEY w =
      .ok true w') : Claimed E certFile keyFile w'.token := by
  unfold loadClaimCredentials at hboot
  by_cases hcertFile : (readClaimCert certFile).status = false
  · rw [if_pos hcertFile] at hboot
    cases hboot
  · rw [if_neg hcertFile] at hboot
    by_cases hkeyFile : (readClaimPrivateKey keyFile).status = false
    · rw [if_pos hkeyFile] at hboot
      cases hboot
    · rw [if_neg hkeyFile] at hboot
      rcases bind_ok.mp hboot with ⟨status, w1, hkey, hrest⟩
      by_cases hstatus : status = false
      · rw [if_pos hstatus] at hrest
        cases hrest
      · rw [if_neg hstatus] at hrest
        rcases (provisionPrivateKey_spec (S := fun _ => True) w _ _).ok (Asked.refl w) hkey with
          ⟨hfalse, -⟩ | ⟨value, hvalue, -, hstored⟩
        · exact absurd hfalse hstatus
        rcases (provisionCertificate_spec w1 _ _).ok (Asked.refl w1) hrest with
          ⟨hfalse, -⟩ | ⟨der, w2, hder, -, -, hcreated⟩
        · cases hfalse
        -- the certificate does not change what is under the label of the key
        have hchanges : ChangedAt E [(.CLAIM_CERTIFICATE, .CKO_CERTIFICATE)] w1.token w' :=
          (provisionCertificate_changes (List.mem_singleton_self _) _).ok
            Relation.ReflTransGen.refl hrest
        have hkept := changes_other hchanges
          (by decide : (Label.CLAIM_PRIVATE_KEY, ObjectClass.CKO_PRIVATE_KEY) ∉ _)
        exact ⟨⟨value, hvalue, hkept ▸ created_under hstored⟩, der, hder, created_under hcreated⟩

/-! ### A call of the workflow -/

theorem changedAt_stable : StableSteps E (ChangedAt E places t) where
  now := fun _ _ h => h
  mqtt := fun _ _ h => h
  transport := fun _ _ _ h => h
  deliver := fun _ _ h => h
  responses := fun _ _ h => h
  connection := fun _ _ h => h

theorem step_changes (pDeviceSerialNumber : List UInt8) (s : Step) :
    Keeps (ChangedAt E devicePlaces t) (workflowStep E pDeviceSerialNumber s) := by
  by_cases hkey : s = .loadPrivateKey
  · rw [hkey]
    exact workflowStep_triple (Keeps.bind Keeps.get (fun _ =>
      provisionPrivateKey_changes (by decide) _)) (fun _ _ h => h)
  · by_cases hcertificate : s = .loadCertificate
    · rw [hcertificate]
      exact workflowStep_triple (Keeps.bind Keeps.get (fun _ =>
        provisionCertificate_changes (by decide) _)) (fun _ _ h => h)
    · -- no other step does anything to the token
      exact changedAt_stable.workflowStep pDeviceSerialNumber s (fun _ _ _ h => h)
        (fun hs => absurd hs (not_or.mpr ⟨hkey, hcertificate⟩)) (fun _ _ _ h => h)
        (fun _ _ h => h)

theorem pass_changes (pDeviceSerialNumber : List UInt8) (maxDemoLoopCount : Nat) (w : World) :
    ChangedAt E devicePlaces w.token
      (stateOf (ProvisionDevicePKCS11WithFP E pDeviceSerialNumber maxDemoLoopCount w)) := by
  refine provision_keeps (I := ChangedAt E devicePlaces w.token) (fun status => ?_)
    (fun _ h => h) maxDemoLoopCount w Relation.ReflTransGen.refl
  have hsteps : Triple (ChangedAt E devicePlaces w.token)
      (gates (workflowStep E pDeviceSerialNumber) status claimSteps)
      (Gate (ChangedAt E devicePlaces w.token) (ChangedAt E devicePlaces w.token))
      (ChangedAt E devicePlaces w.token) := by
    have hgates := Triple.gates_keeps (F := ChangedAt E devicePlaces w.token) (l := claimSteps)
      (fun s _ => step_changes pDeviceSerialNumber s) (fun _ h => h) status
    rwa [gate_self] at hgates
  refine iteration_triple (fun _ h => h) (hsteps.consequence (fun _ h => h) ?_ (fun _ h => h))
    changedAt_stable.closeConnection (step_changes pDeviceSerialNumber _)
  intro status' w' h
  rwa [gate_self] at h

end Programs

/-! ### The life -/

section Life

/-- The device, with its token and the static variables of the program. -/
structure Device where
  world : World
  /-- The program runs. -/
  running : Bool

/-- What happens to the device. -/
inductive LifeAct
  /-- It is started, and the import of the claim credentials ends with this
      status. -/
  | boot (claimCertFile claimPrivKeyFile : File) (status : Bool)
  /-- `ProvisionDevicePKCS11WithFP` is called. -/
  | pass

/-- The static variables are those of a new program. -/
def World.restarted (w : World) : World :=
  { World.initial with
    token := w.token
    now := w.now
    trace := w.trace }

variable (E : External) (pDeviceSerialNumber : List UInt8) (maxDemoLoopCount : Nat)

/-- One step of the life of a device. `main` goes on after an import that
    failed. -/
def lifeStep (d : Device) : LifeAct → Option Device
  | .boot claimCertFile claimPrivKeyFile status =>
      match loadClaimCredentials E claimCertFile .CLAIM_CERTIFICATE claimPrivKeyFile
          .CLAIM_PRIVATE_KEY d.world.restarted with
      | .ok status' w => if status' = status then some ⟨w, true⟩ else none
      | .error _ w => if status = false then some ⟨w, false⟩ else none
  | .pass =>
      if d.running = true then
        match ProvisionDevicePKCS11WithFP E pDeviceSerialNumber maxDemoLoopCount d.world with
        | .ok _ w => some ⟨w, true⟩
        | .error _ w => some ⟨w, false⟩
      else none

/-- The life of this device. -/
def deviceLife (d : Device) : System Device LifeAct where
  init := d
  step := lifeStep E pDeviceSerialNumber maxDemoLoopCount

variable {E} {pDeviceSerialNumber} {maxDemoLoopCount} {d d' : Device}

/-- What a start does. -/
theorem life_boot (pDeviceSerialNumber : List UInt8) (maxDemoLoopCount : Nat)
    {certFile keyFile : File} {status : Bool}
    (hstep : lifeStep E pDeviceSerialNumber maxDemoLoopCount d (.boot certFile keyFile status) =
      some d') :
    Changes E.replaces claimPlaces d.world.token d'.world.token ∧
      (status = true → Claimed E certFile keyFile d'.world.token) := by
  have hchanges := boot_changes (E := E) (t := d.world.token) certFile keyFile d.world.restarted
    Relation.ReflTransGen.refl
  unfold lifeStep at hstep
  simp only at hstep
  cases hboot : loadClaimCredentials E certFile .CLAIM_CERTIFICATE keyFile .CLAIM_PRIVATE_KEY
      d.world.restarted with
  | ok status' w =>
      rw [hboot] at hstep hchanges
      simp only at hstep
      by_cases hstatus : status' = status
      · rw [if_pos hstatus] at hstep
        cases hstep
        refine ⟨hchanges, fun htrue => ?_⟩
        rw [hstatus.trans htrue] at hboot
        exact boot_claimed hboot
      · rw [if_neg hstatus] at hstep
        cases hstep
  | error halt w =>
      rw [hboot] at hstep hchanges
      simp only at hstep
      by_cases hstatus : status = false
      · rw [if_pos hstatus] at hstep
        cases hstep
        exact ⟨hchanges, fun htrue => absurd (hstatus.symm.trans htrue) Bool.false_ne_true⟩
      · rw [if_neg hstatus] at hstep
        cases hstep

/-- What a call does. -/
theorem life_pass
    (hstep : lifeStep E pDeviceSerialNumber maxDemoLoopCount d .pass = some d') :
    Changes E.replaces devicePlaces d.world.token d'.world.token := by
  have hchanges := pass_changes (E := E) pDeviceSerialNumber maxDemoLoopCount d.world
  unfold lifeStep at hstep
  simp only at hstep
  by_cases hrunning : d.running = true
  · rw [if_pos hrunning] at hstep
    cases hpass : ProvisionDevicePKCS11WithFP E pDeviceSerialNumber maxDemoLoopCount d.world with
    | ok result w =>
        rw [hpass] at hstep hchanges
        cases hstep
        exact hchanges
    | error halt w =>
        rw [hpass] at hstep hchanges
        cases hstep
        exact hchanges
  · rw [if_neg hrunning] at hstep
    cases hstep

/-- Any life changes the token at these places. -/
theorem life_changes (d : Device) (acts : List LifeAct) (d' : Device)
    (hrun : (deviceLife E pDeviceSerialNumber maxDemoLoopCount d).run acts = some d') :
    Changes E.replaces (claimPlaces ++ devicePlaces) d.world.token d'.world.token := by
  refine (deviceLife E pDeviceSerialNumber maxDemoLoopCount d).run_induction
    (P := fun _ d' => Changes E.replaces (claimPlaces ++ devicePlaces) d.world.token d'.world.token)
    Relation.ReflTransGen.refl (fun _ d1 act d2 _ h hstep => h.trans ?_) acts d' hrun
  cases act with
  | boot certFile keyFile status =>
      exact (life_boot pDeviceSerialNumber maxDemoLoopCount hstep).1.mono
        (List.subset_append_left _ _)
  | pass => exact (life_pass hstep).mono (List.subset_append_right _ _)

/-- Calls alone change it at the places of the device. -/
theorem passes_changes (n : Nat) (d d' : Device)
    (hrun : (deviceLife E pDeviceSerialNumber maxDemoLoopCount d).run (List.replicate n .pass) =
      some d') :
    Changes E.replaces devicePlaces d.world.token d'.world.token := by
  induction n generalizing d' with
  | zero =>
      cases hrun
      exact Relation.ReflTransGen.refl
  | succ n ih =>
      rw [List.replicate_succ', System.run_concat] at hrun
      rcases hrun with ⟨d1, hbefore, hstep⟩
      exact (ih d1 hbefore).trans (life_pass hstep)

end Life

/-- After any life of a device, however its calls and imports ended: only objects
    at the four places have changed, no private key was lost if the module allows
    for several under one label, and if the last start imported the claim
    credentials, they are on the token. -/
theorem deviceLife_custody (E : External) (pDeviceSerialNumber : List UInt8)
    (maxDemoLoopCount : Nat) (d d' : Device) (acts : List LifeAct)
    (hrun : (deviceLife E pDeviceSerialNumber maxDemoLoopCount d).run acts = some d') :
    (∀ label objectClass, (label, objectClass) ∉ claimPlaces ++ devicePlaces →
      d'.world.token.under label objectClass = d.world.token.under label objectClass) ∧
    (E.replaces = false → ∀ label,
      d.world.token.under label .CKO_PRIVATE_KEY <+:
        d'.world.token.under label .CKO_PRIVATE_KEY) ∧
    ∀ before certFile keyFile n,
      acts = before ++ .boot certFile keyFile true :: List.replicate n .pass →
        Claimed E certFile keyFile d'.world.token := by
  have hchanges := life_changes d acts d' hrun
  refine ⟨fun label objectClass hplace => changes_other hchanges hplace,
    fun hreplaces label => changes_keys (hreplaces ▸ hchanges) label, ?_⟩
  rintro before certFile keyFile n rfl
  -- the life up to the last start, and the calls after it
  rw [List.append_cons, System.run_append, Option.bind_eq_some_iff] at hrun
  rcases hrun with ⟨d2, hbefore, hpasses⟩
  rcases (System.run_concat _ _ _ _).mp hbefore with ⟨d1, -, hstep⟩
  exact ((life_boot pDeviceSerialNumber maxDemoLoopCount hstep).2 rfl).kept
    (passes_changes n d2 d' hpasses)

/-- A file with this text. -/
def textFile (text : List UInt8) : File where
  fopen := true
  fseekEnd := true
  ftell := some text.length
  fseekSet := true
  fread := fun length => ⟨text.take length, by rw [List.length_take]; exact min_le_left _ _⟩

/-- A start of the device with these claim credentials. -/
def claimBoot : LifeAct := .boot (textFile certPem) (textFile keyPem) true

/-- The first call stops the program, and the device is started again. -/
def restartedLife : Option Device :=
  (deviceLife promptBroker (ascii "serial") 3 ⟨World.initial, false⟩).run
    [claimBoot, .pass, claimBoot, .pass]

theorem deviceLife_custody_restarted :
    ∃ d', restartedLife = some d' ∧
      Claimed promptBroker (textFile certPem) (textFile keyPem) d'.world.token := by
  have hrun : restartedLife.isSome = true := by decide +kernel
  rcases Option.isSome_iff_exists.mp hrun with ⟨d', hd'⟩
  exact ⟨d', hd', (deviceLife_custody promptBroker (ascii "serial") 3 ⟨World.initial, false⟩ d'
    [claimBoot, .pass, claimBoot, .pass] hd').2.2 [claimBoot, .pass] _ _ 1 rfl⟩

end FleetProvisioning

end ProvisioningSdk
