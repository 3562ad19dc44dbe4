import ProvisioningSdk.Lib.Transition
import ProvisioningSdk.Provisioning.ObjectDestruction

/-!
# Loading Credentials Again

Runs of `loadPrivateKey` and `loadCertificate`, on a token that may hold several
objects under one label and class.

Whoever connects afterwards takes an object under the label, whichever the
search finds. So an import that succeeds has to leave the object it created as
the only one. Unless the module replaces objects on its own, that is up to what
is there before the creation: `provisionCertificate` destroys what it can and
ignores how far that got, and `provisionPrivateKey` destroys nothing.

## Main definitions

* `StoresIf`: An import that creates its object under a condition.
* `KeyImported`, `CertificateImported`: When the two imports create theirs.
* `Load`: A call, with its arguments.
* `LoadsAlone`: The object that was created is the only one under its label.

## Theorems

* `Load.stores`: What a call creates, and what it leaves before that.
* `loadsAlone_iff`: When one call leaves its object alone.
* `loads_alone_iff`: When all calls of a run do.
-/

namespace ProvisioningSdk

namespace FleetProvisioning

open Effect Bytes Transition

/-! ### Creating an object -/

namespace Token

theorem under_create (t : Token) (replaces : Bool) (template : Template) :
    (t.create replaces template).under template.label template.objectClass =
      (if replaces = true then [] else t.under template.label template.objectClass) ++
        [t.created template] := by
  have hnew : [t.created template].filter
      (fun o => decide (o.Under template.label template.objectClass)) = [t.created template] :=
    List.filter_cons_of_pos (decide_eq_true ⟨rfl, rfl⟩)
  unfold create kept under
  rw [List.filter_append, hnew]
  congr 1
  cases replaces with
  | false =>
      simp only [Bool.false_and, Bool.not_false, List.filter_true, Bool.false_eq_true, if_false]
  | true =>
      rw [if_pos rfl, List.filter_filter, List.filter_eq_nil_iff]
      simp only [Bool.true_and, Bool.and_not_self, Bool.false_eq_true, not_false_eq_true,
        implies_true]

/-- Other labels and classes keep their objects. -/
theorem under_create_other (t : Token) (replaces : Bool) (template : Template)
    {other : Label × ObjectClass} (hne : other ≠ (template.label, template.objectClass)) :
    (t.create replaces template).under other.1 other.2 = t.under other.1 other.2 := by
  have hunder : ∀ o : Object, o.Under other.1 other.2 →
      ¬ o.Under template.label template.objectClass := fun o ho ho' =>
    hne (Prod.ext (ho.1.symm.trans ho'.1) (ho.2.symm.trans ho'.2))
  have hnew : [t.created template].filter (fun o => decide (o.Under other.1 other.2)) = [] :=
    List.filter_cons_of_neg (fun h => hunder _ (of_decide_eq_true h) ⟨rfl, rfl⟩)
  unfold create kept under
  rw [List.filter_append, hnew, List.append_nil, List.filter_comm, List.filter_eq_self]
  intro o ho
  rw [List.mem_filter, decide_eq_true_eq] at ho
  rw [decide_eq_false (hunder o ho.2), Bool.and_false, Bool.not_false]

/-- The object that was created is alone if there was nothing to keep. -/
theorem under_create_alone (t : Token) (replaces : Bool) (template : Template) :
    (∃ o, (t.create replaces template).under template.label template.objectClass = [o]) ↔
      replaces = true ∨ t.count (template.label, template.objectClass) = 0 := by
  rw [under_create, count_eq_zero]
  cases replaces with
  | true => exact iff_of_true ⟨_, rfl⟩ (Or.inl rfl)
  | false =>
      rw [if_neg Bool.false_ne_true, or_iff_right Bool.false_ne_true]
      constructor
      · rintro ⟨o, h⟩
        -- the list without its last object has no other
        exact (List.append_eq_singleton_iff.mp h).resolve_right
          (fun hlast => List.cons_ne_nil _ _ hlast.2) |>.1
      · intro h
        exact ⟨_, by rw [h]; rfl⟩

end Token

/-! ### Imports that create their object -/

/-- Under the condition the object is created on this token, and the import
    succeeds. Otherwise it fails. -/
def StoresIf (E : External) (imported : Prop) (objectClass : ObjectClass) (label : Label)
    (value : Option ObjectValue) (t : Token) (m : Program Bool) (w : World) : Prop :=
  (imported ∧ ∃ v w', value = some v ∧ m w = .ok true w' ∧
      w'.token = t.create E.replaces ⟨objectClass, label, v⟩) ∨
    (¬ imported ∧ ∃ w', m w = .ok false w')

/-- Every call of the import of a private key succeeds, from this moment, and
    the key can be stored. -/
def KeyImported (E : External) (privateKey : List UInt8) (now : Nat) : Prop :=
  E.mbedtlsFails now = false ∧
    match E.mbedtls_pk_parse_key privateKey with
    | some (.rsa n p q d e dp dq qp) =>
        E.C_GetFunctionList (now + 1) = true ∧ E.malloc (now + 2) = true ∧
          E.mbedtlsFails (now + 3) = false ∧ (rsaAttributes E n p q d e dp dq qp).isSome = true ∧
          E.C_CreateObject (now + 4) = true
    | some (.ec isP256 d) =>
        E.C_GetFunctionList (now + 1) = true ∧ E.malloc (now + 2) = true ∧
          (E.mbedtls_mpi_write_binary d 32).isSome = true ∧ isP256 = true ∧
          E.C_CreateObject (now + 3) = true
    | _ => False

/-- How many objects the clean-up leaves, and the moment after it. -/
def cleanUp (E : External) (objects start : Nat) : Nat × Nat :=
  if E.C_GetFunctionList start = true then leaves E objects (start + 1) else (objects, start + 1)

/-- Every call of the import of a certificate succeeds, from this moment, apart
    from those of the clean-up before it. -/
def CertificateImported (E : External) (certificate : List UInt8) (objects now : Nat) : Prop :=
  E.C_GetFunctionList now = true ∧ E.malloc (now + 1) = true ∧ E.mbedtlsFails (now + 2) = false ∧
    (E.convert_pem_to_der certificate).isSome = true ∧
    E.C_CreateObject (cleanUp E objects (now + 3)).2 = true

section Imports

variable {E : External} {p : Prop} {objectClass : ObjectClass} {label : Label}
  {value : Option ObjectValue} {t : Token} {w : World}

theorem StoresIf.nothing : StoresIf E False objectClass label value t (pure false) w :=
  Or.inr ⟨not_false, w, rfl⟩

/-- A call that has to succeed before the rest. -/
theorem StoresIf.step (outcome : Nat → Bool) {rest : Program Bool} {now : Nat}
    (hnow : w.now = now)
    (h : StoresIf E p objectClass label value t rest { w with now := w.now + 1 }) :
    StoresIf E (outcome now = true ∧ p) objectClass label value t
      (ask outcome >>= fun r => if r = false then pure false else rest) w := by
  unfold StoresIf
  rw [ask_bind, ← hnow]
  cases outcome w.now with
  | false => exact Or.inr ⟨fun hp => Bool.false_ne_true hp.1, _, rfl⟩
  | true => exact h.imp (fun h => ⟨⟨rfl, h.1⟩, h.2⟩) (fun h => ⟨fun hp => h.1 hp.2, h.2⟩)

/-- A call that must not fail before the rest. -/
theorem StoresIf.unless (fails : Nat → Bool) {rest : Program Bool} {now : Nat}
    (hnow : w.now = now)
    (h : StoresIf E p objectClass label value t rest { w with now := w.now + 1 }) :
    StoresIf E (fails now = false ∧ p) objectClass label value t
      (ask fails >>= fun r => if r = true then pure false else rest) w := by
  unfold StoresIf
  rw [ask_bind, ← hnow]
  cases fails w.now with
  | false => exact h.imp (fun h => ⟨⟨rfl, h.1⟩, h.2⟩) (fun h => ⟨fun hp => h.1 hp.2, h.2⟩)
  | true => exact Or.inr ⟨fun hp => Bool.false_ne_true hp.1.symm, _, rfl⟩

theorem StoresIf.create {v : ObjectValue} {now : Nat} (hnow : w.now = now)
    (hv : value = some v) :
    StoresIf E (E.C_CreateObject now = true) objectClass label value w.token
      (createObject E ⟨objectClass, label, v⟩) w := by
  unfold StoresIf createObject
  rw [ask_bind, ← hnow]
  cases E.C_CreateObject w.now with
  | false => exact Or.inr ⟨Bool.false_ne_true, _, rfl⟩
  | true => exact Or.inl ⟨rfl, v, _, hv, rfl, rfl⟩

/-- What is done before, whatever comes of it. -/
theorem StoresIf.after {α : Type} {m : Program α} {rest : α → Program Bool} {a : α} {w1 : World}
    (hm : m w = .ok a w1) (h : StoresIf E p objectClass label value t (rest a) w1) :
    StoresIf E p objectClass label value t (m >>= rest) w := by
  unfold StoresIf
  rwa [bind_eq, hm]

theorem StoresIf.congr {p' : Prop} {m : Program Bool}
    (h : StoresIf E p objectClass label value t m w) (hp : p' ↔ p) :
    StoresIf E p' objectClass label value t m w := by
  rwa [← propext hp] at h

theorem provisionPrivateRSAKey_stores (label : Label) (n p q d e dp dq qp : Nat) (w : World) :
    StoresIf E
      (E.C_GetFunctionList w.now = true ∧ E.malloc (w.now + 1) = true ∧
        E.mbedtlsFails (w.now + 2) = false ∧ (rsaAttributes E n p q d e dp dq qp).isSome = true ∧
        E.C_CreateObject (w.now + 3) = true)
      .CKO_PRIVATE_KEY label ((rsaAttributes E n p q d e dp dq qp).map .rsaKey) w.token
      (provisionPrivateRSAKey E label n p q d e dp dq qp) w := by
  refine StoresIf.step E.C_GetFunctionList rfl (StoresIf.step E.malloc rfl
    (StoresIf.unless E.mbedtlsFails rfl ?_))
  cases rsaAttributes E n p q d e dp dq qp with
  | none => exact StoresIf.nothing.congr (iff_of_false (fun h => nomatch h.1) not_false)
  | some attributes => exact (StoresIf.create rfl rfl).congr (and_iff_right rfl)

theorem provisionPrivateECKey_stores (label : Label) (isP256 : Bool) (d : Nat) (w : World) :
    StoresIf E
      (E.C_GetFunctionList w.now = true ∧ E.malloc (w.now + 1) = true ∧
        (E.mbedtls_mpi_write_binary d 32).isSome = true ∧ isP256 = true ∧
        E.C_CreateObject (w.now + 2) = true)
      .CKO_PRIVATE_KEY label ((E.mbedtls_mpi_write_binary d 32).map .ecKey) w.token
      (provisionPrivateECKey E label isP256 d) w := by
  refine StoresIf.step E.C_GetFunctionList rfl (StoresIf.step E.malloc rfl ?_)
  cases E.mbedtls_mpi_write_binary d 32 with
  | none => exact StoresIf.nothing.congr (iff_of_false (fun h => nomatch h.1) not_false)
  | some v =>
      cases isP256 with
      | false =>
          exact StoresIf.nothing.congr (iff_of_false (fun h => nomatch h.2.1) not_false)
      | true =>
          exact (StoresIf.create rfl rfl).congr ((and_iff_right rfl).trans (and_iff_right rfl))

theorem provisionPrivateKey_stores (privateKey : List UInt8) (label : Label) (w : World) :
    StoresIf E (KeyImported E privateKey w.now) .CKO_PRIVATE_KEY label (keyObject E privateKey)
      w.token (provisionPrivateKey E privateKey label) w := by
  refine StoresIf.unless E.mbedtlsFails rfl ?_
  unfold keyObject
  cases E.mbedtls_pk_parse_key privateKey with
  | none => exact StoresIf.nothing
  | some key =>
      cases key with
      | rsa n p q d e dp dq qp =>
          exact provisionPrivateRSAKey_stores label n p q d e dp dq qp
            { w with now := w.now + 1 }
      | ec isP256 d =>
          have h := provisionPrivateECKey_stores (E := E) label isP256 d
            { w with now := w.now + 1 }
          cases isP256 with
          | false =>
              -- for another curve nothing is stored, whatever the number is
              refine Or.inr (h.elim (fun h => absurd h.1.2.2.2.1 Bool.false_ne_true) id)
          | true => exact h
      | other => exact StoresIf.nothing

/-- The state of the token an object is created in, after a clean-up of the
    pair that left this many objects under it. -/
structure Cleaned (pair : Label × ObjectClass) (left : Nat) (t t' : Token) : Prop where
  count : t'.count pair = left
  others : ∀ other, other ≠ pair → t'.under other.1 other.2 = t.under other.1 other.2
  old : ∀ o ∈ t'.objects, o ∈ t.objects
  nextHandle : t'.nextHandle = t.nextHandle

theorem Cleaned.refl (pair : Label × ObjectClass) (t : Token) : Cleaned pair (t.count pair) t t :=
  ⟨rfl, fun _ _ => rfl, fun _ ho => ho, rfl⟩

/-- Destroying what is under one pair. -/
theorem destroyProvidedObjects_one (pair : Label × ObjectClass) (w : World) :
    ∃ result w1, destroyProvidedObjects E [pair] w = .ok result w1 ∧
      w1.now = (cleanUp E (w.token.count pair) w.now).2 ∧
      Cleaned pair (cleanUp E (w.token.count pair) w.now).1 w.token w1.token := by
  rw [destroyProvidedObjects_eq]
  unfold cleanUp
  by_cases hlist : E.C_GetFunctionList w.now = true
  · rw [if_pos hlist, if_pos hlist]
    rcases destroyFound_sweeps (E := E) pair _ { w with now := w.now + 1 } (Nat.lt_succ_self _)
      with ⟨result, w1, hrun, hs⟩
    exact ⟨result, w1, bind_ok.mpr ⟨_, _, rfl, bind_ok.mpr ⟨result, w1, hrun, rfl⟩⟩, hs.now,
      hs.left, hs.others, hs.old, hs.nextHandle⟩
  · rw [if_neg hlist, if_neg hlist]
    exact ⟨false, _, rfl, rfl, Cleaned.refl pair w.token⟩

theorem provisionCertificate_stores (certificate : List UInt8) (label : Label) (w : World) :
    ∃ t, Cleaned (label, .CKO_CERTIFICATE)
        (cleanUp E (w.token.count (label, .CKO_CERTIFICATE)) (w.now + 3)).1 w.token t ∧
      StoresIf E
        (CertificateImported E certificate (w.token.count (label, .CKO_CERTIFICATE)) w.now)
        .CKO_CERTIFICATE label ((E.convert_pem_to_der certificate).map .certificate) t
        (provisionCertificate E certificate label) w := by
  rcases destroyProvidedObjects_one (E := E) (label, .CKO_CERTIFICATE) { w with now := w.now + 3 }
    with ⟨result, w1, hrun, hnow, hcleaned⟩
  refine ⟨w1.token, hcleaned, StoresIf.step E.C_GetFunctionList rfl (StoresIf.step E.malloc rfl
    (StoresIf.unless E.mbedtlsFails rfl ?_))⟩
  cases E.convert_pem_to_der certificate with
  | none => exact StoresIf.nothing.congr (iff_of_false (fun h => nomatch h.1) not_false)
  | some der =>
      -- the object is created in the state the clean-up left
      exact StoresIf.after hrun ((StoresIf.create hnow rfl).congr (and_iff_right rfl))

end Imports

/-! ### Runs -/

/-- A call of one of the two functions. -/
inductive Load
  | loadPrivateKey (pPrivateKey : Memory) (pLabel : Label) (privateKeyLength : Nat)
  | loadCertificate (pCertificate : Memory) (pLabel : Label) (certificateLength : Nat)

namespace Load

/-- What the object is found under. -/
def pair : Load → Label × ObjectClass
  | .loadPrivateKey _ pLabel _ => (pLabel, .CKO_PRIVATE_KEY)
  | .loadCertificate _ pLabel _ => (pLabel, .CKO_CERTIFICATE)

variable (E : External)

def program : Load → Program Bool
  | .loadPrivateKey pPrivateKey pLabel privateKeyLength =>
      FleetProvisioning.loadPrivateKey E pPrivateKey pLabel privateKeyLength
  | .loadCertificate pCertificate pLabel certificateLength =>
      FleetProvisioning.loadCertificate E pCertificate pLabel certificateLength

/-- What is stored. -/
def value : Load → Option ObjectValue
  | .loadPrivateKey pPrivateKey _ privateKeyLength =>
      keyObject E (pPrivateKey.slice 0 (privateKeyLength + 1))
  | .loadCertificate pCertificate _ certificateLength =>
      (E.convert_pem_to_der (pCertificate.slice 0 (certificateLength + 1))).map .certificate

/-- The calls outside succeed, those of a clean-up excepted. -/
def Imported (w : World) : Load → Prop
  | .loadPrivateKey pPrivateKey _ privateKeyLength =>
      KeyImported E (pPrivateKey.slice 0 (privateKeyLength + 1)) w.now
  | .loadCertificate pCertificate pLabel certificateLength =>
      CertificateImported E (pCertificate.slice 0 (certificateLength + 1))
        (w.token.count (pLabel, .CKO_CERTIFICATE)) w.now

/-- Nothing is under the label when the object is created: there was no private
    key, or there was no certificate for which the clean-up could fail. -/
def Clean (w : World) : Load → Prop
  | .loadPrivateKey _ pLabel _ => w.token.under pLabel .CKO_PRIVATE_KEY = []
  | .loadCertificate _ pLabel _ =>
      w.token.under pLabel .CKO_CERTIFICATE = [] ∨
        (E.C_GetFunctionList (w.now + 3) = true ∧
          ¬ CutShort E (w.token.count (pLabel, .CKO_CERTIFICATE)) (w.now + 4))

end Load

section Runs

variable (E : External)

def loadStep (w : World) (load : Load) : Option World :=
  match load.program E w with
  | .ok _ w' => some w'
  | .error _ _ => none

/-- The runs from this state. -/
def loadRuns (w : World) : System World Load where
  init := w
  step := loadStep E

/-- If the call succeeds, the object it stored is the only one under its label
    and class, and the other objects are as they were. -/
def LoadsAlone (w : World) (load : Load) : Prop :=
  ∀ w', load.program E w = .ok true w' →
    ∃ o value, load.value E = some value ∧ o.template = ⟨load.pair.2, load.pair.1, value⟩ ∧
      o ∉ w.token.objects ∧ w'.token.under load.pair.1 load.pair.2 = [o] ∧
      ∀ other, other ≠ load.pair → w'.token.under other.1 other.2 = w.token.under other.1 other.2

variable {E}

theorem cleanUp_eq_zero (objects start : Nat) :
    (cleanUp E objects start).1 = 0 ↔
      objects = 0 ∨ (E.C_GetFunctionList start = true ∧ ¬ CutShort E objects (start + 1)) := by
  unfold cleanUp
  by_cases hlist : E.C_GetFunctionList start = true
  · rw [if_pos hlist, leaves_eq_zero, and_iff_right hlist]
    refine ⟨Or.inr, ?_⟩
    rintro (rfl | hcut)
    · exact cutShort_zero _
    · exact hcut
  · rw [if_neg hlist]
    exact ⟨Or.inl, fun h => h.resolve_right (fun h => hlist h.1)⟩

/-- What a call creates its object in, and under which condition. -/
theorem Load.stores (load : Load) (w : World) :
    ∃ left t, Cleaned load.pair left w.token t ∧ (left = 0 ↔ load.Clean E w) ∧
      StoresIf E (load.Imported E w) load.pair.2 load.pair.1 (load.value E) t (load.program E)
        w := by
  cases load with
  | loadPrivateKey pPrivateKey pLabel privateKeyLength =>
      exact ⟨_, w.token, Cleaned.refl _ w.token, Token.count_eq_zero,
        provisionPrivateKey_stores _ pLabel w⟩
  | loadCertificate pCertificate pLabel certificateLength =>
      rcases provisionCertificate_stores (E := E) (pCertificate.slice 0 (certificateLength + 1))
        pLabel w with ⟨t, hcleaned, hstores⟩
      refine ⟨_, t, hcleaned, (cleanUp_eq_zero _ _).trans ?_, hstores⟩
      rw [Token.count_eq_zero]
      rfl

/-- A call that succeeds leaves its object alone exactly if the module replaces
    objects, or none was left to keep. -/
theorem loadsAlone_iff (w : World) (load : Load) :
    LoadsAlone E w load ↔ (load.Imported E w → E.replaces = true ∨ load.Clean E w) := by
  rcases load.stores (E := E) w with ⟨left, t, hcleaned, hclean, hstores⟩
  have halone := fun value => t.under_create_alone E.replaces ⟨load.pair.2, load.pair.1, value⟩
  unfold LoadsAlone
  rw [← hclean]
  rcases hstores with ⟨himported, v, w', hv, hrun, htoken⟩ | ⟨hfails, w', hrun⟩
  · rw [forall_prop_of_true himported]
    constructor
    · intro h
      rcases h w' hrun with ⟨o, value, -, -, -, hunder, -⟩
      rw [htoken] at hunder
      rcases (halone v).mp ⟨o, hunder⟩ with hreplaces | hnone
      · exact Or.inl hreplaces
      · exact Or.inr (hcleaned.count.symm.trans hnone)
    · intro h w'' heq
      rw [hrun] at heq
      cases heq
      refine ⟨t.created ⟨load.pair.2, load.pair.1, v⟩, v, hv, rfl, ?_, ?_, ?_⟩
      · intro hmem
        -- its handle is above those of the objects that were there
        exact Nat.lt_irrefl _ (hcleaned.nextHandle ▸ w.token.fresh _ hmem)
      · rw [htoken, t.under_create E.replaces ⟨load.pair.2, load.pair.1, v⟩]
        rcases h with hreplaces | hnone
        · rw [if_pos hreplaces]
          rfl
        · rw [Token.count_eq_zero.mp (hcleaned.count.trans hnone), ite_self]
          rfl
      · intro other hother
        rw [htoken, t.under_create_other E.replaces _ hother]
        exact hcleaned.others other hother
  · refine iff_of_true (fun w'' heq => ?_) (fun himported => absurd himported hfails)
    rw [hrun] at heq
    cases heq

end Runs

/-- Every call of a run that succeeds leaves its object alone exactly if none of
    them finds another to keep. -/
theorem loads_alone_iff (E : External) (w : World) (loads : List Load) :
    (loadRuns E w).Guarded (LoadsAlone E) loads ↔
      (loadRuns E w).Guarded
        (fun w load => load.Imported E w → E.replaces = true ∨ load.Clean E w) loads := by
  have heq : LoadsAlone E =
      fun w load => load.Imported E w → E.replaces = true ∨ load.Clean E w := by
    funext w load
    exact propext (loadsAlone_iff w load)
  rw [heq]

/-- A call to load this private key as the device key. -/
def loadDeviceKey : Load :=
  .loadPrivateKey (Memory.copy (fun _ => 0) 0 (keyPem ++ [0])) .DEVICE_PRIVATE_KEY_FOR_TLS
    keyPem.length

theorem loadDeviceKey_imported (w : World) :
    loadDeviceKey.Imported (External.reliable [] []) w := by
  have htext : (Memory.copy (fun _ => 0) 0 (keyPem ++ [0])).slice 0 (keyPem.length + 1) =
      keyPem ++ [0] := by
    have hcopy := slice_copy_self (fun _ => 0) 0 (keyPem ++ [0])
    rwa [List.length_append, List.length_singleton] at hcopy
  have hparse : (External.reliable [] []).mbedtls_pk_parse_key (keyPem ++ [0]) =
      some (.ec true 1) := by
    simp only [External.reliable, if_true]
  unfold loadDeviceKey Load.Imported KeyImported
  simp only [htext, hparse]
  exact ⟨rfl, rfl, rfl, rfl, trivial, rfl⟩

/-- Loaded twice, the key is under its label twice. -/
theorem loads_alone_twice :
    ¬ (loadRuns (External.reliable [] []) World.initial).Guarded
      (LoadsAlone (External.reliable [] [])) [loadDeviceKey, loadDeviceKey] := by
  intro h
  rcases ((loadDeviceKey.stores (E := External.reliable [] []) World.initial)) with
    ⟨left, t, -, -, ⟨-, v, w1, -, hrun, htoken⟩ | ⟨hfails, -⟩⟩
  · -- the first key is there when the second is created
    have hlast := (h.2 w1 (by simp only [loadRuns, loadStep, hrun])).1
    rcases (loadsAlone_iff w1 loadDeviceKey).mp hlast (loadDeviceKey_imported w1) with
      hreplaces | hclean
    · exact Bool.false_ne_true hreplaces
    · have hunder : w1.token.under loadDeviceKey.pair.1 loadDeviceKey.pair.2 = [] := hclean
      have hreplaces : (External.reliable [] []).replaces = false := rfl
      rw [hreplaces] at htoken
      have hcreate := t.under_create false ⟨loadDeviceKey.pair.2, loadDeviceKey.pair.1, v⟩
      rw [htoken, hcreate] at hunder
      exact List.cons_ne_nil _ _ (List.append_eq_nil_iff.mp hunder).2
  · exact hfails (loadDeviceKey_imported World.initial)

end FleetProvisioning

end ProvisioningSdk
