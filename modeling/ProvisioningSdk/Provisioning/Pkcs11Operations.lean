import Mathlib.Data.List.Induction
import ProvisioningSdk.Provisioning.World

/-!
# The PKCS #11 Operations

`pkcs11_operations.c`: importing a private key and a certificate.

Creating the object is the last thing both imports do, so an import succeeds
exactly if it created its object (`provisionPrivateKey_spec`,
`provisionCertificate_spec`). They differ in what was there before: the
certificates under the label are destroyed first, as far as that is possible,
and the private keys are not.

## Main definitions

* `destroyProvidedObjects`: Destroying what is under a list of labels.
* `provisionPrivateKey`, `provisionCertificate`: The two imports.
* `loadPrivateKey`, `loadCertificate`: The same, from a buffer.
* `keyObject`: What an imported private key is stored as.
* `Destroyed`: What destroying objects may change.

## Theorems

* `destroyProvidedObjects_spec`: Only objects under the labels are destroyed.
* `provisionPrivateKey_spec`, `provisionCertificate_spec`: The two imports.
-/

namespace ProvisioningSdk

namespace FleetProvisioning

open Effect Bytes

section Operations

variable (E : External)

/-! ### Objects -/

/-- `xFindObjectWithLabelAndClass`: whether the search succeeded, and a handle
    if there is an object. -/
def findObject (label : Label) (objectClass : ObjectClass) : Program (Bool × Option Nat) := do
  let w ← get
  let (found, pick) ← ask E.xFindObjectWithLabelAndClass
  if found = true then
    return (true, ((w.token.under label objectClass)[
      pick % (w.token.under label objectClass).length]?).map Object.handle)
  else return (false, none)

/-- `C_DestroyObject`. -/
def destroyObject (handle : Nat) : Program Bool := do
  let destroyed ← ask E.C_DestroyObject
  if destroyed = true then do
    modify (fun w => { w with token := w.token.destroy handle }.log (.destroyed handle))
    return true
  else return false

/-- `C_CreateObject`. -/
def createObject (template : Template) : Program Bool := do
  let created ← ask E.C_CreateObject
  if created = true then do
    modify (fun w =>
      { w with token := w.token.create E.replaces template }.log (.created template))
    return true
  else return false

/-- The loop of `destroyProvidedObjects` for one label and class, for at most
    this many searches. -/
def destroyFound (label : Label) (objectClass : ObjectClass) : Nat → Program Bool
  | 0 => throw .blocked
  | searches + 1 => do
      let (result, objectHandle) ← findObject E label objectClass
      match objectHandle with
      -- nothing is left to destroy, or the search failed
      | none => return result
      | some handle => do
          let destroyed ← destroyObject E handle
          if destroyed = true then destroyFound label objectClass searches else return false

/-- The loop of `destroyProvidedObjects` over the labels, from this result.
    Every search for a label but the last finds an object to destroy. -/
def destroyLabels : List (Label × ObjectClass) → Bool → Program Bool
  | [], result => return result
  | (label, objectClass) :: labels, _ => do
      let w ← get
      let result ← destroyFound E label objectClass
        ((w.token.under label objectClass).length + 1)
      destroyLabels labels result

/-- `destroyProvidedObjects`. The result is that of the last label. -/
def destroyProvidedObjects (labels : List (Label × ObjectClass)) : Program Bool := do
  let functionList ← ask E.C_GetFunctionList
  if functionList = false then return false else destroyLabels E labels true

/-! ### Private keys -/

/-- A component of an RSA key: written with a byte more than its length, and
    used without the first byte. -/
def exportComponent (x length : Nat) : Option (List UInt8) :=
  (E.mbedtls_mpi_write_binary x (length + 1)).map (List.drop 1)

/-- The attributes of an RSA key, if all components fit. -/
def rsaAttributes (n p q d e dp dq qp : Nat) : Option RsaAttributes := do
  let modulus ← exportComponent E n (2048 / 8)
  let prime1 ← exportComponent E p 128
  let prime2 ← exportComponent E q 128
  let d ← exportComponent E d (2048 / 8)
  let e ← exportComponent E e 3
  let exponent1 ← exportComponent E dp 128
  let exponent2 ← exportComponent E dq 128
  let coefficient ← exportComponent E qp 128
  return {
    CKA_MODULUS := modulus
    CKA_PRIVATE_EXPONENT := d
    CKA_PUBLIC_EXPONENT := e
    CKA_PRIME_1 := prime1
    CKA_PRIME_2 := prime2
    CKA_EXPONENT_1 := exponent1
    CKA_EXPONENT_2 := exponent2
    CKA_COEFFICIENT := coefficient }

/-- `provisionPrivateRSAKey`. -/
def provisionPrivateRSAKey (label : Label) (n p q d e dp dq qp : Nat) : Program Bool := do
  let functionList ← ask E.C_GetFunctionList
  if functionList = false then return false
  else do
    let rsaParams ← ask E.malloc
    if rsaParams = false then return false
    else do
      let mbedFails ← ask E.mbedtlsFails
      if mbedFails = true then return false
      else match rsaAttributes E n p q d e dp dq qp with
        | none => return false
        | some attributes => createObject E ⟨.CKO_PRIVATE_KEY, label, .rsaKey attributes⟩

/-- `provisionPrivateECKey`. -/
def provisionPrivateECKey (label : Label) (isP256 : Bool) (d : Nat) : Program Bool := do
  let functionList ← ask E.C_GetFunctionList
  if functionList = false then return false
  else do
    let DPtr ← ask E.malloc
    if DPtr = false then return false
    else match E.mbedtls_mpi_write_binary d 32 with
      | none => return false
      | some value =>
          -- only the parameters of this curve are known
          if isP256 = true then createObject E ⟨.CKO_PRIVATE_KEY, label, .ecKey value⟩
          else return false

/-- `provisionPrivateKey`. -/
def provisionPrivateKey (privateKey : List UInt8) (label : Label) : Program Bool := do
  let mbedFails ← ask E.mbedtlsFails
  if mbedFails = true then return false
  else match E.mbedtls_pk_parse_key privateKey with
    | none => return false
    | some (.rsa n p q d e dp dq qp) => provisionPrivateRSAKey E label n p q d e dp dq qp
    | some (.ec isP256 d) => provisionPrivateECKey E label isP256 d
    | some .other => return false

/-! ### Certificates -/

/-- `provisionCertificate`, of a certificate that is not `NULL`. -/
def provisionCertificate (certificate : List UInt8) (label : Label) : Program Bool := do
  let functionList ← ask E.C_GetFunctionList
  if functionList = false then return false
  else do
    let derObject ← ask E.malloc
    if derObject = false then return false
    else do
      let mbedFails ← ask E.mbedtlsFails
      if mbedFails = true then return false
      else match E.convert_pem_to_der certificate with
        | none => return false
        | some der => do
            -- whether the objects could be destroyed does not matter
            let _ ← destroyProvidedObjects E [(label, .CKO_CERTIFICATE)]
            createObject E ⟨.CKO_CERTIFICATE, label, .certificate der⟩

/-- `loadPrivateKey`. mbedTLS wants the byte behind the text as well. -/
def loadPrivateKey (pPrivateKey : Memory) (pLabel : Label) (privateKeyLength : Nat) :
    Program Bool :=
  provisionPrivateKey E (pPrivateKey.slice 0 (privateKeyLength + 1)) pLabel

/-- `loadCertificate`. -/
def loadCertificate (pCertificate : Memory) (pLabel : Label) (certificateLength : Nat) :
    Program Bool :=
  provisionCertificate E (pCertificate.slice 0 (certificateLength + 1)) pLabel

/-! ### What is stored -/

/-- What a private key is stored as. -/
def keyObject (privateKey : List UInt8) : Option ObjectValue :=
  match E.mbedtls_pk_parse_key privateKey with
  | some (.rsa n p q d e dp dq qp) => (rsaAttributes E n p q d e dp dq qp).map .rsaKey
  | some (.ec true d) => (E.mbedtls_mpi_write_binary d 32).map .ecKey
  | _ => none

end Operations

/-! ### What the operations change -/

/-- Only outcomes were asked for. -/
def Asked (w w' : World) : Prop := ∃ n, w' = { w with now := n }

theorem Asked.refl (w : World) : Asked w w := ⟨w.now, rfl⟩

/-- Destroy the objects with these handles, one after the other. -/
def World.destroyAll (w : World) (handles : List Nat) : World :=
  handles.foldl
    (fun w handle => { w with token := w.token.destroy handle }.log (.destroyed handle)) w

/-- Only objects under this label and class were destroyed. -/
def Destroyed (label : Label) (objectClass : ObjectClass) (w w' : World) : Prop :=
  ∃ handles, Asked (w.destroyAll handles) w' ∧
    ∀ handle ∈ handles, ∃ o ∈ w.token.under label objectClass, o.handle = handle

/-- An object was created. -/
def Created (E : External) (template : Template) (w w' : World) : Prop :=
  Asked ({ w with token := w.token.create E.replaces template }.log (.created template)) w'

section Specs

variable {E : External}

theorem Asked.ask {α : Type} (w : World) (outcome : Nat → α) {S : World → Prop} :
    Triple (Asked w) (ask outcome) (fun _ => Asked w) S := by
  rintro w' ⟨n, rfl⟩
  exact ⟨n + 1, rfl⟩

/-- An object is created, or nothing happens. -/
theorem createObject_spec (w : World) (template : Template) {S : World → Prop} :
    Triple (Asked w) (createObject E template)
      (fun created w' => if created then Created E template w w' else Asked w w') S := by
  refine Triple.bind (Asked.ask w _) (fun created => Triple.ite (fun _ => ?_) (fun _ => ?_))
  · refine Triple.bind (Triple.modify (R := Created E template w) ?_)
      (fun _ => Triple.pure (fun _ hw => hw))
    rintro w' ⟨n, rfl⟩
    exact ⟨n, rfl⟩
  · exact Triple.pure (fun _ hw => hw)

/-- An import that does no more than to create an object. -/
def Imports (w : World) (objectClass : ObjectClass) (label : Label) (E : External)
    (value : Option ObjectValue) (status : Bool) (w' : World) : Prop :=
  (status = false ∧ Asked w w') ∨
    ∃ v, value = some v ∧ status = true ∧ Created E ⟨objectClass, label, v⟩ w w'

theorem imports_of_create {w : World} {objectClass : ObjectClass} {label : Label}
    {value : Option ObjectValue} {v : ObjectValue} (hv : value = some v) {S : World → Prop} :
    Triple (Asked w) (createObject E ⟨objectClass, label, v⟩)
      (Imports w objectClass label E value) S := by
  refine (createObject_spec w _).consequence (fun _ h => h) ?_ (fun _ h => h)
  intro created w' h
  cases created with
  | false => exact Or.inl ⟨rfl, h⟩
  | true => exact Or.inr ⟨v, hv, rfl, h⟩

theorem imports_false {w : World} {objectClass : ObjectClass} {label : Label}
    {value : Option ObjectValue} {S : World → Prop} :
    Triple (Asked w) (pure false : Program Bool) (Imports w objectClass label E value) S :=
  Triple.pure (fun _ h => Or.inl ⟨rfl, h⟩)

theorem provisionPrivateRSAKey_spec (w : World) (label : Label) (n p q d e dp dq qp : Nat)
    {S : World → Prop} :
    Triple (Asked w) (provisionPrivateRSAKey E label n p q d e dp dq qp)
      (Imports w .CKO_PRIVATE_KEY label E
        ((rsaAttributes E n p q d e dp dq qp).map .rsaKey)) S := by
  refine Triple.bind (Asked.ask w _) (fun _ => Triple.ite (fun _ => imports_false) (fun _ => ?_))
  refine Triple.bind (Asked.ask w _) (fun _ => Triple.ite (fun _ => imports_false) (fun _ => ?_))
  refine Triple.bind (Asked.ask w _) (fun _ => Triple.ite (fun _ => imports_false) (fun _ => ?_))
  -- the components fit, or the export fails
  cases rsaAttributes E n p q d e dp dq qp with
  | none => exact imports_false
  | some attributes => exact imports_of_create rfl

theorem provisionPrivateECKey_spec (w : World) (label : Label) (isP256 : Bool) (d : Nat)
    {S : World → Prop} :
    Triple (Asked w) (provisionPrivateECKey E label isP256 d)
      (Imports w .CKO_PRIVATE_KEY label E
        (if isP256 then (E.mbedtls_mpi_write_binary d 32).map .ecKey else none)) S := by
  refine Triple.bind (Asked.ask w _) (fun _ => Triple.ite (fun _ => imports_false) (fun _ => ?_))
  refine Triple.bind (Asked.ask w _) (fun _ => Triple.ite (fun _ => imports_false) (fun _ => ?_))
  cases hvalue : E.mbedtls_mpi_write_binary d 32 with
  | none => exact imports_false
  | some value =>
      refine Triple.ite (fun h => imports_of_create ?_) (fun _ => imports_false)
      rw [if_pos h]
      rfl

/-- Importing a private key creates its object, or fails and does nothing. -/
theorem provisionPrivateKey_spec (w : World) (privateKey : List UInt8) (label : Label)
    {S : World → Prop} :
    Triple (Asked w) (provisionPrivateKey E privateKey label)
      (Imports w .CKO_PRIVATE_KEY label E (keyObject E privateKey)) S := by
  refine Triple.bind (Asked.ask w _) (fun _ => Triple.ite (fun _ => imports_false) (fun _ => ?_))
  unfold keyObject
  cases E.mbedtls_pk_parse_key privateKey with
  | none => exact imports_false
  | some key =>
      cases key with
      | rsa n p q d e dp dq qp => exact provisionPrivateRSAKey_spec w label n p q d e dp dq qp
      | ec isP256 d =>
          refine (provisionPrivateECKey_spec w label isP256 d).consequence (fun _ h => h) ?_
            (fun _ h => h)
          -- for another curve nothing is stored, whatever the number is
          intro status w' h
          cases isP256 with
          | false => exact h
          | true => exact h
      | other => exact imports_false

/-! ### Destroying -/

theorem destroyAll_concat (w : World) (handles : List Nat) (handle : Nat) :
    w.destroyAll (handles ++ [handle]) =
      { w.destroyAll handles with token := (w.destroyAll handles).token.destroy handle }.log
        (.destroyed handle) := by
  unfold World.destroyAll
  rw [List.foldl_append]
  rfl

/-- The objects that are left have other handles. -/
theorem mem_destroyAll (w : World) (handles : List Nat) (o : Object) :
    o ∈ (w.destroyAll handles).token.objects ↔ o ∈ w.token.objects ∧ o.handle ∉ handles := by
  induction handles using List.reverseRecOn with
  | nil => exact ⟨fun h => ⟨h, List.not_mem_nil⟩, fun h => h.1⟩
  | append_singleton handles handle ih =>
      rw [destroyAll_concat]
      simp only [World.log, Token.destroy, List.mem_filter, ih, List.mem_append, List.mem_singleton,
        not_or, bne_iff_ne, and_assoc]

theorem Destroyed.of_asked {label : Label} {objectClass : ObjectClass} {w w' : World}
    (h : Asked w w') : Destroyed label objectClass w w' :=
  ⟨[], h, fun _ hh => absurd hh List.not_mem_nil⟩

theorem Destroyed.asked {label : Label} {objectClass : ObjectClass} {w w' w'' : World}
    (h : Destroyed label objectClass w w') (h' : Asked w' w'') :
    Destroyed label objectClass w w'' := by
  rcases h with ⟨handles, ⟨n, rfl⟩, hunder⟩
  rcases h' with ⟨n', rfl⟩
  exact ⟨handles, ⟨n', rfl⟩, hunder⟩

/-- What is left under the label was there before. -/
theorem Destroyed.under {label : Label} {objectClass : ObjectClass} {w w' : World}
    (h : Destroyed label objectClass w w') {o : Object}
    (ho : o ∈ w'.token.under label objectClass) : o ∈ w.token.under label objectClass := by
  rcases h with ⟨handles, ⟨n, rfl⟩, -⟩
  have hmem := List.mem_filter.mp ho
  exact List.mem_filter.mpr ⟨((mem_destroyAll w handles o).mp hmem.1).1, hmem.2⟩

/-- One object more is destroyed. -/
theorem Destroyed.destroy {label : Label} {objectClass : ObjectClass} {w w' : World}
    (h : Destroyed label objectClass w w') {o : Object}
    (ho : o ∈ w.token.under label objectClass) :
    Destroyed label objectClass w
      ({ w' with token := w'.token.destroy o.handle }.log (.destroyed o.handle)) := by
  rcases h with ⟨handles, ⟨n, rfl⟩, hunder⟩
  refine ⟨handles ++ [o.handle], ⟨n, by rw [destroyAll_concat]; rfl⟩, ?_⟩
  intro handle hhandle
  -- the handles from before, and the one of this object
  rcases List.mem_append.mp hhandle with hold | hnew
  · exact hunder handle hold
  · exact ⟨o, ho, (List.mem_singleton.mp hnew).symm⟩

/-- A search changes nothing, and a handle that is found is one of an object
    under the label. -/
theorem findObject_ok (label : Label) (objectClass : ObjectClass) (w : World) :
    ∃ r w', findObject E label objectClass w = .ok r w' ∧ Asked w w' ∧
      ∀ handle, r.2 = some handle → ∃ o ∈ w.token.under label objectClass, o.handle = handle := by
  unfold findObject
  simp only [get_bind, ask_bind]
  by_cases hfound : (E.xFindObjectWithLabelAndClass w.now).1 = true
  · rw [if_pos hfound]
    refine ⟨_, _, rfl, ⟨_, rfl⟩, fun handle hhandle => ?_⟩
    -- the search takes its handle from a list of objects under the label
    rcases Option.map_eq_some_iff.mp hhandle with ⟨o, ho, rfl⟩
    exact ⟨o, List.mem_of_getElem? ho, rfl⟩
  · rw [if_neg hfound]
    exact ⟨_, _, rfl, ⟨_, rfl⟩, fun handle hhandle => nomatch hhandle⟩

/-- An object is destroyed, or nothing happens. -/
theorem destroyObject_ok (handle : Nat) (w : World) :
    ∃ destroyed w', destroyObject E handle w = .ok destroyed w' ∧
      Asked (if destroyed = true then
        { w with token := w.token.destroy handle }.log (.destroyed handle) else w) w' := by
  unfold destroyObject
  simp only [bind_eq, ask]
  by_cases hdestroyed : E.C_DestroyObject w.now = true
  · rw [if_pos hdestroyed]
    exact ⟨_, _, rfl, _, rfl⟩
  · rw [if_neg hdestroyed]
    exact ⟨_, _, rfl, _, rfl⟩

theorem destroyFound_spec (w : World) (label : Label) (objectClass : ObjectClass)
    (searches : Nat) :
    Keeps (Destroyed label objectClass w) (destroyFound E label objectClass searches) := by
  induction searches with
  | zero => exact Keeps.throw _
  | succ searches ih =>
      intro w0 h0
      -- one search, and one object destroyed if it finds any; then the rest
      rcases findObject_ok (E := E) label objectClass w0 with ⟨⟨result, found⟩, w1, hfind, h1, hr⟩
      unfold destroyFound
      rw [bind_eq, hfind]
      cases found with
      | none => exact h0.asked h1
      | some handle =>
          rcases hr handle rfl with ⟨o, ho, rfl⟩
          rcases destroyObject_ok (E := E) o.handle w1 with ⟨destroyed, w2, hdestroy, h2⟩
          simp only
          rw [bind_eq, hdestroy]
          cases destroyed with
          | false => exact (h0.asked h1).asked h2
          | true => exact ih w2 (((h0.asked h1).destroy (h0.under ho)).asked h2)

/-- Only objects under the label are destroyed. -/
theorem destroyProvidedObjects_spec (w : World) (label : Label) (objectClass : ObjectClass) :
    Triple (Asked w) (destroyProvidedObjects E [(label, objectClass)])
      (fun _ => Destroyed label objectClass w) (Destroyed label objectClass w) := by
  refine Triple.bind (Asked.ask w _) (fun _ => Triple.ite
    (fun _ => Triple.pure (fun _ hw => Destroyed.of_asked hw)) (fun _ => ?_))
  exact Triple.consequence (Keeps.bind Keeps.get (fun _ => Keeps.bind
    (destroyFound_spec w label objectClass _) (fun _ => Keeps.pure _)))
    (fun _ hw => Destroyed.of_asked hw) (fun _ _ h => h) (fun _ h => h)

/-- Importing a certificate destroys what was under its label and creates its
    object, or fails somewhere on the way. -/
theorem provisionCertificate_spec (w : World) (certificate : List UInt8) (label : Label) :
    Triple (Asked w) (provisionCertificate E certificate label)
      (fun status w' => (status = false ∧ Destroyed label .CKO_CERTIFICATE w w') ∨
        ∃ der w1, E.convert_pem_to_der certificate = some der ∧ status = true ∧
          Destroyed label .CKO_CERTIFICATE w w1 ∧
          Created E ⟨.CKO_CERTIFICATE, label, .certificate der⟩ w1 w')
      (Destroyed label .CKO_CERTIFICATE w) := by
  -- a failure before the certificate is converted changes nothing
  have hfails : Triple (Asked w) (pure false : Program Bool)
      (fun status w' => (status = false ∧ Destroyed label .CKO_CERTIFICATE w w') ∨
        ∃ der w1, E.convert_pem_to_der certificate = some der ∧ status = true ∧
          Destroyed label .CKO_CERTIFICATE w w1 ∧
          Created E ⟨.CKO_CERTIFICATE, label, .certificate der⟩ w1 w')
      (Destroyed label .CKO_CERTIFICATE w) :=
    Triple.pure (fun _ hw => Or.inl ⟨rfl, Destroyed.of_asked hw⟩)
  refine Triple.bind (Asked.ask w _) (fun _ => Triple.ite (fun _ => hfails) (fun _ => ?_))
  refine Triple.bind (Asked.ask w _) (fun _ => Triple.ite (fun _ => hfails) (fun _ => ?_))
  refine Triple.bind (Asked.ask w _) (fun _ => Triple.ite (fun _ => hfails) (fun _ => ?_))
  cases hder : E.convert_pem_to_der certificate with
  | none => exact Triple.pure (fun _ hw => Or.inl ⟨rfl, Destroyed.of_asked hw⟩)
  | some der =>
      refine Triple.bind (destroyProvidedObjects_spec w label .CKO_CERTIFICATE) (fun _ => ?_)
      -- the object is created in the state that destroying left
      intro w1 hw1
      refine (createObject_spec (E := E) w1 ⟨.CKO_CERTIFICATE, label, .certificate der⟩
        (S := Destroyed label .CKO_CERTIFICATE w)).apply (Asked.refl w1) ?_ (fun _ h => h)
      intro created w' hcreate
      cases created with
      | false => exact Or.inl ⟨rfl, hw1.asked hcreate⟩
      | true => exact Or.inr ⟨der, w1, rfl, rfl, hw1, hcreate⟩

theorem Token.under_destroy (t : Token) (handle : Nat) (label : Label)
    (objectClass : ObjectClass) :
    (t.destroy handle).under label objectClass =
      (t.under label objectClass).filter (fun o => o.handle != handle) := by
  unfold destroy under
  rw [List.filter_comm]

/-- One object less is under the label of an object that is destroyed. -/
theorem Token.length_under_destroy (t : Token) {label : Label} {objectClass : ObjectClass}
    {o : Object} (h : o ∈ t.under label objectClass) :
    ((t.destroy o.handle).under label objectClass).length + 1 =
      (t.under label objectClass).length := by
  have hnodup : ((t.under label objectClass).map Object.handle).Nodup :=
    t.nodup.sublist (List.filter_sublist.map _)
  -- the handle is that of one object under the label
  have hone := List.count_eq_one_of_mem hnodup (List.mem_map_of_mem h)
  rw [under_destroy, List.length_eq_countP_add_countP (fun o' => o'.handle != o.handle)
    (l := t.under label objectClass), ← List.countP_eq_length_filter]
  rw [List.count_eq_countP, List.countP_map] at hone
  rw [← hone]
  congr 2
  funext o'
  simp only [Function.comp_apply, bne, Bool.not_eq_true, Bool.not_eq_false', Bool.decide_eq_true]

end Specs

end FleetProvisioning

end ProvisioningSdk
