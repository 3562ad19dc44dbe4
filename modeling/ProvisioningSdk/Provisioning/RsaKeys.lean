import ProvisioningSdk.Provisioning.Pkcs11Operations
import ProvisioningSdk.Provisioning.Workflow

/-!
# Importing RSA Keys

Whether `provisionPrivateRSAKey` stores the key it was given.

A component is exported into a buffer with one byte more than will be stored,
and the first byte is left away, to remove the zero that pads it. mbedTLS fails
for a component that does not fit the buffer (`External.WritesBigEndian`). It does
not fail for one that fills it, and of such a component the most significant byte is lost. The check
is one byte too generous, so the import is exact unless some component has
exactly one byte more than is stored (`rsaImport_exact_iff`).

## Main definitions

* `External.WritesBigEndian`: What mbedTLS documents of writing a number.
* `components`: The components of a key, with the lengths that are stored.
* `ExactAttributes`: The attributes are the components.
* `RsaImport`: The import fails, or stores the key.
* `Importable`: No call fails, and every component fits its buffer.

## Theorems

* `ofBe_exportComponent`: What is stored of a component.
* `rsaAttributes_eq`: What is stored of a key.
* `provisionPrivateRSAKey_cases`: What the import does.
* `rsaImport_exact_iff`: When the import is exact.
-/

namespace ProvisioningSdk

namespace FleetProvisioning

open Effect Bytes
open Cbor (be ofBe ofBe_reverse)

/-! ### One component -/

theorem ofBe_be_mod (k n : Nat) : ofBe (be k n) = n % 256 ^ k := by
  rw [be, ofBe_reverse, ofLe_leBytes_mod]

/-- Without the first byte there are the low bytes. -/
theorem drop_be (k n : Nat) : (be (k + 1) n).drop 1 = be k n := by
  rw [be, leBytes_concat, List.reverse_append]
  rfl

/-- mbedTLS writes a number big-endian, padded with zeros on the left, and fails if
    it does not fit. -/
def External.WritesBigEndian (E : External) : Prop :=
  ∀ x length, E.mbedtls_mpi_write_binary x length =
    if x < 256 ^ length then some (be length x) else none

/-- A component is exported if it fits the buffer, and what is used of it are its
    low bytes. -/
theorem exportComponent_eq {E : External} (hE : E.WritesBigEndian) (x length : Nat) :
    exportComponent E x length =
      if x < 256 ^ (length + 1) then some (be length x) else none := by
  unfold exportComponent
  rw [hE]
  by_cases hfits : x < 256 ^ (length + 1)
  · rw [if_pos hfits, if_pos hfits, Option.map_some, drop_be]
  · rw [if_neg hfits, if_neg hfits, Option.map_none]

/-- They are the component itself if it needs no more than the length that is
    stored. -/
theorem ofBe_exportComponent (x length : Nat) : ofBe (be length x) = x ↔ x < 256 ^ length := by
  rw [ofBe_be_mod]
  constructor
  · intro h
    rw [← h]
    exact Nat.mod_lt _ (Nat.pow_pos (by decide))
  · exact Nat.mod_eq_of_lt

/-! ### The key -/

section Keys

variable (n p q d e dp dq qp : Nat)

/-- The components, each with the length of its attribute. -/
def components : List (Nat × Nat) :=
  [(n, 2048 / 8), (p, 128), (q, 128), (d, 2048 / 8), (e, 3), (dp, 128), (dq, 128), (qp, 128)]

/-- Read as big-endian integers, the attributes are the components. -/
structure ExactAttributes (a : RsaAttributes) : Prop where
  CKA_MODULUS : ofBe a.CKA_MODULUS = n
  CKA_PRIVATE_EXPONENT : ofBe a.CKA_PRIVATE_EXPONENT = d
  CKA_PUBLIC_EXPONENT : ofBe a.CKA_PUBLIC_EXPONENT = e
  CKA_PRIME_1 : ofBe a.CKA_PRIME_1 = p
  CKA_PRIME_2 : ofBe a.CKA_PRIME_2 = q
  CKA_EXPONENT_1 : ofBe a.CKA_EXPONENT_1 = dp
  CKA_EXPONENT_2 : ofBe a.CKA_EXPONENT_2 = dq
  CKA_COEFFICIENT : ofBe a.CKA_COEFFICIENT = qp

/-- Every component fits the buffer it is exported into. -/
def FitsBuffers : Prop :=
  ∀ c ∈ components n p q d e dp dq qp, c.1 < 256 ^ (c.2 + 1)

/-- Every component fits its attribute. -/
def FitsAttributes : Prop :=
  ∀ c ∈ components n p q d e dp dq qp, c.1 < 256 ^ c.2

/-- The attributes that are stored: the low bytes of each component. -/
def lowAttributes : RsaAttributes where
  CKA_MODULUS := be (2048 / 8) n
  CKA_PRIVATE_EXPONENT := be (2048 / 8) d
  CKA_PUBLIC_EXPONENT := be 3 e
  CKA_PRIME_1 := be 128 p
  CKA_PRIME_2 := be 128 q
  CKA_EXPONENT_1 := be 128 dp
  CKA_EXPONENT_2 := be 128 dq
  CKA_COEFFICIENT := be 128 qp

theorem lowAttributes_exact_iff :
    ExactAttributes n p q d e dp dq qp (lowAttributes n p q d e dp dq qp) ↔
      FitsAttributes n p q d e dp dq qp := by
  unfold FitsAttributes components lowAttributes
  simp only [List.forall_mem_cons, List.not_mem_nil, false_implies, implies_true, and_true]
  simp only [← ofBe_exportComponent]
  constructor
  · rintro ⟨hn, hd, he, hp, hq, hdp, hdq, hqp⟩
    simp only at hn hd
    exact ⟨hn, hp, hq, hd, he, hdp, hdq, hqp⟩
  · rintro ⟨hn, hp, hq, hd, he, hdp, hdq, hqp⟩
    constructor
    all_goals simp only
    exacts [hn, hd, he, hp, hq, hdp, hdq, hqp]

/-- A key is exported if every component fits its buffer. -/
theorem rsaAttributes_eq {E : External} (hE : E.WritesBigEndian) (a : RsaAttributes) :
    rsaAttributes E n p q d e dp dq qp = some a ↔
      FitsBuffers n p q d e dp dq qp ∧ a = lowAttributes n p q d e dp dq qp := by
  unfold rsaAttributes FitsBuffers components
  simp only [exportComponent_eq hE, Option.bind_eq_bind, Option.bind_eq_some_iff,
    Option.ite_none_right_eq_some, Option.some.injEq, Option.pure_def, List.forall_mem_cons,
    List.not_mem_nil, false_implies, implies_true, and_true]
  constructor
  · rintro ⟨_, ⟨hn, rfl⟩, _, ⟨hp, rfl⟩, _, ⟨hq, rfl⟩, _, ⟨hd, rfl⟩, _, ⟨he, rfl⟩, _, ⟨hdp, rfl⟩,
      _, ⟨hdq, rfl⟩, _, ⟨hqp, rfl⟩, rfl⟩
    exact ⟨⟨hn, hp, hq, hd, he, hdp, hdq, hqp⟩, rfl⟩
  · rintro ⟨⟨hn, hp, hq, hd, he, hdp, hdq, hqp⟩, rfl⟩
    exact ⟨_, ⟨hn, rfl⟩, _, ⟨hp, rfl⟩, _, ⟨hq, rfl⟩, _, ⟨hd, rfl⟩, _, ⟨he, rfl⟩, _, ⟨hdp, rfl⟩,
      _, ⟨hdq, rfl⟩, _, ⟨hqp, rfl⟩, rfl⟩

/-! ### The import -/

variable (E : External) (label : Label)

/-- An import returns. It fails and leaves the token as it is, or creates an
    object that has the components. -/
def RsaImport (w : World) : Prop :=
  ∃ status w', provisionPrivateRSAKey E label n p q d e dp dq qp w = .ok status w' ∧
    ((status = false ∧ w'.token = w.token) ∨
      (status = true ∧ ∃ attributes, Created E ⟨.CKO_PRIVATE_KEY, label, .rsaKey attributes⟩ w w' ∧
        ExactAttributes n p q d e dp dq qp attributes))

/-- None of the calls fails, and every component fits its buffer. -/
structure Importable (w : World) : Prop where
  functionList : E.C_GetFunctionList w.now = true
  malloc : E.malloc (w.now + 1) = true
  mbedtls : E.mbedtlsFails (w.now + 2) = false
  created : E.C_CreateObject (w.now + 3) = true
  fits : FitsBuffers n p q d e dp dq qp

/-- An import of which some call fails creates no object; any other stores the
    low bytes. -/
theorem provisionPrivateRSAKey_cases (hE : E.WritesBigEndian) (w : World) :
    (Importable n p q d e dp dq qp E w ∧
      ∃ w', provisionPrivateRSAKey E label n p q d e dp dq qp w = .ok true w' ∧
        Created E ⟨.CKO_PRIVATE_KEY, label, .rsaKey (lowAttributes n p q d e dp dq qp)⟩ w w') ∨
    (¬ Importable n p q d e dp dq qp E w ∧
      ∃ w', provisionPrivateRSAKey E label n p q d e dp dq qp w = .ok false w' ∧ Asked w w') := by
  unfold provisionPrivateRSAKey
  rw [ask_bind]
  -- the calls are gone through in order, and each failure ends the function
  cases hlist : E.C_GetFunctionList w.now with
  | false =>
      refine Or.inr ⟨fun h => ?_, _, rfl, _, rfl⟩
      rw [h.functionList] at hlist
      cases hlist
  | true =>
  rw [if_neg (by decide), ask_bind]
  cases hmalloc : E.malloc (w.now + 1) with
  | false =>
      refine Or.inr ⟨fun h => ?_, _, rfl, _, rfl⟩
      rw [h.malloc] at hmalloc
      cases hmalloc
  | true =>
  rw [if_neg (by decide), ask_bind]
  cases hmbed : E.mbedtlsFails (w.now + 2) with
  | true =>
      refine Or.inr ⟨fun h => ?_, _, rfl, _, rfl⟩
      rw [h.mbedtls] at hmbed
      cases hmbed
  | false =>
  rw [if_neg (by decide)]
  -- the components, which fail together
  cases hattributes : rsaAttributes E n p q d e dp dq qp with
  | none =>
      refine Or.inr ⟨fun h => ?_, _, rfl, _, rfl⟩
      rw [(rsaAttributes_eq n p q d e dp dq qp hE _).mpr ⟨h.fits, rfl⟩] at hattributes
      cases hattributes
  | some attributes =>
  rcases (rsaAttributes_eq n p q d e dp dq qp hE attributes).mp hattributes with ⟨hfits, rfl⟩
  -- the object is the last thing that can fail
  simp only [createObject]
  rw [ask_bind]
  cases hcreated : E.C_CreateObject (w.now + 3) with
  | false =>
      refine Or.inr ⟨fun h => ?_, _, rfl, _, rfl⟩
      rw [h.created] at hcreated
      cases hcreated
  | true => exact Or.inl ⟨⟨hlist, hmalloc, hmbed, hcreated, hfits⟩, _, rfl, _, rfl⟩

end Keys

/-- The import is exact unless it is carried out for a key of which some component
    does not fit its attribute. -/
theorem rsaImport_exact_iff (E : External) (hE : E.WritesBigEndian) (label : Label)
    (n p q d e dp dq qp : Nat) (w : World) :
    RsaImport n p q d e dp dq qp E label w ↔
      (Importable n p q d e dp dq qp E w → FitsAttributes n p q d e dp dq qp) := by
  rcases provisionPrivateRSAKey_cases n p q d e dp dq qp E label hE w with
    ⟨himportable, w', hrun, hcreated⟩ | ⟨hfailed, w', hrun, ⟨now, rfl⟩⟩
  · constructor
    · rintro ⟨status, w'', hrun', himport⟩ -
      rw [hrun] at hrun'
      cases hrun'
      rcases himport with ⟨hfalse, -⟩ | ⟨-, attributes, ⟨now', hcreated'⟩, hexact⟩
      · cases hfalse
      · rcases hcreated with ⟨now, rfl⟩
        -- only one object was created
        have htrace := congrArg World.trace hcreated'
        have hlast := List.append_cancel_left htrace
        cases hlast
        exact (lowAttributes_exact_iff n p q d e dp dq qp).mp hexact
    · intro hfits
      exact ⟨true, w', hrun, Or.inr ⟨rfl, _, hcreated,
        (lowAttributes_exact_iff n p q d e dp dq qp).mpr (hfits himportable)⟩⟩
  · exact ⟨fun _ himportable => absurd himportable hfailed,
      fun _ => ⟨false, _, hrun, Or.inl ⟨rfl, rfl⟩⟩⟩

theorem reliable_writesBigEndian (moments : List Nat) (calls : List (Nat × List Packet × Nat)) :
    (External.reliable moments calls).WritesBigEndian := fun _ _ => rfl

/-- A key of small components. -/
theorem rsaImport_exact_iff_small :
    RsaImport 3233 61 53 413 17 53 49 38 (External.reliable [] []) .CLAIM_PRIVATE_KEY
        World.initial ↔
      (Importable 3233 61 53 413 17 53 49 38 (External.reliable [] []) World.initial →
        FitsAttributes 3233 61 53 413 17 53 49 38) :=
  rsaImport_exact_iff _ (reliable_writesBigEndian [] []) _ _ _ _ _ _ _ _ _ _

/-- A key with a public exponent of four bytes, which is stored without the
    first. -/
theorem rsaImport_truncated :
    ¬ RsaImport 680564733841876929822888034435936028327 36893488147419103363 18446744073709551629
      240029776406119570549760986616006314163 16777259 21902996141180547029 10564854698138072707
      10189630059763371405 (External.reliable [] []) .CLAIM_PRIVATE_KEY World.initial := by
  rw [rsaImport_exact_iff _ (reliable_writesBigEndian [] [])]
  intro hexact
  -- the other components are far below their bounds
  have hshort : ∀ x length, x < 256 ^ 17 → 17 ≤ length + 1 → x < 256 ^ (length + 1) :=
    fun _ _ hx hlength => Nat.lt_of_lt_of_le hx (Nat.pow_le_pow_right (by decide) hlength)
  have hfits := hexact ⟨rfl, rfl, rfl, rfl, by
    unfold FitsBuffers components
    simp only [List.forall_mem_cons, List.not_mem_nil, false_implies, implies_true, and_true]
    refine ⟨?_, ?_, ?_, ?_, by decide, ?_, ?_, ?_⟩
    all_goals exact hshort _ _ (by decide) (by decide)⟩
  have he := hfits (16777259, 3) (by unfold components; decide)
  exact absurd he (by decide)

end FleetProvisioning

end ProvisioningSdk
