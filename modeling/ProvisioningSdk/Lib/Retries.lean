import ProvisioningSdk.Lib.Effect

/-!
# Retries

A program that is done again after each failure, for as long as a second program
says so (`retrying`).

The loop has no bound of its own. What bounds it is the second program, which
must say no some time, and how many times it says yes is known only from its
state. So the rule for the loop has an invariant for each number of failures,
and needs from the second program that it says yes while this number is below a
bound and no at the bound. Then any fuel above the bound is enough: the rule has
no case for fuel that runs out (`retrying_ends`).

## Main definitions

* `retrying`: The loop.
* `Ends`: How a program ends, with what stopped it.

## Theorems

* `Ends.bind`: Sequencing.
* `retrying_ends`: The rule for the loop.
-/

namespace Effect

variable {ε σ α β : Type}

/-- From a state in `P` the program returns into `Q`, or stops as `F` says of
    what stopped it. -/
def Ends (P : σ → Prop) (m : EStateM ε σ α) (Q : α → σ → Prop) (F : ε → σ → Prop) : Prop :=
  ∀ s, P s → match m s with
    | .ok a s' => Q a s'
    | .error e s' => F e s'

section Rules

variable {P : σ → Prop} {m : EStateM ε σ α} {Q : α → σ → Prop} {F : ε → σ → Prop}

/-- Sequencing. -/
theorem Ends.bind {f : α → EStateM ε σ β} {R : β → σ → Prop} (hm : Ends P m Q F)
    (hf : ∀ a, Ends (Q a) (f a) R F) : Ends P (m >>= f) R F := by
  intro s hs
  have h := hm s hs
  rw [bind_eq]
  cases hms : m s with
  | ok a s' =>
      rw [hms] at h
      exact hf a s' h
  | error e s' =>
      rw [hms] at h
      exact h

theorem Ends.pure {a : α} (h : ∀ s, P s → Q a s) : Ends P (pure a : EStateM ε σ α) Q F :=
  fun s hs => h s hs

end Rules

variable (attempt again : EStateM ε σ Bool) (exhausted : ε)

/-- The first program, and after each failure once more if the second program
    says so. -/
def retrying : Nat → EStateM ε σ Bool
  | 0 => throw exhausted
  | fuel + 1 => do
      let succeeded ← attempt
      if succeeded = true then return true
      else do
        let retry ← again
        if retry = true then retrying fuel else return false

variable {attempt again} {exhausted}

/-- What holds after an attempt: one assertion for success, and one for
    failure. -/
def Either (S T : σ → Prop) : Bool → σ → Prop
  | true => S
  | false => T

/-- Before the attempt after `n` failures `I n` holds. There is another one for
    fewer than `budget` failures only, so the fuel is enough. -/
theorem retrying_ends {budget : Nat} {I S T : Nat → σ → Prop} {R : σ → Prop} {F : ε → σ → Prop}
    (hattempt : ∀ n, n ≤ budget → Ends (I n) attempt (Either (S n) (T n)) F)
    (hagain : ∀ n, n < budget → Ends (T n) again (Either (I (n + 1)) (fun _ => False)) F)
    (hlast : Ends (T budget) again (Either (fun _ => False) R) F) (fuel n : Nat)
    (hn : n ≤ budget) (hfuel : budget < n + fuel) :
    Ends (I n) (retrying attempt again exhausted fuel)
      (Either (fun s => ∃ k, k ≤ budget ∧ S k s) R) F := by
  induction fuel generalizing n with
  | zero => omega
  | succ fuel ih =>
      refine Ends.bind (hattempt n hn) (fun succeeded => ?_)
      cases succeeded with
      | true => exact Ends.pure (fun s hs => ⟨n, hn, hs⟩)
      | false =>
          by_cases hlt : n < budget
          · refine Ends.bind (hagain n hlt) (fun retry => ?_)
            cases retry with
            | true => exact ih (n + 1) hlt (by omega)
            | false => exact fun s hs => hs.elim
          · -- the last failure
            have hlimit : n = budget := by omega
            rw [hlimit]
            refine Ends.bind hlast (fun retry => ?_)
            cases retry with
            | true => exact fun s hs => hs.elim
            | false => exact Ends.pure (fun s hs => hs)

end Effect
