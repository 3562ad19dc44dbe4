import Mathlib.Data.List.Basic

/-!
# Effectful Programs

Programs that change a state and may stop before they return. A program is a
computation of the standard `EStateM`, so a program that stops leaves a state
as well: what it did up to that point is not lost, and an invariant has to hold
there too.

`Triple` has two postconditions for that reason, one for the programs that
return and one for those that stop. Most of the time both are the same
invariant and the value returned does not matter; `Keeps` is that case, and it
passes through sequencing without any side condition. `KeepsOr` is the same with
one more postcondition that sees why the program stopped, for statements about
which of its halts can occur.

The last part is about code that carries its success in a status: each step is
done only if the status is still true, and its result is the new status
(`gates`). Such code does the steps up to the first that fails, and from a
false status it does nothing at all (`gates_false`), which is easily missed in
a loop.

## Main definitions

* `Triple`: What holds after a program, returned or stopped.
* `Keeps`: An invariant of a program.
* `KeepsOr`: An invariant of a program that may stop elsewhere.
* `gates`: Steps done while the status is true.
* `AllSucceed`, `SomeFails`: Steps that return true one after the other, and
  those of which one does not.
* `Gate`: An assertion for each status.

## Theorems

* `bind_ok`: A program in two parts returns if both do.
* `Triple.bind`, `Keeps.bind`, `KeepsOr.bind`: Sequencing.
* `Triple.forM`, `Keeps.forM`, `KeepsOr.forM`: A loop over a list.
* `gates_false`: Nothing is done from a false status.
* `gates_true_iff`, `gates_false_iff`: The status at the end.
* `Triple.gates_one`, `Triple.gates_keeps`, `Triple.gates_append`: Steps under a
  status.
-/

namespace Effect

variable {ε σ α β γ : Type}

/-! ### Programs in parts -/

theorem bind_eq (m : EStateM ε σ α) (f : α → EStateM ε σ β) (s : σ) :
    (m >>= f) s = match m s with
      | .ok a s' => f a s'
      | .error e s' => .error e s' := rfl

/-- Looking at the state leaves it as it is. -/
theorem get_bind (f : σ → EStateM ε σ β) (s : σ) : (get >>= f) s = f s s := rfl

/-- Changing the state, and going on with the changed one. -/
theorem modify_bind (g : σ → σ) (f : PUnit → EStateM ε σ β) (s : σ) :
    ((modify g : EStateM ε σ PUnit) >>= f) s = f ⟨⟩ (g s) := rfl

/-- A program in two parts returns if both do. -/
theorem bind_ok {m : EStateM ε σ α} {f : α → EStateM ε σ β} {s : σ} {b : β} {t : σ} :
    (m >>= f) s = .ok b t ↔ ∃ a s', m s = .ok a s' ∧ f a s' = .ok b t := by
  rw [bind_eq]
  cases hm : m s with
  | ok a s' =>
      constructor
      · intro h
        exact ⟨a, s', rfl, h⟩
      · rintro ⟨a', t', heq, h⟩
        cases heq
        exact h
  | error e s' =>
      constructor
      · intro h
        cases h
      · rintro ⟨a', t', heq, -⟩
        cases heq

/-! ### What holds after a program -/

/-- From a state in `P` the program returns into `Q`, or stops in `E`. -/
def Triple (P : σ → Prop) (m : EStateM ε σ α) (Q : α → σ → Prop) (E : σ → Prop) : Prop :=
  ∀ s, P s → match m s with
    | .ok a s' => Q a s'
    | .error _ s' => E s'

/-- The program keeps the invariant, wherever it ends. -/
def Keeps (I : σ → Prop) (m : EStateM ε σ α) : Prop :=
  Triple I m (fun _ => I) I

variable {P P' I E E' : σ → Prop} {Q Q' : α → σ → Prop} {m : EStateM ε σ α}

theorem Triple.ok (h : Triple P m Q E) {s s' : σ} {a : α} (hs : P s) (hm : m s = .ok a s') :
    Q a s' := by
  have := h s hs
  rwa [hm] at this

theorem Triple.error (h : Triple P m Q E) {s s' : σ} {e : ε} (hs : P s)
    (hm : m s = .error e s') : E s' := by
  have := h s hs
  rwa [hm] at this

/-- The rule of consequence. -/
theorem Triple.consequence (h : Triple P m Q E) (hP : ∀ s, P' s → P s)
    (hQ : ∀ a s, Q a s → Q' a s) (hE : ∀ s, E s → E' s) : Triple P' m Q' E' := by
  intro s hs
  have := h s (hP s hs)
  cases hm : m s with
  | ok a s' =>
      rw [hm] at this
      exact hQ a s' this
  | error e s' =>
      rw [hm] at this
      exact hE s' this

/-- What holds after a program that is started in this state. -/
theorem Triple.apply (h : Triple P m Q E) {s : σ} (hs : P s) (hQ : ∀ a s', Q a s' → Q' a s')
    (hE : ∀ s', E s' → E' s') : match m s with
      | .ok a s' => Q' a s'
      | .error _ s' => E' s' :=
  h.consequence (fun _ h => h) hQ hE s hs

theorem Triple.pure {a : α} (h : ∀ s, P s → Q a s) : Triple P (pure a : EStateM ε σ α) Q E :=
  fun s hs => h s hs

theorem Triple.get_bind {f : σ → EStateM ε σ α}
    (h : ∀ s, P s → match f s s with
      | .ok a s' => Q a s'
      | .error _ s' => E s') : Triple P (get >>= f) Q E :=
  fun s hs => h s hs

theorem Triple.modify {g : σ → σ} {R : σ → Prop} (h : ∀ s, P s → R (g s)) :
    Triple P (modify g : EStateM ε σ PUnit) (fun _ => R) E :=
  fun s hs => h s hs

theorem Triple.throw {e : ε} (h : ∀ s, P s → E s) : Triple P (throw e : EStateM ε σ α) Q E :=
  fun s hs => h s hs

/-- Sequencing. -/
theorem Triple.bind {f : α → EStateM ε σ β} {R : β → σ → Prop} (hm : Triple P m Q E)
    (hf : ∀ a, Triple (Q a) (f a) R E) : Triple P (m >>= f) R E := by
  intro s hs
  have h := hm s hs
  rw [bind_eq]
  cases hms : m s with
  | ok a s' =>
      rw [hms] at h
      exact hf a s' h
  | error e s' =>
      rw [hms] at h
      exact h

theorem Triple.ite {c : Prop} [Decidable c] {m' : EStateM ε σ α}
    (ht : c → Triple P m Q E) (hf : ¬ c → Triple P m' Q E) :
    Triple P (if c then m else m') Q E := by
  by_cases hc : c
  · rw [if_pos hc]
    exact ht hc
  · rw [if_neg hc]
    exact hf hc

/-- What does not depend on the state stays as it is. -/
theorem Triple.pure_and (h : Triple P m Q E) (p : Prop) :
    Triple (fun s => p ∧ P s) m (fun a s => p ∧ Q a s) (fun s => p ∧ E s) := by
  intro s hs
  have hres := h s hs.2
  cases hm : m s with
  | ok a s' =>
      rw [hm] at hres
      exact ⟨hs.1, hres⟩
  | error e s' =>
      rw [hm] at hres
      exact ⟨hs.1, hres⟩

theorem Keeps.pure (a : α) : Keeps I (pure a : EStateM ε σ α) := Triple.pure (fun _ hs => hs)

theorem Keeps.get : Keeps I (get : EStateM ε σ σ) := fun _ hs => hs

theorem Keeps.throw (e : ε) : Keeps I (throw e : EStateM ε σ α) := Triple.throw (fun _ hs => hs)

theorem Keeps.modify {g : σ → σ} (h : ∀ s, I s → I (g s)) :
    Keeps I (modify g : EStateM ε σ PUnit) := Triple.modify h

theorem Keeps.bind {f : α → EStateM ε σ β} (hm : Keeps I m) (hf : ∀ a, Keeps I (f a)) :
    Keeps I (m >>= f) := Triple.bind hm hf

theorem Keeps.ite {c : Prop} [Decidable c] {m' : EStateM ε σ α} (ht : c → Keeps I m)
    (hf : ¬ c → Keeps I m') : Keeps I (if c then m else m') := Triple.ite ht hf

/-- A loop over a list keeps what each of its steps keeps, as long as none of
    them stops. -/
theorem Triple.forM {f : α → EStateM ε σ PUnit} (h : ∀ a, Triple I (f a) (fun _ => I) E)
    (l : List α) : Triple I (l.forM f) (fun _ => I) E := by
  induction l with
  | nil => exact Triple.pure (fun _ hs => hs)
  | cons a l ih => exact Triple.bind (h a) (fun _ => ih)

theorem Keeps.forM {f : α → EStateM ε σ PUnit} (h : ∀ a, Keeps I (f a)) (l : List α) :
    Keeps I (l.forM f) := Triple.forM h l

/-- The program returns into the invariant, or stops as the second assertion
    says of its halt. -/
def KeepsOr (I : σ → Prop) (F : ε → σ → Prop) (m : EStateM ε σ α) : Prop :=
  ∀ s, I s → match m s with
    | .ok _ s' => I s'
    | .error e s' => F e s'

variable {F : ε → σ → Prop}

theorem KeepsOr.ok (h : KeepsOr I F m) {s s' : σ} {a : α} (hs : I s) (hm : m s = .ok a s') :
    I s' := by
  have := h s hs
  rwa [hm] at this

theorem KeepsOr.error (h : KeepsOr I F m) {s s' : σ} {e : ε} (hs : I s)
    (hm : m s = .error e s') : F e s' := by
  have := h s hs
  rwa [hm] at this

theorem KeepsOr.pure (a : α) : KeepsOr I F (pure a : EStateM ε σ α) := fun _ hs => hs

theorem KeepsOr.throw {e : ε} (h : ∀ s, I s → F e s) :
    KeepsOr I F (throw e : EStateM ε σ α) := fun s hs => h s hs

theorem KeepsOr.modify {g : σ → σ} (h : ∀ s, I s → I (g s)) :
    KeepsOr I F (modify g : EStateM ε σ PUnit) := fun s hs => h s hs

theorem KeepsOr.get_bind {f : σ → EStateM ε σ α} (h : ∀ s, KeepsOr I F (f s)) :
    KeepsOr I F (get >>= f) := fun s hs => h s s hs

theorem KeepsOr.bind {f : α → EStateM ε σ β} (hm : KeepsOr I F m)
    (hf : ∀ a, KeepsOr I F (f a)) : KeepsOr I F (m >>= f) := by
  intro s hs
  have h := hm s hs
  rw [bind_eq]
  cases hms : m s with
  | ok a s' =>
      rw [hms] at h
      exact hf a s' h
  | error e s' =>
      rw [hms] at h
      exact h

theorem KeepsOr.ite {c : Prop} [Decidable c] {m' : EStateM ε σ α} (ht : c → KeepsOr I F m)
    (hf : ¬ c → KeepsOr I F m') : KeepsOr I F (if c then m else m') := by
  by_cases hc : c
  · rw [if_pos hc]
    exact ht hc
  · rw [if_neg hc]
    exact hf hc

theorem KeepsOr.forM {f : α → EStateM ε σ PUnit} (h : ∀ a, KeepsOr I F (f a)) (l : List α) :
    KeepsOr I F (l.forM f) := by
  induction l with
  | nil => exact KeepsOr.pure _
  | cons a l ih => exact KeepsOr.bind (h a) (fun _ => ih)

/-! ### Steps under a status -/

/-- Each step is done if the status is true, and its result is the new
    status. -/
def gates (step : α → EStateM ε σ Bool) (status : Bool) (l : List α) : EStateM ε σ Bool :=
  l.foldlM (fun status a => if status then step a else pure false) status

/-- The steps return true one after the other, and end in this state. -/
def AllSucceed (step : α → EStateM ε σ Bool) : List α → σ → σ → Prop
  | [], s, t => s = t
  | a :: l, s, t => ∃ s', step a s = .ok true s' ∧ AllSucceed step l s' t

/-- Some step returns false, after others that returned true. -/
def SomeFails (step : α → EStateM ε σ Bool) : List α → σ → σ → Prop
  | [], _, _ => False
  | a :: l, s, t => step a s = .ok false t ∨ ∃ s', step a s = .ok true s' ∧ SomeFails step l s' t

variable {step : α → EStateM ε σ Bool}

/-- Nothing is done from a false status. -/
theorem gates_false (l : List α) (s : σ) : gates step false l s = .ok false s := by
  induction l with
  | nil => rfl
  | cons a l ih => exact ih

theorem gates_cons (a : α) (l : List α) :
    gates step true (a :: l) = step a >>= fun status => gates step status l := rfl

/-- The status is true at the end if all steps succeed. -/
theorem gates_true_iff (l : List α) (s t : σ) :
    gates step true l s = .ok true t ↔ AllSucceed step l s t := by
  induction l generalizing s with
  | nil =>
      constructor
      · intro h
        cases h
        rfl
      · intro h
        cases h
        rfl
  | cons a l ih =>
      rw [gates_cons, bind_ok]
      constructor
      · rintro ⟨status, s', hstep, hrest⟩
        cases status with
        | false =>
            -- a step that fails leaves a false status to the end
            rw [gates_false] at hrest
            cases hrest
        | true => exact ⟨s', hstep, (ih s').mp hrest⟩
      · rintro ⟨s', hstep, hrest⟩
        exact ⟨true, s', hstep, (ih s').mpr hrest⟩

/-- The status is false at the end if some step fails. -/
theorem gates_false_iff (l : List α) (s t : σ) :
    gates step true l s = .ok false t ↔ SomeFails step l s t := by
  induction l generalizing s with
  | nil =>
      constructor
      · intro h
        cases h
      · intro h
        exact h.elim
  | cons a l ih =>
      rw [gates_cons, bind_ok]
      constructor
      · rintro ⟨status, s', hstep, hrest⟩
        cases status with
        | false =>
            rw [gates_false] at hrest
            cases hrest
            exact Or.inl hstep
        | true => exact Or.inr ⟨s', hstep, (ih s').mp hrest⟩
      · rintro (hstep | ⟨s', hstep, hrest⟩)
        · exact ⟨false, t, hstep, gates_false l t⟩
        · exact ⟨true, s', hstep, (ih s').mpr hrest⟩

/-- An assertion for each status. -/
def Gate (P F : σ → Prop) (status : Bool) (s : σ) : Prop := if status = true then P s else F s

/-- The same assertion for both. -/
theorem gate_self (P : σ → Prop) (status : Bool) : Gate P P status = P := by
  funext s
  unfold Gate
  rw [ite_self]

/-- One step. -/
theorem Triple.gates_one {F : σ → Prop} {Q : σ → Prop} {a : α}
    (h : Triple P (step a) (Gate Q F) E) (status : Bool) :
    Triple (Gate P F status) (gates step status [a]) (Gate Q F) E := by
  have hlast : gates step status [a] =
      (if status = true then step a else Pure.pure false) >>= Pure.pure := rfl
  rw [hlast]
  refine Triple.bind (Q := Gate Q F) ?_ (fun _ => Triple.pure (fun _ hs => hs))
  cases status with
  | false => exact Triple.pure (fun _ hs => hs)
  | true => exact h

/-- Steps that all keep the assertion. -/
theorem Triple.gates_keeps {F : σ → Prop} {l : List α}
    (h : ∀ a ∈ l, Triple P (step a) (fun _ => P) E) (hF : ∀ s, P s → F s) (status : Bool) :
    Triple (Gate P F status) (gates step status l) (Gate P F) E := by
  induction l generalizing status with
  | nil => exact Triple.pure (fun _ hs => hs)
  | cons a l ih =>
      -- the rest starts from whatever status the first step left
      refine Triple.bind (Q := Gate P F) ?_
        (fun status' => ih (fun b hb => h b (List.mem_cons_of_mem a hb)) status')
      cases status with
      | false => exact Triple.pure (fun _ hs => hs)
      | true =>
          refine (h a List.mem_cons_self).consequence (fun _ hs => hs) ?_ (fun _ hs => hs)
          intro status' s hs
          cases status' with
          | false => exact hF s hs
          | true => exact hs

/-- Steps and further steps. -/
theorem Triple.gates_append {J J' J'' : Bool → σ → Prop} {l l' : List α} {status : Bool}
    (h : Triple (J status) (gates step status l) J' E)
    (h' : ∀ status, Triple (J' status) (gates step status l') J'' E) :
    Triple (J status) (gates step status (l ++ l')) J'' E := by
  unfold gates
  rw [List.foldlM_append]
  exact Triple.bind h h'

end Effect
