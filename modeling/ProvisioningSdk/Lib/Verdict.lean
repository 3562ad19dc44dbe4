import ProvisioningSdk.Lib.Effect

/-!
# Steps with an Error Code

Code that goes through its steps with one error code: each step is done only if
the code so far is the good one, and its own result is the new code
(`andThen`).

Whether such a step passes, fails or stops the program is its verdict.
`Checks` ties a program to its verdict, and to the state in which it passes.
The verdict of a sequence is the first that does not pass, so the verdict of a
long function can be put together from those of its parts, and read off
(`andThen_eq_pass`, `andThen_eq_halt`). What a failing step
leaves behind is not kept: that is for the clean-up at the end.

## Main definitions

* `andThen`: A step after others.
* `Verdict`: How a step ends.
* `Checks`: The verdict of a program.

## Theorems

* `Checks.andThen`: The verdict of a sequence.
* `andThen_eq_pass`, `andThen_eq_halt`: When it is which.
-/

namespace Effect

variable {ε σ S : Type}

/-- The second step is done only if the first returns the good code. -/
def andThen [DecidableEq S] (good : S) (m m' : EStateM ε σ S) : EStateM ε σ S := do
  let code ← m
  if code = good then m' else pure code

/-- How a step ends: with the good code, with another, or not at all. -/
inductive Verdict (ε : Type)
  | pass
  | fail
  | halt (e : ε)
  deriving DecidableEq, Repr

namespace Verdict

/-- The first verdict that is not to pass. -/
def andThen : Verdict ε → Verdict ε → Verdict ε
  | .pass, v => v
  | .fail, _ => .fail
  | .halt e, _ => .halt e

/-- A check that can only fail. -/
def check (c : Prop) [Decidable c] : Verdict ε := if c then .pass else .fail

variable {u v : Verdict ε} {c : Prop} [Decidable c] {e : ε}

@[simp] theorem andThen_eq_pass : u.andThen v = .pass ↔ u = .pass ∧ v = .pass := by
  cases u with
  | pass => exact (and_iff_right rfl).symm
  | fail => exact iff_of_false (fun h => nomatch h) (fun h => nomatch h.1)
  | halt e => exact iff_of_false (fun h => nomatch h) (fun h => nomatch h.1)

@[simp] theorem andThen_eq_halt :
    u.andThen v = .halt e ↔ u = .halt e ∨ (u = .pass ∧ v = .halt e) := by
  cases u with
  | pass =>
      exact ⟨fun h => Or.inr ⟨rfl, h⟩, fun h => h.elim (fun h => nomatch h) (fun h => h.2)⟩
  | fail =>
      exact iff_of_false (fun h => nomatch h) (fun h => h.elim (fun h => nomatch h)
        (fun h => nomatch h.1))
  | halt e' => exact ⟨Or.inl, fun h => h.elim id (fun h => nomatch h.1)⟩

@[simp] theorem check_eq_pass : (check c : Verdict ε) = .pass ↔ c := by
  unfold check
  by_cases hc : c
  · rw [if_pos hc]
    exact iff_of_true rfl hc
  · rw [if_neg hc]
    exact iff_of_false (fun h => nomatch h) hc

@[simp] theorem check_eq_halt : check c = .halt e ↔ False := by
  unfold check
  by_cases hc : c
  · rw [if_pos hc]
    exact iff_false_intro (fun h => nomatch h)
  · rw [if_neg hc]
    exact iff_false_intro (fun h => nomatch h)

end Verdict

/-- From this state the program ends as the verdict says, and if it passes, in
    the second state. -/
def Checks (good : S) (m : EStateM ε σ S) (s : σ) (v : Verdict ε) (t : σ) : Prop :=
  match v with
  | .pass => m s = .ok good t
  | .fail => ∃ code s', code ≠ good ∧ m s = .ok code s'
  | .halt e => ∃ s', m s = .error e s'

section Rules

variable {good : S} {m m' : EStateM ε σ S} {s t t' : σ} {u v : Verdict ε}

theorem Checks.pass (h : m s = .ok good t) : Checks good m s .pass t := h

theorem Checks.fail {code : S} (hcode : code ≠ good) {s' : σ} (h : m s = .ok code s') :
    Checks good m s .fail t := ⟨code, s', hcode, h⟩

/-- A step that returns the good code or fails. -/
theorem Checks.check {c : Prop} [Decidable c] (hpass : c → m s = .ok good t)
    (hfail : ¬ c → ∃ code s', code ≠ good ∧ m s = .ok code s') :
    Checks good m s (.check c) t := by
  unfold Verdict.check
  by_cases hc : c
  · rw [if_pos hc]
    exact hpass hc
  · rw [if_neg hc]
    exact hfail hc

/-- Something done before the steps. -/
theorem Checks.after {α : Type} {n : EStateM ε σ α} {rest : α → EStateM ε σ S} {a : α} {s' : σ}
    (hn : n s = .ok a s') (h : Checks good (rest a) s' v t) : Checks good (n >>= rest) s v t := by
  unfold Checks
  rwa [bind_eq, hn]

/-- A return before the rest, unless something holds. -/
theorem Checks.stop {p c : Prop} [Decidable p] [Decidable c] {code : S} (hcode : code ≠ good)
    (hp : p ↔ ¬ c) (h : p → Checks good m s v t) :
    Checks good (if c then pure code else m) s ((Verdict.check p).andThen v) t := by
  unfold Verdict.check
  by_cases hc : c
  · rw [if_pos hc, if_neg (fun h => hp.mp h hc)]
    exact Checks.fail hcode rfl
  · rw [if_neg hc, if_pos (hp.mpr hc)]
    exact h (hp.mpr hc)

/-- The verdict of a sequence. The second step is only done if the first
    passes. -/
theorem Checks.andThen [DecidableEq S] (h : Checks good m s u t)
    (h' : u = .pass → Checks good m' t v t') :
    Checks good (andThen good m m') s (u.andThen v) t' := by
  unfold Effect.andThen
  cases u with
  | pass =>
      refine Checks.after h ?_
      rw [if_pos rfl]
      exact h' rfl
  | fail =>
      rcases h with ⟨code, s', hcode, hm⟩
      exact Checks.fail hcode (bind_ok.mpr ⟨code, s', hm, by rw [if_neg hcode]; rfl⟩)
  | halt e =>
      rcases h with ⟨s', hm⟩
      exact ⟨s', by rw [bind_eq, hm]⟩

end Rules

end Effect
