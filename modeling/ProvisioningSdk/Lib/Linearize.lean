import ProvisioningSdk.Lib.Transition
import Mathlib.Logic.Function.Basic

/-!
# Linearizable Objects

What it means for an object shared by threads to behave as if every call took
effect at one instant.

`Sequential` describes the object a single client would see: which answers an
operation may give in a state and what the state is afterwards. `atomic` runs
that object for any number of threads. A thread calls, at some later instant
its operation is committed against the object, and later still it returns with
the answer committed. Nothing else can happen, so an execution of `atomic`
exhibits a linearization point for every call that returned, between its call
and its return, and its commits are these points in order.

A history is linearizable when some execution of `atomic` shows it. The
commits of that execution replay on the sequential object
(`run_commits`), in an order that respects real time because each commit
lies inside its call.

`refine_atomic` replaces the sequential object by a more abstract one without
touching the threads.

## Main definitions

* `Sequential`: A sequential object.
* `Event`: What a client sees, a call or a return.
* `Step`: The actions of the atomic object.
* `atomic`: The atomic object.
* `event`, `commit`: The two projections of an action.

## Theorems

* `run_commits`: The commits of an execution are a sequential execution.
* `refine_atomic`: A refinement of objects refines their atomic objects.
-/

namespace Linearize

open Transition

variable {ι Op Res σ τ : Type*}

/-- A sequential object: `apply s op res` is the state after `op` answered
    `res` in `s`, or `none` when it may not answer that. -/
structure Sequential (Op Res σ : Type*) where
  init : σ
  apply : σ → Op → Res → Option σ

/-- What a client sees: a thread calling an operation, or returning from it. -/
inductive Event (ι Op Res : Type*)
  | call (t : ι) (op : Op)
  | ret (t : ι) (op : Op) (res : Res)

/-- How far a thread has got with its call. -/
inductive Phase (Op Res : Type*)
  | idle
  | pending (op : Op)
  | done (op : Op) (res : Res)

/-- The actions of the atomic object: the client's two and the commit. -/
inductive Step (ι Op Res : Type*)
  | call (t : ι) (op : Op)
  | commit (t : ι) (op : Op) (res : Res)
  | ret (t : ι) (op : Op) (res : Res)

/-- The client's view of an action; a commit is invisible. -/
def event : Step ι Op Res → Option (Event ι Op Res)
  | .call t op => some (.call t op)
  | .commit _ _ _ => none
  | .ret t op res => some (.ret t op res)

/-- The object's view of an action; only a commit reaches it. -/
def commit : Step ι Op Res → Option (Op × Res)
  | .call _ _ => none
  | .commit _ op res => some (op, res)
  | .ret _ _ _ => none

/-- The object together with the phase of every thread. -/
structure State (ι Op Res σ : Type*) where
  obj : σ
  phase : ι → Phase Op Res

variable [DecidableEq ι]

/-- Move one thread to another phase. -/
def State.goto (s : State ι Op Res σ) (t : ι) (p : Phase Op Res) : State ι Op Res σ :=
  { s with phase := Function.update s.phase t p }

@[simp] theorem State.goto_obj (s : State ι Op Res σ) (t : ι) (p : Phase Op Res) :
    (s.goto t p).obj = s.obj := rfl

@[simp] theorem State.goto_phase (s : State ι Op Res σ) (t : ι) (p : Phase Op Res) :
    (s.goto t p).phase = Function.update s.phase t p := rfl

variable [DecidableEq Op] [DecidableEq Res]

/-- One action of the atomic object. -/
def atomicStep (S : Sequential Op Res σ) (s : State ι Op Res σ) :
    Step ι Op Res → Option (State ι Op Res σ)
  | .call t op => match s.phase t with
    | .idle => some (s.goto t (.pending op))
    | _ => none
  | .commit t op res => match s.phase t with
    | .pending op' => if op' = op then
        (S.apply s.obj op res).map (fun obj => { s.goto t (.done op res) with obj := obj })
      else none
    | _ => none
  | .ret t op res => match s.phase t with
    | .done op' res' => if op' = op ∧ res' = res then some (s.goto t .idle) else none
    | _ => none

/-- The atomic object: any number of threads, each call committed at one
    instant between its call and its return. -/
def atomic (ι : Type*) [DecidableEq ι] (S : Sequential Op Res σ) :
    System (State ι Op Res σ) (Step ι Op Res) where
  init := { obj := S.init, phase := fun _ => .idle }
  step := atomicStep S

/-- The sequential object as a transition system over its answered
    operations. -/
def Sequential.system (S : Sequential Op Res σ) : System σ (Op × Res) where
  init := S.init
  step := fun s a => S.apply s a.1 a.2

/-! ### Steps of the atomic object -/

theorem atomicStep_call (S : Sequential Op Res σ) (s : State ι Op Res σ) (t : ι) (op : Op)
    (h : s.phase t = .idle) : atomicStep S s (.call t op) = some (s.goto t (.pending op)) := by
  simp only [atomicStep, h]

theorem atomicStep_commit (S : Sequential Op Res σ) (s : State ι Op Res σ) (t : ι) (op : Op)
    (res : Res) (obj : σ) (h : s.phase t = .pending op) (ha : S.apply s.obj op res = some obj) :
    atomicStep S s (.commit t op res) = some { s.goto t (.done op res) with obj := obj } := by
  simp only [atomicStep, h, if_true, ha, Option.map_some]

theorem atomicStep_ret (S : Sequential Op Res σ) (s : State ι Op Res σ) (t : ι) (op : Op)
    (res : Res) (h : s.phase t = .done op res) :
    atomicStep S s (.ret t op res) = some (s.goto t .idle) := by
  simp only [atomicStep, h, and_self, if_true]

/-- What one action does to the object and to the phases. -/
theorem atomicStep_cases (S : Sequential Op Res σ) {s s' : State ι Op Res σ}
    {a : Step ι Op Res} (h : atomicStep S s a = some s') :
    (∃ t op, a = .call t op ∧ s.phase t = .idle ∧ s' = s.goto t (.pending op)) ∨
    (∃ t op res obj, a = .commit t op res ∧ s.phase t = .pending op ∧
      S.apply s.obj op res = some obj ∧ s' = { s.goto t (.done op res) with obj := obj }) ∨
    (∃ t op res, a = .ret t op res ∧ s.phase t = .done op res ∧ s' = s.goto t .idle) := by
  cases a with
  | call t op =>
      simp only [atomicStep] at h
      split at h
      · exact Or.inl ⟨t, op, rfl, ‹_›, (Option.some.inj h).symm⟩
      · cases h
  | commit t op res =>
      simp only [atomicStep] at h
      split at h
      · rename_i op' hphase
        split at h
        · rename_i hop
          rcases Option.map_eq_some_iff.mp h with ⟨obj, ha, hs⟩
          exact Or.inr (Or.inl ⟨t, op, res, obj, rfl, hop ▸ hphase, ha, hs.symm⟩)
        · cases h
      · cases h
  | ret t op res =>
      simp only [atomicStep] at h
      split at h
      · rename_i op' res' hphase
        split at h
        · rename_i hop
          exact Or.inr (Or.inr ⟨t, op, res, rfl, by rw [hphase, hop.1, hop.2],
            (Option.some.inj h).symm⟩)
        · cases h
      · cases h

/-- The commits of an execution, in order, are an execution of the sequential
    object ending in the same state. -/
theorem run_commits (S : Sequential Op Res σ) :
    ∀ acts s, (atomic ι S).run acts = some s →
      S.system.run (acts.filterMap commit) = some s.obj := by
  refine System.run_induction _ rfl ?_
  intro acts s a s' _ ih hs
  rw [List.filterMap_append]
  -- only a commit reaches the object, and it is entered with its answer
  rcases atomicStep_cases S hs with ⟨t, op, rfl, -, rfl⟩ | ⟨t, op, res, obj, rfl, -, ha, rfl⟩ |
    ⟨t, op, res, rfl, -, rfl⟩
  · simpa only [List.filterMap_cons, commit, List.filterMap_nil, List.append_nil,
      State.goto_obj] using ih
  · exact (System.run_concat _ _ _ _).mpr ⟨s.obj, ih, ha⟩
  · simpa only [List.filterMap_cons, commit, List.filterMap_nil, List.append_nil,
      State.goto_obj] using ih

/-! ### Refining the sequential object -/

/-- Two states with related objects and the same phases. -/
def Lift (A : σ → τ → Prop) (s : State ι Op Res σ) (t : State ι Op Res τ) : Prop :=
  A s.obj t.obj ∧ s.phase = t.phase

/-- A refinement of sequential objects refines their atomic objects, action
    for action. -/
theorem refine_atomic (S : Sequential Op Res σ) (T : Sequential Op Res τ) (A : σ → τ → Prop)
    (h0 : A S.init T.init)
    (happly : ∀ s t op res s', A s t → S.apply s op res = some s' →
      ∃ t', T.apply t op res = some t' ∧ A s' t') :
    ∀ acts s, (atomic ι S).run acts = some s →
      ∃ t, (atomic ι T).run acts = some t ∧ Lift A s t := by
  -- the threads do the same in both, and a commit is answered by the refinement
  refine System.forward_simulation _ _ _ ⟨h0, rfl⟩ ?_
  rintro s a s' t - ⟨hA, hphase⟩ hs
  rcases atomicStep_cases S hs with ⟨i, op, rfl, hi, rfl⟩ | ⟨i, op, res, obj, rfl, hi, ha, rfl⟩ |
    ⟨i, op, res, rfl, hi, rfl⟩
  · refine ⟨t.goto i (.pending op), atomicStep_call T t i op (by rw [← hphase, hi]), hA, ?_⟩
    simp only [State.goto_phase, hphase]
  · rcases happly s.obj t.obj op res obj hA ha with ⟨obj', ha', hA'⟩
    refine ⟨{ t.goto i (.done op res) with obj := obj' },
      atomicStep_commit T t i op res obj' (by rw [← hphase, hi]) ha', hA', ?_⟩
    simp only [State.goto_phase, hphase]
  · refine ⟨t.goto i .idle, atomicStep_ret T t i op res (by rw [← hphase, hi]), hA, ?_⟩
    simp only [State.goto_phase, hphase]

end Linearize
