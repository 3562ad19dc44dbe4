import Mathlib.Data.List.Induction

/-!
# Transition Systems

Systems given by a guarded step function, and the two proof rules the rest of
the development uses on them.

A step function answers `none` when the action is not enabled, so one
definition serves both to replay a concrete schedule and to quantify over all
of them. An execution is a list of actions the system accepts from its initial
state; nothing else is recorded. What a client can see of an execution is a
projection of that list, which is why an action carries every value its
observation shows: the projection then needs no state.

`run_induction` is the invariant rule. `backward_simulation` relates two
systems from the end of an execution to its start. The direction matters for
operations that are allowed to give up. Whether a blocked operation will time
out is not known when it blocks, while the abstract system has to decide there
that it failed; reading the execution from its end, the decision is already
made.

## Main definitions

* `System`: An initial state and a guarded step function.
* `System.run`: Replaying a list of actions from the initial state.
* `System.Reachable`: The states some execution ends in.
* `System.Guarded`: A condition on every step of an execution.

## Theorems

* `run_append`: Splitting a replay at an intermediate state.
* `run_concat`: The last step of a replay.
* `run_induction`: A step-preserved property holds at the end of every replay.
* `reachable_induction`: The same, for reachable states.
* `guarded_induction`: The same, for executions with a condition on their steps.
* `guarded_concat`: The condition on an execution and its last step.
* `guarded_of_guarded`: One condition on steps from another, by an invariant.
* `guarded_congr`: Two conditions that agree on the steps of executions.
* `guarded_iff_of_reachable`: Two conditions that agree in reachable states.
* `reachable_map`: A change of the states that commutes with the steps.
* `run_part`: What a part of a system sees is an execution of the part.
* `backward_simulation`: Observations transfer along a backward simulation.
* `forward_simulation`: Observations transfer along a forward simulation.
-/

namespace Transition

/-- A transition system: an initial state and a guarded step function. -/
structure System (σ α : Type*) where
  init : σ
  step : σ → α → Option σ

namespace System

variable {σ α τ β ε : Type*}

/-- Replay the actions from a state, stopping at the first disabled one. -/
def runFrom (M : System σ α) (s : σ) (acts : List α) : Option σ :=
  acts.foldlM M.step s

/-- Replay the actions from the initial state. -/
def run (M : System σ α) (acts : List α) : Option σ :=
  M.runFrom M.init acts

/-- The states some execution ends in. -/
def Reachable (M : System σ α) (s : σ) : Prop :=
  ∃ acts, M.run acts = some s

@[simp] theorem runFrom_nil (M : System σ α) (s : σ) : M.runFrom s [] = some s := rfl

@[simp] theorem runFrom_cons (M : System σ α) (s : σ) (a : α) (acts : List α) :
    M.runFrom s (a :: acts) = (M.step s a).bind (fun s' => M.runFrom s' acts) := by
  simp only [runFrom, List.foldlM_cons]
  rfl

/-- The first action of a replay is enabled. -/
theorem runFrom_of_step (M : System σ α) {s s' : σ} {a : α} (h : M.step s a = some s')
    (acts : List α) : M.runFrom s (a :: acts) = M.runFrom s' acts := by
  rw [runFrom_cons, h, Option.bind_some]

theorem runFrom_append (M : System σ α) (s : σ) (acts more : List α) :
    M.runFrom s (acts ++ more) = (M.runFrom s acts).bind (fun s' => M.runFrom s' more) := by
  simp only [runFrom, List.foldlM_append]
  rfl

@[simp] theorem run_nil (M : System σ α) : M.run [] = some M.init := rfl

theorem run_append (M : System σ α) (acts more : List α) :
    M.run (acts ++ more) = (M.run acts).bind (fun s => M.runFrom s more) :=
  M.runFrom_append M.init acts more

/-- The last action of a replay, with the state it was taken in. -/
theorem run_concat (M : System σ α) (acts : List α) (a : α) (s' : σ) :
    M.run (acts ++ [a]) = some s' ↔ ∃ s, M.run acts = some s ∧ M.step s a = some s' := by
  rw [run_append]
  simp only [Option.bind_eq_some_iff, runFrom_cons, runFrom_nil]
  constructor
  · rintro ⟨s, hrun, t, hstep, ht⟩
    exact ⟨s, hrun, by rw [hstep, ht]⟩
  · rintro ⟨s, hrun, hstep⟩
    exact ⟨s, hrun, s', hstep, rfl⟩

/-- The invariant rule, for properties that also see the actions taken. -/
theorem run_induction (M : System σ α) {P : List α → σ → Prop} (h0 : P [] M.init)
    (hstep : ∀ acts s a s', M.run acts = some s → P acts s → M.step s a = some s' →
      P (acts ++ [a]) s') :
    ∀ acts s, M.run acts = some s → P acts s := by
  intro acts
  -- the last action is peeled off, and what is left is an execution again
  induction acts using List.reverseRecOn with
  | nil =>
      intro s h
      rw [run_nil, Option.some.injEq] at h
      rw [← h]
      exact h0
  | append_singleton acts a ih =>
      intro s' h
      rcases (M.run_concat acts a s').mp h with ⟨s, hrun, hs⟩
      exact hstep acts s a s' hrun (ih s hrun) hs

theorem reachable_init (M : System σ α) : M.Reachable M.init := ⟨[], rfl⟩

theorem Reachable.step {M : System σ α} {s s' : σ} {a : α} (h : M.Reachable s)
    (hs : M.step s a = some s') : M.Reachable s' := by
  rcases h with ⟨acts, hrun⟩
  exact ⟨acts ++ [a], (M.run_concat acts a s').mpr ⟨s, hrun, hs⟩⟩

/-- The invariant rule on states alone. -/
theorem reachable_induction (M : System σ α) {P : σ → Prop} (h0 : P M.init)
    (hstep : ∀ s a s', M.Reachable s → P s → M.step s a = some s' → P s')
    {s : σ} (h : M.Reachable s) : P s := by
  rcases h with ⟨acts, hrun⟩
  exact M.run_induction (P := fun _ s => P s) h0
    (fun acts s a s' hr hp hs => hstep s a s' ⟨acts, hr⟩ hp hs) acts s hrun

/-- Every step of the execution from `s` is taken in a state that allows it. -/
def GuardedFrom (M : System σ α) (P : σ → α → Prop) : σ → List α → Prop
  | _, [] => True
  | s, a :: acts => P s a ∧ ∀ s', M.step s a = some s' → M.GuardedFrom P s' acts

/-- Every step of the execution is taken in a state that allows it. -/
def Guarded (M : System σ α) (P : σ → α → Prop) (acts : List α) : Prop :=
  M.GuardedFrom P M.init acts

/-- A condition that can be tested on a step can be tested on an execution. -/
instance decidableGuardedFrom (M : System σ α) (P : σ → α → Prop) [∀ s a, Decidable (P s a)] :
    (s : σ) → (acts : List α) → Decidable (M.GuardedFrom P s acts)
  | _, [] => inferInstanceAs (Decidable True)
  | s, a :: acts =>
      have := fun s' => decidableGuardedFrom M P s' acts
      inferInstanceAs (Decidable (P s a ∧ ∀ s' ∈ M.step s a, M.GuardedFrom P s' acts))

instance (M : System σ α) (P : σ → α → Prop) [∀ s a, Decidable (P s a)] (acts : List α) :
    Decidable (M.Guarded P acts) := M.decidableGuardedFrom P M.init acts

/-- The invariant rule for executions with a condition on their steps. -/
theorem guarded_induction (M : System σ α) {P : σ → α → Prop} {Q : σ → Prop} (h0 : Q M.init)
    (hstep : ∀ s a s', M.Reachable s → Q s → P s a → M.step s a = some s' → Q s')
    (acts : List α) (s : σ) (hrun : M.run acts = some s) (hguard : M.Guarded P acts) : Q s := by
  -- the condition is read from the front, so the induction goes forward, from any
  -- reachable state
  have hfrom : ∀ acts s s', M.Reachable s → Q s → M.runFrom s acts = some s' →
      M.GuardedFrom P s acts → Q s' := by
    intro acts
    induction acts with
    | nil =>
        intro s s' _ hq hrun _
        rw [runFrom_nil, Option.some.injEq] at hrun
        rw [← hrun]
        exact hq
    | cons a acts ih =>
        intro s s' hreach hq hrun hguard
        rw [runFrom_cons, Option.bind_eq_some_iff] at hrun
        rcases hrun with ⟨t, ht, hrest⟩
        exact ih t s' (hreach.step ht) (hstep s a t hreach hq hguard.1 ht) hrest (hguard.2 t ht)
  exact hfrom acts M.init s M.reachable_init h0 hrun hguard

theorem guardedFrom_append (M : System σ α) {P : σ → α → Prop} (acts more : List α) (s t : σ)
    (hrun : M.runFrom s acts = some t) :
    M.GuardedFrom P s (acts ++ more) ↔ M.GuardedFrom P s acts ∧ M.GuardedFrom P t more := by
  induction acts generalizing s with
  | nil =>
      rw [runFrom_nil, Option.some.injEq] at hrun
      rw [hrun]
      exact ⟨fun h => ⟨trivial, h⟩, fun h => h.2⟩
  | cons a acts ih =>
      rw [runFrom_cons, Option.bind_eq_some_iff] at hrun
      rcases hrun with ⟨u, hu, hrest⟩
      have hnext : ∀ acts', (∀ s', M.step s a = some s' → M.GuardedFrom P s' acts') ↔
          M.GuardedFrom P u acts' := by
        intro acts'
        rw [hu]
        exact ⟨fun h => h u rfl, fun h s' hs' => (Option.some.inj hs') ▸ h⟩
      rw [List.cons_append, GuardedFrom, GuardedFrom, hnext, hnext, ih u hrest, and_assoc]

/-- The condition holds of an execution and one more step if it holds of the
    execution and of that step. -/
theorem guarded_concat (M : System σ α) {P : σ → α → Prop} {acts : List α} {a : α} {s : σ}
    (hrun : M.run acts = some s) :
    M.Guarded P (acts ++ [a]) ↔ M.Guarded P acts ∧ P s a := by
  refine (M.guardedFrom_append acts [a] M.init s hrun).trans ?_
  refine and_congr_right' ?_
  exact ⟨fun h => h.1, fun h => ⟨h, fun _ _ => trivial⟩⟩

theorem guarded_nil (M : System σ α) (P : σ → α → Prop) : M.Guarded P [] := trivial

theorem guardedFrom_and {M : System σ α} {P P' : σ → α → Prop} {s : σ} {acts : List α}
    (h : M.GuardedFrom P s acts) (h' : M.GuardedFrom P' s acts) :
    M.GuardedFrom (fun s a => P s a ∧ P' s a) s acts := by
  induction acts generalizing s with
  | nil => trivial
  | cons a acts ih =>
      exact ⟨⟨h.1, h'.1⟩, fun s' hs' => ih (h.2 s' hs') (h'.2 s' hs')⟩

/-- Two conditions on an execution are one. -/
theorem guarded_and {M : System σ α} {P P' : σ → α → Prop} {acts : List α}
    (h : M.Guarded P acts) (h' : M.Guarded P' acts) :
    M.Guarded (fun s a => P s a ∧ P' s a) acts :=
  guardedFrom_and h h'

/-- Executions that meet one condition meet another, if what the first keeps
    true implies the second step by step. -/
theorem guarded_of_guarded (M : System σ α) {P P' : σ → α → Prop} {Q : σ → Prop} (h0 : Q M.init)
    (hstep : ∀ s a s', M.Reachable s → Q s → P s a → M.step s a = some s' → Q s' ∧ P' s a)
    (acts : List α) (s : σ) (hrun : M.run acts = some s) (hguard : M.Guarded P acts) :
    Q s ∧ M.Guarded P' acts := by
  refine M.run_induction (P := fun acts s => M.Guarded P acts → Q s ∧ M.Guarded P' acts)
    (fun _ => ⟨h0, M.guarded_nil P'⟩) ?_ acts s hrun hguard
  intro acts s a s' hr ih hs hg
  rcases (M.guarded_concat hr).mp hg with ⟨hbefore, hlast⟩
  rcases ih hbefore with ⟨hq, hbefore'⟩
  rcases hstep s a s' ⟨acts, hr⟩ hq hlast hs with ⟨hq', hlast'⟩
  exact ⟨hq', (M.guarded_concat hr).mpr ⟨hbefore', hlast'⟩⟩

/-- Conditions that agree on every step of an execution agree on executions. -/
theorem guarded_congr (M : System σ α) {P P' : σ → α → Prop}
    (hstep : ∀ s a s', M.Reachable s → M.step s a = some s' → (P s a ↔ P' s a))
    (acts : List α) (s : σ) (hrun : M.run acts = some s) :
    M.Guarded P acts ↔ M.Guarded P' acts := by
  refine M.run_induction (P := fun acts _ => M.Guarded P acts ↔ M.Guarded P' acts)
    ⟨fun _ => M.guarded_nil P', fun _ => M.guarded_nil P⟩ ?_ acts s hrun
  intro acts s a s' hr ih hs
  rw [M.guarded_concat hr, M.guarded_concat hr, ih, hstep s a s' ⟨acts, hr⟩ hs]

/-- Conditions that agree in every reachable state agree on every list of
    actions, the system may accept it or not. -/
theorem guarded_iff_of_reachable (M : System σ α) {P P' : σ → α → Prop}
    (h : ∀ s a, M.Reachable s → (P s a ↔ P' s a)) (acts : List α) :
    M.Guarded P acts ↔ M.Guarded P' acts := by
  have hfrom : ∀ acts s, M.Reachable s → (M.GuardedFrom P s acts ↔ M.GuardedFrom P' s acts) := by
    intro acts
    induction acts with
    | nil => exact fun _ _ => Iff.rfl
    | cons a acts ih =>
        intro s hreach
        refine and_congr (h s a hreach) ?_
        exact forall_congr' fun t => forall_congr' fun ht => ih t (hreach.step ht)
  exact hfrom acts M.init M.reachable_init

/-- A change of the states that commutes with the steps leads from the
    reachable states of one system to those of the other. -/
theorem reachable_map (M N : System σ α) (f : σ → σ) (h0 : N.init = f M.init)
    (hstep : ∀ s a, N.step (f s) a = (M.step s a).map f) {t : σ} (h : N.Reachable t) :
    ∃ s, M.Reachable s ∧ t = f s := by
  refine N.reachable_induction (P := fun t => ∃ s, M.Reachable s ∧ t = f s)
    ⟨M.init, M.reachable_init, h0⟩ ?_ h
  rintro _ a t' _ ⟨s, hreach, rfl⟩ ht'
  rw [hstep, Option.map_eq_some_iff] at ht'
  rcases ht' with ⟨s', hs', rfl⟩
  exact ⟨s', hreach.step hs', rfl⟩

/-- What is seen of an execution and one more action. -/
theorem filterMap_concat {γ δ : Type*} (obs : γ → Option δ) (acts : List γ) (a : γ) :
    (acts ++ [a]).filterMap obs = acts.filterMap obs ++ (obs a).toList := by
  rw [List.filterMap_append]
  cases h : obs a with
  | none => rw [List.filterMap_cons_none h, List.filterMap_nil, Option.toList_none]
  | some e => rw [List.filterMap_cons_some h, List.filterMap_nil, Option.toList_some]

/-- What a part of the system sees of an execution is an execution of the
    part. -/
theorem run_part (M : System σ α) (N : System τ β) (part : σ → τ) (obs : α → Option β)
    (h0 : part M.init = N.init)
    (hstep : ∀ s a s', M.step s a = some s' →
      match obs a with
      | some b => N.step (part s) b = some (part s')
      | none => part s' = part s) :
    ∀ acts s, M.run acts = some s → N.run (acts.filterMap obs) = some (part s) := by
  refine M.run_induction (by rw [h0]; rfl) ?_
  intro acts s a s' _ ih hs
  have hpart := hstep s a s' hs
  rw [filterMap_concat]
  cases hobs : obs a with
  | none =>
      rw [hobs] at hpart
      rw [Option.toList_none, List.append_nil, ih]
      exact congrArg some hpart.symm
  | some b =>
      rw [hobs] at hpart
      exact (N.run_concat _ b _).mpr ⟨part s, ih, hpart⟩

/-- A backward simulation carries observations over. Given the abstract state
    the execution has to end in, each step of the concrete system is answered,
    last step first, by no abstract step or by one with the same
    observation. -/
theorem backward_simulation (M : System σ α) (N : System τ β) (obsM : α → Option ε)
    (obsN : β → Option ε) (R : σ → τ → Prop) (h0 : ∀ t, R M.init t → t = N.init)
    (hstep : ∀ s a s' t', M.Reachable s → M.step s a = some s' → R s' t' →
      ∃ t, R s t ∧ ((obsM a = none ∧ t' = t) ∨
        ∃ b, N.step t b = some t' ∧ obsN b = obsM a)) :
    ∀ acts s, M.run acts = some s → ∀ t, R s t →
      ∃ acts', N.run acts' = some t ∧ acts'.filterMap obsN = acts.filterMap obsM := by
  -- the answer to the last action fixes the state in which the rest has to end
  refine M.run_induction ?_ ?_
  · intro t ht
    exact ⟨[], by rw [run_nil, h0 t ht], rfl⟩
  · intro acts s a s' hrun ih hs t' ht'
    rcases hstep s a s' t' ⟨acts, hrun⟩ hs ht' with ⟨t, hR, hcase⟩
    rcases ih t hR with ⟨acts', hrun', hobs⟩
    rcases hcase with ⟨hsilent, htt⟩ | ⟨b, hb, hobsb⟩
    · refine ⟨acts', by rw [hrun', htt], ?_⟩
      rw [filterMap_concat, hsilent, Option.toList_none, List.append_nil, hobs]
    · refine ⟨acts' ++ [b], (N.run_concat acts' b t').mpr ⟨t, hrun', hb⟩, ?_⟩
      rw [filterMap_concat, filterMap_concat, hobsb, hobs]

/-- A forward simulation in lock step, for two systems with the same actions:
    whatever one accepts the other accepts, ending in related states. -/
theorem forward_simulation (M : System σ α) (N : System τ α) (R : σ → τ → Prop)
    (h0 : R M.init N.init)
    (hstep : ∀ s a s' t, M.Reachable s → R s t → M.step s a = some s' →
      ∃ t', N.step t a = some t' ∧ R s' t') :
    ∀ acts s, M.run acts = some s → ∃ t, N.run acts = some t ∧ R s t := by
  refine M.run_induction ⟨N.init, rfl, h0⟩ ?_
  rintro acts s a s' hrun ⟨t, ht, hR⟩ hs
  rcases hstep s a s' t ⟨acts, hrun⟩ hR hs with ⟨t', ht', hR'⟩
  exact ⟨t', (N.run_concat acts a t').mpr ⟨t, ht, ht'⟩, hR'⟩

end System

end Transition
