import ProvisioningSdk.Lib.Monitor
import Mathlib.Data.Sigma.Basic

/-!
# Programs over Shared Objects

Threads that share variables and call objects, any number of both.

`Program` is what is common to two systems. In `over` every object is a system of
its own, in which a call takes many steps and calls of several threads overlap.
In `atomically` a call is one step on the sequential object. A program that was
shown right in the second is right in the first, if each object is linearizable
by itself: linearizability is local, and no thread can tell the two apart.

The proof has two parts. Each object is replaced by its atomic object, from the
end of an execution to its start, since only the end says what a call will
answer (`over_backward`). Then commit and return are put together, from the start
to the end (`settles_run`). A thread that has committed but not returned lags
behind, and what it will do on its return changes its own variables only. So the
other threads do not see the difference (`CaughtUp`).

## Main definitions

* `Program`: The threads, with their steps between calls.
* `over`: The threads and their objects, step by step.
* `atomically`: The same with calls that are one step each.
* `Linearizes`: What is asked of one object.

## Theorems

* `over_backward`: A backward simulation for each object is one for the whole.
* `settles_run`: A call of an atomic object is one step.
* `over_atomically`: Executions of the one are executions of the other.
* `atomically_refines`: Refining the sequential objects.
* `monitor_linearizes`: Monitors meet what is asked of an object.
-/

namespace SharedObjects

open Transition Linearize

variable {ι K S L α : Type*} {Op Res : K → Type*} {τ υ σ β γ : K → Type*}

/-- Threads with shared variables of type `S` and variables of their own of type
    `L`. A call changes the latter only. -/
structure Program (ι : Type*) {K : Type*} (Op Res : K → Type*) (S L α : Type*) where
  shared : S
  start : ι → L
  /-- A step between two calls. -/
  own : ι → α → S → L → Option (S × L)
  /-- The call that the thread makes next. -/
  next : ι → L → Option (Σ k, Op k)
  /-- Where it goes on after the answer. -/
  resume : ι → L → (k : K) → Op k → Res k → L

/-! ### Step by step -/

/-- The threads, with those that are in a call. -/
structure Threads (ι S L : Type*) where
  shared : S
  locals : ι → L
  inside : ι → Bool

/-- The threads and their objects. -/
structure Running (ι S L : Type*) {K : Type*} (τ : K → Type*) where
  threads : Threads ι S L
  objects : ∀ k, τ k

/-- A step of a thread between its calls, or one of an object. -/
inductive RunAct (ι α : Type*) {K : Type*} (β : K → Type*)
  | own (t : ι) (a : α)
  | object (k : K) (b : β k)

/-- The step between calls. -/
def RunAct.ownStep : RunAct ι α β → Option (ι × α)
  | .own t a => some (t, a)
  | .object _ _ => none

section Systems

variable [DecidableEq ι] [DecidableEq K] [∀ k, DecidableEq (Op k)]

/-- What a step of object `k` is for the threads. -/
def Program.sees (P : Program ι Op Res S L α) (c : Threads ι S L) (k : K) :
    Option (Event ι (Op k) (Res k)) → Option (Threads ι S L)
  | none => some c
  | some (.call t op) =>
      if c.inside t = false ∧ P.next t (c.locals t) = some ⟨k, op⟩ then
        some { c with inside := Function.update c.inside t true }
      else none
  | some (.ret t op res) =>
      if c.inside t = true ∧ P.next t (c.locals t) = some ⟨k, op⟩ then
        some { c with
          inside := Function.update c.inside t false
          locals := Function.update c.locals t (P.resume t (c.locals t) k op res) }
      else none

/-- A step of the threads alone. -/
def Program.ownStep (P : Program ι Op Res S L α) (c : Threads ι S L) (t : ι) (a : α) :
    Option (Threads ι S L) :=
  if c.inside t = true then none
  else (P.own t a c.shared (c.locals t)).map (fun r =>
    { c with shared := r.1, locals := Function.update c.locals t r.2 })

/-- The threads over these objects. `obs` says which steps of an object are a
    call or a return. -/
def Program.over (P : Program ι Op Res S L α) (M : ∀ k, System (τ k) (β k))
    (obs : ∀ k, β k → Option (Event ι (Op k) (Res k))) :
    System (Running ι S L τ) (RunAct ι α β) where
  init := ⟨⟨P.shared, P.start, fun _ => false⟩, fun k => (M k).init⟩
  step := fun st act => match act with
    | .own t a => (P.ownStep st.threads t a).map (fun c => ⟨c, st.objects⟩)
    | .object k b => ((M k).step (st.objects k) b).bind (fun o =>
        (P.sees st.threads k (obs k b)).map (fun c => ⟨c, Function.update st.objects k o⟩))

/-! ### Calls that are one step -/

/-- The threads, and the sequential objects. -/
structure Settled (ι S L : Type*) {K : Type*} (σ : K → Type*) where
  shared : S
  locals : ι → L
  objects : ∀ k, σ k

/-- A step of a thread between its calls, or a call. -/
inductive CallAct (ι α : Type*) {K : Type*} (Op Res : K → Type*)
  | own (t : ι) (a : α)
  | call (t : ι) (k : K) (op : Op k) (res : Res k)

/-- The step between calls. -/
def CallAct.ownStep : CallAct ι α Op Res → Option (ι × α)
  | .own t a => some (t, a)
  | .call _ _ _ _ => none

/-- The threads, with calls that take effect at once. -/
def Program.atomically (P : Program ι Op Res S L α)
    (spec : ∀ k, Sequential (Op k) (Res k) (σ k)) :
    System (Settled ι S L σ) (CallAct ι α Op Res) where
  init := ⟨P.shared, P.start, fun k => (spec k).init⟩
  step := fun st act => match act with
    | .own t a => (P.own t a st.shared (st.locals t)).map (fun r =>
        { st with shared := r.1, locals := Function.update st.locals t r.2 })
    | .call t k op res =>
        if P.next t (st.locals t) = some ⟨k, op⟩ then
          ((spec k).apply (st.objects k) op res).map (fun o =>
            { st with
              locals := Function.update st.locals t (P.resume t (st.locals t) k op res)
              objects := Function.update st.objects k o })
        else none

end Systems

/-! ### Replacing the objects -/

/-- A backward simulation of one object by another. -/
structure Backward {τ υ β γ ε : Type*} (M : System τ β) (obsM : β → Option ε) (N : System υ γ)
    (obsN : γ → Option ε) (R : τ → υ → Prop) : Prop where
  init : ∀ t, R M.init t → t = N.init
  step : ∀ s a s' t', M.Reachable s → M.step s a = some s' → R s' t' →
    ∃ t, R s t ∧ ((obsM a = none ∧ t' = t) ∨ ∃ b, N.step t b = some t' ∧ obsN b = obsM a)

section Replacing

variable [DecidableEq ι] [DecidableEq K] [∀ k, DecidableEq (Op k)] (P : Program ι Op Res S L α)
  {M : ∀ k, System (τ k) (β k)} {obsM : ∀ k, β k → Option (Event ι (Op k) (Res k))}

theorem Program.over_own {st st' : Running ι S L τ} {t : ι} {a : α}
    (h : (P.over M obsM).step st (.own t a) = some st') :
    ∃ c, P.ownStep st.threads t a = some c ∧ st' = ⟨c, st.objects⟩ := by
  rcases Option.map_eq_some_iff.mp h with ⟨c, hc, rfl⟩
  exact ⟨c, hc, rfl⟩

theorem Program.over_object {st st' : Running ι S L τ} {k : K} {b : β k}
    (h : (P.over M obsM).step st (.object k b) = some st') :
    ∃ o c, (M k).step (st.objects k) b = some o ∧ P.sees st.threads k (obsM k b) = some c ∧
      st' = ⟨c, Function.update st.objects k o⟩ := by
  rcases Option.bind_eq_some_iff.mp h with ⟨o, ho, hrest⟩
  rcases Option.map_eq_some_iff.mp hrest with ⟨c, hc, rfl⟩
  exact ⟨o, c, ho, hc, rfl⟩

/-- Each object by itself has only come to states it can reach. -/
theorem Program.objects_reachable {st : Running ι S L τ} (h : (P.over M obsM).Reachable st)
    (k : K) : (M k).Reachable (st.objects k) := by
  refine (P.over M obsM).reachable_induction
    (P := fun st => ∀ k, (M k).Reachable (st.objects k)) (fun k => (M k).reachable_init) ?_ h k
  intro s a s' _ ih hs k
  cases a with
  | own t a =>
      rcases P.over_own hs with ⟨c, -, rfl⟩
      exact ih k
  | object k' b =>
      rcases P.over_object hs with ⟨o, c, ho, -, rfl⟩
      by_cases hk : k = k'
      · subst hk
        simp only [Function.update_self]
        exact (ih k).step ho
      · simp only [Function.update_of_ne hk]
        exact ih k

variable {N : ∀ k, System (υ k) (γ k)} {obsN : ∀ k, γ k → Option (Event ι (Op k) (Res k))}
  {R : ∀ k, τ k → υ k → Prop}

/-- The threads do the same over the other objects. -/
theorem Program.over_backward (h : ∀ k, Backward (M k) (obsM k) (N k) (obsN k) (R k))
    (acts : List (RunAct ι α β)) (st : Running ι S L τ)
    (hrun : (P.over M obsM).run acts = some st) (os : ∀ k, υ k)
    (hos : ∀ k, R k (st.objects k) (os k)) :
    ∃ acts', (P.over N obsN).run acts' = some ⟨st.threads, os⟩ ∧
      acts'.filterMap RunAct.ownStep = acts.filterMap RunAct.ownStep := by
  refine System.backward_simulation (P.over M obsM) (P.over N obsN) RunAct.ownStep RunAct.ownStep
    (fun st st' => st'.threads = st.threads ∧ ∀ k, R k (st.objects k) (st'.objects k)) ?_ ?_
    acts st hrun ⟨st.threads, os⟩ ⟨rfl, hos⟩
  · rintro ⟨c, os⟩ ⟨hc, hobjects⟩
    simp only at hc hobjects
    rw [hc, funext (fun k => (h k).init (os k) (hobjects k))]
    rfl
  · rintro st a st' ⟨c', os'⟩ hreach hstep ⟨hc', hobjects⟩
    simp only at hc' hobjects
    subst hc'
    cases a with
    | own t a =>
        rcases P.over_own hstep with ⟨c, hc, rfl⟩
        refine ⟨⟨st.threads, os'⟩, ⟨rfl, hobjects⟩, Or.inr ⟨.own t a, ?_, rfl⟩⟩
        exact Option.map_eq_some_iff.mpr ⟨c, hc, rfl⟩
    | object k b =>
        rcases P.over_object hstep with ⟨o, c, ho, hc, rfl⟩
        have hself := hobjects k
        simp only [Function.update_self] at hself
        -- the object that moved is answered, and the others stay
        rcases (h k).step _ b o (os' k) (P.objects_reachable hreach k) ho hself with
          ⟨ok, hok, hcase⟩
        refine ⟨⟨st.threads, Function.update os' k ok⟩, ⟨rfl, fun k' => ?_⟩, ?_⟩
        · by_cases hk : k' = k
          · subst hk
            simp only [Function.update_self]
            exact hok
          · have hother := hobjects k'
            simp only [Function.update_of_ne hk] at hother ⊢
            exact hother
        · rcases hcase with ⟨hsilent, heq⟩ | ⟨b', hb', hobs⟩
          · rw [hsilent] at hc
            refine Or.inl ⟨rfl, ?_⟩
            rw [← heq, Function.update_eq_self, ← Option.some.inj hc]
          · refine Or.inr ⟨.object k b', ?_, rfl⟩
            have hstep' : (N k).step (Function.update os' k ok k) b' = some (os' k) := by
              rw [Function.update_self]
              exact hb'
            refine Option.bind_eq_some_iff.mpr ⟨os' k, hstep', ?_⟩
            refine Option.map_eq_some_iff.mpr ⟨c, hobs ▸ hc, ?_⟩
            simp only [Function.update_idem, Function.update_eq_self]

end Replacing

/-! ### Calls of atomic objects -/

/-- Where a thread is when its call has taken effect: a thread that has committed
    but not returned goes on from its answer already. -/
inductive CaughtUp (P : Program ι Op Res S L α) (c : Threads ι S L) (t : ι)
    (phase : ∀ k, Phase (Op k) (Res k)) : L → Prop
  | outside (hout : c.inside t = false) (hidle : ∀ k, phase k = .idle) :
      CaughtUp P c t phase (c.locals t)
  | pending (k op) (hin : c.inside t = true) (hnext : P.next t (c.locals t) = some ⟨k, op⟩)
      (hphase : phase k = .pending op) (hidle : ∀ k', k' ≠ k → phase k' = .idle) :
      CaughtUp P c t phase (c.locals t)
  | done (k op res) (hin : c.inside t = true) (hnext : P.next t (c.locals t) = some ⟨k, op⟩)
      (hphase : phase k = .done op res) (hidle : ∀ k', k' ≠ k → phase k' = .idle) :
      CaughtUp P c t phase (P.resume t (c.locals t) k op res)

section Settling

variable {P : Program ι Op Res S L α} {c c' : Threads ι S L} {t : ι} {l : L}
  {phase phase' : ∀ k, Phase (Op k) (Res k)}

/-- What a thread sees of itself. -/
theorem CaughtUp.congr (h : CaughtUp P c t phase l) (hinside : c'.inside t = c.inside t)
    (hlocals : c'.locals t = c.locals t) (hphase : phase' = phase) : CaughtUp P c' t phase' l := by
  subst hphase
  cases h with
  | outside hout hidle =>
      rw [← hlocals]
      exact .outside (hinside.trans hout) hidle
  | pending k op hin hnext hpending hidle =>
      rw [← hlocals] at hnext ⊢
      exact .pending k op (hinside.trans hin) hnext hpending hidle
  | done k op res hin hnext hdone hidle =>
      rw [← hlocals] at hnext ⊢
      exact .done k op res (hinside.trans hin) hnext hdone hidle

theorem CaughtUp.of_out (h : CaughtUp P c t phase l) (hout : c.inside t = false) :
    l = c.locals t ∧ ∀ k, phase k = .idle := by
  cases h with
  | outside _ hidle => exact ⟨rfl, hidle⟩
  | pending k op hin => exact absurd (hin.symm.trans hout) Bool.noConfusion
  | done k op res hin => exact absurd (hin.symm.trans hout) Bool.noConfusion

theorem CaughtUp.of_pending (h : CaughtUp P c t phase l) {k : K} {op : Op k}
    (hpending : phase k = .pending op) :
    l = c.locals t ∧ c.inside t = true ∧ P.next t (c.locals t) = some ⟨k, op⟩ ∧
      ∀ k', k' ≠ k → phase k' = .idle := by
  cases h with
  | outside _ hidle =>
      rw [hidle k] at hpending
      cases hpending
  | pending k' op' hin hnext hphase hidle =>
      by_cases hk : k = k'
      · subst hk
        rw [hphase] at hpending
        cases hpending
        exact ⟨rfl, hin, hnext, hidle⟩
      · rw [hidle k hk] at hpending
        cases hpending
  | done k' op' res hin hnext hphase hidle =>
      by_cases hk : k = k'
      · subst hk
        rw [hphase] at hpending
        cases hpending
      · rw [hidle k hk] at hpending
        cases hpending

theorem CaughtUp.of_done (h : CaughtUp P c t phase l) {k : K} {op : Op k} {res : Res k}
    (hdone : phase k = .done op res) :
    l = P.resume t (c.locals t) k op res ∧ ∀ k', k' ≠ k → phase k' = .idle := by
  cases h with
  | outside _ hidle =>
      rw [hidle k] at hdone
      cases hdone
  | pending k' op' hin hnext hphase hidle =>
      by_cases hk : k = k'
      · subst hk
        rw [hphase] at hdone
        cases hdone
      · rw [hidle k hk] at hdone
        cases hdone
  | done k' op' res' hin hnext hphase hidle =>
      by_cases hk : k = k'
      · subst hk
        rw [hphase] at hdone
        cases hdone
        exact ⟨rfl, hidle⟩
      · rw [hidle k hk] at hdone
        cases hdone

end Settling

section Settles

variable {P : Program ι Op Res S L α} {spec : ∀ k, Sequential (Op k) (Res k) (σ k)}

/-- The same shared variables and objects, and every thread has caught up. -/
structure Settles (P : Program ι Op Res S L α)
    (st : Running ι S L (fun k => State ι (Op k) (Res k) (σ k))) (st' : Settled ι S L σ) :
    Prop where
  shared : st'.shared = st.threads.shared
  objects : ∀ k, st'.objects k = (st.objects k).obj
  locals : ∀ t, CaughtUp P st.threads t (fun k => (st.objects k).phase t) (st'.locals t)

variable {st : Running ι S L (fun k => State ι (Op k) (Res k) (σ k))} {s : Settled ι S L σ}
  [DecidableEq K]

/-- The phases of the other threads, where one thread has moved. -/
theorem phase_other [DecidableEq ι] {os : ∀ k, State ι (Op k) (Res k) (σ k)} {k : K}
    {t u : ι} (hu : u ≠ t) {o : State ι (Op k) (Res k) (σ k)} {p : Phase (Op k) (Res k)}
    (ho : o.phase = Function.update (os k).phase t p) :
    (fun k' => (Function.update os k o k').phase u) = fun k' => (os k').phase u := by
  funext k'
  by_cases hk : k' = k
  · subst hk
    rw [Function.update_self, ho, Function.update_of_ne hu]
  · rw [Function.update_of_ne hk]

/-- The objects, where one of them has changed. -/
theorem objects_moved {os : ∀ k, State ι (Op k) (Res k) (σ k)} {objects : ∀ k, σ k}
    (h : ∀ k, objects k = (os k).obj) (k : K) (o : State ι (Op k) (Res k) (σ k)) (k' : K) :
    Function.update objects k o.obj k' = (Function.update os k o k').obj := by
  by_cases hk : k' = k
  · subst hk
    rw [Function.update_self, Function.update_self]
  · rw [Function.update_of_ne hk, Function.update_of_ne hk]
    exact h k'

/-- The objects, where none has changed. -/
theorem objects_kept {os : ∀ k, State ι (Op k) (Res k) (σ k)} {objects : ∀ k, σ k}
    (h : ∀ k, objects k = (os k).obj) {k : K} {o : State ι (Op k) (Res k) (σ k)}
    (ho : o.obj = (os k).obj) (k' : K) : objects k' = (Function.update os k o k').obj := by
  have hmoved := objects_moved h k o k'
  rwa [ho, ← h k, Function.update_eq_self] at hmoved

variable [DecidableEq ι] [∀ k, DecidableEq (Op k)]

theorem settles_own (h : Settles P st s) {t : ι} {a : α} {c : Threads ι S L}
    (hc : P.ownStep st.threads t a = some c) :
    ∃ s', (P.atomically spec).step s (.own t a) = some s' ∧ Settles P ⟨c, st.objects⟩ s' := by
  unfold Program.ownStep at hc
  by_cases hin : st.threads.inside t = true
  · rw [if_pos hin] at hc
    cases hc
  · rw [if_neg hin] at hc
    rcases Option.map_eq_some_iff.mp hc with ⟨r, hr, rfl⟩
    have hout : st.threads.inside t = false := by simpa using hin
    rcases (h.locals t).of_out hout with ⟨hlocal, hidle⟩
    have hown : P.own t a s.shared (s.locals t) = some r := by
      rw [h.shared, hlocal]
      exact hr
    refine ⟨_, Option.map_eq_some_iff.mpr ⟨r, hown, rfl⟩, rfl, h.objects, fun u => ?_⟩
    by_cases hu : u = t
    · subst hu
      have hcaught := CaughtUp.outside (P := P) (c := { st.threads with
        shared := r.1
        locals := Function.update st.threads.locals u r.2 }) hout hidle
      simp only [Function.update_self] at hcaught ⊢
      exact hcaught
    · simp only [Function.update_of_ne hu]
      exact (h.locals u).congr rfl (Function.update_of_ne hu _ _) rfl

/-- A call is not seen before it commits. -/
theorem settles_call (h : Settles P st s) {t : ι} {k : K} {op : Op k} {c : Threads ι S L}
    (hc : P.sees st.threads k (some (.call t op)) = some c) :
    Settles P ⟨c, Function.update st.objects k ((st.objects k).goto t (.pending op))⟩ s := by
  unfold Program.sees at hc
  simp only at hc
  split at hc
  · rename_i hcase
    cases hc
    refine ⟨h.shared, objects_kept h.objects rfl, fun u => ?_⟩
    by_cases hu : u = t
    · subst hu
      rcases (h.locals u).of_out hcase.1 with ⟨hlocal, hothers⟩
      rw [hlocal]
      refine CaughtUp.pending (c := { st.threads with
        inside := Function.update st.threads.inside u true }) k op
        (Function.update_self _ _ _) hcase.2 ?_ (fun k' hk => ?_)
      · simp only [Function.update_self, State.goto_phase]
      · simp only [Function.update_of_ne hk]
        exact hothers k'
    · exact (h.locals u).congr (Function.update_of_ne hu _ _) rfl
        (phase_other hu (State.goto_phase _ _ _))
  · cases hc

/-- The commit is the call of the sequential object. -/
theorem settles_commit (h : Settles P st s) {t : ι} {k : K} {op : Op k} {res : Res k} {obj : σ k}
    (hpending : (st.objects k).phase t = .pending op)
    (happly : (spec k).apply (st.objects k).obj op res = some obj) :
    ∃ s', (P.atomically spec).step s (.call t k op res) = some s' ∧
      Settles P ⟨st.threads, Function.update st.objects k
        { (st.objects k).goto t (.done op res) with obj := obj }⟩ s' := by
  rcases (h.locals t).of_pending hpending with ⟨hlocal, hin, hnext, hothers⟩
  rw [← h.objects k] at happly
  rw [← hlocal] at hnext
  refine ⟨_, (if_pos hnext).trans (Option.map_eq_some_iff.mpr ⟨obj, happly, rfl⟩), h.shared,
    objects_moved h.objects k { (st.objects k).goto t (.done op res) with obj := obj },
    fun u => ?_⟩
  by_cases hu : u = t
  · subst hu
    simp only [Function.update_self]
    rw [hlocal] at hnext ⊢
    refine CaughtUp.done k op res hin hnext ?_ (fun k' hk => ?_)
    · simp only [Function.update_self, State.goto_phase]
    · simp only [Function.update_of_ne hk]
      exact hothers k' hk
  · simp only [Function.update_of_ne hu]
    exact (h.locals u).congr rfl rfl (phase_other hu (State.goto_phase _ _ _))

/-- On its return the thread catches up. -/
theorem settles_ret (h : Settles P st s) {t : ι} {k : K} {op : Op k} {res : Res k}
    {c : Threads ι S L} (hdone : (st.objects k).phase t = .done op res)
    (hc : P.sees st.threads k (some (.ret t op res)) = some c) :
    Settles P ⟨c, Function.update st.objects k ((st.objects k).goto t .idle)⟩ s := by
  unfold Program.sees at hc
  simp only at hc
  split at hc
  · cases hc
    rcases (h.locals t).of_done hdone with ⟨hlocal, hothers⟩
    refine ⟨h.shared, objects_kept h.objects rfl, fun u => ?_⟩
    by_cases hu : u = t
    · subst hu
      have hidle : ∀ k', (Function.update st.objects k
          ((st.objects k).goto u .idle) k').phase u = .idle := by
        intro k'
        by_cases hk : k' = k
        · subst hk
          simp only [Function.update_self, State.goto_phase]
        · simp only [Function.update_of_ne hk]
          exact hothers k' hk
      have hcaught := CaughtUp.outside (P := P) (c := { st.threads with
        inside := Function.update st.threads.inside u false
        locals := Function.update st.threads.locals u
          (P.resume u (st.threads.locals u) k op res) }) (Function.update_self _ _ _) hidle
      simp only [Function.update_self] at hcaught
      rw [hlocal]
      exact hcaught
    · exact (h.locals u).congr (Function.update_of_ne hu _ _)
        (Function.update_of_ne hu _ _) (phase_other hu (State.goto_phase _ _ _))
  · cases hc

variable [∀ k, DecidableEq (Res k)]

/-- The threads over atomic objects. -/
abbrev Program.overAtomic (P : Program ι Op Res S L α)
    (spec : ∀ k, Sequential (Op k) (Res k) (σ k)) :
    System (Running ι S L (fun k => State ι (Op k) (Res k) (σ k)))
      (RunAct ι α (fun k => Step ι (Op k) (Res k))) :=
  P.over (fun k => atomic ι (spec k)) (fun _ => event)

/-- Each step is one with calls that are one step, or is not seen there. -/
theorem settles_step {st' : Running ι S L (fun k => State ι (Op k) (Res k) (σ k))}
    {act : RunAct ι α (fun k => Step ι (Op k) (Res k))} (h : Settles P st s)
    (hstep : (P.overAtomic spec).step st act = some st') :
    (act.ownStep = none ∧ Settles P st' s) ∨
      ∃ a s', (P.atomically spec).step s a = some s' ∧ a.ownStep = act.ownStep ∧
        Settles P st' s' := by
  cases act with
  | own t a =>
      rcases P.over_own hstep with ⟨c, hc, rfl⟩
      rcases settles_own h hc with ⟨s', hs', hsettles⟩
      exact Or.inr ⟨.own t a, s', hs', rfl, hsettles⟩
  | object k b =>
      rcases P.over_object hstep with ⟨o, c, ho, hc, rfl⟩
      rcases atomicStep_cases (spec k) ho with ⟨t, op, rfl, -, rfl⟩ |
        ⟨t, op, res, obj, rfl, hpending, happly, rfl⟩ | ⟨t, op, res, rfl, hdone, rfl⟩
      · exact Or.inl ⟨rfl, settles_call h hc⟩
      · rcases settles_commit h hpending happly with ⟨s', hs', hsettles⟩
        cases hc
        exact Or.inr ⟨.call t k op res, s', hs', rfl, hsettles⟩
      · exact Or.inl ⟨rfl, settles_ret h hdone hc⟩

/-- An execution over atomic objects is one with calls that are one step. -/
theorem settles_run (acts : List (RunAct ι α (fun k => Step ι (Op k) (Res k))))
    (st : Running ι S L (fun k => State ι (Op k) (Res k) (σ k)))
    (hrun : (P.overAtomic spec).run acts = some st) :
    ∃ acts' s, (P.atomically spec).run acts' = some s ∧
      acts'.filterMap CallAct.ownStep = acts.filterMap RunAct.ownStep ∧ Settles P st s := by
  refine System.run_induction (P.overAtomic spec)
    (P := fun acts st => ∃ acts' s, (P.atomically spec).run acts' = some s ∧
      acts'.filterMap CallAct.ownStep = acts.filterMap RunAct.ownStep ∧ Settles P st s)
    ⟨[], _, rfl, rfl, rfl, fun _ => rfl, fun t => .outside rfl (fun _ => rfl)⟩ ?_ acts st hrun
  rintro acts st act st' - ⟨acts', s, hs, howns, h⟩ hstep
  rcases settles_step h hstep with ⟨hnone, h'⟩ | ⟨a, s', ha, hown, h'⟩
  · refine ⟨acts', s, hs, ?_, h'⟩
    rw [System.filterMap_concat, hnone, Option.toList_none, List.append_nil, howns]
  · refine ⟨acts' ++ [a], s', (System.run_concat _ _ _ _).mpr ⟨s, hs, ha⟩, ?_, h'⟩
    rw [System.filterMap_concat, System.filterMap_concat, hown, howns]

end Settles

/-! ### Programs over linearizable objects -/

/-- Where a thread is, if a call that is under way may have taken effect. -/
inductive Returned (P : Program ι Op Res S L α) (c : Threads ι S L) (t : ι) : L → Prop
  | same : Returned P c t (c.locals t)
  | committed (k op res) (hin : c.inside t = true) (hnext : P.next t (c.locals t) = some ⟨k, op⟩) :
      Returned P c t (P.resume t (c.locals t) k op res)

/-- A thread that is in no call is where it is. -/
theorem Returned.of_out {P : Program ι Op Res S L α} {c : Threads ι S L} {t : ι} {l : L}
    (h : Returned P c t l) (hout : c.inside t = false) : l = c.locals t := by
  cases h with
  | same => rfl
  | committed k op res hin => exact absurd (hin.symm.trans hout) Bool.noConfusion

theorem CaughtUp.returned {P : Program ι Op Res S L α} {c : Threads ι S L} {t : ι}
    {phase : ∀ k, Phase (Op k) (Res k)} {l : L} (h : CaughtUp P c t phase l) :
    Returned P c t l := by
  cases h with
  | outside => exact .same
  | pending => exact .same
  | done k op res hin hnext => exact .committed k op res hin hnext

section Linearizable

variable [DecidableEq ι]

/-- A linearizable object: its steps are answered by the atomic object, from the
    end of an execution, and every state it can end in is some state there. -/
structure Linearizes {Op Res σ τ β : Type*} [DecidableEq Op] [DecidableEq Res] (M : System τ β)
    (obs : β → Option (Event ι Op Res)) (spec : Sequential Op Res σ)
    (R : τ → State ι Op Res σ → Prop) : Prop where
  backward : Backward M obs (atomic ι spec) event R
  total : ∀ s, ∃ b, R s b

variable [DecidableEq K] [∀ k, DecidableEq (Op k)]

/-- Every execution over linearizable objects is one with calls that are one
    step, with the same steps in between. -/
theorem Program.over_atomically [∀ k, DecidableEq (Res k)] (P : Program ι Op Res S L α)
    {M : ∀ k, System (τ k) (β k)}
    {obs : ∀ k, β k → Option (Event ι (Op k) (Res k))}
    {spec : ∀ k, Sequential (Op k) (Res k) (σ k)}
    {R : ∀ k, τ k → State ι (Op k) (Res k) (σ k) → Prop}
    (h : ∀ k, Linearizes (M k) (obs k) (spec k) (R k)) (acts : List (RunAct ι α β))
    (st : Running ι S L τ) (hrun : (P.over M obs).run acts = some st) :
    ∃ acts' s, (P.atomically spec).run acts' = some s ∧
      acts'.filterMap CallAct.ownStep = acts.filterMap RunAct.ownStep ∧
      s.shared = st.threads.shared ∧ (∀ t, Returned P st.threads t (s.locals t)) ∧
      ∀ k, ∃ b, R k (st.objects k) b ∧ s.objects k = b.obj := by
  have htotal := fun k => (h k).total (st.objects k)
  choose os hos using htotal
  rcases P.over_backward (fun k => (h k).backward) acts st hrun os hos with ⟨atoms, hatoms, howns⟩
  rcases settles_run atoms _ hatoms with ⟨acts', s, hs, hsowns, hsettles⟩
  exact ⟨acts', s, hs, hsowns.trans howns, hsettles.shared,
    fun t => (hsettles.locals t).returned, fun k => ⟨os k, hos k, hsettles.objects k⟩⟩

/-- More abstract objects in place of the sequential ones. -/
theorem Program.atomically_refines {υ : K → Type*} (P : Program ι Op Res S L α)
    {spec : ∀ k, Sequential (Op k) (Res k) (σ k)} {more : ∀ k, Sequential (Op k) (Res k) (υ k)}
    {A : ∀ k, σ k → υ k → Prop} (hinit : ∀ k, A k (spec k).init (more k).init)
    (happly : ∀ k s t op res s', A k s t → (spec k).apply s op res = some s' →
      ∃ t', (more k).apply t op res = some t' ∧ A k s' t')
    (acts : List (CallAct ι α Op Res)) (s : Settled ι S L σ)
    (hrun : (P.atomically spec).run acts = some s) :
    ∃ t, (P.atomically more).run acts = some t ∧ t.shared = s.shared ∧ t.locals = s.locals ∧
      ∀ k, A k (s.objects k) (t.objects k) := by
  refine System.forward_simulation (P.atomically spec) (P.atomically more)
    (fun s t => t.shared = s.shared ∧ t.locals = s.locals ∧ ∀ k, A k (s.objects k) (t.objects k))
    ⟨rfl, rfl, hinit⟩ ?_ acts s hrun
  rintro s act s' ⟨shared, locals, objects⟩ - ⟨hshared, hlocals, hobjects⟩ hstep
  simp only at hshared hlocals hobjects
  subst hshared hlocals
  cases act with
  -- a step of the thread itself touches no object
  | own t a =>
      rcases Option.map_eq_some_iff.mp hstep with ⟨r, hr, rfl⟩
      exact ⟨_, Option.map_eq_some_iff.mpr ⟨r, hr, rfl⟩, rfl, rfl, hobjects⟩
  | call t k op res =>
      by_cases hnext : P.next t (s.locals t) = some ⟨k, op⟩
      · have hcall := (if_pos hnext).symm.trans hstep
        rcases Option.map_eq_some_iff.mp hcall with ⟨o, ho, rfl⟩
        rcases happly k _ _ op res o (hobjects k) ho with ⟨o', ho', hA⟩
        refine ⟨_, (if_pos hnext).trans (Option.map_eq_some_iff.mpr ⟨o', ho', rfl⟩), rfl, rfl,
          fun k' => ?_⟩
        -- the other objects stay related
        by_cases hk : k' = k
        · subst hk
          simp only [Function.update_self]
          exact hA
        · simp only [Function.update_of_ne hk]
          exact hobjects k'
      · cases (if_neg hnext).symm.trans hstep

/-- A monitor is such an object. -/
theorem monitor_linearizes {Op Res σ κ : Type*} [DecidableEq Op] [DecidableEq Res] [DecidableEq κ]
    (M : TimedWait.Monitor Op Res σ κ) (obj : σ) :
    Linearizes (TimedWait.threads ι M obj) TimedWait.event (TimedWait.sequential M obj)
      (TimedWait.Matches M) where
  backward :=
    { init := by
        rintro ⟨bobj, phase⟩ ⟨hobj, hphase⟩
        have hidle : phase = fun _ => .idle := funext hphase
        simp only at hobj
        rw [hobj, hidle]
        rfl
      step := fun _ _ _ _ hreach hs hb => TimedWait.matches_step M obj
        (TimedWait.exclusive_reachable M obj hreach) (TimedWait.steps_of_step M hs) hb }
  total := TimedWait.exists_matches M

omit [DecidableEq ι] in
/-- A call of a monitor has one answer, if it is one step. -/
theorem sequential_answer {Op Res σ κ : Type*} [DecidableEq Res]
    {M : TimedWait.Monitor Op Res σ κ} {obj s s₁ s₂ : σ} {op : Op} {res₁ res₂ : Res}
    (h₁ : (TimedWait.sequential M obj).apply s op res₁ = some s₁)
    (h₂ : (TimedWait.sequential M obj).apply s op res₂ = some s₂) : res₁ = res₂ ∧ s₁ = s₂ := by
  simp only [TimedWait.sequential] at h₁ h₂
  split at h₁
  · rename_i hblocked
    rw [if_pos hblocked] at h₂
    split at h₁
    · split at h₂
      · cases h₁
        cases h₂
        exact ⟨by rw [‹res₁ = _›, ‹res₂ = _›], rfl⟩
      · cases h₂
    · cases h₁
  · rename_i hblocked
    rw [if_neg hblocked] at h₂
    split at h₁
    · split at h₂
      · cases h₁
        cases h₂
        exact ⟨by rw [‹res₁ = _›, ‹res₂ = _›], rfl⟩
      · cases h₂
    · cases h₁

end Linearizable

end SharedObjects
