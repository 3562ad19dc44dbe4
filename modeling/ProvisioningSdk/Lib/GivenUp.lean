import ProvisioningSdk.Lib.Monitor

/-!
# Calls That Give Up

What a monitor's call may answer when it stopped waiting.

A thread gives up when a wait fails, and does not look at the object again. So
by the time it returns the operation may have become possible; all that is
certain is that it was blocked at the thread's last test. That test lies inside
the call, and this is what a caller can rely on: an answer that no body gives
means there was a moment during the call at which the operation was blocked.

The proof follows one thread through its call. `Tracked` says of every point in
the code what is known there about the actions so far: that the thread is in a
call, that the call was found blocked, or that the answer came from a body.

## Main definitions

* `InCall`: A thread is in a call, with what happened since it began.
* `FoundBlocked`: At some moment of the call its operation was blocked.
* `Tracked`: What is known at each point in the code.

## Theorems

* `tracked_step`: Every step of every thread keeps what is known.
* `foundBlocked_of_gaveUp`: A call that gives up was blocked at some moment.
-/

namespace TimedWait

open Transition

variable {ι Op Res σ κ : Type*}

/-- The thread calls or returns by this step. -/
def Act.Visible (t : ι) : Act ι Op Res → Prop
  | .call u _ => u = t
  | .ret u _ _ => u = t
  | _ => False

/-- A step of another thread is no call or return of this one. -/
theorem Act.not_visible {a : Act ι Op Res} {t : ι} (h : a.thread ≠ t) : ¬ a.Visible t := by
  cases a with
  | call u op => exact h
  | ret u op res => exact h
  | _ => exact fun hfalse => hfalse

/-- Thread `t` is in a call of `op`. -/
def InCall (acts : List (Act ι Op Res)) (t : ι) (op : Op) : Prop :=
  ∃ before during, acts = before ++ .call t op :: during ∧ ∀ a ∈ during, ¬ a.Visible t

theorem InCall.concat {acts : List (Act ι Op Res)} {t : ι} {op : Op} (h : InCall acts t op)
    {a : Act ι Op Res} (ha : ¬ a.Visible t) : InCall (acts ++ [a]) t op := by
  rcases h with ⟨before, during, rfl, hduring⟩
  refine ⟨before, during ++ [a], ?_, ?_⟩
  · rw [List.append_assoc, List.cons_append]
  · intro a' ha'
    rcases List.mem_append.mp ha' with hold | hnew
    · exact hduring a' hold
    · rw [List.mem_singleton.mp hnew]
      exact ha

variable [DecidableEq ι] [DecidableEq κ] [DecidableEq Op] [DecidableEq Res]
variable (M : Monitor Op Res σ κ) (obj : σ)

/-- Thread `t` is in a call of `op`, and at some moment since it began the
    operation was blocked. -/
def FoundBlocked (acts : List (Act ι Op Res)) (t : ι) (op : Op) : Prop :=
  ∃ before during rest s, acts = before ++ .call t op :: (during ++ rest) ∧
    (∀ a ∈ during ++ rest, ¬ a.Visible t) ∧
    (threads ι M obj).run (before ++ .call t op :: during) = some s ∧
    (M op).blocked s.obj = true

variable {M obj}

theorem FoundBlocked.inCall {acts : List (Act ι Op Res)} {t : ι} {op : Op}
    (h : FoundBlocked M obj acts t op) : InCall acts t op := by
  rcases h with ⟨before, during, rest, s, rfl, hduring, -, -⟩
  exact ⟨before, during ++ rest, rfl, hduring⟩

/-- A call whose operation is blocked now was found blocked, whatever happens
    next. -/
theorem InCall.foundBlocked {acts : List (Act ι Op Res)} {t : ι} {op : Op}
    (h : InCall acts t op) {s : State ι Op Res σ κ} (hrun : (threads ι M obj).run acts = some s)
    (hblocked : (M op).blocked s.obj = true) : FoundBlocked M obj acts t op := by
  rcases h with ⟨before, during, rfl, hduring⟩
  refine ⟨before, during, [], s, ?_, ?_, hrun, hblocked⟩
  · rw [List.append_nil]
  · rw [List.append_nil]
    exact hduring

theorem FoundBlocked.concat {acts : List (Act ι Op Res)} {t : ι} {op : Op}
    (h : FoundBlocked M obj acts t op) {a : Act ι Op Res} (ha : ¬ a.Visible t) :
    FoundBlocked M obj (acts ++ [a]) t op := by
  rcases h with ⟨before, during, rest, s, rfl, hduring, hrun, hblocked⟩
  refine ⟨before, during, rest ++ [a], s, ?_, ?_, hrun, hblocked⟩
  · simp only [List.append_assoc, List.cons_append]
  · intro a' ha'
    rw [← List.append_assoc] at ha'
    rcases List.mem_append.mp ha' with hold | hnew
    · exact hduring a' hold
    · rw [List.mem_singleton.mp hnew]
      exact ha

variable (M obj)

/-- An answer that has been decided: a body gave it, or the call was found
    blocked. -/
def Answered (acts : List (Act ι Op Res)) (t : ι) (op : Op) (res : Res) : Prop :=
  (∃ s, res = ((M op).body s).2) ∨ FoundBlocked M obj acts t op

/-- What is known of a thread at each point in its code. -/
def Tracked (acts : List (Act ι Op Res)) (t : ι) : Pc Op Res κ → Prop
  | .idle => True
  | .entered op => InCall acts t op
  | .testing op => InCall acts t op
  | .acting op => InCall acts t op
  | .waiting op => FoundBlocked M obj acts t op
  | .woken op _ => FoundBlocked M obj acts t op
  | .leaving op res _ => Answered M obj acts t op res
  | .signalling op res _ => Answered M obj acts t op res
  | .returning op res => Answered M obj acts t op res

variable {M obj}

/-- What is known of a thread stays known while it does not call or return. -/
theorem Tracked.concat {acts : List (Act ι Op Res)} {t : ι} {p : Pc Op Res κ}
    (h : Tracked M obj acts t p) {a : Act ι Op Res} (ha : ¬ a.Visible t) :
    Tracked M obj (acts ++ [a]) t p := by
  cases p with
  | idle => trivial
  | entered op => exact InCall.concat h ha
  | testing op => exact InCall.concat h ha
  | acting op => exact InCall.concat h ha
  | waiting op => exact FoundBlocked.concat h ha
  | woken op err => exact FoundBlocked.concat h ha
  | leaving op res c => exact h.imp_right (fun hf => hf.concat ha)
  | signalling op res c => exact h.imp_right (fun hf => hf.concat ha)
  | returning op res => exact h.imp_right (fun hf => hf.concat ha)

/-- A broadcast tells nothing about the threads it wakes. -/
theorem Tracked.notify {acts : List (Act ι Op Res)} {t : ι} {p : Pc Op Res κ}
    (h : Tracked M obj acts t p) (c : κ) : Tracked M obj acts t (notify M c p) := by
  cases p with
  | waiting op =>
      simp only [TimedWait.notify]
      split
      · exact h
      · exact h
  | _ => exact h

/-- A step of one thread keeps what is known of all, if it does for that one. -/
theorem tracked_move {acts : List (Act ι Op Res)} {s : State ι Op Res σ κ}
    (h : ∀ u, Tracked M obj acts u (s.pc u)) {a : Act ι Op Res} (o : Option ι)
    (p : Pc Op Res κ) (hself : Tracked M obj (acts ++ [a]) a.thread p) (u : ι) :
    Tracked M obj (acts ++ [a]) u ((s.move a.thread o p).pc u) := by
  by_cases hu : u = a.thread
  · rw [hu, move_pc_self]
    exact hself
  · rw [move_pc_other _ _ _ _ _ hu]
    exact (h u).concat (Act.not_visible (Ne.symm hu))

/-- Every step of every thread keeps what is known of all of them. -/
theorem tracked_step {acts : List (Act ι Op Res)} {s s' : State ι Op Res σ κ}
    {a : Act ι Op Res} (hrun : (threads ι M obj).run acts = some s)
    (h : ∀ u, Tracked M obj acts u (s.pc u)) (hstep : Steps M s a s') (u : ι) :
    Tracked M obj (acts ++ [a]) u (s'.pc u) := by
  cases hstep with
  -- until it blocks, a call has its beginning
  | call t op hpc =>
      refine tracked_move h (a := .call t op) s.owner (.entered op) ?_ u
      exact ⟨acts, [], rfl, fun _ ha => absurd ha List.not_mem_nil⟩
  | lock t op hpc ho =>
      have ht := h t
      rw [hpc] at ht
      refine tracked_move h (a := .lock t) (some t) (.testing op) ?_ u
      exact InCall.concat ht (a := .lock t) id
  | testBlocked t op hpc hb =>
      -- this test is the moment
      have ht := h t
      rw [hpc] at ht
      refine tracked_move h (a := .test t) none (.waiting op) ?_ u
      exact (InCall.foundBlocked ht hrun hb).concat (a := .test t) id
  | testClear t op hpc hb =>
      have ht := h t
      rw [hpc] at ht
      refine tracked_move h (a := .test t) s.owner (.acting op) ?_ u
      exact InCall.concat ht (a := .test t) id
  | body t op hpc =>
      refine tracked_move h (a := .body t) s.owner
        (.leaving op ((M op).body s.obj).2 (M op).signals) ?_ u
      exact Or.inl ⟨s.obj, rfl⟩
  -- asleep and after, it has the moment at which it was blocked
  | wake t op hpc =>
      have ht := h t
      rw [hpc] at ht
      refine tracked_move h (a := .wake t) s.owner (.woken op 0) ?_ u
      exact FoundBlocked.concat ht (a := .wake t) id
  | expire t op err hpc he =>
      have ht := h t
      rw [hpc] at ht
      refine tracked_move h (a := .expire t err) s.owner (.woken op err) ?_ u
      exact FoundBlocked.concat ht (a := .expire t err) id
  -- woken by a signal it starts again, and otherwise it gives up
  | relockClean t op hpc ho =>
      have ht := h t
      rw [hpc] at ht
      refine tracked_move h (a := .relock t) (some t) (.testing op) ?_ u
      exact (FoundBlocked.inCall ht).concat (a := .relock t) id
  | relockFailed t op err hpc he ho =>
      have ht := h t
      rw [hpc] at ht
      refine tracked_move h (a := .relock t) (some t) (.leaving op (M op).gaveUp none) ?_ u
      exact Or.inr (FoundBlocked.concat ht (a := .relock t) id)
  -- what it answers it has answered before
  | unlock t op res c hpc =>
      have ht := h t
      rw [hpc] at ht
      refine tracked_move h (a := .unlock t) none (afterUnlock op res c) ?_ u
      have hanswer : Answered M obj (acts ++ [.unlock t]) t op res :=
        ht.imp_right (fun hf => hf.concat (a := .unlock t) id)
      cases c with
      | none => exact hanswer
      | some c => exact hanswer
  | broadcast t op res c hpc =>
      by_cases hu : u = t
      · have ht := (h t).concat (a := .broadcast t) id
        rw [hpc] at ht
        subst hu
        simp only [Function.update_self]
        exact ht
      · simp only [Function.update_of_ne hu]
        exact ((h u).concat (a := .broadcast t) id).notify c
  | ret t op res hpc =>
      exact tracked_move h (a := .ret t op res) s.owner .idle trivial u

/-- What is known holds in every run. -/
theorem tracked_run (acts : List (Act ι Op Res)) (s : State ι Op Res σ κ)
    (hrun : (threads ι M obj).run acts = some s) (t : ι) : Tracked M obj acts t (s.pc t) := by
  refine (threads ι M obj).run_induction
    (P := fun acts s => ∀ u, Tracked M obj acts u (s.pc u)) (fun _ => trivial) ?_ acts s hrun t
  intro acts s a s' hr ih hs
  exact tracked_step hr ih (steps_of_step M hs)

/-- A thread about to return an answer that no body gives was blocked at some
    moment of its call. -/
theorem foundBlocked_of_gaveUp {acts : List (Act ι Op Res)} {s : State ι Op Res σ κ}
    (hrun : (threads ι M obj).run acts = some s) {t : ι} {op : Op} {res : Res}
    (hpc : s.pc t = .returning op res) (hbody : ∀ obj', res ≠ ((M op).body obj').2) :
    FoundBlocked M obj acts t op := by
  have ht := tracked_run acts s hrun t
  rw [hpc] at ht
  rcases ht with ⟨obj', hres⟩ | hfound
  · exact absurd hres (hbody obj')
  · exact hfound

end TimedWait
