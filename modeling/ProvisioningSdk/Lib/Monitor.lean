import ProvisioningSdk.Lib.Linearize

/-!
# Monitors with Timed Waits

The shape of a critical section that may wait: take the mutex, wait on a
condition variable while the operation is blocked, run the operation's body if
no wait failed, release the mutex, and after a success broadcast another
condition variable. `Operation` keeps what differs between two of them;
`threads` is the protocol they share, for any number of threads, one step per
mutex or condition variable call.

A thread in `waiting` has released the mutex and is queued on its condition
variable. It leaves the queue by a broadcast, spuriously, or with an error
such as a timeout, and then has to take the mutex again. Only an error ends the
call without running the body: after a clean wake-up the test is repeated,
because another thread may have been faster.

`monitor_linearizable` says such an object behaves like the sequential one
whose operations either run their body or, when blocked, give up and change
nothing. A successful call is committed where its body runs. A call that gives
up is committed at its last test, which found it blocked; that instant lies in
the past by the time the wait fails, so the argument is a backward simulation.
`Committed` leaves the choice open while the thread waits.

## Main definitions

* `Operation`, `Monitor`: What distinguishes the operations of one monitor.
* `Pc`: How far a thread has got inside its call.
* `Act`: One step of one thread.
* `Steps`: What each step needs and what it does.
* `threads`: The monitor run by any number of threads.
* `sequential`: The object the monitor implements.
* `Exclusive`: The mutex invariant.
* `Committed`: Which phases of the atomic object a thread's step allows.

## Theorems

* `steps_of_step`: One step, as one of the twelve named ones.
* `exclusive_reachable`: Mutual exclusion holds in every reachable state.
* `monitor_linearizable`: Every execution is linearizable.
-/

namespace TimedWait

open Transition Linearize

variable {ι Op Res σ κ : Type*}

/-- The parts in which the operations of one monitor differ: the condition of
    the wait loop, the body run once it is false, the answer of a call that
    stopped waiting, the condition variable waited on, and the one broadcast
    after a success. -/
structure Operation (Res σ κ : Type*) where
  blocked : σ → Bool
  body : σ → σ × Res
  gaveUp : Res
  waitsOn : κ
  signals : Option κ

/-- A monitor: its operations, by name. -/
abbrev Monitor (Op Res σ κ : Type*) := Op → Operation Res σ κ

/-- How far a thread has got inside its call. `testing`, `acting` and
    `leaving` hold the mutex. -/
inductive Pc (Op Res κ : Type*)
  | idle
  | entered (op : Op)
  | testing (op : Op)
  | acting (op : Op)
  | waiting (op : Op)
  | woken (op : Op) (err : Int)
  | leaving (op : Op) (res : Res) (signal : Option κ)
  | signalling (op : Op) (res : Res) (c : κ)
  | returning (op : Op) (res : Res)

/-- One step of one thread; `wake` and `expire` are the operating system's. -/
inductive Act (ι Op Res : Type*)
  | call (t : ι) (op : Op)
  | lock (t : ι)
  | test (t : ι)
  | body (t : ι)
  | wake (t : ι)
  | expire (t : ι) (err : Int)
  | relock (t : ι)
  | unlock (t : ι)
  | broadcast (t : ι)
  | ret (t : ι) (op : Op) (res : Res)

/-- The thread that takes the step. -/
def Act.thread : Act ι Op Res → ι
  | .call t _ => t
  | .lock t => t
  | .test t => t
  | .body t => t
  | .wake t => t
  | .expire t _ => t
  | .relock t => t
  | .unlock t => t
  | .broadcast t => t
  | .ret t _ _ => t

/-- The client's view of a step. -/
def event : Act ι Op Res → Option (Event ι Op Res)
  | .call t op => some (.call t op)
  | .ret t op res => some (.ret t op res)
  | _ => none

/-- The protected object, the owner of the mutex, and every thread. -/
structure State (ι Op Res σ κ : Type*) where
  obj : σ
  owner : Option ι
  pc : ι → Pc Op Res κ

/-- The mutex is held while the thread is at this point. -/
def Pc.holds : Pc Op Res κ → Bool
  | .testing _ => true
  | .acting _ => true
  | .leaving _ _ _ => true
  | _ => false

section Object

variable [DecidableEq Res]

/-- The object a monitor implements: a blocked operation may only give up,
    any other runs its body. -/
def sequential (M : Monitor Op Res σ κ) (obj : σ) : Sequential Op Res σ where
  init := obj
  apply := fun s op res =>
    if (M op).blocked s then (if res = (M op).gaveUp then some s else none)
    else (if res = ((M op).body s).2 then some ((M op).body s).1 else none)

theorem sequential_gaveUp (M : Monitor Op Res σ κ) (obj s : σ) (op : Op)
    (h : (M op).blocked s = true) :
    (sequential M obj).apply s op (M op).gaveUp = some s := by
  simp only [sequential, h, if_true]

theorem sequential_body (M : Monitor Op Res σ κ) (obj s : σ) (op : Op)
    (h : (M op).blocked s = false) :
    (sequential M obj).apply s op ((M op).body s).2 = some ((M op).body s).1 := by
  simp only [sequential, h, Bool.false_eq_true, if_false, if_true]

end Object

/-- Whoever is inside a critical section owns the mutex, and an operation
    about to run its body is not blocked. -/
structure Exclusive (M : Monitor Op Res σ κ) (s : State ι Op Res σ κ) : Prop where
  owns : ∀ t, (s.pc t).holds = true → s.owner = some t
  clear : ∀ t op, s.pc t = .acting op → (M op).blocked s.obj = false

/-- No other thread is inside while one is. -/
theorem Exclusive.alone {M : Monitor Op Res σ κ} {s : State ι Op Res σ κ} (hs : Exclusive M s)
    {t u : ι} (ht : (s.pc t).holds = true) (hu : (s.pc u).holds = true) : u = t := by
  have h1 := hs.owns t ht
  have h2 := hs.owns u hu
  rw [h1] at h2
  exact (Option.some.inj h2).symm

/-- Where a thread goes after releasing the mutex. -/
def afterUnlock (op : Op) (res : Res) : Option κ → Pc Op Res κ
  | some c => .signalling op res c
  | none => .returning op res

/-- The phases of the atomic object that fit a thread of the monitor. A
    thread that has left the body has committed. One that waits may or may
    not have committed its failure already, and how it is woken settles
    which. -/
def Committed (M : Monitor Op Res σ κ) : Pc Op Res κ → Phase Op Res → Prop
  | .idle, p => p = .idle
  | .entered op, p => p = .pending op
  | .testing op, p => p = .pending op
  | .acting op, p => p = .pending op
  | .waiting op, p => p = .pending op ∨ p = .done op (M op).gaveUp
  | .woken op err, p => if err = 0 then p = .pending op else p = .done op (M op).gaveUp
  | .leaving op res _, p => p = .done op res
  | .signalling op res _, p => p = .done op res
  | .returning op res, p => p = .done op res

/-- The same object, and a fitting phase for every thread. -/
def Matches (M : Monitor Op Res σ κ) (s : State ι Op Res σ κ)
    (b : Linearize.State ι Op Res σ) : Prop :=
  b.obj = s.obj ∧ ∀ t, Committed M (s.pc t) (b.phase t)

/-- A step that leaves the thread's phase alone needs no abstract step. -/
theorem Matches.silent {M : Monitor Op Res σ κ} {s s' : State ι Op Res σ κ}
    {b : Linearize.State ι Op Res σ} (h : Matches M s' b) (hobj : s'.obj = s.obj)
    (hpc : ∀ u, Committed M (s'.pc u) (b.phase u) → Committed M (s.pc u) (b.phase u)) :
    Matches M s b :=
  ⟨h.1.trans hobj, fun u => hpc u (h.2 u)⟩

theorem committed_afterUnlock (M : Monitor Op Res σ κ) (op : Op) (res : Res) (c : Option κ)
    (q : Phase Op Res) (h : Committed M (afterUnlock op res c) q) : q = .done op res := by
  cases c <;> exact h

/-- Some state of the atomic object matches every state of the monitor: the
    one where no waiting call has failed yet. -/
theorem exists_matches (M : Monitor Op Res σ κ) (s : State ι Op Res σ κ) :
    ∃ b, Matches M s b := by
  have hphase : ∀ p : Pc Op Res κ, ∃ q, Committed M p q := by
    intro p
    cases p with
    | waiting op => exact ⟨.pending op, Or.inl rfl⟩
    | woken op err =>
        by_cases he : err = 0
        · exact ⟨.pending op, by simp only [Committed, if_pos he]⟩
        · exact ⟨.done op (M op).gaveUp, by simp only [Committed, if_neg he]⟩
    | _ => exact ⟨_, rfl⟩
  -- one choice for each thread, independent of the others
  exact ⟨{ obj := s.obj, phase := fun t => (hphase (s.pc t)).choose }, rfl,
    fun t => (hphase (s.pc t)).choose_spec⟩

variable [DecidableEq ι]

/-- Move one thread, leaving the mutex in the given hands. -/
def State.move (s : State ι Op Res σ κ) (t : ι) (owner : Option ι) (p : Pc Op Res κ) :
    State ι Op Res σ κ :=
  { s with owner := owner, pc := Function.update s.pc t p }

@[simp] theorem move_pc_self (s : State ι Op Res σ κ) (t : ι) (o : Option ι) (p : Pc Op Res κ) :
    (s.move t o p).pc t = p := by
  simp only [State.move, Function.update_self]

theorem move_pc_other (s : State ι Op Res σ κ) (t u : ι) (o : Option ι) (p : Pc Op Res κ)
    (h : u ≠ t) : (s.move t o p).pc u = s.pc u := by
  simp only [State.move, Function.update_of_ne h]

/-- Moving one thread keeps the invariant when the new owner is right for it
    and for the others. -/
theorem Exclusive.move {M : Monitor Op Res σ κ} {s : State ι Op Res σ κ} (hs : Exclusive M s)
    (t : ι) (o : Option ι) (p : Pc Op Res κ)
    (hother : ∀ u, u ≠ t → (s.pc u).holds = true → o = some u)
    (hself : p.holds = true → o = some t)
    (hclear : ∀ op, p = .acting op → (M op).blocked s.obj = false) :
    Exclusive M (s.move t o p) := by
  constructor
  · intro u hu
    by_cases hut : u = t
    · subst hut
      rw [move_pc_self] at hu
      exact hself hu
    · rw [move_pc_other _ _ _ _ _ hut] at hu
      exact hother u hut hu
  · intro u op hu
    by_cases hut : u = t
    · subst hut
      rw [move_pc_self] at hu
      exact hclear op hu
    · rw [move_pc_other _ _ _ _ _ hut] at hu
      exact hs.clear u op hu

/-! ### Matching the atomic object -/

/-- Undo the phase of one thread. -/
def rewind (b : Linearize.State ι Op Res σ) (t : ι) (p : Phase Op Res) (obj : σ) :
    Linearize.State ι Op Res σ :=
  { obj := obj, phase := Function.update b.phase t p }

/-- Rewinding the thread that moved gives a match for the state before. -/
theorem Matches.rewind {M : Monitor Op Res σ κ} {s s' : State ι Op Res σ κ}
    {b : Linearize.State ι Op Res σ} (h : Matches M s' b) (t : ι) (p : Phase Op Res)
    (hother : ∀ u, u ≠ t → s'.pc u = s.pc u) (hself : Committed M (s.pc t) p) :
    Matches M s (rewind b t p s.obj) := by
  refine ⟨rfl, fun u => ?_⟩
  by_cases hut : u = t
  · subst hut
    simp only [TimedWait.rewind, Function.update_self]
    exact hself
  · simp only [TimedWait.rewind, Function.update_of_ne hut]
    rw [← hother u hut]
    exact h.2 u

/-- Moving the rewound thread forward again restores the state. -/
theorem rewind_goto (b : Linearize.State ι Op Res σ) (t : ι) (p q : Phase Op Res) (obj : σ)
    (h : b.phase t = q) :
    { (rewind b t p obj).goto t q with obj := b.obj } = b := by
  cases b with
  | mk bobj phase =>
      simp only [rewind, Linearize.State.goto, Function.update_idem]
      simp only at h
      rw [← h, Function.update_eq_self]

/-- A silent step of one thread. -/
theorem Matches.silent_move {M : Monitor Op Res σ κ} {s : State ι Op Res σ κ}
    {b : Linearize.State ι Op Res σ} (t : ι) (o : Option ι) (p : Pc Op Res κ)
    (h : Matches M (s.move t o p) b)
    (hpc : Committed M p (b.phase t) → Committed M (s.pc t) (b.phase t)) : Matches M s b := by
  refine h.silent rfl (fun u hu => ?_)
  by_cases hut : u = t
  · subst hut
    rw [move_pc_self] at hu
    exact hpc hu
  · rwa [move_pc_other _ _ _ _ _ hut] at hu

variable [DecidableEq κ]

/-- A broadcast wakes every thread queued on the condition variable. -/
def notify (M : Monitor Op Res σ κ) (c : κ) : Pc Op Res κ → Pc Op Res κ
  | .waiting op => if (M op).waitsOn = c then .woken op 0 else .waiting op
  | p => p

/-- What each step needs and what it does, one constructor per way through
    the code. -/
inductive Steps (M : Monitor Op Res σ κ) (s : State ι Op Res σ κ) :
    Act ι Op Res → State ι Op Res σ κ → Prop
  | call (t op) (h : s.pc t = .idle) : Steps M s (.call t op) (s.move t s.owner (.entered op))
  | lock (t op) (h : s.pc t = .entered op) (ho : s.owner = none) :
      Steps M s (.lock t) (s.move t (some t) (.testing op))
  | testBlocked (t op) (h : s.pc t = .testing op) (hb : (M op).blocked s.obj = true) :
      Steps M s (.test t) (s.move t none (.waiting op))
  | testClear (t op) (h : s.pc t = .testing op) (hb : (M op).blocked s.obj = false) :
      Steps M s (.test t) (s.move t s.owner (.acting op))
  | body (t op) (h : s.pc t = .acting op) :
      Steps M s (.body t) { s.move t s.owner (.leaving op ((M op).body s.obj).2 (M op).signals) with
        obj := ((M op).body s.obj).1 }
  | wake (t op) (h : s.pc t = .waiting op) : Steps M s (.wake t) (s.move t s.owner (.woken op 0))
  | expire (t op err) (h : s.pc t = .waiting op) (he : err ≠ 0) :
      Steps M s (.expire t err) (s.move t s.owner (.woken op err))
  | relockClean (t op) (h : s.pc t = .woken op 0) (ho : s.owner = none) :
      Steps M s (.relock t) (s.move t (some t) (.testing op))
  | relockFailed (t op err) (h : s.pc t = .woken op err) (he : err ≠ 0) (ho : s.owner = none) :
      Steps M s (.relock t) (s.move t (some t) (.leaving op (M op).gaveUp none))
  | unlock (t op res c) (h : s.pc t = .leaving op res c) :
      Steps M s (.unlock t) (s.move t none (afterUnlock op res c))
  | broadcast (t op res c) (h : s.pc t = .signalling op res c) :
      Steps M s (.broadcast t)
        { s with pc := Function.update (fun u => notify M c (s.pc u)) t (.returning op res) }
  | ret (t op res) (h : s.pc t = .returning op res) :
      Steps M s (.ret t op res) (s.move t s.owner .idle)

/-! ### Mutual exclusion -/

theorem notify_holds (M : Monitor Op Res σ κ) (c : κ) (p : Pc Op Res κ) :
    (notify M c p).holds = p.holds := by
  cases p with
  | waiting op =>
      simp only [notify]
      split <;> rfl
  | _ => rfl

theorem notify_acting (M : Monitor Op Res σ κ) (c : κ) (p : Pc Op Res κ) (op : Op)
    (h : notify M c p = .acting op) : p = .acting op := by
  cases p with
  | waiting op' =>
      simp only [notify] at h
      split at h <;> cases h
  | _ => exact h

theorem committed_notify (M : Monitor Op Res σ κ) (c : κ) (p : Pc Op Res κ) (q : Phase Op Res)
    (h : Committed M (notify M c p) q) : Committed M p q := by
  cases p with
  | waiting op =>
      simp only [notify] at h
      split at h
      · exact Or.inl (by simpa only [Committed, if_true] using h)
      · exact h
  | _ => exact h

theorem exclusive_step (M : Monitor Op Res σ κ) {s s' : State ι Op Res σ κ} {a : Act ι Op Res}
    (hs : Exclusive M s) (h : Steps M s a s') : Exclusive M s' := by
  -- A thread that takes the free mutex finds nobody inside.
  have hfree : s.owner = none → ∀ t u, u ≠ t → (s.pc u).holds = true → some t = some u := by
    intro ho t u _ hu
    rw [hs.owns u hu] at ho
    cases ho
  -- A thread that is inside finds nobody else there.
  have hinside : ∀ t, (s.pc t).holds = true →
      ∀ o u, u ≠ t → (s.pc u).holds = true → o = some u :=
    fun t ht o u hut hu => absurd (hs.alone ht hu) hut
  have hsame : ∀ t u, u ≠ t → (s.pc u).holds = true → s.owner = some u :=
    fun _ u _ hu => hs.owns u hu
  cases h with
  | call t op h => exact hs.move _ _ _ (hsame t) (fun hc => by cases hc) (fun _ hc => by cases hc)
  | lock t op h ho => exact hs.move _ _ _ (hfree ho t) (fun _ => rfl) (fun _ hc => by cases hc)
  | testBlocked t op h hb =>
      exact hs.move _ _ _ (hinside t (by rw [h]; rfl) _) (fun hc => by cases hc)
        (fun _ hc => by cases hc)
  | testClear t op h hb =>
      refine hs.move _ _ _ (hsame t) (fun _ => hs.owns t (by rw [h]; rfl)) (fun op' hc => ?_)
      cases hc
      exact hb
  | body t op h =>
      have ht : (s.pc t).holds = true := by rw [h]; rfl
      have hmove := hs.move t s.owner (.leaving op ((M op).body s.obj).2 (M op).signals) (hsame t)
        (fun _ => hs.owns t ht) (fun _ hc => by cases hc)
      refine ⟨hmove.owns, fun u op' hu => ?_⟩
      -- The object changed, but nobody else is about to act on it.
      exfalso
      by_cases hut : u = t
      · subst hut
        rw [show ({ s.move u s.owner _ with obj := _ } : State ι Op Res σ κ).pc u = _ from
          move_pc_self _ _ _ _] at hu
        cases hu
      · change (s.move t s.owner _).pc u = _ at hu
        rw [move_pc_other _ _ _ _ _ hut] at hu
        exact hut (hs.alone ht (by rw [hu]; rfl))
  | wake t op h => exact hs.move _ _ _ (hsame t) (fun hc => by cases hc) (fun _ hc => by cases hc)
  | expire t op err h he =>
      exact hs.move _ _ _ (hsame t) (fun hc => by cases hc) (fun _ hc => by cases hc)
  | relockClean t op h ho =>
      exact hs.move _ _ _ (hfree ho t) (fun _ => rfl) (fun _ hc => by cases hc)
  | relockFailed t op err h he ho =>
      exact hs.move _ _ _ (hfree ho t) (fun _ => rfl) (fun _ hc => by cases hc)
  | unlock t op res c h =>
      refine hs.move _ _ _ (hinside t (by rw [h]; rfl) _) (fun hc => ?_) (fun _ hc => ?_) <;>
        cases c <;> cases hc
  | broadcast t op res c h =>
      constructor
      · intro u hu
        by_cases hut : u = t
        · subst hut
          simp only [Function.update_self] at hu
          cases hu
        · simp only [Function.update_of_ne hut, notify_holds] at hu
          exact hs.owns u hu
      · intro u op' hu
        by_cases hut : u = t
        · subst hut
          simp only [Function.update_self] at hu
          cases hu
        · simp only [Function.update_of_ne hut] at hu
          exact hs.clear u op' (notify_acting M c _ op' hu)
  | ret t op res h =>
      exact hs.move _ _ _ (hsame t) (fun hc => by cases hc) (fun _ hc => by cases hc)

/-! ### The step function -/

variable [DecidableEq Op] [DecidableEq Res]

/-- One step of the monitor. -/
def step (M : Monitor Op Res σ κ) (s : State ι Op Res σ κ) :
    Act ι Op Res → Option (State ι Op Res σ κ)
  | .call t op => match s.pc t with
    | .idle => some (s.move t s.owner (.entered op))
    | _ => none
  | .lock t => match s.pc t, s.owner with
    | .entered op, none => some (s.move t (some t) (.testing op))
    | _, _ => none
  | .test t => match s.pc t with
    | .testing op =>
        if (M op).blocked s.obj then some (s.move t none (.waiting op))
        else some (s.move t s.owner (.acting op))
    | _ => none
  | .body t => match s.pc t with
    | .acting op =>
        some { s.move t s.owner (.leaving op ((M op).body s.obj).2 (M op).signals) with
          obj := ((M op).body s.obj).1 }
    | _ => none
  | .wake t => match s.pc t with
    | .waiting op => some (s.move t s.owner (.woken op 0))
    | _ => none
  | .expire t err => match s.pc t with
    | .waiting op => if err = 0 then none else some (s.move t s.owner (.woken op err))
    | _ => none
  | .relock t => match s.pc t, s.owner with
    | .woken op err, none =>
        if err = 0 then some (s.move t (some t) (.testing op))
        else some (s.move t (some t) (.leaving op (M op).gaveUp none))
    | _, _ => none
  | .unlock t => match s.pc t with
    | .leaving op res c => some (s.move t none (afterUnlock op res c))
    | _ => none
  | .broadcast t => match s.pc t with
    | .signalling op res c =>
        some { s with pc := Function.update (fun u => notify M c (s.pc u)) t (.returning op res) }
    | _ => none
  | .ret t op res => match s.pc t with
    | .returning op' res' =>
        if op' = op ∧ res' = res then some (s.move t s.owner .idle) else none
    | _ => none

/-- The monitor run by the threads `ι`, all of them outside at the start. -/
def threads (ι : Type*) [DecidableEq ι] (M : Monitor Op Res σ κ) (obj : σ) :
    System (State ι Op Res σ κ) (Act ι Op Res) where
  init := { obj := obj, owner := none, pc := fun _ => .idle }
  step := step M

/-- Every accepted step is one of the named ones. -/
theorem steps_of_step (M : Monitor Op Res σ κ) {s s' : State ι Op Res σ κ} {a : Act ι Op Res}
    (h : step M s a = some s') : Steps M s a s' := by
  -- each action has one place, and the guard is read off there
  cases a with
  | call t op =>
      simp only [step] at h
      split at h
      · cases h
        exact .call t op ‹_›
      · cases h
  | lock t =>
      simp only [step] at h
      split at h
      · cases h
        exact .lock t _ ‹_› ‹_›
      · cases h
  | test t =>
      simp only [step] at h
      split at h
      · rename_i op hpc
        -- the test either blocks or lets through
        by_cases hb : (M op).blocked s.obj = true
        · rw [if_pos hb] at h
          cases h
          exact .testBlocked t op hpc hb
        · rw [if_neg hb] at h
          cases h
          exact .testClear t op hpc (Bool.not_eq_true _ ▸ hb)
      · cases h
  | body t =>
      simp only [step] at h
      split at h
      · cases h
        exact .body t _ ‹_›
      · cases h
  | wake t =>
      simp only [step] at h
      split at h
      · cases h
        exact .wake t _ ‹_›
      · cases h
  | expire t err =>
      simp only [step] at h
      split at h
      · -- a thread that is not woken by a signal has an error
        by_cases he : err = 0
        · rw [if_pos he] at h
          cases h
        · rw [if_neg he] at h
          cases h
          exact .expire t _ err ‹_› he
      · cases h
  | relock t =>
      simp only [step] at h
      split at h
      · rename_i op err hpc ho
        -- woken without one it tests again
        by_cases he : err = 0
        · rw [if_pos he] at h
          cases h
          exact .relockClean t op (he ▸ hpc) ho
        · rw [if_neg he] at h
          cases h
          exact .relockFailed t op err hpc he ho
      · cases h
  | unlock t =>
      simp only [step] at h
      split at h
      · cases h
        exact .unlock t _ _ _ ‹_›
      · cases h
  | broadcast t =>
      simp only [step] at h
      split at h
      · cases h
        exact .broadcast t _ _ _ ‹_›
      · cases h
  | ret t op res =>
      simp only [step] at h
      split at h
      · rename_i op' res' hpc
        by_cases he : op' = op ∧ res' = res
        · rw [if_pos he] at h
          cases h
          exact .ret t op res (by rw [hpc, he.1, he.2])
        · rw [if_neg he] at h
          cases h
      · cases h

/-- Mutual exclusion holds in every reachable state. -/
theorem exclusive_reachable (M : Monitor Op Res σ κ) (obj : σ) {s : State ι Op Res σ κ}
    (h : (threads ι M obj).Reachable s) : Exclusive M s := by
  refine System.reachable_induction _ ⟨fun _ hc => (by cases hc), fun _ _ hc => (by cases hc)⟩ ?_ h
  intro s a s' _ ih hs
  exact exclusive_step M ih (steps_of_step M hs)

/-! ### Linearizability -/

/-- Every step of the monitor is answered by the atomic object, seen from the
    state the step ends in. -/
theorem matches_step (M : Monitor Op Res σ κ) (obj : σ) {s s' : State ι Op Res σ κ}
    {a : Act ι Op Res} {b' : Linearize.State ι Op Res σ} (hs : Exclusive M s)
    (hstep : Steps M s a s') (hb : Matches M s' b') :
    ∃ b, Matches M s b ∧ ((event a = none ∧ b' = b) ∨
      ∃ c, (atomic ι (sequential M obj)).step b c = some b' ∧ Linearize.event c = event a) := by
  -- what the atomic object knows of the thread that moved
  have hself := fun t o p (h : Matches M (s.move t o p) b') => by
    simpa only [move_pc_self] using h.2 t
  cases hstep with
  | call t op h =>
      -- the thread has called, and was outside before
      have hphase : b'.phase t = .pending op := hself _ _ _ hb
      refine ⟨rewind b' t .idle s.obj, hb.rewind t _
        (fun u hu => move_pc_other _ _ _ _ _ hu) (by rw [h]; rfl), Or.inr ⟨.call t op, ?_, rfl⟩⟩
      have hgo := rewind_goto b' t .idle _ s.obj hphase
      rw [hb.1] at hgo
      have hidle : (rewind b' t .idle s.obj).phase t = .idle := by
        simp only [rewind, Function.update_self]
      exact (atomicStep_call (sequential M obj) _ _ _ hidle).trans (congrArg some hgo)
  | lock t op h ho =>
      exact ⟨b', hb.silent_move _ _ _ (fun hc => by rw [h]; exact hc), Or.inl ⟨rfl, rfl⟩⟩
  | testBlocked t op h hblocked =>
      rcases (hself _ _ _ hb : _ ∨ _) with hpending | hdone
      · exact ⟨b', hb.silent_move _ _ _ (fun _ => by rw [h]; exact hpending), Or.inl ⟨rfl, rfl⟩⟩
      · -- The call will give up: its failure is committed at this test.
        refine ⟨rewind b' t (.pending op) s.obj, hb.rewind t _
          (fun u hu => move_pc_other _ _ _ _ _ hu) (by rw [h]; rfl),
          Or.inr ⟨.commit t op (M op).gaveUp, ?_, rfl⟩⟩
        have hgo := rewind_goto b' t (.pending op) _ s.obj hdone
        rw [hb.1] at hgo
        exact (atomicStep_commit _ _ _ _ _ _ (by simp only [rewind, Function.update_self])
          (sequential_gaveUp M obj s.obj op hblocked)).trans (congrArg some hgo)
  | testClear t op h hclear =>
      exact ⟨b', hb.silent_move _ _ _ (fun hc => by rw [h]; exact hc), Or.inl ⟨rfl, rfl⟩⟩
  | body t op h =>
      -- The body is where a call that was not blocked takes effect.
      have hphase : b'.phase t = .done op ((M op).body s.obj).2 := by
        have hleave := hb.2 t
        simp only [State.move, Function.update_self] at hleave
        exact hleave
      refine ⟨rewind b' t (.pending op) s.obj, hb.rewind t _
        (fun u hu => by simp only [State.move, Function.update_of_ne hu]) (by rw [h]; rfl),
        Or.inr ⟨.commit t op ((M op).body s.obj).2, ?_, rfl⟩⟩
      have hgo := rewind_goto b' t (.pending op) _ s.obj hphase
      rw [hb.1] at hgo
      exact (atomicStep_commit _ _ _ _ _ _ (by simp only [rewind, Function.update_self])
        (sequential_body M obj s.obj op (hs.clear t op h))).trans (congrArg some hgo)
  | wake t op h =>
      exact ⟨b', hb.silent_move _ _ _ (fun hc => by rw [h]; exact Or.inl hc), Or.inl ⟨rfl, rfl⟩⟩
  | expire t op err h he =>
      -- a wait that fails was committed before it began, so nothing happens here
      refine ⟨b', hb.silent_move _ _ _ (fun hc => ?_), Or.inl ⟨rfl, rfl⟩⟩
      rw [h]
      exact Or.inr (by simpa only [Committed, if_neg he] using hc)
  | relockClean t op h ho =>
      exact ⟨b', hb.silent_move _ _ _ (fun hc => by rw [h]; exact hc), Or.inl ⟨rfl, rfl⟩⟩
  | relockFailed t op err h he ho =>
      refine ⟨b', hb.silent_move _ _ _ (fun hc => ?_), Or.inl ⟨rfl, rfl⟩⟩
      rw [h]
      simpa only [Committed, if_neg he] using hc
  | unlock t op res c h =>
      refine ⟨b', hb.silent_move _ _ _ (fun hc => ?_), Or.inl ⟨rfl, rfl⟩⟩
      rw [h]
      exact committed_afterUnlock M op res c _ hc
  | broadcast t op res c h =>
      -- a thread that is woken had not failed, and that fits a waiting one
      refine ⟨b', hb.silent rfl (fun u hu => ?_), Or.inl ⟨rfl, rfl⟩⟩
      by_cases hut : u = t
      · subst hut
        simp only [Function.update_self] at hu
        rw [h]
        exact hu
      · simp only [Function.update_of_ne hut] at hu
        exact committed_notify M c _ _ hu
  | ret t op res h =>
      have hphase : b'.phase t = .idle := hself _ _ _ hb
      refine ⟨rewind b' t (.done op res) s.obj, hb.rewind t _
        (fun u hu => move_pc_other _ _ _ _ _ hu) (by rw [h]; rfl),
        Or.inr ⟨.ret t op res, ?_, rfl⟩⟩
      have hgo := rewind_goto b' t (.done op res) _ s.obj hphase
      rw [hb.1] at hgo
      have hdone : (rewind b' t (.done op res) s.obj).phase t = .done op res := by
        simp only [rewind, Function.update_self]
      exact (atomicStep_ret (sequential M obj) _ _ _ _ hdone).trans (congrArg some hgo)

/-- Every execution of the monitor is linearizable: the atomic object shows
    the same calls and returns, and ends with the same object. -/
theorem monitor_linearizable (M : Monitor Op Res σ κ) (obj : σ) (acts : List (Act ι Op Res))
    (s : State ι Op Res σ κ) (hrun : (threads ι M obj).run acts = some s) :
    ∃ lin b, (atomic ι (sequential M obj)).run lin = some b ∧
      lin.filterMap Linearize.event = acts.filterMap event ∧ b.obj = s.obj := by
  -- any state that fits the last one will do; the rest is found going back
  rcases exists_matches M s with ⟨b, hb⟩
  have h0 : ∀ b, Matches M (threads ι M obj).init b →
      b = (atomic ι (sequential M obj)).init := by
    rintro ⟨bobj, phase⟩ ⟨hobj, hphase⟩
    have hidle : phase = fun _ => .idle := funext hphase
    simp only at hobj
    rw [hobj, hidle]
    rfl
  rcases System.backward_simulation _ _ event Linearize.event (Matches M) h0
    (fun s a s' b' hr hs hb => matches_step M obj (exclusive_reachable M obj hr)
      (steps_of_step M hs) hb) acts s hrun b hb with ⟨lin, hlin, hevents⟩
  exact ⟨lin, b, hlin, hevents, hb.1⟩

end TimedWait
