import ProvisioningSdk.Lib.Monitor

/-!
# Wake-Ups

Whether a monitor can leave a thread asleep that has something to do.

A thread goes to sleep with the mutex in its hands, so at that moment its
operation is blocked. Later another thread runs a body that ends this, and
broadcasts, but only after it has released the mutex: in between anybody may
run. Until the broadcast the waker still owes it, which is what `Pc.Owes` says
of a thread. Whoever it wakes then tests again.

So nothing is lost as long as every body that unblocks an operation broadcasts
the condition variable that operation waits on (`Announces`). The invariant
(`Attended`) is that a thread asleep is blocked, or somebody owes the broadcast
that will wake it. A broadcast can only be over when nobody waits on its
condition variable any more, whatever happened since the body it belongs to.

## Main definitions

* `Pc.Owes`: The thread has still to broadcast.
* `Announces`: Bodies that unblock an operation broadcast for it.
* `Attended`: Nobody sleeps unattended.

## Theorems

* `Attended.move`: Steps of one thread that leave the object alone.
* `attended_step`: Every step keeps the invariant.
* `attended_reachable`: Nobody sleeps unattended in any reachable state.
-/

namespace TimedWait

open Transition

variable {ι Op Res σ κ : Type*}

/-- The thread has run the body of its operation, and has not broadcast this
    condition variable yet. -/
def Pc.Owes (p : Pc Op Res κ) (op : Op) (res : Res) (c : κ) : Prop :=
  p = .leaving op res (some c) ∨ p = .signalling op res c

/-- A body that ends the wait of an operation broadcasts what that operation
    waits on. -/
def Announces (M : Monitor Op Res σ κ) : Prop :=
  ∀ op op' obj, (M op).blocked obj = false → (M op').blocked obj = true →
    (M op').blocked ((M op).body obj).1 = false → (M op).signals = some (M op').waitsOn

/-- A thread asleep is blocked, or is about to be woken. What is owed belongs to
    a body that was run. -/
structure Attended (M : Monitor Op Res σ κ) (s : State ι Op Res σ κ) : Prop where
  owed : ∀ t op res c, (s.pc t).Owes op res c →
    (M op).signals = some c ∧ ∃ obj, (M op).blocked obj = false ∧ res = ((M op).body obj).2
  asleep : ∀ t op, s.pc t = .waiting op → (M op).blocked s.obj = false →
    ∃ u op' res, (s.pc u).Owes op' res (M op).waitsOn

/-- Nothing is owed at this point. -/
def Pc.owesNothing : Pc Op Res κ → Bool
  | .leaving _ _ (some _) => false
  | .signalling _ _ _ => false
  | _ => true

theorem not_owes {p : Pc Op Res κ} (h : p.owesNothing = true) (op : Op) (res : Res) (c : κ) :
    ¬ p.Owes op res c := by
  rintro (hp | hp)
  · rw [hp] at h
    cases h
  · rw [hp] at h
    cases h

variable [DecidableEq ι]

/-- A step of one thread that leaves the object alone: it keeps what it owes,
    and falls asleep only if it is blocked. -/
theorem Attended.move {M : Monitor Op Res σ κ} {s : State ι Op Res σ κ} (hs : Attended M s)
    (t : ι) (o : Option ι) (p : Pc Op Res κ)
    (howes : ∀ op res c, p.Owes op res c ↔ (s.pc t).Owes op res c)
    (hasleep : ∀ op, p = .waiting op → (M op).blocked s.obj = true) :
    Attended M (s.move t o p) := by
  constructor
  · intro u op res c hu
    by_cases hut : u = t
    · subst hut
      rw [move_pc_self] at hu
      exact hs.owed u op res c ((howes op res c).mp hu)
    · rw [move_pc_other _ _ _ _ _ hut] at hu
      exact hs.owed u op res c hu
  · intro u op hu hclear
    by_cases hut : u = t
    · subst hut
      rw [move_pc_self] at hu
      have hblocked := hasleep op hu
      rw [show (s.move u o p).obj = s.obj from rfl, hblocked] at hclear
      cases hclear
    · rw [move_pc_other _ _ _ _ _ hut] at hu
      rcases hs.asleep u op hu hclear with ⟨v, op', res, hv⟩
      refine ⟨v, op', res, ?_⟩
      by_cases hvt : v = t
      · subst hvt
        rw [move_pc_self]
        exact (howes op' res _).mpr hv
      · rw [move_pc_other _ _ _ _ _ hvt]
        exact hv

/-- A step of one thread between two points where nothing is owed. -/
theorem Attended.move_quiet {M : Monitor Op Res σ κ} {s : State ι Op Res σ κ} (hs : Attended M s)
    {t : ι} {p q : Pc Op Res κ} (h : s.pc t = q) (o : Option ι) (hq : q.owesNothing = true)
    (hp : p.owesNothing = true) (hasleep : ∀ op, p = .waiting op → (M op).blocked s.obj = true) :
    Attended M (s.move t o p) := by
  refine hs.move t o p (fun op res c => ?_) hasleep
  rw [h]
  exact iff_of_false (not_owes hp op res c) (not_owes hq op res c)

/-- A body that ends a wait is followed by a broadcast, and one that does not
    leaves what was owed before. -/
theorem attended_body {M : Monitor Op Res σ κ} (hM : Announces M) {s : State ι Op Res σ κ}
    (hx : Exclusive M s) (hs : Attended M s) (t : ι) (op : Op) (h : s.pc t = .acting op) :
    Attended M { s.move t s.owner (.leaving op ((M op).body s.obj).2 (M op).signals) with
      obj := ((M op).body s.obj).1 } := by
  have hclear := hx.clear t op h
  have hself : ∀ o p, (s.move t o p).pc t = p := move_pc_self s t
  have hother : ∀ u, u ≠ t → ∀ o p, (s.move t o p).pc u = s.pc u :=
    fun u hut o p => move_pc_other s t u o p hut
  constructor
  · intro u op' res c hu
    by_cases hut : u = t
    · subst hut
      simp only [hself] at hu
      rcases hu with hu | hu
      · injection hu with hop hres hc
        subst hop
        exact ⟨hc, s.obj, hclear, hres.symm⟩
      · cases hu
    · simp only [hother u hut] at hu
      exact hs.owed u op' res c hu
  · intro u op' hu hclear'
    by_cases hut : u = t
    · subst hut
      simp only [hself] at hu
      cases hu
    · simp only [hother u hut] at hu
      cases hblocked : (M op').blocked s.obj with
      | true =>
          -- this body has ended the wait, so its thread owes the broadcast
          refine ⟨t, op, ((M op).body s.obj).2, Or.inl ?_⟩
          simp only [hself]
          rw [hM op op' s.obj hclear hblocked hclear']
      | false =>
          rcases hs.asleep u op' hu hblocked with ⟨v, op2, res, hv⟩
          have hvt : v ≠ t := by
            rintro rfl
            rw [h] at hv
            rcases hv with hv | hv <;> cases hv
          refine ⟨v, op2, res, ?_⟩
          simp only [hother v hvt]
          exact hv

variable [DecidableEq κ]

/-- A broadcast does not change what others owe. -/
theorem notify_owes (M : Monitor Op Res σ κ) (c : κ) (p : Pc Op Res κ) (op : Op) (res : Res)
    (c' : κ) : (notify M c p).Owes op res c' ↔ p.Owes op res c' := by
  cases p with
  | waiting op' =>
      simp only [notify]
      split
      · exact iff_of_false (by rintro (h | h) <;> cases h) (by rintro (h | h) <;> cases h)
      · exact Iff.rfl
  | _ => exact Iff.rfl

/-- Whoever is still asleep after a broadcast waits on something else. -/
theorem notify_waiting (M : Monitor Op Res σ κ) (c : κ) (p : Pc Op Res κ) (op : Op)
    (h : notify M c p = .waiting op) : p = .waiting op ∧ (M op).waitsOn ≠ c := by
  cases p with
  | waiting op' =>
      simp only [notify] at h
      split at h
      · cases h
      · rename_i hne
        cases h
        exact ⟨rfl, hne⟩
  | _ => cases h

/-- After a broadcast nobody waits on its condition variable, and those who
    wait on another one are attended as before. -/
theorem attended_broadcast {M : Monitor Op Res σ κ} {s : State ι Op Res σ κ} (hs : Attended M s)
    (t : ι) (op : Op) (res : Res) (c : κ) (h : s.pc t = .signalling op res c) :
    Attended M
      { s with pc := Function.update (fun u => notify M c (s.pc u)) t (.returning op res) } := by
  constructor
  · intro u op' res' c' hu
    by_cases hut : u = t
    · subst hut
      simp only [Function.update_self] at hu
      rcases hu with hu | hu <;> cases hu
    · simp only [Function.update_of_ne hut, notify_owes] at hu
      exact hs.owed u op' res' c' hu
  · intro u op' hu hclear
    by_cases hut : u = t
    · subst hut
      simp only [Function.update_self] at hu
      cases hu
    · simp only [Function.update_of_ne hut] at hu
      -- a thread that still sleeps waits on another condition
      rcases notify_waiting M c _ op' hu with ⟨hwaits, hne⟩
      rcases hs.asleep u op' hwaits hclear with ⟨v, op2, res2, hv⟩
      -- so the one that owes it the wake-up is another one as well
      have hvt : v ≠ t := by
        rintro rfl
        rw [h] at hv
        rcases hv with hv | hv
        · cases hv
        · injection hv with _ _ hc
          exact hne hc.symm
      refine ⟨v, op2, res2, ?_⟩
      simp only [Function.update_of_ne hvt, notify_owes]
      exact hv

theorem attended_step {M : Monitor Op Res σ κ} (hM : Announces M) {s s' : State ι Op Res σ κ}
    {a : Act ι Op Res} (hx : Exclusive M s) (hs : Attended M s) (h : Steps M s a s') :
    Attended M s' := by
  cases h with
  | call t op h => exact hs.move_quiet h _ rfl rfl (fun _ hc => by cases hc)
  | lock t op h ho => exact hs.move_quiet h _ rfl rfl (fun _ hc => by cases hc)
  | testBlocked t op h hb =>
      refine hs.move_quiet h _ rfl rfl (fun op' hc => ?_)
      cases hc
      exact hb
  | testClear t op h hb => exact hs.move_quiet h _ rfl rfl (fun _ hc => by cases hc)
  | body t op h => exact attended_body hM hx hs t op h
  | wake t op h => exact hs.move_quiet h _ rfl rfl (fun _ hc => by cases hc)
  | expire t op err h he => exact hs.move_quiet h _ rfl rfl (fun _ hc => by cases hc)
  | relockClean t op h ho => exact hs.move_quiet h _ rfl rfl (fun _ hc => by cases hc)
  | relockFailed t op err h he ho => exact hs.move_quiet h _ rfl rfl (fun _ hc => by cases hc)
  | unlock t op res c h =>
      cases c with
      | none => exact hs.move_quiet h _ rfl rfl (fun _ hc => by cases hc)
      | some c =>
          -- releasing the mutex leaves the broadcast to be made
          refine hs.move t _ _ (fun op' res' c' => ?_) (fun _ hc => by cases hc)
          rw [h]
          constructor
          · rintro (hc | hc)
            · cases hc
            · cases hc
              exact Or.inl rfl
          · rintro (hc | hc)
            · cases hc
              exact Or.inr rfl
            · cases hc
  | broadcast t op res c h => exact attended_broadcast hs t op res c h
  | ret t op res h => exact hs.move_quiet h _ rfl rfl (fun _ hc => by cases hc)

variable [DecidableEq Op] [DecidableEq Res]

/-- In every reachable state a thread asleep is blocked, or about to be
    woken. -/
theorem attended_reachable {M : Monitor Op Res σ κ} (hM : Announces M) (obj : σ)
    {s : State ι Op Res σ κ} (h : (threads ι M obj).Reachable s) : Attended M s := by
  have hinit : Attended M (threads ι M obj).init :=
    ⟨fun t op res c hc => absurd hc (not_owes rfl op res c), fun _ _ hc => (by cases hc)⟩
  refine System.reachable_induction _ hinit ?_ h
  intro s a s' hreach hs hstep
  exact attended_step hM (exclusive_reachable M obj hreach) hs (steps_of_step M hstep)

end TimedWait
