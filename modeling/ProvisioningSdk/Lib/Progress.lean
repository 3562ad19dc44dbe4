import ProvisioningSdk.Lib.TimedMonitor

/-!
# Progress of a Monitor

That the calls on a monitor end.

A thread that holds the mutex can always go on, and releases it in at most three
steps. Whoever wants it and finds it taken therefore waits for a thread that is
not held up itself (`goesOn`), and a thread asleep can always be woken by its
timeout. This rules out that all of them are stuck.

It does not rule out that they go on for ever. `Pc.left` counts the steps a
thread has left if nothing interferes. A step of its own lowers the number. Only
a wake-up raises it, because the test is repeated after it, and it is either
spurious or made by a broadcast. A call broadcasts at most once, so all the steps
of a run are paid for by its calls and its spurious wake-ups
(`length_le_calls`).

Both together: a run that cannot go on without another call or spurious wake-up
has answered every call, and there is a bound on how long it takes to get there.

## Main definitions

* `Pc.left`: The steps a thread has left.
* `OwnerInside`: The owner of the mutex is inside.
* `stepsOf`: The steps of a thread of one kind.
* `Stuck`, `AllReturned`: A run that cannot go on, and one that need not.

## Theorems

* `ownerInside_reachable`: The owner is inside, in every reachable state.
* `advance`: A thread that is not held up goes on.
* `goesOn`: Some thread always goes on.
* `returns_alone`: A thread returns by its own steps and those of the owner.
* `steps_le`: The steps of one thread.
* `length_le_calls`: The steps of all threads.
* `allReturned_of_stuck`: A run that cannot go on has answered every call.
-/

namespace TimedWait

open Transition

variable {ι Op Res σ κ : Type*}

/-- The steps a thread has left if nothing interferes. One that sleeps is woken
    by its timeout. -/
def Pc.left : Pc Op Res κ → Nat
  | .idle => 0
  | .entered _ => 6
  | .testing _ => 5
  | .acting _ => 4
  | .waiting _ => 4
  | .woken _ err => if err = 0 then 6 else 3
  | .leaving _ _ (some _) => 3
  | .leaving _ _ none => 2
  | .signalling _ _ _ => 2
  | .returning _ _ => 1

theorem Pc.left_eq_zero {p : Pc Op Res κ} (h : p.left = 0) : p = .idle := by
  cases p with
  | idle => rfl
  | woken op err =>
      simp only [Pc.left] at h
      split_ifs at h
  | leaving op res c => cases c <;> cases h
  | _ => cases h

/-- The steps a thread inside has left until it releases the mutex. -/
def Pc.inside : Pc Op Res κ → Nat
  | .testing _ => 3
  | .acting _ => 2
  | .leaving _ _ _ => 1
  | _ => 0

theorem Pc.left_le (p : Pc Op Res κ) : p.left ≤ 6 := by
  cases p with
  | woken op err =>
      simp only [Pc.left]
      split_ifs <;> decide
  | leaving op res c => cases c <;> simp only [Pc.left] <;> decide
  | _ => simp only [Pc.left]; decide

theorem Pc.inside_le (p : Pc Op Res κ) : p.inside ≤ 3 := by
  cases p <;> simp only [Pc.inside] <;> decide

/-- The owner of the mutex is inside. -/
def OwnerInside (s : State ι Op Res σ κ) : Prop := ∀ t, s.owner = some t → (s.pc t).holds = true

/-- The mutex does not hold the thread up. -/
def State.Free (s : State ι Op Res σ κ) (t : ι) : Prop := s.owner = none ∨ s.owner = some t

/-- A thread that is not inside can only find the mutex free. -/
theorem OwnerInside.free_outside {s : State ι Op Res σ κ} (hs : OwnerInside s) {t : ι}
    (hfree : s.Free t) (hout : (s.pc t).holds = false) : s.owner = none := by
  rcases hfree with ho | ho
  · exact ho
  · rw [hs t ho] at hout
    cases hout

variable [DecidableEq ι]

/-! ### Counting steps -/

/-- A spurious wake-up. -/
def Act.isWake : Act ι Op Res → Bool
  | .wake _ => true
  | _ => false

def Act.isBroadcast : Act ι Op Res → Bool
  | .broadcast _ => true
  | _ => false

def Act.isRet : Act ι Op Res → Bool
  | .ret _ _ _ => true
  | _ => false

/-- The step is one that no call needs: another call, or a spurious wake-up. -/
def Act.isExtra (a : Act ι Op Res) : Bool := a.isCall || a.isWake

/-- The steps of a thread of one kind. -/
def stepsOf (p : Act ι Op Res → Bool) (t : ι) (acts : List (Act ι Op Res)) : Nat :=
  acts.countP (fun a => p a && decide (a.thread = t))

/-- The steps of some threads of one kind. -/
def stepsIn (p : Act ι Op Res → Bool) (ts : List ι) (acts : List (Act ι Op Res)) : Nat :=
  acts.countP (fun a => p a && decide (a.thread ∈ ts))

theorem stepsOf_concat (p : Act ι Op Res → Bool) (t : ι) (acts : List (Act ι Op Res))
    (a : Act ι Op Res) : stepsOf p t (acts ++ [a]) = stepsOf p t acts + stepsOf p t [a] :=
  List.countP_append

theorem stepsOf_self (p : Act ι Op Res → Bool) (a : Act ι Op Res) :
    stepsOf p a.thread [a] = if p a then 1 else 0 := by
  simp only [stepsOf, List.countP_singleton, decide_true, Bool.and_true]

theorem stepsOf_other (p : Act ι Op Res → Bool) {a : Act ι Op Res} {t : ι} (h : t ≠ a.thread) :
    stepsOf p t [a] = 0 := by
  simp only [stepsOf, List.countP_singleton, decide_eq_false (Ne.symm h), Bool.and_false,
    Bool.false_eq_true, if_false]

theorem stepsIn_cons (p : Act ι Op Res → Bool) {t : ι} {ts : List ι} (h : t ∉ ts)
    (acts : List (Act ι Op Res)) :
    stepsIn p (t :: ts) acts = stepsOf p t acts + stepsIn p ts acts := by
  unfold stepsIn stepsOf
  induction acts with
  | nil => rfl
  | cons a acts ih =>
      rw [List.countP_cons, List.countP_cons, List.countP_cons, ih]
      by_cases hat : a.thread = t
      · -- a step of this thread is none of the others
        have hnot : a.thread ∉ ts := by rwa [hat]
        simp only [hat, List.mem_cons, true_or, decide_true, h, decide_false, Bool.and_true,
          Bool.and_false, Bool.false_eq_true, if_false]
        omega
      · simp only [hat, List.mem_cons, false_or, decide_false, Bool.and_false,
          Bool.false_eq_true, if_false]
        omega

/-- The steps are those of the threads that take part. -/
theorem stepsIn_eq (p : Act ι Op Res → Bool) {ts : List ι} {acts : List (Act ι Op Res)}
    (hts : ∀ a ∈ acts, a.thread ∈ ts) : stepsIn p ts acts = acts.countP p := by
  refine List.countP_congr (fun a ha => ?_)
  rw [decide_eq_true (hts a ha), Bool.and_true]

/-! ### The owner -/

theorem OwnerInside.move {s : State ι Op Res σ κ} (hs : OwnerInside s) (t : ι) (o : Option ι)
    (p : Pc Op Res κ) (hself : o = some t → p.holds = true)
    (hother : ∀ u, u ≠ t → o = some u → s.owner = some u) : OwnerInside (s.move t o p) := by
  intro u hu
  by_cases hut : u = t
  · subst hut
    rw [move_pc_self]
    exact hself hu
  · rw [move_pc_other _ _ _ _ _ hut]
    exact hs u (hother u hut hu)

/-- A step of a thread that is not inside leaves the mutex to its owner. -/
theorem OwnerInside.move_outside {s : State ι Op Res σ κ} (hs : OwnerInside s) {t : ι}
    (ht : (s.pc t).holds = false) (p : Pc Op Res κ) : OwnerInside (s.move t s.owner p) := by
  refine hs.move t s.owner p (fun ho => ?_) (fun _ _ ho => ho)
  rw [hs t ho] at ht
  cases ht

variable [DecidableEq κ]

theorem ownerInside_step {M : Monitor Op Res σ κ} {s s' : State ι Op Res σ κ} {a : Act ι Op Res}
    (hs : OwnerInside s) (h : Steps M s a s') : OwnerInside s' := by
  -- a step takes the mutex, gives it back, or leaves it with who has it
  have htaken : ∀ t p, (p : Pc Op Res κ).holds = true → OwnerInside (s.move t (some t) p) :=
    fun t p hp => hs.move t _ p (fun _ => hp) (fun u hut ho => absurd (Option.some.inj ho).symm hut)
  have hreleased : ∀ t p, OwnerInside (s.move t none p) :=
    fun t p => hs.move t none p nofun (fun _ _ ho => nomatch ho)
  have hkept : ∀ t p, (p : Pc Op Res κ).holds = true → OwnerInside (s.move t s.owner p) :=
    fun t p hp => hs.move t _ p (fun _ => hp) (fun _ _ ho => ho)
  cases h with
  | call t op h => exact hs.move_outside (by rw [h]; rfl) _
  | lock t op h ho => exact htaken t _ rfl
  | testBlocked t op h hb => exact hreleased t _
  | testClear t op h hb => exact hkept t _ rfl
  | body t op h => exact hkept t _ rfl
  | wake t op h => exact hs.move_outside (by rw [h]; rfl) _
  | expire t op err h he => exact hs.move_outside (by rw [h]; rfl) _
  | relockClean t op h ho => exact htaken t _ rfl
  | relockFailed t op err h he ho => exact htaken t _ rfl
  | unlock t op res c h => exact hreleased t _
  | broadcast t op res c h =>
      intro u hu
      have hholds := hs u hu
      have hut : u ≠ t := by
        rintro rfl
        rw [h] at hholds
        cases hholds
      simp only [Function.update_of_ne hut, notify_holds]
      exact hholds
  | ret t op res h => exact hs.move_outside (by rw [h]; rfl) _

/-! ### What a step costs -/

/-- What a step of its own costs a thread. -/
theorem left_self {M : Monitor Op Res σ κ} {s s' : State ι Op Res σ κ} {a : Act ι Op Res}
    (h : Steps M s a s') :
    (s'.pc a.thread).left + 1 ≤ (s.pc a.thread).left + 7 * stepsOf Act.isCall a.thread [a] +
      3 * stepsOf Act.isWake a.thread [a] := by
  rw [stepsOf_self, stepsOf_self]
  -- the places before and after are known, and so what is left at each of them
  have hmove : ∀ t o p n, s.pc t = n → ∀ k, p.left + 1 ≤ n.left + k →
      ((s.move t o p).pc t).left + 1 ≤ (s.pc t).left + k := by
    intro t o p n hn k hk
    rw [move_pc_self, hn]
    exact hk
  cases h with
  | call t op h => exact hmove t _ _ _ h 7 (by simp only [Pc.left]; omega)
  | lock t op h ho => exact hmove t _ _ _ h 0 (by simp only [Pc.left]; omega)
  | testBlocked t op h hb => exact hmove t _ _ _ h 0 (by simp only [Pc.left]; omega)
  | testClear t op h hb => exact hmove t _ _ _ h 0 (by simp only [Pc.left]; omega)
  | body t op h =>
      refine hmove t s.owner (.leaving op ((M op).body s.obj).2 (M op).signals) _ h 0 ?_
      cases (M op).signals <;> simp only [Pc.left] <;> omega
  | wake t op h => exact hmove t _ _ _ h 3 (by simp only [Pc.left, if_true]; omega)
  | expire t op err h he => exact hmove t _ _ _ h 0 (by simp only [Pc.left, if_neg he]; omega)
  | relockClean t op h ho => exact hmove t _ _ _ h 0 (by simp only [Pc.left, if_true]; omega)
  | relockFailed t op err h he ho =>
      exact hmove t _ _ _ h 0 (by simp only [Pc.left, if_neg he]; omega)
  | unlock t op res c h =>
      refine hmove t _ _ _ h 0 ?_
      cases c <;> simp only [Pc.left, afterUnlock] <;> omega
  | broadcast t op res c h =>
      simp only [Act.thread, Function.update_self, h, Pc.left]
      omega
  | ret t op res h => exact hmove t _ _ _ h 0 (by simp only [Pc.left]; omega)

/-- What a broadcast costs a thread that it wakes. -/
theorem left_notify (M : Monitor Op Res σ κ) (c : κ) (p : Pc Op Res κ) :
    (notify M c p).left ≤ p.left + 2 := by
  cases p with
  | waiting op =>
      simp only [notify]
      split_ifs
      · simp only [Pc.left, if_true]
        omega
      · exact Nat.le_add_right _ _
  | _ => exact Nat.le_add_right _ _

/-- A step moves another thread only if it wakes it. -/
theorem pc_other {M : Monitor Op Res σ κ} {s s' : State ι Op Res σ κ} {a : Act ι Op Res}
    (h : Steps M s a s') {t : ι} (ht : t ≠ a.thread) :
    s'.pc t = s.pc t ∨ a.isBroadcast = true ∧ ∃ c, s'.pc t = notify M c (s.pc t) := by
  cases h with
  | body u op h =>
      exact Or.inl (move_pc_other s u t s.owner
        (.leaving op ((M op).body s.obj).2 (M op).signals) ht)
  | broadcast u op res c h =>
      have htu : t ≠ u := ht
      exact Or.inr ⟨rfl, c, by simp only [Function.update_of_ne htu]⟩
  | _ => exact Or.inl (move_pc_other _ _ _ _ _ ht)

/-- What a step costs the other threads. -/
theorem left_other {M : Monitor Op Res σ κ} {s s' : State ι Op Res σ κ} {a : Act ι Op Res}
    (h : Steps M s a s') {t : ι} (ht : t ≠ a.thread) :
    (s'.pc t).left ≤ (s.pc t).left + 2 * [a].countP Act.isBroadcast := by
  rcases pc_other h ht with hpc | ⟨hbroadcast, c, hpc⟩
  · rw [hpc]
    exact Nat.le_add_right _ _
  · rw [hpc, List.countP_singleton, if_pos hbroadcast]
    exact left_notify M c _

/-- The broadcasts a thread may still make. -/
def Pc.owed : Pc Op Res κ → Nat
  | .idle => 0
  | .returning _ _ => 0
  | _ => 1

/-- A call is under way. -/
def Pc.busy : Pc Op Res κ → Nat
  | .idle => 0
  | _ => 1

theorem owed_self {M : Monitor Op Res σ κ} {s s' : State ι Op Res σ κ} {a : Act ι Op Res}
    (h : Steps M s a s') :
    (s'.pc a.thread).owed + stepsOf Act.isBroadcast a.thread [a] ≤
      (s.pc a.thread).owed + stepsOf Act.isCall a.thread [a] := by
  rw [stepsOf_self, stepsOf_self]
  -- what a thread owes depends on where it is only
  have hmove : ∀ t o p n, s.pc t = n → ∀ k, p.owed ≤ n.owed + k →
      ((s.move t o p).pc t).owed ≤ (s.pc t).owed + k := by
    intro t o p n hn k hk
    rw [move_pc_self, hn]
    exact hk
  cases h with
  | call t op h => exact hmove t _ _ _ h 1 (Nat.le_refl 1)
  | body t op h =>
      exact hmove t s.owner (.leaving op ((M op).body s.obj).2 (M op).signals) _ h 0 (Nat.le_refl 1)
  | unlock t op res c h =>
      refine hmove t _ _ _ h 0 ?_
      cases c with
      | none => exact Nat.zero_le 1
      | some c => exact Nat.le_refl 1
  | broadcast t op res c h =>
      simp only [Act.thread, Function.update_self, h]
      exact Nat.le_refl 1
  | ret t op res h => exact hmove t _ _ _ h 0 (Nat.le_refl 0)
  | lock t op h ho => exact hmove t _ _ _ h 0 (Nat.le_refl 1)
  | testBlocked t op h hb => exact hmove t _ _ _ h 0 (Nat.le_refl 1)
  | testClear t op h hb => exact hmove t _ _ _ h 0 (Nat.le_refl 1)
  | wake t op h => exact hmove t _ _ _ h 0 (Nat.le_refl 1)
  | expire t op err h he => exact hmove t _ _ _ h 0 (Nat.le_refl 1)
  | relockClean t op h ho => exact hmove t _ _ _ h 0 (Nat.le_refl 1)
  | relockFailed t op err h he ho => exact hmove t _ _ _ h 0 (Nat.le_refl 1)

theorem busy_self {M : Monitor Op Res σ κ} {s s' : State ι Op Res σ κ} {a : Act ι Op Res}
    (h : Steps M s a s') :
    (s'.pc a.thread).busy + stepsOf Act.isRet a.thread [a] =
      (s.pc a.thread).busy + stepsOf Act.isCall a.thread [a] := by
  rw [stepsOf_self, stepsOf_self]
  -- only a call and a return change whether the thread is busy
  have hmove : ∀ t o p n, s.pc t = n → p.busy = n.busy →
      ((s.move t o p).pc t).busy = (s.pc t).busy := by
    intro t o p n hn hp
    rw [move_pc_self, hn, hp]
  cases h with
  | call t op h =>
      simp only [Act.thread, move_pc_self, h]
      rfl
  | body t op h =>
      exact hmove t s.owner (.leaving op ((M op).body s.obj).2 (M op).signals) _ h rfl
  | unlock t op res c h =>
      refine hmove t _ _ _ h ?_
      cases c <;> rfl
  | broadcast t op res c h =>
      simp only [Act.thread, Function.update_self, h]
      rfl
  | ret t op res h =>
      simp only [Act.thread, move_pc_self, h]
      rfl
  | lock t op h ho => exact hmove t _ _ _ h rfl
  | testBlocked t op h hb => exact hmove t _ _ _ h rfl
  | testClear t op h hb => exact hmove t _ _ _ h rfl
  | wake t op h => exact hmove t _ _ _ h rfl
  | expire t op err h he => exact hmove t _ _ _ h rfl
  | relockClean t op h ho => exact hmove t _ _ _ h rfl
  | relockFailed t op err h he ho => exact hmove t _ _ _ h rfl

/-- A thread that is woken has as much of its call before it. -/
theorem notify_owed_busy (M : Monitor Op Res σ κ) (c : κ) (p : Pc Op Res κ) :
    (notify M c p).owed = p.owed ∧ (notify M c p).busy = p.busy := by
  cases p with
  | waiting op =>
      simp only [notify]
      split_ifs
      · exact ⟨rfl, rfl⟩
      · exact ⟨rfl, rfl⟩
  | _ => exact ⟨rfl, rfl⟩

theorem owed_busy_other {M : Monitor Op Res σ κ} {s s' : State ι Op Res σ κ} {a : Act ι Op Res}
    (h : Steps M s a s') {t : ι} (ht : t ≠ a.thread) :
    (s'.pc t).owed = (s.pc t).owed ∧ (s'.pc t).busy = (s.pc t).busy := by
  rcases pc_other h ht with hpc | ⟨-, c, hpc⟩
  · rw [hpc]
    exact ⟨rfl, rfl⟩
  · rw [hpc]
    exact notify_owed_busy M c _

variable [DecidableEq Op] [DecidableEq Res]

/-- In every reachable state the owner of the mutex is inside. -/
theorem ownerInside_reachable (M : Monitor Op Res σ κ) (obj : σ) {s : State ι Op Res σ κ}
    (h : (threads ι M obj).Reachable s) : OwnerInside s := by
  refine System.reachable_induction _ (fun _ ho => nomatch ho) ?_ h
  intro s a s' _ ih hs
  exact ownerInside_step ih (steps_of_step M hs)

/-! ### Going on -/

/-- A named step is accepted. -/
theorem step_of_steps (M : Monitor Op Res σ κ) {s s' : State ι Op Res σ κ} {a : Act ι Op Res}
    (h : Steps M s a s') : step M s a = some s' := by
  cases h with
  | call t op h => simp only [step, h]
  | lock t op h ho => simp only [step, h, ho]
  | testBlocked t op h hb => simp only [step, h, hb, if_true]
  | testClear t op h hb => simp only [step, h, hb, Bool.false_eq_true, if_false]
  | body t op h => simp only [step, h]
  | wake t op h => simp only [step, h]
  | expire t op err h he => simp only [step, h, if_neg he]
  | relockClean t op h ho => simp only [step, h, ho, if_true]
  | relockFailed t op err h he ho => simp only [step, h, ho, if_neg he]
  | unlock t op res c h => simp only [step, h]
  | broadcast t op res c h => simp only [step, h]
  | ret t op res h => simp only [step, h, and_self, if_true]

/-- A thread in a call goes on unless another has the mutex, and then has fewer
    steps left. -/
theorem advance (M : Monitor Op Res σ κ) {s : State ι Op Res σ κ} (hs : OwnerInside s) {t : ι}
    (ht : s.pc t ≠ .idle) (hfree : s.Free t) :
    ∃ a s', a.thread = t ∧ a.isExtra = false ∧ step M s a = some s' ∧ s'.Free t ∧
      (s'.pc t).left < (s.pc t).left := by
  -- a step that moves only this thread
  have hmove : ∀ a o p, Steps M s a (s.move t o p) → a.thread = t → a.isExtra = false →
      o = none ∨ o = some t → p.left < (s.pc t).left →
      ∃ a s', a.thread = t ∧ a.isExtra = false ∧ step M s a = some s' ∧ s'.Free t ∧
        (s'.pc t).left < (s.pc t).left := by
    intro a o p hsteps hthread hextra ho hleft
    refine ⟨a, _, hthread, hextra, step_of_steps M hsteps, ho, ?_⟩
    rw [move_pc_self]
    exact hleft
  cases hpc : s.pc t with
  | idle => exact absurd hpc ht
  -- outside the object the lock is free for it
  | entered op =>
      have ho := hs.free_outside hfree (by rw [hpc]; rfl)
      rw [← hpc]
      exact hmove _ _ _ (.lock t op hpc ho) rfl rfl (Or.inr rfl)
        (by rw [hpc]; exact (by decide : 5 < 6))
  | testing op =>
      rw [← hpc]
      cases hb : (M op).blocked s.obj with
      | true =>
          exact hmove _ _ _ (.testBlocked t op hpc hb) rfl rfl (Or.inl rfl)
            (by rw [hpc]; exact (by decide : 4 < 5))
      | false =>
          exact hmove _ _ _ (.testClear t op hpc hb) rfl rfl hfree
            (by rw [hpc]; exact (by decide : 4 < 5))
  | acting op =>
      refine ⟨.body t, _, rfl, rfl, step_of_steps M (.body t op hpc), hfree, ?_⟩
      have hself := move_pc_self s t s.owner (.leaving op ((M op).body s.obj).2 (M op).signals)
      refine Nat.lt_of_le_of_lt (Nat.le_of_eq (congrArg Pc.left hself)) ?_
      cases (M op).signals with
      | none => exact (by decide : 2 < 4)
      | some c => exact (by decide : 3 < 4)
  | waiting op =>
      rw [← hpc]
      -- a thread asleep is woken by its timeout
      exact hmove _ _ _ (.expire t op 1 hpc (by decide)) rfl rfl hfree
        (by rw [hpc]; exact (by decide : 3 < 4))
  | woken op err =>
      have ho := hs.free_outside hfree (by rw [hpc]; rfl)
      rw [← hpc]
      by_cases he : err = 0
      · subst he
        exact hmove _ _ _ (.relockClean t op hpc ho) rfl rfl (Or.inr rfl)
          (by rw [hpc]; exact (by decide : 5 < 6))
      · refine hmove _ _ _ (.relockFailed t op err hpc he ho) rfl rfl (Or.inr rfl) ?_
        simp only [hpc, Pc.left, if_neg he]
        decide
  -- on the way out it needs nobody
  | leaving op res c =>
      rw [← hpc]
      refine hmove _ _ _ (.unlock t op res c hpc) rfl rfl (Or.inl rfl) ?_
      rw [hpc]
      cases c with
      | none => exact (by decide : 1 < 2)
      | some c => exact (by decide : 2 < 3)
  | signalling op res c =>
      refine ⟨.broadcast t, _, rfl, rfl, step_of_steps M (.broadcast t op res c hpc), hfree, ?_⟩
      simp only [Function.update_self]
      exact (by decide : 1 < 2)
  | returning op res =>
      rw [← hpc]
      exact hmove _ _ _ (.ret t op res hpc) rfl rfl hfree
        (by rw [hpc]; exact (by decide : 0 < 1))

/-- While a call is under way, some thread goes on: the one that called, or the
    owner of the mutex. -/
theorem goesOn (M : Monitor Op Res σ κ) {s : State ι Op Res σ κ} (hs : OwnerInside s) {t : ι}
    (ht : s.pc t ≠ .idle) :
    ∃ a, (a.thread = t ∨ s.owner = some a.thread) ∧ a.isExtra = false ∧
      (step M s a).isSome = true := by
  by_cases hfree : s.Free t
  · rcases advance M hs ht hfree with ⟨a, s', hthread, hextra, hstep, -⟩
    exact ⟨a, Or.inl hthread, hextra, by rw [hstep]; rfl⟩
  · rcases not_or.mp hfree with ⟨hsome, -⟩
    rcases Option.ne_none_iff_exists'.mp hsome with ⟨u, hu⟩
    -- the owner is inside, and so in a call itself
    have hidle : s.pc u ≠ .idle := by
      intro hc
      have hholds := hs u hu
      rw [hc] at hholds
      cases hholds
    rcases advance M hs hidle (Or.inr hu) with ⟨a, s', hthread, hextra, hstep, -⟩
    exact ⟨a, Or.inr (by rw [hthread, hu]), hextra, by rw [hstep]; rfl⟩

/-! ### Returning alone -/

section Alone

variable (M : Monitor Op Res σ κ) (obj : σ)

/-- A thread that is not held up returns by steps of its own. -/
theorem returns_free (n : Nat) {s : State ι Op Res σ κ} (hs : OwnerInside s) {t : ι}
    (hfree : s.Free t) (hn : (s.pc t).left ≤ n) :
    ∃ acts s', (∀ a ∈ acts, a.thread = t ∧ a.isExtra = false) ∧ acts.length ≤ n ∧
      (threads ι M obj).runFrom s acts = some s' ∧ s'.pc t = .idle := by
  induction n generalizing s with
  | zero =>
      exact ⟨[], s, fun _ ha => (nomatch ha), Nat.le_refl 0, rfl,
        Pc.left_eq_zero (Nat.le_zero.mp hn)⟩
  | succ n ih =>
      by_cases hidle : s.pc t = .idle
      · exact ⟨[], s, fun _ ha => (nomatch ha), Nat.zero_le _, rfl, hidle⟩
      · rcases advance M hs hidle hfree with ⟨a, s1, hthread, hextra, hstep, hfree1, hleft⟩
        rcases ih (ownerInside_step hs (steps_of_step M hstep)) hfree1 (by omega) with
          ⟨acts, s', hacts, hlen, hrun, hpc⟩
        refine ⟨a :: acts, s', ?_, Nat.succ_le_succ hlen, ?_, hpc⟩
        · intro b hb
          rcases List.mem_cons.mp hb with rfl | hb
          · exact ⟨hthread, hextra⟩
          · exact hacts b hb
        · rw [System.runFrom_of_step _ hstep, hrun]

/-- A thread inside goes on towards the end of the section. -/
theorem advance_inside {s : State ι Op Res σ κ} {u : ι} (hu : (s.pc u).holds = true)
    (hfree : s.Free u) :
    ∃ a s', a.thread = u ∧ a.isExtra = false ∧ step M s a = some s' ∧ s'.Free u ∧
      (s'.pc u).inside < (s.pc u).inside ∧ ∀ t, t ≠ u → s'.pc t = s.pc t := by
  cases hpc : s.pc u with
  -- a thread inside comes closer to leaving the mutex, or gives it back to wait
  | testing op =>
      cases hb : (M op).blocked s.obj with
      | true =>
          refine ⟨_, _, rfl, rfl, step_of_steps M (.testBlocked u op hpc hb), Or.inl rfl, ?_,
            fun t htu => move_pc_other _ _ _ _ _ htu⟩
          rw [move_pc_self]
          exact (by decide : 0 < 3)
      | false =>
          refine ⟨_, _, rfl, rfl, step_of_steps M (.testClear u op hpc hb), hfree, ?_,
            fun t htu => move_pc_other _ _ _ _ _ htu⟩
          rw [move_pc_self]
          exact (by decide : 2 < 3)
  | acting op =>
      refine ⟨_, _, rfl, rfl, step_of_steps M (.body u op hpc), hfree, ?_,
        fun t htu => move_pc_other s u t s.owner _ htu⟩
      have hself := move_pc_self s u s.owner (.leaving op ((M op).body s.obj).2 (M op).signals)
      exact Nat.lt_of_le_of_lt (Nat.le_of_eq (congrArg Pc.inside hself)) (by decide : 1 < 2)
  | leaving op res c =>
      refine ⟨_, _, rfl, rfl, step_of_steps M (.unlock u op res c hpc), Or.inl rfl, ?_,
        fun t htu => move_pc_other _ _ _ _ _ htu⟩
      rw [move_pc_self]
      cases c <;> exact (by decide : 0 < 1)
  | _ =>
      rw [hpc] at hu
      cases hu

/-- The owner of the mutex releases it, and moves no other thread. -/
theorem owner_releases (n : Nat) {s : State ι Op Res σ κ} (hs : OwnerInside s) {u : ι}
    (hfree : s.Free u) (hn : (s.pc u).inside ≤ n) :
    ∃ acts s', (∀ a ∈ acts, a.thread = u ∧ a.isExtra = false) ∧ acts.length ≤ n ∧
      (threads ι M obj).runFrom s acts = some s' ∧ OwnerInside s' ∧ s'.owner = none ∧
      ∀ t, t ≠ u → s'.pc t = s.pc t := by
  -- on the steps the owner still takes inside
  induction n generalizing s with
  | zero =>
      refine ⟨[], s, fun _ ha => (nomatch ha), Nat.le_refl 0, rfl, hs,
        hs.free_outside hfree ?_, fun _ _ => rfl⟩
      cases hpc : s.pc u with
      | testing op =>
          rw [hpc] at hn
          cases hn
      | acting op =>
          rw [hpc] at hn
          cases hn
      | leaving op res c =>
          rw [hpc] at hn
          cases hn
      | _ => rfl
  | succ n ih =>
      cases hholds : (s.pc u).holds with
      | false =>
          exact ⟨[], s, fun _ ha => (nomatch ha), Nat.zero_le _, rfl, hs,
            hs.free_outside hfree hholds, fun _ _ => rfl⟩
      | true =>
          rcases advance_inside M hholds hfree with
            ⟨a, s1, hthread, hextra, hstep, hfree1, hleft, hother1⟩
          rcases ih (ownerInside_step hs (steps_of_step M hstep)) hfree1 (by omega) with
            ⟨acts, s', hacts, hlen, hrun, hs', hnone, hother⟩
          refine ⟨a :: acts, s', ?_, Nat.succ_le_succ hlen, ?_, hs', hnone, ?_⟩
          · intro b hb
            rcases List.mem_cons.mp hb with rfl | hb
            · exact ⟨hthread, hextra⟩
            · exact hacts b hb
          · rw [System.runFrom_of_step _ hstep, hrun]
          · exact fun t htu => (hother t htu).trans (hother1 t htu)

/-- A call that is under way returns by steps of its own thread and at most
    three of the owner of the mutex. -/
theorem returns_alone {s : State ι Op Res σ κ} (hs : OwnerInside s) (t : ι) :
    ∃ acts s', (∀ a ∈ acts, (a.thread = t ∨ s.owner = some a.thread) ∧ a.isExtra = false) ∧
      acts.length ≤ 9 ∧ (threads ι M obj).runFrom s acts = some s' ∧ s'.pc t = .idle := by
  have hleft : (s.pc t).left ≤ 6 := Pc.left_le _
  by_cases hfree : s.Free t
  · rcases returns_free M obj _ hs hfree hleft with ⟨acts, s', hacts, hlen, hrun, hpc⟩
    exact ⟨acts, s', fun a ha => ⟨Or.inl (hacts a ha).1, (hacts a ha).2⟩, by omega, hrun, hpc⟩
  · rcases not_or.mp hfree with ⟨hsome, hne⟩
    rcases Option.ne_none_iff_exists'.mp hsome with ⟨u, hu⟩
    have htu : t ≠ u := by
      rintro rfl
      exact hne hu
    -- first the owner leaves, and then the thread is not held up
    rcases owner_releases M obj 3 hs (Or.inr hu) (Pc.inside_le _) with
      ⟨acts1, s1, hacts1, hlen1, hrun1, hs1, hnone, hother⟩
    rcases returns_free M obj 6 hs1 (Or.inl hnone) (by rw [hother t htu]; exact hleft) with
      ⟨acts2, s2, hacts2, hlen2, hrun2, hpc⟩
    refine ⟨acts1 ++ acts2, s2, fun a ha => ?_, ?_, ?_, hpc⟩
    · rcases List.mem_append.mp ha with ha | ha
      · exact ⟨Or.inr (by rw [(hacts1 a ha).1, hu]), (hacts1 a ha).2⟩
      · exact ⟨Or.inl (hacts2 a ha).1, (hacts2 a ha).2⟩
    · rw [List.length_append]
      omega
    · rw [System.runFrom_append, hrun1, Option.bind_some, hrun2]

end Alone

/-! ### The steps of a run -/

/-- The steps a thread takes are paid for by its calls, its spurious wake-ups and
    the broadcasts of the others. -/
theorem steps_le (M : Monitor Op Res σ κ) (obj : σ) (t : ι) (acts : List (Act ι Op Res))
    (s : State ι Op Res σ κ) (hrun : (threads ι M obj).run acts = some s) :
    stepsOf (fun _ => true) t acts + (s.pc t).left + 2 * stepsOf Act.isBroadcast t acts ≤
      7 * stepsOf Act.isCall t acts + 3 * stepsOf Act.isWake t acts +
        2 * acts.countP Act.isBroadcast := by
  refine System.run_induction _ (P := fun acts s =>
    stepsOf (fun _ => true) t acts + (s.pc t).left + 2 * stepsOf Act.isBroadcast t acts ≤
      7 * stepsOf Act.isCall t acts + 3 * stepsOf Act.isWake t acts +
        2 * acts.countP Act.isBroadcast) (Nat.le_refl 0) ?_ acts s hrun
  intro acts s a s' _ ih hstep
  have hsteps := steps_of_step M hstep
  simp only [stepsOf_concat, List.countP_append]
  by_cases ht : t = a.thread
  · subst ht
    have hleft := left_self hsteps
    -- its own broadcast wakes nobody that sleeps here
    have hown : stepsOf Act.isBroadcast a.thread [a] = [a].countP Act.isBroadcast := by
      rw [stepsOf_self, List.countP_singleton]
    have hone : stepsOf (fun _ => true) a.thread [a] = 1 := by
      rw [stepsOf_self]
      rfl
    omega
  · have hleft := left_other hsteps ht
    simp only [stepsOf_other _ ht]
    omega

/-- A call broadcasts at most once. -/
theorem broadcasts_le (M : Monitor Op Res σ κ) (obj : σ) (t : ι) (acts : List (Act ι Op Res))
    (s : State ι Op Res σ κ) (hrun : (threads ι M obj).run acts = some s) :
    stepsOf Act.isBroadcast t acts + (s.pc t).owed ≤ stepsOf Act.isCall t acts := by
  refine System.run_induction _ (P := fun acts s =>
    stepsOf Act.isBroadcast t acts + (s.pc t).owed ≤ stepsOf Act.isCall t acts)
    (Nat.le_refl 0) ?_ acts s hrun
  intro acts s a s' _ ih hstep
  have hsteps := steps_of_step M hstep
  rw [stepsOf_concat, stepsOf_concat]
  by_cases ht : t = a.thread
  · subst ht
    have hself := owed_self hsteps
    omega
  · rw [stepsOf_other _ ht, stepsOf_other _ ht, (owed_busy_other hsteps ht).1]
    exact ih

/-- The calls of a thread are those that returned, and the one under way. -/
theorem calls_eq (M : Monitor Op Res σ κ) (obj : σ) (t : ι) (acts : List (Act ι Op Res))
    (s : State ι Op Res σ κ) (hrun : (threads ι M obj).run acts = some s) :
    stepsOf Act.isRet t acts + (s.pc t).busy = stepsOf Act.isCall t acts := by
  refine System.run_induction _ (P := fun acts s =>
    stepsOf Act.isRet t acts + (s.pc t).busy = stepsOf Act.isCall t acts) rfl ?_ acts s hrun
  intro acts s a s' _ ih hstep
  have hsteps := steps_of_step M hstep
  rw [stepsOf_concat, stepsOf_concat]
  by_cases ht : t = a.thread
  · subst ht
    have hself := busy_self hsteps
    omega
  · rw [stepsOf_other _ ht, stepsOf_other _ ht, (owed_busy_other hsteps ht).2]
    exact ih

/-- The steps of some threads. -/
theorem stepsIn_le (M : Monitor Op Res σ κ) (obj : σ) {ts : List ι} (hnodup : ts.Nodup)
    (acts : List (Act ι Op Res)) (s : State ι Op Res σ κ)
    (hrun : (threads ι M obj).run acts = some s) :
    stepsIn (fun _ => true) ts acts + 2 * stepsIn Act.isBroadcast ts acts ≤
      7 * stepsIn Act.isCall ts acts + 3 * stepsIn Act.isWake ts acts +
        2 * ts.length * acts.countP Act.isBroadcast ∧
    stepsIn Act.isBroadcast ts acts ≤ stepsIn Act.isCall ts acts := by
  induction ts with
  | nil =>
      have hnil : ∀ p : Act ι Op Res → Bool, stepsIn p [] acts = 0 := by
        intro p
        simp only [stepsIn, List.not_mem_nil, decide_false, Bool.and_false, List.countP_false]
        rfl
      simp only [hnil]
      exact ⟨Nat.zero_le _, Nat.le_refl 0⟩
  | cons t ts ih =>
      rcases List.nodup_cons.mp hnodup with ⟨ht, hnodup'⟩
      rcases ih hnodup' with ⟨htaken, hbroadcasts⟩
      have htaken1 := steps_le M obj t acts s hrun
      have hbroadcasts1 := broadcasts_le M obj t acts s hrun
      simp only [stepsIn_cons _ ht, List.length_cons, Nat.mul_add, Nat.add_mul]
      constructor
      · omega
      · omega

/-- Nothing can happen but another call or a spurious wake-up. -/
def Stuck (M : Monitor Op Res σ κ) (s : State ι Op Res σ κ) : Prop :=
  ∀ a, a.isExtra = false → step M s a = none

/-- Every call returned, and the mutex is free. -/
def AllReturned (s : State ι Op Res σ κ) (acts : List (Act ι Op Res)) : Prop :=
  s.owner = none ∧
    ∀ t, s.pc t = .idle ∧ stepsOf Act.isRet t acts = stepsOf Act.isCall t acts

/-- The length of a run is bounded by its calls and its spurious wake-ups. -/
theorem length_le_calls (M : Monitor Op Res σ κ) (obj : σ) {ts : List ι} (hnodup : ts.Nodup)
    {acts : List (Act ι Op Res)} (hts : ∀ a ∈ acts, a.thread ∈ ts) {s : State ι Op Res σ κ}
    (hrun : (threads ι M obj).run acts = some s) :
    acts.length ≤ (2 * ts.length + 5) * acts.countP Act.isCall + 3 * acts.countP Act.isWake := by
  rcases stepsIn_le M obj hnodup acts s hrun with ⟨htaken, hbroadcasts⟩
  simp only [stepsIn_eq _ hts, List.countP_true] at htaken hbroadcasts
  -- each broadcast of one thread may wake all the others
  rcases Nat.eq_zero_or_pos ts.length with hnone | hsome
  · rw [List.length_eq_zero_iff.mp hnone] at hts
    cases acts with
    | nil => exact Nat.zero_le _
    | cons a acts => exact absurd (hts a List.mem_cons_self) List.not_mem_nil
  · have hwoken : (2 * ts.length - 2) * acts.countP Act.isBroadcast ≤
        (2 * ts.length - 2) * acts.countP Act.isCall := Nat.mul_le_mul_left _ hbroadcasts
    have hsplit : ∀ n, 2 * ts.length * n = (2 * ts.length - 2) * n + 2 * n := by
      intro n
      rw [← Nat.add_mul]
      congr 1
      omega
    rw [hsplit] at htaken
    rw [Nat.add_mul, hsplit]
    omega

/-- A run that can only go on with another call or a spurious wake-up has
    answered every call, and left the mutex. -/
theorem allReturned_of_stuck (M : Monitor Op Res σ κ) (obj : σ) {acts : List (Act ι Op Res)}
    {s : State ι Op Res σ κ} (hrun : (threads ι M obj).run acts = some s) (hstuck : Stuck M s) :
    AllReturned s acts := by
  have hs := ownerInside_reachable M obj ⟨acts, hrun⟩
  have hidle : ∀ t, s.pc t = .idle := by
    intro t
    by_contra hbusy
    rcases goesOn M hs hbusy with ⟨a, -, hextra, hstep⟩
    rw [hstuck a hextra] at hstep
    cases hstep
  refine ⟨?_, fun t => ⟨hidle t, ?_⟩⟩
  · by_contra hsome
    rcases Option.ne_none_iff_exists'.mp hsome with ⟨u, hu⟩
    have hholds := hs u hu
    rw [hidle u] at hholds
    cases hholds
  · have hcalls := calls_eq M obj t acts s hrun
    rw [hidle t] at hcalls
    exact hcalls

end TimedWait
