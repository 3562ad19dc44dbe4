import ProvisioningSdk.Provisioning.Workflow

/-!
# Retrying the Workflow

What the iterations of `ProvisionDevicePKCS11WithFP` attempt, read off the log.

The loop is there to attempt the workflow again after a failure. An iteration
that fails leaves a false status, though, and the next one begins with it, so
all its steps are passed over, the first one included. The retries are then
right exactly if there are none (`provision_retries_iff`): if one iteration is
all there may be, or none of the steps of the first one fails.

## Main definitions

* `attempts`: The steps each iteration attempted, and how they went.
* `Attempted`: The workflow was attempted up to the first failure.
* `Retries`: What a run should do.

## Theorems

* `iteration_attempts`: The first iteration attempts the workflow.
* `retryLoop_false`: The later ones attempt nothing.
* `provision_retries_iff`: When the retries are right.
-/

namespace ProvisioningSdk

namespace FleetProvisioning

open Effect

/-! ### The log of the steps -/

/-- The steps of the iterations, the last iteration first. -/
def attemptsStep (its : List (List (Step × Bool))) : Event → List (List (Step × Bool))
  | .iteration => [] :: its
  | .step s status => match its with
    | [] => []
    | it :: rest => (it ++ [(s, status)]) :: rest
  | _ => its

/-- The steps each iteration attempted, the last iteration first. -/
def attempts (trace : List Event) : List (List (Step × Bool)) :=
  trace.foldl attemptsStep []

theorem attempts_concat (trace : List Event) (e : Event) :
    attempts (trace ++ [e]) = attemptsStep (attempts trace) e := by
  unfold attempts
  rw [List.foldl_append]
  rfl

/-- The steps of the workflow. -/
def workflow : List Step := claimSteps ++ [.establishWithDevice]

/-- The steps were done up to the first that failed, and the status is the
    last. -/
def Outcome (steps : List Step) (status : Bool) (it : List (Step × Bool)) : Prop :=
  (status = true ∧ it = steps.map (fun s => (s, true))) ∨
    (status = false ∧ ∃ before s after, steps = before ++ s :: after ∧
      it = before.map (fun s => (s, true)) ++ [(s, false)])

/-- The workflow was attempted. -/
def Attempted (it : List (Step × Bool)) : Prop := ∃ status, Outcome workflow status it

/-- The workflow was attempted as far as the calls returned. -/
def Interrupted (it : List (Step × Bool)) : Prop :=
  ∃ before after, workflow = before ++ after ∧ it = before.map (fun s => (s, true))

/-- What a run that returned should have done. -/
structure Retries (maxDemoLoopCount : Nat) (result : Int) (its : List (List (Step × Bool))) :
    Prop where
  /-- Every iteration attempts the workflow from its first step on. -/
  attempted : ∀ it ∈ its, Attempted it
  /-- An iteration in which all goes well ends in success. -/
  success : ∀ it ∈ its, (∀ a ∈ it, a.2 = true) → result = 0
  /-- Otherwise every iteration was used, and failed. -/
  failure : result = -1 → its.length = maxDemoLoopCount ∧ ∀ it ∈ its, ∃ a ∈ it, a.2 = false

/-- What a run should do. A run that does not return is in some call of an
    iteration in which nothing failed. -/
def RunRetries (maxDemoLoopCount : Nat) : EStateM.Result Halt World Int → Prop
  | .ok result w' => Retries maxDemoLoopCount result (attempts w'.trace)
  | .error _ w' => ∀ it ∈ attempts w'.trace, Interrupted it

theorem Outcome.nil : Outcome [] true [] := Or.inl ⟨rfl, rfl⟩

/-- A step that succeeded before the others. -/
theorem Outcome.cons {steps : List Step} {status : Bool} {it : List (Step × Bool)} (s : Step)
    (h : Outcome steps status it) : Outcome (s :: steps) status ((s, true) :: it) := by
  rcases h with ⟨hs, rfl⟩ | ⟨hs, before, s', after, rfl, rfl⟩
  · exact Or.inl ⟨hs, rfl⟩
  · exact Or.inr ⟨hs, s :: before, s', after, rfl, rfl⟩

/-- Steps that are not reached after a failure. -/
theorem Outcome.extend {steps : List Step} {it : List (Step × Bool)} (more : List Step)
    (h : Outcome steps false it) : Outcome (steps ++ more) false it := by
  rcases h with ⟨hs, -⟩ | ⟨hs, before, s, after, rfl, rfl⟩
  · cases hs
  -- what comes after the failure is longer, and not attempted all the same
  · exact Or.inr ⟨hs, before, s, after ++ more, by rw [List.append_assoc, List.cons_append], rfl⟩

/-- Further steps after a success. -/
theorem Outcome.append {steps more : List Step} {status : Bool} {it it' : List (Step × Bool)}
    (h : Outcome steps true it) (h' : Outcome more status it') :
    Outcome (steps ++ more) status (it ++ it') := by
  rcases h with ⟨-, rfl⟩ | ⟨hs, -⟩
  · rcases h' with ⟨hs, rfl⟩ | ⟨hs, before, s, after, rfl, rfl⟩
    · exact Or.inl ⟨hs, (List.map_append ..).symm⟩
    -- the step that failed is among the further ones
    · refine Or.inr ⟨hs, steps ++ before, s, after, (List.append_assoc ..).symm, ?_⟩
      rw [List.map_append, List.append_assoc]
  · cases hs

/-- All steps that were attempted succeeded only if the last status is true. -/
theorem Outcome.status_of_all {steps : List Step} {status : Bool} {it : List (Step × Bool)}
    (h : Outcome steps status it) (hall : ∀ a ∈ it, a.2 = true) : status = true := by
  rcases h with ⟨hs, -⟩ | ⟨-, before, s, after, -, rfl⟩
  · exact hs
  · have hs : (s, false).2 = true :=
      hall (s, false) (List.mem_append_right _ (List.mem_singleton_self _))
    cases hs

theorem Outcome.failed {steps : List Step} {it : List (Step × Bool)}
    (h : Outcome steps false it) : ∃ a ∈ it, a.2 = false := by
  rcases h with ⟨hs, -⟩ | ⟨-, before, s, after, -, rfl⟩
  · cases hs
  · exact ⟨(s, false), List.mem_append_right _ (List.mem_singleton_self _), rfl⟩

/-- An iteration that attempts nothing does not attempt the workflow. -/
theorem not_attempted_nil : ¬ Attempted [] := by
  rintro ⟨status, ⟨-, h⟩ | ⟨-, before, s, after, -, h⟩⟩
  · cases h
  · exact List.append_ne_nil_of_right_ne_nil _ (List.cons_ne_nil _ _) h.symm

section Runs

variable (E : External) (pDeviceSerialNumber : List UInt8)

/-! ### The first iteration -/

/-- The steps so far were these, and all succeeded. -/
def SoFar (rest : List (List (Step × Bool))) (before : List Step) (w : World) : Prop :=
  attempts w.trace = before.map (fun s => (s, true)) :: rest

/-- What a step does inside is not a step. -/
theorem attempts_stable (its : List (List (Step × Bool))) :
    StableSteps E (fun w => attempts w.trace = its) := by
  refine StableSteps.ofTrace (K := fun trace => attempts trace = its) ?_ ?_
  · intro trace e he h
    rw [attempts_concat, h]
    cases e <;> first | rfl | cases he
  · intro trace info h
    rw [attempts_concat, h]
    rfl

theorem call_attempts (its : List (List (Step × Bool))) (s : Step) :
    Keeps (fun w => attempts w.trace = its) (call E pDeviceSerialNumber s) := by
  refine (attempts_stable E its).call _ _ ?_ (fun _ _ _ h => h) (fun _ _ _ h => h)
  intro w e he h
  -- no call enters a step or an iteration
  have hneutral : attemptsStep its e = its := by
    cases e with
    | iteration => cases s <;> cases he
    | step s' status => cases s <;> cases he
    | _ => rfl
  rw [World.log, attempts_concat, h, hneutral]

/-- A step is entered into the log with the status it returns. -/
theorem workflowStep_attempts (it : List (Step × Bool)) (rest : List (List (Step × Bool)))
    (s : Step) :
    Triple (fun w => attempts w.trace = it :: rest) (workflowStep E pDeviceSerialNumber s)
      (fun status w => attempts w.trace = (it ++ [(s, status)]) :: rest)
      (fun w => attempts w.trace = it :: rest) := by
  refine workflowStep_triple (call_attempts E pDeviceSerialNumber (it :: rest) s) ?_
  intro status w h
  rw [World.log, attempts_concat, h]
  rfl

/-- The steps of a list are attempted up to the first that fails. -/
theorem gates_attempts (rest : List (List (Step × Bool))) (before steps : List Step) :
    Triple (SoFar rest before) (gates (workflowStep E pDeviceSerialNumber) true steps)
      (fun status w => ∃ it, Outcome steps status it ∧
        attempts w.trace = (before.map (fun s => (s, true)) ++ it) :: rest)
      (fun w => ∃ done after, steps = done ++ after ∧ SoFar rest (before ++ done) w) := by
  -- by induction on the steps; those done so far are in the log already
  induction steps generalizing before with
  | nil =>
      refine Triple.pure (fun w h => ⟨[], Outcome.nil, ?_⟩)
      rw [List.append_nil]
      exact h
  | cons s steps ih =>
      rw [gates_cons]
      refine Triple.bind ((workflowStep_attempts E pDeviceSerialNumber _ rest s).consequence
        (fun _ h => h) (fun _ _ h => h) ?_) (fun status => ?_)
      · -- the call of the step did not return
        intro w h
        exact ⟨[], s :: steps, rfl, by rw [List.append_nil]; exact h⟩
      · cases status with
        | false =>
            intro w h
            rw [gates_false]
            exact ⟨[(s, false)], Or.inr ⟨rfl, [], s, steps, rfl, rfl⟩, h⟩
        | true =>
            -- this step is one of those done so far for the rest
            have hmap : (before ++ [s]).map (fun s => (s, true)) =
                before.map (fun s => (s, true)) ++ [(s, true)] := List.map_append ..
            refine (ih (before ++ [s])).consequence ?_ ?_ ?_
            · intro w h
              unfold SoFar
              rw [hmap]
              exact h
            · rintro status w ⟨it, hit, h⟩
              refine ⟨(s, true) :: it, hit.cons s, ?_⟩
              rw [h, hmap, List.append_assoc]
              rfl
            · rintro w ⟨done, after, rfl, h⟩
              exact ⟨s :: done, after, rfl, by rw [List.append_cons]; exact h⟩

/-- The first iteration attempts the workflow. -/
theorem iteration_attempts :
    Triple (fun w => attempts w.trace = []) (iteration E pDeviceSerialNumber true)
      (fun status w => ∃ it, Outcome workflow status it ∧ attempts w.trace = [it])
      (fun w => ∃ it, Interrupted it ∧ attempts w.trace = [it]) := by
  have hclose : ∀ its, Keeps (fun w => attempts w.trace = its) (closeConnection E) :=
    fun its => (attempts_stable E its).closeConnection
  refine Triple.bind (Triple.modify (R := SoFar [] []) ?_) (fun _ => ?_)
  · intro w h
    unfold SoFar World.begin World.log
    rw [attempts_concat, h]
    rfl
  refine Triple.bind ((gates_attempts E pDeviceSerialNumber [] [] claimSteps).consequence
    (fun _ h => h) (fun _ _ h => h) ?_) (fun status => ?_)
  · rintro w ⟨done, after, hsteps, h⟩
    exact ⟨_, ⟨done, after ++ [.establishWithDevice], by
      rw [← List.append_assoc, ← hsteps]; rfl, rfl⟩, h⟩
  rintro w ⟨it, hit, h⟩
  -- the connection is closed, and the log of the steps stays
  rcases closeConnection_ok E w with ⟨w1, h1, -⟩
  have hw1 : attempts w1.trace = [it] := (hclose [it]).ok h h1
  rw [bind_eq, h1]
  simp only
  cases status with
  | false =>
      -- the last step is passed over
      rcases closeConnection_ok E w1 with ⟨w2, h2, -⟩
      rw [bind_eq, gates_false]
      simp only
      rw [bind_eq, h2]
      exact ⟨it, hit.extend _, (hclose [it]).ok hw1 h2⟩
  | true =>
      have hclaim : it = claimSteps.map (fun s => (s, true)) := by
        rcases hit with ⟨-, hit⟩ | ⟨hs, -⟩
        · exact hit
        · cases hs
      -- the last step comes after all the others succeeded
      have hgates := gates_attempts E pDeviceSerialNumber [] claimSteps [.establishWithDevice] w1
        (by unfold SoFar; rw [hw1, hclaim])
      rw [bind_eq]
      cases hrun : gates (workflowStep E pDeviceSerialNumber) true [.establishWithDevice] w1 with
      | error halt w3 =>
          rw [hrun] at hgates
          rcases hgates with ⟨done, after, hsteps, h3⟩
          exact ⟨_, ⟨claimSteps ++ done, after, by rw [List.append_assoc, ← hsteps]; rfl, rfl⟩, h3⟩
      | ok status w3 =>
          rw [hrun] at hgates
          rcases hgates with ⟨it', hit', h3⟩
          rcases closeConnection_ok E w3 with ⟨w4, h4, -⟩
          simp only
          rw [bind_eq, h4]
          refine ⟨_, hit.append hit', ?_⟩
          rw [hclaim]
          exact (hclose _).ok h3 h4

/-! ### The later iterations -/

/-- The iterations after a failure do nothing but to begin. -/
theorem retryLoop_false (retries : Nat) (w : World)
    (hclosed : w.locals.connectionEstablished = false) :
    ∃ w', retryLoop E pDeviceSerialNumber retries false w = .ok false w' ∧
      w'.trace = w.trace ++ List.replicate (retries + 1) .iteration ∧ w'.token = w.token := by
  induction retries generalizing w with
  | zero => exact ⟨w.begin, iteration_false E pDeviceSerialNumber w hclosed, rfl, rfl⟩
  | succ retries ih =>
      -- this iteration only begins, and the loop goes on from there
      rcases ih w.begin hclosed with ⟨w', hrun, htrace, htoken⟩
      refine ⟨w', bind_ok.mpr ⟨false, w.begin, iteration_false E pDeviceSerialNumber w hclosed,
        hrun⟩, ?_, htoken⟩
      rw [htrace, List.replicate_succ (n := retries + 1)]
      exact List.append_assoc ..

/-- A first iteration that returns, in the whole run. -/
theorem provision_of_iteration {status : Bool} {w w1 : World} (maxDemoLoopCount : Nat)
    (h : iteration E pDeviceSerialNumber true w.enter = .ok status w1) :
    ∃ w', ProvisionDevicePKCS11WithFP E pDeviceSerialNumber maxDemoLoopCount w =
        .ok (if status = true then 0 else -1) w' ∧
      w'.trace = w1.trace ++ List.replicate (if status = true then 0 else maxDemoLoopCount - 1)
        .iteration ∧ w'.token = w1.token := by
  have hloop : ∃ w', retryLoop E pDeviceSerialNumber (maxDemoLoopCount - 1) true w.enter =
        .ok status w' ∧
      w'.trace = w1.trace ++ List.replicate (if status = true then 0 else maxDemoLoopCount - 1)
        .iteration ∧ w'.token = w1.token := by
    cases maxDemoLoopCount - 1 with
    | zero =>
        refine ⟨w1, h, ?_, rfl⟩
        rw [ite_self, List.replicate_zero, List.append_nil]
    | succ retries =>
        cases status with
        | true => exact ⟨w1, bind_ok.mpr ⟨true, w1, h, rfl⟩, (List.append_nil _).symm, rfl⟩
        | false =>
            rcases retryLoop_false E pDeviceSerialNumber retries w1
              (iteration_closed E pDeviceSerialNumber h) with ⟨w', hrun, htrace, htoken⟩
            exact ⟨w', bind_ok.mpr ⟨false, w1, h, hrun⟩, htrace, htoken⟩
  rcases hloop with ⟨w', hrun, htrace, htoken⟩
  exact ⟨w', bind_ok.mpr ⟨(), w.enter, rfl, bind_ok.mpr ⟨status, w', hrun, rfl⟩⟩, htrace, htoken⟩

/-- An iteration that only begins attempts nothing. -/
theorem attempts_replicate (trace : List Event) (n : Nat) :
    attempts (trace ++ List.replicate n .iteration) = List.replicate n [] ++ attempts trace := by
  induction n with
  | zero => rw [List.replicate_zero, List.replicate_zero, List.append_nil, List.nil_append]
  | succ n ih =>
      rw [List.replicate_succ', ← List.append_assoc, attempts_concat, ih]
      rfl

/-- A first iteration that does not return, in the whole run. -/
theorem provision_of_halt {halt : Halt} {w w1 : World} (maxDemoLoopCount : Nat)
    (h : iteration E pDeviceSerialNumber true w.enter = .error halt w1) :
    ProvisionDevicePKCS11WithFP E pDeviceSerialNumber maxDemoLoopCount w = .error halt w1 := by
  have hloop : retryLoop E pDeviceSerialNumber (maxDemoLoopCount - 1) true w.enter =
      .error halt w1 := by
    cases maxDemoLoopCount - 1 with
    | zero => exact h
    | succ retries =>
        unfold retryLoop
        rw [bind_eq, h]
  unfold ProvisionDevicePKCS11WithFP
  rw [modify_bind, bind_eq, hloop]

/-- The retries are right exactly if one iteration is all there may be, or no
    step of the first one fails. -/
theorem provision_retries_iff (maxDemoLoopCount : Nat) (hcount : 1 ≤ maxDemoLoopCount)
    (w : World) :
    RunRetries maxDemoLoopCount
        (ProvisionDevicePKCS11WithFP E pDeviceSerialNumber maxDemoLoopCount w) ↔
      (maxDemoLoopCount = 1 ∨ ¬ WorkflowFails E pDeviceSerialNumber w.enter.begin) := by
  obtain ⟨retries, rfl⟩ : ∃ retries, maxDemoLoopCount = retries + 1 :=
    ⟨maxDemoLoopCount - 1, by omega⟩
  have hfirst := iteration_attempts E pDeviceSerialNumber w.enter rfl
  have hfails := iteration_fails_iff E pDeviceSerialNumber w.enter
  cases hrun : iteration E pDeviceSerialNumber true w.enter with
  | error halt w1 =>
      -- nothing failed, and the run is still in the first iteration
      rw [hrun] at hfirst
      rcases hfirst with ⟨it, hit, h1⟩
      have hnot : ¬ WorkflowFails E pDeviceSerialNumber w.enter.begin := by
        intro hf
        rcases hfails.mpr hf with ⟨w', h'⟩
        rw [hrun] at h'
        cases h'
      rw [provision_of_halt E pDeviceSerialNumber _ hrun]
      refine ⟨fun _ => Or.inr hnot, fun _ it' hit' => ?_⟩
      rw [h1, List.mem_singleton] at hit'
      rw [hit']
      exact hit
  | ok status w1 =>
      rw [hrun] at hfirst
      rcases hfirst with ⟨it, hit, h1⟩
      rcases provision_of_iteration E pDeviceSerialNumber (retries + 1) hrun with
        ⟨w', hw', htrace, -⟩
      rw [hw']
      unfold RunRetries
      simp only
      rw [htrace, attempts_replicate, h1, Nat.add_sub_cancel]
      cases status with
      | true =>
          have hnot : ¬ WorkflowFails E pDeviceSerialNumber w.enter.begin := by
            intro hf
            rcases hfails.mpr hf with ⟨w'', h'⟩
            rw [hrun] at h'
            cases h'
          refine ⟨fun _ => Or.inr hnot, fun _ => ⟨?_, fun _ _ _ => rfl, fun h => nomatch h⟩⟩
          intro it' hit'
          rw [List.mem_singleton.mp hit']
          exact ⟨true, hit⟩
      | false =>
          constructor
          · intro hretries
            refine Or.inl ?_
            by_contra hmore
            -- the second iteration is there, and attempted nothing
            refine not_attempted_nil (hretries.attempted [] ?_)
            refine List.mem_append_left _ (List.mem_replicate.mpr ⟨?_, rfl⟩)
            rw [if_neg Bool.false_ne_true]
            omega
          -- a single iteration that fails in the workflow is what it should be
          · rintro (hone | hnot)
            · have hzero : retries = 0 := by omega
              subst hzero
              refine ⟨?_, ?_, ?_⟩
              · intro it' hit'
                rw [List.mem_singleton.mp hit']
                exact ⟨false, hit⟩
              · intro it' hit' hall
                rw [List.mem_singleton.mp hit'] at hall
                cases hit.status_of_all hall
              · intro _
                refine ⟨rfl, fun it' hit' => ?_⟩
                rw [List.mem_singleton.mp hit']
                exact hit.failed
            · exact absurd (hfails.mp ⟨w1, hrun⟩) hnot

/-- No connection at the first attempt, and one at every later. -/
def lateConnection : External :=
  { External.reliable [] [] with
    connectAttempts := fun now => if now = 0 then [⟨false, false⟩] else [⟨true, false⟩] }

theorem provision_retries_iff_three :
    1 ≤ 3 ∧ (RunRetries 3 (ProvisionDevicePKCS11WithFP lateConnection [83] 3 World.initial) ↔
      ((3 : Nat) = 1 ∨ ¬ WorkflowFails lateConnection [83] World.initial.enter.begin)) :=
  ⟨by decide, provision_retries_iff lateConnection [83] 3 (by decide) World.initial⟩

/-- With three iterations allowed and no connection at the first attempt, the
    second and the third iteration attempt nothing, and the run fails. -/
theorem provision_gives_up :
    ¬ RunRetries 3 (ProvisionDevicePKCS11WithFP lateConnection [83] 3 World.initial) := by
  have hrun : ∃ w', ProvisionDevicePKCS11WithFP lateConnection [83] 3 World.initial =
      .ok (-1) w' ∧ attempts w'.trace = [[], [], [(.establishWithClaim, false)]] := ⟨_, rfl, rfl⟩
  rcases hrun with ⟨w', hw', hattempts⟩
  rw [hw']
  intro h
  have hit := h.attempted [] (by rw [hattempts]; exact List.mem_cons_self)
  exact not_attempted_nil hit

end Runs

end FleetProvisioning

end ProvisioningSdk
