import ProvisioningSdk.Provisioning.Workflow

/-!
# Waiting for a Response

What `waitForResponse` returns and what is parsed after it, read off the log.

The two requests share one status variable and one payload buffer, and the
callback sets them for a response to either. A wait only resets the status
before it and looks at it afterwards. So it returns true if the last response
that was delivered during the wait is an accepted one, and the payload of that
response is what is parsed (`waits_settled`), whichever request it answered.
That the right request was answered holds exactly if, in every wait that ends
with an accepted response, an accepted response to the request that was waited
for has the same payload (`waits_own_iff`).

## Main definitions

* `waitsOf`: The waits of a run, and what was parsed after them.
* `Own`: A wait returns true for a response to its own request only.
* `Answered`: The last response of a wait answers its request.

## Theorems

* `wait_spec`, `parse_spec`: Waiting and parsing.
* `waits_settled`: What the waits of a run return.
* `waits_own_iff`: When they return true for their own request only.
-/

namespace ProvisioningSdk

namespace FleetProvisioning

open Effect

/-- A wait: what it was for, the publishes delivered during it, what it returned,
    and the payload that was parsed after it. -/
structure Wait where
  api : Api
  window : List Publish
  status : Bool
  parsed : Option (List UInt8)

/-- The wait that goes on, and those that returned, the last one first. -/
structure Waits where
  current : Option (Api × List Publish)
  waits : List Wait

/-- An entry of the log. -/
def Waits.step (r : Waits) : Event → Waits
  | .waits api => { r with current := some (api, []) }
  | .delivered info => { r with current := r.current.map (fun c => (c.1, c.2 ++ [info])) }
  | .waited _ status => match r.current with
    | some (api, window) => ⟨none, ⟨api, window, status, none⟩ :: r.waits⟩
    | none => r
  | .parses _ payload => match r.waits with
    | wait :: rest => { r with waits := { wait with parsed := some payload } :: rest }
    | [] => r
  | _ => r

/-- The waits of a run. -/
def waitsOf (trace : List Event) : Waits := trace.foldl Waits.step ⟨none, []⟩

theorem waitsOf_concat (trace : List Event) (e : Event) :
    waitsOf (trace ++ [e]) = (waitsOf trace).step e := by
  unfold waitsOf
  rw [List.foldl_append]
  rfl

section Runs

variable (E : External) (pDeviceSerialNumber : List UInt8)

/-- The wait returned true only if an accepted response to its own request was
    delivered during it, and the payload of that response is what was parsed. -/
def Own (wait : Wait) : Prop :=
  wait.status = true → ∃ info ∈ wait.window, ∃ payload,
    responseOf E info = some (.accepted wait.api payload) ∧ wait.parsed = some payload

/-- If the last response of the wait is an accepted one, an accepted response to
    the request of the wait came with the same payload. -/
def Answered (wait : Wait) : Prop :=
  ∀ api payload, lastResponse E wait.window = some (.accepted api payload) →
    ∃ info ∈ wait.window, responseOf E info = some (.accepted wait.api payload)

/-- The status and the payload are those of the last response. -/
def Settled (wait : Wait) : Prop :=
  match lastResponse E wait.window with
  | some (.accepted _ payload) => wait.status = true ∧ wait.parsed = some payload
  | _ => wait.status = false

/-! ### The phases of an iteration -/

/-- Every wait that returned is settled. -/
def AllSettled (trace : List Event) : Prop :=
  ∀ wait ∈ (waitsOf trace).waits, Settled E wait

/-- There is no wait that goes on, or that is not parsed yet. -/
structure Idle (trace : List Event) : Prop where
  settled : AllSettled E trace
  current : (waitsOf trace).current = none

/-- The variables a wait with these deliveries is about. -/
structure Shows (window : List Publish) (r : Responses) : Prop where
  status : r.responseStatus =
    ((lastResponse E window).map Response.status).getD .ResponseNotReceived
  payload : ∀ api payload, lastResponse E window = some (.accepted api payload) →
    r.payload = payload

/-- A wait goes on. -/
structure Waiting (w : World) : Prop where
  settled : AllSettled E w.trace
  current : ∃ api window, (waitsOf w.trace).current = some (api, window) ∧
    Shows E window w.responses

/-- A wait returned true, and what it received is not parsed yet. -/
structure Pending (w : World) : Prop where
  current : (waitsOf w.trace).current = none
  wait : ∃ wait rest, (waitsOf w.trace).waits = wait :: rest ∧ (∀ s ∈ rest, Settled E s) ∧
    wait.status = true ∧
      ∃ api, lastResponse E wait.window = some (.accepted api w.responses.payload)

variable {E pDeviceSerialNumber}

/-- The entries that are not about waits. -/
def Event.isAside : Event → Bool
  | .waits _ | .delivered _ | .waited _ _ | .parses _ _ => false
  | _ => true

theorem step_aside (r : Waits) {e : Event} (he : e.isAside = true) : r.step e = r := by
  cases e <;> first | rfl | cases he

theorem isAside_of_transport {e : Event} (he : e.isTransport = true) : e.isAside = true := by
  cases e <;> first | rfl | cases he

theorem Idle.aside {trace : List Event} (h : Idle E trace) {e : Event} (he : e.isAside = true) :
    Idle E (trace ++ [e]) := by
  have hstep : waitsOf (trace ++ [e]) = waitsOf trace := by
    rw [waitsOf_concat, step_aside _ he]
  exact ⟨by unfold AllSettled; rw [hstep]; exact h.settled, by rw [hstep]; exact h.current⟩

theorem idle_stable : StableSteps E (fun w => Idle E w.trace) := by
  refine StableSteps.ofTrace (K := Idle E)
    (fun trace e he h => h.aside (isAside_of_transport he)) ?_
  intro trace info h
  have hstep : waitsOf (trace ++ [.delivered info]) = waitsOf trace := by
    rw [waitsOf_concat, Waits.step, h.current, Option.map_none, ← h.current]
  exact ⟨by unfold AllSettled; rw [hstep]; exact h.settled, by rw [hstep]; exact h.current⟩

/-- One delivery more shows in the variables. -/
theorem Shows.deliver {window : List Publish} {w : World} (h : Shows E window w.responses)
    (info : Publish) : Shows E (window ++ [info]) (w.deliver E info).responses := by
  constructor
  · rw [deliver_status, lastResponse_concat, h.status]
    cases responseOf E info with
    | none => rfl
    | some response => rfl
  · intro api payload hlast
    rw [lastResponse_concat] at hlast
    rw [deliver_payload]
    cases hresponse : responseOf E info with
    | none =>
        rw [hresponse, Option.none_or] at hlast
        exact h.payload api payload hlast
    | some response =>
        -- the last response is the one that is delivered now
        rw [hresponse, Option.some_or, Option.some.injEq] at hlast
        rw [hlast]
        rfl

theorem waiting_stable : Stable E (Waiting E) where
  now := fun _ _ h => ⟨h.settled, h.current⟩
  mqtt := fun _ _ h => ⟨h.settled, h.current⟩
  transport := by
    intro w e he h
    have hstep : waitsOf (w.log e).trace = waitsOf w.trace := by
      rw [World.log, waitsOf_concat, step_aside _ (isAside_of_transport he)]
    exact ⟨by unfold AllSettled; rw [hstep]; exact h.settled, by rw [hstep]; exact h.current⟩
  deliver := by
    rintro w info ⟨hsettled, api, window, hcurrent, hshows⟩
    -- the delivery goes to the wait, in the log and in the variables
    have hstep : waitsOf (w.deliver E info).trace =
        { waitsOf w.trace with current := some (api, window ++ [info]) } := by
      unfold World.deliver World.log
      rw [waitsOf_concat, Waits.step, hcurrent]
      rfl
    refine ⟨?_, api, window ++ [info], by rw [hstep], hshows.deliver info⟩
    unfold AllSettled
    rw [hstep]
    exact hsettled

/-- The status a wait returns. -/
theorem Shows.status_eq {window : List Publish} {r : Responses} (h : Shows E window r) :
    (r.responseStatus == .ResponseAccepted) = true ↔
      ∃ api, lastResponse E window = some (.accepted api r.payload) := by
  rw [beq_iff_eq, h.status]
  cases hlast : lastResponse E window with
  | none =>
      constructor
      · intro hs
        cases hs
      · rintro ⟨api, hs⟩
        cases hs
  | some response =>
      cases response with
      | accepted api payload =>
          rw [h.payload api payload hlast]
          exact ⟨fun _ => ⟨api, rfl⟩, fun _ => rfl⟩
      | rejected api =>
          constructor
          · intro hs
            cases hs
          · rintro ⟨api', hs⟩
            cases hs

/-- A wait returns whether the last response is an accepted one. -/
theorem wait_spec (api : Api) :
    Triple (fun w => Idle E w.trace) (waitForResponse E api)
      (Gate (Pending E) (fun w => Idle E w.trace)) (fun w => AllSettled E w.trace) := by
  -- the wait begins: the status is reset, and no publish has been delivered
  refine Triple.bind (Triple.modify (R := Waiting E) ?_) (fun _ => ?_)
  · intro w h
    refine ⟨?_, api, [], ?_, rfl, fun _ _ hlast => nomatch hlast⟩
    · unfold AllSettled World.log
      rw [waitsOf_concat]
      exact h.settled
    · unfold World.log
      rw [waitsOf_concat]
      rfl
  -- the loop delivers what it likes
  refine Triple.bind (waiting_stable.toTraffic.ProcessLoopWithTimeout.consequence (fun _ h => h)
    (fun _ _ h => h) (fun _ h => h.settled)) (fun _ => ?_)
  -- the status is looked at, and the wait is over
  rintro w ⟨hsettled, api', window, hcurrent, hshows⟩
  rw [get_bind]
  have hstep :
      waitsOf (w.log (.waited api (w.responses.responseStatus == .ResponseAccepted))).trace =
      ⟨none, ⟨api', window, w.responses.responseStatus == .ResponseAccepted, none⟩ ::
        (waitsOf w.trace).waits⟩ := by
    rw [World.log, waitsOf_concat, Waits.step, hcurrent]
  cases hstatus : w.responses.responseStatus == .ResponseAccepted with
  | true =>
      rw [hstatus] at hstep
      rcases hshows.status_eq.mp hstatus with ⟨api'', hlast⟩
      exact ⟨by rw [hstep], _, _, by rw [hstep], hsettled, rfl, api'', hlast⟩
  | false =>
      rw [hstatus] at hstep
      refine ⟨?_, by rw [hstep]⟩
      -- the wait that returned false is settled as it is
      have hnot : ∀ api payload, lastResponse E window ≠ some (.accepted api payload) := by
        intro api payload hlast
        have hpayload := hshows.payload api payload hlast
        have htrue := hshows.status_eq.mpr ⟨api, by rw [hpayload]; exact hlast⟩
        rw [hstatus] at htrue
        cases htrue
      intro wait hwait
      rw [hstep] at hwait
      rcases List.mem_cons.mp hwait with rfl | hold
      · unfold Settled
        cases hlast : lastResponse E window with
        | none => rfl
        | some response =>
            cases response with
            | accepted api payload => exact absurd hlast (hnot api payload)
            | rejected api => rfl
      · exact hsettled wait hold

/-- What is parsed is what the wait received. -/
theorem parse_spec {w : World} (h : Pending E w) (api : Api) :
    Idle E (w.log (.parses api w.responses.payload)).trace := by
  rcases h with ⟨hcurrent, wait, rest, hwaits, hrest, hstatus, api', hlast⟩
  have hstep : waitsOf (w.log (.parses api w.responses.payload)).trace =
      { waitsOf w.trace with
        waits := { wait with parsed := some w.responses.payload } :: rest } := by
    rw [World.log, waitsOf_concat, Waits.step, hwaits]
  refine ⟨?_, by rw [hstep]; exact hcurrent⟩
  intro wait' hwait'
  rw [hstep] at hwait'
  -- the wait that was parsed after, and those before it
  rcases List.mem_cons.mp hwait' with rfl | hold
  · unfold Settled
    rw [hlast]
    exact ⟨hstatus, rfl⟩
  · exact hrest wait' hold

/-! ### Whole runs -/

theorem Pending.aside {w : World} (h : Pending E w) {e : Event} (he : e.isAside = true) :
    Pending E (w.log e) := by
  have hstep : waitsOf (w.log e).trace = waitsOf w.trace := by
    rw [World.log, waitsOf_concat, step_aside _ he]
  rcases h with ⟨hcurrent, hwait⟩
  exact ⟨by rw [hstep]; exact hcurrent, by rw [hstep]; exact hwait⟩

/-- A step that neither waits nor parses. -/
theorem idle_step {s : Step} (h : ∀ e : Event, e.isOf s = true → e.isAside = true) :
    Triple (fun w => Idle E w.trace) (workflowStep E pDeviceSerialNumber s)
      (fun _ w => Idle E w.trace) (fun w => AllSettled E w.trace) := by
  refine (idle_stable.workflowStep pDeviceSerialNumber s ?_ (fun _ _ _ h => h) (fun _ _ _ h => h)
    ?_).consequence (fun _ h => h) (fun _ _ h => h) (fun _ h => h.settled)
  · exact fun w e he hw => hw.aside (h e he)
  · exact fun w status hw => hw.aside rfl

theorem wait_step {s : Step} {api : Api}
    (hs : call E pDeviceSerialNumber s = waitForResponse E api) :
    Triple (fun w => Idle E w.trace) (workflowStep E pDeviceSerialNumber s)
      (Gate (Pending E) (fun w => Idle E w.trace)) (fun w => AllSettled E w.trace) := by
  refine workflowStep_triple (hs ▸ wait_spec api) (fun status w h => ?_)
  cases status with
  | false => exact Idle.aside h rfl
  | true => exact Pending.aside h rfl

theorem parse_step {s : Step} (hs : s = .parseKeysCert ∨ s = .parseRegisterThing) :
    Triple (Pending E) (workflowStep E pDeviceSerialNumber s)
      (fun _ w => Idle E w.trace) (fun w => AllSettled E w.trace) := by
  refine workflowStep_triple (Q := fun _ w => Idle E w.trace) ?_
    (fun status w h => Idle.aside h rfl)
  rcases hs with rfl | rfl
  · exact (StableCalls.parseKeysCert (I := fun w => Idle E w.trace) (fun w h => parse_spec h _)
      (fun _ _ h => h)).consequence (fun _ h => h) (fun _ _ h => h) (fun _ h => h.settled)
  · refine (idle_stable.toCalls.parseRegisterThing (fun w h => parse_spec h _)).consequence
      (fun _ h => h)
      (fun _ _ h => h) (fun _ h => h.settled)

/-- The steps of an iteration around the waits. -/
theorem claimSteps_waits : claimSteps =
    [.establishWithClaim, .subscribeToKeysCert, .publishKeysCert] ++ ([.waitForKeysCert] ++
      ([.parseKeysCert] ++ ([.loadPrivateKey, .loadCertificate, .unsubscribeFromKeysCert,
        .generateRequest, .subscribeToRegisterThing, .publishRegisterThing] ++
      ([.waitForRegisterThing] ++ ([.parseRegisterThing] ++ [.unsubscribeFromRegisterThing]))))) :=
  rfl

/-- A step that is not among the four makes no entry about waits. -/
theorem isAside_of_step {s : Step} (hs : s ∉ [Step.waitForKeysCert, .parseKeysCert,
    .waitForRegisterThing, .parseRegisterThing]) {e : Event} (he : e.isOf s = true) :
    e.isAside = true := by
  unfold Event.isOf at he
  split at he <;> first | rfl | cases he | exact absurd (by decide) hs

/-- The steps that use the connection with the claim credentials. -/
theorem claimSteps_idle (status : Bool) :
    Triple (fun w => Idle E w.trace) (gates (workflowStep E pDeviceSerialNumber) status claimSteps)
      (fun _ w => Idle E w.trace) (fun w => AllSettled E w.trace) := by
  -- the steps between the waits keep the log idle
  have hsteps : ∀ (l : List Step) (status : Bool), (∀ s ∈ l, s ∉ [Step.waitForKeysCert,
        .parseKeysCert, .waitForRegisterThing, .parseRegisterThing]) →
      Triple (Gate (fun w => Idle E w.trace) (fun w => Idle E w.trace) status)
        (gates (workflowStep E pDeviceSerialNumber) status l)
        (Gate (fun w => Idle E w.trace) (fun w => Idle E w.trace))
        (fun w => AllSettled E w.trace) :=
    fun l status hl => Triple.gates_keeps
      (fun s hs => idle_step (fun e he => isAside_of_step (hl s hs) he)) (fun _ h => h) status
  have hparse : ∀ (s : Step) (status : Bool), (s = .parseKeysCert ∨ s = .parseRegisterThing) →
      Triple (Gate (Pending E) (fun w => Idle E w.trace) status)
        (gates (workflowStep E pDeviceSerialNumber) status [s])
        (Gate (fun w => Idle E w.trace) (fun w => Idle E w.trace))
        (fun w => AllSettled E w.trace) := by
    intro s status hs
    refine Triple.gates_one ((parse_step hs).consequence (fun _ h => h) ?_ (fun _ h => h)) status
    intro status w h
    rw [gate_self]
    exact h
  rw [claimSteps_waits]
  refine Triple.consequence (P := Gate (fun w => Idle E w.trace) (fun w => Idle E w.trace) status)
    (Q := Gate (fun w => Idle E w.trace) (fun w => Idle E w.trace))
    (E := fun w => AllSettled E w.trace) ?_ ?_ ?_ (fun _ h => h)
  · -- wait, parse, and the same again for the second request
    refine Triple.gates_append (hsteps _ status (by decide)) (fun status => ?_)
    refine Triple.gates_append (Triple.gates_one (wait_step rfl) status) (fun status => ?_)
    refine Triple.gates_append (hparse _ status (Or.inl rfl)) (fun status => ?_)
    refine Triple.gates_append (hsteps _ status (by decide)) (fun status => ?_)
    refine Triple.gates_append (Triple.gates_one (wait_step rfl) status) (fun status => ?_)
    exact Triple.gates_append (hparse _ status (Or.inr rfl))
      (fun status => hsteps _ status (by decide))
  · intro w h
    rw [gate_self]
    exact h
  · intro status w h
    rw [gate_self] at h
    exact h

theorem iteration_idle (status : Bool) :
    Triple (fun w => Idle E w.trace) (iteration E pDeviceSerialNumber status)
      (fun _ w => Idle E w.trace) (fun w => AllSettled E w.trace) := by
  refine iteration_triple (R := fun w => Idle E w.trace) (fun w h => h.aside rfl)
    (claimSteps_idle status) ?_ (idle_step (fun e he => isAside_of_step (by decide) he))
  exact idle_stable.closeConnection.consequence (fun _ h => h) (fun _ _ h => h)
    (fun _ h => h.settled)

variable (E pDeviceSerialNumber)

/-- Every wait of a run returns whether the last response was an accepted one,
    and its payload is what is parsed. -/
theorem waits_settled (maxDemoLoopCount : Nat) (w : World) :
    AllSettled E (stateOf
      (ProvisionDevicePKCS11WithFP E pDeviceSerialNumber maxDemoLoopCount w)).trace :=
  provision_keeps iteration_idle (fun _ h => h.settled) maxDemoLoopCount w
    ⟨fun _ h => absurd h List.not_mem_nil, rfl⟩

/-- The waits of a run return true for a response to their own request only,
    exactly if those that end with an accepted response were answered by it. -/
theorem waits_own_iff (maxDemoLoopCount : Nat) (w : World) :
    (∀ wait ∈ (waitsOf (stateOf (ProvisionDevicePKCS11WithFP E pDeviceSerialNumber
        maxDemoLoopCount w)).trace).waits, Own E wait) ↔
      ∀ wait ∈ (waitsOf (stateOf (ProvisionDevicePKCS11WithFP E pDeviceSerialNumber
        maxDemoLoopCount w)).trace).waits, Answered E wait := by
  refine forall₂_congr (fun wait hwait => ?_)
  -- a wait at a time: it is settled whichever side holds
  have hsettled := waits_settled E pDeviceSerialNumber maxDemoLoopCount w wait hwait
  unfold Settled at hsettled
  constructor
  · intro hown api payload hlast
    rw [hlast] at hsettled
    rcases hown hsettled.1 with ⟨info, hinfo, payload', hresponse, hparsed⟩
    rw [hsettled.2, Option.some.injEq] at hparsed
    exact ⟨info, hinfo, by rw [hparsed]; exact hresponse⟩
  · intro hanswered hstatus
    cases hlast : lastResponse E wait.window with
    | none =>
        rw [hlast, hstatus] at hsettled
        cases hsettled
    | some response =>
        cases response with
        | rejected api =>
            rw [hlast, hstatus] at hsettled
            cases hsettled
        | accepted api payload =>
            rw [hlast] at hsettled
            rcases hanswered api payload hlast with ⟨info, hinfo, hresponse⟩
            exact ⟨info, hinfo, payload, hresponse, hsettled.2⟩

/-- A response to the register thing request, left over from before, is
    delivered in the first wait. -/
def leftOver : External :=
  External.reliable [4, 8, 12]
    [(7, [.suback 1], 0), (11, [.suback 2], 0), (15, [.publish registerThingResponse], 1000)]

/-- It is taken for the response to the create keys request. -/
theorem waits_foreign :
    ¬ ∀ wait ∈ (waitsOf (stateOf (ProvisionDevicePKCS11WithFP leftOver (ascii "serial") 1
        World.initial)).trace).waits, Own leftOver wait := by
  have hrun : (waitsOf (stateOf (ProvisionDevicePKCS11WithFP leftOver (ascii "serial") 1
      World.initial)).trace).waits.any (fun wait => wait.status && wait.window.all (fun info =>
        decide (∀ payload ∈ (responseOf leftOver info).bind Response.acceptedPayload,
          responseOf leftOver info ≠ some (.accepted wait.api payload)))) = true := by
    decide +kernel
  rcases List.any_eq_true.mp hrun with ⟨wait, hwait, hother⟩
  rw [Bool.and_eq_true, List.all_eq_true] at hother
  intro h
  rcases h wait hwait hother.1 with ⟨info, hinfo, payload, hresponse, -⟩
  have hforeign := of_decide_eq_true (hother.2 info hinfo) payload (by rw [hresponse]; rfl)
  exact hforeign hresponse

end Runs

end FleetProvisioning

end ProvisioningSdk
