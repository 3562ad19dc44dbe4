import Mathlib.Logic.Relation
import ProvisioningSdk.Provisioning.Workflow

/-!
# The Timeouts of the Process Loops

How long `waitForPacketAck` and `ProcessLoopWithTimeout` go on calling
`MQTT_ProcessLoop`.

The clock shows the low 32 bits of a count of milliseconds, and says itself
that it serves for differences of times. The two loops do not take a
difference: they add the timeout to the time at their entry and compare each
reading with the sum. So the sum can wrap, and then the loop is over before its
first call; or a reading can wrap, and then the loop goes on when its time is
up. Apart from these two cases it goes on exactly while the elapsed time is
below the timeout (`loopTimeouts_iff`).

A loop is followed from point to point, a point being what it looks at when it
tests its condition. Whether it calls `MQTT_ProcessLoop` at a point is read off
the program: without a further round it does not return from the point.

## Main definitions

* `LoopPoint`: What a loop has when it tests its condition.
* `CallsAgain`, `CodeNext`: The call the program makes at a point.
* `ShouldCall`, `TimedNext`: The call a loop over the elapsed time makes.
* `KeepsTime`: The loop calls exactly as long as it should.
* `Unwrapped`: Neither the deadline nor a reading wraps.

## Theorems

* `processLoops_next`: The program at a point and at the next one.
* `code_of_timed`, `timed_of_code`: The points of both loops.
* `loopTimeouts_iff`: When a loop keeps its time.
-/

namespace ProvisioningSdk

namespace FleetProvisioning

open Effect Relation

/-- What a loop over `MQTT_ProcessLoop` has when it tests its condition. -/
structure LoopPoint where
  rounds : List Round
  currentTime : Nat
  status : MQTTStatus
  world : World

/-- The two functions with such a loop. -/
inductive WaitLoop
  | waitForPacketAck (usPacketIdentifier ulTimeout : Nat)
  | ProcessLoopWithTimeout
  deriving DecidableEq, Repr

/-- What is waited for has come. -/
def WaitLoop.done : WaitLoop → Mqtt → Bool
  | .waitForPacketAck usPacketIdentifier _ =>
      fun m => m.globalAckPacketIdentifier == usPacketIdentifier
  | .ProcessLoopWithTimeout => fun _ => false

def WaitLoop.timeout : WaitLoop → Nat
  | .waitForPacketAck _ ulTimeout => ulTimeout
  | .ProcessLoopWithTimeout => MQTT_PROCESS_LOOP_TIMEOUT_MS

/-- What the result says once the loop is over. -/
def WaitLoop.result (loop : WaitLoop) (status : MQTTStatus) (m : Mqtt) : Bool :=
  match loop with
  | .waitForPacketAck _ _ => status.goesOn && loop.done m
  | .ProcessLoopWithTimeout => status.goesOn

section Loops

variable (E : External)

def WaitLoop.program : WaitLoop → Program Bool
  | .waitForPacketAck usPacketIdentifier ulTimeout =>
      FleetProvisioning.waitForPacketAck E usPacketIdentifier ulTimeout
  | .ProcessLoopWithTimeout => FleetProvisioning.ProcessLoopWithTimeout E

/-- The point at which the loop begins. An acknowledgement from before it is
    forgotten by then. -/
def WaitLoop.start (w : World) : WaitLoop → LoopPoint
  | .waitForPacketAck _ _ =>
      ⟨E.MQTT_ProcessLoop (w.now + 1), E.getTime w.now, .MQTTSuccess,
        { w with mqtt := { w.mqtt with globalAckPacketIdentifier := 0 }, now := w.now + 2 }⟩
  | .ProcessLoopWithTimeout =>
      ⟨E.MQTT_ProcessLoop (w.now + 1), E.getTime w.now, .MQTTSuccess, { w with now := w.now + 2 }⟩

/-- The deadline the readings are compared with. -/
def WaitLoop.timeoutTime (loop : WaitLoop) (w : World) : Nat :=
  u32 ((loop.start E w).currentTime + loop.timeout)

/-- The readings of the clock, the one at the entry first. -/
def WaitLoop.readings (loop : WaitLoop) (w : World) : List Nat :=
  (loop.start E w).currentTime :: (loop.start E w).rounds.map Round.time

/-- The part of the program from a point on. -/
def LoopPoint.rest (done : Mqtt → Bool) (timeoutTime : Nat) (p : LoopPoint) : Program MQTTStatus :=
  processLoops E done timeoutTime p.rounds p.currentTime p.status

/-- Each of the two functions is its loop from the start on, and its result. -/
theorem program_eq (loop : WaitLoop) (w : World) :
    loop.program E w =
      ((loop.start E w).rest E loop.done (loop.timeoutTime E w) >>= fun status =>
        get >>= fun w' => pure (loop.result status w'.mqtt)) (loop.start E w).world := by
  cases loop with
  | waitForPacketAck usPacketIdentifier ulTimeout => rfl
  | ProcessLoopWithTimeout => rfl

/-! ### From point to point -/

/-- The program calls `MQTT_ProcessLoop` at this point: without a round of it,
    it does not return. -/
def CallsAgain (done : Mqtt → Bool) (timeoutTime : Nat) (p : LoopPoint) : Prop :=
  processLoops E done timeoutTime [] p.currentTime p.status p.world = .error .blocked p.world

/-- The next call of `MQTT_ProcessLoop` returns, and leads to this point. -/
def Called (p p' : LoopPoint) : Prop :=
  ∃ round, p.rounds = round :: p'.rounds ∧
    round.packets.forM (mqttCallback E) p.world = .ok ⟨⟩ p'.world ∧
    p'.currentTime = round.time ∧ p'.status = round.status

/-- There is another reason to leave the loop than its time. -/
def LoopPoint.Exits (done : Mqtt → Bool) (p : LoopPoint) : Prop :=
  done p.world.mqtt = true ∨ p.status.goesOn = false

/-- The time since the entry, as the difference of two readings of a 32-bit
    clock. -/
def elapsed (entryTime currentTime : Nat) : Nat := u32 (currentTime + 2 ^ 32 - entryTime)

/-- The elapsed time is below the timeout, and there is no other reason to leave
    the loop. -/
def ShouldCall (done : Mqtt → Bool) (entryTime timeout : Nat) (p : LoopPoint) : Prop :=
  elapsed entryTime p.currentTime < timeout ∧ ¬ p.Exits done

/-- A round of the loop of the program. -/
def CodeNext (done : Mqtt → Bool) (timeoutTime : Nat) (p p' : LoopPoint) : Prop :=
  CallsAgain E done timeoutTime p ∧ Called E p p'

/-- A round of a loop over the elapsed time. -/
def TimedNext (done : Mqtt → Bool) (entryTime timeout : Nat) (p p' : LoopPoint) : Prop :=
  ShouldCall done entryTime timeout p ∧ Called E p p'

theorem callsAgain_iff (done : Mqtt → Bool) (timeoutTime : Nat) (p : LoopPoint) :
    CallsAgain E done timeoutTime p ↔ p.currentTime < timeoutTime ∧ ¬ p.Exits done := by
  have htest : (done p.world.mqtt = false ∧ p.currentTime < timeoutTime ∧
      p.status.goesOn = true) ↔ p.currentTime < timeoutTime ∧ ¬ p.Exits done := by
    unfold LoopPoint.Exits
    rw [not_or, Bool.not_eq_true, Bool.not_eq_false]
    exact and_left_comm
  rw [← htest]
  have hnil : processLoops E done timeoutTime [] p.currentTime p.status p.world =
      (if done p.world.mqtt = false ∧ p.currentTime < timeoutTime ∧ p.status.goesOn = true then
        throw .blocked else pure p.status : Program MQTTStatus) p.world := rfl
  unfold CallsAgain
  rw [hnil]
  constructor
  · intro h
    by_contra htime
    rw [if_neg htime] at h
    cases h
  · intro h
    rw [if_pos h]
    rfl

/-- What the program does from a point it does from the next one. -/
theorem processLoops_next {done : Mqtt → Bool} {timeoutTime : Nat} {p p' : LoopPoint}
    (h : CodeNext E done timeoutTime p p') :
    p.rest E done timeoutTime p.world = p'.rest E done timeoutTime p'.world := by
  rcases h with ⟨hcalls, round, hrounds, hpackets, htime, hstatus⟩
  rw [callsAgain_iff] at hcalls
  have htest : done p.world.mqtt = false ∧ p.currentTime < timeoutTime ∧
      p.status.goesOn = true := by
    have hexits := hcalls.2
    unfold LoopPoint.Exits at hexits
    rw [not_or, Bool.not_eq_true, Bool.not_eq_false] at hexits
    exact ⟨hexits.1, hcalls.1, hexits.2⟩
  have hround : p.rest E done timeoutTime p.world =
      (if done p.world.mqtt = false ∧ p.currentTime < timeoutTime ∧ p.status.goesOn = true then
        round.packets.forM (mqttCallback E) >>= fun _ =>
          processLoops E done timeoutTime p'.rounds round.time round.status
        else pure p.status : Program MQTTStatus) p.world := by
    unfold LoopPoint.rest
    rw [hrounds]
    rfl
  rw [hround, if_pos htest, bind_eq, hpackets, ← htime, ← hstatus]
  rfl

/-- The points the program comes to. -/
def WaitLoop.Reaches (loop : WaitLoop) (w : World) (p : LoopPoint) : Prop :=
  ReflTransGen (CodeNext E loop.done (loop.timeoutTime E w)) (loop.start E w) p

/-- The points a loop over the elapsed time comes to. -/
def WaitLoop.TimedReaches (loop : WaitLoop) (w : World) (p : LoopPoint) : Prop :=
  ReflTransGen (TimedNext E loop.done (loop.start E w).currentTime loop.timeout)
    (loop.start E w) p

/-- The loop calls `MQTT_ProcessLoop` exactly as long as the elapsed time is below
    the timeout and there is no other reason to leave it. So it calls it at
    least once, if there is none at its start, and no more once the time is
    up. -/
def KeepsTime (w : World) (loop : WaitLoop) : Prop :=
  ∀ p, loop.Reaches E w p → (CallsAgain E loop.done (loop.timeoutTime E w) p ↔
    ShouldCall loop.done (loop.start E w).currentTime loop.timeout p)

/-- There is another reason to leave the loop at its start; or its deadline does
    not wrap, and neither does a reading that a loop over the elapsed time would
    have to look at. -/
def Unwrapped (w : World) (loop : WaitLoop) : Prop :=
  (loop.start E w).Exits loop.done ∨
    (loop.start E w).currentTime + loop.timeout < 2 ^ 32 ∧
      ∀ p, loop.TimedReaches E w p → ¬ p.Exits loop.done →
        (loop.start E w).currentTime ≤ p.currentTime

end Loops

/-! ### The arithmetic of the deadline -/

theorem elapsed_self {entryTime : Nat} : elapsed entryTime entryTime = 0 := by
  unfold elapsed u32
  omega

/-- A deadline that wraps is below the time at the entry. -/
theorem lt_deadline_self {entryTime timeout : Nat} (hentry : entryTime < 2 ^ 32)
    (htimeout : timeout < 2 ^ 31) (h : entryTime < u32 (entryTime + timeout)) :
    entryTime + timeout < 2 ^ 32 := by
  unfold u32 at h
  omega

/-- The test of the program and that of the elapsed time agree as long as nothing
    wraps. -/
theorem lt_deadline_iff {entryTime timeout t : Nat} (ht : t < 2 ^ 32) (hle : entryTime ≤ t)
    (hlt : entryTime + timeout < 2 ^ 32) :
    t < u32 (entryTime + timeout) ↔ elapsed entryTime t < timeout := by
  unfold u32 elapsed u32
  omega

/-- On a reading that wrapped they do not. -/
theorem not_lt_deadline_iff {entryTime timeout t : Nat} (htimeout : 0 < timeout)
    (hlt : entryTime + timeout < 2 ^ 32) (hwrapped : t < entryTime) :
    ¬ (t < u32 (entryTime + timeout) ↔ elapsed entryTime t < timeout) := by
  unfold u32 elapsed u32
  omega

section Timeouts

variable {E : External} {w : World} {loop : WaitLoop}

/-- The program and the timed loop only look at readings of the clock. -/
theorem currentTime_mem {step : LoopPoint → LoopPoint → Prop}
    (hcalled : ∀ p p', step p p' → Called E p p') {p : LoopPoint}
    (h : ReflTransGen step (loop.start E w) p) :
    p.currentTime ∈ loop.readings E w ∧ ∃ before, (loop.start E w).rounds = before ++ p.rounds := by
  induction h with
  | refl => exact ⟨List.mem_cons_self, [], rfl⟩
  | @tail p p' _ hstep ih =>
      rcases hcalled p p' hstep with ⟨round, hrounds, -, htime, -⟩
      rcases ih with ⟨-, before, hbefore⟩
      rw [hrounds] at hbefore
      refine ⟨?_, before ++ [round], by rw [hbefore, List.append_assoc, List.singleton_append]⟩
      rw [htime]
      refine List.mem_cons_of_mem _ (List.mem_map_of_mem ?_)
      rw [hbefore]
      exact List.mem_append_right _ List.mem_cons_self

/-- At its start the loop has used no time. -/
theorem shouldCall_start (htimeout : 0 < loop.timeout)
    (hexits : ¬ (loop.start E w).Exits loop.done) :
    ShouldCall loop.done (loop.start E w).currentTime loop.timeout (loop.start E w) :=
  ⟨by rw [elapsed_self]; exact htimeout, hexits⟩

/-- A loop that keeps its time comes to every point the timed one comes to. -/
theorem code_of_timed (h : KeepsTime E w loop) {p : LoopPoint} (hp : loop.TimedReaches E w p) :
    loop.Reaches E w p := by
  induction hp with
  | refl => exact .refl
  | tail _ hstep ih => exact .tail ih ⟨(h _ ih).mpr hstep.1, hstep.2⟩

/-- As long as nothing wraps, the two tests agree. -/
theorem callsAgain_iff_shouldCall (hclock : ∀ t ∈ loop.readings E w, t < 2 ^ 32)
    (hlt : (loop.start E w).currentTime + loop.timeout < 2 ^ 32)
    (hle : ∀ p, loop.TimedReaches E w p → ¬ p.Exits loop.done →
      (loop.start E w).currentTime ≤ p.currentTime)
    {p : LoopPoint} (hp : loop.TimedReaches E w p) :
    CallsAgain E loop.done (loop.timeoutTime E w) p ↔
      ShouldCall loop.done (loop.start E w).currentTime loop.timeout p := by
  rw [callsAgain_iff]
  refine and_congr_left (fun hexits => ?_)
  have ht := hclock _ (currentTime_mem (fun _ _ hstep => hstep.2) hp).1
  exact lt_deadline_iff ht (hle p hp hexits) hlt

/-- As long as nothing wraps, the program comes to no other point. -/
theorem timed_of_code (hclock : ∀ t ∈ loop.readings E w, t < 2 ^ 32)
    (hlt : (loop.start E w).currentTime + loop.timeout < 2 ^ 32)
    (hle : ∀ p, loop.TimedReaches E w p → ¬ p.Exits loop.done →
      (loop.start E w).currentTime ≤ p.currentTime)
    {p : LoopPoint} (hp : loop.Reaches E w p) : loop.TimedReaches E w p := by
  induction hp with
  | refl => exact .refl
  | tail _ hstep ih =>
      exact .tail ih ⟨(callsAgain_iff_shouldCall hclock hlt hle ih).mp hstep.1, hstep.2⟩

/-- A loop that is left at its start for another reason makes no call. -/
theorem reaches_of_exits (hexits : (loop.start E w).Exits loop.done) {p : LoopPoint}
    (hp : loop.Reaches E w p) : p = loop.start E w := by
  induction hp with
  | refl => rfl
  | tail _ hstep ih =>
      have hcalls := hstep.1
      rw [ih, callsAgain_iff] at hcalls
      exact absurd hexits hcalls.2

end Timeouts

/-- The loops keep their time exactly if neither the deadline nor a reading
    wraps. -/
theorem loopTimeouts_iff (E : External) (w : World) (loop : WaitLoop)
    (hpos : 0 < loop.timeout) (htimeout : loop.timeout < 2 ^ 31)
    (hclock : ∀ t ∈ loop.readings E w, t < 2 ^ 32) :
    KeepsTime E w loop ↔ Unwrapped E w loop := by
  constructor
  · intro h
    by_cases hexits : (loop.start E w).Exits loop.done
    · exact Or.inl hexits
    have hentry : (loop.start E w).currentTime < 2 ^ 32 := hclock _ List.mem_cons_self
    -- the first call shows that the deadline did not wrap
    have hfirst := (h _ .refl).mpr (shouldCall_start hpos hexits)
    rw [callsAgain_iff] at hfirst
    have hlt := lt_deadline_self hentry htimeout hfirst.1
    refine Or.inr ⟨hlt, fun p hp hgoes => ?_⟩
    by_contra hwrapped
    have hboth := h p (code_of_timed h hp)
    rw [callsAgain_iff] at hboth
    exact not_lt_deadline_iff hpos hlt (by omega)
      ((and_congr_left_iff.mp hboth) hgoes)
  · rintro (hexits | ⟨hlt, hle⟩) p hp
    · -- the start is the only point, and neither loop goes on from it
      rw [reaches_of_exits hexits hp, callsAgain_iff]
      exact ⟨fun hcalls => absurd hexits hcalls.2, fun hshould => absurd hexits hshould.2⟩
    · exact callsAgain_iff_shouldCall hclock hlt hle (timed_of_code hclock hlt hle hp)

/-- A loop that begins when the clock shows 0. -/
theorem loopTimeouts_iff_early :
    KeepsTime (External.reliable [] [(1, [], 400)]) World.initial .ProcessLoopWithTimeout ↔
      Unwrapped (External.reliable [] [(1, [], 400)]) World.initial .ProcessLoopWithTimeout :=
  loopTimeouts_iff _ _ _ (by decide) (by decide) (by decide)

/-- The clock is about to wrap, and does so during the first round. -/
def aboutToWrap : External :=
  { External.reliable [] [(1, [], 400), (1, [], 900)] with getTime := fun _ => 2 ^ 32 - 100 }

/-- The loop that should go on for a second makes no call. -/
theorem loopTimeouts_wrapped :
    ¬ KeepsTime aboutToWrap World.initial .ProcessLoopWithTimeout := by
  intro h
  have hexits : ¬ ((WaitLoop.ProcessLoopWithTimeout.start aboutToWrap World.initial).Exits
      WaitLoop.ProcessLoopWithTimeout.done) := by
    rintro (hdone | hstatus)
    · cases hdone
    · cases hstatus
  have hcalls := (h _ .refl).mpr (shouldCall_start (by decide) hexits)
  rw [callsAgain_iff] at hcalls
  exact absurd hcalls.1 (by decide)

end FleetProvisioning

end ProvisioningSdk
