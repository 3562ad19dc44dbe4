import ProvisioningSdk.Agent.CommandPool

/-!
# Stray Releases

`Agent_ReleaseCommand` on pointers nobody got from `Agent_GetCommand`.

Its header says that a structure that was not obtained from the pool is left
alone. The function looks at the address only: what lies between the first and
the last structure is sent to the pool queue. A structure that was released
already, or the middle of one, passes that test, and the queue takes it whenever
it has a slot, which is whenever some structure is out. Then the same structure
is in the queue twice and goes to two threads.

What saves a stray release of that kind is a full queue. So the calls that do
nothing are exactly those with a pointer outside the array and those made while
every slot is taken, and with only such calls the structures stay apart.

## Main definitions

* `obtained`: What came from `Agent_GetCommand` and is not released yet.
* `ReleaseAct`, `releaseStep`: The threads, with stray releases among their
  calls.
* `NoEffect`: What the header promises of a stray release.
* `TurnedAway`: When the code turns one away.

## Theorems

* `poolQueues_releaseStep`: The queues stay sound, whatever is released.
* `noEffect_iff_turnedAway`: The two agree on every step.
* `strayRelease_noEffect_iff`: The same of whole runs, and no command with two
  holders in those.
-/

namespace ProvisioningSdk

namespace MqttAgent

open Bytes IotshdPal Transition

section Release

variable {ι : Type*}

/-- The commands obtained from `Agent_GetCommand` and not yet released: the ones
    on their way to the agent, and the ones somebody holds. -/
def obtained (st : PoolState ι) : List Nat :=
  pointers st.messages.commandQueue ++ st.held.map Prod.snd

variable (ι) in
/-- A call of a thread, or a release of a pointer that is not an obtained
    command. -/
inductive ReleaseAct
  | own (act : PoolAct ι)
  | stray (pCommandToRelease : Nat) (structReturned : Bool)

variable [DecidableEq ι] (base size : Nat)

/-- One call. -/
def releaseStep (st : PoolState ι) : ReleaseAct ι → Option (PoolState ι)
  | .own act => poolStep base size st act
  | .stray p res => match releaseCommand base size st.messages.poolQueue p with
      | .ok (queue, structReturned) =>
          if p < 2 ^ 64 ∧ p ∉ obtained st ∧ structReturned = res then
            some { st with messages := { st.messages with poolQueue := queue } }
          else none
      | .error _ => none

variable (ι) in
/-- The threads `ι` after `iotshdDev_MQTTAgentInit`. -/
def strayReleases (messages : AgentMessages) : System (PoolState ι) (ReleaseAct ι) where
  init := { messages := messages, held := [] }
  step := releaseStep base size

/-- What the header says of a pointer that was not obtained. -/
def NoEffect (st : PoolState ι) : ReleaseAct ι → Prop
  | .own _ => True
  | .stray p res => res = false ∧
      ∀ st', releaseStep base size st (.stray p res) = some st' → st' = st

/-- A stray pointer is outside the pool, or the pool queue is full. -/
def TurnedAway (st : PoolState ι) : ReleaseAct ι → Prop
  | .own _ => True
  | .stray p _ => ¬ (commandAddr base size 0 ≤ p ∧
      p < commandAddr base size commandContextsPoolSize) ∨
      commandContextsPoolSize ≤ (pointers st.messages.poolQueue).length

variable {base size} {commandQueueLength : Nat}

/-- What a stray release does: it puts the pointer into the pool, or nothing. -/
theorem releaseStep_stray {st st' : PoolState ι} {p : Nat} {res : Bool}
    (h : PoolQueues commandQueueLength st)
    (hstep : releaseStep base size st (.stray p res) = some st') :
    (res = true ∧ PoolQueues commandQueueLength st' ∧
        (pointers st'.messages.poolQueue).length = (pointers st.messages.poolQueue).length + 1 ∧
        ¬ TurnedAway base size st (.stray p res)) ∨
      (res = false ∧ st' = st ∧ TurnedAway base size st (.stray p res)) := by
  simp only [releaseStep] at hstep
  split at hstep
  · rename_i queue structReturned hrelease
    split at hstep
    · rename_i hcase
      rcases hcase with ⟨hp, -, rfl⟩
      cases hstep
      rcases releaseCommand_cases h.pool hp hrelease with
        ⟨hsound, ⟨rfl, hpush, hlow, hhigh, hroom⟩ | ⟨rfl, rfl, haway⟩⟩
      · refine Or.inl ⟨rfl, ⟨hsound, h.command, ?_⟩, ?_, ?_⟩
        · -- the pointer is new to the queue, and nothing else moved
          intro a ha
          simp only [commandPlaces, hpush, List.mem_append, List.mem_singleton] at ha
          rcases ha with ((hpool | hnew) | hcommand) | hheld
          · exact h.bounded a (List.mem_append_left _ (List.mem_append_left _ hpool))
          · rw [hnew]
            exact hp
          · exact h.bounded a (List.mem_append_left _ (List.mem_append_right _ hcommand))
          · exact h.bounded a (List.mem_append_right _ hheld)
        · simp only [hpush, List.length_append, List.length_singleton]
        · rintro (hrange | hfull)
          · exact hrange ⟨hlow, hhigh⟩
          · omega
      · refine Or.inr ⟨rfl, rfl, ?_⟩
        exact haway.imp_right (fun hfull => by omega)
    · cases hstep
  · cases hstep

/-- The queues stay sound, whatever is released. -/
theorem poolQueues_releaseStep {st st' : PoolState ι} {act : ReleaseAct ι}
    (h : PoolQueues commandQueueLength st) (hstep : releaseStep base size st act = some st') :
    PoolQueues commandQueueLength st' := by
  cases act with
  | own act => exact (poolStep_places h hstep).1
  | stray p res =>
      rcases releaseStep_stray h hstep with ⟨-, h', -⟩ | ⟨-, rfl, -⟩
      · exact h'
      · exact h

/-- A stray release does nothing if and only if it is turned away. -/
theorem noEffect_iff_turnedAway {st st' : PoolState ι} {act : ReleaseAct ι}
    (h : PoolQueues commandQueueLength st) (hstep : releaseStep base size st act = some st') :
    NoEffect base size st act ↔ TurnedAway base size st act := by
  cases act with
  | own act => exact Iff.rfl
  | stray p res =>
      rcases releaseStep_stray h hstep with ⟨rfl, -, -, hnot⟩ | ⟨rfl, rfl, haway⟩
      · exact ⟨fun heffect => absurd heffect.1 (by decide), fun haway => absurd haway hnot⟩
      · refine ⟨fun _ => haway, fun _ => ⟨rfl, ?_⟩⟩
        intro st'' hstep'
        rw [hstep, Option.some.injEq] at hstep'
        exact hstep'.symm

/-- A step whose stray pointer is turned away keeps the structures together. -/
theorem poolInv_releaseStep (hsize : 0 < size)
    (hbase : base + commandContextsPoolSize * size ≤ 2 ^ 64) {st st' : PoolState ι}
    {act : ReleaseAct ι} (h : PoolInv base size commandQueueLength st)
    (haway : TurnedAway base size st act) (hstep : releaseStep base size st act = some st') :
    PoolInv base size commandQueueLength st' := by
  cases act with
  | own act => exact (poolInv_step hsize hbase h hstep).1
  | stray p res =>
      rcases releaseStep_stray (h.queues hsize hbase) hstep with ⟨-, -, -, hnot⟩ | ⟨-, rfl, -⟩
      · exact absurd haway hnot
      · exact h

variable (ι base size commandQueueLength) in
/-- After `iotshdDev_MQTTAgentInit`, whatever the threads do, the stray releases
    of a run all return false and change nothing if and only if each has a
    pointer outside the pool or finds the pool queue full. In a run with only
    such ones no command is with two holders. -/
theorem strayRelease_noEffect_iff (hsize : 0 < size)
    (hbase : base + commandContextsPoolSize * size ≤ 2 ^ 64)
    (commandMalloc poolMalloc : QueueMalloc) (hlength : commandQueueLength ≤ 2 ^ 29)
    (messages : AgentMessages)
    (hinit : agentInit base size commandMalloc poolMalloc commandQueueLength ⟨none, none, false⟩ =
      .ok messages)
    (acts : List (ReleaseAct ι)) (st : PoolState ι)
    (hrun : (strayReleases ι base size messages).run acts = some st) :
    ((strayReleases ι base size messages).Guarded (NoEffect base size) acts ↔
        (strayReleases ι base size messages).Guarded (TurnedAway base size) acts) ∧
      ((strayReleases ι base size messages).Guarded (TurnedAway base size) acts →
        (commandPlaces st).Perm (commandAddrs base size) ∧ (obtained st).Nodup) := by
  have hinv : PoolInv base size commandQueueLength (strayReleases ι base size messages).init :=
    agentInit_inv ι hsize hbase commandMalloc poolMalloc hlength hinit
  -- the queues stay usable in every run, whatever is released
  have hqueues : ∀ s, (strayReleases ι base size messages).Reachable s →
      PoolQueues commandQueueLength s := fun s hs =>
    (strayReleases ι base size messages).reachable_induction
      (P := PoolQueues commandQueueLength) (hinv.queues hsize hbase)
      (fun _ _ _ _ hq hstep => poolQueues_releaseStep hq hstep) hs
  refine ⟨?_, ?_⟩
  · exact (strayReleases ι base size messages).guarded_congr
      (fun s a s' hs hstep => noEffect_iff_turnedAway (hqueues s hs) hstep) acts st hrun
  · intro hguard
    -- releases that are turned away keep the invariant of the pool
    have hend : PoolInv base size commandQueueLength st :=
      (strayReleases ι base size messages).guarded_induction
        (Q := PoolInv base size commandQueueLength) hinv
        (fun _ _ _ _ hq haway hstep => poolInv_releaseStep hsize hbase hq haway hstep)
        acts st hrun hguard
    have hnodup : (commandPlaces st).Nodup :=
      hend.perm.nodup_iff.mpr (nodup_commandAddrs base size hsize)
    rw [commandPlaces, List.append_assoc] at hnodup
    exact ⟨hend.perm, hnodup.of_append_right⟩

/-- A pointer below the pool, released while a command is out. -/
theorem strayRelease_noEffect_iff_below :
    ∃ messages, agentInit 4096 64 ⟨true, some (fun _ => 0)⟩ ⟨true, some (fun _ => 0)⟩ 10
        ⟨none, none, false⟩ = .ok messages ∧
      ∃ st, (strayReleases (Fin 2) 4096 64 messages).run
          [.own (.getCommand 0 (some 4096)), .stray 64 false] = some st ∧
        (obtained st).Nodup := by
  refine ⟨_, rfl, _, rfl, ?_⟩
  refine ((strayRelease_noEffect_iff (Fin 2) 4096 64 10 (by decide) (by decide)
    ⟨true, some (fun _ => 0)⟩ ⟨true, some (fun _ => 0)⟩ (by decide) _ rfl
    [.own (.getCommand 0 (some 4096)), .stray 64 false] _ rfl).2 ?_).2
  refine ⟨trivial, fun s hs => ⟨Or.inl (by decide), fun _ _ => trivial⟩⟩

/-- Two threads take a command each. The first releases its own twice, and both
    releases return true; eight commands later both threads hold it. -/
theorem strayRelease_twice :
    ∃ messages, agentInit 4096 64 ⟨true, some (fun _ => 0)⟩ ⟨true, some (fun _ => 0)⟩ 10
        ⟨none, none, false⟩ = .ok messages ∧
      ∃ st, (strayReleases (Fin 2) 4096 64 messages).run
          ([.own (.getCommand 0 (some 4096)), .own (.getCommand 1 (some 4160)),
            .own (.releaseCommand 0 4096 true), .stray 4096 true] ++
          [4224, 4288, 4352, 4416, 4480, 4544, 4608, 4672].map
            (fun p => .own (.getCommand 0 (some p))) ++
          [.own (.getCommand 0 (some 4096)), .own (.getCommand 1 (some 4096))]) = some st ∧
        (0, 4096) ∈ st.held ∧ (1, 4096) ∈ st.held ∧ ¬ (obtained st).Nodup := by
  refine ⟨_, rfl, _, rfl, ?_, ?_, ?_⟩
  · decide
  · decide
  · decide

end Release

end MqttAgent

end ProvisioningSdk
