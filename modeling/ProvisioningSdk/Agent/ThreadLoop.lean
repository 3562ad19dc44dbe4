import ProvisioningSdk.Agent.Commands

/-!
# The Thread Loop

`iotshdDev_MQTTAgentThreadLoop` of `mqtt_agent.c`: connect, run the agent's
command loop until it ends, and connect again after an error.

Each call of something outside is one step, and its outcome is the label. Two
outcomes are computed and never looked at, `xNetworkResult` and
`xConnectStatus`: the loop goes on to the next call whether or not the one
before it succeeded. A third, the status of `MQTT_Disconnect`, decides whether
the loop is left, and if it is an error the command loop is entered again on
the connection that was just closed.

`tlsOpen` and `lastConnect` are not variables of the program. They are what the
transport and the broker know of it, and the statements are about them.

## Main definitions

* `LoopState`, `LoopAct`: The loop and its calls.
* `threadLoop`: The loop as a system.
* `OnConnection`: What a call needs of the connection.
* `Succeeds`: The outcomes the loop relies on.
* `Doomed`: The next call that needs a connection has none.
* `OnClosed`, `ClosedAt`: Where the connection has to be closed.

## Theorems

* `loopSteps_of_step`: One step, as one of the named ones.
* `doomed_step`: A call that fails, and only that, dooms the loop.
* `threadLoop_connected`: The exact condition.
* `threadLoop_closed`: Connects find the connection closed, and so does the
  caller.
-/

namespace ProvisioningSdk

namespace MqttAgent

open Transition

/-- `MQTTConnectionStatus_t`. -/
inductive ConnectStatus
  | MQTTNotConnected
  | MQTTConnected
  deriving DecidableEq, Repr

/-- How far the agent's thread is in its loop. -/
inductive LoopPc
  /-- In `connectToBrokerWithBackoffRetries`, before an attempt. -/
  | tlsConnecting (xCleanSession : Bool)
  /-- In `prvMQTTConnect`. -/
  | mqttConnecting (xCleanSession : Bool)
  | resuming (xSessionPresent : Bool)
  /-- At the top of the loop, and in `MQTTAgent_CommandLoop`. -/
  | entering
  | commandLoop
  /-- At `MQTT_Disconnect`, after a termination. -/
  | terminating
  /-- At `Mbedtls_Pkcs11_Disconnect`, to connect again after it or not. -/
  | closing (reconnect : Bool)
  /-- At the condition of the loop. -/
  | testing
  | returned
  deriving DecidableEq, Repr

/-- The local variables of the loop, the `connectStatus` of the MQTT context,
    and the connection. -/
structure LoopState where
  pc : LoopPc
  xNetworkResult : Bool
  xMQTTStatus : MQTTStatus
  xConnectStatus : MQTTStatus
  connectStatus : ConnectStatus
  /-- The TLS connection is open. -/
  tlsOpen : Bool
  /-- What the last `MQTT_Connect` on it returned. -/
  lastConnect : Option MQTTStatus
  deriving DecidableEq, Repr

/-- The calls of the loop, with their outcomes. -/
inductive LoopAct
  /-- Whether TLS came up, and otherwise whether the backoff allows another
      attempt. -/
  | tlsConnect (connected retry : Bool)
  | mqttConnect (status : MQTTStatus) (xSessionPresent : Bool)
  | resumeSession (status : MQTTStatus)
  | enterCommandLoop
  /-- It returns, with the connection status in the MQTT context then. -/
  | leaveCommandLoop (status : MQTTStatus) (connectStatus : ConnectStatus)
  | mqttDisconnect (status : MQTTStatus)
  | tlsDisconnect
  /-- The condition of the loop. -/
  | test
  deriving DecidableEq, Repr

namespace LoopState

/-- What `Mbedtls_Pkcs11_Connect` does. An attempt that fails leaves the context
    closed. -/
def attempt (st : LoopState) (connected : Bool) : LoopState :=
  { st with
    tlsOpen := connected
    lastConnect := none }

/-- What `MQTT_Connect` does. -/
def answer (st : LoopState) (status : MQTTStatus) : LoopState :=
  { st with
    lastConnect := some status
    connectStatus := if status = .MQTTSuccess then .MQTTConnected else st.connectStatus }

/-- `connectToBrokerWithBackoffRetries` returns. -/
def networkResult (st : LoopState) (xCleanSession connected : Bool) : LoopState :=
  { st with
    pc := .mqttConnecting xCleanSession
    xNetworkResult := connected
    connectStatus := .MQTTNotConnected }

/-- `prvMQTTConnect` returns. A reconnect is the end of the loop's body. -/
def connectResult (st : LoopState) (xCleanSession : Bool) (xResult : MQTTStatus) : LoopState :=
  { st with
    pc := if xCleanSession then .entering else .testing
    xConnectStatus := xResult }

/-- The connection is open, and the broker has accepted it. -/
def Connected (st : LoopState) : Prop :=
  st.tlsOpen = true ∧ st.lastConnect = some .MQTTSuccess

instance (st : LoopState) : Decidable st.Connected := inferInstanceAs (Decidable (_ ∧ _))

end LoopState

/-- Where the loop goes when the command loop has returned. -/
def afterCommandLoop (status : MQTTStatus) (connectStatus : ConnectStatus) : LoopPc :=
  if status = .MQTTSuccess ∧ connectStatus = .MQTTNotConnected then .closing false
  -- the agent was terminated, and MQTT is still connected
  else if status = .MQTTSuccess then .terminating
  else .closing true

/-- One step of `iotshdDev_MQTTAgentThreadLoop`. -/
def loopStep (st : LoopState) : LoopAct → Option LoopState
  | .tlsConnect connected retry => match st.pc with
      | .tlsConnecting clean =>
          if connected = true then some ((st.attempt true).networkResult clean true)
          else if retry = true then some (st.attempt false)
          else some ((st.attempt false).networkResult clean false)
      | _ => none
  | .mqttConnect status xSessionPresent => match st.pc with
      | .mqttConnecting clean =>
          if status = .MQTTSuccess ∧ clean = false then
            some { st.answer .MQTTSuccess with pc := .resuming xSessionPresent }
          else some ((st.answer status).connectResult clean status)
      | _ => none
  | .resumeSession status => match st.pc with
      -- nothing subscribes again to what the broker has forgotten
      | .resuming _ => some (st.connectResult false status)
      | _ => none
  | .enterCommandLoop => match st.pc with
      | .entering => some { st with pc := .commandLoop }
      | _ => none
  | .leaveCommandLoop status connectStatus => match st.pc with
      | .commandLoop => some
          { st with
            pc := afterCommandLoop status connectStatus
            xMQTTStatus := status
            connectStatus := connectStatus }
      | _ => none
  | .mqttDisconnect status => match st.pc with
      | .terminating => some { st with pc := .closing false, xMQTTStatus := status }
      | _ => none
  | .tlsDisconnect => match st.pc with
      | .closing reconnect => some
          { st with
            pc := if reconnect then .tlsConnecting false else .testing
            tlsOpen := false
            lastConnect := none }
      | _ => none
  | .test => match st.pc with
      | .testing => some
          { st with pc := if st.xMQTTStatus ≠ .MQTTSuccess then .entering else .returned }
      | _ => none

/-- The loop, from its entry. The first connect asks for a clean session. -/
def threadLoop : System LoopState LoopAct where
  init :=
    { pc := .tlsConnecting true
      xNetworkResult := false
      xMQTTStatus := .MQTTSuccess
      xConnectStatus := .MQTTSuccess
      connectStatus := .MQTTNotConnected
      tlsOpen := false
      lastConnect := none }
  step := loopStep

/-! ### The steps by name -/

/-- What each step needs, and the state it leads to. -/
inductive LoopSteps (st : LoopState) : LoopAct → LoopState → Prop
  | tlsUp (clean retry : Bool) (hpc : st.pc = .tlsConnecting clean) :
      LoopSteps st (.tlsConnect true retry)
        ((st.attempt true).networkResult clean true)
  | tlsRetry (clean : Bool) (hpc : st.pc = .tlsConnecting clean) :
      LoopSteps st (.tlsConnect false true) (st.attempt false)
  | tlsExhausted (clean : Bool) (hpc : st.pc = .tlsConnecting clean) :
      LoopSteps st (.tlsConnect false false)
        ((st.attempt false).networkResult clean false)
  | accepted (xSessionPresent : Bool) (hpc : st.pc = .mqttConnecting false) :
      LoopSteps st (.mqttConnect .MQTTSuccess xSessionPresent)
        { st.answer .MQTTSuccess with pc := .resuming xSessionPresent }
  | answered (clean : Bool) (status : MQTTStatus) (xSessionPresent : Bool)
      (hpc : st.pc = .mqttConnecting clean) (hcase : ¬ (status = .MQTTSuccess ∧ clean = false)) :
      LoopSteps st (.mqttConnect status xSessionPresent)
        ((st.answer status).connectResult clean status)
  | resumed (xSessionPresent : Bool) (status : MQTTStatus)
      (hpc : st.pc = .resuming xSessionPresent) :
      LoopSteps st (.resumeSession status) (st.connectResult false status)
  | enter (hpc : st.pc = .entering) :
      LoopSteps st .enterCommandLoop { st with pc := .commandLoop }
  | leave (status : MQTTStatus) (connectStatus : ConnectStatus) (hpc : st.pc = .commandLoop) :
      LoopSteps st (.leaveCommandLoop status connectStatus)
        { st with
          pc := afterCommandLoop status connectStatus
          xMQTTStatus := status
          connectStatus := connectStatus }
  | disconnected (status : MQTTStatus) (hpc : st.pc = .terminating) :
      LoopSteps st (.mqttDisconnect status) { st with pc := .closing false, xMQTTStatus := status }
  | closed (reconnect : Bool) (hpc : st.pc = .closing reconnect) :
      LoopSteps st .tlsDisconnect
        { st with
          pc := if reconnect then .tlsConnecting false else .testing
          tlsOpen := false
          lastConnect := none }
  | tested (hpc : st.pc = .testing) :
      LoopSteps st .test
        { st with pc := if st.xMQTTStatus ≠ .MQTTSuccess then .entering else .returned }

theorem loopSteps_of_step {st st' : LoopState} {act : LoopAct}
    (hstep : loopStep st act = some st') :
    LoopSteps st act st' := by
  unfold loopStep at hstep
  cases act with
  -- a connection is up, tried again, or given up
  | tlsConnect connected retry =>
      simp only at hstep
      split at hstep
      · rename_i clean hpc
        by_cases hup : connected = true
        · rw [if_pos hup] at hstep
          subst hup
          cases hstep
          exact .tlsUp clean retry hpc
        · rw [if_neg hup] at hstep
          have hdown : connected = false := Bool.eq_false_iff.mpr hup
          subst hdown
          by_cases hretry : retry = true
          · rw [if_pos hretry] at hstep
            subst hretry
            cases hstep
            exact .tlsRetry clean hpc
          · rw [if_neg hretry] at hstep
            have hlast : retry = false := Bool.eq_false_iff.mpr hretry
            subst hlast
            cases hstep
            exact .tlsExhausted clean hpc
      · cases hstep
  | mqttConnect status sessionPresent =>
      simp only at hstep
      split at hstep
      · rename_i clean hpc
        -- only an accepted reconnect looks at the session
        by_cases hcase : status = .MQTTSuccess ∧ clean = false
        · rw [if_pos hcase] at hstep
          rcases hcase with ⟨rfl, rfl⟩
          cases hstep
          exact .accepted sessionPresent hpc
        · rw [if_neg hcase] at hstep
          cases hstep
          exact .answered clean status sessionPresent hpc hcase
      · cases hstep
  | resumeSession status =>
      simp only at hstep
      split at hstep
      · rename_i sessionPresent hpc
        cases hstep
        exact .resumed sessionPresent status hpc
      · cases hstep
  -- the rest of the loop has one way to go
  | enterCommandLoop =>
      simp only at hstep
      split at hstep
      · rename_i hpc
        cases hstep
        exact .enter hpc
      · cases hstep
  | leaveCommandLoop status connectStatus =>
      simp only at hstep
      split at hstep
      · rename_i hpc
        cases hstep
        exact .leave status connectStatus hpc
      · cases hstep
  | mqttDisconnect status =>
      simp only at hstep
      split at hstep
      · rename_i hpc
        cases hstep
        exact .disconnected status hpc
      · cases hstep
  | tlsDisconnect =>
      simp only at hstep
      split at hstep
      · rename_i reconnect hpc
        cases hstep
        exact .closed reconnect hpc
      · cases hstep
  | test =>
      simp only at hstep
      split at hstep
      · rename_i hpc
        cases hstep
        exact .tested hpc
      · cases hstep

/-! ### Calls and the connection -/

/-- What a call needs of the connection. -/
def OnConnection (st : LoopState) : LoopAct → Prop
  | .enterCommandLoop => st.Connected
  | .mqttConnect _ _ => st.tlsOpen = true
  | _ => True

/-- The outcomes the loop relies on without looking at them. -/
def LoopAct.Succeeds : LoopAct → Prop
  | .tlsConnect connected retry => connected = true ∨ retry = true
  | .mqttConnect status _ => status = .MQTTSuccess
  | .mqttDisconnect status => status = .MQTTSuccess
  | _ => True

/-- The loop is on its way from an error to a new connection. -/
def LoopPc.reconnecting : LoopPc → Bool
  | .closing reconnect => reconnect
  | .tlsConnecting clean => !clean
  | .mqttConnecting clean => !clean
  | .resuming _ => true
  | _ => false

/-- The next call that needs a connection has none. -/
def Doomed (st : LoopState) : Prop :=
  match st.pc with
  | .mqttConnecting _ => st.tlsOpen = false
  | .resuming _ => ¬ st.Connected
  | .entering => ¬ st.Connected
  | .testing => st.xMQTTStatus ≠ .MQTTSuccess ∧ ¬ st.Connected
  -- a connection that is closed with an error pending is not replaced
  | .closing reconnect => reconnect = false ∧ st.xMQTTStatus ≠ .MQTTSuccess
  | _ => False

/-- While the loop reconnects, the error it reconnects for is still in
    `xMQTTStatus`. -/
def ErrorPending (st : LoopState) : Prop :=
  st.pc.reconnecting = true → st.xMQTTStatus ≠ .MQTTSuccess

theorem afterCommandLoop_cases (status : MQTTStatus) (connectStatus : ConnectStatus) :
    (status = .MQTTSuccess ∧ (afterCommandLoop status connectStatus = .closing false ∨
      afterCommandLoop status connectStatus = .terminating)) ∨
    (status ≠ .MQTTSuccess ∧ afterCommandLoop status connectStatus = .closing true) := by
  unfold afterCommandLoop
  by_cases hstatus : status = .MQTTSuccess
  · refine Or.inl ⟨hstatus, ?_⟩
    by_cases hconn : connectStatus = .MQTTNotConnected
    · exact Or.inl (if_pos ⟨hstatus, hconn⟩)
    · refine Or.inr ?_
      rw [if_neg (fun h => hconn h.2), if_pos hstatus]
  · refine Or.inr ⟨hstatus, ?_⟩
    rw [if_neg (fun h => hstatus h.1), if_neg hstatus]

theorem errorPending_step {st st' : LoopState} {act : LoopAct} (h : ErrorPending st)
    (hstep : LoopSteps st act st') : ErrorPending st' := by
  unfold ErrorPending at *
  cases hstep with
  -- a reconnect was started with an error, and connecting does not touch it
  | tlsUp clean retry hpc =>
      rw [hpc] at h
      exact h
  | tlsRetry clean hpc => exact h
  | tlsExhausted clean hpc =>
      rw [hpc] at h
      exact h
  | accepted sessionPresent hpc =>
      rw [hpc] at h
      exact fun _ => h rfl
  -- from here on the thread is not on its way to a reconnect
  | answered clean status sessionPresent hpc hcase =>
      intro hrec
      cases clean <;> cases hrec
  | resumed sessionPresent status hpc =>
      intro hrec
      cases hrec
  | enter hpc =>
      intro hrec
      cases hrec
  | leave status connectStatus hpc =>
      intro hrec
      -- the command loop asks for one only with an error
      rcases afterCommandLoop_cases status connectStatus with ⟨-, hto⟩ | ⟨hstatus, -⟩
      · simp only at hrec
        rcases hto with hto | hto
        · rw [hto] at hrec
          cases hrec
        · rw [hto] at hrec
          cases hrec
      · exact hstatus
  | disconnected status hpc =>
      intro hrec
      cases hrec
  | closed reconnect hpc =>
      rw [hpc] at h
      intro hrec
      cases reconnect with
      | false => cases hrec
      | true => exact h rfl
  | tested hpc =>
      intro hrec
      simp only at hrec
      split at hrec
      · cases hrec
      · cases hrec

/-- A loop that is not doomed makes its next call on a connection. -/
theorem onConnection_of_not_doomed {st st' : LoopState} {act : LoopAct}
    (hstep : LoopSteps st act st') (h : ¬ Doomed st) : OnConnection st act := by
  unfold Doomed at h
  cases hstep with
  | accepted sessionPresent hpc =>
      rw [hpc] at h
      exact Bool.eq_true_of_not_eq_false h
  | answered clean status sessionPresent hpc hcase =>
      rw [hpc] at h
      exact Bool.eq_true_of_not_eq_false h
  | enter hpc =>
      rw [hpc] at h
      exact not_not.mp h
  | _ => trivial

/-- A call on a connection dooms the loop exactly if it fails. -/
theorem doomed_step {st st' : LoopState} {act : LoopAct} (hpending : ErrorPending st)
    (hstep : LoopSteps st act st') (hon : OnConnection st act) :
    Doomed st' ↔ Doomed st ∨ ¬ act.Succeeds := by
  unfold ErrorPending at hpending
  cases hstep with
  -- connecting: a failure ends the loop, or the attempt
  | tlsUp clean retry hpc =>
      simp [Doomed, LoopState.networkResult, LoopState.attempt, hpc, LoopAct.Succeeds]
  | tlsRetry clean hpc =>
      simp [Doomed, LoopState.attempt, hpc, LoopAct.Succeeds]
  | tlsExhausted clean hpc =>
      simp [Doomed, LoopState.networkResult, LoopState.attempt, hpc, LoopAct.Succeeds]
  | accepted sessionPresent hpc =>
      have hopen : st.tlsOpen = true := hon
      simp [Doomed, LoopState.Connected, LoopState.answer, hpc, hopen, LoopAct.Succeeds]
  | answered clean status sessionPresent hpc hcase =>
      have hopen : st.tlsOpen = true := hon
      cases clean with
      | true =>
          simp [Doomed, LoopState.Connected, LoopState.connectResult, LoopState.answer, hpc, hopen,
            LoopAct.Succeeds]
      | false =>
          -- a reconnect ends at the condition of the loop, which goes on with the error
          have herror : st.xMQTTStatus ≠ .MQTTSuccess := by
            rw [hpc] at hpending
            exact hpending rfl
          simp [Doomed, LoopState.Connected, LoopState.connectResult, LoopState.answer, hpc, hopen,
            herror, LoopAct.Succeeds]
  | resumed sessionPresent status hpc =>
      have herror : st.xMQTTStatus ≠ .MQTTSuccess := by
        rw [hpc] at hpending
        exact hpending rfl
      simp [Doomed, LoopState.Connected, LoopState.connectResult, hpc, herror, LoopAct.Succeeds]
  -- on a connection: a failed command loop asks for another one
  | enter hpc =>
      have hconn : st.Connected := hon
      simp [Doomed, hpc, hconn, LoopAct.Succeeds]
  | leave status connectStatus hpc =>
      rcases afterCommandLoop_cases status connectStatus with ⟨hstatus, hto | hto⟩ | ⟨-, hto⟩
      · simpa [Doomed, hpc, hto, LoopAct.Succeeds] using hstatus
      · simp [Doomed, hpc, hto, LoopAct.Succeeds]
      · simp [Doomed, hpc, hto, LoopAct.Succeeds]
  | disconnected status hpc =>
      simp [Doomed, hpc, LoopAct.Succeeds]
  | closed reconnect hpc =>
      cases reconnect with
      | true => simp [Doomed, hpc, LoopAct.Succeeds]
      | false => simp [Doomed, LoopState.Connected, hpc, LoopAct.Succeeds]
  -- the condition of the loop looks at the error
  | tested hpc =>
      by_cases herror : st.xMQTTStatus = .MQTTSuccess
      · simp [Doomed, hpc, herror, LoopAct.Succeeds]
      · simp [Doomed, LoopState.Connected, hpc, herror, LoopAct.Succeeds]

/-- What a whole run says of its calls, of where it is, and of their outcomes. -/
theorem threadLoop_run (acts : List LoopAct) (st : LoopState)
    (hrun : threadLoop.run acts = some st) :
    ErrorPending st ∧
      (threadLoop.Guarded OnConnection acts → (¬ Doomed st ↔ ∀ act ∈ acts, act.Succeeds)) ∧
      ((∀ act ∈ acts, act.Succeeds) → threadLoop.Guarded OnConnection acts) := by
  refine threadLoop.run_induction (P := fun acts st => ErrorPending st ∧
    (threadLoop.Guarded OnConnection acts → (¬ Doomed st ↔ ∀ act ∈ acts, act.Succeeds)) ∧
    ((∀ act ∈ acts, act.Succeeds) → threadLoop.Guarded OnConnection acts)) ?_ ?_ acts st hrun
  · refine ⟨fun hrec => (by cases hrec), fun _ => ?_, fun _ => trivial⟩
    exact ⟨fun _ act hact => absurd hact List.not_mem_nil, fun _ hdoomed => hdoomed⟩
  · rintro acts st act st' hrun ⟨hpending, hexact, hgood⟩ hs
    have hstep := loopSteps_of_step hs
    have hall : (∀ a ∈ acts ++ [act], a.Succeeds) ↔ (∀ a ∈ acts, a.Succeeds) ∧ act.Succeeds := by
      simp only [List.mem_append, List.mem_singleton, or_imp, forall_and, forall_eq]
    refine ⟨errorPending_step hpending hstep, ?_, ?_⟩
    · intro hguard
      rcases (threadLoop.guarded_concat hrun).mp hguard with ⟨hbefore, hlast⟩
      rw [hall, ← hexact hbefore, doomed_step hpending hstep hlast, not_or, not_not]
    · intro hsucceed
      rcases hall.mp hsucceed with ⟨hbefore, -⟩
      -- nothing has failed so far, so the loop is not doomed and the next call is safe
      have hguard := hgood hbefore
      exact (threadLoop.guarded_concat hrun).mpr
        ⟨hguard, onConnection_of_not_doomed hstep ((hexact hguard).mpr hbefore)⟩

/-- The calls of the loop are made on a connection if the outcomes it ignores
    are successes, and in a run up to the command loop only if they are. -/
theorem threadLoop_connected (acts : List LoopAct) (st : LoopState)
    (hrun : threadLoop.run acts = some st) :
    ((∀ act ∈ acts, act.Succeeds) → threadLoop.Guarded OnConnection acts) ∧
      (st.pc = .commandLoop → threadLoop.Guarded OnConnection acts →
        ∀ act ∈ acts, act.Succeeds) := by
  rcases threadLoop_run acts st hrun with ⟨-, hexact, hgood⟩
  refine ⟨hgood, fun hpc hguard => (hexact hguard).mp ?_⟩
  unfold Doomed
  rw [hpc]
  exact not_false

theorem threadLoop_connected_one :
    threadLoop.Guarded OnConnection
      [.tlsConnect true false, .mqttConnect .MQTTSuccess false, .enterCommandLoop] :=
  (threadLoop_connected
    [.tlsConnect true false, .mqttConnect .MQTTSuccess false, .enterCommandLoop] _ rfl).1
    (by simp [LoopAct.Succeeds])

/-- A broker that cannot be reached does not keep the loop from the calls that
    need it. -/
theorem threadLoop_unconnected :
    ∃ acts st, threadLoop.run acts = some st ∧ ¬ threadLoop.Guarded OnConnection acts := by
  refine ⟨[.tlsConnect false false, .mqttConnect .MQTTSendFailed false, .enterCommandLoop], _, rfl,
    fun hguard => ?_⟩
  -- the attempt at `MQTT_Connect` comes right after the connect that failed
  have hopen := (hguard.2 _ rfl).1
  cases hopen

/-! ### Connects and the open connection -/

/-- `Mbedtls_Pkcs11_Connect` is called with no connection open. -/
def OnClosed (st : LoopState) : LoopAct → Prop
  | .tlsConnect _ _ => st.tlsOpen = false
  | _ => True

/-- The connection is closed where the loop connects and when it has returned,
    and at its condition unless an error is pending. -/
def ClosedAt (st : LoopState) : Prop :=
  match st.pc with
  | .tlsConnecting _ => st.tlsOpen = false
  | .testing => st.xMQTTStatus = .MQTTSuccess → st.tlsOpen = false
  | .returned => st.tlsOpen = false
  | _ => True

theorem closedAt_step {st st' : LoopState} {act : LoopAct} (hpending : ErrorPending st)
    (h : ClosedAt st) (hstep : LoopSteps st act st') : ClosedAt st' := by
  unfold ErrorPending at hpending
  unfold ClosedAt at h ⊢
  cases hstep with
  -- nothing is promised while the connection is made and used
  | tlsUp clean retry hpc => trivial
  | tlsRetry clean hpc =>
      simp only [LoopState.attempt, hpc]
  | tlsExhausted clean hpc => trivial
  | accepted sessionPresent hpc => trivial
  | answered clean status sessionPresent hpc hcase =>
      cases clean with
      | true => trivial
      | false =>
          -- a new connection is open here, and the error it was made for is pending
          intro hsuccess
          rw [hpc] at hpending
          exact absurd hsuccess (hpending rfl)
  | resumed sessionPresent status hpc =>
      intro hsuccess
      rw [hpc] at hpending
      exact absurd hsuccess (hpending rfl)
  | enter hpc => trivial
  | leave status connectStatus hpc =>
      simp only
      rcases afterCommandLoop_cases status connectStatus with ⟨-, hto | hto⟩ | ⟨-, hto⟩
      · rw [hto]
        trivial
      · rw [hto]
        trivial
      · rw [hto]
        trivial
  -- the socket is closed on the way out, and the test only reads
  | disconnected status hpc => trivial
  | closed reconnect hpc =>
      cases reconnect with
      | true => rfl
      | false => exact fun _ => rfl
  | tested hpc =>
      rw [hpc] at h
      simp only
      by_cases hsuccess : st.xMQTTStatus = .MQTTSuccess
      · rw [if_neg (not_not.mpr hsuccess)]
        exact h hsuccess
      · rw [if_pos hsuccess]
        trivial

/-- However often the loop reconnects, and whatever its calls return,
    `Mbedtls_Pkcs11_Connect` is never called while a connection is open, and the
    connection is closed when the loop has returned. -/
theorem threadLoop_closed (acts : List LoopAct) (st : LoopState)
    (hrun : threadLoop.run acts = some st) :
    threadLoop.Guarded OnClosed acts ∧ (st.pc = .returned → st.tlsOpen = false) := by
  have hinv : ErrorPending st ∧ ClosedAt st ∧ threadLoop.Guarded OnClosed acts := by
    refine threadLoop.run_induction
      (P := fun acts st => ErrorPending st ∧ ClosedAt st ∧ threadLoop.Guarded OnClosed acts)
      ?_ ?_ acts st hrun
    · exact ⟨fun hrec => (by cases hrec), rfl, threadLoop.guarded_nil OnClosed⟩
    · rintro acts st act st' hr ⟨hpending, hclosed, hguard⟩ hs
      have hstep := loopSteps_of_step hs
      refine ⟨errorPending_step hpending hstep, closedAt_step hpending hclosed hstep,
        (threadLoop.guarded_concat hr).mpr ⟨hguard, ?_⟩⟩
      unfold ClosedAt at hclosed
      cases hstep with
      | tlsUp clean retry hpc =>
          rw [hpc] at hclosed
          exact hclosed
      | tlsRetry clean hpc =>
          rw [hpc] at hclosed
          exact hclosed
      | tlsExhausted clean hpc =>
          rw [hpc] at hclosed
          exact hclosed
      | _ => trivial
  refine ⟨hinv.2.2, fun hpc => ?_⟩
  have hclosed := hinv.2.1
  unfold ClosedAt at hclosed
  rw [hpc] at hclosed
  exact hclosed

/-- A loop that reconnects once and is terminated with `MQTT_Disconnect`
    failing, so that it goes round on a closed connection before it returns. -/
theorem threadLoop_closed_twice :
    ∃ st, threadLoop.run
        [.tlsConnect true false, .mqttConnect .MQTTSuccess false, .enterCommandLoop,
          .leaveCommandLoop .MQTTRecvFailed .MQTTConnected, .tlsDisconnect, .tlsConnect false true,
          .tlsConnect true false, .mqttConnect .MQTTSuccess true, .resumeSession .MQTTSuccess,
          .test, .enterCommandLoop, .leaveCommandLoop .MQTTSuccess .MQTTConnected,
          .mqttDisconnect .MQTTSendFailed, .tlsDisconnect, .test, .enterCommandLoop,
          .leaveCommandLoop .MQTTSuccess .MQTTNotConnected, .tlsDisconnect, .test] = some st ∧
      st.pc = .returned ∧ st.tlsOpen = false := by
  refine ⟨_, rfl, rfl, ?_⟩
  exact (threadLoop_closed
    [.tlsConnect true false, .mqttConnect .MQTTSuccess false, .enterCommandLoop,
      .leaveCommandLoop .MQTTRecvFailed .MQTTConnected, .tlsDisconnect, .tlsConnect false true,
      .tlsConnect true false, .mqttConnect .MQTTSuccess true, .resumeSession .MQTTSuccess,
      .test, .enterCommandLoop, .leaveCommandLoop .MQTTSuccess .MQTTConnected,
      .mqttDisconnect .MQTTSendFailed, .tlsDisconnect, .test, .enterCommandLoop,
      .leaveCommandLoop .MQTTSuccess .MQTTNotConnected, .tlsDisconnect, .test] _ rfl).2 rfl

end MqttAgent

end ProvisioningSdk
