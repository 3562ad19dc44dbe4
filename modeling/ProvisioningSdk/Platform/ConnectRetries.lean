import Mathlib.Algebra.Group.Nat.Defs
import ProvisioningSdk.Lib.Retries
import ProvisioningSdk.Platform.MbedtlsConnect

/-!
# Connecting with Retries

`connectToBrokerWithBackoffRetries` of `mqtt_operations.c` and of `mqtt_agent.c`,
over `Mbedtls_Pkcs11_Connect`, `Clock_SleepMs` and the backoff algorithm.

The loop goes on until the backoff algorithm says that it is over, so the number
of attempts and the time that is slept are up to that algorithm, and the
constants it is given. What the loop does itself is with the context. An attempt
that fails leaves it freed, and only the first one can find a socket that is
still open (`Failing`). A socket that is open when the next attempt initialises
the context is lost.

## Main definitions

* `BackoffAlgorithm`: The functions outside the repository.
* `connectLoop`: The loop, and with the arguments of each file its functions.
* `Rounds`: Attempts that failed, and the sleep after each.
* `CallEnds`: How a call ends.

## Theorems

* `connect_leaves`: What an attempt leaves of the context.
* `connectRetries_end`: Every call ends so.
-/

namespace ProvisioningSdk

namespace BrokerConnection

open Effect
open MbedtlsPkcs11 (Outside MbedtlsPkcs11Context MbedtlsPkcs11Status MbedtlsPkcs11Credentials
  Arguments Mbedtls_Pkcs11_Connect Passes Wants CKR_OK connectVerdict freeingOnFailure_checks
  freeingOnFailure_fails steps_check connect_of_some connectVerdict_eq_pass
  connectVerdict_eq_halt)
open MbedtlsPkcs11.MbedtlsPkcs11Status

/-! ### The sleep -/

/-- `struct timespec`. -/
structure Timespec where
  tv_sec : Nat
  tv_nsec : Nat
  deriving DecidableEq, Repr

/-- The time in nanoseconds. -/
def Timespec.nanoseconds (t : Timespec) : Nat := t.tv_sec * 1000000000 + t.tv_nsec

/-- `MILLISECONDS_PER_SECOND`. -/
def MILLISECONDS_PER_SECOND : Nat := 1000

/-- `NANOSECONDS_PER_MILLISECOND`. -/
def NANOSECONDS_PER_MILLISECOND : Nat := 1000000

/-- What `Clock_SleepMs` asks `nanosleep` for. -/
def sleepTime (sleepTimeMs : UInt32) : Timespec where
  tv_sec := sleepTimeMs.toNat / MILLISECONDS_PER_SECOND
  tv_nsec := sleepTimeMs.toNat % MILLISECONDS_PER_SECOND * NANOSECONDS_PER_MILLISECOND

/-- The time is kept, and `nanosleep` accepts it. -/
theorem sleepTime_exact (sleepTimeMs : UInt32) :
    (sleepTime sleepTimeMs).nanoseconds = sleepTimeMs.toNat * NANOSECONDS_PER_MILLISECOND ∧
      (sleepTime sleepTimeMs).tv_nsec < 1000000000 := by
  unfold sleepTime Timespec.nanoseconds MILLISECONDS_PER_SECOND NANOSECONDS_PER_MILLISECOND
  simp only
  omega

/-! ### The backoff algorithm -/

/-- `CONNECTION_RETRY_MAX_ATTEMPTS`. -/
def CONNECTION_RETRY_MAX_ATTEMPTS : Nat := 5

/-- `CONNECTION_RETRY_MAX_BACKOFF_DELAY_MS`. -/
def CONNECTION_RETRY_MAX_BACKOFF_DELAY_MS : Nat := 5000

/-- `CONNECTION_RETRY_BACKOFF_BASE_MS`. -/
def CONNECTION_RETRY_BACKOFF_BASE_MS : Nat := 500

/-- `BackoffAlgorithmStatus_t`. -/
inductive BackoffAlgorithmStatus
  | BackoffAlgorithmSuccess
  | BackoffAlgorithmRetriesExhausted
  deriving DecidableEq, Repr

open BackoffAlgorithmStatus

/-- The backoff algorithm is outside the repository. -/
structure BackoffAlgorithm where
  Context : Type
  /-- The base, the largest delay, and the number of attempts. -/
  InitializeParams : Nat → Nat → Nat → Context
  /-- The status, the delay and the new context, from a random number. -/
  GetNextBackoff : Context → UInt32 → BackoffAlgorithmStatus × UInt16 × Context

/-- The largest delay after this many retries. It doubles, up to a limit. -/
def jitterMax (n : Nat) : Nat :=
  min (CONNECTION_RETRY_BACKOFF_BASE_MS * 2 ^ n) CONNECTION_RETRY_MAX_BACKOFF_DELAY_MS

/-- There are as many retries as asked for, with a random delay before each. The
    relation says how many retries a context has given. -/
structure BackoffAlgorithm.Documented (A : BackoffAlgorithm)
    (Retries : Nat → A.Context → Prop) : Prop where
  initial : Retries 0 (A.InitializeParams CONNECTION_RETRY_BACKOFF_BASE_MS
    CONNECTION_RETRY_MAX_BACKOFF_DELAY_MS CONNECTION_RETRY_MAX_ATTEMPTS)
  next : ∀ n, n < CONNECTION_RETRY_MAX_ATTEMPTS → ∀ c, Retries n c → ∀ randomValue,
    ∃ backoff c', A.GetNextBackoff c randomValue = (BackoffAlgorithmSuccess, backoff, c') ∧
      backoff.toNat ≤ jitterMax n ∧ Retries (n + 1) c'
  last : ∀ c, Retries CONNECTION_RETRY_MAX_ATTEMPTS c → ∀ randomValue,
    (A.GetNextBackoff c randomValue).1 = BackoffAlgorithmRetriesExhausted

/-! ### The loop -/

/-- What is done on the way. -/
inductive ConnectEvent
  /-- `Mbedtls_Pkcs11_Connect` has returned this. -/
  | connect (tlsStatus : MbedtlsPkcs11Status)
  /-- `nanosleep` is called. -/
  | sleep (time : Timespec)
  deriving DecidableEq, Repr

/-- The context of the transport, with what the calls have left, and the
    parameters of the backoff. -/
structure Connecting (A : BackoffAlgorithm) where
  tlsContext : MbedtlsPkcs11Context
  reconnectParams : A.Context
  /-- How many times `Mbedtls_Pkcs11_Connect` was called. -/
  connects : Nat
  /-- How many open sockets were overwritten by `mbedtls_net_init`. -/
  lost : Nat
  log : List ConnectEvent

/-- What keeps the loop from returning. -/
inductive ConnectHalt
  /-- A connect does not return. -/
  | connect (halt : MbedtlsPkcs11.Halt)
  | outOfFuel
  deriving DecidableEq, Repr

/-- The programs over the context. -/
abbrev ConnectProgram (A : BackoffAlgorithm) := EStateM ConnectHalt (Connecting A)

/-- The socket of the context is open. -/
def isOpen (c : MbedtlsPkcs11Context) : Bool :=
  match c.socketContext with
  | .set (some _) => true
  | _ => false

/-- A call of `Mbedtls_Pkcs11_Connect` leaves this context. -/
def Connecting.attempted {A : BackoffAlgorithm} (s : Connecting A) (c : MbedtlsPkcs11Context) :
    Connecting A :=
  { s with
    tlsContext := c
    connects := s.connects + 1
    lost := s.lost + (isOpen s.tlsContext).toNat }

/-- `BackoffAlgorithm_InitializeParams`, with the constants of both files. -/
def Connecting.initializeParams {A : BackoffAlgorithm} (s : Connecting A) : Connecting A :=
  { s with
    reconnectParams := A.InitializeParams CONNECTION_RETRY_BACKOFF_BASE_MS
      CONNECTION_RETRY_MAX_BACKOFF_DELAY_MS CONNECTION_RETRY_MAX_ATTEMPTS }

/-- One more entry of the log. -/
def Connecting.tell {A : BackoffAlgorithm} (s : Connecting A) (e : ConnectEvent) :
    Connecting A :=
  { s with log := s.log ++ [e] }

section Loop

variable (E : Nat → Outside) (A : BackoffAlgorithm) (generateRandomNumber : Nat → UInt32)

/-- One attempt, with the outcomes of the functions outside that belong to it. -/
def tryConnect (a : Arguments) : ConnectProgram A Bool := fun s =>
  match Mbedtls_Pkcs11_Connect (E s.connects) a s.tlsContext with
  | .ok tlsStatus c =>
      .ok (tlsStatus == MBEDTLS_PKCS11_SUCCESS) ((s.attempted c).tell (.connect tlsStatus))
  | .error halt c => .error (.connect halt) (s.attempted c)

/-- After an attempt that failed: whether there is another one. -/
def backOff : ConnectProgram A Bool := fun s =>
  match A.GetNextBackoff s.reconnectParams (generateRandomNumber s.connects) with
  | (BackoffAlgorithmSuccess, nextRetryBackOff, reconnectParams) =>
      .ok true ({ s with reconnectParams := reconnectParams }.tell
        (.sleep (sleepTime nextRetryBackOff.toUInt32)))
  | (BackoffAlgorithmRetriesExhausted, _, reconnectParams) =>
      .ok false { s with reconnectParams := reconnectParams }

/-- The loop of `connectToBrokerWithBackoffRetries`. -/
def connectLoop (fuel : Nat) (a : Arguments) : ConnectProgram A Bool := do
  modify Connecting.initializeParams
  retrying (tryConnect E A a) (backOff A generateRandomNumber) .outOfFuel fuel

/-- The configuration of the application. -/
structure Config where
  AWS_MQTT_PORT : UInt16
  ROOT_CA_CERT_PATH : String

/-- `TRANSPORT_SEND_RECV_TIMEOUT_MS`. -/
def TRANSPORT_SEND_RECV_TIMEOUT_MS : Nat := 1000

/-- `tlsCredentials`, and the other arguments of the connect. -/
def tlsArguments (config : Config) (pAlpnProtos : Option (List String))
    (pMqttEndpoint pClientCertLabel pPrivateKeyLabel : String) (p11Session : Nat) : Arguments where
  networkContext := true
  pHostName := some pMqttEndpoint
  port := config.AWS_MQTT_PORT
  credentials := true
  pAlpnProtos := pAlpnProtos
  disableSni := false
  pRootCaPath := some config.ROOT_CA_CERT_PATH
  pClientCertLabel := some pClientCertLabel
  pPrivateKeyLabel := some pPrivateKeyLabel
  p11Session := p11Session
  recvTimeoutMs := TRANSPORT_SEND_RECV_TIMEOUT_MS

/-- `tlsCredentials.pAlpnProtos` of `mqtt_operations.c`. -/
def pAlpnProtos (config : Config) : Option (List String) :=
  if config.AWS_MQTT_PORT = 443 then some ["x-amzn-mqtt-ca"] else none

/-- `connectToBrokerWithBackoffRetries` of `mqtt_operations.c`. -/
def MqttOperations.connectToBrokerWithBackoffRetries (config : Config) (fuel : Nat)
    (pMqttEndpoint : String) (p11Session : Nat) (pClientCertLabel pPrivateKeyLabel : String) :
    ConnectProgram A Bool :=
  connectLoop E A generateRandomNumber fuel
    (tlsArguments config (pAlpnProtos config) pMqttEndpoint pClientCertLabel pPrivateKeyLabel
      p11Session)

/-- `connectToBrokerWithBackoffRetries` of `mqtt_agent.c`, which does not look at
    the port. -/
def MqttAgent.connectToBrokerWithBackoffRetries (config : Config) (fuel : Nat)
    (pMqttEndpoint : String) (p11Session : Nat) (pClientCertLabel pPrivateKeyLabel : String) :
    ConnectProgram A Bool :=
  connectLoop E A generateRandomNumber fuel
    (tlsArguments config none pMqttEndpoint pClientCertLabel pPrivateKeyLabel p11Session)

end Loop

/-! ### One attempt -/

section Attempt

variable {E : Outside} {a : Arguments} {pHostName : String} {credentials : MbedtlsPkcs11Credentials}

/-- The socket of this context is the one to the host, after a handshake in
    which the certificate of the host was verified. -/
def IsConnection (E : Outside) (pHostName : String) (port : UInt16)
    (credentials : MbedtlsPkcs11Credentials) (c : MbedtlsPkcs11Context) : Prop :=
  Passes E pHostName port credentials ∧
    c.socketContext = .set (some (pHostName, toString port.toNat)) ∧
    ∃ context, c.context = .set context ∧ context.handshakeOver = true

theorem IsConnection.isOpen {port : UInt16} {c : MbedtlsPkcs11Context}
    (h : IsConnection E pHostName port credentials c) : isOpen c = true := by
  unfold BrokerConnection.isOpen
  rw [h.2.1]

theorem isOpen_of_freed {c : MbedtlsPkcs11Context} (h : c.Freed) : isOpen c = false := by
  unfold isOpen
  rw [h.1]

/-- A connect leaves a connection if it reports one, and nothing if it does
    not. It does not return without a list of functions, or if the handshake
    goes on. -/
theorem connect_leaves (ha : a.checked = some (pHostName, credentials))
    (c : MbedtlsPkcs11Context) :
    match Mbedtls_Pkcs11_Connect E a c with
    | .ok tlsStatus c' =>
        if tlsStatus = MBEDTLS_PKCS11_SUCCESS then IsConnection E pHostName a.port credentials c'
        else c'.Freed
    | .error .handshaking _ => ∀ r ∈ E.mbedtls_ssl_handshake, Wants r
    | .error (.fault _) _ => E.C_GetFunctionList ≠ CKR_OK := by
  have hsteps := steps_check (E := E) pHostName a.port credentials a.recvTimeoutMs c
  rw [connect_of_some ha]
  -- as the checks of the connect say: it is made, it fails, or it does not come back
  cases hv : connectVerdict E pHostName a.port credentials (MbedtlsPkcs11.available E c) with
  | pass =>
      rw [hv] at hsteps
      have hrun : MbedtlsPkcs11.freeingOnFailure _ c = .ok _ _ := freeingOnFailure_checks hsteps
      rw [hrun]
      simp only [if_true]
      exact ⟨((connectVerdict_eq_pass _ _ _ _ _).mp hv).1, rfl, _, rfl, rfl⟩
  | fail =>
      rw [hv] at hsteps
      rcases freeingOnFailure_fails hsteps with ⟨tlsStatus, c', hstatus, hrun, hfreed⟩
      rw [hrun]
      simp only
      rwa [if_neg hstatus]
  | halt halt =>
      rw [hv] at hsteps
      rcases hsteps with ⟨c', hrun⟩
      have hstops : MbedtlsPkcs11.freeingOnFailure (MbedtlsPkcs11.connectSteps E pHostName a.port
          credentials a.recvTimeoutMs) c = .error halt c' := by
        unfold MbedtlsPkcs11.freeingOnFailure
        rw [bind_eq, hrun]
      rw [hstops]
      rcases connectVerdict_eq_halt hv with ⟨rfl, hnone⟩ | ⟨rfl, -, hwants⟩
      · simp only
        unfold MbedtlsPkcs11.available at hnone
        rw [Bool.or_eq_false_iff] at hnone
        exact of_decide_eq_false hnone.2
      · exact hwants

end Attempt

/-! ### How a call ends -/

/-- What is slept at an entry of the log, in nanoseconds. -/
def ConnectEvent.asleep : ConnectEvent → Nat
  | .connect _ => 0
  | .sleep time => time.nanoseconds

/-- The time that is slept in all. -/
def asleep (log : List ConnectEvent) : Nat := (log.map ConnectEvent.asleep).sum

theorem asleep_append (log log' : List ConnectEvent) :
    asleep (log ++ log') = asleep log + asleep log' := by
  unfold asleep
  rw [List.map_append, List.sum_append]

theorem asleep_concat (log : List ConnectEvent) (e : ConnectEvent) :
    asleep (log ++ [e]) = asleep log + e.asleep := by
  unfold asleep
  rw [List.map_append, List.sum_append, List.map_singleton, List.sum_singleton]

/-- The most that is slept after this many attempts, in milliseconds. -/
def sleepMax : Nat → Nat
  | 0 => 0
  | n + 1 => sleepMax n + jitterMax n

theorem sleepMax_le {m n : Nat} (h : m ≤ n) : sleepMax m ≤ sleepMax n := by
  induction h with
  | refl => exact le_refl _
  | step _ ih => exact ih.trans (Nat.le_add_right _ _)

/-- Attempts that failed, and the sleep after each of them. -/
inductive Rounds : Nat → List ConnectEvent → Prop
  | nil : Rounds 0 []
  | retry {n : Nat} {rounds : List ConnectEvent} {tlsStatus : MbedtlsPkcs11Status}
      {backoff : UInt16} (h : Rounds n rounds) (hstatus : tlsStatus ≠ MBEDTLS_PKCS11_SUCCESS)
      (hbackoff : backoff.toNat ≤ jitterMax n) :
      Rounds (n + 1) (rounds ++ [.connect tlsStatus, .sleep (sleepTime backoff.toUInt32)])

theorem Rounds.asleep_le {n : Nat} {rounds : List ConnectEvent} (h : Rounds n rounds) :
    asleep rounds ≤ sleepMax n * NANOSECONDS_PER_MILLISECOND := by
  induction h with
  | nil => exact Nat.zero_le _
  | @retry n rounds tlsStatus backoff _ _ hbackoff ih =>
      have hexact := (sleepTime_exact backoff.toUInt32).1
      rw [UInt16.toNat_toUInt32] at hexact
      rw [List.append_cons, asleep_concat, asleep_concat, ConnectEvent.asleep, ConnectEvent.asleep,
        hexact, sleepMax, Nat.add_mul]
      exact Nat.add_le_add ih (Nat.mul_le_mul_right _ hbackoff)

section Calls

variable {A : BackoffAlgorithm}

/-- A call has made this many attempts that failed and one more, with this
    status. Only a socket that was open before the call is lost. -/
structure Attempted (n : Nat) (tlsStatus : MbedtlsPkcs11Status) (s s' : Connecting A) : Prop where
  log : ∃ rounds, Rounds n rounds ∧ s'.log = s.log ++ rounds ++ [.connect tlsStatus]
  connects : s'.connects = s.connects + n + 1
  lost : s'.lost = s.lost + (isOpen s.tlsContext).toNat

/-- It has slept at most 12.5 seconds. -/
theorem Attempted.asleep_le {n : Nat} {tlsStatus : MbedtlsPkcs11Status} {s s' : Connecting A}
    (h : Attempted n tlsStatus s s') (hn : n ≤ CONNECTION_RETRY_MAX_ATTEMPTS) :
    asleep s'.log ≤ asleep s.log + 12500 * NANOSECONDS_PER_MILLISECOND := by
  rcases h.log with ⟨rounds, hrounds, hlog⟩
  have hlimit : sleepMax n ≤ 12500 := (sleepMax_le hn).trans (by decide)
  rw [hlog, asleep_concat, asleep_append]
  exact Nat.add_le_add_left (hrounds.asleep_le.trans (Nat.mul_le_mul_right _ hlimit)) _

/-- What stops the loop: an attempt that does not return. -/
def Stops (E : Nat → Outside) (s : Connecting A) : ConnectHalt → Connecting A → Prop
  | .connect .handshaking, _ => ∃ n, n ≤ CONNECTION_RETRY_MAX_ATTEMPTS ∧
      ∀ r ∈ (E (s.connects + n)).mbedtls_ssl_handshake, Wants r
  | .connect (.fault _), _ => ∃ n, n ≤ CONNECTION_RETRY_MAX_ATTEMPTS ∧
      (E (s.connects + n)).C_GetFunctionList ≠ CKR_OK
  | .outOfFuel, _ => False

/-- How a call ends. -/
def CallEnds (E : Nat → Outside) (pHostName : String) (port : UInt16)
    (credentials : MbedtlsPkcs11Credentials) (s : Connecting A) :
    EStateM.Result ConnectHalt (Connecting A) Bool → Prop
  | .ok true s' => ∃ n, n ≤ CONNECTION_RETRY_MAX_ATTEMPTS ∧
      Attempted n MBEDTLS_PKCS11_SUCCESS s s' ∧
      IsConnection (E (s.connects + n)) pHostName port credentials s'.tlsContext ∧
      asleep s'.log ≤ asleep s.log + 12500 * NANOSECONDS_PER_MILLISECOND
  | .ok false s' => ∃ tlsStatus, tlsStatus ≠ MBEDTLS_PKCS11_SUCCESS ∧
      Attempted CONNECTION_RETRY_MAX_ATTEMPTS tlsStatus s s' ∧ s'.tlsContext.Freed ∧
      asleep s'.log ≤ asleep s.log + 12500 * NANOSECONDS_PER_MILLISECOND
  | .error halt s' => Stops E s halt s'

/-- The state before an attempt, after this many that failed. -/
structure Failing (Retries : Nat → A.Context → Prop) (n : Nat) (s s' : Connecting A) : Prop where
  log : ∃ rounds, Rounds n rounds ∧ s'.log = s.log ++ rounds
  connects : s'.connects = s.connects + n
  lost : s'.lost + (isOpen s'.tlsContext).toNat = s.lost + (isOpen s.tlsContext).toNat
  retries : Retries n s'.reconnectParams

/-- The state after an attempt that failed. -/
structure HasFailed (Retries : Nat → A.Context → Prop) (n : Nat) (s s' : Connecting A) : Prop where
  attempted : ∃ tlsStatus, tlsStatus ≠ MBEDTLS_PKCS11_SUCCESS ∧ Attempted n tlsStatus s s'
  freed : s'.tlsContext.Freed
  retries : Retries n s'.reconnectParams

variable {E : Nat → Outside} {generateRandomNumber : Nat → UInt32}
  {Retries : Nat → A.Context → Prop} {a : Arguments} {pHostName : String}
  {credentials : MbedtlsPkcs11Credentials}

theorem tryConnect_ends (ha : a.checked = some (pHostName, credentials)) (s : Connecting A)
    (n : Nat) (hn : n ≤ CONNECTION_RETRY_MAX_ATTEMPTS) :
    Ends (Failing Retries n s) (tryConnect E A a)
      (Either (fun s' => Attempted n MBEDTLS_PKCS11_SUCCESS s s' ∧
        IsConnection (E (s.connects + n)) pHostName a.port credentials s'.tlsContext)
        (HasFailed Retries n s)) (Stops E s) := by
  intro s' h
  rcases h.log with ⟨rounds, hrounds, hlog⟩
  have hleaves := connect_leaves (E := E s'.connects) ha s'.tlsContext
  rw [h.connects] at hleaves
  unfold tryConnect
  rw [h.connects]
  cases hconnect : Mbedtls_Pkcs11_Connect (E (s.connects + n)) a s'.tlsContext with
  | error halt c =>
      rw [hconnect] at hleaves
      cases halt with
      | handshaking => exact ⟨n, hn, hleaves⟩
      | fault f => exact ⟨n, hn, hleaves⟩
  | ok tlsStatus c =>
      rw [hconnect] at hleaves
      -- one more connect is in the log, with its status
      have hattempted : Attempted n tlsStatus s ((s'.attempted c).tell (.connect tlsStatus)) := by
        refine ⟨⟨rounds, hrounds, ?_⟩, ?_, h.lost⟩
        · exact congrArg (· ++ [.connect tlsStatus]) hlog
        · exact congrArg (· + 1) h.connects
      by_cases hstatus : tlsStatus = MBEDTLS_PKCS11_SUCCESS
      · simp only [hstatus, if_true] at hleaves ⊢
        rw [hstatus] at hattempted
        exact ⟨hattempted, hleaves⟩
      · simp only [if_neg hstatus, beq_eq_false_iff_ne.mpr hstatus] at hleaves ⊢
        exact ⟨⟨tlsStatus, hstatus, hattempted⟩, hleaves, h.retries⟩

theorem backOff_ends (hA : A.Documented Retries) (s : Connecting A) (n : Nat)
    (hn : n < CONNECTION_RETRY_MAX_ATTEMPTS) :
    Ends (HasFailed Retries n s) (backOff A generateRandomNumber)
      (Either (Failing Retries (n + 1) s) (fun _ => False)) (Stops E s) := by
  intro s' h
  rcases h.attempted with ⟨tlsStatus, hstatus, hattempted⟩
  rcases hattempted.log with ⟨rounds, hrounds, hlog⟩
  rcases hA.next n hn _ h.retries (generateRandomNumber s'.connects) with
    ⟨backoff, c', hnext, hbackoff, hretries⟩
  unfold backOff
  rw [hnext]
  refine ⟨⟨_, hrounds.retry hstatus hbackoff, ?_⟩, hattempted.connects, ?_, hretries⟩
  · unfold Connecting.tell
    simp only [hlog, List.append_assoc, List.cons_append, List.nil_append]
  · -- the attempt that failed has freed the context
    unfold Connecting.tell
    simp only [isOpen_of_freed h.freed, hattempted.lost, Bool.toNat_false, Nat.add_zero]

theorem backOff_last (hA : A.Documented Retries) (s : Connecting A) :
    Ends (HasFailed Retries CONNECTION_RETRY_MAX_ATTEMPTS s) (backOff A generateRandomNumber)
      (Either (fun _ => False) (fun s' => (∃ tlsStatus, tlsStatus ≠ MBEDTLS_PKCS11_SUCCESS ∧
        Attempted CONNECTION_RETRY_MAX_ATTEMPTS tlsStatus s s') ∧ s'.tlsContext.Freed))
      (Stops E s) := by
  intro s' h
  rcases h.attempted with ⟨tlsStatus, hstatus, hattempted⟩
  have hlast := hA.last _ h.retries (generateRandomNumber s'.connects)
  unfold backOff
  rcases hnext : A.GetNextBackoff s'.reconnectParams (generateRandomNumber s'.connects) with
    ⟨status, backoff, c'⟩
  rw [hnext] at hlast
  simp only at hlast
  rw [hlast]
  exact ⟨⟨tlsStatus, hstatus, hattempted.log, hattempted.connects, hattempted.lost⟩, h.freed⟩

/-- The loop ends by itself. -/
theorem connectLoop_ends (hA : A.Documented Retries)
    (ha : a.checked = some (pHostName, credentials)) {fuel : Nat}
    (hfuel : CONNECTION_RETRY_MAX_ATTEMPTS < fuel) (s : Connecting A) :
    CallEnds E pHostName a.port credentials s (connectLoop E A generateRandomNumber fuel a s) := by
  -- the library's rule for retries, for an attempt and a pause
  have hends : Ends (Failing Retries 0 s)
      (retrying (tryConnect E A a) (backOff A generateRandomNumber) .outOfFuel fuel) _ _ :=
    retrying_ends (tryConnect_ends ha s) (backOff_ends hA s) (backOff_last hA s) fuel 0
      (Nat.zero_le _) (by omega)
  have hrun := hends s.initializeParams
    ⟨⟨[], Rounds.nil, (List.append_nil _).symm⟩, rfl, rfl, hA.initial⟩
  unfold connectLoop
  rw [modify_bind]
  cases hloop : retrying (tryConnect E A a) (backOff A generateRandomNumber) .outOfFuel fuel
      s.initializeParams with
  | ok returnStatus s' =>
      rw [hloop] at hrun
      cases returnStatus with
      | true =>
          rcases hrun with ⟨n, hn, hattempted, hconnection⟩
          exact ⟨n, hn, hattempted, hconnection, hattempted.asleep_le hn⟩
      | false =>
          rcases hrun with ⟨⟨tlsStatus, hstatus, hattempted⟩, hfreed⟩
          exact ⟨tlsStatus, hstatus, hattempted, hfreed, hattempted.asleep_le (le_refl _)⟩
  | error halt s' =>
      rw [hloop] at hrun
      exact hrun

/-- The credentials of the two calls. -/
def tlsCredentials (config : Config) (pAlpnProtos : Option (List String))
    (pClientCertLabel pPrivateKeyLabel : String) (p11Session : Nat) : MbedtlsPkcs11Credentials where
  pAlpnProtos := pAlpnProtos
  disableSni := false
  pRootCaPath := config.ROOT_CA_CERT_PATH
  pClientCertLabel := pClientCertLabel
  pPrivateKeyLabel := pPrivateKeyLabel
  p11Session := p11Session

end Calls

/-- A call of `mqtt_operations.c`. -/
theorem operations_ends {A : BackoffAlgorithm} {Retries : Nat → A.Context → Prop}
    (hA : A.Documented Retries) (E : Nat → Outside) (generateRandomNumber : Nat → UInt32)
    (config : Config) {fuel : Nat} (hfuel : CONNECTION_RETRY_MAX_ATTEMPTS < fuel)
    (pMqttEndpoint : String) (p11Session : Nat) (pClientCertLabel pPrivateKeyLabel : String)
    (s : Connecting A) :
    CallEnds E pMqttEndpoint config.AWS_MQTT_PORT
      (tlsCredentials config (pAlpnProtos config) pClientCertLabel pPrivateKeyLabel p11Session) s
      (MqttOperations.connectToBrokerWithBackoffRetries E A generateRandomNumber config fuel
        pMqttEndpoint p11Session pClientCertLabel pPrivateKeyLabel s) :=
  connectLoop_ends hA rfl hfuel s

/-- A call of `mqtt_agent.c`. -/
theorem agent_ends {A : BackoffAlgorithm} {Retries : Nat → A.Context → Prop}
    (hA : A.Documented Retries) (E : Nat → Outside) (generateRandomNumber : Nat → UInt32)
    (config : Config) {fuel : Nat} (hfuel : CONNECTION_RETRY_MAX_ATTEMPTS < fuel)
    (pMqttEndpoint : String) (p11Session : Nat) (pClientCertLabel pPrivateKeyLabel : String)
    (s : Connecting A) :
    CallEnds E pMqttEndpoint config.AWS_MQTT_PORT
      (tlsCredentials config none pClientCertLabel pPrivateKeyLabel p11Session) s
      (MqttAgent.connectToBrokerWithBackoffRetries E A generateRandomNumber config fuel
        pMqttEndpoint p11Session pClientCertLabel pPrivateKeyLabel s) :=
  connectLoop_ends hA rfl hfuel s

/-- A call of either function returns after six attempts and 12.5 seconds of
    sleep at most, unless one of the attempts does not return. It returns true
    with a connection and false with nothing, and the attempts in between lose no
    socket. -/
theorem connectRetries_end {A : BackoffAlgorithm} {Retries : Nat → A.Context → Prop}
    (hA : A.Documented Retries) (E : Nat → Outside) (generateRandomNumber : Nat → UInt32)
    (config : Config) {fuel : Nat} (hfuel : CONNECTION_RETRY_MAX_ATTEMPTS < fuel)
    (pMqttEndpoint : String) (p11Session : Nat) (pClientCertLabel pPrivateKeyLabel : String)
    (s : Connecting A) :
    CallEnds E pMqttEndpoint config.AWS_MQTT_PORT
        (tlsCredentials config (pAlpnProtos config) pClientCertLabel pPrivateKeyLabel p11Session) s
        (MqttOperations.connectToBrokerWithBackoffRetries E A generateRandomNumber config fuel
          pMqttEndpoint p11Session pClientCertLabel pPrivateKeyLabel s) ∧
      CallEnds E pMqttEndpoint config.AWS_MQTT_PORT
        (tlsCredentials config none pClientCertLabel pPrivateKeyLabel p11Session) s
        (MqttAgent.connectToBrokerWithBackoffRetries E A generateRandomNumber config fuel
          pMqttEndpoint p11Session pClientCertLabel pPrivateKeyLabel s) :=
  ⟨operations_ends hA E generateRandomNumber config hfuel pMqttEndpoint p11Session
    pClientCertLabel pPrivateKeyLabel s,
    agent_ends hA E generateRandomNumber config hfuel pMqttEndpoint p11Session pClientCertLabel
      pPrivateKeyLabel s⟩

/-- `BackoffAlgorithmContext_t`. -/
structure BackoffContext where
  maxBackoffDelay : Nat
  attemptsDone : Nat
  nextJitterMax : Nat
  maxRetryAttempts : Nat

/-- A backoff algorithm. -/
def fullJitter : BackoffAlgorithm where
  Context := BackoffContext
  InitializeParams := fun backOffBase maxBackOff maxAttempts =>
    ⟨maxBackOff, 0, backOffBase, maxAttempts⟩
  GetNextBackoff := fun c randomValue =>
    if c.attemptsDone < c.maxRetryAttempts then
      (BackoffAlgorithmSuccess,
        UInt16.ofNat (randomValue.toNat % (c.nextJitterMax + 1)),
        { c with
          attemptsDone := c.attemptsDone + 1
          nextJitterMax := if c.nextJitterMax < c.maxBackoffDelay / 2 then
            c.nextJitterMax + c.nextJitterMax else c.maxBackoffDelay })
    else (BackoffAlgorithmRetriesExhausted, 0, c)

/-- The context after this many retries. -/
def retried (n : Nat) : BackoffContext :=
  ⟨CONNECTION_RETRY_MAX_BACKOFF_DELAY_MS, n, jitterMax n, CONNECTION_RETRY_MAX_ATTEMPTS⟩

theorem fullJitter_documented : fullJitter.Documented (fun n c => c = retried n) where
  initial := rfl
  next := by
    rintro n hn c rfl randomValue
    have hdouble : ∀ n, n < CONNECTION_RETRY_MAX_ATTEMPTS →
        (if jitterMax n < CONNECTION_RETRY_MAX_BACKOFF_DELAY_MS / 2 then
          jitterMax n + jitterMax n else CONNECTION_RETRY_MAX_BACKOFF_DELAY_MS) =
          jitterMax (n + 1) := by
      decide
    refine ⟨UInt16.ofNat (randomValue.toNat % (jitterMax n + 1)), retried (n + 1), ?_, ?_, rfl⟩
    · refine (if_pos hn).trans ?_
      unfold retried
      simp only [hdouble n hn]
      rfl
    · rw [UInt16.toNat_ofNat']
      exact (Nat.mod_le _ _).trans (Nat.lt_succ_iff.mp (Nat.mod_lt _ (Nat.succ_pos _)))
  last := by
    rintro c rfl randomValue
    exact congrArg Prod.fst (if_neg (lt_irrefl _))

/-- The first attempts find no server, as many as this, and the others succeed. -/
def refusing (n : Nat) : Nat → Outside := fun i =>
  { Outside.reliable 1 0 with
    mbedtls_net_connect := fun _ _ => if i < n then -0x44 else 0 }

/-- A context of the transport that was not used before. -/
def unusedConnecting : Connecting fullJitter where
  tlsContext := MbedtlsPkcs11.unusedContext
  reconnectParams := ⟨0, 0, 0, 0⟩
  connects := 0
  lost := 0
  log := []

/-- The configuration of the demo. -/
def demoConfig : Config := ⟨8883, "root.crt"⟩

/-- A call with the claim credentials. -/
def thirdCall : EStateM.Result ConnectHalt (Connecting fullJitter) Bool :=
  MqttOperations.connectToBrokerWithBackoffRetries (refusing 2) fullJitter (fun _ => 7)
    demoConfig 6 "localhost" 1 "Claim Cert" "Claim Key" unusedConnecting

/-- It succeeds at the third attempt. -/
theorem connectRetries_end_third :
    ∃ s', thirdCall = .ok true s' ∧ s'.connects = 3 ∧
      CallEnds (refusing 2) "localhost" demoConfig.AWS_MQTT_PORT
        (tlsCredentials demoConfig (pAlpnProtos demoConfig) "Claim Cert" "Claim Key" 1)
        unusedConnecting (.ok true s') := by
  have hrun : (match thirdCall with
    | .ok returnStatus s' => returnStatus && s'.connects == 3
    | .error _ _ => false) = true := by
    decide +kernel
  have hends := connectRetries_end fullJitter_documented (refusing 2) (fun _ => 7) demoConfig
    (by decide : CONNECTION_RETRY_MAX_ATTEMPTS < 6) "localhost" 1 "Claim Cert" "Claim Key"
    unusedConnecting
  rw [← thirdCall] at hends
  cases hcall : thirdCall with
  | error halt s' =>
      rw [hcall] at hrun
      cases hrun
  | ok returnStatus s' =>
      rw [hcall] at hrun hends
      simp only [Bool.and_eq_true, beq_iff_eq] at hrun
      rw [hrun.1] at hends
      exact ⟨s', by rw [hrun.1], hrun.2, hends.1⟩

end BrokerConnection

end ProvisioningSdk
