import Mathlib.Data.List.TakeWhile
import ProvisioningSdk.Lib.Verdict
import ProvisioningSdk.Platform.Machine
import ProvisioningSdk.Platform.PrivateKeySigning

/-!
# Connecting with TLS

`Mbedtls_Pkcs11_Connect` of `mbedtls_pkcs11_posix.c`, with the functions that
configure mbedTLS for it.

All steps go through one status, and two of them lose a failure on the way. A
private key that is not found is reported as `CK_INVALID_HANDLE`, which is the
number of `CKR_OK`, so the type of the key is asked for under that handle. And
whether the client certificate could be installed is not looked at. A third
failure is not lost but fatal: without a list of functions from the PKCS #11
module, the first call through it goes through a null pointer. These are all
cases in which the status says too much or is never returned
(`connect_reports_iff`).

## Main definitions

* `Outside`: The functions outside the repository, with their outcomes.
* `MbedtlsPkcs11Context`: What the calls make of the context.
* `Mbedtls_Pkcs11_Connect`: The connect.
* `Established`: What a connection that is reported should be.
* `Reports`: What the status says.

## Theorems

* `steps_check`: Where the steps end.
* `connect_reports_iff`: When the status says what it should.
-/

namespace ProvisioningSdk

namespace MbedtlsPkcs11

open Effect

/-! ### What is outside -/

/-- `CKR_OK`. -/
def CKR_OK : Nat := 0

/-- `CKR_OBJECT_HANDLE_INVALID`. -/
def CKR_OBJECT_HANDLE_INVALID : Nat := 0x82

/-- `CK_INVALID_HANDLE`. -/
def CK_INVALID_HANDLE : Nat := 0

/-- `MBEDTLS_ERR_SSL_WANT_READ`. -/
def MBEDTLS_ERR_SSL_WANT_READ : Int := -0x6900

/-- `MBEDTLS_ERR_SSL_WANT_WRITE`. -/
def MBEDTLS_ERR_SSL_WANT_WRITE : Int := -0x6880

/-- The handshake is to be called again after this. -/
def Wants (mbedtlsError : Int) : Prop :=
  mbedtlsError = MBEDTLS_ERR_SSL_WANT_READ ∨ mbedtlsError = MBEDTLS_ERR_SSL_WANT_WRITE

instance : DecidablePred Wants := fun _ => inferInstanceAs (Decidable (_ ∨ _))

/-- `CK_OBJECT_CLASS`, as far as it is used here. -/
inductive ObjectClass
  | CKO_CERTIFICATE
  | CKO_PRIVATE_KEY
  deriving DecidableEq, Repr

/-- The functions outside the repository, with their outcomes. -/
structure Outside where
  C_GetFunctionList : Nat
  /-- The result and the handle, for a session, a label and a class. -/
  xFindObjectWithLabelAndClass : Nat → String → ObjectClass → Nat × Nat
  /-- `C_GetAttributeValue` of `CKA_KEY_TYPE`. -/
  keyTypeOf : Nat → Nat × KeyType
  /-- `C_GetAttributeValue` of `CKA_VALUE` without a buffer: the length. -/
  valueLengthOf : Nat → Nat × Nat
  /-- `C_GetAttributeValue` of `CKA_VALUE`. -/
  valueOf : Nat → Nat × List UInt8
  malloc : Nat → Bool
  mbedtls_ssl_config_defaults : Int
  mbedtls_x509_crt_parse_file : String → Int
  mbedtls_x509_crt_parse : List UInt8 → Int
  mbedtls_ssl_conf_own_cert : Int
  mbedtls_ssl_conf_alpn_protocols : List String → Int
  mbedtls_ssl_set_hostname : String → Int
  mbedtls_ssl_setup : Int
  mbedtls_ssl_conf_max_frag_len : Int
  mbedtls_net_connect : String → String → Int
  /-- The results of one call after the other. -/
  mbedtls_ssl_handshake : List Int
  mbedtls_ssl_get_verify_result : Nat

/-! ### The context -/

/-- A part of the context: raw memory, initialised, or freed. -/
inductive Part (α : Type)
  | unset
  | set (a : α)
  | freed
  deriving DecidableEq, Repr

/-- A change to a part that is initialised. -/
def Part.map {α : Type} (f : α → α) : Part α → Part α
  | .set a => .set (f a)
  | part => part

/-- `mbedtls_ssl_config`, as far as it is set here. -/
structure SslConfig where
  /-- `MBEDTLS_SSL_VERIFY_REQUIRED`. -/
  verifyRequired : Bool
  readTimeoutMs : Nat
  caChain : Bool
  /-- The client certificate and the private key are installed. -/
  ownCert : Bool
  alpnProtocols : Option (List String)
  /-- `MBEDTLS_SSL_MAX_FRAG_LEN_4096`. -/
  maxFragLen : Bool
  deriving DecidableEq, Repr

/-- `mbedtls_ssl_context`, as far as it is set here. -/
structure SslContext where
  isSetUp : Bool
  hostname : Option String
  handshakeOver : Bool
  deriving DecidableEq, Repr

/-- `mbedtls_pk_type_t`, as far as it is used here. -/
inductive KeyAlgorithm
  | MBEDTLS_PK_RSA
  | MBEDTLS_PK_ECKEY
  deriving DecidableEq, Repr

/-- `MbedtlsPkcs11Context_t`. -/
structure MbedtlsPkcs11Context where
  /-- The host and port it is connected to. -/
  socketContext : Part (Option (String × String))
  config : Part SslConfig
  context : Part SslContext
  /-- The file it was parsed from. -/
  rootCa : Part (Option String)
  /-- The value it was parsed from. -/
  clientCert : Part (Option (List UInt8))
  /-- The algorithm whose functions sign with the key on the token. -/
  privKeyInfo : Option KeyAlgorithm
  /-- Whether it points to a list of functions. -/
  pP11FunctionList : Bool
  p11Session : Nat
  p11PrivateKey : Nat
  keyType : KeyType
  deriving DecidableEq, Repr

/-- `MbedtlsPkcs11Status_t`. -/
inductive MbedtlsPkcs11Status
  | MBEDTLS_PKCS11_SUCCESS
  | MBEDTLS_PKCS11_INVALID_PARAMETER
  | MBEDTLS_PKCS11_INSUFFICIENT_MEMORY
  | MBEDTLS_PKCS11_INVALID_CREDENTIALS
  | MBEDTLS_PKCS11_HANDSHAKE_FAILED
  | MBEDTLS_PKCS11_INTERNAL_ERROR
  | MBEDTLS_PKCS11_CONNECT_FAILURE
  deriving DecidableEq, Repr

open MbedtlsPkcs11Status

/-- What keeps the connect from returning. -/
inductive Halt
  | fault (f : Fault)
  /-- The handshake goes on. -/
  | handshaking
  deriving DecidableEq, Repr

/-- The programs over the context. -/
abbrev Program := EStateM Halt MbedtlsPkcs11Context

/-- `MbedtlsPkcs11Credentials_t`, with pointers that are not null. -/
structure MbedtlsPkcs11Credentials where
  pAlpnProtos : Option (List String)
  disableSni : Bool
  pRootCaPath : String
  pClientCertLabel : String
  pPrivateKeyLabel : String
  p11Session : Nat

/-- `contextFree` of a context. -/
def MbedtlsPkcs11Context.free (c : MbedtlsPkcs11Context) : MbedtlsPkcs11Context :=
  { c with
    socketContext := .freed
    context := .freed
    config := .freed
    rootCa := .freed
    clientCert := .freed }

/-- All parts of the context are freed. -/
def MbedtlsPkcs11Context.Freed (c : MbedtlsPkcs11Context) : Prop :=
  c.socketContext = .freed ∧ c.context = .freed ∧ c.config = .freed ∧ c.rootCa = .freed ∧
    c.clientCert = .freed

theorem MbedtlsPkcs11Context.freed_free (c : MbedtlsPkcs11Context) : c.free.Freed :=
  ⟨rfl, rfl, rfl, rfl, rfl⟩

/-! ### The functions -/

section Functions

variable (E : Outside)

/-- `contextInit` of a context. What `C_GetFunctionList` returns is not looked
    at. -/
def MbedtlsPkcs11Context.init (c : MbedtlsPkcs11Context) : MbedtlsPkcs11Context :=
  { c with
    socketContext := .set none
    context := .set ⟨false, none, false⟩
    config := .set ⟨false, 0, false, false, none, false⟩
    rootCa := .set none
    clientCert := .set none
    pP11FunctionList := c.pP11FunctionList || decide (E.C_GetFunctionList = CKR_OK) }

/-- `contextInit`. -/
def contextInit : Program Unit := modify (MbedtlsPkcs11Context.init E)

/-- `contextFree`. -/
def contextFree : Program Unit := modify MbedtlsPkcs11Context.free

/-- A call through the list of functions. -/
def functionList : Program Unit := do
  let c ← get
  if c.pP11FunctionList = true then pure () else throw (.fault .nullDereference)

/-- A call that returns 0 if it did this, and has this status otherwise. -/
def attempt (mbedtlsError : Int) (failure : MbedtlsPkcs11Status)
    (change : MbedtlsPkcs11Context → MbedtlsPkcs11Context) : Program MbedtlsPkcs11Status :=
  if mbedtlsError ≠ 0 then return failure
  else do
    modify change
    return MBEDTLS_PKCS11_SUCCESS

/-- `initializeClientKeys`. -/
def initializeClientKeys (pPrivateKeyLabel : String) : Program Bool := do
  let c ← get
  let found := E.xFindObjectWithLabelAndClass c.p11Session pPrivateKeyLabel .CKO_PRIVATE_KEY
  modify (fun c => { c with p11PrivateKey := found.2 })
  -- the two numbers are the same
  let ret := if found.1 = CKR_OK ∧ found.2 = CK_INVALID_HANDLE then CK_INVALID_HANDLE else found.1
  if ret ≠ CKR_OK then return false
  else do
    functionList
    let (ret, keyType) := E.keyTypeOf found.2
    if ret ≠ CKR_OK then return false
    else do
      modify (fun c => { c with keyType := keyType })
      match keyType with
      | .CKK_RSA => do
          modify (fun c => { c with privKeyInfo := some .MBEDTLS_PK_RSA })
          return true
      | .CKK_EC => do
          modify (fun c => { c with privKeyInfo := some .MBEDTLS_PK_ECKEY })
          return true
      -- `CKR_ATTRIBUTE_VALUE_INVALID`
      | .other _ => return false

/-- `readCertificateIntoContext`. -/
def readCertificateIntoContext (pLabelName : String) : Program Bool := do
  let c ← get
  let found := E.xFindObjectWithLabelAndClass c.p11Session pLabelName .CKO_CERTIFICATE
  let pkcs11Ret := if found.1 = CKR_OK ∧ found.2 = CK_INVALID_HANDLE then
    CKR_OBJECT_HANDLE_INVALID else found.1
  if pkcs11Ret ≠ CKR_OK then return false
  else do
    functionList
    let (pkcs11Ret, ulValueLen) := E.valueLengthOf found.2
    if pkcs11Ret ≠ CKR_OK then return false
    else if E.malloc ulValueLen = false then return false
    else do
      functionList
      let (pkcs11Ret, value) := E.valueOf found.2
      if pkcs11Ret ≠ CKR_OK then return false
      else if E.mbedtls_x509_crt_parse value ≠ 0 then return false
      else do
        modify (fun c => { c with clientCert := c.clientCert.map (fun _ => some value) })
        return true

/-- A step that returns whether it succeeded, with the status for that. -/
def required (step : Program Bool) (failure : MbedtlsPkcs11Status) :
    Program MbedtlsPkcs11Status := do
  let result ← step
  if result = false then return failure else return MBEDTLS_PKCS11_SUCCESS

/-- `configureMbedtlsCertificates`. -/
def configureMbedtlsCertificates (credentials : MbedtlsPkcs11Credentials) :
    Program MbedtlsPkcs11Status :=
  andThen MBEDTLS_PKCS11_SUCCESS
    (attempt (E.mbedtls_x509_crt_parse_file credentials.pRootCaPath)
      MBEDTLS_PKCS11_INVALID_CREDENTIALS (fun c =>
        { c with
          rootCa := c.rootCa.map (fun _ => some credentials.pRootCaPath)
          config := c.config.map (fun config => { config with caChain := true }) })) <|
  andThen MBEDTLS_PKCS11_SUCCESS
    (required (initializeClientKeys E credentials.pPrivateKeyLabel)
      MBEDTLS_PKCS11_INVALID_CREDENTIALS) <|
  andThen MBEDTLS_PKCS11_SUCCESS
    (required (readCertificateIntoContext E credentials.pClientCertLabel)
      MBEDTLS_PKCS11_INVALID_CREDENTIALS) do
  -- the result of installing the certificate is not looked at
  modify (fun c =>
    { c with
      config := c.config.map (fun config =>
        { config with ownCert := decide (E.mbedtls_ssl_conf_own_cert = 0) }) })
  return MBEDTLS_PKCS11_SUCCESS

/-- `configureMbedtlsSniAlpn`. -/
def configureMbedtlsSniAlpn (credentials : MbedtlsPkcs11Credentials) (pHostName : String) :
    Program MbedtlsPkcs11Status :=
  andThen MBEDTLS_PKCS11_SUCCESS
    (match credentials.pAlpnProtos with
    | none => return MBEDTLS_PKCS11_SUCCESS
    | some protocols =>
        attempt (E.mbedtls_ssl_conf_alpn_protocols protocols) MBEDTLS_PKCS11_INTERNAL_ERROR
          (fun c =>
            { c with
              config := c.config.map (fun config =>
                { config with alpnProtocols := some protocols }) })) <|
  if credentials.disableSni = false then
    attempt (E.mbedtls_ssl_set_hostname pHostName) MBEDTLS_PKCS11_INTERNAL_ERROR
      (fun c =>
        { c with
          context := c.context.map (fun context => { context with hostname := some pHostName }) })
  else return MBEDTLS_PKCS11_SUCCESS

/-- `configureMbedtlsFragmentLength`. -/
def configureMbedtlsFragmentLength : Program MbedtlsPkcs11Status :=
  attempt E.mbedtls_ssl_conf_max_frag_len MBEDTLS_PKCS11_INTERNAL_ERROR (fun c =>
    { c with config := c.config.map (fun config => { config with maxFragLen := true }) })

/-- Steps, and a clean-up if they fail. -/
def freeingOnFailure (steps : Program MbedtlsPkcs11Status) : Program MbedtlsPkcs11Status := do
  let returnStatus ← steps
  if returnStatus ≠ MBEDTLS_PKCS11_SUCCESS then do
    contextFree
    return returnStatus
  else return returnStatus

/-- `configureMbedtls`. -/
def configureMbedtls (pHostName : String) (credentials : MbedtlsPkcs11Credentials)
    (recvTimeoutMs : Nat) : Program MbedtlsPkcs11Status :=
  freeingOnFailure do
    contextInit E
    modify (fun c => { c with p11Session := credentials.p11Session })
    andThen MBEDTLS_PKCS11_SUCCESS
      (attempt E.mbedtls_ssl_config_defaults MBEDTLS_PKCS11_INSUFFICIENT_MEMORY (fun c =>
        { c with
          config := c.config.map (fun config =>
            { config with verifyRequired := true, readTimeoutMs := recvTimeoutMs }) })) <|
    andThen MBEDTLS_PKCS11_SUCCESS (configureMbedtlsCertificates E credentials) <|
    andThen MBEDTLS_PKCS11_SUCCESS (configureMbedtlsSniAlpn E credentials pHostName) <|
    andThen MBEDTLS_PKCS11_SUCCESS
      (attempt E.mbedtls_ssl_setup MBEDTLS_PKCS11_INTERNAL_ERROR (fun c =>
        { c with context := c.context.map (fun context => { context with isSetUp := true }) })) <|
    configureMbedtlsFragmentLength E

/-- The loop over `mbedtls_ssl_handshake`. -/
def handshake : List Int → Program Int
  | [] => throw .handshaking
  | mbedtlsError :: rounds =>
      if Wants mbedtlsError then handshake rounds else return mbedtlsError

/-- The TLS handshake. -/
def performHandshake : Program MbedtlsPkcs11Status := do
  let mbedtlsError ← handshake E.mbedtls_ssl_handshake
  if mbedtlsError ≠ 0 then return MBEDTLS_PKCS11_HANDSHAKE_FAILED
  else do
    modify (fun c =>
      { c with context := c.context.map (fun context => { context with handshakeOver := true }) })
    if E.mbedtls_ssl_get_verify_result ≠ 0 then return MBEDTLS_PKCS11_HANDSHAKE_FAILED
    else return MBEDTLS_PKCS11_SUCCESS

/-- The steps of the connect, after its arguments are checked. -/
def connectSteps (pHostName : String) (port : UInt16) (credentials : MbedtlsPkcs11Credentials)
    (recvTimeoutMs : Nat) : Program MbedtlsPkcs11Status :=
  andThen MBEDTLS_PKCS11_SUCCESS (configureMbedtls E pHostName credentials recvTimeoutMs) <|
  andThen MBEDTLS_PKCS11_SUCCESS
    (attempt (E.mbedtls_net_connect pHostName (toString port.toNat))
      MBEDTLS_PKCS11_CONNECT_FAILURE (fun c =>
        { c with
          socketContext := c.socketContext.map (fun _ =>
            some (pHostName, toString port.toNat)) })) <|
  performHandshake E

/-- The arguments of `Mbedtls_Pkcs11_Connect`, with the pointers that are
    checked. -/
structure Arguments where
  /-- `pNetworkContext` and its `pParams` are not null. -/
  networkContext : Bool
  pHostName : Option String
  port : UInt16
  /-- `pMbedtlsPkcs11Credentials` is not null. -/
  credentials : Bool
  pAlpnProtos : Option (List String)
  disableSni : Bool
  pRootCaPath : Option String
  pClientCertLabel : Option String
  pPrivateKeyLabel : Option String
  p11Session : Nat
  recvTimeoutMs : Nat

/-- The host name and the credentials, if no pointer is null. -/
def Arguments.checked (a : Arguments) : Option (String × MbedtlsPkcs11Credentials) :=
  if a.networkContext = true ∧ a.credentials = true then do
    let pHostName ← a.pHostName
    let pRootCaPath ← a.pRootCaPath
    let pClientCertLabel ← a.pClientCertLabel
    let pPrivateKeyLabel ← a.pPrivateKeyLabel
    return (pHostName,
      ⟨a.pAlpnProtos, a.disableSni, pRootCaPath, pClientCertLabel, pPrivateKeyLabel, a.p11Session⟩)
  else none

/-- `Mbedtls_Pkcs11_Connect`. Without arguments that can be used there is no
    context to free. -/
def Mbedtls_Pkcs11_Connect (a : Arguments) : Program MbedtlsPkcs11Status :=
  match a.checked with
  | none => return MBEDTLS_PKCS11_INVALID_PARAMETER
  | some (pHostName, credentials) =>
      freeingOnFailure (connectSteps E pHostName a.port credentials a.recvTimeoutMs)

end Functions

/-! ### What the status should say -/

section Results

variable (E : Outside) (pHostName : String) (port : UInt16)
  (credentials : MbedtlsPkcs11Credentials)

/-- What the search for the private key gives. -/
def foundKey : Nat × Nat :=
  E.xFindObjectWithLabelAndClass credentials.p11Session credentials.pPrivateKeyLabel
    .CKO_PRIVATE_KEY

/-- What the search for the client certificate gives. -/
def foundCertificate : Nat × Nat :=
  E.xFindObjectWithLabelAndClass credentials.p11Session credentials.pClientCertLabel
    .CKO_CERTIFICATE

/-- `CKK_RSA` and `CKK_EC`, with the algorithm of mbedTLS. -/
def KeyType.algorithm : KeyType → Option KeyAlgorithm
  | .CKK_RSA => some .MBEDTLS_PK_RSA
  | .CKK_EC => some .MBEDTLS_PK_ECKEY
  | .other _ => none

/-- What a connection that is reported should be. -/
structure Established (c : MbedtlsPkcs11Context) : Prop where
  rootCa : c.rootCa = .set (some credentials.pRootCaPath)
  /-- The private key was found, under a handle of an object. -/
  key : foundKey E credentials = (CKR_OK, c.p11PrivateKey) ∧ c.p11PrivateKey ≠ CK_INVALID_HANDLE
  keyType : E.keyTypeOf c.p11PrivateKey = (CKR_OK, c.keyType) ∧
    (c.keyType = .CKK_RSA ∨ c.keyType = .CKK_EC)
  /-- The certificate was found, and the one in the context is it. -/
  certificate : (foundCertificate E credentials).1 = CKR_OK ∧
    (foundCertificate E credentials).2 ≠ CK_INVALID_HANDLE ∧
    ∃ value, E.valueOf (foundCertificate E credentials).2 = (CKR_OK, value) ∧
      c.clientCert = .set (some value)
  installed : ∃ config, c.config = .set config ∧ config.ownCert = true
  connected : c.socketContext = .set (some (pHostName, toString port.toNat))
  context : ∃ context, c.context = .set context ∧ context.handshakeOver = true ∧
    (credentials.disableSni = false → context.hostname = some pHostName)
  verified : E.mbedtls_ssl_get_verify_result = 0

/-- The status is a success only of a connection as it should be. All else is
    an error, and then the context is freed, or it was never looked at. Only a
    handshake that goes on keeps the call from returning. -/
def Reports (a : Arguments) (c : MbedtlsPkcs11Context) : Prop :=
  match Mbedtls_Pkcs11_Connect E a c with
  | .ok status c' =>
      (status = MBEDTLS_PKCS11_SUCCESS → ∃ pHostName credentials,
        a.checked = some (pHostName, credentials) ∧
          Established E pHostName a.port credentials c') ∧
      (status ≠ MBEDTLS_PKCS11_SUCCESS → if a.checked = none then c' = c else c'.Freed)
  | .error .handshaking _ => ∀ mbedtlsError ∈ E.mbedtls_ssl_handshake, Wants mbedtlsError
  | .error (.fault _) _ => False

/-- Everything the status depends on succeeds. -/
structure Passes : Prop where
  defaults : E.mbedtls_ssl_config_defaults = 0
  rootCa : E.mbedtls_x509_crt_parse_file credentials.pRootCaPath = 0
  key : (foundKey E credentials).1 = CKR_OK
  keyType : (E.keyTypeOf (foundKey E credentials).2).1 = CKR_OK ∧
    (E.keyTypeOf (foundKey E credentials).2).2.algorithm ≠ none
  certificate : (foundCertificate E credentials).1 = CKR_OK ∧
    (foundCertificate E credentials).2 ≠ CK_INVALID_HANDLE
  value : (E.valueLengthOf (foundCertificate E credentials).2).1 = CKR_OK ∧
    E.malloc (E.valueLengthOf (foundCertificate E credentials).2).2 = true ∧
    (E.valueOf (foundCertificate E credentials).2).1 = CKR_OK ∧
    E.mbedtls_x509_crt_parse (E.valueOf (foundCertificate E credentials).2).2 = 0
  alpn : ∀ protocols, credentials.pAlpnProtos = some protocols →
    E.mbedtls_ssl_conf_alpn_protocols protocols = 0
  sni : credentials.disableSni = false → E.mbedtls_ssl_set_hostname pHostName = 0
  setup : E.mbedtls_ssl_setup = 0
  fragment : E.mbedtls_ssl_conf_max_frag_len = 0
  connected : E.mbedtls_net_connect pHostName (toString port.toNat) = 0
  /-- The first result of the handshake that is a result is 0. -/
  handshake : (E.mbedtls_ssl_handshake.dropWhile (fun r => decide (Wants r))).head? = some 0
  verified : E.mbedtls_ssl_get_verify_result = 0

end Results

/-! ### Where the steps end -/

section Steps

variable {E : Outside}

theorem attempt_checks (mbedtlsError : Int) {failure : MbedtlsPkcs11Status}
    (hfailure : failure ≠ MBEDTLS_PKCS11_SUCCESS)
    (change : MbedtlsPkcs11Context → MbedtlsPkcs11Context) (c : MbedtlsPkcs11Context) :
    Checks MBEDTLS_PKCS11_SUCCESS (attempt mbedtlsError failure change) c
      (.check (mbedtlsError = 0)) (change c) := by
  unfold attempt
  refine Checks.check (fun h => ?_) (fun h => ?_)
  · rw [if_neg (not_not.mpr h)]
    rfl
  · rw [if_pos h]
    exact ⟨failure, c, hfailure, rfl⟩

theorem freeingOnFailure_checks {steps : Program MbedtlsPkcs11Status} {c t : MbedtlsPkcs11Context}
    {v : Verdict Halt} (h : Checks MBEDTLS_PKCS11_SUCCESS steps c v t) :
    Checks MBEDTLS_PKCS11_SUCCESS (freeingOnFailure steps) c v t := by
  unfold freeingOnFailure
  cases v with
  | pass => exact Checks.after h (Checks.pass rfl)
  | fail =>
      rcases h with ⟨status, c', hstatus, hsteps⟩
      refine Checks.after hsteps ⟨status, c'.free, hstatus, ?_⟩
      rw [if_pos hstatus]
      rfl
  | halt e =>
      rcases h with ⟨c', hsteps⟩
      exact ⟨c', by rw [bind_eq, hsteps]⟩

/-- The context is freed after steps that fail. -/
theorem freeingOnFailure_fails {steps : Program MbedtlsPkcs11Status} {c t : MbedtlsPkcs11Context}
    (h : Checks MBEDTLS_PKCS11_SUCCESS steps c .fail t) :
    ∃ status c', status ≠ MBEDTLS_PKCS11_SUCCESS ∧ freeingOnFailure steps c = .ok status c' ∧
      c'.Freed := by
  rcases h with ⟨status, c', hstatus, hsteps⟩
  refine ⟨status, c'.free, hstatus, bind_ok.mpr ⟨status, c', hsteps, ?_⟩, c'.freed_free⟩
  rw [if_pos hstatus]
  rfl

/-- A call through the list of functions. -/
def listVerdict (available : Bool) : Verdict Halt :=
  if available = true then .pass else .halt (.fault .nullDereference)

theorem required_checks {step : Program Bool} {failure : MbedtlsPkcs11Status}
    (hfailure : failure ≠ MBEDTLS_PKCS11_SUCCESS) {c t : MbedtlsPkcs11Context} {v : Verdict Halt}
    (h : Checks true step c v t) : Checks MBEDTLS_PKCS11_SUCCESS (required step failure) c v t := by
  unfold required
  cases v with
  | pass => exact Checks.after h (Checks.pass rfl)
  | fail =>
      rcases h with ⟨result, c', hresult, hstep⟩
      refine Checks.after hstep ⟨failure, c', hfailure, ?_⟩
      rw [if_pos (Bool.eq_false_iff.mpr hresult)]
      rfl
  | halt e =>
      rcases h with ⟨c', hstep⟩
      exact ⟨c', by rw [bind_eq, hstep]⟩

/-- What the private key can be used for is asked under whatever handle the
    search gave. -/
def keyVerdict (E : Outside) (found : Nat × Nat) (available : Bool) : Verdict Halt :=
  (Verdict.check (found.1 = CKR_OK)).andThen <| (listVerdict available).andThen <|
  (Verdict.check ((E.keyTypeOf found.2).1 = CKR_OK)).andThen <|
  .check ((E.keyTypeOf found.2).2.algorithm ≠ none)

theorem functionList_checks {S : Type} {good : S} {rest : Unit → Program S}
    {c t : MbedtlsPkcs11Context} {v : Verdict Halt} (h : Checks good (rest ()) c v t) :
    Checks good (functionList >>= rest) c ((listVerdict c.pP11FunctionList).andThen v) t := by
  have hlist : functionList c =
      if c.pP11FunctionList = true then .ok () c else .error (.fault .nullDereference) c := by
    unfold functionList
    rw [get_bind, apply_ite (fun m : Program Unit => m c)]
    rfl
  unfold listVerdict
  cases hc : c.pP11FunctionList with
  | true =>
      rw [if_pos hc] at hlist
      exact Checks.after hlist h
  | false =>
      rw [if_neg (Bool.eq_false_iff.mp hc)] at hlist
      exact ⟨c, by rw [bind_eq, hlist]⟩

theorem initializeClientKeys_checks (pPrivateKeyLabel : String) (c : MbedtlsPkcs11Context)
    {found : Nat × Nat}
    (hfound : E.xFindObjectWithLabelAndClass c.p11Session pPrivateKeyLabel .CKO_PRIVATE_KEY =
      found) :
    Checks true (initializeClientKeys E pPrivateKeyLabel) c
      (keyVerdict E found c.pP11FunctionList)
      { c with
        p11PrivateKey := found.2
        keyType := (E.keyTypeOf found.2).2
        privKeyInfo := (E.keyTypeOf found.2).2.algorithm } := by
  -- a handle of no object makes no difference
  have hret : found.1 = CKR_OK ↔ ¬ (if found.1 = CKR_OK ∧ found.2 = CK_INVALID_HANDLE then
      CK_INVALID_HANDLE else found.1) ≠ CKR_OK := by
    rw [not_not]
    by_cases hnone : found.1 = CKR_OK ∧ found.2 = CK_INVALID_HANDLE
    · rw [if_pos hnone]
      exact iff_of_true hnone.1 rfl
    · rw [if_neg hnone]
  unfold initializeClientKeys keyVerdict
  refine Checks.after rfl ?_
  simp only [hfound]
  refine Checks.after rfl (Checks.stop Bool.false_ne_true hret (fun _ => functionList_checks ?_))
  refine Checks.stop Bool.false_ne_true not_not.symm (fun _ => ?_)
  refine Checks.after rfl ?_
  cases htype : (E.keyTypeOf found.2).2 with
  | CKK_RSA => exact Checks.pass rfl
  | CKK_EC => exact Checks.pass rfl
  | other code => exact Checks.fail Bool.false_ne_true rfl

/-- A handle of no object ends the search for the certificate, unlike that for
    the key. -/
def certificateVerdict (E : Outside) (found : Nat × Nat) (available : Bool) : Verdict Halt :=
  (Verdict.check (found.1 = CKR_OK ∧ found.2 ≠ CK_INVALID_HANDLE)).andThen <|
  (listVerdict available).andThen <|
  (Verdict.check ((E.valueLengthOf found.2).1 = CKR_OK)).andThen <|
  (Verdict.check (E.malloc (E.valueLengthOf found.2).2 = true)).andThen <|
  (listVerdict available).andThen <|
  (Verdict.check ((E.valueOf found.2).1 = CKR_OK)).andThen <|
  (Verdict.check (E.mbedtls_x509_crt_parse (E.valueOf found.2).2 = 0)).andThen .pass

theorem readCertificateIntoContext_checks (pLabelName : String) (c : MbedtlsPkcs11Context)
    {found : Nat × Nat}
    (hfound : E.xFindObjectWithLabelAndClass c.p11Session pLabelName .CKO_CERTIFICATE = found) :
    Checks true (readCertificateIntoContext E pLabelName) c
      (certificateVerdict E found c.pP11FunctionList)
      { c with clientCert := c.clientCert.map (fun _ => some (E.valueOf found.2).2) } := by
  have hret : (found.1 = CKR_OK ∧ found.2 ≠ CK_INVALID_HANDLE) ↔
      ¬ (if found.1 = CKR_OK ∧ found.2 = CK_INVALID_HANDLE then CKR_OBJECT_HANDLE_INVALID
        else found.1) ≠ CKR_OK := by
    rw [not_not]
    by_cases hnone : found.1 = CKR_OK ∧ found.2 = CK_INVALID_HANDLE
    · rw [if_pos hnone]
      exact iff_of_false (fun h => h.2 hnone.2) (by decide)
    · rw [if_neg hnone]
      exact ⟨fun h => h.1, fun h => ⟨h, fun hhandle => hnone ⟨h, hhandle⟩⟩⟩
  unfold readCertificateIntoContext certificateVerdict
  refine Checks.after rfl ?_
  simp only [hfound]
  refine Checks.stop Bool.false_ne_true hret (fun _ => functionList_checks ?_)
  refine Checks.stop Bool.false_ne_true not_not.symm (fun _ => ?_)
  refine Checks.stop Bool.false_ne_true (Bool.not_eq_false _).symm.to_iff (fun _ => ?_)
  refine functionList_checks (Checks.stop Bool.false_ne_true not_not.symm (fun _ => ?_))
  exact Checks.stop Bool.false_ne_true not_not.symm (fun _ => Checks.pass rfl)

/-- The three credentials in their order. Installing them is not part of it. -/
def certificatesVerdict (E : Outside) (credentials : MbedtlsPkcs11Credentials)
    (available : Bool) : Verdict Halt :=
  (Verdict.check (E.mbedtls_x509_crt_parse_file credentials.pRootCaPath = 0)).andThen <|
  (keyVerdict E (foundKey E credentials) available).andThen <|
  (certificateVerdict E (foundCertificate E credentials) available).andThen .pass

theorem configureMbedtlsCertificates_checks (credentials : MbedtlsPkcs11Credentials)
    (c : MbedtlsPkcs11Context) (hsession : c.p11Session = credentials.p11Session) :
    Checks MBEDTLS_PKCS11_SUCCESS (configureMbedtlsCertificates E credentials) c
      (certificatesVerdict E credentials c.pP11FunctionList)
      { c with
        rootCa := c.rootCa.map (fun _ => some credentials.pRootCaPath)
        p11PrivateKey := (foundKey E credentials).2
        keyType := (E.keyTypeOf (foundKey E credentials).2).2
        privKeyInfo := (E.keyTypeOf (foundKey E credentials).2).2.algorithm
        clientCert := c.clientCert.map (fun _ =>
          some (E.valueOf (foundCertificate E credentials).2).2)
        config := (c.config.map (fun config => { config with caChain := true })).map (fun config =>
          { config with ownCert := decide (E.mbedtls_ssl_conf_own_cert = 0) }) } := by
  have hkey : E.xFindObjectWithLabelAndClass c.p11Session credentials.pPrivateKeyLabel
      .CKO_PRIVATE_KEY = foundKey E credentials := by
    rw [hsession]
    rfl
  have hcertificate : E.xFindObjectWithLabelAndClass c.p11Session credentials.pClientCertLabel
      .CKO_CERTIFICATE = foundCertificate E credentials := by
    rw [hsession]
    rfl
  -- the root certificate, the client key, the client certificate
  unfold configureMbedtlsCertificates certificatesVerdict
  refine Checks.andThen (attempt_checks _ (by decide) _ c) (fun _ => ?_)
  refine Checks.andThen (required_checks (by decide)
    (initializeClientKeys_checks _ _ hkey)) (fun _ => ?_)
  refine Checks.andThen (required_checks (by decide)
    (readCertificateIntoContext_checks _ _ hcertificate)) (fun _ => ?_)
  exact Checks.pass rfl

theorem Part.map_id {α : Type} (part : Part α) : part.map (fun a => a) = part := by
  cases part with
  | unset => rfl
  | set a => rfl
  | freed => rfl

/-- The protocols are optional. -/
def alpnVerdict (E : Outside) : Option (List String) → Verdict Halt
  | none => .pass
  | some protocols => .check (E.mbedtls_ssl_conf_alpn_protocols protocols = 0)

/-- The host name is set unless that is turned off. -/
def sniVerdict (E : Outside) (disableSni : Bool) (pHostName : String) : Verdict Halt :=
  if disableSni = false then .check (E.mbedtls_ssl_set_hostname pHostName = 0) else .pass

theorem configureMbedtlsSniAlpn_checks (credentials : MbedtlsPkcs11Credentials)
    (pHostName : String) (c : MbedtlsPkcs11Context) :
    Checks MBEDTLS_PKCS11_SUCCESS (configureMbedtlsSniAlpn E credentials pHostName) c
      ((alpnVerdict E credentials.pAlpnProtos).andThen
        (sniVerdict E credentials.disableSni pHostName))
      { c with
        config := c.config.map (fun config =>
          { config with alpnProtocols := credentials.pAlpnProtos <|> config.alpnProtocols })
        context := c.context.map (fun context =>
          { context with
            hostname := if credentials.disableSni = false then some pHostName
              else context.hostname }) } := by
  unfold configureMbedtlsSniAlpn
  -- first the protocols, then the host name, each only if it is asked for
  refine Checks.andThen (t := { c with
      config := c.config.map (fun config =>
        { config with alpnProtocols := credentials.pAlpnProtos <|> config.alpnProtocols }) })
    ?_ (fun _ => ?_)
  · cases credentials.pAlpnProtos with
    | none =>
        refine Checks.pass ?_
        change EStateM.Result.ok MBEDTLS_PKCS11_SUCCESS c = _
        rw [show (fun config : SslConfig => { config with
          alpnProtocols := (none <|> config.alpnProtocols) }) = (fun config => config) from rfl,
          Part.map_id]
    | some protocols => exact attempt_checks _ (by decide) _ c
  · unfold sniVerdict
    by_cases hsni : credentials.disableSni = false
    · rw [if_pos hsni, if_pos hsni]
      simp only [hsni, if_true]
      exact attempt_checks _ (by decide) _ _
    · rw [if_neg hsni, if_neg hsni]
      simp only [if_neg hsni, Part.map_id]
      exact Checks.pass rfl

/-- The first result of the handshake that is a result. -/
def handshakeVerdict (E : Outside) : Verdict Halt :=
  match E.mbedtls_ssl_handshake.dropWhile (fun r => decide (Wants r)) with
  | [] => .halt .handshaking
  | mbedtlsError :: _ =>
      (Verdict.check (mbedtlsError = 0)).andThen <|
      (Verdict.check (E.mbedtls_ssl_get_verify_result = 0)).andThen .pass

theorem handshake_eq (rounds : List Int) (c : MbedtlsPkcs11Context) :
    handshake rounds c = match rounds.dropWhile (fun r => decide (Wants r)) with
      | [] => .error .handshaking c
      | mbedtlsError :: _ => .ok mbedtlsError c := by
  induction rounds with
  | nil => rfl
  | cons mbedtlsError rounds ih =>
      unfold handshake
      rw [List.dropWhile_cons]
      by_cases hwants : Wants mbedtlsError
      · simp only [hwants, if_true, decide_true]
        exact ih
      · simp only [hwants, if_false, decide_false, Bool.false_eq_true]
        rfl

theorem performHandshake_checks (c : MbedtlsPkcs11Context) :
    Checks MBEDTLS_PKCS11_SUCCESS (performHandshake E) c (handshakeVerdict E)
      { c with
        context := c.context.map (fun context => { context with handshakeOver := true }) } := by
  have hhandshake := handshake_eq E.mbedtls_ssl_handshake c
  unfold performHandshake handshakeVerdict
  cases hrounds : E.mbedtls_ssl_handshake.dropWhile (fun r => decide (Wants r)) with
  | nil =>
      rw [hrounds] at hhandshake
      exact ⟨c, by rw [bind_eq, hhandshake]⟩
  | cons mbedtlsError rounds =>
      rw [hrounds] at hhandshake
      refine Checks.after hhandshake ?_
      refine Checks.stop (by decide) not_not.symm (fun _ => Checks.after rfl ?_)
      exact Checks.stop (by decide) not_not.symm (fun _ => Checks.pass rfl)

/-- The list of functions can be called. -/
def available (E : Outside) (c : MbedtlsPkcs11Context) : Bool :=
  c.pP11FunctionList || decide (E.C_GetFunctionList = CKR_OK)

/-- What `configureMbedtls` makes of the context, if all its steps pass. -/
def configured (E : Outside) (pHostName : String) (credentials : MbedtlsPkcs11Credentials)
    (recvTimeoutMs : Nat) (c : MbedtlsPkcs11Context) : MbedtlsPkcs11Context where
  socketContext := .set none
  config := .set {
    verifyRequired := true
    readTimeoutMs := recvTimeoutMs
    caChain := true
    ownCert := decide (E.mbedtls_ssl_conf_own_cert = 0)
    alpnProtocols := credentials.pAlpnProtos <|> none
    maxFragLen := true }
  context := .set {
    isSetUp := true
    hostname := if credentials.disableSni = false then some pHostName else none
    handshakeOver := false }
  rootCa := .set (some credentials.pRootCaPath)
  clientCert := .set (some (E.valueOf (foundCertificate E credentials).2).2)
  privKeyInfo := (E.keyTypeOf (foundKey E credentials).2).2.algorithm
  pP11FunctionList := available E c
  p11Session := credentials.p11Session
  p11PrivateKey := (foundKey E credentials).2
  keyType := (E.keyTypeOf (foundKey E credentials).2).2

/-- The steps of `configureMbedtls`. -/
def configureVerdict (E : Outside) (pHostName : String) (credentials : MbedtlsPkcs11Credentials)
    (available : Bool) : Verdict Halt :=
  (Verdict.check (E.mbedtls_ssl_config_defaults = 0)).andThen <|
  (certificatesVerdict E credentials available).andThen <|
  ((alpnVerdict E credentials.pAlpnProtos).andThen
    (sniVerdict E credentials.disableSni pHostName)).andThen <|
  (Verdict.check (E.mbedtls_ssl_setup = 0)).andThen <|
  .check (E.mbedtls_ssl_conf_max_frag_len = 0)

theorem configureMbedtls_checks (pHostName : String) (credentials : MbedtlsPkcs11Credentials)
    (recvTimeoutMs : Nat) (c : MbedtlsPkcs11Context) :
    Checks MBEDTLS_PKCS11_SUCCESS (configureMbedtls E pHostName credentials recvTimeoutMs) c
      (configureVerdict E pHostName credentials (available E c))
      (configured E pHostName credentials recvTimeoutMs c) := by
  unfold configureMbedtls
  refine freeingOnFailure_checks (Checks.after rfl (Checks.after rfl ?_))
  refine Checks.andThen (attempt_checks _ (by decide) _ _) (fun _ => ?_)
  refine Checks.andThen (configureMbedtlsCertificates_checks credentials _ rfl) (fun _ => ?_)
  refine Checks.andThen (configureMbedtlsSniAlpn_checks credentials pHostName _) (fun _ => ?_)
  refine Checks.andThen (attempt_checks _ (by decide) _ _) (fun _ => ?_)
  exact attempt_checks _ (by decide) _ _

/-- The steps of the connect. -/
def connectVerdict (E : Outside) (pHostName : String) (port : UInt16)
    (credentials : MbedtlsPkcs11Credentials) (available : Bool) : Verdict Halt :=
  (configureVerdict E pHostName credentials available).andThen <|
  (Verdict.check (E.mbedtls_net_connect pHostName (toString port.toNat) = 0)).andThen <|
  handshakeVerdict E

/-- The context of a connection. -/
def connected (E : Outside) (pHostName : String) (port : UInt16)
    (credentials : MbedtlsPkcs11Credentials) (recvTimeoutMs : Nat) (c : MbedtlsPkcs11Context) :
    MbedtlsPkcs11Context :=
  { configured E pHostName credentials recvTimeoutMs c with
    socketContext := .set (some (pHostName, toString port.toNat))
    context := .set {
      isSetUp := true
      hostname := if credentials.disableSni = false then some pHostName else none
      handshakeOver := true } }

/-- Where the steps of the connect end. -/
theorem steps_check (pHostName : String) (port : UInt16) (credentials : MbedtlsPkcs11Credentials)
    (recvTimeoutMs : Nat) (c : MbedtlsPkcs11Context) :
    Checks MBEDTLS_PKCS11_SUCCESS (connectSteps E pHostName port credentials recvTimeoutMs) c
      (connectVerdict E pHostName port credentials (available E c))
      (connected E pHostName port credentials recvTimeoutMs c) := by
  refine Checks.andThen (configureMbedtls_checks pHostName credentials recvTimeoutMs c)
    (fun _ => ?_)
  refine Checks.andThen (attempt_checks _ (by decide) _ _) (fun _ => ?_)
  exact performHandshake_checks _

/-! ### When the steps pass -/

@[simp] theorem listVerdict_eq_pass {available : Bool} :
    listVerdict available = .pass ↔ available = true := by
  unfold listVerdict
  cases available with
  | false => exact iff_of_false (fun h => nomatch h) Bool.false_ne_true
  | true => exact iff_of_true rfl rfl

@[simp] theorem listVerdict_eq_halt {available : Bool} {e : Halt} :
    listVerdict available = .halt e ↔ available = false ∧ e = .fault .nullDereference := by
  unfold listVerdict
  cases available with
  | false => exact ⟨fun h => ⟨rfl, by cases h; rfl⟩, fun h => by rw [h.2]; rfl⟩
  | true => exact iff_of_false (fun h => nomatch h) (fun h => nomatch h.1)

@[simp] theorem alpnVerdict_eq_pass {pAlpnProtos : Option (List String)} :
    alpnVerdict E pAlpnProtos = .pass ↔ ∀ protocols, pAlpnProtos = some protocols →
      E.mbedtls_ssl_conf_alpn_protocols protocols = 0 := by
  cases pAlpnProtos with
  | none => exact iff_of_true rfl (fun _ h => nomatch h)
  | some protocols =>
      refine Verdict.check_eq_pass.trans ⟨fun h p hp => ?_, fun h => h protocols rfl⟩
      cases hp
      exact h

@[simp] theorem alpnVerdict_eq_halt {pAlpnProtos : Option (List String)} {e : Halt} :
    alpnVerdict E pAlpnProtos = .halt e ↔ False := by
  cases pAlpnProtos with
  | none => exact iff_false_intro (fun h => nomatch h)
  | some protocols => exact Verdict.check_eq_halt

@[simp] theorem sniVerdict_eq_pass {disableSni : Bool} {pHostName : String} :
    sniVerdict E disableSni pHostName = .pass ↔
      (disableSni = false → E.mbedtls_ssl_set_hostname pHostName = 0) := by
  cases disableSni with
  | false => exact Verdict.check_eq_pass.trans ⟨fun h _ => h, fun h => h rfl⟩
  | true => exact iff_of_true rfl (fun h => nomatch h)

@[simp] theorem sniVerdict_eq_halt {disableSni : Bool} {pHostName : String} {e : Halt} :
    sniVerdict E disableSni pHostName = .halt e ↔ False := by
  cases disableSni with
  | false => exact Verdict.check_eq_halt
  | true => exact iff_false_intro (fun h => nomatch h)

@[simp] theorem handshakeVerdict_eq_pass :
    handshakeVerdict E = .pass ↔
      (E.mbedtls_ssl_handshake.dropWhile (fun r => decide (Wants r))).head? = some 0 ∧
        E.mbedtls_ssl_get_verify_result = 0 := by
  unfold handshakeVerdict
  cases E.mbedtls_ssl_handshake.dropWhile (fun r => decide (Wants r)) with
  | nil => exact iff_of_false (fun h => nomatch h) (fun h => nomatch h.1)
  | cons mbedtlsError rounds =>
      simp only [Verdict.andThen_eq_pass, Verdict.check_eq_pass, and_true, List.head?_cons,
        Option.some.injEq]

@[simp] theorem handshakeVerdict_eq_halt {e : Halt} :
    handshakeVerdict E = .halt e ↔
      (∀ r ∈ E.mbedtls_ssl_handshake, Wants r) ∧ e = .handshaking := by
  unfold handshakeVerdict
  cases hrounds : E.mbedtls_ssl_handshake.dropWhile (fun r => decide (Wants r)) with
  | nil =>
      rw [List.dropWhile_eq_nil_iff] at hrounds
      simp only [decide_eq_true_eq] at hrounds
      exact ⟨fun h => ⟨hrounds, by cases h; rfl⟩, fun h => by rw [h.2]⟩
  | cons mbedtlsError rounds =>
      refine iff_of_false (fun h => ?_) (fun h => ?_)
      · simp only [Verdict.andThen_eq_halt, Verdict.check_eq_halt, false_or, and_false,
          reduceCtorEq] at h
      · have hnil := List.dropWhile_eq_nil_iff.mpr (fun r hr => decide_eq_true (h.1 r hr))
        rw [hnil] at hrounds
        cases hrounds

theorem connectVerdict_eq_pass (E : Outside) (pHostName : String) (port : UInt16)
    (credentials : MbedtlsPkcs11Credentials) (available : Bool) :
    connectVerdict E pHostName port credentials available = .pass ↔
      Passes E pHostName port credentials ∧ available = true := by
  unfold connectVerdict configureVerdict certificatesVerdict keyVerdict certificateVerdict
  simp only [Verdict.andThen_eq_pass, Verdict.check_eq_pass, listVerdict_eq_pass,
    alpnVerdict_eq_pass, sniVerdict_eq_pass, handshakeVerdict_eq_pass, and_true]
  constructor
  · rintro ⟨⟨hdefaults, ⟨hrootCa, ⟨hkey, hlist, htype, halgorithm⟩, hcertificate, -, hlength,
      hmalloc, -, hvalue, hparse⟩, ⟨halpn, hsni⟩, hsetup, hfragment⟩, hconnected, hhandshake,
      hverified⟩
    exact ⟨⟨hdefaults, hrootCa, hkey, ⟨htype, halgorithm⟩, hcertificate,
      ⟨hlength, hmalloc, hvalue, hparse⟩, halpn, hsni, hsetup, hfragment, hconnected, hhandshake,
      hverified⟩, hlist⟩
  · rintro ⟨h, hlist⟩
    exact ⟨⟨h.defaults, ⟨h.rootCa, ⟨h.key, hlist, h.keyType⟩, h.certificate, hlist, h.value.1,
      h.value.2.1, hlist, h.value.2.2⟩, ⟨h.alpn, h.sni⟩, h.setup, h.fragment⟩, h.connected,
      h.handshake, h.verified⟩

/-- The connect stops where there is no list of functions, or in a handshake
    that goes on. -/
theorem connectVerdict_eq_halt {pHostName : String} {port : UInt16}
    {credentials : MbedtlsPkcs11Credentials} {available : Bool} {e : Halt}
    (h : connectVerdict E pHostName port credentials available = .halt e) :
    (e = .fault .nullDereference ∧ available = false) ∨
      (e = .handshaking ∧ available = true ∧ ∀ r ∈ E.mbedtls_ssl_handshake, Wants r) := by
  unfold connectVerdict configureVerdict certificatesVerdict keyVerdict certificateVerdict at h
  cases available with
  | false =>
      simp only [Verdict.andThen_eq_pass, Verdict.check_eq_pass, listVerdict_eq_pass,
        Verdict.andThen_eq_halt, Verdict.check_eq_halt, listVerdict_eq_halt, Bool.false_eq_true,
        false_and, and_false, false_or, or_false, true_and] at h
      exact Or.inl ⟨h.2.2.2, rfl⟩
  | true =>
      simp only [Verdict.andThen_eq_halt, Verdict.check_eq_halt, listVerdict_eq_halt,
        alpnVerdict_eq_halt, sniVerdict_eq_halt, handshakeVerdict_eq_halt, reduceCtorEq,
        false_and, and_false, false_or] at h
      exact Or.inr ⟨h.2.2.2, rfl, h.2.2.1⟩

/-- Without a list of functions, whoever gets as far as to the type of the key
    stops there. -/
theorem connectVerdict_of_list (E : Outside) (pHostName : String) (port : UInt16)
    (credentials : MbedtlsPkcs11Credentials) :
    connectVerdict E pHostName port credentials false = .halt (.fault .nullDereference) ↔
      E.mbedtls_ssl_config_defaults = 0 ∧
        E.mbedtls_x509_crt_parse_file credentials.pRootCaPath = 0 ∧
          (foundKey E credentials).1 = CKR_OK := by
  unfold connectVerdict configureVerdict certificatesVerdict keyVerdict certificateVerdict
  simp only [Verdict.andThen_eq_pass, Verdict.check_eq_pass, listVerdict_eq_pass,
    Verdict.andThen_eq_halt, Verdict.check_eq_halt, listVerdict_eq_halt, Bool.false_eq_true,
    false_and, and_false, false_or, or_false, and_self, and_true]

end Steps

/-! ### The result -/

/-- What the status depends on is enough for what it says: the functions of the
    module can be called if it comes to that, and if all that is looked at
    succeeds, the handle of the private key is one of an object and the
    certificate was installed. -/
def Sound (E : Outside) (pHostName : String) (port : UInt16)
    (credentials : MbedtlsPkcs11Credentials) (c : MbedtlsPkcs11Context) : Prop :=
  (E.mbedtls_ssl_config_defaults = 0 →
    E.mbedtls_x509_crt_parse_file credentials.pRootCaPath = 0 →
    (foundKey E credentials).1 = CKR_OK → available E c = true) ∧
  (Passes E pHostName port credentials →
    (foundKey E credentials).2 ≠ CK_INVALID_HANDLE ∧ E.mbedtls_ssl_conf_own_cert = 0)

section Result

variable {E : Outside} {pHostName : String} {port : UInt16}
  {credentials : MbedtlsPkcs11Credentials}

/-- A connection that passed is as it should be, up to what was not looked
    at. -/
theorem established_iff (h : Passes E pHostName port credentials) (recvTimeoutMs : Nat)
    (c : MbedtlsPkcs11Context) :
    Established E pHostName port credentials
        (connected E pHostName port credentials recvTimeoutMs c) ↔
      (foundKey E credentials).2 ≠ CK_INVALID_HANDLE ∧ E.mbedtls_ssl_conf_own_cert = 0 := by
  constructor
  · intro hc
    rcases hc.installed with ⟨config, hconfig, hown⟩
    cases hconfig
    exact ⟨hc.key.2, of_decide_eq_true hown⟩
  · -- all other parts are checked on the way, so they hold of any connect that passes
    rintro ⟨hhandle, hown⟩
    have halgorithm := h.keyType.2
    exact {
      rootCa := rfl
      key := ⟨Prod.ext h.key rfl, hhandle⟩
      keyType := by
        refine ⟨Prod.ext h.keyType.1 rfl, ?_⟩
        change (E.keyTypeOf (foundKey E credentials).2).2 = _ ∨
          (E.keyTypeOf (foundKey E credentials).2).2 = _
        cases htype : (E.keyTypeOf (foundKey E credentials).2).2 with
        | CKK_RSA => exact Or.inl rfl
        | CKK_EC => exact Or.inr rfl
        | other code =>
            rw [htype] at halgorithm
            exact absurd rfl halgorithm
      certificate := ⟨h.certificate.1, h.certificate.2, _, Prod.ext h.value.2.2.1 rfl, rfl⟩
      installed := ⟨_, rfl, decide_eq_true hown⟩
      connected := rfl
      context := ⟨_, rfl, rfl, fun hsni => if_pos hsni⟩
      verified := h.verified }

theorem connect_of_none {a : Arguments} (h : a.checked = none) (c : MbedtlsPkcs11Context) :
    Mbedtls_Pkcs11_Connect E a c = .ok MBEDTLS_PKCS11_INVALID_PARAMETER c := by
  unfold Mbedtls_Pkcs11_Connect
  rw [h]
  rfl

theorem connect_of_some {a : Arguments} (h : a.checked = some (pHostName, credentials)) :
    Mbedtls_Pkcs11_Connect E a =
      freeingOnFailure (connectSteps E pHostName a.port credentials a.recvTimeoutMs) := by
  unfold Mbedtls_Pkcs11_Connect
  rw [h]

theorem reports_iff_of_some {a : Arguments} (h : a.checked = some (pHostName, credentials))
    (c : MbedtlsPkcs11Context) :
    Reports E a c ↔ Sound E pHostName a.port credentials c := by
  have hsteps := steps_check (E := E) pHostName a.port credentials a.recvTimeoutMs c
  have hpass := connectVerdict_eq_pass E pHostName a.port credentials (available E c)
  unfold Reports
  rw [connect_of_some h]
  cases hv : connectVerdict E pHostName a.port credentials (available E c) with
  | pass =>
      rw [hv] at hsteps
      rcases hpass.mp hv with ⟨hpasses, havailable⟩
      have hrun : freeingOnFailure _ c = .ok _ _ := freeingOnFailure_checks hsteps
      rw [hrun]
      -- the connection is reported, and the rest is whether it is as it should be
      have hestablished := established_iff hpasses a.recvTimeoutMs c
      constructor
      · rintro ⟨hsuccess, -⟩
        rcases hsuccess rfl with ⟨pHostName', credentials', heq, hc⟩
        rw [h, Option.some.injEq, Prod.mk.injEq] at heq
        rcases heq with ⟨rfl, rfl⟩
        exact ⟨fun _ _ _ => havailable, fun _ => hestablished.mp hc⟩
      · intro hsound
        exact ⟨fun _ => ⟨pHostName, credentials, h, hestablished.mpr (hsound.2 hpasses)⟩,
          fun hne => absurd rfl hne⟩
  | fail =>
      rw [hv] at hsteps
      rcases freeingOnFailure_fails hsteps with ⟨status, c', hstatus, hrun, hfreed⟩
      rw [hrun]
      refine iff_of_true (And.intro (fun hsuccess => absurd hsuccess hstatus) (fun _ => ?_)) ?_
      · rwa [if_neg (by rw [h]; exact Option.some_ne_none _)]
      · -- it would stop without a list of functions, and pass with one
        have havailable : E.mbedtls_ssl_config_defaults = 0 →
            E.mbedtls_x509_crt_parse_file credentials.pRootCaPath = 0 →
            (foundKey E credentials).1 = CKR_OK → available E c = true := by
          intro hdefaults hrootCa hkey
          by_contra hnone
          have hlist := connectVerdict_of_list E pHostName a.port credentials
          rw [Bool.eq_false_iff.mpr hnone, hlist.mpr ⟨hdefaults, hrootCa, hkey⟩] at hv
          cases hv
        refine ⟨havailable, fun hpasses => ?_⟩
        rw [hpass.mpr ⟨hpasses, havailable hpasses.defaults hpasses.rootCa hpasses.key⟩] at hv
        cases hv
  | halt e =>
      rw [hv] at hsteps
      rcases hsteps with ⟨c', hrun⟩
      have hstops : freeingOnFailure (connectSteps E pHostName a.port credentials
          a.recvTimeoutMs) c = .error e c' := by
        unfold freeingOnFailure
        rw [bind_eq, hrun]
      rw [hstops]
      rcases connectVerdict_eq_halt hv with ⟨rfl, hnone⟩ | ⟨rfl, havailable, hwants⟩
      · rw [hnone, connectVerdict_of_list] at hv
        refine iff_of_false (fun hfalse => hfalse) (fun hsound => ?_)
        exact Bool.eq_false_iff.mp hnone (hsound.1 hv.1 hv.2.1 hv.2.2)
      · refine iff_of_true hwants ⟨fun _ _ _ => havailable, fun hpasses => ?_⟩
        rw [hpass.mpr ⟨hpasses, havailable⟩] at hv
        cases hv

end Result

/-- The status says what it should exactly if what it depends on is enough. -/
theorem connect_reports_iff (E : Outside) (a : Arguments) (c : MbedtlsPkcs11Context) :
    Reports E a c ↔ ∀ pHostName credentials, a.checked = some (pHostName, credentials) →
      Sound E pHostName a.port credentials c := by
  cases hchecked : a.checked with
  | none =>
      unfold Reports
      rw [connect_of_none hchecked]
      refine iff_of_true (And.intro (fun h => nomatch h) (fun _ => ?_)) (fun _ _ h => nomatch h)
      rw [if_pos hchecked]
  | some checked =>
      refine (reports_iff_of_some hchecked c).trans ⟨fun h pHostName credentials heq => ?_,
        fun h => h checked.1 checked.2 rfl⟩
      cases heq
      exact h

/-- Every call succeeds, with this handle of the private key and this result of
    installing the certificate. The handshake wants to read once. -/
def Outside.reliable (privateKeyHandle : Nat) (ownCert : Int) : Outside where
  C_GetFunctionList := CKR_OK
  xFindObjectWithLabelAndClass := fun _ _ objectClass =>
    match objectClass with
    | .CKO_PRIVATE_KEY => (CKR_OK, privateKeyHandle)
    | .CKO_CERTIFICATE => (CKR_OK, 2)
  keyTypeOf := fun _ => (CKR_OK, .CKK_EC)
  valueLengthOf := fun _ => (CKR_OK, 3)
  valueOf := fun _ => (CKR_OK, [0x30, 0x01, 0x00])
  malloc := fun _ => true
  mbedtls_ssl_config_defaults := 0
  mbedtls_x509_crt_parse_file := fun _ => 0
  mbedtls_x509_crt_parse := fun _ => 0
  mbedtls_ssl_conf_own_cert := ownCert
  mbedtls_ssl_conf_alpn_protocols := fun _ => 0
  mbedtls_ssl_set_hostname := fun _ => 0
  mbedtls_ssl_setup := 0
  mbedtls_ssl_conf_max_frag_len := 0
  mbedtls_net_connect := fun _ _ => 0
  mbedtls_ssl_handshake := [MBEDTLS_ERR_SSL_WANT_READ, 0]
  mbedtls_ssl_get_verify_result := 0

/-- A connect with the device credentials. -/
def deviceArguments : Arguments where
  networkContext := true
  pHostName := some "localhost"
  port := 8883
  credentials := true
  pAlpnProtos := none
  disableSni := false
  pRootCaPath := some "root.crt"
  pClientCertLabel := some "Device Cert"
  pPrivateKeyLabel := some "Device Priv TLS Key"
  p11Session := 1
  recvTimeoutMs := 500

/-- A context that was not used before. -/
def unusedContext : MbedtlsPkcs11Context where
  socketContext := .unset
  config := .unset
  context := .unset
  rootCa := .unset
  clientCert := .unset
  privKeyInfo := none
  pP11FunctionList := false
  p11Session := 0
  p11PrivateKey := 0
  keyType := .CKK_RSA

/-- There is no memory for installing the certificate, and there is no private
    key but the module gives a type for its handle. Both are reported as a
    connection. -/
theorem connect_reports_missing :
    ¬ Reports (Outside.reliable 1 (-0x7F00)) deviceArguments unusedContext ∧
      ¬ Reports (Outside.reliable CK_INVALID_HANDLE 0) deviceArguments unusedContext := by
  constructor
  · rintro ⟨hsuccess, -⟩
    rcases hsuccess rfl with ⟨pHostName, credentials, heq, hc⟩
    rcases hc.installed with ⟨config, hconfig, hown⟩
    cases hconfig
    cases hown
  · rintro ⟨hsuccess, -⟩
    rcases hsuccess rfl with ⟨pHostName, credentials, heq, hc⟩
    exact hc.key.2 rfl

end MbedtlsPkcs11

end ProvisioningSdk
