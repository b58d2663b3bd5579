/-
# `CommerceOrchestrator.Config.Server` — what the server is configured with

The configuration is read from a file if there is one, and then the environment amends it.  In
production nothing that matters has a default: `requireProduction` refuses a configuration that
leaves out the address of a provider, the database, the credentials of the callers or the key
for signatures, and whatever it accepts the clients of all providers can be built from
(`clientConfigFor_ok`).
-/
import CommerceOrchestrator.Adapters.Circuit
import CommerceOrchestrator.Config.ProviderAuth
import CommerceOrchestrator.Runtime.OutboxProcessor
import CommerceOrchestrator.Text.Decimal

namespace Orchestrator

open Text

/-! ## Overrides -/

/-- A nonnegative number of at most `limit`, in decimal. -/
def parseUnsigned (limit : Nat) : Chars → Option Nat
  | '+' :: s => (digits s).filter (· ≤ limit)
  | s => (digits s).filter (· ≤ limit)

namespace EnvVars

variable (env : EnvVars)

/-- The value of a variable by its name. -/
def var (name : String) : Option Chars := env name.toList

/-- A variable that is set takes the place of the setting, and if it is blank, unsets it. -/
def replacing (name : String) (setting : Option Chars) : Option Chars :=
  match env.var name with
  | some v => if trimmed v = [] then none else some (trimmed v)
  | none => setting

/-- A variable that is a number takes the place of the setting. -/
def overridingNat (limit : Nat) (name : String) (setting : Nat) : Nat :=
  ((env.var name).bind fun v => parseUnsigned limit (trimmed v)).getD setting

def overridingText (name : String) (setting : Chars) : Chars :=
  (env.overriding name.toList (some setting)).getD setting

end EnvVars

def u32Limit : Nat := 2 ^ 32 - 1

def u64Limit : Nat := 2 ^ 64 - 1

/-! ## Sections -/

/-- Circuit breaker policy applied to every downstream provider. -/
structure CircuitBreakerSection where
  enabled : Bool := true
  failureThreshold : Nat := 5
  openSecs : Nat := 30
  probeTimeoutSecs : Nat := 60
deriving DecidableEq, Repr

namespace CircuitBreakerSection

def toConfig (section_ : CircuitBreakerSection) : CircuitBreakerConfig where
  enabled := section_.enabled
  failureThreshold := max section_.failureThreshold 1
  openDuration := section_.openSecs * 10 ^ 9
  probeTimeout := max section_.probeTimeoutSecs 1 * 10 ^ 9

def applyEnvOverrides (section_ : CircuitBreakerSection) (env : EnvVars) :
    CircuitBreakerSection where
  enabled :=
    match env.var "PROVIDER_CIRCUIT_ENABLED" with
    | some v =>
        decide (trimmed v = "1".toList ∨ trimmed v = "true".toList ∨ trimmed v = "yes".toList)
    | none => section_.enabled
  failureThreshold :=
    env.overridingNat u32Limit "PROVIDER_CIRCUIT_FAILURE_THRESHOLD" section_.failureThreshold
  openSecs := env.overridingNat u64Limit "PROVIDER_CIRCUIT_OPEN_SECS" section_.openSecs
  probeTimeoutSecs :=
    env.overridingNat u64Limit "PROVIDER_CIRCUIT_PROBE_TIMEOUT_SECS" section_.probeTimeoutSecs

end CircuitBreakerSection

/-- Shared HTTP client policy for outbound calls to component APIs. -/
structure HttpClientConfig where
  connectTimeoutSecs : Nat := 5
  timeoutSecs : Nat := 30
  maxRetries : Nat := 3
  retryBackoffMs : Nat := 100
  circuitBreaker : CircuitBreakerSection := {}
deriving DecidableEq, Repr

/-- Client policy for one provider: its credentials, its TLS material and its own breaker. -/
structure ProviderClient where
  connectTimeout : Nat
  client : ClientConfig
  auth : ProviderCredential
  tls : TlsConfig
  circuitBreaker : CircuitBreaker

def HttpClientConfig.toClientConfigWithAuth (config : HttpClientConfig) (read : ReadFile)
    (p : Provider) (auth : ProviderAuthConfig) : Except String ProviderClient := do
  return {
    connectTimeout := config.connectTimeoutSecs * 10 ^ 9
    client :=
      { timeout := config.timeoutSecs * 10 ^ 9
        maxRetries := config.maxRetries
        retryBackoffMs := config.retryBackoffMs
        circuitBreaker := true }
    auth := ← auth.toOutboundAuth
    tls := ← auth.toTlsConfig read
    circuitBreaker := .new p.label config.circuitBreaker.toConfig }

/-- Downstream component API base URLs. -/
structure ComponentsConfig where
  catalogBaseUrl : Option Chars := none
  pricingBaseUrl : Option Chars := none
  taxBaseUrl : Option Chars := none
  geoBaseUrl : Option Chars := none
  paymentBaseUrl : Option Chars := none
  receiptBaseUrl : Option Chars := none
  fulfillmentBaseUrl : Option Chars := none
  paymentDelegationBaseUrl : Option Chars := none
  identityLinkBaseUrl : Option Chars := none
deriving DecidableEq, Repr

/-- Resolved component URLs; six are always there. -/
structure ResolvedComponents where
  catalogBaseUrl : Chars
  pricingBaseUrl : Chars
  taxBaseUrl : Chars
  geoBaseUrl : Chars
  paymentBaseUrl : Chars
  receiptBaseUrl : Chars
  fulfillmentBaseUrl : Option Chars
  paymentDelegationBaseUrl : Option Chars
  identityLinkBaseUrl : Option Chars
deriving DecidableEq, Repr

/-- `filter(..).ok_or(message)`. -/
def demanded (setting : Option Chars) (message : String) : Except String Chars :=
  (ProviderAuthConfig.nonempty setting).elim (.error message) .ok

namespace ComponentsConfig

def applyEnvOverrides (config : ComponentsConfig) (env : EnvVars) : ComponentsConfig where
  catalogBaseUrl := env.replacing "CATALOG_BASE_URL" config.catalogBaseUrl
  pricingBaseUrl := env.replacing "PRICING_BASE_URL" config.pricingBaseUrl
  taxBaseUrl := env.replacing "TAX_BASE_URL" config.taxBaseUrl
  geoBaseUrl := env.replacing "GEO_BASE_URL" config.geoBaseUrl
  paymentBaseUrl := env.replacing "PAYMENT_BASE_URL" config.paymentBaseUrl
  receiptBaseUrl := env.replacing "RECEIPT_BASE_URL" config.receiptBaseUrl
  fulfillmentBaseUrl := env.replacing "FULFILLMENT_BASE_URL" config.fulfillmentBaseUrl
  paymentDelegationBaseUrl :=
    env.replacing "PAYMENT_DELEGATION_BASE_URL" config.paymentDelegationBaseUrl
  identityLinkBaseUrl := env.replacing "IDENTITY_LINK_BASE_URL" config.identityLinkBaseUrl

/-- Require all six component URLs to be set. -/
def requireAll (config : ComponentsConfig) : Except String ResolvedComponents := do
  return {
    catalogBaseUrl := ← demanded config.catalogBaseUrl
      "CATALOG_BASE_URL (or components.catalog_base_url) required"
    pricingBaseUrl := ← demanded config.pricingBaseUrl
      "PRICING_BASE_URL (or components.pricing_base_url) required"
    taxBaseUrl := ← demanded config.taxBaseUrl
      "TAX_BASE_URL (or components.tax_base_url) required"
    geoBaseUrl := ← demanded config.geoBaseUrl
      "GEO_BASE_URL (or components.geo_base_url) required"
    paymentBaseUrl := ← demanded config.paymentBaseUrl
      "PAYMENT_BASE_URL (or components.payment_base_url) required"
    receiptBaseUrl := ← demanded config.receiptBaseUrl
      "RECEIPT_BASE_URL (or components.receipt_base_url) required"
    fulfillmentBaseUrl := ProviderAuthConfig.nonempty config.fulfillmentBaseUrl
    paymentDelegationBaseUrl := ProviderAuthConfig.nonempty config.paymentDelegationBaseUrl
    identityLinkBaseUrl := ProviderAuthConfig.nonempty config.identityLinkBaseUrl }

end ComponentsConfig

/-- A file that has the section and not `bind_addr` gets `0.0.0.0:8080` from the reader; a section
that is not there at all is blank. -/
structure ServerSection where
  bindAddr : Chars := []
  publicBaseUrl : Option Chars := none
  embeddedCheckoutUrl : Option Chars := none
  ucpPaymentHandlers : Option Chars := none
deriving DecidableEq, Repr

structure AuthSection where
  mode : Option Chars := none
  bearerToken : Option Chars := none
  jwtHs256Secret : Option Chars := none
  trustedIssuers : Option Chars := none
  tenantId : Option Chars := none
  callerId : Option Chars := none
deriving DecidableEq, Repr

structure PersistenceSection where
  databaseUrl : Option Chars := none
deriving DecidableEq, Repr

/-- Background outbox processor tuning; `batchSize` is a `usize` of 64 bits. -/
structure OutboxSection where
  intervalMs : UInt64 := 500
  batchSize : Nat := 32
  maxAttempts : Nat := 5
  drainTimeoutSecs : UInt64 := 10
  retryBackoffMs : UInt64 := 500
  maxRetryBackoffSecs : UInt64 := 30
deriving DecidableEq, Repr

namespace OutboxSection

def toProcessorConfig (section_ : OutboxSection) : OutboxProcessorConfig where
  interval := .fromMillis section_.intervalMs
  batchSize := max section_.batchSize 1
  maxAttempts := max section_.maxAttempts 1
  drainTimeout := .fromSecs section_.drainTimeoutSecs
  retryBackoff := .fromMillis (max section_.retryBackoffMs 1)
  maxRetryBackoff := .fromSecs (max section_.maxRetryBackoffSecs 1)

def overridingU64 (env : EnvVars) (name : String) (setting : UInt64) : UInt64 :=
  .ofNat (env.overridingNat u64Limit name setting.toNat)

def applyEnvOverrides (section_ : OutboxSection) (env : EnvVars) : OutboxSection where
  intervalMs := overridingU64 env "OUTBOX_INTERVAL_MS" section_.intervalMs
  batchSize := env.overridingNat u64Limit "OUTBOX_BATCH_SIZE" section_.batchSize
  maxAttempts := env.overridingNat u32Limit "OUTBOX_MAX_ATTEMPTS" section_.maxAttempts
  drainTimeoutSecs := overridingU64 env "OUTBOX_DRAIN_TIMEOUT_SECS" section_.drainTimeoutSecs
  retryBackoffMs := overridingU64 env "OUTBOX_RETRY_BACKOFF_MS" section_.retryBackoffMs
  maxRetryBackoffSecs :=
    overridingU64 env "OUTBOX_MAX_RETRY_BACKOFF_SECS" section_.maxRetryBackoffSecs

end OutboxSection

/-! ## Signing -/

def SigningKeyError.message : SigningKeyError → String
  | .missingKid => "signing key id must not be empty"
  | .invalidKeyMaterial kid reason =>
      "signing key '" ++ String.ofList kid ++ "' is not usable: " ++ reason
  | .duplicateKid kid => "signing key id '" ++ String.ofList kid ++ "' is used more than once"
  | .unsupportedAlgorithm name =>
      "unsupported signing algorithm '" ++ name ++ "'; expected EdDSA or ES256"
  | .invalidJwks reason => "JWK Set is not valid: " ++ reason

/-- An operator-supplied algorithm name, in either spelling. -/
def KeyAlgorithm.parse (value : Chars) : Except SigningKeyError KeyAlgorithm :=
  let name := toAsciiLowercase (trimmed value)
  if name = "eddsa".toList ∨ name = "ed25519".toList then .ok .edDsa
  else if name = "es256".toList ∨ name = "ecdsa-p256-sha256".toList then .ok .es256
  else .error (.unsupportedAlgorithm (String.ofList (trimmed value)))

/-- The texts between commas, without the blank ones. -/
def splitPairs (value : Chars) : List Chars :=
  ((value.splitOn ',').map trimmed).filter (· ≠ [])

/-- UCP request/response signing material. -/
structure SigningSection where
  keyId : Option Chars := none
  key : Option Chars := none
  keyAlgorithm : Option Chars := none
  previousKeys : List Chars := []
  agentKeys : List Chars := []
  agentJwks : Option Chars := none
deriving DecidableEq, Repr

/-- `kid:secret` or `kid:ALG:secret`. -/
def parsePreviousKey (entry : Chars) : Except String KeySpec :=
  match splitOnce ':' entry with
  | none =>
      .error ("previous signing key '" ++ String.ofList entry ++
        "' must be 'kid:seed' or 'kid:ALG:secret'")
  | some (kid, rest) =>
      match splitOnce ':' rest with
      | none => .ok ⟨trimmed kid, .edDsa, trimmed rest⟩
      | some (alg, secret) => do
          return ⟨trimmed kid, ← (KeyAlgorithm.parse alg).mapError SigningKeyError.message,
            trimmed secret⟩

namespace VerifyingKeyring

variable (C : SignatureCrates)

/-- From ids and public keys in base64. -/
def fromPublicKeys (keys : List (Chars × Chars)) : Except SigningKeyError (VerifyingKeyring C) := do
  let parsed ← keys.mapM fun entry =>
    match decodeBase64 entry.2 with
    | none => .error (.invalidKeyMaterial entry.1 "expected base64-encoded public key")
    | some raw => (ed25519PublicKey C entry.1 raw).map fun key => (entry.1, key)
  fromEntries parsed

/-- Combine two keyrings, refusing a kid that appears in both. -/
def merge {C : SignatureCrates} (a b : VerifyingKeyring C) :
    Except SigningKeyError (VerifyingKeyring C) :=
  fromEntries (a.keys ++ b.keys)

end VerifyingKeyring

namespace SigningSection

def applyEnvOverrides (section_ : SigningSection) (env : EnvVars) : SigningSection where
  keyId := env.overriding "UCP_SIGNING_KEY_ID".toList section_.keyId
  key := env.overriding "UCP_SIGNING_KEY".toList section_.key
  keyAlgorithm := env.overriding "UCP_SIGNING_KEY_ALG".toList section_.keyAlgorithm
  agentJwks := env.overriding "UCP_AGENT_JWKS".toList section_.agentJwks
  previousKeys :=
    (env.overriding "UCP_SIGNING_PREVIOUS_KEYS".toList none).elim section_.previousKeys splitPairs
  agentKeys := (env.overriding "UCP_AGENT_KEYS".toList none).elim section_.agentKeys splitPairs

/-- The keyring, or `none` when this deployment does not sign. -/
def toKeyring (C : SignatureCrates) (section_ : SigningSection) :
    Except String (Option (SigningKeyring C)) :=
  match ProviderAuthConfig.nonempty section_.keyId, ProviderAuthConfig.nonempty section_.key with
  | none, none => .ok none
  | some _, none => .error "UCP_SIGNING_KEY is required when UCP_SIGNING_KEY_ID is set"
  | none, some _ => .error "UCP_SIGNING_KEY_ID is required when UCP_SIGNING_KEY is set"
  | some keyId, some key => do
      let algorithm ← (ProviderAuthConfig.nonempty section_.keyAlgorithm).elim (.ok .edDsa)
        fun name => (KeyAlgorithm.parse name).mapError SigningKeyError.message
      let previous ← section_.previousKeys.mapM parsePreviousKey
      let ring ← (SigningKeyring.fromSpecs C ⟨keyId, algorithm, key⟩ previous).mapError
        SigningKeyError.message
      return some ring

/-- The keys of the agents, or `none` when their signatures are not required. -/
def toVerifyingKeyring (C : SignatureCrates)
    (readJwks : Chars → Except String (List SigningKeyDescriptor)) (section_ : SigningSection) :
    Except String (Option (VerifyingKeyring C)) :=
  let jwks := section_.agentJwks.filter fun s => trimmed s ≠ []
  if section_.agentKeys = [] ∧ jwks = none then .ok none
  else do
    let parsed ← section_.agentKeys.mapM fun pair =>
      match splitOnce ':' pair with
      | some (kid, key) => .ok (trimmed kid, trimmed key)
      | none =>
          .error ("agent signing key '" ++ String.ofList pair ++
            "' must be in 'kid:public_key' form")
    let pairs ← (VerifyingKeyring.fromPublicKeys C parsed).mapError SigningKeyError.message
    match jwks with
    | none => return some pairs
    | some json =>
        let published ← (VerifyingKeyring.fromJwks C readJwks json).mapError
          fun e => "UCP_AGENT_JWKS: " ++ e.message
        let merged ← (pairs.merge published).mapError SigningKeyError.message
        return some merged

end SigningSection

/-! ## The whole -/

structure ServerConfig where
  server : ServerSection := {}
  auth : AuthSection := {}
  persistence : PersistenceSection := {}
  components : ComponentsConfig := {}
  httpClient : HttpClientConfig := {}
  providerAuth : ProviderAuthSection := {}
  outbox : OutboxSection := {}
  signing : SigningSection := {}

/-- What the process finds where it starts: its environment, its arguments, its files, and the
reader of configurations.  `standardConfig` is `config.yaml` of the current directory. -/
structure Host where
  env : EnvVars
  args : List Chars
  standardConfig : Option Chars
  exists_ : Chars → Bool
  read : ReadFile
  readToString : Chars → Except String Chars
  parseConfig : Chars → Except String ServerConfig

/-- Validated production config. -/
structure ProductionConfig (C : SignatureCrates) where
  publicBaseUrl : Chars
  databaseUrl : Chars
  signing : SigningKeyring C
  authMode : Chars
  authToken : Chars
  trustedIssuers : Chars
  authTenantId : Chars
  authCallerId : Chars
  components : ResolvedComponents
  httpClient : HttpClientConfig
  providerAuth : ProviderAuthSection

/-- `map_err(|e| format!("{} provider auth: {}", provider.env_prefix(), e))`. -/
def Provider.blame {α : Type} (p : Provider) (result : Except String α) : Except String α :=
  result.mapError fun e => p.envPrefix ++ " provider auth: " ++ e

namespace ServerConfig

def applyEnvOverrides (config : ServerConfig) (env : EnvVars) : ServerConfig where
  server :=
    { bindAddr := env.overridingText "BIND_ADDR" config.server.bindAddr
      publicBaseUrl := env.overriding "PUBLIC_BASE_URL".toList config.server.publicBaseUrl
      embeddedCheckoutUrl := env.replacing "EMBEDDED_CHECKOUT_URL" config.server.embeddedCheckoutUrl
      ucpPaymentHandlers := env.replacing "UCP_PAYMENT_HANDLERS" config.server.ucpPaymentHandlers }
  auth :=
    { mode := env.overriding "AUTH_MODE".toList config.auth.mode
      bearerToken := env.overriding "AUTH_BEARER_TOKEN".toList config.auth.bearerToken
      jwtHs256Secret := env.overriding "AUTH_JWT_HS256_SECRET".toList config.auth.jwtHs256Secret
      trustedIssuers := env.overriding "AP2_TRUSTED_ISSUERS".toList config.auth.trustedIssuers
      tenantId := env.overriding "AUTH_TENANT_ID".toList config.auth.tenantId
      callerId := env.overriding "AUTH_CALLER_ID".toList config.auth.callerId }
  persistence :=
    { databaseUrl := env.overriding "DATABASE_URL".toList config.persistence.databaseUrl }
  components := config.components.applyEnvOverrides env
  httpClient :=
    { config.httpClient with
      circuitBreaker := config.httpClient.circuitBreaker.applyEnvOverrides env }
  providerAuth := config.providerAuth.applyEnvOverrides env
  outbox := config.outbox.applyEnvOverrides env
  signing := config.signing.applyEnvOverrides env

/-- Of the file, if there is one. -/
def fromFile (host : Host) (configPath : Option Chars) : Except String ServerConfig :=
  match configPath.filter host.exists_ with
  | none => .ok {}
  | some path => do
      let s ← (host.readToString path).mapError fun e => "read config file: " ++ e
      (host.parseConfig s).mapError fun e => "parse config: " ++ e

/-- Load config: the file first, then the environment. -/
def load (host : Host) (configPath : Option Chars) : Except String ServerConfig :=
  (fromFile host configPath).map (·.applyEnvOverrides host.env)

/-- `"jwt"` or whatever; no letter outside ASCII is one of `jwt` in lower case. -/
def authMode (config : ServerConfig) : Chars :=
  toAsciiLowercase (config.auth.mode.getD "static".toList)

/-- The secret that the mode needs. -/
def authSecret (config : ServerConfig) : Except String Chars :=
  if config.authMode = "jwt".toList then
    demanded config.auth.jwtHs256Secret ("AUTH_JWT_HS256_SECRET (or auth.jwt_hs256_secret) " ++
      "required in production when AUTH_MODE=jwt")
  else
    demanded config.auth.bearerToken
      "AUTH_BEARER_TOKEN (or auth.bearer_token) required in production"

/-- Credentials and TLS material of a provider can be used. -/
def checkProvider (config : ServerConfig) (read : ReadFile) (p : Provider) : Except String Unit :=
  p.blame do
    let auth := config.providerAuth.forProvider p
    let _ ← auth.toOutboundAuth
    let _ ← auth.toTlsConfig read

/-- Validate for production. -/
def requireProduction (C : SignatureCrates) (config : ServerConfig) (read : ReadFile) :
    Except String (ProductionConfig C) := do
  let publicBaseUrl ← demanded config.server.publicBaseUrl
    "PUBLIC_BASE_URL (or server.public_base_url) required in production"
  let databaseUrl ← demanded config.persistence.databaseUrl
    "DATABASE_URL (or persistence.database_url) required in production"
  let authToken ← config.authSecret
  let components ← config.components.requireAll
  Provider.all.forM (config.checkProvider read)
  let ring ← config.signing.toKeyring C
  let signing ← ring.elim (.error ("UCP_SIGNING_KEY_ID and UCP_SIGNING_KEY (or " ++
    "signing.key_id/signing.key) required in production")) .ok
  return {
    publicBaseUrl, databaseUrl, signing, authToken, components
    authMode := config.authMode
    trustedIssuers := config.auth.trustedIssuers.getD []
    authTenantId := config.auth.tenantId.getD "prod".toList
    authCallerId := config.auth.callerId.getD "prod".toList
    httpClient := config.httpClient
    providerAuth := config.providerAuth }

end ServerConfig

/-- Client policy for one provider, including its credentials and TLS material. -/
def ProductionConfig.clientConfigFor {C : SignatureCrates} (config : ProductionConfig C)
    (read : ReadFile) (p : Provider) : Except String ProviderClient :=
  p.blame (config.httpClient.toClientConfigWithAuth read p (config.providerAuth.forProvider p))

/-- Resolve config path from `CONFIG_FILE` or `config.yaml` in the current directory. -/
def defaultConfigPath (host : Host) : Option Chars :=
  (host.env.var "CONFIG_FILE").or host.standardConfig

end Orchestrator
