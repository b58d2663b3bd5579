/-
# `CommerceOrchestrator.Config.ProviderAuth` — the credentials of each provider

Every provider has a section for its credentials, which the file fills and the environment
amends, and there is one section for those that have none of their own.  A section replaces the
other as a whole, so what a provider is called with comes from one place, and what is set for
another provider does not reach it (`provider_credentials_isolated`).
-/
import CommerceOrchestrator.Adapters.Attempts
import CommerceOrchestrator.Adapters.TokenSource
import CommerceOrchestrator.Api.Signing

namespace Orchestrator

open Text

/-! ## Names -/

/-- The environment: a variable that is not set has no value, nor has one that is not Unicode. -/
abbrev EnvVars := Chars → Option Chars

/-- Set variables, in order. -/
def EnvVars.set (env : EnvVars) (changes : List (Chars × Chars)) : EnvVars :=
  changes.foldl (fun env change => Function.update env change.1 (some change.2)) env

/-- Downstream provider identity. -/
inductive Provider
  | catalog
  | pricing
  | tax
  | geo
  | payment
  | receipt
  | fulfillment
  | paymentDelegation
  | identityLink
deriving DecidableEq, Repr

namespace Provider

def all : List Provider :=
  [.catalog, .pricing, .tax, .geo, .payment, .receipt, .fulfillment, .paymentDelegation,
    .identityLink]

def envPrefix : Provider → String
  | .catalog => "CATALOG"
  | .pricing => "PRICING"
  | .tax => "TAX"
  | .geo => "GEO"
  | .payment => "PAYMENT"
  | .receipt => "RECEIPT"
  | .fulfillment => "FULFILLMENT"
  | .paymentDelegation => "PAYMENT_DELEGATION"
  | .identityLink => "IDENTITY_LINK"

/-- Lower-case name used as a metric label. -/
def label : Provider → String
  | .catalog => "catalog"
  | .pricing => "pricing"
  | .tax => "tax"
  | .geo => "geo"
  | .payment => "payment"
  | .receipt => "receipt"
  | .fulfillment => "fulfillment"
  | .paymentDelegation => "payment_delegation"
  | .identityLink => "identity_link"

theorem mem_all (p : Provider) : p ∈ all := by
  cases p <;> decide

end Provider

/-- The settings of a section. -/
inductive AuthField
  | mode
  | token
  | header
  | value
  | oauthTokenUrl
  | oauthClientId
  | oauthClientSecret
  | oauthScope
  | oauthClientAuth
  | tlsClientCertPath
  | tlsCaPath
deriving DecidableEq, Repr

def AuthField.all : List AuthField :=
  [.mode, .token, .header, .value, .oauthTokenUrl, .oauthClientId, .oauthClientSecret, .oauthScope,
    .oauthClientAuth, .tlsClientCertPath, .tlsCaPath]

theorem AuthField.mem_all (f : AuthField) : f ∈ all := by
  cases f <;> decide

/-- What the variable of a setting ends in. -/
def AuthField.suffix : AuthField → String
  | .mode => "AUTH_MODE"
  | .token => "AUTH_TOKEN"
  | .header => "AUTH_HEADER"
  | .value => "AUTH_VALUE"
  | .oauthTokenUrl => "OAUTH_TOKEN_URL"
  | .oauthClientId => "OAUTH_CLIENT_ID"
  | .oauthClientSecret => "OAUTH_CLIENT_SECRET"
  | .oauthScope => "OAUTH_SCOPE"
  | .oauthClientAuth => "OAUTH_CLIENT_AUTH"
  | .tlsClientCertPath => "TLS_CLIENT_CERT_PATH"
  | .tlsCaPath => "TLS_CA_PATH"

/-- `<PREFIX>_<SUFFIX>`. -/
def authVariable (pre : String) (field : AuthField) : Chars :=
  pre.toList ++ '_' :: field.suffix.toList

/-- The prefix of the shared section. -/
def sharedPrefix : String := "PROVIDER"

/-- No two settings are read from one variable. -/
theorem authVariable_injective {p q : Provider} {f g : AuthField}
    (h : authVariable p.envPrefix f = authVariable q.envPrefix g) : p = q ∧ f = g := by
  have hall : ∀ p ∈ Provider.all, ∀ q ∈ Provider.all, ∀ f ∈ AuthField.all, ∀ g ∈ AuthField.all,
      authVariable p.envPrefix f = authVariable q.envPrefix g → p = q ∧ f = g := by
    decide +kernel
  exact hall p p.mem_all q q.mem_all f f.mem_all g g.mem_all h

theorem authVariable_ne_shared (p : Provider) (f g : AuthField) :
    authVariable p.envPrefix f ≠ authVariable sharedPrefix g := by
  have hall : ∀ p ∈ Provider.all, ∀ f ∈ AuthField.all, ∀ g ∈ AuthField.all,
      authVariable p.envPrefix f ≠ authVariable sharedPrefix g := by
    decide +kernel
  exact hall p p.mem_all f f.mem_all g g.mem_all

/-! ## A section -/

/-- Credentials and TLS material for one downstream provider. -/
structure ProviderAuthConfig where
  mode : Option Chars := none
  token : Option Chars := none
  header : Option Chars := none
  value : Option Chars := none
  oauthTokenUrl : Option Chars := none
  oauthClientId : Option Chars := none
  oauthClientSecret : Option Chars := none
  oauthScope : Option Chars := none
  oauthClientAuth : Option Chars := none
  tlsClientCertPath : Option Chars := none
  tlsCaPath : Option Chars := none
deriving DecidableEq, Repr

/-- A variable that is set to more than white space takes the place of what the file says. -/
def EnvVars.overriding (env : EnvVars) (name : Chars) (setting : Option Chars) : Option Chars :=
  match env name with
  | some v => if trimmed v = [] then setting else some (trimmed v)
  | none => setting

namespace ProviderAuthConfig

def isEmpty (config : ProviderAuthConfig) : Bool :=
  config.mode.isNone && config.token.isNone && config.header.isNone && config.value.isNone &&
    config.oauthTokenUrl.isNone && config.oauthClientId.isNone &&
    config.oauthClientSecret.isNone && config.oauthScope.isNone &&
    config.oauthClientAuth.isNone && config.tlsClientCertPath.isNone && config.tlsCaPath.isNone

/-- `apply_env_overrides`. -/
def applyEnvOverrides (config : ProviderAuthConfig) (env : EnvVars) (pre : String) :
    ProviderAuthConfig where
  mode := env.overriding (authVariable pre .mode) config.mode
  token := env.overriding (authVariable pre .token) config.token
  header := env.overriding (authVariable pre .header) config.header
  value := env.overriding (authVariable pre .value) config.value
  oauthTokenUrl := env.overriding (authVariable pre .oauthTokenUrl) config.oauthTokenUrl
  oauthClientId := env.overriding (authVariable pre .oauthClientId) config.oauthClientId
  oauthClientSecret :=
    env.overriding (authVariable pre .oauthClientSecret) config.oauthClientSecret
  oauthScope := env.overriding (authVariable pre .oauthScope) config.oauthScope
  oauthClientAuth := env.overriding (authVariable pre .oauthClientAuth) config.oauthClientAuth
  tlsClientCertPath :=
    env.overriding (authVariable pre .tlsClientCertPath) config.tlsClientCertPath
  tlsCaPath := env.overriding (authVariable pre .tlsCaPath) config.tlsCaPath

def modeStr (config : ProviderAuthConfig) : Chars :=
  toAsciiLowercase (trimmed (config.mode.getD "none".toList))

/-- `filter(|s| !s.is_empty())`. -/
def nonempty (setting : Option Chars) : Option Chars := setting.filter (· ≠ [])

/-- A setting that the mode needs. -/
def required (config : ProviderAuthConfig) (setting : Option Chars) (name : String) :
    Except String String :=
  match nonempty setting with
  | some s => .ok (String.ofList s)
  | none =>
      .error (name ++ " required for provider auth mode '" ++ String.ofList config.modeStr ++ "'")

end ProviderAuthConfig

def OAuth2ClientAuth.parse (value : Chars) : Except String OAuth2ClientAuth :=
  let name := toAsciiLowercase (trimmed value)
  if name = "basic".toList then .ok .basic
  else if name = "body".toList ∨ name = "request_body".toList ∨ name = "post".toList then
    .ok .requestBody
  else
    .error ("unsupported oauth client auth '" ++ String.ofList name ++ "' (expected basic or body)")

/-- `OutboundAuth` as it is configured, the grant of its token source included. -/
inductive ProviderCredential
  | none
  | bearer (token : String)
  | apiKey (header value : String)
  | oauth2 (credentials : OAuth2ClientCredentials)
deriving DecidableEq, Repr

/-- How the client authenticates with it. -/
def ProviderCredential.outbound : ProviderCredential → OutboundAuth
  | .none => .none
  | .bearer token => .bearer token
  | .apiKey header value => .apiKey header value
  | .oauth2 _ => .oauth2

structure TlsConfig where
  clientIdentityPem : Option Bytes
  caBundlePem : Option Bytes
deriving DecidableEq, Repr

/-- Files by their paths. -/
abbrev ReadFile := Chars → Except String Bytes

namespace ProviderAuthConfig

/-- Header used for `api_key` mode when none is configured. -/
def defaultApiKeyHeader : String := "X-API-Key"

/-- Build the outbound credential for this provider. -/
def toOutboundAuth (config : ProviderAuthConfig) : Except String ProviderCredential :=
  let mode := config.modeStr
  if mode = "none".toList ∨ mode = [] then .ok .none
  else if mode = "bearer".toList then do
    return .bearer (← config.required config.token "token")
  else if mode = "api_key".toList ∨ mode = "apikey".toList then do
    let header := (nonempty config.header).elim defaultApiKeyHeader String.ofList
    return .apiKey header (← config.required config.value "value")
  else if mode = "oauth2".toList ∨ mode = "oauth".toList then do
    return .oauth2
      { tokenUrl := ← config.required config.oauthTokenUrl "oauth_token_url"
        clientId := ← config.required config.oauthClientId "oauth_client_id"
        clientSecret := ← config.required config.oauthClientSecret "oauth_client_secret"
        scope := (nonempty config.oauthScope).map String.ofList
        clientAuth := ← (nonempty config.oauthClientAuth).elim (.ok .basic) OAuth2ClientAuth.parse }
  else
    .error ("unsupported provider auth mode '" ++ String.ofList mode ++
      "' (expected none, bearer, api_key, or oauth2)")

/-- The file a setting names, if it names one. -/
def readPem (read : ReadFile) (path : Option Chars) (label : String) :
    Except String (Option Bytes) :=
  match nonempty path with
  | none => .ok none
  | some path =>
      match read path with
      | .ok pem => .ok (some pem)
      | .error e =>
          .error ("read " ++ label ++ " from " ++ String.ofList path ++ ": " ++ e)

/-- Read TLS material from disk. -/
def toTlsConfig (config : ProviderAuthConfig) (read : ReadFile) : Except String TlsConfig := do
  return {
    clientIdentityPem := ← readPem read config.tlsClientCertPath "TLS client certificate"
    caBundlePem := ← readPem read config.tlsCaPath "TLS CA bundle" }

end ProviderAuthConfig

/-! ## All sections -/

/-- The shared section, and one for each provider. -/
structure ProviderAuthSection where
  shared : ProviderAuthConfig := {}
  own : Provider → ProviderAuthConfig := fun _ => {}

namespace ProviderAuthSection

/-- Credentials for one provider: its own section when set, otherwise the shared default. -/
def forProvider (sections : ProviderAuthSection) (p : Provider) : ProviderAuthConfig :=
  if (sections.own p).isEmpty then sections.shared else sections.own p

def applyEnvOverrides (sections : ProviderAuthSection) (env : EnvVars) : ProviderAuthSection where
  shared := sections.shared.applyEnvOverrides env sharedPrefix
  own p := (sections.own p).applyEnvOverrides env p.envPrefix

end ProviderAuthSection

/-! ## One place for each -/

section Isolation

variable {sections : ProviderAuthSection} {env env' : EnvVars} {p : Provider}
  {config : ProviderAuthConfig} {pre : String}

/-- Environments that agree on the variables of a section make the same of it. -/
theorem ProviderAuthConfig.applyEnvOverrides_congr
    (h : ∀ f, env' (authVariable pre f) = env (authVariable pre f)) :
    config.applyEnvOverrides env' pre = config.applyEnvOverrides env pre := by
  simp only [applyEnvOverrides, EnvVars.overriding, h]

/-- The provider has a setting of its own, in the file or in the environment. -/
def ProviderAuthSection.HasOwn (sections : ProviderAuthSection) (env : EnvVars) (p : Provider) :
    Prop :=
  ((sections.applyEnvOverrides env).own p).isEmpty = false

instance : Decidable (sections.HasOwn env p) := inferInstanceAs (Decidable (_ = false))

/-- A variable that is no business of the provider: one of another provider, or a shared one if
the provider has its own. -/
def ProviderAuthSection.Foreign (sections : ProviderAuthSection) (env : EnvVars) (p : Provider)
    (name : Chars) : Prop :=
  (∃ q f, q ≠ p ∧ name = authVariable q.envPrefix f) ∨
    sections.HasOwn env p ∧ ∃ f, name = authVariable sharedPrefix f

theorem EnvVars.set_of_forall {changes : List (Chars × Chars)} {name : Chars}
    (h : ∀ change ∈ changes, change.1 ≠ name) : env.set changes name = env name := by
  induction changes generalizing env with
  | nil => rfl
  | cons change changes ih =>
      obtain ⟨hne, hrest⟩ := List.forall_mem_cons.mp h
      rw [EnvVars.set, List.foldl_cons]
      refine (ih hrest).trans ?_
      exact Function.update_of_ne hne.symm _ _

/-- **Credentials come from one place.**  A provider is called with its own settings if it has
any, and with the shared ones otherwise, never with some of each; and no other settings, in the
file or in the environment, change what it is called with. -/
theorem provider_credentials_isolated (sections sections' : ProviderAuthSection) (env : EnvVars)
    (p : Provider) (changes : List (Chars × Chars)) (hown : sections'.own p = sections.own p)
    (hshared : sections.HasOwn env p ∨ sections'.shared = sections.shared)
    (hchanges : ∀ change ∈ changes, sections.Foreign env p change.1) :
    (sections.applyEnvOverrides env).forProvider p =
        (if sections.HasOwn env p then (sections.own p).applyEnvOverrides env p.envPrefix
        else sections.shared.applyEnvOverrides env sharedPrefix) ∧
      (sections'.applyEnvOverrides (env.set changes)).forProvider p =
        (sections.applyEnvOverrides env).forProvider p := by
  have hsettings : (sections'.applyEnvOverrides (env.set changes)).own p =
      (sections.applyEnvOverrides env).own p := by
    show (sections'.own p).applyEnvOverrides _ _ = _
    rw [hown]
    refine ProviderAuthConfig.applyEnvOverrides_congr fun f => EnvVars.set_of_forall ?_
    intro change hchange heq
    rcases hchanges change hchange with ⟨q, g, hq, hname⟩ | ⟨-, g, hname⟩
    · exact hq (authVariable_injective (hname.symm.trans heq)).1
    · exact authVariable_ne_shared p f g (heq.symm.trans hname)
  by_cases hhas : sections.HasOwn env p
  · have hempty : ¬ ((sections.applyEnvOverrides env).own p).isEmpty = true := by
      rw [hhas]
      exact Bool.false_ne_true
    refine ⟨(if_neg hempty).trans (if_pos hhas).symm, ?_⟩
    rw [ProviderAuthSection.forProvider, ProviderAuthSection.forProvider, hsettings, if_neg hempty,
      if_neg hempty]
  · have hempty : ((sections.applyEnvOverrides env).own p).isEmpty = true :=
      Bool.eq_true_of_not_eq_false hhas
    have hdefault : (sections'.applyEnvOverrides (env.set changes)).shared =
        (sections.applyEnvOverrides env).shared := by
      show sections'.shared.applyEnvOverrides _ _ = _
      rw [hshared.resolve_left hhas]
      refine ProviderAuthConfig.applyEnvOverrides_congr fun f => EnvVars.set_of_forall ?_
      intro change hchange heq
      rcases hchanges change hchange with ⟨q, g, -, hname⟩ | ⟨hown, -⟩
      · exact authVariable_ne_shared q g f (hname.symm.trans heq)
      · exact hhas hown
    refine ⟨(if_pos hempty).trans (if_neg hhas).symm, ?_⟩
    rw [ProviderAuthSection.forProvider, ProviderAuthSection.forProvider, hsettings, if_pos hempty,
      if_pos hempty, hdefault]

end Isolation

/-! A shared credential, and a provider with one of its own. -/

namespace KeyedPayment

def noEnv : EnvVars := fun _ => none

def sections : ProviderAuthSection where
  shared := { mode := some "bearer".toList, token := some "shared".toList }
  own p :=
    if p = .payment then { mode := some "bearer".toList, token := some "payments".toList } else {}

def rotated : ProviderAuthSection := { sections with shared := {} }

def changes : List (Chars × Chars) :=
  [("CATALOG_AUTH_TOKEN".toList, "catalog".toList), ("PROVIDER_AUTH_TOKEN".toList, "new".toList)]

theorem hasOwn : sections.HasOwn noEnv .payment := by decide +kernel

theorem changes_foreign : ∀ change ∈ changes, sections.Foreign noEnv .payment change.1 := by
  intro change hchange
  rcases List.mem_cons.mp hchange with rfl | hchange
  · exact .inl ⟨.catalog, .token, by decide, by decide +kernel⟩
  · obtain rfl := List.mem_singleton.mp hchange
    exact .inr ⟨hasOwn, .token, by decide +kernel⟩

end KeyedPayment

open KeyedPayment in
theorem provider_credentials_isolated_payment :
    (sections.applyEnvOverrides noEnv).forProvider .payment =
        (if sections.HasOwn noEnv .payment then
          (sections.own .payment).applyEnvOverrides noEnv Provider.payment.envPrefix
        else sections.shared.applyEnvOverrides noEnv sharedPrefix) ∧
      (rotated.applyEnvOverrides (noEnv.set changes)).forProvider .payment =
        (sections.applyEnvOverrides noEnv).forProvider .payment :=
  provider_credentials_isolated sections rotated noEnv .payment changes rfl (.inl hasOwn)
    changes_foreign

end Orchestrator
