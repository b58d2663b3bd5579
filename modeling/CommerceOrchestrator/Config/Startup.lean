/-
# `CommerceOrchestrator.Config.Startup` — the process from its start to the first request

The server starts in production or in development.  In production it calls the configured
providers, keeps its data in the database, signs, and lets in who presents the credential that
the configuration names; in development it runs on mocks and lets in everybody.  Which of the
two it is, is decided once, before anything is built, and no later step changes it
(`served_requests_authenticated`).
-/
import CommerceOrchestrator.Api.Orders
import CommerceOrchestrator.Api.SigningRoundTrip
import CommerceOrchestrator.Api.Transports
import CommerceOrchestrator.Config.Server
import CommerceOrchestrator.Effect.Fallible
import CommerceOrchestrator.Text.Json

namespace Orchestrator

open Effect Text

/-! ## Profiles -/

/-- Runtime profile. -/
inductive EnvProfile
  | development
  | production
deriving DecidableEq, Repr

def EnvProfile.fromEnv (env : EnvVars) : EnvProfile :=
  if env.var "ENV" = some "production".toList ∨ env.var "ENV" = some "prod".toList then .production
  else .development

/-- What the process was asked to do. -/
inductive RunMode
  | serve
  | migrateOnly
deriving DecidableEq, Repr

def RunMode.resolve (args : List Chars) (migrateOnlyEnv : Option Chars) : RunMode :=
  let envSet := migrateOnlyEnv.map trimmed
  let flagged := args.any (· = "--migrate".toList)
  if flagged ∨ envSet = some "1".toList ∨ envSet = some "true".toList ∨
      envSet = some "yes".toList then
    .migrateOnly
  else .serve

/-! ## Callers -/

/-- The claims of a token that are read. -/
structure JwtClaims where
  sub : String
  tenantId : String
  scopes : List String
  iss : Option String
deriving DecidableEq, Repr

/-- The claims of a token in date that is signed with the secret. -/
abbrev DecodeJwt := (secret token : Chars) → Option JwtClaims

/-- Resolves a bearer token into an auth context. -/
inductive AuthnResolver
  | staticToken (token : Chars) (context : AuthContext)
  | jwt (secret : Chars) (trustedIssuers : List String)
deriving DecidableEq, Repr

/-- The scope of who has none. -/
def checkoutScope : String := "checkout:execute"

namespace AuthnResolver

/-- `StaticTokenAuthnResolver::new`. -/
def newStatic (token tenantId callerId : Chars) : AuthnResolver :=
  .staticToken token ⟨String.ofList callerId, String.ofList tenantId, [checkoutScope]⟩

/-- Nobody is trusted by name, or the issuer is. -/
def trusts (trustedIssuers : List String) (iss : Option String) : Bool :=
  trustedIssuers.isEmpty || iss.any fun iss => trustedIssuers.any (eqIgnoreAsciiCase · iss)

def claimed (claims : JwtClaims) : AuthContext where
  callerId := claims.sub
  tenantId := claims.tenantId
  scopes := if claims.scopes = [] then [checkoutScope] else claims.scopes

def resolveBearer (decode : DecodeJwt) : AuthnResolver → Chars → Option AuthContext
  | .staticToken expected context, token => if token = expected then some context else none
  | .jwt secret trustedIssuers, token => do
      let claims ← decode secret token
      if trusts trustedIssuers claims.iss then some (claimed claims) else none

end AuthnResolver

/-- The token of an `Authorization` header. -/
def bearerToken (header : Option Chars) : Option Chars :=
  header.bind fun s => ("Bearer ".toList.isPrefixOf? (trimmed s)).map trimmed

/-! ## The server -/

/-- The facade as it is put together: the clients of the providers, with their addresses, and
where the data is.  One without an address for a provider has its mock or goes without. -/
structure FacadeSetup where
  clients : List (Provider × Chars × ProviderClient)
  databaseUrl : Option Chars
  ap2Strict : Bool

def FacadeSetup.supports (setup : FacadeSetup) (p : Provider) : Bool :=
  setup.clients.any (·.1 = p)

/-- Shared state for all request handlers. -/
structure AppState (C : SignatureCrates) where
  facade : FacadeSetup
  authn : Option AuthnResolver := none
  allowDevAuth : Bool := true
  discoveryBaseUrl : Chars := "http://127.0.0.1:8080".toList
  signing : Option (SigningKeyring C) := none
  inboundKeys : Option (VerifyingKeyring C) := none
  embeddedCheckoutUrl : Option Chars := none
  paymentHandlers : List (String × Json) := []

namespace AppState

variable {C : SignatureCrates}

def productionMode (state : AppState C) (production : Bool) : AppState C :=
  { state with allowDevAuth := !production }

end AppState

def devAuthContext : AuthContext := ⟨"dev", "dev", [checkoutScope]⟩

/-- `AuthContextExtractor`: who the request comes from. -/
def AppState.authContext {C : SignatureCrates} (decode : DecodeJwt) (state : AppState C)
    (header : Option Chars) : Except ApiError AuthContext :=
  match state.authn with
  | none => if state.allowDevAuth then .ok devAuthContext else .error .unauthorized
  | some resolver =>
      match (bearerToken header).bind (resolver.resolveBearer decode) with
      | some context => .ok context
      | none => .error .unauthorized

/-! ## Payment handlers -/

/-- UCP's reverse-domain name: two or more dot-separated lowercase segments. -/
def isReverseDomainName (name : Chars) : Bool :=
  let segments := name.splitOn '.'
  let starts (i : Nat) (segment : Chars) :=
    segment.head?.any fun c => c.isLower || (decide (0 < i) && c.isDigit)
  decide (2 ≤ segments.length) && segments.zipIdx.all fun segment =>
    starts segment.2 segment.1 && !(segment.1.getLast? == some '-') &&
      segment.1.all fun c =>
        c.isLower || c.isDigit || c == '-' || (decide (0 < segment.2) && c == '_')

/-- `YYYY-MM-DD`, as far as digits go. -/
def isDatedVersion (version : Chars) : Bool :=
  decide (version.length = 10) && version.zipIdx.all fun b =>
    if b.2 = 4 ∨ b.2 = 7 then b.1 == '-' else b.1.isDigit

/-- What is wrong with an entry of a handler. -/
def checkEntry (name : String) (entry : Json) : Except String Unit :=
  if ((entry.get "id").bind Json.asStr).isNone then
    .error ("every '" ++ name ++ "' entry needs an id")
  else if ¬ ((entry.get "version").bind Json.asStr).any fun v => isDatedVersion v.toList then
    .error ("every '" ++ name ++ "' entry needs a YYYY-MM-DD version")
  else .ok ()

def checkHandler (handler : String × Json) : Except String Unit :=
  if ¬ isReverseDomainName handler.1.toList then
    .error ("handler name '" ++ handler.1 ++ "' must be reverse-DNS, e.g. com.example.tokenizer")
  else
    match handler.2.asArray with
    | none => .error ("'" ++ handler.1 ++ "' must map to an array of entries")
    | some entries => entries.forM (checkEntry handler.1)

/-- Parse and check the configured payment handler registry. -/
def ServerSection.paymentHandlers (parseJson : Chars → Except String Json)
    (server : ServerSection) : Except String (List (String × Json)) :=
  match server.ucpPaymentHandlers.filter fun s => trimmed s ≠ [] with
  | none => .ok []
  | some raw =>
      (do
        match ← parseJson raw with
        | .object registry => do
            registry.forM checkHandler
            return registry
        | _ => .error "must be an object keyed by handler name").mapError
          fun reason => "UCP_PAYMENT_HANDLERS: " ++ reason

/-! ## From the start -/

/-- What the start calls that is not in the source. -/
structure Services (C : SignatureCrates) where
  buildClient : ProviderClient → Except String Unit
  connect : (databaseUrl : Chars) → Except String Unit
  migrate : (databaseUrl : Chars) → Except String Unit
  parseJson : Chars → Except String Json
  parseUrl : Chars → Except String Unit
  parseAddr : Chars → Except String Unit
  readJwks : Chars → Except String (List SigningKeyDescriptor)
  decodeJwt : DecodeJwt

/-- What became of the start. -/
inductive Started (C : SignatureCrates)
  | migrated
  | serving (state : AppState C) (addr : Chars)

/-- The profile's part of the server. -/
structure Assembly (C : SignatureCrates) where
  facade : FacadeSetup
  authn : Option AuthnResolver
  discoveryBaseUrl : Chars
  signing : Option (SigningKeyring C)

section Start

variable {C : SignatureCrates} (services : Services C) (host : Host)

def ap2Strict : Bool :=
  decide (host.env.var "AP2_STRICT" ∈ [some "1".toList, some "true".toList, some "yes".toList])

/-- The name of an adapter in messages. -/
def Provider.title (p : Provider) : String :=
  String.ofList (p.label.toList.map fun c => if c = '_' then ' ' else c)

/-- `<Provider>HttpAdapter::new`. -/
def adapter (prod : ProductionConfig C) (p : Provider) (baseUrl : Chars) :
    Except String (Provider × Chars × ProviderClient) := do
  let client ← prod.clientConfigFor host.read p
  (services.buildClient client).mapError fun e => p.title ++ " adapter: " ++ e
  return (p, baseUrl, client)

/-- The adapter of a provider that is not always there. -/
def optionalAdapter (prod : ProductionConfig C) (p : Provider) (baseUrl : Option Chars) :
    Except String (List (Provider × Chars × ProviderClient)) :=
  baseUrl.elim (.ok []) fun url => (adapter services host prod p url).map fun client => [client]

/-- The issuers between commas. -/
def ProductionConfig.issuers (prod : ProductionConfig C) : List String :=
  (splitPairs prod.trustedIssuers).map String.ofList

def ProductionConfig.authnResolver (prod : ProductionConfig C) : AuthnResolver :=
  if prod.authMode = "jwt".toList then .jwt prod.authToken prod.issuers
  else .newStatic prod.authToken prod.authTenantId prod.authCallerId

/-- Validate, build the clients, connect. -/
def assembleProduction (config : ServerConfig) : Except String (Assembly C) := do
  let prod ← (config.requireProduction C host.read).mapError fun e => "production config: " ++ e
  let catalog ← adapter services host prod .catalog prod.components.catalogBaseUrl
  let pricing ← adapter services host prod .pricing prod.components.pricingBaseUrl
  let tax ← adapter services host prod .tax prod.components.taxBaseUrl
  let geo ← adapter services host prod .geo prod.components.geoBaseUrl
  let payment ← adapter services host prod .payment prod.components.paymentBaseUrl
  let receipt ← adapter services host prod .receipt prod.components.receiptBaseUrl
  (services.connect prod.databaseUrl).mapError fun e => "postgres facade: " ++ e
  let fulfillment ←
    optionalAdapter services host prod .fulfillment prod.components.fulfillmentBaseUrl
  let delegation ←
    optionalAdapter services host prod .paymentDelegation prod.components.paymentDelegationBaseUrl
  let identity ←
    optionalAdapter services host prod .identityLink prod.components.identityLinkBaseUrl
  return {
    facade :=
      { clients := [catalog, pricing, tax, geo, payment, receipt] ++ fulfillment ++ delegation ++
          identity
        databaseUrl := some prod.databaseUrl
        ap2Strict := ap2Strict host }
    authn := some prod.authnResolver
    discoveryBaseUrl := prod.publicBaseUrl
    signing := some prod.signing }

/-- The text after the last colon. -/
def port (bindAddr : Chars) : Chars := bindAddr.rtakeWhile (· ≠ ':')

/-- Mocks, in memory. -/
def assembleDevelopment (config : ServerConfig) : Except String (Assembly C) := do
  let signing ← (config.signing.toKeyring C).mapError fun e => "signing config: " ++ e
  return {
    facade := { clients := [], databaseUrl := none, ap2Strict := ap2Strict host }
    authn := none
    discoveryBaseUrl := (ProviderAuthConfig.nonempty config.server.publicBaseUrl).getD
      ("http://127.0.0.1:".toList ++ port config.server.bindAddr)
    signing }

def assemble (config : ServerConfig) : EnvProfile → Except String (Assembly C)
  | .production => assembleProduction services host config
  | .development => assembleDevelopment host config

/-- The state that the server runs with. -/
def appState (config : ServerConfig) (production : Bool) (assembly : Assembly C) :
    Except String (AppState C) := do
  let state : AppState C :=
    { ({ facade := assembly.facade } : AppState C).productionMode production with
      discoveryBaseUrl := assembly.discoveryBaseUrl
      authn := assembly.authn }
  let handlers ← config.server.paymentHandlers services.parseJson
  config.server.embeddedCheckoutUrl.elim (.ok ()) fun url =>
    (services.parseUrl url).mapError fun e => "EMBEDDED_CHECKOUT_URL: " ++ e
  let inboundKeys ← (config.signing.toVerifyingKeyring C services.readJwks).mapError
    fun e => "agent signing keys: " ++ e
  return { state with
    paymentHandlers := handlers
    embeddedCheckoutUrl := config.server.embeddedCheckoutUrl
    signing := assembly.signing
    inboundKeys }

/-- Apply pending migrations. -/
def migrateOnly (config : ServerConfig) : Except String (Started C) := do
  let databaseUrl ← demanded config.persistence.databaseUrl
    "DATABASE_URL (or persistence.database_url) required to run migrations"
  (services.migrate databaseUrl).mapError fun e => "migrations: " ++ e
  return .migrated

/-- `main`, until it serves or has failed. -/
def startUp : Except String (Started C) := do
  let profile := EnvProfile.fromEnv host.env
  let config ← (ServerConfig.load host (defaultConfigPath host)).mapError fun e => "config: " ++ e
  match RunMode.resolve host.args (host.env.var "MIGRATE_ONLY") with
  | .migrateOnly => migrateOnly services config
  | .serve => do
      let assembly ← assemble services host config profile
      let state ← appState services config (decide (profile = .production)) assembly
      services.parseAddr config.server.bindAddr
      return .serving state config.server.bindAddr

end Start

/-! ## Who is let in, and who is called -/

/-- The token is a credential that the configuration names, and this is whose. -/
def ServerConfig.Admits (config : ServerConfig) (decode : DecodeJwt) (token : Chars)
    (context : AuthContext) : Prop :=
  if config.authMode = "jwt".toList then
    ∃ secret claims, config.auth.jwtHs256Secret = some secret ∧ secret ≠ [] ∧
      decode secret token = some claims ∧
      (splitPairs (config.auth.trustedIssuers.getD []) = [] ∨
        ∃ iss, claims.iss = some iss ∧
          ∃ trusted ∈ splitPairs (config.auth.trustedIssuers.getD []),
            eqIgnoreAsciiCase (String.ofList trusted) iss = true) ∧
      context = AuthnResolver.claimed claims
  else
    config.auth.bearerToken = some token ∧ token ≠ [] ∧
      context.callerId = String.ofList (config.auth.callerId.getD "prod".toList) ∧
      context.tenantId = String.ofList (config.auth.tenantId.getD "prod".toList) ∧
      context.scopes = [checkoutScope]

/-- The address of a provider, if one is configured. -/
def ComponentsConfig.baseUrl (config : ComponentsConfig) : Provider → Option Chars
  | .catalog => config.catalogBaseUrl
  | .pricing => config.pricingBaseUrl
  | .tax => config.taxBaseUrl
  | .geo => config.geoBaseUrl
  | .payment => config.paymentBaseUrl
  | .receipt => config.receiptBaseUrl
  | .fulfillment => config.fulfillmentBaseUrl
  | .paymentDelegation => config.paymentDelegationBaseUrl
  | .identityLink => config.identityLinkBaseUrl

/-- The client carries the credentials and the certificates of the provider's section, and a
breaker of its own that has seen no call. -/
structure ProviderClient.BelongsTo (client : ProviderClient) (config : ServerConfig)
    (read : ReadFile) (p : Provider) : Prop where
  auth : (config.providerAuth.forProvider p).toOutboundAuth = .ok client.auth
  tls : (config.providerAuth.forProvider p).toTlsConfig read = .ok client.tls
  breaker : client.circuitBreaker = .new p.label config.httpClient.circuitBreaker.toConfig

/-- A client of the facade with its address, as `main` builds it. -/
abbrev CalledAt := Provider × Chars × ProviderClient

def CalledAt.place (entry : CalledAt) : Provider × Chars := (entry.1, entry.2.1)

section Served

variable {C : SignatureCrates} {services : Services C} {host : Host} {config : ServerConfig}
  {prod : ProductionConfig C} {state : AppState C} {assembly : Assembly C} {addr : Chars}
  {p : Provider}

theorem demanded_eq_ok {setting : Option Chars} {message : String} {v : Chars} :
    demanded setting message = .ok v ↔ setting = some v ∧ v ≠ [] := by
  rw [demanded, elim_eq_ok, ProviderAuthConfig.nonempty, Option.filter_eq_some_iff,
    decide_eq_true_eq]

theorem trusts_eq_true {trusted : List Chars} {iss : Option String} :
    AuthnResolver.trusts (trusted.map String.ofList) iss = true ↔
      trusted = [] ∨ ∃ i, iss = some i ∧
        ∃ t ∈ trusted, eqIgnoreAsciiCase (String.ofList t) i = true := by
  rw [AuthnResolver.trusts, Bool.or_eq_true, List.isEmpty_iff, List.map_eq_nil_iff]
  cases iss <;> simp

/-- What the production check has seen to. -/
structure ServerConfig.Validated (config : ServerConfig) (read : ReadFile)
    (prod : ProductionConfig C) : Prop where
  secret : config.authSecret = .ok prod.authToken
  components : config.components.requireAll = .ok prod.components
  checked : ∀ p, config.checkProvider read p = .ok ()
  authMode : prod.authMode = config.authMode
  issuers : prod.trustedIssuers = config.auth.trustedIssuers.getD []
  tenant : prod.authTenantId = config.auth.tenantId.getD "prod".toList
  caller : prod.authCallerId = config.auth.callerId.getD "prod".toList
  httpClient : prod.httpClient = config.httpClient
  providerAuth : prod.providerAuth = config.providerAuth

theorem requireProduction_ok (h : config.requireProduction C host.read = .ok prod) :
    config.Validated host.read prod := by
  simp only [ServerConfig.requireProduction, bind_eq_ok] at h
  obtain ⟨_, -, _, -, secret, hsecret, components, hcomponents, _, hall, _, -, _, -, hprod⟩ := h
  cases hprod
  exact {
    secret := hsecret
    components := hcomponents
    checked := fun p => forM_eq_ok.mp hall p p.mem_all
    authMode := rfl
    issuers := rfl
    tenant := rfl
    caller := rfl
    httpClient := rfl
    providerAuth := rfl }

/-- A resolver that was built from a validated configuration lets in whom that names. -/
theorem authnResolver_admits {decode : DecodeJwt} {token : Chars} {context : AuthContext}
    (h : config.requireProduction C host.read = .ok prod) :
    prod.authnResolver.resolveBearer decode token = some context ↔
      config.Admits decode token context := by
  have hvalid := requireProduction_ok h
  have hsecret := hvalid.secret
  rw [ProductionConfig.authnResolver, hvalid.authMode, ServerConfig.Admits]
  rw [ServerConfig.authSecret] at hsecret
  split at hsecret
  · next hjwt =>
      obtain ⟨hset, hne⟩ := demanded_eq_ok.mp hsecret
      rw [if_pos hjwt, if_pos hjwt, AuthnResolver.resolveBearer, Option.bind_eq_bind,
        Option.bind_eq_some_iff, ProductionConfig.issuers, hvalid.issuers]
      constructor
      · rintro ⟨claims, hdecode, h⟩
        obtain ⟨htrusted, hcontext⟩ := Option.ite_none_right_eq_some.mp h
        exact ⟨_, claims, hset, hne, hdecode, trusts_eq_true.mp htrusted,
          (Option.some.inj hcontext).symm⟩
      · rintro ⟨secret, claims, hsecret, -, hdecode, htrusted, rfl⟩
        obtain rfl := Option.some.inj (hset.symm.trans hsecret)
        exact ⟨claims, hdecode, if_pos (trusts_eq_true.mpr htrusted)⟩
  · next hstatic =>
      obtain ⟨hset, hne⟩ := demanded_eq_ok.mp hsecret
      rw [if_neg hstatic, if_neg hstatic, hset, AuthnResolver.newStatic,
        AuthnResolver.resolveBearer, Option.ite_none_right_eq_some, Option.some.injEq,
        hvalid.caller, hvalid.tenant, Option.some.injEq]
      constructor
      · rintro ⟨rfl, rfl⟩
        exact ⟨rfl, hne, rfl, rfl, rfl⟩
      · rintro ⟨rfl, -, hid, hof, hscopes⟩
        refine ⟨rfl, ?_⟩
        rw [← hid, ← hof, ← hscopes]

theorem adapter_ok {url : Chars} {entry : CalledAt} (h : adapter services host prod p url = .ok entry) :
    entry.place = (p, url) ∧ prod.clientConfigFor host.read entry.1 = .ok entry.2.2 := by
  simp only [adapter, bind_eq_ok] at h
  obtain ⟨client, hclient, _, -, h⟩ := h
  cases h
  exact ⟨rfl, hclient⟩

theorem optionalAdapter_ok {url : Option Chars} {entries : List CalledAt}
    (h : optionalAdapter services host prod p url = .ok entries) :
    entries.map CalledAt.place = (url.map (p, ·)).toList ∧
      ∀ entry ∈ entries, prod.clientConfigFor host.read entry.1 = .ok entry.2.2 := by
  cases url with
  | none =>
      cases h
      exact ⟨rfl, fun entry he => absurd he List.not_mem_nil⟩
  | some url =>
      rw [optionalAdapter, Option.elim_some] at h
      cases hadapter : adapter services host prod p url with
      | error e =>
          rw [hadapter] at h
          cases h
      | ok entry =>
          rw [hadapter] at h
          cases h
          obtain ⟨hplace, hclient⟩ := adapter_ok hadapter
          exact ⟨congrArg (· :: []) hplace, fun _ he => List.mem_singleton.mp he ▸ hclient⟩

/-- The addresses that were resolved are those that are configured. -/
theorem requireAll_ok {config : ComponentsConfig} {resolved : ResolvedComponents}
    (h : config.requireAll = .ok resolved) :
    (Provider.all.filterMap fun p => (ProviderAuthConfig.nonempty (config.baseUrl p)).map (p, ·)) =
      [(.catalog, resolved.catalogBaseUrl), (.pricing, resolved.pricingBaseUrl),
        (.tax, resolved.taxBaseUrl), (.geo, resolved.geoBaseUrl),
        (.payment, resolved.paymentBaseUrl), (.receipt, resolved.receiptBaseUrl)] ++
        (resolved.fulfillmentBaseUrl.map (Provider.fulfillment, ·)).toList ++
        (resolved.paymentDelegationBaseUrl.map (Provider.paymentDelegation, ·)).toList ++
        (resolved.identityLinkBaseUrl.map (Provider.identityLink, ·)).toList := by
  simp only [ComponentsConfig.requireAll, bind_eq_ok, demanded, elim_eq_ok] at h
  obtain ⟨_, hcatalog, _, hpricing, _, htax, _, hgeo, _, hpayment, _, hreceipt, h⟩ := h
  cases h
  simp only [Provider.all, List.filterMap_cons, ComponentsConfig.baseUrl, hcatalog, hpricing, htax,
    hgeo, hpayment, hreceipt, Option.map_some, List.filterMap_nil]
  cases ProviderAuthConfig.nonempty config.fulfillmentBaseUrl <;>
    cases ProviderAuthConfig.nonempty config.paymentDelegationBaseUrl <;>
    cases ProviderAuthConfig.nonempty config.identityLinkBaseUrl <;> rfl

/-- The client of a provider is made of its own section. -/
theorem clientConfigFor_belongs {client : ProviderClient}
    (hready : config.requireProduction C host.read = .ok prod)
    (h : prod.clientConfigFor host.read p = .ok client) : client.BelongsTo config host.read p := by
  have hvalid := requireProduction_ok hready
  simp only [ProductionConfig.clientConfigFor, Provider.blame, mapError_eq_ok,
    HttpClientConfig.toClientConfigWithAuth, bind_eq_ok, hvalid.httpClient,
    hvalid.providerAuth] at h
  obtain ⟨_, hcredential, _, htls, h⟩ := h
  cases h
  exact ⟨hcredential, htls, rfl⟩

/-- What validation has accepted, a client can be made of. -/
theorem clientConfigFor_ok (hready : config.requireProduction C host.read = .ok prod)
    (p : Provider) : ∃ client, prod.clientConfigFor host.read p = .ok client := by
  have hvalid := requireProduction_ok hready
  have hp := hvalid.checked p
  simp only [ServerConfig.checkProvider, Provider.blame, mapError_eq_ok, bind_eq_ok] at hp
  obtain ⟨auth, hcredential, tls, htls, -⟩ := hp
  simp only [ProductionConfig.clientConfigFor, Provider.blame, mapError_eq_ok,
    HttpClientConfig.toClientConfigWithAuth, bind_eq_ok, hvalid.httpClient, hvalid.providerAuth]
  exact ⟨_, auth, hcredential, tls, htls, rfl⟩

/-- What the production part of a server is made of. -/
structure Assembly.InProduction (assembly : Assembly C) (host : Host) (config : ServerConfig)
    (prod : ProductionConfig C) : Prop where
  ready : config.requireProduction C host.read = .ok prod
  authn : assembly.authn = some prod.authnResolver
  signing : assembly.signing = some prod.signing
  database : assembly.facade.databaseUrl = some prod.databaseUrl
  places : assembly.facade.clients.map CalledAt.place = (Provider.all.filterMap fun p =>
    (ProviderAuthConfig.nonempty (config.components.baseUrl p)).map (p, ·))
  belongs : ∀ entry ∈ assembly.facade.clients, entry.2.2.BelongsTo config host.read entry.1

theorem assembleProduction_ok (h : assembleProduction services host config = .ok assembly) :
    ∃ prod, assembly.InProduction host config prod := by
  simp only [assembleProduction, bind_eq_ok, mapError_eq_ok] at h
  obtain ⟨prod, hready, catalog, hcatalog, pricing, hpricing, tax, htax, geo, hgeo, payment,
    hpayment, receipt, hreceipt, _, -, fulfillment, hfulfillment, delegation, hdelegation, identity,
    hidentity, h⟩ := h
  cases h
  obtain ⟨pcatalog, ccatalog⟩ := adapter_ok hcatalog
  obtain ⟨ppricing, cpricing⟩ := adapter_ok hpricing
  obtain ⟨ptax, ctax⟩ := adapter_ok htax
  obtain ⟨pgeo, cgeo⟩ := adapter_ok hgeo
  obtain ⟨ppayment, cpayment⟩ := adapter_ok hpayment
  obtain ⟨preceipt, creceipt⟩ := adapter_ok hreceipt
  obtain ⟨pfulfillment, cfulfillment⟩ := optionalAdapter_ok hfulfillment
  obtain ⟨pdelegation, cdelegation⟩ := optionalAdapter_ok hdelegation
  obtain ⟨pidentity, cidentity⟩ := optionalAdapter_ok hidentity
  refine ⟨prod, hready, rfl, rfl, rfl, ?_, fun entry he => clientConfigFor_belongs hready ?_⟩
  · rw [requireAll_ok (requireProduction_ok hready).components]
    simp only [List.map_append, List.map_cons, List.map_nil, pcatalog, ppricing, ptax, pgeo,
      ppayment, preceipt, pfulfillment, pdelegation, pidentity]
  · simp only [List.mem_append, List.mem_cons, List.not_mem_nil, or_false] at he
    rcases he with ((he | he) | he) | he
    · rcases he with rfl | rfl | rfl | rfl | rfl | rfl <;> assumption
    · exact cfulfillment entry he
    · exact cdelegation entry he
    · exact cidentity entry he

/-- What the state keeps of the assembly. -/
theorem appState_ok {production : Bool} (h : appState services config production assembly = .ok state) :
    state.facade = assembly.facade ∧ state.authn = assembly.authn ∧
      state.signing = assembly.signing ∧ state.allowDevAuth = (!production) ∧
      state.embeddedCheckoutUrl = config.server.embeddedCheckoutUrl := by
  simp only [appState, bind_eq_ok] at h
  obtain ⟨_, -, _, -, _, -, hstate⟩ := h
  cases hstate
  exact ⟨rfl, rfl, rfl, rfl, rfl⟩

/-- A server that serves got its state from the part of its profile. -/
theorem startUp_serving (h : startUp services host = .ok (.serving state addr)) :
    ∃ config assembly, ServerConfig.load host (defaultConfigPath host) = .ok config ∧
      assemble services host config (EnvProfile.fromEnv host.env) = .ok assembly ∧
      appState services config (decide (EnvProfile.fromEnv host.env = .production)) assembly =
        .ok state ∧
      addr = config.server.bindAddr ∧ services.parseAddr addr = .ok () := by
  simp only [startUp, bind_eq_ok, mapError_eq_ok] at h
  obtain ⟨config, hload, h⟩ := h
  split at h
  · simp only [migrateOnly, bind_eq_ok] at h
    obtain ⟨_, -, _, -, h⟩ := h
    cases h
  · simp only [bind_eq_ok] at h
    obtain ⟨assembly, hassembly, _, hstate, _, haddr, h⟩ := h
    cases h
    exact ⟨config, assembly, hload, hassembly, hstate, rfl, haddr⟩

/-- Without a file there is no address to fall back on: the one that is served is that of
`BIND_ADDR`, or blank. -/
theorem served_address (h : startUp services host = .ok (.serving state addr))
    (hfile : (defaultConfigPath host).filter host.exists_ = none) :
    addr = host.env.overridingText "BIND_ADDR" [] := by
  obtain ⟨config, -, hload, -, -, haddr, -⟩ := startUp_serving h
  rw [ServerConfig.load, ServerConfig.fromFile, hfile] at hload
  cases hload
  exact haddr

/-- **In production nobody comes in without a credential.**  A server that runs in production
signs, keeps its data in the database, and takes a request for that of the caller whose credential
the configuration names, and no other; one in development calls no provider and takes every request
for that of the developer. -/
theorem served_requests_authenticated (h : startUp services host = .ok (.serving state addr)) :
    ∃ config, ServerConfig.load host (defaultConfigPath host) = .ok config ∧
      (EnvProfile.fromEnv host.env = .production →
        state.signing.isSome = true ∧ state.facade.databaseUrl.isSome = true ∧
          ∀ header context, state.authContext services.decodeJwt header = .ok context ↔
            ∃ token, bearerToken header = some token ∧
              config.Admits services.decodeJwt token context) ∧
      (EnvProfile.fromEnv host.env = .development →
        state.facade.clients = [] ∧ state.facade.databaseUrl = none ∧
          ∀ header, state.authContext services.decodeJwt header = .ok devAuthContext) := by
  obtain ⟨config, assembly, hload, hassembly, hstate, -, -⟩ := startUp_serving h
  obtain ⟨hfacade, hauthn, hsigning, hdev, -⟩ := appState_ok hstate
  refine ⟨config, hload, fun hprofile => ?_, fun hprofile => ?_⟩
  · rw [hprofile] at hassembly
    obtain ⟨prod, hprod⟩ := assembleProduction_ok hassembly
    refine ⟨?_, ?_, fun header context => ?_⟩
    · rw [hsigning, hprod.signing, Option.isSome_some]
    · rw [hfacade, hprod.database, Option.isSome_some]
    · simp only [AppState.authContext, hauthn, hprod.authn]
      rw [← Option.bind_eq_some_iff.trans (exists_congr fun token =>
        and_congr_right fun _ => authnResolver_admits hprod.ready)]
      cases (bearerToken header).bind
        (prod.authnResolver.resolveBearer services.decodeJwt) <;> simp
  · simp only [hprofile, assemble, assembleDevelopment, bind_eq_ok] at hassembly
    obtain ⟨_, -, hassembly⟩ := hassembly
    cases hassembly
    refine ⟨by rw [hfacade], by rw [hfacade], fun header => ?_⟩
    simp only [AppState.authContext, hauthn, hdev, hprofile]
    rfl

end Served

/-! A shop in production, with the settings that it cannot do without. -/

namespace SampleShop

def settings : List (String × String) :=
  [("ENV", "production"), ("BIND_ADDR", "0.0.0.0:8080"),
    ("PUBLIC_BASE_URL", "https://shop.example.com"), ("DATABASE_URL", "postgres://db/shop"),
    ("AUTH_BEARER_TOKEN", "s3cret"), ("CATALOG_BASE_URL", "https://catalog.example.com"),
    ("PRICING_BASE_URL", "https://pricing.example.com"), ("TAX_BASE_URL", "https://tax.example.com"),
    ("GEO_BASE_URL", "https://geo.example.com"), ("PAYMENT_BASE_URL", "https://pay.example.com"),
    ("RECEIPT_BASE_URL", "https://receipt.example.com"), ("PAYMENT_AUTH_MODE", "bearer"),
    ("PAYMENT_AUTH_TOKEN", "psp"), ("UCP_SIGNING_KEY_ID", "orch-2026-a"),
    ("UCP_SIGNING_KEY", "AAECAwQFBgcICQoLDA0ODxAREhMUFRYXGBkaGxwdHh8=")]

def host : Host where
  env name := (settings.find? (·.1.toList = name)).map (·.2.toList)
  args := []
  standardConfig := none
  exists_ _ := false
  read _ := .error "no such file"
  readToString _ := .error "no such file"
  parseConfig _ := .error "no such file"

def services : Services AgentMessage.crates where
  buildClient _ := .ok ()
  connect _ := .ok ()
  migrate _ := .ok ()
  parseJson _ := .ok (.object [])
  parseUrl _ := .ok ()
  parseAddr addr := if addr = [] then .error "invalid socket address syntax" else .ok ()
  readJwks _ := .ok []
  decodeJwt _ _ := none

def serves : Except String (Started AgentMessage.crates) → Bool
  | .ok (.serving _ _) => true
  | _ => false

theorem serves_iff {started : Except String (Started AgentMessage.crates)}
    (h : serves started = true) : ∃ state addr, started = .ok (.serving state addr) := by
  unfold serves at h
  split at h
  · exact ⟨_, _, rfl⟩
  · cases h

theorem started : ∃ state addr, startUp services host = .ok (.serving state addr) :=
  serves_iff (by decide +kernel)

theorem production : EnvProfile.fromEnv host.env = .production := by decide +kernel

end SampleShop

open SampleShop in
theorem served_requests_authenticated_shop : ∃ state addr config,
    startUp services host = .ok (.serving state addr) ∧
      ServerConfig.load host (defaultConfigPath host) = .ok config ∧
      state.signing.isSome = true ∧ state.facade.databaseUrl.isSome = true ∧
        ∀ header context, state.authContext services.decodeJwt header = .ok context ↔
          ∃ token, bearerToken header = some token ∧
            config.Admits services.decodeJwt token context := by
  obtain ⟨state, addr, h⟩ := started
  obtain ⟨config, hload, hproduction, -⟩ := served_requests_authenticated h
  exact ⟨state, addr, config, h, hload, hproduction production⟩

section Called

variable {C : SignatureCrates} {services : Services C} {host : Host} {config : ServerConfig}
  {prod : ProductionConfig C} {state : AppState C} {assembly : Assembly C} {addr : Chars}
  {p : Provider}

/-- **Every provider is called at its own address with its own credentials.**  The clients of a
server in production are those of the providers that an address is configured for, each one once,
and what a client presents is of the section of its provider. -/
theorem served_clients_own (h : startUp services host = .ok (.serving state addr))
    (hprofile : EnvProfile.fromEnv host.env = .production) :
    ∃ config, ServerConfig.load host (defaultConfigPath host) = .ok config ∧
      state.facade.clients.map CalledAt.place = (Provider.all.filterMap fun p =>
        (ProviderAuthConfig.nonempty (config.components.baseUrl p)).map (p, ·)) ∧
      ∀ entry ∈ state.facade.clients, entry.2.2.BelongsTo config host.read entry.1 := by
  obtain ⟨config, assembly, hload, hassembly, hstate, -, -⟩ := startUp_serving h
  rw [hprofile] at hassembly
  rw [(appState_ok hstate).1]
  obtain ⟨prod, hprod⟩ := assembleProduction_ok hassembly
  exact ⟨config, hload, hprod.places, hprod.belongs⟩

end Called

open SampleShop in
theorem served_clients_own_shop : ∃ state addr config,
    startUp services host = .ok (.serving state addr) ∧
      state.facade.clients.map CalledAt.place = (Provider.all.filterMap fun p =>
        (ProviderAuthConfig.nonempty (config.components.baseUrl p)).map (p, ·)) ∧
      ∀ entry ∈ state.facade.clients, entry.2.2.BelongsTo config host.read entry.1 := by
  obtain ⟨state, addr, h⟩ := started
  obtain ⟨config, -, hclients⟩ := served_clients_own h production
  exact ⟨state, addr, config, h, hclients⟩

end Orchestrator
