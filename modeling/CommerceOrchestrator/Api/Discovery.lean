/-
# `CommerceOrchestrator.Api.Discovery` — what a deployment says it can do

Agents find the server through documents that anybody can read.  They are built from what this
deployment has, so that nothing is told of that is not wired up: the two profiles in use list the
embedded checkout, identity linking and the keys exactly if they are there, and with them the
configuration (`served_discovery`).  The profiles of the older versions are not built so: they
show no key, and claim identity linking whatever there is.
-/
import CommerceOrchestrator.Api.AcpComplete
import CommerceOrchestrator.Api.EmbeddedLinks
import CommerceOrchestrator.Api.McpTools
import CommerceOrchestrator.Config.Startup

namespace Orchestrator

open Text

/-! ## Documents -/

structure UcpServiceBinding where
  version : String
  spec : String
  transport : String
  schema : Option String
  endpoint : Option Chars
deriving DecidableEq, Repr

structure UcpCapabilityBinding where
  version : String
  spec : String
  schema : String
  extends_ : Option (List String)
deriving DecidableEq, Repr

structure CapabilityDescriptor where
  id : String
  version : String
  extends_ : Option String
deriving DecidableEq, Repr

structure ServiceDescriptor where
  version : String
  specUrl : Option String
deriving DecidableEq, Repr

structure CapabilityManifest where
  version : String
  services : List (String × ServiceDescriptor)
  capabilities : List CapabilityDescriptor
deriving DecidableEq, Repr

def CapabilityManifest.forVersion (version : String) : CapabilityManifest where
  version := version
  services :=
    [("shopping", ⟨version, some "https://ucp.dev/specs/shopping"⟩),
      ("identity", ⟨version, some "https://ucp.dev/specs/identity-linking"⟩)]
  capabilities :=
    [⟨"dev.ucp.shopping.checkout", version, none⟩,
      ⟨"dev.ucp.shopping.discount", version, some "dev.ucp.shopping.checkout"⟩,
      ⟨"dev.ucp.shopping.fulfillment", version, some "dev.ucp.shopping.checkout"⟩,
      ⟨"dev.ucp.identity.linking", version, none⟩]

/-- What this particular deployment can actually do. -/
structure AdvertisedCapabilities where
  signingKeys : List SigningKeyDescriptor
  identityLinking : Bool
  embeddedCheckout : Bool
  paymentHandlers : List (String × Json)

structure UcpSection where
  version : String
  supportedVersions : Option (List (String × Chars)) := none
  services : Option (List (String × List UcpServiceBinding)) := none
  capabilities : Option (List (String × List UcpCapabilityBinding)) := none
  manifest : Option CapabilityManifest := none
  restEndpoint : Option Chars := none
  mcpEndpoint : Option Chars := none
  capabilityFlags : Option (List (String × Bool)) := none
  signingKeys : Option (List SigningKeyDescriptor) := none
  paymentHandlers : Option Json := none
  mcpSupportedVersions : Option (List String) := none
  a2aProfileVersion : Option String := none
  ap2ProtocolVersion : Option String := none
  acpApiVersion : Option String := none

/-- Discovery hints outside UCP core. -/
structure OrchestratorExtensions where
  mcpEndpoint : Chars
  mcpSupportedVersions : List String
  a2aProfileVersion : String
  ap2ProtocolVersion : String
  acpApiVersion : String
  acpDiscovery : Chars
  a2aAgentCard : Chars
  capabilityFlags : List (String × Bool)

structure WellKnownUcp where
  ucp : UcpSection
  keys : Option (List SigningKeyDescriptor)
  orchestrator : Option OrchestratorExtensions

/-! ## Profiles -/

def ucpPreviousVersion : String := "2026-04-08"

def specUrl (version slug : String) : String :=
  "https://ucp.dev/" ++ version ++ "/specification/" ++ slug

def capability (version specSlug schemaPath : String) (extends_ : Option (List String)) :
    UcpCapabilityBinding where
  version := version
  spec := specUrl version specSlug
  schema := "https://ucp.dev/" ++ version ++ "/schemas/" ++ schemaPath
  extends_ := extends_

/-- Specification page slugs per capability. -/
structure SpecSlugs where
  checkout : String
  cart : String
  catalogLookup : String
  catalogSearch : String
  order : String
  discount : String
  fulfillment : String
  identityLinking : String

def latestSlugs : SpecSlugs where
  checkout := "shopping/checkout"
  cart := "shopping/cart"
  catalogLookup := "shopping/catalog/lookup"
  catalogSearch := "shopping/catalog/search"
  order := "shopping/order"
  discount := "shopping/extensions/discount"
  fulfillment := "shopping/extensions/fulfillment"
  identityLinking := "common/identity-linking"

def previousSlugs : SpecSlugs where
  checkout := "checkout"
  cart := "cart"
  catalogLookup := "catalog/lookup"
  catalogSearch := "catalog/search"
  order := "order"
  discount := "checkout/discounts"
  fulfillment := "fulfillment"
  identityLinking := "identity-linking"

def identityCapability : String := "dev.ucp.common.identity_linking"

def coreCapabilities (version : String) (advertised : AdvertisedCapabilities) (slugs : SpecSlugs) :
    List (String × List UcpCapabilityBinding) :=
  let checkoutAndCart := some ["dev.ucp.shopping.checkout", "dev.ucp.shopping.cart"]
  [("dev.ucp.shopping.checkout", [capability version slugs.checkout "shopping/checkout.json" none]),
    ("dev.ucp.shopping.cart", [capability version slugs.cart "shopping/cart.json" none]),
    ("dev.ucp.shopping.catalog.lookup",
      [capability version slugs.catalogLookup "shopping/catalog_lookup.json" none]),
    ("dev.ucp.shopping.catalog.search",
      [capability version slugs.catalogSearch "shopping/catalog_search.json" none]),
    ("dev.ucp.shopping.order", [capability version slugs.order "shopping/order.json" none]),
    ("dev.ucp.shopping.discount",
      [capability version slugs.discount "shopping/discount.json" checkoutAndCart]),
    ("dev.ucp.shopping.fulfillment",
      [capability version slugs.fulfillment "shopping/fulfillment.json" checkoutAndCart])] ++
    if advertised.identityLinking then
      [(identityCapability,
        [capability version slugs.identityLinking "common/identity_linking.json" none])]
    else []

def capabilityFlags (advertised : AdvertisedCapabilities) : List (String × Bool) :=
  [("dev.ucp.payments.mpp", true),
    ("dev.ucp.security.signatures", !advertised.signingKeys.isEmpty),
    ("dev.ucp.shopping.checkout.embedded", advertised.embeddedCheckout),
    ("dev.ucp.shopping.fulfillment", true),
    (identityCapability, advertised.identityLinking)]

/-- `(!signing_keys.is_empty()).then(..)`. -/
def AdvertisedCapabilities.keys (advertised : AdvertisedCapabilities) :
    Option (List SigningKeyDescriptor) :=
  if advertised.signingKeys.isEmpty then none else some advertised.signingKeys

def restSchema (version : String) : String :=
  "https://ucp.dev/" ++ version ++ "/services/shopping/rest.openapi.json"

section Profiles

variable (base : Chars) (advertised : AdvertisedCapabilities)

/-- The text `{base}{path}`. -/
def endpointAt (path : String) : Chars := base ++ path.toList

/-- The current (`2026-08-25`) business profile. -/
def latestProfile : WellKnownUcp where
  ucp :=
    { version := ucpLatestVersion
      supportedVersions := some ((ucpSupportedVersions.filter (· != ucpLatestVersion)).map fun v =>
        (v, endpointAt base ("/.well-known/ucp?ucp_version=" ++ v)))
      services := some [("dev.ucp.shopping",
        { version := ucpLatestVersion
          spec := specUrl ucpLatestVersion "overview"
          transport := "rest"
          schema := some (restSchema ucpLatestVersion)
          endpoint := some (endpointAt base "/api/v1/ucp") } ::
        if advertised.embeddedCheckout then
          [{ version := ucpLatestVersion
             spec := specUrl ucpLatestVersion "shopping/checkout/embedded"
             transport := "embedded"
             schema := some ("https://ucp.dev/" ++ ucpLatestVersion ++
               "/services/shopping/embedded.openrpc.json")
             endpoint := some (endpointAt base "/api/v1/ucp/checkout-sessions") }]
        else [])]
      capabilities := some (coreCapabilities ucpLatestVersion advertised latestSlugs)
      paymentHandlers := some (.object advertised.paymentHandlers) }
  keys := advertised.keys
  orchestrator := some
    { mcpEndpoint := endpointAt base "/api/v1/mcp/message"
      mcpSupportedVersions := mcpSupportedVersions
      a2aProfileVersion := "1.0"
      ap2ProtocolVersion := "0.2"
      acpApiVersion := acpApiVersion
      acpDiscovery := endpointAt base "/.well-known/acp.json"
      a2aAgentCard := endpointAt base "/.well-known/agent-card.json"
      capabilityFlags := capabilityFlags advertised }

/-- Of a handler: its id, its name, its type and the instruments it takes. -/
def paymentHandler (id name type : String) : Json :=
  .object [("id", .string id), ("name", .string name), ("type", .string type),
    ("instruments", .array [.string id])]

def defaultPaymentHandlers : Json :=
  .array [paymentHandler "card" "Card" "card", paymentHandler "mpp" "Machine Payments" "mpp"]

/-- The `2026-04-08` profile. -/
def profile20260408 : WellKnownUcp where
  ucp :=
    { version := ucpPreviousVersion
      services := some [("dev.ucp.shopping",
        [{ version := ucpPreviousVersion
           spec := specUrl ucpPreviousVersion "overview"
           transport := "rest"
           schema := some (restSchema ucpPreviousVersion)
           endpoint := some (endpointAt base "/api/v1/ucp") },
         { version := ucpPreviousVersion
           spec := specUrl ucpPreviousVersion "overview"
           transport := "mcp"
           schema := some ("https://ucp.dev/" ++ ucpPreviousVersion ++
             "/services/shopping/mcp.openrpc.json")
           endpoint := some (endpointAt base "/api/v1/mcp/message") },
         { version := ucpPreviousVersion
           spec := "https://agenticcommerce.dev/specs/checkout"
           transport := "acp"
           schema := some ("https://raw.githubusercontent.com/agentic-commerce-protocol/" ++
             "agentic-commerce-protocol/main/spec/" ++ acpApiVersion ++
             "/openapi/openapi.agentic_checkout.yaml")
           endpoint := some (endpointAt base "/api/v1/acp") }] ++
        if advertised.embeddedCheckout then
          [{ version := ucpPreviousVersion
             spec := specUrl ucpPreviousVersion "embedded-link-delegation"
             transport := "embedded"
             schema := some ("https://ucp.dev/" ++ ucpPreviousVersion ++
               "/services/shopping/embedded.openapi.json")
             endpoint := some (endpointAt base "/api/v1/ucp/checkout") }]
        else [])]
      capabilities := some (coreCapabilities ucpPreviousVersion advertised previousSlugs ++
        [("dev.ucp.shopping.payment_handlers", [capability ucpPreviousVersion "payment-handlers"
          "shopping/payment_handlers.json" none])])
      mcpEndpoint := some (endpointAt base "/api/v1/mcp/message")
      capabilityFlags := some (capabilityFlags advertised ++
        [("dev.ucp.shopping.payment_handlers", true)])
      signingKeys := advertised.keys
      paymentHandlers := some defaultPaymentHandlers
      mcpSupportedVersions := some mcpSupportedVersions
      a2aProfileVersion := some "1.0"
      ap2ProtocolVersion := some "0.2"
      acpApiVersion := some acpApiVersion }
  keys := advertised.keys
  orchestrator := none

def legacyWellKnownManifest (selectedVersion : String) : WellKnownUcp where
  ucp :=
    { version := selectedVersion
      manifest := some (.forVersion selectedVersion)
      restEndpoint := some (endpointAt base "/")
      mcpEndpoint := some (endpointAt base "/api/v1/mcp/message")
      capabilityFlags := some
        [("dev.ucp.shopping.cart.multi_item", false), ("dev.ucp.shopping.catalog.lookup", true),
          ("dev.ucp.identity.linking", true), ("dev.ucp.payments.mpp", true)] }
  keys := none
  orchestrator := none

end Profiles

/-- The version that is served to who asks for one. -/
def selectedVersion (requested : Option String) : String :=
  (requested.filter ucpSupportedVersions.contains).getD ucpLatestVersion

def buildWellKnownManifestWithVersion (baseUrl : Chars) (requested : Option String)
    (advertised : AdvertisedCapabilities) : WellKnownUcp :=
  let base := baseUrl.rdropWhile (· = '/')
  if selectedVersion requested = ucpLatestVersion then latestProfile base advertised
  else if selectedVersion requested = ucpPreviousVersion then profile20260408 base advertised
  else legacyWellKnownManifest base (selectedVersion requested)

structure AcpDiscoveryProtocol where
  name : String
  version : String
  supportedVersions : List String
  documentationUrl : String
deriving DecidableEq, Repr

structure AcpDiscoveryCapabilities where
  services : List String
  extensions : List String
deriving DecidableEq, Repr

structure AcpDiscoveryDocument where
  protocol : AcpDiscoveryProtocol
  apiBaseUrl : Chars
  transports : List String
  capabilities : AcpDiscoveryCapabilities
deriving DecidableEq, Repr

def buildAcpDiscoveryDocument (baseUrl : Chars) (paymentDelegation : Bool) :
    AcpDiscoveryDocument where
  protocol :=
    { name := "acp"
      version := acpApiVersion
      supportedVersions := acpSupportedVersions
      documentationUrl :=
        "https://github.com/agentic-commerce-protocol/agentic-commerce-protocol" }
  apiBaseUrl := endpointAt (baseUrl.rdropWhile (· = '/')) "/api/v1/acp"
  transports := ["rest"]
  capabilities :=
    { services := ["checkout", "carts"] ++ if paymentDelegation then ["delegate_payment"] else []
      extensions := [] }

section Routes

variable {C : SignatureCrates} (state : AppState C)

/-- What the state can do. -/
def AppState.advertised : AdvertisedCapabilities where
  signingKeys := (state.signing.map SigningKeyring.publicJwks).getD []
  identityLinking := state.facade.supports .identityLink
  embeddedCheckout := (embeddedCheckout state.embeddedCheckoutUrl state.signing).isSome
  paymentHandlers := state.paymentHandlers

/-- `GET /.well-known/ucp`. -/
def wellKnownUcp (ucpVersion : Option String) : WellKnownUcp :=
  buildWellKnownManifestWithVersion state.discoveryBaseUrl ucpVersion state.advertised

/-- `GET /.well-known/acp.json`. -/
def wellKnownAcp : AcpDiscoveryDocument :=
  buildAcpDiscoveryDocument state.discoveryBaseUrl (state.facade.supports .paymentDelegation)

end Routes

/-! ## What they tell -/

namespace WellKnownUcp

/-- The embedded transport is one of the bindings. -/
def offersEmbedded (profile : WellKnownUcp) : Bool :=
  (profile.ucp.services.getD []).any fun service => service.2.any (·.transport == "embedded")

def offersIdentity (profile : WellKnownUcp) : Bool :=
  (profile.ucp.capabilities.getD []).any (·.1 == identityCapability)

/-- It is told by a flag as well. -/
def flags (profile : WellKnownUcp) (name : String) : Option Bool :=
  ((profile.ucp.capabilityFlags.or (profile.orchestrator.map (·.capabilityFlags))).getD []).lookup
    name

/-- What is told by a profile in use. -/
structure Tells (profile : WellKnownUcp) (advertised : AdvertisedCapabilities) : Prop where
  embedded : profile.offersEmbedded = advertised.embeddedCheckout
  embeddedFlag : profile.flags "dev.ucp.shopping.checkout.embedded" = some advertised.embeddedCheckout
  identity : profile.offersIdentity = advertised.identityLinking
  identityFlag : profile.flags identityCapability = some advertised.identityLinking
  keys : profile.keys = advertised.keys
  keysFlag : profile.flags "dev.ucp.security.signatures" = some advertised.keys.isSome

end WellKnownUcp

section Profiles

variable {base : Chars} {advertised : AdvertisedCapabilities} {requested : Option String}

theorem keys_isSome : advertised.keys.isSome = !advertised.signingKeys.isEmpty := by
  rw [AdvertisedCapabilities.keys]
  cases advertised.signingKeys.isEmpty <;> rfl

theorem latestProfile_tells : (latestProfile base advertised).Tells advertised where
  embedded := by
    simp only [WellKnownUcp.offersEmbedded, latestProfile]
    cases advertised.embeddedCheckout <;> rfl
  embeddedFlag := rfl
  identity := by
    simp only [WellKnownUcp.offersIdentity, latestProfile, coreCapabilities]
    cases advertised.identityLinking <;> rfl
  identityFlag := rfl
  keys := rfl
  keysFlag := by
    rw [keys_isSome]
    rfl

theorem profile20260408_tells : (profile20260408 base advertised).Tells advertised where
  embedded := by
    simp only [WellKnownUcp.offersEmbedded, profile20260408]
    cases advertised.embeddedCheckout <;> rfl
  embeddedFlag := rfl
  identity := by
    simp only [WellKnownUcp.offersIdentity, profile20260408, coreCapabilities]
    cases advertised.identityLinking <;> rfl
  identityFlag := rfl
  keys := rfl
  keysFlag := by
    rw [keys_isSome]
    rfl

theorem acp_offers_delegation {paymentDelegation : Bool} :
    "delegate_payment" ∈ (buildAcpDiscoveryDocument base paymentDelegation).capabilities.services ↔
      paymentDelegation = true := by
  cases paymentDelegation <;> simp [buildAcpDiscoveryDocument]

theorem build_version :
    (buildWellKnownManifestWithVersion base requested advertised).ucp.version =
      selectedVersion requested := by
  rw [buildWellKnownManifestWithVersion]
  split
  · next h => exact h.symm
  · split
    · next h => exact h.symm
    · rfl

theorem selectedVersion_supported : selectedVersion requested ∈ ucpSupportedVersions := by
  rw [selectedVersion]
  cases hrequested : requested.filter ucpSupportedVersions.contains with
  | none => exact List.mem_cons_self
  | some v =>
      exact List.contains_iff_mem.mp (Option.filter_eq_some_iff.mp hrequested).2

end Profiles

section Told

variable {C : SignatureCrates} {services : Services C} {host : Host} {config : ServerConfig}
  {state : AppState C} {assembly : Assembly C} {addr : Chars} {requested : Option String}

/-- A keyring has keys to show. -/
theorem advertised_keys :
    state.advertised.keys = state.signing.map SigningKeyring.publicJwks := by
  rw [AdvertisedCapabilities.keys, AppState.advertised]
  cases state.signing <;> rfl

/-- The profiles in use tell what the state can do. -/
theorem wellKnownUcp_tells
    (h : selectedVersion requested = ucpLatestVersion ∨
      selectedVersion requested = ucpPreviousVersion) :
    (wellKnownUcp state requested).Tells state.advertised := by
  rw [wellKnownUcp, buildWellKnownManifestWithVersion]
  by_cases hlatest : selectedVersion requested = ucpLatestVersion
  · rw [if_pos hlatest]
    exact latestProfile_tells
  · rw [if_neg hlatest, if_pos (h.resolve_left hlatest)]
    exact profile20260408_tells

/-- Requests for links are refused as not configured exactly if a half is missing. -/
theorem embeddedCheckout_answers (U : UrlCrate) (printId : Uuid → Chars) (env : Env)
    (runner : Runner) (configured : Option (EmbeddedCheckout C)) :
    configured.isSome = true ↔ ∀ parseCartId auth id now w what,
      (ucpCreateEmbeddedCheckoutLink U printId parseCartId env runner configured auth id now w).1 ≠
        .error (.notConfigured what) := by
  constructor
  · intro h parseCartId auth id now w what
    obtain ⟨checkout, rfl⟩ := Option.isSome_iff_exists.mp h
    unfold ucpCreateEmbeddedCheckoutLink
    split
    · exact fun he => by cases he
    · dsimp only
      split
      · exact fun he => by cases he
      · split <;> exact fun he => by cases he
  · intro h
    cases configured with
    | some checkout => rfl
    | none =>
        exact absurd rfl (h (fun _ => .ok ⟨default⟩) ⟨"", "", []⟩ "" 0 .empty
          "embedded checkout requires EMBEDDED_CHECKOUT_URL and UCP signing keys")

/-- **Nobody is told of what is not there.**  Whatever version is asked for, the profile is of one
that is served, and of that one if it is.  A profile in use offers the embedded checkout exactly if
requests for links are not refused for want of configuration, identity linking exactly if there is
a provider for it, and the keys that answers are signed with; an older one shows no key, and claims
identity linking in any case. -/
theorem discovery_truthful (U : UrlCrate) (printId : Uuid → Chars) (env : Env) (runner : Runner)
    (state : AppState C) (requested : Option String) :
    (wellKnownUcp state requested).ucp.version ∈ ucpSupportedVersions ∧
      (∀ v ∈ ucpSupportedVersions, requested = some v →
        (wellKnownUcp state requested).ucp.version = v) ∧
      (if (wellKnownUcp state requested).ucp.version = ucpLatestVersion ∨
          (wellKnownUcp state requested).ucp.version = ucpPreviousVersion then
        ((wellKnownUcp state requested).offersEmbedded = true ↔
          ∀ parseCartId auth id now w what,
            (ucpCreateEmbeddedCheckoutLink U printId parseCartId env runner
              (embeddedCheckout state.embeddedCheckoutUrl state.signing) auth id now w).1 ≠
                .error (.notConfigured what)) ∧
        ((wellKnownUcp state requested).offersIdentity = true ↔
          state.facade.supports .identityLink = true) ∧
        (wellKnownUcp state requested).keys = state.signing.map SigningKeyring.publicJwks
      else
        (wellKnownUcp state requested).keys = none ∧
          (wellKnownUcp state requested).flags "dev.ucp.identity.linking" = some true) := by
  have hversion : (wellKnownUcp state requested).ucp.version = selectedVersion requested :=
    build_version
  refine ⟨hversion ▸ selectedVersion_supported, ?_, ?_⟩
  · rintro v hv rfl
    rw [hversion, selectedVersion, Option.filter_some, if_pos (List.contains_iff_mem.mpr hv),
      Option.getD_some]
  · rw [hversion]
    split
    · next hused =>
        have htells : (wellKnownUcp state requested).Tells state.advertised :=
          wellKnownUcp_tells hused
        rw [htells.embedded, htells.identity, htells.keys, ← embeddedCheckout_answers]
        exact ⟨Iff.rfl, Iff.rfl, advertised_keys⟩
    · next holder =>
        obtain ⟨hlatest, hprevious⟩ := not_or.mp holder
        rw [wellKnownUcp, buildWellKnownManifestWithVersion, if_neg hlatest, if_neg hprevious]
        exact ⟨rfl, rfl⟩

/-- The facade has a client for a provider that an address is configured for. -/
theorem supports_eq {setup : FacadeSetup} {config : ComponentsConfig} (p : Provider)
    (h : setup.clients.map CalledAt.place = (Provider.all.filterMap fun p =>
      (ProviderAuthConfig.nonempty (config.baseUrl p)).map (p, ·))) :
    setup.supports p = (ProviderAuthConfig.nonempty (config.baseUrl p)).isSome := by
  rw [Bool.eq_iff_iff, FacadeSetup.supports, List.any_eq_true, Option.isSome_iff_exists]
  constructor
  · rintro ⟨entry, hentry, hp⟩
    have hplace : CalledAt.place entry ∈ setup.clients.map CalledAt.place :=
      List.mem_map_of_mem hentry
    rw [h, List.mem_filterMap] at hplace
    obtain ⟨q, -, hq⟩ := hplace
    obtain ⟨url, hurl, heq⟩ := Option.map_eq_some_iff.mp hq
    obtain rfl : q = p := (congrArg Prod.fst heq).trans (of_decide_eq_true hp)
    exact ⟨url, hurl⟩
  · rintro ⟨url, hurl⟩
    have hplace : (p, url) ∈ setup.clients.map CalledAt.place := by
      rw [h, List.mem_filterMap]
      exact ⟨p, p.mem_all, by rw [hurl, Option.map_some]⟩
    obtain ⟨entry, hentry, heq⟩ := List.mem_map.mp hplace
    exact ⟨entry, hentry, decide_eq_true (congrArg Prod.fst heq)⟩

/-- **What is configured is what is told.**  A server in production, asked for a profile in use,
offers the embedded checkout exactly if a page is configured for it, identity linking and delegated
payments exactly if an address of their providers is, and shows its keys. -/
theorem served_discovery (h : startUp services host = .ok (.serving state addr))
    (hprofile : EnvProfile.fromEnv host.env = .production)
    (hused : selectedVersion requested = ucpLatestVersion ∨
      selectedVersion requested = ucpPreviousVersion) :
    ∃ config, ServerConfig.load host (defaultConfigPath host) = .ok config ∧
      (wellKnownUcp state requested).offersEmbedded = config.server.embeddedCheckoutUrl.isSome ∧
      (wellKnownUcp state requested).offersIdentity =
        (ProviderAuthConfig.nonempty config.components.identityLinkBaseUrl).isSome ∧
      ("delegate_payment" ∈ (wellKnownAcp state).capabilities.services ↔
        (ProviderAuthConfig.nonempty config.components.paymentDelegationBaseUrl).isSome = true) ∧
      ∃ ring, state.signing = some ring ∧
        (wellKnownUcp state requested).keys = some ring.publicJwks := by
  obtain ⟨config, assembly, hload, hassembly, hstate, -, -⟩ := startUp_serving h
  rw [hprofile] at hassembly
  obtain ⟨hfacade, -, hsigning, -, hpage⟩ := appState_ok hstate
  obtain ⟨prod, hprod⟩ := assembleProduction_ok hassembly
  have htells : (wellKnownUcp state requested).Tells state.advertised := wellKnownUcp_tells hused
  have hstored : state.signing = some prod.signing := hsigning.trans hprod.signing
  refine ⟨config, hload, ?_, ?_, ?_, prod.signing, hstored, ?_⟩
  · rw [htells.embedded, AppState.advertised, hstored, hpage]
    cases config.server.embeddedCheckoutUrl <;> rfl
  · rw [htells.identity]
    exact (congrArg (FacadeSetup.supports · .identityLink) hfacade).trans
      (supports_eq .identityLink hprod.places)
  · have hdelegation : state.facade.supports .paymentDelegation =
        (ProviderAuthConfig.nonempty config.components.paymentDelegationBaseUrl).isSome :=
      (congrArg (FacadeSetup.supports · .paymentDelegation) hfacade).trans
        (supports_eq .paymentDelegation hprod.places)
    rw [← hdelegation]
    exact acp_offers_delegation
  · rw [htells.keys, advertised_keys, hstored]
    rfl

end Told

open SampleShop in
theorem served_discovery_shop : ∃ state addr config,
    startUp services host = .ok (.serving state addr) ∧
      ServerConfig.load host (defaultConfigPath host) = .ok config ∧
      (wellKnownUcp state (some "2026-04-08")).offersEmbedded =
        config.server.embeddedCheckoutUrl.isSome ∧
      (wellKnownUcp state (some "2026-04-08")).offersIdentity =
        (ProviderAuthConfig.nonempty config.components.identityLinkBaseUrl).isSome ∧
      ("delegate_payment" ∈ (wellKnownAcp state).capabilities.services ↔
        (ProviderAuthConfig.nonempty config.components.paymentDelegationBaseUrl).isSome = true) ∧
      ∃ ring, state.signing = some ring ∧
        (wellKnownUcp state (some "2026-04-08")).keys = some ring.publicJwks := by
  obtain ⟨state, addr, h⟩ := started
  obtain ⟨config, hload, htold⟩ := served_discovery h production
    (.inr (show selectedVersion (some "2026-04-08") = ucpPreviousVersion by decide))
  exact ⟨state, addr, config, h, hload, htold⟩

end Orchestrator
