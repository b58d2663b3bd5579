/-
# `CommerceOrchestrator.Api.EmbeddedLinks` — handing a checkout over to the merchant's page

A handoff link carries the session, its expiry, the id of the active key and a signature of
the first two.  The page that opens it rebuilds what was signed from the link and checks the
signature with the published key of that id.  So an honest link opens the session that it was
made for, and what opens at all was made by the handler, for a cart that was there.

The crate that takes addresses apart is a parameter, as is the printed form of an id.
-/
import CommerceOrchestrator.Api.SignedResponses
import CommerceOrchestrator.Api.CartUpdates

namespace Orchestrator

open Effect Text

/-! ## Detached signatures -/

structure UcpSignature where
  kid : Chars
  /-- Base64, url-safe and without padding. -/
  signature : Chars
deriving DecidableEq, Repr

/-- Why a detached signature is not accepted. -/
inductive DetachedError
  | unknownKid (kid : Chars)
  | malformedSignature
  | verificationFailed
deriving DecidableEq, Repr

section Detached

variable {C : SignatureCrates}

/-- A detached signature over a payload, with the active key. -/
def SigningKeyring.sign (ring : SigningKeyring C) (payload : Bytes) : UcpSignature :=
  ⟨ring.activeKid, encodeUrlSafe (ring.active.secret.sign payload)⟩

/-- A detached signature by one of the keys. -/
def verifyDetached (keys : List (Chars × PublicKey C)) (kid : Chars) (payload : Bytes)
    (signature : Chars) : Except DetachedError Unit :=
  match keys.find? (·.1 = kid) with
  | none => .error (.unknownKid kid)
  | some (_, key) =>
      match decodeBase64 signature with
      | none => .error .malformedSignature
      | some raw => if key.verify payload raw then .ok () else .error .verificationFailed

def SigningKeyring.verify (ring : SigningKeyring C) (kid : Chars) (payload : Bytes)
    (signature : Chars) : Except DetachedError Unit :=
  verifyDetached ((ring.active :: ring.previous).map Key.entry) kid payload signature

end Detached

/-! ## Links -/

/-- The crate of addresses, as far as links go. -/
structure UrlCrate where
  Url : Type
  parse : Chars → Option Url
  text : Url → Chars
  queryPairs : Url → List (Chars × Chars)
  appendPair : Url → Chars × Chars → Url

/-- What the crate promises: an address is read back from its text, and a pair that is
appended is the last one of its query. -/
structure UrlCrate.Faithful (U : UrlCrate) : Prop where
  parse_text : ∀ url, U.parse (U.text url) = some url
  queryPairs_appendPair : ∀ url pair, U.queryPairs (U.appendPair url pair) = U.queryPairs url ++ [pair]

structure EmbeddedCheckoutLink where
  checkoutSessionId : Chars
  embeddedUrl : Chars
  expiresAt : Int64
deriving DecidableEq, Repr

def embeddedCheckoutLinkTtlSeconds : Int64 := 900

section Links

variable {C : SignatureCrates} (U : UrlCrate) (printId : Uuid → Chars)

def cartIdToSessionId (cartId : CartId) : Chars := "chk_".toList ++ printId cartId.uuid

/-- The pairs of a link. -/
def linkPairs (sessionId : Chars) (expiresAt : Int64) (signature : UcpSignature) :
    List (Chars × Chars) :=
  [("session".toList, sessionId), ("expires".toList, renderInt expiresAt),
    ("kid".toList, signature.kid), ("token".toList, signature.signature)]

def buildEmbeddedCheckoutLink (hostedCheckoutUrl : Chars) (cartId : CartId)
    (keyring : SigningKeyring C) (now : Int64) : Option EmbeddedCheckoutLink :=
  let sessionId := cartIdToSessionId printId cartId
  let expiresAt := now + embeddedCheckoutLinkTtlSeconds
  let signature := keyring.sign (utf8 (embeddedLinkSigningBase sessionId expiresAt))
  (U.parse hostedCheckoutUrl).map fun url =>
    { checkoutSessionId := sessionId
      embeddedUrl := U.text ((linkPairs sessionId expiresAt signature).foldl U.appendPair url)
      expiresAt }

/-- The first value under a name. -/
def queryValue (pairs : List (Chars × Chars)) (name : String) : Option Chars :=
  (pairs.find? (·.1 = name.toList)).map Prod.snd

/-- What the hosted page does with a link: the session that it opens, and its expiry. -/
def openLink (keys : List (Chars × PublicKey C)) (url : Chars) : Option (Chars × Int64) := do
  let pairs := U.queryPairs (← U.parse url)
  let sessionId ← queryValue pairs "session"
  let expiresAt ← (queryValue pairs "expires").bind parseInt
  let kid ← queryValue pairs "kid"
  let token ← queryValue pairs "token"
  if verifyDetached keys kid (utf8 (embeddedLinkSigningBase sessionId expiresAt)) token = .ok () then
    return (sessionId, expiresAt)
  else none

/-! ## The handler -/

/-- What a deployment has for links: the page, and the keys. -/
structure EmbeddedCheckout (C : SignatureCrates) where
  hostedUrl : Chars
  keyring : SigningKeyring C

inductive EmbeddedLinkError
  | api (e : ApiError)
  | notConfigured (what : String)
deriving DecidableEq, Repr

/-- `AppState::embedded_checkout`. -/
def embeddedCheckout (embeddedCheckoutUrl : Option Chars) (signing : Option (SigningKeyring C)) :
    Option (EmbeddedCheckout C) := do
  return ⟨← embeddedCheckoutUrl, ← signing⟩

def ucpCreateEmbeddedCheckoutLink (parseCartId : String → Except String CartId) (env : Env)
    (runner : Runner) (configured : Option (EmbeddedCheckout C)) (auth : AuthContext) (id : String)
    (now : Int64) (w : World) : Except EmbeddedLinkError EmbeddedCheckoutLink × World :=
  match parseCartId id with
  | .error e => (.error (.api (.badRequest e)), w)
  | .ok cartId =>
      match configured with
      | none =>
          (.error (.notConfigured
            "embedded checkout requires EMBEDDED_CHECKOUT_URL and UCP signing keys"), w)
      | some checkout =>
          match env.forTenant runner auth.tenantId (.getCart ⟨cartId⟩) none w with
          | (.error e, w) => (.error (.api (.orchestrator e)), w)
          | (.ok _, w) =>
              match buildEmbeddedCheckoutLink U printId checkout.hostedUrl cartId
                  checkout.keyring now with
              | some link => (.ok link, w)
              | none => (.error (.api .internal), w)

end Links

/-! ## Honest links -/

section Honest

variable {C : SignatureCrates} {U : UrlCrate} {printId : Uuid → Chars} {ring : SigningKeyring C}
  {keys : List (Chars × PublicKey C)} {hostedUrl : Chars} {cartId : CartId} {now : Int64}
  {link : EmbeddedCheckoutLink}

/-- Signatures have bytes. -/
theorem PrivateKey.sign_ne_nil (hC : C.Faithful) (hsign : ∀ key payload, C.p256Sign key payload ≠ [])
    (secret : PrivateKey C) (payload : Bytes) : secret.sign payload ≠ [] := by
  cases secret with
  | ed25519 key =>
      intro h
      have hlength := hC.ed25519_length key payload
      rw [show C.ed25519Sign key payload = [] from h] at hlength
      cases hlength
  | p256 key => exact hsign key payload

/-- A keyring's own signature is accepted by whoever has the key. -/
theorem verifyDetached_sign (hC : C.Faithful) (hsign : ∀ key payload, C.p256Sign key payload ≠ [])
    (hfound : keys.find? (·.1 = ring.activeKid) = some ring.active.entry) (payload : Bytes) :
    verifyDetached keys (ring.sign payload).kid payload (ring.sign payload).signature = .ok () := by
  have hne := ring.active.secret.sign_ne_nil hC hsign payload
  show verifyDetached keys ring.activeKid payload
    (encodeUrlSafe (ring.active.secret.sign payload)) = .ok ()
  rw [verifyDetached, hfound]
  simp only [Key.entry, decodeBase64_encodeUrlSafe hne, ring.active.secret.verify_sign hC payload,
    if_true]

theorem queryPairs_foldl (hU : U.Faithful) (pairs : List (Chars × Chars)) :
    ∀ url, U.queryPairs (pairs.foldl U.appendPair url) = U.queryPairs url ++ pairs := by
  induction pairs with
  | nil =>
      intro url
      exact (List.append_nil _).symm
  | cons pair pairs ih =>
      intro url
      rw [List.foldl_cons, ih, hU.queryPairs_appendPair, List.append_assoc]
      rfl

/-- The hosted address has none of the four names in its own query. -/
def LeavesNames (U : UrlCrate) (hostedUrl : Chars) : Prop :=
  ∀ url, U.parse hostedUrl = some url → ∀ pair ∈ U.queryPairs url,
    pair.1 ∉ ["session".toList, "expires".toList, "kid".toList, "token".toList]

theorem queryValue_append {before pairs : List (Chars × Chars)} {name : String}
    (h : ∀ pair ∈ before, pair.1 ≠ name.toList) :
    queryValue (before ++ pairs) name = queryValue pairs name := by
  have hnone : before.find? (·.1 = name.toList) = none :=
    List.find?_eq_none.mpr fun pair hpair => by simpa using h pair hpair
  rw [queryValue, List.find?_append, hnone, Option.none_or, queryValue]

theorem queryValue_cons (name : String) (value : Chars) (pairs : List (Chars × Chars)) :
    queryValue ((name.toList, value) :: pairs) name = some value := by
  rw [queryValue, List.find?_cons_of_pos (by simp)]
  rfl

theorem queryValue_cons_ne {name other : String} (h : other.toList ≠ name.toList) (value : Chars)
    (pairs : List (Chars × Chars)) :
    queryValue ((other.toList, value) :: pairs) name = queryValue pairs name := by
  rw [queryValue, List.find?_cons_of_neg (by simpa using h), queryValue]

/-- The pairs of a link say what was written into them. -/
theorem queryValue_linkPairs (sessionId : Chars) (expiresAt : Int64) (signature : UcpSignature) :
    queryValue (linkPairs sessionId expiresAt signature) "session" = some sessionId ∧
      queryValue (linkPairs sessionId expiresAt signature) "expires" = some (renderInt expiresAt) ∧
      queryValue (linkPairs sessionId expiresAt signature) "kid" = some signature.kid ∧
      queryValue (linkPairs sessionId expiresAt signature) "token" = some signature.signature := by
  unfold linkPairs
  refine ⟨queryValue_cons _ _ _, ?_, ?_, ?_⟩
  · rw [queryValue_cons_ne (by decide), queryValue_cons]
  · rw [queryValue_cons_ne (by decide), queryValue_cons_ne (by decide), queryValue_cons]
  · rw [queryValue_cons_ne (by decide), queryValue_cons_ne (by decide),
      queryValue_cons_ne (by decide), queryValue_cons]

/-- **A link opens the session that it was made for**, with any keys that have the active one. -/
theorem openLink_built (hC : C.Faithful) (hsign : ∀ key payload, C.p256Sign key payload ≠ [])
    (hU : U.Faithful) (hleaves : LeavesNames U hostedUrl)
    (hfound : keys.find? (·.1 = ring.activeKid) = some ring.active.entry)
    (hbuilt : buildEmbeddedCheckoutLink U printId hostedUrl cartId ring now = some link) :
    openLink U keys link.embeddedUrl = some (cartIdToSessionId printId cartId,
      now + embeddedCheckoutLinkTtlSeconds) := by
  obtain ⟨url, hurl, rfl⟩ := Option.map_eq_some_iff.mp hbuilt
  have hnames := hleaves url hurl
  have hvalue (name : String) (h : name.toList ∈
      ["session".toList, "expires".toList, "kid".toList, "token".toList])
      (pairs : List (Chars × Chars)) :
      queryValue (U.queryPairs url ++ pairs) name = queryValue pairs name :=
    queryValue_append fun pair hpair he => hnames pair hpair (he ▸ h)
  rw [openLink, hU.parse_text]
  simp only [Option.bind_eq_bind, Option.bind_some, queryPairs_foldl hU]
  rw [hvalue "session" (by simp), hvalue "expires" (by simp), hvalue "kid" (by simp),
    hvalue "token" (by simp)]
  have hverified := verifyDetached_sign hC hsign hfound (utf8
    (embeddedLinkSigningBase (cartIdToSessionId printId cartId) (now + embeddedCheckoutLinkTtlSeconds)))
  obtain ⟨hsession, hexpires, hkid, htoken⟩ := queryValue_linkPairs
    (cartIdToSessionId printId cartId) (now + embeddedCheckoutLinkTtlSeconds)
    (ring.sign (utf8 (embeddedLinkSigningBase (cartIdToSessionId printId cartId)
      (now + embeddedCheckoutLinkTtlSeconds))))
  rw [hsession, hexpires, hkid, htoken]
  simp only [Option.bind_some, parseInt_renderInt, hverified, if_true]
  rfl

/-- What the published keys know: the active key under its id, also after a rotation. -/
theorem find_entry {published : SigningKeyring C} {verifying : VerifyingKeyring C}
    (hkeys : verifying.keys = (published.active :: published.previous).map Key.entry)
    (hkept : ring.active ∈ published.active :: published.previous) :
    verifying.keys.find? (·.1 = ring.activeKid) = some ring.active.entry := by
  have hmem : (ring.activeKid, ring.active.secret.publicKey) ∈ verifying.keys :=
    hkeys ▸ List.mem_map_of_mem hkept
  cases hfind : verifying.keys.find? (·.1 = ring.activeKid) with
  | none => exact absurd (List.find?_eq_none.mp hfind _ hmem) (by simp)
  | some found =>
      have hkid : found.1 = ring.activeKid := by simpa using List.find?_some hfind
      exact congrArg some (List.inj_on_of_nodup_map verifying.distinct
        (List.mem_of_find?_eq_some hfind) hmem hkid)

end Honest

/-! ## Links that open -/

/-- A request for a link, with what the deployment had when it came. -/
structure LinkRequest (C : SignatureCrates) where
  env : Env
  runner : Runner
  configured : Option (EmbeddedCheckout C)
  auth : AuthContext
  id : String
  now : Int64
  world : World

section Minted

variable {C : SignatureCrates} {U : UrlCrate} {printId : Uuid → Chars}
  {parseCartId : String → Except String CartId}

def LinkRequest.answer (U : UrlCrate) (printId : Uuid → Chars)
    (parseCartId : String → Except String CartId) (r : LinkRequest C) :
    Except EmbeddedLinkError EmbeddedCheckoutLink × World :=
  ucpCreateEmbeddedCheckoutLink U printId parseCartId r.env r.runner r.configured r.auth r.id r.now
    r.world

/-- The sessions and expiries of the links that were given. -/
def linksGiven (U : UrlCrate) (printId : Uuid → Chars)
    (parseCartId : String → Except String CartId) (requests : Set (LinkRequest C)) :
    Set (Chars × Int64) :=
  {l | ∃ r ∈ requests, ∃ link, (r.answer U printId parseCartId).1 = .ok link ∧
    l = (link.checkoutSessionId, link.expiresAt)}

/-- The cart a link was given for: it was there, and the tenant's who asked. -/
structure GivenFor (printId : Uuid → Chars) (parseCartId : String → Except String CartId)
    (r : LinkRequest C) (sessionId : Chars) (expiresAt : Int64) (cartId : CartId)
    (cart : CartProjection) : Prop where
  parsed : parseCartId r.id = .ok cartId
  session : sessionId = cartIdToSessionId printId cartId
  expiry : expiresAt = r.now + embeddedCheckoutLinkTtlSeconds
  stored : r.world.events.getCartSnapshot cartId = some cart
  own : EventsAnswer r.env → cart.tenantId = some r.auth.tenantId

theorem forTenant_getCart {env : Env} {runner : Runner} {t : String} {c : CartId} {w : World}
    {p : CartProjection} (h : (env.forTenant runner t (.getCart ⟨c⟩) none w).1 = .ok p) :
    w.events.getCartSnapshot c = some p ∧ (EventsAnswer env → p.tenantId = some t) := by
  by_cases hrefuses : Refuses env t w c
  · rw [forTenant_refused (a := c) rfl hrefuses] at h
    cases h
  · rw [forTenant_passed (a := c) rfl hrefuses] at h
    have h : ((loadCart c).run.run env.handle w.tick).1.mapError FacadeError.runner = .ok p := h
    rw [loadCart_run_elim] at h
    have hstored := World.read_some (elim_eq_ok.mp (mapError_eq_ok.mp h))
    refine ⟨hstored, fun hanswer => not_not.mp fun hno => hrefuses ⟨p, ?_, hno⟩⟩
    rw [hanswer.read]
    exact hstored

/-- The handler gives a link only for a cart that it has read. -/
theorem answer_given {r : LinkRequest C} {link : EmbeddedCheckoutLink}
    (h : (r.answer U printId parseCartId).1 = .ok link) :
    ∃ cartId cart,
      GivenFor printId parseCartId r link.checkoutSessionId link.expiresAt cartId cart := by
  unfold LinkRequest.answer ucpCreateEmbeddedCheckoutLink at h
  split at h
  · cases h
  · next cartId hparsed =>
      split at h
      · cases h
      · next checkout hconfigured =>
          split at h
          · cases h
          · next p w' hread =>
              obtain ⟨hstored, hown⟩ := forTenant_getCart (congrArg Prod.fst hread)
              split at h
              · next made hmade =>
                  obtain rfl := Except.ok.inj h
                  obtain ⟨url, -, rfl⟩ := Option.map_eq_some_iff.mp hmade
                  exact ⟨cartId, p, hparsed, rfl, rfl, hstored, hown⟩
              · cases h

theorem renderInt_injective {e e' : Int64} (h : renderInt e = renderInt e') : e = e' :=
  Option.some.inj ((parseInt_renderInt e).symm.trans ((congrArg parseInt h).trans
    (parseInt_renderInt e')))

/-- Behind the last colon stands the expiry. -/
theorem split_expiry (s : Chars) (e : Int64) :
    splitOnce ':' (s ++ ':' :: renderInt e).reverse = some ((renderInt e).reverse, s.reverse) := by
  have hcolon : ':' ∉ (renderInt e).reverse := by
    intro hc
    have := renderInt_bounds (List.mem_reverse.mp hc)
    revert this
    decide
  rw [List.reverse_append, List.reverse_cons, List.append_assoc, List.singleton_append]
  exact splitOnce_append hcolon

/-- What is signed for a link gives the session and the expiry back. -/
theorem embeddedLinkSigningBase_inj {s s' : Chars} {e e' : Int64}
    (h : embeddedLinkSigningBase s e = embeddedLinkSigningBase s' e') : s = s' ∧ e = e' := by
  unfold embeddedLinkSigningBase at h
  generalize "ucp-embedded-checkout:".toList = label at h
  rw [List.append_assoc, List.append_assoc] at h
  have hbehind := List.append_cancel_left h
  have hsplit := (split_expiry s e).symm.trans
    ((congrArg (splitOnce ':') (congrArg List.reverse hbehind)).trans (split_expiry s' e'))
  obtain ⟨he, hs⟩ := Prod.mk.inj (Option.some.inj hsplit)
  exact ⟨List.reverse_injective hs, renderInt_injective (List.reverse_injective he)⟩

theorem verifyDetached_ok {keys : List (Chars × PublicKey C)} {kid token : Chars} {payload : Bytes}
    (h : verifyDetached keys kid payload token = .ok ()) :
    ∃ e ∈ keys, ∃ raw, e.2.verify payload raw = true := by
  unfold verifyDetached at h
  split at h
  · cases h
  · next kid' key hfind =>
      split at h
      · cases h
      · next raw hraw =>
          split at h
          · next hverified => exact ⟨_, List.mem_of_find?_eq_some hfind, raw, hverified⟩
          · cases h

/-- **A link that opens was given for a cart**: the session is a cart's that was there when it
was asked for, and the expiry counts from then, as long as nobody else signs. -/
theorem openedLink_given {sha256 : Bytes → Bytes} {verifying : VerifyingKeyring C}
    {responses : Set (SigningKeyring C × HttpResponse × Int64)} {requests : Set (LinkRequest C)}
    {url sessionId : Chars} {expiresAt : Int64}
    (hunforged : SignedLog.Unforged sha256
      ⟨responses, linksGiven U printId parseCartId requests⟩ verifying)
    (h : openLink U verifying.keys url = some (sessionId, expiresAt)) :
    ∃ r ∈ requests, ∃ cartId cart,
      GivenFor printId parseCartId r sessionId expiresAt cartId cart := by
  obtain ⟨opened, -, h⟩ := Option.bind_eq_some_iff.mp h
  obtain ⟨sessionId', -, h⟩ := Option.bind_eq_some_iff.mp h
  obtain ⟨expiresAt', -, h⟩ := Option.bind_eq_some_iff.mp h
  obtain ⟨kid, -, h⟩ := Option.bind_eq_some_iff.mp h
  obtain ⟨token, -, h⟩ := Option.bind_eq_some_iff.mp h
  split at h
  · next hverified =>
      obtain ⟨rfl, rfl⟩ := Prod.mk.inj (Option.some.inj h)
      obtain ⟨e, he, raw, hraw⟩ := verifyDetached_ok hverified
      have hsigns := hunforged e he _ raw hraw
      generalize hpayload : utf8 (embeddedLinkSigningBase sessionId' expiresAt') = payload at hsigns
      cases hsigns with
      | response mem built => exact absurd (utf8_injective hpayload).symm (signatureBase_ne_link built)
      | link mem =>
          obtain ⟨rfl, rfl⟩ := embeddedLinkSigningBase_inj (utf8_injective hpayload)
          obtain ⟨r, hr, link, hanswer, hlink⟩ := mem
          obtain ⟨rfl, rfl⟩ := Prod.mk.inj hlink
          exact ⟨r, hr, answer_given hanswer⟩
  · cases h

end Minted

section Opening

variable {C : SignatureCrates} {U : UrlCrate} {printId : Uuid → Chars}
  {parseCartId : String → Except String CartId}

/-- **Every link that is given opens**, with the published keys, as long as the key that signed
it is one of them. -/
theorem givenLink_opens {published : SigningKeyring C}
    {readJwks : Chars → Except String (List SigningKeyDescriptor)} {json : Chars}
    {r : LinkRequest C} {checkout : EmbeddedCheckout C} {link : EmbeddedCheckoutLink}
    (hC : C.Faithful) (hsign : ∀ key payload, C.p256Sign key payload ≠ []) (hU : U.Faithful)
    (hjson : readJwks json = .ok published.publicJwks)
    (hconfigured : r.configured = some checkout) (hleaves : LeavesNames U checkout.hostedUrl)
    (hkept : checkout.keyring.active ∈ published.active :: published.previous)
    (hgiven : (r.answer U printId parseCartId).1 = .ok link) :
    ∃ verifying, VerifyingKeyring.fromJwks C readJwks json = .ok verifying ∧
      openLink U verifying.keys link.embeddedUrl =
        some (link.checkoutSessionId, link.expiresAt) := by
  obtain ⟨verifying, hverifying, hkeys⟩ := fromJwks_publicJwks hC hjson
  refine ⟨verifying, hverifying, ?_⟩
  obtain ⟨cartId, cart, hlink⟩ := answer_given hgiven
  have hbuilt : buildEmbeddedCheckoutLink U printId checkout.hostedUrl cartId checkout.keyring
      r.now = some link := by
    unfold LinkRequest.answer ucpCreateEmbeddedCheckoutLink at hgiven
    rw [hlink.parsed, hconfigured] at hgiven
    dsimp only at hgiven
    split at hgiven
    · cases hgiven
    · split at hgiven
      · next made hmade => rwa [← Except.ok.inj hgiven]
      · cases hgiven
  rw [hlink.session, hlink.expiry]
  exact openLink_built hC hsign hU hleaves (find_entry hkeys hkept) hbuilt

end Opening

/-! ### A link for the sample cart -/

namespace SampleLink

instance encodableChar : Encodable Char :=
  Encodable.ofLeftInverse Char.toNat Char.ofNat Char.ofNat_toNat

def hostedUrl : Chars := "https://shop.example.com/checkout".toList

def sessionId : Chars := "chk_00000000-0000-0000-0000-000000000000".toList

def token : Chars :=
  "pvXpwe61wENn_NRNPwxcAjxs8OSWstBPVvyvZU-V-q6rJRoWA1sFXeGyexwd-rxw7c0fsY_mxhbKvoSepr7sCA".toList

/-- The link's address. -/
def linkText : Chars :=
  hostedUrl ++ "?session=".toList ++ sessionId ++ "&expires=1760000900&kid=orch-2026-a&token=".toList ++
    token

def linkUrl : Chars × List (Chars × Chars) :=
  (hostedUrl, linkPairs sessionId 1760000900 ⟨"orch-2026-a".toList, token⟩)

/-- The crate of addresses: as the real one on the page's and the link's, in code elsewhere. -/
def urls : UrlCrate where
  Url := Chars × List (Chars × Chars)
  parse s :=
    if s = hostedUrl then some (hostedUrl, [])
    else if s = linkText then some linkUrl
    else (digits (s.drop 1)).bind Encodable.decode
  text url :=
    if url = (hostedUrl, []) then hostedUrl
    else if url = linkUrl then linkText
    else '~' :: Nat.toDigits 10 (Encodable.encode url)
  queryPairs url := url.2
  appendPair url pair := (url.1, url.2 ++ [pair])

theorem urls_faithful : urls.Faithful where
  parse_text url := by
    have hhead : linkText ≠ hostedUrl ∧ linkText.head? = some 'h' ∧ hostedUrl.head? = some 'h' := by
      decide +kernel
    have hcode (ds s : Chars) (hs : s.head? = some 'h') : '~' :: ds ≠ s := by
      intro h
      rw [← h] at hs
      cases hs
    simp only [urls]
    split
    · next h => rw [if_pos rfl, h]
    · split
      · next h => rw [if_neg hhead.1, if_pos rfl, h]
      · rw [if_neg (hcode _ _ hhead.2.2), if_neg (hcode _ _ hhead.2.1), List.drop_one, List.tail_cons,
          digits_toDigits, Option.bind_some]
        exact Encodable.encodek _
  queryPairs_appendPair _ _ := rfl

/-- What the key signs for the link. -/
def linkSignature : Bytes :=
  [0xa6, 0xf5, 0xe9, 0xc1, 0xee, 0xb5, 0xc0, 0x43, 0x67, 0xfc, 0xd4, 0x4d, 0x3f, 0x0c,
   0x5c, 0x02, 0x3c, 0x6c, 0xf0, 0xe4, 0x96, 0xb2, 0xd0, 0x4f, 0x56, 0xfc, 0xaf, 0x65,
   0x4f, 0x95, 0xfa, 0xae, 0xab, 0x25, 0x1a, 0x16, 0x03, 0x5b, 0x05, 0x5d, 0xe1, 0xb2,
   0x7b, 0x1c, 0x1d, 0xfa, 0xbc, 0x70, 0xed, 0xcd, 0x1f, 0xb1, 0x8f, 0xe6, 0xc6, 0x16,
   0xca, 0xbe, 0x84, 0x9e, 0xa6, 0xbe, 0xec, 0x08]

def linkBase : Bytes := utf8 (embeddedLinkSigningBase sessionId 1760000900)

def signatureOf (publicKey payload : Bytes) : Bytes :=
  if publicKey = AgentMessage.publicKey ∧ payload = linkBase then linkSignature
  else List.replicate 64 0

/-- The crates, as far as the two keys and the link go. -/
def crates : SignatureCrates :=
  { SignedAnswer.crates with
    ed25519Sign := fun seed payload => signatureOf (SignedAnswer.publicOf seed).1 payload
    ed25519Verify := fun publicKey payload signature =>
      signature == signatureOf publicKey.1 payload }

theorem crates_faithful : crates.Faithful where
  ed25519_length seed payload := by
    show (signatureOf (SignedAnswer.publicOf seed).1 payload).length = 64
    unfold signatureOf
    split <;> rfl
  ed25519_verify seed payload :=
    beq_self_eq_true (signatureOf (SignedAnswer.publicOf seed).1 payload)
  ed25519_bytes key := ⟨key.2, dif_pos key.2⟩
  p256_verify key := Empty.elim key
  p256_point key := Empty.elim key

def key : Key crates := ⟨"orch-2026-a".toList, .ed25519 SignedAnswer.seed, SignedAnswer.kid_named⟩

def nextKey : Key crates :=
  ⟨"orch-2026-b".toList, .ed25519 SignedAnswer.nextSeed, SignedAnswer.nextKid_named⟩

def ring : SigningKeyring crates := ⟨key, [], List.nodup_singleton _⟩

def rotated : SigningKeyring crates := ⟨nextKey, [key], by decide⟩

def printId (_ : Uuid) : Chars := "00000000-0000-0000-0000-000000000000".toList

def request : LinkRequest crates where
  env := Env.agreeable
  runner := Sample.runner
  configured := some ⟨hostedUrl, ring⟩
  auth := ⟨"agent", "t", ["checkout:execute"]⟩
  id := "00000000-0000-0000-0000-000000000000"
  now := 1760000000
  world := Sample.acpWorld

def link : EmbeddedCheckoutLink := ⟨sessionId, linkText, 1760000900⟩

theorem request_answer : (request.answer urls printId Sample.onlyCart).1 = .ok link := by
  decide +kernel

theorem hostedUrl_leaves : LeavesNames urls hostedUrl := by
  intro url hurl pair hpair
  have hparse : urls.parse hostedUrl = some (hostedUrl, []) := by simp [urls]
  obtain rfl := Option.some.inj (hparse.symm.trans hurl)
  cases hpair

theorem readJwks_jwks : SignedAnswer.readJwks SignedAnswer.jwks = .ok rotated.publicJwks :=
  SignedAnswer.readJwks_published

/-- The crates, as far as the one signature goes that was made. -/
def linkCrates : SignatureCrates :=
  { crates with
    ed25519Verify := fun publicKey payload made =>
      publicKey.1 == AgentMessage.publicKey && payload == linkBase && made == linkSignature }

def linkRing : SigningKeyring linkCrates :=
  ⟨⟨"orch-2026-a".toList, .ed25519 SignedAnswer.seed, SignedAnswer.kid_named⟩, [], List.nodup_singleton _⟩

def linkKeys : VerifyingKeyring linkCrates :=
  ⟨[("orch-2026-a".toList, .ed25519 ⟨AgentMessage.publicKey, AgentMessage.publicKey_length⟩)],
    by intro e he; obtain rfl := List.mem_singleton.mp he; decide, List.nodup_singleton _⟩

def linkRequest : LinkRequest linkCrates :=
  { env := Env.agreeable, runner := Sample.runner, configured := some ⟨hostedUrl, linkRing⟩
    auth := ⟨"agent", "t", ["checkout:execute"]⟩, id := "00000000-0000-0000-0000-000000000000"
    now := 1760000000, world := Sample.acpWorld }

theorem linkRequest_answer : (linkRequest.answer urls printId Sample.onlyCart).1 = .ok link := by
  decide +kernel

theorem link_unforged : SignedLog.Unforged AgentRequest.sha256
    ⟨∅, linksGiven urls printId Sample.onlyCart {linkRequest}⟩ linkKeys := by
  intro e he payload made h
  obtain rfl := List.mem_singleton.mp he
  have h : (AgentMessage.publicKey == AgentMessage.publicKey && payload == linkBase &&
      made == linkSignature) = true := (Bool.and_eq_true_iff.mp h).2
  rw [Bool.and_eq_true_iff, Bool.and_eq_true_iff] at h
  rw [beq_iff_eq.mp h.1.2]
  exact .link ⟨linkRequest, Set.mem_singleton _, link, linkRequest_answer, rfl⟩

theorem link_opens : openLink urls linkKeys.keys linkText = some (sessionId, 1760000900) := by
  decide +kernel

end SampleLink

open SampleLink in
theorem openedLink_given_sample : ∃ r ∈ ({linkRequest} : Set (LinkRequest linkCrates)),
    ∃ cartId cart, GivenFor printId Sample.onlyCart r sessionId 1760000900 cartId cart :=
  openedLink_given link_unforged link_opens

open SampleLink in
theorem givenLink_opens_rotated : ∃ verifying,
    VerifyingKeyring.fromJwks crates SignedAnswer.readJwks SignedAnswer.jwks = .ok verifying ∧
      openLink urls verifying.keys link.embeddedUrl =
        some (link.checkoutSessionId, link.expiresAt) := by
  have hconfigured : request.configured = some ⟨hostedUrl, ring⟩ := rfl
  have hkept : ring.active ∈ rotated.active :: rotated.previous :=
    List.mem_cons_of_mem _ List.mem_cons_self
  exact givenLink_opens crates_faithful (fun key => Empty.elim key) urls_faithful readJwks_jwks
    hconfigured hostedUrl_leaves hkept request_answer

end Orchestrator
