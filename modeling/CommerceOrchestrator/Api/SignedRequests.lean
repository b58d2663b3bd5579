/-
# `CommerceOrchestrator.Api.SignedRequests` — what a signed request binds

The middleware puts the components of the request that it received together, decides from
the same request which of them must be covered, and passes the request on if one of its
signatures verifies.  An accepted request is compared here with the message that was signed:
the signature base gives the covered components back, so these are the signer's.  The body
is bound through its digest, and the digest of an empty body is not looked at.

SHA-256 is a parameter, and that nobody else signs is a hypothesis (`Unforged`).
-/
import CommerceOrchestrator.Api.SigningRoundTrip

namespace Orchestrator

open Effect Text

/-! ## Digests -/

/-- What stands under `sha-256`. -/
def sha256Digest (members : List (Chars × Chars)) : Option Bytes :=
  ((members.find? (·.1 = "sha-256".toList)).map Prod.snd).bind parseByteSequence

/-- The `sha-256` of a `Content-Digest` is that of the body. -/
def verifyContentDigest (sha256 : Bytes → Bytes) (header : Chars) (body : Bytes) :
    Except SignatureError Unit := do
  let members ← parseDictionary header
  if sha256Digest members = some (sha256 body) then
    return ()
  else
    throw .digestMismatch

/-! ## Requests -/

/-- The characters of methods and of the names of headers. -/
def isTokenChar (c : Char) : Bool :=
  c.isAlphanum || "!#$%&'*+-.^_|~".toList.contains c || c.toNat == 96

/-- The name of a header, in lowercase. -/
structure HeaderName where
  text : Chars
  token : ∀ c ∈ text, isTokenChar c = true
  lower : toAsciiLowercase text = text
deriving DecidableEq

/-- A request as the middleware has it, its body read. -/
structure HttpRequest where
  method : Chars
  path : Chars
  query : Option Chars
  authority : Option Chars
  headers : List (HeaderName × Bytes)
  body : Bytes
  token : ∀ c ∈ method, isTokenChar c = true
  graphic : ∀ c ∈ path ++ query.getD [] ++ authority.getD [], 32 < c.toNat

/-- A byte that `HeaderValue::to_str` lets through. -/
def isVisible (b : UInt8) : Bool := (32 ≤ b && b < 127) || b == 9

/-- The text of a header's value, if there is one. -/
def toStr (value : Bytes) : Option Chars :=
  if value.all isVisible then some (value.map fun b => Char.ofNat b.toNat) else none

def headerValues (headers : List (HeaderName × Bytes)) (name : Chars) : List Chars :=
  ((headers.filter (·.1.text = name)).filterMap fun h => toStr h.2).map trimmed

/-- The values of a header, in one. -/
def header (headers : List (HeaderName × Bytes)) (name : Chars) : Option Chars :=
  if headerValues headers name = [] then none
  else some (", ".toList.intercalate (headerValues headers name))

/-- The header as a component, if it has a value. -/
def addHeader (headers : List (HeaderName × Bytes)) (components : MessageComponents)
    (name : HeaderName) : MessageComponents :=
  match header headers name.text with
  | some value => components.insert name.text value
  | none => components

def addHeaderComponents (components : MessageComponents) (headers : List (HeaderName × Bytes)) :
    MessageComponents :=
  (headers.map Prod.fst).dedup.foldl (addHeader headers) components

namespace HttpRequest

/-- In `Host`, or in the URI. -/
def authorityText (request : HttpRequest) : Option Chars :=
  (header request.headers "host".toList).or request.authority

/-- The components that are no headers. -/
def derivedComponents (request : HttpRequest) : MessageComponents :=
  let components := (MessageComponents.new.insert "@method".toList request.method).insert
    "@path".toList request.path
  let components := match request.authorityText with
    | some authority => components.insert "@authority".toList (toAsciiLowercase authority)
    | none => components
  match request.query with
  | some query => components.insert "@query".toList ('?' :: query)
  | none => components

def components (request : HttpRequest) : MessageComponents :=
  addHeaderComponents request.derivedComponents request.headers

end HttpRequest

/-- Headers that must be covered whenever the request carries them. -/
def coverWhenPresent : List Chars :=
  ["ucp-agent".toList, "signature-agent".toList, "idempotency-key".toList]

/-- What a signature of the request must cover. -/
def HttpRequest.required (request : HttpRequest) : List Chars :=
  ["@method".toList, "@authority".toList, "@path".toList] ++
    (if request.query.isSome then ["@query".toList] else []) ++
    (if request.body ≠ [] then ["content-digest".toList, "content-type".toList] else []) ++
    coverWhenPresent.filter request.components.contains

/-! ## The middleware -/

structure ErrorBody where
  error : String
  code : Option String
deriving DecidableEq, Repr

structure ErrorResponse where
  status : Nat
  body : ErrorBody
deriving DecidableEq, Repr

def maxSignedBodyBytes : Nat := 2 * 1024 * 1024

/-- The paths whose requests must be signed. -/
def signedPathPrefix : Chars := "/api/v1".toList

section Middleware

variable {C : SignatureCrates} (sha256 : Bytes → Bytes)

/-- A body that is there matches its digest. -/
def checkBody (request : HttpRequest) : Except SignatureError Unit :=
  if request.body = [] then .ok ()
  else
    match header request.headers "content-digest".toList with
    | none => .error .digestMismatch
    | some digest => verifyContentDigest sha256 digest request.body

/-- The id that one of the request's signatures verifies under. -/
def verifySignature (ring : VerifyingKeyring C) (request : HttpRequest) (now : Int64) :
    Except SignatureError Chars := do
  let input ← (header request.headers "signature-input".toList).elim (.error .missing) .ok
  let signature ← (header request.headers "signature".toList).elim (.error .missing) .ok
  checkBody sha256 request
  ring.verifyMessage request.components input signature request.required now

/-- The request that is passed on, or the answer in its place. -/
def verifyRequestSignature (inboundKeys : Option (VerifyingKeyring C)) (request : HttpRequest)
    (now : Int64) : Except ErrorResponse HttpRequest :=
  match inboundKeys with
  | none => .ok request
  | some ring =>
      if ¬ signedPathPrefix <+: request.path then .ok request
      else if maxSignedBodyBytes < request.body.length then
        .error ⟨413, "request body is too large to verify", some "SIGNATURE_BODY_TOO_LARGE"⟩
      else
        match verifySignature sha256 ring request now with
        | .ok _ => .ok request
        | .error e => .error ⟨e.httpStatus, e.render, some e.code⟩

end Middleware

/-! ## Line breaks -/

theorem toAsciiLowercase_no_break {s : Chars} (h : '\n' ∉ s) : '\n' ∉ toAsciiLowercase s := by
  intro hmem
  obtain ⟨c, hc, he⟩ := List.mem_map.mp hmem
  have halpha : c.isAlpha = false := by
    rw [← Char.isAlpha_toLower_eq_isAlpha, he]
    rfl
  have hupper : ¬ c.isUpper = true := by
    intro hupper
    rw [Char.isAlpha, hupper] at halpha
    cases halpha
  rw [Char.toLower_eq_of_not_isUpper hupper] at he
  exact h (he ▸ hc)

theorem toStr_no_break {value : Bytes} {s : Chars} (h : toStr value = some s) : '\n' ∉ s := by
  unfold toStr at h
  split at h
  · next hvisible =>
      obtain rfl := Option.some.inj h
      intro hmem
      obtain ⟨b, hb, he⟩ := List.mem_map.mp hmem
      have hb := List.all_eq_true.mp hvisible b hb
      have hten : ∀ n < 256, Char.ofNat n = '\n' → n = 10 := by decide +kernel
      obtain rfl : b = 10 := UInt8.toNat_inj.mp (hten _ b.toNat_lt he)
      cases hb
  · cases h

theorem header_no_break {headers : List (HeaderName × Bytes)} {name value : Chars}
    (h : header headers name = some value) : '\n' ∉ value := by
  unfold header at h
  split at h
  · cases h
  · obtain rfl := Option.some.inj h
    refine notMem_intercalate (by decide) fun w hw => ?_
    obtain ⟨w', hw', rfl⟩ := List.mem_map.mp hw
    obtain ⟨e, -, he⟩ := List.mem_filterMap.mp hw'
    exact fun hc => toStr_no_break he (mem_of_mem_strip hc)

/-- No value has a line break. -/
def MessageComponents.Unbroken (components : MessageComponents) : Prop :=
  ∀ name value, components.get name = some value → '\n' ∉ value

namespace MessageComponents.Unbroken

variable {components : MessageComponents}

theorem new : MessageComponents.new.Unbroken := by
  intro name value h
  cases h

theorem insert (h : components.Unbroken) (name : Chars) {value : Chars} (hvalue : '\n' ∉ value) :
    (components.insert name value).Unbroken := by
  intro name' value' h'
  rw [get_insert] at h'
  split at h'
  · obtain rfl := Option.some.inj h'
    exact fun hc => hvalue (mem_of_mem_strip hc)
  · exact h name' value' h'

theorem addHeaders (h : components.Unbroken) (headers : List (HeaderName × Bytes)) :
    (addHeaderComponents components headers).Unbroken := by
  unfold addHeaderComponents
  induction (headers.map Prod.fst).dedup generalizing components with
  | nil => exact h
  | cons name names ih =>
      refine ih ?_
      unfold addHeader
      split
      · next value hvalue => exact h.insert _ (header_no_break hvalue)
      · exact h

end MessageComponents.Unbroken

/-- The components of a request have no line breaks. -/
theorem HttpRequest.components_unbroken (request : HttpRequest) : request.components.Unbroken := by
  have hgraphic : '\n' ∉ request.path ++ request.query.getD [] ++ request.authority.getD [] := by
    intro hc
    have := request.graphic _ hc
    revert this
    decide
  simp only [List.mem_append, not_or] at hgraphic
  obtain ⟨⟨hpath, hquery⟩, hauthority⟩ := hgraphic
  have hmethod : '\n' ∉ request.method := by
    intro hc
    cases request.token _ hc
  have hauthority : ∀ a, request.authorityText = some a → '\n' ∉ toAsciiLowercase a := by
    intro a ha
    refine toAsciiLowercase_no_break ?_
    rcases Option.or_eq_some_iff.mp ha with hhost | ⟨-, ha⟩
    · exact header_no_break hhost
    · rwa [ha] at hauthority
  have hstart := (MessageComponents.Unbroken.new.insert "@method".toList hmethod).insert
    "@path".toList hpath
  refine MessageComponents.Unbroken.addHeaders ?_ _
  have hmark {q : Chars} (hq : request.query = some q) : '\n' ∉ '?' :: q := by
    rw [hq, Option.getD_some] at hquery
    simp [hquery]
  unfold derivedComponents
  split
  · next a ha =>
      split
      · next q hq => exact (hstart.insert _ (hauthority a ha)).insert _ (hmark hq)
      · exact hstart.insert _ (hauthority a ha)
  · split
    · next q hq => exact hstart.insert _ (hmark hq)
    · exact hstart

/-! ## What the components are -/

theorem header_eq_none {headers : List (HeaderName × Bytes)} {name : Chars}
    (h : ∀ e ∈ headers, e.1.text ≠ name) : header headers name = none := by
  have hfilter : headers.filter (·.1.text = name) = [] := by
    simpa using h
  rw [header, headerValues, hfilter]
  rfl

/-- A header's component is its value, and other names are left as they are. -/
theorem get_addHeaderComponents (components : MessageComponents)
    (headers : List (HeaderName × Bytes)) (name : Chars) :
    (addHeaderComponents components headers).get name =
      ((header headers name).map trimmed).or (components.get name) := by
  have hfold : ∀ (names : List HeaderName) (components : MessageComponents),
      (names.foldl (addHeader headers) components).get name =
        if name ∈ names.map HeaderName.text then
          ((header headers name).map trimmed).or (components.get name)
        else components.get name := by
    intro names
    induction names with
    | nil => exact fun _ => rfl
    | cons n names ih =>
        intro components
        have hadd : (addHeader headers components n).get name =
            if name = n.text then ((header headers name).map trimmed).or (components.get name)
            else components.get name := by
          unfold addHeader
          split
          · next value hvalue =>
              rw [MessageComponents.get_insert, n.lower]
              split
              · next h => rw [h, hvalue]; rfl
              · rfl
          · next hvalue =>
              split
              · next h => rw [h, hvalue]; rfl
              · rfl
        have hagain {o o' : Option Chars} : o.or (o.or o') = o.or o' := by
          rw [← Option.or_assoc, Option.or_self]
        rw [List.foldl_cons, ih, hadd, List.map_cons]
        by_cases hn : name = n.text
        · simp [hn, hagain]
        · simp [hn]
  rw [addHeaderComponents, hfold]
  split
  · rfl
  · next h =>
      rw [header_eq_none]
      · rfl
      · rintro e he rfl
        exact h (List.mem_map_of_mem (List.mem_dedup.mpr (List.mem_map_of_mem he)))

theorem isTokenChar_bounds {c : Char} (h : isTokenChar c = true) :
    33 ≤ c.toNat ∧ c.toNat ≤ 126 := by
  rw [isTokenChar, Bool.or_eq_true, Bool.or_eq_true] at h
  rcases h with (h | h) | h
  · simp only [Char.isAlphanum, Char.isAlpha, Char.isUpper, Char.isLower, Char.isDigit,
      Bool.or_eq_true, Bool.and_eq_true, decide_eq_true_eq, UInt32.le_iff_toNat_le, ge_iff_le] at h
    rcases h with (h | h) | h
    · exact ⟨Nat.le_trans (by decide) h.1, Nat.le_trans h.2 (by decide)⟩
    · exact ⟨Nat.le_trans (by decide) h.1, Nat.le_trans h.2 (by decide)⟩
    · exact ⟨Nat.le_trans (by decide) h.1, Nat.le_trans h.2 (by decide)⟩
  · have hall : "!#$%&'*+-.^_|~".toList.all fun c => decide (33 ≤ c.toNat ∧ c.toNat ≤ 126) := by
      decide
    exact of_decide_eq_true (List.all_eq_true.mp hall c (List.contains_iff_mem.mp h))
  · rw [beq_iff_eq] at h
    omega

section Derived

variable {request : HttpRequest}

/-- No header is named like a derived component. -/
theorem header_at (headers : List (HeaderName × Bytes)) (name : Chars) :
    header headers ('@' :: name) = none := by
  refine header_eq_none fun e _ he => ?_
  have hat := e.1.token '@' (he ▸ List.mem_cons_self)
  cases hat

theorem get_derived (name : Chars) :
    request.components.get ('@' :: name) = request.derivedComponents.get ('@' :: name) := by
  rw [HttpRequest.components, get_addHeaderComponents, header_at]
  rfl

/-- What is no derived component is a header. -/
theorem get_header {name : Chars} (h : request.derivedComponents.get name = none) :
    request.components.get name = (header request.headers name).map trimmed := by
  rw [HttpRequest.components, get_addHeaderComponents, h, Option.or_none]

/-- The derived components are those that the request line and the host give. -/
theorem get_derivedComponents (name : Chars) : request.derivedComponents.get name =
    if name = "@query".toList then request.query.map fun q => trimmed ('?' :: q)
    else if name = "@authority".toList then
      request.authorityText.map fun a => trimmed (toAsciiLowercase a)
    else if name = "@path".toList then some (trimmed request.path)
    else if name = "@method".toList then some (trimmed request.method)
    else none := by
  have hquery : toAsciiLowercase "@query".toList = "@query".toList := by decide
  have hauthority : toAsciiLowercase "@authority".toList = "@authority".toList := by decide
  have hpath : toAsciiLowercase "@path".toList = "@path".toList := by decide
  have hmethod : toAsciiLowercase "@method".toList = "@method".toList := by decide
  have hqa : "@query".toList ≠ "@authority".toList := by decide
  have hap : "@authority".toList ≠ "@path".toList := by decide
  have ham : "@authority".toList ≠ "@method".toList := by decide
  have hqp : "@query".toList ≠ "@path".toList := by decide
  have hqm : "@query".toList ≠ "@method".toList := by decide
  unfold HttpRequest.derivedComponents
  cases request.authorityText <;> cases request.query <;>
    simp only [MessageComponents.get_insert, MessageComponents.get_new, hquery, hauthority, hpath,
      hmethod, Option.map_some, Option.map_none] <;> split_ifs <;> simp_all

theorem get_method : request.components.get "@method".toList = some request.method := by
  have hblank : trimmed request.method = request.method := by
    refine strip_eq_self_of_forall fun c hc => ?_
    have hbounds := isTokenChar_bounds (request.token c hc)
    exact isWhitespace_printable hbounds.1 hbounds.2
  refine (get_derived "method".toList).trans ?_
  rw [get_derivedComponents]
  exact congrArg some hblank

theorem get_path : request.components.get "@path".toList = some (trimmed request.path) :=
  (get_derived "path".toList).trans (get_derivedComponents _)

theorem get_authority : request.components.get "@authority".toList =
    request.authorityText.map fun a => trimmed (toAsciiLowercase a) :=
  (get_derived "authority".toList).trans (get_derivedComponents _)

theorem get_query : request.components.get "@query".toList =
    request.query.map fun q => trimmed ('?' :: q) :=
  (get_derived "query".toList).trans (get_derivedComponents _)

end Derived

/-! ## The signature base gives its components back -/

/-- Two lines begin with the same name, if one name has no blank and the other no quote. -/
theorem quote_cancel {a b x y : Chars} (h : quote a ++ ": ".toList ++ x = quote b ++ ": ".toList ++ y)
    (ha : ' ' ∉ a) (hb : '"' ∉ b) : a = b ∧ x = y := by
  have hline : a ++ '"' :: ':' :: ' ' :: x = b ++ '"' :: ':' :: ' ' :: y := by
    simpa [quote] using h
  rcases List.append_eq_append_iff.mp hline with ⟨s, rfl, hs⟩ | ⟨s, rfl, hs⟩
  · cases s with
    | nil => exact ⟨(List.append_nil a).symm, by simpa using hs⟩
    | cons c s =>
        obtain ⟨rfl, -⟩ := List.cons.inj hs
        simp at hb
  · -- the longer name goes on with what stands behind the shorter one
    rcases s with _ | ⟨c, _ | ⟨d, _ | ⟨e, s⟩⟩⟩
    · exact ⟨List.append_nil b, by simpa using hs.symm⟩
    · simp at hs
    · simp at hs
    · simp only [List.cons_append, List.cons.injEq] at hs
      obtain ⟨-, -, rfl, -⟩ := hs
      simp at ha

/-- The first line of two texts. -/
theorem line_cancel {a b x y : Chars} (h : a ++ '\n' :: x = b ++ '\n' :: y) (ha : '\n' ∉ a)
    (hb : '\n' ∉ b) : a = b ∧ x = y := by
  have hsplit := splitOnce_append (b := y) hb
  rw [← h, splitOnce_append ha] at hsplit
  exact Prod.mk.inj (Option.some.inj hsplit)

theorem componentLines_cons_ok {components : MessageComponents} {name lines : Chars}
    {covered : List Chars} (h : componentLines components (name :: covered) = .ok lines) :
    ∃ value rest, components.get name = some value ∧ componentLines components covered = .ok rest ∧
      lines = quote name ++ ": ".toList ++ (value ++ '\n' :: rest) := by
  rw [componentLines] at h
  split at h
  · cases h
  · next value hvalue =>
      obtain ⟨rest, hrest, h⟩ := bind_eq_ok.mp h
      obtain rfl := Except.ok.inj h
      exact ⟨value, rest, hvalue, hrest, by simp⟩

section Base

variable {received signed : MessageComponents} {raw params : Chars}

theorem lines_inj (hreceived : received.Unbroken) (hparams : received.get "@signature-params".toList = none)
    (hraw : '\n' ∉ raw) {covered : List Chars} (hcovered : ∀ name ∈ covered, ' ' ∉ name) :
    ∀ {names : List Chars} {lines lines' : Chars}, (∀ name ∈ names, '"' ∉ name) →
      (∀ name ∈ names, ∀ value, signed.get name = some value → '\n' ∉ value) →
      componentLines received covered = .ok lines → componentLines signed names = .ok lines' →
      lines ++ (quote "@signature-params".toList ++ ": ".toList ++ raw) =
        lines' ++ (quote "@signature-params".toList ++ ": ".toList ++ params) →
      covered = names ∧ raw = params ∧ ∀ name ∈ covered, received.get name = signed.get name := by
  induction covered with
  | nil =>
      intro names lines lines' hnames hsigned h h' heq
      obtain rfl := Except.ok.inj h
      cases names with
      | nil =>
          obtain rfl := Except.ok.inj h'
          exact ⟨rfl, List.append_cancel_left heq, fun _ h => nomatch h⟩
      | cons name names =>
          obtain ⟨value, rest, -, -, rfl⟩ := componentLines_cons_ok h'
          have hbreak : '\n' ∈ quote "@signature-params".toList ++ ": ".toList ++ raw := by
            rw [List.nil_append] at heq
            rw [heq]
            simp
          simp only [List.mem_append] at hbreak
          rcases hbreak with (hbreak | hbreak) | hbreak
          · exact absurd hbreak (by decide)
          · exact absurd hbreak (by decide)
          · exact absurd hbreak hraw
  | cons name covered ih =>
      intro names lines lines' hnames hsigned h h' heq
      obtain ⟨hname, hcovered⟩ := List.forall_mem_cons.mp hcovered
      obtain ⟨value, rest, hvalue, hrest, rfl⟩ := componentLines_cons_ok h
      cases names with
      | nil =>
          obtain rfl := Except.ok.inj h'
          rw [List.nil_append, List.append_assoc (quote name ++ _)] at heq
          obtain ⟨rfl, -⟩ := quote_cancel heq hname (by decide)
          rw [hparams] at hvalue
          cases hvalue
      | cons name' names =>
          obtain ⟨hname', hrestNames⟩ := List.forall_mem_cons.mp hnames
          obtain ⟨hvalues', hrestValues⟩ := List.forall_mem_cons.mp hsigned
          obtain ⟨value', rest', hvalue', hrest', rfl⟩ := componentLines_cons_ok h'
          rw [List.append_assoc (quote name ++ _), List.append_assoc (quote name' ++ _)] at heq
          obtain ⟨rfl, hlines⟩ := quote_cancel heq hname hname'
          rw [List.append_assoc value, List.append_assoc value'] at hlines
          obtain ⟨rfl, hbelow⟩ := line_cancel hlines (hreceived _ _ hvalue) (hvalues' _ hvalue')
          obtain ⟨rfl, rfl, hall⟩ := ih hcovered hrestNames hrestValues hrest hrest' hbelow
          exact ⟨rfl, rfl, List.forall_mem_cons.mpr ⟨hvalue.trans hvalue'.symm, hall⟩⟩

/-- **The signature base gives its components back.** -/
theorem signatureBase_inj {covered names : List Chars} {base : Chars}
    (hreceived : received.Unbroken) (hparams : received.get "@signature-params".toList = none)
    (hraw : '\n' ∉ raw) (hcovered : ∀ name ∈ covered, ' ' ∉ name) (hnames : ∀ name ∈ names, '"' ∉ name)
    (hsigned : ∀ name ∈ names, ∀ value, signed.get name = some value → '\n' ∉ value)
    (h : signatureBase received covered raw = .ok base)
    (h' : signatureBase signed names params = .ok base) :
    covered = names ∧ raw = params ∧ ∀ name ∈ covered, received.get name = signed.get name := by
  obtain ⟨lines, hlines, h⟩ := bind_eq_ok.mp h
  obtain ⟨lines', hlines', h'⟩ := bind_eq_ok.mp h'
  have heq := (Except.ok.inj h).trans (Except.ok.inj h').symm
  rw [List.append_assoc, List.append_assoc] at heq
  exact lines_inj hreceived hparams hraw hcovered hnames hsigned hlines hlines' heq

end Base

/-! ## Blanks around a dictionary -/

section Blanks

variable {l : Lexer} {s t current : Chars}

theorem plain_of_isWhitespace {c : Char} (h : isWhitespace c = true) : Lexer.plain c = true := by
  have hne {d : Char} (hd : isWhitespace d = false) : c ≠ d := by
    rintro rfl
    exact Bool.false_ne_true (hd.symm.trans h)
  simp only [Lexer.plain, Bool.and_eq_true, bne_iff_ne]
  exact ⟨⟨⟨⟨⟨hne (by decide), hne (by decide)⟩, hne (by decide)⟩, hne (by decide)⟩,
    hne (by decide)⟩, hne (by decide)⟩

/-- A backslash counts in a string only. -/
theorem Lexer.next_quoted {c : Char} :
    (l.next c).escaped = true → (l.next c).inString = true := by
  unfold Lexer.next
  split
  · intro he
    cases he
  · next hl =>
      have hfalse {P : Prop} (he : l.escaped = true) : P := absurd he hl
      split
      · next hc => exact fun _ => hc.2
      · split
        · exact hfalse
        · split
          · exact hfalse
          · split
            · exact hfalse
            · split
              · exact hfalse
              · exact hfalse

theorem map_trimmed_cons (members : Option (List Chars)) :
    (members.map (current :: ·)).map (List.map trimmed) =
      (members.map (List.map trimmed)).map (trimmed current :: ·) := by
  rw [Option.map_map, Option.map_map]
  rfl

/-- Blanks behind the text belong to its last member. -/
theorem splitMembers_append_blank (ht : ∀ c ∈ t, isWhitespace c = true) :
    ∀ {l : Lexer} {current : Chars}, (l.escaped = true → l.inString = true) →
      (splitMembers l current (s ++ t)).map (List.map trimmed) =
        (splitMembers l current s).map (List.map trimmed) := by
  induction s with
  | nil =>
      intro l current hl
      have hplain : ∀ c ∈ t, Lexer.plain c = true := fun c hc => plain_of_isWhitespace (ht c hc)
      cases hescaped : l.escaped with
      | false =>
          rw [List.nil_append, splitMembers_of_reads (Lexer.reads_plain hplain hescaped),
            splitMembers]
          split
          · simp [trimmed, strip_append_right ht]
          · rfl
      | true =>
          -- a string is left open
          have hopen : l.closed = false := by
            simp [Lexer.closed, hl hescaped]
          cases t with
          | nil => rfl
          | cons c t =>
              obtain ⟨-, hplain⟩ := List.forall_mem_cons.mp hplain
              have hsplits : ¬ l.splits c = true := by
                simp [Lexer.splits, hescaped]
              have hnext : l.next c = { l with escaped := false } := if_pos hescaped
              have hread : l.reads (c :: t) = some { l with escaped := false } := by
                rw [Lexer.reads, if_neg hsplits, hnext]
                exact Lexer.reads_plain hplain rfl
              rw [List.nil_append, splitMembers_of_reads hread, splitMembers, hopen]
              simp [Lexer.closed, hl hescaped]
  | cons c s ih =>
      intro l current hl
      rw [List.cons_append, splitMembers, splitMembers]
      split
      · rw [map_trimmed_cons, map_trimmed_cons, ih hl]
      · exact ih Lexer.next_quoted

/-- Blanks before the text belong to its first member. -/
theorem splitMembers_blank_append (ht : ∀ c ∈ t, isWhitespace c = true) :
    ∀ {l : Lexer} {current : Chars},
      (splitMembers l (t ++ current) s).map (List.map trimmed) =
        (splitMembers l current s).map (List.map trimmed) := by
  induction s with
  | nil =>
      intro l current
      rw [splitMembers, splitMembers]
      split
      · simp [trimmed, strip_append_left ht]
      · rfl
  | cons c s ih =>
      intro l current
      rw [splitMembers, splitMembers]
      split
      · rw [map_trimmed_cons, map_trimmed_cons]
        exact congrArg (fun w => Option.map (w :: ·) _) (strip_append_left ht)
      · rw [List.append_assoc]
        exact ih

/-- **Blanks around a dictionary do not matter.** -/
theorem parseDictionary_trimmed (header : Chars) :
    parseDictionary (trimmed header) = parseDictionary header := by
  obtain ⟨a, b, hshape, ha, hb⟩ := exists_strip isWhitespace header
  have hmembers : (splitMembers {} [] header).map (List.map trimmed) =
      (splitMembers {} [] (trimmed header)).map (List.map trimmed) := by
    have hfirst : splitMembers {} [] (a ++ trimmed header) = splitMembers {} (a ++ []) (trimmed header) := by
      rw [List.append_nil]
      exact splitMembers_reads
        (Lexer.reads_plain (fun c hc => plain_of_isWhitespace (ha c hc)) rfl)
    have hquoted : ({} : Lexer).escaped = true → ({} : Lexer).inString = true := by
      intro h
      cases h
    conv_lhs => rw [hshape]
    rw [splitMembers_append_blank hb hquoted]
    show Option.map _ (splitMembers {} [] (a ++ trimmed header)) = _
    rw [hfirst, splitMembers_blank_append ha]
  unfold parseDictionary
  cases h : splitMembers {} [] header with
  | none =>
      rw [h, Option.map_none, eq_comm, Option.map_eq_none_iff] at hmembers
      rw [hmembers]
  | some members =>
      rw [h, Option.map_some, eq_comm, Option.map_eq_some_iff] at hmembers
      obtain ⟨members', h', he⟩ := hmembers
      rw [h']
      show List.mapM readMember ((members'.map trimmed).filter _) = _
      rw [he]

end Blanks

/-! ## Accepted requests -/

/-- A message as its signer has it: the components it gave, which of them it covered, its member
of `Signature-Input`, and its body. -/
structure SignerMessage where
  components : MessageComponents
  covered : List Chars
  params : Chars
  body : Bytes

namespace SignerMessage

def base (m : SignerMessage) : Except SignatureError Chars :=
  signatureBase m.components m.covered m.params

/-- The covered names could be names of components, and their values fit on a line. -/
structure Valid (m : SignerMessage) : Prop where
  names : ∀ name ∈ m.covered, ∀ c ∈ name, isTokenChar c = true ∨ c = '@'
  values : ∀ name ∈ m.covered, ∀ value, m.components.get name = some value → '\n' ∉ value

/-- The digest it gave is that of its body. -/
def Digested (sha256 : Bytes → Bytes) (m : SignerMessage) : Prop :=
  ∀ value, m.components.get "content-digest".toList = some value →
    verifyContentDigest sha256 value m.body = .ok ()

theorem Valid.no_quote {m : SignerMessage} (h : m.Valid) : ∀ name ∈ m.covered, '"' ∉ name := by
  intro name hname hc
  rcases h.names name hname _ hc with h | h
  · cases h
  · cases h

end SignerMessage

section Accepted

variable {C : SignatureCrates}

/-- The keys of the ring verify nothing but what the signers signed. -/
def Unforged (ring : VerifyingKeyring C) (signers : Set SignerMessage) : Prop :=
  ∀ e ∈ ring.keys, ∀ payload signature, e.2.verify payload signature = true →
    ∃ m ∈ signers, ∃ base, m.base = .ok base ∧ payload = utf8 base

/-- A signature of the request that verifies: its member of `Signature-Input`, what was read
from it, and the signature base. -/
structure VerifiedBy (ring : VerifyingKeyring C) (request : HttpRequest) (now : Int64)
    (raw : Chars) (params : SignatureParams) (base : Chars) : Prop where
  member : ∃ input inputs label, header request.headers "signature-input".toList = some input ∧
    parseDictionary input = .ok inputs ∧ (label, raw) ∈ inputs
  accepted : ∃ value key bytes, Accepted ring request.components raw value request.required now
    params key bytes base

variable {sha256 : Bytes → Bytes} {ring : VerifyingKeyring C} {request passed : HttpRequest}
  {now : Int64} {signers : Set SignerMessage}

/-- What an accepted request has gone through. -/
theorem verifyRequestSignature_eq_ok (hpath : signedPathPrefix <+: request.path)
    (h : verifyRequestSignature sha256 (some ring) request now = .ok passed) :
    passed = request ∧ checkBody sha256 request = .ok () ∧
      ∃ raw params base, VerifiedBy ring request now raw params base := by
  unfold verifyRequestSignature at h
  simp only [hpath, not_true_eq_false, if_false] at h
  split at h
  · cases h
  split at h
  · next kid hkid =>
      refine ⟨(Except.ok.inj h).symm, ?_⟩
      obtain ⟨input, hinput, hkid⟩ := bind_eq_ok.mp hkid
      obtain ⟨signature, -, hkid⟩ := bind_eq_ok.mp hkid
      obtain ⟨⟨⟩, hbody, hkid⟩ := bind_eq_ok.mp hkid
      obtain ⟨inputs, signatures, hinputs, -, member, hmember, hone⟩ := verifyMessage_ok hkid
      obtain ⟨params, key, bytes, base, haccepted, -⟩ := verifyOne_eq_ok.mp hone
      exact ⟨hbody, member.2, params, base,
        ⟨input, inputs, member.1, elim_eq_ok.mp hinput, hinputs, hmember⟩, _, key, bytes, haccepted⟩
  · cases h

/-- **A signature that verifies is a signer's**, and what it covers is what the signer has. -/
theorem VerifiedBy.signer {raw base : Chars} {params : SignatureParams}
    (h : VerifiedBy ring request now raw params base) (hvalid : ∀ m ∈ signers, m.Valid)
    {m : SignerMessage} (hm : m ∈ signers) (hbase : m.base = .ok base) :
    params.covered = m.covered ∧ raw = m.params ∧
      ∀ name ∈ m.covered, request.components.get name = m.components.get name := by
  obtain ⟨input, inputs, label, hinput, hinputs, hmember⟩ := h.member
  obtain ⟨value, key, bytes, haccepted⟩ := h.accepted
  obtain ⟨-, -, -, hnames, -⟩ := parseSignatureParams_eq_ok haccepted.parsed
  have hraw : '\n' ∉ raw := by
    obtain ⟨members, hmembers, hparts⟩ := parseDictionary_eq_ok hinputs
    obtain ⟨part, hpart, hpartOf⟩ := hparts _ hmember
    have hpartOf := hpartOf.trans (mem_splitMembers hmembers part hpart)
    exact fun hc => header_no_break hinput (hpartOf.subset hc)
  have hcovered : ∀ name ∈ params.covered, ' ' ∉ name := by
    intro name hname hc
    cases (hnames name hname).1 _ hc
  have habsent : request.components.get "@signature-params".toList = none :=
    (get_derived "signature-params".toList).trans (get_derivedComponents _)
  obtain ⟨hsame, hparams, hvalues⟩ := signatureBase_inj request.components_unbroken habsent hraw
    hcovered (hvalid m hm).no_quote (hvalid m hm).values haccepted.built hbase
  exact ⟨hsame, hparams, hsame ▸ hvalues⟩

theorem VerifiedBy.exists_signer {raw base : Chars} {params : SignatureParams}
    (h : VerifiedBy ring request now raw params base) (hunforged : Unforged ring signers) :
    ∃ m ∈ signers, m.base = .ok base := by
  obtain ⟨value, key, bytes, haccepted⟩ := h.accepted
  obtain ⟨m, hm, base', hbase, heq⟩ := hunforged _ (findKey_eq_ok haccepted.found) _ _
    haccepted.verified
  exact ⟨m, hm, utf8_injective heq ▸ hbase⟩

theorem get_of_signatureBase {components : MessageComponents} {covered : List Chars}
    {params base : Chars} (h : signatureBase components covered params = .ok base) :
    ∀ name ∈ covered, ∃ value, components.get name = some value := by
  obtain ⟨lines, hlines, -⟩ := bind_eq_ok.mp h
  clear h
  induction covered generalizing lines with
  | nil => exact fun name hname => nomatch hname
  | cons name covered ih =>
      obtain ⟨value, rest, hvalue, hrest, -⟩ := componentLines_cons_ok hlines
      exact List.forall_mem_cons.mpr ⟨⟨value, hvalue⟩, ih rest hrest⟩

/-! ### The body -/

theorem checkBody_of_header {digest : Chars} (hbody : request.body ≠ [])
    (h : header request.headers "content-digest".toList = some digest) :
    checkBody sha256 request = verifyContentDigest sha256 digest request.body := by
  rw [checkBody, if_neg hbody, h]

theorem verifyContentDigest_eq_ok {value : Chars} {body : Bytes} :
    verifyContentDigest sha256 value body = .ok () ↔ ∃ members, parseDictionary value = .ok members ∧
      sha256Digest members = some (sha256 body) := by
  unfold verifyContentDigest
  rw [bind_eq_ok]
  refine exists_congr fun members => and_congr_right fun _ => ?_
  split
  · next h => exact iff_of_true rfl h
  · next h => exact iff_of_false (fun he => nomatch he) h

theorem verifyContentDigest_trimmed (value : Chars) (body : Bytes) :
    verifyContentDigest sha256 (trimmed value) body = verifyContentDigest sha256 value body := by
  rw [verifyContentDigest, parseDictionary_trimmed]
  rfl

/-- One value is the digest of one body at most, as long as digests do not collide. -/
theorem sha256_eq_of_verified {value : Chars} {a b : Bytes}
    (ha : verifyContentDigest sha256 value a = .ok ())
    (hb : verifyContentDigest sha256 value b = .ok ()) : sha256 a = sha256 b := by
  obtain ⟨members, hmembers, ha⟩ := verifyContentDigest_eq_ok.mp ha
  obtain ⟨members', hmembers', hb⟩ := verifyContentDigest_eq_ok.mp hb
  obtain rfl := Except.ok.inj (hmembers.symm.trans hmembers')
  exact Option.some.inj (ha.symm.trans hb)

/-- **The body that is passed on is the one that was signed** if and only if there is one, or
the digest is that of the empty body. -/
theorem body_signed_iff (hunforged : Unforged ring signers) (hvalid : ∀ m ∈ signers, m.Valid)
    (hdigested : ∀ m ∈ signers, m.Digested sha256)
    (hcollision : ∀ m ∈ signers, sha256 request.body = sha256 m.body → request.body = m.body)
    (hpath : signedPathPrefix <+: request.path)
    (hpassed : verifyRequestSignature sha256 (some ring) request now = .ok passed)
    {raw base : Chars} {params : SignatureParams}
    (hverified : VerifiedBy ring request now raw params base)
    (hcovers : "content-digest".toList ∈ params.covered) :
    (∃ m ∈ signers, m.base = .ok base) ∧ ∀ m ∈ signers, m.base = .ok base →
      (passed.body = m.body ↔ (request.body = [] → ∃ digest,
        header request.headers "content-digest".toList = some digest ∧
          verifyContentDigest sha256 digest [] = .ok ())) := by
  obtain ⟨rfl, hbody, -⟩ := verifyRequestSignature_eq_ok hpath hpassed
  refine ⟨hverified.exists_signer hunforged, fun m hm hbase => ?_⟩
  obtain ⟨hcovered, -, hvalues⟩ := hverified.signer hvalid hm hbase
  have hvalue := hvalues _ (hcovered ▸ hcovers)
  obtain ⟨_, _, _, haccepted⟩ := hverified.accepted
  obtain ⟨value, hpresent⟩ := get_of_signatureBase haccepted.built _ hcovers
  have hheader : passed.components.get "content-digest".toList = _ :=
    get_header (get_derivedComponents _)
  rw [hpresent, eq_comm, Option.map_eq_some_iff] at hheader
  obtain ⟨digest, hdigest, rfl⟩ := hheader
  have hsigned := hdigested m hm _ (hvalue.symm.trans hpresent)
  rw [verifyContentDigest_trimmed] at hsigned
  -- either way the received body has the digest that the signer gave
  have hsame (h : verifyContentDigest sha256 digest passed.body = .ok ()) : passed.body = m.body :=
    hcollision m hm (sha256_eq_of_verified h hsigned)
  constructor
  · intro heq hempty
    exact ⟨digest, hdigest, by rwa [← heq, hempty] at hsigned⟩
  · intro hcond
    cases hempty : passed.body with
    | nil =>
        obtain ⟨digest', hdigest', hverify⟩ := hcond hempty
        obtain rfl := Option.some.inj (hdigest.symm.trans hdigest')
        exact hempty ▸ hsame (hempty ▸ hverify)
    | cons b body =>
        refine hempty ▸ hsame ?_
        rwa [checkBody_of_header (by simp [hempty]) hdigest] at hbody

/-! ### The components -/

/-- The message agrees with the request in every component that the request must cover. -/
structure Binds (m : SignerMessage) (request : HttpRequest) : Prop where
  covers : ∀ name ∈ request.required, name ∈ m.covered
  method : m.components.get "@method".toList = some request.method
  authority : ∃ authority, request.authorityText = some authority ∧
    m.components.get "@authority".toList = some (trimmed (toAsciiLowercase authority))
  path : m.components.get "@path".toList = some (trimmed request.path)
  query : ∀ query, request.query = some query →
    m.components.get "@query".toList = some (trimmed ('?' :: query))
  no_query : request.query = none → "@query".toList ∉ m.covered
  content : request.body ≠ [] → ∀ name ∈ ["content-digest".toList, "content-type".toList],
    ∃ value, header request.headers name = some value ∧
      m.components.get name = some (trimmed value)
  present : ∀ e ∈ request.headers, e.1.text ∈ coverWhenPresent →
    ∃ value, header request.headers e.1.text = some value ∧
      m.components.get e.1.text = some (trimmed value)

/-- A header with a text has a value. -/
theorem header_of_mem {headers : List (HeaderName × Bytes)} {e : HeaderName × Bytes}
    (he : e ∈ headers) (hvisible : (toStr e.2).isSome = true) :
    ∃ value, header headers e.1.text = some value := by
  obtain ⟨s, hs⟩ := Option.isSome_iff_exists.mp hvisible
  have hmem : trimmed s ∈ headerValues headers e.1.text :=
    List.mem_map_of_mem (List.mem_filterMap.mpr ⟨e, List.mem_filter.mpr ⟨he, by simp⟩, hs⟩)
  exact ⟨_, if_neg (List.ne_nil_of_mem hmem)⟩

theorem required_line {name : Chars}
    (h : name ∈ ["@method".toList, "@authority".toList, "@path".toList]) : name ∈ request.required :=
  List.mem_append_left _ (List.mem_append_left _ (List.mem_append_left _ h))

theorem required_query {query : Chars} (h : request.query = some query) :
    "@query".toList ∈ request.required := by
  refine List.mem_append_left _ (List.mem_append_left _ (List.mem_append_right _ ?_))
  rw [h]
  exact List.mem_singleton_self _

theorem required_content {name : Chars} (h : request.body ≠ [])
    (hname : name ∈ ["content-digest".toList, "content-type".toList]) : name ∈ request.required := by
  refine List.mem_append_left _ (List.mem_append_right _ ?_)
  rwa [if_pos h]

theorem required_present {name : Chars} (h : request.components.contains name = true)
    (hname : name ∈ coverWhenPresent) : name ∈ request.required :=
  List.mem_append_right _ (List.mem_filter.mpr ⟨hname, h⟩)

theorem derived_of_content {name : Chars}
    (h : name ∈ ["content-digest".toList, "content-type".toList]) :
    request.derivedComponents.get name = none := by
  simp only [List.mem_cons, List.not_mem_nil, or_false] at h
  rcases h with rfl | rfl <;> exact get_derivedComponents _

theorem derived_of_coverWhenPresent {name : Chars} (h : name ∈ coverWhenPresent) :
    request.derivedComponents.get name = none := by
  simp only [coverWhenPresent, List.mem_cons, List.not_mem_nil, or_false] at h
  rcases h with rfl | rfl | rfl <;> exact get_derivedComponents _

/-- **An accepted request agrees with a message that was signed** under the same member of
`Signature-Input`. -/
theorem components_bound (hunforged : Unforged ring signers) (hvalid : ∀ m ∈ signers, m.Valid)
    (hpath : signedPathPrefix <+: request.path)
    (hvisible : ∀ e ∈ request.headers, (toStr e.2).isSome = true)
    (hpassed : verifyRequestSignature sha256 (some ring) request now = .ok passed) :
    ∃ m ∈ signers, (∃ input inputs label, header request.headers "signature-input".toList = some input ∧
      parseDictionary input = .ok inputs ∧ (label, m.params) ∈ inputs) ∧ Binds m request := by
  obtain ⟨-, -, raw, params, base, hverified⟩ := verifyRequestSignature_eq_ok hpath hpassed
  obtain ⟨m, hm, hbase⟩ := hverified.exists_signer hunforged
  obtain ⟨hcovered, rfl, hvalues⟩ := hverified.signer hvalid hm hbase
  obtain ⟨_, _, _, haccepted⟩ := hverified.accepted
  have hrequired : ∀ name ∈ request.required, name ∈ m.covered := by
    rw [← hcovered]
    exact checkCoverage_eq_ok.mp haccepted.covers
  have hget (name : Chars) (hname : name ∈ request.required) :
      m.components.get name = request.components.get name :=
    (hvalues name (hrequired name hname)).symm
  have hpresent := get_of_signatureBase haccepted.built
  refine ⟨m, hm, hverified.member,
    { covers := hrequired, method := ?_, authority := ?_, path := ?_, query := ?_, no_query := ?_,
      content := ?_, present := ?_ }⟩
  · exact (hget _ (required_line (by decide))).trans get_method
  · have hname : "@authority".toList ∈ request.required := required_line (by decide)
    obtain ⟨value, hvalue⟩ := hpresent _ (hcovered ▸ hrequired _ hname)
    have hauthority : request.components.get "@authority".toList = _ := get_authority
    rw [hvalue, eq_comm, Option.map_eq_some_iff] at hauthority
    obtain ⟨authority, hsome, rfl⟩ := hauthority
    exact ⟨authority, hsome, (hget _ hname).trans hvalue⟩
  · exact (hget _ (required_line (by decide))).trans get_path
  · intro query hquery
    refine (hget _ (required_query hquery)).trans ?_
    rw [get_query, hquery, Option.map_some]
  · intro hquery hmem
    obtain ⟨value, hvalue⟩ := hpresent _ (hcovered ▸ hmem)
    rw [get_query, hquery] at hvalue
    cases hvalue
  · intro hbody name hname
    have hmem := required_content hbody hname
    obtain ⟨value, hvalue⟩ := hpresent _ (hcovered ▸ hrequired _ hmem)
    have hheader : request.components.get name = _ := get_header (derived_of_content hname)
    rw [hvalue, eq_comm, Option.map_eq_some_iff] at hheader
    obtain ⟨text, htext, rfl⟩ := hheader
    exact ⟨text, htext, (hget _ hmem).trans hvalue⟩
  · intro e he hname
    obtain ⟨text, htext⟩ := header_of_mem he (hvisible e he)
    have hvalue : request.components.get e.1.text = _ :=
      get_header (derived_of_coverWhenPresent hname)
    rw [htext, Option.map_some] at hvalue
    refine ⟨text, htext, (hget _ (required_present ?_ hname)).trans hvalue⟩
    rw [MessageComponents.contains, hvalue]
    rfl

end Accepted

/-! ### An agent's requests -/

namespace AgentRequest

def emptyObject : Bytes := [0x7b, 0x7d]

/-- The digests of the empty object and of nothing. -/
def sha256 (body : Bytes) : Bytes :=
  if body = emptyObject then
    [0x44, 0x13, 0x6f, 0xa3, 0x55, 0xb3, 0x67, 0x8a, 0x11, 0x46, 0xad, 0x16, 0xf7, 0xe8,
     0x64, 0x9e, 0x94, 0xfb, 0x4f, 0xc2, 0x1f, 0xe7, 0x7e, 0x83, 0x10, 0xc0, 0x60, 0xf6,
     0x1c, 0xaa, 0xff, 0x8a]
  else if body = [] then
    [0xe3, 0xb0, 0xc4, 0x42, 0x98, 0xfc, 0x1c, 0x14, 0x9a, 0xfb, 0xf4, 0xc8, 0x99, 0x6f,
     0xb9, 0x24, 0x27, 0xae, 0x41, 0xe4, 0x64, 0x9b, 0x93, 0x4c, 0xa4, 0x95, 0x99, 0x1b,
     0x78, 0x52, 0xb8, 0x55]
  else []

/-- The `Content-Digest` of the empty object. -/
def digestValue : Chars :=
  "sha-256=:RBNvo1WzZ4o".toList ++ "RRq0W9+hknpT7T8If5".toList ++ "36DEMBg9hyq/4o=:".toList

/-- A component's line. -/
def line (name : String) (value : Chars) : Chars :=
  quote name.toList ++ ": ".toList ++ value ++ ['\n']

/-- The parameters under the agent's id. -/
def params (covered : List Chars) : Chars :=
  signatureParams covered 1760000000 "agent-1".toList none

def updateCovered : List Chars :=
  ["@method".toList, "@authority".toList, "@path".toList, "content-digest".toList,
    "content-type".toList]

def questionCovered : List Chars := ["@method".toList, "@authority".toList, "@path".toList]

/-- An update of a cart with an empty object. -/
def update : SignerMessage where
  components := ((((MessageComponents.new.insert "@method".toList "POST".toList).insert
    "@authority".toList "merchant.example.com".toList).insert "@path".toList
      "/api/v1/ucp/cart".toList).insert "content-digest".toList
        digestValue).insert "content-type".toList "application/json".toList
  covered := updateCovered
  params := params updateCovered
  body := emptyObject

/-- A question with a query that is not covered. -/
def question : SignerMessage where
  components := (((MessageComponents.new.insert "@method".toList "GET".toList).insert
    "@authority".toList "merchant.example.com".toList).insert "@path".toList
      "/api/v1/orders".toList).insert "@query".toList "?limit=1".toList
  covered := questionCovered
  params := params questionCovered
  body := []

def signers : Set SignerMessage := {m | m = update ∨ m = question}

def updateLines : Chars :=
  line "@method" "POST".toList ++ (line "@authority" "merchant.example.com".toList ++
    (line "@path" "/api/v1/ucp/cart".toList ++ (line "content-digest" digestValue ++
      line "content-type" "application/json".toList)))

def questionLines : Chars :=
  line "@method" "GET".toList ++ (line "@authority" "merchant.example.com".toList ++
    line "@path" "/api/v1/orders".toList)

def base (lines : Chars) (covered : List Chars) : Chars :=
  lines ++ "\"@signature-params\": ".toList ++ params covered

def updateSignature : Bytes :=
  [0xb8, 0xc3, 0xa9, 0x86, 0x01, 0xf9, 0xbf, 0xe9, 0xf1, 0x92, 0xb8, 0xc6, 0x77, 0xbc,
   0x0d, 0xc8, 0x01, 0x0d, 0x81, 0x30, 0xcf, 0xb2, 0xe7, 0x5d, 0xd3, 0x89, 0xe5, 0x10,
   0x11, 0xc3, 0x7b, 0x73, 0xd5, 0xd5, 0x56, 0xe5, 0xb6, 0xcb, 0x67, 0x0a, 0x5a, 0x82,
   0xf2, 0x81, 0xb8, 0x18, 0xaf, 0x5d, 0x05, 0x94, 0x87, 0xb1, 0xf7, 0x93, 0x2a, 0xfe,
   0x2a, 0x05, 0x21, 0xf4, 0xfb, 0xdf, 0xa4, 0x02]

def questionSignature : Bytes :=
  [0x5a, 0x57, 0x98, 0xa9, 0xad, 0xde, 0x6b, 0x11, 0x20, 0x46, 0xbf, 0x2d, 0x4b, 0xe5,
   0x89, 0x46, 0x0a, 0x59, 0xd4, 0xa2, 0xf9, 0xf3, 0x8c, 0x40, 0x85, 0xc4, 0xa9, 0x8c,
   0x10, 0x29, 0x73, 0x31, 0x3b, 0x97, 0xb8, 0x9c, 0x1e, 0xc4, 0x20, 0x59, 0xf9, 0x90,
   0x04, 0x95, 0x86, 0xda, 0xb6, 0x48, 0xe4, 0xba, 0x2a, 0x19, 0xd5, 0x2d, 0x02, 0x0e,
   0xff, 0x1b, 0x05, 0x5a, 0x1f, 0xb6, 0x07, 0x08]

/-- The two signatures of the agent's key. -/
def verifies (payload signature : Bytes) : Bool :=
  (payload == utf8 (base updateLines updateCovered) && signature == updateSignature) ||
    (payload == utf8 (base questionLines questionCovered) && signature == questionSignature)

/-- The crates, as far as the agent's key and its two signatures go. -/
def crates : SignatureCrates :=
  { AgentMessage.crates with ed25519Verify := fun _ payload signature => verifies payload signature }

def ring : VerifyingKeyring crates :=
  ⟨[("agent-1".toList, .ed25519 ⟨AgentMessage.publicKey, AgentMessage.publicKey_length⟩)],
    by intro e he; obtain rfl := List.mem_singleton.mp he; decide, List.nodup_singleton _⟩

def headerName (name : String)
    (h : (name.toList.all isTokenChar && toAsciiLowercase name.toList == name.toList) = true) :
    HeaderName :=
  ⟨name.toList, fun c hc => List.all_eq_true.mp (Bool.and_eq_true_iff.mp h).1 c hc,
    beq_iff_eq.mp (Bool.and_eq_true_iff.mp h).2⟩

def ascii (s : Chars) : Bytes := s.map fun c => UInt8.ofNat c.toNat

def signatureHeaders (covered : List Chars) (signature : Bytes) : List (HeaderName × Bytes) :=
  [(headerName "host" (by decide), ascii "merchant.example.com".toList),
    (headerName "signature-input" (by decide), ascii (signatureLabel ++ '=' :: params covered)),
    (headerName "signature" (by decide),
      ascii (signatureLabel ++ "=:".toList ++ encodeStandard signature ++ [':']))]

theorem valid_of_all {m : SignerMessage} (h : (m.covered.all fun name =>
    name.all (fun c => isTokenChar c || c == '@') &&
      (m.components.get name).all fun value => value.all (· != '\n')) = true) : m.Valid where
  names name hname c hc := by
    have hname := (Bool.and_eq_true_iff.mp (List.all_eq_true.mp h name hname)).1
    simpa using List.all_eq_true.mp hname c hc
  values name hname value hvalue := by
    have hname := (Bool.and_eq_true_iff.mp (List.all_eq_true.mp h name hname)).2
    rw [hvalue, Option.all_some] at hname
    intro hc
    simpa using List.all_eq_true.mp hname _ hc

/-- The names could be names, the values have no line breaks. -/
def fits (m : SignerMessage) : Bool :=
  m.covered.all fun name => name.all (fun c => isTokenChar c || c == '@') &&
    (m.components.get name).all fun value => value.all (· != '\n')

/-- What the two messages look like. -/
theorem signed_eq : (fits update && fits question) = true ∧
    componentLines update.components updateCovered = .ok updateLines ∧
    componentLines question.components questionCovered = .ok questionLines ∧
    update.components.get "content-digest".toList = some digestValue ∧
    question.components.get "content-digest".toList = none ∧
    question.components.get "@query".toList = some "?limit=1".toList ∧
    verifyContentDigest sha256 digestValue emptyObject = .ok () := by
  decide +kernel

theorem signers_valid : ∀ m ∈ signers, m.Valid := by
  obtain ⟨hupdate, hquestion⟩ := Bool.and_eq_true_iff.mp signed_eq.1
  rintro m (rfl | rfl)
  · exact valid_of_all hupdate
  · exact valid_of_all hquestion

theorem signatureBase_eq {components : MessageComponents} {covered : List Chars} {lines : Chars}
    (h : componentLines components covered = .ok lines) :
    signatureBase components covered (params covered) = .ok (base lines covered) := by
  rw [signatureBase, h]
  rfl

theorem update_base : update.base = .ok (base updateLines updateCovered) :=
  signatureBase_eq signed_eq.2.1

theorem question_base : question.base = .ok (base questionLines questionCovered) :=
  signatureBase_eq signed_eq.2.2.1

theorem unforged : Unforged ring signers := by
  intro e he payload signature h
  obtain rfl := List.mem_singleton.mp he
  have h := (Bool.and_eq_true_iff.mp h).2
  rcases Bool.or_eq_true_iff.mp h with h | h
  · exact ⟨update, Or.inl rfl, _, update_base, beq_iff_eq.mp (Bool.and_eq_true_iff.mp h).1⟩
  · exact ⟨question, Or.inr rfl, _, question_base, beq_iff_eq.mp (Bool.and_eq_true_iff.mp h).1⟩

theorem signers_digested : ∀ m ∈ signers, m.Digested sha256 := by
  obtain ⟨-, -, -, hupdate, hquestion, -, hdigest⟩ := signed_eq
  rintro m (rfl | rfl) value hvalue
  · obtain rfl := Option.some.inj (hupdate.symm.trans hvalue)
    exact hdigest
  · cases hquestion.symm.trans hvalue

theorem graphic_of_all {s : Chars} (h : (s.all fun c => decide (32 < c.toNat)) = true) :
    ∀ c ∈ s, 32 < c.toNat :=
  fun c hc => of_decide_eq_true (List.all_eq_true.mp h c hc)

def updateHeaders : List (HeaderName × Bytes) :=
  signatureHeaders updateCovered updateSignature ++
    [(headerName "content-digest" (by decide),
        ascii digestValue),
      (headerName "content-type" (by decide), ascii "application/json".toList)]

/-- The update as it is received, with a body. -/
def received (body : Bytes) : HttpRequest where
  method := "POST".toList
  path := "/api/v1/ucp/cart".toList
  query := none
  authority := none
  headers := updateHeaders
  body := body
  token := List.all_eq_true.mp (by decide)
  graphic := graphic_of_all (by decide)

/-- The question as it is received, without its query. -/
def asked : HttpRequest where
  method := "GET".toList
  path := "/api/v1/orders".toList
  query := none
  authority := none
  headers := signatureHeaders questionCovered questionSignature
  body := []
  token := List.all_eq_true.mp (by decide)
  graphic := graphic_of_all (by decide)

theorem passed_of_verified {request : HttpRequest} {now : Int64} (kid : Chars)
    (hpath : signedPathPrefix <+: request.path) (hbody : request.body.length ≤ maxSignedBodyBytes)
    (h : verifySignature sha256 ring request now = .ok kid) :
    verifyRequestSignature sha256 (some ring) request now = .ok request := by
  simp only [verifyRequestSignature, hpath, not_true_eq_false, if_false]
  rw [if_neg (Nat.not_lt.mpr hbody), h]

theorem roundTrips_of_all {covered : List Chars}
    (hnames : (covered.all fun name => name.all fun c => !isWhitespace c && c != ')') = true)
    (hmember : (({} : Lexer).reads (quotedList covered ++ quote "agent-1".toList)).any Lexer.closed =
      true) : RoundTrips covered "agent-1".toList where
  names name hname := by
    have hname := List.all_eq_true.mp (List.all_eq_true.mp hnames name hname)
    simp only [Bool.and_eq_true, Bool.not_eq_true', bne_iff_ne] at hname
    exact ⟨fun c hc => (hname c hc).1, fun hc => (hname _ hc).2 rfl⟩
  keyid := by decide
  member := hmember

def key : PublicKey crates := .ed25519 ⟨AgentMessage.publicKey, AgentMessage.publicKey_length⟩

theorem key_verify (payload signature : Bytes) :
    key.verify payload signature = (signature.length == 64 && verifies payload signature) := rfl

theorem findKey_agent : ring.findKey "agent-1".toList = .ok key := by
  rw [VerifyingKeyring.findKey, ring, List.find?_cons_of_pos (by simp)]
  rfl

theorem verifySignature_agent {request : HttpRequest} {covered : List Chars} {lines : Chars}
    {bytes : Bytes} (hround : RoundTrips covered "agent-1".toList)
    (hinput : header request.headers "signature-input".toList =
      some (signatureLabel ++ '=' :: params covered))
    (hsignature : header request.headers "signature".toList =
      some (signatureLabel ++ "=:".toList ++ encodeStandard bytes ++ [':']))
    (hbody : checkBody sha256 request = .ok ())
    (hlines : componentLines request.components covered = .ok lines)
    (hverified : key.verify (utf8 (base lines covered)) bytes = true)
    (hrequired : ∀ name ∈ request.required, name ∈ covered) :
    verifySignature sha256 ring request 1760000010 = .ok "agent-1".toList := by
  refine bind_eq_ok.mpr ⟨_, elim_eq_ok.mpr hinput, bind_eq_ok.mpr ⟨_, elim_eq_ok.mpr hsignature,
    bind_eq_ok.mpr ⟨(), hbody, ?_⟩⟩⟩
  exact verifyMessage_of_roundTrips hround (by decide) (by decide) (fun e he => nomatch he)
    findKey_agent (signatureBase_eq hlines) hverified hrequired

theorem update_verifies :
    key.verify (utf8 (base updateLines updateCovered)) updateSignature = true := by
  have hlength : updateSignature.length = 64 := rfl
  have hverifies : verifies (utf8 (base updateLines updateCovered)) updateSignature = true := by
    rw [verifies, beq_self_eq_true, beq_self_eq_true, Bool.and_self, Bool.true_or]
  rw [key_verify, hlength, hverifies]
  rfl

theorem question_verifies :
    key.verify (utf8 (base questionLines questionCovered)) questionSignature = true := by
  have hlength : questionSignature.length = 64 := rfl
  have hverifies : verifies (utf8 (base questionLines questionCovered)) questionSignature = true := by
    rw [verifies, beq_self_eq_true, beq_self_eq_true, Bool.and_self, Bool.or_true]
  rw [key_verify, hlength, hverifies]
  rfl

/-- The names of a list come through the scan, with the agent's id. -/
def comesThrough (covered : List Chars) : Bool :=
  covered.all (fun name => name.all fun c => !isWhitespace c && c != ')') &&
    (({} : Lexer).reads (quotedList covered ++ quote "agent-1".toList)).any Lexer.closed

theorem roundTrips_of_comesThrough {covered : List Chars} (h : comesThrough covered = true) :
    RoundTrips covered "agent-1".toList :=
  roundTrips_of_all (Bool.and_eq_true_iff.mp h).1 (Bool.and_eq_true_iff.mp h).2

/-- None of the three headers that must be covered. -/
def plainHeaders (headers : List (HeaderName × Bytes)) : Bool :=
  headers.all fun e => coverWhenPresent.all fun name => e.1.text != name

/-- What the headers of the update say. -/
theorem update_eq : comesThrough updateCovered = true ∧ plainHeaders updateHeaders = true ∧
    header updateHeaders "host".toList = some "merchant.example.com".toList ∧
    header updateHeaders "signature-input".toList =
      some (signatureLabel ++ '=' :: params updateCovered) ∧
    header updateHeaders "signature".toList =
      some (signatureLabel ++ "=:".toList ++ encodeStandard updateSignature ++ [':']) ∧
    header updateHeaders "content-digest".toList = some digestValue ∧
    header updateHeaders "content-type".toList = some "application/json".toList ∧
    (updateHeaders.all fun e => (toStr e.2).isSome) = true := by
  decide +kernel

/-- What the headers of the question say. -/
theorem question_eq : comesThrough questionCovered = true ∧ plainHeaders asked.headers = true ∧
    header asked.headers "host".toList = some "merchant.example.com".toList ∧
    header asked.headers "signature-input".toList =
      some (signatureLabel ++ '=' :: params questionCovered) ∧
    header asked.headers "signature".toList =
      some (signatureLabel ++ "=:".toList ++ encodeStandard questionSignature ++ [':']) ∧
    (asked.headers.all fun e => (toStr e.2).isSome) = true ∧
    params updateCovered ≠ params questionCovered := by
  decide +kernel

/-- Texts that are not blank at the ends. -/
theorem trimmed_eq : trimmed (toAsciiLowercase "merchant.example.com".toList) =
      "merchant.example.com".toList ∧
    trimmed "/api/v1/ucp/cart".toList = "/api/v1/ucp/cart".toList ∧
    trimmed "/api/v1/orders".toList = "/api/v1/orders".toList ∧
    trimmed digestValue = digestValue ∧
    trimmed "application/json".toList = "application/json".toList ∧
    signedPathPrefix <+: "/api/v1/ucp/cart".toList ∧ signedPathPrefix <+: "/api/v1/orders".toList := by
  decide +kernel

theorem update_roundTrips : RoundTrips updateCovered "agent-1".toList :=
  roundTrips_of_comesThrough update_eq.1

theorem question_roundTrips : RoundTrips questionCovered "agent-1".toList :=
  roundTrips_of_comesThrough question_eq.1

theorem update_input : header updateHeaders "signature-input".toList =
    some (signatureLabel ++ '=' :: params updateCovered) :=
  update_eq.2.2.2.1

theorem question_input : header asked.headers "signature-input".toList =
    some (signatureLabel ++ '=' :: params questionCovered) :=
  question_eq.2.2.2.1

theorem authority_of_host {request : HttpRequest}
    (h : header request.headers "host".toList = some "merchant.example.com".toList) :
    request.components.get "@authority".toList = some "merchant.example.com".toList := by
  rw [get_authority, HttpRequest.authorityText, h, Option.some_or, Option.map_some, trimmed_eq.1]

theorem update_lines (body : Bytes) :
    componentLines (received body).components updateCovered = .ok updateLines := by
  obtain ⟨-, -, hhost, -, -, hdigest, htype, -⟩ := update_eq
  obtain ⟨-, hcart, -, htrimmed, hjson, -⟩ := trimmed_eq
  have hmethod : (received body).components.get "@method".toList = some "POST".toList := get_method
  have hauthority := authority_of_host (show header (received body).headers _ = _ from hhost)
  have hpath : (received body).components.get "@path".toList = some "/api/v1/ucp/cart".toList :=
    get_path.trans (congrArg some hcart)
  have hdigest : (received body).components.get "content-digest".toList = some digestValue := by
    rw [get_header (get_derivedComponents _)]
    show (header updateHeaders "content-digest".toList).map trimmed = _
    rw [hdigest, Option.map_some, htrimmed]
  have htype : (received body).components.get "content-type".toList =
      some "application/json".toList := by
    rw [get_header (get_derivedComponents _)]
    show (header updateHeaders "content-type".toList).map trimmed = _
    rw [htype, Option.map_some, hjson]
  simp only [updateCovered, componentLines, hmethod, hauthority, hpath, hdigest, htype]
  simp only [updateLines, line, List.append_assoc, List.cons_append, List.nil_append]
  rfl

/-- A request without the three headers has nothing more to cover. -/
theorem required_of_absent {request : HttpRequest} {covered : List Chars}
    (hplain : plainHeaders request.headers = true)
    (hquery : request.query = none) (hline : ∀ name ∈ questionCovered, name ∈ covered)
    (hcontent : request.body ≠ [] →
      ∀ name ∈ ["content-digest".toList, "content-type".toList], name ∈ covered) :
    ∀ name ∈ request.required, name ∈ covered := by
  have hnone : coverWhenPresent.filter request.components.contains = [] := by
    refine List.filter_eq_nil_iff.mpr fun name hname => ?_
    have habsent : ∀ e ∈ request.headers, e.1.text ≠ name := fun e he =>
      bne_iff_ne.mp (List.all_eq_true.mp (List.all_eq_true.mp hplain e he) name hname)
    rw [MessageComponents.contains, get_header (derived_of_coverWhenPresent hname),
      header_eq_none habsent]
    exact Bool.false_ne_true
  intro name hname
  rw [HttpRequest.required, hnone, hquery, List.append_nil, Option.isSome_none, if_neg
    Bool.false_ne_true, List.append_nil] at hname
  rcases List.mem_append.mp hname with hname | hname
  · exact hline name hname
  · split at hname
    · next hbody => exact hcontent hbody name hname
    · cases hname

theorem update_required (body : Bytes) : ∀ name ∈ (received body).required, name ∈ updateCovered :=
  required_of_absent update_eq.2.1 rfl
    (fun _ hname => List.mem_append_left ["content-digest".toList, "content-type".toList] hname)
    (fun _ _ hname => List.mem_append_right questionCovered hname)

/-- The update verifies with its body, and without. -/
theorem received_passed {body : Bytes} (hbody : body = [] ∨ body = update.body) :
    verifyRequestSignature sha256 (some ring) (received body) 1760000010 = .ok (received body) := by
  obtain ⟨-, -, -, hinput, hsignature, hdigest, -⟩ := update_eq
  have hchecks : checkBody sha256 (received body) = .ok () ∧ body.length ≤ maxSignedBodyBytes := by
    rcases hbody with rfl | rfl
    · exact ⟨rfl, Nat.zero_le _⟩
    · refine ⟨(checkBody_of_header ?_ hdigest).trans signed_eq.2.2.2.2.2.2, by decide⟩
      exact List.cons_ne_nil _ _
  refine passed_of_verified "agent-1".toList trimmed_eq.2.2.2.2.2.1 hchecks.2 ?_
  exact verifySignature_agent update_roundTrips hinput hsignature hchecks.1 (update_lines body)
    update_verifies (update_required body)

theorem asked_passed :
    verifyRequestSignature sha256 (some ring) asked 1760000010 = .ok asked := by
  obtain ⟨-, hplain, hhost, hinput, hsignature, -⟩ := question_eq
  have hmethod : asked.components.get "@method".toList = some "GET".toList := get_method
  have hauthority := authority_of_host hhost
  have hpath : asked.components.get "@path".toList = some "/api/v1/orders".toList :=
    get_path.trans (congrArg some trimmed_eq.2.2.1)
  have hlines : componentLines asked.components questionCovered = .ok questionLines := by
    simp only [questionCovered, componentLines, hmethod, hauthority, hpath]
    simp only [questionLines, line, List.append_assoc, List.cons_append, List.nil_append]
    rfl
  have hrequired := required_of_absent hplain rfl (fun _ hname => hname) (fun h => absurd rfl h)
  refine passed_of_verified "agent-1".toList trimmed_eq.2.2.2.2.2.2 (Nat.zero_le _) ?_
  exact verifySignature_agent question_roundTrips hinput hsignature rfl hlines question_verifies
    hrequired

def updateParams : SignatureParams :=
  { covered := updateCovered, created := some 1760000000, keyid := "agent-1".toList }

theorem received_verified (body : Bytes) :
    VerifiedBy ring (received body) 1760000010 (params updateCovered) updateParams
      (base updateLines updateCovered) where
  member := ⟨_, _, signatureLabel, update_input, parseDictionary_signatureParams update_roundTrips,
    List.mem_singleton_self _⟩
  accepted := ⟨_, key, updateSignature, accepted_of_roundTrips update_roundTrips (by decide)
    (by decide) (fun e he => nomatch he) findKey_agent (signatureBase_eq (update_lines body))
    update_verifies (update_required body)⟩

theorem update_collision : ∀ m ∈ signers, sha256 update.body = sha256 m.body → update.body = m.body := by
  rintro m (rfl | rfl) h
  · rfl
  · revert h
    decide

end AgentRequest

open AgentRequest in
theorem body_signed_sample :
    (∃ m ∈ signers, m.base = .ok (base updateLines updateCovered)) ∧
      ∀ m ∈ signers, m.base = .ok (base updateLines updateCovered) →
        ((received update.body).body = m.body ↔ ((received update.body).body = [] → ∃ digest,
          header (received update.body).headers "content-digest".toList = some digest ∧
            verifyContentDigest AgentRequest.sha256 digest [] = .ok ())) :=
  body_signed_iff unforged signers_valid signers_digested
    update_collision trimmed_eq.2.2.2.2.2.1 (received_passed (Or.inr rfl)) (received_verified _)
    (List.mem_append_right questionCovered List.mem_cons_self)

open AgentRequest in
/-- An intermediary takes the body away, and the request is accepted. -/
theorem body_removed :
    Unforged ring signers ∧ (∀ m ∈ signers, m.Valid) ∧
      (∀ m ∈ signers, m.Digested AgentRequest.sha256) ∧
      signedPathPrefix <+: (received []).path ∧
      verifyRequestSignature AgentRequest.sha256 (some ring) (received []) 1760000010 =
        .ok (received []) ∧
      VerifiedBy ring (received []) 1760000010 (params updateCovered) updateParams
        (base updateLines updateCovered) ∧
      "content-digest".toList ∈ updateParams.covered ∧
      update ∈ signers ∧ update.base = .ok (base updateLines updateCovered) ∧
      (received []).body ≠ update.body :=
  ⟨unforged, signers_valid, signers_digested, trimmed_eq.2.2.2.2.2.1, received_passed (Or.inl rfl),
    received_verified _, List.mem_append_right questionCovered List.mem_cons_self, Or.inl rfl,
    update_base, by decide⟩

open AgentRequest in
theorem components_bound_sample :
    ∃ m ∈ signers, (∃ input inputs label,
      header (received update.body).headers "signature-input".toList = some input ∧
        parseDictionary input = .ok inputs ∧ (label, m.params) ∈ inputs) ∧
      Binds m (received update.body) :=
  components_bound unforged signers_valid trimmed_eq.2.2.2.2.2.1
    (List.all_eq_true.mp update_eq.2.2.2.2.2.2.2)
    (received_passed (Or.inr rfl))

open AgentRequest in
/-- A query that was not covered is taken away, and the request is accepted. -/
theorem query_removed :
    Unforged ring signers ∧ (∀ m ∈ signers, m.Valid) ∧ signedPathPrefix <+: asked.path ∧
      (∀ e ∈ asked.headers, (toStr e.2).isSome = true) ∧
      verifyRequestSignature AgentRequest.sha256 (some ring) asked 1760000010 = .ok asked ∧
      ¬ ∃ m ∈ signers, (∃ input inputs label,
        header asked.headers "signature-input".toList = some input ∧
          parseDictionary input = .ok inputs ∧ (label, m.params) ∈ inputs) ∧
        m.components.get "@query".toList = asked.query.map fun q => trimmed ('?' :: q) := by
  obtain ⟨-, -, -, hinput, -, hvisible, hdiffer⟩ := question_eq
  refine ⟨unforged, signers_valid, trimmed_eq.2.2.2.2.2.2, List.all_eq_true.mp hvisible,
    asked_passed, ?_⟩
  rintro ⟨m, rfl | rfl, ⟨input, inputs, label, hheader, hinputs, hmem⟩, hquery⟩
  · -- the update is signed under another member
    obtain rfl := Option.some.inj (hheader.symm.trans hinput)
    obtain rfl := Except.ok.inj
      (hinputs.symm.trans (parseDictionary_signatureParams question_roundTrips))
    exact hdiffer (Prod.mk.inj (List.mem_singleton.mp hmem)).2
  · cases signed_eq.2.2.2.2.2.1.symm.trans hquery

end Orchestrator
