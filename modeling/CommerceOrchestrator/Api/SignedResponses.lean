/-
# `CommerceOrchestrator.Api.SignedResponses` — what a signed response proves

Every response is signed over its status, the digest of its body and the type of its content,
and the public halves of the keys are published beside the API.  A client puts the components
together again and checks the signature against a published key.  Two things are to be had
from this: an honest response is accepted, also after the key that signed it has been
rotated out of use but not out of the published ones; and an accepted response is, in what
was signed, one that the server gave.

The same key signs the tokens of embedded checkout links, which are no messages; no payload
of the one kind is one of the other.
-/
import CommerceOrchestrator.Api.SignedRequests

namespace Orchestrator

open Effect Text

/-! ## Responses -/

/-- `format!` of the digest of a body. -/
def contentDigest (sha256 : Bytes → Bytes) (body : Bytes) : Chars :=
  "sha-256=:".toList ++ encodeStandard (sha256 body) ++ [':']

/-- A response, its body read. -/
structure HttpResponse where
  status : Nat
  headers : List (HeaderName × Bytes)
  body : Bytes
deriving DecidableEq

/-- `StatusCode::as_str`. -/
def HttpResponse.statusText (response : HttpResponse) : Chars := Nat.toDigits 10 response.status

/-- What `from_static` wants of a name. -/
def StaticName (name : String) : Prop :=
  name.toList.all isTokenChar = true ∧ toAsciiLowercase name.toList = name.toList

instance (name : String) : Decidable (StaticName name) :=
  inferInstanceAs (Decidable (_ = true ∧ _ = _))

theorem StaticName.token {name : String} (h : StaticName name) :
    ∀ c ∈ name.toList, isTokenChar c = true := List.all_eq_true.mp h.1

/-- `HeaderName::from_static`. -/
def HeaderName.fromStatic (name : String) (h : StaticName name) : HeaderName :=
  ⟨name.toList, h.token, h.2⟩

def HeaderName.contentDigest : HeaderName := fromStatic "content-digest" (by decide)

def HeaderName.contentType : HeaderName := fromStatic "content-type" (by decide)

def HeaderName.signatureInput : HeaderName := fromStatic "signature-input" (by decide)

def HeaderName.signature : HeaderName := fromStatic "signature" (by decide)

/-- `HeaderMap::insert`: the only value under its name. -/
def insertHeader (headers : List (HeaderName × Bytes)) (name : HeaderName) (value : Bytes) :
    List (HeaderName × Bytes) :=
  headers.filter (·.1 ≠ name) ++ [(name, value)]

/-- `HeaderMap::get`, as text: the first value under the name. -/
def getHeader (headers : List (HeaderName × Bytes)) (name : HeaderName) : Option Chars :=
  (headers.find? (·.1 = name)).bind fun h => toStr h.2

/-- A character that a header's value can have. -/
def isVisibleChar (c : Char) : Bool := (32 ≤ c.toNat && c.toNat < 127) || c.toNat == 9

/-- What the header's constructor promises: it takes a visible text, and what it takes it
keeps as it is. -/
structure HeaderText (fromStr : Chars → Option Bytes) : Prop where
  visible : ∀ s, (∀ c ∈ s, isVisibleChar c = true) → fromStr s = some (utf8 s)
  bytes : ∀ s value, fromStr s = some value → value = utf8 s

/-! ## Signing -/

/-- The components of a response, and those that its signature covers. -/
def signedComponents (sha256 : Bytes → Bytes) (response : HttpResponse) :
    MessageComponents × List Chars :=
  let status := MessageComponents.new.insert "@status".toList response.statusText
  if response.body = [] then (status, ["@status".toList])
  else
    let digest := status.insert "content-digest".toList (contentDigest sha256 response.body)
    match header response.headers "content-type".toList with
    | none => (digest, ["@status".toList, "content-digest".toList])
    | some contentType =>
        (digest.insert "content-type".toList contentType,
          ["@status".toList, "content-digest".toList, "content-type".toList])

/-- In place of a response that is too large to sign. -/
def signingFailure : HttpResponse where
  status := 500
  headers := [(HeaderName.contentType, utf8 "application/json".toList)]
  body := utf8 "\x7b\"error\":\"Internal server error\",\"code\":\"INTERNAL_ERROR\"\x7d".toList

section Signing

variable {C : SignatureCrates} (sha256 : Bytes → Bytes) (fromStr : Chars → Option Bytes)

/-- The values of the two headers, if the signature was made and both are values. -/
def signedHeaders (ring : SigningKeyring C) (response : HttpResponse) (created : Int64) :
    Option (Bytes × Bytes) :=
  let (components, covered) := signedComponents sha256 response
  match ring.signMessageWithParams components covered created none with
  | .error _ => none
  | .ok signed => do return (← fromStr signed.signatureInput, ← fromStr signed.signature)

/-- The header with the digest, if there is a body. -/
def digestHeaders (response : HttpResponse) : List (HeaderName × Bytes) :=
  if response.body = [] then response.headers
  else
    match fromStr (contentDigest sha256 response.body) with
    | some value => insertHeader response.headers HeaderName.contentDigest value
    | none => response.headers

def signResponse (signing : Option (SigningKeyring C)) (response : HttpResponse)
    (created : Int64) : HttpResponse :=
  match signing with
  | none => response
  | some ring =>
      if maxSignedBodyBytes < response.body.length then signingFailure
      else
        let headers := digestHeaders sha256 fromStr response
        match signedHeaders sha256 fromStr ring response created with
        | some (input, signature) =>
            { response with
              headers := insertHeader (insertHeader headers HeaderName.signatureInput input)
                HeaderName.signature signature }
        | none => { response with headers }

/-- The components as a client has them. -/
def receivedComponents (response : HttpResponse) (digest contentType : Chars) :
    MessageComponents :=
  ((MessageComponents.new.insert "@status".toList response.statusText).insert
    "content-digest".toList digest).insert "content-type".toList contentType

/-- What a client does with a signed response: the id that it verifies under. -/
def verifyResponse (verifying : VerifyingKeyring C) (response : HttpResponse) (now : Int64) :
    Option Chars := do
  let digest ← getHeader response.headers HeaderName.contentDigest
  guard (digest = contentDigest sha256 response.body)
  let contentType ← getHeader response.headers HeaderName.contentType
  let input ← getHeader response.headers HeaderName.signatureInput
  let signature ← getHeader response.headers HeaderName.signature
  (verifying.verifyMessage (receivedComponents response digest contentType) input signature
    ["@status".toList, "content-digest".toList] now).toOption

end Signing

/-! ## Values of headers -/

theorem utf8_cons (c : Char) (s : Chars) : utf8 (c :: s) = String.utf8EncodeChar c ++ utf8 s := by
  simp only [utf8, String.toByteArray_ofList]
  rw [List.utf8Encode_cons, List.utf8Encode_singleton]
  simp

theorem utf8EncodeChar_visible {c : Char} (h : isVisibleChar c = true) :
    String.utf8EncodeChar c = [UInt8.ofNat c.toNat] := by
  have hsmall : c.toNat ≤ 127 := by
    simp only [isVisibleChar, Bool.or_eq_true, Bool.and_eq_true, decide_eq_true_eq, beq_iff_eq] at h
    omega
  have hsize : c.utf8Size = 1 := Char.utf8Size_eq_one_iff.mpr hsmall
  exact String.utf8EncodeChar_eq_singleton hsize

theorem toStr_utf8 {s : Chars} (h : ∀ c ∈ s, isVisibleChar c = true) : toStr (utf8 s) = some s := by
  have hbytes : utf8 s = s.map fun c => UInt8.ofNat c.toNat := by
    induction s with
    | nil => rfl
    | cons c s ih =>
        obtain ⟨hc, hs⟩ := List.forall_mem_cons.mp h
        rw [utf8_cons, utf8EncodeChar_visible hc, ih hs]
        rfl
  have hbyte : ∀ n < 128, (((32 ≤ n && n < 127) || n == 9) = true) →
      isVisible (UInt8.ofNat n) = true ∧ (UInt8.ofNat n).toNat = n := by decide +kernel
  have hchar : ∀ c ∈ s, isVisible (UInt8.ofNat c.toNat) = true ∧
      (UInt8.ofNat c.toNat).toNat = c.toNat := by
    intro c hc
    refine hbyte c.toNat ?_ (h c hc)
    have hvisible := h c hc
    simp only [isVisibleChar, Bool.or_eq_true, Bool.and_eq_true, decide_eq_true_eq,
      beq_iff_eq] at hvisible
    omega
  rw [hbytes, toStr, if_pos]
  · rw [List.map_map]
    refine congrArg some (List.map_congr_left (fun c hc => ?_) |>.trans (List.map_id _))
    show Char.ofNat (UInt8.ofNat c.toNat).toNat = c
    rw [(hchar c hc).2, Char.ofNat_toNat]
  · rw [List.all_map, List.all_eq_true]
    exact fun c hc => (hchar c hc).1

theorem visible_of_toStr {value : Bytes} {s : Chars} (h : toStr value = some s) :
    ∀ c ∈ s, isVisibleChar c = true := by
  unfold toStr at h
  split at h
  · next hvisible =>
      obtain rfl := Option.some.inj h
      intro c hc
      obtain ⟨b, hb, rfl⟩ := List.mem_map.mp hc
      have hbyte : ∀ n < 256, isVisible (UInt8.ofNat n) = true →
          isVisibleChar (Char.ofNat n) = true := by decide +kernel
      refine hbyte b.toNat b.toNat_lt ?_
      rw [UInt8.ofNat_toNat]
      exact List.all_eq_true.mp hvisible b hb
  · cases h

section Headers

variable {headers : List (HeaderName × Bytes)} {name other : HeaderName} {value : Bytes}

theorem getHeader_insertHeader :
    getHeader (insertHeader headers name value) name = toStr value := by
  have hgone : (headers.filter (·.1 ≠ name)).find? (·.1 = name) = none := by
    simp [List.find?_eq_none]
  rw [getHeader, insertHeader, List.find?_append, hgone, Option.none_or,
    List.find?_cons_of_pos (by simp), Option.bind_some]

theorem getHeader_insertHeader_ne (h : other ≠ name) :
    getHeader (insertHeader headers name value) other = getHeader headers other := by
  have hfilter : (headers.filter (·.1 ≠ name)).find? (·.1 = other) =
      headers.find? (·.1 = other) := by
    rw [List.find?_filter]
    congr 1
    funext e
    by_cases he : e.1 = other
    · simp [he, h]
    · simp [he]
  rw [getHeader, insertHeader, List.find?_append, hfilter,
    List.find?_cons_of_neg (by simpa using h.symm), List.find?_nil, Option.or_none, getHeader]

/-- A header that is there once is the whole of it. -/
theorem header_of_unique {text : Chars} (h : headers.filter (·.1 = name) = [(name, value)])
    (htext : toStr value = some text) :
    getHeader headers name = some text ∧ header headers name.text = some (trimmed text) := by
  have hsame : headers.filter (·.1.text = name.text) = headers.filter (·.1 = name) := by
    congr 1
    funext e
    refine decide_eq_decide.mpr ⟨fun he => ?_, fun he => he ▸ rfl⟩
    cases e with
    | mk n v => cases n; cases name; cases he; rfl
  constructor
  · rw [getHeader, ← List.head?_filter, h, List.head?_cons, Option.bind_some, htext]
  · simp [header, headerValues, hsame, h, htext]

end Headers

/-! ## Texts without blanks at their ends -/

theorem trimmed_trimmed (s : Chars) : trimmed (trimmed s) = trimmed s := by
  obtain ⟨a, b, hs, ha, hb⟩ := exists_strip isWhitespace s
  calc trimmed (trimmed s) = trimmed (a ++ trimmed s ++ b) :=
        ((strip_append_right hb).trans (strip_append_left ha)).symm
    _ = trimmed s := congrArg trimmed hs.symm

theorem base64_visible {bytes : Bytes} {c : Char} (h : c ∈ encodeStandard bytes) :
    isVisibleChar c = true ∧ isWhitespace c = false := by
  have hc : 43 ≤ c.toNat ∧ c.toNat ≤ 122 := by
    rcases mem_encodeStandard h with h | rfl
    · exact isBase64_bounds h
    · decide
  refine ⟨?_, isWhitespace_printable (by omega) (by omega)⟩
  simp only [isVisibleChar, Bool.or_eq_true, Bool.and_eq_true, decide_eq_true_eq, beq_iff_eq]
  omega

theorem contentDigest_visible {sha256 : Bytes → Bytes} {body : Bytes} {c : Char}
    (h : c ∈ contentDigest sha256 body) : isVisibleChar c = true ∧ isWhitespace c = false := by
  have hlabel : ("sha-256=:".toList.all fun c => isVisibleChar c && !isWhitespace c) = true := by
    decide
  unfold contentDigest at h
  rcases List.mem_append.mp h with h | h
  · rcases List.mem_append.mp h with h | h
    · simpa using List.all_eq_true.mp hlabel c h
    · exact base64_visible h
  · rw [List.mem_singleton.mp h]
    exact ⟨by decide, by decide⟩

theorem trimmed_contentDigest (sha256 : Bytes → Bytes) (body : Bytes) :
    trimmed (contentDigest sha256 body) = contentDigest sha256 body :=
  strip_eq_self_of_forall fun _ hc => (contentDigest_visible hc).2

/-- A digest is the digest of one hash only. -/
theorem contentDigest_inj {sha256 : Bytes → Bytes} {a b : Bytes}
    (h : contentDigest sha256 a = contentDigest sha256 b) : sha256 a = sha256 b := by
  unfold contentDigest at h
  have hbase := List.append_cancel_left (List.append_cancel_right h)
  refine Option.some.inj ?_
  rw [← decodeStandard_encodeStandard, hbase, decodeStandard_encodeStandard]

section Status

variable {response : HttpResponse}

theorem statusText_digit : ∀ c ∈ response.statusText, c.isDigit = true :=
  fun _ hc => Nat.isDigit_of_mem_toDigits (by omega) (by omega) hc

theorem trimmed_statusText : trimmed response.statusText = response.statusText := by
  refine strip_eq_self_of_forall fun c hc => ?_
  have := digit_bounds (statusText_digit c hc)
  exact isWhitespace_printable (by omega) (by omega)

theorem statusText_inj {other : HttpResponse} (h : response.statusText = other.statusText) :
    response.status = other.status :=
  Option.some.inj ((digits_toDigits _).symm.trans ((congrArg digits h).trans (digits_toDigits _)))

end Status

/-! ## What is accepted -/

/-- The three components of a response with a body. -/
def responseNames : List Chars :=
  ["@status".toList, "content-digest".toList, "content-type".toList]

/-- What a client has found in a response that it accepts. -/
structure ResponseVerified {C : SignatureCrates} (sha256 : Bytes → Bytes)
    (verifying : VerifyingKeyring C) (response : HttpResponse) (now : Int64)
    (kid contentType input signature : Chars) : Prop where
  digested : getHeader response.headers HeaderName.contentDigest =
    some (contentDigest sha256 response.body)
  typed : getHeader response.headers HeaderName.contentType = some contentType
  named : getHeader response.headers HeaderName.signatureInput = some input
  signed : getHeader response.headers HeaderName.signature = some signature
  verified : verifying.verifyMessage
    (receivedComponents response (contentDigest sha256 response.body) contentType) input signature
    ["@status".toList, "content-digest".toList] now = .ok kid

section Verified

variable {C : SignatureCrates} {sha256 : Bytes → Bytes} {verifying : VerifyingKeyring C}
  {response : HttpResponse} {now : Int64} {kid : Chars}

theorem verifyResponse_eq_some : verifyResponse sha256 verifying response now = some kid ↔
    ∃ contentType input signature,
      ResponseVerified sha256 verifying response now kid contentType input signature := by
  have htoOption (e : Except SignatureError Chars) : e.toOption = some kid ↔ e = .ok kid := by
    cases e <;> simp [Except.toOption]
  constructor
  · intro h
    obtain ⟨digest, hdigest, h⟩ := Option.bind_eq_some_iff.mp h
    obtain ⟨⟨⟩, hsame, h⟩ := Option.bind_eq_some_iff.mp h
    obtain rfl := (Option.guard_eq_some' _).mp hsame
    obtain ⟨contentType, hcontentType, h⟩ := Option.bind_eq_some_iff.mp h
    obtain ⟨input, hinput, h⟩ := Option.bind_eq_some_iff.mp h
    obtain ⟨signature, hsignature, h⟩ := Option.bind_eq_some_iff.mp h
    exact ⟨contentType, input, signature, hdigest, hcontentType, hinput, hsignature,
      (htoOption _).mp h⟩
  · rintro ⟨contentType, input, signature, h⟩
    exact Option.bind_eq_some_iff.mpr ⟨_, h.digested, Option.bind_eq_some_iff.mpr
      ⟨(), (Option.guard_eq_some' _).mpr rfl, Option.bind_eq_some_iff.mpr ⟨_, h.typed,
        Option.bind_eq_some_iff.mpr ⟨_, h.named, Option.bind_eq_some_iff.mpr ⟨_, h.signed,
          (htoOption _).mpr h.verified⟩⟩⟩⟩⟩

/-- The id of an accepted message stands in its header. -/
theorem keyid_subset {components : MessageComponents} {input signature : Chars}
    {required : List Chars}
    (h : verifying.verifyMessage components input signature required now = .ok kid) :
    kid ⊆ input := by
  obtain ⟨inputs, _, hinputs, -, member, hmember, hone⟩ := verifyMessage_ok h
  obtain ⟨params, _, _, _, haccepted, rfl⟩ := verifyOne_eq_ok.mp hone
  obtain ⟨members, hmembers, hparts⟩ := parseDictionary_eq_ok hinputs
  obtain ⟨m, hm, hpart⟩ := hparts member hmember
  obtain ⟨list, texts, hraw, -, text, htext, heq⟩ := parseSignatureParams_eq_ok haccepted.parsed
  have htexts : texts ⊆ member.2 := by
    intro c hc
    refine mem_of_mem_strip (p := isWhitespace) ?_
    rw [show strip isWhitespace member.2 = trimmed member.2 from rfl, hraw]
    exact List.mem_append_right _ (List.mem_cons_of_mem _ hc)
  intro c hc
  have hkeyid : c ∈ trimmed text := by
    rw [heq]
    exact List.mem_append_right _ (List.mem_append_left _ (List.mem_cons_of_mem _ hc))
  exact (mem_splitMembers hmembers m hm).subset
    (hpart.subset (htexts ((mem_splitOn htext).1.subset (mem_of_mem_strip hkeyid))))

theorem ResponseVerified.keyid_visible {contentType input signature : Chars}
    (h : ResponseVerified sha256 verifying response now kid contentType input signature) :
    ∀ c ∈ kid, isVisibleChar c = true := by
  intro c hc
  obtain ⟨e, -, htext⟩ := Option.bind_eq_some_iff.mp h.named
  exact visible_of_toStr htext c (keyid_subset h.verified hc)

/-- What a keyring signed is accepted only if the names and the id come through. -/
theorem roundTrips_of_verifyMessage {components : MessageComponents} {covered required : List Chars}
    {created : Int64} {expires : Option Int64} {signature : Chars}
    (hnames : ∀ name ∈ covered, (∀ c ∈ name, isWhitespace c = false) ∧ ')' ∉ name)
    (h : verifying.verifyMessage components
      (signatureLabel ++ '=' :: signatureParams covered created kid expires) signature required
        now = .ok kid) :
    RoundTrips covered kid := by
  obtain ⟨inputs, _, hinputs, -, input, hinput, hone⟩ := verifyMessage_ok h
  obtain ⟨params, _, _, _, haccepted, hkeyid⟩ := verifyOne_eq_ok.mp hone
  obtain ⟨-, texts, -, -, text, htext, heq⟩ := parseSignatureParams_eq_ok haccepted.parsed
  have hkid : ';' ∉ kid := by
    intro hmem
    have hpart : ';' ∈ trimmed text := by
      rw [heq, hkeyid]
      exact List.mem_append_right _ (List.mem_append_left _ (List.mem_cons_of_mem _ hmem))
    exact (mem_splitOn htext).2 (mem_of_mem_strip hpart)
  exact ⟨hnames, hkid, member_of_keyid (fun name hname => (hnames name hname).2) hkid hinputs
    hinput haccepted.parsed hkeyid⟩

theorem findKey_of_mem {key : PublicKey C} (h : (kid, key) ∈ verifying.keys) :
    verifying.findKey kid = .ok key := by
  unfold VerifyingKeyring.findKey
  cases hfind : verifying.keys.find? (·.1 = kid) with
  | none => exact absurd (List.find?_eq_none.mp hfind _ h) (by simp)
  | some found =>
      have hkid : found.1 = kid := by simpa using List.find?_some hfind
      obtain rfl : found = (kid, key) :=
        List.inj_on_of_nodup_map verifying.distinct (List.mem_of_find?_eq_some hfind) h hkid
      rfl

end Verified

/-! ## Honest responses -/

theorem insert_trimmed (components : MessageComponents) (name value : Chars) :
    components.insert name (trimmed value) = components.insert name value := by
  rw [MessageComponents.insert, trimmed_trimmed, MessageComponents.insert]

theorem responseNames_plain :
    ∀ name ∈ responseNames, (∀ c ∈ name, isWhitespace c = false) ∧ ')' ∉ name := by
  have hall : (responseNames.all fun name => name.all fun c => !isWhitespace c && c != ')') = true := by
    decide
  intro name hname
  have hname := List.all_eq_true.mp (List.all_eq_true.mp hall name hname)
  refine ⟨fun c hc => ?_, fun hc => ?_⟩
  · simpa using (Bool.and_eq_true_iff.mp (hname c hc)).1
  · exact absurd (hname _ hc) (by decide)

section Honest

variable {C : SignatureCrates} {sha256 : Bytes → Bytes} {fromStr : Chars → Option Bytes}
  {ring : SigningKeyring C} {response : HttpResponse} {contentType kid : Chars} {value : Bytes}
  {created now : Int64}

theorem signedComponents_of_body (hbody : response.body ≠ [])
    (hheader : header response.headers "content-type".toList = some (trimmed contentType)) :
    signedComponents sha256 response =
      (receivedComponents response (contentDigest sha256 response.body) contentType,
        responseNames) := by
  rw [signedComponents, if_neg hbody, hheader]
  exact Prod.ext (insert_trimmed _ _ _) rfl

theorem contains_receivedComponents (response : HttpResponse) (digest contentType : Chars) :
    ∀ name ∈ responseNames, (receivedComponents response digest contentType).contains name = true := by
  have hlower : toAsciiLowercase "@status".toList = "@status".toList ∧
      toAsciiLowercase "content-digest".toList = "content-digest".toList ∧
      toAsciiLowercase "content-type".toList = "content-type".toList := by decide
  intro name hname
  simp only [responseNames, List.mem_cons, List.not_mem_nil, or_false] at hname
  unfold MessageComponents.contains receivedComponents
  rw [MessageComponents.get_insert, MessageComponents.get_insert, MessageComponents.get_insert,
    hlower.1, hlower.2.1, hlower.2.2]
  rcases hname with rfl | rfl | rfl
  · split
    · rfl
    · split
      · rfl
      · rw [if_pos rfl]
        rfl
  · split
    · rfl
    · rw [if_pos rfl]
      rfl
  · rw [if_pos rfl]
    rfl

theorem signatureParams_visible (created : Int64) (hkid : ∀ c ∈ kid, isVisibleChar c = true) :
    ∀ c ∈ signatureLabel ++ '=' :: signatureParams responseNames created kid none,
      isVisibleChar c = true := by
  have hopen : ((signatureLabel ++ '=' :: quotedList responseNames ++ ";created=".toList).all
      isVisibleChar) = true := by decide
  have hid : (";keyid=".toList.all isVisibleChar) = true := by decide
  have hshape : signatureLabel ++ '=' :: signatureParams responseNames created kid none =
      (signatureLabel ++ '=' :: quotedList responseNames ++ ";created=".toList) ++
        (renderInt created ++ (";keyid=".toList ++ quote kid)) := by
    simp [signatureParams]
  intro c hc
  rw [hshape] at hc
  rcases List.mem_append.mp hc with hc | hc
  · exact List.all_eq_true.mp hopen c hc
  rcases List.mem_append.mp hc with hc | hc
  · have := renderInt_bounds hc
    simp only [isVisibleChar, Bool.or_eq_true, Bool.and_eq_true, decide_eq_true_eq, beq_iff_eq]
    omega
  rcases List.mem_append.mp hc with hc | hc
  · exact List.all_eq_true.mp hid c hc
  · rcases List.mem_cons.mp hc with hc | hc
    · rw [hc]
      decide
    · rcases List.mem_append.mp hc with hc | hc
      · exact hkid c hc
      · rw [List.mem_singleton.mp hc]
        decide

theorem signature_visible (bytes : Bytes) :
    ∀ c ∈ signatureLabel ++ "=:".toList ++ encodeStandard bytes ++ [':'], isVisibleChar c = true := by
  have hopen : ((signatureLabel ++ "=:".toList).all isVisibleChar) = true := by decide
  intro c hc
  rcases List.mem_append.mp hc with hc | hc
  · rcases List.mem_append.mp hc with hc | hc
    · exact List.all_eq_true.mp hopen c hc
    · exact (base64_visible hc).1
  · rw [List.mem_singleton.mp hc]
    decide

/-- A response as the handlers give it: a body that is not too large, and one type of its
content. -/
structure HttpResponse.Signable (response : HttpResponse) (contentType : Chars) : Prop where
  body : response.body ≠ []
  size : response.body.length ≤ maxSignedBodyBytes
  typed : ∃ value, response.headers.filter (·.1 = HeaderName.contentType) =
    [(HeaderName.contentType, value)] ∧ toStr value = some contentType

/-- What the four headers of a signed response say. -/
structure SignedBy (sha256 : Bytes → Bytes) (ring : SigningKeyring C) (response : HttpResponse)
    (contentType : Chars) (created : Int64) (base : Chars) (signed : HttpResponse) : Prop where
  status : signed.status = response.status
  body : signed.body = response.body
  digested : getHeader signed.headers HeaderName.contentDigest =
    some (contentDigest sha256 response.body)
  typed : getHeader signed.headers HeaderName.contentType = some contentType
  named : getHeader signed.headers HeaderName.signatureInput =
    some (signatureLabel ++ '=' :: signatureParams responseNames created ring.activeKid none)
  signed : getHeader signed.headers HeaderName.signature =
    some (signatureLabel ++ "=:".toList ++
      encodeStandard (ring.active.secret.sign (utf8 base)) ++ [':'])
  built : signatureBase
    (receivedComponents response (contentDigest sha256 response.body) contentType) responseNames
      (signatureParams responseNames created ring.activeKid none) = .ok base

theorem signResponse_signedBy (sha256 : Bytes → Bytes) (created : Int64) (hvalues : HeaderText fromStr)
    (hresponse : response.Signable contentType)
    (hvisible : ∀ c ∈ ring.activeKid, isVisibleChar c = true) :
    ∃ base, SignedBy sha256 ring response contentType created base
      (signResponse sha256 fromStr (some ring) response created) := by
  obtain ⟨value, htyped, htext⟩ := hresponse.typed
  obtain ⟨hfirst, hheader⟩ := header_of_unique htyped htext
  obtain ⟨base, hbase⟩ := signatureBase_of_contains
    (contains_receivedComponents response (contentDigest sha256 response.body) contentType)
    (signatureParams responseNames created ring.activeKid none)
  have hinput := signatureParams_visible created hvisible
  have hsignature := signature_visible (ring.active.secret.sign (utf8 base))
  have hdigest : ∀ c ∈ contentDigest sha256 response.body, isVisibleChar c = true :=
    fun c hc => (contentDigest_visible hc).1
  have hsigned : signedHeaders sha256 fromStr ring response created =
      some (utf8 (signatureLabel ++ '=' :: signatureParams responseNames created ring.activeKid none),
        utf8 (signatureLabel ++ "=:".toList ++
          encodeStandard (ring.active.secret.sign (utf8 base)) ++ [':'])) := by
    have hmessage : ring.signMessageWithParams
        (receivedComponents response (contentDigest sha256 response.body) contentType)
        responseNames created none =
        .ok ⟨signatureLabel ++ '=' :: signatureParams responseNames created ring.activeKid none,
          signatureLabel ++ "=:".toList ++
            encodeStandard (ring.active.secret.sign (utf8 base)) ++ [':']⟩ :=
      bind_eq_ok.mpr ⟨base, hbase, rfl⟩
    rw [signedHeaders, signedComponents_of_body hresponse.body hheader]
    simp only [hmessage]
    rw [hvalues.visible _ hinput, hvalues.visible _ hsignature]
    rfl
  have hdigests : digestHeaders sha256 fromStr response =
      insertHeader response.headers HeaderName.contentDigest
        (utf8 (contentDigest sha256 response.body)) := by
    rw [digestHeaders, if_neg hresponse.body, hvalues.visible _ hdigest]
  refine ⟨base, ?_⟩
  rw [signResponse, if_neg (Nat.not_lt.mpr hresponse.size), hsigned, hdigests]
  exact {
    status := rfl
    body := rfl
    digested := by
      rw [getHeader_insertHeader_ne (by decide), getHeader_insertHeader_ne (by decide),
        getHeader_insertHeader, toStr_utf8 hdigest]
    typed := by
      rw [getHeader_insertHeader_ne (by decide), getHeader_insertHeader_ne (by decide),
        getHeader_insertHeader_ne (by decide), hfirst]
    named := by
      rw [getHeader_insertHeader_ne (by decide), getHeader_insertHeader, toStr_utf8 hinput]
    signed := by rw [getHeader_insertHeader, toStr_utf8 hsignature]
    built := hbase }

/-- **A signed response is accepted under the id of the key that signed it** if and only if the
id comes through the headers, as long as the key is still published. -/
theorem signedResponse_accepted_iff {published : SigningKeyring C}
    {readJwks : Chars → Except String (List SigningKeyDescriptor)} {json : Chars}
    (hC : C.Faithful) (hvalues : HeaderText fromStr)
    (hjson : readJwks json = .ok published.publicJwks)
    (hkept : ring.active ∈ published.active :: published.previous)
    (hresponse : response.Signable contentType)
    (hcreated : (now.toInt - created.toInt).natAbs ≤ 300) :
    ∃ verifying, VerifyingKeyring.fromJwks C readJwks json = .ok verifying ∧
      (verifyResponse sha256 verifying (signResponse sha256 fromStr (some ring) response created)
          now = some ring.activeKid ↔
        RoundTrips responseNames ring.activeKid ∧
          ∀ c ∈ ring.activeKid, isVisibleChar c = true) := by
  obtain ⟨verifying, hverifying, hkeys⟩ := fromJwks_publicJwks hC hjson
  refine ⟨verifying, hverifying, ?_⟩
  rw [verifyResponse_eq_some]
  constructor
  · rintro ⟨contentType', input, signature, h⟩
    have hvisible := h.keyid_visible
    obtain ⟨base, hsigned⟩ := signResponse_signedBy sha256 created hvalues hresponse hvisible
    obtain rfl := Option.some.inj (h.named.symm.trans hsigned.named)
    exact ⟨roundTrips_of_verifyMessage responseNames_plain h.verified, hvisible⟩
  · rintro ⟨hround, hvisible⟩
    obtain ⟨base, hsigned⟩ := signResponse_signedBy sha256 created hvalues hresponse hvisible
    refine ⟨contentType, _, _, hsigned.body ▸ hsigned.digested, hsigned.typed, hsigned.named,
      hsigned.signed, ?_⟩
    have hfound : verifying.findKey ring.activeKid = .ok ring.active.secret.publicKey :=
      findKey_of_mem (hkeys ▸ List.mem_map_of_mem (f := Key.entry) hkept)
    have hbase := hsigned.built
    rw [receivedComponents, HttpResponse.statusText, ← hsigned.status] at hbase
    rw [hsigned.body]
    exact verifyMessage_of_roundTrips hround ring.activeKid_ne_nil hcreated (fun _ h => nomatch h)
      hfound hbase (ring.active.secret.verify_sign hC (utf8 base)) (by decide)

end Honest

/-! ### An answer, and a rotation -/

namespace SignedAnswer

/-- The public key of the next key's seed. -/
def nextPublicKey : Bytes :=
  [0x29, 0xac, 0xba, 0xe1, 0x41, 0xbc, 0xca, 0xf0, 0xb2, 0x2e, 0x1a, 0x94, 0xd3, 0x4d,
   0x0b, 0xc7, 0x36, 0x1e, 0x52, 0x6d, 0x0b, 0xfe, 0x12, 0xc8, 0x97, 0x94, 0xbc, 0x93,
   0x22, 0x96, 0x6d, 0xd7]

def seed : Bytes := (List.range 32).map UInt8.ofNat

def nextSeed : Bytes := (List.range 32).map fun n => UInt8.ofNat (n + 32)

def publicOf (seed : Bytes) : { bytes : Bytes // bytes.length = 32 } :=
  if seed = nextSeed then ⟨nextPublicKey, rfl⟩
  else ⟨AgentMessage.publicKey, AgentMessage.publicKey_length⟩

/-- What is signed of the answer. -/
def base : Chars :=
  AgentRequest.line "@status" "200".toList ++
    AgentRequest.line "content-digest" AgentRequest.digestValue ++
    AgentRequest.line "content-type" "application/json".toList ++ "\"@signature-params\": ".toList ++
    signatureParams responseNames 1760000000 "orch-2026-a".toList none

/-- What the first key signs it with. -/
def signature : Bytes :=
  [0x69, 0xf6, 0x6f, 0x9d, 0xc0, 0x49, 0xf1, 0xe2, 0x46, 0xeb, 0x4c, 0x79, 0x5a, 0x47,
   0xae, 0xe8, 0x38, 0x9f, 0x42, 0x4e, 0x5f, 0x87, 0xa9, 0x79, 0x64, 0x2e, 0x95, 0xf9,
   0x16, 0xef, 0x01, 0xc9, 0x74, 0x49, 0x89, 0x9e, 0x4b, 0x5e, 0xc4, 0x27, 0x71, 0xeb,
   0x16, 0x9c, 0xfb, 0x61, 0xbe, 0xa2, 0xdd, 0xc7, 0x60, 0x56, 0x66, 0xa0, 0xe0, 0xad,
   0x21, 0x2a, 0x37, 0xff, 0x70, 0xd4, 0x3a, 0x03]

def signatureOf (publicKey : { bytes : Bytes // bytes.length = 32 }) (payload : Bytes) : Bytes :=
  if publicKey.1 = AgentMessage.publicKey ∧ payload = utf8 base then signature
  else List.replicate 64 0

/-- The crates, as far as the two keys and the answer go. -/
def crates : SignatureCrates :=
  { AgentMessage.crates with
    ed25519Public := publicOf
    ed25519Sign := fun seed payload => signatureOf (publicOf seed) payload
    ed25519Verify := fun publicKey payload signature =>
      signature == signatureOf publicKey payload }

theorem crates_faithful : crates.Faithful where
  ed25519_length seed payload := by
    show (signatureOf (publicOf seed) payload).length = 64
    unfold signatureOf
    split <;> rfl
  ed25519_verify seed payload := beq_self_eq_true (signatureOf (publicOf seed) payload)
  ed25519_bytes key := ⟨key.2, dif_pos key.2⟩
  p256_verify key := Empty.elim key
  p256_point key := Empty.elim key

theorem kid_named : trimmed "orch-2026-a".toList ≠ [] := by decide

theorem nextKid_named : trimmed "orch-2026-b".toList ≠ [] := by decide

def key : Key crates := ⟨"orch-2026-a".toList, .ed25519 seed, kid_named⟩

def nextKey : Key crates := ⟨"orch-2026-b".toList, .ed25519 nextSeed, nextKid_named⟩

def ring : SigningKeyring crates := ⟨key, [], List.nodup_singleton _⟩

/-- The keyring after the rotation. -/
def rotated : SigningKeyring crates := ⟨nextKey, [key], by decide⟩

def jwk (kid x : String) : SigningKeyDescriptor :=
  { kid := kid.toList, kty := "OKP", crv := some "Ed25519", alg := "EdDSA", x := some x.toList
    y := none, use_ := some "sig" }

def jwks : Chars :=
  ("[\x7b\"kid\":\"orch-2026-b\",\"kty\":\"OKP\",\"crv\":\"Ed25519\",\"alg\":\"EdDSA\"," ++
    "\"x\":\"Kay64UG8yvCyLhqU000LxzYeUm0L_hLIl5S8kyKWbdc\",\"use\":\"sig\"\x7d," ++
    "\x7b\"kid\":\"orch-2026-a\",\"kty\":\"OKP\",\"crv\":\"Ed25519\",\"alg\":\"EdDSA\"," ++
    "\"x\":\"A6EHv_POEL4dcN0Y50vAmWfk1jCbpQ1fHdyGZBJVMbg\",\"use\":\"sig\"\x7d]").toList

/-- The reader, as far as the published set goes. -/
def readJwks (json : Chars) : Except String (List SigningKeyDescriptor) :=
  if json = jwks then
    .ok [jwk "orch-2026-b" "Kay64UG8yvCyLhqU000LxzYeUm0L_hLIl5S8kyKWbdc",
      jwk "orch-2026-a" "A6EHv_POEL4dcN0Y50vAmWfk1jCbpQ1fHdyGZBJVMbg"]
  else .error "expected value at line 1 column 1"

/-- The set that the two keys publish. -/
def publishedJwks : List SigningKeyDescriptor :=
  [{ kid := "orch-2026-b".toList, kty := "OKP", crv := some "Ed25519", alg := "EdDSA"
     x := some (encodeUrlSafe (publicOf nextSeed).1), y := none, use_ := some "sig" },
   { kid := "orch-2026-a".toList, kty := "OKP", crv := some "Ed25519", alg := "EdDSA"
     x := some (encodeUrlSafe (publicOf seed).1), y := none, use_ := some "sig" }]

theorem readJwks_published : readJwks jwks = .ok publishedJwks := by
  have hx : encodeUrlSafe nextPublicKey = "Kay64UG8yvCyLhqU000LxzYeUm0L_hLIl5S8kyKWbdc".toList ∧
      encodeUrlSafe AgentMessage.publicKey =
        "A6EHv_POEL4dcN0Y50vAmWfk1jCbpQ1fHdyGZBJVMbg".toList := by
    decide +kernel
  have hpublic : publicOf nextSeed = ⟨nextPublicKey, rfl⟩ ∧
      publicOf seed = ⟨AgentMessage.publicKey, AgentMessage.publicKey_length⟩ := by
    decide +kernel
  rw [readJwks, if_pos rfl, publishedJwks, hpublic.1, hpublic.2, hx.1, hx.2]
  rfl

theorem readJwks_jwks : readJwks jwks = .ok rotated.publicJwks := readJwks_published

def fromStr (s : Chars) : Option Bytes :=
  if s.all isVisibleChar then some (utf8 s) else none

theorem fromStr_text : HeaderText fromStr where
  visible s h := if_pos (List.all_eq_true.mpr h)
  bytes s value h := by
    unfold fromStr at h
    split at h
    · exact (Option.some.inj h).symm
    · cases h

def answer : HttpResponse where
  status := 200
  headers := [(HeaderName.contentType, utf8 "application/json".toList)]
  body := AgentRequest.emptyObject

theorem answer_signable : answer.Signable "application/json".toList where
  body := List.cons_ne_nil _ _
  size := by decide
  typed := ⟨_, rfl, toStr_utf8 (List.all_eq_true.mp (by decide))⟩

theorem roundTrips_answer : RoundTrips responseNames "orch-2026-a".toList where
  names := responseNames_plain
  keyid := by decide
  member := by decide +kernel

end SignedAnswer

open SignedAnswer in
theorem signedResponse_accepted_rotated :
    ∃ verifying, VerifyingKeyring.fromJwks crates readJwks jwks = .ok verifying ∧
      verifyResponse AgentRequest.sha256 verifying
        (signResponse AgentRequest.sha256 fromStr (some ring) answer 1760000000) 1760000010 =
          some "orch-2026-a".toList := by
  have hkept : ring.active ∈ rotated.active :: rotated.previous :=
    List.mem_cons_of_mem _ List.mem_cons_self
  have hvisible : ∀ c ∈ ring.activeKid, isVisibleChar c = true := List.all_eq_true.mp (by decide)
  have hcreated : ((1760000010 : Int64).toInt - (1760000000 : Int64).toInt).natAbs ≤ 300 := by decide
  exact (signedResponse_accepted_iff crates_faithful fromStr_text readJwks_jwks hkept
    answer_signable hcreated).imp fun verifying h => ⟨h.1, h.2.mpr ⟨roundTrips_answer, hvisible⟩⟩

/-! ## Authentic responses -/

/-- `embedded_link_signing_base`: what the token of a handoff link signs. -/
def embeddedLinkSigningBase (sessionId : Chars) (expiresAt : Int64) : Chars :=
  "ucp-embedded-checkout:".toList ++ sessionId ++ ':' :: renderInt expiresAt

/-- What a keyring signs of a response. -/
def responseBase {C : SignatureCrates} (sha256 : Bytes → Bytes) (ring : SigningKeyring C)
    (response : HttpResponse) (created : Int64) : Except SignatureError Chars :=
  let (components, covered) := signedComponents sha256 response
  signatureBase components covered (signatureParams covered created ring.activeKid none)

/-- What a deployment has signed: the responses, each with its keyring and time, and the links,
each with its session and expiry. -/
structure SignedLog (C : SignatureCrates) where
  responses : Set (SigningKeyring C × HttpResponse × Int64)
  links : Set (Chars × Int64)

/-- The payload was signed for a response or for a link. -/
inductive SignedLog.Signs {C : SignatureCrates} (sha256 : Bytes → Bytes) (log : SignedLog C) :
    Bytes → Prop
  | response {ring : SigningKeyring C} {response : HttpResponse} {created : Int64} {base : Chars}
      (mem : (ring, response, created) ∈ log.responses)
      (built : responseBase sha256 ring response created = .ok base) : Signs sha256 log (utf8 base)
  | link {sessionId : Chars} {expiresAt : Int64} (mem : (sessionId, expiresAt) ∈ log.links) :
      Signs sha256 log (utf8 (embeddedLinkSigningBase sessionId expiresAt))

/-- The published keys verify nothing but what the deployment signed. -/
def SignedLog.Unforged {C : SignatureCrates} (sha256 : Bytes → Bytes) (log : SignedLog C)
    (verifying : VerifyingKeyring C) : Prop :=
  ∀ e ∈ verifying.keys, ∀ payload signature, e.2.verify payload signature = true →
    log.Signs sha256 payload

/-- No signature base is that of a link. -/
theorem signatureBase_ne_link {components : MessageComponents} {covered : List Chars}
    {params base sessionId : Chars} {expiresAt : Int64}
    (h : signatureBase components covered params = .ok base) :
    base ≠ embeddedLinkSigningBase sessionId expiresAt := by
  obtain ⟨lines, hlines, h⟩ := bind_eq_ok.mp h
  obtain rfl := Except.ok.inj h
  intro heq
  have hhead := congrArg List.head? heq
  cases covered with
  | nil =>
      obtain rfl := Except.ok.inj hlines
      cases hhead
  | cons name covered =>
      obtain ⟨value, rest, -, -, rfl⟩ := componentLines_cons_ok hlines
      cases hhead

section Authentic

variable {C : SignatureCrates} {sha256 : Bytes → Bytes} {response received : HttpResponse}
  {digest contentType : Chars}

theorem names_lower : toAsciiLowercase "@status".toList = "@status".toList ∧
    toAsciiLowercase "content-digest".toList = "content-digest".toList ∧
    toAsciiLowercase "content-type".toList = "content-type".toList := by decide

theorem get_receivedComponents (response : HttpResponse) (digest contentType name : Chars) :
    (receivedComponents response digest contentType).get name =
      if name = "content-type".toList then some (trimmed contentType)
      else if name = "content-digest".toList then some (trimmed digest)
      else if name = "@status".toList then some response.statusText else none := by
  rw [receivedComponents, MessageComponents.get_insert, MessageComponents.get_insert,
    MessageComponents.get_insert, names_lower.1, names_lower.2.1, names_lower.2.2,
    trimmed_statusText, MessageComponents.get_new]

theorem no_break_of_visible {s : Chars} (h : ∀ c ∈ s, isVisibleChar c = true) : '\n' ∉ s :=
  fun hc => absurd (h _ hc) (by decide)

theorem statusText_no_break (response : HttpResponse) : '\n' ∉ response.statusText :=
  fun hc => absurd (statusText_digit _ hc) (by decide)

theorem contentDigest_no_break (sha256 : Bytes → Bytes) (body : Bytes) : '\n' ∉ contentDigest sha256 body :=
  no_break_of_visible fun _ hc => (contentDigest_visible hc).1

theorem signedComponents_unbroken : (signedComponents sha256 response).1.Unbroken := by
  have hstatus := MessageComponents.Unbroken.new.insert "@status".toList
    (statusText_no_break response)
  have hdigest := hstatus.insert "content-digest".toList
    (contentDigest_no_break sha256 response.body)
  unfold signedComponents
  split
  · exact hstatus
  · dsimp only
    split
    · exact hdigest
    · next contentType hheader => exact hdigest.insert _ (header_no_break hheader)

theorem signedComponents_names : ∀ name ∈ (signedComponents sha256 response).2,
    name ∈ responseNames := by
  unfold signedComponents
  split
  · simp [responseNames]
  · dsimp only
    split <;> simp [responseNames]

/-- A signature that covers a digest covers the one of the body, and the type if there is one. -/
structure DigestSigned (sha256 : Bytes → Bytes) (response : HttpResponse)
    (signed : MessageComponents × List Chars) : Prop where
  status : signed.1.get "@status".toList = some response.statusText
  digest : signed.1.get "content-digest".toList = some (contentDigest sha256 response.body)
  typed : ∀ contentType, header response.headers "content-type".toList = some contentType →
    "content-type".toList ∈ signed.2 ∧
      signed.1.get "content-type".toList = some (trimmed contentType)

theorem digestSigned_of_covered
    (h : "content-digest".toList ∈ (signedComponents sha256 response).2) :
    DigestSigned sha256 response (signedComponents sha256 response) := by
  unfold signedComponents at h ⊢
  split at h
  · simp at h
  · next hbody =>
      rw [if_neg hbody]
      dsimp only at h ⊢
      cases hheader : header response.headers "content-type".toList with
      | none =>
          refine ⟨?_, ?_, fun contentType h => ?_⟩
          · rw [MessageComponents.get_insert, MessageComponents.get_insert, names_lower.1,
              names_lower.2.1, if_neg (by decide), if_pos rfl, trimmed_statusText]
          · rw [MessageComponents.get_insert, names_lower.2.1, if_pos rfl, trimmed_contentDigest]
          · cases hheader.symm.trans h
      | some contentType =>
          have hget := get_receivedComponents response (contentDigest sha256 response.body)
            contentType
          refine ⟨?_, ?_, fun contentType' h => ?_⟩
          · exact (hget _).trans (by rw [if_neg (by decide), if_neg (by decide), if_pos rfl])
          · exact (hget _).trans (by rw [if_neg (by decide), if_pos rfl, trimmed_contentDigest])
          · obtain rfl := Option.some.inj (hheader.symm.trans h)
            exact ⟨by simp, (hget _).trans (if_pos rfl)⟩

end Authentic

section Accepting

variable {C : SignatureCrates} {sha256 : Bytes → Bytes} {log : SignedLog C}
  {verifying : VerifyingKeyring C} {received : HttpResponse} {now : Int64} {kid : Chars}

/-- The received response is, in what was signed, the one that the deployment gave at the
time `created`; and where the id was read as it was written, it was given in the last minutes. -/
structure GivenBy (sha256 : Bytes → Bytes) (ring : SigningKeyring C)
    (response : HttpResponse) (created : Int64) (received : HttpResponse) (kid : Chars)
    (now : Int64) : Prop where
  status : received.status = response.status
  body : received.body = response.body
  typed : ∀ contentType, header response.headers "content-type".toList = some contentType →
    (getHeader received.headers HeaderName.contentType).map trimmed = some (trimmed contentType)
  recent : ';' ∉ ring.activeKid → kid = ring.activeKid ∧ checkCreated (some created) now = .ok ()

/-- **A response that a client accepts is one that the deployment gave**, as long as nobody
else signs and no digest is that of two bodies. -/
theorem acceptedResponse_given (hunforged : log.Unforged sha256 verifying)
    (hcollision : ∀ entry ∈ log.responses, sha256 received.body = sha256 entry.2.1.body →
      received.body = entry.2.1.body)
    (h : verifyResponse sha256 verifying received now = some kid) :
    ∃ ring response created, (ring, response, created) ∈ log.responses ∧
      GivenBy sha256 ring response created received kid now := by
  obtain ⟨contentType, input, signature, h⟩ := verifyResponse_eq_some.mp h
  obtain ⟨inputs, _, hinputs, -, member, hmember, hone⟩ := verifyMessage_ok h.verified
  obtain ⟨params, key, bytes, base, haccepted, hkeyid⟩ := verifyOne_eq_ok.mp hone
  have hcovers := checkCoverage_eq_ok.mp haccepted.covers
  have hsigns := hunforged _ (findKey_eq_ok haccepted.found) _ _ haccepted.verified
  generalize hpayload : utf8 base = payload at hsigns
  cases hsigns with
  | link mem => exact absurd (utf8_injective hpayload) (signatureBase_ne_link haccepted.built)
  | @response ring response created base' mem built =>
      obtain rfl := utf8_injective hpayload
      have hunbroken : (receivedComponents received (contentDigest sha256 received.body)
          contentType).Unbroken := by
        obtain ⟨e, -, htext⟩ := Option.bind_eq_some_iff.mp h.typed
        exact ((MessageComponents.Unbroken.new.insert _ (statusText_no_break _)).insert _
          (contentDigest_no_break _ _)).insert _ (toStr_no_break htext)
      have hraw : '\n' ∉ member.2 := by
        obtain ⟨members, hmembers, hparts⟩ := parseDictionary_eq_ok hinputs
        obtain ⟨part, hpart, hpartOf⟩ := hparts member hmember
        obtain ⟨e, -, htext⟩ := Option.bind_eq_some_iff.mp h.named
        exact fun hc => toStr_no_break htext
          ((mem_splitMembers hmembers part hpart).subset (hpartOf.subset hc))
      have hcovered : ∀ name ∈ params.covered, ' ' ∉ name := by
        intro name hname hc
        obtain ⟨-, -, -, hnames, -⟩ := parseSignatureParams_eq_ok haccepted.parsed
        cases (hnames name hname).1 _ hc
      have hquote : ∀ name ∈ (signedComponents sha256 response).2, '"' ∉ name := by
        have hall : ∀ name ∈ responseNames, '"' ∉ name := by
          simp [responseNames]
        exact fun name hname => hall name (signedComponents_names name hname)
      obtain ⟨hsame, hparams, hvalues⟩ := signatureBase_inj hunbroken
        (get_receivedComponents _ _ _ _) hraw hcovered hquote
        (fun name _ value hvalue => signedComponents_unbroken name value hvalue)
        haccepted.built built
      have hdigested : "content-digest".toList ∈ params.covered := hcovers _ (by simp)
      have hdigest := digestSigned_of_covered (hsame ▸ hdigested)
      refine ⟨ring, response, created, mem, ⟨?_, ?_, fun contentType' htype => ?_, fun hkid => ?_⟩⟩
      · have hstatus := hvalues _ (hcovers "@status".toList (by simp))
        rw [hdigest.status, get_receivedComponents, if_neg (by decide), if_neg (by decide),
          if_pos rfl] at hstatus
        exact statusText_inj (Option.some.inj hstatus)
      · have hbody := hvalues _ hdigested
        rw [hdigest.digest, get_receivedComponents, if_neg (by decide), if_pos rfl,
          trimmed_contentDigest] at hbody
        exact hcollision _ mem (contentDigest_inj (Option.some.inj hbody))
      · obtain ⟨hmem, hget⟩ := hdigest.typed contentType' htype
        have htyped := hvalues _ (hsame ▸ hmem)
        rw [hget, get_receivedComponents, if_pos rfl] at htyped
        rw [h.typed]
        exact htyped
      · have hnames : ∀ name ∈ (signedComponents sha256 response).2,
            (∀ c ∈ name, isWhitespace c = false) ∧ ')' ∉ name :=
          fun name hname => responseNames_plain name (signedComponents_names name hname)
        have hread : parseSignatureParams (signatureParams (signedComponents sha256 response).2
            created ring.activeKid none) = .ok _ :=
          parseSignatureParams_signatureParams hnames hkid ring.activeKid_ne_nil
        obtain rfl := Except.ok.inj (haccepted.parsed.symm.trans ((congrArg _ hparams).trans hread))
        exact ⟨hkeyid.symm, haccepted.recent⟩

end Accepting

namespace SignedAnswer

/-- The crates, as far as the one signature goes that was made. -/
def answerCrates : SignatureCrates :=
  { crates with
    ed25519Verify := fun publicKey payload made =>
      publicKey.1 == AgentMessage.publicKey && payload == utf8 base && made == signature }

def answerRing : SigningKeyring answerCrates :=
  ⟨⟨"orch-2026-a".toList, .ed25519 seed, by decide⟩, [], List.nodup_singleton _⟩

def answerKeys : VerifyingKeyring answerCrates :=
  ⟨[("orch-2026-a".toList, .ed25519 ⟨AgentMessage.publicKey, AgentMessage.publicKey_length⟩)],
    by intro e he; obtain rfl := List.mem_singleton.mp he; decide, List.nodup_singleton _⟩

def answerLog : SignedLog answerCrates :=
  ⟨{(answerRing, answer, 1760000000)}, {("chk_00000000-0000-0000-0000-000000000000".toList, 1760000900)}⟩

/-- The answer, with a header of a cache. -/
def cached : HttpResponse :=
  let signed := signResponse AgentRequest.sha256 fromStr (some answerRing) answer 1760000000
  { signed with headers := (HeaderName.fromStatic "x-cache" (by decide), utf8 "hit".toList) :: signed.headers }

theorem answer_base : responseBase AgentRequest.sha256 answerRing answer 1760000000 = .ok base := by
  decide +kernel

theorem answerLog_unforged : answerLog.Unforged AgentRequest.sha256 answerKeys := by
  intro e he payload made h
  obtain rfl := List.mem_singleton.mp he
  have h : (AgentMessage.publicKey == AgentMessage.publicKey && payload == utf8 base &&
      made == signature) = true := (Bool.and_eq_true_iff.mp h).2
  rw [Bool.and_eq_true_iff, Bool.and_eq_true_iff] at h
  rw [beq_iff_eq.mp h.1.2]
  exact .response (Set.mem_singleton _) answer_base

theorem cached_body : cached.body = answer.body := by decide +kernel

theorem cached_accepted :
    verifyResponse AgentRequest.sha256 answerKeys cached 1760000010 = some "orch-2026-a".toList := by
  decide +kernel

end SignedAnswer

open SignedAnswer in
theorem acceptedResponse_given_cached : ∃ ring response created,
    (ring, response, created) ∈ answerLog.responses ∧
      GivenBy AgentRequest.sha256 ring response created cached "orch-2026-a".toList 1760000010 :=
  acceptedResponse_given answerLog_unforged
    (fun _ he _ => cached_body.trans (Set.mem_singleton_iff.mp he ▸ rfl)) cached_accepted

end Orchestrator
