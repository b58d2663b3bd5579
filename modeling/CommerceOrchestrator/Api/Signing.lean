/-
# `CommerceOrchestrator.Api.Signing` — signatures over the components of a message

A signature covers named components of a message.  The signer writes the names it covers
and its parameters into `Signature-Input`, and signs one line a component with the
parameters below; the verifier takes the header apart and signs nothing, but puts together
the same text and checks it against the key that the parameters name.

The signature crates and the reader of JSON are taken as they are: `SignatureCrates` lists
the functions of the former that the keyrings call, and the latter is a parameter of
`fromJwks`.
-/
import CommerceOrchestrator.Core.Validation
import CommerceOrchestrator.Effect.Fallible
import CommerceOrchestrator.Effect.Table
import CommerceOrchestrator.Text.Base64
import CommerceOrchestrator.Text.Decimal

namespace Orchestrator

open Effect Text

/-! ## Keys -/

inductive KeyAlgorithm
  | edDsa
  | es256
deriving DecidableEq, Repr

def KeyAlgorithm.joseName : KeyAlgorithm → String
  | .edDsa => "EdDSA"
  | .es256 => "ES256"

def KeyAlgorithm.httpSignatureName : KeyAlgorithm → String
  | .edDsa => "ed25519"
  | .es256 => "ecdsa-p256-sha256"

inductive SigningKeyError
  | missingKid
  | invalidKeyMaterial (kid : Chars) (reason : String)
  | duplicateKid (kid : Chars)
  | unsupportedAlgorithm (name : String)
  | invalidJwks (reason : String)
deriving DecidableEq, Repr

/-- The signature crates, as far as the keyrings use them. -/
structure SignatureCrates where
  Ed25519Secret : Type
  Ed25519Public : Type
  /-- From a seed of 32 bytes. -/
  ed25519OfSeed : Bytes → Ed25519Secret
  ed25519Public : Ed25519Secret → Ed25519Public
  ed25519Sign : Ed25519Secret → (payload : Bytes) → Bytes
  /-- Of a signature of 64 bytes. -/
  ed25519Verify : Ed25519Public → (payload signature : Bytes) → Bool
  ed25519ToBytes : Ed25519Public → Bytes
  /-- From 32 bytes. -/
  ed25519OfBytes : Bytes → Except String Ed25519Public
  P256Secret : Type
  P256Public : Type
  /-- From a scalar of 32 bytes. -/
  p256OfScalar : Bytes → Except String P256Secret
  p256Public : P256Secret → P256Public
  p256Sign : P256Secret → (payload : Bytes) → Bytes
  /-- The signature is read from its bytes first. -/
  p256Verify : P256Public → (payload signature : Bytes) → Bool
  /-- The coordinates of the uncompressed point. -/
  p256Coordinates : P256Public → Option Bytes × Option Bytes
  p256OfSec1 : Bytes → Except String P256Public

/-- A key of a JWK Set. -/
structure SigningKeyDescriptor where
  kid : Chars
  kty : String
  crv : Option String
  alg : String
  x : Option Chars
  y : Option Chars
  use_ : Option String
deriving DecidableEq, Repr

/-- `str::trim`. -/
def trimmed (s : Chars) : Chars := strip isWhitespace s

/-- Whichever flavour of base64 it is. -/
def decodeBase64 (value : Chars) : Option Bytes :=
  if trimmed value = [] then none
  else (decodeUrlSafe ((trimmed value).rdropWhile (· == '='))).or (decodeStandard (trimmed value))

section Crates

variable (C : SignatureCrates)

inductive PrivateKey
  | ed25519 (key : C.Ed25519Secret)
  | p256 (key : C.P256Secret)

inductive PublicKey
  | ed25519 (key : C.Ed25519Public)
  | p256 (key : C.P256Public)

/-- Operator-supplied private key material. -/
structure KeySpec where
  kid : Chars
  algorithm : KeyAlgorithm
  secret : Chars
deriving DecidableEq, Repr

structure Key where
  kid : Chars
  secret : PrivateKey C
  named : trimmed kid ≠ []

/-- The active key and its predecessors, each under an id of its own. -/
structure SigningKeyring where
  active : Key C
  previous : List (Key C)
  distinct : ((active :: previous).map Key.kid).Nodup

/-- The keys of counterparties, each under an id of its own. -/
structure VerifyingKeyring where
  keys : List (Chars × PublicKey C)
  named : ∀ e ∈ keys, trimmed e.1 ≠ []
  distinct : (keys.map Prod.fst).Nodup

end Crates

variable {C : SignatureCrates}

namespace PrivateKey

def sign : PrivateKey C → Bytes → Bytes
  | .ed25519 key, payload => C.ed25519Sign key payload
  | .p256 key, payload => C.p256Sign key payload

def publicKey : PrivateKey C → PublicKey C
  | .ed25519 key => .ed25519 (C.ed25519Public key)
  | .p256 key => .p256 (C.p256Public key)

end PrivateKey

def ed25519PublicKey (C : SignatureCrates) (kid : Chars) (raw : Bytes) :
    Except SigningKeyError (PublicKey C) :=
  if raw.length ≠ 32 then
    .error (.invalidKeyMaterial kid "expected 32 bytes of Ed25519 public key")
  else
    match C.ed25519OfBytes raw with
    | .ok key => .ok (.ed25519 key)
    | .error e => .error (.invalidKeyMaterial kid e)

namespace PublicKey

def algorithm : PublicKey C → KeyAlgorithm
  | .ed25519 _ => .edDsa
  | .p256 _ => .es256

def verify : PublicKey C → (payload signature : Bytes) → Bool
  | .ed25519 key, payload, signature =>
      signature.length == 64 && C.ed25519Verify key payload signature
  | .p256 key, payload, signature => C.p256Verify key payload signature

def jwk (kid : Chars) : PublicKey C → SigningKeyDescriptor
  | .ed25519 key =>
      { kid, kty := "OKP", crv := some "Ed25519", alg := KeyAlgorithm.edDsa.joseName
        x := some (encodeUrlSafe (C.ed25519ToBytes key)), y := none, use_ := some "sig" }
  | .p256 key =>
      { kid, kty := "EC", crv := some "P-256", alg := KeyAlgorithm.es256.joseName
        x := (C.p256Coordinates key).1.map encodeUrlSafe
        y := (C.p256Coordinates key).2.map encodeUrlSafe, use_ := some "sig" }

/-- A coordinate of a JWK. -/
def coordinate (kid : Chars) (value : Option Chars) (name : String) :
    Except SigningKeyError Bytes :=
  match value.bind decodeBase64 with
  | some bytes => .ok bytes
  | none => .error (.invalidKeyMaterial kid ("missing or non-base64 '" ++ name ++ "'"))

def fromJwk (C : SignatureCrates) (jwk : SigningKeyDescriptor) :
    Except SigningKeyError (PublicKey C) :=
  match jwk.kty, jwk.crv with
  | "OKP", some "Ed25519" => do
      ed25519PublicKey C jwk.kid (← coordinate jwk.kid jwk.x "x")
  | "EC", some "P-256" => do
      let x ← coordinate jwk.kid jwk.x "x"
      let y ← coordinate jwk.kid jwk.y "y"
      match C.p256OfSec1 (0x04 :: (x ++ y)) with
      | .ok key => .ok (.p256 key)
      | .error e => .error (.invalidKeyMaterial jwk.kid e)
  | kty, crv =>
      .error (.unsupportedAlgorithm ("kty=" ++ kty ++ " crv=" ++ crv.getD "none"))

end PublicKey

/-! ## Keyrings -/

def buildKey (C : SignatureCrates) (spec : KeySpec) : Except SigningKeyError (Key C) :=
  if named : trimmed spec.kid = [] then .error .missingKid
  else
    let invalid := SigningKeyError.invalidKeyMaterial spec.kid
    match decodeBase64 spec.secret with
    | none => .error (invalid "expected base64-encoded key material")
    | some bytes =>
        if bytes.length ≠ 32 then .error (invalid "expected 32 bytes of private key material")
        else
          match spec.algorithm with
          | .edDsa => .ok ⟨spec.kid, .ed25519 (C.ed25519OfSeed bytes), named⟩
          | .es256 =>
              match C.p256OfScalar bytes with
              | .ok key => .ok ⟨spec.kid, .p256 key, named⟩
              | .error e => .error (invalid ("not a valid P-256 private scalar: " ++ e))

namespace SigningKeyring

/-- One more predecessor, unless its id is taken. -/
def push (ring : SigningKeyring C) (key : Key C) : Except SigningKeyError (SigningKeyring C) :=
  if taken : key.kid ∈ (ring.active :: ring.previous).map Key.kid then .error (.duplicateKid key.kid)
  else
    .ok
      { active := ring.active
        previous := ring.previous ++ [key]
        distinct := by
          rw [← List.cons_append, List.map_append]
          exact List.nodup_append.mpr ⟨ring.distinct, List.nodup_singleton _, fun a ha b hb he =>
            taken (List.mem_singleton.mp hb ▸ he ▸ ha)⟩ }

def fromSpecs (C : SignatureCrates) (active : KeySpec) (previous : List KeySpec) :
    Except SigningKeyError (SigningKeyring C) := do
  let key ← buildKey C active
  previous.foldlM (fun ring spec => do ring.push (← buildKey C spec))
    ⟨key, [], List.nodup_singleton _⟩

def activeKid (ring : SigningKeyring C) : Chars := ring.active.kid

/-- The public halves, active key first. -/
def publicJwks (ring : SigningKeyring C) : List SigningKeyDescriptor :=
  (ring.active :: ring.previous).map fun key => key.secret.publicKey.jwk key.kid

end SigningKeyring

namespace VerifyingKeyring

/-- The checks of the ids, with those seen so far. -/
def checkKids : List Chars → List (Chars × PublicKey C) → Except SigningKeyError Unit
  | _, [] => .ok ()
  | seen, (kid, _) :: entries =>
      if trimmed kid = [] then .error .missingKid
      else if kid ∈ seen then .error (.duplicateKid kid)
      else checkKids (seen ++ [kid]) entries

theorem checkKids_ok {entries : List (Chars × PublicKey C)} : ∀ {seen : List Chars},
    checkKids seen entries = .ok () ↔ (∀ e ∈ entries, trimmed e.1 ≠ [] ∧ e.1 ∉ seen) ∧
      (entries.map Prod.fst).Nodup := by
  induction entries with
  | nil => simp [checkKids]
  | cons e entries ih =>
      intro seen
      obtain ⟨kid, key⟩ := e
      rw [checkKids]
      split
      · next hblank => simp [hblank]
      · next hnamed =>
          split
          · next hseen => simp [hseen]
          · next hseen =>
              rw [ih]
              simp only [List.mem_append, List.mem_singleton, not_or, List.forall_mem_cons,
                List.map_cons, List.nodup_cons, List.mem_map, not_exists, not_and]
              constructor
              · rintro ⟨hall, hnodup⟩
                exact ⟨⟨⟨hnamed, hseen⟩, fun e he => ⟨(hall e he).1, (hall e he).2.1⟩⟩,
                  fun e he => (hall e he).2.2, hnodup⟩
              · rintro ⟨⟨-, hall⟩, hkid, hnodup⟩
                exact ⟨fun e he => ⟨(hall e he).1, (hall e he).2, hkid e he⟩, hnodup⟩

def fromEntries (entries : List (Chars × PublicKey C)) :
    Except SigningKeyError (VerifyingKeyring C) :=
  match h : checkKids [] entries with
  | .ok () => .ok ⟨entries, fun e he => ((checkKids_ok.mp h).1 e he).1, (checkKids_ok.mp h).2⟩
  | .error e => .error e

/-- The keys of a JWK Set that can be used; those of another type are passed by. -/
def usableKeys (C : SignatureCrates) :
    List SigningKeyDescriptor → Except SigningKeyError (List (Chars × PublicKey C))
  | [] => .ok []
  | jwk :: jwks =>
      match PublicKey.fromJwk C jwk with
      | .ok key => do return (jwk.kid, key) :: (← usableKeys C jwks)
      | .error (.unsupportedAlgorithm _) => usableKeys C jwks
      | .error e => .error e

/-- `readJwks` stands for the reader of JSON: the keys of a JWK Set, or of a bare array. -/
def fromJwks (C : SignatureCrates)
    (readJwks : Chars → Except String (List SigningKeyDescriptor)) (json : Chars) :
    Except SigningKeyError (VerifyingKeyring C) :=
  match readJwks json with
  | .error e => .error (.invalidJwks e)
  | .ok jwks => do fromEntries (← usableKeys C jwks)

end VerifyingKeyring

/-! ## Messages -/

/-- Why a signature is not accepted. -/
inductive SignatureError
  | missing
  | malformed (reason : String)
  | coverageInsufficient (component : Chars)
  | stale (skewSeconds : Int64)
  | expired
  | keyNotFound (kid : Chars)
  | algorithmUnsupported (alg : Chars)
  | digestMismatch
  | verificationFailed
deriving DecidableEq, Repr

namespace SignatureError

def code : SignatureError → String
  | .missing => "signature_missing"
  | .keyNotFound _ => "key_not_found"
  | .algorithmUnsupported _ => "algorithm_unsupported"
  | .digestMismatch => "digest_mismatch"
  | .malformed _ | .coverageInsufficient _ | .stale _ | .expired | .verificationFailed =>
      "signature_invalid"

def httpStatus : SignatureError → Nat
  | .digestMismatch | .algorithmUnsupported _ => 400
  | _ => 401

/-- How far `created` may be from now, in either direction. -/
def maxSkewSeconds : Int64 := 300

/-- The error's display text. -/
def render : SignatureError → String
  | .missing => "request is missing the Signature-Input or Signature header"
  | .malformed reason => "signature header is malformed: " ++ reason
  | .coverageInsufficient component =>
      "signature does not cover required component '" ++ String.ofList component ++ "'"
  | .stale skewSeconds =>
      "signature created " ++ String.ofList (renderInt skewSeconds) ++
        "s away from now, outside the " ++ String.ofList (renderInt maxSkewSeconds) ++ "s window"
  | .expired => "signature has expired"
  | .keyNotFound kid => "no key with keyid '" ++ String.ofList kid ++ "'"
  | .algorithmUnsupported alg => "unsupported signature algorithm '" ++ String.ofList alg ++ "'"
  | .digestMismatch => "body does not match the sha-256 Content-Digest"
  | .verificationFailed => "signature verification failed"

end SignatureError

/-- `str::to_ascii_lowercase`. -/
def toAsciiLowercase (s : Chars) : Chars := s.map Char.toLower

/-- The component values of one message, by lowercase name. -/
structure MessageComponents where
  values : Table Chars Chars

namespace MessageComponents

def new : MessageComponents := ⟨∅⟩

def insert (components : MessageComponents) (name value : Chars) : MessageComponents :=
  ⟨components.values.insert (toAsciiLowercase name) (trimmed value)⟩

def get (components : MessageComponents) (name : Chars) : Option Chars :=
  components.values.lookup name

def contains (components : MessageComponents) (name : Chars) : Bool :=
  (components.get name).isSome

theorem get_new (name : Chars) : new.get name = none := rfl

theorem get_insert (components : MessageComponents) (name value name' : Chars) :
    (components.insert name value).get name' =
      if name' = toAsciiLowercase name then some (trimmed value) else components.get name' :=
  Table.lookup_insert_ite _ _ _ _

end MessageComponents

/-- A text as bytes. -/
def utf8 (s : Chars) : Bytes := (String.ofList s).toByteArray.data.toList

theorem utf8_injective {s t : Chars} (h : utf8 s = utf8 t) : s = t := by
  have hbytes : (String.ofList s).toByteArray = (String.ofList t).toByteArray :=
    ByteArray.ext (Array.toList_inj.mp h)
  exact String.ofList_injective (String.toByteArray_inj.mp hbytes)

/-- The lines of the covered components. -/
def componentLines (components : MessageComponents) : List Chars → Except SignatureError Chars
  | [] => .ok []
  | name :: covered =>
      match components.get name with
      | none =>
          .error (.malformed ("covered component '" ++ String.ofList name ++
            "' is absent from the message"))
      | some value => do
          return quote name ++ ": ".toList ++ value ++ '\n' :: (← componentLines components covered)

/-- What is signed: a line for each component, and the parameters as they are in
`Signature-Input`. -/
def signatureBase (components : MessageComponents) (covered : List Chars) (params : Chars) :
    Except SignatureError Chars := do
  return (← componentLines components covered) ++ "\"@signature-params\": ".toList ++ params

/-! ## Signing -/

/-- The values of the two headers of a signed message. -/
structure SignedMessage where
  signatureInput : Chars
  signature : Chars
deriving DecidableEq, Repr

def signatureLabel : Chars := "sig1".toList

/-- The covered names, each in quotes. -/
def quotedList (covered : List Chars) : Chars :=
  '(' :: [' '].intercalate (covered.map quote) ++ [')']

/-- The parameters as the signer writes them. -/
def signatureParams (covered : List Chars) (created : Int64) (kid : Chars) (expires : Option Int64) :
    Chars :=
  quotedList covered ++ ";created=".toList ++ renderInt created ++ ";keyid=".toList ++ quote kid ++
    expires.elim [] fun expires => ";expires=".toList ++ renderInt expires

def SigningKeyring.signMessageWithParams (ring : SigningKeyring C) (components : MessageComponents)
    (covered : List Chars) (created : Int64) (expires : Option Int64) :
    Except SignatureError SignedMessage := do
  let params := signatureParams covered created ring.activeKid expires
  let base ← signatureBase components covered params
  let signature := encodeStandard (ring.active.secret.sign (utf8 base))
  return ⟨signatureLabel ++ '=' :: params, signatureLabel ++ "=:".toList ++ signature ++ [':']⟩

/-! ## Reading structured fields -/

/-- Where the scan of a dictionary stands: in a string, in a byte sequence, in so many lists,
after a backslash. -/
structure Lexer where
  inString : Bool := false
  inBytes : Bool := false
  depth : Nat := 0
  escaped : Bool := false
deriving DecidableEq, Repr

namespace Lexer

/-- The character ends a member. -/
def splits (l : Lexer) (ch : Char) : Bool :=
  !l.escaped && ch == ',' && !l.inString && !l.inBytes && l.depth == 0

/-- Read one character of a member. -/
def next (l : Lexer) (ch : Char) : Lexer :=
  if l.escaped then { l with escaped := false }
  else if ch = '\\' ∧ l.inString then { l with escaped := true }
  else if ch = '"' ∧ !l.inBytes then { l with inString := !l.inString }
  else if ch = ':' ∧ !l.inString then { l with inBytes := !l.inBytes }
  else if ch = '(' ∧ !l.inString ∧ !l.inBytes then { l with depth := l.depth + 1 }
  else if ch = ')' ∧ !l.inString ∧ !l.inBytes then { l with depth := l.depth - 1 }
  else l

/-- Nothing is left open. -/
def closed (l : Lexer) : Bool := !l.inString && !l.inBytes && l.depth == 0

end Lexer

/-- The members of a dictionary, with the one that is being read. -/
def splitMembers (l : Lexer) (current : Chars) : Chars → Option (List Chars)
  | [] => if l.closed then some [current] else none
  | ch :: rest =>
      if l.splits ch then (splitMembers l [] rest).map (current :: ·)
      else splitMembers (l.next ch) (current ++ [ch]) rest

/-- `key=value`. -/
def readMember (member : Chars) : Except SignatureError (Chars × Chars) :=
  match splitOnce '=' member with
  | some (key, value) => .ok (trimmed key, trimmed value)
  | none => .error (.malformed ("'" ++ String.ofList member ++ "' is not key=value"))

def parseDictionary (header : Chars) : Except SignatureError (List (Chars × Chars)) :=
  match splitMembers {} [] header with
  | none => .error (.malformed "unbalanced structured field")
  | some members => ((members.map trimmed).filter (· ≠ [])).mapM readMember

/-- A byte sequence between colons; what follows is ignored. -/
def parseByteSequence (value : Chars) : Option Bytes := do
  let inner ← stripPrefix ':' (trimmed value)
  let (body, _) ← splitOnce ':' inner
  decodeStandard body

structure SignatureParams where
  covered : List Chars
  created : Option Int64 := none
  expires : Option Int64 := none
  keyid : Chars := []
  alg : Option Chars := none
deriving DecidableEq, Repr

namespace SignatureParams

def stringParam (name value : Chars) : Except SignatureError Chars :=
  match unquote value with
  | some s => .ok s
  | none => .error (.malformed ("'" ++ String.ofList name ++ "' must be a string"))

def integerParam (name value : Chars) : Except SignatureError Int64 :=
  match parseInt value with
  | some n => .ok n
  | none => .error (.malformed ("'" ++ String.ofList name ++ "' must be an integer"))

/-- One parameter; those of the application are passed by. -/
def set (parsed : SignatureParams) (param : Chars) : Except SignatureError SignatureParams :=
  let (name, value) := (splitOnce '=' param).getD (param, "?1".toList)
  if name = "created".toList then do
    return { parsed with created := some (← integerParam name value) }
  else if name = "expires".toList then do
    return { parsed with expires := some (← integerParam name value) }
  else if name = "keyid".toList then do
    return { parsed with keyid := ← stringParam name value }
  else if name = "alg".toList then do
    return { parsed with alg := some (← stringParam name value) }
  else
    return parsed

end SignatureParams

/-- One covered name. -/
def coveredName (item : Chars) : Except SignatureError Chars :=
  match unquote item with
  | some name => .ok name
  | none =>
      .error (.malformed "covered components must be quoted strings without parameters")

/-- The parts of the parameters, without the blank ones. -/
def paramList (params : Chars) : List Chars :=
  ((params.splitOn ';').map trimmed).filter (· ≠ [])

def parseSignatureParams (raw : Chars) : Except SignatureError SignatureParams :=
  match stripPrefix '(' (trimmed raw) with
  | none => .error (.malformed "Signature-Input member must be an inner list")
  | some rest =>
      match splitOnce ')' rest with
      | none => .error (.malformed "unterminated inner list")
      | some (list, params) => do
          let covered ← (words isWhitespace list).mapM coveredName
          let parsed ← (paramList params).foldlM SignatureParams.set { covered }
          if parsed.keyid = [] then
            throw (.malformed "keyid parameter is required")
          else
            return parsed

/-! ## Verifying -/

/-- Every required component is covered. -/
def checkCoverage (required covered : List Chars) : Except SignatureError Unit :=
  match required.find? (· ∉ covered) with
  | some absent => .error (.coverageInsufficient absent)
  | none => .ok ()

def checkCreated (created : Option Int64) (now : Int64) : Except SignatureError Unit :=
  match created with
  | some created =>
      if (now - created).abs > SignatureError.maxSkewSeconds then .error (.stale (now - created))
      else .ok ()
  | none => .ok ()

def checkExpires (expires : Option Int64) (now : Int64) : Except SignatureError Unit :=
  match expires with
  | some expires => if now > expires then .error .expired else .ok ()
  | none => .ok ()

/-- The algorithm is the key's; a message can repeat it, not choose it. -/
def checkAlg (alg : Option Chars) (algorithm : KeyAlgorithm) : Except SignatureError Unit :=
  match alg with
  | some alg =>
      if alg ≠ algorithm.httpSignatureName.toList then .error (.algorithmUnsupported alg) else .ok ()
  | none => .ok ()

def readSignature (signature : Option Chars) : Except SignatureError Bytes :=
  match signature.bind parseByteSequence with
  | some bytes => .ok bytes
  | none => .error .missing

namespace VerifyingKeyring

def findKey (ring : VerifyingKeyring C) (kid : Chars) : Except SignatureError (PublicKey C) :=
  match ring.keys.find? (·.1 = kid) with
  | some (_, key) => .ok key
  | none => .error (.keyNotFound kid)

def verifyOne (ring : VerifyingKeyring C) (components : MessageComponents) (rawParams : Chars)
    (signature : Option Chars) (required : List Chars) (now : Int64) :
    Except SignatureError Chars := do
  let params ← parseSignatureParams rawParams
  checkCoverage required params.covered
  checkCreated params.created now
  checkExpires params.expires now
  let key ← ring.findKey params.keyid
  checkAlg params.alg key.algorithm
  let signature ← readSignature signature
  let base ← signatureBase components params.covered rawParams
  if key.verify (utf8 base) signature then
    return params.keyid
  else
    throw .verificationFailed

/-- The first member that is accepted, or the first error. -/
def firstAccepted (verify : Chars × Chars → Except SignatureError Chars) :
    Option SignatureError → List (Chars × Chars) → Except SignatureError Chars
  | firstError, [] => .error (firstError.getD .missing)
  | firstError, input :: inputs =>
      match verify input with
      | .ok kid => .ok kid
      | .error e => firstAccepted verify (some (firstError.getD e)) inputs

/-- A message is authenticated by any one of its signatures. -/
def verifyMessage (ring : VerifyingKeyring C) (components : MessageComponents)
    (signatureInput signature : Chars) (required : List Chars) (now : Int64) :
    Except SignatureError Chars := do
  let inputs ← parseDictionary signatureInput
  let signatures ← parseDictionary signature
  if inputs = [] ∨ signatures = [] then
    throw .missing
  else
    firstAccepted (fun input =>
      ring.verifyOne components input.2
        ((signatures.find? (·.1 = input.1)).map Prod.snd) required now) none inputs

end VerifyingKeyring

/-! ## What is accepted -/

/-- What it takes for one signature to be accepted under an id. -/
structure Accepted (ring : VerifyingKeyring C) (components : MessageComponents) (rawParams : Chars)
    (signature : Option Chars) (required : List Chars) (now : Int64) (params : SignatureParams)
    (key : PublicKey C) (bytes : Bytes) (base : Chars) : Prop where
  parsed : parseSignatureParams rawParams = .ok params
  covers : checkCoverage required params.covered = .ok ()
  recent : checkCreated params.created now = .ok ()
  unexpired : checkExpires params.expires now = .ok ()
  found : ring.findKey params.keyid = .ok key
  algorithm : checkAlg params.alg key.algorithm = .ok ()
  read : readSignature signature = .ok bytes
  built : signatureBase components params.covered rawParams = .ok base
  verified : key.verify (utf8 base) bytes = true

section Accepted

variable {ring : VerifyingKeyring C} {components : MessageComponents}
  {rawParams signatureInput signature kid : Chars} {value : Option Chars} {required : List Chars}
  {now : Int64}

theorem checkCoverage_eq_ok {covered : List Chars} :
    checkCoverage required covered = .ok () ↔ ∀ name ∈ required, name ∈ covered := by
  unfold checkCoverage
  split
  · next absent h =>
      have hmem := List.mem_of_find?_eq_some h
      have habsent := List.find?_some h
      simp only [reduceCtorEq, false_iff, not_forall]
      exact ⟨absent, hmem, by simpa using habsent⟩
  · next h => simpa using h

theorem findKey_eq_ok {key : PublicKey C} (h : ring.findKey kid = .ok key) :
    (kid, key) ∈ ring.keys := by
  unfold VerifyingKeyring.findKey at h
  split at h
  · next kid' key' hfind =>
      obtain rfl := Except.ok.inj h
      have hkid : kid' = kid := by simpa using List.find?_some hfind
      exact hkid ▸ List.mem_of_find?_eq_some hfind
  · cases h

theorem verifyOne_eq_ok : ring.verifyOne components rawParams value required now = .ok kid ↔
    ∃ params key bytes base,
      Accepted ring components rawParams value required now params key bytes base ∧
        params.keyid = kid := by
  constructor
  · intro h
    obtain ⟨params, hparsed, h⟩ := bind_eq_ok.mp h
    obtain ⟨⟨⟩, hcovers, h⟩ := bind_eq_ok.mp h
    obtain ⟨⟨⟩, hrecent, h⟩ := bind_eq_ok.mp h
    obtain ⟨⟨⟩, hunexpired, h⟩ := bind_eq_ok.mp h
    obtain ⟨key, hfound, h⟩ := bind_eq_ok.mp h
    obtain ⟨⟨⟩, halg, h⟩ := bind_eq_ok.mp h
    obtain ⟨bytes, hread, h⟩ := bind_eq_ok.mp h
    obtain ⟨base, hbuilt, h⟩ := bind_eq_ok.mp h
    split at h
    · next hverified =>
        exact ⟨params, key, bytes, base, ⟨hparsed, hcovers, hrecent, hunexpired, hfound, halg,
          hread, hbuilt, hverified⟩, Except.ok.inj h⟩
    · cases h
  · rintro ⟨params, key, bytes, base, h, rfl⟩
    refine bind_eq_ok.mpr ⟨_, h.parsed, bind_eq_ok.mpr ⟨_, h.covers, bind_eq_ok.mpr ⟨_, h.recent,
      bind_eq_ok.mpr ⟨_, h.unexpired, bind_eq_ok.mpr ⟨_, h.found, bind_eq_ok.mpr ⟨_, h.algorithm,
        bind_eq_ok.mpr ⟨_, h.read, bind_eq_ok.mpr ⟨_, h.built, ?_⟩⟩⟩⟩⟩⟩⟩⟩
    rw [if_pos h.verified]
    rfl

theorem firstAccepted_ok {verify : Chars × Chars → Except SignatureError Chars}
    {inputs : List (Chars × Chars)} : ∀ {firstError : Option SignatureError},
    VerifyingKeyring.firstAccepted verify firstError inputs = .ok kid →
      ∃ input ∈ inputs, verify input = .ok kid := by
  induction inputs with
  | nil =>
      intro firstError h
      cases h
  | cons input inputs ih =>
      intro firstError h
      rw [VerifyingKeyring.firstAccepted] at h
      split at h
      · next kid' hverify =>
          obtain rfl := Except.ok.inj h
          exact ⟨input, List.mem_cons_self, hverify⟩
      · obtain ⟨input', hmem, hverify⟩ := ih h
        exact ⟨input', List.mem_cons_of_mem _ hmem, hverify⟩

/-- A message that is accepted has a member of `Signature-Input` that is. -/
theorem verifyMessage_ok
    (h : ring.verifyMessage components signatureInput signature required now = .ok kid) :
    ∃ inputs signatures, parseDictionary signatureInput = .ok inputs ∧
      parseDictionary signature = .ok signatures ∧
      ∃ input ∈ inputs, ring.verifyOne components input.2
        ((signatures.find? (·.1 = input.1)).map Prod.snd) required now = .ok kid := by
  obtain ⟨inputs, hinputs, h⟩ := bind_eq_ok.mp h
  obtain ⟨signatures, hsignatures, h⟩ := bind_eq_ok.mp h
  split at h
  · cases h
  · exact ⟨inputs, signatures, hinputs, hsignatures, firstAccepted_ok h⟩

end Accepted

end Orchestrator
