/-
# `CommerceOrchestrator.Api.SignatureTimes` — when a signature is accepted

A signature states when it was created, if it does, and when it expires, if it does.  One
that states both is accepted in a window around the former and up to the latter.  The
distance from now is computed before the key is looked up, from a number that anybody can
write, and a number far enough in the past makes it overflow.
-/
import CommerceOrchestrator.Api.SigningRoundTrip

namespace Orchestrator

open Effect Text

variable {C : SignatureCrates}

/-! ## Two acceptances -/

section Replay

variable {ring : VerifyingKeyring C} {components : MessageComponents}
  {signatureInput signature kid kid' : Chars} {required : List Chars} {now now' : Int64}

/-- A member of `Signature-Input` that is accepted now, with what was read from it. -/
def AcceptedMember (ring : VerifyingKeyring C) (components : MessageComponents)
    (signatureInput signature : Chars) (required : List Chars) (now : Int64)
    (member : Chars × Chars) (params : SignatureParams) : Prop :=
  ∃ inputs signatures, parseDictionary signatureInput = .ok inputs ∧
    parseDictionary signature = .ok signatures ∧ member ∈ inputs ∧
    parseSignatureParams member.2 = .ok params ∧ ring.verifyOne components member.2
      ((signatures.find? (·.1 = member.1)).map Prod.snd) required now = .ok params.keyid

theorem exists_acceptedMember
    (h : ring.verifyMessage components signatureInput signature required now = .ok kid) :
    ∃ member params,
      AcceptedMember ring components signatureInput signature required now member params := by
  obtain ⟨inputs, signatures, hinputs, hsignatures, member, hmember, hone⟩ := verifyMessage_ok h
  obtain ⟨params, key, bytes, base, haccepted, rfl⟩ := verifyOne_eq_ok.mp hone
  exact ⟨member, params, inputs, signatures, hinputs, hsignatures, hmember, haccepted.parsed, hone⟩

variable {member : Chars × Chars} {params : SignatureParams}

theorem AcceptedMember.checks
    (h : AcceptedMember ring components signatureInput signature required now member params) :
    checkCreated params.created now = .ok () ∧ checkExpires params.expires now = .ok () := by
  obtain ⟨inputs, signatures, -, -, -, hparsed, hone⟩ := h
  obtain ⟨params', key, bytes, base, haccepted, -⟩ := verifyOne_eq_ok.mp hone
  obtain rfl := Except.ok.inj (hparsed.symm.trans haccepted.parsed)
  exact ⟨haccepted.recent, haccepted.unexpired⟩

theorem AcceptedMember.unexpired
    (h : AcceptedMember ring components signatureInput signature required now member params) :
    ∀ expires, params.expires = some expires → now ≤ expires := by
  intro expires hexpires
  have hchecked := h.checks.2
  rw [hexpires, checkExpires] at hchecked
  split at hchecked
  · cases hchecked
  · next hlate => exact Int64.not_lt.mp hlate

theorem AcceptedMember.near {created : Int64}
    (h : AcceptedMember ring components signatureInput signature required now member params)
    (hcreated : params.created = some created)
    (hfits : (now.toInt - created.toInt).natAbs < 2 ^ 63) :
    (now.toInt - created.toInt).natAbs ≤ 300 := by
  have hchecked := h.checks.1
  rw [hcreated] at hchecked
  exact (checkCreated_eq_ok hfits).mp hchecked

/-- **A signature that states when it was created is replayable in a window**, and none is
accepted later than it states. -/
theorem replay_window
    (h : ring.verifyMessage components signatureInput signature required now = .ok kid)
    (h' : ring.verifyMessage components signatureInput signature required now' = .ok kid') :
    (∃ member params,
      AcceptedMember ring components signatureInput signature required now member params) ∧
    (∃ member params,
      AcceptedMember ring components signatureInput signature required now' member params) ∧
    ∀ member params member' params',
      AcceptedMember ring components signatureInput signature required now member params →
      AcceptedMember ring components signatureInput signature required now' member' params' →
      (∀ expires, params.expires = some expires → now ≤ expires) ∧
      (∀ expires, params'.expires = some expires → now' ≤ expires) ∧
      ∀ created, params.created = some created → params'.created = some created →
        (now.toInt - created.toInt).natAbs < 2 ^ 63 →
        (now'.toInt - created.toInt).natAbs < 2 ^ 63 →
        (now.toInt - now'.toInt).natAbs ≤ 2 * 300 := by
  refine ⟨exists_acceptedMember h, exists_acceptedMember h', ?_⟩
  intro member params member' params' haccepted haccepted'
  refine ⟨haccepted.unexpired, haccepted'.unexpired, ?_⟩
  intro created hcreated hcreated' hfits hfits'
  have hnear := haccepted.near hcreated hfits
  have hnear' := haccepted'.near hcreated' hfits'
  omega

end Replay

/-! ## The distance from now -/

/-- `(now - created).abs()` as an `i64`, unless one of the two operations overflows. -/
def skew (now created : Int64) : Option Int64 :=
  (fit (now.toInt - created.toInt)).bind fun difference => fit difference.toInt.natAbs

/-- Neither operation overflows if the distance is in range. -/
theorem skew_isSome {now created : Int64} (hnow : 0 ≤ now.toInt) :
    (skew now created).isSome = true ↔ now.toInt - created.toInt < 2 ^ 63 := by
  have hcreated := created.toInt_lt
  constructor
  · intro h
    by_contra hfar
    rw [skew, fit_eq_none (by omega)] at h
    cases h
  · intro hrange
    have hdifference :
        (Int64.ofInt (now.toInt - created.toInt)).toInt = now.toInt - created.toInt :=
      Int64.toInt_ofInt_of_le (by omega) (by omega)
    rw [skew, fit_of_range (by omega), Option.bind_some, hdifference, fit_of_range (by omega)]
    rfl

section Overflow

variable {ring : VerifyingKeyring C} {required : List Chars} {now : Int64}

/-- What the check of one member should do: compute the distance, and refuse if it is too far. -/
def SkewChecked (ring : VerifyingKeyring C) (required : List Chars) (now : Int64) (raw : Chars) :
    Prop :=
  ∀ params created, parseSignatureParams raw = .ok params →
    checkCoverage required params.covered = .ok () → params.created = some created →
      (skew now created).isSome = true ∧ (300 < (now.toInt - created.toInt).natAbs →
        ∀ components value, ∃ e, ring.verifyOne components raw value required now = .error e)

/-- **The distance does not overflow and what is too far is refused**, for every member of a
header, if and only if no `created` lies more than a whole range of numbers in the past. -/
theorem skew_checked_iff (hnow : 0 ≤ now.toInt) (signatureInput : Chars) :
    (∀ inputs, parseDictionary signatureInput = .ok inputs → ∀ member ∈ inputs,
      SkewChecked ring required now member.2) ↔
    ∀ inputs, parseDictionary signatureInput = .ok inputs → ∀ member ∈ inputs,
      ∀ params created, parseSignatureParams member.2 = .ok params →
        checkCoverage required params.covered = .ok () → params.created = some created →
          now.toInt - created.toInt < 2 ^ 63 := by
  constructor
  · intro h inputs hinputs member hmember params created hparsed hcovers hcreated
    exact (skew_isSome hnow).mp (h inputs hinputs member hmember params created hparsed hcovers
      hcreated).1
  · intro h inputs hinputs member hmember params created hparsed hcovers hcreated
    have hrange := h inputs hinputs member hmember params created hparsed hcovers hcreated
    refine ⟨(skew_isSome hnow).mpr hrange, fun hfar components value => ?_⟩
    cases hone : ring.verifyOne components member.2 value required now with
    | error e => exact ⟨e, rfl⟩
    | ok kid =>
        exfalso
        obtain ⟨params', key, bytes, base, haccepted, -⟩ := verifyOne_eq_ok.mp hone
        obtain rfl := Except.ok.inj (hparsed.symm.trans haccepted.parsed)
        have hrecent := haccepted.recent
        have hlow := created.toInt_lt
        rw [hcreated, checkCreated_eq_ok (by omega)] at hrecent
        omega

end Overflow

/-! ## An agent's signatures -/

namespace AgentTimes

/-- A signature that says nothing about time. -/
def timeless : Chars := "(\"@method\");keyid=\"agent-1\"".toList

def components : MessageComponents := MessageComponents.new.insert "@method".toList "POST".toList

def base : Chars :=
  "\"@method\": POST\n".toList ++ "\"@signature-params\": ".toList ++ timeless

def signature : Bytes :=
  [0x10, 0x62, 0xae, 0x78, 0x0e, 0xb2, 0x4b, 0x37, 0xf4, 0x98, 0xf3, 0xb4, 0x19, 0x94,
   0xc9, 0x24, 0x33, 0xe0, 0xb1, 0x0a, 0x1c, 0xb7, 0x6d, 0xc7, 0x6e, 0x86, 0xb4, 0x8f,
   0x9d, 0x33, 0xfb, 0x44, 0xa5, 0xb8, 0xb8, 0xfe, 0x28, 0xa4, 0xcc, 0x5a, 0x0d, 0x8b,
   0xd4, 0x71, 0x9c, 0x8e, 0x9f, 0x84, 0x37, 0x3d, 0x42, 0xad, 0x1c, 0x0e, 0xfa, 0x88,
   0x71, 0xfa, 0x88, 0x3e, 0xf5, 0x82, 0xd0, 0x08]

def verifies (payload bytes : Bytes) : Bool := payload == utf8 base && bytes == signature

/-- The crates, as far as the agent's key and this signature go. -/
def crates : SignatureCrates :=
  { AgentMessage.crates with ed25519Verify := fun _ payload bytes => verifies payload bytes }

def key : PublicKey crates := .ed25519 ⟨AgentMessage.publicKey, AgentMessage.publicKey_length⟩

def ring : VerifyingKeyring crates :=
  ⟨[("agent-1".toList, key)],
    by intro e he; obtain rfl := List.mem_singleton.mp he; decide, List.nodup_singleton _⟩

theorem key_verify (payload bytes : Bytes) :
    key.verify payload bytes = (bytes.length == 64 && verifies payload bytes) := rfl

/-- What the parsers make of it. -/
theorem timeless_eq :
    parseSignatureParams timeless =
      .ok { covered := ["@method".toList], keyid := "agent-1".toList } ∧
    parseDictionary (signatureLabel ++ '=' :: timeless) = .ok [(signatureLabel, timeless)] ∧
    signatureBase components ["@method".toList] timeless = .ok base := by
  decide +kernel

theorem accepted (now : Int64) :
    ring.verifyMessage components (signatureLabel ++ '=' :: timeless)
      (signatureLabel ++ "=:".toList ++ encodeStandard signature ++ [':']) [] now =
        .ok "agent-1".toList := by
  obtain ⟨hparsed, hinputs, hbase⟩ := timeless_eq
  have hfound : ring.findKey "agent-1".toList = .ok key := by
    rw [VerifyingKeyring.findKey, ring, List.find?_cons_of_pos (by simp)]
  have hverified : key.verify (utf8 base) signature = true := by
    have hlength : signature.length = 64 := rfl
    have hverifies : verifies (utf8 base) signature = true := by
      rw [verifies, beq_self_eq_true, beq_self_eq_true, Bool.and_self]
    rw [key_verify, hlength, hverifies]
    rfl
  have hread : readSignature (some (':' :: encodeStandard signature ++ [':'])) = .ok signature := by
    rw [readSignature, Option.bind_some, parseByteSequence_encodeStandard]
  have hone : ring.verifyOne components timeless
      (some (':' :: encodeStandard signature ++ [':'])) [] now = .ok "agent-1".toList :=
    verifyOne_eq_ok.mpr ⟨_, key, signature, base,
    { parsed := hparsed
      covers := checkCoverage_eq_ok.mpr fun name h => absurd h List.not_mem_nil
      recent := rfl
      unexpired := rfl
      found := hfound
      algorithm := rfl
      read := hread
      built := hbase
      verified := hverified }, rfl⟩
  have hsame : (([(signatureLabel, ':' :: encodeStandard signature ++ [':'])].find?
      (·.1 = signatureLabel)).map Prod.snd) = some (':' :: encodeStandard signature ++ [':']) := rfl
  refine bind_eq_ok.mpr ⟨_, hinputs, bind_eq_ok.mpr ⟨_, parseDictionary_signature _, ?_⟩⟩
  rw [if_neg (by simp), VerifyingKeyring.firstAccepted, hsame, hone]

/-- The headers of the agent's own message. -/
def inputHeader : Chars := signatureLabel ++ '=' :: AgentMessage.params "agent-1"

def signatureHeader : Chars :=
  signatureLabel ++ "=:".toList ++
    encodeStandard (AgentMessage.signatureOf (utf8 (AgentMessage.base "agent-1"))) ++ [':']

theorem own_verified (payload : Bytes) :
    (PublicKey.ed25519 ⟨AgentMessage.publicKey, AgentMessage.publicKey_length⟩ :
      PublicKey AgentMessage.crates).verify payload (AgentMessage.signatureOf payload) = true :=
  PrivateKey.verify_sign AgentMessage.crates_faithful (.ed25519 []) payload

theorem own_accepted {now : Int64} (hrecent : (now.toInt - 1760000000).natAbs ≤ 300)
    (hunexpired : now ≤ 1760000060) :
    (AgentMessage.verifying "agent-1" (by decide)).verifyMessage AgentMessage.components
      inputHeader signatureHeader AgentMessage.covered now = .ok "agent-1".toList := by
  have hfound : (AgentMessage.verifying "agent-1" (by decide)).findKey "agent-1".toList =
      .ok (.ed25519 ⟨AgentMessage.publicKey, AgentMessage.publicKey_length⟩) := by
    rw [VerifyingKeyring.findKey, AgentMessage.verifying, List.find?_cons_of_pos (by simp)]
  exact verifyMessage_of_roundTrips AgentMessage.roundTrips_sample (by decide) hrecent
    (fun e he => Option.some.inj he ▸ hunexpired) hfound (AgentMessage.signatureBase_base "agent-1")
    (own_verified _) fun _ h => h

/-- The same key, with a number at the end of the range. -/
def farPast : Chars := "(\"@method\");created=-9223372035094775808;keyid=\"agent-1\"".toList

theorem farPast_eq :
    parseDictionary (signatureLabel ++ '=' :: farPast) = .ok [(signatureLabel, farPast)] ∧
    parseSignatureParams farPast =
      .ok { covered := ["@method".toList], created := some (-9223372035094775808)
            keyid := "agent-1".toList } := by
  decide +kernel

end AgentTimes

open AgentTimes in
theorem replay_window_sample :
    (∃ member params, AcceptedMember (AgentMessage.verifying "agent-1" (by decide))
      AgentMessage.components inputHeader signatureHeader AgentMessage.covered 1759999700 member
        params) ∧
    (∃ member params, AcceptedMember (AgentMessage.verifying "agent-1" (by decide))
      AgentMessage.components inputHeader signatureHeader AgentMessage.covered 1760000060 member
        params) ∧
    ∀ member params member' params',
      AcceptedMember (AgentMessage.verifying "agent-1" (by decide)) AgentMessage.components
        inputHeader signatureHeader AgentMessage.covered 1759999700 member params →
      AcceptedMember (AgentMessage.verifying "agent-1" (by decide)) AgentMessage.components
        inputHeader signatureHeader AgentMessage.covered 1760000060 member' params' →
      (∀ expires, params.expires = some expires → 1759999700 ≤ expires) ∧
      (∀ expires, params'.expires = some expires → 1760000060 ≤ expires) ∧
      ∀ created, params.created = some created → params'.created = some created →
        ((1759999700 : Int64).toInt - created.toInt).natAbs < 2 ^ 63 →
        ((1760000060 : Int64).toInt - created.toInt).natAbs < 2 ^ 63 →
        ((1759999700 : Int64).toInt - (1760000060 : Int64).toInt).natAbs ≤ 2 * 300 :=
  replay_window (own_accepted (by decide) (by decide)) (own_accepted (by decide) (by decide))

open AgentTimes in
/-- A signature that does not state when it was created is accepted a day later. -/
theorem timeless_accepted :
    ring.verifyMessage components (signatureLabel ++ '=' :: timeless)
        (signatureLabel ++ "=:".toList ++ encodeStandard signature ++ [':']) [] 1760000000 =
          .ok "agent-1".toList ∧
      ring.verifyMessage components (signatureLabel ++ '=' :: timeless)
        (signatureLabel ++ "=:".toList ++ encodeStandard signature ++ [':']) [] 1760086400 =
          .ok "agent-1".toList ∧
      ¬ ((1760000000 : Int64).toInt - (1760086400 : Int64).toInt).natAbs ≤ 2 * 300 :=
  ⟨accepted _, accepted _, by decide⟩

open AgentTimes in
theorem skew_checked_sample :
    (∀ inputs, parseDictionary (signatureLabel ++ '=' :: timeless) = .ok inputs →
      ∀ member ∈ inputs, SkewChecked ring [] 1760000000 member.2) ↔
    ∀ inputs, parseDictionary (signatureLabel ++ '=' :: timeless) = .ok inputs →
      ∀ member ∈ inputs, ∀ params created, parseSignatureParams member.2 = .ok params →
        checkCoverage [] params.covered = .ok () → params.created = some created →
          (1760000000 : Int64).toInt - created.toInt < 2 ^ 63 :=
  skew_checked_iff (by decide) _

open AgentTimes in
/-- The distance overflows, and what is left of it is not too far. -/
theorem skew_overflows :
    skew 1760000000 (-9223372035094775808) = none ∧
      checkCreated (some (-9223372035094775808)) 1760000000 = .ok () ∧
      ¬ ∀ inputs, parseDictionary (signatureLabel ++ '=' :: farPast) = .ok inputs →
        ∀ member ∈ inputs, SkewChecked ring [] 1760000000 member.2 := by
  refine ⟨by decide, by decide, fun h => ?_⟩
  obtain ⟨hinputs, hparsed⟩ := farPast_eq
  have hcovers : checkCoverage [] ["@method".toList] = .ok () :=
    checkCoverage_eq_ok.mpr fun name h => nomatch h
  have hchecked := h _ hinputs _ (List.mem_singleton_self _) _ _ hparsed hcovers rfl
  exact absurd hchecked.1 (by decide)

end Orchestrator
