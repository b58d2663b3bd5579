/-
# `CommerceOrchestrator.Api.MandateCaps` — what an accepted consent proof limits

A proof may state a ceiling and a currency, and so may the open mandate in it.  An accepted
request keeps to both currencies, and both mandates are live and from trusted issuers.  The
ceiling of the proof itself is looked at only where the open mandate states none, and a
proof that calls itself an open mandate passes as long as another one is in it.
-/
import CommerceOrchestrator.Api.Ap2Verification

namespace Orchestrator

open Effect Prog

section Passes

variable {tr : List (Event GateOp.Ans)} {α : Type} {a : α} {u : Unit} {trustedIssuers : List String}

theorem refuseIf_ok {bad : Prop} [Decidable bad] {message : String} :
    (refuseIf bad message).run.Trace tr (.ok u) ↔ ¬ bad ∧ tr = [] := by
  unfold refuseIf
  split
  · next hbad =>
      constructor
      · rintro ⟨-, ⟨⟩⟩
      · exact fun h => absurd hbad h.1
  · next hgood =>
      constructor
      · exact fun h => ⟨hgood, h.1⟩
      · exact fun h => ⟨h.2, rfl⟩

theorem refuseIf_then_ok {bad : Prop} [Decidable bad] {message : String} {f : Unit → Verify α} :
    (refuseIf bad message >>= f).run.Trace tr (.ok a) ↔ ¬ bad ∧ (f ()).run.Trace tr (.ok a) := by
  rw [trace_bind_except]
  constructor
  · rintro (⟨e, -, ⟨⟩⟩ | ⟨u, t₁, t₂, rfl, h₁, h₂⟩)
    obtain ⟨hgood, rfl⟩ := refuseIf_ok.mp h₁
    exact ⟨hgood, h₂⟩
  · rintro ⟨hgood, h⟩
    exact Or.inr ⟨(), [], tr, rfl, refuseIf_ok.mpr ⟨hgood, rfl⟩, h⟩

theorem nowUnixTimestamp_ok {now : Int} :
    nowUnixTimestamp.run.Trace tr (.ok now) ↔ tr = [⟨.unixNow, now⟩] ∧ 0 ≤ now := by
  constructor
  · rintro ⟨x, t, rfl, h⟩
    obtain ⟨hvalid, rfl, hnow⟩ := refuseIf_then_ok.mp h
    obtain rfl := Except.ok.inj hnow
    exact ⟨rfl, Int.not_lt.mp hvalid⟩
  · rintro ⟨rfl, hvalid⟩
    exact ⟨now, [], rfl, refuseIf_then_ok.mpr ⟨Int.not_lt.mpr hvalid, rfl, rfl⟩⟩

/-- What is asked of the parties of a mandate, with the clock at `now`. -/
structure PartyFieldsValid (issuer subject mandateId signature paymentHandlerId : String)
    (issuedAt expiresAt : Int) (trustedIssuers : List String) (now : Int) : Prop where
  issuer_named : isBlank issuer = false
  trusted : trustedIssuers ≠ [] → trustedIssuers.any (eqIgnoreAsciiCase · (trim issuer)) = true
  subject_named : isBlank subject = false
  identified : isBlank mandateId = false
  signed : isBlank signature = false
  handled : isBlank paymentHandlerId = false
  issued : 0 < issuedAt
  ordered : issuedAt < expiresAt
  clock : 0 ≤ now
  live : now < expiresAt

theorem validatePartyFields_ok {issuer subject mandateId signature paymentHandlerId : String}
    {issuedAt expiresAt : Int} :
    (validatePartyFields issuer subject mandateId signature paymentHandlerId issuedAt expiresAt
      trustedIssuers).run.Trace tr (.ok u) ↔ ∃ now, tr = [⟨.unixNow, now⟩] ∧
        PartyFieldsValid issuer subject mandateId signature paymentHandlerId issuedAt expiresAt
          trustedIssuers now := by
  unfold validatePartyFields
  rw [refuseIf_then_ok, refuseIf_then_ok, refuseIf_then_ok, refuseIf_then_ok, refuseIf_then_ok,
    refuseIf_then_ok, refuseIf_then_ok, refuseIf_then_ok, trace_bind_except]
  constructor
  · rintro ⟨hissuer, htrusted, hsubject, hmandate, hsignature, hhandler, hissued, hordered,
      ⟨e, -, ⟨⟩⟩ | ⟨now, t₁, t₂, rfl, hnow, hexpiry⟩⟩
    obtain ⟨rfl, hclock⟩ := nowUnixTimestamp_ok.mp hnow
    obtain ⟨hlive, rfl⟩ := refuseIf_ok.mp hexpiry
    exact ⟨now, rfl, Bool.eq_false_iff.mpr hissuer,
      fun hset => by_contra fun h => htrusted ⟨hset, h⟩,
      Bool.eq_false_iff.mpr hsubject, Bool.eq_false_iff.mpr hmandate,
      Bool.eq_false_iff.mpr hsignature, Bool.eq_false_iff.mpr hhandler, Int.not_le.mp hissued,
      Int.not_le.mp hordered, hclock, Int.not_le.mp hlive⟩
  · rintro ⟨now, rfl, h⟩
    refine ⟨Bool.eq_false_iff.mp h.issuer_named, fun hbad => hbad.2 (h.trusted hbad.1),
      Bool.eq_false_iff.mp h.subject_named, Bool.eq_false_iff.mp h.identified,
      Bool.eq_false_iff.mp h.signed, Bool.eq_false_iff.mp h.handled, Int.not_le.mpr h.issued,
      Int.not_le.mpr h.ordered, Or.inr ⟨now, [⟨.unixNow, now⟩], [], rfl,
        nowUnixTimestamp_ok.mpr ⟨rfl, h.clock⟩, refuseIf_ok.mpr ⟨Int.not_le.mpr h.live, rfl⟩⟩⟩

/-- What is asked of the open mandate in a proof. -/
structure OpenMandateValid (opened : OpenMandate) (closed : ConsentProof)
    (request : CheckoutRequest) (trustedIssuers : List String) (now : Int) : Prop where
  supported : isSupportedOpenVct opened.vct = true
  bound_to_agent : isBlank (opened.cnf.getD "") = false
  parties : PartyFieldsValid opened.issuer opened.subject opened.mandateId opened.signature
    closed.paymentHandlerId opened.issuedAt opened.expiresAt trustedIssuers now
  capped : request.paymentIntent.amountMinor ≤
    (opened.maxAmountMinor.or closed.maxAmountMinor).getD i64Max
  currency : ∀ currency, opened.currency.or closed.currency = some currency →
    eqIgnoreAsciiCase currency request.currency = true

/-- No value that is there is bad. -/
theorem not_any_iff {o : Option String} {p : String → Bool} :
    ¬ o.any (!p ·) = true ↔ ∀ s, o = some s → p s = true := by
  cases o with
  | none => simp
  | some s => simp

theorem validateOpenMandate_ok {opened : OpenMandate} {closed : ConsentProof}
    {request : CheckoutRequest} :
    (validateOpenMandate opened closed request trustedIssuers).run.Trace tr (.ok u) ↔
      ∃ now, tr = [⟨.unixNow, now⟩] ∧
        OpenMandateValid opened closed request trustedIssuers now := by
  unfold validateOpenMandate
  rw [refuseIf_then_ok, refuseIf_then_ok, trace_bind_except]
  constructor
  · rintro ⟨hvct, hcnf, ⟨e, -, ⟨⟩⟩ | ⟨u', t₁, t₂, rfl, hfields, hlimits⟩⟩
    obtain ⟨now, rfl, hparties⟩ := validatePartyFields_ok.mp hfields
    obtain ⟨hcap, hrest⟩ := refuseIf_then_ok.mp hlimits
    obtain ⟨hcurrency, rfl⟩ := refuseIf_ok.mp hrest
    exact ⟨now, rfl, not_not.mp hvct, Bool.eq_false_iff.mpr hcnf, hparties, Int.not_lt.mp hcap,
      not_any_iff.mp hcurrency⟩
  · rintro ⟨now, rfl, h⟩
    exact ⟨not_not.mpr h.supported, Bool.eq_false_iff.mp h.bound_to_agent,
      Or.inr ⟨(), [⟨.unixNow, now⟩], [], rfl, validatePartyFields_ok.mpr ⟨now, rfl, h.parties⟩,
        refuseIf_then_ok.mpr ⟨Int.not_lt.mpr h.capped,
          refuseIf_ok.mpr ⟨not_any_iff.mpr h.currency, rfl⟩⟩⟩⟩

/-- No ceiling that is there is too low. -/
theorem not_exceeds_iff {o : Option Int} {amount : Int} :
    ¬ o.any (amount > ·) = true ↔ ∀ max, o = some max → amount ≤ max := by
  cases o with
  | none => simp
  | some max => simp

namespace ConsentProof

variable {proof : ConsentProof} {request : CheckoutRequest}

theorem validateVct_ok : proof.validateVct.run.Trace tr (.ok u) ↔
    tr = [] ∧ ∀ vct, proof.vct = some vct → isSupportedClosedVct vct = true ∨
      (isSupportedOpenVct vct = true ∧ proof.openMandate ≠ none) := by
  unfold validateVct
  cases proof.vct with
  | none => exact ⟨fun h => ⟨h.1, fun vct hvct => nomatch hvct⟩, fun h => ⟨h.1, rfl⟩⟩
  | some vct =>
      show (refuseIf _ _ >>= fun _ => refuseIf _ _).run.Trace tr (.ok u) ↔ _
      rw [refuseIf_then_ok, refuseIf_ok, Option.isNone_iff_eq_none]
      constructor
      · rintro ⟨hsupported, halone, rfl⟩
        refine ⟨rfl, ?_⟩
        rintro vct' ⟨⟩
        by_cases hclosed : isSupportedClosedVct vct = true
        · exact Or.inl hclosed
        · have hopen : isSupportedOpenVct vct = true := by_contra fun h => hsupported ⟨hclosed, h⟩
          exact Or.inr ⟨hopen, fun hnone => halone ⟨hopen, hnone⟩⟩
      · rintro ⟨rfl, h⟩
        rcases h vct rfl with hclosed | ⟨hopen, hsome⟩
        · refine ⟨fun hbad => hbad.1 hclosed, fun hbad => ?_, rfl⟩
          have hboth : ∀ v, isSupportedClosedVct v = true → isSupportedOpenVct v = false := by
            intro v hv
            unfold isSupportedClosedVct at hv
            simp only [Bool.or_eq_true, decide_eq_true_eq] at hv
            rcases hv with (rfl | rfl) | rfl <;> rfl
          exact Bool.false_ne_true ((hboth vct hclosed).symm.trans hbad.1)
        · exact ⟨fun hbad => hbad.2 hopen, fun hbad => hsome hbad.2, rfl⟩

theorem validateLimit_ok : (proof.validateLimit request trustedIssuers).run.Trace tr (.ok u) ↔
    (∃ opened now, proof.openMandate = some opened ∧ tr = [⟨.unixNow, now⟩] ∧
      OpenMandateValid opened proof request trustedIssuers now) ∨
    (proof.openMandate = none ∧ tr = [] ∧
      ∀ max, proof.maxAmountMinor = some max → request.paymentIntent.amountMinor ≤ max) := by
  unfold validateLimit
  cases proof.openMandate with
  | some opened =>
      show (validateOpenMandate _ _ _ _).run.Trace tr (.ok u) ↔ _
      rw [validateOpenMandate_ok]
      constructor
      · rintro ⟨now, rfl, hvalid⟩
        exact Or.inl ⟨opened, now, rfl, rfl, hvalid⟩
      · rintro (⟨opened', now, ⟨⟩, rfl, hvalid⟩ | ⟨⟨⟩, -⟩)
        exact ⟨now, rfl, hvalid⟩
  | none =>
      show (refuseIf _ _).run.Trace tr (.ok u) ↔ _
      rw [refuseIf_ok]
      rw [not_exceeds_iff]
      constructor
      · exact fun ⟨hcap, hnil⟩ => Or.inr ⟨rfl, hnil, hcap⟩
      · rintro (⟨opened', now, ⟨⟩, -⟩ | ⟨-, hnil, hcap⟩)
        exact ⟨hcap, hnil⟩

/-- What is asked of a proof itself, with the clock at `now`. -/
structure Valid (proof : ConsentProof) (request : CheckoutRequest) (trustedIssuers : List String)
    (now : Int) : Prop where
  supported : ∀ vct, proof.vct = some vct → isSupportedClosedVct vct = true ∨
    (isSupportedOpenVct vct = true ∧ proof.openMandate ≠ none)
  parties : PartyFieldsValid proof.issuer proof.subject proof.mandateId proof.signature
    proof.paymentHandlerId proof.issuedAt proof.expiresAt trustedIssuers now
  handler : proof.paymentHandlerId = request.paymentIntent.paymentHandlerId.getD ""
  currency : ∀ currency, proof.currency = some currency →
    eqIgnoreAsciiCase currency request.currency = true

theorem validate_ok : (proof.validate request trustedIssuers).run.Trace tr (.ok u) ↔
    ∃ now rest, tr = ⟨.unixNow, now⟩ :: rest ∧ proof.Valid request trustedIssuers now ∧
      (proof.validateLimit request trustedIssuers).run.Trace rest (.ok ()) := by
  unfold validate
  rw [trace_bind_except]
  constructor
  · rintro (⟨e, -, ⟨⟩⟩ | ⟨u₁, t₁, t₂, rfl, hvct, h₂⟩)
    obtain ⟨rfl, hsupported⟩ := validateVct_ok.mp hvct
    rcases trace_bind_except.mp h₂ with ⟨e, -, ⟨⟩⟩ | ⟨u₂, t₃, t₄, rfl, hfields, h₄⟩
    obtain ⟨now, rfl, hparties⟩ := validatePartyFields_ok.mp hfields
    obtain ⟨hhandler, h₅⟩ := refuseIf_then_ok.mp h₄
    rcases trace_bind_except.mp h₅ with ⟨e, -, ⟨⟩⟩ | ⟨u₃, t₅, t₆, rfl, hlimit, h₆⟩
    obtain ⟨hcurrency, rfl⟩ := refuseIf_ok.mp h₆
    refine ⟨now, t₅, by simp, ⟨hsupported, hparties, not_not.mp hhandler,
      not_any_iff.mp hcurrency⟩, hlimit⟩
  · rintro ⟨now, rest, rfl, hvalid, hlimit⟩
    refine Or.inr ⟨(), [], _, rfl, validateVct_ok.mpr ⟨rfl, hvalid.supported⟩, ?_⟩
    refine trace_bind_except.mpr (Or.inr ⟨(), [⟨.unixNow, now⟩], rest, rfl,
      validatePartyFields_ok.mpr ⟨now, rfl, hvalid.parties⟩, ?_⟩)
    refine refuseIf_then_ok.mpr ⟨not_not.mpr hvalid.handler, ?_⟩
    exact trace_bind_except.mpr (Or.inr ⟨(), rest, [], by simp, hlimit,
      refuseIf_ok.mpr ⟨not_any_iff.mpr hvalid.currency, rfl⟩⟩)

end ConsentProof

end Passes

/-! ## What is bound -/

/-- What an accepted proof should hold the request to. -/
structure MandatesBind (proof : ConsentProof) (request : CheckoutRequest)
    (trustedIssuers : List String) (tr : List (Event GateOp.Ans)) : Prop where
  cap : ∀ max, proof.maxAmountMinor = some max → request.paymentIntent.amountMinor ≤ max
  openCap : ∀ opened max, proof.openMandate = some opened → opened.maxAmountMinor = some max →
    request.paymentIntent.amountMinor ≤ max
  currency : ∀ currency, proof.currency = some currency →
    eqIgnoreAsciiCase currency request.currency = true
  openCurrency : ∀ opened currency, proof.openMandate = some opened →
    opened.currency = some currency → eqIgnoreAsciiCase currency request.currency = true
  live : ∃ now, (⟨.unixNow, now⟩ : Event GateOp.Ans) ∈ tr ∧ now < proof.expiresAt
  openLive : ∀ opened, proof.openMandate = some opened →
    ∃ now, (⟨.unixNow, now⟩ : Event GateOp.Ans) ∈ tr ∧ now < opened.expiresAt
  trusted : trustedIssuers ≠ [] →
    trustedIssuers.any (eqIgnoreAsciiCase · (trim proof.issuer)) = true
  openTrusted : ∀ opened, proof.openMandate = some opened → trustedIssuers ≠ [] →
    trustedIssuers.any (eqIgnoreAsciiCase · (trim opened.issuer)) = true
  closed : ∀ vct, proof.vct = some vct → isSupportedOpenVct vct = false

/-- **An accepted proof binds** if and only if it is no open mandate itself, and states no ceiling
below the amount beside that of the open mandate in it. -/
theorem caps_bind_iff {proof : ConsentProof} {request : CheckoutRequest}
    {trustedIssuers : List String} {tr : List (Event GateOp.Ans)} {u : Unit}
    (h : (proof.validate request trustedIssuers).run.Trace tr (.ok u)) :
    MandatesBind proof request trustedIssuers tr ↔
      (∀ vct, proof.vct = some vct → isSupportedOpenVct vct = false) ∧
      ∀ opened openMax max, proof.openMandate = some opened →
        opened.maxAmountMinor = some openMax → proof.maxAmountMinor = some max →
          request.paymentIntent.amountMinor ≤ max := by
  constructor
  · exact fun hbinds => ⟨hbinds.closed, fun opened openMax max _ _ hmax => hbinds.cap max hmax⟩
  · rintro ⟨hclosed, hcap⟩
    obtain ⟨now, rest, rfl, hvalid, hlimit⟩ := ConsentProof.validate_ok.mp h
    have hlive : ∃ now', (⟨.unixNow, now'⟩ : Event GateOp.Ans) ∈ ⟨.unixNow, now⟩ :: rest ∧
        now' < proof.expiresAt := ⟨now, List.mem_cons_self, hvalid.parties.live⟩
    rcases ConsentProof.validateLimit_ok.mp hlimit with
      ⟨opened, now', hopened, rfl, hopen⟩ | ⟨hnone, rfl, hown⟩
    · -- the ceiling that was looked at is the open mandate's, or else the proof's
      have hopenCap : ∀ max, opened.maxAmountMinor = some max →
          request.paymentIntent.amountMinor ≤ max := by
        intro max hmax
        have hcapped := hopen.capped
        rwa [hmax] at hcapped
      refine ⟨fun max hmax => ?_, fun opened' max hopened' hmax => ?_, hvalid.currency,
        fun opened' currency hopened' hcurrency => ?_, hlive, fun opened' hopened' => ?_,
        hvalid.parties.trusted, fun opened' hopened' => ?_, hclosed⟩
      · cases hopenMax : opened.maxAmountMinor with
        | none =>
            have hcapped := hopen.capped
            rwa [hopenMax, hmax] at hcapped
        | some openMax => exact hcap opened openMax max hopened hopenMax hmax
      · obtain rfl := Option.some.inj (hopened.symm.trans hopened')
        exact hopenCap max hmax
      · obtain rfl := Option.some.inj (hopened.symm.trans hopened')
        exact hopen.currency currency (by rw [hcurrency]; rfl)
      · obtain rfl := Option.some.inj (hopened.symm.trans hopened')
        exact ⟨now', List.mem_cons_of_mem _ (List.mem_singleton_self _), hopen.parties.live⟩
      · obtain rfl := Option.some.inj (hopened.symm.trans hopened')
        exact hopen.parties.trusted
    · have hopened : ∀ opened, proof.openMandate ≠ some opened := by
        intro opened h
        cases hnone.symm.trans h
      exact ⟨hown, fun opened max h => absurd h (hopened opened), hvalid.currency,
        fun opened currency h => absurd h (hopened opened), hlive,
        fun opened h => absurd h (hopened opened), hvalid.parties.trusted,
        fun opened h => absurd h (hopened opened), hclosed⟩

namespace Sample

/-- An open mandate up to 100.00. -/
def agentMandate : OpenMandate where
  vct := "mandate.checkout.open.1"
  issuer := "bank"
  subject := "buyer"
  mandateId := "mandate_open_1"
  issuedAt := 1760000000
  expiresAt := 1760086400
  signature := "sig"
  cnf := some "agent-key"
  maxAmountMinor := some 10000
  currency := some "usd"

/-- A mandate under it, with a ceiling of its own. -/
def cappedProof (vct : Option String) (max : Int) : ConsentProof where
  vct
  issuer := "Bank"
  subject := "buyer"
  mandateId := "mandate_1"
  paymentHandlerId := "card"
  issuedAt := 1760000000
  expiresAt := 1760003600
  signature := "sig"
  openMandate := some agentMandate
  maxAmountMinor := some max
  currency := some "USD"

def purchase : CheckoutRequest where
  tenantId := "t1"
  merchantId := "m1"
  cartId := ⟨⟨0⟩⟩
  cartVersion := 1
  currency := "USD"
  customer := none
  location := none
  paymentIntent :=
    { amountMinor := 1000, tokenOrReference := "tok", paymentHandlerId := some "card" }
  idempotencyKey := "k1"

def noon : List (Event GateOp.Ans) := [⟨.unixNow, 1760000010⟩, ⟨.unixNow, 1760000010⟩]

theorem accepts {vct : Option String} {max : Int}
    (hvct : ∀ v, vct = some v → isSupportedClosedVct v = true ∨ isSupportedOpenVct v = true) :
    ((cappedProof vct max).validate purchase ["bank"]).run.Trace noon (.ok ()) := by
  have hparties : PartyFieldsValid "Bank" "buyer" "mandate_1" "sig" "card" 1760000000 1760003600
      ["bank"] 1760000010 :=
    ⟨rfl, fun _ => by decide, rfl, rfl, rfl, rfl, by decide, by decide, by decide, by decide⟩
  have hagent : PartyFieldsValid "bank" "buyer" "mandate_open_1" "sig" "card" 1760000000 1760086400
      ["bank"] 1760000010 :=
    ⟨rfl, fun _ => by decide, rfl, rfl, rfl, rfl, by decide, by decide, by decide, by decide⟩
  have hamount : (1000 : Int) ≤ 10000 := by decide
  refine ConsentProof.validate_ok.mpr ⟨1760000010, [⟨.unixNow, 1760000010⟩], rfl, ?_, ?_⟩
  · refine ⟨fun v hv => (hvct v hv).imp_right fun h => ⟨h, nofun⟩, hparties, rfl, ?_⟩
    rintro c ⟨⟩
    decide
  · refine ConsentProof.validateLimit_ok.mpr (Or.inl ⟨agentMandate, 1760000010, rfl, rfl, ?_⟩)
    refine ⟨by decide, rfl, hagent, hamount, ?_⟩
    rintro c ⟨⟩
    decide

end Sample

open Sample in
theorem caps_bind_sample :
    MandatesBind (cappedProof (some "mandate.payment.1") 2000) purchase ["bank"] noon := by
  refine (caps_bind_iff (accepts ?_)).mpr ⟨?_, ?_⟩
  · rintro v ⟨⟩
    exact Or.inl (by decide)
  · rintro v ⟨⟩
    decide
  · rintro opened openMax max ⟨⟩ - ⟨⟩
    decide

open Sample in
/-- The lower ceiling is not looked at beside the open mandate's, and a proof that is an open
mandate itself passes with another one in it. -/
theorem cap_ignored :
    (((cappedProof (some "mandate.payment.1") 500).validate purchase ["bank"]).run.Trace noon
        (.ok ()) ∧
      ¬ MandatesBind (cappedProof (some "mandate.payment.1") 500) purchase ["bank"] noon) ∧
    ((cappedProof (some "mandate.checkout.open.1") 2000).validate purchase ["bank"]).run.Trace noon
        (.ok ()) ∧
      ¬ MandatesBind (cappedProof (some "mandate.checkout.open.1") 2000) purchase ["bank"] noon := by
  refine ⟨⟨accepts ?_, fun h => ?_⟩, accepts ?_, fun h => ?_⟩
  · rintro v ⟨⟩
    exact Or.inl (by decide)
  · exact absurd (h.cap 500 rfl) (by decide)
  · rintro v ⟨⟩
    exact Or.inr (by decide)
  · exact absurd (h.closed _ rfl) (by decide)

end Orchestrator
