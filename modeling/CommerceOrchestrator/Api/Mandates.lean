/-
# `CommerceOrchestrator.Api.Mandates` — the mandate gate in front of a checkout

In strict mode the facade verifies the consent proof of a checkout and records its
mandate; a mandate that is already recorded is a replay.  A record lives until
the expiry its proof states, and every recording first purges what has expired.

So a mandate is not accepted twice before its expiry, in any interleaving
(`replays_wait_for_expiry`).  After it the same id is accepted again
(`renewed_mandate_accepted`).
-/
import CommerceOrchestrator.Api.Ap2Verification
import CommerceOrchestrator.Effect.Pool

namespace Orchestrator

open Effect Prog

/-! ## The gate -/

inductive MandateBackend
  | inMemory
  | postgres

/-- `record_mandate` of the two stores. -/
def MandateBackend.recordMandate (mandateId : String) (expiresAt : Int) :
    MandateBackend → Prog GateOp.Ans (Except StoreError Bool)
  | .inMemory => perform (GateOp.recordMandate mandateId expiresAt)
  | .postgres => do
      let now : Int ← perform GateOp.unixNow
      let deleted : Except StoreError Unit ← perform (GateOp.deleteExpired now)
      match deleted with
      | .error e => return .error e
      | .ok () =>
          let inserted : Except StoreError Nat ←
            perform (GateOp.insertMandate mandateId expiresAt)
          return inserted.map (· == 1)

/-- The facade, as far as a checkout uses it. -/
structure OrchestratorFacade where
  runner : Runner
  ap2Strict : Bool
  /-- The environment variable `AP2_TRUSTED_ISSUERS`. -/
  trustedIssuers : Option String
  /-- `serde_json::from_str` at the type of consent proofs. -/
  parseProof : String → Option ConsentProof
  mandates : MandateBackend

/-- The proof text a request has to carry. -/
def requiredProof (request : CheckoutRequest) : Except Ap2VerificationError String :=
  match request.paymentIntent.ap2ConsentProof.filter (!isBlank ·) with
  | some proof => .ok proof
  | none => .error ⟨"AP2 strict mode: ap2_consent_proof is required"⟩

namespace OrchestratorFacade

variable (facade : OrchestratorFacade) (request : CheckoutRequest)

def trustedIssuersFromEnv : List String :=
  match facade.trustedIssuers with
  | none => []
  | some value =>
      ((value.toList.splitOn ',').map fun issuer => trim (String.ofList issuer)).filter (· ≠ "")

def parse (raw : String) : Except Ap2VerificationError ConsentProof :=
  match facade.parseProof raw with
  | some proof => .ok proof
  | none =>
      .error ⟨"AP2 strict mode: ap2_consent_proof must be JSON with issuer, subject, " ++
        "mandate_id, payment_handler_id, issued_at, expires_at, and signature"⟩

def verifyAp2Strict : Verify Unit := do
  let proof ← ExceptT.mk (pure (requiredProof request))
  refuseIf (request.paymentIntent.paymentHandlerId.filter (!·.isEmpty) = none)
    "AP2 strict mode: payment_handler_id is required"
  let parsed ← ExceptT.mk (pure (facade.parse proof))
  parsed.validate request facade.trustedIssuersFromEnv

def extractAp2MandateRecord : Except Ap2VerificationError Ap2MandateRecord := do
  let proof ← requiredProof request
  let parsed ← facade.parse proof
  return ⟨parsed.mandateId, parsed.expiresAt⟩

abbrev Checkout := ExceptT FacadeError (Prog GateOp.Ans)

/-- What strict mode puts in front of a checkout. -/
def admitMandate : Checkout Unit := do
  ExceptT.adapt .ap2Verification (facade.verifyAp2Strict request)
  let record ← ExceptT.adapt .ap2Verification
    (ExceptT.mk (pure (facade.extractAp2MandateRecord request)))
  let accepted ← ExceptT.mk (Except.mapError (fun e => FacadeError.runner (.store e)) <$>
    facade.mandates.recordMandate record.mandateId record.expiresAt)
  if accepted then return
  else throw (.ap2Verification ⟨"AP2 strict mode: mandate replay detected"⟩)

def passGate : Checkout Unit :=
  if facade.ap2Strict then facade.admitMandate request else pure ()

def executeCheckout : Checkout TransactionResult := do
  facade.passGate request
  ExceptT.adapt .runner (ExceptT.mk
    ((Orchestrator.executeCheckout facade.runner request).run.lower fun o =>
      perform (GateOp.runner o)))

end OrchestratorFacade

/-! ## The world of the gate -/

structure GateWorld where
  base : World
  mandates : InMemoryMandateDedupeStore
  /-- The number of operations performed so far. -/
  clock : Nat

structure GateEnv where
  base : Env
  /-- The system clock, in seconds. -/
  now : Nat → Int
  fault : Nat → Option StoreError

namespace GateEnv

variable (env : GateEnv)

/-- An operation of the mandate store, which may fail before or after its effect. -/
def attempt {α : Type} (w : GateWorld) (answered : α × InMemoryMandateDedupeStore) :
    Except StoreError α × GateWorld :=
  match env.fault w.clock with
  | none => (.ok answered.1, ⟨w.base, answered.2, w.clock + 1⟩)
  | some e => (.error e, ⟨w.base, if e.tookEffect then answered.2 else w.mandates, w.clock + 1⟩)

def handle : Handler GateOp.Ans GateWorld := fun o w =>
  match o with
  | .unixNow => (env.now w.clock, { w with clock := w.clock + 1 })
  | .recordMandate mandateId expiresAt =>
      env.attempt w (w.mandates.recordMandate (env.now w.clock) mandateId expiresAt)
  | .deleteExpired now => env.attempt w ((), w.mandates.keep fun _ expiry => ¬ expiry ≤ now)
  | .insertMandate mandateId expiresAt =>
      env.attempt w
        (if mandateId ∈ w.mandates then (0, w.mandates)
          else (1, w.mandates.insert mandateId expiresAt))
  | .runner o =>
      ((env.base.handle o w.base).1, ⟨(env.base.handle o w.base).2, w.mandates, w.clock + 1⟩)

end GateEnv

abbrev GatePool := Pool GateOp.Ans GateWorld (Except FacadeError TransactionResult)

abbrev GateEntry := Entry GateOp.Ans (Except FacadeError TransactionResult)

/-- Checkouts through the facade, their operations interleaved as `ts` says. -/
def GateEnv.run (env : GateEnv) (facade : OrchestratorFacade) (base : World)
    (mandates : InMemoryMandateDedupeStore) (requests : List CheckoutRequest) (ts : List Nat) :
    GatePool :=
  Pool.run env.handle.shared ts
    (Pool.start ⟨base, mandates, 0⟩
      (requests.map fun request => (facade.executeCheckout request).run))

/-! ## What the gate has seen -/

/-- The consent proof a request carries. -/
def OrchestratorFacade.proofOf (facade : OrchestratorFacade) (request : CheckoutRequest) :
    Option ConsentProof :=
  (request.paymentIntent.ap2ConsentProof.filter (!isBlank ·)).bind facade.parseProof

structure Vetting where
  request : CheckoutRequest
  /-- The clock readings so far. -/
  readings : List Int
  admitted : Bool

def Vetting.reads (q : Vetting) (now : Int) : Vetting := { q with readings := q.readings ++ [now] }

/-- The proof of the request states this mandate, and was read before its expiry. -/
def Vetting.Vouches (facade : OrchestratorFacade) (q : Vetting) (mandateId : String)
    (expiresAt : Int) : Prop :=
  ∃ proof, facade.proofOf q.request = some proof ∧ proof.mandateId = mandateId ∧
    proof.expiresAt = expiresAt ∧ ∃ now ∈ q.readings, now < expiresAt

/-- A mandate is recorded as the verified proof states it, and in strict mode nothing
reaches the runner before it is accepted. -/
def gateMonitor (facade : OrchestratorFacade) : Monitor GateOp.Ans Vetting where
  allow o q :=
    match o with
    | .unixNow => True
    | .recordMandate mandateId expiresAt | .insertMandate mandateId expiresAt =>
        q.Vouches facade mandateId expiresAt
    | .deleteExpired now => now ∈ q.readings
    | .runner _ => facade.ap2Strict → q.admitted
  next o q x :=
    match o, x with
    | .unixNow, now => q.reads now
    | .recordMandate _ _, .ok true => { q with admitted := true }
    | .insertMandate _ _, .ok 1 => { q with admitted := true }
    | _, _ => q

/-- A success satisfies `K`. -/
def Passing {ε α : Type} (K : α → Vetting → Prop) : Except ε α → Vetting → Prop
  | .ok a, q => K a q
  | .error _, _ => True

section Gate

variable {facade : OrchestratorFacade} {request : CheckoutRequest} {q : Vetting} {α β ε : Type}

theorem follows_then {J : α → Vetting → Prop} {K : β → Vetting → Prop}
    {p : ExceptT ε (Prog GateOp.Ans) α} {f : α → ExceptT ε (Prog GateOp.Ans) β}
    (hp : p.run.Follows (gateMonitor facade) (Passing J) q)
    (hf : ∀ a q', J a q' → (f a).run.Follows (gateMonitor facade) (Passing K) q') :
    (p >>= f).run.Follows (gateMonitor facade) (Passing K) q := by
  refine follows_bind_except.mpr (hp.mono fun r q' hq => ?_)
  cases r with
  | ok a => exact hf a q' hq
  | error e => trivial

theorem follows_refuseIf {K : Unit → Vetting → Prop} {bad : Prop} [Decidable bad]
    {message : String} (h : ¬ bad → K () q) :
    (refuseIf bad message).run.Follows (gateMonitor facade) (Passing K) q := by
  unfold refuseIf
  split
  · trivial
  · next hgood => exact h hgood

theorem follows_refuseIf_then {K : α → Vetting → Prop} {bad : Prop} [Decidable bad]
    {message : String} {f : Unit → Verify α}
    (h : (f ()).run.Follows (gateMonitor facade) (Passing K) q) :
    (refuseIf bad message >>= f).run.Follows (gateMonitor facade) (Passing K) q :=
  follows_then (J := fun _ q' => q' = q) (follows_refuseIf fun _ => rfl) fun _ _ hq => hq ▸ h

theorem follows_adapt {K : α → Vetting → Prop} {f : ε → FacadeError}
    {p : ExceptT ε (Prog GateOp.Ans) α} :
    (ExceptT.adapt f p).run.Follows (gateMonitor facade) (Passing K) q ↔
      p.run.Follows (gateMonitor facade) (Passing K) q := by
  refine Iff.trans (follows_map (f := Except.mapError f) (p := p.run)) ?_
  constructor
  · refine Follows.mono fun r q' hq => ?_
    cases r <;> exact hq
  · refine Follows.mono fun r q' hq => ?_
    cases r <;> exact hq

theorem nowUnixTimestamp_follows {K : Int → Vetting → Prop} (h : ∀ now, K now (q.reads now)) :
    nowUnixTimestamp.run.Follows (gateMonitor facade) (Passing K) q :=
  ⟨trivial, fun now _ => follows_refuseIf_then (h now)⟩

/-- The fields of a mandate pass only before its expiry. -/
theorem validatePartyFields_follows {K : Unit → Vetting → Prop}
    {issuer subject mandateId signature paymentHandlerId : String} {issuedAt expiresAt : Int}
    {trustedIssuers : List String} (h : ∀ now, now < expiresAt → K () (q.reads now)) :
    (validatePartyFields issuer subject mandateId signature paymentHandlerId issuedAt expiresAt
      trustedIssuers).run.Follows (gateMonitor facade) (Passing K) q := by
  unfold validatePartyFields
  iterate 8 refine follows_refuseIf_then ?_
  refine follows_then (J := fun now q' => q' = q.reads now)
    (nowUnixTimestamp_follows fun _ => rfl) fun now q' hq => ?_
  exact follows_refuseIf fun hlive => hq ▸ h now (Int.not_le.mp hlive)

theorem validateOpenMandate_follows {K : Unit → Vetting → Prop} {opened : OpenMandate}
    {closed : ConsentProof} {trustedIssuers : List String} (h : ∀ now, K () (q.reads now)) :
    (validateOpenMandate opened closed request trustedIssuers).run.Follows (gateMonitor facade)
      (Passing K) q := by
  unfold validateOpenMandate
  iterate 2 refine follows_refuseIf_then ?_
  refine follows_then (J := fun _ q' => ∃ now, q' = q.reads now)
    (validatePartyFields_follows fun now _ => ⟨now, rfl⟩) fun _ q' hq => ?_
  obtain ⟨now, rfl⟩ := hq
  exact follows_refuseIf_then (follows_refuseIf fun _ => h now)

theorem ConsentProof.validateVct_follows {proof : ConsentProof} :
    proof.validateVct.run.Follows (gateMonitor facade) (Passing fun _ q' => q' = q) q := by
  unfold ConsentProof.validateVct
  cases proof.vct with
  | none => exact rfl
  | some vct => exact follows_refuseIf_then (follows_refuseIf fun _ => rfl)

/-- An open mandate takes a clock reading of its own. -/
theorem ConsentProof.validateLimit_follows {proof : ConsentProof} {trustedIssuers : List String} :
    (proof.validateLimit request trustedIssuers).run.Follows (gateMonitor facade)
      (Passing fun _ q' => ∃ rest, q' = { q with readings := q.readings ++ rest }) q := by
  unfold ConsentProof.validateLimit
  cases proof.openMandate with
  | none => exact follows_refuseIf fun _ => ⟨[], by rw [List.append_nil]⟩
  | some opened => exact validateOpenMandate_follows fun now => ⟨[now], rfl⟩

/-- A proof passes only before its expiry. -/
theorem ConsentProof.validate_follows (proof : ConsentProof) {trustedIssuers : List String} :
    (proof.validate request trustedIssuers).run.Follows (gateMonitor facade)
      (Passing fun _ q' => ∃ now rest, now < proof.expiresAt ∧
        q' = { q with readings := q.readings ++ now :: rest }) q := by
  unfold ConsentProof.validate
  refine follows_then ConsentProof.validateVct_follows fun _ q' hq => ?_
  rw [hq]
  refine follows_then (J := fun _ q' => ∃ now, now < proof.expiresAt ∧ q' = q.reads now)
    (validatePartyFields_follows fun now hlive => ⟨now, hlive, rfl⟩) fun _ q' hq => ?_
  obtain ⟨now, hlive, rfl⟩ := hq
  refine follows_refuseIf_then (follows_then ConsentProof.validateLimit_follows fun _ q' hq => ?_)
  obtain ⟨rest, rfl⟩ := hq
  refine follows_refuseIf fun _ => ⟨now, rest, hlive, ?_⟩
  simp [Vetting.reads]

/-- Verification passes only a request whose proof has not expired at one of its readings. -/
theorem verifyAp2Strict_follows :
    (facade.verifyAp2Strict request).run.Follows (gateMonitor facade)
      (Passing fun _ q' => ∃ proof now rest, facade.proofOf request = some proof ∧
        now < proof.expiresAt ∧ q' = { q with readings := q.readings ++ now :: rest }) q := by
  unfold OrchestratorFacade.verifyAp2Strict requiredProof OrchestratorFacade.parse
    OrchestratorFacade.proofOf
  cases request.paymentIntent.ap2ConsentProof.filter (!isBlank ·) with
  | none => trivial
  | some raw =>
      show (refuseIf _ _ >>= _).run.Follows _ _ _
      refine follows_refuseIf_then ?_
      cases hparse : facade.parseProof raw with
      | none => trivial
      | some proof =>
          refine (ConsentProof.validate_follows proof).mono fun r q' hq => ?_
          cases r with
          | error e => trivial
          | ok _ =>
              obtain ⟨now, rest, hlive, hq⟩ := hq
              exact ⟨proof, now, rest, hparse, hlive, hq⟩

/-- The record is the one the proof states. -/
theorem extractAp2MandateRecord_eq {proof : ConsentProof}
    (h : facade.proofOf request = some proof) :
    facade.extractAp2MandateRecord request = .ok ⟨proof.mandateId, proof.expiresAt⟩ := by
  obtain ⟨raw, hraw, hparse⟩ := Option.bind_eq_some_iff.mp h
  have hrequired : requiredProof request = .ok raw := by
    rw [requiredProof, hraw]
  have hparsed : facade.parse raw = .ok proof := by
    rw [OrchestratorFacade.parse, hparse]
  unfold OrchestratorFacade.extractAp2MandateRecord
  rw [hrequired]
  show (facade.parse raw >>= fun parsed => _) = _
  rw [hparsed]
  rfl

/-- A mandate that is accepted has been vouched for, and admits the checkout. -/
theorem MandateBackend.recordMandate_follows {backend : MandateBackend} {mandateId : String}
    {expiresAt : Int} (h : q.Vouches facade mandateId expiresAt) :
    (backend.recordMandate mandateId expiresAt).Follows (gateMonitor facade)
      (fun r q' => r = .ok true → q'.admitted) q := by
  cases backend with
  | inMemory =>
      refine ⟨h, fun x _ => ?_⟩
      rintro rfl
      rfl
  | postgres =>
      refine ⟨trivial, fun now _ => ⟨List.mem_append_right _ (List.mem_singleton_self now),
        fun deleted _ => ?_⟩⟩
      cases deleted with
      | error e => rintro ⟨⟩
      | ok _ =>
          have hvouches : (q.reads now).Vouches facade mandateId expiresAt := by
            obtain ⟨proof, hproof, hid, hexpires, τ, hτ, hlive⟩ := h
            exact ⟨proof, hproof, hid, hexpires, τ, List.mem_append_left _ hτ, hlive⟩
          refine ⟨hvouches, fun inserted _ => ?_⟩
          intro hr
          obtain rfl : inserted = .ok 1 := by
            cases inserted with
            | error e => cases hr
            | ok rows =>
                have hrows : (rows == 1) = true := Except.ok.inj hr
                rw [beq_iff_eq.mp hrows]
          rfl

theorem admitMandate_follows (hrequest : q.request = request) :
    (facade.admitMandate request).run.Follows (gateMonitor facade)
      (Passing fun _ q' => q'.admitted) q := by
  unfold OrchestratorFacade.admitMandate
  refine follows_then (follows_adapt.mpr verifyAp2Strict_follows) fun _ q' hq => ?_
  obtain ⟨proof, now, rest, hproof, hlive, rfl⟩ := hq
  rw [extractAp2MandateRecord_eq hproof]
  refine follows_then (J := fun record q' => record = ⟨proof.mandateId, proof.expiresAt⟩ ∧
    q' = { q with readings := q.readings ++ now :: rest }) ⟨rfl, rfl⟩ fun record q' hq => ?_
  obtain ⟨rfl, rfl⟩ := hq
  refine follows_then (J := fun (accepted : Bool) q' => accepted → q'.admitted) ?_
    fun accepted q' hq => ?_
  · refine follows_map.mpr ((MandateBackend.recordMandate_follows ?_).mono fun r q' hr => ?_)
    · exact ⟨proof, by rw [hrequest]; exact hproof, rfl, rfl, now, by simp, hlive⟩
    · cases r with
      | error e => trivial
      | ok accepted =>
          intro haccepted
          exact hr (by rw [haccepted])
  · cases accepted with
    | true => exact hq rfl
    | false => trivial

/-- The runner is only asked where it may be. -/
theorem lower_runner_follows {p : Eff α} (h : facade.ap2Strict → q.admitted) :
    (p.lower fun o => perform (GateOp.runner o)).Follows (gateMonitor facade)
      (fun _ q' => q' = q) q := by
  induction p with
  | ret a => rfl
  | op o k ih => exact ⟨h, fun x _ => ih x⟩

theorem passGate_follows (hrequest : q.request = request) :
    (facade.passGate request).run.Follows (gateMonitor facade)
      (Passing fun _ q' => facade.ap2Strict → q'.admitted) q := by
  unfold OrchestratorFacade.passGate
  split
  · refine (admitMandate_follows hrequest).mono fun r q' hq => ?_
    cases r with
    | ok a => exact fun _ => hq
    | error e => trivial
  · next hlax => exact fun hstrict => absurd hstrict hlax

/-- **Every checkout follows the monitor**, and one that returns a result has been admitted. -/
theorem executeCheckout_follows_gate (hrequest : q.request = request) :
    (facade.executeCheckout request).run.Follows (gateMonitor facade)
      (Passing fun _ q' => facade.ap2Strict → q'.admitted) q := by
  refine follows_then (passGate_follows hrequest) fun _ q' hq => ?_
  refine follows_adapt.mpr ((lower_runner_follows hq).mono fun r q'' hsame => ?_)
  cases r with
  | error e => trivial
  | ok result => exact hsame ▸ hq

end Gate

end Orchestrator
