/-
# `CommerceOrchestrator.Runtime.Webhooks` — who an outbox message is posted to

`WebhookDeliverer::deliver` looks the registrations of the message's tenant up and posts the
message to each, whatever becomes of the others.  It trims the tenant before it looks it
up, and a registration keeps its tenant as it was written.  `fansOut_iff` says for which
messages and registrations that makes no difference.
-/
import CommerceOrchestrator.Api.Ap2Verification
import CommerceOrchestrator.Text.Json

namespace Orchestrator

open Effect Prog Text

/-! ## Deliveries -/

/-- `display` is the code with its reason. -/
structure HttpStatus where
  code : Nat
  display : String
deriving DecidableEq

def HttpStatus.isSuccess (status : HttpStatus) : Bool := 200 ≤ status.code && status.code < 300

structure WebhookRequest where
  url : String
  headers : List (String × String)
  body : Json

inductive WebhookOp
  | listActiveForTopic (tenantId topic : String)
  | post (registration : WebhookRegistration) (request : WebhookRequest)

/-- A request that gets no response fails with the text of its error. -/
abbrev WebhookOp.Ans : WebhookOp → Type
  | .listActiveForTopic .. => Except StoreError (List WebhookRegistration)
  | .post .. => Except String HttpStatus

namespace WebhookDeliverer

/-- The tenant a message is delivered for. -/
def scope (message : OutboxMessage) : Option String :=
  (message.tenantId.map trim).filter (· ≠ "")

def body (message : OutboxMessage) : Json :=
  .object [("id", .string message.id), ("topic", .string message.topic),
    ("payload", .string message.payload), ("correlation_id", .string message.correlationId)]

/-- `computeSignature` is the HMAC, in hex, of the bytes of the body. -/
def request (computeSignature : String → Json → String) (message : OutboxMessage)
    (reg : WebhookRegistration) : WebhookRequest where
  url := reg.url
  headers := [("Content-Type", "application/json"), ("X-Webhook-Id", message.id),
    ("X-Webhook-Topic", message.topic),
    ("X-Webhook-Signature", computeSignature reg.secret (body message))]
  body := body message

/-- What there is to complain about. -/
def complaint (reg : WebhookRegistration) : Except String HttpStatus → Option String
  | .ok status =>
      if status.isSuccess then none
      else some ("webhook " ++ reg.url ++ " returned " ++ status.display)
  | .error e => some ("webhook " ++ reg.url ++ " failed: " ++ e)

/-- Post to each, and keep the last error. -/
def postAll (computeSignature : String → Json → String) (message : OutboxMessage) :
    List WebhookRegistration → Option String → Prog WebhookOp.Ans (Option String)
  | [], lastError => .ret lastError
  | reg :: rest, lastError => do
      let result : Except String HttpStatus ←
        perform (WebhookOp.post reg (request computeSignature message reg))
      postAll computeSignature message rest ((complaint reg result).or lastError)

/-- A message of no tenant is dropped. -/
def deliver (computeSignature : String → Json → String) (message : OutboxMessage) :
    Prog WebhookOp.Ans (Except String Unit) :=
  match scope message with
  | none => .ret (.ok ())
  | some tenantId => do
      let listed : Except StoreError (List WebhookRegistration) ←
        perform (WebhookOp.listActiveForTopic tenantId message.topic)
      match listed with
      | .error e => return .error ("store persistence failed: " ++ e.message)
      | .ok registrations =>
          let lastError ← postAll computeSignature message registrations none
          return lastError.elim (.ok ()) .error

end WebhookDeliverer

/-! ## The world -/

structure WebhookWorld where
  store : InMemoryWebhookStore
  /-- The number of requests so far. -/
  clock : Nat

/-- What becomes of each request. -/
abbrev Respond := Nat → WebhookRegistration → WebhookRequest → Except String HttpStatus

def Respond.handle (respond : Respond) : Handler WebhookOp.Ans WebhookWorld
  | .listActiveForTopic tenantId topic, w => (.ok (w.store.listActiveForTopic tenantId topic), w)
  | .post reg request, w => (respond w.clock reg request, { w with clock := w.clock + 1 })

/-! ## What a delivery shows -/

/-- The registrations that were contacted, in order. -/
def contacted (log : List (Event WebhookOp.Ans)) : List WebhookRegistration :=
  log.filterMap fun e =>
    match e with
    | ⟨.post reg _, _⟩ => some reg
    | _ => none

/-- Those that were contacted answered with a success. -/
def AllAnswered (log : List (Event WebhookOp.Ans)) : Prop :=
  ∀ reg request result, ⟨.post reg request, result⟩ ∈ log →
    ∃ status : HttpStatus, result = .ok status ∧ status.isSuccess = true

def WebhookRegistration.subscribes (reg : WebhookRegistration) (topic : String) : Bool :=
  reg.active && reg.eventFilter.all fun topics => topics.contains topic

def InMemoryWebhookStore.values (store : InMemoryWebhookStore) : List WebhookRegistration :=
  store.entries.map (·.2)

/-- **The message reaches its subscribers**: each active registration of its tenant and topic
is contacted once and no other, and the delivery succeeds if all of them answer so. -/
structure FansOut (computeSignature : String → Json → String) (respond : Respond)
    (message : OutboxMessage) (w : WebhookWorld) : Prop where
  exact : (contacted ((WebhookDeliverer.deliver computeSignature message).events
      respond.handle w)).Perm
    (w.store.values.filter fun reg =>
      reg.subscribes message.topic && message.tenantId = some reg.tenantId)
  verdict : ((WebhookDeliverer.deliver computeSignature message).run respond.handle w).1 = .ok () ↔
    AllAnswered ((WebhookDeliverer.deliver computeSignature message).events respond.handle w)
  unscoped : message.tenantId = none →
    contacted ((WebhookDeliverer.deliver computeSignature message).events respond.handle w) = []

section Posting

variable {computeSignature : String → Json → String} {respond : Respond} {message : OutboxMessage}
  {w : WebhookWorld}

/-- Every registration is posted to, whatever the others answer. -/
theorem contacted_postAll (regs : List WebhookRegistration) (lastError : Option String) :
    contacted ((WebhookDeliverer.postAll computeSignature message regs lastError).events
      respond.handle w) = regs := by
  induction regs generalizing lastError w with
  | nil => rfl
  | cons reg rest ih => exact congrArg (reg :: ·) (ih _)

theorem complaint_eq_none {reg : WebhookRegistration} {result : Except String HttpStatus} :
    WebhookDeliverer.complaint reg result = none ↔
      ∃ status : HttpStatus, result = .ok status ∧ status.isSuccess = true := by
  cases result with
  | error e => simp [WebhookDeliverer.complaint]
  | ok status => simp [WebhookDeliverer.complaint]

theorem allAnswered_cons {reg : WebhookRegistration} {request : WebhookRequest}
    {result : Except String HttpStatus} {log : List (Event WebhookOp.Ans)} :
    AllAnswered (⟨.post reg request, result⟩ :: log) ↔
      WebhookDeliverer.complaint reg result = none ∧ AllAnswered log := by
  rw [complaint_eq_none]
  constructor
  · intro h
    exact ⟨h reg request result List.mem_cons_self,
      fun reg' request' result' he => h reg' request' result' (List.mem_cons_of_mem _ he)⟩
  · rintro ⟨hresult, hlog⟩ reg' request' result' he
    rcases List.mem_cons.mp he with heq | he
    · cases heq
      exact hresult
    · exact hlog reg' request' result' he

/-- The last error is none if there was none before and all answer with a success. -/
theorem postAll_eq_none (regs : List WebhookRegistration) (lastError : Option String) :
    ((WebhookDeliverer.postAll computeSignature message regs lastError).run
        respond.handle w).1 = none ↔
      lastError = none ∧ AllAnswered
        ((WebhookDeliverer.postAll computeSignature message regs lastError).events
          respond.handle w) := by
  induction regs generalizing lastError w with
  | nil => exact ⟨fun h => ⟨h, fun _ _ _ he => absurd he List.not_mem_nil⟩, fun h => h.1⟩
  | cons reg rest ih =>
      refine (ih _).trans ?_
      refine Iff.trans ?_ (and_congr_right fun _ => allAnswered_cons.symm)
      rw [Option.or_eq_none_iff]
      tauto

/-- A message without a scope is dropped. -/
theorem deliver_unscoped (hscope : WebhookDeliverer.scope message = none) :
    WebhookDeliverer.deliver computeSignature message = .ret (.ok ()) := by
  unfold WebhookDeliverer.deliver
  rw [hscope]

section Scoped

variable {tenantId : String} (hscope : WebhookDeliverer.scope message = some tenantId)

include hscope

/-- A message of a scope is posted to those the lookup finds. -/
theorem events_scoped :
    (WebhookDeliverer.deliver computeSignature message).events respond.handle w =
      ⟨.listActiveForTopic tenantId message.topic,
        .ok (w.store.listActiveForTopic tenantId message.topic)⟩ ::
      (WebhookDeliverer.postAll computeSignature message
        (w.store.listActiveForTopic tenantId message.topic) none).events respond.handle w := by
  unfold WebhookDeliverer.deliver
  rw [hscope]
  show _ :: Prog.events _ (_ >>= fun lastError => .ret _) w = _
  rw [events_bind]
  exact congrArg (_ :: ·) (List.append_nil _)

theorem run_scoped :
    ((WebhookDeliverer.deliver computeSignature message).run respond.handle w).1 =
      ((WebhookDeliverer.postAll computeSignature message
        (w.store.listActiveForTopic tenantId message.topic) none).run respond.handle w).1.elim
          (.ok ()) .error := by
  unfold WebhookDeliverer.deliver
  rw [hscope]
  show (Prog.run _ (_ >>= fun lastError => .ret _) w).1 = _
  rw [run_bind]
  rfl

end Scoped

variable (computeSignature respond message w) in
/-- Those contacted are the subscribers of the scope. -/
theorem contacted_deliver :
    contacted ((WebhookDeliverer.deliver computeSignature message).events respond.handle w) =
      w.store.values.filter fun reg =>
        reg.subscribes message.topic && WebhookDeliverer.scope message = some reg.tenantId := by
  cases hscope : WebhookDeliverer.scope message with
  | none =>
      rw [deliver_unscoped hscope]
      refine (List.filter_eq_nil_iff.mpr fun reg _ => ?_).symm
      simp
  | some tenantId =>
      rw [events_scoped hscope]
      refine (contacted_postAll _ none).trans (List.filter_congr fun reg _ => ?_)
      simp only [WebhookRegistration.subscribes, Option.some.injEq, eq_comm, Bool.and_right_comm]

variable (computeSignature respond message w) in
/-- The delivery succeeds if and only if all that were contacted did. -/
theorem deliver_verdict :
    ((WebhookDeliverer.deliver computeSignature message).run respond.handle w).1 = .ok () ↔
      AllAnswered
        ((WebhookDeliverer.deliver computeSignature message).events respond.handle w) := by
  cases hscope : WebhookDeliverer.scope message with
  | none =>
      rw [deliver_unscoped hscope]
      exact iff_of_true rfl fun _ _ _ he => absurd he List.not_mem_nil
  | some tenantId =>
      have hlookup (log : List (Event WebhookOp.Ans)) (listed) :
          AllAnswered (⟨.listActiveForTopic tenantId message.topic, listed⟩ :: log) ↔
            AllAnswered log := by
        simp [AllAnswered]
      rw [events_scoped hscope, run_scoped hscope, hlookup]
      refine Iff.trans ?_ ((postAll_eq_none _ none).trans (and_iff_right rfl))
      cases ((WebhookDeliverer.postAll computeSignature message _ none).run respond.handle w).1 with
      | none => exact iff_of_true rfl rfl
      | some e => exact iff_of_false (fun h => by cases h) (Option.some_ne_none e)

end Posting

/-! ## Messages that reach their subscribers -/

/-- The tenant is trimmed and not blank, or the message has subscribers neither under the tenant
as it is written nor under the trimmed one. -/
def ScopedExactly (message : OutboxMessage) (registrations : List WebhookRegistration) : Prop :=
  ∀ tenantId, message.tenantId = some tenantId →
    (trim tenantId = tenantId ∧ tenantId ≠ "") ∨
      ∀ reg ∈ registrations, reg.subscribes message.topic →
        reg.tenantId ≠ tenantId ∧ (trim tenantId ≠ "" → reg.tenantId ≠ trim tenantId)

/-- Two choices from one list are the same if they agree on its elements. -/
theorem filter_perm_filter {α : Type} {p q : α → Bool} {l : List α} :
    (l.filter p).Perm (l.filter q) ↔ ∀ a ∈ l, p a = q a := by
  refine ⟨fun h a ha => Bool.eq_iff_iff.mpr ?_, fun h => List.filter_congr h ▸ .refl _⟩
  have hmem := h.mem_iff (a := a)
  rwa [List.mem_filter, List.mem_filter, and_iff_right ha, and_iff_right ha] at hmem

theorem scope_eq_none {message : OutboxMessage} (htenant : message.tenantId = none) :
    WebhookDeliverer.scope message = none := by
  rw [WebhookDeliverer.scope, htenant]
  rfl

theorem scope_eq_some {message : OutboxMessage} {tenantId owner : String}
    (htenant : message.tenantId = some tenantId) :
    WebhookDeliverer.scope message = some owner ↔ trim tenantId ≠ "" ∧ owner = trim tenantId := by
  unfold WebhookDeliverer.scope
  rw [htenant, Option.map_some, Option.filter_eq_some_iff]
  simp only [Option.some.injEq, decide_eq_true_eq]
  exact ⟨fun ⟨heq, hne⟩ => ⟨heq ▸ hne, heq.symm⟩, fun ⟨hne, heq⟩ => ⟨heq.symm, heq ▸ hne⟩⟩

/-- The lookup finds the message's own subscribers. -/
theorem scope_agrees_iff {message : OutboxMessage} {registrations : List WebhookRegistration} :
    (∀ reg ∈ registrations, reg.subscribes message.topic →
      (WebhookDeliverer.scope message = some reg.tenantId ↔
        message.tenantId = some reg.tenantId)) ↔
      ScopedExactly message registrations := by
  cases htenant : message.tenantId with
  | none =>
      have hscope := scope_eq_none htenant
      refine iff_of_true (fun reg _ _ => by rw [hscope]) fun tenantId h => ?_
      rw [htenant] at h
      cases h
  | some tenantId =>
      unfold ScopedExactly
      simp only [htenant, Option.some.injEq, forall_eq', scope_eq_some htenant]
      by_cases hclean : trim tenantId = tenantId ∧ tenantId ≠ ""
      · refine iff_of_true (fun reg _ _ => ?_) (Or.inl hclean)
        rw [hclean.1, and_iff_right hclean.2, eq_comm]
      · rw [or_iff_right hclean]
        refine forall₃_congr fun reg _ _ =>
          ⟨fun h => ⟨fun heq => ?_, fun hne heq => ?_⟩, fun h => ?_⟩
        · obtain ⟨hne, htrim⟩ := h.mpr heq.symm
          exact hclean ⟨htrim.symm.trans heq, heq ▸ htrim ▸ hne⟩
        · have hown := h.mp ⟨hne, heq⟩
          exact hclean ⟨heq.symm.trans hown.symm, hown ▸ heq ▸ hne⟩
        · exact iff_of_false (fun hscope => h.2 hscope.1 hscope.2) fun heq => h.1 heq.symm

/-- **A message fans out to its subscribers** if and only if its tenant is written as it is looked
up, or nobody subscribes under either spelling. -/
theorem fansOut_iff (computeSignature : String → Json → String) (respond : Respond)
    (message : OutboxMessage) (w : WebhookWorld) :
    FansOut computeSignature respond message w ↔ ScopedExactly message w.store.values := by
  have hcontacted := contacted_deliver computeSignature respond message w
  have hexact : (contacted ((WebhookDeliverer.deliver computeSignature message).events
      respond.handle w)).Perm (w.store.values.filter fun reg =>
        reg.subscribes message.topic && message.tenantId = some reg.tenantId) ↔
      ScopedExactly message w.store.values := by
    rw [hcontacted, filter_perm_filter, ← scope_agrees_iff]
    refine forall₂_congr fun reg _ => ?_
    rw [Bool.eq_iff_iff, Bool.and_eq_true, Bool.and_eq_true, decide_eq_true_iff, decide_eq_true_iff,
      and_congr_right_iff]
  refine ⟨fun h => hexact.mp h.exact, fun h => ⟨hexact.mpr h, ?_, fun hnone => ?_⟩⟩
  · exact deliver_verdict computeSignature respond message w
  · rw [deliver_unscoped (scope_eq_none hnone)]
    rfl

/-- An order of the tenant `" t1"` is posted to an endpoint of `"t1"`. -/
theorem padded_tenant_leaks :
    let reg : WebhookRegistration := ⟨"wh_1", "t1", "https://t1.example.com/hook", "s", none, true⟩
    let message : OutboxMessage := ⟨"msg_1", "order.created", "ord_1", "c", 0, some " t1"⟩
    let w : WebhookWorld := ⟨AList.insert "wh_1" reg ∅, 0⟩
    let respond : Respond := fun _ _ _ => .ok ⟨200, "200 OK"⟩
    ¬ FansOut (fun _ _ => "") respond message w ∧
      contacted ((WebhookDeliverer.deliver (fun _ _ => "") message).events respond.handle w) =
        [reg] := by
  intro reg message w respond
  have hleak : contacted ((WebhookDeliverer.deliver (fun _ _ => "") message).events
      respond.handle w) = [reg] := by
    rw [contacted_deliver]
    decide
  refine ⟨fun h => ?_, hleak⟩
  have hexact := h.exact.length_eq
  rw [hleak] at hexact
  exact absurd hexact (by decide)

end Orchestrator
