/-
# `CommerceOrchestrator.Runtime.Booking` — what follows a capture

Two verdicts are drawn from the payment provider's answer to a capture: the
payment state, which reads its `success` flag, and the status of the
transaction, which does not.  `session_honest_iff` says exactly when they agree
over a whole session.
-/
import CommerceOrchestrator.Runtime.Recovery
import CommerceOrchestrator.Runtime.Session

namespace Orchestrator

open Effect Prog

variable {env : Env} {runner : Runner} {request : CheckoutRequest} {w w' : World}
  {tr : List (Event Op.Ans)} {r : Except RunnerError TransactionResult}

/-! ## Paths that reach a capture -/

/-- A path on which the capture `pay` was answered `paid`. -/
inductive CapturedPath (runner : Runner) (request : CheckoutRequest)
    (paid : PaymentOperationResult) :
    PaymentLifecycleRequest → List (Event Op.Ans) → Except RunnerError TransactionResult → Prop
  | mk (cart : CartProjection) (auth : AuthResult) (committed : CommitRecord)
      {tr₁ tr₂ tr₃ : List (Event Op.Ans)} {r : Except RunnerError TransactionResult} :
      SettlePath request tr₁ (.ok cart) →
      ReservePath request.cartId cart.lines tr₂ (.ok ()) →
      BookPath request cart committed paid tr₃ r →
      CapturedPath runner request paid (captureRequest request cart committed)
        (⟨.claim (.ofRequest request), .ok none⟩ :: (tr₁ ++ (tr₂ ++
          (⟨.authorize request, .ok auth⟩ ::
            ⟨.commit request.cartId (some auth.reference), .ok committed⟩ ::
            ⟨.capture (captureRequest request cart committed), .ok paid⟩ :: tr₃)))) r

/-- The operations that only follow a capture. -/
def Op.books : Op → Bool
  | .putOrder .. | .generate .. | .finalizeCart .. | .enqueue .. => true
  | _ => false

/-- A path on which no capture was answered: nothing is booked, and `completed`
is neither recorded nor returned. -/
structure Uncaptured (tr : List (Event Op.Ans)) (r : Except RunnerError TransactionResult) :
    Prop where
  no_capture : ∀ pay paid, ⟨.capture pay, .ok paid⟩ ∉ tr
  no_booking : ∀ e ∈ tr, e.1.books = false
  completes : ∀ key result x, ⟨.complete key result, x⟩ ∈ tr → result.status ≠ .completed
  returns : ∀ result, r = .ok result → result.status ≠ .completed

theorem Op.settles_not_books {o : Op} (h : o.settles) : o.books = false := by
  cases o <;> first | rfl | exact absurd h Bool.false_ne_true

theorem Op.reserves_not_books {o : Op} (h : o.reserves) : o.books = false := by
  cases o <;> first | rfl | exact absurd h Bool.false_ne_true

theorem ConcludePath.uncaptured {result : TransactionResult} (h : ConcludePath request result tr r)
    (hres : result.status ≠ .completed) : Uncaptured tr r := by
  cases h with
  | unreleased e => exact ⟨by simp, by simp [Op.books], by simp, by simp⟩
  | incomplete e => exact ⟨by simp, by simp [Op.books], by simp +contextual [hres], by simp⟩
  | concluded x =>
      refine ⟨by simp, by simp [Op.books], by simp +contextual [hres], ?_⟩
      intro result' hr
      exact Except.ok.inj hr ▸ hres

theorem PayPath.captured_or {cart : CartProjection} {tr₁ tr₂ tr₃ : List (Event Op.Ans)}
    (hs : SettlePath request tr₁ (.ok cart))
    (hr : ReservePath request.cartId cart.lines tr₂ (.ok ()))
    (h : PayPath runner request cart tr₃ r) :
    (∃ pay paid, CapturedPath runner request paid pay
      (⟨.claim (.ofRequest request), .ok none⟩ :: (tr₁ ++ (tr₂ ++ tr₃))) r) ∨
      Uncaptured tr₃ r := by
  cases h with
  | rejected errors txn corr _ hc =>
      obtain ⟨h₁, h₂, h₃, h₄⟩ := hc.uncaptured (by simp [rejectedResult, unpaidResult])
      exact Or.inr ⟨by simpa using h₁, by simpa [Op.books] using h₂, by simpa using h₃,
        by simpa using h₄⟩
  | unauthorized e _ => exact Or.inr ⟨by simp, by simp [Op.books], by simp, by simp⟩
  | declined auth txn corr _ _ hc =>
      obtain ⟨h₁, h₂, h₃, h₄⟩ := hc.uncaptured (by simp [authFailedResult, unpaidResult])
      exact Or.inr ⟨by simpa using h₁, by simpa [Op.books] using h₂, by simpa using h₃,
        by simpa using h₄⟩
  | uncommitted auth e _ _ => exact Or.inr ⟨by simp, by simp [Op.books], by simp, by simp⟩
  | uncaptured auth committed e _ _ =>
      exact Or.inr ⟨by simp, by simp [Op.books], by simp, by simp⟩
  | captured auth committed paid _ _ hb =>
      exact Or.inl ⟨_, paid, .mk cart auth committed hs hr hb⟩

/-- Every path through a checkout is one or the other, or the replay of a stored result. -/
theorem CheckoutPath.captured_or (h : CheckoutPath runner request tr r) :
    (∃ pay paid, CapturedPath runner request paid pay tr r) ∨ Uncaptured tr r ∨
      ∃ result, tr = [⟨.claim (.ofRequest request), .ok (some (.completed result))⟩] ∧
        r = .ok result := by
  cases h with
  | invalid _ => exact Or.inr (Or.inl ⟨by simp, by simp, by simp, by simp⟩)
  | unclaimed e _ => exact Or.inr (Or.inl ⟨by simp, by simp [Op.books], by simp, by simp⟩)
  | inFlight _ => exact Or.inr (Or.inl ⟨by simp, by simp [Op.books], by simp, by simp⟩)
  | replayed result _ => exact Or.inr (Or.inr ⟨result, rfl, rfl⟩)
  | owned _ h =>
      cases h with
      | unsettled e x e' hs =>
          refine Or.inr (Or.inl ⟨fun pay paid => ?_, ?_, fun key result x => ?_, by simp⟩)
          · simp [notMem_of_ops hs.settles (o := .capture pay) rfl]
          · refine List.forall_mem_cons.mpr ⟨rfl, List.forall_mem_append.mpr ⟨?_, ?_⟩⟩
            · exact fun e he => Op.settles_not_books (hs.settles e he)
            · simp [Op.books]
          · simp [notMem_of_ops hs.settles (o := .complete key result) rfl]
      | unreserved cart e hs hr =>
          refine Or.inr (Or.inl ⟨fun pay paid => ?_, ?_, fun key result x => ?_, by simp⟩)
          · simp [notMem_of_ops hs.settles (o := .capture pay) rfl,
              notMem_of_ops hr.reserves (o := .capture pay) rfl]
          · refine List.forall_mem_cons.mpr ⟨rfl, List.forall_mem_append.mpr ⟨?_, ?_⟩⟩
            · exact fun e he => Op.settles_not_books (hs.settles e he)
            · exact fun e he => Op.reserves_not_books (hr.reserves e he)
          · simp [notMem_of_ops hs.settles (o := .complete key result) rfl,
              notMem_of_ops hr.reserves (o := .complete key result) rfl]
      | paid cart hs hr hp =>
          refine (hp.captured_or hs hr).imp id fun ⟨h₁, h₂, h₃, h₄⟩ => Or.inl ?_
          refine ⟨fun pay paid => ?_, ?_, fun key result x => ?_, h₄⟩
          · simpa [notMem_of_ops hs.settles (o := .capture pay) rfl,
              notMem_of_ops hr.reserves (o := .capture pay) rfl] using h₁ pay paid
          · refine List.forall_mem_cons.mpr ⟨rfl, List.forall_mem_append.mpr ⟨?_,
              List.forall_mem_append.mpr ⟨?_, h₂⟩⟩⟩
            · exact fun e he => Op.settles_not_books (hs.settles e he)
            · exact fun e he => Op.reserves_not_books (hr.reserves e he)
          · simpa [notMem_of_ops hs.settles (o := .complete key result) rfl,
              notMem_of_ops hr.reserves (o := .complete key result) rfl] using h₃ key result x

/-! ## Two verdicts -/

/-- What a call should show: a completed result is one that was captured, and an
`order.created` message announces an order whose capture succeeded. -/
structure Honest (turn : Turn Op.Ans Outcome) : Prop where
  captured : ∀ request result, turn.result = .checkout request (.ok result) →
    result.status = .completed → result.paymentState = .captured
  announced : ∀ message x, ⟨.enqueue message, x⟩ ∈ turn.trace → tookHold x →
    message.topic = "order.created" →
    ∃ order y pay paid, ⟨.putOrder order, y⟩ ∈ turn.trace ∧ order.orderId = message.payload ∧
      ⟨.capture pay, .ok paid⟩ ∈ turn.trace ∧ order.transactionId = pay.transactionId ∧
      paid.success = true

/-- The order, the receipt or the stock failed, or the message without effect. -/
def Stops (tr : List (Event Op.Ans)) : Prop :=
  (∃ order e, ⟨.putOrder order, .error e⟩ ∈ tr) ∨
  (∃ cart result e, ⟨.generate cart result, .error e⟩ ∈ tr) ∨
  (∃ cartId e, ⟨.finalizeCart cartId, .error e⟩ ∈ tr) ∨
  ∃ message e, ⟨.enqueue message, .error e⟩ ∈ tr ∧ e.tookEffect = false

/-- A capture that was answered but unsuccessful is followed by a failure. -/
def RefusedCaptureStops (turn : Turn Op.Ans Outcome) : Prop :=
  ∀ pay paid, ⟨.capture pay, .ok paid⟩ ∈ turn.trace → paid.success = false → Stops turn.trace

/-- A stored outcome that is `completed` was captured. -/
def HonestKeys (w : World) : Prop :=
  ∀ key result, w.idempotency.lookup key = some (.completed result) →
    result.status = .completed → result.paymentState = .captured

/-- On a captured path, an operation that books or completes is one of the booking's. -/
theorem CapturedPath.mem_iff {paid : PaymentOperationResult} {pay : PaymentLifecycleRequest}
    (h : CapturedPath runner request paid pay tr r) :
    ∃ cart committed tr₃, pay = captureRequest request cart committed ∧
      BookPath request cart committed paid tr₃ r ∧
      (∀ pay' x, ⟨.capture pay', x⟩ ∈ tr ↔ pay' = pay ∧ x = .ok paid) ∧
      (∀ o x, o.books → (⟨o, x⟩ ∈ tr ↔ ⟨o, x⟩ ∈ tr₃)) ∧
      (∀ key result x, ⟨.complete key result, x⟩ ∈ tr ↔ ⟨.complete key result, x⟩ ∈ tr₃) := by
  cases h with
  | @mk cart auth committed tr₁ tr₂ tr₃ _ hs hr hb =>
      refine ⟨cart, committed, tr₃, rfl, hb, fun pay' x => ?_, fun o x ho => ?_,
        fun key result x => ?_⟩
      · have hno : (⟨.capture pay', x⟩ : Event Op.Ans) ∉ tr₃ := fun hm => hb.not_pays _ hm rfl
        simp [notMem_of_ops hs.settles (o := .capture pay') rfl,
          notMem_of_ops hr.reserves (o := .capture pay') rfl, hno]
      · have hno₁ : (⟨o, x⟩ : Event Op.Ans) ∉ tr₁ := fun hm =>
          absurd ho (by simp [Op.settles_not_books (hs.settles _ hm)])
        have hno₂ : (⟨o, x⟩ : Event Op.Ans) ∉ tr₂ := fun hm =>
          absurd ho (by simp [Op.reserves_not_books (hr.reserves _ hm)])
        cases o <;> first | exact absurd ho Bool.false_ne_true | simp [hno₁, hno₂]
      · simp [notMem_of_ops hs.settles (o := .complete key result) rfl,
          notMem_of_ops hr.reserves (o := .complete key result) rfl]

section Book

variable {cart : CartProjection} {committed : CommitRecord} {paid : PaymentOperationResult}

/-- A booking either stops, and then announces and completes nothing, or its
message takes hold. -/
theorem BookPath.stops_or (h : BookPath request cart committed paid tr r) :
    (Stops tr ∧ (∀ message x, ⟨.enqueue message, x⟩ ∈ tr → tookHold x = false) ∧
      (∀ key result x, ⟨.complete key result, x⟩ ∉ tr) ∧ ∀ result, r ≠ .ok result) ∨
      (¬ Stops tr ∧ ∃ message x, ⟨.enqueue message, x⟩ ∈ tr ∧ tookHold x ∧
        message.topic = "order.created") := by
  cases h with
  | unordered b e => exact Or.inl (by simp [Stops, Booking.draws])
  | unreceipted b e => exact Or.inl (by simp [Stops, Booking.draws])
  | unfinalized b receipt e => exact Or.inl (by simp [Stops, Booking.draws])
  | unannounced b receipt msg e =>
      cases hhold : e.tookEffect with
      | false => exact Or.inl (by simp [Stops, Booking.draws, hhold])
      | true => exact Or.inr ⟨by simp [Stops, Booking.draws, hhold],
          b.message msg, .error e, by simp, hhold, rfl⟩
  | incomplete b receipt msg e =>
      exact Or.inr ⟨by simp [Stops, Booking.draws], b.message msg, .ok (), by simp, rfl, rfl⟩
  | booked b receipt msg x =>
      exact Or.inr ⟨by simp [Stops, Booking.draws], b.message msg, .ok (), by simp, rfl, rfl⟩

/-- A booking announces the order it put. -/
theorem BookPath.announces (h : BookPath request cart committed paid tr r)
    {message : OutboxMessage} {x : Except StoreError Unit} (hm : ⟨.enqueue message, x⟩ ∈ tr) :
    ∃ order y, ⟨.putOrder order, y⟩ ∈ tr ∧ order.orderId = message.payload ∧
      order.transactionId = committed.transactionId := by
  cases h with
  | unordered b e | unreceipted b e | unfinalized b receipt e => simp [Booking.draws] at hm
  | unannounced b receipt msg e | incomplete b receipt msg e | booked b receipt msg x =>
      obtain ⟨rfl, -⟩ : message = b.message msg ∧ _ := by simpa [Booking.draws] using hm
      exact ⟨b.record, .ok (), by simp, rfl, rfl⟩

/-- What a booking completes and returns carries the verdict of the capture. -/
theorem BookPath.paymentState (h : BookPath request cart committed paid tr r)
    {result : TransactionResult}
    (hm : (∃ key x, ⟨.complete key result, x⟩ ∈ tr) ∨ r = .ok result) :
    result.paymentState = if paid.success then .captured else .failed := by
  cases h with
  | unordered b e | unreceipted b e | unfinalized b receipt e | unannounced b receipt msg e =>
      simp [Booking.draws] at hm
  | incomplete b receipt msg e =>
      obtain rfl : result = b.result receipt := by simpa [Booking.draws] using hm
      rfl
  | booked b receipt msg x =>
      obtain rfl : result = b.result receipt := by simpa [Booking.draws, eq_comm] using hm
      rfl

end Book

/-- On a captured path the verdicts agree unless the capture was unsuccessful and
nothing stopped the booking. -/
theorem CapturedPath.honest_iff {paid : PaymentOperationResult} {pay : PaymentLifecycleRequest}
    (h : CapturedPath runner request paid pay tr r) :
    Honest ⟨tr, .checkout request r⟩ ↔ RefusedCaptureStops ⟨tr, .checkout request r⟩ := by
  obtain ⟨cart, committed, tr₃, rfl, hb, hcap, hbook, -⟩ := h.mem_iff
  have henq := fun message x => hbook (.enqueue message) x rfl
  have hput := fun order x => hbook (.putOrder order) x rfl
  have hstops : Stops tr ↔ Stops tr₃ := by
    simp only [Stops, hput, henq, fun c res x => hbook (.generate c res) x rfl,
      fun c x => hbook (.finalizeCart c) x rfl]
  constructor
  · rintro ⟨-, hann⟩ pay paid' hm hfalse
    obtain ⟨rfl, hp⟩ := (hcap _ _).mp hm
    cases hp
    rcases hb.stops_or with ⟨hs, -⟩ | ⟨-, message, x, hm', hhold, htopic⟩
    · exact hstops.mpr hs
    · obtain ⟨order, y, pay', paid', -, -, hm'', -, htrue⟩ :=
        hann message x ((henq _ _).mpr hm') hhold htopic
      cases ((hcap _ _).mp hm'').2
      exact absurd htrue (by simp [hfalse])
  · intro hstop
    have hstop := hstop _ paid ((hcap _ _).mpr ⟨rfl, rfl⟩)
    cases hsucc : paid.success with
    | true =>
        refine ⟨fun request' result hres _ => ?_, fun message x hm _ _ => ?_⟩
        · cases hres
          rw [hb.paymentState (Or.inr rfl), if_pos hsucc]
        · obtain ⟨order, y, hord, hid, htxn⟩ := hb.announces ((henq _ _).mp hm)
          exact ⟨order, y, _, paid, (hput _ _).mpr hord, hid, (hcap _ _).mpr ⟨rfl, rfl⟩, htxn,
            hsucc⟩
    | false =>
        rcases hb.stops_or with ⟨-, hno, -, hnok⟩ | ⟨hs, -⟩
        · refine ⟨fun request' result hres _ => ?_, fun message x hm hhold _ => ?_⟩
          · cases hres
            exact absurd rfl (hnok result)
          · exact absurd hhold (by simp [hno _ _ ((henq _ _).mp hm)])
        · exact absurd (hstops.mp (hstop hsucc)) hs

/-! ## Over a session -/

theorem Op.carts_not_keys {o : Op} (h : o.carts) : o.keys = false := by
  cases o <;> first | rfl | exact absurd h Bool.false_ne_true

theorem HonestKeys.handle {o : Op} (h : HonestKeys w)
    (ho : ∀ key result, o = .complete key result → result.status = .completed →
      result.paymentState = .captured) : HonestKeys (env.handle o w).2 := by
  intro key result hl hc
  cases hk : o.keys with
  | false =>
      rw [Env.handle_idempotency hk] at hl
      exact h key result hl hc
  | true =>
      cases o with
      | claim key' =>
          rw [Env.handle_claim_lookup] at hl
          split at hl
          · next hkey =>
              cases hs : w.idempotency.lookup key' with
              | none => simp [hs] at hl
              | some state => exact h key' result (by simpa [hs] using hl) hc
          · exact h key result hl hc
      | complete key' result' =>
          rw [Env.handle_complete_lookup] at hl
          split at hl
          · cases hl
            exact ho key' result rfl hc
          · exact h key result hl hc
      | release key' =>
          rw [Env.handle_release_lookup] at hl
          split at hl
          · cases hl
          · exact h key result hl hc
      | _ => exact absurd hk Bool.false_ne_true

theorem HonestKeys.replays (h : HonestKeys w) (hr : Replays env.handle w tr w')
    (hcomp : ∀ key result x, ⟨.complete key result, x⟩ ∈ tr → result.status = .completed →
      result.paymentState = .captured) : HonestKeys w' := by
  refine hr.preserves h fun e he v hv _ => hv.handle fun key result ho => ?_
  obtain ⟨o, x⟩ := e
  cases ho
  exact hcomp key result x he

/-- One checkout that meets the condition keeps the stored outcomes honest and is
honest itself. -/
theorem CheckoutPath.honest (hp : CheckoutPath runner request tr r)
    (hr : Replays env.handle w tr w') (hw : HonestKeys w)
    (hc : RefusedCaptureStops ⟨tr, .checkout request r⟩) :
    HonestKeys w' ∧ Honest ⟨tr, .checkout request r⟩ := by
  rcases hp.captured_or with ⟨pay, paid, h⟩ | h | ⟨result, rfl, rfl⟩
  · refine ⟨hw.replays hr fun key result x hm _ => ?_, h.honest_iff.mpr hc⟩
    obtain ⟨cart, committed, tr₃, rfl, hb, hcap, hbook, hcomp⟩ := h.mem_iff
    have hm := (hcomp key result x).mp hm
    rw [hb.paymentState (Or.inl ⟨key, x, hm⟩)]
    cases hsucc : paid.success with
    | true => rfl
    | false =>
        rcases hb.stops_or with ⟨-, -, hno, -⟩ | ⟨hs, -⟩
        · exact absurd hm (hno key result x)
        · have hstop := hc _ paid ((hcap _ _).mpr ⟨rfl, rfl⟩) hsucc
          refine absurd ?_ hs
          simpa only [Stops, fun o x => hbook (.putOrder o) x rfl,
            fun m x => hbook (.enqueue m) x rfl, fun c res x => hbook (.generate c res) x rfl,
            fun c x => hbook (.finalizeCart c) x rfl] using hstop
  · refine ⟨hw.replays hr fun key result x hm hcomp => absurd hcomp (h.completes key result x hm),
      fun request' result hres hcomp => ?_, fun message x hm _ _ => ?_⟩
    · cases hres
      exact absurd hcomp (h.returns result rfl)
    · exact absurd (h.no_booking _ hm) (by simp [Op.books])
  · refine ⟨hw.replays hr (by simp), fun request' result hres hcomp => ?_, by simp⟩
    cases hres
    exact hw _ result (Env.handle_claim_ok hr.1) hcomp

/-- **The two verdicts.**  In a session from nothing, every completed result was
captured and every order announced was paid for exactly when every capture that
was answered without success was followed by a failure of the order, the
receipt, the stock or the message. -/
theorem session_honest_iff (env : Env) (runner : Runner) (calls : List Call) :
    (∀ t ∈ (session env runner calls World.empty).1, Honest t) ↔
      ∀ t ∈ (session env runner calls World.empty).1, RefusedCaptureStops t := by
  constructor
  · refine session_turns (I := fun _ => True) (fun w tr out w' _ hp _ hc => ⟨trivial, ?_⟩) trivial
    cases hp with
    | cart ht =>
        have hcarts := dispatchCartCommand_carts ht
        intro pay paid hm _
        exact absurd (hcarts _ hm) Bool.false_ne_true
    | checkout hp =>
        rcases hp.captured_or with ⟨pay, paid, h⟩ | h | ⟨result, rfl, -⟩
        · exact h.honest_iff.mp hc
        · exact fun pay paid hm _ => absurd hm (h.no_capture pay paid)
        · intro pay paid hm
          simp at hm
  · refine session_turns (I := HonestKeys) (fun w tr out w' hw hp hr hc => ?_) ?_
    · cases hp with
      | cart ht =>
          have hcarts := dispatchCartCommand_carts ht
          refine ⟨hw.replays hr fun key result x hm => ?_, fun _ _ hres => ?_, fun message x hm => ?_⟩
          · exact absurd (hcarts _ hm) Bool.false_ne_true
          · cases hres
          · exact absurd (hcarts _ hm) Bool.false_ne_true
      | checkout hp => exact hp.honest hr hw hc
    · intro key result hl
      cases hl

/-- A payment provider that authorizes, and answers the capture without success. -/
def Env.refusing : Env := { Env.agreeable with capture := fun _ _ => .ok ⟨false, "pending"⟩ }

/-- The checkout of the unsuccessful capture completes all the same. -/
theorem refused_capture_completes :
    ¬ ∀ (env : Env) (runner : Runner) (calls : List Call),
      ∀ t ∈ (session env runner calls World.empty).1, Honest t := by
  intro h
  have hlast := h Env.refusing Sample.runner
    (Sample.shopping ++ [.checkout (Sample.request "k")]) _ (List.get_mem _ ⟨2, by decide⟩)
  have hpaid := hlast.captured (Sample.request "k") _ rfl rfl
  exact PaymentState.noConfusion hpaid

end Orchestrator
