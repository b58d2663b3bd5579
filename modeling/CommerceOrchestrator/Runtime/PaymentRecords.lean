/-
# `CommerceOrchestrator.Runtime.PaymentRecords` — what is recorded of a transaction

A checkout settles its key first and records the state of its transaction after that.
In between the outcome is on show: a caller with the same key is told the transaction,
and may have it voided or refunded before the checkout has written down that it was
captured.  So a recorded void or refund stays what it is if none is recorded of a
transaction whose checkout has still to make its own record (`checkout_undoes_nothing`).

No two checkouts share a transaction, since each commits its own (`Separate`).
-/
import CommerceOrchestrator.Runtime.Integrity
import CommerceOrchestrator.Runtime.Lifecycle

namespace Orchestrator

open Effect Prog

/-! ## Records -/

/-- A state that has been stored for a transaction, and who stored it. -/
structure StateRecord where
  thread : Nat
  transactionId : String
  state : PaymentState
deriving DecidableEq, Repr

/-- The record an entry makes, if it takes hold. -/
def storedState : PayEntry → Option StateRecord
  | .did t ⟨.run (.putPaymentState transactionId state), x⟩ =>
      if tookHold x then some ⟨t, transactionId, state⟩ else none
  | _ => none

/-- The record says that the payment was taken back. -/
def StateRecord.takesBack (r : StateRecord) : Prop := r.state = .voided ∨ r.state = .refunded

instance (r : StateRecord) : Decidable r.takesBack :=
  inferInstanceAs (Decidable (_ ∨ _))

def PayCall.checksOut : PayCall → Bool
  | .session (.checkout _) => true
  | _ => false

/-- A checkout records a transaction as captured that was recorded as taken back. -/
def Undoes (calls : List PayCall) (r r' : StateRecord) : Prop :=
  r.transactionId = r'.transactionId ∧ r.takesBack ∧ r'.state = .captured ∧
    (threadPayCall calls r'.thread).checksOut = true

instance (calls : List PayCall) (r r' : StateRecord) : Decidable (Undoes calls r r') :=
  inferInstanceAs (Decidable (_ ∧ _))

/-- No recorded void or refund is undone by a checkout. -/
def NeverUndone (calls : List PayCall) (log : List PayEntry) : Prop :=
  (log.filterMap storedState).Pairwise fun r r' => ¬ Undoes calls r r'

instance (calls : List PayCall) (log : List PayEntry) : Decidable (NeverUndone calls log) :=
  inferInstanceAs (Decidable (List.Pairwise _ _))

/-- The transaction a checkout returned. -/
def returnedTransaction : PayEntry → Option String
  | .returned _ (.session (.checkout _ (.ok result))) => some result.transactionId
  | _ => none

/-- The provider is asked to void or refund only what a checkout has returned. -/
def OfReturned (_ : Nat) (o : PayOp) (_ : World) (log : List PayEntry) : Prop :=
  match o with
  | .provider .capture _ => True
  | .provider _ request => request.transactionId ∈ log.filterMap returnedTransaction
  | .run _ => True

instance (t : Nat) (o : PayOp) (w : World) (log : List PayEntry) :
    Decidable (OfReturned t o w log) := by
  unfold OfReturned
  split <;> infer_instance

/-- The captured transaction a checkout has settled its key on, with its thread. -/
def settledTransaction : PayEntry → Option (Nat × String)
  | .did t ⟨.run (.complete _ result), .ok _⟩ =>
      if result.paymentState = .captured then some (t, result.transactionId) else none
  | _ => none

/-- The transaction an entry is a record of, with the thread that makes it. -/
def recordedTransaction : PayEntry → Option (Nat × String)
  | .did t ⟨.run (.putPaymentState transactionId _), _⟩ => some (t, transactionId)
  | _ => none

/-- A checkout has settled its key on the captured transaction, and has not recorded it. -/
def RecordPending (log : List PayEntry) (transactionId : String) : Prop :=
  ∃ p ∈ log.filterMap settledTransaction, p.2 = transactionId ∧
    p ∉ log.filterMap recordedTransaction

instance (log : List PayEntry) (transactionId : String) :
    Decidable (RecordPending log transactionId) :=
  inferInstanceAs (Decidable (∃ _ ∈ _, _))

/-- A void or refund is recorded only when no checkout has still to record the transaction. -/
def RecordedFirst (_ : Nat) (o : PayOp) (_ : World) (log : List PayEntry) : Prop :=
  match o with
  | .run (.putPaymentState transactionId .voided)
  | .run (.putPaymentState transactionId .refunded) => ¬ RecordPending log transactionId
  | _ => True

instance (t : Nat) (o : PayOp) (w : World) (log : List PayEntry) :
    Decidable (RecordedFirst t o w log) := by
  unfold RecordedFirst
  split <;> infer_instance

/-! ## Settling and recording -/

/-- How far a checkout has got with its outcome. -/
inductive Settling
  | open
  /-- The key is settled; the record is still to be made. -/
  | pending (result : TransactionResult)
  /-- There is nothing more to write, and this is what can be returned. -/
  | done (result : Option TransactionResult)

/-- A checkout settles once, and then records what it has settled on. -/
def settlingMonitor : Monitor Op.Ans Settling where
  allow o f :=
    match o with
    | .complete _ _ => f = .open
    | .putPaymentState transactionId state =>
        ∃ result, f = .pending result ∧ transactionId = result.transactionId ∧
          state = result.paymentState
    | _ => True
  next o f x :=
    match o, x with
    | .claim _, .ok (some (.completed result)) => .done (some result)
    | .complete _ result, .ok _ => .pending result
    | .complete _ _, .error _ => .done none
    | .putPaymentState _ _, _ =>
        match f with
        | .pending result => .done (some result)
        | f => f
    | _, _ => f

/-- The operations that move it. -/
def Op.outcomes : Op → Bool
  | .claim _ | .complete .. | .putPaymentState .. => true
  | _ => false

theorem settlingMonitor_idle {o : Op} {f : Settling} {x : o.Ans} (h : o.outcomes = false) :
    settlingMonitor.allow o f ∧ settlingMonitor.next o f x = f := by
  cases o <;> first | exact ⟨trivial, rfl⟩ | exact absurd h Bool.noConfusion

theorem Op.settles_not_outcomes {o : Op} (h : o.settles) : o.outcomes = false := by
  cases o <;> first | rfl | exact absurd h Bool.false_ne_true

theorem Op.reserves_not_outcomes {o : Op} (h : o.reserves) : o.outcomes = false := by
  cases o <;> first | rfl | exact absurd h Bool.false_ne_true

theorem Op.carts_not_outcomes {o : Op} (h : o.carts) : o.outcomes = false := by
  cases o <;> first | rfl | exact absurd h Bool.false_ne_true

/-- What is returned has been recorded, or was read. -/
def Closes (r : Except RunnerError TransactionResult) (f : Settling) : Prop :=
  ∀ result, r = .ok result → f = .done (some result)

section Accepted

variable {runner : Runner} {request : CheckoutRequest} {cart : CartProjection}
  {tr : List (Event Op.Ans)} {r : Except RunnerError TransactionResult}

theorem settling_idle {f : Settling} {P : Settling → Prop} (h : ∀ e ∈ tr, e.1.outcomes = false)
    (hP : P f) : settlingMonitor.Accepts P tr f :=
  Monitor.Accepts.idle (fun e he => settlingMonitor_idle (h e he)) hP

/-- The end of a checkout that settles: the key, then the record. -/
theorem settling_settled {key : IdempotencyKey} {result : TransactionResult}
    {x : Except StoreError Unit} :
    settlingMonitor.Accepts (Closes (.ok result))
      [⟨.complete key result, .ok ()⟩,
        ⟨.putPaymentState result.transactionId result.paymentState, x⟩] .open := by
  refine ⟨rfl, fun _ => ⟨⟨result, rfl, rfl, rfl⟩, fun _ => ?_⟩⟩
  rintro _ ⟨⟩
  rfl

theorem closes_error {e : RunnerError} {f : Settling} : Closes (.error e) f :=
  fun _ he => nomatch he

theorem ConcludePath.settling {result : TransactionResult} (h : ConcludePath request result tr r) :
    settlingMonitor.Accepts (Closes r) tr .open := by
  cases h with
  | unreleased e => exact ⟨trivial, fun _ => closes_error⟩
  | incomplete e => exact ⟨trivial, fun _ => ⟨rfl, fun _ => closes_error⟩⟩
  | concluded x => exact ⟨trivial, fun _ => settling_settled⟩

theorem BookPath.settling {committed : CommitRecord} {paid : PaymentOperationResult}
    (h : BookPath request cart committed paid tr r) :
    settlingMonitor.Accepts (Closes r) tr .open := by
  -- all that comes before the key is idle
  have hdraws (b : Booking request cart committed paid) : ∀ e ∈ b.draws, e.1.outcomes = false := by
    simp [Booking.draws, Op.outcomes]
  cases h with
  | unordered b e | unreceipted b e | unfinalized b receipt e | unannounced b receipt msg e =>
      refine settling_idle (fun e he => ?_) closes_error
      rcases List.mem_append.mp he with he | he
      · exact hdraws b e he
      · simp only [List.mem_cons, List.not_mem_nil, or_false] at he
        rcases he with rfl | rfl | rfl | rfl | rfl | rfl <;> rfl
  | incomplete b receipt msg e =>
      refine Monitor.accepts_append.mpr (settling_idle (hdraws b) ?_)
      exact ⟨trivial, fun _ => ⟨trivial, fun _ => ⟨trivial, fun _ => ⟨trivial, fun _ =>
        ⟨trivial, fun _ => ⟨trivial, fun _ => ⟨rfl, fun _ => closes_error⟩⟩⟩⟩⟩⟩⟩
  | booked b receipt msg x =>
      refine Monitor.accepts_append.mpr (settling_idle (hdraws b) ?_)
      exact ⟨trivial, fun _ => ⟨trivial, fun _ => ⟨trivial, fun _ => ⟨trivial, fun _ =>
        ⟨trivial, fun _ => ⟨trivial, fun _ => settling_settled⟩⟩⟩⟩⟩⟩

theorem PayPath.settling (h : PayPath runner request cart tr r) :
    settlingMonitor.Accepts (Closes r) tr .open := by
  cases h with
  | rejected errors txn corr _ hc =>
      exact ⟨trivial, fun _ => ⟨trivial, fun _ => hc.settling⟩⟩
  | unauthorized e _ => exact ⟨trivial, fun _ => closes_error⟩
  | declined auth txn corr _ _ hc =>
      exact ⟨trivial, fun _ => ⟨trivial, fun _ => ⟨trivial, fun _ => hc.settling⟩⟩⟩
  | uncommitted auth e _ _ => exact ⟨trivial, fun _ => ⟨trivial, fun _ => closes_error⟩⟩
  | uncaptured auth committed e _ _ =>
      exact ⟨trivial, fun _ => ⟨trivial, fun _ => ⟨trivial, fun _ => closes_error⟩⟩⟩
  | captured auth committed paid _ _ hb =>
      exact ⟨trivial, fun _ => ⟨trivial, fun _ => ⟨trivial, fun _ => hb.settling⟩⟩⟩

theorem OwnerPath.settling (h : OwnerPath runner request tr r) :
    settlingMonitor.Accepts (Closes r) tr .open := by
  cases h with
  | unsettled e x e' hs =>
      refine Monitor.accepts_append.mpr ?_
      refine settling_idle (fun e he => Op.settles_not_outcomes (hs.settles e he)) ?_
      exact ⟨trivial, fun _ => closes_error⟩
  | unreserved cart e hs hr =>
      refine Monitor.accepts_append.mpr ?_
      refine settling_idle (fun e he => Op.settles_not_outcomes (hs.settles e he)) ?_
      exact settling_idle (fun e he => Op.reserves_not_outcomes (hr.reserves e he)) closes_error
  | paid cart hs hr hp =>
      refine Monitor.accepts_append.mpr ?_
      refine settling_idle (fun e he => Op.settles_not_outcomes (hs.settles e he)) ?_
      refine Monitor.accepts_append.mpr ?_
      exact settling_idle (fun e he => Op.reserves_not_outcomes (hr.reserves e he)) hp.settling

theorem CheckoutPath.settling (h : CheckoutPath runner request tr r) :
    settlingMonitor.Accepts (Closes r) tr .open := by
  cases h with
  | invalid _ => exact closes_error
  | unclaimed e _ | inFlight _ => exact ⟨trivial, fun _ => closes_error⟩
  | replayed result _ =>
      refine ⟨trivial, fun _ => ?_⟩
      rintro _ ⟨⟩
      rfl
  | owned _ ho => exact ⟨trivial, fun _ => ho.settling⟩

end Accepted

/-- A checkout returns only what it has settled. -/
def Outcome.HasSettled (out : Outcome) (f : Settling) : Prop :=
  ∀ request r, out = .checkout request r → Closes r f

theorem Call.prog_settles (runner : Runner) (call : Call) :
    (call.prog runner).Follows settlingMonitor Outcome.HasSettled .open := by
  cases call with
  | checkout request =>
      refine follows_bind.mpr (Follows.mono (fun r f hf => ?_)
        (Follows.of_trace fun tr r h => (executeCheckout_trace h).settling))
      rintro _ _ ⟨⟩
      exact hf
  | cart command cartId =>
      refine follows_bind.mpr (Follows.of_trace fun tr r h => ?_)
      refine settling_idle (fun e he => Op.carts_not_outcomes (dispatchCartCommand_carts h e he)) ?_
      exact fun _ _ he => nomatch he

/-! ## Where the calls stand -/

/-- A lifecycle request, and whether the provider has been asked. -/
structure PayTask where
  action : PaymentAction
  request : PaymentLifecycleRequest
  asked : Bool

/-- A cart command or a checkout, or a lifecycle request. -/
abbrev Clerk := (Paperwork × Settling) ⊕ PayTask

/-- Each call keeps to its own; a lifecycle request is recorded once the provider has
been asked. -/
def clerkMonitor : Monitor PayOp.Ans Clerk where
  allow
    | .run o, .inl s => (paperMonitor.prod settlingMonitor).allow o s
    | .run (.putPaymentState transactionId state), .inr task =>
        task.asked = true ∧ transactionId = task.request.transactionId ∧ state = task.action.state
    | .provider action request, .inr task => action = task.action ∧ request = task.request
    | _, _ => False
  next
    | .run o, .inl s, x => .inl ((paperMonitor.prod settlingMonitor).next o s x)
    | .provider _ _, .inr task, _ => .inr { task with asked := true }
    | _, s, _ => s

/-- Where a call stands before its first operation. -/
def PayCall.clerk : PayCall → Clerk
  | .session call => .inl (⟨call, [], [], none⟩, .open)
  | .lifecycle action request => .inr ⟨action, request, false⟩

/-- A checkout among the calls returns only what it has settled. -/
def PayOutcome.Returns (out : PayOutcome) (s : Clerk) : Prop :=
  ∀ request r, out = .session (.checkout request r) → ∃ p f, s = .inl (p, f) ∧ Closes r f

theorem lifecycle_clerks (action : PaymentAction) (request : PaymentLifecycleRequest) :
    (lifecycle action request).run.Follows clerkMonitor (fun _ _ => True)
      (.inr ⟨action, request, false⟩) := by
  refine ⟨⟨rfl, rfl⟩, fun x _ => ?_⟩
  cases x with
  | error e => trivial
  | ok r =>
      show Follows _ _ (ExceptT.run (if r.success then _ else _)) _
      split
      · exact ⟨⟨rfl, rfl, rfl⟩, fun _ _ => trivial⟩
      · trivial

/-- **Every call follows the monitor.** -/
theorem PayCall.prog_clerks (runner : Runner) (call : PayCall) :
    (call.prog runner).Follows clerkMonitor PayOutcome.Returns call.clerk := by
  cases call with
  | lifecycle action request =>
      refine follows_bind.mpr ?_
      rw [PaymentAction.method_eq]
      exact (lifecycle_clerks action request).mono fun _ _ _ _ _ he => nomatch he
  | session call =>
      have hrun (o : Op) (s : Paperwork × Settling)
          (ho : (paperMonitor.prod settlingMonitor).allow o s) :
          (perform (PayOp.run o)).Follows clerkMonitor
            (fun x s' => (paperMonitor.prod settlingMonitor).rely o s x ∧
              s' = .inl ((paperMonitor.prod settlingMonitor).next o s x)) (.inl s) :=
        ⟨ho, fun _ _ => ⟨⟨trivial, trivial⟩, rfl⟩⟩
      refine follows_bind.mpr (Follows.mono (fun out s hs => ?_) (Follows.lower Sum.inl hrun
        ((Call.prog_files runner call).prod (Call.prog_settles runner call))))
      obtain ⟨⟨p, f⟩, rfl, -, hreturns⟩ := hs
      rintro request r ⟨⟩
      exact ⟨p, f, rfl, hreturns request r rfl⟩

abbrev Clerks := Nat → Clerk

/-- The paperwork of a call that has any. -/
def desk : Clerk → Paperwork ⊕ Holding
  | .inl s => .inl s.1
  | .inr _ => .inr .done

/-- Some checkout has drawn the transaction itself, and `P` holds of how far it has got. -/
def Carried (P : Settling → Prop) (φ : Clerks) (transactionId : String) : Prop :=
  ∃ t p f, φ t = .inl (p, f) ∧ transactionId ∈ p.transactions ∧ P f

/-- The outcome is on show. -/
def OnShow (f : Settling) : Prop := f ≠ .open

/-- There is no capture left to record. -/
def Recorded (transactionId : String) (f : Settling) : Prop :=
  f ≠ .open ∧ ∀ result, f = .pending result → result.transactionId = transactionId →
    result.paymentState ≠ .captured

/-- What stays true of an outcome once it is on show. -/
structure Lasting (P : Settling → Prop) : Prop where
  shown : ∀ f, P f → f ≠ .open
  done : ∀ f r, P f → P (.done r)

theorem lasting_onShow : Lasting OnShow where
  shown _ h := h
  done _ _ _ := Settling.noConfusion

theorem lasting_recorded (transactionId : String) : Lasting (Recorded transactionId) where
  shown _ h := h.1
  done _ _ _ := ⟨Settling.noConfusion, fun _ he => nomatch he⟩

section Clerks

variable {env : PayEnv} {w : World} {φ : Clerks} {t t' : Nat} {o : PayOp}

theorem clerk_after {s s' : Clerk} (h : Function.update φ t s t' = s') :
    t' = t ∧ s = s' ∨ t' ≠ t ∧ φ t' = s' := by
  by_cases ht : t' = t
  · subst ht
    rw [Function.update_self] at h
    exact Or.inl ⟨rfl, h⟩
  · rw [Function.update_of_ne ht] at h
    exact Or.inr ⟨ht, h⟩

/-- An outcome on show stays as it is until it is recorded. -/
theorem settlingMonitor_leads {o : Op} {f : Settling} (ho : settlingMonitor.allow o f)
    (hf : f ≠ .open) (x : o.Ans) :
    settlingMonitor.next o f x = f ∨ ∃ r, settlingMonitor.next o f x = .done r := by
  cases hout : o.outcomes with
  | false => exact Or.inl (settlingMonitor_idle hout).2
  | true =>
      cases o with
      | claim key =>
          rcases x with e | _ | _ | result
          · exact Or.inl rfl
          · exact Or.inl rfl
          · exact Or.inl rfl
          · exact Or.inr ⟨_, rfl⟩
      | complete key result => exact absurd ho hf
      | putPaymentState id state =>
          obtain ⟨result, rfl, -⟩ := ho
          exact Or.inr ⟨_, rfl⟩
      | _ => exact absurd hout Bool.false_ne_true

/-- Who is done stays done. -/
theorem settlingMonitor_stays {o : Op} {r : Option TransactionResult}
    (ho : settlingMonitor.allow o (.done r)) (x : o.Ans) :
    ∃ r', settlingMonitor.next o (.done r) x = .done r' := by
  rcases settlingMonitor_leads ho Settling.noConfusion x with hsame | hdone
  · exact ⟨r, hsame⟩
  · exact hdone

theorem settlingMonitor_done {o : Op} {f : Settling} {x : o.Ans} {result : TransactionResult}
    (ho : settlingMonitor.allow o f) (h : settlingMonitor.next o f x = .done (some result)) :
    f = .done (some result) ∨ f = .pending result ∨
      ∃ key, (⟨o, x⟩ : Event Op.Ans) = ⟨.claim key, .ok (some (.completed result))⟩ := by
  cases hout : o.outcomes with
  | false => exact Or.inl ((settlingMonitor_idle hout).2.symm.trans h)
  | true =>
      cases o with
      | claim key =>
          rcases x with e | _ | _ | r
          · exact Or.inl h
          · exact Or.inl h
          · exact Or.inl h
          · obtain rfl := Option.some.inj (Settling.done.inj h)
            exact Or.inr (Or.inr ⟨key, rfl⟩)
      | complete key r => cases x <;> cases h
      | putPaymentState id state =>
          obtain ⟨r, rfl, -⟩ := ho
          obtain rfl := Option.some.inj (Settling.done.inj h)
          exact Or.inr (Or.inl rfl)
      | _ => exact absurd hout Bool.false_ne_true

theorem settlingMonitor_pending {o : Op} {f : Settling} {x : o.Ans} {result : TransactionResult}
    (h : settlingMonitor.next o f x = .pending result) :
    f = .pending result ∨ ∃ key, (⟨o, x⟩ : Event Op.Ans) = ⟨.complete key result, .ok ()⟩ := by
  cases hout : o.outcomes with
  | false => exact Or.inl ((settlingMonitor_idle hout).2.symm.trans h)
  | true =>
      cases o with
      | claim key =>
          rcases x with e | _ | _ | r
          · exact Or.inl h
          · exact Or.inl h
          · exact Or.inl h
          · cases h
      | complete key r =>
          cases x with
          | error e => cases h
          | ok _ =>
              obtain rfl := Settling.pending.inj h
              exact Or.inr ⟨key, rfl⟩
      | putPaymentState id state => cases f <;> cases h
      | _ => exact absurd hout Bool.false_ne_true

/-- A call that has paperwork after an operation had it before. -/
theorem clerk_inl {s : Clerk} {x : o.Ans} {p : Paperwork × Settling}
    (ho : clerkMonitor.allow o s) (h : clerkMonitor.next o s x = .inl p) :
    ∃ (o' : Op) (x' : o'.Ans) (q : Paperwork) (f : Settling),
      (⟨o, x⟩ : Event PayOp.Ans) = ⟨.run o', x'⟩ ∧ s = .inl (q, f) ∧
      (paperMonitor.allow o' q ∧ settlingMonitor.allow o' f) ∧
      p = (paperMonitor.next o' q x', settlingMonitor.next o' f x') := by
  cases s with
  | inr task => cases o <;> cases h
  | inl s =>
      cases o with
      | provider _ _ => exact absurd ho id
      | run o' => exact ⟨o', x, s.1, s.2, rfl, rfl, ho, (Sum.inl.inj h).symm⟩

/-- What lasts of a transaction on show is kept by every allowed operation. -/
theorem Carried.step {P : Settling → Prop} {transactionId : String} (h : Carried P φ transactionId)
    (hP : Lasting P) (ho : clerkMonitor.allow o (φ t)) (x : o.Ans) :
    Carried P (Function.update φ t (clerkMonitor.next o (φ t) x)) transactionId := by
  obtain ⟨t', p, f, ht', htxn, hf⟩ := h
  by_cases htt : t' = t
  · subst htt
    rw [ht'] at ho ⊢
    cases o with
    | provider _ _ => exact absurd ho id
    | run o =>
        refine ⟨t', _, _, Function.update_self .., ?_, ?_⟩
        · exact (paperMonitor_grows x ho.1).transactions htxn
        · show P (settlingMonitor.next o f x)
          rcases settlingMonitor_leads ho.2 (hP.shown f hf) x with hsame | ⟨r, hdone⟩
          · rw [hsame]
            exact hf
          · rw [hdone]
            exact hP.done f r hf
  · exact ⟨t', p, f, (Function.update_of_ne htt _ _).trans ht', htxn, hf⟩

end Clerks

/-! ## What the log tells -/

theorem mem_filterMap_concat {α β : Type} {f : α → Option β} {l : List α} {a : α} {b : β} :
    b ∈ (l ++ [a]).filterMap f ↔ b ∈ l.filterMap f ∨ f a = some b := by
  rw [List.filterMap_append, List.mem_append]
  refine or_congr_right ?_
  cases hf : f a <;> simp [hf, eq_comm]

theorem filterMap_concat_none {α β : Type} {f : α → Option β} {l : List α} {a : α}
    (h : f a = none) : (l ++ [a]).filterMap f = l.filterMap f := by
  rw [List.filterMap_append, List.filterMap_cons_none h, List.filterMap_nil, List.append_nil]

theorem pairwise_filterMap_concat {α β : Type} {R : β → β → Prop} {f : α → Option β} {l : List α}
    {a : α} (hl : (l.filterMap f).Pairwise R)
    (ha : ∀ b', f a = some b' → ∀ b ∈ l.filterMap f, R b b') :
    ((l ++ [a]).filterMap f).Pairwise R := by
  cases hf : f a with
  | none =>
      rw [filterMap_concat_none hf]
      exact hl
  | some b' =>
      rw [List.filterMap_append, List.filterMap_cons_some hf, List.filterMap_nil]
      refine List.pairwise_append.mpr ⟨hl, List.pairwise_singleton _ _, fun b hb c hc => ?_⟩
      obtain rfl := List.mem_singleton.mp hc
      exact ha c hf b hb

/-- The transactions of the checkouts are their own; what can be read or was returned is on
show; a checkout with a record to make has settled and made none; and what is recorded as
taken back has no capture left to record. -/
structure Ledger (calls : List PayCall) (w : World) (φ : Clerks) (log : List PayEntry) :
    Prop where
  checkouts : ∀ t, (threadPayCall calls t).checksOut = true → ∃ s, φ t = .inl s
  transactions : Separate Paperwork.transactions (Drawn "txn_" w) (desk ∘ φ)
  completed : ∀ key result, w.idempotency.lookup key = some (.completed result) →
    Carried OnShow φ result.transactionId
  shown : ∀ t p result, φ t = .inl (p, .done (some result)) →
    Carried OnShow φ result.transactionId
  pending : ∀ t p result, φ t = .inl (p, .pending result) →
    result.transactionId ∈ p.transactions ∧
      (result.paymentState = .captured →
        (t, result.transactionId) ∈ log.filterMap settledTransaction)
  unrecorded : ∀ t p f, φ t = .inl (p, f) → (∀ r, f ≠ .done r) →
    ∀ id, (t, id) ∉ log.filterMap recordedTransaction
  asked : ∀ t task, φ t = .inr task → task.asked = true → task.action ≠ .capture →
    Carried OnShow φ task.request.transactionId
  returned : ∀ id ∈ log.filterMap returnedTransaction, Carried OnShow φ id
  takenBack : ∀ r ∈ log.filterMap storedState, r.takesBack →
    Carried (Recorded r.transactionId) φ r.transactionId
  undone : NeverUndone calls log

section Ledger

variable {env : PayEnv} {calls : List PayCall} {w : World} {φ : Clerks} {log : List PayEntry}
  {t : Nat}

theorem Ledger.start (calls : List PayCall) :
    Ledger calls World.empty (fun t => (threadPayCall calls t).clerk) [] := by
  have hinl {t : Nat} {p : Paperwork} {f : Settling}
      (h : (threadPayCall calls t).clerk = .inl (p, f)) : p.transactions = [] ∧ f = .open := by
    unfold PayCall.clerk at h
    split at h
    · cases h
      exact ⟨rfl, rfl⟩
    · cases h
  have hdesk {t : Nat} {p : Paperwork} (h : desk (threadPayCall calls t).clerk = .inl p) :
      p.transactions = [] := by
    unfold desk at h
    split at h
    · next s hs =>
        cases h
        exact (hinl hs).1
    · cases h
  constructor
  · intro t ht
    cases hcall : threadPayCall calls t with
    | session call => exact ⟨_, rfl⟩
    | lifecycle action request =>
        rw [hcall] at ht
        cases ht
  · constructor
    · intro t p ht id hid
      rw [hdesk ht] at hid
      cases hid
    · intro t t' p p' id ht _ hid
      rw [hdesk ht] at hid
      cases hid
  · intro key result h
    cases h
  · intro t p result h
    cases (hinl h).2
  · intro t p result h
    cases (hinl h).2
  · intro t p f _ _ id h
    cases h
  · intro t task h hasked
    unfold PayCall.clerk at h
    split at h <;> cases h
    cases hasked
  · intro id h
    cases h
  · intro r h
    cases h
  · exact List.Pairwise.nil

/-- What a thread with paperwork draws, as the separation sees it. -/
theorem desk_inl {p : Paperwork} {f : Settling} (h : φ t = .inl (p, f)) :
    (desk ∘ φ) t = .inl p :=
  congrArg desk h

theorem Ledger.own (h : Ledger calls w φ log) {t' : Nat} {p p' : Paperwork} {f f' : Settling}
    {id : String} (ht : φ t = .inl (p, f)) (ht' : φ t' = .inl (p', f'))
    (hid : id ∈ p.transactions) (hid' : id ∈ p'.transactions) : t = t' :=
  h.transactions.apart t t' p p' id (desk_inl ht) (desk_inl ht') hid hid'

/-- No two checkouts come to share a transaction. -/
theorem Ledger.separate {o : PayOp} (h : Ledger calls w φ log) (ho : clerkMonitor.allow o (φ t)) :
    Separate Paperwork.transactions (Drawn "txn_" (env.handle o w).2)
      (desk ∘ Function.update φ t (clerkMonitor.next o (φ t) (env.handle o w).1)) := by
  rw [Function.comp_update]
  cases ht : φ t with
  | inl s =>
      rw [ht] at ho
      cases o with
      | provider _ _ => exact absurd ho id
      | run o =>
          refine h.transactions.add (desk_inl ht) (fun id => paperMonitor_transactions)
            (fun id => Drawn.step) (not_drawn le_rfl) ⟨w.clock, ?_, rfl⟩
          show w.clock < (env.toEnv.handle o w).2.clock
          rw [Env.handle_clock]
          exact Nat.lt_succ_self _
  | inr task =>
      have hclock : w.clock ≤ (env.handle o w).2.clock := by
        cases o with
        | provider _ _ => exact Nat.le_succ _
        | run o =>
            show w.clock ≤ (env.toEnv.handle o w).2.clock
            rw [Env.handle_clock]
            exact Nat.le_succ _
      cases o <;> exact h.transactions.mono fun id hid => hid.mono hclock

/-- A key holds what a checkout has settled on. -/
theorem Ledger.completed_after {o : PayOp} (h : Ledger calls w φ log)
    (ho : clerkMonitor.allow o (φ t)) {key : IdempotencyKey} {result : TransactionResult}
    (hkey : (env.handle o w).2.idempotency.lookup key = some (.completed result)) :
    Carried OnShow (Function.update φ t (clerkMonitor.next o (φ t) (env.handle o w).1))
      result.transactionId := by
  have hold (hkey : w.idempotency.lookup key = some (.completed result)) :=
    (h.completed key result hkey).step lasting_onShow ho (env.handle o w).1
  cases o with
  | provider action request => exact hold hkey
  | run o =>
      have hs := env.toEnv.handle_keyStep key o w
      rw [show (env.toEnv.handle o w).2.idempotency.lookup key = _ from hkey] at hs
      rcases hs.completed_cases with hkey | ⟨x, he⟩
      · exact hold hkey
      · obtain ⟨rfl, -⟩ := Sigma.mk.inj_iff.mp he
        cases ht : φ t with
        | inr task =>
            rw [ht] at ho
            exact absurd ho id
        | inl s =>
            rw [ht] at ho
            refine ⟨t, _, _, Function.update_self .., ?_, ?_⟩
            · exact (ho.1.owns.grown (paperMonitor_grows _ ho.1)).transaction
            · show settlingMonitor.next (.complete key result) s.2 _ ≠ .open
              cases (env.handle (.run (.complete key result)) w).1 <;> exact Settling.noConfusion

/-- What a checkout can return is on show. -/
theorem Ledger.shown_after {o : PayOp} (h : Ledger calls w φ log) (ho : clerkMonitor.allow o (φ t))
    {t' : Nat} {p : Paperwork} {result : TransactionResult}
    (ht' : Function.update φ t (clerkMonitor.next o (φ t) (env.handle o w).1) t' =
      .inl (p, .done (some result))) :
    Carried OnShow (Function.update φ t (clerkMonitor.next o (φ t) (env.handle o w).1))
      result.transactionId := by
  refine Carried.step ?_ lasting_onShow ho _
  rcases clerk_after ht' with ⟨rfl, hs⟩ | ⟨-, ht'⟩
  · obtain ⟨o, x, q, f, he, ht, hallow, hnext⟩ := clerk_inl ho hs
    obtain ⟨rfl, hx⟩ := Sigma.mk.inj_iff.mp he
    obtain rfl := eq_of_heq hx
    rcases settlingMonitor_done hallow.2 (Prod.mk.inj hnext).2.symm with hf | hf | ⟨key, he⟩
    · exact h.shown t' q result (hf ▸ ht)
    · subst hf
      exact ⟨t', q, _, ht, (h.pending t' q result ht).1, Settling.noConfusion⟩
    · obtain ⟨rfl, hx⟩ := Sigma.mk.inj_iff.mp he
      exact h.completed key result (Env.handle_claim_ok (eq_of_heq hx))
  · exact h.shown t' p result ht'

/-- A checkout with a record to make has settled on its own transaction. -/
theorem Ledger.pending_after {o : PayOp} (h : Ledger calls w φ log)
    (ho : clerkMonitor.allow o (φ t)) {t' : Nat} {p : Paperwork} {result : TransactionResult}
    (ht' : Function.update φ t (clerkMonitor.next o (φ t) (env.handle o w).1) t' =
      .inl (p, .pending result)) :
    result.transactionId ∈ p.transactions ∧
      (result.paymentState = .captured → (t', result.transactionId) ∈
        List.filterMap settledTransaction (log ++ [.did t ⟨o, (env.handle o w).1⟩])) := by
  rcases clerk_after ht' with ⟨rfl, hs⟩ | ⟨-, ht'⟩
  · obtain ⟨o, x, q, f, he, ht, hallow, hnext⟩ := clerk_inl ho hs
    obtain ⟨rfl, hx⟩ := Sigma.mk.inj_iff.mp he
    obtain rfl := eq_of_heq hx
    obtain ⟨rfl, hf⟩ := Prod.mk.inj hnext
    have hgrows := paperMonitor_grows (env.toEnv.handle o w).1 hallow.1
    rcases settlingMonitor_pending hf.symm with hf | ⟨key, he⟩
    · subst hf
      obtain ⟨hid, hlog⟩ := h.pending t' q result ht
      exact ⟨hgrows.transactions hid, fun hcap => mem_filterMap_concat.mpr (Or.inl (hlog hcap))⟩
    · obtain ⟨rfl, hx⟩ := Sigma.mk.inj_iff.mp he
      refine ⟨hgrows.transactions hallow.1.owns.transaction, fun hcap => ?_⟩
      refine mem_filterMap_concat.mpr (Or.inr ?_)
      show settledTransaction (.did t' ⟨.run (.complete key result), _⟩) = _
      rw [show (env.handle (.run (.complete key result)) w).1 = .ok () from eq_of_heq hx]
      exact if_pos hcap
  · obtain ⟨hid, hlog⟩ := h.pending t' p result ht'
    exact ⟨hid, fun hcap => mem_filterMap_concat.mpr (Or.inl (hlog hcap))⟩

/-- Who has a record to make has made none. -/
theorem Ledger.unrecorded_after {o : PayOp} (h : Ledger calls w φ log)
    (ho : clerkMonitor.allow o (φ t)) {t' : Nat} {p : Paperwork} {f : Settling}
    (ht' : Function.update φ t (clerkMonitor.next o (φ t) (env.handle o w).1) t' = .inl (p, f))
    (hf : ∀ r, f ≠ .done r) (id : String) :
    (t', id) ∉
      List.filterMap recordedTransaction (log ++ [.did t ⟨o, (env.handle o w).1⟩]) := by
  intro hm
  rcases clerk_after ht' with ⟨rfl, hs⟩ | ⟨hne, ht'⟩
  · obtain ⟨o, x, q, f', he, ht, hallow, hnext⟩ := clerk_inl ho hs
    obtain ⟨rfl, hx⟩ := Sigma.mk.inj_iff.mp he
    obtain rfl := eq_of_heq hx
    obtain ⟨rfl, rfl⟩ := Prod.mk.inj hnext
    rcases mem_filterMap_concat.mp hm with hm | hm
    · refine h.unrecorded t' q f' ht (fun r hr => ?_) id hm
      subst hr
      obtain ⟨r', hr'⟩ := settlingMonitor_stays hallow.2 (env.toEnv.handle o w).1
      exact hf r' hr'
    · -- to make the record is to be done
      cases o with
      | putPaymentState id state =>
          obtain ⟨result, rfl, -⟩ := hallow.2
          exact hf _ rfl
      | _ => cases hm
  · rcases mem_filterMap_concat.mp hm with hm | hm
    · exact h.unrecorded t' p f ht' hf id hm
    · refine hne ?_
      unfold recordedTransaction at hm
      split at hm
      · next he =>
          obtain ⟨rfl, -⟩ := Entry.did.inj he
          exact ((Prod.mk.inj (Option.some.inj hm)).1).symm
      · cases hm

/-- A void or refund that the provider has been asked for is of a transaction on show. -/
theorem Ledger.asked_after {o : PayOp} (h : Ledger calls w φ log)
    (ho : clerkMonitor.allow o (φ t)) (hof : OfReturned t o w log) {t' : Nat} {task : PayTask}
    (ht' : Function.update φ t (clerkMonitor.next o (φ t) (env.handle o w).1) t' = .inr task)
    (hasked : task.asked = true) (haction : task.action ≠ .capture) :
    Carried OnShow (Function.update φ t (clerkMonitor.next o (φ t) (env.handle o w).1))
      task.request.transactionId := by
  refine Carried.step ?_ lasting_onShow ho _
  rcases clerk_after ht' with ⟨rfl, hs⟩ | ⟨-, ht'⟩
  · cases ht : φ t' with
    | inl s =>
        rw [ht] at hs ho
        cases o with
        | provider _ _ => exact absurd ho id
        | run o => cases hs
    | inr task' =>
        rw [ht] at hs ho
        cases o with
        | run o =>
            cases hs
            exact h.asked t' _ ht hasked haction
        | provider action request =>
            cases hs
            obtain ⟨rfl, rfl⟩ := ho
            refine h.returned _ ?_
            unfold OfReturned at hof
            split at hof
            · next he => exact absurd (PayOp.provider.inj he).1 haction
            · next he =>
                obtain ⟨-, rfl⟩ := PayOp.provider.inj he
                exact hof
            · next he => cases he
  · exact h.asked t' task ht' hasked haction

/-- What a transaction is recorded to be is told by the record's own entry. -/
theorem storedState_did {o : PayOp} {x : o.Ans} {r : StateRecord}
    (h : storedState (.did t ⟨o, x⟩) = some r) :
    r.thread = t ∧ o = .run (.putPaymentState r.transactionId r.state) := by
  unfold storedState at h
  split at h
  · next he =>
      obtain ⟨rfl, hev⟩ := Entry.did.inj he
      obtain ⟨rfl, -⟩ := Sigma.mk.inj_iff.mp hev
      split at h
      · cases h
        exact ⟨rfl, rfl⟩
      · cases h
  · cases h

/-- A transaction that is taken back now has no capture left to record. -/
theorem Ledger.takes_back {r : StateRecord} (h : Ledger calls w φ log)
    (ho : clerkMonitor.allow (.run (.putPaymentState r.transactionId r.state)) (φ t))
    (hfirst : RecordedFirst t (.run (.putPaymentState r.transactionId r.state)) w log)
    (hback : r.takesBack) (x : Except StoreError Unit) :
    Carried (Recorded r.transactionId)
      (Function.update φ t
        (clerkMonitor.next (.run (.putPaymentState r.transactionId r.state)) (φ t) x))
      r.transactionId := by
  rcases hs : φ t with ⟨p, f⟩ | task
  · -- a checkout that records is done
    rw [hs] at ho
    obtain ⟨result, rfl, hid, -⟩ := ho.2
    refine ⟨t, p, .done (some result), Function.update_self .., ?_, Settling.noConfusion,
      fun _ he => nomatch he⟩
    rw [hid]
    exact (h.pending t p result hs).1
  · rw [← hs]
    refine Carried.step ?_ (lasting_recorded _) ho x
    rw [hs] at ho
    obtain ⟨hasked, hid, hstate⟩ := ho
    have haction : task.action ≠ .capture := by
      intro hcap
      rw [hcap] at hstate
      rcases hback with hb | hb <;> exact PaymentState.noConfusion (hb.symm.trans hstate)
    have hshow := h.asked t task hs hasked haction
    rw [← hid] at hshow
    obtain ⟨t', p, f, ht', hown, hf⟩ := hshow
    refine ⟨t', p, f, ht', hown, hf, ?_⟩
    rintro result rfl hres hcap
    have hpending : RecordPending log r.transactionId :=
      ⟨(t', result.transactionId), (h.pending t' p result ht').2 hcap, hres,
        h.unrecorded t' p _ ht' (fun _ => Settling.noConfusion) _⟩
    unfold RecordedFirst at hfirst
    rcases hback with hb | hb
    · rw [hb] at hfirst
      exact hfirst hpending
    · rw [hb] at hfirst
      exact hfirst hpending

/-- A capture that a checkout records now has not been taken back. -/
theorem Ledger.undoes_nothing {r r' : StateRecord} (h : Ledger calls w φ log)
    (ho : clerkMonitor.allow (.run (.putPaymentState r'.transactionId r'.state)) (φ r'.thread))
    (hr : r ∈ log.filterMap storedState) : ¬ Undoes calls r r' := by
  rintro ⟨hid, hback, hcap, hout⟩
  obtain ⟨⟨p, f⟩, ht⟩ := h.checkouts _ hout
  rw [ht] at ho
  obtain ⟨result, rfl, hres, hstate⟩ := ho.2
  obtain ⟨t', p', f', ht', hown, -, hrecorded⟩ := h.takenBack r hr hback
  have hmine := (h.pending _ p result ht).1
  rw [← hres, ← hid] at hmine
  obtain rfl := h.own ht ht' hmine hown
  obtain ⟨rfl, rfl⟩ := Prod.mk.inj (Sum.inl.inj (ht.symm.trans ht'))
  exact hrecorded result rfl (hid.trans hres).symm (hstate.symm.trans hcap)

/-- **One allowed operation of one call.** -/
theorem Ledger.did {o : PayOp} (h : Ledger calls w φ log) (ho : clerkMonitor.allow o (φ t))
    (hof : OfReturned t o w log) (hfirst : RecordedFirst t o w log) :
    Ledger calls (env.handle o w).2
      (Function.update φ t (clerkMonitor.next o (φ t) (env.handle o w).1))
      (log ++ [.did t ⟨o, (env.handle o w).1⟩]) where
  checkouts t' ht' := by
    obtain ⟨s, hs⟩ := h.checkouts t' ht'
    by_cases htt : t' = t
    · subst htt
      rw [Function.update_self]
      rw [hs] at ho ⊢
      cases o with
      | run o => exact ⟨_, rfl⟩
      | provider _ _ => exact absurd ho id
    · exact ⟨s, (Function.update_of_ne htt _ _).trans hs⟩
  transactions := h.separate ho
  completed _ _ := h.completed_after ho
  shown _ _ _ := h.shown_after ho
  pending _ _ _ := h.pending_after ho
  unrecorded _ _ _ := h.unrecorded_after ho
  asked _ _ := h.asked_after ho hof
  returned id hid := by
    rcases mem_filterMap_concat.mp hid with hid | hid
    · exact (h.returned id hid).step lasting_onShow ho _
    · cases hid
  takenBack r hr hback := by
    rcases mem_filterMap_concat.mp hr with hr | hr
    · exact (h.takenBack r hr hback).step (lasting_recorded _) ho _
    · obtain ⟨-, rfl⟩ := storedState_did hr
      exact h.takes_back ho hfirst hback _
  undone := by
    refine pairwise_filterMap_concat h.undone fun r' hr' r hr => ?_
    obtain ⟨hthread, rfl⟩ := storedState_did hr'
    exact h.undoes_nothing (hthread ▸ ho) hr

theorem Ledger.returns {out : PayOutcome} (h : Ledger calls w φ log) (hout : out.Returns (φ t)) :
    Ledger calls w φ (log ++ [.returned t out]) := by
  constructor
  · exact h.checkouts
  · exact h.transactions
  · exact h.completed
  · exact h.shown
  · rw [filterMap_concat_none rfl]
    exact h.pending
  · rw [filterMap_concat_none rfl]
    exact h.unrecorded
  · exact h.asked
  · intro id hid
    rcases mem_filterMap_concat.mp hid with hold | hnew
    · exact h.returned id hold
    · unfold returnedTransaction at hnew
      split at hnew
      · next he =>
          obtain ⟨-, rfl⟩ := Entry.returned.inj he
          obtain ⟨p, f, ht, hcloses⟩ := hout _ _ rfl
          rw [hcloses _ rfl] at ht
          cases hnew
          exact h.shown t p _ ht
      · cases hnew
  · rw [filterMap_concat_none rfl]
    exact h.takenBack
  · unfold NeverUndone
    rw [filterMap_concat_none rfl]
    exact h.undone

end Ledger

/-- **Records of transactions.**  In every run of calls in which voids and refunds are of
transactions that a checkout has returned, and none is recorded while the transaction's
checkout has still to record its capture, no checkout records a capture over a recorded void
or refund. -/
theorem checkout_undoes_nothing (env : PayEnv) (runner : Runner) (calls : List PayCall)
    (ts : List Nat)
    (hof : Pool.StepsMeetAt OfReturned env.handle.shared ts
      (Pool.start World.empty (calls.map (·.prog runner))))
    (hfirst : Pool.StepsMeetAt RecordedFirst env.handle.shared ts
      (Pool.start World.empty (calls.map (·.prog runner)))) :
    NeverUndone calls (payAtOnce env runner calls ts World.empty).log := by
  have hstart : Pool.AllFollow clerkMonitor (fun _ => PayOutcome.Returns)
      (fun t => (threadPayCall calls t).clerk)
      (Pool.start World.empty (calls.map (·.prog runner))) := by
    intro t p hp
    rw [Pool.start, List.getElem?_map] at hp
    obtain ⟨call, hcall, rfl⟩ := Option.map_eq_some_iff.mp hp
    show Follows _ _ _ (threadPayCall calls t).clerk
    rw [threadPayCall_of_call hcall]
    exact call.prog_clerks runner
  obtain ⟨φ, h, -⟩ := Pool.run_invariant_at (I := Ledger calls)
    (by
      intro w φ log t o x w' h ho hc hx
      obtain ⟨rfl, rfl⟩ := Handler.shared_eq_some.mp hx
      have hdid : Ledger calls (env.handle o w).2 _ _ := h.did ho hc.1 hc.2
      refine ⟨trivial, hdid, fun out hout => ?_⟩
      rw [List.append_cons]
      refine hdid.returns ?_
      rwa [Function.update_self])
    ts (Ledger.start calls) hstart (hof.and hfirst)
  exact h.undone

/-! ## A refund between the key and the record -/

namespace Sample

/-- The cart is checked out, the same checkout is sent once more, and the transaction it
returns is refunded. -/
def refunded : List PayCall :=
  shopping.map .session ++
    [.session (.checkout (request "k")), .session (.checkout (request "k")),
      .lifecycle .refund ⟨"t", "m", "txn_31", 100, "r"⟩]

/-- The checkout is left as soon as its key is settled, and ends after the refund. -/
def refundedBetween : List Nat :=
  inTurn shopping ++ List.replicate 21 2 ++ [3, 4, 4, 2]

/-- The checkout ends before it is sent once more. -/
def refundedAfter : List Nat :=
  inTurn shopping ++ List.replicate 22 2 ++ [3, 4, 4]

end Sample

/-- Refunded after the checkout has ended, the transaction stays refunded. -/
theorem checkout_undoes_nothing_sample :
    NeverUndone Sample.refunded
      (payAtOnce PayEnv.agreeable Sample.runner Sample.refunded Sample.refundedAfter
        World.empty).log ∧
    (payAtOnce PayEnv.agreeable Sample.runner Sample.refunded Sample.refundedAfter
      World.empty).world.paymentStates.lookup "txn_31" = some .refunded :=
  ⟨checkout_undoes_nothing _ _ _ _ (by decide +kernel) (by decide +kernel), by decide +kernel⟩

/-- Refunded between the key and the record, the transaction is recorded as captured. -/
theorem refund_undone :
    ¬ ∀ (env : PayEnv) (runner : Runner) (calls : List PayCall) (ts : List Nat),
      Pool.StepsMeetAt OfReturned env.handle.shared ts
        (Pool.start World.empty (calls.map (·.prog runner))) →
      NeverUndone calls (payAtOnce env runner calls ts World.empty).log := by
  intro h
  have hundone := h PayEnv.agreeable Sample.runner Sample.refunded Sample.refundedBetween
    (by decide +kernel)
  revert hundone
  decide +kernel

end Orchestrator
