/-
# `CommerceOrchestrator.Api.Facade` — cart commands on behalf of a tenant

The facade checks who owns a cart before it hands a command to the runner.  It
checks the cart of the `cart_id` argument if there is one; the runner works on
the cart in the payload if there is one.  `dispatchCartCommandForTenant_isolates`
says when that isolates tenants: when the payload's cart is not another tenant's,
or the call is refused on account of its argument, or does not validate.
-/
import CommerceOrchestrator.Runtime.Ownership

namespace Orchestrator

open Effect Prog

/-! ## The facade -/

inductive AuthzError
  | missingScope (scope : String)
  | tenantMismatch
deriving DecidableEq, Repr

structure Ap2VerificationError where
  message : String
deriving DecidableEq, Repr

inductive FacadeError
  | runner (e : RunnerError)
  | authz (e : AuthzError)
  | ap2Verification (e : Ap2VerificationError)
deriving DecidableEq, Repr

/-- The cart a command addresses, for commands that carry the id in their payload. -/
def cartIdFromCommand : CartCommand → Option CartId
  | .getCart payload => some payload.cartId
  | .startCheckout payload => some payload.cartId
  | .cancelCart payload => some payload.cartId
  | _ => none

/-- Refuse to touch a cart owned by another tenant, or by none.  A missing cart
passes: the command itself reports it. -/
def assertCartBelongsTo (tenantId : String) (cartId : CartId) :
    ExceptT FacadeError Eff Unit := do
  match ← ask (.getCartSnapshot cartId) with
  | none => return
  | some cart =>
      if cart.tenantId = some tenantId then return else throw (.authz .tenantMismatch)

def dispatchCartCommandForTenant (runner : Runner) (tenantId : String) (cmd : CartCommand)
    (cartId : Option CartId) : ExceptT FacadeError Eff CartProjection := do
  let cmd := cmd.withTenant tenantId
  match cartId.or (cartIdFromCommand cmd) with
  | some target => assertCartBelongsTo tenantId target
  | none => pure ()
  ExceptT.adapt .runner (dispatchCartCommand runner cmd cartId)

/-- Answer and world of a call. -/
def Env.forTenant (env : Env) (runner : Runner) (tenantId : String) (cmd : CartCommand)
    (cartId : Option CartId) (w : World) : Except FacadeError CartProjection × World :=
  (dispatchCartCommandForTenant runner tenantId cmd cartId).run.run env.handle w

variable {env : Env} {runner : Runner} {w v : World} {t : String} {cmd : CartCommand}
  {cartId : Option CartId} {c : CartId}

/-- Answer and world of the command itself. -/
def Env.dispatched (env : Env) (runner : Runner) (tenantId : String) (cmd : CartCommand)
    (cartId : Option CartId) (w : World) : Except FacadeError CartProjection × World :=
  let done := (dispatchCartCommand runner (cmd.withTenant tenantId) cartId).run.run env.handle w
  (done.1.mapError .runner, done.2)

theorem cartIdFromCommand_withTenant :
    cartIdFromCommand (cmd.withTenant t) = cartIdFromCommand cmd := by
  cases cmd <;> rfl

theorem adapt_run {p : Run CartProjection} :
    (ExceptT.adapt FacadeError.runner p).run.run env.handle w =
      ((p.run.run env.handle w).1.mapError .runner, (p.run.run env.handle w).2) :=
  run_map

theorem forTenant_unchecked (ha : cartId.or (cartIdFromCommand cmd) = none) :
    env.forTenant runner t cmd cartId w = env.dispatched runner t cmd cartId w := by
  unfold Env.forTenant dispatchCartCommandForTenant
  dsimp only
  rw [cartIdFromCommand_withTenant, ha]
  exact adapt_run

/-- The check refuses the call on account of cart `a`. -/
def Refuses (env : Env) (t : String) (w : World) (a : CartId) : Prop :=
  ∃ cart, (env.handle (.getCartSnapshot a) w).1 = some cart ∧ cart.tenantId ≠ some t

/-- The check's verdict on the snapshot it read. -/
def ownership (t : String) : Option CartProjection → Except FacadeError Unit
  | some cart => if cart.tenantId = some t then .ok () else .error (.authz .tenantMismatch)
  | none => .ok ()

theorem assertCartBelongsTo_run (env : Env) (t : String) (w : World) (a : CartId) :
    (assertCartBelongsTo t a).run.run env.handle w =
      (ownership t (env.handle (.getCartSnapshot a) w).1, w.tick) := by
  unfold assertCartBelongsTo
  show Prog.run env.handle (Prog.op (.getCartSnapshot a) _) w = _
  rw [Prog.run]
  cases (env.handle (.getCartSnapshot a) w).1 with
  | none => rfl
  | some cart =>
      show Prog.run env.handle (ExceptT.run (if cart.tenantId = some t then pure ()
        else throw (FacadeError.authz .tenantMismatch))) w.tick = _
      dsimp only [ownership]
      by_cases hown : cart.tenantId = some t
      · rw [if_pos hown, if_pos hown]
        rfl
      · rw [if_neg hown, if_neg hown]
        rfl

theorem ownership_refused {x : Option CartProjection}
    (h : ∃ cart, x = some cart ∧ cart.tenantId ≠ some t) :
    ownership t x = .error (.authz .tenantMismatch) := by
  obtain ⟨cart, rfl, hno⟩ := h
  exact if_neg hno

theorem ownership_passed {x : Option CartProjection}
    (h : ¬ ∃ cart, x = some cart ∧ cart.tenantId ≠ some t) : ownership t x = .ok () := by
  cases x with
  | none => rfl
  | some cart => exact if_pos (not_not.mp fun hno => h ⟨cart, rfl, hno⟩)

theorem forTenant_refused {a : CartId} (ha : cartId.or (cartIdFromCommand cmd) = some a)
    (h : Refuses env t w a) :
    env.forTenant runner t cmd cartId w = (.error (.authz .tenantMismatch), w.tick) := by
  unfold Env.forTenant dispatchCartCommandForTenant
  dsimp only
  rw [cartIdFromCommand_withTenant, ha]
  dsimp only
  rw [ExceptT.run_bind, run_bind, assertCartBelongsTo_run, ownership_refused h]
  rfl

/-- A call that is not refused is the command itself, one read later. -/
theorem forTenant_passed {a : CartId} (ha : cartId.or (cartIdFromCommand cmd) = some a)
    (h : ¬ Refuses env t w a) :
    env.forTenant runner t cmd cartId w = env.dispatched runner t cmd cartId w.tick := by
  unfold Env.forTenant dispatchCartCommandForTenant
  dsimp only
  rw [cartIdFromCommand_withTenant, ha]
  dsimp only
  rw [ExceptT.run_bind, run_bind, assertCartBelongsTo_run, ownership_passed h]
  exact adapt_run

/-! ## Isolation -/

/-- The cart is stored with another tenant, or with none. -/
def Foreign (t : String) (w : World) (c : CartId) : Prop :=
  ∃ s, w.events.getCartSnapshot c = some s ∧ s.tenantId ≠ some t

/-- The event store of `w` but for what is filed under foreign carts. -/
structure SameButForeign (t : String) (w : World) (events : InMemoryEventStore) : Prop where
  own : ∀ c, ¬ Foreign t w c → events.record c = w.events.record c
  foreign : ∀ c, Foreign t w c → Foreign t { w with events } c

/-- What a call on behalf of a tenant should do: answer with its own carts only,
leave the records of foreign ones alone, and give the same answer whatever is
filed under them. -/
structure Isolated (env : Env) (runner : Runner) (t : String) (cmd : CartCommand)
    (cartId : Option CartId) (w : World) : Prop where
  own : ∀ s, (env.forTenant runner t cmd cartId w).1 = .ok s → s.tenantId = some t
  unchanged : ∀ c, Foreign t w c →
    (env.forTenant runner t cmd cartId w).2.events.record c = w.events.record c
  unread : ∀ events, SameButForeign t w events →
    (env.forTenant runner t cmd cartId { w with events }).1 =
      (env.forTenant runner t cmd cartId w).1

/-- The cart the command works on is not foreign, or the call is refused on account
of the cart that is checked, or the command does not validate. -/
def Guarded (env : Env) (t : String) (cmd : CartCommand) (cartId : Option CartId) (w : World) :
    Prop :=
  ∀ c, cmd.target cartId = some c → Foreign t w c →
    (∃ a, cartId.or (cartIdFromCommand cmd) = some a ∧ Refuses env t w a) ∨
      validateCartCommand (cmd.withTenant t) ≠ []

/-! ### Two runs side by side -/

/-- Two worlds during a call that started in `w₀`: the carts that were not foreign
have the same records, their own ids and the tenant `t`; the others are untouched. -/
structure Agree (t : String) (w₀ w v : World) : Prop where
  started : w₀.clock ≤ w.clock
  clock : v.clock = w.clock
  own : ∀ c, ¬ Foreign t w₀ c → v.events.record c = w.events.record c
  foreign : ∀ c, Foreign t w₀ c → w.events.record c = w₀.events.record c
  good : ∀ c s, ¬ Foreign t w₀ c → w.events.getCartSnapshot c = some s →
    s.cartId = c ∧ s.tenantId = some t

/-- The call works on carts that were not foreign, and files them under their own id. -/
abbrev ownCarts (t : String) (w₀ : World) : Monitor Op.Ans Unit :=
  cartMonitor (fun c => ¬ Foreign t w₀ c) fun c id tenant => id = c ∧ tenant = some t

section Agree

variable {w₀ : World} {o : Op} {q : Unit}

theorem ownCarts_writes (ho : (ownCarts t w₀).allow o q) : ∀ c ∈ o.writesTo, ¬ Foreign t w₀ c := by
  intro c hc
  cases o with
  | appendCartEvent c' event =>
      cases hc
      exact ho
  | setCartState c' state =>
      cases hc
      exact ho
  | putCartSnapshot s =>
      cases hc
      obtain ⟨c', hown, hid, -⟩ := ho
      exact hid ▸ hown
  | _ => cases hc

/-- A cart operation is answered from the clock and the record it reads. -/
theorem Agree.answer (h : Agree t w₀ w v) (ho : (ownCarts t w₀).allow o q) :
    (env.handle o v).1 = (env.handle o w).1 := by
  have hfault : env.fault v.clock o = env.fault w.clock o := by rw [h.clock]
  have hattempt {f g : World → Unit × World} :
      (v.attempt (env.fault v.clock o) f).1 = (w.attempt (env.fault w.clock o) g).1 := by
    rw [hfault]
    cases env.fault w.clock o <;> rfl
  cases o with
  | appendCartEvent | putCartSnapshot | setCartState => exact hattempt
  | getCartSnapshot c =>
      have hsnap : v.events.getCartSnapshot c = w.events.getCartSnapshot c :=
        congrArg (·.2.1) (h.own c ho)
      show (if (env.fault v.clock _).isSome then none else v.events.getCartSnapshot c) = _
      rw [hfault, hsnap]
      rfl
  | getCartState c =>
      have hstate : v.events.getCartState c = w.events.getCartState c :=
        congrArg (·.2.2) (h.own c ho)
      show (if (env.fault v.clock _).isSome then none else v.events.getCartState c) = _
      rw [hfault, hstate]
      rfl
  | getItem | resolvePrices | resolveDiscounts | resolveTax | checkGeo | quoteOptions | newUuid =>
      simp only [Env.handle, h.clock]
  | _ => exact absurd ho Bool.false_ne_true

/-- What a call reads of its own carts, and the ids it draws, may be relied on. -/
theorem Agree.rely (h : Agree t w₀ w v) (hkeyed : Keyed w₀.clock w₀)
    (ho : (ownCarts t w₀).allow o q) : (ownCarts t w₀).rely o q (env.handle o w).1 := by
  cases o with
  | getCartSnapshot c =>
      cases hx : (env.handle (.getCartSnapshot c) w).1 with
      | none => exact trivial
      | some s => exact h.good c s ho (World.read_some hx)
  | newUuid =>
      rintro ⟨s, hs, -⟩
      exact absurd (hkeyed _ s hs).2 (Nat.not_lt.mpr h.started)
  | _ => exact trivial

/-- **The step.**  An operation on own carts keeps two worlds in agreement. -/
theorem Agree.handle (h : Agree t w₀ w v) (ho : (ownCarts t w₀).allow o q) :
    Agree t w₀ (env.handle o w).2 (env.handle o v).2 := by
  constructor
  · rw [Env.handle_clock]
    exact Nat.le_succ_of_le h.started
  · rw [Env.handle_clock, Env.handle_clock, h.clock]
  · intro c hc
    exact Env.handle_record_congr h.clock (h.own c hc)
  · intro c hc
    rw [Env.handle_record fun hw => ownCarts_writes ho c hw hc]
    exact h.foreign c hc
  · intro c s hc hs
    by_cases hput : ∃ s', o = .putCartSnapshot s'
    · obtain ⟨s', rfl⟩ := hput
      rw [Env.handle_putCartSnapshot_snapshot] at hs
      split at hs
      · next hid =>
          cases hs
          obtain ⟨c', -, -, htenant⟩ := ho
          exact ⟨hid.2.symm, htenant⟩
      · exact h.good c s hc hs
    · rw [Env.handle_snapshot fun s' he => hput ⟨s', he⟩] at hs
      exact h.good c s hc hs

end Agree

/-- A command that targets no foreign cart, in two worlds that agree: the same answer,
of an own cart, and foreign records untouched. -/
theorem dispatched_agree (env : Env) (runner : Runner) {w₀ : World}
    (hkeyed : Keyed w₀.clock w₀) (h : Agree t w₀ w v)
    (hown : ∀ c, cmd.target cartId = some c → ¬ Foreign t w₀ c) :
    (env.dispatched runner t cmd cartId v).1 = (env.dispatched runner t cmd cartId w).1 ∧
      (∀ s, (env.dispatched runner t cmd cartId w).1 = .ok s → s.tenantId = some t) ∧
      ∀ c, Foreign t w₀ c →
        (env.dispatched runner t cmd cartId w).2.events.record c = w₀.events.record c := by
  have htarget : (cmd.withTenant t).target cartId = cmd.target cartId := by cases cmd <;> rfl
  have hfollows : (dispatchCartCommand runner (cmd.withTenant t) cartId).run.Follows
      (ownCarts t w₀) (onOk (Returns (fun c => ¬ Foreign t w₀ c) fun c id tenant =>
        id = c ∧ tenant = some t)) () := by
    refine dispatchCartCommand_follows (fun c hc => hown c (htarget ▸ hc)) ?_
    intro payload hcmd id _
    refine ⟨rfl, ?_⟩
    cases cmd with
    | createCart payload' =>
        cases hcmd
        rfl
    | _ => cases hcmd
  obtain ⟨hans, q, hend, hpost⟩ := Prog.Follows.run_agree (R := fun w v _ => Agree t w₀ w v)
    (fun w v q o h ho => ⟨h.rely hkeyed ho, h.answer ho, h.handle ho⟩) hfollows h
  refine ⟨congrArg (Except.mapError _) hans, ?_, hend.foreign⟩
  intro s hs
  unfold Env.dispatched at hs
  dsimp only at hs
  cases hr : ((dispatchCartCommand runner (cmd.withTenant t) cartId).run.run env.handle w).1 with
  | error e =>
      rw [hr] at hs
      cases hs
  | ok s' =>
      rw [hr] at hs hpost
      cases hs
      obtain ⟨c, -, -, htenant⟩ := hpost
      exact htenant

theorem dispatched_invalid (h : validateCartCommand (cmd.withTenant t) ≠ []) :
    env.dispatched runner t cmd cartId w =
      (.error (.runner (.validation (validateCartCommand (cmd.withTenant t)))), w) := by
  unfold Env.dispatched dispatchCartCommand failIf
  rw [if_pos h]
  rfl

/-! ### Guarded calls -/

section Guarded

variable {events : InMemoryEventStore} {a : CartId}

theorem refuses_iff :
    Refuses env t w a ↔ env.fault w.clock (.getCartSnapshot a) = none ∧ Foreign t w a := by
  constructor
  · rintro ⟨cart, hread, hne⟩
    refine ⟨?_, cart, World.read_some hread, hne⟩
    cases hfault : env.fault w.clock (.getCartSnapshot a) with
    | none => rfl
    | some e =>
        have hnone : (env.handle (.getCartSnapshot a) w).1 = none := by
          show (w.read (env.fault w.clock (.getCartSnapshot a)) _).1 = none
          rw [hfault]
          rfl
        cases hnone.symm.trans hread
  · rintro ⟨hfault, cart, hstored, hne⟩
    refine ⟨cart, ?_, hne⟩
    show (w.read (env.fault w.clock (.getCartSnapshot a)) _).1 = some cart
    rw [hfault]
    exact hstored

theorem SameButForeign.refl : SameButForeign t w w.events := ⟨fun _ _ => rfl, fun _ h => h⟩

theorem SameButForeign.foreign_iff (h : SameButForeign t w events) :
    Foreign t { w with events } a ↔ Foreign t w a := by
  refine ⟨?_, h.foreign a⟩
  intro hforeign
  by_contra hown
  have hsnap : events.getCartSnapshot a = w.events.getCartSnapshot a :=
    congrArg (·.2.1) (h.own a hown)
  obtain ⟨s, hs, hne⟩ := hforeign
  exact hown ⟨s, hsnap ▸ hs, hne⟩

theorem SameButForeign.refuses_iff (h : SameButForeign t w events) :
    Refuses env t { w with events } a ↔ Refuses env t w a := by
  rw [Orchestrator.refuses_iff, Orchestrator.refuses_iff, h.foreign_iff]

theorem SameButForeign.agree (h : SameButForeign t w events) (hkeyed : Keyed w.clock w) :
    Agree t w w { w with events } := by
  refine ⟨le_rfl, rfl, h.own, fun _ _ => rfl, fun c s hown hs => ?_⟩
  refine ⟨(hkeyed c s hs).1, ?_⟩
  by_contra hne
  exact hown ⟨s, hs, hne⟩

theorem Agree.tick {w₀ : World} (h : Agree t w₀ w v) : Agree t w₀ w.tick v.tick :=
  ⟨Nat.le_succ_of_le h.started, congrArg (· + 1) h.clock, h.own, h.foreign, h.good⟩

/-- A call that is the command itself, from here or one read later, on a cart that
is not foreign or not valid. -/
theorem Isolated.of_dispatched {f : World → World} (hf : f = id ∨ f = World.tick)
    (hkeyed : Keyed w.clock w)
    (hfor : ∀ events, SameButForeign t w events →
      env.forTenant runner t cmd cartId { w with events } =
        env.dispatched runner t cmd cartId (f { w with events }))
    (hok : (∀ c, cmd.target cartId = some c → ¬ Foreign t w c) ∨
      validateCartCommand (cmd.withTenant t) ≠ []) : Isolated env runner t cmd cartId w := by
  have hself : env.forTenant runner t cmd cartId w = env.dispatched runner t cmd cartId (f w) :=
    hfor w.events .refl
  rcases hok with hown | hinvalid
  · have hagree : ∀ events, SameButForeign t w events → Agree t w (f w) (f { w with events }) := by
      intro events h
      rcases hf with rfl | rfl
      · exact h.agree hkeyed
      · exact (h.agree hkeyed).tick
    obtain ⟨-, htenant, hforeign⟩ := dispatched_agree env runner hkeyed (hagree _ .refl) hown
    refine ⟨?_, ?_, ?_⟩
    · rw [hself]
      exact htenant
    · rw [hself]
      exact hforeign
    · intro events h
      rw [hself, hfor events h]
      exact (dispatched_agree env runner hkeyed (hagree events h) hown).1
  · have hevents : (f w).events = w.events := by rcases hf with rfl | rfl <;> rfl
    refine ⟨?_, ?_, ?_⟩
    · intro s hs
      rw [hself, dispatched_invalid hinvalid] at hs
      cases hs
    · intro c _
      rw [hself, dispatched_invalid hinvalid, hevents]
    · intro events h
      rw [hself, hfor events h, dispatched_invalid hinvalid, dispatched_invalid hinvalid]

/-- A command that works on a cart has some cart checked. -/
theorem checked_of_target (hc : cmd.target cartId = some c) :
    cartId.or (cartIdFromCommand cmd) ≠ none := by
  cases cartId with
  | some a => exact Option.some_ne_none _
  | none => cases cmd <;> first | exact Option.some_ne_none _ | cases hc

/-- A guarded call is isolated. -/
theorem Guarded.isolated (hkeyed : Keyed w.clock w) (h : Guarded env t cmd cartId w) :
    Isolated env runner t cmd cartId w := by
  cases ha : cartId.or (cartIdFromCommand cmd) with
  | none =>
      refine .of_dispatched (Or.inl rfl) hkeyed (fun events _ => forTenant_unchecked ha) (Or.inl ?_)
      intro c hc
      exact absurd ha (checked_of_target hc)
  | some a =>
      by_cases hrefused : Refuses env t w a
      · refine ⟨?_, ?_, ?_⟩
        · intro s hs
          rw [forTenant_refused ha hrefused] at hs
          cases hs
        · intro c _
          rw [forTenant_refused ha hrefused, World.tick_events]
        · intro events hsame
          rw [forTenant_refused ha hrefused, forTenant_refused ha (hsame.refuses_iff.mpr hrefused)]
      · refine .of_dispatched (Or.inr rfl) hkeyed
          (fun events hsame => forTenant_passed ha (mt hsame.refuses_iff.mp hrefused)) ?_
        by_cases hvalid : validateCartCommand (cmd.withTenant t) = []
        · refine Or.inl fun c hc hforeign => ?_
          rcases h c hc hforeign with ⟨a', ha', hrefused'⟩ | hinvalid
          · cases ha.symm.trans ha'
            exact hrefused hrefused'
          · exact hinvalid hvalid
        · exact Or.inr hvalid

end Guarded

/-! ### Unguarded calls -/

/-- Every operation on the event store is carried out and answered, as the in-memory
one always does. -/
def EventsAnswer (env : Env) : Prop :=
  ∀ n o, o.writesTo ≠ none ∨ (∃ c, o = .getCartSnapshot c) → env.fault n o = none

section Unguarded

variable {s : CartProjection}

theorem EventsAnswer.read (h : EventsAnswer env) :
    (env.handle (.getCartSnapshot c) w).1 = w.events.getCartSnapshot c := by
  show (w.read (env.fault w.clock (.getCartSnapshot c)) _).1 = _
  rw [h _ _ (Or.inr ⟨c, rfl⟩)]
  rfl

theorem loadCart_run (h : EventsAnswer env) (hs : w.events.getCartSnapshot c = some s) :
    (loadCart c).run.run env.handle w = (.ok s, w.tick) := by
  show Prog.run env.handle (okOr (env.handle (.getCartSnapshot c) w).1 .cartNotFound).run
    w.tick = _
  rw [h.read, hs]
  rfl

/-- Loading a stored cart, in front of the rest of a command. -/
theorem run_load {k : CartProjection → Run CartProjection} (h : EventsAnswer env)
    (hs : w.events.getCartSnapshot c = some s) :
    (loadCart c >>= k).run.run env.handle w = (k s).run.run env.handle w.tick := by
  rw [ExceptT.run_bind, run_bind, loadCart_run h hs]

/-- Appending to the log, in front of the rest of a command. -/
theorem run_append {event : CartStreamEvent} {k : Unit → Run CartProjection}
    (h : EventsAnswer env) :
    (tryWith .store (ask (.appendCartEvent c event)) >>= k).run.run env.handle w =
      (k ()).run.run env.handle
        (World.tick { w with events := w.events.appendCartEvent c event }) := by
  have hfault := h w.clock (.appendCartEvent c event) (Or.inl (Option.some_ne_none _))
  have happend : env.handle (.appendCartEvent c event) w =
      w.attempt (env.fault w.clock (.appendCartEvent c event)) fun w =>
        ((), { w with events := w.events.appendCartEvent c event }) := rfl
  have hrun : (tryWith .store (ask (.appendCartEvent c event))).run.run env.handle w =
      (.ok (), World.tick { w with events := w.events.appendCartEvent c event }) := by
    rw [tryWith, ExceptT.run_mk, run_map]
    show ((env.handle (.appendCartEvent c event) w).1.mapError RunnerError.store,
      (env.handle (.appendCartEvent c event) w).2) = _
    rw [happend, hfault]
    rfl
  rw [ExceptT.run_bind, run_bind, hrun]

/-- No event is appended. -/
def noAppends : Monitor Op.Ans Unit where
  allow o _ := ∀ c event, o ≠ .appendCartEvent c event
  next _ q _ := q

/-- Storing a snapshot and moving the state machine: how a command ends that has
announced itself in the log. -/
theorem saveAndMove_noAppends {event : CartEvent} :
    (do tryWith .store (ask (.putCartSnapshot s)); transitionCart c event; return s :
      Run CartProjection).run.Follows noAppends (onOk fun _ _ => True) () := by
  refine follows_tryWith_bind ⟨by simp [noAppends], fun x _ => ?_⟩
  cases x with
  | error _ => exact trivial
  | ok _ =>
      refine follows_run_bind ?_
      unfold transitionCart
      refine follows_call (by simp [noAppends]) fun state _ => ?_
      refine follows_okOr fun current _ => follows_okOr fun next _ => ?_
      refine follows_tryWith ⟨by simp [noAppends], fun x _ => ?_⟩
      cases x <;> exact trivial

/-- What such a command has appended stays in the log. -/
theorem run_noAppends {p : Run CartProjection}
    (hp : p.run.Follows noAppends (onOk fun _ _ => True) ()) :
    ((p.run.run env.handle w).2.events.record c).1 = (w.events.record c).1 := by
  obtain ⟨-, hlog, -⟩ := hp.run_invariant (h := env.handle) (l := [])
    (I := fun v _ _ => (v.events.record c).1 = (w.events.record c).1)
    (fun v q tr o hv ho => ⟨trivial, (Env.handle_log ho).trans hv⟩) rfl
  exact hlog

/-- Whatever it does then, a command that has appended to a log leaves another log. -/
theorem log_ne_of_append {p : Run CartProjection} {event : CartStreamEvent}
    (hp : p.run.Follows noAppends (onOk fun _ _ => True) ()) :
    ((p.run.run env.handle
      (World.tick { w with events := w.events.appendCartEvent c event })).2.events.record c).1 ≠
      (w.events.record c).1 := by
  rw [run_noAppends hp, World.tick_events, InMemoryEventStore.record_appendCartEvent]
  cases (w.events.record c).1 with
  | none => exact Option.some_ne_none _
  | some log =>
      intro heq
      have hlen := congrArg List.length (Option.some.inj heq)
      simp at hlen

/-- A foreign snapshot under another version is still foreign, and nothing else changes. -/
theorem sameButForeign_reversion {version : Nat} (hkeyed : Keyed w.clock w)
    (hs : w.events.getCartSnapshot c = some s) (hne : s.tenantId ≠ some t) :
    SameButForeign t w (w.events.putCartSnapshot { s with version }) := by
  have hid : s.cartId = c := (hkeyed c s hs).1
  subst hid
  have hput : (w.events.putCartSnapshot { s with version }).getCartSnapshot s.cartId =
      some { s with version } := AList.lookup_insert _
  constructor
  · intro c' hown
    refine InMemoryEventStore.record_putCartSnapshot_ne _ ?_
    rintro rfl
    exact hown ⟨s, hs, hne⟩
  · intro c' hforeign
    by_cases hc : c' = s.cartId
    · subst hc
      exact ⟨_, hput, hne⟩
    · obtain ⟨s', hs', hne'⟩ := hforeign
      refine ⟨s', ?_, hne'⟩
      exact (AList.lookup_insert_ne hc).trans hs'

/-- A cancellation of a stored cart that reaches the runner is in the cart's log. -/
theorem cancelCart_log (w : World) (runner : Runner) (t : String) (cartId : Option CartId)
    (h : EventsAnswer env) {payload : CancelCartPayload}
    (hs : w.events.getCartSnapshot payload.cartId = some s) :
    ((env.dispatched runner t (.cancelCart payload) cartId w).2.events.record payload.cartId).1 ≠
      (w.events.record payload.cartId).1 := by
  show (((cancelCart payload).run.run env.handle w).2.events.record payload.cartId).1 ≠ _
  unfold cancelCart
  rw [run_load h hs, run_append h]
  exact log_ne_of_append saveAndMove_noAppends

/-- What the facade makes of a checkout that is started. -/
theorem dispatched_startCheckout {payload : StartCheckoutPayload}
    (hvalid : validateCartCommand (.startCheckout payload) = []) :
    env.dispatched runner t (.startCheckout payload) cartId w =
      (((startCheckout payload).run.run env.handle w).1.mapError .runner,
        ((startCheckout payload).run.run env.handle w).2) := by
  have hdispatch : dispatchCartCommand runner (.startCheckout payload) cartId =
      startCheckout payload := by
    unfold dispatchCartCommand failIf
    rw [if_neg (not_not.mpr hvalid)]
    rfl
  rw [← hdispatch]
  rfl

/-- So is a checkout that is started. -/
theorem startCheckout_log (w : World) (runner : Runner) (t : String) (cartId : Option CartId)
    (h : EventsAnswer env) {payload : StartCheckoutPayload}
    (hvalid : validateCartCommand (.startCheckout payload) = [])
    (hs : w.events.getCartSnapshot payload.cartId = some s)
    (hversion : s.version = payload.cartVersion) :
    ((env.dispatched runner t (.startCheckout payload) cartId w).2.events.record payload.cartId).1 ≠
      (w.events.record payload.cartId).1 := by
  rw [dispatched_startCheckout hvalid]
  unfold startCheckout failIf
  rw [run_load h hs, if_neg (not_not.mpr hversion)]
  show ((Prog.run env.handle (ExceptT.run (tryWith .store (ask (.appendCartEvent payload.cartId
    .checkoutReady)) >>= _)) w.tick).2.events.record payload.cartId).1 ≠ _
  rw [run_append h]
  exact log_ne_of_append saveAndMove_noAppends

/-- A checkout started on another version is told the stored one. -/
theorem startCheckout_conflict (h : EventsAnswer env) {payload : StartCheckoutPayload}
    (hvalid : validateCartCommand (.startCheckout payload) = [])
    (hs : w.events.getCartSnapshot payload.cartId = some s)
    (hversion : s.version ≠ payload.cartVersion) :
    (env.dispatched runner t (.startCheckout payload) cartId w).1 =
      .error (.runner (.cartVersionConflict payload.cartVersion s.version)) := by
  rw [dispatched_startCheckout hvalid]
  unfold startCheckout failIf
  rw [run_load h hs, if_pos hversion]
  rfl

/-- An isolated call is guarded, if the event store answers. -/
theorem Isolated.guarded (hiso : Isolated env runner t cmd cartId w) (h : EventsAnswer env)
    (hkeyed : Keyed w.clock w) : Guarded env t cmd cartId w := by
  intro c hc hforeign
  by_contra hno
  obtain ⟨hnot, hvalid⟩ := not_or.mp hno
  have hvalid := not_not.mp hvalid
  obtain ⟨a, ha⟩ := Option.ne_none_iff_exists'.mp (checked_of_target hc)
  have hpass : ¬ Refuses env t w a := fun hr => hnot ⟨a, ha, hr⟩
  have hne : c ≠ a := by
    rintro rfl
    exact hpass (refuses_iff.mpr ⟨h _ _ (Or.inr ⟨_, rfl⟩), hforeign⟩)
  have hrun : env.forTenant runner t cmd cartId w = env.dispatched runner t cmd cartId w.tick :=
    forTenant_passed ha hpass
  obtain ⟨s, hs, htenant⟩ := hforeign
  cases cmd with
  | createCart payload => cases hc
  | addItem payload | updateItemQty payload | removeItem payload | applyAdjustment payload
  | setFulfillmentSelection payload =>
      obtain rfl : cartId = some c := hc
      exact hne (Option.some.inj ha)
  | getCart payload =>
      cases hc
      refine htenant (hiso.own s ?_)
      rw [hrun]
      show ((loadCart payload.cartId).run.run env.handle w.tick).1.mapError FacadeError.runner = _
      rw [loadCart_run (w := w.tick) h hs]
      rfl
  | startCheckout payload =>
      cases hc
      by_cases hversion : s.version = payload.cartVersion
      · refine startCheckout_log w.tick runner t cartId h hvalid hs hversion ?_
        rw [← hrun, hiso.unchanged _ ⟨s, hs, htenant⟩]
        rfl
      · -- with yet another version stored, the answer is another
        have hsame : SameButForeign t w (w.events.putCartSnapshot
            { s with version := s.version + payload.cartVersion + 1 }) :=
          sameButForeign_reversion hkeyed hs htenant
        have hstored : (w.events.putCartSnapshot
            { s with version := s.version + payload.cartVersion + 1 }).getCartSnapshot
              payload.cartId = some { s with version := s.version + payload.cartVersion + 1 } := by
          rw [← (hkeyed _ s hs).1]
          exact AList.lookup_insert _
        have hconflict (events : InMemoryEventStore) {s' : CartProjection}
            (hs' : events.getCartSnapshot payload.cartId = some s')
            (hv : s'.version ≠ payload.cartVersion) :
            (env.dispatched runner t (.startCheckout payload) cartId
              (World.tick { w with events })).1 =
              .error (.runner (.cartVersionConflict payload.cartVersion s'.version)) :=
          startCheckout_conflict (w := World.tick { w with events }) h hvalid hs' hv
        have hans := hiso.unread _ hsame
        rw [hrun, forTenant_passed ha (mt hsame.refuses_iff.mp hpass),
          hconflict _ hstored (by simp; omega), hconflict w.events hs hversion] at hans
        simp at hans
        omega
  | cancelCart payload =>
      cases hc
      refine cancelCart_log w.tick runner t cartId h hs ?_
      rw [← hrun, hiso.unchanged _ ⟨s, hs, htenant⟩]
      rfl

end Unguarded

/-- **Tenants are isolated** by a guarded call in every reachable world, and, where
the event store answers, by no other. -/
theorem dispatchCartCommandForTenant_isolates (hw : Reachable env runner w) :
    (Guarded env t cmd cartId w → Isolated env runner t cmd cartId w) ∧
      (EventsAnswer env → Isolated env runner t cmd cartId w → Guarded env t cmd cartId w) :=
  ⟨fun h => h.isolated hw.keyed, fun h hiso => hiso.guarded h hw.keyed⟩

/-- A tenant asks for another's cart and says so: it is refused. -/
theorem dispatchCartCommandForTenant_isolates_sample :
    Isolated Env.agreeable Sample.runner "u" (.getCart ⟨Sample.cart.cartId⟩) none
      Sample.shopped := by
  refine (dispatchCartCommandForTenant_isolates ⟨Sample.shopping, rfl⟩).1 ?_
  intro c hc hforeign
  cases hc
  exact Or.inl ⟨Sample.cart.cartId, rfl, refuses_iff.mpr ⟨rfl, hforeign⟩⟩

/-- A tenant asks for another's cart and names a third in the argument: it is served. -/
theorem mismatched_argument_leaks :
    ¬ ∀ (env : Env) (runner : Runner) (w : World) (t : String) (cmd : CartCommand)
      (cartId : Option CartId), Reachable env runner w → Isolated env runner t cmd cartId w := by
  intro h
  have hiso := h Env.agreeable Sample.runner Sample.shopped "u" (.getCart ⟨Sample.cart.cartId⟩)
    (some ⟨⟨100⟩⟩) ⟨Sample.shopping, rfl⟩
  exact absurd (hiso.own _ rfl) (by decide)

end Orchestrator
