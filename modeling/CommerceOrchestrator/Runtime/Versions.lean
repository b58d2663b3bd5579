/-
# `CommerceOrchestrator.Runtime.Versions` — a version names one state of a cart

Calls one after the other.  Each reads the stored snapshot and saves at most one
edit of it (`Call.turn`): a command with the next version, a checkout with the
same version and the same contents.  So the stored snapshot of a cart carries the
highest version seen of it, and no version is seen with two contents.
-/
import CommerceOrchestrator.Runtime.Ownership
import CommerceOrchestrator.Runtime.Edits

namespace Orchestrator

open Effect Prog

/-! ## What a finished call did -/

/-- The snapshot stored under `c` once `q` is over, given the one before. -/
def Progress.after (q : Progress) (c : CartId) (before : Option CartProjection) :
    Option CartProjection :=
  match q.put with
  | some s => if q.saved ∧ c = s.cartId then some s else before
  | none => before

/-- Answers given at or after the time of `w`. -/
def Answered (env : Env) (w : World) : Answers := fun e =>
  ∃ v : World, w.clock ≤ v.clock ∧ (env.handle e.1 v).1 = e.2

/-- What a call that started in `w` has done: the events `l`, which lead to `v`. -/
structure Done (env : Env) (runner : Runner) (call : Call) (w v : World) (q : Progress)
    (l : List (Event Op.Ans)) : Prop where
  started : q.call = call
  clock : w.clock ≤ v.clock
  read : ∀ r, q.read = some r → ∃ c, call.target = some c ∧
    w.events.getCartSnapshot c = some r ∧ ⟨.getCartSnapshot c, some r⟩ ∈ l
  put : ∀ s, q.put = some s → Puts (Answered env w) runner call q.read s ∧
    ∃ x, ⟨.putCartSnapshot s, x⟩ ∈ l ∧ q.saved = tookHold x
  logged : ∀ s x, ⟨.putCartSnapshot s, x⟩ ∈ l → q.put = some s ∧ q.saved = tookHold x
  stored : ∀ c, v.events.getCartSnapshot c = q.after c (w.events.getCartSnapshot c)

section Turn

variable {env : Env} {runner : Runner} {call : Call} {w v : World} {q : Progress}
  {l : List (Event Op.Ans)}

theorem Done.step {o : Op} (h : Done env runner call w v q l)
    (ho : (editMonitor (Answered env w) runner).allow o q) :
    Done env runner call w (env.handle o v).2
      ((editMonitor (Answered env w) runner).next o q (env.handle o v).1)
      (l ++ [⟨o, (env.handle o v).1⟩]) := by
  have hclock : w.clock ≤ (env.handle o v).2.clock := by
    rw [Env.handle_clock]
    exact Nat.le_succ_of_le h.clock
  -- an operation that is no put leaves what was put and what is stored as they are
  have hquiet (hput : ∀ s, o ≠ .putCartSnapshot s) :
      (∀ s x, ⟨.putCartSnapshot s, x⟩ ∈ l ++ [⟨o, (env.handle o v).1⟩] →
        q.put = some s ∧ q.saved = tookHold x) ∧
      ∀ c, (env.handle o v).2.events.getCartSnapshot c =
        q.after c (w.events.getCartSnapshot c) := by
    constructor
    · intro s x hm
      rcases List.mem_append.mp hm with hm | hm
      · exact h.logged s x hm
      · exact absurd (congrArg Sigma.fst (List.mem_singleton.mp hm)).symm (hput s)
    · intro c
      rw [Env.handle_snapshot hput]
      exact h.stored c
  have hold : ∀ r, q.read = some r → ∃ c, call.target = some c ∧
      w.events.getCartSnapshot c = some r ∧
      ⟨.getCartSnapshot c, some r⟩ ∈ l ++ [⟨o, (env.handle o v).1⟩] := by
    intro r hr
    obtain ⟨c, hc, hw, hm⟩ := h.read r hr
    exact ⟨c, hc, hw, List.mem_append_left _ hm⟩
  have hputs : ∀ s, q.put = some s → Puts (Answered env w) runner call q.read s ∧
      ∃ x, ⟨.putCartSnapshot s, x⟩ ∈ l ++ [⟨o, (env.handle o v).1⟩] ∧ q.saved = tookHold x := by
    intro s hs
    obtain ⟨hp, x, hm, hx⟩ := h.put s hs
    exact ⟨hp, x, List.mem_append_left _ hm, hx⟩
  cases o with
  | getCartSnapshot c =>
      obtain ⟨htarget, hread, hput⟩ := ho
      obtain ⟨hlogged, hstored⟩ := hquiet (by simp)
      refine ⟨h.started, hclock, fun r hr => ?_, fun s hs => ?_, hlogged, hstored⟩
      · have hans : (env.handle (.getCartSnapshot c) v).1 = some r := hr
        have hsnap : v.events.getCartSnapshot c = some r := World.read_some hans
        rw [h.stored, Progress.after, hput] at hsnap
        refine ⟨c, h.started ▸ htarget, hsnap, ?_⟩
        rw [hans]
        exact List.mem_append_right _ (List.mem_singleton_self _)
      · exact absurd (hput.symm.trans hs) (by simp)
  | putCartSnapshot s =>
      obtain ⟨hp, hput⟩ := ho
      refine ⟨h.started, hclock, hold, fun s' hs' => ?_, fun s' x hm => ?_, fun c => ?_⟩
      · obtain rfl : s = s' := Option.some.inj hs'
        exact ⟨h.started ▸ hp, _, List.mem_append_right _ (List.mem_singleton_self _), rfl⟩
      · rcases List.mem_append.mp hm with hm | hm
        · exact absurd (hput.symm.trans (h.logged s' x hm).1) (by simp)
        · obtain ⟨he, hx⟩ := Sigma.mk.inj_iff.mp (List.mem_singleton.mp hm)
          obtain rfl := Op.putCartSnapshot.inj he
          exact ⟨rfl, congrArg tookHold (eq_of_heq hx).symm⟩
      · have hbefore := h.stored c
        rw [Progress.after, hput] at hbefore
        rw [Env.handle_putCartSnapshot_snapshot, hbefore]
        rfl
  | _ =>
      obtain ⟨hlogged, hstored⟩ := hquiet (by simp)
      exact ⟨h.started, hclock, hold, hputs, hlogged, hstored⟩

/-- **A finished call** has read the stored snapshot and saved at most one edit of it. -/
theorem Call.turn (env : Env) (runner : Runner) (call : Call) (w : World) :
    ∃ q, Done env runner call w ((call.prog runner).run env.handle w).2 q
        ((call.prog runner).events env.handle w) ∧
      Shows ((call.prog runner).run env.handle w).1 q := by
  have hstart : Done env runner call w w ⟨call, none, none, false⟩ [] := by
    refine ⟨rfl, le_rfl, ?_, ?_, by simp, fun _ => rfl⟩
    · intro r hr
      cases hr
    · intro s hs
      cases hs
  have hedits : (call.prog runner).Follows (editMonitor (Answered env w) runner) Shows
      ⟨call, none, none, false⟩ := Call.prog_edits call
  refine hedits.run_invariant (l := []) (I := Done env runner call w) ?_ hstart
  intro v q l o h ho
  exact ⟨⟨v, h.clock, rfl⟩, h.step ho⟩

end Turn

/-! ## Versions only grow -/

/-- `s₁` may be stored where `s₀` was: a later version, or the same with the same contents. -/
def Advances (s₀ s₁ : CartProjection) : Prop :=
  s₀.version ≤ s₁.version ∧ (s₀.version = s₁.version → s₀.contents = s₁.contents)

theorem Advances.refl (s : CartProjection) : Advances s s := ⟨le_rfl, fun _ => rfl⟩

theorem Advances.trans {s₀ s₁ s₂ : CartProjection} (h : Advances s₀ s₁) (h' : Advances s₁ s₂) :
    Advances s₀ s₂ := by
  refine ⟨le_trans h.1 h'.1, fun he => ?_⟩
  have h₁ : s₀.version = s₁.version := le_antisymm h.1 (he ▸ h'.1)
  exact (h.2 h₁).trans (h'.2 (h₁.symm.trans he))

theorem Edited.advances {A : Answers} {runner : Runner} {call : Call} {cart cart' : CartProjection}
    (h : Edited A runner call cart cart') : Advances cart cart' := by
  cases call with
  | cart command cartId =>
      have hversion := h.version
      exact ⟨by omega, fun he => by omega⟩
  | checkout request =>
      obtain ⟨-, hversion, hcontents⟩ := h.checkout
      exact ⟨Nat.le_of_eq hversion.symm, fun _ => hcontents.symm⟩

section Step

variable {env : Env} {runner : Runner} {call : Call} {w v : World} {q : Progress}
  {l : List (Event Op.Ans)}

/-- What a call saves is stored under its own id, over a snapshot it advances. -/
theorem Done.advances (h : Done env runner call w v q l) (hkeyed : Keyed w.clock w) {c : CartId}
    {s₀ : CartProjection} (hs : w.events.getCartSnapshot c = some s₀) :
    ∃ s₁, v.events.getCartSnapshot c = some s₁ ∧ Advances s₀ s₁ := by
  rw [h.stored, hs, Progress.after]
  cases hq : q.put with
  | none => exact ⟨s₀, rfl, .refl s₀⟩
  | some s =>
      by_cases hsaved : q.saved ∧ c = s.cartId
      · refine ⟨s, if_pos hsaved, ?_⟩
        obtain ⟨-, rfl⟩ := hsaved
        obtain ⟨hputs, -⟩ := h.put s hq
        generalize hread : q.read = read at hputs
        cases hputs with
        | created payload cartId id hid =>
            obtain ⟨u, hu, hdraw⟩ := hid
            have hfresh : (⟨u.clock⟩ : Uuid) = id := hdraw
            have hlt : id.val < w.clock := (hkeyed _ s₀ hs).2
            rw [← hfresh] at hlt
            exact absurd hlt (Nat.not_lt.mpr hu)
        | @edited _ r _ he =>
            obtain ⟨c, -, hr, -⟩ := h.read r hread
            have hc : s.cartId = c := he.cartId.trans (hkeyed c r hr).1
            rw [hc, hr] at hs
            obtain rfl := Option.some.inj hs
            exact he.advances
      · exact ⟨s₀, if_neg hsaved, .refl s₀⟩

/-- What a call shows is what is stored when it is over. -/
theorem Done.shown (h : Done env runner call w v q l) (hkeyed : Keyed w.clock w)
    {s : CartProjection}
    (hs : (q.put = some s ∧ q.saved) ∨ (q.put = none ∧ q.read = some s)) :
    v.events.getCartSnapshot s.cartId = some s := by
  rw [h.stored, Progress.after]
  rcases hs with ⟨hput, hsaved⟩ | ⟨hput, hread⟩
  · rw [hput]
    exact if_pos ⟨hsaved, rfl⟩
  · rw [hput]
    obtain ⟨c, -, hw, -⟩ := h.read s hread
    rw [(hkeyed c s hw).1]
    exact hw

end Step

/-! ## Sessions -/

/-- A snapshot seen in a session: some call stored it or returned it. -/
def Seen (turns : List (Turn Op.Ans Outcome)) (s : CartProjection) : Prop :=
  ∃ turn ∈ turns, (∃ x, ⟨.putCartSnapshot s, x⟩ ∈ turn.trace ∧ tookHold x) ∨
    ∃ command cartId, turn.result = .cart command cartId (.ok s)

theorem seen_append {turns turns' : List (Turn Op.Ans Outcome)} {s : CartProjection} :
    Seen (turns ++ turns') s ↔ Seen turns s ∨ Seen turns' s := by
  simp only [Seen, List.mem_append, or_and_right, exists_or]

/-- What is stored advances everything seen, and what is seen is consistent. -/
structure Consistent (turns : List (Turn Op.Ans Outcome)) (w : World) : Prop where
  keyed : Keyed w.clock w
  latest : ∀ s, Seen turns s → ∃ s₀, w.events.getCartSnapshot s.cartId = some s₀ ∧ Advances s s₀
  agree : ∀ s s', Seen turns s → Seen turns s' → s.cartId = s'.cartId → s.version = s'.version →
    s.contents = s'.contents

section Sessions

variable {env : Env} {runner : Runner}

theorem Consistent.turn (env : Env) (runner : Runner) {turns : List (Turn Op.Ans Outcome)}
    {w : World} (h : Consistent turns w) (call : Call) :
    Consistent (turns ++ [⟨(call.prog runner).events env.handle w,
      ((call.prog runner).run env.handle w).1⟩]) ((call.prog runner).run env.handle w).2 := by
  obtain ⟨q, hdone, hshows⟩ := Call.turn env runner call w
  generalize hturn : (⟨(call.prog runner).events env.handle w,
    ((call.prog runner).run env.handle w).1⟩ : Turn Op.Ans Outcome) = turn
  have hnew : ∀ s, Seen [turn] s →
      ((call.prog runner).run env.handle w).2.events.getCartSnapshot s.cartId = some s := by
    rintro s ⟨turn', hm, hs⟩
    obtain rfl := List.mem_singleton.mp hm
    refine hdone.shown h.keyed ?_
    rcases hs with ⟨x, hm, hx⟩ | ⟨command, cartId, hres⟩
    · rw [← hturn] at hm
      obtain ⟨hput, hsaved⟩ := hdone.logged s x hm
      exact Or.inl ⟨hput, hsaved.trans hx⟩
    · rw [← hturn] at hres
      rcases hshows.shown command cartId s hres with hput | ⟨hput, hread, -⟩
      · exact Or.inl hput
      · exact Or.inr ⟨hput, hread⟩
  have hold : ∀ s, Seen turns s → ∃ s₁,
      ((call.prog runner).run env.handle w).2.events.getCartSnapshot s.cartId = some s₁ ∧
        Advances s s₁ := by
    intro s hs
    obtain ⟨s₀, hs₀, hadv⟩ := h.latest s hs
    obtain ⟨s₁, hs₁, hadv'⟩ := hdone.advances h.keyed hs₀
    exact ⟨s₁, hs₁, hadv.trans hadv'⟩
  -- an earlier snapshot and one of this call
  have hmixed : ∀ s s', Seen turns s → Seen [turn] s' → s.cartId = s'.cartId →
      s.version = s'.version → s.contents = s'.contents := by
    intro s s' hs hs' hid hversion
    obtain ⟨s₁, hs₁, -, hsame⟩ := hold s hs
    rw [hid, hnew s' hs'] at hs₁
    obtain rfl := Option.some.inj hs₁
    exact hsame hversion
  constructor
  · exact ((Call.prog_trace (events_trace _ w)).writes (events_replays _ w) h.keyed).1
  · intro s hs
    rcases seen_append.mp hs with hs | hs
    · exact hold s hs
    · exact ⟨s, hnew s hs, .refl s⟩
  · intro s s' hs hs' hid hversion
    rcases seen_append.mp hs with hs | hs <;> rcases seen_append.mp hs' with hs' | hs'
    · exact h.agree s s' hs hs' hid hversion
    · exact hmixed s s' hs hs' hid hversion
    · exact (hmixed s' s hs' hs hid.symm hversion.symm).symm
    · have hsame := hnew s hs
      rw [hid, hnew s' hs'] at hsame
      exact congrArg CartProjection.contents (Option.some.inj hsame).symm

theorem Consistent.session {calls : List Call} : ∀ {turns : List (Turn Op.Ans Outcome)} {w : World},
    Consistent turns w → Consistent (turns ++ (session env runner calls w).1)
      (session env runner calls w).2 := by
  induction calls with
  | nil =>
      intro turns w h
      rw [Orchestrator.session, List.map_nil, runAll, List.append_nil]
      exact h
  | cons call calls ih =>
      intro turns w h
      have hrest := ih (h.turn env runner call)
      rw [List.append_assoc] at hrest
      exact hrest

theorem session_consistent (env : Env) (runner : Runner) (calls : List Call) :
    Consistent (session env runner calls World.empty).1
      (session env runner calls World.empty).2 := by
  have hempty : Consistent [] World.empty := by
    refine ⟨?_, ?_, ?_⟩
    · intro c s hs
      cases hs
    · rintro s ⟨turn, hm, -⟩
      cases hm
    · rintro s s' ⟨turn, hm, -⟩
      cases hm
  exact hempty.session

/-! ## Orders -/

/-- A checkout's order is for the lines of the snapshot it stored. -/
theorem CheckoutPath.ordersLines {request : CheckoutRequest} {tr : List (Event Op.Ans)}
    {r : Except RunnerError TransactionResult} (h : CheckoutPath runner request tr r)
    {record : OrderRecord} {x : Except StoreError Unit} (hm : ⟨.putOrder record, x⟩ ∈ tr) :
    ∃ cart, ⟨.putCartSnapshot cart, .ok ()⟩ ∈ tr ∧ record.lineItems = cart.lines := by
  have hbook {cart : CartProjection} {committed : CommitRecord} {paid : PaymentOperationResult}
      {t : List (Event Op.Ans)} {r : Except RunnerError TransactionResult}
      (hb : BookPath request cart committed paid t r) (hm : ⟨.putOrder record, x⟩ ∈ t) :
      record.lineItems = cart.lines := by
    have hrecord : ∃ b : Booking request cart committed paid, record = b.record := by
      cases hb with
      | unordered b e | unreceipted b e | unfinalized b receipt e | unannounced b receipt msg e
      | incomplete b receipt msg e | booked b receipt msg y =>
          refine ⟨b, ?_⟩
          simp [Booking.draws] at hm
          exact hm.1
    obtain ⟨b, rfl⟩ := hrecord
    rfl
  have hconclude {result : TransactionResult} {t : List (Event Op.Ans)}
      {r : Except RunnerError TransactionResult} (hc : ConcludePath request result t r) :
      ⟨.putOrder record, x⟩ ∉ t := by
    cases hc <;> simp
  cases h with
  | owned _ ho =>
      have hm := (List.mem_cons.mp hm).resolve_left (by simp)
      cases ho with
      | unsettled e y e' hs =>
          have hs := notMem_of_ops hs.settles (o := .putOrder record) rfl x
          simp [hs] at hm
      | unreserved cart e hs hr =>
          have hs := notMem_of_ops hs.settles (o := .putOrder record) rfl x
          have hr := notMem_of_ops hr.reserves (o := .putOrder record) rfl x
          simp [hs, hr] at hm
      | paid cart hs hr hp =>
          refine ⟨cart, ?_, ?_⟩
          · exact List.mem_cons_of_mem _ (List.mem_append_left _ (hs.snapshot.mpr ⟨rfl, rfl⟩))
          · have hs := notMem_of_ops hs.settles (o := .putOrder record) rfl x
            have hr := notMem_of_ops hr.reserves (o := .putOrder record) rfl x
            simp only [List.mem_append, hs, hr, false_or] at hm
            cases hp with
            | rejected errors txn corr _ hc => simp [hconclude hc] at hm
            | declined auth txn corr _ _ hc => simp [hconclude hc] at hm
            | captured auth committed capture _ _ hb => exact hbook hb (by simpa using hm)
            | _ => simp at hm
  | _ => simp at hm

/-- What each turn of a session says about versions: a command that changes a cart
stores the version after the one it read, and an order is for the lines of a snapshot
stored under the version the checkout names. -/
structure TurnVersions (turn : Turn Op.Ans Outcome) : Prop where
  next : ∀ command cartId s, turn.result = .cart command cartId (.ok s) →
    (∀ payload, command ≠ .createCart payload) → (∀ payload, command ≠ .getCart payload) →
    ∃ r c x, ⟨.getCartSnapshot c, some r⟩ ∈ turn.trace ∧
      ⟨.putCartSnapshot s, x⟩ ∈ turn.trace ∧ tookHold x ∧ s.version = r.version + 1
  ordered : ∀ request r record x, turn.result = .checkout request r →
    ⟨.putOrder record, x⟩ ∈ turn.trace →
    ∃ cart, ⟨.putCartSnapshot cart, .ok ()⟩ ∈ turn.trace ∧ record.lineItems = cart.lines ∧
      cart.cartId = request.cartId ∧ cart.version = request.cartVersion

theorem Call.turnVersions (call : Call) {w : World} (hkeyed : Keyed w.clock w) :
    TurnVersions ⟨(call.prog runner).events env.handle w,
      ((call.prog runner).run env.handle w).1⟩ := by
  obtain ⟨q, hdone, hshows⟩ := Call.turn env runner call w
  have hpath := Call.prog_trace (events_trace (h := env.handle) (call.prog runner) w)
  constructor
  · intro command cartId s hres hcreate hget
    have hcall : call = .cart command cartId := by
      rw [← hdone.started, ← hshows.call]
      exact congrArg Outcome.call hres
    rcases hshows.shown command cartId s hres with ⟨hput, hsaved⟩ | ⟨-, -, payload, hp⟩
    · obtain ⟨hputs, x, hm, hx⟩ := hdone.put s hput
      generalize hread : q.read = read at hputs
      cases hputs with
      | created payload cartId' id _ =>
          obtain ⟨hc, -⟩ := Call.cart.inj hcall
          exact absurd hc.symm (hcreate payload)
      | @edited _ r _ he =>
          obtain ⟨c, -, -, hr⟩ := hdone.read r hread
          rw [hcall] at he
          exact ⟨r, c, x, hr, hm, hx ▸ hsaved, he.version⟩
    · exact absurd hp (hget payload)
  · intro request r record x hres hm
    have hcall : call = .checkout request := by
      rw [← hdone.started, ← hshows.call]
      exact congrArg Outcome.call hres
    dsimp only at hres hm
    rw [hres] at hpath
    cases hpath with
    | checkout hpath =>
        obtain ⟨cart, hcart, hlines⟩ := hpath.ordersLines hm
        obtain ⟨hput, -⟩ := hdone.logged cart _ hcart
        obtain ⟨hputs, -⟩ := hdone.put cart hput
        refine ⟨cart, hcart, hlines, ?_⟩
        generalize hread : q.read = read at hputs
        cases hputs with
        | created payload cartId id _ => cases hcall
        | @edited _ r _ he =>
            obtain ⟨c, htarget, hr, -⟩ := hdone.read r hread
            rw [hcall] at he htarget
            obtain ⟨hversion, hsame, -⟩ := he.checkout
            refine ⟨?_, hsame.trans hversion⟩
            rw [he.cartId, (hkeyed c r hr).1]
            exact (Option.some.inj htarget).symm

theorem session_turnVersions (env : Env) (runner : Runner) (calls : List Call) :
    ∀ turn ∈ (session env runner calls World.empty).1, TurnVersions turn := by
  refine runAll_turns (I := fun w => Keyed w.clock w) (C := fun _ => True) ?_ ?_
    (fun _ _ => trivial)
  · intro p hp w hw _
    obtain ⟨call, -, rfl⟩ := List.mem_map.mp hp
    exact ⟨((Call.prog_trace (events_trace _ w)).writes (events_replays _ w) hw).1,
      call.turnVersions hw⟩
  · intro c s hs
    cases hs

end Sessions

/-- **A version names one state of a cart.**  Over every session, whatever fails: a
command that changes a cart and succeeds stores the version after the one it read;
two snapshots of one cart with one version, stored or returned at any time, have the
same contents; and an order of a checkout at a version is for the lines that any
snapshot of that version shows. -/
theorem version_names_contents (env : Env) (runner : Runner) (calls : List Call) :
    let turns := (session env runner calls World.empty).1
    (∀ turn ∈ turns, ∀ command cartId s, turn.result = .cart command cartId (.ok s) →
      (∀ payload, command ≠ .createCart payload) → (∀ payload, command ≠ .getCart payload) →
      ∃ r c x, ⟨.getCartSnapshot c, some r⟩ ∈ turn.trace ∧
        ⟨.putCartSnapshot s, x⟩ ∈ turn.trace ∧ tookHold x ∧ s.version = r.version + 1) ∧
    (∀ s s', Seen turns s → Seen turns s' → s.cartId = s'.cartId → s.version = s'.version →
      s.lines.map (·.ordered) = s'.lines.map (·.ordered) ∧
      s.adjustmentCodes = s'.adjustmentCodes ∧ s.fulfillment = s'.fulfillment) ∧
    (∀ turn ∈ turns, ∀ request r record x, turn.result = .checkout request r →
      ⟨.putOrder record, x⟩ ∈ turn.trace →
      ∀ s, Seen turns s → s.cartId = request.cartId → s.version = request.cartVersion →
        record.lineItems.map (·.ordered) = s.lines.map (·.ordered)) := by
  intro turns
  have hturns := session_turnVersions env runner calls
  have hagree : ∀ s s', Seen turns s → Seen turns s' → s.cartId = s'.cartId →
      s.version = s'.version → s.contents = s'.contents :=
    (session_consistent env runner calls).agree
  refine ⟨fun turn ht => (hturns turn ht).next, fun s s' hs hs' hid hversion => ?_, ?_⟩
  · have hsame := hagree s s' hs hs' hid hversion
    exact ⟨congrArg Prod.fst hsame, congrArg (·.2.1) hsame, congrArg (·.2.2) hsame⟩
  · intro turn ht request r record x hres hm s hs hid hversion
    obtain ⟨cart, hcart, hlines, hcid, hcversion⟩ := (hturns turn ht).ordered request r record x hres hm
    have hseen : Seen turns cart := ⟨turn, ht, Or.inl ⟨.ok (), hcart, rfl⟩⟩
    have hsame := hagree cart s hseen hs (hcid.trans hid.symm) (hcversion.trans hversion.symm)
    rw [hlines]
    exact congrArg Prod.fst hsame

end Orchestrator
