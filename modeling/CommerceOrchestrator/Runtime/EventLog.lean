/-
# `CommerceOrchestrator.Runtime.EventLog` — a cart from its log

The entries of a cart's log, folded from the first, give lines and codes (`replay`).
A command that recalculates writes its entry first and its snapshot last, with the
providers in between; and an addition logs the item it was asked for and stores the
one the catalog answered.  `log_replays_iff` says that nothing else makes the fold and
the snapshot differ.
-/
import CommerceOrchestrator.Runtime.StatusAgreement

namespace Orchestrator

open Effect Prog

variable {env : Env} {runner : Runner} {w : World} {c : CartId} {E E' : InMemoryEventStore}

/-! ## The fold -/

/-- Lines, as id, item and quantity, and adjustment codes. -/
abbrev Goods := List (String × String × Nat) × List String

/-- Set the quantity of the first line with this id. -/
def setQuantityOf (lineId : String) (quantity : Nat) :
    List (String × String × Nat) → List (String × String × Nat)
  | [] => []
  | line :: lines =>
      if line.1 = lineId then (line.1, line.2.1, quantity) :: lines
      else line :: setQuantityOf lineId quantity lines

/-- What an entry says happened to lines and codes. -/
def CartStreamEvent.apply (goods : Goods) : CartStreamEvent → Goods
  | .created .. => ([], [])
  | .itemAdded lineId itemId quantity => (goods.1 ++ [(lineId, itemId, quantity)], goods.2)
  | .itemQtyUpdated lineId quantity => (setQuantityOf lineId quantity goods.1, goods.2)
  | .itemRemoved lineId => (goods.1.filter (·.1 ≠ lineId), goods.2)
  | .adjustmentApplied code =>
      (goods.1, if code ∈ goods.2 then goods.2 else goods.2 ++ [code])
  | _ => goods

/-- Lines and codes from the log alone. -/
def replay (log : List CartStreamEvent) : Goods := log.foldl CartStreamEvent.apply ([], [])

def CartProjection.goods (s : CartProjection) : Goods :=
  (s.lines.map (·.ordered), s.adjustmentCodes)

/-- The log of every stored cart gives the lines and codes of its snapshot. -/
def LogReplays (E : InMemoryEventStore) : Prop :=
  ∀ c s, E.getCartSnapshot c = some s → replay (E.log c) = s.goods

theorem replay_append (log : List CartStreamEvent) (entry : CartStreamEvent) :
    replay (log ++ [entry]) = entry.apply (replay log) :=
  List.foldl_append

theorem apply_quiet {entry : CartStreamEvent} (h : entry.quiet) (goods : Goods) :
    entry.apply goods = goods := by
  cases entry <;> first | rfl | cases h

theorem replay_quiets (log : List CartStreamEvent) (entry : CartStreamEvent)
    {quiets : List CartStreamEvent} (h : ∀ x ∈ quiets, x.quiet) :
    replay (log ++ entry :: quiets) = entry.apply (replay log) := by
  rw [List.append_cons, replay, List.foldl_append]
  show quiets.foldl CartStreamEvent.apply (replay (log ++ [entry])) = _
  rw [← replay_append]
  generalize replay (log ++ [entry]) = goods
  induction quiets generalizing goods with
  | nil => rfl
  | cons x quiets ih =>
      rw [List.foldl_cons, apply_quiet (h x List.mem_cons_self)]
      exact ih (fun y hy => h y (List.mem_cons_of_mem _ hy)) goods

theorem Keeps.goods {s s' : CartProjection} (h : Keeps s s') : s'.goods = s.goods := by
  rw [CartProjection.goods, CartProjection.goods, h.ordered, h.codes]

/-! ## Changes and their entries -/

theorem ordered_setQuantity (s : CartProjection) (payload : UpdateItemQtyPayload) :
    (s.setQuantity payload).lines.map (·.ordered) =
      setQuantityOf payload.lineId payload.quantity (s.lines.map (·.ordered)) := by
  rw [CartProjection.setQuantity]
  dsimp only
  induction s.lines with
  | nil => rfl
  | cons line lines ih =>
      rw [updateLine, List.map_cons, setQuantityOf]
      by_cases hline : line.lineId = payload.lineId
      · have hordered : line.ordered.1 = payload.lineId := hline
        rw [if_pos hline, if_pos hordered]
        rfl
      · have hordered : line.ordered.1 ≠ payload.lineId := hline
        rw [if_neg hline, if_neg hordered, List.map_cons, ih]

theorem ordered_dropLine (s : CartProjection) (lineId : String) :
    (s.dropLine lineId).lines.map (·.ordered) =
      (s.lines.map (·.ordered)).filter (·.1 ≠ lineId) := by
  rw [CartProjection.dropLine, List.filter_map]
  rfl

/-- The catalog, asked for the item of an addition, answers with that item. -/
def CartCommand.Matches (env : Env) (n : Nat) : CartCommand → Prop
  | .addItem payload => ∀ item, env.getItem n payload.itemId = .ok item → item.id = payload.itemId
  | _ => True

/-- What the command asks for shows in the snapshot already. -/
def CartCommand.Idle (s : CartProjection) : CartCommand → Prop
  | .updateItemQty payload =>
      ∀ line ∈ s.lines.find? (·.lineId = payload.lineId), line.quantity = payload.quantity
  | .removeItem payload => ∀ line ∈ s.lines, line.lineId ≠ payload.lineId
  | .applyAdjustment payload => payload.code ∈ s.adjustmentCodes
  | _ => False

/-- An entry says what the change it records did, unless the catalog answered an addition
with another item. -/
theorem Change.apply_iff {command : CartCommand} {s s₁ : CartProjection} {entry : CartStreamEvent}
    (h : Change env w command s s₁ entry) :
    entry.apply s.goods = s₁.goods ↔ command.Matches env w.clock := by
  cases h with
  | added payload s item u hitem =>
      have hgoods : (s.addLine (payload.line item u)).goods =
          (s.goods.1 ++ [("li_" ++ u.render, item.id, payload.quantity)], s.goods.2) := by
        simp [CartProjection.goods, CartProjection.addLine, CartLineProjection.ordered,
          AddItemPayload.line]
      rw [hgoods, CartStreamEvent.apply]
      constructor
      · intro he item' hitem'
        obtain rfl := Except.ok.inj (hitem.symm.trans hitem')
        simpa using he.symm
      · intro hmatches
        rw [hmatches item hitem]
  | requantified payload s =>
      refine iff_of_true ?_ trivial
      rw [CartProjection.goods, CartProjection.goods, ordered_setQuantity]
      rfl
  | removed payload s =>
      refine iff_of_true ?_ trivial
      rw [CartProjection.goods, CartProjection.goods, ordered_dropLine]
      rfl
  | adjusted payload s => exact iff_of_true rfl trivial

theorem setQuantityOf_eq_self_iff {lineId : String} {quantity : Nat}
    {lines : List CartLineProjection} :
    setQuantityOf lineId quantity (lines.map (·.ordered)) = lines.map (·.ordered) ↔
      ∀ line ∈ lines.find? (·.lineId = lineId), line.quantity = quantity := by
  induction lines with
  | nil => simp [setQuantityOf]
  | cons line lines ih =>
      rw [List.map_cons, setQuantityOf, List.find?_cons]
      by_cases hline : line.lineId = lineId
      · have hordered : line.ordered.1 = lineId := hline
        rw [if_pos hordered]
        simp [hline, CartLineProjection.ordered, eq_comm]
      · have hordered : line.ordered.1 ≠ lineId := hline
        rw [if_neg hordered]
        simp only [hline, decide_false, List.cons.injEq, true_and]
        exact ih

/-- An entry without its change: the fold stays where it was exactly when the change
shows already. -/
theorem Change.apply_idle_iff {command : CartCommand} {s s₁ : CartProjection}
    {entry : CartStreamEvent} (h : Change env w command s s₁ entry) :
    entry.apply s.goods = s.goods ↔ command.Idle s := by
  cases h with
  | added payload s item u _ =>
      refine iff_of_false (fun he => ?_) not_false
      have hlength := congrArg (fun g => g.1.length) he
      simp [CartStreamEvent.apply] at hlength
  | requantified payload s =>
      rw [CartStreamEvent.apply, Prod.ext_iff]
      exact (and_iff_left rfl).trans setQuantityOf_eq_self_iff
  | removed payload s =>
      rw [CartStreamEvent.apply, Prod.ext_iff]
      refine (and_iff_left rfl).trans ?_
      show (s.lines.map (·.ordered)).filter _ = s.lines.map (·.ordered) ↔ _
      rw [List.filter_eq_self]
      simp [CartCommand.Idle, CartLineProjection.ordered]
  | adjusted payload s =>
      rw [CartStreamEvent.apply, Prod.ext_iff]
      refine (and_iff_right rfl).trans ?_
      show (if payload.code ∈ s.adjustmentCodes then s.adjustmentCodes
        else s.adjustmentCodes ++ [payload.code]) = s.adjustmentCodes ↔ _
      split
      · next hcode => exact iff_of_true rfl hcode
      · next hcode => exact iff_of_false (by simp) hcode

/-! ## One command -/

/-- The command, should it come to its recalculation, leaves log and snapshot in step: no
provider refuses and the catalog answers with the item asked for, or one refuses and
there was nothing to change. -/
def CartCommand.Tells (env : Env) (w : World) (cartId : Option CartId) (command : CartCommand)
    (refusals : List CartState) : Prop :=
  ∀ c s, Recalculates env w command cartId c s →
    (refusals = [] ∧ command.Matches env w.clock) ∨ (refusals ≠ [] ∧ command.Idle s)

/-- The call leaves log and snapshot in step. -/
def Call.Tells (env : Env) (runner : Runner) (call : Call) (w : World) : Prop :=
  match call with
  | .cart command cartId => command.Tells env w cartId (refusedOn env runner command cartId w)
  | .checkout _ => True

theorem Recalculates.tells_iff {command : CartCommand} {cartId : Option CartId} {s : CartProjection}
    {rs : List CartState} (h : Recalculates env w command cartId c s) :
    command.Tells env w cartId rs ↔
      (rs = [] ∧ command.Matches env w.clock) ∨ (rs ≠ [] ∧ command.Idle s) := by
  refine ⟨fun ht => ht c s h, fun ht c' s' hr => ?_⟩
  obtain rfl := Option.some.inj (h.target.symm.trans hr.target)
  obtain rfl := Option.some.inj (h.stored.symm.trans hr.stored)
  exact ht

theorem OnlyAt.logReplays_iff (h : OnlyAt c E E') (hE : LogReplays E) :
    LogReplays E' ↔ ∀ s, E'.getCartSnapshot c = some s → replay (E'.log c) = s.goods := by
  refine h.stored_iff (P := fun E c s => replay (E.log c) = s.goods) ?_ hE
  intro c' s hrecord hreplay
  have hlog : E'.log c' = E.log c' := congrArg (·.1.getD []) hrecord
  rw [hlog]
  exact hreplay

section Commands

variable {command : CartCommand} {cartId : Option CartId} {r : Except RunnerError CartProjection}
  {rs : List CartState}

theorem tells_of_other (h : command.recalculates = false) : command.Tells env w cartId rs := by
  intro c s hr
  cases h.symm.trans hr.recalculates

theorem Recalculates.moves {s : CartProjection} (h : Recalculates env w command cartId c s) :
    command.Moves env w cartId := by
  have hcommand := h.recalculates
  cases command with
  | addItem payload | updateItemQty payload | removeItem payload | applyAdjustment payload =>
      exact ⟨c, s, h⟩
  | _ => cases hcommand

/-- A quiet entry and a snapshot with the same goods. -/
theorem logReplays_quiet {entry : CartStreamEvent} {s s' : CartProjection} (hquiet : entry.quiet)
    (hstored : w.events.getCartSnapshot c = some s) (hgoods : s'.goods = s.goods)
    (hlog : LogReplays w.events) (honly : OnlyAt c w.events E)
    (hsnapshot : E.getCartSnapshot c = some s') (hE : E.log c = w.events.log c ++ [entry]) :
    LogReplays E := by
  refine (honly.logReplays_iff hlog).mpr fun s'' hs'' => ?_
  obtain rfl := Option.some.inj (hsnapshot.symm.trans hs'')
  rw [hE, replay_append, apply_quiet hquiet, hlog c s hstored, hgoods]

/-- **One command.**  It leaves log and snapshots in step exactly when it tells. -/
theorem Ending.logReplays_iff (h : Ending env w command cartId r E rs) (hw : Grounded w)
    (hlog : LogReplays w.events) : LogReplays E ↔ command.Tells env w cartId rs := by
  have hdeclared {c : CartId} {fits : CartProjection → Prop} {status : CartStatus}
      {event : CartEvent} {entry : CartStreamEvent} (hquiet : entry.quiet)
      (hd : Declared w c fits status event entry r E) : LogReplays E := by
    have honly := hd.onlyAt (hw.filed c)
    cases hd with
    | barred e _ => exact hlog
    | stuck e s hstored _ _ | made s st hstored _ _ =>
        have hid : (s.setStatus status).cartId = c := hw.filed c s hstored
        have hgoods : (s.setStatus status).goods = s.goods := rfl
        subst hid
        exact logReplays_quiet hquiet hstored hgoods hlog honly (AList.lookup_insert _)
          (InMemoryEventStore.log_appendCartEvent _)
  cases h with
  | unmoved command cartId r rs hno =>
      exact iff_of_true hlog fun c s hr => absurd hr.moves hno
  | created payload cartId rs =>
      refine iff_of_true (((onlyAt_created w payload).logReplays_iff hlog).mpr fun s hs => ?_)
        (tells_of_other rfl)
      have hput : s = payload.cart ⟨⟨w.clock⟩⟩ :=
        Option.some.inj (hs.symm.trans (AList.lookup_insert _))
      subst hput
      refine (congrArg replay (InMemoryEventStore.log_appendCartEvent _)).trans ?_
      rw [replay_append]
      rfl
  | @changed command cartId c s s₁ s₂ entry quiets E₁ hr hchange hrecalc hlogged hquiet =>
      have hid : s₂.cartId = c := (hchange.keeps_cartId hrecalc).trans (hw.filed c s hr.stored)
      have honly : OnlyAt c w.events _ := OnlyAt.put hlogged.walked.others hid
      have hE : replay ((E₁.putCartSnapshot s₂).log c) = entry.apply s.goods := by
        rw [← hlog c s hr.stored, ← replay_quiets _ entry hquiet, ← hlogged.log]
        rfl
      rw [honly.logReplays_iff hlog, hr.tells_iff, hE]
      have hiff := hchange.apply_iff
      rw [← hrecalc.keeps.goods] at hiff
      subst hid
      refine Iff.trans ⟨fun h => h s₂ (AList.lookup_insert _), fun h s' hs' => ?_⟩ (hiff.trans ?_)
      · obtain rfl : s₂ = s' := Option.some.inj ((AList.lookup_insert _).symm.trans hs')
        exact h
      · simp
  | refused command cartId c s s₁ entry e st quiets hr hchange hlogged hquiet _ =>
      have honly : OnlyAt c w.events E := hlogged.walked.others
      have hE : replay (E.log c) = entry.apply s.goods := by
        rw [← hlog c s hr.stored, ← replay_quiets _ entry hquiet, ← hlogged.log]
      have hsnapshot : E.getCartSnapshot c = some s := by
        rw [InMemoryEventStore.getCartSnapshot, hlogged.walked.snapshots]
        exact hr.stored
      rw [honly.logReplays_iff hlog, hr.tells_iff, hE]
      refine Iff.trans ⟨fun h => h s hsnapshot, fun h s' hs' => ?_⟩
        (hchange.apply_idle_iff.trans ?_)
      · obtain rfl := Option.some.inj (hsnapshot.symm.trans hs')
        exact h
      · simp
  | selected payload cartId c s s' entry rs hstored hkeeps hquiet =>
      have hid : s'.cartId = c := hkeeps.cartId.trans (hw.filed c s hstored)
      have honly : OnlyAt c w.events _ := (onlyAt_refl.append entry).put hid
      refine iff_of_true ?_ (tells_of_other rfl)
      subst hid
      exact logReplays_quiet hquiet hstored hkeeps.goods hlog honly (AList.lookup_insert _)
        (InMemoryEventStore.log_appendCartEvent _)
  | readied payload cartId rs _ hd => exact iff_of_true (hdeclared rfl hd) (tells_of_other rfl)
  | cancelled payload cartId rs hd => exact iff_of_true (hdeclared rfl hd) (tells_of_other rfl)

end Commands

/-! ## Sessions -/

theorem goods_unpriced (s : CartProjection) : s.unpriced.goods = s.goods := by
  simp [CartProjection.goods, CartProjection.unpriced, CartLineProjection.ordered,
    CartLineProjection.unpriced, Function.comp_def]

/-- A checkout leaves logs, lines and codes as they are. -/
theorem Grounded.checkout_logReplays (h : Grounded w) (request : CheckoutRequest)
    (hlog : LogReplays w.events) :
    LogReplays ((Call.checkout request).after env runner w).events := by
  have honly : OnlyAt request.cartId w.events
      ((Call.checkout request).after env runner w).events := by
    intro c hc
    exact (h.others env runner (.checkout request)
      fun he => hc (Option.some.inj he).symm).resolve_right (by simp [Call.creates])
  refine (honly.logReplays_iff hlog).mpr fun s hs => ?_
  obtain ⟨hsame, hsnapshot, -⟩ := h.checkout env runner request
  have hsnapshot : (((Call.checkout request).after env runner w).events.getCartSnapshot
      request.cartId).map (·.unpriced) =
      (w.events.getCartSnapshot request.cartId).map (·.unpriced) := hsnapshot
  rw [hs] at hsnapshot
  obtain ⟨s₀, hs₀, hunpriced⟩ := Option.map_eq_some_iff.mp hsnapshot.symm
  have hunpriced : s₀.unpriced = s.unpriced := hunpriced
  rw [InMemoryEventStore.log, hsame, ← goods_unpriced s, ← hunpriced, goods_unpriced]
  exact hlog _ s₀ hs₀

/-- A call leaves log and snapshots in step exactly when it tells. -/
theorem Call.logReplays_iff (hs : env.StoresAnswer) (runner : Runner) (call : Call)
    (hw : Grounded w) (hlog : LogReplays w.events) :
    LogReplays (call.after env runner w).events ↔ call.Tells env runner w := by
  cases call with
  | cart command cartId =>
      obtain ⟨r, h⟩ := Call.ending hs runner w command cartId
      exact h.logReplays_iff hw hlog
  | checkout request => exact iff_of_true (hw.checkout_logReplays request hlog) trivial

/-- **The log tells the cart exactly when every change is told as it was made.**  With
stores that answer: throughout a session from nothing, the log of every stored cart folds
to the lines and codes of its snapshot, if and only if for every item change that comes to
its recalculation no provider refuses and the catalog answered with the item asked for, or
a provider refuses and what was asked for shows in the snapshot already. -/
theorem log_replays_iff (env : Env) (hs : env.StoresAnswer) (runner : Runner)
    (calls : List Call) :
    Throughout env runner (fun w => LogReplays w.events) calls World.empty ↔
      EachCall env runner (fun call w => call.Tells env runner w) calls World.empty := by
  refine throughout_iff Grounded ?_ ?_ calls grounded_empty ?_
  · exact fun call w hw => hw.after call
  · exact fun call w hw hlog => call.logReplays_iff hs runner hw hlog
  · intro c s hs
    cases hs

/-- The sample cart, created and filled: its log tells it. -/
theorem log_replays_iff_sample :
    Throughout Env.agreeable Sample.runner (fun w => LogReplays w.events) Sample.shopping
      World.empty := by
  refine (log_replays_iff Env.agreeable (fun _ _ => rfl) Sample.runner Sample.shopping).mpr ?_
  refine ⟨tells_of_other rfl, fun c s hr => Or.inl ⟨by decide +kernel, ?_⟩, trivial⟩
  intro item hitem
  obtain rfl := Except.ok.inj hitem
  rfl

/-- A refused code: the log has it, the snapshot does not. -/
theorem refused_code_log_differs :
    ¬ LogReplays (session Env.expired Sample.runner
      (Sample.shopping ++ [.cart (.applyAdjustment ⟨"SAVE10"⟩) (some Sample.cart.cartId)])
      World.empty).2.events := by
  intro h
  generalize hw : (session Env.expired Sample.runner
    (Sample.shopping ++ [.cart (.applyAdjustment ⟨"SAVE10"⟩) (some Sample.cart.cartId)])
    World.empty).2 = w at h
  have hstored : (w.events.getCartSnapshot Sample.cart.cartId).map (·.adjustmentCodes) =
      some [] := by
    rw [← hw]
    decide +kernel
  have hlog : (replay (w.events.log Sample.cart.cartId)).2 = ["SAVE10"] := by
    rw [← hw]
    decide +kernel
  obtain ⟨s, hs, hcodes⟩ := Option.map_eq_some_iff.mp hstored
  rw [h _ s hs] at hlog
  cases hcodes.symm.trans hlog

end Orchestrator
