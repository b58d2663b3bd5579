/-
# `CommerceOrchestrator.Runtime.LineIds` — no two lines of a cart share an id

An addition reads its cart before it draws the id of the new line, and no other call puts a
line that it has not read (`Call.prog_numbers`).  So in every store that a run of calls reaches
the lines of a cart have ids of their own, drawn before (`Reached.linesNumbered`), whatever
the order in which the calls take their turns.
-/
import CommerceOrchestrator.Runtime.Accounting
import CommerceOrchestrator.Runtime.CartFrames

namespace Orchestrator

open Effect Prog

variable {env : Env} {runner : Runner} {w w' : World} {ids ids' : List String}

/-! ## Numbers -/

def CartProjection.lineIds (s : CartProjection) : List String := s.lines.map (·.lineId)

/-- Ids of lines: no two the same, and all drawn before now. -/
structure Numbered (w : World) (ids : List String) : Prop where
  nodup : ids.Nodup
  drawn : ∀ id ∈ ids, Drawn "li_" w id

theorem Numbered.sublist (h : Numbered w ids) (hsub : List.Sublist ids' ids) : Numbered w ids' :=
  ⟨hsub.nodup h.nodup, fun id hid => h.drawn id (hsub.subset hid)⟩

theorem Numbered.mono (h : Numbered w ids) (hle : w.clock ≤ w'.clock) : Numbered w' ids :=
  ⟨h.nodup, fun id hid => (h.drawn id hid).mono hle⟩

theorem Numbered.step {o : Op} (h : Numbered w ids) : Numbered (env.handle o w).2 ids := by
  refine h.mono ?_
  rw [Env.handle_clock]
  exact Nat.le_succ _

/-- An id drawn now is none of those drawn before. -/
theorem Numbered.draw (h : Numbered w ids) :
    Numbered (env.handle .newUuid w).2 (ids ++ ["li_" ++ (env.handle .newUuid w).1.render]) := by
  refine ⟨?_, ?_⟩
  · refine List.nodup_append.mpr ⟨h.nodup, List.nodup_singleton _, fun id hid id' hid' he => ?_⟩
    obtain rfl := he.trans (List.mem_singleton.mp hid')
    exact not_drawn (Nat.le_refl _) (h.drawn _ hid)
  · intro id hid
    rcases List.mem_append.mp hid with hid | hid
    · exact h.step.drawn id hid
    · obtain rfl := List.mem_singleton.mp hid
      exact drawn_newUuid rfl

/-! ## The lines a call puts -/

/-- A call puts lines it has read, and lines under ids it has drawn since. -/
def lineMonitor : Monitor Op.Ans (List String) where
  allow o ids :=
    match o with
    | .putCartSnapshot s => List.Sublist s.lineIds ids
    | _ => True
  rely _ _ _ := True
  next o ids x :=
    match o, x with
    | .getCartSnapshot _, some s => s.lineIds
    | .newUuid, u => ids ++ ["li_" ++ u.render]
    | _, _ => ids

section Edits

variable {A : Answers} {call : Call} {s s' : CartProjection}

theorem lineIds_of_contents (h : s'.contents = s.contents) : s'.lineIds = s.lineIds := by
  have hordered : s'.lines.map (·.ordered) = s.lines.map (·.ordered) := congrArg Prod.fst h
  have hids := congrArg (List.map Prod.fst) hordered
  rw [List.map_map, List.map_map] at hids
  exact hids

theorem Recalculated.lineIds (h : Recalculated A s s') : s'.lineIds = s.lineIds :=
  lineIds_of_contents h.same.2.2

theorem Discounted.lines (h : Discounted A s s') : s'.lines = s.lines := by
  cases h <;> rfl

theorem lineIds_of_lines (h : s'.lines = s.lines) : s'.lineIds = s.lineIds :=
  congrArg (List.map CartLineProjection.lineId) h

theorem setQuantity_lineIds (payload : UpdateItemQtyPayload) :
    (s.setQuantity payload).lineIds = s.lineIds :=
  updateLine_map (f := fun line => { line with
    quantity := payload.quantity
    totalMinor := line.unitPriceMinor * payload.quantity }) (·.lineId) (fun _ => rfl) s.lines

/-- Only an addition brings a line. -/
theorem Edited.lineIds (h : Edited A runner call s s')
    (hadds : ∀ payload cartId, call ≠ .cart (.addItem payload) cartId) :
    List.Sublist s'.lineIds s.lineIds := by
  cases h with
  | added payload cartId item id _ _ _ => exact absurd rfl (hadds payload cartId)
  | requantified payload cartId _ hr =>
      rw [hr.lineIds, setQuantity_lineIds]
  | removed payload cartId hr =>
      rw [hr.lineIds]
      exact List.filter_sublist.map _
  | adjusted payload cartId hr | repriced request _ hr =>
      have hids : s'.lineIds = s.lineIds := hr.lineIds
      rw [hids]
  | selected payload cartId lineItemIds options group method geo _ _ hd _ =>
      have hids := lineIds_of_lines hd.lines
      exact hids ▸ List.Sublist.refl _
  | readied payload cartId _ | cancelled payload cartId => exact List.Sublist.refl _

/-- What a call puts that adds nothing, given what it has read. -/
theorem Puts.lineIds {read : Option CartProjection} (h : Puts A runner call read s)
    (hadds : ∀ payload cartId, call ≠ .cart (.addItem payload) cartId)
    (hread : ∀ r, read = some r → List.Sublist r.lineIds ids) : List.Sublist s.lineIds ids := by
  cases h with
  | created payload cartId id _ => exact List.nil_sublist _
  | edited he => exact (he.lineIds hadds).trans (hread _ rfl)

end Edits

section Follows

variable {β : Type} {P : Progress → Prop} {call : Call}

theorem lineMonitor_accepts {tr : List (Event Op.Ans)} {q : Progress}
    (hadds : ∀ payload cartId, q.call ≠ .cart (.addItem payload) cartId)
    (hread : ∀ r, q.read = some r → List.Sublist r.lineIds ids)
    (h : (editMonitor (fun _ => True) runner).Accepts P tr q) :
    lineMonitor.Accepts (fun _ => True) tr ids := by
  induction tr generalizing q ids with
  | nil => exact trivial
  | cons e tr ih =>
      obtain ⟨o, x⟩ := e
      obtain ⟨hallow, hrest⟩ := h
      have hrest := hrest trivial
      cases o with
      | getCartSnapshot c =>
          refine ⟨trivial, fun _ => ih (q := { q with read := x }) hadds (fun r hr => ?_) hrest⟩
          have hx : x = some r := hr
          rw [hx]
          exact List.Sublist.refl _
      | putCartSnapshot s =>
          exact ⟨hallow.1.lineIds hadds hread, fun _ =>
            ih (q := { q with put := some s, saved := tookHold x }) hadds hread hrest⟩
      | newUuid =>
          refine ⟨trivial, fun _ => ih hadds (fun r hr => ?_) hrest⟩
          exact (hread r hr).trans (List.sublist_append_left _ _)
      | _ => exact ⟨trivial, fun _ => ih hadds hread hrest⟩

/-- An operation that neither reads a cart nor draws nor puts, in front of the rest. -/
theorem numbers_bind {ε α : Type} {f : ε → RunnerError} {p : Eff (Except ε α)} {k : α → Run β}
    (hp : p.Follows lineMonitor (fun _ ids' => ids' = ids) ids)
    (h : ∀ a, (k a).run.Follows lineMonitor (onOk fun _ _ => True) ids) :
    (tryWith f p >>= k).run.Follows lineMonitor (onOk fun _ _ => True) ids :=
  (unseen_tryWith hp).then h

theorem numbers_transition {c : CartId} {event : CartEvent} {k : Unit → Run β}
    (h : (k ()).run.Follows lineMonitor (onOk fun _ _ => True) ids) :
    (transitionCart c event >>= k).run.Follows lineMonitor (onOk fun _ _ => True) ids :=
  (unseen_transitionCart ⟨trivial, fun _ => rfl⟩ fun _ => ⟨trivial, fun _ => rfl⟩).then fun _ => h

/-- A recalculation puts the lines it is given. -/
theorem mutateAndRecalculate_numbers {c : CartId} {cart : CartProjection}
    {event : CartStreamEvent} (hcart : List.Sublist cart.lineIds ids) :
    (mutateAndRecalculate c cart event).run.Follows lineMonitor (onOk fun _ _ => True) ids := by
  unfold mutateAndRecalculate
  refine numbers_transition (numbers_bind ⟨trivial, fun _ _ => rfl⟩ fun _ => ?_)
  refine numbers_bind ⟨trivial, fun _ _ => rfl⟩ fun prices => ?_
  refine numbers_transition (numbers_bind ⟨trivial, fun _ _ => rfl⟩ fun _ => ?_)
  refine numbers_bind ⟨trivial, fun _ _ => rfl⟩ fun tax => ?_
  refine follows_run_then (follows_applyDiscounts ⟨trivial, fun _ => rfl⟩) fun _ ids' hr => ?_
  obtain ⟨⟨ds, discount, total, rfl⟩, rfl⟩ := hr
  refine numbers_transition (numbers_bind ⟨trivial, fun _ _ => rfl⟩ fun _ => ?_)
  refine (unseen_checkGeo ⟨trivial, fun _ => rfl⟩).then fun allowed => ?_
  refine numbers_transition (numbers_bind ⟨trivial, fun _ _ => rfl⟩ fun _ => ?_)
  have hids : (applyPrices cart.lines prices).map (·.lineId) = cart.lineIds :=
    applyPrices_map (·.lineId) (fun _ _ => rfl) cart.lines prices
  rw [← hids] at hcart
  exact numbers_bind ⟨hcart, fun _ _ => rfl⟩ fun _ => trivial

/-- An addition draws the id of its line after it has read the cart. -/
theorem addItem_numbers (payload : AddItemPayload) (cartId : Option CartId) :
    (addItem payload cartId).run.Follows lineMonitor (onOk fun _ _ => True) ids := by
  unfold addItem
  refine follows_okOr fun c _ => numbers_bind ⟨trivial, fun _ _ => rfl⟩ fun item => ?_
  refine follows_run_bind ⟨trivial, fun x _ => ?_⟩
  cases x with
  | none => exact trivial
  | some s =>
      refine follows_call trivial fun u _ => mutateAndRecalculate_numbers ?_
      rw [CartProjection.lineIds, List.map_append]
      exact List.Sublist.refl _

/-- **Every call puts lines it has read, or under ids drawn since.** -/
theorem Call.prog_numbers (runner : Runner) (call : Call) :
    (call.prog runner).Follows lineMonitor (fun _ _ => True) [] := by
  by_cases hadds : ∃ payload cartId, call = .cart (.addItem payload) cartId
  · obtain ⟨payload, cartId, rfl⟩ := hadds
    have hfollows : (dispatchCartCommand runner (.addItem payload) cartId).run.Follows lineMonitor
        (onOk fun _ _ => True) [] := follows_failIf fun _ => addItem_numbers payload cartId
    exact follows_bind.mpr (hfollows.mono fun _ _ _ => trivial)
  · refine Follows.of_trace fun tr out ht => ?_
    have hedits : (call.prog runner).Follows (editMonitor (fun _ => True) runner) Shows
        ⟨call, none, none, false⟩ := Call.prog_edits call
    refine lineMonitor_accepts (q := ⟨call, none, none, false⟩) ?_ (fun r hr => ?_)
      (hedits.trace ht)
    · exact fun payload cartId he => hadds ⟨payload, cartId, he⟩
    · cases hr

end Follows

/-! ## Reached stores -/

/-- The lines of every stored cart have ids of their own, drawn before. -/
def LinesNumbered (w : World) : Prop :=
  ∀ c s, w.events.getCartSnapshot c = some s → Numbered w s.lineIds

theorem linesNumbered_empty : LinesNumbered World.empty := by
  intro c s hs
  cases hs

variable (env) in
/-- The stored lines, and those a call may put, after one more operation. -/
theorem LinesNumbered.step {o : Op} (h : LinesNumbered w) (hids : Numbered w ids)
    (ho : lineMonitor.allow o ids) :
    LinesNumbered (env.handle o w).2 ∧
      Numbered (env.handle o w).2 (lineMonitor.next o ids (env.handle o w).1) := by
  have hstored (hput : ∀ s, o ≠ .putCartSnapshot s) : LinesNumbered (env.handle o w).2 := by
    intro c s hs
    rw [Env.handle_snapshot hput] at hs
    exact (h c s hs).step
  cases o with
  | putCartSnapshot s =>
      refine ⟨fun c s' hs' => ?_, hids.step⟩
      rw [Env.handle_putCartSnapshot_snapshot] at hs'
      split at hs'
      · obtain rfl := Option.some.inj hs'
        exact (hids.sublist ho).step
      · exact (h c s' hs').step
  | getCartSnapshot c =>
      refine ⟨hstored (by simp), ?_⟩
      generalize hx : (env.handle (.getCartSnapshot c) w).1 = x
      cases x with
      | none => exact hids.step
      | some s => exact (h c s (World.read_some hx)).step
  | newUuid => exact ⟨hstored (by simp), hids.draw⟩
  | _ => exact ⟨hstored (by simp), hids.step⟩

/-- No snapshot was put with two lines of one id. -/
def PutsNumbered (log : List CallEntry) : Prop :=
  ∀ t s x, .did t ⟨.putCartSnapshot s, x⟩ ∈ log → s.lineIds.Nodup

theorem PutsNumbered.did {log : List CallEntry} {t : Nat} {o : Op} {x : o.Ans}
    (h : PutsNumbered log) (hids : Numbered w ids) (ho : lineMonitor.allow o ids) :
    PutsNumbered (log ++ [.did t ⟨o, x⟩]) := by
  intro t' s x' hm
  rcases List.mem_append.mp hm with hm | hm
  · exact h t' s x' hm
  · cases List.mem_singleton.mp hm
    exact ho.nodup hids.nodup

theorem PutsNumbered.returned {log : List CallEntry} {t : Nat} {out : Outcome}
    (h : PutsNumbered log) : PutsNumbered (log ++ [.returned t out]) :=
  fun t' s x hm => h t' s x (by simpa using hm)

/-- **The lines of a cart have ids of their own**, in the stores that calls at once lead to and
in every snapshot they put on the way. -/
theorem atOnce_numbered (env : Env) (runner : Runner) (calls : List Call) (ts : List Nat) :
    LinesNumbered (atOnce env runner calls ts World.empty).world ∧
      PutsNumbered (atOnce env runner calls ts World.empty).log := by
  have hfollow : Pool.AllFollow lineMonitor (fun _ _ _ => True) (fun _ => [])
      (Pool.start World.empty (calls.map (·.prog runner))) := by
    intro t p hp
    rw [threadCall_prog hp]
    exact Call.prog_numbers runner _
  obtain ⟨φ, ⟨hnumbered, -, hputs⟩, -⟩ := Pool.run_invariant (C := fun _ _ _ => True)
    (I := fun w φ log => LinesNumbered w ∧ (∀ t, Numbered w (φ t)) ∧ PutsNumbered log)
    (by
      rintro w φ log t o x w' ⟨hw, hids, hputs⟩ ho _ hx
      obtain ⟨rfl, rfl⟩ := Handler.shared_eq_some.mp hx
      obtain ⟨hw', hids'⟩ := hw.step env (hids t) ho
      have hnext : ∀ t', Numbered (env.handle o w).2
          (Function.update φ t (lineMonitor.next o (φ t) (env.handle o w).1) t') := by
        rw [Function.forall_update_iff φ fun _ ids => Numbered (env.handle o w).2 ids]
        exact ⟨hids', fun t' _ => (hids t').step⟩
      have hputs' := hputs.did (t := t) (x := (env.handle o w).1) (hids t) ho
      refine ⟨trivial, ⟨hw', hnext, hputs'⟩, fun out _ => ⟨hw', hnext, ?_⟩⟩
      rw [List.append_cons]
      exact hputs'.returned)
    ts ⟨linesNumbered_empty, fun _ => ⟨List.nodup_nil, fun _ h => absurd h List.not_mem_nil⟩,
      fun _ _ _ hm => absurd hm List.not_mem_nil⟩
    hfollow Pool.stepsMeet_true
  exact ⟨hnumbered, hputs⟩

theorem Reached.linesNumbered (h : Reached env runner w) : LinesNumbered w := by
  obtain ⟨calls, ts, rfl⟩ := h
  exact (atOnce_numbered env runner calls ts).1

theorem LinesNumbered.after (h : LinesNumbered w) (call : Call) :
    LinesNumbered (call.after env runner w) := by
  obtain ⟨ids, ⟨hnumbered, -⟩, -⟩ := (Call.prog_numbers runner call).run_invariant
    (h := env.handle) (w := w) (l := []) (I := fun v ids _ => LinesNumbered v ∧ Numbered v ids)
    (fun v ids l o hv ho => ⟨trivial, hv.1.step env hv.2 ho⟩)
    ⟨h, List.nodup_nil, fun _ h => absurd h List.not_mem_nil⟩
  exact hnumbered

end Orchestrator
