/-
# `CommerceOrchestrator.Api.CartUpdates` — replacing the lines of a cart

UCP and ACP update a cart by sending the lines it should have.  The handlers read the cart,
remove the lines that are not listed, and then go through the list: an entry with an id changes
the quantity of that line, one without adds a line.  Each of these is a command of its own.

When the last of them has succeeded the cart has the lines listed and no others
(`LineSteps.replaces`).  When one fails the handler returns, and those before it stand.
-/
import CommerceOrchestrator.Api.AcpComplete
import CommerceOrchestrator.Runtime.EditEffects
import CommerceOrchestrator.Runtime.EventLog
import CommerceOrchestrator.Runtime.LineIds

namespace Orchestrator

open Effect Prog

/-! ## The handlers -/

/-- An entry of `line_items`, alike in UCP and ACP. -/
structure CartLineRequest where
  id : Option String
  itemId : String
  quantity : Nat
deriving DecidableEq, Repr

/-- A call of one of the handlers. -/
structure CartUpdate where
  auth : AuthContext
  headers : AcpHeaders
  id : String
  lineItems : List CartLineRequest

section Loops

variable (env : Env) (runner : Runner) (tenantId : String) (cartId : CartId)

/-- The first loop: lines that are not desired are removed. -/
def removeAbsent (desired : List String) :
    List String → CartProjection → World → Except FacadeError CartProjection × World
  | [], projection, w => (.ok projection, w)
  | lineId :: currentIds, projection, w =>
      if lineId ∈ desired then removeAbsent desired currentIds projection w
      else
        match env.forTenant runner tenantId (.removeItem ⟨lineId⟩) (some cartId) w with
        | (.error e, w) => (.error e, w)
        | (.ok projection, w) => removeAbsent desired currentIds projection w

/-- The second loop: each entry changes a line or adds one. -/
def putEntries :
    List CartLineRequest → CartProjection → World → Except FacadeError CartProjection × World
  | [], projection, w => (.ok projection, w)
  | line :: lineItems, _, w =>
      let done :=
        match line.id with
        | some lineId =>
            env.forTenant runner tenantId (.updateItemQty ⟨lineId, line.quantity⟩) (some cartId) w
        | none =>
            env.forTenant runner tenantId (.addItem ⟨line.itemId, line.quantity⟩) (some cartId) w
      match done with
      | (.error e, w) => (.error e, w)
      | (.ok projection, w) => putEntries lineItems projection w

/-- What the handlers do once the id is known. -/
def replaceLines (lineItems : List CartLineRequest) (w : World) :
    Except FacadeError CartProjection × World :=
  match env.forTenant runner tenantId (.getCart ⟨cartId⟩) none w with
  | (.error e, w) => (.error e, w)
  | (.ok projection, w) =>
      let desired := lineItems.filterMap (·.id)
      let currentIds := projection.lines.map (·.lineId)
      match removeAbsent env runner tenantId cartId desired currentIds projection w with
      | (.error e, w) => (.error e, w)
      | (.ok projection, w) => putEntries env runner tenantId cartId lineItems projection w

end Loops

/-- Answer and world of a call, given the outcome of parsing its id. -/
def CartUpdate.answer (call : CartUpdate) (env : Env) (runner : Runner) (w : World) :
    Except ApiError CartId → Except ApiError CartProjection × World
  | .error e => (.error e, w)
  | .ok cartId =>
      let done := replaceLines env runner call.auth.tenantId cartId call.lineItems w
      (done.1.mapError .orchestrator, done.2)

section Handlers

variable (env : Env) (runner : Runner)
-- `Uuid::from_str`, with the text of its error
variable (parseCartId : String → Except String CartId)

def parseAcpCartId (id : String) : Except String CartId :=
  (parseCartId (if id.startsWith "cart_" then (id.drop 5).toString else id)).mapError
    ("invalid cart id: " ++ ·)

/-- The three handlers. -/
inductive UpdateRoute
  | ucpCart
  | acpSession
  | acpCart
deriving DecidableEq, Repr

/-- What is checked before any cart is looked at. -/
def UpdateRoute.cartId (call : CartUpdate) : UpdateRoute → Except ApiError CartId
  | .ucpCart => (parseCartId call.id).mapError .badRequest
  | .acpSession => do
      let _ ← acpVersionFromHeaders call.headers
      (parseAcpSessionId parseCartId call.id).mapError .badRequest
  | .acpCart => do
      let _ ← acpVersionFromHeaders call.headers
      (parseAcpCartId parseCartId call.id).mapError .badRequest

/-- The projection is what the response is made of. -/
def ucpUpdateCart (call : CartUpdate) (w : World) : Except ApiError CartProjection × World :=
  call.answer env runner w (UpdateRoute.ucpCart.cartId parseCartId call)

def acpUpdateSession (call : CartUpdate) (w : World) : Except ApiError CartProjection × World :=
  call.answer env runner w (UpdateRoute.acpSession.cartId parseCartId call)

def acpUpdateCartEndpoint (call : CartUpdate) (w : World) :
    Except ApiError CartProjection × World :=
  call.answer env runner w (UpdateRoute.acpCart.cartId parseCartId call)

def UpdateRoute.update (call : CartUpdate) (w : World) :
    UpdateRoute → Except ApiError CartProjection × World
  | .ucpCart => ucpUpdateCart env runner parseCartId call w
  | .acpSession => acpUpdateSession env runner parseCartId call w
  | .acpCart => acpUpdateCartEndpoint env runner parseCartId call w

end Handlers

/-! ## Lines, one command after the other -/

/-- Lines as id, item and quantity. -/
abbrev OrderLines := List (String × String × Nat)

def CartProjection.orderLines (s : CartProjection) : OrderLines := s.lines.map (·.ordered)

def OrderLines.ids (lines : OrderLines) : List String := lines.map (·.1)

/-- The quantity of a line, if its id is `lineId`. -/
def setTo (lineId : String) (quantity : Nat) (line : String × String × Nat) :
    String × String × Nat :=
  if line.1 = lineId then (line.1, line.2.1, quantity) else line

/-- What one command makes of the lines of a cart; `A` are the answers that may be given. -/
inductive LineStep (A : Answers) : CartCommand → OrderLines → OrderLines → Prop
  | removed (lineId : String) (lines : OrderLines) :
      LineStep A (.removeItem ⟨lineId⟩) lines (lines.filter (·.1 ≠ lineId))
  | requantified (payload : UpdateItemQtyPayload) (lines : OrderLines) :
      payload.lineId ∈ lines.ids →
      LineStep A (.updateItemQty payload) lines
        (lines.map (setTo payload.lineId payload.quantity))
  | added (payload : AddItemPayload) (item : CatalogItem) (lineId : String) (lines : OrderLines) :
      A ⟨.getItem payload.itemId, .ok item⟩ → lineId ∉ lines.ids →
      LineStep A (.addItem payload) lines (lines ++ [(lineId, item.id, payload.quantity)])

/-- What commands make of the lines, one after the other. -/
def LineSteps (A : Answers) : List CartCommand → OrderLines → OrderLines → Prop
  | [], before, after => after = before
  | command :: commands, before, after =>
      ∃ lines, LineStep A command before lines ∧ LineSteps A commands lines after

section Lines

variable {A : Answers} {lines before after : OrderLines} {lineId : String} {quantity : Nat}

theorem lineSteps_append {commands commands' : List CartCommand} :
    LineSteps A (commands ++ commands') before after ↔
      ∃ lines, LineSteps A commands before lines ∧ LineSteps A commands' lines after := by
  induction commands generalizing before with
  | nil => simp [LineSteps]
  | cons command commands ih =>
      simp only [List.cons_append, LineSteps, ih]
      constructor
      · rintro ⟨lines, hstep, lines', hsteps, hrest⟩
        exact ⟨lines', ⟨lines, hstep, hsteps⟩, hrest⟩
      · rintro ⟨lines', ⟨lines, hstep, hsteps⟩, hrest⟩
        exact ⟨lines, hstep, lines', hsteps, hrest⟩

@[simp] theorem setTo_fst {line : String × String × Nat} :
    (setTo lineId quantity line).1 = line.1 := by
  unfold setTo
  split <;> rfl

theorem ids_setTo : OrderLines.ids (lines.map (setTo lineId quantity)) = lines.ids := by
  simp [OrderLines.ids]

/-- Where ids are distinct, the first line with an id is the only one. -/
theorem setQuantityOf_of_nodup (h : lines.ids.Nodup) :
    setQuantityOf lineId quantity lines = lines.map (setTo lineId quantity) := by
  induction lines with
  | nil => rfl
  | cons line lines ih =>
      obtain ⟨hfirst, hrest⟩ := List.nodup_cons.mp h
      have hfirst : line.1 ∉ lines.map (·.1) := hfirst
      rw [setQuantityOf, List.map_cons]
      by_cases hline : line.1 = lineId
      · subst hline
        have hothers : lines.map (setTo line.1 quantity) = lines := by
          refine (List.map_congr_left fun l hl => ?_).trans (List.map_id lines)
          have hm : l.1 ∈ lines.map (·.1) := List.mem_map_of_mem hl
          exact if_neg fun he : l.1 = line.1 => hfirst (he ▸ hm)
        rw [if_pos rfl, hothers, setTo, if_pos rfl]
      · rw [if_neg hline, ih hrest, setTo, if_neg hline]

/-- Removals, one after the other. -/
theorem LineSteps.removals {lineIds : List String}
    (h : LineSteps A (lineIds.map fun lineId => .removeItem ⟨lineId⟩) before after) :
    after = before.filter (·.1 ∉ lineIds) := by
  induction lineIds generalizing before with
  | nil => simpa [LineSteps] using h
  | cons lineId lineIds ih =>
      obtain ⟨lines, hstep, hrest⟩ := h
      cases hstep
      rw [ih hrest, List.filter_filter]
      refine List.filter_congr fun line _ => ?_
      simp [not_or, Bool.and_comm]

end Lines

/-! ## The lines asked for -/

/-- The command for an entry. -/
def CartLineRequest.command (line : CartLineRequest) : CartCommand :=
  match line.id with
  | some lineId => .updateItemQty ⟨lineId, line.quantity⟩
  | none => .addItem ⟨line.itemId, line.quantity⟩

/-- The quantity asked for of a line: that of the last entry that names it. -/
def quantityAsked (lineItems : List CartLineRequest) (lineId : String) : Option Nat :=
  (lineItems.reverse.find? (·.id = some lineId)).map (·.quantity)

/-- A line with the quantity asked for, if one is. -/
def asAsked (lineItems : List CartLineRequest) (line : String × String × Nat) :
    String × String × Nat :=
  (line.1, line.2.1, (quantityAsked lineItems line.1).getD line.2.2)

/-- The line that an entry without an id adds: of the item the catalog answers. -/
def AddedFor (A : Answers) (line : CartLineRequest) (new : String × String × Nat) : Prop :=
  new.2.2 = line.quantity ∧
    ∃ item : CatalogItem, A ⟨.getItem line.itemId, .ok item⟩ ∧ new.2.1 = item.id

/-- The lines `after` are exactly those that `lineItems` lists of a cart with the lines `before`:
the lines it names, and one more for each entry without an id. -/
structure Replaces (A : Answers) (lineItems : List CartLineRequest)
    (before added after : OrderLines) : Prop where
  lines : after =
    (before.filter (·.1 ∈ lineItems.filterMap (·.id)) ++ added).map (asAsked lineItems)
  additions : List.Forall₂ (AddedFor A) (lineItems.filter (·.id = none)) added
  distinct : after.ids.Nodup
  named : ∀ lineId ∈ lineItems.filterMap (·.id), lineId ∈ after.ids

section Asked

variable {A : Answers} {before added after : OrderLines} {line : CartLineRequest}
  {lineItems : List CartLineRequest} {lineId : String} {new : String × String × Nat}

theorem command_of_some (h : line.id = some lineId) :
    line.command = .updateItemQty ⟨lineId, line.quantity⟩ := by
  rw [CartLineRequest.command.eq_def, h]

theorem command_of_none (h : line.id = none) :
    line.command = .addItem ⟨line.itemId, line.quantity⟩ := by
  rw [CartLineRequest.command.eq_def, h]

theorem quantityAsked_cons :
    quantityAsked (line :: lineItems) lineId =
      (quantityAsked lineItems lineId).or
        (if line.id = some lineId then some line.quantity else none) := by
  unfold quantityAsked
  rw [List.reverse_cons, List.find?_append]
  cases lineItems.reverse.find? (·.id = some lineId) with
  | some other => rfl
  | none =>
      by_cases hline : line.id = some lineId
      · simp [hline]
      · simp [hline]

theorem asAsked_of_ne (h : line.id ≠ some new.1) :
    asAsked (line :: lineItems) new = asAsked lineItems new := by
  rw [asAsked, quantityAsked_cons, if_neg h, Option.or_none]
  rfl

theorem asAsked_setTo (h : line.id = some lineId) :
    asAsked lineItems (setTo lineId line.quantity new) = asAsked (line :: lineItems) new := by
  by_cases hnew : new.1 = lineId
  · have hline : line.id = some new.1 := h.trans (congrArg some hnew.symm)
    rw [setTo, if_pos hnew, asAsked, asAsked, quantityAsked_cons, if_pos hline]
    cases quantityAsked lineItems new.1 <;> rfl
  · rw [setTo, if_neg hnew, asAsked_of_ne]
    exact fun he => hnew (Option.some.inj (he.symm.trans h))

/-- The entries, one after the other: every line gets the quantity of the last entry that names
it, and every entry without an id adds a line. -/
theorem LineSteps.entries (hids : before.ids.Nodup)
    (h : LineSteps A (lineItems.map (·.command)) before after) :
    ∃ added, after = (before ++ added).map (asAsked lineItems) ∧
      List.Forall₂ (AddedFor A) (lineItems.filter (·.id = none)) added ∧
      (OrderLines.ids (before ++ added)).Nodup ∧
      ∀ lineId ∈ lineItems.filterMap (·.id), lineId ∈ OrderLines.ids (before ++ added) := by
  induction lineItems generalizing before with
  | nil =>
      refine ⟨[], ?_, .nil, by simpa using hids, by simp⟩
      rw [List.append_nil]
      exact Eq.trans h (List.map_id before).symm
  | cons line lineItems ih =>
      obtain ⟨lines, hstep, hrest⟩ := h
      cases hline : line.id with
      | some lineId =>
          have hstep : LineStep A line.command before lines := hstep
          rw [command_of_some hline] at hstep
          cases hstep with
          | requantified payload _ hknown =>
              have hids' : (OrderLines.ids (before.map (setTo lineId line.quantity))).Nodup := by
                rw [ids_setTo]
                exact hids
              obtain ⟨added, hafter, hadded, hdistinct, hnamed⟩ := ih hids' hrest
              have hsame : OrderLines.ids (before.map (setTo lineId line.quantity) ++ added) =
                  OrderLines.ids (before ++ added) := by
                simp [OrderLines.ids]
              rw [hsame] at hdistinct hnamed
              refine ⟨added, ?_, by simpa [hline] using hadded, hdistinct, ?_⟩
              · rw [hafter, List.map_append, List.map_append, List.map_map]
                refine congrArg₂ _ (List.map_congr_left fun l _ => asAsked_setTo hline)
                  (List.map_congr_left fun l hl => (asAsked_of_ne fun he => ?_).symm)
                -- an added line is not the one the entry names
                obtain rfl := Option.some.inj (hline.symm.trans he)
                rw [OrderLines.ids, List.map_append] at hdistinct
                exact (List.nodup_append.mp hdistinct).2.2 _ hknown _ (List.mem_map_of_mem hl) rfl
              · intro id hid
                rw [List.filterMap_cons_some hline] at hid
                rcases List.mem_cons.mp hid with rfl | hid
                · rw [OrderLines.ids, List.map_append]
                  exact List.mem_append_left _ hknown
                · exact hnamed id hid
      | none =>
          have hstep : LineStep A line.command before lines := hstep
          rw [command_of_none hline] at hstep
          cases hstep with
          | added payload item newId _ hitem hnew =>
              have hids' :
                  (OrderLines.ids (before ++ [(newId, item.id, line.quantity)])).Nodup := by
                rw [OrderLines.ids, List.map_append]
                refine List.nodup_append.mpr ⟨hids, List.nodup_singleton _, ?_⟩
                rintro id hid id' hid' rfl
                obtain rfl := List.mem_singleton.mp hid'
                exact hnew hid
              obtain ⟨added, hafter, hadded, hdistinct, hnamed⟩ := ih hids' hrest
              refine ⟨(newId, item.id, line.quantity) :: added, ?_, ?_, ?_, ?_⟩
              · rw [hafter, List.append_assoc]
                refine List.map_congr_left fun l _ => (asAsked_of_ne ?_).symm
                rw [hline]
                exact fun he => by cases he
              · rw [List.filter_cons_of_pos (by simp [hline])]
                exact .cons ⟨rfl, item, hitem, rfl⟩ hadded
              · simpa using hdistinct
              · intro id hid
                rw [List.filterMap_cons_none hline] at hid
                simpa using hnamed id hid

end Asked

/-! ## One command -/

/-- The commands of the handlers. -/
def CartCommand.onLines : CartCommand → Bool
  | .addItem _ | .updateItemQty _ | .removeItem _ => true
  | _ => false

/-- The cart is stored as `s`, among carts with ids and lines with ids of their own. -/
structure Stands (w : World) (c : CartId) (s : CartProjection) : Prop where
  grounded : Grounded w
  numbered : LinesNumbered w
  stored : w.events.getCartSnapshot c = some s

section Command

variable {env : Env} {runner : Runner} {w : World} {t : String} {c : CartId} {cmd : CartCommand}
  {s s' : CartProjection}

theorem Stands.tick (h : Stands w c s) : Stands w.tick c s where
  grounded := ⟨h.grounded.filed, fun c hc => Nat.lt_succ_of_lt (h.grounded.drawn c hc)⟩
  numbered c s hs := (h.numbered c s hs).mono (Nat.le_succ _)
  stored := h.stored

theorem orderLines_of_contents (h : s'.contents = s.contents) : s'.orderLines = s.orderLines :=
  congrArg Prod.fst h

theorem ids_orderLines : s.orderLines.ids = s.lineIds := by
  rw [CartProjection.orderLines, OrderLines.ids, List.map_map]
  rfl

/-- An edit by one of the commands is a step of the lines. -/
theorem Edited.lineStep (h : Edited (Answered env w) runner (.cart cmd (some c)) s s')
    (hcmd : cmd.onLines) (hs : Numbered w s.lineIds) :
    LineStep env.answers cmd s.orderLines s'.orderLines := by
  have hnodup : s.orderLines.ids.Nodup := ids_orderLines ▸ hs.nodup
  cases h with
  | added payload _ item u hitem hu hr =>
      rw [orderLines_of_contents hr.same.2.2]
      obtain ⟨v, -, hitem⟩ := hitem
      obtain ⟨v', hv', hu⟩ := hu
      have hu : (⟨v'.clock⟩ : Uuid) = u := hu
      have hnew : "li_" ++ u.render ∉ s.orderLines.ids := by
        rw [ids_orderLines, ← hu]
        exact fun hid => not_drawn hv' (hs.drawn _ hid)
      have hlines : (s.addLine (payload.line item u)).orderLines =
          s.orderLines ++ [("li_" ++ u.render, item.id, payload.quantity)] := List.map_append
      rw [hlines]
      exact .added payload item _ _ ⟨v, hitem⟩ hnew
  | requantified payload _ hline hr =>
      have hlines : (s.setQuantity payload).orderLines =
          s.orderLines.map (setTo payload.lineId payload.quantity) :=
        (ordered_setQuantity s payload).trans (setQuantityOf_of_nodup hnodup)
      rw [orderLines_of_contents hr.same.2.2, hlines]
      obtain ⟨line, hm, hid⟩ := hline
      refine .requantified payload _ ?_
      rw [ids_orderLines, ← hid]
      exact List.mem_map_of_mem hm
  | removed payload _ hr =>
      have hlines : (s.dropLine payload.lineId).orderLines =
          s.orderLines.filter (·.1 ≠ payload.lineId) := ordered_dropLine s payload.lineId
      rw [orderLines_of_contents hr.same.2.2, hlines]
      exact .removed payload.lineId _
  | adjusted | selected | readied | cancelled => cases hcmd

/-- With stores that answer, a command that fails stores no lines. -/
theorem Ended.unchanged {e : RunnerError} {E : InMemoryEventStore} {rs : List CartState}
    (h : Ended env w cmd (some c) (.error e) E rs) (hcmd : cmd.onLines) :
    E.getCartSnapshot c = w.events.getCartSnapshot c := by
  generalize hr : (Except.error e : Except RunnerError CartProjection) = r at h
  cases h with
  | invalid => rfl
  | attempted command _ _ _ ha =>
      cases ha with
      | barred => rfl
      | made c' s' _ _ hm =>
          cases hm with
          | stuck => rfl
          | stored s'' => cases hr
          | refused e' st _ hwalked _ =>
              exact congrArg (AList.lookup c) hwalked.snapshots
  | created | selected | looked | readied | cancelled => cases hcmd

/-- What a successful command on a stored cart returns is stored, an edit of what was. -/
theorem Grounded.returned {command : CartCommand} {cartId : Option CartId} {p : CartProjection}
    (h : Grounded w) (hs : w.events.getCartSnapshot c = some s)
    (htarget : command.target cartId = some c) (hlooks : ∀ payload, command ≠ .getCart payload)
    (hok : (Orchestrator.dispatched env runner command cartId w).1 = .ok p) :
    ((Call.cart command cartId).after env runner w).events.getCartSnapshot c = some p ∧
      Edited (Answered env w) runner (.cart command cartId) s p := by
  obtain ⟨q, hdone, hshows⟩ := Call.turn env runner (.cart command cartId) w
  rw [(Call.cart_turn env runner command cartId w).1, hok] at hshows
  rcases hshows.shown command cartId p rfl with ⟨hput, hsaved⟩ | ⟨-, -, payload, hlook⟩
  · obtain ⟨hputs, -⟩ := hdone.put p hput
    generalize hread : q.read = read at hputs
    cases hputs with
    | created payload _ _ _ => cases htarget
    | @edited _ r _ hedit =>
        obtain ⟨c', hc', hr, -⟩ := hdone.read r hread
        obtain rfl := Option.some.inj (htarget.symm.trans hc')
        obtain rfl := Option.some.inj (hs.symm.trans hr)
        have hid : p.cartId = c := hedit.cartId.trans (h.filed c s hs)
        refine ⟨?_, hedit⟩
        rw [Call.after, hdone.stored, Progress.after, hput]
        exact if_pos ⟨hsaved, hid.symm⟩
  · exact absurd hlook (hlooks payload)

/-- The command itself, without the check of the owner. -/
theorem Stands.dispatched (h : Stands w c s) (env : Env) (runner : Runner) (t : String)
    (hcmd : cmd.onLines) :
    ∃ s', Stands (env.dispatched runner t cmd (some c) w).2 c s' ∧
      (∀ p, (env.dispatched runner t cmd (some c) w).1 = .ok p →
        p = s' ∧ LineStep env.answers cmd s.orderLines s'.orderLines) ∧
      ∀ e, (env.dispatched runner t cmd (some c) w).1 = .error e →
        (s' = s ∨ LineStep env.answers cmd s.orderLines s'.orderLines) ∧
          (env.StoresAnswer → s' = s) := by
  have htenant : cmd.withTenant t = cmd := by
    cases cmd <;> first | rfl | cases hcmd
  have hafter : (env.dispatched runner t cmd (some c) w).2 =
      (Call.cart cmd (some c)).after env runner w := by
    rw [Call.after, (Call.cart_turn env runner cmd (some c) w).1, Env.dispatched, htenant]
  have hanswer : (env.dispatched runner t cmd (some c) w).1 =
      (Orchestrator.dispatched env runner cmd (some c) w).1.mapError .runner := by
    rw [Env.dispatched, htenant]
  obtain ⟨s', hs', hedit⟩ := h.grounded.edits env runner (.cart cmd (some c)) h.stored
  have hstep {s' : CartProjection}
      (he : Edited (Answered env w) runner (.cart cmd (some c)) s s') :=
    he.lineStep hcmd (h.numbered c s h.stored)
  rw [hafter, hanswer]
  refine ⟨s', ⟨h.grounded.after _, h.numbered.after _, hs'⟩, fun p hok => ?_, fun e herror => ?_⟩
  · have htarget : cmd.target (some c) = some c := by
      cases cmd <;> first | rfl | cases hcmd
    have hlooks : ∀ payload, cmd ≠ .getCart payload := by
      rintro payload rfl
      cases hcmd
    obtain ⟨hstored, hedit⟩ :=
      h.grounded.returned h.stored htarget hlooks (mapError_eq_ok.mp hok)
    obtain rfl := Option.some.inj (hs'.symm.trans hstored)
    exact ⟨rfl, hstep hedit⟩
  · refine ⟨hedit.imp id hstep, fun hs => ?_⟩
    have hends := dispatched_ends hs runner w cmd (some c)
    cases hr : (Orchestrator.dispatched env runner cmd (some c) w).1 with
    | ok p =>
        rw [hr] at herror
        cases herror
    | error e' =>
        rw [hr] at hends
        have hsame := hends.unchanged hcmd
        rw [Call.after, (Call.cart_turn env runner cmd (some c) w).1] at hs'
        exact Option.some.inj (hs'.symm.trans (hsame.trans h.stored))

/-- **One command** of a handler: what it answers, and the lines it leaves. -/
theorem Stands.command (h : Stands w c s) (env : Env) (runner : Runner) (t : String)
    (hcmd : cmd.onLines) :
    ∃ s', Stands (env.forTenant runner t cmd (some c) w).2 c s' ∧
      (∀ p, (env.forTenant runner t cmd (some c) w).1 = .ok p →
        p = s' ∧ LineStep env.answers cmd s.orderLines s'.orderLines) ∧
      ∀ e, (env.forTenant runner t cmd (some c) w).1 = .error e →
        (s' = s ∨ LineStep env.answers cmd s.orderLines s'.orderLines) ∧
          (env.StoresAnswer → s' = s) := by
  by_cases hrefuses : Refuses env t w c
  · rw [forTenant_refused (a := c) rfl hrefuses]
    exact ⟨s, h.tick, fun _ hok => (by cases hok), fun _ _ => ⟨.inl rfl, fun _ => rfl⟩⟩
  · rw [forTenant_passed (a := c) rfl hrefuses]
    exact h.tick.dispatched env runner t hcmd

end Command

/-! ## The commands of an update -/

section Commands

variable (env : Env) (runner : Runner) (t : String) (c : CartId)

/-- Commands one after the other, up to the first that fails. -/
def carryOut : List CartCommand → CartProjection → World → Except FacadeError CartProjection × World
  | [], projection, w => (.ok projection, w)
  | cmd :: commands, _, w =>
      match env.forTenant runner t cmd (some c) w with
      | (.error e, w) => (.error e, w)
      | (.ok projection, w) => carryOut commands projection w

/-- What the two loops send for a cart: a removal for each line that is not listed, and a
command for each entry. -/
def updateCommands (lineItems : List CartLineRequest) (s : CartProjection) : List CartCommand :=
  (s.lineIds.filter (· ∉ lineItems.filterMap (·.id))).map (fun lineId => .removeItem ⟨lineId⟩) ++
    lineItems.map (·.command)

variable {env runner t c} {commands : List CartCommand} {lineItems : List CartLineRequest}
  {p s : CartProjection} {w : World}

theorem removeAbsent_eq {desired lineIds : List String} :
    removeAbsent env runner t c desired lineIds p w =
      carryOut env runner t c
        ((lineIds.filter (· ∉ desired)).map fun lineId => .removeItem ⟨lineId⟩) p w := by
  induction lineIds generalizing p w with
  | nil => rfl
  | cons lineId lineIds ih =>
      rw [removeAbsent]
      by_cases hdesired : lineId ∈ desired
      · rw [if_pos hdesired, ih, List.filter_cons_of_neg (by simpa using hdesired)]
      · rw [if_neg hdesired, List.filter_cons_of_pos (by simpa using hdesired), List.map_cons,
          carryOut]
        rcases env.forTenant runner t (.removeItem ⟨lineId⟩) (some c) w with ⟨_ | p', w'⟩
        · rfl
        · exact ih

theorem putEntries_eq :
    putEntries env runner t c lineItems p w =
      carryOut env runner t c (lineItems.map (·.command)) p w := by
  induction lineItems generalizing p w with
  | nil => rfl
  | cons line lineItems ih =>
      rw [putEntries, List.map_cons, carryOut]
      cases hline : line.id with
      | some lineId =>
          rw [command_of_some hline]
          dsimp only
          rcases env.forTenant runner t (.updateItemQty ⟨lineId, line.quantity⟩) (some c) w with
            ⟨_ | p', w'⟩
          · rfl
          · exact ih
      | none =>
          rw [command_of_none hline]
          dsimp only
          rcases env.forTenant runner t (.addItem ⟨line.itemId, line.quantity⟩) (some c) w with
            ⟨_ | p', w'⟩
          · rfl
          · exact ih

theorem carryOut_append {commands' : List CartCommand} :
    carryOut env runner t c (commands ++ commands') p w =
      match carryOut env runner t c commands p w with
      | (.error e, w) => (.error e, w)
      | (.ok projection, w) => carryOut env runner t c commands' projection w := by
  induction commands generalizing p w with
  | nil => rfl
  | cons cmd commands ih =>
      rw [List.cons_append, carryOut, carryOut]
      rcases env.forTenant runner t cmd (some c) w with ⟨_ | p', w'⟩
      · rfl
      · exact ih

theorem replaceLines_eq :
    replaceLines env runner t c lineItems w =
      match env.forTenant runner t (.getCart ⟨c⟩) none w with
      | (.error e, w) => (.error e, w)
      | (.ok s, w) => carryOut env runner t c (updateCommands lineItems s) s w := by
  rw [replaceLines]
  rcases env.forTenant runner t (.getCart ⟨c⟩) none w with ⟨_ | s, w'⟩
  · rfl
  · dsimp only
    rw [updateCommands, carryOut_append, removeAbsent_eq, CartProjection.lineIds]
    rcases carryOut env runner t c _ s w' with ⟨_ | p', w''⟩
    · rfl
    · exact putEntries_eq

theorem onLines_of_mem_updateCommands : ∀ cmd ∈ updateCommands lineItems s, cmd.onLines := by
  intro cmd hcmd
  rcases List.mem_append.mp hcmd with hcmd | hcmd
  · obtain ⟨lineId, -, rfl⟩ := List.mem_map.mp hcmd
    rfl
  · obtain ⟨line, -, rfl⟩ := List.mem_map.mp hcmd
    cases hline : line.id with
    | some lineId =>
        rw [command_of_some hline]
        rfl
    | none =>
        rw [command_of_none hline]
        rfl

/-- `done` was carried out and `failed` was not: the lines are what `done` made of them, unless
a store took what it reported as failed. -/
structure StoppedAt (env : Env) (runner : Runner) (t : String) (c : CartId)
    (commands done : List CartCommand) (failed : CartCommand) (w : World) (s s' : CartProjection)
    (e : FacadeError) : Prop where
  stopped : ∃ rest, commands = done ++ failed :: rest
  refused : ∃ p v, carryOut env runner t c done s w = (.ok p, v) ∧
    (env.forTenant runner t failed (some c) v).1 = .error e
  lines : LineSteps env.answers done s.orderLines s'.orderLines ∨
    LineSteps env.answers (done ++ [failed]) s.orderLines s'.orderLines
  kept : env.StoresAnswer → LineSteps env.answers done s.orderLines s'.orderLines

theorem lineSteps_singleton {A : Answers} {cmd : CartCommand} {before after : OrderLines}
    (h : LineStep A cmd before after) : LineSteps A [cmd] before after := ⟨after, h, rfl⟩

/-- **The run.**  All the commands are carried out, or those before one that fails. -/
theorem Stands.carryOut (h : Stands w c s) (env : Env) (runner : Runner) (t : String)
    (hcmds : ∀ cmd ∈ commands, cmd.onLines) :
    ∃ s', Stands (carryOut env runner t c commands s w).2 c s' ∧
      (∀ p, (carryOut env runner t c commands s w).1 = .ok p →
        p = s' ∧ LineSteps env.answers commands s.orderLines s'.orderLines) ∧
      ∀ e, (carryOut env runner t c commands s w).1 = .error e →
        ∃ done failed, StoppedAt env runner t c commands done failed w s s' e := by
  induction commands generalizing s w with
  | nil =>
      refine ⟨s, h, fun p hp => ⟨(Except.ok.inj hp).symm, rfl⟩, fun e he => ?_⟩
      cases he
  | cons cmd commands ih =>
      obtain ⟨s₁, hs₁, hok, herror⟩ :=
        h.command env runner t (hcmds cmd List.mem_cons_self)
      rw [Orchestrator.carryOut]
      generalize hdone : env.forTenant runner t cmd (some c) w = done at hs₁ hok herror
      obtain ⟨r, w₁⟩ := done
      cases r with
      | error e =>
          obtain ⟨hlines, hkept⟩ := herror e rfl
          refine ⟨s₁, hs₁, fun p hp => (by cases hp), fun e' he' => ?_⟩
          obtain rfl := Except.error.inj he'
          refine ⟨[], cmd, ⟨commands, rfl⟩, ⟨s, w, rfl, by rw [hdone]⟩, ?_, fun hs => ?_⟩
          · rcases hlines with rfl | hstep
            · exact .inl rfl
            · exact .inr (lineSteps_singleton hstep)
          · obtain rfl := hkept hs
            rfl
      | ok p =>
          obtain ⟨rfl, hstep⟩ := hok p rfl
          obtain ⟨s', hs', hok', herror'⟩ :=
            ih hs₁ fun cmd' hm => hcmds cmd' (List.mem_cons_of_mem _ hm)
          refine ⟨s', hs', fun p' hp' => ?_, fun e he => ?_⟩
          · obtain ⟨hp', hsteps⟩ := hok' p' hp'
            exact ⟨hp', p.orderLines, hstep, hsteps⟩
          · obtain ⟨carried, failed, hstopped⟩ := herror' e he
            obtain ⟨rest, hrest⟩ := hstopped.stopped
            obtain ⟨q, v, hrun, hrefused⟩ := hstopped.refused
            refine ⟨cmd :: carried, failed, ⟨rest, congrArg (cmd :: ·) hrest⟩,
              ⟨q, v, ?_, hrefused⟩, ?_, fun hs => ⟨p.orderLines, hstep, hstopped.kept hs⟩⟩
            · rw [Orchestrator.carryOut, hdone]
              exact hrun
            · exact hstopped.lines.imp (fun hsteps => ⟨p.orderLines, hstep, hsteps⟩)
                fun hsteps => ⟨p.orderLines, hstep, hsteps⟩

theorem loadCart_run_elim (env : Env) (c : CartId) (w : World) :
    (loadCart c).run.run env.handle w =
      ((env.handle (.getCartSnapshot c) w).1.elim (.error .cartNotFound) .ok, w.tick) := by
  unfold loadCart
  show Prog.run env.handle (Prog.op (.getCartSnapshot c) _) w = _
  rw [Prog.run]
  cases (env.handle (.getCartSnapshot c) w).1 with
  | none => rfl
  | some s => rfl

/-- Reading the cart leaves it as it is. -/
theorem Stands.getCart (h : Stands w c s) (env : Env) (runner : Runner) (t : String) :
    Stands (env.forTenant runner t (.getCart ⟨c⟩) none w).2 c s ∧
      ∀ p, (env.forTenant runner t (.getCart ⟨c⟩) none w).1 = .ok p → p = s := by
  by_cases hrefuses : Refuses env t w c
  · rw [forTenant_refused (a := c) rfl hrefuses]
    exact ⟨h.tick, fun _ hok => (by cases hok)⟩
  · rw [forTenant_passed (a := c) rfl hrefuses]
    show Stands ((loadCart c).run.run env.handle w.tick).2 c s ∧
      ∀ p, ((loadCart c).run.run env.handle w.tick).1.mapError FacadeError.runner = .ok p → p = s
    rw [loadCart_run_elim]
    refine ⟨h.tick.tick, fun p hok => ?_⟩
    have hread := World.read_some (elim_eq_ok.mp (mapError_eq_ok.mp hok))
    exact Option.some.inj (hread.symm.trans h.stored)

/-- All the commands of an update: the cart has the lines listed. -/
theorem LineSteps.replaces {A : Answers} {after : OrderLines} (hids : s.orderLines.ids.Nodup)
    (h : LineSteps A (updateCommands lineItems s) s.orderLines after) :
    ∃ added, Replaces A lineItems s.orderLines added after := by
  obtain ⟨lines, hremoved, hentries⟩ := lineSteps_append.mp h
  have hlines : lines = s.orderLines.filter (·.1 ∈ lineItems.filterMap (·.id)) := by
    rw [hremoved.removals]
    refine List.filter_congr fun line hline => ?_
    have hid : line.1 ∈ s.lineIds := ids_orderLines ▸ List.mem_map_of_mem hline
    simp [hid]
  have hsub : List.Sublist lines s.orderLines := hlines ▸ List.filter_sublist
  obtain ⟨added, hafter, hadditions, hdistinct, hnamed⟩ :=
    hentries.entries ((hsub.map _).nodup hids)
  have hsame : after.ids = OrderLines.ids (lines ++ added) := by
    rw [hafter, OrderLines.ids, List.map_map]
    rfl
  exact ⟨added, hlines ▸ hafter, hadditions, hsame ▸ hdistinct, hsame ▸ hnamed⟩

/-- What the handlers do once the id is known. -/
theorem Stands.replaceLines (h : Stands w c s) (env : Env) (runner : Runner) (t : String)
    (lineItems : List CartLineRequest) :
    ∃ s', Stands (replaceLines env runner t c lineItems w).2 c s' ∧
      (∀ p, (replaceLines env runner t c lineItems w).1 = .ok p →
        p = s' ∧ ∃ added, Replaces env.answers lineItems s.orderLines added s'.orderLines) ∧
      ∀ e, (replaceLines env runner t c lineItems w).1 = .error e →
        s' = s ∨ ∃ done failed, StoppedAt env runner t c (updateCommands lineItems s) done failed
          (env.forTenant runner t (.getCart ⟨c⟩) none w).2 s s' e := by
  obtain ⟨hread, hsame⟩ := h.getCart env runner t
  rw [replaceLines_eq]
  generalize env.forTenant runner t (.getCart ⟨c⟩) none w = done at hread hsame
  obtain ⟨r, w₁⟩ := done
  cases r with
  | error e => exact ⟨s, hread, fun _ hp => (by cases hp), fun _ _ => .inl rfl⟩
  | ok p =>
      obtain rfl := hsame p rfl
      have honLines : ∀ cmd ∈ updateCommands lineItems p, cmd.onLines :=
        onLines_of_mem_updateCommands
      obtain ⟨s', hs', hok, herror⟩ := hread.carryOut env runner t honLines
      refine ⟨s', hs', fun p' hp' => ?_, fun e he => .inr (herror e he)⟩
      obtain ⟨hp', hsteps⟩ := hok p' hp'
      exact ⟨hp', hsteps.replaces (ids_orderLines ▸ (hread.numbered c _ hread.stored).nodup)⟩

end Commands

/-! ## Updates -/

section Updates

variable {w : World} {c : CartId} {s : CartProjection}

theorem UpdateRoute.update_eq (env : Env) (runner : Runner)
    (parseCartId : String → Except String CartId) (call : CartUpdate) (w : World)
    (route : UpdateRoute) :
    route.update env runner parseCartId call w =
      call.answer env runner w (route.cartId parseCartId call) := by
  cases route <;> rfl

/-- **An update is exact, or stops partway.**  Whatever calls have been made at once before, for
every stored cart and every request to one of the handlers that is about it, whatever the
providers and the stores answer: if the handler succeeds, the cart has the lines listed and no
others; if it fails, the commands before the one that failed have been carried out, and with
stores that answer no other. -/
theorem cart_update_exact_or_partway (parseCartId : String → Except String CartId) (past env : Env)
    (pastRunner runner : Runner) (w : World) (c : CartId) (s : CartProjection)
    (route : UpdateRoute) (call : CartUpdate) (hreached : Reached past pastRunner w)
    (hstored : w.events.getCartSnapshot c = some s)
    (hcart : ∀ c', route.cartId parseCartId call = .ok c' → c' = c) :
    let done := route.update env runner parseCartId call w
    ∃ s', done.2.events.getCartSnapshot c = some s' ∧
      (∀ projection, done.1 = .ok projection → projection = s' ∧
        ∃ added, Replaces env.answers call.lineItems s.orderLines added s'.orderLines) ∧
      ∀ e, done.1 = .error e → s' = s ∨ ∃ carried failed refusal,
        StoppedAt env runner call.auth.tenantId c (updateCommands call.lineItems s) carried failed
          (env.forTenant runner call.auth.tenantId (.getCart ⟨c⟩) none w).2 s s' refusal ∧
        e = .orchestrator refusal := by
  intro done
  have hdone : done = call.answer env runner w (route.cartId parseCartId call) :=
    route.update_eq env runner parseCartId call w
  have hstands : Stands w c s := ⟨hreached.grounded, hreached.linesNumbered, hstored⟩
  rw [hdone]
  generalize hid : route.cartId parseCartId call = id
  cases id with
  | error e => exact ⟨s, hstored, fun _ hp => (by cases hp), fun _ _ => .inl rfl⟩
  | ok c' =>
      obtain rfl := hcart c' hid
      obtain ⟨s', hs', hok, herror⟩ :=
        hstands.replaceLines env runner call.auth.tenantId call.lineItems
      refine ⟨s', hs'.stored, fun p hp => hok p (mapError_eq_ok.mp hp), fun e he => ?_⟩
      rw [CartUpdate.answer] at he
      cases hr : (replaceLines env runner call.auth.tenantId c' call.lineItems w).1 with
      | ok p =>
          rw [hr] at he
          cases he
      | error refusal =>
          rw [hr] at he
          refine (herror refusal hr).imp id fun hstops => ?_
          obtain ⟨carried, failed, hstopped⟩ := hstops
          exact ⟨carried, failed, refusal, hstopped, (Except.error.inj he).symm⟩

end Updates

namespace Sample

/-- An update of the sample cart. -/
def update (lineItems : List CartLineRequest) : CartUpdate where
  auth := agent
  headers := ⟨some "2026-04-17", none⟩
  id := "cs_"
  lineItems := lineItems

/-- The cart's line is replaced by another of the same item. -/
def replacing : CartUpdate := update [⟨none, "sku", 2⟩]

/-- The cart's line is left out, and a line is listed that the cart does not have. -/
def mistaken : CartUpdate := update [⟨some "li_none", "sku", 1⟩]

theorem acpWorld_orders : ∃ s, acpWorld.events.getCartSnapshot cart.cartId = some s ∧
    s.orderLines = [("li_6", "sku", 1)] := by
  have hcart : ∃ s ∈ acpWorld.events.getCartSnapshot cart.cartId,
      s.orderLines = [("li_6", "sku", 1)] := by
    decide +kernel
  exact hcart

end Sample

theorem cart_update_exact_or_partway_sample :
    ∃ s s' added, Sample.acpWorld.events.getCartSnapshot Sample.cart.cartId = some s ∧
      (acpUpdateSession Env.agreeable Sample.runner Sample.onlyCart Sample.replacing
        Sample.acpWorld).2.events.getCartSnapshot Sample.cart.cartId = some s' ∧
      Replaces Env.agreeable.answers [⟨none, "sku", 2⟩] s.orderLines added s'.orderLines := by
  obtain ⟨s, hstored, -⟩ := Sample.acpWorld_orders
  obtain ⟨s', hs', hok, -⟩ := cart_update_exact_or_partway Sample.onlyCart Env.agreeable
    Env.agreeable Sample.runner Sample.runner Sample.acpWorld Sample.cart.cartId s .acpSession
    Sample.replacing Sample.acpWorld_reached hstored fun c' hc' => (Except.ok.inj hc').symm
  have hsome : (acpUpdateSession Env.agreeable Sample.runner Sample.onlyCart Sample.replacing
      Sample.acpWorld).1.toOption.isSome := by
    decide +kernel
  cases hr : (acpUpdateSession Env.agreeable Sample.runner Sample.onlyCart Sample.replacing
      Sample.acpWorld).1 with
  | error e =>
      rw [hr] at hsome
      cases hsome
  | ok p =>
      obtain ⟨-, added, hreplaces⟩ := hok p hr
      exact ⟨s, s', added, hstored, hs', hreplaces⟩

/-- The line that was left out is gone although the update fails. -/
theorem failed_update_removes_line :
    ∃ s s', Reached Env.agreeable Sample.runner Sample.acpWorld ∧
      Sample.acpWorld.events.getCartSnapshot Sample.cart.cartId = some s ∧
      (∃ e, (ucpUpdateCart Env.agreeable Sample.runner Sample.onlyCart Sample.mistaken
        Sample.acpWorld).1 = .error e) ∧
      (ucpUpdateCart Env.agreeable Sample.runner Sample.onlyCart Sample.mistaken
        Sample.acpWorld).2.events.getCartSnapshot Sample.cart.cartId = some s' ∧
      s.orderLines = [("li_6", "sku", 1)] ∧ s'.orderLines = [] := by
  obtain ⟨s, hstored, horders⟩ := Sample.acpWorld_orders
  have herror : (ucpUpdateCart Env.agreeable Sample.runner Sample.onlyCart Sample.mistaken
      Sample.acpWorld).1 = .error (.orchestrator (.runner .lineNotFound)) := by
    decide +kernel
  have hafter : ∃ s' ∈ (ucpUpdateCart Env.agreeable Sample.runner Sample.onlyCart Sample.mistaken
      Sample.acpWorld).2.events.getCartSnapshot Sample.cart.cartId, s'.orderLines = [] := by
    decide +kernel
  obtain ⟨s', hs', hnone⟩ := hafter
  exact ⟨s, s', Sample.acpWorld_reached, hstored, ⟨_, herror⟩, hs', horders, hnone⟩

end Orchestrator
