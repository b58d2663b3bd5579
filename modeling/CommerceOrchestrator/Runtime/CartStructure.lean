/-
# `CommerceOrchestrator.Runtime.CartStructure` — the shape of a cart

What the ids in a snapshot name.  A selection replaces the method of its type by one that it
builds from its destination and the options it was offered, and refuses to select an option
that is not among them; nothing else touches fulfillment.  So every snapshot of a run is
`WellFormed`, the ids of its lines being distinct by `atOnce_numbered`.
-/
import CommerceOrchestrator.Runtime.EditEffects
import CommerceOrchestrator.Runtime.LineIds

namespace Orchestrator

open Effect

/-! ## The invariant -/

/-- The selected destination is one of the method's. -/
def FulfillmentMethod.DestinationNamed (method : FulfillmentMethod) : Prop :=
  ∃ destination ∈ method.destinations, method.selectedDestinationId = some destination.id

/-- The selected option, if there is one, is one of the group's. -/
def FulfillmentGroup.OptionNamed (group : FulfillmentGroup) : Prop :=
  ∀ id, group.selectedOptionId = some id → ∃ option ∈ group.options, option.id = id

/-- Methods of different types, whose selections name what they offer. -/
structure WellFormedMethods (methods : List FulfillmentMethod) : Prop where
  types : (methods.map (·.methodType)).Nodup
  destinations : ∀ method ∈ methods, method.DestinationNamed
  options : ∀ method ∈ methods, ∀ group ∈ method.groups, group.OptionNamed

structure CartProjection.WellFormed (s : CartProjection) : Prop where
  lines : s.lineIds.Nodup
  codes : s.adjustmentCodes.Nodup
  methods : WellFormedMethods s.methods

/-! ## Methods -/

section Methods

variable {methods : List FulfillmentMethod} {method : FulfillmentMethod}

theorem wellFormedMethods_nil : WellFormedMethods [] :=
  ⟨List.nodup_nil, fun _ h => absurd h List.not_mem_nil, fun _ h => absurd h List.not_mem_nil⟩

theorem WellFormedMethods.filter (h : WellFormedMethods methods) (p : FulfillmentMethod → Bool) :
    WellFormedMethods (methods.filter p) where
  types := (List.filter_sublist.map _).nodup h.types
  destinations method hm := h.destinations method (List.mem_of_mem_filter hm)
  options method hm := h.options method (List.mem_of_mem_filter hm)

/-- A method of a type there is none of yet. -/
theorem WellFormedMethods.append (h : WellFormedMethods methods)
    (hnew : ∀ m ∈ methods, m.methodType ≠ method.methodType)
    (hdestination : method.DestinationNamed)
    (hoptions : ∀ group ∈ method.groups, group.OptionNamed) :
    WellFormedMethods (methods ++ [method]) := by
  refine ⟨?_, fun m hm => ?_, fun m hm => ?_⟩
  · rw [List.map_append, List.map_singleton]
    refine h.types.append (List.nodup_singleton _) fun methodType hold hlast => ?_
    obtain ⟨m, hm, rfl⟩ := List.mem_map.mp hold
    exact hnew m hm (List.mem_singleton.mp hlast)
  · rcases List.mem_append.mp hm with hm | hm
    · exact h.destinations m hm
    · exact List.mem_singleton.mp hm ▸ hdestination
  · rcases List.mem_append.mp hm with hm | hm
    · exact h.options m hm
    · exact List.mem_singleton.mp hm ▸ hoptions

/-- A selection replaces the method of its type. -/
theorem WellFormedMethods.replace {cart : CartProjection} (h : WellFormedMethods cart.methods)
    (hdestination : method.DestinationNamed)
    (hoptions : ∀ group ∈ method.groups, group.OptionNamed) :
    WellFormedMethods (cart.otherMethods method.methodType ++ [method]) := by
  refine (h.filter _).append (fun m hm => ?_) hdestination hoptions
  exact of_decide_eq_true (List.mem_filter.mp hm).2

end Methods

namespace SetFulfillmentSelectionPayload

variable {payload : SetFulfillmentSelectionPayload} {lineItemIds : List String}
  {options : List FulfillmentOption} {group method : Uuid}

theorem method_destination :
    (payload.method lineItemIds options group method).DestinationNamed :=
  ⟨payload.destination, List.mem_singleton_self _, rfl⟩

/-- A selection that is not refused is among the options. -/
theorem method_options
    (hselected : payload.selectedOptionId.isSome → (payload.selected options).isSome) :
    ∀ g ∈ (payload.method lineItemIds options group method).groups, g.OptionNamed := by
  intro g hg id hid
  obtain rfl := List.mem_singleton.mp hg
  have hid : payload.selectedOptionId = some id := hid
  obtain ⟨option, hoption⟩ := Option.isSome_iff_exists.mp (hselected (by rw [hid]; rfl))
  rw [selected, hid, Option.bind_some] at hoption
  exact ⟨option, List.mem_of_find?_eq_some hoption, by simpa using List.find?_some hoption⟩

end SetFulfillmentSelectionPayload

/-! ## Edits -/

section Edits

variable {A : Answers} {runner : Runner} {call : Call} {s s' : CartProjection}

theorem addCode_nodup (h : s.adjustmentCodes.Nodup) (code : String) :
    (s.addCode code).adjustmentCodes.Nodup := by
  show (if code ∈ s.adjustmentCodes then _ else _ : List String).Nodup
  split
  · exact h
  · next hnew => exact h.append (List.nodup_singleton _) (List.disjoint_singleton.mpr hnew)

/-- Recalculation leaves codes and methods alone. -/
theorem Recalculated.wellFormed (h : Recalculated A s s') (hcodes : s.adjustmentCodes.Nodup)
    (hmethods : WellFormedMethods s.methods) (hlines : s'.lineIds.Nodup) : s'.WellFormed := by
  have hcontents := congrArg Prod.snd h.same.2.2
  have hcodes' : s'.adjustmentCodes = s.adjustmentCodes := congrArg Prod.fst hcontents
  have hfulfillment : s'.fulfillment = s.fulfillment := congrArg Prod.snd hcontents
  refine ⟨hlines, hcodes' ▸ hcodes, ?_⟩
  rw [CartProjection.methods, hfulfillment]
  exact hmethods

theorem Discounted.codes_fulfillment (h : Discounted A s s') :
    s'.adjustmentCodes = s.adjustmentCodes ∧ s'.fulfillment = s.fulfillment := by
  cases h <;> exact ⟨rfl, rfl⟩

/-- **Every edit keeps a cart well-formed**, if the ids of its lines stay distinct. -/
theorem Edited.wellFormed (h : Edited A runner call s s') (hs : s.WellFormed)
    (hlines : s'.lineIds.Nodup) : s'.WellFormed := by
  cases h with
  | added payload cartId item id _ _ hr => exact hr.wellFormed hs.codes hs.methods hlines
  | requantified payload cartId _ hr => exact hr.wellFormed hs.codes hs.methods hlines
  | removed payload cartId hr => exact hr.wellFormed hs.codes hs.methods hlines
  | adjusted payload cartId hr =>
      exact hr.wellFormed (addCode_nodup hs.codes payload.code) hs.methods hlines
  | repriced request _ hr => exact hr.wellFormed hs.codes hs.methods hlines
  | readied payload cartId _ => exact ⟨hlines, hs.codes, hs.methods⟩
  | cancelled payload cartId => exact ⟨hlines, hs.codes, hs.methods⟩
  | @selected payload cartId lineItemIds options group method geo _ discounted _ hselected hd _ =>
      obtain ⟨hcodes, hfulfillment⟩ := hd.codes_fulfillment
      have hmethods : discounted.methods = s.otherMethods payload.methodType ++
          [payload.method lineItemIds options group method] := by
        rw [CartProjection.methods, hfulfillment]
        rfl
      refine ⟨hlines, hcodes ▸ hs.codes, ?_⟩
      show WellFormedMethods discounted.methods
      rw [hmethods]
      exact hs.methods.replace SetFulfillmentSelectionPayload.method_destination
        (SetFulfillmentSelectionPayload.method_options hselected)

/-- What a call puts, whose lines have distinct ids. -/
theorem Puts.wellFormed {read : Option CartProjection} (h : Puts A runner call read s)
    (hread : ∀ r, read = some r → r.WellFormed ∧ s.lineIds.Nodup) : s.WellFormed := by
  cases h with
  | created payload cartId id _ =>
      exact ⟨List.nodup_nil, List.nodup_nil, wellFormedMethods_nil⟩
  | edited he => exact he.wellFormed (hread _ rfl).1 (hread _ rfl).2

end Edits

/-! ## Runs -/

/-- Every edit of a run puts lines with distinct ids. -/
theorem atOnce_edits_numbered (env : Env) (runner : Runner) (calls : List Call) (ts : List Nat) :
    EditsMeet calls (fun _ _ s => s.lineIds.Nodup) (atOnce env runner calls ts World.empty).log := by
  intro e _ e' he'
  unfold EditMeets
  split
  · exact fun _ => (atOnce_numbered env runner calls ts).2 _ _ _ he'
  · trivial

/-- **Every snapshot is well-formed.**  However cart commands and checkouts interleave and
whatever providers and stores answer, every snapshot stored, put or returned is. -/
theorem snapshots_wellFormed (env : Env) (runner : Runner) (calls : List Call) (ts : List Nat) :
    let run := atOnce env runner calls ts World.empty
    (∀ c s, run.world.events.getCartSnapshot c = some s → s.WellFormed) ∧
    (∀ t s x, .did t ⟨.putCartSnapshot s, x⟩ ∈ run.log → s.WellFormed) ∧
    (∀ t command cartId s, .returned t (.cart command cartId (.ok s)) ∈ run.log →
      s.WellFormed) := by
  intro run
  obtain ⟨φ, h⟩ : ∃ φ, Everywhere calls CartProjection.WellFormed run.world φ run.log :=
    atOnce_everywhere (A := fun _ => True) (fun _ _ => trivial)
      (fun call read s hread hp => Puts.wellFormed hp hread) (fun c s hs => by cases hs)
      (atOnce_edits_numbered env runner calls ts)
  exact ⟨h.stored, h.put, h.returned⟩

end Orchestrator
