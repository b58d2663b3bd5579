/-
# `CommerceOrchestrator.Api.CartCommands` — a cart command as REST and as A2A read it

REST derives its reader from the type of the command: every field must be given, once, and be
of its type.  A2A takes a map apart by hand: a text that is missing is empty, a quantity that
is missing is zero and one that is too large loses its high bits, a version that is missing is
one, and a cancellation is unknown.  What REST accepts, A2A reads the same, cancellations
apart; so the two agree where A2A rejects too or the fields are as REST wants them.
-/
import CommerceOrchestrator.Core.Contract
import CommerceOrchestrator.Effect.Fallible
import CommerceOrchestrator.Text.Json

namespace Orchestrator

open Effect Text Json

/-! ## REST -/

inductive CartCommandDto
  | createCart (merchantId currency : String)
  | addItem (itemId : String) (quantity : Nat)
  | updateItemQty (lineId : String) (quantity : Nat)
  | removeItem (lineId : String)
  | applyAdjustment (code : String)
  | getCart (cartId : String)
  | startCheckout (cartId : String) (cartVersion : Nat)
  | cancelCart (cartId : String)
deriving DecidableEq, Repr

/-- The fields of the variant that `kind` names. -/
def CartCommandDto.ofKind (members : List (String × Json)) (kind : String) :
    Option CartCommandDto :=
  let str key := (field members key).bind asStr
  match kind with
  | "create_cart" => return .createCart (← str "merchant_id") (← str "currency")
  | "add_item" => return .addItem (← str "item_id") (← (field members "quantity").bind asU32)
  | "update_item_qty" =>
      return .updateItemQty (← str "line_id") (← (field members "quantity").bind asU32)
  | "remove_item" => return .removeItem (← str "line_id")
  | "apply_adjustment" => return .applyAdjustment (← str "code")
  | "get_cart" => return .getCart (← str "cart_id")
  | "start_checkout" =>
      return .startCheckout (← str "cart_id") (← (field members "cart_version").bind asU64)
  | "cancel_cart" => return .cancelCart (← str "cart_id")
  | _ => none

/-- The derived reader: the tag is a field like the others, and names no field knows are
passed over. -/
def CartCommandDto.deserialize (members : List (String × Json)) : Option CartCommandDto :=
  ((field members "kind").bind asStr).bind (ofKind members)

inductive RestRefusal
  /-- The body does not deserialize. -/
  | body
  | badRequest (message : String)
deriving DecidableEq, Repr

section Mapping

-- `Uuid::from_str`, with the text of its error
variable (parseCartId : String → Except String CartId)

/-- `CartCommand::try_from(dto)`. -/
def CartCommand.ofDto : CartCommandDto → Except String CartCommand
  | .createCart merchantId currency => .ok (.createCart ⟨merchantId, currency, none⟩)
  | .addItem itemId quantity => .ok (.addItem ⟨itemId, quantity⟩)
  | .updateItemQty lineId quantity => .ok (.updateItemQty ⟨lineId, quantity⟩)
  | .removeItem lineId => .ok (.removeItem ⟨lineId⟩)
  | .applyAdjustment code => .ok (.applyAdjustment ⟨code⟩)
  | .getCart cartId => (parseCartId cartId).map fun c => .getCart ⟨c⟩
  | .startCheckout cartId cartVersion =>
      (parseCartId cartId).map fun c => .startCheckout ⟨c, cartVersion⟩
  | .cancelCart cartId => (parseCartId cartId).map fun c => .cancelCart ⟨c⟩

def restCommand (members : List (String × Json)) : Except RestRefusal CartCommand :=
  match CartCommandDto.deserialize members with
  | none => .error .body
  | some dto => (CartCommand.ofDto parseCartId dto).mapError .badRequest

/-! ## A2A -/

/-- The arms of `cart_value_to_command`. -/
def commandOfKind (v : Json) (kind : String) : Except String CartCommand := do
  let str key := (v.get key).bind asStr
  -- `as u32`
  let quantity := ((v.get "quantity").bind asU64).getD 0 % 2 ^ 32
  match kind with
  | "create_cart" =>
      return .createCart ⟨(str "merchant_id").getD "", (str "currency").getD "", none⟩
  | "add_item" => return .addItem ⟨(str "item_id").getD "", quantity⟩
  | "update_item_qty" => return .updateItemQty ⟨(str "line_id").getD "", quantity⟩
  | "remove_item" => return .removeItem ⟨(str "line_id").getD ""⟩
  | "apply_adjustment" => return .applyAdjustment ⟨(str "code").getD ""⟩
  | "get_cart" =>
      let cartId ← (str "cart_id").elim (.error "missing cart_id") .ok
      return .getCart ⟨← parseCartId cartId⟩
  | "start_checkout" =>
      let cartId ← (str "cart_id").elim (.error "missing cart_id") .ok
      let cartVersion := ((v.get "cart_version").bind asU64).getD 1
      return .startCheckout ⟨← parseCartId cartId, cartVersion⟩
  | _ => throw ("unknown command kind: " ++ kind)

def cartValueToCommand (v : Json) : Except String CartCommand := do
  let kind ← ((v.get "kind").bind asStr).elim (.error "command must have kind") .ok
  commandOfKind parseCartId v kind

def cartCapabilities : List String :=
  ["dev.ucp.shopping.checkout", "dev.ucp.shopping.discount", "ucp.shopping.cart", "cart"]

/-- Whether the capability is listed or its name has one of three words in it. -/
def cartCapable (capability : String) : Bool :=
  cartCapabilities.contains capability ||
    ["cart", "checkout", "discount"].any fun word => word.toList <:+: capability.toList

/-- The id beside the command: one that is empty or not a text counts as missing. -/
def envelopeCartId (payload : Json) : Except String (Option CartId) :=
  match ((payload.get "cart_id").bind asStr).filter (· ≠ "") with
  | none => .ok none
  | some s => ((parseCartId s).map some).mapError ("invalid cart_id: " ++ ·)

def normalizeA2aCartEnvelope (value : Json) : Except String (CartCommand × Option CartId) := do
  let .object _ := value | throw "A2A envelope must be a JSON object"
  let capability ←
    ((value.get "capability").bind asStr).elim (.error "missing or invalid capability") .ok
  if ¬ cartCapable capability then
    throw ("unsupported cart capability: " ++ capability)
  let payload ← (value.get "payload").elim (.error "missing payload") .ok
  let cartId ← envelopeCartId parseCartId payload
  let command ← (payload.get "command").elim (.error "missing command") .ok
  return (← cartValueToCommand parseCartId command, cartId)

end Mapping

/-! ## The fields of a kind -/

section Fields

variable {members : List (String × Json)}

/-- The name is given, once, and what is given reads. -/
def Given {α : Type} (members : List (String × Json)) (key : String) (read : Json → Option α) : Prop :=
  ((field members key).bind read).isSome

/-- The tag and the fields that a kind needs. -/
def FieldsGiven (members : List (String × Json)) (kind : String) : Prop :=
  Given members "kind" asStr ∧
    match kind with
    | "create_cart" => Given members "merchant_id" asStr ∧ Given members "currency" asStr
    | "add_item" => Given members "item_id" asStr ∧ Given members "quantity" asU32
    | "update_item_qty" => Given members "line_id" asStr ∧ Given members "quantity" asU32
    | "remove_item" => Given members "line_id" asStr
    | "apply_adjustment" => Given members "code" asStr
    | "get_cart" => Given members "cart_id" asStr
    | "start_checkout" => Given members "cart_id" asStr ∧ Given members "cart_version" asU64
    | "cancel_cart" => Given members "cart_id" asStr
    | _ => False

theorem FieldsGiven.tag {kind : String} (h : FieldsGiven members kind) :
    Given members "kind" asStr := h.1

theorem given_iff {α : Type} {key : String} {read : Json → Option α} :
    Given members key read ↔ ∃ a, (field members key).bind read = some a := Option.isSome_iff_exists

theorem Given.get {α : Type} {key : String} {read : Json → Option α} (h : Given members key read) :
    ∃ a, (field members key).bind read = some a ∧ ((object members).get key).bind read = some a := by
  obtain ⟨a, ha⟩ := given_iff.mp h
  exact ⟨a, ha, get_bind_of_field ha⟩

/-- What the derived reader reads, A2A reads. -/
theorem reads_of_given {α : Type} {key : String} {read : Json → Option α} {a : α}
    (h : (field members key).bind read = some a) :
    ((object members).get key).bind read = some a := get_bind_of_field h

theorem deserialize_eq_some {dto : CartCommandDto}
    (h : CartCommandDto.deserialize members = some dto) :
    ∃ kind, (field members "kind").bind asStr = some kind ∧
      CartCommandDto.ofKind members kind = some dto := Option.bind_eq_some_iff.mp h

/-- A quantity that the derived reader reads loses nothing. -/
theorem quantity_of_given {n : Nat} (h : (field members "quantity").bind asU32 = some n) :
    (((object members).get "quantity").bind asU64).getD 0 % 2 ^ 32 = n := by
  obtain ⟨v, hv, hn⟩ := Option.bind_eq_some_iff.mp h
  obtain ⟨hn, hlt⟩ := asU32_eq_some.mp hn
  rw [get_of_field hv, Option.bind_some, hn]
  exact Nat.mod_eq_of_lt hlt

variable {parseCartId : String → Except String CartId} {c : CartCommand}

/-- A command about a cart is read if its id is. -/
theorem ofDto_cart_ok {id : String} {f : CartId → CartCommand}
    (h : ((parseCartId id).map f).mapError RestRefusal.badRequest = .ok c) :
    ∃ cartId, parseCartId id = .ok cartId ∧ f cartId = c := by
  cases hid : parseCartId id with
  | error e =>
      rw [hid] at h
      cases h
  | ok cartId =>
      rw [hid] at h
      exact ⟨cartId, rfl, Except.ok.inj h⟩

/-- The command of an envelope is what the mapping makes of its command member. -/
theorem envelope_command {value : Json} {cartId : Option CartId}
    (h : normalizeA2aCartEnvelope parseCartId value = .ok (c, cartId)) :
    ∃ payload command, value.get "payload" = some payload ∧
      payload.get "command" = some command ∧ cartValueToCommand parseCartId command = .ok c := by
  unfold normalizeA2aCartEnvelope at h
  split at h
  · obtain ⟨capability, -, h⟩ := bind_eq_ok.mp h
    split at h
    · cases h
    · obtain ⟨payload, hpayload, h⟩ := bind_eq_ok.mp h
      obtain ⟨cartId', -, h⟩ := bind_eq_ok.mp h
      obtain ⟨command, hcommand, h⟩ := bind_eq_ok.mp h
      obtain ⟨c', hc, h⟩ := bind_eq_ok.mp h
      cases h
      exact ⟨payload, command, elim_eq_ok.mp hpayload, elim_eq_ok.mp hcommand, hc⟩
  · cases h

/-- **REST refines A2A.**  Cancellations apart, a command that REST reads from an object is the
one that A2A reads. -/
theorem rest_refines_a2a (h : restCommand parseCartId members = .ok c)
    (hcancel : ((object members).get "kind").bind asStr ≠ some "cancel_cart") :
    cartValueToCommand parseCartId (.object members) = .ok c := by
  unfold restCommand at h
  split at h
  · cases h
  next dto hdto =>
  obtain ⟨kind, hkind, hfields⟩ := deserialize_eq_some hdto
  have hkind := reads_of_given hkind
  have hcommand : cartValueToCommand parseCartId (.object members) =
      commandOfKind parseCartId (.object members) kind := by
    rw [cartValueToCommand, hkind]
    rfl
  rw [hcommand]
  unfold CartCommandDto.ofKind at hfields
  split at hfields
  · obtain ⟨merchantId, hmerchant, hfields⟩ := Option.bind_eq_some_iff.mp hfields
    obtain ⟨currency, hcurrency, hfields⟩ := Option.bind_eq_some_iff.mp hfields
    cases hfields
    cases h
    simp only [commandOfKind, reads_of_given hmerchant, reads_of_given hcurrency]
    rfl
  · obtain ⟨itemId, hitem, hfields⟩ := Option.bind_eq_some_iff.mp hfields
    obtain ⟨quantity, hquantity, hfields⟩ := Option.bind_eq_some_iff.mp hfields
    cases hfields
    cases h
    simp only [commandOfKind, reads_of_given hitem, quantity_of_given hquantity]
    rfl
  · obtain ⟨lineId, hline, hfields⟩ := Option.bind_eq_some_iff.mp hfields
    obtain ⟨quantity, hquantity, hfields⟩ := Option.bind_eq_some_iff.mp hfields
    cases hfields
    cases h
    simp only [commandOfKind, reads_of_given hline, quantity_of_given hquantity]
    rfl
  · obtain ⟨lineId, hline, hfields⟩ := Option.bind_eq_some_iff.mp hfields
    cases hfields
    cases h
    simp only [commandOfKind, reads_of_given hline]
    rfl
  · obtain ⟨code, hcode, hfields⟩ := Option.bind_eq_some_iff.mp hfields
    cases hfields
    cases h
    simp only [commandOfKind, reads_of_given hcode]
    rfl
  · obtain ⟨cartId, hcart, hfields⟩ := Option.bind_eq_some_iff.mp hfields
    cases hfields
    obtain ⟨id, hid, rfl⟩ := ofDto_cart_ok h
    simp only [commandOfKind, reads_of_given hcart]
    show (parseCartId cartId).bind _ = _
    rw [hid]
    rfl
  · obtain ⟨cartId, hcart, hfields⟩ := Option.bind_eq_some_iff.mp hfields
    obtain ⟨cartVersion, hversion, hfields⟩ := Option.bind_eq_some_iff.mp hfields
    cases hfields
    obtain ⟨id, hid, rfl⟩ := ofDto_cart_ok h
    simp only [commandOfKind, reads_of_given hcart, reads_of_given hversion]
    show (parseCartId cartId).bind _ = _
    rw [hid]
    rfl
  · obtain ⟨cartId, hcart, hfields⟩ := Option.bind_eq_some_iff.mp hfields
    cases hfields
    obtain ⟨id, hid, rfl⟩ := ofDto_cart_ok h
    exact absurd hkind hcancel
  · cases hfields

/-! ## What is accepted -/

/-- The id under `cart_id`, as A2A finds it, is one of a cart. -/
def NamesCart (parseCartId : String → Except String CartId) (members : List (String × Json)) : Prop :=
  ∃ id c, ((object members).get "cart_id").bind asStr = some id ∧ parseCartId id = .ok c

/-- What the fields of a kind have to be for the derived reader. -/
theorem ofKind_isSome_iff {kind : String} (htag : Given members "kind" asStr) :
    (CartCommandDto.ofKind members kind).isSome ↔ FieldsGiven members kind := by
  unfold FieldsGiven CartCommandDto.ofKind
  rw [and_iff_right htag]
  split <;> simp [Given, Option.isSome_iff_exists, Option.bind_eq_some_iff]

/-- The cart a command is about. -/
def CartCommandDto.about : CartCommandDto → Option String
  | .getCart cartId | .startCheckout cartId _ | .cancelCart cartId => some cartId
  | _ => none

theorem ofDto_ok_iff {dto : CartCommandDto} :
    (∃ c, CartCommand.ofDto parseCartId dto = .ok c) ↔
      ∀ id, dto.about = some id → ∃ c, parseCartId id = .ok c := by
  cases dto with
  | getCart id | startCheckout id _ | cancelCart id =>
      cases hid : parseCartId id <;> simp [CartCommand.ofDto, CartCommandDto.about, hid, Except.map]
  | _ => simp [CartCommand.ofDto, CartCommandDto.about]

/-- The kinds for which A2A has a default for every field. -/
def editKinds : List String :=
  ["create_cart", "add_item", "update_item_qty", "remove_item", "apply_adjustment"]

/-- The kinds that name a cart. -/
def cartKinds : List String := ["get_cart", "start_checkout", "cancel_cart"]

theorem ofKind_about {kind : String} {dto : CartCommandDto}
    (h : CartCommandDto.ofKind members kind = some dto) :
    kind ∈ cartKinds ∧ dto.about.isSome ∧
        dto.about = ((object members).get "cart_id").bind asStr ∨
      kind ∉ cartKinds ∧ dto.about = none := by
  unfold CartCommandDto.ofKind at h
  split at h
  · obtain ⟨_, -, h⟩ := Option.bind_eq_some_iff.mp h
    obtain ⟨_, -, h⟩ := Option.bind_eq_some_iff.mp h
    cases h
    exact .inr ⟨by decide, rfl⟩
  · obtain ⟨_, -, h⟩ := Option.bind_eq_some_iff.mp h
    obtain ⟨_, -, h⟩ := Option.bind_eq_some_iff.mp h
    cases h
    exact .inr ⟨by decide, rfl⟩
  · obtain ⟨_, -, h⟩ := Option.bind_eq_some_iff.mp h
    obtain ⟨_, -, h⟩ := Option.bind_eq_some_iff.mp h
    cases h
    exact .inr ⟨by decide, rfl⟩
  · obtain ⟨_, -, h⟩ := Option.bind_eq_some_iff.mp h
    cases h
    exact .inr ⟨by decide, rfl⟩
  · obtain ⟨_, -, h⟩ := Option.bind_eq_some_iff.mp h
    cases h
    exact .inr ⟨by decide, rfl⟩
  · obtain ⟨cartId, hcart, h⟩ := Option.bind_eq_some_iff.mp h
    cases h
    exact .inl ⟨by decide, rfl, (reads_of_given hcart).symm⟩
  · obtain ⟨cartId, hcart, h⟩ := Option.bind_eq_some_iff.mp h
    obtain ⟨_, -, h⟩ := Option.bind_eq_some_iff.mp h
    cases h
    exact .inl ⟨by decide, rfl, (reads_of_given hcart).symm⟩
  · obtain ⟨cartId, hcart, h⟩ := Option.bind_eq_some_iff.mp h
    cases h
    exact .inl ⟨by decide, rfl, (reads_of_given hcart).symm⟩
  · cases h

/-- REST wants the fields of the kind, and an id of a cart where there is one. -/
theorem rest_accepts_iff {kind : String}
    (hkind : ((object members).get "kind").bind asStr = some kind) :
    (∃ c, restCommand parseCartId members = .ok c) ↔
      FieldsGiven members kind ∧ (kind ∈ cartKinds → NamesCart parseCartId members) := by
  cases htag : (field members "kind").bind asStr with
  | none => simp [restCommand, CartCommandDto.deserialize, FieldsGiven, Given, htag]
  | some kind' =>
      obtain rfl : kind' = kind := Option.some.inj ((reads_of_given htag).symm.trans hkind)
      have hgiven : Given members "kind" asStr := by simp [Given, htag]
      have hread : CartCommandDto.deserialize members = CartCommandDto.ofKind members kind' := by
        rw [CartCommandDto.deserialize, htag, Option.bind_some]
      rw [← ofKind_isSome_iff hgiven, restCommand, hread]
      cases hdto : CartCommandDto.ofKind members kind' with
      | none => simp
      | some dto =>
          simp only [mapError_eq_ok, ofDto_ok_iff, Option.isSome_some, true_and, NamesCart]
          rcases ofKind_about hdto with ⟨hcart, habout, heq⟩ | ⟨hcart, habout⟩
          · obtain ⟨id, hid⟩ := Option.isSome_iff_exists.mp habout
            rw [← heq, hid]
            simp [hcart]
          · simp [hcart, habout]

/-- A2A wants a kind it knows, and an id of a cart where there is one. -/
theorem a2a_accepts_iff {kind : String}
    (hkind : ((object members).get "kind").bind asStr = some kind) :
    (∃ c, cartValueToCommand parseCartId (.object members) = .ok c) ↔
      kind ∈ editKinds ∨
        kind ∈ ["get_cart", "start_checkout"] ∧ NamesCart parseCartId members := by
  have hread {f : CartId → CartCommand} :
      (∃ c, (do
        let cartId ← (((object members).get "cart_id").bind asStr).elim
          (.error "missing cart_id") .ok
        return f (← parseCartId cartId) : Except String CartCommand) = .ok c) ↔
      NamesCart parseCartId members := by
    unfold NamesCart
    cases hid : ((object members).get "cart_id").bind asStr with
    | none => simp [bind, Except.bind]
    | some id =>
        cases hc : parseCartId id <;> simp [bind, Except.bind, pure, Except.pure, hc]
  rw [cartValueToCommand, hkind]
  show (∃ c, commandOfKind parseCartId (.object members) kind = .ok c) ↔ _
  unfold commandOfKind
  split
  · simp [pure, Except.pure, editKinds]
  · simp [pure, Except.pure, editKinds]
  · simp [pure, Except.pure, editKinds]
  · simp [pure, Except.pure, editKinds]
  · simp [pure, Except.pure, editKinds]
  · rw [hread]
    simp [editKinds]
  · rw [hread]
    simp [editKinds]
  · simp only [editKinds, List.mem_cons, List.not_mem_nil, throw, throwThe, MonadExceptOf.throw]
    simp
    tauto

theorem not_cartKinds_of_edit {kind : String} (h : kind ∈ editKinds) : kind ∉ cartKinds := by
  simp only [editKinds, List.mem_cons, List.not_mem_nil, or_false] at h
  rcases h with rfl | rfl | rfl | rfl | rfl <;> decide

/-! ## Both -/

/-- Both reject the object or both read the same command from it. -/
def ReadAlike (parseCartId : String → Except String CartId) (members : List (String × Json)) : Prop :=
  ∀ c, restCommand parseCartId members = .ok c ↔
    cartValueToCommand parseCartId (.object members) = .ok c

/-- What makes the two agree, by the kind given: the fields as REST wants them; for a kind that
names a cart, an id of none will do as well; and a cancellation that REST too rejects. -/
structure Agreeable (parseCartId : String → Except String CartId) (members : List (String × Json))
    (kind : String) : Prop where
  edit : kind ∈ editKinds → FieldsGiven members kind
  cart : kind = "get_cart" ∨ kind = "start_checkout" → NamesCart parseCartId members →
    FieldsGiven members kind
  cancel : kind = "cancel_cart" → NamesCart parseCartId members → ¬ FieldsGiven members kind

theorem readAlike_of_cancel
    (hkind : ((object members).get "kind").bind asStr = some "cancel_cart") :
    ReadAlike parseCartId members ↔ ¬ ∃ c, restCommand parseCartId members = .ok c := by
  have hnever (c : CartCommand) : cartValueToCommand parseCartId (.object members) ≠ .ok c :=
    fun hc => by simpa [editKinds] using (a2a_accepts_iff hkind).mp ⟨c, hc⟩
  simp [ReadAlike, hnever]

theorem readAlike_of_ne_cancel
    (hcancel : ((object members).get "kind").bind asStr ≠ some "cancel_cart") :
    ReadAlike parseCartId members ↔
      ((∃ c, cartValueToCommand parseCartId (.object members) = .ok c) →
        ∃ c, restCommand parseCartId members = .ok c) := by
  constructor
  · rintro h ⟨c, hc⟩
    exact ⟨c, (h c).mpr hc⟩
  · intro h c
    refine ⟨fun hc => rest_refines_a2a hc hcancel, fun hc => ?_⟩
    obtain ⟨c', hc'⟩ := h ⟨c, hc⟩
    have hsame := rest_refines_a2a hc' hcancel
    rw [hc] at hsame
    obtain rfl := Except.ok.inj hsame
    exact hc'

/-- **A cart command means the same over REST and over A2A** exactly if its fields are as REST
wants them or both have something to reject. -/
theorem read_alike_iff (parseCartId : String → Except String CartId)
    (members : List (String × Json)) :
    ReadAlike parseCartId members ↔
      ∀ kind, ((object members).get "kind").bind asStr = some kind →
        Agreeable parseCartId members kind := by
  cases hkind : ((object members).get "kind").bind asStr with
  | none =>
      refine ⟨fun _ _ h => (by cases h), fun _ => ?_⟩
      rw [readAlike_of_ne_cancel (by simp [hkind])]
      rintro ⟨c, hc⟩
      rw [cartValueToCommand, hkind] at hc
      cases hc
  | some kind =>
      have hagree : (∀ kind', some kind = some kind' → Agreeable parseCartId members kind') ↔
          Agreeable parseCartId members kind := by simp
      rw [hagree]
      by_cases hcancel : kind = "cancel_cart"
      · subst hcancel
        rw [readAlike_of_cancel hkind, rest_accepts_iff hkind]
        constructor
        · intro h
          exact ⟨fun hk => absurd hk (by decide), by simp, fun _ hn hf => h ⟨hf, fun _ => hn⟩⟩
        · rintro h ⟨hf, hn⟩
          exact h.cancel rfl (hn (by decide)) hf
      · rw [readAlike_of_ne_cancel (by simp [hkind, hcancel]), rest_accepts_iff hkind,
          a2a_accepts_iff hkind]
        constructor
        · intro h
          refine ⟨fun hk => (h (.inl hk)).1, fun hk hn => ?_, fun hk => absurd hk hcancel⟩
          exact (h (.inr ⟨by simpa using hk, hn⟩)).1
        · rintro h (hk | ⟨hk, hn⟩)
          · exact ⟨h.edit hk, fun hk' => absurd hk' (not_cartKinds_of_edit hk)⟩
          · exact ⟨h.cart (by simpa using hk) hn, fun _ => hn⟩

/-- A quantity of 2³² + 1: REST rejects it and A2A adds one. -/
theorem quantity_truncated :
    ¬ ReadAlike (fun _ => .error "invalid character") [("kind", .string "add_item"),
      ("item_id", .string "sku"), ("quantity", .number (.posInt 4294967297))] := by
  intro h
  have hrest := (h (.addItem ⟨"sku", 1⟩)).mpr rfl
  cases hrest

end Fields

end Orchestrator
