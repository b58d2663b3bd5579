/-
# `CommerceOrchestrator.Api.Orders` — reading orders

Seven requests read orders: four over REST, three over MCP.  The REST ones look at the
tenant of the caller, after the fetch or as the key of the listing.  The MCP ones do not
look at the caller at all: an order is named by its id and a listing by an argument.
`respond_confined_iff` says which requests let a tenant see no orders but its own.
-/
import CommerceOrchestrator.Api.Facade

namespace Orchestrator

open Effect

/-! ## What is sent back -/

inductive ApiError
  | badRequest (message : String)
  | badRequestWithCode (message code : String)
  | unauthorized
  | forbidden (message : String)
  | notFound (message : String)
  | orchestrator (e : FacadeError)
  | internal
deriving DecidableEq, Repr

inductive OrderStatusDto
  | created
  | fulfillmentPending
  | fulfilled
  | cancelled
deriving DecidableEq, Repr

def OrderStatusDto.ofStatus : OrderStatus → OrderStatusDto
  | .created => .created
  | .fulfillmentPending => .fulfillmentPending
  | .fulfilled => .fulfilled
  | .cancelled => .cancelled

structure CartLineProjectionDto where
  lineId : String
  itemId : String
  title : String
  quantity : Nat
  unitPriceMinor : Int
  totalMinor : Int
deriving DecidableEq, Repr

def CartLineProjectionDto.ofLine (l : CartLineProjection) : CartLineProjectionDto where
  lineId := l.lineId
  itemId := l.itemId
  title := l.title
  quantity := l.quantity
  unitPriceMinor := l.unitPriceMinor
  totalMinor := l.totalMinor

structure TotalsBreakdownDto where
  subtotalMinor : Int
  taxMinor : Int
  discountMinor : Int
  totalMinor : Int
deriving DecidableEq, Repr

structure OrderEventDto where
  id : String
  eventType : String
  description : String
  occurredAt : String
deriving DecidableEq, Repr

structure OrderAdjustmentDto where
  id : String
  adjustmentType : String
  amountMinor : Int
  status : String
deriving DecidableEq, Repr

structure OrderDto where
  orderId : String
  tenantId : String
  transactionId : String
  checkoutId : String
  status : OrderStatusDto
  currency : String
  permalinkUrl : String
  lineItems : List CartLineProjectionDto
  totals : TotalsBreakdownDto
  events : List OrderEventDto
  adjustments : List OrderAdjustmentDto
  createdAt : String
deriving DecidableEq, Repr

structure UcpEnvelopeDto where
  version : String
  supportedVersions : List String
  capabilities : List (String × List String)
deriving DecidableEq, Repr

def ucpLatestVersion : String := "2026-08-25"

def ucpSupportedVersions : List String :=
  [ucpLatestVersion, "2026-04-08", "2026-01-23", "2026-01-11"]

def UcpEnvelopeDto.forCapabilities (capabilities : List String) : UcpEnvelopeDto where
  version := ucpLatestVersion
  supportedVersions := ucpSupportedVersions
  capabilities := capabilities.map fun capability => (capability, [ucpLatestVersion])

structure UcpTotalDto where
  totalType : String
  amount : Int
deriving DecidableEq, Repr

def lineTotals (amount : Int) : List UcpTotalDto := [⟨"subtotal", amount⟩, ⟨"total", amount⟩]

/-- One subtotal and one total; a discount is negative and only there if it is one. -/
def ucpTotals (totals : TotalsBreakdown) : List UcpTotalDto :=
  [⟨"subtotal", totals.subtotalMinor⟩] ++
    (if totals.discountMinor ≠ 0 then [⟨"discount", -totals.discountMinor.natAbs⟩] else []) ++
    (if 0 < totals.fulfillmentMinor then [⟨"fulfillment", totals.fulfillmentMinor⟩] else []) ++
    [⟨"tax", totals.taxMinor⟩, ⟨"total", totals.totalMinor⟩]

structure UcpLineItemDto where
  id : String
  title : String
  price : Int
deriving DecidableEq, Repr

structure UcpOrderQuantityDto where
  original : Nat
  total : Nat
  fulfilled : Nat
deriving DecidableEq, Repr

structure UcpOrderLineDto where
  id : String
  item : UcpLineItemDto
  quantity : UcpOrderQuantityDto
  totals : List UcpTotalDto
  status : String
deriving DecidableEq, Repr

structure UcpOrderResponseDto where
  ucp : UcpEnvelopeDto
  id : String
  checkoutId : String
  status : OrderStatusDto
  currency : String
  permalinkUrl : String
  lineItems : List UcpOrderLineDto
  totals : List UcpTotalDto
  events : List OrderEventDto
  createdAt : String
deriving DecidableEq, Repr

section Rendering

-- how a point in time is written
variable (rfc3339 : Int → String)

def OrderEventDto.ofEvent (e : OrderEvent) : OrderEventDto where
  id := e.id
  eventType := e.eventType
  description := e.description
  occurredAt := rfc3339 e.occurredAt

def OrderAdjustmentDto.ofAdjustment (a : OrderAdjustment) : OrderAdjustmentDto where
  id := a.id
  adjustmentType := a.adjustmentType
  amountMinor := a.amountMinor
  status := a.status

/-- What fulfillment added to the total is not sent. -/
def OrderDto.ofRecord (r : OrderRecord) : OrderDto where
  orderId := r.orderId
  tenantId := r.tenantId
  transactionId := r.transactionId
  checkoutId := r.checkoutId.uuid.render
  status := .ofStatus r.status
  currency := r.currency
  permalinkUrl := r.permalinkUrl
  lineItems := r.lineItems.map .ofLine
  totals := ⟨r.totals.subtotalMinor, r.totals.taxMinor, r.totals.discountMinor,
    r.totals.totalMinor⟩
  events := r.events.map (.ofEvent rfc3339)
  adjustments := r.adjustments.map .ofAdjustment
  createdAt := rfc3339 r.createdAt

def OrderStatus.line : OrderStatus → String × Bool
  | .fulfilled => ("fulfilled", true)
  | .cancelled => ("removed", false)
  | _ => ("processing", false)

def UcpOrderResponseDto.ofRecord (order : OrderRecord) : UcpOrderResponseDto where
  ucp := .forCapabilities ["dev.ucp.shopping.order"]
  id := order.orderId
  checkoutId := order.checkoutId.uuid.render
  status := .ofStatus order.status
  currency := order.currency
  permalinkUrl := order.permalinkUrl
  lineItems := order.lineItems.map fun line =>
    { id := line.lineId
      item := ⟨line.itemId, line.title, line.unitPriceMinor⟩
      quantity := ⟨line.quantity, line.quantity,
        if order.status.line.2 then line.quantity else 0⟩
      totals := lineTotals line.totalMinor
      status := order.status.line.1 }
  totals := ucpTotals order.totals
  events := order.events.map (.ofEvent rfc3339)
  createdAt := rfc3339 order.createdAt

/-! ## Requests -/

inductive OrderResponse
  | order (dto : OrderDto)
  | ucpOrder (dto : UcpOrderResponseDto)
  | orders (dtos : List OrderDto)
  | a2aOrder (capability : String) (result : OrderDto)
  | refused (e : ApiError)
  /-- The JSON of a record. -/
  | record (order : OrderRecord)
  | records (orders : List OrderRecord)
  /-- The text is the JSON of the record. -/
  | contents (uri mimeType : String) (text : OrderRecord)
  | failed (message : String)
deriving DecidableEq, Repr

/-- Of a JSON object, the fields that are strings. -/
abbrev Arguments := Table String String

inductive OrderRequest
  | getOrder (id : String)
  | ucpGetOrder (id : String)
  | listOrders
  | a2aGetOrder (payload : Option Arguments)
  | toolGetOrder (args : Arguments)
  | toolListOrders (args : Arguments)
  /-- `resources/read` of `order://` and an id. -/
  | readOrder (orderId : String)
deriving DecidableEq

variable (tenantId : String) (store : InMemoryOrderStore)

/-- Fetch an order, then look whose it is. -/
def ownOrder (id : String) : Except ApiError OrderRecord :=
  match store.get id with
  | none => .error (.notFound "order not found")
  | some order =>
      if tenantId ≠ order.tenantId then .error (.forbidden "tenant mismatch") else .ok order

/-- Send an order, or say why not. -/
def OrderResponse.of (f : OrderRecord → OrderResponse) : Except ApiError OrderRecord → OrderResponse
  | .ok r => f r
  | .error e => .refused e

def getOrder (id : String) : OrderResponse :=
  .of (fun order => .order (.ofRecord rfc3339 order)) (ownOrder tenantId store id)

def ucpGetOrder (id : String) : OrderResponse :=
  .of (fun order => .ucpOrder (.ofRecord rfc3339 order)) (ownOrder tenantId store id)

def listOrders : OrderResponse :=
  .orders ((store.listByTenant tenantId).map (.ofRecord rfc3339))

def runA2aOrderQuery (payload : Option Arguments) : OrderResponse :=
  match payload.bind (·.lookup "order_id") with
  | none => .refused (.badRequest "payload.order_id is required")
  | some orderId =>
      .of (fun order => .a2aOrder "dev.ucp.order.query" (.ofRecord rfc3339 order))
        (ownOrder tenantId store orderId)

def getStr (args : Arguments) (key : String) : Except String String :=
  match args.lookup key with
  | some value => .ok value
  | none => .error ("missing required field: " ++ key)

/-- The tool `get_order`. -/
def dispatchGetOrder (args : Arguments) : OrderResponse :=
  match getStr args "order_id" with
  | .error message => .failed message
  | .ok orderId =>
      match store.get orderId with
      | none => .failed "order not found"
      | some order => .record order

/-- The tool `list_orders`. -/
def dispatchListOrders (args : Arguments) : OrderResponse :=
  match getStr args "tenant_id" with
  | .error message => .failed message
  | .ok tenantId => .records (store.listByTenant tenantId)

def readResource (orderId : String) : OrderResponse :=
  match store.get orderId with
  | none => .failed "order not found"
  | some order => .contents ("order://" ++ orderId) "application/json" order

/-- The response to a caller who authenticated as `tenantId`. -/
def OrderRequest.respond : OrderRequest → OrderResponse
  | .getOrder id => Orchestrator.getOrder rfc3339 tenantId store id
  | .ucpGetOrder id => Orchestrator.ucpGetOrder rfc3339 tenantId store id
  | .listOrders => Orchestrator.listOrders rfc3339 tenantId store
  | .a2aGetOrder payload => runA2aOrderQuery rfc3339 tenantId store payload
  | .toolGetOrder args => dispatchGetOrder store args
  | .toolListOrders args => dispatchListOrders store args
  | .readOrder orderId => readResource store orderId

end Rendering

/-! ## What a tenant learns -/

section Confined

variable {rfc3339 : Int → String} {t : String} {s s' : InMemoryOrderStore}

/-- Two stores with the same orders of one tenant. -/
def SameOrders (t : String) (s s' : InMemoryOrderStore) : Prop :=
  ∀ id order, order.tenantId = t → (s.lookup id = some order ↔ s'.lookup id = some order)

/-- A response that reveals no order. -/
def OrderResponse.Refusal (r : OrderResponse) : Prop :=
  r = .refused (.notFound "order not found") ∨ r = .refused (.forbidden "tenant mismatch") ∨
    r = .failed "order not found"

/-- The same response, up to which refusal it is and the order of a listing. -/
inductive Alike : OrderResponse → OrderResponse → Prop
  | same (r : OrderResponse) : Alike r r
  | orders {l l' : List OrderDto} (h : l.Perm l') : Alike (.orders l) (.orders l')
  | records {l l' : List OrderRecord} (h : l.Perm l') : Alike (.records l) (.records l')
  | refusals {r r' : OrderResponse} (h : r.Refusal) (h' : r'.Refusal) : Alike r r'

/-- The requests that do not ask an MCP tool for an order by its id, or for the orders of
another tenant. -/
def OrderRequest.Scoped (t : String) : OrderRequest → Prop
  | .toolGetOrder args => args.lookup "order_id" = none
  | .toolListOrders args => ∀ tenantId, args.lookup "tenant_id" = some tenantId → tenantId = t
  | .readOrder _ => False
  | _ => True

/-- The response says nothing about other tenants' orders. -/
def OrderRequest.Confined (rfc3339 : Int → String) (t : String) (request : OrderRequest) : Prop :=
  ∀ s s', SameOrders t s s' →
    Alike (request.respond rfc3339 t s) (request.respond rfc3339 t s')

theorem ownOrder_eq (id : String) :
    ownOrder t s id = .error (.notFound "order not found") ∨
      ownOrder t s id = .error (.forbidden "tenant mismatch") ∨
      ∃ order, order.tenantId = t ∧ s.lookup id = some order ∧ ownOrder t s id = .ok order := by
  rw [ownOrder, InMemoryOrderStore.get]
  cases hs : s.lookup id with
  | none => exact Or.inl rfl
  | some order =>
      by_cases ht : t = order.tenantId
      · exact Or.inr (Or.inr ⟨order, ht.symm, rfl, if_neg (not_not.mpr ht)⟩)
      · exact Or.inr (Or.inl (if_pos ht))

theorem ownOrder_of_lookup {id : String} {order : OrderRecord} (ht : order.tenantId = t)
    (hs : s.lookup id = some order) : ownOrder t s id = .ok order := by
  rw [ownOrder, InMemoryOrderStore.get, hs]
  exact if_neg (not_not.mpr ht.symm)

/-- **One order.**  An order that is looked at after the fetch is the caller's. -/
theorem SameOrders.alike (h : SameOrders t s s') (f : OrderRecord → OrderResponse) (id : String) :
    Alike (.of f (ownOrder t s id)) (.of f (ownOrder t s' id)) := by
  have hfound : ∀ {s s'}, SameOrders t s s' → ∀ order, order.tenantId = t →
      s.lookup id = some order → ownOrder t s' id = .ok order :=
    fun h order ht hs => ownOrder_of_lookup ht ((h id order ht).mp hs)
  have hrefusal : ∀ {s}, (∀ order, order.tenantId = t → s.lookup id ≠ some order) →
      (OrderResponse.of f (ownOrder t s id)).Refusal := by
    intro s hnone
    rcases ownOrder_eq (t := t) (s := s) id with he | he | ⟨order, ht, hs, -⟩
    · rw [he]
      exact Or.inl rfl
    · rw [he]
      exact Or.inr (Or.inl rfl)
    · exact absurd hs (hnone order ht)
  by_cases hown : ∃ order, order.tenantId = t ∧ s.lookup id = some order
  · obtain ⟨order, ht, hs⟩ := hown
    rw [ownOrder_of_lookup ht hs, hfound h order ht hs]
    exact .same _
  · refine .refusals (hrefusal fun order ht hs => hown ⟨order, ht, hs⟩) (hrefusal fun order ht hs => ?_)
    exact hown ⟨order, ht, (h id order ht).mpr hs⟩

/-- **Listings.** -/
theorem SameOrders.perm (h : SameOrders t s s') : (s.listByTenant t).Perm (s'.listByTenant t) := by
  refine (List.mergeSort_perm _ _).trans (List.Perm.trans ?_ (List.mergeSort_perm _ _).symm)
  refine Table.values_filter_perm fun id order ht => h id order (of_decide_eq_true ht)

theorem OrderRequest.Scoped.confined {request : OrderRequest} (h : request.Scoped t) :
    request.Confined rfc3339 t := by
  intro s s' hsame
  cases request with
  | getOrder id | ucpGetOrder id => exact hsame.alike _ id
  | listOrders => exact .orders (hsame.perm.map _)
  | a2aGetOrder payload =>
      show Alike (runA2aOrderQuery rfc3339 t s payload) (runA2aOrderQuery rfc3339 t s' payload)
      unfold runA2aOrderQuery
      cases payload.bind (·.lookup "order_id") with
      | none => exact .same _
      | some id => exact hsame.alike _ id
  | toolGetOrder args =>
      have harg : getStr args "order_id" = .error "missing required field: order_id" := by
        rw [getStr, h]
        rfl
      show Alike (dispatchGetOrder s args) (dispatchGetOrder s' args)
      unfold dispatchGetOrder
      rw [harg]
      exact .same _
  | toolListOrders args =>
      show Alike (dispatchListOrders s args) (dispatchListOrders s' args)
      unfold dispatchListOrders getStr
      cases harg : args.lookup "tenant_id" with
      | none => exact .same _
      | some tenantId =>
          obtain rfl := h tenantId harg
          exact .records hsame.perm
  | readOrder => exact h.elim

/-! ### Someone else's order -/

/-- A tenant other than `t`. -/
def otherTenant (t : String) : String := t ++ "'"

theorem otherTenant_ne : otherTenant t ≠ t := by
  intro h
  have hlen := congrArg String.length h
  have hone : "'".length = 1 := rfl
  rw [otherTenant, String.length_append, hone] at hlen
  omega

/-- An order of a tenant, and nothing in it. -/
def bareOrder (orderId tenantId : String) : OrderRecord where
  orderId
  tenantId
  transactionId := ""
  checkoutId := ⟨⟨0⟩⟩
  status := .created
  currency := ""
  permalinkUrl := ""
  lineItems := []
  totals := ⟨0, 0, 0, 0, 0⟩
  events := []
  adjustments := []
  createdAt := 0

/-- A store with one order. -/
def oneOrder (orderId tenantId : String) : InMemoryOrderStore :=
  InMemoryOrderStore.put ∅ (bareOrder orderId tenantId)

theorem lookup_oneOrder {id id' tenantId : String} :
    (oneOrder id tenantId).lookup id' = if id' = id then some (bareOrder id tenantId) else none :=
  Table.lookup_insert_ite _ _ _ _

/-- The order is another tenant's. -/
theorem sameOrders_oneOrder (id : String) {tenantId : String} (h : tenantId ≠ t) :
    SameOrders t ∅ (oneOrder id tenantId) := by
  intro id' order ht
  refine ⟨fun hs => (nomatch hs), fun hs => ?_⟩
  rw [lookup_oneOrder] at hs
  by_cases hid : id' = id
  · rw [if_pos hid] at hs
    obtain rfl := Option.some.inj hs
    exact absurd ht h
  · rw [if_neg hid] at hs
    cases hs

theorem get_oneOrder {id tenantId : String} :
    (oneOrder id tenantId).get id = some (bareOrder id tenantId) :=
  lookup_oneOrder.trans (if_pos rfl)

theorem listByTenant_empty : InMemoryOrderStore.listByTenant ∅ t = [] := List.mergeSort_nil

theorem listByTenant_oneOrder {id tenantId : String} :
    (oneOrder id tenantId).listByTenant tenantId = [bareOrder id tenantId] := by
  have hentries : ((oneOrder id tenantId).entries.map (·.2)) = [bareOrder id tenantId] := rfl
  rw [InMemoryOrderStore.listByTenant, hentries,
    List.filter_eq_self.mpr fun order ho => by rw [List.mem_singleton.mp ho]; exact decide_eq_true rfl,
    List.mergeSort_singleton]

/-- A refusal and an order are not alike. -/
theorem not_alike_record {message : String} {order : OrderRecord} :
    ¬ Alike (.failed message) (.record order) := by
  intro h
  cases h with
  | refusals _ h' => rcases h' with h' | h' | h' <;> cases h'

theorem not_alike_contents {message uri mimeType : String} {order : OrderRecord} :
    ¬ Alike (.failed message) (.contents uri mimeType order) := by
  intro h
  cases h with
  | refusals _ h' => rcases h' with h' | h' | h' <;> cases h'

/-- **Someone else's order.**  A request that is not scoped shows it. -/
theorem OrderRequest.Confined.scoped {request : OrderRequest}
    (h : request.Confined rfc3339 t) : request.Scoped t := by
  have hother (id : String) := h _ _ (sameOrders_oneOrder id otherTenant_ne)
  cases request with
  | getOrder | ucpGetOrder | listOrders | a2aGetOrder => exact trivial
  | toolGetOrder args =>
      show args.lookup "order_id" = none
      cases harg : args.lookup "order_id" with
      | none => rfl
      | some id =>
          have halike := hother id
          simp only [OrderRequest.respond, dispatchGetOrder, getStr, harg, get_oneOrder] at halike
          exact absurd halike not_alike_record
  | toolListOrders args =>
      intro tenantId harg
      by_contra hne
      have halike := h _ _ (sameOrders_oneOrder "" hne)
      simp only [OrderRequest.respond, dispatchListOrders, getStr, harg,
        listByTenant_empty, listByTenant_oneOrder] at halike
      cases halike with
      | records hperm => exact absurd hperm.length_eq (Nat.zero_ne_one)
      | refusals h' => rcases h' with h' | h' | h' <;> cases h'
  | readOrder id =>
      have halike := hother id
      simp only [OrderRequest.respond, readResource, get_oneOrder] at halike
      exact absurd halike not_alike_contents

/-- **Order reads.**  The response to a request of a tenant is the same for all stores with
the same orders of this tenant exactly if the request does not ask an MCP tool or resource
for an order by its id, or for the orders of another tenant. -/
theorem respond_confined_iff (rfc3339 : Int → String) (t : String) (request : OrderRequest) :
    request.Confined rfc3339 t ↔ request.Scoped t :=
  ⟨OrderRequest.Confined.scoped, OrderRequest.Scoped.confined⟩

end Confined

/-- A caller of tenant `a` reads an order of tenant `b` as a resource. -/
theorem resource_leaks :
    ¬ ∀ (rfc3339 : Int → String) (t : String) (request : OrderRequest),
      request.Confined rfc3339 t := by
  intro h
  exact not_alike_contents (h (fun _ => "") "a" (.readOrder "ord_1") ∅ (oneOrder "ord_1" "b")
    (sameOrders_oneOrder "ord_1" (by decide)))

end Orchestrator
