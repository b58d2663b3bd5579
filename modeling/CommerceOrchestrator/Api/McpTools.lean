/-
# `CommerceOrchestrator.Api.McpTools` — JSON-RPC requests of agents

A request states its protocol version in a header or in its parameters, or not at all.  What
is not served is refused before anything is done.  The tools read all of their arguments before
they call the facade, so a call without a required argument does nothing either.

The facade is a parameter: what it does is the matter of other modules, and what is said here
of the protocol holds of any.
-/
import CommerceOrchestrator.Api.Ap2Verification
import CommerceOrchestrator.Api.FulfillmentSelections
import CommerceOrchestrator.Api.Transports

namespace Orchestrator

open Effect Text Json

/-! ## JSON-RPC -/

structure JsonRpcRequest where
  id : Json
  method : String
  params : Option Json

structure JsonRpcError where
  code : Int
  message : String
  data : Option Json

structure JsonRpcResponse where
  id : Json
  result : Option Json
  error : Option JsonRpcError

namespace JsonRpcResponse

def success (id result : Json) : JsonRpcResponse := ⟨id, some result, none⟩

def failure (id : Json) (code : Int) (message : String) : JsonRpcResponse :=
  ⟨id, none, some ⟨code, message, none⟩⟩

def errorWithData (id : Json) (code : Int) (message : String) (data : Json) : JsonRpcResponse :=
  ⟨id, none, some ⟨code, message, some data⟩⟩

end JsonRpcResponse

def invalidRequest : Int := -32600

def methodNotFound : Int := -32601

def internalError : Int := -32603

def unsupportedProtocolVersion : Int := -32022

/-! ## Versions -/

def mcpModernVersion : String := "2026-07-28"

def mcpLegacyVersion : String := "2024-11-05"

def mcpLegacy2025Version : String := "2025-11-25"

def mcpSupportedVersions : List String := [mcpModernVersion, mcpLegacy2025Version, mcpLegacyVersion]

def extractMetaProtocolVersion (request : JsonRpcRequest) : Option String := do
  let params ← request.params
  let declared ← params.get "_meta"
  ((declared.get "io.modelcontextprotocol/protocolVersion").or
    (declared.get "protocolVersion")).bind asStr

/-- A version that is given and not blank. -/
def declaredVersion (version : Option String) : Option String :=
  (version.map trim).filter (· ≠ "")

/-- The version, or the one asked for that is not supported. -/
def negotiateMcpVersion (headerVersion metaVersion : Option String) (method : String) :
    Except String String :=
  match (declaredVersion headerVersion).or (declaredVersion metaVersion) with
  | some v => if v ∈ mcpSupportedVersions then .ok v else .error v
  | none =>
      if method = "initialize" ∨ method = "notifications/initialized" then .ok mcpLegacyVersion
      else if method = "server/discover" then .ok mcpModernVersion
      else .ok mcpLegacyVersion

/-! ## The tools -/

/-- A tool, with the schema of its arguments: their names and types, and those required. -/
structure ToolDefinition where
  name : String
  description : String
  properties : List (String × Json)
  required : List String

/-- `{ "type": name }`. -/
def typed (name : String) : Json := .object [("type", .string name)]

def texts : List String → List (String × Json) := List.map (·, typed "string")

/-- The `input_schema`. -/
def ToolDefinition.inputSchema (tool : ToolDefinition) : Json :=
  .object ([("type", .string "object"), ("properties", .object tool.properties)] ++
    if tool.required = [] then []
    else [("required", .array (tool.required.map .string))])

def ToolDefinition.toValue (tool : ToolDefinition) : Json :=
  .object [("name", .string tool.name), ("description", .string tool.description),
    ("input_schema", tool.inputSchema)]

/-- The tools that act on a payment. -/
def paymentTool (name description : String) : ToolDefinition where
  name := name
  description := description
  properties := texts ["tenant_id", "merchant_id", "transaction_id"] ++
    [("amount_minor", typed "integer")] ++ texts ["idempotency_key"]
  required := ["tenant_id", "merchant_id", "transaction_id", "amount_minor", "idempotency_key"]

/-- The destination of a fulfillment selection. -/
def destinationSchema : Json :=
  .object
    [("type", .string "object"),
      ("description", .string
        "Shipping address, or the retail location for pickup (name is then required)."),
      ("properties", .object (texts
        ["id", "name", "street_address", "extended_address", "address_locality",
          "address_region", "address_country", "postal_code", "first_name", "last_name",
          "phone_number"])),
      ("required", .array [.string "id"])]

def listTools : List ToolDefinition :=
  [{ name := "create_cart", description := "Create a new shopping cart"
     properties := texts ["merchant_id", "currency"], required := ["merchant_id", "currency"] },
    { name := "add_item", description := "Add an item to a cart"
      properties := texts ["cart_id", "item_id"] ++ [("quantity", typed "integer")]
      required := ["cart_id", "item_id", "quantity"] },
    { name := "update_item_qty", description := "Update item quantity in a cart"
      properties := texts ["cart_id", "line_id"] ++ [("quantity", typed "integer")]
      required := ["cart_id", "line_id", "quantity"] },
    { name := "remove_item", description := "Remove an item from a cart"
      properties := texts ["cart_id", "line_id"], required := ["cart_id", "line_id"] },
    { name := "apply_adjustment", description := "Apply a discount or promo code"
      properties := texts ["cart_id", "code"], required := ["cart_id", "code"] },
    { name := "set_fulfillment_selection"
      description := "Quote shipping or pickup options for a cart, and optionally select one. " ++
        "Omit selected_option_id to see the quotes before committing."
      properties :=
        [("cart_id", typed "string"),
          ("method_type", .object
            [("type", .string "string"), ("enum", .array [.string "shipping", .string "pickup"])]),
          ("destination", destinationSchema),
          ("line_item_ids", .object
            [("type", .string "array"), ("items", typed "string"),
              ("description", .string
                "Lines this selection covers; omit to cover the whole cart.")]),
          ("selected_option_id", .object
            [("type", .string "string"),
              ("description", .string
                "Must be an option id the merchant quoted for this cart.")])]
      required := ["cart_id", "method_type", "destination"] },
    { name := "get_cart", description := "Get current cart state"
      properties := texts ["cart_id"], required := ["cart_id"] },
    { name := "start_checkout", description := "Mark cart as checkout-ready"
      properties := [("cart_id", typed "string"), ("cart_version", typed "integer")]
      required := ["cart_id", "cart_version"] },
    { name := "execute_checkout", description := "Execute checkout for a cart"
      properties := texts ["tenant_id", "merchant_id", "cart_id"] ++
        [("cart_version", typed "integer"), ("currency", typed "string"),
          ("payment_intent", typed "object"), ("idempotency_key", typed "string")]
      required := ["tenant_id", "merchant_id", "cart_id", "cart_version", "currency",
        "payment_intent", "idempotency_key"] },
    { name := "get_order", description := "Retrieve an order by ID"
      properties := texts ["order_id"], required := ["order_id"] },
    { name := "list_orders", description := "List orders for a tenant"
      properties := texts ["tenant_id"], required := ["tenant_id"] },
    paymentTool "capture_payment" "Capture an authorized payment",
    paymentTool "void_payment" "Void an authorized payment",
    paymentTool "refund_payment" "Refund a captured payment",
    { name := "lookup_catalog_item", description := "Look up a catalog item by ID"
      properties := texts ["item_id"], required := ["item_id"] },
    { name := "lookup_catalog_items", description := "Look up multiple catalog items by ID"
      properties := [("item_ids", .object
        [("type", .string "array"), ("items", typed "string")])]
      required := ["item_ids"] },
    { name := "search_catalog_items", description := "Search catalog items by query"
      properties := texts ["query"], required := [] }]

/-! ## Arguments -/

/-- What a tool asks of the facade, once its arguments are read. -/
inductive ToolCall
  | cart (command : CartCommand) (cartId : Option CartId)
  | executeCheckout (request : CheckoutRequest)
  | getOrder (orderId : String)
  | listOrders (tenantId : String)
  | capturePayment (request : PaymentLifecycleRequest)
  | voidPayment (request : PaymentLifecycleRequest)
  | refundPayment (request : PaymentLifecycleRequest)
  | lookupCatalogItem (itemId : String)
  | lookupCatalogItems (itemIds : List String)
  | searchCatalogItems (query : Option String)

namespace Tools

def getU64 (params : Json) (key : String) : Except String Nat :=
  ((params.get key).bind asU64).elim (.error ("missing required field: " ++ key)) .ok

def getI64 (params : Json) (key : String) : Except String Int :=
  ((params.get key).bind asI64).elim (.error ("missing required field: " ++ key)) .ok

/-- `as u32`. -/
def quantity (args : Json) : Except String Nat := (getU64 args "quantity").map (· % 2 ^ 32)

def paymentRequest (args : Json) : Except String PaymentLifecycleRequest := do
  let tenantId ← getStr args "tenant_id"
  let merchantId ← getStr args "merchant_id"
  let transactionId ← getStr args "transaction_id"
  let amountMinor ← getI64 args "amount_minor"
  let idempotencyKey ← getStr args "idempotency_key"
  return { tenantId, merchantId, transactionId, amountMinor, idempotencyKey }

def itemIds (args : Json) : Except String (List String) := do
  let values ← ((args.get "item_ids").bind asArray).elim
    (.error "missing required field: item_ids") .ok
  values.mapM fun v => v.asStr.elim (.error "item_ids must contain only strings") .ok

section Read

-- `Uuid::parse_str`, with the text of its error, and the reader derived for payment intents
variable (parseCartId : String → Except String CartId)
  (readPaymentIntent : Json → Except String PaymentIntent)

def cartId (args : Json) : Except String CartId := do parseCartId (← getStr args "cart_id")

def checkoutRequest (args : Json) : Except String CheckoutRequest := do
  let tenantId ← getStr args "tenant_id"
  let merchantId ← getStr args "merchant_id"
  let cartId ← cartId parseCartId args
  let cartVersion ← getU64 args "cart_version"
  let currency ← getStr args "currency"
  let intent ← (args.get "payment_intent").elim (.error "missing payment_intent") .ok
  let paymentIntent ← readPaymentIntent intent
  let idempotencyKey ← getStr args "idempotency_key"
  return {
    tenantId, merchantId, cartId, cartVersion, currency, customer := none, location := none
    paymentIntent, idempotencyKey }

/-- What an arm of `dispatch_tool` reads before it calls the facade. -/
def read (auth : AuthContext) (name : String) (args : Json) : Except String ToolCall :=
  match name with
  | "create_cart" => do
      let merchantId ← getStr args "merchant_id"
      let currency ← getStr args "currency"
      return .cart (.createCart ⟨merchantId, currency, some auth.tenantId⟩) none
  | "add_item" => do
      let cartId ← cartId parseCartId args
      let itemId ← getStr args "item_id"
      let quantity ← quantity args
      return .cart (.addItem ⟨itemId, quantity⟩) (some cartId)
  | "update_item_qty" => do
      let cartId ← cartId parseCartId args
      let lineId ← getStr args "line_id"
      let quantity ← quantity args
      return .cart (.updateItemQty ⟨lineId, quantity⟩) (some cartId)
  | "remove_item" => do
      let cartId ← cartId parseCartId args
      let lineId ← getStr args "line_id"
      return .cart (.removeItem ⟨lineId⟩) (some cartId)
  | "apply_adjustment" => do
      let cartId ← cartId parseCartId args
      let code ← getStr args "code"
      return .cart (.applyAdjustment ⟨code⟩) (some cartId)
  | "set_fulfillment_selection" => do
      let cartId ← cartId parseCartId args
      let payload ← fulfillmentSelectionPayload args
      return .cart (.setFulfillmentSelection payload) (some cartId)
  | "get_cart" => do
      let cartId ← cartId parseCartId args
      return .cart (.getCart ⟨cartId⟩) (some cartId)
  | "start_checkout" => do
      let cartId ← cartId parseCartId args
      let cartVersion ← getU64 args "cart_version"
      return .cart (.startCheckout ⟨cartId, cartVersion⟩) (some cartId)
  | "execute_checkout" => do
      return .executeCheckout (← checkoutRequest parseCartId readPaymentIntent args)
  | "get_order" => do return .getOrder (← getStr args "order_id")
  | "list_orders" => do return .listOrders (← getStr args "tenant_id")
  | "capture_payment" => do return .capturePayment (← paymentRequest args)
  | "void_payment" => do return .voidPayment (← paymentRequest args)
  | "refund_payment" => do return .refundPayment (← paymentRequest args)
  | "lookup_catalog_item" => do return .lookupCatalogItem (← getStr args "item_id")
  | "lookup_catalog_items" => do return .lookupCatalogItems (← itemIds args)
  | "search_catalog_items" => .ok (.searchCatalogItems ((args.get "query").bind asStr))
  | _ => .error ("unknown tool: " ++ name)

end Read

end Tools

/-! ## The handler -/

/-- The facade as the tools use it, over the state `W` of everything behind it.  Answers are as
they are rendered, errors as their texts. -/
structure McpFacade (W : Type) where
  dispatchCartCommandForTenant :
    String → CartCommand → Option CartId → W → Except String Json × W
  executeCheckoutAuthorized : AuthContext → CheckoutRequest → W → Except String Json × W
  getOrder : String → W → Except String (Option Json) × W
  listOrders : String → W → Except String Json × W
  capturePayment : PaymentLifecycleRequest → W → Except String Json × W
  voidPayment : PaymentLifecycleRequest → W → Except String Json × W
  refundPayment : PaymentLifecycleRequest → W → Except String Json × W
  lookupCatalogItem : String → W → Except String Json × W
  lookupCatalogItems : List String → W → Except String Json × W
  searchCatalogItems : Option String → W → Except String Json × W
  /-- `serde_json::to_string`. -/
  toText : Json → String

section Handler

variable {W : Type} (facade : McpFacade W) (parseCartId : String → Except String CartId)
  (readPaymentIntent : Json → Except String PaymentIntent) (auth : AuthContext)

/-- An order that is not there is an error. -/
def orderFound (order : Except String (Option Json)) : Except String Json := do
  (← order).elim (.error "order not found") .ok

def ToolCall.perform (w : W) : ToolCall → Except String Json × W
  | .cart command cartId =>
      facade.dispatchCartCommandForTenant auth.tenantId command cartId w
  | .executeCheckout request => facade.executeCheckoutAuthorized auth request w
  | .getOrder orderId =>
      let found := facade.getOrder orderId w
      (orderFound found.1, found.2)
  | .listOrders tenantId => facade.listOrders tenantId w
  | .capturePayment request => facade.capturePayment request w
  | .voidPayment request => facade.voidPayment request w
  | .refundPayment request => facade.refundPayment request w
  | .lookupCatalogItem itemId => facade.lookupCatalogItem itemId w
  | .lookupCatalogItems itemIds => facade.lookupCatalogItems itemIds w
  | .searchCatalogItems query => facade.searchCatalogItems query w

def dispatchTool (name : String) (args : Json) (w : W) : Except String Json × W :=
  match Tools.read parseCartId readPaymentIntent auth name args with
  | .error e => (.error e, w)
  | .ok call => call.perform facade auth w

/-- `{ "contents": [{ .. }] }`. -/
def resourceContents (uri text : String) : Json :=
  .object [("contents", .array [.object
    [("uri", .string uri), ("mimeType", .string "application/json"), ("text", .string text)]])]

/-- `uri.strip_prefix(scheme)`. -/
def stripScheme (scheme uri : String) : Option String :=
  if uri.startsWith scheme then some (uri.drop scheme.length).toString else none

def McpFacade.readResource (uri : String) (w : W) : Except String Json × W :=
  let rendered (answer : Except String Json) :=
    answer.map fun value => resourceContents uri (facade.toText value)
  match stripScheme "order://" uri with
  | some orderId =>
      let found := facade.getOrder orderId w
      (rendered (orderFound found.1), found.2)
  | none =>
      match stripScheme "cart://" uri with
      | some cartIdStr =>
          match parseCartId cartIdStr with
          | .error e => (.error e, w)
          | .ok cartId =>
              let shown := facade.dispatchCartCommandForTenant auth.tenantId (.getCart ⟨cartId⟩)
                (some cartId) w
              (rendered shown.1, shown.2)
      | none => (.error ("unsupported resource URI: " ++ uri), w)

def capabilities : Json :=
  .object
    [("tools", .object [("listChanged", .bool false)]),
      ("resources", .object [("subscribe", .bool false), ("listChanged", .bool false)])]

/-- `version` is `CARGO_PKG_VERSION`. -/
def serverInfo (version : String) : Json :=
  .object [("name", .string "commerce-orchestrator"), ("version", .string version)]

def serverDiscoverPayload (version : String) : Json :=
  .object
    [("protocolVersions", .array (mcpSupportedVersions.map .string)),
      ("capabilities", capabilities), ("serverInfo", serverInfo version)]

def orderResource : Json :=
  .object
    [("uri", .string "order://\x7bid\x7d"), ("name", .string "Order"),
      ("description", .string "Retrieve an order by ID"),
      ("mimeType", .string "application/json")]

def cartResource : Json :=
  .object
    [("uri", .string "cart://\x7bid\x7d"), ("name", .string "Cart"),
      ("description", .string "Retrieve a cart by ID"), ("mimeType", .string "application/json")]

/-- A text member of the parameters: empty if it is missing. -/
def paramText (params : Json) (key : String) : String := ((params.get key).bind asStr).getD ""

/-- What a method answers: a value, or an error and its code. -/
def answerMethod (version negotiated method : String) (params : Json) (w : W) :
    Except (Int × String) Json × W :=
  match method with
  | "server/discover" => (.ok (serverDiscoverPayload version), w)
  | "tools/list" => (.ok (.object [("tools", .array (listTools.map (·.toValue)))]), w)
  | "tools/call" =>
      let args := (params.get "arguments").getD .null
      let called :=
        dispatchTool facade parseCartId readPaymentIntent auth (paramText params "name") args w
      (called.1.mapError (internalError, ·), called.2)
  | "resources/list" => (.ok (.object [("resources", .array [orderResource, cartResource])]), w)
  | "resources/read" =>
      let shown := facade.readResource parseCartId auth (paramText params "uri") w
      (shown.1.mapError (internalError, ·), shown.2)
  | "initialize" =>
      if negotiated = mcpModernVersion then
        (.error (methodNotFound,
          "initialize is not used in MCP 2026-07-28; call server/discover instead"), w)
      else
        (.ok (.object
          [("protocolVersion", .string negotiated), ("capabilities", capabilities),
            ("serverInfo", serverInfo version)]), w)
  | "notifications/initialized" => (.ok (.object []), w)
  | _ => (.error (methodNotFound, "method not found: " ++ method), w)

/-- `Map::insert`. -/
def insertMember (key : String) (value : Json) (members : List (String × Json)) :
    List (String × Json) :=
  members.filter (·.1 ≠ key) ++ [(key, value)]

/-- The server's own members of `_meta`. -/
def insertServerMeta (version : String) (members : List (String × Json)) : List (String × Json) :=
  insertMember "io.modelcontextprotocol/protocolVersion" (.string mcpModernVersion)
    (insertMember "io.modelcontextprotocol/serverInfo" (serverInfo version) members)

/-- `_meta` is added to an object; one that is there already and no object is left alone. -/
def embedMeta (version : String) : Json → Json
  | .object members =>
      match ((Json.object members).get "_meta").getD (.object []) with
      | .object own =>
          .object (insertMember "_meta" (.object (insertServerMeta version own)) members)
      | _ => .object members
  | value => value

def JsonRpcResponse.ofAnswer (version negotiated : String) (id : Json) :
    Except (Int × String) Json → JsonRpcResponse
  | .ok value =>
      .success id (if negotiated = mcpModernVersion then embedMeta version value else value)
  | .error (code, message) => .failure id code message

/-- Header and parameters both state a version, and not the same. -/
def VersionsDiffer (headerVersion metaVersion : Option String) : Prop :=
  headerVersion.isSome ∧ metaVersion.isSome ∧ headerVersion.map trim ≠ metaVersion.map trim

instance (headerVersion metaVersion : Option String) :
    Decidable (VersionsDiffer headerVersion metaVersion) :=
  inferInstanceAs (Decidable (_ ∧ _ ∧ _))

/-- What an unsupported version is told. -/
def unsupportedVersion (id : Json) (requested : String) : JsonRpcResponse :=
  .errorWithData id unsupportedProtocolVersion "Unsupported protocol version"
    (.object [("supported", .array (mcpSupportedVersions.map .string)),
      ("requested", .string requested)])

def handleMcpRequestWithVersion (version : String) (request : JsonRpcRequest)
    (headerVersion : Option String) (w : W) : JsonRpcResponse × W :=
  let metaVersion := extractMetaProtocolVersion request
  match negotiateMcpVersion headerVersion metaVersion request.method with
  | .error requested => (unsupportedVersion request.id requested, w)
  | .ok negotiated =>
      if VersionsDiffer headerVersion metaVersion then
        (.failure request.id invalidRequest
          "MCP-Protocol-Version header does not match params._meta protocolVersion", w)
      else
        let answered := answerMethod facade parseCartId readPaymentIntent auth version negotiated
          request.method (request.params.getD .null) w
        (.ofAnswer version negotiated request.id answered.1, answered.2)

end Handler

/-! ## What is refused -/

section Refusals

variable {W : Type} {facade : McpFacade W} {parseCartId : String → Except String CartId}
  {readPaymentIntent : Json → Except String PaymentIntent} {auth : AuthContext} {w : W}
  {args : Json} {key name : String}

/-- What is read fails. -/
def Fails {α : Type} (read : Except String α) : Prop := ∃ e, read = .error e

theorem fails_bind {α β : Type} {read : Except String α} {f : α → Except String β}
    (h : Fails read ∨ ∀ a, Fails (f a)) : Fails (read >>= f) := by
  cases read with
  | error e => exact ⟨e, rfl⟩
  | ok a =>
      rcases h with ⟨e, he⟩ | h
      · cases he
      · exact h a

theorem fails_getStr (h : args.get key = none) : Fails (Tools.getStr args key) := by
  unfold Tools.getStr
  rw [h]
  exact ⟨_, rfl⟩

theorem fails_getU64 (h : args.get key = none) : Fails (Tools.getU64 args key) := by
  unfold Tools.getU64
  rw [h]
  exact ⟨_, rfl⟩

theorem fails_getI64 (h : args.get key = none) : Fails (Tools.getI64 args key) := by
  unfold Tools.getI64
  rw [h]
  exact ⟨_, rfl⟩

theorem fails_quantity (h : args.get "quantity" = none) : Fails (Tools.quantity args) := by
  obtain ⟨e, he⟩ := fails_getU64 h
  unfold Tools.quantity
  rw [he]
  exact ⟨e, rfl⟩

theorem fails_cartId (h : args.get "cart_id" = none) : Fails (Tools.cartId parseCartId args) :=
  fails_bind (.inl (fails_getStr h))

theorem fails_paymentRequest
    (hkey : key ∈ ["tenant_id", "merchant_id", "transaction_id", "amount_minor",
      "idempotency_key"])
    (h : args.get key = none) : Fails (Tools.paymentRequest args) := by
  unfold Tools.paymentRequest
  simp only [List.mem_cons, List.not_mem_nil, or_false] at hkey
  rcases hkey with rfl | rfl | rfl | rfl | rfl
  all_goals
    repeat first
      | exact fails_bind (.inl (fails_getStr h))
      | exact fails_bind (.inl (fails_getI64 h))
      | refine fails_bind (.inr fun _ => ?_)

theorem fails_checkoutRequest
    (hkey : key ∈ ["tenant_id", "merchant_id", "cart_id", "cart_version", "currency",
      "payment_intent", "idempotency_key"])
    (h : args.get key = none) :
    Fails (Tools.checkoutRequest parseCartId readPaymentIntent args) := by
  have hintent : key = "payment_intent" →
      Fails ((args.get "payment_intent").elim (.error "missing payment_intent") .ok) := by
    rintro rfl
    rw [h]
    exact ⟨_, rfl⟩
  unfold Tools.checkoutRequest
  simp only [List.mem_cons, List.not_mem_nil, or_false] at hkey
  rcases hkey with rfl | rfl | rfl | rfl | rfl | rfl | rfl
  all_goals
    repeat first
      | exact fails_bind (.inl (fails_getStr h))
      | exact fails_bind (.inl (fails_cartId h))
      | exact fails_bind (.inl (fails_getU64 h))
      | exact fails_bind (.inl (hintent rfl))
      | refine fails_bind (.inr fun _ => ?_)

theorem fails_selection (hkey : key ∈ ["method_type", "destination"]) (h : args.get key = none) :
    Fails (Tools.fulfillmentSelectionPayload args) := by
  unfold Tools.fulfillmentSelectionPayload
  simp only [List.mem_cons, List.not_mem_nil, or_false] at hkey
  rcases hkey with rfl | rfl
  · exact fails_bind (.inl (fails_bind (.inl (fails_getStr h))))
  · refine fails_bind (.inr fun _ => fails_bind (.inl ?_))
    rw [h]
    exact ⟨_, rfl⟩

theorem fails_itemIds (h : args.get "item_ids" = none) : Fails (Tools.itemIds args) := by
  unfold Tools.itemIds
  rw [h]
  exact ⟨_, rfl⟩

/-- A tool on a line of a cart: the cart is read first. -/
theorem fails_cart {α : Type} {rest : CartId → Except String α}
    (h : args.get "cart_id" = none ∨ ∀ c, Fails (rest c)) :
    Fails (Tools.cartId parseCartId args >>= rest) :=
  fails_bind (h.imp fails_cartId id)

/-- **A listed tool reads what its schema requires.** -/
theorem fails_read {tool : ToolDefinition} (htool : tool ∈ listTools) (hkey : key ∈ tool.required)
    (h : args.get key = none) :
    Fails (Tools.read parseCartId readPaymentIntent auth tool.name args) := by
  simp only [listTools, List.mem_cons, List.not_mem_nil, or_false] at htool
  rcases htool with rfl | rfl | rfl | rfl | rfl | rfl | rfl | rfl | rfl | rfl | rfl | rfl | rfl |
    rfl | rfl | rfl | rfl
  all_goals try simp only [List.mem_cons, List.not_mem_nil, or_false] at hkey
  · -- create_cart
    rcases hkey with rfl | rfl
    · exact fails_bind (.inl (fails_getStr h))
    · exact fails_bind (.inr fun _ => fails_bind (.inl (fails_getStr h)))
  · -- add_item
    rcases hkey with rfl | rfl | rfl
    · exact fails_cart (.inl h)
    · exact fails_cart (.inr fun _ => fails_bind (.inl (fails_getStr h)))
    · refine fails_cart (.inr fun _ => fails_bind (.inr fun _ => ?_))
      exact fails_bind (.inl (fails_quantity h))
  · -- update_item_qty
    rcases hkey with rfl | rfl | rfl
    · exact fails_cart (.inl h)
    · exact fails_cart (.inr fun _ => fails_bind (.inl (fails_getStr h)))
    · refine fails_cart (.inr fun _ => fails_bind (.inr fun _ => ?_))
      exact fails_bind (.inl (fails_quantity h))
  · -- remove_item
    rcases hkey with rfl | rfl
    · exact fails_cart (.inl h)
    · exact fails_cart (.inr fun _ => fails_bind (.inl (fails_getStr h)))
  · -- apply_adjustment
    rcases hkey with rfl | rfl
    · exact fails_cart (.inl h)
    · exact fails_cart (.inr fun _ => fails_bind (.inl (fails_getStr h)))
  · -- set_fulfillment_selection
    rcases hkey with rfl | hkey
    · exact fails_cart (.inl h)
    · exact fails_cart (.inr fun _ => fails_bind (.inl (fails_selection (by simpa using hkey) h)))
  · -- get_cart
    subst hkey
    exact fails_cart (.inl h)
  · -- start_checkout
    rcases hkey with rfl | rfl
    · exact fails_cart (.inl h)
    · exact fails_cart (.inr fun _ => fails_bind (.inl (fails_getU64 h)))
  · -- execute_checkout
    exact fails_bind (.inl (fails_checkoutRequest (by simpa using hkey) h))
  · -- get_order
    subst hkey
    exact fails_bind (.inl (fails_getStr h))
  · -- list_orders
    subst hkey
    exact fails_bind (.inl (fails_getStr h))
  · exact fails_bind (.inl (fails_paymentRequest (by simpa [paymentTool] using hkey) h))
  · exact fails_bind (.inl (fails_paymentRequest (by simpa [paymentTool] using hkey) h))
  · exact fails_bind (.inl (fails_paymentRequest (by simpa [paymentTool] using hkey) h))
  · -- lookup_catalog_item
    subst hkey
    exact fails_bind (.inl (fails_getStr h))
  · -- lookup_catalog_items
    subst hkey
    exact fails_bind (.inl (fails_itemIds h))

/-- A name that no tool has. -/
theorem read_unknown (h : ∀ tool ∈ listTools, tool.name ≠ name) :
    Tools.read parseCartId readPaymentIntent auth name args =
      .error ("unknown tool: " ++ name) := by
  simp only [listTools, List.forall_mem_cons] at h
  unfold Tools.read
  split
  all_goals first | rfl | simp [paymentTool] at h

variable (facade parseCartId readPaymentIntent auth w) in
/-- A call of a tool that is not listed, or without an argument that its schema requires,
answers an error and does nothing. -/
theorem dispatchTool_refuses
    (h : (∀ tool ∈ listTools, tool.name ≠ name) ∨
      ∃ tool ∈ listTools, tool.name = name ∧ ∃ key ∈ tool.required, args.get key = none) :
    (∃ e, (dispatchTool facade parseCartId readPaymentIntent auth name args w).1 = .error e) ∧
      (dispatchTool facade parseCartId readPaymentIntent auth name args w).2 = w := by
  have hread : Fails (Tools.read parseCartId readPaymentIntent auth name args) := by
    rcases h with h | ⟨tool, htool, rfl, key, hkey, hnone⟩
    · exact ⟨_, read_unknown h⟩
    · exact fails_read htool hkey hnone
  obtain ⟨e, he⟩ := hread
  rw [dispatchTool, he]
  exact ⟨⟨e, rfl⟩, rfl⟩

end Refusals

/-! ## The protocol -/

section Protocol

variable {W : Type} {facade : McpFacade W} {parseCartId : String → Except String CartId}
  {readPaymentIntent : Json → Except String PaymentIntent} {auth : AuthContext} {w : W}
  {version negotiated negotiated' method : String} {params : Json}

/-- The version is served, and stated alike wherever it is stated. -/
def Admitted (request : JsonRpcRequest) (headerVersion : Option String) : Prop :=
  (∃ v, negotiateMcpVersion headerVersion (extractMetaProtocolVersion request) request.method =
    .ok v) ∧ ¬ VersionsDiffer headerVersion (extractMetaProtocolVersion request)

/-- A value without the member `_meta`. -/
def dropMeta : Json → Json
  | .object members => .object (members.filter (·.1 ≠ "_meta"))
  | value => value

theorem filter_insertMember {key : String} {value : Json} {members : List (String × Json)} :
    (insertMember key value members).filter (·.1 ≠ key) = members.filter (·.1 ≠ key) := by
  rw [insertMember, List.filter_append, List.filter_filter]
  simp

/-- What the server adds is in `_meta`. -/
theorem dropMeta_embedMeta {value : Json} :
    dropMeta (embedMeta version value) = dropMeta value := by
  unfold embedMeta
  split
  · split
    · exact congrArg Json.object filter_insertMember
    · rfl
  · rfl

/-- The two methods that call the facade. -/
def calls (method : String) : Prop := method = "tools/call" ∨ method = "resources/read"

/-- The facade is called by two methods only. -/
theorem answerMethod_idle (h : ¬ calls method) :
    (answerMethod facade parseCartId readPaymentIntent auth version negotiated method params w).2 =
      w := by
  unfold answerMethod
  split
  case h_3 => exact absurd (.inl rfl) h
  case h_5 => exact absurd (.inr rfl) h
  case h_6 => split <;> rfl
  all_goals rfl

/-- The version shows in the answer to `initialize` only. -/
theorem answerMethod_versions (h : method ≠ "initialize") :
    answerMethod facade parseCartId readPaymentIntent auth version negotiated method params w =
      answerMethod facade parseCartId readPaymentIntent auth version negotiated' method params
        w := by
  unfold answerMethod
  split
  case h_6 => exact absurd rfl h
  all_goals rfl

theorem ofAnswer_id {id : Json} {answer : Except (Int × String) Json} :
    (JsonRpcResponse.ofAnswer version negotiated id answer).id = id := by
  unfold JsonRpcResponse.ofAnswer
  split <;> rfl

/-- A response has a result or an error, and not both. -/
def JsonRpcResponse.OneOf (response : JsonRpcResponse) : Prop :=
  (response.result.isSome ∧ response.error.isNone) ∨
    (response.result.isNone ∧ response.error.isSome)

theorem ofAnswer_oneOf {id : Json} {answer : Except (Int × String) Json} :
    (JsonRpcResponse.ofAnswer version negotiated id answer).OneOf := by
  unfold JsonRpcResponse.ofAnswer
  split
  · exact .inl ⟨rfl, rfl⟩
  · exact .inr ⟨rfl, rfl⟩

theorem dropMeta_shown {value : Json} :
    dropMeta (if negotiated = mcpModernVersion then embedMeta version value else value) =
      dropMeta value := by
  split
  · exact dropMeta_embedMeta
  · rfl

theorem ofAnswer_result {id value : Json} {answer : Except (Int × String) Json}
    (h : (JsonRpcResponse.ofAnswer version negotiated id answer).result = some value) :
    ∃ shown, answer = .ok shown ∧ dropMeta value = dropMeta shown := by
  cases answer with
  | error refusal => cases h
  | ok shown =>
      refine ⟨shown, rfl, ?_⟩
      cases h
      exact dropMeta_shown

theorem ofAnswer_versions {id : Json} {answer : Except (Int × String) Json} :
    (JsonRpcResponse.ofAnswer version negotiated id answer).error =
        (JsonRpcResponse.ofAnswer version negotiated' id answer).error ∧
      (JsonRpcResponse.ofAnswer version negotiated id answer).result.map dropMeta =
        (JsonRpcResponse.ofAnswer version negotiated' id answer).result.map dropMeta := by
  cases answer with
  | error refusal => exact ⟨rfl, rfl⟩
  | ok value =>
      refine ⟨rfl, ?_⟩
      show some (dropMeta _) = some (dropMeta _)
      rw [dropMeta_shown, dropMeta_shown]

/-- What the protocol promises of one request. -/
structure McpPromises (facade : McpFacade W) (parseCartId : String → Except String CartId)
    (readPaymentIntent : Json → Except String PaymentIntent) (auth : AuthContext)
    (version : String) (request : JsonRpcRequest) (headerVersion : Option String) (w : W)
    (done : JsonRpcResponse × W) : Prop where
  id : done.1.id = request.id
  oneOf : done.1.OneOf
  /-- What is not admitted is refused, and does nothing. -/
  refused : ¬ Admitted request headerVersion → done.1.error.isSome ∧ done.2 = w
  idle : ¬ calls request.method → done.2 = w
  /-- A tool that is not listed, or called without a required argument, does nothing either. -/
  untouched : request.method = "tools/call" →
    ((∀ tool ∈ listTools, tool.name ≠ paramText (request.params.getD .null) "name") ∨
      ∃ tool ∈ listTools, tool.name = paramText (request.params.getD .null) "name" ∧
        ∃ key ∈ tool.required,
          (((request.params.getD .null).get "arguments").getD .null).get key = none) →
    done.1.error.isSome ∧ done.2 = w
  /-- Another version makes no difference but in `_meta`. -/
  versions : ∀ headerVersion', request.method ≠ "initialize" →
    Admitted request headerVersion → Admitted request headerVersion' →
    let done' := handleMcpRequestWithVersion facade parseCartId readPaymentIntent auth version
      request headerVersion' w
    done'.2 = done.2 ∧ done'.1.error = done.1.error ∧
      done'.1.result.map dropMeta = done.1.result.map dropMeta

variable {request : JsonRpcRequest} {headerVersion : Option String}

section Handled

variable (facade parseCartId readPaymentIntent auth version)

/-- What is not admitted is answered at once. -/
theorem handle_refused (h : ¬ Admitted request headerVersion) :
    ∃ refusal : JsonRpcResponse,
      refusal.id = request.id ∧ refusal.OneOf ∧ refusal.error.isSome ∧
      ∀ w, handleMcpRequestWithVersion facade parseCartId readPaymentIntent auth version request
        headerVersion w = (refusal, w) := by
  unfold handleMcpRequestWithVersion
  simp only
  cases hv : negotiateMcpVersion headerVersion (extractMetaProtocolVersion request)
      request.method with
  | error requested => exact ⟨_, rfl, .inr ⟨rfl, rfl⟩, rfl, fun _ => rfl⟩
  | ok negotiated =>
      have hdiffer : VersionsDiffer headerVersion (extractMetaProtocolVersion request) :=
        not_not.1 fun hn => h ⟨⟨negotiated, hv⟩, hn⟩
      refine ⟨_, ?_, ?_, ?_, fun _ => if_pos hdiffer⟩
      · rfl
      · exact .inr ⟨rfl, rfl⟩
      · rfl

/-- What is admitted is answered by its method. -/
theorem handle_admitted (h : Admitted request headerVersion) :
    ∃ negotiated, ∀ w,
      handleMcpRequestWithVersion facade parseCartId readPaymentIntent auth version request
          headerVersion w =
        (.ofAnswer version negotiated request.id
          (answerMethod facade parseCartId readPaymentIntent auth version negotiated
            request.method (request.params.getD .null) w).1,
          (answerMethod facade parseCartId readPaymentIntent auth version negotiated
            request.method (request.params.getD .null) w).2) := by
  obtain ⟨⟨negotiated, hv⟩, hsame⟩ := h
  refine ⟨negotiated, ?_⟩
  unfold handleMcpRequestWithVersion
  simp only [hv]
  exact fun _ => if_neg hsame

end Handled

/-- A refused tool call answers an error, and does nothing. -/
theorem answerMethod_refuses (hmethod : method = "tools/call")
    (h : (∀ tool ∈ listTools, tool.name ≠ paramText params "name") ∨
      ∃ tool ∈ listTools, tool.name = paramText params "name" ∧ ∃ key ∈ tool.required,
        ((params.get "arguments").getD .null).get key = none) :
    (∃ e, (answerMethod facade parseCartId readPaymentIntent auth version negotiated method
        params w).1 = .error e) ∧
      (answerMethod facade parseCartId readPaymentIntent auth version negotiated method
        params w).2 = w := by
  subst hmethod
  obtain ⟨⟨e, he⟩, hw⟩ := dispatchTool_refuses facade parseCartId readPaymentIntent auth w h
  refine ⟨⟨(internalError, e), ?_⟩, hw⟩
  show Except.mapError _ (dispatchTool ..).1 = _
  rw [he]
  rfl

/-- **What the protocol promises.**  Whatever the facade does, an answer carries the id it was
asked under and either a result or an error; a version that is not served or is stated in two
ways, a tool that is not listed and a call without an argument that the listed schema requires
are errors that leave everything as it was; and which of the served versions is spoken changes
what is done and answered in nothing but `_meta`, the handshake of `initialize` apart. -/
theorem mcp_request_promises (facade : McpFacade W) (parseCartId : String → Except String CartId)
    (readPaymentIntent : Json → Except String PaymentIntent) (auth : AuthContext)
    (version : String) (request : JsonRpcRequest) (headerVersion : Option String) (w : W) :
    McpPromises facade parseCartId readPaymentIntent auth version request headerVersion w
      (handleMcpRequestWithVersion facade parseCartId readPaymentIntent auth version request
        headerVersion w) := by
  by_cases h : Admitted request headerVersion
  · obtain ⟨negotiated, he⟩ :=
      handle_admitted facade parseCartId readPaymentIntent auth version h
    rw [he]
    refine ⟨ofAnswer_id, ofAnswer_oneOf, fun hn => absurd h hn, answerMethod_idle, ?_, ?_⟩
    · intro hmethod hrefused
      obtain ⟨⟨e, hanswer⟩, hw⟩ := answerMethod_refuses hmethod hrefused
      refine ⟨?_, hw⟩
      simp only [hanswer]
      rfl
    · intro headerVersion' hmethod _ h'
      obtain ⟨negotiated', he'⟩ :=
        handle_admitted facade parseCartId readPaymentIntent auth version h'
      have hsame :
          answerMethod facade parseCartId readPaymentIntent auth version negotiated'
              request.method (request.params.getD .null) w =
            answerMethod facade parseCartId readPaymentIntent auth version negotiated
              request.method (request.params.getD .null) w := answerMethod_versions hmethod
      rw [he', hsame]
      exact ⟨rfl, ofAnswer_versions⟩
  · obtain ⟨refusal, hid, hone, herror, he⟩ :=
      handle_refused facade parseCartId readPaymentIntent auth version h
    rw [he]
    exact ⟨hid, hone, fun _ => ⟨herror, rfl⟩, fun _ => rfl, fun _ _ => ⟨herror, rfl⟩,
      fun _ _ hn => absurd hn h⟩

end Protocol

end Orchestrator
