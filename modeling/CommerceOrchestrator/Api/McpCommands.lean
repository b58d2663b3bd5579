/-
# `CommerceOrchestrator.Api.McpCommands` — cart commands of agents

The tools name the cart a command is about once, as an argument, so the check of the facade is
made of the cart that the runner works on.  That is what keeps an agent off the carts of other
tenants (`mcp_carts_isolated`).

A tool reads its arguments as REST reads a body, but for the quantity: REST rejects one of more
than 32 bits, a tool takes its low ones (`mcp_reads_rest`).
-/
import CommerceOrchestrator.Api.CartCommands
import CommerceOrchestrator.Api.McpTools

namespace Orchestrator

open Effect Text Json

/-! ## What is asked of the facade -/

/-- The tools on carts. -/
def cartTools : List String :=
  ["create_cart", "add_item", "update_item_qty", "remove_item", "apply_adjustment",
    "set_fulfillment_selection", "get_cart", "start_checkout"]

/-- The command is about no other cart than the one named beside it. -/
def AboutNamed (cmd : CartCommand) (cartId : Option CartId) : Prop :=
  ∀ c, cmd.target cartId = some c → cartId = some c

section Commands

variable {parseCartId : String → Except String CartId}
  {readPaymentIntent : Json → Except String PaymentIntent} {auth : AuthContext}
  {args : Json} {name : String} {call : ToolCall}

theorem aboutNamed_edit {cmd : CartCommand} {c : CartId} (h : cmd.target (some c) = some c) :
    AboutNamed cmd (some c) := by
  intro c' hc'
  rw [← hc', h]

/-- A tool on carts reads a command about the cart it names. -/
theorem read_cart (hname : name ∈ cartTools)
    (h : Tools.read parseCartId readPaymentIntent auth name args = .ok call) :
    ∃ cmd cartId, call = .cart cmd cartId ∧ AboutNamed cmd cartId := by
  simp only [cartTools, List.mem_cons, List.not_mem_nil, or_false] at hname
  rcases hname with rfl | rfl | rfl | rfl | rfl | rfl | rfl | rfl
  all_goals simp only [Tools.read, bind_eq_ok] at h
  · obtain ⟨_, -, _, -, h⟩ := h
    cases h
    exact ⟨_, _, rfl, fun c hc => nomatch hc⟩
  · obtain ⟨_, -, _, -, _, -, h⟩ := h
    cases h
    exact ⟨_, _, rfl, aboutNamed_edit rfl⟩
  · obtain ⟨_, -, _, -, _, -, h⟩ := h
    cases h
    exact ⟨_, _, rfl, aboutNamed_edit rfl⟩
  · obtain ⟨_, -, _, -, h⟩ := h
    cases h
    exact ⟨_, _, rfl, aboutNamed_edit rfl⟩
  · obtain ⟨_, -, _, -, h⟩ := h
    cases h
    exact ⟨_, _, rfl, aboutNamed_edit rfl⟩
  · obtain ⟨_, -, _, -, h⟩ := h
    cases h
    exact ⟨_, _, rfl, aboutNamed_edit rfl⟩
  · obtain ⟨_, -, h⟩ := h
    cases h
    exact ⟨_, _, rfl, aboutNamed_edit rfl⟩
  · obtain ⟨_, -, _, -, h⟩ := h
    cases h
    exact ⟨_, _, rfl, aboutNamed_edit rfl⟩

end Commands

/-! ## Isolation -/

/-- The facade over an environment: its cart commands are the runner's, its answers rendered. -/
def McpFacade.overCarts (base : McpFacade World) (env : Env) (runner : Runner)
    (render : CartProjection → Json) (text : FacadeError → String) : McpFacade World :=
  { base with
    dispatchCartCommandForTenant := fun tenantId cmd cartId w =>
      let done := env.forTenant runner tenantId cmd cartId w
      ((done.1.map render).mapError text, done.2) }

/-- A call of a tool on carts, a resource that is no order, or neither a call nor a resource. -/
def AsksForCarts (request : JsonRpcRequest) : Prop :=
  (request.method = "tools/call" →
    paramText (request.params.getD .null) "name" ∈ cartTools) ∧
  (request.method = "resources/read" →
    stripScheme "order://" (paramText (request.params.getD .null) "uri") = none)

/-- A cart that is asked for is looked up. -/
def SnapshotsAnswer (env : Env) : Prop := ∀ n c, env.fault n (.getCartSnapshot c) = none

theorem rendered_ok {ε α β : Type} {f : α → β} {x : Except ε α} {b : β} (h : x.map f = .ok b) :
    ∃ a, x = .ok a ∧ f a = b := by
  cases x with
  | error e => cases h
  | ok a => exact ⟨a, rfl, Except.ok.inj h⟩

/-- What the facade makes of a command about the cart named is isolated. -/
theorem isolated_of_aboutNamed {env : Env} {runner : Runner} {t : String} {w : World}
    {cmd : CartCommand} {cartId : Option CartId} (hanswer : SnapshotsAnswer env)
    (hw : Reachable env runner w) (h : AboutNamed cmd cartId) :
    Isolated env runner t cmd cartId w := by
  refine Guarded.isolated hw.keyed ?_
  intro c hc hforeign
  refine .inl ⟨c, ?_, refuses_iff.mpr ⟨hanswer _ _, hforeign⟩⟩
  rw [h c hc]
  rfl

section Isolation

variable (base : McpFacade World) (env : Env) (runner : Runner) (render : CartProjection → Json)
  (text : FacadeError → String) (parseCartId : String → Except String CartId)
  (readPaymentIntent : Json → Except String PaymentIntent) (auth : AuthContext)
  (version negotiated method : String) (params : Json)

/-- A value that is sent: what the facade answered, or a resource with its text. -/
def Sends (facade : McpFacade World) (params answered value : Json) : Prop :=
  value = answered ∨ value = resourceContents (paramText params "uri") (facade.toText answered)

/-- The facade is asked one command about the cart named, and what is sent is made of its answer. -/
def AnswersCommand (facade : McpFacade World)
    (answer : World → Except (Int × String) Json × World) : Prop :=
  ∃ cmd cartId, AboutNamed cmd cartId ∧
    ∃ f : Except String Json → Except (Int × String) Json,
      (∀ x value, f x = .ok value → ∃ answered, x = .ok answered ∧
        Sends facade params answered value) ∧
      ∀ w, answer w =
        (f (facade.dispatchCartCommandForTenant auth.tenantId cmd cartId w).1,
          (facade.dispatchCartCommandForTenant auth.tenantId cmd cartId w).2)

/-- The facade is not asked. -/
def AnswersAlone (answer : World → Except (Int × String) Json × World) : Prop :=
  ∃ alone, (calls method → ∀ value, alone ≠ .ok value) ∧ ∀ w, answer w = (alone, w)

theorem answerMethod_alone (facade : McpFacade World) (h : ¬ calls method) :
    AnswersAlone method (answerMethod facade parseCartId readPaymentIntent auth version negotiated
      method params) := by
  unfold AnswersAlone answerMethod
  split
  case h_3 => exact absurd (.inl rfl) h
  case h_5 => exact absurd (.inr rfl) h
  case h_6 => split <;> exact ⟨_, fun hc => absurd hc h, fun _ => rfl⟩
  all_goals exact ⟨_, fun hc => absurd hc h, fun _ => rfl⟩

/-- A tool on carts that reads its arguments asks for one command about the cart named. -/
theorem answerMethod_tool (facade : McpFacade World)
    (htool : paramText params "name" ∈ cartTools) :
    AnswersAlone "tools/call" (answerMethod facade parseCartId readPaymentIntent auth version
        negotiated "tools/call" params) ∨
      AnswersCommand auth params facade (answerMethod facade parseCartId readPaymentIntent auth
        version negotiated "tools/call" params) := by
  have hanswer (w : World) :
      answerMethod facade parseCartId readPaymentIntent auth version negotiated "tools/call" params
          w =
        ((dispatchTool facade parseCartId readPaymentIntent auth (paramText params "name")
            ((params.get "arguments").getD .null) w).1.mapError (internalError, ·),
          (dispatchTool facade parseCartId readPaymentIntent auth (paramText params "name")
            ((params.get "arguments").getD .null) w).2) := rfl
  cases hread : Tools.read parseCartId readPaymentIntent auth (paramText params "name")
      ((params.get "arguments").getD .null) with
  | error e =>
      refine .inl ⟨.error (internalError, e), fun _ _ => nofun, fun w => ?_⟩
      rw [hanswer, dispatchTool, hread]
      rfl
  | ok call =>
      obtain ⟨cmd, cartId, rfl, habout⟩ := read_cart htool hread
      refine .inr ⟨cmd, cartId, habout, (·.mapError (internalError, ·)), ?_, fun w => ?_⟩
      · intro x value h
        exact ⟨value, mapError_eq_ok.mp h, .inl rfl⟩
      · rw [hanswer, dispatchTool, hread]
        rfl

/-- A resource that is no order is a cart, or refused. -/
theorem answerMethod_resource (facade : McpFacade World)
    (huri : stripScheme "order://" (paramText params "uri") = none) :
    AnswersAlone "resources/read" (answerMethod facade parseCartId readPaymentIntent auth version
        negotiated "resources/read" params) ∨
      AnswersCommand auth params facade (answerMethod facade parseCartId readPaymentIntent auth
        version negotiated "resources/read" params) := by
  have hanswer (w : World) :
      answerMethod facade parseCartId readPaymentIntent auth version negotiated "resources/read"
          params w =
        ((facade.readResource parseCartId auth (paramText params "uri") w).1.mapError
            (internalError, ·),
          (facade.readResource parseCartId auth (paramText params "uri") w).2) := rfl
  cases hcart : stripScheme "cart://" (paramText params "uri") with
  | none =>
      refine .inl ⟨.error (internalError, "unsupported resource URI: " ++ paramText params "uri"),
        fun _ _ => nofun, fun w => ?_⟩
      rw [hanswer, McpFacade.readResource, huri, hcart]
      rfl
  | some cartIdStr =>
      cases hid : parseCartId cartIdStr with
      | error e =>
          refine .inl ⟨.error (internalError, e), fun _ _ => nofun, fun w => ?_⟩
          rw [hanswer, McpFacade.readResource, huri, hcart]
          simp only [hid]
          rfl
      | ok cartId =>
          refine .inr ⟨.getCart ⟨cartId⟩, some cartId, aboutNamed_edit rfl,
            fun shown => (shown.map fun value =>
              resourceContents (paramText params "uri") (facade.toText value)).mapError
                (internalError, ·), ?_, fun w => ?_⟩
          · intro x value h
            cases x with
            | error e => cases h
            | ok answered =>
                cases h
                exact ⟨answered, rfl, .inr rfl⟩
          · rw [hanswer, McpFacade.readResource, huri, hcart]
            simp only [hid]

/-- **The inversion.**  A request for carts is answered from the request alone, or by one
command about the cart it names. -/
theorem answerMethod_carts (facade : McpFacade World)
    (htool : method = "tools/call" → paramText params "name" ∈ cartTools)
    (huri : method = "resources/read" → stripScheme "order://" (paramText params "uri") = none) :
    AnswersAlone method (answerMethod facade parseCartId readPaymentIntent auth version
        negotiated method params) ∨
      AnswersCommand auth params facade (answerMethod facade parseCartId readPaymentIntent auth
        version negotiated method params) := by
  by_cases hcall : calls method
  · rcases hcall with rfl | rfl
    · exact answerMethod_tool _ _ _ _ _ _ _ (htool rfl)
    · exact answerMethod_resource _ _ _ _ _ _ _ (huri rfl)
  · exact .inl (answerMethod_alone _ _ _ _ _ _ _ _ hcall)

/-- What a request on behalf of a tenant does about the carts of others: it shows carts of the
tenant only, leaves the records of others alone, and is answered alike whatever is filed under
them. -/
structure IsolatedRequest (t : String) (shows : CartProjection → Json → Prop) (method : String)
    (w : World) (done : World → JsonRpcResponse × World) : Prop where
  own : calls method → ∀ value, (done w).1.result = some value → ∃ s shown,
    s.tenantId = some t ∧ shows s shown ∧ dropMeta value = dropMeta shown
  unchanged : ∀ c, Foreign t w c → (done w).2.events.record c = w.events.record c
  unread : ∀ events, SameButForeign t w events → (done { w with events }).1 = (done w).1

variable {base env runner render text parseCartId readPaymentIntent auth version negotiated method
  params} in
/-- What the facade shows of an isolated command is isolated. -/
theorem IsolatedRequest.of_command {w : World} {id : Json}
    {answer : World → Except (Int × String) Json × World}
    (hanswer : SnapshotsAnswer env) (hw : Reachable env runner w)
    (h : AnswersCommand auth params (base.overCarts env runner render text) answer) :
    IsolatedRequest auth.tenantId
      (fun s => Sends (base.overCarts env runner render text) params (render s)) method w
      (fun w => (.ofAnswer version negotiated id (answer w).1, (answer w).2)) := by
  obtain ⟨cmd, cartId, habout, f, hf, hrun⟩ := h
  have hisolated : Isolated env runner auth.tenantId cmd cartId w :=
    isolated_of_aboutNamed hanswer hw habout
  refine ⟨fun _ value hvalue => ?_, fun c hc => ?_, fun events hsame => ?_⟩
  · obtain ⟨shown, hshown, hmeta⟩ := ofAnswer_result hvalue
    rw [hrun] at hshown
    obtain ⟨answered, hanswered, hshows⟩ := hf _ _ hshown
    obtain ⟨s, hs, rfl⟩ := rendered_ok (mapError_eq_ok.mp hanswered)
    exact ⟨s, shown, hisolated.own s hs, hshows, hmeta⟩
  · rw [hrun]
    exact hisolated.unchanged c hc
  · simp only [hrun]
    show JsonRpcResponse.ofAnswer _ _ _ (f (((env.forTenant ..).1.map render).mapError text)) = _
    rw [hisolated.unread events hsame]
    rfl

/-- **Agents are kept to the carts of their tenant.**  Whatever else fails, a request that asks
for carts shows no cart of another tenant, changes none, and its answer does not depend on any. -/
theorem mcp_carts_isolated (request : JsonRpcRequest) (headerVersion : Option String) (w : World)
    (hanswer : SnapshotsAnswer env) (hw : Reachable env runner w) (hasks : AsksForCarts request) :
    IsolatedRequest auth.tenantId
      (fun s => Sends (base.overCarts env runner render text) (request.params.getD .null)
        (render s))
      request.method w
      (handleMcpRequestWithVersion (base.overCarts env runner render text) parseCartId
        readPaymentIntent auth version request headerVersion) := by
  by_cases h : Admitted request headerVersion
  · obtain ⟨negotiated, he⟩ := handle_admitted (base.overCarts env runner render text) parseCartId
      readPaymentIntent auth version h
    rw [funext he]
    rcases answerMethod_carts parseCartId readPaymentIntent auth version negotiated request.method
        (request.params.getD .null) (base.overCarts env runner render text) hasks.1 hasks.2 with
      ⟨alone, hidle, halone⟩ | hcommand
    · simp only [halone]
      refine ⟨fun hcalls value hvalue => ?_, fun _ _ => rfl, fun _ _ => rfl⟩
      obtain ⟨shown, hshown, -⟩ := ofAnswer_result hvalue
      exact absurd hshown (hidle hcalls shown)
    · exact .of_command hanswer hw hcommand
  · obtain ⟨refusal, -, hone, herror, he⟩ := handle_refused (base.overCarts env runner render text)
      parseCartId readPaymentIntent auth version h
    rw [funext he]
    refine ⟨fun _ value hvalue => ?_, fun _ _ => rfl, fun _ _ => rfl⟩
    rcases hone with ⟨-, hnone⟩ | ⟨hnone, -⟩
    · simp only [Option.isNone_iff_eq_none.mp hnone] at herror
      cases herror
    · simp only [Option.isNone_iff_eq_none.mp hnone] at hvalue
      cases hvalue

end Isolation

namespace Sample

/-- A facade that knows no orders, payments or items. -/
def emptyFacade : McpFacade World where
  dispatchCartCommandForTenant := fun _ _ _ w => (.error "not implemented", w)
  executeCheckoutAuthorized := fun _ _ w => (.error "not implemented", w)
  getOrder := fun _ w => (.ok none, w)
  listOrders := fun _ w => (.ok (.array []), w)
  capturePayment := fun _ w => (.error "not implemented", w)
  voidPayment := fun _ w => (.error "not implemented", w)
  refundPayment := fun _ w => (.error "not implemented", w)
  lookupCatalogItem := fun _ w => (.ok .null, w)
  lookupCatalogItems := fun _ w => (.ok (.array []), w)
  searchCatalogItems := fun _ w => (.ok (.array []), w)
  toText := fun _ => ""

/-- The text of the sample cart's id, which is all zeroes. -/
def cartIdText : String := "00000000-0000-0000-0000-000000000000"

def parseCartIdText (text : String) : Except String CartId :=
  if text = cartIdText then .ok cart.cartId else .error "invalid character"

def noIntent (_ : Json) : Except String PaymentIntent := .error "missing field"

/-- A call of a tool on the sample cart. -/
def toolRequest (tool : String) : JsonRpcRequest where
  id := .string "1"
  method := "tools/call"
  params := some (.object
    [("name", .string tool), ("arguments", .object [("cart_id", .string cartIdText)])])

def renderCart (s : CartProjection) : Json := .object [("currency", .string s.currency)]

def refusalText (_ : FacadeError) : String := "refused"

end Sample

/-- An agent of another tenant asks for the sample cart. -/
theorem mcp_carts_isolated_sample :
    IsolatedRequest "u"
      (fun s => Sends
        (Sample.emptyFacade.overCarts .agreeable Sample.runner Sample.renderCart
          Sample.refusalText)
        ((Sample.toolRequest "get_cart").params.getD .null) (Sample.renderCart s))
      "tools/call" Sample.shopped
      (handleMcpRequestWithVersion
        (Sample.emptyFacade.overCarts .agreeable Sample.runner Sample.renderCart
          Sample.refusalText)
        Sample.parseCartIdText Sample.noIntent ⟨"agent", "u", []⟩ "0.1.0"
        (Sample.toolRequest "get_cart") none) :=
  mcp_carts_isolated Sample.emptyFacade .agreeable Sample.runner Sample.renderCart
    Sample.refusalText Sample.parseCartIdText Sample.noIntent ⟨"agent", "u", []⟩ "0.1.0"
    (Sample.toolRequest "get_cart") none Sample.shopped (fun _ _ => rfl) ⟨Sample.shopping, rfl⟩
    ⟨fun _ => by decide, fun h => absurd h (by decide)⟩

/-! ## Arguments and bodies -/

/-- The tools that REST has commands for. -/
def restTools : List String :=
  ["create_cart", "add_item", "update_item_qty", "remove_item", "apply_adjustment", "get_cart",
    "start_checkout"]

/-- The body that asks REST for what a tool is asked for. -/
def restBody (name : String) (args : List (String × Json)) : List (String × Json) :=
  ("kind", .string name) :: args

/-- A number without its high bits. -/
def lowBits (v : Json) : Json :=
  v.asU64.elim v fun n => .number (.posInt (UInt64.ofNat (n % 2 ^ 32)))

def withLowBits (args : List (String × Json)) : List (String × Json) :=
  args.map fun arg => (arg.1, if arg.1 = "quantity" then lowBits arg.2 else arg.2)

/-- No argument is given twice, and none is called `kind`. -/
def GivenOnce (args : List (String × Json)) : Prop := ("kind" :: args.map (·.1)).Nodup

instance (args : List (String × Json)) : Decidable (GivenOnce args) :=
  inferInstanceAs (Decidable (List.Nodup _))

section Bodies

variable {args : List (String × Json)} {key name : String} {v : Json}

theorem named_eq_nil (h : key ∉ args.map (·.1)) : named args key = [] := by
  refine List.map_eq_nil_iff.mpr (List.filter_eq_nil_iff.mpr fun arg harg => ?_)
  intro hkey
  exact h (List.mem_map.mpr ⟨arg, harg, of_decide_eq_true hkey⟩)

theorem named_length_le (h : (args.map (·.1)).Nodup) : (named args key).length ≤ 1 := by
  induction args with
  | nil => exact Nat.zero_le 1
  | cons arg args ih =>
      obtain ⟨hfresh, hrest⟩ := List.nodup_cons.mp h
      by_cases hkey : arg.1 = key
      · have hnil : named args key = [] := named_eq_nil (hkey ▸ hfresh)
        have hnamed : named (arg :: args) key = arg.2 :: named args key := by
          simp [named, hkey]
        rw [hnamed, hnil]
        rfl
      · have hnamed : named (arg :: args) key = named args key := by simp [named, hkey]
        rw [hnamed]
        exact ih hrest

theorem GivenOnce.length_le (h : GivenOnce args) : (named args key).length ≤ 1 :=
  named_length_le (List.nodup_cons.mp h).2

theorem GivenOnce.kind (h : GivenOnce args) : named args "kind" = [] :=
  named_eq_nil (List.nodup_cons.mp h).1

theorem asU64_lowBits : (lowBits v).asU64 = v.asU64.map (· % 2 ^ 32) := by
  unfold lowBits
  cases h : v.asU64 with
  | none => exact h
  | some n =>
      have hlt : n % 2 ^ 32 < 2 ^ 64 := (Nat.mod_lt n (by norm_num)).trans (by norm_num)
      show some (UInt64.ofNat (n % 2 ^ 32)).toNat = _
      rw [UInt64.toNat_ofNat_of_lt' hlt]
      rfl

theorem asU32_lowBits : (lowBits v).asU32 = v.asU64.map (· % 2 ^ 32) := by
  rw [asU32, asU64_lowBits]
  cases v.asU64 with
  | none => rfl
  | some n => simp [Option.filter, Nat.mod_lt]

/-- A number of 32 bits is left as it is. -/
theorem lowBits_of_lt {n : Nat} (hn : v.asU64 = some n) (hlt : n < 2 ^ 32) : lowBits v = v := by
  rw [lowBits, hn, Option.elim_some, Nat.mod_eq_of_lt hlt]
  cases v with
  | number m =>
      cases m with
      | posInt u =>
          cases hn
          rw [UInt64.ofNat_toNat]
      | _ => cases hn
  | _ => cases hn

theorem named_withLowBits :
    named (withLowBits args) key =
      (named args key).map fun v => if key = "quantity" then lowBits v else v := by
  induction args with
  | nil => rfl
  | cons arg args ih =>
      by_cases h : arg.1 = key
      · have hrest := congrArg (List.cons (if key = "quantity" then lowBits arg.2 else arg.2)) ih
        subst h
        simpa [named, withLowBits] using hrest
      · simpa [named, withLowBits, h] using ih

/-- An argument given once is a field. -/
theorem field_of_once (h : (named args key).length ≤ 1) :
    field args key = (object args).get key := by
  show _ = (named args key).getLast?
  unfold field
  match named args key, h with
  | [], _ => rfl
  | [v], _ => rfl

theorem field_withLowBits (h : GivenOnce args) :
    field (restBody name (withLowBits args)) key =
      if key = "kind" then some (.string name)
      else ((object args).get key).map fun v => if key = "quantity" then lowBits v else v := by
  have hbody : named (restBody name (withLowBits args)) key =
      if key = "kind" then .string name :: named (withLowBits args) key
      else named (withLowBits args) key := by
    by_cases hkey : key = "kind"
    · subst hkey
      simp [named, restBody]
    · simp [named, restBody, hkey, Ne.symm hkey]
  by_cases hkey : key = "kind"
  · subst hkey
    rw [field, hbody, if_pos rfl, named_withLowBits, h.kind]
    rfl
  · rw [field, hbody, if_neg hkey, if_neg hkey, named_withLowBits,
      ← field_of_once h.length_le, field]
    match named args key, h.length_le with
    | [], _ => rfl
    | [v], _ => rfl

section

variable (h : GivenOnce args)
include h

/-- An argument other than the quantity is the field of its name. -/
theorem field_argument {α : Type} {read : Json → Option α} (hkind : key ≠ "kind")
    (hquantity : key ≠ "quantity") :
    (field (restBody name (withLowBits args)) key).bind read =
      ((object args).get key).bind read := by
  rw [field_withLowBits h, if_neg hkind]
  simp [hquantity]

theorem field_quantity :
    (field (restBody name (withLowBits args)) "quantity").bind asU32 =
      (((object args).get "quantity").bind asU64).map (· % 2 ^ 32) := by
  rw [field_withLowBits h, if_neg (by decide)]
  cases (object args).get "quantity" with
  | none => rfl
  | some v => exact asU32_lowBits

/-- The body is of the kind that the tool is named after. -/
theorem deserialize_restBody :
    CartCommandDto.deserialize (restBody name (withLowBits args)) =
      CartCommandDto.ofKind (restBody name (withLowBits args)) name := by
  rw [CartCommandDto.deserialize, field_withLowBits h, if_pos rfl]
  rfl

end

variable {parseCartId : String → Except String CartId}
  {readPaymentIntent : Json → Except String PaymentIntent} {auth : AuthContext}
  {cmd : CartCommand} {cartId : Option CartId}

theorem restCommand_ok {members : List (String × Json)} :
    restCommand parseCartId members = .ok cmd ↔
      ∃ dto, CartCommandDto.deserialize members = some dto ∧
        CartCommand.ofDto parseCartId dto = .ok cmd := by
  unfold restCommand
  cases CartCommandDto.deserialize members with
  | none => simp
  | some dto => simp [mapError_eq_ok]

theorem quantity_eq_ok {n : Nat} :
    Tools.quantity (.object args) = .ok n ↔
      (((object args).get "quantity").bind asU64).map (· % 2 ^ 32) = some n := by
  unfold Tools.quantity Tools.getU64
  cases ((object args).get "quantity").bind asU64 <;> simp [Except.map]

theorem cartId_eq_ok {c : CartId} :
    Tools.cartId parseCartId (.object args) = .ok c ↔
      ∃ id, ((object args).get "cart_id").bind asStr = some id ∧ parseCartId id = .ok c := by
  unfold Tools.cartId
  simp only [bind_eq_ok, toolStr_eq_ok]

/-- A quantity of 32 bits loses nothing. -/
theorem withLowBits_of_lt
    (hfits : ∀ v ∈ named args "quantity", ∀ n, v.asU64 = some n → n < 2 ^ 32) :
    withLowBits args = args := by
  refine (List.map_congr_left fun arg harg => ?_).trans (List.map_id args)
  by_cases hkey : arg.1 = "quantity"
  · have hmem : arg.2 ∈ named args "quantity" :=
      List.mem_map.mpr ⟨arg, List.mem_filter.mpr ⟨harg, decide_eq_true hkey⟩, rfl⟩
    refine Prod.ext rfl ?_
    show (if arg.1 = "quantity" then lowBits arg.2 else arg.2) = arg.2
    rw [if_pos hkey]
    cases hn : arg.2.asU64 with
    | none => rw [lowBits, hn, Option.elim_none]
    | some n => exact lowBits_of_lt hn (hfits _ hmem n hn)
  · exact Prod.ext rfl (if_neg hkey)

/-- The cart beside the command: none for one that is created. -/
def Beside (parseCartId : String → Except String CartId) (name : String)
    (args : List (String × Json)) (cartId : Option CartId) : Prop :=
  if name = "create_cart" then cartId = none
  else ∃ c, Tools.cartId parseCartId (.object args) = .ok c ∧ cartId = some c

/-- What a tool reads, REST reads from the body with the quantity cut. -/
theorem read_iff_restCommand (h : GivenOnce args) (hname : name ∈ restTools) :
    Tools.read parseCartId readPaymentIntent auth name (.object args) = .ok (.cart cmd cartId) ↔
      (∃ cmd₀, restCommand parseCartId (restBody name (withLowBits args)) = .ok cmd₀ ∧
        cmd = cmd₀.withTenant auth.tenantId) ∧ Beside parseCartId name args cartId := by
  have hstr {name key : String} (hkind : key ≠ "kind") (hquantity : key ≠ "quantity") :
      (field (restBody name (withLowBits args)) key).bind asStr =
        ((object args).get key).bind asStr := field_argument h hkind hquantity
  have hversion : (field (restBody "start_checkout" (withLowBits args)) "cart_version").bind asU64 =
      ((object args).get "cart_version").bind asU64 := field_argument h (by decide) (by decide)
  simp only [restCommand_ok, deserialize_restBody h]
  simp only [restTools, List.mem_cons, List.not_mem_nil, or_false] at hname
  rcases hname with rfl | rfl | rfl | rfl | rfl | rfl | rfl
  all_goals simp only [Tools.read, bind_eq_ok, toolStr_eq_ok, quantity_eq_ok, cartId_eq_ok,
    CartCommandDto.ofKind, field_quantity h]
  · -- create_cart
    simp only [hstr (by decide : "merchant_id" ≠ "kind") (by decide),
      hstr (by decide : "currency" ≠ "kind") (by decide)]
    constructor
    · rintro ⟨merchantId, hmerchant, currency, hcurrency, hcall⟩
      cases hcall
      rw [hmerchant, hcurrency]
      exact ⟨⟨_, ⟨_, rfl, rfl⟩, rfl⟩, rfl⟩
    · rintro ⟨⟨_, ⟨dto, hdto, hcmd⟩, rfl⟩, hbeside⟩
      obtain ⟨merchantId, hmerchant, hdto⟩ := Option.bind_eq_some_iff.mp hdto
      obtain ⟨currency, hcurrency, hdto⟩ := Option.bind_eq_some_iff.mp hdto
      cases hdto
      cases hcmd
      obtain rfl : cartId = none := hbeside
      exact ⟨merchantId, hmerchant, currency, hcurrency, rfl⟩
  · -- add_item
    simp only [hstr (by decide : "item_id" ≠ "kind") (by decide)]
    constructor
    · rintro ⟨c, hc, itemId, hitem, quantity, hquantity, hcall⟩
      cases hcall
      rw [hitem, hquantity]
      exact ⟨⟨_, ⟨_, rfl, rfl⟩, rfl⟩, c, cartId_eq_ok.mpr hc, rfl⟩
    · rintro ⟨⟨_, ⟨dto, hdto, hcmd⟩, rfl⟩, c, hc, rfl⟩
      obtain ⟨itemId, hitem, hdto⟩ := Option.bind_eq_some_iff.mp hdto
      obtain ⟨quantity, hquantity, hdto⟩ := Option.bind_eq_some_iff.mp hdto
      cases hdto
      cases hcmd
      exact ⟨c, cartId_eq_ok.mp hc, itemId, hitem, quantity, hquantity, rfl⟩
  · -- update_item_qty
    simp only [hstr (by decide : "line_id" ≠ "kind") (by decide)]
    constructor
    · rintro ⟨c, hc, lineId, hline, quantity, hquantity, hcall⟩
      cases hcall
      rw [hline, hquantity]
      exact ⟨⟨_, ⟨_, rfl, rfl⟩, rfl⟩, c, cartId_eq_ok.mpr hc, rfl⟩
    · rintro ⟨⟨_, ⟨dto, hdto, hcmd⟩, rfl⟩, c, hc, rfl⟩
      obtain ⟨lineId, hline, hdto⟩ := Option.bind_eq_some_iff.mp hdto
      obtain ⟨quantity, hquantity, hdto⟩ := Option.bind_eq_some_iff.mp hdto
      cases hdto
      cases hcmd
      exact ⟨c, cartId_eq_ok.mp hc, lineId, hline, quantity, hquantity, rfl⟩
  · -- remove_item
    simp only [hstr (by decide : "line_id" ≠ "kind") (by decide)]
    constructor
    · rintro ⟨c, hc, lineId, hline, hcall⟩
      cases hcall
      rw [hline]
      exact ⟨⟨_, ⟨_, rfl, rfl⟩, rfl⟩, c, cartId_eq_ok.mpr hc, rfl⟩
    · rintro ⟨⟨_, ⟨dto, hdto, hcmd⟩, rfl⟩, c, hc, rfl⟩
      obtain ⟨lineId, hline, hdto⟩ := Option.bind_eq_some_iff.mp hdto
      cases hdto
      cases hcmd
      exact ⟨c, cartId_eq_ok.mp hc, lineId, hline, rfl⟩
  · -- apply_adjustment
    simp only [hstr (by decide : "code" ≠ "kind") (by decide)]
    constructor
    · rintro ⟨c, hc, code, hcode, hcall⟩
      cases hcall
      rw [hcode]
      exact ⟨⟨_, ⟨_, rfl, rfl⟩, rfl⟩, c, cartId_eq_ok.mpr hc, rfl⟩
    · rintro ⟨⟨_, ⟨dto, hdto, hcmd⟩, rfl⟩, c, hc, rfl⟩
      obtain ⟨code, hcode, hdto⟩ := Option.bind_eq_some_iff.mp hdto
      cases hdto
      cases hcmd
      exact ⟨c, cartId_eq_ok.mp hc, code, hcode, rfl⟩
  · -- get_cart
    simp only [hstr (by decide : "cart_id" ≠ "kind") (by decide)]
    constructor
    · rintro ⟨c, ⟨id, hid, hparse⟩, hcall⟩
      cases hcall
      rw [hid]
      refine ⟨⟨.getCart ⟨c⟩, ⟨_, rfl, ?_⟩, rfl⟩, c, cartId_eq_ok.mpr ⟨id, hid, hparse⟩, rfl⟩
      rw [CartCommand.ofDto, hparse]
      rfl
    · rintro ⟨⟨_, ⟨dto, hdto, hcmd⟩, rfl⟩, c, hc, rfl⟩
      obtain ⟨id, hid, hdto⟩ := Option.bind_eq_some_iff.mp hdto
      cases hdto
      obtain ⟨id', hid', hparse⟩ := cartId_eq_ok.mp hc
      cases hid.symm.trans hid'
      rw [CartCommand.ofDto, hparse] at hcmd
      cases hcmd
      exact ⟨c, ⟨id, hid, hparse⟩, rfl⟩
  · -- start_checkout
    simp only [hstr (by decide : "cart_id" ≠ "kind") (by decide), hversion]
    constructor
    · rintro ⟨c, ⟨id, hid, hparse⟩, version, hv, hcall⟩
      cases hcall
      rw [hid, elim_eq_ok.mp hv]
      refine ⟨⟨.startCheckout ⟨c, version⟩, ⟨_, rfl, ?_⟩, rfl⟩, c,
        cartId_eq_ok.mpr ⟨id, hid, hparse⟩, rfl⟩
      rw [CartCommand.ofDto, hparse]
      rfl
    · rintro ⟨⟨_, ⟨dto, hdto, hcmd⟩, rfl⟩, c, hc, rfl⟩
      obtain ⟨id, hid, hdto⟩ := Option.bind_eq_some_iff.mp hdto
      obtain ⟨version, hv, hdto⟩ := Option.bind_eq_some_iff.mp hdto
      cases hdto
      obtain ⟨id', hid', hparse⟩ := cartId_eq_ok.mp hc
      cases hid.symm.trans hid'
      rw [CartCommand.ofDto, hparse] at hcmd
      cases hcmd
      exact ⟨c, ⟨id, hid, hparse⟩, version, elim_eq_ok.mpr hv, rfl⟩

/-- **A tool reads its arguments as REST reads a body** with the same members, whose quantity is
cut to 32 bits: that changes nothing if it has no more.  The command is run for the tenant of the
caller, on the cart that the arguments name. -/
theorem mcp_reads_rest (parseCartId : String → Except String CartId)
    (readPaymentIntent : Json → Except String PaymentIntent) (auth : AuthContext) (name : String)
    (args : List (String × Json)) (cmd : CartCommand) (cartId : Option CartId)
    (h : GivenOnce args) (hname : name ∈ restTools) :
    (Tools.read parseCartId readPaymentIntent auth name (.object args) = .ok (.cart cmd cartId) ↔
      (∃ cmd₀, restCommand parseCartId (restBody name (withLowBits args)) = .ok cmd₀ ∧
        cmd = cmd₀.withTenant auth.tenantId) ∧ Beside parseCartId name args cartId) ∧
      ((∀ v ∈ named args "quantity", ∀ n, v.asU64 = some n → n < 2 ^ 32) →
        withLowBits args = args) :=
  ⟨read_iff_restCommand h hname, withLowBits_of_lt⟩

end Bodies

/-- Two more than 32 bits hold: a tool reads two. -/
def Sample.longArguments : List (String × Json) :=
  [("cart_id", .string Sample.cartIdText), ("item_id", .string "sku"),
    ("quantity", .number (.posInt 4294967298))]

theorem mcp_reads_rest_long :
    (∃ cmd₀, restCommand Sample.parseCartIdText
        (restBody "add_item" (withLowBits Sample.longArguments)) = .ok cmd₀ ∧
      .addItem ⟨"sku", 2⟩ = cmd₀.withTenant "t") ∧
      Beside Sample.parseCartIdText "add_item" Sample.longArguments (some Sample.cart.cartId) :=
  (mcp_reads_rest Sample.parseCartIdText Sample.noIntent ⟨"agent", "t", []⟩ "add_item"
    Sample.longArguments (.addItem ⟨"sku", 2⟩) (some Sample.cart.cartId) (by decide)
    (by decide)).1.mp rfl

end Orchestrator
