/-
# `CommerceOrchestrator.Api.FulfillmentSelections` — a selection as REST and as MCP read it

REST derives its reader from the types of the request: what is there must be of its type, a
name is given once, and the derived reader also knows an enumeration as an object and a record
as an array.  MCP takes the arguments apart by hand: optional members of another type count as
missing, and so do line ids that are no array.
-/
import CommerceOrchestrator.Api.CartCommands

namespace Orchestrator

open Effect Text Json

/-! ## REST -/

/-- `UcpFulfillmentMethodTypeDto`: the name of a variant, or an object of it and nothing. -/
def FulfillmentMethodType.deserialize : Json → Option FulfillmentMethodType
  | .string "shipping" | .object [("shipping", .null)] => some .shipping
  | .string "pickup" | .object [("pickup", .null)] => some .pickup
  | _ => none

structure UcpFulfillmentDestinationRequestDto where
  id : String
  name : Option String
  streetAddress : Option String
  extendedAddress : Option String
  addressLocality : Option String
  addressRegion : Option String
  addressCountry : Option String
  postalCode : Option String
  firstName : Option String
  lastName : Option String
  phoneNumber : Option String
deriving DecidableEq, Repr

namespace UcpFulfillmentDestinationRequestDto

/-- The fields after the id, as they are declared. -/
def texts : List String :=
  ["name", "street_address", "extended_address", "address_locality", "address_region",
    "address_country", "postal_code", "first_name", "last_name", "phone_number"]

/-- From what each field reads as. -/
def build (id : Option String) (text : String → Option (Option String)) :
    Option UcpFulfillmentDestinationRequestDto := do
  return { id := ← id
           name := ← text "name"
           streetAddress := ← text "street_address"
           extendedAddress := ← text "extended_address"
           addressLocality := ← text "address_locality"
           addressRegion := ← text "address_region"
           addressCountry := ← text "address_country"
           postalCode := ← text "postal_code"
           firstName := ← text "first_name"
           lastName := ← text "last_name"
           phoneNumber := ← text "phone_number" }

/-- The derived reader: of an object, or of an array of the fields in order, of which the last
can be missing. -/
def deserialize : Json → Option UcpFulfillmentDestinationRequestDto
  | .object members =>
      build ((field members "id").bind asStr) fun key => fieldOr members key nullOrStr none
  | .array (id :: items) => do
      guard (items.length ≤ texts.length)
      let given ← items.mapM nullOrStr
      build id.asStr fun key => some given[texts.idxOf key]?.join
  | _ => none

/-- `PostalAddress::from(&dto)`. -/
def toAddress (dto : UcpFulfillmentDestinationRequestDto) : PostalAddress where
  extendedAddress := dto.extendedAddress
  streetAddress := dto.streetAddress
  addressLocality := dto.addressLocality
  addressRegion := dto.addressRegion
  addressCountry := dto.addressCountry
  postalCode := dto.postalCode
  firstName := dto.firstName
  lastName := dto.lastName
  phoneNumber := dto.phoneNumber

end UcpFulfillmentDestinationRequestDto

structure UcpFulfillmentSelectionRequestDto where
  methodType : FulfillmentMethodType
  lineItemIds : List String
  destination : UcpFulfillmentDestinationRequestDto
  selectedOptionId : Option String
deriving DecidableEq, Repr

/-- `Vec<String>`. -/
def strings (v : Json) : Option (List String) := v.asArray.bind fun items => items.mapM asStr

def UcpFulfillmentSelectionRequestDto.deserialize (members : List (String × Json)) :
    Option UcpFulfillmentSelectionRequestDto := do
  return { methodType := ← (field members "method_type").bind FulfillmentMethodType.deserialize
           lineItemIds := ← fieldOr members "line_item_ids" strings []
           destination := ←
            (field members "destination").bind UcpFulfillmentDestinationRequestDto.deserialize
           selectedOptionId := ← fieldOr members "selected_option_id" nullOrStr none }

/-- The destination that the method type makes of the fields: a pickup needs its name. -/
def fulfillmentDestination (methodType : FulfillmentMethodType) (id : String)
    (name : Option String) (address : PostalAddress) : Except String FulfillmentDestination :=
  match methodType with
  | .pickup =>
      match name with
      | some name => .ok (.retail id name (some address))
      | none => .error "destination.name is required for pickup"
  | .shipping => .ok (.shipping id address)

/-- `SetFulfillmentSelectionPayload::try_from(dto)`. -/
def SetFulfillmentSelectionPayload.ofDto (dto : UcpFulfillmentSelectionRequestDto) :
    Except String SetFulfillmentSelectionPayload := do
  let destination ← fulfillmentDestination dto.methodType dto.destination.id dto.destination.name
    dto.destination.toAddress
  return ⟨dto.methodType, dto.lineItemIds, destination, dto.selectedOptionId⟩

def restSelection (members : List (String × Json)) :
    Except RestRefusal SetFulfillmentSelectionPayload :=
  match UcpFulfillmentSelectionRequestDto.deserialize members with
  | none => .error .body
  | some dto => (SetFulfillmentSelectionPayload.ofDto dto).mapError .badRequest

/-! ## MCP -/

namespace Tools

def getStr (params : Json) (key : String) : Except String String :=
  ((params.get key).bind asStr).elim (.error ("missing required field: " ++ key)) .ok

def optionalStr (params : Json) (key : String) : Option String := (params.get key).bind asStr

def postalAddress (destination : Json) : PostalAddress where
  streetAddress := optionalStr destination "street_address"
  extendedAddress := optionalStr destination "extended_address"
  addressLocality := optionalStr destination "address_locality"
  addressRegion := optionalStr destination "address_region"
  addressCountry := optionalStr destination "address_country"
  postalCode := optionalStr destination "postal_code"
  firstName := optionalStr destination "first_name"
  lastName := optionalStr destination "last_name"
  phoneNumber := optionalStr destination "phone_number"

def methodType (args : Json) : Except String FulfillmentMethodType := do
  match ← getStr args "method_type" with
  | "shipping" => return .shipping
  | "pickup" => return .pickup
  | other => throw ("unsupported method_type: " ++ other)

def lineItemIds (args : Json) : Except String (List String) :=
  match (args.get "line_item_ids").bind asArray with
  | none => .ok []
  | some values =>
      values.mapM fun v => v.asStr.elim (.error "line_item_ids must contain only strings") .ok

def fulfillmentSelectionPayload (args : Json) : Except String SetFulfillmentSelectionPayload := do
  let methodType ← methodType args
  let destination ←
    (args.get "destination").elim (.error "missing required field: destination") .ok
  let id ← getStr destination "id"
  let place ← fulfillmentDestination methodType id (optionalStr destination "name")
    (postalAddress destination)
  let lineItemIds ← lineItemIds args
  return ⟨methodType, lineItemIds, place, optionalStr args "selected_option_id"⟩

end Tools

/-! ## What MCP asks for -/

section Conditions

variable (members : List (String × Json))

/-- What MCP cannot do without is there, and there are no ids but texts. -/
structure McpComplete : Prop where
  methodType : ((object members).get "method_type").bind asStr = some "shipping" ∨
    ((object members).get "method_type").bind asStr = some "pickup"
  destination : ∃ d, (object members).get "destination" = some d ∧
    (∃ id, (d.get "id").bind asStr = some id) ∧
    (((object members).get "method_type").bind asStr = some "pickup" →
      ∃ name, (d.get "name").bind asStr = some name)
  lines : ∀ items, (object members).get "line_item_ids" = some (.array items) →
    ∀ v ∈ items, ∃ id, v = .string id

/-- `null` or a text. -/
def TextOrNull (v : Json) : Prop := v = .null ∨ ∃ s, v = .string s

/-- Nothing is given twice, and what MCP can do without is of its type if it is given. -/
structure NothingMistyped : Prop where
  once : ∀ key ∈ ["method_type", "line_item_ids", "destination", "selected_option_id"],
    (named members key).length ≤ 1
  lines : ∀ v ∈ named members "line_item_ids", ∃ items, v = .array items
  option : ∀ v ∈ named members "selected_option_id", TextOrNull v
  destination : ∀ dest, .object dest ∈ named members "destination" →
    (named dest "id").length ≤ 1 ∧
    ∀ key ∈ UcpFulfillmentDestinationRequestDto.texts,
      (named dest key).length ≤ 1 ∧ ∀ v ∈ named dest key, TextOrNull v

/-- A method type of this name, in either form. -/
def NamesMethod (name : String) (v : Json) : Prop :=
  v = .string name ∨ v = .object [(name, .null)]

/-- A destination as the derived reader wants it, in either form. -/
inductive TypedDestination : Json → Prop
  | object {dest : List (String × Json)} (id : ∃ id, named dest "id" = [.string id])
      (texts : ∀ key ∈ UcpFulfillmentDestinationRequestDto.texts,
        (named dest key).length ≤ 1 ∧ ∀ v ∈ named dest key, TextOrNull v) :
      TypedDestination (.object dest)
  | array {id : String} {items : List Json}
      (short : items.length ≤ UcpFulfillmentDestinationRequestDto.texts.length)
      (texts : ∀ v ∈ items, TextOrNull v) : TypedDestination (.array (.string id :: items))

/-- A destination with a name, in either form. -/
inductive NamedDestination : Json → Prop
  | object {dest : List (String × Json)} {name : String}
      (hname : named dest "name" = [.string name]) :
      NamedDestination (.object dest)
  | array {id : Json} {name : String} {items : List Json} :
      NamedDestination (.array (id :: .string name :: items))

/-- The arguments are as the types of the request want them. -/
structure DtoTyped : Prop where
  methodType : ∃ v, named members "method_type" = [v] ∧
    (NamesMethod "shipping" v ∨ NamesMethod "pickup" v)
  destination : ∃ d, named members "destination" = [d] ∧ TypedDestination d ∧
    ((∃ v ∈ named members "method_type", NamesMethod "pickup" v) → NamedDestination d)
  lines : named members "line_item_ids" = [] ∨
    ∃ ids : List String, named members "line_item_ids" = [.array (ids.map .string)]
  option : (named members "selected_option_id").length ≤ 1 ∧
    ∀ v ∈ named members "selected_option_id", TextOrNull v

/-- The forms that MCP knows too: the method type is a text and the destination an object. -/
structure PlainForms : Prop where
  methodType : ∀ v ∈ named members "method_type", ∃ s, v = .string s
  destination : ∀ v ∈ named members "destination", ∃ dest, v = .object dest

end Conditions

section Readers

variable {v : Json} {members : List (String × Json)}

theorem asStr_eq_some {s : String} : v.asStr = some s ↔ v = .string s := by
  cases v <;> simp [asStr]

theorem nullOrStr_isSome : (nullOrStr v).isSome ↔ TextOrNull v := by
  cases v <;> simp [nullOrStr, TextOrNull]

theorem mapM_isSome {α β : Type} {f : α → Option β} {l : List α} :
    (l.mapM f).isSome ↔ ∀ a ∈ l, (f a).isSome := by
  induction l with
  | nil => simp
  | cons a l ih =>
      rw [List.forall_mem_cons, ← ih, List.mapM_cons]
      cases f a <;> cases l.mapM f <;> simp

theorem mapM_asStr_eq_some {items : List Json} {ids : List String} :
    items.mapM asStr = some ids ↔ items = ids.map .string := by
  induction items generalizing ids with
  | nil => cases ids <;> simp
  | cons v items ih =>
      rw [List.mapM_cons]
      cases ids with
      | nil =>
          cases v.asStr <;> cases items.mapM asStr <;> simp
      | cons id ids =>
          rw [List.map_cons, List.cons.injEq, ← asStr_eq_some, ← ih]
          cases v.asStr <;> cases items.mapM asStr <;> simp

theorem deserialize_methodType {m : FulfillmentMethodType} :
    FulfillmentMethodType.deserialize v = some m ↔
      m = .shipping ∧ NamesMethod "shipping" v ∨ m = .pickup ∧ NamesMethod "pickup" v := by
  unfold FulfillmentMethodType.deserialize NamesMethod
  split <;> cases m <;> simp_all

theorem isSome_bind_of {α β : Type} {o : Option α} {f : α → Option β} {P : Prop}
    (h : ∀ a, (f a).isSome ↔ P) : (o >>= f).isSome ↔ o.isSome ∧ P := by
  cases o with
  | none => simp
  | some a => simp [h]

theorem build_isSome {id : Option String} {text : String → Option (Option String)} :
    (UcpFulfillmentDestinationRequestDto.build id text).isSome ↔
      id.isSome ∧ ∀ key ∈ UcpFulfillmentDestinationRequestDto.texts, (text key).isSome := by
  simp only [UcpFulfillmentDestinationRequestDto.texts, List.forall_mem_cons]
  -- One bind after the other: the record is built when every part is there.
  repeat refine isSome_bind_of fun _ => ?_
  simp

theorem build_eq_some {id : Option String} {text : String → Option (Option String)}
    {dto : UcpFulfillmentDestinationRequestDto} :
    UcpFulfillmentDestinationRequestDto.build id text = some dto ↔
      id = some dto.id ∧ text "name" = some dto.name ∧
      text "street_address" = some dto.streetAddress ∧
      text "extended_address" = some dto.extendedAddress ∧
      text "address_locality" = some dto.addressLocality ∧
      text "address_region" = some dto.addressRegion ∧
      text "address_country" = some dto.addressCountry ∧
      text "postal_code" = some dto.postalCode ∧ text "first_name" = some dto.firstName ∧
      text "last_name" = some dto.lastName ∧ text "phone_number" = some dto.phoneNumber := by
  constructor
  · intro h
    obtain ⟨_, hid, h⟩ := Option.bind_eq_some_iff.mp h
    obtain ⟨_, hname, h⟩ := Option.bind_eq_some_iff.mp h
    obtain ⟨_, hstreet, h⟩ := Option.bind_eq_some_iff.mp h
    obtain ⟨_, hextended, h⟩ := Option.bind_eq_some_iff.mp h
    obtain ⟨_, hlocality, h⟩ := Option.bind_eq_some_iff.mp h
    obtain ⟨_, hregion, h⟩ := Option.bind_eq_some_iff.mp h
    obtain ⟨_, hcountry, h⟩ := Option.bind_eq_some_iff.mp h
    obtain ⟨_, hpostal, h⟩ := Option.bind_eq_some_iff.mp h
    obtain ⟨_, hfirst, h⟩ := Option.bind_eq_some_iff.mp h
    obtain ⟨_, hlast, h⟩ := Option.bind_eq_some_iff.mp h
    obtain ⟨_, hphone, h⟩ := Option.bind_eq_some_iff.mp h
    cases h
    exact ⟨hid, hname, hstreet, hextended, hlocality, hregion, hcountry, hpostal, hfirst, hlast,
      hphone⟩
  · rintro ⟨hid, hname, hstreet, hextended, hlocality, hregion, hcountry, hpostal, hfirst, hlast,
      hphone⟩
    simp only [UcpFulfillmentDestinationRequestDto.build, hid, hname, hstreet, hextended,
      hlocality, hregion, hcountry, hpostal, hfirst, hlast, hphone]
    rfl

theorem deserialize_array {id : Json} {items : List Json} :
    (UcpFulfillmentDestinationRequestDto.deserialize (.array (id :: items))).isSome ↔
      id.asStr.isSome ∧ items.length ≤ UcpFulfillmentDestinationRequestDto.texts.length ∧
        ∀ v ∈ items, (nullOrStr v).isSome := by
  rw [UcpFulfillmentDestinationRequestDto.deserialize, ← mapM_isSome]
  by_cases hshort : items.length ≤ UcpFulfillmentDestinationRequestDto.texts.length
  · cases hgiven : items.mapM nullOrStr with
    | none => simp [hshort]
    | some given => simp [hshort, guard, build_isSome]
  · simp [hshort, guard]

theorem deserialize_destination_isSome :
    (UcpFulfillmentDestinationRequestDto.deserialize v).isSome ↔ TypedDestination v := by
  match v with
  | .object dest =>
      have hid : ((field dest "id").bind asStr).isSome ↔ ∃ id, named dest "id" = [.string id] := by
        simp [Option.isSome_iff_exists, Option.bind_eq_some_iff, field_eq_some, asStr_eq_some]
      rw [UcpFulfillmentDestinationRequestDto.deserialize, build_isSome, hid]
      simp only [fieldOr_isSome, nullOrStr_isSome]
      constructor
      · rintro ⟨hid, htexts⟩
        exact .object hid htexts
      · rintro (⟨hid, htexts⟩ | _)
        exact ⟨hid, htexts⟩
  | .array (id :: items) =>
      have hid : id.asStr.isSome ↔ ∃ s, id = .string s := by
        simp [Option.isSome_iff_exists, asStr_eq_some]
      rw [deserialize_array, hid]
      simp only [nullOrStr_isSome]
      constructor
      · rintro ⟨⟨s, rfl⟩, hshort, htexts⟩
        exact .array hshort htexts
      · rintro (_ | ⟨hshort, htexts⟩)
        exact ⟨⟨_, rfl⟩, hshort, htexts⟩
  | .array [] | .null | .bool _ | .number _ | .string _ =>
      exact ⟨fun h => (by cases h), fun h => (by cases h)⟩

/-- The name of a destination that is read. -/
theorem deserialize_name_isSome {dto : UcpFulfillmentDestinationRequestDto}
    (h : UcpFulfillmentDestinationRequestDto.deserialize v = some dto) :
    dto.name.isSome ↔ NamedDestination v := by
  match v with
  | .object dest =>
      rw [UcpFulfillmentDestinationRequestDto.deserialize] at h
      have hname := (build_eq_some.mp h).2.1
      constructor
      · intro hsome
        obtain ⟨name, hname'⟩ := Option.isSome_iff_exists.mp hsome
        rw [hname'] at hname
        unfold fieldOr at hname
        split at hname
        · cases hname
        · next u hu =>
            cases u with
            | string s => exact .object hu
            | _ => cases hname
        · cases hname
      · rintro (hnamed | _)
        rw [fieldOr, hnamed] at hname
        rw [← Option.some.inj hname]
        rfl
  | .array (id :: items) =>
      rw [UcpFulfillmentDestinationRequestDto.deserialize] at h
      obtain ⟨-, -, h⟩ := Option.bind_eq_some_iff.mp h
      obtain ⟨given, hgiven, h⟩ := Option.bind_eq_some_iff.mp h
      have hname := Option.some.inj (build_eq_some.mp h).2.1
      rw [← hname]
      cases items with
      | nil =>
          cases hgiven
          exact ⟨fun h => (by cases h), fun h => (by cases h)⟩
      | cons u items =>
          rw [List.mapM_cons] at hgiven
          obtain ⟨t, ht, hgiven⟩ := Option.bind_eq_some_iff.mp hgiven
          obtain ⟨ts, -, hgiven⟩ := Option.bind_eq_some_iff.mp hgiven
          cases hgiven
          show t.isSome ↔ _
          cases u with
          | string s =>
              cases ht
              exact ⟨fun _ => .array, fun _ => rfl⟩
          | null =>
              cases ht
              exact ⟨fun h => (by cases h), fun h => (by cases h)⟩
          | _ => cases ht
  | .array [] | .null | .bool _ | .number _ | .string _ => cases h

/-- The fields of a request that is read. -/
theorem deserialize_selection {dto : UcpFulfillmentSelectionRequestDto} :
    UcpFulfillmentSelectionRequestDto.deserialize members = some dto ↔
      (field members "method_type").bind FulfillmentMethodType.deserialize = some dto.methodType ∧
      fieldOr members "line_item_ids" strings [] = some dto.lineItemIds ∧
      (field members "destination").bind UcpFulfillmentDestinationRequestDto.deserialize =
        some dto.destination ∧
      fieldOr members "selected_option_id" nullOrStr none = some dto.selectedOptionId := by
  obtain ⟨⟩ := dto
  simp [UcpFulfillmentSelectionRequestDto.deserialize, Option.bind_eq_some_iff]

/-- Only a pickup without a name has no destination. -/
theorem fulfillmentDestination_ok_iff {m : FulfillmentMethodType} {id : String}
    {name : Option String} {address : PostalAddress} :
    (∃ place, fulfillmentDestination m id name address = .ok place) ↔
      (m = .pickup → name.isSome) := by
  unfold fulfillmentDestination
  cases m with
  | shipping => exact ⟨fun _ h => (by cases h), fun _ => ⟨_, rfl⟩⟩
  | pickup =>
      cases name with
      | none => exact ⟨fun ⟨p, h⟩ => (by cases h), fun h => (by cases h rfl)⟩
      | some name => exact ⟨fun _ _ => rfl, fun _ => ⟨_, rfl⟩⟩

theorem ofDto_eq_ok {dto : UcpFulfillmentSelectionRequestDto} {p : SetFulfillmentSelectionPayload} :
    SetFulfillmentSelectionPayload.ofDto dto = .ok p ↔
      ∃ place, fulfillmentDestination dto.methodType dto.destination.id dto.destination.name
          dto.destination.toAddress = .ok place ∧
        p = ⟨dto.methodType, dto.lineItemIds, place, dto.selectedOptionId⟩ := by
  rw [SetFulfillmentSelectionPayload.ofDto, bind_eq_ok]
  exact exists_congr fun place => and_congr_right fun _ =>
    ⟨fun h => (Except.ok.inj h).symm, fun h => congrArg Except.ok h.symm⟩

theorem ofDto_ok_iff_named {dto : UcpFulfillmentSelectionRequestDto} :
    (∃ p, SetFulfillmentSelectionPayload.ofDto dto = .ok p) ↔
      (dto.methodType = .pickup → dto.destination.name.isSome) := by
  simp only [ofDto_eq_ok]
  have hplaced : (∃ place, fulfillmentDestination dto.methodType dto.destination.id
      dto.destination.name dto.destination.toAddress = .ok place) ↔
      (dto.methodType = .pickup → dto.destination.name.isSome) := fulfillmentDestination_ok_iff
  rw [← hplaced]
  exact ⟨fun ⟨_, place, hplace, _⟩ => ⟨place, hplace⟩,
    fun ⟨place, hplace⟩ => ⟨_, place, hplace, rfl⟩⟩

theorem restSelection_eq_ok {p : SetFulfillmentSelectionPayload} :
    restSelection members = .ok p ↔
      ∃ dto, UcpFulfillmentSelectionRequestDto.deserialize members = some dto ∧
        SetFulfillmentSelectionPayload.ofDto dto = .ok p := by
  unfold restSelection
  cases UcpFulfillmentSelectionRequestDto.deserialize members with
  | none => exact ⟨fun h => (by cases h), fun ⟨dto, h, _⟩ => (by cases h)⟩
  | some dto => simp [mapError_eq_ok]

theorem strings_isSome :
    (strings v).isSome ↔ ∃ ids : List String, v = .array (ids.map .string) := by
  simp only [strings, Option.isSome_iff_exists, Option.bind_eq_some_iff, mapM_asStr_eq_some]
  constructor
  · rintro ⟨ids, items, hitems, rfl⟩
    cases v with
    | array items =>
        cases hitems
        exact ⟨ids, rfl⟩
    | _ => cases hitems
  · rintro ⟨ids, rfl⟩
    exact ⟨ids, _, rfl, rfl⟩

theorem fieldOr_strings_isSome :
    (fieldOr members "line_item_ids" strings []).isSome ↔
      named members "line_item_ids" = [] ∨
        ∃ ids : List String, named members "line_item_ids" = [.array (ids.map .string)] := by
  rw [fieldOr_isSome]
  match named members "line_item_ids" with
  | [] => simp
  | [v] => simp [strings_isSome]
  | _ :: _ :: _ => simp

theorem fieldOr_text_isSome {key : String} :
    (fieldOr members key nullOrStr none).isSome ↔
      (named members key).length ≤ 1 ∧ ∀ v ∈ named members key, TextOrNull v := by
  simp only [fieldOr_isSome, nullOrStr_isSome]

/-- A method that is read is the one that is named, in either form. -/
theorem field_methodType {m : FulfillmentMethodType} :
    (field members "method_type").bind FulfillmentMethodType.deserialize = some m ↔
      ∃ v, named members "method_type" = [v] ∧
        (m = .shipping ∧ NamesMethod "shipping" v ∨ m = .pickup ∧ NamesMethod "pickup" v) := by
  simp only [Option.bind_eq_some_iff, field_eq_some, deserialize_methodType]

/-- **REST accepts** what is as its types want it. -/
theorem rest_selects_iff : (∃ p, restSelection members = .ok p) ↔ DtoTyped members := by
  have haccept : (∃ p, restSelection members = .ok p) ↔
      ∃ dto, UcpFulfillmentSelectionRequestDto.deserialize members = some dto ∧
        (dto.methodType = .pickup → dto.destination.name.isSome) := by
    simp only [restSelection_eq_ok, ← ofDto_ok_iff_named]
    exact ⟨fun ⟨p, dto, hdto, hp⟩ => ⟨dto, hdto, p, hp⟩,
      fun ⟨dto, hdto, p, hp⟩ => ⟨p, dto, hdto, hp⟩⟩
  rw [haccept]
  constructor
  · rintro ⟨dto, hdto, hname⟩
    obtain ⟨hmethod, hlines, hdest, hoption⟩ := deserialize_selection.mp hdto
    obtain ⟨v, hv, hnames⟩ := field_methodType.mp hmethod
    obtain ⟨d, hd, hread⟩ := Option.bind_eq_some_iff.mp hdest
    refine ⟨⟨v, hv, ?_⟩, ⟨d, field_eq_some.mp hd, ?_, ?_⟩, ?_, ?_⟩
    · exact hnames.imp And.right And.right
    · exact deserialize_destination_isSome.mp (Option.isSome_iff_exists.mpr ⟨_, hread⟩)
    · rintro ⟨u, hu, hpickup⟩
      rw [hv, List.mem_singleton] at hu
      subst hu
      have hp : dto.methodType = .pickup := by
        have hm := deserialize_methodType.mpr (Or.inr ⟨rfl, hpickup⟩)
        rw [field_eq_some.mpr hv, Option.bind_some, hm] at hmethod
        exact (Option.some.inj hmethod).symm
      exact (deserialize_name_isSome hread).mp (hname hp)
    · exact fieldOr_strings_isSome.mp (Option.isSome_iff_exists.mpr ⟨_, hlines⟩)
    · exact fieldOr_text_isSome.mp (Option.isSome_iff_exists.mpr ⟨_, hoption⟩)
  · rintro ⟨⟨v, hv, hnames⟩, ⟨d, hd, htyped, hnamed⟩, hlines, hoption⟩
    obtain ⟨m, hm⟩ : ∃ m, FulfillmentMethodType.deserialize v = some m := by
      rcases hnames with h | h
      · exact ⟨_, deserialize_methodType.mpr (Or.inl ⟨rfl, h⟩)⟩
      · exact ⟨_, deserialize_methodType.mpr (Or.inr ⟨rfl, h⟩)⟩
    obtain ⟨dest, hdest⟩ := Option.isSome_iff_exists.mp (deserialize_destination_isSome.mpr htyped)
    obtain ⟨lines, hlines⟩ := Option.isSome_iff_exists.mp (fieldOr_strings_isSome.mpr hlines)
    obtain ⟨option, hoption⟩ := Option.isSome_iff_exists.mp (fieldOr_text_isSome.mpr hoption)
    refine ⟨⟨m, lines, dest, option⟩, deserialize_selection.mpr ⟨?_, hlines, ?_, hoption⟩, ?_⟩
    · rw [field_eq_some.mpr hv, Option.bind_some, hm]
    · rw [field_eq_some.mpr hd, Option.bind_some, hdest]
    · rintro rfl
      have hpickup : NamesMethod "pickup" v := by
        rcases deserialize_methodType.mp hm with ⟨h, -⟩ | ⟨-, h⟩
        · cases h
        · exact h
      have hplace := hnamed ⟨v, hv ▸ List.mem_singleton_self v, hpickup⟩
      exact (deserialize_name_isSome hdest).mpr hplace

/-! ## What MCP makes of it -/

theorem toolStr_eq_ok {key s : String} :
    Tools.getStr v key = .ok s ↔ (v.get key).bind asStr = some s := elim_eq_ok

theorem toolMethod_eq_ok {m : FulfillmentMethodType} :
    Tools.methodType v = .ok m ↔
      m = .shipping ∧ (v.get "method_type").bind asStr = some "shipping" ∨
      m = .pickup ∧ (v.get "method_type").bind asStr = some "pickup" := by
  rw [Tools.methodType, bind_eq_ok]
  simp only [toolStr_eq_ok]
  constructor
  · rintro ⟨s, hs, hm⟩
    split at hm
    · cases hm
      exact Or.inl ⟨rfl, hs⟩
    · cases hm
      exact Or.inr ⟨rfl, hs⟩
    · cases hm
  · rintro (⟨rfl, hs⟩ | ⟨rfl, hs⟩)
    · exact ⟨_, hs, rfl⟩
    · exact ⟨_, hs, rfl⟩

theorem mapM_elim_eq_ok {e : String} {items : List Json} {ids : List String} :
    (items.mapM fun v => v.asStr.elim (.error e) Except.ok) = .ok ids ↔
      items.mapM asStr = some ids := by
  induction items generalizing ids with
  | nil => cases ids <;> simp [pure, Except.pure]
  | cons v items ih =>
      rw [List.mapM_cons, List.mapM_cons, bind_eq_ok, Option.bind_eq_bind, Option.bind_eq_some_iff]
      refine exists_congr fun id => and_congr elim_eq_ok ?_
      rw [bind_eq_ok, Option.bind_eq_bind, Option.bind_eq_some_iff]
      refine exists_congr fun rest => and_congr ih ?_
      exact ⟨fun h => congrArg some (Except.ok.inj h),
        fun h => congrArg Except.ok (Option.some.inj h)⟩

theorem toolLines_ok_iff :
    (∃ ids, Tools.lineItemIds v = .ok ids) ↔
      ∀ items, v.get "line_item_ids" = some (.array items) → ∀ u ∈ items, ∃ id, u = .string id := by
  unfold Tools.lineItemIds
  cases hv : v.get "line_item_ids" with
  | none => simp
  | some u =>
      cases u with
      | array items =>
          simp only [Option.bind_some, asArray, mapM_elim_eq_ok, ← Option.isSome_iff_exists,
            mapM_isSome]
          simp [Option.isSome_iff_exists, asStr_eq_some]
      | _ => simp [asArray]

theorem toolSelection_eq_ok {p : SetFulfillmentSelectionPayload} :
    Tools.fulfillmentSelectionPayload v = .ok p ↔
      ∃ m, Tools.methodType v = .ok m ∧ ∃ d, v.get "destination" = some d ∧
        ∃ id, (d.get "id").bind asStr = some id ∧
        ∃ place, fulfillmentDestination m id (Tools.optionalStr d "name") (Tools.postalAddress d) =
            .ok place ∧
        ∃ ids, Tools.lineItemIds v = .ok ids ∧
          p = ⟨m, ids, place, Tools.optionalStr v "selected_option_id"⟩ := by
  unfold Tools.fulfillmentSelectionPayload
  simp only [bind_eq_ok, elim_eq_ok, toolStr_eq_ok]
  simp only [pure, Except.pure, Except.ok.injEq, eq_comm]

/-- **MCP accepts** as soon as what it asks for is there. -/
theorem mcp_selects_iff :
    (∃ p, Tools.fulfillmentSelectionPayload (.object members) = .ok p) ↔ McpComplete members := by
  simp only [toolSelection_eq_ok]
  constructor
  · rintro ⟨p, m, hm, d, hd, id, hid, place, hplace, ids, hids, -⟩
    refine ⟨?_, ⟨d, hd, ⟨id, hid⟩, fun hpickup => ?_⟩, toolLines_ok_iff.mp ⟨ids, hids⟩⟩
    · exact (toolMethod_eq_ok.mp hm).imp And.right And.right
    · have hp : m = .pickup := by
        rcases toolMethod_eq_ok.mp hm with ⟨-, hs⟩ | ⟨hm, -⟩
        · rw [hpickup] at hs
          simp at hs
        · exact hm
      exact Option.isSome_iff_exists.mp (fulfillmentDestination_ok_iff.mp ⟨place, hplace⟩ hp)
  · rintro ⟨hmethod, ⟨d, hd, ⟨id, hid⟩, hname⟩, hlines⟩
    obtain ⟨ids, hids⟩ := toolLines_ok_iff.mpr hlines
    obtain ⟨m, hm, hpickup⟩ : ∃ m, Tools.methodType (.object members) = .ok m ∧
        (m = .pickup → (Tools.optionalStr d "name").isSome) := by
      rcases hmethod with hs | hs
      · exact ⟨.shipping, toolMethod_eq_ok.mpr (Or.inl ⟨rfl, hs⟩), fun h => (by cases h)⟩
      · exact ⟨.pickup, toolMethod_eq_ok.mpr (Or.inr ⟨rfl, hs⟩),
          fun _ => Option.isSome_iff_exists.mpr (hname hs)⟩
    obtain ⟨place, hplace⟩ := fulfillmentDestination_ok_iff.mpr hpickup
    exact ⟨_, m, hm, d, hd, id, hid, place, hplace, ids, hids, rfl⟩

/-- The address of a destination that both can read. -/
theorem postalAddress_eq {dest : List (String × Json)} {dto : UcpFulfillmentDestinationRequestDto}
    (h : UcpFulfillmentDestinationRequestDto.deserialize (.object dest) = some dto) :
    ((object dest).get "id").bind asStr = some dto.id ∧
      ((object dest).get "name").bind asStr = dto.name ∧
      Tools.postalAddress (.object dest) = dto.toAddress := by
  rw [UcpFulfillmentDestinationRequestDto.deserialize] at h
  obtain ⟨hid, hname, hstreet, hextended, hlocality, hregion, hcountry, hpostal, hfirst, hlast,
    hphone⟩ := build_eq_some.mp h
  refine ⟨get_bind_of_field hid, get_bind_of_fieldOr hname, ?_⟩
  simp only [Tools.postalAddress, Tools.optionalStr, UcpFulfillmentDestinationRequestDto.toAddress,
    get_bind_of_fieldOr hstreet, get_bind_of_fieldOr hextended, get_bind_of_fieldOr hlocality,
    get_bind_of_fieldOr hregion, get_bind_of_fieldOr hcountry, get_bind_of_fieldOr hpostal,
    get_bind_of_fieldOr hfirst, get_bind_of_fieldOr hlast, get_bind_of_fieldOr hphone]

theorem toolLines_eq {ids : List String}
    (h : fieldOr members "line_item_ids" strings [] = some ids) :
    Tools.lineItemIds (.object members) = .ok ids := by
  unfold Tools.lineItemIds
  rcases fieldOr_eq_some h with ⟨hnone, rfl⟩ | ⟨v, hv, hread⟩
  · rw [hnone]
    rfl
  · obtain ⟨items, hitems, hids⟩ := Option.bind_eq_some_iff.mp hread
    rw [hv, Option.bind_some, hitems]
    exact mapM_elim_eq_ok.mpr hids

/-- **What REST reads in these forms, MCP reads.** -/
theorem mcp_selects_same {p : SetFulfillmentSelectionPayload}
    (h : restSelection members = .ok p) (hplain : PlainForms members) :
    Tools.fulfillmentSelectionPayload (.object members) = .ok p := by
  obtain ⟨dto, hdto, hp⟩ := restSelection_eq_ok.mp h
  obtain ⟨hmethod, hlines, hdest, hoption⟩ := deserialize_selection.mp hdto
  obtain ⟨v, hv, hnames⟩ := field_methodType.mp hmethod
  obtain ⟨d, hd, hread⟩ := Option.bind_eq_some_iff.mp hdest
  obtain ⟨dest, rfl⟩ := hplain.destination d (field_eq_some.mp hd ▸ List.mem_singleton_self d)
  obtain ⟨hid, hname, haddress⟩ := postalAddress_eq hread
  have hmethod' : Tools.methodType (.object members) = .ok dto.methodType := by
    obtain ⟨s, rfl⟩ := hplain.methodType v (hv ▸ List.mem_singleton_self v)
    have hget : ((object members).get "method_type").bind asStr = some s := by
      rw [get_of_field (field_eq_some.mpr hv)]
      rfl
    rw [toolMethod_eq_ok, hget]
    refine hnames.imp ?_ ?_
    · rintro ⟨hm, hs⟩
      simpa [NamesMethod, hm] using hs
    · rintro ⟨hm, hs⟩
      simpa [NamesMethod, hm] using hs
  have hname' : Tools.optionalStr (.object dest) "name" = dto.destination.name := hname
  have hoption' : Tools.optionalStr (.object members) "selected_option_id" = dto.selectedOptionId :=
    get_bind_of_fieldOr hoption
  obtain ⟨place, hplace, rfl⟩ := ofDto_eq_ok.mp hp
  rw [toolSelection_eq_ok]
  refine ⟨dto.methodType, hmethod', .object dest, get_of_field hd, dto.destination.id, hid, place,
    ?_, dto.lineItemIds, toolLines_eq hlines, ?_⟩
  · rw [hname', haddress]
    exact hplace
  · rw [hoption']

/-! ## Both -/

theorem nothingMistyped_of_dtoTyped (h : DtoTyped members) : NothingMistyped members := by
  obtain ⟨⟨v, hv, -⟩, ⟨d, hd, htyped, -⟩, hlines, hoption⟩ := h
  refine ⟨?_, fun u hu => ?_, hoption.2, fun dest hdest => ?_⟩
  · simp only [List.forall_mem_cons, List.not_mem_nil, false_imp_iff, forall_const, and_true]
    refine ⟨by simp [hv], ?_, by simp [hd], hoption.1⟩
    rcases hlines with hnone | ⟨ids, hids⟩
    · simp [hnone]
    · simp [hids]
  · rcases hlines with hnone | ⟨ids, hids⟩
    · simp [hnone] at hu
    · exact ⟨_, by simpa [hids] using hu⟩
  · rw [hd, List.mem_singleton] at hdest
    subst hdest
    cases htyped with
    | object hid htexts =>
        obtain ⟨id, hid⟩ := hid
        exact ⟨by simp [hid], htexts⟩

/-- What MCP can read and is nowhere mistyped is as REST wants it, in the forms MCP knows. -/
theorem dtoTyped_of_complete (h : McpComplete members) (hexact : NothingMistyped members) :
    DtoTyped members ∧ PlainForms members := by
  have honce := hexact.once
  simp only [List.forall_mem_cons, List.not_mem_nil, false_imp_iff, forall_const, and_true] at honce
  obtain ⟨hmethod, hlines, hdest, hoption⟩ := honce
  obtain ⟨s, hs, hname⟩ : ∃ s, named members "method_type" = [.string s] ∧
      (s = "shipping" ∨ s = "pickup") := by
    have hone (s : String) (hs : ((object members).get "method_type").bind asStr = some s) :
        named members "method_type" = [.string s] := by
      obtain ⟨v, hv, hread⟩ := Option.bind_eq_some_iff.mp hs
      rw [named_eq_singleton hv hmethod, asStr_eq_some.mp hread]
    exact h.methodType.elim (fun hs => ⟨_, hone _ hs, Or.inl rfl⟩)
      fun hs => ⟨_, hone _ hs, Or.inr rfl⟩
  have hget : ((object members).get "method_type").bind asStr = some s := by
    simp [Json.get, hs, asStr]
  obtain ⟨d, hd, ⟨id, hid⟩, hplace⟩ := h.destination
  have hd := named_eq_singleton hd hdest
  obtain ⟨dest, rfl⟩ : ∃ dest, d = .object dest := by
    cases d with
    | object dest => exact ⟨dest, rfl⟩
    | _ => simp [Json.get] at hid
  obtain ⟨hidOnce, htexts⟩ := hexact.destination dest (hd ▸ List.mem_singleton_self _)
  obtain ⟨v, hv, hread⟩ := Option.bind_eq_some_iff.mp hid
  have hv := named_eq_singleton hv hidOnce
  rw [asStr_eq_some.mp hread] at hv
  refine ⟨⟨⟨_, hs, ?_⟩, ⟨_, hd, .object ⟨id, hv⟩ htexts, ?_⟩, ?_, hoption, hexact.option⟩, ?_, ?_⟩
  · exact hname.imp (fun h => Or.inl (congrArg Json.string h)) fun h =>
      Or.inl (congrArg Json.string h)
  · rintro ⟨u, hu, hpickup⟩
    rw [hs, List.mem_singleton] at hu
    subst hu
    have hspickup : s = "pickup" := by simpa [NamesMethod] using hpickup
    obtain ⟨name, hname⟩ := hplace (hspickup ▸ hget)
    obtain ⟨w, hw, hread⟩ := Option.bind_eq_some_iff.mp hname
    have hw := named_eq_singleton hw (htexts "name" (by decide)).1
    rw [asStr_eq_some.mp hread] at hw
    exact .object hw
  · have hread : (fieldOr members "line_item_ids" strings []).isSome := by
      refine fieldOr_isSome.mpr ⟨hlines, fun v hv => ?_⟩
      obtain ⟨items, rfl⟩ := hexact.lines v hv
      have hget : (object members).get "line_item_ids" = some (.array items) :=
        get_of_field (field_eq_some.mpr (named_of_mem hv hlines))
      refine mapM_isSome.mpr fun u hu => Option.isSome_iff_exists.mpr ?_
      exact (h.lines items hget u hu).imp fun id hid => asStr_eq_some.mpr hid
    exact fieldOr_strings_isSome.mp hread
  · intro v hv
    rw [hs, List.mem_singleton] at hv
    exact ⟨s, hv⟩
  · intro v hv
    rw [hd, List.mem_singleton] at hv
    exact ⟨dest, hv⟩

/-- What both can read is in the forms MCP knows. -/
theorem plainForms_of_both (h : DtoTyped members) (hcomplete : McpComplete members) :
    PlainForms members := (dtoTyped_of_complete hcomplete (nothingMistyped_of_dtoTyped h)).2

end Readers

/-- **A selection means the same over REST and over MCP** exactly if what MCP can read is
nowhere mistyped and what REST can read is in the forms that MCP knows. -/
theorem selections_read_alike_iff (members : List (String × Json)) :
    (Tools.fulfillmentSelectionPayload (.object members)).toOption =
        (restSelection members).toOption ↔
      (McpComplete members → NothingMistyped members) ∧ (DtoTyped members → PlainForms members) := by
  have hok {ε α : Type} {x : Except ε α} {a : α} : x.toOption = some a ↔ x = .ok a := by
    cases x <;> simp [Except.toOption]
  have hfails {ε α : Type} {x : Except ε α} (h : ¬ ∃ a, x = .ok a) : x.toOption = none :=
    Option.eq_none_iff_forall_ne_some.mpr fun a ha => h ⟨a, hok.mp ha⟩
  constructor
  · intro h
    have hboth : McpComplete members ↔ DtoTyped members := by
      rw [← mcp_selects_iff, ← rest_selects_iff]
      simp only [← hok, h]
    exact ⟨fun hcomplete => nothingMistyped_of_dtoTyped (hboth.mp hcomplete),
      fun htyped => plainForms_of_both htyped (hboth.mpr htyped)⟩
  · rintro ⟨hexact, hplain⟩
    by_cases hcomplete : McpComplete members
    · obtain ⟨htyped, hforms⟩ := dtoTyped_of_complete hcomplete (hexact hcomplete)
      obtain ⟨p, hp⟩ := rest_selects_iff.mpr htyped
      rw [hp, mcp_selects_same hp hforms]
      rfl
    · have hmcp := fun h => hcomplete (mcp_selects_iff.mp h)
      have hrest : ¬ ∃ p, restSelection members = .ok p := fun ⟨p, hp⟩ =>
        hmcp ⟨p, mcp_selects_same hp (hplain (rest_selects_iff.mp ⟨p, hp⟩))⟩
      rw [hfails hmcp, hfails hrest]

/-- The ids of the lines as one text. -/
def oneLine : List (String × Json) :=
  [("method_type", .string "shipping"), ("line_item_ids", .string "li_1"),
    ("destination", .object [("id", .string "dest_1")])]

/-- REST rejects it and MCP selects for the whole cart. -/
theorem whole_cart_selected :
    Tools.fulfillmentSelectionPayload (.object oneLine) =
        .ok ⟨.shipping, [], .shipping "dest_1" {}, none⟩ ∧
      restSelection oneLine = .error .body ∧
      (Tools.fulfillmentSelectionPayload (.object oneLine)).toOption ≠
        (restSelection oneLine).toOption := by
  have hmcp : Tools.fulfillmentSelectionPayload (.object oneLine) =
      .ok ⟨.shipping, [], .shipping "dest_1" {}, none⟩ := rfl
  have hrest : restSelection oneLine = .error .body := rfl
  refine ⟨hmcp, hrest, fun h => ?_⟩
  rw [hmcp, hrest] at h
  cases h

end Orchestrator
