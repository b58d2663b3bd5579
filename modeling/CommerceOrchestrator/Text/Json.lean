/-
# `CommerceOrchestrator.Text.Json` — JSON values and two ways to read an object

The text of an object can give a name more than once.  A reader that first builds a map keeps
the last value given (`get`); a reader derived for a record takes the members as they come
and refuses a name given twice (`field`).  A name given exactly once is read alike by both.
-/
import Mathlib

namespace Text

/-- A number as a JSON reader holds it: an integer if it is one and fits. -/
inductive Number
  | posInt (n : UInt64)
  | negInt (n : Int64)
  /-- The bits of the double. -/
  | float (bits : UInt64)
deriving DecidableEq, Repr

inductive Json
  | null
  | bool (b : Bool)
  | number (n : Number)
  | string (s : String)
  | array (items : List Json)
  | object (members : List (String × Json))

namespace Json

def asStr : Json → Option String
  | .string s => some s
  | _ => none

def asU64 : Json → Option Nat
  | .number (.posInt n) => some n.toNat
  | _ => none

def asArray : Json → Option (List Json)
  | .array items => some items
  | _ => none

/-- A text that may be left out: `null` stands for none. -/
def nullOrStr : Json → Option (Option String)
  | .null => some none
  | .string s => some (some s)
  | _ => none

/-- The number if it is an integer of 32 bits. -/
def asU32 (v : Json) : Option Nat := v.asU64.filter (· < 2 ^ 32)

/-- The number if it is a signed integer of 64 bits. -/
def asI64 : Json → Option Int
  | .number (.posInt n) => if n.toNat < 2 ^ 63 then some n.toNat else none
  | .number (.negInt n) => some n.toInt
  | _ => none

theorem asU64_lt {v : Json} {n : Nat} (h : v.asU64 = some n) : n < 2 ^ 64 := by
  cases v with
  | number m =>
      cases m with
      | posInt m => exact Option.some.inj h ▸ m.toNat_lt
      | negInt m => simp [asU64] at h
      | float bits => simp [asU64] at h
  | _ => simp [asU64] at h

theorem asU32_eq_some {v : Json} {n : Nat} : v.asU32 = some n ↔ v.asU64 = some n ∧ n < 2 ^ 32 := by
  simp [asU32, Option.filter_eq_some_iff]

/-! ## Objects -/

/-- The values given under a name, in order. -/
def named (members : List (String × Json)) (key : String) : List Json :=
  (members.filter (·.1 = key)).map (·.2)

/-- The member of a map: of a name given twice the last value counts. -/
def get (key : String) : Json → Option Json
  | .object members => (named members key).getLast?
  | _ => none

/-- The field of a record: it must be given, and once. -/
def field (members : List (String × Json)) (key : String) : Option Json :=
  match named members key with
  | [v] => some v
  | _ => none

/-- A field with a default: if it is given, then once. -/
def fieldOr {α : Type} (members : List (String × Json)) (key : String) (read : Json → Option α)
    (absent : α) : Option α :=
  match named members key with
  | [] => some absent
  | [v] => read v
  | _ => none

/-! ## Records -/

/-- The fields of a record as a value holds them: a map by their names, an array by their
places, where the first `least` have to be there. -/
def fieldsOf (names : List String) (least : Nat) : Json → Option (List (Option Json))
  | .object members => some (names.map fun key => get key (.object members))
  | .array items =>
      if least ≤ items.length ∧ items.length ≤ names.length then
        some (names.mapIdx fun i _ => items[i]?)
      else none
  | _ => none

/-- A field that may be left out or be `null`. -/
def optional {α : Type} (read : Json → Option α) : Option Json → Option (Option α)
  | none | some .null => some none
  | some v => (read v).map some

section Objects

variable {α : Type} {members : List (String × Json)} {key : String} {v : Json}

theorem field_eq_some : field members key = some v ↔ named members key = [v] := by
  unfold field
  split
  · next u hu => simp [hu]
  · next hne => exact ⟨fun h => (by cases h), fun h => (hne v h).elim⟩

theorem get_of_field (h : field members key = some v) : (object members).get key = some v := by
  unfold field at h
  split at h
  · next hv => simpa [get, hv] using h
  · cases h

/-- A field that is read is the member that is read. -/
theorem get_bind_of_field {f : Json → Option α} {a : α} (h : (field members key).bind f = some a) :
    ((object members).get key).bind f = some a := by
  obtain ⟨v, hv, ha⟩ := Option.bind_eq_some_iff.mp h
  rw [get_of_field hv]
  exact ha

/-- A member given once is the only one of its name. -/
theorem named_of_mem (hv : v ∈ named members key) (honce : (named members key).length ≤ 1) :
    named members key = [v] := by
  have hlength : (named members key).length = 1 :=
    Nat.le_antisymm honce (List.length_pos_of_mem hv)
  obtain ⟨u, hu⟩ := List.length_eq_one_iff.mp hlength
  rw [hu, List.mem_singleton] at hv
  rw [hu, hv]

theorem named_eq_singleton (h : (object members).get key = some v)
    (honce : (named members key).length ≤ 1) : named members key = [v] :=
  named_of_mem (List.mem_of_getLast? h) honce

theorem get_eq_none : (object members).get key = none ↔ named members key = [] := by
  rw [get, List.getLast?_eq_none_iff]

/-- A field with a default can be read if it is not given, or once and as it should be. -/
theorem fieldOr_isSome {read : Json → Option α} {absent : α} :
    (fieldOr members key read absent).isSome ↔
      (named members key).length ≤ 1 ∧ ∀ v ∈ named members key, (read v).isSome := by
  unfold fieldOr
  split
  · next h => simp [h]
  · next v h => simp [h]
  · next hnil hone =>
      refine ⟨fun h => (by cases h), fun h => ?_⟩
      match hv : named members key with
      | [] => exact absurd hv hnil
      | [v] => exact absurd hv (hone v)
      | _ :: _ :: _ => simp [hv] at h

theorem fieldOr_eq_some {read : Json → Option α} {absent a : α}
    (h : fieldOr members key read absent = some a) :
    (object members).get key = none ∧ a = absent ∨
      ∃ v, (object members).get key = some v ∧ read v = some a := by
  unfold fieldOr at h
  split at h
  · next hnone => exact Or.inl ⟨get_eq_none.mpr hnone, (Option.some.inj h).symm⟩
  · next v hv => exact Or.inr ⟨v, by simp [get, hv], h⟩
  · cases h

/-- Whoever takes the text that is there takes what the record takes. -/
theorem get_bind_of_fieldOr {t : Option String} (h : fieldOr members key nullOrStr none = some t) :
    ((object members).get key).bind asStr = t := by
  rcases fieldOr_eq_some h with ⟨hnone, rfl⟩ | ⟨v, hv, ht⟩
  · rw [hnone]
    rfl
  · rw [hv, Option.bind_some]
    cases v with
    | null => exact Option.some.inj ht
    | string s => exact Option.some.inj ht
    | _ => cases ht

end Objects

end Json

end Text
