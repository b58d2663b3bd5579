/-
# `CommerceOrchestrator.Effect.Table` — finite tables with unique keys

The stores are hash maps; a `Table` is Mathlib's association list at a constant
value type.  Added here are the lookups through an update, each as one
conditional, and the operations `AList` lacks: changing every value in place and
dropping the entries that fail a test.
-/
import Mathlib.Data.List.AList

namespace Effect

/-- A finite map with unique keys. -/
abbrev Table (K V : Type) := AList (fun _ : K => V)

namespace Table

variable {K V : Type} [DecidableEq K]

theorem lookup_insert_ite (t : Table K V) (k k' : K) (v : V) :
    (t.insert k v).lookup k' = if k' = k then some v else t.lookup k' := by
  split
  · next h => rw [h, AList.lookup_insert]
  · next h => exact AList.lookup_insert_ne h

theorem lookup_erase_ite (t : Table K V) (k k' : K) :
    (t.erase k).lookup k' = if k' = k then none else t.lookup k' := by
  split
  · next h => rw [h, AList.lookup_erase]
  · next h => exact AList.lookup_erase_ne h

theorem erase_of_lookup {t : Table K V} {k : K} (h : t.lookup k = none) : t.erase k = t :=
  AList.ext (List.kerase_of_notMem_keys (AList.lookup_eq_none.mp h))

/-- Change every value, in place. -/
def mapValues (f : K → V → V) (t : Table K V) : Table K V :=
  ⟨t.entries.map (Sigma.map id f), t.nodupKeys.map₂ f _⟩

theorem lookup_mapValues (f : K → V → V) (t : Table K V) (k : K) :
    (t.mapValues f).lookup k = (t.lookup k).map (f k) :=
  List.dlookup_map₂ k

/-- Drop the entries that fail a test. -/
def keep (p : K → V → Bool) (t : Table K V) : Table K V :=
  ⟨t.entries.filter fun e => p e.1 e.2, t.nodupKeys.sublist List.filter_sublist⟩

theorem lookup_keep (p : K → V → Bool) (t : Table K V) (k : K) :
    (t.keep p).lookup k = (t.lookup k).filter (p k) := by
  refine Option.ext fun v => ?_
  rw [Option.filter_eq_some_iff]
  have hkeep := List.mem_dlookup_iff (a := k) (b := v) (t.keep p).nodupKeys
  have hall := List.mem_dlookup_iff (a := k) (b := v) t.nodupKeys
  rw [Option.mem_def] at hkeep hall
  refine hkeep.trans (List.mem_filter.trans ?_)
  exact and_congr_left' hall.symm

/-- Write the changed entries of one table into another, one after the other. -/
theorem lookup_foldl_insert (f : V → V) (s t : Table K V) (k : K) :
    (s.entries.foldl (fun t e => t.insert e.1 (f e.2)) t).lookup k =
      ((s.lookup k).map f).or (t.lookup k) := by
  obtain ⟨entries, hnodup⟩ := s
  show _ = ((entries.dlookup k).map f).or (t.lookup k)
  induction entries generalizing t with
  | nil => rfl
  | cons e entries ih =>
      obtain ⟨he, hrest⟩ := List.nodupKeys_cons.mp hnodup
      rw [List.foldl_cons, ih _ hrest, lookup_insert_ite]
      obtain ⟨k', v⟩ := e
      by_cases hk : k = k'
      · subst hk
        rw [List.dlookup_eq_none.mpr he, List.dlookup_cons_eq, if_pos rfl]
        rfl
      · rw [List.dlookup_cons_ne _ _ hk, if_neg hk]

/-- Tables that agree on the values that pass a test list these in some order. -/
theorem values_filter_perm {p : V → Bool} {t t' : Table K V}
    (h : ∀ k v, p v → (t.lookup k = some v ↔ t'.lookup k = some v)) :
    ((t.entries.map (·.2)).filter p).Perm ((t'.entries.map (·.2)).filter p) := by
  have hmem : ∀ (t : Table K V) (e : (_ : K) × V), e ∈ t.entries ↔ t.lookup e.1 = some e.2 :=
    fun t e => (List.mem_dlookup_iff t.nodupKeys).symm
  rw [List.filter_map, List.filter_map]
  refine List.Perm.map _ ((List.perm_ext_iff_of_nodup ?_ ?_).mpr fun e => ?_)
  · exact t.nodupKeys.nodup.filter _
  · exact t'.nodupKeys.nodup.filter _
  · rw [List.mem_filter, List.mem_filter, hmem, hmem]
    exact and_congr_left (h e.1 e.2)

end Table

end Effect
