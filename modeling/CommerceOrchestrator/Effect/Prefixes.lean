/-
# `CommerceOrchestrator.Effect.Prefixes` — every element after those before it

A history is a list with the latest entry last.  `EachAfter P` says that every entry
stands as `P` asks of it in view of the entries before it; it grows at the end of the
list, one entry at a time.
-/
import Mathlib.Data.List.Induction

namespace Effect

variable {α : Type} {P Q : List α → α → Prop} {l l' : List α} {a b : α}

/-- `P` holds of every element and those before it. -/
def EachAfter (P : List α → α → Prop) (l : List α) : Prop :=
  ∀ before a rest, l = before ++ a :: rest → P before a

/-- A list that ends in `b`, split at one of its elements. -/
theorem split_concat {before rest : List α} (h : l ++ [b] = before ++ a :: rest) :
    (before = l ∧ a = b ∧ rest = []) ∨ ∃ rest', rest = rest' ++ [b] ∧ l = before ++ a :: rest' := by
  rcases List.eq_nil_or_concat rest with rfl | ⟨rest', x, rfl⟩
  · obtain ⟨rfl, ha⟩ := List.append_inj' h rfl
    exact Or.inl ⟨rfl, (List.singleton_inj.mp ha).symm, rfl⟩
  · rw [List.concat_eq_append, ← List.cons_append, ← List.append_assoc] at h
    obtain ⟨rfl, hx⟩ := List.append_inj' h rfl
    rw [List.concat_eq_append, List.singleton_inj.mp hx]
    exact Or.inr ⟨rest', rfl, rfl⟩

namespace EachAfter

@[simp] theorem nil : EachAfter P [] := by
  intro before a rest h
  simp at h

theorem concat_iff : EachAfter P (l ++ [a]) ↔ EachAfter P l ∧ P l a := by
  constructor
  · intro h
    refine ⟨fun before b rest heq => h before b (rest ++ [a]) ?_, h l a [] rfl⟩
    rw [heq, List.append_assoc, List.cons_append]
  · rintro ⟨h, ha⟩ before b rest heq
    rcases split_concat heq with ⟨rfl, rfl, -⟩ | ⟨rest', -, hsplit⟩
    · exact ha
    · exact h before b rest' hsplit

theorem of_append (h : EachAfter P (l ++ l')) : EachAfter P l := by
  intro before a rest heq
  refine h before a (rest ++ l') ?_
  rw [heq, List.append_assoc, List.cons_append]

theorem mono (h : EachAfter P l) (hPQ : ∀ before a, P before a → Q before a) : EachAfter Q l :=
  fun before a rest heq => hPQ before a (h before a rest heq)

/-- The positions of a list are finitely many. -/
theorem iff_take : EachAfter P l ↔ ∀ i (h : i < l.length), P (l.take i) l[i] := by
  constructor
  · intro h i hi
    refine h (l.take i) l[i] (l.drop (i + 1)) ?_
    rw [List.getElem_cons_drop, List.take_append_drop]
  · rintro h before a rest rfl
    have hi : before.length < (before ++ a :: rest).length := by simp
    have hat := h before.length hi
    simpa using hat

instance [∀ before a, Decidable (P before a)] : Decidable (EachAfter P l) :=
  decidable_of_iff _ iff_take.symm

end EachAfter

end Effect
