/-
# `CommerceOrchestrator.Text.Chars` — taking texts apart

Texts as lists of characters, and the operations with which a parser written by hand takes
them apart: strip both ends, split at the first separator, split into words, remove the
quotes.  Each has a lemma for what it undoes and one for where its results come from.
-/
import Mathlib

namespace Text

abbrev Chars := List Char

/-! ## Ends -/

/-- Without what satisfies `p` at either end. -/
def strip (p : Char → Bool) (s : Chars) : Chars := (s.dropWhile p).rdropWhile p

section Strip

variable {p : Char → Bool} {s : Chars}

theorem rdropWhile_append_of_pos {t : Chars} (h : ∀ c ∈ t, p c = true) :
    (s ++ t).rdropWhile p = s.rdropWhile p := by
  induction t using List.reverseRecOn with
  | nil => rw [List.append_nil]
  | append_singleton t c ih =>
      rw [← List.append_assoc, List.rdropWhile_concat_pos _ _ _ (h c (by simp))]
      exact ih fun x hx => h x (List.mem_append_left _ hx)

theorem strip_isInfix (p : Char → Bool) (s : Chars) : strip p s <:+: s :=
  (List.rdropWhile_prefix p _).isInfix.trans (List.dropWhile_suffix p).isInfix

theorem mem_of_mem_strip {c : Char} (h : c ∈ strip p s) : c ∈ s := (strip_isInfix p s).subset h

theorem length_strip_le : (strip p s).length ≤ s.length := (strip_isInfix p s).length_le

/-- A text that begins and ends with other characters is left as it is. -/
theorem strip_eq_self (hhead : ∀ c ∈ s.head?, p c = false) (hlast : ∀ c ∈ s.getLast?, p c = false) :
    strip p s = s := by
  have hdrop : s.dropWhile p = s := by
    cases s with
    | nil => rfl
    | cons c s => exact List.dropWhile_cons_of_neg (by simp [hhead c rfl])
  rw [strip, hdrop, List.rdropWhile_eq_self_iff]
  intro hs
  simp [hlast _ (List.getLast?_eq_some_getLast hs)]

theorem strip_eq_self_of_forall (h : ∀ c ∈ s, p c = false) : strip p s = s :=
  strip_eq_self (fun c hc => h c (List.mem_of_mem_head? hc))
    fun c hc => h c (List.mem_of_mem_getLast? hc)

/-- Stripping takes off characters that satisfy `p`, and nothing else. -/
theorem exists_strip (p : Char → Bool) (s : Chars) :
    ∃ a b, s = a ++ strip p s ++ b ∧ (∀ c ∈ a, p c = true) ∧ ∀ c ∈ b, p c = true := by
  refine ⟨s.takeWhile p, (s.dropWhile p).rtakeWhile p, ?_, fun c => List.mem_takeWhile_imp, ?_⟩
  · rw [strip, List.append_assoc, List.rdropWhile_append_rtakeWhile, List.takeWhile_append_dropWhile]
  · intro c hc
    rw [List.rtakeWhile, List.mem_reverse] at hc
    exact List.mem_takeWhile_imp hc

theorem strip_append_left {t : Chars} (h : ∀ c ∈ t, p c = true) : strip p (t ++ s) = strip p s := by
  rw [strip, strip, List.dropWhile_append_of_pos h]

theorem strip_append_right {t : Chars} (h : ∀ c ∈ t, p c = true) : strip p (s ++ t) = strip p s := by
  rw [strip, strip, List.dropWhile_append]
  split
  · next hs =>
      rw [List.isEmpty_iff.mp hs, List.dropWhile_eq_nil_iff.mpr h]
  · exact rdropWhile_append_of_pos h

end Strip

/-! ## Splitting -/

/-- The parts before and after the first `c`. -/
def splitOnce (c : Char) : Chars → Option (Chars × Chars)
  | [] => none
  | x :: s => if x = c then some ([], s) else (splitOnce c s).map fun p => (x :: p.1, p.2)

section SplitOnce

variable {c : Char} {s a b : Chars}

theorem splitOnce_append (h : c ∉ a) : splitOnce c (a ++ c :: b) = some (a, b) := by
  induction a with
  | nil => exact if_pos rfl
  | cons x a ih =>
      rw [List.mem_cons, not_or] at h
      rw [List.cons_append, splitOnce, if_neg (Ne.symm h.1), ih h.2]
      rfl

theorem splitOnce_eq_some : ∀ {a : Chars}, splitOnce c s = some (a, b) →
    s = a ++ c :: b ∧ c ∉ a := by
  induction s with
  | nil =>
      intro a h
      cases h
  | cons x s ih =>
      intro a h
      rw [splitOnce] at h
      split at h
      · next hx =>
          obtain ⟨rfl, rfl⟩ := Prod.mk.inj (Option.some.inj h)
          exact ⟨congrArg (· :: s) hx, List.not_mem_nil⟩
      · next hx =>
          obtain ⟨⟨a', b'⟩, hs, he⟩ := Option.map_eq_some_iff.mp h
          obtain ⟨rfl, rfl⟩ := Prod.mk.inj he
          obtain ⟨rfl, hc⟩ := ih hs
          refine ⟨rfl, ?_⟩
          rw [List.mem_cons, not_or]
          exact ⟨Ne.symm hx, hc⟩

theorem splitOnce_eq_none (h : splitOnce c s = none) : c ∉ s := by
  intro hc
  obtain ⟨a, b, rfl, ha⟩ := List.eq_append_cons_of_mem hc
  rw [splitOnce_append ha] at h
  cases h

end SplitOnce

section SplitOnP

variable {p : Char → Bool} {w s : Chars}

/-- The first part goes up to the first separator. -/
theorem exists_splitOnP (p : Char → Bool) (s : Chars) :
    ∃ t, s.splitOnP p = s.takeWhile (fun c => !p c) :: t := by
  induction s with
  | nil => exact ⟨[], List.splitOnP_nil⟩
  | cons x s ih =>
      obtain ⟨t, ht⟩ := ih
      rw [List.splitOnP_cons_eq_if_modifyHead]
      cases hx : p x with
      | true => exact ⟨s.splitOnP p, by simp [hx]⟩
      | false => exact ⟨t, by simp [hx, ht]⟩

/-- A part of a split text is a part of the text, and has no separator. -/
theorem mem_splitOnP (h : w ∈ s.splitOnP p) : w <:+: s ∧ ∀ c ∈ w, p c = false := by
  induction s generalizing w with
  | nil =>
      rw [List.splitOnP_nil] at h
      obtain rfl := List.mem_singleton.mp h
      exact ⟨List.infix_rfl, fun _ hc => nomatch hc⟩
  | cons x s ih =>
      rw [List.splitOnP_cons_eq_if_modifyHead] at h
      cases hx : p x with
      | true =>
          rw [if_pos hx] at h
          rcases List.mem_cons.mp h with rfl | h
          · exact ⟨List.nil_infix, fun _ hc => nomatch hc⟩
          · exact ⟨(ih h).1.trans (List.suffix_cons x s).isInfix, (ih h).2⟩
      | false =>
          obtain ⟨t, ht⟩ := exists_splitOnP p s
          rw [if_neg (by simp [hx]), ht, List.modifyHead_cons] at h
          rcases List.mem_cons.mp h with rfl | h
          · refine ⟨((List.cons_prefix_cons.mpr ⟨rfl, List.takeWhile_prefix _⟩)).isInfix, ?_⟩
            refine List.forall_mem_cons.mpr ⟨hx, fun c hc => ?_⟩
            simpa using List.mem_takeWhile_imp hc
          · have hw := ih (ht ▸ List.mem_cons_of_mem _ h)
            exact ⟨hw.1.trans (List.suffix_cons x s).isInfix, hw.2⟩

theorem mem_splitOn {c : Char} (h : w ∈ s.splitOn c) : w <:+: s ∧ c ∉ w := by
  rw [List.splitOn_eq_splitOnP] at h
  obtain ⟨hw, hc⟩ := mem_splitOnP h
  exact ⟨hw, fun hm => by simpa using hc c hm⟩

/-- What has no separator and lies in two texts with a separator in between lies in one of
them. -/
theorem infix_of_notMem {c : Char} {a b : Chars} (h : w <:+: a ++ c :: b) (hc : c ∉ w) :
    w <:+: a ∨ w <:+: b := by
  obtain ⟨x, y, hxy⟩ := h
  rw [List.append_assoc] at hxy
  rcases List.append_eq_append_iff.mp hxy with ⟨a', rfl, hrest⟩ | ⟨c', rfl, hrest⟩
  · -- the text begins in `a`
    rcases List.append_eq_append_iff.mp hrest with ⟨a'', rfl, -⟩ | ⟨c'', rfl, hsep⟩
    · exact Or.inl ⟨x, a'', by simp⟩
    · cases c'' with
      | nil => exact Or.inl ⟨x, [], by simp⟩
      | cons d c'' =>
          obtain ⟨rfl, -⟩ := List.cons.inj hsep
          simp at hc
  · cases c' with
    | nil =>
        cases w with
        | nil => exact Or.inl List.nil_infix
        | cons d w =>
            obtain ⟨rfl, -⟩ := List.cons.inj hrest
            simp at hc
    | cons d c' =>
        obtain ⟨rfl, rfl⟩ := List.cons.inj hrest
        exact Or.inr ⟨c', y, by simp⟩

/-- What stands behind a separator stands behind the first one. -/
theorem infix_of_first {c : Char} {a b : Chars} (h : c :: w <:+: a ++ c :: b) (hc : c ∉ a) :
    w <:+: b := by
  obtain ⟨x, y, hxy⟩ := h
  rw [List.append_assoc] at hxy
  rcases List.append_eq_append_iff.mp hxy with ⟨a', rfl, hrest⟩ | ⟨b', rfl, hrest⟩
  · cases a' with
    | nil =>
        obtain ⟨-, rfl⟩ := List.cons.inj hrest
        exact ⟨[], y, rfl⟩
    | cons d a' =>
        obtain ⟨rfl, -⟩ := List.cons.inj hrest
        simp at hc
  · cases b' with
    | nil =>
        obtain ⟨-, rfl⟩ := List.cons.inj hrest
        exact ⟨[], y, rfl⟩
    | cons d b' =>
        obtain ⟨rfl, rfl⟩ := List.cons.inj hrest
        exact ⟨b' ++ [c], y, by simp⟩

/-- The longest parts without a character that satisfies `p`. -/
def words (p : Char → Bool) (s : Chars) : List Chars := (s.splitOnP p).filter (· ≠ [])

theorem mem_words (h : w ∈ words p s) : w <:+: s ∧ ∀ c ∈ w, p c = false :=
  mem_splitOnP (List.mem_filter.mp h).1

/-- Words with one separator between each two are those words again. -/
theorem words_intercalate {sep : Char} (hsep : p sep = true) {ws : List Chars}
    (hws : ∀ w ∈ ws, w ≠ [] ∧ ∀ c ∈ w, p c = false) : words p ([sep].intercalate ws) = ws := by
  induction ws with
  | nil => simp [words, List.intercalate]
  | cons w ws ih =>
      obtain ⟨⟨hne, hw⟩, hws⟩ := List.forall_mem_cons.mp hws
      cases ws with
      | nil => simp [words, List.intercalate, List.splitOnP_eq_singleton hw, hne]
      | cons w' ws =>
          rw [List.intercalate_cons_cons, List.append_assoc, List.singleton_append, words,
            List.splitOnP_append_cons_of_forall_mem hw sep hsep, List.filter_cons_of_pos (by simpa)]
          exact congrArg (w :: ·) (ih hws)

theorem notMem_intercalate {c : Char} {sep : Chars} {ws : List Chars} (hsep : c ∉ sep)
    (h : ∀ w ∈ ws, c ∉ w) : c ∉ sep.intercalate ws := by
  induction ws with
  | nil => simp [List.intercalate]
  | cons w ws ih =>
      obtain ⟨hw, hws⟩ := List.forall_mem_cons.mp h
      cases ws with
      | nil => simpa [List.intercalate] using hw
      | cons w' ws =>
          rw [List.intercalate_cons_cons, List.mem_append, List.mem_append, not_or, not_or]
          exact ⟨⟨hw, hsep⟩, ih hws⟩

end SplitOnP

/-! ## Quotes -/

def stripPrefix (c : Char) : Chars → Option Chars
  | [] => none
  | x :: s => if x = c then some s else none

def stripSuffix (c : Char) (s : Chars) : Option Chars :=
  (stripPrefix c s.reverse).map List.reverse

/-- What is between two quotes that stand at the ends. -/
def unquote (s : Chars) : Option Chars := (stripPrefix '"' s).bind (stripSuffix '"')

def quote (s : Chars) : Chars := '"' :: s ++ ['"']

section Quotes

variable {c : Char} {s t : Chars}

theorem stripPrefix_eq_some : stripPrefix c s = some t ↔ s = c :: t := by
  cases s with
  | nil => simp [stripPrefix]
  | cons x s => simp [stripPrefix]

theorem stripSuffix_eq_some : stripSuffix c s = some t ↔ s = t ++ [c] := by
  rw [stripSuffix, Option.map_eq_some_iff]
  constructor
  · rintro ⟨u, hu, rfl⟩
    rw [stripPrefix_eq_some] at hu
    rw [← List.reverse_reverse s, hu, List.reverse_cons]
  · rintro rfl
    exact ⟨t.reverse, by simp [stripPrefix_eq_some], List.reverse_reverse t⟩

theorem unquote_eq_some : unquote s = some t ↔ s = quote t := by
  rw [unquote, Option.bind_eq_some_iff]
  constructor
  · rintro ⟨u, hu, ht⟩
    rw [stripPrefix_eq_some.mp hu, stripSuffix_eq_some.mp ht, quote, List.cons_append]
  · rintro rfl
    exact ⟨t ++ ['"'], stripPrefix_eq_some.mpr rfl, stripSuffix_eq_some.mpr rfl⟩

theorem length_quote : (quote s).length = s.length + 2 := by
  simp [quote]

end Quotes

end Text
