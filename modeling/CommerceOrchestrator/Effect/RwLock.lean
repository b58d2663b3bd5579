/-
# `CommerceOrchestrator.Effect.RwLock` — a lock for many readers or one writer

The lock knows who is inside.  `Tracks` says that it agrees with where the threads say
they are, and that a writer is alone; every transition keeps it.  A lock that nobody is
in lets everybody pass.
-/
import Mathlib.Data.List.Basic
import Mathlib.Logic.Function.Basic

namespace Effect

/-- The threads inside. -/
structure RwLock where
  readers : List Nat
  writer : Option Nat
deriving DecidableEq, Repr

/-- Where a thread stands to a lock. -/
inductive Hold
  | outside
  | reading
  | writing
deriving DecidableEq, Repr

namespace RwLock

def free : RwLock := ⟨[], none⟩

/-- A reader waits for the writer. -/
def read (t : Nat) (l : RwLock) : Option RwLock :=
  if l.writer = none then some { l with readers := t :: l.readers } else none

/-- A writer waits for everybody. -/
def write (t : Nat) (l : RwLock) : Option RwLock :=
  if l.writer = none ∧ l.readers = [] then some { l with writer := some t } else none

def endRead (t : Nat) (l : RwLock) : RwLock :=
  { l with readers := l.readers.filter (· ≠ t) }

def endWrite (l : RwLock) : RwLock := { l with writer := none }

/-- The lock holds exactly those threads that say so, and a writer is alone. -/
structure Tracks (l : RwLock) (hold : Nat → Hold) : Prop where
  readers : ∀ t, t ∈ l.readers ↔ hold t = .reading
  writer : ∀ t, l.writer = some t ↔ hold t = .writing
  alone : ∀ t, l.writer = some t → l.readers = []

namespace Tracks

variable {l l' : RwLock} {hold : Nat → Hold} {t t' : Nat}

theorem of_free (h : ∀ t, hold t = .outside) : free.Tracks hold where
  readers t := by simp [free, h]
  writer t := by simp [free, h]
  alone t := by simp [free]

/-- A writer excludes everybody else. -/
theorem eq_of_writing (h : l.Tracks hold) (ht : hold t = .writing) (ht' : hold t' ≠ .outside) :
    t' = t := by
  have hwriter := (h.writer t).mpr ht
  cases hh : hold t' with
  | outside => exact absurd hh ht'
  | reading =>
      have hmem := (h.readers t').mpr hh
      rw [h.alone t hwriter] at hmem
      exact absurd hmem List.not_mem_nil
  | writing =>
      exact Option.some.inj (((h.writer t').mpr hh).symm.trans hwriter)

/-- With everybody outside the lock is free. -/
theorem eq_free (h : l.Tracks hold) (hout : ∀ t, hold t = .outside) : l = free := by
  have hreaders : l.readers = [] := by
    refine List.eq_nil_iff_forall_not_mem.mpr fun t ht => ?_
    have := (h.readers t).mp ht
    simp [hout] at this
  have hwriter : l.writer = none := by
    refine Option.eq_none_iff_forall_ne_some.mpr fun t ht => ?_
    have := (h.writer t).mp ht
    simp [hout] at this
  cases l
  simp_all [free]

theorem read (h : l.Tracks hold) (hl : l.read t = some l') :
    l'.Tracks (Function.update hold t .reading) := by
  unfold RwLock.read at hl
  split at hl
  · next hnone =>
      obtain rfl := Option.some.inj hl
      have hnot : ∀ t', hold t' ≠ .writing := by
        intro t' ht'
        have := (h.writer t').mpr ht'
        simp [hnone] at this
      refine ⟨fun t' => ?_, fun t' => ?_, fun t' ht' => ?_⟩
      · by_cases ht : t' = t
        · simp [ht]
        · simp [ht, h.readers t']
      · by_cases ht : t' = t
        · simp [ht, hnone]
        · simp [ht, hnone, hnot t']
      · simp [hnone] at ht'
  · cases hl

theorem write (h : l.Tracks hold) (hl : l.write t = some l') :
    l'.Tracks (Function.update hold t .writing) := by
  unfold RwLock.write at hl
  split at hl
  · next hnone =>
      obtain rfl := Option.some.inj hl
      have hout : ∀ t', hold t' ≠ .reading ∧ hold t' ≠ .writing := by
        refine fun t' => ⟨fun ht' => ?_, fun ht' => ?_⟩
        · have := (h.readers t').mpr ht'
          simp [hnone.2] at this
        · have := (h.writer t').mpr ht'
          simp [hnone.1] at this
      refine ⟨fun t' => ?_, fun t' => ?_, fun _ _ => hnone.2⟩
      · by_cases ht : t' = t
        · simp [ht, hnone.2]
        · simp [ht, hnone.2, (hout t').1]
      · by_cases ht : t' = t
        · simp [ht]
        · simp [ht, (hout t').2, Ne.symm ht]
  · cases hl

theorem endRead (h : l.Tracks hold) (ht : hold t = .reading) :
    (l.endRead t).Tracks (Function.update hold t .outside) where
  readers t' := by
    by_cases htt : t' = t
    · simp [RwLock.endRead, htt]
    · simp [RwLock.endRead, htt, h.readers t']
  writer t' := by
    by_cases htt : t' = t
    · subst htt
      have := h.writer t'
      simp [ht] at this
      simp [RwLock.endRead, this]
    · simp [RwLock.endRead, htt, h.writer t']
  alone t' ht' := by
    have := h.alone t' ht'
    simp [RwLock.endRead, this]

theorem endWrite (h : l.Tracks hold) (ht : hold t = .writing) :
    l.endWrite.Tracks (Function.update hold t .outside) := by
  have hothers : ∀ t', t' ≠ t → hold t' = .outside := by
    intro t' htt
    by_contra hne
    exact htt (h.eq_of_writing ht hne)
  have hreaders := h.alone t ((h.writer t).mpr ht)
  refine ⟨fun t' => ?_, fun t' => ?_, fun t' ht' => ?_⟩
  · by_cases htt : t' = t
    · simp [RwLock.endWrite, htt, hreaders]
    · simp [RwLock.endWrite, htt, hreaders, hothers t' htt]
  · by_cases htt : t' = t
    · simp [RwLock.endWrite, htt]
    · simp [RwLock.endWrite, htt, hothers t' htt]
  · simp [RwLock.endWrite] at ht'

end Tracks

theorem read_free (t : Nat) : (free.read t).isSome := rfl

theorem write_free (t : Nat) : (free.write t).isSome := rfl

end RwLock

end Effect
