/-
# `CommerceOrchestrator.Persistence.Crashes` — a crash while a store is saved

A save truncates the file and writes it anew; opening a store reads its file, and takes an
unreadable one for an empty one.  Each of the two is harmless without the other.
`save_crashSafe_iff` says which crashes lose nothing.

How a value is written as JSON is left open; of what it rests on, `SerdeJson.Faithful` is all.
-/
import CommerceOrchestrator.Effect.Files
import CommerceOrchestrator.Persistence.FileBacked

namespace Orchestrator

open Effect

/-! ## Files -/

/-- How values are written and read. -/
structure SerdeJson where
  encode : (f : StoreFile) → f.Value → Text
  decode : (f : StoreFile) → Text → Except String f.Value

/-- A value is read back from its text, and the text broken off is not read at all. -/
structure SerdeJson.Faithful (json : SerdeJson) (f : StoreFile) (v : f.Value) : Prop where
  roundTrip : json.decode f (json.encode f v) = .ok v
  truncated : ∀ n < (json.encode f v).length,
    ∃ e, json.decode f ((json.encode f v).take n) = .error e

inductive IoError
  | invalidData (message : String)
deriving DecidableEq, Repr

section Files

variable (json : SerdeJson)

/-- Truncate the file, write the text, and force it to disk. -/
def saveJson (f : StoreFile) (v : f.Value) : Prog (FileOp.Ans (P := StoreFile)) Unit :=
  FileOp.ops.save f (json.encode f v)

def loadJson (disk : Disk StoreFile) (f : StoreFile) : Except IoError f.Value :=
  match disk f with
  | none => .ok f.default
  | some data => (json.decode f data).mapError .invalidData

/-- `load_json(path).await.unwrap_or_default()`. -/
def openStore (disk : Disk StoreFile) (f : StoreFile) : f.Value :=
  ((loadJson json disk f).toOption).getD f.default

/-- The stores as they are opened. -/
def openPersistentStores (disk : Disk StoreFile) : Except IoError ((f : StoreFile) → f.Value) :=
  .ok (openStore json disk)

end Files

section Opened

variable {json : SerdeJson} {disk : Disk StoreFile} {f g : StoreFile} {v : f.Value} {text : Text}

theorem openStore_of_decode (hd : disk f = some text) (h : json.decode f text = .ok v) :
    openStore json disk f = v := by
  simp only [openStore, loadJson, hd, h]
  rfl

theorem openStore_of_error {e : String} (hd : disk f = some text)
    (h : json.decode f text = .error e) : openStore json disk f = f.default := by
  simp only [openStore, loadJson, hd, h]
  rfl

theorem openStore_congr {disk' : Disk StoreFile} (h : disk' f = disk f) :
    openStore json disk' f = openStore json disk f := by
  simp only [openStore, loadJson, h]

/-- A file changes what is opened from it, and nothing else. -/
theorem openStore_update {x : Option Text} (h : openStore json (Function.update disk f x) f = v) :
    openStore json (Function.update disk f x) = Function.update (openStore json disk) f v := by
  funext g
  by_cases hg : g = f
  · subst hg
    rw [h, Function.update_self]
  · rw [Function.update_of_ne hg]
    exact openStore_congr (Function.update_of_ne hg _ _)

/-- A text that has been written up to `n` is read if it is whole. -/
theorem openStore_take (disk : Disk StoreFile) (h : json.Faithful f v) (n : Nat) :
    openStore json (Function.update disk f (some ((json.encode f v).take n))) f =
      if (json.encode f v).length ≤ n then v else f.default := by
  have hd : Function.update disk f (some ((json.encode f v).take n)) f =
      some ((json.encode f v).take n) := Function.update_self _ _ _
  by_cases hn : (json.encode f v).length ≤ n
  · rw [if_pos hn]
    refine openStore_of_decode hd ?_
    rw [List.take_of_length_le hn]
    exact h.roundTrip
  · rw [if_neg hn]
    obtain ⟨e, he⟩ := h.truncated n (Nat.not_le.mp hn)
    exact openStore_of_error hd he

end Opened

/-! ## Crashes -/

section Crashes

variable {json : SerdeJson} {disk : Disk StoreFile} {f : StoreFile} {v : f.Value} {n : Nat}

/-- After a crash at `n` steps into a save, opening the stores fails, or finds them as they
were before the save or as they are after it. -/
def CrashSafe (json : SerdeJson) (disk : Disk StoreFile) (f : StoreFile) (v : f.Value) (n : Nat) :
    Prop :=
  (∃ e, openPersistentStores json ((saveJson json f v).crashed FileOp.handle n disk) = .error e) ∨
    openPersistentStores json ((saveJson json f v).crashed FileOp.handle n disk) =
      .ok (openStore json disk) ∨
    openPersistentStores json ((saveJson json f v).crashed FileOp.handle n disk) =
      .ok (Function.update (openStore json disk) f v)

/-- What is on disk after the crash. -/
theorem saveJson_crashed : (saveJson json f v).crashed FileOp.handle n disk =
    if n = 0 then disk else Function.update disk f (some ((json.encode f v).take (n - 1))) := by
  have h := (FileOp.carries disk f).save_crashed (n := n) (json.encode f v) (disk f)
  rw [Function.update_eq_self] at h
  exact h

/-- What is opened after the crash. -/
theorem openStore_crashed (h : json.Faithful f v) :
    openStore json ((saveJson json f v).crashed FileOp.handle n disk) =
      if n = 0 then openStore json disk
      else if (json.encode f v).length < n then Function.update (openStore json disk) f v
      else Function.update (openStore json disk) f f.default := by
  rw [saveJson_crashed]
  cases n with
  | zero => rfl
  | succ n =>
      rw [if_neg (Nat.succ_ne_zero n), if_neg (Nat.succ_ne_zero n), Nat.add_sub_cancel,
        openStore_update (openStore_take disk h n)]
      by_cases hn : (json.encode f v).length ≤ n
      · rw [if_pos hn, if_pos (Nat.lt_succ_of_le hn)]
      · rw [if_neg hn, if_neg fun hlt => hn (Nat.le_of_lt_succ hlt)]

/-- **A crash in a save** loses nothing exactly if it comes before the file is truncated or
after the last byte is written, or if there was nothing in the store before or is nothing
in it after. -/
theorem save_crashSafe_iff (json : SerdeJson) (disk : Disk StoreFile) (f : StoreFile)
    (v : f.Value) (n : Nat) (h : json.Faithful f v) :
    CrashSafe json disk f v n ↔
      n = 0 ∨ (json.encode f v).length < n ∨ openStore json disk f = f.default ∨
        v = f.default := by
  have hopens : CrashSafe json disk f v n ↔
      openStore json ((saveJson json f v).crashed FileOp.handle n disk) = openStore json disk ∨
        openStore json ((saveJson json f v).crashed FileOp.handle n disk) =
          Function.update (openStore json disk) f v := by
    simp only [CrashSafe, openPersistentStores, reduceCtorEq, exists_false, false_or,
      Except.ok.injEq]
  rw [hopens, openStore_crashed h]
  by_cases hzero : n = 0
  · rw [if_pos hzero]
    exact iff_of_true (Or.inl rfl) (Or.inl hzero)
  rw [if_neg hzero, or_iff_right hzero]
  by_cases hwhole : (json.encode f v).length < n
  · rw [if_pos hwhole]
    exact iff_of_true (Or.inr rfl) (Or.inl hwhole)
  rw [if_neg hwhole, or_iff_right hwhole, Function.update_eq_self_iff]
  refine or_congr eq_comm ?_
  rw [(Function.update_injective (openStore json disk) f).eq_iff]
  exact eq_comm

end Crashes

namespace Sample

/-- The text of the inbox that has seen `m1`. -/
def inboxText : Text := "[\n  \"m1\"\n]".toList.map fun c => UInt8.ofNat c.toNat

/-- What is written and read of that inbox and of the empty one. -/
def inboxJson : SerdeJson where
  encode
    | .inbox, seen => if seen = {"m1"} then inboxText else [91, 93]
    | _, _ => []
  decode
    | .inbox, data =>
        if data = inboxText then .ok {"m1"}
        else if data = [91, 93] then .ok ∅
        else .error "EOF while parsing"
    | _, _ => .error "EOF while parsing"

def inboxDisk : Disk StoreFile := Function.update (fun _ => none) .inbox (some inboxText)

end Sample

open Sample in
theorem save_crashSafe_iff_sample :
    CrashSafe inboxJson (fun _ => none) .inbox ({"m1"} : Finset String) 5 :=
  (save_crashSafe_iff inboxJson (fun _ => none) .inbox ({"m1"} : Finset String) 5
    ⟨rfl, fun n hn => ⟨"EOF while parsing", by revert n; decide⟩⟩).mpr
    (Or.inr (Or.inr (Or.inl rfl)))

open Sample in
/-- The inbox has seen `m1` and is saved with `m2`; the process dies when the file has been
created.  It starts again, and has seen nothing. -/
theorem truncated_inbox_forgets :
    ¬ CrashSafe inboxJson inboxDisk .inbox ({"m1", "m2"} : Finset String) 1 := by
  have hafter : openStore inboxJson ((saveJson inboxJson .inbox
      ({"m1", "m2"} : Finset String)).crashed FileOp.handle 1 inboxDisk) .inbox =
      (∅ : Finset String) := rfl
  have hbefore : openStore inboxJson inboxDisk .inbox = ({"m1"} : Finset String) := rfl
  rintro (⟨e, h⟩ | h | h)
  · cases h
  · have hinbox := congrFun (Except.ok.inj h) .inbox
    rw [hafter, hbefore] at hinbox
    exact absurd hinbox (by decide)
  · have hinbox := congrFun (Except.ok.inj h) .inbox
    rw [hafter, Function.update_self] at hinbox
    exact absurd hinbox (by decide)

end Orchestrator
