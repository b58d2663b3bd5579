/-
# `CommerceOrchestrator.Effect.Files` — crashes, and files that are rewritten in place

A crash stops a procedure after some number of its operations.  A file is rewritten by
truncating it, writing the new text byte by byte, and forcing it to disk; so a crash leaves
the old text, or a prefix of the new one.
-/
import CommerceOrchestrator.Effect.Prog
import Mathlib.Logic.Function.Basic

namespace Effect

open Prog

section Procedures

variable {Op : Type} {Ans : Op → Type} {α β : Type} {W : Type}

/-! ## Crashes -/

/-- What the first `n` operations of a run leave behind. -/
def Prog.crashed (h : Handler Ans W) : Nat → Prog Ans α → W → W
  | 0, _, w => w
  | _ + 1, .ret _, w => w
  | n + 1, .op o k, w => (k (h o w).1).crashed h n (h o w).2

section Crashed

variable {h : Handler Ans W} {n : Nat} {w : W}

theorem crashed_zero {p : Prog Ans α} : p.crashed h 0 w = w := by
  cases p <;> rfl

theorem crashed_ret {a : α} : (Prog.ret a : Prog Ans α).crashed h n w = w := by
  cases n <;> rfl

theorem crashed_op {o : Op} {k : Ans o → Prog Ans α} :
    (Prog.op o k).crashed h (n + 1) w = (k (h o w).1).crashed h n (h o w).2 := rfl

/-- Where the first of two procedures has been run through, the crash is in the second. -/
theorem crashed_bind {p : Prog Ans α} {f : α → Prog Ans β} :
    (p >>= f).crashed h n w =
      if n ≤ (p.events h w).length then p.crashed h n w
      else (f (p.run h w).1).crashed h (n - (p.events h w).length) (p.run h w).2 := by
  induction p generalizing n w with
  | ret a =>
      cases n with
      | zero => exact crashed_zero
      | succ n => rfl
  | op o k ih =>
      cases n with
      | zero => rfl
      | succ n =>
          show ((k (h o w).1) >>= f).crashed h n (h o w).2 = _
          rw [ih]
          simp only [events, Prog.run, List.length_cons, Nat.add_le_add_iff_right,
            Nat.add_sub_add_right]
          rfl

/-- A crash after the last operation. -/
theorem crashed_of_length_le {p : Prog Ans α} (hn : (p.events h w).length ≤ n) :
    p.crashed h n w = (p.run h w).2 := by
  induction p generalizing n w with
  | ret a => exact crashed_ret
  | op o k ih =>
      cases n with
      | zero => exact absurd hn (Nat.not_succ_le_zero _)
      | succ n => exact ih _ (Nat.le_of_succ_le_succ hn)

theorem crashed_map {p : Prog Ans α} {f : α → β} : (f <$> p).crashed h n w = p.crashed h n w := by
  rw [map_eq_pure_bind, crashed_bind]
  by_cases hn : n ≤ (p.events h w).length
  · rw [if_pos hn]
  · rw [if_neg hn, crashed_of_length_le (Nat.le_of_not_le hn)]
    exact crashed_ret

theorem length_events_map {p : Prog Ans α} {f : α → β} :
    ((f <$> p).events h w).length = (p.events h w).length := by
  rw [map_eq_pure_bind, events_bind, List.length_append]
  rfl

/-- If the second of two procedures leaves something alone, a crash of both leaves of it what
a crash of the first does. -/
theorem crashed_bind_frame {γ : Type} (g : W → γ) {p : Prog Ans α} {f : α → Prog Ans β}
    (hf : ∀ a n w, g ((f a).crashed h n w) = g w) :
    g ((p >>= f).crashed h n w) = g (p.crashed h n w) := by
  rw [crashed_bind]
  by_cases hn : n ≤ (p.events h w).length
  · rw [if_pos hn]
  · rw [if_neg hn, hf, crashed_of_length_le (Nat.le_of_not_le hn)]

end Crashed

/-! ## Files -/

abbrev Text := List UInt8

/-- A directory: under each name a text, or no file. -/
abbrev Disk (P : Type) := P → Option Text

/-- The operations on files, among others. -/
structure FileOps (P Op : Type) where
  create : P → Op
  write : P → UInt8 → Op
  sync : P → Op

namespace FileOps

variable {P : Type} (ops : FileOps P Op)

def writeAll (p : P) : Text → Prog Ans Unit
  | [] => .ret ()
  | b :: text => .op (ops.write p b) fun _ => writeAll p text

/-- Rewrite a file. -/
def save (p : P) (text : Text) : Prog Ans Unit :=
  .op (ops.create p) fun _ =>
    ops.writeAll p text >>= fun _ => .op (ops.sync p) fun _ => .ret ()

/-- The world as it is for each text of one file. -/
structure Carries (h : Handler Ans W) (p : P) (f : Option Text → W) : Prop where
  create : ∀ x, (h (ops.create p) (f x)).2 = f (some [])
  write : ∀ text b, (h (ops.write p b) (f (some text))).2 = f (some (text ++ [b]))
  sync : ∀ x, (h (ops.sync p) (f x)).2 = f x

variable {ops} {h : Handler Ans W} {p : P} {f : Option Text → W} {n : Nat}

theorem Carries.writeAll_run (hf : ops.Carries h p f) {text done : Text} :
    ((ops.writeAll p text : Prog Ans Unit).run h (f (some done))).2 = f (some (done ++ text)) := by
  induction text generalizing done with
  | nil => rw [List.append_nil]; rfl
  | cons b text ih =>
      show ((ops.writeAll p text).run h (h (ops.write p b) (f (some done))).2).2 = _
      rw [hf.write, ih, List.append_assoc]
      rfl

theorem Carries.writeAll_crashed (hf : ops.Carries h p f) {text done : Text} :
    (ops.writeAll p text : Prog Ans Unit).crashed h n (f (some done)) =
      f (some (done ++ text.take n)) := by
  induction text generalizing n done with
  | nil => rw [writeAll, crashed_ret, List.take_nil, List.append_nil]
  | cons b text ih =>
      cases n with
      | zero => rw [crashed_zero, List.take_zero, List.append_nil]
      | succ n =>
          rw [writeAll, crashed_op, hf.write, ih, List.take_succ_cons, List.append_assoc]
          rfl

theorem length_writeAll {text : Text} {w : W} :
    ((ops.writeAll p text : Prog Ans Unit).events h w).length = text.length := by
  induction text generalizing w with
  | nil => rfl
  | cons b text ih => exact congrArg (· + 1) ih

theorem length_save {text : Text} {w : W} :
    ((ops.save p text : Prog Ans Unit).events h w).length = text.length + 2 := by
  show ((ops.writeAll p text >>= fun _ => .op (ops.sync p) fun _ => .ret ()).events h _).length + 1 = _
  rw [events_bind, List.length_append, length_writeAll]
  rfl

theorem Carries.save_run (hf : ops.Carries h p f) (text : Text) (x : Option Text) :
    ((ops.save p text : Prog Ans Unit).run h (f x)).2 = f (some text) := by
  show ((ops.writeAll p text >>= fun _ => .op (ops.sync p) fun _ => .ret ()).run h
    (h (ops.create p) (f x)).2).2 = _
  rw [hf.create, run_bind]
  show (h (ops.sync p) ((ops.writeAll p text).run h (f (some []))).2).2 = _
  rw [hf.writeAll_run, hf.sync, List.nil_append]

/-- **A crash while a file is rewritten** leaves it as it was, or a prefix of the new text. -/
theorem Carries.save_crashed (hf : ops.Carries h p f) (text : Text) (x : Option Text) :
    (ops.save p text : Prog Ans Unit).crashed h n (f x) =
      if n = 0 then f x else f (some (text.take (n - 1))) := by
  cases n with
  | zero => exact crashed_zero
  | succ n =>
      rw [if_neg (Nat.succ_ne_zero n), Nat.add_sub_cancel, save, crashed_op, hf.create, crashed_bind,
        length_writeAll]
      by_cases hn : n ≤ text.length
      · rw [if_pos hn, hf.writeAll_crashed, List.nil_append]
      · rw [if_neg hn, hf.writeAll_run, List.nil_append, List.take_of_length_le (by omega)]
        cases hm : n - text.length with
        | zero => rfl
        | succ m => rw [crashed_op, hf.sync, crashed_ret]

end FileOps

end Procedures

/-- The operations on files, and no others. -/
inductive FileOp (P : Type)
  | create (p : P)
  | write (p : P) (b : UInt8)
  | sync (p : P)

abbrev FileOp.Ans {P : Type} (_ : FileOp P) : Type := Unit

def FileOp.ops {P : Type} : FileOps P (FileOp P) where
  create := .create
  write := .write
  sync := .sync

variable {P : Type} [DecidableEq P]

def FileOp.handle : Handler (FileOp.Ans (P := P)) (Disk P)
  | .create p, d => ((), Function.update d p (some []))
  | .write p b, d => ((), Function.update d p ((d p).map (· ++ [b])))
  | .sync _, d => ((), d)

theorem FileOp.carries (d : Disk P) (p : P) :
    FileOp.ops.Carries (FileOp.handle (P := P)) p (fun x => Function.update d p x) where
  create x := by
    show Function.update (Function.update d p x) p (some []) = _
    rw [Function.update_idem]
  write text b := by
    show Function.update (Function.update d p (some text)) p _ = _
    rw [Function.update_idem, Function.update_self]
    rfl
  sync _ := rfl

end Effect
