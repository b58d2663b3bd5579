/-
# `CommerceOrchestrator.Persistence.PostgresIdempotency` — keys in a database table

The database backend of the idempotency store, statement by statement.  A
completion and a release are one statement each.  A claim is a transaction of
its own: insert an in-flight row unless there is one, read the row back, commit,
and decide by what was read.

Statements are atomic and serialised per row; between them anything may happen.
Isolation is read committed: a row that another transaction inserted is not seen
until that transaction commits, and a second insert of its key waits for it.
So the key is in a state of the specification at every moment, the one a fresh
reader would see (`PgWorld.state`), and the question is which statement of a
claim moves it.  `PgEnv.handle_moves` answers that, under `ReadsBackOwn`: the row
a claim reads back is not one that was in flight before.
-/
import CommerceOrchestrator.Runtime.Idempotency

namespace Orchestrator

open Effect Prog

/-! ## The table -/

/-- A row of the idempotency table.  Only in-flight rows are written inside a
transaction, so an uncommitted one is known by its transaction. -/
inductive PgRow
  | committed (state : IdempotencyState)
  | inserted (tx : Nat)
deriving DecidableEq

abbrev PgTable := Table String PgRow

namespace PgRow

/-- What a reader outside the row's transaction sees of it. -/
def state : PgRow → Option IdempotencyState
  | .committed state => some state
  | .inserted _ => none

/-- What the transaction `tx` sees of it. -/
def seenBy (tx : Nat) : PgRow → Option IdempotencyState
  | .committed state => some state
  | .inserted tx' => if tx' = tx then some .inFlight else none

/-- The row after `tx` has committed. -/
def commit (tx : Nat) : PgRow → PgRow
  | .committed state => .committed state
  | .inserted tx' => if tx' = tx then .committed .inFlight else .inserted tx'

end PgRow

/-- The primary key of the table. -/
def idempotencyKeyStr (key : IdempotencyKey) : String :=
  key.tenantId ++ "|" ++ key.merchantId ++ "|" ++ key.key

/-! ## Statements -/

/-- The statements of the store, and everything the runner does elsewhere. -/
inductive PgOp
  | beginTx
  -- INSERT (key, InFlight) ON CONFLICT DO NOTHING
  | insertInFlight (k : String)
  -- SELECT state WHERE key
  | selectState (k : String)
  | commitTx
  -- a transaction that is dropped rolls back
  | rollbackTx
  -- INSERT (key, Completed) ON CONFLICT DO UPDATE
  | upsertCompleted (k : String) (result : TransactionResult)
  -- DELETE WHERE key AND state = InFlight
  | deleteInFlight (k : String)
  | other (o : Op)

abbrev PgOp.Ans : PgOp → Type
  | .beginTx | .insertInFlight _ | .commitTx => Except StoreError Unit
  | .selectState _ => Except StoreError (Option IdempotencyState)
  | .rollbackTx => Unit
  | .upsertCompleted .. | .deleteInFlight _ => Except StoreError Unit
  | .other o => o.Ans

/-- Fallible procedures over the database. -/
abbrev PgRun := ExceptT StoreError (Prog PgOp.Ans)

/-! ## The store -/

namespace PostgresIdempotencyStore

/-- `fetch_one` found no row. -/
def rowNotFound : StoreError where
  message := "no rows returned by a query that expected to return at least one row"
  tookEffect := false

def beginTx : PgRun Unit := ExceptT.mk (perform PgOp.beginTx)

def insertInFlight (k : String) : PgRun Unit := ExceptT.mk (perform (PgOp.insertInFlight k))

def selectState (k : String) : PgRun IdempotencyState := do
  let row : Option IdempotencyState ← ExceptT.mk (perform (PgOp.selectState k))
  match row with
  | some state => pure state
  | none => throw rowNotFound

def commitTx : PgRun Unit := ExceptT.mk (perform PgOp.commitTx)

/-- A transaction is dropped at the first error inside it. -/
def dropOnError {α : Type} (p : PgRun α) : PgRun α :=
  ExceptT.mk do
    match ← p.run with
    | .ok a => pure (.ok a)
    | .error e =>
      perform PgOp.rollbackTx
      pure (.error e)

/-- The caller of a claim may go on if it read back an in-flight row. -/
def answer : IdempotencyState → Option IdempotencyState
  | .inFlight => none
  | .completed result => some (.completed result)

def claim (key : IdempotencyKey) : PgRun (Option IdempotencyState) := do
  let k := idempotencyKeyStr key
  beginTx
  let state ← dropOnError do
    insertInFlight k
    let state ← selectState k
    commitTx
    pure state
  pure (answer state)

def complete (key : IdempotencyKey) (result : TransactionResult) : PgRun Unit :=
  ExceptT.mk (perform (PgOp.upsertCompleted (idempotencyKeyStr key) result))

def release (key : IdempotencyKey) : PgRun Unit :=
  ExceptT.mk (perform (PgOp.deleteInFlight (idempotencyKeyStr key)))

end PostgresIdempotencyStore

/-- How an operation of the runner is carried out over the database. -/
def Op.overPostgres : (o : Op) → Prog PgOp.Ans o.Ans
  | .claim key => (PostgresIdempotencyStore.claim key).run
  | .complete key result => (PostgresIdempotencyStore.complete key result).run
  | .release key => (PostgresIdempotencyStore.release key).run
  | o => perform (PgOp.other o)

/-! ## The database -/

/-- The idempotency table, and the world of everything else. -/
structure PgWorld where
  base : World
  rows : PgTable

/-- What the program does not decide: also which statements fail. -/
structure PgEnv extends Env where
  statementFault : (n : Nat) → PgOp → Option StoreError

/-- A statement that may fail, with or without taking effect. -/
def PgWorld.attempt {α : Type} (w : PgWorld) (fault : Option StoreError)
    (f : PgTable → α × PgTable) : Except StoreError α × PgWorld :=
  match fault with
  | none => (.ok (f w.rows).1, ⟨w.base.tick, (f w.rows).2⟩)
  | some e => (.error e, ⟨w.base.tick, if e.tookEffect then (f w.rows).2 else w.rows⟩)

/-- A statement waits while another transaction holds an uncommitted row it would
write to. -/
def PgOp.waits (tx : Nat) (rows : PgTable) : PgOp → Bool
  | .insertInFlight k =>
      match rows.lookup k with
      | some (.inserted tx') => tx' ≠ tx
      | _ => false
  | .upsertCompleted k _ =>
      match rows.lookup k with
      | some (.inserted _) => true
      | _ => false
  | _ => false

/-- Carry out a statement in the transaction `tx`, or, for the last three, on its own. -/
def PgEnv.exec (env : PgEnv) (tx : Nat) : Handler PgOp.Ans PgWorld := fun o w =>
  let fault := env.statementFault w.base.clock o
  match o with
  | .beginTx => w.attempt fault fun rows => ((), rows)
  | .insertInFlight k =>
      w.attempt fault fun rows =>
        ((), if (rows.lookup k).isSome then rows else rows.insert k (.inserted tx))
  | .selectState k => w.attempt fault fun rows => ((rows.lookup k).bind (PgRow.seenBy tx), rows)
  | .commitTx => w.attempt fault fun rows => ((), rows.mapValues fun _ => PgRow.commit tx)
  | .rollbackTx => ((), ⟨w.base.tick, w.rows.keep fun _ row => row ≠ .inserted tx⟩)
  | .upsertCompleted k result =>
      w.attempt fault fun rows => ((), rows.insert k (.committed (.completed result)))
  | .deleteInFlight k =>
      w.attempt fault fun rows =>
        ((), if rows.lookup k = some (.committed .inFlight) then rows.erase k else rows)
  | .other o => ((env.toEnv.handle o w.base).1, ⟨(env.toEnv.handle o w.base).2, w.rows⟩)

/-- Every thread has its own connection, so a thread is a transaction. -/
def PgEnv.handle (env : PgEnv) : SharedHandler PgOp.Ans PgWorld := fun tx o w =>
  if o.waits tx w.rows then none else some (env.exec tx o w)

variable {env : PgEnv} {w w' : PgWorld} {tx : Nat}

theorem PgEnv.handle_eq_some {o : PgOp} {x : o.Ans} :
    env.handle tx o w = some (x, w') ↔
      o.waits tx w.rows = false ∧ (env.exec tx o w).1 = x ∧ (env.exec tx o w).2 = w' := by
  rw [PgEnv.handle]
  cases o.waits tx w.rows <;> simp [Prod.ext_iff]

/-- The table after a statement, given its answer. -/
theorem PgWorld.attempt_rows {α : Type} (w : PgWorld) (fault : Option StoreError)
    (f : PgTable → α × PgTable) :
    (w.attempt fault f).2.rows =
      if tookHold (w.attempt fault f).1 then (f w.rows).2 else w.rows := by
  cases fault <;> rfl

theorem PgWorld.attempt_ok {α : Type} {fault : Option StoreError} {f : PgTable → α × PgTable}
    {a : α} (h : (w.attempt fault f).1 = .ok a) : a = (f w.rows).1 := by
  cases fault with
  | none => exact (Except.ok.inj h).symm
  | some e => cases h

/-- The state of a key, as a fresh reader sees it. -/
def PgWorld.state (w : PgWorld) (key : IdempotencyKey) : Option IdempotencyState :=
  (w.rows.lookup (idempotencyKeyStr key)).bind PgRow.state

/-! ## One claim, statement by statement -/

/-- How far the transaction of a claim has come. -/
inductive Tx
  | idle
  | begun
  | inserted
  | seen (state : IdempotencyState)
  | failed (e : StoreError)

section Monitor

variable {Q : Type}

open PostgresIdempotencyStore in
/-- A monitor of the operations of the runner, moved to the statements that carry
them out: a claim takes a transaction, everything else one statement. -/
def transacted (key : IdempotencyKey) (M : Monitor Op.Ans Q) : Monitor PgOp.Ans (Q × Tx) where
  allow o q :=
    match o, q.2 with
    | .beginTx, .idle => M.allow (.claim key) q.1
    | .insertInFlight k, .begun => M.allow (.claim key) q.1 ∧ k = idempotencyKeyStr key
    | .selectState k, .inserted => M.allow (.claim key) q.1 ∧ k = idempotencyKeyStr key
    | .commitTx, .seen _ => M.allow (.claim key) q.1
    | .rollbackTx, .failed _ => M.allow (.claim key) q.1
    | .upsertCompleted k result, .idle =>
        M.allow (.complete key result) q.1 ∧ k = idempotencyKeyStr key
    | .deleteInFlight k, .idle => M.allow (.release key) q.1 ∧ k = idempotencyKeyStr key
    | .other o, .idle => M.allow o q.1 ∧ o.onKey = none
    | _, _ => False
  next o q x :=
    match o, x, q.2 with
    | .beginTx, .ok _, _ => (q.1, .begun)
    | .beginTx, .error e, _ => (M.next (.claim key) q.1 (.error e), .idle)
    | .insertInFlight _, .ok _, _ => (q.1, .inserted)
    | .insertInFlight _, .error e, _ => (q.1, .failed e)
    | .selectState _, .ok (some state), _ => (q.1, .seen state)
    | .selectState _, .ok none, _ => (q.1, .failed rowNotFound)
    | .selectState _, .error e, _ => (q.1, .failed e)
    | .commitTx, .ok _, .seen state => (M.next (.claim key) q.1 (.ok (answer state)), .idle)
    | .commitTx, .error e, _ => (q.1, .failed e)
    | .rollbackTx, _, .failed e => (M.next (.claim key) q.1 (.error e), .idle)
    | .upsertCompleted _ result, x, _ => (M.next (.complete key result) q.1 x, .idle)
    | .deleteInFlight _, x, _ => (M.next (.release key) q.1 x, .idle)
    | .other o, x, _ => (M.next o q.1 x, .idle)
    | _, _, _ => q

variable {M : Monitor Op.Ans Q} {key : IdempotencyKey}

/-- The monitored procedure works on no other key. -/
def OnlyOn (key : IdempotencyKey) (M : Monitor Op.Ans Q) : Prop :=
  ∀ o q, M.allow o q → o.onKey = none ∨ o.onKey = some key

/-- Every operation is carried out within the moved monitor. -/
theorem Op.overPostgres_follows (hkey : OnlyOn key M) (hrely : ∀ o q x, M.rely o q x)
    (o : Op) (q : Q) (ho : M.allow o q) :
    o.overPostgres.Follows (transacted key M)
      (fun x q' => M.rely o q x ∧ q' = (M.next o q x, .idle)) (q, .idle) := by
  have hkeyed := hkey o q ho
  cases o with
  | claim key' =>
      obtain rfl : key' = key := by simpa [Op.onKey] using hkeyed
      refine ⟨ho, fun x _ => ?_⟩
      cases x with
      | error e => exact ⟨hrely _ _ _, rfl⟩
      | ok u =>
          refine ⟨⟨ho, rfl⟩, fun x _ => ?_⟩
          cases x with
          | error e => exact ⟨ho, fun _ _ => ⟨hrely _ _ _, rfl⟩⟩
          | ok u =>
              refine ⟨⟨ho, rfl⟩, fun x _ => ?_⟩
              match x with
              | .error e => exact ⟨ho, fun _ _ => ⟨hrely _ _ _, rfl⟩⟩
              | .ok none => exact ⟨ho, fun _ _ => ⟨hrely _ _ _, rfl⟩⟩
              | .ok (some state) =>
                  refine ⟨ho, fun x _ => ?_⟩
                  cases x with
                  | error e => exact ⟨ho, fun _ _ => ⟨hrely _ _ _, rfl⟩⟩
                  | ok u => exact ⟨hrely _ _ _, rfl⟩
  | complete key' result =>
      obtain rfl : key' = key := by simpa [Op.onKey] using hkeyed
      exact ⟨⟨ho, rfl⟩, fun x _ => ⟨hrely _ _ _, rfl⟩⟩
  | release key' =>
      obtain rfl : key' = key := by simpa [Op.onKey] using hkeyed
      exact ⟨⟨ho, rfl⟩, fun x _ => ⟨hrely _ _ _, rfl⟩⟩
  | _ => exact ⟨⟨ho, rfl⟩, fun x _ => ⟨hrely _ _ _, rfl⟩⟩

/-- A procedure that follows a monitor follows the moved one over the database. -/
theorem lower_follows {α : Type} {post : α → Q → Prop} {p : Eff α} {q : Q}
    (hkey : OnlyOn key M) (hrely : ∀ o q x, M.rely o q x) (h : p.Follows M post q) :
    (p.lower Op.overPostgres).Follows (transacted key M)
      (fun a q' => ∃ q, q' = (q, .idle) ∧ post a q) (q, .idle) :=
  h.lower (fun q => (q, Tx.idle)) fun o q ho => Op.overPostgres_follows hkey hrely o q ho

end Monitor

/-! ## One statement, one row -/

/-- What a statement that takes hold makes of the row under `k`. -/
def PgOp.effect (tx : Nat) (k : String) : PgOp → Option PgRow → Option PgRow
  | .insertInFlight k', row => if k = k' ∧ row = none then some (.inserted tx) else row
  | .commitTx, row => row.map (PgRow.commit tx)
  | .rollbackTx, row => row.filter (· ≠ .inserted tx)
  | .upsertCompleted k' result, row =>
      if k = k' then some (.committed (.completed result)) else row
  | .deleteInFlight k', row => if k = k' ∧ row = some (.committed .inFlight) then none else row
  | _, row => row

/-- The statement took hold: it was answered, or failed after taking effect. -/
def PgOp.held : (o : PgOp) → o.Ans → Bool
  | .insertInFlight _, x | .commitTx, x | .upsertCompleted .., x | .deleteInFlight _, x =>
      tookHold x
  | _, _ => true

theorem PgEnv.exec_lookup (env : PgEnv) (tx : Nat) (w : PgWorld) (o : PgOp) (k : String) :
    (env.exec tx o w).2.rows.lookup k =
      if o.held (env.exec tx o w).1 then o.effect tx k (w.rows.lookup k)
      else w.rows.lookup k := by
  have hattempt : ∀ {α : Type} (fault : Option StoreError) (f : PgTable → α × PgTable),
      (w.attempt fault f).2.rows.lookup k =
        if tookHold (w.attempt fault f).1 then (f w.rows).2.lookup k else w.rows.lookup k := by
    intro α fault f
    rw [PgWorld.attempt_rows]
    exact apply_ite (fun rows : PgTable => rows.lookup k) _ _ _
  have hsame : ∀ {α : Type} (fault : Option StoreError) (f : PgTable → α × PgTable),
      (f w.rows).2 = w.rows → (w.attempt fault f).2.rows.lookup k = w.rows.lookup k := by
    intro α fault f hf
    rw [hattempt, hf, ite_self]
  cases o with
  | beginTx => exact hsame _ _ rfl
  | selectState k' => exact hsame _ _ rfl
  | other o => rfl
  | rollbackTx => exact Table.lookup_keep _ _ _
  | commitTx =>
      refine (hattempt _ _).trans ?_
      rw [Table.lookup_mapValues]
      rfl
  | insertInFlight k' =>
      refine (hattempt _ _).trans (if_congr Iff.rfl ?_ rfl)
      show (if (w.rows.lookup k').isSome then w.rows else _).lookup k = if _ then _ else _
      cases hrow : w.rows.lookup k' with
      | some row =>
          rw [Option.isSome_some, if_pos rfl, if_neg]
          rintro ⟨rfl, hnone⟩
          cases hrow.symm.trans hnone
      | none =>
          rw [Option.isSome_none, if_neg Bool.false_ne_true, Table.lookup_insert_ite]
          by_cases hk : k = k'
          · subst hk
            rw [if_pos rfl, if_pos ⟨rfl, hrow⟩]
          · rw [if_neg hk, if_neg fun h => hk h.1]
  | upsertCompleted k' result =>
      refine (hattempt _ _).trans (if_congr Iff.rfl ?_ rfl)
      exact Table.lookup_insert_ite _ _ _ _
  | deleteInFlight k' =>
      refine (hattempt _ _).trans (if_congr Iff.rfl ?_ rfl)
      show (if w.rows.lookup k' = some (.committed .inFlight) then _ else w.rows).lookup k =
        if _ then _ else _
      by_cases hrow : w.rows.lookup k' = some (.committed .inFlight)
      · rw [if_pos hrow, Table.lookup_erase_ite]
        by_cases hk : k = k'
        · subst hk
          rw [if_pos rfl, if_pos ⟨rfl, hrow⟩]
        · rw [if_neg hk, if_neg fun h => hk h.1]
      · rw [if_neg hrow, if_neg]
        rintro ⟨rfl, h⟩
        exact hrow h

/-! ## A claim against its row -/

/-- What a transaction that has read its row back can rely on. -/
def Tx.Agrees (t : Nat) (row : Option PgRow) : Tx → Prop
  | .seen .inFlight => row = some (.inserted t)
  | .seen (.completed _) => ∃ result, row = some (.committed (.completed result))
  | _ => True

/-- No statement of another transaction takes that away. -/
theorem Tx.Agrees.exec {c : Tx} {t : Nat} {o : PgOp} {k : String} (hne : t ≠ tx)
    (hwait : o.waits tx w.rows = false) (hc : c.Agrees t (w.rows.lookup k)) :
    c.Agrees t ((env.exec tx o w).2.rows.lookup k) := by
  rw [PgEnv.exec_lookup]
  split
  swap
  · exact hc
  match c, hc with
  | .seen .inFlight, hc =>
      have hrow : w.rows.lookup k = some (.inserted t) := hc
      show o.effect tx k (w.rows.lookup k) = some (.inserted t)
      rw [hrow]
      cases o with
      | insertInFlight k' => simp [PgOp.effect]
      | commitTx => simp [PgOp.effect, PgRow.commit, hne]
      | rollbackTx => simp [PgOp.effect, hne]
      | upsertCompleted k' result =>
          -- a completion waits for the row
          have hk : k ≠ k' := by
            rintro rfl
            rw [PgOp.waits, hrow] at hwait
            cases hwait
          simp [PgOp.effect, hk]
      | deleteInFlight k' => simp [PgOp.effect]
      | _ => rfl
  | .seen (.completed _), hc =>
      obtain ⟨result, hrow⟩ : ∃ result, w.rows.lookup k = some (.committed (.completed result)) := hc
      show ∃ result, o.effect tx k (w.rows.lookup k) = some (.committed (.completed result))
      rw [hrow]
      cases o with
      | insertInFlight k' => simp [PgOp.effect]
      | commitTx => simp [PgOp.effect, PgRow.commit]
      | rollbackTx => simp [PgOp.effect]
      | upsertCompleted k' result' =>
          by_cases hk : k = k' <;> simp [PgOp.effect, hk]
      | deleteInFlight k' => simp [PgOp.effect]
      | _ => exact ⟨result, rfl⟩
  | .idle, _ => trivial
  | .begun, _ => trivial
  | .inserted, _ => trivial
  | .failed _, _ => trivial

/-- A claim that reads its row back does not read one that was in flight before it:
the row is free or completed, or its own. -/
def ReadsBackOwn (_ : Nat) : PgOp → PgWorld → Prop
  | .selectState k, w => w.rows.lookup k ≠ some (.committed .inFlight)
  | _, _ => True

instance {t : Nat} {o : PgOp} : Decidable (ReadsBackOwn t o w) := by
  unfold ReadsBackOwn
  split <;> infer_instance

/-- The operation of the runner that a statement carries out in full.  A claim is
carried out by no single statement. -/
def performed (key : IdempotencyKey) : Event PgOp.Ans → Option (Event Op.Ans)
  | ⟨.upsertCompleted _ result, x⟩ => some ⟨.complete key result, x⟩
  | ⟨.deleteInFlight _, x⟩ => some ⟨.release key, x⟩
  | ⟨.other o, x⟩ => some ⟨o, x⟩
  | _ => none

/-- What one statement is in terms of the specification: a step inside a claim, a
claim that takes effect before it fails, the end of a claim, or an operation. -/
inductive Moves {Q : Type} (M : Monitor Op.Ans Q) (key : IdempotencyKey) (q : Q) (c : Tx)
    (s : Option IdempotencyState) :
    Option (Event Op.Ans) → Q → Option IdempotencyState → Prop
  | inside : M.allow (.claim key) q → Moves M key q c s none q s
  | leaked : M.allow (.claim key) q → s = none → Moves M key q c s none q (some .inFlight)
  | claimed (x : Except StoreError (Option IdempotencyState)) (s' : Option IdempotencyState) :
      M.allow (.claim key) q → KeyStep key ⟨.claim key, x⟩ s s' →
      (∀ result, x = .ok (some (.completed result)) → c = .seen (.completed result)) →
      Moves M key q c s none (M.next (.claim key) q x) s'
  | performed (e : Event Op.Ans) (s' : Option IdempotencyState) :
      M.allow e.1 q → e.1 ≠ .claim key → KeyStep key e s s' →
      Moves M key q c s (some e) (M.next e.1 q e.2) s'

section Moves

variable {Q : Type} {M : Monitor Op.Ans Q} {key : IdempotencyKey} {q : Q} {c : Tx} {o : PgOp}

theorem PgEnv.exec_state :
    ((env.exec tx o w).2).state key =
      (if o.held (env.exec tx o w).1 then
        o.effect tx (idempotencyKeyStr key) (w.rows.lookup (idempotencyKeyStr key))
      else w.rows.lookup (idempotencyKeyStr key)).bind PgRow.state := by
  rw [PgWorld.state, PgEnv.exec_lookup]

/-- A statement that leaves every row alone. -/
theorem PgEnv.exec_state_of_effect
    (h : ∀ row, o.effect tx (idempotencyKeyStr key) row = row) :
    ((env.exec tx o w).2).state key = w.state key := by
  rw [PgEnv.exec_state, h, ite_self]
  rfl

/-- An insert that is not yet committed is seen by nobody else. -/
theorem PgEnv.exec_insertInFlight_state {k : String} :
    ((env.exec tx (.insertInFlight k) w).2).state key = w.state key := by
  rw [PgEnv.exec_state, PgWorld.state]
  cases hrow : w.rows.lookup (idempotencyKeyStr key) with
  | some row => simp [PgOp.effect]
  | none =>
      by_cases hk : idempotencyKeyStr key = k
      · split <;> simp [PgOp.effect, hk, PgRow.state]
      · split <;> simp [PgOp.effect, hk]

theorem PgEnv.exec_rollbackTx_state :
    ((env.exec tx .rollbackTx w).2).state key = w.state key := by
  rw [PgEnv.exec_state, PgWorld.state]
  cases w.rows.lookup (idempotencyKeyStr key) with
  | none => rfl
  | some row =>
      cases row with
      | committed state => rfl
      | inserted tx' => by_cases hne : tx' = tx <;> simp [PgOp.held, PgOp.effect, PgRow.state, hne]

theorem PgEnv.exec_upsertCompleted_state {result : TransactionResult} :
    ((env.exec tx (.upsertCompleted (idempotencyKeyStr key) result) w).2).state key =
      if tookHold (env.exec tx (.upsertCompleted (idempotencyKeyStr key) result) w).1 then
        some (.completed result)
      else w.state key := by
  rw [PgEnv.exec_state, PgWorld.state, PgOp.effect, if_pos rfl]
  exact apply_ite (fun row : Option PgRow => row.bind PgRow.state) _ _ _

theorem PgEnv.exec_deleteInFlight_state :
    ((env.exec tx (.deleteInFlight (idempotencyKeyStr key)) w).2).state key =
      if tookHold (env.exec tx (.deleteInFlight (idempotencyKeyStr key)) w).1 ∧
          w.state key = some .inFlight then none
      else w.state key := by
  rw [PgEnv.exec_state, PgWorld.state, PgOp.held, PgOp.effect]
  cases w.rows.lookup (idempotencyKeyStr key) with
  | none => simp
  | some row =>
      cases row with
      | inserted tx' => simp [PgRow.state]
      | committed state =>
          by_cases hs : state = .inFlight
          · subst hs
            cases tookHold (env.exec tx (.deleteInFlight (idempotencyKeyStr key)) w).1 <;>
              simp [PgRow.state]
          · simp [PgRow.state, hs]

/-- The commit of a claim that has read its row back. -/
theorem PgEnv.exec_commitTx_state {state : IdempotencyState}
    (hc : (Tx.seen state).Agrees tx (w.rows.lookup (idempotencyKeyStr key))) :
    ((env.exec tx .commitTx w).2).state key =
      if tookHold (env.exec tx .commitTx w).1 then some ((w.state key).getD .inFlight)
      else w.state key := by
  rw [PgEnv.exec_state, PgWorld.state, PgOp.held, PgOp.effect]
  cases state with
  | inFlight =>
      have hrow : w.rows.lookup (idempotencyKeyStr key) = some (.inserted tx) := hc
      rw [hrow]
      split <;> simp [PgRow.state, PgRow.commit]
  | completed result =>
      obtain ⟨result', hrow⟩ :
        ∃ result, w.rows.lookup (idempotencyKeyStr key) = some (.committed (.completed result)) := hc
      rw [hrow]
      split <;> rfl

/-- What the state of the key is when a claim has read its row back. -/
theorem Tx.Agrees.keyStep {state : IdempotencyState}
    (hc : (Tx.seen state).Agrees tx (w.rows.lookup (idempotencyKeyStr key))) :
    KeyStep key ⟨.claim key, .ok (PostgresIdempotencyStore.answer state)⟩ (w.state key)
      (some ((w.state key).getD .inFlight)) := by
  rw [PgWorld.state]
  cases state with
  | inFlight =>
      have hrow : w.rows.lookup (idempotencyKeyStr key) = some (.inserted tx) := hc
      rw [hrow]
      exact .granted
  | completed result =>
      obtain ⟨result', hrow⟩ :
        ∃ result, w.rows.lookup (idempotencyKeyStr key) = some (.committed (.completed result)) := hc
      rw [hrow]
      exact .replayed result result'

/-- The row a claim reads back. -/
theorem PgEnv.exec_selectState_agrees {k : String} {state : IdempotencyState}
    (hx : (env.exec tx (.selectState k) w).1 = .ok (some state))
    (hread : ReadsBackOwn tx (.selectState k) w) :
    (Tx.seen state).Agrees tx (w.rows.lookup k) := by
  have hseen : (w.rows.lookup k).bind (PgRow.seenBy tx) = some state := (PgWorld.attempt_ok hx).symm
  have hread : w.rows.lookup k ≠ some (.committed .inFlight) := hread
  obtain ⟨row, hrow, hstate⟩ := Option.bind_eq_some_iff.mp hseen
  cases row with
  | committed state' =>
      obtain rfl := Option.some.inj hstate
      cases state' with
      | inFlight => exact absurd hrow hread
      | completed result => exact ⟨result, hrow⟩
  | inserted tx' =>
      rw [PgRow.seenBy] at hstate
      split at hstate
      · next heq =>
          obtain rfl := Option.some.inj hstate
          exact heq ▸ hrow
      · cases hstate

/-- **The simulation.**  Over the database every statement a monitored procedure
performs is, in terms of the specification, what `Moves` says, as long as claims
read back their own rows. -/
theorem PgEnv.exec_moves (env : PgEnv) (hread : ReadsBackOwn tx o w)
    (ho : (transacted key M).allow o (q, c))
    (hc : c.Agrees tx (w.rows.lookup (idempotencyKeyStr key))) :
    ((transacted key M).next o (q, c) (env.exec tx o w).1).2.Agrees tx
        ((env.exec tx o w).2.rows.lookup (idempotencyKeyStr key)) ∧
      Moves M key q c (w.state key) (performed key ⟨o, (env.exec tx o w).1⟩)
        ((transacted key M).next o (q, c) (env.exec tx o w).1).1
        ((env.exec tx o w).2.state key) := by
  cases o with
  | beginTx =>
      cases c with
      | idle =>
          have hs : ((env.exec tx .beginTx w).2).state key = w.state key :=
            PgEnv.exec_state_of_effect fun _ => rfl
          rw [hs]
          cases (env.exec tx .beginTx w).1 with
          | ok u => exact ⟨trivial, .inside ho⟩
          | error e =>
              exact ⟨trivial, .claimed (.error e) _ ho (.unanswered e) fun _ h => by cases h⟩
      | begun | inserted | seen | failed => exact ho.elim
  | insertInFlight k =>
      cases c with
      | begun =>
          rw [PgEnv.exec_insertInFlight_state]
          cases (env.exec tx (.insertInFlight k) w).1 with
          | ok u => exact ⟨trivial, .inside ho.1⟩
          | error e => exact ⟨trivial, .inside ho.1⟩
      | idle | inserted | seen | failed => exact ho.elim
  | selectState k =>
      cases c with
      | inserted =>
          obtain ⟨ho, rfl⟩ := ho
          have hs : ((env.exec tx (.selectState (idempotencyKeyStr key)) w).2).state key =
              w.state key := PgEnv.exec_state_of_effect fun _ => rfl
          have hrow := PgEnv.exec_lookup env tx w
            (.selectState (idempotencyKeyStr key)) (idempotencyKeyStr key)
          rw [hs, hrow]
          match hx : (env.exec tx (.selectState (idempotencyKeyStr key)) w).1 with
          | .error e => exact ⟨trivial, .inside ho⟩
          | .ok none => exact ⟨trivial, .inside ho⟩
          | .ok (some state) => exact ⟨PgEnv.exec_selectState_agrees hx hread, .inside ho⟩
      | idle | begun | seen | failed => exact ho.elim
  | commitTx =>
      cases c with
      | seen state =>
          rw [PgEnv.exec_commitTx_state hc]
          cases (env.exec tx .commitTx w).1 with
          | ok u =>
              refine ⟨trivial, .claimed (.ok _) _ ho hc.keyStep fun result hres => ?_⟩
              cases state with
              | inFlight => cases hres
              | completed result' =>
                  cases hres
                  rfl
          | error e =>
              refine ⟨trivial, ?_⟩
              rw [tookHold_error]
              cases e.tookEffect with
              | false => exact .inside ho
              | true =>
                  cases hs : w.state key with
                  | none => exact .leaked ho rfl
                  | some state => exact .inside ho
      | idle | begun | inserted | failed => exact ho.elim
  | rollbackTx =>
      cases c with
      | failed e =>
          rw [PgEnv.exec_rollbackTx_state]
          exact ⟨trivial, .claimed (.error e) _ ho (.unanswered e) fun _ h => by cases h⟩
      | idle | begun | inserted | seen => exact ho.elim
  | upsertCompleted k result =>
      cases c with
      | idle =>
          obtain ⟨ho, rfl⟩ := ho
          rw [PgEnv.exec_upsertCompleted_state]
          exact ⟨trivial,
            .performed ⟨.complete key result, _⟩ _ ho (fun h => by cases h) .of_complete⟩
      | begun | inserted | seen | failed => exact ho.elim
  | deleteInFlight k =>
      cases c with
      | idle =>
          obtain ⟨ho, rfl⟩ := ho
          rw [PgEnv.exec_deleteInFlight_state]
          exact ⟨trivial, .performed ⟨.release key, _⟩ _ ho (fun h => by cases h) .of_release⟩
      | begun | inserted | seen | failed => exact ho.elim
  | other o =>
      cases c with
      | idle =>
          have hs : ((env.exec tx (.other o) w).2).state key = w.state key := rfl
          rw [hs]
          refine ⟨trivial, .performed ⟨o, _⟩ _ ho.1 ?_ (.elsewhere _ ?_)⟩
          · rintro rfl
            cases ho.2
          · rw [ho.2]
            exact nofun
      | begun | inserted | seen | failed => exact ho.elim

/-- Only reading the row back leads to having seen it. -/
theorem transacted_seen {x : o.Ans} {state : IdempotencyState}
    (ho : (transacted key M).allow o (q, c))
    (hseen : ((transacted key M).next o (q, c) x).2 = .seen state) :
    (⟨o, x⟩ : Event PgOp.Ans) = ⟨.selectState (idempotencyKeyStr key), .ok (some state)⟩ := by
  cases o with
  | selectState k =>
      cases c with
      | inserted =>
          obtain ⟨-, rfl⟩ := ho
          match x with
          | .error e => cases hseen
          | .ok none => cases hseen
          | .ok (some state') =>
              cases hseen
              rfl
      | idle | begun | seen | failed => exact ho.elim
  | beginTx => cases x <;> cases hseen
  | insertInFlight k => cases x <;> cases hseen
  | commitTx =>
      cases c with
      | seen state' => cases x <;> cases hseen
      | idle | begun | inserted | failed => exact ho.elim
  | rollbackTx =>
      cases c with
      | failed e => cases hseen
      | idle | begun | inserted | seen => exact ho.elim
  | upsertCompleted | deleteInFlight | other => cases hseen

/-- A claim that has read a completion back has read the state of the key. -/
theorem PgEnv.exec_seen_completed {result : TransactionResult}
    (ho : (transacted key M).allow o (q, c))
    (hseen : ((transacted key M).next o (q, c) (env.exec tx o w).1).2 = .seen (.completed result)) :
    ((env.exec tx o w).2).state key = some (.completed result) := by
  obtain ⟨rfl, hx⟩ := Sigma.mk.inj_iff.mp (transacted_seen ho hseen)
  have hs : ((env.exec tx (.selectState (idempotencyKeyStr key)) w).2).state key = w.state key :=
    PgEnv.exec_state_of_effect fun _ => rfl
  have hrow : (w.rows.lookup (idempotencyKeyStr key)).bind (PgRow.seenBy tx) =
      some (.completed result) := (PgWorld.attempt_ok (eq_of_heq hx)).symm
  rw [hs, PgWorld.state]
  obtain ⟨row, hlookup, hstate⟩ := Option.bind_eq_some_iff.mp hrow
  rw [hlookup]
  cases row with
  | committed state => exact hstate
  | inserted tx' =>
      rw [PgRow.seenBy] at hstate
      split at hstate <;> cases hstate

end Moves

end Orchestrator
