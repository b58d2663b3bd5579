/-
# `CommerceOrchestrator.Persistence.KeyEncoding` — idempotency keys as strings

Both durable backends file a key under its three parts joined with `|`.  The parts come
from callers and may contain the separator, and then two keys share a string and so a
state: the claim of one tenant is answered with what another tenant did.  A key is safe
exactly if none of its parts contains the separator.
-/
import CommerceOrchestrator.Persistence.FileBacked
import CommerceOrchestrator.Persistence.Replicas

namespace Orchestrator

open Effect Prog

/-- No other key has the string of `key`. -/
def KnownBy (str : IdempotencyKey → String) (key : IdempotencyKey) : Prop :=
  ∀ key', str key' = str key → key' = key

/-- The call that puts `state` under a key. -/
def IdempotencyState.origin (key : IdempotencyKey) : IdempotencyState → IdempotencyKey × KeyCall
  | .inFlight => (key, .claim)
  | .completed result => (key, .complete result)

variable {key key' : IdempotencyKey}

/-! ## The strings -/

/-- A bar in a part can be taken for a separator. -/
theorem exists_ne_of_not_barFree (h : ¬ key.BarFree) :
    ∃ key', key' ≠ key ∧ idempotencyKeyStr key' = idempotencyKeyStr key := by
  have split {s : String} (hs : '|' ∈ s.toList) : ∃ a b, s = a ++ "|" ++ b := by
    obtain ⟨a, b, hab⟩ := List.append_of_mem hs
    refine ⟨String.ofList a, String.ofList b, String.toList_inj.mp ?_⟩
    simpa using hab
  have hone : "|".length = 1 := rfl
  obtain ⟨t, m, k⟩ := key
  by_cases ht : '|' ∈ t.toList
  · obtain ⟨a, b, rfl⟩ := split ht
    refine ⟨⟨a, b ++ "|" ++ m, k⟩, fun heq => ?_, ?_⟩
    · have hlen := congrArg (fun key => key.tenantId.length) heq
      simp only [String.length_append] at hlen
      omega
    · simp [idempotencyKeyStr, String.append_assoc]
  · by_cases hm : '|' ∈ m.toList
    · obtain ⟨a, b, rfl⟩ := split hm
      refine ⟨⟨t ++ "|" ++ a, b, k⟩, fun heq => ?_, ?_⟩
      · have hlen := congrArg (fun key => key.tenantId.length) heq
        simp only [String.length_append] at hlen
        omega
      · simp [idempotencyKeyStr, String.append_assoc]
    · by_cases hk : '|' ∈ k.toList
      · obtain ⟨a, b, rfl⟩ := split hk
        refine ⟨⟨t, m ++ "|" ++ a, b⟩, fun heq => ?_, ?_⟩
        · have hlen := congrArg (fun key => key.merchantId.length) heq
          simp only [String.length_append] at hlen
          omega
        · simp [idempotencyKeyStr, String.append_assoc]
      · exact absurd ⟨ht, hm, hk⟩ h

theorem knownBy_iff : KnownBy idempotencyKeyStr key ↔ key.BarFree := by
  constructor
  · intro h
    by_contra hbar
    obtain ⟨key', hne, heq⟩ := exists_ne_of_not_barFree hbar
    exact hne (h key' heq)
  · exact fun h key' heq => h.str_inj heq

/-! ## The file-backed store -/

namespace FileBackedIdempotencyStore

/-- What a call makes of the map. -/
def perform (inner : Table String IdempotencyState) (call : IdempotencyKey × KeyCall) :
    Table String IdempotencyState :=
  match call.2 with
  | .claim => (claim call.1 inner).value
  | .complete result => (complete call.1 result inner).value
  | .release => (release call.1 inner).value

/-- The map after calls, from nothing. -/
def after (calls : List (IdempotencyKey × KeyCall)) : Table String IdempotencyState :=
  calls.foldl perform ∅

/-- A claim of the key is only ever answered with what calls on this key put there. -/
def Faithful (key : IdempotencyKey) : Prop :=
  ∀ calls state, (claim key (after calls)).answer = some state → state.origin key ∈ calls

variable {inner : Table String IdempotencyState} {k : String}

theorem claim_answer : (claim key inner).answer = inner.lookup (FileBacked.idempotencyKeyStr key) := by
  simp only [claim]
  split <;> simp_all [Critical.keeping, Critical.saving]

theorem lookup_claim :
    (claim key inner).value.lookup k =
      if k = FileBacked.idempotencyKeyStr key ∧ inner.lookup k = none then some .inFlight
      else inner.lookup k := by
  simp only [claim]
  split
  · next s hs =>
      rw [if_neg]
      · rfl
      · rintro ⟨rfl, hnone⟩
        cases hs.symm.trans hnone
  · next hs =>
      show (inner.insert _ _).lookup k = _
      rw [Table.lookup_insert_ite]
      by_cases hk : k = FileBacked.idempotencyKeyStr key
      · subst hk
        rw [if_pos rfl, if_pos ⟨rfl, hs⟩]
      · rw [if_neg hk, if_neg fun h => hk h.1]

theorem lookup_release {state : IdempotencyState}
    (h : (release key inner).value.lookup k = some state) : inner.lookup k = some state := by
  unfold release at h
  by_cases hs : inner.lookup (FileBacked.idempotencyKeyStr key) ≠ some .inFlight
  · rwa [if_pos hs] at h
  · rw [if_neg hs] at h
    have herase : (inner.erase (FileBacked.idempotencyKeyStr key)).lookup k = some state := h
    rw [Table.lookup_erase_ite] at herase
    split at herase
    · cases herase
    · exact herase

/-- What one call can put under the string of a key that is known by it. -/
theorem perform_origin {call : IdempotencyKey × KeyCall} {state : IdempotencyState}
    (hkey : KnownBy FileBacked.idempotencyKeyStr key)
    (h : (perform inner call).lookup (FileBacked.idempotencyKeyStr key) = some state) :
    inner.lookup (FileBacked.idempotencyKeyStr key) = some state ∨ call = state.origin key := by
  obtain ⟨key', c⟩ := call
  cases c with
  | claim =>
      rw [perform, lookup_claim] at h
      split at h
      · next hs =>
          cases h
          exact Or.inr (by rw [hkey key' hs.1.symm]; rfl)
      · exact Or.inl h
  | complete result =>
      have hins : (inner.insert (FileBacked.idempotencyKeyStr key') (.completed result)).lookup
          (FileBacked.idempotencyKeyStr key) = some state := h
      rw [Table.lookup_insert_ite] at hins
      split at hins
      · next hs =>
          cases hins
          exact Or.inr (by rw [hkey key' hs.symm]; rfl)
      · exact Or.inl hins
  | release => exact Or.inl (lookup_release h)

theorem after_origin (hkey : KnownBy FileBacked.idempotencyKeyStr key)
    (calls : List (IdempotencyKey × KeyCall)) (state : IdempotencyState)
    (h : (after calls).lookup (FileBacked.idempotencyKeyStr key) = some state) :
    state.origin key ∈ calls := by
  induction calls using List.reverseRecOn with
  | nil => cases h
  | append_singleton calls call ih =>
      rw [after, List.foldl_append] at h
      rcases perform_origin hkey h with hold | rfl
      · exact List.mem_append_left _ (ih hold)
      · exact List.mem_append_right _ (List.mem_singleton_self _)

theorem faithful_iff : Faithful key ↔ key.BarFree := by
  constructor
  · intro h
    by_contra hbar
    obtain ⟨key', hne, heq⟩ := exists_ne_of_not_barFree hbar
    -- the claim of the other key is taken for one of this key
    have hanswer : (claim key (after [(key', .claim)])).answer = some .inFlight := by
      have hstr : FileBacked.idempotencyKeyStr key = FileBacked.idempotencyKeyStr key' := heq.symm
      rw [claim_answer, hstr]
      show ((claim key' ∅).value).lookup _ = _
      rw [lookup_claim, if_pos ⟨rfl, rfl⟩]
    have hm := List.mem_singleton.mp (h _ _ hanswer)
    exact hne (congrArg Prod.fst hm).symm
  · intro h calls state hanswer
    rw [claim_answer] at hanswer
    exact after_origin (fun key' heq => h.str_inj heq) calls state hanswer

end FileBackedIdempotencyStore

/-! ## The database store -/

namespace PostgresIdempotencyStore

/-- A pool of calls, each on a key of its own choice. -/
def pool (base : World) (calls : List (IdempotencyKey × KeyCall)) :
    Pool PgOp.Ans PgWorld KeyAnswer :=
  PgEnv.pool ⟨base, ∅⟩ (calls.map fun call => call.2.run call.1)

/-- As for the file-backed store, whatever else goes on at the same time. -/
def Faithful (key : IdempotencyKey) : Prop :=
  ∀ (env : PgEnv) (base : World) (calls : List (IdempotencyKey × KeyCall)) (ts : List Nat) t state,
    calls[t]? = some (key, .claim) →
    .returned t (.claimed (.ok (some state))) ∈ (Pool.run env.handle ts (pool base calls)).log →
    state.origin key ∈ calls

/-- A call, and the state it has read back. -/
structure Reading where
  call : IdempotencyKey × KeyCall
  seen : Option IdempotencyState

/-- A call works on the row of its key only, and in the way of its method. -/
def readingMonitor : Monitor PgOp.Ans Reading where
  allow o q :=
    match o with
    | .insertInFlight k => k = idempotencyKeyStr q.call.1 ∧ q.call.2 = .claim
    | .selectState k => k = idempotencyKeyStr q.call.1
    | .upsertCompleted k result => k = idempotencyKeyStr q.call.1 ∧ q.call.2 = .complete result
    | _ => True
  next o q x :=
    match o, x with
    | .selectState _, .ok (some state) => { q with seen := some state }
    | _, _ => q

/-- A claim returns what it has read back. -/
def Reads (a : KeyAnswer) (q : Reading) : Prop :=
  ∀ state, a = .claimed (.ok (some state)) → q.seen = some state

theorem run_follows (call : IdempotencyKey × KeyCall) :
    ((call.2.run call.1).lower Op.overPostgres).Follows readingMonitor Reads ⟨call, none⟩ := by
  obtain ⟨key, c⟩ := call
  cases c with
  | claim =>
      refine ⟨trivial, fun x _ => ?_⟩
      cases x with
      | error e => exact fun _ h => (nomatch h)
      | ok u =>
          refine ⟨⟨rfl, rfl⟩, fun x _ => ?_⟩
          cases x with
          | error e => exact ⟨trivial, fun _ _ _ h => (nomatch h)⟩
          | ok u =>
              refine ⟨rfl, fun x _ => ?_⟩
              match x with
              | .error e => exact ⟨trivial, fun _ _ _ h => (nomatch h)⟩
              | .ok none => exact ⟨trivial, fun _ _ _ h => (nomatch h)⟩
              | .ok (some state) =>
                  refine ⟨trivial, fun x _ => ?_⟩
                  cases x with
                  | error e => exact ⟨trivial, fun _ _ _ h => (nomatch h)⟩
                  | ok u =>
                      intro state' h
                      cases state with
                      | inFlight => cases h
                      | completed result =>
                          cases h
                          rfl
  | complete result => exact ⟨⟨rfl, rfl⟩, fun _ _ _ h => (nomatch h)⟩
  | release => exact ⟨trivial, fun _ _ _ h => (nomatch h)⟩

/-- What a row holds, or will hold once its transaction has committed. -/
def rowContent : PgRow → IdempotencyState
  | .committed state => state
  | .inserted _ => .inFlight

/-- Whatever is found under the string of the key comes from calls on the key. -/
structure Rooted (key : IdempotencyKey) (calls : List (IdempotencyKey × KeyCall)) (w : PgWorld)
    (φ : Nat → Reading) (log : List (Entry PgOp.Ans KeyAnswer)) : Prop where
  call : ∀ t c, calls[t]? = some c → (φ t).call = c
  known : ∀ t, (φ t).call ∈ calls ∨ (φ t).call.2 = .release
  row : ∀ row, w.rows.lookup (idempotencyKeyStr key) = some row → (rowContent row).origin key ∈ calls
  seen : ∀ t state, (φ t).call.1 = key → (φ t).seen = some state → state.origin key ∈ calls
  returned : ∀ t state, calls[t]? = some (key, .claim) →
    .returned t (.claimed (.ok (some state))) ∈ log → state.origin key ∈ calls

section Rooted

variable {calls : List (IdempotencyKey × KeyCall)} {env : PgEnv} {w : PgWorld}
  {φ : Nat → Reading} {log : List (Entry PgOp.Ans KeyAnswer)} {t : Nat} {o : PgOp}

theorem readingMonitor_call (o : PgOp) (q : Reading) (x : o.Ans) :
    (readingMonitor.next o q x).call = q.call := by
  unfold readingMonitor
  dsimp only
  split <;> rfl

/-- The row of the key after a statement. -/
theorem Rooted.exec_row (h : Rooted key calls w φ log) (hkey : KnownBy idempotencyKeyStr key)
    (ho : readingMonitor.allow o (φ t)) {row : PgRow}
    (hrow : (env.exec t o w).2.rows.lookup (idempotencyKeyStr key) = some row) :
    (rowContent row).origin key ∈ calls := by
  rw [PgEnv.exec_lookup] at hrow
  split at hrow
  · cases o with
    | insertInFlight k =>
        rw [PgOp.effect] at hrow
        split at hrow
        · next hk =>
            cases hrow
            obtain ⟨hstr, hclaim⟩ := ho
            have hcall : (φ t).call = (key, .claim) :=
              Prod.ext (hkey _ (hstr.symm.trans hk.1.symm)) hclaim
            rcases h.known t with hm | hrel
            · rw [hcall] at hm
              exact hm
            · cases hclaim.symm.trans hrel
        · exact h.row row hrow
    | upsertCompleted k result =>
        rw [PgOp.effect] at hrow
        split at hrow
        · next hk =>
            cases hrow
            obtain ⟨hstr, hcomplete⟩ := ho
            have hcall : (φ t).call = (key, .complete result) :=
              Prod.ext (hkey _ (hstr.symm.trans hk.symm)) hcomplete
            rcases h.known t with hm | hrel
            · rw [hcall] at hm
              exact hm
            · cases hcomplete.symm.trans hrel
        · exact h.row row hrow
    | commitTx =>
        obtain ⟨row', hrow', rfl⟩ := Option.map_eq_some_iff.mp hrow
        have hcontent : rowContent (row'.commit t) = rowContent row' := by
          cases row' with
          | committed state => rfl
          | inserted tx =>
              rw [PgRow.commit]
              split <;> rfl
        rw [hcontent]
        exact h.row row' hrow'
    | rollbackTx => exact h.row row (Option.filter_eq_some_iff.mp hrow).1
    | deleteInFlight k =>
        rw [PgOp.effect] at hrow
        split at hrow
        · cases hrow
        · exact h.row row hrow
    | beginTx => exact h.row row hrow
    | selectState k => exact h.row row hrow
    | other o => exact h.row row hrow
  · exact h.row row hrow

theorem Rooted.did (env : PgEnv) (h : Rooted key calls w φ log)
    (hkey : KnownBy idempotencyKeyStr key) (ho : readingMonitor.allow o (φ t)) :
    Rooted key calls (env.exec t o w).2
      (Function.update φ t (readingMonitor.next o (φ t) (env.exec t o w).1))
      (log ++ [.did t ⟨o, (env.exec t o w).1⟩]) := by
  have hcall : ∀ t', (Function.update φ t
      (readingMonitor.next o (φ t) (env.exec t o w).1) t').call = (φ t').call :=
    Pool.update_keeps Reading.call (readingMonitor_call ..)
  constructor
  · exact fun t' c hc => (hcall t').trans (h.call t' c hc)
  · intro t'
    rw [hcall]
    exact h.known t'
  · exact fun row hrow => h.exec_row hkey ho hrow
  · intro t' state hk hseen
    rw [hcall] at hk
    by_cases ht : t' = t
    · subst ht
      rw [Function.update_self] at hseen
      cases o with
      | selectState k =>
          match hx : (env.exec t' (.selectState k) w).1 with
          | .error e => exact h.seen t' state hk (by rw [hx] at hseen; exact hseen)
          | .ok none => exact h.seen t' state hk (by rw [hx] at hseen; exact hseen)
          | .ok (some state') =>
              rw [hx] at hseen
              cases hseen
              have hread : (w.rows.lookup k).bind (PgRow.seenBy t') = some state :=
                (PgWorld.attempt_ok hx).symm
              obtain ⟨row, hrow, hstate⟩ := Option.bind_eq_some_iff.mp hread
              rw [ho, hk] at hrow
              have hcontent : rowContent row = state := by
                cases row with
                | committed state' => exact Option.some.inj hstate
                | inserted tx =>
                    rw [PgRow.seenBy] at hstate
                    split at hstate
                    · exact Option.some.inj hstate
                    · cases hstate
              exact hcontent ▸ h.row row hrow
      | beginTx | insertInFlight | commitTx | rollbackTx | upsertCompleted | deleteInFlight
      | other => exact h.seen t' state hk hseen
    · rw [Function.update_of_ne ht] at hseen
      exact h.seen t' state hk hseen
  · intro t' state hc hm
    exact h.returned t' state hc (by simpa using hm)

theorem Rooted.returns {a : KeyAnswer} (h : Rooted key calls w φ log) (ha : Reads a (φ t)) :
    Rooted key calls w φ (log ++ [.returned t a]) where
  call := h.call
  known := h.known
  row := h.row
  seen := h.seen
  returned := by
    intro t' state hc hm
    rcases List.mem_append.mp hm with hm | hm
    · exact h.returned t' state hc hm
    · obtain ⟨rfl, rfl⟩ := Entry.returned.inj (List.mem_singleton.mp hm)
      exact h.seen t' state (by rw [h.call t' _ hc]) (ha state rfl)

/-- A claim of a key that is known by its string is answered with what calls on it did. -/
theorem faithful_of_knownBy (hkey : KnownBy idempotencyKeyStr key) : Faithful key := by
  intro env base calls ts t state hc hm
  let φ : Nat → Reading := fun t => ⟨calls.getD t (key, .release), none⟩
  have hφ : ∀ t c, calls[t]? = some c → (φ t).call = c := by
    intro t c hc
    show calls.getD t _ = c
    rw [List.getD_eq_getElem?_getD, hc]
    rfl
  have hfollow : Pool.AllFollow readingMonitor (fun _ => Reads) φ (pool base calls) := by
    intro t p hp
    rw [pool, PgEnv.pool, Pool.start, List.map_map, List.getElem?_map] at hp
    obtain ⟨call, hcall, rfl⟩ := Option.map_eq_some_iff.mp hp
    have hstart := run_follows call
    rwa [← hφ t call hcall] at hstart ⊢
  have hstart : Rooted key calls ⟨base, ∅⟩ φ [] := by
    refine ⟨hφ, fun t => ?_, fun row hrow => ?_, fun t state _ hs => ?_,
      fun t state _ hm => absurd hm List.not_mem_nil⟩
    · cases hc : calls[t]? with
      | some c => exact Or.inl (hφ t c hc ▸ List.mem_of_getElem? hc)
      | none =>
          refine Or.inr ?_
          show (calls.getD t _).2 = _
          rw [List.getD_eq_getElem?_getD, hc]
          rfl
    · cases hrow
    · cases hs
  obtain ⟨φ', h, -⟩ := Pool.run_invariant (h := env.handle) (C := fun _ _ _ => True)
    (I := fun w φ log => Rooted key calls w φ log)
    (by
      intro w φ log t o x w' h ho _ hx
      obtain ⟨-, rfl, rfl⟩ := PgEnv.handle_eq_some.mp hx
      have hdid := h.did env hkey ho
      refine ⟨trivial, hdid, fun a ha => ?_⟩
      rw [List.append_cons]
      refine hdid.returns ?_
      rwa [Function.update_self])
    ts hstart hfollow Pool.stepsMeet_true
  exact h.returned t state hc hm

end Rooted

/-- Where two keys share a string, the completion of one answers the claim of the other. -/
theorem replays_other (heq : idempotencyKeyStr key' = idempotencyKeyStr key)
    (result : TransactionResult) :
    .returned 1 (.claimed (.ok (some (.completed result)))) ∈
      (Pool.run PgEnv.agreeable.handle [0, 1, 1, 1, 1]
        (pool World.empty [(key', .complete result), (key, .claim)])).log := by
  let rows : PgTable := (∅ : PgTable).insert (idempotencyKeyStr key') (.committed (.completed result))
  have hrow : rows.lookup (idempotencyKeyStr key) = some (.committed (.completed result)) := by
    rw [← heq]
    exact AList.lookup_insert _
  have hput : PgEnv.agreeable.handle 0 (.upsertCompleted (idempotencyKeyStr key') result)
      ⟨World.empty, ∅⟩ = some (.ok (), ⟨World.empty.tick, rows⟩) := rfl
  have hbegin (b : World) : PgEnv.agreeable.handle 1 .beginTx ⟨b, rows⟩ =
      some (.ok (), ⟨b.tick, rows⟩) := rfl
  have hinsert (b : World) : PgEnv.agreeable.handle 1 (.insertInFlight (idempotencyKeyStr key))
      ⟨b, rows⟩ = some (.ok (), ⟨b.tick, rows⟩) := by
    simp [PgEnv.handle, PgOp.waits, PgEnv.exec, PgEnv.agreeable, PgWorld.attempt, hrow]
  have hselect (b : World) : PgEnv.agreeable.handle 1 (.selectState (idempotencyKeyStr key))
      ⟨b, rows⟩ = some (.ok (some (.completed result)), ⟨b.tick, rows⟩) := by
    simp [PgEnv.handle, PgOp.waits, PgEnv.exec, PgEnv.agreeable, PgWorld.attempt, hrow,
      PgRow.seenBy]
  have hcommit (b : World) : PgEnv.agreeable.handle 1 .commitTx ⟨b, rows⟩ =
      some (.ok (), ⟨b.tick, rows.mapValues fun _ => PgRow.commit 1⟩) := rfl
  rw [Pool.run, Pool.step_eq rfl hput, Pool.run, Pool.step_eq rfl (hbegin _), Pool.run,
    Pool.step_eq rfl (hinsert _), Pool.run, Pool.step_eq rfl (hselect _), Pool.run,
    Pool.step_eq rfl (hcommit _)]
  refine List.mem_append_right _ ?_
  exact List.mem_cons_of_mem _ List.mem_cons_self

theorem faithful_iff (result : TransactionResult) : Faithful key ↔ key.BarFree := by
  constructor
  · intro h
    by_contra hbar
    obtain ⟨key', hne, heq⟩ := exists_ne_of_not_barFree hbar
    have hm := h PgEnv.agreeable World.empty [(key', .complete result), (key, .claim)]
      [0, 1, 1, 1, 1] 1 (.completed result) rfl (replays_other heq result)
    rcases List.mem_cons.mp hm with hfst | hm
    · exact hne (congrArg Prod.fst hfst).symm
    · cases List.mem_singleton.mp hm
  · exact fun h => faithful_of_knownBy (knownBy_iff.mpr h)

end PostgresIdempotencyStore

/-! ## The identity of a key -/

/-- The result of the sample checkout. -/
def Sample.paid : TransactionResult :=
  ⟨"txn_9", .completed, ⟨100, 0, 0, 0, 100⟩, some "auth", some "receipt", ⟨16⟩, none, .captured,
    some "ord_11"⟩

/-- **The stored identity of a key.**  A key is the only one of its string, on either
backend, exactly if none of its parts contains the separator; and exactly then a claim of
it is never answered with what calls on another key have done. -/
theorem idempotencyKeyStr_faithful_iff (key : IdempotencyKey) :
    (KnownBy FileBacked.idempotencyKeyStr key ↔ key.BarFree) ∧
    (KnownBy idempotencyKeyStr key ↔ key.BarFree) ∧
    (FileBackedIdempotencyStore.Faithful key ↔ key.BarFree) ∧
    (PostgresIdempotencyStore.Faithful key ↔ key.BarFree) :=
  ⟨knownBy_iff, knownBy_iff, FileBackedIdempotencyStore.faithful_iff,
    PostgresIdempotencyStore.faithful_iff Sample.paid⟩

/-- A tenant `a|b` at the merchant `c` shares its key with the tenant `a` at `b|c`, and is
answered with the other's claim. -/
theorem separator_collides :
    ¬ (∀ key key', FileBacked.idempotencyKeyStr key = FileBacked.idempotencyKeyStr key' →
      key = key') ∧
    ¬ (∀ key key', idempotencyKeyStr key = idempotencyKeyStr key' → key = key') ∧
    (FileBackedIdempotencyStore.claim ⟨"a", "b|c", "d"⟩
      (FileBackedIdempotencyStore.after [(⟨"a|b", "c", "d"⟩, .claim)])).answer =
        some .inFlight := by
  have hne : (⟨"a|b", "c", "d"⟩ : IdempotencyKey) ≠ ⟨"a", "b|c", "d"⟩ := by decide
  have hstr : idempotencyKeyStr ⟨"a|b", "c", "d"⟩ = idempotencyKeyStr ⟨"a", "b|c", "d"⟩ := by decide
  exact ⟨fun h => hne (h _ _ hstr), fun h => hne (h _ _ hstr), by decide⟩

end Orchestrator
