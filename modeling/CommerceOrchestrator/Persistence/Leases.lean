/-
# `CommerceOrchestrator.Persistence.Leases` — what an expired lease can still do

Acknowledgement and release name a message, not a lease.  A worker whose lease
has run out acts on whatever row the message has by then: its release ends the
lease of the next worker and stores its own attempt count, and if that worker
has acknowledged the message, the release puts it back.

So the leases are fenced in every run in which no overtaken worker releases
(`leases_fenced`): a worker is overtaken once another has acknowledged or
released its message since its claim.
-/
import CommerceOrchestrator.Persistence.Durability

namespace Orchestrator

open Effect Prog

namespace PgOutbox

/-! ## What a run shows -/

/-- The call is a replay. -/
def replayer (calls : List OutboxCall) (t : Nat) : Bool :=
  match calls[t]? with
  | some (.replay _) => true
  | _ => false

/-- The entry is a replay's, and puts the message back. -/
def PutsBack (calls : List OutboxCall) (id : String) : PgOutboxEntry → Prop
  | .did t ⟨.upsert m, _⟩ => m.id = id ∧ replayer calls t = true
  | _ => False

instance {calls : List OutboxCall} {id : String} : DecidablePred (PutsBack calls id)
  | .did t ⟨.upsert m, _⟩ => inferInstanceAs (Decidable (m.id = id ∧ replayer calls t = true))
  | .did _ ⟨.lease, _⟩ | .did _ ⟨.deliver _, _⟩ | .did _ ⟨.delete _, _⟩ | .did _ ⟨.update _, _⟩
  | .did _ ⟨.upsertDeadLetter _, _⟩ | .did _ ⟨.deleteDeadLetter _, _⟩ | .returned _ _ =>
      inferInstanceAs (Decidable False)

/-- A message that is claimed after some worker has acknowledged it was replayed in between. -/
def NotReoffered (calls : List OutboxCall) (log : List PgOutboxEntry) : Prop :=
  ∀ pre mid post t t' m,
    log = pre ++ .did t ⟨.delete m.id, ()⟩ :: (mid ++ .did t' ⟨.lease, some m⟩ :: post) →
      ∃ e ∈ mid, PutsBack calls m.id e

/-- No stored attempt count is higher than the one stored after it. -/
def Grows (w w' : OutboxDb) : Prop :=
  ∀ m ∈ w.outbox.messages, ∀ m' ∈ w'.outbox.messages, m.id = m'.id → m.attempts ≤ m'.attempts

structure Fenced (env : OutboxEnv) (calls : List OutboxCall) (ts : List Nat) : Prop where
  settled : NotReoffered calls (env.run calls ts).log
  /-- Whatever any step but a replay's does, the attempts stored in the outbox grow. -/
  grows : ∀ pre t post, ts = pre ++ t :: post → replayer calls t = false →
    Grows (env.run calls pre).world (env.run calls (pre ++ [t])).world

/-! ## The condition -/

def noteOvertaken (t : Nat) (id : String) (overtaken : Bool) : PgOutboxEntry → Bool
  | .did t' ⟨.lease, some m⟩ => if t' = t ∧ m.id = id then false else overtaken
  | .did t' ⟨.delete id', _⟩ => if t' ≠ t ∧ id' = id then true else overtaken
  | .did t' ⟨.update m, _⟩ => if t' ≠ t ∧ m.id = id then true else overtaken
  | .did _ ⟨.upsert m, _⟩ => if m.id = id then false else overtaken
  | _ => overtaken

/-- Since `t` claimed the message, or it was last enqueued, another worker has acknowledged
or released it. -/
def overtaken (t : Nat) (id : String) (log : List PgOutboxEntry) : Bool :=
  log.foldl (noteOvertaken t id) false

/-- No overtaken worker releases its message. -/
def ReleasesOwn (t : Nat) (s : OutboxStatement) (_ : OutboxDb) (log : List PgOutboxEntry) : Prop :=
  match s with
  | .update m => overtaken t m.id log = false
  | _ => True

instance {t : Nat} {s : OutboxStatement} {w : OutboxDb} {log : List PgOutboxEntry} :
    Decidable (ReleasesOwn t s w log) := by
  unfold ReleasesOwn
  split <;> infer_instance

/-! ## Logs -/

def noteSettled (calls : List OutboxCall) (id : String) (settled : Bool) : PgOutboxEntry → Bool
  | .did _ ⟨.delete id', _⟩ => if id' = id then true else settled
  | .did t ⟨.upsert m, _⟩ => if m.id = id ∧ replayer calls t = true then false else settled
  | _ => settled

/-- The message has been acknowledged, and not replayed since. -/
def settled (calls : List OutboxCall) (id : String) (log : List PgOutboxEntry) : Bool :=
  log.foldl (noteSettled calls id) false

section Logs

variable {calls : List OutboxCall} {log : List PgOutboxEntry} {e : PgOutboxEntry} {t : Nat}
  {id : String}

theorem overtaken_append :
    overtaken t id (log ++ [e]) = noteOvertaken t id (overtaken t id log) e := by
  rw [overtaken, List.foldl_append]
  rfl

theorem settled_append :
    settled calls id (log ++ [e]) = noteSettled calls id (settled calls id log) e := by
  rw [settled, List.foldl_append]
  rfl

theorem foldl_noteSettled (calls : List OutboxCall) (h : ∀ e ∈ log, ¬ PutsBack calls id e) :
    log.foldl (noteSettled calls id) true = true := by
  induction log with
  | nil => rfl
  | cons e log ih =>
      have hstays : noteSettled calls id true e = true := by
        unfold noteSettled
        split
        · split <;> rfl
        · split
          · next hback => exact absurd hback (h _ List.mem_cons_self)
          · rfl
        · rfl
      rw [List.foldl_cons, hstays]
      exact ih fun e' he' => h e' (List.mem_cons_of_mem _ he')

/-- Between an acknowledgement and a moment at which the message is not settled, it was
replayed. -/
theorem putBack_of_not_settled {pre mid : List PgOutboxEntry}
    (h : settled calls id (pre ++ .did t ⟨.delete id, ()⟩ :: mid) = false) :
    ∃ e ∈ mid, PutsBack calls id e := by
  by_contra hnone
  have hstays := foldl_noteSettled calls fun e he hback => hnone ⟨e, he, hback⟩
  have hdelete : ∀ b, noteSettled calls id b (.did t ⟨.delete id, ()⟩) = true := fun _ => if_pos rfl
  rw [settled, List.foldl_append, List.foldl_cons, hdelete, hstays] at h
  cases h

theorem NotReoffered.append (h : NotReoffered calls log)
    (he : ∀ t m, e = .did t ⟨.lease, some m⟩ → settled calls m.id log = false) :
    NotReoffered calls (log ++ [e]) := by
  intro pre mid post t t' m hlog
  rcases List.eq_nil_or_concat post with rfl | ⟨post', e', rfl⟩
  · rw [← List.cons_append, ← List.append_assoc] at hlog
    obtain ⟨rfl, he'⟩ := List.append_inj' hlog rfl
    exact putBack_of_not_settled (he t' m (List.singleton_inj.mp he'))
  · rw [List.concat_eq_append, ← List.cons_append, ← List.append_assoc, ← List.cons_append,
      ← List.append_assoc] at hlog
    obtain ⟨rfl, -⟩ := List.append_inj' hlog rfl
    exact h pre mid post' t t' m (List.append_assoc _ _ _)

end Logs

/-! ## The invariant -/

/-- While no other worker has overtaken `t`, the row is there, and its attempts are no more
than those of the message in the hands of `t`. -/
def Backed (w : OutboxDb) (log : List PgOutboxEntry) (t : Nat) (m : OutboxMessage) : Prop :=
  overtaken t m.id log = false → ∃ m₀ ∈ w.outbox.messages, m₀.id = m.id ∧ m₀.attempts ≤ m.attempts

/-- What the place of caller `t` says about the table and the log. -/
def Caller (calls : List OutboxCall) (w : OutboxDb) (log : List PgOutboxEntry) (t : Nat) :
    Leasing → Prop
  | .holds (.ready (.process k)) => k + 1 < 2 ^ 32
  | .holds (.ready (.enqueue m)) => m.attempts = 0 ∧ ¬ Enqueued m.id log
  | .holds (.ready (.replay _)) => replayer calls t = true
  | .holds (.claimed k m) =>
      k + 1 < 2 ^ 32 ∧ m.attempts + 1 < 2 ^ 32 ∧ Enqueued m.id log ∧ Backed w log t m
  | .holds (.failed k m) => k + 1 < 2 ^ 32 ∧ Enqueued m.id log ∧ Backed w log t m
  | .holds (.parked m) | .holds (.delivered m) => Enqueued m.id log
  | .holds (.taken m) => Enqueued m.id log ∧ replayer calls t = true
  | .holds .done => True
  -- no release finds its row gone
  | .gone _ => False

structure Leased (calls : List OutboxCall) (w : OutboxDb) (φ : Nat → Leasing)
    (log : List PgOutboxEntry) : Prop where
  unique : ∀ m ∈ w.outbox.messages, ∀ m' ∈ w.outbox.messages, m.id = m'.id → m = m'
  rows : ∀ m ∈ w.outbox.messages, Enqueued m.id log ∧ m.attempts + 1 < 2 ^ 32
  dead : ∀ id m, w.deadLetter.lookup id = some m → Enqueued m.id log
  callers : ∀ t, Caller calls w log t (φ t)
  apart : ∀ t t' m m', φ t = .holds (.ready (.enqueue m)) →
    φ t' = .holds (.ready (.enqueue m')) → t ≠ t' → m.id ≠ m'.id
  gone : ∀ id, settled calls id log = true →
    Enqueued id log ∧ ∀ m ∈ w.outbox.messages, m.id ≠ id
  history : NotReoffered calls log

section Steps

variable {calls : List OutboxCall} {env : OutboxEnv} {w w' : OutboxDb} {φ : Nat → Leasing}
  {log : List PgOutboxEntry} {e : PgOutboxEntry} {t : Nat} {q : Leasing} {id : String}
  {m : OutboxMessage}

theorem Enqueued.append (h : Enqueued id log) : Enqueued id (log ++ [e]) :=
  enqueued_append.mpr (Or.inl h)

/-- What another caller's step leaves a caller. -/
theorem Caller.frame (h : Caller calls w log t q)
    (hfresh : ∀ m, q = .holds (.ready (.enqueue m)) → ¬ Enqueues m.id e)
    (hbacked : ∀ m, Backed w log t m → Backed w' (log ++ [e]) t m) :
    Caller calls w' (log ++ [e]) t q := by
  cases q with
  | gone m => exact h
  | holds q =>
      cases q with
      | ready call =>
          cases call with
          | enqueue m =>
              refine ⟨h.1, fun henq => ?_⟩
              rcases enqueued_append.mp henq with henq | henq
              · exact h.2 henq
              · exact hfresh m rfl henq
          | process k | replay id => exact h
      | claimed k m => exact ⟨h.1, h.2.1, h.2.2.1.append, hbacked m h.2.2.2⟩
      | failed k m => exact ⟨h.1, h.2.1.append, hbacked m h.2.2⟩
      | parked m | delivered m => exact Enqueued.append h
      | taken m => exact ⟨h.1.append, h.2⟩
      | done => trivial

theorem Leased.callers_update (h : Leased calls w φ log) (hq : Caller calls w' (log ++ [e]) t q)
    (hfresh : ∀ t' m, t' ≠ t → φ t' = .holds (.ready (.enqueue m)) → ¬ Enqueues m.id e)
    (hbacked : ∀ t' m, t' ≠ t → Backed w log t' m → Backed w' (log ++ [e]) t' m) :
    ∀ t', Caller calls w' (log ++ [e]) t' (Function.update φ t q t') := by
  refine (Function.forall_update_iff φ (Caller calls w' (log ++ [e]))).mpr ⟨hq, ?_⟩
  intro t' ht
  exact (h.callers t').frame (fun m hm => hfresh t' m ht hm) fun m => hbacked t' m ht

theorem Leased.apart_update (h : Leased calls w φ log)
    (hq : ∀ m, q = .holds (.ready (.enqueue m)) → φ t = q) {t₁ t₂ : Nat} {m₁ m₂ : OutboxMessage}
    (h₁ : Function.update φ t q t₁ = .holds (.ready (.enqueue m₁)))
    (h₂ : Function.update φ t q t₂ = .holds (.ready (.enqueue m₂))) (hne : t₁ ≠ t₂) :
    m₁.id ≠ m₂.id := by
  have hready : ∀ t' m, Function.update φ t q t' = .holds (.ready (.enqueue m)) →
      φ t' = .holds (.ready (.enqueue m)) := by
    intro t' m ht'
    by_cases heq : t' = t
    · subst heq
      rw [Function.update_self] at ht'
      rw [hq m ht', ht']
    · rwa [Function.update_of_ne heq] at ht'
  exact h.apart t₁ t₂ m₁ m₂ (hready t₁ m₁ h₁) (hready t₂ m₂ h₂) hne

/-- A step that leaves the messages of the outbox as they are. -/
theorem Leased.quiet (h : Leased calls w φ log)
    (hrows : w'.outbox.messages = w.outbox.messages)
    (hdead : ∀ id m, w'.deadLetter.lookup id = some m → Enqueued m.id log)
    (henqueues : ∀ id, ¬ Enqueues id e)
    (hsettled : ∀ id b, noteSettled calls id b e = b)
    (hovertaken : ∀ t' id b, t' ≠ t → noteOvertaken t' id b e = b)
    (hlease : ∀ t m, e = .did t ⟨.lease, some m⟩ → m ∈ w.outbox.messages)
    (hready : ∀ m, q = .holds (.ready (.enqueue m)) → φ t = q)
    (hq : Caller calls w' (log ++ [e]) t q) :
    Leased calls w' (Function.update φ t q) (log ++ [e]) := by
  refine ⟨?_, ?_, ?_, h.callers_update hq (fun _ _ _ _ => henqueues _) ?_, ?_, ?_,
    h.history.append ?_⟩
  · rw [hrows]
    exact h.unique
  · intro m hm
    rw [hrows] at hm
    exact ⟨(h.rows m hm).1.append, (h.rows m hm).2⟩
  · intro id m hm
    exact (hdead id m hm).append
  · intro t' m ht hm
    unfold Backed
    rw [overtaken_append, hovertaken t' m.id _ ht, hrows]
    exact hm
  · exact fun t₁ t₂ m₁ m₂ => h.apart_update hready
  · intro id hid
    rw [settled_append, hsettled] at hid
    rw [hrows]
    exact ⟨(h.gone id hid).1.append, (h.gone id hid).2⟩
  · intro t' m he
    cases hs : settled calls m.id log with
    | false => rfl
    | true => exact absurd rfl ((h.gone m.id hs).2 m (hlease t' m he))

theorem Leased.returns {r : OutboxReport} (h : Leased calls w φ log) :
    Leased calls w φ (log ++ [.returned t r]) := by
  have hcaller : Caller calls w (log ++ [.returned t r]) t (φ t) := by
    refine (h.callers t).frame (fun _ _ he => nomatch he) ?_
    intro m hm
    unfold Backed
    rwa [overtaken_append]
  have hleased : Leased calls w (Function.update φ t (φ t)) (log ++ [.returned t r]) :=
    h.quiet rfl h.dead (fun _ he => nomatch he) (fun _ _ => rfl) (fun _ _ _ _ => rfl)
      (fun _ _ he => nomatch he) (fun _ _ => rfl) hcaller
  rwa [Function.update_eq_self] at hleased

theorem Leased.lease_step (h : Leased calls w φ log) (ho : leaseMonitor.allow .lease (φ t)) :
    Leased calls (env.handle .lease w).2
      (Function.update φ t (leaseMonitor.next .lease (φ t) (env.handle .lease w).1))
      (log ++ [.did t ⟨.lease, (env.handle .lease w).1⟩]) := by
  have hrows : (env.handle .lease w).2.outbox.messages = w.outbox.messages :=
    OutboxTable.messages_lease
  obtain ⟨k, hq⟩ := allow_lease ho
  have hcaller := h.callers t
  rw [hq] at hcaller ⊢
  cases hanswer : (env.handle .lease w).1 with
  | none =>
      exact h.quiet hrows h.dead (fun _ he => nomatch he) (fun _ _ => rfl)
        (fun _ _ _ _ => rfl) (fun _ _ he => nomatch he) (fun _ hq => nomatch hq) trivial
  | some m =>
      have hm : m ∈ w.outbox.messages := OutboxTable.mem_of_lease hanswer
      refine h.quiet hrows h.dead (fun _ he => nomatch he) (fun _ _ => rfl)
        (fun t' id b ht => if_neg fun hc => ht hc.1.symm) ?_ (fun _ hq => nomatch hq) ?_
      · rintro t' m' ⟨⟩
        exact hm
      · refine ⟨hcaller, (h.rows m hm).2, (h.rows m hm).1.append, fun _ => ?_⟩
        exact ⟨m, hrows ▸ hm, rfl, Nat.le_refl _⟩

theorem Leased.deliver_step (h : Leased calls w φ log)
    (ho : leaseMonitor.allow (.deliver m) (φ t)) :
    Leased calls (env.handle (.deliver m) w).2
      (Function.update φ t (leaseMonitor.next (.deliver m) (φ t) (env.handle (.deliver m) w).1))
      (log ++ [.did t ⟨.deliver m, (env.handle (.deliver m) w).1⟩]) := by
  obtain ⟨k, hq⟩ := allow_deliver ho
  have hcaller := h.callers t
  rw [hq] at hcaller ⊢
  obtain ⟨hk, hattempts, henq, hbacked⟩ := hcaller
  cases (env.handle (.deliver m) w).1 with
  | ok _ =>
      exact h.quiet rfl h.dead (fun _ he => nomatch he) (fun _ _ => rfl) (fun _ _ _ _ => rfl)
        (fun _ _ he => nomatch he) (fun _ hq => nomatch hq) henq.append
  | error x =>
      refine h.quiet rfl h.dead (fun _ he => nomatch he) (fun _ _ => rfl) (fun _ _ _ _ => rfl)
        (fun _ _ he => nomatch he) (fun _ hq => nomatch hq) ⟨hk, henq.append, ?_⟩
      intro hown
      rw [overtaken_append] at hown
      obtain ⟨m₀, hm₀, hid, hle⟩ := hbacked hown
      refine ⟨m₀, hm₀, hid, ?_⟩
      -- the counter has room for one more
      have hretried : m.retried.attempts = m.attempts + 1 := Nat.mod_eq_of_lt hattempts
      omega

theorem Leased.upsertDeadLetter_step (h : Leased calls w φ log)
    (ho : leaseMonitor.allow (.upsertDeadLetter m) (φ t)) :
    Leased calls (env.handle (.upsertDeadLetter m) w).2
      (Function.update φ t (leaseMonitor.next (.upsertDeadLetter m) (φ t) ()))
      (log ++ [.did t ⟨.upsertDeadLetter m, ()⟩]) := by
  obtain ⟨k, hq⟩ := allow_upsertDeadLetter ho
  have hcaller := h.callers t
  rw [hq] at hcaller ⊢
  refine h.quiet rfl ?_ (fun _ he => nomatch he) (fun _ _ => rfl) (fun _ _ _ _ => rfl)
    (fun _ _ he => nomatch he) (fun _ hq => nomatch hq) hcaller.2.1.append
  intro id m' hm'
  have hm' : (w.deadLetter.insert m.id m).lookup id = some m' := hm'
  rw [Table.lookup_insert_ite] at hm'
  split at hm'
  · cases hm'
    exact hcaller.2.1
  · exact h.dead id m' hm'

theorem Leased.deleteDeadLetter_step (h : Leased calls w φ log)
    (ho : leaseMonitor.allow (.deleteDeadLetter id) (φ t)) :
    Leased calls (env.handle (.deleteDeadLetter id) w).2
      (Function.update φ t
        (leaseMonitor.next (.deleteDeadLetter id) (φ t) (env.handle (.deleteDeadLetter id) w).1))
      (log ++ [.did t ⟨.deleteDeadLetter id, (env.handle (.deleteDeadLetter id) w).1⟩]) := by
  have hdead : ∀ id' m, (w.deadLetter.erase id).lookup id' = some m → Enqueued m.id log := by
    intro id' m hm
    rw [Table.lookup_erase_ite] at hm
    split at hm
    · cases hm
    · exact h.dead id' m hm
  have hq := allow_deleteDeadLetter ho
  have hcaller := h.callers t
  have hanswer : (env.handle (.deleteDeadLetter id) w).1 = w.deadLetter.lookup id := rfl
  rw [hq] at hcaller ⊢
  rw [hanswer]
  cases hd : w.deadLetter.lookup id with
  | none =>
      exact h.quiet rfl hdead (fun _ he => nomatch he) (fun _ _ => rfl) (fun _ _ _ _ => rfl)
        (fun _ _ he => nomatch he) (fun _ hq => nomatch hq) trivial
  | some m =>
      exact h.quiet rfl hdead (fun _ he => nomatch he) (fun _ _ => rfl) (fun _ _ _ _ => rfl)
        (fun _ _ he => nomatch he) (fun _ hq => nomatch hq) ⟨(h.dead id m hd).append, hcaller⟩

theorem Leased.delete_step (h : Leased calls w φ log)
    (ho : leaseMonitor.allow (.delete id) (φ t)) :
    Leased calls (env.handle (.delete id) w).2 (Function.update φ t (.holds .done))
      (log ++ [.did t ⟨.delete id, ()⟩]) := by
  have henq : Enqueued id log := by
    have hcaller := h.callers t
    obtain ⟨m, hq | hq, rfl⟩ := allow_delete ho
    · rw [hq] at hcaller
      exact hcaller
    · rw [hq] at hcaller
      exact hcaller
  have hrows : ∀ m, m ∈ (env.handle (.delete id) w).2.outbox.messages ↔
      m ∈ w.outbox.messages ∧ m.id ≠ id := fun m => OutboxTable.mem_delete
  refine ⟨?_, ?_, ?_, h.callers_update trivial (fun _ _ _ _ he => nomatch he) ?_, ?_, ?_,
    h.history.append fun _ _ he => nomatch he⟩
  · intro m hm m' hm'
    exact h.unique m ((hrows m).mp hm).1 m' ((hrows m').mp hm').1
  · intro m hm
    have hm := ((hrows m).mp hm).1
    exact ⟨(h.rows m hm).1.append, (h.rows m hm).2⟩
  · intro id' m hm
    exact (h.dead id' m hm).append
  · intro t' m ht hm hown
    rw [overtaken_append, noteOvertaken] at hown
    split at hown
    · cases hown
    · next hnot =>
        obtain ⟨m₀, hm₀, hid, hle⟩ := hm hown
        refine ⟨m₀, (hrows m₀).mpr ⟨hm₀, ?_⟩, hid, hle⟩
        intro hid'
        exact hnot ⟨ht.symm, hid'.symm.trans hid⟩
  · exact fun t₁ t₂ m₁ m₂ => h.apart_update (by rintro _ ⟨⟩)
  · intro id' hid
    rw [settled_append, noteSettled] at hid
    split at hid
    · next hid' =>
        subst hid'
        exact ⟨henq.append, fun m hm => ((hrows m).mp hm).2⟩
    · exact ⟨(h.gone id' hid).1.append, fun m hm => (h.gone id' hid).2 m ((hrows m).mp hm).1⟩

/-- A release that is not overtaken finds the row. -/
theorem Leased.update_finds (h : Leased calls w φ log) (ho : leaseMonitor.allow (.update m) (φ t))
    (hown : overtaken t m.id log = false) :
    m.attempts + 1 < 2 ^ 32 ∧ ∃ m₀ ∈ w.outbox.messages, m₀.id = m.id ∧ m₀.attempts ≤ m.attempts := by
  obtain ⟨k, hq, hle⟩ := allow_update ho
  have hcaller := h.callers t
  rw [hq] at hcaller
  obtain ⟨hk, -, hbacked⟩ := hcaller
  exact ⟨by omega, hbacked hown⟩

/-- Storing a message under its id leaves one message to an id. -/
theorem Leased.unique_store (h : Leased calls w φ log)
    (hrows : ∀ m', m' ∈ w'.outbox.messages ↔ m' = m ∨ (m' ∈ w.outbox.messages ∧ m'.id ≠ m.id)) :
    ∀ m₁ ∈ w'.outbox.messages, ∀ m₂ ∈ w'.outbox.messages, m₁.id = m₂.id → m₁ = m₂ := by
  intro m₁ hm₁ m₂ hm₂ hid
  rcases (hrows m₁).mp hm₁ with rfl | ⟨hm₁, hne₁⟩
  · rcases (hrows m₂).mp hm₂ with rfl | ⟨-, hne₂⟩
    · rfl
    · exact absurd hid.symm hne₂
  · rcases (hrows m₂).mp hm₂ with rfl | ⟨hm₂, -⟩
    · exact absurd hid hne₁
    · exact h.unique m₁ hm₁ m₂ hm₂ hid

theorem Leased.rows_store (h : Leased calls w φ log)
    (hrows : ∀ m', m' ∈ w'.outbox.messages ↔ m' = m ∨ (m' ∈ w.outbox.messages ∧ m'.id ≠ m.id))
    (henq : Enqueued m.id (log ++ [e])) (hattempts : m.attempts + 1 < 2 ^ 32) :
    ∀ m' ∈ w'.outbox.messages, Enqueued m'.id (log ++ [e]) ∧ m'.attempts + 1 < 2 ^ 32 := by
  intro m' hm'
  rcases (hrows m').mp hm' with rfl | ⟨hm', -⟩
  · exact ⟨henq, hattempts⟩
  · exact ⟨(h.rows m' hm').1.append, (h.rows m' hm').2⟩

theorem Leased.update_step (h : Leased calls w φ log) (ho : leaseMonitor.allow (.update m) (φ t))
    (hown : overtaken t m.id log = false) :
    Leased calls (env.handle (.update m) w).2
      (Function.update φ t (leaseMonitor.next (.update m) (φ t) (env.handle (.update m) w).1))
      (log ++ [.did t ⟨.update m, (env.handle (.update m) w).1⟩]) := by
  obtain ⟨hattempts, m₀, hm₀, hid₀, -⟩ := h.update_finds ho hown
  have hrows : ∀ m', m' ∈ (env.handle (.update m) w).2.outbox.messages ↔
      m' = m ∨ (m' ∈ w.outbox.messages ∧ m'.id ≠ m.id) := by
    intro m'
    refine OutboxTable.mem_update.trans (or_congr_left (and_iff_left ?_))
    exact ⟨m₀, hm₀, hid₀⟩
  have hnext : leaseMonitor.next (.update m) (φ t) (env.handle (.update m) w).1 = .holds .done := by
    have hsome : (env.handle (.update m) w).1 ≠ 0 := fun hzero =>
      OutboxTable.affected_eq_zero.mp hzero m₀ hm₀ hid₀
    cases hn : (env.handle (.update m) w).1 with
    | zero => exact absurd hn hsome
    | succ n => cases φ t <;> rfl
  rw [hnext]
  refine ⟨h.unique_store hrows, h.rows_store hrows (hid₀ ▸ (h.rows m₀ hm₀).1.append) hattempts, ?_,
    h.callers_update trivial (fun _ _ _ _ he => nomatch he) ?_, ?_, ?_,
    h.history.append fun _ _ he => nomatch he⟩
  · intro id' m' hm'
    exact (h.dead id' m' hm').append
  · intro t' m' ht hm' hown'
    rw [overtaken_append, noteOvertaken] at hown'
    split at hown'
    · cases hown'
    · next hnot =>
        obtain ⟨m₁, hm₁, hid, hle⟩ := hm' hown'
        refine ⟨m₁, (hrows m₁).mpr (Or.inr ⟨hm₁, ?_⟩), hid, hle⟩
        intro hid'
        exact hnot ⟨ht.symm, hid'.symm.trans hid⟩
  · exact fun t₁ t₂ m₁ m₂ => h.apart_update (by rintro _ ⟨⟩)
  · intro id' hid
    rw [settled_append] at hid
    obtain ⟨henq, hnone⟩ := h.gone id' hid
    refine ⟨henq.append, ?_⟩
    intro m' hm'
    rcases (hrows m').mp hm' with rfl | ⟨hm', -⟩
    · exact hid₀ ▸ hnone m₀ hm₀
    · exact hnone m' hm'

/-- Who puts a message in the outbox, and which: a new one, or a replay its own. -/
theorem Leased.upsert_cases (h : Leased calls w φ log)
    (ho : leaseMonitor.allow (.upsert m) (φ t)) :
    m.attempts = 0 ∧ ((φ t = .holds (.ready (.enqueue m)) ∧ ¬ Enqueued m.id log) ∨
      (Enqueued m.id log ∧ replayer calls t = true)) := by
  have hcaller := h.callers t
  rcases allow_upsert ho with hq | ⟨m', hq, rfl⟩ | hq
  · rw [hq] at hcaller
    exact ⟨hcaller.1, Or.inl ⟨hq, hcaller.2⟩⟩
  · rw [hq] at hcaller
    exact ⟨rfl, Or.inr hcaller⟩
  · rw [hq] at hcaller
    cases hcaller

theorem Leased.upsert_step (h : Leased calls w φ log) (ho : leaseMonitor.allow (.upsert m) (φ t)) :
    Leased calls (env.handle (.upsert m) w).2 (Function.update φ t (.holds .done))
      (log ++ [.did t ⟨.upsert m, ()⟩]) := by
  obtain ⟨hattempts, hwho⟩ := h.upsert_cases ho
  have hrows : ∀ m', m' ∈ (env.handle (.upsert m) w).2.outbox.messages ↔
      m' = m ∨ (m' ∈ w.outbox.messages ∧ m'.id ≠ m.id) := fun m' => OutboxTable.mem_upsert
  have henq : Enqueued m.id (log ++ [.did t ⟨.upsert m, ()⟩]) := enqueued_append.mpr (Or.inr rfl)
  refine ⟨h.unique_store hrows, h.rows_store hrows henq (by omega), ?_,
    h.callers_update trivial ?_ ?_, ?_, ?_, h.history.append fun _ _ he => nomatch he⟩
  · intro id' m' hm'
    exact (h.dead id' m' hm').append
  · -- a message still to be enqueued has an id of its own
    intro t' m' ht hm' he
    have he : m.id = m'.id := he
    rcases hwho with ⟨hq, -⟩ | ⟨hold, -⟩
    · exact h.apart t' t m' m hm' hq ht he.symm
    · have hnew := h.callers t'
      rw [hm'] at hnew
      exact hnew.2 (he ▸ hold)
  · intro t' m' ht hm' hown
    by_cases hid : m.id = m'.id
    · exact ⟨m, (hrows m).mpr (Or.inl rfl), hid, by omega⟩
    · rw [overtaken_append, noteOvertaken, if_neg hid] at hown
      obtain ⟨m₀, hm₀, hid₀, hle⟩ := hm' hown
      refine ⟨m₀, (hrows m₀).mpr (Or.inr ⟨hm₀, ?_⟩), hid₀, hle⟩
      intro hid'
      exact hid (hid'.symm.trans hid₀)
  · exact fun t₁ t₂ m₁ m₂ => h.apart_update (by rintro _ ⟨⟩)
  · intro id' hid
    rw [settled_append, noteSettled] at hid
    split at hid
    · cases hid
    · next hnot =>
        obtain ⟨hold, hnone⟩ := h.gone id' hid
        refine ⟨hold.append, ?_⟩
        intro m' hm'
        rcases (hrows m').mp hm' with rfl | ⟨hm', -⟩
        · rintro rfl
          rcases hwho with ⟨-, hnew⟩ | ⟨-, hreplay⟩
          · exact hnew hold
          · exact hnot ⟨rfl, hreplay⟩
        · exact hnone m' hm'

/-- **One step.** -/
theorem Leased.step {s : OutboxStatement} (env : OutboxEnv) (h : Leased calls w φ log)
    (ho : leaseMonitor.allow s (φ t)) (hown : ReleasesOwn t s w log) :
    Leased calls (env.handle s w).2
      (Function.update φ t (leaseMonitor.next s (φ t) (env.handle s w).1))
      (log ++ [.did t ⟨s, (env.handle s w).1⟩]) := by
  cases s with
  | lease => exact h.lease_step ho
  | deliver m => exact h.deliver_step ho
  | delete id => exact h.delete_step ho
  | update m => exact h.update_step ho hown
  | upsert m => exact h.upsert_step ho
  | upsertDeadLetter m => exact h.upsertDeadLetter_step ho
  | deleteDeadLetter id => exact h.deleteDeadLetter_step ho

theorem Grows.of_subset (h : Leased calls w φ log)
    (hrows : ∀ m ∈ w'.outbox.messages, m ∈ w.outbox.messages) : Grows w w' := by
  intro m hm m' hm' hid
  rw [h.unique m hm m' (hrows m' hm') hid]

/-- Only a replay makes the stored attempts fall. -/
theorem Leased.grows {s : OutboxStatement} (env : OutboxEnv) (h : Leased calls w φ log)
    (ho : leaseMonitor.allow s (φ t)) (hown : ReleasesOwn t s w log)
    (hreplayer : replayer calls t = false) : Grows w (env.handle s w).2 := by
  cases s with
  | deliver m | upsertDeadLetter m | deleteDeadLetter id => exact .of_subset h fun _ hm => hm
  | lease =>
      have hrows : (env.handle .lease w).2.outbox.messages = w.outbox.messages :=
        OutboxTable.messages_lease
      exact .of_subset h fun m hm => hrows ▸ hm
  | delete id => exact .of_subset h fun m hm => (OutboxTable.mem_delete.mp hm).1
  | update m =>
      obtain ⟨-, m₀, hm₀, hid₀, hle⟩ := h.update_finds ho hown
      intro m₁ hm₁ m' hm' hid
      rcases OutboxTable.mem_update.mp hm' with ⟨rfl, -⟩ | ⟨hm', -⟩
      · rw [h.unique m₁ hm₁ m₀ hm₀ (hid.trans hid₀.symm)]
        exact hle
      · rw [h.unique m₁ hm₁ m' hm' hid]
  | upsert m =>
      intro m₁ hm₁ m' hm' hid
      rcases OutboxTable.mem_upsert.mp hm' with rfl | ⟨hm', -⟩
      · rcases (h.upsert_cases ho).2 with ⟨-, hnew⟩ | ⟨-, hreplay⟩
        · exact absurd (hid ▸ (h.rows m₁ hm₁).1) hnew
        · rw [hreplay] at hreplayer
          cases hreplayer
      · rw [h.unique m₁ hm₁ m' hm' hid]

end Steps

/-! ## Runs -/

section Runs

variable {calls : List OutboxCall} {env : OutboxEnv}

theorem Leased.start (hnew : NewMessages calls) (hlimit : ∀ k, .process k ∈ calls → k + 1 < 2 ^ 32) :
    Leased calls .empty (fun t => .holds (readyAt calls t)) [] := by
  refine ⟨fun m hm => (nomatch hm), fun m hm => (nomatch hm), fun id m hm => (nomatch hm),
    ?_, ?_, fun id hid => (nomatch hid), ?_⟩
  · intro t
    rcases @readyAt_cases calls t with ⟨call, hq⟩ | hq
    · rw [hq]
      have hcall := readyAt_ready hq
      cases call with
      | enqueue m =>
          refine ⟨hnew.fresh m (List.mem_of_getElem? hcall), ?_⟩
          rintro ⟨e, he, -⟩
          cases he
      | process k => exact hlimit k (List.mem_of_getElem? hcall)
      | replay id =>
          show replayer calls t = true
          simp only [replayer, hcall]
    · rw [hq]
      trivial
  · intro t t' m m' ht ht' hne
    have hcall := readyAt_ready (Leasing.holds.inj ht)
    exact hnew.apart hcall (readyAt_ready (Leasing.holds.inj ht')) hne
  · intro pre mid post t t' m hlog
    cases pre <;> cases hlog

theorem Leased.run (hnew : NewMessages calls) (hlimit : ∀ k, .process k ∈ calls → k + 1 < 2 ^ 32)
    {ts : List Nat}
    (hown : Pool.StepsMeetAt ReleasesOwn env.handle.shared ts (OutboxEnv.pool calls)) :
    ∃ φ, Leased calls (env.run calls ts).world φ (env.run calls ts).log ∧
      Pool.AllFollow leaseMonitor (fun _ _ p => p = .holds .done) φ (env.run calls ts) := by
  refine Pool.run_invariant_at (I := Leased calls) ?_ ts (.start hnew hlimit) (pool_follows calls)
    hown
  intro w φ log t s x w' h ho hown hx
  obtain ⟨rfl, rfl⟩ := Handler.shared_eq_some.mp hx
  have hdid := h.step env ho hown
  refine ⟨trivial, hdid, fun r _ => ?_⟩
  rw [List.append_cons]
  exact hdid.returns

/-- **Fencing.**  With limits below the largest `u32`, in every run in which no overtaken
worker releases its message, an acknowledged message is not claimed again unless it is
replayed, and stored attempts fall by replays only. -/
theorem leases_fenced (env : OutboxEnv) (calls : List OutboxCall) (ts : List Nat)
    (hnew : NewMessages calls) (hlimit : ∀ k, .process k ∈ calls → k + 1 < 2 ^ 32)
    (hown : Pool.StepsMeetAt ReleasesOwn env.handle.shared ts (OutboxEnv.pool calls)) :
    Fenced env calls ts := by
  constructor
  · obtain ⟨φ, h, -⟩ := Leased.run hnew hlimit hown
    exact h.history
  · rintro pre t post rfl hreplayer
    obtain ⟨hpre, hstep, -⟩ := Pool.stepsMeetAt_append.mp hown
    obtain ⟨φ, h, hfollow⟩ := Leased.run hnew hlimit hpre
    have hrun : env.run calls (pre ++ [t]) = (env.run calls pre).step env.handle.shared t :=
      Pool.run_append
    rw [hrun]
    rcases Pool.step_cases env.handle.shared (env.run calls pre) t with hs | ⟨s, k, x, w, hk, hx, hs⟩
    · rw [hs]
      exact .of_subset h fun _ hm => hm
    · rw [hs]
      obtain ⟨-, rfl⟩ := Handler.shared_eq_some.mp hx
      exact h.grows env (hfollow t _ hk).1 (hstep.of_next hk rfl) hreplayer

end Runs

namespace Sample

/-- A minute and a half between statements; the order system is up at the fourth only. -/
def brief : OutboxEnv where
  now n := 90 * n
  locked _ _ := false
  deliver n _ := if n = 3 then .ok () else .error "unavailable"

def replicas : List OutboxCall := [.enqueue Sample.notice, .process 5, .process 5, .process 5]

theorem replicas_new : NewMessages replicas where
  fresh m hm := by
    obtain rfl : m = Sample.notice := by simpa [replicas] using hm
    rfl
  distinct := by decide

theorem replicas_limit : ∀ k, .process k ∈ replicas → k + 1 < 2 ^ 32 := by
  intro k hk
  obtain rfl : k = 5 := by simpa [replicas] using hk
  decide

/-- The first replica gives back, after its lease, what the second has delivered. -/
def lateRelease : List PgOutboxEntry :=
  [.returned 2 (.processed (.ok .delivered)),
    .did 1 ⟨.deliver Sample.notice, .error "unavailable"⟩,
    .did 1 ⟨.update Sample.notice.retried, (0 : Nat)⟩,
    .did 1 ⟨.upsert Sample.notice.retried, ()⟩,
    .returned 1 (.processed (.ok (.retrying 1)))]

end Sample

/-- The first replica dies in its delivery, the second delivers, the third finds nothing. -/
theorem leases_fenced_sample : Fenced Sample.brief Sample.replicas [0, 1, 2, 2, 2, 1, 3] :=
  leases_fenced _ _ _ Sample.replicas_new Sample.replicas_limit (by decide +kernel)

/-- A delivered message is put back by a worker whose lease has run out, and claimed again. -/
theorem late_release_reoffers : ¬ ∀ env calls ts, NewMessages calls →
    (∀ k, .process k ∈ calls → k + 1 < 2 ^ 32) → Fenced env calls ts := by
  intro h
  have hlog : (Sample.brief.run Sample.replicas [0, 1, 2, 2, 2, 1, 1, 1, 3]).log =
      (Sample.brief.run Sample.replicas [0, 1, 2, 2]).log ++
        .did 2 ⟨.delete Sample.notice.retried.id, ()⟩ ::
          (Sample.lateRelease ++ .did 3 ⟨.lease, some Sample.notice.retried⟩ :: []) := rfl
  have hnone : ¬ ∃ e ∈ Sample.lateRelease,
      PutsBack Sample.replicas Sample.notice.retried.id e := by
    decide
  have hfenced := h Sample.brief Sample.replicas [0, 1, 2, 2, 2, 1, 1, 1, 3] Sample.replicas_new
    Sample.replicas_limit
  exact hnone (hfenced.settled _ _ _ _ _ _ hlog)

end PgOutbox

end Orchestrator
