/-
# `CommerceOrchestrator.Runtime.Conservation` — the in-memory outbox loses nothing

On the in-memory backend a claim removes the message, an acknowledgement does
nothing and a release puts the message back at the end.  Between these a message
lives in a worker's hands only.  However the operations of workers, replays and
enqueues interleave, every message is in one place at a time, a delivered one
is not offered again, and one that keeps failing is dead-lettered after
`maxAttempts + 1` deliveries (`outbox_conserved`), as long as that number fits
the counter.
-/
import CommerceOrchestrator.Effect.Leads
import CommerceOrchestrator.Effect.Pool
import CommerceOrchestrator.Runtime.Outbox

namespace Orchestrator

open Effect Prog

/-! ## The backend -/

/-- The outbox and the dead letters, and the number of operations performed so far. -/
structure OutboxWorld where
  outbox : Outbox
  deadLetter : Table String OutboxMessage
  clock : Nat

def OutboxWorld.empty : OutboxWorld := ⟨[], ∅, 0⟩

/-- The in-memory stores: `claim` pops the front, `ack` does nothing, `release` pushes
to the back. -/
def memoryHandle (deliverer : Deliverer) : Handler OutboxOp.Ans OutboxWorld := fun o w =>
  let w' := { w with clock := w.clock + 1 }
  match o with
  | .claim => (.ok w.outbox.head?, { w' with outbox := w.outbox.tail })
  | .deliver message => (deliverer w.clock message, w')
  | .ack _ => (.ok (), w')
  | .release message => (.ok (), { w' with outbox := w.outbox.enqueue message })
  | .enqueue message => (.ok (), { w' with outbox := w.outbox.enqueue message })
  | .putDeadLetter message =>
      (.ok (), { w' with deadLetter := w.deadLetter.insert message.id message })
  | .takeDeadLetter messageId =>
      (.ok (w.deadLetter.lookup messageId),
        { w' with deadLetter := w.deadLetter.erase messageId })

abbrev OutboxPool := Pool OutboxOp.Ans OutboxWorld OutboxReport

/-- Calls on empty in-memory stores, interleaved as `ts` says. -/
def outboxRun (deliverer : Deliverer) (calls : List OutboxCall) (ts : List Nat) :
    OutboxPool :=
  Pool.run (memoryHandle deliverer).shared ts
    (Pool.start OutboxWorld.empty (calls.map OutboxCall.prog))

/-! ## What a run shows -/

abbrev OutboxEntry := Entry OutboxOp.Ans OutboxReport

/-- A message with this id has been enqueued. -/
def Enqueued (id : String) (log : List OutboxEntry) : Prop :=
  ∃ t m, .did t ⟨.enqueue m, .ok ()⟩ ∈ log ∧ m.id = id

/-- A message with this id has been delivered. -/
def Delivered (id : String) (log : List OutboxEntry) : Prop :=
  ∃ t m, .did t ⟨.deliver m, .ok ()⟩ ∈ log ∧ m.id = id

/-- What thread `t` has in its hands after one more entry. -/
def noteHand (t : Nat) (hand : Option String) : OutboxEntry → Option String
  | .did t' ⟨.claim, .ok (some m)⟩ => if t' = t then some m.id else hand
  | .did t' ⟨.takeDeadLetter _, .ok (some m)⟩ => if t' = t then some m.id else hand
  | .did _ ⟨.deliver _, .error _⟩ => hand
  | .did t' _ => if t' = t then none else hand
  | .returned _ _ => hand

/-- The id of the message thread `t` has taken out of a store and not yet delivered or
put back. -/
def handOf (t : Nat) (log : List OutboxEntry) : Option String := log.foldl (noteHand t) none

/-- The deliveries of a message after one more entry. -/
def noteDelivery (id : String) (n : Nat) : OutboxEntry → Nat
  | .did _ ⟨.deliver m, _⟩ => if m.id = id then n + 1 else n
  | .did _ ⟨.enqueue m, _⟩ => if m.id = id then 0 else n
  | _ => n

/-- The deliveries of a message since it was enqueued or last replayed. -/
def deliveries (id : String) (log : List OutboxEntry) : Nat := log.foldl (noteDelivery id) 0

/-- Where a message can be. -/
inductive Place
  | queued
  | held (t : Nat)
  | deadLettered
  | delivered
deriving DecidableEq

/-- A message with this id is at the place. -/
def At (P : OutboxPool) (id : String) : Place → Prop
  | .queued => ∃ m ∈ P.world.outbox, m.id = id
  | .held t => handOf t P.log = some id
  | .deadLettered => (P.world.deadLetter.lookup id).isSome
  | .delivered => Delivered id P.log

/-- No delivered message is claimed again. -/
def NotReoffered (log : List OutboxEntry) : Prop :=
  ∀ pre post t m, log = pre ++ .did t ⟨.deliver m, .ok ()⟩ :: post →
    ∀ t' m', .did t' ⟨.claim, .ok (some m')⟩ ∈ post → m'.id ≠ m.id

structure Conserved (maxAttempts : Nat) (P : OutboxPool) : Prop where
  /-- Every enqueued message is at exactly one place, and there once. -/
  placed : ∀ id, Enqueued id P.log → ∃ p, At P id p ∧ ∀ q, At P id q → q = p
  once : (P.world.outbox.map (·.id)).Nodup
  settled : NotReoffered P.log
  /-- A message in the queue has attempts left, a dead letter has used them all up. -/
  queued : ∀ m ∈ P.world.outbox, deliveries m.id P.log ≤ maxAttempts
  dead : ∀ id, (P.world.deadLetter.lookup id).isSome → deliveries id P.log = maxAttempts + 1
  bounded : ∀ id, deliveries id P.log ≤ maxAttempts + 1
  /-- One that has used them up and was never delivered is a dead letter, or its last
  delivery or its replay is still in progress. -/
  exhausted : ∀ id, Enqueued id P.log → deliveries id P.log = maxAttempts + 1 →
    At P id .deadLettered ∨ At P id .delivered ∨ ∃ t, At P id (.held t)
  /-- A call that has returned has disposed of its message. -/
  returned : ∀ t r, .returned t r ∈ P.log → handOf t P.log = none

/-! ## Logs -/

section Logs

variable {log : List OutboxEntry} {t t' : Nat} {id : String} {e : OutboxEntry}

theorem handOf_append : handOf t (log ++ [e]) = noteHand t (handOf t log) e := by
  rw [handOf, List.foldl_append]
  rfl

theorem deliveries_append : deliveries id (log ++ [e]) = noteDelivery id (deliveries id log) e := by
  rw [deliveries, List.foldl_append]
  rfl

/-- The entry enqueues the message. -/
def Enqueues (id : String) : OutboxEntry → Prop
  | .did _ ⟨.enqueue m, .ok _⟩ => m.id = id
  | _ => False

/-- The entry delivers the message. -/
def Delivers (id : String) : OutboxEntry → Prop
  | .did _ ⟨.deliver m, .ok _⟩ => m.id = id
  | _ => False

theorem enqueued_append : Enqueued id (log ++ [e]) ↔ Enqueued id log ∨ Enqueues id e := by
  simp only [Enqueued, List.mem_append, List.mem_singleton]
  constructor
  · rintro ⟨t, m, hm | rfl, hid⟩
    · exact Or.inl ⟨t, m, hm, hid⟩
    · exact Or.inr hid
  · rintro (⟨t, m, hm, hid⟩ | he)
    · exact ⟨t, m, Or.inl hm, hid⟩
    · unfold Enqueues at he
      split at he
      · next t m _ => exact ⟨t, m, Or.inr rfl, he⟩
      · cases he

theorem delivered_append : Delivered id (log ++ [e]) ↔ Delivered id log ∨ Delivers id e := by
  simp only [Delivered, List.mem_append, List.mem_singleton]
  constructor
  · rintro ⟨t, m, hm | rfl, hid⟩
    · exact Or.inl ⟨t, m, hm, hid⟩
    · exact Or.inr hid
  · rintro (⟨t, m, hm, hid⟩ | he)
    · exact ⟨t, m, Or.inl hm, hid⟩
    · unfold Delivers at he
      split at he
      · next t m _ => exact ⟨t, m, Or.inr rfl, he⟩
      · cases he

end Logs

/-! ## Places -/

/-- Where the stores, the callers' hands and the log have the message. -/
def Occupies (w : OutboxWorld) (φ : Nat → Holding) (log : List OutboxEntry) :
    Place → String → Prop
  | .queued, id => ∃ m ∈ w.outbox, m.id = id
  | .held t, id => (φ t).message.map (·.id) = some id
  | .deadLettered, id => (w.deadLetter.lookup id).isSome
  | .delivered, id => Delivered id log

/-- `loc` says where each message is. -/
structure Located (w : OutboxWorld) (φ : Nat → Holding) (log : List OutboxEntry)
    (loc : String → Option Place) : Prop where
  occupies : ∀ p id, Occupies w φ log p id ↔ loc id = some p
  enqueued : ∀ id, Enqueued id log ↔ (loc id).isSome
  hand : ∀ t, handOf t log = (φ t).message.map (·.id)
  once : (w.outbox.map (·.id)).Nodup
  filed : ∀ id m, w.deadLetter.lookup id = some m → m.id = id
  fresh : ∀ t m, φ t = .ready (.enqueue m) → loc m.id = none
  apart : ∀ t t' m m', φ t = .ready (.enqueue m) → φ t' = .ready (.enqueue m') → t ≠ t' →
    m.id ≠ m'.id

section Places

variable {w w' : OutboxWorld} {φ : Nat → Holding} {log : List OutboxEntry} {e : OutboxEntry}
  {loc : String → Option Place} {t : Nat} {id : String} {p p' : Place} {q : Holding}

/-- One step of caller `t`: the message `id` goes from `origin` to `p'`, and nothing else moves. -/
structure Carries (w w' : OutboxWorld) (φ : Nat → Holding) (log : List OutboxEntry)
    (e : OutboxEntry) (t : Nat) (q : Holding) (id : String) (origin : Option Place) (p' : Place) : Prop where
  arrives : Occupies w' (Function.update φ t q) (log ++ [e]) p' id
  leaves : ∀ p, origin = some p → p ≠ p' →
    ¬ Occupies w' (Function.update φ t q) (log ++ [e]) p id
  queue : ∀ j, j ≠ id ∨ (origin ≠ some .queued ∧ p' ≠ .queued) →
    ((∃ m ∈ w'.outbox, m.id = j) ↔ ∃ m ∈ w.outbox, m.id = j) := by exact fun _ _ => Iff.rfl
  dead : ∀ j, j ≠ id ∨ (origin ≠ some .deadLettered ∧ p' ≠ .deadLettered) →
    ((w'.deadLetter.lookup j).isSome ↔ (w.deadLetter.lookup j).isSome) := by
    exact fun _ _ => Iff.rfl
  delivers : ∀ j, Delivers j e → j = id ∧ p' = .delivered := by exact fun _ h => nomatch h
  enqueues : ∀ j, Enqueues j e → j = id := by exact fun _ h => nomatch h
  held : ∀ j, (φ t).message.map (·.id) = some j → j = id
  holds : ∀ j, q.message.map (·.id) = some j → j = id ∧ p' = .held t
  hand : ∀ t', noteHand t' ((φ t').message.map (·.id)) e =
    (Function.update φ t q t').message.map (·.id)
  once : (w'.outbox.map (·.id)).Nodup
  filed : ∀ id m, w'.deadLetter.lookup id = some m → m.id = id
  settled : ∀ m, q ≠ .ready (.enqueue m) := by exact fun _ h => nomatch h

theorem Carries.frame {origin : Option Place} (hm : Carries w w' φ log e t q id origin p')
    (h : Located w φ log loc) (horigin : loc id = origin) {j : String}
    (hj : j ≠ id ∨ (origin ≠ some p ∧ p' ≠ p)) :
    Occupies w' (Function.update φ t q) (log ++ [e]) p j ↔ Occupies w φ log p j := by
  cases p with
  | queued => exact hm.queue j hj
  | deadLettered => exact hm.dead j hj
  | delivered =>
      refine delivered_append.trans (or_iff_left fun he => ?_)
      obtain ⟨hid, hp⟩ := hm.delivers j he
      rcases hj with hj | hj
      · exact hj hid
      · exact hj.2 hp
  | held t' =>
      by_cases ht : t' = t
      · subst ht
        show (Function.update φ t' q t').message.map (·.id) = some j ↔ _
        rw [Function.update_self]
        constructor
        · intro hq
          obtain ⟨hid, hp⟩ := hm.holds j hq
          rcases hj with hj | hj
          · exact absurd hid hj
          · exact absurd hp hj.2
        · intro hφ
          have hid := hm.held j hφ
          rcases hj with hj | hj
          · exact absurd hid hj
          · have hloc := (h.occupies (.held t') j).mp hφ
            rw [hid] at hloc
            exact absurd (horigin.symm.trans hloc) hj.1
      · show (Function.update φ t q t').message.map (·.id) = some j ↔ _
        rw [Function.update_of_ne ht]
        exact Iff.rfl

/-- A caller still ready to enqueue after a step of `t` was so before, and is another. -/
theorem update_ready {m : OutboxMessage} {t' : Nat} (hq : ∀ m, q ≠ .ready (.enqueue m))
    (h : Function.update φ t q t' = .ready (.enqueue m)) :
    t' ≠ t ∧ φ t' = .ready (.enqueue m) := by
  by_cases ht : t' = t
  · rw [ht, Function.update_self] at h
    exact absurd h (hq m)
  · rw [Function.update_of_ne ht] at h
    exact ⟨ht, h⟩

theorem Located.move {origin : Option Place} (h : Located w φ log loc)
    (hm : Carries w w' φ log e t q id origin p') (horigin : loc id = origin)
    (henqueued : Enqueued id (log ++ [e]))
    (hfresh : ∀ t' m, t' ≠ t → φ t' = .ready (.enqueue m) → m.id ≠ id) :
    Located w' (Function.update φ t q) (log ++ [e]) (Function.update loc id (some p')) := by
  refine ⟨?_, ?_, ?_, hm.once, hm.filed, ?_, ?_⟩
  · intro p j
    by_cases hj : j = id
    · subst hj
      rw [Function.update_self, Option.some.injEq]
      constructor
      · intro hocc
        by_contra hne
        by_cases hp : origin = some p
        · exact hm.leaves p hp (fun hr => hne hr.symm) hocc
        · have hloc := (h.occupies p j).mp ((hm.frame h horigin (Or.inr ⟨hp, hne⟩)).mp hocc)
          exact hp (horigin.symm.trans hloc)
      · rintro rfl
        exact hm.arrives
    · rw [Function.update_of_ne hj, hm.frame h horigin (Or.inl hj)]
      exact h.occupies p j
  · refine (Function.forall_update_iff loc fun j x => Enqueued j (log ++ [e]) ↔ x.isSome).mpr
      ⟨iff_of_true henqueued rfl, ?_⟩
    intro j hj
    rw [← h.enqueued j, enqueued_append]
    exact or_iff_left fun he => hj (hm.enqueues j he)
  · intro t'
    rw [handOf_append, h.hand t']
    exact hm.hand t'
  · intro t' m ht'
    obtain ⟨hne, hφ⟩ := update_ready hm.settled ht'
    rw [Function.update_of_ne (hfresh t' m hne hφ)]
    exact h.fresh t' m hφ
  · intro t₁ t₂ m₁ m₂ h₁ h₂
    exact h.apart t₁ t₂ m₁ m₂ (update_ready hm.settled h₁).2 (update_ready hm.settled h₂).2

theorem Located.held_loc {m : OutboxMessage} (h : Located w φ log loc)
    (ht : (φ t).message = some m) : loc m.id = some (.held t) := by
  refine (h.occupies (.held t) m.id).mp ?_
  show (φ t).message.map (·.id) = some m.id
  rw [ht]
  rfl

/-! ### The moves -/

/-- Entries of `t` that leave it with `hand` and leave the others' hands alone. -/
theorem hand_update {hand : Option String} (hq : q.message.map (·.id) = hand)
    (hself : ∀ h, noteHand t h e = hand) (hother : ∀ t' h, t' ≠ t → noteHand t' h e = h) :
    ∀ t', noteHand t' ((φ t').message.map (·.id)) e =
      (Function.update φ t q t').message.map (·.id) := by
  intro t'
  by_cases ht : t' = t
  · rw [ht, Function.update_self, hself, hq]
  · rw [Function.update_of_ne ht, hother _ _ ht]

/-- A caller that holds `m` and no other message. -/
theorem held_eq {m : OutboxMessage} (ht : (φ t).message = some m) :
    ∀ j, (φ t).message.map (·.id) = some j → j = m.id := by
  rw [ht]
  rintro j ⟨⟩
  rfl

theorem held_none (ht : (φ t).message = none) :
    ∀ j, (φ t).message.map (·.id) = some j → j = id := by
  rw [ht]
  rintro j ⟨⟩

theorem not_occupies_held (hq : q.message = none) :
    ¬ Occupies w' (Function.update φ t q) (log ++ [e]) (.held t) id := by
  show ¬ (Function.update φ t q t).message.map (·.id) = some id
  rw [Function.update_self, hq]
  rintro ⟨⟩

theorem occupies_held {m : OutboxMessage} (hq : q.message = some m) :
    Occupies w' (Function.update φ t q) (log ++ [e]) (.held t) m.id := by
  show (Function.update φ t q t).message.map (·.id) = some m.id
  rw [Function.update_self, hq]
  rfl

theorem Located.claims {k : Nat} {m : OutboxMessage} {rest : Outbox} (h : Located w φ log loc)
    (ht : φ t = .ready (.process k)) (hw : w.outbox = m :: rest) :
    Carries w { w with clock := w.clock + 1, outbox := rest } φ log
      (.did t ⟨.claim, .ok (some m)⟩) t (.claimed k m) m.id (some .queued) (.held t) := by
  have honce := h.once
  rw [hw, List.map_cons, List.nodup_cons] at honce
  refine
    { arrives := occupies_held rfl
      leaves := ?_
      queue := ?_
      held := held_none (by rw [ht]; rfl)
      holds := ?_
      hand := hand_update rfl (fun _ => if_pos rfl) fun t' _ hne => if_neg hne.symm
      once := honce.2
      filed := h.filed }
  · rintro p hp - hocc
    cases hp
    obtain ⟨m', hm', hid⟩ := hocc
    exact honce.1 (hid ▸ List.mem_map_of_mem hm')
  · intro j hj
    have hj : j ≠ m.id := hj.resolve_right fun hj => hj.1 rfl
    rw [hw]
    simp [Ne.symm hj]
  · rintro j ⟨⟩
    exact ⟨rfl, rfl⟩

theorem Located.delivers {k : Nat} {m : OutboxMessage} (h : Located w φ log loc)
    (ht : φ t = .claimed k m) :
    Carries w { w with clock := w.clock + 1 } φ log (.did t ⟨.deliver m, .ok ()⟩) t (.delivered m)
      m.id (some (.held t)) .delivered where
  arrives := delivered_append.mpr (Or.inr rfl)
  leaves p hp _ := by
    cases hp
    exact not_occupies_held rfl
  delivers _ hj := ⟨hj.symm, rfl⟩
  held := held_eq (by rw [ht]; rfl)
  holds _ hj := nomatch hj
  hand := hand_update rfl (fun _ => if_pos rfl) fun t' _ hne => if_neg hne.symm
  once := h.once
  filed := h.filed

theorem Located.fails {k : Nat} {m : OutboxMessage} {x : String} (h : Located w φ log loc)
    (ht : φ t = .claimed k m) :
    Carries w { w with clock := w.clock + 1 } φ log (.did t ⟨.deliver m, .error x⟩) t
      (.failed k m.retried) m.id (some (.held t)) (.held t) where
  arrives := occupies_held (m := m.retried) rfl
  leaves p hp hne := by
    cases hp
    exact absurd rfl hne
  held := held_eq (by rw [ht]; rfl)
  holds _ hj := by
    cases hj
    exact ⟨rfl, rfl⟩
  hand t' := by
    show (φ t').message.map (·.id) = _
    by_cases hne : t' = t
    · subst hne
      rw [Function.update_self, ht]
      rfl
    · rw [Function.update_of_ne hne]
  once := h.once
  filed := h.filed

/-- Pushing a message that is not in the queue. -/
theorem Located.pushes {m : OutboxMessage} {origin : Option Place} (h : Located w φ log loc)
    (horigin : loc m.id = origin) (hne : origin ≠ some .queued)
    (hleaves : ∀ p, origin = some p → p = .held t)
    (hheld : ∀ j, (φ t).message.map (·.id) = some j → j = m.id)
    (hdelivers : ∀ j, ¬ Delivers j e) (henqueues : ∀ j, Enqueues j e → j = m.id)
    (hself : ∀ h, noteHand t h e = none) (hother : ∀ t' h, t' ≠ t → noteHand t' h e = h) :
    Carries w { w with clock := w.clock + 1, outbox := w.outbox.enqueue m } φ log e t .done m.id
      origin .queued where
  arrives := ⟨m, List.mem_append_right _ (List.mem_singleton_self m), rfl⟩
  leaves p hp _ := by
    obtain rfl := hleaves p hp
    exact not_occupies_held rfl
  queue j hj := by
    have hj : j ≠ m.id := hj.resolve_right fun hj => hj.2 rfl
    simp [Outbox.enqueue, or_and_right, exists_or, Ne.symm hj]
  delivers j hj := absurd hj (hdelivers j)
  enqueues := henqueues
  held := hheld
  holds _ hj := nomatch hj
  hand := hand_update rfl hself hother
  once := by
    have hnew : m.id ∉ w.outbox.map (·.id) := by
      intro hm
      obtain ⟨m', hm', hid⟩ := List.mem_map.mp hm
      exact hne (horigin.symm.trans ((h.occupies .queued m.id).mp ⟨m', hm', hid⟩))
    rw [Outbox.enqueue, List.map_append]
    exact List.nodup_append.mpr ⟨h.once, List.nodup_singleton _, by simpa using hnew⟩
  filed := h.filed

theorem Located.parks {k : Nat} {m : OutboxMessage} (h : Located w φ log loc)
    (ht : φ t = .failed k m) :
    Carries w { w with clock := w.clock + 1, deadLetter := w.deadLetter.insert m.id m } φ log
      (.did t ⟨.putDeadLetter m, .ok ()⟩) t (.parked m) m.id (some (.held t)) .deadLettered where
  arrives := by
    show ((w.deadLetter.insert m.id m).lookup m.id).isSome
    rw [AList.lookup_insert]
    rfl
  leaves p hp _ := by
    cases hp
    exact not_occupies_held rfl
  dead j hj := by
    have hj : j ≠ m.id := hj.resolve_right fun hj => hj.2 rfl
    rw [AList.lookup_insert_ne hj]
  held := held_eq (by rw [ht]; rfl)
  holds _ hj := nomatch hj
  hand := hand_update rfl (fun _ => if_pos rfl) fun t' _ hne => if_neg hne.symm
  once := h.once
  filed j m' hm' := by
    rw [Table.lookup_insert_ite] at hm'
    split at hm'
    · next hj => exact Option.some.inj hm' ▸ hj.symm
    · exact h.filed j m' hm'

theorem Located.takes {m : OutboxMessage} {id : String} (h : Located w φ log loc)
    (ht : φ t = .ready (.replay id)) (hlookup : w.deadLetter.lookup id = some m) :
    Carries w { w with clock := w.clock + 1, deadLetter := w.deadLetter.erase id } φ log
      (.did t ⟨.takeDeadLetter id, .ok (some m)⟩) t (.taken m) m.id (some .deadLettered)
      (.held t) := by
  obtain rfl := h.filed id m hlookup
  exact
    { arrives := occupies_held rfl
      leaves := by
        rintro p hp - hocc
        cases hp
        rw [Occupies, AList.lookup_erase] at hocc
        cases hocc
      dead := by
        intro j hj
        have hj : j ≠ m.id := hj.resolve_right fun hj => hj.1 rfl
        rw [AList.lookup_erase_ne hj]
      held := held_none (by rw [ht]; rfl)
      holds := by
        rintro j ⟨⟩
        exact ⟨rfl, rfl⟩
      hand := hand_update rfl (fun _ => if_pos rfl) fun t' _ hne => if_neg hne.symm
      once := h.once
      filed := by
        intro j m' hm'
        rw [Table.lookup_erase_ite] at hm'
        split at hm'
        · cases hm'
        · exact h.filed j m' hm' }

/-- A caller that is done without having moved anything. -/
theorem Located.idles (h : Located w φ log loc) (ht : (φ t).message = none)
    (houtbox : w'.outbox = w.outbox)
    (hdead : ∀ j, w'.deadLetter.lookup j = w.deadLetter.lookup j)
    (hdelivers : ∀ j, ¬ Delivers j e) (henqueues : ∀ j, ¬ Enqueues j e)
    (hself : ∀ h, noteHand t h e = none) (hother : ∀ t' h, t' ≠ t → noteHand t' h e = h) :
    Located w' (Function.update φ t .done) (log ++ [e]) loc := by
  have hmessage : ∀ t', (Function.update φ t .done t').message = (φ t').message :=
    (Function.forall_update_iff φ fun t' q => q.message = (φ t').message).mpr
      ⟨ht.symm, fun _ _ => rfl⟩
  have hdone : ∀ m, Holding.done ≠ .ready (.enqueue m) := fun _ hq => nomatch hq
  refine ⟨?_, ?_, ?_, houtbox ▸ h.once, ?_, ?_, ?_⟩
  · intro p j
    rw [← h.occupies p j]
    cases p with
    | queued =>
        show (∃ m ∈ w'.outbox, m.id = j) ↔ _
        rw [houtbox]
        exact Iff.rfl
    | held t' =>
        show (Function.update φ t .done t').message.map (·.id) = some j ↔ _
        rw [hmessage]
        exact Iff.rfl
    | deadLettered =>
        show (w'.deadLetter.lookup j).isSome ↔ _
        rw [hdead]
        exact Iff.rfl
    | delivered => exact delivered_append.trans (or_iff_left (hdelivers j))
  · intro j
    rw [← h.enqueued j]
    exact enqueued_append.trans (or_iff_left (henqueues j))
  · intro t'
    rw [handOf_append, h.hand]
    exact hand_update rfl hself hother t'
  · intro j m hm
    rw [hdead] at hm
    exact h.filed j m hm
  · intro t' m ht'
    exact h.fresh t' m (update_ready hdone ht').2
  · intro t₁ t₂ m₁ m₂ h₁ h₂
    exact h.apart t₁ t₂ m₁ m₂ (update_ready hdone h₁).2 (update_ready hdone h₂).2

end Places

/-! ## Attempts -/

/-- The attempts a caller's message carries are its deliveries so far. -/
def Tallied (maxAttempts : Nat) (log : List OutboxEntry) : Holding → Prop
  | .ready (.process k) => k = maxAttempts
  | .ready (.enqueue m) => m.attempts = 0
  | .claimed k m =>
      k = maxAttempts ∧ m.attempts = deliveries m.id log ∧ m.attempts ≤ maxAttempts
  | .failed k m =>
      k = maxAttempts ∧ m.attempts = deliveries m.id log ∧ m.attempts ≤ maxAttempts + 1
  | .taken m => deliveries m.id log = maxAttempts + 1
  | _ => True

structure Counted (maxAttempts : Nat) (w : OutboxWorld) (φ : Nat → Holding)
    (log : List OutboxEntry) : Prop where
  queued : ∀ m ∈ w.outbox, m.attempts = deliveries m.id log ∧ m.attempts ≤ maxAttempts
  dead : ∀ id, (w.deadLetter.lookup id).isSome → deliveries id log = maxAttempts + 1
  tallied : ∀ t, Tallied maxAttempts log (φ t)
  bounded : ∀ id, deliveries id log ≤ maxAttempts + 1

theorem Tallied.congr {maxAttempts : Nat} {log log' : List OutboxEntry} {q : Holding}
    (h : Tallied maxAttempts log q)
    (hlog : ∀ m, q.message = some m → deliveries m.id log' = deliveries m.id log) :
    Tallied maxAttempts log' q := by
  cases q with
  | ready call => cases call <;> exact h
  | claimed k m =>
      refine ⟨h.1, ?_, h.2.2⟩
      rw [hlog m rfl]
      exact h.2.1
  | failed k m =>
      refine ⟨h.1, ?_, h.2.2⟩
      rw [hlog m rfl]
      exact h.2.1
  | taken m => exact (hlog m rfl).trans h
  | parked m | delivered m | done => trivial

section Counting

variable {maxAttempts : Nat} {w w' : OutboxWorld} {φ : Nat → Holding} {log : List OutboxEntry}
  {e : OutboxEntry} {loc : String → Option Place} {t : Nat} {q : Holding} {id : String}

/-- A step that counts no delivery. -/
theorem Counted.step (h : Counted maxAttempts w φ log) (he : ∀ j n, noteDelivery j n e = n)
    (hqueued : ∀ m ∈ w'.outbox, m ∈ w.outbox ∨
      (m.attempts = deliveries m.id log ∧ m.attempts ≤ maxAttempts))
    (hdead : ∀ j, (w'.deadLetter.lookup j).isSome → (w.deadLetter.lookup j).isSome ∨
      deliveries j log = maxAttempts + 1)
    (hq : Tallied maxAttempts log q) :
    Counted maxAttempts w' (Function.update φ t q) (log ++ [e]) := by
  have hsame : ∀ j, deliveries j (log ++ [e]) = deliveries j log := by
    intro j
    rw [deliveries_append, he]
  refine ⟨?_, ?_, ?_, ?_⟩
  · intro m hm
    rw [hsame]
    rcases hqueued m hm with hm | hm
    · exact h.queued m hm
    · exact hm
  · intro j hj
    rw [hsame]
    rcases hdead j hj with hj | hj
    · exact h.dead j hj
    · exact hj
  · refine (Function.forall_update_iff φ fun _ => Tallied maxAttempts (log ++ [e])).mpr ⟨?_, ?_⟩
    · exact hq.congr fun m _ => hsame m.id
    · intro t' _
      exact (h.tallied t').congr fun m _ => hsame m.id
  · intro j
    rw [hsame]
    exact h.bounded j

/-- A step that changes the count of one message, which is with `t` or nowhere. -/
theorem Counted.step_at (h : Counted maxAttempts w φ log) (hl : Located w φ log loc)
    (hloc : ∀ p, loc id = some p → p = .held t) (he : ∀ j n, j ≠ id → noteDelivery j n e = n)
    (hqueued : ∀ m ∈ w'.outbox, m ∈ w.outbox ∨
      (m.attempts = deliveries m.id (log ++ [e]) ∧ m.attempts ≤ maxAttempts))
    (hdead : w'.deadLetter = w.deadLetter) (hq : Tallied maxAttempts (log ++ [e]) q)
    (hbounded : deliveries id (log ++ [e]) ≤ maxAttempts + 1) :
    Counted maxAttempts w' (Function.update φ t q) (log ++ [e]) := by
  have hsame : ∀ j, j ≠ id → deliveries j (log ++ [e]) = deliveries j log := by
    intro j hj
    rw [deliveries_append, he j _ hj]
  -- a message that is elsewhere is another message
  have hother {p : Place} {j : String} (hj : loc j = some p) (hp : p ≠ .held t) : j ≠ id := by
    rintro rfl
    exact hp (hloc p hj)
  refine ⟨?_, ?_, ?_, ?_⟩
  · intro m hm
    rcases hqueued m hm with hm | hm
    · have hne := hother ((hl.occupies .queued m.id).mp ⟨m, hm, rfl⟩) (fun hp => nomatch hp)
      rw [hsame m.id hne]
      exact h.queued m hm
    · exact hm
  · intro j hj
    rw [hdead] at hj
    rw [hsame j (hother ((hl.occupies .deadLettered j).mp hj) fun hp => nomatch hp)]
    exact h.dead j hj
  · refine (Function.forall_update_iff φ fun _ => Tallied maxAttempts (log ++ [e])).mpr ⟨hq, ?_⟩
    intro t' hne
    refine (h.tallied t').congr ?_
    intro m hm
    refine hsame m.id (hother (hl.held_loc hm) ?_)
    rintro ⟨⟩
    exact hne rfl
  · intro j
    by_cases hj : j = id
    · rw [hj]
      exact hbounded
    · rw [hsame j hj]
      exact h.bounded j

end Counting

/-! ## Runs -/

theorem NotReoffered.append {log : List OutboxEntry} {e : OutboxEntry} (h : NotReoffered log)
    (he : ∀ t m, e = .did t ⟨.claim, .ok (some m)⟩ → ¬ Delivered m.id log) :
    NotReoffered (log ++ [e]) := by
  intro pre post t m hlog t' m' hm'
  rcases List.eq_nil_or_concat post with rfl | ⟨post', e', rfl⟩
  · cases hm'
  · rw [List.concat_eq_append] at hlog hm'
    rw [← List.cons_append, ← List.append_assoc] at hlog
    obtain ⟨rfl, he'⟩ := List.append_inj' hlog rfl
    obtain rfl := List.singleton_inj.mp he'
    rcases List.mem_append.mp hm' with hm' | hm'
    · exact h pre post' t m rfl t' m' hm'
    · intro hid
      refine he t' m' (List.mem_singleton.mp hm').symm ⟨t, m, ?_, hid.symm⟩
      exact List.mem_append_right _ List.mem_cons_self

/-- What every step keeps. -/
structure Sound (maxAttempts : Nat) (w : OutboxWorld) (φ : Nat → Holding)
    (log : List OutboxEntry) : Prop where
  located : ∃ loc, Located w φ log loc
  counted : Counted maxAttempts w φ log
  settled : NotReoffered log
  returned : ∀ t r, .returned t r ∈ log → φ t = .done

section Steps

variable {maxAttempts : Nat} {deliverer : Deliverer} {w w' : OutboxWorld} {φ : Nat → Holding}
  {log : List OutboxEntry} {loc : String → Option Place} {t : Nat} {o : OutboxOp} {q : Holding}

/-- A step of a caller that has not returned. -/
theorem Sound.of_step {e : Event OutboxOp.Ans} {loc' : String → Option Place}
    (h : Sound maxAttempts w φ log) (ht : φ t ≠ .done)
    (hlocated : Located w' (Function.update φ t q) (log ++ [.did t e]) loc')
    (hcounted : Counted maxAttempts w' (Function.update φ t q) (log ++ [.did t e]))
    (hclaim : ∀ m, e = ⟨.claim, .ok (some m)⟩ → ¬ Delivered m.id log) :
    Sound maxAttempts w' (Function.update φ t q) (log ++ [.did t e]) := by
  refine ⟨⟨loc', hlocated⟩, hcounted, h.settled.append ?_, ?_⟩
  · rintro t' m ⟨⟩
    exact hclaim m rfl
  · intro t' r hr
    have hr : .returned t' r ∈ log := by simpa using hr
    have hdone := h.returned t' r hr
    have hne : t' ≠ t := fun heq => ht (heq ▸ hdone)
    rwa [Function.update_of_ne hne]

theorem Sound.returns {e : OutboxEntry} {r : OutboxReport}
    (h : Sound maxAttempts w φ (log ++ [e])) (ht : φ t = .done) :
    Sound maxAttempts w φ (log ++ [e, .returned t r]) := by
  rw [List.append_cons]
  obtain ⟨loc, hl⟩ := h.located
  have hsame : ∀ j, deliveries j (log ++ [e] ++ [.returned t r]) = deliveries j (log ++ [e]) :=
    fun j => deliveries_append
  refine ⟨⟨loc, ?_⟩, ?_, h.settled.append (fun _ _ he => nomatch he), ?_⟩
  · refine ⟨?_, ?_, ?_, hl.once, hl.filed, hl.fresh, hl.apart⟩
    · intro p j
      rw [← hl.occupies p j]
      cases p with
      | delivered => exact delivered_append.trans (or_iff_left fun he => nomatch he)
      | queued | held _ | deadLettered => exact Iff.rfl
    · intro j
      rw [← hl.enqueued j]
      exact enqueued_append.trans (or_iff_left fun he => nomatch he)
    · intro t'
      rw [handOf_append]
      exact hl.hand t'
  · refine ⟨?_, ?_, ?_, ?_⟩
    · intro m hm
      rw [hsame]
      exact h.counted.queued m hm
    · intro j hj
      rw [hsame]
      exact h.counted.dead j hj
    · intro t'
      exact (h.counted.tallied t').congr fun m _ => hsame m.id
    · intro j
      rw [hsame]
      exact h.counted.bounded j
  · intro t' r' hr
    rcases List.mem_append.mp hr with hr | hr
    · exact h.returned t' r' hr
    · cases List.mem_singleton.mp hr
      exact ht

/-- The message a caller holds was enqueued, and no caller is about to enqueue another of
its id. -/
theorem Located.known {id : String} {p : Place} (h : Located w φ log loc) (hloc : loc id = some p) :
    Enqueued id log ∧ ∀ t' m, φ t' = .ready (.enqueue m) → m.id ≠ id := by
  refine ⟨(h.enqueued id).mpr (hloc ▸ rfl), ?_⟩
  intro t' m ht' hid
  have hnone := h.fresh t' m ht'
  rw [hid, hloc] at hnone
  cases hnone

/-- A step that moves a message already enqueued. -/
theorem Sound.of_move {e : Event OutboxOp.Ans} {id : String} {p p' : Place}
    (h : Sound maxAttempts w φ log) (hl : Located w φ log loc) (ht : φ t ≠ .done)
    (hloc : loc id = some p) (hm : Carries w w' φ log (.did t e) t q id (some p) p')
    (hcounted : Counted maxAttempts w' (Function.update φ t q) (log ++ [.did t e]))
    (hclaim : ∀ m, e = ⟨.claim, .ok (some m)⟩ → ¬ Delivered m.id log) :
    Sound maxAttempts w' (Function.update φ t q) (log ++ [.did t e]) := by
  obtain ⟨henq, hfresh⟩ := hl.known hloc
  refine h.of_step ht (hl.move hm hloc (enqueued_append.mpr (Or.inl henq)) ?_) hcounted hclaim
  exact fun t' m _ ht' => hfresh t' m ht'

theorem Sound.claim_step {k : Nat} (h : Sound maxAttempts w φ log) (ht : φ t = .ready (.process k)) :
    Sound maxAttempts (memoryHandle deliverer .claim w).2
      (Function.update φ t (outboxMonitor.next .claim (φ t) (memoryHandle deliverer .claim w).1))
      (log ++ [.did t ⟨.claim, (memoryHandle deliverer .claim w).1⟩]) := by
  obtain ⟨loc, hl⟩ := h.located
  have hlive : φ t ≠ .done := by simp [ht]
  have hk : Tallied maxAttempts log (φ t) := h.counted.tallied t
  rw [ht] at hk
  cases hw : w.outbox with
  | nil =>
      have hanswer : memoryHandle deliverer .claim w =
          (.ok none, { w with clock := w.clock + 1 }) := by
        simp only [memoryHandle, hw]
        simp
      rw [hanswer, ht]
      refine h.of_step hlive (hl.idles (by rw [ht]; rfl) rfl (fun _ => rfl) (fun _ h => nomatch h)
        (fun _ h => nomatch h) (fun _ => if_pos rfl) fun t' _ hne => if_neg hne.symm) ?_ ?_
      · exact h.counted.step (fun _ _ => rfl) (fun m hm => Or.inl hm) (fun j hj => Or.inl hj) trivial
      · rintro m ⟨⟩
  | cons m rest =>
      have hanswer : memoryHandle deliverer .claim w =
          (.ok (some m), { w with clock := w.clock + 1, outbox := rest }) := by
        simp only [memoryHandle, hw]
        rfl
      rw [hanswer, ht]
      have hmem : m ∈ w.outbox := hw ▸ List.mem_cons_self
      have hloc := (hl.occupies .queued m.id).mp ⟨m, hmem, rfl⟩
      refine h.of_move hl hlive hloc (hl.claims ht hw) ?_ ?_
      · refine h.counted.step (fun _ _ => rfl) (fun m' hm' => Or.inl ?_) (fun j hj => Or.inl hj)
          ⟨hk, h.counted.queued m hmem⟩
        rw [hw]
        exact List.mem_cons_of_mem _ hm'
      · rintro m' ⟨⟩ hdelivered
        cases hloc.symm.trans ((hl.occupies .delivered m.id).mp hdelivered)

theorem Sound.deliver_step {k : Nat} {m : OutboxMessage} (hmax : maxAttempts + 1 < 2 ^ 32)
    (h : Sound maxAttempts w φ log) (ht : φ t = .claimed k m) :
    Sound maxAttempts (memoryHandle deliverer (.deliver m) w).2
      (Function.update φ t
        (outboxMonitor.next (.deliver m) (φ t) (memoryHandle deliverer (.deliver m) w).1))
      (log ++ [.did t ⟨.deliver m, (memoryHandle deliverer (.deliver m) w).1⟩]) := by
  obtain ⟨loc, hl⟩ := h.located
  have hlive : φ t ≠ .done := by simp [ht]
  have hloc : loc m.id = some (.held t) := hl.held_loc (by rw [ht]; rfl)
  have htally : Tallied maxAttempts log (φ t) := h.counted.tallied t
  rw [ht] at htally
  obtain ⟨hk, hattempts, hle⟩ := htally
  have hcount {x : Except String Unit} :
      deliveries m.id (log ++ [.did t ⟨.deliver m, x⟩]) = m.attempts + 1 := by
    rw [deliveries_append, hattempts]
    exact if_pos rfl
  have hcounted {x : Except String Unit} {q : Holding}
      (hq : Tallied maxAttempts (log ++ [.did t ⟨.deliver m, x⟩]) q) :
      Counted maxAttempts { w with clock := w.clock + 1 } (Function.update φ t q)
        (log ++ [.did t ⟨.deliver m, x⟩]) := by
    refine h.counted.step_at hl ?_ (fun j n hj => if_neg (Ne.symm hj))
      (fun m' hm' => Or.inl hm') rfl hq ?_
    · intro p hp
      exact Option.some.inj (hp.symm.trans hloc)
    · rw [hcount]
      omega
  show Sound maxAttempts { w with clock := w.clock + 1 } (Function.update φ t (outboxMonitor.next
    (.deliver m) (φ t) (deliverer w.clock m))) (log ++ [.did t ⟨.deliver m, deliverer w.clock m⟩])
  rw [ht]
  cases hx : deliverer w.clock m with
  | ok _ =>
      refine h.of_move hl hlive hloc (hl.delivers ht) (hcounted trivial) ?_
      rintro m' ⟨⟩
  | error x =>
      have hretried : m.retried.attempts = m.attempts + 1 := Nat.mod_eq_of_lt (by omega)
      refine h.of_move hl hlive hloc (hl.fails ht) (hcounted ⟨hk, ?_, ?_⟩) ?_
      · rw [hretried]
        exact hcount.symm
      · rw [hretried]
        omega
      · rintro m' ⟨⟩

theorem Sound.release_step {k : Nat} {m : OutboxMessage} (h : Sound maxAttempts w φ log)
    (ht : φ t = .failed k m) (hle : m.attempts ≤ k) :
    Sound maxAttempts (memoryHandle deliverer (.release m) w).2 (Function.update φ t .done)
      (log ++ [.did t ⟨.release m, .ok ()⟩]) := by
  obtain ⟨loc, hl⟩ := h.located
  have hloc : loc m.id = some (.held t) := hl.held_loc (by rw [ht]; rfl)
  have htally : Tallied maxAttempts log (φ t) := h.counted.tallied t
  rw [ht] at htally
  obtain ⟨hk, hattempts, -⟩ := htally
  have hm : Carries w { w with clock := w.clock + 1, outbox := w.outbox.enqueue m } φ log
      (.did t ⟨.release m, .ok ()⟩) t .done m.id (some (.held t)) .queued :=
    hl.pushes hloc (fun h => nomatch h) (fun p hp => (Option.some.inj hp).symm)
      (held_eq (by rw [ht]; rfl)) (fun _ h => nomatch h) (fun _ h => nomatch h)
      (fun _ => if_pos rfl) fun t' _ hne => if_neg hne.symm
  refine h.of_move hl (by simp [ht]) hloc hm ?_ fun m' hm' => nomatch hm'
  refine h.counted.step (fun _ _ => rfl) ?_ (fun j hj => Or.inl hj) trivial
  intro m' hm'
  rcases List.mem_append.mp hm' with hm' | hm'
  · exact Or.inl hm'
  · cases List.mem_singleton.mp hm'
    exact Or.inr ⟨hattempts, hk ▸ hle⟩

theorem Sound.park_step {k : Nat} {m : OutboxMessage} (h : Sound maxAttempts w φ log)
    (ht : φ t = .failed k m) (hlt : k < m.attempts) :
    Sound maxAttempts (memoryHandle deliverer (.putDeadLetter m) w).2
      (Function.update φ t (.parked m)) (log ++ [.did t ⟨.putDeadLetter m, .ok ()⟩]) := by
  obtain ⟨loc, hl⟩ := h.located
  have hloc : loc m.id = some (.held t) := hl.held_loc (by rw [ht]; rfl)
  have htally : Tallied maxAttempts log (φ t) := h.counted.tallied t
  rw [ht] at htally
  obtain ⟨rfl, hattempts, hle⟩ := htally
  refine h.of_move hl (by simp [ht]) hloc (hl.parks ht) ?_ fun m' hm' => nomatch hm'
  refine h.counted.step (fun _ _ => rfl) (fun m' hm' => Or.inl hm') ?_ trivial
  intro j hj
  by_cases hj' : j = m.id
  · right
    rw [hj', ← hattempts]
    omega
  · left
    rwa [← AList.lookup_insert_ne hj']

theorem Sound.take_step {id : String} (h : Sound maxAttempts w φ log)
    (ht : φ t = .ready (.replay id)) :
    Sound maxAttempts (memoryHandle deliverer (.takeDeadLetter id) w).2
      (Function.update φ t (outboxMonitor.next (.takeDeadLetter id) (φ t)
        (memoryHandle deliverer (.takeDeadLetter id) w).1))
      (log ++ [.did t ⟨.takeDeadLetter id,
        (memoryHandle deliverer (.takeDeadLetter id) w).1⟩]) := by
  obtain ⟨loc, hl⟩ := h.located
  have hlive : φ t ≠ .done := by simp [ht]
  have hdead : ∀ j, ((w.deadLetter.erase id).lookup j).isSome →
      (w.deadLetter.lookup j).isSome ∨ deliveries j log = maxAttempts + 1 := by
    intro j hj
    rw [Table.lookup_erase_ite] at hj
    split at hj
    · cases hj
    · exact Or.inl hj
  show Sound maxAttempts { w with clock := w.clock + 1, deadLetter := w.deadLetter.erase id }
    (Function.update φ t (outboxMonitor.next (.takeDeadLetter id) (φ t)
      (.ok (w.deadLetter.lookup id))))
    (log ++ [.did t ⟨.takeDeadLetter id, .ok (w.deadLetter.lookup id)⟩])
  rw [ht]
  cases hx : w.deadLetter.lookup id with
  | none =>
      refine h.of_step hlive (hl.idles (by rw [ht]; rfl) rfl (fun j => ?_) (fun _ h => nomatch h)
        (fun _ h => nomatch h) (fun _ => if_pos rfl) fun t' _ hne => if_neg hne.symm) ?_ ?_
      · show (w.deadLetter.erase id).lookup j = _
        rw [Table.lookup_erase_ite]
        split
        · next hj => rw [hj, hx]
        · rfl
      · exact h.counted.step (fun _ _ => rfl) (fun m hm => Or.inl hm) hdead trivial
      · rintro m ⟨⟩
  | some m =>
      have hid := hl.filed id m hx
      have hloc := (hl.occupies .deadLettered id).mp (show (w.deadLetter.lookup id).isSome by
        rw [hx]; rfl)
      rw [← hid] at hloc
      refine h.of_move hl hlive hloc (hl.takes ht hx) ?_ fun m' hm' => nomatch hm'
      refine h.counted.step (fun _ _ => rfl) (fun m hm => Or.inl hm) hdead ?_
      refine h.counted.dead m.id ?_
      rw [hid, hx]
      rfl

theorem Sound.enqueue_step {m : OutboxMessage} (h : Sound maxAttempts w φ log)
    (ht : φ t = .ready (.enqueue m) ∨ ∃ m', φ t = .taken m' ∧ m = m'.reset) :
    Sound maxAttempts (memoryHandle deliverer (.enqueue m) w).2 (Function.update φ t .done)
      (log ++ [.did t ⟨.enqueue m, .ok ()⟩]) := by
  obtain ⟨loc, hl⟩ := h.located
  have hlive : φ t ≠ .done := by
    rcases ht with ht | ⟨m', ht, -⟩ <;> simp [ht]
  -- it comes from nowhere, or from the hands of `t`
  have horigin : loc m.id = none ∨ loc m.id = some (.held t) := by
    rcases ht with ht | ⟨m', ht, rfl⟩
    · exact Or.inl (hl.fresh t m ht)
    · exact Or.inr (hl.held_loc (m := m') (by rw [ht]; rfl))
  have hattempts : m.attempts = 0 := by
    have htally : Tallied maxAttempts log (φ t) := h.counted.tallied t
    rcases ht with ht | ⟨m', -, rfl⟩
    · rw [ht] at htally
      exact htally
    · rfl
  have hheld : ∀ j, (φ t).message.map (·.id) = some j → j = m.id := by
    rcases ht with ht | ⟨m', ht, rfl⟩
    · exact held_none (by rw [ht]; rfl)
    · exact held_eq (m := m') (by rw [ht]; rfl)
  have hfresh : ∀ t' m', t' ≠ t → φ t' = .ready (.enqueue m') → m'.id ≠ m.id := by
    intro t' m' hne ht'
    rcases ht with ht | ⟨m'', ht, rfl⟩
    · exact hl.apart t' t m' m ht' ht hne
    · exact (hl.known (hl.held_loc (m := m'') (by rw [ht]; rfl))).2 t' m' ht'
  have hcount : deliveries m.id (log ++ [.did t ⟨.enqueue m, .ok ()⟩]) = 0 := by
    rw [deliveries_append]
    exact if_pos rfl
  refine h.of_step hlive (hl.move (hl.pushes rfl ?_ ?_ hheld (fun _ h => nomatch h)
    (fun j hj => hj.symm) (fun _ => if_pos rfl) fun t' _ hne => if_neg hne.symm) rfl
    (enqueued_append.mpr (Or.inr rfl)) hfresh) ?_ fun m' hm' => nomatch hm'
  · rcases horigin with horigin | horigin <;> simp [horigin]
  · intro p hp
    rcases horigin with horigin | horigin
    · cases horigin.symm.trans hp
    · exact Option.some.inj (hp.symm.trans horigin)
  · refine h.counted.step_at hl ?_ (fun j n hj => if_neg (Ne.symm hj)) ?_ rfl trivial ?_
    · intro p hp
      rcases horigin with horigin | horigin
      · cases horigin.symm.trans hp
      · exact Option.some.inj (hp.symm.trans horigin)
    · intro m' hm'
      rcases List.mem_append.mp hm' with hm' | hm'
      · exact Or.inl hm'
      · cases List.mem_singleton.mp hm'
        exact Or.inr ⟨hattempts.trans hcount.symm, by omega⟩
    · omega

theorem Sound.ack_step {id : String} (h : Sound maxAttempts w φ log)
    (ht : (φ t).message = none) (hlive : φ t ≠ .done) :
    Sound maxAttempts (memoryHandle deliverer (.ack id) w).2 (Function.update φ t .done)
      (log ++ [.did t ⟨.ack id, .ok ()⟩]) := by
  obtain ⟨loc, hl⟩ := h.located
  refine h.of_step hlive (hl.idles ht rfl (fun _ => rfl) (fun _ h => nomatch h)
    (fun _ h => nomatch h) (fun _ => if_pos rfl) fun t' _ hne => if_neg hne.symm) ?_
    fun m' hm' => nomatch hm'
  exact h.counted.step (fun _ _ => rfl) (fun m hm => Or.inl hm) (fun j hj => Or.inl hj) trivial

/-- **One step.**  Every operation the monitor allows keeps the invariant. -/
theorem Sound.step (deliverer : Deliverer) (hmax : maxAttempts + 1 < 2 ^ 32)
    (h : Sound maxAttempts w φ log)
    (ho : outboxMonitor.allow o (φ t)) :
    Sound maxAttempts (memoryHandle deliverer o w).2
      (Function.update φ t (outboxMonitor.next o (φ t) (memoryHandle deliverer o w).1))
      (log ++ [.did t ⟨o, (memoryHandle deliverer o w).1⟩]) := by
  cases o with
  | claim =>
      obtain ⟨k, ht⟩ := ho
      exact h.claim_step ht
  | deliver m =>
      obtain ⟨k, ht⟩ := ho
      exact h.deliver_step hmax ht
  | ack id =>
      obtain ⟨m, ht | ht, -⟩ := ho
      · exact h.ack_step (by rw [ht]; rfl) (by simp [ht])
      · exact h.ack_step (by rw [ht]; rfl) (by simp [ht])
  | release m =>
      obtain ⟨k, ht, hle⟩ := ho
      exact h.release_step ht hle
  | enqueue m => exact h.enqueue_step ho
  | putDeadLetter m =>
      obtain ⟨k, ht, hlt⟩ := ho
      exact h.park_step ht hlt
  | takeDeadLetter id => exact h.take_step ho

end Steps

/-! ## The calls -/

/-- New messages, and one limit for all workers. -/
structure Regular (maxAttempts : Nat) (calls : List OutboxCall) : Prop
    extends NewMessages calls where
  limit : ∀ k, .process k ∈ calls → k = maxAttempts

section Start

variable {maxAttempts : Nat} {calls : List OutboxCall} {t : Nat}

theorem Regular.tallied (h : Regular maxAttempts calls) :
    Tallied maxAttempts [] (readyAt calls t) := by
  rcases @readyAt_cases calls t with ⟨call, hq⟩ | hq
  · have hmem := List.mem_of_getElem? (readyAt_ready hq)
    rw [hq]
    cases call with
    | enqueue m => exact h.fresh m hmem
    | process k => exact h.limit k hmem
    | replay id => trivial
  · rw [hq]
    trivial

theorem readyAt_message : (readyAt calls t).message = none := by
  rcases @readyAt_cases calls t with ⟨call, hq⟩ | hq <;> rw [hq] <;> rfl

theorem Sound.start (h : Regular maxAttempts calls) :
    Sound maxAttempts .empty (readyAt calls) [] := by
  have hloc : Located .empty (readyAt calls) [] fun _ => none := by
    refine ⟨?_, ?_, ?_, List.nodup_nil, fun id m hm => (nomatch hm), fun _ _ _ => rfl, ?_⟩
    · intro p id
      refine iff_of_false ?_ (fun hp => nomatch hp)
      cases p with
      | queued =>
          rintro ⟨m, hm, -⟩
          cases hm
      | held t =>
          show ¬ (readyAt calls t).message.map (·.id) = some id
          rw [readyAt_message]
          rintro ⟨⟩
      | deadLettered => exact fun hd => nomatch hd
      | delivered =>
          rintro ⟨t, m, hm, -⟩
          cases hm
    · intro id
      refine iff_of_false ?_ (fun hs => nomatch hs)
      rintro ⟨t, m, hm, -⟩
      cases hm
    · intro t
      rw [readyAt_message]
      rfl
    · intro t t' m m' ht ht'
      exact h.apart (readyAt_ready ht) (readyAt_ready ht')
  refine ⟨⟨_, hloc⟩, ⟨fun m hm => (nomatch hm), fun id hd => (nomatch hd), fun t => h.tallied,
    fun id => Nat.zero_le _⟩, ?_, fun t r hr => nomatch hr⟩
  intro pre post t m hlog
  cases pre <;> cases hlog

/-- What holds of the invariant's places holds of the places one can see. -/
theorem Sound.conserved {P : OutboxPool} {φ : Nat → Holding}
    (h : Sound maxAttempts P.world φ P.log) : Conserved maxAttempts P := by
  obtain ⟨loc, hl⟩ := h.located
  have hat : ∀ id p, At P id p ↔ loc id = some p := by
    intro id p
    rw [← hl.occupies p id]
    cases p with
    | queued | deadLettered | delivered => exact Iff.rfl
    | held t =>
        show handOf t P.log = some id ↔ _
        rw [hl.hand]
        exact Iff.rfl
  have hplaced : ∀ id, Enqueued id P.log → ∃ p, At P id p ∧ ∀ q, At P id q → q = p := by
    intro id henq
    obtain ⟨p, hp⟩ := Option.isSome_iff_exists.mp ((hl.enqueued id).mp henq)
    refine ⟨p, (hat id p).mpr hp, fun q hq => ?_⟩
    exact Option.some.inj (((hat id q).mp hq).symm.trans hp)
  have hqueued : ∀ m ∈ P.world.outbox, deliveries m.id P.log ≤ maxAttempts := by
    intro m hm
    obtain ⟨hattempts, hle⟩ := h.counted.queued m hm
    rwa [← hattempts]
  refine ⟨hplaced, hl.once, h.settled, hqueued, h.counted.dead, h.counted.bounded, ?_, ?_⟩
  · intro id henq hall
    obtain ⟨p, hp, -⟩ := hplaced id henq
    cases p with
    | queued =>
        obtain ⟨m, hm, rfl⟩ := hp
        have hle := hqueued m hm
        omega
    | held t => exact Or.inr (Or.inr ⟨t, hp⟩)
    | deadLettered => exact Or.inl hp
    | delivered => exact Or.inr (Or.inl hp)
  · intro t r hr
    rw [hl.hand, h.returned t r hr]
    rfl

/-- **The run.** -/
theorem outboxRun_conserved {deliverer : Deliverer} (hmax : maxAttempts + 1 < 2 ^ 32)
    (h : Regular maxAttempts calls) (ts : List Nat) :
    Conserved maxAttempts (outboxRun deliverer calls ts) := by
  have hstart : Pool.AllFollow outboxMonitor (fun _ _ q => q = .done) (readyAt calls)
      (Pool.start OutboxWorld.empty (calls.map OutboxCall.prog)) := by
    intro t p hp
    have hp : (calls.map OutboxCall.prog)[t]? = some p := hp
    rw [List.getElem?_map] at hp
    obtain ⟨call, hcall, rfl⟩ := Option.map_eq_some_iff.mp hp
    rw [readyAt_of_call hcall]
    exact call.prog_follows
  refine (Pool.run_invariant (C := fun _ _ _ => True) (I := Sound maxAttempts) ?_ ts
    (Sound.start h) hstart Pool.stepsMeet_true).elim fun _ hφ => hφ.1.conserved
  intro w φ l t o x w' hi ho _ hx
  obtain ⟨rfl, rfl⟩ := Handler.shared_eq_some.mp hx
  have hdid := hi.step deliverer hmax ho
  refine ⟨trivial, hdid, fun a hdone => hdid.returns ?_⟩
  rw [Function.update_self]
  exact hdone

end Start

/-! ## The counter -/

def u32Max : Nat := 2 ^ 32 - 1

/-- A service that is down. -/
def deliveryDown : Deliverer := fun _ _ => .error "unavailable"

/-- One message, and `n` turns at delivering it. -/
def endless (message : OutboxMessage) (n : Nat) : List OutboxCall :=
  .enqueue message :: List.replicate n (.process u32Max)

/-- The calls of `endless`, each run to its end before the next starts. -/
def turns : Nat → List Nat
  | 0 => [0]
  | k + 1 => turns k ++ List.replicate 3 (k + 1)

/-- A turn at the only message: it is claimed, its delivery fails, and it is given back,
since no counter exceeds the limit. -/
theorem process_down {w : OutboxWorld} {m : OutboxMessage} (hw : w.outbox = [m]) :
    (OutboxCall.process u32Max).prog.Leads (memoryHandle deliveryDown) w [] fun _ w' l =>
      w'.outbox = [m.retried] ∧
        l = [⟨.claim, .ok (some m)⟩, ⟨.deliver m, .error "unavailable"⟩,
          ⟨.release m.retried, .ok ()⟩] := by
  obtain ⟨outbox, deadLetter, clock⟩ := w
  obtain rfl : outbox = [m] := hw
  have hmax : ¬ u32Max < m.retried.attempts := by
    have hlt : m.retried.attempts < 2 ^ 32 := Nat.mod_lt _ (by decide)
    unfold u32Max
    omega
  refine leads_bind.mpr ?_
  refine leads_op.mpr (leads_op.mpr ?_)
  show Leads _ (ExceptT.run (if u32Max < m.retried.attempts then _ else _)) _ _ _
  rw [if_neg hmax]
  exact leads_op.mpr ⟨rfl, rfl⟩

/-- After `k` turns the message is back in the queue and `k` deliveries have failed. -/
structure Circling (message : OutboxMessage) (n k : Nat) (P : OutboxPool) : Prop where
  queued : ∃ m, P.world.outbox = [m] ∧ m.id = message.id
  waiting : ∀ j, k < j → j ≤ n → P.threads[j]? = some (OutboxCall.process u32Max).prog
  counted : deliveries message.id P.log = k

theorem Circling.turn {message : OutboxMessage} {n k : Nat} {P : OutboxPool}
    (h : Circling message n k P) (hk : k < n) :
    Circling message n (k + 1)
      (Pool.run (memoryHandle deliveryDown).shared (List.replicate 3 (k + 1)) P) := by
  obtain ⟨m, hm, hid⟩ := h.queued
  obtain ⟨hqueued, hevents⟩ := process_down hm
  have hsolo := Pool.run_solo (h := memoryHandle deliveryDown)
    (h.waiting (k + 1) (Nat.lt_succ_self k) hk) ⟨.claim, _, rfl⟩
  rw [List.nil_append] at hevents
  rw [hevents] at hsolo
  refine hsolo ▸ ⟨⟨m.retried, hqueued, hid⟩, ?_, ?_⟩
  · intro j hj hn
    show (P.threads.set (k + 1) _)[j]? = _
    rw [List.getElem?_set_ne (Nat.ne_of_lt hj)]
    exact h.waiting j (Nat.lt_of_succ_lt hj) hn
  · have hcount : (noteDelivery message.id (deliveries message.id P.log)
        (.did (k + 1) ⟨.deliver m, .error "unavailable"⟩)) = k + 1 := by
      rw [h.counted]
      exact if_pos hid
    rw [deliveries, List.append_assoc, List.foldl_append]
    exact hcount

theorem circling {message : OutboxMessage} {n k : Nat} (hk : k ≤ n) :
    Circling message n k (outboxRun deliveryDown (endless message n) (turns k)) := by
  induction k with
  | zero =>
      refine ⟨⟨message, rfl, rfl⟩, ?_, if_pos rfl⟩
      intro j hj hn
      obtain ⟨i, rfl⟩ := Nat.exists_eq_add_of_lt hj
      show ((List.replicate n (OutboxCall.process u32Max)).map OutboxCall.prog)[0 + i]? = _
      rw [List.getElem?_map, List.getElem?_replicate_of_lt (by omega)]
      rfl
  | succ k ih =>
      rw [outboxRun, turns, Pool.run_append]
      exact (ih (by omega)).turn hk

theorem endless_regular {message : OutboxMessage} {n : Nat} (hm : message.attempts = 0) :
    Regular u32Max (endless message n) where
  limit k hk := by
    rcases List.mem_cons.mp hk with hk | hk
    · cases hk
    · cases List.eq_of_mem_replicate hk
      rfl
  fresh m hm' := by
    rcases List.mem_cons.mp hm' with hm' | hm'
    · cases hm'
      exact hm
    · cases List.eq_of_mem_replicate hm'
  distinct := by
    refine List.pairwise_cons.mpr ⟨?_, ?_⟩
    · intro c hc m _ m' hm'
      rw [List.eq_of_mem_replicate hc] at hm'
      cases hm'
    · refine List.pairwise_replicate.mpr (Or.inr ?_)
      intro m hm'
      cases hm'

theorem endless_not_conserved (message : OutboxMessage) :
    ¬ Conserved u32Max
      (outboxRun deliveryDown (endless message (u32Max + 1)) (turns (u32Max + 1))) := by
  intro h
  have hcircling : Circling message _ _ _ := circling (Nat.le_refl (u32Max + 1))
  obtain ⟨m, hm, hid⟩ := hcircling.queued
  have hle := h.queued m (hm ▸ List.mem_singleton_self m)
  rw [hid, hcircling.counted] at hle
  exact absurd hle (Nat.not_succ_le_self u32Max)

namespace Sample

/-- The order system is back at the fifth operation. -/
def restart : Deliverer := fun n _ => if n < 5 then .error "unavailable" else .ok ()

def workers : List OutboxCall :=
  [.enqueue notice, .process 1, .process 1, .process 1, .replay notice.id]

theorem workers_regular : Regular 1 workers where
  limit k hk := by simpa [workers] using hk
  fresh m hm := by
    obtain rfl : m = notice := by simpa [workers] using hm
    rfl
  distinct := by decide

end Sample

/-- **Conservation.**  Whatever is delivered and however the operations interleave, every
message is in one place, is not offered again once delivered, and is dead-lettered
after `maxAttempts + 1` deliveries, exactly when a `u32` can count them. -/
theorem outbox_conserved (maxAttempts : Nat) (hu32 : maxAttempts < 2 ^ 32) :
    (∀ deliverer calls ts, Regular maxAttempts calls →
      Conserved maxAttempts (outboxRun deliverer calls ts)) ↔ maxAttempts + 1 < 2 ^ 32 := by
  constructor
  · intro h
    by_contra hmax
    obtain rfl : maxAttempts = u32Max := by
      unfold u32Max
      omega
    exact endless_not_conserved Sample.notice (h _ _ _ (endless_regular rfl))
  · exact fun hmax deliverer calls ts h => outboxRun_conserved hmax h ts

theorem outbox_conserved_sample :
    Conserved 1 (outboxRun Sample.restart Sample.workers [0, 1, 2, 1, 1, 3, 3, 3, 4, 4, 2]) :=
  (outbox_conserved 1 (by decide)).mpr (by decide) _ _ _ Sample.workers_regular

/-- Under the largest limit a message that cannot be delivered is retried for ever. -/
theorem counter_never_exceeds :
    ¬ ∀ maxAttempts, maxAttempts < 2 ^ 32 → ∀ deliverer calls ts, Regular maxAttempts calls →
      Conserved maxAttempts (outboxRun deliverer calls ts) := by
  intro h
  refine endless_not_conserved Sample.notice (h u32Max ?_ _ _ _ (endless_regular rfl))
  unfold u32Max
  omega

end Orchestrator
