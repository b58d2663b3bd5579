/-
# `CommerceOrchestrator.Runtime.LostUpdates` — two calls on one cart at once

A command reads the snapshot, asks its providers and puts the edited snapshot back,
whatever has been put meanwhile.  If both of two calls read before either puts, the
one that puts first is overwritten.  If one has put before the other reads
(`Precedes`), they might as well have run one after the other: the stored snapshot
is the second call's edit of the first call's result.
-/
import CommerceOrchestrator.Runtime.EditEffects

namespace Orchestrator

open Effect

/-! ## Two calls -/

/-- The call changes the cart, or checks it out. -/
def Call.Changes (c : CartId) : Call → Prop
  | .cart (.createCart _) _ => False
  | .cart (.getCart _) _ => False
  | call => call.target = some c

/-- The entry is a read of a snapshot by thread `t`. -/
def readsAt (t : Nat) : CallEntry → Bool
  | .did t' ⟨.getCartSnapshot _, some _⟩ => t' = t
  | _ => false

/-- The entry is a put of a snapshot by thread `t`. -/
def putsAt (t : Nat) : CallEntry → Bool
  | .did t' ⟨.putCartSnapshot _, _⟩ => t' = t
  | _ => false

/-- Thread `a` puts nothing after thread `b` has read. -/
def Precedes (a b : Nat) (log : List CallEntry) : Prop :=
  log.Pairwise fun e e' => ¬ (readsAt b e ∧ putsAt a e')

instance {a b : Nat} {log : List CallEntry} : Decidable (Precedes a b log) :=
  inferInstanceAs (Decidable (List.Pairwise _ _))

theorem Precedes.of_append {a b : Nat} {log log' : List CallEntry} (h : Precedes a b (log ++ log')) :
    Precedes a b log :=
  (List.pairwise_append.mp h).1

/-- The snapshot a thread leaves, where it found `before`. -/
def Progress.kept (q : Progress) (before : CartProjection) : CartProjection :=
  match q.put with
  | some s => if q.saved then s else before
  | none => before

theorem Progress.kept_of_put_none {q : Progress} (h : q.put = none) (before : CartProjection) :
    q.kept before = before := by
  rw [Progress.kept, h]

/-- Threads `a` and `b` work on the cart `c`, `a` before `b`: what is stored is `b`'s
edit of what `a` made of `s₀`, as far as they have got. -/
structure Serial (env : Env) (runner : Runner) (calls : List Call) (c : CartId)
    (s₀ : CartProjection) (a b : Nat) (w : World) (φ : Nat → Progress) (log : List CallEntry) :
    Prop where
  runs : ∀ t, (φ t).call = threadCall calls t
  first : ∀ s, (φ a).put = some s → Edited env.answers runner (threadCall calls a) s₀ s
  firstRead : ∀ r, (φ a).read = some r → r = s₀ ∨ (φ b).read ≠ none
  middle : ∀ r, (φ b).read = some r → r = (φ a).kept s₀
  second : ∀ s, (φ b).put = some s →
    ∃ r, (φ b).read = some r ∧ Edited env.answers runner (threadCall calls b) r s
  logged : (φ b).read ≠ none → ∃ e ∈ log, readsAt b e
  stored : w.events.getCartSnapshot c = some ((φ b).kept ((φ a).kept s₀))
  answered : ∀ t out, .returned t out ∈ log → out.call = threadCall calls t
  returned : ∀ t command cartId s, .returned t (.cart command cartId (.ok s)) ∈ log →
    (∀ payload, command ≠ .getCart payload) → (φ t).put = some s ∧ (φ t).saved

section Serial

variable {env : Env} {runner : Runner} {calls : List Call} {c : CartId} {s₀ : CartProjection}
  {a b : Nat} {w : World} {φ : Nat → Progress} {log : List CallEntry} {t : Nat}

/-- A call that only looks puts nothing. -/
theorem Puts.not_getCart {A : Answers} {payload : GetCartPayload} {cartId : Option CartId}
    {read : Option CartProjection} {s : CartProjection} :
    ¬ Puts A runner (.cart (.getCart payload) cartId) read s := by
  intro h
  cases h with
  | edited he => cases he

/-- A call that changes a cart puts an edit of what it has read. -/
theorem Puts.edits {A : Answers} {call : Call} {read : Option CartProjection} {s : CartProjection}
    (h : Puts A runner call read s) (hc : call.Changes c) :
    ∃ r, read = some r ∧ Edited A runner call r s := by
  cases h with
  | created payload cartId id _ => exact False.elim hc
  | edited he => exact ⟨_, rfl, he⟩

theorem Serial.kept_cartId (h : Serial env runner calls c s₀ a b w φ log) (hs₀ : s₀.cartId = c) :
    ((φ a).kept s₀).cartId = c := by
  unfold Progress.kept
  split
  · next s hs =>
      split
      · exact (h.first s hs).cartId.trans hs₀
      · exact hs₀
  · exact hs₀

theorem Progress.read_none {q : Progress} (h : q.read = none) : { q with read := none } = q := by
  cases q
  cases h
  rfl

/-- What changes no snapshot and leaves no mark. -/
theorem Serial.quiet {w' : World} {e : Event Op.Ans} (h : Serial env runner calls c s₀ a b w φ log)
    (hsnap : w'.events.getCartSnapshot c = w.events.getCartSnapshot c) :
    Serial env runner calls c s₀ a b w' φ (log ++ [.did t e]) where
  runs := h.runs
  first := h.first
  firstRead := h.firstRead
  middle := h.middle
  second := h.second
  logged hr := by
    obtain ⟨e', he, hreads⟩ := h.logged hr
    exact ⟨e', List.mem_append_left _ he, hreads⟩
  stored := hsnap.trans h.stored
  answered t' out hm := h.answered t' out (by simpa using hm)
  returned t' command cartId s hm := h.returned t' command cartId s (by simpa using hm)

/-- The later thread has nothing to put before it has read. -/
theorem Serial.put_none (h : Serial env runner calls c s₀ a b w φ log) (hb : (φ b).read = none) :
    (φ b).put = none := by
  cases hq : (φ b).put with
  | none => rfl
  | some s =>
      obtain ⟨r, hr, -⟩ := h.second s hq
      rw [hb] at hr
      cases hr

/-- The cart a thread was called with is the one it names. -/
theorem Serial.named {c' : CartId} (h : Serial env runner calls c s₀ a b w φ log)
    (hc : (threadCall calls t).target = some c) (htarget : (φ t).call.target = some c') : c' = c := by
  rw [h.runs, hc] at htarget
  exact (Option.some.inj htarget).symm

/-- A thread reads the snapshot stored under the cart it names. -/
theorem Serial.reads {c' : CartId} {r : CartProjection} {w' : World}
    (h : Serial env runner calls c s₀ a b w φ log) (hab : a ≠ b)
    (ha : (threadCall calls a).target = some c) (hb : (threadCall calls b).target = some c)
    (htarget : (φ t).call.target = some c') (hread : (φ t).read = none) (hput : (φ t).put = none)
    (hr : w.events.getCartSnapshot c' = some r)
    (hsnap : w'.events.getCartSnapshot c = w.events.getCartSnapshot c) :
    Serial env runner calls c s₀ a b w' (Function.update φ t { φ t with read := some r })
      (log ++ [.did t ⟨.getCartSnapshot c', some r⟩]) := by
  -- everything but what has been read is as before
  have hcall : ∀ t', (Function.update φ t { φ t with read := some r } t').call = (φ t').call :=
    Pool.update_keeps Progress.call rfl
  have hputs : ∀ t', (Function.update φ t { φ t with read := some r } t').put = (φ t').put :=
    Pool.update_keeps Progress.put rfl
  have hsaved : ∀ t', (Function.update φ t { φ t with read := some r } t').saved =
      (φ t').saved :=
    Pool.update_keeps Progress.saved rfl
  have hkept : ∀ t' before, (Function.update φ t { φ t with read := some r } t').kept before =
      (φ t').kept before := by
    intro t' before
    rw [Progress.kept, Progress.kept, hputs, hsaved]
  have hmem : Entry.did t ⟨.getCartSnapshot c', some r⟩ ∈
      log ++ [(.did t ⟨.getCartSnapshot c', some r⟩ : CallEntry)] :=
    List.mem_append_right _ (List.mem_singleton_self _)
  refine ⟨?_, ?_, ?_, ?_, ?_, ?_, ?_, ?_, ?_⟩
  · intro t'
    rw [hcall]
    exact h.runs t'
  · intro s hs
    rw [hputs] at hs
    exact h.first s hs
  · intro r' hr'
    by_cases hta : a = t
    · subst hta
      rw [Function.update_self] at hr'
      obtain rfl := Option.some.inj hr'
      rw [Function.update_of_ne (Ne.symm hab)]
      by_cases hbr : (φ b).read = none
      · refine Or.inl ?_
        rw [h.named ha htarget, h.stored, Progress.kept_of_put_none (h.put_none hbr),
          Progress.kept_of_put_none hput] at hr
        exact (Option.some.inj hr).symm
      · exact Or.inr hbr
    · rw [Function.update_of_ne hta] at hr'
      rcases h.firstRead r' hr' with hs | hbr
      · exact Or.inl hs
      · refine Or.inr ?_
        by_cases htb : b = t
        · subst htb
          rw [Function.update_self]
          simp
        · rw [Function.update_of_ne htb]
          exact hbr
  · intro r' hr'
    rw [hkept]
    by_cases htb : b = t
    · subst htb
      rw [Function.update_self] at hr'
      obtain rfl := Option.some.inj hr'
      rw [h.named hb htarget, h.stored, Progress.kept_of_put_none hput] at hr
      exact (Option.some.inj hr).symm
    · rw [Function.update_of_ne htb] at hr'
      exact h.middle r' hr'
  · intro s hs
    rw [hputs] at hs
    obtain ⟨r', hr', hedit⟩ := h.second s hs
    have htb : b ≠ t := by
      rintro rfl
      rw [hput] at hs
      cases hs
    rw [Function.update_of_ne htb]
    exact ⟨r', hr', hedit⟩
  · intro hne
    by_cases htb : b = t
    · subst htb
      exact ⟨_, hmem, by simp [readsAt]⟩
    · rw [Function.update_of_ne htb] at hne
      obtain ⟨e, he, hreads⟩ := h.logged hne
      exact ⟨e, List.mem_append_left _ he, hreads⟩
  · rw [hkept, hkept]
    exact hsnap.trans h.stored
  · intro t' out hm
    exact h.answered t' out (by simpa using hm)
  · intro t' command cartId s hm
    rw [hputs, hsaved]
    exact h.returned t' command cartId s (by simpa using hm)

/-- The earlier thread puts its edit; the later one has not read yet. -/
theorem Serial.putsFirst {s : CartProjection} {x : Except StoreError Unit} {w' : World}
    (h : Serial env runner calls c s₀ a b w φ log) (hab : a ≠ b) (hs₀ : s₀.cartId = c)
    (ha : (threadCall calls a).Changes c)
    (hputs : Puts env.answers runner (φ a).call (φ a).read s) (hput : (φ a).put = none)
    (hprec : Precedes a b (log ++ [.did a ⟨.putCartSnapshot s, x⟩]))
    (hsnap : ∀ c, w'.events.getCartSnapshot c =
      if tookHold x ∧ c = s.cartId then some s else w.events.getCartSnapshot c) :
    Serial env runner calls c s₀ a b w'
      (Function.update φ a { φ a with put := some s, saved := tookHold x })
      (log ++ [.did a ⟨.putCartSnapshot s, x⟩]) := by
  have hbread : (φ b).read = none := by
    by_contra hne
    obtain ⟨e, he, hreads⟩ := h.logged hne
    refine (List.pairwise_append.mp hprec).2.2 e he _ (List.mem_singleton_self _) ⟨hreads, ?_⟩
    simp [putsAt]
  have hbput : (φ b).put = none := by
    cases hq : (φ b).put with
    | none => rfl
    | some s =>
        obtain ⟨r, hr, -⟩ := h.second s hq
        rw [hbread] at hr
        cases hr
  obtain ⟨r, hr, hedit⟩ := hputs.edits (h.runs a ▸ ha)
  rw [h.runs] at hedit
  have hrs₀ : r = s₀ := (h.firstRead r hr).resolve_right (fun hne => hne hbread)
  rw [hrs₀] at hedit hr
  have hself := Function.update_self a { φ a with put := some s, saved := tookHold x } φ
  have hother : ∀ t', t' ≠ a →
      Function.update φ a { φ a with put := some s, saved := tookHold x } t' = φ t' :=
    fun t' ht => Function.update_of_ne ht _ _
  refine ⟨fun t' => ?_, ?_, ?_, ?_, ?_, ?_, ?_, ?_, ?_⟩
  · by_cases ht : t' = a
    · subst ht
      rw [hself]
      exact h.runs t'
    · rw [hother t' ht]
      exact h.runs t'
  · intro s' hs'
    rw [hself] at hs'
    exact Option.some.inj hs' ▸ hedit
  · intro r' hr'
    rw [hself] at hr'
    exact Or.inl (Option.some.inj (hr'.symm.trans hr))
  · intro r' hr'
    rw [hother b hab.symm, hbread] at hr'
    cases hr'
  · intro s' hs'
    rw [hother b hab.symm, hbput] at hs'
    cases hs'
  · intro hne
    rw [hother b hab.symm] at hne
    exact absurd hbread hne
  · rw [hother b hab.symm, hself, Progress.kept_of_put_none hbput, hsnap, h.stored,
      Progress.kept_of_put_none hbput, Progress.kept_of_put_none hput]
    have hid : c = s.cartId := (hedit.cartId.trans hs₀).symm
    cases hx : tookHold x <;> simp [Progress.kept, hid]
  · intro t' out hm
    exact h.answered t' out (by simpa using hm)
  · intro t' command cartId s' hm hget
    have hret := h.returned t' command cartId s' (by simpa using hm) hget
    by_cases ht : t' = a
    · subst ht
      rw [hput] at hret
      cases hret.1
    · rw [hother t' ht]
      exact hret

/-- The later thread puts its edit of what the earlier one left. -/
theorem Serial.putsSecond {s : CartProjection} {x : Except StoreError Unit} {w' : World}
    (h : Serial env runner calls c s₀ a b w φ log) (hab : a ≠ b) (hs₀ : s₀.cartId = c)
    (hb : (threadCall calls b).Changes c)
    (hputs : Puts env.answers runner (φ b).call (φ b).read s) (hput : (φ b).put = none)
    (hsnap : ∀ c, w'.events.getCartSnapshot c =
      if tookHold x ∧ c = s.cartId then some s else w.events.getCartSnapshot c) :
    Serial env runner calls c s₀ a b w'
      (Function.update φ b { φ b with put := some s, saved := tookHold x })
      (log ++ [.did b ⟨.putCartSnapshot s, x⟩]) := by
  obtain ⟨r, hr, hedit⟩ := hputs.edits (h.runs b ▸ hb)
  rw [h.runs] at hedit
  have hself := Function.update_self b { φ b with put := some s, saved := tookHold x } φ
  have hother : ∀ t', t' ≠ b →
      Function.update φ b { φ b with put := some s, saved := tookHold x } t' = φ t' :=
    fun t' ht => Function.update_of_ne ht _ _
  refine ⟨fun t' => ?_, ?_, ?_, ?_, ?_, ?_, ?_, ?_, ?_⟩
  · by_cases ht : t' = b
    · subst ht
      rw [hself]
      exact h.runs t'
    · rw [hother t' ht]
      exact h.runs t'
  · intro s' hs'
    rw [hother a hab] at hs'
    exact h.first s' hs'
  · intro r' hr'
    rw [hother a hab] at hr'
    rw [hself]
    exact h.firstRead r' hr'
  · intro r' hr'
    rw [hself] at hr'
    rw [hother a hab]
    exact h.middle r' hr'
  · intro s' hs'
    rw [hself] at hs' ⊢
    exact ⟨r, hr, Option.some.inj hs' ▸ hedit⟩
  · intro hne
    rw [hself] at hne
    obtain ⟨e, he, hreads⟩ := h.logged hne
    exact ⟨e, List.mem_append_left _ he, hreads⟩
  · have hid : c = s.cartId := by
      rw [hedit.cartId, h.middle r hr]
      exact (h.kept_cartId hs₀).symm
    rw [hother a hab, hself, hsnap, h.stored, Progress.kept_of_put_none hput]
    cases hx : tookHold x <;> simp [Progress.kept, hid]
  · intro t' out hm
    exact h.answered t' out (by simpa using hm)
  · intro t' command cartId s' hm hget
    have hret := h.returned t' command cartId s' (by simpa using hm) hget
    by_cases ht : t' = b
    · subst ht
      rw [hput] at hret
      cases hret.1
    · rw [hother t' ht]
      exact hret

theorem Serial.returns {out : Outcome} (h : Serial env runner calls c s₀ a b w φ log)
    (hout : Shows out (φ t)) :
    Serial env runner calls c s₀ a b w φ (log ++ [.returned t out]) where
  runs := h.runs
  first := h.first
  firstRead := h.firstRead
  middle := h.middle
  second := h.second
  logged hr := by
    obtain ⟨e', he, hreads⟩ := h.logged hr
    exact ⟨e', List.mem_append_left _ he, hreads⟩
  stored := h.stored
  answered := by
    intro t' out' hm
    rcases List.mem_append.mp hm with hm | hm
    · exact h.answered t' out' hm
    · obtain ⟨rfl, rfl⟩ := Entry.returned.inj (List.mem_singleton.mp hm)
      exact hout.call.trans (h.runs t')
  returned := by
    intro t' command cartId s hm hget
    rcases List.mem_append.mp hm with hm | hm
    · exact h.returned t' command cartId s hm hget
    · obtain ⟨rfl, rfl⟩ := Entry.returned.inj (List.mem_singleton.mp hm)
      rcases hout.shown command cartId s rfl with hsaved | ⟨-, -, payload, hp⟩
      · exact hsaved
      · exact absurd hp (hget payload)

theorem Call.Changes.target {call : Call} (h : call.Changes c) : call.target = some c := by
  cases call with
  | checkout request => exact h
  | cart command cartId =>
      cases command with
      | createCart payload => exact False.elim h
      | getCart payload => exact False.elim h
      | _ => exact h

/-- One allowed operation of one thread. -/
theorem Serial.did {o : Op} (h : Serial env runner calls c s₀ a b w φ log) (hab : a ≠ b)
    (hs₀ : s₀.cartId = c) (ha : (threadCall calls a).Changes c)
    (hb : (threadCall calls b).Changes c)
    (hothers : ∀ t, t ≠ a → t ≠ b →
      ∃ payload cartId, threadCall calls t = .cart (.getCart payload) cartId)
    (ho : (editMonitor env.answers runner).allow o (φ t))
    (hprec : Precedes a b (log ++ [.did t ⟨o, (env.handle o w).1⟩])) :
    Serial env runner calls c s₀ a b (env.handle o w).2
      (Function.update φ t ((editMonitor env.answers runner).next o (φ t) (env.handle o w).1))
      (log ++ [.did t ⟨o, (env.handle o w).1⟩]) := by
  have hframe (hput : ∀ s, o ≠ .putCartSnapshot s) :
      (env.handle o w).2.events.getCartSnapshot c = w.events.getCartSnapshot c :=
    Env.handle_snapshot hput
  cases o with
  | getCartSnapshot c' =>
      obtain ⟨htarget, hread, hput⟩ := ho
      cases hx : (env.handle (.getCartSnapshot c') w).1 with
      | none =>
          have hsame : (editMonitor env.answers runner).next (.getCartSnapshot c') (φ t) none =
              φ t := Progress.read_none hread
          rw [hsame, Function.update_eq_self]
          exact h.quiet (hframe (by simp))
      | some r =>
          exact h.reads hab ha.target hb.target htarget hread hput (World.read_some hx)
            (hframe (by simp))
  | putCartSnapshot s =>
      obtain ⟨hputs, hput⟩ := ho
      have hsnap : ∀ c, (env.handle (.putCartSnapshot s) w).2.events.getCartSnapshot c =
          if tookHold (env.handle (.putCartSnapshot s) w).1 ∧ c = s.cartId then some s
          else w.events.getCartSnapshot c := fun c => Env.handle_putCartSnapshot_snapshot
      by_cases hta : t = a
      · subst hta
        exact h.putsFirst hab hs₀ ha hputs hput hprec hsnap
      by_cases htb : t = b
      · subst htb
        exact h.putsSecond hab hs₀ hb hputs hput hsnap
      · obtain ⟨payload, cartId, hcall⟩ := hothers t hta htb
        rw [h.runs, hcall] at hputs
        exact absurd hputs Puts.not_getCart
  | _ =>
      have hsame : Function.update φ t (φ t) = φ := Function.update_eq_self t φ
      show Serial env runner calls c s₀ a b _ (Function.update φ t (φ t)) _
      rw [hsame]
      exact h.quiet (hframe (by simp))

/-- If thread `a` has put before thread `b` reads, the run is as if `b` came after `a`. -/
theorem atOnce_serial {ts : List Nat} (hab : a ≠ b) (hs₀ : s₀.cartId = c)
    (ha : (threadCall calls a).Changes c) (hb : (threadCall calls b).Changes c)
    (hothers : ∀ t, t ≠ a → t ≠ b →
      ∃ payload cartId, threadCall calls t = .cart (.getCart payload) cartId)
    (hstored : w.events.getCartSnapshot c = some s₀)
    (hprec : Precedes a b (atOnce env runner calls ts w).log) :
    ∃ φ, Serial env runner calls c s₀ a b (atOnce env runner calls ts w).world φ
      (atOnce env runner calls ts w).log := by
  have hstart : Pool.AllFollow (editMonitor env.answers runner) (fun _ => Shows)
      (fun t => ⟨threadCall calls t, none, none, false⟩)
      (Pool.start w (calls.map (·.prog runner))) := by
    intro t p hp
    rw [threadCall_prog hp]
    exact Call.prog_edits _
  have hinit : Serial env runner calls c s₀ a b w
      (fun t => ⟨threadCall calls t, none, none, false⟩) [] := by
    refine ⟨fun _ => rfl, ?_, ?_, ?_, ?_, fun h => absurd rfl h, hstored, by simp, by simp⟩
    · intro s hs
      cases hs
    · intro r hr
      cases hr
    · intro r hr
      cases hr
    · intro s hs
      cases hs
  obtain ⟨φ, h, -⟩ := Pool.run_invariant (C := fun _ _ _ => True)
    (I := fun w φ log => Precedes a b log → Serial env runner calls c s₀ a b w φ log)
    (by
      intro w φ log t o x w' h ho _ hx
      obtain ⟨rfl, rfl⟩ := Handler.shared_eq_some.mp hx
      have hdid (hp : Precedes a b (log ++ [.did t ⟨o, (env.handle o w).1⟩])) :=
        (h hp.of_append).did hab hs₀ ha hb hothers ho hp
      refine ⟨⟨w, rfl⟩, hdid, fun out hout hp => ?_⟩
      rw [List.append_cons] at hp ⊢
      refine (hdid hp.of_append).returns ?_
      rwa [Function.update_self])
    ts (fun _ => hinit) hstart Pool.stepsMeet_true
  exact ⟨φ, h hprec⟩

end Serial

/-! ## No update lost -/

/-- The call succeeded. -/
def Outcome.Succeeds : Outcome → Prop
  | .cart _ _ (.ok _) => True
  | .checkout _ (.ok _) => True
  | _ => False

/-- The projection the call returned, if it returned one, is `s`. -/
def Outcome.Returns (out : Outcome) (s : CartProjection) : Prop :=
  ∀ command cartId p, out = .cart command cartId (.ok p) → p = s

/-- What a successful call makes of the stored snapshot: an edit of it; a checkout
may also leave it as it is (it was replayed). -/
def Makes (A : Answers) (runner : Runner) (call : Call) (s s' : CartProjection) : Prop :=
  Edited A runner call s s' ∨ (s' = s ∧ ∃ request, call = .checkout request)

/-- `call'` came after `call`: it made `s₂` of the `s₁` that `call` made of `s₀`.  What
either was for shows in its own result, and `call'` left alone whatever of `s₁` it is not
about.  Two commands return different versions. -/
structure InTurn (A : Answers) (runner : Runner) (call : Call) (out : Outcome) (call' : Call)
    (out' : Outcome) (s₀ s₁ s₂ : CartProjection) : Prop where
  first : Makes A runner call s₀ s₁
  second : Makes A runner call' s₁ s₂
  returned : out.Returns s₁
  returned' : out'.Returns s₂
  shown : call.Shown A s₁
  shown' : call'.Shown A s₂
  spared : Spared A call' s₁ s₂
  versions : ∀ command command' cartId cartId' p p', out = .cart command cartId (.ok p) →
    out' = .cart command' cartId' (.ok p') → p'.version = p.version + 1

section NoUpdateLost

variable {A : Answers} {env : Env} {runner : Runner} {call : Call} {s s' : CartProjection}

theorem Makes.shown (h : Makes A runner call s s') : call.Shown A s' := by
  rcases h with h | ⟨-, request, rfl⟩
  · exact h.shown
  · trivial

theorem Makes.spared (h : Makes A runner call s s') : Spared A call s s' := by
  rcases h with h | ⟨rfl, request, rfl⟩
  · exact h.spared
  · exact spared_of_same rfl

/-- What a thread that succeeded makes of the snapshot it found. -/
theorem makes_of_succeeds {q : Progress} {out : Outcome} {c : CartId} {before : CartProjection}
    (hcall : out.call = call) (hchanges : call.Changes c) (hok : out.Succeeds)
    (hedit : ∀ s, q.put = some s → Edited A runner call before s)
    (hreturned : ∀ command cartId s, out = .cart command cartId (.ok s) →
      (∀ payload, command ≠ .getCart payload) → q.put = some s ∧ q.saved) :
    Makes A runner call before (q.kept before) ∧ out.Returns (q.kept before) := by
  cases out with
  | cart command cartId r =>
      cases r with
      | error e => exact False.elim hok
      | ok s =>
          have hget : ∀ payload, command ≠ .getCart payload := by
            rintro payload rfl
            rw [← hcall] at hchanges
            exact hchanges
          obtain ⟨hput, hsaved⟩ := hreturned command cartId s rfl hget
          have hkept : q.kept before = s := by
            rw [Progress.kept, hput]
            exact if_pos hsaved
          rw [hkept]
          refine ⟨Or.inl (hedit s hput), ?_⟩
          intro command' cartId' p he
          cases he
          rfl
  | checkout request r =>
      refine ⟨?_, fun command cartId p he => by cases he⟩
      have hrequest : ∃ request, call = .checkout request := ⟨request, hcall.symm⟩
      unfold Progress.kept
      split
      · next s hs =>
          split
          · exact Or.inl (hedit s hs)
          · exact Or.inr ⟨rfl, hrequest⟩
      · exact Or.inr ⟨rfl, hrequest⟩

/-- Both threads of a run succeed, `a` having put before `b` reads. -/
theorem inTurn_of_precedes {calls : List Call} {ts : List Nat} {c : CartId} {a b : Nat} {w : World}
    {s₀ : CartProjection} {out out' : Outcome} (hab : a ≠ b) (hs₀ : s₀.cartId = c)
    (ha : (threadCall calls a).Changes c) (hb : (threadCall calls b).Changes c)
    (hothers : ∀ t, t ≠ a → t ≠ b →
      ∃ payload cartId, threadCall calls t = .cart (.getCart payload) cartId)
    (hstored : w.events.getCartSnapshot c = some s₀)
    (hprec : Precedes a b (atOnce env runner calls ts w).log)
    (hout : .returned a out ∈ (atOnce env runner calls ts w).log)
    (hout' : .returned b out' ∈ (atOnce env runner calls ts w).log)
    (hok : out.Succeeds) (hok' : out'.Succeeds) :
    ∃ s₁ s₂, (atOnce env runner calls ts w).world.events.getCartSnapshot c = some s₂ ∧
      InTurn env.answers runner (threadCall calls a) out (threadCall calls b) out' s₀ s₁ s₂ := by
  obtain ⟨φ, h⟩ := atOnce_serial hab hs₀ ha hb hothers hstored hprec
  have hreturned {t : Nat} {out : Outcome}
      (hm : .returned t out ∈ (atOnce env runner calls ts w).log) :
      ∀ command cartId s, out = .cart command cartId (.ok s) →
        (∀ payload, command ≠ .getCart payload) → (φ t).put = some s ∧ (φ t).saved := by
    rintro command cartId s rfl
    exact h.returned t command cartId s hm
  have hsecond : ∀ s, (φ b).put = some s →
      Edited env.answers runner (threadCall calls b) ((φ a).kept s₀) s := by
    intro s hs
    obtain ⟨r, hr, hedit⟩ := h.second s hs
    rwa [← h.middle r hr]
  obtain ⟨hfirst, hret⟩ :=
    makes_of_succeeds (h.answered a out hout) ha hok h.first (hreturned hout)
  obtain ⟨hmakes, hret'⟩ :=
    makes_of_succeeds (h.answered b out' hout') hb hok' hsecond (hreturned hout')
  refine ⟨_, _, h.stored, hfirst, hmakes, hret, hret', hfirst.shown, hmakes.shown, hmakes.spared, ?_⟩
  rintro command command' cartId cartId' p p' rfl rfl
  rw [hret _ _ p rfl, hret' _ _ p' rfl]
  have hcall : threadCall calls b = .cart command' cartId' := (h.answered b _ hout').symm
  rcases hmakes with hedit | ⟨-, request, hcheckout⟩
  · rw [hcall] at hedit
    exact hedit.version
  · rw [hcall] at hcheckout
    cases hcheckout

/-- **No update is lost when one call puts before the other reads.**  From any reached
world, whatever is answered and however else the operations of two calls on a cart
interleave: if both succeed, the stored snapshot is the later call's edit of what the
earlier one made of the cart. -/
theorem no_update_lost (env : Env) (runner : Runner) (w : World) (hreach : Reached env runner w)
    (c : CartId) (s₀ : CartProjection) (hstored : w.events.getCartSnapshot c = some s₀)
    (call call' : Call) (hcall : call.Changes c) (hcall' : call'.Changes c) (ts : List Nat)
    (hapart : Precedes 0 1 (atOnce env runner [call, call'] ts w).log ∨
      Precedes 1 0 (atOnce env runner [call, call'] ts w).log)
    (out out' : Outcome) (hout : .returned 0 out ∈ (atOnce env runner [call, call'] ts w).log)
    (hout' : .returned 1 out' ∈ (atOnce env runner [call, call'] ts w).log)
    (hok : out.Succeeds) (hok' : out'.Succeeds) :
    ∃ s₁ s₂,
      (atOnce env runner [call, call'] ts w).world.events.getCartSnapshot c = some s₂ ∧
      (InTurn env.answers runner call out call' out' s₀ s₁ s₂ ∨
        InTurn env.answers runner call' out' call out s₀ s₁ s₂) := by
  have hs₀ := hreach.filed c s₀ hstored
  have hothers : ∀ t, t ≠ 0 → t ≠ 1 →
      ∃ payload cartId, threadCall [call, call'] t = .cart (.getCart payload) cartId := by
    intro t h₀ h₁
    have hlen : [call, call'].length ≤ t := by
      show 2 ≤ t
      omega
    refine ⟨⟨⟨⟨0⟩⟩⟩, none, ?_⟩
    rw [threadCall, List.getD_eq_getElem?_getD, List.getElem?_eq_none hlen]
    rfl
  have h₀ : (threadCall [call, call'] 0).Changes c := hcall
  have h₁ : (threadCall [call, call'] 1).Changes c := hcall'
  rcases hapart with hprec | hprec
  · obtain ⟨s₁, s₂, hfinal, hturn⟩ := inTurn_of_precedes (by decide) hs₀ h₀ h₁ hothers hstored
      hprec hout hout' hok hok'
    exact ⟨s₁, s₂, hfinal, Or.inl hturn⟩
  · obtain ⟨s₁, s₂, hfinal, hturn⟩ := inTurn_of_precedes (by decide) hs₀ h₁ h₀
      (fun t ht₁ ht₀ => hothers t ht₀ ht₁) hstored hprec hout' hout hok' hok
    exact ⟨s₁, s₂, hfinal, Or.inr hturn⟩

end NoUpdateLost

/-! ## Two additions -/

namespace Sample

/-- Put one more item into the sample cart. -/
def addMore (itemId : String) : Call := .cart (.addItem ⟨itemId, 1⟩) (some cart.cartId)

/-- The second call reads the cart, then the first runs to its end, then the second does. -/
def overlapping : List Nat := [1, 1] ++ List.replicate 30 0 ++ List.replicate 30 1

/-- The first call runs to its end, then the second does. -/
def apart : List Nat := List.replicate 30 0 ++ List.replicate 30 1

/-- The world the sample session leaves. -/
def stocked : World := (atOnce Env.agreeable runner shopping (inTurn shopping) World.empty).world

/-- Two additions to the sample cart. -/
def additions (ts : List Nat) : Pool Op.Ans World Outcome :=
  atOnce Env.agreeable runner [addMore "a", addMore "b"] ts stocked

theorem addMore_changes (itemId : String) : (addMore itemId).Changes cart.cartId := rfl

end Sample

/-- The projection a thread has returned. -/
def returnedBy (t : Nat) (log : List CallEntry) : Option CartProjection :=
  log.findSome? fun
    | .returned t' (.cart _ _ (.ok s)) => if t' = t then some s else none
    | _ => none

theorem mem_of_returnedBy {t : Nat} {log : List CallEntry} (h : (returnedBy t log).isSome) :
    ∃ out, .returned t out ∈ log ∧ out.Succeeds := by
  obtain ⟨s, hs⟩ := Option.isSome_iff_exists.mp h
  obtain ⟨e, he, hes⟩ := List.exists_of_findSome?_eq_some hs
  split at hes
  · next t' command cartId s' =>
      split at hes
      · next ht =>
          subst ht
          exact ⟨_, he, trivial⟩
      · cases hes
  · cases hes

/-- Two additions one after the other. -/
theorem no_update_lost_sample :
    ∃ out out' s₀ s₁ s₂,
      (Sample.additions Sample.apart).world.events.getCartSnapshot Sample.cart.cartId = some s₂ ∧
      (InTurn Env.agreeable.answers Sample.runner (Sample.addMore "a") out (Sample.addMore "b") out'
          s₀ s₁ s₂ ∨
        InTurn Env.agreeable.answers Sample.runner (Sample.addMore "b") out' (Sample.addMore "a") out
          s₀ s₁ s₂) := by
  have hstored : (Sample.stocked.events.getCartSnapshot Sample.cart.cartId).isSome := by
    decide +kernel
  have hapart : Precedes 0 1 (Sample.additions Sample.apart).log := by decide +kernel
  have hreturned : (returnedBy 0 (Sample.additions Sample.apart).log).isSome := by decide +kernel
  have hreturned' : (returnedBy 1 (Sample.additions Sample.apart).log).isSome := by decide +kernel
  have hreach : Reached Env.agreeable Sample.runner Sample.stocked := ⟨_, _, rfl⟩
  obtain ⟨s₀, hs₀⟩ := Option.isSome_iff_exists.mp hstored
  obtain ⟨out, hout, hok⟩ := mem_of_returnedBy hreturned
  obtain ⟨out', hout', hok'⟩ := mem_of_returnedBy hreturned'
  rw [Sample.additions] at hapart hout hout' ⊢
  obtain ⟨s₁, s₂, hfinal, hturn⟩ := no_update_lost Env.agreeable Sample.runner Sample.stocked hreach
    Sample.cart.cartId s₀ hs₀ (Sample.addMore "a") (Sample.addMore "b") (Sample.addMore_changes "a")
    (Sample.addMore_changes "b") Sample.apart (Or.inl hapart) out out' hout hout' hok hok'
  exact ⟨out, out', s₀, s₁, s₂, hfinal, hturn⟩

/-- Two additions read before either puts: both succeed with the same version, and the
line the first returned is gone. -/
theorem overlapping_addition_lost :
    let run := Sample.additions Sample.overlapping
    ∃ s ∈ run.world.events.getCartSnapshot Sample.cart.cartId,
      ∃ p ∈ returnedBy 0 run.log, ∃ p' ∈ returnedBy 1 run.log,
        s.lines.map (·.itemId) = ["sku", "b"] ∧ p.lines.map (·.itemId) = ["sku", "a"] ∧
        p'.lines.map (·.itemId) = ["sku", "b"] ∧ p.version = p'.version := by
  decide +kernel

end Orchestrator
