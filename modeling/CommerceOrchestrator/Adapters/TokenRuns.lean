/-
# `CommerceOrchestrator.Adapters.TokenRuns` — calls that share a token source

However calls interleave, the token endpoint is asked by one of them at a time, and only
once every token it gave so far is about to expire (`tokenRequests_spaced`).  A call that
returns a token has it from the endpoint, and has seen that it is good for more than the
skew unless it asked for it itself (`accessToken_served`).  Calls never wait for each other
in a circle, and leave the lock free (`tokenCalls_progress`).
-/
import CommerceOrchestrator.Adapters.TokenSource
import CommerceOrchestrator.Effect.Prefixes

namespace Orchestrator

open Effect Prog

abbrev TokenEntry := Entry TokenOp.Ans TokenResult

abbrev TokenPool := Pool TokenOp.Ans TokenWorld TokenResult

/-- `n` calls at once, on a source that is new. -/
def OAuth2ClientCredentials.calls (credentials : OAuth2ClientCredentials) (n : Nat) : TokenPool :=
  Pool.start .new (List.replicate n credentials.accessToken)

/-! ## Requests to the endpoint -/

/-- The clock was read near the expiry of the token, or past it. -/
def RunOut (token : CachedToken) (log : List TokenEntry) : Prop :=
  ∃ t now expiry, .did t ⟨.now, now⟩ ∈ log ∧ token.expiresAt = some expiry ∧
    expiry ≤ now + tokenExpirySkew

/-- Every token that was stored was found spent after that. -/
def AllRunOut (log : List TokenEntry) : Prop :=
  ∀ before t token rest, log = before ++ .did t ⟨.store token, ()⟩ :: rest → RunOut token rest

/-- Call `t` has sent a request and is not answered yet. -/
def Unanswered (t : Nat) (log : List TokenEntry) : Prop :=
  ∃ before request rest, log = before ++ .did t ⟨.send request, ()⟩ :: rest ∧
    ∀ arrival, .did t ⟨.receive, arrival⟩ ∉ rest

/-- A request to the endpoint is the client's own, nobody waits for another one, and no token
is good any more. -/
def Needed (credentials : OAuth2ClientCredentials) (before : List TokenEntry) (e : TokenEntry) :
    Prop :=
  ∀ t request, e = .did t ⟨.send request, ()⟩ →
    request = credentials.request ∧ AllRunOut before ∧ ∀ t', ¬ Unanswered t' before

/-- What the log says is a store. -/
def isStore : TokenEntry → Bool
  | .did _ ⟨.store _, _⟩ => true
  | _ => false

def isSend : TokenEntry → Bool
  | .did _ ⟨.send _, _⟩ => true
  | _ => false

section Log

variable {token : CachedToken} {log log' : List TokenEntry} {e : TokenEntry} {t t' : Nat}

theorem RunOut.append (h : RunOut token log) : RunOut token (log ++ log') := by
  obtain ⟨t, now, expiry, hmem, hexpiry⟩ := h
  exact ⟨t, now, expiry, List.mem_append_left _ hmem, hexpiry⟩

/-- What is said of each store and of what comes after it grows with the log. -/
theorem stores_append {P : CachedToken → List TokenEntry → Prop}
    (hmono : ∀ token rest, P token rest → P token (rest ++ [e])) (he : isStore e = false)
    (h : ∀ before t token rest, log = before ++ .did t ⟨.store token, ()⟩ :: rest → P token rest) :
    ∀ before t token rest,
      log ++ [e] = before ++ .did t ⟨.store token, ()⟩ :: rest → P token rest := by
  intro before t token rest heq
  rcases split_concat heq with ⟨-, rfl, -⟩ | ⟨rest', rfl, hlog⟩
  · cases he
  · exact hmono token rest' (h before t token rest' hlog)

theorem AllRunOut.append (h : AllRunOut log) (he : isStore e = false) : AllRunOut (log ++ [e]) :=
  stores_append (fun _ _ hspent => hspent.append) he h

/-- A request is under way if it was so before, or is the last thing that happened. -/
theorem Unanswered.of_append (h : Unanswered t (log ++ [e])) :
    (∃ request, e = .did t ⟨.send request, ()⟩) ∨
      Unanswered t log ∧ ∀ arrival, e ≠ .did t ⟨.receive, arrival⟩ := by
  obtain ⟨before, request, rest, heq, hnot⟩ := h
  rcases split_concat heq with ⟨-, he, -⟩ | ⟨rest', rfl, hlog⟩
  · exact Or.inl ⟨request, he.symm⟩
  · refine Or.inr ⟨⟨before, request, rest', hlog, fun arrival hmem => ?_⟩, fun arrival he => ?_⟩
    · exact hnot arrival (List.mem_append_left _ hmem)
    · exact hnot arrival (he ▸ List.mem_append_right _ List.mem_cons_self)

end Log

/-- Where call `t` of `n` stands before anything happens. -/
def TokenStage.first (n t : Nat) : TokenStage := if t < n then .idle else .absent

theorem TokenStage.first_cases (n t : Nat) : first n t = .idle ∨ first n t = .absent := by
  unfold first
  split
  · exact Or.inl rfl
  · exact Or.inr rfl

theorem allFollow_calls (credentials : OAuth2ClientCredentials) (n : Nat) :
    Pool.AllFollow (tokenMonitor credentials) (fun _ r s => s = .done r) (TokenStage.first n)
      (credentials.calls n) := by
  intro t p hp
  have hp' : (List.replicate n credentials.accessToken)[t]? = some p := hp
  obtain ⟨ht, rfl⟩ := List.getElem?_eq_some_iff.mp hp'
  rw [List.length_replicate] at ht
  have hfirst : TokenStage.first n t = .idle := if_pos ht
  rw [List.getElem_replicate, hfirst]
  exact accessToken_follows

/-- What every move of a call keeps, and its return, every run keeps. -/
theorem calls_invariant (env : TokenEnv) (credentials : OAuth2ClientCredentials) (n : Nat)
    {I : TokenWorld → (Nat → TokenStage) → List TokenEntry → Prop}
    (hstart : I .new (TokenStage.first n) [])
    (hstep : ∀ w φ log t o x w' s, I w φ log → TokenMove credentials (φ t) o x s →
      env.handle t o w = some (x, w') → I w' (Function.update φ t s) (log ++ [.did t ⟨o, x⟩]))
    (hreturned : ∀ w φ log t result, I w φ log → φ t = .done result →
      I w φ (log ++ [.returned t result])) (ts : List Nat) :
    ∃ φ, I (Pool.run env.handle ts (credentials.calls n)).world φ
        (Pool.run env.handle ts (credentials.calls n)).log ∧
      Pool.AllFollow (tokenMonitor credentials) (fun _ r s => s = .done r) φ
        (Pool.run env.handle ts (credentials.calls n)) := by
  refine Pool.run_invariant (C := fun _ _ _ => True) ?_ ts hstart
    (allFollow_calls credentials n) Pool.stepsMeet_true
  intro w φ l t o x w' h hallow _ hx
  have hdid := hstep w φ l t o x w' _ h (TokenStage.Allows.moves hallow) hx
  refine ⟨trivial, hdid, fun result hdone => ?_⟩
  have hlog := hreturned _ _ _ t result hdid (by rw [Function.update_self]; exact hdone)
  rw [List.append_assoc] at hlog
  exact hlog

/-! ## What calls keep to -/

variable {credentials : OAuth2ClientCredentials} {env : TokenEnv} {n : Nat} {w w' : TokenWorld}
  {φ : Nat → TokenStage} {log : List TokenEntry} {t : Nat} {o : TokenOp} {x : o.Ans}

/-- The lock is where the calls say it is; a call that judges a token judges the one in the
cache; and a call that is about to mint does so because everything is spent. -/
structure Minding (credentials : OAuth2ClientCredentials) (n : Nat) (w : TokenWorld)
    (φ : Nat → TokenStage) (log : List TokenEntry) : Prop where
  lock : w.lock.Tracks (TokenStage.hold ∘ φ)
  absent : ∀ t, n ≤ t → φ t = .absent
  judging : ∀ t writes token expiry, φ t = .judging writes token expiry →
    w.cache = some token ∧ token.expiresAt = some expiry
  current : ∀ before t token rest, log = before ++ .did t ⟨.store token, ()⟩ :: rest →
    w.cache = some token ∨ RunOut token rest
  spent : ∀ t, (φ t).mints → AllRunOut log
  flight : ∀ t, Unanswered t log → φ t = .sent
  sends : EachAfter (Needed credentials) log

namespace Minding

theorem start (credentials : OAuth2ClientCredentials) (n : Nat) :
    Minding credentials n .new (TokenStage.first n) [] where
  lock := RwLock.Tracks.of_free fun t => by
    rcases TokenStage.first_cases n t with h | h <;> rw [Function.comp_apply, h] <;> rfl
  absent t ht := if_neg (Nat.not_lt.mpr ht)
  judging t writes token expiry h := by
    rcases TokenStage.first_cases n t with ht | ht <;> cases ht.symm.trans h
  current before t token rest h := by simp at h
  spent t h := by
    rcases TokenStage.first_cases n t with ht | ht <;> rw [ht] at h <;> cases h
  flight t h := by
    obtain ⟨before, request, rest, heq, -⟩ := h
    simp at heq
  sends := EachAfter.nil

/-- Only a writer mints, so a call that stores is the only one that does. -/
theorem eq_of_mints (h : Minding credentials n w φ log) (ht : (φ t).hold = .writing) {t' : Nat}
    (ht' : (φ t').mints) : t' = t := by
  refine h.lock.eq_of_writing ht ?_
  rw [Function.comp_apply, TokenStage.hold_of_mints ht']
  decide

/-- The next entry of call `t`, if it is not a store. -/
theorem append (h : Minding credentials n w φ log) {s : TokenStage}
    (hlock : w'.lock.Tracks (Function.update (TokenStage.hold ∘ φ) t s.hold))
    (hcache : w'.cache = w.cache) (hhere : φ t ≠ .absent)
    (hjudging : ∀ writes token expiry, s = .judging writes token expiry →
      w.cache = some token ∧ token.expiresAt = some expiry)
    (hmints : s.mints → AllRunOut (log ++ [.did t ⟨o, x⟩]))
    (hstore : isStore (.did t ⟨o, x⟩) = false) (hneeded : Needed credentials log (.did t ⟨o, x⟩))
    (hsend : isSend (.did t ⟨o, x⟩) → s = .sent) (hsent : φ t = .sent → o = .receive) :
    Minding credentials n w' (Function.update φ t s) (log ++ [.did t ⟨o, x⟩]) where
  lock := by
    rw [Function.comp_update]
    exact hlock
  absent t' ht' := by
    have hne : t' ≠ t := by
      rintro rfl
      exact hhere (h.absent t' ht')
    rw [Function.update_of_ne hne]
    exact h.absent t' ht'
  judging t' writes token expiry ht' := by
    rw [hcache]
    by_cases htt : t' = t
    · subst htt
      rw [Function.update_self] at ht'
      exact hjudging writes token expiry ht'
    · rw [Function.update_of_ne htt] at ht'
      exact h.judging t' writes token expiry ht'
  current := by
    rw [hcache]
    exact stores_append (fun _ _ hp => hp.imp_right fun hspent => hspent.append) hstore h.current
  spent t' ht' := by
    by_cases htt : t' = t
    · subst htt
      rw [Function.update_self] at ht'
      exact hmints ht'
    · rw [Function.update_of_ne htt] at ht'
      exact (h.spent t' ht').append hstore
  flight t' ht' := by
    rcases ht'.of_append with ⟨request, he⟩ | ⟨hflight, hreceive⟩
    · obtain ⟨rfl, he⟩ := Entry.did.inj he
      rw [Function.update_self]
      refine hsend ?_
      rw [he]
      rfl
    · have hstage := h.flight t' hflight
      by_cases htt : t' = t
      · subst htt
        obtain rfl := hsent hstage
        exact absurd rfl (hreceive x)
      · rw [Function.update_of_ne htt]
        exact hstage
  sends := EachAfter.concat_iff.mpr ⟨h.sends, hneeded⟩

/-- The token in the cache has just been found spent, or there is none. -/
theorem allSpent (h : Minding credentials n w φ log) {e : TokenEntry}
    (hspent : ∀ token, w.cache = some token → RunOut token [e]) (hstore : isStore e = false) :
    AllRunOut (log ++ [e]) := by
  intro before t token rest heq
  rcases split_concat heq with ⟨-, rfl, -⟩ | ⟨rest', rfl, hlog⟩
  · cases hstore
  · rcases h.current before t token rest' hlog with hcache | hrest
    · obtain ⟨t', now, expiry, hmem, hexpiry⟩ := hspent token hcache
      exact ⟨t', now, expiry, List.mem_append_right _ hmem, hexpiry⟩
    · exact hrest.append

/-- The token of call `t` goes into the cache; it is the only call at work. -/
theorem store {token : CachedToken} (h : Minding credentials n w φ log) (hs : φ t = .minted token) :
    Minding credentials n { w.locked w.lock with cache := some token }
      (Function.update φ t (.closing (.ok token.accessToken)))
      (log ++ [.did t ⟨.store token, ()⟩]) where
  lock := by
    rw [Function.comp_update]
    have hold : (TokenStage.closing (.ok token.accessToken)).hold = (TokenStage.hold ∘ φ) t :=
      (congrArg TokenStage.hold hs).symm
    rw [hold, Function.update_eq_self]
    exact h.lock
  absent t' ht' := by
    have hne : t' ≠ t := by
      rintro rfl
      exact nomatch hs.symm.trans (h.absent t' ht')
    rw [Function.update_of_ne hne]
    exact h.absent t' ht'
  judging t' writes token' expiry ht' := by
    by_cases htt : t' = t
    · subst htt
      rw [Function.update_self] at ht'
      cases ht'
    · rw [Function.update_of_ne htt] at ht'
      refine absurd (h.lock.eq_of_writing (congrArg TokenStage.hold hs) ?_) htt
      rw [Function.comp_apply, ht']
      cases writes <;> exact nofun
  current before t' token' rest heq := by
    rcases split_concat heq with ⟨-, he, -⟩ | ⟨rest', rfl, hlog⟩
    · cases he
      exact Or.inl rfl
    · exact Or.inr (h.spent t (by rw [hs]; rfl) before t' token' rest' hlog).append
  spent t' ht' := by
    by_cases htt : t' = t
    · subst htt
      rw [Function.update_self] at ht'
      cases ht'
    · rw [Function.update_of_ne htt] at ht'
      exact absurd (h.eq_of_mints (congrArg TokenStage.hold hs) ht') htt
  flight t' ht' := by
    rcases ht'.of_append with ⟨request, he⟩ | ⟨hflight, -⟩
    · cases he
    · have hstage := h.flight t' hflight
      have hne : t' ≠ t := by
        rintro rfl
        exact nomatch hs.symm.trans hstage
      rw [Function.update_of_ne hne]
      exact hstage
  sends := EachAfter.concat_iff.mpr ⟨h.sends, fun _ _ he => nomatch he⟩

/-- That a call has returned changes nothing. -/
theorem returned (h : Minding credentials n w φ log) (result : TokenResult) :
    Minding credentials n w φ (log ++ [.returned t result]) where
  lock := h.lock
  absent := h.absent
  judging := h.judging
  current := stores_append (fun _ _ hp => hp.imp_right fun hspent => hspent.append) rfl h.current
  spent t' ht' := (h.spent t' ht').append rfl
  flight t' ht' := by
    rcases ht'.of_append with ⟨request, hr⟩ | ⟨hflight, -⟩
    · cases hr
    · exact h.flight t' hflight
  sends := EachAfter.concat_iff.mpr ⟨h.sends, fun t' request he => by cases he⟩

/-- Whatever a call does next, calls keep minding. -/
theorem step (h : Minding credentials n w φ log) {s : TokenStage}
    (hmove : TokenMove credentials (φ t) o x s) (hx : env.handle t o w = some (x, w')) :
    Minding credentials n w' (Function.update φ t s) (log ++ [.did t ⟨o, x⟩]) := by
  generalize hs : φ t = s₀ at hmove
  have hhere : φ t ≠ .absent := by
    rw [hs]
    cases hmove <;> exact nofun
  have hold : (TokenStage.hold ∘ φ) t = s₀.hold := congrArg TokenStage.hold hs
  -- a move that leaves the lock alone
  have hkeeps : s.hold = s₀.hold →
      w.lock.Tracks (Function.update (TokenStage.hold ∘ φ) t s.hold) := by
    intro heq
    rw [heq, ← hold, Function.update_eq_self]
    exact h.lock
  cases hmove with
  | readLock =>
      obtain ⟨lock, hlock, hw⟩ := Option.map_eq_some_iff.mp hx
      obtain rfl := (Prod.mk.inj hw).2
      exact h.append (h.lock.read hlock) rfl hhere nofun nofun rfl nofun nofun
        fun hsent => nomatch hs.symm.trans hsent
  | writeLock =>
      obtain ⟨lock, hlock, hw⟩ := Option.map_eq_some_iff.mp hx
      obtain rfl := (Prod.mk.inj hw).2
      exact h.append (h.lock.write hlock) rfl hhere nofun nofun rfl nofun nofun
        fun hsent => nomatch hs.symm.trans hsent
  | load writes token =>
      obtain ⟨htoken, rfl⟩ := Prod.mk.inj (Option.some.inj hx)
      refine h.append (hkeeps (TokenStage.hold_loaded writes token)) rfl hhere ?_ ?_ rfl nofun nofun
        fun hsent => nomatch hs.symm.trans hsent
      · intro writes' token' expiry hjudging
        obtain ⟨rfl, hexpiry⟩ := TokenStage.loaded_eq_judging hjudging
        exact ⟨htoken, hexpiry⟩
      · intro hmints
        refine h.allSpent (fun token' htoken' => ?_) rfl
        rw [htoken, TokenStage.mints_loaded hmints] at htoken'
        cases htoken'
  | judge writes token expiry now =>
      obtain ⟨-, rfl⟩ := Prod.mk.inj (Option.some.inj hx)
      obtain ⟨hcache, hexpiry⟩ := h.judging t writes token expiry hs
      refine h.append (hkeeps ?_) rfl hhere ?_ ?_ rfl nofun nofun
        fun hsent => nomatch hs.symm.trans hsent
      · rw [TokenStage.hold_judged]
        cases writes <;> rfl
      · exact fun _ _ _ hjudging => (TokenStage.judged_ne_judging hjudging).elim
      · intro hmints
        refine h.allSpent (fun token' htoken' => ?_) rfl
        obtain rfl := Option.some.inj (hcache.symm.trans htoken')
        refine ⟨t, now, expiry, List.mem_cons_self, hexpiry, ?_⟩
        have hnone := TokenStage.mints_judged hmints
        by_contra hlt
        rw [if_pos (Nat.lt_of_not_le hlt)] at hnone
        cases hnone
  | date accessToken secs now =>
      obtain ⟨-, rfl⟩ := Prod.mk.inj (Option.some.inj hx)
      refine h.append (hkeeps (TokenStage.hold_made _)) rfl hhere ?_ ?_ rfl nofun nofun
        fun hsent => nomatch hs.symm.trans hsent
      · exact fun _ _ _ hjudging => (TokenStage.made_ne_judging hjudging).elim
      · exact fun _ => (h.spent t (by rw [hs]; rfl)).append rfl
  | readUnlock found =>
      obtain ⟨-, rfl⟩ := Prod.mk.inj (Option.some.inj hx)
      refine h.append ?_ rfl hhere ?_ ?_ rfl nofun nofun fun hsent => nomatch hs.symm.trans hsent
      · have hout : (TokenStage.afterLook found).hold = .outside := by cases found <;> rfl
        rw [hout]
        exact h.lock.endRead hold
      · intro writes token expiry hjudging
        cases found <;> cases hjudging
      · intro hmints
        cases found <;> cases hmints
  | send =>
      obtain ⟨-, rfl⟩ := Prod.mk.inj (Option.some.inj hx)
      refine h.append (hkeeps rfl) rfl hhere nofun ?_ rfl ?_ (fun _ => rfl)
        fun hsent => nomatch hs.symm.trans hsent
      · exact fun _ => (h.spent t (by rw [hs]; rfl)).append rfl
      · intro t' request he
        obtain ⟨rfl, he⟩ := Entry.did.inj he
        refine ⟨?_, h.spent t (by rw [hs]; rfl), fun t' hflight => ?_⟩
        · cases he
          rfl
        · have hsent := h.flight t' hflight
          have hmints : (φ t').mints := by rw [hsent]; rfl
          obtain rfl := h.eq_of_mints (congrArg TokenStage.hold hs) hmints
          exact nomatch hs.symm.trans hsent
  | receive arrival =>
      obtain ⟨-, rfl⟩ := Prod.mk.inj (Option.some.inj hx)
      refine h.append (hkeeps (TokenStage.hold_arrived _)) rfl hhere ?_ ?_ rfl nofun nofun
        fun _ => rfl
      · exact fun _ _ _ hjudging => (TokenStage.arrived_ne_judging hjudging).elim
      · exact fun _ => (h.spent t (by rw [hs]; rfl)).append rfl
  | store token =>
      obtain ⟨-, rfl⟩ := Prod.mk.inj (Option.some.inj hx)
      exact h.store hs
  | writeUnlock result =>
      obtain ⟨-, rfl⟩ := Prod.mk.inj (Option.some.inj hx)
      exact h.append (h.lock.endWrite hold) rfl hhere nofun nofun rfl nofun nofun
        fun hsent => nomatch hs.symm.trans hsent

end Minding

theorem minding_calls (env : TokenEnv) (credentials : OAuth2ClientCredentials) (n : Nat)
    (ts : List Nat) :
    ∃ φ, Minding credentials n (Pool.run env.handle ts (credentials.calls n)).world φ
        (Pool.run env.handle ts (credentials.calls n)).log ∧
      Pool.AllFollow (tokenMonitor credentials) (fun _ r s => s = .done r) φ
        (Pool.run env.handle ts (credentials.calls n)) :=
  calls_invariant env credentials n (Minding.start credentials n)
    (fun _ _ _ _ _ _ _ _ h hmove hx => h.step hmove hx)
    (fun _ _ _ _ result h _ => h.returned result) ts

/-- **One request at a time, and none too many.**  However calls interleave, a request goes
to the token endpoint only when no other one is waiting for its answer, and after every token
that was stored before was seen, since it was stored, to expire within the skew.  A token
without an expiry is the last one. -/
theorem tokenRequests_spaced (env : TokenEnv) (credentials : OAuth2ClientCredentials) (n : Nat)
    (ts : List Nat) :
    EachAfter (Needed credentials) (Pool.run env.handle ts (credentials.calls n)).log := by
  obtain ⟨φ, h, -⟩ := minding_calls env credentials n ts
  exact h.sends

/-! ## Where a token comes from -/

/-- The endpoint gave call `t` this token; its expiry counts from a time after that. -/
def Issued (t : Nat) (token : CachedToken) (log : List TokenEntry) : Prop :=
  ∃ before status body rest,
    log = before ++ .did t ⟨.receive, .response status (.ok body)⟩ :: rest ∧
    (200 ≤ status ∧ status ≤ 299) ∧ body.accessToken ≠ "" ∧
    token.accessToken = body.accessToken ∧
    match body.expiresIn with
    | none => token.expiresAt = none
    | some secs =>
        ∃ now, .did t ⟨.now, now⟩ ∈ rest ∧ token.expiresAt = some (now + secs * 10 ^ 9)

/-- Call `t` read the token from the cache, and then saw that it lasts for longer than the
skew. -/
def FoundFresh (t : Nat) (token : CachedToken) (log : List TokenEntry) : Prop :=
  ∃ before rest, log = before ++ .did t ⟨.load, some token⟩ :: rest ∧
    ∀ expiry, token.expiresAt = some expiry →
      ∃ now, .did t ⟨.now, now⟩ ∈ rest ∧ now + tokenExpirySkew < expiry

/-- Call `t` asked for the token itself, or found it fresh. -/
def Served (t : Nat) (accessToken : String) (log : List TokenEntry) : Prop :=
  ∃ token t', token.accessToken = accessToken ∧ Issued t' token log ∧
    (t' = t ∨ FoundFresh t token log)

/-- What a call knows where it stands. -/
def TokenStage.Knows (t : Nat) (log : List TokenEntry) : TokenStage → Prop
  | .judging _ token expiry =>
      token.expiresAt = some expiry ∧ (∃ t', Issued t' token log) ∧
        ∃ before rest, log = before ++ .did t ⟨.load, some token⟩ :: rest
  | .looked (some accessToken) | .closing (.ok accessToken) | .done (.ok accessToken) =>
      Served t accessToken log
  | .received accessToken secs =>
      accessToken ≠ "" ∧ ∃ before status rest, (200 ≤ status ∧ status ≤ 299) ∧
        log = before ++ .did t ⟨.receive, .response status (.ok ⟨accessToken, some secs⟩)⟩ :: rest
  | .minted token => Issued t token log
  | _ => True

section Log

variable {token : CachedToken} {accessToken : String} {log log' : List TokenEntry} {t : Nat}
  {s : TokenStage}

theorem Issued.append (h : Issued t token log) : Issued t token (log ++ log') := by
  obtain ⟨before, status, body, rest, rfl, hstatus, hne, htoken, hexpiry⟩ := h
  refine ⟨before, status, body, rest ++ log', ?_, hstatus, hne, htoken, ?_⟩
  · rw [List.append_assoc, List.cons_append]
  · cases hin : body.expiresIn with
    | none =>
        rw [hin] at hexpiry
        exact hexpiry
    | some secs =>
        rw [hin] at hexpiry
        obtain ⟨now, hmem, hat⟩ := hexpiry
        exact ⟨now, List.mem_append_left _ hmem, hat⟩

theorem FoundFresh.append (h : FoundFresh t token log) : FoundFresh t token (log ++ log') := by
  obtain ⟨before, rest, rfl, hfresh⟩ := h
  refine ⟨before, rest ++ log', ?_, fun expiry hexpiry => ?_⟩
  · rw [List.append_assoc, List.cons_append]
  · obtain ⟨now, hmem, hlt⟩ := hfresh expiry hexpiry
    exact ⟨now, List.mem_append_left _ hmem, hlt⟩

theorem Served.append (h : Served t accessToken log) : Served t accessToken (log ++ log') := by
  obtain ⟨token, t', htoken, hissued, hhow⟩ := h
  exact ⟨token, t', htoken, hissued.append, hhow.imp_right fun hfresh => hfresh.append⟩

theorem TokenStage.Knows.append (h : s.Knows t log) : s.Knows t (log ++ log') := by
  cases s with
  | judging writes token expiry =>
      obtain ⟨hexpiry, ⟨t', hissued⟩, before, rest, rfl⟩ := h
      exact ⟨hexpiry, ⟨t', hissued.append⟩, before, rest ++ log', by simp⟩
  | looked found =>
      cases found with
      | none => trivial
      | some accessToken => exact Served.append h
  | closing result =>
      cases result with
      | error e => trivial
      | ok accessToken => exact Served.append h
  | done result =>
      cases result with
      | error e => trivial
      | ok accessToken => exact Served.append h
  | received accessToken secs =>
      obtain ⟨hne, before, status, rest, hstatus, rfl⟩ := h
      exact ⟨hne, before, status, rest ++ log', hstatus, by simp⟩
  | minted token => exact Issued.append h
  | _ => trivial

end Log

/-- What is in the cache was issued, and what calls have returned was served to them. -/
structure Providing (w : TokenWorld) (φ : Nat → TokenStage) (log : List TokenEntry) : Prop where
  cached : ∀ token, w.cache = some token → ∃ t, Issued t token log
  knows : ∀ t, (φ t).Knows t log
  returned : ∀ t accessToken, .returned t (.ok accessToken) ∈ log → Served t accessToken log

theorem readTokenBody_ok {json : Except String TokenResponse} {body : TokenResponse}
    (h : readTokenBody json = .ok body) : json = .ok body ∧ body.accessToken ≠ "" := by
  cases json with
  | error e => cases h
  | ok body' =>
      rw [readTokenBody] at h
      split at h
      · cases h
      · next hne =>
          obtain rfl := Except.ok.inj h
          exact ⟨rfl, hne⟩

theorem readToken_ok {arrival : TokenArrival} {body : TokenResponse}
    (h : credentials.readToken arrival = .ok body) :
    ∃ status, arrival = .response status (.ok body) ∧ (200 ≤ status ∧ status ≤ 299) ∧
      body.accessToken ≠ "" := by
  cases arrival with
  | dropped => cases h
  | failed error => cases h
  | response status json =>
      rw [OAuth2ClientCredentials.readToken] at h
      split at h
      · next hstatus =>
          obtain ⟨rfl, hne⟩ := readTokenBody_ok h
          exact ⟨status, rfl, hstatus, hne⟩
      · cases h

/-- A look that found something to use found it fresh. -/
theorem knows_judged {writes : Bool} {found : Option String}
    (h : ∀ accessToken, found = some accessToken → Served t accessToken log) :
    (TokenStage.judged writes found).Knows t log := by
  cases found with
  | none => cases writes <;> trivial
  | some accessToken =>
      cases writes with
      | false => exact h accessToken rfl
      | true => exact h accessToken rfl

namespace Providing

theorem start (n : Nat) : Providing .new (TokenStage.first n) [] where
  cached token h := by cases h
  knows t := by
    rcases TokenStage.first_cases n t with h | h <;> rw [h] <;> trivial
  returned t accessToken h := absurd h List.not_mem_nil

/-- The next entry of call `t`, which leads to a stage it knows about. -/
theorem append (h : Providing w φ log) {s : TokenStage}
    (hcached : ∀ token, w'.cache = some token →
      w.cache = some token ∨ Issued t token (log ++ [.did t ⟨o, x⟩]))
    (hs : s.Knows t (log ++ [.did t ⟨o, x⟩])) :
    Providing w' (Function.update φ t s) (log ++ [.did t ⟨o, x⟩]) where
  cached token htoken := by
    rcases hcached token htoken with hold | hissued
    · obtain ⟨t', hissued⟩ := h.cached token hold
      exact ⟨t', hissued.append⟩
    · exact ⟨t, hissued⟩
  knows t' := by
    by_cases htt : t' = t
    · subst htt
      rw [Function.update_self]
      exact hs
    · rw [Function.update_of_ne htt]
      exact (h.knows t').append
  returned t' accessToken hmem := by
    rcases List.mem_append.mp hmem with hmem | hmem
    · exact (h.returned t' accessToken hmem).append
    · exact nomatch List.mem_singleton.mp hmem

theorem step (h : Providing w φ log) {s : TokenStage}
    (hmove : TokenMove credentials (φ t) o x s) (hx : env.handle t o w = some (x, w')) :
    Providing w' (Function.update φ t s) (log ++ [.did t ⟨o, x⟩]) := by
  have hknows := h.knows t
  generalize φ t = s₀ at hmove hknows
  cases hmove with
  | readLock =>
      obtain ⟨lock, -, hw⟩ := Option.map_eq_some_iff.mp hx
      obtain rfl := (Prod.mk.inj hw).2
      exact h.append (fun _ hcache => Or.inl hcache) trivial
  | writeLock =>
      obtain ⟨lock, -, hw⟩ := Option.map_eq_some_iff.mp hx
      obtain rfl := (Prod.mk.inj hw).2
      exact h.append (fun _ hcache => Or.inl hcache) trivial
  | load writes token =>
      obtain ⟨htoken, rfl⟩ := Prod.mk.inj (Option.some.inj hx)
      refine h.append (fun _ hcache => Or.inl hcache) ?_
      cases token with
      | none => exact knows_judged nofun
      | some token =>
          obtain ⟨t', hissued⟩ := h.cached token htoken
          obtain ⟨accessToken, expiresAt⟩ := token
          cases expiresAt with
          | some expiry => exact ⟨rfl, ⟨t', hissued.append⟩, log, [], rfl⟩
          | none =>
              refine knows_judged fun found hfound => ?_
              obtain rfl := Option.some.inj hfound
              exact ⟨_, t', rfl, hissued.append, Or.inr ⟨log, [], rfl, nofun⟩⟩
  | judge writes token expiry now =>
      obtain ⟨-, rfl⟩ := Prod.mk.inj (Option.some.inj hx)
      obtain ⟨hexpiry, ⟨t', hissued⟩, before, rest, hlog⟩ := hknows
      refine h.append (fun _ hcache => Or.inl hcache) (knows_judged fun found hfound => ?_)
      split at hfound
      · next hlt =>
          obtain rfl := Option.some.inj hfound
          refine ⟨token, t', rfl, hissued.append, Or.inr ⟨before, rest ++ [.did t ⟨.now, now⟩], ?_,
            fun expiry' hexpiry' => ?_⟩⟩
          · rw [hlog, List.append_assoc, List.cons_append]
          · obtain rfl := Option.some.inj (hexpiry.symm.trans hexpiry')
            exact ⟨now, List.mem_append_right _ List.mem_cons_self, hlt⟩
      · cases hfound
  | date accessToken secs now =>
      obtain ⟨-, rfl⟩ := Prod.mk.inj (Option.some.inj hx)
      obtain ⟨hne, before, status, rest, hstatus, hlog⟩ := hknows
      refine h.append (fun _ hcache => Or.inl hcache) ?_
      unfold instantAdd
      split
      · refine ⟨before, status, ⟨accessToken, some secs⟩, rest ++ [.did t ⟨.now, now⟩], ?_, hstatus,
          hne, rfl, now, List.mem_append_right _ List.mem_cons_self, rfl⟩
        rw [hlog, List.append_assoc, List.cons_append]
      · trivial
  | readUnlock found =>
      obtain ⟨-, rfl⟩ := Prod.mk.inj (Option.some.inj hx)
      refine h.append (fun _ hcache => Or.inl hcache) ?_
      cases found with
      | none => trivial
      | some accessToken => exact Served.append hknows
  | send =>
      obtain ⟨-, rfl⟩ := Prod.mk.inj (Option.some.inj hx)
      exact h.append (fun _ hcache => Or.inl hcache) trivial
  | receive arrival =>
      obtain ⟨-, rfl⟩ := Prod.mk.inj (Option.some.inj hx)
      refine h.append (fun _ hcache => Or.inl hcache) ?_
      cases hread : credentials.readToken arrival with
      | error e => trivial
      | ok body =>
          obtain ⟨status, rfl, hstatus, hne⟩ := readToken_ok hread
          obtain ⟨accessToken, expiresIn⟩ := body
          cases expiresIn with
          | none => exact ⟨log, status, ⟨accessToken, none⟩, [], rfl, hstatus, hne, rfl, rfl⟩
          | some secs => exact ⟨hne, log, status, [], hstatus, rfl⟩
  | store token =>
      obtain ⟨-, rfl⟩ := Prod.mk.inj (Option.some.inj hx)
      refine h.append (fun token' hcache => Or.inr ?_) ?_
      · obtain rfl := Option.some.inj hcache
        exact Issued.append hknows
      · exact ⟨token, t, rfl, Issued.append hknows, Or.inl rfl⟩
  | writeUnlock result =>
      obtain ⟨-, rfl⟩ := Prod.mk.inj (Option.some.inj hx)
      refine h.append (fun _ hcache => Or.inl hcache) ?_
      cases result with
      | error e => trivial
      | ok accessToken => exact Served.append hknows

theorem returns (h : Providing w φ log) {result : TokenResult} (ht : φ t = .done result) :
    Providing w φ (log ++ [.returned t result]) where
  cached token htoken := (h.cached token htoken).imp fun _ hissued => hissued.append
  knows t' := (h.knows t').append
  returned t' accessToken hmem := by
    rcases List.mem_append.mp hmem with hmem | hmem
    · exact (h.returned t' accessToken hmem).append
    · obtain ⟨rfl, rfl⟩ := Entry.returned.inj (List.mem_singleton.mp hmem)
      have hknows := h.knows t'
      rw [ht] at hknows
      exact Served.append hknows

end Providing

/-- **What a call returns is good.**  Every token returned came with a successful answer of the
endpoint, and is not empty.  The call asked for it itself, or read it from the cache and then
saw it expire later than the skew from now, if it ever expires. -/
theorem accessToken_served (env : TokenEnv) (credentials : OAuth2ClientCredentials) (n : Nat)
    (ts : List Nat) (t : Nat) (accessToken : String)
    (h : .returned t (.ok accessToken) ∈ (Pool.run env.handle ts (credentials.calls n)).log) :
    Served t accessToken (Pool.run env.handle ts (credentials.calls n)).log := by
  obtain ⟨φ, hproviding, -⟩ := calls_invariant env credentials n
    (Providing.start n) (fun _ _ _ _ _ _ _ _ h hmove hx => h.step hmove hx)
    (fun _ _ _ _ _ h ht => h.returns ht) ts
  exact hproviding.returned t accessToken h

/-- An endpoint whose tokens never expire. -/
def lastingTokens : TokenEnv where
  now _ := 0
  arrival _ := .response 200 (.ok ⟨"token", none⟩)

theorem accessToken_served_cached :
    Served 1 "token" (Pool.run lastingTokens.handle (List.replicate 9 0 ++ List.replicate 3 1)
      (OAuth2ClientCredentials.calls ⟨"https://auth", "id", "secret", none, .basic⟩ 2)).log :=
  accessToken_served lastingTokens _ 2 _ 1 "token" (List.mem_of_getLast? rfl)

/-! ## Waiting -/

/-- The operations a call still has before it, at most. -/
def TokenStage.left : TokenStage → Nat
  | .absent | .done _ => 0
  | .closing _ => 1
  | .minted _ => 2
  | .received .. => 3
  | .sent => 4
  | .stale => 5
  | .judging true .. => 6
  | .looking true => 7
  | .waiting => 8
  | .looked _ => 9
  | .judging false .. => 10
  | .looking false => 11
  | .idle => 12

/-- The entry is an operation of call `t`. -/
def didBy (t : Nat) : TokenEntry → Bool
  | .did t' _ => t' = t
  | .returned .. => false

theorem left_judged (writes : Bool) (found : Option String) :
    (TokenStage.judged writes found).left + 1 < (TokenStage.looking writes).left := by
  cases writes <;> cases found <;> simp [TokenStage.judged, TokenStage.left]

/-- Every move is a step ahead. -/
theorem TokenMove.left_lt {s s' : TokenStage} (h : TokenMove credentials s o x s') :
    s'.left < s.left := by
  cases h with
  | load writes token =>
      cases token with
      | none => exact Nat.lt_of_succ_lt (left_judged writes none)
      | some token =>
          obtain ⟨accessToken, expiresAt⟩ := token
          cases expiresAt with
          | none => exact Nat.lt_of_succ_lt (left_judged writes (some accessToken))
          | some expiry =>
              cases writes <;> simp [TokenStage.loaded, TokenStage.left]
  | judge writes token expiry now =>
      have hleft := left_judged writes
        (if now + tokenExpirySkew < expiry then some token.accessToken else none)
      cases writes with
      | false => exact Nat.lt_of_succ_lt_succ hleft
      | true => exact Nat.lt_of_succ_lt_succ hleft
  | date accessToken secs now =>
      cases instantAdd now secs <;> simp [datedToken, TokenStage.made, TokenStage.left]
  | readUnlock found =>
      cases found <;> simp [TokenStage.afterLook, TokenStage.left]
  | receive arrival =>
      rcases TokenStage.arrived_cases (credentials.readToken arrival) with ⟨r, h⟩ | ⟨_, _, h⟩
      · rw [h]
        cases r <;> simp [TokenStage.made, TokenStage.left]
      · rw [h]
        simp [TokenStage.left]
  | _ => simp [TokenStage.left]

/-- What a call has done and what it has left is within twelve operations. -/
def Budget (φ : Nat → TokenStage) (log : List TokenEntry) : Prop :=
  ∀ t, log.countP (didBy t) + (φ t).left ≤ 12

theorem Budget.start (n : Nat) : Budget (TokenStage.first n) [] := by
  intro t
  rcases TokenStage.first_cases n t with h | h <;> rw [h] <;> simp [TokenStage.left]

theorem Budget.step (h : Budget φ log) {s : TokenStage}
    (hmove : TokenMove credentials (φ t) o x s) :
    Budget (Function.update φ t s) (log ++ [.did t ⟨o, x⟩]) := by
  intro t'
  have hleft := hmove.left_lt
  have hbudget := h t'
  rw [List.countP_append, List.countP_singleton]
  by_cases htt : t' = t
  · subst htt
    rw [Function.update_self]
    simp only [didBy, decide_true, if_true]
    omega
  · rw [Function.update_of_ne htt]
    have hother : didBy t' (.did t ⟨o, x⟩) = false := decide_eq_false (Ne.symm htt)
    simp only [hother, Bool.false_eq_true, if_false]
    omega

/-- A call that is inside can go on, and so can any other while the lock is free. -/
theorem TokenStage.Allows.can_step {s : TokenStage} (h : s.Allows credentials o)
    (hfree : s.hold = .outside → w.lock = .free) : (env.handle t o w).isSome := by
  cases o with
  | readLock =>
      have hs : s = .idle := by cases s <;> first | rfl | exact h.elim
      have hlock := hfree (by rw [hs]; rfl)
      show ((w.lock.read t).map _).isSome
      rw [hlock]
      rfl
  | writeLock =>
      have hs : s = .waiting := by cases s <;> first | rfl | exact h.elim
      have hlock := hfree (by rw [hs]; rfl)
      show ((w.lock.write t).map _).isSome
      rw [hlock]
      rfl
  | _ => rfl

/-- A call that is there has returned, or can go on. -/
theorem call_returned_or_can_step (env : TokenEnv) {P : TokenPool}
    (hfollow : Pool.AllFollow (tokenMonitor credentials) (fun _ r s => s = .done r) φ P)
    (ht : t < P.threads.length) (hfree : (φ t).hold = .outside → P.world.lock = .free) :
    (∃ r, φ t = .done r ∧ P.threads[t] = .ret r) ∨
      ∃ o k, P.threads[t]? = some (.op o k) ∧ (env.handle t o P.world).isSome := by
  have hfollows := hfollow t _ (List.getElem?_eq_getElem ht)
  rw [List.getElem?_eq_getElem ht]
  cases hp : P.threads[t] with
  | ret r =>
      rw [hp] at hfollows
      exact Or.inl ⟨r, hfollows, rfl⟩
  | op o k =>
      rw [hp] at hfollows
      exact Or.inr ⟨o, k, rfl, TokenStage.Allows.can_step hfollows.1 hfree⟩

/-- **Calls do not block each other.**  However calls interleave, none of them performs more
than twelve operations; and as long as one of them has not returned there is one that can
go on.  When all have returned the lock is free. -/
theorem tokenCalls_progress (env : TokenEnv) (credentials : OAuth2ClientCredentials) (n : Nat)
    (ts : List Nat) :
    (∀ t, (Pool.run env.handle ts (credentials.calls n)).log.countP (didBy t) ≤ 12) ∧
      ((∃ (t : Nat) (o : TokenOp) (k : o.Ans → TokenRun TokenResult),
          (Pool.run env.handle ts (credentials.calls n)).threads[t]? = some (.op o k) ∧
          (env.handle t o (Pool.run env.handle ts (credentials.calls n)).world).isSome) ∨
        (∀ p ∈ (Pool.run env.handle ts (credentials.calls n)).threads, ∃ r, p = .ret r) ∧
          (Pool.run env.handle ts (credentials.calls n)).world.lock = .free) := by
  obtain ⟨φ, ⟨h, hbudget⟩, hfollow⟩ := calls_invariant env credentials n
    (I := fun w φ log => Minding credentials n w φ log ∧ Budget φ log)
    ⟨Minding.start credentials n, Budget.start n⟩
    (fun _ _ _ _ _ _ _ _ h hmove hx => ⟨h.1.step hmove hx, h.2.step hmove⟩)
    (fun _ _ _ _ result h _ => ⟨h.1.returned result, fun t' => by
      rw [List.countP_append]
      exact h.2 t'⟩) ts
  refine ⟨fun t => (Nat.le_add_right _ _).trans (hbudget t), ?_⟩
  by_cases hinside : ∃ t, (φ t).hold ≠ .outside
  · -- whoever is inside can go on
    obtain ⟨t, ht⟩ := hinside
    have hlt : t < n := by
      by_contra hge
      rw [h.absent t (Nat.not_lt.mp hge)] at ht
      exact ht rfl
    have hlength : t < (Pool.run env.handle ts (credentials.calls n)).threads.length := by
      rw [Pool.length_threads_run]
      exact hlt.trans_eq List.length_replicate.symm
    rcases call_returned_or_can_step env hfollow hlength (absurd · ht) with
      ⟨r, hdone, -⟩ | ⟨o, k, hstep⟩
    · rw [hdone] at ht
      exact absurd rfl ht
    · exact Or.inl ⟨t, o, k, hstep⟩
  · have hout : ∀ t, (φ t).hold = .outside := fun t => not_not.mp fun hne => hinside ⟨t, hne⟩
    have hfree : (Pool.run env.handle ts (credentials.calls n)).world.lock = .free :=
      h.lock.eq_free hout
    by_cases hall : ∀ p ∈ (Pool.run env.handle ts (credentials.calls n)).threads, ∃ r, p = .ret r
    · exact Or.inr ⟨hall, hfree⟩
    · -- nobody is inside, so anybody can go on
      obtain ⟨p, hnot⟩ := not_forall.mp hall
      obtain ⟨hmem, hp⟩ := Classical.not_imp.mp hnot
      obtain ⟨t, ht, rfl⟩ := List.mem_iff_getElem.mp hmem
      rcases call_returned_or_can_step env hfollow ht fun _ => hfree with
        ⟨r, -, hret⟩ | ⟨o, k, hstep⟩
      · exact absurd ⟨r, hret⟩ hp
      · exact Or.inl ⟨t, o, k, hstep⟩

end Orchestrator
