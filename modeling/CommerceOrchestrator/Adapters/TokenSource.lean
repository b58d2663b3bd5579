/-
# `CommerceOrchestrator.Adapters.TokenSource` — the shared OAuth2 token of a provider

All calls to a provider share one token source.  A call reads the cached token under the
read lock; if that is missing or about to expire it takes the write lock, looks again, and
asks the token endpoint for a new token while it holds the lock.

The call may be dropped while it waits for the endpoint, and an expiry too far in the future
makes it panic; either way its lock is given back and the cache is as it was.
-/
import CommerceOrchestrator.Adapters.Attempts
import CommerceOrchestrator.Effect.RwLock

namespace Orchestrator

open Effect Prog

/-! ## Credentials of the client -/

/-- How the client authenticates to the OAuth2 token endpoint. -/
inductive OAuth2ClientAuth
  | basic
  | requestBody
deriving DecidableEq, Repr

/-- OAuth2 client-credentials grant parameters. -/
structure OAuth2ClientCredentials where
  tokenUrl : String
  clientId : String
  clientSecret : String
  scope : Option String := none
  clientAuth : OAuth2ClientAuth := .basic
deriving DecidableEq, Repr

/-- The POST to the token endpoint. -/
structure TokenRequest where
  url : String
  form : List (String × String)
  basicAuth : Option (String × String)
deriving DecidableEq, Repr

/-- The secret is in the form or in the header, never in both. -/
def OAuth2ClientCredentials.request (credentials : OAuth2ClientCredentials) : TokenRequest where
  url := credentials.tokenUrl
  form :=
    ("grant_type", "client_credentials") ::
      (credentials.scope.map fun scope => ("scope", scope)).toList ++
        if credentials.clientAuth = .requestBody then
          [("client_id", credentials.clientId), ("client_secret", credentials.clientSecret)]
        else []
  basicAuth :=
    if credentials.clientAuth = .basic then some (credentials.clientId, credentials.clientSecret)
    else none

/-! ## Tokens -/

/-- What the endpoint answers; `expires_in` is in seconds. -/
structure TokenResponse where
  accessToken : String
  expiresIn : Option Nat := none
deriving DecidableEq, Repr

/-- Without an expiry the token is long-lived. -/
structure CachedToken where
  accessToken : String
  expiresAt : Option Nat
deriving DecidableEq, Repr

/-- A token is replaced this long before it expires. -/
def tokenExpirySkew : Nat := 60 * 10 ^ 9

/-- The last instant, whose seconds are an `i64`. -/
def instantMax : Nat := 2 ^ 63 * 10 ^ 9 - 1

/-- `Instant + Duration` panics where the sum cannot be represented. -/
def instantAdd (now secs : Nat) : Option Nat :=
  if now + secs * 10 ^ 9 ≤ instantMax then some (now + secs * 10 ^ 9) else none

/-- How waiting for the endpoint ends. -/
inductive TokenArrival
  | failed (error : String)
  | response (status : Nat) (json : Except String TokenResponse)
  | dropped
deriving DecidableEq, Repr

/-- Why a call has no token. -/
inductive TokenFailure
  | adapter (error : AdapterError)
  | panicked
  | dropped
deriving DecidableEq, Repr

/-- `mint`, from the JSON of the answer on. -/
def readTokenBody : Except String TokenResponse → Except TokenFailure TokenResponse
  | .error e => .error (.adapter (.config ("oauth token response was not valid JSON: " ++ e)))
  | .ok body =>
      if body.accessToken = "" then
        .error (.adapter (.config "oauth token response contained an empty access_token"))
      else .ok body

/-- `mint`, from the answer on. -/
def OAuth2ClientCredentials.readToken (credentials : OAuth2ClientCredentials) :
    TokenArrival → Except TokenFailure TokenResponse
  | .dropped => .error .dropped
  | .failed error =>
      .error (.adapter (.config
        ("oauth token request to " ++ credentials.tokenUrl ++ " failed: " ++ error)))
  | .response status json =>
      if 200 ≤ status ∧ status ≤ 299 then readTokenBody json
      else
        -- the body of a refusal is not repeated: token endpoints echo credentials
        .error (.adapter (.config
          ("oauth token endpoint " ++ credentials.tokenUrl ++ " returned status " ++ toString status)))

/-! ## A call -/

inductive TokenOp
  | now
  | readLock
  | readUnlock
  | writeLock
  | writeUnlock
  | load
  | store (token : CachedToken)
  | send (request : TokenRequest)
  | receive
deriving DecidableEq, Repr

abbrev TokenOp.Ans : TokenOp → Type
  | .now => Nat
  | .load => Option CachedToken
  | .receive => TokenArrival
  | .readLock | .readUnlock | .writeLock | .writeUnlock | .store _ | .send _ => Unit

abbrev TokenRun := Prog TokenOp.Ans

/-- `o.await`. -/
def TokenOp.await (o : TokenOp) : TokenRun o.Ans := perform o

abbrev TokenResult := Except TokenFailure String

def CachedToken.isUsable (token : CachedToken) : TokenRun Bool :=
  match token.expiresAt with
  | none => .ret true
  | some expiry => do
      let now : Nat ← TokenOp.now.await
      return decide (now + tokenExpirySkew < expiry)

/-- The cached token, if it is still valid. -/
def usableToken : TokenRun (Option String) := do
  match ← TokenOp.load.await with
  | none => return none
  | some token => return if ← token.isUsable then some token.accessToken else none

def datedToken (accessToken : String) : Option Nat → Except TokenFailure CachedToken
  | none => .error .panicked
  | some expiry => .ok ⟨accessToken, some expiry⟩

/-- The expiry counts from when the answer was there. -/
def TokenResponse.minted (body : TokenResponse) : TokenRun (Except TokenFailure CachedToken) :=
  match body.expiresIn with
  | none => .ret (.ok ⟨body.accessToken, none⟩)
  | some secs => do
      let now : Nat ← TokenOp.now.await
      return datedToken body.accessToken (instantAdd now secs)

def mintedOf : Except TokenFailure TokenResponse → TokenRun (Except TokenFailure CachedToken)
  | .error e => .ret (.error e)
  | .ok body => body.minted

namespace OAuth2ClientCredentials

variable (credentials : OAuth2ClientCredentials)

def mint : TokenRun (Except TokenFailure CachedToken) := do
  (TokenOp.send credentials.request).await
  mintedOf (credentials.readToken (← TokenOp.receive.await))

/-- Under the write lock: another task may have refreshed the token in the meantime. -/
def refresh : TokenRun TokenResult := do
  match ← usableToken with
  | some token => return .ok token
  | none =>
      match ← credentials.mint with
      | .error e => return .error e
      | .ok minted =>
          (TokenOp.store minted).await
          return .ok minted.accessToken

/-- Return a cached token when still valid, otherwise mint a new one. -/
def accessToken : TokenRun TokenResult := do
  TokenOp.readLock.await
  let cached ← usableToken
  TokenOp.readUnlock.await
  match cached with
  | some token => return .ok token
  | none =>
      TokenOp.writeLock.await
      let result ← credentials.refresh
      TokenOp.writeUnlock.await
      return result

end OAuth2ClientCredentials

/-! ## The source among calls -/

/-- The clock and the endpoint, by the number of operations so far. -/
structure TokenEnv where
  now : Nat → Nat
  arrival : Nat → TokenArrival

structure TokenWorld where
  lock : RwLock
  cache : Option CachedToken
  tick : Nat
deriving DecidableEq, Repr

/-- `OAuth2TokenSource::new`. -/
def TokenWorld.new : TokenWorld := ⟨.free, none, 0⟩

def TokenWorld.locked (w : TokenWorld) (lock : RwLock) : TokenWorld :=
  { w with lock, tick := w.tick + 1 }

def TokenEnv.handle (env : TokenEnv) : SharedHandler TokenOp.Ans TokenWorld
  | _, .now, w => some (env.now w.tick, w.locked w.lock)
  | t, .readLock, w => (w.lock.read t).map fun lock => ((), w.locked lock)
  | t, .readUnlock, w => some ((), w.locked (w.lock.endRead t))
  | t, .writeLock, w => (w.lock.write t).map fun lock => ((), w.locked lock)
  | _, .writeUnlock, w => some ((), w.locked w.lock.endWrite)
  | _, .load, w => some (w.cache, w.locked w.lock)
  | _, .store token, w => some ((), { w.locked w.lock with cache := some token })
  | _, .send _, w => some ((), w.locked w.lock)
  | _, .receive, w => some (env.arrival w.tick, w.locked w.lock)

/-! ## How far a call has come -/

/-- Where a call stands; `writes` tells the second look from the first. -/
inductive TokenStage
  | absent
  | idle
  | looking (writes : Bool)
  | judging (writes : Bool) (token : CachedToken) (expiry : Nat)
  | looked (found : Option String)
  | waiting
  | stale
  | sent
  | received (accessToken : String) (secs : Nat)
  | minted (token : CachedToken)
  | closing (result : TokenResult)
  | done (result : TokenResult)
deriving DecidableEq, Repr

namespace TokenStage

/-- Where the call stands to the lock. -/
def hold : TokenStage → Hold
  | .absent | .idle | .waiting | .done _ => .outside
  | .looking false | .judging false .. | .looked _ => .reading
  | .looking true | .judging true .. | .stale | .sent | .received .. | .minted _ | .closing _ =>
      .writing

/-- The call found nothing to use and has not yet stored what it asks for. -/
def mints : TokenStage → Bool
  | .stale | .sent | .received .. | .minted _ => true
  | _ => false

theorem hold_of_mints {s : TokenStage} (h : s.mints) : s.hold = .writing := by
  cases s <;> first | rfl | cases h

/-- The look is over. -/
def judged : Bool → Option String → TokenStage
  | false, found => .looked found
  | true, some token => .closing (.ok token)
  | true, none => .stale

theorem hold_judged (writes : Bool) (found : Option String) :
    (judged writes found).hold = (looking writes).hold := by
  cases writes with
  | false => rfl
  | true => cases found <;> rfl

def loaded (writes : Bool) : Option CachedToken → TokenStage
  | none => judged writes none
  | some ⟨accessToken, none⟩ => judged writes (some accessToken)
  | some ⟨accessToken, some expiry⟩ => .judging writes ⟨accessToken, some expiry⟩ expiry

theorem hold_loaded (writes : Bool) (token : Option CachedToken) :
    (loaded writes token).hold = (looking writes).hold := by
  cases token with
  | none => exact hold_judged writes none
  | some token =>
      obtain ⟨accessToken, expiresAt⟩ := token
      cases expiresAt with
      | none => exact hold_judged writes _
      | some expiry => cases writes <;> rfl

def afterLook : Option String → TokenStage
  | some token => .done (.ok token)
  | none => .waiting

/-- The answer of the endpoint is there. -/
def arrived : Except TokenFailure TokenResponse → TokenStage
  | .error e => .closing (.error e)
  | .ok ⟨accessToken, none⟩ => .minted ⟨accessToken, none⟩
  | .ok ⟨accessToken, some secs⟩ => .received accessToken secs

/-- There is a token to store, or there is not. -/
def made : Except TokenFailure CachedToken → TokenStage
  | .error e => .closing (.error e)
  | .ok token => .minted token

theorem judged_ne_judging {writes writes' : Bool} {found : Option String} {token : CachedToken}
    {expiry : Nat} : judged writes found ≠ judging writes' token expiry := by
  cases writes <;> cases found <;> exact nofun

/-- Only the second look leads to a request, and only if it finds nothing. -/
theorem mints_judged {writes : Bool} {found : Option String} (h : (judged writes found).mints) :
    found = none := by
  cases writes with
  | false => cases h
  | true =>
      cases found with
      | none => rfl
      | some token => cases h

theorem loaded_eq_judging {writes writes' : Bool} {token : Option CachedToken}
    {token' : CachedToken} {expiry : Nat} (h : loaded writes token = judging writes' token' expiry) :
    token = some token' ∧ token'.expiresAt = some expiry := by
  cases token with
  | none => exact (judged_ne_judging h).elim
  | some token =>
      obtain ⟨accessToken, expiresAt⟩ := token
      cases expiresAt with
      | none => exact (judged_ne_judging h).elim
      | some expiry' =>
          obtain ⟨-, rfl, rfl⟩ := judging.inj h
          exact ⟨rfl, rfl⟩

theorem mints_loaded {writes : Bool} {token : Option CachedToken} (h : (loaded writes token).mints) :
    token = none := by
  cases token with
  | none => rfl
  | some token =>
      obtain ⟨accessToken, expiresAt⟩ := token
      cases expiresAt with
      | none => exact nomatch mints_judged h
      | some expiry => cases h

theorem hold_made (r : Except TokenFailure CachedToken) : (made r).hold = .writing := by
  cases r <;> rfl

theorem made_ne_judging {r : Except TokenFailure CachedToken} {writes : Bool} {token : CachedToken}
    {expiry : Nat} : made r ≠ judging writes token expiry := by
  cases r <;> exact nofun

theorem arrived_cases (r : Except TokenFailure TokenResponse) :
    (∃ r', arrived r = made r') ∨ ∃ accessToken secs, arrived r = received accessToken secs := by
  cases r with
  | error e => exact Or.inl ⟨.error e, rfl⟩
  | ok body =>
      obtain ⟨accessToken, expiresIn⟩ := body
      cases expiresIn with
      | none => exact Or.inl ⟨.ok ⟨accessToken, none⟩, rfl⟩
      | some secs => exact Or.inr ⟨accessToken, secs, rfl⟩

theorem hold_arrived (r : Except TokenFailure TokenResponse) : (arrived r).hold = .writing := by
  rcases arrived_cases r with ⟨r', h⟩ | ⟨accessToken, secs, h⟩
  · rw [h, hold_made]
  · rw [h]
    rfl

theorem arrived_ne_judging {r : Except TokenFailure TokenResponse} {writes : Bool}
    {token : CachedToken} {expiry : Nat} : arrived r ≠ judging writes token expiry := by
  rcases arrived_cases r with ⟨r', h⟩ | ⟨accessToken, secs, h⟩
  · rw [h]
    exact made_ne_judging
  · rw [h]
    exact nofun

end TokenStage

/-- What a call may do where it stands. -/
def TokenStage.Allows (credentials : OAuth2ClientCredentials) : TokenOp → TokenStage → Prop
  | .readLock, .idle | .writeLock, .waiting | .load, .looking _ | .now, .judging ..
  | .now, .received .. | .readUnlock, .looked _ | .receive, .sent | .writeUnlock, .closing _ => True
  | .send request, .stale => request = credentials.request
  | .store token, .minted token' => token = token'
  | _, _ => False

/-- Where that takes it. -/
def TokenStage.after (credentials : OAuth2ClientCredentials) :
    (o : TokenOp) → TokenStage → o.Ans → TokenStage
  | .readLock, .idle, _ => .looking false
  | .writeLock, .waiting, _ => .looking true
  | .load, .looking writes, token => .loaded writes token
  | .now, .judging writes token expiry, now =>
      .judged writes (if now + tokenExpirySkew < expiry then some token.accessToken else none)
  | .now, .received accessToken secs, now =>
      .made (datedToken accessToken (instantAdd now secs))
  | .readUnlock, .looked found, _ => .afterLook found
  | .send _, .stale, _ => .sent
  | .receive, .sent, arrival => .arrived (credentials.readToken arrival)
  | .store _, .minted token, _ => .closing (.ok token.accessToken)
  | .writeUnlock, .closing result, _ => .done result
  | _, s, _ => s

def tokenMonitor (credentials : OAuth2ClientCredentials) : Monitor TokenOp.Ans TokenStage where
  allow := TokenStage.Allows credentials
  next := TokenStage.after credentials

/-- The arrows of the monitor. -/
inductive TokenMove (credentials : OAuth2ClientCredentials) :
    TokenStage → (o : TokenOp) → o.Ans → TokenStage → Prop
  | readLock : TokenMove credentials .idle .readLock () (.looking false)
  | writeLock : TokenMove credentials .waiting .writeLock () (.looking true)
  | load (writes : Bool) (token : Option CachedToken) :
      TokenMove credentials (.looking writes) .load token (.loaded writes token)
  | judge (writes : Bool) (token : CachedToken) (expiry now : Nat) :
      TokenMove credentials (.judging writes token expiry) .now now
        (.judged writes (if now + tokenExpirySkew < expiry then some token.accessToken else none))
  | date (accessToken : String) (secs now : Nat) :
      TokenMove credentials (.received accessToken secs) .now now
        (.made (datedToken accessToken (instantAdd now secs)))
  | readUnlock (found : Option String) :
      TokenMove credentials (.looked found) .readUnlock () (.afterLook found)
  | send : TokenMove credentials .stale (.send credentials.request) () .sent
  | receive (arrival : TokenArrival) :
      TokenMove credentials .sent .receive arrival (.arrived (credentials.readToken arrival))
  | store (token : CachedToken) :
      TokenMove credentials (.minted token) (.store token) () (.closing (.ok token.accessToken))
  | writeUnlock (result : TokenResult) :
      TokenMove credentials (.closing result) .writeUnlock () (.done result)

theorem TokenStage.Allows.moves {credentials : OAuth2ClientCredentials} {s : TokenStage} {o : TokenOp}
    {x : o.Ans} (h : s.Allows credentials o) : TokenMove credentials s o x (s.after credentials o x)
    := by
  unfold TokenStage.Allows at h
  split at h
  · exact .readLock
  · exact .writeLock
  · exact .load _ _
  · exact .judge _ _ _ _
  · exact .date _ _ _
  · exact .readUnlock _
  · exact .receive _
  · exact .writeUnlock _
  · subst h
    exact .send
  · subst h
    exact .store _
  · exact h.elim

section Follows

variable {credentials : OAuth2ClientCredentials} {post : TokenResult → TokenStage → Prop}

theorem usableToken_follows (writes : Bool) :
    usableToken.Follows (tokenMonitor credentials)
      (fun found s => s = .judged writes found) (.looking writes) := by
  refine ⟨trivial, fun token _ => ?_⟩
  cases token with
  | none => exact rfl
  | some token =>
      obtain ⟨accessToken, expiresAt⟩ := token
      cases expiresAt with
      | none => exact rfl
      | some expiry =>
          refine ⟨trivial, fun now _ => ?_⟩
          show TokenStage.judged _ _ = TokenStage.judged _ _
          by_cases husable : now + tokenExpirySkew < expiry
          · simp [husable]
          · simp [husable]

theorem mint_follows :
    credentials.mint.Follows (tokenMonitor credentials) (fun r s => s = .made r) .stale := by
  refine ⟨rfl, fun _ _ => ⟨trivial, fun arrival _ => ?_⟩⟩
  show (mintedOf (credentials.readToken arrival)).Follows _ _
    (TokenStage.arrived (credentials.readToken arrival))
  cases credentials.readToken arrival with
  | error e => exact rfl
  | ok body =>
      obtain ⟨accessToken, expiresIn⟩ := body
      cases expiresIn with
      | none => exact rfl
      | some secs => exact ⟨trivial, fun now _ => rfl⟩

theorem refresh_follows :
    credentials.refresh.Follows (tokenMonitor credentials)
      (fun r s => s = .closing r) (.looking true) := by
  refine follows_bind.mpr ((usableToken_follows true).mono fun found s hs => ?_)
  subst hs
  cases found with
  | some token => exact rfl
  | none =>
      refine follows_bind.mpr (mint_follows.mono fun r s hs => ?_)
      subst hs
      cases r with
      | error e => exact rfl
      | ok token => exact ⟨rfl, fun _ _ => rfl⟩

theorem accessToken_follows :
    credentials.accessToken.Follows (tokenMonitor credentials)
      (fun r s => s = .done r) .idle := by
  refine ⟨trivial, fun _ _ => ?_⟩
  show Prog.Follows _ _ (usableToken >>= _) (TokenStage.looking false)
  refine follows_bind.mpr ((usableToken_follows false).mono fun found s hs => ?_)
  subst hs
  refine ⟨trivial, fun _ _ => ?_⟩
  cases found with
  | some token => exact rfl
  | none =>
      refine ⟨trivial, fun _ _ => ?_⟩
      show Prog.Follows _ _ (credentials.refresh >>= _) (TokenStage.looking true)
      refine follows_bind.mpr (refresh_follows.mono fun r s hs => ?_)
      subst hs
      exact ⟨trivial, fun _ _ => rfl⟩

end Follows

end Orchestrator
