import TootTok.Sessions

/-!
# Logins and password resets

A login reads the user, verifies the password against the hash it has read, and
inserts a session; a reset sets a new hash and then deletes the sessions of the user.
The statements of several requests may interleave. A login that has read the old hash
escapes the reset if it inserts its session after the deletion, and in no other way.
-/

namespace TootTok

open Effects
open Relational (Table SerialTable)

variable {Url : Type}

/-! ## The requests -/

structure LoginRequest where
  usernameOrEmail : String
  password : String

structure ResetRequest where
  token : String
  newPassword : String

def invalidCredentials : Response := .problem 401 "invalid credentials"

/-- What a request answers: a problem, or success with the token that it sets as the
session cookie, if any. -/
abbrev Answer : Type := Except Response (Option String)

def sessionLifetimeSecs : Nat := 30 * 24 * 60 * 60

def findUserForLogin (login : String) : Request Url (Option UserRow) := do
  match ← Request.ask (.base (.base (.fetchActorByUsernameLocal login))) with
  | some actor => Request.ask (.fetchUserByActorId actor.id)
  | none => Request.ask (.fetchUserByEmail login)

/-- Open a session for a user and answer with its token. -/
def openSession [HashCrate] (user : UserRow) : Request Url Answer := do
  let token : String ← Request.ask .randomToken
  let csrfToken : String ← Request.ask .randomToken
  let now : DateTime ← Request.ask .clock
  let row : SessionRow := {
    id := HashCrate.hashToken token
    userId := user.id
    expiresAt := ⟨now.micros + sessionLifetimeSecs * 1000000⟩
    csrfToken := csrfToken }
  match ← Request.tried (.createSession row) with
  | .error _ => return .error databaseError
  | .ok _ => return .ok (some token)

/-- The login of a user whose password has been verified. -/
def loginVerified [HashCrate] (user : UserRow) : Request Url Answer := do
  match ← Request.tried (.base (.base (.fetchActorById user.actorId))) with
  | .error _ => return .error databaseError
  | .ok none => return .error invalidCredentials
  | .ok (some actor) =>
      if actor.deletedAt ≠ none then return .error invalidCredentials
      if actor.suspendedAt ≠ none then return .error (.problem 403 "account suspended")
      openSession user

/-- The login of a user that was found. -/
def loginUser [HashCrate] (password : String) (user : UserRow) : Request Url Answer :=
  if user.deletedAt ≠ none then .done (.error invalidCredentials)
  else if user.status ≠ "active" then .done (.error (.problem 403 "account pending approval"))
  else
    match user.passwordHash with
    | none => .done (.error invalidCredentials)
    | some storedHash =>
        if HashCrate.verifyPassword password storedHash then loginVerified user
        else .done (.error invalidCredentials)

def login [HashCrate] (request : LoginRequest) : Request Url Answer := do
  match ← (findUserForLogin request.usernameOrEmail).attempt with
  | .error _ => return .error databaseError
  | .ok none => return .error invalidCredentials
  | .ok (some user) => loginUser request.password user

/-- `EmailToken::consume`: the user whose token was used up. -/
def consumeToken (tokenHash : String) (kind : EmailTokenKind) :
    Request Url (Option UserRow) := do
  match ← Request.ask (.consumeToken tokenHash kind) with
  | some userId => Request.ask (.fetchUserById userId)
  | none => return none

/-- A step of a request whose failure is answered as an error of the database. -/
def stepThen (op : AccountOp Url) (rest : op.Result → Request Url Answer) :
    Request Url Answer := do
  match ← Request.tried op with
  | .error _ => return .error databaseError
  | .ok value => rest value

/-- A step whose result nobody needs. -/
def stepOrProblem (op : AccountOp Url) (rest : Request Url Answer) : Request Url Answer :=
  stepThen op fun _ => rest

/-- The reset of a user whose token was used up. -/
def resetUser (newPassword : String) (user : UserRow) : Request Url Answer := do
  match ← Request.tried (.hashPassword newPassword) with
  | .error _ => return .error (.problem 500 "password hashing failed")
  | .ok newHash =>
      stepOrProblem (.setPassword user.id newHash) <|
        stepOrProblem (.invalidateTokensOfUser user.id .passwordReset) <|
          stepOrProblem (.deleteSessionsOfUser user.id) (return .ok none)

def reset [HashCrate] (request : ResetRequest) : Request Url Answer := do
  if request.newPassword.utf8ByteSize < 10 then
    return .error (.problem 400 "weak password")
  match ← (consumeToken (HashCrate.hashToken request.token) .passwordReset).attempt with
  | .error _ => return .error databaseError
  | .ok none => return .error (.problem 400 "invalid token")
  | .ok (some user) => resetUser request.newPassword user

/-! ## What a request knows -/

/-- What a request has found out or brought about. -/
inductive Progress
  | nothing
  | read (user : UserRow)
  | passwordSet (userId : Nat) (newHash : String)
  | revoked (userId : Nat) (newHash : String)

namespace Progress

/-- A login opens a session for the user whose password it has verified, and changes
nothing else. -/
def LoginAllowed [HashCrate] (password : String) (progress : Progress) :
    AccountOp Url → Prop
  | .createSession row => ∃ user storedHash, progress = .read user ∧ row.userId = user.id ∧
      user.passwordHash = some storedHash ∧ HashCrate.verifyPassword password storedHash = true
  | .base (.base (.fetchActorById _)) | .base (.base (.fetchActorByUsernameLocal _))
  | .fetchUserByActorId _ | .fetchUserByEmail _ | .randomToken | .clock => True
  | _ => False

def afterLogin (progress : Progress) :
    (op : AccountOp Url) → Except Error op.Result → Progress
  | .fetchUserByActorId _, .ok (some user) => .read user
  | .fetchUserByEmail _, .ok (some user) => .read user
  | _, _ => progress

/-- A reset sets the password, then deletes the sessions of the same user. -/
def ResetAllowed (progress : Progress) : AccountOp Url → Prop
  | .consumeToken _ _ | .fetchUserById _ | .hashPassword _ | .setPassword _ _ =>
      progress = .nothing
  | .invalidateTokensOfUser _ _ => True
  | .deleteSessionsOfUser userId => ∃ newHash, progress = .passwordSet userId newHash
  | _ => False

def afterReset (progress : Progress) :
    (op : AccountOp Url) → Except Error op.Result → Progress
  | .setPassword userId newHash, .ok _ => .passwordSet userId newHash
  | .deleteSessionsOfUser _, .ok _ =>
      match progress with
      | .passwordSet userId newHash => .revoked userId newHash
      | _ => progress
  | _, _ => progress

end Progress

section Protocols

variable [HashCrate]

variable (Url) in
def loginProtocol (password : String) : Protocol (@AccountOp.Result Url) Error Progress where
  initial := .nothing
  Allowed := Progress.LoginAllowed password
  after := Progress.afterLogin

variable (Url) in
def resetProtocol : Protocol (@AccountOp.Result Url) Error Progress where
  initial := .nothing
  Allowed := Progress.ResetAllowed
  after := Progress.afterReset

theorem openSession_follows {password storedHash : String} {user : UserRow}
    (stored : user.passwordHash = some storedHash)
    (verified : HashCrate.verifyPassword password storedHash = true) :
    (openSession user : Request Url Answer).Follows (loginProtocol Url password)
      (fun _ _ => True) (.read user) := by
  refine ⟨trivial, ?_⟩
  rintro (error | token)
  · trivial
  refine ⟨trivial, ?_⟩
  rintro (error | csrfToken)
  · trivial
  refine ⟨trivial, ?_⟩
  rintro (error | now)
  · trivial
  refine ⟨⟨user, storedHash, rfl, rfl, stored, verified⟩, ?_⟩
  rintro (error | done) <;> trivial

theorem loginVerified_follows {password storedHash : String} {user : UserRow}
    (stored : user.passwordHash = some storedHash)
    (verified : HashCrate.verifyPassword password storedHash = true) :
    (loginVerified user : Request Url Answer).Follows (loginProtocol Url password)
      (fun _ _ => True) (.read user) := by
  refine ⟨trivial, ?_⟩
  rintro (error | _ | actor)
  · trivial
  · trivial
  · change (ite (actor.deletedAt ≠ none) _ _ : Request Url Answer).Follows _ _
      (Progress.read user)
    split
    · trivial
    · split
      · trivial
      · exact openSession_follows stored verified

theorem loginUser_follows {password : String} {user : UserRow} :
    (loginUser password user : Request Url Answer).Follows (loginProtocol Url password)
      (fun _ _ => True) (.read user) := by
  unfold loginUser
  split
  · trivial
  split
  · trivial
  cases stored : user.passwordHash with
  | none => trivial
  | some storedHash =>
      dsimp only
      split
      next verified => exact loginVerified_follows stored verified
      next => trivial

/-- A login keeps to its protocol. -/
theorem login_follows (request : LoginRequest) :
    (login request : Request Url Answer).Follows (loginProtocol Url request.password)
      (fun _ _ => True) .nothing := by
  refine ⟨trivial, ?_⟩
  rintro (error | _ | actor)
  · trivial
  · refine ⟨trivial, ?_⟩
    rintro (error | _ | user)
    · trivial
    · trivial
    · exact loginUser_follows
  · refine ⟨trivial, ?_⟩
    rintro (error | _ | user)
    · trivial
    · trivial
    · exact loginUser_follows

/-- A reset that has succeeded has deleted the sessions. -/
def ResetDone (outcome : Except Error Answer) (progress : Progress) : Prop :=
  outcome = .ok (.ok none) → ∃ userId newHash, progress = .revoked userId newHash

omit [HashCrate] in
theorem resetUser_follows (newPassword : String) (user : UserRow) :
    (resetUser newPassword user : Request Url Answer).Follows (resetProtocol Url)
      ResetDone .nothing := by
  refine ⟨rfl, ?_⟩
  rintro (error | newHash)
  · rintro ⟨⟩
  refine ⟨rfl, ?_⟩
  rintro (error | _)
  · rintro ⟨⟩
  refine ⟨trivial, ?_⟩
  rintro (error | _)
  · rintro ⟨⟩
  refine ⟨⟨newHash, rfl⟩, ?_⟩
  rintro (error | _)
  · rintro ⟨⟩
  · exact fun _ => ⟨user.id, newHash, rfl⟩

theorem reset_follows (request : ResetRequest) :
    (reset request : Request Url Answer).Follows (resetProtocol Url) ResetDone .nothing := by
  unfold reset
  split
  · rintro ⟨⟩
  refine ⟨rfl, ?_⟩
  rintro (error | _ | userId)
  · rintro ⟨⟩
  · rintro ⟨⟩
  · refine ⟨rfl, ?_⟩
    rintro (error | _ | user)
    · rintro ⟨⟩
    · rintro ⟨⟩
    · exact resetUser_follows _ user

end Protocols

/-! ## Interleaved runs -/

section Runs

variable {ι : Type} [DecidableEq ι] [HashCrate]

/-- What happens in a run of a reset and of any number of logins. -/
abbrev AccountEvent (ι Url : Type) : Type :=
  Effects.Event (Option ι) (@AccountOp.Result Url) Error (AccountEnv Url)

/-- The reset and the logins before their first statement. -/
def together (requests : ι → LoginRequest) (resetRequest : ResetRequest)
    (accounts : Accounts) :
    Effects.Config (Option ι) (@AccountOp.Result Url) Error Answer Accounts where
  state := accounts
  threads
    | none => reset resetRequest
    | some index => login (requests index)

/-- Whether a login has read its user since the reset has set the password. -/
def readSince (index : ι) (fresh : Bool) : AccountEvent ι Url → Bool
  | .called ⟨none, .setPassword _ _, _, .ok _⟩ => false
  | .called ⟨some reader, .fetchUserByActorId _, _, .ok (some _)⟩ =>
      if reader = index then true else fresh
  | .called ⟨some reader, .fetchUserByEmail _, _, .ok (some _)⟩ =>
      if reader = index then true else fresh
  | _ => fresh

def hasReadSince (events : List (AccountEvent ι Url)) (index : ι) : Bool :=
  events.foldl (readSince index) false

/-- Whether the reset has deleted the sessions of a user. -/
def revokes (userId : Nat) (revoked : Bool) : AccountEvent ι Url → Bool
  | .called ⟨none, .deleteSessionsOfUser user, _, .ok _⟩ => revoked || user = userId
  | _ => revoked

def hasRevoked (events : List (AccountEvent ι Url)) (userId : Nat) : Bool :=
  events.foldl (revokes userId) false

/-- The login that has opened a session. -/
def opens (id : String) (opener : Option ι) : AccountEvent ι Url → Option ι
  | .called ⟨some index, .createSession row, _, .ok _⟩ =>
      if row.id = id then some index else opener
  | _ => opener

def openedBy (events : List (AccountEvent ι Url)) (id : String) : Option ι :=
  events.foldl (opens id) none

/-- A login that has read its user before the reset set the password inserts its session
before the reset deletes the sessions, or not at all. -/
def insertsInTime (events : List (AccountEvent ι Url)) :
    Option ι → AccountOp Url → Bool
  | some index, .createSession row => !hasRevoked events row.userId || hasReadSince events index
  | _, _ => true

/-- The protocol of a thread. -/
def protocolOf (requests : ι → LoginRequest) :
    Option ι → Protocol (@AccountOp.Result Url) Error Progress
  | none => resetProtocol Url
  | some index => loginProtocol Url (requests index).password

/-- What a thread knows after some events. -/
abbrev progressOf (requests : ι → LoginRequest) (events : List (AccountEvent ι Url)) :
    Option ι → Progress :=
  memories (protocolOf requests) events

/-- The password of a user is the one that the reset has set. -/
def Progress.Sets (progress : Progress) (userId : Nat) (newHash : String) : Prop :=
  progress = .passwordSet userId newHash ∨ progress = .revoked userId newHash

omit [DecidableEq ι] [HashCrate] in
/-- A password is set by the call that sets it. -/
theorem Progress.sets_of_afterReset {progress : Progress} {op : AccountOp Url}
    {outcome : Except Error op.Result} {userId : Nat} {newHash : String}
    {env : AccountEnv Url}
    (sets : (progress.afterReset op outcome).Sets userId newHash) :
    progress.Sets userId newHash ∨
      (.called ⟨none, op, env, outcome⟩ : AccountEvent ι Url) =
        .called ⟨none, .setPassword userId newHash, env, .ok ()⟩ := by
  cases outcome with
  | error error => cases op <;> exact .inl sets
  | ok result =>
      cases op with
      | setPassword user hash =>
          rcases sets with same | same
          · cases same
            exact .inr rfl
          · cases same
      | deleteSessionsOfUser user =>
          refine .inl ?_
          cases progress with
          | passwordSet user hash =>
              rcases sets with same | same
              · cases same
              · cases same
                exact .inl rfl
          | _ => exact sets
      | _ => exact .inl sets

/-- After the new password is set, whoever reads the user reads the new hash; after the
sessions are deleted, every session of the user was opened with a password that the new
hash accepts. -/
structure Revoking (requests : ι → LoginRequest) (events : List (AccountEvent ι Url))
    (accounts : Accounts) : Prop where
  stored : ∀ userId newHash, (progressOf requests events none).Sets userId newHash →
    ∀ row ∈ accounts.users, row.id = userId → row.passwordHash = some newHash
  read : ∀ userId newHash, (progressOf requests events none).Sets userId newHash →
    ∀ index user, progressOf requests events (some index) = .read user →
      hasReadSince events index = true → user.id = userId → user.passwordHash = some newHash
  known : ∀ userId newHash, progressOf requests events none = .revoked userId newHash →
    hasRevoked events userId = true
  sessions : ∀ userId newHash, progressOf requests events none = .revoked userId newHash →
    ∀ row ∈ accounts.sessions, row.userId = userId →
      ∃ index, openedBy events row.id = some index ∧
        HashCrate.verifyPassword (requests index).password newHash = true

variable {requests : ι → LoginRequest} {events : List (AccountEvent ι Url)}
  {accounts : Accounts}

omit [HashCrate] in
@[simp] theorem hasReadSince_append (event : AccountEvent ι Url) (index : ι) :
    hasReadSince (events ++ [event]) index = readSince index (hasReadSince events index) event := by
  unfold hasReadSince
  rw [List.foldl_append]
  rfl

omit [DecidableEq ι] [HashCrate] in
@[simp] theorem hasRevoked_append (event : AccountEvent ι Url) (userId : Nat) :
    hasRevoked (events ++ [event]) userId = revokes userId (hasRevoked events userId) event := by
  unfold hasRevoked
  rw [List.foldl_append]
  rfl

omit [DecidableEq ι] [HashCrate] in
@[simp] theorem openedBy_append (event : AccountEvent ι Url) (id : String) :
    openedBy (events ++ [event]) id = opens id (openedBy events id) event := by
  unfold openedBy
  rw [List.foldl_append]
  rfl

/-! ### One call -/

section Step

variable {thread : Option ι} {op : AccountOp Url} {env : AccountEnv Url}

/-- A call after which every thread knows what it knew. -/
theorem progressOf_called {outcome : Except Error op.Result}
    (same : (protocolOf requests thread).after (progressOf requests events thread) op outcome =
      progressOf requests events thread) :
    progressOf requests (events ++ [.called ⟨thread, op, env, outcome⟩]) =
      progressOf requests events := by
  unfold progressOf
  rw [memories_called]
  dsimp only
  rw [same, Function.update_eq_self]

/-- A call that changes nothing of what the invariant is about. -/
theorem Revoking.frame {accounts' : Accounts} {events' : List (AccountEvent ι Url)}
    (holds : Revoking requests events accounts)
    (progress : progressOf requests events' = progressOf requests events)
    (reads : ∀ index, hasReadSince events' index = hasReadSince events index)
    (revoked : ∀ userId, hasRevoked events' userId = hasRevoked events userId)
    (opened : ∀ id, openedBy events' id = openedBy events id)
    (users : accounts'.users = accounts.users)
    (sessions : accounts'.sessions = accounts.sessions) :
    Revoking requests events' accounts' where
  stored := by
    rw [progress, users]
    exact holds.stored
  read := by
    simp only [progress, reads]
    exact holds.read
  known := by
    simp only [progress, revoked]
    exact holds.known
  sessions := by
    simp only [progress, opened, sessions]
    exact holds.sessions

/-- A failed call teaches nobody anything. -/
theorem Revoking.of_error {error : Error} (holds : Revoking requests events accounts) :
    Revoking requests (events ++ [.called ⟨thread, op, env, .error error⟩]) accounts := by
  refine holds.frame (progressOf_called ?_) ?_ ?_ ?_ rfl rfl
  · cases thread <;> cases op <;> rfl
  · intro index
    rw [hasReadSince_append]
    cases thread <;> cases op <;> rfl
  · intro userId
    rw [hasRevoked_append]
    cases thread <;> cases op <;> rfl
  · intro id
    rw [openedBy_append]
    cases thread <;> cases op <;> rfl

theorem progressOf_other {other : Option ι} {outcome : Except Error op.Result}
    (different : other ≠ thread) :
    progressOf requests (events ++ [.called ⟨thread, op, env, outcome⟩]) other =
      progressOf requests events other := by
  unfold progressOf
  rw [memories_called, Function.update_of_ne different]

theorem progressOf_self {outcome : Except Error op.Result} :
    progressOf requests (events ++ [.called ⟨thread, op, env, outcome⟩]) thread =
      (protocolOf requests thread).after (progressOf requests events thread) op outcome := by
  unfold progressOf
  rw [memories_called, Function.update_self]

/-- The reset sets the password. -/
theorem Revoking.setPassword (userId : Nat) (newHash : String) :
    Revoking requests
      (events ++ [.called ⟨none, .setPassword userId newHash, env, .ok ()⟩])
      { accounts with users := Users.setPassword userId newHash accounts.users } := by
  have now : progressOf requests
      (events ++ [.called ⟨none, .setPassword userId newHash, env, .ok ()⟩]) none =
        .passwordSet userId newHash := progressOf_self
  constructor
  · intro user hash sets row stored isUser
    rw [Progress.Sets, now] at sets
    rcases sets with sets | sets
    · cases sets
      obtain ⟨old, -, rfl⟩ := Users.mem_setPassword.mp stored
      unfold Table.changeWhere at isUser ⊢
      by_cases hit : Users.byId userId old = true
      · rw [if_pos hit]
        rfl
      · rw [if_neg hit] at isUser
        exact absurd (decide_eq_true isUser) hit
    · cases sets
  · intro user hash _ index row _ fresh
    rw [hasReadSince_append] at fresh
    cases fresh
  · intro user hash revoked
    rw [now] at revoked
    cases revoked
  · intro user hash revoked
    rw [now] at revoked
    cases revoked

/-- The reset deletes the sessions. -/
theorem Revoking.deleteSessionsOfUser {userId : Nat} {newHash : String}
    (holds : Revoking requests events accounts)
    (passwordSet : progressOf requests events none = .passwordSet userId newHash) :
    Revoking requests
      (events ++ [.called ⟨none, .deleteSessionsOfUser userId, env, .ok ()⟩])
      { accounts with
        sessions := accounts.sessions.erase fun row => row.userId = userId } := by
  have now : progressOf requests
      (events ++ [.called ⟨none, .deleteSessionsOfUser userId, env, .ok ()⟩]) none =
        .revoked userId newHash := by
    rw [progressOf_self, passwordSet]
    rfl
  have sets (user : Nat) (hash : String)
      (later : (Progress.revoked userId newHash).Sets user hash) :
      (progressOf requests events none).Sets user hash := by
    rcases later with later | later
    · cases later
    · cases later
      exact .inl passwordSet
  constructor
  · intro user hash later
    rw [now] at later
    exact holds.stored user hash (sets user hash later)
  · intro user hash later index row
    rw [now] at later
    rw [progressOf_other (by rintro ⟨⟩), hasReadSince_append]
    exact holds.read user hash (sets user hash later) index row
  · intro user hash later
    rw [now] at later
    cases later
    rw [hasRevoked_append]
    exact Bool.or_eq_true_iff.mpr (.inr (decide_eq_true rfl))
  · intro user hash later row stored isUser
    rw [now] at later
    cases later
    have spared := (Table.mem_erase.mp stored).2
    exact absurd isUser (of_decide_eq_false spared)

/-- A login inserts its session. -/
theorem Revoking.createSession {index : ι} {row : SessionRow} {sessions : SessionTable}
    (holds : Revoking requests events accounts)
    (inserted : accounts.sessions.insert? row = some sessions)
    (allowed : (progressOf requests events (some index)).LoginAllowed
      (requests index).password (.createSession row : AccountOp Url))
    (inTime : insertsInTime events (some index) (.createSession row) = true) :
    Revoking requests (events ++ [.called ⟨some index, .createSession row, env, .ok ()⟩])
      { accounts with sessions := sessions } := by
  have progress : progressOf requests
      (events ++ [.called ⟨some index, .createSession row, env, .ok ()⟩]) =
        progressOf requests events := progressOf_called rfl
  constructor
  · rw [progress]
    exact holds.stored
  · simp only [progress, hasReadSince_append]
    exact holds.read
  · simp only [progress, hasRevoked_append]
    exact holds.known
  · intro userId newHash revoked other stored isUser
    rw [progress] at revoked
    rw [openedBy_append]
    rcases (Table.mem_insert? inserted).mp stored with earlier | rfl
    · -- The identifiers of the two sessions differ, or the insertion would have failed.
      have distinct : row.id ≠ other.id := by
        intro same
        have clash := Table.insert?_eq_none.mpr ⟨other, earlier, same.symm⟩
        rw [clash] at inserted
        cases inserted
      change ∃ opener, (if row.id = other.id then some index else _) = some opener ∧ _
      rw [if_neg distinct]
      exact holds.sessions userId newHash revoked other earlier isUser
    · refine ⟨index, if_pos rfl, ?_⟩
      obtain ⟨user, storedHash, read, sameUser, hash, verified⟩ := allowed
      have fresh : hasReadSince events index = true := by
        have deleted := holds.known userId newHash revoked
        rw [insertsInTime, isUser, deleted] at inTime
        exact inTime
      have isNew := holds.read userId newHash (.inr revoked) index user read fresh
        (sameUser.symm.trans isUser)
      rw [hash] at isNew
      cases isNew
      exact verified

/-- A login reads its user. -/
theorem Revoking.read_user {index : ι} {user : UserRow} {outcome : Except Error op.Result}
    (holds : Revoking requests events accounts) (found : user ∈ accounts.users)
    (learns : ∀ progress, Progress.afterLogin progress op outcome = .read user)
    (reads : ∀ other fresh, readSince other fresh
      (.called ⟨some index, op, env, outcome⟩ : AccountEvent ι Url) =
        if index = other then true else fresh)
    (revokesNone : ∀ userId revoked, revokes userId revoked
      (.called ⟨some index, op, env, outcome⟩ : AccountEvent ι Url) = revoked)
    (opensNone : ∀ id opener, opens id opener
      (.called ⟨some index, op, env, outcome⟩ : AccountEvent ι Url) = opener) :
    Revoking requests (events ++ [.called ⟨some index, op, env, outcome⟩]) accounts := by
  have reset : progressOf requests (events ++ [.called ⟨some index, op, env, outcome⟩]) none =
      progressOf requests events none := progressOf_other (by rintro ⟨⟩)
  constructor
  · rw [reset]
    exact holds.stored
  · intro userId newHash sets other row read fresh isUser
    rw [reset] at sets
    rw [hasReadSince_append, reads] at fresh
    by_cases same : index = other
    · subst same
      have learned := progressOf_self.symm.trans read
      rw [show (protocolOf requests (some index)).after _ op outcome = .read user from
        learns _] at learned
      cases learned
      exact holds.stored userId newHash sets user found isUser
    · rw [if_neg same] at fresh
      rw [progressOf_other fun isCaller => same (Option.some.inj isCaller).symm] at read
      exact holds.read userId newHash sets other row read fresh isUser
  · rw [reset]
    simp only [hasRevoked_append, revokesNone]
    exact holds.known
  · rw [reset]
    simp only [openedBy_append, opensNone]
    exact holds.sessions

/-- A thread that takes up a task knows nothing. -/
theorem Revoking.began (holds : Revoking requests events accounts) (thread : Option ι) :
    Revoking requests (events ++ [.began thread]) accounts := by
  have unchanged (other : Option ι) (progress : Progress) (knows : progress ≠ .nothing)
      (later : progressOf requests (events ++ [.began thread]) other = progress) :
      progressOf requests events other = progress := by
    unfold progressOf at later ⊢
    rw [memories_began] at later
    by_cases same : other = thread
    · subst same
      rw [Function.update_self] at later
      cases other <;> exact absurd later.symm knows
    · rwa [Function.update_of_ne same] at later
  have sets (userId : Nat) (newHash : String)
      (later : (progressOf requests (events ++ [.began thread]) none).Sets userId newHash) :
      (progressOf requests events none).Sets userId newHash := by
    rcases later with later | later
    · exact .inl (unchanged _ _ (by rintro ⟨⟩) later)
    · exact .inr (unchanged _ _ (by rintro ⟨⟩) later)
  constructor
  · intro userId newHash later
    exact holds.stored userId newHash (sets userId newHash later)
  · intro userId newHash later index user read fresh
    rw [hasReadSince_append] at fresh
    exact holds.read userId newHash (sets userId newHash later) index user
      (unchanged _ _ (by rintro ⟨⟩) read) fresh
  · intro userId newHash later
    rw [hasRevoked_append]
    exact holds.known userId newHash (unchanged _ _ (by rintro ⟨⟩) later)
  · intro userId newHash later
    simp only [openedBy_append]
    exact holds.sessions userId newHash (unchanged _ _ (by rintro ⟨⟩) later)

/-- What the threads may call keeps the invariant. -/
theorem Revoking.called
    (holds : Revoking requests events accounts)
    (allowed : (protocolOf requests thread).Allowed (progressOf requests events thread) op)
    (inTime : insertsInTime events thread op = true) :
    Revoking requests
      (events ++ [.called ⟨thread, op, env, (AccountOp.exec env op accounts).1⟩])
      (AccountOp.exec env op accounts).2 := by
  -- A call that leaves users and sessions alone, and is neither a login's read nor a
  -- deletion of sessions.
  have unnoticed (accounts' : Accounts) (outcome : Except Error op.Result)
      (users : accounts'.users = accounts.users)
      (sessions : accounts'.sessions = accounts.sessions)
      (learns : ∀ progress, (protocolOf requests thread).after progress op outcome = progress)
      (reads : ∀ index fresh, readSince index fresh
        (.called ⟨thread, op, env, outcome⟩ : AccountEvent ι Url) = fresh)
      (revoked : ∀ userId revoked, revokes userId revoked
        (.called ⟨thread, op, env, outcome⟩ : AccountEvent ι Url) = revoked)
      (opened : ∀ id opener, opens id opener
        (.called ⟨thread, op, env, outcome⟩ : AccountEvent ι Url) = opener) :
      Revoking requests (events ++ [.called ⟨thread, op, env, outcome⟩]) accounts' := by
    refine holds.frame (progressOf_called (learns _)) ?_ ?_ ?_ users sessions
    · intro index
      rw [hasReadSince_append, reads]
    · intro userId
      rw [hasRevoked_append, revoked]
    · intro id
      rw [openedBy_append, opened]
  rcases AccountOp.exec_cases env op accounts with ⟨error, failed⟩ | performed
  · rw [failed]
    exact holds.of_error
  rw [performed]
  cases thread with
  | none =>
      cases op with
      | setPassword userId newHash => exact .setPassword userId newHash
      | deleteSessionsOfUser userId =>
          obtain ⟨newHash, passwordSet⟩ := allowed
          exact holds.deleteSessionsOfUser passwordSet
      | consumeToken _ _ | fetchUserById _ | invalidateTokensOfUser _ _ =>
          refine unnoticed _ _ rfl rfl ?_ ?_ ?_ ?_ <;> intros <;> rfl
      | hashPassword plaintext =>
          refine unnoticed _ _ rfl rfl ?_ ?_ ?_ ?_ <;> intros <;> rfl
      | _ => exact allowed.elim
  | some index =>
      cases op with
      | createSession row =>
          cases inserted : accounts.sessions.insert? row with
          | none =>
              have refused : AccountOp.perform env (.createSession row) accounts =
                  (.error (.db .uniqueViolation), accounts) := by
                rw [AccountOp.perform, inserted]
              rw [refused]
              exact holds.of_error
          | some sessions =>
              have created : AccountOp.perform env (.createSession row) accounts =
                  (.ok (), { accounts with sessions := sessions }) := by
                rw [AccountOp.perform, inserted]
              rw [created]
              exact holds.createSession inserted allowed inTime
      | fetchUserByActorId actorId =>
          change Revoking requests (events ++ [.called ⟨some index, .fetchUserByActorId actorId,
            env, .ok (accounts.userByActorId actorId)⟩]) accounts
          cases found : accounts.userByActorId actorId with
          | none => refine unnoticed _ _ rfl rfl ?_ ?_ ?_ ?_ <;> intros <;> rfl
          | some user =>
              refine holds.read_user (Table.mem_of_find?_eq_some found) ?_ ?_ ?_ ?_ <;>
                intros <;> rfl
      | fetchUserByEmail email =>
          change Revoking requests (events ++ [.called ⟨some index, .fetchUserByEmail email,
            env, .ok (accounts.userByEmail email)⟩]) accounts
          cases found : accounts.userByEmail email with
          | none => refine unnoticed _ _ rfl rfl ?_ ?_ ?_ ?_ <;> intros <;> rfl
          | some user =>
              refine holds.read_user (Table.mem_of_find?_eq_some found) ?_ ?_ ?_ ?_ <;>
                intros <;> rfl
      | randomToken | clock =>
          refine unnoticed _ _ rfl rfl ?_ ?_ ?_ ?_ <;> intros <;> rfl
      | base op =>
          refine unnoticed _ _ rfl rfl ?_ ?_ ?_ ?_ <;> intros <;> rfl
      | _ => exact allowed.elim

end Step

/-! ### Whole runs -/

/-- A run of the reset and the logins in which every login is in time. -/
abbrev TimelyRun (requests : ι → LoginRequest) (resetRequest : ResetRequest)
    (accounts : Accounts) (events : List (AccountEvent ι Url))
    (config : Effects.Config (Option ι) (@AccountOp.Result Url) Error Answer Accounts) : Prop :=
  Serves AccountOp.exec (fun _ _ => False)
    (fun events _ thread op _ => insertsInTime events thread op = true)
    (together requests resetRequest accounts) events config

omit [DecidableEq ι] in
/-- Every thread starts with its protocol. -/
theorem together_follows (resetRequest : ResetRequest) (thread : Option ι) :
    ((together requests resetRequest accounts).threads thread :
        Request Url Answer).Follows (protocolOf requests thread)
      (fun outcome progress => thread = none → ResetDone outcome progress)
      (protocolOf requests thread : Protocol (@AccountOp.Result Url) Error Progress).initial := by
  cases thread with
  | none => exact (reset_follows resetRequest).mono fun _ _ done _ => done
  | some index =>
      refine (login_follows (requests index)).mono ?_
      rintro _ _ _ ⟨⟩

theorem TimelyRun.revoking {resetRequest : ResetRequest}
    {config : Effects.Config (Option ι) (@AccountOp.Result Url) Error Answer Accounts}
    (run : TimelyRun requests resetRequest accounts events config) :
    Revoking requests events config.state := by
  refine Serves.invariant run (together_follows resetRequest) (fun _ _ none => none.elim)
    (Revoking requests) ?_ ?_ ?_
  · constructor
    · rintro _ _ (nothing | nothing) <;> cases nothing
    · rintro _ _ (nothing | nothing) <;> cases nothing
    · intro _ _ nothing
      cases nothing
    · intro _ _ nothing
      cases nothing
  · intro events state thread holds
    exact holds.began thread
  · intro events state thread op env holds allowed inTime
    exact holds.called allowed inTime

/-- The password that the reset has set for a user. -/
def hasSet (events : List (AccountEvent ι Url)) (userId : Nat) (newHash : String) : Prop :=
  ∃ env, .called ⟨none, .setPassword userId newHash, env, .ok ()⟩ ∈ events

/-- What the reset knows to be set, it has set. -/
theorem TimelyRun.hasSet {resetRequest : ResetRequest}
    {config : Effects.Config (Option ι) (@AccountOp.Result Url) Error Answer Accounts}
    (run : TimelyRun requests resetRequest accounts events config) :
    ∀ userId newHash, (progressOf requests events none).Sets userId newHash →
      TootTok.hasSet events userId newHash := by
  refine Serves.invariant run (together_follows resetRequest) (fun _ _ none => none.elim)
    (fun events _ => ∀ userId newHash, (progressOf requests events none).Sets userId newHash →
      TootTok.hasSet events userId newHash) ?_ ?_ ?_
  · rintro _ _ (nothing | nothing) <;> cases nothing
  · intro events _ thread holds userId newHash sets
    have earlier : (progressOf requests events none).Sets userId newHash := by
      unfold progressOf at sets ⊢
      rw [memories_began] at sets
      by_cases same : none = thread
      · rw [← same, Function.update_self] at sets
        rcases sets with nothing | nothing <;> cases nothing
      · rwa [Function.update_of_ne same] at sets
    obtain ⟨env, member⟩ := holds userId newHash earlier
    exact ⟨env, List.mem_append_left _ member⟩
  · intro events state thread op env holds _ _ userId newHash sets
    by_cases same : none = thread
    · subst same
      rw [progressOf_self] at sets
      rcases Progress.sets_of_afterReset (ι := ι) sets with earlier | now
      · obtain ⟨env, member⟩ := holds userId newHash earlier
        exact ⟨env, List.mem_append_left _ member⟩
      · refine ⟨env, List.mem_append_right _ ?_⟩
        rw [now]
        exact List.mem_singleton_self _
    · rw [progressOf_other same] at sets
      obtain ⟨env, member⟩ := holds userId newHash sets
      exact ⟨env, List.mem_append_left _ member⟩

/-- Once the reset has answered with success, every session of its user that passes
authentication was opened by a login whose password the new hash accepts, provided that
every login that had read the old hash inserted its session before the deletion. -/
theorem reset_revokes_access {resetRequest : ResetRequest}
    {config : Effects.Config (Option ι) (@AccountOp.Result Url) Error Answer Accounts}
    (run : TimelyRun requests resetRequest accounts events config)
    (returned : config.threads none = .done (.ok none)) :
    ∃ userId newHash, hasSet events userId newHash ∧
      ∀ head (envs : Nat → AccountEnv Url) auth,
        ((authUser head).run AccountOp.exec envs config.state).1 = .ok (.ok auth) →
        auth.session.userId = userId →
        ∃ index, openedBy events auth.session.id = some index ∧
          HashCrate.verifyPassword (requests index).password newHash = true := by
  have done := run.follows (together_follows resetRequest) (fun _ _ none => none.elim) none
  rw [returned] at done
  obtain ⟨userId, newHash, revoked⟩ := done rfl rfl
  refine ⟨userId, newHash, run.hasSet userId newHash (.inr revoked), ?_⟩
  intro head envs auth authenticated isUser
  exact run.revoking.sessions userId newHash revoked auth.session
    (session_stored authenticated) isUser

end Runs

namespace Sample

/-- A user with a password. -/
def passwordUser : UserRow :=
  { activeUser 1 with passwordHash := some "$argon2id$old" }

theorem passwordUser_numbered : ∀ row ∈ [passwordUser], UserRow.id row < 2 := by
  intro row member
  rw [List.mem_singleton.mp member]
  exact Nat.lt_succ_self 1

/-- The mailed token of the user. -/
def resetToken : EmailTokenRow where
  id := 1
  userId := 1
  kind := .passwordReset
  tokenHash := "454349e422f05297191ead13e21d3db520e5abef52055e4964b82fb213f593a1"
  expiresAt := ⟨1⟩
  usedAt := none

theorem resetToken_numbered : ∀ row ∈ [resetToken], EmailTokenRow.id row < 2 := by
  intro row member
  rw [List.mem_singleton.mp member]
  exact Nat.lt_succ_self 1

/-- The user, with a token for a reset. -/
def withToken : Accounts where
  toServer := serverWith .ready .probe []
  users := ⟨⟨[passwordUser], List.pairwise_singleton _ _⟩, 2, passwordUser_numbered⟩
  sessions := .empty
  emailTokens := ⟨⟨[resetToken], List.pairwise_singleton _ _⟩, 2, resetToken_numbered⟩

/-- Nothing fails; the random token is fixed, and so is the salt. -/
def accountEnv : AccountEnv NormalUrl :=
  { AccountEnv.quiet NormalUrl ⟨0⟩ with
    random := "t"
    hashed := fun plaintext => .ok ("$argon2id$" ++ plaintext) }

def oldLogin : LoginRequest := ⟨"a", "old"⟩

def newPassword : ResetRequest := ⟨"r", "new-secret"⟩

/-- Calls of the login and of the reset. -/
def turns (thread : Option Unit) (count : Nat) :
    List (Effects.Action (Option Unit) (@AccountOp.Result NormalUrl) Error Answer
      (AccountEnv NormalUrl)) :=
  List.replicate count (.call thread accountEnv)

/-- Carry out a schedule of the two requests, but for insertions that come too late. -/
def takeTurns (check : Bool)
    (schedule : List (Effects.Action (Option Unit) (@AccountOp.Result NormalUrl) Error Answer
      (AccountEnv NormalUrl))) :
    List (AccountEvent Unit NormalUrl) ×
      Effects.Config (Option Unit) (@AccountOp.Result NormalUrl) Error Answer Accounts :=
  Config.serve AccountOp.exec
    (fun events _ thread op _ => !check || insertsInTime events thread op) []
    (together (fun _ => oldLogin) newPassword withToken) schedule

/-- The login before the reset. -/
def loginFirst := takeTurns true (turns (some ()) 7 ++ turns none 6)

/-- The reset between the statements of the login. -/
def resetAmidLogin := takeTurns false (turns (some ()) 2 ++ turns none 6 ++ turns (some ()) 5)

theorem takeTurns_run {check : Bool}
    {admits : List (AccountEvent Unit NormalUrl) → Accounts → Option Unit →
      AccountOp NormalUrl → AccountEnv NormalUrl → Prop}
    (sound : ∀ events accounts thread op env,
      (!check || insertsInTime events thread op) = true → admits events accounts thread op env)
    (schedule : List (Effects.Action (Option Unit) (@AccountOp.Result NormalUrl) Error Answer
      (AccountEnv NormalUrl)))
    (noTasks : ∀ thread task, Effects.Action.begin thread task ∉ schedule) :
    Serves AccountOp.exec (fun _ _ => False) admits
      (together (fun _ => oldLogin) newPassword withToken)
      (takeTurns check schedule).1 (takeTurns check schedule).2 :=
  Config.serve_serves sound schedule (fun thread task member => noTasks thread task member)
    .start

theorem begin_not_mem_turns (thread other : Option Unit)
    (task : Request NormalUrl Answer) (count : Nat) :
    Effects.Action.begin thread task ∉ turns other count := by
  intro member
  cases (List.mem_replicate.mp member).2

/-- A login that has finished before the reset has no session after it. -/
theorem revoked_after_login :
    ∃ userId newHash, hasSet loginFirst.1 userId newHash ∧
      ∀ head (envs : Nat → AccountEnv NormalUrl) auth,
        ((authUser head).run AccountOp.exec envs loginFirst.2.state).1 = .ok (.ok auth) →
        auth.session.userId = userId →
        ∃ index, openedBy loginFirst.1 auth.session.id = some index ∧
          HashCrate.verifyPassword ((fun _ : Unit => oldLogin) index).password newHash =
            true := by
  have run : TimelyRun (fun _ => oldLogin) newPassword withToken loginFirst.1 loginFirst.2 := by
    refine @takeTurns_run true (fun events _ thread op _ => insertsInTime events thread op = true)
      (fun _ _ _ _ _ inTime => inTime) _ ?_
    intro thread task member
    rcases List.mem_append.mp member with member | member
    · exact begin_not_mem_turns _ _ _ _ member
    · exact begin_not_mem_turns _ _ _ _ member
  exact reset_revokes_access run rfl

/-- A login with the old password that straddles the reset is logged in afterwards. -/
theorem authenticated_after_reset :
    Serves AccountOp.exec (fun _ _ => False) (fun _ _ _ _ _ => True)
        (together (fun _ => oldLogin) newPassword withToken)
        resetAmidLogin.1 resetAmidLogin.2 ∧
      resetAmidLogin.2.threads none = .done (.ok none) ∧
      hasSet resetAmidLogin.1 1 "$argon2id$new-secret" ∧
      HashCrate.verifyPassword oldLogin.password "$argon2id$new-secret" = false ∧
      ∃ auth,
        ((authUser posted).run AccountOp.exec (fun _ => accountEnv)
          resetAmidLogin.2.state).1 = .ok (.ok auth) ∧
        auth.session.userId = 1 ∧ openedBy resetAmidLogin.1 auth.session.id = some () := by
  refine ⟨?_, rfl, ?_, by decide, ?_⟩
  · refine takeTurns_run (fun _ _ _ _ _ _ => trivial) _ ?_
    intro thread task member
    rcases List.mem_append.mp member with member | member
    · rcases List.mem_append.mp member with member | member
      · exact begin_not_mem_turns _ _ _ _ member
      · exact begin_not_mem_turns _ _ _ _ member
    · exact begin_not_mem_turns _ _ _ _ member
  · refine ⟨accountEnv, ?_⟩
    have fifth : resetAmidLogin.1[5]? =
        some (.called ⟨none, .setPassword 1 "$argon2id$new-secret", accountEnv, .ok ()⟩) := rfl
    exact List.mem_of_getElem? fifth
  · refine ⟨⟨{ passwordUser with passwordHash := some "$argon2id$new-secret" }, uploader,
      resetAmidLogin.2.state.sessions.rows.head (by decide)⟩, rfl, rfl, rfl⟩

end Sample
end TootTok
