import TootTok.Accounts
import TootTok.Background

/-!
# Sessions

The session cookie, the extractor that turns it into a user, and the middleware that
asks for the token of the session on requests that change something. The middleware
and the extractor look the session up independently of each other, and other requests
may change the database in between.
-/

namespace TootTok

open Effects

/-! ## Requests of a browser -/

inductive Method
  | get
  | head
  | options
  | trace
  | post
  | put
  | patch
  | delete
  | connect
  | extension (name : String)
deriving DecidableEq

/-- The parts of a request that the middleware and the extractor read. A header whose
value is not readable text counts as absent. -/
structure RequestHead where
  method : Method
  path : String
  cookie : Option String
  csrf : Option String

def sessionCookie : String := "toottok_session"

/-- The value of the session cookie among the pairs of a cookie header. The first pair
of that name decides, also if it has no value. -/
def sessionTokenOfPairs : List (List Char) → Option String
  | [] => none
  | pair :: pairs =>
      let text := Sanitize.trim pair
      let name := text.takeWhile (· ≠ '=')
      if name = sessionCookie.toList then
        match text.dropWhile (· ≠ '=') with
        | [] => none
        | _ :: value => some (String.ofList (Sanitize.trim value))
      else sessionTokenOfPairs pairs

def sessionTokenFromHeaders (head : RequestHead) : Option String :=
  head.cookie.bind fun cookie => sessionTokenOfPairs (cookie.toList.splitOn ';')

/-! ## The extractor -/

/-- An authenticated local account. -/
structure AuthUser where
  user : UserRow
  actor : ActorRow
  session : SessionRow

def unauthorized : Response := .problem 401 "unauthorized"

def databaseError : Response := .problem 500 "database error"

variable {Url : Type}

/-- An outcome that has to be there; a failure is answered as an error of the
database. -/
def required {α β : Type} (outcome : Except Error (Option α))
    (rest : α → Request Url (Except Response β)) : Request Url (Except Response β) :=
  match outcome with
  | .error _ => .done (.error databaseError)
  | .ok none => .done (.error unauthorized)
  | .ok (some value) => rest value

/-- The extractor from the row of the session on. -/
def authOfSession (session : SessionRow) : Request Url (Except Response AuthUser) := do
  let now : DateTime ← Request.ask .clock
  if session.expiresAt.micros ≤ now.micros then
    let _ ← Request.tried (.deleteSession session.id)
    return .error unauthorized
  required (← Request.tried (.fetchUserById session.userId)) fun user => do
    if user.deletedAt ≠ none ∨ user.status ≠ "active" then
      return .error unauthorized
    required (← Request.tried (.base (.base (.fetchActorById user.actorId)))) fun actor => do
      if actor.deletedAt ≠ none ∨ actor.suspendedAt ≠ none then
        return .error unauthorized
      return .ok ⟨user, actor, session⟩

/-- `AuthUser::from_request_parts`. -/
def authUser [HashCrate] (head : RequestHead) : Request Url (Except Response AuthUser) :=
  match sessionTokenFromHeaders head with
  | none => .done (.error unauthorized)
  | some token => do
      required (← Request.tried (.fetchSession (HashCrate.hashToken token))) authOfSession

/-! ## The middleware -/

namespace Method

/-- Methods that only read. -/
def safe : Method → Bool
  | .get | .head | .options | .trace => true
  | _ => false

end Method

def csrfExemptPaths : List String := ["/api/v1/auth/login", "/api/v1/auth/register"]

/-- All bytes are compared, whether or not an earlier one differs. -/
def constantTimeEq (left right : String) : Bool :=
  let a := left.toByteArray.data.toList
  let b := right.toByteArray.data.toList
  if a.length ≠ b.length then false
  else (a.zip b).foldl (fun diff pair => diff ||| (pair.1 ^^^ pair.2)) (0 : UInt8) = 0

def csrfMismatch : Response := .problem 403 "csrf token mismatch"

/-- The middleware after its lookup of the session. Only a session that was found is
held against the header. -/
def csrfCheck {α : Type} (head : RequestHead) (next : Request Url (Except Response α)) :
    Except Error (Option SessionRow) → Request Url (Except Response α)
  | .ok (some session) =>
      if constantTimeEq (head.csrf.getD "") session.csrfToken then next
      else .done (.error csrfMismatch)
  | _ => next

/-- The middleware around the rest of the request. -/
def csrfMiddleware [HashCrate] {α : Type} (head : RequestHead)
    (next : Request Url (Except Response α)) : Request Url (Except Response α) :=
  if head.method.safe then next
  else if head.path ∈ csrfExemptPaths then next
  else
    match sessionTokenFromHeaders head with
    | none => next
    | some token => do
        csrfCheck head next (← Request.tried (.fetchSession (HashCrate.hashToken token)))

/-! ### The comparison -/

theorem foldl_xor_eq_zero {left right : List UInt8} (sameLength : left.length = right.length)
    (start : UInt8) :
    (left.zip right).foldl (fun diff pair => diff ||| (pair.1 ^^^ pair.2)) start = 0 ↔
      start = 0 ∧ left = right := by
  induction left generalizing right start with
  | nil =>
      rw [List.length_eq_zero_iff.mp sameLength.symm]
      simp only [List.zip_nil_left, List.foldl_nil, and_true]
  | cons byte bytes inductionHypothesis =>
      cases right with
      | nil => cases sameLength
      | cons other others =>
          simp only [List.zip_cons_cons, List.foldl_cons]
          rw [inductionHypothesis (Nat.succ.inj sameLength), UInt8.or_eq_zero_iff,
            UInt8.xor_eq_zero_iff, List.cons.injEq, and_assoc]

/-- The comparison in constant time is equality. -/
@[simp] theorem constantTimeEq_iff {left right : String} :
    constantTimeEq left right = true ↔ left = right := by
  have bytes : left = right ↔
      left.toByteArray.data.toList = right.toByteArray.data.toList := by
    rw [← String.toByteArray_inj, ByteArray.ext_iff, Array.toList_inj]
  rw [bytes]
  unfold constantTimeEq
  dsimp only
  by_cases sameLength :
      left.toByteArray.data.toList.length = right.toByteArray.data.toList.length
  · rw [if_neg (not_not.mpr sameLength), decide_eq_true_iff, foldl_xor_eq_zero sameLength]
    exact ⟨And.right, fun same => ⟨rfl, same⟩⟩
  · rw [if_pos sameLength]
    constructor
    · rintro ⟨⟩
    · intro same
      exact absurd (congrArg List.length same) sameLength

/-! ## Runs amid other requests -/

/-- What the world contributes to one call, and what other requests did before it. -/
structure Amid (Url : Type) where
  env : AccountEnv Url
  meanwhile : Accounts → Accounts

/-- The first environments of a run, and the later ones. -/
def amidst {α : Type} (first second : α) (later : Nat → α) : Nat → α
  | 0 => first
  | 1 => second
  | index + 2 => later index

namespace AccountOp

def execAmid : Program.Executor (@Result Url) Error Accounts (Amid Url) :=
  fun amid op accounts => exec amid.env op (amid.meanwhile accounts)

end AccountOp

/-- A run during which nothing else happens. -/
theorem run_amid_nothing {α : Type} (request : Request Url α) (envs : Nat → AccountEnv Url)
    (accounts : Accounts) :
    request.run AccountOp.execAmid (fun index => ⟨envs index, id⟩) accounts =
      request.run AccountOp.exec envs accounts := by
  induction request generalizing envs accounts with
  | done _ => rfl
  | fail _ => rfl
  | call op next inductionHypothesis => exact inductionHypothesis _ _ _

/-- The lookup of a session by the token of its cookie. -/
def lookup [HashCrate] (amid : Amid Url) (token : String) (accounts : Accounts) :
    Except Error (Option SessionRow) × Accounts :=
  AccountOp.execAmid amid (.fetchSession (HashCrate.hashToken token)) accounts

open AccountOp (execAmid)

/-- The session of an authenticated user is the one that was looked up. -/
theorem session_of_authOfSession {session : SessionRow} {envs : Nat → Amid Url}
    {accounts : Accounts} {auth : AuthUser}
    (ran : ((authOfSession session : Request Url (Except Response AuthUser)).run
      execAmid envs accounts).1 = .ok (.ok auth)) :
    auth.session = session := by
  have traced : (authOfSession session : Request Url (Except Response AuthUser)).Ensures
      execAmid (fun _ => True)
      (fun outcome _ => ∀ auth, outcome = .ok (.ok auth) → auth.session = session)
      accounts := by
    unfold authOfSession
    intro env _
    dsimp only
    cases (execAmid env .clock accounts).1 with
    | error _ => rintro _ ⟨⟩
    | ok now =>
        dsimp only [Program.bind, bind]
        split
        · intro _ _
          rintro _ ⟨⟩
        · intro env _
          dsimp only [Program.bind]
          rcases (execAmid env _ _).1 with error | _ | user
          · rintro _ ⟨⟩
          · rintro _ ⟨⟩
          · dsimp only [required]
            split
            · rintro _ ⟨⟩
            · intro env _
              dsimp only [Program.bind]
              rcases (execAmid env _ _).1 with error | _ | actor
              · rintro _ ⟨⟩
              · rintro _ ⟨⟩
              · dsimp only [required]
                split
                · rintro _ ⟨⟩
                · rintro _ ⟨⟩
                  rfl
  exact traced.run envs (fun _ => trivial) auth ran

section Guarded

variable [HashCrate]

/-- What a handler behind the middleware is given. -/
def guardedAuthUser (head : RequestHead) : Request Url (Except Response AuthUser) :=
  csrfMiddleware head (authUser head)

/-- The outcome of a lookup with which the middleware lets a request through. -/
def LetsThrough (head : RequestHead) (found : Except Error (Option SessionRow)) : Prop :=
  ∀ session, found = .ok (some session) → head.csrf.getD "" = session.csrfToken

variable {head : RequestHead} {token : String} {accounts : Accounts} {envs : Nat → Amid Url}

/-- A request gets past the middleware if its own lookup lets it through. -/
theorem csrfMiddleware_ok_iff {α : Type} {next : Request Url (Except Response α)} {value : α}
    (isUnsafe : head.method.safe = false) (notExempt : head.path ∉ csrfExemptPaths)
    (present : sessionTokenFromHeaders head = some token) :
    ((csrfMiddleware head next).run execAmid envs accounts).1 = .ok (.ok value) ↔
      LetsThrough head (lookup (envs 0) token accounts).1 ∧
        (next.run execAmid (fun index => envs (index + 1))
          (lookup (envs 0) token accounts).2).1 = .ok (.ok value) := by
  unfold csrfMiddleware
  rw [isUnsafe, if_neg (by decide), if_neg notExempt, present]
  change ((csrfCheck head next (lookup (envs 0) token accounts).1).run _ _
    (lookup (envs 0) token accounts).2).1 = _ ↔ _
  rcases (lookup (envs 0) token accounts).1 with error | _ | session
  · exact ⟨fun ran => ⟨by rintro _ ⟨⟩, ran⟩, And.right⟩
  · exact ⟨fun ran => ⟨by rintro _ ⟨⟩, ran⟩, And.right⟩
  · dsimp only [csrfCheck]
    by_cases same : head.csrf.getD "" = session.csrfToken
    · rw [if_pos (constantTimeEq_iff.mpr same)]
      refine ⟨fun ran => ⟨?_, ran⟩, And.right⟩
      rintro _ ⟨⟩
      exact same
    · rw [if_neg (fun equal => same (constantTimeEq_iff.mp equal))]
      constructor
      · rintro ⟨⟩
      · rintro ⟨lets, -⟩
        exact absurd (lets session rfl) same

theorem guardedAuthUser_ok_iff {provided : Option String} {auth : AuthUser}
    (isUnsafe : head.method.safe = false) (notExempt : head.path ∉ csrfExemptPaths)
    (present : sessionTokenFromHeaders head = some token) :
    ((guardedAuthUser { head with csrf := provided }).run execAmid envs accounts).1 =
        .ok (.ok auth) ↔
      LetsThrough { head with csrf := provided } (lookup (envs 0) token accounts).1 ∧
        ((authUser head).run execAmid (fun index => envs (index + 1))
          (lookup (envs 0) token accounts).2).1 = .ok (.ok auth) :=
  @csrfMiddleware_ok_iff Url _ { head with csrf := provided } token accounts envs AuthUser
    (authUser head) auth isUnsafe notExempt present

/-- An authenticated user has the session of the extractor's own lookup. -/
theorem lookup_of_authUser {auth : AuthUser}
    (present : sessionTokenFromHeaders head = some token)
    (ran : ((authUser head).run execAmid envs accounts).1 = .ok (.ok auth)) :
    (lookup (envs 0) token accounts).1 = .ok (some auth.session) := by
  unfold authUser at ran
  rw [present] at ran
  change ((required (lookup (envs 0) token accounts).1 authOfSession).run _ _ _).1 = _ at ran
  rcases found : (lookup (envs 0) token accounts).1 with error | _ | session
  · rw [found] at ran
    cases ran
  · rw [found] at ran
    cases ran
  · rw [found] at ran
    rw [session_of_authOfSession ran]

/-- Without other requests, an authenticated user has a session that is stored. -/
theorem session_stored {envs : Nat → AccountEnv Url} {auth : AuthUser}
    (ran : ((authUser head).run AccountOp.exec envs accounts).1 = .ok (.ok auth)) :
    auth.session ∈ accounts.sessions := by
  have amid : ((authUser head).run execAmid (fun index => ⟨envs index, id⟩) accounts).1 =
      .ok (.ok auth) := by
    rw [run_amid_nothing]
    exact ran
  cases present : sessionTokenFromHeaders head with
  | none =>
      unfold authUser at ran
      rw [present] at ran
      cases ran
  | some token =>
      have found := lookup_of_authUser present amid
      unfold lookup AccountOp.execAmid at found
      dsimp only [id] at found
      rcases AccountOp.exec_cases (envs 0) (.fetchSession (HashCrate.hashToken token)) accounts
        with ⟨error, failed⟩ | performed
      · rw [failed] at found
        cases found
      · rw [performed] at found
        exact Relational.Table.mem_of_find?_eq_some (Except.ok.inj found)

/-! ### A rest of the run that accepts a session -/

section Accepting

/-- An active user without a password whose actor has the first number. -/
def activeUser (id : Nat) : UserRow where
  id := id
  actorId := 1
  email := none
  passwordHash := none
  totpSecret := none
  totpRecoveryCodes := none
  isAdmin := false
  status := "active"
  deletedAt := none

omit [HashCrate] in
theorem activeUser_numbered (id : Nat) :
    ∀ row ∈ [activeUser id], UserRow.id row < id + 1 := by
  intro row member
  rw [List.mem_singleton.mp member]
  exact Nat.lt_succ_self id

/-- A server with one active user. -/
def Accounts.ofActiveUser (id : Nat) : Accounts where
  toServer := Sample.serverWith .ready .probe []
  users := ⟨⟨[activeUser id], List.pairwise_singleton _ _⟩, id + 1, activeUser_numbered id⟩
  sessions := .empty
  emailTokens := .empty

/-- A world in which nothing fails at some time. -/
def AccountEnv.quiet (Url : Type) (now : DateTime) : AccountEnv Url where
  toEnv := { Env.offline with now := now }
  locked _ := false
  late := false
  setting _ := none
  probed := ⟨none, none, none, false⟩
  deliver _ _ _ := .ok .delivered
  random := ""
  hashed := .ok

/-- Before the user of a session is read, there is an active one. -/
def accepting (Url : Type) (session : SessionRow) : Nat → Amid Url
  | 1 => ⟨.quiet Url ⟨0⟩, fun _ => .ofActiveUser session.userId⟩
  | _ => ⟨.quiet Url ⟨session.expiresAt.micros - 1⟩, id⟩

omit [HashCrate] in
theorem authOfSession_accepting (session : SessionRow) (accounts : Accounts) :
    ((authOfSession session : Request Url (Except Response AuthUser)).run execAmid
      (accepting Url session) accounts).1 =
      .ok (.ok ⟨activeUser session.userId, Sample.uploader, session⟩) := by
  have unexpired : ¬session.expiresAt.micros ≤ session.expiresAt.micros - 1 := by omega
  have user : (Accounts.ofActiveUser session.userId).userById session.userId =
      some (activeUser session.userId) := by
    exact List.find?_cons_of_pos (decide_eq_true rfl)
  change (Program.run execAmid (ite (session.expiresAt.micros ≤ session.expiresAt.micros - 1)
    _ _) _ _).1 = _
  rw [if_neg unexpired]
  change ((required (.ok ((Accounts.ofActiveUser session.userId).userById session.userId))
    _).run _ _ (Accounts.ofActiveUser session.userId)).1 = _
  rw [user]
  rfl

theorem authUser_accepting {head : RequestHead} {token : String}
    (present : sessionTokenFromHeaders head = some token)
    {second : Amid Url} {session : SessionRow} {accounts : Accounts}
    (found : (lookup second token accounts).1 = .ok (some session))
    {envs : Nat → Amid Url} (starts : envs 0 = second)
    (continues : ∀ index, envs (index + 1) = accepting Url session index) :
    ((authUser head).run execAmid envs accounts).1 =
      .ok (.ok ⟨activeUser session.userId, Sample.uploader, session⟩) := by
  unfold authUser
  rw [present]
  change ((required (lookup (envs 0) token accounts).1 authOfSession).run _
    (fun index => envs (index + 1)) (lookup (envs 0) token accounts).2).1 = _
  rw [starts, found, funext continues]
  exact authOfSession_accepting session _

end Accepting

theorem guardedAuthUser_of_no_token
    (absent : sessionTokenFromHeaders head = none) (provided : Option String) :
    (guardedAuthUser { head with csrf := provided } : Request Url (Except Response AuthUser)) =
      .done (.error unauthorized) := by
  have refused : (authUser { head with csrf := provided } :
      Request Url (Except Response AuthUser)) = .done (.error unauthorized) := by
    unfold authUser
    rw [show sessionTokenFromHeaders { head with csrf := provided } = none from absent]
  unfold guardedAuthUser csrfMiddleware
  rw [show sessionTokenFromHeaders { head with csrf := provided } = none from absent, refused]
  dsimp only
  rw [ite_self, ite_self]

/-! ### The header and the session -/

/-- Two lookups of the session by one request, and what comes after them. A handler runs
with an authenticated user only if the request names the token of the user's session:
this holds, whatever the header contains and whatever happens later, exactly if the
middleware finds a row with the same non-empty token whenever the extractor finds a
row. -/
theorem csrf_fails_closed (head : RequestHead)
    (isUnsafe : head.method.safe = false) (notExempt : head.path ∉ csrfExemptPaths)
    (first second : Amid Url) (accounts : Accounts) :
    (∀ provided later auth,
      ((guardedAuthUser { head with csrf := provided }).run execAmid
        (amidst first second later) accounts).1 = .ok (.ok auth) →
      provided = some auth.session.csrfToken) ↔
    ∀ token, sessionTokenFromHeaders head = some token → ∀ session,
      (lookup second token (lookup first token accounts).2).1 = .ok (some session) →
      ∃ checked, (lookup first token accounts).1 = .ok (some checked) ∧
        checked.csrfToken = session.csrfToken ∧ checked.csrfToken ≠ "" := by
  constructor
  · intro closed token present session found
    -- A header that the first lookup lets through ends in this session.
    have through (provided : Option String)
        (lets : LetsThrough { head with csrf := provided } (lookup first token accounts).1) :
        provided = some session.csrfToken := by
      refine closed provided (accepting Url session)
        ⟨activeUser session.userId, Sample.uploader, session⟩ ?_
      refine (guardedAuthUser_ok_iff isUnsafe notExempt present).mpr ⟨lets, ?_⟩
      exact authUser_accepting present found rfl fun _ => rfl
    rcases outcome : (lookup first token accounts).1 with error | _ | checked
    · have absent := through none (by rw [outcome]; rintro _ ⟨⟩)
      cases absent
    · have absent := through none (by rw [outcome]; rintro _ ⟨⟩)
      cases absent
    · refine ⟨checked, rfl, ?_, ?_⟩
      · have named := through (some checked.csrfToken) (by rw [outcome]; rintro _ ⟨⟩; rfl)
        exact Option.some.inj named
      · intro isEmpty
        have absent := through none (by rw [outcome]; rintro _ ⟨⟩; exact isEmpty.symm)
        cases absent
  · intro agree provided later auth ran
    cases present : sessionTokenFromHeaders head with
    | none =>
        rw [guardedAuthUser_of_no_token present] at ran
        cases ran
    | some token =>
        obtain ⟨lets, accepted⟩ := (guardedAuthUser_ok_iff isUnsafe notExempt present).mp ran
        obtain ⟨checked, outcome, same, nonempty⟩ :=
          agree token present auth.session (lookup_of_authUser present accepted)
        have named : provided.getD "" = checked.csrfToken := lets checked outcome
        cases provided with
        | none => exact absurd named.symm nonempty
        | some value => rw [← same, ← named]; rfl

end Guarded

namespace Sample

/-- The digests of the tokens in use. -/
instance hashCrate : HashCrate where
  verifyPassword plaintext stored := decide (stored = "$argon2id$" ++ plaintext)
  hashToken token :=
    if token = "t" then "e3b98a4da31a127d4bde6e43033f66ba274cab0eb7eb1c70ec41402bf6273dd8"
    else if token = "r" then
      "454349e422f05297191ead13e21d3db520e5abef52055e4964b82fb213f593a1"
    else token

/-- A request that changes something, without the header. -/
def posted : RequestHead where
  method := .post
  path := "/api/v1/clips"
  cookie := some "a=b; toottok_session=t"
  csrf := none

def openSession : SessionRow where
  id := "e3b98a4da31a127d4bde6e43033f66ba274cab0eb7eb1c70ec41402bf6273dd8"
  userId := 1
  expiresAt := ⟨1⟩
  csrfToken := "k"

/-- The first user has a session. -/
def withSession : Accounts :=
  { Accounts.ofActiveUser 1 with sessions := ⟨[openSession], List.pairwise_singleton _ _⟩ }

/-- Nothing else happens, and nothing fails. -/
def undisturbed : Amid NormalUrl := ⟨.quiet NormalUrl ⟨0⟩, id⟩

/-- The database does not answer. -/
def unanswered : Amid NormalUrl :=
  ⟨{ AccountEnv.quiet NormalUrl ⟨0⟩ with fault := some (.db .failed) }, id⟩

theorem token_of_posted : sessionTokenFromHeaders posted = some "t" := by
  decide

/-- With two lookups that succeed, nobody gets in without the header. -/
theorem csrf_fails_closed_undisturbed :
    posted.method.safe = false ∧
      ∀ provided later auth,
        ((guardedAuthUser { posted with csrf := provided }).run execAmid
          (amidst undisturbed undisturbed later) withSession).1 = .ok (.ok auth) →
        provided = some auth.session.csrfToken := by
  refine ⟨rfl,
    (csrf_fails_closed posted rfl (by decide) undisturbed undisturbed withSession).mpr ?_⟩
  intro token present session found
  rw [token_of_posted] at present
  cases present
  have looked : ∀ accounts, accounts = withSession →
      (lookup undisturbed "t" accounts).1 = .ok (some openSession) := by
    rintro _ rfl
    decide
  have same := found.symm.trans (looked _ rfl)
  cases same
  exact ⟨openSession, looked _ rfl, rfl, by decide⟩

/-- The lookup of the middleware fails and that of the extractor succeeds: the handler
runs without the header. -/
theorem csrf_passed_without_header :
    posted.method.safe = false ∧ posted.path ∉ csrfExemptPaths ∧
      ∃ auth, ((guardedAuthUser posted).run execAmid
          (amidst unanswered undisturbed fun _ => undisturbed) withSession).1 =
          .ok (.ok auth) ∧
        posted.csrf ≠ some auth.session.csrfToken := by
  refine ⟨rfl, by decide, ⟨activeUser 1, uploader, openSession⟩, rfl, ?_⟩
  rintro ⟨⟩

end Sample
end TootTok
