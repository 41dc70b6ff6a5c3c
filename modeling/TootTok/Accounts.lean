import TootTok.Worker

/-!
# Accounts

The tables behind a login, and the statements of the account requests: users, their
sessions, and the tokens that are mailed to them. The requests also use the operations
of the workers, over the same database.
-/

namespace TootTok

open Effects
open Json (Value)
open Relational (Table SerialTable)
open Relational.Table (KeepsKeys)

/-! ## Rows -/

/-- A row of `users`. -/
structure UserRow where
  id : Nat
  actorId : Nat
  email : Option String
  passwordHash : Option String
  totpSecret : Option String
  totpRecoveryCodes : Option Value
  isAdmin : Bool
  status : String
  deletedAt : Option DateTime

/-- A row of `sessions`. The id is the hash of the token in the cookie. -/
structure SessionRow where
  id : String
  userId : Nat
  expiresAt : DateTime
  csrfToken : String
deriving DecidableEq

inductive EmailTokenKind
  | verify
  | passwordReset
deriving DecidableEq

/-- A row of `email_tokens`. -/
structure EmailTokenRow where
  id : Nat
  userId : Nat
  kind : EmailTokenKind
  tokenHash : String
  expiresAt : DateTime
  usedAt : Option DateTime
deriving DecidableEq

namespace UserRow

/-- An actor has one user; an email belongs to one user. -/
def Clash (left right : UserRow) : Prop :=
  left.actorId = right.actorId ∨
    (left.email.isSome ∧ left.email.map citext = right.email.map citext)

instance : DecidableRel Clash := fun left right => by
  unfold Clash
  infer_instance

def setPassword (passwordHash : String) (row : UserRow) : UserRow :=
  { row with passwordHash := some passwordHash }

/-- `SET deleted_at = now(), email = NULL, password_hash = NULL, …`. -/
def erase (now : DateTime) (row : UserRow) : UserRow :=
  { row with
    deletedAt := some now
    email := none
    passwordHash := none
    totpSecret := none
    totpRecoveryCodes := none
    isAdmin := false }

theorem keepsKeys_setPassword (passwordHash : String) :
    KeepsKeys Clash (setPassword passwordHash) :=
  fun _ _ => ⟨fun clash => clash, fun clash => clash⟩

theorem keepsKeys_erase (now : DateTime) : KeepsKeys Clash (erase now) := by
  intro row other
  constructor
  · rintro (sameActor | ⟨isSome, -⟩)
    · exact .inl sameActor
    · cases isSome
  · rintro (sameActor | ⟨isSome, same⟩)
    · exact .inl sameActor
    · rw [show (row.erase now).email = none from rfl] at same
      rw [Option.map_eq_none_iff.mp same] at isSome
      cases isSome

end UserRow

namespace EmailTokenRow

/-- The hash of a token is unique. -/
def Clash (left right : EmailTokenRow) : Prop :=
  left.tokenHash = right.tokenHash

instance : DecidableRel Clash := fun left right => by
  unfold Clash
  infer_instance

/-- `used_at IS NULL AND expires_at > now()`. -/
def Usable (now : DateTime) (row : EmailTokenRow) : Prop :=
  row.usedAt = none ∧ now.micros < row.expiresAt.micros

instance (now : DateTime) : DecidablePred (Usable now) := fun row => by
  unfold Usable
  infer_instance

def use (now : DateTime) (row : EmailTokenRow) : EmailTokenRow :=
  { row with usedAt := some now }

theorem keepsKeys_use (now : DateTime) : KeepsKeys Clash (use now) :=
  fun _ _ => ⟨fun clash => clash, fun clash => clash⟩

end EmailTokenRow

def SessionRow.Clash (left right : SessionRow) : Prop :=
  left.id = right.id

instance : DecidableRel SessionRow.Clash := fun left right => by
  unfold SessionRow.Clash
  infer_instance

/-! ## Tables -/

abbrev UserTable : Type := SerialTable UserRow.id UserRow.Clash
abbrev SessionTable : Type := Table SessionRow.Clash
abbrev EmailTokenTable : Type := SerialTable EmailTokenRow.id EmailTokenRow.Clash

/-- The database with its accounts, and the files. -/
structure Accounts extends Server where
  users : UserTable
  sessions : SessionTable
  emailTokens : EmailTokenTable

namespace Users

def byId (id : Nat) (row : UserRow) : Bool := row.id = id

/-- `User::set_password`. -/
def setPassword (id : Nat) (passwordHash : String) (table : UserTable) : UserTable :=
  table.update (byId id) (UserRow.setPassword passwordHash) (fun _ => rfl)
    (UserRow.keepsKeys_setPassword passwordHash)

theorem mem_setPassword {id : Nat} {passwordHash : String} {table : UserTable} {row : UserRow} :
    row ∈ setPassword id passwordHash table ↔
      ∃ old ∈ table, Table.changeWhere (byId id) (UserRow.setPassword passwordHash) old = row :=
  SerialTable.mem_update

/-- `User::mark_deleted_and_erase`. -/
def markDeletedAndErase (id : Nat) (now : DateTime) (table : UserTable) : UserTable :=
  table.update (byId id) (UserRow.erase now) (fun _ => rfl) (UserRow.keepsKeys_erase now)

theorem mem_markDeletedAndErase {id : Nat} {now : DateTime} {table : UserTable}
    {row : UserRow} :
    row ∈ markDeletedAndErase id now table ↔
      ∃ old ∈ table, Table.changeWhere (byId id) (UserRow.erase now) old = row :=
  SerialTable.mem_update

end Users

namespace EmailTokens

/-- The statement of `EmailToken::consume`: the owner of the token. -/
def consume (tokenHash : String) (kind : EmailTokenKind) (now : DateTime)
    (table : EmailTokenTable) : Option Nat × EmailTokenTable :=
  let consumed (row : EmailTokenRow) : Bool :=
    row.tokenHash = tokenHash ∧ row.kind = kind ∧ row.Usable now
  ((table.find? consumed).map EmailTokenRow.userId,
    table.update consumed (EmailTokenRow.use now) (fun _ => rfl)
      (EmailTokenRow.keepsKeys_use now))

/-- `EmailToken::invalidate_for_user`. -/
def invalidateForUser (userId : Nat) (kind : EmailTokenKind) (now : DateTime)
    (table : EmailTokenTable) : EmailTokenTable :=
  table.update (fun row => row.userId = userId ∧ row.kind = kind ∧ row.usedAt = none)
    (EmailTokenRow.use now) (fun _ => rfl) (EmailTokenRow.keepsKeys_use now)

/-- `EmailToken::delete_for_user`. -/
def deleteForUser (userId : Nat) (table : EmailTokenTable) : EmailTokenTable where
  toTable := table.toTable.erase fun row => row.userId = userId
  next := table.next
  bounded := fun row stored => table.bounded row (List.mem_of_mem_filter stored)

end EmailTokens

namespace Accounts

def userById (accounts : Accounts) (id : Nat) : Option UserRow :=
  accounts.users.find? (Users.byId id)

def userByActorId (accounts : Accounts) (actorId : Nat) : Option UserRow :=
  accounts.users.find? fun row => row.actorId = actorId

def userByEmail (accounts : Accounts) (email : String) : Option UserRow :=
  accounts.users.find? fun row => row.email.map citext = some (citext email)

def sessionById (accounts : Accounts) (id : String) : Option SessionRow :=
  accounts.sessions.find? fun row => row.id = id

end Accounts

/-! ## Hashes -/

/-- The hash functions of the crates: argon2 for passwords, SHA-256 for tokens. -/
class HashCrate where
  verifyPassword : (plaintext stored : String) → Bool
  hashToken : String → String

/-! ## Operations -/

/-- What the outside world contributes to one operation of a request. -/
structure AccountEnv (Url : Type) extends WorkerEnv Url where
  /-- A random token. -/
  random : String
  /-- A new hash of a password, under a random salt. -/
  hashed : String → Except Error String

inductive AccountOp (Url : Type)
  | base (op : WorkerOp Url)
  -- users
  | fetchUserById (id : Nat)
  | fetchUserByActorId (actorId : Nat)
  | fetchUserByEmail (email : String)
  | setPassword (id : Nat) (passwordHash : String)
  | markDeletedAndErase (id : Nat)
  -- sessions
  | fetchSession (id : String)
  | createSession (row : SessionRow)
  | deleteSession (id : String)
  | deleteSessionsOfUser (userId : Nat)
  -- email tokens
  | consumeToken (tokenHash : String) (kind : EmailTokenKind)
  | invalidateTokensOfUser (userId : Nat) (kind : EmailTokenKind)
  | deleteTokensOfUser (userId : Nat)
  -- outside the database
  | clock
  | randomToken
  | hashPassword (plaintext : String)

namespace AccountOp

variable {Url : Type}

/-- What an operation returns when it succeeds. -/
@[reducible] def Result : AccountOp Url → Type
  | .base op => op.Result
  | .fetchUserById _ | .fetchUserByActorId _ | .fetchUserByEmail _ => Option UserRow
  | .setPassword _ _ | .markDeletedAndErase _ => Unit
  | .fetchSession _ => Option SessionRow
  | .createSession _ | .deleteSession _ | .deleteSessionsOfUser _ => Unit
  | .consumeToken _ _ => Option Nat
  | .invalidateTokensOfUser _ _ | .deleteTokensOfUser _ => Unit
  | .clock => DateTime
  | .randomToken => String
  | .hashPassword _ => String

/-- The effect of an operation that does not fail for an outside reason. -/
def perform (env : AccountEnv Url) :
    (op : AccountOp Url) → Accounts → Except Error op.Result × Accounts
  | .base op, accounts =>
      ((WorkerOp.exec env.toWorkerEnv op accounts.toServer).1,
        { accounts with toServer := (WorkerOp.exec env.toWorkerEnv op accounts.toServer).2 })
  | .fetchUserById id, accounts => (.ok (accounts.userById id), accounts)
  | .fetchUserByActorId actorId, accounts => (.ok (accounts.userByActorId actorId), accounts)
  | .fetchUserByEmail email, accounts => (.ok (accounts.userByEmail email), accounts)
  | .setPassword id passwordHash, accounts =>
      (.ok (), { accounts with users := Users.setPassword id passwordHash accounts.users })
  | .markDeletedAndErase id, accounts =>
      (.ok (), { accounts with users := Users.markDeletedAndErase id env.now accounts.users })
  | .fetchSession id, accounts => (.ok (accounts.sessionById id), accounts)
  | .createSession row, accounts =>
      match accounts.sessions.insert? row with
      | some sessions => (.ok (), { accounts with sessions := sessions })
      | none => (.error (.db .uniqueViolation), accounts)
  | .deleteSession id, accounts =>
      (.ok (), { accounts with sessions := accounts.sessions.erase fun row => row.id = id })
  | .deleteSessionsOfUser userId, accounts =>
      (.ok (),
        { accounts with sessions := accounts.sessions.erase fun row => row.userId = userId })
  | .consumeToken tokenHash kind, accounts =>
      (.ok (EmailTokens.consume tokenHash kind env.now accounts.emailTokens).1,
        { accounts with
          emailTokens := (EmailTokens.consume tokenHash kind env.now accounts.emailTokens).2 })
  | .invalidateTokensOfUser userId kind, accounts =>
      (.ok (),
        { accounts with
          emailTokens :=
            EmailTokens.invalidateForUser userId kind env.now accounts.emailTokens })
  | .deleteTokensOfUser userId, accounts =>
      (.ok (),
        { accounts with
          emailTokens := EmailTokens.deleteForUser userId accounts.emailTokens })
  | .clock, accounts => (.ok env.now, accounts)
  | .randomToken, accounts => (.ok env.random, accounts)
  | .hashPassword plaintext, accounts => (env.hashed plaintext, accounts)

/-- The error with which an operation fails for an outside reason. -/
def failure (env : AccountEnv Url) : AccountOp Url → Option Error
  | .base _ | .clock | .randomToken | .hashPassword _ => none
  | _ => env.fault

/-- A failed operation has no effect. -/
def exec : Program.Executor (@Result Url) Error Accounts (AccountEnv Url) :=
  fun env op accounts =>
    match failure env op with
    | some error => (.error error, accounts)
    | none => perform env op accounts

theorem exec_cases (env : AccountEnv Url) (op : AccountOp Url) (accounts : Accounts) :
    (∃ error, exec env op accounts = (.error error, accounts)) ∨
      exec env op accounts = perform env op accounts := by
  unfold exec
  cases failure env op with
  | some error => exact .inl ⟨error, rfl⟩
  | none => exact .inr rfl

end AccountOp

/-! ## Requests -/

/-- A handler of a request about an account. -/
abbrev Request (Url α : Type) : Type :=
  Program (@AccountOp.Result Url) Error α

namespace Request

variable {Url α : Type}

/-- One operation, whose failure is passed on. -/
abbrev ask (op : AccountOp Url) : Request Url op.Result :=
  Program.perform op

/-- Call an operation and go on with its outcome, whatever it is. -/
def tried (op : AccountOp Url) : Request Url (Except Error op.Result) :=
  .call op .done

@[simp] theorem tried_bind (op : AccountOp Url)
    (rest : Except Error op.Result → Request Url α) :
    tried op >>= rest = .call op rest := rfl

end Request
end TootTok
