import TootTok.Bytes
import TootTok.Sessions

/-!
# Registration

A registration validates the request, inserts an actor with a new key pair, and a user of this
actor. If the user cannot be inserted, the actor is deleted again. The username is validated
without the white space around it.
-/

namespace TootTok

open Effects
open Json (Value textStorable)
open Relational (Table SerialTable)
open Sanitize (isWhitespace trim)

variable {Url : Type}

/-! ## Validation -/

structure RegisterRequest where
  username : String
  email : Option String
  password : String

/-- `rsplit_once` -/
def rsplitOnce (delimiter : Char) (text : List Char) : Option (List Char × List Char) :=
  match text.reverse.dropWhile (· ≠ delimiter) with
  | [] => none
  | _ :: before => some (before.reverse, (text.reverse.takeWhile (· ≠ delimiter)).reverse)

/-- `is_ascii_alphabetic` -/
def isAsciiAlphabetic (char : Char) : Bool :=
  ('a'.toNat ≤ char.toNat && char.toNat ≤ 'z'.toNat) ||
    ('A'.toNat ≤ char.toNat && char.toNat ≤ 'Z'.toNat)

def isValidEmail (email : List Char) : Bool :=
  let parts := email.splitOn '@'
  if email.any isWhitespace then false
  else if 2 < parts.length then false
  else if (parts.headD []).isEmpty then false
  else
    match rsplitOnce '.' (parts.tail.headD []) with
    | none => false
    | some (base, tld) =>
        !base.isEmpty && decide (2 ≤ Duration.byteLength tld) && tld.all isAsciiAlphabetic

/-- The bytes of a username: `a` to `z`, `0` to `9` and `_`. -/
def isUsernameByte (byte : UInt8) : Bool :=
  ('a'.toNat ≤ byte.toNat && byte.toNat ≤ 'z'.toNat) ||
    ('0'.toNat ≤ byte.toNat && byte.toNat ≤ '9'.toNat) || byte.toNat == '_'.toNat

namespace RegisterRequest

/-- The email without the white space around it; an empty one counts as absent. -/
def trimmedEmail (request : RegisterRequest) : Option (List Char) :=
  (request.email.map fun email => trim email.toList).filter (· ≠ [])

end RegisterRequest

def validateRegister (body : RegisterRequest) : Except Response Unit :=
  let username := trim body.username.toList
  if ¬(3 ≤ Duration.byteLength username ∧ Duration.byteLength username ≤ 30 ∧
      (Bytes.utf8Bytes username).all isUsernameByte) then
    .error (.problem 400 "invalid username")
  else if body.password.utf8ByteSize < 10 then
    .error (.problem 400 "weak password")
  else if body.trimmedEmail.all isValidEmail then .ok ()
  else .error (.problem 400 "invalid email")

/-! ## Rows -/

namespace Users

/-- `User::create_with_status`. -/
def createWithStatus (actorId : Nat) (email : Option String) (passwordHash status : String)
    (table : UserTable) : Except DbError UserRow × UserTable :=
  let outcome := table.insert (fun id => {
    id := id
    actorId := actorId
    email := email
    passwordHash := some passwordHash
    totpSecret := none
    totpRecoveryCodes := none
    isAdmin := false
    status := status
    deletedAt := none }) fun _ => rfl
  (inserted outcome.1, outcome.2)

end Users

namespace EmailTokens

/-- `EmailToken::create`. -/
def create (userId : Nat) (kind : EmailTokenKind) (tokenHash : String) (expiresAt : DateTime)
    (table : EmailTokenTable) : Except DbError EmailTokenRow × EmailTokenTable :=
  let outcome := table.insert (fun id => {
    id := id
    userId := userId
    kind := kind
    tokenHash := tokenHash
    expiresAt := expiresAt
    usedAt := none }) fun _ => rfl
  (inserted outcome.1, outcome.2)

end EmailTokens

namespace Accounts

/-- A user refers to an actor. -/
def createUser (actorId : Nat) (email : Option String) (passwordHash status : String)
    (accounts : Accounts) : Except DbError UserRow × Accounts :=
  let outcome := Users.createWithStatus actorId email passwordHash status accounts.users
  if outcome.1.isOk ∧ accounts.actorById actorId = none then
    (.error .failed, { accounts with users := accounts.users.spend })
  else (outcome.1, { accounts with users := outcome.2 })

/-- A token refers to a user. -/
def createEmailToken (userId : Nat) (kind : EmailTokenKind) (tokenHash : String)
    (expiresAt : DateTime) (accounts : Accounts) : Except DbError EmailTokenRow × Accounts :=
  let outcome := EmailTokens.create userId kind tokenHash expiresAt accounts.emailTokens
  if outcome.1.isOk ∧ (accounts.userById userId).isNone then
    (.error .failed, { accounts with emailTokens := accounts.emailTokens.spend })
  else (outcome.1, { accounts with emailTokens := outcome.2 })

/-- The user belongs to the actor. -/
def isUserOf (accounts : Accounts) (actorId userId : Nat) : Bool :=
  accounts.users.rows.any fun row => row.actorId = actorId ∧ row.id = userId

/-- `DELETE FROM actors WHERE id = …`. The clips of an actor forbid it; the follows and the
user go with the actor. -/
def deleteActor (id : Nat) (accounts : Accounts) : Except DbError Unit × Accounts :=
  if accounts.clips.rows.any fun clip => clip.actorId = id then (.error .failed, accounts)
  else
    (.ok (), { accounts with
      actors := accounts.actors.erase fun row => row.id = id
      follows := accounts.follows.erase fun row =>
        row.followerActorId = id ∨ row.targetActorId = id
      users := accounts.users.erase fun row => row.actorId = id
      sessions := accounts.sessions.erase fun row => accounts.isUserOf id row.userId
      emailTokens := accounts.emailTokens.erase fun row => accounts.isUserOf id row.userId })

end Accounts

/-! ## Operations -/

/-- What the outside world contributes to one operation of a registration. -/
structure RegisterEnv (Url : Type) extends AccountEnv Url where
  /-- A new key pair, the public key first. -/
  keypair : Except Error (String × String)

inductive RegisterOp (Url : Type)
  | base (op : AccountOp Url)
  | createUser (actorId : Nat) (email : Option String) (passwordHash status : String)
  | deleteActor (id : Nat)
  | createEmailToken
      (userId : Nat) (kind : EmailTokenKind) (tokenHash : String) (expiresAt : DateTime)
  -- outside the database
  | generateActorKeypair
  | sendMail (recipient subject body : String)

namespace RegisterOp

@[match_pattern] abbrev createActor (new : NewActor) : RegisterOp Url :=
  .base (.base (.base (.createActor new)))

/-- What an operation returns when it succeeds. -/
@[reducible] def Result : RegisterOp Url → Type
  | .base op => op.Result
  | .createUser _ _ _ _ => UserRow
  | .deleteActor _ => Unit
  | .createEmailToken _ _ _ _ => EmailTokenRow
  | .generateActorKeypair => String × String
  | .sendMail _ _ _ => Unit

/-- A statement that may violate a constraint. -/
def checked {α : Type} (outcome : Except DbError α × Accounts) : Except Error α × Accounts :=
  (outcome.1.mapError .db, outcome.2)

/-- The effect of an operation that does not fail for an outside reason. -/
def perform (env : RegisterEnv Url) :
    (op : RegisterOp Url) → Accounts → Except Error op.Result × Accounts
  | .base op, accounts => AccountOp.exec env.toAccountEnv op accounts
  | .createUser actorId email passwordHash status, accounts =>
      checked (accounts.createUser actorId email passwordHash status)
  | .deleteActor id, accounts => checked (accounts.deleteActor id)
  | .createEmailToken userId kind tokenHash expiresAt, accounts =>
      checked (accounts.createEmailToken userId kind tokenHash expiresAt)
  | .generateActorKeypair, accounts => (env.keypair, accounts)
  | .sendMail _ _ _, accounts => (.ok (), accounts)

/-- The texts that an operation writes into the database. -/
def texts : RegisterOp Url → List String
  | .createUser _ email passwordHash status => email.toList ++ [passwordHash, status]
  | .createEmailToken _ _ tokenHash _ => [tokenHash]
  | _ => []

/-- The error with which an operation fails for an outside reason, or because the database
refuses a text. -/
def failure (env : RegisterEnv Url) (op : RegisterOp Url) : Option Error :=
  match op with
  | .base _ | .generateActorKeypair | .sendMail _ _ _ => none
  | _ => env.fault.or (if op.texts.all textStorable then none else some (.db .unstorable))

/-- A failed operation has no effect. -/
def exec : Program.Executor (@Result Url) Error Accounts (RegisterEnv Url) :=
  fun env op accounts =>
    match failure env op with
    | some error => (.error error, accounts)
    | none => perform env op accounts

theorem exec_cases (env : RegisterEnv Url) (op : RegisterOp Url) (accounts : Accounts) :
    (∃ error, exec env op accounts = (.error error, accounts)) ∨
      exec env op accounts = perform env op accounts := by
  unfold exec
  cases failure env op with
  | some error => exact .inl ⟨error, rfl⟩
  | none => exact .inr rfl

/-- The operations of the other requests about accounts. -/
def IsBase : RegisterOp Url → Prop
  | .base _ => True
  | _ => False

end RegisterOp

/-! ## The handler -/

/-- A handler that may create an account. -/
abbrev Registration (Url α : Type) : Type :=
  Program (@RegisterOp.Result Url) Error α

namespace Registration

variable {α : Type}

/-- One operation, whose failure is passed on. -/
abbrev ask (op : RegisterOp Url) : Registration Url op.Result :=
  Program.perform op

/-- Call an operation and go on with its outcome, whatever it is. -/
def tried (op : RegisterOp Url) : Registration Url (Except Error op.Result) :=
  .call op .done

end Registration

open Registration (tried)

/-- The answer to an accepted registration. -/
structure Registered where
  actorId : Nat
  username : String
  status : String
deriving DecidableEq

abbrev RegisterAnswer : Type := Except Response Registered

def registrationOpen : String := "open"
def registrationApproval : String := "approval"
def registrationInvite : String := "invite"

def emailTokenTtlSecs : Nat := 60 * 60

namespace EmailTokenKind

def text : EmailTokenKind → String
  | .verify => "verify"
  | .passwordReset => "password_reset"

def subject : EmailTokenKind → String
  | .verify => "TootTok email verification"
  | .passwordReset => "TootTok password reset"

def body (kind : EmailTokenKind) (token : String) : String :=
  "TootTok " ++ kind.text ++ " code: " ++ token ++ "\nThis code expires in 1 hour.\n"

end EmailTokenKind

/-- Mail a token to a user, unless it cannot be stored. -/
def issueEmailToken [HashCrate] (userId : Nat) (email : String) (kind : EmailTokenKind) :
    Registration Url Unit := do
  let token : String ← Registration.ask (.base .randomToken)
  let now : DateTime ← Registration.ask (.base .clock)
  match ← tried (.createEmailToken userId kind (HashCrate.hashToken token)
      ⟨now.micros + emailTokenTtlSecs * 1000000⟩) with
  | .error _ => return ()
  | .ok _ => Registration.ask (.sendMail email kind.subject (kind.body token))

def registrationMode : Registration Url String := do
  let setting : Option Value ← Registration.ask (.base (.base (.fetchSetting "registration_mode")))
  return (setting.bind Value.asStr).getD registrationOpen

/-- The status of a new user. -/
def initialStatus (mode : String) : Except Response String :=
  if mode = registrationOpen then .ok "active"
  else if mode = registrationApproval then .ok "pending"
  else if mode = registrationInvite then .error (.problem 403 "registration closed")
  else .error (.problem 500 "invalid setting")

/-- Only open registration verifies the email. -/
def verifyEmail [HashCrate] (mode : String) (user : UserRow) : Registration Url Unit :=
  match user.email with
  | some email =>
      if mode = registrationOpen then issueEmailToken user.id email .verify else pure ()
  | none => pure ()

/-- Delete the actor again, whether or not that succeeds. -/
def undoActor (actor : ActorRow) (problem : Response) : Registration Url RegisterAnswer := do
  let _ ← tried (.deleteActor actor.id)
  return .error problem

/-- The registration from the row of the actor on. -/
def registerUser [HashCrate] (request : RegisterRequest) (mode status passwordHash : String)
    (actor : ActorRow) : Registration Url RegisterAnswer := do
  match ← tried (.createUser actor.id (request.trimmedEmail.map String.ofList) passwordHash
      status) with
  | .error error =>
      undoActor actor
        (if error = .db .uniqueViolation then .problem 409 "email taken" else databaseError)
  | .ok user =>
      verifyEmail mode user
      return .ok ⟨actor.id, request.username, status⟩

/-- The registration from the password on. -/
def registerActor [HashCrate] (config : Config) (request : RegisterRequest)
    (mode status : String) : Registration Url RegisterAnswer := do
  match ← tried (.base (.hashPassword request.password)) with
  | .error _ => return .error (.problem 500 "password hashing failed")
  | .ok passwordHash =>
      match ← tried .generateActorKeypair with
      | .error _ => return .error (.problem 500 "key generation failed")
      | .ok keypair =>
          match ← tried (.createActor
              (userActor config request.username keypair.1 keypair.2)) with
          | .error error =>
              return .error (if error = .db .uniqueViolation then .problem 409 "username taken"
                else databaseError)
          | .ok actor => registerUser request mode status passwordHash actor

/-- The registration from the mode on. -/
def registerInMode [HashCrate] (config : Config) (request : RegisterRequest) (mode : String) :
    Registration Url RegisterAnswer :=
  match initialStatus mode with
  | .error problem => .done (.error problem)
  | .ok status => registerActor config request mode status

namespace Registration

/-- `POST /api/v1/auth/register`. -/
def register [HashCrate] (config : Config) (request : RegisterRequest) :
    Registration Url RegisterAnswer :=
  match validateRegister request with
  | .error problem => .done (.error problem)
  | .ok _ => do
      match ← registrationMode.attempt with
      | .error _ => return .error databaseError
      | .ok mode => registerInMode config request mode

end Registration
end TootTok
