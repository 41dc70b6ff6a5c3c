import TootTok.ObjectIds
import TootTok.Registration

/-!
# Runs of registrations

Several registrations and other requests about accounts, their statements in any order. A
registration inserts one actor, and deletes it again if it cannot insert its user; nothing else
deletes an actor. So the actor of an accepted registration stays, and no other has its id.
-/

namespace TootTok

open Effects
open Relational (SerialTable)

variable {Url : Type}

/-! ## What a registration has inserted -/

inductive Signup
  | nothing
  | created (row : ActorRow)
  | undone (row : ActorRow)

namespace Signup

/-- A registration inserts one actor, and deletes no other. -/
def Allowed (config : Config) (username : String) (signup : Signup) : RegisterOp Url → Prop
  | .createActor new => signup = .nothing ∧
      ∃ publicKeyPem privateKeyPem, new = userActor config username publicKeyPem privateKeyPem
  | .deleteActor id => ∃ row, signup = .created row ∧ id = row.id
  | .base (.base (.fetchSetting _)) | .base .randomToken | .base .clock
  | .base (.hashPassword _) | .createUser _ _ _ _ | .createEmailToken _ _ _ _
  | .generateActorKeypair | .sendMail _ _ _ => True
  | _ => False

def after (signup : Signup) : (op : RegisterOp Url) → Except Error op.Result → Signup
  | .createActor _, .ok row => .created row
  | .deleteActor _, _ =>
      match signup with
      | .created row => .undone row
      | _ => signup
  | _, _ => signup

/-- The row that was inserted, whether or not it was deleted again. -/
def row? : Signup → Option ActorRow
  | .nothing => none
  | .created row | .undone row => some row

end Signup

section Protocols

variable (Url) in
def registerProtocol (config : Config) (username : String) :
    Protocol (@RegisterOp.Result Url) Error Signup where
  initial := .nothing
  Allowed := Signup.Allowed config username
  after := Signup.after

variable (Url) in
/-- The protocol of the other requests. -/
def baseProtocol : Protocol (@RegisterOp.Result Url) Error Signup where
  initial := .nothing
  Allowed _ op := op.IsBase
  after signup _ _ := signup

/-- An accepted registration was valid, and its actor is inserted and not deleted. -/
def Registered.Done (request : RegisterRequest) (outcome : Except Error RegisterAnswer)
    (signup : Signup) : Prop :=
  ∀ registered, outcome = .ok (.ok registered) →
    validateRegister request = .ok () ∧ ∃ row, signup = .created row ∧
      registered.actorId = row.id

variable {config : Config} {request : RegisterRequest}

theorem undoActor_follows (row : ActorRow) (problem : Response) :
    (undoActor row problem : Registration Url RegisterAnswer).Follows
      (registerProtocol Url config request.username) (Registered.Done request)
      (.created row) := by
  refine ⟨⟨row, rfl, rfl⟩, ?_⟩
  rintro outcome registered ⟨⟩

variable [HashCrate]

theorem calls_verifyEmail (config : Config) (request : RegisterRequest) (mode : String)
    (user : UserRow) :
    (verifyEmail mode user : Registration Url Unit).Calls fun op =>
      ∀ signup, (registerProtocol Url config request.username).Allowed signup op ∧
        ∀ outcome, (registerProtocol Url config request.username).after signup op outcome =
          signup := by
  unfold verifyEmail
  split
  · split
    · refine ⟨fun _ => ⟨trivial, ?_⟩, ?_⟩
      · rintro (error | token) <;> rfl
      rintro (error | token)
      · trivial
      refine ⟨fun _ => ⟨trivial, ?_⟩, ?_⟩
      · rintro (error | now) <;> rfl
      rintro (error | now)
      · trivial
      refine ⟨fun _ => ⟨trivial, fun _ => rfl⟩, ?_⟩
      rintro (error | token)
      · trivial
      · refine ⟨fun _ => ⟨trivial, fun _ => rfl⟩, ?_⟩
        rintro (error | sent) <;> trivial
    · trivial
  · trivial

theorem registerUser_follows (valid : validateRegister request = .ok ())
    (mode status passwordHash : String) (row : ActorRow) :
    (registerUser request mode status passwordHash row :
        Registration Url RegisterAnswer).Follows
      (registerProtocol Url config request.username) (Registered.Done request)
      (.created row) := by
  refine ⟨trivial, ?_⟩
  rintro (error | user)
  · exact undoActor_follows row _
  · change (verifyEmail mode user >>= fun _ => _ : Registration Url RegisterAnswer).Follows _ _
      (Signup.created row)
    refine (Program.follows_bind _ _ _ _).mpr ?_
    refine ((calls_verifyEmail config request mode user).follows (· = Signup.created row) ?_ ?_ rfl).mono ?_
    · exact fun signup op _ silent => (silent signup).1
    · intro signup op outcome isCreated silent
      rw [(silent signup).2 outcome, isCreated]
    · rintro (error | sent) final rfl
      · rintro registered ⟨⟩
      · rintro registered ⟨⟩
        exact ⟨valid, row, rfl, rfl⟩

theorem registerActor_follows (valid : validateRegister request = .ok ())
    (mode status : String) :
    (registerActor config request mode status : Registration Url RegisterAnswer).Follows
      (registerProtocol Url config request.username) (Registered.Done request) .nothing := by
  refine ⟨trivial, ?_⟩
  rintro (error | passwordHash)
  · rintro registered ⟨⟩
  refine ⟨trivial, ?_⟩
  rintro (error | keypair)
  · rintro registered ⟨⟩
  refine ⟨⟨rfl, keypair.1, keypair.2, rfl⟩, ?_⟩
  rintro (error | row)
  · rintro registered ⟨⟩
  · exact registerUser_follows valid mode status passwordHash row

theorem registerInMode_follows (valid : validateRegister request = .ok ()) (mode : String) :
    (registerInMode config request mode : Registration Url RegisterAnswer).Follows
      (registerProtocol Url config request.username) (Registered.Done request) .nothing := by
  unfold registerInMode
  split
  · rintro registered ⟨⟩
  · exact registerActor_follows valid mode _

/-- A registration keeps to its protocol. -/
theorem register_follows (config : Config) (request : RegisterRequest) :
    (Registration.register config request : Registration Url RegisterAnswer).Follows
      (registerProtocol Url config request.username) (Registered.Done request) .nothing := by
  unfold Registration.register
  cases valid : validateRegister request with
  | error problem =>
      rintro registered ⟨⟩
  | ok done =>
      refine ⟨trivial, ?_⟩
      rintro (error | setting)
      · rintro registered ⟨⟩
      · exact registerInMode_follows valid _

end Protocols

/-! ## One call -/

/-- What a call of a registration does to what it has inserted. -/
theorem Signup.after_cases {config : Config} {username : String} {signup : Signup}
    {op : RegisterOp Url} (allowed : signup.Allowed config username op)
    (outcome : Except Error op.Result) :
    (∃ new row, signup = .nothing ∧ new.username = username ∧
        new.apId = config.publicBaseUrl ++ "/users/" ++ username ∧
        (⟨op, outcome⟩ : Σ op : RegisterOp Url, Except Error op.Result) =
          ⟨.createActor new, .ok row⟩) ∨
      (∃ row, signup = .created row ∧ op = .deleteActor row.id ∧
        signup.after op outcome = .undone row) ∨
      ((∀ id, op ≠ .deleteActor id) ∧ signup.after op outcome = signup ∧
        ∀ new row, (⟨op, outcome⟩ : Σ op : RegisterOp Url, Except Error op.Result) ≠
          ⟨.createActor new, .ok row⟩) := by
  cases op with
  | deleteActor id =>
      obtain ⟨row, rfl, rfl⟩ := allowed
      exact .inr (.inl ⟨row, rfl, rfl, rfl⟩)
  | base op =>
      cases op with
      | base op =>
          cases op with
          | base op =>
              cases op with
              | createActor new =>
                  obtain ⟨rfl, publicKeyPem, privateKeyPem, rfl⟩ := allowed
                  cases outcome with
                  | ok row => exact .inl ⟨_, row, rfl, rfl, rfl, rfl⟩
                  | error error =>
                      exact .inr (.inr ⟨by rintro id ⟨⟩, rfl, by rintro new row ⟨⟩⟩)
              | _ => exact allowed.elim
          | fetchSetting key =>
              exact .inr (.inr ⟨by rintro id ⟨⟩, rfl, by rintro new row ⟨⟩⟩)
          | _ => exact allowed.elim
      | clock | randomToken | hashPassword _ =>
          exact .inr (.inr ⟨by rintro id ⟨⟩, rfl, by rintro new row ⟨⟩⟩)
      | _ => exact allowed.elim
  | _ => exact .inr (.inr ⟨by rintro id ⟨⟩, rfl, by rintro new row ⟨⟩⟩)

/-- An actor that is inserted has a new id. -/
theorem Operation.exec_createActor_ok {env : Env Url} {new : NewActor} {db : Db}
    {row : ActorRow} (created : (exec env (.createActor new) db).1 = .ok row) :
    row.username = new.username ∧ row.apId = new.apId ∧
      row ∈ (exec env (.createActor new) db).2.actors ∧
      ∀ stored ∈ db.actors, stored.apId ≠ new.apId := by
  rcases exec_cases env (.createActor new) db with ⟨error, failed⟩ | performed
  · rw [failed] at created
    cases created
  · rw [performed] at created ⊢
    rcases db.actors.insert_cases new.row (fun _ => rfl) with
      ⟨free, inserted, rows⟩ | ⟨-, refused⟩
    · change (Except.mapError Error.db (TootTok.inserted (db.actors.insert new.row _).1)) = _
        at created
      rw [inserted] at created
      obtain rfl : new.row db.actors.next = row := Except.ok.inj created
      refine ⟨rfl, rfl, ?_, fun stored member same => ?_⟩
      · change _ ∈ (db.actors.insert new.row _).2.rows
        rw [rows]
        exact List.mem_append_right _ (List.mem_singleton_self _)
      · exact free stored member (.inl same)
    · change (Except.mapError Error.db (TootTok.inserted (db.actors.insert new.row _).1)) = _
        at created
      rw [refused] at created
      cases created

/-- No operation of a worker removes an actor or gives it another id. -/
theorem WorkerOp.exec_persist (env : WorkerEnv Url) (op : WorkerOp Url) (server : Server) :
    Actors.Persist server.actors (exec env op server).2.actors := by
  by_cases writes : op.Writes .actors
  · cases op with
    | base op => exact Operation.exec_persist env.toEnv op server.toDb
    | _ => exact writes.elim
  · have same : (exec env op server).2.actors = server.actors := exec_frame .actors writes env server
    rw [same]
    exact .refl _

/-- Nor does an operation of a request about an account. -/
theorem AccountOp.exec_persist (env : AccountEnv Url) (op : AccountOp Url) (accounts : Accounts) :
    Actors.Persist accounts.actors (exec env op accounts).2.actors := by
  rcases exec_cases env op accounts with ⟨error, failed⟩ | performed
  · rw [failed]
    exact .refl _
  · rw [performed]
    cases op with
    | base op => exact WorkerOp.exec_persist env.toWorkerEnv op accounts.toServer
    | createSession row =>
        rw [perform]
        split <;> exact .refl _
    | _ => exact .refl _

/-- An actor is removed only by its deletion. -/
theorem RegisterOp.exec_persist (env : RegisterEnv Url) {op : RegisterOp Url}
    (keeps : ∀ id, op ≠ .deleteActor id) (accounts : Accounts) :
    Actors.Persist accounts.actors (exec env op accounts).2.actors := by
  rcases exec_cases env op accounts with ⟨error, failed⟩ | performed
  · rw [failed]
    exact .refl _
  · rw [performed]
    cases op with
    | base op => exact AccountOp.exec_persist env.toAccountEnv op accounts
    | deleteActor id => exact (keeps id rfl).elim
    | createUser actorId email passwordHash status =>
        unfold perform checked Accounts.createUser
        dsimp only
        split <;> exact .refl _
    | createEmailToken userId kind tokenHash expiresAt =>
        unfold perform checked Accounts.createEmailToken
        dsimp only
        split <;> exact .refl _
    | _ => exact .refl _

/-- The deletion of an actor keeps the others. -/
theorem RegisterOp.exec_deleteActor (env : RegisterEnv Url) (id : Nat) (accounts : Accounts)
    {row : ActorRow} (stored : row ∈ accounts.actors) (other : row.id ≠ id) :
    row ∈ (exec env (.deleteActor id) accounts).2.actors := by
  rcases exec_cases env (.deleteActor id) accounts with ⟨error, failed⟩ | performed
  · rwa [failed]
  · rw [performed]
    change row ∈ (accounts.deleteActor id).2.actors
    unfold Accounts.deleteActor
    split
    · exact stored
    · exact SerialTable.mem_erase.mpr ⟨stored, decide_eq_false other⟩

/-! ## What has been inserted is still there -/

section Standing

variable {τ : Type} [DecidableEq τ] {signups : τ → Signup} {before after : ActorTable}

/-- The actors that are inserted and not deleted are stored, under ids of their own. -/
structure Standing (signups : τ → Signup) (actors : ActorTable) : Prop where
  stored : ∀ thread row, signups thread = .created row →
    ∃ kept ∈ actors, kept.id = row.id ∧ kept.apId = row.apId
  apart : ∀ left right, left ≠ right → ∀ leftRow rightRow,
    signups left = .created leftRow → signups right = .created rightRow →
    leftRow.apId ≠ rightRow.apId

omit [DecidableEq τ] in
theorem Standing.persist (standing : Standing signups before)
    (persist : Actors.Persist before after) : Standing signups after := by
  refine ⟨fun thread row created => ?_, standing.apart⟩
  obtain ⟨kept, stored, sameId, sameApId⟩ := standing.stored thread row created
  obtain ⟨later, laterStored, laterId, laterApId⟩ := persist kept stored
  exact ⟨later, laterStored, laterId.trans sameId, laterApId.trans sameApId⟩

theorem Standing.create (standing : Standing signups before)
    (persist : Actors.Persist before after) (thread : τ) {row : ActorRow} (stored : row ∈ after)
    (new : ∀ old ∈ before, old.apId ≠ row.apId) :
    Standing (Function.update signups thread (.created row)) after := by
  have other (left : τ) (leftRow : ActorRow) (created : signups left = .created leftRow) :
      leftRow.apId ≠ row.apId := by
    obtain ⟨kept, keptStored, -, sameApId⟩ := standing.stored left leftRow created
    rw [← sameApId]
    exact new kept keptStored
  constructor
  · intro left leftRow created
    by_cases same : left = thread
    · subst same
      rw [Function.update_self] at created
      cases created
      exact ⟨row, stored, rfl, rfl⟩
    · rw [Function.update_of_ne same] at created
      exact (standing.persist persist).stored left leftRow created
  · intro left right different leftRow rightRow leftCreated rightCreated
    by_cases isLeft : left = thread
    · subst isLeft
      rw [Function.update_self] at leftCreated
      rw [Function.update_of_ne (Ne.symm different)] at rightCreated
      cases leftCreated
      exact (other right rightRow rightCreated).symm
    · rw [Function.update_of_ne isLeft] at leftCreated
      by_cases isRight : right = thread
      · subst isRight
        rw [Function.update_self] at rightCreated
        cases rightCreated
        exact other left leftRow leftCreated
      · rw [Function.update_of_ne isRight] at rightCreated
        exact standing.apart left right different leftRow rightRow leftCreated rightCreated

theorem Standing.delete (standing : Standing signups before) {thread : τ} {row : ActorRow}
    (isCreated : signups thread = .created row)
    (kept : ∀ old ∈ before, old.id ≠ row.id → old ∈ after) :
    Standing (Function.update signups thread (.undone row)) after := by
  have remaining (left : τ) (leftRow : ActorRow)
      (created : Function.update signups thread (.undone row) left = .created leftRow) :
      left ≠ thread ∧ signups left = .created leftRow := by
    by_cases same : left = thread
    · subst same
      rw [Function.update_self] at created
      cases created
    · rw [Function.update_of_ne same] at created
      exact ⟨same, created⟩
  constructor
  · intro left leftRow created
    obtain ⟨different, created⟩ := remaining left leftRow created
    obtain ⟨old, oldStored, sameId, sameApId⟩ := standing.stored left leftRow created
    obtain ⟨own, ownStored, ownId, ownApId⟩ := standing.stored thread row isCreated
    refine ⟨old, kept old oldStored fun clash => ?_, sameId, sameApId⟩
    -- Two actors of one number are one, and so are their ids.
    cases SerialTable.eq_of_number_eq oldStored ownStored (clash.trans ownId.symm)
    exact standing.apart left thread different leftRow row created isCreated
      (sameApId.symm.trans ownApId)
  · intro left right different leftRow rightRow leftCreated rightCreated
    exact standing.apart left right different leftRow rightRow (remaining _ _ leftCreated).2
      (remaining _ _ rightCreated).2

end Standing

/-! ## Runs -/

section Runs

variable {ι κ : Type}

/-- What happens in a run of registrations and of other requests about accounts. -/
abbrev RegisterEvent (ι κ Url : Type) : Type :=
  Effects.Event (ι ⊕ κ) (@RegisterOp.Result Url) Error (RegisterEnv Url)

/-- The registrations and the other requests before their first statement. -/
def registering [HashCrate] (config : Config) (requests : ι → RegisterRequest)
    (others : κ → Registration Url RegisterAnswer) (accounts : Accounts) :
    Effects.Config (ι ⊕ κ) (@RegisterOp.Result Url) Error RegisterAnswer Accounts where
  state := accounts
  threads := Sum.elim (fun index => Registration.register config (requests index)) others

/-- The statements of the requests in any order. -/
abbrev RegisterRun [HashCrate] [DecidableEq ι] [DecidableEq κ] (config : Config)
    (requests : ι → RegisterRequest) (others : κ → Registration Url RegisterAnswer)
    (accounts : Accounts) (events : List (RegisterEvent ι κ Url))
    (final : Effects.Config (ι ⊕ κ) (@RegisterOp.Result Url) Error RegisterAnswer Accounts) :
    Prop :=
  Serves RegisterOp.exec (fun _ _ => False) (fun _ _ _ _ _ => True)
    (registering config requests others accounts) events final

/-- A registration has inserted the row of an actor. -/
def Creates (events : List (RegisterEvent ι κ Url)) (index : ι) (row : ActorRow) : Prop :=
  ∃ new env, .called ⟨.inl index, .createActor new, env, .ok row⟩ ∈ events

/-- A registration was answered with success. -/
def Accepted
    (final : Effects.Config (ι ⊕ κ) (@RegisterOp.Result Url) Error RegisterAnswer Accounts)
    (index : ι) (registered : Registered) : Prop :=
  final.threads (.inl index) = .done (.ok registered)

/-- The protocol of a thread. -/
def signupProtocol (config : Config) (requests : ι → RegisterRequest) :
    ι ⊕ κ → Protocol (@RegisterOp.Result Url) Error Signup :=
  Sum.elim (fun index => registerProtocol Url config (requests index).username)
    fun _ => baseProtocol Url

/-- What must hold when a thread ends. -/
def signupDone (requests : ι → RegisterRequest) :
    ι ⊕ κ → Except Error RegisterAnswer → Signup → Prop :=
  Sum.elim (fun index => Registered.Done (requests index)) fun _ _ _ => True

variable [DecidableEq ι] [DecidableEq κ]

/-- What each thread has inserted after some events. -/
abbrev signupsOf (config : Config) (requests : ι → RegisterRequest)
    (events : List (RegisterEvent ι κ Url)) : ι ⊕ κ → Signup :=
  memories (signupProtocol config requests) events

variable {config : Config} {requests : ι → RegisterRequest}
  {others : κ → Registration Url RegisterAnswer} {accounts : Accounts}
  {events : List (RegisterEvent ι κ Url)}
  {final : Effects.Config (ι ⊕ κ) (@RegisterOp.Result Url) Error RegisterAnswer Accounts}

/-- What the registrations have inserted, they remember, and what they have not deleted is
still there. -/
structure Registering (config : Config) (requests : ι → RegisterRequest)
    (events : List (RegisterEvent ι κ Url)) (accounts : Accounts) : Prop where
  standing : Standing (signupsOf config requests events) accounts.actors
  noted : ∀ index row,
    Creates events index row ↔ (signupsOf config requests events (.inl index)).row? = some row
  named : ∀ index row, Creates events index row →
    row.username = (requests index).username ∧
      row.apId = config.publicBaseUrl ++ "/users/" ++ (requests index).username

omit [DecidableEq ι] [DecidableEq κ] in
theorem creates_called {thread : ι ⊕ κ} {op : RegisterOp Url} {env : RegisterEnv Url}
    {outcome : Except Error op.Result} {index : ι} {row : ActorRow} :
    Creates (events ++ [.called ⟨thread, op, env, outcome⟩]) index row ↔
      Creates events index row ∨ thread = .inl index ∧
        ∃ new, (⟨op, outcome⟩ : Σ op : RegisterOp Url, Except Error op.Result) =
          ⟨.createActor new, .ok row⟩ := by
  unfold Creates
  constructor
  · rintro ⟨new, sample, member⟩
    rcases List.mem_append.mp member with earlier | last
    · exact .inl ⟨new, sample, earlier⟩
    · cases List.mem_singleton.mp last
      exact .inr ⟨rfl, new, rfl⟩
  · rintro (⟨new, sample, earlier⟩ | ⟨rfl, new, same⟩)
    · exact ⟨new, sample, List.mem_append_left _ earlier⟩
    · cases same
      exact ⟨new, env, List.mem_append_right _ (List.mem_singleton_self _)⟩

theorem Registering.start : Registering config requests ([] : List (RegisterEvent ι κ Url))
    accounts := by
  have nothing (thread : ι ⊕ κ) :
      signupsOf config requests ([] : List (RegisterEvent ι κ Url)) thread = .nothing := by
    cases thread <;> rfl
  refine ⟨⟨fun thread row created => ?_, fun left _ _ row _ created => ?_⟩,
    fun index row => ?_, fun index row created => ?_⟩
  · rw [nothing] at created
    cases created
  · rw [nothing] at created
    cases created
  · rw [nothing]
    refine iff_of_false ?_ (by rintro ⟨⟩)
    rintro ⟨new, env, member⟩
    cases member
  · obtain ⟨new, env, member⟩ := created
    cases member

section Step

variable {thread : ι ⊕ κ} {op : RegisterOp Url} {env : RegisterEnv Url}
  {outcome : Except Error op.Result} {after : Accounts}

/-- A call that inserts no actor for a registration. -/
theorem Registering.quiet (holds : Registering config requests events accounts)
    (standing : Standing
      (signupsOf config requests (events ++ [.called ⟨thread, op, env, outcome⟩])) after.actors)
    (rows : ∀ index,
      (signupsOf config requests (events ++ [.called ⟨thread, op, env, outcome⟩])
        (.inl index)).row? = (signupsOf config requests events (.inl index)).row?)
    (inserts : ∀ index, thread = .inl index → ∀ new row,
      (⟨op, outcome⟩ : Σ op : RegisterOp Url, Except Error op.Result) ≠
        ⟨.createActor new, .ok row⟩) :
    Registering config requests (events ++ [.called ⟨thread, op, env, outcome⟩]) after := by
  have same (index : ι) (row : ActorRow) :
      Creates (events ++ [.called ⟨thread, op, env, outcome⟩]) index row ↔
        Creates events index row := by
    rw [creates_called]
    refine or_iff_left ?_
    rintro ⟨isThread, new, isInsert⟩
    exact inserts index isThread new row isInsert
  refine ⟨standing, fun index row => ?_, fun index row created => ?_⟩
  · rw [same, rows]
    exact holds.noted index row
  · exact holds.named index row ((same index row).mp created)

/-- The signups after a call. -/
theorem signupsOf_called :
    signupsOf config requests (events ++ [.called ⟨thread, op, env, outcome⟩]) =
      Function.update (signupsOf config requests events) thread
        ((signupProtocol config requests thread).after (signupsOf config requests events thread)
          op outcome) :=
  memories_called _ events _

theorem signupsOf_registration {index : ι} :
    signupsOf config requests (events ++ [.called ⟨.inl index, op, env, outcome⟩]) =
      Function.update (signupsOf config requests events) (.inl index)
        ((signupsOf config requests events (.inl index)).after op outcome) :=
  signupsOf_called

/-- A registration inserts its actor. -/
theorem Registering.create (holds : Registering config requests events accounts) {index : ι}
    {new : NewActor} {row : ActorRow}
    (fresh : signupsOf config requests events (.inl index) = .nothing)
    (username : new.username = (requests index).username)
    (apId : new.apId = config.publicBaseUrl ++ "/users/" ++ (requests index).username)
    (created : (RegisterOp.exec env (.createActor new) accounts).1 = .ok row) :
    Registering config requests
      (events ++ [.called ⟨.inl index, .createActor new, env, .ok row⟩])
      (RegisterOp.exec env (.createActor new) accounts).2 := by
  obtain ⟨sameUsername, sameApId, stored, free⟩ := Operation.exec_createActor_ok created
  have signups : signupsOf config requests
      (events ++ [.called ⟨.inl index, .createActor new, env, .ok row⟩]) =
        Function.update (signupsOf config requests events) (.inl index) (.created row) :=
    signupsOf_registration
  constructor
  · rw [signups]
    refine holds.standing.create (RegisterOp.exec_persist env (by rintro id ⟨⟩) accounts)
      (.inl index) stored ?_
    rw [sameApId]
    exact free
  · intro other otherRow
    rw [creates_called, signups]
    by_cases same : other = index
    · subst same
      rw [Function.update_self, holds.noted, fresh]
      constructor
      · rintro (⟨⟨⟩⟩ | ⟨-, new, isInsert⟩)
        cases isInsert
        rfl
      · intro isRow
        cases isRow
        exact .inr ⟨rfl, new, rfl⟩
    · rw [Function.update_of_ne fun clash => same (Sum.inl.inj clash), holds.noted]
      exact or_iff_left fun caller => same (Sum.inl.inj caller.1).symm
  · intro other otherRow isCreated
    rcases creates_called.mp isCreated with earlier | ⟨isCaller, new, isInsert⟩
    · exact holds.named other otherRow earlier
    · cases isCaller
      cases isInsert
      exact ⟨sameUsername.trans username, sameApId.trans apId⟩

/-- What the requests may call keeps the invariant. -/
theorem Registering.called (holds : Registering config requests events accounts)
    (allowed : (signupProtocol config requests thread).Allowed
      (signupsOf config requests events thread) op) :
    Registering config requests
      (events ++ [.called ⟨thread, op, env, (RegisterOp.exec env op accounts).1⟩])
      (RegisterOp.exec env op accounts).2 := by
  cases thread with
  | inr other =>
      have unchanged : signupsOf config requests
          (events ++ [.called ⟨.inr other, op, env, (RegisterOp.exec env op accounts).1⟩]) =
            signupsOf config requests events :=
        signupsOf_called.trans (Function.update_eq_self ..)
      refine holds.quiet ?_ (fun index => by rw [unchanged]) (by rintro index ⟨⟩)
      rw [unchanged]
      refine holds.standing.persist (RegisterOp.exec_persist env ?_ accounts)
      rintro id rfl
      exact allowed
  | inl index =>
      rcases Signup.after_cases allowed (RegisterOp.exec env op accounts).1 with
        ⟨new, row, fresh, username, apId, isInsert⟩ | ⟨row, isCreated, rfl, undone⟩ |
          ⟨keeps, unchanged, inserts⟩
      · obtain rfl := congrArg Sigma.fst isInsert
        have created := eq_of_heq (Sigma.mk.inj_iff.mp isInsert).2
        have step := holds.create fresh username apId created
        rwa [← created] at step
      · have signups : signupsOf config requests (events ++
            [.called ⟨.inl index, .deleteActor row.id, env,
              (RegisterOp.exec env (.deleteActor row.id) accounts).1⟩]) =
              Function.update (signupsOf config requests events) (.inl index) (.undone row) := by
          rw [signupsOf_registration, undone]
        refine holds.quiet ?_ (fun other => ?_) ?_
        · rw [signups]
          exact holds.standing.delete isCreated fun old stored different =>
            RegisterOp.exec_deleteActor env row.id accounts stored different
        · rw [signups]
          by_cases same : other = index
          · subst same
            rw [Function.update_self, isCreated]
            rfl
          · rw [Function.update_of_ne fun clash => same (Sum.inl.inj clash)]
        · rintro _ _ new other isInsert
          cases congrArg Sigma.fst isInsert
      · have signups : signupsOf config requests
            (events ++ [.called ⟨.inl index, op, env, (RegisterOp.exec env op accounts).1⟩]) =
              signupsOf config requests events := by
          rw [signupsOf_registration, unchanged, Function.update_eq_self]
        refine holds.quiet ?_ (fun other => by rw [signups]) fun _ _ => inserts
        rw [signups]
        exact holds.standing.persist (RegisterOp.exec_persist env keeps accounts)

end Step

variable [HashCrate]

omit [DecidableEq ι] [DecidableEq κ] in
/-- Every thread starts with its protocol. -/
theorem registering_follows (accountsOnly : ∀ other, (others other).Calls RegisterOp.IsBase)
    (thread : ι ⊕ κ) :
    ((registering config requests others accounts).threads thread).Follows
      (signupProtocol config requests thread) (signupDone requests thread)
      (signupProtocol config requests thread :
        Protocol (@RegisterOp.Result Url) Error Signup).initial := by
  cases thread with
  | inl index => exact register_follows config (requests index)
  | inr other =>
      exact (accountsOnly other).follows (fun _ => True) (fun _ _ _ isBase => isBase)
        (fun _ _ _ _ _ => trivial) trivial

theorem RegisterRun.holds (run : RegisterRun config requests others accounts events final)
    (accountsOnly : ∀ other, (others other).Calls RegisterOp.IsBase) :
    Registering config requests events final.state := by
  induction run with
  | start => exact .start
  | began earlier isTask _ => exact isTask.elim
  | called earlier atCall _ inductionHypothesis =>
      exact inductionHypothesis.called
        (earlier.allowed (registering_follows accountsOnly) (fun _ _ none => none.elim) atCall)

/-- An accepted registration was valid, and its actor is stored. -/
theorem RegisterRun.accepted (run : RegisterRun config requests others accounts events final)
    (accountsOnly : ∀ other, (others other).Calls RegisterOp.IsBase) {index : ι}
    {registered : Registered} (accepted : Accepted final index registered) :
    validateRegister (requests index) = .ok () ∧
      ∃ row, signupsOf config requests events (.inl index) = .created row ∧
        registered.actorId = row.id := by
  have done := run.follows (registering_follows accountsOnly) (fun _ _ none => none.elim)
    (.inl index)
  rw [show final.threads (.inl index) = _ from accepted] at done
  exact done registered rfl

end Runs
end TootTok
