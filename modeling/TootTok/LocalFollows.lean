import TootTok.Collections
import TootTok.FollowAuthority
import Mathlib.Logic.Function.Basic

/-!
# Follows between local actors

Local actors follow and unfollow each other through the API. A follow of a local actor
is recorded and not delivered. An unfollow does not look at where its target is.
-/

namespace TootTok

open Effects
open Json (Value)
open Relational (Table SerialTable)
open UrlCrate

/-! ## Edges and deliveries -/

namespace Db

/-- The state of the edge from the first to the second actor of a pair. -/
def edges (db : Db) (pair : Nat × Nat) : Option FollowState :=
  (db.followByPair pair.1 pair.2).map FollowRow.state

/-- The jobs that deliver something to another server. -/
def deliveries (db : Db) : List JobRow :=
  db.jobs.rows.filter fun row => row.kind = .deliver ∨ row.kind = .deliverFollow

/-- An edge is in a state exactly if the row of its pair is. -/
theorem edges_eq_some {db : Db} {pair : Nat × Nat} {state : FollowState} :
    db.edges pair = some state ↔
      ∃ row ∈ db.follows, row.ofPair pair.1 pair.2 = true ∧ row.state = state := by
  rw [edges, Option.map_eq_some_iff]
  constructor
  · rintro ⟨row, found, inState⟩
    obtain ⟨member, ofPair⟩ := followByPair_eq_some.mp found
    exact ⟨row, member, ofPair, inState⟩
  · rintro ⟨row, member, ofPair, inState⟩
    exact ⟨row, followByPair_eq_some.mpr ⟨member, ofPair⟩, inState⟩

theorem edges_of_sameTable {before after : Db} (same : after.SameTable before .follows) :
    after.edges = before.edges := by
  funext pair
  rw [edges, edges, sameEdges_of_sameTable same]

theorem deliveries_of_sameTable {before after : Db} (same : after.SameTable before .jobs) :
    after.deliveries = before.deliveries := by
  rw [deliveries, deliveries, show after.jobs = before.jobs from same]

/-- A deletion takes one edge away. -/
theorem edges_delete (db : Db) (followerId targetId : Nat) :
    (db.onFollows (Follows.delete followerId targetId)).2.edges =
      Function.update db.edges (followerId, targetId) none := by
  funext pair
  have replaced := db.edgeReplaced_delete ⟨followerId, targetId, none, .accepted⟩ pair.1 pair.2
  rw [edges, replaced]
  by_cases same : pair = (followerId, targetId)
  · subst same
    rw [Function.update_self, if_pos (by simp [FollowRow.ofPair])]
    rfl
  · rw [Function.update_of_ne same, if_neg ?_, edges]
    rintro ofPair
    simp only [FollowRow.ofPair, decide_eq_true_eq] at ofPair
    exact same (Prod.ext ofPair.1.symm ofPair.2.symm)

end Db

/-- The row of one pair is no row of another. -/
theorem FollowRow.eq_of_ofPair {row : FollowRow} {pair other : Nat × Nat}
    (ofPair : row.ofPair pair.1 pair.2 = true) (ofOther : row.ofPair other.1 other.2 = true) :
    pair = other := by
  simp only [FollowRow.ofPair, decide_eq_true_eq] at ofPair ofOther
  exact Prod.ext (ofPair.1.symm.trans ofOther.1) (ofPair.2.symm.trans ofOther.2)

/-- What an upsert of a pair makes of the rows. -/
theorem Follows.mem_upsert {followerId targetId : Nat} {activityId : Option String}
    {state : FollowState} {table table' : FollowTable} {returned : FollowRow}
    (upserted : Follows.upsert followerId targetId activityId state table =
      (.ok returned, table')) :
    (returned ∈ table' ∧ returned.ofPair followerId targetId = true ∧
        returned.state = state) ∧
      ∀ row, row.ofPair followerId targetId = false → (row ∈ table' ↔ row ∈ table) := by
  unfold Follows.upsert at upserted
  cases found : table.find? (FollowRow.ofPair followerId targetId) with
  | some existing =>
      rw [found] at upserted
      obtain ⟨rfl, rfl⟩ : existing.renew activityId state = returned ∧ _ = table' :=
        (Prod.mk.inj upserted).imp_left Except.ok.inj
      have stored := Table.mem_of_find?_eq_some found
      have ofPair := Table.holds_of_find?_eq_some found
      refine ⟨⟨?_, ofPair, rfl⟩, fun row notOfPair => ?_⟩
      · refine Table.mem_update.mpr ⟨existing, stored, ?_⟩
        rw [Table.changeWhere, if_pos ofPair]
      · rw [Table.mem_update]
        constructor
        · rintro ⟨old, member, rfl⟩
          cases oldPair : old.ofPair followerId targetId with
          | true =>
              rw [Table.changeWhere, if_pos oldPair] at notOfPair
              exact absurd (oldPair.symm.trans notOfPair) (by decide)
          | false =>
              rwa [Table.changeWhere, if_neg (by simp [oldPair])]
        · intro member
          exact ⟨row, member, by rw [Table.changeWhere, if_neg (by simp [notOfPair])]⟩
  | none =>
      rw [found] at upserted
      cases inserted : table.insert? ⟨followerId, targetId, activityId, state⟩ with
      | none =>
          rw [inserted] at upserted
          cases upserted
      | some grown =>
          rw [inserted] at upserted
          cases upserted
          refine ⟨⟨(Table.mem_insert? inserted).mpr (.inr rfl), by simp [FollowRow.ofPair], rfl⟩,
            fun row notOfPair => ?_⟩
          rw [Table.mem_insert? inserted, or_iff_left]
          rintro rfl
          simp [FollowRow.ofPair] at notOfPair

/-- An upsert sets one edge. -/
theorem Db.edges_upsert {db : Db} {followerId targetId : Nat} {activityId : Option String}
    {state : FollowState} {returned : FollowRow}
    (succeeded : (Follows.upsert followerId targetId activityId state db.follows).1 =
      .ok returned) :
    (db.onFollows (Follows.upsert followerId targetId activityId state)).2.edges =
      Function.update db.edges (followerId, targetId) (some state) := by
  obtain ⟨⟨stored, ofPair, inState⟩, others⟩ := Follows.mem_upsert (Prod.ext succeeded rfl)
  funext pair
  by_cases same : pair = (followerId, targetId)
  · subst same
    rw [Function.update_self]
    exact Db.edges_eq_some.mpr ⟨returned, stored, ofPair, inState⟩
  · rw [Function.update_of_ne same]
    refine Option.ext fun other => ?_
    rw [Db.edges_eq_some, Db.edges_eq_some]
    refine exists_congr fun row => ?_
    rw [and_congr_left_iff]
    rintro ⟨ofOther, -⟩
    refine others row (Bool.eq_false_iff.mpr fun ofThis => same ?_)
    exact FollowRow.eq_of_ofPair ofOther ofThis

variable {Url : Type}

/-! ## Operations that are not aborted -/

/-- Operations may fail, but the task is not aborted in the middle of a call. -/
def Env.Unaborted (env : Env Url) : Prop :=
  ∀ panic, env.fault ≠ some (.panicked panic)

namespace Handler

variable {allow : Env Url → Prop} {db : Db} {β : Type}

theorem panicOf_mapError {α ε : Type} {wrap : ε → Error}
    (noPanic : ∀ error panic, wrap error ≠ .panicked panic) (outcome : Except ε α) :
    panicOf (outcome.mapError wrap) = none := by
  cases outcome with
  | ok value => rfl
  | error error =>
      show panicOf (.error (wrap error) : Except Error α) = none
      unfold panicOf
      split
      next panic same => exact absurd (Except.error.inj same) (noPanic error panic)
      next => rfl

theorem panicOf_perform (env : Env Url) (op : Operation Url) (db : Db) :
    panicOf (Operation.perform env op db).1 = none := by
  cases op <;> first
    | rfl
    | exact panicOf_mapError (fun _ _ impossible => by cases impossible) _

/-- An operation that is not aborted does not panic. -/
theorem panicOf_exec {env : Env Url} (unaborted : env.Unaborted) (op : Operation Url) (db : Db) :
    panicOf (Operation.exec env op db).1 = none := by
  cases failed : Operation.failure env op with
  | none =>
      rw [Operation.exec_of_success failed]
      exact panicOf_perform env op db
  | some error =>
      rw [Operation.exec_of_failure failed]
      unfold panicOf
      split
      next panic same =>
        obtain rfl := Except.error.inj same
        unfold Operation.failure at failed
        split at failed
        · cases failed
        · rcases Option.or_eq_some_iff.mp failed with aborted | ⟨-, refused⟩
          · exact absurd aborted (unaborted panic)
          · split at refused <;> cases refused
      next => rfl

/-- A query whose outcome is caught, and what follows it. -/
theorem ensures_caught_query_then {post : Except Error β → Db → Prop} {op : Operation Url}
    {rest : Except Error op.Result → Handler Url β}
    (unaborted : ∀ env, allow env → env.Unaborted)
    (next : ∀ env, allow env →
      Program.Ensures Operation.exec allow post (rest (Operation.exec env op db).1)
        (Operation.exec env op db).2) :
    Program.Ensures Operation.exec allow post (caught (query op) >>= rest) db := by
  rw [ensures_caught_then, Program.ensures_perform]
  intro env allowed
  unfold surviving
  rw [panicOf_exec (unaborted env allowed)]
  exact next env allowed

/-- A query whose outcome is thrown away, and what follows it. -/
theorem ensures_discarded_query_then {post : Except Error β → Db → Prop} {op : Operation Url}
    {rest : Unit → Handler Url β}
    (unaborted : ∀ env, allow env → env.Unaborted)
    (next : ∀ env, allow env →
      Program.Ensures Operation.exec allow post (rest ()) (Operation.exec env op db).2) :
    Program.Ensures Operation.exec allow post (discarded (query op) >>= rest) db := by
  unfold discarded
  rw [Program.bind_assoc]
  exact ensures_caught_query_then unaborted next

end Handler

/-- A new activity id is made without an effect, if its URL can be made. -/
theorem ensures_newActivityId_then [UrlCrate Url] {allow : Env Url → Prop} {db : Db} {β : Type}
    {post : Except Error β → Db → Prop} {baseUrl : String} {rest : String → Handler Url β}
    (made : ∀ id, Program.Ensures Operation.exec allow post (rest id) db)
    (failed : ∀ error, post (.error error) db) :
    Program.Ensures Operation.exec allow post (newActivityId baseUrl >>= rest) db := by
  unfold newActivityId
  rw [Program.bind_assoc]
  refine Handler.ensures_query_then (fun env error _ _ => failed error) fun env _ _ => ?_
  show Program.Ensures _ _ _ (_ >>= rest) db
  split
  next url _ => exact made (asStr url)
  next => exact failed _

/-! ## Calls -/

/-- What a user wants of another actor. -/
inductive Wish
  | follow
  | unfollow
deriving DecidableEq

/-- The edge that is wanted. -/
def Wish.edge : Wish → Option FollowState
  | .follow => some .accepted
  | .unfollow => none

inductive FollowCall
  | follow (request : FollowRequest)
  | unfollow (targetId : Nat)

namespace FollowCall

def wish : FollowCall → Wish
  | .follow _ => .follow
  | .unfollow _ => .unfollow

variable [UrlCrate Url]

def handler (data : FederationData) (auth : ActorRow) : FollowCall → Handler Url Response
  | .follow request => apiFollow data auth request
  | .unfollow targetId => apiUnfollow data auth targetId

end FollowCall

/-- A call of a logged-in user, and what the world answers to its operations. -/
structure UserCall (Url : Type) where
  auth : ActorRow
  call : FollowCall
  envs : Nat → Env Url

/-- The call was answered with a status of success. -/
def succeeded : Except Error Response → Bool
  | .ok (.problem _ _) | .error _ => false
  | .ok _ => true

/-- Write down a value for a pair, if a call for it succeeded. -/
def recorded {α : Type} (success : Bool) (pair : Option (Nat × Nat)) (value : α)
    (table : Nat × Nat → α) : Nat × Nat → α :=
  match success, pair with
  | true, some pair => Function.update table pair value
  | _, _ => table

section Targets

variable [UrlCrate Url]

variable (Url) in
/-- The actor that a request is about. -/
def FollowRequest.target? (db : Db) (request : FollowRequest) : Option Nat :=
  match request.targetActorId with
  | some targetId => some targetId
  | none => do
      let actorUri ← request.actorUri
      let url ← (parse actorUri : Option Url)
      let target ← db.localActorByUsername (lastSegment (path url))
      pure target.id

/-- The pair of actors that a call is about. -/
def UserCall.pair? (db : Db) (call : UserCall Url) : Option (Nat × Nat) :=
  match call.call with
  | .follow request => (request.target? Url db).map fun targetId => (call.auth.id, targetId)
  | .unfollow targetId => some (call.auth.id, targetId)

/-- The answer to a call, and the state after it. -/
def UserCall.answer (data : FederationData) (db : Db) (call : UserCall Url) :
    Except Error Response × Db :=
  (call.call.handler data call.auth).run Operation.exec call.envs db

end Targets

/-- A server, and what the last successful call for each pair of actors wanted. -/
structure Followed where
  db : Db
  last : Nat × Nat → Option Wish

namespace Followed

def begin (db : Db) : Followed where
  db := db
  last _ := none

/-- One more call. -/
def take [UrlCrate Url] (data : FederationData) (state : Followed) (call : UserCall Url) :
    Followed where
  db := (call.answer data state.db).2
  last := recorded (succeeded (call.answer data state.db).1) (call.pair? state.db)
    (some call.call.wish) state.last

/-- Every edge is as the last successful call for its pair wanted it, or as it was when there
was none, and no delivery was queued. -/
structure AsCalled (start : Db) (state : Followed) : Prop where
  edges : ∀ pair, state.db.edges pair = (state.last pair).elim (start.edges pair) Wish.edge
  deliveries : state.db.deliveries = start.deliveries

end Followed

/-! ## What a call does -/

@[simp] theorem recorded_false {α : Type} (pair : Option (Nat × Nat)) (value : α)
    (table : Nat × Nat → α) : recorded false pair value table = table := rfl

@[simp] theorem recorded_true {α : Type} (pair : Nat × Nat) (value : α)
    (table : Nat × Nat → α) :
    recorded true (some pair) value table = Function.update table pair value := rfl

/-- A successful call makes the edge of its pair what is wanted; nothing is delivered. -/
structure Effect (db : Db) (pair : Option (Nat × Nat)) (wish : Wish)
    (outcome : Except Error Response) (final : Db) : Prop where
  actors : final.actors = db.actors
  deliveries : final.deliveries = db.deliveries
  edges : final.edges = recorded (succeeded outcome) pair wish.edge db.edges

/-- A call that fails at once has no effect. -/
theorem Effect.refused {outcome : Except Error Response} (fails : succeeded outcome = false)
    (db : Db) (pair : Option (Nat × Nat)) (wish : Wish) : Effect db pair wish outcome db := by
  refine ⟨rfl, rfl, ?_⟩
  rw [fails, recorded_false]

/-- A successful call keeps its effect while the log is written. -/
theorem Effect.logged {db final : Db} {pair : Option (Nat × Nat)} {wish : Wish}
    {outcome : Except Error Response} (effect : Effect db pair wish outcome final)
    (env : Env Url) (new : NewActivity) :
    Effect db pair wish outcome (Operation.exec env (.createOutbound new) final).2 := by
  constructor
  · rw [← effect.actors]
    exact Operation.exec_frame .actors (by simp [Operation.writes]) env final
  · rw [← effect.deliveries]
    exact Db.deliveries_of_sameTable
      (Operation.exec_frame .jobs (by simp [Operation.writes]) env final)
  · rw [← effect.edges]
    exact Db.edges_of_sameTable
      (Operation.exec_frame .follows (by simp [Operation.writes]) env final)

/-- An upsert that fails changes nothing. -/
theorem Follows.upsert_error {followerId targetId : Nat} {activityId : Option String}
    {state : FollowState} {table : FollowTable} {error : DbError}
    (failed : (Follows.upsert followerId targetId activityId state table).1 = .error error) :
    (Follows.upsert followerId targetId activityId state table).2 = table := by
  unfold Follows.upsert at failed ⊢
  cases found : table.find? (FollowRow.ofPair followerId targetId) with
  | some existing =>
      rw [found] at failed
      cases failed
  | none =>
      cases inserted : table.insert? ⟨followerId, targetId, activityId, state⟩ with
      | none => rfl
      | some grown =>
          rw [found, inserted] at failed
          cases failed

/-- An upsert of an accepted follow fails without an effect, or has the effect of a call. -/
theorem upsertFollow_cases (env : Env Url) (db : Db) (followerId targetId : Nat)
    (activityId : Option String) :
    (∃ error, Operation.exec env (.upsertFollow followerId targetId activityId .accepted) db =
        (.error error, db)) ∨
      ∃ row final, Operation.exec env (.upsertFollow followerId targetId activityId .accepted) db =
          (.ok row, final) ∧
        ∀ response, succeeded (.ok response) = true →
          Effect db (some (followerId, targetId)) .follow (.ok response) final := by
  rcases Operation.exec_cases env (.upsertFollow followerId targetId activityId .accepted) db with
    ⟨error, failed⟩ | performed
  · exact .inl ⟨error, failed⟩
  · rw [performed]
    cases upserted : (Follows.upsert followerId targetId activityId .accepted db.follows).1 with
    | error error =>
        refine .inl ⟨.db error, Prod.ext ?_ ?_⟩
        · exact congrArg (Except.mapError Error.db) upserted
        · exact congrArg (fun follows => { db with follows := follows })
            (Follows.upsert_error upserted)
    | ok row =>
        refine .inr ⟨row, _, Prod.ext (congrArg (Except.mapError Error.db) upserted) rfl,
          fun response success => ⟨rfl, rfl, ?_⟩⟩
        rw [success, recorded_true]
        exact Db.edges_upsert upserted

/-- A lookup fails, or answers from the state. -/
theorem Operation.lookup_cases {env : Env Url} {op : Operation Url} {db : Db}
    {answer : op.Result} (answers : Operation.perform env op db = (.ok answer, db)) :
    (∃ error, Operation.exec env op db = (.error error, db)) ∨
      Operation.exec env op db = (.ok answer, db) := by
  rw [← answers]
  exact Operation.exec_cases env op db

/-- An operation that sends no text is performed, unless the environment makes it fail. -/
theorem Operation.exec_of_noTexts {env : Env Url} {op : Operation Url}
    (answers : env.fault = none) (noTexts : op.texts = []) (noDocuments : op.documents = [])
    (db : Db) : Operation.exec env op db = Operation.perform env op db := by
  refine Operation.exec_of_success ?_ db
  rw [Operation.failure, answers, Operation.storable, noTexts, noDocuments]
  simp

/-- A job is always queued, as nothing clashes with it. -/
theorem Jobs.create_spec (kind : JobKind) (payload : Value) (now : DateTime) (table : JobTable) :
    (Jobs.create kind payload now table).1 =
        .ok (Jobs.queued kind payload now (SerialTable.next table)) ∧
      (Jobs.create kind payload now table).2.rows =
        table.rows ++ [Jobs.queued kind payload now (SerialTable.next table)] := by
  obtain ⟨created, rows⟩ := @SerialTable.insert_of_free _ _ _ _ table
    (Jobs.queued kind payload now) (fun _ => rfl) fun _ _ clash => clash
  exact ⟨congrArg inserted created, rows⟩

/-- A job that delivers something is one more delivery. -/
theorem Db.deliveries_create (db : Db) (payload : Value) (now : DateTime) :
    (db.onJobs (Jobs.create .deliver payload now)).2.deliveries ≠ db.deliveries := by
  intro same
  have lengths := congrArg List.length same
  rw [Db.deliveries, show (db.onJobs (Jobs.create .deliver payload now)).2.jobs.rows = _ from
    (Jobs.create_spec .deliver payload now db.jobs).2, List.filter_append,
    List.length_append] at lengths
  exact absurd lengths (Nat.ne_of_gt (Nat.lt_add_of_pos_right Nat.one_pos))

section Calls

variable [UrlCrate Url] {allow : Env Url → Prop} {db : Db} {data : FederationData}
  {auth target : ActorRow}

/-- A follow of a local actor is recorded. -/
theorem ensures_recordFollow (unaborted : ∀ env, allow env → env.Unaborted) (status : Nat)
    (logged : Bool) (deliverError : String) :
    Program.Ensures Operation.exec allow (Effect db (some (auth.id, target.id)) .follow)
      (recordFollow data auth target status .accepted logged deliverError
        (fun _ => pure ()) : Handler Url Response) db := by
  unfold recordFollow
  refine ensures_newActivityId_then (fun followId => ?_) fun error => .refused rfl db _ _
  refine Handler.ensures_caught_query_then unaborted fun env allowed => ?_
  rcases upsertFollow_cases env db auth.id target.id (some followId) with
    ⟨error, failed⟩ | ⟨row, final, upserted, effect⟩
  · rw [failed]
    exact .refused rfl db _ _
  · rw [upserted]
    have followed := effect (.follow status target.apId target.id .accepted followId) rfl
    cases logged with
    | false => exact followed
    | true => exact Handler.ensures_discarded_query_then unaborted fun env _ =>
        followed.logged env _

theorem ensures_followById (unaborted : ∀ env, allow env → env.Unaborted) {targetId : Nat}
    (isLocal : ∀ target, db.actorById targetId = some target → target.domain = none) :
    Program.Ensures Operation.exec allow (Effect db (some (auth.id, targetId)) .follow)
      (followById data auth targetId : Handler Url Response) db := by
  unfold followById
  split
  next => exact .refused rfl db _ _
  next =>
    refine Handler.ensures_caught_query_then unaborted fun env _ => ?_
    rcases @Operation.lookup_cases _ env (.fetchActorById targetId) db _ rfl with
      ⟨error, failed⟩ | performed
    · rw [failed]
      exact .refused rfl db _ _
    · rw [performed]
      cases found : db.actorById targetId with
      | none => exact .refused rfl db _ _
      | some target =>
          obtain ⟨-, rfl⟩ := Db.actorById_eq_some.mp found
          dsimp only
          rw [if_pos (isLocal target found)]
          exact ensures_recordFollow unaborted 200 false "database error"

/-- A URL of the instance names the actor whose name is its last segment. -/
theorem ensures_followByUri (unaborted : ∀ env, allow env → env.Unaborted) {actorUri : String}
    (recognised : ∀ url : Url, parse actorUri = some url → isLocalUrl url data.domain = true) :
    Program.Ensures Operation.exec allow
      (Effect db ((FollowRequest.target? Url db ⟨some actorUri, none⟩).map fun targetId =>
        (auth.id, targetId)) .follow)
      (followByUri data auth actorUri : Handler Url Response) db := by
  unfold followByUri
  cases parsed : (parse actorUri : Option Url) with
  | none => exact .refused rfl db _ _
  | some url =>
      have isLocal := recognised url parsed
      have named : FollowRequest.target? Url db ⟨some actorUri, none⟩ =
          (db.localActorByUsername (lastSegment (path url))).map ActorRow.id := by
        simp [FollowRequest.target?, parsed, Option.map_eq_bind]
      rw [named]
      dsimp only
      split
      next => exact .refused rfl db _ _
      next =>
        unfold followTarget
        simp only [isLocal, if_true]
        rw [Program.bind_assoc]
        refine Handler.ensures_caught_query_then unaborted fun env _ => ?_
        rcases @Operation.lookup_cases _ env
            (.fetchActorByUsernameLocal (lastSegment (path url))) db _ rfl with
          ⟨error, failed⟩ | performed
        · rw [failed]
          exact .refused rfl db _ _
        · rw [performed]
          cases db.localActorByUsername (lastSegment (path url)) with
          | none => exact .refused rfl db _ _
          | some target =>
              rw [Option.map_some, Option.map_some]
              show Program.Ensures _ _ _ (if target.id = auth.id then _ else _) db
              split
              next => exact .refused rfl db _ _
              next => exact ensures_recordFollow unaborted 202 true "job error"

/-- An unfollow that finds no edge is refused. -/
theorem ensures_apiUnfollow_of_unnamed (unaborted : ∀ env, allow env → env.Unaborted)
    {targetId : Nat}
    (unnamed : ∀ row, db.followByPair auth.id targetId = some row → row.apActivityId = none) :
    Program.Ensures Operation.exec allow (Effect db (some (auth.id, targetId)) .unfollow)
      (apiUnfollow data auth targetId : Handler Url Response) db := by
  unfold apiUnfollow
  refine Handler.ensures_caught_query_then unaborted fun env _ => ?_
  rcases @Operation.lookup_cases _ env (.fetchFollowByPair auth.id targetId) db _ rfl with
    ⟨error, failed⟩ | performed
  · rw [failed]
    exact .refused rfl db _ _
  · rw [performed]
    cases found : db.followByPair auth.id targetId with
    | none => exact .refused rfl db _ _
    | some row =>
        dsimp only
        rw [unnamed row found]
        exact .refused rfl db _ _

omit [UrlCrate Url] in
/-- A delivery to an inbox is queued, or fails without an effect. -/
theorem ensures_caught_enqueueDelivery_then {β : Type} {post : Except Error β → Db → Prop}
    {actorId : Nat} {inboxUrl : String} {activity : Value}
    {rest : Except Error Unit → Handler Url β}
    (failed : ∀ error, Program.Ensures Operation.exec allow post (rest (.error error)) db)
    (aborted : ∀ panic, post (.error (.panicked panic)) db)
    (queued : ∀ final, final.deliveries ≠ db.deliveries →
      Program.Ensures Operation.exec allow post (rest (.ok ())) final) :
    Program.Ensures Operation.exec allow post
      (Handler.caught (enqueueDelivery actorId inboxUrl activity) >>= rest) db := by
  rw [Handler.ensures_caught_then, enqueueDelivery, Program.ensures_bind, Program.ensures_perform]
  intro env _
  rcases Operation.exec_cases env (.createJob .deliver _) db with ⟨error, fails⟩ | performed
  · rw [fails]
    exact Handler.surviving_of aborted (failed error)
  · rw [performed]
    unfold Operation.perform Operation.checked
    dsimp only [Db.onJobs]
    rw [(Jobs.create_spec _ _ _ _).1]
    exact queued _ (db.deliveries_create _ env.now)

/-- In a world without faults, an unfollow that finds its edge queues a delivery, or fails when
it has removed the edge. -/
theorem ensures_apiUnfollow_of_named {targetId : Nat} {row : FollowRow} {followId : String}
    (found : db.followByPair auth.id targetId = some row)
    (named : row.apActivityId = some followId)
    (stored : db.actorById targetId = some target) :
    Program.Ensures Operation.exec (fun env => env.fault = none)
      (fun outcome final => final.deliveries ≠ db.deliveries ∨
        succeeded outcome = false ∧ final.edges (auth.id, targetId) = none)
      (apiUnfollow data auth targetId : Handler Url Response) db := by
  have unaborted (env : Env Url) (answers : env.fault = none) : env.Unaborted := by
    intro panic aborted
    rw [answers] at aborted
    cases aborted
  unfold apiUnfollow
  refine Handler.ensures_caught_query_then unaborted fun env answers => ?_
  have isFound : Operation.exec env (.fetchFollowByPair auth.id targetId) db =
      (.ok (some row), db) := by
    rw [Operation.exec_of_noTexts answers rfl rfl, ← found]
    rfl
  rw [isFound]
  dsimp only
  rw [named]
  refine Handler.ensures_discarded_query_then unaborted fun env answers => ?_
  have isDeleted : (Operation.exec env (.deleteFollow auth.id targetId) db).2 =
      (db.onFollows (Follows.delete auth.id targetId)).2 := by
    rw [Operation.exec_of_noTexts answers rfl rfl]
    rfl
  rw [isDeleted]
  -- The edge is gone, and what follows can only fail or queue the delivery.
  have removed := congrFun (db.edges_delete auth.id targetId) (auth.id, targetId)
  rw [Function.update_self] at removed
  refine ensures_newActivityId_then (fun undoId => ?_) fun error => .inr ⟨rfl, removed⟩
  refine Handler.ensures_discarded_query_then unaborted fun env _ => ?_
  have effect : Effect (db.onFollows (Follows.delete auth.id targetId)).2 none .unfollow
      (.ok .noContent) (db.onFollows (Follows.delete auth.id targetId)).2 := ⟨rfl, rfl, rfl⟩
  obtain ⟨actors, deliveries, edges⟩ := effect.logged env ⟨undoId, auth.apId, some followId,
    undoActivity undoId auth.apId followId⟩
  generalize (Operation.exec env (.createOutbound _)
    (db.onFollows (Follows.delete auth.id targetId)).2).2 = noted at actors deliveries edges ⊢
  refine Handler.ensures_caught_query_then unaborted fun env answers => ?_
  have isStored : Operation.exec env (.fetchActorById targetId) noted =
      (.ok (some target), noted) := by
    rw [Operation.exec_of_noTexts answers rfl rfl, ← stored]
    show (Except.ok (noted.actors.find? _), noted) = (Except.ok (db.actors.find? _), noted)
    rw [actors]
    rfl
  rw [isStored]
  have gone : noted.edges (auth.id, targetId) = none := by rw [edges]; exact removed
  refine ensures_caught_enqueueDelivery_then (fun error => .inr ⟨rfl, gone⟩)
    (fun panic => .inr ⟨rfl, gone⟩) fun final queued => .inl ?_
  rw [deliveries] at queued
  exact queued

end Calls

/-! ## Runs -/

/-- The actor that is named by its id. -/
def FollowCall.targetId? : FollowCall → Option Nat
  | .follow request => request.targetActorId
  | .unfollow targetId => some targetId

/-- The id is that of a local actor. -/
def Db.HasLocal (db : Db) (id : Nat) : Prop :=
  ∃ actor, db.actorById id = some actor ∧ actor.domain = none

namespace UserCall

/-- The user and an actor that is named by its id are local. -/
structure IsLocal (db : Db) (call : UserCall Url) : Prop where
  auth : db.HasLocal call.auth.id
  target : ∀ targetId, call.call.targetId? = some targetId → db.HasLocal targetId

/-- Every operation is answered. -/
def Answered (call : UserCall Url) : Prop :=
  ∀ index, (call.envs index).fault = none

/-- The task of the call is not aborted. -/
def Unaborted (call : UserCall Url) : Prop :=
  ∀ index, (call.envs index).Unaborted

theorem Answered.unaborted {call : UserCall Url} (answered : call.Answered) :
    call.Unaborted := by
  intro index panic aborted
  rw [answered index] at aborted
  cases aborted

/-- An unfollow does not find the edge of its pair, or the edge has no activity to undo. -/
def FindsNoEdge (db : Db) (call : UserCall Url) : Prop :=
  ∀ targetId row, call.call = .unfollow targetId →
    db.followByPair call.auth.id targetId = some row → row.apActivityId = none

variable [UrlCrate Url] {data : FederationData} {db : Db} {call : UserCall Url}

/-- The URL of an actor that is to be followed is recognised as one of the instance. -/
def Recognised (data : FederationData) (call : UserCall Url) : Prop :=
  ∀ request actorUri, call.call = .follow request → request.targetActorId = none →
    request.actorUri = some actorUri →
      ∀ url : Url, parse actorUri = some url → isLocalUrl url data.domain = true

theorem effect_answer (unaborted : call.Unaborted) (isLocal : call.IsLocal db)
    (recognised : call.Recognised data) (findsNoEdge : call.FindsNoEdge db) :
    Effect db (call.pair? db) call.call.wish (call.answer data db).1
      (call.answer data db).2 := by
  obtain ⟨auth, request, envs⟩ := call
  refine Program.Ensures.run ?_ envs unaborted
  cases request with
  | unfollow targetId =>
      exact ensures_apiUnfollow_of_unnamed (fun _ => id) fun row => findsNoEdge targetId row rfl
  | follow request =>
      obtain ⟨actorUri, targetActorId⟩ := request
      cases targetActorId with
      | some targetId =>
          refine ensures_followById (fun _ => id) fun target found => ?_
          obtain ⟨actor, stored, noDomain⟩ := isLocal.target targetId rfl
          rw [found] at stored
          rwa [Option.some.inj stored]
      | none =>
          cases actorUri with
          | none => exact .refused rfl db _ _
          | some actorUri =>
              exact ensures_followByUri (fun _ => id) (recognised _ actorUri rfl rfl rfl)

end UserCall

theorem recorded_elim {α β : Type} (success : Bool) (pair : Option (Nat × Nat)) (value : α)
    (initial : Nat × Nat → β) (read : α → β) (table : Nat × Nat → Option α) :
    recorded success pair (read value) (fun pair => (table pair).elim (initial pair) read) =
      fun other => (recorded success pair (some value) table other).elim (initial other) read := by
  cases success with
  | false => rfl
  | true =>
      cases pair with
      | none => rfl
      | some pair =>
          funext other
          rw [recorded_true, recorded_true]
          by_cases same : other = pair
          · subst same
            rw [Function.update_self, Function.update_self]
            rfl
          · rw [Function.update_of_ne same, Function.update_of_ne same]

namespace Followed

variable [UrlCrate Url] {data : FederationData} {start : Db} {state : Followed}
  {call : UserCall Url}

theorem asCalled_begin (db : Db) : (begin db).AsCalled db :=
  ⟨fun _ => rfl, rfl⟩

/-- The effect of a call is that of its wish. -/
theorem AsCalled.take (asCalled : state.AsCalled start)
    (effect : Effect state.db (call.pair? state.db) call.call.wish
      (call.answer data state.db).1 (call.answer data state.db).2) :
    (state.take data call).AsCalled start := by
  refine ⟨fun pair => ?_, effect.deliveries.trans asCalled.deliveries⟩
  have before : state.db.edges =
      fun pair => (state.last pair).elim (start.edges pair) Wish.edge :=
    funext asCalled.edges
  have after := congrFun effect.edges pair
  rw [before, recorded_elim] at after
  exact after

/-- An unfollow that finds its edge breaks the agreement. -/
theorem AsCalled.findsNoEdge (asCalled : state.AsCalled start) (answered : call.Answered)
    (isLocal : call.IsLocal state.db) (agrees : (state.take data call).AsCalled start) :
    call.FindsNoEdge state.db := by
  obtain ⟨auth, request, envs⟩ := call
  rintro targetId row rfl found
  cases named : row.apActivityId with
  | none => rfl
  | some followId =>
      obtain ⟨target, stored, -⟩ := isLocal.target targetId rfl
      rcases (@ensures_apiUnfollow_of_named _ _ _ data _ _ _ _ _ found named stored).run envs
        answered with delivered | ⟨failed, removed⟩
      · exact absurd (agrees.deliveries.trans asCalled.deliveries.symm) delivered
      · have sameLast : (state.take data ⟨auth, .unfollow targetId, envs⟩).last = state.last :=
          congrArg (fun success => recorded success _ _ _) failed
        have kept := agrees.edges (auth.id, targetId)
        rw [sameLast, ← asCalled.edges] at kept
        have stands : state.db.edges (auth.id, targetId) = some row.state :=
          congrArg (Option.map FollowRow.state) found
        rw [stands] at kept
        exact absurd (kept.symm.trans removed) (by simp)

/-- The actors are still stored, and the edges are as called. -/
structure Between (start : Db) (state : Followed) : Prop where
  actors : state.db.actors = start.actors
  asCalled : state.AsCalled start

end Followed

theorem UserCall.IsLocal.of_actors {start db : Db} {call : UserCall Url}
    (isLocal : call.IsLocal start) (same : db.actors = start.actors) : call.IsLocal db := by
  have kept (id : Nat) (hasLocal : start.HasLocal id) : db.HasLocal id := by
    unfold Db.HasLocal Db.actorById at hasLocal ⊢
    rwa [same]
  exact ⟨kept _ isLocal.auth, fun targetId named => kept _ (isLocal.target targetId named)⟩

section Main

variable [UrlCrate Url] {data : FederationData} {start : Db} {calls : List (UserCall Url)}
  {call : UserCall Url} {state : Followed}

/-- The URL of a call is recognised, and an unfollow finds no edge. -/
def UserCall.Quiet (data : FederationData) (db : Db) (call : UserCall Url) : Prop :=
  call.Recognised data ∧ call.FindsNoEdge db

/-- The step lemma of the quiet calls. -/
theorem Followed.Between.take (between : state.Between start)
    (admitted : call.IsLocal start ∧ call.Unaborted) (quiet : call.Quiet data state.db) :
    (state.take data call).Between start := by
  have effect := UserCall.effect_answer admitted.2 (admitted.1.of_actors between.actors)
    quiet.1 quiet.2
  exact ⟨effect.actors.trans between.actors, between.asCalled.take effect⟩

/-- After each call of a run, no delivery was queued and every edge is as the last successful
call for its pair wanted it, if the URLs of actors are recognised and no unfollow finds an
edge. Without faults, no unfollow may find one. -/
theorem local_follows_iff
    (admitted : ∀ call ∈ calls, call.IsLocal start ∧ call.Unaborted) :
    (Runs.EachStep (Followed.take data) (fun state call => call.Quiet data state.db)
        (.begin start) calls →
      Runs.EachStep (Followed.take data)
        (fun state call => (state.take data call).AsCalled start) (.begin start) calls) ∧
    ((∀ call ∈ calls, call.Recognised data ∧ call.Answered) →
      Runs.EachStep (Followed.take data)
        (fun state call => (state.take data call).AsCalled start) (.begin start) calls →
      Runs.EachStep (Followed.take data) (fun state call => call.Quiet data state.db)
        (.begin start) calls) := by
  have initially : (Followed.begin start).Between start := ⟨rfl, Followed.asCalled_begin start⟩
  constructor
  · intro quiet
    refine Runs.EachStep.of_invariant (fun state call between admitted => ?_)
      (fun state call between admitted => ?_) initially (quiet.and_of_mem admitted)
    · exact between.take admitted.1 admitted.2
    · exact (between.take admitted.1 admitted.2).asCalled
  · intro known agrees
    have quietly (state : Followed) (call : UserCall Url) (between : state.Between start)
        (step : ((call.IsLocal start ∧ call.Unaborted) ∧ call.Recognised data ∧ call.Answered) ∧
          (state.take data call).AsCalled start) : call.Quiet data state.db :=
      ⟨step.1.2.1, between.asCalled.findsNoEdge step.1.2.2
        (step.1.1.1.of_actors between.actors) step.2⟩
    refine Runs.EachStep.of_invariant (fun state call between step => ?_) quietly initially
      (agrees.and_of_mem fun call member => ⟨admitted call member, known call member⟩)
    exact between.take step.1.1 (quietly state call between step)

end Main

namespace Sample

/-- A server with two local actors. -/
def neighbours : Db :=
  { Db.empty with actors := (readerFollows .accepted).actors }

/-- What the reader asks for. -/
def asks (call : FollowCall) : UserCall NormalUrl :=
  ⟨reader, call, fun _ => .offline⟩

/-- The reader follows the author, and again by the URL of the author. -/
def readerFollowing : List (UserCall NormalUrl) :=
  [asks (.follow ⟨none, some 1⟩), asks (.follow ⟨some "https://a/users/a", none⟩)]

theorem isLocal_asks {call : FollowCall}
    (names : ∀ targetId, call.targetId? = some targetId → targetId = 1) :
    (asks call).IsLocal neighbours ∧ (asks call).Unaborted := by
  refine ⟨⟨⟨reader, rfl, rfl⟩, fun targetId named => ?_⟩, fun _ _ aborted => by cases aborted⟩
  rw [names targetId named]
  exact ⟨uploader, rfl, rfl⟩

theorem parse_author : (NormalUrl.parse "https://a/users/a").isSome = true := by
  decide

theorem author_isLocal (url : NormalUrl) (parsed : parse "https://a/users/a" = some url) :
    isLocalUrl url "a" = true := by
  have same : url = NormalUrl.ofText "https://a/users/a" parse_author :=
    Option.some.inj (parsed.symm.trans (Option.some_get parse_author).symm)
  rw [same]
  decide

open Followed in
/-- A follow by id and one by URL stay on the instance. -/
theorem neighbours_follow :
    Runs.EachStep (take config.federationData)
      (fun state call => (state.take config.federationData call).AsCalled neighbours)
      (begin neighbours) readerFollowing := by
  refine (local_follows_iff fun call member => ?_).1 ⟨⟨?_, nofun⟩, ⟨?_, nofun⟩, trivial⟩
  · simp only [readerFollowing, List.mem_cons, List.not_mem_nil, or_false] at member
    rcases member with rfl | rfl
    · exact isLocal_asks fun targetId named => (Option.some.inj named).symm
    · exact isLocal_asks nofun
  · intro request actorUri asked noId
    cases asked
    cases noId
  · intro request actorUri asked _ isUri url parsed
    cases asked
    obtain rfl := Option.some.inj isUri
    exact author_isLocal url parsed

open Followed in
/-- An unfollow is delivered to the instance itself. -/
theorem neighbours_unfollow :
    ¬Runs.EachStep (take config.federationData)
      (fun state call => (state.take config.federationData call).AsCalled neighbours)
      (begin neighbours) [asks (.follow ⟨none, some 1⟩), asks (.unfollow 1)] := by
  intro agrees
  have undelivered := congrArg List.length agrees.2.1.deliveries
  exact absurd undelivered (by decide +kernel)

end Sample
end TootTok
