import TootTok.Background

/-!
# Collections of an actor

The followers and the following of a local actor as other servers read them. Each of both
collections comes from a query of its own on the same edges.
-/

namespace TootTok

open Effects
open Json (Value)
open UrlCrate

/-! ## The queries -/

namespace Follows

/-- `Follow::follower_actor_ids` -/
def followerActorIds (targetId : Nat) (table : FollowTable) : List Nat :=
  (table.rows.filter fun row => row.targetActorId = targetId ∧ row.state = .accepted).map
    FollowRow.followerActorId

/-- `Follow::following_actor_ids` -/
def followingActorIds (followerId : Nat) (table : FollowTable) : List Nat :=
  (table.rows.filter fun row => row.followerActorId = followerId).map FollowRow.targetActorId

end Follows

/-- Which end of its edges an actor is. -/
inductive Side
  | followers
  | following
deriving DecidableEq

def Side.actorIds : Side → Nat → FollowTable → List Nat
  | .followers => Follows.followerActorIds
  | .following => Follows.followingActorIds

inductive CollectionOp (Url : Type)
  | base (op : Operation Url)
  | actorIds (side : Side) (actorId : Nat)

namespace CollectionOp

variable {Url : Type}

/-- What an operation returns when it succeeds. -/
@[reducible] def Result : CollectionOp Url → Type
  | .base op => op.Result
  | .actorIds _ _ => List Nat

/-- A failed operation has no effect, nor has a query. -/
def exec : Program.Executor (@Result Url) Error Db (Env Url) :=
  fun env op db =>
    match op with
    | .base op => Operation.exec env op db
    | .actorIds side actorId =>
        match env.fault with
        | some error => (.error error, db)
        | none => (.ok (side.actorIds actorId db.follows), db)

end CollectionOp

/-! ## The handler -/

/-- A handler that serves a collection. -/
abbrev Collecting (Url α : Type) : Type :=
  Program (@CollectionOp.Result Url) Error α

variable {Url : Type}

/-- Call an operation and go on with its outcome, whatever it is. -/
def Collecting.tried (op : CollectionOp Url) : Collecting Url (Except Error op.Result) :=
  .call op .done

open Collecting (tried)

/-- `ap_id_list`: the actors that can be fetched. -/
def apIdList : List Nat → Collecting Url (List Value)
  | [] => pure []
  | id :: ids => do
      let found ← tried (.base (.fetchActorById id))
      let out ← apIdList ids
      match found with
      | .ok (some actor) => pure (.string actor.apId :: out)
      | _ => pure out

/-- The actors on one side of the edges of an actor; none when the query fails. -/
def sideItems (side : Side) (actorId : Nat) : Collecting Url (List Value) := do
  match ← tried (.actorIds side actorId) with
  | .ok ids => apIdList ids
  | .error _ => pure []

/-- The items of a collection, if there is such a one. -/
def collectionItems (actorId : Nat) : String → Option (Collecting Url (List Value))
  | "followers" => some (sideItems .followers actorId)
  | "following" => some (sideItems .following actorId)
  | "outbox" => some (pure [])
  | _ => none

variable [UrlCrate Url]

def orderedCollectionPage (id : Url) (totalItems : Nat) (items : List Value) : Value :=
  .object [
    ("@context", .string "https://www.w3.org/ns/activitystreams"),
    ("id", .string (asStr id)),
    ("type", .string "OrderedCollection"),
    ("totalItems", .number (.ofInt totalItems)),
    ("first", .object [
      ("id", .string (asStr id ++ "?page=1")),
      ("type", .string "OrderedCollectionPage"),
      ("partOf", .string (asStr id)),
      ("orderedItems", .array items)])]

/-- The page of a collection of an actor that was found by this name. -/
def actorCollection (baseUrl : String) (actor : ActorRow) (username collection : String) :
    Collecting Url (Except Response Value) :=
  match (parse (baseUrl ++ "/users/" ++ username ++ "/" ++ collection) : Option Url) with
  | none => .fail (.panicked (.expect "collection url parses"))
  | some url =>
      match collectionItems actor.id collection with
      | none => pure (.error (.problem 404 "collection"))
      | some items => do
          let items ← items
          pure (.ok (orderedCollectionPage url items.length items))

/-- `GET /users/{u}/{collection}` -/
def userCollection (baseUrl : String) (acceptsActivityJson : Bool)
    (username collection : String) : Collecting Url (Except Response Value) := do
  if acceptsActivityJson then
    match ← tried (.base (.fetchActorByUsernameLocal username)) with
    | .ok (some actor) => actorCollection baseUrl actor username collection
    | _ => pure (.error (.problem 404 "actor"))
  else pure (.error (.problem 406 "not acceptable"))

/-! ## What is served -/

/-- The items of a served page. -/
def orderedItems (document : Value) : List Value :=
  match (document.get "first").bind (Value.get "orderedItems") with
  | some (.array items) => items
  | _ => []

@[simp] theorem orderedItems_page (id : Url) (totalItems : Nat) (items : List Value) :
    orderedItems (orderedCollectionPage id totalItems items) = items := by
  simp [orderedItems, orderedCollectionPage, Value.get_object_cons]

/-- The items for the actors with these ids. -/
def itemsOf (db : Db) (ids : List Nat) : List Value :=
  ids.filterMap fun id => (db.actorById id).map fun actor => .string actor.apId

theorem itemsOf_cons_none {db : Db} {id : Nat} (missing : db.actorById id = none)
    (ids : List Nat) : itemsOf db (id :: ids) = itemsOf db ids := by
  rw [itemsOf, List.filterMap_cons_none (by rw [missing]; rfl), itemsOf]

theorem itemsOf_cons_some {db : Db} {id : Nat} {actor : ActorRow}
    (stored : db.actorById id = some actor) (ids : List Nat) :
    itemsOf db (id :: ids) = .string actor.apId :: itemsOf db ids := by
  rw [itemsOf, List.filterMap_cons_some (by rw [stored]; rfl), itemsOf]

/-- As the `ap_id` of an actor is its own, it stands for its id. -/
theorem mem_itemsOf {db : Db} {actor : ActorRow} (isActor : actor ∈ db.actors) {ids : List Nat} :
    .string actor.apId ∈ itemsOf db ids ↔ actor.id ∈ ids := by
  rw [itemsOf, List.mem_filterMap]
  constructor
  · rintro ⟨id, member, isItem⟩
    obtain ⟨other, stored, sameText⟩ := Option.map_eq_some_iff.mp isItem
    obtain ⟨isOther, rfl⟩ := Db.actorById_eq_some.mp stored
    have same := Db.actorByApId_eq_some.mpr ⟨isOther, Value.string.inj sameText⟩
    rw [Db.actorByApId_eq_some.mpr ⟨isActor, rfl⟩] at same
    rwa [Option.some.inj same]
  · intro member
    refine ⟨actor.id, member, ?_⟩
    rw [Db.actorById_eq_some.mpr ⟨isActor, rfl⟩]
    rfl

theorem localActorByUsername_of_mem {db : Db} {actor : ActorRow} (isActor : actor ∈ db.actors)
    (isLocal : actor.domain = none) : db.localActorByUsername actor.username = some actor := by
  refine Relational.SerialTable.find?_eq_some_of_mem (fun _ _ => ActorRow.Clash.symm)
    (fun left right isLeft isRight => ?_) isActor (by simp [isLocal])
  have leftNamed := of_decide_eq_true isLeft
  have rightNamed := of_decide_eq_true isRight
  exact .inr (.inr ⟨leftNamed.1, rightNamed.1, leftNamed.2.trans rightNamed.2.symm⟩)

namespace Collecting

/-- An environment in which the database answers. -/
def Answers (env : Env Url) : Prop := env.fault = none

omit [UrlCrate Url] in
theorem exec_fetchActorById {env : Env Url} (answers : Answers env) (db : Db) (id : Nat) :
    CollectionOp.exec env (.base (.fetchActorById id)) db = (.ok (db.actorById id), db) := by
  have succeeded : Operation.failure env (.fetchActorById id) = none := by
    rw [Operation.failure, answers]
    rfl
  exact Operation.exec_of_success succeeded db

omit [UrlCrate Url] in
theorem ensures_apIdList (db : Db) (ids : List Nat) :
    Program.Ensures CollectionOp.exec Answers
      (fun outcome final => outcome = .ok (itemsOf db ids) ∧ final = db)
      (apIdList ids : Collecting Url (List Value)) db := by
  induction ids with
  | nil => exact ⟨rfl, rfl⟩
  | cons id ids inductionHypothesis =>
      intro env answers
      rw [exec_fetchActorById answers]
      show Program.Ensures _ _ _ (apIdList ids >>= _) db
      rw [Program.ensures_bind]
      refine inductionHypothesis.mono fun outcome final ensured => ?_
      obtain ⟨rfl, rfl⟩ := ensured
      cases stored : final.actorById id with
      | none => exact ⟨congrArg Except.ok (itemsOf_cons_none stored ids).symm, rfl⟩
      | some actor => exact ⟨congrArg Except.ok (itemsOf_cons_some stored ids).symm, rfl⟩

omit [UrlCrate Url] in
theorem ensures_sideItems (db : Db) (side : Side) (actorId : Nat) :
    Program.Ensures CollectionOp.exec Answers
      (fun outcome _ => outcome = .ok (itemsOf db (side.actorIds actorId db.follows)))
      (sideItems side actorId : Collecting Url (List Value)) db := by
  intro env answers
  have read : CollectionOp.exec env (.actorIds side actorId) db =
      (.ok (side.actorIds actorId db.follows), db) := by
    unfold CollectionOp.exec
    dsimp only
    rw [answers]
  rw [read]
  exact (ensures_apIdList db _).mono fun _ _ ensured => ensured.1

/-- The page with the actors on this side of the edges; the handler panics without a URL. -/
def page (db : Db) (side : Side) (actorId : Nat) :
    Option Url → Except Error (Except Response Value)
  | none => .error (.panicked (.expect "collection url parses"))
  | some url =>
      let items := itemsOf db (side.actorIds actorId db.follows)
      .ok (.ok (orderedCollectionPage url items.length items))

theorem orderedItems_of_page {db : Db} {side : Side} {actorId : Nat} {url : Option Url}
    {document : Value} (isPage : page db side actorId url = .ok (.ok document)) :
    orderedItems document = itemsOf db (side.actorIds actorId db.follows) := by
  cases url with
  | none => cases isPage
  | some url =>
      obtain rfl := Except.ok.inj (Except.ok.inj isPage)
      exact orderedItems_page _ _ _

section Served

variable {db : Db} {actor : ActorRow} {baseUrl username collection : String} {side : Side}

theorem ensures_actorCollection
    (isSide : collectionItems actor.id collection =
      some (sideItems side actor.id : Collecting Url (List Value))) :
    Program.Ensures CollectionOp.exec Answers
      (fun outcome _ => outcome = page db side actor.id
        (parse (baseUrl ++ "/users/" ++ username ++ "/" ++ collection) : Option Url))
      (actorCollection baseUrl actor username collection :
        Collecting Url (Except Response Value)) db := by
  unfold actorCollection
  cases (parse (baseUrl ++ "/users/" ++ username ++ "/" ++ collection) : Option Url) with
  | none => rfl
  | some url =>
      dsimp only
      rw [isSide]
      dsimp only
      rw [Program.ensures_bind]
      refine (ensures_sideItems db side actor.id).mono fun outcome final ensured => ?_
      subst ensured
      rfl

omit [UrlCrate Url] in
/-- A local actor is found by its name, if a database can be asked for the name. -/
theorem exec_fetchLocalActor (isActor : actor ∈ db.actors) (isLocal : actor.domain = none)
    {env : Env Url} (answers : Answers env) :
    CollectionOp.exec env (.base (.fetchActorByUsernameLocal actor.username)) db =
        (.ok (some actor), db) ∨
      Json.textStorable actor.username = false ∧
        ∃ error, CollectionOp.exec env (.base (.fetchActorByUsernameLocal actor.username)) db =
          (.error error, db) := by
  have failure : Operation.failure env (.fetchActorByUsernameLocal actor.username) =
      if Operation.storable (.fetchActorByUsernameLocal actor.username : Operation Url) then none
      else some (.db .unstorable) := by
    rw [Operation.failure, answers]
    rfl
  have texts : Operation.storable (.fetchActorByUsernameLocal actor.username : Operation Url) =
      Json.textStorable actor.username := by
    simp [Operation.storable, Operation.texts, Operation.documents]
  rw [texts] at failure
  cases storable : Json.textStorable actor.username with
  | true =>
      rw [storable] at failure
      refine .inl ((Operation.exec_of_success failure db).trans ?_)
      exact congrArg (fun found => (Except.ok found, db))
        (localActorByUsername_of_mem isActor isLocal)
  | false =>
      rw [storable] at failure
      exact .inr ⟨rfl, _, Operation.exec_of_failure failure db⟩

theorem ensures_userCollection (isActor : actor ∈ db.actors) (isLocal : actor.domain = none)
    (isSide : collectionItems actor.id collection =
      some (sideItems side actor.id : Collecting Url (List Value))) :
    Program.Ensures CollectionOp.exec Answers
      (fun outcome _ =>
        outcome = page db side actor.id
            (parse (baseUrl ++ "/users/" ++ actor.username ++ "/" ++ collection) :
              Option Url) ∨
          Json.textStorable actor.username = false ∧
            outcome = .ok (.error (.problem 404 "actor")))
      (userCollection baseUrl true actor.username collection :
        Collecting Url (Except Response Value)) db := by
  unfold userCollection
  rw [if_pos rfl]
  intro env answers
  rcases exec_fetchLocalActor isActor isLocal answers with found | ⟨unstorable, error, failed⟩
  · rw [found]
    exact (ensures_actorCollection isSide).mono fun _ _ => .inl
  · rw [failed]
    exact .inr ⟨unstorable, rfl⟩

/-- A served page lists the actors on its side of the edges. -/
theorem orderedItems_of_served (isActor : actor ∈ db.actors) (isLocal : actor.domain = none)
    (isSide : collectionItems actor.id collection =
      some (sideItems side actor.id : Collecting Url (List Value)))
    {envs : Nat → Env Url} (answers : ∀ index, Answers (envs index)) {document : Value}
    (served : ((userCollection baseUrl true actor.username collection :
        Collecting Url (Except Response Value)).run CollectionOp.exec envs db).1 =
      .ok (.ok document)) :
    orderedItems document = itemsOf db (side.actorIds actor.id db.follows) := by
  rcases (ensures_userCollection isActor isLocal isSide).run envs answers with
    isPage | ⟨-, refused⟩
  · exact orderedItems_of_page (isPage.symm.trans served)
  · rw [served] at refused
    cases refused

/-- The page of an actor whose collection has a URL is served. -/
theorem served_of_parse (isActor : actor ∈ db.actors) (isLocal : actor.domain = none)
    (isSide : collectionItems actor.id collection =
      some (sideItems side actor.id : Collecting Url (List Value)))
    (storable : Json.textStorable actor.username = true) {url : Url}
    (parsed : parse (baseUrl ++ "/users/" ++ actor.username ++ "/" ++ collection) = some url)
    {envs : Nat → Env Url} (answers : ∀ index, Answers (envs index)) :
    ((userCollection baseUrl true actor.username collection :
        Collecting Url (Except Response Value)).run CollectionOp.exec envs db).1 =
      page db side actor.id (some url) := by
  rcases (ensures_userCollection isActor isLocal isSide).run envs answers with
    isPage | ⟨unstorable, -⟩
  · rw [← parsed]
    exact isPage
  · rw [storable] at unstorable
    cases unstorable

end Served

end Collecting

/-! ## The two sides of an edge -/

theorem Follows.mem_followerActorIds {targetId followerId : Nat} {table : FollowTable} :
    followerId ∈ Follows.followerActorIds targetId table ↔
      ∃ row ∈ table, row.followerActorId = followerId ∧ row.targetActorId = targetId ∧
        row.state = .accepted := by
  simp only [followerActorIds, List.mem_map, List.mem_filter, decide_eq_true_eq]
  constructor
  · rintro ⟨row, ⟨member, target, accepted⟩, follower⟩
    exact ⟨row, member, follower, target, accepted⟩
  · rintro ⟨row, member, follower, target, accepted⟩
    exact ⟨row, ⟨member, target, accepted⟩, follower⟩

theorem Follows.mem_followingActorIds {targetId followerId : Nat} {table : FollowTable} :
    targetId ∈ Follows.followingActorIds followerId table ↔
      ∃ row ∈ table, row.followerActorId = followerId ∧ row.targetActorId = targetId := by
  simp only [followingActorIds, List.mem_map, List.mem_filter, decide_eq_true_eq]
  constructor
  · rintro ⟨row, ⟨member, follower⟩, target⟩
    exact ⟨row, member, follower, target⟩
  · rintro ⟨row, member, follower, target⟩
    exact ⟨row, ⟨member, follower⟩, target⟩

/-- A pair of actors has at most one edge. -/
theorem Follows.edge_unique {table : FollowTable} {left right : FollowRow}
    (isLeft : left ∈ table) (isRight : right ∈ table)
    (sameFollower : left.followerActorId = right.followerActorId)
    (sameTarget : left.targetActorId = right.targetActorId) : left = right :=
  Relational.Table.eq_of_clash (fun _ _ clash => ⟨clash.1.symm, clash.2.symm⟩) isLeft isRight
    ⟨sameFollower, sameTarget⟩

/-- A follower is served among the followers exactly if the other is served among the
following, unless there is an edge between them that is not accepted. -/
theorem collections_converse_iff {db : Db} {baseUrl : String} {follower target : ActorRow}
    (isFollower : follower ∈ db.actors) (followerLocal : follower.domain = none)
    (isTarget : target ∈ db.actors) (targetLocal : target.domain = none)
    {envs otherEnvs : Nat → Env Url} (answers : ∀ index, (envs index).fault = none)
    (otherAnswers : ∀ index, (otherEnvs index).fault = none) {followers following : Value}
    (servedFollowers :
      ((userCollection baseUrl true target.username "followers" :
        Collecting Url (Except Response Value)).run CollectionOp.exec envs db).1 =
        .ok (.ok followers))
    (servedFollowing :
      ((userCollection baseUrl true follower.username "following" :
        Collecting Url (Except Response Value)).run CollectionOp.exec otherEnvs db).1 =
        .ok (.ok following)) :
    (.string follower.apId ∈ orderedItems followers ↔
        .string target.apId ∈ orderedItems following) ↔
      ∀ row ∈ db.follows, row.followerActorId = follower.id → row.targetActorId = target.id →
        row.state = .accepted := by
  have listsFollowers : orderedItems followers =
      itemsOf db (Side.followers.actorIds target.id db.follows) :=
    Collecting.orderedItems_of_served isTarget targetLocal rfl answers servedFollowers
  have listsFollowing : orderedItems following =
      itemsOf db (Side.following.actorIds follower.id db.follows) :=
    Collecting.orderedItems_of_served isFollower followerLocal rfl otherAnswers servedFollowing
  rw [listsFollowers, listsFollowing, mem_itemsOf isFollower, mem_itemsOf isTarget]
  show (_ ∈ Follows.followerActorIds _ _ ↔ _ ∈ Follows.followingActorIds _ _) ↔ _
  rw [Follows.mem_followerActorIds, Follows.mem_followingActorIds]
  constructor
  · intro converse row member isFrom isTo
    obtain ⟨other, isOther, sameFrom, sameTo, accepted⟩ :=
      converse.mpr ⟨row, member, isFrom, isTo⟩
    rwa [Follows.edge_unique member isOther (isFrom.trans sameFrom.symm)
      (isTo.trans sameTo.symm)]
  · intro accepted
    constructor
    · rintro ⟨row, member, isFrom, isTo, -⟩
      exact ⟨row, member, isFrom, isTo⟩
    · rintro ⟨row, member, isFrom, isTo⟩
      exact ⟨row, member, isFrom, isTo, accepted row member isFrom isTo⟩

namespace Sample

/-- Another local actor. -/
def reader : ActorRow :=
  { uploader with id := 2, username := "b", apId := "b" }

/-- A server on which the reader has followed the author, in this state. -/
def readerFollows (state : FollowState) : Db where
  __ := Db.empty
  actors := ⟨⟨[uploader, reader], by decide +kernel⟩, 3, by decide +kernel⟩
  follows := ⟨[⟨2, 1, none, state⟩], List.pairwise_singleton _ _⟩

theorem uploader_mem (state : FollowState) : uploader ∈ (readerFollows state).actors :=
  List.mem_cons_self

theorem reader_mem (state : FollowState) : reader ∈ (readerFollows state).actors :=
  List.mem_cons_of_mem _ List.mem_cons_self

theorem parse_followers : (NormalUrl.parse "https://a/users/a/followers").isSome = true := by
  decide

theorem parse_following : (NormalUrl.parse "https://a/users/b/following").isSome = true := by
  decide

theorem followers_served (state : FollowState) :
    ((userCollection "https://a" true uploader.username "followers" :
        Collecting NormalUrl (Except Response Value)).run CollectionOp.exec
        (fun _ => .offline) (readerFollows state)).1 =
      Collecting.page (readerFollows state) .followers uploader.id
        (some (NormalUrl.ofText "https://a/users/a/followers" parse_followers)) :=
  Collecting.served_of_parse (uploader_mem state) rfl rfl (by decide)
    (Option.some_get parse_followers).symm fun _ => rfl

theorem following_served (state : FollowState) :
    ((userCollection "https://a" true reader.username "following" :
        Collecting NormalUrl (Except Response Value)).run CollectionOp.exec
        (fun _ => .offline) (readerFollows state)).1 =
      Collecting.page (readerFollows state) .following reader.id
        (some (NormalUrl.ofText "https://a/users/b/following" parse_following)) :=
  Collecting.served_of_parse (reader_mem state) rfl rfl (by decide)
    (Option.some_get parse_following).symm fun _ => rfl

end Sample

open Sample in
/-- An accepted follow is on both sides. -/
theorem Sample.accepted_follow_converse :
    ∃ followers following : Value,
      ((userCollection "https://a" true uploader.username "followers" :
        Collecting NormalUrl (Except Response Value)).run CollectionOp.exec
        (fun _ => .offline) (readerFollows .accepted)).1 = .ok (.ok followers) ∧
      ((userCollection "https://a" true reader.username "following" :
        Collecting NormalUrl (Except Response Value)).run CollectionOp.exec
        (fun _ => .offline) (readerFollows .accepted)).1 = .ok (.ok following) ∧
      (.string reader.apId ∈ orderedItems followers ↔
        .string uploader.apId ∈ orderedItems following) :=
  ⟨_, _, followers_served .accepted, following_served .accepted,
    (collections_converse_iff (reader_mem .accepted) rfl (uploader_mem .accepted) rfl
      (fun _ => rfl) (fun _ => rfl) (followers_served .accepted)
      (following_served .accepted)).mpr fun _ member _ _ =>
        congrArg FollowRow.state (List.mem_singleton.mp member)⟩

open Sample in
/-- A follow that was only asked for is served among the following. -/
theorem Sample.requested_follow_served :
    ∃ followers following : Value,
      ((userCollection "https://a" true uploader.username "followers" :
        Collecting NormalUrl (Except Response Value)).run CollectionOp.exec
        (fun _ => .offline) (readerFollows .requested)).1 = .ok (.ok followers) ∧
      ((userCollection "https://a" true reader.username "following" :
        Collecting NormalUrl (Except Response Value)).run CollectionOp.exec
        (fun _ => .offline) (readerFollows .requested)).1 = .ok (.ok following) ∧
      ¬(.string reader.apId ∈ orderedItems followers ↔
        .string uploader.apId ∈ orderedItems following) := by
  refine ⟨_, _, followers_served .requested, following_served .requested, fun converse => ?_⟩
  rw [orderedItems_page, orderedItems_page, mem_itemsOf (reader_mem .requested),
    mem_itemsOf (uploader_mem .requested)] at converse
  exact absurd converse (by decide)

end TootTok
