import TootTok.Inbox
import TootTok.RemoteActors

/-!
# The follow and search API

What local users can ask for: to follow and unfollow an actor, and to search
for one. A search for a handle resolves it at its server.
-/

namespace TootTok

open Effects
open Json (Value)
open UrlCrate

variable {Url : Type} [UrlCrate Url]

/-- Answers of the API. -/
inductive Response
  | problem (status : Nat) (title : String)
  | follow
      (status : Nat) (target : String) (targetActorId : Nat) (state : FollowState)
      (activityId : String)
  | actors (found : List ActorRow)
  | noContent
deriving DecidableEq

/-! ## Follow -/

structure FollowRequest where
  actorUri : Option String
  /-- The row of a known actor, preferred when present. -/
  targetActorId : Option Nat
deriving DecidableEq

/-- A new activity id of this instance. -/
def newActivityId (baseUrl : String) : Handler Url String := do
  let uuid ← query .newUuid
  match (parse (baseUrl ++ "/activities/" ++ uuid) : Option Url) with
  | some id => pure (asStr id)
  | none => .fail (.panicked (.expect "activity id url parses"))

def ActorRow.deliveryInbox (row : ActorRow) : String :=
  row.sharedInboxUrl.getD row.inboxUrl

/-- Queue a delivery whose inbox is looked up by the worker. -/
def enqueueFollowDelivery (followerId targetId : Nat) (activity : Value) :
    Handler Url Unit := do
  let _ ← query (.createJob .deliverFollow (.object [
    ("follower_actor_id", .number (.ofInt followerId)),
    ("target_actor_id", .number (.ofInt targetId)),
    ("activity", activity)]))
  pure ()

/-- Record a follow and, when the target is remote, queue its delivery. -/
def recordFollow
    (data : FederationData) (auth target : ActorRow) (status : Nat)
    (state : FollowState) (logged : Bool) (deliverError : String)
    (deliver : Value → Handler Url Unit) : Handler Url Response := do
  let followId ← newActivityId data.baseUrl
  let activity := followActivity followId auth.apId target.apId
  match ← Handler.caught (query (.upsertFollow auth.id target.id (some followId) state)) with
  | .error _ => pure (.problem 500 "database error")
  | .ok _ => do
      if logged then
        Handler.discarded
          (query (.createOutbound ⟨followId, auth.apId, some target.apId, activity⟩))
      match ← Handler.caught (deliver activity) with
      | .error _ => pure (.problem 500 deliverError)
      | .ok _ => pure (.follow status target.apId target.id state followId)

/-- Follow a known actor. -/
def followById (data : FederationData) (auth : ActorRow) (targetId : Nat) :
    Handler Url Response := do
  if targetId = auth.id then pure (.problem 400 "cannot follow self")
  else
    match ← Handler.caught (query (.fetchActorById targetId)) with
    | .error _ => pure (.problem 500 "database error")
    | .ok none => pure (.problem 404 "actor not found")
    | .ok (some target) =>
        if target.domain = none then
          recordFollow data auth target 200 .accepted false "database error"
            fun _ => pure ()
        else
          recordFollow data auth target 200 .requested true "database error"
            (enqueueDelivery auth.id target.deliveryInbox)

/-- What follows the last slash. -/
def lastSegment (path : String) : String :=
  String.ofList ((path.toList.reverse.takeWhile (· ≠ '/')).reverse)

/-- Find the target of a follow by URL. A local target is looked up, because
fetching it would turn its row into a remote one. -/
def followTarget (domain : String) (url : Url) : Handler Url (Except Response ActorRow) := do
  if isLocalUrl url domain then
    match ← Handler.caught (query (.fetchActorByUsernameLocal (lastSegment (path url)))) with
    | .error _ => pure (.error (.problem 500 "database error"))
    | .ok none => pure (.error (.problem 400 "actor not found"))
    | .ok (some actor) => pure (.ok actor)
  else
    match ← Handler.caught (fetchRemoteActor url) with
    | .error _ => pure (.error (.problem 502 "actor fetch failed"))
    | .ok actor => pure (.ok actor)

/-- Follow the actor at a URL. -/
def followByUri (data : FederationData) (auth : ActorRow) (actorUri : String) :
    Handler Url Response := do
  match (parse actorUri : Option Url) with
  | none => pure (.problem 400 "invalid actor_uri")
  | some url =>
      if scheme url ≠ "https" ∧ scheme url ≠ "http" then
        pure (.problem 400 "invalid actor_uri")
      else
        match ← followTarget data.domain url with
        | .error response => pure response
        | .ok target =>
            if target.id = auth.id then pure (.problem 400 "cannot follow self")
            else if isLocalUrl url data.domain then
              recordFollow data auth target 202 .accepted true "job error"
                fun _ => pure ()
            else
              recordFollow data auth target 202 .requested true "job error"
                (enqueueFollowDelivery auth.id target.id)

/-- `POST /api/v1/follows`. -/
def apiFollow (data : FederationData) (auth : ActorRow) (request : FollowRequest) :
    Handler Url Response :=
  match request.targetActorId with
  | some targetId => followById data auth targetId
  | none =>
      match request.actorUri with
      | none => pure (.problem 400 "invalid request")
      | some actorUri => followByUri data auth actorUri

/-- `POST /api/v1/follows/{id}/unfollow`. -/
def apiUnfollow (data : FederationData) (auth : ActorRow) (targetId : Nat) :
    Handler Url Response := do
  match ← Handler.caught (query (.fetchFollowByPair auth.id targetId)) with
  | .error _ => pure (.problem 404 "follow")
  | .ok none => pure (.problem 404 "follow")
  | .ok (some follow) =>
      match FollowRow.apActivityId follow with
      | none => pure (.problem 409 "follow")
      | some followId => do
          Handler.discarded (query (.deleteFollow auth.id targetId))
          let undoId ← newActivityId data.baseUrl
          let activity := undoActivity undoId auth.apId followId
          Handler.discarded
            (query (.createOutbound ⟨undoId, auth.apId, some followId, activity⟩))
          match ← Handler.caught (query (.fetchActorById targetId)) with
          | .ok (some target) =>
              match ← Handler.caught
                  (enqueueDelivery auth.id (ActorRow.deliveryInbox target) activity) with
              | .ok _ => pure .noContent
              | .error _ => pure (.problem 500 "job error")
          | _ => pure .noContent

/-! ## Search -/

/-- The actor section of `GET /api/v1/search`: when nothing cached matches, a
handle is resolved at its server. -/
def searchActors (text : String) : Handler Url Response := do
  let q := trimmed text
  if q.length < 2 then pure (.problem 400 "invalid query")
  else
    match ← Handler.caught (query (.searchActors (q ++ "%"))) with
    | .error _ => pure (.problem 500 "database error")
    | .ok (row :: rows) => pure (.actors (row :: rows))
    | .ok [] =>
        if '@' ∈ q.toList then
          let handle := String.ofList (q.toList.dropWhile (· = '@'))
          match ← Handler.caught (resolveRemoteActorByHandle handle) with
          | .ok (some actor) => pure (.actors [actor])
          | _ => pure (.actors [])
        else
          pure (.actors [])

end TootTok
