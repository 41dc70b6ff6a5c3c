import TootTok.Handler

/-!
# Remote actors

Fetching an actor by its URL or by its handle, outside the inbox. Both end in
the same upsert as the dereferences of the federation crate.
-/

namespace TootTok

open Effects
open Json (Value)
open UrlCrate
open Sanitize (trim isWhitespace stripHtmlTags)

variable {Url : Type} [UrlCrate Url]

/-! ## Actor documents -/

/-- The kind named by the `type` of a document; a person by default. -/
def actorTypeFromJson (value : Value) : ActorType :=
  match (value.getStr "type").getD "Person" with
  | "Application" => .application
  | "Service" => .service
  | _ => .person

def trimmed (text : String) : String :=
  String.ofList (trim text.toList)

/-- The shared inbox, wherever the document has it. -/
def sharedInboxFromJson (value : Value) : Option String :=
  let inEndpoints := (value.get "endpoints").bind fun endpoints =>
    (endpoints.get "sharedInbox").or (endpoints.get "shared_inbox")
  (inEndpoints.or (value.get "sharedInbox")).bind Value.asStr

variable (Url) in
/-- The parts of an actor document that make a row. -/
def parseRemoteActorJson (value : Value) : Except Error RemoteActorParts := do
  let idText ←
    match value.getStr "id" with
    | some text => .ok text
    | none => .error (.other "remote actor json missing id")
  let id ←
    match (parse idText : Option Url) with
    | some id => .ok id
    | none => .error .url
  let domain ←
    match hostStr id with
    | some host => .ok host
    | none => .error (.other "remote actor id has no host")
  let inbox ←
    match value.getStr "inbox" with
    | some inbox => .ok inbox
    | none => .error (.other "remote actor json missing inbox")
  let publicKeyPem ←
    match (value.get "publicKey").bind fun key =>
        ((key.get "publicKeyPem").or (key.get "public_key_pem")).bind Value.asStr with
    | some pem => .ok pem
    | none => .error (.other "remote actor json missing publicKey")
  .ok {
    id := asStr id
    domain := domain
    username :=
      (((value.get "preferredUsername").or (value.get "preferred_username")).bind
        Value.asStr).getD ""
    actorType := actorTypeFromJson value
    publicKeyPem := publicKeyPem
    inbox := inbox
    sharedInbox := sharedInboxFromJson value
    outbox := (value.getStr "outbox").getD (asStr id)
    followers := (value.getStr "followers").getD (asStr id)
    displayName := ((value.getStr "name").map trimmed).filter (· ≠ "")
    summary :=
      ((value.getStr "summary").map fun summary => trimmed (stripHtmlTags summary)).filter
        (· ≠ "")
    avatarUrl :=
      ((value.get "icon").bind (Value.getStr "url")).filter fun url =>
        "https://".toList.isPrefixOf url.toList || "http://".toList.isPrefixOf url.toList }

/-! ## By URL -/

/-- Fetch an object and make sure that it names the URL it was fetched from. -/
def fetchRemoteObjectJson (url : Url) : Handler Url Value := do
  let value : Value ← query (.getJson url)
  let id := (value.getStr "id").getD ""
  if id ≠ asStr url then
    .fail (.other ("remote fetch " ++ asStr url ++ " returned object with id " ++ id))
  else
    pure value

/-- Fetch an actor and cache it. -/
def fetchRemoteActor (url : Url) : Handler Url ActorRow := do
  let value ← fetchRemoteObjectJson url
  match parseRemoteActorJson Url value with
  | .error error => .fail error
  | .ok parts => query (.upsertRemote parts)

/-! ## By handle -/

/-- Name and domain of a handle `user@domain`. -/
def parseRemoteHandle (handle : String) : Option (String × String) :=
  let raw := (trim handle.toList).dropWhile (· = '@')
  match raw.dropWhile (· ≠ '@') with
  | '@' :: rest =>
      let name := raw.takeWhile (· ≠ '@')
      let domain := trim rest
      if name.isEmpty || domain.isEmpty then none
      else some (String.ofList name, String.ofList domain)
  | _ => none

/-- The profile URL of a usable `self` link. -/
def selfLink (webfinger : Url) (link : Value) : Option Url :=
  if link.getStr "rel" ≠ some "self" then none
  else
    ((link.getStr "href").bind parse).filter fun actorUrl =>
      scheme actorUrl = "https" ∨ hostStr webfinger = some "localhost"

/-- Fetch the actor behind the first usable link. -/
def followSelfLink (webfinger : Url) (links : List Value) :
    Handler Url (Option ActorRow) := do
  match links.findSome? (selfLink webfinger) with
  | none => pure none
  | some actorUrl =>
      match ← Handler.caught (fetchRemoteActor actorUrl) with
      | .ok actor => pure (some actor)
      | .error _ => pure none

/-- The URL asked about a handle. -/
def webfingerUrl (name domain : String) : Option Url :=
  (parse ("https://" ++ domain ++ "/.well-known/webfinger?resource=acct:" ++ name ++
    "@" ++ domain)).filter fun url => scheme url = "https"

/-- Resolve a handle through WebFinger, fetch the actor and cache it. -/
def resolveRemoteActorByHandle (handle : String) : Handler Url (Option ActorRow) :=
  match parseRemoteHandle handle with
  | none => pure none
  | some (name, domain) =>
      match (webfingerUrl name domain : Option Url) with
      | none => pure none
      | some url => do
          match ← Handler.caught (query (.getJson url)) with
          | .error _ => pure none
          | .ok body =>
              match Value.get "links" body with
              | some (.array links) => followSelfLink url links
              | _ => pure none

example : parseRemoteHandle "  @dansup@loops.video  " = some ("dansup", "loops.video") := by
  decide

end TootTok
