import TootTok.Activity
import TootTok.Operation

/-!
# Handlers

The programs that federation is made of, and how they read, cache and refresh
the actors they are about.
-/

namespace TootTok

open Effects
open Json (Value)
open UrlCrate

variable {Url : Type}

/-- A function of the source that talks to the database or to other servers. -/
abbrev Handler (Url α : Type) : Type :=
  Program (@Operation.Result Url) Error α

/-- One query or request, whose failure is passed on. -/
abbrev query (op : Operation Url) : Handler Url op.Result :=
  Program.perform op

namespace Handler

/-- The panic of an outcome. -/
def panicOf {α : Type} : Except Error α → Option Panic
  | .error (.panicked panic) => some panic
  | _ => none

@[simp] theorem panicOf_ok {α : Type} (value : α) :
    panicOf (.ok value : Except Error α) = none := rfl

/-- Continue with an outcome that is no panic. -/
def unlessPanicked {α : Type} (outcome : Except Error α) :
    Handler Url (Except Error α) :=
  match panicOf outcome with
  | some panic => .fail (.panicked panic)
  | none => .done outcome

/-- Continue with the outcome of a part, unless it panicked. -/
def caught {α : Type} (part : Handler Url α) : Handler Url (Except Error α) :=
  part.attempt >>= unlessPanicked

/-- `let _ = part.await`. -/
def discarded {α : Type} (part : Handler Url α) : Handler Url Unit :=
  part.caught >>= fun _ => .done ()

/-- A computation in memory that may panic. -/
def ofPanicking {α : Type} : Panicking α → Handler Url α
  | .ok value => .done value
  | .error panic => .fail (.panicked panic)

/-- `?` on a fallible computation in memory. -/
def ofOption {α : Type} (error : Error) : Option α → Handler Url α
  | some value => .done value
  | none => .fail error

/-! ### Rules -/

section Rules

variable {α : Type} {allow : Env Url → Prop} {db : Db}

/-- What a part must ensure for its caught outcome to satisfy `post`. -/
def surviving
    (post : Except Error (Except Error α) → Db → Prop)
    (outcome : Except Error α) (final : Db) : Prop :=
  match panicOf outcome with
  | some panic => post (.error (.panicked panic)) final
  | none => post (.ok outcome) final

@[simp] theorem surviving_ok
    (post : Except Error (Except Error α) → Db → Prop) (value : α) (final : Db) :
    surviving post (.ok value) final = post (.ok (.ok value)) final := rfl

theorem surviving_of
    {post : Except Error (Except Error α) → Db → Prop}
    {outcome : Except Error α} {final : Db}
    (aborted : ∀ panic, post (.error (.panicked panic)) final)
    (survived : post (.ok outcome) final) :
    surviving post outcome final := by
  unfold surviving
  cases panicOf outcome with
  | some panic => exact aborted panic
  | none => exact survived

theorem ensures_caught
    (post : Except Error (Except Error α) → Db → Prop) (part : Handler Url α) :
    Program.Ensures Operation.exec allow post part.caught db ↔
      Program.Ensures Operation.exec allow (surviving post) part db := by
  have samePost : (fun outcome => Program.thenEnsures Operation.exec allow post
      (@unlessPanicked Url α) (.ok outcome)) = surviving post := by
    funext outcome final
    unfold surviving
    simp only [Program.thenEnsures_ok, unlessPanicked]
    cases panicOf outcome <;> rfl
  unfold caught
  rw [Program.ensures_bind, Program.ensures_attempt, samePost]

/-- A postcondition of the final state alone survives being discarded. -/
theorem ensures_discarded
    {holds : Db → Prop} {part : Handler Url α}
    (ensured : Program.Ensures Operation.exec allow (fun _ final => holds final) part db) :
    Program.Ensures Operation.exec allow (fun _ final => holds final) part.discarded db := by
  unfold discarded
  rw [Program.ensures_bind, ensures_caught]
  exact ensured.mono fun outcome final ends =>
    surviving_of (fun _ => ends) ends

/-- A query either fails without effect or is performed. -/
theorem ensures_query
    {op : Operation Url} {post : Except Error op.Result → Db → Prop}
    (onFailure : ∀ env error, allow env → Operation.failure env op = some error →
      post (.error error) db)
    (onSuccess : ∀ env, allow env → Operation.failure env op = none →
      post (Operation.perform env op db).1 (Operation.perform env op db).2) :
    Program.Ensures Operation.exec allow post (query op) db := by
  rw [Program.ensures_perform]
  intro env allowed
  cases failed : Operation.failure env op with
  | some error =>
      rw [Operation.exec_of_failure failed]
      exact onFailure env error allowed failed
  | none =>
      rw [Operation.exec_of_success failed]
      exact onSuccess env allowed failed

/-- A query and what follows it. -/
theorem ensures_query_then {β : Type}
    {op : Operation Url} {rest : op.Result → Handler Url β}
    {post : Except Error β → Db → Prop}
    (onFailure : ∀ env error, allow env → Operation.failure env op = some error →
      post (.error error) db)
    (onSuccess : ∀ env, allow env → Operation.failure env op = none →
      Program.thenEnsures Operation.exec allow post rest
        (Operation.perform env op db).1 (Operation.perform env op db).2) :
    Program.Ensures Operation.exec allow post (query op >>= rest) db := by
  rw [Program.ensures_bind]
  exact ensures_query onFailure onSuccess

/-- A part whose outcome is caught, and what follows it. -/
theorem ensures_caught_then {β : Type}
    (post : Except Error β → Db → Prop)
    (part : Handler Url α) (rest : Except Error α → Handler Url β) :
    Program.Ensures Operation.exec allow post (part.caught >>= rest) db ↔
      Program.Ensures Operation.exec allow
        (surviving (Program.thenEnsures Operation.exec allow post rest)) part db := by
  rw [Program.ensures_bind, ensures_caught]

/-- A part leaves alone every table that none of its operations writes. -/
theorem ensures_frame
    {name : Operation.TableName} {part : Handler Url α}
    (calls : part.Calls fun op => op.writes ≠ some name) :
    Program.Ensures Operation.exec allow (fun _ final => final.SameTable db name) part db := by
  refine calls.ensures (fun before after => after.SameTable before name) ?_ ?_ ?_ db
  · intro state
    cases name <;> rfl
  · intro first second third left right
    cases name <;> exact right.trans left
  · exact fun env op state _ frame => Operation.exec_frame name frame env state

theorem calls_caught
    {allowed : Operation Url → Prop} {part : Handler Url α}
    (calls : part.Calls allowed) : part.caught.Calls allowed := by
  refine calls.attempt.bind fun outcome => ?_
  unfold unlessPanicked
  cases panicOf outcome <;> trivial

theorem calls_discarded
    {allowed : Operation Url → Prop} {part : Handler Url α}
    (calls : part.Calls allowed) : part.discarded.Calls allowed :=
  (calls_caught calls).bind fun _ => trivial

end Rules

end Handler

/-- The configuration of an instance. The domain is a host name, so that it
contains none of the characters that end the authority of a URL. -/
structure Config where
  domain : String
  publicPort : Option UInt16
  behindTls : Bool
  allowLoopback : Bool
  plainDomain : ∀ char ∈ domain.toList, char ∉ ['/', '?', '#', '@', '\\']

namespace Config

def scheme (config : Config) : String :=
  if config.behindTls then "https" else "http"

/-- The domain that the federation crate takes for local. -/
def federationDomain (config : Config) : String :=
  match config.publicPort with
  | some port => config.domain ++ ":" ++ toString port
  | none => config.domain

/-- The base of the ids of local objects. -/
def publicBaseUrl (config : Config) : String :=
  match config.publicPort with
  | some port => config.scheme ++ "://" ++ config.domain ++ ":" ++ toString port
  | none => config.scheme ++ "://" ++ config.domain

theorem publicBaseUrl_eq (config : Config) :
    config.publicBaseUrl = config.scheme ++ "://" ++ config.federationDomain := by
  unfold publicBaseUrl federationDomain
  cases config.publicPort <;> simp [String.append_assoc]

theorem scheme_http (config : Config) :
    config.scheme = "http" ∨ config.scheme = "https" := by
  unfold scheme
  cases config.behindTls <;> simp

theorem toList_toString_port (port : UInt16) :
    (toString port).toList = Nat.toDigits 10 port.toNat :=
  Nat.toList_repr

theorem plain_federationDomain (config : Config) :
    ∀ char ∈ config.federationDomain.toList, char ∉ ['/', '?', '#', '@', '\\'] := by
  unfold federationDomain
  cases config.publicPort with
  | none => exact config.plainDomain
  | some port =>
      intro char member
      simp only [String.toList_append, List.mem_append] at member
      rcases member with (inDomain | isColon) | isDigit
      · exact config.plainDomain char inDomain
      · rw [List.mem_singleton.mp isColon]
        decide
      · have digit : char.isDigit = true :=
          Nat.isDigit_of_mem_toDigits (by decide) (by decide)
            (toList_toString_port port ▸ isDigit)
        rintro listed
        simp only [List.mem_cons, List.not_mem_nil, or_false] at listed
        rcases listed with rfl | rfl | rfl | rfl | rfl <;>
          exact absurd digit (by decide)

/-- An id below the public base is a local URL. -/
theorem isLocalUrl_below_base [UrlCrate Url]
    (config : Config) {url : Url} {rest : String}
    (below : asStr url = config.publicBaseUrl ++ "/" ++ rest) :
    isLocalUrl url config.federationDomain = true := by
  rw [publicBaseUrl_eq] at below
  exact isLocalUrl_of_base config.scheme_http config.plain_federationDomain below

end Config

/-! ## Actors -/

variable [UrlCrate Url]

/-- An actor row together with its parsed id. -/
structure DbActor (Url : Type) where
  row : ActorRow
  apId : Url

/-- The columns of an actor document. -/
def ApActor.parts (json : ApActor Url) (domain : String) : RemoteActorParts where
  id := asStr json.id
  domain := domain
  username := json.preferredUsername
  actorType := json.kind
  publicKeyPem := json.publicKeyPem
  inbox := asStr json.inbox
  sharedInbox := json.sharedInbox.map asStr
  outbox := asStr (json.outbox.getD json.id)
  followers := asStr (json.followers.getD json.id)
  displayName :=
    (json.name.map fun name => String.ofList (Sanitize.trim name.toList)).filter (· ≠ "")
  summary := json.summary.map Sanitize.stripHtmlTags
  avatarUrl := none

namespace DbActor

/-- The stored id must parse. -/
def fromRow (row : ActorRow) : Handler Url (DbActor Url) :=
  match parse row.apId with
  | some apId => .done ⟨row, apId⟩
  | none => .fail (.panicked (.expect "stored ap_id is a valid url"))

def readFromId (objectId : Url) : Handler Url (Option (DbActor Url)) := do
  let row ← query (.fetchActorByApId (asStr objectId))
  match row with
  | some row => some <$> fromRow row
  | none => pure none

/-- Cache an actor document. -/
def fromJson (json : ApActor Url) : Handler Url (DbActor Url) := do
  let domain ← Handler.ofOption (.other "actor id has no host") (hostStr json.id)
  let row ← query (.upsertRemote (json.parts domain))
  fromRow row

/-- The shared inbox when advertised, else the personal inbox. -/
def sharedInboxOrInbox (actor : DbActor Url) : Handler Url Url :=
  match actor.row.sharedInboxUrl.bind parse with
  | some url => .done url
  | none =>
      match parse actor.row.inboxUrl with
      | some url => .done url
      | none => .fail (.panicked (.expect "stored inbox url is valid"))

end DbActor

/-! ## Dereferencing

How the federation crate resolves the id of an actor. -/

/-- From the database only. -/
def dereferenceLocal (url : Url) : Handler Url (DbActor Url) := do
  match ← DbActor.readFromId url with
  | some actor => pure actor
  | none => .fail .notFound

/-- Go on with the answer to the fetch of an actor. After a failure it falls back
on the cached row, unless the server says that the actor is gone. A document
that turns out to be local is never cached. -/
def dereferenceFromAnswer
    (domain : String) (url : Url) (cached : Option (DbActor Url)) :
    Except Error (ApActor Url) → Handler Url (DbActor Url)
  | .error (.fetch .gone) => .fail (.fetch .gone)
  | .error error =>
      match cached with
      | some actor => pure actor
      | none => .fail error
  | .ok document =>
      if isLocalUrl document.id domain then
        dereferenceLocal url
      else if document.publicKeyPem = "" then
        .fail (.other "actor has no public key")
      else
        DbActor.fromJson document

/-- Fetch an actor and cache it. -/
def dereferenceFromHttp
    (domain : String) (url : Url) (cached : Option (DbActor Url)) :
    Handler Url (DbActor Url) :=
  Handler.caught (query (.fetchActor url)) >>= dereferenceFromAnswer domain url cached

/-- From the database while the row is fresh or local, else from its server. -/
def dereference (domain : String) (url : Url) : Handler Url (DbActor Url) := do
  match ← DbActor.readFromId url with
  | none => dereferenceFromHttp domain url none
  | some actor =>
      if isLocalUrl url domain then pure actor
      else do
        let outdated : Bool ← query .actorOutdated
        if outdated then dereferenceFromHttp domain url (some actor)
        else pure actor

end TootTok
