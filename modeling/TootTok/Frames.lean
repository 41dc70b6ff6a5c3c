import TootTok.Instance
import TootTok.Pipeline

/-!
# What the handlers may write

For each part of the federation code, which tables its operations write. The
lemmas are stated for any property of operations that these writes satisfy, so
that frames and guarantees of single tables are read off in the same way.
-/

namespace TootTok

open Effects
open Json (Value)
open UrlCrate

variable {Url : Type}

namespace Operation

/-- The operation writes one of the tables or none. -/
def writesOnly (names : List TableName) (op : Operation Url) : Bool :=
  op.writes.all names.contains

theorem writesOnly_mono
    {names more : List TableName} (subset : names ⊆ more)
    {op : Operation Url} (only : op.writesOnly names = true) :
    op.writesOnly more = true := by
  unfold writesOnly at only ⊢
  cases writes : op.writes with
  | none => rfl
  | some name =>
      rw [writes, Option.all_some, List.contains_iff_mem] at only
      rw [Option.all_some, List.contains_iff_mem]
      exact subset only

/-- What writes only other tables does not write the table. -/
theorem writes_ne_of_writesOnly
    {names : List TableName} {name : TableName} (other : name ∉ names)
    (op : Operation Url) (only : op.writesOnly names = true) :
    op.writes ≠ some name := by
  intro writes
  rw [writesOnly, writes, Option.all_some, List.contains_iff_mem] at only
  exact other only

/-- The operation writes nothing, or stores a remote clip. -/
def storesRemote : Operation Url → Bool
  | .createRemote _ => true
  | op => op.writesOnly []

theorem writesOnly_of_storesRemote {op : Operation Url} (stores : op.storesRemote = true) :
    op.writesOnly [.clips] = true := by
  cases op with
  | createRemote new => rfl
  | _ => exact writesOnly_mono (List.nil_subset _) stores

end Operation

namespace Handler

variable {α β : Type} {allowed : Operation Url → Prop}

theorem calls_query {op : Operation Url} (allows : allowed op) : (query op).Calls allowed :=
  Program.calls_perform.mpr allows

theorem calls_query_then
    {op : Operation Url} {rest : op.Result → Handler Url β}
    (allows : allowed op) (calls : ∀ result, (rest result).Calls allowed) :
    (query op >>= rest).Calls allowed :=
  (calls_query allows).bind calls

theorem calls_caught_then
    {part : Handler Url α} {rest : Except Error α → Handler Url β}
    (first : part.Calls allowed) (second : ∀ outcome, (rest outcome).Calls allowed) :
    (part.caught >>= rest).Calls allowed :=
  (calls_caught first).bind second

theorem calls_ofOption (error : Error) (value : Option α) :
    (ofOption error value : Handler Url α).Calls allowed := by
  cases value <;> trivial

theorem calls_ofPanicking (value : Panicking α) :
    (ofPanicking value : Handler Url α).Calls allowed := by
  cases value <;> trivial

end Handler

open Handler

variable {allowed : Operation Url → Prop}

/-! ## Dereferencing -/

section Dereferencing

variable [UrlCrate Url]

theorem calls_fromRow (row : ActorRow) : (DbActor.fromRow row : Handler Url _).Calls allowed := by
  unfold DbActor.fromRow
  cases (parse row.apId : Option Url) <;> trivial

theorem calls_readFromId
    (reads : ∀ op, op.writesOnly [] = true → allowed op) (url : Url) :
    (DbActor.readFromId url).Calls allowed := by
  refine calls_query_then (reads _ rfl) fun found => ?_
  cases found with
  | none => trivial
  | some row => exact (calls_fromRow row).bind fun _ => trivial

theorem calls_dereferenceLocal
    (reads : ∀ op, op.writesOnly [] = true → allowed op) (url : Url) :
    (dereferenceLocal url).Calls allowed := by
  refine (calls_readFromId reads url).bind fun found => ?_
  cases found <;> trivial

variable {domain : String}

/-- Only documents of other instances are cached. -/
theorem calls_dereferenceFromHttp
    (reads : ∀ op, op.writesOnly [] = true → allowed op)
    (caches : ∀ parts (id : Url), parts.id = asStr id → isLocalUrl id domain = false →
      allowed (.upsertRemote parts))
    (url : Url) (cached : Option (DbActor Url)) :
    (dereferenceFromHttp domain url cached).Calls allowed := by
  refine calls_caught_then (calls_query (reads _ rfl)) fun outcome => ?_
  unfold dereferenceFromAnswer
  split
  · trivial
  · cases cached <;> trivial
  next document =>
    split
    · exact calls_dereferenceLocal reads url
    next notLocal =>
      split
      · trivial
      · refine (calls_ofOption _ _).bind fun host => ?_
        refine calls_query_then ?_ calls_fromRow
        exact caches _ document.id rfl (by simpa using notLocal)

theorem calls_dereference
    (reads : ∀ op, op.writesOnly [] = true → allowed op)
    (caches : ∀ parts (id : Url), parts.id = asStr id → isLocalUrl id domain = false →
      allowed (.upsertRemote parts))
    (url : Url) :
    (dereference domain url).Calls allowed := by
  refine (calls_readFromId reads url).bind fun found => ?_
  cases found with
  | none => exact calls_dereferenceFromHttp reads caches url none
  | some actor =>
      dsimp only
      split
      · trivial
      · refine calls_query_then (reads _ rfl) fun outdated => ?_
        split
        · exact calls_dereferenceFromHttp reads caches url (some actor)
        · trivial

end Dereferencing

/-! ## The inbox -/

section Inbox

theorem calls_enqueueDelivery
    (queues : ∀ op, op.writesOnly [.jobs] = true → allowed op)
    (actorId : Nat) (inboxUrl : String) (activity : Value) :
    (enqueueDelivery actorId inboxUrl activity : Handler Url Unit).Calls allowed :=
  calls_query_then (queues _ rfl) fun _ => trivial

theorem calls_acceptFollow
    (allows : ∀ op, op.writesOnly [.follows, .jobs] = true → allowed op) (followId : String) :
    (acceptFollow followId : Handler Url Unit).Calls allowed := by
  refine calls_query_then (allows _ rfl) fun found => ?_
  cases found with
  | none => trivial
  | some follow =>
      refine calls_query_then (allows _ rfl) fun _ => ?_
      exact calls_discarded (calls_query_then (allows _ rfl) fun _ => trivial)

theorem calls_rejectFollow
    (allows : ∀ op, op.writesOnly [.follows] = true → allowed op) (followId : String) :
    (rejectFollow followId : Handler Url Unit).Calls allowed := by
  refine calls_query_then (allows _ rfl) fun found => ?_
  cases found with
  | none => trivial
  | some follow => exact calls_query_then (allows _ rfl) fun _ => trivial

theorem calls_undoFollow
    (allows : ∀ op, op.writesOnly [.follows] = true → allowed op) (followId : String) :
    (undoFollow followId : Handler Url Unit).Calls allowed := by
  refine calls_query_then (allows _ rfl) fun found => ?_
  cases found with
  | none => trivial
  | some follow => exact calls_query_then (allows _ rfl) fun _ => trivial

theorem calls_deleteActor
    (allows : ∀ op, op.writesOnly [.tombstones] = true → allowed op)
    (marks : ∀ apId, allowed (.markRemoteDeletedByApId apId)) (objectId : String) :
    (deleteActor objectId : Handler Url Unit).Calls allowed :=
  calls_query_then (allows _ rfl) fun _ => calls_discarded (calls_query (marks _))

theorem calls_applyDelete
    (allows : ∀ op, op.writesOnly [.clips, .tombstones] = true → allowed op)
    (marks : ∀ apId, allowed (.markRemoteDeletedByApId apId)) (objectId signer : String) :
    (applyDelete objectId signer : Handler Url Unit).Calls allowed := by
  refine calls_query_then (allows _ rfl) fun found => ?_
  cases found with
  | none =>
      refine calls_deleteActor (fun op only => allows op ?_) marks objectId
      exact Operation.writesOnly_mono (by simp) only
  | some clip =>
      refine Program.Calls.bind (calls_query_then (allows _ rfl) fun _ => trivial) fun owner => ?_
      cases owner with
      | false => trivial
      | true =>
          refine calls_query_then (allows _ rfl) fun _ => ?_
          exact calls_query_then (allows _ rfl) fun _ => trivial

theorem calls_applyUpdate
    (allows : ∀ op, op.writesOnly [.clips] = true → allowed op)
    (objectId signer : String) (object : Value) :
    (applyUpdate objectId signer object : Handler Url Unit).Calls allowed := by
  refine calls_query_then (allows _ rfl) fun found => ?_
  cases found with
  | none => trivial
  | some clip =>
      refine Program.Calls.bind (calls_query_then (allows _ rfl) fun _ => trivial) fun owner => ?_
      dsimp only
      split
      · exact calls_query_then (allows _ rfl) fun _ => trivial
      · trivial

theorem calls_storeClip
    (allows : ∀ op, op.storesRemote = true → allowed op)
    (note : ParsedNote) (actorId : Nat) :
    (storeClip note actorId : Handler Url Bool).Calls allowed := by
  refine calls_caught_then (calls_query (allows _ rfl)) fun outcome => ?_
  split <;> trivial

variable [UrlCrate Url] {data : FederationData}

theorem calls_autoAccept
    (allows : ∀ op, op.writesOnly [.follows, .activities, .jobs] = true → allowed op)
    (activity : Follow Url) (follower target : DbActor Url) :
    (activity.autoAccept data follower target).Calls allowed := by
  refine calls_query_then (allows _ rfl) fun _ => ?_
  refine calls_query_then (allows _ rfl) fun _ => ?_
  refine (calls_discarded (calls_query (allows _ rfl))).bind fun _ => ?_
  refine Program.Calls.bind ?_ fun inbox => calls_query_then (allows _ rfl) fun _ => trivial
  unfold DbActor.sharedInboxOrInbox
  split
  · trivial
  · split <;> trivial

theorem calls_record
    (allows : ∀ op, op.writesOnly [.follows, .activities, .jobs] = true → allowed op)
    (activity : Follow Url) : (activity.record data).Calls allowed := by
  have reads (op : Operation Url) (only : op.writesOnly [] = true) : allowed op :=
    allows op (Operation.writesOnly_mono (List.nil_subset _) only)
  refine (calls_dereferenceLocal reads _).bind fun target => ?_
  split
  · trivial
  refine (calls_dereferenceLocal reads _).bind fun follower => ?_
  refine calls_query_then (allows _ rfl) fun _ => ?_
  split
  · trivial
  · exact calls_autoAccept allows activity follower target

/-- The only documents it caches are of other instances. -/
theorem calls_ingestNote [ChronoCrate]
    (allows : ∀ op, op.writesOnly [.clips] = true → allowed op)
    (caches : ∀ parts (id : Url), parts.id = asStr id → isLocalUrl id data.domain = false →
      allowed (.upsertRemote parts))
    (actor : Url) (objectId : String) (object : Value) :
    (ingestNote data actor objectId object).Calls allowed := by
  refine Program.Calls.bind (calls_query (allows _ rfl)) fun gone => ?_
  split
  · trivial
  refine (calls_ofPanicking _).bind fun parsed => ?_
  split
  · trivial
  split
  · refine calls_caught_then (calls_dereference (fun op only => ?_) caches _) fun outcome => ?_
    · exact allows op (Operation.writesOnly_mono (List.nil_subset _) only)
    · split
      · trivial
      · refine (calls_storeClip (fun op stores => ?_) _ _).bind fun _ => trivial
        exact allows op (Operation.writesOnly_of_storesRemote stores)
  · trivial

theorem calls_work [ChronoCrate]
    (allows : ∀ op,
      op.writesOnly [.clips, .follows, .activities, .tombstones, .jobs] = true → allowed op)
    (marks : ∀ apId, allowed (.markRemoteDeletedByApId apId))
    (caches : ∀ parts (id : Url), parts.id = asStr id → isLocalUrl id data.domain = false →
      allowed (.upsertRemote parts))
    (activity : ApActivities Url) :
    (activity.work data).Calls allowed := by
  have fewer {names : List Operation.TableName}
      (subset : names ⊆ [.clips, .follows, .activities, .tombstones, .jobs])
      (op : Operation Url) (only : op.writesOnly names = true) : allowed op :=
    allows op (Operation.writesOnly_mono subset only)
  cases activity with
  | follow activity =>
      refine Program.Calls.bind (calls_query (allows _ rfl)) fun gone => ?_
      split
      · trivial
      · exact calls_record (fewer (by decide)) activity
  | accept activity => exact calls_acceptFollow (fewer (by decide)) _
  | reject activity => exact calls_rejectFollow (fewer (by decide)) _
  | undo activity =>
      simp only [ApActivities.work]
      split
      · trivial
      · exact calls_undoFollow (fewer (by decide)) _
  | delete activity => exact calls_applyDelete (fewer (by decide)) marks _ _
  | create activity =>
      simp only [ApActivities.work]
      split
      · trivial
      · exact calls_ingestNote (fewer (by decide)) caches _ _ _
  | update activity =>
      simp only [ApActivities.work]
      split
      · trivial
      · exact calls_applyUpdate (fewer (by decide)) _ _ _
  | move activity => trivial
  | passthrough activity => trivial

theorem calls_pipeline
    (logs : ∀ op, op.writesOnly [.activities] = true → allowed op)
    (activityId : Url) (actorApId : String) (objectApId : Option String) (raw : Value)
    {work : Handler Url Unit} (calls : work.Calls allowed) :
    (pipeline activityId actorApId objectApId raw work).Calls allowed := by
  refine Program.Calls.bind (calls_query_then (logs _ rfl) fun _ => trivial) fun fresh => ?_
  cases fresh with
  | false => trivial
  | true => exact calls.bind fun _ => calls_query_then (logs _ rfl) fun _ => trivial

end Inbox

/-! ## Remote actors -/

section RemoteActors

variable [UrlCrate Url]

/-- The parts of a document that names a URL are stored under that URL. -/
theorem parseRemoteActorJson_id
    {value : Value} {url : Url} {parts : RemoteActorParts}
    (named : (value.getStr "id").getD "" = asStr url)
    (parsed : parseRemoteActorJson Url value = .ok parts) : parts.id = asStr url := by
  unfold parseRemoteActorJson at parsed
  cases idText : value.getStr "id" with
  | none =>
      rw [idText] at parsed
      cases parsed
  | some text =>
      have sameText : text = asStr url := by simpa [idText] using named
      subst sameText
      simp only [idText, parse_asStr, bind, Except.bind] at parsed
      cases host : hostStr url with
      | none =>
          rw [host] at parsed
          cases parsed
      | some name =>
          cases inbox : value.getStr "inbox" with
          | none =>
              rw [host, inbox] at parsed
              cases parsed
          | some inbox' =>
              rw [host, inbox] at parsed
              dsimp only at parsed
              split at parsed <;> cases parsed
              rfl

/-- The only row it caches is that of the URL. -/
theorem calls_fetchRemoteActor
    (reads : ∀ op, op.writesOnly [] = true → allowed op) {url : Url}
    (caches : ∀ parts, parts.id = asStr url → allowed (.upsertRemote parts)) :
    (fetchRemoteActor url).Calls allowed := by
  unfold fetchRemoteActor fetchRemoteObjectJson
  rw [Program.bind_assoc]
  refine calls_query_then (reads _ rfl) fun value => ?_
  dsimp only
  split
  · trivial
  next named =>
    simp only [Program.pure_eq_done, Program.done_bind]
    cases parsed : parseRemoteActorJson Url value with
    | error error => trivial
    | ok parts => exact calls_query (caches parts (parseRemoteActorJson_id (not_not.mp named) parsed))

/-- The only row it caches is that of the first usable link. -/
theorem calls_followSelfLink
    (reads : ∀ op, op.writesOnly [] = true → allowed op)
    {webfinger : Url} {links : List Value}
    (caches : ∀ profile parts, links.findSome? (selfLink webfinger) = some profile →
      parts.id = asStr profile → allowed (.upsertRemote parts)) :
    (followSelfLink webfinger links).Calls allowed := by
  unfold followSelfLink
  split
  · trivial
  next profile found =>
    refine calls_caught_then (calls_fetchRemoteActor reads fun parts isProfile => ?_) ?_
    · exact caches profile parts found isProfile
    · intro outcome
      cases outcome <;> trivial

theorem calls_resolveRemoteActorByHandle
    (reads : ∀ op, op.writesOnly [] = true → allowed op)
    (caches : ∀ parts, allowed (.upsertRemote parts)) (handle : String) :
    (resolveRemoteActorByHandle handle : Handler Url _).Calls allowed := by
  unfold resolveRemoteActorByHandle
  split
  · trivial
  split
  · trivial
  refine calls_caught_then (calls_query (reads _ rfl)) fun outcome => ?_
  split
  · trivial
  split
  · exact calls_followSelfLink reads fun _ parts _ _ => caches parts
  · trivial

end RemoteActors

/-! ## The API -/

section Api

variable [UrlCrate Url]

theorem calls_newActivityId
    (reads : ∀ op, op.writesOnly [] = true → allowed op) (baseUrl : String) :
    (@newActivityId Url _ baseUrl).Calls allowed := by
  refine calls_query_then (reads _ rfl) fun uuid => ?_
  split <;> trivial

variable {data : FederationData}

theorem calls_recordFollow
    (allows : ∀ op, op.writesOnly [.follows, .activities, .jobs] = true → allowed op)
    (auth target : ActorRow) (status : Nat) (state : FollowState) (logged : Bool)
    (deliverError : String) {deliver : Value → Handler Url Unit}
    (delivers : ∀ activity, (deliver activity).Calls allowed) :
    (recordFollow data auth target status state logged deliverError deliver).Calls allowed := by
  have reads (op : Operation Url) (only : op.writesOnly [] = true) : allowed op :=
    allows op (Operation.writesOnly_mono (List.nil_subset _) only)
  refine (calls_newActivityId reads _).bind fun followId => ?_
  refine calls_caught_then (calls_query (allows _ rfl)) fun outcome => ?_
  cases outcome with
  | error error => trivial
  | ok row =>
      cases logged with
      | false =>
          refine calls_caught_then (delivers _) fun outcome => ?_
          cases outcome <;> trivial
      | true =>
          refine (calls_discarded (calls_query (allows _ rfl))).bind fun _ => ?_
          refine calls_caught_then (delivers _) fun outcome => ?_
          cases outcome <;> trivial

theorem calls_followById
    (allows : ∀ op, op.writesOnly [.follows, .activities, .jobs] = true → allowed op)
    (auth : ActorRow) (targetId : Nat) :
    (followById data auth targetId : Handler Url Response).Calls allowed := by
  unfold followById
  split
  · trivial
  refine calls_caught_then (calls_query (allows _ rfl)) fun outcome => ?_
  split
  · trivial
  · trivial
  · split
    · exact calls_recordFollow allows _ _ _ _ _ _ fun _ => trivial
    · exact calls_recordFollow allows _ _ _ _ _ _ fun activity =>
        calls_query_then (allows _ rfl) fun _ => trivial

variable {domain : String}

/-- Only a target of another instance is fetched. -/
theorem calls_followTarget
    (reads : ∀ op, op.writesOnly [] = true → allowed op)
    (caches : ∀ parts (id : Url), parts.id = asStr id → isLocalUrl id domain = false →
      allowed (.upsertRemote parts))
    (url : Url) : (followTarget domain url).Calls allowed := by
  unfold followTarget
  split
  · refine calls_caught_then (calls_query (reads _ rfl)) fun outcome => ?_
    split <;> trivial
  next notLocal =>
    refine calls_caught_then (calls_fetchRemoteActor reads fun parts isUrl => ?_) fun outcome => ?_
    · exact caches parts url isUrl (by simpa using notLocal)
    · cases outcome <;> trivial

theorem calls_followByUri
    (allows : ∀ op, op.writesOnly [.follows, .activities, .jobs] = true → allowed op)
    (caches : ∀ parts (id : Url), parts.id = asStr id → isLocalUrl id data.domain = false →
      allowed (.upsertRemote parts))
    (auth : ActorRow) (actorUri : String) :
    (followByUri data auth actorUri : Handler Url Response).Calls allowed := by
  unfold followByUri
  split
  · trivial
  split
  · trivial
  refine (calls_followTarget (fun op only => ?_) caches _).bind fun target => ?_
  · exact allows op (Operation.writesOnly_mono (List.nil_subset _) only)
  split
  · trivial
  split
  · trivial
  split
  · exact calls_recordFollow allows _ _ _ _ _ _ fun _ => trivial
  · exact calls_recordFollow allows _ _ _ _ _ _ fun activity =>
      calls_query_then (allows _ rfl) fun _ => trivial

theorem calls_apiFollow
    (allows : ∀ op, op.writesOnly [.follows, .activities, .jobs] = true → allowed op)
    (caches : ∀ parts (id : Url), parts.id = asStr id → isLocalUrl id data.domain = false →
      allowed (.upsertRemote parts))
    (auth : ActorRow) (request : FollowRequest) :
    (apiFollow data auth request : Handler Url Response).Calls allowed := by
  unfold apiFollow
  split
  · exact calls_followById allows auth _
  · split
    · trivial
    · exact calls_followByUri allows caches auth _

theorem calls_apiUnfollow
    (allows : ∀ op, op.writesOnly [.follows, .activities, .jobs] = true → allowed op)
    (auth : ActorRow) (targetId : Nat) :
    (apiUnfollow data auth targetId : Handler Url Response).Calls allowed := by
  have reads (op : Operation Url) (only : op.writesOnly [] = true) : allowed op :=
    allows op (Operation.writesOnly_mono (List.nil_subset _) only)
  refine calls_caught_then (calls_query (allows _ rfl)) fun outcome => ?_
  split
  · trivial
  · trivial
  split
  · trivial
  refine (calls_discarded (calls_query (allows _ rfl))).bind fun _ => ?_
  refine (calls_newActivityId reads _).bind fun undoId => ?_
  refine (calls_discarded (calls_query (allows _ rfl))).bind fun _ => ?_
  refine calls_caught_then (calls_query (allows _ rfl)) fun found => ?_
  split
  · refine calls_caught_then (calls_query_then (allows _ rfl) fun _ => trivial) fun outcome => ?_
    split <;> trivial
  · trivial

theorem calls_searchActors
    (reads : ∀ op, op.writesOnly [] = true → allowed op)
    (caches : ∀ parts, allowed (.upsertRemote parts)) (text : String) :
    (searchActors text : Handler Url Response).Calls allowed := by
  unfold searchActors
  dsimp only
  -- Opaque texts, lest their characters be computed.
  generalize trimmed text = q
  generalize String.ofList (q.toList.dropWhile (· = '@')) = handle
  generalize q.toList = chars
  generalize q.length = length
  split
  · trivial
  refine calls_caught_then (calls_query (reads _ rfl)) fun outcome => ?_
  cases outcome with
  | error error => trivial
  | ok rows =>
      cases rows with
      | cons row rows => trivial
      | nil =>
          dsimp only
          split
          · refine calls_caught_then (calls_resolveRemoteActorByHandle reads caches _) ?_
            intro found
            split <;> trivial
          · trivial

end Api

/-! ## Backfill and local clips -/

section Clips

theorem calls_initFederation
    (allows : ∀ op, op.writesOnly [.actors] = true → allowed op)
    (config : Config) (publicKeyPem privateKeyPem : String) :
    (initFederation config publicKeyPem privateKeyPem : Handler Url ActorRow).Calls allowed := by
  refine calls_caught_then (calls_query (allows _ rfl)) fun stored => ?_
  refine calls_query_then (allows _ rfl) fun inserted => ?_
  cases inserted with
  | some actor => trivial
  | none =>
      refine calls_query_then (allows _ rfl) fun found => ?_
      cases found <;> trivial

theorem calls_deleteMe
    (allows : ∀ op, op.writesOnly [.clips, .tombstones] = true → allowed op)
    (marks : ∀ id, allowed (.markActorDeleted id)) (auth : ActorRow) :
    (deleteMe auth : Handler Url Unit).Calls allowed := by
  refine calls_query_then (allows _ rfl) fun _ => ?_
  refine calls_query_then (allows _ rfl) fun _ => ?_
  exact calls_query_then (marks _) fun _ => trivial

theorem calls_storeUpload
    (allows : ∀ op, op.writesOnly [.clips] = true → allowed op)
    (auth : ActorRow) (sha256Hash : String) (sizeBytes : Int) (caption : Option String) :
    (storeUpload auth sha256Hash sizeBytes caption : Handler Url ClipRow).Calls allowed :=
  calls_query_then (allows _ rfl) fun _ => calls_query (allows _ rfl)

theorem calls_authenticated {α : Type}
    (reads : ∀ op, op.writesOnly [] = true → allowed op)
    (authId : Nat) {body : ActorRow → Handler Url α}
    (calls : ∀ auth, (body auth).Calls allowed) :
    (authenticated authId body).Calls allowed := by
  refine calls_query_then (reads _ rfl) fun found => ?_
  cases found with
  | none => trivial
  | some auth => exact (calls auth).bind fun _ => trivial

variable [ChronoCrate]

theorem calls_enqueueClipCreate
    (allows : ∀ op, op.writesOnly [.clips, .activities, .jobs] = true → allowed op)
    (baseUrl : String) (clipId : Nat) :
    (enqueueClipCreate baseUrl clipId : Handler Url Unit).Calls allowed := by
  refine calls_query_then (allows _ rfl) fun found => ?_
  split
  · trivial
  split
  · trivial
  refine calls_query_then (allows _ rfl) fun author => ?_
  split
  · trivial
  split
  · trivial
  refine Program.Calls.bind ?_ fun _ => ?_
  · unfold canonicalizeClip
    split
    · trivial
    · exact calls_query (allows _ rfl)
  refine calls_query_then (allows _ rfl) fun again => ?_
  split
  · trivial
  refine calls_caught_then (calls_query (allows _ rfl)) fun stored => ?_
  refine (calls_discarded (calls_query (allows _ rfl))).bind fun _ => ?_
  exact calls_query_then (allows _ rfl) fun _ => trivial

variable [UrlCrate Url]

omit [UrlCrate Url] in
theorem calls_ingestFetched
    (allows : ∀ op, op.storesRemote = true → allowed op)
    (actor : ActorRow) (note : Value) :
    (ingestFetched actor note : Handler Url Bool).Calls allowed := by
  refine (calls_ofPanicking _).bind fun parsed => ?_
  split
  · trivial
  split
  · trivial
  · exact calls_storeClip allows _ _

theorem calls_fetchAndIngestOne
    (allows : ∀ op, op.storesRemote = true → allowed op)
    (actor : ActorRow) (code : String) :
    (fetchAndIngestOne actor code : Handler Url Bool).Calls allowed := by
  refine (calls_ofOption _ _).bind fun url => ?_
  exact calls_query_then (allows _ rfl) fun note => calls_ingestFetched allows actor note

theorem calls_ingestAll
    (allows : ∀ op, op.storesRemote = true → allowed op)
    (actor : ActorRow) (codes : List String) :
    (ingestAll actor codes : Handler Url Nat).Calls allowed := by
  induction codes with
  | nil => trivial
  | cons code codes inductionHypothesis =>
      refine calls_caught_then (calls_fetchAndIngestOne allows actor code) fun outcome => ?_
      refine inductionHypothesis.bind fun created => ?_
      split <;> trivial

theorem calls_backfillActorPosts
    (allows : ∀ op, op.storesRemote = true → allowed op) (actorId max : Nat) :
    (backfillActorPosts actorId max : Handler Url Nat).Calls allowed := by
  refine calls_query_then (allows _ rfl) fun found => ?_
  split
  · trivial
  split
  · trivial
  split
  · trivial
  · trivial
  · exact calls_query_then (allows _ rfl) fun body => calls_ingestAll allows _ _

end Clips

end TootTok
