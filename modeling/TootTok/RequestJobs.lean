import TootTok.TurnInvariants

/-!
# What requests leave to the pipeline

No request queues a stage of the media pipeline, and none removes a file but the deletion of
an account, which has marked the clips of the account before it looks for their files.
-/

namespace TootTok

open Effects
open Json (Value)
open UrlCrate
open Routine

variable {Url : Type}

/-- The operation queues a stage of the media pipeline. -/
def Operation.queuesMedia : Operation Url → Bool
  | .createJob kind _ => kind.isMedia
  | _ => false

/-- The handler queues no stage of the media pipeline. -/
abbrev Handler.QueuesNoMedia {α : Type} (handler : Handler Url α) : Prop :=
  handler.Calls fun op => op.queuesMedia = false

theorem Operation.queuesMedia_of_writesOnly
    {names : List Operation.TableName} (others : .jobs ∉ names) (op : Operation Url)
    (only : op.writesOnly names = true) : op.queuesMedia = false := by
  cases op with
  | createJob kind payload =>
      exact (Operation.writes_ne_of_writesOnly others _ only rfl).elim
  | _ => rfl

/-! ## Handlers -/

namespace Handler

theorem queuesNoMedia_discarded (op : Operation Url) (quiet : op.queuesMedia = false) :
    (query op).discarded.QueuesNoMedia :=
  calls_discarded (calls_query quiet)

theorem queuesNoMedia_acceptFollow (followId : String) :
    (acceptFollow followId : Handler Url Unit).QueuesNoMedia := by
  refine calls_query_then rfl fun found => ?_
  cases found with
  | none => trivial
  | some follow =>
      refine calls_query_then rfl fun _ => ?_
      exact calls_discarded (calls_query_then rfl fun _ => trivial)

theorem queuesNoMedia_enqueueDelivery (actorId : Nat) (inboxUrl : String) (activity : Value) :
    (enqueueDelivery actorId inboxUrl activity : Handler Url Unit).QueuesNoMedia :=
  calls_query_then rfl fun _ => trivial

theorem queuesNoMedia_enqueueFollowDelivery (followerId targetId : Nat) (activity : Value) :
    (enqueueFollowDelivery followerId targetId activity : Handler Url Unit).QueuesNoMedia :=
  calls_query_then rfl fun _ => trivial

variable [UrlCrate Url] {data : FederationData}

theorem queuesNoMedia_autoAccept (activity : Follow Url) (follower target : DbActor Url) :
    (activity.autoAccept data follower target).QueuesNoMedia := by
  refine calls_query_then rfl fun _ => ?_
  refine calls_query_then rfl fun _ => ?_
  refine Program.Calls.bind (queuesNoMedia_discarded _ rfl) fun _ => ?_
  refine Program.Calls.bind ?_ fun inbox => queuesNoMedia_enqueueDelivery _ _ _
  unfold DbActor.sharedInboxOrInbox
  split
  · trivial
  · split <;> trivial

theorem queuesNoMedia_record (activity : Follow Url) : (activity.record data).QueuesNoMedia := by
  have reads := @Operation.queuesMedia_of_writesOnly Url [] (by decide)
  refine (calls_dereferenceLocal reads _).bind fun target => ?_
  split
  · trivial
  refine (calls_dereferenceLocal reads _).bind fun follower => ?_
  refine calls_query_then rfl fun _ => ?_
  split
  · trivial
  · exact queuesNoMedia_autoAccept activity follower target

theorem queuesNoMedia_work [ChronoCrate] (activity : ApActivities Url) :
    (activity.work data).QueuesNoMedia := by
  have others {names : List Operation.TableName} (others : .jobs ∉ names) :=
    @Operation.queuesMedia_of_writesOnly Url names others
  cases activity with
  | follow activity =>
      refine Program.Calls.bind (calls_query rfl) fun gone => ?_
      split
      · trivial
      · exact queuesNoMedia_record activity
  | accept activity => exact queuesNoMedia_acceptFollow _
  | reject activity => exact calls_rejectFollow (others (by decide)) _
  | undo activity =>
      simp only [ApActivities.work]
      split
      · trivial
      · exact calls_undoFollow (others (by decide)) _
  | delete activity => exact calls_applyDelete (others (by decide)) (fun _ => rfl) _ _
  | create activity =>
      simp only [ApActivities.work]
      split
      · trivial
      · exact calls_ingestNote (others (by decide)) (fun _ _ _ _ => rfl) _ _ _
  | update activity =>
      simp only [ApActivities.work]
      split
      · trivial
      · exact calls_applyUpdate (others (by decide)) _ _ _
  | move activity => trivial
  | passthrough activity => trivial

theorem queuesNoMedia_recordFollow (auth target : ActorRow) (status : Nat) (state : FollowState)
    (logged : Bool) (deliverError : String) {deliver : Value → Handler Url Unit}
    (delivers : ∀ activity, (deliver activity).QueuesNoMedia) :
    (recordFollow data auth target status state logged deliverError deliver).QueuesNoMedia := by
  have reads := @Operation.queuesMedia_of_writesOnly Url [] (by decide)
  refine (calls_newActivityId reads _).bind fun followId => ?_
  refine calls_caught_then (calls_query rfl) fun outcome => ?_
  cases outcome with
  | error error => trivial
  | ok row =>
      cases logged with
      | false =>
          refine calls_caught_then (delivers _) fun outcome => ?_
          cases outcome <;> trivial
      | true =>
          refine Program.Calls.bind (queuesNoMedia_discarded _ rfl) fun _ => ?_
          refine calls_caught_then (delivers _) fun outcome => ?_
          cases outcome <;> trivial

theorem queuesNoMedia_apiFollow (auth : ActorRow) (request : FollowRequest) :
    (apiFollow data auth request : Handler Url Response).QueuesNoMedia := by
  have reads := @Operation.queuesMedia_of_writesOnly Url [] (by decide)
  unfold apiFollow
  split
  · unfold followById
    split
    · trivial
    refine calls_caught_then (calls_query rfl) fun outcome => ?_
    split
    · trivial
    · trivial
    · split
      · exact queuesNoMedia_recordFollow _ _ _ _ _ _ fun _ => trivial
      · exact queuesNoMedia_recordFollow _ _ _ _ _ _ fun activity =>
          queuesNoMedia_enqueueDelivery _ _ activity
  split
  · trivial
  unfold followByUri
  split
  · trivial
  split
  · trivial
  refine (calls_followTarget reads (fun _ _ _ _ => rfl) _).bind fun target => ?_
  split
  · trivial
  split
  · trivial
  split
  · exact queuesNoMedia_recordFollow _ _ _ _ _ _ fun _ => trivial
  · exact queuesNoMedia_recordFollow _ _ _ _ _ _ fun activity =>
      queuesNoMedia_enqueueFollowDelivery _ _ activity

theorem queuesNoMedia_apiUnfollow (auth : ActorRow) (targetId : Nat) :
    (apiUnfollow data auth targetId : Handler Url Response).QueuesNoMedia := by
  have reads := @Operation.queuesMedia_of_writesOnly Url [] (by decide)
  refine calls_caught_then (calls_query rfl) fun outcome => ?_
  split
  · trivial
  · trivial
  split
  · trivial
  refine Program.Calls.bind (queuesNoMedia_discarded _ rfl) fun _ => ?_
  refine (calls_newActivityId reads _).bind fun undoId => ?_
  refine Program.Calls.bind (queuesNoMedia_discarded _ rfl) fun _ => ?_
  refine calls_caught_then (calls_query rfl) fun found => ?_
  split
  · refine calls_caught_then (queuesNoMedia_enqueueDelivery _ _ _) fun outcome => ?_
    split <;> trivial
  · trivial

-- Lest a search be run on an unknown text.
attribute [local irreducible] searchActors

variable [ChronoCrate]

theorem queuesNoMedia_request (config : Config) {event : Event Url}
    (isRequest : event.isRequest = true) : (event.program config).QueuesNoMedia := by
  have others {names : List Operation.TableName} (others : .jobs ∉ names) :=
    @Operation.queuesMedia_of_writesOnly Url names others
  have caches (parts : RemoteActorParts) (id : Url) (_ : parts.id = asStr id)
      (_ : isLocalUrl id config.federationDomain = false) :
      (Operation.upsertRemote parts : Operation Url).queuesMedia = false := rfl
  cases event with
  | boot publicKeyPem privateKeyPem =>
      exact (calls_initFederation (others (by decide)) config _ _).bind fun _ => trivial
  | registration username publicKeyPem privateKeyPem =>
      exact Program.Calls.bind (calls_query rfl) fun _ => trivial
  | inbound activity =>
      rw [Event.program, ApActivities.receive_eq]
      exact calls_pipeline (others (by decide)) _ _ _ _ (queuesNoMedia_work activity)
  | resolution url =>
      exact (calls_dereference (others (by decide)) caches url).bind fun _ => trivial
  | follow authId request =>
      exact calls_authenticated (others (by decide)) authId fun auth =>
        queuesNoMedia_apiFollow auth request
  | unfollow authId targetId =>
      exact calls_authenticated (others (by decide)) authId fun auth =>
        queuesNoMedia_apiUnfollow auth targetId
  | search text =>
      exact Program.Calls.bind (calls_searchActors (others (by decide)) (fun _ => rfl) text)
        fun _ => trivial
  | upload authId sha256Hash sizeBytes caption =>
      exact calls_authenticated (others (by decide)) authId fun auth =>
        calls_storeUpload (others (by decide)) auth _ _ _
  | backfill actorId max => cases isRequest
  | announceClip clipId => cases isRequest
  | deleteAccount authId => cases isRequest

end Handler

/-! ## Tasks -/

/-- What a request may call: it queues no media job, and removes the files of the clips of an
account that it has marked as deleted. -/
def RequestErases (mediaDir : String) (calls : Calls Url) : WorkerOp Url → Prop
  | .base op => op.queuesMedia = false
  | .assetPathsOfActor actorId => calls.Did (.base (.markClipsOfActorDeleted actorId))
  | .removeFile target => ∃ actorId paths key, calls.Returned (.assetPathsOfActor actorId) paths ∧
      key ∈ paths ∧ Store.abs mediaDir key = some target
  | _ => False

section Requests

variable {calls : Calls Url} {mediaDir : String}

theorem erases_deleteKeys {actorId : Nat} {paths : List String}
    (returned : calls.Returned (.assetPathsOfActor actorId) paths) (keys : List String)
    (some : ∀ key ∈ keys, key ∈ paths) :
    (deleteKeys mediaDir keys).Keeps (RequestErases mediaDir) calls := by
  induction keys generalizing calls with
  | nil => trivial
  | cons key keys inductionHypothesis =>
      have others : ∀ other ∈ keys, other ∈ paths :=
        fun other member => some other (List.mem_cons_of_mem _ member)
      unfold deleteKeys deleteKey onKey
      split
      next target located =>
        refine keeps_discarded_ask_then _ rfl ⟨actorId, paths, key, returned,
          some key List.mem_cons_self, located⟩ fun _ => ?_
        exact inductionHypothesis returned.append others
      next => exact inductionHypothesis returned others

theorem erases_deleteAccount (authId : Nat) :
    (deleteAccount mediaDir authId : Routine Url Unit).Keeps (RequestErases mediaDir) [] := by
  refine reaches_ask_then _ rfl rfl (fun _ => trivial) fun auth => ?_
  cases auth with
  | none => trivial
  | some auth =>
      refine reaches_ask_then _ rfl rfl (fun _ => trivial) fun marked => ?_
      refine reaches_ask_then _ rfl (Calls.did_append_self _ marked) (fun _ => trivial)
        fun paths => ?_
      refine reaches_then (erases_deleteKeys (Calls.returned_append_self _ paths) paths
        fun _ member => member) (fun _ _ _ => trivial) fun _ final _ => ?_
      refine reaches_ask_then _ rfl rfl (fun _ => trivial) fun _ => ?_
      exact reaches_ask_then _ rfl rfl (fun _ => trivial) fun _ => trivial

theorem erases_request [UrlCrate Url] [ChronoCrate] {config : Config} {workers : WorkerConfig}
    {task : Routine Url Unit} (isRequest : Background.Requests config workers task) :
    task.Keeps (RequestErases workers.mediaDir) [] := by
  cases isRequest with
  | deleteAccount authId => exact erases_deleteAccount authId
  | event event request =>
      exact (reaches_ofHandler (Handler.queuesNoMedia_request config request) (fun _ => True)
        (fun _ _ _ queues => queues) (fun _ _ _ _ => trivial) trivial).keeps

end Requests
end TootTok
