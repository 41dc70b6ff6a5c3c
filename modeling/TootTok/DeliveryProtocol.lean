import TootTok.Authorship
import TootTok.Idempotency
import TootTok.Effects.Recording
import TootTok.Effects.Service

/-!
# The protocol of the handlers

What each handler of the inbox may call after the calls that it has made, whatever these
have returned. A property of concurrent deliveries is kept by every call that a handler may
make, and what a handler has done in the end can be read off its calls.
-/

namespace TootTok

open Effects
open Json (Value)
open UrlCrate

variable {Url : Type}

/-! ## What a handler goes by -/

/-- Operations of the pipeline of uploads and of account deletions. -/
def Operation.servesAccount : Operation Url → Bool
  | .createPendingUpload _ | .setApId _ _ | .markClipsOfActorDeleted _ => true
  | _ => false

/-- The calls that a handler of the inbox goes by later. -/
def Operation.recalled : Operation Url → Bool
  | .tombstoneExists _ | .fetchActorByApId _ | .fetchActor _ | .upsertRemote _
  | .fetchClipByApId _ | .fetchActorById _ | .upsertTombstone _ _ | .markClipDeleted _ => true
  | _ => false

/-- Calls that a handler remembers, with their outcomes. -/
abbrev Recollection (Url : Type) : Type := Program.Record (@Operation.Result Url) Error

/-- The object has a tombstone since a call of the handler. -/
def Recollection.Buried (calls : Recollection Url) (objectId : String) : Prop :=
  ∃ type row, ⟨.upsertTombstone objectId type, .ok row⟩ ∈ calls

/-- What a `Delete` has done that was no duplicate: it has found no clip and buried the
object, found a clip that is not the signer's, or buried the object and deleted its clip. -/
def Recollection.Deleted (calls : Recollection Url) (objectId signer : String) : Prop :=
  (⟨.fetchClipByApId objectId, .ok none⟩ ∈ calls ∧ calls.Buried objectId) ∨
    ∃ clip, ⟨.fetchClipByApId objectId, .ok (some clip)⟩ ∈ calls ∧
      ((∃ author : Option ActorRow, ⟨.fetchActorById clip.actorId, .ok author⟩ ∈ calls ∧
          author.any (fun author => author.apId = signer) = false) ∨
        (calls.Buried objectId ∧ ∃ marked, ⟨.markClipDeleted clip.id, .ok marked⟩ ∈ calls))

variable [UrlCrate Url]

/-- The handler has resolved the actor. -/
def Recollection.Resolved (calls : Recollection Url) (actor : Url) (row : ActorRow) : Prop :=
  ⟨.fetchActorByApId (asStr actor), .ok (some row)⟩ ∈ calls ∨
    ∃ parts, ⟨.upsertRemote parts, .ok row⟩ ∈ calls

theorem Recollection.Resolved.mono {calls more : Recollection Url} {actor : Url} {row : ActorRow}
    (resolved : calls.Resolved actor row) (grown : calls ⊆ more) : more.Resolved actor row := by
  rcases resolved with read | ⟨parts, stored⟩
  · exact .inl (grown read)
  · exact .inr ⟨parts, grown stored⟩

namespace ApActivities

/-- The object that the activity makes a clip of. -/
def creates : ApActivities Url → Option String
  | .create activity => Note.embeddedObjectId activity.object
  | _ => none

/-- The object that the activity deletes. -/
def deletes : ApActivities Url → Option String
  | .delete activity => some (asStr activity.object.id)
  | _ => none

/-- The calls that the handler of an activity may make after those that it remembers. -/
def MayCall (activity : ApActivities Url) (calls : Recollection Url) : Operation Url → Prop
  | .createRemote new =>
      activity.creates = some new.apId ∧ ⟨.tombstoneExists new.apId, .ok false⟩ ∈ calls ∧
        ∃ row, row.id = new.actorId ∧ calls.Resolved activity.actor row
  | .upsertRemote parts =>
      ∃ document, ⟨.fetchActor activity.actor, .ok document⟩ ∈ calls ∧
        parts.id = asStr document.id
  | .fetchClipByApId objectId =>
      ∀ object, activity.deletes = some object → objectId = object ∧ calls = []
  | .upsertTombstone objectId _ => activity.deletes = some objectId
  | op => op.servesAccount = false

/-- How the handler of a `Delete` ends without an error. -/
def Finishes (activity : ApActivities Url) (outcome : Except Error Unit)
    (calls : Recollection Url) : Prop :=
  outcome = .ok () → ∀ object, activity.deletes = some object →
    calls = [] ∨ calls.Deleted object (asStr activity.actor)

/-- The protocol of the handler of an activity. -/
def protocol (activity : ApActivities Url) :
    Protocol (@Operation.Result Url) Error (Recollection Url) :=
  .recording Operation.recalled activity.MayCall

end ApActivities

/-! ### Handlers keep to it -/

section Follows

variable {α β : Type} {protocol : Protocol (@Operation.Result Url) Error (Recollection Url)}
  {calls : Recollection Url}

omit [UrlCrate Url] in
/-- A part whose outcome is caught ends with it, or with its panic. -/
theorem follows_caught {post : Except Error (Except Error α) → Recollection Url → Prop}
    {part : Handler Url α}
    (follows : part.Follows protocol
      (fun outcome final => (∀ panic, post (.error (.panicked panic)) final) ∧
        post (.ok outcome) final) calls) :
    part.caught.Follows protocol post calls := by
  unfold Handler.caught
  rw [Program.follows_bind, Program.follows_attempt]
  refine follows.mono fun outcome final ends => ?_
  rw [Program.thenFollows_ok]
  unfold Handler.unlessPanicked
  split
  · exact ends.1 _
  · exact ends.2

variable {activity : ApActivities Url}

/-- A cached actor is resolved. -/
theorem follows_readFromId :
    (DbActor.readFromId activity.actor).Follows activity.protocol
      (fun outcome final => calls ⊆ final ∧ ∀ author, outcome = .ok (some author) →
        final.Resolved activity.actor author.row) calls := by
  refine ⟨rfl, ?_⟩
  rintro (error | _ | row)
  · exact ⟨List.subset_append_left _ _, by rintro _ ⟨⟩⟩
  · exact ⟨List.subset_append_left _ _, by rintro _ ⟨⟩⟩
  · show (some <$> DbActor.fromRow row : Handler Url _).Follows activity.protocol _ (calls ++ _)
    unfold DbActor.fromRow
    split
    · refine ⟨List.subset_append_left _ _, ?_⟩
      rintro _ ⟨⟩
      exact .inl (List.mem_append_right _ List.mem_cons_self)
    · exact ⟨List.subset_append_left _ _, by rintro _ ⟨⟩⟩

theorem follows_dereferenceLocal :
    (dereferenceLocal activity.actor).Follows activity.protocol
      (fun outcome final => calls ⊆ final ∧ ∀ author, outcome = .ok author →
        final.Resolved activity.actor author.row) calls := by
  unfold dereferenceLocal
  rw [Program.follows_bind]
  refine follows_readFromId.mono ?_
  rintro (error | _ | author) final ⟨grown, resolved⟩
  · exact ⟨grown, by rintro _ ⟨⟩⟩
  · exact ⟨grown, by rintro _ ⟨⟩⟩
  · refine ⟨grown, ?_⟩
    rintro _ ⟨⟩
    exact resolved author rfl

/-- An actor document that was fetched is resolved by storing it. -/
theorem follows_fromJson {document : ApActor Url}
    (fetched : ⟨.fetchActor activity.actor, .ok document⟩ ∈ calls) :
    (DbActor.fromJson document).Follows activity.protocol
      (fun outcome final => calls ⊆ final ∧ ∀ author, outcome = .ok author →
        final.Resolved activity.actor author.row) calls := by
  unfold DbActor.fromJson
  cases hostStr document.id with
  | none => exact ⟨List.Subset.refl _, by rintro _ ⟨⟩⟩
  | some host =>
      refine ⟨⟨document, fetched, rfl⟩, ?_⟩
      rintro (error | row)
      · exact ⟨List.subset_append_left _ _, by rintro _ ⟨⟩⟩
      · show (DbActor.fromRow row : Handler Url _).Follows activity.protocol _ (calls ++ _)
        unfold DbActor.fromRow
        split
        · refine ⟨List.subset_append_left _ _, ?_⟩
          rintro _ ⟨⟩
          exact .inr ⟨_, List.mem_append_right _ List.mem_cons_self⟩
        · exact ⟨List.subset_append_left _ _, by rintro _ ⟨⟩⟩

theorem follows_dereferenceFromHttp {domain : String} {cached : Option (DbActor Url)}
    (known : ∀ author, cached = some author → calls.Resolved activity.actor author.row) :
    (dereferenceFromHttp domain activity.actor cached).Follows activity.protocol
      (fun outcome final => calls ⊆ final ∧ ∀ author, outcome = .ok author →
        final.Resolved activity.actor author.row) calls := by
  unfold dereferenceFromHttp
  rw [Program.follows_bind]
  refine follows_caught ((Program.follows_perform _ _).mpr ⟨rfl, fun outcome => ?_⟩)
  have grown : calls ⊆ calls ++ [⟨.fetchActor activity.actor, outcome⟩] :=
    List.subset_append_left _ _
  refine ⟨fun panic => ⟨grown, by rintro _ ⟨⟩⟩, ?_⟩
  rw [Program.thenFollows_ok]
  change (dereferenceFromAnswer domain activity.actor cached outcome).Follows activity.protocol _
    (calls ++ [⟨.fetchActor activity.actor, outcome⟩])
  unfold dereferenceFromAnswer
  split
  · exact ⟨grown, by rintro _ ⟨⟩⟩
  · cases cached with
    | none => exact ⟨grown, by rintro _ ⟨⟩⟩
    | some author =>
        refine ⟨grown, ?_⟩
        rintro _ ⟨⟩
        exact (known author rfl).mono grown
  next document =>
    split
    · refine follows_dereferenceLocal.mono ?_
      exact fun outcome final ends => ⟨List.Subset.trans grown ends.1, ends.2⟩
    · split
      · exact ⟨grown, by rintro _ ⟨⟩⟩
      · refine (follows_fromJson (List.mem_append_right _ List.mem_cons_self)).mono ?_
        exact fun outcome final ends => ⟨List.Subset.trans grown ends.1, ends.2⟩

/-- An actor is dereferenced by reading or by storing its row. -/
theorem follows_dereference (domain : String) :
    (dereference domain activity.actor).Follows activity.protocol
      (fun outcome final => calls ⊆ final ∧ ∀ author, outcome = .ok author →
        final.Resolved activity.actor author.row) calls := by
  unfold dereference
  rw [Program.follows_bind]
  refine follows_readFromId.mono ?_
  rintro (error | _ | author) final ⟨grown, resolved⟩
  · exact ⟨grown, by rintro _ ⟨⟩⟩
  · refine (follows_dereferenceFromHttp (by rintro _ ⟨⟩)).mono ?_
    exact fun outcome final ends => ⟨List.Subset.trans grown ends.1, ends.2⟩
  rw [Program.thenFollows_ok]
  dsimp only
  split
  · refine ⟨grown, ?_⟩
    rintro _ ⟨⟩
    exact resolved author rfl
  refine ⟨rfl, ?_⟩
  rintro (error | outdated)
  · exact ⟨grown, by rintro _ ⟨⟩⟩
  change (if outdated then dereferenceFromHttp domain activity.actor (some author)
    else pure author).Follows activity.protocol _ final
  split
  · refine (@follows_dereferenceFromHttp _ _ _ _ _ (some author) ?_).mono ?_
    · rintro _ ⟨⟩
      exact resolved author rfl
    · exact fun outcome final ends => ⟨List.Subset.trans grown ends.1, ends.2⟩
  · refine ⟨grown, ?_⟩
    rintro _ ⟨⟩
    exact resolved author rfl

/-- A `Create` inserts the clip of an object that it has found alive, for an author that it
has resolved. -/
theorem follows_ingestNote [ChronoCrate] {data : FederationData} {object : Value}
    {objectId : String} (creates : activity.creates = some objectId)
    (embedded : Note.embeddedObjectId object = some objectId) :
    (ingestNote data activity.actor objectId object).Follows activity.protocol
      (fun _ _ => True) calls := by
  refine ⟨rfl, ?_⟩
  rintro (error | gone)
  · trivial
  show (if gone then _ else _ : Handler Url Unit).Follows activity.protocol _
    (calls ++ [⟨.tombstoneExists objectId, .ok gone⟩])
  split
  · trivial
  next alive =>
  rw [Bool.not_eq_true] at alive
  subst alive
  cases parsed : Note.parseInboundNote object with
  | error panic => trivial
  | ok outcome =>
  cases outcome with
  | error reason => trivial
  | ok note =>
  have named : objectId = note.id :=
    Option.some.inj (embedded.symm.trans (Note.parseInboundNote_eq_ok parsed).1)
  subst named
  simp only [Handler.ofPanicking, Program.done_bind]
  split
  case isFalse => trivial
  unfold storeNote
  rw [Program.follows_bind]
  refine follows_caught ((follows_dereference data.domain).mono ?_)
  rintro (error | author) final ⟨grown, resolved⟩
  · exact ⟨fun _ => trivial, trivial⟩
  refine ⟨fun _ => trivial, ?_⟩
  rw [Program.thenFollows_ok]
  dsimp only
  unfold storeClip
  rw [Program.follows_bind, Program.follows_bind]
  refine follows_caught ((Program.follows_perform _ _).mpr ⟨⟨creates, ?_, ?_⟩, ?_⟩)
  · exact grown (List.mem_append_right _ List.mem_cons_self)
  · exact ⟨author.row, rfl, resolved author rfl⟩
  · intro outcome
    refine ⟨fun _ => trivial, ?_⟩
    rw [Program.thenFollows_ok]
    split <;> trivial

/-- What a `Delete` does after its lookup. -/
theorem follows_applyDelete {objectId : String} (deletes : activity.deletes = some objectId) :
    (applyDelete objectId (asStr activity.actor)).Follows activity.protocol
      (fun outcome final => outcome = .ok () → final.Deleted objectId (asStr activity.actor))
      [] := by
  refine ⟨fun object isObject => ⟨Option.some.inj (deletes.symm.trans isObject), rfl⟩, ?_⟩
  rintro (error | _ | clip)
  · rintro ⟨⟩
  · refine ⟨deletes, ?_⟩
    rintro (error | row)
    · rintro ⟨⟩
    change (Handler.discarded (query (.markRemoteDeletedByApId objectId)) :
      Handler Url Unit).Follows activity.protocol _
      [⟨.fetchClipByApId objectId, .ok none⟩, ⟨.upsertTombstone objectId .person, .ok row⟩]
    unfold Handler.discarded
    rw [Program.follows_bind]
    refine follows_caught ((Program.follows_perform _ _).mpr ⟨rfl, fun outcome => ?_⟩)
    refine ⟨by rintro panic ⟨⟩, fun _ => .inl ⟨?_, .person, row, ?_⟩⟩
    · exact List.mem_cons_self
    · exact List.mem_cons_of_mem _ List.mem_cons_self
  · refine ⟨rfl, ?_⟩
    rintro (error | author)
    · rintro ⟨⟩
    change (if author.any (fun author => author.apId = asStr activity.actor) then
        deleteClip objectId clip else pure ()).Follows activity.protocol _
      [⟨.fetchClipByApId objectId, .ok (some clip)⟩, ⟨.fetchActorById clip.actorId, .ok author⟩]
    split
    case isFalse foreign =>
      refine fun _ => .inr ⟨clip, List.mem_cons_self, .inl ⟨author, ?_, ?_⟩⟩
      · exact List.mem_cons_of_mem _ List.mem_cons_self
      · exact Bool.eq_false_iff.mpr foreign
    refine ⟨deletes, ?_⟩
    rintro (error | row)
    · rintro ⟨⟩
    refine ⟨rfl, ?_⟩
    rintro (error | marked)
    · rintro ⟨⟩
    refine fun _ => .inr ⟨clip, List.mem_cons_self, .inr ⟨⟨.note, row, ?_⟩, marked, ?_⟩⟩
    · simp [ApActivities.protocol, Protocol.recording, Operation.recalled]
    · simp [ApActivities.protocol, Protocol.recording, Operation.recalled]

/-- Calls that any handler may make. -/
def Operation.harmless : Operation Url → Bool
  | .createRemote _ | .upsertRemote _ | .upsertTombstone _ _ => false
  | op => !op.servesAccount

/-- A handler that deletes nothing may make harmless calls. -/
theorem follows_harmless {work : Handler Url Unit} (keeps : activity.deletes = none)
    (calls' : work.Calls fun op => op.harmless = true) :
    work.Follows activity.protocol activity.Finishes calls := by
  refine (calls'.follows (fun _ => True) ?_ (fun _ _ _ _ _ => trivial) trivial).mono ?_
  · intro ghost op _ harmless
    cases op with
    | fetchClipByApId _ =>
        intro object deletes
        rw [keeps] at deletes
        cases deletes
    | createRemote _ | upsertRemote _ | upsertTombstone _ _ | createPendingUpload _
    | setApId _ _ | markClipsOfActorDeleted _ => cases harmless
    | _ => rfl
  · intro outcome final _ _ object deletes
    rw [keeps] at deletes
    cases deletes

omit [UrlCrate Url] in
theorem Operation.harmless_of_writesOnly {names : List TableName}
    (others : names ⊆ [.follows, .activities, .jobs]) (op : Operation Url)
    (only : op.writesOnly names = true) : op.harmless = true := by
  have quiet := op.writesOnly_mono others only
  cases op with
  | createRemote _ | upsertRemote _ | upsertTombstone _ _ | createPendingUpload _
  | setApId _ _ | markClipsOfActorDeleted _ => cases quiet
  | _ => rfl

variable [ChronoCrate] {data : FederationData}

/-- What the handler of an activity does behind the gate. -/
theorem follows_work :
    (activity.work data).Follows activity.protocol
      (fun outcome final => outcome = .ok () → ∀ object, activity.deletes = some object →
        final.Deleted object (asStr activity.actor)) [] := by
  have weaken {work : Handler Url Unit} (keeps : activity.deletes = none)
      (follows : work.Follows activity.protocol (fun _ _ => True) []) :
      work.Follows activity.protocol
        (fun outcome final => outcome = .ok () → ∀ object, activity.deletes = some object →
          final.Deleted object (asStr activity.actor)) [] := by
    refine follows.mono fun outcome final _ _ object deletes => ?_
    rw [keeps] at deletes
    cases deletes
  have harmless {work : Handler Url Unit} (keeps : activity.deletes = none)
      (calls : work.Calls fun op => op.harmless = true) :=
    weaken keeps ((follows_harmless keeps calls).mono fun _ _ _ => trivial)
  cases activity with
  | follow activity =>
      refine harmless rfl (Handler.calls_query_then rfl fun gone => ?_)
      split
      · trivial
      · exact calls_record (Operation.harmless_of_writesOnly (List.Subset.refl _)) activity
  | accept activity =>
      exact harmless rfl (calls_acceptFollow (Operation.harmless_of_writesOnly (by decide)) _)
  | reject activity =>
      exact harmless rfl (calls_rejectFollow (Operation.harmless_of_writesOnly (by decide)) _)
  | undo activity =>
      refine harmless rfl ?_
      simp only [ApActivities.work]
      split
      · trivial
      · exact calls_undoFollow (Operation.harmless_of_writesOnly (by decide)) _
  | delete activity =>
      have deletes :
          (ApActivities.delete activity).deletes = some (asStr activity.object.id) := rfl
      refine (follows_applyDelete deletes).mono ?_
      rintro outcome final ends isOk object ⟨⟩
      exact ends isOk
  | create activity =>
      refine weaken rfl ?_
      simp only [ApActivities.work]
      split
      · trivial
      next objectId embedded =>
        have creates : (ApActivities.create activity).creates = some objectId := embedded
        exact follows_ingestNote creates embedded
  | update activity =>
      refine harmless rfl ?_
      simp only [ApActivities.work]
      split
      · trivial
      refine Handler.calls_query_then rfl fun found => ?_
      cases found with
      | none => trivial
      | some clip =>
          refine Program.Calls.bind ?_ fun owner => ?_
          · exact Handler.calls_query_then rfl fun _ => trivial
          · split
            · exact Handler.calls_query_then rfl fun _ => trivial
            · trivial
  | move activity => exact harmless rfl trivial
  | passthrough activity => exact harmless rfl trivial

/-- Every handler keeps to its protocol. -/
theorem follows_receive :
    (activity.receive data).Follows activity.protocol activity.Finishes [] := by
  rw [ApActivities.receive_eq]
  refine ⟨rfl, ?_⟩
  rintro (error | _ | row)
  · rintro ⟨⟩
  · exact fun _ _ _ => .inl rfl
  change (activity.work data >>= fun _ => inboundFinish activity.id).Follows activity.protocol
    activity.Finishes []
  rw [Program.follows_bind]
  refine follows_work.mono fun outcome final deleted => ?_
  cases outcome with
  | error error => rintro ⟨⟩
  | ok _ =>
      refine ⟨rfl, ?_⟩
      rintro (error | stamped)
      · rintro ⟨⟩
      · exact fun _ object deletes => .inr (deleted rfl object deletes)

end Follows

/-! ## Runs -/

section Runs

variable {ι : Type} [DecidableEq ι]

/-- What happens in a run of concurrent deliveries. -/
abbrev DeliveryEvent (ι Url : Type) : Type :=
  Effects.Event ι (@Operation.Result Url) Error (Env Url)

/-- What a handler remembers after some events. -/
abbrev recollectionOf (events : List (DeliveryEvent ι Url)) (thread : ι) : Recollection Url :=
  callsOfTask Operation.recalled events thread

/-- The runs of concurrent deliveries, each of which may stop for good after any call. -/
abbrev ConcurrentRun [ChronoCrate]
    (data : FederationData) (activities : ι → ApActivities Url) (allow : Env Url → Prop)
    (start : Db) : List (DeliveryEvent ι Url) →
      Effects.Config ι (@Operation.Result Url) Error Unit Db → Prop :=
  Serves Operation.exec (fun _ _ => False) (fun _ _ _ _ env => allow env)
    (concurrentDeliveries data start activities)

theorem ApActivities.MayCall.federated {activity : ApActivities Url} {calls : Recollection Url}
    {op : Operation Url} (mayCall : activity.MayCall calls op) : op.servesAccount = false := by
  cases op with
  | createRemote _ | upsertRemote _ | fetchClipByApId _ | upsertTombstone _ _ => rfl
  | _ => exact mayCall

omit [DecidableEq ι] in
theorem concurrentDeliveries_follow [ChronoCrate] (data : FederationData)
    (activities : ι → ApActivities Url) (start : Db) (thread : ι) :
    ((concurrentDeliveries data start activities).threads thread).Follows
      ((fun thread => (activities thread).protocol) thread)
      ((fun thread => (activities thread).Finishes) thread)
      ((fun thread => (activities thread).protocol) thread).initial :=
  follows_receive

/-- The invariant rule of concurrent deliveries. -/
theorem ConcurrentRun.invariant [ChronoCrate] {data : FederationData}
    {activities : ι → ApActivities Url} {allow : Env Url → Prop} {start : Db}
    {events : List (DeliveryEvent ι Url)}
    {config : Effects.Config ι (@Operation.Result Url) Error Unit Db}
    (run : ConcurrentRun data activities allow start events config)
    (holds : List (DeliveryEvent ι Url) → Db → Prop) (initially : holds [] start)
    (begins : ∀ events db thread, holds events db → holds (events ++ [.began thread]) db)
    (calls : ∀ events db thread op env, holds events db →
      (activities thread).MayCall (recollectionOf events thread) op → allow env →
      holds (events ++ [.called ⟨thread, op, env, (Operation.exec env op db).1⟩])
        (Operation.exec env op db).2) :
    holds events config.state :=
  Serves.invariant run (concurrentDeliveries_follow data activities start)
    (fun _ _ => False.elim) holds initially begins calls

/-- A handler that has ended without an error has done what it is to do. -/
theorem ConcurrentRun.finishes [ChronoCrate] {data : FederationData}
    {activities : ι → ApActivities Url} {allow : Env Url → Prop} {start : Db}
    {events : List (DeliveryEvent ι Url)}
    {config : Effects.Config ι (@Operation.Result Url) Error Unit Db}
    (run : ConcurrentRun data activities allow start events config) {thread : ι}
    (finished : config.threads thread = .done ()) :
    (activities thread).Finishes (.ok ()) (recollectionOf events thread) := by
  have follows := run.follows (concurrentDeliveries_follow data activities start)
    (fun _ _ => False.elim) thread
  rw [finished] at follows
  exact follows

end Runs

end TootTok
