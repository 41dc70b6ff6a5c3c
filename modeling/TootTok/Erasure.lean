import TootTok.Deletion
import TootTok.TurnInvariants

/-!
# Publication and erasure

A clip is announced in three steps: its finalize job finds it alive and queues a
fan-out, and the fan-out queues a delivery to each inbox. Only the first step
looks at the deletion mark. Deliveries are queued for live clips of live authors
only, as long as no clip is deleted between its first step and its last.
-/

namespace TootTok

open Effects
open Json (Value)
open Relational (SerialTable)

variable {Url : Type}

/-! ## Clips that are being published -/

/-- A clip of this server that is not deleted. -/
def Server.HasLiveClip (server : Server) (clipId : Nat) : Prop :=
  ∃ clip ∈ server.clips, clip.id = clipId ∧ clip.origin = .localUpload ∧ clip.deletedAt = none

/-- The turn is fanning out the announcement of a clip. -/
structure Calls.FanningOut (job : JobRow) (clipId : Nat) (calls : Calls Url) : Prop where
  working : calls.Working job
  kind : job.kind = .deliverCreate
  named : job.clipId = some (clipId : Int)

/-- The fan-out of a clip is yet to be done. -/
structure JobRow.AwaitsFanOut (row : JobRow) (clipId : Nat) : Prop where
  kind : row.kind = .deliverCreate
  named : row.clipId = some (clipId : Int)
  pending : ¬row.Over

/-- Nothing of a clip is being published: no fan-out is queued or under way, and no
finalize job that has found the clip alive is about to queue one. -/
structure Quiet
    (events : List (Effects.Event Thread (@WorkerOp.Result Url) Error (WorkerEnv Url)))
    (server : Server) (clipId : Nat) : Prop where
  queued : ∀ row ∈ server.jobs, ¬row.AwaitsFanOut clipId
  fanning : ∀ thread job,
    ¬Calls.FanningOut job clipId (callsOfTask WorkerOp.noted events thread)
  announcing : ∀ thread job,
    ¬Calls.Announcing job clipId (callsOfTask WorkerOp.noted events thread)

/-- The clips of this server are deleted only while nothing of them is published. -/
def DeletesQuietly : Background.Condition Url := fun events server _ op _ =>
  ∀ clip ∈ server.clips, clip.origin = .localUpload → op.Deletes clip →
    Quiet events server clip.id

/-- A live clip of this server has a live author. -/
def Server.AuthorsLive (server : Server) : Prop :=
  ∀ clip ∈ server.clips, clip.origin = .localUpload → clip.deletedAt = none →
    ∀ author ∈ server.actors, author.id = clip.actorId → author.deletedAt = none

/-- Nothing of a deleted clip is being published. -/
structure Server.Unerased (server : Server) : Prop where
  queued : ∀ row ∈ server.jobs, ∀ clipId : Nat, row.AwaitsFanOut clipId →
    server.HasLiveClip clipId
  authors : server.AuthorsLive

/-! ## What a call does to clips and actors -/

section Calls

variable {server : Server} {workers : WorkerConfig} {thread : Thread} {calls : Calls Url}
  {op : WorkerOp Url} {env : WorkerEnv Url}

/-- A live clip stays alive until it is deleted. -/
theorem Server.HasLiveClip.survives {clipId : Nat} (live : server.HasLiveClip clipId)
    (spared : ∀ clip ∈ server.clips, clip.id = clipId → clip.origin = .localUpload →
      ¬op.Deletes clip) :
    (WorkerOp.exec env op server).2.HasLiveClip clipId := by
  obtain ⟨clip, stored, named, isLocal, alive⟩ := live
  obtain ⟨new, member, sameId⟩ := WorkerOp.clip_survives env op server stored
  have isClip {old : ClipRow} (oldStored : old ∈ server.clips) (same : new.id = old.id) :
      old = clip :=
    SerialTable.eq_of_number_eq oldStored stored (same.symm.trans sameId)
  refine ⟨new, member, sameId.trans named, ?_⟩
  rcases WorkerOp.clip_after env op server member with
    ⟨old, oldStored, kept⟩ | ⟨old, oldStored, deletes, rfl⟩ | ⟨fresh, -, -⟩ |
      ⟨-, old, oldStored, staged⟩
  · rw [kept.origin, kept.deletedAt, isClip oldStored kept.id]
    exact ⟨isLocal, alive⟩
  · obtain rfl := isClip oldStored rfl
    exact (spared old oldStored named isLocal deletes).elim
  · exact (SerialTable.number_ne_next stored (sameId.symm.trans fresh)).elim
  · rw [staged.origin, staged.deletedAt, isClip oldStored staged.id]
    exact ⟨isLocal, alive⟩

/-- No thread adds a clip of this server. -/
theorem not_uploads (allowed : TurnAllowed workers DeletionAllowed thread calls op) :
    op.uploads = false := by
  cases op with
  | base op =>
      cases op with
      | createPendingUpload new => cases thread <;> cases allowed
      | _ => rfl
  | _ => rfl

/-- A clip of this server was stored before, and is not brought back to life. -/
theorem local_clip_after (allowed : TurnAllowed workers DeletionAllowed thread calls op)
    {new : ClipRow} (member : new ∈ (WorkerOp.exec env op server).2.clips)
    (isLocal : new.origin = .localUpload) :
    ∃ old ∈ server.clips, old.origin = .localUpload ∧ old.actorId = new.actorId ∧
      (new.deletedAt = none → old.deletedAt = none) := by
  rcases WorkerOp.clip_after env op server member with
    ⟨old, stored, kept⟩ | ⟨old, stored, -, rfl⟩ | ⟨-, -, ⟨uploads, -⟩ | ⟨isRemote, -⟩⟩ |
      ⟨-, old, stored, staged⟩
  · exact ⟨old, stored, kept.origin ▸ isLocal, kept.actorId.symm, fun alive =>
      kept.deletedAt ▸ alive⟩
  · exact ⟨old, stored, isLocal, rfl, nofun⟩
  · rw [not_uploads allowed] at uploads
    cases uploads
  · exact Origin.noConfusion (isRemote.symm.trans isLocal)
  · exact ⟨old, stored, staged.origin ▸ isLocal, staged.actorId.symm, fun alive =>
      staged.deletedAt ▸ alive⟩

/-- Marking an actor leaves the other actors alone. -/
theorem stored_of_markActorDeleted {id : Nat} {author : ActorRow}
    (member : author ∈ (WorkerOp.exec env (.base (.markActorDeleted id)) server).2.actors)
    (other : author.id ≠ id) : author ∈ server.actors := by
  rcases WorkerOp.exec_cases env (.base (.markActorDeleted id)) server with
    ⟨error, failed⟩ | performed
  · rwa [failed] at member
  rw [performed] at member
  change author ∈ (Operation.exec env.toEnv (.markActorDeleted id) server.toDb).2.actors
    at member
  rcases Operation.exec_cases env.toEnv (.markActorDeleted id) server.toDb with
    ⟨error, failed⟩ | performed
  · rwa [failed] at member
  rw [performed] at member
  obtain ⟨old, stored, changed⟩ := Actors.mem_delete.mp member
  unfold Relational.Table.changeWhere at changed
  split at changed
  next named =>
    subst changed
    exact (other (of_decide_eq_true named)).elim
  next =>
    subst changed
    exact stored

/-- Actors change only when the deletion of an account marks one, whose clips it has
deleted. -/
theorem actors_after (env : WorkerEnv Url) (server : Server)
    (allowed : TurnAllowed workers DeletionAllowed thread calls op) :
    (WorkerOp.exec env op server).2.actors = server.actors ∨
      ∃ id, op = .base (.markActorDeleted id) ∧
        calls.Did (.base (.markClipsOfActorDeleted id)) ∧
        ∀ author ∈ (WorkerOp.exec env op server).2.actors, author.id ≠ id →
          author ∈ server.actors := by
  by_cases writes : op.Writes .actors
  case neg => exact .inl (WorkerOp.exec_frame .actors writes env server)
  cases op with
  | base op =>
      cases op with
      | markActorDeleted id =>
          cases thread with
          | media index | delivery => cases allowed
          | maintenance => exact allowed.elim
          | request index => exact .inr ⟨id, rfl, allowed, fun _ => stored_of_markActorDeleted⟩
      | createActor | insertInstanceActor | upsertRemote | markRemoteDeletedByApId =>
          cases thread <;> cases allowed
      | _ => cases writes
  | _ => exact writes.elim

/-- The deletion of an account leaves no clip of the actor alive. -/
theorem clips_after_deletion {actorId : Nat} {result : Unit}
    (succeeded : (WorkerOp.exec env (.base (.markClipsOfActorDeleted actorId)) server).1 =
      .ok result)
    {new : ClipRow}
    (member : new ∈ (WorkerOp.exec env (.base (.markClipsOfActorDeleted actorId)) server).2.clips)
    (owned : new.actorId = actorId) : new.deletedAt ≠ none := by
  have performed : WorkerOp.exec env (.base (.markClipsOfActorDeleted actorId)) server =
      WorkerOp.perform env (.base (.markClipsOfActorDeleted actorId)) server := by
    rcases WorkerOp.exec_cases env (.base (.markClipsOfActorDeleted actorId)) server with
      ⟨error, failed⟩ | performed
    · rw [failed] at succeeded
      cases succeeded
    · exact performed
  rw [performed] at succeeded member
  change new ∈ (Operation.exec env.toEnv (.markClipsOfActorDeleted actorId)
    server.toDb).2.clips at member
  change (Operation.exec env.toEnv (.markClipsOfActorDeleted actorId)
    server.toDb).1 = .ok result at succeeded
  rcases Operation.exec_cases env.toEnv (.markClipsOfActorDeleted actorId) server.toDb with
    ⟨error, failed⟩ | performed
  · rw [failed] at succeeded
    cases succeeded
  · rw [performed] at member
    obtain ⟨old, stored, changed⟩ := Clips.mem_delete.mp member
    unfold Relational.Table.changeWhere at changed
    split at changed
    next => exact changed ▸ Option.some_ne_none env.now
    next spared =>
      subst changed
      exact fun alive => spared (decide_eq_true ⟨owned, alive⟩)

/-- A clip that is found is stored. -/
theorem stored_of_fetch {clipId : Nat} {clip : ClipRow}
    (found : (WorkerOp.exec env (.base (.fetchClipById clipId)) server).1 = .ok (some clip)) :
    clip ∈ server.clips ∧ clip.id = clipId := by
  rcases WorkerOp.exec_cases env (.base (.fetchClipById clipId)) server with
    ⟨error, failed⟩ | performed
  · rw [failed] at found
    cases found
  rw [performed] at found
  change (Operation.exec env.toEnv (.fetchClipById clipId) server.toDb).1 = .ok (some clip)
    at found
  rcases Operation.exec_cases env.toEnv (.fetchClipById clipId) server.toDb with
    ⟨error, failed⟩ | performed
  · rw [failed] at found
    cases found
  · rw [performed] at found
    have lookup : server.toDb.clipById clipId = some clip := Except.ok.inj found
    exact Db.clipById_eq_some.mp lookup

end Calls

/-! ## The invariant -/

/-- What is being published is alive. -/
structure PublishesLive
    (events : List (Effects.Event Thread (@WorkerOp.Result Url) Error (WorkerEnv Url)))
    (server : Server) : Prop where
  stored : ClaimsStored events server
  queued : ∀ row ∈ server.jobs, ∀ clipId : Nat, row.AwaitsFanOut clipId →
    server.HasLiveClip clipId
  fanning : ∀ thread job clipId,
    Calls.FanningOut job clipId (callsOfTask WorkerOp.noted events thread) →
    server.HasLiveClip clipId
  announcing : ∀ thread job clipId,
    Calls.Announcing job clipId (callsOfTask WorkerOp.noted events thread) →
    server.HasLiveClip clipId
  authors : server.AuthorsLive
  erased : ∀ thread actorId,
    Calls.Did (.base (.markClipsOfActorDeleted actorId))
      (callsOfTask WorkerOp.noted events thread) →
    ∀ clip ∈ server.clips, clip.origin = .localUpload → clip.actorId = actorId →
      clip.deletedAt ≠ none

section Step

variable
  {events : List (Effects.Event Thread (@WorkerOp.Result Url) Error (WorkerEnv Url))}
  {server : Server} {workers : WorkerConfig} {thread : Thread} {op : WorkerOp Url}
  {env : WorkerEnv Url}

/-- The start of a turn ends what was published in the last one. -/
theorem PublishesLive.began (publishes : PublishesLive events server) (begun : Thread) :
    PublishesLive (events ++ [.began begun]) server where
  stored := publishes.stored.began begun
  queued := publishes.queued
  fanning other job clipId fanning :=
    publishes.fanning other job clipId ⟨fanning.working.of_began, fanning.kind, fanning.named⟩
  announcing other job clipId announcing := by
    rcases callsOfTask_began_cases WorkerOp.noted events begun other with empty | same
    · rw [empty] at announcing
      obtain ⟨_, ⟨⟩⟩ := announcing.working.claimed
    · rw [same] at announcing
      exact publishes.announcing other job clipId announcing
  authors := publishes.authors
  erased other actorId did := by
    obtain ⟨result, member⟩ := did
    exact publishes.erased other actorId ⟨result, mem_callsOfTask_began member⟩

/-- A clip that is not quiet survives a call. -/
theorem DeletesQuietly.survives {clipId : Nat}
    (quietly : DeletesQuietly events server thread op env) (live : server.HasLiveClip clipId)
    (noisy : ¬Quiet events server clipId) :
    (WorkerOp.exec env op server).2.HasLiveClip clipId := by
  refine live.survives fun clip stored named isLocal deletes => noisy ?_
  rw [← named]
  exact quietly clip stored isLocal deletes

/-- A fan-out that waits after a call is of a live clip. -/
theorem PublishesLive.queued_after (publishes : PublishesLive events server)
    (allowed : TurnAllowed workers DeletionAllowed thread
      (callsOfTask WorkerOp.noted events thread) op)
    (quietly : DeletesQuietly events server thread op env)
    {new : JobRow} (member : new ∈ (WorkerOp.exec env op server).2.jobs) {clipId : Nat}
    (awaits : new.AwaitsFanOut clipId) :
    (WorkerOp.exec env op server).2.HasLiveClip clipId := by
  -- A fan-out that waits before the call, or that its thread works on.
  have waiting {old : JobRow} (stored : old ∈ server.jobs) (before : old.AwaitsFanOut clipId) :
      (WorkerOp.exec env op server).2.HasLiveClip clipId :=
    quietly.survives (publishes.queued old stored clipId before)
      fun quiet => quiet.queued old stored before
  have worked {old : JobRow} (stored : old ∈ server.jobs) (kind : old.kind = .deliverCreate)
      (named : old.clipId = some (clipId : Int)) (settles : op.settles = some old.id) :
      (WorkerOp.exec env op server).2.HasLiveClip clipId := by
    obtain ⟨job, working, sameId⟩ :=
      working_of_settles (allowed.mono requestAllowed_of_deletionAllowed) settles
    obtain ⟨row, rowStored, rowId, rowKind, rowPayload⟩ :=
      publishes.stored thread job working.claimed
    have equal : row = old :=
      SerialTable.eq_of_number_eq rowStored stored (rowId.trans sameId)
    subst equal
    have fanning : Calls.FanningOut job clipId (callsOfTask WorkerOp.noted events thread) := by
      refine ⟨working, rowKind.symm.trans kind, ?_⟩
      unfold JobRow.clipId at named ⊢
      rwa [← rowPayload]
    exact quietly.survives (publishes.fanning thread job clipId fanning)
      fun quiet => quiet.fanning thread job fanning
  rcases WorkerOp.job_after env op server member with
    ⟨old, stored, change⟩ | ⟨kind, payload, rfl, rfl⟩
  · obtain ⟨-, sameKind, samePayload⟩ := change.about
    have kind : old.kind = .deliverCreate := sameKind.symm.trans awaits.kind
    have named : old.clipId = some (clipId : Int) := by
      have named := awaits.named
      unfold JobRow.clipId at named ⊢
      rwa [← samePayload]
    have live {state : JobState} (is : old.state = state)
        (alive : state = .queued ∨ state = .running) : ¬old.Over := by
      unfold JobRow.Over
      rw [is]
      rcases alive with rfl | rfl <;> simp
    generalize (WorkerOp.exec env op server).1 = outcome at change
    cases change with
    | kept => exact waiting stored awaits
    | locked worker now queued => exact waiting stored ⟨kind, named, live queued (.inl rfl)⟩
    | released state settles same =>
        cases same
        exact worked stored kind named settles
    | postponed now backoffSecs same =>
        cases same
        exact worked stored kind named rfl
    | bumped running => exact waiting stored ⟨kind, named, live running (.inr rfl)⟩
    | reaped _ _ running => exact waiting stored ⟨kind, named, live running (.inr rfl)⟩
  · have isFanOut : kind = .deliverCreate := awaits.kind
    subst isFanOut
    have announcing : ∃ job,
        Calls.Announcing job clipId (callsOfTask WorkerOp.noted events thread) := by
      cases thread with
      | media index | delivery =>
          obtain ⟨job, -, announced, activity, announcing, rfl⟩ := allowed
          have named := (clipId_queued announcing.named).symm.trans awaits.named
          obtain rfl : announced = clipId := Int.ofNat.inj (Option.some.inj named)
          exact ⟨job, announcing⟩
      | maintenance => exact allowed.elim
      | request index => exact allowed.elim
    obtain ⟨job, announcing⟩ := announcing
    exact quietly.survives (publishes.announcing thread job clipId announcing)
      fun quiet => quiet.announcing thread job announcing

/-- A finalize job that has found its clip alive after a call. -/
theorem PublishesLive.announcing_after (publishes : PublishesLive events server)
    (allowed : TurnAllowed workers DeletionAllowed thread
      (callsOfTask WorkerOp.noted events thread) op)
    (quietly : DeletesQuietly events server thread op env)
    {other : Thread} {job : JobRow} {clipId : Nat}
    (announcing : Calls.Announcing job clipId (callsOfTask WorkerOp.noted
      (events ++ [.called ⟨thread, op, env, (WorkerOp.exec env op server).1⟩]) other)) :
    (WorkerOp.exec env op server).2.HasLiveClip clipId := by
  have before (earlier : Calls.Announcing job clipId
      (callsOfTask WorkerOp.noted events other)) :
      (WorkerOp.exec env op server).2.HasLiveClip clipId :=
    quietly.survives (publishes.announcing other job clipId earlier)
      fun quiet => quiet.announcing other job earlier
  rcases callsOfTask_called_cases WorkerOp.noted events thread other op env
      (WorkerOp.exec env op server).1 with ⟨same, -⟩ | ⟨rfl, extended⟩
  · rw [same] at announcing
    exact before announcing
  obtain ⟨clip, returned, isLocal, alive⟩ := announcing.found
  rcases mem_callsOfTask_called returned with earlier | ⟨-, isCall⟩
  · rcases announcing.working.claimed.of_called with claimed | ⟨-, worker, rfl, -⟩
    · refine before ⟨(announcing.working.of_called claimed).1, announcing.kind,
        announcing.named, ⟨clip, earlier, isLocal, alive⟩, fun payload did => ?_⟩
      refine announcing.unqueued payload ?_
      rw [extended]
      exact did.append
    · rw [(lockName_of_claim (allowed.mono requestAllowed_of_deletionAllowed)).1] at earlier
      cases earlier
  · generalize found : (WorkerOp.exec env op server).1 = outcome at isCall
    cases isCall
    obtain ⟨stored, named⟩ := stored_of_fetch found
    refine Server.HasLiveClip.survives ⟨clip, stored, named, isLocal, alive⟩ ?_
    exact fun _ _ _ _ deletes => deletes

/-- Every allowed call keeps the invariant. -/
theorem PublishesLive.called (publishes : PublishesLive events server)
    (allowed : TurnAllowed workers DeletionAllowed thread
      (callsOfTask WorkerOp.noted events thread) op)
    (quietly : DeletesQuietly events server thread op env) :
    PublishesLive (events ++ [.called ⟨thread, op, env, (WorkerOp.exec env op server).1⟩])
      (WorkerOp.exec env op server).2 where
  stored := publishes.stored.called thread op env
  queued new member clipId awaits := publishes.queued_after allowed quietly member awaits
  fanning other job clipId fanning := by
    rcases fanning.working.claimed.of_called with earlier | ⟨rfl, worker, rfl, returned⟩
    · have before : Calls.FanningOut job clipId (callsOfTask WorkerOp.noted events other) :=
        ⟨(fanning.working.of_called earlier).1, fanning.kind, fanning.named⟩
      exact quietly.survives (publishes.fanning other job clipId before)
        fun quiet => quiet.fanning other job before
    · obtain ⟨member, running, -⟩ := WorkerOp.of_claim returned
      refine publishes.queued_after allowed quietly member
        ⟨fanning.kind, fanning.named, ?_⟩
      unfold JobRow.Over
      rw [running]
      simp
  announcing other job clipId announcing := publishes.announcing_after allowed quietly announcing
  authors new member isLocal alive author authorStored owns := by
    obtain ⟨old, stored, oldLocal, sameActor, oldAlive⟩ :=
      local_clip_after allowed member isLocal
    rcases actors_after env server allowed with same | ⟨id, rfl, did, others⟩
    · rw [same] at authorStored
      exact publishes.authors old stored oldLocal (oldAlive alive) author authorStored
        (owns.trans sameActor.symm)
    · by_cases marked : old.actorId = id
      · exact (publishes.erased thread id did old stored oldLocal marked (oldAlive alive)).elim
      · have unmarked : author.id ≠ id := by
          rwa [owns, ← sameActor]
        exact publishes.authors old stored oldLocal (oldAlive alive) author
          (others author authorStored unmarked) (owns.trans sameActor.symm)
  erased other actorId did new member isLocal owned := by
    obtain ⟨result, returned⟩ := did
    rcases mem_callsOfTask_called returned with earlier | ⟨-, isCall⟩
    · obtain ⟨old, stored, oldLocal, sameActor, oldAlive⟩ :=
        local_clip_after allowed member isLocal
      intro alive
      exact publishes.erased other actorId ⟨result, earlier⟩ old stored oldLocal
        (sameActor.trans owned) (oldAlive alive)
    · generalize succeeded : (WorkerOp.exec env op server).1 = outcome at isCall
      cases isCall
      exact clips_after_deletion succeeded member owned

end Step

/-! ## Runs -/

/-- The turn is fanning out the announcement of a live clip of a live author. -/
def Calls.FansOutLive (server : Server) (payload : Value) (calls : Calls Url) : Prop :=
  ∃ (job : JobRow) (clip : ClipRow) (actorId : Nat) (inbox : String) (activity : Value),
    calls.FanningOut job clip.id ∧ job.payload.get "activity" = some activity ∧
      payload = deliveryPayload actorId inbox activity ∧
      clip ∈ server.clips ∧ clip.deletedAt = none ∧
      ∀ author ∈ server.actors, author.id = clip.actorId → author.deletedAt = none

section Run

variable [UrlCrate Url] [ChronoCrate]

/-- In a run that deletes clips only while nothing of them is being published, every
delivery that is queued announces a live clip of a live author. -/
theorem no_delivery_after_erasure
    {workers : WorkerConfig} {start : Server}
    {events : List (Effects.Event Thread (@WorkerOp.Result Url) Error (WorkerEnv Url))}
    {final : Effects.Config Thread (@WorkerOp.Result Url) Error Unit Server}
    (run : Background.Run workers
      (fun task => ∃ authId, task = deleteAccount workers.mediaDir authId)
      DeletesQuietly start events final)
    (unerased : start.Unerased)
    {thread : Thread} {payload : Value}
    {next : Except Error JobRow → Routine Url Unit}
    (atCall : final.threads thread = .call (.base (.createJob .deliver payload)) next) :
    Calls.FansOutLive final.state payload (callsOfTask WorkerOp.noted events thread) := by
  have requestsKeep (task : Routine Url Unit)
      (isDeletion : ∃ authId, task = deleteAccount workers.mediaDir authId) :
      task.Keeps DeletionAllowed [] := by
    obtain ⟨authId, rfl⟩ := isDeletion
    exact keeps_deleteAccount _ authId
  have publishes : PublishesLive events final.state := by
    refine run.invariant requestsKeep PublishesLive ?_ ?_ ?_
    · refine ⟨.nil start, unerased.queued, fun _ _ _ fanning => ?_, fun _ _ _ announcing => ?_,
        unerased.authors, fun _ _ did => ?_⟩
      · obtain ⟨_, ⟨⟩⟩ := fanning.working.claimed
      · obtain ⟨_, ⟨⟩⟩ := announcing.working.claimed
      · obtain ⟨_, ⟨⟩⟩ := did
    · exact fun _ _ begun publishes => publishes.began begun
    · exact fun _ _ _ _ _ publishes allowed quietly => publishes.called allowed quietly
  have allowed := run.allowed requestsKeep atCall
  cases thread with
  | media index | delivery =>
      obtain ⟨job, working, kind, clipId, -, author, inbox, activity, named, carried, -, -,
        rfl⟩ := allowed
      obtain ⟨clip, stored, rfl, isLocal, alive⟩ :=
        publishes.fanning _ job clipId ⟨working, kind, named⟩
      exact ⟨job, clip, author.id, inbox, activity, ⟨working, kind, named⟩, carried, rfl,
        stored, alive, publishes.authors clip stored isLocal alive⟩
  | maintenance => exact allowed.elim
  | request index => exact allowed.elim

end Run

namespace Sample

/-- A remote follower. -/
def follower : ActorRow :=
  { uploader with id := 2, domain := some "b", inboxUrl := "i", apId := "b" }

/-- A published clip whose author has a follower, and its fan-out. -/
def followedServer : Server :=
  { serverWith .ready .deliverCreate [("activity", .null)] with
    actors := ⟨⟨[uploader, follower], by decide +kernel⟩, 3, by decide +kernel⟩
    follows := ⟨[⟨2, 1, none, .accepted⟩], List.pairwise_singleton _ _⟩ }

/-- The delivery worker takes the fan-out up, and is about to queue a delivery. -/
def fanningOutToFollower : List Action :=
  .begin .delivery deliveryTurn :: calls .delivery 4 1

def erasing : List Action :=
  .begin (.request 0) (deleteAccount workers.mediaDir 1) :: calls (.request 0) 5 0

theorem tasks_erasing (thread : Thread) (task : Routine NormalUrl Unit)
    (begun : Effects.Action.begin thread task ∈ erasing ++ fanningOutToFollower) :
    Background.Tasks workers (fun task => ∃ authId, task = deleteAccount workers.mediaDir authId)
      thread task := by
  simp [erasing, fanningOutToFollower] at begun
  rcases begun with ⟨rfl, rfl⟩ | ⟨rfl, rfl⟩
  · exact ⟨1, rfl⟩
  · rfl

theorem unerased_followedServer : followedServer.Unerased where
  queued row member clipId awaits := by
    obtain rfl := List.mem_singleton.mp member
    obtain rfl : 1 = clipId := Int.ofNat.inj (Option.some.inj awaits.named)
    exact ⟨uploadedClip .ready, List.mem_singleton_self _, rfl, rfl, rfl⟩
  authors clip member _ _ author stored _ := by
    have alive : followedServer.actors.rows.all (fun author => author.deletedAt.isNone) = true := by
      decide
    exact Option.isNone_iff_eq_none.mp (List.all_eq_true.mp alive author stored)

/-- No clip is deleted. -/
def deletesNothing (_ : Server) (_ : Thread) (op : WorkerOp NormalUrl)
    (_ : WorkerEnv NormalUrl) : Bool :=
  match op with
  | .base (.markClipDeleted _) | .base (.markClipsOfActorDeleted _) => false
  | _ => true

theorem sound_deletesNothing
    (events : List (Effects.Event Thread (@WorkerOp.Result NormalUrl) Error
      (WorkerEnv NormalUrl)))
    (server : Server) (thread : Thread) (op : WorkerOp NormalUrl) (env : WorkerEnv NormalUrl)
    (passed : deletesNothing server thread op env = true) :
    DeletesQuietly events server thread op env := by
  intro clip _ _ deletes
  cases op with
  | base op =>
      cases op with
      | markClipDeleted | markClipsOfActorDeleted => cases passed
      | _ => exact deletes.elim
  | _ => exact deletes.elim

/-- The delivery worker before it queues the delivery. -/
def beforeDelivery :
    List (Effects.Event Thread (@WorkerOp.Result NormalUrl) Error (WorkerEnv NormalUrl)) ×
      Effects.Config Thread (@WorkerOp.Result NormalUrl) Error Unit Server :=
  serve deletesNothing followedServer fanningOutToFollower

theorem beforeDelivery_run :
    Background.Run workers (fun task => ∃ authId, task = deleteAccount workers.mediaDir authId)
      DeletesQuietly followedServer beforeDelivery.1 beforeDelivery.2 :=
  serve_run sound_deletesNothing followedServer fanningOutToFollower fun thread task begun =>
    tasks_erasing thread task (List.mem_append_right _ begun)

/-- The same after the author has deleted the account. -/
def afterErasure :
    List (Effects.Event Thread (@WorkerOp.Result NormalUrl) Error (WorkerEnv NormalUrl)) ×
      Effects.Config Thread (@WorkerOp.Result NormalUrl) Error Unit Server :=
  serveFreely followedServer (erasing ++ fanningOutToFollower)

theorem afterErasure_run :
    Background.Run workers (fun task => ∃ authId, task = deleteAccount workers.mediaDir authId)
      (fun _ _ _ _ _ => True) followedServer afterErasure.1 afterErasure.2 :=
  serveFreely_run followedServer _ tasks_erasing

end Sample

open Sample in
theorem live_clip_fanned_out :
    Calls.FansOutLive Sample.beforeDelivery.2.state
      (deliveryPayload 1 "i" .null)
      (callsOfTask WorkerOp.noted Sample.beforeDelivery.1 .delivery) :=
  no_delivery_after_erasure Sample.beforeDelivery_run Sample.unerased_followedServer rfl

open Sample in
/-- An author deletes the account while the fan-out of a clip is queued. The fan-out
then queues a delivery of the deleted clip. -/
theorem erased_clip_fanned_out :
    ¬∀ (start : Server)
        (events : List (Effects.Event Thread (@WorkerOp.Result NormalUrl) Error
          (WorkerEnv NormalUrl)))
        (final : Effects.Config Thread (@WorkerOp.Result NormalUrl) Error Unit Server),
      start.Unerased →
      Background.Run Sample.workers
        (fun task => ∃ authId, task = deleteAccount Sample.workers.mediaDir authId)
        (fun _ _ _ _ _ => True) start events final →
      ∀ thread payload next,
        final.threads thread = .call (.base (.createJob .deliver payload)) next →
        Calls.FansOutLive final.state payload (callsOfTask WorkerOp.noted events thread) := by
  intro live
  have erased : Sample.afterErasure.2.state.clips.rows.all
      (fun clip => clip.deletedAt.isSome) = true := by
    decide
  obtain ⟨_, clip, _, _, _, _, _, _, stored, alive, _⟩ :=
    live Sample.followedServer _ _ Sample.unerased_followedServer Sample.afterErasure_run
      .delivery (deliveryPayload 1 "i" .null) _ rfl
  have deleted := List.all_eq_true.mp erased clip stored
  rw [alive] at deleted
  cases deleted

end TootTok
