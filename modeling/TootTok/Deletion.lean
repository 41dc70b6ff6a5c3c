import TootTok.Background

/-!
# Deleted clips

A deletion sets the status of a clip together with the time of its deletion. The
pipeline writes the status again without a look at that time: the two agree only
as long as it does not come after a deletion.
-/

namespace TootTok

open Effects
open Relational (Table SerialTable)

/-! ## What an operation does to a clip -/

/-- The deletion mark and what the owner of a clip is told by have not changed. -/
structure ClipRow.Kept (old new : ClipRow) : Prop where
  id : new.id = old.id
  actorId : new.actorId = old.actorId
  origin : new.origin = old.origin
  status : new.status = old.status
  deletedAt : new.deletedAt = old.deletedAt

theorem ClipRow.Kept.refl (row : ClipRow) : row.Kept row := ⟨rfl, rfl, rfl, rfl, rfl⟩

/-- The clips that a handler's operation deletes. -/
def Operation.deletes {Url : Type} (op : Operation Url) (row : ClipRow) : Prop :=
  match op with
  | .markClipDeleted id => row.id = id
  | .markClipsOfActorDeleted actorId => row.actorId = actorId ∧ row.deletedAt = none
  | _ => False

theorem Clips.of_mem_delete
    {condition : ClipRow → Bool} {now : DateTime} {table : ClipTable} {row : ClipRow}
    (member : row ∈ Clips.delete condition now table) :
    row ∈ table ∨ ∃ old ∈ table, condition old = true ∧ row = old.delete now := by
  obtain ⟨old, stored, changed⟩ := Clips.mem_delete.mp member
  unfold Table.changeWhere at changed
  split at changed
  next holds => exact .inr ⟨old, stored, holds, changed.symm⟩
  next => exact .inl (changed ▸ stored)

/-- The operation stores a new clip of this server. -/
def Operation.uploads {Url : Type} : Operation Url → Bool
  | .createPendingUpload _ => true
  | _ => false

/-- After a handler's operation a clip is kept, deleted, or new. -/
theorem Operation.clip_after {Url : Type} (env : Env Url) (op : Operation Url) (db : Db)
    {row : ClipRow} (member : row ∈ (exec env op db).2.clips) :
    (∃ old ∈ db.clips, old.Kept row) ∨
      (∃ old ∈ db.clips, op.deletes old ∧ row = old.delete env.now) ∨
      (row.id = db.clips.next ∧ row.deletedAt = none ∧
        ((op.uploads = true ∧ row.origin = .localUpload ∧ row.status = .pending) ∨
          (row.origin = .remote ∧ row.status = .ready))) := by
  have same (unchanged : (exec env op db).2.clips = db.clips) :
      ∃ old ∈ db.clips, old.Kept row :=
    ⟨row, unchanged ▸ member, .refl row⟩
  by_cases writes : op.writes = some .clips
  case neg => exact .inl (same (exec_frame .clips writes env db))
  rcases exec_cases env op db with ⟨error, failed⟩ | performed
  · exact .inl (same (by rw [failed]))
  rw [performed] at member
  cases op with
  | createRemote new =>
      rcases SerialTable.mem_of_mem_insert member with stored | rfl
      · exact .inl ⟨row, stored, .refl row⟩
      · exact .inr (.inr ⟨rfl, rfl, .inr ⟨rfl, rfl⟩⟩)
  | createPendingUpload new =>
      rcases SerialTable.mem_of_mem_insert member with stored | rfl
      · exact .inl ⟨row, stored, .refl row⟩
      · exact .inr (.inr ⟨rfl, rfl, .inl ⟨rfl, rfl, rfl⟩⟩)
  | updateNoteFields id captionHtml isSensitive cwText =>
      obtain ⟨old, stored, changed⟩ := Clips.mem_updateNoteFields.mp member
      refine .inl ⟨old, stored, ?_⟩
      rw [← changed]
      unfold Table.changeWhere
      split
      · exact ⟨rfl, rfl, rfl, rfl, rfl⟩
      · exact .refl old
  | setApId id apId =>
      rcases Clips.mem_setApId member with stored | ⟨old, stored, -, rfl⟩
      · exact .inl ⟨row, stored, .refl row⟩
      · exact .inl ⟨old, stored, rfl, rfl, rfl, rfl, rfl⟩
  | markClipDeleted id =>
      rcases Clips.of_mem_delete member with stored | ⟨old, stored, holds, rfl⟩
      · exact .inl ⟨row, stored, .refl row⟩
      · have named : old.id = id := of_decide_eq_true holds
        exact .inr (.inl ⟨old, stored, named, rfl⟩)
  | markClipsOfActorDeleted actorId =>
      rcases Clips.of_mem_delete member with stored | ⟨old, stored, holds, rfl⟩
      · exact .inl ⟨row, stored, .refl row⟩
      · have live : old.actorId = actorId ∧ old.deletedAt = none := of_decide_eq_true holds
        exact .inr (.inl ⟨old, stored, live, rfl⟩)
  | _ => cases writes

namespace WorkerOp

variable {Url : Type}

/-- The clip whose status a step of the pipeline writes, and the new status. -/
def writesStatus : WorkerOp Url → Option (Int × ClipStatus)
  | .updateProbeInfo id _ _ _ => some (id, .processing)
  | .markFailed id => some (id, .failed)
  | .markReady id => some (id, .ready)
  | _ => none

/-- A step of the pipeline has changed the clip. -/
structure Staged (op : WorkerOp Url) (old new : ClipRow) : Prop where
  writes : op.writesStatus = some ((old.id : Int), new.status)
  id : new.id = old.id
  actorId : new.actorId = old.actorId
  origin : new.origin = old.origin
  deletedAt : new.deletedAt = old.deletedAt

/-- The operation deletes the clip. -/
def Deletes (op : WorkerOp Url) (row : ClipRow) : Prop :=
  match op with
  | .base op => op.deletes row
  | _ => False

/-- The operation stores a new clip of this server. -/
def uploads : WorkerOp Url → Bool
  | .base op => op.uploads
  | _ => false

/-- After an operation a clip is kept, deleted, new, or at another stage. -/
theorem clip_after (env : WorkerEnv Url) (op : WorkerOp Url) (server : Server)
    {row : ClipRow} (member : row ∈ (exec env op server).2.clips) :
    (∃ old ∈ server.clips, old.Kept row) ∨
      (∃ old ∈ server.clips, op.Deletes old ∧ row = old.delete env.now) ∨
      (row.id = server.clips.next ∧ row.deletedAt = none ∧
        ((op.uploads = true ∧ row.origin = .localUpload ∧ row.status = .pending) ∨
          (row.origin = .remote ∧ row.status = .ready))) ∨
      (failure env op = none ∧ ∃ old ∈ server.clips, op.Staged old row) := by
  have same (unchanged : (exec env op server).2.clips = server.clips) :
      ∃ old ∈ server.clips, old.Kept row :=
    ⟨row, unchanged ▸ member, .refl row⟩
  cases failed : failure env op with
  | some error =>
      left
      refine same ?_
      unfold exec
      rw [failed]
  | none =>
      have performed : exec env op server = perform env op server := by
        unfold exec
        rw [failed]
      by_cases writes : op.Writes .clips
      case neg => exact .inl (same (exec_frame .clips writes env server))
      rw [performed] at member
      cases op with
      | base op =>
          rcases Operation.clip_after env.toEnv op server.toDb member with kept | deleted | new
          · exact .inl kept
          · exact .inr (.inl deleted)
          · exact .inr (.inr (.inl new))
      | updateProbeInfo id durationS width height =>
          rcases Clips.mem_updateStatus member with stored | ⟨old, stored, rfl, rfl⟩
          · exact .inl ⟨row, stored, .refl row⟩
          · exact .inr (.inr (.inr ⟨rfl, old, stored, rfl, rfl, rfl, rfl, rfl⟩))
      | markFailed id =>
          obtain ⟨old, stored, changed⟩ := Clips.mem_markFailed.mp member
          unfold Table.changeWhere at changed
          split at changed
          next named =>
            subst changed
            have named : (old.id : Int) = id := of_decide_eq_true named
            subst named
            exact .inr (.inr (.inr ⟨rfl, old, stored, rfl, rfl, rfl, rfl, rfl⟩))
          next => exact .inl ⟨old, stored, changed ▸ .refl old⟩
      | markReady id =>
          rcases Clips.mem_updateStatus member with stored | ⟨old, stored, rfl, rfl⟩
          · exact .inl ⟨row, stored, .refl row⟩
          · exact .inr (.inr (.inr ⟨rfl, old, stored, rfl, rfl, rfl, rfl, rfl⟩))
      | _ => exact writes.elim

end WorkerOp

/-- No operation removes the row of a clip. -/
theorem WorkerOp.clip_survives {Url : Type} (env : WorkerEnv Url) (op : WorkerOp Url)
    (server : Server) {old : ClipRow} (stored : old ∈ server.clips) :
    ∃ new ∈ (exec env op server).2.clips, new.id = old.id := by
  have restaged (id : Int) (change : ClipRow → ClipRow)
      (sameId : ∀ row, (change row).id = row.id) :
      ∃ new ∈ (Clips.updateStatus id change sameId server.clips).2, new.id = old.id := by
    unfold Clips.updateStatus
    split
    next updated => exact SerialTable.survives_update? updated stored
    next => exact ⟨old, stored, rfl⟩
  by_cases writes : op.Writes .clips
  case neg =>
    have same : (exec env op server).2.clips = server.clips := exec_frame .clips writes env server
    exact ⟨old, same ▸ stored, rfl⟩
  rcases exec_cases env op server with ⟨error, failed⟩ | performed
  · exact ⟨old, by rwa [failed], rfl⟩
  rw [performed]
  cases op with
  | base op =>
      show ∃ new ∈ (Operation.exec env.toEnv op server.toDb).2.clips, new.id = old.id
      rcases Operation.exec_cases env.toEnv op server.toDb with ⟨error, failed⟩ | performed
      · exact ⟨old, by rwa [failed], rfl⟩
      rw [performed]
      cases op with
      | createRemote new =>
          exact ⟨old, SerialTable.mem_insert_of_mem (new.row env.now) (fun _ => rfl) stored, rfl⟩
      | createPendingUpload new =>
          exact ⟨old, SerialTable.mem_insert_of_mem (new.row env.now) (fun _ => rfl) stored, rfl⟩
      | updateNoteFields id captionHtml isSensitive cwText =>
          exact SerialTable.survives_update _
            (ClipRow.updateNoteFields captionHtml isSensitive cwText) (fun _ => rfl)
            (ClipRow.keepsKeys_updateNoteFields captionHtml isSensitive cwText) stored
      | setApId id apId =>
          show ∃ new ∈ (Clips.setApId id apId server.clips).2, new.id = old.id
          unfold Clips.setApId
          split
          next updated => exact SerialTable.survives_update? updated stored
          next => exact ⟨old, stored, rfl⟩
      | markClipDeleted id =>
          exact SerialTable.survives_update _ (ClipRow.delete env.now) (fun _ => rfl)
            (ClipRow.keepsKeys_delete env.now) stored
      | markClipsOfActorDeleted actorId =>
          exact SerialTable.survives_update _ (ClipRow.delete env.now) (fun _ => rfl)
            (ClipRow.keepsKeys_delete env.now) stored
      | _ => cases writes
  | updateProbeInfo id durationS width height =>
      exact restaged id (ClipRow.stampProbe durationS width height) fun _ => rfl
  | markFailed id =>
      exact SerialTable.survives_update _ ClipRow.fail (fun _ => rfl) ClipRow.keepsKeys_fail
        stored
  | markReady id => exact restaged id (ClipRow.publish env.now) fun _ => rfl
  | _ => exact writes.elim

/-! ## Deleted is terminal -/

/-- A clip has the status `deleted` exactly when its deletion has a time. -/
def ClipRow.Consistent (row : ClipRow) : Prop :=
  row.deletedAt ≠ none ↔ row.status = .deleted

def Server.Consistent (server : Server) : Prop :=
  ∀ clip ∈ server.clips, clip.Consistent

variable {Url : Type}

/-- A status that is written is not written to a deleted clip. -/
def SparesDeleted (server : Server) (op : WorkerOp Url) (env : WorkerEnv Url) : Prop :=
  WorkerOp.failure env op = none →
    ∀ id status, op.writesStatus = some (id, status) →
      ∀ clip ∈ server.clips, (clip.id : Int) = id → clip.deletedAt = none

theorem WorkerOp.writesStatus_ne_deleted {op : WorkerOp Url} {id : Int} {status : ClipStatus}
    (writes : op.writesStatus = some (id, status)) : status ≠ .deleted := by
  cases op with
  | updateProbeInfo | markFailed | markReady =>
      cases writes
      exact ClipStatus.noConfusion
  | _ => cases writes

/-- A step that spares the deleted clips keeps the two columns in agreement. -/
theorem Server.Consistent.exec {server : Server} (consistent : server.Consistent)
    {op : WorkerOp Url} {env : WorkerEnv Url} (spares : SparesDeleted server op env) :
    (WorkerOp.exec env op server).2.Consistent := by
  intro clip member
  rcases WorkerOp.clip_after env op server member with
    ⟨old, stored, kept⟩ | ⟨old, stored, -, rfl⟩ | ⟨-, live, stage⟩ |
      ⟨succeeds, old, stored, staged⟩
  · have before := consistent old stored
    unfold ClipRow.Consistent at before ⊢
    rwa [kept.deletedAt, kept.status]
  · exact ⟨fun _ => rfl, fun _ => Option.some_ne_none _⟩
  · refine ⟨fun deleted => (deleted live).elim, fun deleted => ?_⟩
    rcases stage with ⟨-, -, pending⟩ | ⟨-, ready⟩
    · exact ClipStatus.noConfusion (pending.symm.trans deleted)
    · exact ClipStatus.noConfusion (ready.symm.trans deleted)
  · have live : old.deletedAt = none :=
      spares succeeds _ _ staged.writes old stored rfl
    refine ⟨fun deleted => (deleted (staged.deletedAt.trans live)).elim, fun deleted => ?_⟩
    exact (WorkerOp.writesStatus_ne_deleted staged.writes deleted).elim

/-- A status that is written to a deleted clip breaks the agreement. -/
theorem SparesDeleted.of_consistent {server : Server}
    {op : WorkerOp Url} {env : WorkerEnv Url}
    (consistent : (WorkerOp.exec env op server).2.Consistent) :
    SparesDeleted server op env := by
  intro succeeds id status writes clip stored named
  by_contra erased
  have performed : WorkerOp.exec env op server = WorkerOp.perform env op server := by
    unfold WorkerOp.exec
    rw [succeeds]
  have changed : ∃ new ∈ (WorkerOp.exec env op server).2.clips,
      new.deletedAt = clip.deletedAt ∧ new.status = status := by
    subst named
    rw [performed]
    cases op with
    | updateProbeInfo id durationS width height =>
        cases writes
        exact ⟨clip.stampProbe durationS width height,
          Clips.updateStatus_of_deleted (ClipRow.stampProbe durationS width height)
            (fun _ => rfl) (fun _ => rfl) stored erased, rfl, rfl⟩
    | markReady id =>
        cases writes
        exact ⟨clip.publish env.now,
          Clips.updateStatus_of_deleted (ClipRow.publish env.now) (fun _ => rfl) (fun _ => rfl)
            stored erased, rfl, rfl⟩
    | markFailed id =>
        cases writes
        refine ⟨clip.fail, Clips.mem_markFailed.mpr ⟨clip, stored, ?_⟩, rfl, rfl⟩
        simp [Table.changeWhere, ClipRow.hasId]
    | _ => cases writes
  obtain ⟨new, member, sameDeletion, newStatus⟩ := changed
  have isDeleted : new.status = .deleted :=
    (consistent new member).mp fun live => erased (sameDeletion.symm.trans live)
  exact WorkerOp.writesStatus_ne_deleted writes (newStatus.symm.trans isDeleted)

/-- A step that spares the deleted clips leaves them deleted. -/
theorem WorkerOp.deleted_after {server : Server} (consistent : server.Consistent)
    {op : WorkerOp Url} {env : WorkerEnv Url} (spares : SparesDeleted server op env)
    {old new : ClipRow} (stored : old ∈ server.clips) (deleted : old.status = .deleted)
    (member : new ∈ (exec env op server).2.clips) (same : new.id = old.id) :
    new.status = .deleted := by
  rcases WorkerOp.clip_after env op server member with
    ⟨other, otherStored, kept⟩ | ⟨other, -, -, rfl⟩ | ⟨fresh, -, -⟩ |
      ⟨succeeds, other, otherStored, staged⟩
  · have equal : other = old :=
      SerialTable.eq_of_number_eq otherStored stored (kept.id.symm.trans same)
    rw [kept.status, equal]
    exact deleted
  · rfl
  · exact (SerialTable.number_ne_next stored (same.symm.trans fresh)).elim
  · have equal : other = old :=
      SerialTable.eq_of_number_eq otherStored stored (staged.id.symm.trans same)
    have live : other.deletedAt = none :=
      spares succeeds _ _ staged.writes other otherStored rfl
    have erased : other.deletedAt ≠ none :=
      (consistent other otherStored).mpr (equal ▸ deleted)
    exact (erased live).elim

section Run

variable [UrlCrate Url] [ChronoCrate]

/-- In a run in which no status is written to a deleted clip, the status of every
clip agrees with its deletion mark. The next step keeps this exactly when it
writes no status to a deleted clip, and then it leaves deleted clips deleted. -/
theorem deleted_terminal_and_consistent
    {config : Config} {workers : WorkerConfig} {start : Server}
    {events : List (Effects.Event Thread (@WorkerOp.Result Url) Error (WorkerEnv Url))}
    {final : Effects.Config Thread (@WorkerOp.Result Url) Error Unit Server}
    (run : Background.Run workers (Background.Requests config workers)
      (fun _ server _ op env => SparesDeleted server op env) start events final)
    (consistent : start.Consistent) :
    final.state.Consistent ∧
      ∀ thread op env next, final.threads thread = .call op next →
        ((WorkerOp.exec env op final.state).2.Consistent ↔ SparesDeleted final.state op env) ∧
          (SparesDeleted final.state op env →
            ∀ old ∈ final.state.clips, old.status = .deleted →
              ∀ new ∈ (WorkerOp.exec env op final.state).2.clips, new.id = old.id →
                new.status = .deleted) := by
  have throughout : final.state.Consistent := by
    refine run.kept Server.Consistent consistent ?_
    exact fun _ _ _ _ _ holds spares => holds.exec spares
  refine ⟨throughout, fun thread op env next _ => ⟨⟨?_, ?_⟩, ?_⟩⟩
  · exact fun holds => SparesDeleted.of_consistent holds
  · exact fun spares => throughout.exec spares
  · intro spares old stored deleted new member same
    exact WorkerOp.deleted_after throughout spares stored deleted member same

end Run

namespace Sample

/-- A processed clip whose finalize job is queued. -/
def beforeFinalize : Server := serverWith .processing .finalize []

def finalizing : List Action :=
  .begin (.media 0) (workerTurn workers "worker-0") :: calls (.media 0) 12 1

def deleting : List Action :=
  .begin (.request 0) (deleteAccount workers.mediaDir 1) :: calls (.request 0) 5 0

theorem tasks_finalizing (thread : Thread) (task : Routine NormalUrl Unit)
    (begun : Effects.Action.begin thread task ∈ finalizing ++ deleting) :
    Background.Tasks workers (Background.Requests config workers) thread task := by
  simp [finalizing, deleting] at begun
  rcases begun with ⟨rfl, rfl⟩ | ⟨rfl, rfl⟩
  · rfl
  · exact .deleteAccount 1

/-- No status is written to a deleted clip. -/
def sparesDeleted (server : Server) (_ : Thread) (op : WorkerOp NormalUrl)
    (_ : WorkerEnv NormalUrl) : Bool :=
  op.writesStatus.all fun write =>
    server.clips.rows.all fun clip => !clip.hasId write.1 || decide (clip.deletedAt = none)

theorem sound_sparesDeleted (server : Server) (thread : Thread) (op : WorkerOp NormalUrl)
    (env : WorkerEnv NormalUrl) (passed : sparesDeleted server thread op env = true) :
    SparesDeleted server op env := by
  intro _ id status writes clip stored named
  unfold sparesDeleted at passed
  rw [writes] at passed
  have spared := List.all_eq_true.mp passed clip stored
  simpa [ClipRow.hasId, named] using spared

theorem consistent_beforeFinalize : beforeFinalize.Consistent := by
  intro clip member
  obtain rfl := List.mem_singleton.mp member
  simp [ClipRow.Consistent, uploadedClip]

end Sample

open Sample in
theorem clip_deleted_after_finalize :
    (Sample.serve Sample.sparesDeleted Sample.beforeFinalize
        (Sample.finalizing ++ Sample.deleting)).2.state.Consistent ∧
      (Sample.serve Sample.sparesDeleted Sample.beforeFinalize
        (Sample.finalizing ++ Sample.deleting)).2.state.clips.rows.map ClipRow.status =
          [.deleted] :=
  ⟨(deleted_terminal_and_consistent
      (Sample.serve_run (fun _ => Sample.sound_sparesDeleted) Sample.beforeFinalize _
        Sample.tasks_finalizing)
      Sample.consistent_beforeFinalize).1,
    by decide⟩

open Sample in
/-- An account is deleted while the finalize job of its clip is queued. The job
makes the deleted clip ready. -/
theorem deleted_clip_ready_again :
    ¬∀ (start : Server)
        (events : List (Effects.Event Thread (@WorkerOp.Result NormalUrl) Error
          (WorkerEnv NormalUrl)))
        (final : Effects.Config Thread (@WorkerOp.Result NormalUrl) Error Unit Server),
      start.Consistent →
      Background.Run Sample.workers (Background.Requests Sample.config Sample.workers)
        (fun _ _ _ _ _ => True) start events final →
      final.state.Consistent := by
  intro consistent
  have broken :
      (Sample.serveFreely Sample.beforeFinalize
        (Sample.deleting ++ Sample.finalizing)).2.state.clips.rows.all
          (fun clip => decide (clip.deletedAt ≠ none ↔ clip.status = .deleted)) = false := by
    decide
  have areTasks (thread : Thread) (task : Routine NormalUrl Unit)
      (begun : Effects.Action.begin thread task ∈ Sample.deleting ++ Sample.finalizing) :
      Background.Tasks Sample.workers
        (Background.Requests Sample.config Sample.workers) thread task := by
    refine Sample.tasks_finalizing thread task ?_
    rw [List.mem_append] at begun ⊢
    exact begun.symm
  have agrees := consistent Sample.beforeFinalize _ _ Sample.consistent_beforeFinalize
    (Sample.serveFreely_run Sample.beforeFinalize _ areTasks)
  refine Bool.eq_false_iff.mp broken (List.all_eq_true.mpr fun clip member => ?_)
  exact decide_eq_true (agrees clip member)

end TootTok
