import TootTok.AssetChanges
import TootTok.Erasure
import TootTok.ObjectIds
import TootTok.RequestJobs

/-!
# Ready clips can be played

A clip is made ready by a finalize job, which a transcode queues once the files of the clip are
stored and registered. Jobs may be duplicated, and a job that fails removes what it finds of
its clip. As long as no job of a clip cleans up beside another transcode of it, or after its
finalize job was queued, a ready clip has its rows and its files.
-/

namespace TootTok

open Effects
open Json (Value)
open Relational (SerialTable)

variable {Url : Type}

/-! ## The files of a clip -/

/-- The renditions that a ready clip is expected to have one of, and its original. -/
def IsPlayed (rendition : String) : Prop :=
  rendition = "orig" ∨ IsRung rendition

/-- The key of a file of a clip whose original is stored under a key. -/
def playedKey (clipId : Nat) (key rendition : String) : String :=
  if rendition = "orig" then key else renditionKey clipId (rendition ++ ".mp4")

/-- A file of the clip is stored under the key. -/
def IsPlayedKey (clipId : Nat) (key other : String) : Prop :=
  ∃ rendition, IsPlayed rendition ∧ playedKey clipId key rendition = other

/-- A key under which an upload stores an original. -/
def IsOriginalKey (key : String) : Prop :=
  ∃ name, key = "original/" ++ name

section Keys

variable {clipId : Nat} {key : String}

theorem playedKey_orig : playedKey clipId key "orig" = key := if_pos rfl

theorem playedKey_rung {rendition : String} (isRung : IsRung rendition) :
    playedKey clipId key rendition = renditionKey clipId (rendition ++ ".mp4") := by
  refine if_neg ?_
  rcases isRung with rfl | rfl <;> decide

theorem isPlayedKey_original : IsPlayedKey clipId key key :=
  ⟨"orig", .inl rfl, playedKey_orig⟩

theorem isPlayedKey_rung {rendition : String} (isRung : IsRung rendition) :
    IsPlayedKey clipId key (renditionKey clipId (rendition ++ ".mp4")) :=
  ⟨rendition, .inr isRung, playedKey_rung isRung⟩

/-- A number is read back from its text, which has no sign. -/
theorem eq_of_toString_eq {left : Int} {right : Nat} (same : toString left = toString right) :
    left = right := by
  cases left with
  | ofNat left => exact congrArg Int.ofNat (toString_injective same)
  | negSucc left =>
      have sign : '-' ∈ (toString right).toList := by
        rw [← same]
        simp [Int.toString_eq_repr, Int.repr, String.toList_append]
      exact absurd (isDigit_of_mem_toString sign) (by decide)

/-- The files of one clip are not stored where those of another are. -/
theorem clipId_of_renditionKey {other : Int} {filename rendition : String}
    (isRung : IsRung rendition)
    (same : renditionKey other filename = renditionKey clipId (rendition ++ ".mp4")) :
    other = clipId := by
  have plain : '/' ∉ (rendition ++ ".mp4").toList := by
    rcases isRung with rfl | rfl <;> decide
  have digits : '/' ∉ (toString (clipId : Int)).toList := fun isSlash =>
    absurd (isDigit_of_mem_toString isSlash) (by decide)
  have texts := congrArg String.toList same
  simp only [renditionKey, String.toList_append, List.append_assoc, List.append_cancel_left_eq]
    at texts
  have split := (List.append_cons_inj_of_notMem digits (String.toList_append ▸ plain)).mp
    texts.symm
  exact eq_of_toString_eq (String.toList_injective split.1.symm)

/-- A rendition of another clip is none of the files. -/
theorem not_isPlayedKey_renditionKey (original : IsOriginalKey key) {other : Int}
    (foreign : other ≠ clipId) (filename : String) :
    ¬IsPlayedKey clipId key (renditionKey other filename) := by
  rintro ⟨rendition, rfl | isRung, same⟩
  · obtain ⟨name, rfl⟩ := original
    rw [playedKey_orig] at same
    have first := congrArg (fun text => text.toList.head?) same
    simp [renditionKey] at first
  · rw [playedKey_rung isRung] at same
    exact foreign (clipId_of_renditionKey isRung same.symm)

end Keys

/-! ## Rows -/

/-- A stage of the pipeline that works on the files of clips. -/
def JobKind.usesFiles (kind : JobKind) : Prop :=
  kind = .probe ∨ kind = .transcode

/-- The stages of a clip work on its original, and those of other clips on other files. -/
structure JobRow.KeyedFor (mediaDir : String) (clipId : Nat) (key : String) (row : JobRow) :
    Prop where
  ownKey : row.kind.usesFiles → row.clipId = some (clipId : Int) →
    ∀ other, row.payload.getStr "key" = some other → other = key
  ownPath : row.kind.usesFiles → row.clipId = some (clipId : Int) →
    ∀ path, row.payload.getStr "path" = some path → Store.abs mediaDir key = some path
  foreign : row.kind.usesFiles → ∀ other : Int, row.clipId = some other → other ≠ clipId →
    ∀ otherKey, row.payload.getStr "key" = some otherKey → ¬IsPlayedKey clipId key otherKey

/-- The assets of a clip are stored under its keys, and those of other clips under others. -/
structure MediaAssetRow.KeyedFor (clipId : Nat) (key : String) (row : MediaAssetRow) : Prop where
  own : row.clipId = clipId → row.kind = .videoMp4 → IsPlayed row.rendition →
    row.path = playedKey clipId key row.rendition
  foreign : row.clipId ≠ clipId → ¬IsPlayedKey clipId key row.path

namespace Server

/-- The file of a key is there. -/
def HasFile (mediaDir key : String) (server : Server) : Prop :=
  ∃ path, Store.abs mediaDir key = some path ∧ server.files path = true

/-- The row of a video, whose file is there. -/
structure Holds (mediaDir : String) (clipId : Nat) (rendition : String) (row : MediaAssetRow)
    (server : Server) : Prop where
  stored : row ∈ server.mediaAssets
  clipId : row.clipId = clipId
  kind : row.kind = .videoMp4
  rendition : row.rendition = rendition
  file : server.HasFile mediaDir row.path

/-- The clip has a rendition that is ready, and its original. -/
def Playable (mediaDir : String) (clipId : Nat) (server : Server) : Prop :=
  (∃ rendition, IsRung rendition ∧
    ∃ row, server.Holds mediaDir clipId rendition row ∧ row.readyAt ≠ none) ∧
    ∃ row, server.Holds mediaDir clipId "orig" row

/-- The clip has a rendition and its original. -/
def Registered (mediaDir : String) (clipId : Nat) (server : Server) : Prop :=
  (∃ rendition, IsRung rendition ∧ ∃ row, server.Holds mediaDir clipId rendition row) ∧
    ∃ row, server.Holds mediaDir clipId "orig" row

/-- A finalize job of the clip has been queued. -/
def Finalizing (server : Server) (clipId : Int) : Prop :=
  ∃ row ∈ server.jobs, row.kind = .finalize ∧ row.clipId = some clipId

/-- The clip is deleted. -/
def HasDeleted (server : Server) (clipId : Nat) : Prop :=
  ∀ clip ∈ server.clips, clip.id = clipId → clip.deletedAt ≠ none

end Server

/-- The jobs of a clip remove something only before its finalize job is queued, and while
no other turn transcodes the clip. -/
def CleansUpAlone (clipId : Nat) : Background.Condition Url := fun events server thread op _ =>
  Calls.Removes op →
    ∀ job, Calls.Working job (callsOfTask WorkerOp.noted events thread) →
      job.clipId = some (clipId : Int) →
      ¬server.Finalizing clipId ∧
        ∀ other job, other ≠ thread →
          ¬Calls.Transcoding job clipId (callsOfTask WorkerOp.noted events other)

/-- The call removes nothing that the clip is played from. -/
def WorkerOp.Spares (mediaDir : String) (clipId : Nat) (key : String) : WorkerOp Url → Prop
  | .deleteAssets id => id ≠ clipId
  | .removeFile path =>
      ∀ other, IsPlayedKey clipId key other → Store.abs mediaDir other ≠ some path
  | _ => True

/-! ## What a call does to rows and files -/

section Calls

variable {mediaDir key : String} {clipId : Nat} {server : Server} {op : WorkerOp Url}
  {env : WorkerEnv Url}

theorem JobRow.clipId_of_payload {old new : JobRow} (payload : new.payload = old.payload) :
    new.clipId = old.clipId := by
  unfold JobRow.clipId
  rw [payload]

theorem JobRow.KeyedFor.of_same {old new : JobRow} (keyed : old.KeyedFor mediaDir clipId key)
    (kind : new.kind = old.kind) (payload : new.payload = old.payload) :
    new.KeyedFor mediaDir clipId key := by
  have named := JobRow.clipId_of_payload payload
  constructor
  · rw [kind, named, payload]
    exact keyed.ownKey
  · rw [kind, named, payload]
    exact keyed.ownPath
  · rw [kind, named, payload]
    exact keyed.foreign

theorem MediaAssetRow.KeyedFor.of_same {old new : MediaAssetRow} (keyed : old.KeyedFor clipId key)
    (ofClip : new.clipId = old.clipId) (kind : new.kind = old.kind)
    (rendition : new.rendition = old.rendition) (path : new.path = old.path) :
    new.KeyedFor clipId key := by
  constructor
  · rw [ofClip, kind, rendition, path]
    exact keyed.own
  · rw [ofClip, path]
    exact keyed.foreign

/-- A file that the clip is played from stays. -/
theorem Server.HasFile.survives {other : String} (present : server.HasFile mediaDir other)
    (played : IsPlayedKey clipId key other) (spares : op.Spares mediaDir clipId key) :
    (WorkerOp.exec env op server).2.HasFile mediaDir other := by
  obtain ⟨path, located, isFile⟩ := present
  refine ⟨path, located, WorkerOp.file_survives env op server isFile ?_⟩
  rintro rfl
  exact spares other played located

/-- A row that the clip is played from stays, together with its file. -/
theorem Server.Holds.survives {rendition : String} {row : MediaAssetRow}
    (holds : server.Holds mediaDir clipId rendition row) (played : IsPlayed rendition)
    (keyed : ∀ row ∈ server.mediaAssets, row.KeyedFor clipId key)
    (keyedAfter : ∀ row ∈ (WorkerOp.exec env op server).2.mediaAssets, row.KeyedFor clipId key)
    (spares : op.Spares mediaDir clipId key) :
    ∃ new, (WorkerOp.exec env op server).2.Holds mediaDir clipId rendition new ∧
      (row.readyAt ≠ none → new.readyAt ≠ none) := by
  obtain ⟨stored, ofClip, isVideo, named, file⟩ := holds
  have spared : op ≠ .deleteAssets row.clipId := by
    rintro rfl
    exact spares (congrArg Int.ofNat ofClip)
  obtain ⟨new, member, change⟩ := WorkerOp.asset_survives env op server stored spared
  have path : row.path = playedKey clipId key rendition := by
    rw [(keyed row stored).own ofClip isVideo (named ▸ played), named]
  have newNamed : new.rendition = rendition := change.rendition.trans named
  have newPath : new.path = playedKey clipId key rendition := by
    rw [(keyedAfter new member).own (change.clipId.trans ofClip) (change.kind.trans isVideo)
      (newNamed ▸ played), newNamed]
  refine ⟨new, ⟨member, change.clipId.trans ofClip, change.kind.trans isVideo, newNamed, ?_⟩,
    change.stamped⟩
  rw [newPath, ← path]
  exact file.survives ⟨rendition, played, path.symm⟩ spares

theorem Server.Registered.survives (registered : server.Registered mediaDir clipId)
    (keyed : ∀ row ∈ server.mediaAssets, row.KeyedFor clipId key)
    (keyedAfter : ∀ row ∈ (WorkerOp.exec env op server).2.mediaAssets, row.KeyedFor clipId key)
    (spares : op.Spares mediaDir clipId key) :
    (WorkerOp.exec env op server).2.Registered mediaDir clipId := by
  obtain ⟨⟨rendition, isRung, rung, rungHolds⟩, original, originalHolds⟩ := registered
  obtain ⟨newRung, newRungHolds, -⟩ := rungHolds.survives (.inr isRung) keyed keyedAfter spares
  obtain ⟨newOriginal, newOriginalHolds, -⟩ :=
    originalHolds.survives (.inl rfl) keyed keyedAfter spares
  exact ⟨⟨rendition, isRung, newRung, newRungHolds⟩, newOriginal, newOriginalHolds⟩

theorem Server.Playable.survives (playable : server.Playable mediaDir clipId)
    (keyed : ∀ row ∈ server.mediaAssets, row.KeyedFor clipId key)
    (keyedAfter : ∀ row ∈ (WorkerOp.exec env op server).2.mediaAssets, row.KeyedFor clipId key)
    (spares : op.Spares mediaDir clipId key) :
    (WorkerOp.exec env op server).2.Playable mediaDir clipId := by
  obtain ⟨⟨rendition, isRung, rung, rungHolds, ready⟩, original, originalHolds⟩ := playable
  obtain ⟨newRung, newRungHolds, stays⟩ :=
    rungHolds.survives (.inr isRung) keyed keyedAfter spares
  obtain ⟨newOriginal, newOriginalHolds, -⟩ :=
    originalHolds.survives (.inl rfl) keyed keyedAfter spares
  exact ⟨⟨rendition, isRung, newRung, newRungHolds, stays ready⟩, newOriginal, newOriginalHolds⟩

theorem Server.Finalizing.survives {clipId : Int} (finalizing : server.Finalizing clipId) :
    (WorkerOp.exec env op server).2.Finalizing clipId := by
  obtain ⟨row, stored, kind, named⟩ := finalizing
  obtain ⟨new, member, change⟩ := WorkerOp.job_changes env op server stored
  obtain ⟨-, newKind, newPayload⟩ := change.about
  exact ⟨new, member, newKind.trans kind, (JobRow.clipId_of_payload newPayload).trans named⟩

/-- A clip that is alive was alive, at the same stage unless the call has written it. -/
theorem WorkerOp.of_alive (known : ∃ clip ∈ server.clips, clip.id = clipId) {new : ClipRow}
    (member : new ∈ (WorkerOp.exec env op server).2.clips) (named : new.id = clipId)
    (alive : new.deletedAt = none) :
    ∃ old ∈ server.clips, old.id = clipId ∧ old.actorId = new.actorId ∧ old.deletedAt = none ∧
      (old.status = new.status ∨ op.writesStatus = some ((clipId : Int), new.status)) := by
  rcases WorkerOp.clip_after env op server member with
    ⟨old, stored, kept⟩ | ⟨old, -, -, rfl⟩ | ⟨fresh, -, -⟩ | ⟨-, old, stored, staged⟩
  · exact ⟨old, stored, kept.id.symm.trans named, kept.actorId.symm,
      kept.deletedAt.symm.trans alive, .inl kept.status.symm⟩
  · cases alive
  · obtain ⟨clip, stored, isClip⟩ := known
    exact (SerialTable.number_ne_next stored (isClip.trans (named.symm.trans fresh))).elim
  · have sameId : old.id = clipId := staged.id.symm.trans named
    exact ⟨old, stored, sameId, staged.actorId.symm, staged.deletedAt.symm.trans alive,
      .inr (sameId ▸ staged.writes)⟩

/-- A deleted clip stays deleted. -/
theorem Server.HasDeleted.survives (deleted : server.HasDeleted clipId)
    (known : ∃ clip ∈ server.clips, clip.id = clipId) :
    (WorkerOp.exec env op server).2.HasDeleted clipId := by
  intro new member named alive
  obtain ⟨old, stored, isClip, -, wasAlive, -⟩ := WorkerOp.of_alive known member named alive
  exact deleted old stored isClip wasAlive

end Calls

/-! ## Whose files are whose -/

/-- Every job and every asset keeps to the files of its clip, and what the deletion of an
account has found of a clip, is of a clip that it has deleted. -/
structure FilesApart (mediaDir : String) (clipId : Nat) (key : String)
    (events : List (Effects.Event Thread (@WorkerOp.Result Url) Error (WorkerEnv Url)))
    (server : Server) : Prop where
  claims : ClaimsStored events server
  known : ∃ clip ∈ server.clips, clip.id = clipId
  jobs : ∀ row ∈ server.jobs, row.KeyedFor mediaDir clipId key
  assets : ∀ row ∈ server.mediaAssets, row.KeyedFor clipId key
  marked : ∀ thread actorId,
    Calls.Did (.base (.markClipsOfActorDeleted actorId))
      (callsOfTask WorkerOp.noted events thread) →
    ∀ clip ∈ server.clips, clip.id = clipId → clip.actorId = actorId → clip.deletedAt ≠ none
  erased : ∀ thread actorId paths,
    Calls.Returned (.assetPathsOfActor actorId) paths
      (callsOfTask WorkerOp.noted events thread) →
    ∀ other ∈ paths, IsPlayedKey clipId key other → server.HasDeleted clipId

section Apart

variable
  {events : List (Effects.Event Thread (@WorkerOp.Result Url) Error (WorkerEnv Url))}
  {mediaDir key : String} {clipId : Nat} {server : Server} {workers : WorkerConfig}
  {thread : Thread} {op : WorkerOp Url} {env : WorkerEnv Url}

/-- A claimed job is about the files of its clip. -/
theorem FilesApart.claimed (apart : FilesApart mediaDir clipId key events server) {job : JobRow}
    (claimed : Calls.Claimed job (callsOfTask WorkerOp.noted events thread)) :
    job.KeyedFor mediaDir clipId key := by
  obtain ⟨row, stored, -, kind, payload⟩ := apart.claims thread job claimed
  exact (apart.jobs row stored).of_same kind.symm payload.symm

theorem JobRow.KeyedFor.of_unused {row : JobRow} (unused : ¬row.kind.usesFiles) :
    row.KeyedFor mediaDir clipId key where
  ownKey uses := (unused uses).elim
  ownPath uses := (unused uses).elim
  foreign uses := (unused uses).elim

/-- A stage that a worker queues is about the files of its clip. -/
theorem FilesApart.queued (apart : FilesApart mediaDir clipId key events server)
    {kind : JobKind} {payload : Value} {now : DateTime} {id : Nat}
    (allowed : QueueAllowed (callsOfTask WorkerOp.noted events thread) kind payload) :
    (Jobs.queued kind payload now id).KeyedFor mediaDir clipId key := by
  obtain ⟨job, working, stage⟩ := allowed
  cases kind with
  | transcode =>
      obtain ⟨isProbe, jobClip, path, jobKey, mime, named, pathed, keyed, rfl⟩ := stage
      have uses : job.kind.usesFiles := .inl isProbe
      have ofJob := apart.claimed working.claimed
      have sameClip : (Jobs.queued .transcode (transcodePayload jobClip path jobKey mime)
          now id).clipId = some jobClip := clipId_queued named
      constructor
      · intro _ isClip other otherKeyed
        obtain rfl : jobKey = other := Option.some.inj otherKeyed
        exact ofJob.ownKey uses (named.trans (sameClip.symm.trans isClip)) jobKey keyed
      · intro _ isClip other otherPathed
        obtain rfl : path = other := Option.some.inj otherPathed
        exact ofJob.ownPath uses (named.trans (sameClip.symm.trans isClip)) path pathed
      · intro _ other isOther foreign otherKey otherKeyed
        obtain rfl : jobKey = otherKey := Option.some.inj otherKeyed
        exact ofJob.foreign uses other (named.trans (sameClip.symm.trans isOther)) foreign
          jobKey keyed
  | probe => exact stage.elim
  | _ => exact .of_unused (by rintro (isProbe | isTranscode) <;> contradiction)

/-- A job that is added is about the files of its clip. -/
theorem FilesApart.added (apart : FilesApart mediaDir clipId key events server)
    (allowed : TurnAllowed workers (RequestErases mediaDir) thread
      (callsOfTask WorkerOp.noted events thread) op)
    {new : JobRow} (adds : WorkerOp.AddsJob env op server new) :
    new.KeyedFor mediaDir clipId key := by
  obtain ⟨kind, payload, rfl, rfl⟩ := adds
  cases thread with
  | media index | delivery => exact apart.queued allowed
  | maintenance => exact allowed.elim
  | request index =>
      refine .of_unused ?_
      rintro (isProbe | isTranscode)
      · obtain rfl : kind = .probe := isProbe
        cases allowed
      · obtain rfl : kind = .transcode := isTranscode
        cases allowed

/-- What is registered: a rendition, the poster or the original of a transcode. -/
theorem of_registers
    (allowed : TurnAllowed workers (RequestErases mediaDir) thread
      (callsOfTask WorkerOp.noted events thread) op)
    {new : NewAsset} (registers : op.registers = some new) :
    ∃ job, Calls.Encoding job new.clipId (callsOfTask WorkerOp.noted events thread) ∧
      ((∃ rendition, IsRung rendition ∧ new = rungAsset new.clipId rendition) ∨
        new = posterAsset new.clipId ∨
        ∃ key, job.payload.getStr "key" = some key ∧ new = originalAsset new.clipId key) := by
  cases thread with
  | media index | delivery =>
      cases op with
      | createAsset asset =>
          cases registers
          obtain ⟨job, encoding, isNew, -⟩ := allowed
          exact ⟨job, encoding, isNew.imp_right .inl⟩
      | upsertAsset asset =>
          cases registers
          obtain ⟨job, key, encoding, keyed, isNew, -⟩ := allowed
          exact ⟨job, encoding, .inr (.inr ⟨key, keyed, isNew⟩)⟩
      | _ => cases registers
  | maintenance | request => cases op <;> first | exact allowed.elim | cases registers

/-- An asset that is registered is stored under a key of its clip. -/
theorem FilesApart.registered (apart : FilesApart mediaDir clipId key events server)
    (original : IsOriginalKey key)
    (allowed : TurnAllowed workers (RequestErases mediaDir) thread
      (callsOfTask WorkerOp.noted events thread) op)
    {new : NewAsset} (registers : op.registers = some new)
    {row : MediaAssetRow} (under : row.under new = true) (path : row.path = new.path) :
    row.KeyedFor clipId key := by
  obtain ⟨ofClip, kind, rendition⟩ : (row.clipId : Int) = new.clipId ∧ row.kind = new.kind ∧
    row.rendition = new.rendition := of_decide_eq_true under
  have foreign (other : row.clipId ≠ clipId) : new.clipId ≠ clipId := fun same =>
    other (Int.ofNat.inj (ofClip.trans same))
  obtain ⟨job, encoding, ⟨produced, isRung, isNew⟩ | isNew | ⟨jobKey, keyed, isNew⟩⟩ :=
    of_registers allowed registers
  · have newPath : new.path = renditionKey new.clipId (produced ++ ".mp4") :=
      congrArg NewAsset.path isNew
    have named : row.rendition = produced := rendition.trans (congrArg NewAsset.rendition isNew)
    constructor
    · intro own _ _
      rw [path, newPath, ← ofClip, own, named, playedKey_rung isRung]
    · intro other
      rw [path, newPath]
      exact not_isPlayedKey_renditionKey original (foreign other) _
  · have newPath : new.path = renditionKey new.clipId "poster.jpg" :=
      congrArg NewAsset.path isNew
    constructor
    · intro _ isVideo _
      have isPoster : row.kind = .poster := kind.trans (congrArg NewAsset.kind isNew)
      exact MediaKind.noConfusion (isVideo.symm.trans isPoster)
    · intro other
      rw [path, newPath]
      exact not_isPlayedKey_renditionKey original (foreign other) _
  · have ofJob := apart.claimed encoding.working.claimed
    have uses : job.kind.usesFiles := .inr encoding.kind
    have newPath : new.path = jobKey := congrArg NewAsset.path isNew
    have named : row.rendition = "orig" := rendition.trans (congrArg NewAsset.rendition isNew)
    constructor
    · intro own _ _
      have isClip : job.clipId = some (clipId : Int) := by
        rw [encoding.named, ← ofClip, own]
      rw [path, newPath, named, playedKey_orig]
      exact ofJob.ownKey uses isClip jobKey keyed
    · intro other
      rw [path, newPath]
      exact ofJob.foreign uses new.clipId encoding.named (foreign other) jobKey keyed

/-- What an account deletion finds of a clip is of a clip that it has deleted. -/
theorem FilesApart.found (apart : FilesApart mediaDir clipId key events server)
    {actorId : Nat}
    (did : Calls.Did (.base (.markClipsOfActorDeleted actorId))
      (callsOfTask WorkerOp.noted events thread))
    {other : String} (returned : other ∈ Server.assetPathsOfActor actorId server.toDb)
    (played : IsPlayedKey clipId key other) : server.HasDeleted clipId := by
  obtain ⟨⟨asset, clip⟩, joined, rfl⟩ := List.mem_map.mp returned
  obtain ⟨isJoined, owned⟩ := List.mem_filter.mp joined
  obtain ⟨assetStored, clipStored, ofClip⟩ := Relational.mem_join.mp isJoined
  have isClip : asset.clipId = clipId := by
    by_contra foreign
    exact (apart.assets asset assetStored).foreign foreign played
  have named : clip.id = clipId := (of_decide_eq_true ofClip).trans isClip
  intro same sameStored sameNamed
  obtain rfl : same = clip :=
    SerialTable.eq_of_number_eq sameStored clipStored (sameNamed.trans named.symm)
  exact apart.marked thread actorId did same clipStored named (of_decide_eq_true owned)

/-- The start of a turn keeps the files apart. -/
theorem FilesApart.began (apart : FilesApart mediaDir clipId key events server)
    (begun : Thread) : FilesApart mediaDir clipId key (events ++ [.began begun]) server where
  claims := apart.claims.began begun
  known := apart.known
  jobs := apart.jobs
  assets := apart.assets
  marked other actorId did := by
    obtain ⟨result, member⟩ := did
    exact apart.marked other actorId ⟨result, mem_callsOfTask_began member⟩
  erased other actorId paths returned :=
    apart.erased other actorId paths (mem_callsOfTask_began returned)

/-- The assets after a call are stored under keys of their clips. -/
theorem FilesApart.assets_after (apart : FilesApart mediaDir clipId key events server)
    (original : IsOriginalKey key)
    (allowed : TurnAllowed workers (RequestErases mediaDir) thread
      (callsOfTask WorkerOp.noted events thread) op) :
    ∀ row ∈ (WorkerOp.exec env op server).2.mediaAssets, row.KeyedFor clipId key := by
  intro row member
  rcases WorkerOp.asset_after env op server member with
    ⟨old, stored, change⟩ | ⟨new, registers, under, path⟩
  · rcases change.path with kept | ⟨new, rfl, under, moved⟩
    · exact (apart.assets old stored).of_same change.clipId change.kind change.rendition kept
    · refine apart.registered original allowed rfl ?_ moved
      unfold MediaAssetRow.under at under ⊢
      rwa [change.clipId, change.kind, change.rendition]
  · exact apart.registered original allowed registers under path

/-- Every allowed call keeps the files apart. -/
theorem FilesApart.called (apart : FilesApart mediaDir clipId key events server)
    (original : IsOriginalKey key)
    (allowed : TurnAllowed workers (RequestErases mediaDir) thread
      (callsOfTask WorkerOp.noted events thread) op) :
    FilesApart mediaDir clipId key
      (events ++ [.called ⟨thread, op, env, (WorkerOp.exec env op server).1⟩])
      (WorkerOp.exec env op server).2 where
  claims := apart.claims.called thread op env
  known := by
    obtain ⟨clip, stored, named⟩ := apart.known
    obtain ⟨new, member, sameId⟩ := WorkerOp.clip_survives env op server stored
    exact ⟨new, member, sameId.trans named⟩
  jobs row member := by
    rcases WorkerOp.job_after env op server member with ⟨old, stored, change⟩ | adds
    · obtain ⟨-, kind, payload⟩ := change.about
      exact (apart.jobs old stored).of_same kind payload
    · exact apart.added allowed adds
  assets := apart.assets_after original allowed
  marked other actorId did new member named owned := by
    obtain ⟨result, returned⟩ := did
    rcases mem_callsOfTask_called returned with earlier | ⟨-, isCall⟩
    · intro alive
      obtain ⟨old, stored, isClip, sameActor, wasAlive, -⟩ :=
        WorkerOp.of_alive apart.known member named alive
      exact apart.marked other actorId ⟨result, earlier⟩ old stored isClip
        (sameActor.trans owned) wasAlive
    · generalize succeeded : (WorkerOp.exec env op server).1 = outcome at isCall
      cases isCall
      exact clips_after_deletion succeeded member owned
  erased other actorId paths returned path member played := by
    rcases mem_callsOfTask_called returned with earlier | ⟨-, isCall⟩
    · exact (apart.erased other actorId paths earlier path member played).survives apart.known
    · generalize found : (WorkerOp.exec env op server).1 = outcome at isCall
      cases isCall
      refine Server.HasDeleted.survives ?_ apart.known
      cases thread with
      | media index | delivery => exact allowed.elim
      | maintenance => exact allowed.elim
      | request index =>
          refine apart.found allowed ?_ played
          rcases WorkerOp.exec_cases env (.assetPathsOfActor actorId) server with
            ⟨error, failed⟩ | performed
          · rw [failed] at found
            cases found
          · rw [performed] at found
            cases found
            exact member

/-- A worker removes something for a job of the clip, or spares its files. -/
theorem FilesApart.spares_of_worker (apart : FilesApart workers.mediaDir clipId key events server)
    (original : IsOriginalKey key) {name : String}
    (allowed : WorkerAllowed workers name (callsOfTask WorkerOp.noted events thread) op)
    (removes : Calls.Removes op) :
    ∃ job, Calls.Working job (callsOfTask WorkerOp.noted events thread) ∧
      (job.clipId = some (clipId : Int) ∨ op.Spares workers.mediaDir clipId key) := by
  cases op with
  | deleteAssets id =>
      obtain ⟨job, working, -, named⟩ := allowed
      refine ⟨job, working, ?_⟩
      by_cases own : id = clipId
      · exact .inl (own ▸ named)
      · exact .inr own
  | removeFile target =>
      obtain ⟨job, jobClip, removed, working, named, located, ofJob⟩ := allowed
      refine ⟨job, working, ?_⟩
      by_cases own : jobClip = clipId
      · exact .inl (own ▸ named)
      · right
        intro other played otherLocated
        obtain rfl : other = removed := Store.abs_injective otherLocated located
        rcases ofJob with ⟨stage, keyed⟩ | ⟨-, filename, -, rfl⟩
        · exact (apart.claimed working.claimed).foreign stage jobClip named own other keyed played
        · exact not_isPlayedKey_renditionKey original own filename played
  | _ => exact removes.elim

/-- An allowed call spares the files of a clip, unless the clip is deleted or a job of the
clip cleans up alone. -/
theorem FilesApart.spares (apart : FilesApart workers.mediaDir clipId key events server)
    (original : IsOriginalKey key)
    (allowed : TurnAllowed workers (RequestErases workers.mediaDir) thread
      (callsOfTask WorkerOp.noted events thread) op)
    (alone : CleansUpAlone clipId events server thread op env) :
    op.Spares workers.mediaDir clipId key ∨ server.HasDeleted clipId ∨
      Calls.Removes op ∧ ¬server.Finalizing clipId ∧
        ∀ other job, other ≠ thread →
          ¬Calls.Transcoding job clipId (callsOfTask WorkerOp.noted events other) := by
  by_cases removes : Calls.Removes op
  case neg =>
    left
    cases op <;> first | trivial | exact (removes trivial).elim
  cases thread with
  | media index | delivery =>
      obtain ⟨job, working, isClip | spares⟩ := apart.spares_of_worker original allowed removes
      · exact .inr (.inr ⟨removes, alone removes job working isClip⟩)
      · exact .inl spares
  | maintenance => cases op <;> first | exact removes.elim | exact allowed.elim
  | request index =>
      cases op with
      | deleteAssets id => exact allowed.elim
      | removeFile target =>
          obtain ⟨actorId, paths, removed, returned, member, located⟩ := allowed
          by_cases played : IsPlayedKey clipId key removed
          · exact .inr (.inl (apart.erased _ actorId paths returned removed member played))
          · left
            intro other otherPlayed otherLocated
            exact played (Store.abs_injective otherLocated located ▸ otherPlayed)
      | _ => exact removes.elim

end Apart

/-! ## What a transcode has built -/

/-- What a turn has read, written and registered of a clip, is there. -/
structure TurnBuilt (mediaDir : String) (clipId : Nat) (key : String) (calls : Calls Url)
    (server : Server) : Prop where
  read : ∀ path output, Store.abs mediaDir key = some path → calls.Did (.ffmpeg path output) →
    server.HasFile mediaDir key
  written : ∀ rendition target, IsRung rendition →
    Store.abs mediaDir (renditionKey clipId (rendition ++ ".mp4")) = some target →
    calls.Did (.writeFile target) →
    server.HasFile mediaDir (renditionKey clipId (rendition ++ ".mp4"))
  created : ∀ rendition, IsRung rendition →
    calls.Did (.createAsset (rungAsset clipId rendition)) →
    ∃ row, server.Holds mediaDir clipId rendition row
  original : ∀ jobKey, calls.Did (.upsertAsset (originalAsset clipId jobKey)) →
    ∃ row, server.Holds mediaDir clipId "orig" row

/-- The transcodes of a clip have built what they rely on, its finalize jobs find it, and the
clip is playable once it is stamped or ready. -/
structure Built (mediaDir : String) (clipId : Nat) (key : String)
    (events : List (Effects.Event Thread (@WorkerOp.Result Url) Error (WorkerEnv Url)))
    (server : Server) : Prop where
  turns : ∀ thread job,
    Calls.Transcoding job clipId (callsOfTask WorkerOp.noted events thread) →
    TurnBuilt mediaDir clipId key (callsOfTask WorkerOp.noted events thread) server
  finalizing : server.Finalizing clipId → server.Registered mediaDir clipId
  stamped : ∀ thread,
    Calls.Did (.markAssetsReady clipId) (callsOfTask WorkerOp.noted events thread) →
    server.Finalizing clipId ∧ server.Playable mediaDir clipId
  ready : ∀ clip ∈ server.clips, clip.id = clipId → clip.deletedAt = none →
    clip.status = .ready → server.Finalizing clipId ∧ server.Playable mediaDir clipId

section Building

variable
  {events : List (Effects.Event Thread (@WorkerOp.Result Url) Error (WorkerEnv Url))}
  {key : String} {clipId : Nat} {server : Server} {workers : WorkerConfig}
  {thread other : Thread} {op : WorkerOp Url} {env : WorkerEnv Url} {calls : Calls Url}

theorem requestAllowed_of_erases {mediaDir : String}
    (allowed : RequestErases mediaDir calls op) : RequestAllowed calls op := by
  cases op <;> trivial

/-- A turn that transcodes after a call did so before, or has just begun. It removes
nothing with the call. -/
theorem Calls.Transcoding.of_called {job : JobRow}
    (transcoding : Calls.Transcoding job clipId (callsOfTask WorkerOp.noted
      (events ++ [.called ⟨thread, op, env, (WorkerOp.exec env op server).1⟩]) other))
    (allowed : TurnAllowed workers (RequestErases workers.mediaDir) thread
      (callsOfTask WorkerOp.noted events thread) op) :
    (Calls.Transcoding job clipId (callsOfTask WorkerOp.noted events other) ∨
      callsOfTask WorkerOp.noted events other = []) ∧ (other = thread → ¬Removes op) := by
  constructor
  · rcases transcoding.working.claimed.of_called with earlier | ⟨rfl, worker, rfl, -⟩
    · refine .inl ⟨(transcoding.working.of_called earlier).1, transcoding.kind,
        transcoding.named, ?_⟩
      rintro ⟨call, member, removes⟩
      refine transcoding.building ⟨call, ?_, removes⟩
      rcases callsOfTask_called_cases WorkerOp.noted events thread other op env
          (WorkerOp.exec env op server).1 with ⟨same, -⟩ | ⟨rfl, extended⟩
      · rwa [same]
      · rw [extended]
        exact List.mem_append_left _ member
    · exact .inr (lockName_of_claim (allowed.mono requestAllowed_of_erases)).1
  · rintro rfl removes
    have noted : op.noted = true := by
      cases op <;> first | rfl | exact removes.elim
    refine transcoding.building ⟨⟨op, (WorkerOp.exec env op server).1⟩, ?_, removes⟩
    rw [callsOfTask_called, Function.update_self, if_pos noted]
    exact List.mem_append_right _ (List.mem_singleton_self _)

/-- The finalize jobs after a call: those before it, and the one that a transcode queues once
it has registered its files. -/
theorem of_finalizing_after
    (allowed : TurnAllowed workers (RequestErases workers.mediaDir) thread
      (callsOfTask WorkerOp.noted events thread) op)
    (after : (WorkerOp.exec env op server).2.Finalizing clipId) :
    server.Finalizing clipId ∨ ¬Calls.Removes op ∧ ∃ job jobKey rendition,
      Calls.Transcoding job clipId (callsOfTask WorkerOp.noted events thread) ∧
        IsRung rendition ∧
        Calls.Did (.createAsset (rungAsset clipId rendition))
          (callsOfTask WorkerOp.noted events thread) ∧
        Calls.Did (.upsertAsset (originalAsset clipId jobKey))
          (callsOfTask WorkerOp.noted events thread) := by
  obtain ⟨row, member, isFinalize, named⟩ := after
  rcases WorkerOp.job_after env op server member with ⟨old, stored, change⟩ | adds
  · obtain ⟨-, kind, payload⟩ := change.about
    exact .inl ⟨old, stored, kind.symm.trans isFinalize,
      (JobRow.clipId_of_payload payload).symm.trans named⟩
  obtain ⟨kind, payload, rfl, rfl⟩ := adds
  obtain rfl : kind = .finalize := isFinalize
  right
  cases thread with
  | media index | delivery =>
      obtain ⟨job, -, jobClip, jobKey, rendition, encoding, -, isRung, created, upserted, rfl⟩ :=
        allowed
      obtain rfl : jobClip = clipId :=
        Option.some.inj ((clipId_queued encoding.named).symm.trans named)
      exact ⟨id, job, jobKey, rendition, encoding.toTranscoding, isRung, created, upserted⟩
  | maintenance => exact allowed.elim
  | request index => cases allowed

theorem TurnBuilt.nil {mediaDir : String} : TurnBuilt mediaDir clipId key ([] : Calls Url) server where
  read := by rintro _ _ _ ⟨_, ⟨⟩⟩
  written := by rintro _ _ _ _ ⟨_, ⟨⟩⟩
  created := by rintro _ _ ⟨_, ⟨⟩⟩
  original := by rintro _ ⟨_, ⟨⟩⟩

/-- What a turn has built stays, while its files are spared. -/
theorem TurnBuilt.survives (built : TurnBuilt workers.mediaDir clipId key calls server)
    (keyed : ∀ row ∈ server.mediaAssets, row.KeyedFor clipId key)
    (keyedAfter : ∀ row ∈ (WorkerOp.exec env op server).2.mediaAssets, row.KeyedFor clipId key)
    (spares : op.Spares workers.mediaDir clipId key) :
    TurnBuilt workers.mediaDir clipId key calls (WorkerOp.exec env op server).2 where
  read path output located did := (built.read path output located did).survives
    isPlayedKey_original spares
  written rendition target isRung located did :=
    (built.written rendition target isRung located did).survives (isPlayedKey_rung isRung) spares
  created rendition isRung did := by
    obtain ⟨row, holds⟩ := built.created rendition isRung did
    obtain ⟨new, newHolds, -⟩ := holds.survives (.inr isRung) keyed keyedAfter spares
    exact ⟨new, newHolds⟩
  original jobKey did := by
    obtain ⟨row, holds⟩ := built.original jobKey did
    obtain ⟨new, newHolds, -⟩ := holds.survives (.inl rfl) keyed keyedAfter spares
    exact ⟨new, newHolds⟩

/-- A row that has been registered under a key of the clip whose file is there. -/
theorem holds_of_registered {mediaDir : String} {new : NewAsset}
    (registers : op.registers = some new) {result : op.Result}
    (succeeded : (WorkerOp.exec env op server).1 = .ok result)
    (ofClip : new.clipId = clipId) (isVideo : new.kind = .videoMp4) (played : IsPlayed new.rendition)
    (keyedAfter : ∀ row ∈ (WorkerOp.exec env op server).2.mediaAssets, row.KeyedFor clipId key)
    (file : (WorkerOp.exec env op server).2.HasFile mediaDir
      (playedKey clipId key new.rendition)) :
    ∃ row, (WorkerOp.exec env op server).2.Holds mediaDir clipId new.rendition row := by
  obtain ⟨row, member, under⟩ := WorkerOp.registered_ok registers succeeded
  obtain ⟨sameClip, kind, rendition⟩ : (row.clipId : Int) = new.clipId ∧ row.kind = new.kind ∧
    row.rendition = new.rendition := of_decide_eq_true under
  have own : row.clipId = clipId := Int.ofNat.inj (sameClip.trans ofClip)
  refine ⟨row, member, own, kind.trans isVideo, rendition, ?_⟩
  rw [(keyedAfter row member).own own (kind.trans isVideo) (rendition ▸ played), rendition]
  exact file

/-- A source is read before the outputs are registered. -/
theorem FilesApart.source (apart : FilesApart workers.mediaDir clipId key events server)
    (built : TurnBuilt workers.mediaDir clipId key (callsOfTask WorkerOp.noted events thread)
      server)
    {job : JobRow}
    (encoding : Calls.Encoding job clipId (callsOfTask WorkerOp.noted events thread)) :
    server.HasFile workers.mediaDir key := by
  obtain ⟨path, output, pathed, did⟩ := encoding.source
  have located := (apart.claimed encoding.working.claimed).ownPath (.inr encoding.kind)
    encoding.named path pathed
  exact built.read path output located did

/-- What a turn builds with a call is there. -/
theorem TurnBuilt.append (apart : FilesApart workers.mediaDir clipId key events server)
    (original : IsOriginalKey key)
    (allowed : TurnAllowed workers (RequestErases workers.mediaDir) thread
      (callsOfTask WorkerOp.noted events thread) op)
    (spares : op.Spares workers.mediaDir clipId key)
    (built : TurnBuilt workers.mediaDir clipId key (callsOfTask WorkerOp.noted events thread)
      server) :
    TurnBuilt workers.mediaDir clipId key
      (callsOfTask WorkerOp.noted events thread ++ [⟨op, (WorkerOp.exec env op server).1⟩])
      (WorkerOp.exec env op server).2 := by
  have keyedAfter : ∀ row ∈ (WorkerOp.exec env op server).2.mediaAssets,
      row.KeyedFor clipId key := apart.assets_after original allowed
  have survives := built.survives apart.assets keyedAfter spares
  constructor
  · rintro path output located ⟨result, member⟩
    rcases List.mem_append.mp member with earlier | last
    · exact survives.read path output located ⟨result, earlier⟩
    · generalize succeeded : (WorkerOp.exec env op server).1 = outcome at last
      cases List.mem_singleton.mp last
      exact ⟨path, located, WorkerOp.file_read succeeded⟩
  · rintro rendition target isRung located ⟨result, member⟩
    rcases List.mem_append.mp member with earlier | last
    · exact survives.written rendition target isRung located ⟨result, earlier⟩
    · generalize succeeded : (WorkerOp.exec env op server).1 = outcome at last
      cases List.mem_singleton.mp last
      exact ⟨target, located, WorkerOp.file_written succeeded⟩
  · rintro rendition isRung ⟨result, member⟩
    rcases List.mem_append.mp member with earlier | last
    · exact survives.created rendition isRung ⟨result, earlier⟩
    generalize succeeded : (WorkerOp.exec env op server).1 = outcome at last
    cases List.mem_singleton.mp last
    have file : server.HasFile workers.mediaDir (playedKey clipId key rendition) := by
      rw [playedKey_rung isRung]
      cases thread with
      | media index | delivery =>
          obtain ⟨job, -, -, target, located, did⟩ := allowed
          exact built.written rendition target isRung located did
      | maintenance | request => exact allowed.elim
    refine holds_of_registered rfl succeeded rfl rfl (.inr isRung) keyedAfter ?_
    exact file.survives ⟨rendition, .inr isRung, rfl⟩ spares
  · rintro jobKey ⟨result, member⟩
    rcases List.mem_append.mp member with earlier | last
    · exact survives.original jobKey ⟨result, earlier⟩
    generalize succeeded : (WorkerOp.exec env op server).1 = outcome at last
    cases List.mem_singleton.mp last
    have file : server.HasFile workers.mediaDir (playedKey clipId key "orig") := by
      rw [playedKey_orig]
      obtain ⟨job, encoding, -⟩ := of_registers allowed rfl
      exact apart.source built encoding
    refine holds_of_registered rfl succeeded rfl rfl (.inl rfl) keyedAfter ?_
    exact file.survives ⟨"orig", .inl rfl, rfl⟩ spares

/-- The start of a turn forgets what the last one has built. -/
theorem Built.began {mediaDir : String} (built : Built mediaDir clipId key events server)
    (begun : Thread) : Built mediaDir clipId key (events ++ [.began begun]) server where
  turns other job transcoding := by
    rcases callsOfTask_began_cases WorkerOp.noted events begun other with empty | same
    · rw [empty] at transcoding
      obtain ⟨_, ⟨⟩⟩ := transcoding.working.claimed
    · rw [same] at transcoding ⊢
      exact built.turns other job transcoding
  finalizing := built.finalizing
  stamped other did := by
    obtain ⟨result, member⟩ := did
    exact built.stamped other ⟨result, mem_callsOfTask_began member⟩
  ready := built.ready

/-- A clip is stamped for a finalize job of it. -/
theorem FilesApart.finalizing_of_stamp
    (apart : FilesApart workers.mediaDir clipId key events server)
    (allowed : TurnAllowed workers (RequestErases workers.mediaDir) thread
      (callsOfTask WorkerOp.noted events thread) (.markAssetsReady clipId)) :
    server.Finalizing clipId := by
  cases thread with
  | media index | delivery =>
      obtain ⟨job, working, isFinalize, named⟩ := allowed
      obtain ⟨row, stored, -, kind, payload⟩ := apart.claims _ job working.claimed
      exact ⟨row, stored, kind.trans isFinalize,
        (JobRow.clipId_of_payload payload).trans named⟩
  | maintenance | request => exact allowed.elim

/-- What is registered is playable once it is stamped. -/
theorem Server.Registered.stamped {mediaDir : String}
    (registered : server.Registered mediaDir clipId)
    (keyed : ∀ row ∈ server.mediaAssets, row.KeyedFor clipId key)
    (keyedAfter : ∀ row ∈ (WorkerOp.exec env (.markAssetsReady clipId) server).2.mediaAssets,
      row.KeyedFor clipId key)
    {result : Unit}
    (succeeded : (WorkerOp.exec env (.markAssetsReady clipId) server).1 = .ok result) :
    (WorkerOp.exec env (.markAssetsReady clipId) server).2.Playable mediaDir clipId := by
  obtain ⟨⟨rendition, isRung, row, holds⟩, original⟩ := registered.survives keyed keyedAfter trivial
  refine ⟨⟨rendition, isRung, row, holds, ?_⟩, original⟩
  refine WorkerOp.stamped_ok succeeded holds.stored ?_
  rw [MediaAssetRow.ofClip, holds.clipId]
  exact decide_eq_true rfl

/-- A clip is made ready after its assets have been stamped. -/
theorem stamped_of_ready
    (allowed : TurnAllowed workers (RequestErases workers.mediaDir) thread
      (callsOfTask WorkerOp.noted events thread) op)
    (writes : op.writesStatus = some ((clipId : Int), .ready)) :
    Calls.Did (.markAssetsReady clipId) (callsOfTask WorkerOp.noted events thread) := by
  cases op with
  | markReady id =>
      cases writes
      cases thread with
      | media index | delivery =>
          obtain ⟨job, -, -, -, did⟩ := allowed
          exact did
      | maintenance | request => exact allowed.elim
  | updateProbeInfo | markFailed => cases writes
  | _ => cases writes

/-- A call that spares the files of the clip keeps what is built, and may add to it. -/
theorem Built.spared (built : Built workers.mediaDir clipId key events server)
    (apart : FilesApart workers.mediaDir clipId key events server) (original : IsOriginalKey key)
    (allowed : TurnAllowed workers (RequestErases workers.mediaDir) thread
      (callsOfTask WorkerOp.noted events thread) op)
    (spares : op.Spares workers.mediaDir clipId key) :
    Built workers.mediaDir clipId key
      (events ++ [.called ⟨thread, op, env, (WorkerOp.exec env op server).1⟩])
      (WorkerOp.exec env op server).2 := by
  have keyedAfter : ∀ row ∈ (WorkerOp.exec env op server).2.mediaAssets,
      row.KeyedFor clipId key := apart.assets_after original allowed
  constructor
  · intro other job transcoding
    have before : TurnBuilt workers.mediaDir clipId key
        (callsOfTask WorkerOp.noted events other) server := by
      rcases (transcoding.of_called allowed).1 with was | empty
      · exact built.turns other job was
      · rw [empty]
        exact .nil
    rcases callsOfTask_called_cases WorkerOp.noted events thread other op env
        (WorkerOp.exec env op server).1 with ⟨same, -⟩ | ⟨rfl, extended⟩
    · rw [same]
      exact before.survives apart.assets keyedAfter spares
    · rw [extended]
      exact before.append apart original allowed spares
  · intro after
    rcases of_finalizing_after allowed after with
      earlier | ⟨-, job, jobKey, rendition, transcoding, isRung, created, upserted⟩
    · exact (built.finalizing earlier).survives apart.assets keyedAfter spares
    · have turn := built.turns thread job transcoding
      have registered : server.Registered workers.mediaDir clipId :=
        ⟨⟨rendition, isRung, turn.created rendition isRung created⟩,
          turn.original jobKey upserted⟩
      exact registered.survives apart.assets keyedAfter spares
  · rintro other ⟨result, returned⟩
    rcases mem_callsOfTask_called returned with earlier | ⟨-, isCall⟩
    · obtain ⟨finalizing, playable⟩ := built.stamped other ⟨result, earlier⟩
      exact ⟨finalizing.survives, playable.survives apart.assets keyedAfter spares⟩
    · generalize succeeded : (WorkerOp.exec env op server).1 = outcome at isCall
      cases isCall
      have finalizing := apart.finalizing_of_stamp allowed
      exact ⟨finalizing.survives,
        (built.finalizing finalizing).stamped apart.assets keyedAfter succeeded⟩
  · intro clip member isClip alive ready
    obtain ⟨old, stored, wasClip, -, wasAlive, stage⟩ :=
      WorkerOp.of_alive apart.known member isClip alive
    have before : server.Finalizing clipId ∧ server.Playable workers.mediaDir clipId := by
      rcases stage with same | writes
      · exact built.ready old stored wasClip wasAlive (same.trans ready)
      · rw [ready] at writes
        exact built.stamped thread (stamped_of_ready allowed writes)
    exact ⟨before.1.survives, before.2.survives apart.assets keyedAfter spares⟩

/-- A job that cleans up alone removes nothing that has been built. -/
theorem Built.cleaned (built : Built workers.mediaDir clipId key events server)
    (known : ∃ clip ∈ server.clips, clip.id = clipId)
    (allowed : TurnAllowed workers (RequestErases workers.mediaDir) thread
      (callsOfTask WorkerOp.noted events thread) op)
    (removes : Calls.Removes op) (unqueued : ¬server.Finalizing clipId)
    (alone : ∀ other job, other ≠ thread →
      ¬Calls.Transcoding job clipId (callsOfTask WorkerOp.noted events other)) :
    Built workers.mediaDir clipId key
      (events ++ [.called ⟨thread, op, env, (WorkerOp.exec env op server).1⟩])
      (WorkerOp.exec env op server).2 := by
  constructor
  · intro other job transcoding
    obtain ⟨before, keeps⟩ := transcoding.of_called allowed
    rcases before with was | empty
    · exact (alone other job (fun same => keeps same removes) was).elim
    rcases callsOfTask_called_cases WorkerOp.noted events thread other op env
        (WorkerOp.exec env op server).1 with ⟨same, -⟩ | ⟨rfl, -⟩
    · rw [same, empty] at transcoding
      obtain ⟨_, ⟨⟩⟩ := transcoding.working.claimed
    · exact (keeps rfl removes).elim
  · intro after
    rcases of_finalizing_after allowed after with earlier | ⟨keeps, -⟩
    · exact (unqueued earlier).elim
    · exact (keeps removes).elim
  · rintro other ⟨result, returned⟩
    rcases mem_callsOfTask_called returned with earlier | ⟨-, isCall⟩
    · exact (unqueued (built.stamped other ⟨result, earlier⟩).1).elim
    · generalize (WorkerOp.exec env op server).1 = outcome at isCall
      cases isCall
      exact removes.elim
  · intro clip member isClip alive ready
    obtain ⟨old, stored, wasClip, -, wasAlive, same | writes⟩ :=
      WorkerOp.of_alive known member isClip alive
    · exact (unqueued (built.ready old stored wasClip wasAlive (same.trans ready)).1).elim
    · cases op <;> first | exact removes.elim | cases writes

end Building

/-! ## Runs -/

/-- The clip has been uploaded and not finalized, and nothing else uses its original. -/
structure Server.Uploaded (mediaDir : String) (clipId : Nat) (key : String) (server : Server) :
    Prop where
  original : IsOriginalKey key
  known : ∃ clip ∈ server.clips, clip.id = clipId
  unready : ∀ clip ∈ server.clips, clip.id = clipId → clip.status ≠ .ready
  unqueued : ¬server.Finalizing clipId
  jobs : ∀ row ∈ server.jobs, row.KeyedFor mediaDir clipId key
  assets : ∀ row ∈ server.mediaAssets, row.KeyedFor clipId key

namespace Sample

/-- Two transcode jobs of a stored upload, as they are when a probe was made twice. -/
def transcodedTwice : Server :=
  { serverWith .processing .transcode [] with
    jobs := ⟨⟨[clipJob 1 .transcode [("path", .string "m/original/a"),
        ("key", .string "original/a")], clipJob 2 .transcode [("path", .string "m/original/a"),
        ("key", .string "original/a")]], by decide +kernel⟩, 3, by decide +kernel⟩
    files := fun path => path = "m/original/a" }

theorem keyed_clipJob (id : Nat) :
    (clipJob id .transcode [("path", .string "m/original/a"),
      ("key", .string "original/a")]).KeyedFor workers.mediaDir 1 "original/a" where
  ownKey _ _ other keyed := (Option.some.inj keyed).symm
  ownPath _ _ path pathed := by
    rw [← Option.some.inj pathed]
    decide
  foreign _ other named foreign := (foreign (Option.some.inj named).symm).elim

theorem transcodedTwice_uploaded :
    transcodedTwice.Uploaded workers.mediaDir 1 "original/a" where
  original := ⟨"a", rfl⟩
  known := ⟨uploadedClip .processing, List.mem_singleton_self _, rfl⟩
  unready clip stored _ := by
    obtain rfl := List.mem_singleton.mp stored
    exact ClipStatus.noConfusion
  unqueued := by
    rintro ⟨row, stored, isFinalize, -⟩
    rcases List.mem_cons.mp stored with rfl | stored
    · cases isFinalize
    · obtain rfl := List.mem_singleton.mp stored
      cases isFinalize
  jobs row stored := by
    rcases List.mem_cons.mp stored with rfl | stored
    · exact keyed_clipJob 1
    · obtain rfl := List.mem_singleton.mp stored
      exact keyed_clipJob 2
  assets := nofun

/-- One worker makes a transcode, the other one the next, and then the finalize job. -/
def transcodingTwice : List Action :=
  .begin (.media 0) (workerTurn workers "worker-0") :: calls (.media 0) 40 1 ++
    (.begin (.media 1) (workerTurn workers "worker-1") :: calls (.media 1) 40 2) ++
    (.begin (.media 1) (workerTurn workers "worker-1") :: calls (.media 1) 40 3)

/-- The second transcode fails while the clip is already ready. -/
def failingSecond : List Action :=
  .begin (.media 0) (workerTurn workers "worker-0") :: calls (.media 0) 40 1 ++
    (.begin (.media 0) (workerTurn workers "worker-0") :: calls (.media 0) 2 2) ++
    (.begin (.media 1) (workerTurn workers "worker-1") :: calls (.media 1) 40 3) ++
    .call (.media 0) { atSecond 4 with fault := some (.db .failed) } :: calls (.media 0) 2 4

/-- Nothing is removed. -/
def removesNothing (_ : Server) (_ : Thread) (op : WorkerOp NormalUrl)
    (_ : WorkerEnv NormalUrl) : Bool :=
  match op with
  | .deleteAssets _ | .removeFile _ => false
  | _ => true

theorem sound_removesNothing (clipId : Nat)
    (events : List (Effects.Event Thread (@WorkerOp.Result NormalUrl) Error
      (WorkerEnv NormalUrl)))
    (server : Server) (thread : Thread) (op : WorkerOp NormalUrl) (env : WorkerEnv NormalUrl)
    (passed : removesNothing server thread op env = true) :
    CleansUpAlone clipId events server thread op env := by
  intro removes
  cases op with
  | deleteAssets | removeFile => cases passed
  | _ => exact removes.elim

theorem tasks_of_workers {schedule : List Action}
    (workersOnly : ∀ thread task, Effects.Action.begin thread task ∈ schedule →
      (thread = .media 0 ∧ task = workerTurn workers "worker-0") ∨
        thread = .media 1 ∧ task = workerTurn workers "worker-1")
    (thread : Thread) (task : Routine NormalUrl Unit)
    (begun : Effects.Action.begin thread task ∈ schedule) :
    Background.Tasks workers (Background.Requests config workers) thread task := by
  rcases workersOnly thread task begun with ⟨rfl, rfl⟩ | ⟨rfl, rfl⟩ <;> rfl

/-- The runs of the two workers. -/
def bothTranscoded :
    List (Effects.Event Thread (@WorkerOp.Result NormalUrl) Error (WorkerEnv NormalUrl)) ×
      Effects.Config Thread (@WorkerOp.Result NormalUrl) Error Unit Server :=
  serve removesNothing transcodedTwice transcodingTwice

theorem bothTranscoded_run :
    Background.Run workers (Background.Requests config workers) (CleansUpAlone 1)
      transcodedTwice bothTranscoded.1 bothTranscoded.2 := by
  refine serve_run (sound_removesNothing 1) transcodedTwice transcodingTwice
    (tasks_of_workers fun thread task begun => ?_)
  simpa [transcodingTwice] using begun

def secondFailed :
    List (Effects.Event Thread (@WorkerOp.Result NormalUrl) Error (WorkerEnv NormalUrl)) ×
      Effects.Config Thread (@WorkerOp.Result NormalUrl) Error Unit Server :=
  serveFreely transcodedTwice failingSecond

theorem secondFailed_run :
    Background.Run workers (Background.Requests config workers) (fun _ _ _ _ _ => True)
      transcodedTwice secondFailed.1 secondFailed.2 := by
  refine serveFreely_run transcodedTwice failingSecond
    (tasks_of_workers fun thread task begun => ?_)
  simpa [failingSecond] using begun

end Sample

open Sample in
/-- The second transcode fails when the clip is ready: its assets are gone. -/
theorem ready_clip_without_files :
    ¬∀ (start : Server)
        (events : List (Effects.Event Thread (@WorkerOp.Result NormalUrl) Error
          (WorkerEnv NormalUrl)))
        (final : Effects.Config Thread (@WorkerOp.Result NormalUrl) Error Unit Server),
      start.Uploaded workers.mediaDir 1 "original/a" →
      Background.Run workers (Background.Requests config workers) (fun _ _ _ _ _ => True)
        start events final →
      ∀ clip ∈ final.state.clips, clip.id = 1 → clip.deletedAt = none → clip.status = .ready →
        final.state.Playable workers.mediaDir 1 := by
  intro playable
  have ended : secondFailed.2.state.clips.rows.any (fun clip =>
      decide (clip.id = 1 ∧ clip.deletedAt = none ∧ clip.status = .ready)) = true ∧
      secondFailed.2.state.mediaAssets.rows.isEmpty = true := by
    decide +kernel
  obtain ⟨clip, stored, holds⟩ := List.any_eq_true.mp ended.1
  obtain ⟨isClip, alive, ready⟩ := of_decide_eq_true holds
  obtain ⟨-, row, original⟩ := playable _ _ _ transcodedTwice_uploaded secondFailed_run clip stored
    isClip alive ready
  have isIn : row ∈ secondFailed.2.state.mediaAssets.rows := original.stored
  rw [List.isEmpty_iff.mp ended.2] at isIn
  cases isIn

end TootTok
