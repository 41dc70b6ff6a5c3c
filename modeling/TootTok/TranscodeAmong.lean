import TootTok.Effects.Recording
import TootTok.Ladder

/-!
# A transcode among others

The routines of a worker on a server that others change between their calls. A transcode that
queues the finalize job leaves the whole ladder of its clip.
-/

namespace TootTok

open Effects
open Json (Value)
open Relational (Table)
open Routine

variable {Url : Type}

/-! ## A busy server -/

/-- What the outside contributes to a call, and what the others have done to the
server since the last one. -/
structure Busy (Url : Type) extends WorkerEnv Url where
  others : Server → Server

/-- A call among those of the others. -/
def WorkerOp.execAmong : Program.Executor (@WorkerOp.Result Url) Error Server (Busy Url) :=
  fun env op server => WorkerOp.exec env.toWorkerEnv op (env.others server)

namespace Busy

/-- The source is of this height, and the others leave the clip to its pipeline. -/
structure Ordinary (clipId : Int) (height : Int32) (env : Busy Url) : Prop where
  probed : (ProbeInfo.height env.probed).getD 0 = height
  spares : ∀ server, Ladder.Spares clipId server.mediaAssets (env.others server).mediaAssets

/-- A server, and the calls that a routine has made on it. -/
abbrev Traced (Url : Type) : Type :=
  Server × Program.Record (@WorkerOp.Result Url) Error

/-- Execute, and write the call down. -/
abbrev trace : Program.Executor (@WorkerOp.Result Url) Error (Traced Url) (Busy Url) :=
  Program.recording WorkerOp.execAmong

/-! ### Rules -/

section Rules

variable {α β : Type} {allow : Busy Url → Prop} {state : Traced Url}

/-- Where a routine returns a value, the value and the final state satisfy `post`. -/
abbrev Yields (allow : Busy Url → Prop) (post : α → Traced Url → Prop)
    (part : Routine Url α) (state : Traced Url) : Prop :=
  Program.Ensures trace allow
    (fun outcome final => ∀ value, outcome = .ok value → post value final) part state

theorem yields_pure {post : α → Traced Url → Prop} {value : α} (holds : post value state) :
    Yields allow post (.done value) state := by
  intro other same
  cases same
  exact holds

theorem yields_then
    {middle : α → Traced Url → Prop} {post : β → Traced Url → Prop}
    {part : Routine Url α} {rest : α → Routine Url β}
    (first : Yields allow middle part state)
    (next : ∀ value final, middle value final → Yields allow post (rest value) final) :
    Yields allow post (part >>= rest) state := by
  rw [Yields, Program.ensures_bind]
  refine first.mono fun outcome final reached => ?_
  cases outcome with
  | ok value => exact next value final (reached value rfl)
  | error error =>
      intro value impossible
      cases impossible

theorem ensures_ask
    {op : WorkerOp Url} {post : Except Error op.Result → Traced Url → Prop}
    (performed : ∀ env, allow env →
      post (WorkerOp.execAmong env op state.1).1 (trace env op state).2) :
    Program.Ensures trace allow post (ask op) state := by
  rw [Program.ensures_perform]
  exact performed

theorem yields_ask
    {op : WorkerOp Url} {post : op.Result → Traced Url → Prop}
    (performed : ∀ env value, allow env →
      WorkerOp.execAmong env op state.1 =
        (.ok value, (WorkerOp.execAmong env op state.1).2) →
      post value (trace env op state).2) :
    Yields allow post (ask op) state := by
  refine ensures_ask fun env allowed value isValue => ?_
  exact performed env value allowed (Prod.ext isValue rfl)

theorem ensures_caught_then
    {middle : Except Error α → Traced Url → Prop} {post : Except Error β → Traced Url → Prop}
    {part : Routine Url α} {rest : Except Error α → Routine Url β}
    (ensured : Program.Ensures trace allow middle part state)
    (panics : ∀ panic final, middle (.error (.panicked panic)) final →
      post (.error (.panicked panic)) final)
    (next : ∀ outcome final, middle outcome final →
      Program.Ensures trace allow post (rest outcome) final) :
    Program.Ensures trace allow post (part.caught >>= rest) state := by
  unfold caught
  rw [Program.bind_assoc, Program.ensures_bind, Program.ensures_attempt]
  refine ensured.mono fun outcome final reached => ?_
  rw [Program.thenEnsures_ok]
  cases panicked : Handler.panicOf outcome with
  | none => exact next outcome final reached
  | some panic =>
      unfold Handler.panicOf at panicked
      split at panicked
      · cases panicked
        exact panics panic final reached
      · cases panicked

theorem ensures_discarded_then
    {always : Traced Url → Prop} {post : Except Error β → Traced Url → Prop}
    {part : Routine Url α} {rest : Unit → Routine Url β}
    (ensured : Program.Ensures trace allow (fun _ final => always final) part state)
    (panics : ∀ panic final, always final → post (.error (.panicked panic)) final)
    (next : ∀ final, always final → Program.Ensures trace allow post (rest ()) final) :
    Program.Ensures trace allow post (part.discarded >>= rest) state := by
  unfold discarded
  rw [Program.bind_assoc]
  exact ensures_caught_then ensured panics fun _ => next

/-- What every call that a routine may make keeps. -/
theorem ensures_of_calls
    {allowed : WorkerOp Url → Prop} {part : Routine Url α} (calls : part.Calls allowed)
    {holds : Traced Url → Prop}
    (kept : ∀ env op traced, allow env → allowed op → holds traced →
      holds (trace env op traced).2)
    (now : holds state) :
    Program.Ensures trace allow (fun _ final => holds final) part state := by
  refine (calls.ensures (fun before after => holds before → holds after) (fun _ => id) ?_ ?_
    state).mono fun _ _ still => still now
  · exact fun _ _ _ first second held => second (first held)
  · exact fun env op traced admits allows held => kept env op traced admits allows held

end Rules

variable {clipId : Int} {height : Int32} {produced : List String} {traced : Traced Url}
  {env : Busy Url} {op : WorkerOp Url}

/-- A call that does not write the assets spares those of the clip. -/
theorem spares_execAmong (ordinary : Ordinary clipId height env) (frame : ¬op.Writes .assets)
    (server : Server) :
    Ladder.Spares clipId server.mediaAssets (WorkerOp.execAmong env op server).2.mediaAssets := by
  have same : (WorkerOp.execAmong env op server).2.mediaAssets = (env.others server).mediaAssets :=
    WorkerOp.exec_frame .assets frame env.toWorkerEnv (env.others server)
  rw [same]
  exact ordinary.spares server

/-- A routine that writes no assets keeps the ladder. -/
theorem ensures_ladder {α : Type} {part : Routine Url α}
    (calls : part.Calls fun op => ¬op.Writes .assets)
    (ladder : Ladder clipId height produced traced.1.mediaAssets) :
    Program.Ensures trace (Ordinary clipId height)
      (fun _ final => Ladder clipId height produced final.1.mediaAssets) part traced :=
  ensures_of_calls calls
    (fun _ _ _ ordinary frame holds => holds.spared (spares_execAmong ordinary frame _)) ladder

/-- A statement on assets that succeeds has found their clip. -/
theorem of_onAssetsOf {id : Int} {row : MediaAssetRow} {server final : Server}
    {query : ClipRow → MediaAssetTable → Except DbError MediaAssetRow × MediaAssetTable}
    (performed : WorkerOp.checked (server.onAssetsOf id query) = (.ok row, final)) :
    ∃ clip : ClipRow, clip.hasId id = true ∧
      query clip server.mediaAssets = (.ok row, final.mediaAssets) := by
  unfold WorkerOp.checked Server.onAssetsOf at performed
  cases found : server.clipOf id with
  | none =>
      rw [found] at performed
      cases performed
  | some clip =>
      rw [found] at performed
      refine ⟨clip, Table.holds_of_find?_eq_some found, ?_⟩
      unfold Server.onAssets at performed
      dsimp only at performed
      cases answer : query clip server.mediaAssets with
      | mk outcome table =>
          rw [answer] at performed
          cases outcome with
          | error error => cases performed
          | ok created =>
              cases performed
              rfl

/-! ### Transcode -/

/-- The call queues a finalize job. -/
def queuesFinalize : (Σ op : WorkerOp Url, Except Error op.Result) → Bool
  | ⟨.base (.createJob .finalize _), .ok _⟩ => true
  | _ => false

/-- No finalize job has been queued. -/
def Unqueued (record : Program.Record (@WorkerOp.Result Url) Error) : Prop :=
  record.any queuesFinalize = false

/-- The call queues no finalize job, whatever becomes of it. -/
def LeavesQueue (op : WorkerOp Url) : Prop :=
  ∀ outcome, queuesFinalize ⟨op, outcome⟩ = false

/-- The call queues no finalize job and writes no assets. -/
def Silent (op : WorkerOp Url) : Prop :=
  LeavesQueue op ∧ ¬op.Writes .assets

theorem Unqueued.append
    {record : Program.Record (@WorkerOp.Result Url) Error} (unqueued : Unqueued record)
    {outcome : Except Error op.Result} (leaves : queuesFinalize ⟨op, outcome⟩ = false) :
    Unqueued (record ++ [⟨op, outcome⟩]) := by
  unfold Unqueued at unqueued ⊢
  simp [List.any_append, unqueued, leaves]

/-- So much of the ladder has been produced, and no finalize job has been queued. -/
structure Growing (clipId : Int) (height : Int32) (produced : List String)
    (traced : Traced Url) : Prop where
  unqueued : Unqueued traced.2
  ladder : Ladder clipId height produced traced.1.mediaAssets

theorem Growing.call (growing : Growing clipId height produced traced)
    (ordinary : Ordinary clipId height env) (silent : Silent op) :
    Growing clipId height produced (trace env op traced).2 :=
  ⟨growing.unqueued.append (silent.1 _),
    growing.ladder.spared (spares_execAmong ordinary silent.2 traced.1)⟩

theorem ensures_silent {α : Type} {part : Routine Url α} (calls : part.Calls Silent)
    (growing : Growing clipId height produced traced) :
    Program.Ensures trace (Ordinary clipId height)
      (fun _ final => Growing clipId height produced final) part traced :=
  ensures_of_calls calls (fun _ _ _ ordinary silent holds => holds.call ordinary silent) growing

theorem yields_silent {α : Type} {part : Routine Url α} (calls : part.Calls Silent)
    (growing : Growing clipId height produced traced) :
    Yields (Ordinary clipId height) (fun _ final => Growing clipId height produced final)
      part traced :=
  (ensures_silent calls growing).mono fun _ _ holds _ _ => holds

theorem ensures_unqueued {α : Type} {part : Routine Url α} (calls : part.Calls LeavesQueue)
    (unqueued : Unqueued traced.2) :
    Program.Ensures trace (Ordinary clipId height) (fun _ final => Unqueued final.2)
      part traced :=
  ensures_of_calls calls (fun _ _ _ _ leaves holds => Unqueued.append holds (leaves _)) unqueued

theorem calls_transcodeRungs (original workdir : String) (renditions : List String) :
    (transcodeRungs original workdir renditions : Routine Url Unit).Calls Silent := by
  induction renditions with
  | nil => trivial
  | cons rendition renditions inductionHypothesis =>
      refine (Program.calls_perform.mpr ⟨fun _ => rfl, id⟩).bind fun _ => ?_
      exact (Program.calls_perform.mpr ⟨fun _ => rfl, id⟩).bind fun _ => inductionHypothesis

theorem calls_transcode (original workdir : String) :
    (transcode original workdir : Routine Url TranscodeOutputs).Calls Silent := by
  refine (Program.calls_perform.mpr ⟨fun _ => rfl, id⟩).bind fun info => ?_
  refine (calls_transcodeRungs original workdir _).bind fun _ => ?_
  exact (Program.calls_perform.mpr ⟨fun _ => rfl, id⟩).bind fun _ => trivial

/-- A transcode produces the rungs of its source. -/
theorem yields_transcode {original workdir : String}
    (growing : Growing clipId height produced traced) :
    Yields (Ordinary clipId height)
      (fun outputs final => outputs.videos = rungs height ∧
        Growing clipId height produced final)
      (transcode original workdir) traced := by
  refine @yields_then _ _ _ _ _ (fun info final => info.height.getD 0 = height ∧
    Growing clipId height produced final) _ _ _ ?_ ?_
  · refine yields_ask fun env info ordinary executed =>
      ⟨?_, growing.call ordinary ⟨fun _ => rfl, id⟩⟩
    have probed : info = env.probed := by
      rcases WorkerOp.exec_cases env.toWorkerEnv (.ffprobe original) (env.others traced.1) with
        ⟨error, failed⟩ | performed
      · cases congrArg Prod.fst (failed.symm.trans executed)
      · have answered := congrArg Prod.fst (performed.symm.trans executed)
        unfold WorkerOp.perform WorkerOp.onFile at answered
        dsimp only at answered
        split at answered
        · cases answered
          rfl
        · cases answered
    rw [probed]
    exact ordinary.probed
  · rintro info final ⟨tall, stillGrowing⟩
    rw [tall]
    refine yields_then (yields_silent (calls_transcodeRungs original workdir _) stillGrowing)
      fun _ final stillGrowing => ?_
    refine yields_then (yields_silent (Program.calls_perform.mpr ⟨fun _ => rfl, id⟩) stillGrowing)
      fun _ final stillGrowing => ?_
    exact yields_pure ⟨rfl, stillGrowing⟩

/-- A row that is created for the clip. -/
theorem yields_createAsset {new : NewAsset} {next : List String}
    (growing : Growing clipId height produced traced)
    (grows : ∀ {table table' clip row}, Ladder clipId height produced table →
      ClipRow.hasId new.clipId clip = true →
      MediaAssets.create new clip table = (.ok row, table') → Ladder clipId height next table') :
    Yields (Ordinary clipId height) (fun _ final => Growing clipId height next final)
      (ask (.createAsset new)) traced := by
  refine yields_ask fun env row ordinary executed => ⟨growing.unqueued.append rfl, ?_⟩
  rcases WorkerOp.exec_cases env.toWorkerEnv (.createAsset new) (env.others traced.1) with
    ⟨error, failed⟩ | performed
  · cases congrArg Prod.fst (failed.symm.trans executed)
  · obtain ⟨clip, ofClip, created⟩ := of_onAssetsOf (performed.symm.trans executed)
    exact grows (growing.ladder.spared (ordinary.spares traced.1)) ofClip created

/-- A produced file becomes a row once it is saved. -/
theorem yields_persistAsset
    {mediaDir rendition filename workdir : String} {kind : MediaKind} {next : List String}
    (growing : Growing clipId height produced traced)
    (grows : ∀ {table table' clip row}, Ladder clipId height produced table →
      ClipRow.hasId clipId clip = true →
      MediaAssets.create ⟨clipId, kind, rendition, renditionKey clipId filename⟩ clip table =
        (.ok row, table') → Ladder clipId height next table') :
    Yields (Ordinary clipId height) (fun _ final => Growing clipId height next final)
      (persistAsset mediaDir clipId kind rendition filename workdir) traced := by
  have saves : (saveBytes mediaDir (renditionKey clipId filename) : Routine Url Unit).Calls
      Silent :=
    calls_onKey fun _ => Program.calls_perform.mpr ⟨fun _ => rfl, id⟩
  refine yields_then (yields_silent (Program.calls_perform.mpr ⟨fun _ => rfl, id⟩) growing)
    fun _ afterRead growing => ?_
  refine yields_then (yields_silent saves growing) fun _ afterSave growing => ?_
  refine yields_then (yields_createAsset growing grows) fun _ final growing => ?_
  exact yields_pure growing

/-- The renditions are persisted one after the other. -/
theorem yields_persistVideos
    {mediaDir workdir : String} {renditions : List String}
    (areRungs : ∀ rendition ∈ renditions, rendition ∈ rungs height)
    (growing : Growing clipId height produced traced) :
    Yields (Ordinary clipId height)
      (fun _ final => Growing clipId height (produced ++ renditions) final)
      (persistVideos mediaDir clipId workdir renditions) traced := by
  induction renditions generalizing produced traced with
  | nil =>
      rw [List.append_nil]
      exact yields_pure growing
  | cons rendition renditions inductionHypothesis =>
      have isRung := areRungs rendition List.mem_cons_self
      refine yields_then (yields_persistAsset growing
        fun ladder ofClip created => ladder.create_rung isRung ofClip created)
        fun _ final growing => ?_
      rw [List.append_cons]
      exact inductionHypothesis (fun other member => areRungs other (List.mem_cons_of_mem _ member))
        growing

/-- What is persisted is the whole ladder. -/
theorem yields_persistOutputs
    {mediaDir key : String} {outputs : TranscodeOutputs}
    (ownName : lastSegment key ≠ "720.mp4") (videos : outputs.videos = rungs height)
    (growing : Growing clipId height [] traced) :
    Yields (Ordinary clipId height)
      (fun _ final => Growing clipId height (rungs height) final)
      (persistOutputs mediaDir clipId key outputs) traced := by
  have opens : (openKey mediaDir key : Routine Url Unit).Calls Silent :=
    calls_onKey fun _ => Program.calls_perform.mpr ⟨fun _ => rfl, id⟩
  unfold persistOutputs
  rw [videos]
  refine yields_then (yields_persistVideos (fun _ isRung => isRung) growing)
    fun _ afterVideos growing => ?_
  rw [List.nil_append] at growing
  refine yields_then (yields_persistAsset growing
    fun ladder _ created => ladder.create_poster created) fun _ afterPoster growing => ?_
  refine yields_then (yields_silent (calls_discarded opens) growing)
    fun _ afterOpen growing => ?_
  refine @yields_then _ _ _ _ _ (fun _ final => Growing clipId height (rungs height) final) _ _ _
    ?_ fun _ final growing => yields_pure growing
  refine yields_ask fun env row ordinary executed => ⟨growing.unqueued.append rfl, ?_⟩
  rcases WorkerOp.exec_cases env.toWorkerEnv (.upsertAsset ⟨clipId, .videoMp4, "orig", key⟩)
    (env.others afterOpen.1) with ⟨error, failed⟩ | performed
  · cases congrArg Prod.fst (failed.symm.trans executed)
  · obtain ⟨clip, -, upserted⟩ := of_onAssetsOf (performed.symm.trans executed)
    exact (growing.ladder.spared (ordinary.spares afterOpen.1)).upsert_original
      (fun _ isRung => isRung) ownName upserted

theorem calls_persistAsset
    {mediaDir rendition filename workdir : String} {kind : MediaKind} :
    (persistAsset mediaDir clipId kind rendition filename workdir : Routine Url Unit).Calls
      LeavesQueue := by
  refine (Program.calls_perform.mpr fun _ => rfl).bind fun _ => ?_
  refine (calls_onKey fun _ => Program.calls_perform.mpr fun _ => rfl).bind fun _ => ?_
  exact (Program.calls_perform.mpr fun _ => rfl).bind fun _ => trivial

theorem calls_persistOutputs {mediaDir key : String} {outputs : TranscodeOutputs} :
    (persistOutputs mediaDir clipId key outputs : Routine Url Unit).Calls LeavesQueue := by
  have videos (workdir : String) (renditions : List String) :
      (persistVideos mediaDir clipId workdir renditions : Routine Url Unit).Calls
        LeavesQueue := by
    induction renditions with
    | nil => trivial
    | cons rendition renditions inductionHypothesis =>
        exact calls_persistAsset.bind fun _ => inductionHypothesis
  refine (videos _ _).bind fun _ => calls_persistAsset.bind fun _ => ?_
  refine (calls_discarded (calls_onKey fun _ => Program.calls_perform.mpr fun _ => rfl)).bind
    fun _ => ?_
  exact (Program.calls_perform.mpr fun _ => rfl).bind fun _ => trivial

theorem calls_failTranscode {mediaDir key : String} {job : JobRow} :
    (failTranscode mediaDir job clipId key : Routine Url Unit).Calls LeavesQueue := by
  have deletes (keys : List String) :
      (deleteKeys mediaDir keys : Routine Url Unit).Calls LeavesQueue := by
    induction keys with
    | nil => trivial
    | cons key keys inductionHypothesis =>
        exact (calls_discarded (calls_onKey fun _ => Program.calls_perform.mpr fun _ => rfl)).bind
          fun _ => inductionHypothesis
  unfold failTranscode
  -- The names of the files do not matter.
  generalize partialFiles.map (renditionKey clipId) = keys
  apply Program.Calls.bind (calls_discarded (Program.calls_perform.mpr fun _ => rfl))
  intro _
  apply Program.Calls.bind (deletes keys)
  intro _
  apply Program.Calls.bind
    (calls_discarded (calls_onKey fun _ => Program.calls_perform.mpr fun _ => rfl))
  intro _
  apply Program.Calls.bind (calls_discarded (Program.calls_perform.mpr fun _ => rfl))
  intro _
  exact calls_discarded (Program.calls_perform.mpr fun _ => rfl)

/-- The finalize job is queued, unless its insert fails. -/
theorem ensures_queueFinalize {payload : Value}
    (growing : Growing clipId height produced traced) :
    Program.Ensures trace (Ordinary clipId height)
      (fun outcome final => (∀ error, outcome = .error error → Unqueued final.2) ∧
        Ladder clipId height produced final.1.mediaAssets)
      (enqueue .finalize payload) traced := by
  refine @ensures_ask _ _ _ (.base (.createJob .finalize payload)) _ fun env ordinary => ?_
  constructor
  · intro error failed
    refine growing.unqueued.append ?_
    rw [failed]
    rfl
  · exact growing.ladder.spared (spares_execAmong ordinary id traced.1)

/-- A transcode that queues a finalize job leaves the whole ladder. -/
theorem ensures_processTranscode
    {mediaDir key : String} {job : JobRow} (named : job.clipId = some clipId)
    (keyed : job.payload.getStr "key" = some key) (ownName : lastSegment key ≠ "720.mp4")
    (growing : Growing clipId height [] traced) :
    Program.Ensures trace (Ordinary clipId height)
      (fun _ final => Unqueued final.2 ∨ Ladder clipId height (rungs height) final.1.mediaAssets)
      (processTranscode mediaDir job) traced := by
  have fails {final : Traced Url} (unqueued : Unqueued final.2) :
      Program.Ensures trace (Ordinary clipId height)
        (fun _ final => Unqueued final.2 ∨
          Ladder clipId height (rungs height) final.1.mediaAssets)
        (failTranscode mediaDir job clipId key) final :=
    (ensures_unqueued calls_failTranscode unqueued).mono fun _ _ holds => .inl holds
  unfold processTranscode
  rw [named, keyed]
  cases job.payload.getStr "path" with
  | none =>
      have calls : (deadLetterAndFail job : Routine Url Unit).Calls LeavesQueue := by
        unfold deadLetterAndFail
        rw [named]
        refine (calls_discarded (Program.calls_perform.mpr fun _ => rfl)).bind fun _ => ?_
        exact calls_discarded (Program.calls_perform.mpr fun _ => rfl)
      exact (ensures_unqueued calls growing.unqueued).mono fun _ _ holds => .inl holds
  | some path =>
      refine ensures_caught_then
        (ensures_silent (Program.calls_perform.mpr ⟨fun _ => rfl, id⟩) growing)
        (fun _ _ growing => .inl growing.unqueued) fun scratch afterScratch growing => ?_
      cases scratch with
      | error _ => exact fails growing.unqueued
      | ok workdir =>
      refine ensures_caught_then
        ((ensures_silent (calls_transcode path workdir) growing).and (yields_transcode growing))
        (fun _ _ reached => .inl reached.1.unqueued) fun produced afterTranscode reached => ?_
      cases produced with
      | error _ => exact fails reached.1.unqueued
      | ok outputs =>
      obtain ⟨growing, yielded⟩ := reached
      have videos := (yielded outputs rfl).1
      refine ensures_caught_then
        ((ensures_unqueued calls_persistOutputs growing.unqueued).and
          (yields_persistOutputs ownName videos growing))
        (fun _ _ reached => .inl reached.1) fun persisted afterPersist reached => ?_
      cases persisted with
      | error _ => exact fails reached.1
      | ok _ =>
      have growing := reached.2 _ rfl
      refine ensures_caught_then (ensures_queueFinalize growing)
        (fun panic _ reached => .inl (reached.1 _ rfl)) fun queued final reached => ?_
      cases queued with
      | error error => exact fails (reached.1 error rfl)
      | ok _ =>
          exact (ensures_ladder (calls_discarded (Program.calls_perform.mpr id)) reached.2).mono
            fun _ _ holds => .inr holds

end Busy

end TootTok
