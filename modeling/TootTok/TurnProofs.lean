import TootTok.TurnProtocol

/-!
# Every turn keeps to the protocol

One lemma for each program of the workers, from the last steps of a turn to whole
turns.
-/

namespace TootTok

open Effects Handler Routine
open Json (Value)

variable {Url : Type} {workers : WorkerConfig} {name : String} {calls : Calls Url}
  {job : JobRow} {clipId : Int}

/-! ## Last steps -/

theorem keeps_markDone (working : calls.Working job) :
    (ask (.markDone job.id)).discarded.Keeps (WorkerAllowed workers name) calls :=
  keeps_discarded _ rfl ⟨job, working, rfl⟩

theorem keeps_deadLetter (working : calls.Working job) :
    (ask (.deadLetter job.id)).discarded.Keeps (WorkerAllowed workers name) calls :=
  keeps_discarded _ rfl ⟨job, working, rfl⟩

/-- Fail the clip of the job, and go on. -/
theorem keeps_markFailed_then {rest : Unit → Routine Url Unit}
    (working : calls.Working job) (named : job.clipId = some clipId)
    (fails : job.kind.failsClip = true)
    (goes : ∀ final, Calls.Working job final →
      (rest ()).Keeps (WorkerAllowed workers name) final) :
    ((ask (.markFailed clipId)).discarded >>= rest).Keeps (WorkerAllowed workers name)
      calls :=
  keeps_discarded_ask_then _ rfl ⟨job, working.claimed, named, .inl fails⟩ fun _ =>
    goes _ (working.append id)

theorem keeps_bumpJobAfterFailure (claimed : calls.Claimed job) :
    (bumpJobAfterFailure job job.clipId).Keeps (WorkerAllowed workers name) calls := by
  refine keeps_ask_then _ rfl ⟨job, claimed, rfl, rfl⟩ fun bumped => ?_
  cases bumped with
  | error _ => trivial
  | ok changed =>
      cases changed with
      | false => trivial
      | true =>
          have counted : Calls.Bumped job
              (calls ++ [⟨.bump job.id job.lockedBy, .ok true⟩] : Calls Url) :=
            List.mem_append_right _ (List.mem_singleton_self _)
          dsimp only
          split
          next clipId named =>
            exact keeps_discarded _ rfl ⟨job, claimed.append, named, .inr counted⟩
          next => trivial

theorem keeps_deadLetterAndFail (working : calls.Working job)
    (fails : job.kind.failsClip = true) :
    (deadLetterAndFail job).Keeps (WorkerAllowed workers name) calls := by
  unfold deadLetterAndFail
  split
  next clipId named =>
    exact keeps_markFailed_then working named fails fun _ => keeps_deadLetter
  next => exact keeps_deadLetter working

theorem keeps_scheduleDeliverRetry (working : calls.Working job) :
    (scheduleDeliverRetry job).Keeps (WorkerAllowed workers name) calls := by
  unfold scheduleDeliverRetry
  split
  · exact keeps_deadLetter working
  · exact keeps_discarded _ rfl ⟨job, working, rfl⟩

/-! ## Files -/

/-- Delete the file of a key that the job may remove, and still work on the job. -/
theorem reaches_deleteKey {key : String} (working : calls.Working job)
    (named : job.clipId = some clipId)
    (removable : (job.kind = .probe ∨ job.kind = .transcode) ∧
        job.payload.getStr "key" = some key ∨
      job.kind = .transcode ∧ ∃ filename ∈ partialFiles, key = renditionKey clipId filename) :
    (deleteKey workers.mediaDir key).Reaches (WorkerAllowed workers name)
      (fun _ final => Calls.Working job final) calls := by
  unfold deleteKey onKey
  split
  next target found =>
    refine reaches_ask _ rfl ⟨job, clipId, key, working, named, found, removable⟩ fun _ => ?_
    exact working.append id
  next => exact working

theorem reaches_deleteKeys {keys : List String} (working : calls.Working job)
    (named : job.clipId = some clipId) (kind : job.kind = .transcode)
    (areRenditions : ∀ key ∈ keys, ∃ filename ∈ partialFiles,
      key = renditionKey clipId filename) :
    (deleteKeys workers.mediaDir keys).Reaches (WorkerAllowed workers name)
      (fun _ final => Calls.Working job final) calls := by
  induction keys generalizing calls with
  | nil => exact working
  | cons key keys inductionHypothesis =>
      refine reaches_then (reaches_discarded (reaches_deleteKey working named
        (.inr ⟨kind, areRenditions key List.mem_cons_self⟩))) (fun _ _ ends => ends) ?_
      intro _ final stillWorking
      exact inductionHypothesis stillWorking fun key member =>
        areRenditions key (List.mem_cons_of_mem _ member)

/-! ## Probe -/

theorem reaches_numericSetting (working : calls.Working job) (key : String) (default : F64) :
    (numericSetting key default).Reaches (WorkerAllowed workers name)
      (fun _ final => Calls.Working job final) calls := by
  refine reaches_ask_then _ rfl trivial (fun _ => working.append id) fun value => ?_
  have stillWorking : Calls.Working job (calls ++ [⟨.fetchSetting key, .ok value⟩]) :=
    working.append id
  cases value with
  | none => exact stillWorking
  | some value =>
      dsimp only
      generalize Option.getD _ default = number
      split
      · exact stillWorking
      · exact stillWorking

theorem keeps_rejectClip {key : Option String} (working : calls.Working job)
    (named : job.clipId = some clipId) (kind : job.kind = .probe)
    (keyed : ∀ text ∈ key, job.payload.getStr "key" = some text) :
    (rejectClip workers.mediaDir job clipId key).Keeps (WorkerAllowed workers name) calls := by
  refine keeps_markFailed_then working named (by rw [kind]; rfl) fun final stillWorking => ?_
  cases key with
  | none => exact keeps_markDone stillWorking
  | some text =>
      refine keeps_discarded_then (reaches_deleteKey stillWorking named
        (.inl ⟨.inl kind, keyed text rfl⟩)) fun _ => keeps_markDone

theorem keeps_acceptClip {path mime : String} {info : ProbeInfo}
    (working : calls.Working job) (named : job.clipId = some clipId)
    (kind : job.kind = .probe) (sourced : job.payload.getStr "path" = some path) :
    (acceptClip workers.mediaDir job clipId path (job.payload.getStr "key") mime info).Keeps
      (WorkerAllowed workers name) calls := by
  refine keeps_ask_then _ rfl ⟨job, working, kind, named⟩ fun stamped => ?_
  have stillWorking : Calls.Working job (calls ++
      [⟨.updateProbeInfo clipId info.durationS info.width info.height, stamped⟩]) :=
    working.append id
  cases stamped with
  | error _ => exact keeps_deadLetter stillWorking
  | ok _ =>
      dsimp only
      split
      next =>
        exact keeps_markFailed_then stillWorking named (by rw [kind]; rfl) fun _ =>
          keeps_markDone
      next key keyed =>
        refine keeps_ask_then _ rfl ⟨job, stillWorking, kind, clipId, path, key, mime, named,
          sourced, keyed, rfl⟩ fun queued => ?_
        cases queued with
        | ok _ => exact keeps_markDone (stillWorking.append id)
        | error _ =>
            refine keeps_rejectClip (stillWorking.append id) named kind ?_
            rintro _ ⟨⟩
            exact keyed

theorem keeps_processProbe (working : calls.Working job) (kind : job.kind = .probe) :
    (processProbe workers.mediaDir job).Keeps (WorkerAllowed workers name) calls := by
  have keyed : ∀ text ∈ job.payload.getStr "key", job.payload.getStr "key" = some text :=
    fun _ same => same
  unfold processProbe
  dsimp only
  split
  next clipId path named sourced =>
    refine keeps_caught_then (reaches_numericSetting working _ _) fun cap final still => ?_
    cases cap with
    | error _ => exact keeps_rejectClip still named kind keyed
    | ok capSeconds =>
        refine keeps_ask_then _ rfl trivial fun probed => ?_
        cases probed with
        | error _ => exact keeps_rejectClip (still.append id) named kind keyed
        | ok info =>
            dsimp only
            split
            · exact keeps_acceptClip (still.append id) named kind sourced
            · exact keeps_rejectClip (still.append id) named kind keyed
  next => exact keeps_deadLetterAndFail working (by rw [kind]; rfl)

/-! ## Transcode -/

/-- Every rendition that ffmpeg produces, it produces from the source. -/
theorem reaches_transcodeRungs
    {original workdir : String} {renditions : List String}
    (transcoding : calls.Transcoding job clipId)
    (sourced : job.payload.getStr "path" = some original) :
    (transcodeRungs original workdir renditions).Reaches (WorkerAllowed workers name)
      (fun outcome final => Calls.Transcoding job clipId final ∧
        (outcome = .ok () → renditions ≠ [] → Calls.Encoding job clipId final)) calls := by
  induction renditions generalizing calls with
  | nil => exact ⟨transcoding, fun _ nonempty => (nonempty rfl).elim⟩
  | cons rendition renditions inductionHypothesis =>
      refine reaches_ask_then _ rfl trivial ?_ fun _ => ?_
      · exact fun _ => ⟨transcoding.append id id, nofun⟩
      refine reaches_ask_then _ rfl trivial ?_ fun _ => ?_
      · exact fun _ => ⟨(transcoding.append id id).append id id, nofun⟩
      have encoding : Calls.Encoding job clipId (_ ++
          [⟨.readScratch (workdir ++ "/" ++ rendition ++ ".mp4"), .ok ()⟩]) :=
        (transcoding.encoding sourced (workdir ++ "/" ++ rendition ++ ".mp4")).append id id
      refine (inductionHypothesis encoding.toTranscoding).extends.mono ?_
      rintro outcome final ⟨⟨still, -⟩, extended⟩
      refine ⟨still, fun _ _ => ⟨still, ?_⟩⟩
      obtain ⟨path, output, named, did⟩ := encoding.source
      exact ⟨path, output, named, did.of_extended extended⟩

theorem reaches_transcode
    {original workdir : String} (transcoding : calls.Transcoding job clipId)
    (sourced : job.payload.getStr "path" = some original) :
    (transcode original workdir).Reaches (WorkerAllowed workers name)
      (fun outcome final => Calls.Transcoding job clipId final ∧
        ∀ outputs, outcome = .ok outputs →
          Calls.Encoding job clipId final ∧ outputs.videos ≠ [] ∧
            ∀ rendition ∈ outputs.videos, IsRung rendition) calls := by
  refine reaches_ask_then _ rfl trivial ?_ fun info => ?_
  · exact fun _ => ⟨transcoding.append id id, nofun⟩
  refine reaches_then (reaches_transcodeRungs (transcoding.append id id) sourced) ?_ ?_
  · exact fun _ final ends => ⟨ends.1, nofun⟩
  rintro _ final ⟨still, produced⟩
  have encoding := produced rfl (rungs_ne_nil _)
  refine reaches_ask_then _ rfl trivial ?_ fun _ => ?_
  · exact fun _ => ⟨still.append id id, nofun⟩
  refine ⟨still.append id id, ?_⟩
  rintro _ ⟨⟩
  exact ⟨encoding.append id id, rungs_ne_nil _, fun _ => mem_rungs⟩

/-- What is saved, is registered after its file is written. -/
theorem reaches_persistAsset
    (new : NewAsset) {filename workdir : String} (encoding : calls.Encoding job new.clipId)
    (keyed : new.path = renditionKey new.clipId filename)
    (produced : (∃ rendition, IsRung rendition ∧ new = rungAsset new.clipId rendition) ∨
      new = posterAsset new.clipId) :
    (persistAsset workers.mediaDir new.clipId new.kind new.rendition filename workdir).Reaches
      (WorkerAllowed workers name)
      (fun outcome final => Calls.Encoding job new.clipId final ∧
        (outcome = .ok () → Calls.Did (.createAsset new) final)) calls := by
  refine reaches_ask_then _ rfl trivial ?_ fun _ => ?_
  · exact fun _ => ⟨encoding.append id id, nofun⟩
  unfold saveBytes onKey
  split
  next target found =>
    have reading : Calls.Encoding job new.clipId (calls ++
        [⟨.readScratch (workdir ++ "/" ++ filename), .ok ()⟩]) :=
      encoding.append id id
    refine reaches_ask_then _ rfl ⟨job, new.clipId, filename, reading, found⟩ ?_ fun written => ?_
    · exact fun _ => ⟨reading.append id id, nofun⟩
    have same : (⟨new.clipId, new.kind, new.rendition,
        renditionKey new.clipId filename⟩ : NewAsset) = new := by
      rw [← keyed]
    rw [same]
    have writing : Calls.Encoding job new.clipId (_ ++ [⟨.writeFile target, .ok written⟩]) :=
      reading.append id id
    rw [← keyed] at found
    refine reaches_ask_then _ rfl ⟨job, writing, produced, target, found,
      Calls.did_append_self _ written⟩ ?_ fun row => ?_
    · exact fun _ => ⟨writing.append id id, nofun⟩
    · exact ⟨writing.append id id, fun _ => Calls.did_append_self _ row⟩
  next => exact ⟨encoding.append id id, nofun⟩

theorem reaches_persistVideos
    {workdir : String} {renditions : List String} (encoding : calls.Encoding job clipId)
    (areRungs : ∀ rendition ∈ renditions, IsRung rendition) :
    (persistVideos workers.mediaDir clipId workdir renditions).Reaches
      (WorkerAllowed workers name)
      (fun outcome final => Calls.Encoding job clipId final ∧
        (outcome = .ok () → ∀ rendition ∈ renditions,
          Calls.Did (.createAsset (rungAsset clipId rendition)) final)) calls := by
  induction renditions generalizing calls with
  | nil => exact ⟨encoding, fun _ => nofun⟩
  | cons rendition renditions inductionHypothesis =>
      have isRung := areRungs rendition List.mem_cons_self
      refine reaches_then (reaches_persistAsset (rungAsset clipId rendition) encoding rfl
        (.inl ⟨rendition, isRung, rfl⟩)) ?_ ?_
      · exact fun _ final ends => ⟨ends.1, nofun⟩
      rintro _ final ⟨still, created⟩
      refine (inductionHypothesis still fun other member =>
        areRungs other (List.mem_cons_of_mem _ member)).extends.mono ?_
      rintro outcome last ⟨⟨encodingStill, others⟩, extended⟩
      refine ⟨encodingStill, fun succeeded other member => ?_⟩
      rcases List.mem_cons.mp member with rfl | inside
      · exact (created rfl).of_extended extended
      · exact others succeeded other inside

theorem reaches_persistOutputs
    {key : String} {outputs : TranscodeOutputs} (encoding : calls.Encoding job clipId)
    (keyed : job.payload.getStr "key" = some key) (produced : outputs.videos ≠ [])
    (areRungs : ∀ rendition ∈ outputs.videos, IsRung rendition) :
    (persistOutputs workers.mediaDir clipId key outputs).Reaches (WorkerAllowed workers name)
      (fun outcome final => Calls.Working job final ∧
        (outcome = .ok () → Calls.Encoding job clipId final ∧
          (∃ rendition, IsRung rendition ∧
            Calls.Did (.createAsset (rungAsset clipId rendition)) final) ∧
          Calls.Did (.upsertAsset (originalAsset clipId key)) final)) calls := by
  refine reaches_then (reaches_persistVideos encoding areRungs) ?_ ?_
  · exact fun _ final ends => ⟨ends.1.working, nofun⟩
  rintro _ afterVideos ⟨encodingVideos, created⟩
  obtain ⟨rendition, member⟩ := List.exists_mem_of_ne_nil _ produced
  have isRung := areRungs rendition member
  have didRung := created rfl rendition member
  refine reaches_then (reaches_persistAsset (posterAsset clipId) encodingVideos rfl
    (.inr rfl)).extends ?_ ?_
  · exact fun _ final ends => ⟨ends.1.1.working, nofun⟩
  rintro _ afterPoster ⟨⟨encodingPoster, -⟩, extended⟩
  have didRungStill := didRung.of_extended extended
  have opened : (discarded (openKey workers.mediaDir key)).Reaches (WorkerAllowed workers name)
      (fun _ final => Calls.Encoding job clipId final ∧
        Calls.Did (.createAsset (rungAsset clipId rendition)) final) afterPoster := by
    refine reaches_discarded ?_
    unfold openKey onKey
    split
    · exact reaches_ask _ rfl trivial fun _ => ⟨encodingPoster.append id id, didRungStill.append⟩
    · exact ⟨encodingPoster, didRungStill⟩
  refine reaches_then opened ?_ ?_
  · exact fun _ final ends => ⟨ends.1.working, nofun⟩
  rintro _ afterOpen ⟨encodingOpen, didRungOpen⟩
  refine reaches_ask_then _ rfl ⟨job, key, encodingOpen, keyed, rfl, rendition, isRung,
    didRungOpen⟩ ?_ fun row => ?_
  · exact fun _ => ⟨encodingOpen.working.append id, nofun⟩
  · exact ⟨encodingOpen.working.append id, fun _ => ⟨encodingOpen.append id id,
      ⟨rendition, isRung, didRungOpen.append⟩, Calls.did_append_self _ row⟩⟩

theorem keeps_failTranscode {key : String} (working : calls.Working job)
    (named : job.clipId = some clipId) (kind : job.kind = .transcode)
    (keyed : job.payload.getStr "key" = some key) :
    (failTranscode workers.mediaDir job clipId key).Keeps (WorkerAllowed workers name)
      calls := by
  have areRenditions : ∀ other ∈ partialFiles.map (renditionKey clipId),
      ∃ filename ∈ partialFiles, other = renditionKey clipId filename := by
    intro other member
    obtain ⟨filename, isPartial, same⟩ := List.mem_map.mp member
    exact ⟨filename, isPartial, same.symm⟩
  unfold failTranscode
  generalize partialFiles.map (renditionKey clipId) = keys at areRenditions ⊢
  refine keeps_discarded_ask_then _ rfl ⟨job, working, kind, named⟩ fun _ => ?_
  refine reaches_then (reaches_deleteKeys (working.append id) named kind areRenditions)
    (fun _ _ _ => trivial) fun _ afterFiles workingFiles => ?_
  refine keeps_discarded_then (reaches_deleteKey workingFiles named
    (.inl ⟨.inr kind, keyed⟩)) fun afterSource workingSource => ?_
  exact keeps_markFailed_then workingSource named (by rw [kind]; rfl) fun _ => keeps_markDone

theorem keeps_processTranscode (working : calls.Working job) (kind : job.kind = .transcode)
    (building : ¬calls.Cleaning) :
    (processTranscode workers.mediaDir job).Keeps (WorkerAllowed workers name) calls := by
  unfold processTranscode
  split
  next clipId path key named sourced keyed =>
    have transcoding : calls.Transcoding job clipId := ⟨working, kind, named, building⟩
    refine keeps_ask_then _ rfl trivial fun workdir => ?_
    have scratch : Calls.Transcoding job clipId (calls ++ [⟨.tempdir, workdir⟩]) :=
      transcoding.append id id
    cases workdir with
    | error _ => exact keeps_failTranscode scratch.working named kind keyed
    | ok workdir =>
        refine keeps_caught_then (reaches_transcode scratch sourced) ?_
        rintro outputs afterTranscode ⟨still, produced⟩
        cases outputs with
        | error _ => exact keeps_failTranscode still.working named kind keyed
        | ok outputs =>
            obtain ⟨encoding, nonempty, areRungs⟩ := produced outputs rfl
            refine keeps_caught_then
              (reaches_persistOutputs encoding keyed nonempty areRungs) ?_
            rintro persisted final ⟨workingStill, secured⟩
            cases persisted with
            | error _ => exact keeps_failTranscode workingStill named kind keyed
            | ok _ =>
                obtain ⟨encodingStill, ⟨rendition, isRung, didRung⟩, didOriginal⟩ :=
                  secured rfl
                refine keeps_ask_then _ rfl ⟨job, workingStill, clipId, key, rendition,
                  encodingStill, keyed, isRung, didRung, didOriginal, rfl⟩ fun queued => ?_
                cases queued with
                | ok _ => exact keeps_markDone (workingStill.append id)
                | error _ => exact keeps_failTranscode (workingStill.append id) named kind keyed
  next => exact keeps_deadLetterAndFail working (by rw [kind]; rfl)

/-! ## Finalize -/

section Finalize

variable [ChronoCrate]

/-- A clip is announced only if it was found alive. -/
theorem reaches_announce (working : calls.Working job) (named : job.clipId = some clipId)
    (kind : job.kind = .finalize)
    (unqueued : ∀ payload, ¬calls.Did (.base (.createJob .deliverCreate payload))) :
    (announce workers.baseUrl clipId).Reaches (WorkerAllowed workers name)
      (fun _ final => Calls.Working job final) calls := by
  cases clipId with
  | negSucc _ => exact working
  | ofNat clipId =>
      rw [announce, enqueueClipCreate, ofHandler_bind, ofHandler_query]
      refine reaches_ask_then _ rfl rfl (fun _ => working.append id) fun found => ?_
      have stillWorking : Calls.Working job (calls ++
          [⟨.base (.fetchClipById clipId), .ok found⟩]) :=
        working.append id
      cases found with
      | none => exact stillWorking
      | some clip =>
          dsimp only
          split
          next => exact stillWorking
          next alive =>
            obtain ⟨isLocal, live⟩ := not_or.mp alive
            have announcing : Calls.Announcing job clipId
                (calls ++ [⟨.base (.fetchClipById clipId), .ok (some clip)⟩]) :=
              ⟨stillWorking, kind, named,
                ⟨clip, Calls.returned_append_self _ _, not_not.mp isLocal, not_not.mp live⟩,
                fun payload => Calls.not_did_append (unqueued payload) nofun⟩
            rw [ofHandler_bind, ofHandler_query]
            refine reaches_ask_then _ rfl rfl (fun _ => announcing.working.append id)
              fun author => ?_
            have announcing : Calls.Announcing job clipId (_ ++
                [⟨.base (.fetchActorById clip.actorId), .ok author⟩]) :=
              announcing.append id nofun
            cases author with
            | none => exact announcing.working
            | some author =>
                dsimp only
                split
                next => exact announcing.working
                rw [ofHandler_bind]
                refine @reaches_then _ _ _ _ _ _ _
                  (fun _ final => Calls.Announcing job clipId final) _ ?_
                  (fun _ _ ends => ends.working) fun _ afterId announcing => ?_
                · unfold canonicalizeClip
                  split
                  · exact announcing
                  · rw [ofHandler_query]
                    exact reaches_ask _ rfl rfl fun _ => announcing.append id nofun
                rw [ofHandler_bind, ofHandler_query]
                refine reaches_ask_then _ rfl rfl (fun _ => announcing.working.append id)
                  fun again => ?_
                have announcing : Calls.Announcing job clipId (_ ++
                    [⟨.base (.fetchClipById clipId), .ok again⟩]) :=
                  announcing.append id nofun
                cases again with
                | none => exact announcing.working
                | some clip =>
                    dsimp only
                    rw [ofHandler_bind, ofHandler_caught, ofHandler_query]
                    refine @reaches_caught_then _ _ _ _ _ _ _
                      (fun _ final => Calls.Announcing job clipId final) _
                      (reaches_ask _ rfl rfl fun _ => announcing.append id nofun)
                      (fun _ _ ends => ends.working) fun stored afterStored announcing => ?_
                    rw [ofHandler_bind, ofHandler_discarded, ofHandler_query]
                    refine reaches_then (reaches_discarded (reaches_ask _ rfl rfl
                      fun _ => announcing.append id nofun)) (fun _ _ ends => ends.working)
                      fun _ final announcing => ?_
                    rw [ofHandler_bind, ofHandler_query]
                    refine reaches_ask_then _ rfl ⟨job, announcing.working, clipId, _, announcing,
                      rfl⟩ ?_ fun _ => ?_
                    · exact fun _ => announcing.working.append id
                    · exact announcing.working.append id

theorem keeps_processFinalize (working : calls.Working job) (kind : job.kind = .finalize)
    (unqueued : ∀ payload, ¬calls.Did (.base (.createJob .deliverCreate payload))) :
    (processFinalize workers.baseUrl job).Keeps (WorkerAllowed workers name) calls := by
  have fails : job.kind.failsClip = true := by
    rw [kind]
    rfl
  unfold processFinalize
  split
  next => exact keeps_deadLetter working
  next clipId named =>
    refine keeps_ask_then _ rfl ⟨job, working, kind, named⟩ fun stamped => ?_
    cases stamped with
    | error _ =>
        exact keeps_markFailed_then (working.append id) named fails fun _ => keeps_markDone
    | ok stamped =>
        have workingStamped : Calls.Working job (calls ++
            [⟨.markAssetsReady clipId, .ok stamped⟩]) :=
          working.append id
        refine keeps_ask_then _ rfl ⟨job, workingStamped, kind, named,
          Calls.did_append_self _ stamped⟩ fun readied => ?_
        cases readied with
        | ok _ =>
            refine keeps_discarded_then (reaches_announce (workingStamped.append id) named kind
              fun payload => ?_) fun _ => keeps_markDone
            exact Calls.not_did_append (Calls.not_did_append (unqueued payload) nofun) nofun
        | error _ =>
            exact keeps_markFailed_then (workingStamped.append id) named fails fun _ =>
              keeps_markDone

end Finalize

/-! ## Delivery -/

theorem reaches_enqueueDeliveries
    {clipId : Nat} {clip : ClipRow} {author : ActorRow} {activity : Value}
    {followers : List ActorRow}
    (working : calls.Working job) (kind : job.kind = .deliverCreate)
    (named : job.clipId = some (clipId : Int))
    (carried : job.payload.get "activity" = some activity)
    (clipFound : calls.Returned (.base (.fetchClipById clipId)) (some clip))
    (authorFound : calls.Returned (.base (.fetchActorById clip.actorId)) (some author)) :
    (enqueueDeliveries author.id activity followers).Reaches (WorkerAllowed workers name)
      (fun _ final => Calls.Working job final) calls := by
  induction followers generalizing calls with
  | nil => exact working
  | cons follower followers inductionHypothesis =>
      refine @reaches_then _ _ _ _ _ _ _ (fun _ final =>
        Calls.Working job final ∧
          Calls.Returned (.base (.fetchClipById clipId)) (some clip) final ∧
          Calls.Returned (.base (.fetchActorById clip.actorId)) (some author) final) _ ?_ ?_ ?_
      · refine reaches_discarded ?_
        unfold enqueueDelivery
        rw [ofHandler_bind, ofHandler_query]
        refine reaches_ask_then _ rfl ⟨job, working, kind, clipId, clip, author, _, activity, named,
          carried, clipFound, authorFound, rfl⟩ ?_ fun _ => ?_
        · exact fun _ => ⟨working.append id, clipFound.append, authorFound.append⟩
        · exact ⟨working.append id, clipFound.append, authorFound.append⟩
      · exact fun _ _ ends => ends.1
      · rintro _ final ⟨stillWorking, clipStill, authorStill⟩
        exact inductionHypothesis stillWorking clipStill authorStill

theorem keeps_processDeliverCreate (working : calls.Working job)
    (kind : job.kind = .deliverCreate) :
    (processDeliverCreate job).Keeps (WorkerAllowed workers name) calls := by
  unfold processDeliverCreate
  split
  next clipId activity named carried =>
    cases clipId with
    | negSucc _ => exact keeps_deadLetter working
    | ofNat clipId =>
        refine keeps_ask_then _ rfl rfl fun found => ?_
        match found with
        | .error _ => exact keeps_deadLetter (working.append id)
        | .ok none => exact keeps_deadLetter (working.append id)
        | .ok (some clip) =>
            have workingClip : Calls.Working job (calls ++
                [⟨.base (.fetchClipById clipId), .ok (some clip)⟩]) :=
              working.append id
            refine keeps_ask_then _ rfl rfl fun found => ?_
            match found with
            | .error _ => exact keeps_deadLetter (workingClip.append id)
            | .ok none => exact keeps_deadLetter (workingClip.append id)
            | .ok (some author) =>
                have workingAuthor : Calls.Working job (_ ++
                    [⟨.base (.fetchActorById clip.actorId), .ok (some author)⟩]) :=
                  workingClip.append id
                refine keeps_ask_then _ rfl trivial fun followers => ?_
                cases followers with
                | error _ => exact keeps_scheduleDeliverRetry (workingAuthor.append id)
                | ok followers =>
                    refine reaches_then (reaches_enqueueDeliveries (workingAuthor.append id)
                      kind named carried (Calls.returned_append_self _ _).append.append
                      (Calls.returned_append_self _ _).append) (fun _ _ _ => trivial) ?_
                    exact fun _ _ => keeps_markDone
  next => exact keeps_deadLetter working

/-- A part of a job, and the part that follows it. -/
theorem reaches_working_then
    {α β : Type} {part : Routine Url α} {rest : α → Routine Url β}
    (reaches : part.Reaches (WorkerAllowed workers name)
      (fun _ final => Calls.Working job final) calls)
    (goes : ∀ value final, Calls.Working job final →
      (rest value).Reaches (WorkerAllowed workers name)
        (fun _ final => Calls.Working job final) final) :
    (part >>= rest).Reaches (WorkerAllowed workers name)
      (fun _ final => Calls.Working job final) calls :=
  reaches_then reaches (fun _ _ ends => ends) goes

theorem reaches_orFail {α : Type} (working : calls.Working job) (message : String)
    (value : Option α) :
    (orFail message value : Routine Url α).Reaches (WorkerAllowed workers name)
      (fun _ final => Calls.Working job final) calls := by
  cases value with
  | none => exact working
  | some value => exact working

theorem reaches_fetchActorOf (working : calls.Working job) (actorId : Int) :
    (fetchActorOf actorId).Reaches (WorkerAllowed workers name)
      (fun _ final => Calls.Working job final) calls := by
  cases actorId with
  | ofNat actorId => exact reaches_ask _ rfl rfl fun _ => working.append id
  | negSucc _ => exact working

section Deliver

variable [UrlCrate Url]

theorem reaches_deliverActivity (working : calls.Working job) (signer : ActorRow)
    (inboxUrl : String) (activity : Value) :
    (deliverActivity signer inboxUrl activity).Reaches (WorkerAllowed workers name)
      (fun _ final => Calls.Working job final) calls := by
  unfold deliverActivity
  split
  · exact reaches_ask _ rfl trivial fun _ => working.append id
  · exact working

theorem reaches_deliverJob (working : calls.Working job) :
    (deliverJob job).Reaches (WorkerAllowed workers name)
      (fun _ final => Calls.Working job final) calls := by
  unfold deliverJob
  split
  · refine reaches_working_then (reaches_orFail working _ _) fun followerId _ working => ?_
    refine reaches_working_then (reaches_orFail working _ _) fun targetId _ working => ?_
    refine reaches_working_then (reaches_orFail working _ _) fun activity _ working => ?_
    refine reaches_working_then (reaches_fetchActorOf working _) fun target _ working => ?_
    refine reaches_working_then (reaches_orFail working _ _) fun target _ working => ?_
    refine reaches_working_then (reaches_fetchActorOf working _) fun signer _ working => ?_
    refine reaches_working_then (reaches_orFail working _ _) fun signer _ working => ?_
    exact reaches_deliverActivity working _ _ _
  · refine reaches_working_then (reaches_orFail working _ _) fun actorId _ working => ?_
    refine reaches_working_then (reaches_orFail working _ _) fun inboxUrl _ working => ?_
    refine reaches_working_then (reaches_orFail working _ _) fun activity _ working => ?_
    refine reaches_working_then (reaches_fetchActorOf working _) fun signer _ working => ?_
    refine reaches_working_then (reaches_orFail working _ _) fun signer _ working => ?_
    exact reaches_deliverActivity working _ _ _
  · exact working

theorem keeps_processDeliver (working : calls.Working job) :
    (processDeliver job).Keeps (WorkerAllowed workers name) calls := by
  unfold processDeliver
  split
  next kind => exact keeps_processDeliverCreate working kind
  next =>
    refine keeps_caught_then (reaches_deliverJob working) fun outcome final working => ?_
    match outcome with
    | .ok .delivered => exact keeps_markDone working
    | .ok (.rejected _) => exact keeps_markDone working
    | .ok (.failed _) => exact keeps_scheduleDeliverRetry working
    | .error _ => exact keeps_scheduleDeliverRetry working

theorem keeps_deliveryTurn :
    (deliveryTurn : Routine Url Unit).Keeps (WorkerAllowed workers "delivery") [] := by
  refine keeps_ask_then _ rfl ⟨rfl, rfl⟩ fun claimed => ?_
  match claimed with
  | .error _ => trivial
  | .ok none => trivial
  | .ok (some job) =>
      have claimed : Calls.JustClaimed job
          ([⟨.claimNextDue "delivery", .ok (some job)⟩] : Calls Url) := ⟨"delivery", rfl⟩
      dsimp only
      split
      next => exact keeps_processDeliver claimed.working
      next other =>
        exact keeps_discarded _ rfl ⟨job, claimed.working, rfl, Bool.eq_false_iff.mpr other⟩

end Deliver

/-! ## Turns of the media workers -/

section Media

variable [UrlCrate Url] [ChronoCrate]

theorem reaches_backfillOf (working : calls.Working job) (max : Nat) (actorId : Int) :
    (backfillOf max actorId).Reaches (WorkerAllowed workers name)
      (fun _ final => Calls.Working job final) calls := by
  cases actorId with
  | negSucc _ => exact working
  | ofNat actorId =>
      have stores : (backfillActorPosts actorId max : Handler Url Nat).Calls
          (fun op => op.storesRemote = true) :=
        calls_backfillActorPosts (fun _ stores => stores) actorId max
      refine reaches_ofHandler stores (Calls.Working job) ?_ ?_ working
      · intro now op _ stores
        cases op <;> first | rfl | cases stores
      · exact fun now op outcome working => working.append id

theorem keeps_processBackfillJob (working : calls.Working job) :
    (processBackfillJob job).Keeps (WorkerAllowed workers name) calls := by
  unfold processBackfillJob
  split
  · exact keeps_deadLetter working
  · refine keeps_caught_then (reaches_backfillOf working _ _) fun outcome final working => ?_
    cases outcome with
    | ok _ => exact keeps_markDone working
    | error _ => exact keeps_deadLetter working

theorem keeps_handleJob (claimed : calls.JustClaimed job) :
    (handleJob workers job).Keeps (WorkerAllowed workers name) calls := by
  have working := claimed.working
  unfold handleJob
  split
  next => exact keeps_processDeliver working
  next other =>
    split
    next kind => exact keeps_processProbe working kind
    next kind => exact keeps_processTranscode working kind claimed.building
    next kind => exact keeps_processFinalize working kind (claimed.unqueued _)
    next => exact keeps_processBackfillJob working
    next =>
      refine keeps_deadLetterAndFail working ?_
      simp_all [JobKind.failsClip]

/-- A turn that runs out of time counts the failure of its job instead. -/
theorem keeps_processJobWithEgress (claimed : calls.JustClaimed job) :
    (processJobWithEgress workers job).Keeps (WorkerAllowed workers name) calls := by
  refine Program.follows_withDeadline ?_ (Calls.Claimed job) ?_ ?_ claimed.working.claimed
    (keeps_handleJob claimed)
  · exact fun now => ⟨trivial, fun _ => rfl⟩
  · intro now op outcome claimed _
    show Calls.Claimed job (if op.noted then now ++ [⟨op, outcome⟩] else now)
    split
    · exact claimed.append
    · exact claimed
  · exact fun now claimed => keeps_bumpJobAfterFailure claimed

theorem keeps_workerTurn (worker : String) :
    (workerTurn workers worker : Routine Url Unit).Keeps (WorkerAllowed workers worker)
      [] := by
  refine keeps_ask_then _ rfl ⟨rfl, rfl⟩ fun claimed => ?_
  match claimed with
  | .error _ => trivial
  | .ok none => trivial
  | .ok (some job) => exact keeps_processJobWithEgress ⟨worker, rfl⟩

end Media

/-! ## The other threads -/

theorem keeps_failClipsOfDead {timeoutSecs : Nat} {jobs left : List JobRow}
    (reaped : calls.Returned (.reapStale timeoutSecs) jobs) (some : ∀ job ∈ left, job ∈ jobs) :
    (failClipsOfDead left).Keeps ReaperAllowed calls := by
  induction left generalizing calls with
  | nil => trivial
  | cons job left inductionHypothesis =>
      have others : ∀ other ∈ left, other ∈ jobs :=
        fun other member => some other (List.mem_cons_of_mem _ member)
      unfold failClipsOfDead
      split
      next dead =>
        split
        next clipId named =>
          refine keeps_discarded_ask_then _ rfl ⟨timeoutSecs, jobs, reaped, job,
            some job List.mem_cons_self, dead, named⟩ fun _ => ?_
          exact inductionHypothesis reaped.append others
        next => exact inductionHypothesis reaped others
      next => exact inductionHypothesis reaped others

theorem keeps_reapStaleJobs (timeoutSecs : Nat) :
    (reapStaleJobs timeoutSecs).Keeps (@ReaperAllowed Url) [] := by
  refine keeps_ask_then _ rfl trivial fun reaped => ?_
  cases reaped with
  | error _ => trivial
  | ok jobs =>
      exact keeps_failClipsOfDead (Calls.returned_append_self _ jobs) fun _ member => member

theorem reaches_deleteKeys_deletion {mediaDir : String} {op : WorkerOp Url}
    (did : calls.Did op) (keys : List String) :
    (deleteKeys mediaDir keys).Reaches DeletionAllowed (fun _ final => Calls.Did op final)
      calls := by
  induction keys generalizing calls with
  | nil => exact did
  | cons key keys inductionHypothesis =>
      refine @reaches_then _ _ _ _ _ _ _ (fun _ final => Calls.Did op final) _ ?_
        (fun _ _ ends => ends) fun _ _ => inductionHypothesis
      refine reaches_discarded ?_
      unfold deleteKey onKey
      split
      · exact reaches_ask _ rfl trivial fun _ => did.append
      · exact did

theorem keeps_deleteAccount (mediaDir : String) (authId : Nat) :
    (deleteAccount mediaDir authId).Keeps (@DeletionAllowed Url) [] := by
  refine reaches_ask_then _ rfl trivial (fun _ => trivial) fun auth => ?_
  cases auth with
  | none => trivial
  | some auth =>
      refine reaches_ask_then _ rfl trivial (fun _ => trivial) fun marked => ?_
      have did : Calls.Did (.base (.markClipsOfActorDeleted (ActorRow.id auth)))
          ([⟨.base (.fetchActorById authId), .ok (some auth)⟩] ++
            [⟨.base (.markClipsOfActorDeleted (ActorRow.id auth)), .ok marked⟩] :
              Calls Url) :=
        Calls.did_append_self _ marked
      refine reaches_ask_then _ rfl trivial (fun _ => trivial) fun keys => ?_
      refine reaches_then (reaches_deleteKeys_deletion did.append keys)
        (fun _ _ _ => trivial) fun _ final did => ?_
      refine reaches_ask_then _ rfl trivial (fun _ => trivial) fun _ => ?_
      exact reaches_ask_then _ rfl did.append (fun _ => trivial) fun _ => trivial

theorem keeps_request [UrlCrate Url] [ChronoCrate] {config : Config} {task : Routine Url Unit}
    (isRequest : Background.Requests config workers task) :
    task.Keeps RequestAllowed [] := by
  cases isRequest with
  | deleteAccount authId =>
      exact (keeps_deleteAccount _ authId).widen fun _ _ => requestAllowed_of_deletionAllowed
  | event event =>
      have anything (handler : Handler Url Unit) : handler.Calls fun _ => True :=
        Program.Calls.of_forall _ fun _ => trivial
      exact (reaches_ofHandler (anything _) (fun _ => True)
        (fun _ _ _ _ => trivial) (fun _ _ _ _ => trivial) trivial).keeps

/-- Every task of every thread keeps to the protocol of its turns. -/
theorem turn_follows [UrlCrate Url] [ChronoCrate]
    {requests : Routine Url Unit → Prop} {requestAllowed : Calls Url → WorkerOp Url → Prop}
    (requestsKeep : ∀ task, requests task → task.Keeps requestAllowed [])
    {thread : Thread} {task : Routine Url Unit}
    (isTask : Background.Tasks workers requests thread task) :
    task.Keeps (TurnAllowed workers requestAllowed thread) [] := by
  cases thread with
  | media index =>
      subst isTask
      exact keeps_workerTurn _
  | delivery =>
      subst isTask
      exact keeps_deliveryTurn
  | maintenance =>
      subst isTask
      exact keeps_reapStaleJobs _
  | request index => exact requestsKeep task isTask

end TootTok
