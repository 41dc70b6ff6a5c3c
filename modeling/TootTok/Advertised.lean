import TootTok.TranscodeAmong

/-!
# Advertised media

The URL of the media of a clip names the largest rendition that is ready. Where
its lookup fails, a name is made up. This module follows a clip through the
pipeline and says when the file that is advertised is one that the asset route
finds.
-/

namespace TootTok

open Effects
open Json (Value)
open Relational (Table)
open Routine

variable {Url : Type}

/-! ## Documents -/

/-- The URL of the media in a note, or in the note of an activity. -/
def mediaUrl (document : Value) : Option String :=
  match ((document.get "object").getD document).get "attachment" with
  | some (.array (attachment :: _)) => attachment.getStr "url"
  | _ => none

/-- The file name that is advertised after a lookup, whatever became of it. -/
def mediaFilename : Except Error (Option String) → Option String
  | .ok filename => filename.or (some "720.mp4")
  | .error _ => some "720.mp4"

/-- The file of the largest rendition that a source has. -/
def largestRung (height : Int32) : String :=
  (if 720 ≤ height then "720" else "480") ++ ".mp4"

/-- The asset route finds the file that the document advertises. -/
def NamesAsset (baseUrl : String) (clipId : Nat) (table : MediaAssetTable) (document : Value) :
    Prop :=
  ∃ filename,
    mediaUrl document = some (baseUrl ++ "/assets/" ++ toString clipId ++ "/" ++ filename) ∧
      (MediaAssets.findForClipFilename clipId filename table).isSome = true

/-- Which document of a clip is asked for. -/
inductive ClipApShape
  | note
  | create
deriving DecidableEq

section Documents

variable [ChronoCrate]

/-- The document of a clip. -/
def ClipApShape.document (baseUrl : String) (clip : ClipRow) (author : ActorRow)
    (filename : Option String) : ClipApShape → Value
  | .note => clipNoteJson baseUrl clip author filename
  | .create => clipCreateActivity baseUrl clip author filename

def clipNotFound : Response := .problem 404 "clip not found"

/-- `serve_clip_ap`: the note of a finalized local clip, or the activity around it. -/
def serveClipAp (baseUrl : String) (acceptsActivityJson : Bool) (shape : ClipApShape)
    (id : Nat) : Handler Url (Except Response Value) := do
  if acceptsActivityJson then
    match ← Handler.caught (query (.fetchClipById id)) with
    | .ok (some clip) =>
        if clip.deletedAt ≠ none ∨ clip.apId ≠ clipObjectId baseUrl id then
          pure (.error clipNotFound)
        else
          match ← Handler.caught (query (.fetchActorById clip.actorId)) with
          | .ok (some author) => do
              let stored ← Handler.caught (query (.largestVideoFilename clip.id))
              pure (.ok (shape.document baseUrl clip author (mediaFilename stored)))
          | _ => pure (.error clipNotFound)
    | _ => pure (.error clipNotFound)
  else pure (.error (.problem 406 "not acceptable"))

theorem mediaUrl_document (baseUrl : String) (clip : ClipRow) (author : ActorRow)
    (filename : Option String) (shape : ClipApShape) :
    mediaUrl (shape.document baseUrl clip author filename) =
      some (attachmentUrl baseUrl clip filename) := by
  have attached := (@clipNoteJson_members _ baseUrl clip filename author).2.2.2
  have nested : (clipNoteJson baseUrl clip author filename).get "object" = none := by
    simp [clipNoteJson, Json.Value.get_object_cons, Json.Value.get_object_optional]
  have around : (clipCreateActivity baseUrl clip author filename).get "object" =
      some (clipNoteJson baseUrl clip author filename) := by
    simp [clipCreateActivity, Json.Value.get_object_cons]
  cases shape with
  | note =>
      simp only [mediaUrl, ClipApShape.document, nested, Option.getD_none, attached]
      exact getStr_url_attachmentJson baseUrl clip filename
  | create =>
      simp only [mediaUrl, ClipApShape.document, around, Option.getD_some, attached]
      exact getStr_url_attachmentJson baseUrl clip filename

/-- What is advertised exists if and only if the lookup was answered or the default
file exists. -/
theorem namesAsset_iff
    {baseUrl : String} {clip : ClipRow} {author : ActorRow} {shape : ClipApShape}
    {height : Int32} {table : MediaAssetTable} {lookup : Except Error (Option String)}
    (ladder : Ladder clip.id height (rungs height) table)
    (answered : ∀ filename, lookup = .ok filename → filename = some (largestRung height)) :
    NamesAsset baseUrl clip.id table
        (shape.document baseUrl clip author (mediaFilename lookup)) ↔
      lookup.isOk = true ∨ 720 ≤ height := by
  have names (filename : String) (advertised : mediaFilename lookup = some filename) :
      NamesAsset baseUrl clip.id table
          (shape.document baseUrl clip author (mediaFilename lookup)) ↔
        (MediaAssets.findForClipFilename clip.id filename table).isSome = true := by
    unfold NamesAsset
    rw [mediaUrl_document, advertised]
    constructor
    · rintro ⟨other, same, found⟩
      have sameName : filename = other :=
        String.append_right_inj _ |>.mp (Option.some.inj same)
      rwa [sameName]
    · exact fun found => ⟨filename, rfl, found⟩
  cases lookup with
  | ok filename =>
      have isLargest := answered filename rfl
      rw [names (largestRung height) (by rw [isLargest]; rfl)]
      refine iff_of_true (ladder.find_rung ?_) (.inl rfl)
      unfold rungs
      split <;> simp
  | error error =>
      rw [names "720.mp4" rfl, ladder.find_default_iff]
      constructor
      · exact .inr
      · rintro (impossible | high)
        · exact absurd impossible Bool.false_ne_true
        · exact high

end Documents

namespace Busy

/-! ### Finalize -/

variable {op : WorkerOp Url}

/-- The outcome of a lookup of the largest file. -/
def lookupOf : (Σ op : WorkerOp Url, Except Error op.Result) → Option (Except Error (Option String))
  | ⟨.base (.largestVideoFilename _), outcome⟩ => some outcome
  | _ => none

/-- The payload of a job that delivers a new clip. -/
def announcementOf : (Σ op : WorkerOp Url, Except Error op.Result) → Option Value
  | ⟨.base (.createJob .deliverCreate payload), _⟩ => some payload
  | _ => none

/-- The call makes the assets ready. -/
def stampsAssets : (Σ op : WorkerOp Url, Except Error op.Result) → Bool
  | ⟨.markAssetsReady _, .ok _⟩ => true
  | _ => false

def lookups (record : Program.Record (@WorkerOp.Result Url) Error) :
    List (Except Error (Option String)) :=
  record.filterMap lookupOf

def announcements (record : Program.Record (@WorkerOp.Result Url) Error) : List Value :=
  record.filterMap announcementOf

theorem lookups_append (earlier later : Program.Record (@WorkerOp.Result Url) Error) :
    lookups (earlier ++ later) = lookups earlier ++ lookups later :=
  List.filterMap_append

theorem announcements_append (earlier later : Program.Record (@WorkerOp.Result Url) Error) :
    announcements (earlier ++ later) = announcements earlier ++ announcements later :=
  List.filterMap_append

/-- The call neither writes the assets, nor looks the file up, nor announces the clip. -/
def Idle (op : WorkerOp Url) : Prop :=
  ¬op.Writes .assets ∧
    ∀ outcome, lookupOf ⟨op, outcome⟩ = none ∧ announcementOf ⟨op, outcome⟩ = none

theorem stampsAssets_of_frame (frame : ¬op.Writes .assets) (outcome : Except Error op.Result) :
    stampsAssets ⟨op, outcome⟩ = false := by
  cases op with
  | markAssetsReady clipId => exact (frame trivial).elim
  | _ => rfl

theorem lookups_idle {record : Program.Record (@WorkerOp.Result Url) Error} (idle : Idle op)
    (outcome : Except Error op.Result) :
    lookups (record ++ [⟨op, outcome⟩]) = lookups record := by
  rw [lookups_append]
  simp [lookups, (idle.2 outcome).1]

theorem announcements_idle {record : Program.Record (@WorkerOp.Result Url) Error}
    (idle : Idle op) (outcome : Except Error op.Result) :
    announcements (record ++ [⟨op, outcome⟩]) = announcements record := by
  rw [announcements_append]
  simp [announcements, (idle.2 outcome).2]

section Finalize

variable {baseUrl : String} {clipId : Nat} {height : Int32}
  {looked : List (Except Error (Option String))} {traced : Traced Url} {env : Busy Url}

/-- The assets of the clip are ready, and it has not been announced. -/
structure Prepared (clipId : Nat) (height : Int32)
    (looked : List (Except Error (Option String))) (traced : Traced Url) : Prop where
  ladder : Ladder clipId height (rungs height) traced.1.mediaAssets
  ready : Ladder.Ready clipId height traced.1.mediaAssets
  looked : lookups traced.2 = looked
  unannounced : announcements traced.2 = []

theorem Prepared.call (prepared : Prepared clipId height looked traced)
    (ordinary : Ordinary clipId height env) (idle : Idle op) :
    Prepared clipId height looked (trace env op traced).2 where
  ladder := prepared.ladder.spared (spares_execAmong ordinary idle.1 traced.1)
  ready := prepared.ready.spared (spares_execAmong ordinary idle.1 traced.1)
  looked := (lookups_idle idle _).trans prepared.looked
  unannounced := (announcements_idle idle _).trans prepared.unannounced

/-- What a lookup may return: an error, or the largest rendition. -/
def Answers (height : Int32) (lookup : Except Error (Option String)) : Prop :=
  ∀ filename, lookup = .ok filename → filename = some (largestRung height)

theorem Prepared.lookup (prepared : Prepared clipId height [] traced)
    (ordinary : Ordinary clipId height env) :
    Prepared clipId height
        [(WorkerOp.execAmong env (.base (.largestVideoFilename clipId)) traced.1).1]
        (trace env (.base (.largestVideoFilename clipId)) traced).2 ∧
      Answers height
        (WorkerOp.execAmong env (.base (.largestVideoFilename clipId)) traced.1).1 := by
  have spares := @spares_execAmong _ _ _ _ (.base (.largestVideoFilename clipId)) ordinary id
    traced.1
  refine ⟨⟨prepared.ladder.spared spares, prepared.ready.spared spares, ?_, ?_⟩,
    fun filename answered => ?_⟩
  · refine (lookups_append _ _).trans ?_
    rw [prepared.looked]
    rfl
  · refine (announcements_append _ _).trans ?_
    rw [prepared.unannounced]
    rfl
  · rcases Operation.exec_cases env.toEnv (.largestVideoFilename clipId)
      (env.others traced.1).toDb with ⟨error, failed⟩ | performed
    · cases (congrArg Prod.fst failed).symm.trans answered
    · have found := (congrArg Prod.fst performed).symm.trans answered
      rw [← Except.ok.inj found]
      have ladder := prepared.ladder.spared (ordinary.spares traced.1)
      exact ladder.largestVideoFilename_eq (prepared.ready.spared (ordinary.spares traced.1))

variable [ChronoCrate]

/-- The document was made after one lookup, whatever that returned. -/
def MadeAfterLookup (baseUrl : String) (clipId : Nat) (height : Int32)
    (looked : List (Except Error (Option String))) (shape : ClipApShape) (document : Value) :
    Prop :=
  ∃ lookup clip author, looked = [lookup] ∧ Answers height lookup ∧ clip.id = clipId ∧
    document = shape.document baseUrl clip author (mediaFilename lookup)

/-- What a finalize leaves behind. -/
structure Announced (baseUrl : String) (clipId : Nat) (height : Int32) (traced : Traced Url) :
    Prop where
  ladder : Ladder clipId height (rungs height) traced.1.mediaAssets
  ready : traced.2.any stampsAssets = true → Ladder.Ready clipId height traced.1.mediaAssets
  announced : ∀ payload ∈ announcements traced.2, ∃ activity,
    payload.get "activity" = some activity ∧
      MadeAfterLookup baseUrl clipId height (lookups traced.2) .create activity

theorem Prepared.announced (prepared : Prepared clipId height looked traced) :
    Announced baseUrl clipId height traced where
  ladder := prepared.ladder
  ready := fun _ => prepared.ready
  announced := by
    rw [prepared.unannounced]
    exact nofun

theorem Announced.call (announced : Announced baseUrl clipId height traced)
    (ordinary : Ordinary clipId height env) (idle : Idle op) :
    Announced baseUrl clipId height (trace env op traced).2 where
  ladder := announced.ladder.spared (spares_execAmong ordinary idle.1 traced.1)
  ready := by
    intro stamped
    unfold trace Program.recording at stamped
    rw [List.any_append, Bool.or_eq_true] at stamped
    rcases stamped with earlier | last
    · exact (announced.ready earlier).spared (spares_execAmong ordinary idle.1 traced.1)
    · rw [List.any_cons, stampsAssets_of_frame idle.1] at last
      cases last
  announced := by
    unfold trace Program.recording
    rw [announcements_idle idle, lookups_idle idle]
    exact announced.announced

omit [ChronoCrate] in
theorem ensures_prepared {α : Type} {part : Routine Url α} (calls : part.Calls Idle)
    (prepared : Prepared clipId height looked traced) :
    Program.Ensures trace (Ordinary clipId height)
      (fun _ final => Prepared clipId height looked final) part traced :=
  ensures_of_calls calls (fun _ _ _ ordinary idle holds => holds.call ordinary idle) prepared

theorem ensures_announced {α : Type} {part : Routine Url α} (calls : part.Calls Idle)
    (announced : Announced baseUrl clipId height traced) :
    Program.Ensures trace (Ordinary clipId height)
      (fun _ final => Announced baseUrl clipId height final) part traced :=
  ensures_of_calls calls (fun _ _ _ ordinary idle holds => holds.call ordinary idle) announced

omit [ChronoCrate] in
/-- An idle part, and what follows it. -/
theorem ensures_idle_then {α β : Type} {post : Except Error β → Traced Url → Prop}
    {part : Routine Url α} {rest : α → Routine Url β} (calls : part.Calls Idle)
    (prepared : Prepared clipId height looked traced)
    (fails : ∀ error final, Prepared clipId height looked final → post (.error error) final)
    (next : ∀ value final, Prepared clipId height looked final →
      Program.Ensures trace (Ordinary clipId height) post (rest value) final) :
    Program.Ensures trace (Ordinary clipId height) post (part >>= rest) traced := by
  rw [Program.ensures_bind]
  refine (ensures_prepared calls prepared).mono fun outcome final still => ?_
  cases outcome with
  | error error => exact fails error final still
  | ok value => exact next value final still

omit [ChronoCrate] in
/-- A clip that is found has the id that was asked for. -/
theorem ensures_fetchClip {id : Nat} (prepared : Prepared clipId height looked traced) :
    Program.Ensures trace (Ordinary clipId height)
      (fun outcome final => Prepared clipId height looked final ∧
        ∀ clip, outcome = .ok (some clip) → clip.id = id)
      (ask (.base (.fetchClipById id))) traced := by
  refine @ensures_ask _ _ _ (.base (.fetchClipById id)) _ fun env ordinary =>
    ⟨prepared.call ordinary ⟨fun writes => writes, fun _ => ⟨rfl, rfl⟩⟩, fun clip found => ?_⟩
  rcases Operation.exec_cases env.toEnv (.fetchClipById id) (env.others traced.1).toDb with
    ⟨error, failed⟩ | performed
  · cases (congrArg Prod.fst failed).symm.trans found
  · have stored := (congrArg Prod.fst performed).symm.trans found
    exact (Db.clipById_eq_some.mp (Except.ok.inj stored)).2

/-- The announcement that is queued carries what the lookup returned. -/
theorem Prepared.announce {clip : ClipRow} {author : ActorRow}
    {lookup : Except Error (Option String)} (prepared : Prepared clipId height [lookup] traced)
    (answers : Answers height lookup) (sameClip : clip.id = clipId)
    (ordinary : Ordinary clipId height env) :
    Announced baseUrl clipId height
      (trace env (.base (.createJob .deliverCreate (.object [
        ("clip_id", .number (.ofInt clipId)),
        ("activity", clipCreateActivity baseUrl clip author (mediaFilename lookup))]))) traced).2
    where
  ladder := prepared.ladder.spared (spares_execAmong ordinary id traced.1)
  ready := fun _ => prepared.ready.spared (spares_execAmong ordinary id traced.1)
  announced := by
    intro payload member
    have listed := (congrArg (payload ∈ ·) (announcements_append _ _)).mp member
    rw [prepared.unannounced] at listed
    cases List.mem_singleton.mp listed
    refine ⟨clipCreateActivity baseUrl clip author (mediaFilename lookup), ?_, lookup, clip, author,
      ?_, answers, sameClip, rfl⟩
    · simp [Json.Value.get_object_cons]
    · refine (lookups_append _ _).trans ?_
      rw [prepared.looked]
      rfl

/-- The announcement carries what the lookup returned. -/
theorem ensures_announce (prepared : Prepared clipId height [] traced) :
    Program.Ensures trace (Ordinary clipId height)
      (fun _ final => Announced baseUrl clipId height final)
      (announce baseUrl clipId) traced := by
  change Program.Ensures trace (Ordinary clipId height)
    (fun _ final => Announced baseUrl clipId height final)
    (ofHandler (enqueueClipCreate baseUrl clipId)) traced
  have idleQuery {op : Operation Url} (idle : Idle (.base op)) :
      (ask (.base op) : Routine Url _).Calls Idle :=
    Program.calls_perform.mpr idle
  rw [enqueueClipCreate, ofHandler_bind, ofHandler_query]
  refine ensures_idle_then (idleQuery ⟨id, fun _ => ⟨rfl, rfl⟩⟩) prepared
    (fun _ _ holds => holds.announced) fun found afterClip prepared => ?_
  cases found with
  | none => exact prepared.announced
  | some clip =>
  dsimp only
  split
  next => exact prepared.announced
  rw [ofHandler_bind, ofHandler_query]
  refine ensures_idle_then (idleQuery ⟨id, fun _ => ⟨rfl, rfl⟩⟩) prepared
    (fun _ _ holds => holds.announced) fun author afterAuthor prepared => ?_
  cases author with
  | none => exact prepared.announced
  | some author =>
  dsimp only
  split
  next => exact prepared.announced
  have canonicalizes :
      (ofHandler (canonicalizeClip baseUrl clip) : Routine Url Unit).Calls Idle := by
    unfold canonicalizeClip
    split
    · trivial
    · rw [ofHandler_query]
      exact idleQuery ⟨id, fun _ => ⟨rfl, rfl⟩⟩
  rw [ofHandler_bind]
  refine ensures_idle_then canonicalizes prepared (fun _ _ holds => holds.announced)
    fun _ afterId prepared => ?_
  rw [ofHandler_bind, ofHandler_query, Program.ensures_bind]
  refine (ensures_fetchClip prepared).mono fun again afterAgain reached => ?_
  obtain ⟨prepared, isClip⟩ := reached
  cases again with
  | error _ => exact prepared.announced
  | ok again =>
  cases again with
  | none => exact prepared.announced
  | some clip =>
  have sameClip := isClip clip rfl
  rw [Program.thenEnsures_ok]
  dsimp only
  rw [ofHandler_bind, ofHandler_caught, ofHandler_query]
  refine @ensures_caught_then _ _ _ _ _ (fun outcome final =>
    Prepared clipId height [outcome] final ∧ Answers height outcome) _ _ _
    (@ensures_ask _ _ _ (.base (.largestVideoFilename clipId)) _
      fun env ordinary => prepared.lookup ordinary)
    (fun _ _ reached => reached.1.announced) fun lookup afterLookup reached => ?_
  obtain ⟨prepared, answers⟩ := reached
  rw [ofHandler_bind, ofHandler_discarded, ofHandler_query]
  refine ensures_discarded_then
    (ensures_prepared (idleQuery ⟨id, fun _ => ⟨rfl, rfl⟩⟩) prepared)
    (fun _ _ holds => holds.announced) fun afterLog prepared => ?_
  rw [ofHandler_bind, ofHandler_query]
  have queues (payload : Value)
      (announced : ∀ env, Ordinary clipId height env → Announced baseUrl clipId height
        (trace env (.base (.createJob .deliverCreate payload)) afterLog).2) :
      Program.Ensures trace (Ordinary clipId height)
        (fun _ final => Announced baseUrl clipId height final)
        (ask (.base (.createJob .deliverCreate payload)) >>= fun _ => .done ()) afterLog := by
    rw [Program.ensures_bind]
    refine (@ensures_ask _ _ _ (.base (.createJob .deliverCreate payload))
      (fun _ final => Announced baseUrl clipId height final) announced).mono
        fun outcome final holds => ?_
    cases outcome <;> exact holds
  cases lookup with
  | ok filename =>
      exact queues _ fun env ordinary => prepared.announce answers sameClip ordinary
  | error error =>
      exact queues _ fun env ordinary => prepared.announce answers sameClip ordinary

/-- The stamp makes the assets ready. -/
theorem ensures_markAssetsReady {server : Server}
    (ladder : Ladder clipId height (rungs height) server.mediaAssets) :
    Program.Ensures trace (Ordinary clipId height)
      (fun outcome final => (outcome = .ok () → Prepared clipId height [] final) ∧
        Announced baseUrl clipId height final)
      (ask (.markAssetsReady clipId) : Routine Url Unit) (server, []) := by
  refine @ensures_ask _ _ _ (.markAssetsReady clipId) _ fun env ordinary => ?_
  have before := ladder.spared (ordinary.spares server)
  unfold trace Program.recording WorkerOp.execAmong
  dsimp only
  rcases WorkerOp.exec_cases env.toWorkerEnv (.markAssetsReady clipId) (env.others server) with
    ⟨error, failed⟩ | performed
  · rw [failed]
    refine ⟨fun impossible => ?_, before, fun impossible => ?_, fun payload member => ?_⟩
    · cases impossible
    · cases impossible
    · cases member
  · rw [performed]
    obtain ⟨stamped, ready⟩ := before.markReady env.now
    have prepared : Prepared clipId height [] ((WorkerOp.perform env.toWorkerEnv
        (.markAssetsReady clipId) (env.others server)).2,
        [⟨(.markAssetsReady clipId : WorkerOp Url), .ok ()⟩]) :=
      ⟨stamped, fun row member rendition _ isRung => ready row member isRung.1, rfl, rfl⟩
    exact ⟨fun _ => prepared, prepared.announced⟩

/-- Whatever a finalize announces was made after one lookup. -/
theorem ensures_processFinalize {job : JobRow} {server : Server}
    (named : job.clipId = some (clipId : Int))
    (ladder : Ladder clipId height (rungs height) server.mediaAssets) :
    Program.Ensures trace (Ordinary clipId height)
      (fun _ final => Announced baseUrl clipId height final)
      (processFinalize baseUrl job : Routine Url Unit) (server, []) := by
  have idle {op : WorkerOp Url} (isIdle : Idle op) : (discarded (ask op)).Calls Idle :=
    calls_discarded (Program.calls_perform.mpr isIdle)
  have gives {final : Traced Url} (announced : Announced baseUrl clipId height final) :
      Program.Ensures trace (Ordinary clipId height)
        (fun _ final => Announced baseUrl clipId height final)
        (discarded (ask (.markFailed clipId)) >>= fun _ => discarded (ask (.markDone job.id)))
        final :=
    ensures_announced ((idle ⟨id, fun _ => ⟨rfl, rfl⟩⟩).bind
      fun _ => idle ⟨id, fun _ => ⟨rfl, rfl⟩⟩) announced
  unfold processFinalize
  rw [named]
  refine ensures_caught_then (ensures_markAssetsReady ladder)
    (fun _ _ reached => reached.2) fun stamped afterStamp reached => ?_
  cases stamped with
  | error _ => exact gives reached.2
  | ok _ =>
  have prepared := reached.1 rfl
  refine ensures_caught_then
    (ensures_prepared (Program.calls_perform.mpr ⟨id, fun _ => ⟨rfl, rfl⟩⟩) prepared)
    (fun _ _ holds => holds.announced) fun readied afterReady prepared => ?_
  cases readied with
  | error _ => exact gives prepared.announced
  | ok _ =>
  refine ensures_discarded_then (ensures_announce prepared) (fun _ _ holds => holds)
    fun final announced => ?_
  exact ensures_announced (idle ⟨id, fun _ => ⟨rfl, rfl⟩⟩) announced

/-! ### The documents of a clip -/

/-- A document that is served was made after one lookup. -/
def Served (baseUrl : String) (clipId : Nat) (height : Int32) (shape : ClipApShape)
    (outcome : Except Error (Except Response Value)) (final : Traced Url) : Prop :=
  Ladder clipId height (rungs height) final.1.mediaAssets ∧
    ∀ document, outcome = .ok (.ok document) →
      MadeAfterLookup baseUrl clipId height (lookups final.2) shape document

theorem Prepared.refused {shape : ClipApShape} {response : Response}
    (prepared : Prepared clipId height looked traced) :
    Served baseUrl clipId height shape (.ok (.error response)) traced :=
  ⟨prepared.ladder, by simp⟩

theorem Prepared.failed {shape : ClipApShape} {error : Error}
    (prepared : Prepared clipId height looked traced) :
    Served baseUrl clipId height shape (.error error) traced :=
  ⟨prepared.ladder, by simp⟩

theorem ensures_serveClipAp {acceptsActivityJson : Bool} {shape : ClipApShape}
    (prepared : Prepared clipId height [] traced) :
    Program.Ensures trace (Ordinary clipId height) (Served baseUrl clipId height shape)
      (ofHandler (serveClipAp baseUrl acceptsActivityJson shape clipId)) traced := by
  unfold serveClipAp
  cases acceptsActivityJson with
  | false => exact prepared.refused
  | true =>
  rw [if_pos rfl, ofHandler_bind, ofHandler_caught, ofHandler_query]
  refine ensures_caught_then (ensures_fetchClip prepared) (fun _ _ reached => reached.1.failed)
    fun found afterClip reached => ?_
  obtain ⟨prepared, isClip⟩ := reached
  cases found with
  | error _ => exact prepared.refused
  | ok found =>
  cases found with
  | none => exact prepared.refused
  | some clip =>
  have sameClip := isClip clip rfl
  dsimp only
  split
  next => exact prepared.refused
  rw [ofHandler_bind, ofHandler_caught, ofHandler_query]
  refine ensures_caught_then
    (ensures_prepared (Program.calls_perform.mpr ⟨id, fun _ => ⟨rfl, rfl⟩⟩) prepared)
    (fun _ _ holds => holds.failed) fun author afterAuthor prepared => ?_
  cases author with
  | error _ => exact prepared.refused
  | ok author =>
  cases author with
  | none => exact prepared.refused
  | some author =>
  dsimp only
  rw [ofHandler_bind, ofHandler_caught, ofHandler_query, sameClip]
  refine @ensures_caught_then _ _ _ _ _ (fun outcome final =>
    Prepared clipId height [outcome] final ∧ Answers height outcome) _ _ _
    (@ensures_ask _ _ _ (.base (.largestVideoFilename clipId)) _
      fun env ordinary => prepared.lookup ordinary)
    (fun _ _ reached => reached.1.failed) fun lookup final reached => ?_
  refine ⟨reached.1.ladder, fun document same => ?_⟩
  cases same
  exact ⟨lookup, clip, author, reached.1.looked, reached.2, sameClip, rfl⟩

end Finalize

end Busy

/-! ## The whole way of a clip -/

/-- The key under which an upload stores an original. -/
def IsUploadKey (key : String) : Prop :=
  ∃ uuid ext, key = "original/" ++ uuid ++ "." ++ ext ∧ uuid.toList.length = 36 ∧
    '/' ∉ (uuid ++ "." ++ ext).toList

theorem IsUploadKey.ownName {key : String} (isKey : IsUploadKey key) :
    lastSegment key ≠ "720.mp4" := by
  obtain ⟨uuid, ext, rfl, long, plain⟩ := isKey
  have name : lastSegment ("original/" ++ uuid ++ "." ++ ext) = uuid ++ "." ++ ext := by
    refine @lastSegment_of_toList _ _ "original".toList ?_ plain
    simp [String.toList_append]
  rw [name]
  intro same
  have lengths := congrArg (fun text => text.toList.length) same
  have short : "720.mp4".toList.length = 7 := by decide
  simp only [String.toList_append, List.length_append, long, short] at lengths
  omega

open Busy in
/-- Advertised media. After one transcode and one finalize, what the announcement and
the documents of a clip advertise exists, unless the lookup of the largest file fails and
the source is too low for the default one. -/
theorem advertised_media_iff [ChronoCrate]
    {config : WorkerConfig} {clipId : Nat} {height : Int32} {transcodeJob finalizeJob : JobRow}
    (transcodes : transcodeJob.clipId = some (clipId : Int))
    (finalizes : finalizeJob.clipId = some (clipId : Int))
    {key : String} (keyed : transcodeJob.payload.getStr "key" = some key)
    (isKey : IsUploadKey key)
    {start transcoded finalized : Server}
    (uploaded : ∀ row ∈ start.mediaAssets, row.ofClip clipId = true →
      row.kind = .videoMp4 ∧ row.rendition = "orig" ∧ row.path = key)
    {first second third : Nat → Busy Url}
    (firstOrdinary : ∀ index, Ordinary clipId height (first index))
    (secondOrdinary : ∀ index, Ordinary clipId height (second index))
    (thirdOrdinary : ∀ index, Ordinary clipId height (third index))
    (transcodeRun : ((processTranscode config.mediaDir transcodeJob).run WorkerOp.execAmong
      first start).2 = transcoded)
    (queued : ((processTranscode config.mediaDir transcodeJob).history WorkerOp.execAmong
      first start).any queuesFinalize = true)
    (finalizeRun : ((processFinalize config.baseUrl finalizeJob).run WorkerOp.execAmong
      second transcoded).2 = finalized)
    (stamped : ((processFinalize config.baseUrl finalizeJob).history WorkerOp.execAmong
      second transcoded).any stampsAssets = true)
    (acceptsActivityJson : Bool) (shape : ClipApShape) :
    (∀ payload ∈ announcements ((processFinalize config.baseUrl finalizeJob).history
        WorkerOp.execAmong second transcoded),
      ∃ lookup activity,
        lookups ((processFinalize config.baseUrl finalizeJob).history
          WorkerOp.execAmong second transcoded) = [lookup] ∧
        payload.get "activity" = some activity ∧
        (NamesAsset config.baseUrl clipId finalized.mediaAssets activity ↔
          lookup.isOk = true ∨ 720 ≤ height)) ∧
      ∀ document,
        ((ofHandler (serveClipAp config.baseUrl acceptsActivityJson shape clipId)).run
          WorkerOp.execAmong third finalized).1 = .ok (.ok document) →
        ∃ lookup,
          lookups ((ofHandler (serveClipAp config.baseUrl acceptsActivityJson shape clipId)).history
            WorkerOp.execAmong third finalized) = [lookup] ∧
          (NamesAsset config.baseUrl clipId
              ((ofHandler (serveClipAp config.baseUrl acceptsActivityJson shape clipId)).run
                WorkerOp.execAmong third finalized).2.mediaAssets document ↔
            lookup.isOk = true ∨ 720 ≤ height) := by
  have originals : ∀ row ∈ start.mediaAssets, row.ofClip clipId = true → row.IsOriginal := by
    intro row member ofClip
    obtain ⟨isVideo, isOrig, path⟩ := uploaded row member ofClip
    exact ⟨isVideo, isOrig, path ▸ isKey.ownName⟩
  have growing : Growing clipId height [] ((start, []) : Traced Url) :=
    ⟨rfl, .of_fresh originals⟩
  have ladder : Ladder clipId height (rungs height) transcoded.mediaAssets := by
    rcases (ensures_processTranscode transcodes keyed isKey.ownName growing).recorded first
      firstOrdinary with unqueued | whole
    · exact absurd (queued.symm.trans unqueued) (by decide)
    · exact transcodeRun ▸ whole
  have names {looked : List (Except Error (Option String))} {shape : ClipApShape}
      {document : Value} {table : MediaAssetTable}
      (whole : Ladder clipId height (rungs height) table)
      (made : MadeAfterLookup config.baseUrl clipId height looked shape document) :
      ∃ lookup, looked = [lookup] ∧ (NamesAsset config.baseUrl clipId table document ↔
        lookup.isOk = true ∨ 720 ≤ height) := by
    obtain ⟨lookup, clip, author, isLookup, answers, rfl, rfl⟩ := made
    exact ⟨lookup, isLookup, namesAsset_iff whole answers⟩
  have announced := (@ensures_processFinalize Url config.baseUrl _ _ _ _ _ finalizes
    ladder).recorded second secondOrdinary
  rw [finalizeRun] at announced
  have prepared : Prepared clipId height [] ((finalized, []) : Traced Url) :=
    ⟨announced.ladder, announced.ready stamped, rfl, rfl⟩
  constructor
  · intro payload member
    obtain ⟨activity, carried, made⟩ := announced.announced payload member
    obtain ⟨lookup, isLookup, exact_iff⟩ := names announced.ladder made
    exact ⟨lookup, activity, isLookup, carried, exact_iff⟩
  · intro document served
    have made := (@ensures_serveClipAp Url config.baseUrl _ _ _ _ acceptsActivityJson shape
      prepared).recorded third thirdOrdinary
    exact names made.1 (made.2 document served)

namespace Sample

/-- A pending clip of a low source, whose transcode job is queued. -/
def lowSource : Server :=
  { serverWith .processing .transcode [
      ("path", .string "p"),
      ("key", .string "original/00000000-0000-4000-8000-000000000000.mp4")] with
    files := fun path => path = "p" }

/-- The source has 480 lines, and the call of this number fails. -/
def lowSourceFailing (failing : Option Nat) (index : Nat) : Busy NormalUrl where
  toWorkerEnv := { atSecond 0 with
    probed := ⟨none, none, some 480, false⟩
    fault := if failing = some index then some (.db .failed) else none }
  others := id

def lowTranscode : JobRow :=
  clipJob 1 .transcode [
    ("path", .string "p"),
    ("key", .string "original/00000000-0000-4000-8000-000000000000.mp4")]

def lowFinalize : JobRow := clipJob 2 .finalize []

def lowTranscoded : Server :=
  ((processTranscode workers.mediaDir lowTranscode).run WorkerOp.execAmong
    (lowSourceFailing none) lowSource).2

/-- The finalize of the clip, with the seventh call, which is the lookup, failing or not. -/
def lowFinalized (failing : Option Nat) : Server :=
  ((processFinalize workers.baseUrl lowFinalize).run WorkerOp.execAmong
    (lowSourceFailing failing) lowTranscoded).2

def lowHistory (failing : Option Nat) : Program.Record (@WorkerOp.Result NormalUrl) Error :=
  (processFinalize workers.baseUrl lowFinalize).history WorkerOp.execAmong
    (lowSourceFailing failing) lowTranscoded

def lowQueued : Program.Record (@WorkerOp.Result NormalUrl) Error :=
  (processTranscode workers.mediaDir lowTranscode).history WorkerOp.execAmong
    (lowSourceFailing none) lowSource

theorem lowSource_ordinary (failing : Option Nat) (index : Nat) :
    Busy.Ordinary 1 480 (lowSourceFailing failing index) where
  probed := rfl
  spares := fun _ => ⟨fun _ member _ => member, fun _ member _ => .inl member⟩

theorem lowQueued_queues : lowQueued.any Busy.queuesFinalize = true := by decide

theorem lowKey_isUploadKey :
    IsUploadKey "original/00000000-0000-4000-8000-000000000000.mp4" :=
  ⟨"00000000-0000-4000-8000-000000000000", "mp4", by decide, by decide,
    by decide⟩

/-- The activity of the only announcement. -/
theorem lowAnnouncement (failing : Option Nat) (url : String)
    (announced : (Busy.announcements (lowHistory failing)).map
      (fun payload => (payload.get "activity").bind mediaUrl) = [some url]) :
    ∃ payload activity, Busy.announcements (lowHistory failing) = [payload] ∧
      payload.get "activity" = some activity ∧ mediaUrl activity = some url := by
  obtain ⟨payload, isOnly, advertises⟩ := List.map_eq_singleton_iff.mp announced
  obtain ⟨activity, carried, advertised⟩ := Option.bind_eq_some_iff.mp advertises
  exact ⟨payload, activity, isOnly, carried, advertised⟩

end Sample

open Sample Busy in
/-- The lookup is answered, and the file that is announced exists. -/
theorem low_rung_announced :
    ∃ payload activity, announcements (lowHistory none) = [payload] ∧
      payload.get "activity" = some activity ∧
      NamesAsset workers.baseUrl 1 (lowFinalized none).mediaAssets activity := by
  -- One evaluation for the whole run, whose transcode is the same for each of these.
  have evaluated : ((announcements (lowHistory none)).map
        (fun payload => (payload.get "activity").bind mediaUrl) =
          [some "https://a/assets/1/480.mp4"]) ∧
      (lowHistory none).any stampsAssets = true ∧
        (lookups (lowHistory none)).map Except.isOk = [true] := by
    decide
  obtain ⟨announced, stamped, answered⟩ := evaluated
  obtain ⟨payload, activity, isOnly, carried, -⟩ := lowAnnouncement none _ announced
  have advertised := (@advertised_media_iff NormalUrl _ workers 1 480 lowTranscode lowFinalize rfl
    rfl _ rfl lowKey_isUploadKey lowSource lowTranscoded (lowFinalized none) (fun _ => nofun)
    (lowSourceFailing none) (lowSourceFailing none) (lowSourceFailing none)
    (lowSource_ordinary none) (lowSource_ordinary none) (lowSource_ordinary none)
    rfl lowQueued_queues rfl stamped true .note).1 payload (isOnly ▸ List.mem_singleton_self _)
  obtain ⟨lookup, other, isLookup, carriedOther, exists_iff⟩ := advertised
  cases carried.symm.trans carriedOther
  change lookups (lowHistory none) = [lookup] at isLookup
  rw [isLookup] at answered
  exact ⟨payload, activity, isOnly, carried,
    exists_iff.mpr (.inl (List.singleton_inj.mp answered))⟩

open Sample Busy in
/-- The lookup fails, and the file that is announced was never produced. -/
theorem missing_rung_announced :
    lowQueued.any queuesFinalize = true ∧
      (lowHistory (some 6)).any stampsAssets = true ∧
      ∃ payload activity, announcements (lowHistory (some 6)) = [payload] ∧
        payload.get "activity" = some activity ∧
        ¬NamesAsset workers.baseUrl 1 (lowFinalized (some 6)).mediaAssets activity := by
  have evaluated : ((announcements (lowHistory (some 6))).map
        (fun payload => (payload.get "activity").bind mediaUrl) =
          [some "https://a/assets/1/720.mp4"]) ∧
      (lowHistory (some 6)).any stampsAssets = true ∧
        (MediaAssets.findForClipFilename 1 "720.mp4"
          (lowFinalized (some 6)).mediaAssets).isSome = false := by
    decide
  obtain ⟨announced, stamped, missing⟩ := evaluated
  obtain ⟨payload, activity, isOnly, carried, url⟩ := lowAnnouncement (some 6) _ announced
  refine ⟨lowQueued_queues, stamped, payload, activity, isOnly, carried, ?_⟩
  rintro ⟨filename, named, found⟩
  have split : "https://a/assets/1/720.mp4" =
      workers.baseUrl ++ "/assets/" ++ toString 1 ++ "/" ++ "720.mp4" := by
    decide
  have same : filename = "720.mp4" := by
    rw [url, split] at named
    exact (String.append_right_inj _ |>.mp (Option.some.inj named)).symm
  rw [same] at found
  exact absurd (found.symm.trans missing) (by decide)

end TootTok
