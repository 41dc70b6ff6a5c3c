import TootTok.CaptionTags

/-!
# Tags of uploads

An upload links its clip to the hashtags of the caption it stores, which is escaped. These are
the tags a viewer sees in the caption unless the escape of an apostrophe adds one.
-/

namespace TootTok

open Effects
open Relational (SerialTable Table)

namespace Upload

/-- The caption in the form, which its last caption field has. -/
def captionOf (multipart : Multipart) : Option String :=
  multipart.fields.foldl
    (fun caption field =>
      if field.isNamed "caption_html" then textOf field.chunks.flatten else caption) none

theorem Field.name_eq {field : Field} {left right : String} (isLeft : field.isNamed left = true)
    (isRight : field.isNamed right = true) : left = right := by
  unfold Field.isNamed at isLeft isRight
  have same := (of_decide_eq_true isLeft).symm.trans (of_decide_eq_true isRight)
  exact Option.some.inj same

theorem readText_ok {what : String} {field : Field} {text : Option String}
    (read : readText what field = .ok text) : text = textOf field.chunks.flatten := by
  obtain ⟨bytes, collected, rfl⟩ := exists_of_map_ok read
  rw [readChunks_ok collected, List.nil_append]

theorem readField_caption {cap : Nat} {before after : UploadFields} {field : Field}
    (read : readField cap before field = .ok after) :
    after.captionHtml =
      if field.isNamed "caption_html" then textOf field.chunks.flatten
      else before.captionHtml := by
  have other {name : String} (named : field.isNamed name = true) (ne : name ≠ "caption_html") :
      ¬field.isNamed "caption_html" = true :=
    fun isCaption => ne (Field.name_eq named isCaption)
  unfold readField at read
  split at read
  next named =>
    obtain ⟨_, -, rfl⟩ := exists_of_map_ok read
    rw [if_neg (other named (by decide))]
  split at read
  next named =>
    obtain ⟨_, -, rfl⟩ := exists_of_map_ok read
    rw [if_neg (other named (by decide))]
  split at read
  next named =>
    cases read
    rcases Bool.or_eq_true_iff.mp named with isMusic | isVoice
    · rw [if_neg (other isMusic (by decide))]
    · rw [if_neg (other isVoice (by decide))]
  split at read
  next named =>
    obtain ⟨text, collected, rfl⟩ := exists_of_map_ok read
    rw [if_pos named]
    exact readText_ok collected
  next notCaption =>
    cases read
    rw [if_neg notCaption]

theorem readUploadFields_caption {cap : Nat} {multipart : Multipart} {fields : UploadFields}
    (read : readUploadFields cap multipart = .ok fields) :
    fields.captionHtml = captionOf multipart :=
  readUploadFields_fold (fun _ _ _ readPart => readField_caption readPart) read

/-! ## The run of an upload -/

/-- A clip is stored with a caption and linked to the tags of it. -/
structure Filed (library : Library) (caption : Option String) (clipId : Nat) : Prop where
  stored : ∃ row ∈ library.clips, row.id = clipId ∧ row.captionHtml = caption
  tags : ∀ tag, library.Tagged clipId tag ↔
    ∃ text ∈ caption, ∃ found ∈ Hashtags.extractHashtags text, citext found = citext tag

/-- A clip is stored with a caption and has no tags yet. -/
structure Entered (library : Library) (caption : Option String) (clipId : Nat) : Prop where
  stored : ∃ row ∈ library.clips, row.id = clipId ∧ row.captionHtml = caption
  known : ∀ link ∈ library.clipHashtags, ∃ row ∈ library.hashtags, row.id = link.hashtagId
  untagged : ∀ tag, ¬library.Tagged clipId tag

/-- Every run of the rest of an upload that is accepted files its clip. -/
abbrev Files (caption : Option String) (program : Upload Url Answer) (library : Library) : Prop :=
  program.Ensures UploadOp.exec (fun _ => True)
    (fun outcome final => ∀ clipId, outcome = .ok (.ok clipId) → Filed final caption clipId) library

section Run

variable {Url : Type} {caption : Option String} {library : Library} {clip : Nat}

theorem files_refused (response : Response) :
    Files caption (.done (.error response) : Upload Url Answer) library := by
  rintro _ ⟨⟩

theorem files_tried {op : UploadOp Url} {rest : Except Error op.Result → Upload Url Answer}
    (next : ∀ env, Files caption (rest (UploadOp.exec env op library).1)
      (UploadOp.exec env op library).2) :
    Files caption (tried op >>= rest) library :=
  fun env _ => next env

/-- What follows a part that never accepts the upload. -/
theorem files_then {α : Type} {part : Upload Url α} {rest : α → Upload Url Answer}
    (next : ∀ value middle, Files caption (rest value) middle) :
    Files caption (part >>= rest) library := by
  unfold Files
  rw [Program.ensures_bind]
  refine Program.Ensures.of_forall (fun outcome middle => ?_) _ _
  cases outcome with
  | error error => rintro _ ⟨⟩
  | ok value => exact next value middle

theorem files_abandon {mediaDir key : String} :
    Files caption (abandon mediaDir key clip : Upload Url Answer) library :=
  files_then fun _ _ => files_tried fun _ => files_refused _

theorem files_orAbandon {mediaDir key : String} {op : UploadOp Url}
    {rest : op.Result → Upload Url Answer}
    (next : ∀ env value, (UploadOp.exec env op library).1 = .ok value →
      Files caption (rest value) (UploadOp.exec env op library).2) :
    Files caption (tried op >>= fun outcome => orAbandon mediaDir key clip outcome rest)
      library := by
  refine files_tried fun env => ?_
  cases outcome : (UploadOp.exec env op library).1 with
  | error error => exact files_abandon
  | ok value => exact next env value outcome

/-- An operation that writes no clips keeps a clip as it is filed. -/
theorem Filed.kept (filed : Filed library caption clip) (op : WorkerOp Url)
    (frame : ¬op.Writes .clips) (env : UploadEnv Url) :
    Filed (UploadOp.exec env (.base op) library).2 caption clip := by
  have same : (UploadOp.exec env (.base op) library).2.clips = library.clips :=
    WorkerOp.exec_frame .clips frame env.toWorkerEnv library.toServer
  refine ⟨?_, filed.tags⟩
  rw [same]
  exact filed.stored

theorem files_handOn {mediaDir key : String} {container : Container}
    (filed : Filed library caption clip) :
    Files caption (handOn mediaDir key container clip : Upload Url Answer) library := by
  refine files_orAbandon fun env _ _ => files_tried fun later => ?_
  rintro _ ⟨⟩
  exact (filed.kept (.base (.createJob .probe _)) (by rintro ⟨⟩) env).kept (.createAsset _)
    (by rintro ⟨⟩) later

theorem files_attachHashtags {mediaDir key : String} {rest : Upload Url Answer}
    (entered : Entered library caption clip)
    (next : ∀ final, Filed final caption clip → Files caption rest final) :
    Files caption (attachHashtags mediaDir key clip caption rest) library := by
  cases caption with
  | none =>
      refine next library ⟨entered.stored, fun tag => ?_⟩
      exact iff_of_false (entered.untagged tag) (by simp)
  | some text =>
      refine files_orAbandon fun env _ linked => next _ ?_
      have server := exec_linkHashtags env clip text library
      unfold UploadOp.exec at linked server ⊢
      split at linked
      · cases linked
      next performed =>
        rw [performed] at server
        refine ⟨?_, fun tag => ?_⟩
        · show ∃ row ∈ (UploadOp.perform env (.linkHashtags clip text) library).2.toServer.clips, _
          rw [server]
          exact entered.stored
        · show ((Hashtags.extractHashtags text).foldl (Library.linkHashtag clip) library).Tagged
            clip tag ↔ _
          rw [Library.tagged_linkHashtags _ entered.known]
          simp [entered.untagged tag]

/-- Setting the sound of a clip leaves its caption and its tags alone. -/
theorem Entered.setSound (entered : Entered library caption clip) (env : UploadEnv Url)
    (other : Nat) (sound : Option Nat) :
    Entered (UploadOp.exec env (.setSound other sound) library).2 caption clip := by
  unfold UploadOp.exec
  split
  · exact entered
  · obtain ⟨row, isRow, sameId, sameCaption⟩ := entered.stored
    refine ⟨⟨_, Clips.mem_setSound.mpr ⟨row, isRow, rfl⟩, ?_⟩, entered.known, entered.untagged⟩
    unfold Table.changeWhere
    split
    · exact ⟨sameId, sameCaption⟩
    · exact ⟨sameId, sameCaption⟩

theorem Entered.getOrCreateSound (entered : Entered library caption clip) (env : UploadEnv Url)
    (title : String) (author : Option Nat) :
    Entered (UploadOp.exec env (.getOrCreateSound title author) library).2 caption clip := by
  unfold UploadOp.exec
  split
  · exact entered
  · exact ⟨entered.stored, entered.known, entered.untagged⟩

theorem files_attachSound {mediaDir key : String} {auth : AuthUser} {title : Option String}
    {rest : Upload Url Answer} (entered : Entered library caption clip)
    (next : ∀ final, Entered final caption clip → Files caption rest final) :
    Files caption (attachSound mediaDir key auth clip title rest) library := by
  cases title with
  | none => exact next library entered
  | some title =>
      refine files_orAbandon fun env sound _ => files_orAbandon fun later _ _ => next _ ?_
      exact (entered.getOrCreateSound env title (some auth.actor.id)).setSound later clip
        (some sound)

theorem files_fileClip {mediaDir key : String} {auth : AuthUser} {fields : UploadFields}
    {container : Container} (entered : Entered library (cleanCaption fields.captionHtml) clip) :
    Files (cleanCaption fields.captionHtml)
      (fileClip mediaDir key auth fields container clip : Upload Url Answer) library :=
  files_attachSound entered fun _ still =>
    files_attachHashtags still fun _ filed => files_handOn filed

/-- A clip that is entered is a new one. -/
theorem entered_createPendingUpload (referential : library.Referential) {env : UploadEnv Url}
    {new : NewUpload} {row : ClipRow}
    (created : (UploadOp.exec env (.base (.base (.createPendingUpload new))) library).1 =
      .ok row) :
    Entered (UploadOp.exec env (.base (.base (.createPendingUpload new))) library).2
      new.captionHtml row.id := by
  change (Operation.exec env.toEnv (.createPendingUpload new) library.toDb).1 = .ok row at created
  have stored : row = new.row env.now library.clips.next ∧
      row ∈ (Operation.exec env.toEnv (.createPendingUpload new) library.toDb).2.clips := by
    rcases Operation.exec_cases env.toEnv (.createPendingUpload new) library.toDb with
      ⟨error, failed⟩ | performed
    · rw [failed] at created
      cases created
    · rw [performed] at created ⊢
      change (inserted (SerialTable.insert library.clips (new.row env.now)
        fun _ => rfl).1).mapError Error.db = .ok row at created
      show _ ∧ row ∈ (SerialTable.insert library.clips (new.row env.now) fun _ => rfl).2
      rcases SerialTable.insert_cases library.clips (new.row env.now) (fun _ => rfl) with
        ⟨-, made, rows⟩ | ⟨-, refused⟩
      · rw [made] at created
        cases created
        refine ⟨rfl, ?_⟩
        rw [← SerialTable.mem_rows, rows]
        exact List.mem_append_right _ List.mem_cons_self
      · rw [refused] at created
        cases created
  refine ⟨⟨row, stored.2, rfl, congrArg ClipRow.captionHtml stored.1⟩, referential.hashtags, ?_⟩
  rintro tag ⟨link, linked, sameClip, -⟩
  obtain ⟨old, isOld, sameId⟩ := referential.clips link linked
  have isNext : row.id = library.clips.next := congrArg ClipRow.id stored.1
  have clash : old.id = library.clips.next := by omega
  exact SerialTable.number_ne_next isOld clash

theorem files_enterClip {mediaDir key : String} {auth : AuthUser} {fields : UploadFields}
    {container : Container} {hash : String} {sizeBytes : Nat}
    (referential : library.Referential) :
    Files (cleanCaption fields.captionHtml)
      (enterClip mediaDir key auth fields container hash sizeBytes : Upload Url Answer)
      library := by
  intro env _
  rw [exec_newUuid]
  refine files_tried fun later => ?_
  cases created : (UploadOp.exec later (.base (.base (.createPendingUpload _))) library).1 with
  | ok row => exact files_fileClip (entered_createPendingUpload referential created)
  | error error => exact files_then fun _ _ => files_refused _

theorem files_storeOriginal {mediaDir : String} {auth : AuthUser} {fields : UploadFields}
    {container : Container} {hash : String} {sizeBytes : Nat}
    (referential : library.Referential) :
    Files (cleanCaption fields.captionHtml)
      (storeOriginal mediaDir auth fields container hash sizeBytes : Upload Url Answer)
      library := by
  intro env _
  rw [exec_newUuid]
  show Files _ (storeUnder mediaDir _ auth fields container hash sizeBytes) library
  unfold storeUnder ofRoutine saveBytes onKey
  cases Store.abs mediaDir ("original/" ++ env.uuid ++ "." ++ container.ext) with
  | none => exact files_refused _
  | some path =>
      intro later _
      rcases exec_writeFile_cases later path library with ⟨error, failed⟩ | saved
      · rw [failed]
        exact files_refused _
      · rw [saved]
        exact files_enterClip ⟨referential.clips, referential.hashtags⟩

theorem files_setting {key : String} {default : F64} {rest : Except Error F64 → Upload Url Answer}
    (next : ∀ outcome, Files caption (rest outcome) library) :
    Files caption (ofRoutine (numericSetting key default) >>= rest) library := by
  intro env _
  have unchanged := exec_fetchSetting env key library
  generalize UploadOp.exec env (.base (.fetchSetting key)) library = answered at unchanged ⊢
  rw [unchanged]
  cases answered.1 with
  | error error => exact next (.error error)
  | ok stored =>
      cases stored with
      | none => exact next (.ok default)
      | some value =>
          simp only [Program.bind]
          split <;> split <;> exact next (.ok _)

theorem files_checkStorageQuota {actorId : Nat} {uploadBytes : Int} {rest : Upload Url Answer}
    (next : Files caption rest library) :
    Files caption (checkStorageQuota actorId uploadBytes rest) library := by
  refine files_setting fun setting => ?_
  cases setting with
  | error error => exact files_refused _
  | ok quotaMb =>
      unfold orAnswer
      dsimp only
      split
      · exact next
      · refine files_tried fun env => ?_
        rw [exec_storageUsed]
        cases (UploadOp.exec env (.storageUsed actorId) library).1 with
        | error error => exact files_refused _
        | ok used =>
            dsimp only
            split
            · exact files_refused _
            · exact next

variable [DigestCrate]

theorem files_acceptFile {mediaDir : String} {auth : AuthUser} {fields : UploadFields}
    {container : Container} {data : List UInt8} (referential : library.Referential) :
    Files (cleanCaption fields.captionHtml)
      (acceptFile mediaDir auth fields container data : Upload Url Answer) library := by
  refine files_tried fun env => ?_
  rcases exec_fetchBySha256_cases env (DigestCrate.sha256Hex data) library with
    ⟨error, failed⟩ | found
  · rw [failed]
    exact files_refused _
  · rw [found]
    unfold orAnswer
    dsimp only
    split
    · exact files_refused _
    · exact files_checkStorageQuota (@files_storeOriginal _ _ _ _ _ _ _ _ referential)

/-- An upload that is accepted stores its clip with the sanitised caption of the form, and links
it to the tags of what it stores. -/
theorem files_upload {mediaDir : String} {auth : AuthUser} {multipart : Multipart}
    (referential : library.Referential) :
    Files (cleanCaption (captionOf multipart))
      (upload mediaDir auth multipart : Upload Url Answer) library := by
  refine files_setting fun setting => ?_
  cases setting with
  | error error => exact files_refused _
  | ok sizeCapMb =>
      unfold orAnswer
      dsimp only
      split
      · exact files_refused _
      next fields read =>
        rw [← readUploadFields_caption read]
        split
        · exact files_refused _
        next data _ =>
          split
          · exact files_refused _
          split
          · exact files_refused _
          · exact files_acceptFile referential

end Run

end Upload

/-- The tags of an accepted upload are those of the text a viewer sees exactly if escaping keeps
the tags of that text. -/
theorem Upload.linked_tags_iff [DigestCrate] {Url : Type}
    (mediaDir : String) (auth : AuthUser) (multipart : Multipart)
    (envs : Nat → UploadEnv Url) (start : Library) (referential : start.Referential) {clipId : Nat}
    (accepted : ((Upload.upload mediaDir auth multipart).run UploadOp.exec envs start).1 =
      .ok (.ok clipId)) :
    ∃ row ∈ ((Upload.upload mediaDir auth multipart).run UploadOp.exec envs start).2.clips,
      row.id = clipId ∧ row.captionHtml = cleanCaption (captionOf multipart) ∧
      ((∀ tag, ((Upload.upload mediaDir auth multipart).run UploadOp.exec envs start).2.Tagged
          clipId tag ↔
          ∃ stored ∈ row.captionHtml,
            ∃ found ∈ Hashtags.extractHashtags (Hashtags.visibleText stored),
              citext found = citext tag) ↔
        ∀ raw ∈ captionOf multipart, Hashtags.TagsKept (Sanitize.stripPasses 8 raw.toList)) := by
  obtain ⟨⟨row, isRow, sameId, sameCaption⟩, tags⟩ :=
    (files_upload referential).run envs (fun _ => trivial) clipId accepted
  refine ⟨row, isRow, sameId, sameCaption, ?_⟩
  simp only [tags, sameCaption]
  cases captionOf multipart with
  | none => simp [cleanCaption]
  | some raw =>
      have decoded := Hashtags.toList_visibleText_stripHtmlTags raw
      by_cases empty : Sanitize.stripHtmlTags raw = ""
      · -- Nothing is stored, and nothing is seen.
        have nothing : cleanCaption (some raw) = none := by
          simp [cleanCaption, empty]
        rw [empty] at decoded
        have blank : Sanitize.stripPasses 8 raw.toList = [] := decoded.symm.trans (by decide)
        simp [nothing, blank, Hashtags.TagsKept]
      · have stored : cleanCaption (some raw) = some (Sanitize.stripHtmlTags raw) := by
          simp [cleanCaption, empty]
        simp only [stored, Option.mem_def, Option.some.injEq, exists_eq_left', forall_eq',
          Hashtags.extractHashtags_eq, decoded]
        rw [← Hashtags.tags_of_escaped_iff, ← Hashtags.citext_tags_iff, Sanitize.stripHtmlTags,
          String.toList_ofList]

namespace Sample

/-- A form with the video and a caption. -/
def captioned (caption : List UInt8) : Multipart :=
  ⟨[⟨some "caption_html", [caption], false⟩, ⟨some "file", [video], false⟩], false⟩

/-- Every call of the upload succeeds. -/
def succeeding (_ : Nat) : UploadEnv NormalUrl where
  toWorkerEnv := atSecond 0
  storageUsed _ := 0

theorem referential_emptyLibrary : emptyLibrary.Referential := by
  constructor
  · rintro link ⟨⟩
  · rintro link ⟨⟩

/-- The bytes of `#cats`. -/
def cats : List UInt8 := [0x23, 0x63, 0x61, 0x74, 0x73]

/-- The upload of the video with a caption. -/
abbrev uploaded (caption : List UInt8) : Except Error Upload.Answer × Library :=
  (Upload.upload "m" uploading (captioned caption)).run UploadOp.exec succeeding emptyLibrary

theorem cats_accepted : (uploaded cats).1 = .ok (.ok 1) := by
  decide +kernel

/-- The bytes of `don't`. -/
def dont : List UInt8 := [0x64, 0x6F, 0x6E, 0x27, 0x74]

end Sample

open Sample in
/-- A caption without an apostrophe keeps its tags. -/
theorem Upload.cats_tagged :
    ∃ row ∈ (uploaded cats).2.clips,
      row.id = 1 ∧ row.captionHtml = some "#cats" ∧
      ∀ tag, (uploaded cats).2.Tagged 1 tag ↔ citext "cats" = citext tag := by
  have caption : captionOf (captioned cats) = some "#cats" := by decide +kernel
  have kept : ∀ raw ∈ captionOf (captioned cats),
      Hashtags.TagsKept (Sanitize.stripPasses 8 raw.toList) := by
    rw [caption]
    rintro _ ⟨⟩
    exact .inl (by decide)
  obtain ⟨row, isRow, sameId, sameCaption, exact⟩ :=
    linked_tags_iff "m" uploading (captioned cats) succeeding emptyLibrary
      referential_emptyLibrary cats_accepted
  have stored : cleanCaption (captionOf (captioned cats)) = some "#cats" := by decide +kernel
  have found : Hashtags.extractHashtags (Hashtags.visibleText "#cats") = ["cats"] := by
    decide +kernel
  refine ⟨row, isRow, sameId, sameCaption.trans stored, fun tag => ?_⟩
  rw [exact.mpr kept tag, sameCaption, stored]
  simp [found]

open Sample in
/-- The apostrophe of a caption becomes a tag that no viewer sees. -/
theorem Upload.apostrophe_tagged :
    (uploaded dont).1 = .ok (.ok 1) ∧
      (uploaded dont).2.clips.rows.map ClipRow.captionHtml = [some "don&#x27;t"] ∧
      Hashtags.visibleText "don&#x27;t" = "don't" ∧
      Hashtags.extractHashtags "don't" = [] ∧
      (uploaded dont).2.Tagged 1 "x27" := by
  have evaluated : (uploaded dont).1 = .ok (.ok 1) ∧
      (uploaded dont).2.clips.rows.map ClipRow.captionHtml = [some "don&#x27;t"] ∧
      (uploaded dont).2.clipHashtags.rows = [⟨1, 1⟩] ∧
      (uploaded dont).2.hashtags.rows = [⟨1, "x27"⟩] := by
    decide +kernel
  obtain ⟨accepted, caption, links, tags⟩ := evaluated
  have link : ⟨1, 1⟩ ∈ (uploaded dont).2.clipHashtags.rows := by
    rw [links]
    exact List.mem_cons_self
  have tag : ⟨1, "x27"⟩ ∈ (uploaded dont).2.hashtags.rows := by
    rw [tags]
    exact List.mem_cons_self
  exact ⟨accepted, caption, by decide, by decide,
    ⟨1, 1⟩, Table.mem_rows.mp link, rfl, ⟨1, "x27"⟩, SerialTable.mem_rows.mp tag, rfl, rfl⟩

end TootTok
