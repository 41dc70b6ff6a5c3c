import TootTok.Effects.Totals
import TootTok.Relational.Summing
import TootTok.Turns
import TootTok.Uploads

/-!
# The storage quota

An upload is checked against the sum of the sizes of the asset rows. Its own row is
inserted last, by a statement whose failure is ignored. This module follows any number
of uploads of one actor, and says when their originals stay within the quota.
-/

namespace TootTok

open Effects
open Json (Value)
open Relational (join sumOf)

variable {Url : Type}

/-! ## What is stored -/

namespace ClipRow

/-- The clip takes up storage of the actor. -/
def counts (actorId : Nat) (row : ClipRow) : Bool :=
  row.actorId = actorId ∧ row.deletedAt = none ∧ row.status ≠ .failed

/-- The size of the original of an uploaded clip. -/
def originalBytes (row : ClipRow) : Nat := (row.sizeBytes.getD 0).toNat

end ClipRow

/-- The unique key of an asset. -/
def MediaAssetRow.key (row : MediaAssetRow) : Nat × MediaKind × String :=
  (row.clipId, row.kind, row.rendition)

/-- The library, with the column `size_bytes` of its assets. -/
structure Stock extends Library where
  assetBytes : Nat × MediaKind × String → Option Nat

namespace Stock

/-- The sum of `check_storage_quota`. -/
def storageUsed (actorId : Nat) (stock : Stock) : Nat :=
  sumOf (fun row => (stock.assetBytes row.2.key).getD 0)
    ((join stock.clips.rows stock.mediaAssets.rows fun clip asset => asset.clipId = clip.id).filter
      fun row => row.1.counts actorId)

/-- The size of the originals of the live clips of an actor that have not failed. -/
def originals (actorId : Nat) (stock : Stock) : Nat :=
  sumOf ClipRow.originalBytes (stock.clips.rows.filter (ClipRow.counts actorId))

/-- The asset sizes after `MediaAsset::create`, which leaves a stored row alone. -/
def assetBytesAfter (new : NewAsset) (fileBytes : Nat) (stock : Stock) :
    Except Error MediaAssetRow → Nat × MediaKind × String → Option Nat
  | .ok row =>
      if (stock.mediaAssets.find? (MediaAssetRow.under new)).isSome then stock.assetBytes
      else Function.update stock.assetBytes row.key (some fileBytes)
  | .error _ => stock.assetBytes

/-- The original of the clip has its row, with its size. -/
def Registered (clip : ClipRow) (stock : Stock) : Prop :=
  ∃ asset ∈ stock.mediaAssets, asset.clipId = clip.id ∧
    stock.assetBytes asset.key = some clip.originalBytes

/-- Where all originals are registered, the sum of the check covers them. -/
theorem originals_le_storageUsed {actorId : Nat} {stock : Stock}
    (registered : ∀ clip ∈ stock.clips, clip.counts actorId = true → stock.Registered clip) :
    stock.originals actorId ≤ stock.storageUsed actorId := by
  unfold originals storageUsed
  apply @Relational.sumOf_le_sumOf_join _ _ _ _ _ (ClipRow.counts actorId) ClipRow.originalBytes
    fun asset : MediaAssetRow => (stock.assetBytes asset.key).getD 0
  intro clip member counted
  obtain ⟨asset, stored, sameClip, sized⟩ := registered clip member counted
  refine ⟨asset, stored, decide_eq_true sameClip, ?_⟩
  rw [sized]
  exact Nat.le_refl _

end Stock

/-! ## Operations with sizes -/

/-- An operation of an upload, with the size of the file that is uploaded. -/
structure SizedOp (Url : Type) where
  op : UploadOp Url
  fileBytes : Nat

namespace SizedOp

@[reducible] def Result (sized : SizedOp Url) : Type := sized.op.Result

/-- `COALESCE(SUM(...), 0)::bigint`. -/
def bigint (sum : Nat) : Except Error Int :=
  if sum < 9223372036854775808 then .ok sum else .error (.db .failed)

/-- An operation on the sums and sizes that are stored. -/
def exec : Program.Executor (@Result Url) Error Stock (UploadEnv Url) :=
  fun env sized stock =>
    match sized with
    | ⟨.storageUsed actorId, _⟩ =>
        (match env.fault with
          | some error => .error error
          | none => bigint (stock.storageUsed actorId), stock)
    | ⟨.base (.createAsset new), fileBytes⟩ =>
        let (outcome, library) := UploadOp.exec env (.base (.createAsset new)) stock.toLibrary
        (outcome, ⟨library, stock.assetBytesAfter new fileBytes outcome⟩)
    | ⟨op, _⟩ =>
        ((UploadOp.exec env op stock.toLibrary).1,
          { stock with toLibrary := (UploadOp.exec env op stock.toLibrary).2 })

end SizedOp

/-! ## Requests -/

namespace Upload

/-- The size of the file in a form. -/
def fileBytes (multipart : Multipart) : Nat :=
  (multipart.file.map List.length).getD 0

/-- A part of the upload of a file of this size. -/
def sized {α : Type} (bytes : Nat) (part : Upload Url α) :
    Program (@SizedOp.Result Url) Error α :=
  part.embed (fun op => ⟨op, bytes⟩) fun _ outcome => outcome

/-- The task is an upload of the actor. -/
def IsUploadOf [DigestCrate] (actorId : Nat)
    (task : Program (@SizedOp.Result Url) Error Answer) : Prop :=
  ∃ (mediaDir : String) (auth : AuthUser) (multipart : Multipart),
    auth.actor.id = actorId ∧
      task = (upload mediaDir auth multipart).sized (fileBytes multipart)

end Upload

/-! ## The quota -/

namespace Quota

def key : String := "per_user_storage_quota_mb"

/-- What `numeric_setting` makes of a stored value. -/
def number (default : F64) : Option Value → F64
  | none => default
  | some value =>
      let number := (match value with
        | .number number => number.asF64
        | _ => none).getD default
      if F64.zero.gt number then default else number

/-- The quota in bytes. -/
def bytes (setting : Option Value) : Int :=
  (((number perUserStorageQuotaMbDefault setting).scale 1024).scale 1024).toI64

theorem numericSetting_eq (name : String) (default : F64) :
    (numericSetting name default : Routine Url F64) =
      ask (.fetchSetting name) >>= fun setting => .done (number default setting) := by
  unfold numericSetting
  congr 1
  funext setting
  cases setting with
  | none => rfl
  | some value =>
      unfold number
      dsimp only
      generalize Option.getD _ default = stored
      split <;> rfl

/-- A quota of some bytes is in force. -/
theorem inForce_of_pos {setting : Option Value} (positive : 0 < bytes setting) :
    (number perUserStorageQuotaMbDefault setting).le .zero = false := by
  have atZero : ((F64.zero.scale 1024).scale 1024).toI64 = 0 := by decide +kernel
  by_contra unlimited
  rw [Bool.not_eq_false] at unlimited
  have nonneg : F64.zero.gt (number perUserStorageQuotaMbDefault setting) = false := by
    have atDefault : F64.zero.gt perUserStorageQuotaMbDefault = false := by decide
    unfold number
    split
    · exact atDefault
    · dsimp only
      generalize Option.getD _ perUserStorageQuotaMbDefault = stored
      cases negative : F64.zero.gt stored <;> simp [negative, atDefault]
  have isZero : number perUserStorageQuotaMbDefault setting = .zero := by
    unfold F64.le at unlimited
    rw [nonneg, Bool.false_or, Bool.and_eq_true] at unlimited
    exact of_decide_eq_true unlimited.2
  unfold bytes at positive
  rw [isZero, atZero] at positive
  exact absurd positive (by decide)

end Quota

/-! ## What a request has reserved -/

/-- How far an upload has come. -/
inductive Reservation
  | checking
  /-- The check has passed, and the clip is not entered yet. -/
  | passed (fileBytes : Nat)
  | entered
  /-- Another quota than the fixed one has been read. -/
  | strayed
deriving DecidableEq

namespace Reservation

/-- The bytes that will be stored without another check. -/
def bytes : Reservation → Int
  | .passed fileBytes => fileBytes
  | _ => 0

@[simp] theorem bytes_passed (fileBytes : Nat) : (passed fileBytes).bytes = fileBytes := rfl

@[simp] theorem bytes_checking : checking.bytes = 0 := rfl

@[simp] theorem bytes_entered : entered.bytes = 0 := rfl

theorem bytes_nonneg (reservation : Reservation) : 0 ≤ reservation.bytes := by
  cases reservation <;> simp [bytes]

theorem bytes_eq_zero {reservation : Reservation}
    (notPassed : ∀ fileBytes, reservation ≠ .passed fileBytes) : reservation.bytes = 0 := by
  cases reservation with
  | passed fileBytes => exact (notPassed fileBytes rfl).elim
  | _ => rfl

open Classical in
/-- How an outcome moves an upload of a file of this size on. -/
noncomputable def moved (setting : Option Value) (fileBytes : Nat) (reservation : Reservation) :
    (op : UploadOp Url) → Except Error op.Result → Reservation
  | .base (.fetchSetting name), .ok value =>
      if name = Quota.key ∧ value ≠ setting then .strayed else reservation
  | .storageUsed _, .ok used =>
      if F64.saturate (used + fileBytes) ≤ Quota.bytes setting then .passed fileBytes
      else reservation
  | .base (.base (.createPendingUpload _)), _ => .entered
  | _, _ => reservation

section Moved

variable {setting : Option Value} {fileBytes : Nat} {reservation : Reservation}

open Classical in
theorem moved_fetchSetting (name : String) (value : Option Value) :
    reservation.moved setting fileBytes (.base (.fetchSetting name) : UploadOp Url)
        (Except.ok value) =
      if name = Quota.key ∧ value ≠ setting then .strayed else reservation := rfl

theorem moved_storageUsed (actorId : Nat) (used : Int) :
    reservation.moved setting fileBytes (.storageUsed actorId : UploadOp Url) (Except.ok used) =
      if F64.saturate (used + fileBytes) ≤ Quota.bytes setting then .passed fileBytes
      else reservation := rfl

end Moved

/-- Of an upload that strayed nothing more is asked. -/
noncomputable def after (setting : Option Value) (fileBytes : Nat) (reservation : Reservation)
    (op : UploadOp Url) (outcome : Except Error op.Result) : Reservation :=
  if reservation = .strayed then .strayed else reservation.moved setting fileBytes op outcome

/-- A clip is entered only at the size that has passed the check, and no other call makes
the originals larger. -/
def Permits (actorId : Nat) (reservation : Reservation) : UploadOp Url → Prop
  | .base (.base (.createPendingUpload new)) =>
      new.actorId = actorId ∧
        ∃ fileBytes : Nat, reservation = .passed fileBytes ∧ new.sizeBytes = fileBytes
  | .base (.markFailed _) => True
  | .base op => ¬op.Writes .clips
  | .storageUsed other => other = actorId
  | _ => True

/-- The protocol of an upload of a file of this size. -/
noncomputable abbrev ofFile (setting : Option Value) (actorId fileBytes : Nat) :
    Protocol (@UploadOp.Result Url) Error Reservation where
  initial := .checking
  Allowed reservation op := reservation = .strayed ∨ reservation.Permits actorId op
  after := after setting fileBytes

/-- The protocol of all uploads. -/
noncomputable abbrev protocol (setting : Option Value) (actorId : Nat) :
    Protocol (@SizedOp.Result Url) Error Reservation where
  initial := .checking
  Allowed reservation sized := reservation = .strayed ∨ reservation.Permits actorId sized.op
  after reservation sized := after setting sized.fileBytes reservation sized.op

end Reservation

namespace Upload

variable {setting : Option Value} {actorId fileBytes : Nat} {reservation : Reservation}
  {α β : Type}

/-- The part keeps to the protocol of an upload. -/
abbrev Safe (setting : Option Value) (actorId fileBytes : Nat) (part : Upload Url α)
    (reservation : Reservation) : Prop :=
  part.Follows (Reservation.ofFile setting actorId fileBytes) (fun _ _ => True) reservation

theorem follows_sized {part : Upload Url α} (safe : part.Safe setting actorId fileBytes reservation) :
    (part.sized fileBytes).Follows (Reservation.protocol setting actorId) (fun _ _ => True)
      reservation := by
  induction part generalizing reservation with
  | done value => trivial
  | fail error => trivial
  | call op next inductionHypothesis =>
      exact ⟨safe.1, fun outcome => inductionHypothesis outcome (safe.2 outcome)⟩

/-- An upload that strayed may do anything. -/
theorem safe_strayed (part : Upload Url α) : part.Safe setting actorId fileBytes .strayed := by
  induction part with
  | done value => trivial
  | fail error => trivial
  | call op next inductionHypothesis =>
      refine ⟨.inl rfl, fun outcome => ?_⟩
      exact inductionHypothesis outcome

/-- The call is permitted to every upload, and moves none on. -/
def Neutral (op : UploadOp Url) : Prop :=
  (∀ (actorId : Nat) (reservation : Reservation), reservation.Permits actorId op) ∧
    ∀ setting fileBytes (reservation : Reservation) outcome,
      reservation.moved setting fileBytes op outcome = reservation

theorem Neutral.after {op : UploadOp Url} (neutral : Neutral op)
    (outcome : Except Error op.Result) :
    reservation.after setting fileBytes op outcome = reservation := by
  unfold Reservation.after
  rw [neutral.2]
  split
  next strayed => exact strayed.symm
  next => rfl

theorem follows_neutral {part : Upload Url α} (calls : Program.Calls Neutral part) :
    part.Follows (Reservation.ofFile setting actorId fileBytes)
      (fun _ final => final = reservation) reservation := by
  refine Program.Calls.follows calls (fun now => now = reservation) ?_ ?_ rfl
  · rintro now op rfl neutral
    exact .inr (neutral.1 actorId now)
  · rintro now op outcome rfl neutral
    exact neutral.after outcome

theorem safe_neutral {part : Upload Url α} (calls : Program.Calls Neutral part) :
    part.Safe setting actorId fileBytes reservation :=
  (follows_neutral calls).mono fun _ _ _ => trivial

/-- A neutral part, and what follows it. -/
theorem safe_neutral_then {part : Upload Url α} {rest : α → Upload Url β}
    (calls : Program.Calls Neutral part)
    (next : ∀ value, (rest value).Safe setting actorId fileBytes reservation) :
    (part >>= rest).Safe setting actorId fileBytes reservation := by
  rw [Safe, Program.follows_bind]
  refine (follows_neutral calls).mono fun outcome final same => ?_
  subst same
  cases outcome with
  | ok value => exact next value
  | error error => trivial

theorem calls_ofRoutine {routine : Routine Url α}
    (calls : routine.Calls fun op => Neutral (.base op)) : Program.Calls Neutral (ofRoutine routine) :=
  (Program.calls_embed calls).attempt

theorem calls_tried {op : UploadOp Url} (neutral : Neutral op) : Program.Calls Neutral (tried op) :=
  ⟨neutral, fun _ => trivial⟩

/-! ### The calls of an upload -/

theorem calls_deleteOriginal (mediaDir path : String) :
    Program.Calls Neutral (deleteOriginal mediaDir path : Upload Url Unit) := by
  refine Program.Calls.bind (calls_ofRoutine (Routine.calls_onKey fun _ => ?_)) fun _ => trivial
  exact Program.calls_perform.mpr ⟨fun _ _ => id, fun _ _ _ _ => rfl⟩

theorem calls_abandon (mediaDir path : String) (clipId : Nat) :
    Program.Calls Neutral (abandon mediaDir path clipId : Upload Url Answer) := by
  refine Program.Calls.bind (calls_deleteOriginal mediaDir path) fun _ => ?_
  refine Program.Calls.bind (calls_tried ?_) fun _ => trivial
  exact ⟨fun _ _ => trivial, fun _ _ _ _ => rfl⟩

theorem calls_orAbandon {mediaDir path : String} {clipId : Nat} {outcome : Except Error α}
    {rest : α → Upload Url Answer} (calls : ∀ value, Program.Calls Neutral (rest value)) :
    Program.Calls Neutral (orAbandon mediaDir path clipId outcome rest) := by
  cases outcome with
  | error error => exact calls_abandon mediaDir path clipId
  | ok value => exact calls value

theorem calls_handOn (mediaDir path : String) (container : Container) (clipId : Nat) :
    Program.Calls Neutral (handOn mediaDir path container clipId : Upload Url Answer) := by
  refine Program.Calls.bind (calls_tried ⟨fun _ _ => nofun, fun _ _ _ _ => rfl⟩) fun queued => ?_
  refine calls_orAbandon fun _ => ?_
  refine Program.Calls.bind (calls_tried ?_) fun _ => trivial
  exact ⟨fun _ _ => id, fun _ _ _ _ => rfl⟩

theorem calls_fileClip (mediaDir path : String) (auth : AuthUser) (fields : UploadFields)
    (container : Container) (clipId : Nat) :
    Program.Calls Neutral
      (fileClip mediaDir path auth fields container clipId : Upload Url Answer) := by
  have tags : Program.Calls Neutral (attachHashtags mediaDir path clipId
      (cleanCaption fields.captionHtml) (handOn mediaDir path container clipId) :
        Upload Url Answer) := by
    unfold attachHashtags
    cases cleanCaption fields.captionHtml with
    | none => exact calls_handOn mediaDir path container clipId
    | some caption =>
        refine Program.Calls.bind (calls_tried ?_) fun linked =>
          calls_orAbandon fun _ => calls_handOn mediaDir path container clipId
        exact ⟨fun _ _ => trivial, fun _ _ _ _ => rfl⟩
  unfold fileClip attachSound
  cases soundTitle auth.actor.username fields with
  | none => exact tags
  | some title =>
      refine Program.Calls.bind (calls_tried ?_) fun made => calls_orAbandon fun soundId => ?_
      · exact ⟨fun _ _ => trivial, fun _ _ _ _ => rfl⟩
      · refine Program.Calls.bind (calls_tried ?_) fun set => calls_orAbandon fun _ => tags
        exact ⟨fun _ _ => trivial, fun _ _ _ _ => rfl⟩

/-- The clip is entered at the size that was checked. -/
theorem safe_enterClip {mediaDir path hash : String} {auth : AuthUser} {fields : UploadFields}
    {container : Container} (sameActor : auth.actor.id = actorId) :
    (enterClip mediaDir path auth fields container hash fileBytes : Upload Url Answer).Safe
      setting actorId fileBytes (.passed fileBytes) := by
  refine safe_neutral_then (Program.calls_perform.mpr ?_) fun uuid => ?_
  · exact ⟨fun _ _ => nofun, fun _ _ _ _ => rfl⟩
  · refine ⟨.inr ⟨sameActor, fileBytes, rfl, rfl⟩, fun entered => safe_neutral ?_⟩
    cases entered with
    | ok clip => exact calls_fileClip mediaDir path auth fields container clip.id
    | error error =>
        change Program.Calls Neutral (deleteOriginal mediaDir path >>= fun _ => .done _)
        exact Program.Calls.bind (calls_deleteOriginal mediaDir path) fun _ => trivial

theorem safe_storeUnder {mediaDir key hash : String} {auth : AuthUser} {fields : UploadFields}
    {container : Container} (sameActor : auth.actor.id = actorId) :
    (storeUnder mediaDir key auth fields container hash fileBytes : Upload Url Answer).Safe
      setting actorId fileBytes (.passed fileBytes) := by
  have saves : Program.Calls Neutral (ofRoutine (saveBytes mediaDir key) :
      Upload Url (Except Error Unit)) :=
    calls_ofRoutine (Routine.calls_onKey fun _ =>
      Program.calls_perform.mpr ⟨fun _ _ => id, fun _ _ _ _ => rfl⟩)
  refine safe_neutral_then saves fun saved => ?_
  cases saved with
  | error error => trivial
  | ok _ => exact safe_enterClip sameActor

theorem safe_storeOriginal {mediaDir hash : String} {auth : AuthUser} {fields : UploadFields}
    {container : Container} (sameActor : auth.actor.id = actorId) :
    (storeOriginal mediaDir auth fields container hash fileBytes : Upload Url Answer).Safe
      setting actorId fileBytes (.passed fileBytes) := by
  refine safe_neutral_then (Program.calls_perform.mpr ?_) fun uuid => ?_
  · exact ⟨fun _ _ => nofun, fun _ _ _ _ => rfl⟩
  · generalize "original/" ++ uuid ++ "." ++ container.ext = key
    exact safe_storeUnder sameActor

theorem after_fixedSetting (setting : Option Value) :
    Reservation.after setting fileBytes .checking
      (.base (.fetchSetting Quota.key) : UploadOp Url) (Except.ok setting) = .checking := by
  simp [Reservation.after, Reservation.moved]

theorem after_otherSetting {read : Option Value} (other : read ≠ setting) :
    Reservation.after setting fileBytes .checking
      (.base (.fetchSetting Quota.key) : UploadOp Url) (Except.ok read) = .strayed := by
  simp [Reservation.after, Reservation.moved, other]

/-- The check of the quota, and what follows it. -/
theorem safe_checkStorageQuota {rest : Upload Url Answer} (positive : 0 < Quota.bytes setting)
    (safe : rest.Safe setting actorId fileBytes (.passed fileBytes)) :
    (checkStorageQuota actorId fileBytes rest).Safe setting actorId fileBytes .checking := by
  unfold checkStorageQuota
  rw [Quota.numericSetting_eq]
  refine ⟨.inr id, fun outcome => ?_⟩
  cases outcome with
  | error error => trivial
  | ok read =>
  by_cases fixed : read = setting
  · subst fixed
    have stays := @after_fixedSetting Url fileBytes read
    change Program.Follows _ _ _ (Reservation.after read fileBytes .checking
      (UploadOp.base (.fetchSetting Quota.key)) (Except.ok read))
    rw [stays]
    change Program.Follows _ _ (if (Quota.number perUserStorageQuotaMbDefault read).le .zero
      then rest else _) _
    rw [if_neg (by rw [Quota.inForce_of_pos positive]; exact Bool.false_ne_true)]
    refine ⟨.inr rfl, fun sum => ?_⟩
    cases sum with
    | error error => trivial
    | ok used =>
        change Program.Follows _ _ (if Quota.bytes read < F64.saturate (used + fileBytes) then _
          else rest) (if F64.saturate (used + fileBytes) ≤ Quota.bytes read then _ else _)
        by_cases exceeds : Quota.bytes read < F64.saturate (used + fileBytes)
        · rw [if_pos exceeds]
          trivial
        · rw [if_neg exceeds, if_pos (not_lt.mp exceeds)]
          exact safe
  · have strays := @after_otherSetting Url setting fileBytes read fixed
    change Program.Follows _ _ _ (Reservation.after setting fileBytes .checking
      (UploadOp.base (.fetchSetting Quota.key)) (Except.ok read))
    rw [strays]
    exact safe_strayed _

/-- An upload keeps to the protocol of its file. -/
theorem safe_upload [DigestCrate] (positive : 0 < Quota.bytes setting) (mediaDir : String)
    {auth : AuthUser} (sameActor : auth.actor.id = actorId) (multipart : Multipart) :
    (upload mediaDir auth multipart : Upload Url Answer).Safe setting actorId
      (Upload.fileBytes multipart) .checking := by
  have reads : Program.Calls Neutral (ofRoutine (numericSetting "upload_size_cap_mb"
      uploadSizeCapMbDefault) : Upload Url (Except Error F64)) := by
    rw [Quota.numericSetting_eq]
    refine calls_ofRoutine ((Program.calls_perform.mpr ⟨fun _ _ => id, ?_⟩).bind fun _ => trivial)
    intro setting fileBytes reservation outcome
    cases outcome with
    | error error => rfl
    | ok value =>
        have other : ¬("upload_size_cap_mb" = Quota.key ∧ value ≠ setting) :=
          fun same => absurd same.1 (by decide)
        simp only [Reservation.moved, if_neg other]
  refine safe_neutral_then reads fun cap => ?_
  cases cap with
  | error error => trivial
  | ok sizeCapMb =>
  dsimp only [orAnswer]
  split
  next => trivial
  next fields readFields =>
  split
  next => trivial
  next data isData =>
  have bytes : Upload.fileBytes multipart = data.length := by
    unfold Upload.fileBytes
    rw [← readUploadFields_file readFields, isData]
    rfl
  split
  next => trivial
  split
  next => trivial
  next container _ =>
  refine safe_neutral_then (calls_tried ⟨fun _ _ => trivial, fun _ _ _ _ => rfl⟩)
    fun duplicate => ?_
  cases duplicate with
  | error error => trivial
  | ok duplicate =>
  dsimp only [orAnswer]
  split
  next => trivial
  next =>
  rw [bytes, sameActor]
  exact safe_checkStorageQuota positive (safe_storeOriginal sameActor)

end Upload

/-! ## What an operation does to the originals -/

namespace SizedOp

variable {env : UploadEnv Url} {actorId : Nat}

theorem toLibrary_exec (sized : SizedOp Url) (stock : Stock) :
    (exec env sized stock).2.toLibrary = (UploadOp.exec env sized.op stock.toLibrary).2 := by
  obtain ⟨op, fileBytes⟩ := sized
  cases op with
  | storageUsed actorId => exact (Upload.exec_storageUsed env actorId stock.toLibrary).symm
  | base op => cases op <;> rfl
  | _ => rfl

theorem originals_of_clips {left right : Stock} (same : left.clips = right.clips) :
    left.originals actorId = right.originals actorId := by
  unfold Stock.originals
  rw [same]

/-- A change of clips by which no original weighs more. -/
theorem originals_update_le {before after : Stock} {changed : ClipRow → Bool}
    {change : ClipRow → ClipRow}
    (rows : after.clips.rows = before.clips.rows.map (Relational.Table.changeWhere changed change))
    (lighter : ∀ row : ClipRow, (if (change row).counts actorId then (change row).originalBytes
      else 0) ≤ if row.counts actorId then row.originalBytes else 0) :
    after.originals actorId ≤ before.originals actorId := by
  unfold Stock.originals
  rw [Relational.sumOf_filter, Relational.sumOf_filter, rows]
  refine Relational.sumOf_map_le (fun row => ?_) _
  unfold Relational.Table.changeWhere
  split
  · exact lighter row
  · exact Nat.le_refl _

/-- No permitted call but the entry of a clip makes the originals larger. -/
theorem originals_exec_le {sized : SizedOp Url} {stock : Stock}
    (permitted : Reservation.entered.Permits actorId sized.op) :
    (exec env sized stock).2.originals actorId ≤ stock.originals actorId := by
  have library := @toLibrary_exec Url env sized stock
  have framed (same : (UploadOp.exec env sized.op stock.toLibrary).2.clips = stock.clips) :
      (exec env sized stock).2.originals actorId ≤ stock.originals actorId :=
    Nat.le_of_eq (originals_of_clips ((congrArg (fun library => library.clips) library).trans same))
  have updated {changed : ClipRow → Bool} {change : ClipRow → ClipRow}
      (rows : (UploadOp.exec env sized.op stock.toLibrary).2.clips.rows =
        stock.clips.rows.map (Relational.Table.changeWhere changed change))
      (lighter : ∀ row : ClipRow, (if (change row).counts actorId then (change row).originalBytes
        else 0) ≤ if row.counts actorId then row.originalBytes else 0) :
      (exec env sized stock).2.originals actorId ≤ stock.originals actorId :=
    originals_update_le ((congrArg (fun library => library.clips.rows) library).trans rows) lighter
  obtain ⟨op, fileBytes⟩ := sized
  cases op with
  | base op =>
      have unchanged (frame : ¬op.Writes .clips) :=
        framed (WorkerOp.exec_frame .clips frame env.toWorkerEnv stock.toServer)
      cases op with
      | markFailed id =>
          rcases WorkerOp.exec_cases env.toWorkerEnv (.markFailed id) stock.toServer with
            ⟨error, failed⟩ | performed
          · exact framed (congrArg (fun outcome => outcome.2.clips) failed)
          · refine updated (congrArg (fun outcome => outcome.2.clips.rows) performed) fun row => ?_
            simp [ClipRow.counts, ClipRow.fail]
      | base op =>
          refine unchanged ?_
          cases op with
          | createPendingUpload new =>
              obtain ⟨-, fileBytes, impossible, -⟩ := permitted
              cases impossible
          | _ => exact permitted
      | _ => exact unchanged permitted
  | setSound clipId soundId =>
      cases failed : UploadOp.failure env (.setSound clipId soundId : UploadOp Url) with
      | some error =>
          refine framed ?_
          unfold UploadOp.exec
          rw [failed]
      | none =>
          have rows : (UploadOp.exec env (.setSound clipId soundId) stock.toLibrary).2.clips.rows =
              stock.clips.rows.map (Relational.Table.changeWhere (fun row => row.id = clipId)
                (ClipRow.setSound soundId)) := by
            unfold UploadOp.exec
            rw [failed]
            rfl
          exact updated rows fun row => Nat.le_refl _
  | linkHashtags clipId caption =>
      exact framed (congrArg (fun server : Server => server.clips)
        (Upload.exec_linkHashtags env clipId caption stock.toLibrary))
  | _ =>
      refine framed ?_
      unfold UploadOp.exec
      split <;> rfl

/-- The entry of a clip adds its size at most. -/
theorem originals_createPendingUpload_le {new : NewUpload} {fileBytes : Nat} {stock : Stock} :
    (exec env ⟨.base (.base (.createPendingUpload new)), fileBytes⟩ stock).2.originals actorId ≤
      stock.originals actorId + new.sizeBytes.toNat := by
  have entered : (exec env ⟨.base (.base (.createPendingUpload new)), fileBytes⟩ stock).2.clips =
      (Operation.exec env.toEnv (.createPendingUpload new) stock.toDb).2.clips := rfl
  unfold Stock.originals
  rw [entered]
  rcases Operation.exec_cases env.toEnv (.createPendingUpload new) stock.toDb with
    ⟨error, failed⟩ | performed
  · rw [failed]
    exact Nat.le_add_right _ _
  · rw [performed]
    change Relational.sumOf _ (List.filter _ (Relational.SerialTable.insert stock.clips
      (new.row env.now) fun _ => rfl).2.rows) ≤ _
    rcases stock.clips.insert_cases (new.row env.now) (fun _ => rfl) with
      ⟨-, -, rows⟩ | ⟨-, refused⟩
    · rw [rows, List.filter_append, Relational.sumOf_append, Relational.sumOf_filter _ [_]]
      have size : (new.row env.now stock.clips.next).originalBytes = new.sizeBytes.toNat := rfl
      simp only [Relational.sumOf_cons, Relational.sumOf_nil, size]
      split <;> omega
    · rw [refused]
      exact Nat.le_add_right _ _

end SizedOp

/-! ## Runs -/

section Run

variable {ι : Type} [DecidableEq ι] {setting : Option Value} {actorId : Nat}

/-- What happens in a run of uploads. -/
abbrev UploadEvent (ι Url : Type) : Type :=
  Effects.Event ι (@SizedOp.Result Url) Error (UploadEnv Url)

/-- How far the upload of a thread has come. -/
noncomputable def reservationOf (setting : Option Value) (actorId : Nat)
    (events : List (UploadEvent ι Url)) (thread : ι) : Reservation :=
  memories (fun _ => Reservation.protocol setting actorId) events thread

/-- Nobody else has passed the check without a clip to show for it, and every clip that
counts has an asset row for its original. -/
structure CheckedAlone (setting : Option Value) (actorId : Nat)
    (events : List (UploadEvent ι Url)) (stock : Stock) (thread : ι) : Prop where
  alone : ∀ other, other ≠ thread → ∀ fileBytes,
    reservationOf setting actorId events other ≠ .passed fileBytes
  registered : ∀ clip ∈ stock.clips, clip.counts actorId = true → stock.Registered clip

/-- The quota is fixed. -/
def FixedQuota (setting : Option Value) (_ : List (UploadEvent ι Url)) (_ : Stock) (_ : ι)
    (_ : SizedOp Url) (env : UploadEnv Url) : Prop :=
  env.setting Quota.key = setting

/-- The quota is fixed, and each check is made alone. -/
def ChecksAlone (setting : Option Value) (actorId : Nat) (events : List (UploadEvent ι Url))
    (stock : Stock) (thread : ι) (sized : SizedOp Url) (env : UploadEnv Url) : Prop :=
  env.setting Quota.key = setting ∧
    (sized.op = .storageUsed actorId → CheckedAlone setting actorId events stock thread)

/-- What is stored and what may be stored without another check are within the quota. -/
structure WithinQuota (setting : Option Value) (actorId : Nat)
    (events : List (UploadEvent ι Url)) (stock : Stock) : Prop where
  onCourse : ∀ thread, reservationOf setting actorId events thread ≠ .strayed
  covered : ∃ reserved,
    Total (fun thread => (reservationOf setting actorId events thread).bytes) reserved ∧
      stock.originals actorId + reserved ≤ Quota.bytes setting

namespace Reservation

variable {reservation : Reservation} {fileBytes : Nat} {op : UploadOp Url}
  {outcome : Except Error op.Result}

/-- An upload that reads the fixed quota does not stray. -/
theorem moved_ne_strayed
    (reads : ∀ value, (⟨op, outcome⟩ : Σ op : UploadOp Url, Except Error op.Result) =
      ⟨.base (.fetchSetting Quota.key), .ok value⟩ → value = setting)
    (onCourse : reservation ≠ .strayed) :
    reservation.moved setting fileBytes op outcome ≠ .strayed := by
  cases op with
  | base op =>
      cases op with
      | fetchSetting name =>
          cases outcome with
          | error error => exact onCourse
          | ok value =>
              rw [moved_fetchSetting]
              split
              next other =>
                obtain ⟨rfl, differs⟩ := other
                exact (differs (reads value rfl)).elim
              next => exact onCourse
      | base op =>
          cases op with
          | createPendingUpload new =>
              intro impossible
              cases impossible
          | _ => exact onCourse
      | _ => exact onCourse
  | storageUsed other =>
      cases outcome with
      | error error => exact onCourse
      | ok used =>
          rw [moved_storageUsed]
          split
          · simp
          · exact onCourse
  | _ => exact onCourse

/-- A call that enters no clip is permitted at any time if it is permitted once. -/
theorem Permits.entered (permitted : reservation.Permits actorId op)
    (noEntry : ∀ new, op ≠ .base (.base (.createPendingUpload new))) :
    Reservation.entered.Permits actorId op := by
  cases op with
  | base op =>
      cases op with
      | base op =>
          cases op with
          | createPendingUpload new => exact (noEntry new rfl).elim
          | _ => exact permitted
      | _ => exact permitted
  | _ => exact permitted

/-- Only the check makes a reservation. -/
theorem bytes_moved_le (noCheck : ∀ other, op ≠ .storageUsed other) :
    (reservation.moved setting fileBytes op outcome).bytes ≤ reservation.bytes := by
  have nonneg := reservation.bytes_nonneg
  cases op with
  | base op =>
      cases op with
      | fetchSetting name =>
          cases outcome with
          | error error => exact le_rfl
          | ok value =>
              rw [moved_fetchSetting]
              split
              · exact nonneg
              · exact le_rfl
      | base op =>
          cases op with
          | createPendingUpload new => exact nonneg
          | _ => exact le_rfl
      | _ => exact le_rfl
  | storageUsed other => exact (noCheck other rfl).elim
  | _ => exact le_rfl

end Reservation

theorem F64.le_of_saturate_le {value bound : Int} (bounded : bound < 9223372036854775807)
    (saturated : F64.saturate value ≤ bound) : value ≤ bound := by
  unfold F64.saturate at saturated
  split at saturated
  · omega
  · split at saturated <;> omega

/-- A setting that is read is the one that is stored. -/
theorem SizedOp.exec_fetchSetting {env : UploadEnv Url} {name : String} {fileBytes : Nat}
    {stock : Stock} {value : Option Value}
    (read : (SizedOp.exec env ⟨.base (.fetchSetting name), fileBytes⟩ stock).1 = .ok value) :
    value = env.setting name := by
  rcases WorkerOp.exec_cases env.toWorkerEnv (.fetchSetting name) stock.toServer with
    ⟨error, failed⟩ | performed
  · cases (congrArg Prod.fst failed).symm.trans read
  · exact (Except.ok.inj ((congrArg Prod.fst performed).symm.trans read)).symm

/-- The sum that is read is the one that is stored. -/
theorem SizedOp.exec_storageUsed {env : UploadEnv Url} {fileBytes : Nat} {stock : Stock}
    {used : Int}
    (read : (SizedOp.exec env ⟨.storageUsed actorId, fileBytes⟩ stock).1 = .ok used) :
    used = stock.storageUsed actorId := by
  unfold SizedOp.exec at read
  dsimp only at read
  split at read
  · cases read
  · unfold SizedOp.bigint at read
    split at read
    · exact (Except.ok.inj read).symm
    · cases read

namespace WithinQuota

variable {events events' : List (UploadEvent ι Url)} {stock stock' : Stock} {thread : ι}

/-- One thread comes further. -/
theorem of_update {new : Reservation} (within : WithinQuota setting actorId events stock)
    (updated : reservationOf setting actorId events' =
      Function.update (reservationOf setting actorId events) thread new)
    (onCourse : new ≠ .strayed)
    (room : ∀ reserved,
      Total (fun other => (reservationOf setting actorId events other).bytes) reserved →
      stock.originals actorId + reserved ≤ Quota.bytes setting →
      stock'.originals actorId +
          (reserved - (reservationOf setting actorId events thread).bytes + new.bytes) ≤
        Quota.bytes setting) :
    WithinQuota setting actorId events' stock' := by
  constructor
  · intro other
    rw [updated]
    by_cases same : other = thread
    · rw [same, Function.update_self]
      exact onCourse
    · rw [Function.update_of_ne same]
      exact within.onCourse other
  · obtain ⟨reserved, total, fits⟩ := within.covered
    refine ⟨_, ?_, room reserved total fits⟩
    have weights : (fun other => (reservationOf setting actorId events' other).bytes) =
        Function.update (fun other => (reservationOf setting actorId events other).bytes) thread
          new.bytes := by
      rw [updated]
      exact Function.comp_update Reservation.bytes _ thread _
    rw [weights]
    exact total.update thread new.bytes

theorem began (within : WithinQuota setting actorId events stock) (thread : ι) :
    WithinQuota setting actorId (events ++ [.began thread]) stock := by
  refine within.of_update (memories_began _ events thread) (by simp) fun reserved _ fits => ?_
  have nonneg := (reservationOf setting actorId events thread).bytes_nonneg
  rw [Reservation.bytes_checking]
  omega

/-- The check passes only if there is room for the file. -/
theorem checked {env : UploadEnv Url} {fileBytes : Nat}
    (within : WithinQuota setting actorId events stock)
    (bounded : Quota.bytes setting < 9223372036854775807)
    (checkedAlone : CheckedAlone setting actorId events stock thread)
    (updated : reservationOf setting actorId events' =
      Function.update (reservationOf setting actorId events) thread
        ((reservationOf setting actorId events thread).moved setting fileBytes
          (.storageUsed actorId : UploadOp Url)
          (SizedOp.exec env ⟨.storageUsed actorId, fileBytes⟩ stock).1)) :
    WithinQuota setting actorId events' stock := by
  have stays (same : (reservationOf setting actorId events thread).moved setting fileBytes
      (.storageUsed actorId : UploadOp Url)
      (SizedOp.exec env ⟨.storageUsed actorId, fileBytes⟩ stock).1 =
        reservationOf setting actorId events thread) :
      WithinQuota setting actorId events' stock := by
    rw [same] at updated
    refine within.of_update updated (within.onCourse thread) fun reserved _ fits => ?_
    omega
  cases answer : (SizedOp.exec env ⟨.storageUsed actorId, fileBytes⟩ stock).1 with
  | error error =>
      refine stays ?_
      rw [answer]
      rfl
  | ok used =>
      have isSum := SizedOp.exec_storageUsed answer
      by_cases passes : F64.saturate (used + fileBytes) ≤ Quota.bytes setting
      · rw [answer, Reservation.moved_storageUsed, if_pos passes] at updated
        refine within.of_update updated (by simp) fun reserved total fits => ?_
        have onlyHere : reserved = (reservationOf setting actorId events thread).bytes :=
          total.eq_of_alone fun other different =>
            Reservation.bytes_eq_zero (checkedAlone.alone other different)
        have covered := Stock.originals_le_storageUsed checkedAlone.registered
        have roomLeft := F64.le_of_saturate_le bounded passes
        rw [Reservation.bytes_passed]
        omega
      · refine stays ?_
        rw [answer, Reservation.moved_storageUsed, if_neg passes]

/-- The step lemma: one more call of an upload. -/
theorem called {sized : SizedOp Url} {env : UploadEnv Url}
    (within : WithinQuota setting actorId events stock)
    (bounded : Quota.bytes setting < 9223372036854775807)
    (allowed : (Reservation.protocol setting actorId).Allowed
      (reservationOf setting actorId events thread) sized)
    (admitted : ChecksAlone setting actorId events stock thread sized env) :
    WithinQuota setting actorId
      (events ++ [.called ⟨thread, sized, env, (SizedOp.exec env sized stock).1⟩])
      (SizedOp.exec env sized stock).2 := by
  have onCourse := within.onCourse thread
  have permitted : (reservationOf setting actorId events thread).Permits actorId sized.op :=
    allowed.resolve_left onCourse
  have updated : reservationOf setting actorId
      (events ++ [.called ⟨thread, sized, env, (SizedOp.exec env sized stock).1⟩]) =
      Function.update (reservationOf setting actorId events) thread
        ((reservationOf setting actorId events thread).moved setting sized.fileBytes sized.op
          (SizedOp.exec env sized stock).1) := by
    refine (memories_called _ events _).trans (congrArg (Function.update _ thread) ?_)
    exact if_neg onCourse
  have staysOnCourse : (reservationOf setting actorId events thread).moved setting
      sized.fileBytes sized.op (SizedOp.exec env sized stock).1 ≠ .strayed := by
    refine Reservation.moved_ne_strayed (fun value same => ?_) onCourse
    obtain ⟨op, fileBytes⟩ := sized
    obtain rfl : op = .base (.fetchSetting Quota.key) := congrArg Sigma.fst same
    have read := eq_of_heq (Sigma.mk.inj same).2
    rw [SizedOp.exec_fetchSetting read]
    exact admitted.1
  by_cases check : ∃ other, sized.op = .storageUsed other
  · obtain ⟨op, fileBytes⟩ := sized
    obtain ⟨other, isCheck⟩ := check
    dsimp only at isCheck
    subst isCheck
    cases (permitted : other = actorId)
    exact within.checked bounded (admitted.2 rfl) updated
  by_cases entry : ∃ new, sized.op = .base (.base (.createPendingUpload new))
  · obtain ⟨op, fileBytes⟩ := sized
    obtain ⟨new, isEntry⟩ := entry
    dsimp only at isEntry
    subst isEntry
    obtain ⟨-, size, passed, sameSize⟩ := permitted
    refine within.of_update updated staysOnCourse fun reserved _ fits => ?_
    have grown := @SizedOp.originals_createPendingUpload_le _ env actorId new fileBytes stock
    have entered : ((reservationOf setting actorId events thread).moved setting fileBytes
        (.base (.base (.createPendingUpload new)) : UploadOp Url)
        (SizedOp.exec env ⟨.base (.base (.createPendingUpload new)), fileBytes⟩ stock).1).bytes =
        0 := rfl
    rw [entered, passed, Reservation.bytes_passed]
    rw [sameSize, Int.toNat_natCast] at grown
    omega
  · refine within.of_update updated staysOnCourse fun reserved _ fits => ?_
    have neutral := permitted.entered fun new same => entry ⟨new, same⟩
    have shrunk := @SizedOp.originals_exec_le _ env actorId sized stock neutral
    have released := @Reservation.bytes_moved_le _ setting
      (reservationOf setting actorId events thread) sized.fileBytes sized.op
      (SizedOp.exec env sized stock).1 fun other same => check ⟨other, same⟩
    omega

end WithinQuota

/-- The run lemma. -/
theorem WithinQuota.run [DigestCrate] {start : Stock} {answer : Upload.Answer}
    {events : List (UploadEvent ι Url)}
    {final : Effects.Config ι (@SizedOp.Result Url) Error Upload.Answer Stock}
    (run : Serves SizedOp.exec (fun _ => Upload.IsUploadOf actorId)
      (ChecksAlone setting actorId) (Config.idle start answer) events final)
    (positive : 0 < Quota.bytes setting) (bounded : Quota.bytes setting < 9223372036854775807)
    (fits : start.originals actorId ≤ Quota.bytes setting) :
    WithinQuota setting actorId events final.state := by
  have starts (thread : ι) : ((Config.idle start answer :
      Effects.Config ι (@SizedOp.Result Url) Error Upload.Answer Stock).threads thread).Follows
        (Reservation.protocol setting actorId) (fun _ _ => True) .checking :=
    trivial
  have disciplined (_ : ι) (task : Program (@SizedOp.Result Url) Error Upload.Answer)
      (isUpload : Upload.IsUploadOf actorId task) :
      task.Follows (Reservation.protocol setting actorId) (fun _ _ => True) .checking := by
    obtain ⟨mediaDir, auth, multipart, sameActor, rfl⟩ := isUpload
    exact Upload.follows_sized (Upload.safe_upload positive mediaDir sameActor multipart)
  refine run.invariant starts disciplined (WithinQuota setting actorId) ?_ ?_ ?_
  · refine ⟨fun _ => by simp [reservationOf], 0, Total.zero fun _ => rfl, ?_⟩
    rwa [add_zero]
  · exact fun events stock thread within => within.began thread
  · exact fun events stock thread sized env within allowed admitted =>
      within.called bounded allowed admitted

/-- The storage quota. Where each upload is checked while no other is on its way from its
check to its clip, and while every clip that counts has the asset row of its original, the
originals stay within the quota. -/
theorem originals_within_quota [DigestCrate] {start : Stock} {answer : Upload.Answer}
    {events : List (UploadEvent ι Url)}
    {final : Effects.Config ι (@SizedOp.Result Url) Error Upload.Answer Stock}
    (run : Serves SizedOp.exec (fun _ => Upload.IsUploadOf actorId)
      (ChecksAlone setting actorId) (Config.idle start answer) events final)
    (positive : 0 < Quota.bytes setting) (bounded : Quota.bytes setting < 9223372036854775807)
    (fits : start.originals actorId ≤ Quota.bytes setting) :
    final.state.originals actorId ≤ Quota.bytes setting := by
  obtain ⟨reserved, total, covered⟩ := (WithinQuota.run run positive bounded fits).covered
  have nonneg := total.nonneg fun thread => Reservation.bytes_nonneg _
  omega

end Run

namespace Sample

/-- A quota of twelve bytes. -/
def twelveBytes : Option Value := some (.number (.float (12 / 1048576)))

/-- Another video of eight bytes. -/
def otherForm : Multipart :=
  ⟨[⟨some "file", [[0, 0, 0, 1, 0x66, 0x74, 0x79, 0x70]], false⟩], false⟩

/-- A world without faults, in which the uuids are these. -/
def underQuota (uuid : String) : UploadEnv NormalUrl where
  toWorkerEnv := { atSecond 0 with
    uuid := uuid
    setting := fun name => if name = Quota.key then twelveBytes else none }
  storageUsed _ := 0

def emptyStock : Stock where
  toLibrary := emptyLibrary
  assetBytes _ := none

/-- What a schedule of uploads consists of. -/
abbrev UploadAction (ι : Type) : Type :=
  Effects.Action ι (@SizedOp.Result NormalUrl) Error Upload.Answer (UploadEnv NormalUrl)

/-- The task of uploading a form. -/
def uploadTask (multipart : Multipart) : Program (@SizedOp.Result NormalUrl) Error Upload.Answer :=
  (Upload.upload "m" uploading multipart).sized (Upload.fileBytes multipart)

theorem uploadTask_isUploadOf (multipart : Multipart) :
    Upload.IsUploadOf 1 (uploadTask multipart) :=
  ⟨"m", uploading, multipart, rfl, rfl⟩

def uploadCalls {ι : Type} (thread : ι) (uuid : String) (count : Nat) : List (UploadAction ι) :=
  List.replicate count (.call thread (underQuota uuid))

/-- The setting is that of twelve bytes. -/
def readsTwelveBytes (env : UploadEnv NormalUrl) : Bool :=
  match env.setting Quota.key with
  | some (.number (.float value)) => value = 12 / 1048576
  | _ => false

theorem setting_of_readsTwelveBytes {env : UploadEnv NormalUrl}
    (reads : readsTwelveBytes env = true) : env.setting Quota.key = twelveBytes := by
  unfold readsTwelveBytes at reads
  split at reads
  next value isFloat => rw [isFloat, of_decide_eq_true reads, twelveBytes]
  next => cases reads

/-- The check is made while there is no clip. -/
def checksEmpty (stock : Stock) (sized : SizedOp NormalUrl) (env : UploadEnv NormalUrl) : Bool :=
  readsTwelveBytes env &&
    match sized.op with
    | .storageUsed _ => stock.clips.rows.isEmpty
    | _ => true

theorem sound_checksEmpty (events : List (UploadEvent Unit NormalUrl)) (stock : Stock)
    (thread : Unit) (sized : SizedOp NormalUrl) (env : UploadEnv NormalUrl)
    (passed : checksEmpty stock sized env = true) :
    ChecksAlone twelveBytes 1 events stock thread sized env := by
  obtain ⟨reads, empty⟩ := Bool.and_eq_true_iff.mp passed
  refine ⟨setting_of_readsTwelveBytes reads, fun isCheck => ⟨?_, ?_⟩⟩
  · exact fun other different => (different rfl).elim
  · intro clip member
    rw [isCheck] at empty
    have noClips := List.isEmpty_iff.mp empty
    rw [← Relational.SerialTable.mem_rows, noClips] at member
    cases member

/-- One upload, from its beginning to its end. -/
def oneUpload : List (UploadEvent Unit NormalUrl) ×
    Effects.Config Unit (@SizedOp.Result NormalUrl) Error Upload.Answer Stock :=
  Config.serve SizedOp.exec (fun _ stock _ sized env => checksEmpty stock sized env) []
    (Config.idle emptyStock (.ok 0)) (.begin () (uploadTask form) :: uploadCalls () "0" 10)

theorem oneUpload_run :
    Serves SizedOp.exec (fun _ => Upload.IsUploadOf 1) (ChecksAlone twelveBytes 1)
      (Config.idle emptyStock (.ok 0)) oneUpload.1 oneUpload.2 := by
  refine Config.serve_serves sound_checksEmpty _ (fun thread task begun => ?_) .start
  simp [uploadCalls] at begun
  rw [begun]
  exact uploadTask_isUploadOf form

/-- Two uploads that are both checked before either enters its clip. -/
def twoUploads : List (UploadEvent Bool NormalUrl) ×
    Effects.Config Bool (@SizedOp.Result NormalUrl) Error Upload.Answer Stock :=
  Config.serve SizedOp.exec (fun _ _ _ _ env => readsTwelveBytes env) []
    (Config.idle emptyStock (.ok 0))
    (.begin true (uploadTask form) :: uploadCalls true "0" 4 ++
      .begin false (uploadTask otherForm) :: uploadCalls false "1" 10 ++ uploadCalls true "0" 6)

theorem twoUploads_run :
    Serves SizedOp.exec (fun _ => Upload.IsUploadOf 1) (FixedQuota twelveBytes)
      (Config.idle emptyStock (.ok 0)) twoUploads.1 twoUploads.2 := by
  refine Config.serve_serves
    (fun _ _ _ _ env reads => setting_of_readsTwelveBytes reads) _ (fun thread task begun => ?_)
    .start
  simp [uploadCalls] at begun
  rcases begun with ⟨-, rfl⟩ | ⟨-, rfl⟩
  · exact uploadTask_isUploadOf form
  · exact uploadTask_isUploadOf otherForm

end Sample

open Sample in
theorem oneUpload_within_quota :
    oneUpload.2.state.originals 1 ≤ Quota.bytes twelveBytes ∧ oneUpload.2.state.originals 1 = 8 :=
  ⟨originals_within_quota oneUpload_run (by decide +kernel) (by decide +kernel)
    (by decide +kernel), by decide +kernel⟩

open Sample in
/-- Two checks see the same sum, and both uploads are stored. -/
theorem twoUploads_exceed_quota :
    ¬∀ (start : Stock) (events : List (UploadEvent Bool NormalUrl))
        (final : Effects.Config Bool (@SizedOp.Result NormalUrl) Error Upload.Answer Stock),
      start.originals 1 ≤ Quota.bytes twelveBytes →
      Serves SizedOp.exec (fun _ => Upload.IsUploadOf 1) (FixedQuota twelveBytes)
        (Config.idle start (.ok 0)) events final →
      final.state.originals 1 ≤ Quota.bytes twelveBytes := by
  intro within
  have exceeded : Quota.bytes twelveBytes < twoUploads.2.state.originals 1 := by
    decide +kernel
  exact absurd (within emptyStock _ _ (by decide +kernel) twoUploads_run) (not_le.mpr exceeded)

end TootTok
