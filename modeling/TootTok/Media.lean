import TootTok.Queries

/-!
# Media

The decisions of the media pipeline that need neither the database nor ffmpeg,
the keys of the store, and the statements that move a clip and its assets
through the pipeline. The statements on clips are guarded by the number of the
clip alone.
-/

namespace TootTok

open Relational (Table SerialTable)
open Relational.Table (KeepsKeys)

/-! ## Probing -/

namespace F64

def isFinite : F64 → Bool
  | .finite _ => true
  | _ => false

/-- `left > right`, false when either is a NaN. -/
def gt : F64 → F64 → Bool
  | .finite left, .finite right => right < left
  | .finite _, .infinite negative => negative
  | .infinite negative, .finite _ => !negative
  | .infinite left, .infinite right => !left && right
  | _, _ => false

end F64

/-- What ffprobe reports of a file. -/
structure ProbeInfo where
  durationS : Option F64
  width : Option Int32
  height : Option Int32
  hasAudio : Bool

inductive ProbeDecision
  | accept
  | reject (reason : String)
deriving DecidableEq

/-- Whether a probed file may proceed. -/
def ProbeInfo.decide (info : ProbeInfo) (capSeconds : F64) : ProbeDecision :=
  match info.durationS with
  | none => .reject "undecodable: no duration reported by ffprobe"
  | some duration =>
      if !duration.isFinite || !duration.gt .zero then
        .reject "undecodable: invalid duration reported by ffprobe"
      else if duration.gt capSeconds then .reject "duration exceeds clip_max_seconds cap"
      else .accept

/-- Default clip length cap in seconds. -/
def clipMaxSecondsDefault : F64 := .finite 180

/-! ## The ladder -/

/-- The renditions of a source of this height. -/
def rungs (height : Int32) : List String :=
  if 720 ≤ height then ["720", "480"] else ["480"]

theorem mem_rungs {height : Int32} {rendition : String} (isRung : rendition ∈ rungs height) :
    rendition = "720" ∨ rendition = "480" := by
  unfold rungs at isRung
  split at isRung
  · simpa using isRung
  · right
    simpa using isRung

theorem rungs_ne_nil (height : Int32) : rungs height ≠ [] := by
  unfold rungs
  split <;> simp

/-! ## The store -/

namespace Store

def containsDots (key : String) : Bool :=
  key.toList.tails.any fun rest => ['.', '.'].isPrefixOf rest

/-- Resolve a key below the root, refusing traversal. -/
def abs (root key : String) : Option String :=
  if containsDots key || ['/'].isPrefixOf key.toList then none
  else some (root ++ "/" ++ key)

theorem abs_injective {root left right path : String}
    (ofLeft : abs root left = some path) (ofRight : abs root right = some path) :
    left = right := by
  unfold abs at ofLeft ofRight
  split at ofLeft
  · cases ofLeft
  split at ofRight
  · cases ofRight
  have same : root ++ "/" ++ left = root ++ "/" ++ right :=
    (Option.some.inj ofLeft).trans (Option.some.inj ofRight).symm
  have texts := congrArg String.toList same
  simp only [String.toList_append, List.append_cancel_left_eq] at texts
  exact String.toList_injective texts

end Store

/-- The storage key of a produced file. -/
def renditionKey (clipId : Int) (filename : String) : String :=
  "renditions/" ++ toString clipId ++ "/" ++ filename

/-- The files that a failed transcode removes. -/
def partialFiles : List String := ["720.mp4", "480.mp4", "poster.jpg"]

/-! ## Statements on clips -/

namespace ClipRow

def hasId (id : Int) (row : ClipRow) : Bool := row.id = id

def stampProbe (durationS : Option F64) (width height : Option Int32) (row : ClipRow) :
    ClipRow :=
  { row with status := .processing, durationS := durationS, width := width, height := height }

def fail (row : ClipRow) : ClipRow := { row with status := .failed }

def publish (now : DateTime) (row : ClipRow) : ClipRow :=
  { row with status := .ready, publishedAt := row.publishedAt.or (some now) }

/-- A failed clip leaves the index of content hashes. -/
theorem keepsKeys_fail : KeepsKeys Clash fail := by
  intro row other
  simp [Clash, fail, HashIndexed]
  constructor <;> exact fun same => .inl same

end ClipRow

namespace Clips

/-- `UPDATE clips SET … WHERE id = id RETURNING *`, for a change that may bring the
clip back into the index of content hashes. -/
def updateStatus (id : Int) (change : ClipRow → ClipRow)
    (sameId : ∀ row, (change row).id = row.id) (table : ClipTable) :
    Except DbError (Option ClipRow) × ClipTable :=
  match SerialTable.update? table (ClipRow.hasId id) change sameId with
  | some table => (.ok (table.find? (ClipRow.hasId id)), table)
  | none => (.error .uniqueViolation, table)

/-- `Clip::update_probe_info`. -/
def updateProbeInfo (id : Int) (durationS : Option F64) (width height : Option Int32) :
    ClipTable → Except DbError (Option ClipRow) × ClipTable :=
  updateStatus id (ClipRow.stampProbe durationS width height) fun _ => rfl

/-- `Clip::mark_ready`. -/
def markReady (id : Int) (now : DateTime) :
    ClipTable → Except DbError (Option ClipRow) × ClipTable :=
  updateStatus id (ClipRow.publish now) fun _ => rfl

/-- `Clip::mark_failed`. -/
def markFailed (id : Int) (table : ClipTable) : Option ClipRow × ClipTable :=
  let table := SerialTable.update table (ClipRow.hasId id) ClipRow.fail (fun _ => rfl)
    ClipRow.keepsKeys_fail
  (table.find? (ClipRow.hasId id), table)

theorem mem_updateStatus
    {id : Int} {change : ClipRow → ClipRow} {sameId : ∀ row, (change row).id = row.id}
    {table : ClipTable} {row : ClipRow}
    (member : row ∈ (updateStatus id change sameId table).2) :
    row ∈ table ∨
      ∃ old ∈ table, (old.id : Int) = id ∧ row = change old := by
  unfold updateStatus at member
  split at member
  next updated =>
    rw [← SerialTable.mem_rows, SerialTable.update?_eq_some updated] at member
    obtain ⟨old, stored, rfl⟩ := List.mem_map.mp member
    unfold Table.changeWhere
    split
    next named => exact .inr ⟨old, stored, of_decide_eq_true named, rfl⟩
    next => exact .inl stored
  next => exact .inl member

/-- A deleted clip is in no index of content hashes, so that its status can be
written. -/
theorem updateStatus_of_deleted
    (change : ClipRow → ClipRow) {sameId : ∀ row, (change row).id = row.id}
    (sameApId : ∀ row, (change row).apId = row.apId)
    (sameDeletion : ∀ row, (change row).deletedAt = row.deletedAt)
    {table : ClipTable} {row : ClipRow} (stored : row ∈ table) (deleted : row.deletedAt ≠ none) :
    change row ∈ (updateStatus row.id change sameId table).2 := by
  have onlyRow {other : ClipRow} (otherStored : other ∈ table)
      (named : ClipRow.hasId row.id other = true) : other = row :=
    SerialTable.eq_of_number_eq otherStored stored (Int.ofNat.inj (of_decide_eq_true named))
  have unindexed : ¬(change row).HashIndexed := by
    rintro ⟨live, -⟩
    exact deleted ((sameDeletion row).symm.trans live)
  have succeeds : SerialTable.update? table (ClipRow.hasId row.id) change sameId ≠ none := by
    refine SerialTable.update?_ne_none _ ?_
    intro left leftStored right rightStored different notClash clash
    unfold Table.changeWhere at clash
    split at clash <;> split at clash
    next leftNamed rightNamed =>
      rw [onlyRow leftStored leftNamed, onlyRow rightStored rightNamed] at different
      exact different rfl
    next leftNamed _ =>
      rw [onlyRow leftStored leftNamed] at clash notClash
      rcases clash with sameId | ⟨indexed, -, -⟩
      · exact notClash (.inl ((sameApId row).symm.trans sameId))
      · exact unindexed indexed
    next _ rightNamed =>
      rw [onlyRow rightStored rightNamed] at clash notClash
      rcases clash with sameId | ⟨-, indexed, -⟩
      · exact notClash (.inl (sameId.trans (sameApId row)))
      · exact unindexed indexed
    next => exact notClash clash
  unfold updateStatus
  split
  next updated =>
    rw [← SerialTable.mem_rows, SerialTable.update?_eq_some updated]
    refine List.mem_map.mpr ⟨row, stored, ?_⟩
    simp [Table.changeWhere, ClipRow.hasId]
  next failed => exact (succeeds failed).elim

theorem mem_markFailed {id : Int} {table : ClipTable} {row : ClipRow} :
    row ∈ (markFailed id table).2 ↔
      ∃ old ∈ table, Table.changeWhere (ClipRow.hasId id) ClipRow.fail old = row :=
  List.mem_map

end Clips

/-! ## Statements on assets -/

/-- Columns of a produced or original file. -/
structure NewAsset where
  clipId : Int
  kind : MediaKind
  rendition : String
  path : String
deriving DecidableEq

def MediaAssetRow.ofClip (clipId : Int) (row : MediaAssetRow) : Bool := row.clipId = clipId

/-- The row under the unique index on clip, kind and rendition. -/
def MediaAssetRow.under (new : NewAsset) (row : MediaAssetRow) : Bool :=
  row.clipId = new.clipId ∧ row.kind = new.kind ∧ row.rendition = new.rendition

def MediaAssetRow.moveTo (path : String) (row : MediaAssetRow) : MediaAssetRow :=
  { row with path := path }

def MediaAssetRow.stamp (now : DateTime) (row : MediaAssetRow) : MediaAssetRow :=
  { row with readyAt := some now }

theorem MediaAssetRow.keepsKeys_moveTo (path : String) :
    KeepsKeys MediaAssetRow.Clash (MediaAssetRow.moveTo path) :=
  fun _ _ => ⟨id, id⟩

theorem MediaAssetRow.keepsKeys_stamp (now : DateTime) :
    KeepsKeys MediaAssetRow.Clash (MediaAssetRow.stamp now) :=
  fun _ _ => ⟨id, id⟩

namespace MediaAssets

/-- Insert the row of a stored clip, unready. -/
def insert (new : NewAsset) (clip : ClipRow) (table : MediaAssetTable) :
    Except DbError MediaAssetRow × MediaAssetTable :=
  let row : MediaAssetRow := ⟨clip.id, new.kind, new.rendition, new.path, none⟩
  match table.insert? row with
  | some table => (.ok row, table)
  | none => (.error .uniqueViolation, table)

/-- `MediaAsset::create`: a stored row is returned as it is. -/
def create (new : NewAsset) (clip : ClipRow) (table : MediaAssetTable) :
    Except DbError MediaAssetRow × MediaAssetTable :=
  match table.find? (MediaAssetRow.under new) with
  | some row => (.ok row, table)
  | none => insert new clip table

/-- `MediaAsset::upsert`: a stored row gets the new path and keeps its stamp. -/
def upsert (new : NewAsset) (clip : ClipRow) (table : MediaAssetTable) :
    Except DbError MediaAssetRow × MediaAssetTable :=
  match table.find? (MediaAssetRow.under new) with
  | some row =>
      (.ok (row.moveTo new.path),
        table.update (MediaAssetRow.under new) (MediaAssetRow.moveTo new.path)
          (MediaAssetRow.keepsKeys_moveTo new.path))
  | none => insert new clip table

/-- `MediaAsset::mark_ready_for_clip`. -/
def markReadyForClip (clipId : Int) (now : DateTime) (table : MediaAssetTable) :
    MediaAssetTable :=
  table.update (fun row => row.ofClip clipId && row.readyAt.isNone) (MediaAssetRow.stamp now)
    (MediaAssetRow.keepsKeys_stamp now)

/-- `MediaAsset::delete_for_clip`. -/
def deleteForClip (clipId : Int) (table : MediaAssetTable) : MediaAssetTable :=
  table.erase (MediaAssetRow.ofClip clipId)

end MediaAssets
end TootTok
