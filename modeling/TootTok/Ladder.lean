import TootTok.NoteRoundTrip
import TootTok.ObjectIds
import TootTok.TurnProtocol

/-!
# The ladder of a clip

The files of a clip: its original, its poster, and a rendition for each height that its source
has. They are rows that the asset route finds by their names. How the rows of the pipeline make
up the ladder, and which statements leave it alone.
-/

namespace TootTok

open Effects
open Json (Value)
open Relational (Table)
open Routine

variable {Url : Type}

/-! ## The asset route -/

namespace MediaAssets

/-- `MediaAsset::find_for_clip_filename`. -/
def findForClipFilename (clipId : Int) (filename : String) (table : MediaAssetTable) :
    Option MediaAssetRow :=
  table.find? fun row => row.ofClip clipId && lastSegment row.path = filename

theorem findForClipFilename_isSome {clipId : Int} {filename : String} {table : MediaAssetTable} :
    (findForClipFilename clipId filename table).isSome = true ↔
      ∃ row ∈ table, row.ofClip clipId = true ∧ lastSegment row.path = filename := by
  unfold findForClipFilename
  rw [Table.find?_isSome]
  simp

end MediaAssets

/-! ## The ladder -/

theorem lastSegment_renditionKey (clipId : Int) {filename : String}
    (plain : '/' ∉ filename.toList) : lastSegment (renditionKey clipId filename) = filename := by
  refine @lastSegment_of_toList _ _ ("renditions/".toList ++ (toString clipId).toList) ?_ plain
  simp [renditionKey, String.toList_append]

namespace MediaAssetRow

/-- A rendition under the name of its file. -/
def IsRung (clipId : Int) (rendition : String) (row : MediaAssetRow) : Prop :=
  row.ofClip clipId = true ∧ row.kind = .videoMp4 ∧ row.rendition = rendition ∧
    lastSegment row.path = rendition ++ ".mp4"

/-- An original, whose file has a name of its own. -/
def IsOriginal (row : MediaAssetRow) : Prop :=
  row.kind = .videoMp4 ∧ row.rendition = "orig" ∧ lastSegment row.path ≠ "720.mp4"

/-- A poster. -/
def IsPoster (row : MediaAssetRow) : Prop :=
  row.kind = .poster ∧ lastSegment row.path = "poster.jpg"

end MediaAssetRow

/-- The assets of a clip are the renditions that have been produced so far, of
those that its height allows, the poster and the original. -/
structure Ladder
    (clipId : Int) (height : Int32) (produced : List String) (table : MediaAssetTable) :
    Prop where
  present : ∀ rendition ∈ produced, ∃ row ∈ table, row.IsRung clipId rendition
  only : ∀ row ∈ table, row.ofClip clipId = true →
    row.IsOriginal ∨ row.IsPoster ∨ ∃ rendition ∈ rungs height, row.IsRung clipId rendition

namespace Ladder

variable {clipId : Int} {height : Int32} {produced : List String}
  {table table' : MediaAssetTable}

/-- The renditions are ready. -/
def Ready (clipId : Int) (height : Int32) (table : MediaAssetTable) : Prop :=
  ∀ row ∈ table, ∀ rendition ∈ rungs height, row.IsRung clipId rendition → row.readyAt ≠ none

/-- Before the transcode there are originals at most. -/
theorem of_fresh (fresh : ∀ row ∈ table, row.ofClip clipId = true → row.IsOriginal) :
    Ladder clipId height [] table :=
  ⟨nofun, fun row member ofClip => .inl (fresh row member ofClip)⟩

/-- Among the ready files of the clip, a rendition is found if it was produced. -/
theorem any_ready_iff
    {clipId : Nat} (ladder : Ladder clipId height (rungs height) table)
    (ready : Ready clipId height table) {rendition : String} (known : rendition ≠ "orig") :
    ((table.rows.filter fun asset =>
        asset.clipId = clipId ∧ asset.kind = .videoMp4 ∧ asset.readyAt ≠ none).any
      fun asset => asset.rendition = rendition) = true ↔ rendition ∈ rungs height := by
  simp only [List.any_eq_true, List.mem_filter, decide_eq_true_eq]
  constructor
  · rintro ⟨row, ⟨member, sameClip, isVideo, -⟩, named⟩
    have ofClip : row.ofClip clipId = true := by simp [MediaAssetRow.ofClip, sameClip]
    rcases ladder.only row member ofClip with original | poster | ⟨other, isRung, -, -, name, -⟩
    · exact (known (named.symm.trans original.2.1)).elim
    · rw [poster.1] at isVideo
      cases isVideo
    · rwa [← named, name]
  · intro produced
    obtain ⟨row, member, isRung⟩ := ladder.present rendition produced
    obtain ⟨ofClip, isVideo, named, -⟩ := id isRung
    have sameClip : row.clipId = clipId := by simpa [MediaAssetRow.ofClip] using ofClip
    exact ⟨row, ⟨member, sameClip, isVideo, ready row member rendition produced isRung⟩, named⟩

/-- The rendition that is taken of those that are stored. -/
theorem find_taken
    (stored : String → Bool) (tallest : ¬stored "1080" = true) (smallest : stored "480" = true) :
    (["1080", "720", "480"].find? stored).map (· ++ ".mp4") =
      some ((if stored "720" = true then "720" else "480") ++ ".mp4") := by
  by_cases middle : stored "720" = true
  · simp [tallest, middle]
  · simp [tallest, middle, smallest]

/-- What is looked up with success: the largest rendition. -/
theorem largestVideoFilename_eq
    {clipId : Nat} (ladder : Ladder clipId height (rungs height) table)
    (ready : Ready clipId height table) :
    MediaAssets.largestVideoFilename clipId table =
      some ((if 720 ≤ height then "720" else "480") ++ ".mp4") := by
  have names : "1080" ≠ "orig" ∧ "720" ≠ "orig" ∧ "480" ≠ "orig" := by decide
  have tallest := ladder.any_ready_iff ready names.1
  have middle := ladder.any_ready_iff ready names.2.1
  have smallest := ladder.any_ready_iff ready names.2.2
  have noneTaller : "1080" ∉ rungs height := by
    intro isRung
    rcases mem_rungs isRung with impossible | impossible <;>
      exact absurd impossible (by decide)
  have produced : "480" ∈ rungs height := by
    unfold rungs
    split <;> simp
  have taken := find_taken
    (fun rendition => (table.rows.filter fun asset =>
      asset.clipId = clipId ∧ asset.kind = .videoMp4 ∧ asset.readyAt ≠ none).any
        fun asset => asset.rendition = rendition)
    (mt tallest.mp noneTaller) (smallest.mpr produced)
  have high : "720" ∈ rungs height ↔ 720 ≤ height := by
    unfold rungs
    split
    next tall => simp [tall]
    next low => simp [low]
  unfold MediaAssets.largestVideoFilename
  refine taken.trans ?_
  simp only [middle, high]

/-- The route finds a rendition by the name of its file. -/
theorem find_rung
    (ladder : Ladder clipId height (rungs height) table) {rendition : String}
    (isRung : rendition ∈ rungs height) :
    (MediaAssets.findForClipFilename clipId (rendition ++ ".mp4") table).isSome = true := by
  obtain ⟨row, member, ofClip, -, -, named⟩ := ladder.present rendition isRung
  exact MediaAssets.findForClipFilename_isSome.mpr ⟨row, member, ofClip, named⟩

/-- The file of the default name exists if and only if the source is high enough. -/
theorem find_default_iff (ladder : Ladder clipId height (rungs height) table) :
    (MediaAssets.findForClipFilename clipId "720.mp4" table).isSome = true ↔ 720 ≤ height := by
  constructor
  · intro found
    obtain ⟨row, member, ofClip, named⟩ := MediaAssets.findForClipFilename_isSome.mp found
    rcases ladder.only row member ofClip with original | poster | ⟨rendition, isRung, -, -, -, name⟩
    · exact (original.2.2 named).elim
    · rw [poster.2] at named
      exact absurd named (by decide)
    · rw [named] at name
      rcases mem_rungs isRung with rfl | rfl
      · by_contra low
        simp [rungs, low] at isRung
      · exact absurd name (by decide)
  · intro high
    have isRung : "720" ∈ rungs height := by simp [rungs, high]
    have found := ladder.find_rung isRung
    have name : "720" ++ ".mp4" = "720.mp4" := by decide
    rwa [name] at found

/-! ### How it grows -/

/-- What the others do to the assets of a clip: none goes, and no more than an
original comes. -/
structure Spares (clipId : Int) (before after : MediaAssetTable) : Prop where
  kept : ∀ row ∈ before, row.ofClip clipId = true → row ∈ after
  added : ∀ row ∈ after, row.ofClip clipId = true → row ∈ before ∨ row.IsOriginal

theorem spared (ladder : Ladder clipId height produced table)
    (spares : Spares clipId table table') : Ladder clipId height produced table' := by
  constructor
  · intro rendition isProduced
    obtain ⟨row, member, isRung⟩ := ladder.present rendition isProduced
    exact ⟨row, spares.kept row member isRung.1, isRung⟩
  · intro row member ofClip
    rcases spares.added row member ofClip with old | original
    · exact ladder.only row old ofClip
    · exact .inl original

theorem Ready.spared (ready : Ready clipId height table) (spares : Spares clipId table table') :
    Ready clipId height table' := by
  intro row member rendition produced isRung
  rcases spares.added row member isRung.1 with old | original
  · exact ready row old rendition produced isRung
  · have isOrig : rendition = "orig" := isRung.2.2.1.symm.trans original.2.1
    rcases mem_rungs produced with rfl | rfl <;> exact absurd isOrig (by decide)

/-- A row that is stored under the key of a new one, or the new row itself. -/
theorem rows_of_insert
    {new : NewAsset} {clip : ClipRow} {row : MediaAssetRow}
    (inserted : MediaAssets.insert new clip table = (.ok row, table')) :
    ∀ other, other ∈ table' ↔
      other ∈ table ∨ other = ⟨clip.id, new.kind, new.rendition, new.path, none⟩ := by
  unfold MediaAssets.insert at inserted
  dsimp only at inserted
  split at inserted
  next grown added =>
    cases inserted
    exact fun other => Table.mem_insert? added
  next => cases inserted

/-- A produced rendition is there once its row has been created. -/
theorem create_rung
    (ladder : Ladder clipId height produced table) {rendition : String}
    (isRung : rendition ∈ rungs height) {clip : ClipRow} (ofClip : clip.hasId clipId = true)
    {row : MediaAssetRow}
    (created : MediaAssets.create (rungAsset clipId rendition) clip table = (.ok row, table')) :
    Ladder clipId height (produced ++ [rendition]) table' := by
  have plain : '/' ∉ (rendition ++ ".mp4").toList ∧ rendition ≠ "orig" := by
    rcases mem_rungs isRung with rfl | rfl <;> decide
  have newIsRung : MediaAssetRow.IsRung clipId rendition
      ⟨clip.id, .videoMp4, rendition, renditionKey clipId (rendition ++ ".mp4"), none⟩ :=
    ⟨ofClip, rfl, rfl, lastSegment_renditionKey clipId plain.1⟩
  unfold MediaAssets.create at created
  cases found : table.find? (MediaAssetRow.under (rungAsset clipId rendition)) with
  | some stored =>
    rw [found] at created
    cases created
    refine ⟨fun other isProduced => ?_, ladder.only⟩
    rcases List.mem_append.mp isProduced with earlier | isLast
    · exact ladder.present other earlier
    · cases List.mem_singleton.mp isLast
      have member := Table.mem_of_find?_eq_some found
      have under := Table.holds_of_find?_eq_some found
      have under : row.clipId = clipId ∧ row.kind = .videoMp4 ∧ row.rendition = rendition :=
        of_decide_eq_true under
      have storedOf : row.ofClip clipId = true := decide_eq_true under.1
      rcases ladder.only row member storedOf with original | poster | ⟨stored, -, isStored⟩
      · exact (plain.2 (under.2.2.symm.trans original.2.1)).elim
      · rw [poster.1] at under
        cases under.2.1
      · have same : stored = rendition := isStored.2.2.1.symm.trans under.2.2
        exact ⟨row, member, same ▸ isStored⟩
  | none =>
    rw [found] at created
    have rows := rows_of_insert created
    constructor
    · intro other isProduced
      rcases List.mem_append.mp isProduced with earlier | isLast
      · obtain ⟨kept, member, isKept⟩ := ladder.present other earlier
        exact ⟨kept, (rows kept).mpr (.inl member), isKept⟩
      · cases List.mem_singleton.mp isLast
        exact ⟨_, (rows _).mpr (.inr rfl), newIsRung⟩
    · intro other member otherOf
      rcases (rows other).mp member with old | rfl
      · exact ladder.only other old otherOf
      · exact .inr (.inr ⟨rendition, isRung, newIsRung⟩)

/-- The poster changes no rendition. -/
theorem create_poster
    (ladder : Ladder clipId height produced table) {clip : ClipRow} {row : MediaAssetRow}
    (created : MediaAssets.create (posterAsset clipId) clip table = (.ok row, table')) :
    Ladder clipId height produced table' := by
  unfold MediaAssets.create at created
  split at created
  next =>
    cases created
    exact ladder
  next =>
    have rows := rows_of_insert created
    constructor
    · intro rendition isProduced
      obtain ⟨kept, member, isKept⟩ := ladder.present rendition isProduced
      exact ⟨kept, (rows kept).mpr (.inl member), isKept⟩
    · intro other member otherOf
      rcases (rows other).mp member with old | rfl
      · exact ladder.only other old otherOf
      · exact .inr (.inl ⟨rfl, lastSegment_renditionKey clipId (by decide)⟩)

/-- Nor does the original. -/
theorem upsert_original
    (ladder : Ladder clipId height produced table)
    (within : ∀ rendition ∈ produced, rendition ∈ rungs height)
    {key : String} (ownName : lastSegment key ≠ "720.mp4") {clip : ClipRow} {row : MediaAssetRow}
    (upserted : MediaAssets.upsert ⟨clipId, .videoMp4, "orig", key⟩ clip table =
      (.ok row, table')) :
    Ladder clipId height produced table' := by
  unfold MediaAssets.upsert at upserted
  split at upserted
  next stored found =>
    cases upserted
    have moved (old : MediaAssetRow)
        (under : old.under ⟨clipId, .videoMp4, "orig", key⟩ = true) :
        old.kind = .videoMp4 ∧ old.rendition = "orig" := by
      simp only [MediaAssetRow.under, decide_eq_true_eq] at under
      exact under.2
    constructor
    · intro rendition isProduced
      obtain ⟨kept, member, isKept⟩ := ladder.present rendition isProduced
      refine ⟨_, Table.mem_update_of_mem (MediaAssetRow.keepsKeys_moveTo key) member, ?_⟩
      unfold Table.changeWhere
      split
      next under =>
        have isOrig := isKept.2.2.1.symm.trans (moved kept under).2
        rcases mem_rungs (within rendition isProduced) with rfl | rfl <;>
          exact absurd isOrig (by decide)
      next => exact isKept
    · intro other member otherOf
      obtain ⟨old, oldMember, rfl⟩ :=
        (@Table.mem_update _ _ _ _ _ (MediaAssetRow.keepsKeys_moveTo key) _).mp member
      unfold Table.changeWhere at otherOf ⊢
      split
      next under =>
        exact .inl ⟨(moved old under).1, (moved old under).2, ownName⟩
      next notUnder =>
        rw [if_neg notUnder] at otherOf
        exact ladder.only old oldMember otherOf
  next =>
    have rows := rows_of_insert upserted
    constructor
    · intro rendition isProduced
      obtain ⟨kept, member, isKept⟩ := ladder.present rendition isProduced
      exact ⟨kept, (rows kept).mpr (.inl member), isKept⟩
    · intro other member otherOf
      rcases (rows other).mp member with old | rfl
      · exact ladder.only other old otherOf
      · exact .inl ⟨rfl, rfl, ownName⟩

/-- Stamping the assets makes all of them ready. -/
theorem markReady (ladder : Ladder clipId height produced table) (now : DateTime) :
    Ladder clipId height produced (MediaAssets.markReadyForClip clipId now table) ∧
      ∀ row ∈ MediaAssets.markReadyForClip clipId now table, row.ofClip clipId = true →
        row.readyAt ≠ none := by
  have stamped : ∀ row ∈ MediaAssets.markReadyForClip clipId now table, ∃ old ∈ table,
      row.ofClip clipId = old.ofClip clipId ∧ row.kind = old.kind ∧
        row.rendition = old.rendition ∧ row.path = old.path ∧
        (row.ofClip clipId = true → row.readyAt ≠ none) := by
    intro row member
    obtain ⟨old, oldMember, rfl⟩ :=
      (@Table.mem_update _ _ _ _ _ (MediaAssetRow.keepsKeys_stamp now) _).mp member
    refine ⟨old, oldMember, ?_⟩
    unfold Table.changeWhere
    split
    next => exact ⟨rfl, rfl, rfl, rfl, fun _ => by simp [MediaAssetRow.stamp]⟩
    next other =>
      refine ⟨rfl, rfl, rfl, rfl, fun ofClip notReady => ?_⟩
      simp [ofClip, notReady] at other
  refine ⟨⟨fun rendition isProduced => ?_, fun row member ofClip => ?_⟩, ?_⟩
  · obtain ⟨row, member, isRung⟩ := ladder.present rendition isProduced
    refine ⟨_, Table.mem_update_of_mem (MediaAssetRow.keepsKeys_stamp now) member, ?_⟩
    unfold Table.changeWhere
    split <;> exact isRung
  · obtain ⟨old, oldMember, sameClip, sameKind, sameRendition, samePath, -⟩ := stamped row member
    have was := ladder.only old oldMember (sameClip ▸ ofClip)
    unfold MediaAssetRow.IsOriginal MediaAssetRow.IsPoster MediaAssetRow.IsRung at was ⊢
    rwa [sameClip, sameKind, sameRendition, samePath]
  · intro row member
    obtain ⟨_, -, -, -, -, -, isReady⟩ := stamped row member
    exact isReady

end Ladder

end TootTok
