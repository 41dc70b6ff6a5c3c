import TootTok.Background

/-!
# The media collector

The sweep of the media directory: rows whose file is gone or whose clip is deleted, and
then files that no row refers to. The file of a row counts as gone when its metadata
cannot be read, whatever the reason.
-/

namespace TootTok

open Relational (Table)

/-! ## What the world answers -/

inductive IoError
  | notFound
  | other
deriving DecidableEq

/-- What the database and the file system answer to the calls of one sweep, each named
by the row or the file that it is about. A call without an error tells the truth. -/
structure SweepWorld where
  /-- One of the two queries at the start fails. -/
  queriesFail : Bool
  /-- The error of `metadata` on the file of a row. -/
  metadata : MediaAssetRow → Option IoError
  /-- The error of `remove_file` on the file of a row. -/
  removeFile : MediaAssetRow → Option IoError
  /-- The row cannot be deleted. -/
  deleteRowFails : MediaAssetRow → Bool
  /-- The files found below a root, by their names there, unless the walk fails. -/
  walkFiles : String → Option (List String)
  /-- The file is seen to be older than the grace window. -/
  isStale : String → Bool
  /-- The error of `remove_file` on a file without a row. -/
  removeUnreferenced : String → Option IoError

/-! ## The sweep -/

/-- `media_dir.join(path)`. -/
def joinPath (mediaDir path : String) : String :=
  if ['/'].isPrefixOf path.toList then path else mediaDir ++ "/" ++ path

namespace Server

/-- `c.deleted_at IS NOT NULL` for the clip of a row. -/
def clipDeleted (server : Server) (row : MediaAssetRow) : Bool :=
  server.clips.rows.any fun clip => clip.id = row.clipId ∧ clip.deletedAt ≠ none

def deleteAssetRow (row : MediaAssetRow) (server : Server) : Server :=
  { server with mediaAssets := server.mediaAssets.erase fun other => other = row }

end Server

section Sweep

variable (world : SweepWorld) (mediaDir : String)

/-- One row of the first pass. `deleted` was read with the row. -/
def sweepRow (server : Server) (entry : MediaAssetRow × Bool) : Server :=
  let (row, deleted) := entry
  let path := joinPath mediaDir row.path
  let fileGone := (world.metadata row).isSome || !server.files path
  if !fileGone && !deleted then server
  else
    let removed :=
      if !fileGone && (world.removeFile row).isNone then server.setFile path false else server
    if world.deleteRowFails row then removed else removed.deleteAssetRow row

/-- One file of the second pass, given relative to the media directory. -/
def sweepFile (referenced : List String) (server : Server) (file : String) : Server :=
  if file ∉ referenced ∧ world.isStale file then
    if (world.removeUnreferenced file).isNone then
      server.setFile (joinPath mediaDir file) false
    else server
  else server

/-- The files below one of the roots. -/
def sweepRoot (referenced : List String) (server : Server) (root : String) : Server :=
  match world.walkFiles root with
  | none => server
  | some names =>
      (names.map fun name => root ++ "/" ++ name).foldl
        (sweepFile world mediaDir referenced) server

def mediaGc (server : Server) : Server :=
  if world.queriesFail then server
  else
    let referenced := server.mediaAssets.rows.map MediaAssetRow.path
    let rows := server.mediaAssets.rows.map fun row => (row, server.clipDeleted row)
    ["original", "renditions"].foldl (sweepRoot world mediaDir referenced)
      (rows.foldl (sweepRow world mediaDir) server)

end Sweep

/-! ## What a sweep keeps -/

/-- The row is stored, and its file is there. -/
structure Intact (mediaDir : String) (row : MediaAssetRow) (server : Server) : Prop where
  stored : row ∈ server.mediaAssets
  file : server.files (joinPath mediaDir row.path) = true

/-- A sweep only removes. -/
structure Shrinks (before after : Server) : Prop where
  rows : ∀ row ∈ after.mediaAssets, row ∈ before.mediaAssets
  files : ∀ path, after.files path = true → before.files path = true

namespace Shrinks

theorem refl (server : Server) : Shrinks server server :=
  ⟨fun _ stored => stored, fun _ exists_ => exists_⟩

theorem trans {first second third : Server}
    (earlier : Shrinks first second) (later : Shrinks second third) : Shrinks first third :=
  ⟨fun row stored => earlier.rows row (later.rows row stored),
    fun path exists_ => earlier.files path (later.files path exists_)⟩

theorem setFile (path : String) (server : Server) : Shrinks server (server.setFile path false) := by
  refine ⟨fun _ stored => stored, ?_⟩
  intro other isFile
  unfold Server.setFile at isFile
  by_cases same : other = path
  · subst same
    simp at isFile
  · simpa [same] using isFile

theorem deleteAssetRow (row : MediaAssetRow) (server : Server) :
    Shrinks server (server.deleteAssetRow row) :=
  ⟨fun _ stored => (Table.mem_erase.mp stored).1, fun _ isFile => isFile⟩

theorem foldl {α : Type} {step : Server → α → Server}
    (shrinks : ∀ server entry, Shrinks server (step server entry)) (entries : List α)
    (server : Server) : Shrinks server (entries.foldl step server) := by
  induction entries generalizing server with
  | nil => exact refl server
  | cons entry entries inductionHypothesis =>
      exact (shrinks server entry).trans (inductionHypothesis _)

variable (world : SweepWorld) (mediaDir : String)

theorem sweepRow (server : Server) (entry : MediaAssetRow × Bool) :
    Shrinks server (TootTok.sweepRow world mediaDir server entry) := by
  unfold TootTok.sweepRow
  dsimp only
  split
  · exact refl server
  · have removed : Shrinks server
        (if (!((world.metadata entry.1).isSome ||
            !server.files (joinPath mediaDir entry.1.path)) &&
            (world.removeFile entry.1).isNone) = true then
          server.setFile (joinPath mediaDir entry.1.path) false
        else server) := by
      split
      · exact setFile _ server
      · exact refl server
    split
    · exact removed
    · exact removed.trans (deleteAssetRow entry.1 _)

theorem sweepFile (referenced : List String) (server : Server) (file : String) :
    Shrinks server (TootTok.sweepFile world mediaDir referenced server file) := by
  unfold TootTok.sweepFile
  split
  · split
    · exact setFile _ server
    · exact refl server
  · exact refl server

theorem sweepRoot (referenced : List String) (server : Server) (root : String) :
    Shrinks server (TootTok.sweepRoot world mediaDir referenced server root) := by
  unfold TootTok.sweepRoot
  split
  · exact refl server
  · exact foldl (sweepFile world mediaDir referenced) _ server

end Shrinks

/-- What every step for one of the entries keeps, the whole pass keeps. -/
theorem foldl_keeps {α : Type} {step : Server → α → Server} {holds : Server → Prop}
    {entries : List α}
    (kept : ∀ entry ∈ entries, ∀ server, holds server → holds (step server entry))
    {server : Server} (start : holds server) : holds (entries.foldl step server) := by
  induction entries generalizing server with
  | nil => exact start
  | cons entry entries inductionHypothesis =>
      refine inductionHypothesis ?_ (kept entry List.mem_cons_self server start)
      exact fun other member => kept other (List.mem_cons_of_mem _ member)

section Keeps

variable {world : SweepWorld} {mediaDir : String} {row : MediaAssetRow} {server : Server}

/-- A row survives the step for an entry if its own metadata is read, or it cannot be
deleted, and if the step does not remove its file on behalf of a deleted clip. -/
theorem Intact.sweepRow {entry : MediaAssetRow × Bool} (intact : Intact mediaDir row server)
    (own : entry.1 = row → entry.2 = false ∧
      (world.metadata row = none ∨ world.deleteRowFails row = true))
    (shared : entry.2 = true → joinPath mediaDir entry.1.path = joinPath mediaDir row.path →
      world.metadata entry.1 ≠ none ∨ world.removeFile entry.1 ≠ none) :
    Intact mediaDir row (TootTok.sweepRow world mediaDir server entry) := by
  obtain ⟨other, deleted⟩ := entry
  dsimp only at own shared
  unfold TootTok.sweepRow
  dsimp only
  by_cases gone : ((world.metadata other).isSome ||
      !server.files (joinPath mediaDir other.path)) = true
  · -- The file counts as gone, and only the row may go.
    simp only [gone, Bool.not_true, Bool.false_and, Bool.false_eq_true, if_false]
    split
    · exact intact
    next deletes =>
      refine ⟨Table.mem_erase.mpr ⟨intact.stored, ?_⟩, intact.file⟩
      refine decide_eq_false fun same => ?_
      rcases (own same.symm).2 with found | undeletable
      · rw [← same, found, intact.file] at gone
        cases gone
      · rw [same] at undeletable
        exact deletes undeletable
  · rw [Bool.not_eq_true] at gone
    rw [gone, Bool.not_false, Bool.true_and]
    cases deleted with
    | false => exact intact
    | true =>
        rw [if_neg (by decide), Bool.true_and]
        have different : row ≠ other := fun same => by
          cases (own same.symm).1
        have removed : Intact mediaDir row
            (if (world.removeFile other).isNone = true then
              server.setFile (joinPath mediaDir other.path) false
            else server) := by
          split
          next removes =>
            refine ⟨intact.stored, ?_⟩
            have apart : joinPath mediaDir row.path ≠ joinPath mediaDir other.path := by
              intro same
              rcases shared rfl same.symm with unread | unremoved
              · rw [Bool.or_eq_false_iff] at gone
                exact unread (Option.isNone_iff_eq_none.mp (Option.isSome_eq_false_iff.mp gone.1))
              · exact unremoved (Option.isNone_iff_eq_none.mp removes)
            change Function.update server.files _ false _ = true
            rw [Function.update_of_ne apart]
            exact intact.file
          · exact intact
        split
        · exact removed
        · refine ⟨Table.mem_erase.mpr ⟨removed.stored, decide_eq_false different⟩, ?_⟩
          exact removed.file

/-- The second pass spares the files of rows. -/
theorem Intact.sweepFile {referenced : List String} {file : String}
    (intact : Intact mediaDir row server) (isReferenced : row.path ∈ referenced)
    (relativeRow : ['/'].isPrefixOf row.path.toList = false)
    (relativeFile : ['/'].isPrefixOf file.toList = false) :
    Intact mediaDir row (TootTok.sweepFile world mediaDir referenced server file) := by
  unfold TootTok.sweepFile
  split
  next sweeps =>
    split
    · refine ⟨intact.stored, ?_⟩
      have apart : joinPath mediaDir row.path ≠ joinPath mediaDir file := by
        intro same
        unfold joinPath at same
        rw [relativeRow, relativeFile] at same
        have texts := congrArg String.toList same
        simp only [Bool.false_eq_true, if_false, String.toList_append,
          List.append_cancel_left_eq] at texts
        exact sweeps.1 (String.toList_injective texts ▸ isReferenced)
      change Function.update server.files _ false _ = true
      rw [Function.update_of_ne apart]
      exact intact.file
    · exact intact
  · exact intact

/-- The step for a row that counts as gone deletes it. -/
theorem not_mem_sweepRow {deleted : Bool} (unread : world.metadata row ≠ none)
    (deletes : world.deleteRowFails row = false) :
    row ∉ (TootTok.sweepRow world mediaDir server (row, deleted)).mediaAssets := by
  have gone : (world.metadata row).isSome = true := Option.isSome_iff_ne_none.mpr unread
  unfold TootTok.sweepRow
  dsimp only
  simp only [gone, deletes, Bool.true_or, Bool.not_true, Bool.false_and, Bool.false_eq_true,
    if_false]
  intro stored
  exact of_decide_eq_false (Table.mem_erase.mp stored).2 rfl

/-- The step for a row of a deleted clip leaves no file, if nothing fails. -/
theorem file_gone_sweepRow (read : world.metadata row = none)
    (removes : world.removeFile row = none) :
    (TootTok.sweepRow world mediaDir server (row, true)).files (joinPath mediaDir row.path) =
      false := by
  unfold TootTok.sweepRow
  dsimp only
  rw [read, removes]
  cases there : server.files (joinPath mediaDir row.path) with
  | false =>
      simp only [Option.isSome_none, Bool.false_or, Bool.not_false, Bool.not_true,
        Bool.false_and, Bool.false_eq_true, if_false]
      split
      · exact there
      · exact there
  | true =>
      simp only [Option.isSome_none, Bool.false_or, Bool.not_true, Bool.not_false,
        Bool.and_false, Bool.false_eq_true, if_false, Option.isNone_none, Bool.and_true,
        if_true]
      split
      · exact Function.update_self ..
      · exact Function.update_self ..

end Keeps

/-! ## When a sweep is safe -/

/-- For every row of a live clip whose file is there: its metadata is read, or its row
cannot be deleted; and no row of a deleted clip has the same file and gets it removed. -/
def SparesLive (world : SweepWorld) (mediaDir : String) (server : Server) : Prop :=
  ∀ row ∈ server.mediaAssets, server.clipDeleted row = false →
    server.files (joinPath mediaDir row.path) = true →
    (world.metadata row = none ∨ world.deleteRowFails row = true) ∧
    ∀ other ∈ server.mediaAssets, server.clipDeleted other = true →
      joinPath mediaDir other.path = joinPath mediaDir row.path →
      world.metadata other ≠ none ∨ world.removeFile other ≠ none

/-- A pass over entries shrinks, before and after one of them. -/
theorem not_of_foldl {α : Type} {step : Server → α → Server} {entries : List α} {entry : α}
    (member : entry ∈ entries) (shrinks : ∀ server entry, Shrinks server (step server entry))
    (server : Server) :
    ∃ before, Shrinks (step before entry) (entries.foldl step server) := by
  obtain ⟨earlier, later, rfl⟩ := List.append_of_mem member
  refine ⟨earlier.foldl step server, ?_⟩
  rw [List.foldl_append, List.foldl_cons]
  exact Shrinks.foldl shrinks later _

section Safe

variable {world : SweepWorld} {mediaDir : String} {server : Server}

/-- The second pass only shrinks what the step for a row has left. -/
theorem mediaGc_shrinks (queried : world.queriesFail = false) {row : MediaAssetRow}
    (stored : row ∈ server.mediaAssets) :
    ∃ before, Shrinks (sweepRow world mediaDir before (row, server.clipDeleted row))
      (mediaGc world mediaDir server) := by
  unfold mediaGc
  rw [queried, if_neg (by decide)]
  have entry : (row, server.clipDeleted row) ∈
      server.mediaAssets.rows.map fun row => (row, server.clipDeleted row) :=
    List.mem_map_of_mem stored
  obtain ⟨before, pass⟩ := not_of_foldl entry (Shrinks.sweepRow world mediaDir) server
  refine ⟨before, pass.trans ?_⟩
  exact Shrinks.foldl (Shrinks.sweepRoot world mediaDir _) _ _

end Safe

namespace Sample

/-- A world in which nothing fails and no file is old. -/
def quietSweep : SweepWorld where
  queriesFail := false
  metadata _ := none
  removeFile _ := none
  deleteRowFails _ := false
  walkFiles _ := some []
  isStale _ := false
  removeUnreferenced _ := none

def original : MediaAssetRow := ⟨1, .videoMp4, "orig", "original/a.mp4", none⟩

/-- The ready clip, its original and the file of it. -/
def withOriginal : Server where
  toDb := { (serverWith .ready .probe []).toDb with
    mediaAssets := ⟨[original], List.pairwise_singleton _ _⟩ }
  files path := path = "m/original/a.mp4"

end Sample
end TootTok
