import TootTok.Server

/-!
# What becomes of assets and files

What a call of a background task makes of a stored asset row, which rows it adds, and which
files it leaves behind.
-/

namespace TootTok

open Effects
open Relational (Table)

variable {Url : Type}

/-! ## Statements -/

namespace MediaAssets

variable {new : NewAsset} {clip : ClipRow} {table : MediaAssetTable} {row : MediaAssetRow}

/-- The row that registers an asset. -/
def rowOf (new : NewAsset) (clip : ClipRow) : MediaAssetRow :=
  ⟨clip.id, new.kind, new.rendition, new.path, none⟩

theorem mem_insert (member : row ∈ (insert new clip table).2) :
    row ∈ table ∨ row = rowOf new clip := by
  unfold insert at member
  dsimp only at member
  split at member
  next added => exact (Table.mem_insert? added).mp member
  next => exact .inl member

theorem mem_insert_of_mem (member : row ∈ table) : row ∈ (insert new clip table).2 := by
  unfold insert
  dsimp only
  split
  next added => exact (Table.mem_insert? added).mpr (.inl member)
  next => exact member

theorem mem_create (member : row ∈ (create new clip table).2) :
    row ∈ table ∨ row = rowOf new clip := by
  unfold create at member
  split at member
  next => exact .inl member
  next => exact mem_insert member

theorem mem_create_of_mem (member : row ∈ table) : row ∈ (create new clip table).2 := by
  unfold create
  split
  · exact member
  · exact mem_insert_of_mem member

theorem mem_upsert (member : row ∈ (upsert new clip table).2) :
    row ∈ table ∨ (∃ old ∈ table, old.under new = true ∧ row = old.moveTo new.path) ∨
      row = rowOf new clip := by
  unfold upsert at member
  split at member
  next =>
    obtain ⟨old, stored, changed⟩ :=
      (@Table.mem_update _ _ _ _ _ (MediaAssetRow.keepsKeys_moveTo new.path) _).mp member
    unfold Table.changeWhere at changed
    split at changed
    next under => exact .inr (.inl ⟨old, stored, under, changed.symm⟩)
    next => exact .inl (changed ▸ stored)
  next => exact (mem_insert member).imp_right .inr

/-- An upsert leaves a stored row, or moves it to the new path. -/
theorem mem_upsert_of_mem (member : row ∈ table) :
    row ∈ (upsert new clip table).2 ∨
      row.under new = true ∧ row.moveTo new.path ∈ (upsert new clip table).2 := by
  unfold upsert
  split
  next =>
    have changed := @Table.mem_update_of_mem _ _ table (MediaAssetRow.under new) _
      (MediaAssetRow.keepsKeys_moveTo new.path) row member
    by_cases under : row.under new = true
    · exact .inr ⟨under, by rwa [Table.changeWhere, if_pos under] at changed⟩
    · exact .inl (by rwa [Table.changeWhere, if_neg under] at changed)
  next => exact .inl (mem_insert_of_mem member)

theorem insert_ok {result : MediaAssetRow} (inserted : (insert new clip table).1 = .ok result) :
    rowOf new clip ∈ (insert new clip table).2 := by
  unfold insert at inserted ⊢
  dsimp only at inserted ⊢
  split at inserted
  next added => exact (Table.mem_insert? added).mpr (.inr rfl)
  next => cases inserted

theorem under_rowOf (ofClip : clip.hasId new.clipId = true) :
    (rowOf new clip).under new = true := by
  have sameId : (clip.id : Int) = new.clipId := of_decide_eq_true ofClip
  simp [rowOf, MediaAssetRow.under, sameId]

/-- There is a row for what has been created. -/
theorem create_ok (ofClip : clip.hasId new.clipId = true) {result : MediaAssetRow}
    (created : (create new clip table).1 = .ok result) :
    ∃ row ∈ (create new clip table).2, row.under new = true := by
  unfold create at created ⊢
  split at created
  next row found => exact ⟨row, Table.mem_of_find?_eq_some found, Table.holds_of_find?_eq_some found⟩
  next => exact ⟨_, insert_ok created, under_rowOf ofClip⟩

/-- There is a row for what has been registered anew. -/
theorem upsert_ok (ofClip : clip.hasId new.clipId = true) {result : MediaAssetRow}
    (upserted : (upsert new clip table).1 = .ok result) :
    ∃ row ∈ (upsert new clip table).2, row.under new = true := by
  unfold upsert at upserted ⊢
  split at upserted
  next row found =>
    have under := Table.holds_of_find?_eq_some found
    refine ⟨row.moveTo new.path, ?_, under⟩
    have changed := @Table.mem_update_of_mem _ _ table (MediaAssetRow.under new) _
      (MediaAssetRow.keepsKeys_moveTo new.path) row (Table.mem_of_find?_eq_some found)
    rwa [Table.changeWhere, if_pos under] at changed
  next => exact ⟨_, insert_ok upserted, under_rowOf ofClip⟩

end MediaAssets

/-! ## Calls -/

namespace WorkerOp

/-- The asset that a call registers. -/
def registers : WorkerOp Url → Option NewAsset
  | .createAsset new | .upsertAsset new => some new
  | _ => none

/-- What a call makes of a stored asset: it may move it to another path, and stamp it. -/
structure AssetChange (op : WorkerOp Url) (old new : MediaAssetRow) : Prop where
  clipId : new.clipId = old.clipId
  kind : new.kind = old.kind
  rendition : new.rendition = old.rendition
  path : new.path = old.path ∨
    ∃ asset, op = .upsertAsset asset ∧ old.under asset = true ∧ new.path = asset.path
  stamped : old.readyAt ≠ none → new.readyAt ≠ none

theorem AssetChange.refl (op : WorkerOp Url) (row : MediaAssetRow) : AssetChange op row row :=
  ⟨rfl, rfl, rfl, .inl rfl, id⟩

/-- The call has registered the row. -/
def AddsAsset (op : WorkerOp Url) (row : MediaAssetRow) : Prop :=
  ∃ new, op.registers = some new ∧ row.under new = true ∧ row.path = new.path

theorem assets_onAssetsOf (server : Server) (id : Int)
    (query : ClipRow → MediaAssetTable → Except DbError MediaAssetRow × MediaAssetTable) :
    (server.onAssetsOf id query).2.mediaAssets = server.mediaAssets ∨
      ∃ clip : ClipRow, clip.hasId id = true ∧
        (server.onAssetsOf id query).2.mediaAssets = (query clip server.mediaAssets).2 := by
  unfold Server.onAssetsOf
  split
  next clip found => exact .inr ⟨clip, Table.holds_of_find?_eq_some found, rfl⟩
  next => exact .inl rfl

/-- The assets after a call: those before it, and the one that it registers. -/
theorem asset_after (env : WorkerEnv Url) (op : WorkerOp Url) (server : Server)
    {new : MediaAssetRow} (member : new ∈ (exec env op server).2.mediaAssets) :
    (∃ old ∈ server.mediaAssets, AssetChange op old new) ∨ AddsAsset op new := by
  by_cases writes : op.Writes .assets
  case neg =>
    have same : (exec env op server).2.mediaAssets = server.mediaAssets :=
      exec_frame .assets writes env server
    exact .inl ⟨new, same ▸ member, .refl op new⟩
  rcases exec_cases env op server with ⟨error, failed⟩ | performed
  · rw [failed] at member
    exact .inl ⟨new, member, .refl op new⟩
  rw [performed] at member
  cases op with
  | createAsset asset =>
      rcases assets_onAssetsOf server asset.clipId (MediaAssets.create asset) with
        same | ⟨clip, ofClip, created⟩
      · exact .inl ⟨new, same ▸ member, .refl _ new⟩
      · have isIn : new ∈ (MediaAssets.create asset clip server.mediaAssets).2 := created ▸ member
        rcases MediaAssets.mem_create isIn with stored | rfl
        · exact .inl ⟨new, stored, .refl _ new⟩
        · exact .inr ⟨asset, rfl, MediaAssets.under_rowOf ofClip, rfl⟩
  | upsertAsset asset =>
      rcases assets_onAssetsOf server asset.clipId (MediaAssets.upsert asset) with
        same | ⟨clip, ofClip, upserted⟩
      · exact .inl ⟨new, same ▸ member, .refl _ new⟩
      · have isIn : new ∈ (MediaAssets.upsert asset clip server.mediaAssets).2 :=
          upserted ▸ member
        rcases MediaAssets.mem_upsert isIn with stored | ⟨old, stored, under, rfl⟩ | rfl
        · exact .inl ⟨new, stored, .refl _ new⟩
        · exact .inl ⟨old, stored, rfl, rfl, rfl, .inr ⟨asset, rfl, under, rfl⟩, id⟩
        · exact .inr ⟨asset, rfl, MediaAssets.under_rowOf ofClip, rfl⟩
  | markAssetsReady clipId =>
      obtain ⟨old, stored, changed⟩ := (@Table.mem_update _ _ _ _ _
        (MediaAssetRow.keepsKeys_stamp env.now) _).mp member
      refine .inl ⟨old, stored, ?_⟩
      unfold Table.changeWhere at changed
      split at changed
      · subst changed
        exact ⟨rfl, rfl, rfl, .inl rfl, fun _ => Option.some_ne_none _⟩
      · exact changed ▸ .refl _ old
  | deleteAssets clipId => exact .inl ⟨new, (Table.mem_erase.mp member).1, .refl _ new⟩
  | _ => exact writes.elim

/-- What becomes of a stored asset, unless those of its clip are deleted. -/
theorem asset_survives (env : WorkerEnv Url) (op : WorkerOp Url) (server : Server)
    {old : MediaAssetRow} (stored : old ∈ server.mediaAssets)
    (spared : op ≠ .deleteAssets old.clipId) :
    ∃ new ∈ (exec env op server).2.mediaAssets, AssetChange op old new := by
  by_cases writes : op.Writes .assets
  case neg =>
    have same : (exec env op server).2.mediaAssets = server.mediaAssets :=
      exec_frame .assets writes env server
    exact ⟨old, same ▸ stored, .refl op old⟩
  rcases exec_cases env op server with ⟨error, failed⟩ | performed
  · exact ⟨old, by rwa [failed], .refl op old⟩
  rw [performed]
  cases op with
  | createAsset asset =>
      refine ⟨old, ?_, .refl _ old⟩
      rcases assets_onAssetsOf server asset.clipId (MediaAssets.create asset) with
        same | ⟨clip, -, created⟩
      · exact same ▸ stored
      · show old ∈ (server.onAssetsOf asset.clipId (MediaAssets.create asset)).2.mediaAssets
        rw [created]
        exact MediaAssets.mem_create_of_mem stored
  | upsertAsset asset =>
      show ∃ new ∈ (server.onAssetsOf asset.clipId (MediaAssets.upsert asset)).2.mediaAssets,
        AssetChange (.upsertAsset asset) old new
      rcases assets_onAssetsOf server asset.clipId (MediaAssets.upsert asset) with
        same | ⟨clip, -, upserted⟩
      · exact ⟨old, same ▸ stored, .refl _ old⟩
      · rw [upserted]
        rcases MediaAssets.mem_upsert_of_mem stored with kept | ⟨under, moved⟩
        · exact ⟨old, kept, .refl _ old⟩
        · exact ⟨_, moved, rfl, rfl, rfl, .inr ⟨asset, rfl, under, rfl⟩, id⟩
  | markAssetsReady clipId =>
      refine ⟨_, Table.mem_update_of_mem (MediaAssetRow.keepsKeys_stamp env.now) stored, ?_⟩
      unfold Table.changeWhere
      split
      · exact ⟨rfl, rfl, rfl, .inl rfl, fun _ => Option.some_ne_none _⟩
      · exact .refl _ old
  | deleteAssets clipId =>
      refine ⟨old, Table.mem_erase.mpr ⟨stored, ?_⟩, .refl _ old⟩
      exact decide_eq_false fun same => spared (congrArg _ same.symm)
  | _ => exact writes.elim

/-- A statement on the assets of a clip that answers has found the clip. -/
theorem onAssetsOf_ok {server : Server} {id : Int}
    {query : ClipRow → MediaAssetTable → Except DbError MediaAssetRow × MediaAssetTable}
    {result : MediaAssetRow}
    (succeeded : (checked (server.onAssetsOf id query) : Except Error _ × Server).1 = .ok result) :
    ∃ clip : ClipRow, clip.hasId id = true ∧ (query clip server.mediaAssets).1 = .ok result ∧
      (server.onAssetsOf id query).2.mediaAssets = (query clip server.mediaAssets).2 := by
  unfold checked Server.onAssetsOf at succeeded
  unfold Server.onAssetsOf
  split at succeeded
  next clip found =>
    refine ⟨clip, Table.holds_of_find?_eq_some found, ?_, rfl⟩
    simp only [Server.onAssets] at succeeded
    cases answer : (query clip server.mediaAssets).1 with
    | error error =>
        rw [answer] at succeeded
        cases succeeded
    | ok row =>
        rw [answer] at succeeded
        cases succeeded
        rfl
  next => cases succeeded

/-- There is a row for what a call has registered. -/
theorem registered_ok {env : WorkerEnv Url} {op : WorkerOp Url} {server : Server}
    {new : NewAsset} (registers : op.registers = some new) {result : op.Result}
    (succeeded : (exec env op server).1 = .ok result) :
    ∃ row ∈ (exec env op server).2.mediaAssets, row.under new = true := by
  have performed : exec env op server = perform env op server := by
    rcases exec_cases env op server with ⟨error, failed⟩ | performed
    · rw [failed] at succeeded
      cases succeeded
    · exact performed
  rw [performed] at succeeded ⊢
  cases op with
  | createAsset asset =>
      cases registers
      obtain ⟨clip, ofClip, created, table⟩ := onAssetsOf_ok succeeded
      show ∃ row ∈ (server.onAssetsOf new.clipId (MediaAssets.create new)).2.mediaAssets, _
      rw [table]
      exact MediaAssets.create_ok ofClip created
  | upsertAsset asset =>
      cases registers
      obtain ⟨clip, ofClip, upserted, table⟩ := onAssetsOf_ok succeeded
      show ∃ row ∈ (server.onAssetsOf new.clipId (MediaAssets.upsert new)).2.mediaAssets, _
      rw [table]
      exact MediaAssets.upsert_ok ofClip upserted
  | _ => cases registers

/-- The assets of a clip are ready once a call has stamped them. -/
theorem stamped_ok {env : WorkerEnv Url} {clipId : Int} {server : Server} {result : Unit}
    (succeeded : (exec env (.markAssetsReady clipId) server).1 = .ok result)
    {row : MediaAssetRow}
    (member : row ∈ (exec env (.markAssetsReady clipId) server).2.mediaAssets)
    (ofClip : row.ofClip clipId = true) : row.readyAt ≠ none := by
  rcases exec_cases env (.markAssetsReady clipId) server with ⟨error, failed⟩ | performed
  · rw [failed] at succeeded
    cases succeeded
  rw [performed] at member
  obtain ⟨old, -, changed⟩ := (@Table.mem_update _ _ _ _ _
    (MediaAssetRow.keepsKeys_stamp env.now) _).mp member
  unfold Table.changeWhere at changed
  split at changed
  next =>
    subst changed
    exact Option.some_ne_none _
  next unready =>
    subst changed
    intro isNone
    exact unready (by simp [ofClip, isNone])

/-! ## Files -/

/-- A file stays unless it is removed. -/
theorem file_survives (env : WorkerEnv Url) (op : WorkerOp Url) (server : Server)
    {path : String} (present : server.files path = true) (spared : op ≠ .removeFile path) :
    (exec env op server).2.files path = true := by
  by_cases writes : op.Writes .files
  case neg =>
    have same : (exec env op server).2.files = server.files := exec_frame .files writes env server
    rwa [same]
  rcases exec_cases env op server with ⟨error, failed⟩ | performed
  · rwa [failed]
  rw [performed]
  cases op with
  | writeFile target =>
      show Function.update server.files target true path = true
      by_cases same : path = target
      · rw [same, Function.update_self]
      · rwa [Function.update_of_ne same]
  | removeFile target =>
      show Function.update server.files target false path = true
      rwa [Function.update_of_ne fun same => spared (congrArg _ same.symm)]
  | base op => cases op <;> cases writes
  | _ => exact writes.elim

theorem file_written {env : WorkerEnv Url} {path : String} {server : Server} {result : Unit}
    (succeeded : (exec env (.writeFile path) server).1 = .ok result) :
    (exec env (.writeFile path) server).2.files path = true := by
  rcases exec_cases env (.writeFile path) server with ⟨error, failed⟩ | performed
  · rw [failed] at succeeded
    cases succeeded
  rw [performed]
  exact Function.update_self path true server.files

/-- What ffmpeg has read is a file. -/
theorem file_read {env : WorkerEnv Url} {input output : String} {server : Server}
    {result : Unit} (succeeded : (exec env (.ffmpeg input output) server).1 = .ok result) :
    (exec env (.ffmpeg input output) server).2.files input = true := by
  rcases exec_cases env (.ffmpeg input output) server with ⟨error, failed⟩ | performed
  · rw [failed] at succeeded
    cases succeeded
  rw [performed] at succeeded ⊢
  by_contra missing
  have missing : ¬server.files input = true := missing
  have refused : perform env (.ffmpeg input output) server =
      (.error (.other "no such file"), server) := by
    simp only [perform, onFile]
    rw [if_neg missing]
  rw [refused] at succeeded
  cases succeeded

end WorkerOp
end TootTok
