import TootTok.Listings

/-!
# Pagination

A client that follows the cursors of a listing receives every row once exactly
when each full page ends with a row whose cursor cuts the listing behind it.
Cursors carry whole seconds, so rows of one second can be lost or repeated.
-/

namespace TootTok

open Relational (Listing Complete AtPageEnds Traversal orderBy)
open Relational (join mem_join nodup_join nodup_selected)
open Relational (Table SerialTable)

/-! ## The cursor codec -/

/-- The second in which a time falls, from its start. -/
def DateTime.startOfSecond (time : DateTime) : DateTime :=
  ⟨time.timestamp * 1000000⟩

/-- The columns that a cursor can carry: a time from 1970 on that `chrono`
represents and a number of a `BIGINT` column. -/
def CursorAccepted (createdAt : DateTime) (id : Nat) : Prop :=
  0 ≤ createdAt.timestamp ∧ createdAt.timestamp ≤ 8210266876799 ∧ id < 0x8000000000000000

instance (createdAt : DateTime) (id : Nat) : Decidable (CursorAccepted createdAt id) := by
  unfold CursorAccepted
  infer_instance

theorem toDigits_ne_nil (number : Nat) : Nat.toDigits 10 number ≠ [] :=
  List.ne_nil_of_length_pos (Nat.length_toDigits_pos)

theorem isDigit_toDigits (number : Nat) : (Nat.toDigits 10 number).all Char.isDigit = true :=
  List.all_eq_true.mpr fun _ member =>
    Nat.isDigit_of_mem_toDigits (by decide) (by decide) member

theorem hyphen_not_mem_toDigits (number : Nat) : '-' ∉ Nat.toDigits 10 number :=
  fun member => absurd (List.all_eq_true.mp (isDigit_toDigits number) _ member) (by decide)

/-- Digits have no sign. -/
theorem splitSign_of_digits {text : List Char} (digits : text.all Char.isDigit = true) :
    splitSign text = (false, text) := by
  unfold splitSign
  split
  · simp at digits
  · simp at digits
  · rfl

theorem parseI64_toDigits (number : Nat) :
    parseI64 (Nat.toDigits 10 number) =
      if number < 0x8000000000000000 then some (number : Int) else none := by
  have value : Nat.ofDigitChars 10 (Nat.toDigits 10 number) 0 = number :=
    Nat.ofDigitChars_ten_toDigits
  unfold parseI64
  simp only [splitSign_of_digits (isDigit_toDigits number), toDigits_ne_nil, isDigit_toDigits,
    value, Bool.not_true, Bool.false_eq_true, or_self, if_false]
  by_cases fits : number < 0x8000000000000000
  · rw [if_pos fits, if_pos (by omega)]
  · rw [if_neg fits, if_neg (by omega)]

/-- Before 1970 the timestamp starts with a hyphen, and the cursor is refused. -/
theorem parseCursor_of_negative {createdAt : DateTime} {id : Nat}
    (negative : createdAt.timestamp < 0) : parseCursor (formatCursor createdAt id) = none := by
  have text : ∃ rest, (formatCursor createdAt id).toList = '-' :: rest := by
    unfold formatCursor
    cases secs : createdAt.timestamp with
    | ofNat number =>
        rw [secs] at negative
        exact absurd negative (Int.not_lt.mpr (Int.natCast_nonneg number))
    | negSucc number =>
        exact ⟨(Nat.repr (number + 1)).toList ++ '-' :: (toString id).toList, by
          simp [Int.toString_eq_repr, Int.repr, String.toList_append]⟩
  obtain ⟨rest, text⟩ := text
  have empty : parseI64 [] = none := rfl
  simp [parseCursor, text, empty]

theorem parseCursor_of_nonneg {createdAt : DateTime} {id secs : Nat}
    (isSecs : createdAt.timestamp = secs) :
    parseCursor (formatCursor createdAt id) =
      (parseI64 (Nat.toDigits 10 secs)).bind fun secs =>
        (parseI64 (Nat.toDigits 10 id)).bind fun id =>
          (timestampOpt secs).map fun time => keyset time id := by
  have text : (formatCursor createdAt id).toList =
      Nat.toDigits 10 secs ++ '-' :: Nat.toDigits 10 id := by
    simp [formatCursor, isSecs, Int.toString_eq_repr, Int.repr, String.toList_append]
  have apart : ∀ char ∈ Nat.toDigits 10 secs, decide (char ≠ '-') = true := by
    intro char member
    refine decide_eq_true fun isHyphen => hyphen_not_mem_toDigits secs ?_
    exact isHyphen ▸ member
  unfold parseCursor
  rw [text, List.dropWhile_append_of_pos apart, List.takeWhile_append_of_pos apart]
  simp [Option.map_eq_bind]

/-- A cursor that is accepted stands for the start of the second. -/
theorem parseCursor_formatCursor {createdAt : DateTime} {id : Nat} {key : Keyset} :
    parseCursor (formatCursor createdAt id) = some key ↔
      CursorAccepted createdAt id ∧ key = keyset createdAt.startOfSecond id := by
  rcases Int.lt_or_le createdAt.timestamp 0 with negative | nonneg
  · rw [parseCursor_of_negative negative]
    refine iff_of_false (Option.some_ne_none _).symm ?_
    exact fun accepted => absurd accepted.1.1 (Int.not_le.mpr negative)
  · obtain ⟨secs, isSecs⟩ := Int.eq_ofNat_of_zero_le nonneg
    have start : createdAt.startOfSecond = ⟨(secs : Int) * 1000000⟩ := by
      unfold DateTime.startOfSecond
      rw [isSecs]
    rw [parseCursor_of_nonneg isSecs, parseI64_toDigits, parseI64_toDigits, start]
    unfold CursorAccepted timestampOpt
    rw [isSecs]
    constructor
    · intro parsed
      obtain ⟨_, secsParsed, parsed⟩ := Option.bind_eq_some_iff.mp parsed
      obtain ⟨secsFits, isSame⟩ := Option.ite_none_right_eq_some.mp secsParsed
      cases isSame
      obtain ⟨_, idParsed, parsed⟩ := Option.bind_eq_some_iff.mp parsed
      obtain ⟨idFits, isId⟩ := Option.ite_none_right_eq_some.mp idParsed
      obtain ⟨time, represented, rfl⟩ := Option.map_eq_some_iff.mp parsed
      obtain ⟨inTime, isTime⟩ := Option.ite_none_right_eq_some.mp represented
      cases isId
      cases isTime
      exact ⟨⟨by omega, inTime.2, idFits⟩, rfl⟩
    · rintro ⟨⟨-, inTime, idFits⟩, rfl⟩
      rw [if_pos (by omega), if_pos idFits]
      simp only [Option.bind_some]
      rw [if_pos (by omega)]
      rfl

theorem startOfSecond_le (time : DateTime) : time.startOfSecond.micros ≤ time.micros := by
  show time.micros / 1000000 * 1000000 ≤ time.micros
  omega

/-! ## Rows of a listing -/

section JoinActors

variable {Row : Type} {number : Row → Nat} {Clash : Row → Row → Prop} {actorId : Row → Nat}

/-- The number of a row determines it and the actor it points to. -/
theorem joinActors_eq
    {table : SerialTable number Clash} {db : Db} {left right : Row × ActorRow}
    (leftMember : left ∈ join table.rows db.actors.rows fun row actor => actor.id = actorId row)
    (rightMember : right ∈ join table.rows db.actors.rows fun row actor =>
      actor.id = actorId row)
    (same : number left.1 = number right.1) : left = right := by
  simp only [mem_join, decide_eq_true_eq] at leftMember rightMember
  have sameRow : left.1 = right.1 :=
    SerialTable.eq_of_number_eq leftMember.1 rightMember.1 same
  have sameActor : left.2 = right.2 := by
    refine SerialTable.eq_of_number_eq leftMember.2.1 rightMember.2.1 ?_
    rw [leftMember.2.2, rightMember.2.2, sameRow]
  exact Prod.ext sameRow sameActor

theorem nodup_joinActors
    {Item : Type} (table : SerialTable number Clash) (db : Db)
    (condition : Row × ActorRow → Bool) {select : Row × ActorRow → Item} {column : Item → Nat}
    (isNumber : ∀ row, column (select row) = number row.1) :
    ((((join table.rows db.actors.rows fun row actor => actor.id = actorId row).filter
      condition).map select).map column).Nodup := by
  refine nodup_selected (nodup_join _ (SerialTable.nodup_rows _) (SerialTable.nodup_rows _)) ?_
  intro left leftMember right rightMember _ _ same
  rw [isNumber, isNumber] at same
  exact joinActors_eq leftMember rightMember same

end JoinActors

theorem Db.nodup_clipsWithActors (db : Db) : db.clipsWithActors.Nodup :=
  nodup_join _ (SerialTable.nodup_rows _) (SerialTable.nodup_rows _)

theorem Db.clipsWithActors_eq {db : Db} {left right : ClipRow × ActorRow}
    (leftMember : left ∈ db.clipsWithActors) (rightMember : right ∈ db.clipsWithActors)
    (same : left.1.id = right.1.id) : left = right :=
  joinActors_eq leftMember rightMember same

/-- A listing shows no clip twice. -/
theorem Social.nodup_feedRows {db : Social} {listing : FeedListing} {rows : List FeedClipRow}
    (isListing : db.feedRows listing = some rows) : (rows.map FeedClipRow.id).Nodup := by
  have selected (condition : ClipRow × ActorRow → Bool) :
      (((db.clipsWithActors.filter condition).map FeedClipRow.ofJoin).map
        FeedClipRow.id).Nodup :=
    nodup_joinActors db.clips db.toDb condition fun _ => rfl
  cases listing with
  | following viewerActorId =>
      cases isListing
      refine nodup_selected (nodup_join _ db.nodup_clipsWithActors
        (Table.nodup_rows (fun _ => ⟨rfl, rfl⟩) _)) ?_
      intro left leftMember right rightMember leftHolds rightHolds same
      simp only [mem_join, decide_eq_true_eq] at leftMember rightMember leftHolds rightHolds
      have sameClip := Db.clipsWithActors_eq leftMember.1 rightMember.1 same
      refine Prod.ext sameClip (Table.eq_of_clash (fun _ _ => .imp Eq.symm Eq.symm)
        leftMember.2.1 rightMember.2.1 ⟨?_, ?_⟩)
      · rw [leftHolds.2.1, rightHolds.2.1]
      · rw [leftMember.2.2, rightMember.2.2, sameClip]
  | discover =>
      cases isListing
      exact selected _
  | «local» =>
      cases isListing
      exact selected _
  | tag tag =>
      cases isListing
      refine nodup_selected (nodup_join _ (nodup_join _ db.nodup_clipsWithActors
        (Table.nodup_rows (fun _ => rfl) _)) (SerialTable.nodup_rows _)) ?_
      intro left leftMember right rightMember leftHolds rightHolds same
      simp only [mem_join, decide_eq_true_eq] at leftMember rightMember leftHolds rightHolds
      have sameClip := Db.clipsWithActors_eq leftMember.1.1 rightMember.1.1 same
      have sameTag : left.2 = right.2 :=
        SerialTable.eq_of_clash (fun _ _ => Eq.symm) leftMember.2.1 rightMember.2.1
          (congrArg citext (leftHolds.1.trans rightHolds.1.symm))
      refine Prod.ext (Prod.ext sameClip ?_) sameTag
      have sameLinkClip : left.1.2.clipId = right.1.2.clipId := by
        rw [leftMember.1.2.2, rightMember.1.2.2, sameClip]
      have sameLinkTag : left.1.2.hashtagId = right.1.2.hashtagId := by
        rw [← leftMember.2.2, ← rightMember.2.2, sameTag]
      cases linkLeft : left.1.2
      cases linkRight : right.1.2
      simp_all
  | sound soundId =>
      cases isListing
      exact selected _
  | profile username domain =>
      obtain ⟨actor, -, rfl⟩ := Option.map_eq_some_iff.mp isListing
      exact selected _

theorem Social.nodup_notificationRows (db : Social) (viewerActorId : Nat) :
    ((db.notificationRows viewerActorId).map NotificationRow.id).Nodup :=
  nodup_joinActors db.notifications db.toDb _ fun _ => rfl

theorem Social.nodup_commentRows (db : Social) (clipId : Nat) :
    ((db.commentRows clipId).map CommentRow.id).Nodup :=
  nodup_joinActors db.comments db.toDb _ fun _ => rfl

theorem Social.nodup_bookmarkRows (db : Social) (viewerActorId : Nat) :
    ((db.bookmarkRows viewerActorId).map fun row => row.2.1.id).Nodup := by
  have selected := @nodup_selected _ _ _ _
    (fun row : Bookmark × ClipRow × ActorRow =>
      row.1.actorId = viewerActorId ∧ row.2.1.deletedAt = none ∧ row.2.1.Playable)
    id (fun row => row.2.1.id)
    (nodup_join (fun bookmark row => row.1.id = bookmark.clipId)
      (Table.nodup_rows (fun _ => ⟨rfl, rfl⟩) db.bookmarks) db.nodup_clipsWithActors) ?_
  · simpa [Social.bookmarkRows] using selected
  · intro left leftMember right rightMember leftHolds rightHolds same
    simp only [mem_join, decide_eq_true_eq] at leftMember rightMember leftHolds rightHolds
    refine Prod.ext (Table.eq_of_clash (fun _ _ => .imp Eq.symm Eq.symm)
      leftMember.1 rightMember.1 ⟨?_, ?_⟩)
      (Db.clipsWithActors_eq leftMember.2.1 rightMember.2.1 same)
    · rw [← leftMember.2.2, ← rightMember.2.2]
      exact same
    · rw [leftHolds.1, rightHolds.1]

/-! ## Clients -/

/-- The answers to a client that asks for pages of one size. -/
def serve {Item : Type} (endpoint : FeedParams → Except Response (Page Item))
    (page : Option UInt64) (cursor : Option String) : Option (List Item × Option String) :=
  match endpoint ⟨cursor, page⟩ with
  | .ok answer => some (answer.items, answer.nextCursor)
  | .error _ => none

section Serve

variable {Row Item : Type} {endpoint : FeedParams → Except Response (Page Item)}
  {page : Option UInt64} {rows : List Row} {key : Row → Keyset} {card : Row → Item}
  {format : Item → String} {limit : Nat}

/-- A listing with the newest rows first. -/
def newestListing (rows : List Row) (key : Row → Keyset) (card : Row → Item)
    (format : Item → String) (limit : Nat) : Listing Row Item String Keysetᵒᵈ where
  rows := rows
  key row := OrderDual.toDual (key row)
  card := card
  encode := format
  decode cursor := (parseCursor cursor).map OrderDual.toDual
  limit := limit

/-- A listing with the oldest rows first. -/
def oldestListing (rows : List Row) (key : Row → Keyset) (card : Row → Item)
    (format : Item → String) (limit : Nat) : Listing Row Item String Keyset where
  rows := rows
  key := key
  card := card
  encode := format
  decode := parseCursor
  limit := limit

/-- An endpoint that answers with the pages of a listing. -/
theorem serve_eq_respond
    {Key : Type} [LinearOrder Key] {listing : Listing Row Item String Key} {ofKeyset : Keyset → Key}
    (decodes : ∀ cursor, listing.decode cursor = (parseCursor cursor).map ofKeyset)
    (answers : ∀ cursor, endpoint ⟨cursor, page⟩ = (cursorKeyset ⟨cursor, page⟩).map fun key =>
      ⟨(listing.page (key.map ofKeyset)).map listing.card,
        nextCursor listing.encode ((listing.page (key.map ofKeyset)).map listing.card)
          listing.limit⟩) :
    serve endpoint page = listing.respond := by
  have isAnswer (rows : List Row) : listing.answer rows =
      (rows.map listing.card, nextCursor listing.encode (rows.map listing.card) listing.limit) := by
    simp [Listing.answer, nextCursor]
  funext cursor
  unfold serve Listing.respond
  rw [answers]
  cases cursor with
  | none => rw [isAnswer]; rfl
  | some cursor =>
      cases parsed : parseCursor cursor with
      | none => simp [cursorKeyset, decodes, parsed, Except.map]
      | some key => simp [cursorKeyset, decodes, parsed, Except.map, isAnswer]

theorem serve_newest
    (answers : ∀ cursor, endpoint ⟨cursor, page⟩ = (cursorKeyset ⟨cursor, page⟩).map fun before =>
      ⟨(descendingPage key before limit rows).map card,
        nextCursor format ((descendingPage key before limit rows).map card) limit⟩) :
    serve endpoint page = (newestListing rows key card format limit).respond := by
  refine serve_eq_respond (fun _ => rfl) fun cursor => ?_
  rw [answers]
  congr 1
  funext before
  cases before <;> rfl

theorem serve_oldest
    (answers : ∀ cursor, endpoint ⟨cursor, page⟩ = (cursorKeyset ⟨cursor, page⟩).map fun after =>
      ⟨(ascendingPage key after limit rows).map card,
        nextCursor format ((ascendingPage key after limit rows).map card) limit⟩) :
    serve endpoint page = (oldestListing rows key card format limit).respond := by
  refine @serve_eq_respond _ _ _ _ _ _ _ id (fun _ => Option.map_id_apply.symm) fun cursor => ?_
  rw [answers]
  congr 1
  funext after
  cases after <;> rfl

end Serve

theorem serve_feedPage {db : Social} {listing : FeedListing} {rows : List FeedClipRow}
    (isListing : db.feedRows listing = some rows) (page : Option UInt64) :
    serve (feedPage db listing) page =
      (newestListing rows FeedClipRow.key id
        (fun last => formatCursor last.clipCreatedAt last.id)
        (pageLimit page 20 50)).respond := by
  refine serve_newest fun cursor => ?_
  unfold feedPage
  rw [isListing]
  cases cursorKeyset ⟨cursor, page⟩ <;> simp [Except.map, renderFeed, feedLimit]

theorem serve_listNotifications (db : Social) (viewerActorId : Nat) (page : Option UInt64) :
    serve (listNotifications db viewerActorId) page =
      (newestListing (db.notificationRows viewerActorId) NotificationRow.key id
        (fun last => formatCursor last.createdAt last.id) (pageLimit page 30 50)).respond := by
  refine serve_newest fun cursor => ?_
  unfold listNotifications
  cases cursorKeyset ⟨cursor, page⟩ <;> simp [Except.map]

theorem serve_listComments (db : Social) (clipId : Nat) (page : Option UInt64) :
    serve (listComments db clipId) page =
      (oldestListing (db.commentRows clipId) CommentRow.key id
        (fun last => formatCursor last.createdAt last.id) (pageLimit page 50 100)).respond := by
  refine serve_oldest fun cursor => ?_
  unfold listComments
  cases cursorKeyset ⟨cursor, page⟩ <;> simp [Except.map]

theorem serve_listBookmarks (db : Social) (viewerActorId : Nat) (page : Option UInt64) :
    serve (listBookmarks db viewerActorId) page =
      (newestListing (db.bookmarkRows viewerActorId) bookmarkKey
        (fun row => FeedClipRow.ofJoin row.2)
        (fun last => formatCursor last.clipCreatedAt last.id) (pageLimit page 20 50)).respond := by
  refine serve_newest fun cursor => ?_
  unfold listBookmarks
  cases cursorKeyset ⟨cursor, page⟩ <;> simp [Except.map, renderFeed, feedLimit]

/-! ## Complete listings -/

theorem pageLimit_pos (page : Option UInt64) {default max : Int} (positive : 0 < max) :
    0 < pageLimit page default max := by
  have atLeastOne (size : Int) : 1 ≤ min (Max.max size 1) max :=
    le_min (le_max_right _ _) positive
  exact Int.lt_toNat.mpr (atLeastOne _)

theorem keyset_lt_keyset {left right : DateTime} {leftId rightId : Nat} :
    keyset left leftId < keyset right rightId ↔
      left.micros < right.micros ∨ left = right ∧ leftId < rightId := by
  unfold keyset
  rw [Prod.Lex.toLex_lt_toLex]
  cases left
  cases right
  simp

theorem keyset_le_keyset {left right : DateTime} {id : Nat} :
    keyset left id ≤ keyset right id ↔ left.micros ≤ right.micros := by
  unfold keyset
  rw [Prod.Lex.toLex_le_toLex, le_iff_lt_or_eq]
  simp [le_iff_lt_or_eq]

section Complete

variable {Row Item : Type} {rows : List Row} {createdAt shownAt : Row → DateTime}
  {number : Row → Nat} {card : Row → Item} {format : Item → String} {limit : Nat}

/-- Rows with distinct numbers have distinct keys. -/
theorem nodup_keyset (distinct : (rows.map number).Nodup) :
    (rows.map fun row => keyset (createdAt row) (number row)).Nodup := by
  have numbers : rows.map number =
      (rows.map fun row => keyset (createdAt row) (number row)).map fun key =>
        (ofLex key).2.toNat := by
    simp [keyset, Function.comp_def]
  rw [numbers] at distinct
  exact distinct.of_map

/-- The rows of a listing, newest first. -/
def newestFirst (key : Row → Keyset) (rows : List Row) : List Row :=
  orderBy (fun row => OrderDual.toDual (key row)) rows

/-- The cursor of a row that ends a page is accepted, and every row behind it was
created before the second of the cursor, or at its start with a smaller number. -/
def CutsBehind (createdAt shownAt : Row → DateTime) (number : Row → Nat) (last : Row)
    (after : List Row) : Prop :=
  CursorAccepted (shownAt last) (number last) ∧
    ∀ row ∈ after, (createdAt row).micros < (shownAt last).startOfSecond.micros ∨
      createdAt row = (shownAt last).startOfSecond ∧ number row < number last

theorem mem_of_orderBy_eq {Key : Type} [LinearOrder Key] {key : Row → Key}
    {before after : List Row} {last : Row}
    (split : orderBy key rows = before ++ last :: after) : last ∈ rows := by
  have ordered : last ∈ orderBy key rows := by
    rw [split]
    exact List.mem_append_right _ List.mem_cons_self
  exact Relational.mem_orderBy.mp ordered

/-- Cursors that carry a time of the row, rounded down to the second. -/
theorem newest_complete_iff
    (formats : ∀ row ∈ rows, format (card row) = formatCursor (shownAt row) (number row))
    (distinct : (rows.map number).Nodup) (cards : (rows.map card).Nodup) (positive : 0 < limit) :
    Complete
        (newestListing rows (fun row => keyset (createdAt row) (number row)) card format
          limit).respond
        card rows (fun earlier later =>
          keyset (createdAt later) (number later) < keyset (createdAt earlier) (number earlier)) ↔
      AtPageEnds limit (newestFirst (fun row => keyset (createdAt row) (number row)) rows)
        fun last after => (shownAt last).startOfSecond.micros ≤ (createdAt last).micros ∧
          CutsBehind createdAt shownAt number last after := by
  have keys : (rows.map fun row => OrderDual.toDual (keyset (createdAt row) (number row))).Nodup :=
    nodup_keyset distinct
  have shown : ((newestListing rows (fun row => keyset (createdAt row) (number row)) card format
      limit).ordered.map card).Nodup :=
    ((Relational.perm_orderBy _ _).map card).nodup_iff.mpr cards
  refine (Listing.complete_iff keys shown positive).trans (AtPageEnds.congr ?_)
  intro before last after split
  have isCursor := formats last (mem_of_orderBy_eq split)
  constructor
  · rintro ⟨cursor, decoded, notBehind, behind⟩
    obtain ⟨key, parsed, rfl⟩ := Option.map_eq_some_iff.mp decoded
    obtain ⟨accepted, rfl⟩ := parseCursor_formatCursor.mp (isCursor.symm ▸ parsed :
      parseCursor (formatCursor (shownAt last) (number last)) = some key)
    exact ⟨keyset_le_keyset.mp notBehind, accepted,
      fun row member => keyset_lt_keyset.mp (behind row member)⟩
  · rintro ⟨notBehind, accepted, behind⟩
    refine ⟨OrderDual.toDual (keyset (shownAt last).startOfSecond (number last)), ?_, ?_, ?_⟩
    · have parsed := parseCursor_formatCursor.mpr ⟨accepted, rfl⟩
      rw [← isCursor] at parsed
      exact Option.map_eq_some_iff.mpr ⟨_, parsed, rfl⟩
    · exact keyset_le_keyset.mpr notBehind
    · exact fun row member => keyset_lt_keyset.mpr (behind row member)

/-- A cursor made from the time by which rows are ordered is never too late. -/
theorem newest_complete_iff_cutsBehind {format : Row → String}
    (formats : ∀ row ∈ rows, format row = formatCursor (createdAt row) (number row))
    (distinct : (rows.map number).Nodup) (positive : 0 < limit) :
    Complete
        (newestListing rows (fun row => keyset (createdAt row) (number row)) id format
          limit).respond
        id rows (fun earlier later =>
          keyset (createdAt later) (number later) < keyset (createdAt earlier) (number earlier)) ↔
      AtPageEnds limit (newestFirst (fun row => keyset (createdAt row) (number row)) rows)
        (CutsBehind createdAt createdAt number) := by
  have cards : (rows.map id).Nodup := by
    rw [List.map_id]
    exact distinct.of_map
  refine (newest_complete_iff formats distinct cards positive).trans (AtPageEnds.congr ?_)
  exact fun _ _ _ _ => and_iff_right (startOfSecond_le _)

/-- With the oldest rows first, a cursor that is rounded down lies before its row. -/
theorem oldest_complete_iff {format : Row → String}
    (formats : ∀ row ∈ rows, format row = formatCursor (createdAt row) (number row))
    (distinct : (rows.map number).Nodup) (positive : 0 < limit) :
    Complete
        (oldestListing rows (fun row => keyset (createdAt row) (number row)) id format
          limit).respond
        id rows (fun earlier later =>
          keyset (createdAt earlier) (number earlier) < keyset (createdAt later) (number later)) ↔
      AtPageEnds limit (orderBy (fun row => keyset (createdAt row) (number row)) rows)
        fun last _ => CursorAccepted (createdAt last) (number last) ∧
          createdAt last = (createdAt last).startOfSecond := by
  have keys : (rows.map fun row => keyset (createdAt row) (number row)).Nodup :=
    nodup_keyset distinct
  have shown : ((oldestListing rows (fun row => keyset (createdAt row) (number row)) id format
      limit).ordered.map id).Nodup := by
    rw [List.map_id]
    exact (Relational.perm_orderBy _ _).nodup_iff.mpr distinct.of_map
  refine (Listing.complete_iff keys shown positive).trans (AtPageEnds.congr ?_)
  intro before last after split
  have isCursor := formats last (mem_of_orderBy_eq split)
  constructor
  · rintro ⟨cursor, decoded, notBehind, -⟩
    obtain ⟨accepted, rfl⟩ := parseCursor_formatCursor.mp (isCursor.symm ▸ decoded :
      parseCursor (formatCursor (createdAt last) (number last)) = some cursor)
    have notLater := keyset_le_keyset.mp notBehind
    exact ⟨accepted, congrArg DateTime.mk (le_antisymm notLater (startOfSecond_le _))⟩
  · rintro ⟨accepted, whole⟩
    have parsed := parseCursor_formatCursor.mpr ⟨accepted, rfl⟩
    rw [← isCursor, ← whole] at parsed
    refine ⟨_, parsed, le_rfl, ?_⟩
    have strict := Relational.orderBy_strict keys
    rw [show orderBy (fun row => keyset (createdAt row) (number row)) rows =
      before ++ last :: after from split] at strict
    exact (List.pairwise_cons.mp (List.pairwise_append.mp strict).2.1).1

end Complete

/-- Following the cursors of a feed or of the notifications yields every row once,
newest first, exactly when no page ends inside a second that later rows share. -/
theorem descending_pages_complete_iff (db : Social) (page : Option UInt64) :
    (∀ listing rows, db.feedRows listing = some rows →
      (Complete (serve (feedPage db listing) page) id rows
          (fun earlier later => later.key < earlier.key) ↔
        AtPageEnds (pageLimit page 20 50) (newestFirst FeedClipRow.key rows)
          (CutsBehind FeedClipRow.clipCreatedAt FeedClipRow.clipCreatedAt FeedClipRow.id))) ∧
      ∀ viewerActorId,
        (Complete (serve (listNotifications db viewerActorId) page) id
            (db.notificationRows viewerActorId) (fun earlier later => later.key < earlier.key) ↔
          AtPageEnds (pageLimit page 30 50)
            (newestFirst NotificationRow.key (db.notificationRows viewerActorId))
            (CutsBehind NotificationRow.createdAt NotificationRow.createdAt
              NotificationRow.id)) := by
  constructor
  · intro listing rows isListing
    rw [serve_feedPage isListing]
    exact newest_complete_iff_cutsBehind (fun _ _ => rfl) (Social.nodup_feedRows isListing)
      (pageLimit_pos page (by decide))
  · intro viewerActorId
    rw [serve_listNotifications]
    exact newest_complete_iff_cutsBehind (fun _ _ => rfl) (db.nodup_notificationRows viewerActorId)
      (pageLimit_pos page (by decide))

namespace Sample

def author : ActorRow where
  id := 1
  username := "a"
  domain := none
  actorType := .person
  publicKeyPem := ""
  privateKeyPem := none
  inboxUrl := ""
  sharedInboxUrl := none
  outboxUrl := ""
  followersUrl := ""
  displayName := none
  summary := none
  avatarPath := none
  isLocked := false
  suspendedAt := none
  deletedAt := none
  apId := "a"

/-- A ready clip of the author. -/
def readyClip (id micros : Nat) : ClipRow where
  id := id
  actorId := 1
  apId := toString id
  origin := .localUpload
  captionHtml := none
  visibility := .everyone
  status := .ready
  durationS := none
  sha256Hash := none
  width := none
  height := none
  sizeBytes := none
  remoteMediaUrl := none
  isSensitive := false
  cwText := none
  likeCount := 0
  commentCount := 0
  shareCount := 0
  soundId := none
  publishedAt := none
  deletedAt := none
  createdAt := ⟨micros⟩

/-- Two clips of one second, a comment within that second, and a bookmark of each
clip in later seconds. -/
def social : Social where
  toDb := { Db.empty with
    actors := ⟨⟨[author], List.pairwise_singleton _ _⟩, 2, by decide⟩
    clips := ⟨⟨[readyClip 1 200000, readyClip 2 700000], by decide +kernel⟩, 3, by decide⟩ }
  comments := ⟨⟨[⟨1, 1, 1, "", none, ⟨500000⟩⟩], List.pairwise_singleton _ _⟩, 2, by decide⟩
  notifications := .empty
  bookmarks := ⟨[⟨1, 1, ⟨5000000⟩⟩, ⟨2, 1, ⟨9000000⟩⟩], by decide⟩
  hashtags := .empty
  clipHashtags := .empty

end Sample

theorem both_clips_on_one_page :
    Complete (serve (feedPage Sample.social .discover) none) id Sample.social.discoverRows
      (fun earlier later => later.key < earlier.key) := by
  refine ((descending_pages_complete_iff Sample.social none).1 .discover _ rfl).mpr ?_
  refine Relational.atPageEnds_of_length_lt ?_
  rw [newestFirst, (Relational.perm_orderBy _ _).length_eq]
  decide

/-- The second of two clips of one second is lost between two pages. -/
theorem clip_lost_between_pages :
    ¬Complete (serve (feedPage Sample.social .discover) (some 1)) id Sample.social.discoverRows
      (fun earlier later => later.key < earlier.key) := by
  have firstPage : serve (feedPage Sample.social .discover) (some 1) none =
      some ([.ofJoin (Sample.readyClip 2 700000, Sample.author)], some "0-2") := by
    decide
  have secondPage : serve (feedPage Sample.social .discover) (some 1) (some "0-2") =
      some ([], none) := by
    decide
  rintro ⟨received, traversal, perm, -⟩
  obtain ⟨rest, isReceived, later⟩ := (Relational.traversal_more_iff firstPage).mp traversal
  rw [(Relational.traversal_last_iff secondPage).mp later, List.map_id] at isReceived
  have count := perm.length_eq
  rw [isReceived] at count
  exact absurd count (by decide)

/-- Following the cursors of the comments of a clip yields every comment once,
oldest first, exactly when every full page ends with a comment made at the start
of a second. -/
theorem comment_pages_complete_iff (db : Social) (clipId : Nat) (page : Option UInt64) :
    Complete (serve (listComments db clipId) page) id (db.commentRows clipId)
        (fun earlier later => earlier.key < later.key) ↔
      AtPageEnds (pageLimit page 50 100) (orderBy CommentRow.key (db.commentRows clipId))
        fun last _ => CursorAccepted last.createdAt last.id ∧
          last.createdAt = last.createdAt.startOfSecond := by
  rw [serve_listComments]
  exact oldest_complete_iff (fun _ _ => rfl) (db.nodup_commentRows clipId)
    (pageLimit_pos page (by decide))

/-- A client asks for the page of a comment within a second for ever. -/
theorem comment_repeated_for_ever :
    ¬Complete (serve (listComments Sample.social 1) (some 1)) id (Sample.social.commentRows 1)
      (fun earlier later => earlier.key < later.key) := by
  have firstPage : serve (listComments Sample.social 1) (some 1) none =
      some ([⟨1, "", ⟨500000⟩, "a", none⟩], some "0-1") := by
    decide
  have samePage : serve (listComments Sample.social 1) (some 1) (some "0-1") =
      some ([⟨1, "", ⟨500000⟩, "a", none⟩], some "0-1") := by
    decide
  rintro ⟨received, traversal, -, -⟩
  obtain ⟨rest, -, later⟩ := (Relational.traversal_more_iff firstPage).mp traversal
  exact Relational.not_traversal_of_loop samePage later

/-- Following the cursors of the bookmarks yields every bookmarked clip once, in
the order of the bookmarks, exactly when the creation of the clip that ends a page
stands between the bookmark of this clip and the later ones. -/
theorem bookmark_pages_complete_iff (db : Social) (viewerActorId : Nat) (page : Option UInt64) :
    Complete (serve (listBookmarks db viewerActorId) page) (fun row => FeedClipRow.ofJoin row.2)
        (db.bookmarkRows viewerActorId)
        (fun earlier later => bookmarkKey later < bookmarkKey earlier) ↔
      AtPageEnds (pageLimit page 20 50) (newestFirst bookmarkKey (db.bookmarkRows viewerActorId))
        fun last after => last.2.1.createdAt.startOfSecond.micros ≤ last.1.createdAt.micros ∧
          CutsBehind (fun row => row.1.createdAt) (fun row => row.2.1.createdAt)
            (fun row => row.1.clipId) last after := by
  have isClip : ∀ row ∈ db.bookmarkRows viewerActorId, row.2.1.id = row.1.clipId := by
    intro row member
    have joined := mem_join.mp (List.mem_of_mem_filter member)
    exact of_decide_eq_true joined.2.2
  have clips := db.nodup_bookmarkRows viewerActorId
  have distinct : ((db.bookmarkRows viewerActorId).map fun row => row.1.clipId).Nodup := by
    rwa [List.map_congr_left isClip] at clips
  have cards : ((db.bookmarkRows viewerActorId).map fun row => FeedClipRow.ofJoin row.2).Nodup := by
    refine List.Nodup.of_map FeedClipRow.id ?_
    rw [List.map_map]
    exact clips
  have formats : ∀ row ∈ db.bookmarkRows viewerActorId,
      formatCursor row.2.1.createdAt row.2.1.id =
        formatCursor row.2.1.createdAt row.1.clipId := by
    intro row member
    rw [isClip row member]
  rw [serve_listBookmarks]
  exact newest_complete_iff formats distinct cards (pageLimit_pos page (by decide))

/-- The older of two bookmarks is lost when its clip is newer than the bookmark. -/
theorem bookmark_lost_between_pages :
    ¬Complete (serve (listBookmarks Sample.social 1) (some 1))
      (fun row => FeedClipRow.ofJoin row.2) (Sample.social.bookmarkRows 1)
      (fun earlier later => bookmarkKey later < bookmarkKey earlier) := by
  have firstPage : serve (listBookmarks Sample.social 1) (some 1) none =
      some ([.ofJoin (Sample.readyClip 2 700000, Sample.author)], some "0-2") := by
    decide
  have secondPage : serve (listBookmarks Sample.social 1) (some 1) (some "0-2") =
      some ([], none) := by
    decide
  rintro ⟨received, traversal, perm, -⟩
  obtain ⟨rest, isReceived, later⟩ := (Relational.traversal_more_iff firstPage).mp traversal
  rw [(Relational.traversal_last_iff secondPage).mp later] at isReceived
  have shown := congrArg List.length isReceived
  rw [List.length_map, perm.length_eq] at shown
  exact absurd shown (by decide)

end TootTok
