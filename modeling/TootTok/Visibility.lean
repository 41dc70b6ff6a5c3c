import TootTok.Pagination

/-!
# Visibility of listed clips

Each listing of clips has a query of its own. The feeds and the profile grid show
public, playable clips of authors in good standing only. The sound page, the bookmarks
and the search leave out conditions, and show no other clips as long as the database
has none that those conditions would exclude.
-/

namespace TootTok

open Relational (join mem_join orderBy mem_orderBy)

/-! ## Trending and search -/

namespace Social

variable (db : Social)

/-- The clips of the last thirty days. -/
def trendingRows (now : DateTime) : List FeedClipRow :=
  (db.clipsWithActors.filter fun row =>
    Shown row ∧ now.micros - 30 * 24 * 60 * 60 * 1000000 < row.1.createdAt.micros).map .ofJoin

/-- The clips whose caption contains a text. -/
def searchClipRows (q : String) : List ClipRow :=
  db.clips.rows.filter fun row =>
    (row.captionHtml.any fun caption =>
      Actors.ilike ("%" ++ q ++ "%").toList caption.toList) ∧
    row.deletedAt = none ∧ row.visibility = .everyone ∧ row.status = .ready

end Social

/-- The trending feed. How the database compares the scores is left open: it computes
them in floating point. -/
def trendingFeed (better : FeedClipRow → FeedClipRow → Bool) (db : Social) (now : DateTime) :
    Page FeedClipRow :=
  let rows := ((db.trendingRows now).mergeSort better).take 60
  renderFeed rows rows.length

/-- The clip section of the search: at most twenty clips, in no particular order. -/
def searchClips (db : Social) (text : String) : Except Response (List ClipRow) :=
  let q := trimmed text
  if q.length < 2 then .error (.problem 400 "invalid query")
  else .ok ((db.searchClipRows q).take 20)

/-! ## The listings -/

/-- The listings of clips. -/
inductive ClipListing
  | feed (listing : FeedListing)
  | trending
  | bookmarks (viewerActorId : Nat)
  | search (text : String)
deriving DecidableEq

/-- The clips that a listing returns. -/
def returned (better : FeedClipRow → FeedClipRow → Bool) (db : Social) (now : DateTime)
    (params : FeedParams) : ClipListing → Except Response (List Nat)
  | .feed listing => do
      let page ← feedPage db listing params
      return page.items.map FeedClipRow.id
  | .trending => .ok ((trendingFeed better db now).items.map FeedClipRow.id)
  | .bookmarks viewerActorId => do
      let page ← listBookmarks db viewerActorId params
      return page.items.map FeedClipRow.id
  | .search text => do
      let clips ← searchClips db text
      return clips.map ClipRow.id

/-- The clips that the pages of a listing are cut from. -/
def listed (db : Social) (now : DateTime) : ClipListing → List Nat
  | .feed listing => ((db.feedRows listing).getD []).map FeedClipRow.id
  | .trending => (db.trendingRows now).map FeedClipRow.id
  | .bookmarks viewerActorId => (db.bookmarkRows viewerActorId).map fun row => row.2.1.id
  | .search text =>
      if (trimmed text).length < 2 then []
      else (db.searchClipRows (trimmed text)).map ClipRow.id

/-- A clip that is not deleted, public, ready or remote, of an author who is neither
suspended nor deleted. -/
def Social.Visible (db : Social) (id : Nat) : Prop :=
  ∃ row ∈ db.clipsWithActors, row.1.id = id ∧ Shown row

/-- What the query of a listing does not check holds of the clips that it selects. -/
def Social.Compensates (db : Social) : ClipListing → Prop
  | .feed (.sound soundId) => ∀ row ∈ db.clipsWithActors,
      row.1.soundId = some soundId → row.1.deletedAt = none → row.1.Playable →
      row.1.visibility = .everyone ∧ row.2.suspendedAt = none ∧ row.2.deletedAt = none
  | .bookmarks viewerActorId => ∀ bookmark ∈ db.bookmarks, bookmark.actorId = viewerActorId →
      ∀ row ∈ db.clipsWithActors, row.1.id = bookmark.clipId →
      row.1.deletedAt = none → row.1.Playable →
      row.1.visibility = .everyone ∧ row.2.suspendedAt = none ∧ row.2.deletedAt = none
  | .search text => 2 ≤ (trimmed text).length →
      ∀ clip ∈ db.searchClipRows (trimmed text), ∃ author ∈ db.actors,
        author.id = clip.actorId ∧ author.suspendedAt = none ∧ author.deletedAt = none
  | _ => True

section Pages

variable {db : Social} {now : DateTime} {better : FeedClipRow → FeedClipRow → Bool}
  {params : FeedParams} {listing : ClipListing} {ids : List Nat}

theorem mem_of_mem_descendingPage {Row : Type} {key : Row → Keyset} {before : Option Keyset}
    {limit : Nat} {rows : List Row} {row : Row}
    (member : row ∈ descendingPage key before limit rows) : row ∈ rows := by
  have ordered := List.mem_of_mem_take member
  exact List.mem_of_mem_filter (mem_orderBy.mp ordered)

/-- The first page of a short listing is the whole of it. -/
theorem mem_descendingPage_of_short {Row : Type} {key : Row → Keyset} {limit : Nat}
    {rows : List Row} (short : rows.length ≤ limit) {row : Row} :
    row ∈ descendingPage key none limit rows ↔ row ∈ rows := by
  unfold descendingPage
  have all : (rows.filter fun row => (none : Option Keyset).all fun cursor =>
      decide (key row < cursor)) = rows := List.filter_eq_self.mpr fun _ _ => rfl
  rw [all, List.take_of_length_le, mem_orderBy]
  rw [(Relational.perm_orderBy _ _).length_eq]
  exact short

/-- A listing returns clips that its query selects. -/
theorem listed_of_returned (answered : returned better db now params listing = .ok ids)
    {id : Nat} (member : id ∈ ids) : id ∈ listed db now listing := by
  cases listing with
  | feed listing =>
      dsimp only [returned, feedPage] at answered
      cases before : cursorKeyset params with
      | error problem =>
          rw [before] at answered
          cases answered
      | ok cursor =>
          rw [before] at answered
          dsimp only [listed]
          cases rows : db.feedRows listing with
          | none =>
              rw [rows] at answered
              cases answered
          | some rows' =>
              rw [rows] at answered
              cases answered
              obtain ⟨row, onPage, rfl⟩ := List.mem_map.mp member
              exact List.mem_map_of_mem (mem_of_mem_descendingPage onPage)
  | trending =>
      cases answered
      obtain ⟨row, onPage, rfl⟩ := List.mem_map.mp member
      have ranked := List.mem_of_mem_take onPage
      exact List.mem_map_of_mem (List.mem_mergeSort.mp ranked)
  | bookmarks viewerActorId =>
      dsimp only [returned, listBookmarks] at answered
      cases before : cursorKeyset params with
      | error problem =>
          rw [before] at answered
          cases answered
      | ok cursor =>
          rw [before] at answered
          cases answered
          obtain ⟨card, onPage, rfl⟩ := List.mem_map.mp member
          obtain ⟨row, inPage, rfl⟩ := List.mem_map.mp onPage
          exact List.mem_map.mpr ⟨row, mem_of_mem_descendingPage inPage, rfl⟩
  | search text =>
      dsimp only [returned, searchClips] at answered
      dsimp only [listed]
      by_cases short : (trimmed text).length < 2
      · rw [if_pos short] at answered
        cases answered
      · rw [if_neg short] at answered ⊢
        cases answered
        obtain ⟨row, taken, rfl⟩ := List.mem_map.mp member
        exact List.mem_map_of_mem (List.mem_of_mem_take taken)

/-- A short listing returns all clips that its query selects. -/
theorem returned_of_short (untrending : listing ≠ .trending)
    (short : (listed db now listing).length ≤ 20)
    (answered : returned better db now ⟨none, none⟩ listing = .ok ids)
    {id : Nat} (member : id ∈ listed db now listing) : id ∈ ids := by
  cases listing with
  | feed listing =>
      dsimp only [returned, feedPage] at answered
      dsimp only [listed] at member short
      cases rows : db.feedRows listing with
      | none =>
          rw [rows] at member
          cases member
      | some rows' =>
          rw [rows] at answered member short
          cases answered
          obtain ⟨row, selected, rfl⟩ := List.mem_map.mp member
          rw [Option.getD_some, List.length_map] at short
          exact List.mem_map_of_mem ((mem_descendingPage_of_short short).mpr selected)
  | trending => exact absurd rfl untrending
  | bookmarks viewerActorId =>
      cases answered
      obtain ⟨row, selected, rfl⟩ := List.mem_map.mp member
      dsimp only [listed] at short
      rw [List.length_map] at short
      refine List.mem_map.mpr ⟨.ofJoin row.2, List.mem_map.mpr ⟨row, ?_, rfl⟩, rfl⟩
      exact (mem_descendingPage_of_short short).mpr selected
  | search text =>
      dsimp only [returned, searchClips] at answered
      dsimp only [listed] at member short
      by_cases tooShort : (trimmed text).length < 2
      · rw [if_pos tooShort] at member
        cases member
      · rw [if_neg tooShort] at answered member short
        cases answered
        rw [List.length_map] at short
        rw [List.take_of_length_le short]
        exact member

end Pages

section Shown

variable {db : Social} {now : DateTime}

theorem visible_of_shown {row : ClipRow × ActorRow} (stored : row ∈ db.clipsWithActors)
    (shown : Shown row) : db.Visible row.1.id :=
  ⟨row, stored, rfl, shown⟩

/-- A visible clip is shown with its author. -/
theorem shown_of_visible {row : ClipRow × ActorRow} (stored : row ∈ db.clipsWithActors)
    (visible : db.Visible row.1.id) : Shown row := by
  obtain ⟨other, otherStored, same, shown⟩ := visible
  exact Db.clipsWithActors_eq otherStored stored same ▸ shown

theorem visible_of_mem_filter {condition : ClipRow × ActorRow → Bool} {id : Nat}
    (checks : ∀ row ∈ db.clipsWithActors, condition row = true → Shown row)
    (member : id ∈ ((db.clipsWithActors.filter condition).map FeedClipRow.ofJoin).map
      FeedClipRow.id) : db.Visible id := by
  obtain ⟨card, isCard, rfl⟩ := List.mem_map.mp member
  obtain ⟨row, selected, rfl⟩ := List.mem_map.mp isCard
  obtain ⟨stored, holds⟩ := List.mem_filter.mp selected
  exact visible_of_shown stored (checks row stored holds)

/-- The clips of a feed are visible; those of a sound are, if the database has no others
with it. -/
theorem visible_of_mem_feedRows {listing : FeedListing} {rows : List FeedClipRow}
    (compensates : db.Compensates (.feed listing)) (isListing : db.feedRows listing = some rows)
    {id : Nat} (member : id ∈ rows.map FeedClipRow.id) : db.Visible id := by
  cases listing with
  | following viewerActorId =>
      cases isListing
      obtain ⟨card, isCard, rfl⟩ := List.mem_map.mp member
      obtain ⟨row, selected, rfl⟩ := List.mem_map.mp isCard
      obtain ⟨joined, holds⟩ := List.mem_filter.mp selected
      exact visible_of_shown (mem_join.mp joined).1 (of_decide_eq_true holds).1
  | discover =>
      cases isListing
      exact visible_of_mem_filter (fun _ _ holds => of_decide_eq_true holds) member
  | «local» =>
      cases isListing
      exact visible_of_mem_filter (fun _ _ holds => (of_decide_eq_true holds).1) member
  | tag tag =>
      cases isListing
      obtain ⟨card, isCard, rfl⟩ := List.mem_map.mp member
      obtain ⟨row, selected, rfl⟩ := List.mem_map.mp isCard
      obtain ⟨joined, holds⟩ := List.mem_filter.mp selected
      have linked := (mem_join.mp joined).1
      exact visible_of_shown (mem_join.mp linked).1 (of_decide_eq_true holds).2
  | sound soundId =>
      cases isListing
      refine visible_of_mem_filter ?_ member
      intro row stored holds
      obtain ⟨sound, live, playable⟩ := of_decide_eq_true holds
      obtain ⟨isPublic, unsuspended, undeleted⟩ := compensates row stored sound live playable
      exact ⟨live, isPublic, unsuspended, undeleted, playable⟩
  | profile username domain =>
      obtain ⟨actor, found, rfl⟩ := Option.map_eq_some_iff.mp isListing
      refine visible_of_mem_filter ?_ member
      intro row stored holds
      obtain ⟨live, isPublic, playable, isAuthor⟩ := of_decide_eq_true holds
      -- The author of the row is the actor that the profile was found by.
      have author : row.2 = actor := by
        obtain ⟨-, isActor, ofClip⟩ := mem_join.mp stored
        refine Relational.SerialTable.eq_of_number_eq isActor
          (Relational.Table.mem_of_find?_eq_some found) ?_
        exact (of_decide_eq_true ofClip).trans isAuthor
      have profile : actor.username = username ∧ actor.domain = domain ∧
          actor.deletedAt = none ∧ actor.suspendedAt = none := by
        unfold Social.profileActor at found
        have holds := Relational.Table.holds_of_find?_eq_some found
        exact of_decide_eq_true holds
      rw [← author] at profile
      exact ⟨live, isPublic, profile.2.2.2, profile.2.2.1, playable⟩

/-- If the rows make up for what a query does not check, all its clips are visible. -/
theorem visible_of_compensates {listing : ClipListing} (compensates : db.Compensates listing)
    {id : Nat} (member : id ∈ listed db now listing) : db.Visible id := by
  cases listing with
  | feed listing =>
      dsimp only [listed] at member
      cases rows : db.feedRows listing with
      | none =>
          rw [rows] at member
          cases member
      | some rows' =>
          rw [rows] at member
          exact visible_of_mem_feedRows compensates rows member
  | trending => exact visible_of_mem_filter (fun _ _ holds => (of_decide_eq_true holds).1) member
  | bookmarks viewerActorId =>
      obtain ⟨row, selected, rfl⟩ := List.mem_map.mp member
      obtain ⟨joined, holds⟩ := List.mem_filter.mp selected
      obtain ⟨isBookmark, stored, ofBookmark⟩ := mem_join.mp joined
      obtain ⟨ofViewer, live, playable⟩ := of_decide_eq_true holds
      obtain ⟨isPublic, unsuspended, undeleted⟩ := compensates row.1 isBookmark ofViewer row.2
        stored (of_decide_eq_true ofBookmark) live playable
      exact visible_of_shown stored ⟨live, isPublic, unsuspended, undeleted, playable⟩
  | search text =>
      dsimp only [listed] at member
      by_cases short : (trimmed text).length < 2
      · rw [if_pos short] at member
        cases member
      · rw [if_neg short] at member
        obtain ⟨clip, selected, rfl⟩ := List.mem_map.mp member
        obtain ⟨author, isActor, ofClip, unsuspended, undeleted⟩ :=
          compensates (Nat.not_lt.mp short) clip selected
        obtain ⟨isClip, holds⟩ := List.mem_filter.mp selected
        obtain ⟨-, live, isPublic, ready⟩ := of_decide_eq_true holds
        have stored : (clip, author) ∈ db.clipsWithActors :=
          mem_join.mpr ⟨isClip, isActor, decide_eq_true ofClip⟩
        exact visible_of_shown stored ⟨live, isPublic, unsuspended, undeleted, .inl ready⟩

/-- If all clips of a query are visible, the rows make up for what it does not check. -/
theorem compensates_of_visible {listing : ClipListing}
    (visible : ∀ id ∈ listed db now listing, db.Visible id) : db.Compensates listing := by
  cases listing with
  | feed listing =>
      cases listing with
      | sound soundId =>
          intro row stored sound live playable
          have selected : row ∈ db.clipsWithActors.filter fun row =>
              row.1.soundId = some soundId ∧ row.1.deletedAt = none ∧ row.1.Playable :=
            List.mem_filter.mpr ⟨stored, decide_eq_true ⟨sound, live, playable⟩⟩
          have shown := shown_of_visible stored (visible row.1.id
            (List.mem_map.mpr ⟨.ofJoin row, List.mem_map_of_mem selected, rfl⟩))
          exact ⟨shown.2.1, shown.2.2.1, shown.2.2.2.1⟩
      | _ => trivial
  | trending => trivial
  | bookmarks viewerActorId =>
      intro bookmark isBookmark ofViewer row stored ofBookmark live playable
      have selected : (bookmark, row) ∈ db.bookmarkRows viewerActorId := by
        refine List.mem_filter.mpr ⟨?_, decide_eq_true ⟨ofViewer, live, playable⟩⟩
        exact mem_join.mpr ⟨isBookmark, stored, decide_eq_true ofBookmark⟩
      have shown := shown_of_visible stored
        (visible row.1.id (List.mem_map.mpr ⟨(bookmark, row), selected, rfl⟩))
      exact ⟨shown.2.1, shown.2.2.1, shown.2.2.2.1⟩
  | search text =>
      intro long clip selected
      dsimp only [listed] at visible
      rw [if_neg (Nat.not_lt.mpr long)] at visible
      obtain ⟨row, stored, same, shown⟩ := visible clip.id (List.mem_map_of_mem selected)
      obtain ⟨isClip, isActor, ofClip⟩ := mem_join.mp stored
      have sameClip : row.1 = clip := Relational.SerialTable.eq_of_number_eq isClip
        (List.mem_of_mem_filter selected) same
      refine ⟨row.2, isActor, ?_, shown.2.2.1, shown.2.2.2.1⟩
      rw [← sameClip]
      exact of_decide_eq_true ofClip

/-- A listing that is refused has no clip to hide. -/
theorem compensates_of_refused {better : FeedClipRow → FeedClipRow → Bool}
    {listing : ClipListing} {problem : Response}
    (refused : returned better db now ⟨none, none⟩ listing = .error problem) :
    db.Compensates listing := by
  cases listing with
  | feed listing =>
      cases listing with
      | sound soundId => cases refused
      | _ => trivial
  | trending => trivial
  | bookmarks viewerActorId => cases refused
  | search text =>
      intro long
      dsimp only [returned, searchClips] at refused
      rw [if_neg (Nat.not_lt.mpr long)] at refused
      cases refused

end Shown

/-- Every clip that a listing returns is not deleted, public, ready or remote, and of an
author who is neither suspended nor deleted, as long as the rows make up for what the
query of the listing does not check; and if they do not, a listing that fits on one page
returns another clip. -/
theorem listings_visible_iff (better : FeedClipRow → FeedClipRow → Bool) (db : Social)
    (now : DateTime) (listing : ClipListing) :
    (db.Compensates listing → ∀ params ids,
      returned better db now params listing = .ok ids → ∀ id ∈ ids, db.Visible id) ∧
    ((listed db now listing).length ≤ 20 →
      (∀ params ids, returned better db now params listing = .ok ids →
        ∀ id ∈ ids, db.Visible id) →
      db.Compensates listing) := by
  constructor
  · intro compensates params ids answered id member
    exact visible_of_compensates compensates (listed_of_returned answered member)
  · intro short visible
    cases outcome : returned better db now ⟨none, none⟩ listing with
    | error problem => exact compensates_of_refused outcome
    | ok ids =>
        by_cases trending : listing = .trending
        · subst trending
          trivial
        · have all : ∀ id ∈ listed db now listing, db.Visible id := by
            intro id member
            exact visible _ ids outcome id (returned_of_short trending short outcome member)
          exact compensates_of_visible all

namespace Sample

/-- A clip with the first sound. -/
def soundClip : ClipRow where
  id := 1
  actorId := 1
  apId := "c"
  origin := .localUpload
  captionHtml := none
  visibility := .everyone
  status := .ready
  durationS := none
  sha256Hash := none
  width := none
  height := none
  sizeBytes := none
  remoteMediaUrl := none
  isSensitive := false
  cwText := none
  likeCount := 0
  commentCount := 0
  shareCount := 0
  soundId := some 1
  publishedAt := none
  deletedAt := none
  createdAt := ⟨0⟩

/-- The author of the clip has been suspended. -/
def suspendedAuthor : ActorRow where
  id := 1
  username := "a"
  domain := none
  actorType := .person
  publicKeyPem := ""
  privateKeyPem := none
  inboxUrl := ""
  sharedInboxUrl := none
  outboxUrl := ""
  followersUrl := ""
  displayName := none
  summary := none
  avatarPath := none
  isLocked := false
  suspendedAt := some ⟨1⟩
  deletedAt := none
  apId := "a"

theorem soundClip_numbered : ∀ row ∈ [soundClip], ClipRow.id row < 2 := by
  intro row member
  rw [List.mem_singleton.mp member]
  exact Nat.lt_succ_self 1

theorem suspendedAuthor_numbered : ∀ row ∈ [suspendedAuthor], ActorRow.id row < 2 := by
  intro row member
  rw [List.mem_singleton.mp member]
  exact Nat.lt_succ_self 1

def suspended : Social where
  toDb := { Db.empty with
    actors := ⟨⟨[suspendedAuthor], List.pairwise_singleton _ _⟩, 2, suspendedAuthor_numbered⟩
    clips := ⟨⟨[soundClip], List.pairwise_singleton _ _⟩, 2, soundClip_numbered⟩ }
  comments := .empty
  notifications := .empty
  bookmarks := .empty
  hashtags := .empty
  clipHashtags := .empty

/-- The page of a sound shows a clip of a suspended author. -/
theorem sound_page_shows_suspended :
    returned (fun _ _ => true) suspended ⟨0⟩ ⟨none, none⟩ (.feed (.sound 1)) = .ok [1] ∧
      ¬suspended.Visible 1 := by
  refine ⟨by decide, ?_⟩
  rintro ⟨row, stored, -, shown⟩
  have only : suspended.clipsWithActors = [(soundClip, suspendedAuthor)] := rfl
  rw [only, List.mem_singleton] at stored
  subst stored
  exact absurd shown.2.2.1 (by decide)

end Sample
end TootTok
