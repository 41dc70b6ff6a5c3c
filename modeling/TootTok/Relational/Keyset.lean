import Mathlib.Data.List.Sort
import Mathlib.Order.Basic

/-!
# Keyset pagination

A listing is served page by page in the order of a key. The cursor of a page
is made from its last item, and the next page starts behind the key that the
cursor stands for. This module says exactly when a client that follows the
cursors receives every row once: at each full page, the cursor must cut the
listing where the page ends.
-/

namespace TootTok
namespace Relational

variable {Row Item Cursor Key : Type}

/-! ## Clients -/

/-- The run of a client that asks for pages until there is no next cursor. A
request that is refused has no answer, and then there is no run. -/
inductive Traversal (respond : Option Cursor → Option (List Item × Option Cursor)) :
    Option Cursor → List Item → Prop
  | last
      {cursor : Option Cursor} {items : List Item}
      (answer : respond cursor = some (items, none)) :
      Traversal respond cursor items
  | more
      {cursor : Option Cursor} {items rest : List Item} {next : Cursor}
      (answer : respond cursor = some (items, some next))
      (later : Traversal respond (some next) rest) :
      Traversal respond cursor (items ++ rest)

/-- Following the cursors from the first page, a client receives every row once,
in order. -/
def Complete (respond : Option Cursor → Option (List Item × Option Cursor))
    (card : Row → Item) (rows : List Row) (Before : Row → Row → Prop) : Prop :=
  ∃ received : List Row, Traversal respond none (received.map card) ∧
    received.Perm rows ∧ received.Pairwise Before

/-- What holds of the last row of every full page and the rows behind it. -/
def AtPageEnds (limit : Nat) (ordered : List Row) (holds : Row → List Row → Prop) : Prop :=
  ∀ before last after, ordered = before ++ last :: after → limit ∣ before.length + 1 →
    holds last after

theorem AtPageEnds.congr {limit : Nat} {ordered : List Row} {left right : Row → List Row → Prop}
    (same : ∀ before last after, ordered = before ++ last :: after →
      (left last after ↔ right last after)) :
    AtPageEnds limit ordered left ↔ AtPageEnds limit ordered right := by
  constructor
  · intro holds before last after split full
    exact (same before last after split).mp (holds before last after split full)
  · intro holds before last after split full
    exact (same before last after split).mpr (holds before last after split full)

/-- A listing that fits on one page has no full page before its end. -/
theorem atPageEnds_of_length_lt {limit : Nat} {ordered : List Row}
    {holds : Row → List Row → Prop} (fits : ordered.length < limit) :
    AtPageEnds limit ordered holds := by
  rintro before last after rfl full
  have large := Nat.le_of_dvd (Nat.succ_pos _) full
  simp at fits
  omega

section Traversal

variable {respond : Option Cursor → Option (List Item × Option Cursor)}
  {cursor : Option Cursor} {items received : List Item}

theorem traversal_last_iff (answer : respond cursor = some (items, none)) :
    Traversal respond cursor received ↔ received = items := by
  constructor
  · intro traversal
    cases traversal with
    | last given =>
        rw [answer] at given
        cases given
        rfl
    | more given later =>
        rw [answer] at given
        cases given
  · rintro rfl
    exact .last answer

theorem traversal_more_iff {next : Cursor}
    (answer : respond cursor = some (items, some next)) :
    Traversal respond cursor received ↔
      ∃ rest, received = items ++ rest ∧ Traversal respond (some next) rest := by
  constructor
  · intro traversal
    cases traversal with
    | last given =>
        rw [answer] at given
        cases given
    | more given later =>
        rw [answer] at given
        cases given
        exact ⟨_, rfl, later⟩
  · rintro ⟨rest, rfl, later⟩
    exact .more answer later

theorem not_traversal_of_refused (refused : respond cursor = none) :
    ¬Traversal respond cursor received := by
  intro traversal
  cases traversal with
  | last given =>
      rw [refused] at given
      cases given
  | more given later =>
      rw [refused] at given
      cases given

/-- A client that is sent back to the cursor it came with never ends. -/
theorem not_traversal_of_loop {next : Cursor}
    (answer : respond (some next) = some (items, some next)) :
    ¬Traversal respond (some next) received := by
  intro traversal
  generalize isNext : some next = cursor at traversal
  induction traversal with
  | last given =>
      rw [← isNext, answer] at given
      cases given
  | more given later inductionHypothesis =>
      rw [← isNext, answer] at given
      cases given
      exact inductionHypothesis rfl

end Traversal

/-! ## Listings -/

variable [LinearOrder Key]

/-- `ORDER BY key`. -/
def orderBy (key : Row → Key) (rows : List Row) : List Row :=
  rows.insertionSort fun left right => key left ≤ key right

section OrderBy

variable {key : Row → Key} {rows : List Row}

theorem perm_orderBy (key : Row → Key) (rows : List Row) : (orderBy key rows).Perm rows :=
  List.perm_insertionSort _ _

@[simp] theorem mem_orderBy {row : Row} : row ∈ orderBy key rows ↔ row ∈ rows :=
  (perm_orderBy key rows).mem_iff

theorem orderBy_sorted (key : Row → Key) (rows : List Row) :
    (orderBy key rows).Pairwise fun left right => key left ≤ key right := by
  have total : Std.Total fun left right : Row => key left ≤ key right :=
    ⟨fun left right => le_total (key left) (key right)⟩
  have transitive : IsTrans Row fun left right => key left ≤ key right :=
    ⟨fun _ _ _ => le_trans⟩
  exact List.pairwise_insertionSort _ rows

/-- Rows with distinct keys are put in strict order. -/
theorem orderBy_strict (distinct : (rows.map key).Nodup) :
    (orderBy key rows).Pairwise fun left right => key left < key right := by
  have apart : ((orderBy key rows).map key).Nodup :=
    ((perm_orderBy key rows).map key).nodup_iff.mpr distinct
  have different : (orderBy key rows).Pairwise fun left right => key left ≠ key right :=
    List.pairwise_map.mp apart
  exact ((orderBy_sorted key rows).and different).imp fun both => lt_of_le_of_ne both.1 both.2

/-- Selecting and ordering commute. -/
theorem orderBy_filter (distinct : (rows.map key).Nodup) (condition : Row → Bool) :
    orderBy key (rows.filter condition) = (orderBy key rows).filter condition := by
  have fewer : ((rows.filter condition).map key).Nodup :=
    distinct.sublist (List.filter_sublist.map key)
  have perm : (orderBy key (rows.filter condition)).Perm
      ((orderBy key rows).filter condition) :=
    (perm_orderBy key _).trans ((perm_orderBy key rows).symm.filter condition)
  refine perm.eq_of_pairwise ?_ (orderBy_strict fewer)
    ((orderBy_strict distinct).sublist List.filter_sublist)
  exact fun left right _ _ before after => (lt_asymm before after).elim

end OrderBy

/-- A listing that is served in pages. -/
structure Listing (Row Item Cursor Key : Type) where
  rows : List Row
  key : Row → Key
  /-- How a row is shown. -/
  card : Row → Item
  encode : Item → Cursor
  decode : Cursor → Option Key
  limit : Nat

namespace Listing

variable (listing : Listing Row Item Cursor Key)

def ordered : List Row := orderBy listing.key listing.rows

/-- `WHERE after < key ORDER BY key LIMIT limit`. -/
def page (after : Option Key) : List Row :=
  (orderBy listing.key
    (listing.rows.filter fun row => after.all fun cursor => cursor < listing.key row)).take
      listing.limit

/-- A page with its next cursor, which is present only while the page is full. -/
def answer (rows : List Row) : List Item × Option Cursor :=
  (rows.map listing.card,
    if rows.length = listing.limit then (rows.map listing.card).getLast?.map listing.encode
    else none)

def respond (cursor : Option Cursor) : Option (List Item × Option Cursor) :=
  match cursor with
  | none => some (listing.answer (listing.page none))
  | some cursor => (listing.decode cursor).map fun after =>
      listing.answer (listing.page (some after))

/-- The cursor made from the last of the first rows is accepted and cuts the
listing behind them. -/
def SplitsAt (count : Nat) : Prop :=
  ∃ last cursor, listing.ordered[count - 1]? = some last ∧
    listing.decode (listing.encode (listing.card last)) = some cursor ∧
    (∀ row ∈ listing.ordered.take count, listing.key row ≤ cursor) ∧
    ∀ row ∈ listing.ordered.drop count, cursor < listing.key row

/-! ## Cuts of an ordered listing -/

/-- The rows behind a cursor are the end of the listing. -/
theorem filter_behind_suffix
    {key : Row → Key} {rows : List Row}
    (strict : rows.Pairwise fun left right => key left < key right) (cursor : Key) :
    ∃ before, rows = before ++ rows.filter fun row => cursor < key row := by
  induction rows with
  | nil => exact ⟨[], rfl⟩
  | cons row rows inductionHypothesis =>
      rw [List.pairwise_cons] at strict
      by_cases behind : cursor < key row
      · have all : ∀ other ∈ row :: rows, decide (cursor < key other) = true := by
          intro other member
          rcases List.mem_cons.mp member with rfl | later
          · exact decide_eq_true behind
          · exact decide_eq_true (behind.trans (strict.1 other later))
        exact ⟨[], (List.filter_eq_self.mpr all).symm⟩
      · obtain ⟨before, split⟩ := inductionHypothesis strict.2
        refine ⟨row :: before, ?_⟩
        rw [List.filter_cons_of_neg (by simpa using behind), List.cons_append, ← split]

/-- A cursor cuts the listing at a place when it is no smaller than the keys
before it and smaller than those behind it. -/
theorem filter_eq_drop_iff
    {key : Row → Key} {rows : List Row}
    (strict : rows.Pairwise fun left right => key left < key right)
    (cursor : Key) (count : Nat) :
    (rows.filter fun row => cursor < key row) = rows.drop count ↔
      (∀ row ∈ rows.take count, key row ≤ cursor) ∧
        ∀ row ∈ rows.drop count, cursor < key row := by
  have cut : rows.take count ++ rows.drop count = rows := List.take_append_drop count rows
  constructor
  · intro same
    have behind : ∀ row ∈ rows.drop count, cursor < key row := by
      intro row member
      rw [← same, List.mem_filter] at member
      exact of_decide_eq_true member.2
    refine ⟨fun row member => ?_, behind⟩
    by_contra above
    have isBehind : row ∈ rows.drop count := by
      rw [← same, List.mem_filter]
      exact ⟨List.mem_of_mem_take member, decide_eq_true (not_le.mp above)⟩
    rw [← cut] at strict
    exact lt_irrefl _ ((List.pairwise_append.mp strict).2.2 row member row isBehind)
  · rintro ⟨before, behind⟩
    conv_lhs => rw [← cut]
    rw [List.filter_append, List.filter_eq_nil_iff.mpr, List.filter_eq_self.mpr]
    · rfl
    · exact fun row member => decide_eq_true (behind row member)
    · exact fun row member => by simpa using before row member

/-- Two ends of a list without repetitions that start alike are the same. -/
theorem same_end
    {rows left right leftEnd rightEnd : List Row} {row : Row}
    (distinct : rows.Nodup)
    (leftSplit : rows = left ++ row :: leftEnd) (rightSplit : rows = right ++ row :: rightEnd) :
    leftEnd = rightEnd := by
  rw [leftSplit] at distinct
  have apart := List.nodup_append.mp distinct
  have notBefore : row ∉ left :=
    fun member => apart.2.2 row member row List.mem_cons_self rfl
  have notAfter : row ∉ leftEnd := (List.nodup_cons.mp apart.2.1).1
  exact ((List.append_cons_inj_of_notMem notBefore notAfter).mp
    (leftSplit.symm.trans rightSplit)).2.2

/-! ## Complete traversals -/

section Complete

variable {listing}
  (distinct : (listing.rows.map listing.key).Nodup)
  (cards : (listing.ordered.map listing.card).Nodup)
  (positive : 0 < listing.limit)

include distinct

theorem page_eq (after : Option Key) :
    listing.page after =
      (listing.ordered.filter fun row =>
        after.all fun cursor => cursor < listing.key row).take listing.limit := by
  unfold page ordered
  rw [orderBy_filter distinct]

theorem page_none : listing.page none = listing.ordered.take listing.limit := by
  rw [page_eq distinct]
  simp

theorem ordered_strict :
    listing.ordered.Pairwise fun left right => listing.key left < listing.key right :=
  orderBy_strict distinct

/-- A row cuts the listing when its cursor is no smaller than its key and
smaller than the keys behind it. -/
theorem splitsAt_iff {before after : List Row} {last : Row}
    (split : listing.ordered = before ++ last :: after) :
    listing.SplitsAt (before.length + 1) ↔
      ∃ cursor, listing.decode (listing.encode (listing.card last)) = some cursor ∧
        listing.key last ≤ cursor ∧ ∀ row ∈ after, cursor < listing.key row := by
  have isLast : listing.ordered[before.length + 1 - 1]? = some last := by
    simp [split]
  have taken : listing.ordered.take (before.length + 1) = before ++ [last] := by
    simp [split, List.take_append, List.take_of_length_le]
  have dropped : listing.ordered.drop (before.length + 1) = after := by
    simp [split, List.drop_append]
  unfold SplitsAt
  rw [isLast, taken, dropped]
  constructor
  · rintro ⟨row, cursor, isRow, decoded, notBehind, behind⟩
    cases Option.some.inj isRow
    exact ⟨cursor, decoded, notBehind last (by simp), behind⟩
  · rintro ⟨cursor, decoded, notBehind, behind⟩
    refine ⟨last, cursor, rfl, decoded, fun row member => ?_, behind⟩
    rcases List.mem_append.mp member with earlier | isRow
    · have strict := ordered_strict distinct
      rw [split] at strict
      have below := (List.pairwise_append.mp strict).2.2 row earlier last (by simp)
      exact below.le.trans notBehind
    · rw [List.mem_singleton] at isRow
      exact isRow ▸ notBehind

include cards positive

/-- A client who receives the rest of the listing has a cursor that cuts it. -/
theorem filter_eq_drop_of_traversal
    {cursor : Cursor} {after : Key} {count : Nat}
    (decoded : listing.decode cursor = some after)
    (traversal : Traversal listing.respond (some cursor)
      ((listing.ordered.drop count).map listing.card)) :
    (listing.ordered.filter fun row => after < listing.key row) =
      listing.ordered.drop count := by
  have answered : listing.respond (some cursor) =
      some (listing.answer (listing.page (some after))) := by
    simp [respond, decoded]
  have page : listing.page (some after) =
      (listing.ordered.filter fun row => after < listing.key row).take listing.limit := by
    rw [page_eq distinct]
    simp
  obtain ⟨before, suffix⟩ := filter_behind_suffix (ordered_strict distinct) after
  have nodup : listing.ordered.Nodup := cards.of_map
  obtain ⟨limit, isLimit⟩ := Nat.exists_eq_succ_of_ne_zero positive.ne'
  cases behind : listing.ordered.filter fun row => after < listing.key row with
  | nil =>
      rw [behind, List.take_nil] at page
      have noNext : listing.answer (listing.page (some after)) = ([], none) := by
        simp [answer, page, isLimit]
      rw [noNext] at answered
      have nothing := (traversal_last_iff answered).mp traversal
      exact (List.map_eq_nil_iff.mp nothing).symm
  | cons row later =>
      -- The first row that is received decides where the cursor cuts.
      have first : ∃ rest, (listing.ordered.drop count).map listing.card =
          listing.card row :: rest := by
        rw [behind, isLimit, List.take_succ_cons] at page
        have shown : (listing.answer (listing.page (some after))).1 =
            listing.card row :: (later.take limit).map listing.card := by
          rw [page]
          rfl
        cases isNext : (listing.answer (listing.page (some after))).2 with
        | none =>
            have whole : listing.answer (listing.page (some after)) =
                (listing.card row :: (later.take limit).map listing.card, none) :=
              Prod.ext shown isNext
            rw [whole] at answered
            exact ⟨_, (traversal_last_iff answered).mp traversal⟩
        | some next =>
            have whole : listing.answer (listing.page (some after)) =
                (listing.card row :: (later.take limit).map listing.card, some next) :=
              Prod.ext shown isNext
            rw [whole] at answered
            obtain ⟨rest, received, -⟩ := (traversal_more_iff answered).mp traversal
            exact ⟨_, received⟩
      obtain ⟨rest, received⟩ := first
      obtain ⟨head, tail, dropped, sameCard, -⟩ := List.map_eq_cons_iff.mp received
      rw [behind] at suffix
      have headStored : head ∈ listing.ordered :=
        List.mem_of_mem_drop (dropped ▸ List.mem_cons_self)
      have rowStored : row ∈ listing.ordered := by
        rw [suffix]
        exact List.mem_append_right _ List.mem_cons_self
      have sameRow : head = row := List.inj_on_of_nodup_map cards headStored rowStored sameCard
      subst sameRow
      have split : listing.ordered = listing.ordered.take count ++ head :: tail := by
        rw [← dropped, List.take_append_drop]
      rw [dropped, same_end nodup suffix split]

/-- From a cursor that cuts the listing, a client receives the rest exactly when
every later full page ends with a cursor that cuts it. -/
theorem traversal_drop_iff
    {cursor : Option Cursor} {count : Nat}
    (answered : listing.respond cursor =
      some (listing.answer ((listing.ordered.drop count).take listing.limit))) :
    Traversal listing.respond cursor ((listing.ordered.drop count).map listing.card) ↔
      ∀ pages, 0 < pages → count + pages * listing.limit ≤ listing.ordered.length →
        listing.SplitsAt (count + pages * listing.limit) := by
  induction isLeft : listing.ordered.length - count using Nat.strong_induction_on
    generalizing cursor count with
  | h left inductionHypothesis =>
  have dropped : (listing.ordered.drop count).length = left := by
    rw [List.length_drop, isLeft]
  by_cases full : listing.limit ≤ left
  · -- A full page and what follows it.
    have within : count + listing.limit ≤ listing.ordered.length := by omega
    obtain ⟨last, isLast⟩ : ∃ last, listing.ordered[count + listing.limit - 1]? = some last :=
      ⟨_, List.getElem?_eq_getElem (by omega)⟩
    have pageLength : ((listing.ordered.drop count).take listing.limit).length =
        listing.limit := by
      rw [List.length_take]
      omega
    have pageLast : ((listing.ordered.drop count).take listing.limit).getLast? = some last := by
      rw [List.getLast?_eq_getElem?, pageLength, List.getElem?_take_of_lt (by omega),
        List.getElem?_drop, ← isLast]
      congr 1
      omega
    have shown : listing.answer ((listing.ordered.drop count).take listing.limit) =
        (((listing.ordered.drop count).take listing.limit).map listing.card,
          some (listing.encode (listing.card last))) := by
      simp only [answer]
      rw [if_pos pageLength, List.getLast?_map, pageLast]
      rfl
    have rest : listing.ordered.drop count =
        (listing.ordered.drop count).take listing.limit ++
          listing.ordered.drop (count + listing.limit) := by
      rw [← List.drop_drop, List.take_append_drop]
    have answeredLater {after : Key}
        (decoded : listing.decode (listing.encode (listing.card last)) = some after)
        (cut : (listing.ordered.filter fun row => after < listing.key row) =
          listing.ordered.drop (count + listing.limit)) :
        listing.respond (some (listing.encode (listing.card last))) =
          some (listing.answer
            ((listing.ordered.drop (count + listing.limit)).take listing.limit)) := by
      rw [← cut]
      simp [respond, decoded, page_eq distinct]
    rw [shown] at answered
    rw [traversal_more_iff answered]
    constructor
    · rintro ⟨received, split, later⟩
      have isRest : received =
          (listing.ordered.drop (count + listing.limit)).map listing.card := by
        have whole := congrArg (List.map listing.card) rest
        rw [List.map_append] at whole
        exact (List.append_cancel_left (whole.symm.trans split)).symm
      subst isRest
      cases decoded : listing.decode (listing.encode (listing.card last)) with
      | none => exact (not_traversal_of_refused (by simp [respond, decoded]) later).elim
      | some after =>
          have cut := filter_eq_drop_of_traversal distinct cards positive decoded later
          have others := (inductionHypothesis (left - listing.limit) (by omega)
            (answeredLater decoded cut) (by omega)).mp later
          intro pages somePages pagesWithin
          obtain rfl | more := Nat.eq_or_lt_of_le somePages
          · rw [Nat.one_mul]
            exact ⟨last, after, isLast, decoded,
              (filter_eq_drop_iff (ordered_strict distinct) after _).mp cut⟩
          · obtain ⟨morePages, rfl⟩ : ∃ morePages, pages = morePages + 1 :=
              ⟨pages - 1, by omega⟩
            have sum : count + (morePages + 1) * listing.limit =
                count + listing.limit + morePages * listing.limit := by
              rw [Nat.succ_mul]
              omega
            rw [sum] at pagesWithin ⊢
            exact others morePages (by omega) pagesWithin
    · intro splits
      have firstSplit := splits 1 Nat.one_pos (by omega)
      rw [Nat.one_mul] at firstSplit
      obtain ⟨other, after, isOther, decoded, cuts⟩ := firstSplit
      cases Option.some.inj (isLast.symm.trans isOther)
      have cut := (filter_eq_drop_iff (ordered_strict distinct) after _).mpr cuts
      refine ⟨_, by rw [← List.map_append, ← rest], ?_⟩
      refine (inductionHypothesis (left - listing.limit) (by omega)
        (answeredLater decoded cut) (by omega)).mpr fun pages _ pagesWithin => ?_
      have sum : count + listing.limit + pages * listing.limit =
          count + (pages + 1) * listing.limit := by
        rw [Nat.succ_mul]
        omega
      rw [sum] at pagesWithin ⊢
      exact splits (pages + 1) (by omega) pagesWithin
  · -- The last page.
    have all : (listing.ordered.drop count).take listing.limit = listing.ordered.drop count :=
      List.take_of_length_le (by omega)
    have noNext : listing.answer (listing.ordered.drop count) =
        ((listing.ordered.drop count).map listing.card, none) := by
      simp only [answer]
      rw [if_neg (by omega)]
    rw [all, noNext] at answered
    rw [traversal_last_iff answered]
    refine iff_of_true rfl fun pages somePages within => ?_
    have onePage : listing.limit ≤ pages * listing.limit :=
      Nat.le_mul_of_pos_left _ somePages
    omega

/-- A client that follows the cursors from the first page receives the whole
listing in order exactly when every full page ends with a cursor that cuts it. -/
theorem traversal_iff :
    Traversal listing.respond none (listing.ordered.map listing.card) ↔
      ∀ pages, 0 < pages → pages * listing.limit ≤ listing.ordered.length →
        listing.SplitsAt (pages * listing.limit) := by
  have answered : listing.respond none =
      some (listing.answer ((listing.ordered.drop 0).take listing.limit)) := by
    simp [respond, page_none distinct]
  have complete := traversal_drop_iff distinct cards positive answered
  simpa using complete

/-- What a client receives is the ordered listing. -/
theorem complete_iff :
    Complete listing.respond listing.card listing.rows
        (fun left right => listing.key left < listing.key right) ↔
      AtPageEnds listing.limit listing.ordered fun last after =>
        ∃ cursor, listing.decode (listing.encode (listing.card last)) = some cursor ∧
          listing.key last ≤ cursor ∧ ∀ row ∈ after, cursor < listing.key row := by
  have isOrdered : Complete listing.respond listing.card listing.rows
        (fun left right => listing.key left < listing.key right) ↔
      Traversal listing.respond none (listing.ordered.map listing.card) := by
    constructor
    · rintro ⟨received, traversal, perm, strict⟩
      have same : received = listing.ordered := by
        refine (perm.trans (perm_orderBy _ _).symm).eq_of_pairwise ?_ strict
          (ordered_strict distinct)
        exact fun left right _ _ before after => (lt_asymm before after).elim
      exact same ▸ traversal
    · exact fun traversal => ⟨_, traversal, perm_orderBy _ _, ordered_strict distinct⟩
  rw [isOrdered, traversal_iff distinct cards positive]
  constructor
  · rintro splits before last after split ⟨pages, full⟩
    have somePages : 0 < pages := by
      rcases Nat.eq_zero_or_pos pages with rfl | somePages
      · simp at full
      · exact somePages
    rw [Nat.mul_comm] at full
    have isSplit := splits pages somePages (by rw [← full, split]; simp)
    rw [← full] at isSplit
    exact (splitsAt_iff distinct split).mp isSplit
  · intro cuts pages somePages within
    have large : 0 < pages * listing.limit := Nat.mul_pos somePages positive
    have inside : pages * listing.limit - 1 < listing.ordered.length := by omega
    have split : listing.ordered =
        listing.ordered.take (pages * listing.limit - 1) ++
          listing.ordered[pages * listing.limit - 1] ::
            listing.ordered.drop (pages * listing.limit - 1 + 1) := by
      rw [← List.drop_eq_getElem_cons inside, List.take_append_drop]
    have count : (listing.ordered.take (pages * listing.limit - 1)).length + 1 =
        pages * listing.limit := by
      rw [List.length_take]
      omega
    rw [← count]
    exact (splitsAt_iff distinct split).mpr
      (cuts _ _ _ split (by rw [count]; exact Nat.dvd_mul_left _ _))

end Complete

end Listing
end Relational
end TootTok
