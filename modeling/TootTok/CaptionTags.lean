import Mathlib.Data.List.TakeWhile
import TootTok.EntityBytes
import TootTok.HashtagBytes
import TootTok.Relational.Distinct

/-!
# Tags of captions

The hashtags of an upload are extracted from its stored caption, which is escaped. The escape
of an apostrophe contains a `#` with a tag behind it.
-/

namespace TootTok

open Effects
open Relational (SerialTable Table)
open Relational (firstDistinct mem_firstDistinct_congr firstDistinct_append_of_full
  mem_firstDistinct_of_room)

namespace Hashtags

open Sanitize (escapeChar escapeHtml escapeChar_cases)

/-- The tag in the escape of an apostrophe. -/
def apostropheTag : String := "x27"

theorem apostropheTag_eq : (String.ofList ['x', '2', '7']).toLower = apostropheTag := by
  with_unfolding_all decide

/-- Escaping leaves the tags of a text alone: it has no apostrophe, or the tag of its escape is
among its tags anyway, or there are enough tags before it. -/
def TagsKept (text : List Char) : Prop :=
  '\'' ∉ text ∨ apostropheTag ∈ firstTags text ∨
    (firstTags (text.takeWhile (· ≠ '\''))).length = maxHashtags

/-! ## Tags of escaped text -/

theorem firstTags_eq (caption : List Char) :
    firstTags caption = firstDistinct maxHashtags (tagValues caption) := rfl

theorem escapeHtml_cons (char : Char) (text : List Char) :
    escapeHtml (char :: text) = escapeChar char ++ escapeHtml text := rfl

theorem escapeHtml_append (front back : List Char) :
    escapeHtml (front ++ back) = escapeHtml front ++ escapeHtml back :=
  List.flatMap_append

/-- The value of the run that starts a text. -/
def frontValue (text : List Char) : List String :=
  if text.takeWhile isTagChar = [] then []
  else [(String.ofList (text.takeWhile isTagChar)).toLower]

theorem tagValues_cons_hash (text : List Char) :
    tagValues ('#' :: text) = frontValue text ++ tagValues text := by
  rw [tagValues, tagRuns_hash, tagValues, frontValue]
  by_cases empty : text.takeWhile isTagChar = [] <;> simp [empty]

/-- A character that belongs to no tag separates the tags around it. -/
theorem tagValues_separated {char : Char} (noTag : isTagChar char = false) (noHash : char ≠ '#')
    (front back : List Char) :
    tagValues (front ++ char :: back) = tagValues front ++ tagValues back := by
  have notTag : ¬isTagChar char = true := by simp [noTag]
  have run (front : List Char) :
      (front ++ char :: back).takeWhile isTagChar = front.takeWhile isTagChar := by
    induction front with
    | nil => rw [List.nil_append, List.takeWhile_cons_of_neg notTag, List.takeWhile_nil]
    | cons first front inductionHypothesis =>
        by_cases isTag : isTagChar first = true
        · rw [List.cons_append, List.takeWhile_cons_of_pos isTag, List.takeWhile_cons_of_pos isTag,
            inductionHypothesis]
        · rw [List.cons_append, List.takeWhile_cons_of_neg isTag, List.takeWhile_cons_of_neg isTag]
  induction front with
  | nil => rw [List.nil_append, tagValues_other noHash]; rfl
  | cons first front inductionHypothesis =>
      rw [List.cons_append]
      by_cases hash : first = '#'
      · subst hash
        rw [tagValues_cons_hash, tagValues_cons_hash, inductionHypothesis, List.append_assoc,
          frontValue, frontValue, run]
      · rw [tagValues_other hash, tagValues_other hash, inductionHypothesis]

/-- Escaping leaves a run alone, and what follows it does not continue it. -/
theorem takeWhile_escapeHtml (text : List Char) :
    (escapeHtml text).takeWhile isTagChar = text.takeWhile isTagChar := by
  induction text with
  | nil => rfl
  | cons char text inductionHypothesis =>
      rw [escapeHtml_cons]
      unfold escapeChar
      split
      · rfl
      · rfl
      · rfl
      · rfl
      · rfl
      · rw [List.singleton_append]
        by_cases isTag : isTagChar char = true
        · rw [List.takeWhile_cons_of_pos isTag, List.takeWhile_cons_of_pos isTag,
            inductionHypothesis]
        · rw [List.takeWhile_cons_of_neg isTag, List.takeWhile_cons_of_neg isTag]

/-- A text without a `#` has no tags. -/
theorem tagValues_of_no_hash {front : List Char} (none : '#' ∉ front) (back : List Char) :
    tagValues (front ++ back) = tagValues back := by
  induction front with
  | nil => rfl
  | cons char front inductionHypothesis =>
      rw [List.mem_cons, not_or] at none
      rw [List.cons_append, tagValues_other (Ne.symm none.1), inductionHypothesis none.2]

/-- The escape of an apostrophe has a tag, those of other characters have none. -/
theorem tagValues_escapeHtml_cons (char : Char) (text : List Char) :
    tagValues (escapeHtml (char :: text)) =
      (if char = '#' then frontValue text else if char = '\'' then [apostropheTag] else []) ++
        tagValues (escapeHtml text) := by
  rw [escapeHtml_cons]
  unfold escapeChar
  split
  · exact tagValues_of_no_hash (by decide) _
  · exact tagValues_of_no_hash (by decide) _
  · exact tagValues_of_no_hash (by decide) _
  · exact tagValues_of_no_hash (by decide) _
  · show tagValues (['&'] ++ '#' :: (['x', '2', '7'] ++ ';' :: escapeHtml text)) = _
    have isRun : ∀ char ∈ ['x', '2', '7'], isTagChar char = true :=
      List.all_eq_true.mp (by decide)
    rw [tagValues_of_no_hash (by decide), tagValues_hash _ _ isRun rfl,
      tagValues_other (by decide), if_neg (List.cons_ne_nil _ _),
      if_neg (by decide : '\'' ≠ '#'), if_pos rfl, apostropheTag_eq]
  next notApostrophe =>
    rw [List.singleton_append]
    by_cases hash : char = '#'
    · subst hash
      rw [tagValues_cons_hash, if_pos rfl, frontValue, frontValue, takeWhile_escapeHtml]
    · rw [tagValues_other hash, if_neg hash, if_neg notApostrophe, List.nil_append]

/-! ## When escaping keeps the tags -/

theorem tagValues_escapeHtml_plain {text : List Char} (plain : '\'' ∉ text) :
    tagValues (escapeHtml text) = tagValues text := by
  induction text with
  | nil => rfl
  | cons char text inductionHypothesis =>
      rw [List.mem_cons, not_or] at plain
      rw [tagValues_escapeHtml_cons, if_neg (Ne.symm plain.1), inductionHypothesis plain.2]
      by_cases hash : char = '#'
      · subst hash
        rw [if_pos rfl, tagValues_cons_hash]
      · rw [if_neg hash, tagValues_other hash, List.nil_append]

/-- The escape of an apostrophe separates the tags around it, and has one of its own. -/
theorem tagValues_escapeHtml_apostrophe (front back : List Char) :
    tagValues (front ++ escapeHtml ('\'' :: back)) =
      tagValues front ++ apostropheTag :: tagValues (escapeHtml back) := by
  have escape : escapeHtml ('\'' :: back) = '&' :: ("#x27;".toList ++ escapeHtml back) := rfl
  have own := tagValues_escapeHtml_cons '\'' back
  rw [escape, tagValues_other (by decide)] at own
  rw [escape, tagValues_separated rfl (by decide), own]
  rfl

/-- But for the tag of the escape, the tags are the same. -/
theorem filter_tagValues_escapeHtml (text : List Char) :
    (tagValues (escapeHtml text)).filter (· ≠ apostropheTag) =
      (tagValues text).filter (· ≠ apostropheTag) := by
  induction text with
  | nil => rfl
  | cons char text inductionHypothesis =>
      rw [tagValues_escapeHtml_cons, List.filter_append, inductionHypothesis, ← List.filter_append]
      by_cases hash : char = '#'
      · subst hash
        rw [if_pos rfl, tagValues_cons_hash]
      · rw [if_neg hash, tagValues_other hash]
        split <;> simp

/-- The tags of an escaped text are those of the text exactly under the condition above. -/
theorem tags_of_escaped_iff (text : List Char) :
    (∀ tag, tag ∈ firstTags (escapeHtml text) ↔ tag ∈ firstTags text) ↔ TagsKept text := by
  by_cases plain : '\'' ∈ text
  · obtain ⟨back, split⟩ := Sanitize.split_at_char plain
    have before : '\'' ∉ text.takeWhile (· ≠ '\'') :=
      fun member => absurd (List.mem_takeWhile_imp member) (by decide)
    -- The tags before the first apostrophe, and those after it.
    have original : tagValues text =
        tagValues (text.takeWhile (· ≠ '\'')) ++ tagValues back := by
      conv_lhs => rw [split]
      exact tagValues_separated rfl (by decide) _ _
    have escaped : tagValues (escapeHtml text) =
        tagValues (text.takeWhile (· ≠ '\'')) ++ apostropheTag :: tagValues (escapeHtml back) := by
      conv_lhs => rw [split, escapeHtml_append]
      rw [tagValues_escapeHtml_apostrophe, tagValues_escapeHtml_plain before]
    have same := filter_tagValues_escapeHtml text
    unfold TagsKept
    rw [firstTags_eq, firstTags_eq, firstTags_eq]
    generalize text.takeWhile (· ≠ '\'') = front at *
    by_cases full : (firstDistinct maxHashtags (tagValues front)).length = maxHashtags
    · refine iff_of_true (fun tag => ?_) (.inr (.inr full))
      rw [original, escaped, firstDistinct_append_of_full full, firstDistinct_append_of_full full]
    · have inEscaped : apostropheTag ∈ firstDistinct maxHashtags (tagValues (escapeHtml text)) := by
        rw [escaped]
        exact mem_firstDistinct_of_room full _ _
      constructor
      · exact fun kept => .inr (.inl ((kept apostropheTag).mp inEscaped))
      · rintro (without | among | isFull)
        · exact (without plain).elim
        · exact mem_firstDistinct_congr same inEscaped among
        · exact (full isFull).elim
  · refine iff_of_true (fun tag => ?_) (.inl plain)
    rw [firstTags_eq, firstTags_eq, tagValues_escapeHtml_plain plain]

/-! ## Tags in the database -/

theorem toLower_of_not_upper {char : Char} (stays : ¬('A'.val ≤ char.val ∧ char.val ≤ 'Z'.val)) :
    char.toLower = char := by
  unfold Char.toLower
  rw [dif_neg stays]

theorem toLower_toLower (char : Char) : char.toLower.toLower = char.toLower := by
  by_cases upper : 'A'.val ≤ char.val ∧ char.val ≤ 'Z'.val
  · have lower : char.toLower.val = char.val + ('a'.val - 'A'.val) := by
      unfold Char.toLower
      rw [dif_pos upper]
    refine toLower_of_not_upper ?_
    rw [lower]
    simp only [UInt32.le_iff_toNat_le, Char.reduceVal, UInt32.reduceToNat, UInt32.toNat_add,
      UInt32.reduceSub] at upper ⊢
    omega
  · rw [toLower_of_not_upper upper, toLower_of_not_upper upper]

/-- Tags are stored in lower case, which the comparison of the column leaves alone. -/
theorem citext_of_mem_firstTags {caption : List Char} {tag : String}
    (member : tag ∈ firstTags caption) : citext tag = tag.toList := by
  have isValue : tag ∈ tagValues caption :=
    List.mem_eraseDups.mp (List.mem_of_mem_take member)
  obtain ⟨run, -, rfl⟩ := List.mem_map.mp isValue
  have lower : (String.ofList run).toLower.toList = run.map Char.toLower := by
    change ((String.ofList run).map Char.toLower).toList = _
    rw [String.toList_map, String.toList_ofList]
  rw [citext, lower, List.map_map]
  refine List.map_congr_left fun char _ => ?_
  exact toLower_toLower char

theorem eq_of_citext {left right : List Char} {tag other : String} (isTag : tag ∈ firstTags left)
    (isOther : other ∈ firstTags right) (same : citext tag = citext other) : tag = other := by
  rw [citext_of_mem_firstTags isTag, citext_of_mem_firstTags isOther] at same
  exact String.toList_inj.mp same

/-- Two texts have the same tags for the column exactly if they have the same tags. -/
theorem citext_tags_iff (left right : List Char) :
    (∀ tag, (∃ found ∈ firstTags left, citext found = citext tag) ↔
      ∃ found ∈ firstTags right, citext found = citext tag) ↔
      ∀ tag, tag ∈ firstTags left ↔ tag ∈ firstTags right := by
  constructor
  · intro same tag
    constructor
    · intro isTag
      obtain ⟨found, isFound, sameTag⟩ := (same tag).mp ⟨tag, isTag, rfl⟩
      exact eq_of_citext isFound isTag sameTag ▸ isFound
    · intro isTag
      obtain ⟨found, isFound, sameTag⟩ := (same tag).mpr ⟨tag, isTag, rfl⟩
      exact eq_of_citext isFound isTag sameTag ▸ isFound
  · intro same tag
    simp only [same]

/-- The text a viewer sees of a stored caption. -/
def visibleText (stored : String) : String :=
  String.ofList (Sanitize.decodeHtmlEntities stored.toList)

theorem toList_visibleText_stripHtmlTags (raw : String) :
    (visibleText (Sanitize.stripHtmlTags raw)).toList = Sanitize.stripPasses 8 raw.toList := by
  rw [visibleText, Sanitize.stripHtmlTags, String.toList_ofList, String.toList_ofList,
    Sanitize.decode_escapeHtml]

end Hashtags

namespace Library

/-- A clip is linked to a tag, in the comparison of the column. -/
def Tagged (library : Library) (clipId : Nat) (tag : String) : Prop :=
  ∃ link ∈ library.clipHashtags, link.clipId = clipId ∧
    ∃ row ∈ library.hashtags, row.id = link.hashtagId ∧ citext row.tag = citext tag

/-- The foreign keys of the links. -/
structure Referential (library : Library) : Prop where
  clips : ∀ link ∈ library.clipHashtags, ∃ row ∈ library.clips, row.id = link.clipId
  hashtags : ∀ link ∈ library.clipHashtags, ∃ row ∈ library.hashtags, row.id = link.hashtagId

section Link

variable {library : Library} {clipId : Nat} {tag : String}

/-- After its insertion a tag is stored, under one number. -/
theorem linkHashtag_cases (library : Library) (clipId : Nat) (tag : String) :
    ∃ row ∈ (library.linkHashtag clipId tag).hashtags, citext row.tag = citext tag ∧
      (∀ other ∈ (library.linkHashtag clipId tag).hashtags, other.id = row.id → other = row) ∧
      (∀ other ∈ (library.linkHashtag clipId tag).hashtags,
        other ∈ library.hashtags ∨ other.id = library.hashtags.next) ∧
      (∀ other ∈ library.hashtags, other ∈ (library.linkHashtag clipId tag).hashtags) ∧
      ∀ link, link ∈ (library.linkHashtag clipId tag).clipHashtags ↔
        link ∈ library.clipHashtags ∨ link = ⟨clipId, row.id⟩ := by
  have stored : ∃ row ∈ (library.hashtags.insert (fun id => (⟨id, tag⟩ : Hashtag)) fun _ => rfl).2,
      citext row.tag = citext tag := by
    rcases library.hashtags.insert_cases (fun id => ⟨id, tag⟩) fun _ => rfl with
      ⟨-, -, rows⟩ | ⟨⟨row, isStored, clash⟩, refused⟩
    · refine ⟨⟨library.hashtags.next, tag⟩, ?_, rfl⟩
      rw [← SerialTable.mem_rows, rows]
      exact List.mem_append_right _ List.mem_cons_self
    · rw [refused]
      exact ⟨row, isStored, clash⟩
  have old : ∀ other ∈ library.hashtags,
      other ∈ (library.hashtags.insert (fun id => (⟨id, tag⟩ : Hashtag)) fun _ => rfl).2 :=
    fun other => SerialTable.mem_insert_of_mem _ _
  have new : ∀ other ∈ (library.hashtags.insert (fun id => (⟨id, tag⟩ : Hashtag)) fun _ => rfl).2,
      other ∈ library.hashtags ∨ other.id = library.hashtags.next := by
    intro other member
    exact (SerialTable.mem_of_mem_insert member).imp_right (congrArg Hashtag.id)
  unfold linkHashtag
  dsimp only
  generalize (library.hashtags.insert (fun id => (⟨id, tag⟩ : Hashtag)) fun _ => rfl).2 = table
    at stored old new ⊢
  cases found : table.find? fun row => citext row.tag = citext tag with
  | none =>
      obtain ⟨row, member, same⟩ := stored
      exact absurd (decide_eq_true same) (Table.find?_eq_none.mp found row member)
  | some row =>
      have member : row ∈ table := Table.mem_of_find?_eq_some found
      have same : citext row.tag = citext tag := by
        have holds := Table.holds_of_find?_eq_some found
        exact of_decide_eq_true holds
      refine ⟨row, member, same, fun other within sameId => ?_, new, old, fun link => ?_⟩
      · exact Table.eq_of_clash (fun left right clash => clash.imp Eq.symm Eq.symm) within member
          (.inl sameId)
      · dsimp only
        cases inserted : library.clipHashtags.insert? ⟨clipId, row.id⟩ with
        | none =>
            obtain ⟨known, isKnown, rfl⟩ := Table.insert?_eq_none.mp inserted
            refine ⟨.inl, fun either => either.elim id ?_⟩
            rintro rfl
            exact isKnown
        | some after => exact Table.mem_insert? inserted

/-- Linking a tag tags that clip with that tag, and no other one. -/
theorem tagged_linkHashtag
    (known : ∀ link ∈ library.clipHashtags, ∃ row ∈ library.hashtags, row.id = link.hashtagId)
    (other : Nat) (value : String) :
    (library.linkHashtag clipId tag).Tagged other value ↔
      library.Tagged other value ∨ (other = clipId ∧ citext tag = citext value) := by
  obtain ⟨stored, isStored, same, unique, rows, kept, links⟩ := linkHashtag_cases library clipId tag
  constructor
  · rintro ⟨link, linked, rfl, row, isRow, sameId, sameTag⟩
    rcases (links link).mp linked with before | rfl
    · refine .inl ⟨link, before, rfl, row, ?_, sameId, sameTag⟩
      refine (rows row isRow).resolve_right fun isNext => ?_
      obtain ⟨old, isOld, oldId⟩ := known link before
      have clash : old.id = library.hashtags.next := by omega
      exact SerialTable.number_ne_next isOld clash
    · refine .inr ⟨rfl, ?_⟩
      have isStoredRow := unique row isRow sameId
      rw [← same, ← isStoredRow, sameTag]
  · rintro (⟨link, linked, rfl, row, isRow, sameId, sameTag⟩ | ⟨rfl, sameTag⟩)
    · exact ⟨link, (links link).mpr (.inl linked), rfl, row, kept row isRow, sameId, sameTag⟩
    · exact ⟨_, (links _).mpr (.inr rfl), rfl, stored, isStored, rfl, same.trans sameTag⟩

theorem known_linkHashtag
    (known : ∀ link ∈ library.clipHashtags, ∃ row ∈ library.hashtags, row.id = link.hashtagId) :
    ∀ link ∈ (library.linkHashtag clipId tag).clipHashtags,
      ∃ row ∈ (library.linkHashtag clipId tag).hashtags, row.id = link.hashtagId := by
  obtain ⟨stored, isStored, -, -, -, kept, links⟩ := linkHashtag_cases library clipId tag
  intro link linked
  rcases (links link).mp linked with before | rfl
  · obtain ⟨row, isRow, sameId⟩ := known link before
    exact ⟨row, kept row isRow, sameId⟩
  · exact ⟨stored, isStored, rfl⟩

/-- Linking the tags of a caption. -/
theorem tagged_linkHashtags (tags : List String)
    (known : ∀ link ∈ library.clipHashtags, ∃ row ∈ library.hashtags, row.id = link.hashtagId)
    (other : Nat) (value : String) :
    (tags.foldl (Library.linkHashtag clipId) library).Tagged other value ↔
      library.Tagged other value ∨ (other = clipId ∧ ∃ tag ∈ tags, citext tag = citext value) := by
  induction tags generalizing library with
  | nil => simp
  | cons tag tags inductionHypothesis =>
      rw [List.foldl_cons, inductionHypothesis (known_linkHashtag known), tagged_linkHashtag known,
        or_assoc, ← and_or_left]
      simp only [List.mem_cons, exists_eq_or_imp]

end Link

end Library

end TootTok
