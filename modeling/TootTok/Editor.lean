import TootTok.Timeline
import Mathlib.Algebra.Order.Field.Rat
import Mathlib.Data.Rat.Cast.Order
import Mathlib.Data.NNRat.Defs
import Mathlib.Tactic.FieldSimp
import Mathlib.Tactic.Linarith
import Mathlib.Tactic.NormNum

/-!
# The editor

The edit screen plays recorded segments one after the other, each between its trims and at its
speed. Times of the whole are mapped to segments and back, on two paths: one seeks, the other
follows the player. Numbers are exact here.
-/

namespace TootTok
namespace Editor

open Timeline (Lies startOf)

/-! ## Manifests -/

structure EditSegment where
  src : String
  sourceDuration : ℚ
  trimStart : ℚ
  trimEnd : ℚ
  speed : ℚ
  volume : ℚ
deriving DecidableEq

/-- Length of a segment after trim and speed. -/
def segmentFinalDuration (segment : EditSegment) : ℚ :=
  max 0 ((segment.trimEnd - segment.trimStart) / segment.speed)

def manifestDuration (segments : List EditSegment) : ℚ :=
  segments.foldl (fun acc segment => acc + segmentFinalDuration segment) 0

structure ResolvedTime where
  segmentIndex : Nat
  sourceTime : ℚ
  localTime : ℚ
deriving DecidableEq

/-- The loop over the segments. -/
def resolveFrom (finalTime : ℚ) : Nat → ℚ → List EditSegment → Option ResolvedTime
  | _, _, [] => none
  | i, acc, segment :: segments =>
      let d := segmentFinalDuration segment
      if finalTime < acc + d then
        let localTime := finalTime - acc
        some ⟨i, segment.trimStart + localTime * segment.speed, localTime⟩
      else resolveFrom finalTime (i + 1) (acc + d) segments

/-- Behind the last segment there is its end. -/
def clampedEnd (segments : List EditSegment) : ResolvedTime :=
  match segments.getLast? with
  | some last => ⟨segments.length - 1, last.trimEnd, segmentFinalDuration last⟩
  | none => ⟨0, 0, 0⟩

/-- Map a time of the whole to a segment. -/
def resolveTime (segments : List EditSegment) (finalTime : ℚ) : ResolvedTime :=
  (resolveFrom finalTime 0 0 segments).getD (clampedEnd segments)

/-! ## The player -/

/-- What the screen sets and reads of its video element. -/
structure Video where
  src : String
  playbackRate : ℚ
  currentTime : ℚ
deriving DecidableEq

structure Screen where
  segments : List EditSegment
  video : Option Video
  currentTime : ℚ
  playing : Bool
  activeIndex : Nat
deriving DecidableEq

/-- The place of the player on the timeline of the whole. -/
def playerTime (segments : List EditSegment) (activeIndex : Nat) (segment : EditSegment)
    (position : ℚ) : ℚ :=
  (segments.take activeIndex).foldl
      (fun prev earlier => prev + (earlier.trimEnd - earlier.trimStart) / earlier.speed) 0 +
    max 0 ((position - segment.trimStart) / segment.speed)

namespace Screen

def total (screen : Screen) : ℚ := manifestDuration screen.segments

/-- Follow the player. Shortly before the end of a segment the next one starts. -/
def onTimeUpdate (screen : Screen) : Screen :=
  match screen.video, screen.segments[screen.activeIndex]? with
  | some video, some segment =>
      let screen :=
        { screen with
          currentTime :=
            playerTime screen.segments screen.activeIndex segment video.currentTime }
      if segment.trimEnd - 1 / 20 ≤ video.currentTime then
        match screen.segments[screen.activeIndex + 1]? with
        | some next =>
            { screen with
              activeIndex := screen.activeIndex + 1
              video := some ⟨next.src, next.speed, next.trimStart⟩ }
        | none => { screen with playing := false, currentTime := screen.total }
      else screen
  | _, _ => screen

/-- Take the player to the current time. -/
def syncVideo (screen : Screen) : Screen :=
  let resolved := resolveTime screen.segments screen.currentTime
  match screen.video, screen.segments[resolved.segmentIndex]? with
  | some video, some segment =>
      if resolved.segmentIndex ≠ screen.activeIndex then
        { screen with
          activeIndex := resolved.segmentIndex
          video := some
            ⟨segment.src, segment.speed,
              min resolved.sourceTime (max 0 (segment.trimEnd - 1 / 20))⟩ }
      else { screen with video := some { video with src := segment.src } }
  | _, _ => screen

def seekTo (screen : Screen) (t : ℚ) : Screen :=
  { screen with currentTime := max 0 (min screen.total t) }.syncVideo

/-- Before the end of the whole, the screen shows the place of the player. -/
theorem onTimeUpdate_currentTime {screen : Screen} {video : Video} {segment : EditSegment}
    (hasVideo : screen.video = some video)
    (isActive : screen.segments[screen.activeIndex]? = some segment)
    (goesOn : video.currentTime < segment.trimEnd - 1 / 20 ∨
      screen.activeIndex + 1 < screen.segments.length) :
    screen.onTimeUpdate.currentTime =
      playerTime screen.segments screen.activeIndex segment video.currentTime := by
  unfold onTimeUpdate
  rw [hasVideo, isActive]
  dsimp only
  split
  next late =>
    rcases goesOn with early | more
    · exact absurd late (not_le_of_gt early)
    · rw [List.getElem?_eq_getElem more]
  next => rfl

end Screen

/-! ## The two mappings -/

/-- A segment that takes time in the order of its trims. -/
structure EditSegment.Playable (segment : EditSegment) : Prop where
  ordered : segment.trimStart ≤ segment.trimEnd
  positive : 0 < segment.speed

theorem segmentFinalDuration_nonneg (segment : EditSegment) :
    0 ≤ segmentFinalDuration segment := le_max_left _ _

theorem EditSegment.Playable.segmentFinalDuration_eq {segment : EditSegment}
    (playable : segment.Playable) :
    segmentFinalDuration segment =
      (segment.trimEnd - segment.trimStart) / segment.speed :=
  max_eq_right (div_nonneg (sub_nonneg.mpr playable.ordered) playable.positive.le)

/-- The lengths of the segments on the timeline of the whole. -/
def lengths (segments : List EditSegment) : List ℚ := segments.map segmentFinalDuration

theorem nonneg_of_mem_lengths {segments : List EditSegment} {length : ℚ}
    (member : length ∈ lengths segments) : 0 ≤ length := by
  obtain ⟨segment, -, rfl⟩ := List.mem_map.mp member
  exact segmentFinalDuration_nonneg segment

theorem foldl_add (measure : EditSegment → ℚ) (segments : List EditSegment) (acc : ℚ) :
    segments.foldl (fun sum segment => sum + measure segment) acc =
      acc + (segments.map measure).sum := by
  induction segments generalizing acc with
  | nil => simp
  | cons segment segments inductionHypothesis =>
      rw [List.foldl_cons, inductionHypothesis, List.map_cons, List.sum_cons, add_assoc]

theorem manifestDuration_eq (segments : List EditSegment) :
    manifestDuration segments = (lengths segments).sum := by
  rw [manifestDuration, foldl_add, zero_add, lengths]

/-- The loop stops at the segment in which the time lies. -/
theorem resolveFrom_of_lies {segments : List EditSegment} {finalTime acc offset : ℚ}
    {i index : Nat} {segment : EditSegment} (isSegment : segments[index]? = some segment)
    (lies : Lies (lengths segments) (finalTime - acc) index offset) :
    resolveFrom finalTime i acc segments =
      some ⟨i + index, segment.trimStart + offset * segment.speed, offset⟩ := by
  induction segments generalizing i acc index with
  | nil => simp at isSegment
  | cons first segments inductionHypothesis =>
      have time := lies.time_eq
      rw [resolveFrom]
      dsimp only
      cases index with
      | zero =>
          obtain rfl : first = segment := by simpa using isSegment
          obtain ⟨length, isLength, inside⟩ := lies.within
          obtain rfl : segmentFinalDuration first = length := by simpa [lengths] using isLength
          rw [Timeline.startOf_zero, zero_add] at time
          rw [if_pos (by linarith), time]
          rfl
      | succ index =>
          have shifted : lengths (first :: segments) =
              segmentFinalDuration first :: lengths segments := rfl
          rw [shifted, Timeline.startOf_cons_succ] at time
          have started : 0 ≤ startOf (lengths segments) index := by
            rw [← Timeline.startOf_zero (lengths segments)]
            exact Timeline.startOf_mono (fun _ => nonneg_of_mem_lengths) (Nat.zero_le _)
          have later : Lies (lengths segments)
              (finalTime - (acc + segmentFinalDuration first)) index offset :=
            ⟨by linarith, lies.nonneg, lies.within⟩
          rw [if_neg (by linarith [lies.nonneg]), inductionHypothesis isSegment later]
          congr 2
          omega

theorem resolveTime_of_lies {segments : List EditSegment} {finalTime offset : ℚ} {index : Nat}
    {segment : EditSegment} (isSegment : segments[index]? = some segment)
    (lies : Lies (lengths segments) finalTime index offset) :
    resolveTime segments finalTime =
      ⟨index, segment.trimStart + offset * segment.speed, offset⟩ := by
  have fromStart : Lies (lengths segments) (finalTime - 0) index offset := by
    rwa [sub_zero]
  rw [resolveTime, resolveFrom_of_lies isSegment fromStart, Nat.zero_add]
  rfl

/-- A time before the end lies where it is resolved to. -/
theorem exists_resolved {segments : List EditSegment} {finalTime : ℚ} (starts : 0 ≤ finalTime)
    (ends : finalTime < manifestDuration segments) :
    ∃ index offset segment, segments[index]? = some segment ∧
      Lies (lengths segments) finalTime index offset ∧
      resolveTime segments finalTime =
        ⟨index, segment.trimStart + offset * segment.speed, offset⟩ := by
  rw [manifestDuration_eq] at ends
  obtain ⟨index, offset, lies⟩ := Timeline.exists_lies starts ends
  obtain ⟨length, isLength, -⟩ := lies.within
  rw [lengths, List.getElem?_map, Option.map_eq_some_iff] at isLength
  obtain ⟨segment, isSegment, -⟩ := isLength
  exact ⟨index, offset, segment, isSegment, lies, resolveTime_of_lies isSegment lies⟩

section Playable

variable {segments : List EditSegment}

theorem mem_of_segment {index : Nat} {segment : EditSegment}
    (isSegment : segments[index]? = some segment) : segment ∈ segments :=
  List.mem_of_getElem? isSegment

/-- The source time of an offset into a segment is within its trims. -/
theorem sourceTime_within {segment : EditSegment} (playable : segment.Playable) {offset : ℚ}
    (nonneg : 0 ≤ offset) (inside : offset < segmentFinalDuration segment) :
    segment.trimStart ≤ segment.trimStart + offset * segment.speed ∧
      segment.trimStart + offset * segment.speed < segment.trimEnd := by
  rw [playable.segmentFinalDuration_eq, lt_div_iff₀ playable.positive] at inside
  exact ⟨le_add_of_nonneg_right (mul_nonneg nonneg playable.positive.le), by linarith⟩

/-- The player's own sum of the segments before. -/
theorem playerTime_eq (playable : ∀ segment ∈ segments, segment.Playable) {index : Nat}
    {segment : EditSegment} (isSegment : segments[index]? = some segment) {position : ℚ}
    (starts : segment.trimStart ≤ position) :
    playerTime segments index segment position =
      startOf (lengths segments) index + (position - segment.trimStart) / segment.speed := by
  have positive := (playable segment (mem_of_segment isSegment)).positive
  have same : (segments.take index).map
        (fun earlier => (earlier.trimEnd - earlier.trimStart) / earlier.speed) =
      (lengths segments).take index := by
    rw [lengths, ← List.map_take]
    refine List.map_congr_left fun earlier member => ?_
    exact (playable earlier (List.mem_of_mem_take member)).segmentFinalDuration_eq.symm
  rw [playerTime, foldl_add, zero_add, same, startOf,
    max_eq_right (div_nonneg (sub_nonneg.mpr starts) positive.le)]

/-- Where the player is, the time that it shows lies. -/
theorem lies_playerTime (playable : ∀ segment ∈ segments, segment.Playable) {index : Nat}
    {segment : EditSegment} (isSegment : segments[index]? = some segment) {position : ℚ}
    (starts : segment.trimStart ≤ position) (ends : position < segment.trimEnd) :
    Lies (lengths segments) (playerTime segments index segment position) index
      ((position - segment.trimStart) / segment.speed) := by
  have plays := playable segment (mem_of_segment isSegment)
  refine ⟨playerTime_eq playable isSegment starts,
    div_nonneg (sub_nonneg.mpr starts) plays.positive.le, segmentFinalDuration segment, ?_, ?_⟩
  · rw [lengths, List.getElem?_map, isSegment]
    rfl
  · rw [plays.segmentFinalDuration_eq]
    exact div_lt_div_of_pos_right (by linarith) plays.positive

/-- To seek to the time that the player shows is to stay where it is. -/
theorem resolveTime_playerTime (playable : ∀ segment ∈ segments, segment.Playable) {index : Nat}
    {segment : EditSegment} (isSegment : segments[index]? = some segment) {position : ℚ}
    (starts : segment.trimStart ≤ position) (ends : position < segment.trimEnd) :
    resolveTime segments (playerTime segments index segment position) =
      ⟨index, position, (position - segment.trimStart) / segment.speed⟩ := by
  have plays := playable segment (mem_of_segment isSegment)
  rw [resolveTime_of_lies isSegment (lies_playerTime playable isSegment starts ends),
    div_mul_cancel₀ _ plays.positive.ne', add_sub_cancel]

/-- Later times are resolved to later segments, or to later source times of the same. -/
theorem resolveTime_mono (playable : ∀ segment ∈ segments, segment.Playable)
    {earlier later : ℚ} (starts : 0 ≤ earlier) (order : earlier ≤ later)
    (ends : later < manifestDuration segments) :
    toLex ((resolveTime segments earlier).segmentIndex,
        (resolveTime segments earlier).sourceTime) ≤
      toLex ((resolveTime segments later).segmentIndex,
        (resolveTime segments later).sourceTime) := by
  obtain ⟨index, offset, segment, isSegment, lies, resolved⟩ :=
    exists_resolved starts (lt_of_le_of_lt order ends)
  obtain ⟨laterIndex, laterOffset, laterSegment, isLater, laterLies, laterResolved⟩ :=
    exists_resolved (le_trans starts order) ends
  rw [resolved, laterResolved, Prod.Lex.toLex_le_toLex]
  rcases lies.mono (fun _ => nonneg_of_mem_lengths) laterLies order with before | ⟨rfl, less⟩
  · exact .inl before
  · obtain rfl : segment = laterSegment := Option.some.inj (isSegment.symm.trans isLater)
    have positive := (playable segment (mem_of_segment isSegment)).positive
    exact .inr ⟨rfl, add_le_add_right (mul_le_mul_of_nonneg_right less positive.le) _⟩

/-- `resolveTime` splits a time into a segment and a place in it, in order, and undoes what
the player does. -/
theorem resolveTime_spec (playable : ∀ segment ∈ segments, segment.Playable) :
    (∀ t, 0 ≤ t → t < manifestDuration segments →
      ∃ segment, segments[(resolveTime segments t).segmentIndex]? = some segment ∧
        t = ((segments.take (resolveTime segments t).segmentIndex).map
            segmentFinalDuration).sum + (resolveTime segments t).localTime ∧
        0 ≤ (resolveTime segments t).localTime ∧
        (resolveTime segments t).localTime < segmentFinalDuration segment ∧
        segment.trimStart ≤ (resolveTime segments t).sourceTime ∧
        (resolveTime segments t).sourceTime < segment.trimEnd) ∧
    (∀ earlier later, 0 ≤ earlier → earlier ≤ later → later < manifestDuration segments →
      toLex ((resolveTime segments earlier).segmentIndex,
          (resolveTime segments earlier).sourceTime) ≤
        toLex ((resolveTime segments later).segmentIndex,
          (resolveTime segments later).sourceTime)) ∧
    ∀ i segment source, segments[i]? = some segment → segment.trimStart ≤ source →
      source < segment.trimEnd →
      playerTime segments i segment source =
        ((segments.take i).map segmentFinalDuration).sum +
          (source - segment.trimStart) / segment.speed ∧
      (resolveTime segments (playerTime segments i segment source)).segmentIndex = i ∧
      (resolveTime segments (playerTime segments i segment source)).sourceTime = source := by
  refine ⟨fun t starts ends => ?_,
    fun earlier later starts order ends => resolveTime_mono playable starts order ends,
    fun i segment source isSegment starts ends => ?_⟩
  · obtain ⟨index, offset, segment, isSegment, lies, resolved⟩ := exists_resolved starts ends
    obtain ⟨length, isLength, inside⟩ := lies.within
    have own : length = segmentFinalDuration segment := by
      rw [lengths, List.getElem?_map, isSegment] at isLength
      exact (Option.some.inj isLength).symm
    subst own
    have time := lies.time_eq
    rw [startOf, lengths, ← List.map_take] at time
    have source := sourceTime_within (playable segment (mem_of_segment isSegment)) lies.nonneg
      inside
    rw [resolved]
    exact ⟨segment, isSegment, time, lies.nonneg, inside, source⟩
  · have time := playerTime_eq playable isSegment starts
    rw [startOf, lengths, ← List.map_take] at time
    rw [resolveTime_playerTime playable isSegment starts ends]
    exact ⟨time, rfl, rfl⟩

end Playable

namespace Sample

def last : EditSegment := ⟨"blob:3", 2, 0, 2, 1 / 2, 1⟩

/-- The second segment is empty. -/
def segments : List EditSegment :=
  [⟨"blob:1", 4, 1, 3, 2, 1⟩, ⟨"blob:2", 1, 1, 1, 1, 1⟩, last]

theorem playable : ∀ segment ∈ segments, segment.Playable := by
  simp only [segments, last, List.forall_mem_cons]
  refine ⟨⟨?_, ?_⟩, ⟨?_, ?_⟩, ⟨?_, ?_⟩, by simp⟩ <;> norm_num

theorem resolves_behind_empty :
    playerTime segments 2 last 0 = ((segments.take 2).map segmentFinalDuration).sum +
        (0 - last.trimStart) / last.speed ∧
      (resolveTime segments (playerTime segments 2 last 0)).segmentIndex = 2 ∧
      (resolveTime segments (playerTime segments 2 last 0)).sourceTime = 0 :=
  (resolveTime_spec playable).2.2 2 last 0 rfl (le_refl _) (by norm_num [last])

end Sample

end Editor
end TootTok
