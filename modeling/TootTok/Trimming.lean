import TootTok.Editor
import TootTok.Effects.Runs

/-!
# Trimming

Segments come from the recorder or the gallery with trims around all of them, and the edit
screen moves the trims. It keeps them a tenth of a second apart, which a shorter segment does
not have room for.
-/

namespace TootTok
namespace Editor

open Effects

/-! ## Recorded segments -/

/-- A video whose metadata are loaded. Some have no finite duration, which counts as none. -/
def loadedSegment (src : String) (duration : Option ℚ≥0) : EditSegment where
  src := src
  sourceDuration := duration.getD 0
  trimStart := 0
  trimEnd := duration.getD 0
  speed := 1
  volume := 1

inductive RecordEvent
  /-- A recording stops, with the data that have arrived. -/
  | onstop (chunks : List (List UInt8)) (src : String) (duration : Option ℚ≥0)
  | onGallery (file : Option (List UInt8)) (src : String) (duration : Option ℚ≥0)
  | undoLast (confirmed : Bool)
  | removeSegmentAt (index : Nat) (confirmed : Bool)

/-- The segments of the record screen after an event. -/
def record (segments : List EditSegment) : RecordEvent → List EditSegment
  | .onstop chunks src duration =>
      if chunks.isEmpty then segments else segments ++ [loadedSegment src duration]
  | .onGallery file src duration =>
      if file.isNone then segments else segments ++ [loadedSegment src duration]
  | .undoLast confirmed => if confirmed then segments.dropLast else segments
  | .removeSegmentAt index confirmed =>
      if confirmed then segments.eraseIdx index else segments

/-- The segments that the record screen hands on. -/
def recorded (events : List RecordEvent) : List EditSegment := Runs.after record [] events

/-! ## The edit screen -/

inductive Edge
  | start
  | stop
deriving DecidableEq

/-- Move one trim, clamped against the bound and against the other trim. -/
def EditSegment.setTrim (segment : EditSegment) (edge : Edge) (value : ℚ) : EditSegment :=
  let low := 0
  let high := segment.sourceDuration
  match edge with
  | .start => { segment with trimStart := min (max low value) (segment.trimEnd - 1 / 10) }
  | .stop => { segment with trimEnd := max (min high value) (segment.trimStart + 1 / 10) }

def SPEEDS : List ℚ := [1 / 2, 1, 2, 3]

inductive EditEvent
  | setTrim (index : Nat) (edge : Edge) (value : ℚ)
  | setSpeed (index : Nat) (speed : {speed : ℚ // speed ∈ SPEEDS})
  | removeSegment (index : Nat)
  | seekTo (t : ℚ)
  /-- The player has come to a position. -/
  | timeUpdate (position : ℚ)
  | togglePlay

namespace Screen

def setTrim (screen : Screen) (index : Nat) (edge : Edge) (value : ℚ) : Screen :=
  let segments := screen.segments.modify index fun segment => segment.setTrim edge value
  { screen with segments := segments }.syncVideo

def setSpeed (screen : Screen) (index : Nat) (speed : ℚ) : Screen :=
  { screen with
    segments := screen.segments.modify index fun segment => { segment with speed := speed } }

def removeSegment (screen : Screen) (index : Nat) : Screen :=
  let segments := screen.segments.eraseIdx index
  let activeIndex :=
    if segments.length ≤ screen.activeIndex then segments.length - 1 else screen.activeIndex
  { screen with segments := segments, activeIndex := activeIndex }.syncVideo

/-- Start or pause the player; at the end it starts over. -/
def togglePlay (screen : Screen) : Screen :=
  match screen.video with
  | none => screen
  | some video =>
      if screen.playing then { screen with playing := false }
      else if screen.total ≤ screen.currentTime then
        match screen.segments.head? with
        | none => screen
        | some first =>
            { screen with
              currentTime := 0
              activeIndex := 0
              playing := true
              video := some ⟨first.src, first.speed, first.trimStart⟩ }
      else
        let speed := (screen.segments[screen.activeIndex]?.map EditSegment.speed).getD 1
        { screen with playing := true, video := some { video with playbackRate := speed } }

/-- The screen after an event. -/
def edit (screen : Screen) : EditEvent → Screen
  | .setTrim index edge value => screen.setTrim index edge value
  | .setSpeed index speed => screen.setSpeed index speed.val
  | .removeSegment index => screen.removeSegment index
  | .seekTo t => screen.seekTo t
  | .timeUpdate position =>
      let video := screen.video.map fun video : Video => { video with currentTime := position }
      { screen with video := video }.onTimeUpdate
  | .togglePlay => screen.togglePlay

end Screen

/-! ## Trims within a segment -/

/-- The trims are in order and within the source. -/
def EditSegment.InWindow (segment : EditSegment) : Prop :=
  0 ≤ segment.trimStart ∧ segment.trimStart ≤ segment.trimEnd ∧
    segment.trimEnd ≤ segment.sourceDuration

instance (segment : EditSegment) : Decidable segment.InWindow := by
  unfold EditSegment.InWindow
  infer_instance

/-- The source has room for the gap between the trims. -/
def EditSegment.Roomy (segment : EditSegment) : Prop := 1 / 10 ≤ segment.sourceDuration

/-- Trims within the source, with the gap between them if there is room for it. -/
structure EditSegment.Trimmed (segment : EditSegment) : Prop where
  inWindow : segment.InWindow
  apart : segment.Roomy → segment.trimStart + 1 / 10 ≤ segment.trimEnd

theorem trimmed_loadedSegment (src : String) (duration : Option ℚ≥0) :
    (loadedSegment src duration).Trimmed where
  inWindow := ⟨le_refl 0, (duration.getD 0).coe_nonneg, le_refl _⟩
  apart roomy := by
    show (0 : ℚ) + 1 / 10 ≤ _
    rwa [zero_add]

namespace EditSegment

variable {segment : EditSegment} {edge : Edge} {value : ℚ}

@[simp] theorem setTrim_sourceDuration :
    (segment.setTrim edge value).sourceDuration = segment.sourceDuration := by
  cases edge <;> rfl

@[simp] theorem setTrim_speed : (segment.setTrim edge value).speed = segment.speed := by
  cases edge <;> rfl

@[simp] theorem trimStart_setTrim_start :
    (segment.setTrim .start value).trimStart =
      min (max 0 value) (segment.trimEnd - 1 / 10) := rfl

@[simp] theorem trimEnd_setTrim_start :
    (segment.setTrim .start value).trimEnd = segment.trimEnd := rfl

@[simp] theorem trimStart_setTrim_stop :
    (segment.setTrim .stop value).trimStart = segment.trimStart := rfl

@[simp] theorem trimEnd_setTrim_stop :
    (segment.setTrim .stop value).trimEnd =
      max (min segment.sourceDuration value) (segment.trimStart + 1 / 10) := rfl

/-- The trims are apart after every call. -/
theorem setTrim_apart :
    (segment.setTrim edge value).trimStart + 1 / 10 ≤ (segment.setTrim edge value).trimEnd := by
  cases edge with
  | start =>
      rw [trimStart_setTrim_start, trimEnd_setTrim_start]
      linarith [min_le_right (max 0 value) (segment.trimEnd - 1 / 10)]
  | stop =>
      rw [trimStart_setTrim_stop, trimEnd_setTrim_stop]
      exact le_max_right _ _

/-- Where there is room, the trims stay within the source. -/
theorem Trimmed.setTrim (trimmed : segment.Trimmed) (roomy : segment.Roomy) :
    (segment.setTrim edge value).Trimmed := by
  obtain ⟨starts, -, ends⟩ := trimmed.inWindow
  have apart := trimmed.apart roomy
  refine ⟨⟨?_, ?_, ?_⟩, fun _ => setTrim_apart⟩
  · cases edge with
    | start => exact le_min (le_max_left _ _) (by linarith)
    | stop => exact starts
  · linarith [@setTrim_apart segment edge value]
  · cases edge with
    | start => exact ends
    | stop => exact max_le (min_le_left _ _) (le_trans apart ends)

/-- Only where there is room they do. -/
theorem roomy_of_inWindow_setTrim (inWindow : (segment.setTrim edge value).InWindow) :
    segment.Roomy := by
  obtain ⟨low, -, high⟩ := inWindow
  have apart := @setTrim_apart segment edge value
  rw [setTrim_sourceDuration] at high
  rw [Roomy]
  linarith

end EditSegment

/-! ## Recording -/

/-- Every recorded segment is one that has just been loaded. -/
theorem loaded_of_recorded (events : List RecordEvent) {segment : EditSegment}
    (member : segment ∈ recorded events) :
    ∃ src duration, segment = loadedSegment src duration := by
  let loaded (segments : List EditSegment) : Prop :=
    ∀ segment ∈ segments, ∃ src duration, segment = loadedSegment src duration
  have kept : ∀ segments event, loaded segments → True → loaded (record segments event) := by
    intro segments event before _
    cases event with
    | onstop chunks src duration | onGallery chunks src duration =>
        rw [record]
        split
        · exact before
        · exact List.forall_mem_append.mpr ⟨before, by simp⟩
    | undoLast confirmed =>
        rw [record]
        split
        · exact fun segment member => before segment (List.dropLast_subset _ member)
        · exact before
    | removeSegmentAt index confirmed =>
        rw [record]
        split
        · exact fun segment member => before segment (List.mem_of_mem_eraseIdx member)
        · exact before
  have all : loaded (recorded events) :=
    Runs.invariant_after kept (fun _ => nofun) (Runs.EachStep.true [] events)
  exact all segment member

theorem trimmed_of_recorded (events : List RecordEvent) {segment : EditSegment}
    (member : segment ∈ recorded events) : segment.Trimmed := by
  obtain ⟨src, duration, rfl⟩ := loaded_of_recorded events member
  exact trimmed_loadedSegment src duration

/-! ## Runs of trims -/

theorem Screen.syncVideo_segments (screen : Screen) :
    screen.syncVideo.segments = screen.segments := by
  unfold syncVideo
  dsimp only
  split
  · split <;> rfl
  · rfl

/-- A call of `setTrim`. -/
structure TrimCall where
  index : Nat
  edge : Edge
  value : ℚ

def Screen.trim (screen : Screen) (call : TrimCall) : Screen :=
  screen.setTrim call.index call.edge call.value

theorem Screen.trim_segments (screen : Screen) (call : TrimCall) :
    (screen.trim call).segments =
      screen.segments.modify call.index fun segment => segment.setTrim call.edge call.value :=
  syncVideo_segments _

/-- What a change of one segment keeps of all. -/
theorem forall_mem_modify {holds : EditSegment → Prop} {change : EditSegment → EditSegment}
    {segments : List EditSegment} {index : Nat} (before : ∀ segment ∈ segments, holds segment)
    (kept : ∀ segment, segments[index]? = some segment → holds (change segment)) :
    ∀ segment ∈ segments.modify index change, holds segment := by
  intro segment member
  obtain ⟨place, isSegment⟩ := List.mem_iff_getElem?.mp member
  rw [List.getElem?_modify] at isSegment
  obtain ⟨old, isOld, rfl⟩ := Option.map_eq_some_iff.mp isSegment
  by_cases here : index = place
  · subst here
    rw [if_pos rfl]
    exact kept old isOld
  · rw [if_neg here]
    exact before old (List.mem_of_getElem? isOld)

/-- The segment that a call moves has room for its gap. -/
def TrimCall.Fits (segments : List EditSegment) (call : TrimCall) : Prop :=
  ∀ segment, segments[call.index]? = some segment → segment.Roomy

/-- Which calls fit does not change. -/
theorem fits_trim {screen : Screen} {call other : TrimCall} :
    other.Fits (screen.trim call).segments ↔ other.Fits screen.segments := by
  unfold TrimCall.Fits EditSegment.Roomy
  rw [Screen.trim_segments, List.getElem?_modify]
  cases screen.segments[other.index]? with
  | none => simp
  | some segment =>
      by_cases here : call.index = other.index <;> simp [here]

/-- A call that fits keeps the segments trimmed, and only such a call keeps the windows. -/
theorem trim_inWindow_iff {screen : Screen} {call : TrimCall}
    (trimmed : ∀ segment ∈ screen.segments, segment.Trimmed) :
    (∀ segment ∈ (screen.trim call).segments, segment.InWindow) ↔
      call.Fits screen.segments := by
  constructor
  · intro windows segment isSegment
    refine EditSegment.roomy_of_inWindow_setTrim
      (windows (segment.setTrim call.edge call.value) ?_)
    rw [Screen.trim_segments]
    refine List.mem_iff_getElem?.mpr ⟨call.index, ?_⟩
    rw [List.getElem?_modify_eq, isSegment]
    rfl
  · intro fits
    rw [Screen.trim_segments]
    refine forall_mem_modify (fun segment member => (trimmed segment member).inWindow) ?_
    exact fun segment isSegment =>
      ((trimmed segment (List.mem_of_getElem? isSegment)).setTrim (fits segment isSegment)).inWindow

theorem trimmed_trim {screen : Screen} {call : TrimCall}
    (trimmed : ∀ segment ∈ screen.segments, segment.Trimmed) (fits : call.Fits screen.segments) :
    ∀ segment ∈ (screen.trim call).segments, segment.Trimmed := by
  rw [Screen.trim_segments]
  exact forall_mem_modify trimmed fun segment isSegment =>
    (trimmed segment (List.mem_of_getElem? isSegment)).setTrim (fits segment isSegment)

theorem each_inWindow_iff {screen : Screen} {calls : List TrimCall}
    (trimmed : ∀ segment ∈ screen.segments, segment.Trimmed) :
    Runs.EachStep Screen.trim
        (fun before call => ∀ segment ∈ (before.trim call).segments, segment.InWindow)
        screen calls ↔
      ∀ call ∈ calls, call.Fits screen.segments := by
  induction calls generalizing screen with
  | nil => simp
  | cons call calls inductionHypothesis =>
      rw [Runs.eachStep_cons, trim_inWindow_iff trimmed, List.forall_mem_cons]
      refine and_congr_right fun fits => ?_
      rw [inductionHypothesis (trimmed_trim trimmed fits)]
      exact forall₂_congr fun other _ => fits_trim

/-- The trims of recorded segments stay in order and within their sources if and only if no
segment shorter than a tenth of a second is ever trimmed. -/
theorem windows_kept_iff (events : List RecordEvent) (screen : Screen) (calls : List TrimCall) :
    Runs.EachStep Screen.trim
        (fun before call => ∀ segment ∈ (before.trim call).segments,
          0 ≤ segment.trimStart ∧ segment.trimStart ≤ segment.trimEnd ∧
            segment.trimEnd ≤ segment.sourceDuration)
        { screen with segments := recorded events } calls ↔
      ∀ call ∈ calls, ∀ segment, (recorded events)[call.index]? = some segment →
        1 / 10 ≤ segment.sourceDuration :=
  each_inWindow_iff fun _ member => trimmed_of_recorded events member

namespace Sample

/-- An edit screen before anything is played. -/
def screen : Screen where
  segments := []
  video := none
  currentTime := 0
  playing := false
  activeIndex := 0

/-- A video of unknown duration is picked, and its start is trimmed to where it is. -/
theorem unknown_duration_trimmed :
    ¬∀ (events : List RecordEvent) (screen : Screen) (calls : List TrimCall),
      Runs.EachStep Screen.trim
        (fun before call => ∀ segment ∈ (before.trim call).segments,
          0 ≤ segment.trimStart ∧ segment.trimStart ≤ segment.trimEnd ∧
            segment.trimEnd ≤ segment.sourceDuration)
        { screen with segments := recorded events } calls := by
  intro kept
  have trimmed := kept [.onGallery (some []) "blob:1" none] screen [⟨0, .start, 0⟩]
  have window := trimmed.1 ((loadedSegment "blob:1" none).setTrim .start 0) (by
    rw [Screen.trim_segments]
    exact List.mem_singleton_self _)
  exact absurd window.1 (by with_unfolding_all decide)

end Sample

/-! ## Runs of the edit screen -/

/-- Every segment can be played, and the active one is one of them. -/
structure Screen.Sound (screen : Screen) : Prop where
  trimmed : ∀ segment ∈ screen.segments, segment.Trimmed ∧ segment.Roomy ∧ 0 < segment.speed
  active : screen.segments ≠ [] → screen.activeIndex < screen.segments.length

theorem positive_of_mem_SPEEDS {speed : ℚ} (member : speed ∈ SPEEDS) : 0 < speed := by
  simp only [SPEEDS, List.mem_cons, List.not_mem_nil, or_false] at member
  rcases member with rfl | rfl | rfl | rfl <;> norm_num

namespace Screen

theorem syncVideo_activeIndex (screen : Screen) :
    screen.syncVideo.activeIndex = screen.activeIndex ∨
      screen.syncVideo.activeIndex < screen.segments.length := by
  unfold syncVideo
  dsimp only
  split
  next segment _ isSegment =>
    split
    · exact .inr (List.getElem?_eq_some_iff.mp isSegment).1
    · exact .inl rfl
  next => exact .inl rfl

theorem sound_syncVideo {screen : Screen} (sound : screen.Sound) : screen.syncVideo.Sound := by
  refine ⟨?_, ?_⟩ <;> rw [syncVideo_segments]
  · exact sound.trimmed
  · intro nonempty
    rcases screen.syncVideo_activeIndex with same | inside
    · rw [same]
      exact sound.active nonempty
    · exact inside

theorem sound_onTimeUpdate {screen : Screen} (sound : screen.Sound) :
    screen.onTimeUpdate.Sound := by
  unfold onTimeUpdate
  split
  · dsimp only
    split
    · split
      next isNext => exact ⟨sound.trimmed, fun _ => (List.getElem?_eq_some_iff.mp isNext).1⟩
      next => exact ⟨sound.trimmed, sound.active⟩
    · exact ⟨sound.trimmed, sound.active⟩
  · exact sound

theorem sound_togglePlay {screen : Screen} (sound : screen.Sound) : screen.togglePlay.Sound := by
  unfold togglePlay
  split
  · exact sound
  · split
    · exact ⟨sound.trimmed, sound.active⟩
    · split
      · split
        · exact sound
        · exact ⟨sound.trimmed, fun nonempty => List.length_pos_iff.mpr nonempty⟩
      · exact ⟨sound.trimmed, sound.active⟩

theorem sound_modify {screen : Screen} (sound : screen.Sound) (index : Nat)
    {change : EditSegment → EditSegment}
    (kept : ∀ segment, segment.Trimmed ∧ segment.Roomy ∧ 0 < segment.speed →
      (change segment).Trimmed ∧ (change segment).Roomy ∧ 0 < (change segment).speed) :
    { screen with segments := screen.segments.modify index change }.Sound where
  trimmed := forall_mem_modify sound.trimmed fun segment isSegment =>
    kept segment (sound.trimmed segment (List.mem_of_getElem? isSegment))
  active nonempty := by
    have before : screen.segments ≠ [] := fun empty => nonempty (by simp [empty])
    simpa using sound.active before

theorem sound_edit {screen : Screen} (sound : screen.Sound) (event : EditEvent) :
    (screen.edit event).Sound := by
  cases event with
  | setTrim index edge value =>
      refine sound_syncVideo (sound_modify sound index fun segment before => ?_)
      obtain ⟨trimmed, roomy, positive⟩ := before
      refine ⟨trimmed.setTrim roomy, ?_, ?_⟩
      · rwa [EditSegment.Roomy, EditSegment.setTrim_sourceDuration]
      · rwa [EditSegment.setTrim_speed]
  | setSpeed index speed =>
      refine sound_modify sound index fun segment before => ?_
      obtain ⟨trimmed, roomy, -⟩ := before
      exact ⟨⟨trimmed.inWindow, trimmed.apart⟩, roomy, positive_of_mem_SPEEDS speed.property⟩
  | removeSegment index =>
      refine sound_syncVideo ⟨fun segment member => ?_, fun nonempty => ?_⟩
      · exact sound.trimmed segment (List.mem_of_mem_eraseIdx member)
      · have positive := List.length_pos_iff.mpr nonempty
        dsimp only at positive ⊢
        split <;> omega
  | seekTo t => exact sound_syncVideo ⟨sound.trimmed, sound.active⟩
  | timeUpdate position => exact sound_onTimeUpdate ⟨sound.trimmed, sound.active⟩
  | togglePlay => exact sound_togglePlay sound

/-- Segments that are long enough stay playable and within their sources, whatever is done on
the screen, and the active one exists. -/
theorem sound_after {screen : Screen} (sound : screen.Sound) (events : List EditEvent) :
    (Runs.after edit screen events).Sound := by
  have kept : ∀ (screen : Screen) (event : EditEvent), screen.Sound → True →
      (screen.edit event).Sound := fun _ event before _ => sound_edit before event
  exact Runs.invariant_after kept sound (Runs.EachStep.true screen events)

theorem sound_recorded (events : List RecordEvent)
    (roomy : ∀ segment ∈ recorded events, segment.Roomy) (video : Option Video) :
    Sound ⟨recorded events, video, 0, false, 0⟩ where
  trimmed segment member := by
    refine ⟨trimmed_of_recorded events member, roomy segment member, ?_⟩
    obtain ⟨src, duration, rfl⟩ := loaded_of_recorded events member
    exact one_pos
  active nonempty := List.length_pos_iff.mpr nonempty

theorem Sound.playable {screen : Screen} (sound : screen.Sound) :
    ∀ segment ∈ screen.segments, segment.Playable := fun segment member =>
  ⟨(sound.trimmed segment member).1.inWindow.2.1, (sound.trimmed segment member).2.2⟩

/-- Before the end of the whole, to seek to the time that the screen shows is to stay. -/
theorem Sound.resolveTime_onTimeUpdate {screen : Screen} (sound : screen.Sound) {video : Video}
    {segment : EditSegment} (hasVideo : screen.video = some video)
    (isActive : screen.segments[screen.activeIndex]? = some segment)
    (starts : segment.trimStart ≤ video.currentTime)
    (ends : video.currentTime < segment.trimEnd)
    (goesOn : video.currentTime < segment.trimEnd - 1 / 20 ∨
      screen.activeIndex + 1 < screen.segments.length) :
    resolveTime screen.segments screen.onTimeUpdate.currentTime =
      ⟨screen.activeIndex, video.currentTime,
        (video.currentTime - segment.trimStart) / segment.speed⟩ := by
  rw [onTimeUpdate_currentTime hasVideo isActive goesOn]
  exact resolveTime_playerTime sound.playable isActive starts ends

end Screen

end Editor
end TootTok
