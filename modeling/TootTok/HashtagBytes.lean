import TootTok.Bytes
import TootTok.Effects.Loops
import TootTok.Uploads

/-!
# Extracting hashtags

Hashtags are extracted by two nested loops over the bytes of a caption. They find the first
ten distinct tags, in lower case, and slice on character boundaries only.
-/

namespace TootTok
namespace Hashtags

open Bytes (utf8Bytes leadByte byteAt byteAt_front slice_between)
open Duration (slice byteLength)
open Effects (Timed Ends loop)

/-! ## The specification -/

/-- The longest text of tag characters that directly follows a `#` in front. -/
def runAt? : List Char → Option (List Char)
  | '#' :: rest => some (rest.takeWhile isTagChar)
  | _ => none

/-- The longest texts of tag characters that directly follow a `#`. -/
def tagRuns (caption : List Char) : List (List Char) :=
  caption.tails.filterMap runAt?

/-- The tags as they are stored, each as often as it occurs. -/
def tagValues (caption : List Char) : List String :=
  ((tagRuns caption).filter (· ≠ [])).map fun run => (String.ofList run).toLower

/-- The first ten distinct tags in the order in which they occur first. -/
def firstTags (caption : List Char) : List String :=
  (tagValues caption).eraseDups.take maxHashtags

/-! ## The byte loops -/

/-- `is_ascii_alphanumeric`, or an underscore. -/
def isTagByte (byte : UInt8) : Bool :=
  (0x30 ≤ byte && byte ≤ 0x39) || (0x41 ≤ byte && byte ≤ 0x5A) ||
    (0x61 ≤ byte && byte ≤ 0x7A) || byte == 0x5F

/-- The loop that looks for the end of a tag. -/
def runBody (caption : List Char) (last : Nat) : Timed Panic (Option Nat) :=
  if last < byteLength caption then Timed.once do
    let byte ← byteAt caption last
    pure (if isTagByte byte then some (last + 1) else none)
  else Timed.once (.ok none)

structure ScanState where
  i : Nat
  tags : List String

/-- The tag between two offsets, unless there is none or it is known. -/
def pushTag (caption : List Char) (start last : Nat) (tags : List String) :
    Panicking (List String) :=
  if start < last then do
    let piece ← slice caption start last
    let tag := (String.ofList piece).toLower
    pure (if tag ∈ tags then tags else tags ++ [tag])
  else pure tags

/-- The loop over the caption. The fuel is that of the loop in it. -/
def scanBody (fuel : Nat) (caption : List Char) (state : ScanState) :
    Timed Panic (Option ScanState) :=
  if state.i < byteLength caption ∧ state.tags.length < maxHashtags then do
    let byte ← Timed.once (byteAt caption state.i)
    if byte ≠ UInt8.ofNat '#'.toNat then pure (some ⟨state.i + 1, state.tags⟩)
    else do
      let start := state.i + 1
      let last ← loop (runBody caption) fuel start
      let tags ← Timed.once (pushTag caption start last state.tags)
      pure (some ⟨max last start, tags⟩)
  else Timed.once (.ok none)

/-- `extract_hashtags` with fuel for its loops. -/
def extractBytes (fuel : Nat) (caption : List Char) : Timed Panic (List String) := do
  let state ← loop (scanBody fuel caption) fuel ⟨0, []⟩
  pure state.tags

/-! ## Collecting tags -/

/-- Append a tag that is not known yet, within the limit. -/
def collect (tags : List String) (tag : String) : List String :=
  if tags.length < maxHashtags ∧ tag ∉ tags then tags ++ [tag] else tags

/-- To collect tags one by one is to take the first distinct ones. -/
theorem foldl_collect (values : List String) {tags : List String}
    (fits : tags.length ≤ maxHashtags) :
    values.foldl collect tags =
      (tags ++ (values.filter (· ∉ tags)).eraseDups).take maxHashtags := by
  induction values generalizing tags with
  | nil =>
      rw [List.foldl_nil, List.filter_nil, List.eraseDups_nil, List.append_nil,
        List.take_of_length_le fits]
  | cons tag values inductionHypothesis =>
      rw [List.foldl_cons, collect]
      by_cases known : tag ∈ tags
      · rw [if_neg (fun both => both.2 known), inductionHypothesis fits,
          List.filter_cons_of_neg (by simpa using known)]
      by_cases room : tags.length < maxHashtags
      · rw [if_pos ⟨room, known⟩, inductionHypothesis (by simpa using Nat.succ_le_of_lt room),
          List.filter_cons_of_pos (by simpa using known), List.eraseDups_cons, List.filter_filter,
          List.append_assoc, List.singleton_append]
        congr 5
        funext other
        by_cases same : other = tag <;> simp [same]
      · have full : tags.length = maxHashtags := by omega
        rw [if_neg (fun both => room both.1), inductionHypothesis fits, List.take_left' full,
          List.take_left' full]

/-! ## The runs of a caption -/

@[simp] theorem tagRuns_nil : tagRuns [] = [] := rfl

theorem tagRuns_hash (rest : List Char) :
    tagRuns ('#' :: rest) = rest.takeWhile isTagChar :: tagRuns rest := rfl

theorem tagRuns_other {char : Char} (other : char ≠ '#') (rest : List Char) :
    tagRuns (char :: rest) = tagRuns rest := by
  have noRun : runAt? (char :: rest) = none := by
    unfold runAt?
    split
    next isHash => exact (other (List.cons.inj isHash).1).elim
    next => rfl
  show ((char :: rest) :: rest.tails).filterMap runAt? = _
  rw [List.filterMap_cons_none noRun]
  rfl

/-- No tag starts within a run. -/
theorem tagRuns_run {run : List Char} (isRun : ∀ char ∈ run, isTagChar char = true)
    (rest : List Char) : tagRuns (run ++ rest) = tagRuns rest := by
  induction run with
  | nil => rfl
  | cons char run inductionHypothesis =>
      have notHash : char ≠ '#' := by
        rintro rfl
        exact absurd (isRun '#' List.mem_cons_self) (by decide)
      rw [List.cons_append, tagRuns_other notHash]
      exact inductionHypothesis fun other member => isRun other (List.mem_cons_of_mem _ member)

theorem tagValues_other {char : Char} (other : char ≠ '#') (rest : List Char) :
    tagValues (char :: rest) = tagValues rest := by
  rw [tagValues, tagRuns_other other, tagValues]

theorem tagValues_hash (run rest : List Char) (isRun : ∀ char ∈ run, isTagChar char = true)
    (ends : rest.takeWhile isTagChar = []) :
    tagValues ('#' :: (run ++ rest)) =
      (if run = [] then [] else [(String.ofList run).toLower]) ++ tagValues rest := by
  have longest : (run ++ rest).takeWhile isTagChar = run := by
    rw [List.takeWhile_append_of_pos isRun, ends, List.append_nil]
  rw [tagValues, tagRuns_hash, longest, tagRuns_run isRun, tagValues]
  by_cases empty : run = [] <;> simp [empty]

theorem candidates_eq (caption : List Char) :
    candidates caption = (tagRuns caption).map String.ofList := by
  induction caption with
  | nil => rfl
  | cons char caption inductionHypothesis =>
      by_cases hash : char = '#'
      · subst hash
        rw [candidates, tagRuns_hash, List.map_cons, inductionHypothesis]
      · rw [candidates, tagRuns_other hash, inductionHypothesis]
        exact hash

theorem extractHashtags_eq (caption : String) :
    extractHashtags caption = firstTags caption.toList := by
  have values : ((candidates caption.toList).filter (· ≠ "")).map String.toLower =
      tagValues caption.toList := by
    rw [candidates_eq, tagValues, List.filter_map, List.map_map]
    refine congrArg _ (List.filter_congr fun run _ => ?_)
    simp
  have collected : extractHashtags caption =
      (((candidates caption.toList).filter (· ≠ "")).map String.toLower).foldl collect [] := rfl
  rw [collected, values, foldl_collect _ (Nat.zero_le _), firstTags]
  simp

/-! ## The loops -/

theorem isTagChar_iff (char : Char) : isTagChar char = true ↔
    0x30 ≤ char.toNat ∧ char.toNat ≤ 0x39 ∨ 0x41 ≤ char.toNat ∧ char.toNat ≤ 0x5A ∨
      0x61 ≤ char.toNat ∧ char.toNat ≤ 0x7A ∨ char.toNat = 0x5F := by
  have underscore : char = '_' ↔ char.toNat = 0x5F :=
    ⟨congrArg Char.toNat, fun same => Char.toNat_inj.mp same⟩
  have code : char.val.toNat = char.toNat := rfl
  unfold isTagChar Char.isAlphanum Char.isAlpha Char.isUpper Char.isLower Char.isDigit
  simp only [Bool.or_eq_true, Bool.and_eq_true, decide_eq_true_eq, beq_iff_eq, ge_iff_le,
    UInt32.le_iff_toNat_le, code, underscore, Char.reduceVal, UInt32.reduceToNat]
  omega

theorem isTagByte_iff (byte : UInt8) : isTagByte byte = true ↔
    0x30 ≤ byte.toNat ∧ byte.toNat ≤ 0x39 ∨ 0x41 ≤ byte.toNat ∧ byte.toNat ≤ 0x5A ∨
      0x61 ≤ byte.toNat ∧ byte.toNat ≤ 0x7A ∨ byte.toNat = 0x5F := by
  simp only [isTagByte, Bool.or_eq_true, Bool.and_eq_true, decide_eq_true_eq, beq_iff_eq,
    UInt8.le_iff_toNat_le, ← UInt8.toNat_inj, UInt8.reduceToNat]
  omega

theorem isTagByte_leadByte (char : Char) : isTagByte (leadByte char) = isTagChar char := by
  rw [Bool.eq_iff_iff, isTagByte_iff, isTagChar_iff]
  unfold leadByte
  rcases Bytes.utf8EncodeChar_cases char with ⟨ascii, -, bytes⟩ | ⟨lead, others, bytes, wide, -, leads⟩
  · rw [bytes, List.headD_cons, UInt8.toNat_ofNat', Nat.mod_eq_of_lt (by omega)]
  · rw [bytes, List.headD_cons]
    omega

theorem utf8Size_of_isTagChar {char : Char} (isTag : isTagChar char = true) :
    char.utf8Size = 1 := by
  rw [isTagChar_iff] at isTag
  rcases Bytes.utf8EncodeChar_cases char with ⟨-, size, -⟩ | ⟨-, -, -, wide, -⟩
  · exact size
  · omega

/-- The inner loop ends behind the run. -/
theorem run_ends (front rest : List Char) :
    Ends (runBody (front ++ rest)) (byteLength rest) (byteLength front)
      (.ok (byteLength (front ++ rest.takeWhile isTagChar))) := by
  induction rest generalizing front with
  | nil =>
      rw [List.takeWhile_nil, List.append_nil]
      refine Ends.leave ?_
      rw [runBody, if_neg (Nat.lt_irrefl _)]
  | cons char rest inductionHypothesis =>
      have positive := char.utf8Size_pos
      have inside : byteLength front < byteLength (front ++ char :: rest) := by
        rw [Duration.byteLength_append, Duration.byteLength_cons]
        omega
      have body : runBody (front ++ char :: rest) (byteLength front) =
          Timed.once (.ok (if isTagChar char then some (byteLength front + 1) else none)) := by
        rw [runBody, if_pos inside, byteAt_front, ← isTagByte_leadByte]
        rfl
      by_cases isTag : isTagChar char = true
      · have size := utf8Size_of_isTagChar isTag
        rw [if_pos isTag] at body
        have later := inductionHypothesis (front ++ [char])
        rw [List.append_assoc, List.singleton_append, Duration.byteLength_append,
          Duration.byteLength_cons, Duration.byteLength_nil, size] at later
        rw [List.takeWhile_cons_of_pos isTag, Duration.byteLength_cons, size, Nat.add_comm 1]
        rw [List.append_assoc, List.singleton_append] at later
        exact Ends.step body later
      · rw [if_neg isTag] at body
        rw [List.takeWhile_cons_of_neg isTag, List.append_nil]
        exact Ends.leave body

/-- Bytes of other characters are skipped one by one. -/
theorem scan_skip {fuel rounds : Nat} {front rest : List Char} {char : Char} (other : char ≠ '#')
    {tags : List String} (room : tags.length < maxHashtags) {outcome : Except Panic ScanState}
    (ends : Ends (scanBody fuel (front ++ char :: rest)) rounds
      ⟨byteLength (front ++ [char]), tags⟩ outcome) :
    Ends (scanBody fuel (front ++ char :: rest)) (rounds + char.utf8Size)
      ⟨byteLength front, tags⟩ outcome := by
  have back (left : Nat) (within : left ≤ char.utf8Size) :
      Ends (scanBody fuel (front ++ char :: rest)) (rounds + left)
        ⟨byteLength front + (char.utf8Size - left), tags⟩ outcome := by
    induction left with
    | zero =>
        rw [Duration.byteLength_append, Duration.byteLength_cons, Duration.byteLength_nil] at ends
        exact ends
    | succ left inductionHypothesis =>
        have later := inductionHypothesis (by omega)
        obtain ⟨byte, member, isByte⟩ :=
          @Bytes.byteAt_within front rest char (char.utf8Size - (left + 1)) (by omega)
        have notHash := Bytes.ne_of_mem_utf8EncodeChar (by decide) other member
        have inside : byteLength front + (char.utf8Size - (left + 1)) <
            byteLength (front ++ char :: rest) := by
          rw [Duration.byteLength_append, Duration.byteLength_cons]
          omega
        refine Ends.step ?_ later
        have next : byteLength front + (char.utf8Size - left) =
            byteLength front + (char.utf8Size - (left + 1)) + 1 := by omega
        rw [next]
        unfold scanBody
        dsimp only
        rw [if_pos ⟨inside, room⟩, isByte]
        exact if_pos notHash
  have whole := back char.utf8Size (Nat.le_refl _)
  rwa [Nat.sub_self, Nat.add_zero] at whole

theorem foldl_collect_full (values : List String) {tags : List String}
    (full : ¬tags.length < maxHashtags) : values.foldl collect tags = tags := by
  induction values with
  | nil => rfl
  | cons tag values inductionHypothesis =>
      rw [List.foldl_cons, collect, if_neg (fun both => full both.1), inductionHypothesis]

/-- The tag of a run is collected. -/
theorem pushTag_run (front run rest : List Char) {tags : List String}
    (room : tags.length < maxHashtags) :
    pushTag (front ++ '#' :: (run ++ rest)) (byteLength front + 1)
        (byteLength (front ++ '#' :: run)) tags =
      .ok ((if run = [] then [] else [(String.ofList run).toLower]).foldl collect tags) := by
  have start : byteLength front + 1 = byteLength (front ++ ['#']) := by
    rw [Duration.byteLength_append]
    rfl
  have last : byteLength (front ++ '#' :: run) = byteLength (front ++ ['#']) + byteLength run := by
    rw [← Duration.byteLength_append, List.append_assoc, List.singleton_append]
  have piece := slice_between (front ++ ['#']) run rest
  rw [List.append_assoc, List.singleton_append] at piece
  unfold pushTag
  rw [start, last]
  by_cases empty : run = []
  · subst empty
    rw [if_neg (by simp), if_pos rfl]
    rfl
  · have positive : 0 < byteLength run := by
      cases run with
      | nil => exact (empty rfl).elim
      | cons char run =>
          rw [Duration.byteLength_cons]
          exact Nat.lt_of_lt_of_le char.utf8Size_pos (Nat.le_add_right _ _)
    rw [if_pos (by omega), piece, if_neg empty, List.foldl_cons, List.foldl_nil, collect]
    refine congrArg Except.ok ?_
    by_cases known : (String.ofList run).toLower ∈ tags
    · rw [if_pos known, if_neg (fun both => both.2 known)]
    · rw [if_neg known, if_pos ⟨room, known⟩]

/-- The outer loop at a `#` collects the run behind it, and goes on behind the run. -/
theorem scanBody_hash {fuel : Nat} (front run rest : List Char) {tags : List String}
    (isRun : ∀ char ∈ run, isTagChar char = true) (ends : rest.takeWhile isTagChar = [])
    (enough : byteLength (run ++ rest) < fuel) (room : tags.length < maxHashtags) :
    scanBody fuel (front ++ '#' :: (run ++ rest)) ⟨byteLength front, tags⟩ =
      Timed.once (.ok (some ⟨byteLength (front ++ '#' :: run),
        (if run = [] then [] else [(String.ofList run).toLower]).foldl collect tags⟩)) := by
  have inside : byteLength front < byteLength (front ++ '#' :: (run ++ rest)) := by
    rw [Duration.byteLength_append, Duration.byteLength_cons]
    exact Nat.lt_add_of_pos_right (Nat.lt_of_lt_of_le ('#').utf8Size_pos (Nat.le_add_right _ _))
  have isHash : ¬leadByte '#' ≠ UInt8.ofNat '#'.toNat := by decide
  have start : byteLength (front ++ ['#']) = byteLength front + 1 := by
    rw [Duration.byteLength_append]
    rfl
  have longest : (run ++ rest).takeWhile isTagChar = run := by
    rw [List.takeWhile_append_of_pos isRun, ends, List.append_nil]
  have inner := run_ends (front ++ ['#']) (run ++ rest) fuel enough
  rw [longest, List.append_assoc, List.append_assoc, List.singleton_append, List.singleton_append,
    start] at inner
  have ahead : max (byteLength (front ++ '#' :: run)) (byteLength front + 1) =
      byteLength (front ++ '#' :: run) := by
    rw [Duration.byteLength_append, Duration.byteLength_cons]
    have size : '#'.utf8Size = 1 := rfl
    omega
  unfold scanBody
  dsimp only
  rw [if_pos ⟨inside, room⟩, byteAt_front, Timed.once_ok_bind, if_neg isHash, inner, Timed.once_ok_bind,
    pushTag_run front run rest room, Timed.once_ok_bind, ahead]
  rfl

/-- A text starts with a run, and what follows does not continue it. -/
theorem exists_run (text : List Char) :
    ∃ run after, text = run ++ after ∧ (∀ char ∈ run, isTagChar char = true) ∧
      after.takeWhile isTagChar = [] := by
  induction text with
  | nil => exact ⟨[], [], rfl, by simp, rfl⟩
  | cons char text inductionHypothesis =>
      by_cases isTag : isTagChar char = true
      · obtain ⟨run, after, rfl, isRun, ends⟩ := inductionHypothesis
        exact ⟨char :: run, after, rfl, List.forall_mem_cons.mpr ⟨isTag, isRun⟩, ends⟩
      · exact ⟨[], char :: text, rfl, by simp, List.takeWhile_cons_of_neg isTag⟩

/-- From a boundary on, the loop collects the tags of the rest of the caption. -/
theorem scan_ends {fuel : Nat} (front rest : List Char) (tags : List String)
    (enough : byteLength rest < fuel) :
    ∃ i, Ends (scanBody fuel (front ++ rest)) (byteLength rest) ⟨byteLength front, tags⟩
      (.ok ⟨i, (tagValues rest).foldl collect tags⟩) := by
  induction size : rest.length using Nat.strong_induction_on generalizing front rest tags with
  | _ length inductionHypothesis =>
      subst size
      by_cases room : tags.length < maxHashtags
      · cases rest with
        | nil =>
            refine ⟨byteLength front, Ends.leave ?_⟩
            unfold scanBody
            dsimp only
            rw [List.append_nil, if_neg (fun both => Nat.lt_irrefl _ both.1)]
        | cons char rest =>
            rw [Duration.byteLength_cons] at enough
            have positive := char.utf8Size_pos
            by_cases hash : char = '#'
            · subst hash
              -- The run behind the `#`, and what follows it.
              obtain ⟨run, after, rfl, isRun, ends⟩ := exists_run rest
              rw [Duration.byteLength_append] at enough
              have shorter : after.length < ('#' :: (run ++ after)).length := by
                rw [List.length_cons, List.length_append]
                omega
              obtain ⟨i, later⟩ := inductionHypothesis after.length shorter
                (front ++ '#' :: run) after
                ((if run = [] then [] else [(String.ofList run).toLower]).foldl collect tags)
                (by omega) rfl
              refine ⟨i, ?_⟩
              rw [List.append_assoc, List.cons_append, ← List.foldl_append,
                ← tagValues_hash run after isRun ends] at later
              have within : byteLength (run ++ after) < fuel := by
                rw [Duration.byteLength_append]
                omega
              have stepped := scanBody_hash front run after isRun ends within room
              refine (Ends.step stepped later).mono ?_
              rw [Duration.byteLength_cons, Duration.byteLength_append]
              omega
            · obtain ⟨i, later⟩ := inductionHypothesis rest.length (by simp) (front ++ [char]) rest
                tags (by omega) rfl
              refine ⟨i, ?_⟩
              rw [List.append_assoc, List.singleton_append] at later
              rw [tagValues_other hash, Duration.byteLength_cons, Nat.add_comm]
              exact scan_skip hash room later
      · refine ⟨byteLength front, ?_⟩
        rw [foldl_collect_full _ room]
        refine Ends.leave ?_
        unfold scanBody
        dsimp only
        rw [if_neg (fun both => room both.2)]

/-- On every caption the loops end without a panic, and return the first ten distinct tags. -/
theorem extractBytes_eq (caption : List Char) {fuel : Nat} (enough : byteLength caption < fuel) :
    extractBytes fuel caption = Timed.once (.ok (firstTags caption)) := by
  obtain ⟨i, ends⟩ := scan_ends [] caption [] enough
  have result := ends fuel enough
  rw [List.nil_append, Duration.byteLength_nil] at result
  unfold extractBytes
  rw [result, foldl_collect _ (Nat.zero_le _)]
  simp [firstTags]
  rfl

/-- `extract_hashtags` meets its specification, by bytes and by characters. -/
theorem extractHashtags_spec (caption : String) :
    (∀ fuel, byteLength caption.toList < fuel →
      extractBytes fuel caption.toList =
        Timed.once (.ok ((tagValues caption.toList).eraseDups.take 10))) ∧
    extractHashtags caption = (tagValues caption.toList).eraseDups.take 10 :=
  ⟨fun _ enough => extractBytes_eq _ enough, extractHashtags_eq caption⟩

end Hashtags
end TootTok
