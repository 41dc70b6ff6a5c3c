import TootTok.Backfill
import TootTok.Bytes
import TootTok.Effects.Loops
import TootTok.Relational.Distinct
import TootTok.Scanning

/-!
# Links in a feed

The links to videos are taken out of a feed by a loop that slices off what it has read. The
loop ends on every document and slices on character boundaries only, and it collects the codes
behind the leftmost occurrences of `/v/`.
-/

namespace TootTok
namespace Feed

open Bytes (slice_between)
open Duration (slice byteLength)
open Effects (Timed Ends loop)
open Relational (addNew)
open Scanning (FirstAt Scan)

/-! ## The loop over slices -/

/-- `str::find` of a text: the offset of its first occurrence. -/
def findText (pattern text : List Char) : Option Nat :=
  (text.dropInfix? pattern).map fun split => byteLength split.1

/-- `str::find` of a condition: the offset of the first character that meets it. -/
def findChar (condition : Char → Bool) : List Char → Option Nat
  | [] => none
  | char :: text =>
      if condition char then some 0 else (findChar condition text).map (char.utf8Size + ·)

structure LinkState where
  rest : List Char
  out : List String

/-- The code at the start of a text, unless it is empty or known. -/
def pushCode (tail : List Char) (last : Nat) (out : List String) : Panicking (List String) :=
  if 0 < last then do
    let code ← slice tail 0 last
    pure (addNew out (String.ofList code))
  else pure out

/-- Cut off the code behind a marker. -/
def cutCode (tail : List Char) (out : List String) : Panicking LinkState := do
  let last := (findChar (fun char => !isCodeChar char) tail).getD (byteLength tail)
  let out ← pushCode tail last out
  let rest ← slice tail (min last (byteLength tail)) (byteLength tail)
  pure ⟨rest, out⟩

def linkBody (state : LinkState) : Timed Panic (Option LinkState) :=
  match findText "/v/".toList state.rest with
  | none => Timed.once (.ok none)
  | some pos => Timed.once do
      let tail ← slice state.rest (pos + 3) (byteLength state.rest)
      let next ← cutCode tail state.out
      pure (some next)

/-- `extract_video_links` with fuel for its loop. -/
def extractSlices (fuel : Nat) (atomXml : List Char) : Timed Panic (List String) := do
  let state ← loop linkBody fuel ⟨atomXml, []⟩
  pure state.out

/-! ## The codes of a document -/

/-- The runs that are no empty codes, each once. -/
def codesOf (runs : List (List Char)) : List String :=
  ((runs.filter (· ≠ [])).map String.ofList).eraseDups

/-- What a run adds to the codes. -/
def addRun (out : List String) (run : List Char) : List String :=
  if run = [] then out else addNew out (String.ofList run)

theorem foldl_addRun (runs : List (List Char)) (out : List String) :
    runs.foldl addRun out =
      ((runs.filter (· ≠ [])).map String.ofList).foldl addNew out := by
  induction runs generalizing out with
  | nil => rfl
  | cons run runs inductionHypothesis =>
      rw [List.foldl_cons, inductionHypothesis, addRun]
      by_cases empty : run = []
      · rw [if_pos empty, List.filter_cons_of_neg (by simpa using empty)]
      · rw [if_neg empty, List.filter_cons_of_pos (by simpa using empty), List.map_cons,
          List.foldl_cons]

theorem foldl_addRun_nil (runs : List (List Char)) : runs.foldl addRun [] = codesOf runs := by
  rw [foldl_addRun, Relational.foldl_addNew_nil, codesOf]

/-! ## The loop -/

theorem findChar_getD (inRun : Char → Bool) (text : List Char) :
    (findChar (fun char => !inRun char) text).getD (byteLength text) =
      byteLength (text.takeWhile inRun) := by
  induction text with
  | nil => rfl
  | cons char text inductionHypothesis =>
      rw [findChar]
      by_cases inside : inRun char = true
      · rw [if_neg (by simpa using inside), List.takeWhile_cons_of_pos inside,
          Duration.byteLength_cons, Duration.byteLength_cons, ← inductionHypothesis]
        cases findChar (fun char => !inRun char) text <;> rfl
      · rw [if_pos (by simpa using inside), List.takeWhile_cons_of_neg inside]
        rfl

theorem slice_rest (front back : List Char) :
    slice (front ++ back) (byteLength front) (byteLength (front ++ back)) = .ok back := by
  have whole := slice_between front back []
  rwa [List.append_nil, ← Duration.byteLength_append] at whole

theorem slice_front (front back : List Char) :
    slice (front ++ back) 0 (byteLength front) = .ok front := by
  have whole := slice_between [] front back
  rwa [Duration.byteLength_nil, Nat.zero_add, List.nil_append] at whole

theorem pushCode_run (run rest : List Char) (out : List String) :
    pushCode (run ++ rest) (byteLength run) out = .ok (addRun out run) := by
  rw [pushCode, slice_front, addRun]
  cases run with
  | nil => rfl
  | cons char run =>
      have positive : 0 < byteLength (char :: run) :=
        Nat.lt_of_lt_of_le char.utf8Size_pos (Nat.le_add_right _ _)
      rw [if_pos positive, if_neg (List.cons_ne_nil _ _)]
      rfl

theorem cutCode_run {run rest : List Char} (out : List String)
    (isRun : ∀ char ∈ run, isCodeChar char = true) (ends : rest.takeWhile isCodeChar = []) :
    cutCode (run ++ rest) out = .ok ⟨rest, addRun out run⟩ := by
  have longest : (run ++ rest).takeWhile isCodeChar = run := by
    rw [List.takeWhile_append_of_pos isRun, ends, List.append_nil]
  have within : min (byteLength run) (byteLength (run ++ rest)) = byteLength run := by
    rw [Duration.byteLength_append]
    exact Nat.min_eq_left (Nat.le_add_right _ _)
  unfold cutCode
  dsimp only
  rw [findChar_getD, longest, pushCode_run, within, slice_rest]
  rfl

/-- One round takes the text up to the end of the run behind the first marker. -/
theorem linkBody_found {front run rest text : List Char} (out : List String)
    (first : FirstAt "/v/".toList front (run ++ rest) text)
    (isRun : ∀ char ∈ run, isCodeChar char = true) (ends : rest.takeWhile isCodeChar = []) :
    linkBody ⟨text, out⟩ = Timed.once (.ok (some ⟨rest, addRun out run⟩)) := by
  have found : findText "/v/".toList text = some (byteLength front) := by
    rw [findText, Scanning.dropInfix?_eq_some_iff.mpr first]
    rfl
  have behind : byteLength front + 3 = byteLength (front ++ "/v/".toList) := by
    rw [Duration.byteLength_append]
    rfl
  have tail : slice text (byteLength front + 3) (byteLength text) = .ok (run ++ rest) := by
    rw [behind, first.split]
    exact slice_rest _ _
  unfold linkBody
  rw [found]
  dsimp only
  rw [tail]
  exact congrArg (fun next => Timed.once (some <$> next)) (cutCode_run out isRun ends)

theorem linkBody_done {text : List Char} (out : List String)
    (absent : ¬"/v/".toList <:+: text) :
    linkBody ⟨text, out⟩ = Timed.once (.ok none) := by
  unfold linkBody
  rw [findText, Scanning.dropInfix?_eq_none_iff.mpr absent]
  rfl

/-- The loop collects the runs of the scan, one a round. -/
theorem links_end {text : List Char} {runs : List (List Char)}
    (scan : Scan "/v/".toList isCodeChar text runs) (out : List String) :
    ∃ rest, Ends linkBody (byteLength text) ⟨text, out⟩ (.ok ⟨rest, runs.foldl addRun out⟩) := by
  induction scan generalizing out with
  | done absent => exact ⟨_, Ends.leave (linkBody_done out absent)⟩
  | found first isRun ends _ inductionHypothesis =>
      obtain ⟨left, later⟩ := inductionHypothesis (addRun out _)
      refine ⟨left, (Ends.step (linkBody_found out first isRun ends) later).mono ?_⟩
      rw [first.split]
      simp only [Duration.byteLength_append]
      have marker : byteLength "/v/".toList = 3 := rfl
      omega

/-! ## Character by character -/

theorem videoLinksFrom_skip (taken rest : List Char) (found : List String) :
    videoLinksFrom taken.length found (taken ++ rest) = videoLinksFrom 0 found rest := by
  induction taken with
  | nil => rfl
  | cons char taken inductionHypothesis =>
      rw [List.length_cons, List.cons_append, videoLinksFrom, inductionHypothesis]

theorem videoLinksFrom_other {char : Char} {rest : List Char} (found : List String)
    (other : ¬"/v/".toList <+: char :: rest) :
    videoLinksFrom 0 found (char :: rest) = videoLinksFrom 0 found rest := by
  rw [videoLinksFrom]
  rintro back rfl rfl
  exact other ⟨back, rfl⟩

theorem videoLinksFrom_absent {text : List Char} (found : List String)
    (absent : ¬"/v/".toList <:+: text) : videoLinksFrom 0 found text = found := by
  induction text with
  | nil => rfl
  | cons char text inductionHypothesis =>
      rw [videoLinksFrom_other found fun starts => absent starts.isInfix]
      exact inductionHypothesis fun later => absent (List.infix_cons later)

theorem videoLinksFrom_front {front back text : List Char} (found : List String)
    (first : FirstAt "/v/".toList front back text) :
    videoLinksFrom 0 found text = videoLinksFrom 0 found ("/v/".toList ++ back) := by
  induction front generalizing text with
  | nil => rw [first.split, List.nil_append]
  | cons char front inductionHypothesis =>
      have later : FirstAt "/v/".toList front back (front ++ "/v/".toList ++ back) := by
        refine ⟨rfl, fun other rest occurs => ?_⟩
        have shifted : text = (char :: other) ++ "/v/".toList ++ rest := by
          rw [first.split, List.cons_append, List.cons_append, List.cons_append, List.cons_append,
            occurs]
        exact Nat.le_of_succ_le_succ (first.leftmost _ _ shifted)
      have other : ¬"/v/".toList <+: char :: (front ++ "/v/".toList ++ back) := by
        rintro ⟨rest, starts⟩
        have atStart : text = [] ++ "/v/".toList ++ rest := by
          rw [first.split, List.nil_append, starts, List.cons_append, List.cons_append]
        exact absurd (first.leftmost _ _ atStart) (by simp)
      rw [first.split, List.cons_append, List.cons_append, videoLinksFrom_other found other]
      exact inductionHypothesis later

/-- The characters of a run are skipped behind its marker. -/
theorem videoLinksFrom_marker {run rest : List Char} (found : List String)
    (isRun : ∀ char ∈ run, isCodeChar char = true) (ends : rest.takeWhile isCodeChar = []) :
    videoLinksFrom 0 found ("/v/".toList ++ (run ++ rest)) =
      videoLinksFrom 0 (addRun found run) rest := by
  have longest : (run ++ rest).takeWhile isCodeChar = run := by
    rw [List.takeWhile_append_of_pos isRun, ends, List.append_nil]
  have added : (if run.isEmpty ∨ String.ofList run ∈ found then found
      else found ++ [String.ofList run]) = addRun found run := by
    rw [addRun, Relational.addNew]
    by_cases empty : run = []
    · simp [empty]
    · simp [empty]
  have skipped := videoLinksFrom_skip ('v' :: '/' :: run) rest (addRun found run)
  rw [List.length_cons, List.length_cons, Nat.add_assoc, Nat.add_comm, List.cons_append,
    List.cons_append] at skipped
  show videoLinksFrom 0 found ('/' :: 'v' :: '/' :: (run ++ rest)) = _
  rw [videoLinksFrom, longest, added]
  exact skipped

theorem videoLinksFrom_scan {text : List Char} {runs : List (List Char)}
    (scan : Scan "/v/".toList isCodeChar text runs) (found : List String) :
    videoLinksFrom 0 found text = runs.foldl addRun found := by
  induction scan generalizing found with
  | done absent => exact videoLinksFrom_absent found absent
  | found first isRun ends _ inductionHypothesis =>
      rw [videoLinksFrom_front found first, videoLinksFrom_marker found isRun ends,
        inductionHypothesis, List.foldl_cons]

/-! ## The links of a document -/

/-- On every document the loop ends without a panic, with the codes behind the leftmost
occurrences of `/v/`. -/
theorem extractVideoLinks_spec (atomXml : String) :
    ∃ runs, Scan "/v/".toList isCodeChar atomXml.toList runs ∧
      (∀ others, Scan "/v/".toList isCodeChar atomXml.toList others → others = runs) ∧
      (∀ fuel, byteLength atomXml.toList < fuel →
        extractSlices fuel atomXml.toList =
          Timed.once (.ok ((runs.filter (· ≠ [])).map String.ofList).eraseDups)) ∧
      extractVideoLinks atomXml = ((runs.filter (· ≠ [])).map String.ofList).eraseDups := by
  obtain ⟨runs, scan⟩ := @Scan.exists_scan _ "/v/".toList isCodeChar (by decide) atomXml.toList
  refine ⟨runs, scan, fun others other => other.unique scan, fun fuel enough => ?_, ?_⟩
  · obtain ⟨rest, ends⟩ := links_end scan []
    unfold extractSlices
    rw [ends fuel enough, foldl_addRun_nil]
    rfl
  · rw [extractVideoLinks, videoLinksFrom_scan scan, foldl_addRun_nil, codesOf]

example : extractSlices 100 "é/v//v/a~/v/b /v/a~".toList = Timed.once (.ok ["a~", "b"]) :=
  rfl

end Feed
end TootTok
