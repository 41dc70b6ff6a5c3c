import TootTok.Duration

/-!
# Slices of durations

When the parser of ISO 8601 durations panics. It remembers where a number starts by a
byte offset, which is one byte past the last character that is no part of a number.
-/

namespace TootTok
namespace Duration

open Sanitize (trim isAsciiDigit)

/-- The character may stand in a number. -/
def isNumeric (char : Char) : Bool :=
  isAsciiDigit char || char == '.' || char == ','

/-- The number at the end of a text. -/
def numberAtEnd (text : List Char) : List Char :=
  (text.reverse.takeWhile isNumeric).reverse

/-- The character before the number at the end of a text has several bytes. -/
def WideBeforeNumber (text : List Char) : Prop :=
  ∃ char ∈ (text.reverse.dropWhile isNumeric).head?, 1 < char.utf8Size

/-- A character of several bytes stands before the number of a unit, and every number of
the unit before this one can be parsed. -/
def Slips (chunk : List Char) (unit : Char) : Prop :=
  ∃ before after, chunk.map lowerAscii = before ++ lowerAscii unit :: after ∧
    WideBeforeNumber before ∧
    ∀ earlier later, before = earlier ++ lowerAscii unit :: later →
      parseF64 (numberAtEnd earlier) ≠ none

/-! ## Bytes -/

def byteLength : List Char → Nat
  | [] => 0
  | char :: text => char.utf8Size + byteLength text

@[simp] theorem byteLength_nil : byteLength [] = 0 := rfl

@[simp] theorem byteLength_cons (char : Char) (text : List Char) :
    byteLength (char :: text) = char.utf8Size + byteLength text := rfl

@[simp] theorem byteLength_append (front back : List Char) :
    byteLength (front ++ back) = byteLength front + byteLength back := by
  induction front with
  | nil => simp
  | cons char front inductionHypothesis => simp [inductionHypothesis, Nat.add_assoc]

@[simp] theorem byteLength_reverse (text : List Char) :
    byteLength text.reverse = byteLength text := by
  induction text with
  | nil => rfl
  | cons char text inductionHypothesis => simp [inductionHypothesis, Nat.add_comm]

/-- One step of `dropBytes` over a character. -/
theorem dropBytes_cons {count : Nat} {char : Char} {rest : List Char}
    (fits : char.utf8Size ≤ count) :
    dropBytes count (char :: rest) = dropBytes (count - char.utf8Size) rest := by
  have positive := char.utf8Size_pos
  cases count with
  | zero => omega
  | succ count => rw [dropBytes, if_pos fits]

theorem dropBytes_append (front back : List Char) :
    dropBytes (byteLength front) (front ++ back) = .ok back := by
  induction front with
  | nil => rw [byteLength_nil, List.nil_append, dropBytes]
  | cons char front inductionHypothesis =>
      rw [List.cons_append, byteLength_cons, dropBytes_cons (Nat.le_add_right _ _),
        Nat.add_sub_cancel_left, inductionHypothesis]

/-- No slice starts inside a character. -/
theorem dropBytes_inside (front rest : List Char) {char : Char} (wide : 1 < char.utf8Size) :
    dropBytes (byteLength front + 1) (front ++ char :: rest) = .error .slice := by
  induction front with
  | nil =>
      have inside : ¬char.utf8Size ≤ 0 + 1 := by omega
      rw [byteLength_nil, List.nil_append, dropBytes, if_neg inside]
  | cons first front inductionHypothesis =>
      have shifted : first.utf8Size + byteLength front + 1 - first.utf8Size =
          byteLength front + 1 := by omega
      rw [List.cons_append, byteLength_cons, dropBytes_cons (by omega), shifted,
        inductionHypothesis]

theorem takeBytes_append (front back : List Char) :
    takeBytes (byteLength front) (front ++ back) = .ok front := by
  induction front with
  | nil => cases back <;> rfl
  | cons char front inductionHypothesis =>
      have positive := char.utf8Size_pos
      obtain ⟨count, same⟩ : ∃ count, char.utf8Size + byteLength front = count + 1 :=
        ⟨char.utf8Size + byteLength front - 1, by omega⟩
      have left : count + 1 - char.utf8Size = byteLength front := by omega
      rw [List.cons_append, byteLength_cons, same, takeBytes, if_pos (by omega), left,
        inductionHypothesis]
      rfl

/-! ## The number before a unit -/

/-- The offset that the loop remembers after a text. -/
def numberStart (text : List Char) : Nat :=
  match text.reverse.dropWhile isNumeric with
  | [] => 0
  | _ :: front => byteLength front + 1

section Snoc

variable {text : List Char} {char : Char}

theorem numberStart_numeric (numeric : isNumeric char = true) :
    numberStart (text ++ [char]) = numberStart text := by
  simp [numberStart, numeric]

theorem numberStart_other (other : isNumeric char = false) :
    numberStart (text ++ [char]) = byteLength text + 1 := by
  simp [numberStart, other]

end Snoc

/-- The text before the number, and the number. -/
theorem split_at_number (text : List Char) :
    (text.reverse.dropWhile isNumeric).reverse ++ numberAtEnd text = text := by
  unfold numberAtEnd
  rw [← List.reverse_append, List.takeWhile_append_dropWhile, List.reverse_reverse]

/-- What the slice before a unit gives. -/
theorem slice_number (text rest : List Char) :
    (WideBeforeNumber text →
      slice (text ++ rest) (numberStart text) (byteLength text) = .error .slice) ∧
    (¬WideBeforeNumber text →
      slice (text ++ rest) (numberStart text) (byteLength text) = .ok (numberAtEnd text)) := by
  have whole := split_at_number text
  unfold WideBeforeNumber numberStart slice
  cases found : text.reverse.dropWhile isNumeric with
  | nil =>
      rw [found, List.reverse_nil, List.nil_append] at whole
      refine ⟨fun ⟨_, isHead, _⟩ => by simp at isHead, fun _ => ?_⟩
      simp only [Nat.zero_le, if_true, dropBytes]
      rw [whole]
      exact takeBytes_append text rest
  | cons char front =>
      rw [found, List.reverse_cons, List.append_assoc, List.singleton_append] at whole
      have size : byteLength text =
          byteLength front + char.utf8Size + byteLength (numberAtEnd text) := by
        conv_lhs => rw [← whole]
        simp only [byteLength_append, byteLength_cons, byteLength_reverse]
        omega
      have positive := char.utf8Size_pos
      have ordered : byteLength front + 1 ≤ byteLength text := by omega
      have joined : text ++ rest = front.reverse ++ char :: (numberAtEnd text ++ rest) := by
        conv_lhs => rw [← whole]
        rw [List.append_assoc, List.cons_append]
      simp only [if_pos ordered, joined]
      constructor
      · rintro ⟨_, isHead, wide⟩
        cases isHead
        have inside := dropBytes_inside front.reverse (numberAtEnd text ++ rest) wide
        rw [byteLength_reverse] at inside
        rw [inside]
        rfl
      · intro narrow
        have single : char.utf8Size = 1 := by
          have notWide : ¬1 < char.utf8Size := fun wide => narrow ⟨char, rfl, wide⟩
          omega
        have dropped := dropBytes_append (front.reverse ++ [char]) (numberAtEnd text ++ rest)
        simp only [byteLength_append, byteLength_cons, byteLength_nil, byteLength_reverse, single,
          List.append_assoc, List.singleton_append, Nat.add_zero] at dropped
        have length : byteLength text - (byteLength front + 1) =
            byteLength (numberAtEnd text) := by omega
        rw [length, dropped]
        exact takeBytes_append (numberAtEnd text) rest

/-! ## The loop -/

/-- The loop at a unit whose number can be sliced. -/
theorem componentLoop_unit {unit : Char} {lower number rest : List Char} {idx start : Nat}
    {total : F64} {found : Bool} (sliced : slice lower start idx = .ok number) :
    componentLoop unit lower idx start total found (unit :: rest) =
      match parseF64 number with
      | none => .ok none
      | some parsed =>
          componentLoop unit lower (idx + unit.utf8Size) (idx + 1) (total.add parsed) true
            rest := by
  rw [componentLoop, if_pos rfl, sliced]
  rfl

/-- The loop returns unless it slips behind the text that it has read. -/
theorem componentLoop_returns_iff {unit : Char} (notNumeric : isNumeric unit = false)
    (rest done : List Char) (total : F64) (found : Bool) :
    (∃ result, componentLoop unit (done ++ rest) (byteLength done) (numberStart done) total found
        rest = .ok result) ↔
      ¬∃ before after, rest = before ++ unit :: after ∧ WideBeforeNumber (done ++ before) ∧
        ∀ earlier later, before = earlier ++ unit :: later →
          parseF64 (numberAtEnd (done ++ earlier)) ≠ none := by
  induction rest generalizing done total found with
  | nil =>
      refine iff_of_true ⟨_, rfl⟩ ?_
      rintro ⟨before, after, empty, -⟩
      simp at empty
  | cons char rest inductionHypothesis =>
      have step := inductionHypothesis (done ++ [char])
      simp only [List.append_assoc, List.singleton_append, byteLength_append, byteLength_cons,
        byteLength_nil, Nat.add_zero] at step
      obtain ⟨slips, returns⟩ := slice_number done (char :: rest)
      by_cases isUnit : char = unit
      · subst isUnit
        by_cases wide : WideBeforeNumber done
        · -- The slice panics.
          rw [componentLoop, if_pos rfl, slips wide]
          refine iff_of_false (fun ⟨_, returned⟩ => by cases returned) (not_not_intro ?_)
          refine ⟨[], rest, rfl, by rwa [List.append_nil], ?_⟩
          intro earlier later empty
          simp at empty
        rw [componentLoop_unit (returns wide)]
        cases parsed : parseF64 (numberAtEnd done) with
        | none =>
            refine iff_of_true ⟨none, rfl⟩ ?_
            rintro ⟨before, after, split, wideBefore, parses⟩
            cases before with
            | nil => exact wide (by rwa [List.append_nil] at wideBefore)
            | cons first before =>
                obtain ⟨rfl, -⟩ := List.cons.inj split
                exact parses [] before rfl (by rwa [List.append_nil])
        | some value =>
            have later := step (total.add value) true
            rw [numberStart_other notNumeric] at later
            refine later.trans (not_congr ?_)
            constructor
            · rintro ⟨before, after, rfl, wideBefore, parses⟩
              refine ⟨char :: before, after, rfl, wideBefore, fun earlier following split => ?_⟩
              cases earlier with
              | nil =>
                  rw [List.append_nil, parsed]
                  exact Option.some_ne_none value
              | cons first earlier =>
                  obtain ⟨rfl, same⟩ := List.cons.inj split
                  exact parses earlier following same
            · rintro ⟨before, after, split, wideBefore, parses⟩
              cases before with
              | nil => exact (wide (by rwa [List.append_nil] at wideBefore)).elim
              | cons first before =>
                  obtain ⟨rfl, rfl⟩ := List.cons.inj split
                  refine ⟨before, after, rfl, wideBefore, fun earlier following same => ?_⟩
                  exact parses (char :: earlier) following (congrArg (char :: ·) same)
      · have shift : (∃ before after, char :: rest = before ++ unit :: after ∧
            WideBeforeNumber (done ++ before) ∧
            ∀ earlier later, before = earlier ++ unit :: later →
              parseF64 (numberAtEnd (done ++ earlier)) ≠ none) ↔
            ∃ before after, rest = before ++ unit :: after ∧
              WideBeforeNumber (done ++ char :: before) ∧
              ∀ earlier later, before = earlier ++ unit :: later →
                parseF64 (numberAtEnd (done ++ char :: earlier)) ≠ none := by
          constructor
          · rintro ⟨before, after, split, wideBefore, parses⟩
            cases before with
            | nil => exact (isUnit (List.cons.inj split).1).elim
            | cons first before =>
                obtain ⟨rfl, rfl⟩ := List.cons.inj split
                refine ⟨before, after, rfl, wideBefore, fun earlier following same => ?_⟩
                exact parses (char :: earlier) following (congrArg (char :: ·) same)
          · rintro ⟨before, after, rfl, wideBefore, parses⟩
            refine ⟨char :: before, after, rfl, wideBefore, fun earlier following split => ?_⟩
            cases earlier with
            | nil => exact (isUnit (List.cons.inj split).1).elim
            | cons first earlier =>
                obtain ⟨rfl, same⟩ := List.cons.inj split
                exact parses earlier following same
        rw [componentLoop, if_neg isUnit, shift]
        cases numeric : isNumeric char with
        | true =>
            rw [numberStart_numeric numeric] at step
            have inNumber : (!(isAsciiDigit char || char == '.' || char == ',')) = false := by
              rw [Bool.not_eq_false']
              exact numeric
            rw [inNumber, if_neg Bool.false_ne_true]
            exact step total found
        | false =>
            rw [numberStart_other numeric] at step
            have outside : (!(isAsciiDigit char || char == '.' || char == ',')) = true := by
              rw [Bool.not_eq_true']
              exact numeric
            rw [outside, if_pos rfl]
            exact step total found

/-- One call returns unless it slips. -/
theorem parseComponent_returns_iff {unit : Char} (notNumeric : isNumeric (lowerAscii unit) = false)
    (chunk : List Char) :
    (∃ result, parseComponent chunk unit = .ok result) ↔ ¬Slips chunk unit :=
  componentLoop_returns_iff notNumeric (chunk.map lowerAscii) [] .zero false

/-! ## The whole text -/

/-- The calls of `parse_component` for a text. -/
def componentCalls (text : String) : List (List Char × Char) :=
  let trimmed := trim text.toList
  match parseF64 trimmed with
  | some _ => []
  | none =>
      match trimmed with
      | 'P' :: rest =>
          (rest.takeWhile (· ≠ 'T'), 'D') ::
            match rest.dropWhile (· ≠ 'T') with
            | 'T' :: time => [(time, 'H'), (time, 'M'), (time, 'S')]
            | _ => []
      | _ => []

/-- Every call is about a unit. -/
theorem unit_not_numeric {text : String} {call : List Char × Char}
    (member : call ∈ componentCalls text) : isNumeric (lowerAscii call.2) = false := by
  unfold componentCalls at member
  dsimp only at member
  split at member
  · cases member
  split at member
  · rcases List.mem_cons.mp member with rfl | member
    · rfl
    · split at member
      · simp only [List.mem_cons, List.not_mem_nil, or_false] at member
        rcases member with rfl | rfl | rfl <;> rfl
      · cases member
  · cases member

theorem returns_bind {α β : Type} (first : Panicking α) (next : α → Panicking β) :
    (∃ result, (first >>= next) = .ok result) ↔
      ∃ value, first = .ok value ∧ ∃ result, next value = .ok result := by
  cases first with
  | error panic =>
      refine iff_of_false (fun ⟨_, returned⟩ => by cases returned) ?_
      rintro ⟨_, ⟨⟩, -⟩
  | ok value => exact ⟨fun returned => ⟨value, rfl, returned⟩, fun ⟨_, rfl, returned⟩ => returned⟩

theorem componentSeconds_returns_iff (chunk : List Char) (unit : Char) (factor : ℚ) :
    (∃ seconds, componentSeconds chunk unit factor = .ok seconds) ↔
      ∃ result, parseComponent chunk unit = .ok result := by
  unfold componentSeconds
  cases parseComponent chunk unit with
  | error panic => exact iff_of_false (fun ⟨_, returned⟩ => by cases returned) (by simp)
  | ok value => exact iff_of_true ⟨_, rfl⟩ ⟨value, rfl⟩

/-- The text is parsed if its calls return. -/
theorem parseDurationStr_returns_iff (text : String) :
    (∃ result, parseDurationStr text = .ok result) ↔
      ∀ call ∈ componentCalls text, ∃ result, parseComponent call.1 call.2 = .ok result := by
  have last {α : Type} (value : α) : ∃ result, (pure value : Panicking α) = .ok result :=
    ⟨value, rfl⟩
  unfold parseDurationStr componentCalls
  generalize trim text.toList = trimmed
  dsimp only
  cases parseF64 trimmed with
  | some seconds => exact iff_of_true ⟨_, rfl⟩ (fun _ member => by cases member)
  | none =>
      dsimp only
      split
      next rest =>
        rw [returns_bind]
        simp only [List.forall_mem_cons]
        rw [← componentSeconds_returns_iff _ _ 86400]
        generalize rest.dropWhile (· ≠ 'T') = afterDays
        split
        next time =>
          simp only [returns_bind, last, and_true, exists_and_right,
            componentSeconds_returns_iff, List.forall_mem_cons, List.not_mem_nil,
            false_implies, implies_true]
        next noTime =>
          simp only [returns_bind, last, and_true, List.not_mem_nil, false_implies, implies_true]
      next notIso =>
        refine iff_of_true ⟨_, rfl⟩ fun _ member => ?_
        -- The split above may have reached the list of calls as well.
        first
          | cases member
          | split at member
            next rest => exact (notIso rest rfl).elim
            next => cases member

/-- Parsing a duration panics only where a unit, with or without a number before it, follows
a character of several bytes. -/
theorem parseDuration_returns_iff (text : String) :
    ((∃ result, parseDurationStr text = .ok result) ∧
      ∀ call ∈ componentCalls text, ∃ result, parseComponent call.1 call.2 = .ok result) ↔
      ∀ call ∈ componentCalls text, ¬Slips call.1 call.2 := by
  have calls : (∀ call ∈ componentCalls text, ∃ result, parseComponent call.1 call.2 = .ok result) ↔
      ∀ call ∈ componentCalls text, ¬Slips call.1 call.2 :=
    forall₂_congr fun _ member => parseComponent_returns_iff (unit_not_numeric member) _
  rw [parseDurationStr_returns_iff, and_self, calls]

/-- The slice before the unit starts within the letter before it. -/
theorem panics_inside_character : parseDurationStr "PéD" = .error .slice := by
  decide

end Duration
end TootTok
