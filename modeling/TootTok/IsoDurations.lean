import Mathlib.Algebra.Order.Field.Basic
import Mathlib.Data.List.TakeWhile
import Mathlib.Tactic.Linarith
import Mathlib.Tactic.Positivity
import Mathlib.Tactic.Ring
import TootTok.DurationSlices
import TootTok.Numerals

/-!
# Durations of ISO 8601

The well-formed durations, what they stand for and how they are read. Each component is looked
for by a scan of its own, which passes over the others.
-/

namespace TootTok
namespace Duration

open Numeral (digitsText digitsValue digitChar isAsciiDigit_of_mem isAsciiDigit_digitChar
  digits?_digitsText)
open Sanitize (isAsciiDigit digits? digit? isWhitespace trim)

/-! ## Well-formed durations -/

/-- A decimal mark. -/
inductive Mark
  | point
  | comma
deriving DecidableEq

def Mark.char : Mark → Char
  | .point => '.'
  | .comma => ','

/-- A decimal number without sign. -/
structure Quantity where
  whole : Numeral
  fraction : Option (Mark × Numeral)

namespace Quantity

def text (quantity : Quantity) : List Char :=
  quantity.whole.text ++
    match quantity.fraction with
    | none => []
    | some (mark, numeral) => mark.char :: numeral.text

def value (quantity : Quantity) : ℚ :=
  quantity.whole.value +
    match quantity.fraction with
    | none => 0
    | some (_, numeral) => numeral.value / 10 ^ numeral.digits.length

/-- The number is written with a comma. -/
def hasComma (quantity : Quantity) : Bool :=
  quantity.fraction.any fun fraction => fraction.1 = .comma

end Quantity

/-- The components of a part of a duration, each with its unit. -/
abbrev Slots : Type := List (Char × Option Quantity)

def Slots.text (slots : Slots) : List Char :=
  slots.flatMap fun slot =>
    match slot.2 with
    | none => []
    | some quantity => quantity.text ++ [slot.1]

/-- A duration of ISO 8601, with any of its components but not without all of them. -/
structure IsoDuration where
  days : Option Quantity
  hours : Option Quantity
  minutes : Option Quantity
  seconds : Option Quantity
  written : days.isSome ∨ hours.isSome ∨ minutes.isSome ∨ seconds.isSome

namespace IsoDuration

def dateSlots (duration : IsoDuration) : Slots := [('D', duration.days)]

def timeSlots (duration : IsoDuration) : Slots :=
  [('H', duration.hours), ('M', duration.minutes), ('S', duration.seconds)]

def text (duration : IsoDuration) : List Char :=
  'P' :: duration.dateSlots.text ++
    if duration.timeSlots.text = [] then [] else 'T' :: duration.timeSlots.text

/-- The sum of the components, each given by a value of it. -/
def total (value : Quantity → ℚ) (duration : IsoDuration) : ℚ :=
  86400 * (duration.days.elim 0 value) + 3600 * (duration.hours.elim 0 value) +
    60 * (duration.minutes.elim 0 value) + duration.seconds.elim 0 value

/-- The duration in seconds. -/
def inSeconds (duration : IsoDuration) : ℚ := duration.total Quantity.value

/-- The numbers of the duration. -/
def quantities (duration : IsoDuration) : List Quantity :=
  duration.days.toList ++ duration.hours.toList ++ duration.minutes.toList ++
    duration.seconds.toList

end IsoDuration

/-! ## Numbers -/

theorem isNumeric_of_digit {char : Char} (digit : isAsciiDigit char = true) :
    isNumeric char = true := by
  rw [isNumeric, digit]
  rfl

theorem Quantity.isNumeric_of_mem {quantity : Quantity} {char : Char}
    (member : char ∈ quantity.text) : isNumeric char = true := by
  unfold Quantity.text at member
  rcases List.mem_append.mp member with inWhole | inFraction
  · exact isNumeric_of_digit (isAsciiDigit_of_mem inWhole)
  · split at inFraction
    · cases inFraction
    next mark numeral _ =>
      rcases List.mem_cons.mp inFraction with rfl | inDigits
      · cases mark <;> rfl
      · exact isNumeric_of_digit (isAsciiDigit_of_mem inDigits)

theorem lowerAscii_of_numeric {char : Char} (numeric : isNumeric char = true) :
    lowerAscii char = char := by
  have small : char.toNat < 'A'.toNat := by
    unfold isNumeric isAsciiDigit at numeric
    simp only [Bool.or_eq_true, Bool.and_eq_true, decide_eq_true_eq, beq_iff_eq] at numeric
    rcases numeric with (⟨-, most⟩ | rfl) | rfl
    · exact Nat.lt_of_le_of_lt most (by decide)
    · decide
    · decide
  unfold lowerAscii
  rw [if_neg]
  simp only [Bool.and_eq_true, decide_eq_true_eq, not_and]
  omega

theorem map_lowerAscii {text : List Char} (numeric : ∀ char ∈ text, isNumeric char = true) :
    text.map lowerAscii = text := by
  conv_rhs => rw [← List.map_id text]
  exact List.map_congr_left fun char member => lowerAscii_of_numeric (numeric char member)

theorem Quantity.exists_digit (quantity : Quantity) :
    ∃ char text, quantity.text = char :: text ∧ isAsciiDigit char = true := by
  cases digits : quantity.whole.text with
  | nil => exact absurd digits quantity.whole.text_ne_nil
  | cons char text =>
      refine ⟨char, text ++ _, by rw [Quantity.text, digits]; rfl, ?_⟩
      exact Numeral.isAsciiDigit_of_mem_text (digits ▸ List.mem_cons_self)

/-- Digits are read up to the first other character. -/
theorem decimal?_digits (numeral : Numeral) (rest : List Char)
    (other : ∀ char ∈ rest.head?, isAsciiDigit char = false) :
    (numeral.text ++ rest).takeWhile isAsciiDigit = numeral.text ∧
      (numeral.text ++ rest).dropWhile isAsciiDigit = rest := by
  have digits : ∀ char ∈ numeral.text, isAsciiDigit char = true :=
    fun _ member => Numeral.isAsciiDigit_of_mem_text member
  rw [List.takeWhile_append_of_pos digits, List.dropWhile_append_of_pos digits]
  cases rest with
  | nil => simp
  | cons char rest =>
      have notDigit : ¬isAsciiDigit char = true := by simp [other char rfl]
      rw [List.takeWhile_cons_of_neg notDigit, List.dropWhile_cons_of_neg notDigit,
        List.append_nil]
      exact ⟨rfl, rfl⟩

theorem decimal?_quantity (quantity : Quantity) :
    decimal? quantity.text = if quantity.hasComma then none else some quantity.value := by
  obtain ⟨whole, fraction⟩ := quantity
  have notEmpty : whole.text.isEmpty = false := by
    rw [List.isEmpty_eq_false_iff]
    exact whole.text_ne_nil
  have wholeValue : digits? digit? 10 whole.text = some whole.value :=
    digits?_digitsText whole.digits
  cases fraction with
  | none =>
      obtain ⟨taken, left⟩ := decimal?_digits whole [] (by simp)
      unfold decimal? Quantity.text Quantity.value Quantity.hasComma
      dsimp only
      rw [taken, left, notEmpty, wholeValue]
      simp
  | some fraction =>
      obtain ⟨mark, numeral⟩ := fraction
      cases mark with
      | point =>
          obtain ⟨taken, left⟩ :=
            decimal?_digits whole ('.' :: numeral.text) (by simp; rfl)
          have fractionValue : digits? digit? 10 numeral.text = some numeral.value :=
            digits?_digitsText numeral.digits
          have length : numeral.text.length = numeral.digits.length := List.length_map _
          unfold decimal? Quantity.text Quantity.value Quantity.hasComma Mark.char
          dsimp only
          rw [taken, left, notEmpty, wholeValue]
          simp [fractionValue, length]
      | comma =>
          obtain ⟨taken, left⟩ :=
            decimal?_digits whole (',' :: numeral.text) (by simp; rfl)
          unfold decimal? Quantity.text Quantity.value Quantity.hasComma Mark.char
          dsimp only
          rw [taken, left]
          simp

/-- A text that starts with a digit and has no exponent is read as a decimal number. -/
theorem parseF64_of_digit {text : List Char} (numeric : ∀ char ∈ text, isNumeric char = true)
    {first : Char} (isFirst : text.head? = some first) (digit : isAsciiDigit first = true) :
    parseF64 text = (decimal? text).map .ofRational := by
  have noExponent : ∀ char ∈ text, decide (char ≠ 'e') = true := by
    intro char member
    refine decide_eq_true ?_
    rintro rfl
    exact absurd (numeric 'e' member) (by decide)
  cases text with
  | nil => cases isFirst
  | cons char rest =>
      cases isFirst
      have other {char : Char} (notDigit : isAsciiDigit char = false) : first ≠ char := by
        rintro rfl
        rw [digit] at notDigit
        cases notDigit
      unfold parseF64
      rw [map_lowerAscii numeric]
      split
      next same => exact absurd (List.cons.inj same).1 (other rfl)
      next same => exact absurd (List.cons.inj same).1 (other rfl)
      next =>
        unfold unsignedF64?
        rw [if_neg, if_neg]
        · rw [List.takeWhile_eq_self_iff.mpr noExponent, List.dropWhile_eq_nil_iff.mpr noExponent]
        · exact fun same => other rfl (List.cons.inj same).1
        · rintro (same | same)
          · exact other rfl (List.cons.inj same).1
          · exact other rfl (List.cons.inj same).1

/-- What `parse::<f64>` makes of a number: nothing, if it is written with a comma. -/
theorem parseF64_quantity (quantity : Quantity) :
    parseF64 quantity.text =
      if quantity.hasComma then none else some (.ofRational quantity.value) := by
  obtain ⟨first, rest, text, digit⟩ := quantity.exists_digit
  have isFirst : quantity.text.head? = some first := by rw [text, List.head?_cons]
  rw [parseF64_of_digit (fun _ => Quantity.isNumeric_of_mem) isFirst digit, decimal?_quantity]
  split <;> rfl

/-! ## The scan for a unit -/

/-- A text behind which a number starts afresh. -/
def Fresh (done : List Char) : Prop :=
  ∀ char ∈ done.getLast?, isNumeric char = false ∧ char.utf8Size = 1

theorem fresh_nil : Fresh [] := by
  intro char isLast
  cases isLast

theorem fresh_snoc (done : List Char) {char : Char} (other : isNumeric char = false)
    (narrow : char.utf8Size = 1) : Fresh (done ++ [char]) := by
  intro last isLast
  rw [List.getLast?_concat, Option.mem_some_iff] at isLast
  exact isLast ▸ ⟨other, narrow⟩

/-- The number behind a text where one starts afresh. -/
theorem number_of_fresh {done number : List Char} (fresh : Fresh done)
    (numeric : ∀ char ∈ number, isNumeric char = true) :
    numberAtEnd (done ++ number) = number ∧ ¬WideBeforeNumber (done ++ number) := by
  have numericReverse : ∀ char ∈ number.reverse, isNumeric char = true :=
    fun char member => numeric char (List.mem_reverse.mp member)
  unfold numberAtEnd WideBeforeNumber
  rw [List.reverse_append, List.takeWhile_append_of_pos numericReverse,
    List.dropWhile_append_of_pos numericReverse]
  cases last : done.reverse with
  | nil => simp
  | cons char front =>
      have isLast : char ∈ done.getLast? := by
        rw [← List.head?_reverse, last, List.head?_cons]
        rfl
      obtain ⟨other, narrow⟩ := fresh char isLast
      have notNumeric : ¬isNumeric char = true := by simp [other]
      rw [List.takeWhile_cons_of_neg notNumeric, List.dropWhile_cons_of_neg notNumeric,
        List.append_nil, List.reverse_reverse]
      simp [narrow]

section Scan

variable {unit : Char} {total : F64} {found : Bool}

/-- The scan passes over the characters of a number. -/
theorem componentLoop_numeric (notNumeric : isNumeric unit = false) {number : List Char}
    (numeric : ∀ char ∈ number, isNumeric char = true) (done rest : List Char) (lower : List Char) :
    componentLoop unit lower (byteLength done) (numberStart done) total found (number ++ rest) =
      componentLoop unit lower (byteLength (done ++ number)) (numberStart (done ++ number)) total
        found rest := by
  induction number generalizing done with
  | nil => rw [List.append_nil, List.nil_append]
  | cons char number inductionHypothesis =>
      have isNumber := numeric char List.mem_cons_self
      have notUnit : char ≠ unit := by
        rintro rfl
        rw [isNumber] at notNumeric
        cases notNumeric
      have inNumber : (!(isAsciiDigit char || char == '.' || char == ',')) = false := by
        rw [Bool.not_eq_false']
        exact isNumber
      have step := inductionHypothesis
        (fun other member => numeric other (List.mem_cons_of_mem _ member)) (done ++ [char])
      rw [numberStart_numeric isNumber, byteLength_append, byteLength_cons, byteLength_nil,
        Nat.add_zero, List.append_assoc, List.singleton_append] at step
      rw [List.cons_append, componentLoop, if_neg notUnit, inNumber, if_neg Bool.false_ne_true]
      exact step

/-- One component: the scan for its unit takes its number, that for another passes over it. -/
theorem componentLoop_slot (total : F64) (found : Bool) (notNumeric : isNumeric unit = false)
    {number : List Char} (numeric : ∀ char ∈ number, isNumeric char = true) {own : Char}
    (ownOther : isNumeric own = false) (narrow : own.utf8Size = 1) {done : List Char}
    (fresh : Fresh done) (rest : List Char) :
    componentLoop unit (done ++ (number ++ own :: rest)) (byteLength done) (numberStart done) total
        found (number ++ own :: rest) =
      if own = unit then
        (parseF64 number).elim (.ok none) fun parsed =>
          componentLoop unit (done ++ number ++ [own] ++ rest) (byteLength (done ++ number ++ [own]))
            (numberStart (done ++ number ++ [own])) (total.add parsed) true rest
      else
        componentLoop unit (done ++ number ++ [own] ++ rest) (byteLength (done ++ number ++ [own]))
          (numberStart (done ++ number ++ [own])) total found rest := by
  obtain ⟨atEnd, notWide⟩ := number_of_fresh fresh numeric
  have sliced := (slice_number (done ++ number) (own :: rest)).2 notWide
  rw [atEnd] at sliced
  rw [componentLoop_numeric notNumeric numeric, numberStart_other ownOther]
  simp only [List.append_assoc, List.singleton_append, byteLength_append, byteLength_cons,
    byteLength_nil, Nat.add_zero] at sliced ⊢
  by_cases isUnit : own = unit
  · subst isUnit
    rw [if_pos rfl, componentLoop_unit sliced]
    simp only [narrow, Nat.add_assoc]
    cases parseF64 number <;> rfl
  · have outside : (!(isAsciiDigit own || own == '.' || own == ',')) = true := by
      rw [Bool.not_eq_true']
      exact ownOther
    rw [if_neg isUnit, componentLoop, if_neg isUnit, outside, if_pos rfl]
    simp only [narrow, Nat.add_assoc]

/-- The component with a unit, if it is among the slots. -/
def Slots.find (slots : Slots) (unit : Char) : Option Quantity :=
  (slots.find? fun slot => lowerAscii slot.1 = unit).bind Prod.snd

/-- The units are letters, each in one slot. -/
structure Slots.Proper (slots : Slots) : Prop where
  distinct : (slots.map fun slot => lowerAscii slot.1).Nodup
  letters : ∀ slot ∈ slots, isNumeric (lowerAscii slot.1) = false ∧
    (lowerAscii slot.1).utf8Size = 1

theorem Slots.Proper.tail {slot : Char × Option Quantity} {slots : Slots}
    (proper : Slots.Proper (slot :: slots)) : Slots.Proper slots :=
  ⟨(List.nodup_cons.mp proper.distinct).2,
    fun other member => proper.letters other (List.mem_cons_of_mem _ member)⟩

theorem Slots.text_cons (slot : Char × Option Quantity) (slots : Slots) :
    (Slots.text (slot :: slots)).map lowerAscii =
      (slot.2.elim [] fun quantity => quantity.text ++ [lowerAscii slot.1]) ++
        slots.text.map lowerAscii := by
  unfold Slots.text
  rw [List.flatMap_cons, List.map_append]
  congr 1
  cases slot.2 with
  | none => rfl
  | some quantity =>
      rw [List.map_append, map_lowerAscii fun _ => Quantity.isNumeric_of_mem]
      rfl

/-- The scan over slots without the unit changes nothing. -/
theorem componentLoop_without (notNumeric : isNumeric unit = false) {slots : Slots}
    (proper : slots.Proper) (without : ∀ slot ∈ slots, lowerAscii slot.1 ≠ unit)
    {done : List Char} (fresh : Fresh done) :
    componentLoop unit (done ++ slots.text.map lowerAscii) (byteLength done) (numberStart done)
        total found (slots.text.map lowerAscii) =
      .ok (if found then some total else none) := by
  induction slots generalizing done with
  | nil => rfl
  | cons slot slots inductionHypothesis =>
      have others := fun other member => without other (List.mem_cons_of_mem _ member)
      rw [Slots.text_cons]
      cases given : slot.2 with
      | none => exact inductionHypothesis proper.tail others fresh
      | some quantity =>
          obtain ⟨other, narrow⟩ := proper.letters slot List.mem_cons_self
          have step := componentLoop_slot total found notNumeric
            (fun _ => quantity.isNumeric_of_mem) other narrow fresh ((Slots.text slots).map lowerAscii)
          rw [if_neg (without slot List.mem_cons_self)] at step
          rw [Option.elim_some, List.append_assoc, List.singleton_append, step]
          exact inductionHypothesis proper.tail others (fresh_snoc _ other narrow)

/-- The scan finds the component with its unit. -/
theorem componentLoop_slots (notNumeric : isNumeric unit = false) {slots : Slots}
    (proper : slots.Proper) {done : List Char} (fresh : Fresh done) :
    componentLoop unit (done ++ slots.text.map lowerAscii) (byteLength done) (numberStart done)
        .zero false (slots.text.map lowerAscii) =
      .ok ((slots.find unit).bind fun quantity =>
        (parseF64 quantity.text).map F64.zero.add) := by
  induction slots generalizing done with
  | nil => rfl
  | cons slot slots inductionHypothesis =>
      rw [Slots.text_cons, Slots.find]
      by_cases isUnit : lowerAscii slot.1 = unit
      · have without : ∀ other ∈ slots, lowerAscii other.1 ≠ unit := by
          intro other member same
          refine (List.nodup_cons.mp proper.distinct).1 ?_
          exact List.mem_map.mpr ⟨other, member, same.trans isUnit.symm⟩
        rw [List.find?_cons_of_pos (by simpa using isUnit), Option.bind_some]
        cases given : slot.2 with
        | none =>
            rw [Option.elim_none, List.nil_append,
              componentLoop_without notNumeric proper.tail without fresh]
            rfl
        | some quantity =>
            obtain ⟨other, narrow⟩ := proper.letters slot List.mem_cons_self
            have step := componentLoop_slot .zero false notNumeric
              (fun _ => quantity.isNumeric_of_mem) other narrow fresh ((Slots.text slots).map lowerAscii)
            rw [if_pos isUnit] at step
            rw [Option.elim_some, List.append_assoc, List.singleton_append, step, Option.bind_some]
            cases parseF64 quantity.text with
            | none => rfl
            | some parsed =>
                rw [Option.elim_some,
                  componentLoop_without notNumeric proper.tail without (fresh_snoc _ other narrow)]
                rfl
      · rw [List.find?_cons_of_neg (by simpa using isUnit)]
        cases given : slot.2 with
        | none => exact inductionHypothesis proper.tail fresh
        | some quantity =>
            obtain ⟨other, narrow⟩ := proper.letters slot List.mem_cons_self
            have step := componentLoop_slot .zero false notNumeric
              (fun _ => quantity.isNumeric_of_mem) other narrow fresh ((Slots.text slots).map lowerAscii)
            rw [if_neg isUnit] at step
            rw [Option.elim_some, List.append_assoc, List.singleton_append, step]
            exact inductionHypothesis proper.tail (fresh_snoc _ other narrow)

end Scan

/-- Each call finds the component with its unit. -/
theorem parseComponent_slots {slots : Slots} (proper : slots.Proper) {unit : Char}
    (notNumeric : isNumeric (lowerAscii unit) = false) :
    parseComponent slots.text unit =
      .ok ((slots.find (lowerAscii unit)).bind fun quantity =>
        (parseF64 quantity.text).map F64.zero.add) :=
  componentLoop_slots notNumeric proper fresh_nil

/-! ## Sums of doubles -/

theorem overflowBound_pos : 0 < F64.overflowBound :=
  sub_pos.mpr (pow_lt_pow_right₀ (by norm_num) (by norm_num))

theorem ofRational_zero : F64.zero = .ofRational 0 := by
  have positive := overflowBound_pos
  rw [F64.ofRational, if_neg (by linarith), if_neg (by linarith)]
  rfl

theorem ofRational_cases {value : ℚ} (nonnegative : 0 ≤ value) :
    (F64.overflowBound ≤ value ∧ F64.ofRational value = .infinite false) ∨
      (value < F64.overflowBound ∧ F64.ofRational value = .finite value) := by
  have positive := overflowBound_pos
  unfold F64.ofRational
  by_cases large : F64.overflowBound ≤ value
  · exact .inl ⟨large, if_pos large⟩
  · refine .inr ⟨not_le.mp large, ?_⟩
    rw [if_neg large, if_neg (by linarith)]

theorem ofRational_add {left right : ℚ} (leftNonnegative : 0 ≤ left)
    (rightNonnegative : 0 ≤ right) :
    (F64.ofRational left).add (.ofRational right) = .ofRational (left + right) := by
  have infinite {value : ℚ} (large : F64.overflowBound ≤ value) :
      F64.ofRational value = .infinite false := by
    rw [F64.ofRational, if_pos large]
  rcases ofRational_cases leftNonnegative with ⟨large, isLeft⟩ | ⟨-, isLeft⟩
  · rw [isLeft, infinite (show F64.overflowBound ≤ left + right by linarith)]
    rcases ofRational_cases rightNonnegative with ⟨-, isRight⟩ | ⟨-, isRight⟩
    · rw [isRight]
      rfl
    · rw [isRight]
      rfl
  · rw [isLeft]
    rcases ofRational_cases rightNonnegative with ⟨large, isRight⟩ | ⟨-, isRight⟩
    · rw [isRight, infinite (show F64.overflowBound ≤ left + right by linarith)]
      rfl
    · rw [isRight]
      rfl

theorem ofRational_scale {value factor : ℚ} (nonnegative : 0 ≤ value) (grows : 1 ≤ factor) :
    (F64.ofRational value).scale factor = .ofRational (value * factor) := by
  rcases ofRational_cases nonnegative with ⟨large, same⟩ | ⟨-, same⟩
  · have larger : F64.overflowBound ≤ value * factor :=
      large.trans (le_mul_of_one_le_right nonnegative grows)
    rw [same, F64.ofRational, if_pos larger]
    rfl
  · rw [same]
    rfl

theorem ofRational_isNonnegative {value : ℚ} (nonnegative : 0 ≤ value) :
    (F64.ofRational value).isNonnegative = true := by
  rcases ofRational_cases nonnegative with ⟨-, same⟩ | ⟨-, same⟩
  · rw [same]
    rfl
  · rw [same]
    exact decide_eq_true nonnegative

theorem ofRational_eq_finite_iff {value total : ℚ} (nonnegative : 0 ≤ value) :
    F64.ofRational value = .finite total ↔ value = total ∧ total < F64.overflowBound := by
  rcases ofRational_cases nonnegative with ⟨large, same⟩ | ⟨small, same⟩
  · rw [same]
    refine iff_of_false (by rintro ⟨⟩) ?_
    rintro ⟨rfl, small⟩
    exact absurd large (not_le.mpr small)
  · rw [same, F64.finite.injEq]
    constructor
    · rintro rfl
      exact ⟨rfl, small⟩
    · exact And.left

/-! ## What is read of a duration -/

namespace Quantity

/-- The number as it is read: a comma makes it nothing. -/
def read (quantity : Quantity) : ℚ := if quantity.hasComma then 0 else quantity.value

theorem value_nonneg (quantity : Quantity) : 0 ≤ quantity.value := by
  unfold value
  split
  · positivity
  · positivity

theorem read_nonneg (quantity : Quantity) : 0 ≤ quantity.read := by
  unfold read
  split
  · exact le_refl 0
  · exact quantity.value_nonneg

theorem read_le (quantity : Quantity) : quantity.read ≤ quantity.value := by
  unfold read
  split
  · exact quantity.value_nonneg
  · exact le_refl _

end Quantity

theorem elim_nonneg (quantity : Option Quantity) : 0 ≤ quantity.elim 0 Quantity.read := by
  cases quantity with
  | none => exact le_refl 0
  | some quantity => exact quantity.read_nonneg

theorem componentSeconds_slots {slots : Slots} (proper : slots.Proper) {unit : Char}
    (notNumeric : isNumeric (lowerAscii unit) = false) {factor : ℚ} (grows : 1 ≤ factor) :
    componentSeconds slots.text unit factor =
      .ok (.ofRational ((slots.find (lowerAscii unit)).elim 0 Quantity.read * factor)) := by
  unfold componentSeconds
  rw [parseComponent_slots proper notNumeric]
  show Except.ok _ = _
  cases slots.find (lowerAscii unit) with
  | none =>
      show Except.ok (F64.zero.scale factor) = _
      rw [ofRational_zero, ofRational_scale (le_refl 0) grows]
      rfl
  | some quantity =>
      rw [Option.bind_some, parseF64_quantity, Option.elim_some, Quantity.read]
      split
      · show Except.ok (F64.zero.scale factor) = _
        rw [ofRational_zero, ofRational_scale (le_refl 0) grows]
      · show Except.ok ((F64.zero.add (.ofRational quantity.value)).scale factor) = _
        rw [ofRational_zero, ofRational_add (le_refl 0) quantity.value_nonneg, zero_add,
          ofRational_scale quantity.value_nonneg grows]

/-! ## The whole duration -/

theorem mem_slots_text {slots : Slots} {char : Char} (member : char ∈ slots.text) :
    isNumeric char = true ∨ ∃ slot ∈ slots, char = slot.1 := by
  unfold Slots.text at member
  obtain ⟨slot, isSlot, within⟩ := List.mem_flatMap.mp member
  split at within
  · cases within
  next quantity _ =>
    rcases List.mem_append.mp within with inNumber | isUnit
    · exact .inl (Quantity.isNumeric_of_mem inNumber)
    · exact .inr ⟨slot, isSlot, List.mem_singleton.mp isUnit⟩

theorem not_isWhitespace_of_numeric {char : Char} (numeric : isNumeric char = true) :
    isWhitespace char = false := by
  unfold isNumeric at numeric
  simp only [Bool.or_eq_true, beq_iff_eq] at numeric
  rcases numeric with (digit | rfl) | rfl
  · exact Numeral.not_isWhitespace_of_isAsciiDigit digit
  · decide
  · decide

namespace IsoDuration

variable (duration : IsoDuration)

theorem proper_dateSlots : Slots.Proper duration.dateSlots := by
  constructor
  · exact List.nodup_singleton _
  · simp only [dateSlots, List.mem_singleton, forall_eq]
    decide

theorem proper_timeSlots : Slots.Proper duration.timeSlots := by
  constructor
  · show ['h', 'm', 's'].Nodup
    decide
  · simp only [timeSlots, List.mem_cons, List.not_mem_nil, or_false, forall_eq_or_imp, forall_eq]
    decide

theorem date_char {char : Char} (member : char ∈ duration.dateSlots.text) :
    isNumeric char = true ∨ char = 'D' := by
  refine (mem_slots_text member).imp_right ?_
  rintro ⟨slot, isSlot, rfl⟩
  rw [List.mem_singleton.mp isSlot]

theorem time_char {char : Char} (member : char ∈ duration.timeSlots.text) :
    isNumeric char = true ∨ char ∈ ['H', 'M', 'S'] := by
  refine (mem_slots_text member).imp_right ?_
  rintro ⟨slot, isSlot, rfl⟩
  simp only [timeSlots, List.mem_cons, List.not_mem_nil, or_false] at isSlot ⊢
  rcases isSlot with rfl | rfl | rfl <;> simp

theorem trim_text : trim duration.text = duration.text := by
  refine Sanitize.trim_of_no_whitespace fun char member => ?_
  unfold text at member
  rw [List.cons_append, List.mem_cons, List.mem_append] at member
  rcases member with rfl | inDate | inTime
  · decide
  · rcases duration.date_char inDate with numeric | rfl
    · exact not_isWhitespace_of_numeric numeric
    · decide
  · split at inTime
    · cases inTime
    · rcases List.mem_cons.mp inTime with rfl | inTime
      · decide
      · rcases duration.time_char inTime with numeric | isUnit
        · exact not_isWhitespace_of_numeric numeric
        · simp only [List.mem_cons, List.not_mem_nil, or_false] at isUnit
          rcases isUnit with rfl | rfl | rfl <;> decide

/-- Without a component there is no text. -/
theorem time_none (empty : duration.timeSlots.text = []) :
    duration.hours = none ∧ duration.minutes = none ∧ duration.seconds = none := by
  have none_of (slot : Char × Option Quantity) (isSlot : slot ∈ duration.timeSlots) :
      slot.2 = none := by
    cases given : slot.2 with
    | none => rfl
    | some quantity =>
        have nothing := List.flatMap_eq_nil_iff.mp empty slot isSlot
        simp [given] at nothing
  simp only [timeSlots, List.mem_cons, List.not_mem_nil, or_false, forall_eq_or_imp, forall_eq]
    at none_of
  exact none_of

/-- The text of the days and what follows it. -/
theorem date_split (rest : List Char) (starts : ∀ char ∈ rest.head?, char = 'T') :
    (duration.dateSlots.text ++ rest).takeWhile (· ≠ 'T') = duration.dateSlots.text ∧
      (duration.dateSlots.text ++ rest).dropWhile (· ≠ 'T') = rest := by
  have other : ∀ char ∈ duration.dateSlots.text, decide (char ≠ 'T') = true := by
    intro char member
    refine decide_eq_true ?_
    rintro rfl
    rcases duration.date_char member with numeric | isUnit
    · exact absurd numeric (by decide)
    · exact absurd isUnit (by decide)
  rw [List.takeWhile_append_of_pos other, List.dropWhile_append_of_pos other]
  cases rest with
  | nil => simp
  | cons char rest =>
      cases starts char rfl
      rw [List.takeWhile_cons_of_neg (by decide), List.dropWhile_cons_of_neg (by decide),
        List.append_nil]
      exact ⟨rfl, rfl⟩

theorem days_seconds : componentSeconds duration.dateSlots.text 'D' 86400 =
    .ok (.ofRational (duration.days.elim 0 Quantity.read * 86400)) :=
  componentSeconds_slots duration.proper_dateSlots rfl (by norm_num)

theorem hours_seconds : componentSeconds duration.timeSlots.text 'H' 3600 =
    .ok (.ofRational (duration.hours.elim 0 Quantity.read * 3600)) :=
  componentSeconds_slots duration.proper_timeSlots rfl (by norm_num)

theorem minutes_seconds : componentSeconds duration.timeSlots.text 'M' 60 =
    .ok (.ofRational (duration.minutes.elim 0 Quantity.read * 60)) :=
  componentSeconds_slots duration.proper_timeSlots rfl (by norm_num)

theorem seconds_seconds : componentSeconds duration.timeSlots.text 'S' 1 =
    .ok (.ofRational (duration.seconds.elim 0 Quantity.read * 1)) :=
  componentSeconds_slots duration.proper_timeSlots rfl (le_refl 1)

theorem total_read_nonneg : 0 ≤ duration.total Quantity.read := by
  have days := elim_nonneg duration.days
  have hours := elim_nonneg duration.hours
  have minutes := elim_nonneg duration.minutes
  have seconds := elim_nonneg duration.seconds
  unfold total
  linarith

end IsoDuration

/-- No number starts with a letter of a duration. -/
theorem parseF64_of_period (rest : List Char) : parseF64 ('P' :: rest) = none := by
  have noDecimal (text : List Char) : decimal? ('p' :: text) = none := by
    unfold decimal?
    rw [List.dropWhile_cons_of_neg (by decide)]
    rfl
  unfold parseF64
  rw [List.map_cons, show lowerAscii 'P' = 'p' by decide]
  split
  next same => exact absurd (List.cons.inj same).1 (by decide)
  next same => exact absurd (List.cons.inj same).1 (by decide)
  next =>
    unfold unsignedF64?
    rw [if_neg, if_neg]
    · dsimp only
      rw [List.takeWhile_cons_of_pos (by decide), noDecimal]
      split <;> rfl
    · exact fun same => absurd (List.cons.inj same).1 (by decide)
    · rintro (same | same)
      · exact absurd (List.cons.inj same).1 (by decide)
      · exact absurd (List.cons.inj same).1 (by decide)

/-- A well-formed duration is read as the sum of its components, but for those with a comma. -/
theorem parseDurationStr_text (duration : IsoDuration) :
    parseDurationStr (String.ofList duration.text) =
      .ok (some (.ofRational (duration.total Quantity.read))) := by
  have days := elim_nonneg duration.days
  have hours := elim_nonneg duration.hours
  have minutes := elim_nonneg duration.minutes
  have seconds := elim_nonneg duration.seconds
  unfold parseDurationStr
  rw [String.toList_ofList, duration.trim_text, IsoDuration.text, List.cons_append]
  dsimp only
  rw [parseF64_of_period]
  dsimp only
  split
  next rest same =>
    obtain ⟨-, rfl⟩ := List.cons.inj same
    by_cases empty : duration.timeSlots.text = []
    · obtain ⟨noHours, noMinutes, noSeconds⟩ := duration.time_none empty
      obtain ⟨taken, left⟩ := duration.date_split [] (by simp)
      have onlyDays : duration.total Quantity.read =
          duration.days.elim 0 Quantity.read * 86400 := by
        rw [IsoDuration.total, noHours, noMinutes, noSeconds]
        simp only [Option.elim_none]
        ring
      rw [if_pos empty, taken, left, duration.days_seconds, onlyDays]
      show Except.ok _ = _
      rw [if_pos (ofRational_isNonnegative (by positivity))]
    · obtain ⟨taken, left⟩ := duration.date_split ('T' :: duration.timeSlots.text) (by simp)
      rw [if_neg empty, taken, left, duration.days_seconds]
      split
      next time same =>
        obtain ⟨-, rfl⟩ := List.cons.inj same
        rw [duration.hours_seconds, duration.minutes_seconds, duration.seconds_seconds]
        show Except.ok _ = _
        rw [ofRational_add (by positivity) (by positivity),
          ofRational_add (by positivity) (by positivity),
          ofRational_add (by positivity) (by positivity),
          if_pos (ofRational_isNonnegative (by positivity)), IsoDuration.total]
        congr 3
        ring
      next other => exact absurd rfl (other _)
  next other => exact absurd rfl (other _)

theorem read_eq_value_iff (quantity : Quantity) :
    quantity.read = quantity.value ↔ (quantity.hasComma = true → quantity.value = 0) := by
  unfold Quantity.read
  by_cases comma : quantity.hasComma = true
  · rw [if_pos comma]
    exact ⟨fun same _ => same.symm, fun zero => (zero comma).symm⟩
  · rw [if_neg comma]
    exact ⟨fun _ isComma => absurd isComma comma, fun _ => rfl⟩

theorem elim_read_le (quantity : Option Quantity) :
    quantity.elim 0 Quantity.read ≤ quantity.elim 0 Quantity.value := by
  cases quantity with
  | none => exact le_refl 0
  | some quantity => exact quantity.read_le

theorem elim_read_eq_iff (quantity : Option Quantity) :
    quantity.elim 0 Quantity.read = quantity.elim 0 Quantity.value ↔
      ∀ given ∈ quantity.toList, given.hasComma = true → given.value = 0 := by
  cases quantity with
  | none => simp
  | some quantity =>
      rw [Option.elim_some, Option.elim_some, read_eq_value_iff]
      simp

/-- What is read is the duration if and only if no number with a comma counts. -/
theorem total_read_eq_iff (duration : IsoDuration) :
    duration.total Quantity.read = duration.inSeconds ↔
      ∀ quantity ∈ duration.quantities, quantity.hasComma = true → quantity.value = 0 := by
  have days := elim_read_le duration.days
  have hours := elim_read_le duration.hours
  have minutes := elim_read_le duration.minutes
  have seconds := elim_read_le duration.seconds
  have each : duration.total Quantity.read = duration.inSeconds ↔
      ((duration.days.elim 0 Quantity.read = duration.days.elim 0 Quantity.value ∧
        duration.hours.elim 0 Quantity.read = duration.hours.elim 0 Quantity.value) ∧
        duration.minutes.elim 0 Quantity.read = duration.minutes.elim 0 Quantity.value) ∧
        duration.seconds.elim 0 Quantity.read = duration.seconds.elim 0 Quantity.value := by
    unfold IsoDuration.inSeconds IsoDuration.total
    constructor
    · intro same
      refine ⟨⟨⟨?_, ?_⟩, ?_⟩, ?_⟩ <;> linarith
    · rintro ⟨⟨⟨sameDays, sameHours⟩, sameMinutes⟩, sameSeconds⟩
      rw [sameDays, sameHours, sameMinutes, sameSeconds]
  rw [each, elim_read_eq_iff, elim_read_eq_iff, elim_read_eq_iff, elim_read_eq_iff,
    IsoDuration.quantities]
  simp only [List.forall_mem_append]

/-- A well-formed duration is read as it is meant exactly if no component other than zero is
written with a comma and the seconds do not exceed the doubles. -/
theorem parseDurationStr_exact_iff (duration : IsoDuration) :
    parseDurationStr (String.ofList duration.text) = .ok (some (.finite duration.inSeconds)) ↔
      (∀ quantity ∈ duration.quantities, quantity.hasComma = true → quantity.value = 0) ∧
        duration.inSeconds < F64.overflowBound := by
  rw [parseDurationStr_text, Except.ok.injEq, Option.some.injEq,
    ofRational_eq_finite_iff duration.total_read_nonneg, total_read_eq_iff]

/-- One and a half seconds, with a comma. -/
def withComma : IsoDuration where
  days := none
  hours := none
  minutes := none
  seconds := some ⟨⟨[1], List.cons_ne_nil _ _⟩, some (.comma, ⟨[5], List.cons_ne_nil _ _⟩)⟩
  written := .inr (.inr (.inr rfl))

/-- A number with a comma counts as none. -/
theorem comma_dropped :
    String.ofList withComma.text = "PT1,5S" ∧ withComma.inSeconds = 3 / 2 ∧
      parseDurationStr "PT1,5S" = .ok (some (.finite 0)) := by
  refine ⟨by decide +kernel, ?_, by decide +kernel⟩
  decide +kernel

end Duration
end TootTok
