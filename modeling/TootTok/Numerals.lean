import TootTok.Sanitize

/-!
# Decimal numerals

Texts of digits, and the numbers that they stand for.
-/

namespace TootTok

open Sanitize (isAsciiDigit digit? digits? isWhitespace trim)

/-- A decimal numeral. Leading zeros are allowed. -/
structure Numeral where
  digits : List (Fin 10)
  written : digits ≠ []

namespace Numeral

def digitChar (digit : Fin 10) : Char := Char.ofNat (48 + digit)

def digitsText (digits : List (Fin 10)) : List Char := digits.map digitChar

def digitsValue (digits : List (Fin 10)) : Nat :=
  digits.foldl (fun value digit => value * 10 + digit) 0

def text (numeral : Numeral) : List Char := digitsText numeral.digits

def value (numeral : Numeral) : Nat := digitsValue numeral.digits

/-! ## Digits -/

theorem isAsciiDigit_digitChar (digit : Fin 10) : isAsciiDigit (digitChar digit) = true := by
  revert digit
  decide

theorem digit?_digitChar (digit : Fin 10) : digit? (digitChar digit) = some digit.val := by
  revert digit
  decide

theorem isAsciiDigit_of_mem {digits : List (Fin 10)} {char : Char}
    (member : char ∈ digitsText digits) : isAsciiDigit char = true := by
  obtain ⟨digit, -, rfl⟩ := List.mem_map.mp member
  exact isAsciiDigit_digitChar digit

/-- A text of digits is read as the number that it stands for. -/
theorem digits?_digitsText (digits : List (Fin 10)) :
    digits? digit? 10 (digitsText digits) = some (digitsValue digits) := by
  unfold digits? digitsText digitsValue
  generalize 0 = start
  induction digits generalizing start with
  | nil => rfl
  | cons digit digits inductionHypothesis =>
      rw [List.map_cons, List.foldlM_cons, digit?_digitChar]
      exact inductionHypothesis (start * 10 + digit)

theorem text_ne_nil (numeral : Numeral) : numeral.text ≠ [] :=
  fun empty => numeral.written (List.map_eq_nil_iff.mp empty)

theorem isAsciiDigit_of_mem_text {numeral : Numeral} {char : Char}
    (member : char ∈ numeral.text) : isAsciiDigit char = true :=
  isAsciiDigit_of_mem member

/-- A character outside the digits is in no numeral. -/
theorem not_mem_text {numeral : Numeral} {char : Char} (other : isAsciiDigit char = false) :
    char ∉ numeral.text := by
  intro member
  rw [isAsciiDigit_of_mem_text member] at other
  cases other

theorem not_isWhitespace_of_isAsciiDigit {char : Char} (digit : isAsciiDigit char = true) :
    isWhitespace char = false := by
  unfold isAsciiDigit at digit
  simp only [Bool.and_eq_true, decide_eq_true_eq, show '0'.toNat = 48 from rfl,
    show '9'.toNat = 57 from rfl] at digit
  simp only [isWhitespace, Bool.or_eq_false_iff, Bool.and_eq_false_iff, decide_eq_false_iff_not,
    beq_eq_false_iff_ne]
  omega

end Numeral

namespace Sanitize

/-- A text without white space is trimmed. -/
theorem trim_of_no_whitespace {text : List Char}
    (none : ∀ char ∈ text, isWhitespace char = false) : trim text = text := by
  have kept {text : List Char} (none : ∀ char ∈ text, isWhitespace char = false) :
      text.dropWhile isWhitespace = text := by
    cases text with
    | nil => rfl
    | cons char text => rw [List.dropWhile_cons_of_neg (by simp [none char List.mem_cons_self])]
  unfold trim
  rw [kept none, kept, List.reverse_reverse]
  exact fun char member => none char (List.mem_reverse.mp member)

end Sanitize

theorem Numeral.trim_text (numeral : Numeral) : trim numeral.text = numeral.text :=
  Sanitize.trim_of_no_whitespace fun _ member =>
    not_isWhitespace_of_isAsciiDigit (isAsciiDigit_of_mem_text member)

end TootTok
