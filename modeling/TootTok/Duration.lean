import TootTok.Json
import TootTok.Sanitize

/-!
# Durations

An attachment gives its duration as seconds or as an ISO 8601 text. The parser
of the latter slices by byte offsets and can panic on them.
-/

namespace TootTok

open Json (Value)

/-- Why a function of the source panicked. -/
inductive Panic
  /-- A slice outside the text, or not on character boundaries. -/
  | slice
  /-- An `expect` on an absent value. -/
  | expect (message : String)
deriving DecidableEq

/-- A computation of the source that may panic. -/
abbrev Panicking (α : Type) : Type := Except Panic α

namespace Duration

open Sanitize (trim isAsciiDigit digits? digit?)

/-! ## Decimal numbers -/

def lowerAscii (char : Char) : Char :=
  if 'A'.toNat ≤ char.toNat && char.toNat ≤ 'Z'.toNat then
    Char.ofNat (char.toNat + 32)
  else char

/-- The value of `digits.fraction`, of which one part may be missing. -/
def decimal? (text : List Char) : Option ℚ :=
  let whole := text.takeWhile isAsciiDigit
  match text.dropWhile isAsciiDigit with
  | [] => if whole.isEmpty then none else (digits? digit? 10 whole).map (Nat.cast ·)
  | '.' :: fraction =>
      if whole.isEmpty && fraction.isEmpty then none
      else do
        let wholeValue ← digits? digit? 10 whole
        let fractionValue ← digits? digit? 10 fraction
        pure (wholeValue + fractionValue / 10 ^ fraction.length)
  | _ => none

/-- An exponent: digits with an optional sign. -/
def exponent? (text : List Char) : Option Int :=
  let unsigned (digits : List Char) :=
    if digits.isEmpty then none else (digits? digit? 10 digits).map Int.ofNat
  match text with
  | '+' :: digits => unsigned digits
  | '-' :: digits => (unsigned digits).map Int.neg
  | digits => unsigned digits

/-- A number without sign, already in lower case. -/
def unsignedF64? (text : List Char) : Option F64 :=
  if text = "inf".toList ∨ text = "infinity".toList then some (.infinite false)
  else if text = "nan".toList then some .nan
  else
    let mantissa := text.takeWhile (· ≠ 'e')
    match text.dropWhile (· ≠ 'e') with
    | 'e' :: exponent => do
        let value ← decimal? mantissa
        let power ← exponent? exponent
        pure (.ofRational (value * 10 ^ power))
    | _ => (decimal? mantissa).map .ofRational

/-- `str::parse::<f64>`. -/
def parseF64 (text : List Char) : Option F64 :=
  match text.map lowerAscii with
  | '+' :: rest => unsignedF64? rest
  | '-' :: rest => (unsignedF64? rest).map F64.neg
  | rest => unsignedF64? rest

/-! ## Slices -/

/-- Drop bytes from the front; a count inside a character or past the end
panics. -/
def dropBytes : Nat → List Char → Panicking (List Char)
  | 0, text => .ok text
  | _ + 1, [] => .error .slice
  | count + 1, char :: rest =>
      if char.utf8Size ≤ count + 1 then dropBytes (count + 1 - char.utf8Size) rest
      else .error .slice

/-- Take bytes from the front, under the conditions of `dropBytes`. -/
def takeBytes : Nat → List Char → Panicking (List Char)
  | 0, _ => .ok []
  | _ + 1, [] => .error .slice
  | count + 1, char :: rest =>
      if char.utf8Size ≤ count + 1 then
        (takeBytes (count + 1 - char.utf8Size) rest).map (char :: ·)
      else .error .slice

/-- `&text[first..last]`. -/
def slice (text : List Char) (first last : Nat) : Panicking (List Char) :=
  if first ≤ last then (dropBytes first text).bind (takeBytes (last - first))
  else .error .slice

/-! ## ISO 8601 components -/

/-- The loop of `parse_component` over the characters from byte `idx` on. -/
def componentLoop (unit : Char) (lower : List Char) :
    (idx numStart : Nat) → (total : F64) → (found : Bool) → List Char →
      Panicking (Option F64)
  | _, _, total, found, [] => .ok (if found then some total else none)
  | idx, numStart, total, found, char :: rest =>
      if char = unit then do
        let number ← slice lower numStart idx
        match parseF64 number with
        | none => .ok none
        | some parsed =>
            componentLoop unit lower (idx + char.utf8Size) (idx + 1)
              (total.add parsed) true rest
      else if !(isAsciiDigit char || char == '.' || char == ',') then
        -- One byte further, also after a character of several bytes.
        componentLoop unit lower (idx + char.utf8Size) (idx + 1) total found rest
      else
        componentLoop unit lower (idx + char.utf8Size) numStart total found rest

/-- Sum of the numbers that stand before the unit. -/
def parseComponent (chunk : List Char) (unit : Char) : Panicking (Option F64) :=
  let lower := chunk.map lowerAscii
  componentLoop (lowerAscii unit) lower 0 0 .zero false lower

/-- A component scaled to seconds, zero when absent. -/
def componentSeconds (chunk : List Char) (unit : Char) (factor : ℚ) :
    Panicking F64 :=
  (parseComponent chunk unit).map fun value => (value.getD .zero).scale factor

def parseDurationStr (text : String) : Panicking (Option F64) :=
  let trimmed := trim text.toList
  match parseF64 trimmed with
  | some seconds => .ok (if seconds.isNonnegative then some seconds else none)
  | none =>
      match trimmed with
      | 'P' :: rest => do
          let days := rest.takeWhile (· ≠ 'T')
          let total ← componentSeconds days 'D' 86400
          let total ←
            match rest.dropWhile (· ≠ 'T') with
            | 'T' :: time => do
                let hours ← componentSeconds time 'H' 3600
                let minutes ← componentSeconds time 'M' 60
                let seconds ← componentSeconds time 'S' 1
                pure (((total.add hours).add minutes).add seconds)
            | _ => pure total
          pure (if total.isNonnegative then some total else none)
      | _ => .ok none

/-- Seconds as a number, as a numeric text or as an ISO 8601 duration. -/
def parseDurationSeconds : Value → Panicking (Option F64)
  | .number value => .ok (value.asF64.filter F64.isNonnegative)
  | .string text => parseDurationStr text
  | _ => .ok none

example : parseDurationStr "PT1M30S" = .ok (some (.finite 90)) := by decide +kernel

end Duration
end TootTok
