import TootTok.DurationSlices
import TootTok.Inertness
import TootTok.Numerals

/-!
# Assets

Media files are served whole or in the byte range that a request asks for. A range is
parsed by byte offsets, and its bounds are unsigned numbers that are subtracted.
-/

namespace TootTok
namespace Assets

open Duration (slice dropBytes takeBytes byteLength lowerAscii)
open Sanitize (trim digit? digits? isAsciiDigit)

/-! ## Unsigned arithmetic -/

/-- The difference of two `u64`. -/
def checkedSub (left right : Nat) : Panicking Nat :=
  if right ≤ left then .ok (left - right)
  else .error (.expect "attempt to subtract with overflow")

/-- The sum of two `u64`. -/
def checkedAdd (left right : Nat) : Panicking Nat :=
  if left + right < 0x10000000000000000 then .ok (left + right)
  else .error (.expect "attempt to add with overflow")

theorem checkedSub_of_le {left right : Nat} (fits : right ≤ left) :
    checkedSub left right = .ok (left - right) :=
  if_pos fits

theorem checkedAdd_of_lt {left right : Nat} (fits : left + right < 0x10000000000000000) :
    checkedAdd left right = .ok (left + right) :=
  if_pos fits

/-- An unsigned number may have a sign in front. -/
def dropPlus : List Char → List Char
  | '+' :: digits => digits
  | digits => digits

/-- `str::parse::<u64>`. -/
def parseU64 (text : List Char) : Option Nat :=
  let digits := dropPlus text
  if digits.isEmpty then none
  else (digits? digit? 10 digits).filter (· < 0x10000000000000000)

/-! ## Ranges -/

/-- The first and the last byte of a range. -/
structure ByteRange where
  start : Nat
  last : Nat
deriving DecidableEq

inductive RangeSpec
  | partialContent (range : ByteRange)
  | full
deriving DecidableEq

structure RangeError where
deriving DecidableEq

/-- A bound of a range, absent if nothing is written. -/
def bound? (raw : List Char) : Except RangeError (Option Nat) :=
  if raw.isEmpty then .ok none
  else
    match parseU64 (trim raw) with
    | some value => .ok (some value)
    | none => .error ⟨⟩

/-- The range between two bounds, within a file of this size. -/
def clampRange (start last : Option Nat) (size : Nat) : Panicking (Except RangeError RangeSpec) :=
  match start, last with
  | some start, some last =>
      if last < start ∨ size ≤ start then pure (.error ⟨⟩)
      else do
        let final ← checkedSub size 1
        pure (.ok (.partialContent ⟨start, min last final⟩))
  | some start, none =>
      if size ≤ start then pure (.error ⟨⟩)
      else do
        let final ← checkedSub size 1
        pure (.ok (.partialContent ⟨start, final⟩))
  | none, some suffix =>
      if suffix = 0 then pure (.error ⟨⟩)
      else if size ≤ suffix then pure (.ok .full)
      else do
        let start ← checkedSub size suffix
        let final ← checkedSub size 1
        pure (.ok (.partialContent ⟨start, final⟩))
  | none, none => pure (.error ⟨⟩)

/-- What follows the unit of a range. -/
def parseBounds (rest : List Char) (size : Nat) : Panicking (Except RangeError RangeSpec) :=
  if ',' ∈ rest then pure (.error ⟨⟩)
  else
    match rest.dropWhile (· ≠ '-') with
    | [] => pure (.error ⟨⟩)
    | _ :: lastRaw =>
        match bound? (rest.takeWhile (· ≠ '-')), bound? lastRaw with
        | .ok start, .ok last => clampRange start last size
        | _, _ => pure (.error ⟨⟩)

/-- Parse a `Range` header for a file of this size. -/
def parseByteRange (header : List Char) (size : Nat) : Panicking (Except RangeError RangeSpec) :=
  if size = 0 then pure (.error ⟨⟩)
  else
    let header := trim header
    if byteLength header < 6 then pure (.error ⟨⟩)
    else do
      let unit ← slice header 0 6
      if unit.map lowerAscii ≠ "bytes=".toList then pure (.error ⟨⟩)
      else do
        let rest ← dropBytes 6 header
        parseBounds rest size

/-- The number of bytes in a range. -/
def rangeLength (range : ByteRange) : Panicking Nat := do
  checkedAdd (← checkedSub range.last range.start) 1

/-! ## Serving a file -/

/-- `HeaderValue::to_str`. -/
def headerText? (value : List UInt8) : Option (List Char) :=
  if value.all fun byte => (32 ≤ byte && byte < 127) || byte == 9 then
    some (value.map fun byte => Char.ofNat byte.toNat)
  else none

structure AssetResponse where
  status : Nat
  contentLength : Option Nat
  contentRange : Option String
  /-- What is sent of the file. -/
  body : List UInt8
deriving DecidableEq

/-- Seek, and read at most this many bytes. -/
def rangedBody (file : List UInt8) (start length : Nat) : List UInt8 :=
  (file.drop start).take length

def servePart (range : ByteRange) (file : List UInt8) (size : Nat) : Panicking AssetResponse := do
  let length ← rangeLength range
  pure {
    status := 206
    contentLength := some length
    contentRange := some
      ("bytes " ++ toString range.start ++ "-" ++ toString range.last ++ "/" ++ toString size)
    body := rangedBody file range.start length }

/-- The answer of `asset` once the file is open. -/
def serveFile (range : Option (List UInt8)) (file : List UInt8) (size : Nat) :
    Panicking AssetResponse :=
  match range.bind headerText? with
  | none => pure ⟨200, some size, none, rangedBody file 0 size⟩
  | some header => do
      match ← parseByteRange header size with
      | .ok (.partialContent range) => servePart range file size
      | .ok .full => pure ⟨200, some size, none, rangedBody file 0 size⟩
      | .error _ => pure ⟨416, none, some ("bytes */" ++ toString size), []⟩

/-! ## No panic -/

/-- The range lies within a file of this size. -/
def ByteRange.Within (range : ByteRange) (size : Nat) : Prop :=
  range.start ≤ range.last ∧ range.last < size

/-- A result that does not panic, and whose range lies within the file. -/
def Sound (result : Panicking (Except RangeError RangeSpec)) (size : Nat) : Prop :=
  ∃ outcome, result = .ok outcome ∧
    ∀ range, outcome = .ok (.partialContent range) → range.Within size

theorem sound_error (size : Nat) : Sound (.ok (.error ⟨⟩)) size :=
  ⟨_, rfl, fun _ isRange => by cases isRange⟩

theorem sound_range {range : ByteRange} {size : Nat} (within : range.Within size) :
    Sound (.ok (.ok (.partialContent range))) size := by
  refine ⟨_, rfl, fun other isRange => ?_⟩
  cases isRange
  exact within

theorem clampRange_sound (start last : Option Nat) {size : Nat} (positive : 0 < size) :
    Sound (clampRange start last size) size := by
  have final : checkedSub size 1 = .ok (size - 1) := checkedSub_of_le positive
  unfold clampRange
  cases start with
  | some start =>
      cases last with
      | some last =>
          dsimp only
          split
          · exact sound_error size
          next ordered =>
            rw [final]
            refine sound_range ⟨?_, ?_⟩ <;> dsimp only <;> omega
      | none =>
          dsimp only
          split
          · exact sound_error size
          next ordered =>
            rw [final]
            refine sound_range ⟨?_, ?_⟩ <;> dsimp only <;> omega
  | none =>
      cases last with
      | some suffix =>
          dsimp only
          split
          · exact sound_error size
          split
          · exact ⟨_, rfl, fun _ isRange => by cases isRange⟩
          next nonzero shorter =>
            rw [checkedSub_of_le (Nat.le_of_not_le shorter), final]
            refine sound_range ⟨?_, ?_⟩ <;> dsimp only <;> omega
      | none => exact sound_error size

theorem parseBounds_sound (rest : List Char) {size : Nat} (positive : 0 < size) :
    Sound (parseBounds rest size) size := by
  unfold parseBounds
  split
  · exact sound_error size
  split
  · exact sound_error size
  split
  next start last _ _ => exact clampRange_sound start last positive
  next => exact sound_error size

/-- A visible character of ASCII, or a tab. -/
def IsVisible (char : Char) : Prop :=
  32 ≤ char.toNat ∧ char.toNat < 127 ∨ char.toNat = 9

theorem utf8Size_of_isVisible {char : Char} (visible : IsVisible char) : char.utf8Size = 1 := by
  have small : char.val ≤ 0x7F := by
    show char.val.toNat ≤ 127
    have bound : char.toNat ≤ 127 := by
      unfold IsVisible at visible
      omega
    exact bound
  exact Char.utf8Size_eq_one_iff.mpr small

theorem byteLength_of_visible {text : List Char} (visible : ∀ char ∈ text, IsVisible char) :
    byteLength text = text.length := by
  induction text with
  | nil => rfl
  | cons char text inductionHypothesis =>
      rw [Duration.byteLength_cons, utf8Size_of_isVisible (visible char List.mem_cons_self),
        inductionHypothesis fun char member => visible char (List.mem_cons_of_mem _ member),
        List.length_cons, Nat.add_comm]

/-- The unit is six bytes long, and these are six characters. -/
theorem parseByteRange_of_front {header front rest : List Char} {size : Nat} (positive : 0 < size)
    (split : trim header = front ++ rest) (six : byteLength front = 6) :
    parseByteRange header size =
      if front.map lowerAscii ≠ "bytes=".toList then .ok (.error ⟨⟩) else parseBounds rest size := by
  have unit : slice (front ++ rest) 0 6 = .ok front := by
    rw [slice, if_pos (by decide), dropBytes, Nat.sub_zero, ← six]
    exact Duration.takeBytes_append front rest
  have remainder : dropBytes 6 (front ++ rest) = .ok rest := by
    rw [← six]
    exact Duration.dropBytes_append front rest
  have long : ¬byteLength (front ++ rest) < 6 := by
    rw [Duration.byteLength_append]
    omega
  unfold parseByteRange
  rw [if_neg (Nat.ne_of_gt positive), split, if_neg long, unit, remainder]
  rfl

theorem parseByteRange_sound {header : List Char} (visible : ∀ char ∈ header, IsVisible char)
    (size : Nat) : Sound (parseByteRange header size) size := by
  by_cases empty : size = 0
  · rw [parseByteRange, if_pos empty]
    exact sound_error size
  have positive : 0 < size := Nat.pos_of_ne_zero empty
  have trimmed : ∀ char ∈ trim header, IsVisible char :=
    fun char member => visible char (Sanitize.mem_of_mem_trim member)
  have length := byteLength_of_visible trimmed
  by_cases short : (trim header).length < 6
  · rw [parseByteRange, if_neg empty]
    dsimp only
    rw [length, if_pos short]
    exact sound_error size
  · have six : byteLength ((trim header).take 6) = 6 := by
      rw [byteLength_of_visible fun char member => trimmed char (List.mem_of_mem_take member),
        List.length_take]
      omega
    rw [parseByteRange_of_front positive (List.take_append_drop 6 _).symm six]
    split
    · exact sound_error size
    · exact parseBounds_sound _ positive

/-- The caller's arithmetic on a range within a file. -/
theorem rangeLength_of_within {range : ByteRange} {size : Nat} (within : range.Within size)
    (fits : size < 0x10000000000000000) :
    rangeLength range = .ok (range.last - range.start + 1) ∧
      range.start + (range.last - range.start + 1) ≤ size := by
  obtain ⟨ordered, inside⟩ := within
  have difference : checkedSub range.last range.start = .ok (range.last - range.start) :=
    checkedSub_of_le ordered
  have sum : checkedAdd (range.last - range.start) 1 = .ok (range.last - range.start + 1) :=
    checkedAdd_of_lt (by omega)
  refine ⟨?_, by omega⟩
  rw [rangeLength, difference]
  exact sum

/-! ## The ranges of RFC 7233 -/

/-- The single ranges in bytes. -/
inductive RangeRequest
  | fromTo (first last : Numeral)
  | fromOn (first : Numeral)
  | suffix (length : Numeral)

namespace RangeRequest

/-- What stands behind the unit. -/
def bounds : RangeRequest → List Char
  | fromTo first last => first.text ++ '-' :: last.text
  | fromOn first => first.text ++ ['-']
  | suffix length => '-' :: length.text

def text (request : RangeRequest) : List Char := "bytes=".toList ++ request.bounds

/-- The numerals are below `2 ^ 64`. -/
def Fits : RangeRequest → Prop
  | fromTo first last =>
      first.value < 0x10000000000000000 ∧ last.value < 0x10000000000000000
  | fromOn first => first.value < 0x10000000000000000
  | suffix length => length.value < 0x10000000000000000

/-- The bytes of a file of this size that are asked for. -/
def Selects (request : RangeRequest) (size position : Nat) : Prop :=
  position < size ∧
    match request with
    | fromTo first last => first.value ≤ position ∧ position ≤ last.value
    | fromOn first => first.value ≤ position
    | suffix length => size ≤ position + length.value

/-- The answer for a file of this size. A suffix may be longer than the file, and a file
without any byte then is sent as a whole. -/
def answer (request : RangeRequest) (size : Nat) : Except RangeError RangeSpec :=
  match request with
  | fromTo first last =>
      if first.value ≤ last.value ∧ first.value < size then
        .ok (.partialContent ⟨first.value, min last.value (size - 1)⟩)
      else .error ⟨⟩
  | fromOn first =>
      if first.value < size then .ok (.partialContent ⟨first.value, size - 1⟩) else .error ⟨⟩
  | suffix length =>
      if length.value = 0 then .error ⟨⟩
      else if size ≤ length.value then .ok .full
      else .ok (.partialContent ⟨size - length.value, size - 1⟩)

end RangeRequest

/-- The bytes of a file of this size that an answer sends. -/
def Sends (answer : Except RangeError RangeSpec) (size position : Nat) : Prop :=
  match answer with
  | .ok (.partialContent range) => range.start ≤ position ∧ position ≤ range.last
  | .ok .full => position < size
  | .error _ => False

/-- What is sent are the bytes that are asked for. -/
theorem sends_answer_iff (request : RangeRequest) (size position : Nat) :
    Sends (request.answer size) size position ↔ request.Selects size position := by
  cases request with
  | fromTo first last =>
      simp only [RangeRequest.answer, RangeRequest.Selects]
      split <;> simp only [Sends, false_iff] <;> omega
  | fromOn first =>
      simp only [RangeRequest.answer, RangeRequest.Selects]
      split <;> simp only [Sends, false_iff] <;> omega
  | suffix length =>
      simp only [RangeRequest.answer, RangeRequest.Selects]
      split
      · simp only [Sends, false_iff]
        omega
      · split <;> simp only [Sends] <;> omega

theorem parseU64_text {numeral : Numeral} (fits : numeral.value < 0x10000000000000000) :
    parseU64 numeral.text = some numeral.value := by
  have unsigned : dropPlus numeral.text = numeral.text := by
    unfold dropPlus
    split
    next digits signed =>
      have sign : '+' ∈ numeral.text := by
        rw [signed]
        exact List.mem_cons_self
      exact (Numeral.not_mem_text rfl sign).elim
    next => rfl
  unfold parseU64
  rw [unsigned]
  dsimp only
  rw [if_neg (by simpa using numeral.text_ne_nil), Numeral.text, Numeral.digits?_digitsText]
  exact Option.filter_some_pos (decide_eq_true fits)

theorem bound?_text {numeral : Numeral} (fits : numeral.value < 0x10000000000000000) :
    bound? numeral.text = .ok (some numeral.value) := by
  unfold bound?
  rw [if_neg (by simpa using numeral.text_ne_nil), numeral.trim_text, parseU64_text fits]

/-- Two bounds with a hyphen between them. -/
theorem parseBounds_hyphen {front back : List Char} {start last : Option Nat} (size : Nat)
    (noComma : ',' ∉ front ++ '-' :: back) (noHyphen : '-' ∉ front)
    (isStart : bound? front = .ok start) (isLast : bound? back = .ok last) :
    parseBounds (front ++ '-' :: back) size = clampRange start last size := by
  have outside : ∀ char ∈ front, decide (char ≠ '-') = true := by
    intro char member
    refine decide_eq_true fun same => ?_
    exact noHyphen (same ▸ member)
  have ahead : (front ++ '-' :: back).takeWhile (· ≠ '-') = front := by
    rw [List.takeWhile_append_of_pos outside, List.takeWhile_cons_of_neg (by simp), List.append_nil]
  have behind : (front ++ '-' :: back).dropWhile (· ≠ '-') = '-' :: back := by
    rw [List.dropWhile_append_of_pos outside, List.dropWhile_cons_of_neg (by simp)]
  unfold parseBounds
  rw [if_neg noComma, ahead, behind]
  dsimp only
  rw [isStart, isLast]

/-- A character that stands in no numeral and is no hyphen does not stand in the bounds. -/
theorem not_mem_bounds {char : Char} (noDigit : isAsciiDigit char = false) (noHyphen : char ≠ '-')
    (request : RangeRequest) : char ∉ request.bounds := by
  have notIn (numeral : Numeral) : char ∉ numeral.text := Numeral.not_mem_text noDigit
  cases request with
  | fromTo first last => simp [RangeRequest.bounds, notIn, noHyphen]
  | fromOn first => simp [RangeRequest.bounds, notIn, noHyphen]
  | suffix length => simp [RangeRequest.bounds, notIn, noHyphen]

theorem parseBounds_request {request : RangeRequest} (fits : request.Fits) {size : Nat}
    (positive : 0 < size) : parseBounds request.bounds size = .ok (request.answer size) := by
  have noComma : ',' ∉ request.bounds := not_mem_bounds rfl (by decide) request
  have final : checkedSub size 1 = .ok (size - 1) := checkedSub_of_le positive
  have noHyphen (numeral : Numeral) : '-' ∉ numeral.text := Numeral.not_mem_text rfl
  cases request with
  | fromTo first last =>
      rw [RangeRequest.bounds, parseBounds_hyphen size noComma (noHyphen first)
        (bound?_text fits.1) (bound?_text fits.2), clampRange, RangeRequest.answer]
      by_cases refused : last.value < first.value ∨ size ≤ first.value
      · rw [if_pos refused, if_neg (by omega)]
        rfl
      · rw [if_neg refused, if_pos (by omega), final]
        rfl
  | fromOn first =>
      rw [RangeRequest.bounds, parseBounds_hyphen size noComma (noHyphen first)
        (bound?_text fits) rfl, clampRange, RangeRequest.answer]
      by_cases refused : size ≤ first.value
      · rw [if_pos refused, if_neg (Nat.not_lt_of_le refused)]
        rfl
      · rw [if_neg refused, if_pos (Nat.lt_of_not_le refused), final]
        rfl
  | suffix length =>
      have split : RangeRequest.bounds (.suffix length) = [] ++ '-' :: length.text := rfl
      rw [split, parseBounds_hyphen size noComma (by simp) rfl (bound?_text fits), clampRange,
        RangeRequest.answer]
      split
      · rfl
      split
      · rfl
      next shorter =>
        rw [checkedSub_of_le (Nat.le_of_not_le shorter), final]
        rfl

theorem no_whitespace_in_text (request : RangeRequest) :
    ∀ char ∈ request.text, Sanitize.isWhitespace char = false := by
  intro char member
  rcases List.mem_append.mp member with unit | inBounds
  · have unitOnly : ("bytes=".toList.all fun char => !Sanitize.isWhitespace char) = true := by
      decide
    simpa using List.all_eq_true.mp unitOnly char unit
  · by_cases digit : isAsciiDigit char = true
    · exact Numeral.not_isWhitespace_of_isAsciiDigit digit
    · by_cases hyphen : char = '-'
      · rw [hyphen]
        rfl
      · exact (not_mem_bounds (Bool.not_eq_true _ ▸ digit) hyphen request inBounds).elim

theorem parseByteRange_request {request : RangeRequest} (fits : request.Fits) (size : Nat) :
    parseByteRange request.text size =
      .ok (if size = 0 then .error ⟨⟩ else request.answer size) := by
  by_cases empty : size = 0
  · rw [parseByteRange, if_pos empty, if_pos empty]
    rfl
  · have positive : 0 < size := Nat.pos_of_ne_zero empty
    have trimmed : trim request.text = "bytes=".toList ++ request.bounds :=
      Sanitize.trim_of_no_whitespace (no_whitespace_in_text request)
    rw [parseByteRange_of_front positive trimmed (by decide), if_neg (by decide), if_neg empty,
      parseBounds_request fits positive]

/-- No visible header makes the parser panic, and a range that it returns lies within the
file, so that the caller's arithmetic does not either. The ranges of RFC 7233 are answered as
the RFC says, except that nothing is sent of an empty file. -/
theorem byte_ranges (size : UInt64) :
    (∀ header : List Char, (∀ char ∈ header, IsVisible char) →
      ∃ outcome, parseByteRange header size.toNat = .ok outcome ∧
        ∀ range, outcome = .ok (.partialContent range) →
          range.start ≤ range.last ∧ range.last < size.toNat ∧
          ∃ length, rangeLength range = .ok length ∧
            length = range.last - range.start + 1 ∧ range.start + length ≤ size.toNat) ∧
    ∀ request : RangeRequest, request.Fits →
      parseByteRange request.text size.toNat =
        .ok (if size.toNat = 0 then .error ⟨⟩ else request.answer size.toNat) := by
  refine ⟨fun header visible => ?_, fun request fits => parseByteRange_request fits _⟩
  obtain ⟨outcome, returned, within⟩ := parseByteRange_sound visible size.toNat
  refine ⟨outcome, returned, fun range isRange => ?_⟩
  have inside := within range isRange
  obtain ⟨length, bounded⟩ := rangeLength_of_within inside size.toNat_lt
  exact ⟨inside.1, inside.2, _, length, rfl, bounded⟩

/-- A suffix of a file without any byte is the whole file, which is refused. -/
theorem empty_file_refused :
    let request := RangeRequest.suffix ⟨[5], by decide⟩
    parseByteRange request.text 0 = .ok (.error ⟨⟩) ∧ request.answer 0 = .ok .full := by
  decide

/-! ## The answer to a request -/

theorem isVisible_headerText {value : List UInt8} {header : List Char}
    (isText : headerText? value = some header) : ∀ char ∈ header, IsVisible char := by
  unfold headerText? at isText
  split at isText
  next visible =>
    obtain rfl := Option.some.inj isText
    intro char member
    obtain ⟨byte, isByte, rfl⟩ := List.mem_map.mp member
    have inRange := List.all_eq_true.mp visible byte isByte
    simp only [Bool.or_eq_true, Bool.and_eq_true, decide_eq_true_eq, beq_iff_eq,
      UInt8.le_iff_toNat_le, UInt8.lt_iff_toNat_lt] at inRange
    have valid : byte.toNat.isValidChar := .inl (Nat.lt_trans byte.toNat_lt (by decide))
    have code : (Char.ofNat byte.toNat).toNat = byte.toNat := by
      rw [Char.ofNat, dif_pos valid]
      rfl
    unfold IsVisible
    rw [code]
    rcases inRange with inRange | rfl
    · exact .inl inRange
    · exact .inr rfl
  next => cases isText

theorem length_rangedBody {file : List UInt8} {start length : Nat}
    (inside : start + length ≤ file.length) : (rangedBody file start length).length = length := by
  rw [rangedBody, List.length_take, List.length_drop]
  omega

theorem servePart_length {range : ByteRange} {file : List UInt8}
    (within : range.Within file.length) (fits : file.length < 0x10000000000000000) :
    ∃ response, servePart range file file.length = .ok response ∧
      ∀ length ∈ response.contentLength, response.body.length = length := by
  obtain ⟨length, bounded⟩ := rangeLength_of_within within fits
  unfold servePart
  rw [length]
  refine ⟨_, rfl, ?_⟩
  rintro _ ⟨rfl⟩
  exact length_rangedBody bounded

/-- Whatever range is asked for, a file is served without a panic, and as many bytes of it
are sent as the answer says. -/
theorem serveFile_length (range : Option (List UInt8)) (file : List UInt8)
    (fits : file.length < 0x10000000000000000) :
    ∃ response, serveFile range file file.length = .ok response ∧
      ∀ length ∈ response.contentLength, response.body.length = length := by
  have whole : ∀ length ∈ some file.length, (rangedBody file 0 file.length).length = length := by
    rintro length ⟨rfl⟩
    exact length_rangedBody (Nat.le_of_eq (Nat.zero_add _))
  unfold serveFile
  cases isText : range.bind headerText? with
  | none => exact ⟨_, rfl, whole⟩
  | some header =>
      obtain ⟨value, -, isHeader⟩ := Option.bind_eq_some_iff.mp isText
      obtain ⟨outcome, returned, within⟩ :=
        parseByteRange_sound (isVisible_headerText isHeader) file.length
      dsimp only
      rw [returned]
      cases outcome with
      | error _ => exact ⟨_, rfl, fun length none => by cases none⟩
      | ok spec =>
          cases spec with
          | full => exact ⟨_, rfl, whole⟩
          | partialContent range =>
              exact servePart_length (within range rfl) fits

end Assets
end TootTok
