import Mathlib.Data.List.TakeWhile

/-!
# Query strings

What a URL has after its question mark. A character outside of a safe set is written as the
escapes of its bytes. The parameters are read like a form, where `&` separates them and `+`
stands for a space. What a form makes of a text does not depend on whether the text was
encoded, so that the text itself tells when it is read back unchanged.
-/

namespace TootTok
namespace Web

/-- The bytes of a text in UTF-8. -/
def utf8 (text : List Char) : List UInt8 :=
  text.flatMap String.utf8EncodeChar

@[simp] theorem utf8_nil : utf8 [] = [] := rfl

@[simp] theorem utf8_cons (char : Char) (text : List Char) :
    utf8 (char :: text) = String.utf8EncodeChar char ++ utf8 text := rfl

@[simp] theorem utf8_append (front back : List Char) :
    utf8 (front ++ back) = utf8 front ++ utf8 back :=
  List.flatMap_append

theorem length_utf8EncodeChar_pos (char : Char) : 0 < (String.utf8EncodeChar char).length := by
  rw [String.length_utf8EncodeChar]
  exact char.utf8Size_pos

/-- A text from which nothing is left out has the most bytes. -/
theorem eq_of_sublist_of_length_utf8_le {part whole : List Char} (sublist : part.Sublist whole)
    (atLeast : (utf8 whole).length ≤ (utf8 part).length) : part = whole := by
  induction sublist with
  | slnil => rfl
  | @cons part whole char sublist inductionHypothesis =>
      exfalso
      have positive := length_utf8EncodeChar_pos char
      rw [utf8_cons, List.length_append] at atLeast
      have same := inductionHypothesis (by omega)
      rw [same] at atLeast
      omega
  | @cons_cons part whole char sublist inductionHypothesis =>
      rw [utf8_cons, utf8_cons, List.length_append, List.length_append] at atLeast
      rw [inductionHypothesis (by omega)]

/-! ## Listed characters -/

/-- What is true of every listed character. -/
theorem holds_of_mem {listed : List Char} {holds : Char → Bool} (all : listed.all holds = true)
    {char : Char} (member : char ∈ listed) : holds char = true :=
  List.all_eq_true.mp all char member

/-- What is true of no listed character tells that one is not listed. -/
theorem contains_eq_false {listed : List Char} {holds : Char → Bool}
    (none : listed.any holds = false) {char : Char} (held : holds char = true) :
    listed.contains char = false := by
  rw [Bool.eq_false_iff, Ne, List.contains_iff_mem]
  intro member
  exact List.any_eq_false.mp none char member held

/-- No character of a text is listed. -/
theorem not_mem_of_all {text listed : List Char}
    (apart : (text.all fun char => !listed.contains char) = true) :
    ∀ char ∈ text, char ∉ listed := by
  intro char member isListed
  have unlisted := List.all_eq_true.mp apart char member
  rw [List.contains_iff_mem.mpr isListed] at unlisted
  cases unlisted

/-! ## Cuts -/

/-- What stands before the first stop, and what after it, if there is one. -/
def cutAt (stop : Char) (text : List Char) : List Char × Option (List Char) :=
  (text.takeWhile (· ≠ stop),
    match text.dropWhile (· ≠ stop) with
    | [] => none
    | _ :: rest => some rest)

theorem cutAt_append {stop : Char} {front : List Char} (absent : stop ∉ front)
    (back : List Char) : cutAt stop (front ++ stop :: back) = (front, some back) := by
  have passes : ∀ char ∈ front, decide (char ≠ stop) = true :=
    fun char member => decide_eq_true (ne_of_mem_of_not_mem member absent)
  rw [cutAt, List.takeWhile_append_of_pos passes, List.dropWhile_append_of_pos passes]
  simp

theorem cutAt_of_not_mem {stop : Char} {text : List Char} (absent : stop ∉ text) :
    cutAt stop text = (text, none) := by
  have passes : ∀ char ∈ text, decide (char ≠ stop) = true :=
    fun char member => decide_eq_true (ne_of_mem_of_not_mem member absent)
  rw [cutAt, List.takeWhile_eq_self_iff.mpr passes, List.dropWhile_eq_nil_iff.mpr passes]

/-- Every text is cut in one of two ways. -/
theorem cut_cases (stop : Char) (text : List Char) :
    stop ∉ text ∨ ∃ front back, text = front ++ stop :: back ∧ stop ∉ front := by
  by_cases present : stop ∈ text
  · exact .inr (List.eq_append_cons_of_mem present)
  · exact .inl present

/-- What stands after a stop is part of the text. -/
theorem subset_of_cutAt {stop : Char} {text back : List Char}
    (isBack : (cutAt stop text).2 = some back) : back ⊆ text := by
  rcases cut_cases stop text with absent | ⟨front, rest, rfl, absent⟩
  · rw [cutAt_of_not_mem absent] at isBack
    cases isBack
  · rw [cutAt_append absent] at isBack
    obtain rfl := Option.some.inj isBack
    exact fun char member => List.mem_append_right front (List.mem_cons_of_mem stop member)

/-! ## Escapes -/

/-- The value of a hexadecimal digit. -/
def hexValue (char : Char) : Option Nat :=
  if '0' ≤ char ∧ char ≤ '9' then some (char.toNat - 48)
  else if 'A' ≤ char ∧ char ≤ 'F' then some (char.toNat - 55)
  else if 'a' ≤ char ∧ char ≤ 'f' then some (char.toNat - 87)
  else none

def hexDigit (value : Nat) : Char :=
  if value < 10 then Char.ofNat (48 + value) else Char.ofNat (55 + value)

/-- The escape of a byte. -/
def percentEncode (byte : UInt8) : List Char :=
  ['%', hexDigit (byte.toNat / 16), hexDigit (byte.toNat % 16)]

/-- The byte that `%` and these two characters are an escape of. -/
def escaped (high low : Char) : Option UInt8 :=
  match hexValue high, hexValue low with
  | some high, some low => some (UInt8.ofNat (16 * high + low))
  | _, _ => none

theorem hexValue_hexDigit : ∀ value < 16, hexValue (hexDigit value) = some value := by
  decide

@[simp] theorem escaped_hexDigit (byte : UInt8) :
    escaped (hexDigit (byte.toNat / 16)) (hexDigit (byte.toNat % 16)) = some byte := by
  have bound := byte.toNat_lt
  unfold escaped
  rw [hexValue_hexDigit _ (by omega), hexValue_hexDigit _ (by omega)]
  dsimp only
  rw [Nat.div_add_mod, UInt8.ofNat_toNat]

theorem escaped_eq_none_of_high {high : Char} (noDigit : hexValue high = none) (low : Char) :
    escaped high low = none := by
  unfold escaped
  rw [noDigit]

theorem escaped_eq_none_of_low {low : Char} (noDigit : hexValue low = none) (high : Char) :
    escaped high low = none := by
  unfold escaped
  rw [noDigit]
  cases hexValue high <;> rfl

theorem hexValue_of_escaped {high low : Char} {byte : UInt8}
    (isEscape : escaped high low = some byte) :
    (∃ value, hexValue high = some value) ∧ ∃ value, hexValue low = some value := by
  unfold escaped at isEscape
  split at isEscape
  next highValue lowValue isHigh isLow => exact ⟨⟨_, isHigh⟩, _, isLow⟩
  next => cases isEscape

/-! ## The query of a URL -/

/-- The query of a URL keeps the character. -/
def isQueryChar (char : Char) : Bool :=
  '!' ≤ char && char ≤ '~' && !(['"', '#', '<', '>', '\''].contains char)

def encodeChar (char : Char) : List Char :=
  if isQueryChar char then [char] else (String.utf8EncodeChar char).flatMap percentEncode

def encodeQuery (text : List Char) : List Char :=
  text.flatMap encodeChar

@[simp] theorem encodeQuery_nil : encodeQuery [] = [] := rfl

@[simp] theorem encodeQuery_cons (char : Char) (text : List Char) :
    encodeQuery (char :: text) = encodeChar char ++ encodeQuery text := rfl

theorem encodeChar_of_kept {char : Char} (kept : isQueryChar char = true) :
    encodeChar char = [char] := by
  rw [encodeChar, if_pos kept]

theorem encodeQuery_of_isQueryChar {text : List Char} (kept : ∀ char ∈ text, isQueryChar char) :
    encodeQuery text = text := by
  induction text with
  | nil => rfl
  | cons char text inductionHypothesis =>
      rw [encodeQuery_cons, encodeChar_of_kept (kept char List.mem_cons_self),
        inductionHypothesis fun other member => kept other (List.mem_cons_of_mem char member)]
      rfl

/-- A character is kept, or escaped. -/
theorem encodeChar_cases (char : Char) :
    (isQueryChar char = true ∧ encodeChar char = [char]) ∨
      isQueryChar char = false ∧
        encodeChar char = (String.utf8EncodeChar char).flatMap percentEncode ∧
          ∃ escape, encodeChar char = '%' :: escape := by
  unfold encodeChar
  cases kept : isQueryChar char with
  | true => exact .inl ⟨rfl, rfl⟩
  | false =>
      refine .inr ⟨rfl, rfl, ?_⟩
      cases bytes : String.utf8EncodeChar char with
      | nil =>
          have positive := length_utf8EncodeChar_pos char
          rw [bytes] at positive
          exact absurd positive (Nat.lt_irrefl 0)
      | cons byte bytes => exact ⟨_, rfl⟩

/-- A hexadecimal digit lies in one of three ranges. -/
theorem range_of_hexValue {char : Char} {value : Nat} (isDigit : hexValue char = some value) :
    '0' ≤ char ∧ char ≤ '9' ∨ 'A' ≤ char ∧ char ≤ 'F' ∨ 'a' ≤ char ∧ char ≤ 'f' := by
  unfold hexValue at isDigit
  split at isDigit
  next range => exact .inl range
  next =>
    split at isDigit
    next range => exact .inr (.inl range)
    next =>
      split at isDigit
      next range => exact .inr (.inr range)
      next => cases isDigit

/-- A hexadecimal digit is kept. -/
theorem isQueryChar_of_hexValue {char : Char} {value : Nat} (isDigit : hexValue char = some value) :
    isQueryChar char = true := by
  have notListed : ['"', '#', '<', '>', '\''].contains char = false :=
    @contains_eq_false _ (fun other => (hexValue other).isSome) (by decide) char
      (by rw [isDigit]; rfl)
  have above : '!' ≤ char ∧ char ≤ '~' := by
    rcases range_of_hexValue isDigit with ⟨low, high⟩ | ⟨low, high⟩ | ⟨low, high⟩
    · exact ⟨Char.le_trans (by decide) low, Char.le_trans high (by decide)⟩
    · exact ⟨Char.le_trans (by decide) low, Char.le_trans high (by decide)⟩
    · exact ⟨Char.le_trans (by decide) low, Char.le_trans high (by decide)⟩
  unfold isQueryChar
  rw [notListed, decide_eq_true above.1, decide_eq_true above.2]
  rfl

/-! ## Forms -/

/-- The bytes that a form reads from a text. -/
def formDecode : List Char → List UInt8
  | [] => []
  | '+' :: rest => 0x20 :: formDecode rest
  | '%' :: high :: low :: rest =>
      match escaped high low with
      | some byte => byte :: formDecode rest
      | none => 0x25 :: formDecode (high :: low :: rest)
  | char :: rest => String.utf8EncodeChar char ++ formDecode rest

/-- The text does not begin with the digits of an escape. -/
def NoDigits (text : List Char) : Prop :=
  ∀ high low, [high, low] <+: text → escaped high low = none

/-- No character is a plus, and no three are an escape. -/
def IsPlain (text : List Char) : Prop :=
  '+' ∉ text ∧ ∀ high low, ['%', high, low] <:+: text → escaped high low = none

theorem isPlain_nil : IsPlain [] := by
  refine ⟨List.not_mem_nil, fun high low escape => ?_⟩
  cases List.infix_nil.mp escape

theorem isPlain_cons {char : Char} {rest : List Char} :
    IsPlain (char :: rest) ↔ char ≠ '+' ∧ (char = '%' → NoDigits rest) ∧ IsPlain rest := by
  simp only [IsPlain, NoDigits, List.mem_cons, not_or, List.infix_cons_iff, List.cons_prefix_cons]
  constructor
  · rintro ⟨⟨noPlus, noPlusLater⟩, noEscape⟩
    exact ⟨Ne.symm noPlus,
      fun percent high low digits => noEscape high low (.inl ⟨percent.symm, digits⟩), noPlusLater,
      fun high low escape => noEscape high low (.inr escape)⟩
  · rintro ⟨noPlus, noDigits, noPlusLater, noEscape⟩
    refine ⟨⟨Ne.symm noPlus, noPlusLater⟩, fun high low escape => ?_⟩
    rcases escape with ⟨percent, digits⟩ | later
    · exact noDigits percent.symm high low digits
    · exact noEscape high low later

theorem noDigits_cons_of_high {high : Char} (noDigit : hexValue high = none)
    (rest : List Char) : NoDigits (high :: rest) := by
  intro high' low digits
  obtain ⟨rfl, -⟩ := List.cons_prefix_cons.mp digits
  exact escaped_eq_none_of_high noDigit low

theorem noDigits_cons_cons {high low : Char} {rest : List Char} :
    NoDigits (high :: low :: rest) ↔ escaped high low = none := by
  constructor
  · exact fun noDigits => noDigits high low ⟨rest, rfl⟩
  · intro noEscape high' low' digits
    obtain ⟨rfl, lowFirst⟩ := List.cons_prefix_cons.mp digits
    obtain ⟨rfl, -⟩ := List.cons_prefix_cons.mp lowFirst
    exact noEscape

theorem noDigits_of_short {text : List Char} (short : text.length < 2) : NoDigits text := by
  intro high low digits
  have longer := digits.length_le
  simp only [List.length_cons, List.length_nil] at longer
  omega

/-- A character other than a plus, that begins no escape, is read as it is. -/
theorem formDecode_cons {char : Char} {rest : List Char} (noPlus : char ≠ '+')
    (noEscape : char = '%' → NoDigits rest) :
    formDecode (char :: rest) = String.utf8EncodeChar char ++ formDecode rest := by
  by_cases percent : char = '%'
  · subst percent
    have noDigits := noEscape rfl
    rcases rest with - | ⟨high, - | ⟨low, rest⟩⟩
    · rfl
    · rfl
    · rw [formDecode, noDigits_cons_cons.mp noDigits]
      rfl
  · rw [formDecode]
    · exact noPlus
    · rintro high low rest rfl
      exact absurd rfl percent

/-- The three ways in which a form reads the next characters. -/
theorem formDecode_induction {holds : List Char → Prop} (nil : holds [])
    (plus : ∀ rest, holds rest → holds ('+' :: rest))
    (escape : ∀ high low byte rest, escaped high low = some byte → holds rest →
      holds ('%' :: high :: low :: rest))
    (plain : ∀ char rest, char ≠ '+' → (char = '%' → NoDigits rest) → holds rest →
      holds (char :: rest))
    (text : List Char) : holds text := by
  induction text using formDecode.induct with
  | case1 => exact nil
  | case2 rest inductionHypothesis => exact plus rest inductionHypothesis
  | case3 high low rest byte isEscape inductionHypothesis =>
      exact escape high low byte rest isEscape inductionHypothesis
  | case4 high low rest noEscape inductionHypothesis =>
      exact plain '%' _ (by decide) (fun _ => noDigits_cons_cons.mpr noEscape) inductionHypothesis
  | case5 char rest noPlus noEscape inductionHypothesis =>
      refine plain char rest noPlus (fun percent => ?_) inductionHypothesis
      rcases rest with - | ⟨high, - | ⟨low, rest⟩⟩
      · exact noDigits_of_short (by decide)
      · exact noDigits_of_short (by simp)
      · exact absurd rfl (noEscape high low rest percent)

theorem formDecode_escape {high low : Char} {byte : UInt8} (isEscape : escaped high low = some byte)
    (rest : List Char) : formDecode ('%' :: high :: low :: rest) = byte :: formDecode rest := by
  rw [formDecode, isEscape]

/-! ### Reading what was encoded -/

/-- Escaped bytes are read back. -/
theorem formDecode_percentEncode (bytes : List UInt8) (rest : List Char) :
    formDecode (bytes.flatMap percentEncode ++ rest) = bytes ++ formDecode rest := by
  induction bytes with
  | nil => rfl
  | cons byte bytes inductionHypothesis =>
      rw [List.flatMap_cons, List.append_assoc]
      show formDecode ('%' :: _ :: _ :: (bytes.flatMap percentEncode ++ rest)) = _
      rw [formDecode_escape (escaped_hexDigit byte), inductionHypothesis]
      rfl

/-- Encoding makes no digits of an escape. -/
theorem NoDigits.encodeQuery {text : List Char} (noDigits : NoDigits text) :
    NoDigits (encodeQuery text) := by
  have percent : hexValue '%' = none := by decide
  rcases text with - | ⟨high, rest⟩
  · exact noDigits
  rw [encodeQuery_cons]
  rcases encodeChar_cases high with ⟨-, kept⟩ | ⟨-, -, escape, isEscape⟩
  · rw [kept]
    rcases rest with - | ⟨low, rest⟩
    · exact noDigits_of_short (by simp)
    · rw [encodeQuery_cons]
      have noEscape := noDigits_cons_cons.mp noDigits
      rcases encodeChar_cases low with ⟨-, keptLow⟩ | ⟨-, -, escape, isEscape⟩
      · rw [keptLow]
        exact noDigits_cons_cons.mpr noEscape
      · rw [isEscape]
        exact noDigits_cons_cons.mpr (escaped_eq_none_of_low percent high)
  · rw [isEscape]
    exact noDigits_cons_of_high percent _

/-- A form reads the same from a text and from its encoding. -/
theorem formDecode_encodeQuery (text : List Char) :
    formDecode (encodeQuery text) = formDecode text := by
  induction text using formDecode_induction with
  | nil => rfl
  | plus rest inductionHypothesis =>
      show formDecode ('+' :: encodeQuery rest) = _
      rw [formDecode, formDecode, inductionHypothesis]
  | escape high low byte rest isEscape inductionHypothesis =>
      obtain ⟨⟨_, highDigit⟩, _, lowDigit⟩ := hexValue_of_escaped isEscape
      rw [encodeQuery_cons, encodeQuery_cons, encodeQuery_cons,
        encodeChar_of_kept (isQueryChar_of_hexValue highDigit),
        encodeChar_of_kept (isQueryChar_of_hexValue lowDigit)]
      show formDecode ('%' :: high :: low :: encodeQuery rest) = _
      rw [formDecode_escape isEscape, formDecode_escape isEscape, inductionHypothesis]
  | plain char rest noPlus noEscape inductionHypothesis =>
      rw [encodeQuery_cons, formDecode_cons noPlus noEscape]
      rcases encodeChar_cases char with ⟨-, kept⟩ | ⟨-, isEncoded, -⟩
      · rw [kept]
        show formDecode (char :: encodeQuery rest) = _
        rw [formDecode_cons noPlus fun percent => (noEscape percent).encodeQuery,
          inductionHypothesis]
      · rw [isEncoded, formDecode_percentEncode, inductionHypothesis]

/-! ### What is read unchanged -/

/-- A form reads no more bytes than the text has. -/
theorem length_formDecode_le (text : List Char) :
    (formDecode text).length ≤ (utf8 text).length := by
  induction text using formDecode_induction with
  | nil => exact Nat.le_refl 0
  | plus rest inductionHypothesis =>
      rw [formDecode, utf8_cons, List.length_append, List.length_cons]
      have positive := length_utf8EncodeChar_pos '+'
      omega
  | escape high low byte rest isEscape inductionHypothesis =>
      rw [formDecode_escape isEscape]
      simp only [utf8_cons, List.length_append, List.length_cons]
      have positive := length_utf8EncodeChar_pos '%'
      omega
  | plain char rest noPlus noEscape inductionHypothesis =>
      rw [formDecode_cons noPlus noEscape, utf8_cons, List.length_append, List.length_append]
      omega

/-- A form reads a text unchanged exactly if it is plain. -/
theorem formDecode_eq_utf8_iff (text : List Char) : formDecode text = utf8 text ↔ IsPlain text := by
  induction text using formDecode_induction with
  | nil => exact iff_of_true rfl isPlain_nil
  | plus rest _ =>
      refine iff_of_false (fun same => ?_) fun plain => plain.1 List.mem_cons_self
      exact absurd (List.head_eq_of_cons_eq same) (by decide)
  | escape high low byte rest isEscape _ =>
      refine iff_of_false (fun same => ?_) fun plain => ?_
      · have lengths := congrArg List.length same
        rw [formDecode_escape isEscape] at lengths
        simp only [utf8_cons, List.length_append, List.length_cons] at lengths
        have shorter := length_formDecode_le rest
        have positive := length_utf8EncodeChar_pos '%'
        have positiveHigh := length_utf8EncodeChar_pos high
        omega
      · rw [plain.2 high low ⟨[], rest, rfl⟩] at isEscape
        cases isEscape
  | plain char rest noPlus noEscape inductionHypothesis =>
      rw [formDecode_cons noPlus noEscape, utf8_cons, List.append_cancel_left_eq,
        inductionHypothesis, isPlain_cons]
      exact ⟨fun plain => ⟨noPlus, noEscape, plain⟩, fun plain => plain.2.2⟩

/-- A text is plain exactly if both sides of a character are that is no digit, plus or percent
sign. -/
theorem isPlain_append_cons {front back : List Char} {between : Char}
    (noDigit : hexValue between = none) (noPlus : between ≠ '+') (noPercent : between ≠ '%') :
    IsPlain (front ++ between :: back) ↔ IsPlain front ∧ IsPlain back := by
  induction front with
  | nil =>
      rw [List.nil_append, isPlain_cons]
      exact ⟨fun plain => ⟨isPlain_nil, plain.2.2⟩,
        fun plain => ⟨noPlus, fun percent => absurd percent noPercent, plain.2⟩⟩
  | cons char front inductionHypothesis =>
      have sameDigits : NoDigits (front ++ between :: back) ↔ NoDigits front := by
        rcases front with - | ⟨high, - | ⟨low, front⟩⟩
        · exact iff_of_true (noDigits_cons_of_high noDigit back) (noDigits_of_short (by decide))
        · exact iff_of_true (noDigits_cons_cons.mpr (escaped_eq_none_of_low noDigit high))
            (noDigits_of_short (by simp))
        · exact noDigits_cons_cons.trans noDigits_cons_cons.symm
      rw [List.cons_append, isPlain_cons, isPlain_cons, inductionHypothesis, sameDigits]
      simp only [and_assoc]

/-! ### Parameters -/

/-- Name and value of a parameter. -/
def formPair (piece : List Char) : List UInt8 × List UInt8 :=
  (formDecode (cutAt '=' piece).1, formDecode ((cutAt '=' piece).2.getD []))

/-- The parameters of a query. -/
def formPairs (query : List Char) : List (List UInt8 × List UInt8) :=
  ((query.splitOn '&').filter fun piece => !piece.isEmpty).map formPair

theorem encodeQuery_append (front back : List Char) :
    encodeQuery (front ++ back) = encodeQuery front ++ encodeQuery back :=
  List.flatMap_append

/-- An escape has no character of a query but the percent sign and digits. -/
theorem not_mem_percentEncode {stop : Char} (noPercent : stop ≠ '%')
    (noDigit : hexValue stop = none) (byte : UInt8) : stop ∉ percentEncode byte := by
  have bound := byte.toNat_lt
  intro member
  rcases List.mem_cons.mp member with rfl | digits
  · exact noPercent rfl
  · rcases List.mem_cons.mp digits with rfl | low
    · rw [hexValue_hexDigit _ (by omega)] at noDigit
      cases noDigit
    · rw [List.mem_singleton.mp low, hexValue_hexDigit _ (by omega)] at noDigit
      cases noDigit

theorem not_mem_encodeQuery {stop : Char} (noPercent : stop ≠ '%')
    (noDigit : hexValue stop = none) {text : List Char} (absent : stop ∉ text) :
    stop ∉ encodeQuery text := by
  rw [encodeQuery, List.mem_flatMap]
  rintro ⟨char, member, inChar⟩
  rcases encodeChar_cases char with ⟨-, kept⟩ | ⟨-, isEncoded, -⟩
  · rw [kept, List.mem_singleton] at inChar
    exact absent (inChar ▸ member)
  · rw [isEncoded, List.mem_flatMap] at inChar
    obtain ⟨byte, -, inEscape⟩ := inChar
    exact not_mem_percentEncode noPercent noDigit byte inEscape

theorem formPair_encodeQuery (piece : List Char) :
    formPair (encodeQuery piece) = formPair piece := by
  have noDigit : hexValue '=' = none := by decide
  rcases cut_cases '=' piece with absent | ⟨front, back, rfl, absent⟩
  · have absent' := not_mem_encodeQuery (by decide) noDigit absent
    rw [formPair, formPair, cutAt_of_not_mem absent, cutAt_of_not_mem absent',
      formDecode_encodeQuery]
  · have absent' := not_mem_encodeQuery (by decide) noDigit absent
    have encoded : encodeQuery (front ++ '=' :: back) =
        encodeQuery front ++ '=' :: encodeQuery back :=
      encodeQuery_append front ('=' :: back)
    rw [formPair, formPair, encoded, cutAt_append absent, cutAt_append absent',
      formDecode_encodeQuery, Option.getD_some, Option.getD_some, formDecode_encodeQuery]

/-- Encoding keeps the pieces apart. -/
theorem splitOn_encodeQuery (text : List Char) :
    (encodeQuery text).splitOn '&' = (text.splitOn '&').map encodeQuery := by
  have noDigit : hexValue '&' = none := by decide
  induction size : text.length using Nat.strongRecOn generalizing text with
  | ind length inductionHypothesis =>
      rcases cut_cases '&' text with absent | ⟨front, back, rfl, absent⟩
      · rw [List.splitOn_eq_singleton absent,
          List.splitOn_eq_singleton (not_mem_encodeQuery (by decide) noDigit absent)]
        rfl
      · have encoded : encodeQuery (front ++ '&' :: back) =
            encodeQuery front ++ '&' :: encodeQuery back :=
          encodeQuery_append front ('&' :: back)
        have shorter : back.length < length := by
          rw [← size, List.length_append, List.length_cons]
          omega
        rw [encoded, List.splitOn_append_cons_self, List.splitOn_append_cons_self,
          List.splitOn_eq_singleton absent,
          List.splitOn_eq_singleton (not_mem_encodeQuery (by decide) noDigit absent),
          inductionHypothesis back.length shorter back rfl]
        rfl

/-- The parameters of an encoded query are those of the text. -/
theorem formPairs_encodeQuery (text : List Char) :
    formPairs (encodeQuery text) = formPairs text := by
  have sameEmpty (piece : List Char) : (encodeQuery piece).isEmpty = piece.isEmpty := by
    rcases piece with - | ⟨char, piece⟩
    · rfl
    · rw [encodeQuery_cons]
      rcases encodeChar_cases char with ⟨-, kept⟩ | ⟨-, -, escape, isEscape⟩
      · rw [kept]
        rfl
      · rw [isEscape]
        rfl
  rw [formPairs, formPairs, splitOn_encodeQuery, List.filter_map, List.map_map]
  have samePair : formPair ∘ encodeQuery = formPair := funext formPair_encodeQuery
  have sameKept : (fun piece => !piece.isEmpty) ∘ encodeQuery = fun piece => !piece.isEmpty :=
    funext fun piece => congrArg not (sameEmpty piece)
  rw [samePair, sameKept]

/-- A query that begins with a key has it as its first parameter, with a value that ends at
the first `&`. -/
theorem formPairs_key {key : List Char} (plainKey : IsPlain key) (noCut : '&' ∉ key)
    (noEquals : '=' ∉ key) (kept : List Char) :
    ∃ value others, formPairs (key ++ '=' :: kept) = (utf8 key, formDecode value) :: others ∧
      value.Sublist kept ∧ '&' ∉ value ∧ ('&' ∉ kept → value = kept ∧ others = []) := by
  have decodedKey : formDecode key = utf8 key := (formDecode_eq_utf8_iff key).mpr plainKey
  have pair (value : List Char) :
      formPair (key ++ '=' :: value) = (utf8 key, formDecode value) := by
    rw [formPair, cutAt_append noEquals, decodedKey, Option.getD_some]
  have nonempty (value : List Char) (others : List (List Char)) :
      ((key ++ '=' :: value) :: others).filter (fun piece => !piece.isEmpty) =
        (key ++ '=' :: value) :: others.filter fun piece => !piece.isEmpty :=
    List.filter_cons_of_pos (by cases key <;> rfl)
  have uncut {value : List Char} (absent : '&' ∉ value) :
      (key ++ '=' :: value).splitOn '&' = [key ++ '=' :: value] := by
    refine List.splitOn_eq_singleton fun member => ?_
    rcases List.mem_append.mp member with inKey | inRest
    · exact noCut inKey
    · rcases List.mem_cons.mp inRest with isEquals | inValue
      · exact absurd isEquals (by decide)
      · exact absent inValue
  rcases cut_cases '&' kept with absent | ⟨front, back, rfl, absent⟩
  · refine ⟨kept, [], ?_, List.Sublist.refl kept, absent, fun _ => ⟨rfl, rfl⟩⟩
    rw [formPairs, uncut absent, nonempty, List.map_cons, pair]
    rfl
  · refine ⟨front, formPairs back, ?_, List.sublist_append_left front _, absent,
      fun none => ?_⟩
    · have pieces : (key ++ '=' :: (front ++ '&' :: back)).splitOn '&' =
          (key ++ '=' :: front) :: back.splitOn '&' := by
        rw [← List.cons_append, ← List.append_assoc, List.splitOn_append_cons_self, uncut absent]
        rfl
      rw [formPairs, pieces, nonempty, List.map_cons, pair]
      rfl
    · exact absurd (List.mem_append_right front List.mem_cons_self) none

/-- A query with one key is read as that key with a text, exactly if nothing was left out of
the text, and it is plain and not cut. -/
theorem formPairs_eq_singleton_iff {key kept text : List Char} (plainKey : IsPlain key)
    (noCut : '&' ∉ key) (noEquals : '=' ∉ key) (sublist : kept.Sublist text) :
    formPairs (key ++ '=' :: kept) = [(utf8 key, utf8 text)] ↔
      kept = text ∧ '&' ∉ text ∧ IsPlain text := by
  obtain ⟨value, others, pairs, isPart, absent, whole⟩ :=
    formPairs_key plainKey noCut noEquals kept
  rw [pairs]
  constructor
  · intro same
    have decoded : formDecode value = utf8 text :=
      congrArg Prod.snd (List.head_eq_of_cons_eq same)
    have atLeast : (utf8 text).length ≤ (utf8 value).length := by
      rw [← decoded]
      exact length_formDecode_le value
    obtain rfl := eq_of_sublist_of_length_utf8_le (isPart.trans sublist) atLeast
    exact ⟨sublist.eq_of_length_le isPart.length_le, absent,
      (formDecode_eq_utf8_iff value).mp decoded⟩
  · rintro ⟨rfl, noAmpersand, plain⟩
    obtain ⟨rfl, rfl⟩ := whole noAmpersand
    rw [(formDecode_eq_utf8_iff value).mpr plain]

end Web
end TootTok
