import TootTok.Bytes
import TootTok.Effects.Loops
import TootTok.Inertness

/-!
# Decoding by bytes

The decoder of entities runs over the bytes of its input, with lengths that it computes by
hand. It decodes what the decoder over characters does, and slices on character boundaries
only.
-/

namespace TootTok
namespace Sanitize

open Bytes (leadByte byteAt byteAt_front slice_between)
open Duration (slice dropBytes takeBytes byteLength)
open Effects (Timed Ends loop)

/-! ## The byte loop -/

/-- `str::find`: the byte offset of a character. -/
def find (char : Char) : List Char → Option Nat
  | [] => none
  | other :: rest => if other = char then some 0 else (find char rest).map (other.utf8Size + ·)

/-- The length of a character by its first byte. -/
def utf8Len (firstByte : UInt8) : Nat :=
  if firstByte ≤ 0x7F then 1
  else if 0xC0 ≤ firstByte ∧ firstByte ≤ 0xDF then 2
  else if 0xE0 ≤ firstByte ∧ firstByte ≤ 0xEF then 3
  else 4

/-- A numeric reference whose digits start the text, with this many bytes around them. -/
def decodeNumeric (digit : Char → Option Nat) (base around : Nat) (text : List Char) :
    Panicking (Option (Char × Nat)) :=
  match find ';' text with
  | none => pure none
  | some last =>
      if last = 0 then pure none
      else do
        let body ← slice text 0 last
        pure do
          let code ← digits? digit base body
          let char ← if code < 0x100000000 then charFromU32 code else none
          pure (char, last + around)

/-- `decode_one_entity`, with the number of bytes consumed. -/
def decodeOneEntityBytes (rest : List Char) : Panicking (Option (Char × Nat)) := do
  let after ← dropBytes 1 rest
  match named.find? fun entity => (entity.1.toList ++ [';']).isPrefixOf after with
  | some (name, decoded) => pure (some (decoded, byteLength name.toList + 2))
  | none =>
      match (['#', 'x'].isPrefixOf? after).or (['#', 'X'].isPrefixOf? after) with
      | some hex => decodeNumeric hexDigit? 16 4 hex
      | none =>
          match ['#'].isPrefixOf? after with
          | some decimal => decodeNumeric digit? 10 3 decimal
          | none => pure none

/-- The offset of the next byte, and the text decoded so far. -/
structure DecodeState where
  i : Nat
  out : List Char

def decodeBody (input : List Char) (state : DecodeState) : Timed Panic (Option DecodeState) :=
  if state.i < byteLength input then Timed.once do
    let byte ← byteAt input state.i
    if byte ≠ UInt8.ofNat '&'.toNat then do
      let charLength := utf8Len byte
      let piece ← slice input state.i (state.i + charLength)
      pure (some ⟨state.i + charLength, state.out ++ piece⟩)
    else do
      let rest ← dropBytes state.i input
      match ← decodeOneEntityBytes rest with
      | some (decoded, consumed) =>
          pure (some ⟨state.i + consumed, state.out ++ [decoded]⟩)
      | none => pure (some ⟨state.i + 1, state.out ++ ['&']⟩)
  else Timed.once (.ok none)

/-- `decode_html_entities` with fuel for its loop. -/
def decodeBytes (fuel : Nat) (input : List Char) : Timed Panic (List Char) :=
  if '&' ∈ input then do
    let state ← loop (decodeBody input) fuel ⟨0, []⟩
    pure state.out
  else pure input

/-! ## One step -/

theorem utf8Len_leadByte (char : Char) : utf8Len (leadByte char) = char.utf8Size := by
  unfold leadByte utf8Len
  simp only [UInt8.le_iff_toNat_le, UInt8.reduceToNat]
  rcases Bytes.utf8EncodeChar_cases char with
    ⟨ascii, size, bytes⟩ | ⟨lead, others, bytes, -, -, leads⟩
  · rw [bytes, List.headD_cons, UInt8.toNat_ofNat', if_pos (by omega), size]
  · rw [bytes, List.headD_cons]
    rcases leads with ⟨size, low, high⟩ | ⟨size, low, high⟩ | ⟨size, low⟩
    · rw [if_neg (by omega), if_pos (by omega), size]
    · rw [if_neg (by omega), if_neg (by omega), if_pos (by omega), size]
    · rw [if_neg (by omega), if_neg (by omega), if_neg (by omega), size]

theorem find_eq (char : Char) (text : List Char) :
    find char text =
      if char ∈ text then some (byteLength (text.takeWhile (· ≠ char))) else none := by
  induction text with
  | nil => rfl
  | cons other text inductionHypothesis =>
      rw [find]
      by_cases same : other = char
      · simp [same]
      · have different : char ≠ other := fun equal => same equal.symm
        rw [if_neg same, inductionHypothesis]
        by_cases member : char ∈ text <;> simp [member, same, different]

theorem byteLength_eq_zero_iff (text : List Char) : byteLength text = 0 ↔ text = [] := by
  cases text with
  | nil => simp
  | cons char text =>
      have positive := char.utf8Size_pos
      simp
      omega

/-- A text before and after the first place of a character. -/
theorem split_at_char {char : Char} {text : List Char} (member : char ∈ text) :
    ∃ back, text = text.takeWhile (· ≠ char) ++ char :: back := by
  induction text with
  | nil => cases member
  | cons other text inductionHypothesis =>
      by_cases same : other = char
      · exact ⟨text, by simp [same]⟩
      · rcases List.mem_cons.mp member with rfl | member
        · exact (same rfl).elim
        · obtain ⟨back, split⟩ := inductionHypothesis member
          refine ⟨back, ?_⟩
          rw [List.takeWhile_cons_of_pos (by simpa using same), List.cons_append, ← split]

/-- The digits end at the semicolon, which is on a boundary. -/
theorem decodeNumeric_eq (digit : Char → Option Nat) (base around : Nat) (text : List Char) :
    decodeNumeric digit base around text =
      .ok ((numericEntity digit base text).map fun found =>
        (found.1, byteLength (text.take found.2) + around - 1)) := by
  unfold decodeNumeric numericEntity
  rw [find_eq]
  by_cases closed : ';' ∈ text
  · rw [if_pos closed, if_pos closed]
    obtain ⟨back, split⟩ := split_at_char closed
    generalize text.takeWhile (· ≠ ';') = body at split ⊢
    subst split
    dsimp only
    by_cases empty : body = []
    · subst empty
      rfl
    · have digits : ¬body.isEmpty = true := by simpa using empty
      have taken : (body ++ ';' :: back).take (body.length + 1) = body ++ [';'] :=
        List.take_length_add_append 1
      have piece : slice (body ++ ';' :: back) 0 (byteLength body) = .ok body := by
        have between := slice_between [] body (';' :: back)
        rwa [Duration.byteLength_nil, Nat.zero_add] at between
      have consumed : byteLength ((body ++ ';' :: back).take (body.length + 1)) + around - 1 =
          byteLength body + around := by
        have semicolon : ';'.utf8Size = 1 := rfl
        rw [taken, Duration.byteLength_append, Duration.byteLength_cons, Duration.byteLength_nil,
          semicolon]
        omega
      rw [if_neg ((byteLength_eq_zero_iff body).not.mpr empty), if_neg digits, piece]
      refine congrArg Except.ok ?_
      cases digits? digit base body with
      | none => rfl
      | some code =>
          by_cases inRange : code < 0x100000000
          · cases decoded : charFromU32 code with
            | none => simp [decoded]
            | some char => simp [inRange, decoded, consumed]
          · simp [inRange]
  · rw [if_neg closed, if_neg closed]
    rfl

/-- A numeric reference behind its mark, all of whose characters are of one byte. -/
theorem decodeNumeric_behind (digit : Char → Option Nat) (base : Nat) (mark text : List Char)
    (ascii : byteLength mark = mark.length) :
    decodeNumeric digit base (mark.length + 2) text =
      .ok (((numericEntity digit base text).map fun found =>
        (found.1, found.2 + mark.length)).map fun found =>
          (found.1, byteLength ((mark ++ text).take found.2) + 1)) := by
  rw [decodeNumeric_eq, Option.map_map]
  refine congrArg Except.ok (congrArg (Option.map · _) (funext fun found => ?_))
  have taken : (mark ++ text).take (found.2 + mark.length) = mark ++ text.take found.2 := by
    rw [Nat.add_comm, List.take_length_add_append]
  simp only [Function.comp_apply, taken, Duration.byteLength_append, ascii]
  refine congrArg (Prod.mk found.1) ?_
  omega

/-- The decoder by bytes finds the entity that the one over characters does, and consumes its
bytes. -/
theorem decodeOneEntityBytes_eq (after : List Char) :
    decodeOneEntityBytes ('&' :: after) =
      .ok ((decodeOneEntity after).map fun found =>
        (found.1, byteLength (after.take found.2) + 1)) := by
  have behind : dropBytes 1 ('&' :: after) = .ok after := by
    have boundary := Duration.dropBytes_append ['&'] after
    exact boundary
  unfold decodeOneEntityBytes decodeOneEntity
  rw [behind]
  dsimp only [bind, Except.bind]
  cases isNamed : named.find? fun entity => (entity.1.toList ++ [';']).isPrefixOf after with
  | some entity =>
      obtain ⟨name, decoded⟩ := entity
      have starts := List.find?_some isNamed
      dsimp only at starts
      obtain ⟨back, rfl⟩ := List.isPrefixOf_iff_prefix.mp starts
      have taken : (name.toList ++ [';'] ++ back).take (name.length + 1) = name.toList ++ [';'] := by
        refine List.take_left' ?_
        rw [List.length_append, List.length_singleton, String.length_toList]
      have semicolon : ';'.utf8Size = 1 := rfl
      refine congrArg (fun length => Except.ok (some (decoded, length))) ?_
      rw [taken, Duration.byteLength_append, Duration.byteLength_cons, Duration.byteLength_nil,
        semicolon]
  | none =>
      rcases after with _ | ⟨first, after⟩
      · rfl
      clear isNamed behind
      by_cases mark : first = '#'
      · subst mark
        rcases after with _ | ⟨second, hex⟩
        · exact decodeNumeric_behind digit? 10 ['#'] [] rfl
        by_cases lower : second = 'x'
        · subst lower
          exact decodeNumeric_behind hexDigit? 16 ['#', 'x'] hex rfl
        by_cases upper : second = 'X'
        · subst upper
          exact decodeNumeric_behind hexDigit? 16 ['#', 'X'] hex rfl
        · have noHex : (['#', 'x'].isPrefixOf? ('#' :: second :: hex)).or
              (['#', 'X'].isPrefixOf? ('#' :: second :: hex)) = none := by
            simp [List.isPrefixOf?, Ne.symm lower, Ne.symm upper]
          have decimalMark : ['#'].isPrefixOf? ('#' :: second :: hex) = some (second :: hex) := rfl
          rw [noHex]
          dsimp only
          rw [decimalMark]
          dsimp only
          split
          next isHex => exact (lower (List.cons.inj (List.cons.inj isHex).2).1).elim
          next isHex => exact (upper (List.cons.inj (List.cons.inj isHex).2).1).elim
          next decimal _ _ isDecimal =>
            obtain rfl := (List.cons.inj isDecimal).2
            exact decodeNumeric_behind digit? 10 ['#'] (second :: hex) rfl
          next notDecimal => exact (notDecimal _ rfl).elim
      · have notHex : (['#', 'x'].isPrefixOf? (first :: after)).or
            (['#', 'X'].isPrefixOf? (first :: after)) = none := by
          simp [List.isPrefixOf?, Ne.symm mark]
        have notDecimal : ['#'].isPrefixOf? (first :: after) = none := by
          simp [List.isPrefixOf?, Ne.symm mark]
        rw [notHex]
        dsimp only
        rw [notDecimal]
        dsimp only
        split
        next isHex => exact (mark (List.cons.inj isHex).1).elim
        next isHex => exact (mark (List.cons.inj isHex).1).elim
        next isDecimal => exact (mark (List.cons.inj isDecimal).1).elim
        next => rfl

/-! ## The loop -/

/-- Decoding goes on behind what an entity has taken. -/
theorem decodeFrom_skip (skip : Nat) (text : List Char) :
    decodeFrom skip text = decodeFrom 0 (text.drop skip) := by
  induction skip generalizing text with
  | zero => rfl
  | succ skip inductionHypothesis =>
      cases text with
      | nil => rfl
      | cons char text =>
          rw [decodeFrom, List.drop_succ_cons]
          exact inductionHypothesis text

/-- The body at a character that starts no entity. -/
theorem decodeBody_other {char : Char} (other : char ≠ '&') (front rest out : List Char) :
    decodeBody (front ++ char :: rest) ⟨byteLength front, out⟩ =
      Timed.once (.ok (some ⟨byteLength (front ++ [char]), out ++ [char]⟩)) := by
  have inside : byteLength front < byteLength (front ++ char :: rest) := by
    have positive := char.utf8Size_pos
    rw [Duration.byteLength_append, Duration.byteLength_cons]
    omega
  have notAmp : leadByte char ≠ UInt8.ofNat '&'.toNat :=
    fun same => other ((Bytes.leadByte_eq_iff char (by decide)).mp same)
  have piece := slice_between front [char] rest
  unfold decodeBody
  dsimp only
  rw [if_pos inside, byteAt_front]
  dsimp only [bind, Except.bind]
  rw [if_pos notAmp, utf8Len_leadByte]
  rw [Duration.byteLength_cons, Duration.byteLength_nil, Nat.add_zero, List.singleton_append]
    at piece
  rw [piece, Duration.byteLength_append, Duration.byteLength_cons, Duration.byteLength_nil,
    Nat.add_zero]
  rfl

/-- The body at an ampersand looks for an entity. -/
theorem decodeBody_amp (front after out : List Char) :
    decodeBody (front ++ '&' :: after) ⟨byteLength front, out⟩ =
      Timed.once (.ok (some
        (((decodeOneEntity after).map fun found =>
          DecodeState.mk (byteLength (front ++ '&' :: after.take found.2))
            (out ++ [found.1])).getD ⟨byteLength (front ++ ['&']), out ++ ['&']⟩))) := by
  have amp : '&'.utf8Size = 1 := rfl
  have inside : byteLength front < byteLength (front ++ '&' :: after) := by
    rw [Duration.byteLength_append, Duration.byteLength_cons]
    omega
  have isAmp : ¬leadByte '&' ≠ UInt8.ofNat '&'.toNat := by decide
  unfold decodeBody
  dsimp only
  rw [if_pos inside, byteAt_front]
  dsimp only [bind, Except.bind]
  rw [if_neg isAmp, Duration.dropBytes_append]
  dsimp only
  rw [decodeOneEntityBytes_eq]
  cases decodeOneEntity after with
  | none =>
      have length : byteLength (front ++ ['&']) = byteLength front + 1 := by
        rw [Duration.byteLength_append]
        rfl
      rw [length]
      rfl
  | some found =>
      have length : byteLength (front ++ '&' :: after.take found.2) =
          byteLength front + (byteLength (after.take found.2) + 1) := by
        rw [Duration.byteLength_append, Duration.byteLength_cons, amp]
        omega
      dsimp only [Option.map_some, Option.getD_some]
      rw [length]
      rfl

/-- From a boundary on, the loop decodes the rest of the text in at most as many rounds as the
rest has bytes. -/
theorem decode_ends (front rest out : List Char) :
    Ends (decodeBody (front ++ rest)) (byteLength rest) ⟨byteLength front, out⟩
      (.ok ⟨byteLength (front ++ rest), out ++ decodeFrom 0 rest⟩) := by
  induction size : rest.length using Nat.strong_induction_on generalizing front rest out with
  | _ length inductionHypothesis =>
      subst size
      cases rest with
      | nil =>
          have outside : ¬byteLength front < byteLength (front ++ []) := by
            rw [List.append_nil]
            exact Nat.lt_irrefl _
          have left : decodeBody (front ++ []) ⟨byteLength front, out⟩ = Timed.once (.ok none) :=
            if_neg outside
          simpa [decodeFrom] using Ends.leave left
      | cons char rest =>
          by_cases isAmp : char = '&'
          · subst isAmp
            have stepped := decodeBody_amp front rest out
            rw [decodeFrom]
            cases found : decodeOneEntity rest with
            | none =>
                rw [found] at stepped
                have later := inductionHypothesis rest.length (by simp) (front ++ ['&']) rest
                  (out ++ ['&']) rfl
                rw [List.append_assoc, List.singleton_append, List.append_assoc,
                  List.singleton_append] at later
                exact (Ends.step stepped later).mono (by
                  rw [Duration.byteLength_cons, Nat.add_comm]
                  exact Nat.add_le_add_right ('&').utf8Size_pos _)
            | some entity =>
                obtain ⟨decoded, taken⟩ := entity
                rw [found] at stepped
                have later := inductionHypothesis (rest.drop taken).length
                  (by rw [List.length_drop, List.length_cons]; omega)
                  (front ++ '&' :: rest.take taken) (rest.drop taken) (out ++ [decoded]) rfl
                rw [List.append_assoc, List.cons_append, List.take_append_drop, List.append_assoc,
                  List.singleton_append, ← decodeFrom_skip] at later
                have shorter : byteLength (rest.drop taken) ≤ byteLength rest := by
                  conv_rhs => rw [← List.take_append_drop taken rest, Duration.byteLength_append]
                  exact Nat.le_add_left _ _
                exact (Ends.step stepped later).mono (by
                  rw [Duration.byteLength_cons]
                  have positive := ('&').utf8Size_pos
                  omega)
          · have later := inductionHypothesis rest.length (by simp) (front ++ [char]) rest
              (out ++ [char]) rfl
            have decoded : decodeFrom 0 (char :: rest) = char :: decodeFrom 0 rest := by
              rw [decodeFrom]
              exact isAmp
            rw [List.append_assoc, List.singleton_append, List.append_assoc,
              List.singleton_append] at later
            rw [decoded]
            exact (Ends.step (decodeBody_other isAmp front rest out) later).mono (by
              rw [Duration.byteLength_cons]
              have positive := char.utf8Size_pos
              omega)

theorem decodeBytes_eq {fuel : Nat} {text : List Char} (enough : byteLength text < fuel) :
    decodeBytes fuel text = Timed.once (.ok (decodeHtmlEntities text)) := by
  unfold decodeBytes decodeHtmlEntities
  split
  · have ends := decode_ends [] text [] fuel enough
    rw [List.nil_append, List.nil_append, Duration.byteLength_nil] at ends
    rw [ends]
    rfl
  · rfl

/-- Escaped text decodes to the text, and the byte loop of the decoder ends on every text without
a panic: after at most one round a byte it stands behind the last character, and it has decoded
what the decoder over characters does. -/
theorem entity_codec :
    (∀ text fuel, byteLength (escapeHtml text) < fuel →
      decodeBytes fuel (escapeHtml text) = Timed.once (.ok text)) ∧
    ∀ text fuel, byteLength text < fuel →
      loop (decodeBody text) fuel ⟨0, []⟩ =
          Timed.once (.ok ⟨byteLength text, decodeHtmlEntities text⟩) ∧
        decodeBytes fuel text = Timed.once (.ok (decodeHtmlEntities text)) := by
  refine ⟨fun text fuel enough => ?_, fun text fuel enough => ⟨?_, decodeBytes_eq enough⟩⟩
  · rw [decodeBytes_eq enough, decode_escapeHtml]
  · rw [decodeHtmlEntities_eq]
    exact decode_ends [] text [] fuel enough

end Sanitize
end TootTok
