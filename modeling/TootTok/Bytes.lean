import TootTok.DurationSlices

/-!
# Bytes of a text

The bytes of a text in UTF-8, which the source indexes directly. A character of ASCII is one
byte, and no byte of another character looks like one.
-/

namespace TootTok
namespace Bytes

open Duration (byteLength slice)

def utf8Bytes (text : List Char) : List UInt8 := text.flatMap String.utf8EncodeChar

/-- The first byte of a character. -/
def leadByte (char : Char) : UInt8 := (String.utf8EncodeChar char).headD 0

/-- `bytes[i]` -/
def byteAt (text : List Char) (i : Nat) : Panicking UInt8 :=
  match (utf8Bytes text)[i]? with
  | some byte => .ok byte
  | none => .error (.expect "index out of bounds")

@[simp] theorem utf8Bytes_nil : utf8Bytes [] = [] := rfl

@[simp] theorem utf8Bytes_cons (char : Char) (text : List Char) :
    utf8Bytes (char :: text) = String.utf8EncodeChar char ++ utf8Bytes text := rfl

@[simp] theorem utf8Bytes_append (front back : List Char) :
    utf8Bytes (front ++ back) = utf8Bytes front ++ utf8Bytes back :=
  List.flatMap_append

@[simp] theorem length_utf8Bytes (text : List Char) :
    (utf8Bytes text).length = byteLength text := by
  induction text with
  | nil => rfl
  | cons char text inductionHypothesis => simp [inductionHypothesis]

/-- A byte that starts no character. -/
theorem toNat_continuation (number : Nat) :
    0x80 ≤ (UInt8.ofNat (number % 0x40 + 0x80)).toNat := by
  rw [UInt8.toNat_ofNat']
  omega

/-- The bytes of a character: its code if it is one of ASCII, otherwise a first byte that tells
their number, and others that start no character. -/
theorem utf8EncodeChar_cases (char : Char) :
    (char.toNat < 0x80 ∧ char.utf8Size = 1 ∧
      String.utf8EncodeChar char = [UInt8.ofNat char.toNat]) ∨
    ∃ lead others, String.utf8EncodeChar char = lead :: others ∧ 0x80 ≤ char.toNat ∧
      (∀ byte ∈ others, 0x80 ≤ byte.toNat) ∧
      (char.utf8Size = 2 ∧ 0xC0 ≤ lead.toNat ∧ lead.toNat < 0xE0 ∨
        char.utf8Size = 3 ∧ 0xE0 ≤ lead.toNat ∧ lead.toNat < 0xF0 ∨
        char.utf8Size = 4 ∧ 0xF0 ≤ lead.toNat) := by
  have size := String.length_utf8EncodeChar char
  have code : char.val.toNat = char.toNat := rfl
  have bound : char.toNat < 0x110000 := by
    rcases char.valid with low | ⟨-, high⟩
    · exact Nat.lt_trans low (by decide)
    · exact high
  unfold String.utf8EncodeChar at size ⊢
  rw [code] at size ⊢
  dsimp only at size ⊢
  by_cases one : char.toNat ≤ 0x7f
  · rw [if_pos one] at size ⊢
    exact .inl ⟨by omega, size.symm, rfl⟩
  rw [if_neg one] at size ⊢
  right
  by_cases two : char.toNat ≤ 0x7ff
  · rw [if_pos two] at size ⊢
    refine ⟨_, _, rfl, by omega, ?_, .inl ⟨size.symm, ?_⟩⟩
    · simp only [List.mem_singleton, forall_eq]
      exact toNat_continuation _
    · rw [UInt8.toNat_ofNat']
      omega
  rw [if_neg two] at size ⊢
  by_cases three : char.toNat ≤ 0xffff
  · rw [if_pos three] at size ⊢
    refine ⟨_, _, rfl, by omega, ?_, .inr (.inl ⟨size.symm, ?_⟩)⟩
    · simp only [List.mem_cons, List.not_mem_nil, or_false, forall_eq_or_imp, forall_eq]
      exact ⟨toNat_continuation _, toNat_continuation _⟩
    · rw [UInt8.toNat_ofNat']
      omega
  · rw [if_neg three] at size ⊢
    refine ⟨_, _, rfl, by omega, ?_, .inr (.inr ⟨size.symm, ?_⟩)⟩
    · simp only [List.mem_cons, List.not_mem_nil, or_false, forall_eq_or_imp, forall_eq]
      exact ⟨toNat_continuation _, toNat_continuation _, toNat_continuation _⟩
    · rw [UInt8.toNat_ofNat']
      omega

/-- The byte at the offset of a character. -/
theorem utf8Bytes_lead (front rest : List Char) (char : Char) :
    (utf8Bytes (front ++ char :: rest))[byteLength front]? = some (leadByte char) := by
  rw [utf8Bytes_append, List.getElem?_append_right (by simp), length_utf8Bytes, Nat.sub_self,
    utf8Bytes_cons]
  unfold leadByte
  rcases utf8EncodeChar_cases char with ⟨-, -, bytes⟩ | ⟨lead, others, bytes, -⟩ <;>
    rw [bytes] <;> rfl

theorem head?_utf8Bytes (char : Char) (text : List Char) :
    (utf8Bytes (char :: text)).head? = some (leadByte char) := by
  rw [List.head?_eq_getElem?]
  exact utf8Bytes_lead [] text char

/-- The first byte is that of a character of ASCII only if the character is this one. -/
theorem leadByte_eq_iff (char : Char) {ascii : Char} (isAscii : ascii.toNat < 0x80) :
    leadByte char = UInt8.ofNat ascii.toNat ↔ char = ascii := by
  have small : (UInt8.ofNat ascii.toNat).toNat = ascii.toNat := by
    rw [UInt8.toNat_ofNat']
    omega
  unfold leadByte
  rcases utf8EncodeChar_cases char with ⟨also, -, bytes⟩ | ⟨lead, others, bytes, wide, -, leads⟩
  · have own : (UInt8.ofNat char.toNat).toNat = char.toNat := by
      rw [UInt8.toNat_ofNat']
      omega
    rw [bytes, List.headD_cons, ← UInt8.toNat_inj, own, small]
    exact ⟨fun same => Char.toNat_inj.mp same, congrArg Char.toNat⟩
  · rw [bytes, List.headD_cons, ← UInt8.toNat_inj, small]
    refine iff_of_false (by omega) ?_
    rintro rfl
    omega

theorem byteAt_front (front rest : List Char) (char : Char) :
    byteAt (front ++ char :: rest) (byteLength front) = .ok (leadByte char) := by
  rw [byteAt, utf8Bytes_lead]

/-- A slice between two boundaries. -/
theorem slice_between (front middle back : List Char) :
    slice (front ++ (middle ++ back)) (byteLength front) (byteLength front + byteLength middle) =
      .ok middle := by
  rw [slice, if_pos (Nat.le_add_right _ _), Duration.dropBytes_append, Nat.add_sub_cancel_left]
  exact Duration.takeBytes_append middle back

/-- A character that is not this one of ASCII has none of its bytes. -/
theorem ne_of_mem_utf8EncodeChar {char ascii : Char} (isAscii : ascii.toNat < 0x80)
    (other : char ≠ ascii) {byte : UInt8} (member : byte ∈ String.utf8EncodeChar char) :
    byte ≠ UInt8.ofNat ascii.toNat := by
  have lead := leadByte_eq_iff char isAscii
  unfold leadByte at lead
  rcases utf8EncodeChar_cases char with ⟨-, -, bytes⟩ | ⟨first, others, bytes, -, continuation, -⟩
  · rw [bytes] at member lead
    rw [List.mem_singleton.mp member]
    exact fun same => other (lead.mp same)
  · rw [bytes] at member lead
    rcases List.mem_cons.mp member with rfl | member
    · exact fun same => other (lead.mp same)
    · rintro rfl
      have high := continuation _ member
      rw [UInt8.toNat_ofNat'] at high
      omega

/-- The byte at an offset within a character is one of the character. -/
theorem byteAt_within (front rest : List Char) {char : Char} {k : Nat} (within : k < char.utf8Size) :
    ∃ byte ∈ String.utf8EncodeChar char,
      byteAt (front ++ char :: rest) (byteLength front + k) = .ok byte := by
  have inside : k < (String.utf8EncodeChar char).length := by
    rwa [String.length_utf8EncodeChar]
  refine ⟨(String.utf8EncodeChar char)[k], List.getElem_mem inside, ?_⟩
  rw [byteAt, utf8Bytes_append, List.getElem?_append_right (by simp), length_utf8Bytes,
    Nat.add_sub_cancel_left, utf8Bytes_cons, List.getElem?_append_left inside,
    List.getElem?_eq_getElem inside]

end Bytes
end TootTok
