import Mathlib.Data.List.Find
import Mathlib.Logic.Function.Iterate
import TootTok.Inertness

/-!
# Null characters

When a sanitised text contains the character that no column of the database can store. It
comes from a numeric reference, and stays if no tag is open where it stands.
-/

namespace TootTok
namespace Sanitize

/-- U+0000. -/
def null : Char := Char.ofNat 0

/-- One round of the sanitiser. -/
def pass (text : List Char) : List Char :=
  stripTags (decodeHtmlEntities text)

/-- What a round makes of a text that something follows. -/
def passBefore (text : List Char) : List Char :=
  (stripTagsFrom 0 (decodeHtmlEntities text)).dropWhile isWhitespace

/-- How many tags are open after a text, if so many were before. -/
def openTags : Nat → List Char → Nat
  | depth, [] => depth
  | depth, '<' :: rest => openTags (depth + 1) rest
  | depth + 1, '>' :: rest => openTags depth rest
  | depth, _ :: rest => openTags depth rest

/-- In each of the next rounds, no tag is open after the text. -/
def StaysOutside (rounds : Nat) (text : List Char) : Prop :=
  ∀ round < rounds, openTags 0 (decodeHtmlEntities (passBefore^[round] text)) = 0

/-- A numeric reference to U+0000, without its ampersand. -/
def IsNullReference (reference : List Char) : Prop :=
  ∃ sign ∈ ["#", "#x", "#X"], ∃ count,
    reference = sign.toList ++ List.replicate (count + 1) '0' ++ [';']

/-- A null character stands after the text. -/
def NullAfter (before text : List Char) : Prop :=
  ∃ after, text = before ++ null :: after

/-- A reference to the null character stands after the text. -/
def ReferenceAfter (before text : List Char) : Prop :=
  ∃ reference after, text = before ++ '&' :: (reference ++ after) ∧ IsNullReference reference

/-- There is a reference to U+0000 that no tag encloses in any of the rounds. -/
def KeepsReference (rounds : Nat) (text : List Char) : Prop :=
  ∃ before, ReferenceAfter before text ∧ StaysOutside rounds before

/-! ## Rounds -/

theorem iterate_pass_of_stable {text : List Char} (stable : pass text = text) (rounds : Nat) :
    pass^[rounds] text = text :=
  Function.iterate_fixed stable rounds

theorem stripPasses_eq (rounds : Nat) (text : List Char) :
    stripPasses rounds text = pass^[rounds] text := by
  induction rounds generalizing text with
  | zero => rfl
  | succ rounds inductionHypothesis =>
      rw [stripPasses]
      split
      next stable => exact (iterate_pass_of_stable stable (rounds + 1)).symm
      · exact inductionHypothesis _

theorem StaysOutside.succ_iff (rounds : Nat) (text : List Char) :
    StaysOutside (rounds + 1) text ↔
      openTags 0 (decodeHtmlEntities text) = 0 ∧ StaysOutside rounds (passBefore text) := by
  constructor
  · intro stays
    exact ⟨stays 0 (Nat.succ_pos rounds), fun round less =>
      stays (round + 1) (Nat.succ_lt_succ less)⟩
  · rintro ⟨first, later⟩ round less
    cases round with
    | zero => exact first
    | succ round => exact later round (Nat.lt_of_succ_lt_succ less)

/-! ## Stripping -/

theorem stripTagsFrom_append (depth : Nat) (front back : List Char) :
    stripTagsFrom depth (front ++ back) =
      stripTagsFrom depth front ++ stripTagsFrom (openTags depth front) back := by
  induction depth, front using stripTagsFrom.induct with
  | case1 depth => cases depth <;> rfl
  | case2 depth rest inductionHypothesis => exact inductionHypothesis
  | case3 depth rest inductionHypothesis => exact inductionHypothesis
  | case4 char rest notOpen inductionHypothesis =>
      rw [List.cons_append, stripTagsFrom, stripTagsFrom, openTags, inductionHypothesis,
        List.cons_append]
      all_goals first | exact notOpen | (intro _ impossible; cases impossible)
  | case5 depth char rest notOpen notClose inductionHypothesis =>
      rw [List.cons_append, stripTagsFrom, stripTagsFrom, openTags, inductionHypothesis]
      all_goals first | exact notOpen | exact notClose | exact fun _ _ => notClose

theorem nullAfter_stripTagsFrom {depth : Nat} {text front : List Char} :
    NullAfter front (stripTagsFrom depth text) ↔
      ∃ before, NullAfter before text ∧ openTags depth before = 0 ∧
        stripTagsFrom depth before = front := by
  constructor
  · rintro ⟨back, split⟩
    induction depth, text using stripTagsFrom.induct generalizing front with
    | case1 depth =>
        rw [stripTagsFrom] at split
        simp at split
    | case2 depth rest inductionHypothesis =>
        obtain ⟨before, ⟨after, rfl⟩, closed, same⟩ := inductionHypothesis split
        exact ⟨'<' :: before, ⟨after, rfl⟩, closed, same⟩
    | case3 depth rest inductionHypothesis =>
        obtain ⟨before, ⟨after, rfl⟩, closed, same⟩ := inductionHypothesis split
        exact ⟨'>' :: before, ⟨after, rfl⟩, closed, same⟩
    | case4 char rest notOpen inductionHypothesis =>
        rw [stripTagsFrom] at split
        · cases front with
          | nil =>
              obtain ⟨rfl, rfl⟩ := List.cons.inj split
              exact ⟨[], ⟨rest, rfl⟩, rfl, rfl⟩
          | cons first front =>
              obtain ⟨rfl, later⟩ := List.cons.inj split
              obtain ⟨before, ⟨after, rfl⟩, closed, same⟩ := inductionHypothesis later
              refine ⟨char :: before, ⟨after, rfl⟩, ?_, ?_⟩
              · rw [openTags, closed]
                all_goals first | exact notOpen | (intro _ impossible; cases impossible)
              · rw [stripTagsFrom, same]
                exact notOpen
        · exact notOpen
    | case5 depth char rest notOpen notClose inductionHypothesis =>
        rw [stripTagsFrom] at split
        · obtain ⟨before, ⟨after, rfl⟩, closed, same⟩ := inductionHypothesis split
          refine ⟨char :: before, ⟨after, rfl⟩, ?_, ?_⟩
          · rw [openTags, closed]
            all_goals first | exact notOpen | exact fun _ _ => notClose
          · rw [stripTagsFrom, same]
            all_goals first | exact notOpen | exact notClose
        · exact notOpen
        · exact notClose
  · rintro ⟨before, ⟨after, rfl⟩, closed, rfl⟩
    exact ⟨stripTagsFrom 0 after, by rw [stripTagsFrom_append, closed]; rfl⟩

/-! ## Trimming -/

theorem nullAfter_dropWhile {text front : List Char} :
    NullAfter front (text.dropWhile isWhitespace) ↔
      ∃ before, NullAfter before text ∧ before.dropWhile isWhitespace = front := by
  induction text generalizing front with
  | nil => simp [NullAfter]
  | cons char text inductionHypothesis =>
      cases blank : isWhitespace char with
      | true =>
          rw [List.dropWhile_cons, blank, if_pos rfl, inductionHypothesis]
          constructor
          · rintro ⟨before, ⟨after, rfl⟩, same⟩
            exact ⟨char :: before, ⟨after, rfl⟩, by rwa [List.dropWhile_cons, blank, if_pos rfl]⟩
          · rintro ⟨before, ⟨after, split⟩, same⟩
            cases before with
            | nil =>
                obtain ⟨rfl, -⟩ := List.cons.inj split
                cases blank
            | cons first before =>
                obtain ⟨rfl, rfl⟩ := List.cons.inj split
                rw [List.dropWhile_cons, blank, if_pos rfl] at same
                exact ⟨before, ⟨after, rfl⟩, same⟩
      | false =>
          rw [List.dropWhile_cons, blank, if_neg Bool.false_ne_true]
          have kept {before after : List Char} (split : char :: text = before ++ null :: after) :
              before.dropWhile isWhitespace = before := by
            cases before with
            | nil => rfl
            | cons first before =>
                obtain ⟨rfl, -⟩ := List.cons.inj split
                rw [List.dropWhile_cons, blank, if_neg Bool.false_ne_true]
          constructor
          · rintro ⟨after, split⟩
            exact ⟨front, ⟨after, split⟩, kept split⟩
          · rintro ⟨before, ⟨after, split⟩, rfl⟩
            exact ⟨after, by rw [kept split, split]⟩

theorem nullAfter_trim {text front : List Char} :
    NullAfter front (trim text) ↔
      ∃ before, NullAfter before text ∧ before.dropWhile isWhitespace = front := by
  rw [← nullAfter_dropWhile]
  unfold trim
  generalize text.dropWhile isWhitespace = text
  constructor
  · rintro ⟨after, split⟩
    have whole : (text.reverse.dropWhile isWhitespace).reverse ++
        (text.reverse.takeWhile isWhitespace).reverse = text := by
      rw [← List.reverse_append, List.takeWhile_append_dropWhile, List.reverse_reverse]
    refine ⟨after ++ (text.reverse.takeWhile isWhitespace).reverse, ?_⟩
    rw [← List.cons_append, ← List.append_assoc, ← split, whole]
  · rintro ⟨after, rfl⟩
    have reversed : (front ++ null :: after).reverse = after.reverse ++ null :: front.reverse := by
      simp
    rw [reversed, List.dropWhile_append]
    split
    · exact ⟨[], by simp [show isWhitespace null = false from rfl]⟩
    · exact ⟨(after.reverse.dropWhile isWhitespace).reverse, by simp⟩

/-! ## Entities -/

/-- The character with the number that the digits write. -/
def numbered (digit : Char → Option Nat) (base : Nat) (digits : List Char) : Option Char :=
  if digits.isEmpty then none
  else (digits? digit base digits).bind fun code =>
    if code < 0x100000000 then charFromU32 code else none

/-- The character that an entity stands for, given what is between its ampersand and its
semicolon. -/
def entityChar (body : List Char) : Option Char :=
  match named.find? fun entity => entity.1.toList = body with
  | some (_, decoded) => some decoded
  | none =>
      match body with
      | '#' :: 'x' :: hex => numbered hexDigit? 16 hex
      | '#' :: 'X' :: hex => numbered hexDigit? 16 hex
      | '#' :: decimal => numbered digit? 10 decimal
      | _ => none

theorem numericEntity_eq (digit : Char → Option Nat) (base : Nat) (text : List Char) :
    numericEntity digit base text =
      if ';' ∈ text then
        (numbered digit base (text.takeWhile (· ≠ ';'))).map
          fun char => (char, (text.takeWhile (· ≠ ';')).length + 1)
      else none := by
  unfold numericEntity numbered
  split
  · dsimp only
    split
    · rfl
    · cases digits? digit base (text.takeWhile (· ≠ ';')) with
      | none => rfl
      | some code =>
          rw [Option.bind_some, Option.bind_eq_bind, Option.bind_some]
          split
          · cases charFromU32 code <;> rfl
          · rfl
  · rfl

theorem takeWhile_before_semicolon {body after : List Char} (single : ';' ∉ body) :
    (body ++ ';' :: after).takeWhile (· ≠ ';') = body := by
  rw [List.takeWhile_append_of_pos]
  · simp
  · intro char member
    rw [decide_eq_true_iff]
    rintro rfl
    exact single member

theorem named_isPrefixOf {name body after : List Char} (inName : ';' ∉ name)
    (inBody : ';' ∉ body) :
    (name ++ [';']).isPrefixOf (body ++ ';' :: after) = decide (name = body) := by
  rw [Bool.eq_iff_iff, List.isPrefixOf_iff_prefix, decide_eq_true_iff]
  constructor
  · rintro ⟨rest, split⟩
    rw [List.append_assoc] at split
    rw [← @takeWhile_before_semicolon name rest inName,
      ← @takeWhile_before_semicolon body after inBody]
    exact congrArg _ split
  · rintro rfl
    exact ⟨after, by simp⟩

theorem numericEntity_closed (digit : Char → Option Nat) (base : Nat) {body after : List Char}
    (single : ';' ∉ body) :
    numericEntity digit base (body ++ ';' :: after) =
      (numbered digit base body).map fun char => (char, body.length + 1) := by
  rw [numericEntity_eq, if_pos (by simp), takeWhile_before_semicolon single]

/-- Decoding looks at the text up to the first semicolon. -/
theorem decodeOneEntity_closed {body : List Char} (single : ';' ∉ body) (after : List Char) :
    decodeOneEntity (body ++ ';' :: after) =
      (entityChar body).map fun char => (char, body.length + 1) := by
  have names : ∀ entity ∈ named, ';' ∉ entity.1.toList := by decide
  have sought : (named.find? fun entity =>
      (entity.1.toList ++ [';']).isPrefixOf (body ++ ';' :: after)) =
      named.find? fun entity => entity.1.toList = body :=
    List.find?_congr fun entity member => named_isPrefixOf (names entity member) single
  have digits {rest : List Char} (part : rest ⊆ body) (digit : Char → Option Nat) (base : Nat) :
      numericEntity digit base (rest ++ ';' :: after) =
        (numbered digit base rest).map fun char => (char, rest.length + 1) :=
    numericEntity_closed digit base fun member => single (part member)
  unfold decodeOneEntity entityChar
  rw [sought]
  cases found : named.find? fun entity => entity.1.toList = body with
  | some entity =>
      have holds := List.find?_some found
      have same : entity.1.toList = body := of_decide_eq_true holds
      rw [← same]
      rfl
  | none =>
      dsimp only
      cases body with
      | nil => rfl
      | cons first body =>
          by_cases isHash : first = '#'
          · subst isHash
            cases body with
            | nil => rfl
            | cons second body =>
                by_cases isX : second = 'x'
                · subst isX
                  show Option.map _ (numericEntity hexDigit? 16 (body ++ ';' :: after)) = _
                  rw [digits (by simp), Option.map_map]
                  rfl
                by_cases isUpperX : second = 'X'
                · subst isUpperX
                  show Option.map _ (numericEntity hexDigit? 16 (body ++ ';' :: after)) = _
                  rw [digits (by simp), Option.map_map]
                  rfl
                have decimal := @digits (second :: body) (by simp) digit? 10
                rw [List.cons_append] at decimal
                simp [isX, isUpperX, decimal, Option.map_map, Function.comp_def]
          · simp [isHash]

theorem decodeOneEntity_open {text : List Char} (unclosed : ';' ∉ text) :
    decodeOneEntity text = none := by
  have numeric {rest : List Char} (part : rest ⊆ text) (digit : Char → Option Nat)
      (base : Nat) : numericEntity digit base rest = none := by
    rw [numericEntity_eq, if_neg fun member => unclosed (part member)]
  have sought : (named.find? fun entity => (entity.1.toList ++ [';']).isPrefixOf text) = none := by
    rw [List.find?_eq_none]
    intro entity _ isPrefix
    obtain ⟨rest, rfl⟩ := List.isPrefixOf_iff_prefix.mp isPrefix
    exact unclosed (by simp)
  unfold decodeOneEntity
  rw [sought]
  dsimp only
  split
  · rw [numeric (by simp)]
    rfl
  · rw [numeric (by simp)]
    rfl
  · rw [numeric (by simp)]
    rfl
  · rfl

theorem decodeOneEntity_eq_some {text : List Char} {char : Char} {length : Nat}
    (decoded : decodeOneEntity text = some (char, length)) :
    ∃ body after, text = body ++ ';' :: after ∧ ';' ∉ body ∧ entityChar body = some char ∧
      length = body.length + 1 := by
  by_cases closed : ';' ∈ text
  · obtain ⟨body, after, rfl, single⟩ := List.eq_append_cons_of_mem closed
    rw [decodeOneEntity_closed single, Option.map_eq_some_iff] at decoded
    obtain ⟨found, isChar, same⟩ := decoded
    cases same
    exact ⟨body, after, rfl, single, isChar, rfl⟩
  · rw [decodeOneEntity_open closed] at decoded
    cases decoded

/-! ## Digits -/

section Digits

variable {digit : Char → Option Nat} {base : Nat}

theorem digits_from_eq_zero_iff (positive : 0 < base) (text : List Char) (value : Nat) :
    text.foldlM (fun value char => (digit char).map (value * base + ·)) value = some 0 ↔
      value = 0 ∧ ∀ char ∈ text, digit char = some 0 := by
  induction text generalizing value with
  | nil => simp
  | cons char text inductionHypothesis =>
      rw [List.foldlM_cons, List.forall_mem_cons]
      cases digit char with
      | none => simp
      | some number =>
          simp only [Option.map_some, Option.bind_eq_bind, Option.bind_some,
            inductionHypothesis, Nat.add_eq_zero_iff, Nat.mul_eq_zero, Option.some.injEq]
          constructor
          · rintro ⟨⟨zero | zero, rfl⟩, later⟩
            · exact ⟨zero, rfl, later⟩
            · omega
          · rintro ⟨zero, rfl, later⟩
            exact ⟨⟨.inl zero, rfl⟩, later⟩

theorem digits_isSome {text : List Char} {value code : Nat}
    (read : text.foldlM (fun value char => (digit char).map (value * base + ·)) value =
      some code) : ∀ char ∈ text, (digit char).isSome := by
  induction text generalizing value with
  | nil => exact fun _ member => by cases member
  | cons char text inductionHypothesis =>
      rw [List.foldlM_cons] at read
      rw [List.forall_mem_cons]
      cases found : digit char with
      | none =>
          rw [found] at read
          cases read
      | some number =>
          rw [found] at read
          exact ⟨rfl, inductionHypothesis read⟩

theorem charFromU32_eq_null_iff (code : Nat) : charFromU32 code = some null ↔ code = 0 := by
  unfold charFromU32
  constructor
  · intro same
    split at same
    next valid =>
      have codes := congrArg Char.toNat (Option.some.inj same)
      rw [Char.ofNat, dif_pos valid] at codes
      exact codes
    · cases same
  · rintro rfl
    rfl

theorem numbered_eq_null_iff (positive : 0 < base) (text : List Char) :
    numbered digit base text = some null ↔
      text ≠ [] ∧ ∀ char ∈ text, digit char = some 0 := by
  unfold numbered
  cases text with
  | nil => simp
  | cons char text =>
      rw [List.isEmpty_cons, if_neg Bool.false_ne_true, Option.bind_eq_some_iff]
      have zero := @digits_from_eq_zero_iff digit base positive (char :: text) 0
      constructor
      · rintro ⟨code, read, same⟩
        split at same
        · rw [charFromU32_eq_null_iff] at same
          subst same
          exact ⟨List.cons_ne_nil _ _, (zero.mp read).2⟩
        · cases same
      · rintro ⟨-, zeros⟩
        exact ⟨0, zero.mpr ⟨rfl, zeros⟩, rfl⟩

theorem numbered_none {text : List Char} {char : Char} (member : char ∈ text)
    (noDigit : digit char = none) : numbered digit base text = none := by
  unfold numbered
  split
  · rfl
  · cases read : digits? digit base text with
    | none => rfl
    | some code =>
        have isDigit := digits_isSome read char member
        rw [noDigit] at isDigit
        cases isDigit

end Digits

theorem char_eq_of_toNat {left right : Char} (same : left.toNat = right.toNat) : left = right :=
  Char.ext (UInt32.toNat_inj.mp same)

theorem digit_eq_zero_iff (char : Char) : digit? char = some 0 ↔ char = '0' := by
  constructor
  · intro zero
    unfold digit? isAsciiDigit at zero
    split at zero
    next isDigit =>
      refine char_eq_of_toNat ?_
      simp only [Bool.and_eq_true, decide_eq_true_eq, Option.some.injEq] at isDigit zero
      omega
    · cases zero
  · rintro rfl
    rfl

theorem hexDigit_eq_zero_iff (char : Char) : hexDigit? char = some 0 ↔ char = '0' := by
  constructor
  · intro zero
    unfold hexDigit? isAsciiDigit at zero
    split at zero
    next isDigit =>
      refine char_eq_of_toNat ?_
      simp only [Bool.and_eq_true, decide_eq_true_eq, Option.some.injEq] at isDigit zero
      omega
    · split at zero
      · simp at zero
      · split at zero
        · simp at zero
        · cases zero
  · rintro rfl
    rfl

/-! ## References -/

theorem zeros_of_numbered {digit : Char → Option Nat} {base : Nat} (positive : 0 < base)
    (isZero : ∀ char, digit char = some 0 ↔ char = '0') (text : List Char) :
    numbered digit base text = some null ↔ ∃ count, text = List.replicate (count + 1) '0' := by
  rw [numbered_eq_null_iff positive]
  simp only [isZero]
  constructor
  · rintro ⟨notEmpty, zeros⟩
    refine ⟨text.length - 1, ?_⟩
    have positive := List.length_pos_iff.mpr notEmpty
    rw [Nat.sub_add_cancel positive]
    exact List.eq_replicate_of_mem zeros
  · rintro ⟨count, rfl⟩
    exact ⟨by simp, fun _ member => List.eq_of_mem_replicate member⟩

theorem named_no_null : ∀ entity ∈ named, entity.2 ≠ null := by decide

theorem named_no_hash : ∀ entity ∈ named, ∀ body, entity.1.toList ≠ '#' :: body := by
  intro entity member body same
  have heads : ∀ entity ∈ named, entity.1.toList.head? ≠ some '#' := by decide
  exact heads entity member (by rw [same]; rfl)

theorem find_named_hash (body : List Char) :
    (named.find? fun entity => entity.1.toList = '#' :: body) = none := by
  rw [List.find?_eq_none]
  intro entity member same
  exact named_no_hash entity member body (of_decide_eq_true same)

theorem entityChar_eq_null_iff (body : List Char) :
    entityChar body = some null ↔ IsNullReference (body ++ [';']) := by
  have decimal := @zeros_of_numbered digit? 10 (by decide) digit_eq_zero_iff
  have hexadecimal := @zeros_of_numbered hexDigit? 16 (by decide) hexDigit_eq_zero_iff
  constructor
  · intro decoded
    unfold entityChar at decoded
    split at decoded
    next name char found =>
      cases decoded
      exact (named_no_null _ (List.mem_of_find?_eq_some found) rfl).elim
    next =>
      split at decoded
      next hex _ =>
        obtain ⟨count, rfl⟩ := (hexadecimal hex).mp decoded
        exact ⟨"#x", by decide, count, rfl⟩
      next hex _ =>
        obtain ⟨count, rfl⟩ := (hexadecimal hex).mp decoded
        exact ⟨"#X", by decide, count, rfl⟩
      next digits _ _ _ =>
        obtain ⟨count, rfl⟩ := (decimal digits).mp decoded
        exact ⟨"#", by decide, count, rfl⟩
      next => cases decoded
  · rintro ⟨sign, isSign, count, same⟩
    have same := List.append_cancel_right same
    subst same
    unfold entityChar
    simp only [List.mem_cons, List.not_mem_nil, or_false] at isSign
    rcases isSign with rfl | rfl | rfl
    · rw [show "#".toList ++ List.replicate (count + 1) '0' =
        '#' :: List.replicate (count + 1) '0' from rfl, find_named_hash]
      exact (decimal _).mpr ⟨count, rfl⟩
    · rw [show "#x".toList ++ List.replicate (count + 1) '0' =
        '#' :: 'x' :: List.replicate (count + 1) '0' from rfl, find_named_hash]
      exact (hexadecimal _).mpr ⟨count, rfl⟩
    · rw [show "#X".toList ++ List.replicate (count + 1) '0' =
        '#' :: 'X' :: List.replicate (count + 1) '0' from rfl, find_named_hash]
      exact (hexadecimal _).mpr ⟨count, rfl⟩

/-! ## Decoding -/

/-- No entity goes past the character. -/
def IsStop (char : Char) : Prop :=
  char = '&' ∨ char = null

theorem entityChar_stop {stop : Char} (isStop : IsStop stop) {body : List Char}
    (member : stop ∈ body) : entityChar body = none := by
  have noName : ∀ entity ∈ named, '&' ∉ entity.1.toList ∧ null ∉ entity.1.toList := by decide
  have sought : (named.find? fun entity => entity.1.toList = body) = none := by
    rw [List.find?_eq_none]
    intro entity isName same
    rw [← of_decide_eq_true same] at member
    rcases isStop with rfl | rfl
    · exact (noName entity isName).1 member
    · exact (noName entity isName).2 member
  have decimal : digit? stop = none := by
    rcases isStop with rfl | rfl <;> rfl
  have hexadecimal : hexDigit? stop = none := by
    rcases isStop with rfl | rfl <;> rfl
  have apart : stop ≠ '#' ∧ stop ≠ 'x' ∧ stop ≠ 'X' := by
    rcases isStop with rfl | rfl <;> decide
  unfold entityChar
  rw [sought]
  dsimp only
  split
  · refine numbered_none ?_ hexadecimal
    simpa [apart] using member
  · refine numbered_none ?_ hexadecimal
    simpa [apart] using member
  · refine numbered_none ?_ decimal
    simpa [apart] using member
  · rfl

theorem decodeOneEntity_stop {stop : Char} (isStop : IsStop stop) (before rest : List Char) :
    decodeOneEntity (before ++ stop :: rest) = decodeOneEntity before := by
  by_cases closed : ';' ∈ before
  · obtain ⟨body, after, rfl, single⟩ := List.eq_append_cons_of_mem closed
    rw [List.append_assoc, List.cons_append, decodeOneEntity_closed single,
      decodeOneEntity_closed single]
  · rw [decodeOneEntity_open closed, Option.eq_none_iff_forall_ne_some]
    rintro ⟨char, length⟩ decoded
    obtain ⟨body, after, split, single, isChar, -⟩ := decodeOneEntity_eq_some decoded
    have inside : stop ∈ body := by
      rcases List.append_eq_append_iff.mp split with ⟨front, rfl, later⟩ | ⟨back, rfl, later⟩
      · cases front with
        | nil =>
            obtain ⟨rfl, -⟩ := List.cons.inj later
            rcases isStop with isAmp | isNull
            · cases isAmp
            · cases isNull
        | cons first front =>
            obtain ⟨rfl, -⟩ := List.cons.inj later
            exact List.mem_append_right _ List.mem_cons_self
      · cases back with
        | nil =>
            obtain ⟨rfl, -⟩ := List.cons.inj later
            rcases isStop with isAmp | isNull
            · cases isAmp
            · cases isNull
        | cons first back =>
            obtain ⟨rfl, -⟩ := List.cons.inj later
            exact (closed (List.mem_append_right _ List.mem_cons_self)).elim
    rw [entityChar_stop isStop inside] at isChar
    cases isChar

theorem decodeFrom_stop {stop : Char} (isStop : IsStop stop) (rest before : List Char) {skip : Nat}
    (within : skip ≤ before.length) :
    decodeFrom skip (before ++ stop :: rest) =
      decodeFrom skip before ++ decodeFrom 0 (stop :: rest) := by
  induction before generalizing skip with
  | nil =>
      obtain rfl := Nat.le_zero.mp within
      rfl
  | cons char before inductionHypothesis =>
      cases skip with
      | succ skip => exact inductionHypothesis (Nat.le_of_succ_le_succ within)
      | zero =>
          by_cases isAmp : char = '&'
          · subst isAmp
            rw [List.cons_append, decodeFrom, decodeFrom, decodeOneEntity_stop isStop]
            cases decoded : decodeOneEntity before with
            | none => exact congrArg ('&' :: ·) (inductionHypothesis (Nat.zero_le _))
            | some entity =>
                obtain ⟨body, after, rfl, -, -, length⟩ := decodeOneEntity_eq_some decoded
                refine congrArg (entity.1 :: ·) (inductionHypothesis ?_)
                rw [length]
                simp
          · rw [List.cons_append, decodeFrom, decodeFrom, inductionHypothesis (Nat.zero_le _),
              List.cons_append]
            · exact isAmp
            · exact isAmp

/-- Something that is decoded to a null character stands after the text. -/
def DecodesNullAfter (before text : List Char) : Prop :=
  NullAfter before text ∨ ReferenceAfter before text

namespace DecodesNullAfter

theorem cons {before text : List Char} (after : DecodesNullAfter before text) (char : Char) :
    DecodesNullAfter (char :: before) (char :: text) := by
  rcases after with ⟨rest, rfl⟩ | ⟨reference, rest, rfl, isReference⟩
  · exact .inl ⟨rest, rfl⟩
  · exact .inr ⟨reference, rest, rfl, isReference⟩

theorem stop {before text : List Char} (after : DecodesNullAfter before text) :
    ∃ stop rest, IsStop stop ∧ text = before ++ stop :: rest ∧
      ∃ back, decodeFrom 0 (stop :: rest) = null :: back := by
  rcases after with ⟨rest, rfl⟩ | ⟨reference, rest, rfl, isReference⟩
  · exact ⟨null, rest, .inr rfl, rfl, decodeFrom 0 rest, rfl⟩
  · refine ⟨'&', reference ++ rest, .inl rfl, rfl, ?_⟩
    obtain ⟨sign, isSign, count, rfl⟩ := isReference
    have single : ';' ∉ sign.toList ++ List.replicate (count + 1) '0' := by
      have signs : ∀ sign ∈ ["#", "#x", "#X"], ';' ∉ sign.toList := by decide
      intro member
      rcases List.mem_append.mp member with inSign | inZeros
      · exact signs sign isSign inSign
      · cases List.eq_of_mem_replicate inZeros
    have decoded := (entityChar_eq_null_iff _).mpr ⟨sign, isSign, count, rfl⟩
    rw [decodeFrom, List.append_assoc, List.singleton_append, decodeOneEntity_closed single,
      decoded]
    exact ⟨_, rfl⟩

end DecodesNullAfter

theorem nullAfter_decodeFrom {text front : List Char} :
    NullAfter front (decodeFrom 0 text) ↔
      ∃ before, DecodesNullAfter before text ∧ decodeFrom 0 before = front := by
  constructor
  · have skipped (skip : Nat) (decodes : NullAfter front (decodeFrom skip text)) :
        ∃ before, DecodesNullAfter before text ∧ decodeFrom skip before = front := by
      induction text generalizing skip front with
      | nil =>
          obtain ⟨back, split⟩ := decodes
          rw [decodeFrom] at split
          simp at split
      | cons char text inductionHypothesis =>
          cases skip with
          | succ skip =>
              obtain ⟨before, after, same⟩ := inductionHypothesis skip decodes
              exact ⟨char :: before, after.cons char, same⟩
          | zero =>
              obtain ⟨back, split⟩ := decodes
              by_cases isAmp : char = '&'
              · subst isAmp
                rw [decodeFrom] at split
                cases decoded : decodeOneEntity text with
                | none =>
                    rw [decoded] at split
                    cases front with
                    | nil =>
                        have heads := (List.cons.inj split).1
                        cases heads
                    | cons first front =>
                        obtain ⟨rfl, later⟩ := List.cons.inj split
                        obtain ⟨before, after, rfl⟩ := inductionHypothesis 0 ⟨back, later⟩
                        refine ⟨'&' :: before, after.cons '&', ?_⟩
                        obtain ⟨stop, rest, isStop, rfl, -⟩ := after.stop
                        rw [decodeOneEntity_stop isStop] at decoded
                        rw [decodeFrom, decoded]
                | some entity =>
                    obtain ⟨found, length⟩ := entity
                    rw [decoded] at split
                    cases front with
                    | nil =>
                        obtain ⟨isNull, -⟩ := List.cons.inj split
                        subst isNull
                        obtain ⟨body, after, rfl, -, isChar, -⟩ := decodeOneEntity_eq_some decoded
                        rw [entityChar_eq_null_iff] at isChar
                        exact ⟨[], .inr ⟨body ++ [';'], after, by simp, isChar⟩, rfl⟩
                    | cons first front =>
                        obtain ⟨rfl, later⟩ := List.cons.inj split
                        obtain ⟨before, after, rfl⟩ := inductionHypothesis length ⟨back, later⟩
                        refine ⟨'&' :: before, after.cons '&', ?_⟩
                        obtain ⟨stop, rest, isStop, rfl, -⟩ := after.stop
                        rw [decodeOneEntity_stop isStop] at decoded
                        rw [decodeFrom, decoded]
              · rw [decodeFrom] at split
                · cases front with
                  | nil =>
                      obtain ⟨rfl, -⟩ := List.cons.inj split
                      exact ⟨[], .inl ⟨text, rfl⟩, rfl⟩
                  | cons first front =>
                      obtain ⟨rfl, later⟩ := List.cons.inj split
                      obtain ⟨before, after, rfl⟩ := inductionHypothesis 0 ⟨back, later⟩
                      refine ⟨char :: before, after.cons char, ?_⟩
                      rw [decodeFrom]
                      exact isAmp
                · exact isAmp
    exact skipped 0
  · rintro ⟨before, after, rfl⟩
    obtain ⟨stop, rest, isStop, rfl, back, decoded⟩ := after.stop
    exact ⟨back, by rw [decodeFrom_stop isStop rest before (Nat.zero_le _), decoded]⟩

/-! ## The sanitiser -/

theorem nullAfter_pass {text front : List Char} :
    NullAfter front (pass text) ↔
      ∃ before, DecodesNullAfter before text ∧ openTags 0 (decodeHtmlEntities before) = 0 ∧
        passBefore before = front := by
  unfold pass stripTags passBefore
  simp only [nullAfter_trim, nullAfter_stripTagsFrom, decodeHtmlEntities_eq, nullAfter_decodeFrom]
  constructor
  · rintro ⟨_, ⟨_, ⟨before, after, rfl⟩, closed, rfl⟩, same⟩
    exact ⟨before, after, closed, same⟩
  · rintro ⟨before, after, closed, same⟩
    exact ⟨_, ⟨_, ⟨before, after, rfl⟩, closed, rfl⟩, same⟩

/-- The null characters after some rounds were there at the start, or come from references. -/
theorem null_mem_iterate_pass_iff (rounds : Nat) (text : List Char) :
    null ∈ pass^[rounds] text ↔
      (∃ before, NullAfter before text ∧ StaysOutside rounds before) ∨
        ∃ round < rounds, KeepsReference (rounds - round) (pass^[round] text) := by
  induction rounds generalizing text with
  | zero =>
      simp only [Nat.not_lt_zero, false_and, exists_false, or_false]
      constructor
      · intro member
        obtain ⟨before, after, split⟩ := List.append_of_mem member
        exact ⟨before, ⟨after, split⟩, fun _ less => (Nat.not_lt_zero _ less).elim⟩
      · rintro ⟨before, ⟨after, rfl⟩, -⟩
        exact List.mem_append_right _ List.mem_cons_self
  | succ rounds inductionHypothesis =>
      rw [Function.iterate_succ_apply, inductionHypothesis]
      have first : (∃ front, NullAfter front (pass text) ∧ StaysOutside rounds front) ↔
          (∃ before, NullAfter before text ∧ StaysOutside (rounds + 1) before) ∨
            KeepsReference (rounds + 1) text := by
        simp only [nullAfter_pass, StaysOutside.succ_iff, KeepsReference]
        constructor
        · rintro ⟨_, ⟨before, null | reference, closed, rfl⟩, stays⟩
          · exact .inl ⟨before, null, closed, stays⟩
          · exact .inr ⟨before, reference, closed, stays⟩
        · rintro (⟨before, null, closed, stays⟩ | ⟨before, reference, closed, stays⟩)
          · exact ⟨_, ⟨before, .inl null, closed, rfl⟩, stays⟩
          · exact ⟨_, ⟨before, .inr reference, closed, rfl⟩, stays⟩
      rw [first, or_assoc]
      refine or_congr Iff.rfl ?_
      constructor
      · rintro (now | ⟨round, less, later⟩)
        · exact ⟨0, Nat.succ_pos rounds, now⟩
        · refine ⟨round + 1, Nat.succ_lt_succ less, ?_⟩
          rwa [Nat.add_sub_add_right, Function.iterate_succ_apply]
      · rintro ⟨round, less, keeps⟩
        cases round with
        | zero => exact .inl keeps
        | succ round =>
            rw [Nat.add_sub_add_right, Function.iterate_succ_apply] at keeps
            exact .inr ⟨round, Nat.lt_of_succ_lt_succ less, keeps⟩

theorem null_mem_escapeHtml_iff (text : List Char) : null ∈ escapeHtml text ↔ null ∈ text := by
  unfold escapeHtml
  rw [List.mem_flatMap]
  constructor
  · rintro ⟨char, member, escaped⟩
    rcases escapeChar_cases char with ⟨escape, isEscape, same⟩ | ⟨-, -, same⟩
    · have noNull : ∀ escape ∈ escapes, null ∉ escape.toList := by decide
      exact (noNull escape isEscape (same ▸ escaped)).elim
    · rw [same, List.mem_singleton] at escaped
      rwa [escaped]
  · exact fun member => ⟨null, member, List.mem_singleton_self null⟩

/-- A text without null characters is sanitised to one without them, unless a reference to
one is kept. -/
theorem null_not_mem_iff {input : String} (without : null ∉ input.toList) :
    null ∉ (stripHtmlTags input).toList ↔
      ∀ round < 8, ¬KeepsReference (8 - round) (pass^[round] input.toList) := by
  have output : (stripHtmlTags input).toList = escapeHtml (stripPasses 8 input.toList) :=
    String.toList_ofList
  have none : ¬∃ before, NullAfter before input.toList ∧ StaysOutside 8 before := by
    rintro ⟨before, ⟨after, split⟩, -⟩
    exact without (split ▸ List.mem_append_right _ List.mem_cons_self)
  rw [output, null_mem_escapeHtml_iff, stripPasses_eq, null_mem_iterate_pass_iff,
    or_iff_right none]
  simp only [not_exists, not_and]

/-- A reference to the null character is stored as the character. -/
theorem null_stored : null ∉ "&#0;".toList ∧ null ∈ (stripHtmlTags "&#0;").toList := by
  decide

/-- The reference is one that the rounds keep. -/
theorem reference_kept :
    null ∉ "&#0;".toList ∧
      ¬∀ round < 8, ¬KeepsReference (8 - round) (pass^[round] "&#0;".toList) :=
  ⟨by decide, fun gone => (null_not_mem_iff (by decide)).mpr gone (by decide)⟩

end Sanitize
end TootTok
