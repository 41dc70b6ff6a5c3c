import Mathlib.Data.List.DropRight
import Mathlib.Logic.Function.Iterate
import TootTok.Inertness

/-!
# Sanitising twice

A caption is sanitised when it is uploaded, and once more by each server that receives it.
The second time takes up where the passes of the first one have ended.
-/

namespace TootTok
namespace Sanitize

/-- One pass of the sanitiser. -/
def onePass (text : List Char) : List Char := stripTags (decodeHtmlEntities text)

/-! ## What a pass leaves alone -/

theorem trim_sublist (text : List Char) : (trim text).Sublist text := by
  have front := (List.dropWhile_sublist (l := text) isWhitespace).reverse
  have back := (List.dropWhile_sublist
    (l := (text.dropWhile isWhitespace).reverse) isWhitespace).trans front
  simpa [trim] using back.reverse

theorem trim_trim (text : List Char) : trim (trim text) = trim text := by
  have trimEq (text : List Char) :
      trim text = (text.dropWhile isWhitespace).rdropWhile isWhitespace := rfl
  have front : (trim text).dropWhile isWhitespace = trim text := by
    rw [trimEq]
    have dropped := List.dropWhile_idempotent isWhitespace text
    generalize text.dropWhile isWhitespace = rest at dropped ⊢
    obtain ⟨back, whole⟩ := List.rdropWhile_prefix isWhitespace rest
    cases kept : rest.rdropWhile isWhitespace with
    | nil => rfl
    | cons first others =>
        have notWhite : isWhitespace first = false := by
          rw [kept, List.cons_append] at whole
          rw [← whole] at dropped
          simpa using List.dropWhile_eq_self_iff.mp dropped (Nat.succ_pos _)
        rw [List.dropWhile_cons_of_neg (by simp [notWhite])]
  conv_lhs => rw [trimEq, front]
  rw [trimEq, List.rdropWhile_idempotent]

theorem stripTagsFrom_sublist (depth : Nat) (text : List Char) :
    (stripTagsFrom depth text).Sublist text := by
  induction depth, text using stripTagsFrom.induct with
  | case1 depth => exact List.Sublist.refl _
  | case2 depth rest inductionHypothesis => exact inductionHypothesis.cons _
  | case3 depth rest inductionHypothesis => exact inductionHypothesis.cons _
  | case4 char rest notOpen inductionHypothesis =>
      rw [stripTagsFrom]
      · exact inductionHypothesis.cons_cons _
      · exact notOpen
  | case5 depth char rest notOpen notClose inductionHypothesis =>
      rw [stripTagsFrom]
      · exact inductionHypothesis.cons _
      · exact notOpen
      · exact notClose

/-- Without the start of a tag there is nothing to strip. -/
theorem stripTagsFrom_of_plain {text : List Char} (plain : '<' ∉ text) :
    stripTagsFrom 0 text = text := by
  induction text with
  | nil => rfl
  | cons char text inductionHypothesis =>
      rw [List.mem_cons, not_or] at plain
      rw [stripTagsFrom, inductionHypothesis plain.2]
      exact fun same => plain.1 same.symm

theorem stripTags_sublist (text : List Char) : (stripTags text).Sublist text :=
  (trim_sublist _).trans (stripTagsFrom_sublist 0 text)

theorem stripTags_stripTags (text : List Char) : stripTags (stripTags text) = stripTags text := by
  have plain := stripTagsFrom_of_plain (lt_not_mem_stripTags text)
  rw [stripTags, plain, stripTags, trim_trim]

/-- An entity takes something after its ampersand. -/
theorem taken_bounds {after : List Char} {decoded : Char} {taken : Nat}
    (isEntity : decodeOneEntity after = some (decoded, taken)) :
    1 ≤ taken ∧ after ≠ [] := by
  have numeric {digit : Char → Option Nat} {base around : Nat} {text : List Char}
      (positive : 1 ≤ around)
      (found : ((numericEntity digit base text).map fun entity =>
        (entity.1, entity.2 + around)) = some (decoded, taken)) : 1 ≤ taken := by
    obtain ⟨entity, -, same⟩ := Option.map_eq_some_iff.mp found
    obtain ⟨-, rfl⟩ := Prod.mk.inj same
    omega
  unfold decodeOneEntity at isEntity
  split at isEntity
  next name char isNamed =>
    have starts := List.find?_some isNamed
    obtain ⟨-, rfl⟩ := Prod.mk.inj (Option.some.inj isEntity)
    refine ⟨Nat.le_add_left _ _, ?_⟩
    rintro rfl
    simp at starts
  next =>
    split at isEntity
    · exact ⟨numeric (by decide) isEntity, List.cons_ne_nil _ _⟩
    · exact ⟨numeric (by decide) isEntity, List.cons_ne_nil _ _⟩
    · exact ⟨numeric (by decide) isEntity, List.cons_ne_nil _ _⟩
    · cases isEntity

theorem decodeFrom_length (skip : Nat) (text : List Char) :
    (decodeFrom skip text).length ≤ text.length - skip := by
  induction text generalizing skip with
  | nil => cases skip <;> exact Nat.zero_le _
  | cons char text inductionHypothesis =>
      cases skip with
      | succ skip =>
          rw [decodeFrom, List.length_cons, Nat.add_sub_add_right]
          exact inductionHypothesis skip
      | zero =>
          by_cases isAmp : char = '&'
          · subst isAmp
            rw [decodeFrom]
            split
            next decoded taken isEntity =>
              have rest := inductionHypothesis taken
              rw [List.length_cons, List.length_cons]
              omega
            next =>
              have rest := inductionHypothesis 0
              rw [List.length_cons, List.length_cons]
              omega
          · rw [decodeFrom, List.length_cons, List.length_cons]
            · exact Nat.succ_le_succ (inductionHypothesis 0)
            · exact isAmp

/-- Decoding an entity makes the text shorter. -/
theorem decodeFrom_eq_or_shorter (text : List Char) :
    decodeFrom 0 text = text ∨ (decodeFrom 0 text).length < text.length := by
  have further {char : Char} {text : List Char}
      (rest : decodeFrom 0 text = text ∨ (decodeFrom 0 text).length < text.length) :
      char :: decodeFrom 0 text = char :: text ∨
        (char :: decodeFrom 0 text).length < (char :: text).length :=
    rest.imp (congrArg (char :: ·)) Nat.succ_lt_succ
  induction text with
  | nil => exact .inl rfl
  | cons char text inductionHypothesis =>
      by_cases isAmp : char = '&'
      · subst isAmp
        rw [decodeFrom]
        split
        next decoded taken isEntity =>
          obtain ⟨positive, notEmpty⟩ := taken_bounds isEntity
          have some := List.length_pos_of_ne_nil notEmpty
          have rest := decodeFrom_length taken text
          right
          rw [List.length_cons, List.length_cons]
          omega
        next => exact further inductionHypothesis
      · rw [decodeFrom]
        · exact further inductionHypothesis
        · exact isAmp

theorem onePass_eq_or_shorter (text : List Char) :
    onePass text = text ∨ (onePass text).length < text.length := by
  have stripped := (stripTags_sublist (decodeFrom 0 text)).length_le
  unfold onePass
  rw [decodeHtmlEntities_eq]
  rcases decodeFrom_eq_or_shorter text with same | shorter
  · rw [same] at stripped ⊢
    rcases Nat.lt_or_eq_of_le stripped with shorter | equal
    · exact .inr shorter
    · exact .inl ((stripTags_sublist text).eq_of_length equal)
  · exact .inr (by omega)

/-! ## Passes -/

theorem iterate_of_stable {text : List Char} (stable : onePass text = text) (passes : Nat) :
    onePass^[passes] text = text :=
  Function.iterate_fixed stable passes

/-- To stop at a text that does not change is to make all passes. -/
theorem stripPasses_eq_iterate (passes : Nat) (text : List Char) :
    stripPasses passes text = onePass^[passes] text := by
  induction passes generalizing text with
  | zero => rfl
  | succ passes inductionHypothesis =>
      rw [stripPasses, Function.iterate_succ_apply]
      split
      next stable =>
        have fixed : onePass text = text := stable
        rw [fixed, iterate_of_stable fixed]
      next => exact inductionHypothesis _

/-- Passes that change the text at all make it shorter. -/
theorem iterate_eq_iff (passes : Nat) (text : List Char) :
    onePass^[passes + 1] text = text ↔ onePass text = text := by
  have shorter (passes : Nat) (text : List Char) :
      (onePass^[passes] text).length ≤ text.length := by
    induction passes generalizing text with
    | zero => exact Nat.le_refl _
    | succ passes inductionHypothesis =>
        rw [Function.iterate_succ_apply]
        refine Nat.le_trans (inductionHypothesis _) ?_
        rcases onePass_eq_or_shorter text with same | less
        · exact Nat.le_of_eq (congrArg List.length same)
        · exact Nat.le_of_lt less
  constructor
  · intro same
    rw [Function.iterate_succ_apply] at same
    have bound := shorter passes (onePass text)
    rw [same] at bound
    exact (onePass_eq_or_shorter text).resolve_right (Nat.not_lt_of_le bound)
  · exact fun stable => iterate_of_stable stable _

/-! ## The sanitiser applied twice -/

theorem escapeHtml_injective : Function.Injective escapeHtml :=
  Function.LeftInverse.injective decode_escapeHtml

/-- A pass over escaped text, which has no tags, decodes it. -/
theorem onePass_escapeHtml {text : List Char} (stripped : stripTags text = text) :
    onePass (escapeHtml text) = text := by
  rw [onePass, decode_escapeHtml, stripped]

theorem stripTags_stripPasses (passes : Nat) (text : List Char) :
    stripTags (stripPasses (passes + 1) text) = stripPasses (passes + 1) text := by
  rw [stripPasses_eq_iterate, Function.iterate_succ_apply', onePass, stripTags_stripTags]

/-- The second time makes seven passes more. -/
theorem toList_stripHtmlTags_twice (input : String) :
    (stripHtmlTags (stripHtmlTags input)).toList =
      escapeHtml (onePass^[7] (onePass^[8] input.toList)) := by
  have stripped := stripTags_stripPasses 7 input.toList
  unfold stripHtmlTags
  rw [String.toList_ofList, String.toList_ofList, stripPasses_eq_iterate,
    Function.iterate_succ_apply, onePass_escapeHtml stripped, stripPasses_eq_iterate]

/-- To sanitise twice is to sanitise once exactly if a ninth pass would change nothing. -/
theorem stripHtmlTags_twice_iff (input : String) :
    stripHtmlTags (stripHtmlTags input) = stripHtmlTags input ↔
      onePass^[9] input.toList = onePass^[8] input.toList := by
  have once : (stripHtmlTags input).toList = escapeHtml (onePass^[8] input.toList) := by
    rw [stripHtmlTags, String.toList_ofList, stripPasses_eq_iterate]
  rw [← String.toList_inj, toList_stripHtmlTags_twice, once, escapeHtml_injective.eq_iff,
    iterate_eq_iff, ← Function.iterate_succ_apply' onePass 8]

/-- An angle bracket that is encoded nine times is still encoded after eight passes, and gone when
the text has been sanitised once more. -/
theorem nine_times_encoded :
    let input := "&amp;amp;amp;amp;amp;amp;amp;amp;lt;"
    stripHtmlTags input = "&amp;lt;" ∧ stripHtmlTags (stripHtmlTags input) = "" := by
  decide

end Sanitize
end TootTok
