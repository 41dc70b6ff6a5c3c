import TootTok.Sanitize

/-!
# Inert text

What the sanitiser returns can be put into a page as it is, and a client that decodes its
entities once more does not get a tag.
-/

namespace TootTok
namespace Sanitize

/-! ## Escapes -/

/-- What `escape_html` writes for the characters that it escapes. -/
def escapes : List String := ["&amp;", "&lt;", "&gt;", "&quot;", "&#x27;"]

/-- The characters that no sanitised text contains. -/
def IsMarkup (char : Char) : Prop :=
  char = '<' ∨ char = '>' ∨ char = '"' ∨ char = '\''

instance : DecidablePred IsMarkup := fun char => by
  unfold IsMarkup
  infer_instance

theorem escapeChar_cases (char : Char) :
    (∃ escape ∈ escapes, escapeChar char = escape.toList) ∨
      char ≠ '&' ∧ ¬IsMarkup char ∧ escapeChar char = [char] := by
  unfold escapeChar
  split
  · exact .inl ⟨"&amp;", by decide, rfl⟩
  · exact .inl ⟨"&lt;", by decide, rfl⟩
  · exact .inl ⟨"&gt;", by decide, rfl⟩
  · exact .inl ⟨"&quot;", by decide, rfl⟩
  · exact .inl ⟨"&#x27;", by decide, rfl⟩
  next notAmp notLt notGt notQuot notApos =>
    refine .inr ⟨notAmp, ?_, rfl⟩
    rintro (isLt | isGt | isQuot | isApos)
    · exact notLt isLt
    · exact notGt isGt
    · exact notQuot isQuot
    · exact notApos isApos

/-- An escape has its ampersand in front, and contains no markup. -/
theorem escapes_shape : ∀ escape ∈ escapes, ∃ body, escape.toList = '&' :: body ∧
    '&' ∉ body ∧ ∀ char ∈ escape.toList, ¬IsMarkup char := by
  intro escape member
  simp only [escapes, List.mem_cons, List.not_mem_nil, or_false] at member
  rcases member with rfl | rfl | rfl | rfl | rfl <;>
    exact ⟨_, rfl, by decide, fun char member => of_decide_eq_true
      (List.all_eq_true.mp (by decide : (List.all _ fun char => decide ¬IsMarkup char) = true)
        char member)⟩

theorem not_isMarkup_of_mem_escapeHtml {text : List Char} {char : Char}
    (member : char ∈ escapeHtml text) : ¬IsMarkup char := by
  obtain ⟨original, -, member⟩ := List.mem_flatMap.mp member
  rcases escapeChar_cases original with ⟨escape, isEscape, same⟩ | ⟨-, plain, same⟩
  · obtain ⟨-, -, -, noMarkup⟩ := escapes_shape escape isEscape
    exact noMarkup char (same ▸ member)
  · rw [same, List.mem_singleton] at member
    rwa [member]

/-- Every ampersand in escaped text starts an escape. -/
theorem escape_of_ampersand {text before after : List Char}
    (split : escapeHtml text = before ++ '&' :: after) :
    ∃ escape ∈ escapes, escape.toList <+: '&' :: after := by
  induction text generalizing before with
  | nil =>
      have empty := congrArg List.length split
      simp [escapeHtml] at empty
  | cons char text inductionHypothesis =>
      have unfolded : escapeChar char ++ escapeHtml text = before ++ '&' :: after := split
      rcases List.append_eq_append_iff.mp unfolded with
        ⟨skipped, -, later⟩ | ⟨start, within, rest⟩
      · exact inductionHypothesis later
      · cases start with
        | nil => exact @inductionHypothesis [] rest.symm
        | cons first start =>
            obtain ⟨rfl, rest⟩ := List.cons.inj rest
            rcases escapeChar_cases char with ⟨escape, isEscape, same⟩ | ⟨notAmp, -, same⟩
            · obtain ⟨body, shape, single, -⟩ := escapes_shape escape isEscape
              rw [same, shape] at within
              cases before with
              | nil =>
                  obtain ⟨-, rfl⟩ := List.cons.inj within
                  exact ⟨escape, isEscape, escapeHtml text, by rw [shape, rest, List.cons_append]⟩
              | cons other before =>
                  obtain ⟨-, rfl⟩ := List.cons.inj within
                  exact (single (List.mem_append_right _ List.mem_cons_self)).elim
            · rw [same] at within
              have member : '&' ∈ [char] :=
                within ▸ List.mem_append_right _ List.mem_cons_self
              exact (notAmp (List.mem_singleton.mp member).symm).elim

/-! ## Tags -/

theorem lt_not_mem_stripTagsFrom (depth : Nat) (text : List Char) :
    '<' ∉ stripTagsFrom depth text := by
  induction depth, text using stripTagsFrom.induct with
  | case1 depth => exact List.not_mem_nil
  | case2 depth rest inductionHypothesis => exact inductionHypothesis
  | case3 depth rest inductionHypothesis => exact inductionHypothesis
  | case4 char rest notOpen inductionHypothesis =>
      rw [stripTagsFrom]
      · intro member
        rcases List.mem_cons.mp member with same | later
        · exact notOpen same.symm
        · exact inductionHypothesis later
      · exact notOpen
  | case5 depth char rest notOpen notClose inductionHypothesis =>
      rw [stripTagsFrom]
      · exact inductionHypothesis
      · exact notOpen
      · exact notClose

theorem mem_of_mem_trim {text : List Char} {char : Char} (member : char ∈ trim text) :
    char ∈ text := by
  have dropped := (List.dropWhile_sublist _).subset (List.mem_reverse.mp member)
  exact (List.dropWhile_sublist _).subset (List.mem_reverse.mp dropped)

theorem lt_not_mem_stripTags (text : List Char) : '<' ∉ stripTags text :=
  fun member => lt_not_mem_stripTagsFrom 0 text (mem_of_mem_trim member)

theorem lt_not_mem_of_stripped {text : List Char} (without : '<' ∉ text) (passes : Nat) :
    '<' ∉ stripPasses passes text := by
  induction passes generalizing text with
  | zero => exact without
  | succ passes inductionHypothesis =>
      rw [stripPasses]
      split
      · exact without
      · exact inductionHypothesis (lt_not_mem_stripTags _)

/-- One pass is enough to remove what opens a tag. -/
theorem lt_not_mem_stripPasses (passes : Nat) (text : List Char) :
    '<' ∉ stripPasses (passes + 1) text := by
  rw [stripPasses]
  split
  next stable =>
    rw [← stable]
    exact lt_not_mem_stripTags _
  · exact lt_not_mem_of_stripped (lt_not_mem_stripTags _) passes

/-! ## Decoding -/

/-- The shortcut for texts without entities changes nothing. -/
theorem decodeHtmlEntities_eq (text : List Char) : decodeHtmlEntities text = decodeFrom 0 text := by
  have plain {text : List Char} (without : '&' ∉ text) : decodeFrom 0 text = text := by
    induction text with
    | nil => rfl
    | cons char text inductionHypothesis =>
        rw [List.mem_cons, not_or] at without
        rw [decodeFrom, inductionHypothesis without.2]
        exact fun same => without.1 same.symm
  unfold decodeHtmlEntities
  split
  · rfl
  next without => exact (plain without).symm

theorem decodeFrom_escapeChar (char : Char) (rest : List Char) :
    decodeFrom 0 (escapeChar char ++ rest) = char :: decodeFrom 0 rest := by
  unfold escapeChar
  split
  · rfl
  · rfl
  · rfl
  · rfl
  · rfl
  next notAmp _ _ _ _ =>
    rw [List.singleton_append, decodeFrom]
    exact notAmp

/-- A client that decodes the entities gets the text before it was escaped. -/
theorem decode_escapeHtml (text : List Char) : decodeHtmlEntities (escapeHtml text) = text := by
  rw [decodeHtmlEntities_eq]
  induction text with
  | nil => rfl
  | cons char text inductionHypothesis =>
      have unfolded : escapeHtml (char :: text) = escapeChar char ++ escapeHtml text := rfl
      rw [unfolded, decodeFrom_escapeChar, inductionHypothesis]

/-! ## The sanitiser -/

/-- Sanitised text has no markup, its ampersands start escapes, and it decodes to a text
that opens no tag. -/
theorem stripHtmlTags_inert (input : String) :
    (∀ char ∈ (stripHtmlTags input).toList,
      char ≠ '<' ∧ char ≠ '>' ∧ char ≠ '"' ∧ char ≠ '\'') ∧
    (∀ before after, (stripHtmlTags input).toList = before ++ '&' :: after →
      ∃ escape ∈ escapes, escape.toList <+: '&' :: after) ∧
    '<' ∉ decodeHtmlEntities (stripHtmlTags input).toList := by
  have output : (stripHtmlTags input).toList = escapeHtml (stripPasses 8 input.toList) :=
    String.toList_ofList
  rw [output]
  refine ⟨fun char member => ?_, fun before after split => escape_of_ampersand split, ?_⟩
  · simpa only [IsMarkup, not_or] using not_isMarkup_of_mem_escapeHtml member
  · rw [decode_escapeHtml]
    exact lt_not_mem_stripPasses 7 input.toList

end Sanitize
end TootTok
