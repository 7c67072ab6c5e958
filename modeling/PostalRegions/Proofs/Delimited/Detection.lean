import PostalRegions.Delimited.Dialect

/-!
# Detecting a dialect

The first line of a table decides between the delimiters: one that does not stand on it has no
common count, and is not found by the rule for the first line either.  So if only one of them
stands on the first line, it is the detected one, whatever the other lines are.  The quote is an
apostrophe only if that delimiter is found by counting outside apostrophes.
-/

namespace PostalRegions.Delimited

/-- Of the characters that may delimit, the line has this one alone. -/
structure HasOnlyDelimiter (line : List Char) (delimiter : Char) : Prop where
  known : delimiter ∈ delimiters
  mem : delimiter ∈ line
  only : ∀ other ∈ delimiters, other ∈ line → other = delimiter

theorem countUnquoted_eq_zero {delimiter quote : Char} {line : List Char}
    (hline : delimiter ∉ line) (quoted : Bool) : countUnquoted delimiter quote quoted line = 0 := by
  induction line generalizing quoted with
  | nil => rfl
  | cons c rest ih =>
      have hc : c ≠ delimiter := fun hsame => hline (hsame ▸ List.mem_cons_self)
      have hrest : delimiter ∉ rest := fun hmem => hline (List.mem_cons_of_mem c hmem)
      rw [countUnquoted]
      simp [hc, ih hrest]

theorem commonCount_eq_none {delimiter quote : Char} {first : List Char}
    (hfirst : delimiter ∉ first) (others : List (List Char)) :
    commonCount delimiter quote (first :: others) = none := by
  rw [commonCount]
  simp [countUnquoted_eq_zero hfirst]

/-- One delimiter stands equally often, and at least once, on each of some lines, not counting
those between quotes. -/
theorem commonCount_isSome_iff {delimiter quote : Char} {lines : List (List Char)} :
    (commonCount delimiter quote lines).isSome = true ↔
      lines ≠ [] ∧ ∃ count, count ≠ 0 ∧
        ∀ line ∈ lines, countUnquoted delimiter quote false line = count := by
  cases lines with
  | nil => simp [commonCount]
  | cons first others =>
      rw [commonCount]
      simp only [ne_eq, reduceCtorEq, not_false_eq_true, true_and, List.forall_mem_cons]
      constructor
      · intro hsome
        split at hsome
        · rename_i hcommon
          refine ⟨countUnquoted delimiter quote false first, ?_, rfl, ?_⟩
          · simpa using (Bool.and_eq_true_iff.mp hcommon).1
          · simpa using (Bool.and_eq_true_iff.mp hcommon).2
        · cases hsome
      · rintro ⟨count, hcount, rfl, hothers⟩
        rw [if_pos]
        · rfl
        · simpa [hcount] using hothers

namespace Dialect

variable {text first : List Char} {others : List (List Char)} {delimiter : Char}

theorem sampleLines_cons (hlines : Text.lines text = first :: others)
    (hfirst : Text.isAllBlank first = false) :
    ∃ more, sampleLines text = first :: more := by
  unfold sampleLines sampleSize
  rw [hlines, List.take_succ_cons, List.filter_cons_of_pos (by simp [hfirst])]
  exact ⟨_, rfl⟩

/-- The dialect that sampled lines suggest. -/
def ofSample (lines : List (List Char)) : Option Dialect :=
  (delimiters.foldl (betterDelimiter (sampleQuote lines) lines) none).map fun (delimiter, _) =>
    ⟨delimiter, sampleQuote lines⟩

theorem sniff_eq_ofSample (text : List Char) : sniff text = ofSample (sampleLines text) :=
  rfl

theorem ofSample_of_onlyDelimiter {lines : List (List Char)}
    (honly : ∀ first, lines.head? = some first → HasOnlyDelimiter first delimiter)
    (hdelimiter : delimiter ∈ delimiters) :
    ofSample lines =
      (commonCount delimiter (sampleQuote lines) lines).map fun _ =>
        ⟨delimiter, sampleQuote lines⟩ := by
  have hnone (other : Char) (hother : other ∈ delimiters) (hne : other ≠ delimiter) :
      commonCount other (sampleQuote lines) lines = none := by
    cases lines with
    | nil => rfl
    | cons first more =>
        exact commonCount_eq_none (fun hmem => hne ((honly first rfl).only other hother hmem)) more
  -- The fold over the three delimiters keeps the only one that has a count.
  unfold ofSample
  rcases mem_delimiters.mp hdelimiter with rfl | rfl | rfl
  · have htab := hnone '\t' (by decide) (by decide)
    have hsemicolon := hnone ';' (by decide) (by decide)
    cases hcount : commonCount ',' (sampleQuote lines) lines <;>
      simp [delimiters, betterDelimiter, hcount, htab, hsemicolon]
  · have hcomma := hnone ',' (by decide) (by decide)
    have hsemicolon := hnone ';' (by decide) (by decide)
    cases hcount : commonCount '\t' (sampleQuote lines) lines <;>
      simp [delimiters, betterDelimiter, hcount, hcomma, hsemicolon]
  · have hcomma := hnone ',' (by decide) (by decide)
    have htab := hnone '\t' (by decide) (by decide)
    cases hcount : commonCount ';' (sampleQuote lines) lines <;>
      simp [delimiters, betterDelimiter, hcount, hcomma, htab]

theorem sniff_of_onlyDelimiter (hlines : Text.lines text = first :: others)
    (hfirst : Text.isAllBlank first = false) (honly : HasOnlyDelimiter first delimiter) :
    sniff text =
      (commonCount delimiter (sampleQuote (sampleLines text)) (sampleLines text)).map fun _ =>
        ⟨delimiter, sampleQuote (sampleLines text)⟩ := by
  obtain ⟨more, hsample⟩ := sampleLines_cons hlines hfirst
  rw [sniff_eq_ofSample, hsample]
  apply ofSample_of_onlyDelimiter
  · rintro _ ⟨⟩
    exact honly
  · exact honly.known

theorem ofFirstLine_of_onlyDelimiter (hlines : Text.lines text = first :: others)
    (honly : HasOnlyDelimiter first delimiter) : ofFirstLine text = ⟨delimiter, '"'⟩ := by
  have hcontains (other : Char) (hother : other ∈ delimiters) :
      first.contains other = (other == delimiter) := by
    by_cases hsame : other = delimiter
    · subst hsame
      simpa using honly.mem
    · have hmem : other ∉ first := fun hmem => hsame (honly.only other hother hmem)
      simp [hmem, hsame]
  unfold ofFirstLine
  rw [hlines]
  simp only [List.head?_cons, Option.getD_some, hcontains '\t' (by decide),
    hcontains ';' (by decide)]
  rcases mem_delimiters.mp honly.known with rfl | rfl | rfl <;> rfl

/-- The one delimiter of the first line is detected.  The quote is an apostrophe if the sample
suggests it and the delimiter has a common count outside apostrophes. -/
theorem detect_of_onlyDelimiter (hlines : Text.lines text = first :: others)
    (hfirst : Text.isAllBlank first = false) (honly : HasOnlyDelimiter first delimiter) :
    detect text =
      if sampleQuote (sampleLines text) = '\'' ∧
          (commonCount delimiter '\'' (sampleLines text)).isSome = true
      then ⟨delimiter, '\''⟩ else ⟨delimiter, '"'⟩ := by
  unfold detect
  rw [sniff_of_onlyDelimiter hlines hfirst honly, ofFirstLine_of_onlyDelimiter hlines honly]
  by_cases hquote : sampleQuote (sampleLines text) = '\''
  · rw [hquote]
    cases commonCount delimiter '\'' (sampleLines text) <;> simp
  · have hdouble : sampleQuote (sampleLines text) = '"' := by
      unfold sampleQuote at hquote ⊢
      split
      · rename_i hsuggested
        exact absurd (if_pos hsuggested) hquote
      · rfl
    rw [hdouble]
    cases commonCount delimiter '"' (sampleLines text) <;> simp

/-- If one delimiter alone stands on a first line that is not blank, between quotes or not, it is
the detected one, whatever follows that line. -/
theorem delimiter_detect (hlines : (Text.lines text).head? = some first)
    (hmark : ∃ c ∈ first, Text.isBlank c = false) (honly : HasOnlyDelimiter first delimiter) :
    (detect text).delimiter = delimiter := by
  obtain ⟨others, hothers⟩ := List.head?_eq_some_iff.mp hlines
  have hfirst : Text.isAllBlank first = false := by
    simpa [Text.isAllBlank, List.all_eq_false] using hmark
  rw [detect_of_onlyDelimiter hothers hfirst honly]
  split
  · rfl
  · rfl

/-- A header that stands between apostrophes as a whole, and rows with another delimiter. -/
def quotedHeader : List Char :=
  "'CODE;NUTS3;NAME'\n1010,AT130,Wien\n1020,AT130,Wien\n".toList

theorem delimiter_detect_quotedHeader :
    (Text.lines quotedHeader).head? = some "'CODE;NUTS3;NAME'".toList ∧
      HasOnlyDelimiter "'CODE;NUTS3;NAME'".toList ';' ∧
      (detect quotedHeader).delimiter = ';' := by
  have hlines : (Text.lines quotedHeader).head? = some "'CODE;NUTS3;NAME'".toList := by
    decide +kernel
  have honly : HasOnlyDelimiter "'CODE;NUTS3;NAME'".toList ';' := by
    constructor <;> simp [delimiters]
  exact ⟨hlines, honly, delimiter_detect hlines ⟨'C', by simp, by decide⟩ honly⟩

end Dialect

end PostalRegions.Delimited
