import Mathlib.Data.List.Basic
import PostalRegions.Text.Lines

/-!
# Lines joined and cut again

Lines that contain no line end are found again in the text that joins them, whichever of the two
line ends is used and whether or not the last line has one.  Empty lines in front of a text stay in
front of its lines.
-/

namespace PostalRegions.Text

inductive LineEnd where
  | feed
  | returnFeed
deriving DecidableEq, Repr

def LineEnd.chars : LineEnd → List Char
  | .feed => ['\n']
  | .returnFeed => ['\r', '\n']

/-- Lines with nothing on them, each with its end. -/
def emptyLines (ends : List LineEnd) : List Char :=
  ends.flatMap LineEnd.chars

theorem emptyLines_cons_append (lineEnd : LineEnd) (ends : List LineEnd) (text : List Char) :
    emptyLines (lineEnd :: ends) ++ text = lineEnd.chars ++ (emptyLines ends ++ text) := by
  rw [emptyLines, List.flatMap_cons, List.append_assoc]
  rfl

/-- Lines as one text; the last one may lack its end. -/
def LineEnd.join (lineEnd : LineEnd) (closed : Bool) (lines : List (List Char)) : List Char :=
  lineEnd.chars.intercalate lines ++ if closed then lineEnd.chars else []

namespace LineEnd

variable (lineEnd : LineEnd) (closed : Bool)

theorem join_singleton (line : List Char) :
    lineEnd.join closed [line] = line ++ if closed then lineEnd.chars else [] := by
  rw [join, List.intercalate_singleton]

theorem join_cons_cons (line next : List Char) (others : List (List Char)) :
    lineEnd.join closed (line :: next :: others) =
      line ++ (lineEnd.chars ++ lineEnd.join closed (next :: others)) := by
  unfold join
  rw [List.intercalate_cons_cons]
  simp only [List.append_assoc]

/-- What is behind the first line does not depend on it. -/
theorem exists_join_cons (others : List (List Char)) :
    ∃ rest, ∀ line, lineEnd.join closed (line :: others) = line ++ rest := by
  cases others with
  | nil => exact ⟨_, lineEnd.join_singleton closed⟩
  | cons next more => exact ⟨_, fun line => lineEnd.join_cons_cons closed line next more⟩

end LineEnd

def IsOneLine (line : List Char) : Prop :=
  '\r' ∉ line ∧ '\n' ∉ line

instance (line : List Char) : Decidable (IsOneLine line) :=
  inferInstanceAs (Decidable (_ ∧ _))

theorem linesFrom_append {line : List Char} (hline : '\n' ∉ line) (reversed rest : List Char) :
    linesFrom reversed (line ++ rest) = linesFrom (line.reverse ++ reversed) rest := by
  induction line generalizing reversed with
  | nil => rfl
  | cons c more ih =>
      have hc : c ≠ '\n' := fun hsame => hline (hsame ▸ List.mem_cons_self)
      have hmore : '\n' ∉ more := fun hmem => hline (List.mem_cons_of_mem c hmem)
      have hstep : linesFrom reversed (c :: (more ++ rest)) =
          linesFrom (c :: reversed) (more ++ rest) := by
        rw [linesFrom]
        exact hc
      rw [List.cons_append, hstep, ih hmore, List.reverse_cons, List.append_assoc,
        List.singleton_append]

theorem finishLine_reverse {line : List Char} (hline : '\r' ∉ line) :
    finishLine line.reverse = line := by
  cases hreverse : line.reverse with
  | nil => exact (List.reverse_eq_nil_iff.mp hreverse).symm
  | cons c rest =>
      have hmem : c ∈ line := by
        rw [← List.mem_reverse, hreverse]
        exact List.mem_cons_self
      have hc : c ≠ '\r' := fun hsame => hline (hsame ▸ hmem)
      rw [finishLine, ← hreverse, List.reverse_reverse]
      rintro _ hsame
      exact hc (List.cons.inj hsame).1

theorem lines_append {line : List Char} (hline : IsOneLine line) (lineEnd : LineEnd)
    (rest : List Char) : lines (line ++ (lineEnd.chars ++ rest)) = line :: lines rest := by
  unfold lines
  rw [linesFrom_append hline.2, List.append_nil]
  cases lineEnd with
  | feed => exact congrArg (· :: linesFrom [] rest) (finishLine_reverse hline.1)
  | returnFeed => exact congrArg (· :: linesFrom [] rest) (List.reverse_reverse line)

theorem lines_emptyLines_append (ends : List LineEnd) (text : List Char) :
    lines (emptyLines ends ++ text) = List.replicate ends.length [] ++ lines text := by
  induction ends with
  | nil => rfl
  | cons lineEnd more ih =>
      have hline : IsOneLine [] := by decide
      have hfirst := lines_append hline lineEnd (emptyLines more ++ text)
      rw [List.nil_append] at hfirst
      rw [emptyLines_cons_append, hfirst, ih]
      rfl

/-- A text goes on behind its first line with a line end, if at all. -/
theorem exists_append_of_linesFrom {reversed text first : List Char} {others : List (List Char)}
    (hlines : linesFrom reversed text = first :: others) :
    ∃ behind, reversed.reverse ++ text = first ++ behind ∧
      (behind = [] ∨ ∃ lineEnd : LineEnd, ∃ rest, behind = lineEnd.chars ++ rest) := by
  induction text generalizing reversed with
  | nil =>
      refine ⟨[], ?_, Or.inl rfl⟩
      rw [linesFrom] at hlines
      split at hlines
      · cases hlines
      · cases hlines
        rfl
  | cons c rest ih =>
      by_cases hc : c = '\n'
      · subst hc
        rw [linesFrom] at hlines
        cases hlines
        -- A carriage return that was read last belongs to the end of the line.
        rw [finishLine.eq_def]
        split
        · rename_i more
          exact ⟨'\r' :: '\n' :: rest, by simp, Or.inr ⟨.returnFeed, rest, rfl⟩⟩
        · exact ⟨'\n' :: rest, rfl, Or.inr ⟨.feed, rest, rfl⟩⟩
      · rw [linesFrom] at hlines
        · obtain ⟨behind, htext, hbehind⟩ := ih hlines
          refine ⟨behind, ?_, hbehind⟩
          rw [← htext, List.reverse_cons, List.append_assoc, List.singleton_append]
        · exact hc

theorem lines_singleton {line : List Char} (hline : IsOneLine line) (hnonempty : line ≠ []) :
    lines line = [line] := by
  have hopen := linesFrom_append hline.2 [] []
  rw [List.append_nil, List.append_nil] at hopen
  unfold lines
  rw [hopen, linesFrom]
  simp [hnonempty]

theorem lines_join {lines : List (List Char)} (hlines : ∀ line ∈ lines, IsOneLine line)
    (hnonempty : ∀ line ∈ lines, line ≠ []) (hline : lines ≠ []) (lineEnd : LineEnd)
    (closed : Bool) : Text.lines (lineEnd.join closed lines) = lines := by
  induction lines with
  | nil => exact absurd rfl hline
  | cons line others ih =>
      have hone := hlines line List.mem_cons_self
      cases others with
      | nil =>
          rw [LineEnd.join_singleton]
          cases closed with
          | false =>
              simpa using lines_singleton hone (hnonempty line List.mem_cons_self)
          | true =>
              have hclosed := lines_append hone lineEnd []
              rw [List.append_nil] at hclosed
              exact hclosed
      | cons next more =>
          rw [LineEnd.join_cons_cons, lines_append hone,
            ih (fun other hother => hlines other (List.mem_cons_of_mem line hother))
              (fun other hother => hnonempty other (List.mem_cons_of_mem line hother)) (by simp)]

end PostalRegions.Text
