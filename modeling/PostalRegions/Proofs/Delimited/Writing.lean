import Mathlib.Data.List.Forall2
import PostalRegions.Delimited.Record
import PostalRegions.Proofs.Text.Lines

/-!
# Reading what was written

A field is written as it is, if it contains neither a delimiter nor a line end and does not open
with the quote, or between quotes, with each quote inside written twice.  Fields are joined by the
delimiter, and lines by a line end.  The reader gives the records back, whichever way each of their
fields was written.
-/

namespace PostalRegions.Delimited

open Text

/-! ## Writing -/

/-- The three roles of characters are kept apart. -/
structure Dialect.IsProper (dialect : Dialect) : Prop where
  delimiter_ne_quote : dialect.delimiter ≠ dialect.quote
  delimiter_inside : endsRecord dialect.delimiter = false
  quote_inside : endsRecord dialect.quote = false

/-- The characters that may quote a field. -/
def quotes : List Char :=
  ['"', '\'']

theorem Dialect.isProper_of_mem {delimiter quote : Char} (hdelimiter : delimiter ∈ delimiters)
    (hquote : quote ∈ quotes) : (Dialect.mk delimiter quote).IsProper := by
  have hknown : quote = '"' ∨ quote = '\'' := by simpa [quotes] using hquote
  rcases mem_delimiters.mp hdelimiter with rfl | rfl | rfl <;> rcases hknown with rfl | rfl <;>
    constructor <;> decide

def doubled (quote : Char) : List Char → List Char
  | [] => []
  | c :: rest => if c = quote then c :: c :: doubled quote rest else c :: doubled quote rest

def quotedField (quote : Char) (field : List Char) : List Char :=
  quote :: (doubled quote field ++ [quote])

/-- The ways of writing a field. -/
inductive Dialect.Spells (dialect : Dialect) : (spelling field : List Char) → Prop
  | plain {field : List Char} (hinside : ∀ c ∈ field, c ≠ dialect.delimiter ∧ endsRecord c = false)
      (hopen : field.head? ≠ some dialect.quote) : Spells dialect field field
  | quoted (field : List Char) : Spells dialect (quotedField dialect.quote field) field

/-- A line, without its end, that holds a record.  An empty line holds none. -/
structure Dialect.Writes (dialect : Dialect) (line : List Char) (record : Record) : Prop where
  nonempty : line ≠ []
  spelled : ∃ spellings, List.Forall₂ dialect.Spells spellings (record.map String.toList) ∧
    line = [dialect.delimiter].intercalate spellings

/-! ## Reading -/

structure ReaderState where
  position : Position
  reversed : List Char
  fields : List String

namespace Dialect

/-- The text brings the reader from one state into another, whatever follows it. -/
def Reads (dialect : Dialect) (text : List Char) (before after : ReaderState) : Prop :=
  ∀ rest, dialect.recordsFrom before.position before.reversed before.fields (text ++ rest) =
    dialect.recordsFrom after.position after.reversed after.fields rest

variable {dialect : Dialect} {position : Position} {reversed : List Char} {fields : List String}

theorem Reads.nil {state : ReaderState} : dialect.Reads [] state state :=
  fun _ => rfl

theorem Reads.append {first second : List Char} {before middle after : ReaderState}
    (hfirst : dialect.Reads first before middle) (hsecond : dialect.Reads second middle after) :
    dialect.Reads (first ++ second) before after := by
  intro rest
  rw [List.append_assoc, hfirst, hsecond]

theorem recordsFrom_cons (hposition : position ≠ .quoted) (c : Char) (rest : List Char)
    (reversed : List Char) (fields : List String) :
    dialect.recordsFrom position reversed fields (c :: rest) =
      if position = .recordStart && endsRecord c then dialect.recordsFrom .recordStart [] [] rest
      else if (position = .recordStart || position = .fieldStart) && c = dialect.quote then
        dialect.recordsFrom .quoted reversed fields rest
      else if position = .quoteSeen && c = dialect.quote then
        dialect.recordsFrom .quoted (c :: reversed) fields rest
      else if c = dialect.delimiter then
        dialect.recordsFrom .fieldStart [] (finishField reversed :: fields) rest
      else if endsRecord c then
        finishRecord reversed fields :: dialect.recordsFrom .recordStart [] [] rest
      else dialect.recordsFrom .plain (c :: reversed) fields rest := by
  cases position with
  | quoted => exact absurd rfl hposition
  | recordStart => rfl
  | fieldStart => rfl
  | plain => rfl
  | quoteSeen => rfl

theorem reads_delimiter (hproper : dialect.IsProper) (hposition : position ≠ .quoted) :
    dialect.Reads [dialect.delimiter] ⟨position, reversed, fields⟩
      ⟨.fieldStart, [], finishField reversed :: fields⟩ := by
  intro rest
  have hquote := hproper.delimiter_ne_quote
  have hinside := hproper.delimiter_inside
  rw [List.singleton_append, recordsFrom_cons hposition]
  simp [hquote, hinside]

theorem recordsFrom_of_endsRecord (dialect : Dialect) {c : Char} (hc : endsRecord c = true)
    (rest : List Char) :
    dialect.recordsFrom .recordStart [] [] (c :: rest) =
      dialect.recordsFrom .recordStart [] [] rest := by
  rw [recordsFrom_cons (by decide)]
  simp [hc]

/-- Empty lines in front of a text are no records, in whatever dialect. -/
theorem recordsFrom_emptyLines (dialect : Dialect) (ends : List LineEnd) (text : List Char) :
    dialect.recordsFrom .recordStart [] [] (emptyLines ends ++ text) =
      dialect.recordsFrom .recordStart [] [] text := by
  induction ends with
  | nil => rfl
  | cons lineEnd more ih =>
      rw [emptyLines_cons_append, ← ih]
      cases lineEnd with
      | feed => exact dialect.recordsFrom_of_endsRecord (by decide) _
      | returnFeed =>
          have hreturn := dialect.recordsFrom_of_endsRecord (show endsRecord '\r' = true by decide)
            ('\n' :: (emptyLines more ++ text))
          exact hreturn.trans (dialect.recordsFrom_of_endsRecord (by decide) _)

theorem recordsFrom_lineEnd (hproper : dialect.IsProper) (hposition : position ≠ .quoted)
    (hstarted : position ≠ .recordStart) (reversed : List Char) (fields : List String)
    (lineEnd : LineEnd) (rest : List Char) :
    dialect.recordsFrom position reversed fields (lineEnd.chars ++ rest) =
      finishRecord reversed fields :: dialect.recordsFrom .recordStart [] [] rest := by
  have hend {c : Char} (hc : endsRecord c = true) (rest : List Char) :
      dialect.recordsFrom position reversed fields (c :: rest) =
        finishRecord reversed fields :: dialect.recordsFrom .recordStart [] [] rest := by
    have hquote : c ≠ dialect.quote := by
      rintro rfl
      rw [hproper.quote_inside] at hc
      cases hc
    have hdelimiter : c ≠ dialect.delimiter := by
      rintro rfl
      rw [hproper.delimiter_inside] at hc
      cases hc
    rw [recordsFrom_cons hposition]
    simp [hquote, hdelimiter, hc, hstarted]
  cases lineEnd with
  | feed => exact hend (by decide) rest
  | returnFeed =>
      -- The line feed behind the carriage return is an empty line.
      have hreturn := hend (show endsRecord '\r' = true by decide) ('\n' :: rest)
      exact hreturn.trans (by rw [dialect.recordsFrom_of_endsRecord (by decide)])

theorem recordsFrom_nil (hstarted : position ≠ .recordStart) :
    dialect.recordsFrom position reversed fields [] = [finishRecord reversed fields] := by
  cases position with
  | recordStart => exact absurd rfl hstarted
  | fieldStart => rfl
  | plain => rfl
  | quoted => rfl
  | quoteSeen => rfl

/-! ## Fields -/

theorem reads_inside {chars : List Char}
    (hinside : ∀ c ∈ chars, c ≠ dialect.delimiter ∧ endsRecord c = false)
    (reversed : List Char) (fields : List String) :
    dialect.Reads chars ⟨.plain, reversed, fields⟩
      ⟨.plain, chars.reverse ++ reversed, fields⟩ := by
  induction chars generalizing reversed with
  | nil => exact Reads.nil
  | cons c more ih =>
      intro rest
      obtain ⟨hdelimiter, hend⟩ := hinside c List.mem_cons_self
      have hmore := ih (fun other hother => hinside other (List.mem_cons_of_mem c hother))
        (c :: reversed) rest
      have hplain : Position.plain ≠ .quoted := by decide
      rw [List.cons_append, recordsFrom_cons hplain]
      simpa [hdelimiter, hend] using hmore

theorem reads_doubled (dialect : Dialect) (field reversed : List Char) (fields : List String) :
    dialect.Reads (doubled dialect.quote field) ⟨.quoted, reversed, fields⟩
      ⟨.quoted, field.reverse ++ reversed, fields⟩ := by
  induction field generalizing reversed with
  | nil => exact Reads.nil
  | cons c more ih =>
      intro rest
      have hmore := ih (c :: reversed) rest
      by_cases hc : c = dialect.quote
      · subst hc
        simp only [doubled, if_true, List.cons_append]
        rw [recordsFrom, if_pos rfl, recordsFrom_cons (by decide)]
        simpa using hmore
      · simp only [doubled, hc, if_false, List.cons_append]
        rw [recordsFrom, if_neg hc]
        simpa using hmore

/-- Behind a written field the reader has the field and is ready for a delimiter or a line end. -/
theorem reads_spelling {spelling field : List Char} (hspells : dialect.Spells spelling field)
    (hproper : dialect.IsProper) (hposition : position = .recordStart ∨ position = .fieldStart)
    (fields : List String) :
    ∃ stop, stop ≠ .quoted ∧ (stop = .recordStart → position = .recordStart ∧ spelling = []) ∧
      dialect.Reads spelling ⟨position, [], fields⟩ ⟨stop, field.reverse, fields⟩ := by
  have hnotQuoted : position ≠ .quoted := by
    rcases hposition with rfl | rfl <;> decide
  cases hspells with
  | plain hinside hopen =>
      cases spelling with
      | nil => exact ⟨position, hnotQuoted, fun hstop => ⟨hstop, rfl⟩, Reads.nil⟩
      | cons c more =>
          refine ⟨.plain, by decide, ?_, ?_⟩
          · intro hstop
            cases hstop
          intro rest
          have hquote : c ≠ dialect.quote := by simpa using hopen
          obtain ⟨hdelimiter, hend⟩ := hinside c List.mem_cons_self
          have hmore := reads_inside
            (fun other hother => hinside other (List.mem_cons_of_mem c hother)) [c] fields rest
          rw [List.cons_append, recordsFrom_cons hnotQuoted]
          simpa [hquote, hdelimiter, hend] using hmore
  | quoted =>
      refine ⟨.quoteSeen, by decide, ?_, ?_⟩
      · intro hstop
        cases hstop
      intro rest
      have hquoted := dialect.reads_doubled field [] fields (dialect.quote :: rest)
      have hopens : dialect.recordsFrom position [] fields
            (quotedField dialect.quote field ++ rest) =
          dialect.recordsFrom .quoted [] fields
            (doubled dialect.quote field ++ dialect.quote :: rest) := by
        have hinside := hproper.quote_inside
        unfold quotedField
        rw [List.cons_append, recordsFrom_cons hnotQuoted]
        rcases hposition with rfl | rfl <;> simp [hinside]
      have hcloses : dialect.recordsFrom .quoted (field.reverse ++ []) fields
            (dialect.quote :: rest) =
          dialect.recordsFrom .quoteSeen field.reverse fields rest := by
        rw [recordsFrom, if_pos rfl, List.append_nil]
      exact hopens.trans (hquoted.trans hcloses)

/-! ## Lines -/

theorem reads_line {spellings texts : List (List Char)}
    (hspells : List.Forall₂ dialect.Spells spellings texts) (hproper : dialect.IsProper)
    (hfield : spellings ≠ []) (hposition : position = .recordStart ∨ position = .fieldStart)
    (fields : List String) :
    ∃ stop, stop.position ≠ .quoted ∧
      (stop.position = .recordStart →
        position = .recordStart ∧ [dialect.delimiter].intercalate spellings = []) ∧
      finishRecord stop.reversed stop.fields = fields.reverse ++ texts.map String.ofList ∧
      dialect.Reads ([dialect.delimiter].intercalate spellings) ⟨position, [], fields⟩ stop := by
  induction hspells generalizing position fields with
  | nil => exact absurd rfl hfield
  | @cons spelling field others texts hhead htail ih =>
      obtain ⟨stop, hquoted, hstart, hreads⟩ :=
        reads_spelling hhead hproper hposition fields
      cases others with
      | nil =>
          cases htail
          refine ⟨⟨stop, field.reverse, fields⟩, hquoted, ?_, ?_, ?_⟩
          · simpa using hstart
          · simp [finishRecord, finishField]
          · simpa using hreads
      | cons next more =>
          obtain ⟨last, hlastQuoted, hlastStart, hfinish, hrest⟩ :=
            ih (by simp) (Or.inr rfl) (finishField field.reverse :: fields)
          have hline : [dialect.delimiter].intercalate (spelling :: next :: more) =
              spelling ++ ([dialect.delimiter] ++
                [dialect.delimiter].intercalate (next :: more)) := by
            rw [List.intercalate_cons_cons, List.append_assoc]
          refine ⟨last, hlastQuoted, ?_, ?_, ?_⟩
          · -- Behind a delimiter the reader never stands at the start of a record again.
            intro hlast
            cases (hlastStart hlast).1
          · simp [hfinish, finishField]
          · rw [hline]
            exact hreads.append ((reads_delimiter hproper hquoted).append hrest)

/-- A written line brings the reader to the end of its record. -/
theorem Writes.reads {line : List Char} {record : Record} (hwrites : dialect.Writes line record)
    (hproper : dialect.IsProper) :
    ∃ stop, stop.position ≠ .quoted ∧ stop.position ≠ .recordStart ∧
      finishRecord stop.reversed stop.fields = record ∧
      dialect.Reads line ⟨.recordStart, [], []⟩ stop := by
  obtain ⟨hnonempty, spellings, hspells, rfl⟩ := hwrites
  have hfield : spellings ≠ [] := by
    rintro rfl
    exact hnonempty rfl
  obtain ⟨stop, hquoted, hstart, hfinish, hreads⟩ :=
    reads_line hspells hproper hfield (Or.inl rfl) []
  refine ⟨stop, hquoted, fun hstop => hnonempty (hstart hstop).2, ?_, hreads⟩
  simpa [List.map_map, Function.comp_def] using hfinish

/-- The reader gives back the records that were written. -/
theorem recordsFrom_join {lines : List (List Char)} {records : List Record}
    (hlines : List.Forall₂ dialect.Writes lines records) (hproper : dialect.IsProper)
    (hline : lines ≠ []) (lineEnd : LineEnd) (closed : Bool) :
    dialect.recordsFrom .recordStart [] [] (lineEnd.join closed lines) = records := by
  induction hlines with
  | nil => exact absurd rfl hline
  | @cons line record others records hhead htail ih =>
      obtain ⟨stop, hquoted, hstarted, hfinish, hreads⟩ := hhead.reads hproper
      cases others with
      | nil =>
          cases htail
          rw [LineEnd.join_singleton, hreads]
          cases closed with
          | false => simpa [recordsFrom_nil hstarted] using hfinish
          | true =>
              have hend := recordsFrom_lineEnd hproper hquoted hstarted stop.reversed stop.fields
                lineEnd []
              rw [List.append_nil] at hend
              rw [if_pos rfl, hend, hfinish]
              rfl
      | cons next more =>
          rw [LineEnd.join_cons_cons, hreads, recordsFrom_lineEnd hproper hquoted hstarted,
            hfinish, ih (by simp)]

end Dialect

end PostalRegions.Delimited
