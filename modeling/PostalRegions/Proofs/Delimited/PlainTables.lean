import PostalRegions.Proofs.Delimited.Detection
import PostalRegions.Proofs.Delimited.Writing

/-!
# Plain tables

No field of a plain table contains a delimiter, a double quote or a line end, so its lines are
written without quotes.  The delimiter is always detected.  The double quote, which no line has, is
detected as well, unless the first lines pass for lines quoted with apostrophes: some field in them
opens with one, and the delimiters outside apostrophes are equally many on each.
-/

namespace PostalRegions.Delimited

open Text

/-! ## Plain lines -/

def isPlainChar (c : Char) : Bool :=
  !(delimiters.contains c || c == '"' || endsRecord c)

def IsPlain (record : Record) : Prop :=
  ∀ field ∈ record, field.toList.all isPlainChar = true

instance (record : Record) : Decidable (IsPlain record) :=
  inferInstanceAs (Decidable (∀ field ∈ record, field.toList.all isPlainChar = true))

theorem IsPlain.of_mem {record : Record} (hplain : IsPlain record) {field : String}
    (hfield : field ∈ record) {c : Char} (hc : c ∈ field.toList) : isPlainChar c = true :=
  List.all_eq_true.mp (hplain field hfield) c hc

def plainLine (delimiter : Char) (record : Record) : List Char :=
  [delimiter].intercalate (record.map String.toList)

def HasText (record : Record) : Prop :=
  ∃ field ∈ record, isAllBlank field.toList = false

variable {delimiter : Char} {record : Record}

theorem plainLine_singleton (field : String) : plainLine delimiter [field] = field.toList :=
  List.intercalate_singleton

theorem plainLine_cons_cons (field next : String) (others : Record) :
    plainLine delimiter (field :: next :: others) =
      field.toList ++ delimiter :: plainLine delimiter (next :: others) := by
  unfold plainLine
  rw [List.map_cons, List.map_cons, List.intercalate_cons_cons, List.append_assoc]
  rfl

theorem mem_plainLine_of_mem {field : String} {c : Char} (hfield : field ∈ record)
    (hc : c ∈ field.toList) : c ∈ plainLine delimiter record := by
  induction record with
  | nil => cases hfield
  | cons first others ih =>
      cases others with
      | nil =>
          rw [plainLine_singleton, ← List.mem_singleton.mp hfield]
          exact hc
      | cons next more =>
          rw [plainLine_cons_cons, List.mem_append, List.mem_cons]
          rcases List.mem_cons.mp hfield with rfl | hmore
          · exact Or.inl hc
          · exact Or.inr (Or.inr (ih hmore))

theorem mem_plainLine {c : Char} (hplain : IsPlain record) (hc : c ∈ plainLine delimiter record) :
    c = delimiter ∨ isPlainChar c = true := by
  induction record with
  | nil => cases hc
  | cons first others ih =>
      cases others with
      | nil =>
          rw [plainLine_singleton] at hc
          exact Or.inr (hplain.of_mem List.mem_cons_self hc)
      | cons next more =>
          rw [plainLine_cons_cons, List.mem_append, List.mem_cons] at hc
          rcases hc with hinside | hdelimiter | hmore
          · exact Or.inr (hplain.of_mem List.mem_cons_self hinside)
          · exact Or.inl hdelimiter
          · exact ih (fun field hfield => hplain field (List.mem_cons_of_mem first hfield)) hmore

theorem delimiter_mem_plainLine (hrecord : 2 ≤ record.length) :
    delimiter ∈ plainLine delimiter record := by
  match record, hrecord with
  | field :: next :: others, _ =>
      rw [plainLine_cons_cons]
      exact List.mem_append_right field.toList List.mem_cons_self

theorem isAllBlank_plainLine (htext : HasText record) :
    isAllBlank (plainLine delimiter record) = false := by
  obtain ⟨field, hfield, hblank⟩ := htext
  rw [isAllBlank, List.all_eq_false] at hblank ⊢
  obtain ⟨c, hc, hvisible⟩ := hblank
  exact ⟨c, mem_plainLine_of_mem hfield hc, hvisible⟩

theorem plainLine_ne_nil (htext : HasText record) : plainLine delimiter record ≠ [] := by
  intro hempty
  have hblank : isAllBlank (plainLine delimiter record) = false := isAllBlank_plainLine htext
  rw [hempty] at hblank
  cases hblank

theorem isOneLine_plainLine (hdelimiter : delimiter ∈ delimiters) (hplain : IsPlain record) :
    IsOneLine (plainLine delimiter record) := by
  have houtside {c : Char} (hknown : c ∉ delimiters) (hspecial : isPlainChar c = false) :
      c ∉ plainLine delimiter record := by
    intro hmem
    rcases mem_plainLine hplain hmem with rfl | hc
    · exact hknown hdelimiter
    · rw [hspecial] at hc
      cases hc
  exact ⟨houtside (by decide) (by decide), houtside (by decide) (by decide)⟩

theorem quote_notMem_plainLine (hdelimiter : delimiter ∈ delimiters) (hplain : IsPlain record) :
    '"' ∉ plainLine delimiter record := by
  intro hmem
  rcases mem_plainLine hplain hmem with rfl | hc
  · exact absurd hdelimiter (by decide)
  · exact absurd hc (by decide)

theorem hasOnlyDelimiter_plainLine (hdelimiter : delimiter ∈ delimiters) (hplain : IsPlain record)
    (hrecord : 2 ≤ record.length) : HasOnlyDelimiter (plainLine delimiter record) delimiter := by
  refine ⟨hdelimiter, delimiter_mem_plainLine hrecord, ?_⟩
  intro other hother hmem
  rcases mem_plainLine hplain hmem with hsame | hc
  · exact hsame
  · simp [isPlainChar, hother] at hc

theorem writes_plainLine (hdelimiter : delimiter ∈ delimiters) (hplain : IsPlain record)
    (htext : HasText record) :
    (Dialect.mk delimiter '"').Writes (plainLine delimiter record) record := by
  refine ⟨plainLine_ne_nil htext, record.map String.toList, ?_, rfl⟩
  rw [List.forall₂_same]
  intro spelling hspelling
  obtain ⟨field, hfield, rfl⟩ := List.mem_map.mp hspelling
  apply Dialect.Spells.plain
  · intro c hc
    have hkind : (c ∉ delimiters ∧ c ≠ '"') ∧ endsRecord c = false := by
      simpa [isPlainChar] using hplain.of_mem hfield hc
    refine ⟨?_, hkind.2⟩
    rintro rfl
    exact hkind.1.1 hdelimiter
  · intro hopen
    have hquote : isPlainChar '"' = true := hplain.of_mem hfield (List.mem_of_head? hopen)
    exact absurd hquote (by decide)

/-! ## Apostrophes that open a field -/

def opensField (field : String) : Bool :=
  field.toList.head? == some '\''

theorem apostropheAfterDelimiter_cons (c : Char) (rest : List Char) :
    apostropheAfterDelimiter (c :: rest) =
      (delimiters.contains c && rest.head? == some '\'' || apostropheAfterDelimiter rest) := by
  cases rest with
  | nil => simp [apostropheAfterDelimiter]
  | cons next more =>
      by_cases hnext : next = '\''
      · subst hnext
        simp [apostropheAfterDelimiter]
      · simp [apostropheAfterDelimiter, hnext]

theorem apostropheAfterDelimiter_append {field : List Char} (hfield : ∀ c ∈ field, c ∉ delimiters)
    (rest : List Char) :
    apostropheAfterDelimiter (field ++ rest) = apostropheAfterDelimiter rest := by
  induction field with
  | nil => rfl
  | cons c more ih =>
      have hc : delimiters.contains c = false := by
        simpa using hfield c List.mem_cons_self
      rw [List.cons_append, apostropheAfterDelimiter_cons, hc,
        ih fun other hother => hfield other (List.mem_cons_of_mem c hother)]
      rfl

/-- Only a field of the line can open with an apostrophe: no delimiter stands inside a field. -/
theorem opensWithApostrophe_plainLine (hdelimiter : delimiter ∈ delimiters)
    (hplain : IsPlain record) :
    opensWithApostrophe (plainLine delimiter record) = record.any opensField := by
  induction record with
  | nil => rfl
  | cons field others ih =>
      have hinside : ∀ c ∈ field.toList, c ∉ delimiters := by
        intro c hc hmem
        have hplainChar := hplain.of_mem List.mem_cons_self hc
        simp [isPlainChar, hmem] at hplainChar
      cases others with
      | nil =>
          have hafter := apostropheAfterDelimiter_append hinside []
          rw [List.append_nil] at hafter
          rw [plainLine_singleton, opensWithApostrophe, hafter]
          simp [opensField, apostropheAfterDelimiter]
      | cons next more =>
          -- The delimiter behind the field decides about the next one; it is no apostrophe itself.
          have hmore := ih fun other hother => hplain other (List.mem_cons_of_mem field hother)
          have hquote : delimiter ≠ '\'' := by
            rintro rfl
            exact absurd hdelimiter (by decide)
          have hafter := apostropheAfterDelimiter_append hinside
            (delimiter :: plainLine delimiter (next :: more))
          have hhead : ((field.toList ++ delimiter :: plainLine delimiter (next :: more)).head? ==
              some '\'') = opensField field := by
            unfold opensField
            cases field.toList with
            | nil => simp [hquote]
            | cons c rest => simp
          rw [plainLine_cons_cons, List.any_cons, ← hmore, opensWithApostrophe, hhead, hafter,
            apostropheAfterDelimiter_cons]
          simp [hdelimiter, opensWithApostrophe]

/-! ## Tables -/

structure PlainTable where
  delimiter : Char
  header : Record
  rows : List Record
  lineEnd : LineEnd
  /-- Whether the last line has an end as well. -/
  closed : Bool
  delimiter_mem : delimiter ∈ delimiters
  isPlain : ∀ record ∈ header :: rows, IsPlain record

namespace PlainTable

variable (table : PlainTable)

def lines : List (List Char) :=
  (table.header :: table.rows).map (plainLine table.delimiter)

def text : String :=
  String.ofList (table.lineEnd.join table.closed table.lines)

/-- The header as it is read: a byte order mark at the start of the text is dropped. -/
def headerRead : Record :=
  match table.header with
  | [] => []
  | name :: others => String.ofList (Dialect.withoutMark name.toList) :: others

/-- Every line has something on it, and the header has at least two names. -/
structure IsFilled : Prop where
  header_length : 2 ≤ table.header.length
  header_text : HasText table.headerRead
  rows_text : ∀ row ∈ table.rows, HasText row

/-- The records on the lines from which the dialect is guessed. -/
def sample : List Record :=
  (table.header :: table.rows).take sampleSize

/-- The first lines look as if apostrophes quoted their fields: some field in them opens with an
apostrophe, and the delimiter stands equally often, and at least once, outside apostrophes on each
of them. -/
structure PassesForApostropheQuoted : Prop where
  opens : ∃ record ∈ table.sample, ∃ field ∈ record, opensField field = true
  evenly : ∃ count, count ≠ 0 ∧ ∀ record ∈ table.sample,
    countUnquoted table.delimiter '\'' false (plainLine table.delimiter record) = count

end PlainTable

/-! ## The header as it is read -/

theorem Dialect.withoutMark_of_unmarked {text : List Char} (htext : text.head? ≠ some '\uFEFF') :
    withoutMark text = text := by
  rw [withoutMark]
  rintro more rfl
  exact htext rfl

theorem Dialect.withoutMark_append (chars : List Char) {rest : List Char}
    (hrest : rest.head? ≠ some '\uFEFF') :
    withoutMark (chars ++ rest) = withoutMark chars ++ rest := by
  cases chars with
  | nil => exact withoutMark_of_unmarked hrest
  | cons c more =>
      by_cases hc : c = '\uFEFF'
      · subst hc
        rfl
      · rw [List.cons_append, withoutMark_of_unmarked (by simpa using hc),
          withoutMark_of_unmarked (by simpa using hc), List.cons_append]

theorem Dialect.mem_of_mem_withoutMark {c : Char} {text : List Char} (hc : c ∈ withoutMark text) :
    c ∈ text := by
  rw [withoutMark.eq_def] at hc
  split at hc
  · exact List.mem_cons_of_mem _ hc
  · exact hc

namespace PlainTable

variable {table : PlainTable}

theorem exists_mem_header {field : String} (hfield : field ∈ table.headerRead) :
    ∃ name ∈ table.header, ∀ c ∈ field.toList, c ∈ name.toList := by
  unfold headerRead at hfield
  cases hheader : table.header with
  | nil =>
      rw [hheader] at hfield
      cases hfield
  | cons name others =>
      rw [hheader] at hfield
      rcases List.mem_cons.mp hfield with rfl | hmore
      · refine ⟨name, List.mem_cons_self, ?_⟩
        rw [String.toList_ofList]
        exact fun _ => Dialect.mem_of_mem_withoutMark
      · exact ⟨field, List.mem_cons_of_mem name hmore, fun _ hc => hc⟩

theorem hasText_header (hfilled : table.IsFilled) : HasText table.header := by
  obtain ⟨field, hfield, hblank⟩ := hfilled.header_text
  obtain ⟨name, hname, hchars⟩ := exists_mem_header hfield
  refine ⟨name, hname, ?_⟩
  rw [isAllBlank, List.all_eq_false] at hblank ⊢
  obtain ⟨c, hc, hvisible⟩ := hblank
  exact ⟨c, hchars c hc, hvisible⟩

theorem isPlain_headerRead (table : PlainTable) : IsPlain table.headerRead := by
  intro field hfield
  obtain ⟨name, hname, hchars⟩ := exists_mem_header hfield
  rw [List.all_eq_true]
  intro c hc
  exact (table.isPlain table.header List.mem_cons_self).of_mem hname (hchars c hc)

theorem hasText_of_mem (hfilled : table.IsFilled) {record : Record}
    (hrecord : record ∈ table.header :: table.rows) : HasText record := by
  rcases List.mem_cons.mp hrecord with rfl | hrow
  · exact hasText_header hfilled
  · exact hfilled.rows_text record hrow

/-! ## The dialect -/

theorem lines_text (hfilled : table.IsFilled) :
    Text.lines table.text.toList = table.lines := by
  unfold text
  rw [String.toList_ofList]
  apply lines_join
  · intro line hline
    obtain ⟨record, hrecord, rfl⟩ := List.mem_map.mp hline
    exact isOneLine_plainLine table.delimiter_mem (table.isPlain record hrecord)
  · intro line hline
    obtain ⟨record, hrecord, rfl⟩ := List.mem_map.mp hline
    exact plainLine_ne_nil (hasText_of_mem hfilled hrecord)
  · simp [lines]

theorem sampleLines_text (hfilled : table.IsFilled) :
    sampleLines table.text.toList = table.sample.map (plainLine table.delimiter) := by
  unfold sampleLines sample
  rw [lines_text hfilled, lines, ← List.map_take, List.filter_eq_self]
  intro line hline
  obtain ⟨record, hrecord, rfl⟩ := List.mem_map.mp hline
  simp [isAllBlank_plainLine (hasText_of_mem hfilled (List.mem_of_mem_take hrecord))]

theorem sampleQuote_text (hfilled : table.IsFilled) :
    sampleQuote (sampleLines table.text.toList) = '\'' ↔
      ∃ record ∈ table.sample, ∃ field ∈ record, opensField field = true := by
  have hplain {record : Record} (hrecord : record ∈ table.sample) : IsPlain record :=
    table.isPlain record (List.mem_of_mem_take hrecord)
  have hdouble : (table.sample.map (plainLine table.delimiter)).any (·.contains '"') = false := by
    rw [List.any_eq_false]
    intro line hline
    obtain ⟨record, hrecord, rfl⟩ := List.mem_map.mp hline
    simp [quote_notMem_plainLine table.delimiter_mem (hplain hrecord)]
  have hopens :
      (table.sample.map (plainLine table.delimiter)).any opensWithApostrophe = true ↔
        ∃ record ∈ table.sample, ∃ field ∈ record, opensField field = true := by
    simp only [List.any_map, List.any_eq_true, Function.comp_apply]
    apply exists_congr
    intro record
    apply and_congr_right
    intro hrecord
    rw [opensWithApostrophe_plainLine table.delimiter_mem (hplain hrecord), List.any_eq_true]
  rw [sampleLines_text hfilled, sampleQuote, hdouble, ← hopens]
  cases (table.sample.map (plainLine table.delimiter)).any opensWithApostrophe <;> simp

theorem passesForApostropheQuoted_iff (hfilled : table.IsFilled) :
    table.PassesForApostropheQuoted ↔
      sampleQuote (sampleLines table.text.toList) = '\'' ∧
        (commonCount table.delimiter '\'' (sampleLines table.text.toList)).isSome = true := by
  have hsample : table.sample ≠ [] := by simp [sample, sampleSize]
  rw [sampleQuote_text hfilled, commonCount_isSome_iff, sampleLines_text hfilled]
  simp only [ne_eq, List.map_eq_nil_iff, hsample, not_false_eq_true, true_and, List.forall_mem_map]
  exact ⟨fun hpasses => ⟨hpasses.opens, hpasses.evenly⟩, fun ⟨hopens, hevenly⟩ => ⟨hopens, hevenly⟩⟩

theorem detect_text (hfilled : table.IsFilled) :
    Dialect.detect table.text.toList =
      if sampleQuote (sampleLines table.text.toList) = '\'' ∧
          (commonCount table.delimiter '\'' (sampleLines table.text.toList)).isSome = true
      then ⟨table.delimiter, '\''⟩ else ⟨table.delimiter, '"'⟩ := by
  have hplain := table.isPlain table.header List.mem_cons_self
  exact Dialect.detect_of_onlyDelimiter (lines_text hfilled)
    (isAllBlank_plainLine (hasText_header hfilled))
    (hasOnlyDelimiter_plainLine table.delimiter_mem hplain hfilled.header_length)

theorem detect_of_passes (hfilled : table.IsFilled) (hpasses : table.PassesForApostropheQuoted) :
    Dialect.detect table.text.toList = ⟨table.delimiter, '\''⟩ := by
  rw [detect_text hfilled, if_pos ((passesForApostropheQuoted_iff hfilled).mp hpasses)]

theorem detect_of_not_passes (hfilled : table.IsFilled)
    (hpasses : ¬ table.PassesForApostropheQuoted) :
    Dialect.detect table.text.toList = ⟨table.delimiter, '"'⟩ := by
  rw [detect_text hfilled, if_neg fun hboth =>
    hpasses ((passesForApostropheQuoted_iff hfilled).mpr hboth)]

/-! ## The records -/

theorem withoutMark_text (hfilled : table.IsFilled) :
    Dialect.withoutMark table.text.toList = table.lineEnd.join table.closed
      ((table.headerRead :: table.rows).map (plainLine table.delimiter)) := by
  have hmark : table.delimiter ≠ '\uFEFF' := by
    intro hsame
    exact absurd (hsame ▸ table.delimiter_mem) (by decide)
  -- A delimiter is behind the first name, so the mark is inside that name or nowhere.
  obtain ⟨name, next, others, hheader⟩ :
      ∃ name next others, table.header = name :: next :: others := by
    match htable : table.header, hfilled.header_length with
    | name :: next :: others, _ => exact ⟨name, next, others, rfl⟩
  obtain ⟨rest, hrest⟩ := table.lineEnd.exists_join_cons table.closed
    (table.rows.map (plainLine table.delimiter))
  unfold text lines headerRead
  rw [String.toList_ofList, hheader, List.map_cons, List.map_cons, hrest, hrest,
    plainLine_cons_cons, plainLine_cons_cons, String.toList_ofList, List.append_assoc,
    List.append_assoc, List.cons_append]
  exact Dialect.withoutMark_append name.toList (by simpa using hmark)

/-- Read with either quote, the text gives the records that its lines write with that quote. -/
theorem records_of_writes (hfilled : table.IsFilled) {quote : Char} (hquote : quote ∈ quotes)
    {records : List Record}
    (hwrites : List.Forall₂ (Dialect.mk table.delimiter quote).Writes
      ((table.headerRead :: table.rows).map (plainLine table.delimiter)) records) :
    (Dialect.mk table.delimiter quote).records table.text.toList = records := by
  unfold Dialect.records
  rw [withoutMark_text hfilled]
  exact Dialect.recordsFrom_join hwrites (Dialect.isProper_of_mem table.delimiter_mem hquote)
    (by simp) table.lineEnd table.closed

/-- With the double quote, the lines of a plain table write its fields as they are. -/
theorem forall₂_writes (hfilled : table.IsFilled) :
    List.Forall₂ (Dialect.mk table.delimiter '"').Writes
      ((table.headerRead :: table.rows).map (plainLine table.delimiter))
      (table.headerRead :: table.rows) := by
  rw [List.forall₂_map_left_iff, List.forall₂_same]
  intro record hrecord
  rcases List.mem_cons.mp hrecord with rfl | hrow
  · exact writes_plainLine table.delimiter_mem table.isPlain_headerRead hfilled.header_text
  · exact writes_plainLine table.delimiter_mem
      (table.isPlain record (List.mem_cons_of_mem _ hrow)) (hfilled.rows_text record hrow)

end PlainTable

end PostalRegions.Delimited
