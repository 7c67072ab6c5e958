import PostalRegions.Proofs.Delimited.PlainTables
import PostalRegions.Proofs.Source.VersionColumns

/-!
# Empty lines in front of a sheet

Empty lines are no records, but they are among the lines from which the dialect is guessed.  They
take the place of lines that would be sampled, and the first of them is the line that decides when
the sample does not.  A sheet behind empty lines is therefore read with commas unless what is left
of the sample suggests a dialect.
-/

namespace PostalRegions

open Delimited Text

/-! ## The dialect behind empty lines -/

namespace Delimited

namespace Dialect

/-- The lines of a text that are sampled when so many empty lines are in front of it. -/
def sampleBehind (count : Nat) (text : List Char) : List (List Char) :=
  ((Text.lines text).take (sampleSize - count)).filter fun line => !isAllBlank line

/-- The dialect in which a text is read when so many empty lines, but at least one, are in front of
it. -/
def behind (count : Nat) (text : List Char) : Dialect :=
  (ofSample (sampleBehind count text)).getD ⟨',', '"'⟩

variable {ends : List LineEnd}

theorem sampleLines_emptyLines_append (ends : List LineEnd) (text : List Char) :
    sampleLines (emptyLines ends ++ text) = sampleBehind ends.length text := by
  have hempty (count : Nat) :
      (List.replicate count ([] : List Char)).filter (fun line => !isAllBlank line) = [] := by
    rw [List.filter_eq_nil_iff]
    intro line hline
    rw [List.eq_of_mem_replicate hline]
    decide
  rw [sampleLines, lines_emptyLines_append, List.take_append, List.length_replicate,
    List.take_replicate, List.filter_append, hempty, List.nil_append, sampleBehind]

theorem ofFirstLine_emptyLines_append (hends : ends ≠ []) (text : List Char) :
    ofFirstLine (emptyLines ends ++ text) = ⟨',', '"'⟩ := by
  unfold ofFirstLine
  rw [lines_emptyLines_append]
  cases ends with
  | nil => exact absurd rfl hends
  | cons lineEnd more => rfl

theorem detect_emptyLines_append (hends : ends ≠ []) (text : List Char) :
    detect (emptyLines ends ++ text) = behind ends.length text := by
  rw [detect, sniff_eq_ofSample, sampleLines_emptyLines_append,
    ofFirstLine_emptyLines_append hends, behind]

/-- A byte order mark is dropped at the start of a text only. -/
theorem withoutMark_emptyLines_append (hends : ends ≠ []) (text : List Char) :
    withoutMark (emptyLines ends ++ text) = emptyLines ends ++ text := by
  cases ends with
  | nil => exact absurd rfl hends
  | cons lineEnd more =>
      rw [emptyLines_cons_append]
      cases lineEnd <;> rfl

end Dialect

/-- The table in a text of known dialect.  A byte order mark belongs to the first name. -/
def Sheet.readIn (dialect : Dialect) (text : List Char) : Sheet :=
  match dialect.recordsFrom .recordStart [] [] text with
  | [] => ⟨[], []⟩
  | header :: rows => ⟨header, rows⟩

theorem Sheet.read_eq_readIn (text : List Char) :
    Sheet.read (String.ofList text) =
      Sheet.readIn (Dialect.detect text) (Dialect.withoutMark text) := by
  rw [Sheet.read, String.toList_ofList]
  rfl

theorem Sheet.read_emptyLines_append {ends : List LineEnd} (hends : ends ≠ [])
    (text : List Char) :
    Sheet.read (String.ofList (emptyLines ends ++ text)) =
      Sheet.readIn (Dialect.behind ends.length text) text := by
  rw [Sheet.read_eq_readIn, Dialect.detect_emptyLines_append hends,
    Dialect.withoutMark_emptyLines_append hends, Sheet.readIn, Dialect.recordsFrom_emptyLines]
  rfl

/-! ## Plain headers -/

/-- On the first line of a text is a header of at least two names that needs no quotes.  No line of
the text has a field that opens with an apostrophe, and no byte order mark is in front. -/
structure HasPlainHeader (text : List Char) (delimiter : Char) (header : Record) : Prop where
  delimiter_mem : delimiter ∈ delimiters
  first_line : (Text.lines text).head? = some (plainLine delimiter header)
  isPlain : IsPlain header
  two_le_length : 2 ≤ header.length
  hasText : HasText header
  unopened : ∀ line ∈ Text.lines text, opensWithApostrophe line = false
  unmarked : text.head? ≠ some '\uFEFF'

/-- A delimiter is found behind so many empty lines: it is the comma, or it stands equally often,
and at least once, on each of the lines that are still sampled. -/
def FoundBehind (count : Nat) (text : List Char) (delimiter : Char) : Prop :=
  delimiter = ',' ∨
    (commonCount delimiter '"' (Dialect.sampleBehind count text)).isSome = true

instance (count : Nat) (text : List Char) (delimiter : Char) :
    Decidable (FoundBehind count text delimiter) :=
  inferInstanceAs (Decidable (_ ∨ _))

theorem sampleQuote_of_unopened {lines : List (List Char)}
    (hlines : ∀ line ∈ lines, opensWithApostrophe line = false) : sampleQuote lines = '"' := by
  have hopens : lines.any opensWithApostrophe = false := by
    rw [List.any_eq_false]
    intro line hline
    rw [hlines line hline]
    decide
  rw [sampleQuote, hopens, Bool.and_false, if_neg (by decide)]

theorem Dialect.mem_lines_of_mem_sampleBehind {count : Nat} {text line : List Char}
    (hline : line ∈ sampleBehind count text) : line ∈ Text.lines text :=
  List.mem_of_mem_take (List.mem_of_mem_filter hline)

namespace HasPlainHeader

variable {text : List Char} {delimiter : Char} {header : Record}

theorem onlyDelimiter (hheader : HasPlainHeader text delimiter header) :
    HasOnlyDelimiter (plainLine delimiter header) delimiter :=
  hasOnlyDelimiter_plainLine hheader.delimiter_mem hheader.isPlain hheader.two_le_length

/-- The header is sampled first unless as many empty lines are in front as are sampled. -/
theorem sampleBehind_cases (hheader : HasPlainHeader text delimiter header) (count : Nat) :
    (sampleSize ≤ count ∧ Dialect.sampleBehind count text = []) ∨
      ∃ more, Dialect.sampleBehind count text = plainLine delimiter header :: more := by
  obtain ⟨others, hlines⟩ := List.head?_eq_some_iff.mp hheader.first_line
  have hblank : isAllBlank (plainLine delimiter header) = false :=
    isAllBlank_plainLine hheader.hasText
  unfold Dialect.sampleBehind
  rw [hlines]
  cases hsize : sampleSize - count with
  | zero => exact Or.inl ⟨Nat.sub_eq_zero_iff_le.mp hsize, rfl⟩
  | succ size =>
      rw [List.take_succ_cons, List.filter_cons_of_pos (by simp [hblank])]
      exact Or.inr ⟨_, rfl⟩

theorem sampleQuote_sampleBehind (hheader : HasPlainHeader text delimiter header) (count : Nat) :
    sampleQuote (Dialect.sampleBehind count text) = '"' :=
  sampleQuote_of_unopened fun line hline =>
    hheader.unopened line (Dialect.mem_lines_of_mem_sampleBehind hline)

theorem ofSample_sampleBehind (hheader : HasPlainHeader text delimiter header) (count : Nat) :
    Dialect.ofSample (Dialect.sampleBehind count text) =
      (commonCount delimiter '"' (Dialect.sampleBehind count text)).map fun _ =>
        ⟨delimiter, '"'⟩ := by
  have honly (first : List Char) (hfirst : (Dialect.sampleBehind count text).head? = some first) :
      HasOnlyDelimiter first delimiter := by
    rcases hheader.sampleBehind_cases count with ⟨-, hnone⟩ | ⟨more, hmore⟩
    · rw [hnone] at hfirst
      cases hfirst
    · rw [hmore] at hfirst
      cases hfirst
      exact hheader.onlyDelimiter
  rw [Dialect.ofSample_of_onlyDelimiter honly hheader.delimiter_mem,
    hheader.sampleQuote_sampleBehind count]

theorem detect_eq (hheader : HasPlainHeader text delimiter header) :
    Dialect.detect text = ⟨delimiter, '"'⟩ := by
  obtain ⟨others, hlines⟩ := List.head?_eq_some_iff.mp hheader.first_line
  have hquote : sampleQuote (sampleLines text) ≠ '\'' := by
    rw [show sampleQuote (sampleLines text) = '"' from hheader.sampleQuote_sampleBehind 0]
    decide
  rw [Dialect.detect_of_onlyDelimiter hlines (isAllBlank_plainLine hheader.hasText)
    hheader.onlyDelimiter, if_neg fun hboth => hquote hboth.1]

theorem behind_of_found (hheader : HasPlainHeader text delimiter header) {count : Nat}
    (hfound : FoundBehind count text delimiter) :
    Dialect.behind count text = ⟨delimiter, '"'⟩ := by
  rw [Dialect.behind, hheader.ofSample_sampleBehind]
  rcases hfound with rfl | heven
  · cases commonCount ',' '"' (Dialect.sampleBehind count text) <;> rfl
  · obtain ⟨common, hcommon⟩ := Option.isSome_iff_exists.mp heven
    rw [hcommon]
    rfl

theorem behind_of_not_found (hheader : HasPlainHeader text delimiter header) {count : Nat}
    (hlost : ¬ FoundBehind count text delimiter) : Dialect.behind count text = ⟨',', '"'⟩ := by
  have huneven : commonCount delimiter '"' (Dialect.sampleBehind count text) = none :=
    Option.not_isSome_iff_eq_none.mp fun heven => hlost (Or.inr heven)
  rw [Dialect.behind, hheader.ofSample_sampleBehind, huneven]
  rfl

/-- Even lines stay even when there are fewer of them. -/
theorem foundBehind_of_even (hheader : HasPlainHeader text delimiter header) {count : Nat}
    (hcount : count < sampleSize)
    (heven : (commonCount delimiter '"' (sampleLines text)).isSome = true) :
    FoundBehind count text delimiter := by
  obtain ⟨-, common, hpositive, hlines⟩ := commonCount_isSome_iff.mp heven
  refine Or.inr (commonCount_isSome_iff.mpr ⟨?_, common, hpositive, ?_⟩)
  · rcases hheader.sampleBehind_cases count with ⟨hall, -⟩ | ⟨more, hmore⟩
    · exact absurd hcount (Nat.not_lt.mpr hall)
    · rw [hmore]
      exact List.cons_ne_nil _ _
  · intro line hline
    obtain ⟨hsampled, hvisible⟩ := List.mem_filter.mp hline
    have hmem := List.take_subset_take_left (Text.lines text) (Nat.sub_le sampleSize count) hsampled
    exact hlines line (List.mem_filter.mpr ⟨hmem, hvisible⟩)

/-- Whatever record the first line holds in a dialect is the header in that dialect. -/
theorem header_readIn (hheader : HasPlainHeader text delimiter header) {dialect : Dialect}
    {record : Record} (hwrites : dialect.Writes (plainLine delimiter header) record)
    (hproper : dialect.IsProper) : (Sheet.readIn dialect text).header = record := by
  obtain ⟨others, hlines⟩ := List.head?_eq_some_iff.mp hheader.first_line
  obtain ⟨behind, htext, hbehind⟩ := exists_append_of_linesFrom hlines
  obtain ⟨stop, hquoted, hstarted, hfinish, hreads⟩ := hwrites.reads hproper
  obtain ⟨rows, hrecords⟩ :
      ∃ rows, dialect.recordsFrom .recordStart [] [] text = record :: rows := by
    rw [List.reverse_nil, List.nil_append] at htext
    rw [htext, hreads]
    rcases hbehind with rfl | ⟨lineEnd, rest, rfl⟩
    · exact ⟨[], by rw [Dialect.recordsFrom_nil hstarted, hfinish]⟩
    · exact ⟨_, by rw [Dialect.recordsFrom_lineEnd hproper hquoted hstarted, hfinish]⟩
  rw [Sheet.readIn, hrecords]

/-- In a dialect with another delimiter the whole line is one name. -/
theorem writes_whole (hheader : HasPlainHeader text delimiter header) {other : Char}
    (hknown : other ∈ delimiters) (hother : other ≠ delimiter) :
    (Dialect.mk other '"').Writes (plainLine delimiter header)
      [String.ofList (plainLine delimiter header)] := by
  have hline := isOneLine_plainLine hheader.delimiter_mem hheader.isPlain
  have hquote := quote_notMem_plainLine hheader.delimiter_mem hheader.isPlain
  refine ⟨plainLine_ne_nil hheader.hasText, [plainLine delimiter header], ?_, ?_⟩
  · rw [List.map_singleton, String.toList_ofList]
    refine .cons (Dialect.Spells.plain ?_ ?_) .nil
    · intro c hc
      refine ⟨?_, ?_⟩
      · rintro rfl
        exact hother (hheader.onlyDelimiter.only _ hknown hc)
      · have hfeed : c ≠ '\n' := fun hsame => hline.2 (hsame ▸ hc)
        have hreturn : c ≠ '\r' := fun hsame => hline.1 (hsame ▸ hc)
        simp [endsRecord, hfeed, hreturn]
    · exact fun hopen => hquote (List.mem_of_head? hopen)
  · rw [List.intercalate_singleton]

end HasPlainHeader

end Delimited

/-! ## Sheets of one column -/

/-- No name stands for a postal column and for a region column. -/
theorem postalColumnNames_disjoint (version : String) :
    postalColumnNames.Disjoint (regionColumnNames version) := by
  intro name hpostal hregion
  have hopen : name.toList.head? ≠ some 'N' := by
    simp only [postalColumnNames, List.mem_cons, List.not_mem_nil, or_false] at hpostal
    rcases hpostal with rfl | rfl | rfl | rfl | rfl <;> decide
  apply hopen
  simp only [regionColumnNames, List.mem_cons, List.not_mem_nil, or_false] at hregion
  rcases hregion with rfl | rfl | rfl | rfl
  · rw [String.toList_append]
    rfl
  · rfl
  · rfl
  · rfl

namespace RegionColumns

theorem resolve_singleton (name version : String) :
    resolve [name] version = .error (.missingColumns [name]) := by
  unfold resolve
  split
  · rename_i postal region hpostal hregion
    obtain ⟨postalName, hpostalMem, hpostalName⟩ := exists_candidate_of_findColumn? hpostal
    obtain ⟨regionName, hregionMem, hregionName⟩ := exists_candidate_of_findColumn? hregion
    have hfirst := List.mem_singleton.mp (List.mem_of_getElem? hpostalName)
    have hsecond := List.mem_singleton.mp (List.mem_of_getElem? hregionName)
    subst hfirst hsecond
    exact absurd hregionMem (postalColumnNames_disjoint version hpostalMem)
  · rfl

theorem eq_missingColumns_of_resolve {names : List String} {version : String} {cause : SheetError}
    (hresolve : resolve names version = .error cause) : cause = .missingColumns names := by
  unfold resolve at hresolve
  split at hresolve
  · cases hresolve
  · cases hresolve
    rfl

end RegionColumns

namespace RegionSheet

theorem read_of_header_singleton {text name : String} (hheader : (Sheet.read text).header = [name])
    (version : String) (fileCountry : Option Country) :
    read text version fileCountry =
      .error (.missingColumns [Text.upper (Text.trim name)]) := by
  unfold read columnNames
  dsimp only
  rw [hheader, List.map_singleton, RegionColumns.resolve_singleton]

theorem columnNames_of_missingColumns {text version : String} {fileCountry : Option Country}
    {names : List String}
    (hread : read text version fileCountry = .error (.missingColumns names)) :
    columnNames (Sheet.read text) = names := by
  unfold read at hread
  dsimp only at hread
  split at hread
  · rename_i cause hresolve
    have hcause := RegionColumns.eq_missingColumns_of_resolve hresolve
    rw [hcause] at hread
    cases hread
    rfl
  · split at hread
    · cases hread
    · cases hread

/-! ## Sheets behind empty lines -/

variable {ends : List LineEnd} {text : List Char} {delimiter : Char} {header : Record}

theorem read_emptyLines_append_of_behind_eq (hends : ends ≠ [])
    (hunmarked : text.head? ≠ some '\uFEFF')
    (hdialect : Dialect.behind ends.length text = Dialect.detect text) (version : String)
    (fileCountry : Option Country) :
    read (String.ofList (emptyLines ends ++ text)) version fileCountry =
      read (String.ofList text) version fileCountry := by
  have hsheet : Sheet.read (String.ofList (emptyLines ends ++ text)) =
      Sheet.read (String.ofList text) := by
    rw [Sheet.read_emptyLines_append hends, hdialect, Sheet.read_eq_readIn,
      Dialect.withoutMark_of_unmarked hunmarked]
  unfold read
  rw [hsheet]

theorem header_read_of_plainHeader (hheader : HasPlainHeader text delimiter header) :
    (Sheet.read (String.ofList text)).header = header := by
  rw [Sheet.read_eq_readIn, Dialect.withoutMark_of_unmarked hheader.unmarked, hheader.detect_eq]
  exact hheader.header_readIn
    (writes_plainLine hheader.delimiter_mem hheader.isPlain hheader.hasText)
    (Dialect.isProper_of_mem hheader.delimiter_mem (by decide))

theorem read_emptyLines_append_of_found (hends : ends ≠ [])
    (hheader : HasPlainHeader text delimiter header)
    (hfound : FoundBehind ends.length text delimiter) (version : String)
    (fileCountry : Option Country) :
    read (String.ofList (emptyLines ends ++ text)) version fileCountry =
      read (String.ofList text) version fileCountry := by
  apply read_emptyLines_append_of_behind_eq hends hheader.unmarked
  rw [hheader.behind_of_found hfound, hheader.detect_eq]

/-- Up to nine empty lines do not matter in front of a plain header if the delimiter stands equally
often on all sampled lines. -/
theorem read_emptyLines_append_of_even (hends : ends.length < sampleSize)
    (hheader : HasPlainHeader text delimiter header)
    (heven : (commonCount delimiter '"' (sampleLines text)).isSome = true) (version : String)
    (fileCountry : Option Country) :
    read (String.ofList (emptyLines ends ++ text)) version fileCountry =
      read (String.ofList text) version fileCountry := by
  by_cases hnone : ends = []
  · subst hnone
    rfl
  · exact read_emptyLines_append_of_found hnone hheader (hheader.foundBehind_of_even hends heven)
      version fileCountry

/-- If the delimiter is not found, no columns are: the whole header is one name. -/
theorem read_emptyLines_append_of_not_found (hends : ends ≠ [])
    (hheader : HasPlainHeader text delimiter header)
    (hlost : ¬ FoundBehind ends.length text delimiter) (version : String)
    (fileCountry : Option Country) :
    read (String.ofList (emptyLines ends ++ text)) version fileCountry =
      .error (.missingColumns
        [Text.upper (Text.trim (String.ofList (plainLine delimiter header)))]) := by
  have hcomma : ',' ≠ delimiter := fun hsame => hlost (Or.inl hsame.symm)
  apply read_of_header_singleton
  rw [Sheet.read_emptyLines_append hends, hheader.behind_of_not_found hlost]
  exact hheader.header_readIn (hheader.writes_whole (by decide) hcomma)
    (Dialect.isProper_of_mem (by decide) (by decide))

/-- What empty lines in front of a text do.  The text is read in the dialect that is guessed behind
them; if that is the dialect of the text alone, the result is the same, whatever the version and the
country.  With a plain header it is the same exactly if the delimiter is found behind the empty
lines, and otherwise no columns are found. -/
theorem read_behind_emptyLines (hends : ends ≠ []) (text : List Char) (version : String)
    (fileCountry : Option Country) :
    Sheet.read (String.ofList (emptyLines ends ++ text)) =
        Sheet.readIn (Dialect.behind ends.length text) text ∧
      (text.head? ≠ some '\uFEFF' → Dialect.behind ends.length text = Dialect.detect text →
        read (String.ofList (emptyLines ends ++ text)) version fileCountry =
          read (String.ofList text) version fileCountry) ∧
      ∀ delimiter header, HasPlainHeader text delimiter header →
        (read (String.ofList (emptyLines ends ++ text)) version fileCountry =
            read (String.ofList text) version fileCountry ↔
          FoundBehind ends.length text delimiter) ∧
        (¬ FoundBehind ends.length text delimiter →
          read (String.ofList (emptyLines ends ++ text)) version fileCountry =
            .error (.missingColumns
              [Text.upper (Text.trim (String.ofList (plainLine delimiter header)))])) := by
  refine ⟨Sheet.read_emptyLines_append hends text, ?_, ?_⟩
  · intro hunmarked hdialect
    exact read_emptyLines_append_of_behind_eq hends hunmarked hdialect version fileCountry
  · intro delimiter header hheader
    have hrefused (hlost : ¬ FoundBehind ends.length text delimiter) :=
      read_emptyLines_append_of_not_found hends hheader hlost version fileCountry
    refine ⟨⟨?_, ?_⟩, hrefused⟩
    · intro hread
      by_contra hlost
      -- The text alone has the names of its header, of which there is more than one.
      rw [hrefused hlost] at hread
      have hlength := congrArg List.length (columnNames_of_missingColumns hread.symm)
      rw [columnNames, List.length_map, header_read_of_plainHeader hheader,
        List.length_singleton] at hlength
      have htwo := hheader.two_le_length
      omega
    · intro hfound
      exact read_emptyLines_append_of_found hends hheader hfound version fileCountry

end RegionSheet

/-- A sheet with a field too many on its only row. -/
def raggedSheet : List Char :=
  "CODE;NUTS3\n1010;AT130;extra\n".toList

theorem hasPlainHeader_raggedSheet : HasPlainHeader raggedSheet ';' ["CODE", "NUTS3"] where
  delimiter_mem := by decide
  first_line := by decide +kernel
  isPlain := by decide
  two_le_length := by decide
  hasText := ⟨"CODE", by decide, by decide⟩
  unopened := by decide +kernel
  unmarked := by decide

/-- One empty line in front is enough for it to be refused. -/
theorem raggedSheet_refused_behind_emptyLine :
    [LineEnd.feed] ≠ [] ∧
      RegionSheet.read (String.ofList raggedSheet) "2024" (some ⟨"AT", by decide⟩) =
        .ok ⟨[⟨⟨"AT", by decide⟩, "1010", ⟨"AT130", by decide⟩⟩], 0⟩ ∧
      RegionSheet.read (String.ofList (emptyLines [.feed] ++ raggedSheet)) "2024"
          (some ⟨"AT", by decide⟩) = .error (.missingColumns ["CODE;NUTS3"]) := by
  have hends : [LineEnd.feed] ≠ [] := by decide
  have hlost : ¬ FoundBehind [LineEnd.feed].length raggedSheet ';' := by decide +kernel
  have hrefused := ((RegionSheet.read_behind_emptyLines hends raggedSheet "2024"
    (some ⟨"AT", by decide⟩)).2.2 ';' ["CODE", "NUTS3"] hasPlainHeader_raggedSheet).2 hlost
  have hname : Text.upper (Text.trim (String.ofList (plainLine ';' ["CODE", "NUTS3"]))) =
      "CODE;NUTS3" := by decide +kernel
  rw [hname] at hrefused
  exact ⟨hends, by decide +kernel, hrefused⟩

end PostalRegions
