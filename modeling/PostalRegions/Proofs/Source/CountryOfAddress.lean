import Mathlib.Data.List.TakeWhile
import PostalRegions.Source.Address

/-!
# The country of an address

What the name of an archive begins with has no slash, question mark or number sign in it, so it
stands in one part of an address: in the host or a folder, in the name of the file, or behind it.
The country of an address is the first one that a part names.  The file decides alone exactly if the
first country named in front of it is its own, and none is named behind it unless it names one.
-/

namespace PostalRegions

/-- The characters that stand between the parts of an address. -/
def isPartEnd (c : Char) : Bool :=
  c == '/' || c == '?' || c == '#'

/-- A text with which the name of an archive for a country begins. -/
def IsArchiveLead (lead : List Char) (country : Country) : Prop :=
  ∃ year first second, lead = 'p' :: 'c' :: (year ++ ['_', first, second, '_']) ∧
    year.length = 4 ∧ (∀ c ∈ year, Text.isDecimalDigit c = true) ∧
    country.code = String.ofList [first, second]

theorem isPartEnd_eq_false {c : Char} (hc : Text.isDecimalDigit c = true ∨ c.isUpper = true) :
    isPartEnd c = false := by
  rw [← Bool.not_eq_true]
  intro hend
  have hcases : c = '/' ∨ c = '?' ∨ c = '#' := by
    simpa [isPartEnd, or_assoc] using hend
  rcases hcases with rfl | rfl | rfl <;> exact absurd hc (by decide)

theorem isUpper_of_code_eq {country : Country} {first second : Char}
    (hcode : country.code = String.ofList [first, second]) :
    first.isUpper = true ∧ second.isUpper = true := by
  simpa [hcode] using country.wellFormed.2

theorem IsArchiveLead.isPartEnd_of_mem {lead : List Char} {country : Country}
    (hlead : IsArchiveLead lead country) {c : Char} (hc : c ∈ lead) : isPartEnd c = false := by
  obtain ⟨year, first, second, rfl, -, hyear, hcode⟩ := hlead
  obtain ⟨hfirst, hsecond⟩ := isUpper_of_code_eq hcode
  have hcases : c = 'p' ∨ c = 'c' ∨ c ∈ year ∨ c = '_' ∨ c = first ∨ c = second := by
    simpa [or_comm, or_left_comm, or_assoc] using hc
  rcases hcases with rfl | rfl | hdigit | rfl | rfl | rfl
  · rfl
  · rfl
  · exact isPartEnd_eq_false (Or.inl (hyear c hdigit))
  · rfl
  · exact isPartEnd_eq_false (Or.inr hfirst)
  · exact isPartEnd_eq_false (Or.inr hsecond)

theorem countryAt?_eq_some_iff {text : List Char} {country : Country} :
    countryAt? text = some country ↔ ∃ lead rest, text = lead ++ rest ∧
      IsArchiveLead lead country := by
  constructor
  · intro hcountry
    unfold countryAt? at hcountry
    split at hcountry
    · rename_i y1 y2 y3 y4 first second rest
      split at hcountry
      · rename_i hclasses
        refine ⟨_, rest, rfl, [y1, y2, y3, y4], first, second, rfl, rfl, ?_, ?_⟩
        · intro c hc
          simp only [Bool.and_eq_true, List.all_eq_true] at hclasses
          exact hclasses.1.1 c hc
        · cases hparse : Country.parse (String.ofList [first, second]) with
          | error cause =>
              rw [hparse] at hcountry
              cases hcountry
          | ok parsed =>
              rw [hparse] at hcountry
              cases hcountry
              exact Country.parse_eq_ok_iff.mp hparse
      · cases hcountry
    · cases hcountry
  · rintro ⟨lead, rest, rfl, year, first, second, rfl, hlength, hyear, hcode⟩
    obtain ⟨y1, y2, y3, y4, rfl⟩ : ∃ y1 y2 y3 y4, year = [y1, y2, y3, y4] := by
      match year, hlength with
      | [y1, y2, y3, y4], _ => exact ⟨y1, y2, y3, y4, rfl⟩
    have hletters := isUpper_of_code_eq hcode
    have hdigits : [y1, y2, y3, y4].all Text.isDecimalDigit = true := List.all_eq_true.mpr hyear
    have hparse := Country.parse_eq_ok_iff.mpr hcode
    simp only [List.cons_append, List.nil_append, countryAt?]
    rw [if_pos (by simp [hdigits, hletters]), hparse]
    rfl

/-- Behind the end of a part nothing belongs to a name that begins in front of it. -/
theorem countryAt?_append {c : Char} (hc : isPartEnd c = true) (front back : List Char) :
    countryAt? (front ++ c :: back) = countryAt? front := by
  apply Option.ext
  intro country
  rw [countryAt?_eq_some_iff, countryAt?_eq_some_iff]
  constructor
  · rintro ⟨lead, rest, htext, hlead⟩
    have habsent : c ∉ lead := by
      intro hmem
      rw [hlead.isPartEnd_of_mem hmem] at hc
      cases hc
    rcases List.append_eq_append_iff.mp htext with ⟨more, rfl, hrest⟩ | ⟨more, rfl, -⟩
    · cases more with
      | nil => exact ⟨front, [], by simp, by simpa using hlead⟩
      | cons d more =>
          cases hrest
          simp at habsent
    · exact ⟨lead, more, rfl, hlead⟩
  · rintro ⟨lead, rest, rfl, hlead⟩
    exact ⟨lead, rest ++ c :: back, by simp, hlead⟩

/-- The parts of a text are searched one after the other. -/
theorem firstNamed?_append {c : Char} (hc : isPartEnd c = true) (front back : List Char) :
    firstNamed? (front ++ c :: back) = (firstNamed? front).or (firstNamed? back) := by
  induction front with
  | nil =>
      have hnone : countryAt? (c :: back) = none := countryAt?_append hc [] back
      simp [firstNamed?, hnone]
  | cons d front ih =>
      have hsame := countryAt?_append hc (d :: front) back
      rw [List.cons_append] at hsame ⊢
      rw [firstNamed?, firstNamed?, hsame, ih]
      cases countryAt? (d :: front) <;> rfl

/-! ## The parts of an address -/

/-- An address with the name of a file in it.  The host is in front of it, with the folders. -/
structure HasParts (address : String) (front name behind : List Char) : Prop where
  address_eq : address.toList = front ++ name ++ behind
  front_end : front = [] ∨ ∃ folders, front = folders ++ ['/']
  front_path : ∀ c ∈ front, c ≠ '?' ∧ c ≠ '#'
  name_part : ∀ c ∈ name, isPartEnd c = false
  behind_start : behind = [] ∨ ∃ c query, behind = c :: query ∧ (c = '?' ∨ c = '#')

theorem exists_folders (path : List Char) :
    ∃ front, path = front ++ (path.reverse.takeWhile (· != '/')).reverse ∧
      (front = [] ∨ ∃ folders, front = folders ++ ['/']) := by
  refine ⟨(path.reverse.dropWhile (· != '/')).reverse, ?_, ?_⟩
  · rw [← List.reverse_append, List.takeWhile_append_dropWhile, List.reverse_reverse]
  · cases hfront : path.reverse.dropWhile (· != '/') with
    | nil => exact Or.inl rfl
    | cons c rest =>
        have hslash := List.head?_dropWhile_not (· != '/') path.reverse
        rw [hfront] at hslash
        have hc : c = '/' := by simpa using hslash
        exact Or.inr ⟨rest.reverse, by simp [hc]⟩

theorem exists_behind (address : List Char) :
    ∃ behind, address = addressPath address ++ behind ∧
      (behind = [] ∨ ∃ c query, behind = c :: query ∧ (c = '?' ∨ c = '#')) := by
  let inPath (c : Char) : Bool := c != '?' && c != '#'
  refine ⟨address.dropWhile inPath, List.takeWhile_append_dropWhile.symm, ?_⟩
  cases hbehind : address.dropWhile inPath with
  | nil => exact Or.inl rfl
  | cons c query =>
      have hstart := List.head?_dropWhile_not inPath address
      rw [hbehind] at hstart
      have hout : inPath c = false := by simpa using hstart
      exact Or.inr ⟨c, query, rfl, by simpa [inPath, ← Classical.or_iff_not_imp_left] using hout⟩

theorem toList_of_archiveName? {address name : String} (hname : archiveName? address = some name) :
    name.toList = ((addressPath address.toList).reverse.takeWhile (· != '/')).reverse := by
  unfold archiveName? at hname
  dsimp only at hname
  split at hname
  · cases hname
  · cases hname
    exact String.toList_ofList

theorem exists_parts {address name : String} (hname : archiveName? address = some name) :
    ∃ front behind, HasParts address front name.toList behind := by
  obtain ⟨behind, hwhole, hbehind⟩ := exists_behind address.toList
  obtain ⟨front, hpath, hfront⟩ := exists_folders (addressPath address.toList)
  have hname := toList_of_archiveName? hname
  rw [← hname] at hpath
  have hmarks : ∀ c ∈ front ++ name.toList, c ≠ '?' ∧ c ≠ '#' := by
    rw [← hpath]
    intro c hc
    simpa using List.mem_takeWhile_imp hc
  refine ⟨front, behind, ?_, hfront, ?_, ?_, hbehind⟩
  · rw [← hpath]
    exact hwhole
  · intro c hc
    exact hmarks c (List.mem_append_left _ hc)
  · intro c hc
    have hmark := hmarks c (List.mem_append_right _ hc)
    rw [hname] at hc
    have hslash : c ≠ '/' := by
      simpa using List.mem_takeWhile_imp (List.mem_reverse.mp hc)
    simp [isPartEnd, hslash, hmark]

theorem HasParts.countryOfArchive?_eq {address : String} {front name behind : List Char}
    (hparts : HasParts address front name behind) :
    countryOfArchive? address =
      ((firstNamed? front).or (firstNamed? name)).or (firstNamed? behind) := by
  have hempty : firstNamed? [] = none := rfl
  have hfile : firstNamed? (name ++ behind) = (firstNamed? name).or (firstNamed? behind) := by
    rcases hparts.behind_start with rfl | ⟨c, query, rfl, hc⟩
    · simp [hempty]
    · have hend : isPartEnd c = true := by
        rcases hc with rfl | rfl <;> rfl
      have hquery : firstNamed? (c :: query) = firstNamed? query := by
        simpa [hempty] using firstNamed?_append hend [] query
      rw [firstNamed?_append hend, hquery]
  have hwhole : firstNamed? (front ++ (name ++ behind)) =
      (firstNamed? front).or (firstNamed? (name ++ behind)) := by
    rcases hparts.front_end with rfl | ⟨folders, rfl⟩
    · simp [hempty]
    · have hfolders : firstNamed? (folders ++ ['/']) = firstNamed? folders := by
        simpa [hempty] using firstNamed?_append (c := '/') rfl folders []
      rw [hfolders, List.append_assoc, List.singleton_append]
      exact firstNamed?_append rfl folders _
  rw [countryOfArchive?, hparts.address_eq, List.append_assoc, hwhole, hfile, Option.or_assoc]

/-- The country of an address is the first one that a part of it names: a part in front of the
file, the file, or one behind it.  It is the country of the file exactly if the first country named
in front of the file is the file's, and none is named behind a file that names none. -/
theorem countryOfArchive?_eq_archiveName_iff {address name : String}
    (hname : archiveName? address = some name) :
    ∃ front behind, HasParts address front name.toList behind ∧
      countryOfArchive? address =
        ((firstNamed? front).or (countryOfArchive? name)).or (firstNamed? behind) ∧
      (countryOfArchive? address = countryOfArchive? name ↔
        (∀ country, firstNamed? front = some country → countryOfArchive? name = some country) ∧
          (countryOfArchive? name = none → firstNamed? behind = none)) := by
  obtain ⟨front, behind, hparts⟩ := exists_parts hname
  have hcountry : countryOfArchive? address =
      ((firstNamed? front).or (countryOfArchive? name)).or (firstNamed? behind) :=
    hparts.countryOfArchive?_eq
  refine ⟨front, behind, hparts, hcountry, ?_⟩
  rw [hcountry]
  cases hfront : firstNamed? front with
  | some country =>
      constructor
      · intro hsame
        have hfile : countryOfArchive? name = some country := by simpa using hsame.symm
        refine ⟨?_, ?_⟩
        · rintro other ⟨⟩
          exact hfile
        · intro hnone
          rw [hnone] at hfile
          cases hfile
      · rintro ⟨hfile, -⟩
        simp [hfile country rfl]
  | none => cases hfile : countryOfArchive? name <;> simp

/-- An archive for Austria in a folder that is named like an archive for Germany. -/
def misplacedArchive : String :=
  "https://host/pc2024_DE_old/pc2024_AT_NUTS-2024_v1.0.zip?from=pc2024_FR_"

theorem misplacedArchive_country_of_folder :
    archiveName? misplacedArchive = some "pc2024_AT_NUTS-2024_v1.0.zip" ∧
      countryOfArchive? misplacedArchive = some ⟨"DE", by decide⟩ ∧
      countryOfArchive? "pc2024_AT_NUTS-2024_v1.0.zip" = some ⟨"AT", by decide⟩ ∧
      ∃ front behind, HasParts misplacedArchive front "pc2024_AT_NUTS-2024_v1.0.zip".toList behind ∧
        firstNamed? front = some ⟨"DE", by decide⟩ := by
  have hname : archiveName? misplacedArchive = some "pc2024_AT_NUTS-2024_v1.0.zip" := by
    decide +kernel
  have hcountry : countryOfArchive? misplacedArchive = some ⟨"DE", by decide⟩ := by
    decide +kernel
  have hfile : countryOfArchive? "pc2024_AT_NUTS-2024_v1.0.zip" = some ⟨"AT", by decide⟩ := by
    decide +kernel
  obtain ⟨front, behind, hparts, heq, -⟩ := countryOfArchive?_eq_archiveName_iff hname
  refine ⟨hname, hcountry, hfile, front, behind, hparts, ?_⟩
  rw [hcountry, hfile] at heq
  cases hfront : firstNamed? front with
  | none =>
      rw [hfront, Option.none_or, Option.some_or, Option.some.injEq] at heq
      exact absurd heq (by decide)
  | some country =>
      rw [hfront] at heq
      exact heq.symm

end PostalRegions
