import PostalRegions.Proofs.Postal.Canonical
import PostalRegions.Proofs.Postal.Courses
import PostalRegions.Proofs.Text.Capitals

/-!
# Keys of keys

The key of a code that has the shape of its country's codes is its own key.  A key need not have
that shape again: characters may have been dropped from it, and some formats file only a part of
the code.  So each format is checked for what its pattern could do with its own keys, course by
course and with any of the characters missing.
-/

namespace PostalRegions

/-! ## Characters of keys -/

theorem isAlphanum_of_isKeyChar {c : Char} (hkey : isKeyChar c = true) : c.isAlphanum = true := by
  unfold isKeyChar at hkey
  unfold Char.isAlphanum Char.isAlpha
  rcases (Bool.or_eq_true _ _).mp hkey with hupper | hdigit
  · simp [hupper]
  · simp [hdigit]

theorem toNat_lt_of_isAlphanum {c : Char} (halphanum : c.isAlphanum = true) : c.toNat < 128 := by
  have hbounds := Text.toNat_of_isAlphanum halphanum
  omega

theorem toUpper_of_isKeyChar {c : Char} (hkey : isKeyChar c = true) : c.toUpper = c :=
  Text.of_ascii (fun c => isKeyChar c = true → c.toUpper = c) (by decide)
    (toNat_lt_of_isAlphanum (isAlphanum_of_isKeyChar hkey)) hkey

theorem canonicalChars_of_all_isKeyChar {key : List Char} (hkey : key.all isKeyChar = true) :
    canonicalChars key = key := by
  rw [List.all_eq_true] at hkey
  have hkept : key.filter Char.isAlphanum = key :=
    List.filter_eq_self.mpr fun c hc => isAlphanum_of_isKeyChar (hkey c hc)
  have hmap : key.map Char.toUpper = key.map id :=
    List.map_congr_left fun c hc => toUpper_of_isKeyChar (hkey c hc)
  rw [canonicalChars, hkept, hmap, List.map_id]

theorem PostalFormat.input_of_all_isKeyChar {key : List Char} (hkey : key.all isKeyChar = true) :
    input key = key := by
  rw [List.all_eq_true] at hkey
  have hupper : ∀ c ∈ key, Text.upperChar c = [c] := by
    intro c hc
    have hascii := toNat_lt_of_isAlphanum (isAlphanum_of_isKeyChar (hkey c hc))
    rw [Text.upperChar_of_ascii hascii, toUpper_of_isKeyChar (hkey c hc)]
  unfold input Text.upperChars
  rw [Text.trimChars_of_isAlphanum fun c hc => isAlphanum_of_isKeyChar (hkey c hc),
    List.flatMap_congr hupper, List.flatMap_singleton']

/-- The two kinds of characters in a key. -/
inductive KeyKind where
  | letter
  | digit
deriving DecidableEq, Repr

def KeyKind.of (c : Char) : KeyKind :=
  if c.isDigit then .digit else .letter

theorem KeyKind.of_isAlpha {c : Char} (halpha : c.isAlpha = true) : of c = .letter := by
  have hascii : c.toNat < 128 := toNat_lt_of_isAlphanum (by simp [Char.isAlphanum, halpha])
  exact Text.of_ascii (fun c => c.isAlpha = true → of c = .letter) (by decide) hascii halpha

theorem KeyKind.of_not_isAlpha {c : Char} (hkey : isKeyChar c = true)
    (halpha : c.isAlpha = false) : of c = .digit := by
  have hupper : c.isUpper = false := by
    unfold Char.isAlpha at halpha
    exact (Bool.or_eq_false_iff.mp halpha).1
  have hdigit : c.isDigit = true := by simpa [isKeyChar, hupper] using hkey
  simp [of, hdigit]

/-! ## Classes -/

/-- Whether an item covers any key character of a kind. -/
def ClassItem.admits : ClassItem → KeyKind → Bool
  | .single c, kind => isKeyChar c && KeyKind.of c = kind
  | .span first last, .letter => first ≤ 'Z' && 'A' ≤ last
  | .span first last, .digit => first ≤ '9' && '0' ≤ last
  | .digit, kind => kind = .digit

namespace CharClass

/-- Whether a class accepts any key character of a kind. -/
def admits : CharClass → KeyKind → Bool
  | .literal c, kind => isKeyChar c && KeyKind.of c = kind
  | .digit, kind => kind = .digit
  | .blank, _ => false
  | .choice items, kind => items.any (·.admits kind)

def overlaps (one other : CharClass) : Bool :=
  (one.admits .letter && other.admits .letter) || (one.admits .digit && other.admits .digit)

end CharClass

theorem foldLetter_of_isAlphanum {c : Char} (halphanum : c.isAlphanum = true) :
    foldLetter c = c.toUpper := by
  have hascii := toNat_lt_of_isAlphanum halphanum
  have hlong : c ≠ '\u017F' := by
    rintro rfl
    exact absurd hascii (by decide)
  have hkelvin : c ≠ '\u212A' := by
    rintro rfl
    exact absurd hascii (by decide)
  unfold foldLetter
  rw [if_neg hlong, if_neg hkelvin]

theorem foldLetter_of_isKeyChar {c : Char} (hkey : isKeyChar c = true) : foldLetter c = c := by
  rw [foldLetter_of_isAlphanum (isAlphanum_of_isKeyChar hkey), toUpper_of_isKeyChar hkey]

theorem isDigit_of_isDecimalDigit {c : Char} (halphanum : c.isAlphanum = true)
    (hdigit : Text.isDecimalDigit c = true) : c.isDigit = true := by
  obtain ⟨range, hrange, hfirst, hlast⟩ := Text.inRanges_iff.mp hdigit
  have hapart : Text.decimalDigitRanges.all
      (fun range => range.last < 58 || 122 < range.first) = true := by decide
  have houtside := List.all_eq_true.mp hapart range hrange
  simp only [Bool.or_eq_true, decide_eq_true_eq] at houtside
  have hbounds := Text.toNat_of_isAlphanum halphanum
  have hsmall : c.toNat < 58 := by omega
  exact Text.of_ascii (fun c => 48 ≤ c.toNat → c.toNat < 58 → c.isDigit = true)
    (by decide) (toNat_lt_of_isAlphanum halphanum) hbounds.1 hsmall

theorem toUpper_of_isDigit {c : Char} (hdigit : c.isDigit = true) : c.toUpper = c :=
  toUpper_of_isKeyChar (by simp [isKeyChar, hdigit])

theorem ClassItem.accepts_toUpper (item : ClassItem) {c : Char} (halphanum : c.isAlphanum = true)
    (haccepts : item.accepts c = true) : item.accepts c.toUpper = true := by
  have hfold : foldLetter c.toUpper = foldLetter c := by
    rw [foldLetter_of_isAlphanum halphanum,
      foldLetter_of_isAlphanum ((Text.isAlphanum_toUpper c).trans halphanum), Text.toUpper_toUpper]
  cases item with
  | single expected => rwa [accepts, hfold]
  | span first last => rwa [accepts, hfold]
  | digit => rwa [toUpper_of_isDigit (isDigit_of_isDecimalDigit halphanum haccepts)]

theorem ClassItem.admits_of_accepts (item : ClassItem) {c : Char} (hkey : isKeyChar c = true)
    (haccepts : item.accepts c = true) : item.admits (KeyKind.of c) = true := by
  cases item with
  | single expected =>
      rw [accepts, foldLetter_of_isKeyChar hkey, decide_eq_true_eq] at haccepts
      subst haccepts
      simp [admits, hkey]
  | span first last =>
      rw [accepts, foldLetter_of_isKeyChar hkey] at haccepts
      simp only [Bool.and_eq_true, decide_eq_true_eq] at haccepts
      unfold KeyKind.of
      split
      · rename_i hdigit
        have hrange : '0' ≤ c ∧ c ≤ '9' := by
          simpa [Char.isDigit, Char.le_def] using hdigit
        simp [admits, Char.le_trans haccepts.1 hrange.2, Char.le_trans hrange.1 haccepts.2]
      · rename_i hdigit
        have hupper : c.isUpper = true := by simpa [isKeyChar, hdigit] using hkey
        have hrange : 'A' ≤ c ∧ c ≤ 'Z' := by
          simpa [Char.le_def, UInt32.le_iff_toNat_le] using Text.toNat_of_isUpper hupper
        simp [admits, Char.le_trans haccepts.1 hrange.2, Char.le_trans hrange.1 haccepts.2]
  | digit =>
      have hdigit := isDigit_of_isDecimalDigit (isAlphanum_of_isKeyChar hkey) haccepts
      simp [admits, KeyKind.of, hdigit]

namespace CharClass

variable {accepted : CharClass} {c : Char}

theorem accepts_toUpper (halphanum : c.isAlphanum = true) (haccepts : accepted.accepts c = true) :
    accepted.accepts c.toUpper = true := by
  cases accepted with
  | literal expected => exact ClassItem.accepts_toUpper (.single expected) halphanum haccepts
  | digit => exact ClassItem.accepts_toUpper .digit halphanum haccepts
  | blank => exact absurd halphanum (by simp [Text.isAlphanum_eq_false_of_isBlank haccepts])
  | choice items =>
      obtain ⟨item, hitem, hsome⟩ := List.any_eq_true.mp haccepts
      exact List.any_eq_true.mpr ⟨item, hitem, ClassItem.accepts_toUpper item halphanum hsome⟩

theorem admits_of_accepts (hkey : isKeyChar c = true) (haccepts : accepted.accepts c = true) :
    accepted.admits (KeyKind.of c) = true := by
  cases accepted with
  | literal expected => exact ClassItem.admits_of_accepts (.single expected) hkey haccepts
  | digit => exact ClassItem.admits_of_accepts .digit hkey haccepts
  | blank =>
      have hblank := Text.isAlphanum_eq_false_of_isBlank haccepts
      exact absurd (isAlphanum_of_isKeyChar hkey) (by simp [hblank])
  | choice items =>
      obtain ⟨item, hitem, hsome⟩ := List.any_eq_true.mp haccepts
      exact List.any_eq_true.mpr ⟨item, hitem, ClassItem.admits_of_accepts item hkey hsome⟩

theorem overlaps_of_accepts {other : CharClass} (hkey : isKeyChar c = true)
    (haccepts : accepted.accepts c = true) (hother : other.accepts c = true) :
    accepted.overlaps other = true := by
  have hone := admits_of_accepts hkey haccepts
  have hsame := admits_of_accepts hkey hother
  unfold overlaps
  cases hkind : KeyKind.of c with
  | letter =>
      rw [hkind] at hone hsame
      simp [hone, hsame]
  | digit =>
      rw [hkind] at hone hsame
      simp [hone, hsame]

end CharClass

/-! ## Courses over keys -/

/-- Whether a course could read some key otherwise than by taking all of it.  The characters of the
key lie in the given classes, and any of them may be missing. -/
def Course.mayMisread : Course → List CharClass → Bool
  | [], classes => !classes.isEmpty
  | _ :: _, [] => false
  | step :: course, accepted :: classes =>
    mayMisread (step :: course) classes ||
      (step.accepted.overlaps accepted && (!step.kept || mayMisread course classes))

theorem Course.eq_of_not_mayMisread {classes : List CharClass} {kept : List Char}
    (hkept : List.Forall₂ (fun accepted c => accepted.accepts c = true) classes kept)
    {course : Course} {taken rest : List Char}
    (hfollows : Follows course (canonicalChars kept) (taken, rest))
    (hcourse : course.mayMisread classes = false) : taken = canonicalChars kept := by
  induction hkept generalizing course taken rest with
  | nil =>
      cases hfollows
      rfl
  | @cons accepted c classes kept haccepts hlater ih =>
      cases course with
      | nil => cases hcourse
      | cons step course =>
          simp only [mayMisread, Bool.or_eq_false_iff] at hcourse
          by_cases halphanum : c.isAlphanum = true
          · have hfirst : canonicalChars (c :: kept) = c.toUpper :: canonicalChars kept := by
              simp [canonicalChars, halphanum]
            have hupper := CharClass.accepts_toUpper halphanum haccepts
            have hkey := isKeyChar_toUpper halphanum
            rw [hfirst] at hfollows ⊢
            cases hfollows with
            | keep hstep hrest =>
                have hoverlaps := CharClass.overlaps_of_accepts hkey hstep hupper
                simp only [hoverlaps, Bool.not_true, Bool.true_and, Bool.false_or] at hcourse
                rw [ih hrest hcourse.2]
            | skip hstep _ =>
                have hoverlaps := CharClass.overlaps_of_accepts hkey hstep hupper
                simp [hoverlaps] at hcourse
          · -- The character is dropped, so the key is that of the rest.
            have hdropped : canonicalChars (c :: kept) = canonicalChars kept := by
              simp [canonicalChars, halphanum]
            rw [hdropped] at hfollows ⊢
            exact ih hfollows hcourse.1

namespace PostalFormat

/-- A check of a format by which its keys are their own keys: its courses take the keys as a whole,
or take as many characters as a key has at most, or cannot read a key at all. -/
def keepsKeys (format : PostalFormat) : Bool :=
  let courses := format.pattern.courses false
  match format.transform with
  | none => courses.all fun one => courses.all fun other => !other.mayMisread one.keptClasses
  | some (.truncate count) => courses.all fun course => count ≤ course.keptClasses.length
  | some (.prepend lead) =>
    lead.toList.all (fun c => isKeyChar c && !c.isDigit) && courses.all fun one =>
      one.keptClasses.all (fun accepted => !accepted.admits .letter) &&
        courses.all fun other => one.keptClasses.length ≤ other.keptClasses.length
  | some .leadingLetters => courses.all fun course =>
      course.head?.any (fun step => !step.accepted.admits .digit) &&
        course.any fun step => !step.accepted.admits .letter

theorem registry_keepsKeys : registry.all (fun entry => entry.2.keepsKeys) = true := by
  decide +kernel

/-! ## Reading a key again -/

open Course (Follows)

/-- Characters that one course of a format has kept are filed, and another course reads the key. -/
structure Rereads (format : PostalFormat) (one other : Course) (kept taken rest : List Char) :
    Prop where
  one_mem : one ∈ format.pattern.courses false
  other_mem : other ∈ format.pattern.courses false
  kept_accepted : List.Forall₂ (fun accepted c => accepted.accepts c = true) one.keptClasses kept
  follows : Follows other (format.filed kept) (taken, rest)

namespace Rereads

variable {format : PostalFormat} {one other : Course} {kept taken rest : List Char}

theorem filed_of_none (hrereads : Rereads format one other kept taken rest)
    (hchecked : format.keepsKeys = true) (htransform : format.transform = none) :
    format.filed taken = format.filed kept := by
  have hfiled (kept : List Char) : format.filed kept = canonicalChars kept := by
    rw [filed, htransform]
  rw [keepsKeys, htransform] at hchecked
  have hcourse := List.all_eq_true.mp
    (List.all_eq_true.mp hchecked one hrereads.one_mem) other hrereads.other_mem
  have hfollows := hrereads.follows
  rw [hfiled] at hfollows
  have htaken : taken = canonicalChars kept :=
    Course.eq_of_not_mayMisread hrereads.kept_accepted hfollows (by simpa using hcourse)
  rw [hfiled, hfiled, htaken,
    canonicalChars_of_all_isKeyChar (all_isKeyChar_canonicalChars kept)]

theorem filed_of_truncate (hrereads : Rereads format one other kept taken rest)
    (hchecked : format.keepsKeys = true) {count : Nat}
    (htransform : format.transform = some (.truncate count)) :
    format.filed taken = format.filed kept := by
  have hfiled (kept : List Char) : format.filed kept = (canonicalChars kept).take count := by
    rw [filed, htransform]
    rfl
  rw [keepsKeys, htransform] at hchecked
  have hcount : count ≤ other.keptClasses.length :=
    of_decide_eq_true (List.all_eq_true.mp hchecked other hrereads.other_mem)
  have hlength : (format.filed kept).length ≤ count := by
    rw [hfiled]
    exact List.length_take_le _ _
  have htaken : taken = format.filed kept := hrereads.follows.taken_eq (hlength.trans hcount)
  have hkey : (format.filed kept).all isKeyChar = true := by
    have hkeeps : (KeyTransform.truncate count).keepsKeyChars = true := rfl
    rw [hfiled]
    exact KeyTransform.all_isKeyChar_apply hkeeps (all_isKeyChar_canonicalChars kept)
  rw [htaken, hfiled (format.filed kept), canonicalChars_of_all_isKeyChar hkey,
    List.take_of_length_le hlength]

theorem filed_of_prepend (hrereads : Rereads format one other kept taken rest)
    (hchecked : format.keepsKeys = true) {lead : String}
    (htransform : format.transform = some (.prepend lead)) :
    format.filed taken = format.filed kept := by
  have hfiled (kept : List Char) : format.filed kept = lead.toList ++ canonicalChars kept := by
    rw [filed, htransform]
    rfl
  rw [keepsKeys, htransform] at hchecked
  obtain ⟨hlead, hcourses⟩ := (Bool.and_eq_true _ _).mp hchecked
  rw [List.all_eq_true] at hcourses
  have hlengths : one.keptClasses.length ≤ other.keptClasses.length := by
    have hall := ((Bool.and_eq_true _ _).mp (hcourses one hrereads.one_mem)).2
    exact of_decide_eq_true (List.all_eq_true.mp hall other hrereads.other_mem)
  have hcode : (canonicalChars kept).length ≤ taken.length := by
    have hkept := hrereads.kept_accepted.length_eq
    have hfilter := List.length_filter_le Char.isAlphanum kept
    rw [hrereads.follows.length_taken, canonicalChars, List.length_map]
    omega
  -- No character of the lead is taken, because a course takes no letters.
  have hsublist := hrereads.follows.sublist
  rw [hfiled, List.sublist_append_iff] at hsublist
  obtain ⟨fromLead, fromCode, rfl, hfromLead, hfromCode⟩ := hsublist
  have hnone : fromLead = [] := by
    rw [List.eq_nil_iff_forall_not_mem]
    intro c hc
    obtain ⟨hkey, hdigit⟩ := (Bool.and_eq_true _ _).mp
      (List.all_eq_true.mp hlead c (hfromLead.mem hc))
    obtain ⟨accepted, haccepted, haccepts⟩ :=
      hrereads.follows.exists_mem_keptClasses (List.mem_append_left fromCode hc)
    have hletter := List.all_eq_true.mp
      ((Bool.and_eq_true _ _).mp (hcourses other hrereads.other_mem)).1 accepted haccepted
    have hadmits := CharClass.admits_of_accepts hkey haccepts
    have hkind : KeyKind.of c = .letter := by
      simp only [Bool.not_eq_true'] at hdigit
      simp [KeyKind.of, hdigit]
    rw [hkind] at hadmits
    simp [hadmits] at hletter
  subst hnone
  have htaken : fromCode = canonicalChars kept := hfromCode.eq_of_length_le hcode
  rw [hfiled, hfiled, List.nil_append, htaken,
    canonicalChars_of_all_isKeyChar (all_isKeyChar_canonicalChars kept)]

theorem not_leadingLetters (hrereads : Rereads format one other kept taken rest)
    (hchecked : format.keepsKeys = true) :
    format.transform ≠ some .leadingLetters := by
  intro htransform
  have hfiled : format.filed kept =
      KeyTransform.leadingLetters.apply (canonicalChars kept) := by
    rw [filed, htransform]
  rw [keepsKeys, htransform] at hchecked
  obtain ⟨hhead, hany⟩ := (Bool.and_eq_true _ _).mp
    (List.all_eq_true.mp hchecked other hrereads.other_mem)
  have hcode := List.all_eq_true.mp (all_isKeyChar_canonicalChars kept)
  have hfollows := hrereads.follows
  rw [hfiled] at hfollows
  simp only [KeyTransform.apply] at hfollows
  split at hfollows
  · -- The key starts with a digit, which the first class of the course rejects.
    rename_i hletters
    cases other with
    | nil => cases hhead
    | cons step course =>
        obtain ⟨c, later, _, hread, haccepts, _⟩ := hfollows.exists_cons
        rw [hread] at hcode hletters
        have hkey : isKeyChar c = true := hcode c List.mem_cons_self
        have halpha : c.isAlpha = false := by
          rw [← Bool.not_eq_true]
          intro halpha
          rw [List.takeWhile_cons_of_pos halpha] at hletters
          cases hletters
        have hadmits := CharClass.admits_of_accepts hkey haccepts
        rw [KeyKind.of_not_isAlpha hkey halpha] at hadmits
        simp [hadmits] at hhead
  · -- The key has letters only, and some class of the course rejects them.
    obtain ⟨step, hstep, hrejects⟩ := List.any_eq_true.mp hany
    obtain ⟨c, hc, haccepts⟩ := hfollows.exists_accepts hstep
    have hkey : isKeyChar c = true :=
      hcode c ((List.takeWhile_sublist Char.isAlpha).mem hc)
    have hadmits := CharClass.admits_of_accepts hkey haccepts
    rw [KeyKind.of_isAlpha (List.mem_takeWhile_imp hc)] at hadmits
    simp [hadmits] at hrejects

theorem filed_eq (hrereads : Rereads format one other kept taken rest)
    (hchecked : format.keepsKeys = true) : format.filed taken = format.filed kept := by
  cases htransform : format.transform with
  | none => exact hrereads.filed_of_none hchecked htransform
  | some transform =>
      cases transform with
      | truncate count => exact hrereads.filed_of_truncate hchecked htransform
      | prepend lead => exact hrereads.filed_of_prepend hchecked htransform
      | leadingLetters => exact absurd htransform (hrereads.not_leadingLetters hchecked)

end Rereads

/-- Whatever is read from a key of a format, it has the same key. -/
theorem extract_extract {country : Country} {format : PostalFormat}
    (hformat : of? country = some format) {raw key again : List Char}
    (hkey : format.extract raw = some key) (hagain : format.extract key = some again) :
    again = key := by
  obtain ⟨kept, hkept, rfl⟩ := Option.map_eq_some_iff.mp hkey
  obtain ⟨taken, htaken, rfl⟩ := Option.map_eq_some_iff.mp hagain
  rw [input_of_all_isKeyChar (all_isKeyChar_filed hformat kept)] at htaken
  obtain ⟨one, hone, _, hfollows⟩ := PostalPattern.exists_course_of_keptChars hkept
  obtain ⟨other, hother, rest, hfollowsOn⟩ := PostalPattern.exists_course_of_keptChars htaken
  have hrereads : Rereads format one other kept taken rest :=
    ⟨hone, hother, hfollows.forall₂_keptClasses, hfollowsOn⟩
  exact hrereads.filed_eq (List.all_eq_true.mp registry_keepsKeys _ (mem_registry_of_of? hformat))

end PostalFormat

/-! ## Keys -/

theorem postalKeyChars_of_extract_eq_none {country : Country} {raw : List Char}
    (hextract : ∀ format, PostalFormat.of? country = some format → format.extract raw = none) :
    postalKeyChars country raw = canonicalChars raw := by
  unfold postalKeyChars
  cases hformat : PostalFormat.of? country with
  | none => rfl
  | some format => rw [Option.bind_some, hextract format hformat]

theorem postalKeyChars_of_extract_eq_some {country : Country} {format : PostalFormat}
    {raw key : List Char} (hformat : PostalFormat.of? country = some format)
    (hextract : format.extract raw = some key) : postalKeyChars country raw = key := by
  rw [postalKeyChars, hformat, Option.bind_some, hextract]

theorem postalKeyChars_postalKeyChars {country : Country} {raw : List Char}
    (hmatches : ∀ format, PostalFormat.of? country = some format →
      (format.pattern.keptChars (PostalFormat.input raw)).isSome = true) :
    postalKeyChars country (postalKeyChars country raw) = postalKeyChars country raw := by
  have hcanonical : canonicalChars (postalKeyChars country raw) = postalKeyChars country raw :=
    canonicalChars_of_all_isKeyChar (all_isKeyChar_postalKeyChars country raw)
  cases hformat : PostalFormat.of? country with
  | none =>
      have hunread (text : List Char) (format : PostalFormat)
          (hsome : PostalFormat.of? country = some format) : format.extract text = none := by
        rw [hformat] at hsome
        cases hsome
      rw [postalKeyChars_of_extract_eq_none (hunread _), hcanonical]
  | some format =>
      obtain ⟨kept, hkept⟩ := Option.isSome_iff_exists.mp (hmatches format hformat)
      have hkey : format.extract raw = some (format.filed kept) := by
        rw [PostalFormat.extract, hkept, Option.map_some]
      rw [postalKeyChars_of_extract_eq_some hformat hkey] at hcanonical ⊢
      cases hagain : format.extract (format.filed kept) with
      | none =>
          rw [postalKeyChars_of_extract_eq_none, hcanonical]
          intro other hother
          rw [hformat] at hother
          cases hother
          exact hagain
      | some again =>
          rw [postalKeyChars_of_extract_eq_some hformat hagain]
          exact PostalFormat.extract_extract hformat hkey hagain

/-- Every key consists of capital letters and digits.  It is its own key if the country has no
format, or if it is the key of a text that has the shape of the country's codes. -/
theorem postalKey_isCanonical_and_stable (country : Country) (raw : String) :
    (∀ c ∈ (postalKey country raw).toList, c.isUpper = true ∨ c.isDigit = true) ∧
      ((∀ format, PostalFormat.of? country = some format →
          (format.pattern.keptChars (PostalFormat.input raw.toList)).isSome = true) →
        postalKey country (postalKey country raw) = postalKey country raw) := by
  have hkey := List.all_eq_true.mp (all_isKeyChar_postalKeyChars country raw.toList)
  constructor
  · intro c hc
    rw [postalKey, String.toList_ofList] at hc
    exact (Bool.or_eq_true _ _).mp (hkey c hc)
  · intro hmatches
    have hstable := postalKeyChars_postalKeyChars hmatches
    unfold postalKey
    rw [String.toList_ofList, hstable]

/-- An Irish code is filed under its routing key, which is read as a whole code again. -/
theorem routingKey_stable :
    (∀ format, PostalFormat.of? ⟨"IE", by decide⟩ = some format →
        (format.pattern.keptChars (PostalFormat.input " d02 x285".toList)).isSome = true) ∧
      postalKey ⟨"IE", by decide⟩ " d02 x285" = "D02" ∧
      postalKey ⟨"IE", by decide⟩ (postalKey ⟨"IE", by decide⟩ " d02 x285") =
        postalKey ⟨"IE", by decide⟩ " d02 x285" := by
  have hmatches : ∀ format, PostalFormat.of? ⟨"IE", by decide⟩ = some format →
      (format.pattern.keptChars (PostalFormat.input " d02 x285".toList)).isSome = true := by
    intro format hformat
    have hall : ((PostalFormat.of? ⟨"IE", by decide⟩).all fun format =>
        (format.pattern.keptChars (PostalFormat.input " d02 x285".toList)).isSome) = true := by
      decide +kernel
    rw [hformat] at hall
    exact hall
  exact ⟨hmatches, by decide +kernel, (postalKey_isCanonical_and_stable _ _).2 hmatches⟩

/-- A text without the shape of its country's codes may have a key with another key. -/
example : postalKey ⟨"AT", by decide⟩ "A--1010" = "A1010" ∧
    postalKey ⟨"AT", by decide⟩ "A1010" = "1010" := by
  constructor <;> decide +kernel

end PostalRegions
