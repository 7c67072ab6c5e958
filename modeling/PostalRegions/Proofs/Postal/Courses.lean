import PostalRegions.Postal.Pattern
import Mathlib.Data.List.Forall2

/-!
# Courses through a pattern

Once every choice and every repetition in a pattern is settled, what remains is a list of character
classes to go through one after the other, some of them for the key.  A pattern has finitely many
such courses, and each of its readings follows one of them.
-/

namespace PostalRegions

/-- One character on the way through a pattern, and whether it goes into the key. -/
structure PatternStep where
  accepted : CharClass
  kept : Bool
deriving DecidableEq, Repr

abbrev Course := List PatternStep

namespace Course

/-- The classes of the characters that go into the key. -/
def keptClasses (course : Course) : List CharClass :=
  (course.filter (·.kept)).map (·.accepted)

/-- A text is read along a course: its characters lie in the classes one by one, and those that are
kept are taken. -/
inductive Follows : Course → List Char → PostalPattern.Reading → Prop where
  | finish (rest : List Char) : Follows [] rest ([], rest)
  | keep {accepted : CharClass} {c : Char} {course : Course} {text taken rest : List Char} :
      accepted.accepts c = true → Follows course text (taken, rest) →
      Follows (⟨accepted, true⟩ :: course) (c :: text) (c :: taken, rest)
  | skip {accepted : CharClass} {c : Char} {course : Course} {text taken rest : List Char} :
      accepted.accepts c = true → Follows course text (taken, rest) →
      Follows (⟨accepted, false⟩ :: course) (c :: text) (taken, rest)

theorem Follows.append {first second : Course} {text : List Char}
    {reading continued : PostalPattern.Reading} (hfirst : Follows first text reading)
    (hsecond : Follows second reading.2 continued) :
    Follows (first ++ second) text (reading.1 ++ continued.1, continued.2) := by
  induction hfirst with
  | finish rest => exact hsecond
  | keep haccepts _ ih => exact .keep haccepts (ih hsecond)
  | skip haccepts _ ih => exact .skip haccepts (ih hsecond)

variable {course : Course} {text taken rest : List Char}

theorem Follows.exists_cons {step : PatternStep}
    (hfollows : Follows (step :: course) text (taken, rest)) :
    ∃ c later takenLater, text = c :: later ∧ step.accepted.accepts c = true ∧
      Follows course later (takenLater, rest) := by
  cases hfollows with
  | keep haccepts hlater => exact ⟨_, _, _, rfl, haccepts, hlater⟩
  | skip haccepts hlater => exact ⟨_, _, _, rfl, haccepts, hlater⟩

/-- What is taken lies in the kept classes, in their order. -/
theorem Follows.forall₂_keptClasses (hfollows : Follows course text (taken, rest)) :
    List.Forall₂ (fun accepted c => accepted.accepts c = true) course.keptClasses taken := by
  induction course generalizing text taken with
  | nil =>
      cases hfollows
      exact .nil
  | cons step course ih =>
      cases hfollows with
      | keep haccepts hrest => exact .cons haccepts (ih hrest)
      | skip _ hrest => exact ih hrest

theorem Follows.length_taken (hfollows : Follows course text (taken, rest)) :
    taken.length = course.keptClasses.length :=
  hfollows.forall₂_keptClasses.length_eq.symm

theorem Follows.sublist (hfollows : Follows course text (taken, rest)) : taken.Sublist text := by
  induction course generalizing text taken with
  | nil =>
      cases hfollows
      exact List.nil_sublist _
  | cons step course ih =>
      cases hfollows with
      | keep _ hrest => exact (ih hrest).cons_cons _
      | skip _ hrest => exact (ih hrest).cons _

/-- A course that takes as many characters as there are takes the whole text. -/
theorem Follows.taken_eq (hfollows : Follows course text (taken, rest))
    (hlength : text.length ≤ course.keptClasses.length) : taken = text := by
  rw [← hfollows.length_taken] at hlength
  exact hfollows.sublist.eq_of_length_le hlength

theorem Follows.exists_mem_keptClasses (hfollows : Follows course text (taken, rest)) {c : Char}
    (hc : c ∈ taken) : ∃ accepted ∈ course.keptClasses, accepted.accepts c = true := by
  obtain ⟨place, hplace, rfl⟩ := List.getElem_of_mem hc
  have hclass : place < course.keptClasses.length := by rwa [← hfollows.length_taken]
  exact ⟨course.keptClasses[place], List.getElem_mem hclass,
    hfollows.forall₂_keptClasses.get hclass hplace⟩

/-- Each class of a course accepts some character of the text. -/
theorem Follows.exists_accepts (hfollows : Follows course text (taken, rest))
    {step : PatternStep} (hstep : step ∈ course) :
    ∃ c ∈ text, step.accepted.accepts c = true := by
  induction course generalizing text taken with
  | nil => cases hstep
  | cons first course ih =>
      obtain ⟨c, later, _, rfl, haccepts, hlater⟩ := hfollows.exists_cons
      rcases List.mem_cons.mp hstep with rfl | hstep
      · exact ⟨c, List.mem_cons_self, haccepts⟩
      · obtain ⟨other, hother, hsome⟩ := ih hlater hstep
        exact ⟨other, List.mem_cons_of_mem _ hother, hsome⟩

end Course

namespace PostalPattern

/-- The courses through a repetition, the longest first. -/
def repeatedCourses (courses : List Course) : Nat → Nat → List Course
  | _, 0 => [[]]
  | least, most + 1 =>
    let longer := courses.flatMap fun first =>
      (repeatedCourses courses (least - 1) most).map (first ++ ·)
    if least = 0 then longer ++ [[]] else longer

def courses : (keeping : Bool) → PostalPattern → List Course
  | keeping, .one accepted => [[⟨accepted, keeping⟩]]
  | keeping, .both first second =>
    (courses keeping first).flatMap fun course => (courses keeping second).map (course ++ ·)
  | keeping, .either first second => courses keeping first ++ courses keeping second
  | keeping, .times least most body => repeatedCourses (courses keeping body) least most
  | keeping, .dropped body => courses keeping body
  | _, .kept body => courses true body

open Course (Follows)

variable {text : List Char} {reading : Reading}

theorem exists_course_of_mem_repeated {step : List Char → List Reading} {courses : List Course}
    (hstep : ∀ text, ∀ reading ∈ step text, ∃ course ∈ courses, Follows course text reading)
    {least most : Nat} (hreading : reading ∈ repeated step least most text) :
    ∃ course ∈ repeatedCourses courses least most, Follows course text reading := by
  induction most generalizing least text reading with
  | zero =>
      rw [repeated, List.mem_singleton] at hreading
      rw [hreading]
      exact ⟨[], List.mem_singleton_self _, .finish text⟩
  | succ most ih =>
      have hlonger {reading : Reading}
          (hmem : reading ∈ (step text).flatMap fun one =>
            (repeated step (least - 1) most one.2).map fun more => (one.1 ++ more.1, more.2)) :
          ∃ course ∈ courses.flatMap fun first =>
              (repeatedCourses courses (least - 1) most).map (first ++ ·),
            Follows course text reading := by
        obtain ⟨one, hone, hmem⟩ := List.mem_flatMap.mp hmem
        obtain ⟨continued, hcontinued, rfl⟩ := List.mem_map.mp hmem
        obtain ⟨first, hfirst, hfollows⟩ := hstep text one hone
        obtain ⟨later, hlater, hfollowsOn⟩ := ih hcontinued
        exact ⟨first ++ later, List.mem_flatMap.mpr ⟨first, hfirst, List.mem_map_of_mem hlater⟩,
          hfollows.append hfollowsOn⟩
      unfold repeated at hreading
      unfold repeatedCourses
      by_cases hleast : least = 0
      · simp only [if_pos hleast] at hreading ⊢
        rcases List.mem_append.mp hreading with hmore | hnone
        · obtain ⟨course, hcourse, hfollows⟩ := hlonger hmore
          exact ⟨course, List.mem_append_left _ hcourse, hfollows⟩
        · rw [List.mem_singleton.mp hnone]
          exact ⟨[], List.mem_append_right _ (List.mem_singleton_self _), .finish text⟩
      · simp only [if_neg hleast] at hreading ⊢
        exact hlonger hreading

theorem exists_course_of_mem_readings {keeping : Bool} {pattern : PostalPattern}
    (hreading : reading ∈ pattern.readings keeping text) :
    ∃ course ∈ pattern.courses keeping, Follows course text reading := by
  induction pattern generalizing keeping text reading with
  | one accepted =>
      cases text with
      | nil => cases hreading
      | cons c rest =>
          unfold readings at hreading
          split at hreading
          · rename_i haccepts
            rw [List.mem_singleton.mp hreading]
            refine ⟨[⟨accepted, keeping⟩], List.mem_singleton_self _, ?_⟩
            cases keeping with
            | true => exact .keep haccepts (.finish rest)
            | false => exact .skip haccepts (.finish rest)
          · cases hreading
  | both first second ihFirst ihSecond =>
      obtain ⟨one, hone, hmem⟩ := List.mem_flatMap.mp hreading
      obtain ⟨continued, hcontinued, rfl⟩ := List.mem_map.mp hmem
      obtain ⟨course, hcourse, hfollows⟩ := ihFirst hone
      obtain ⟨later, hlater, hfollowsOn⟩ := ihSecond hcontinued
      exact ⟨course ++ later, List.mem_flatMap.mpr ⟨course, hcourse, List.mem_map_of_mem hlater⟩,
        hfollows.append hfollowsOn⟩
  | either first second ihFirst ihSecond =>
      rcases List.mem_append.mp hreading with hone | hother
      · obtain ⟨course, hcourse, hfollows⟩ := ihFirst hone
        exact ⟨course, List.mem_append_left _ hcourse, hfollows⟩
      · obtain ⟨course, hcourse, hfollows⟩ := ihSecond hother
        exact ⟨course, List.mem_append_right _ hcourse, hfollows⟩
  | times least most body ih =>
      exact exists_course_of_mem_repeated (fun _ _ hmem => ih hmem) hreading
  | dropped body ih => exact ih hreading
  | kept body ih => exact ih hreading

theorem exists_course_of_keptChars {pattern : PostalPattern} {taken : List Char}
    (hkept : pattern.keptChars text = some taken) :
    ∃ course ∈ pattern.courses false, ∃ rest, Follows course text (taken, rest) := by
  obtain ⟨⟨taken, rest⟩, hhead, rfl⟩ := Option.map_eq_some_iff.mp hkept
  obtain ⟨course, hcourse, hfollows⟩ :=
    exists_course_of_mem_readings (List.mem_of_mem_head? hhead)
  exact ⟨course, hcourse, rest, hfollows⟩

end PostalPattern

end PostalRegions
