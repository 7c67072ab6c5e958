import Mathlib.Data.List.Basic
import Mathlib.Data.List.Induction
import PostalRegions.Lookup.Plurality

/-!
# The winner of a vote

Votes that are recorded one after the other leave one tally for each candidate, with the first vote
and the number of all.  Tallies are compared by their counts, then by the first vote.  No two
candidates share their first vote, so one tally is unbeaten, and in whatever order the tallies are
gone through it is found.  It is the first candidate in the order of the votes that no other one
exceeds.
-/

namespace PostalRegions

variable {α : Type}

namespace Tally

theorem beats_iff {one other : Tally α} :
    one.beats other = true ↔
      other.count < one.count ∨ (one.count = other.count ∧ one.first < other.first) := by
  simp [beats]

def Unbeaten (tally : Tally α) (tallied : List (Tally α)) : Prop :=
  tally ∈ tallied ∧ ∀ other ∈ tallied, other.beats tally = false

theorem unbeaten_of_best {tallied : List (Tally α)} {tally : Tally α}
    (hbest : best tallied = some tally) : tally.Unbeaten tallied := by
  induction tallied generalizing tally with
  | nil => cases hbest
  | cons one others ih =>
      have hself : one.beats one = false := by simp [beats]
      rw [best] at hbest
      cases hothers : best others with
      | none =>
          rw [hothers] at hbest
          cases hbest
          cases others with
          | nil => exact ⟨List.mem_singleton_self one, by simpa using hself⟩
          | cons next rest =>
              rw [best] at hothers
              split at hothers <;> cases hothers
      | some other =>
          obtain ⟨hmember, hunbeaten⟩ := ih hothers
          rw [hothers] at hbest
          cases hbest
          by_cases hbeats : one.beats other = true
          · rw [if_pos hbeats]
            refine ⟨List.mem_cons_self, ?_⟩
            intro third hthird
            rcases List.mem_cons.mp hthird with rfl | hrest
            · exact hself
            · have hless := hunbeaten third hrest
              rw [Bool.eq_false_iff, ne_eq, beats_iff] at hless ⊢
              rw [beats_iff] at hbeats
              omega
          · rw [if_neg hbeats]
            refine ⟨List.mem_cons_of_mem one hmember, ?_⟩
            intro third hthird
            rcases List.mem_cons.mp hthird with rfl | hrest
            · exact Bool.eq_false_iff.mpr hbeats
            · exact hunbeaten third hrest

theorem best_eq_none_iff {tallied : List (Tally α)} : best tallied = none ↔ tallied = [] := by
  cases tallied with
  | nil => simp [best]
  | cons one others =>
      rw [best]
      split <;> simp

/-- With candidates of different first votes, only one can be unbeaten. -/
theorem Unbeaten.eq {tallied : List (Tally α)} {one other : Tally α}
    (hdistinct : ∀ one ∈ tallied, ∀ other ∈ tallied, one.first = other.first → one = other)
    (hone : one.Unbeaten tallied) (hother : other.Unbeaten tallied) : one = other := by
  have hfirst := hone.2 other hother.1
  have hsecond := hother.2 one hone.1
  rw [Bool.eq_false_iff, ne_eq, beats_iff] at hfirst hsecond
  exact hdistinct one hone.1 other hother.1 (by omega)

theorem best_eq_some_iff {tallied : List (Tally α)} {tally : Tally α}
    (hdistinct : ∀ one ∈ tallied, ∀ other ∈ tallied, one.first = other.first → one = other) :
    best tallied = some tally ↔ tally.Unbeaten tallied := by
  constructor
  · exact unbeaten_of_best
  · intro hunbeaten
    cases hbest : best tallied with
    | none =>
        rw [best_eq_none_iff] at hbest
        rw [hbest] at hunbeaten
        cases hunbeaten.1
    | some other => rw [(unbeaten_of_best hbest).eq hdistinct hunbeaten]

end Tally

section Votes

variable [BEq α] [LawfulBEq α] {votes : List α} {vote : α}

/-! ## Votes recorded one after the other -/

/-- The tally of a candidate when all votes are counted at once. -/
def standing (votes : List α) (candidate : α) : Tally α :=
  ⟨candidate, votes.idxOf candidate, votes.count candidate⟩

/-- What a vote for someone makes of a tally. -/
def Tally.afterVote (vote : α) (tally : Tally α) : Tally α :=
  if tally.candidate == vote then { tally with count := tally.count + 1 } else tally

omit [LawfulBEq α] in
theorem Tally.candidate_afterVote (vote : α) (tally : Tally α) :
    (tally.afterVote vote).candidate = tally.candidate := by
  unfold afterVote
  split
  · rfl
  · rfl

theorem Tally.afterVote_of_ne {tally : Tally α} (hother : tally.candidate ≠ vote) :
    tally.afterVote vote = tally :=
  if_neg (by simpa using hother)

theorem Tally.record_of_notMem {tallied : List (Tally α)} (position : Nat)
    (hnew : vote ∉ tallied.map candidate) :
    record vote position tallied = tallied ++ [⟨vote, position, 1⟩] := by
  induction tallied with
  | nil => rfl
  | cons tally others ih =>
      rw [List.map_cons, List.mem_cons, not_or] at hnew
      have hother : ¬ (tally.candidate == vote) = true := by simpa using Ne.symm hnew.1
      rw [record, if_neg hother, ih hnew.2, List.cons_append]

theorem Tally.record_of_mem {tallied : List (Tally α)} (position : Nat)
    (hdistinct : (tallied.map candidate).Nodup) (hknown : vote ∈ tallied.map candidate) :
    record vote position tallied = tallied.map (afterVote vote) := by
  induction tallied with
  | nil => cases hknown
  | cons tally others ih =>
      rw [List.map_cons, List.nodup_cons] at hdistinct
      rw [record, List.map_cons]
      by_cases hsame : tally.candidate = vote
      · have hothers : ∀ other ∈ others, other.afterVote vote = other := by
          intro other hother
          refine afterVote_of_ne fun hagain => hdistinct.1 ?_
          rw [hsame, ← hagain]
          exact List.mem_map_of_mem hother
        have hhead : (tally.candidate == vote) = true := by simpa using hsame
        rw [if_pos hhead, List.map_congr_left hothers, List.map_id', afterVote, if_pos hhead]
      · have hrest : vote ∈ others.map candidate := by
          rw [List.map_cons, List.mem_cons] at hknown
          exact hknown.resolve_left (Ne.symm hsame)
        rw [if_neg (by simpa using hsame), ih hdistinct.2 hrest, afterVote_of_ne hsame]

/-- One tally for each candidate, as if its votes were counted at once. -/
structure Tells (tallied : List (Tally α)) (votes : List α) : Prop where
  distinct : (tallied.map Tally.candidate).Nodup
  mem_iff : ∀ candidate, candidate ∈ tallied.map Tally.candidate ↔ candidate ∈ votes
  counted : ∀ tally ∈ tallied, tally = standing votes tally.candidate

theorem standing_append_singleton {candidate : α} (hvoted : candidate ∈ votes) :
    standing (votes ++ [vote]) candidate = (standing votes candidate).afterVote vote := by
  unfold standing Tally.afterVote
  rw [List.idxOf_append_of_mem hvoted, List.count_append, List.count_singleton]
  by_cases hsame : candidate = vote
  · simp [hsame]
  · simp [hsame, Ne.symm hsame]

theorem standing_of_new (hnew : vote ∉ votes) :
    standing (votes ++ [vote]) vote = ⟨vote, votes.length, 1⟩ := by
  unfold standing
  rw [List.idxOf_append_of_notMem hnew, List.count_append, List.count_eq_zero_of_not_mem hnew]
  simp

omit [LawfulBEq α] in
theorem Tells.voted {tallied : List (Tally α)} (htells : Tells tallied votes) {tally : Tally α}
    (htally : tally ∈ tallied) : tally.candidate ∈ votes :=
  (htells.mem_iff tally.candidate).mp (List.mem_map_of_mem htally)

theorem Tells.standing_append_singleton {tallied : List (Tally α)} (htells : Tells tallied votes)
    {tally : Tally α} (htally : tally ∈ tallied) :
    standing (votes ++ [vote]) tally.candidate = tally.afterVote vote := by
  rw [PostalRegions.standing_append_singleton (htells.voted htally), ← htells.counted tally htally]

theorem Tells.map_afterVote {tallied : List (Tally α)} (htells : Tells tallied votes)
    (hknown : vote ∈ votes) : Tells (tallied.map (Tally.afterVote vote)) (votes ++ [vote]) := by
  have hcandidates : (tallied.map (Tally.afterVote vote)).map Tally.candidate =
      tallied.map Tally.candidate := by
    rw [List.map_map]
    exact List.map_congr_left fun tally _ => tally.candidate_afterVote vote
  refine ⟨?_, ?_, ?_⟩
  · rw [hcandidates]
    exact htells.distinct
  · intro candidate
    rw [hcandidates, htells.mem_iff, List.mem_append, List.mem_singleton]
    constructor
    · exact Or.inl
    · rintro (hbefore | rfl)
      · exact hbefore
      · exact hknown
  · intro tally htally
    obtain ⟨earlier, hearlier, rfl⟩ := List.mem_map.mp htally
    rw [Tally.candidate_afterVote, htells.standing_append_singleton hearlier]

theorem Tells.append_singleton {tallied : List (Tally α)} (htells : Tells tallied votes)
    (hnew : vote ∉ votes) : Tells (tallied ++ [⟨vote, votes.length, 1⟩]) (votes ++ [vote]) := by
  refine ⟨?_, ?_, ?_⟩
  · rw [List.map_append, List.map_singleton, List.nodup_append]
    refine ⟨htells.distinct, by simp, ?_⟩
    rintro candidate hcandidate last hlast rfl
    obtain rfl := List.mem_singleton.mp hlast
    exact hnew ((htells.mem_iff candidate).mp hcandidate)
  · intro candidate
    rw [List.map_append, List.mem_append, htells.mem_iff, List.mem_append, List.map_singleton]
  · intro tally htally
    rcases List.mem_append.mp htally with hbefore | hlast
    · have hother : tally.candidate ≠ vote := fun hsame => hnew (hsame ▸ htells.voted hbefore)
      rw [htells.standing_append_singleton hbefore, Tally.afterVote_of_ne hother]
    · obtain rfl := List.mem_singleton.mp hlast
      exact (standing_of_new hnew).symm

/-- What holds of the tallies so far holds when one more vote is recorded. -/
theorem Tells.record {tallied : List (Tally α)} (htells : Tells tallied votes) (vote : α) :
    Tells (Tally.record vote votes.length tallied) (votes ++ [vote]) := by
  by_cases hknown : vote ∈ votes
  · rw [Tally.record_of_mem _ htells.distinct ((htells.mem_iff vote).mpr hknown)]
    exact htells.map_afterVote hknown
  · have hnew : vote ∉ tallied.map Tally.candidate := fun hvote =>
      hknown ((htells.mem_iff vote).mp hvote)
    rw [Tally.record_of_notMem _ hnew]
    exact htells.append_singleton hknown

omit [LawfulBEq α] in
theorem tallies_append_singleton (votes : List α) (vote : α) :
    tallies (votes ++ [vote]) = Tally.record vote votes.length (tallies votes) := by
  unfold tallies
  rw [List.zipIdx_append, List.foldl_append]
  simp

theorem tells_tallies (votes : List α) : Tells (tallies votes) votes := by
  induction votes using List.reverseRecOn with
  | nil => exact ⟨List.nodup_nil, fun _ => Iff.rfl, fun _ htally => by cases htally⟩
  | append_singleton earlier vote ih =>
      rw [tallies_append_singleton]
      exact ih.record vote

theorem mem_tallies {tally : Tally α} :
    tally ∈ tallies votes ↔ tally.candidate ∈ votes ∧ tally = standing votes tally.candidate := by
  have htells := tells_tallies votes
  constructor
  · intro htally
    exact ⟨htells.voted htally, htells.counted tally htally⟩
  · rintro ⟨hvoted, hsame⟩
    obtain ⟨recorded, hrecorded, hcandidate⟩ := List.mem_map.mp ((htells.mem_iff _).mpr hvoted)
    rw [hsame, ← hcandidate, ← htells.counted recorded hrecorded]
    exact hrecorded

/-! ## The winner -/

theorem tallies_distinct :
    ∀ one ∈ tallies votes, ∀ other ∈ tallies votes, one.first = other.first → one = other := by
  intro one hone other hother hfirst
  obtain ⟨hvoted, hsame⟩ := mem_tallies.mp hone
  obtain ⟨_, hsameOther⟩ := mem_tallies.mp hother
  rw [hsame, hsameOther] at hfirst
  have hcandidate : one.candidate = other.candidate := (List.idxOf_inj hvoted).mp hfirst
  rw [hsame, hsameOther, hcandidate]

/-- The winner does not depend on the order in which the tallies are gone through. -/
theorem Tally.best_perm {tallied : List (Tally α)} (hperm : tallied.Perm (tallies votes)) :
    Tally.best tallied = Tally.best (tallies votes) := by
  have hdistinct : ∀ one ∈ tallied, ∀ other ∈ tallied, one.first = other.first → one = other := by
    intro one hone other hother
    exact tallies_distinct one (hperm.mem_iff.mp hone) other (hperm.mem_iff.mp hother)
  refine Option.ext fun tally => ?_
  rw [Tally.best_eq_some_iff hdistinct, Tally.best_eq_some_iff tallies_distinct]
  simp only [Tally.Unbeaten, hperm.mem_iff]

/-- No candidate got more votes, and of those that got as many none got one earlier. -/
structure Leads (votes : List α) (winner : α) : Prop where
  voted : winner ∈ votes
  most : ∀ other ∈ votes, votes.count other ≤ votes.count winner
  first : ∀ other ∈ votes, votes.count other = votes.count winner →
    votes.idxOf winner ≤ votes.idxOf other

theorem unbeaten_standing_iff {winner : α} :
    (standing votes winner).Unbeaten (tallies votes) ↔ Leads votes winner := by
  constructor
  · rintro ⟨hmember, hunbeaten⟩
    have hless : ∀ other ∈ votes, ¬ (votes.count winner < votes.count other ∨
        (votes.count other = votes.count winner ∧ votes.idxOf other < votes.idxOf winner)) := by
      intro other hother hbeats
      have hno := hunbeaten (standing votes other) (mem_tallies.mpr ⟨hother, rfl⟩)
      rw [Tally.beats_iff.mpr hbeats] at hno
      cases hno
    refine ⟨(mem_tallies.mp hmember).1, ?_, ?_⟩
    · intro other hother
      have hnot := hless other hother
      omega
    · intro other hother htie
      have hnot := hless other hother
      omega
  · rintro ⟨hvoted, hmost, hfirst⟩
    refine ⟨mem_tallies.mpr ⟨hvoted, rfl⟩, ?_⟩
    intro tally htally
    obtain ⟨hother, hsame⟩ := mem_tallies.mp htally
    have hcount := hmost tally.candidate hother
    have hbefore := hfirst tally.candidate hother
    rw [Bool.eq_false_iff, ne_eq, Tally.beats_iff, hsame]
    simp only [standing]
    omega

theorem best_tallies_eq_some_iff {tally : Tally α} :
    Tally.best (tallies votes) = some tally ↔
      Leads votes tally.candidate ∧ tally = standing votes tally.candidate := by
  rw [Tally.best_eq_some_iff tallies_distinct]
  constructor
  · intro hunbeaten
    have hsame := (mem_tallies.mp hunbeaten.1).2
    rw [hsame] at hunbeaten
    exact ⟨unbeaten_standing_iff.mp hunbeaten, hsame⟩
  · rintro ⟨hleads, hsame⟩
    rw [hsame]
    exact unbeaten_standing_iff.mpr hleads

theorem plurality_eq_some_iff {winner : α} {count : Nat} :
    plurality votes = some (winner, count) ↔ Leads votes winner ∧ votes.count winner = count := by
  unfold plurality
  rw [Option.map_eq_some_iff]
  constructor
  · rintro ⟨tally, hbest, hresult⟩
    obtain ⟨hleads, hsame⟩ := best_tallies_eq_some_iff.mp hbest
    cases hresult
    exact ⟨hleads, (congrArg Tally.count hsame).symm⟩
  · rintro ⟨hleads, rfl⟩
    exact ⟨standing votes winner, best_tallies_eq_some_iff.mpr ⟨hleads, rfl⟩, rfl⟩

theorem plurality_eq_none_iff : plurality votes = none ↔ votes = [] := by
  unfold plurality
  rw [Option.map_eq_none_iff, Tally.best_eq_none_iff]
  constructor
  · intro hnone
    refine List.eq_nil_iff_forall_not_mem.mpr fun vote hvote => ?_
    have htally : standing votes vote ∈ tallies votes := mem_tallies.mpr ⟨hvote, rfl⟩
    rw [hnone] at htally
    cases htally
  · rintro rfl
    rfl

/-- There is a winner unless nobody voted, with all the votes for it.  In whatever order the
recorded tallies are gone through, it is the same one. -/
theorem plurality_iff_leads (votes : List α) :
    (plurality votes = none ↔ votes = []) ∧
    (∀ winner count, plurality votes = some (winner, count) ↔
      Leads votes winner ∧ votes.count winner = count) ∧
    ∀ tallied : List (Tally α), tallied.Perm (tallies votes) →
      (Tally.best tallied).map (fun tally => (tally.candidate, tally.count)) =
        plurality votes := by
  refine ⟨plurality_eq_none_iff, fun winner count => plurality_eq_some_iff, ?_⟩
  intro tallied hperm
  rw [Tally.best_perm hperm, plurality]

theorem plurality_iff_leads_tied :
    Leads ["B", "A", "A", "B"] "B" ∧ plurality ["B", "A", "A", "B"] = some ("B", 2) ∧
      (Tally.best (tallies ["B", "A", "A", "B"]).reverse).map
        (fun tally => (tally.candidate, tally.count)) = some ("B", 2) := by
  have hleads : Leads ["B", "A", "A", "B"] "B" := ⟨by decide, by decide, by decide⟩
  obtain ⟨_, hwinner, horder⟩ := plurality_iff_leads ["B", "A", "A", "B"]
  have hplurality := (hwinner "B" 2).mpr ⟨hleads, by decide⟩
  exact ⟨hleads, hplurality, (horder _ (List.reverse_perm _)).trans hplurality⟩

/-! ## The winner found among the votes -/

/-- The first vote for a candidate that no other one exceeds. -/
def mostFrequent? (votes : List α) : Option α :=
  votes.find? fun candidate => votes.all fun other => votes.count other ≤ votes.count candidate

theorem leads_of_mostFrequent? {winner : α} (hfound : mostFrequent? votes = some winner) :
    Leads votes winner := by
  obtain ⟨hmost, earlier, later, hvotes, hearlier⟩ := List.find?_eq_some_iff_append.mp hfound
  refine ⟨by simp [hvotes], by simpa using hmost, ?_⟩
  -- An equally frequent candidate with an earlier vote would have been found before.
  intro other hother htie
  have hnew : winner ∉ earlier := by
    intro hagain
    have hrejected := hearlier winner hagain
    rw [hmost] at hrejected
    cases hrejected
  have hlate : other ∉ earlier := by
    intro hin
    have hrejected := hearlier other hin
    have haccepted : (votes.all fun third => votes.count third ≤ votes.count other) = true := by
      rw [htie]
      exact hmost
    rw [haccepted] at hrejected
    cases hrejected
  rw [hvotes, List.idxOf_append_of_notMem hnew, List.idxOf_append_of_notMem hlate,
    List.idxOf_cons_self]
  omega

theorem plurality_eq (votes : List α) :
    plurality votes =
      (mostFrequent? votes).map fun candidate => (candidate, votes.count candidate) := by
  cases hfound : mostFrequent? votes with
  | some candidate => exact plurality_eq_some_iff.mpr ⟨leads_of_mostFrequent? hfound, rfl⟩
  | none =>
      rw [Option.map_none]
      refine Option.eq_none_iff_forall_ne_some.mpr ?_
      rintro ⟨winner, count⟩ hplurality
      obtain ⟨hleads, _⟩ := plurality_eq_some_iff.mp hplurality
      have hrejected := List.find?_eq_none.mp hfound winner hleads.voted
      exact hrejected (by simpa using hleads.most)

end Votes

end PostalRegions
