import PostalRegions.Proofs.Lookup.Confidences
import PostalRegions.Proofs.Region.Nesting

/-!
# Whether the codes of an answer nest

The three codes of an exact answer are cut from one region code, so they name nested regions.  An
approximation takes a vote on each level, and the winners of two levels may lie apart: many small
regions of one large region can outvote, on the coarse level only, a single region elsewhere.  A
winner with more than half of the votes carries all the coarser levels with it.
-/

namespace PostalRegions

/-! ## Majorities -/

section Votes

variable {α : Type} [BEq α] [LawfulBEq α] {votes : List α}

theorem count_add_count_le_length (votes : List α) {one other : α} (hne : one ≠ other) :
    votes.count one + votes.count other ≤ votes.length := by
  have hrest : votes.count other ≤ votes.countP fun vote => decide ¬(vote == one) = true := by
    rw [List.count_eq_countP]
    apply List.countP_mono_left
    intro vote _ hvote
    rw [beq_iff_eq.mp hvote]
    simp [hne.symm]
  rw [List.length_eq_countP_add_countP fun vote => vote == one, ← List.count_eq_countP]
  exact Nat.add_le_add_left hrest _

theorem mostFrequent?_of_majority {candidate : α}
    (hmajority : votes.length < 2 * votes.count candidate) :
    mostFrequent? votes = some candidate := by
  -- With a majority there are no ties, so the order of the votes does not matter.
  have hothers (other : α) (hne : other ≠ candidate) :
      votes.count other < votes.count candidate := by
    have hboth := count_add_count_le_length votes hne
    omega
  have hmost : ∀ other ∈ votes, votes.count other ≤ votes.count candidate := by
    intro other _
    by_cases hsame : other = candidate
    · rw [hsame]
    · exact (hothers other hsame).le
  have hvoted : candidate ∈ votes := List.count_pos_iff.mp (by omega)
  cases hfound : mostFrequent? votes with
  | none =>
      have hrejected := List.find?_eq_none.mp hfound candidate hvoted
      exact absurd (by simpa using hmost) hrejected
  | some winner =>
      have hwinner : ∀ other ∈ votes, votes.count other ≤ votes.count winner := by
        simpa using List.find?_some hfound
      by_contra hne
      have hless := hothers winner fun hsame => hne (congrArg some hsame)
      have hleast := hwinner candidate hvoted
      omega

end Votes

/-! ## Approximations -/

namespace RegionMatch

variable {κ : Type}

/-- The code of a coarser level begins the code of each finer level. -/
def IsNested (answer : RegionMatch κ) : Prop :=
  ∀ coarse fine : Level, coarse.places ≤ fine.places →
    (answer.codeAt coarse).toList <+: (answer.codeAt fine).toList

/-- How the votes of the neighbours bear on the codes of an answer. -/
structure IsVoted (answer : RegionMatch κ) (votes : List RegionCode) : Prop where
  winner : ∀ level, mostFrequent? (votes.map (·.atLevel level)) = some (answer.codeAt level)
  /-- Two codes nest if the coarse region around the fine winner wins as well. -/
  isPrefix_of_wins : ∀ coarse fine : Level, coarse.places ≤ fine.places →
    mostFrequent? (votes.map (·.atLevel coarse)) =
        some (coarse.truncate (answer.codeAt fine)) →
      (answer.codeAt coarse).toList <+: (answer.codeAt fine).toList
  /-- The coarse region around a fine winner with more than half of the votes wins as well. -/
  wins_of_majority : ∀ coarse fine : Level, coarse.places ≤ fine.places →
    votes.length < 2 * (votes.map (·.atLevel fine)).count (answer.codeAt fine) →
      mostFrequent? (votes.map (·.atLevel coarse)) =
        some (coarse.truncate (answer.codeAt fine))

theorem isNested_ofRegion [Confidence κ] (region : RegionCode) :
    (ofRegion region : RegionMatch κ).IsNested := by
  have hcode (level : Level) :
      (ofRegion region : RegionMatch κ).codeAt level = region.atLevel level := by
    cases level <;> rfl
  intro coarse fine hcoarse
  rw [hcode, hcode]
  exact region.atLevel_isPrefix_atLevel hcoarse

theorem IsVoted.of_winner {answer : RegionMatch κ} {votes : List RegionCode}
    (hwinner : ∀ level, mostFrequent? (votes.map (·.atLevel level)) =
      some (answer.codeAt level)) : answer.IsVoted votes := by
  constructor
  · exact hwinner
  · intro coarse fine hcoarse hwins
    obtain ⟨region, _, hfine⟩ :=
      List.mem_map.mp (List.mem_of_find?_eq_some (hwinner fine))
    have hsame : answer.codeAt coarse = coarse.truncate (answer.codeAt fine) :=
      Option.some.inj ((hwinner coarse).symm.trans hwins)
    rw [hsame, ← hfine, region.truncate_atLevel hcoarse]
    exact region.atLevel_isPrefix_atLevel hcoarse
  · intro coarse fine hcoarse hmajority
    have hcut : (votes.map (·.atLevel fine)).map coarse.truncate =
        votes.map (·.atLevel coarse) := by
      rw [List.map_map]
      exact List.map_congr_left fun region _ => region.truncate_atLevel hcoarse
    have hcount : (votes.map (·.atLevel fine)).count (answer.codeAt fine) ≤
        (votes.map (·.atLevel coarse)).count (coarse.truncate (answer.codeAt fine)) := by
      rw [← hcut]
      exact List.count_le_count_map
    apply mostFrequent?_of_majority
    rw [List.length_map]
    omega

end RegionMatch

theorem mostFrequent?_of_verdict? {κ : Type} [Confidence κ] {caps : Confidences κ}
    {neighbours : Neighbours} {length : Nat} {level : Level} {verdict : Verdict κ}
    (hverdict : verdict? caps neighbours length level = some verdict) :
    mostFrequent? (neighbours.votes.map (·.atLevel level)) = some verdict.code := by
  unfold verdict? at hverdict
  rw [plurality_eq, Option.map_map] at hverdict
  obtain ⟨code, hcode, rfl⟩ := Option.map_eq_some_iff.mp hverdict
  exact hcode

/-- The codes of an exact answer nest.  Those of an approximation win a vote on each level, and they
nest as far as a winner has more than half of the votes. -/
theorem LookupTables.nesting_of_lookup {κ : Type} [Confidence κ] {tables : LookupTables κ}
    {country postalCode : String} {answer : RegionMatch κ}
    (hlookup : tables.lookup country postalCode = some answer) :
    (answer.kind = .exact → answer.IsNested) ∧
      (answer.kind = .approximate → ∃ key neighbours,
        EntryKey.ofQuery? country postalCode = some key ∧
          tables.index.neighbours? key = some neighbours ∧ answer.IsVoted neighbours.votes) := by
  obtain ⟨key, hkey, hfind⟩ := Option.bind_eq_some_iff.mp hlookup
  rcases find?_cases hfind with ⟨region, _, rfl⟩ | ⟨estimate, _, rfl⟩ |
    ⟨neighbours, approximation, hneighbours, happroximate, rfl⟩
  · refine ⟨fun _ => RegionMatch.isNested_ofRegion region, ?_⟩
    intro hkind
    cases hkind
  · constructor
    · intro hkind
      cases hkind
    · intro hkind
      cases hkind
  · constructor
    · intro hkind
      cases hkind
    · intro _
      obtain ⟨hlevel1, hlevel2, hlevel3, _⟩ := verdicts_of_approximate? happroximate
      refine ⟨key, neighbours, hkey, hneighbours, RegionMatch.IsVoted.of_winner ?_⟩
      intro level
      cases level with
      | one => exact mostFrequent?_of_verdict? hlevel1
      | two => exact mostFrequent?_of_verdict? hlevel2
      | three => exact mostFrequent?_of_verdict? hlevel3

/-- Five neighbouring codes of a country with the given regions. -/
def neighbourTable (country : Country) (regions : List RegionCode) : ExactTable :=
  .ofList ((["1010", "1011", "1012", "1013", "1014"].map (EntryKey.mk country)).zip regions)

theorem neighbourTable_lookup_voted :
    ∃ answer, (LookupTables.ofTables (neighbourTable ⟨"AT", by decide⟩
        [⟨"AT111", by decide⟩, ⟨"AT121", by decide⟩, ⟨"AT211", by decide⟩,
          ⟨"AT121", by decide⟩, ⟨"AT121", by decide⟩])
        (∅ : EstimateTable Rat) .standard).lookup "AT" "1019" = some answer ∧
      answer.kind = .approximate ∧ answer.IsNested := by
  let votes : List RegionCode := [⟨"AT111", by decide⟩, ⟨"AT121", by decide⟩,
    ⟨"AT211", by decide⟩, ⟨"AT121", by decide⟩, ⟨"AT121", by decide⟩]
  let tables := LookupTables.ofTables (neighbourTable ⟨"AT", by decide⟩ votes)
    (∅ : EstimateTable Rat) .standard
  let answer : RegionMatch Rat :=
    ⟨.approximate, "AT1", "AT12", "AT121", ⟨3 / 5, 9 / 20, 9 / 20⟩⟩
  have hanswer : tables.lookup "AT" "1019" = some answer := by decide +kernel
  refine ⟨answer, hanswer, rfl, ?_⟩
  obtain ⟨key, neighbours, hkey, hneighbours, hvoted⟩ :=
    (LookupTables.nesting_of_lookup hanswer).2 rfl
  have hquery : EntryKey.ofQuery? "AT" "1019" = some ⟨⟨"AT", by decide⟩, "1019"⟩ := by
    decide +kernel
  have hfound : tables.index.neighbours? ⟨⟨"AT", by decide⟩, "1019"⟩ = some ⟨3, votes⟩ := by
    decide +kernel
  cases hquery.symm.trans hkey
  cases hfound.symm.trans hneighbours
  have hmajority : ∀ fine : Level,
      votes.length < 2 * (votes.map (·.atLevel fine)).count (answer.codeAt fine) := by
    intro fine
    cases fine <;> decide +kernel
  intro coarse fine hcoarse
  exact hvoted.isPrefix_of_wins coarse fine hcoarse
    (hvoted.wins_of_majority coarse fine hcoarse (hmajority fine))

/-- Three neighbours share a region on the coarsest level only, and two share one on every level. -/
theorem neighbourTable_lookup_not_nested :
    ∃ answer, (LookupTables.ofTables (neighbourTable ⟨"AT", by decide⟩
        [⟨"AT111", by decide⟩, ⟨"AT121", by decide⟩, ⟨"AT131", by decide⟩,
          ⟨"AT211", by decide⟩, ⟨"AT211", by decide⟩])
        (∅ : EstimateTable Rat) .standard).lookup "AT" "1019" = some answer ∧
      answer.kind = .approximate ∧ ¬ (answer.level1.toList <+: answer.level2.toList) := by
  refine ⟨⟨.approximate, "AT1", "AT21", "AT211", ⟨9 / 20, 3 / 10, 3 / 10⟩⟩, ?_, rfl, ?_⟩
  · decide +kernel
  · decide

end PostalRegions
