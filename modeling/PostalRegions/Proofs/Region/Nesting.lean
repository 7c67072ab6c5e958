import PostalRegions.Proofs.Text.Blanks
import PostalRegions.Region.Code

/-!
# Codes of nested regions

The characters of a region code take one byte each, so the code of a level is a fixed number of its
leading characters, and the code of a coarser level is found again in the code of a finer one.
-/

namespace PostalRegions

namespace Level

/-- How many characters the code of a level has at most. -/
def places : Level → Nat
  | .one => 3
  | .two => 4
  | .three => 5

theorem takeBytes_of_ascii {chars : List Char} (hascii : ∀ c ∈ chars, c.utf8Size = 1)
    (bytes : Nat) :
    takeBytes bytes chars = if bytes ≤ chars.length then some (chars.take bytes) else none := by
  induction chars generalizing bytes with
  | nil => cases bytes <;> simp [takeBytes]
  | cons c rest ih =>
      cases bytes with
      | zero => simp [takeBytes]
      | succ bytes =>
          have hc : c.utf8Size = 1 := hascii c List.mem_cons_self
          have hrest : ∀ other ∈ rest, other.utf8Size = 1 :=
            fun other hother => hascii other (List.mem_cons_of_mem c hother)
          simp only [takeBytes, hc, ih hrest]
          by_cases hbytes : bytes ≤ rest.length
          · simp [hbytes]
          · simp [hbytes]

theorem toList_truncate {code : String} (hascii : ∀ c ∈ code.toList, c.utf8Size = 1)
    (hlength : code.toList.length ≤ 5) (level : Level) :
    (level.truncate code).toList = code.toList.take level.places := by
  have hcut {bytes : Nat} (hwidth : level.width = some bytes) :
      (level.truncate code).toList = code.toList.take bytes := by
    unfold truncate
    rw [hwidth]
    dsimp only
    rw [takeBytes_of_ascii hascii]
    by_cases hbytes : bytes ≤ code.toList.length
    · simp only [hbytes, if_true, String.toList_ofList]
    · simp only [hbytes, if_false]
      rw [List.take_of_length_le (by omega)]
  cases level with
  | one => exact hcut rfl
  | two => exact hcut rfl
  | three => exact (List.take_of_length_le hlength).symm

end Level

namespace RegionCode

theorem utf8Size_of_mem {region : RegionCode} {c : Char} (hc : c ∈ region.code.toList) :
    c.utf8Size = 1 := by
  have hbounds := Text.toNat_of_isAlphanum (isAlphanum_of_mem hc)
  have hlast : (127 : UInt32).toNat = 127 := rfl
  rw [Char.utf8Size_eq_one_iff, UInt32.le_iff_toNat_le, hlast]
  exact hbounds.2.trans (by decide)

theorem length_code_le (region : RegionCode) : region.code.toList.length ≤ 5 := by
  have hbytes {chars : List Char} (hascii : ∀ c ∈ chars, c.utf8Size = 1) :
      (String.ofList chars).utf8ByteSize = chars.length := by
    induction chars with
    | nil => rfl
    | cons c rest ih =>
        have hrest := ih fun other hother => hascii other (List.mem_cons_of_mem c hother)
        rw [String.ofList_cons, String.utf8ByteSize_append, String.utf8ByteSize_singleton,
          hascii c List.mem_cons_self, hrest, List.length_cons, Nat.add_comm]
  have hsize := region.wellFormed.1.2
  rw [← String.ofList_toList (s := region.code), hbytes fun _ => utf8Size_of_mem] at hsize
  exact hsize

theorem toList_atLevel (region : RegionCode) (level : Level) :
    (region.atLevel level).toList = region.code.toList.take level.places :=
  Level.toList_truncate (fun _ => utf8Size_of_mem) region.length_code_le level

/-- A code of a finer level, cut down to a coarser level, is the code of the coarser level. -/
theorem truncate_atLevel (region : RegionCode) {coarse fine : Level}
    (hcoarse : coarse.places ≤ fine.places) :
    coarse.truncate (region.atLevel fine) = region.atLevel coarse := by
  have hascii : ∀ c ∈ (region.atLevel fine).toList, c.utf8Size = 1 := by
    intro c hc
    rw [toList_atLevel] at hc
    exact utf8Size_of_mem (List.mem_of_mem_take hc)
  have hlength : (region.atLevel fine).toList.length ≤ 5 := by
    rw [toList_atLevel, List.length_take]
    have hcode := region.length_code_le
    omega
  apply String.toList_injective
  rw [Level.toList_truncate hascii hlength, toList_atLevel, toList_atLevel, List.take_take,
    Nat.min_eq_left hcoarse]

theorem atLevel_isPrefix_atLevel (region : RegionCode) {coarse fine : Level}
    (hcoarse : coarse.places ≤ fine.places) :
    (region.atLevel coarse).toList <+: (region.atLevel fine).toList := by
  rw [toList_atLevel, toList_atLevel]
  exact List.take_prefix_take_left hcoarse

end RegionCode

end PostalRegions
