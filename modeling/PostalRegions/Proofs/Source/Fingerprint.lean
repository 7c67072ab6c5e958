import PostalRegions.Proofs.Dataset.Rebuild
import PostalRegions.Proofs.Snapshot.Writing
import PostalRegions.Source.Fingerprint

/-!
# What a fingerprint tells apart

A fingerprint is the shortened hash of the addresses, joined by commas.  As far as the hash does not
collide, it tells apart the lists whose joined texts differ, and the empty list from all others.
An address with a comma in it cannot be told from two addresses.
-/

namespace PostalRegions

/-! ## The shortened hash -/

namespace Digest

theorem length_bigEndian (width value : Nat) : (bigEndian width value).length = width := by
  induction width generalizing value with
  | zero => rfl
  | succ width ih => simp [bigEndian, ih]

theorem length_sha256 (message : List UInt8) : (sha256 message).length = 32 := by
  simp [sha256, length_bigEndian]

theorem length_hex (bytes : List UInt8) : (hex bytes).length = 2 * bytes.length := by
  induction bytes with
  | nil => rfl
  | cons byte rest ih =>
      simp only [hex, List.flatMap_cons, String.length_ofList, List.length_append,
        List.length_cons] at ih ⊢
      simp only [ih, hexByte, List.length_cons, List.length_nil]
      omega

end Digest

def shortHash (text : String) : String :=
  Digest.hex ((Digest.sha256 text.toUTF8.data.toList).take fingerprintSize)

theorem length_shortHash (text : String) : (shortHash text).length = 16 := by
  unfold shortHash
  rw [Digest.length_hex, List.length_take, Digest.length_sha256]
  rfl

theorem shortHash_ne_empty (text : String) : shortHash text ≠ "" := by
  intro hempty
  have hlength := length_shortHash text
  rw [hempty] at hlength
  cases hlength

/-! ## Joined addresses -/

def joinedAddresses (addresses : List String) : String :=
  String.intercalate "," addresses

theorem fingerprint_nil : fingerprint [] = "" :=
  rfl

theorem fingerprint_of_ne_nil {addresses : List String} (haddresses : addresses ≠ []) :
    fingerprint addresses = shortHash (joinedAddresses addresses) := by
  have hopen : addresses.isEmpty = false := by simpa using haddresses
  unfold fingerprint
  rw [hopen]
  rfl

/-- One of two lists is empty, or their joined texts differ. -/
def ToldApart (one other : List String) : Prop :=
  one.isEmpty ≠ other.isEmpty ∨ joinedAddresses one ≠ joinedAddresses other

/-- Addresses without commas are read off their joined text. -/
theorem splitOn_joinedAddresses {addresses : List String} (haddresses : addresses ≠ [])
    (hcommas : ∀ address ∈ addresses, ',' ∉ address.toList) :
    (joinedAddresses addresses).toList.splitOn ',' = addresses.map String.toList := by
  unfold joinedAddresses
  rw [String.toList_intercalate]
  apply List.splitOn_intercalate
  · intro part hpart
    obtain ⟨address, haddress, rfl⟩ := List.mem_map.mp hpart
    exact hcommas address haddress
  · simpa using haddresses

theorem toldApart_of_ne {one other : List String} (hne : one ≠ other)
    (hcommas : ∀ address ∈ one ++ other, ',' ∉ address.toList) : ToldApart one other := by
  by_cases hempty : one.isEmpty = other.isEmpty
  · right
    intro hjoined
    by_cases hone : one = []
    · have hother : other = [] := by simpa [hone] using hempty
      exact hne (hone.trans hother.symm)
    · have hother : other ≠ [] := by
        rintro rfl
        exact hone (by simpa using hempty)
      have hparts : one.map String.toList = other.map String.toList := by
        rw [← splitOn_joinedAddresses hone fun address haddress =>
            hcommas address (List.mem_append_left _ haddress),
          ← splitOn_joinedAddresses hother fun address haddress =>
            hcommas address (List.mem_append_right _ haddress), hjoined]
      exact hne (List.map_inj_right (fun _ _ => String.toList_injective) |>.mp hparts)
  · exact Or.inl hempty

/-- Two lists have different fingerprints exactly if they are told apart, as far as the hash does
not collide. -/
theorem fingerprint_ne_iff {one other : List String}
    (hhash : shortHash (joinedAddresses one) = shortHash (joinedAddresses other) →
      joinedAddresses one = joinedAddresses other) :
    fingerprint one ≠ fingerprint other ↔ ToldApart one other := by
  unfold ToldApart
  cases one with
  | nil =>
      cases other with
      | nil => simp
      | cons first rest =>
          have hhashed := (shortHash_ne_empty (joinedAddresses (first :: rest))).symm
          rw [← fingerprint_of_ne_nil (List.cons_ne_nil first rest)] at hhashed
          simpa [fingerprint_nil] using hhashed
  | cons head tail =>
      cases other with
      | nil =>
          have hhashed := shortHash_ne_empty (joinedAddresses (head :: tail))
          rw [← fingerprint_of_ne_nil (List.cons_ne_nil head tail)] at hhashed
          simpa [fingerprint_nil] using hhashed
      | cons first rest =>
          have hsame : (head :: tail).isEmpty = (first :: rest).isEmpty := rfl
          rw [fingerprint_of_ne_nil (List.cons_ne_nil head tail),
            fingerprint_of_ne_nil (List.cons_ne_nil first rest)]
          constructor
          · intro hdiffer
            exact Or.inr fun hjoined => hdiffer (congrArg shortHash hjoined)
          · rintro (hempty | hjoined) hequal
            · exact hempty hsame
            · exact hjoined (hhash hequal)

/-! ## Snapshots of other lists -/

/-- A snapshot that was saved with one fingerprint is not valid where another one is expected. -/
theorem invalidity?_of_save {κ : Type} [DatabaseFormat κ] {directory next : DataDirectory κ}
    {path : String} {snapshot : Snapshot κ} {version saved : String} {now later : Instant}
    {metadata facts : Metadata} {expected : Expectation}
    (hsave : SnapshotStore.save directory path snapshot version saved now = (next, .ok metadata))
    (hread : SnapshotStore.readMetadata next path = .ok facts)
    (hexpected : saved ≠ expected.fingerprint) : facts.invalidity? expected later ≠ none := by
  obtain ⟨rfl, hfile⟩ := SnapshotStore.file?_of_save hsave
  obtain ⟨created, _, _, rfl⟩ := (SnapshotStore.readMetadata_eq_ok_iff hfile).mp hread
  intro hvalid
  have hfingerprint := (Metadata.invalidity?_eq_none_iff.mp hvalid).2.2.2
  exact hexpected hfingerprint

/-- A changed list of addresses is noticed if it is told apart from the list before, and without
commas in addresses this is any change. -/
theorem changedAddresses_noticed {one other : List String}
    (hhash : shortHash (joinedAddresses one) = shortHash (joinedAddresses other) →
      joinedAddresses one = joinedAddresses other) :
    (fingerprint one ≠ fingerprint other ↔ ToldApart one other) ∧
      (one ≠ other → (∀ address ∈ one ++ other, ',' ∉ address.toList) → ToldApart one other) ∧
      (ToldApart one other →
        ∀ (κ : Type) [DatabaseFormat κ] (directory next : DataDirectory κ) (path : String)
          (snapshot : Snapshot κ) (version : String) (now later : Instant)
          (metadata facts : Metadata) (expected : Expectation),
          SnapshotStore.save directory path snapshot version (fingerprint one) now =
            (next, .ok metadata) →
          SnapshotStore.readMetadata next path = .ok facts →
          expected.fingerprint = fingerprint other →
          facts.invalidity? expected later ≠ none) := by
  have hnoticed := fingerprint_ne_iff hhash
  refine ⟨hnoticed, toldApart_of_ne, ?_⟩
  intro hapart κ _ directory next path snapshot version now later metadata facts expected hsave
    hread hexpected
  have hdiffer : fingerprint one ≠ expected.fingerprint := by
    rw [hexpected]
    exact hnoticed.mpr hapart
  exact invalidity?_of_save hsave hread hdiffer

theorem otherArchive_noticed :
    fingerprint ["https://x/a.zip"] ≠ fingerprint ["https://x/b.zip"] ∧
      fingerprint ["https://x/a.zip"] ≠ fingerprint [] := by
  have hother : shortHash (joinedAddresses ["https://x/a.zip"]) ≠
      shortHash (joinedAddresses ["https://x/b.zip"]) := by
    decide +kernel
  have hnone : shortHash (joinedAddresses ["https://x/a.zip"]) ≠
      shortHash (joinedAddresses []) := by
    decide +kernel
  obtain ⟨hnoticed, hapart, _⟩ := changedAddresses_noticed fun hsame => absurd hsame hother
  obtain ⟨hremoved, hempty, _⟩ := changedAddresses_noticed fun hsame => absurd hsame hnone
  exact ⟨hnoticed.mpr (hapart (by decide) (by decide)),
    hremoved.mpr (hempty (by decide) (by decide))⟩

/-- Two addresses, and one address with a comma: a snapshot of the first list is valid under the
second one, and no hash could tell them apart. -/
theorem commaInAddress_not_noticed :
    ["https://ops.example/a.zip", "https://ops.example/b.zip"] ≠
        ["https://ops.example/a.zip,https://ops.example/b.zip"] ∧
      joinedAddresses ["https://ops.example/a.zip", "https://ops.example/b.zip"] =
        joinedAddresses ["https://ops.example/a.zip,https://ops.example/b.zip"] ∧
      fingerprint ["https://ops.example/a.zip", "https://ops.example/b.zip"] =
        fingerprint ["https://ops.example/a.zip,https://ops.example/b.zip"] ∧
      ∃ (facts : Metadata) (expected : Expectation) (now : Instant),
        facts.fingerprint =
          fingerprint ["https://ops.example/a.zip", "https://ops.example/b.zip"] ∧
        expected.fingerprint =
          fingerprint ["https://ops.example/a.zip,https://ops.example/b.zip"] ∧
        facts.invalidity? expected now = none := by
  have hjoined : joinedAddresses ["https://ops.example/a.zip", "https://ops.example/b.zip"] =
      joinedAddresses ["https://ops.example/a.zip,https://ops.example/b.zip"] := by
    decide
  have hfingerprint : fingerprint ["https://ops.example/a.zip", "https://ops.example/b.zip"] =
      fingerprint ["https://ops.example/a.zip,https://ops.example/b.zip"] := by
    rw [fingerprint_of_ne_nil (by decide), fingerprint_of_ne_nil (by decide), hjoined]
  refine ⟨by decide, hjoined, hfingerprint,
    ⟨"2024", .sinceEpoch 0 0, 1, 0, _⟩, ⟨"2024", 1, _⟩, .sinceEpoch 0 0, rfl, rfl, ?_⟩
  exact Metadata.invalidity?_eq_none_iff.mpr ⟨rfl, by decide, by decide, hfingerprint⟩

end PostalRegions
