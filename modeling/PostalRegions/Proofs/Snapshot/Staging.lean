import PostalRegions.Proofs.Snapshot.Writing

/-!
# Writing beside the old file

A snapshot file is put into place step by step.  Its folder is made, a temporary file is filled,
and in the end the temporary file takes the place of the old one.  A write can break off anywhere
before that, and then the temporary file is taken away.  What can be seen of a write that does not
break off is one write of a whole file.
-/

namespace PostalRegions

namespace Storage.Directory

variable {δ : Type} {directory : Directory δ} {place : Place}

/-- Takes away what is at a place. -/
def discard (directory : Directory δ) (place : Place) : Directory δ :=
  ⟨directory.nodes.erase place⟩

/-- Moves the file at a place to where a path leads, in place of any file of this name. -/
def rename? (directory : Directory δ) (place : Place) (path : String) : Option (Directory δ) := do
  let (content, modified) ← directory.fileAt? place
  (directory.discard place).write? path content modified

theorem getElem?_discard (other : Place) :
    (directory.discard place).nodes[other]? =
      if other = place then none else directory.nodes[other]? := by
  unfold discard
  rw [Std.ExtTreeMap.getElem?_erase]
  by_cases hother : place = other
  · simp [hother]
  · have hcompare : compare place other ≠ .eq := fun h => hother (Std.compare_eq_iff_eq.mp h)
    rw [if_neg hcompare, if_neg (Ne.symm hother)]

theorem ext_nodes {next : Directory δ}
    (hnodes : ∀ other : Place, directory.nodes[other]? = next.nodes[other]?) : directory = next :=
  congrArg Directory.mk (Std.ExtTreeMap.ext_getElem? fun {other} => hnodes other)

theorem discard_insert (node : Node δ) :
    (directory.insert place node).discard place = directory.discard place := by
  apply ext_nodes
  intro other
  rw [getElem?_discard, getElem?_discard]
  by_cases hother : other = place
  · rw [if_pos hother, if_pos hother]
  · have hcompare : compare place other ≠ .eq :=
      fun h => hother (Std.compare_eq_iff_eq.mp h).symm
    unfold insert
    rw [if_neg hother, if_neg hother, Std.ExtTreeMap.getElem?_insert, if_neg hcompare]

theorem ne_nil_of_vacant (hvacant : directory.nodeAt? place = none) : place ≠ [] := by
  rintro rfl
  cases hvacant

theorem discard_of_vacant (hvacant : directory.nodeAt? place = none) :
    directory.discard place = directory := by
  apply ext_nodes
  intro other
  rw [getElem?_discard]
  by_cases hother : other = place
  · rw [if_pos hother, hother, ← hvacant, nodeAt?_of_ne (ne_nil_of_vacant hvacant)]
  · rw [if_neg hother]

end Storage.Directory

/-- How a write goes: where the temporary file lies, what the file holds before it is complete,
and for what reason the write breaks off, if it does. -/
structure Staging (κ : Type) where
  temporary : Storage.Place
  drafts : List (Content κ)
  fault? : Option StoreError

namespace Staging

variable {κ : Type} {staging : Staging κ} {directory next : DataDirectory κ} {path : String}
  {content : Content κ} {now : Instant}

/-- The temporary file holds one draft after another. -/
def draft (staging : Staging κ) (directory : DataDirectory κ) (now : Instant) : DataDirectory κ :=
  staging.drafts.foldl
    (fun directory draft => directory.insert staging.temporary (.file draft now)) directory

/-- Puts a file into place over a temporary one. -/
def put (staging : Staging κ) (directory : DataDirectory κ) (path : String) (content : Content κ)
    (now : Instant) : DataDirectory κ × Except StoreError Unit :=
  match directory.makeFolders (Storage.parent path) with
  | (directory, false) => (directory, .error .io)
  | (directory, true) =>
    let drafted := staging.draft directory now
    match staging.fault? with
    | some cause => (drafted.discard staging.temporary, .error cause)
    | none =>
      let finished := drafted.insert staging.temporary (.file content now)
      match finished.rename? staging.temporary path with
      | some directory => (directory, .ok ())
      | none => (finished.discard staging.temporary, .error .io)

/-- There is nothing yet where the temporary file is going to lie. -/
def IsFresh (staging : Staging κ) (directory : DataDirectory κ) (path : String) : Prop :=
  (directory.makeFolders (Storage.parent path)).1.nodeAt? staging.temporary = none

theorem discard_draft (hvacant : directory.nodeAt? staging.temporary = none) :
    (staging.draft directory now).discard staging.temporary = directory := by
  have hdrafts (drafts : List (Content κ)) (directory : DataDirectory κ) :
      (drafts.foldl (fun directory draft =>
          directory.insert staging.temporary (.file draft now)) directory).discard
        staging.temporary = directory.discard staging.temporary := by
    induction drafts generalizing directory with
    | nil => rfl
    | cons first later ih => rw [List.foldl_cons, ih, Storage.Directory.discard_insert]
  unfold draft
  rw [hdrafts]
  exact Storage.Directory.discard_of_vacant hvacant

/-- A finished temporary file goes where a file written at once would go. -/
theorem rename?_draft (hvacant : directory.nodeAt? staging.temporary = none) :
    ((staging.draft directory now).insert staging.temporary (.file content now)).rename?
      staging.temporary path = directory.write? path content now := by
  unfold Storage.Directory.rename?
  rw [Storage.Directory.fileAt?_insert_file (Storage.Directory.ne_nil_of_vacant hvacant),
    if_pos rfl, Storage.Directory.discard_insert, discard_draft hvacant]
  rfl

theorem put_eq_place (hfresh : staging.IsFresh directory path) (hfault : staging.fault? = none) :
    staging.put directory path content now = SnapshotStore.place directory path content now := by
  unfold IsFresh at hfresh
  unfold put SnapshotStore.place
  cases hmade : directory.makeFolders (Storage.parent path) with
  | mk made done =>
      rw [hmade] at hfresh
      cases done with
      | false => rfl
      | true =>
          cases hwrite : made.write? path content now with
          | none =>
              simp only [hfault, rename?_draft hfresh, hwrite, Storage.Directory.discard_insert,
                discard_draft hfresh]
          | some written => simp only [hfault, rename?_draft hfresh, hwrite]

/-- A write that breaks off leaves all files as they were. -/
theorem sameFiles_of_put (hfresh : staging.IsFresh directory path) {cause : StoreError}
    (hput : staging.put directory path content now = (next, .error cause)) :
    directory.SameFiles next := by
  cases hfault : staging.fault? with
  | none =>
      rw [put_eq_place hfresh hfault] at hput
      exact SnapshotStore.sameFiles_of_place hput
  | some fault =>
      unfold IsFresh at hfresh
      unfold put at hput
      cases hmade : directory.makeFolders (Storage.parent path) with
      | mk made done =>
          have hsame := Storage.Directory.sameFiles_of_makeFolders hmade
          rw [hmade] at hfresh hput
          cases done with
          | false =>
              cases hput
              exact hsame
          | true =>
              simp only [hfault, discard_draft hfresh] at hput
              cases hput
              exact hsame

/-- A write that does not fail has not broken off. -/
theorem put_eq_place_of_ok (hfresh : staging.IsFresh directory path) {done : Unit}
    (hput : staging.put directory path content now = (next, .ok done)) :
    SnapshotStore.place directory path content now = (next, .ok done) := by
  cases hfault : staging.fault? with
  | none => rwa [← put_eq_place hfresh hfault]
  | some fault =>
      unfold put at hput
      cases hmade : directory.makeFolders (Storage.parent path) with
      | mk made complete =>
          rw [hmade] at hput
          cases complete <;> simp [hfault] at hput

end Staging

end PostalRegions
