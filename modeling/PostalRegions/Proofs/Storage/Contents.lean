import PostalRegions.Proofs.Storage.Files

/-!
# Directories up to times

Two directories hold the same if they have the same folders, and files with the same contents at
the same places.  When a file was written is left open.  Each operation does the same to both.
-/

namespace PostalRegions.Storage

variable {δ : Type}

def Node.content? : Node δ → Option δ
  | .folder => none
  | .file content _ => some content

namespace Directory

def HoldsSame (directory other : Directory δ) : Prop :=
  ∀ place, (other.nodeAt? place).map Node.content? = (directory.nodeAt? place).map Node.content?

variable {directory other : Directory δ}

theorem HoldsSame.refl (directory : Directory δ) : HoldsSame directory directory :=
  fun _ => rfl

theorem HoldsSame.symm (hsame : HoldsSame directory other) : HoldsSame other directory :=
  fun place => (hsame place).symm

theorem HoldsSame.trans {next : Directory δ} (hfirst : HoldsSame directory other)
    (hsecond : HoldsSame other next) : HoldsSame directory next :=
  fun place => (hsecond place).trans (hfirst place)

/-! ## What is seen of a directory -/

theorem isFolder_eq_decide (directory : Directory δ) (place : Place) :
    directory.isFolder place = (((directory.nodeAt? place).map Node.content?).map
      Option.isNone).getD false := by
  unfold isFolder
  cases directory.nodeAt? place with
  | none => rfl
  | some node => cases node <;> rfl

theorem fileAt?_map_fst (directory : Directory δ) (place : Place) :
    (directory.fileAt? place).map Prod.fst =
      ((directory.nodeAt? place).map Node.content?).join := by
  unfold fileAt?
  cases directory.nodeAt? place with
  | none => rfl
  | some node => cases node <;> rfl

theorem HoldsSame.isFolder_eq (hsame : HoldsSame directory other) (place : Place) :
    other.isFolder place = directory.isFolder place := by
  rw [isFolder_eq_decide, isFolder_eq_decide, hsame]

theorem HoldsSame.isSome_nodeAt? (hsame : HoldsSame directory other) (place : Place) :
    (other.nodeAt? place).isSome = (directory.nodeAt? place).isSome := by
  simpa using congrArg Option.isSome (hsame place)

theorem HoldsSame.place?_eq (hsame : HoldsSame directory other) (path : String) :
    other.place? path = directory.place? path :=
  place?_of_isFolder hsame.isFolder_eq path

theorem HoldsSame.file?_map_fst (hsame : HoldsSame directory other) (path : String) :
    (other.file? path).map Prod.fst = (directory.file? path).map Prod.fst := by
  rw [file?_eq, file?_eq, hsame.place?_eq]
  cases directory.place? path with
  | none => rfl
  | some place =>
      rw [Option.bind_some, Option.bind_some, fileAt?_map_fst, fileAt?_map_fst, hsame]

theorem HoldsSame.isFile_eq (hsame : HoldsSame directory other) (path : String) :
    other.isFile path = directory.isFile path := by
  simpa [isFile] using congrArg Option.isSome (hsame.file?_map_fst path)

theorem EveryFile.of_holdsSame {property : Place → δ → Prop} (hevery : directory.EveryFile property)
    (hsame : HoldsSame directory other) : other.EveryFile property := by
  intro place content modified hfile
  have hcontents : (other.fileAt? place).map Prod.fst = (directory.fileAt? place).map Prod.fst := by
    rw [fileAt?_map_fst, fileAt?_map_fst, hsame]
  rw [hfile, Option.map_some, eq_comm, Option.map_eq_some_iff] at hcontents
  obtain ⟨⟨_, modifiedBefore⟩, hbefore, rfl⟩ := hcontents
  exact hevery place _ modifiedBefore hbefore

/-! ## What is done to a directory -/

theorem HoldsSame.insert (hsame : HoldsSame directory other) {place : Place} (hplace : place ≠ [])
    {node nodeOther : Node δ} (hnode : nodeOther.content? = node.content?) :
    HoldsSame (directory.insert place node) (other.insert place nodeOther) := by
  intro asked
  rw [nodeAt?_insert hplace, nodeAt?_insert hplace]
  split
  · exact congrArg some hnode
  · exact hsame asked

theorem HoldsSame.makeFoldersFrom (hsame : HoldsSame directory other) (here : Place)
    (way : List String) :
    (other.makeFoldersFrom here way).2 = (directory.makeFoldersFrom here way).2 ∧
      HoldsSame (directory.makeFoldersFrom here way).1 (other.makeFoldersFrom here way).1 := by
  induction way generalizing directory other here with
  | nil => exact ⟨rfl, hsame⟩
  | cons part rest ih =>
      simp only [Directory.makeFoldersFrom, hsame.isFolder_eq, hsame.isSome_nodeAt?]
      split
      · exact ih hsame (step here part)
      · rename_i hfolder
        split
        · exact ⟨rfl, hsame⟩
        · have hplace := ne_nil_of_not_isFolder (Bool.eq_false_iff.mpr hfolder)
          exact ih (hsame.insert hplace rfl) (step here part)

theorem HoldsSame.makeFolders (hsame : HoldsSame directory other) (path : String) :
    (other.makeFolders path).2 = (directory.makeFolders path).2 ∧
      HoldsSame (directory.makeFolders path).1 (other.makeFolders path).1 :=
  hsame.makeFoldersFrom [] (parts path)

/-- A file is written to both or to none, at whatever moments. -/
theorem HoldsSame.write? (hsame : HoldsSame directory other) (path : String) (content : δ)
    (now nowOther : Instant) :
    (directory.write? path content now = none ∧ other.write? path content nowOther = none) ∨
      ∃ next nextOther, directory.write? path content now = some next ∧
        other.write? path content nowOther = some nextOther ∧ HoldsSame next nextOther := by
  unfold Directory.write?
  rw [hsame.place?_eq]
  cases directory.place? path with
  | none => exact Or.inl ⟨rfl, rfl⟩
  | some place =>
      cases hname : place.getLast? with
      | none => simp [hname]
      | some name =>
          have hplace : place ≠ [] := by
            rintro rfl
            cases hname
          simp only [Option.bind_eq_bind, Option.bind_some, hname, hsame.isFolder_eq]
          split
          · exact Or.inl ⟨rfl, rfl⟩
          · exact Or.inr ⟨_, _, rfl, rfl, hsame.insert hplace rfl⟩

theorem HoldsSame.remove (hsame : HoldsSame directory other) (path : String) :
    HoldsSame (directory.remove path) (other.remove path) := by
  unfold Directory.remove
  rw [hsame.place?_eq, hsame.isFile_eq]
  cases hplace : directory.place? path with
  | none => exact hsame
  | some place =>
      dsimp only
      split
      · rename_i hfile
        obtain ⟨found, hfound⟩ := Option.isSome_iff_exists.mp hfile
        rw [file?_eq, hplace] at hfound
        have hnonempty := ne_nil_of_fileAt? hfound
        intro asked
        rw [nodeAt?_erase hnonempty, nodeAt?_erase hnonempty]
        split
        · rfl
        · exact hsame asked
      · exact hsame

end Directory

end PostalRegions.Storage
