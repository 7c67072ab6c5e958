import PostalRegions.Storage.Directory

/-!
# Files of a directory by their places

A directory is seen as the files at its places.  Each operation on directories has one equation
through this view: making folders changes no file, a write changes the file at one place, and a
removal takes away the file at one place.  The place that a path leads to does not depend on the
directory, as far as the path can be followed at all.
-/

namespace PostalRegions.Storage

/-- Where the parts of a path lead if all folders on the way are there. -/
def route (here : Place) (way : List String) : Place :=
  way.foldl step here

/-- The place that a path leads to if all folders on the way are there. -/
def destination (path : String) : Place :=
  route [] (parts path)

/-! ## Names in a folder -/

theorem parts_of_no_slash {name : String} (hname : '/' ∉ name.toList) : parts name = [name] := by
  unfold parts
  rw [List.splitOn_eq_singleton hname]
  simp

theorem parts_append_slash (folder name : String) :
    parts (folder ++ "/" ++ name) = parts folder ++ parts name := by
  have hlist : (folder ++ "/" ++ name).toList = folder.toList ++ '/' :: name.toList := by
    simp
  unfold parts
  rw [hlist, List.splitOn_append_cons_self, List.map_append]

theorem isPrefixOf_slash {name : String} (hname : '/' ∉ name.toList) :
    "/".isPrefixOf name = false := by
  rw [Bool.eq_false_iff]
  intro hcontinues
  have hlist : "/".toList <+: name.toList := String.startsWith_string_iff.mp hcontinues
  exact hname (hlist.subset (by decide))

/-- A name in a folder leads one step on from where the folder leads. -/
theorem destination_join {folder name : String} (hname : '/' ∉ name.toList) :
    destination (join folder name) = step (destination folder) name := by
  have hend (front : String) :
      destination (front ++ "/" ++ name) = step (destination front) name := by
    unfold destination route
    rw [parts_append_slash, parts_of_no_slash hname, List.foldl_append, List.foldl_cons,
      List.foldl_nil]
  unfold join
  rw [isPrefixOf_slash hname, Bool.false_or]
  by_cases hempty : folder.isEmpty = true
  · have hfolder : folder = "" := by simpa using hempty
    have hroot : destination "" = [] := by decide +kernel
    rw [if_pos hempty, hfolder, hroot]
    unfold destination
    rw [parts_of_no_slash hname]
    rfl
  · rw [if_neg hempty]
    by_cases hslash : folder.toList.getLast? = some '/'
    · obtain ⟨front, hfront⟩ := List.getLast?_eq_some_iff.mp hslash
      have hfolder : folder = String.ofList front ++ "/" ++ "" := by
        apply String.toList_injective
        simp [hfront]
      have hsame : destination folder = destination (String.ofList front) := by
        unfold destination route
        rw [hfolder, parts_append_slash, List.foldl_append,
          parts_of_no_slash (by decide : '/' ∉ "".toList)]
        rfl
      have hjoined : folder ++ name = String.ofList front ++ "/" ++ name := by
        rw [hfolder]
        simp
      rw [if_pos hslash, hjoined, hend, hsame]
    · rw [if_neg hslash, hend]

theorem step_cases (here : Place) {part : String} (hpart : part ≠ "") :
    (part = "." ∧ step here part = here) ∨ (part = ".." ∧ step here part = here.dropLast) ∨
      step here part = here ++ [part] := by
  unfold step
  by_cases hstay : part = "."
  · rw [if_pos (Or.inr hstay)]
    exact Or.inl ⟨hstay, rfl⟩
  · rw [if_neg (by simp [hpart, hstay])]
    by_cases hback : part = ".."
    · rw [if_pos hback]
      exact Or.inr (Or.inl ⟨hback, rfl⟩)
    · rw [if_neg hback]
      exact Or.inr (Or.inr rfl)

/-- Different names lead to different places, but for the two that stay at the root. -/
theorem step_injective {here : Place} {name other : String} (hname : name ≠ "")
    (hother : other ≠ "") (hplace : step here name ≠ [])
    (hsame : step here name = step here other) : name = other := by
  have hlength : (step here name).length = (step here other).length := by rw [hsame]
  have hpositive := List.length_pos_iff.mpr hplace
  rcases step_cases here hname with ⟨rfl, hstep⟩ | ⟨rfl, hstep⟩ | hstep
  · rcases step_cases here hother with ⟨rfl, _⟩ | ⟨rfl, hstepOther⟩ | hstepOther
    · rfl
    · rw [hstep, hstepOther, List.length_dropLast] at hlength
      rw [hstep] at hpositive
      omega
    · rw [hstep, hstepOther, List.length_append, List.length_singleton] at hlength
      omega
  · rcases step_cases here hother with ⟨rfl, hstepOther⟩ | ⟨rfl, _⟩ | hstepOther
    · rw [hstep, hstepOther, List.length_dropLast] at hlength
      rw [hstep, List.length_dropLast] at hpositive
      omega
    · rfl
    · rw [hstep, hstepOther, List.length_dropLast, List.length_append,
        List.length_singleton] at hlength
      omega
  · rcases step_cases here hother with ⟨rfl, hstepOther⟩ | ⟨rfl, hstepOther⟩ | hstepOther
    · rw [hstep, hstepOther, List.length_append, List.length_singleton] at hlength
      omega
    · rw [hstep, hstepOther, List.length_dropLast, List.length_append,
        List.length_singleton] at hlength
      omega
    · rw [hstep, hstepOther] at hsame
      simpa using List.append_cancel_left hsame

/-- Different names in one folder have different destinations. -/
theorem destination_join_injective {folder name other : String} {place : Place}
    (hname : name ≠ "") (hother : other ≠ "") (hslash : '/' ∉ name.toList)
    (hslashOther : '/' ∉ other.toList) (hnonempty : place ≠ [])
    (hplace : destination (join folder name) = place)
    (hplaceOther : destination (join folder other) = place) : name = other := by
  rw [destination_join hslash] at hplace
  rw [destination_join hslashOther] at hplaceOther
  apply step_injective hname hother
  · rw [hplace]
    exact hnonempty
  · rw [hplace, hplaceOther]

/-- A name of more than two characters is no step in place and no step back. -/
theorem step_of_long {part : String} (hlong : 2 < part.length) (here : Place) :
    step here part = here ++ [part] := by
  have hempty : part ≠ "" := by
    rintro rfl
    exact absurd hlong (by decide)
  have hstay : part ≠ "." := by
    rintro rfl
    exact absurd hlong (by decide)
  have hback : part ≠ ".." := by
    rintro rfl
    exact absurd hlong (by decide)
  simp [step, hempty, hstay, hback]

/-- What lies in a folder does not lie beside that folder. -/
theorem destination_join_join_ne {folder inner outer name : String}
    (hinner : '/' ∉ inner.toList) (hinnerLong : 2 < inner.length)
    (houter : '/' ∉ outer.toList) (houterLong : 2 < outer.length) (hdiffer : inner ≠ outer)
    (hname : '/' ∉ name.toList) (hnonempty : name ≠ "") :
    destination (join (join folder inner) name) ≠ destination (join folder outer) := by
  rw [destination_join hname, destination_join hinner, destination_join houter,
    step_of_long hinnerLong, step_of_long houterLong]
  intro hplace
  have hlength := congrArg List.length hplace
  rcases step_cases (destination folder ++ [inner]) hnonempty with
    ⟨_, hsame⟩ | ⟨_, hback⟩ | hin
  · rw [hsame] at hplace
    exact hdiffer (by simpa using hplace)
  · simp [hback] at hlength
  · simp [hin] at hlength

namespace Directory

variable {δ : Type}

theorem route_of_follow? {directory : Directory δ} {here place : Place} {way : List String}
    (hfollow : directory.follow? here way = some place) : route here way = place := by
  induction way generalizing here with
  | nil => exact Option.some.inj hfollow
  | cons part rest ih =>
      rw [follow?] at hfollow
      split at hfollow
      · exact ih hfollow
      · cases hfollow

theorem destination_of_place? {directory : Directory δ} {path : String} {place : Place}
    (hplace : directory.place? path = some place) : destination path = place :=
  route_of_follow? hplace

/-! ## The view -/

def fileAt? (directory : Directory δ) (place : Place) : Option (δ × Instant) :=
  match directory.nodeAt? place with
  | some (.file content modified) => some (content, modified)
  | _ => none

theorem nodeAt?_of_ne {place : Place} (hplace : place ≠ []) (directory : Directory δ) :
    directory.nodeAt? place = directory.nodes[place]? :=
  if_neg hplace

@[simp] theorem fileAt?_empty (place : Place) : (empty : Directory δ).fileAt? place = none := by
  unfold fileAt? nodeAt?
  split <;> simp_all [empty]

/-- The root is no file. -/
theorem ne_nil_of_fileAt? {directory : Directory δ} {place : Place} {found : δ × Instant}
    (hfile : directory.fileAt? place = some found) : place ≠ [] := by
  rintro rfl
  cases hfile

theorem ne_nil_of_not_isFolder {directory : Directory δ} {place : Place}
    (hfolder : directory.isFolder place = false) : place ≠ [] := by
  rintro rfl
  cases hfolder

theorem nodeAt?_insert {place : Place} (hplace : place ≠ []) (directory : Directory δ)
    (node : Node δ) (other : Place) :
    (directory.insert place node).nodeAt? other =
      if other = place then some node else directory.nodeAt? other := by
  by_cases hother : place = other
  · subst other
    rw [nodeAt?_of_ne hplace, insert, Std.ExtTreeMap.getElem?_insert_self, if_pos rfl]
  · have hcompare : compare place other ≠ .eq := fun h => hother (Std.compare_eq_iff_eq.mp h)
    rw [if_neg (Ne.symm hother)]
    unfold nodeAt? insert
    rw [Std.ExtTreeMap.getElem?_insert, if_neg hcompare]

theorem file?_eq (directory : Directory δ) (path : String) :
    directory.file? path = (directory.place? path).bind directory.fileAt? := by
  unfold file? node?
  cases directory.place? path <;> rfl

theorem fileAt?_destination_of_file? {directory : Directory δ} {path : String}
    {found : δ × Instant} (hfile : directory.file? path = some found) :
    directory.fileAt? (destination path) = some found := by
  rw [file?_eq] at hfile
  obtain ⟨place, hplace, hfound⟩ := Option.bind_eq_some_iff.mp hfile
  rw [destination_of_place? hplace]
  exact hfound

theorem fileAt?_insert_file {place : Place} (hplace : place ≠ []) (directory : Directory δ)
    (other : Place) (content : δ) (modified : Instant) :
    (directory.insert place (.file content modified)).fileAt? other =
      if other = place then some (content, modified) else directory.fileAt? other := by
  unfold fileAt?
  rw [nodeAt?_insert hplace]
  by_cases hother : other = place
  · simp [hother]
  · simp [hother]

theorem fileAt?_insert_folder {directory : Directory δ} {place : Place}
    (hvacant : directory.nodeAt? place = none) (other : Place) :
    (directory.insert place .folder).fileAt? other = directory.fileAt? other := by
  have hplace : place ≠ [] := by
    rintro rfl
    cases hvacant
  unfold fileAt?
  rw [nodeAt?_insert hplace]
  by_cases hother : other = place
  · simp [hother, hvacant]
  · simp [hother]

theorem fileAt?_makeFoldersFrom (directory : Directory δ) (here : Place) (way : List String)
    (other : Place) :
    (directory.makeFoldersFrom here way).1.fileAt? other = directory.fileAt? other := by
  induction way generalizing directory here with
  | nil => rfl
  | cons part rest ih =>
      rw [makeFoldersFrom]
      split
      · exact ih directory (step here part)
      · split
        · rfl
        · rename_i hblocked
          simp only [Bool.or_eq_true, not_or, Bool.not_eq_true, Option.isSome_eq_false_iff,
            Option.isNone_iff_eq_none] at hblocked
          rw [ih]
          exact fileAt?_insert_folder hblocked.1 other

def SameFiles (directory next : Directory δ) : Prop :=
  ∀ place, next.fileAt? place = directory.fileAt? place

/-- A file was written at a place, and no other file was touched. -/
def FileWritten (directory next : Directory δ) (place : Place) (content : δ) (now : Instant) :
    Prop :=
  ∀ other, next.fileAt? other =
    if other = place then some (content, now) else directory.fileAt? other

theorem sameFiles_of_makeFolders {directory made : Directory δ} {path : String} {done : Bool}
    (hmake : directory.makeFolders path = (made, done)) : SameFiles directory made := by
  intro place
  have hfolders := fileAt?_makeFoldersFrom directory [] (parts path) place
  unfold makeFolders at hmake
  rw [hmake] at hfolders
  exact hfolders

theorem FileWritten.ne_nil {directory next : Directory δ} {place : Place} {content : δ}
    {now : Instant} (hwritten : FileWritten directory next place content now) : place ≠ [] := by
  have hfound := hwritten place
  rw [if_pos rfl] at hfound
  exact ne_nil_of_fileAt? hfound

/-- A file is written where its path leads, if that is no folder. -/
theorem write?_eq_some {directory next : Directory δ} {path : String} {content : δ}
    {now : Instant} (hwrite : directory.write? path content now = some next) :
    ∃ place, directory.place? path = some place ∧ directory.isFolder place = false ∧
      next = directory.insert place (.file content now) := by
  unfold write? at hwrite
  obtain ⟨place, hplace, hwrite⟩ := Option.bind_eq_some_iff.mp hwrite
  obtain ⟨name, _, hwrite⟩ := Option.bind_eq_some_iff.mp hwrite
  split at hwrite
  · cases hwrite
  · rename_i hfree
    simp only [Bool.or_eq_true, not_or, Bool.not_eq_true] at hfree
    exact ⟨place, hplace, hfree.1, (Option.some.inj hwrite).symm⟩

theorem fileWritten_of_write? {directory next : Directory δ} {path : String} {content : δ}
    {now : Instant} (hwrite : directory.write? path content now = some next) :
    FileWritten directory next (destination path) content now := by
  obtain ⟨place, hplace, hfolder, rfl⟩ := write?_eq_some hwrite
  rw [destination_of_place? hplace]
  exact fun other =>
    fileAt?_insert_file (ne_nil_of_not_isFolder hfolder) directory other content now

/-- A file in place of no folder leads no path elsewhere. -/
theorem isFolder_insert_file {directory : Directory δ} {place : Place}
    (hplace : directory.isFolder place = false) (content : δ) (modified : Instant) (other : Place) :
    (directory.insert place (.file content modified)).isFolder other =
      directory.isFolder other := by
  by_cases hother : other = place
  · subst other
    rw [hplace, isFolder, nodeAt?_insert (ne_nil_of_not_isFolder hplace), if_pos rfl]
  · unfold isFolder
    rw [nodeAt?_insert (ne_nil_of_not_isFolder hplace), if_neg hother]

theorem follow?_of_isFolder {directory next : Directory δ}
    (hfolders : ∀ place, next.isFolder place = directory.isFolder place) (here : Place)
    (way : List String) : next.follow? here way = directory.follow? here way := by
  induction way generalizing here with
  | nil => rfl
  | cons part rest ih =>
      rw [follow?, follow?, hfolders]
      simp only [ih]

theorem place?_of_isFolder {directory next : Directory δ}
    (hfolders : ∀ place, next.isFolder place = directory.isFolder place) (path : String) :
    next.place? path = directory.place? path := by
  unfold place?
  rw [follow?_of_isFolder hfolders]

/-- What was written is found. -/
theorem file?_of_write? {directory next : Directory δ} {path : String} {content : δ}
    {now : Instant} (hwrite : directory.write? path content now = some next) :
    next.file? path = some (content, now) := by
  obtain ⟨place, hplace, hfolder, rfl⟩ := write?_eq_some hwrite
  rw [file?_eq, place?_of_isFolder (isFolder_insert_file hfolder content now), hplace,
    Option.bind_some, fileAt?_insert_file (ne_nil_of_not_isFolder hfolder), if_pos rfl]

/-- A write touches one file, also where folders were made for it. -/
theorem fileWritten_of_makeFolders {directory made next : Directory δ} {folder path : String}
    {done : Bool} {content : δ} {now : Instant}
    (hmake : directory.makeFolders folder = (made, done))
    (hwrite : made.write? path content now = some next) :
    FileWritten directory next (destination path) content now := by
  intro other
  rw [fileWritten_of_write? hwrite other, sameFiles_of_makeFolders hmake other]

theorem nodeAt?_erase {place : Place} (hplace : place ≠ []) (directory : Directory δ)
    (asked : Place) :
    (⟨directory.nodes.erase place⟩ : Directory δ).nodeAt? asked =
      if asked = place then none else directory.nodeAt? asked := by
  by_cases hasked : asked = place
  · subst asked
    rw [nodeAt?_of_ne hplace, Std.ExtTreeMap.getElem?_erase_self, if_pos rfl]
  · have hcompare : compare place asked ≠ .eq :=
      fun h => hasked (Std.compare_eq_iff_eq.mp h).symm
    rw [if_neg hasked]
    unfold nodeAt?
    rw [Std.ExtTreeMap.getElem?_erase, if_neg hcompare]

theorem fileAt?_remove (directory : Directory δ) (path : String) (other : Place) :
    (directory.remove path).fileAt? other =
      if directory.place? path = some other then none else directory.fileAt? other := by
  unfold remove
  cases hplace : directory.place? path with
  | none => simp
  | some place =>
      simp only [Option.some.injEq]
      split
      · rename_i hfile
        obtain ⟨found, hfound⟩ := Option.isSome_iff_exists.mp hfile
        rw [file?_eq, hplace] at hfound
        unfold fileAt?
        rw [nodeAt?_erase (ne_nil_of_fileAt? hfound)]
        by_cases hother : place = other
        · rw [if_pos hother, if_pos hother.symm]
        · rw [if_neg hother, if_neg (Ne.symm hother)]
      · rename_i hfile
        split
        · rename_i hother
          subst other
          simpa [isFile, file?_eq, hplace] using hfile
        · rfl

theorem fileAt?_remove_of_file? {directory : Directory δ} {path : String} {found : δ × Instant}
    (hfile : directory.file? path = some found) (other : Place) :
    (directory.remove path).fileAt? other =
      if destination path = other then none else directory.fileAt? other := by
  rw [file?_eq] at hfile
  obtain ⟨place, hplace, _⟩ := Option.bind_eq_some_iff.mp hfile
  rw [fileAt?_remove, hplace, destination_of_place? hplace]
  simp only [Option.some.injEq]

/-- A removal brings no file into the directory. -/
theorem fileAt?_of_fileAt?_remove {directory : Directory δ} {path : String} {place : Place}
    {found : δ × Instant} (hfound : (directory.remove path).fileAt? place = some found) :
    directory.fileAt? place = some found := by
  rw [fileAt?_remove] at hfound
  split at hfound
  · cases hfound
  · exact hfound

/-! ## What all files have in common -/

/-- The contents of all files have a property, each at its place. -/
def EveryFile (property : Place → δ → Prop) (directory : Directory δ) : Prop :=
  ∀ place content modified,
    directory.fileAt? place = some (content, modified) → property place content

variable {property : Place → δ → Prop} {directory next : Directory δ}

theorem everyFile_empty : EveryFile property (empty : Directory δ) := by
  intro place content modified hfile
  simp at hfile

theorem EveryFile.of_file? (hevery : directory.EveryFile property) {path : String} {content : δ}
    {modified : Instant} (hfile : directory.file? path = some (content, modified)) :
    property (destination path) content :=
  hevery (destination path) content modified (fileAt?_destination_of_file? hfile)

theorem EveryFile.of_sameFiles (hevery : directory.EveryFile property)
    (hsame : SameFiles directory next) : next.EveryFile property := by
  intro place content modified hfile
  rw [hsame place] at hfile
  exact hevery place content modified hfile

theorem EveryFile.of_fileWritten (hevery : directory.EveryFile property) {place : Place}
    {content : δ} {now : Instant} (hwritten : FileWritten directory next place content now)
    (hcontent : property place content) : next.EveryFile property := by
  intro other found modified hfile
  rw [hwritten other] at hfile
  split at hfile
  · rename_i hother
    cases hfile
    rw [hother]
    exact hcontent
  · exact hevery other found modified hfile

theorem EveryFile.remove (hevery : directory.EveryFile property) (path : String) :
    (directory.remove path).EveryFile property := by
  intro place content modified hfile
  exact hevery place content modified (fileAt?_of_fileAt?_remove hfile)

end Directory

end PostalRegions.Storage
