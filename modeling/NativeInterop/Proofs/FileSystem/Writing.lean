import NativeInterop.FileSystem.Access

namespace NativeInterop.FileSystem

/-! What writing a file and making directories leave alone. Directories stay, so a path that leads
somewhere goes on leading there, and only the file that is written changes. -/

variable {files before middle after : FileSystem} {path : Path} {content : List UInt8}
  {location other here there : Location} {name : List Char} {names : List (List Char)}

theorem bind_eq_ok_iff {α β ε : Type} {first : Except ε α} {next : α → Except ε β} {result : β} :
    first >>= next = .ok result ↔ ∃ value, first = .ok value ∧ next value = .ok result := by
  cases first with
  | error error => simp [bind, Except.bind]
  | ok value => simp [bind, Except.bind]

theorem bind_eq_error_iff {α β ε : Type} {first : Except ε α} {next : α → Except ε β} {error : ε} :
    first >>= next = .error error ↔
      first = .error error ∨ ∃ value, first = .ok value ∧ next value = .error error := by
  cases first with
  | error error => simp [bind, Except.bind]
  | ok value => simp [bind, Except.bind]

/-! ### Directories that stay -/

structure KeepsDirectories (before after : FileSystem) : Prop where
  workingDirectory : after.workingDirectory = before.workingDirectory
  directories : ∀ location, before.entryAt? location = some .directory →
    after.entryAt? location = some .directory

theorem KeepsDirectories.refl (files : FileSystem) : KeepsDirectories files files :=
  ⟨rfl, fun _ found => found⟩

theorem KeepsDirectories.trans (first : KeepsDirectories before middle)
    (second : KeepsDirectories middle after) : KeepsDirectories before after :=
  ⟨second.workingDirectory.trans first.workingDirectory,
    fun location found => second.directories location (first.directories location found)⟩

theorem enter_eq_ok_iff :
    files.enter here name = .ok there ↔
      destination here name = .ok there ∧ files.entryAt? there = some .directory := by
  rw [enter, bind_eq_ok_iff]
  constructor
  · rintro ⟨location, reached, entered⟩
    split at entered
    · cases entered
    · cases entered
    · rename_i directory
      cases entered
      exact ⟨reached, directory⟩
  · rintro ⟨reached, directory⟩
    refine ⟨there, reached, ?_⟩
    rw [directory]
    rfl

theorem KeepsDirectories.enterAll (kept : KeepsDirectories before after)
    (entered : names.foldlM before.enter here = .ok there) :
    names.foldlM after.enter here = .ok there := by
  induction names generalizing here with
  | nil => exact entered
  | cons name names ih =>
      rw [List.foldlM_cons, bind_eq_ok_iff] at entered ⊢
      obtain ⟨next, first, later⟩ := entered
      obtain ⟨reached, directory⟩ := enter_eq_ok_iff.mp first
      exact ⟨next, enter_eq_ok_iff.mpr ⟨reached, kept.directories next directory⟩, ih later⟩

/-- Where the names of a path start. -/
def startOf (files : FileSystem) (path : Path) : Location :=
  if path.isAbsolute then [] else files.workingDirectory

/-- The names of a path but the last lead to a directory, and the last leads on from there. -/
theorem locate_eq_ok_iff :
    files.locate path = .ok location ↔
      path.text.contains '\x00' = false ∧ path.text.isEmpty = false ∧
        Text.Utf8.size path.text < pathLimit ∧
        match path.names.getLast? with
        | none => files.startOf path = location
        | some last =>
            ∃ directory, path.names.dropLast.foldlM files.enter (files.startOf path) = .ok directory ∧
              destination directory last = .ok location := by
  unfold locate
  split
  · simp_all
  · split
    · simp_all
    · split
      · rename_i long
        have notShort : ¬ Text.Utf8.size path.text < pathLimit := Nat.not_lt.mpr long
        simp [notShort]
      · cases path.names.getLast? with
        | none => simp_all [startOf]
        | some last => simp_all [startOf, bind_eq_ok_iff]

theorem KeepsDirectories.locate (kept : KeepsDirectories before after)
    (found : before.locate path = .ok location) : after.locate path = .ok location := by
  have start : after.startOf path = before.startOf path := by
    rw [startOf, startOf, kept.workingDirectory]
  rw [locate_eq_ok_iff] at found ⊢
  obtain ⟨plain, nonempty, short, leads⟩ := found
  refine ⟨plain, nonempty, short, ?_⟩
  rw [start]
  cases ends : path.names.getLast? with
  | none => simpa only [ends] using leads
  | some last =>
      simp only [ends] at leads ⊢
      obtain ⟨directory, entered, reached⟩ := leads
      exact ⟨directory, kept.enterAll entered, reached⟩

/-! ### Files that stay -/

/-- The content of a file, and whether it can be run. -/
def fileAt? (files : FileSystem) (location : Location) : Option (List UInt8 × Bool) :=
  match files.entryAt? location with
  | some (.file content executable) => some (content, executable)
  | _ => none

theorem fileAt?_put_of_ne {entry : Entry} (different : other ≠ location) (files : FileSystem) :
    (files.put location entry).fileAt? other = files.fileAt? other := by
  rw [fileAt?, fileAt?, entryAt?_put_of_ne different]

theorem read_of_fileAt? {executable : Bool} (found : files.locate path = .ok location)
    (plain : path.endsInSlash = false)
    (held : files.fileAt? location = some (content, executable)) :
    files.read path = .ok content := by
  have entry : files.entryAt? location = some (.file content executable) := by
    rw [fileAt?] at held
    split at held
    · rename_i stored
      cases held
      exact stored
    · contradiction
  have looked : files.lookup path = .ok (.file content executable) := by
    simp [lookup, found, entry, plain, bind, Except.bind, pure, Except.pure]
  rw [read, looked]
  rfl

/-- A file is written where its path leads, and nothing else is. -/
theorem exists_put_of_write (written : files.write path content = .ok after) :
    path.endsInSlash = false ∧
      ∃ location executable, files.locate path = .ok location ∧
        files.entryAt? location ≠ some .directory ∧
        after = files.put location (.file content executable) := by
  rw [write, bind_eq_ok_iff] at written
  obtain ⟨location, found, written⟩ := written
  cases slash : path.endsInSlash with
  | true =>
      rw [if_pos slash] at written
      cases written
  | false =>
      rw [if_neg (by simp [slash])] at written
      cases held : files.entryAt? location with
      | none =>
          simp only [held] at written
          cases written
          exact ⟨rfl, location, false, found, by simp [held], rfl⟩
      | some entry =>
          cases entry with
          | directory =>
              simp only [held] at written
              cases written
          | file previous executable =>
              simp only [held] at written
              cases written
              exact ⟨rfl, location, executable, found, by simp [held], rfl⟩

/-- Whatever can be read as a file can be written. -/
theorem exists_write_of_read {held : List UInt8} (readable : files.read path = .ok held)
    (content : List UInt8) : ∃ after, files.write path content = .ok after := by
  rw [read, bind_eq_ok_iff] at readable
  obtain ⟨entry, looked, readable⟩ := readable
  rw [lookup, bind_eq_ok_iff] at looked
  obtain ⟨location, found, looked⟩ := looked
  cases stored : files.entryAt? location with
  | none =>
      rw [stored] at looked
      cases looked
  | some there =>
      rw [stored] at looked
      cases there with
      | directory =>
          cases looked
          cases readable
      | file previous executable =>
          cases slash : path.endsInSlash with
          | true =>
              rw [slash] at looked
              cases looked
          | false =>
              exact ⟨files.put location (.file content executable),
                by simp [write, found, slash, stored, bind, Except.bind, pure, Except.pure]⟩

theorem keepsDirectories_write (written : files.write path content = .ok after) :
    KeepsDirectories files after := by
  obtain ⟨_, location, executable, _, free, rfl⟩ := exists_put_of_write written
  refine ⟨rfl, fun other directory => ?_⟩
  have different : other ≠ location := by
    rintro rfl
    exact free directory
  rw [entryAt?_put_of_ne different]
  exact directory

/-- The root is a directory, so a file is never written there. -/
theorem fileAt?_write_self (written : files.write path content = .ok after)
    (found : files.locate path = .ok location) :
    ∃ executable, after.fileAt? location = some (content, executable) := by
  obtain ⟨_, there, executable, reached, free, rfl⟩ := exists_put_of_write written
  obtain rfl : there = location := Except.ok.inj (reached.symm.trans found)
  have inside : there ≠ [] := by
    rintro rfl
    exact free rfl
  exact ⟨executable, by rw [fileAt?, entryAt?_put_self inside]⟩

theorem fileAt?_write_of_ne (written : files.write path content = .ok after)
    (elsewhere : files.locate path ≠ .ok other) :
    after.fileAt? other = files.fileAt? other := by
  obtain ⟨_, there, executable, reached, free, rfl⟩ := exists_put_of_write written
  refine fileAt?_put_of_ne ?_ files
  rintro rfl
  exact elsewhere reached

/-! ### Making directories -/

theorem fileAt?_createDirectory (made : files.createDirectory path = .ok after)
    (location : Location) : after.fileAt? location = files.fileAt? location := by
  rw [createDirectory, bind_eq_ok_iff] at made
  obtain ⟨there, _, made⟩ := made
  cases held : files.entryAt? there with
  | some entry =>
      simp only [held] at made
      cases made
  | none =>
      simp only [held] at made
      cases made
      by_cases same : location = there
      · have inside : there ≠ [] := by
          rintro rfl
          contradiction
        rw [same, fileAt?, fileAt?, entryAt?_put_self inside, held]
      · exact fileAt?_put_of_ne same files

theorem fileAt?_ensureDirectory (files : FileSystem) (path : Path) (location : Location) :
    (files.ensureDirectory path).2.fileAt? location = files.fileAt? location := by
  rw [ensureDirectory]
  cases made : files.createDirectory path with
  | error error => rfl
  | ok after => exact fileAt?_createDirectory made location

/-- Making directories touches no file, whether or not it gets to the end. -/
theorem fileAt?_createDirectories (files : FileSystem) (path : Path) (location : Location) :
    (files.createDirectories path).2.fileAt? location = files.fileAt? location := by
  fun_induction createDirectories files path with
  | case1 => rfl
  | case2 files path _ middle first _ =>
      have kept := fileAt?_ensureDirectory files path location
      rw [first] at kept
      exact kept
  | case3 files path _ middle first around _ _ last parents ih =>
      have kept := fileAt?_ensureDirectory files path location
      rw [first] at kept
      rw [parents] at ih
      exact (fileAt?_ensureDirectory last path location).trans (ih.trans kept)
  | case4 files path _ middle first around _ _ _ ih =>
      have kept := fileAt?_ensureDirectory files path location
      rw [first] at kept
      exact ih.trans kept
  | case5 files path => exact fileAt?_ensureDirectory files path location

end NativeInterop.FileSystem
