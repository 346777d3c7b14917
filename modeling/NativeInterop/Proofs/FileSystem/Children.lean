import NativeInterop.Proofs.FileSystem.Naming
import NativeInterop.Proofs.Text.Backtracking

namespace NativeInterop

open Text

/-! Children of a directory. A path that joins a file name to a directory has that directory as its
parent, however the directory is written. -/

namespace Path

variable {directory path : Path} {name other text : List Char}

/-- The names of a path that count: `.` does so only at the beginning of a relative path. -/
def components (path : Path) : List (List Char) :=
  let first := if path.isAbsolute then 0 else 1
  path.names.take first ++ (path.names.drop first).filter (· != ['.'])

/-- The paths have the same root, or none, and the same components. -/
structure Agrees (path other : Path) : Prop where
  isAbsolute : path.isAbsolute = other.isAbsolute
  components : path.components = other.components

theorem components_congr (root : path.isAbsolute = directory.isAbsolute)
    (names : path.names = directory.names) : path.components = directory.components := by
  rw [components, components, root, names]

theorem components_of_names_eq_nil (nameless : path.names = []) : path.components = [] := by
  simp [components, nameless]

theorem names_ne_nil (relative : path.isAbsolute = false) (written : path.text ≠ []) :
    path.names ≠ [] := by
  obtain ⟨c, rest, text⟩ := List.exists_cons_of_ne_nil written
  have joins : (c == '/') = false := by simpa [isAbsolute, text] using relative
  obtain ⟨first, others, cut⟩ :=
    List.exists_cons_of_ne_nil (segments_ne_nil (· == '/') rest)
  have whole : segments (· == '/') (c :: rest) = (c :: first) :: others :=
    segments_cons_of_not_separator (by exact joins) cut
  simp [names, text, whole]

/-! ### What does not count -/

theorem components_append_slash (text : List Char) :
    (Path.mk (text ++ ['/'])).components = (Path.mk text).components := by
  have same : (Path.mk (text ++ ['/'])).names = (Path.mk text).names := by
    rw [names_append]
    exact List.append_nil _
  cases text with
  | nil => rw [components_of_names_eq_nil same, components_of_names_eq_nil rfl]
  | cons c rest => exact components_congr rfl same

theorem components_append_here (text : List Char) :
    (Path.mk (text ++ ['/', '.'])).components = (Path.mk text).components := by
  have whole : (Path.mk (text ++ ['/', '.'])).names = (Path.mk text).names ++ [['.']] :=
    names_append text ['.']
  cases text with
  | nil => rfl
  | cons c rest =>
      have root : (Path.mk (c :: rest ++ ['/', '.'])).isAbsolute = (Path.mk (c :: rest)).isAbsolute :=
        rfl
      rw [components, components, whole, root]
      cases relative : (Path.mk (c :: rest)).isAbsolute with
      | true => simp
      | false =>
          obtain ⟨first, others, named⟩ :=
            List.exists_cons_of_ne_nil (names_ne_nil relative (List.cons_ne_nil c rest))
          simp [named]

/-- Leaving out what does not count at the end changes no component. -/
theorem components_trimEnd (backward : List Char) :
    (Path.mk (trimEnd backward).reverse).components = (Path.mk backward.reverse).components := by
  fun_induction trimEnd backward with
  | case1 rest ih => rw [ih, List.reverse_cons, components_append_slash]
  | case2 rest ih =>
      rw [ih, List.reverse_cons, List.reverse_cons, List.append_assoc]
      exact (components_append_here rest.reverse).symm
  | case3 => rfl

theorem trimEnd_suffix (backward : List Char) : trimEnd backward <:+ backward := by
  fun_induction trimEnd backward with
  | case1 rest ih => exact ih.trans (List.suffix_cons '/' rest)
  | case2 rest ih => exact ih.trans (List.suffix_append ['.', '/'] rest)
  | case3 text => exact List.suffix_refl text

theorem isAbsolute_of_beginning {kept text : List Char} (starts : kept <+: text)
    (some : kept ≠ []) : (Path.mk kept).isAbsolute = (Path.mk text).isAbsolute := by
  obtain ⟨c, rest, rfl⟩ := List.exists_cons_of_ne_nil some
  obtain ⟨later, rfl⟩ := starts
  rfl

/-! ### The parent of a joined path -/

/-- The text before the name, if it has any, ends in the slash between the two. -/
theorem slash_of_before_join (directory : Path) :
    ∀ c ∈ (directory.text ++ directory.gap).getLast?, c = '/' := by
  intro c last
  rw [gap, endsInSlash] at last
  cases empty : directory.text.isEmpty with
  | true => simp_all
  | false =>
      cases slash : directory.text.getLast? == some '/' with
      | true => simp_all
      | false =>
          simp only [empty, slash, Bool.or_self, Bool.false_eq_true, if_false,
            List.getLast?_concat, Option.mem_def, Option.some.injEq] at last
          exact last.symm

theorem trimEnd_fileName (plain : IsFileName name) (before : List Char) :
    trimEnd (name.reverse ++ before) = name.reverse ++ before := by
  have undivided : '/' ∉ name.reverse := fun slash => plain.undivided (List.mem_reverse.mp slash)
  obtain ⟨last, others, backward⟩ :=
    List.exists_cons_of_ne_nil (mt List.reverse_eq_nil_iff.mp plain.nonempty)
  rw [backward] at undivided
  rw [backward, List.cons_append]
  unfold trimEnd
  split
  · rename_i same
    obtain ⟨rfl, _⟩ := List.cons.inj same
    exact absurd (List.mem_cons_self ..) undivided
  · -- A name that is more than a dot has no slash after its last character.
    rename_i same
    obtain ⟨rfl, after⟩ := List.cons.inj same
    cases others with
    | nil => exact absurd (List.reverse_eq_iff.mp backward) plain.notHere
    | cons c others =>
        obtain ⟨rfl, _⟩ := List.cons.inj after
        simp at undivided
  · rfl

theorem lastComponent_join (plain : IsFileName name) :
    (directory.join ⟨name⟩).lastComponent = (name, (directory.text ++ directory.gap).reverse) := by
  have reversed : (directory.join ⟨name⟩).text.reverse =
      name.reverse ++ (directory.text ++ directory.gap).reverse := by
    rw [text_join plain, ← List.append_assoc, List.reverse_append]
  have undivided : ∀ c ∈ name.reverse, (c != '/') = true := by
    intro c member
    simpa using ne_of_mem_of_not_mem (List.mem_reverse.mp member) plain.undivided
  have stop : ∀ c ∈ (directory.text ++ directory.gap).reverse.head?, (c != '/') = false := by
    intro c first
    rw [List.head?_reverse] at first
    simpa using slash_of_before_join directory c first
  rw [lastComponent, reversed, trimEnd_fileName plain, takeWhile_append_stop undivided stop,
    dropWhile_append_stop undivided stop, List.reverse_reverse]

/-- The path leads to a name right inside the directory. -/
structure IsChild (directory : Path) (name : List Char) (path : Path) : Prop where
  fileName : path.fileName? = some name
  parent : ∃ parent, path.parent? = some parent ∧ parent.Agrees directory
  isAbsolute : path.isAbsolute = directory.isAbsolute
  components : path.components = directory.components ++ [name]

theorem components_join (plain : IsFileName name) :
    (directory.join ⟨name⟩).components = directory.components ++ [name] := by
  have counts : (name != ['.']) = true := by simpa using plain.notHere
  rw [components, components, isAbsolute_join plain, names_join plain]
  cases relative : directory.isAbsolute with
  | true => simp [counts]
  | false => cases directory.names <;> simp [counts]

theorem agrees_before_join (directory : Path) :
    (Path.mk (directory.text ++ directory.gap)).Agrees directory := by
  rw [gap]
  split
  · rw [List.append_nil]
    exact ⟨rfl, rfl⟩
  · rename_i joined
    have some : directory.text ≠ [] := by
      intro empty
      simp [empty] at joined
    exact ⟨(isAbsolute_of_beginning (List.prefix_append _ _) some).symm, components_append_slash _⟩

theorem parent?_join (plain : IsFileName name) :
    ∃ parent, (directory.join ⟨name⟩).parent? = some parent ∧ parent.Agrees directory := by
  have around := agrees_before_join directory
  generalize before : directory.text ++ directory.gap = text at around
  have same : (Path.mk (trimEnd text.reverse).reverse).components = directory.components := by
    rw [components_trimEnd, List.reverse_reverse, around.components]
  have named : name.isEmpty = false := by simpa using plain.nonempty
  rw [parent?, lastComponent_join plain, before]
  simp only [named, isAbsolute_join plain, Bool.false_eq_true, if_false, Option.some.injEq,
    exists_eq_left']
  cases empty : (trimEnd text.reverse).reverse.isEmpty with
  | true =>
      -- Nothing is left of the directory, which is the root or where relative paths begin.
      rw [List.isEmpty_iff.mp empty] at same ⊢
      cases root : directory.isAbsolute with
      | true => exact ⟨root.symm, same⟩
      | false => exact ⟨root.symm, same⟩
  | false =>
      have starts : (trimEnd text.reverse).reverse <+: text := by
        have suffix := trimEnd_suffix text.reverse
        rwa [← List.reverse_prefix, List.reverse_reverse] at suffix
      exact ⟨(isAbsolute_of_beginning starts (by simpa using empty)).trans around.isAbsolute, same⟩

theorem isChild_join (plain : IsFileName name) :
    IsChild directory name (directory.join ⟨name⟩) where
  fileName := by
    rw [fileName?, lastComponent_join plain]
    simp [plain.nonempty, plain.notHere, plain.notAround]
  parent := parent?_join plain
  isAbsolute := isAbsolute_join plain
  components := components_join plain

end Path

end NativeInterop
