import NativeInterop.Proofs.Generation.Grouping

namespace NativeInterop

open Log Text

/-! What is read or run for the listing of a binary. A text source reads the binary as a listing, an
image source its export table, and only a tool source runs a program; what the program does to the
files stays. -/

variable {runner : Runner} {tool binary : Path} {files : FileSystem} {kind : SourceKind}
  {effect : Effect (List Char)}

/-- The listing of a binary by each kind of source, and the files as they are then. -/
inductive ListedBy (runner : Runner) (tool binary : Path) (files : FileSystem) :
    SourceKind → Effect (List Char) → Prop
  | text {content : List Char} (read : files.readText binary = .ok content) :
      ListedBy runner tool binary files .text ⟨.ok content, files⟩
  | unreadableText {error : IoError} (refused : files.readText binary = .error error) :
      ListedBy runner tool binary files .text ⟨.error (.io error), files⟩
  | image {bytes : List UInt8} {width : Pe.Width} {lines : List (List Char)}
      (read : files.read binary = .ok bytes)
      (image : Pe.FileKind.ofBytes bytes = .ok (.image width))
      (listed : Pe.exportLines width bytes = .ok lines) :
      ListedBy runner tool binary files .pe ⟨.ok (List.intercalate ['\n'] lines), files⟩
  | noImage {bytes : List UInt8} (read : files.read binary = .ok bytes)
      (other : Pe.FileKind.ofBytes bytes = .ok .other) :
      ListedBy runner tool binary files .pe
        ⟨.error (.notPortableExecutable binary.display), files⟩
  | brokenImage {bytes : List UInt8} {fault : Pe.Fault} (read : files.read binary = .ok bytes)
      (broken : Pe.FileKind.ofBytes bytes = .error fault ∨ ∃ width,
        Pe.FileKind.ofBytes bytes = .ok (.image width) ∧
          Pe.exportLines width bytes = .error fault) :
      ListedBy runner tool binary files .pe
        ⟨.error (.exportTable (binary.display ++ ": " ++ fault.message)), files⟩
  | unreadableImage {error : IoError} (refused : files.read binary = .error error) :
      ListedBy runner tool binary files .pe ⟨.error (.io error), files⟩
  | tool {stdout stderr : List UInt8} {after : FileSystem}
      (sayable : '\x00' ∉ tool.text ++ binary.text)
      (ran : runner files tool ["/EXPORTS".toList, binary.text] =
        .ok ⟨.exited 0, stdout, stderr, after⟩) :
      ListedBy runner tool binary files .dumpbin ⟨.ok (Utf8.decodeLossy stdout), after⟩
  | failedTool {finished : Finished} (sayable : '\x00' ∉ tool.text ++ binary.text)
      (ran : runner files tool ["/EXPORTS".toList, binary.text] = .ok finished)
      (failed : finished.ending ≠ .exited 0) :
      ListedBy runner tool binary files .dumpbin
        ⟨.error (.toolFailed tool.display finished.ending.text
          (String.ofList (trim (Utf8.decodeLossy finished.stderr)))), finished.files⟩
  | missingTool {error : IoError} (sayable : '\x00' ∉ tool.text ++ binary.text)
      (refused : runner files tool ["/EXPORTS".toList, binary.text] = .error error) :
      ListedBy runner tool binary files .dumpbin ⟨.error (.io error), files⟩
  | unsayable (zero : '\x00' ∈ tool.text ++ binary.text) :
      ListedBy runner tool binary files .dumpbin ⟨.error (.io .nulInArgument), files⟩

namespace Source

theorem value_listing_textSource (binary : Path) (files : FileSystem) :
    (textSource.listing binary files).value =
      ⟨(files.readText binary).mapError .io, files⟩ := by
  simp only [textSource, textListing, Logged.value_bind, Logged.value_pure, Effect.reading]
  cases files.readText binary <;> rfl

theorem value_listing_imageSource (binary : Path) (files : FileSystem) :
    (imageSource.listing binary files).value =
      ⟨((files.read binary).mapError .io >>= imageLines binary).map (List.intercalate ['\n'] ·),
        files⟩ := by
  simp only [imageSource, imageListing, Logged.value_bind, Logged.value_pure, Effect.reading]
  cases (files.read binary).mapError BindingError.io >>= imageLines binary <;> rfl

theorem value_listing_toolSource (runner : Runner) (tool binary : Path) (files : FileSystem) :
    ((toolSource runner tool).listing binary files).value =
      match runTool runner files tool [exportsOption, binary.text] with
      | .error error => ⟨.error (.io error), files⟩
      | .ok finished => ⟨toolListing tool finished, finished.files⟩ := by
  simp only [toolSource, Logged.value_bind]
  cases runTool runner files tool [exportsOption, binary.text] with
  | error error => rfl
  | ok finished => cases told : toolListing tool finished <;> simp only [told] <;> rfl

/-- Texts that hold a zero cannot be told to the system. -/
theorem runTool_eq (runner : Runner) (files : FileSystem) (tool binary : Path) :
    runTool runner files tool [exportsOption, binary.text] =
      if '\x00' ∈ tool.text ++ binary.text then .error .nulInArgument
      else runner files tool ["/EXPORTS".toList, binary.text] := by
  have option : hasNul exportsOption = false := by decide
  have told : (hasNul tool.text || [exportsOption, binary.text].any hasNul) =
      decide ('\x00' ∈ tool.text ++ binary.text) := by
    rw [Bool.eq_iff_iff, decide_eq_true_iff]
    simp only [List.any_cons, List.any_nil, option, Bool.or_false, Bool.false_or, Bool.or_eq_true,
      List.mem_append]
    simp only [hasNul, List.contains_iff_mem]
  rw [runTool, told]
  simp only [decide_eq_true_eq]
  rfl

theorem listedBy_text_iff :
    ListedBy runner tool binary files .text effect ↔
      (textSource.listing binary files).value = effect := by
  rw [value_listing_textSource]
  constructor
  · rintro (read | refused)
    · rw [read]
      rfl
    · rw [refused]
      rfl
  · rintro rfl
    cases read : files.readText binary with
    | error error => exact .unreadableText read
    | ok content => exact .text read

theorem listedBy_image_iff :
    ListedBy runner tool binary files .pe effect ↔
      (imageSource.listing binary files).value = effect := by
  rw [value_listing_imageSource]
  constructor
  · intro listed
    cases listed with
    | image read image listed =>
        simp only [read, imageLines, image, listed, Except.mapError, bind, Except.bind, Except.map]
    | noImage read other =>
        simp only [read, imageLines, other, Except.mapError, bind, Except.bind]
        rfl
    | brokenImage read broken =>
        rcases broken with unknown | ⟨width, image, broken⟩
        · simp only [read, imageLines, unknown, Except.mapError, bind, Except.bind]
          rfl
        · simp only [read, imageLines, image, broken, Except.mapError, bind, Except.bind]
          rfl
    | unreadableImage refused =>
        rw [refused]
        rfl
  · rintro rfl
    cases read : files.read binary with
    | error error => exact .unreadableImage read
    | ok bytes =>
        simp only [Except.mapError, bind, Except.bind, imageLines]
        cases found : Pe.FileKind.ofBytes bytes with
        | error fault => exact .brokenImage read (.inl found)
        | ok kind =>
            cases kind with
            | other => exact .noImage read found
            | image width =>
                cases listed : Pe.exportLines width bytes with
                | error fault =>
                    simp only [listed]
                    exact .brokenImage read (.inr ⟨width, found, listed⟩)
                | ok lines =>
                    simp only [listed]
                    exact .image read found listed

theorem toolListing_of_failed {finished : Finished} (failed : finished.ending ≠ .exited 0) :
    toolListing tool finished = .error (.toolFailed tool.display finished.ending.text
      (String.ofList (trim (Utf8.decodeLossy finished.stderr)))) :=
  if_neg (by simpa using failed)

theorem listedBy_tool_iff :
    ListedBy runner tool binary files .dumpbin effect ↔
      ((toolSource runner tool).listing binary files).value = effect := by
  rw [value_listing_toolSource, runTool_eq]
  constructor
  · intro listed
    cases listed with
    | tool sayable ran =>
        rw [if_neg sayable, ran]
        rfl
    | failedTool sayable ran failed =>
        rw [if_neg sayable, ran]
        simp only [toolListing_of_failed failed]
    | missingTool sayable refused => rw [if_neg sayable, refused]
    | unsayable zero => rw [if_pos zero]
  · rintro rfl
    split_ifs with zero
    · exact .unsayable zero
    · cases ran : runner files tool ["/EXPORTS".toList, binary.text] with
      | error error => exact .missingTool zero ran
      | ok finished =>
          by_cases succeeded : finished.ending = .exited 0
          · obtain ⟨ending, stdout, stderr, after⟩ := finished
            obtain rfl : ending = .exited 0 := succeeded
            exact .tool zero ran
          · simp only [toolListing_of_failed succeeded]
            exact .failedTool zero ran succeeded

/-- A tool that leaves the files alone makes a source that only reads. -/
theorem readsOnly_toolSource
    (keeps : ∀ files tool arguments finished, runner files tool arguments = .ok finished →
      finished.files = files) (tool : Path) : (toolSource runner tool).ReadsOnly := by
  intro binary files
  rw [value_listing_toolSource, runTool_eq]
  split_ifs
  · rfl
  · cases ran : runner files tool ["/EXPORTS".toList, binary.text] with
    | error error => rfl
    | ok finished => exact keeps _ _ _ _ ran

end Source

/-- There is one way to list a binary, and the source of the kind goes it. Where no tool is chosen
the kind has one of its own. -/
theorem SourceKind.listedBy_iff (chosen : Option Path) :
    ListedBy runner (chosen.getD (.ofString "dumpbin.exe")) binary files kind effect ↔
      ((kind.source runner chosen).listing binary files).value = effect := by
  cases kind with
  | dumpbin => exact Source.listedBy_tool_iff
  | pe => exact Source.listedBy_image_iff
  | text => exact Source.listedBy_text_iff

end NativeInterop
