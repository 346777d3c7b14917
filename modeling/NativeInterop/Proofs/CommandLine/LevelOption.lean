import Mathlib
import NativeInterop.Proofs.CommandLine.Moves

namespace NativeInterop.CommandLine

/-! The level of the log may be given anywhere among the arguments. The other settings do not see a
level beside them. -/

open FileSystem (bind_eq_ok_iff)

variable {level : Level} {reading other next resolved last inner : Reading}
  {setting asked : Setting} {text value name : List Char}
  {arguments before after rest : List (List Char)} {command : Command} {invocation : Invocation}

/-! ### A level beside the other settings -/

/-- The second reading is the first with a level of the log. -/
structure Levelled (value : List Char) (reading other : Reading) : Prop where
  pending : other.pending = reading.pending
  positionals : other.positionals = reading.positionals
  escaped : other.escaped = reading.escaped
  unset : reading.get? .logLevel = none
  level : other.get? .logLevel = some value
  settings : ∀ setting, setting ≠ .logLevel → other.get? setting = reading.get? setting

theorem Levelled.awaits (levelled : Levelled value reading other) :
    other.awaits = reading.awaits := by
  rw [Reading.awaits, Reading.awaits, levelled.pending, levelled.escaped]

theorem levelled_add (levelled : Levelled value reading other) {given : List Char}
    (added : reading.add setting given = .ok next) (unset : next.get? .logLevel = none) :
    ∃ after, other.add setting given = .ok after ∧ Levelled value next after := by
  obtain ⟨fresh, accepted, rfl⟩ := add_eq_ok_iff.mp added
  rw [get?_added, Option.or_eq_none_iff] at unset
  have different : setting ≠ .logLevel := by
    rintro rfl
    simp at unset
  refine ⟨_, add_eq_ok_iff.mpr ⟨?_, accepted, rfl⟩, rfl, levelled.positionals, levelled.escaped, ?_,
    ?_, fun asked apart => ?_⟩
  · rw [levelled.settings setting different, fresh]
  · rw [get?_added, levelled.unset]
    simp [different]
  · rw [get?_added, levelled.level]
    rfl
  · rw [get?_added, get?_added, levelled.settings asked apart]

theorem levelled_resolve (levelled : Levelled value reading other)
    (done : reading.resolve level = .ok resolved) (unset : resolved.get? .logLevel = none) :
    ∃ after, other.resolve level = .ok after ∧ Levelled value resolved after := by
  rw [Reading.resolve] at done
  rw [Reading.resolve, levelled.pending]
  split at done
  · obtain rfl := Except.ok.inj done
    exact ⟨other, rfl, levelled⟩
  · contradiction
  · exact levelled_add levelled done unset
  · split at done
    · rename_i accepted
      obtain rfl := Except.ok.inj done
      exact ⟨{ other with pending := .nothing }, if_pos accepted, rfl, levelled.positionals,
        levelled.escaped, levelled.unset, levelled.level, levelled.settings⟩
    · contradiction

theorem levelled_apply (levelled : Levelled value reading other) {entry : Entry}
    (done : entry.apply reading = .ok next) (unset : next.get? .logLevel = none) :
    ∃ after, entry.apply other = .ok after ∧ Levelled value next after := by
  cases entry with
  | attach setting given => exact levelled_add levelled done unset
  | await setting =>
      obtain rfl := Except.ok.inj done
      exact ⟨_, rfl, rfl, levelled.positionals, levelled.escaped, levelled.unset, levelled.level,
        levelled.settings⟩
  | place text =>
      obtain rfl := Except.ok.inj done
      exact ⟨_, rfl, rfl, congrArg (· ++ [text]) levelled.positionals, levelled.escaped,
        levelled.unset, levelled.level, levelled.settings⟩

/-- The second reading has taken a level and has looked at what was pending, the first has not. -/
structure Beside (level : Level) (value : List Char) (reading other : Reading) : Prop where
  awaits : reading.awaits = none
  otherAwaits : other.awaits = none
  positionals : other.positionals = reading.positionals
  escaped : other.escaped = reading.escaped
  resolve : ∀ resolved, reading.resolve level = .ok resolved → resolved.get? .logLevel = none →
    ∃ after, other.resolve level = .ok after ∧ Levelled value resolved after

theorem resolve_escape (reading : Reading) :
    ({ reading with escaped := true } : Reading).resolve level =
      (reading.resolve level).map fun resolved => { resolved with escaped := true } := by
  obtain ⟨pending, settings, positionals, escaped⟩ := reading
  cases pending with
  | nothing => rfl
  | setting setting value =>
      cases value with
      | none => rfl
      | some value =>
          simp only [Reading.resolve, Reading.add, Reading.get?]
          split
          · rfl
          · split <;> rfl
  | positional value =>
      simp only [Reading.resolve]
      split <;> rfl

theorem awaits_escape (reading : Reading) :
    ({ reading with escaped := true } : Reading).awaits = none := by
  obtain ⟨pending, settings, positionals, escaped⟩ := reading
  cases pending <;> rfl

theorem resolve_escape_eq_ok_iff :
    ({ reading with escaped := true } : Reading).resolve level = .ok next ↔
      ∃ resolved, reading.resolve level = .ok resolved ∧
        next = { resolved with escaped := true } := by
  rw [resolve_escape]
  cases reading.resolve level with
  | error error => simp [Except.map]
  | ok resolved => simp [Except.map, eq_comm]

theorem Levelled.escape (levelled : Levelled value reading other) :
    Levelled value { reading with escaped := true } { other with escaped := true } :=
  ⟨levelled.pending, levelled.positionals, rfl, levelled.unset, levelled.level, levelled.settings⟩

theorem Beside.escape (beside : Beside level value reading other) :
    Beside level value { reading with escaped := true } { other with escaped := true } where
  awaits := awaits_escape reading
  otherAwaits := awaits_escape other
  positionals := beside.positionals
  escaped := rfl
  resolve := by
    intro escaped done unset
    obtain ⟨resolved, settled, rfl⟩ := resolve_escape_eq_ok_iff.mp done
    obtain ⟨after, otherSettled, levelled⟩ := beside.resolve resolved settled unset
    exact ⟨_, resolve_escape_eq_ok_iff.mpr ⟨after, otherSettled, rfl⟩, levelled.escape⟩

/-- Two readings that take the same moves, and the second ends with the level. -/
inductive Follows (level : Level) (value : List Char) (reading other : Reading) : Prop
  | levelled (levelled : Levelled value reading other)
  | beside (beside : Beside level value reading other)

namespace Follows

theorem ofArgument? (follows : Follows level value reading other) (text : List Char) :
    Move.ofArgument? level other text = Move.ofArgument? level reading text := by
  cases follows with
  | levelled levelled =>
      exact Move.ofArgument?_congr levelled.escaped levelled.awaits levelled.positionals
  | beside beside =>
      exact Move.ofArgument?_congr beside.escaped (beside.otherAwaits.trans beside.awaits.symm)
        beside.positionals

theorem resolve (follows : Follows level value reading other)
    (done : reading.resolve level = .ok resolved) (unset : resolved.get? .logLevel = none) :
    ∃ after, other.resolve level = .ok after ∧ Levelled value resolved after := by
  cases follows with
  | levelled levelled => exact levelled_resolve levelled done unset
  | beside beside => exact beside.resolve resolved done unset

theorem perform (follows : Follows level value reading other) {move : Move}
    (chosen : Move.ofArgument? level reading text = some move)
    (done : move.perform level reading = .ok next) (unset : next.get? .logLevel = none) :
    ∃ after, move.perform level other = .ok after ∧ Follows level value next after := by
  cases move with
  | escape =>
      obtain rfl := Except.ok.inj done
      refine ⟨_, rfl, ?_⟩
      cases follows with
      | levelled levelled => exact .levelled levelled.escape
      | beside beside => exact .beside beside.escape
  | give setting given =>
      obtain rfl := Except.ok.inj done
      have waiting := Move.awaits_of_give chosen
      cases follows with
      | levelled levelled =>
          exact ⟨_, rfl, .levelled ⟨rfl, levelled.positionals, levelled.escaped, levelled.unset,
            levelled.level, levelled.settings⟩⟩
      | beside beside =>
          rw [beside.awaits] at waiting
          contradiction
  | enter entry =>
      -- The first reading looks at what was pending only now: from here on they differ by the level.
      obtain ⟨resolved, settled, applied⟩ := Move.perform_enter_eq_ok_iff.mp done
      obtain ⟨otherResolved, otherSettled, levelled⟩ :=
        follows.resolve settled (unset_of_apply applied unset)
      obtain ⟨after, otherApplied, followed⟩ := levelled_apply levelled applied unset
      exact ⟨after, Move.perform_enter_eq_ok_iff.mpr ⟨otherResolved, otherSettled, otherApplied⟩,
        .levelled followed⟩

theorem steps (follows : Follows level value reading other)
    (read : arguments.foldlM (Reading.step level) reading = .ok last)
    (unset : last.get? .logLevel = none) :
    ∃ after, arguments.foldlM (Reading.step level) other = .ok after ∧
      Follows level value last after := by
  induction arguments generalizing reading other with
  | nil =>
      obtain rfl := Except.ok.inj read
      exact ⟨other, rfl, follows⟩
  | cons text rest ih =>
      obtain ⟨next, stepped, later⟩ := foldlM_step_cons_eq_ok_iff.mp read
      obtain ⟨move, chosen, done⟩ := step_eq_ok_iff.mp stepped
      obtain ⟨otherNext, otherDone, followed⟩ :=
        follows.perform chosen done (unset_of_steps later unset)
      obtain ⟨after, otherLater, ends⟩ := ih followed later
      have otherStepped : other.step level text = .ok otherNext :=
        step_eq_ok_iff.mpr ⟨move, (follows.ofArgument? text).trans chosen, otherDone⟩
      exact ⟨after, foldlM_step_cons_eq_ok_iff.mpr ⟨otherNext, otherStepped, otherLater⟩, ends⟩

end Follows

/-- What is pending is looked at before the end, if it waits for nothing. -/
theorem exists_resolve_of_steps (settled : reading.awaits = none)
    (read : arguments.foldlM (Reading.step level) reading = .ok last)
    (done : last.resolve level = .ok inner) :
    ∃ resolved, reading.resolve level = .ok resolved ∧
      ∀ asked, inner.get? asked = none → resolved.get? asked = none := by
  -- An escape leaves the pending value for later, and a value is given to a waiting option only.
  induction arguments generalizing reading with
  | nil =>
      obtain rfl := Except.ok.inj read
      exact ⟨inner, done, fun _ unset => unset⟩
  | cons text rest ih =>
      obtain ⟨next, stepped, later⟩ := foldlM_step_cons_eq_ok_iff.mp read
      obtain ⟨move, chosen, performed⟩ := step_eq_ok_iff.mp stepped
      cases move with
      | escape =>
          obtain rfl := Except.ok.inj performed
          obtain ⟨escaped, settledLater, unset⟩ := ih (awaits_escape reading) later
          obtain ⟨resolved, settledNow, rfl⟩ := resolve_escape_eq_ok_iff.mp settledLater
          exact ⟨resolved, settledNow, unset⟩
      | give setting given =>
          rw [Move.awaits_of_give chosen] at settled
          contradiction
      | enter entry =>
          obtain ⟨resolved, settledNow, applied⟩ := Move.perform_enter_eq_ok_iff.mp performed
          refine ⟨resolved, settledNow, fun asked unset => unset_of_apply applied ?_⟩
          exact unset_of_steps later ((settles_resolve done).unset asked unset)

/-! ### The option -/

def logLevelOption : List Char :=
  "--log-level".toList

/-- The option and its value, as two arguments or as one. -/
def levelForms (value : List Char) : List (List (List Char)) :=
  [[logLevelOption, value], [logLevelOption ++ '=' :: value]]

theorem long?_logLevel (level : Level) :
    level.long? "log-level".toList = some (.setting .logLevel) := by
  cases level <;> rfl

theorem levelled_added (settled : resolved.pending = .nothing)
    (unset : resolved.get? .logLevel = none) :
    Levelled value resolved { resolved with
      pending := .nothing, settings := resolved.settings ++ [(.logLevel, value)] } where
  pending := settled.symm
  positionals := rfl
  escaped := rfl
  unset := unset
  level := by
    rw [get?_added, unset]
    rfl
  settings := fun setting apart => by
    rw [get?_added]
    simp [apart.symm]

theorem expectsCommand_iff :
    reading.expectsCommand = true ↔ reading.escaped = false ∧ reading.awaits = none := by
  simp [Reading.expectsCommand]

theorem ofText_of_dashless (dashless : value.head? ≠ some '-') :
    Argument.ofText value = .plain value := by
  unfold Argument.ofText
  split <;> simp_all

/-- The option with its value in one argument is added at once. -/
theorem beside_of_joined (expected : reading.expectsCommand = true)
    (done : reading.resolve level = .ok resolved) (unset : resolved.get? .logLevel = none) :
    ∃ other, reading.step level (logLevelOption ++ '=' :: value) = .ok other ∧
      Beside level value reading other := by
  obtain ⟨unescaped, settled⟩ := expectsCommand_iff.mp expected
  have settles := settles_resolve done
  have form : Argument.ofText (logLevelOption ++ '=' :: value) =
      .long "log-level".toList (some value) := rfl
  have chosen : Move.ofArgument? level reading (logLevelOption ++ '=' :: value) =
      some (.enter (.attach .logLevel value)) := by
    simp only [Move.ofArgument?, unescaped, form, long?_logLevel, Bool.false_eq_true, if_false]
    rfl
  have added := add_eq_ok_iff.mpr ⟨unset, (rfl : Setting.logLevel.accepts value = true), rfl⟩
  refine ⟨_, step_eq_ok_iff.mpr ⟨_, chosen, Move.perform_enter_eq_ok_iff.mpr ⟨_, done, added⟩⟩,
    settled, ?_, settles.positionals, settles.escaped, fun other same _ => ?_⟩
  · cases escaped : resolved.escaped <;> rfl
  · obtain rfl : resolved = other := Except.ok.inj (done.symm.trans same)
    exact ⟨_, rfl, levelled_added settles.pending unset⟩

/-- The value of the option is added when the next argument begins. -/
theorem beside_of_separate (dashless : value.head? ≠ some '-')
    (expected : reading.expectsCommand = true) (done : reading.resolve level = .ok resolved)
    (unset : resolved.get? .logLevel = none) :
    ∃ waiting other, reading.step level logLevelOption = .ok waiting ∧
      waiting.expectsCommand = false ∧ waiting.step level value = .ok other ∧
      Beside level value reading other := by
  obtain ⟨unescaped, settled⟩ := expectsCommand_iff.mp expected
  have settles := settles_resolve done
  let waiting : Reading := { resolved with pending := .setting .logLevel none }
  let other : Reading := { resolved with pending := .setting .logLevel (some value) }
  have otherUnescaped : waiting.escaped = false := settles.escaped.trans unescaped
  have awaits : waiting.awaits = some .logLevel := by
    rw [Reading.awaits, otherUnescaped]
  have form : Argument.ofText logLevelOption = .long "log-level".toList none := rfl
  have chosen : Move.ofArgument? level reading logLevelOption =
      some (.enter (.await .logLevel)) := by
    simp only [Move.ofArgument?, unescaped, form, long?_logLevel, Bool.false_eq_true, if_false]
    rfl
  have given : Move.ofArgument? level waiting value = some (.give .logLevel value) := by
    simp only [Move.ofArgument?, otherUnescaped, ofText_of_dashless dashless, awaits,
      Bool.false_eq_true, if_false]
  refine ⟨waiting, other,
    step_eq_ok_iff.mpr ⟨_, chosen, Move.perform_enter_eq_ok_iff.mpr ⟨_, done, rfl⟩⟩, ?_,
    step_eq_ok_iff.mpr ⟨_, given, rfl⟩, settled, ?_, settles.positionals, settles.escaped,
    fun earlier same _ => ?_⟩
  · simp [Reading.expectsCommand, awaits]
  · cases escaped : resolved.escaped <;> simp [Reading.awaits, other]
  · obtain rfl : resolved = earlier := Except.ok.inj (done.symm.trans same)
    exact ⟨_, add_eq_ok_iff.mpr ⟨unset, rfl, rfl⟩, levelled_added settles.pending unset⟩

theorem beside_of_form {form : List (List Char)} (dashless : value.head? ≠ some '-')
    (expected : reading.expectsCommand = true) (done : reading.resolve level = .ok resolved)
    (unset : resolved.get? .logLevel = none) (written : form ∈ levelForms value) :
    ∃ other, form.foldlM (Reading.step level) reading = .ok other ∧
      Beside level value reading other := by
  simp only [levelForms, List.mem_cons, List.not_mem_nil, or_false] at written
  rcases written with rfl | rfl
  · obtain ⟨waiting, other, first, _, second, beside⟩ :=
      beside_of_separate dashless expected done unset
    refine ⟨other, foldlM_step_cons_eq_ok_iff.mpr ⟨waiting, first, ?_⟩, beside⟩
    exact foldlM_step_cons_eq_ok_iff.mpr ⟨other, second, rfl⟩
  · obtain ⟨other, stepped, beside⟩ := beside_of_joined expected done unset
    exact ⟨other, foldlM_step_cons_eq_ok_iff.mpr ⟨other, stepped, rfl⟩, beside⟩

/-! ### Inside a command -/

theorem readAll_insert {form : List (List Char)} (dashless : value.head? ≠ some '-')
    (written : form ∈ levelForms value)
    (begun : before.foldlM (Reading.step level) reading = .ok other)
    (expected : other.expectsCommand = true)
    (read : Reading.readAll level reading (before ++ after) = .ok inner)
    (unset : inner.get? .logLevel = none) :
    ∃ levelled, Reading.readAll level reading (before ++ form ++ after) = .ok levelled ∧
      Levelled value inner levelled := by
  obtain ⟨last, stepped, done⟩ := readAll_eq_ok_iff.mp read
  obtain ⟨between, first, later⟩ := foldlM_step_append_eq_ok_iff.mp stepped
  obtain rfl : other = between := Except.ok.inj (begun.symm.trans first)
  obtain ⟨resolved, settled, kept⟩ :=
    exists_resolve_of_steps (expectsCommand_iff.mp expected).2 later done
  obtain ⟨started, formed, beside⟩ :=
    beside_of_form dashless expected settled (kept .logLevel unset) written
  obtain ⟨ended, followed, follows⟩ := (Follows.beside beside).steps later
    ((settles_resolve done).unset .logLevel unset)
  obtain ⟨levelled, otherDone, ends⟩ := follows.resolve done unset
  refine ⟨levelled, readAll_eq_ok_iff.mpr ⟨ended, ?_, otherDone⟩, ends⟩
  exact foldlM_step_append_eq_ok_iff.mpr
    ⟨started, foldlM_step_append_eq_ok_iff.mpr ⟨other, begun, formed⟩, followed⟩

theorem ofReading_of_levelled (levelled : Levelled value reading other) (level : Level) :
    Command.ofReading level other = Command.ofReading level reading := by
  have settings := levelled.settings
  simp only [Command.ofReading, levelled.positionals, settings .manifest (by decide),
    settings .outDir (by decide), settings .source (by decide), settings .tool (by decide),
    settings .literal (by decide)]

theorem withCommand_eq_ok_iff :
    Invocation.withCommand reading level rest = .ok invocation ↔
      ∃ inner command outer, Reading.readAll level .start rest = .ok inner ∧
        Command.ofReading level inner = .ok command ∧ reading.resolve .program = .ok outer ∧
        ⟨(inner.get? .logLevel).or (outer.get? .logLevel), command⟩ = invocation := by
  simp only [Invocation.withCommand, bind_eq_ok_iff, pure, Except.pure, Except.ok.injEq,
    exists_and_left]

/-! ### In front of a command -/

/-- The name of a command begins it, if a command may come next. -/
theorem read_command (named : Level.ofName? name = some level)
    (expected : reading.expectsCommand = true) :
    Invocation.read reading (name :: rest) = Invocation.withCommand reading level rest := by
  have unhelpful : (name == Level.helpName) = false := by
    rw [beq_eq_false_iff_ne]
    rintro rfl
    have unnamed : Level.ofName? Level.helpName = none := by decide
    simp [unnamed] at named
  simp [Invocation.read, Invocation.commandAt?, expected, unhelpful, named]

theorem read_step (unhelpful : (reading.expectsCommand && text == Level.helpName) = false)
    (unnamed : Invocation.commandAt? reading text = none)
    (stepped : reading.step .program text = .ok next) :
    Invocation.read reading (text :: rest) = Invocation.read next rest := by
  simp [Invocation.read, unhelpful, unnamed, stepped]

theorem read_levelForm {form : List (List Char)} (dashless : value.head? ≠ some '-')
    (written : form ∈ levelForms value) :
    ∃ other, Invocation.parse (form ++ rest) = Invocation.read other rest ∧
      Beside .program value .start other := by
  simp only [levelForms, List.mem_cons, List.not_mem_nil, or_false] at written
  rcases written with rfl | rfl
  · obtain ⟨waiting, other, first, waits, second, beside⟩ :=
      beside_of_separate dashless (rfl : Reading.start.expectsCommand = true) rfl rfl
    refine ⟨other, ?_, beside⟩
    have optionRead : Invocation.parse (logLevelOption :: value :: rest) =
        Invocation.read waiting (value :: rest) := read_step rfl rfl first
    have valueRead : Invocation.read waiting (value :: rest) = Invocation.read other rest :=
      read_step (by rw [waits, Bool.false_and]) (by simp [Invocation.commandAt?, waits]) second
    exact optionRead.trans valueRead
  · obtain ⟨other, stepped, beside⟩ :=
      beside_of_joined (rfl : Reading.start.expectsCommand = true) rfl rfl
    exact ⟨other, read_step rfl rfl stepped, beside⟩

/-- What has been read leads to a level in the end, or else to no command. -/
inductive Leads (reading : Reading) : Prop
  | escaped (escaped : reading.escaped = true)
  | given (given : reading.get? .logLevel ≠ none)
  | pending (value : Option (List Char)) (pending : reading.pending = .setting .logLevel value)

theorem given_of_leads (leads : Leads reading) (unescaped : reading.escaped = false)
    (done : reading.resolve level = .ok resolved) : resolved.get? .logLevel ≠ none := by
  cases leads with
  | escaped escaped => simp [escaped] at unescaped
  | given given => exact fun unset => given ((settles_resolve done).unset .logLevel unset)
  | pending value pending =>
      cases value with
      | none =>
          rw [Reading.resolve, pending] at done
          contradiction
      | some value =>
          rw [Reading.resolve, pending] at done
          obtain ⟨_, _, rfl⟩ := add_eq_ok_iff.mp done
          rw [get?_added]
          simp

theorem setting_of_option {key : Option OptionKey} {attached : Option (List Char)} {entry : Entry}
    (chosen : Move.ofOption? key attached = some (.enter entry)) :
    ∃ setting, key = some (.setting setting) ∧
      ((∃ value, entry = .attach setting value) ∨ entry = .await setting) := by
  unfold Move.ofOption? at chosen
  split at chosen
  · rename_i setting value
    simp only [Option.some.injEq, Move.enter.injEq] at chosen
    exact ⟨setting, rfl, .inl ⟨value, chosen.symm⟩⟩
  · rename_i setting
    simp only [Option.some.injEq, Move.enter.injEq] at chosen
    exact ⟨setting, rfl, .inr chosen.symm⟩
  · contradiction

/-- The program itself has no other setting. -/
theorem logLevel_of_long? (key : Level.program.long? name = some (.setting setting)) :
    setting = .logLevel := by
  unfold Level.long? at key
  split at key
  · simp at key
  · split at key
    · simp at key
    · simp only [Level.settings, List.find?_singleton] at key
      split at key
      · simpa [eq_comm] using key
      · contradiction

theorem short?_program_ne (letter : Char) (setting : Setting) :
    Level.program.short? letter ≠ some (.setting setting) := by
  unfold Level.short?
  split
  · simp
  · split
    · simp
    · simp [Level.settings, Setting.letter?]

theorem setting_of_program {entry : Entry}
    (chosen : Move.ofArgument? .program reading text = some (.enter entry)) :
    (∃ value, entry = .attach .logLevel value) ∨ entry = .await .logLevel := by
  have placed (text : List Char) : Move.ofText? .program reading text ≠ some (.enter entry) := by
    simp [Move.ofText?, Level.takesPositional]
  unfold Move.ofArgument? at chosen
  split at chosen
  · exact absurd chosen (placed text)
  · split at chosen
    · simp at chosen
    · obtain ⟨setting, key, enters⟩ := setting_of_option chosen
      obtain rfl := logLevel_of_long? key
      exact enters
    · split at chosen
      · rename_i key
        exact absurd key (short?_program_ne _ _)
      · contradiction
    · split at chosen
      · simp at chosen
      · exact absurd chosen (placed _)

theorem pending_of_awaits (awaits : reading.awaits = some setting) :
    reading.escaped = false ∧ reading.pending = .setting setting none := by
  unfold Reading.awaits at awaits
  split at awaits
  · rename_i unescaped pending
    obtain rfl := Option.some.inj awaits
    exact ⟨unescaped, pending⟩
  · contradiction

theorem leads_of_give (leads : Leads reading) (awaits : reading.awaits = some setting) :
    Leads { reading with pending := .setting setting (some value) } := by
  obtain ⟨unescaped, waiting⟩ := pending_of_awaits awaits
  cases leads with
  | escaped escaped => simp [unescaped] at escaped
  | given given => exact .given given
  | pending value pending =>
      obtain ⟨rfl, _⟩ := Pending.setting.inj (waiting.symm.trans pending)
      exact .pending _ rfl

theorem leads_of_step (leads : Leads reading ∨ reading.awaits = none)
    (stepped : reading.step .program text = .ok next) : Leads next := by
  obtain ⟨move, chosen, done⟩ := step_eq_ok_iff.mp stepped
  cases move with
  | escape =>
      obtain rfl := Except.ok.inj done
      exact .escaped rfl
  | give setting given =>
      obtain rfl := Except.ok.inj done
      have awaits := Move.awaits_of_give chosen
      rcases leads with leads | settled
      · exact leads_of_give leads awaits
      · rw [settled] at awaits
        contradiction
  | enter entry =>
      obtain ⟨resolved, _, applied⟩ := Move.perform_enter_eq_ok_iff.mp done
      rcases setting_of_program chosen with ⟨given, rfl⟩ | rfl
      · obtain ⟨_, _, rfl⟩ := add_eq_ok_iff.mp applied
        refine .given ?_
        rw [get?_added]
        simp
      · obtain rfl := Except.ok.inj applied
        exact .pending none rfl

theorem read_nil_ne_ok : Invocation.read reading [] ≠ .ok invocation := by
  rw [Invocation.read, Invocation.withoutCommand]
  intro asked
  obtain ⟨resolved, _, thrown⟩ := bind_eq_ok_iff.mp asked
  split at thrown
  · exact throw_ne_ok _ _ thrown
  · exact throw_ne_ok _ _ thrown

theorem read_cons_cases (read : Invocation.read reading (text :: rest) = .ok invocation) :
    (∃ level, reading.expectsCommand = true ∧ Level.ofName? text = some level ∧
      Invocation.withCommand reading level rest = .ok invocation) ∨
    ∃ next, reading.step .program text = .ok next ∧ Invocation.read next rest = .ok invocation := by
  rw [Invocation.read] at read
  split at read
  · contradiction
  · split at read
    · rename_i level named
      left
      rw [Invocation.commandAt?] at named
      split at named
      · rename_i expected
        exact ⟨level, expected, named, read⟩
      · contradiction
    · split at read
      · contradiction
      · rename_i next stepped
        exact .inr ⟨next, stepped, read⟩

theorem logLevel_of_leads (leads : Leads reading)
    (read : Invocation.read reading arguments = .ok invocation) : invocation.logLevel ≠ none := by
  induction arguments generalizing reading with
  | nil => exact absurd read read_nil_ne_ok
  | cons text rest ih =>
      rcases read_cons_cases read with ⟨level, expected, _, asked⟩ | ⟨next, stepped, later⟩
      · obtain ⟨inner, command, outer, _, _, done, rfl⟩ := withCommand_eq_ok_iff.mp asked
        have given := given_of_leads leads (expectsCommand_iff.mp expected).1 done
        simp [Option.or_eq_none_iff, given]
      · exact ih (leads_of_step (.inl leads) stepped) later

/-- Without a level, there is nothing in front of the command. -/
theorem exists_command_of_parse (asked : Invocation.parse arguments = .ok ⟨none, command⟩) :
    ∃ name rest level, arguments = name :: rest ∧ Level.ofName? name = some level ∧
      Invocation.withCommand .start level rest = .ok ⟨none, command⟩ := by
  cases arguments with
  | nil => exact absurd asked read_nil_ne_ok
  | cons name rest =>
      rcases read_cons_cases asked with ⟨level, _, named, command⟩ | ⟨next, stepped, later⟩
      · exact ⟨name, rest, level, rfl, named, command⟩
      · exact absurd rfl (logLevel_of_leads (leads_of_step (.inr rfl) stepped) later)

/-! ### Anywhere -/

/-- An option may stand after these arguments: no option waits for its value there, and options have
not been ended. -/
def TakesOption : List (List Char) → Prop
  | [] => True
  | name :: inside => ∃ level reading, Level.ofName? name = some level ∧
      inside.foldlM (Reading.step level) .start = .ok reading ∧ reading.expectsCommand = true

theorem parse_insert_level {form : List (List Char)} (takes : TakesOption before)
    (asked : Invocation.parse (before ++ after) = .ok ⟨none, command⟩)
    (dashless : value.head? ≠ some '-') (written : form ∈ levelForms value) :
    Invocation.parse (before ++ form ++ after) = .ok ⟨some value, command⟩ := by
  obtain ⟨name, rest, level, whole, named, begun⟩ := exists_command_of_parse asked
  obtain ⟨inner, command, outer, read, asks, resolved, invocation⟩ := withCommand_eq_ok_iff.mp begun
  obtain rfl : Reading.start = outer := Except.ok.inj resolved
  obtain ⟨unset, rfl⟩ := Invocation.mk.inj invocation
  obtain ⟨inside, _⟩ := Option.or_eq_none_iff.mp unset
  -- In front of the command the level is the program's, behind its name it is the command's.
  cases before with
  | nil =>
      rw [List.nil_append] at whole
      obtain ⟨other, formRead, beside⟩ := read_levelForm dashless written
      obtain ⟨levelledOuter, done, levelled⟩ := beside.resolve .start rfl rfl
      have expected : other.expectsCommand = true :=
        expectsCommand_iff.mpr ⟨beside.escaped, beside.otherAwaits⟩
      rw [List.nil_append, formRead, whole, read_command named expected, withCommand_eq_ok_iff]
      exact ⟨inner, _, levelledOuter, read, asks, done, by rw [inside, levelled.level]; rfl⟩
  | cons first before =>
      obtain ⟨rfl, rfl⟩ := List.cons.inj whole
      obtain ⟨takesLevel, reading, namedToo, steps, expected⟩ := takes
      obtain rfl : level = takesLevel := Option.some.inj (named.symm.trans namedToo)
      obtain ⟨levelledInner, levelledRead, levelled⟩ :=
        readAll_insert dashless written steps expected read inside
      rw [List.cons_append, List.cons_append, Invocation.parse, read_command named rfl,
        withCommand_eq_ok_iff]
      refine ⟨levelledInner, _, .start, levelledRead,
        (ofReading_of_levelled levelled level).trans asks, rfl, ?_⟩
      rw [levelled.level]
      rfl

end NativeInterop.CommandLine
