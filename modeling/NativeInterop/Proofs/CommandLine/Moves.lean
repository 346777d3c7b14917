import Mathlib
import NativeInterop.CommandLine.Invocation
import NativeInterop.Proofs.FileSystem.Writing

namespace NativeInterop.CommandLine

/-! What one argument does. Which move it is depends on little of what has been read before it, and no
move takes back a setting. -/

open FileSystem (bind_eq_ok_iff)

variable {level : Level} {reading other next resolved last inner : Reading}
  {setting asked : Setting} {text value : List Char} {arguments before after rest : List (List Char)}

/-! ### What an argument does -/

/-- What begins only after the pending value has been looked at. -/
inductive Entry
  | attach (setting : Setting) (value : List Char)
  | await (setting : Setting)
  | place (text : List Char)

def Entry.apply (reading : Reading) : Entry → Except UsageError Reading
  | attach setting value => reading.add setting value
  | await setting => .ok { reading with pending := .setting setting none }
  | place text => .ok { reading with
      pending := .positional text, positionals := reading.positionals ++ [text] }

inductive Move
  | escape
  | give (setting : Setting) (value : List Char)
  | enter (entry : Entry)

namespace Move

def ofOption? : Option OptionKey → Option (List Char) → Option Move
  | some (.setting setting), some value => some (.enter (.attach setting value))
  | some (.setting setting), none => some (.enter (.await setting))
  | _, _ => none

def ofText? (level : Level) (reading : Reading) (text : List Char) : Option Move :=
  if level.takesPositional reading.positionals.length then some (.enter (.place text)) else none

/-- The move of an argument that is no mistake and asks for no help. -/
def ofArgument? (level : Level) (reading : Reading) (text : List Char) : Option Move :=
  if reading.escaped then ofText? level reading text
  else
    match Argument.ofText text with
    | .escape => some .escape
    | .long name value => ofOption? (level.long? name) value
    | .short letter attached =>
        match level.short? letter with
        | some (.setting setting) =>
            ofOption? (some (.setting setting)) (Reading.attachedValue attached)
        | _ => none
    | .plain text =>
        match reading.awaits with
        | some setting => some (.give setting text)
        | none => ofText? level reading text

def perform (level : Level) (reading : Reading) : Move → Except UsageError Reading
  | escape => .ok { reading with escaped := true }
  | give setting value => .ok { reading with pending := .setting setting (some value) }
  | enter entry => reading.resolve level >>= entry.apply

theorem perform_enter_eq_ok_iff {entry : Entry} :
    (enter entry).perform level reading = .ok next ↔
      ∃ resolved, reading.resolve level = .ok resolved ∧ entry.apply resolved = .ok next := by
  rw [perform, bind_eq_ok_iff]

theorem ofArgument?_congr (escaped : other.escaped = reading.escaped)
    (awaits : other.awaits = reading.awaits) (positionals : other.positionals = reading.positionals) :
    ofArgument? level other text = ofArgument? level reading text := by
  simp only [ofArgument?, ofText?, escaped, awaits, positionals]

theorem awaits_of_give (move : ofArgument? level reading text = some (.give setting value)) :
    reading.awaits = some setting := by
  have option (key : Option OptionKey) (attached : Option (List Char)) :
      ofOption? key attached ≠ some (.give setting value) := by
    unfold ofOption?
    split <;> simp
  have placed (text : List Char) : ofText? level reading text ≠ some (.give setting value) := by
    unfold ofText?
    split <;> simp
  unfold ofArgument? at move
  split at move
  · exact absurd move (placed text)
  · split at move
    · simp at move
    · exact absurd move (option _ _)
    · split at move
      · exact absurd move (option _ _)
      · simp at move
    · split at move
      · rename_i waiting
        simp only [Option.some.injEq, Move.give.injEq] at move
        rw [waiting, move.1]
      · exact absurd move (placed _)

end Move

theorem throw_ne_ok {α : Type} (error : UsageError) (a : α) :
    (throw error : Except UsageError α) ≠ .ok a := by
  simp [throw, throwThe, MonadExceptOf.throw]

theorem option_eq_ok_iff {key : Option OptionKey} {attached : Option (List Char)} :
    reading.option level key attached = .ok next ↔
      ∃ move, Move.ofOption? key attached = some move ∧ move.perform level reading = .ok next := by
  have shown (error : UsageError) :
      (do let _ ← reading.resolve level; throw error : Except UsageError Reading) ≠ .ok next := by
    simp [bind_eq_ok_iff, throw_ne_ok]
  cases key with
  | none => simp [Reading.option, Move.ofOption?, throw_ne_ok]
  | some key =>
      cases key with
      | setting setting => cases attached <;> simp [Reading.option, Move.ofOption?] <;> rfl
      | help => cases attached <;> simp [Reading.option, Move.ofOption?, throw_ne_ok, shown]
      | version => cases attached <;> simp [Reading.option, Move.ofOption?, throw_ne_ok, shown]

theorem place_eq_ok_iff :
    reading.place level text = .ok next ↔
      ∃ move, Move.ofText? level reading text = some move ∧
        move.perform level reading = .ok next := by
  rw [Reading.place, Move.ofText?]
  split
  · simp
    rfl
  · simp [throw_ne_ok]

theorem step_eq_ok_iff :
    reading.step level text = .ok next ↔
      ∃ move, Move.ofArgument? level reading text = some move ∧
        move.perform level reading = .ok next := by
  cases escaped : reading.escaped with
  | true =>
      simp only [Reading.step, Move.ofArgument?, escaped, if_true]
      exact place_eq_ok_iff
  | false =>
      cases form : Argument.ofText text with
      | escape => simp [Reading.step, Move.ofArgument?, escaped, form, Move.perform]
      | long name value =>
          simp only [Reading.step, Move.ofArgument?, escaped, form, Bool.false_eq_true, if_false]
          exact option_eq_ok_iff
      | short letter attached =>
          simp only [Reading.step, Move.ofArgument?, escaped, form, Bool.false_eq_true, if_false,
            Reading.shortOption]
          cases level.short? letter with
          | none => exact option_eq_ok_iff
          | some key =>
              cases key with
              | setting setting => exact option_eq_ok_iff
              | help => exact option_eq_ok_iff
              | version => exact option_eq_ok_iff
      | plain text =>
          simp only [Reading.step, Move.ofArgument?, escaped, form, Bool.false_eq_true, if_false]
          cases reading.awaits with
          | none => exact place_eq_ok_iff
          | some setting => simp [Move.perform, escaped]

/-! ### Settings that are kept -/

theorem get?_added (pending : Pending) :
    { reading with pending := pending, settings := reading.settings ++ [(setting, value)] }.get? asked =
      (reading.get? asked).or (if setting == asked then some value else none) := by
  simp only [Reading.get?, List.find?_append, Option.map_or, List.find?_cons, List.find?_nil]
  cases setting == asked <;> rfl

theorem add_eq_ok_iff :
    reading.add setting value = .ok next ↔ reading.get? setting = none ∧
      setting.accepts value = true ∧ next = { reading with
        pending := .nothing, settings := reading.settings ++ [(setting, value)] } := by
  rw [Reading.add]
  split
  · rename_i given
    have some : reading.get? setting ≠ none := Option.isSome_iff_ne_none.mp given
    simp [some]
  · rename_i ungiven
    have none : reading.get? setting = none := by simpa using ungiven
    split
    · rename_i accepted
      simp [none, accepted, eq_comm]
    · rename_i refused
      simp [refused]

/-- What looking at the pending value changes, and what it keeps. -/
structure Settles (reading resolved : Reading) : Prop where
  pending : resolved.pending = .nothing
  positionals : resolved.positionals = reading.positionals
  escaped : resolved.escaped = reading.escaped
  unset : ∀ setting, resolved.get? setting = none → reading.get? setting = none

theorem settles_add (added : reading.add setting value = .ok next) : Settles reading next := by
  obtain ⟨_, _, rfl⟩ := add_eq_ok_iff.mp added
  refine ⟨rfl, rfl, rfl, fun asked unset => ?_⟩
  rw [get?_added, Option.or_eq_none_iff] at unset
  exact unset.1

theorem settles_resolve (done : reading.resolve level = .ok resolved) :
    Settles reading resolved := by
  obtain ⟨pending, settings, positionals, escaped⟩ := reading
  cases pending with
  | nothing =>
      obtain rfl := Except.ok.inj done
      exact ⟨rfl, rfl, rfl, fun _ unset => unset⟩
  | setting setting value =>
      cases value with
      | none => contradiction
      | some value => exact settles_add done
  | positional value =>
      simp only [Reading.resolve] at done
      split at done
      · obtain rfl := Except.ok.inj done
        exact ⟨rfl, rfl, rfl, fun _ unset => unset⟩
      · contradiction

theorem unset_of_apply {entry : Entry} (done : entry.apply reading = .ok next)
    (unset : next.get? asked = none) : reading.get? asked = none := by
  cases entry with
  | attach setting value => exact (settles_add done).unset asked unset
  | await setting =>
      obtain rfl := Except.ok.inj done
      exact unset
  | place text =>
      obtain rfl := Except.ok.inj done
      exact unset

theorem unset_of_perform {move : Move} (done : move.perform level reading = .ok next)
    (unset : next.get? asked = none) : reading.get? asked = none := by
  cases move with
  | escape =>
      obtain rfl := Except.ok.inj done
      exact unset
  | give setting value =>
      obtain rfl := Except.ok.inj done
      exact unset
  | enter entry =>
      obtain ⟨resolved, settled, applied⟩ := Move.perform_enter_eq_ok_iff.mp done
      exact (settles_resolve settled).unset asked (unset_of_apply applied unset)

theorem foldlM_step_cons_eq_ok_iff :
    (text :: rest).foldlM (Reading.step level) reading = .ok last ↔
      ∃ next, reading.step level text = .ok next ∧
        rest.foldlM (Reading.step level) next = .ok last := by
  rw [List.foldlM_cons, bind_eq_ok_iff]

theorem foldlM_step_append_eq_ok_iff :
    (before ++ after).foldlM (Reading.step level) reading = .ok last ↔
      ∃ between, before.foldlM (Reading.step level) reading = .ok between ∧
        after.foldlM (Reading.step level) between = .ok last := by
  rw [List.foldlM_append, bind_eq_ok_iff]

theorem readAll_eq_ok_iff :
    Reading.readAll level reading arguments = .ok inner ↔
      ∃ last, arguments.foldlM (Reading.step level) reading = .ok last ∧
        last.resolve level = .ok inner := by
  rw [Reading.readAll, bind_eq_ok_iff]

theorem unset_of_steps (read : arguments.foldlM (Reading.step level) reading = .ok last)
    (unset : last.get? asked = none) : reading.get? asked = none := by
  induction arguments generalizing reading with
  | nil =>
      obtain rfl := Except.ok.inj read
      exact unset
  | cons text rest ih =>
      obtain ⟨next, stepped, later⟩ := foldlM_step_cons_eq_ok_iff.mp read
      obtain ⟨move, _, done⟩ := step_eq_ok_iff.mp stepped
      exact unset_of_perform done (ih later)

end NativeInterop.CommandLine
