import NativeInterop.CommandLine.Run
import NativeInterop.Proofs.Export.Decoding
import NativeInterop.Proofs.Export.Listing
import NativeInterop.Proofs.Export.TypeLoop

namespace NativeInterop.CommandLine

open Export Text

/-! Lines that tell of what could not be used. A type code is told between quotes as it stands on
the line, since a type run holds nothing that the quotes would have to escape. -/

variable {text : List Char} {line : RejectedLine}

theorem toList_toString (value : Nat) : (toString value).toList = decimal value := by
  rw [Nat.toString_eq_repr, Nat.repr, String.toList_ofList, decimal]

theorem quotedChar_of_isRunChar {c : Char} (accepted : ExportLine.isRunChar c = true) :
    quotedChar c = [c] := by
  have ascii : ∀ value < 128, ExportLine.isRunChar (Char.ofNat value) = true →
      quotedChar (Char.ofNat value) = [Char.ofNat value] := by
    decide +kernel
  have bound : c.toNat < 128 := by
    rcases Bool.or_eq_true_iff.mp accepted with underscore | capital
    · rw [beq_iff_eq.mp underscore]
      decide
    · simp only [Char.isUpper, decide_eq_true_eq, UInt32.le_iff_toNat_le] at capital
      exact Nat.lt_of_le_of_lt capital.2 (by decide)
  have whole := ascii c.toNat bound
  rw [Char.ofNat_toNat] at whole
  exact whole accepted

theorem quoted_of_isRunChar (accepted : ∀ c ∈ text, ExportLine.isRunChar c = true) :
    (quoted (String.ofList text)).toList = '"' :: text ++ ['"'] := by
  have same : text.flatMap quotedChar = text.flatMap fun c => [c] :=
    List.flatMap_congr fun c member => quotedChar_of_isRunChar (accepted c member)
  rw [quoted, String.toList_ofList, String.toList_ofList, same, List.flatMap_singleton']

/-- The code of a rejected line is what is left of its type run. -/
theorem isRunChar_of_mem_rejected {listing : List Char}
    (member : line ∈ (decodeListing listing).rejected) :
    ∀ c ∈ line.error.code, ExportLine.isRunChar c = true := by
  obtain ⟨_, _, failed, _⟩ := mem_rejected_iff.mp member
  obtain ⟨fields, types, depth, parsed, stops, _⟩ := exists_stopsAt_of_decodeLine failed
  obtain ⟨_, _, unbroken, found⟩ := exists_segment_of_parse? parsed
  obtain ⟨_, _, _, _, captures⟩ := (ExportLine.parse?_eq_some_iff unbroken).mp found
  obtain ⟨_, _, _, accepted, _⟩ := captures.decorated
  intro c inside
  refine accepted c ?_
  rw [stops.whole]
  exact List.mem_append_right _ inside

theorem toList_message (accepted : ∀ c ∈ line.error.code, ExportLine.isRunChar c = true) :
    line.error.message.toList = "Unrecognized type code \"".toList ++ line.error.code ++
      "\" at offset ".toList ++ (toString line.error.offset).toList := by
  have message : line.error.message = "Unrecognized type code " ++
      quoted (String.ofList line.error.code) ++ " at offset " ++ toString line.error.offset := rfl
  rw [message, String.toList_append, String.toList_append, String.toList_append,
    quoted_of_isRunChar accepted]
  simp

theorem printed_rejectedText {rejected : List RejectedLine}
    (accepted : ∀ line ∈ rejected, ∀ c ∈ line.error.code, ExportLine.isRunChar c = true) :
    printed (rejected.map rejectedText) = rejected.flatMap fun line =>
      "line ".toList ++ (toString line.number).toList ++ ": Unrecognized type code \"".toList ++
        line.error.code ++ "\" at offset ".toList ++ (toString line.error.offset).toList ++
        " (".toList ++ line.text ++ ")\n".toList := by
  rw [printed, List.flatMap_map]
  refine List.flatMap_congr fun line member => ?_
  have told : rejectedText line = "line ".toList ++ decimal line.number ++ ": ".toList ++
      line.error.message.toList ++ " (".toList ++ line.text ++ [')'] := rfl
  rw [told, toList_message (accepted line member), toList_toString line.number]
  simp

theorem printed_rejectedExportText {rejected : List Generation.RejectedExport}
    (accepted : ∀ refused ∈ rejected, ∀ c ∈ refused.line.error.code,
      ExportLine.isRunChar c = true) :
    printed (rejected.map rejectedExportText) = rejected.flatMap fun refused =>
      refused.target ++ ": line ".toList ++ (toString refused.line.number).toList ++
        ": Unrecognized type code \"".toList ++ refused.line.error.code ++
        "\" at offset ".toList ++ (toString refused.line.error.offset).toList ++ ['\n'] := by
  rw [printed, List.flatMap_map]
  refine List.flatMap_congr fun refused member => ?_
  have told : rejectedExportText refused = refused.target ++ ": line ".toList ++
      decimal refused.line.number ++ ": ".toList ++ refused.line.error.message.toList := rfl
  rw [told, toList_message (accepted refused member), toList_toString refused.line.number]
  simp

end NativeInterop.CommandLine
