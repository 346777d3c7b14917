namespace NativeInterop

/-! The kinds of sources that export listings come from. -/

inductive SourceKind
  | dumpbin | pe | text
  deriving DecidableEq, Repr

namespace SourceKind

def default : SourceKind := .dumpbin

def all : List SourceKind :=
  [dumpbin, pe, text]

def label : SourceKind → String
  | dumpbin => "dumpbin"
  | pe => "pe"
  | text => "text"

/-- Only the labels themselves name a kind. -/
def ofLabel? (text : String) : Option SourceKind :=
  all.find? fun kind => kind.label == text

/-- Names in any case, with two synonyms. -/
def parse (name : String) : Except String SourceKind :=
  match name.toLower with
  | "dumpbin" => .ok .dumpbin
  | "pe" | "native" => .ok .pe
  | "text" | "listing" => .ok .text
  | _ => .error ("Unknown listing source: " ++ name ++ ". Use 'dumpbin', 'pe' or 'text'")

end SourceKind

end NativeInterop
