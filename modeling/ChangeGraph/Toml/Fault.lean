/-! # Why a text gives no settings -/

namespace ChangeGraph.Toml

/-- A text is malformed, or it runs into a gap of the reader: something empty or of the wrong kind stands where the
reader looks inside it. -/
inductive Fault where
  | malformed
  | emptyText
  | emptyList
  | notIndexed (kind : String)
  | notAssignable (kind : String)
  /-- A list of tables is to go on where there is none. -/
  | notAppendable
  | notContainer (kind : String)
  /-- Any other gap, with its text. -/
  | other (text : String)
deriving DecidableEq, Repr

def Fault.message : Fault → String
  | .malformed => "malformed"
  | .emptyText => "string index out of range"
  | .emptyList => "list index out of range"
  | .notIndexed kind => "'" ++ kind ++ "' object is not subscriptable"
  | .notAssignable kind => "'" ++ kind ++ "' object does not support item assignment"
  | .notAppendable => "You can only load a file descriptor, filename or list"
  | .notContainer kind => "argument of type '" ++ kind ++ "' is not iterable"
  | .other text => text

end ChangeGraph.Toml
