import ChangeGraph.Graph.Options
import ChangeGraph.Text.Blank
import ChangeGraph.Text.Integer

/-! # Options from words

An option is set by its name and a word: one that says yes or no, or an integer. -/

namespace ChangeGraph.Settings

def yesWords : List String := ["1", "true", "yes", "on"]

def noWords : List String := ["0", "false", "no", "off"]

/-- Whether a word says yes or no. Blanks around it and the case of letters have no part. -/
def readFlag? (word : String) : Option Bool :=
  let w := Text.lower (Text.strip word)
  if yesWords.contains w then some true
  else if noWords.contains w then some false
  else none

/-- Why a name and a word set nothing. -/
inductive WordFault where
  | unknownName (name : String)
  | noFlag (key : GraphOptions.Key) (word : String)
  | noInteger (key : GraphOptions.Key) (word : String)
deriving DecidableEq, Repr

def WordFault.message : WordFault → String
  | .unknownName name =>
    "Unknown option '" ++ name ++ "'. Choose from: " ++ ", ".intercalate (GraphOptions.Key.all.map (·.name))
  | .noFlag key word => "Option '" ++ key.name ++ "' expects true/false, got '" ++ word ++ "'"
  | .noInteger key word => "Option '" ++ key.name ++ "' expects an integer, got '" ++ word ++ "'"

/-- What a word says for an option. A limit below zero is still a value here. -/
def wordFor (key : GraphOptions.Key) (word : String) : Except WordFault Value :=
  match key with
  | .showExternal =>
    match readFlag? word with
    | some b => .ok (.bool b)
    | none => .error (.noFlag key word)
  | _ =>
    match Text.readInteger? word with
    | some n => .ok (.int n)
    | none => .error (.noInteger key word)

/-- The option that a name stands for, and what a word says for it. -/
def readWord (name word : String) : Except WordFault (GraphOptions.Key × Value) :=
  match GraphOptions.Key.ofName? name with
  | none => .error (.unknownName name)
  | some key => (wordFor key word).map (key, ·)

end ChangeGraph.Settings
