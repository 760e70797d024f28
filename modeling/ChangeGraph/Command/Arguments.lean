import ChangeGraph.Text.Cut

/-! # Arguments

A command is given by words. Words that begin with a hyphen are options: a long one begins with two hyphens and may
carry its value after a sign of equality, short ones of one letter may stand together and may carry a value right
after them. Two hyphens alone end the options. -/

namespace ChangeGraph.Command

/-- An option by the words that stand for it. -/
structure Switch (κ : Type) where
  key : κ
  words : List String
  takesValue : Bool

/-- What words gave: the options in order, each with its value, and the words that are no options. -/
structure Given (κ : Type) where
  options : List (κ × String) := []
  places : List String := []

namespace Given

variable {κ : Type} [DecidableEq κ] (g : Given κ)

/-- All values of an option. -/
def values (key : κ) : List String := (g.options.filter (·.1 = key)).map (·.2)

/-- The value given last. -/
def value? (key : κ) : Option String := (g.values key).getLast?

def has (key : κ) : Bool := g.options.any (·.1 = key)

end Given

variable {κ : Type}

/-- What one word is. -/
inductive Word (κ : Type) where
  | place
  | lastOption
  | unknown
  /-- Options, complete with their values. -/
  | options (given : List (κ × String))
  /-- Options, and one whose value is the next word. -/
  | waiting (given : List (κ × String)) (key : κ)

def switch? (rules : List (Switch κ)) (word : String) : Option (Switch κ) := rules.find? (·.words.contains word)

/-- Reads letters that stand for options. -/
def readLetters (rules : List (Switch κ)) (given : List (κ × String)) : List Char → Word κ
  | [] => .options given
  | c :: cs =>
    match switch? rules (String.ofList ['-', c]) with
    | none => .unknown
    | some s =>
      if !s.takesValue then readLetters rules (given ++ [(s.key, "")]) cs
      else if cs.isEmpty then .waiting given s.key
      else .options (given ++ [(s.key, String.ofList cs)])

/-- Reads a word that begins with two hyphens. -/
def readLong (rules : List (Switch κ)) (word : String) : Word κ :=
  match Text.cutAt? ['='] word.toList with
  | none =>
    match switch? rules word with
    | none => .unknown
    | some s => if s.takesValue then .waiting [] s.key else .options [(s.key, "")]
  | some (name, value) =>
    match switch? rules (String.ofList name) with
    | none => .unknown
    | some s => if s.takesValue then .options [(s.key, String.ofList value)] else .unknown

def readWord (rules : List (Switch κ)) (word : String) : Word κ :=
  match word.toList with
  | ['-', '-'] => .lastOption
  | '-' :: '-' :: _ => readLong rules word
  | '-' :: c :: cs => readLetters rules [] (c :: cs)
  | _ => .place

/-- Reads words. If options may not follow other words, the first word that is no option ends them. -/
def readWords (rules : List (Switch κ)) (mixed : Bool) (g : Given κ) : List String → Option (Given κ)
  | [] => some g
  | w :: ws =>
    match readWord rules w with
    | .unknown => none
    | .lastOption => some { g with places := g.places ++ ws }
    | .place =>
      if mixed then readWords rules mixed { g with places := g.places ++ [w] } ws
      else some { g with places := g.places ++ w :: ws }
    | .options given => readWords rules mixed { g with options := g.options ++ given } ws
    | .waiting given key =>
      match ws with
      | [] => none
      | v :: ws => readWords rules mixed { g with options := g.options ++ given ++ [(key, v)] } ws

end ChangeGraph.Command
