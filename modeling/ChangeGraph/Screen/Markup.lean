import ChangeGraph.Screen.Lexicon

/-! # Marked text

A text may carry tags in square brackets that say how to show it: an opening one with a style, a closing one with a
slash and the style, or with a slash alone for the tag opened last. What is shown is the text without its tags, with
signs in the place of their names between colons. A bracket that opens no tag is text, and a backslash before a tag
makes it text. -/

namespace ChangeGraph.Screen

/-- Why a tag cannot be taken. -/
inductive TagFault where
  /-- A closing tag names no tag that is open. -/
  | unmatched (tag : String)
  /-- A closing tag without a name comes when no tag is open. -/
  | nothingOpen
  /-- The style of a tag cannot be read or drawn. -/
  | misread (text : String)
  /-- The parameters of an action are no literals. -/
  | objected (text : String)
deriving DecidableEq, Repr

/-- Why a marked text cannot be shown. -/
structure MarkFault where
  fault : TagFault
  position : Nat
deriving DecidableEq, Repr

def MarkFault.message (f : MarkFault) : String :=
  match f.fault with
  | .unmatched tag => s!"closing tag '[{tag}]' at position {f.position} doesn't match any open tag"
  | .nothingOpen => s!"closing tag '[/]' at position {f.position} has nothing to close"
  | .misread text => text
  | .objected text => text

/-- Whether a character may come first in a tag. -/
def opensTag (c : Char) : Bool := c.isLower || c == '#' || c == '/' || c == '@'

/-- Splits what follows a bracket into the inside of a tag and the rest, if it is a tag. -/
def tag? : List Char → Option (List Char × List Char)
  | [] => none
  | c :: cs =>
    match cs.dropWhile (· != ']') with
    | [] => none
    | _ :: rest => if opensTag c then some (c :: cs.takeWhile (· != ']'), rest) else none

/-- What a tag says before a sign of equality. -/
def tagWord (inside : List Char) : String := String.ofList (inside.takeWhile (· != '='))

/-- What a tag says behind a sign of equality. -/
def tagParameters (inside : List Char) : String := String.ofList ((inside.dropWhile (· != '=')).drop 1)

variable (lex : Lexicon)

/-- The tag that is opened. -/
def opening (inside : List Char) : Except TagFault Tag :=
  match lex.style (tagWord inside) with
  | .error text => .error (.misread text)
  | .ok name =>
    let tag : Tag := ⟨name, tagParameters inside⟩
    match lex.flaw? tag with
    | some text => .error (.misread text)
    | none => .ok tag

/-- The name of the tag to close; without a name it is the tag opened last. -/
def closing (back : List Char) : Except TagFault (Option String) :=
  let word := Text.strip (tagWord back)
  if word.isEmpty then .ok none
  else match lex.style word with
    | .error text => .error (.misread text)
    | .ok name => .ok (some name)

/-- Whether a closing tag, perhaps with a name, may close a tag. -/
def suits (name? : Option String) (t : Tag) : Bool := name?.all (· == t.name)

/-- The open tags without the one that is closed, the last opened first. -/
def close (opened : List Tag) (fault : TagFault) (name? : Option String) : Except TagFault (List Tag) :=
  match opened.find? (suits name?) with
  | none => .error fault
  | some tag =>
    match lex.objectionTo? tag with
    | some text => .error (.objected text)
    | none => .ok (opened.erase tag)

/-- The open tags after one more tag. -/
def turn (opened : List Tag) (inside : List Char) : Except TagFault (List Tag) :=
  match inside with
  | '/' :: back => do
    let name? ← closing lex back
    close lex opened (if name?.isSome then .unmatched (String.ofList inside) else .nothingOpen) name?
  | _ => (opening lex inside).map (· :: opened)

/-- A reading of a marked text: what is shown so far, last character first, the characters since the last tag, also
last first, and the open tags, last opened first. -/
structure Marked where
  shown : List Char := []
  recent : List Char := []
  opened : List Tag := []
deriving DecidableEq, Repr

namespace Marked

/-- Takes a bracket that opens no tag; a backslash right before it is not shown. -/
def addBracket (m : Marked) (cs : List Char) : Marked :=
  let recent := match m.recent with
    | '\\' :: r => r
    | r => r
  { m with recent := cs.reverse ++ '[' :: recent }

/-- Takes a tag. Half of the backslashes before it are shown, and an odd one makes it text. -/
def addTag (m : Marked) (position : Nat) (inside rest : List Char) : Except MarkFault Marked :=
  let slashes := (m.recent.takeWhile (· == '\\')).length
  let shown := List.replicate (slashes / 2) '\\' ++ ((signed lex (m.recent.drop slashes).reverse).reverse ++ m.shown)
  if slashes % 2 = 1 then
    .ok { m with shown := (signed lex ('[' :: (inside ++ [']']))).reverse ++ shown, recent := rest.reverse }
  else match turn lex m.opened inside with
    | .error fault => .error { fault, position }
    | .ok opened => .ok { shown, recent := rest.reverse, opened }

/-- Takes what follows each bracket. The position is that of the next bracket. -/
def addAll (m : Marked) (position : Nat) : List (List Char) → Except MarkFault Marked
  | [] => .ok m
  | cs :: css => do
    let next := position + 1 + cs.length
    match tag? cs with
    | some (inside, rest) => addAll (← m.addTag lex position inside rest) next css
    | none => addAll (m.addBracket cs) next css

def text (m : Marked) : List Char := m.shown.reverse ++ signed lex m.recent.reverse

end Marked

/-- Controls that are never shown. -/
def isHidden (c : Char) : Bool := [0x07, 0x08, 0x0B, 0x0C, 0x0D].contains c.toNat

def withoutHidden (cs : List Char) : List Char := cs.filter (!isHidden ·)

/-- A text as it is shown when nothing in it is a mark. -/
def unmarked (s : String) : List Char := withoutHidden s.toList

/-- A text as it is shown when nothing in it is a tag. -/
def untagged (s : String) : List Char := withoutHidden (signed lex s.toList)

/-- Reads a marked text. -/
def reading (s : String) : Except MarkFault Marked :=
  match Text.splitAtEach '[' s.toList with
  | [] => .ok {}
  | front :: css => Marked.addAll lex { recent := front.reverse } front.length css

/-- What a marked text shows. -/
def marked (s : String) : Except MarkFault (List Char) := (reading lex s).map fun m => withoutHidden (m.text lex)

end ChangeGraph.Screen
