import ChangeGraph.Grammar.Regex
import ChangeGraph.Text.Integer

/-! # Lines of a patch

What a line of a unified diff is outside the body of a hunk, and what it is inside. A line keeps the line feed at its
end. -/

namespace ChangeGraph.Patch

open ChangeGraph.Grammar

/-- The numbers of a hunk header by their digits: first old line, old lines, first new line, new lines. -/
structure Header where
  oldStart : List Nat
  oldCount : List Nat
  newStart : List Nat
  newCount : List Nat
deriving DecidableEq, Repr

inductive Line where
  /-- The start of a file section with the old and the new name. -/
  | fileStart (old new : String)
  | newFile
  | deletedFile
  | oldName (name : String)
  | newName (name : String)
  | hunk (h : Header)
  | noLineEnd
  | blank
  /-- Says that a file, known by its old name, is binary. -/
  | binary (old : String)
  | binaryPatch
  | other
deriving DecidableEq, Repr

/-! ### Parts of lines -/

/-- What is left of a list after another one in front of it. -/
def rest? : List Char → List Char → Option (List Char)
  | [], cs => some cs
  | _ :: _, [] => none
  | a :: as, c :: cs => if a == c then rest? as cs else none

/-- What follows a fixed beginning. -/
def after? (start : String) (cs : List Char) : Option (List Char) := rest? start.toList cs

def isNameEnd (c : Char) : Bool := c == '\t' || c == '\n'

/-- A name goes up to a tabulator or the line end. -/
def nameOf (cs : List Char) : List Char := cs.takeWhile (!isNameEnd ·)

/-- The digits of a number and what follows it. -/
def number? (cs : List Char) : Option (List Nat × List Char) :=
  let ds := cs.takeWhile fun c => (Text.digit? c).isSome
  if ds.isEmpty then none else some (ds.filterMap Text.digit?, cs.drop ds.length)

/-- A number after a comma, or one. -/
def count? (cs : List Char) : Option (List Nat × List Char) :=
  match cs with
  | ',' :: rest => number? rest
  | _ => some ([1], cs)

/-- The header `@@ -old,count +new,count @@`. -/
def header? (cs : List Char) : Option Header := do
  let cs ← after? "@@ -" cs
  let (oldStart, cs) ← number? cs
  let (oldCount, cs) ← count? cs
  let cs ← after? " +" cs
  let (newStart, cs) ← number? cs
  let (newCount, cs) ← count? cs
  let _ ← after? " @@" cs
  return ⟨oldStart, oldCount, newStart, newCount⟩

/-- A file mode: digits up to the end of the line. -/
def isMode (cs : List Char) : Bool :=
  match number? cs with
  | some (_, rest) => rest.isEmpty || rest == ['\n']
  | none => false

/-! ### Section starts -/

/-- All ways to cut a list at a blank, the last blank first. -/
def blankCuts (cs : List Char) : List (List Char × List Char) :=
  ((List.range cs.length).reverse.filter fun i => cs[i]? == some ' ').map fun i => (cs.take i, cs.drop (i + 1))

/-- Whether a name, perhaps quoted, is `side` and a slash and something more. -/
def onSide (side : Char) (cs : List Char) : Bool :=
  let cs := match cs with
    | '"' :: rest => rest
    | _ => cs
  match cs with
  | c :: '/' :: _ :: _ => c == side
  | _ => false

/-- The two names of a section under `a/` and `b/`. -/
def sidedNames? (cs : List Char) : Option (List Char × List Char) :=
  (blankCuts (nameOf cs)).find? fun (old, new) => onSide 'a' old && onSide 'b' new

/-- All places of `://` in a list, the last first: what stands up to its end, and what follows. -/
def schemeCuts (cs : List Char) : List (List Char × List Char) :=
  ((List.range cs.length).reverse.filter fun i => "://".toList.isPrefixOf (cs.drop i)).map fun i =>
    (cs.take (i + 3), cs.drop (i + 3))

/-- An address at the start of a list, up to the end of its last name. -/
def address? (cs : List Char) : Option (List Char) :=
  (schemeCuts cs).findSome? fun (front, back) =>
    let name := nameOf back
    if name.isEmpty then none else some (front ++ name)

/-- The two names of a section that are addresses. -/
def addresses? (cs : List Char) : Option (List Char × List Char) :=
  let cs := cs.takeWhile (· != '\n')
  (schemeCuts cs).findSome? fun (front, back) =>
    (blankCuts back).findSome? fun (old, rest) =>
      if old.isEmpty || old.any isNameEnd then none
      else (address? rest).map fun new => (front ++ old, new)

/-- Any two names. -/
def plainNames? (cs : List Char) : Option (List Char × List Char) :=
  (blankCuts (nameOf cs)).find? fun (old, new) => !old.isEmpty && !new.isEmpty

/-- The names of a section start: sided names if there are such, else addresses, else any. -/
def sectionNames? (cs : List Char) : Option (List Char × List Char) := do
  let cs ← after? "diff --git " cs
  (sidedNames? cs).orElse fun _ => (addresses? cs).orElse fun _ => plainNames? cs

/-! ### Binary files -/

def stamp : Regex :=
  .opt (.then_ (.lit "\t") (.plus (.char fun c => Text.isBlank c || c.isDigit || c == ':' || c == '+' || c == '-')))

/-- What may follow the first name of a line about a binary file. -/
def binaryTail : Regex :=
  .seqs [stamp, .opt (.seqs [.lit " and ", .plus (.noneOf "\t"), stamp]), .lit " ",
    .alts [.lit "differ", .lit "has changed"]]

/-- The shortest name after which the line goes on as one about a binary file. -/
def binaryName? (cs : List Char) : Option (List Char) := do
  let cs ← (after? "Binary file " cs).orElse fun _ => after? "Binary files " cs
  let bound := (cs.takeWhile (· != '\t')).length
  let n ← ((List.range bound).map (· + 1)).find? fun n => (binaryTail.longest (cs.drop n)).isSome
  return cs.take n

/-! ### The two views of a line -/

def Line.of (cs : List Char) : Line :=
  match sectionNames? cs with
  | some (old, new) => .fileStart (String.ofList old) (String.ofList new)
  | none =>
    if ((after? "new file mode " cs).map isMode).getD false then .newFile
    else if ((after? "deleted file mode " cs).map isMode).getD false then .deletedFile
    else if let some rest := after? "--- " cs then .oldName (String.ofList (nameOf rest))
    else if let some rest := after? "+++ " cs then .newName (String.ofList (nameOf rest))
    else if let some h := header? cs then .hunk h
    else if (after? "\\ No newline at end of file" cs).isSome then .noLineEnd
    else if cs == ['\n'] then .blank
    else if let some name := binaryName? cs then .binary (String.ofList name)
    else if cs == "GIT binary patch\n".toList then .binaryPatch
    else .other

/-- What a line of the body of a hunk is. -/
inductive Mark where
  | context
  | added
  | removed
  | noLineEnd
deriving DecidableEq, Repr

/-- The first character tells; an empty line stands for an empty context line. -/
def Mark.of? : List Char → Option Mark
  | ' ' :: _ => some .context
  | '+' :: _ => some .added
  | '-' :: _ => some .removed
  | '\\' :: _ => some .noLineEnd
  | '\n' :: _ => some .context
  | '\r' :: _ => some .context
  | _ => none

/-- The lines of a text, each with its line feed; what follows the last line feed is a line if it is not empty. -/
def linesOf : List Char → List (List Char)
  | [] => []
  | '\n' :: cs => ['\n'] :: linesOf cs
  | c :: cs =>
    match linesOf cs with
    | [] => [[c]]
    | l :: ls => if c == '\n' then [c] :: l :: ls else (c :: l) :: ls

end ChangeGraph.Patch
