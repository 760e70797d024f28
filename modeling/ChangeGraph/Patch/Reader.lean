import ChangeGraph.Diff.ChangedFile
import ChangeGraph.Patch.Line

/-! # Reading patches

A patch is read line by line. What has been read is a list of file sections, the latest first; the latest may still be
open, and within it a hunk may be open that waits for lines of its body. At the end each section becomes the runs of
its added lines. -/

namespace ChangeGraph.Patch

inductive Fault where
  | newFile (line : String)
  | deletedFile (line : String)
  | targetWithoutSource (line : String)
  | strayHunk (line : String)
  | strayMarker (line : String)
  | markerBeforeHunk
  | strayBinary (line : String)
  | bodyLine (line : String)
  | hunkTooLong
  | hunkTooShort
deriving DecidableEq, Repr

def Fault.message : Fault → String
  | .newFile l => "Unexpected new file found: " ++ l
  | .deletedFile l => "Unexpected deleted file found: " ++ l
  | .targetWithoutSource l => "Target without source: " ++ l
  | .strayHunk l => "Unexpected hunk found: " ++ l
  | .strayMarker l => "Unexpected marker: " ++ l
  | .markerBeforeHunk => "Unexpected marker: No newline at end of file"
  | .strayBinary l => "Unexpected binary patch marker: " ++ l
  | .bodyLine l => "Hunk diff line expected: " ++ l
  | .hunkTooLong => "Hunk is longer than expected"
  | .hunkTooShort => "Hunk is shorter than expected"

/-- Why a text does not fall into sections: it is malformed, or a number in it has too many digits to be read. -/
inductive Halt where
  | malformed (f : Fault)
  | longNumber (digits : Nat)
deriving DecidableEq, Repr

/-- The body of a hunk: the number of its first new line and its lines. -/
structure Body where
  newStart : Nat
  marks : List Mark
deriving DecidableEq, Repr

structure Section where
  old : String
  new : String
  binary : Bool := false
  bodies : List Body := []
deriving DecidableEq, Repr

/-- A hunk of which lines are missing, its lines so far in reverse. -/
structure OpenHunk where
  newStart : Nat
  oldLeft : Nat
  newLeft : Nat
  marks : List Mark := []
deriving DecidableEq, Repr

/-- The number that digits stand for, if they are not too many. -/
def readNumber (digits : List Nat) : Except Halt Nat :=
  if digits.length ≤ Text.digitLimit then .ok (Text.ofDigits digits) else .error (.longNumber digits.length)

/-- The hunk that a header announces. -/
def Header.hunk (h : Header) : Except Halt OpenHunk := do
  let _ ← readNumber h.oldStart
  let oldLeft ← readNumber h.oldCount
  let newStart ← readNumber h.newStart
  let newLeft ← readNumber h.newCount
  return { newStart, oldLeft, newLeft }

/-- The lines that are still missing after one more, if the line is not one too many. -/
def OpenHunk.add (h : OpenHunk) (m : Mark) : Except Fault OpenHunk :=
  let h := { h with marks := m :: h.marks }
  match m, h.oldLeft, h.newLeft with
  | .context, o + 1, n + 1 => .ok { h with oldLeft := o, newLeft := n }
  | .added, _, n + 1 => .ok { h with newLeft := n }
  | .removed, o + 1, _ => .ok { h with oldLeft := o }
  | .noLineEnd, _, _ => .ok h
  | _, _, _ => .error .hunkTooLong

def OpenHunk.isComplete (h : OpenHunk) : Bool := h.oldLeft == 0 && h.newLeft == 0

structure State where
  /-- The sections so far, the latest first. -/
  sections : List Section := []
  /-- Whether the latest section is open. -/
  isOpen : Bool := false
  /-- Whether header lines are being collected. -/
  inHeader : Bool := false
  /-- The old name that waits for its new name. -/
  pending : Option String := none
  hunk : Option OpenHunk := none
deriving DecidableEq, Repr

namespace State

def current? (s : State) : Option Section := if s.isOpen then s.sections.head? else none

/-- Changes the latest section. -/
def change (s : State) (f : Section → Section) : State :=
  match s.sections with
  | x :: xs => { s with sections := f x :: xs }
  | [] => s

def begin (s : State) (x : Section) : State := { s with sections := x :: s.sections, isOpen := true }

/-! ### Bodies of hunks -/

/-- Puts a finished hunk into the latest section. -/
def close (s : State) (h : OpenHunk) : State :=
  let body : Body := ⟨h.newStart, h.marks.reverse⟩
  let s := { s with hunk := none }
  s.change fun x => { x with bodies := x.bodies ++ [body] }

def bodyStep (s : State) (h : OpenHunk) (line : List Char) : Except Fault State :=
  match Mark.of? line with
  | none => .error (.bodyLine (String.ofList line))
  | some m => do
    let h ← h.add m
    return if h.isComplete then s.close h else { s with hunk := some h }

/-! ### Lines outside of hunks -/

/-- The state when a line is neither header nor hunk: it starts a new header. -/
def fresh (s : State) : State := if s.inHeader then s else { s with isOpen := false, inHeader := true }

def finishBinary (s : State) : State :=
  { s.change fun x => { x with binary := true } with isOpen := false, inHeader := false }

def refuse (f : Fault) : Except Halt State := .error (.malformed f)

def headerStep (s : State) (line : List Char) : Except Halt State :=
  let text := String.ofList line
  match Line.of line with
  | .fileStart old new =>
    .ok { s.begin { old, new } with inHeader := true, pending := some old }
  | .newFile =>
    if s.isOpen && s.inHeader then .ok (s.change fun x => { x with old := "/dev/null" }) else refuse (.newFile text)
  | .deletedFile =>
    if s.isOpen && s.inHeader then .ok (s.change fun x => { x with new := "/dev/null" })
    else refuse (.deletedFile text)
  | .oldName name =>
    .ok { s with pending := some name, isOpen := s.isOpen && s.inHeader }
  | .newName name =>
    match s.current?, s.pending with
    | some x, _ => if x.new == name then .ok s else refuse (.targetWithoutSource text)
    | none, some old =>
      .ok { s.begin { old, new := name } with inHeader := false, pending := none }
    | none, none => refuse (.targetWithoutSource text)
  | .hunk h =>
    if s.isOpen then do
      let hunk ← h.hunk
      return { s with inHeader := false, hunk := some hunk }
    else refuse (.strayHunk text)
  | .noLineEnd =>
    match s.current? with
    | none => refuse (.strayMarker text)
    | some x => if x.bodies.isEmpty then refuse .markerBeforeHunk else .ok s
  | .blank =>
    if ((s.current?).map (!·.bodies.isEmpty)).getD false then .ok s else .ok s.fresh
  | .binary old =>
    let s := { s.fresh with pending := some old }
    .ok (if s.isOpen then s.finishBinary else (s.begin { old, new := old }).finishBinary)
  | .binaryPatch =>
    let s := s.fresh
    if s.isOpen then .ok s.finishBinary else refuse (.strayBinary text)
  | .other => .ok s.fresh

def step (s : State) (line : List Char) : Except Halt State :=
  match s.hunk with
  | some h => (s.bodyStep h line).mapError Halt.malformed
  | none => s.headerStep line

/-- At the end of the text no line of a hunk may be missing. -/
def finish (s : State) : Except Halt (List Section) :=
  match s.hunk with
  | none => .ok s.sections.reverse
  | some h => if h.isComplete then .ok (s.close h).sections.reverse else .error (.malformed .hunkTooShort)

end State

/-- The file sections of a patch, in order. -/
def sections (text : String) : Except Halt (List Section) := do
  let s ← (linesOf text.toList).foldlM State.step {}
  s.finish

/-! ### Added lines -/

/-- The added lines of a body as runs, each with its first number and its length. A run goes on over removed lines and
ends at a context line. `line` is the number of the next new line and `run` the run so far. -/
def runsFrom (line : Nat) (run : Option (Nat × Nat)) : List Mark → List (Nat × Nat)
  | [] => run.toList
  | .added :: ms =>
    match run with
    | none => runsFrom (line + 1) (some (line, 1)) ms
    | some (first, n) => runsFrom (line + 1) (some (first, n + 1)) ms
  | .context :: ms => run.toList ++ runsFrom (line + 1) none ms
  | _ :: ms => runsFrom line run ms

def Body.runs (b : Body) : List (Nat × Nat) := runsFrom b.newStart none b.marks

/-- The path of a file after the change, or before it if the file is gone. -/
def Section.path (x : Section) : String := if x.new == "/dev/null" then x.old else x.new

def Section.diff (x : Section) : Except Hunk.Fault FileDiff := do
  let hunks ← (x.bodies.flatMap Body.runs).mapM fun (start, count) => Hunk.of start count
  return ⟨x.path, hunks⟩

/-- Why a patch gives no file diffs: it is malformed, or a number in it is none that a hunk can have. -/
inductive Failure where
  | malformed (f : Fault)
  | badHunk (f : Hunk.Fault)

def Failure.message : Failure → String
  | .malformed f => "Malformed patch: " ++ f.message
  | .badHunk f => f.message

def Halt.failure : Halt → Failure
  | .malformed f => .malformed f
  | .longNumber n => .badHunk (.longNumber n)

/-- The file diffs of a patch; binary files are left out. -/
def read (text : String) : Except Failure (List FileDiff) := do
  if (Text.trimBoth Text.isBlank text.toList).isEmpty then return []
  let xs ← (sections text).mapError Halt.failure
  (xs.filter (!·.binary)).mapM fun x => x.diff.mapError Failure.badHunk

end ChangeGraph.Patch
