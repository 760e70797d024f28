import ChangeGraph.Text.Alphanumeric
import ChangeGraph.Text.Blank
import ChangeGraph.Toml.Fault

/-! # The layout of a settings text

One pass over the characters finds out where keys, texts, lists and comments are. Comments become blanks, line ends
within a list become blanks, and the line end right after an opening triple quote goes away, so that afterwards each
line can be read by itself. Texts that are not closed, and keys without a value, are faults. -/

namespace ChangeGraph.Toml

/-- Where in a key the pass is. -/
inductive KeyPart where
  | outside
  | inside
  | afterBlank
deriving DecidableEq, Repr

/-- Which kind of table header is open. -/
inductive HeaderPart where
  | none
  | table
  | list
deriving DecidableEq, Repr

structure Layout where
  /-- What has been passed, in reverse. -/
  done : List Char := []
  key : KeyPart := .outside
  dotted : Bool := false
  /-- The quote of the text that is open. -/
  quote : Option Char := none
  /-- Whether a text over several lines is open. -/
  long : Bool := false
  lists : Int := 0
  header : HeaderPart := .none
  lineStart : Bool := true
  /-- Whether a comment is being passed. -/
  comment : Bool := false
deriving Repr

namespace Layout

def put (l : Layout) (c : Char) : Layout := { l with done := c :: l.done }

def isKeyChar (c : Char) : Bool := Text.isAlphanumeric c || c == '_' || c == '-'

/-- Whether an odd number of backslashes comes next. -/
def oddBackslashes (cs : List Char) : Bool := (cs.takeWhile (· == '\\')).length % 2 == 1

/-- What a character does to an open key, and whether the pass is done with the character. -/
def stepKey (l : Layout) (c : Char) (next : Option Char) : Except Fault (Layout × Bool) :=
  if c == '\n' then .error .malformed
  else if l.quote.isSome then
    if l.quote == some c && !oddBackslashes l.done then .ok ({ l with quote := none, key := .afterBlank }, true)
    else .ok (l, true)
  else
    let goesOn := (next.map fun n => !Text.isBlank n && n != '.').getD false
    let close : Except Fault (Layout × Bool) :=
      if c == '=' then .ok ({ l with key := .outside, dotted := false }, false) else .error .malformed
    match l.key with
    | .inside =>
      if Text.isBlank c then .ok ({ l with key := .afterBlank }, true)
      else if c == '.' then .ok ({ l with dotted := true }, true)
      else if isKeyChar c then .ok (l, true)
      else if l.dotted && l.done.head? == some '.' && (c == '"' || c == '\'') then
        .ok ({ l with quote := some c }, true)
      else close
    | .afterBlank =>
      if Text.isBlank c then
        if l.dotted && next.isNone then .error .emptyList
        else .ok ({ l with key := if l.dotted && goesOn then .inside else .afterBlank }, true)
      else if c == '.' then
        if next.isNone then .error .emptyList
        else .ok ({ l with dotted := true, key := if goesOn then .inside else .afterBlank }, true)
      else close
    | .outside => close

/-- Opens or closes a text in single quotes. -/
def stepSingle (l : Layout) : Layout :=
  if (l.done.take 2) == ['\'', '\''] then
    { l with long := !l.long, quote := if l.long then none else some '\'' }
  else { l with quote := if l.quote.isSome then none else some '\'' }

/-- Opens or closes a text in double quotes, unless the quote is escaped. -/
def stepDouble (l : Layout) : Layout :=
  let triple := (l.done.take 2) == ['"', '"']
  let lone := l.done.head? != some '"'
  let escaped := (triple && oddBackslashes (l.done.drop 2)) || (lone && oddBackslashes l.done)
  if escaped then { l with quote := if l.quote.isSome then some '"' else none }
  else if triple then { l with long := !l.long, quote := if l.long then none else some '"' }
  else { l with quote := if l.quote.isSome then none else some '"' }

def stepQuotes (l : Layout) (c : Char) : Layout :=
  let l := if c == '\'' && l.quote != some '"' then l.stepSingle else l
  if c == '"' && l.quote != some '\'' then l.stepDouble else l

def stepBrackets (l : Layout) (c : Char) (next : Option Char) : Layout :=
  let l :=
    if c == '[' && l.quote.isNone && l.header == .none then
      if l.lineStart then { l with header := if next == some '[' then .list else .table }
      else { l with lists := l.lists + 1 }
    else l
  if c == ']' && l.quote.isNone then
    match l.header with
    | .table => { l with header := .none }
    | .list => if l.done.head? == some ']' then { l with header := .none } else l
    | .none => { l with lists := l.lists - 1 }
  else l

/-- A line end within a text: right after two quotes it closes the opening, and what goes before moves up. -/
def stepLongLineEnd (l : Layout) : Layout :=
  match l.done with
  | a :: b :: rest =>
    if (a == '\'' || a == '"') && a == b then
      let rest := match rest with
        | d :: more => if d == a then ' ' :: more else rest
        | [] => []
      { l with done := a :: a :: b :: rest }
    else l.put '\n'
  | _ => l.put '\n'

def stepLineEnd (l : Layout) : Except Fault Layout :=
  if l.quote.isSome || l.long then
    if l.long then .ok l.stepLongLineEnd else .error .malformed
  else if l.lists != 0 then .ok (l.put ' ')
  else .ok { l.put '\n' with lineStart := true }

/-- The first character of a line, if it is no blank, starts a key unless it starts a header. -/
def stepLineStart (l : Layout) (c : Char) : Except Fault Layout :=
  if l.lineStart && c != ' ' && c != '\t' then
    let l := { l with lineStart := false }
    if l.header == .none then
      if c == '=' then .error .malformed else .ok { l with key := .inside }
    else .ok l
  else .ok l

def stepValue (l : Layout) (c : Char) (next : Option Char) : Except Fault Layout := do
  let l := l.stepQuotes c
  let isComment := c == '#' && l.quote.isNone && l.header == .none
  let l := if isComment then { l with comment := true } else l.stepBrackets c next
  let shown := if isComment then ' ' else c
  if c == '\n' then l.stepLineEnd else return (← l.stepLineStart shown).put shown

def step (l : Layout) (c : Char) (next : Option Char) : Except Fault Layout := do
  if l.comment && c != '\n' then return l.put ' '
  else
    let l := { l with comment := false }
    if l.key == .outside then l.stepValue c next
    else
      let (l, finished) ← l.stepKey c next
      if finished then return l.put c else l.stepValue c next

def run (l : Layout) : List Char → Except Fault Layout
  | [] => .ok l
  | c :: cs => do run (← l.step c cs.head?) cs

/-- At the end no key and no text may be open. -/
def finish (l : Layout) : Except Fault (List Char) :=
  if l.key != .outside || l.quote.isSome then .error .malformed else .ok l.done.reverse

end Layout

/-- The text with comments blanked and each value on one line. -/
def layOut (cs : List Char) : Except Fault (List Char) := do (← Layout.run {} cs).finish

end ChangeGraph.Toml
