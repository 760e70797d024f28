import ChangeGraph.Toml.Layout
import ChangeGraph.Toml.Scalar
import ChangeGraph.Value.Shown

/-! # Reading settings

A laid out text is read line by line: a header names the table that the following keys go into, a line with an equals
sign sets a key. A value may reach over several lines only as a text in triple quotes. -/

namespace ChangeGraph.Toml

open ChangeGraph.Text (stripChars cutAll cutAt? cutUpTo occurrences joinWith)

/-! ### Quotes within a line -/

/-- Moves pieces between double quotes into a piece between single quotes until that one is closed. -/
def closeSingles : List (List Char) → List (List Char) → List (List Char) × List (List Char)
  | singles, [] => (singles, [])
  | singles, d :: doubles =>
    if singles.length % 2 == 0 then
      let last := (singles.getLast?.getD []) ++ '"' :: d
      closeSingles (singles.dropLast ++ cutAll ['\''] last) doubles
    else (singles, d :: doubles)

def alternate : Bool → List (List Char) → List (List Char)
  | _, [] => []
  | true, d :: ds => d :: alternate true ds
  | false, d :: ds => cutAll ['\''] d ++ alternate true ds

/-- A line as pieces that are by turns outside and inside of quotes. -/
def quotePieces (line : List Char) : List (List Char) :=
  match cutAll ['"'] line with
  | d :: e :: ds =>
    if d.contains '\'' then
      let (singles, doubles) := closeSingles (cutAll ['\''] d) (e :: ds)
      singles ++ alternate false doubles
    else alternate false (d :: e :: ds)
  | ds => alternate false ds

/-- One more than the number of separators before the first piece outside of quotes that has one. -/
def separatorIndex (sep : List Char) : Bool → List (List Char) → Nat
  | _, [] => 1
  | quoted, p :: ps =>
    if !quoted && occurrences sep p != 0 then 1
    else occurrences sep p + separatorIndex sep (!quoted) ps

/-- What stands before and after the given separator of a line. A line with fewer is cut at its last. -/
def cutAtIndex (sep : List Char) (i : Nat) (line : List Char) : List Char × List Char :=
  let ps := cutUpTo sep i line
  (joinWith sep ps.dropLast, ps.getLast?.getD [])

/-! ### Values -/

/-- Whether the value after an equals sign is plainly a value and not the rest of a key. -/
def isPlainValue (cs : List Char) : Bool :=
  match cs with
  | [] => true
  | c :: _ =>
    [' ', '\t', '\'', '"', '[', '\x7b'].contains c ||
      ["true", "false"].contains (String.ofList (stripChars cs)) ||
      (decimal? cs).isSome || (date? cs).isSome || (time? cs).isSome

/-- Whether there is a zero in front of anything but the given marks. -/
def isPadded (marks : List Char) : List Char → Bool
  | '0' :: c :: _ => !marks.contains c
  | _ => false

/-- Whether a number has a zero in front. A mark for a base may not stand behind a sign. -/
def isPaddedNumber : List Char → Bool
  | '+' :: rest => isPadded ['.'] rest
  | '-' :: rest => isPadded ['.'] rest
  | cs => isPadded ['.', 'o', 'b', 'x'] cs

/-- Whether a value, if it is a number, has zeros and underscores only where they may be. -/
def isStrict (value : List Char) : Bool :=
  let cs := stripChars value
  !cs.isEmpty && !isPaddedNumber cs && cs.head? != some '_' && cs.getLast? != some '_' &&
    [['_', '.'], ['.', '_'], ['_', '_']].all fun sep => occurrences sep cs == 0

/-- Cuts a line into key and value, moving on to a later equals sign while the value is none. All values on the way must
be strict for the last one to be so. -/
def cutPair (line : List Char) : Nat → Nat → Except Fault (List Char × List Char × Bool)
  | 0, _ => .error .malformed
  | fuel + 1, i =>
    let (key, value) := cutAtIndex ['='] i line
    if isPlainValue value then .ok (key, value, isStrict value)
    else if (cutAtIndex ['='] (i + 1) line).2 == value then .error .malformed
    else do
      let (key, last, strict) ← cutPair line fuel (i + 1)
      return (key, last, isStrict value && strict)

/-- A value that starts with a digit may have underscores in it. -/
def dropUnderscores (cs : List Char) : List Char :=
  if (cs.head?.map Char.isDigit).getD false then cs.filter (· != '_') else cs

/-- The key and the value of a line, and whether the value is strict. -/
def keyAndValue (line : List Char) : Except Fault (List Char × List Char × Bool) := do
  let i := separatorIndex ['='] false (quotePieces line)
  let (key, first) := cutAtIndex ['='] i line
  let value := dropUnderscores first
  if isPlainValue value then return (stripChars key, stripChars value, isStrict first)
  else if (cutAtIndex ['='] (i + 1) line).2 == value then .error .malformed
  else
    let (key, value, strict) ← cutPair line line.length (i + 1)
    return (stripChars key, stripChars value, isStrict first && strict)

/-- The names of a dotted key. -/
def keyNames (key : List Char) : Except Fault (List (List Char)) :=
  if key.contains '.' then
    let levels :=
      if key.contains '"' || key.contains '\'' then
        ((quotePieces key).zipIdx.map fun (p, i) =>
          if i % 2 == 1 then [p] else (cutAll ['.'] p).map stripChars).flatten
      else cutAll ['.'] key
    let levels := (levels.reverse.dropWhile (·.isEmpty)).reverse
    match levels.getLast? with
    | none => .error .emptyList
    | some last => .ok ((levels.dropLast.filter (!·.isEmpty)) ++ [stripChars last])
  else
    match key with
    | [] => .error .emptyText
    | c :: _ =>
      if (c == '"' || c == '\'') && key.getLast? == some c then do return [← unescape (inner 1 key)]
      else .ok [key]

/-- Whether a list has texts for elements, as far as its first element shows. -/
def isTextList (cs : List Char) : Bool :=
  match stripChars (inner 1 cs) with
  | c :: _ => c == '"' || c == '\''
  | [] => false

/-- The last text of a list that is not closed, given the pieces between its commas in reverse. -/
def lastText : List (List Char) → Except Fault (List Char)
  | [] => .ok []
  | [q] => .ok q
  | q :: p :: rest =>
    match q with
    | [] => .error .emptyText
    | c :: _ => if c == '"' || c == '\'' then .ok q else lastText ((p ++ ',' :: q) :: rest)
termination_by ps => ps.length

/-- Whether a text in quotes is opened by three quotes and not closed by three. -/
def isOpenLong : List Char → Except Fault Bool
  | a :: b :: c :: rest =>
    let cs := a :: b :: c :: rest
    if (a == '"' || a == '\'') && b == a && c == a then
      .ok (!(5 < cs.length && (cs.reverse.take 3).all (· == a)))
    else .ok false
  | [a, b] => if (a == '"' || a == '\'') && b == a then .error .emptyText else .ok false
  | [a] => if a == '"' || a == '\'' then .error .emptyText else .ok false
  | [] => .error .emptyText

/-- Whether a value opens a text that its line does not close. -/
def opensLong (v : List Char) : Except Fault Bool := do
  if v.length < 3 then return false
  else if v.head? == some '[' && v.getLast? != some ']' && isTextList v then
    isOpenLong (← lastText (cutAll [','] (stripChars (v.drop 1))).reverse)
  else isOpenLong v

/-- Whether a piece ends with the quote that it starts with, unless that is escaped. Three quotes in front want another
two before the last. -/
def isClosed (piece : List Char) : Bool :=
  match stripChars piece with
  | [] => true
  | c :: cs =>
    let isTriple := cs[0]? == some c && cs[1]? == some c
    (c :: cs).getLast? == some c && !endsEscaping cs.dropLast &&
      !(isTriple && (c :: cs).reverse[1]? != some c && (c :: cs).reverse[2]? != some c)

/-- Puts pieces of a list of texts together again that were cut at a comma within a text. `front` is a text that is not
closed. The last piece is not looked at if it stands alone. -/
def mendTexts (front : Option (List Char)) : List (List Char) → Except Fault (List (List Char))
  | [] => if front.isSome then .error .emptyList else .ok []
  | p :: ps =>
    let whole := (front.map (· ++ [','])).getD [] ++ p
    if front.isNone && ps.isEmpty then .ok [whole]
    else if isClosed whole then do return whole :: (← mendTexts none ps)
    else mendTexts (some whole) ps

/-- Cuts a list at the commas that are not within an inner list. -/
def outerPieces (depth : Int) (current : List Char) : List Char → List (List Char)
  | [] => [current.reverse]
  | c :: cs =>
    if c == '[' then outerPieces (depth + 1) (c :: current) cs
    else if c == ']' then outerPieces (depth - 1) (c :: current) cs
    else if c == ',' && depth == 0 then current.reverse :: outerPieces depth [] cs
    else outerPieces depth (c :: current) cs

/-- The inner tables of a list, each from its opening brace to its closing one. `current` is the table so far in
reverse, `depth` counts its open braces; between tables nothing counts. -/
def innerTables (current : Option (List Char)) (depth : Nat) (quoted : Bool) : List Char → List (List Char)
  | [] => []
  | c :: cs =>
    match current with
    | none => if c == '\x7b' then innerTables (some [c]) 1 false cs else innerTables none 0 false cs
    | some t =>
      let quoted := if c == '"' || c == '\'' then
          if quoted && (t.takeWhile (· == '\\')).length % 2 == 1 then quoted else !quoted
        else quoted
      if quoted then innerTables (some (c :: t)) depth quoted cs
      else if c == '\x7b' then innerTables (some (c :: t)) (depth + 1) quoted cs
      else if c == '\x7d' then
        if depth ≤ 1 then (c :: t).reverse :: innerTables none 0 false cs
        else innerTables (some (c :: t)) (depth - 1) quoted cs
      else innerTables (some (c :: t)) depth quoted cs

/-- The pieces of a list that are its elements. -/
def listPieces (cs : List Char) : Except Fault (List (List Char)) :=
  let body := inner 1 cs
  match cutAt? ['['] body with
  | some (front, _) =>
    if (stripChars front).isEmpty then .ok (outerPieces 0 [] body) else flat body
  | none => flat body
where
  flat (body : List Char) : Except Fault (List (List Char)) :=
    let first := (stripChars body).head?
    let pieces := if first == some '\x7b' then innerTables none 0 false body else cutAll [','] body
    if first == some '"' || first == some '\'' then mendTexts none pieces else .ok pieces

/-- Whether the value of an entry of an inline table is complete. -/
def isWhole (v : List Char) : Except Fault Bool :=
  match v, v.getLast? with
  | c :: _, some z =>
    .ok ((c == z && (c == '"' || c == '\'')) || c == '-' || c.isDigit ||
      ["true", "false"].contains (String.ofList v) || (c == '[' && z == ']') || (c == '\x7b' && z == '\x7d'))
  | _, _ => .error .emptyText

/-- Puts the pieces of an inline table together until each is a whole entry. -/
def inlineEntries : List (List Char) → Except Fault (List (List Char))
  | [] => .ok []
  | [p] => do
    match cutAt? ['='] p with
    | none => .error .malformed
    | some (_, v) => if ← isWhole (stripChars v) then return [p] else .error .malformed
  | p :: q :: ps => do
    match cutAt? ['='] p with
    | none => .error .malformed
    | some (_, v) =>
      if ← isWhole (stripChars v) then return p :: (← inlineEntries (q :: ps))
      else inlineEntries ((p ++ ',' :: q) :: ps)
termination_by ps => ps.length

/-- Makes the tables on the way of dotted names, and sets the value at their end if there is one. A name that is taken
is a fault. -/
def setAt (v : Option Value) : List String → Value → Except Fault Value
  | [], _ => .error .malformed
  | [k], .table es =>
    if Entries.has es k then .error .malformed else .ok (.table ((v.map (Entries.set k · es)).getD es))
  | [_], _ => .error .malformed
  | k :: ks, .table es => do
    let child ← setAt v ks ((Entries.get? es k).getD (.table []))
    return .table (Entries.set k child es)
  | k :: _ :: _, .text s =>
    if k.isEmpty || occurrences k.toList s.toList != 0 then .error (.other "string indices must be integers, not 'str'")
    else .error (.notAssignable "str")
  | _ :: _ :: _, .list _ => .error (.other "list indices must be integers or slices, not str")
  | _ :: _ :: _, w => .error (.notContainer w.kindWord)

/-- A text that goes on over further lines: its key and what there is of it. -/
structure LongText where
  key : String
  text : List Char
  /-- Whether the last line ended with a backslash. -/
  joins : Bool
deriving Repr

mutual

def readValue : Nat → List Char → Except Fault (Value × Family)
  | 0, _ => .error .malformed
  | fuel + 1, cs =>
    let word := String.ofList cs
    match cs with
    | [] => .error .malformed
    | c :: _ =>
      if word == "true" then .ok (.bool true, .bool)
      else if word == "false" then .ok (.bool false, .bool)
      else if word.toLower == "true" || word.toLower == "false" then .error .malformed
      else if c == '"' || c == '\'' then do return (.text (String.ofList (← readQuoted c cs)), .text)
      else if c == '[' then do return (.list (← readList fuel cs), .list)
      else if c == '\x7b' then do return (.table (← readInline fuel cs []), .table)
      else match time? cs with
        | some t => if t.valid then .ok (.moment (.clock t), .time) else .error .malformed
        | none =>
          match date? cs with
          | some d => .ok (.moment d, .date)
          | none => readNumber cs

/-- The elements of a list, all of one family. -/
def readList : Nat → List Char → Except Fault (List Value)
  | 0, _ => .error .malformed
  | fuel + 1, cs => do
    let pieces := (← listPieces cs).map stripChars
    let typed ← (pieces.filter (!·.isEmpty)).mapM (readValue fuel)
    match typed with
    | [] => return []
    | (_, family) :: _ =>
      if typed.all fun x => x.2 == family then return typed.map (·.1) else .error .malformed

/-- Reads the entries of an inline table into a table. -/
def readInline : Nat → List Char → Entries → Except Fault Entries
  | 0, _, _ => .error .malformed
  | fuel + 1, cs, es => do
    let body := inner 1 cs
    if (stripChars body).isEmpty then return es
    let entries ← inlineEntries (cutAll [','] body)
    readEntries fuel entries es

/-- Reads entries until one has a text that goes on. -/
def readEntries : Nat → List (List Char) → Entries → Except Fault Entries
  | 0, _, _ => .error .malformed
  | _ + 1, [], es => .ok es
  | fuel + 1, e :: rest, es => do
    match ← readEntry fuel e (.table es) with
    | (.table es, none) => readEntries fuel rest es
    | (.table es, some _) => return es
    | _ => return es

/-- Reads a line with an equals sign into a table, or finds that its text goes on. -/
def readEntry : Nat → List Char → Value → Except Fault (Value × Option LongText)
  | 0, _, _ => .error .malformed
  | fuel + 1, line, t => do
    let (key, value, strict) ← keyAndValue line
    let names := (← keyNames key).map String.ofList
    if ← opensLong value then
      let joins := endsEscaping value
      let last := names.getLast?.getD ""
      let t ← setAt none names t
      return (t, some ⟨last, if joins then value.dropLast else value ++ ['\n'], joins⟩)
    else
      let (v, family) ← readValue fuel value
      if family.isNumber && !strict then .error .malformed
      else return (← setAt (some v) names t, none)

end

/-! ### Headers -/

/-- The name parts of a header. A part in quotes may have dots in it: `front` is what there is of a part that is not
closed. -/
def headerNames (front : Option (List Char)) : List (List Char) → Except Fault (List String)
  | [] => if front.isSome then .error .malformed else .ok []
  | p :: ps => do
    let s := stripChars ((front.map (· ++ ['.'])).getD [] ++ p)
    match s with
    | [] => .error .malformed
    | c :: _ =>
      if c == '"' || c == '\'' then
        if s.getLast? == some c && 1 < s.length then return String.ofList (inner 1 s) :: (← headerNames none ps)
        else headerNames (some s) ps
      else if s.all fun c => c.isAlphanum || c == '_' || c == '-' then
        return String.ofList s :: (← headerNames none ps)
      else .error .malformed

/-- Whether a header stands for a new element of a list, and its names. -/
def readHeader (line : List Char) : Except Fault (Bool × List String) := do
  let isList := (line.drop 1).head? == some '['
  let sep := if isList then [']', ']'] else [']']
  let rest := line.drop (if isList then 2 else 1)
  let i := separatorIndex sep false (quotePieces rest)
  let pieces := cutUpTo sep i rest
  if pieces.length < i + 1 || !(stripChars (pieces.getLast?.getD [])).isEmpty then .error .malformed
  else
    let names ← headerNames none (cutAll ['.'] (joinWith sep pieces.dropLast))
    if names.any (·.isEmpty) then .error .malformed else return (isList, names)

/-- A step from a value into a part of it. -/
inductive Hop where
  | key (k : String)
  | last
deriving DecidableEq, Repr

/-- The part of a child to go on in, the way to it, and how the child is made from that part. On the way to a new list
element every list is entered at its last element. -/
def focus (isList : Bool) (child : Value) : Except Fault (Value × List Hop × (Value → Value)) :=
  match isList, child with
  | false, _ => .ok (child, [], fun v => v)
  | true, .table _ => .ok (child, [], fun v => v)
  | true, .list vs =>
    match vs.getLast? with
    | none => .error .emptyList
    | some last => .ok (last, [.last], fun v => .list (vs.dropLast ++ [v]))
  | true, w => .error (.notIndexed w.kindWord)

/-- The child of a name in a table when a header passes or ends there, and the names passed through since. -/
def childFor (isList : Bool) (passed : List String) (k : String) (ends : Bool) (es : Entries) :
    Except Fault (Value × List String) :=
  match Entries.get? es k with
  | none => .ok (if ends && isList then .list [.table []] else .table [], if ends then passed else passed ++ [k])
  | some child =>
    if !ends then .ok (child, passed)
    else if passed.contains k then
      if isList then .error .malformed else .ok (child, passed.erase k)
    else if isList then
      match child with
      | .list vs => .ok (.list (vs ++ [.table []]), passed)
      | _ => .error .notAppendable
    else .error .malformed

/-- The table that a header names, made if need be: the value with that table in it, the way to it, and the names of
tables that so far were only passed through. -/
def enter (isList : Bool) (passed : List String) : List String → Value → Except Fault (Value × List Hop × List String)
  | [], v => .ok (v, [], passed)
  | k :: ks, .table es => do
    let (child, passed) ← childFor isList passed k ks.isEmpty es
    let (part, hop, rebuild) ← focus isList child
    let (part, hops, passed) ← enter isList passed ks part
    return (.table (Entries.set k (rebuild part) es), .key k :: hop ++ hops, passed)
  | k :: ks, .list vs => do
    match vs.getLast? with
    | none => .error .emptyList
    | some (.table es) =>
      let fresh : Value := if ks.isEmpty && isList then .list [.table []] else .table []
      let (part, hop, rebuild) ← focus isList ((Entries.get? es k).getD fresh)
      let (part, hops, passed) ← enter isList passed ks part
      return (.list (vs.dropLast ++ [.table (Entries.set k (rebuild part) es)]), .last :: .key k :: hop ++ hops, passed)
    | some w => .error (.notIndexed w.kindWord)
  | _ :: _, .text _ => .error (.notAssignable "str")
  | _ :: _, w => .error (.notIndexed w.kindWord)

/-- Changes the part of a value at the end of a way. -/
def changeAt (f : Value → Except Fault (Value × Option LongText)) :
    List Hop → Value → Except Fault (Value × Option LongText)
  | [], v => f v
  | .key k :: hops, .table es => do
    let (child, long) ← changeAt f hops ((Entries.get? es k).getD (.table []))
    return (.table (Entries.set k child es), long)
  | .last :: hops, .list vs => do
    let (last, long) ← changeAt f hops (vs.getLast?.getD (.table []))
    return (.list (vs.dropLast ++ [last]), long)
  | _, _ => .error .malformed

/-! ### Lines -/

structure State where
  root : Value := .table []
  /-- The way to the table that keys go into. -/
  here : List Hop := []
  passed : List String := []
  long : Option LongText := none

/-- Reads one more line of a text that goes on. -/
def State.stepLong (s : State) (l : LongText) (line : List Char) : Except Fault State := do
  let line := if l.joins || !l.text.contains '\n' then stripChars line else line
  if line.isEmpty && l.joins then return s
  let text := l.text ++ line
  let closed := match text.head? with
    | some '[' => line.getLast? == some ']'
    | some q => 2 < line.length && (line.reverse.take 3).all (· == q)
    | none => false
  if closed then
    let (v, _) ← readValue (text.length + 1) text
    let (root, _) ← changeAt (fun t => match t with
      | .table es => .ok (.table (Entries.set l.key v es), none)
      | w => .error (.notAssignable w.kindWord)) s.here s.root
    return { s with root, long := none }
  else
    let joins := endsEscaping text
    return { s with long := some ⟨l.key, if joins then text.dropLast else text ++ ['\n'], joins⟩ }

def State.step (s : State) (line : List Char) : Except Fault State := do
  match s.long with
  | some l => s.stepLong l line
  | none =>
    let line := stripChars line
    match line with
    | [] => return s
    | ['['] => .error .malformed
    | '[' :: _ =>
      let (isList, names) ← readHeader line
      let (root, here, passed) ← enter isList s.passed names s.root
      return { s with root, here, passed }
    | '\x7b' :: _ =>
      if line.getLast? != some '\x7d' then .error .malformed
      let (root, _) ← changeAt (fun t => match t with
        | .table es => do return (.table (← readInline (line.length + 1) line es), none)
        | _ => .error .malformed) s.here s.root
      return { s with root }
    | _ =>
      if !line.contains '=' then return s
      let (root, long) ← changeAt (readEntry (line.length + 1) line) s.here s.root
      return { s with root, long }

/-- The settings that a text holds. -/
def read (text : String) : Except Fault Entries := do
  let cs ← layOut text.toList
  let s ← (Text.splitAtEach '\n' cs).foldlM State.step {}
  match s.root with
  | .table es => return es
  | _ => return []

end ChangeGraph.Toml
