import ChangeGraph.Source.Symbol

/-! # Symbols by name

A symbol is filed under its name, and a member of a named class also under the bare name after the last dot. A call is
taken to mean a symbol of the caller's own file before any other. -/

namespace ChangeGraph

/-- The bare name of a member of a class. -/
def Symbol.bareName? (s : Symbol) : Option String :=
  if (presentName s.className).isSome && s.name.toList.contains '.' then
    some (String.ofList (s.name.toList.reverse.takeWhile (· != '.')).reverse)
  else none

/-- Names in the order in which they were first filed, each with its symbols in the order of filing. -/
abbrev NameIndex := List (String × List Symbol)

namespace NameIndex

def file (name : String) (s : Symbol) : NameIndex → NameIndex
  | [] => [(name, [s])]
  | (n, ss) :: rest => if n == name then (n, ss ++ [s]) :: rest else (n, ss) :: file name s rest

def add (index : NameIndex) (s : Symbol) : NameIndex :=
  let index := index.file s.name s
  match s.bareName? with
  | some bare => file bare s index
  | none => index

def ofSymbols (ss : List Symbol) : NameIndex := ss.foldl add []

def candidates (index : NameIndex) (name : String) : List Symbol := (index.lookup name).getD []

end NameIndex

/-- The first element before which no other comes. -/
def earliest {α : Type} (before : α → α → Bool) : List α → Option α
  | [] => none
  | a :: as => some (as.foldl (fun best b => if before b best then b else best) a)

/-- Order by path, then by first line. -/
def Symbol.before (a b : Symbol) : Bool :=
  a.path < b.path || (a.path == b.path && a.range.first < b.range.first)

/-- The symbol that a name means to a caller in the given file. -/
def NameIndex.resolve? (index : NameIndex) (callee caller : String) : Option Symbol :=
  let all := index.candidates callee
  let own := all.filter (·.path == caller)
  earliest Symbol.before (if own.isEmpty then all else own)

/-- A call site that is known to call the given symbol. -/
def CallSite.withTarget (c : CallSite) (target : Symbol) : CallSite :=
  { c with resolved := true, target := some target.id }

/-- The symbol that a call means, and the call site with what is known after the search. -/
def NameIndex.resolve (index : NameIndex) (caller : String) (c : CallSite) : Option Symbol × CallSite :=
  match index.resolve? c.callee caller with
  | some s => (some s, c.withTarget s)
  | none => (none, c)

end ChangeGraph
