import ChangeGraph.Script.Language
import ChangeGraph.Text.Blank

/-! # Kinds of source file

The end of its name, from the last dot on and in any case, says in which language a file is written. -/

namespace ChangeGraph

inductive SourceKind where
  | javaScript
  | typeScript
  | taggedTypeScript
deriving DecidableEq, Repr

namespace SourceKind

def all : List SourceKind := [.javaScript, .typeScript, .taggedTypeScript]

def name : SourceKind → String
  | .javaScript => "javascript"
  | .typeScript => "typescript"
  | .taggedTypeScript => "tsx"

def extensions : SourceKind → List String
  | .javaScript => [".js", ".jsx", ".mjs", ".cjs"]
  | .typeScript => [".ts", ".mts", ".cts"]
  | .taggedTypeScript => [".tsx"]

def ofName? (s : String) : Option SourceKind := all.find? (·.name == s)

/-- The end of a path from its last dot on. -/
def extension? (path : String) : Option String :=
  let cs := path.toList.reverse
  if cs.contains '.' then some (String.ofList ('.' :: (cs.takeWhile (· != '.')).reverse)) else none

def ofPath? (path : String) : Option SourceKind := do
  let e ← extension? path
  all.find? (·.extensions.contains (Text.lower e))

def language : SourceKind → Parse.Language
  | .javaScript => Script.javaScript
  | .typeScript => Script.typeScript
  | .taggedTypeScript => Script.taggedTypeScript

end SourceKind

/-- Whether a file is one whose functions can be found. -/
def isParseable (path : String) : Bool := (SourceKind.ofPath? path).isSome

/-- A name that no language has. -/
structure UnknownLanguage where
  name : String

def UnknownLanguage.message (u : UnknownLanguage) : String :=
  s!"No grammar module mapped for language '{u.name}'"

/-- The language of the given name. -/
def languageNamed (name : String) : Except UnknownLanguage Parse.Language :=
  match SourceKind.ofName? name with
  | some k => .ok k.language
  | none => .error ⟨name⟩

end ChangeGraph
