/-! # Notices

What is worth telling beside a result: something was left out, ignored or could not be done. -/

namespace ChangeGraph

inductive Notice where
  /-- A patch cannot be read. -/
  | badPatch (reason : String)
  /-- A source file cannot be had. -/
  | unreadSource (path reason : String)
  /-- The functions of a source file cannot be found. -/
  | unparsedSource (path reason : String)
  /-- The settings cannot be read. -/
  | unreadSettings (path : String)
  /-- The settings of graphs are no table. -/
  | settingsNotTable
  | unknownSetting (key : String)
  /-- The settings cannot be written. -/
  | unwrittenSettings (path reason : String)
deriving DecidableEq, Repr

def Notice.text : Notice → String
  | .badPatch reason => "Failed to parse diff: " ++ reason
  | .unreadSource path reason => "Failed to read " ++ path ++ ": " ++ reason
  | .unparsedSource path reason => "Failed to parse " ++ path ++ ": " ++ reason
  | .unreadSettings path => "Ignoring unreadable config file " ++ path
  | .settingsNotTable => "Ignoring non-table [graph] entry in config"
  | .unknownSetting key => "Unknown [graph] option '" ++ key ++ "' ignored"
  | .unwrittenSettings path reason => "Could not write config file " ++ path ++ ": " ++ reason

/-- Whether a notice tells of a failure, and not only of something left out. -/
def Notice.isError : Notice → Bool
  | .badPatch _ => true
  | .unwrittenSettings .. => true
  | _ => false

end ChangeGraph
