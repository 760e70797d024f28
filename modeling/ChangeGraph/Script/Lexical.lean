import ChangeGraph.Grammar.Rule

/-! # Lexical patterns of script texts

Blanks, words, numbers, comments and the pieces of quoted texts, as both script languages write them. -/

namespace ChangeGraph.Script

open ChangeGraph.Grammar
open ChangeGraph.Grammar.Regex

/-- Separators of any script: space-like characters of all scripts. -/
def isSpaceSeparator (c : Char) : Bool :=
  let n := c.toNat
  n == 0x20 || n == 0xA0 || n == 0x1680 || (0x2000 ≤ n && n ≤ 0x200A) || n == 0x202F || n == 0x205F || n == 0x3000

def isWhite (c : Char) : Bool :=
  let n := c.toNat
  (9 ≤ n && n ≤ 13) || n == 0x85 || n == 0x2028 || n == 0x2029 || isSpaceSeparator c

/-- Characters that may stand between tokens. -/
def isBlank (c : Char) : Bool :=
  let n := c.toNat
  isWhite c || n == 0xFEFF || n == 0x2060 || n == 0x200B

/-- Characters that end a word: controls, blanks and punctuation. -/
def endsWord (c : Char) : Bool :=
  c.toNat < 0x20 || isBlank c || ":;`\"'@#.,|^&<=>+-*/\\%?!~()[]\x7b\x7d".contains c

def wordEscape : Regex :=
  alts [seqs [lit "\\u", times hexDigit 4], seqs [lit "\\u\x7b", plus hexDigit, lit "\x7d"]]

def wordStart : Regex := or_ (char fun c => !endsWord c && !c.isDigit) wordEscape

def wordRest : Regex := star (or_ (char fun c => !endsWord c) wordEscape)

def word : Regex := then_ wordStart wordRest

/-- Digits of a base, single underscores allowed between them. -/
def digitsOf (d : Regex) : Regex := then_ d (star (then_ (opt (lit "_")) d))

def number : Regex :=
  let decimal := digitsOf digit
  let bit := char fun c => c == '0' || c == '1'
  let octal := char fun c => '0' ≤ c && c ≤ '7'
  let nonzero := char fun c => '1' ≤ c && c ≤ '9'
  let hexLit := then_ (or_ (lit "0x") (lit "0X")) (digitsOf hexDigit)
  let binLit := then_ (or_ (lit "0b") (lit "0B")) (digitsOf bit)
  let octLit := then_ (or_ (lit "0o") (lit "0O")) (digitsOf octal)
  let exponent := seqs [oneOf "eE", opt (oneOf "+-"), decimal]
  let whole := or_ (lit "0") (seqs [opt (lit "0"), nonzero, opt (then_ (opt (lit "_")) decimal)])
  alts [
    hexLit,
    seqs [whole, lit ".", opt decimal, opt exponent],
    seqs [lit ".", decimal, opt exponent],
    then_ whole exponent,
    decimal,
    binLit,
    octLit,
    then_ (alts [hexLit, binLit, octLit, decimal]) (lit "n")]

def isLineEnd (c : Char) : Bool := c == '\n' || c == '\r' || c.toNat == 0x2028 || c.toNat == 0x2029

def lineComment : Regex := then_ (lit "//") (star (char fun c => !isLineEnd c))

def blockComment : Regex :=
  let stars := plus (lit "*")
  let other := star (noneOf "*")
  seqs [lit "/*", other, stars, star (seqs [noneOf "/*", other, stars]), lit "/"]

def escapeSequence : Regex :=
  then_ (lit "\\") (alts [
    noneOf "xu01234567",
    upTo (char fun c => '0' ≤ c && c ≤ '7') 1 2,
    then_ (lit "x") (times hexDigit 2),
    then_ (lit "u") (times hexDigit 4),
    seqs [lit "u\x7b", plus hexDigit, lit "\x7d"],
    then_ (oneOf "\r?") (char fun c => c == '\n' || c.toNat == 0x2028 || c.toNat == 0x2029)])

def regexBody : Regex :=
  let escaped := then_ (lit "\\") (noneOf "\n")
  plus (alts [
    seqs [lit "[", star (or_ escaped (noneOf "]\n\\")), lit "]"],
    escaped,
    noneOf "/\\[\n"])

/-- A piece of an attribute text: an ampersand must not start a character reference. -/
def attributePiece (quote : String) : Regex :=
  plus (or_ (noneOf (quote ++ "&"))
    (then_ (lit "&") (char fun c => !(c == '#' || ('A' ≤ c && c ≤ 'Z') || ('a' ≤ c && c ≤ 'z')))))

def characterReference : Regex :=
  let letter := char fun c => ('A' ≤ c && c ≤ 'Z') || ('a' ≤ c && c ≤ 'z')
  seqs [lit "&", or_ (then_ (lit "#") (or_ (then_ (oneOf "xX") (upTo hexDigit 1 5)) (upTo digit 1 4)))
    (upTo letter 1 29), lit ";"]

def tagNameChar (c : Char) : Bool := c.isAlphanum || c == '_' || c == '$'

def dashedName : Regex :=
  seqs [char fun c => tagNameChar c && !c.isDigit, star (char tagNameChar), lit "-",
    star (char fun c => tagNameChar c || c == '-')]

/-- The words `static` and `get` at the end of a line. -/
def staticGetLine : Regex :=
  seqs [lit "static", plus (char isWhite), lit "get", star (char isWhite), lit "\n"]

/-- Patterns both languages use. -/
def patterns : List Pattern := [
  { name := "identifier", body := word },
  { name := "hash_bang_line", body := then_ (lit "#!") (star (noneOf "\n")) },
  { name := "html_character_reference", body := characterReference, loose := false },
  { name := "jsx_identifier", body := dashedName, loose := false },
  { name := "unescaped_double_jsx_string_fragment", body := attributePiece "\"",
    priority := 1, glued := true, loose := false },
  { name := "unescaped_single_jsx_string_fragment", body := attributePiece "'",
    priority := 1, glued := true, loose := false },
  { name := "unescaped_double_string_fragment", body := plus (noneOf "\"\\\r\n"),
    priority := 1, glued := true, loose := false },
  { name := "unescaped_single_string_fragment", body := plus (noneOf "'\\\r\n"),
    priority := 1, glued := true, loose := false },
  { name := "escape_sequence", body := escapeSequence, glued := true },
  { name := "comment", body := or_ lineComment blockComment },
  { name := "regex_pattern", body := regexBody, priority := -1, glued := true, loose := false },
  { name := "regex_end", body := lit "/", kind := "/", named := false, priority := 1, glued := true, loose := false },
  { name := "regex_flags", body := plus (char fun c => 'a' ≤ c && c ≤ 'z'), glued := true, loose := false },
  { name := "number", body := number },
  { name := "private_property_identifier", body := seqs [lit "#", wordStart, wordRest] },
  { name := "static_get", body := staticGetLine, kind := "static get", named := false, loose := false }]

end ChangeGraph.Script
