import ChangeGraph.Parse.Lexer

/-! # Tokens found from context

Semicolons that a line end stands for, the pieces of template texts, the question mark of a condition, comments in
markup style and the text between tags. Each depends on what stands around it and on which tokens are of use. -/

namespace ChangeGraph.Script

open ChangeGraph.Parse

/-- The two languages differ in where a line end may stand for a semicolon. -/
inductive Dialect where
  | plain
  | typed
deriving BEq

/-- Blanks as the scanner of contextual tokens sees them. -/
def isScanBlank (c : Char) : Bool :=
  let n := c.toNat
  (9 ≤ n && n ≤ 13) || n == 0x20 || n == 0x85 || n == 0x1680 || (0x2000 ≤ n && n ≤ 0x2006) || (0x2008 ≤ n && n ≤ 0x200A) ||
    n == 0x2028 || n == 0x2029 || n == 0x205F || n == 0x3000

/-- The next character; the end of the text reads as the null character. -/
def peek (cs : List Char) : Char := cs.headD (Char.ofNat 0)

def isNull (c : Char) : Bool := c.toNat == 0

def isRowEnd (c : Char) : Bool := c == '\n' || c.toNat == 0x2028 || c.toNat == 0x2029

def isLetter (c : Char) : Bool := c.isAlpha || c.toNat ≥ 0xAA

/-! ### Template texts -/

/-- Length of the template text up to a backquote, an escape or a substitution; none if the text ends first. -/
def templateLength : Nat → List Char → Option Nat
  | _, [] => none
  | n, '`' :: _ => some n
  | n, '\\' :: _ => some n
  | n, '$' :: '\x7b' :: _ => some n
  | n, c :: cs => if isNull c then none else templateLength (n + 1) cs

def scanTemplate (cs : List Char) : Option Found := do
  let n ← templateLength 0 cs
  if n == 0 then none else some ⟨"_template_chars", 0, n⟩

/-! ### Text between tags -/

/-- Length of the text up to the next tag, brace or reference, and whether it shows anything. Blanks that follow a
line end show nothing. -/
def tagText : List Char → Nat → Bool → Bool → Nat × Bool
  | [], n, _, shows => (n, shows)
  | c :: cs, n, atNewline, shows =>
    if isNull c || "<>\x7b\x7d&".contains c then (n, shows)
    else if c == '\n' then tagText cs (n + 1) true shows
    else
      let atNewline := atNewline && isScanBlank c
      tagText cs (n + 1) atNewline (shows || !atNewline)

/-! ### Semicolons -/

/-- What stands after blanks and comments. -/
inductive Gap where
  | reject
  /-- A comment without a line end ends here. -/
  | sameLine (rest : List Char)
  | reached (rest : List Char)

/-- A block comment up to its end, and whether it holds a line end. -/
def skipBlock : List Char → Bool → List Char × Bool
  | [], nl => ([], nl)
  | '*' :: '/' :: cs, nl => (cs, nl)
  | c :: cs, nl => if isNull c then (c :: cs, nl) else skipBlock cs (nl || isRowEnd c)

theorem length_skipBlock_le (cs : List Char) (nl : Bool) : (skipBlock cs nl).1.length ≤ cs.length := by
  fun_induction skipBlock cs nl <;> simp_all <;> omega

theorem length_dropWhile_le (p : Char → Bool) (cs : List Char) : (cs.dropWhile p).length ≤ cs.length :=
  (List.dropWhile_suffix p).length_le

/-- Whether a comment up to the line end stops at a character. -/
def stopsComment (d : Dialect) (c : Char) : Bool := isNull c || c == '\n' || (d == .plain && isRowEnd c)

/-- Skips blanks and comments. Without `consume` it stops behind a block comment. -/
def skipGap (d : Dialect) (consume : Bool) (cs : List Char) (seen : Bool) : Gap × Bool :=
  match h : cs.dropWhile isScanBlank with
  | '/' :: '/' :: rest => skipGap d consume (rest.dropWhile fun c => !stopsComment d c) true
  | '/' :: '*' :: rest =>
    if !consume && peek (skipBlock rest false).1 != '/' then
      (if (skipBlock rest false).2 then .reached (skipBlock rest false).1 else .sameLine (skipBlock rest false).1,
        seen || d == .plain)
    else skipGap d consume (skipBlock rest false).1 (seen || d == .plain)
  | '/' :: _ => (.reject, seen)
  | rest => (.reached rest, seen)
termination_by cs.length
decreasing_by
  · have shorter := length_dropWhile_le isScanBlank cs
    have within := length_dropWhile_le (fun c => !stopsComment d c) rest
    simp only [h, List.length_cons] at shorter
    omega
  · have shorter := length_dropWhile_le isScanBlank cs
    have within := length_skipBlock_le rest false
    simp only [h, List.length_cons] at shorter
    omega

/-- Where reading goes on behind a gap. -/
def Gap.rest : Gap → List Char
  | .reject => []
  | .sameLine rest => rest
  | .reached rest => rest

theorem length_skipGap_le (d : Dialect) (consume : Bool) (cs : List Char) (seen : Bool) :
    (skipGap d consume cs seen).1.rest.length ≤ cs.length := by
  fun_induction skipGap d consume cs seen with
  | case1 cs seen rest h ih =>
    have shorter := length_dropWhile_le isScanBlank cs
    have within := length_dropWhile_le (fun c => !stopsComment d c) rest
    simp only [h, List.length_cons] at shorter
    omega
  | case2 cs seen rest h hc =>
    have shorter := length_dropWhile_le isScanBlank cs
    have within := length_skipBlock_le rest false
    simp only [h, List.length_cons] at shorter
    split <;> simp only [Gap.rest] <;> omega
  | case3 cs seen rest h hc ih =>
    have shorter := length_dropWhile_le isScanBlank cs
    have within := length_skipBlock_le rest false
    simp only [h, List.length_cons] at shorter
    omega
  | case4 => simp [Gap.rest]
  | case5 cs seen rest h =>
    have shorter := length_dropWhile_le isScanBlank cs
    simp only [Gap.rest]
    omega

def continuesWith (d : Dialect) (isValid : String → Bool) (c : Char) : Bool :=
  match d with
  | .plain => "`,:;*%><=[(?^|&/".contains c
  | .typed => "`,.;*%><=?^|&/:".contains c ||
      (c == '\x7b' && isValid "_function_signature_automatic_semicolon") ||
      ((c == '(' || c == '[') && isValid "||")

/-- Whether a line that goes on with the given text starts a new statement. -/
def startsStatement (d : Dialect) (isValid : String → Bool) (cs : List Char) : Bool :=
  if continuesWith d isValid (peek cs) then false
  else match cs with
    | '.' :: rest => if d == .plain then (peek rest).isDigit else false
    | '+' :: rest => peek rest == '+'
    | '-' :: rest => peek rest == '-'
    | '!' :: rest => peek rest != '='
    | 'i' :: 'n' :: rest =>
      if !isLetter (peek rest) then false
      else if "stanceof".toList.isPrefixOf rest then isLetter (peek (rest.drop 8))
      else true
    | _ => true

/-- Whether a semicolon may be taken as read, and where reading stopped. The second part says whether a comment was
passed. -/
abbrev Verdict := Bool × Bool × List Char

/-- Looks at a place where a statement may end: a closing brace, or a line end with what the next line starts with. -/
def semicolonAtEnd (d : Dialect) (isValid : String → Bool) (cs : List Char) (seen : Bool) : Verdict :=
  let c := peek cs
  if c == '\x7d' then
    if d == .typed then
      let after := (cs.drop 1).dropWhile isScanBlank
      (if peek after == ':' then isValid "||" else true, seen, after)
    else (true, seen, cs)
  else
    match skipGap d true (cs.drop 1) seen with
    | (.reached rest, seen) => (startsStatement d isValid rest, seen, rest)
    | (.sameLine rest, seen) => (startsStatement d isValid rest, seen, rest)
    | (.reject, seen) => (false, seen, cs)

def endsLine (d : Dialect) (c : Char) : Bool := c == '\x7d' || c == '\n' || (d == .plain && isRowEnd c)

theorem not_behind {b p q : Bool} (h : (!b && p && q) = true) : b = false := by
  cases b with
  | false => rfl
  | true => exact absurd h Bool.false_ne_true

/-- Looks for a semicolon that may be taken as read: only the same line is looked at first, then what the next line
starts with. Right behind a comment neither another one nor the end of the text counts. -/
def semicolonHere (d : Dialect) (isValid : String → Bool) (behindComment : Bool) (cs : List Char) (seen : Bool) :
    Verdict :=
  if !behindComment && isNull (peek cs) then (true, seen, cs)
  else if fresh : !behindComment && d == .plain && peek cs == '/' then
    match h : skipGap d false cs seen with
    | (.reject, passed) => (false, passed, cs)
    | (.reached rest, passed) =>
      if !isValid "||" && peek rest != ',' && peek rest != '=' then (true, passed, rest)
      else semicolonHere d isValid true rest passed
    | (.sameLine rest, passed) => semicolonHere d isValid true rest passed
  else
    match cs with
    | [] => (false, seen, [])
    | c :: cs =>
      if endsLine d c then semicolonAtEnd d isValid (c :: cs) seen
      else if isScanBlank c then semicolonHere d isValid false cs seen
      else (false, seen, c :: cs)
termination_by 2 * cs.length + (if behindComment then 0 else 1)
decreasing_by
  · have within := length_skipGap_le d false cs seen
    simp only [h, Gap.rest] at within
    rw [not_behind fresh]
    show 2 * rest.length + 0 < 2 * cs.length + 1
    omega
  · have within := length_skipGap_le d false cs seen
    simp only [h, Gap.rest] at within
    rw [not_behind fresh]
    show 2 * rest.length + 0 < 2 * cs.length + 1
    omega
  · show 2 * cs.length + 1 < 2 * (cs.length + 1) + (if behindComment then 0 else 1)
    omega

/-! ### Question marks and markup comments -/

def scanQuestion (d : Dialect) (cs : List Char) : Option Found :=
  let blanks := (cs.takeWhile isScanBlank).length
  let found : Found := ⟨"_ternary_qmark", blanks, 1⟩
  match cs.drop blanks with
  | '?' :: rest =>
    if peek rest == '?' then none
    else if d == .typed then
      let after := rest.dropWhile isScanBlank
      if peek rest == '.' || peek after == ':' || peek after == ')' || peek after == ',' then
        if peek rest == '.' && (peek (rest.drop 1)).isDigit then some found else none
      else if peek after == '.' then
        if (peek (after.drop 1)).isDigit then some found else none
      else some found
    else if peek rest == '.' then
      if (peek (rest.drop 1)).isDigit then some found else none
    else some found
  | _ => none

def scanMarkupComment (cs : List Char) : Option Found :=
  let blanks := (cs.takeWhile fun c => isScanBlank c || isRowEnd c).length
  let rest := cs.drop blanks
  if "<!--".toList.isPrefixOf rest || "-->".toList.isPrefixOf rest then
    some ⟨"html_comment", blanks, (rest.takeWhile fun c => !isNull c && !isRowEnd c).length⟩
  else none

/-! ### The scanner -/

def scan (d : Dialect) (isValid : String → Bool) (cs : List Char) : Option Found :=
  let semicolon := isValid "_automatic_semicolon"
  let signature := isValid "_function_signature_automatic_semicolon"
  if isValid "_template_chars" then
    if semicolon then none else scanTemplate cs
  else
    let (textLength, shows) := if isValid "jsx_text" then tagText cs 0 false false else (0, false)
    if shows then some ⟨"jsx_text", 0, textLength⟩
    else if semicolon || signature then
      let (ok, seen, rest) := semicolonHere d isValid false cs false
      if ok then some ⟨"_automatic_semicolon", 0, 0⟩
      else if !seen && isValid "_ternary_qmark" && peek rest == '?' then scanQuestion d cs
      else none
    else if isValid "_ternary_qmark" then scanQuestion d cs
    else if isValid "html_comment" && !isValid "||" && !isValid "escape_sequence" && !isValid "regex_pattern" then
      scanMarkupComment cs
    else none

end ChangeGraph.Script
