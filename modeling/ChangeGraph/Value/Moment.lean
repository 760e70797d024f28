/-! # Dates and times -/

namespace ChangeGraph

structure Day where
  year : Nat
  month : Nat
  day : Nat
deriving DecidableEq, Repr, Inhabited

structure Clock where
  hour : Nat
  minute : Nat
  second : Nat
  micro : Nat
deriving DecidableEq, Repr, Inhabited

/-- A day, a time of day, or both, perhaps with the minutes by which the clock is ahead of the world's. -/
inductive Moment where
  | day (d : Day)
  | clock (c : Clock)
  | instant (d : Day) (c : Clock) (ahead : Option Int)
deriving DecidableEq, Repr, Inhabited

/-- A number with zeros in front up to the given width. -/
def padded (width n : Nat) : String :=
  let ds := Nat.toDigits 10 n
  String.ofList (List.replicate (width - ds.length) '0' ++ ds)

def isLeap (year : Nat) : Bool := year % 4 == 0 && (year % 100 != 0 || year % 400 == 0)

def daysIn (year month : Nat) : Nat :=
  if month == 2 then if isLeap year then 29 else 28
  else if [4, 6, 9, 11].contains month then 30 else 31

def Day.valid (d : Day) : Bool :=
  1 ≤ d.year && d.year ≤ 9999 && 1 ≤ d.month && d.month ≤ 12 && 1 ≤ d.day && d.day ≤ daysIn d.year d.month

def Clock.valid (c : Clock) : Bool := c.hour < 24 && c.minute < 60 && c.second < 60 && c.micro < 1000000

/-! ### Written form -/

def Day.text (d : Day) : String := padded 4 d.year ++ "-" ++ padded 2 d.month ++ "-" ++ padded 2 d.day

def Clock.text (c : Clock) : String :=
  padded 2 c.hour ++ ":" ++ padded 2 c.minute ++ ":" ++ padded 2 c.second ++
    (if c.micro = 0 then "" else "." ++ padded 6 c.micro)

def offsetText (minutes : Int) : String :=
  let n := minutes.natAbs
  (if minutes < 0 then "-" else "+") ++ padded 2 (n / 60) ++ ":" ++ padded 2 (n % 60)

def Moment.text : Moment → String
  | .day d => d.text
  | .clock c => c.text
  | .instant d c none => d.text ++ "T" ++ c.text
  | .instant d c (some 0) => d.text ++ "T" ++ c.text ++ "Z"
  | .instant d c (some m) => d.text ++ "T" ++ c.text ++ offsetText m

/-! ### Shown form -/

def Clock.parts (c : Clock) : List Nat :=
  if c.micro ≠ 0 then [c.hour, c.minute, c.second, c.micro]
  else if c.second ≠ 0 then [c.hour, c.minute, c.second] else [c.hour, c.minute]

def applied (name : String) (parts : List Nat) : String :=
  name ++ "(" ++ ", ".intercalate (parts.map Nat.repr) ++ ")"

def Moment.shown : Moment → String
  | .day d => applied "datetime.date" [d.year, d.month, d.day]
  | .clock c => applied "datetime.time" c.parts
  | .instant d c _ => applied "datetime.datetime" ([d.year, d.month, d.day] ++ c.parts)

end ChangeGraph
