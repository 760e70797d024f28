/-! # UTF-8 that may be broken

Bytes are read one at a time. A character that is not finished keeps what it has so far and which bytes may follow.
A lead byte, or a start of a character that breaks off, that belongs to no character counts as one fault. Reading
either puts a replacement character for each fault or stops at the first. -/

namespace ChangeGraph.Text.Utf8

def replacement : Char := '�'

/-- A character of which bytes are missing: its bits so far, how many bytes are missing, and the bounds of the next. -/
structure Pending where
  bits : Nat
  missing : Nat
  low : Nat
  high : Nat
deriving Repr, DecidableEq

/-- What one byte at the start of a character leads to. -/
inductive Lead where
  | whole (c : Char)
  | opens (p : Pending)
  | stray
deriving Repr

def lead (b : UInt8) : Lead :=
  let n := b.toNat
  if n < 0x80 then .whole (Char.ofNat n)
  else if n < 0xC2 then .stray
  else if n < 0xE0 then .opens ⟨n - 0xC0, 1, 0x80, 0xBF⟩
  else if n < 0xF0 then
    .opens ⟨n - 0xE0, 2, if n = 0xE0 then 0xA0 else 0x80, if n = 0xED then 0x9F else 0xBF⟩
  else if n < 0xF5 then
    .opens ⟨n - 0xF0, 3, if n = 0xF0 then 0x90 else 0x80, if n = 0xF4 then 0x8F else 0xBF⟩
  else .stray

def Pending.fits (p : Pending) (b : UInt8) : Bool := p.low ≤ b.toNat && b.toNat ≤ p.high

def Pending.add (p : Pending) (b : UInt8) : Pending :=
  ⟨p.bits * 64 + (b.toNat - 0x80), p.missing - 1, 0x80, 0xBF⟩

/-- What is put out and what stays pending after a byte at the start of a character. -/
def begin (b : UInt8) : List Char × Option Pending :=
  match lead b with
  | .whole c => ([c], none)
  | .opens p => ([], some p)
  | .stray => ([replacement], none)

def decodeFrom : Option Pending → List UInt8 → List Char
  | none, [] => []
  | some _, [] => [replacement]
  | none, b :: bs => (begin b).1 ++ decodeFrom (begin b).2 bs
  | some p, b :: bs =>
    if p.fits b then
      let q := p.add b
      if q.missing = 0 then Char.ofNat q.bits :: decodeFrom none bs else decodeFrom (some q) bs
    else replacement :: (begin b).1 ++ decodeFrom (begin b).2 bs

/-- The text that bytes stand for, with a replacement character for each fault. -/
def decode (bs : List UInt8) : String := String.ofList (decodeFrom none bs)

/-! ### Reading that stops at a fault -/

inductive Fault where
  | strayLead (position : Nat) (byte : UInt8)
  | strayTail (first last : Nat) (byte : UInt8)
  | cutOff (first last : Nat) (byte : UInt8)
deriving Repr

def Fault.place (first last : Nat) (byte : UInt8) : String :=
  let shown := String.ofList (Nat.toDigits 16 byte.toNat)
  if first = last then s!"byte 0x{shown} in position {first}" else s!"bytes in position {first}-{last}"

def Fault.message : Fault → String
  | .strayLead i b => "'utf-8' codec can't decode " ++ place i i b ++ ": invalid start byte"
  | .strayTail i j b => "'utf-8' codec can't decode " ++ place i j b ++ ": invalid continuation byte"
  | .cutOff i j b => "'utf-8' codec can't decode " ++ place i j b ++ ": unexpected end of data"

/-- Reads on with the characters so far in reverse; a pending character comes with its lead byte and its place. -/
def readFrom : List Char → Nat → Option (Nat × UInt8 × Pending) → List UInt8 → Except Fault (List Char)
  | out, _, none, [] => .ok out.reverse
  | _, i, some (first, b, _), [] => .error (.cutOff first (i - 1) b)
  | out, i, none, b :: bs =>
    match lead b with
    | .whole c => readFrom (c :: out) (i + 1) none bs
    | .opens p => readFrom out (i + 1) (some (i, b, p)) bs
    | .stray => .error (.strayLead i b)
  | out, i, some (first, b₀, p), b :: bs =>
    if p.fits b then
      let q := p.add b
      if q.missing = 0 then readFrom (Char.ofNat q.bits :: out) (i + 1) none bs
      else readFrom out (i + 1) (some (first, b₀, q)) bs
    else .error (.strayTail first (i - 1) b₀)

/-- The text that bytes stand for, if they are without fault. -/
def read (bs : List UInt8) : Except Fault String := (readFrom [] 0 none bs).map String.ofList

/-- The bytes of a text. -/
def encode (s : String) : List UInt8 := s.toList.flatMap String.utf8EncodeChar

end ChangeGraph.Text.Utf8
