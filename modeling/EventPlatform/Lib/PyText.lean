import Mathlib

/-! # Python text

How Python renders values inside messages, and what it regards as white space. -/

namespace EventPlatform.Lib

def escapeChar (quote c : Char) : List Char :=
  if c = '\\' ∨ c = quote then ['\\', c]
  else if c = '\n' then ['\\', 'n']
  else if c = '\r' then ['\\', 'r']
  else if c = '\t' then ['\\', 't']
  else [c]

/-- `repr` of a printable string. -/
def pyRepr (s : String) : String :=
  let quote := if '\'' ∈ s.toList ∧ '"' ∉ s.toList then '"' else '\''
  String.ofList ([quote] ++ s.toList.flatMap (escapeChar quote) ++ [quote])

/-- `repr` of a list of strings. -/
def pyReprList (xs : List String) : String :=
  "[" ++ String.intercalate ", " (xs.map pyRepr) ++ "]"

/-- The characters `str.strip()` removes. -/
def isSpace (c : Char) : Bool :=
  let n := c.toNat
  (9 ≤ n && n ≤ 13) || (28 ≤ n && n ≤ 32) || n == 0x85 || n == 0xA0 || n == 0x1680
    || (0x2000 ≤ n && n ≤ 0x200A) || n == 0x2028 || n == 0x2029 || n == 0x202F || n == 0x205F
    || n == 0x3000

/-- `not value.strip()`. -/
def isBlank (s : String) : Bool := s.toList.all isSpace

/-! ## Decoding -/

/-- A UTF-8 sequence that has begun: the bytes still to come, the range of the next
    one, and the bits so far. -/
structure Utf8Pending where
  missing : Nat
  lowest : Nat
  highest : Nat
  bits : Nat

/-- A byte that begins a sequence is a character, or the first of several bytes, or
    neither. -/
def utf8Lead (b : Nat) : Option Char × Option Utf8Pending :=
  if b < 0x80 then (some (Char.ofNat b), none)
  else if 0xC2 ≤ b ∧ b ≤ 0xDF then (none, some ⟨1, 0x80, 0xBF, b % 32⟩)
  else if b = 0xE0 then (none, some ⟨2, 0xA0, 0xBF, 0⟩)
  else if b = 0xED then (none, some ⟨2, 0x80, 0x9F, 13⟩)
  else if 0xE1 ≤ b ∧ b ≤ 0xEF then (none, some ⟨2, 0x80, 0xBF, b % 16⟩)
  else if b = 0xF0 then (none, some ⟨3, 0x90, 0xBF, 0⟩)
  else if b = 0xF4 then (none, some ⟨3, 0x80, 0x8F, 4⟩)
  else if 0xF1 ≤ b ∧ b ≤ 0xF3 then (none, some ⟨3, 0x80, 0xBF, b % 8⟩)
  else (some '\uFFFD', none)

def decodeFrom : Option Utf8Pending → List UInt8 → List Char
  | none, [] => []
  | some _, [] => ['\uFFFD']
  | none, b :: bs =>
    let (done, pending) := utf8Lead b.toNat
    done.toList ++ decodeFrom pending bs
  | some p, b :: bs =>
    if p.lowest ≤ b.toNat ∧ b.toNat ≤ p.highest then
      let bits := 64 * p.bits + b.toNat % 64
      if p.missing = 1 then Char.ofNat bits :: decodeFrom none bs
      else decodeFrom (some ⟨p.missing - 1, 0x80, 0xBF, bits⟩) bs
    else
      -- the sequence that broke off is one replacement, and the byte begins a new one
      let (done, pending) := utf8Lead b.toNat
      '\uFFFD' :: (done.toList ++ decodeFrom pending bs)

/-- `raw.decode("utf-8", errors="replace")` -/
def decodeReplace (raw : List UInt8) : String := String.ofList (decodeFrom none raw)

example : decodeReplace [0x61, 0xC3, 0xA9, 0xE2, 0x82, 0x62, 0xF0, 0x9F, 0x98, 0x80, 0xFF] =
    "aé\uFFFDb😀\uFFFD" := by decide +kernel

end EventPlatform.Lib
