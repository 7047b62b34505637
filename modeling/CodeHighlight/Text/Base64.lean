/-!
# Base 64

Bytes written with 64 characters, four for every three bytes. Reading skips foreign characters and
asks for complete groups.
-/

namespace CodeHighlight.Text.Base64

/-- The value of a character of the alphabet. -/
def value? (c : Char) : Option Nat :=
  if 'A' ≤ c ∧ c ≤ 'Z' then some (c.toNat - 65)
  else if 'a' ≤ c ∧ c ≤ 'z' then some (c.toNat - 97 + 26)
  else if '0' ≤ c ∧ c ≤ '9' then some (c.toNat - 48 + 52)
  else if c = '+' then some 62
  else if c = '/' then some 63
  else none

/-- Why a text is not read. -/
inductive Fault where
  /-- The last group has too few fillers. -/
  | padding
  /-- A group with one character only. -/
  | lone (count : Nat)
deriving Repr, DecidableEq

/-- State of reading: place in the group of four, bits left over, fillers seen in a row. -/
structure Reader where
  place : Nat := 0
  left : Nat := 0
  fillers : Nat := 0
  count : Nat := 0

/-- Reads on; a complete group of fillers ends the text. -/
def readFrom (r : Reader) : List Char → Except Fault (List UInt8)
  | [] =>
    if r.place = 0 then .ok []
    else if r.place = 1 then .error (.lone r.count)
    else .error .padding
  | c :: rest =>
    if c = '=' then
      let fillers := r.fillers + 1
      -- Whatever follows a group that fillers completed is not looked at.
      if r.place ≥ 2 ∧ r.place + fillers ≥ 4 then .ok []
      else readFrom { r with fillers := fillers } rest
    else match value? c with
      | none => readFrom r rest
      | some v =>
        let r' := { r with fillers := 0, count := r.count + 1 }
        match r.place with
        | 0 => readFrom { r' with place := 1, left := v } rest
        | 1 => (readFrom { r' with place := 2, left := v % 16 } rest).map
            (UInt8.ofNat (r.left * 4 + v / 16) :: ·)
        | 2 => (readFrom { r' with place := 3, left := v % 4 } rest).map
            (UInt8.ofNat (r.left * 16 + v / 4) :: ·)
        | _ => (readFrom { r' with place := 0, left := 0 } rest).map
            (UInt8.ofNat (r.left * 64 + v) :: ·)

/-- The bytes that a text writes. -/
def decode (text : List Char) : Except Fault (List UInt8) := readFrom {} text

end CodeHighlight.Text.Base64
