/-!
# Reading bytes as text

Bytes are read as UTF-8 in its strict form: no overlong forms, no surrogates, nothing above the
last plane. The first fault is reported with the bytes that it concerns.
-/

namespace CodeHighlight.Text

/-- Why bytes are not a text. -/
inductive Utf8Cause where
  /-- A byte that can open no character. -/
  | start
  /-- A byte in the middle of a character that cannot continue it. -/
  | continuation
  /-- The bytes end inside a character. -/
  | ending
deriving Repr, DecidableEq

/-- The first fault of a byte sequence: `count` bytes from `position` on. -/
structure Utf8Fault where
  cause : Utf8Cause
  position : Nat
  count : Nat
  byte : UInt8
deriving Repr, DecidableEq

namespace Utf8

/-- A byte that continues a character. -/
def isContinuation (b : UInt8) : Bool := b &&& 0xC0 == 0x80

/-- The six payload bits of a continuation byte. -/
def payload (b : UInt8) : Nat := (b &&& 0x3F).toNat

/-- The second byte may follow the first in a character of three or four bytes. -/
def secondFits (first second : UInt8) : Bool :=
  isContinuation second &&
    (if first == 0xE0 then second ≥ 0xA0
    else if first == 0xED then second < 0xA0
    else if first == 0xF0 then second ≥ 0x90
    else if first == 0xF4 then second < 0x90
    else true)

/-- The first character and the bytes that it takes, or the cause of failure and the bytes that it
concerns. -/
def step (first : UInt8) (rest : List UInt8) : Except (Utf8Cause × Nat) (Char × Nat) :=
  if first < 0x80 then .ok (Char.ofNat first.toNat, 1)
  else if first < 0xC2 then .error (.start, 1)
  else if first < 0xE0 then
    match rest with
    | [] => .error (.ending, 1)
    | b :: _ =>
      if isContinuation b then
        .ok (Char.ofNat ((first &&& 0x1F).toNat * 64 + payload b), 2)
      else .error (.continuation, 1)
  else if first < 0xF0 then
    match rest with
    | [] => .error (.ending, 1)
    | [b] => if secondFits first b then .error (.ending, 2) else .error (.continuation, 1)
    | b :: c :: _ =>
      if !secondFits first b then .error (.continuation, 1)
      else if !isContinuation c then .error (.continuation, 2)
      else .ok (Char.ofNat (((first &&& 0x0F).toNat * 64 + payload b) * 64 + payload c), 3)
  else if first < 0xF5 then
    match rest with
    | [] => .error (.ending, 1)
    | [b] => if secondFits first b then .error (.ending, 2) else .error (.continuation, 1)
    | [b, c] =>
      if !secondFits first b then .error (.continuation, 1)
      else if !isContinuation c then .error (.continuation, 2)
      else .error (.ending, 3)
    | b :: c :: d :: _ =>
      if !secondFits first b then .error (.continuation, 1)
      else if !isContinuation c then .error (.continuation, 2)
      else if !isContinuation d then .error (.continuation, 3)
      else .ok (Char.ofNat
        ((((first &&& 0x07).toNat * 64 + payload b) * 64 + payload c) * 64 + payload d), 4)
  else .error (.start, 1)

/-- Reads the bytes from `position` on; `skip` bytes belong to a character already read. -/
def decodeFrom (position skip : Nat) : List UInt8 → Except Utf8Fault (List Char)
  | [] => .ok []
  | first :: rest =>
    match skip with
    -- The bytes of a character already read are passed one by one, so the recursion stays on the
    -- list.
    | skip + 1 => decodeFrom (position + 1) skip rest
    | 0 =>
      match step first rest with
      | .error (cause, count) => .error ⟨cause, position, count, first⟩
      | .ok (c, count) => (decodeFrom (position + 1) (count - 1) rest).map (c :: ·)

/-- The text that the bytes write. -/
def decode (bytes : List UInt8) : Except Utf8Fault (List Char) := decodeFrom 0 0 bytes

/-- Two small hexadecimal digits of a byte. -/
def hexByte (b : UInt8) : String :=
  String.ofList [Nat.digitChar (b.toNat / 16), Nat.digitChar (b.toNat % 16)]

end Utf8

/-- The wording of a fault. -/
def Utf8Fault.message (f : Utf8Fault) : String :=
  let place :=
    if f.count = 1 then
      "byte 0x" ++ Utf8.hexByte f.byte ++ " in position " ++ toString f.position
    else
      "bytes in position " ++ toString f.position ++ "-" ++ toString (f.position + f.count - 1)
  let reason := match f.cause with
    | .start => "invalid start byte"
    | .continuation => "invalid continuation byte"
    | .ending => "unexpected end of data"
  "'utf-8' codec can't decode " ++ place ++ ": " ++ reason

end CodeHighlight.Text
