import CodeHighlight.Decimal.Whole
import CodeHighlight.Yaml.Moment

/-!
# Values of a data text

A mapping keeps its entries in the order in which their keys came first. Numbers and truth values
that are equal as numbers are one key; `Value.put` gives a key its value.
-/

namespace CodeHighlight.Yaml

/-- A value. -/
inductive Value where
  | null
  | bool (value : Bool)
  | int (value : Int)
  | float (value : Float)
  | text (value : String)
  | bytes (value : List UInt8)
  | date (value : Date)
  | time (value : Time)
  | list (items : List Value)
  | set (members : List Value)
  | mapping (entries : List (Value × Value))
  /-- The collection that lies so many collections further out. -/
  | enclosing (level : Nat)
deriving Repr

namespace Value

/-- The whole number that a value is equal to. -/
def whole? : Value → Option Int
  | bool value => some (if value then 1 else 0)
  | int value => some value
  | float value => Decimal.whole? value
  | _ => none

/-- Two values are the same key. -/
def sameKey (a b : Value) : Bool :=
  match a, b with
  | null, null => true
  | text s, text t => s == t
  | bytes s, bytes t => s == t
  | date s, date t => s == t
  | time s, time t => s.same t
  | float s, float t => s == t || s != s && t != t
  | a, b => match a.whole?, b.whole? with
    | some m, some n => m == n
    | _, _ => false

/-- Gives a key what belongs to it. A key that is present keeps its place. -/
def put {α : Type} (entries : List (Value × α)) (key : Value) (value : α) : List (Value × α) :=
  match entries with
  | [] => [(key, value)]
  | entry :: rest =>
    if entry.1.sameKey key then (entry.1, value) :: rest else entry :: put rest key value

end Value

end CodeHighlight.Yaml
