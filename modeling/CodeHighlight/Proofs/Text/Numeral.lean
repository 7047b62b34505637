import CodeHighlight.Text.Numeral

/-!
# Written numbers

A number is written with decimal digits, a negative one behind a minus sign. A number with too many
digits is not written.
-/

namespace CodeHighlight.Text

/-- An integer that is not negative is written with its digits. -/
theorem toList_toString_ofNat (m : Nat) : (toString (Int.ofNat m)).toList = Nat.toDigits 10 m :=
  Nat.toList_repr

/-- A negative integer is written with a minus sign and digits. -/
theorem toList_toString_negSucc (m : Nat) :
    (toString (Int.negSucc m)).toList = '-' :: Nat.toDigits 10 (m + 1) := by
  change ("-" ++ (m + 1).repr).toList = _
  rw [String.toList_append, Nat.toList_repr]
  rfl

/-- Something is written for every integer. -/
theorem toList_toString_ne_nil (n : Int) : (toString n).toList ≠ [] := by
  cases n with
  | ofNat m =>
    rw [toList_toString_ofNat]
    exact Nat.toDigits_ne_nil
  | negSucc m =>
    rw [toList_toString_negSucc]
    exact List.cons_ne_nil _ _

/-- Decimal digits are digits. -/
theorem isDigit_of_mem_toDigits (n : Nat) (c : Char) (h : c ∈ Nat.toDigits 10 n) :
    c.isDigit = true := Nat.isDigit_of_mem_toDigits (by decide) (by decide) h

/-- A natural number is written with digits. -/
theorem isDigit_of_mem_toString (n : Nat) (c : Char) (h : c ∈ (toString n).toList) :
    c.isDigit = true := by
  rw [Nat.toString_eq_repr, Nat.toList_repr] at h
  exact isDigit_of_mem_toDigits n c h

/-- Different natural numbers are written differently. -/
theorem toList_toString_inj (m n : Nat) (h : (toString m).toList = (toString n).toList) :
    m = n := by
  rw [Nat.toString_eq_repr, Nat.toString_eq_repr, Nat.toList_repr, Nat.toList_repr] at h
  rw [← Nat.ofDigitChars_ten_toDigits (n := m), h, Nat.ofDigitChars_ten_toDigits]

/-- An integer is written with digits and a minus sign. -/
theorem eq_or_isDigit_of_mem_toString (n : Int) (c : Char) (h : c ∈ (toString n).toList) :
    c = '-' ∨ c.isDigit = true := by
  cases n with
  | ofNat m =>
    rw [toList_toString_ofNat] at h
    exact .inr (isDigit_of_mem_toDigits m c h)
  | negSucc m =>
    rw [toList_toString_negSucc, List.mem_cons] at h
    rcases h with rfl | h
    · exact .inl rfl
    · exact .inr (isDigit_of_mem_toDigits (m + 1) c h)

/-- A number of few enough digits. -/
def Writable (n : Int) : Prop := n.natAbs < Nat.pow 10 numeralLimit

instance (n : Int) : Decidable (Writable n) :=
  inferInstanceAs (Decidable (n.natAbs < Nat.pow 10 numeralLimit))

/-- A number is written unless it has too many digits. -/
theorem writeInteger_eq (n : Int) :
    writeInteger n = if Writable n then .ok (toString n) else .error .unwritable := rfl

end CodeHighlight.Text
