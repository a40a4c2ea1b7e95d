/-!
# Hexadecimal digits
-/

namespace Stencil.Text

/-- The digit with value `n % 16`, written in lowercase. -/
def hexDigit (n : Nat) : Char :=
  let d := n % 16
  if d < 10 then Char.ofNat (48 + d) else Char.ofNat (87 + d)

/-- The digit with value `n % 16`, written in uppercase. -/
def upperHexDigit (n : Nat) : Char :=
  let d := n % 16
  if d < 10 then Char.ofNat (48 + d) else Char.ofNat (55 + d)

/-- The value of a digit, in lowercase or uppercase. -/
def hexValue? (c : Char) : Option Nat :=
  let n := c.toNat
  if 48 ≤ n ∧ n ≤ 57 then some (n - 48)
  else if 97 ≤ n ∧ n ≤ 102 then some (n - 87)
  else if 65 ≤ n ∧ n ≤ 70 then some (n - 55)
  else none

/-- A digit is read back as the value that it was written for. -/
theorem hexValue?_hexDigit (n : Nat) : hexValue? (hexDigit n) = some (n % 16) := by
  have digits : ∀ d < 16, hexValue? (hexDigit d) = some d := by decide
  simpa [hexDigit] using digits (n % 16) (Nat.mod_lt _ (by decide))

/-- So is an uppercase digit. -/
theorem hexValue?_upperHexDigit (n : Nat) : hexValue? (upperHexDigit n) = some (n % 16) := by
  have digits : ∀ d < 16, hexValue? (upperHexDigit d) = some d := by decide
  simpa [upperHexDigit] using digits (n % 16) (Nat.mod_lt _ (by decide))

/-- The number written by hexadecimal digits, the most significant first, after `acc`. -/
def readHex? (acc : Nat) : List Char → Option Nat
  | [] => some acc
  | c :: cs =>
    match hexValue? c with
    | some d => readHex? (16 * acc + d) cs
    | none => none

/-- The lowest `width` hexadecimal digits, the most significant first. -/
def hexDigits : (width : Nat) → Nat → List Char
  | 0, _ => []
  | width + 1, n => hexDigits width (n / 16) ++ [hexDigit n]

/-- What is written in hexadecimal consists of digits. -/
theorem exists_of_mem_hexDigits {c : Char} {width n : Nat} (h : c ∈ hexDigits width n) :
    ∃ m, c = hexDigit m := by
  induction width generalizing n with
  | zero => cases h
  | succ width ih =>
    rw [hexDigits, List.mem_append, List.mem_singleton] at h
    exact h.elim ih fun h ↦ ⟨n, h⟩

/-- The hexadecimal digits of a code point without leading zeros. -/
def hexOfCode (n : Nat) : List Char :=
  let digits := (hexDigits 6 n).dropWhile (· == '0')
  if digits.isEmpty then ['0'] else digits

end Stencil.Text
