import Stencil.Expr.Token
import Stencil.Proofs.Literal.Items
import Stencil.Value.Compare

/-!
# Literals

Missing values, truth values, integers, texts, sequences and maps can be written as expressions. A
text stands between single quotes, with a backslash in front of what would end it or give another
character a meaning. Read as a word or a string again, a number and a text are what they were.
-/

namespace Stencil

/-! ### Numbers -/

namespace Number

/-- Digits are read as the number that they make up behind those in front of them. -/
theorem readDigits?_eq_ofDigitChars {cs : List Char} (h : ∀ c ∈ cs, c.isDigit) (acc : Nat) :
    readDigits? acc cs = some (Nat.ofDigitChars 10 cs acc) := by
  induction cs generalizing acc with
  | nil => rfl
  | cons c cs ih =>
    rw [readDigits?, if_pos (h c List.mem_cons_self), ih fun d hd ↦ h d (.tail c hd),
      Nat.ofDigitChars_cons]
    rfl

/-- Only digits are read as a natural number. -/
theorem isDigit_of_natural? {cs : List Char} {n : Nat} (h : natural? cs = some n) :
    cs ≠ [] ∧ ∀ c ∈ cs, c.isDigit := by
  have hread {ds : List Char} {acc : Nat} (h : readDigits? acc ds = some n) :
      ∀ c ∈ ds, c.isDigit := by
    induction ds generalizing acc with
    | nil => exact List.forall_mem_nil _
    | cons c ds ih =>
      rw [readDigits?] at h
      split at h
      · next hc => exact List.forall_mem_cons.mpr ⟨hc, ih h⟩
      · cases h
  cases cs with
  | nil => cases h
  | cons c cs => exact ⟨List.cons_ne_nil _ _, hread h⟩

/-- The decimal digits of a natural number are digits. -/
theorem isDigit_of_mem_toDigits {n : Nat} {c : Char} (h : c ∈ Nat.toDigits 10 n) : c.isDigit :=
  Nat.isDigit_of_mem_toDigits (by decide) (by decide) h

/-- A digit has no letter case. -/
theorem toLower_of_isDigit {c : Char} (h : c.isDigit) : c.toLower = c := by
  simp only [Char.isDigit, Bool.and_eq_true, decide_eq_true_eq, ge_iff_le,
    UInt32.le_iff_toNat_le] at h
  refine dif_neg ?_
  simp only [ge_iff_le, UInt32.le_iff_toNat_le, not_and, Nat.not_le]
  intro hupper
  have hdigit := h.2
  simp at hdigit hupper ⊢
  omega

/-- A natural number is read from its decimal digits. -/
theorem natural?_toDigits (n : Nat) : natural? (Nat.toDigits 10 n) = some n := by
  have hread : readDigits? 0 (Nat.toDigits 10 n) = some n := by
    rw [readDigits?_eq_ofDigitChars fun c hc ↦ isDigit_of_mem_toDigits hc,
      Nat.ofDigitChars_ten_toDigits]
  obtain ⟨c, cs, hcs⟩ := List.exists_cons_of_ne_nil (Nat.toDigits_ne_nil (n := n) (b := 10))
  rw [hcs] at hread ⊢
  exact hread

/-- Digits without a sign are read as an integer if it fits. -/
theorem readInt64?_toDigits (n : Nat) : readInt64? (Nat.toDigits 10 n) = int64? n := by
  have hhead {c : Char} {cs : List Char} (h : Nat.toDigits 10 n = c :: cs) : c.isDigit :=
    isDigit_of_mem_toDigits (h ▸ List.mem_cons_self)
  rw [readInt64?, natural?_toDigits]
  · rfl
  · intro ds h
    exact absurd (hhead h) (by decide)
  · intro ds h
    exact absurd (hhead h) (by decide)

/-- What fits 64 signed bits is the integer of these bits. -/
theorem int64?_toInt (n : Int64) : int64? n.toInt = some n := by
  rw [int64?, if_pos ⟨n.minValue_le_toInt, n.toInt_le⟩, Int64.ofInt_toInt]

/-- An integer that is not negative is written by its digits. -/
theorem toList_integerText_of_ofNat {n : Int64} {m : Nat} (h : n.toInt = Int.ofNat m) :
    (integerText n).toList = Nat.toDigits 10 m := by
  rw [integerText, h]
  change (toString m).toList = _
  rw [Nat.toString_eq_ofList_toDigits, String.toList_ofList]

/-- A negative integer is written by a sign and the digits of its opposite. -/
theorem toList_integerText_of_negSucc {n : Int64} {m : Nat} (h : n.toInt = Int.negSucc m) :
    (integerText n).toList = '-' :: Nat.toDigits 10 (m + 1) := by
  rw [integerText, h]
  change ("-" ++ toString (m + 1)).toList = _
  rw [Nat.toString_eq_ofList_toDigits, String.toList_append, String.toList_ofList,
    String.toList_ofList]
  rfl

/-- The text of an integer is read as this integer. -/
theorem readInt64?_integerText (n : Int64) : readInt64? (integerText n).toList = some n := by
  rw [← int64?_toInt n]
  cases hn : n.toInt with
  | ofNat m =>
    rw [toList_integerText_of_ofNat hn, readInt64?_toDigits]
    rfl
  | negSucc m =>
    rw [toList_integerText_of_negSucc hn, readInt64?, natural?_toDigits, Option.bind_some,
      Int.negSucc_eq, Int.natCast_succ]

/-- The text of an integer is made of digits, behind a sign perhaps. -/
theorem eq_minus_or_isDigit_of_mem {n : Int64} {c : Char} (h : c ∈ (integerText n).toList) :
    c = '-' ∨ c.isDigit := by
  cases hn : n.toInt with
  | ofNat m =>
    rw [toList_integerText_of_ofNat hn] at h
    exact .inr (isDigit_of_mem_toDigits h)
  | negSucc m =>
    rw [toList_integerText_of_negSucc hn] at h
    exact (List.mem_cons.mp h).imp_right isDigit_of_mem_toDigits

/-- The text of an integer is not empty. -/
theorem toList_integerText_ne_nil (n : Int64) : (integerText n).toList ≠ [] := by
  cases hn : n.toInt with
  | ofNat m =>
    rw [toList_integerText_of_ofNat hn]
    exact Nat.toDigits_ne_nil
  | negSucc m =>
    rw [toList_integerText_of_negSucc hn]
    exact List.cons_ne_nil _ _

end Number

/-! ### Texts -/

namespace Text

/-- One character as it stands between single quotes. -/
def singleQuotedChar (c : Char) : List Char :=
  if c = '\\' ∨ c = '\'' then ['\\', c] else [c]

/-- The text between single quotes. -/
def singleQuoted (s : List Char) : List Char := '\'' :: s.flatMap singleQuotedChar ++ ['\'']

/-- A text between single quotes is a literal of plain characters and escapes. -/
theorem exists_singleQuoted_eq_literal (s : List Char) :
    ∃ items : List (LiteralItem '\''),
      singleQuoted s = literal '\'' items ∧ LiteralItem.reading items = s := by
  suffices h : ∃ items : List (LiteralItem '\''),
      s.flatMap singleQuotedChar = items.flatMap LiteralItem.source ∧
      items.map LiteralItem.char = s ∧ .doubled ∉ items by
    obtain ⟨items, hsource, hchar, hdoubled⟩ := h
    refine ⟨items, by rw [singleQuoted, literal, hsource], ?_⟩
    rw [(reading_eq_map_char rfl items).mpr (isChain_of_doubled_notMem hdoubled), hchar]
  induction s with
  | nil => exact ⟨[], rfl, rfl, by simp⟩
  | cons c cs ih =>
    obtain ⟨items, hsource, hchar, hdoubled⟩ := ih
    rw [List.flatMap_cons, hsource, singleQuotedChar]
    split
    · next hc =>
      have hunit : c ≠ 'u' := by
        rintro rfl
        simp at hc
      have hself : escapedChar c = c := by
        rcases hc with rfl | rfl <;> rfl
      exact ⟨.escape c hunit :: items, rfl, by rw [List.map_cons, hchar, LiteralItem.char, hself],
        by simpa using hdoubled⟩
    · next hc =>
      rw [not_or] at hc
      exact ⟨.plain c hc.1 hc.2 :: items, rfl, by rw [List.map_cons, hchar, LiteralItem.char],
        by simpa using hdoubled⟩

/-- A text is read from between its quotes. -/
theorem readLiteral_singleQuoted (s : List Char) :
    readLiteral (singleQuoted s) = .ok (String.ofList s) := by
  obtain ⟨items, hliteral, hreading⟩ := exists_singleQuoted_eq_literal s
  rw [hliteral, readLiteral_literal rfl, hreading]

end Text

/-! ### Values -/

namespace Value

/-- The values that are written as literals, with sequences and maps nested at most `n` deep. -/
inductive IsLiteral : Nat → Value → Prop where
  /-- The value that is intentionally empty. -/
  | null {n : Nat} : IsLiteral n .null
  /-- A truth value. -/
  | bool {n : Nat} (b : Bool) : IsLiteral n (.bool b)
  /-- An integer with an opposite. -/
  | int {n : Nat} {i : Int64} (h : i ≠ Int64.minValue) : IsLiteral n (.int i)
  /-- A text that is not safe. -/
  | text {n : Nat} (s : String) : IsLiteral n (.plain s)
  /-- A sequence of literals. -/
  | seq {n : Nat} {items : List Value} (h : ∀ v ∈ items, IsLiteral n v) :
      IsLiteral (n + 1) (.seq items)
  /-- A map from names to literals. -/
  | map {n : Nat} {names : List String} {rows : Rows names}
      (h : ∀ e ∈ rows.entries, IsLiteral n e.2) : IsLiteral (n + 1) (.map rows)

mutual

/-- The expression that a value is written as. -/
def source : Value → List Char
  | .text s _ => Text.singleQuoted s.toList
  | .seq items => '[' :: List.intercalate [',', ' '] (itemSources items) ++ [']']
  | .map rows => '\x7b' :: List.intercalate [',', ' '] (entrySources rows) ++ ['\x7d']
  | v => v.chars

/-- The expressions that values are written as. -/
def itemSources : List Value → List (List Char)
  | [] => []
  | v :: vs => v.source :: itemSources vs

/-- The entries of a map as they are written. -/
def entrySources {names : List String} : Rows names → List (List Char)
  | .nil => []
  | .cons key v _ rest =>
    (Text.singleQuoted key.toList ++ [':', ' '] ++ v.source) :: entrySources rest

end

end Value

end Stencil
