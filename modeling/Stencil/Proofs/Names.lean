import Stencil.Signature

/-!
# Names

What a name is, which characters it has none of, and that nothing of it is lost when a text loses
the blanks and the quotes at its ends.
-/

namespace Stencil

/-- The words that stand for operators. -/
def operatorWords : List (List Char) := ["not".toList, "or".toList, "and".toList]

/-- An identifier: a letter or an underscore, and letters, digits and underscores behind it. -/
structure Text.IsIdentifier (s : List Char) : Prop where
  /-- The first character is a letter or an underscore. -/
  first : ∃ c cs, s = c :: cs ∧ (c.isAlpha = true ∨ c = '_')
  /-- All characters may stand in names. -/
  chars : ∀ c ∈ s, isNameChar c = true

/-- An identifier that is none of the words that stand for operators. -/
structure Text.IsName (s : List Char) : Prop extends Text.IsIdentifier s where
  /-- The name stands for no operator. -/
  notOperator : s ≠ "not".toList ∧ s ≠ "or".toList ∧ s ≠ "and".toList

instance (s : List Char) : Decidable (Text.IsIdentifier s) :=
  decidable_of_iff
    ((s.head?.any fun c ↦ c.isAlpha || c == '_') = true ∧ s.all isNameChar = true) <| by
    rw [List.all_eq_true]
    constructor
    · rintro ⟨hfirst, hchars⟩
      cases s with
      | nil => cases hfirst
      | cons c cs => exact ⟨⟨c, cs, rfl, by simpa using hfirst⟩, hchars⟩
    · rintro ⟨⟨c, cs, rfl, hc⟩, hchars⟩
      exact ⟨by simpa using hc, hchars⟩

instance (s : List Char) : Decidable (Text.IsName s) :=
  decidable_of_iff
    (Text.IsIdentifier s ∧ s ≠ "not".toList ∧ s ≠ "or".toList ∧ s ≠ "and".toList)
    ⟨fun h ↦ ⟨h.1, h.2⟩, fun h ↦ ⟨h.toIsIdentifier, h.notOperator⟩⟩

/-! ### Characters of names -/

private theorem toNat_lt_of_isNameChar {c : Char} (h : isNameChar c = true) : c.toNat < 128 := by
  have hle {d : Char} (hd : d.toNat < 128) (hc : c.val ≤ d.val) : c.toNat < 128 :=
    Nat.lt_of_le_of_lt (UInt32.le_iff_toNat_le.mp hc) hd
  have hcases : ((c.isUpper = true ∨ c.isLower = true) ∨ c.isDigit = true) ∨ c = '_' := by
    rw [← beq_iff_eq (b := '_'), ← Bool.or_eq_true, ← Bool.or_eq_true, ← Bool.or_eq_true]
    exact h
  rcases hcases with ((h | h) | h) | h
  · exact hle (d := 'Z') (by decide) (of_decide_eq_true h).2
  · exact hle (d := 'z') (by decide) (of_decide_eq_true (Bool.and_eq_true_iff.mp h).2)
  · exact hle (d := '9') (by decide) (of_decide_eq_true (Bool.and_eq_true_iff.mp h).2)
  · rw [h]
    decide

private theorem isNameChar_cases {P : Char → Prop}
    (hP : ∀ n : Fin 128, isNameChar (Char.ofNat n) = true → P (Char.ofNat n)) {c : Char}
    (h : isNameChar c = true) : P c := by
  have hc := hP ⟨c.toNat, toNat_lt_of_isNameChar h⟩
  rw [Char.ofNat_toNat] at hc
  exact hc h

/-- A character of names is no operator. -/
theorem isOperatorChar_of_isNameChar {c : Char} (h : isNameChar c = true) :
    isOperatorChar c = false :=
  isNameChar_cases (P := fun c ↦ isOperatorChar c = false) (by decide +kernel) h

/-- A character of names is no quote. -/
theorem isQuote_of_isNameChar {c : Char} (h : isNameChar c = true) : Text.isQuote c = false :=
  isNameChar_cases (P := fun c ↦ Text.isQuote c = false) (by decide +kernel) h

/-- A character of names is no blank. -/
theorem isBlank_of_isNameChar {c : Char} (h : isNameChar c = true) : Text.isBlank c = false :=
  isNameChar_cases (P := fun c ↦ Text.isBlank c = false) (by decide +kernel) h

private theorem isAlphanumeric_of_isNameChar {c : Char} (h : isNameChar c = true) :
    (Text.isAlphanumeric c || c == '_' || c == '$') = true :=
  isNameChar_cases (P := fun c ↦ (Text.isAlphanumeric c || c == '_' || c == '$') = true)
    (by decide +kernel) h

private theorem isDigit_of_isAlpha {c : Char} (h : isNameChar c = true) :
    c.isAlpha = true → c.isDigit = false :=
  isNameChar_cases (P := fun c ↦ c.isAlpha = true → c.isDigit = false) (by decide +kernel) h

/-! ### Texts without the characters at their ends -/

namespace Text

section

variable {p : Char → Bool}

/-- Nothing in front of a character that stays is dropped from the end. -/
theorem dropEndWhile_append_cons {c : Char} (hc : p c = false) (s t : List Char) :
    dropEndWhile p (s ++ c :: t) = s ++ c :: dropEndWhile p t := by
  have hdrop : (t.reverse ++ c :: s.reverse).dropWhile p =
      t.reverse.dropWhile p ++ c :: s.reverse := by
    rw [List.dropWhile_append, List.dropWhile_cons_of_neg (by simp [hc])]
    split
    · next hnil => rw [List.isEmpty_iff.mp hnil, List.nil_append]
    · rfl
  rw [dropEndWhile, dropEndWhile, List.reverse_append, List.reverse_cons, List.append_assoc,
    List.singleton_append, hdrop]
  simp

/-- If all characters stay, nothing is dropped from the end. -/
theorem dropEndWhile_of_forall {s : List Char} (hs : ∀ c ∈ s, p c = false) :
    dropEndWhile p s = s := by
  rcases List.eq_nil_or_concat s with rfl | ⟨init, c, rfl⟩
  · rfl
  · rw [List.concat_eq_append]
    exact dropEndWhile_append_cons (hs c (by simp)) init []

/-- What is to be trimmed is dropped in front of what is not. -/
theorem trimWhile_append {s t : List Char} (hs : ∀ c ∈ s, p c = true)
    (ht : ∀ c ∈ t, p c = false) : trimWhile p (s ++ t) = t := by
  have hdrop : (s ++ t).dropWhile p = t := by
    rw [List.dropWhile_append_of_pos hs]
    cases t with
    | nil => rfl
    | cons c cs => exact List.dropWhile_cons_of_neg (by simp [ht c List.mem_cons_self])
  rw [trimWhile, hdrop, dropEndWhile_of_forall ht]

end

end Text

namespace Text

/-- A text without separators is one part. -/
theorem splitAtChar_of_forall {sep : Char} {s : List Char}
    (hs : ∀ c ∈ s, (c != sep) = true) : splitAtChar sep s = [s] := by
  induction s with
  | nil => rfl
  | cons c cs ih =>
    obtain ⟨hc, hcs⟩ := List.forall_mem_cons.mp hs
    rw [splitAtChar, if_neg (bne_iff_ne.mp hc), ih hcs]
    rfl

/-- What does not begin with a digit and has no point in it is no number. -/
theorem isLiteral_eq_false {c : Char} {cs : List Char} (hdigit : c.isDigit = false)
    (hpoint : ∀ d ∈ c :: cs, (d != '.') = true) (hword : c :: cs ∉ literalWords) :
    isLiteral (c :: cs) = false := by
  have htake : (c :: cs).takeWhile (· != '.') = c :: cs := by
    rw [← List.append_nil (c :: cs), List.takeWhile_append_of_pos hpoint, List.takeWhile_nil]
  have hdigits : isDigits (c :: cs) = false := by simp [isDigits, hdigit]
  have hnumber : isNumber (c :: cs) = false := by
    simp only [isNumber, htake, List.drop_length, hdigits]
  simp [isLiteral, hword, hnumber]

/-- What has no point in it is a path if all of it may stand in a name. -/
theorem isPath_of_forall {s : List Char} (hpoint : ∀ c ∈ s, (c != '.') = true) :
    isPath s = (!s.isEmpty && s.all isNameChar) := by
  rw [isPath, splitAtChar_of_forall hpoint]
  simp

end Text

namespace Text.IsIdentifier

variable {name : List Char}

/-- An identifier has characters. -/
theorem isEmpty_eq_false (h : IsIdentifier name) : name.isEmpty = false := by
  obtain ⟨c, cs, rfl, -⟩ := h.first
  rfl

/-- A name loses nothing to blanks and quotes around names, but the blanks in front of it. -/
theorem stripName (h : IsIdentifier name) (blanks : List Char)
    (hblanks : ∀ c ∈ blanks, isBlank c = true) : Stencil.stripName (blanks ++ name) = name := by
  rw [Stencil.stripName, Text.trim,
    trimWhile_append hblanks fun c hc ↦ isBlank_of_isNameChar (h.chars c hc)]
  exact trimWhile_append (s := []) (List.forall_mem_nil _)
    fun c hc ↦ isQuote_of_isNameChar (h.chars c hc)

/-- An identifier may name a macro and its parameters. -/
theorem isIdentifier (h : IsIdentifier name) : Signature.isIdentifier name = true := by
  obtain ⟨c, cs, rfl, hc⟩ := h.first
  have hdigit : c.isDigit = false := by
    rcases hc with hc | rfl
    · exact isDigit_of_isAlpha (h.chars c List.mem_cons_self) hc
    · decide
  simp only [Signature.isIdentifier, hdigit, Bool.not_false, Bool.true_and, List.all_eq_true]
  exact fun d hd ↦ isAlphanumeric_of_isNameChar (h.chars d hd)

/-- A name that is no word for a value is a path. -/
theorem classify (h : IsIdentifier name) (hword : name ∉ literalWords) :
    Stencil.classify name = .path := by
  obtain ⟨c, cs, rfl, hc⟩ := h.first
  have hdigit : c.isDigit = false := by
    rcases hc with hc | rfl
    · exact isDigit_of_isAlpha (h.chars c List.mem_cons_self) hc
    · decide
  have hpoint : ∀ d ∈ c :: cs, (d != '.') = true := by
    intro d hd
    rw [bne_iff_ne]
    rintro rfl
    cases h.chars '.' hd
  have hpath : isPath (c :: cs) = true := by
    rw [isPath_of_forall hpoint]
    simpa using h.chars
  rw [Stencil.classify, isLiteral_eq_false hdigit hpoint hword, hpath]
  rfl

end Text.IsIdentifier

end Stencil
