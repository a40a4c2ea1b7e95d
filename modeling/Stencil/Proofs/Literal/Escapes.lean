import Mathlib.Algebra.Group.Nat.Defs
import Stencil.Proofs.Literal.Items

/-!
# The grammar of escapes

A text with escapes is a row of plain characters, of characters behind a backslash and of code units
of UTF-16, a code unit outside the surrogates or a pair of them at a time. A text is read exactly if
it is such a row, and it stands for the characters that the row stands for. What may be written for
a code unit is a parameter of the grammar: in the place of four hexadecimal digits a plus sign and
three are accepted as well.
-/

namespace Stencil.Text

/-! ### Texts with escapes -/

/-- The characters are four hexadecimal digits, and `u` is their number. -/
def IsHexUnit (digits : List Char) (u : Nat) : Prop :=
  digits.length = 4 ∧ readHex? 0 digits = some u

/-- The characters are four hexadecimal digits or a plus sign and three of them, and `u` is their
number. -/
def IsCodeUnit (digits : List Char) (u : Nat) : Prop :=
  IsHexUnit digits u ∨ ∃ rest, digits = '+' :: rest ∧ rest.length = 3 ∧ readHex? 0 rest = some u

/-- A text with escapes and the text that it stands for, where `Written` tells which characters
behind `\u` are which code unit. -/
inductive Unescapes (Written : List Char → Nat → Prop) : List Char → List Char → Prop where
  /-- The empty text stands for itself. -/
  | nil : Unescapes Written [] []
  /-- A plain character stands for itself. -/
  | plain {c : Char} {s t : List Char} (hc : c ≠ '\\') (h : Unescapes Written s t) :
    Unescapes Written (c :: s) (c :: t)
  /-- A backslash gives the next character its meaning. -/
  | escaped {c : Char} {s t : List Char} (hc : c ≠ 'u') (h : Unescapes Written s t) :
    Unescapes Written ('\\' :: c :: s) (escapedChar c :: t)
  /-- A code unit that is a character by itself. -/
  | unit {digits : List Char} {c : Char} {s t : List Char} (hunit : Written digits c.toNat)
    (h : Unescapes Written s t) : Unescapes Written ('\\' :: 'u' :: (digits ++ s)) (c :: t)
  /-- A high surrogate with a low one directly behind it. -/
  | pair {digits digits' : List Char} {high low : Nat} {c : Char} {s t : List Char}
    (hunit : Written digits high) (hunit' : Written digits' low)
    (hhigh : 0xD800 ≤ high ∧ high < 0xDC00) (hlow : 0xDC00 ≤ low ∧ low < 0xE000)
    (hc : c.toNat = 0x10000 + (high - 0xD800) * 0x400 + (low - 0xDC00))
    (h : Unescapes Written s t) :
    Unescapes Written ('\\' :: 'u' :: (digits ++ '\\' :: 'u' :: (digits' ++ s))) (c :: t)

/-- Whether the escapes of a text are read by the grammar in which four hexadecimal digits stand
behind each `\u`. -/
def UnescapedExactly (s : List Char) : Prop :=
  ∀ t, unescape? s = some t ↔ Unescapes IsHexUnit s t

/-- The four characters behind each `\u`, where an escaped character is passed over with its
backslash. -/
def unitTexts : List Char → List (List Char)
  | '\\' :: 'u' :: a :: b :: c :: d :: s => [a, b, c, d] :: unitTexts s
  | '\\' :: _ :: s => unitTexts s
  | _ :: s => unitTexts s
  | [] => []

/-! ### Code units -/

section

variable {digits : List Char} {u : Nat}

private theorem hexValue?_lt {c : Char} {d : Nat} (h : hexValue? c = some d) : d < 16 := by
  simp only [hexValue?] at h
  split_ifs at h <;> simp only [Option.some.injEq] at h <;> omega

private theorem readHex?_lt {acc : Nat} (h : readHex? acc digits = some u) :
    u < (acc + 1) * 16 ^ digits.length := by
  induction digits generalizing acc with
  | nil =>
    obtain rfl : acc = u := by simpa [readHex?] using h
    simp
  | cons c cs ih =>
    rw [readHex?] at h
    split at h
    · next d hd =>
      have hbound : 16 * acc + d + 1 ≤ (acc + 1) * 16 := by have := hexValue?_lt hd; omega
      calc u < (16 * acc + d + 1) * 16 ^ cs.length := ih h
        _ ≤ (acc + 1) * 16 * 16 ^ cs.length := Nat.mul_le_mul_right _ hbound
        _ = (acc + 1) * 16 ^ (cs.length + 1) := by rw [Nat.pow_succ', Nat.mul_assoc]
    · cases h

private theorem IsHexUnit.head?_ne (h : IsHexUnit digits u) : digits.head? ≠ some '+' := by
  obtain ⟨-, hread⟩ := h
  cases digits with
  | nil => simp
  | cons c cs =>
    simp only [List.head?_cons, ne_eq, Option.some.injEq]
    rintro rfl
    cases hread

private theorem IsCodeUnit.isHexUnit (h : IsCodeUnit digits u) (hhead : digits.head? ≠ some '+') :
    IsHexUnit digits u := by
  rcases h with h | ⟨rest, rfl, -, -⟩
  · exact h
  · exact absurd rfl hhead

private theorem IsCodeUnit.length_eq (h : IsCodeUnit digits u) : digits.length = 4 := by
  rcases h with h | ⟨rest, rfl, hlength, -⟩
  · exact h.1
  · rw [List.length_cons, hlength]

private theorem IsCodeUnit.lt (h : IsCodeUnit digits u) : u < 0x10000 := by
  rcases h with ⟨hlength, hread⟩ | ⟨rest, -, hlength, hread⟩
  · simpa [hlength] using readHex?_lt hread
  · have hlt := readHex?_lt hread
    rw [hlength] at hlt
    omega

private theorem codeUnit?_eq_some_iff {a b c d : Char} :
    codeUnit? a b c d = some u ↔ IsCodeUnit [a, b, c, d] u := by
  rw [codeUnit?]
  split
  · next ha =>
    refine ⟨fun h ↦ .inr ⟨_, by rw [ha], rfl, h⟩, fun h ↦ ?_⟩
    rcases h with h | ⟨rest, hrest, -, hread⟩
    · exact absurd (by rw [ha]; rfl) h.head?_ne
    · rwa [(List.cons.inj hrest).2]
  · next ha =>
    exact ⟨fun h ↦ .inl ⟨rfl, h⟩, fun h ↦ (h.isHexUnit (by simpa using ha)).2⟩

private theorem ofNat_eq_iff {n : Nat} (hn : n.isValidChar) (c : Char) :
    Char.ofNat n = c ↔ c.toNat = n := by
  have htoNat : (Char.ofNat n).toNat = n := by
    rw [Char.ofNat, dif_pos hn]
    rfl
  rw [← Char.toNat_inj, htoNat, eq_comm]

private theorem isSurrogate_eq_false_iff (hu : u < 0x10000) :
    isSurrogate u = false ↔ u.isValidChar := by
  simp only [isSurrogate, Bool.and_eq_false_iff, decide_eq_false_iff_not, Nat.isValidChar]
  omega

private theorem surrogatePair?_eq_some_iff {high low : Nat} {c : Char} :
    surrogatePair? high low = some c ↔
      (0xD800 ≤ high ∧ high < 0xDC00) ∧ (0xDC00 ≤ low ∧ low < 0xE000) ∧
        c.toNat = 0x10000 + (high - 0xD800) * 0x400 + (low - 0xDC00) := by
  simp only [surrogatePair?, Option.ite_none_right_eq_some, Option.some.injEq, and_assoc]
  refine and_congr_right fun hmin ↦ and_congr_right fun hmid ↦ and_congr_right fun hmid' ↦
    and_congr_right fun hmax ↦ ofNat_eq_iff (.inr ?_) c
  omega

private theorem IsCodeUnit.exists_codeUnit? (h : IsCodeUnit digits u) :
    ∃ a b c d, digits = [a, b, c, d] ∧ codeUnit? a b c d = some u := by
  match digits, h.length_eq with
  | [a, b, c, d], _ => exact ⟨a, b, c, d, rfl, codeUnit?_eq_some_iff.mpr h⟩

end

/-! ### Reading -/

section

variable {s t : List Char}

/-- What is read after a surrogate that may be pending. -/
private def UnescapesAfter : Option Nat → List Char → List Char → Prop
  | none, s, t => Unescapes IsCodeUnit s t
  | some high, s, t => ∃ digits low c s' t', s = '\\' :: 'u' :: (digits ++ s') ∧ t = c :: t' ∧
      IsCodeUnit digits low ∧ surrogatePair? high low = some c ∧ Unescapes IsCodeUnit s' t'

private theorem unescapesAfter_of_unescapeAfter {pending : Option Nat}
    (h : unescapeAfter pending s = some t) : UnescapesAfter pending s t := by
  fun_induction unescapeAfter pending s generalizing t with
  | case1 pending hpending =>
    obtain rfl : pending = none := by simpa using hpending
    cases h
    exact .nil
  | case5 a b c d s high hunit _ ih =>
    -- The surrogate is written in front of the one that the rest has to begin with.
    obtain ⟨digits, low, x, s', t', rfl, rfl, hlow, hpair, hrest⟩ := ih h
    obtain ⟨hhighRange, hlowRange, hx⟩ := surrogatePair?_eq_some_iff.mp hpair
    exact .pair (codeUnit?_eq_some_iff.mp hunit) hlow hhighRange hlowRange hx hrest
  | case6 a b c d s u hread hsurrogate ih =>
    obtain ⟨t, ht, rfl⟩ := Option.map_eq_some_iff.mp h
    have hunit := codeUnit?_eq_some_iff.mp hread
    have hvalid := (isSurrogate_eq_false_iff hunit.lt).mp (by simpa using hsurrogate)
    rw [← (ofNat_eq_iff hvalid _).mp rfl] at hunit
    exact .unit hunit (ih ht)
  | case7 a b c d s low high hunit x hpair ih =>
    obtain ⟨t, ht, rfl⟩ := Option.map_eq_some_iff.mp h
    exact ⟨[a, b, c, d], low, x, s, t, rfl, rfl, codeUnit?_eq_some_iff.mp hunit, hpair, ih ht⟩
  | case10 pending c s hc hpending ih =>
    obtain rfl : pending = none := by simpa using hpending
    obtain ⟨t, ht, rfl⟩ := Option.map_eq_some_iff.mp h
    exact .escaped hc (ih ht)
  | case12 pending c s hc hpending ih =>
    obtain rfl : pending = none := by simpa using hpending
    obtain ⟨t, ht, rfl⟩ := Option.map_eq_some_iff.mp h
    exact .plain hc (ih ht)
  | case2 | case3 | case4 | case8 | case9 | case11 | case13 => cases h

private theorem Unescapes.unescapeAfter (h : Unescapes IsCodeUnit s t) :
    unescapeAfter none s = some t := by
  induction h with
  | nil => rfl
  | plain hc _ ih => rw [unescapeAfter_plain hc, ih, Option.map_some]
  | escaped hc _ ih => rw [unescapeAfter_escaped hc, ih, Option.map_some]
  | @unit digits x s t hunit _ ih =>
    have hsurrogate := (isSurrogate_eq_false_iff hunit.lt).mpr x.valid
    obtain ⟨a, b, c, d, rfl, hread⟩ := hunit.exists_codeUnit?
    simp [Text.unescapeAfter, hread, hsurrogate, ih]
  | @pair digits digits' high low x s t hunit hunit' hhigh hlow hx _ ih =>
    have hsurrogate : isSurrogate high = true := by
      simp only [isSurrogate, Bool.and_eq_true, decide_eq_true_eq]
      omega
    have hpair := surrogatePair?_eq_some_iff.mpr ⟨hhigh, hlow, hx⟩
    obtain ⟨a, b, c, d, rfl, hread⟩ := hunit.exists_codeUnit?
    obtain ⟨a', b', c', d', rfl, hread'⟩ := hunit'.exists_codeUnit?
    simp [Text.unescapeAfter, hread, hread', hsurrogate, hpair, ih]

private theorem unescape?_eq_some_iff : unescape? s = some t ↔ Unescapes IsCodeUnit s t :=
  ⟨fun h ↦ unescapesAfter_of_unescapeAfter h, Unescapes.unescapeAfter⟩

end

/-! ### Where four digits stand behind each `\u` -/

section

variable {Written Written' : List Char → Nat → Prop} {digits s t : List Char}

private theorem unitTexts_plain {c : Char} (hc : c ≠ '\\') : unitTexts (c :: s) = unitTexts s :=
  unitTexts.eq_3 c s (fun _ _ _ _ _ hbackslash _ ↦ hc hbackslash) fun _ _ hbackslash _ ↦
    hc hbackslash

private theorem unitTexts_escaped {c : Char} (hc : c ≠ 'u') :
    unitTexts ('\\' :: c :: s) = unitTexts s :=
  unitTexts.eq_2 c s fun _ _ _ _ _ hunit _ ↦ hc hunit

private theorem unitTexts_unit (h : digits.length = 4) :
    unitTexts ('\\' :: 'u' :: (digits ++ s)) = digits :: unitTexts s := by
  match digits, h with
  | [a, b, c, d], _ => rfl

private theorem Unescapes.forall_unitTexts
    (hlength : ∀ {digits u}, Written digits u → digits.length = 4) (h : Unescapes Written s t) :
    ∀ digits ∈ unitTexts s, ∃ u, Written digits u := by
  induction h with
  | nil => exact List.forall_mem_nil _
  | plain hc _ ih => rwa [unitTexts_plain hc]
  | escaped hc _ ih => rwa [unitTexts_escaped hc]
  | unit hunit _ ih =>
    rw [unitTexts_unit (hlength hunit)]
    exact List.forall_mem_cons.mpr ⟨⟨_, hunit⟩, ih⟩
  | pair hunit hunit' _ _ _ _ ih =>
    rw [unitTexts_unit (hlength hunit), unitTexts_unit (hlength hunit')]
    exact List.forall_mem_cons.mpr ⟨⟨_, hunit⟩, List.forall_mem_cons.mpr ⟨⟨_, hunit'⟩, ih⟩⟩

private theorem Unescapes.mono (hlength : ∀ {digits u}, Written digits u → digits.length = 4)
    (h : Unescapes Written s t)
    (hmono : ∀ digits ∈ unitTexts s, ∀ u, Written digits u → Written' digits u) :
    Unescapes Written' s t := by
  induction h with
  | nil => exact .nil
  | plain hc _ ih =>
    rw [unitTexts_plain hc] at hmono
    exact .plain hc (ih hmono)
  | escaped hc _ ih =>
    rw [unitTexts_escaped hc] at hmono
    exact .escaped hc (ih hmono)
  | unit hunit _ ih =>
    rw [unitTexts_unit (hlength hunit)] at hmono
    obtain ⟨hhere, hrest⟩ := List.forall_mem_cons.mp hmono
    exact .unit (hhere _ hunit) (ih hrest)
  | pair hunit hunit' hhigh hlow hchar _ ih =>
    rw [unitTexts_unit (hlength hunit), unitTexts_unit (hlength hunit')] at hmono
    obtain ⟨hhere, hmono⟩ := List.forall_mem_cons.mp hmono
    obtain ⟨hhere', hrest⟩ := List.forall_mem_cons.mp hmono
    exact .pair (hhere _ hunit) (hhere' _ hunit') hhigh hlow hchar (ih hrest)

end

variable {q : Char}

private theorem readLiteral_quoted (hq : isQuote q = true) (s : List Char) :
    readLiteral (q :: (s ++ [q])) =
      match unescape? (replaceAll [q, q] ['\\', q] s) with
      | some t => .ok (String.ofList t)
      | none => .error .badEscape := by
  cases hread : unescape? (replaceAll [q, q] ['\\', q] s) <;> simp [readLiteral, hq, hread]

/-- A text with escapes is read exactly if it is a row of plain characters, escaped ones and code
units, with surrogates in pairs only, and a literal that is no such row between its quotes is a bad
escape. Four hexadecimal digits stand behind each `\u` of a text that is read unless a plus sign
stands in the place of the first of them. -/
theorem unescape?_eq_some_iff_unescapes (hq : isQuote q = true) (s : List Char) :
    (∀ t, unescape? s = some t ↔ Unescapes IsCodeUnit s t) ∧
      (∀ t, readLiteral (q :: (s ++ [q])) = .ok (String.ofList t) ↔
        Unescapes IsCodeUnit (replaceAll [q, q] ['\\', q] s) t) ∧
      (readLiteral (q :: (s ++ [q])) = .error .badEscape ↔
        ∀ t, ¬Unescapes IsCodeUnit (replaceAll [q, q] ['\\', q] s) t) ∧
      (UnescapedExactly s ↔
        ∀ t, unescape? s = some t → ∀ digits ∈ unitTexts s, digits.head? ≠ some '+') := by
  refine ⟨fun t ↦ unescape?_eq_some_iff, fun t ↦ ?_, ?_, fun h t ht ↦ ?_, fun h t ↦ ⟨fun ht ↦ ?_,
    fun ht ↦ ?_⟩⟩
  · rw [readLiteral_quoted hq, ← unescape?_eq_some_iff]
    cases unescape? (replaceAll [q, q] ['\\', q] s) <;> simp [String.ofList_inj]
  · simp only [readLiteral_quoted hq, ← unescape?_eq_some_iff]
    cases unescape? (replaceAll [q, q] ['\\', q] s) <;> simp
  · intro digits hmem
    obtain ⟨u, hunit⟩ := ((h t).mp ht).forall_unitTexts (·.1) digits hmem
    exact hunit.head?_ne
  · exact (unescape?_eq_some_iff.mp ht).mono (·.length_eq) fun digits hmem u hunit ↦
      hunit.isHexUnit (h t ht digits hmem)
  · exact unescape?_eq_some_iff.mpr (ht.mono (·.1) fun _ _ _ ↦ .inl)

/-- A plain character, an escaped one and a pair of surrogates. -/
theorem unescape?_eq_some_iff_unescapes_pair :
    isQuote '"' = true ∧ Unescapes IsCodeUnit "a\\n\\ud83d\\udca9".toList "a\n💩".toList ∧
      UnescapedExactly "a\\n\\ud83d\\udca9".toList := by
  obtain ⟨hread, -, -, hexact⟩ :=
    unescape?_eq_some_iff_unescapes (q := '"') rfl "a\\n\\ud83d\\udca9".toList
  exact ⟨rfl, (hread _).mp (by decide +kernel), hexact.mpr fun _ _ ↦ by decide +kernel⟩

/-- A plus sign and three digits are read as a code unit. -/
theorem not_unescapedExactly_plus :
    unescape? "\\u+041".toList = some "A".toList ∧ ¬UnescapedExactly "\\u+041".toList := by
  have hread : unescape? "\\u+041".toList = some "A".toList := by decide +kernel
  refine ⟨hread, fun h ↦ ?_⟩
  obtain ⟨u, hunit⟩ := ((h _).mp hread).forall_unitTexts (·.1) "+041".toList (by decide)
  exact absurd rfl hunit.head?_ne

end Stencil.Text
