import Mathlib.Algebra.Group.Nat.Defs
import Stencil.Proofs.Literal

/-!
# Reading JSON

JSON is read from left to right. Blanks may stand between the parts of a text; a number is a decimal
with a fraction and an exponent perhaps, and a character of a string stands for itself, or behind a
backslash as a letter or as a code unit of four hexadecimal digits, of which two may form a
surrogate pair. A text that a reader takes for a value is one wherever it stands: the laws say so of
the words, integers and strings, and of arrays and objects of such texts.
-/

namespace Stencil

/-- The data that JSON can describe. -/
inductive Json where
  /-- The word `null`. -/
  | null
  /-- A truth value. -/
  | bool (b : Bool)
  /-- The number `digits * 10 ^ exponent`. -/
  | number (digits exponent : Int)
  /-- A string. -/
  | string (s : String)
  /-- An array. -/
  | array (items : List Json)
  /-- An object, with its entries in the order in which they are written. -/
  | object (entries : List (String × Json))

namespace Json

/-! ### The reader -/

/-- Whether the character may stand between the parts of a text. -/
def isBlank (c : Char) : Bool := [' ', '\t', '\n', '\r'].contains c

/-- The text without the blanks in front of it. -/
def skipBlanks (s : List Char) : List Char := s.dropWhile isBlank

/-- The character that a letter behind a backslash stands for. -/
def letterChar? (c : Char) : Option Char :=
  if ['"', '\\', '/', 'b', 'f', 'n', 'r', 't'].contains c then some (Text.escapedChar c) else none

/-- Reads a string up to the quote at its end, behind the surrogate `pending` that still waits for
its other half. -/
def readString? (pending : Option Nat) : List Char → Option (List Char × List Char)
  | [] => none
  | c :: cs =>
    if c = '\\' then
      match cs with
      | 'u' :: x₁ :: x₂ :: x₃ :: x₄ :: rest =>
        match Text.readHex? 0 [x₁, x₂, x₃, x₄], pending with
        | none, _ => none
        | some u, none =>
          if Text.isSurrogate u then readString? (some u) rest
          else (readString? none rest).map fun r ↦ (Char.ofNat u :: r.1, r.2)
        | some u, some high =>
          match Text.surrogatePair? high u with
          | some p => (readString? none rest).map fun r ↦ (p :: r.1, r.2)
          | none => none
      | l :: rest =>
        match letterChar? l, pending with
        | some x, none => (readString? none rest).map fun r ↦ (x :: r.1, r.2)
        | _, _ => none
      | [] => none
    else if pending.isSome then none
    else if c = '"' then some ([], cs)
    else if c.toNat < 0x20 then none
    else (readString? none cs).map fun r ↦ (c :: r.1, r.2)

/-- Reads the digits behind a point, if there is one. -/
def readFraction? : List Char → Option (List Char × List Char)
  | '.' :: cs =>
    let digits := cs.takeWhile Char.isDigit
    if digits.isEmpty then none else some (digits, cs.dropWhile Char.isDigit)
  | cs => some ([], cs)

/-- Whether a text begins with a minus sign, and the text behind a sign. -/
def readSign : List Char → Bool × List Char
  | '-' :: cs => (true, cs)
  | '+' :: cs => (false, cs)
  | cs => (false, cs)

/-- An integer from its sign and its magnitude. -/
def signed (negative : Bool) (n : Nat) : Int := if negative then -n else n

/-- Reads the exponent of a number; without a mark it is zero. -/
def readExponent? : List Char → Option (Int × List Char)
  | [] => some (0, [])
  | c :: cs =>
    if c = 'e' ∨ c = 'E' then
      let (negative, cs) := readSign cs
      (Number.natural? (cs.takeWhile Char.isDigit)).map fun n ↦
        (signed negative n, cs.dropWhile Char.isDigit)
    else some (0, c :: cs)

/-- Reads a number without a sign. In front of the point there is a digit, which is no zero where
others follow it. -/
def readMagnitude? (negative : Bool) (s : List Char) : Option (Json × List Char) := do
  let whole := s.takeWhile Char.isDigit
  if whole = [] ∨ whole.head? = some '0' ∧ whole ≠ ['0'] then none
  let (fraction, s) ← readFraction? (s.dropWhile Char.isDigit)
  let (exponent, s) ← readExponent? s
  let n ← Number.natural? (whole ++ fraction)
  return (.number (signed negative n) (exponent - fraction.length), s)

/-- Reads a number. -/
def readNumber? : List Char → Option (Json × List Char)
  | '-' :: cs => readMagnitude? true cs
  | cs => readMagnitude? false cs

/-- The words that stand for data. -/
def words : List (List Char × Json) :=
  [(['n', 'u', 'l', 'l'], .null), (['t', 'r', 'u', 'e'], .bool true),
    (['f', 'a', 'l', 's', 'e'], .bool false)]

/-- Reads a word. -/
def readWord? (s : List Char) : Option (Json × List Char) :=
  words.findSome? fun w ↦ if w.1.isPrefixOf s then some (w.2, s.drop w.1.length) else none

/-- Reads the name of an entry and the colon behind it. -/
def readName? (s : List Char) : Option (String × List Char) :=
  match skipBlanks s with
  | '"' :: cs =>
    match readString? none cs with
    | none => none
    | some (name, rest) =>
      match skipBlanks rest with
      | ':' :: rest => some (String.ofList name, rest)
      | _ => none
  | _ => none

mutual

/-- Reads a value. It takes no more steps than the text has characters. -/
def readValue? : (steps : Nat) → List Char → Option (Json × List Char)
  | 0, _ => none
  | steps + 1, s =>
    match skipBlanks s with
    | [] => none
    | c :: cs =>
      if c = '"' then (readString? none cs).map fun r ↦ (.string (String.ofList r.1), r.2)
      else if c = '[' then
        if (skipBlanks cs).head? = some ']' then some (.array [], (skipBlanks cs).tail)
        else (readItems? steps cs).map fun r ↦ (.array r.1, r.2)
      else if c = '\x7b' then
        if (skipBlanks cs).head? = some '\x7d' then some (.object [], (skipBlanks cs).tail)
        else (readEntries? steps cs).map fun r ↦ (.object r.1, r.2)
      else (readWord? (c :: cs)).or (readNumber? (c :: cs))

/-- Reads the items of an array up to the bracket at its end. -/
def readItems? : (steps : Nat) → List Char → Option (List Json × List Char)
  | 0, _ => none
  | steps + 1, s =>
    match readValue? steps s with
    | none => none
    | some (j, rest) =>
      match skipBlanks rest with
      | ',' :: rest => (readItems? steps rest).map fun r ↦ (j :: r.1, r.2)
      | ']' :: rest => some ([j], rest)
      | _ => none

/-- Reads the entries of an object up to the brace at its end. -/
def readEntries? : (steps : Nat) → List Char → Option (List (String × Json) × List Char)
  | 0, _ => none
  | steps + 1, s =>
    match readName? s with
    | none => none
    | some (name, rest) =>
      match readValue? steps rest with
      | none => none
      | some (j, rest) =>
        match skipBlanks rest with
        | ',' :: rest => (readEntries? steps rest).map fun r ↦ ((name, j) :: r.1, r.2)
        | '\x7d' :: rest => some ([(name, j)], rest)
        | _ => none

end

/-- The data that a text describes, if it is JSON. -/
def read? (s : List Char) : Option Json :=
  match readValue? s.length s with
  | some (j, rest) => if (skipBlanks rest).isEmpty then some j else none
  | none => none

/-! ### Texts that are read as data -/

/-- Whether a number ends in front of the text. -/
def Stops (rest : List Char) : Prop :=
  ∀ c ∈ rest.head?, c.isDigit = false ∧ c ≠ '.' ∧ c ≠ 'e' ∧ c ≠ 'E'

/-- A text is read as data, whatever stops it. -/
structure Reads (text : List Char) (j : Json) : Prop where
  /-- It begins with no blank and closes no array. -/
  begins : ∃ c cs, text = c :: cs ∧ isBlank c = false ∧ c ≠ ']'
  /-- The reader takes it and leaves what follows. -/
  read : ∀ rest steps, Stops rest → text.length ≤ steps →
    readValue? steps (text ++ rest) = some (j, rest)

/-- A text is read as one character of a string. -/
def ReadsChar (text : List Char) (c : Char) : Prop :=
  ∀ rest, readString? none (text ++ rest) = (readString? none rest).map fun r ↦ (c :: r.1, r.2)

/-- A text is read as the rest of a string, up to the quote at its end. -/
def ReadsString (text s : List Char) : Prop :=
  ∀ rest, readString? none (text ++ rest) = some (s, rest)

/-- A text is read as the entry of an object. -/
def ReadsEntry (text : List Char) (e : String × Json) : Prop :=
  ∃ name value, text = '"' :: (name ++ ':' :: value) ∧ ReadsString name e.1.toList ∧ Reads value e.2

section

variable {c : Char} {cs rest text : List Char} {steps : Nat}

private theorem skipBlanks_cons (hc : isBlank c = false) : skipBlanks (c :: cs) = c :: cs :=
  List.dropWhile_cons_of_neg (by simp [hc])

private theorem readValue?_cons (hc : isBlank c = false) : readValue? (steps + 1) (c :: cs) =
    if c = '"' then (readString? none cs).map fun r ↦ (.string (String.ofList r.1), r.2)
    else if c = '[' then
      if (skipBlanks cs).head? = some ']' then some (.array [], (skipBlanks cs).tail)
      else (readItems? steps cs).map fun r ↦ (.array r.1, r.2)
    else if c = '\x7b' then
      if (skipBlanks cs).head? = some '\x7d' then some (.object [], (skipBlanks cs).tail)
      else (readEntries? steps cs).map fun r ↦ (.object r.1, r.2)
    else (readWord? (c :: cs)).or (readNumber? (c :: cs)) := by
  rw [readValue?, skipBlanks_cons hc]

private theorem Reads.of_cons {j : Json} (hc : isBlank c = false) (hclose : c ≠ ']')
    (h : ∀ rest steps, Stops rest → cs.length ≤ steps →
      readValue? (steps + 1) (c :: (cs ++ rest)) = some (j, rest)) : Reads (c :: cs) j := by
  refine ⟨⟨c, cs, rfl, hc, hclose⟩, fun rest steps hstops hsteps ↦ ?_⟩
  obtain ⟨steps, rfl⟩ := Nat.exists_eq_add_of_le' (Nat.le_trans (Nat.le_add_left 1 _) hsteps)
  exact h rest steps hstops (Nat.le_of_succ_le_succ hsteps)

/-! ### Strings -/

/-- A letter behind a backslash is read as the character that it stands for. -/
theorem readsChar_letter {l : Char} (h : letterChar? l = some c) : ReadsChar ['\\', l] c := by
  intro rest
  obtain ⟨hl, hc⟩ := Option.ite_none_right_eq_some.mp h
  rw [← Option.some.inj hc]
  simp only [List.contains_cons, List.contains_nil, Bool.or_false, Bool.or_eq_true,
    beq_iff_eq] at hl
  rcases hl with rfl | rfl | rfl | rfl | rfl | rfl | rfl | rfl
  all_goals
    rw [readString?.eq_def]
    rfl

private theorem readHex?_hexDigits (acc width n : Nat) (cs : List Char) :
    Text.readHex? acc (Text.hexDigits width n ++ cs) =
      Text.readHex? (16 ^ width * acc + n % 16 ^ width) cs := by
  induction width generalizing n cs with
  | zero =>
    rw [Text.hexDigits, List.nil_append, Nat.pow_zero, Nat.one_mul, Nat.mod_one, Nat.add_zero]
  | succ width ih =>
    have hvalue : 16 * (16 ^ width * acc + n / 16 % 16 ^ width) + n % 16 =
        16 ^ (width + 1) * acc + n % 16 ^ (width + 1) := by
      rw [Nat.pow_succ', Nat.mod_mul, Nat.mul_add, Nat.mul_assoc, Nat.add_assoc,
        Nat.add_comm (n % 16)]
    rw [Text.hexDigits, List.append_assoc, List.singleton_append, ih, Text.readHex?,
      Text.hexValue?_hexDigit, ← hvalue]

/-- A code unit of four digits that is no surrogate is read as its character. -/
theorem readsChar_hexDigits (hc : c.toNat < 0xD800) :
    ReadsChar ('\\' :: 'u' :: Text.hexDigits 4 c.toNat) c := by
  intro rest
  have hread : Text.readHex? 0 (Text.hexDigits 4 c.toNat) = some c.toNat := by
    have h := readHex?_hexDigits 0 4 c.toNat []
    rwa [List.append_nil, Nat.mod_eq_of_lt (by omega), Nat.mul_zero, Nat.zero_add] at h
  have hunit : Text.isSurrogate c.toNat = false := by
    rw [Text.isSurrogate, decide_eq_false (by omega), Bool.false_and]
  obtain ⟨x₁, x₂, x₃, x₄, hdigits⟩ :
      ∃ x₁ x₂ x₃ x₄, Text.hexDigits 4 c.toNat = [x₁, x₂, x₃, x₄] := ⟨_, _, _, _, rfl⟩
  rw [hdigits] at hread ⊢
  rw [readString?.eq_def]
  simp only [List.cons_append, List.nil_append, if_pos, hread, hunit, Char.ofNat_toNat]
  rfl

/-- A character that needs no backslash is read as itself. -/
theorem readsChar_singleton (hbackslash : c ≠ '\\') (hquote : c ≠ '"') (hc : 0x20 ≤ c.toNat) :
    ReadsChar [c] c := by
  intro rest
  rw [readString?.eq_def]
  simp only [List.cons_append, List.nil_append]
  rw [if_neg hbackslash, if_neg (by decide), if_neg hquote, if_neg (by omega)]

/-- Behind the last character of a string stands its quote. -/
theorem readsString_nil : ReadsString ['"'] [] := by
  intro rest
  rw [readString?.eq_def]
  rfl

/-- A string is read from its first character on. -/
theorem ReadsChar.readsString {s : List Char} {charText : List Char} (hc : ReadsChar charText c)
    (h : ReadsString text s) : ReadsString (charText ++ text) (c :: s) := by
  intro rest
  rw [List.append_assoc, hc, h]
  rfl

/-- What is read up to a quote is a string behind another one. -/
theorem ReadsString.reads {s : String} (h : ReadsString text s.toList) :
    Reads ('"' :: text) (.string s) := by
  refine .of_cons (by decide) (by decide) fun rest steps _ _ ↦ ?_
  rw [readValue?_cons (by decide), if_pos rfl, h rest]
  simp

/-! ### Words and integers -/

/-- Words are read as the data that they stand for. -/
theorem reads_word {j : Json} (h : (text, j) ∈ words) : Reads text j := by
  simp only [words, List.mem_cons, Prod.mk.injEq, List.not_mem_nil, or_false] at h
  rcases h with ⟨rfl, rfl⟩ | ⟨rfl, rfl⟩ | ⟨rfl, rfl⟩
  all_goals
    refine .of_cons (by decide) (by decide) fun rest steps _ _ ↦ ?_
    rw [readValue?_cons (by decide)]
    rfl

private theorem span_digits {ds : List Char} (hds : ∀ d ∈ ds, d.isDigit = true)
    (hrest : Stops rest) : (ds ++ rest).takeWhile Char.isDigit = ds ∧
      (ds ++ rest).dropWhile Char.isDigit = rest := by
  have hstop : rest.takeWhile Char.isDigit = [] ∧ rest.dropWhile Char.isDigit = rest := by
    cases rest with
    | nil => exact ⟨rfl, rfl⟩
    | cons c cs =>
      have hc := (hrest c rfl).1
      exact ⟨List.takeWhile_cons_of_neg (by simp [hc]), List.dropWhile_cons_of_neg (by simp [hc])⟩
  rw [List.takeWhile_append_of_pos hds, List.dropWhile_append_of_pos hds, hstop.1, hstop.2,
    List.append_nil]
  exact ⟨rfl, rfl⟩

private theorem head?_toDigits_ne {n : Nat} (hn : 0 < n) :
    (Nat.toDigits 10 n).head? ≠ some '0' := by
  induction n using Nat.strongRecOn with
  | ind n ih =>
    rcases Nat.lt_or_ge n 10 with hlt | hge
    · rw [Nat.toDigits_of_lt_base hlt]
      have hdigits : ∀ m < 10, 0 < m → [m.digitChar].head? ≠ some '0' := by decide
      exact hdigits n hlt hn
    · rw [Nat.toDigits_of_base_le (by decide) hge,
        List.head?_append_of_ne_nil _ Nat.toDigits_ne_nil]
      exact ih (n / 10) (Nat.div_lt_self hn (by decide)) (Nat.div_pos hge (by decide))

private theorem readFraction?_of_stops (h : Stops rest) : readFraction? rest = some ([], rest) := by
  unfold readFraction?
  split
  · exact absurd rfl (h '.' rfl).2.1
  · rfl

private theorem readExponent?_of_stops (h : Stops rest) : readExponent? rest = some (0, rest) := by
  cases rest with
  | nil => rfl
  | cons c cs =>
    obtain ⟨-, -, hlower, hupper⟩ := h c rfl
    rw [readExponent?, if_neg (not_or.mpr ⟨hlower, hupper⟩)]

private theorem readMagnitude?_toDigits (negative : Bool) (n : Nat) (h : Stops rest) :
    readMagnitude? negative (Nat.toDigits 10 n ++ rest) =
      some (.number (signed negative n) 0, rest) := by
  obtain ⟨htake, hdrop⟩ := span_digits
    (fun d (hd : d ∈ Nat.toDigits 10 n) ↦ Number.isDigit_of_mem_toDigits hd) h
  have hwhole : ¬(Nat.toDigits 10 n = [] ∨
      (Nat.toDigits 10 n).head? = some '0' ∧ Nat.toDigits 10 n ≠ ['0']) := by
    rintro (hnil | ⟨hhead, hne⟩)
    · exact Nat.toDigits_ne_nil hnil
    · rcases Nat.eq_zero_or_pos n with rfl | hn
      · exact hne (Nat.toDigits_zero 10)
      · exact head?_toDigits_ne hn hhead
  simp only [readMagnitude?, htake, hdrop, if_neg hwhole, readFraction?_of_stops h,
    readExponent?_of_stops h, Option.bind_eq_bind, Option.bind_some, List.append_nil,
    Number.natural?_toDigits]
  rfl

/-- A natural number is read from its digits. -/
theorem reads_toDigits (n : Nat) : Reads (Nat.toDigits 10 n) (.number n 0) := by
  obtain ⟨c, cs, hcs⟩ := List.exists_cons_of_ne_nil (Nat.toDigits_ne_nil (n := n) (b := 10))
  have hc : c.isDigit = true := Number.isDigit_of_mem_toDigits (hcs ▸ List.mem_cons_self)
  have hne {d : Char} (hd : d.isDigit = false) : c ≠ d := by
    rintro rfl
    rw [hd] at hc
    cases hc
  rw [hcs]
  refine .of_cons ?_ (hne (by decide)) fun rest steps hstops _ ↦ ?_
  · simp [isBlank, hne]
  · have hword : readWord? (c :: (cs ++ rest)) = none := by
      simp [readWord?, words, (hne _).symm]
    have hnumber : readNumber? (c :: (cs ++ rest)) = some (.number n 0, rest) := by
      unfold readNumber?
      split
      · next heq => exact absurd (List.cons.inj heq).1 (hne (by decide))
      · rw [← List.cons_append, ← hcs]
        exact readMagnitude?_toDigits false n hstops
    rw [readValue?_cons (by simp [isBlank, hne]), if_neg (hne (by decide)),
      if_neg (hne (by decide)), if_neg (hne (by decide)), hword, hnumber]
    rfl

/-- The opposite of a natural number is read from a sign and the digits. -/
theorem reads_minus_toDigits (n : Nat) : Reads ('-' :: Nat.toDigits 10 n) (.number (-n) 0) := by
  refine .of_cons (by decide) (by decide) fun rest steps hstops _ ↦ ?_
  rw [readValue?_cons (by decide)]
  exact readMagnitude?_toDigits true n hstops

/-! ### Arrays and objects -/

private theorem join_cons_cons (a b : List Char) (l : List (List Char)) :
    List.intercalate [','] (a :: b :: l) = a ++ ',' :: List.intercalate [','] (b :: l) := by
  rw [List.intercalate_cons_cons, List.append_assoc, List.singleton_append]

private theorem exists_join_eq_cons (c : Char) (cs : List Char) (texts : List (List Char)) :
    ∃ cs', List.intercalate [','] ((c :: cs) :: texts) = c :: cs' := by
  cases texts with
  | nil => exact ⟨cs, List.intercalate_singleton⟩
  | cons next texts => exact ⟨_, join_cons_cons ..⟩

/-- Each part is read with one step: behind a comma others follow, and none behind the closing
character. -/
private structure ReadsParts {α : Type} (readParts? : Nat → List Char → Option (List α × List Char))
    (ReadsPart : List Char → α → Prop) (close : Char) : Prop where
  /-- A part is read with those that follow. -/
  next {text : List Char} {a : α} {steps : Nat} (rest : List Char) (h : ReadsPart text a)
    (hsteps : text.length ≤ steps) : readParts? (steps + 1) (text ++ ',' :: rest) =
      (readParts? steps rest).map fun r ↦ (a :: r.1, r.2)
  /-- The last part is read up to the closing character. -/
  last {text : List Char} {a : α} {steps : Nat} (rest : List Char) (h : ReadsPart text a)
    (hsteps : text.length ≤ steps) :
    readParts? (steps + 1) (text ++ close :: rest) = some ([a], rest)

private theorem ReadsParts.read_join {α : Type} {close : Char}
    {readParts? : Nat → List Char → Option (List α × List Char)} {ReadsPart : List Char → α → Prop}
    (hparts : ReadsParts readParts? ReadsPart close) {texts : List (List Char)} {as : List α}
    (h : List.Forall₂ ReadsPart texts as) (hne : texts ≠ [])
    (hsteps : (List.intercalate [','] texts).length < steps) (rest : List Char) :
    readParts? steps (List.intercalate [','] texts ++ close :: rest) = some (as, rest) := by
  induction h generalizing steps with
  | nil => exact absurd rfl hne
  | cons htext h ih =>
    obtain ⟨steps, rfl⟩ := Nat.exists_eq_add_one_of_ne_zero (Nat.ne_zero_of_lt hsteps)
    cases h with
    | nil =>
      rw [List.intercalate_singleton] at hsteps ⊢
      exact hparts.last rest htext (Nat.le_of_lt_succ hsteps)
    | cons _ _ =>
      rw [join_cons_cons, List.length_append, List.length_cons] at hsteps
      rw [join_cons_cons, List.append_assoc, List.cons_append, hparts.next _ htext (by omega),
        ih (List.cons_ne_nil _ _) (by omega)]
      rfl

private theorem stops_cons (hc : c ∈ [',', ']', '\x7d']) : Stops (c :: cs) := by
  rintro d ⟨⟩
  simp only [List.mem_cons, List.not_mem_nil, or_false] at hc
  rcases hc with rfl | rfl | rfl <;> decide

private theorem Reads.readItems? {j : Json} (h : Reads text j) (hrest : Stops rest)
    (hsteps : text.length ≤ steps) : readItems? (steps + 1) (text ++ rest) =
      match skipBlanks rest with
      | ',' :: rest => (Json.readItems? steps rest).map fun r ↦ (j :: r.1, r.2)
      | ']' :: rest => some ([j], rest)
      | _ => none := by
  rw [Json.readItems?, h.read rest steps hrest hsteps]

private theorem readsParts_items : ReadsParts Json.readItems? Reads ']' where
  next _ h hsteps := h.readItems? (stops_cons (by decide)) hsteps
  last _ h hsteps := h.readItems? (stops_cons (by decide)) hsteps

private theorem ReadsString.readName? {s : String} (h : ReadsString text s.toList) :
    readName? ('"' :: (text ++ ':' :: rest)) = some (s, rest) := by
  simp only [Json.readName?, skipBlanks_cons (show isBlank '"' = false by decide),
    h (':' :: rest), skipBlanks_cons (show isBlank ':' = false by decide), String.ofList_toList]

private theorem ReadsEntry.readEntries? {e : String × Json} (h : ReadsEntry text e)
    (hrest : Stops rest) (hsteps : text.length ≤ steps) :
    readEntries? (steps + 1) (text ++ rest) =
      match skipBlanks rest with
      | ',' :: rest => (Json.readEntries? steps rest).map fun r ↦ (e :: r.1, r.2)
      | '\x7d' :: rest => some ([e], rest)
      | _ => none := by
  obtain ⟨name, value, rfl, hname, hvalue⟩ := h
  have hlength : value.length ≤ steps := by
    simp only [List.length_cons, List.length_append] at hsteps
    omega
  rw [List.cons_append, List.append_assoc, List.cons_append, Json.readEntries?]
  simp only [hname.readName?, hvalue.read rest steps hrest hlength]

private theorem readsParts_entries : ReadsParts Json.readEntries? ReadsEntry '\x7d' where
  next _ h hsteps := h.readEntries? (stops_cons (by decide)) hsteps
  last _ h hsteps := h.readEntries? (stops_cons (by decide)) hsteps

/-- Texts with commas between them are an array in brackets. -/
theorem Reads.array {texts : List (List Char)} {js : List Json}
    (h : List.Forall₂ Reads texts js) :
    Reads ('[' :: (List.intercalate [','] texts ++ [']'])) (.array js) := by
  refine .of_cons (by decide) (by decide) fun rest steps _ hsteps ↦ ?_
  rw [readValue?_cons (by decide), if_neg (by decide), if_pos rfl, List.append_assoc,
    List.singleton_append]
  cases h with
  | nil => rfl
  | cons htext hrest =>
    have hread := readsParts_items.read_join (.cons htext hrest) (List.cons_ne_nil _ _)
      (by rwa [List.length_append, List.length_singleton, Nat.add_one_le_iff] at hsteps) rest
    -- The bracket of an empty array does not stand where an item begins.
    obtain ⟨c, cs, rfl, hc, hclose⟩ := htext.begins
    obtain ⟨cs', hjoin⟩ := exists_join_eq_cons c cs _
    rw [hjoin, List.cons_append] at hread ⊢
    rw [skipBlanks_cons hc, if_neg (by simpa using hclose), hread]
    rfl

/-- Entries with commas between them are an object in braces. -/
theorem Reads.object {texts : List (List Char)} {es : List (String × Json)}
    (h : List.Forall₂ ReadsEntry texts es) :
    Reads ('\x7b' :: (List.intercalate [','] texts ++ ['\x7d'])) (.object es) := by
  refine .of_cons (by decide) (by decide) fun rest steps _ hsteps ↦ ?_
  rw [readValue?_cons (by decide), if_neg (by decide), if_neg (by decide), if_pos rfl,
    List.append_assoc, List.singleton_append]
  cases h with
  | nil => rfl
  | cons htext hrest =>
    have hread := readsParts_entries.read_join (.cons htext hrest) (List.cons_ne_nil _ _)
      (by rwa [List.length_append, List.length_singleton, Nat.add_one_le_iff] at hsteps) rest
    obtain ⟨name, value, rfl, -, -⟩ := htext
    obtain ⟨cs', hjoin⟩ := exists_join_eq_cons '"' (name ++ ':' :: value) _
    rw [hjoin, List.cons_append] at hread ⊢
    rw [skipBlanks_cons (by decide), if_neg (by simp), hread]
    rfl

end

/-- A text that is read as data wherever it stands is JSON. -/
theorem Reads.read? {text : List Char} {j : Json} (h : Reads text j) : read? text = some j := by
  have hread := h.read [] text.length (by rintro c ⟨⟩) (Nat.le_refl _)
  rw [List.append_nil] at hread
  rw [Json.read?, hread]
  rfl

/-- Digits stand behind a zero only if there is a point in between. -/
example : read? [' ', '[', '0', '.', '1', '5', ']'] = some (.array [.number 15 (-2)]) ∧
    (read? ['[', '0', '1', '5', ']']).isNone := ⟨rfl, by decide⟩

end Json

end Stencil
