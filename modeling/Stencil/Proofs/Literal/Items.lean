import Stencil.Proofs.Scanning

/-!
# What a string literal is made of

Between its quotes a string literal is a row of items: plain characters, escapes and doubled quotes.
The scanner goes through them one by one, and so does whoever reads the literal, but for one case:
an escaped quote directly in front of a doubled one. There the first two quotes in the row are taken
for the doubled one, and the backslash in front of them is read as a character of its own.
-/

namespace Stencil

namespace Text

/-! ### Replacing -/

private theorem piecesFrom_ne_nil (sep : List Char) (skip : Nat) (s : List Char) :
    piecesFrom sep skip s ≠ [] := by
  induction s generalizing skip with
  | nil => simp [piecesFrom]
  | cons c cs ih =>
    cases skip with
    | succ skip => exact ih skip
    | zero =>
      rw [piecesFrom]
      split
      · simp
      · obtain ⟨p, ps, hps⟩ := List.exists_cons_of_ne_nil (ih 0)
        simp [hps, consHead]

/-- A character at which no separator begins stays. -/
theorem replaceAll_cons {sep : List Char} (new : List Char) {c : Char} {cs : List Char}
    (hsep : sep ≠ []) (h : sep.isPrefixOf (c :: cs) = false) :
    replaceAll sep new (c :: cs) = c :: replaceAll sep new cs := by
  obtain ⟨p, ps, hps⟩ := List.exists_cons_of_ne_nil (piecesFrom_ne_nil sep 0 cs)
  have hpieces : ¬sep.isEmpty := by simpa using hsep
  rw [replaceAll, replaceAll, pieces, pieces, if_neg hpieces, if_neg hpieces, piecesFrom, h, hps]
  cases ps <;> simp [consHead, List.intercalate]

/-- A doubled character in front is replaced. -/
theorem replaceAll_doubled (q : Char) (new cs : List Char) :
    replaceAll [q, q] new (q :: q :: cs) = new ++ replaceAll [q, q] new cs := by
  obtain ⟨p, ps, hps⟩ := List.exists_cons_of_ne_nil (piecesFrom_ne_nil [q, q] 0 cs)
  have hprefix : [q, q].isPrefixOf (q :: q :: cs) = true := by simp
  have hpieces : piecesFrom [q, q] 0 (q :: q :: cs) = [] :: piecesFrom [q, q] 0 cs := by
    rw [piecesFrom, if_pos hprefix]
    rfl
  rw [replaceAll, replaceAll, pieces, pieces, hpieces, hps]
  simp [List.intercalate]

private theorem replaceAll_single {q c : Char} (new : List Char) {cs : List Char}
    (h : c ≠ q ∨ cs.head? ≠ some q) :
    replaceAll [q, q] new (c :: cs) = c :: replaceAll [q, q] new cs := by
  refine replaceAll_cons new (by simp) ?_
  cases cs with
  | nil => simp [List.isPrefixOf]
  | cons d ds =>
    simp only [List.head?_cons, ne_eq, Option.some.injEq] at h
    simp only [List.isPrefixOf, Bool.and_true, Bool.and_eq_false_iff, beq_eq_false_iff_ne]
    exact h.imp (fun hc ↦ Ne.symm hc) fun hd ↦ Ne.symm hd

/-! ### Items -/

/-- An item between two quotes `q`. -/
inductive LiteralItem (q : Char) where
  /-- A character without a meaning of its own. -/
  | plain (c : Char) (hbackslash : c ≠ '\\') (hquote : c ≠ q)
  /-- A character behind a backslash. -/
  | escape (c : Char) (hunit : c ≠ 'u')
  /-- A doubled quote. -/
  | doubled

namespace LiteralItem

variable {q : Char}

/-- The item as it is written. -/
def source : LiteralItem q → List Char
  | .plain c _ _ => [c]
  | .escape c _ => ['\\', c]
  | .doubled => [q, q]

/-- The character that the item stands for. -/
def char : LiteralItem q → Char
  | .plain c _ _ => c
  | .escape c _ => escapedChar c
  | .doubled => q

/-- Whether the items are an escaped quote and a doubled one. -/
def slips : LiteralItem q → LiteralItem q → Bool
  | .escape c _, .doubled => c == q
  | _, _ => false

/-- What the items are read as. -/
def reading : List (LiteralItem q) → List Char
  | [] => []
  | i :: is => (if is.head?.any i.slips then ['\\'] else []) ++ i.char :: reading is

end LiteralItem

/-- The items between quotes. -/
def literal (q : Char) (items : List (LiteralItem q)) : List Char :=
  q :: items.flatMap LiteralItem.source ++ [q]

variable {q : Char}

/-- An escape other than a code unit is one character. -/
theorem unescapeAfter_escaped {c : Char} (hc : c ≠ 'u') (cs : List Char) :
    unescapeAfter none ('\\' :: c :: cs) = (unescapeAfter none cs).map (escapedChar c :: ·) := by
  rw [unescapeAfter.eq_def]
  simp [hc]

/-- A character that is no backslash stands for itself. -/
theorem unescapeAfter_plain {c : Char} (hc : c ≠ '\\') (cs : List Char) :
    unescapeAfter none (c :: cs) = (unescapeAfter none cs).map (c :: ·) := by
  rw [unescapeAfter.eq_def]
  simp [hc]

private theorem quote_facts (hq : isQuote q = true) : q ≠ '\\' ∧ q ≠ 'u' ∧ escapedChar q = q := by
  simp only [isQuote, Bool.or_eq_true, beq_iff_eq] at hq
  rcases hq with rfl | rfl <;> decide

/-- What is read once the escaped quotes stand in place of the doubled ones. -/
private def decoded (q : Char) (s : List Char) : Option (List Char) :=
  unescape? (replaceAll [q, q] ['\\', q] s)

private theorem decoded_plain {c : Char} {s : List Char} (hc : c ≠ '\\')
    (h : c ≠ q ∨ s.head? ≠ some q) : decoded q (c :: s) = (decoded q s).map (c :: ·) := by
  rw [decoded, replaceAll_single _ h, unescape?, unescapeAfter_plain hc]
  rfl

private theorem decoded_escape {c : Char} {s : List Char} (hq : q ≠ '\\') (hc : c ≠ 'u')
    (h : c ≠ q ∨ s.head? ≠ some q) :
    decoded q ('\\' :: c :: s) = (decoded q s).map (escapedChar c :: ·) := by
  rw [decoded, replaceAll_single _ (.inl hq.symm), replaceAll_single _ h, unescape?,
    unescapeAfter_escaped hc]
  rfl

private theorem decoded_doubled (hq : q ≠ 'u') (s : List Char) :
    decoded q (q :: q :: s) = (decoded q s).map (escapedChar q :: ·) := by
  rw [decoded, replaceAll_doubled]
  exact unescapeAfter_escaped hq _

-- A backslash in front of three quotes is taken for escaped, as the quote behind it is escaped
-- again.
private theorem decoded_slip (hq : isQuote q = true) (s : List Char) :
    decoded q ('\\' :: q :: q :: q :: s) = (decoded q (q :: s)).map (['\\', q] ++ ·) := by
  obtain ⟨hbackslash, -, -⟩ := quote_facts hq
  rw [decoded, replaceAll_single _ (.inl hbackslash.symm), replaceAll_doubled]
  change unescapeAfter none ('\\' :: '\\' :: q :: replaceAll [q, q] ['\\', q] (q :: s)) = _
  rw [unescapeAfter_escaped (by decide), unescapeAfter_plain hbackslash, Option.map_map]
  rfl

private theorem reading_cons {i : LiteralItem q} {is : List (LiteralItem q)}
    (h : ∀ j ∈ is.head?, i.slips j = false) :
    LiteralItem.reading (i :: is) = i.char :: LiteralItem.reading is := by
  cases is with
  | nil => rfl
  | cons j is => simp [LiteralItem.reading, h j rfl]

-- Behind an escape the items begin with a quote only if they begin with a doubled one, and only an
-- escaped quote slips there.
private theorem escape_cases (hq : q ≠ '\\') {c : Char} (hc : c ≠ 'u') (is : List (LiteralItem q)) :
    (c ≠ q ∨ (is.flatMap LiteralItem.source).head? ≠ some q) ∧
        (∀ j ∈ is.head?, (LiteralItem.escape c hc).slips j = false) ∨
      ∃ is', c = q ∧ is = .doubled :: is' := by
  match is with
  | [] => exact .inl ⟨.inr (by simp), by simp⟩
  | .plain d _ hd :: _ =>
    exact .inl ⟨.inr (by simpa [LiteralItem.source] using hd), by simp [LiteralItem.slips]⟩
  | .escape _ _ :: _ =>
    exact .inl ⟨.inr (by simpa [LiteralItem.source] using hq.symm), by simp [LiteralItem.slips]⟩
  | .doubled :: is' =>
    by_cases hcq : c = q
    · exact .inr ⟨is', hcq, rfl⟩
    · exact .inl ⟨.inl hcq, by simpa [LiteralItem.slips] using hcq⟩

mutual

private theorem decoded_items (hq : isQuote q = true) : ∀ items : List (LiteralItem q),
    decoded q (items.flatMap LiteralItem.source) = some (LiteralItem.reading items)
  | [] => rfl
  | .plain c hc hcq :: is => by
    rw [List.flatMap_cons, LiteralItem.source, List.singleton_append, decoded_plain hc (.inl hcq),
      decoded_items hq is, reading_cons fun _ _ ↦ rfl]
    rfl
  | .doubled :: is => by
    obtain ⟨-, hunit, hescaped⟩ := quote_facts hq
    rw [List.flatMap_cons, LiteralItem.source, List.cons_append, List.singleton_append,
      decoded_doubled hunit, decoded_items hq is, hescaped, reading_cons fun _ _ ↦ rfl]
    rfl
  | .escape c hc :: is => by
    obtain ⟨hbackslash, -, hescaped⟩ := quote_facts hq
    rcases escape_cases hbackslash hc is with ⟨hdirect, hslips⟩ | ⟨is', hcq, rfl⟩
    · rw [List.flatMap_cons, LiteralItem.source, List.cons_append, List.singleton_append,
        decoded_escape hbackslash hc hdirect, decoded_items hq is, reading_cons hslips]
      rfl
    · obtain rfl := hcq.symm
      have hread := decoded_slip hq (is'.flatMap LiteralItem.source)
      rw [decoded_quote_items hq is'] at hread
      rw [LiteralItem.reading, reading_cons (i := .doubled) fun _ _ ↦ rfl]
      simpa [LiteralItem.source, LiteralItem.slips, LiteralItem.char, hescaped] using hread

private theorem decoded_quote_items (hq : isQuote q = true) : ∀ items : List (LiteralItem q),
    decoded q (q :: items.flatMap LiteralItem.source) = some (q :: LiteralItem.reading items)
  | [] => by
    rw [List.flatMap_nil, decoded_plain (quote_facts hq).1 (.inr (by simp))]
    rfl
  | .plain c hc hcq :: is => by
    rw [decoded_plain (quote_facts hq).1 (.inr (by simpa [LiteralItem.source] using hcq)),
      decoded_items hq (.plain c hc hcq :: is)]
    rfl
  | .escape c hc :: is => by
    obtain ⟨hbackslash, -, -⟩ := quote_facts hq
    rw [decoded_plain hbackslash (.inr (by simpa [LiteralItem.source] using hbackslash.symm)),
      decoded_items hq (.escape c hc :: is)]
    rfl
  | .doubled :: is => by
    obtain ⟨-, hunit, hescaped⟩ := quote_facts hq
    have hdoubled := decoded_doubled hunit (q :: is.flatMap LiteralItem.source)
    rw [decoded_quote_items hq is, hescaped] at hdoubled
    cases is <;> exact hdoubled

end

/-- A literal is read item by item. -/
theorem readLiteral_literal (hq : isQuote q = true) (items : List (LiteralItem q)) :
    readLiteral (literal q items) = .ok (String.ofList (LiteralItem.reading items)) := by
  have hread := decoded_items hq items
  rw [decoded] at hread
  rw [literal, List.cons_append, readLiteral]
  simp [hq, hread]

/-- Items are read as what they stand for exactly if none of them slips. -/
theorem reading_eq_map_char (hq : isQuote q = true) (items : List (LiteralItem q)) :
    LiteralItem.reading items = items.map LiteralItem.char ↔
      items.IsChain fun i j ↦ i.slips j = false := by
  obtain ⟨hbackslash, -, hescaped⟩ := quote_facts hq
  induction items with
  | nil => simp [LiteralItem.reading]
  | cons i items ih =>
    cases items with
    | nil => simp [LiteralItem.reading]
    | cons j is =>
      rw [List.isChain_cons_cons]
      cases hslips : i.slips j with
      | false =>
        rw [reading_cons (by simpa using hslips), List.map_cons, List.cons.injEq, ih]
        simp
      | true =>
        have hchar : i.char = q := by
          match i, j with
          | .escape c _, .doubled =>
            obtain rfl : c = q := by simpa [LiteralItem.slips] using hslips
            exact hescaped
        simp [LiteralItem.reading, hslips, hchar, hbackslash.symm]

/-- Where no quote is doubled nothing slips. -/
theorem isChain_of_doubled_notMem {items : List (LiteralItem q)} (h : .doubled ∉ items) :
    items.IsChain fun i j ↦ i.slips j = false := by
  refine (List.pairwise_of_forall_mem_list fun i _ j hj ↦ ?_).isChain
  match i, j with
  | .escape _ _, .doubled => exact absurd hj h
  | .escape _ _, .plain .. | .escape _ _, .escape .. => rfl
  | .plain .., _ | .doubled, _ => rfl

end Text

/-! ### Scanning a literal -/

namespace Scanner

open Text

variable {q : Char} {s : Scanner} {fs : List Fragment}

private theorem foldl_step_items (hq : q ≠ '\\') (items : List (LiteralItem q))
    (hs : s.mode = .string q false) :
    (items.flatMap LiteralItem.source).foldl Scanner.step s =
      { s with pending := (items.flatMap LiteralItem.source).reverse ++ s.pending } := by
  induction items generalizing s with
  | nil => rfl
  | cons i is ih =>
    have hitem : i.source.foldl Scanner.step s =
        { s with pending := i.source.reverse ++ s.pending } := by
      cases i with
      | plain c hc hcq => simp [LiteralItem.source, Scanner.step, hs, extend, hc, hcq]
      | escape c _ => simp [LiteralItem.source, Scanner.step, hs, extend]
      | doubled => simp [LiteralItem.source, Scanner.step, hs, extend, hq]
    rw [List.flatMap_cons, List.foldl_append, hitem, ih]
    · simp
    · exact hs

/-- At the end of a literal the scanner has seen nothing but the literal. -/
theorem Rests.foldl_step_literal (h : Rests s fs) (hq : isQuote q = true)
    (items : List (LiteralItem q)) :
    (literal q items).foldl Scanner.step s =
      { s with pending := (literal q items).reverse, mode := .afterQuote q } := by
  have hbackslash : q ≠ '\\' := (quote_facts hq).1
  have hopen : s.step q = s.extend q (.string q false) := by
    rw [Scanner.step, h.mode]
    simp [stepWords, hq, flushWord_of_pending h.pending]
  rw [literal, List.cons_append, List.foldl_cons, hopen, List.foldl_append,
    foldl_step_items hbackslash items rfl]
  simp [Scanner.step, extend, h.pending, hbackslash]

end Scanner

/-! ### Literals as sources -/

namespace Text

/-- A string literal is a single fragment, and its items are read from first to last. They are read
as what they stand for exactly if no escaped quote stands directly in front of a doubled one; in
front of each that does a backslash is read that nobody has written. -/
theorem scan_readLiteral_literal {q : Char} (hq : isQuote q = true) (items : List (LiteralItem q)) :
    Fragment.scan (literal q items) = [⟨literal q items, .str⟩] ∧
      readLiteral (literal q items) = .ok (String.ofList (LiteralItem.reading items)) ∧
      (readLiteral (literal q items) = .ok (String.ofList (items.map LiteralItem.char)) ↔
        items.IsChain fun i j ↦ i.slips j = false) := by
  refine ⟨?_, readLiteral_literal hq items, ?_⟩
  · rw [Fragment.scan, Scanner.rests_empty.foldl_step_literal hq, Scanner.finish]
    simp [Scanner.close, Scanner.pushWord]
  · rw [readLiteral_literal hq, ← reading_eq_map_char hq, Except.ok.injEq, String.ofList_inj]

/-- Plain characters, a doubled quote and an escape. -/
theorem scan_readLiteral_literal_mixed :
    isQuote '\'' = true ∧
      readLiteral "'it''s\\n'".toList = .ok "it's\n" := by
  have hread := (scan_readLiteral_literal (q := '\'') rfl
    [.plain 'i' (by decide) (by decide), .plain 't' (by decide) (by decide), .doubled,
      .plain 's' (by decide) (by decide), .escape 'n' (by decide)]).2.1
  exact ⟨rfl, hread⟩

/-- An escaped quote in front of a doubled one is read with its backslash. -/
theorem readLiteral_literal_slip :
    let items : List (LiteralItem '\'') := [.escape '\'' (by decide), .doubled]
    literal '\'' items = "'\\''''".toList ∧
      items.map LiteralItem.char = "''".toList ∧
      readLiteral (literal '\'' items) = .ok "\\''" ∧
      readLiteral (literal '\'' items) ≠ .ok (String.ofList (items.map LiteralItem.char)) := by
  intro items
  have hread : readLiteral (literal '\'' items) = .ok "\\''" := rfl
  refine ⟨rfl, rfl, hread, ?_⟩
  rw [hread]
  simp [items, LiteralItem.char, escapedChar]

end Text

end Stencil
