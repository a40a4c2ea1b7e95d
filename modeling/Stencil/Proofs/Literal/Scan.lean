import Stencil.Proofs.Literal
import Stencil.Proofs.Scanning

/-!
# Scanning literals

A literal is scanned into the fragments that it is made of, whatever stands in front of it. Words
and strings are complete only when the character behind them has been seen, so that what is said of
a part of a literal includes the character that ends it.
-/

namespace Stencil

/-- The characters that end a part of a literal. -/
inductive Delimiter : Char → Prop where
  /-- Another part follows. -/
  | comma : Delimiter ','
  /-- The parts of a sequence end. -/
  | bracket : Delimiter ']'
  /-- The parts of a map end. -/
  | brace : Delimiter '\x7d'

namespace Scanner

/-! ### Between fragments -/

/-- Neither a comma nor a minus sign would make the last fragment longer. -/
def Opens (s : Scanner) : Prop := s.continues ',' = false ∧ s.continues '-' = false

variable {s : Scanner} {fs : List Fragment}

/-- The operator characters in literals. -/
def symbols : List Char := ['[', ']', '\x7b', '\x7d', ',', ':', ' ', '-']

/-- The operator characters in literals end words, and none of them begins anything else. -/
theorem stepWords_symbol {c : Char} (hc : c ∈ symbols) (s : Scanner) :
    s.stepWords c = s.flushWord.pushSymbol c := by
  simp only [symbols, List.mem_cons, List.not_mem_nil, or_false] at hc
  rcases hc with rfl | rfl | rfl | rfl | rfl | rfl | rfl | rfl <;> rfl

/-- Between fragments an operator character is complete at once. -/
theorem Rests.step (h : Rests s fs) {c : Char} (hc : c ∈ symbols) (hcolon : c ≠ ':')
    (hlast : s.continues c = false) : Rests (s.step c) (fs ++ [.ofOperator c]) := by
  have hstep : s.step c = s.appendOperator [c] := by
    rw [Scanner.step, h.mode]
    change s.stepWords c = _
    rw [stepWords_symbol hc, flushWord_of_pending h.pending, pushSymbol_eq hcolon hlast]
  rw [hstep]
  exact h.appendOperator [c]

private theorem mem_symbols {d : Char} (h : Delimiter d) : d ∈ symbols ∧ d ≠ ':' := by
  cases h <;> decide

/-! ### Words -/

/-- A word in a literal: its characters end no word, and it is a literal itself. -/
structure IsWord (w : List Char) : Prop where
  /-- There is a character. -/
  nonempty : w ≠ []
  /-- No character is a quote. -/
  unquoted : ∀ c ∈ w, Text.isQuote c = false
  /-- No character is one of operators. -/
  joined : ∀ c ∈ w, isOperatorChar c = false
  /-- The word is no operator. -/
  named : w ≠ "not".toList ∧ w ≠ "or".toList ∧ w ≠ "and".toList
  /-- The word is a literal. -/
  literal : classify w = .literal

/-- A word is complete when the character behind it has been seen. -/
theorem Rests.word (h : Rests s fs) {w : List Char} (hw : IsWord w) {d : Char}
    (hd : d ∈ symbols) (hcolon : d ≠ ':') :
    Rests ((w ++ [d]).foldl Scanner.step s) (fs ++ [⟨w, .literal⟩] ++ [.ofOperator d]) := by
  rw [List.foldl_append, foldl_step_word hw.unquoted hw.joined h.mode, h.pending,
    List.append_nil]
  change Rests (Scanner.stepWords _ d) _
  rw [stepWords_symbol hd, flushWord_of_word rfl hw.nonempty hw.named, hw.literal]
  have hpush : Rests _ _ :=
    .pushWord (s := { s with pending := w.reverse, mode := .words }) h.fragments w .literal
  rw [pushSymbol_eq hcolon (hpush.continues d)]
  exact hpush.appendOperator [d]

/-- A word at the end of the source is complete there. -/
theorem Rests.finish_word (h : Rests s fs) {w : List Char} (hw : IsWord w) :
    (w.foldl Scanner.step s).finish.fragments.toList = fs ++ [⟨w, .literal⟩] := by
  rw [foldl_step_word hw.unquoted hw.joined h.mode, h.pending, List.append_nil]
  change (Scanner.flushWord _).fragments.toList = _
  rw [flushWord_of_word rfl hw.nonempty hw.named, hw.literal, toList_pushWord, h.fragments]

/-! ### Strings -/

-- A string does not become the key of a map, as it is one in its own right.
private theorem markKey_pushWord (s : Scanner) (text : List Char) :
    (s.pushWord text .str).markKey = s.pushWord text .str := by
  have hsame : (s.fragments.push ⟨text, .str⟩).modify s.fragments.size (fun f ↦
      if f.kind == .path then { f with kind := .objectKey } else f) =
        s.fragments.push ⟨text, .str⟩ := by
    apply Array.ext
    · simp
    · intro i _ hi
      rw [Array.getElem_modify]
      split
      · next h => simp [← h]
      · rfl
  rw [markKey, Scanner.pushWord]
  simp only [hsame]

private theorem pushSymbol_pushWord (s : Scanner) (text : List Char) (c : Char) :
    (s.pushWord text .str).pushSymbol c = (s.pushWord text .str).appendOperator [c] := by
  have hcontinues : (s.pushWord text .str).continues c = false := by
    rw [(Rests.pushWord rfl text .str).continues c]
    rfl
  rw [pushSymbol, hcontinues, markKey_pushWord, ite_self]
  rfl

private theorem step_afterQuote {d : Char} (hd : d ∈ symbols) (hs : s.mode = .afterQuote '\'') :
    s.step d = (s.pushWord s.pending.reverse .str).appendOperator [d] := by
  have hquote : (d == '\'') = false := by
    simp only [symbols, List.mem_cons, List.not_mem_nil, or_false] at hd
    rcases hd with rfl | rfl | rfl | rfl | rfl | rfl | rfl | rfl <;> rfl
  rw [Scanner.step, hs]
  simp only [hquote, Bool.false_eq_true, ↓reduceIte]
  rw [stepWords_symbol hd, ← pushSymbol_pushWord]
  rfl

/-- A string is complete when the character behind it has been seen. -/
theorem Rests.string (h : Rests s fs) (t : List Char) {d : Char} (hd : d ∈ symbols) :
    Rests ((Text.singleQuoted t ++ [d]).foldl Scanner.step s)
      (fs ++ [⟨Text.singleQuoted t, .str⟩] ++ [.ofOperator d]) := by
  have hend : (Text.singleQuoted t).foldl Scanner.step s =
      { s with pending := (Text.singleQuoted t).reverse, mode := .afterQuote '\'' } := by
    obtain ⟨items, hliteral, -⟩ := Text.exists_singleQuoted_eq_literal t
    rw [hliteral]
    exact h.foldl_step_literal rfl items
  rw [List.foldl_append, hend, List.foldl_cons, List.foldl_nil, step_afterQuote hd rfl,
    List.reverse_reverse]
  exact (Rests.pushWord h.fragments _ .str).appendOperator [d]

/-! ### Parts of literals -/

/-- Behind anything that opens, the text is scanned into the fragments, which are complete when one
of the characters has been seen that end a part of a literal. -/
def Spells (cs : List Char) (gs : List Fragment) : Prop :=
  ∀ s fs, Rests s fs → Opens s → ∀ d, Delimiter d →
    Rests ((cs ++ [d]).foldl Scanner.step s) (fs ++ gs ++ [.ofOperator d])

/-- The text is scanned into the fragments, which are complete at its end. -/
def Settles (cs : List Char) (gs : List Fragment) : Prop :=
  ∀ s fs, Rests s fs → Rests (cs.foldl Scanner.step s) (fs ++ gs)

/-- Nothing is scanned into nothing. -/
theorem spells_nil : Spells [] [] := by
  intro s fs h hopens d hd
  have hlast : s.continues d = false := by
    cases hd with
    | comma => exact hopens.1
    | bracket => exact continues_of_isBracket (by decide) s
    | brace => exact continues_of_isBracket (by decide) s
  rw [List.append_nil]
  exact h.step (mem_symbols hd).1 (mem_symbols hd).2 hlast

/-- A word is a fragment. -/
theorem spells_word {w : List Char} (hw : IsWord w) : Spells w [⟨w, .literal⟩] := by
  intro s fs h _ d hd
  exact h.word hw (mem_symbols hd).1 (mem_symbols hd).2

/-- A quoted text is a fragment. -/
theorem spells_string (t : List Char) :
    Spells (Text.singleQuoted t) [⟨Text.singleQuoted t, .str⟩] := by
  intro s fs h _ d hd
  exact h.string t (mem_symbols hd).1

/-- A minus sign in front of a word is a fragment of its own. -/
theorem spells_minus {w : List Char} (hw : IsWord w) :
    Spells ('-' :: w) [.ofOperator '-', ⟨w, .literal⟩] := by
  intro s fs h hopens d hd
  have hminus := h.step (c := '-') (by decide) (by decide) hopens.2
  have hword := hminus.word hw (mem_symbols hd).1 (mem_symbols hd).2
  simpa using hword

private theorem Rests.space {c : Char} (h : Rests s (fs ++ [.ofOperator c])) (hc : c ≠ ' ') :
    Rests (s.step ' ') (fs ++ [.ofOperator c] ++ [.ofOperator ' ']) ∧ Opens (s.step ' ') := by
  have hlast : s.continues ' ' = false := by
    rw [h.continues]
    simp [Fragment.ofOperator, hc]
  have hstep := h.step (c := ' ') (by decide) (by decide) hlast
  refine ⟨hstep, ?_, ?_⟩ <;> rw [hstep.continues] <;> rfl

/-- Between texts a comma and a space are fragments of their own. -/
theorem Spells.comma {cs cs' : List Char} {gs gs' : List Fragment} (h : Spells cs gs)
    (h' : Spells cs' gs') :
    Spells (cs ++ [',', ' '] ++ cs') (gs ++ [.ofOperator ',', .ofOperator ' '] ++ gs') := by
  intro s fs hs hopens d hd
  obtain ⟨hspace, hopens'⟩ := (h s fs hs hopens ',' .comma).space (by decide)
  have hrest := h' _ _ hspace hopens' d hd
  simpa using hrest

/-- Behind a quoted key a colon and a space are fragments of their own. -/
theorem Spells.colon {cs : List Char} {gs : List Fragment} (key : List Char) (h : Spells cs gs) :
    Spells (Text.singleQuoted key ++ [':', ' '] ++ cs)
      ([⟨Text.singleQuoted key, .str⟩, .ofOperator ':', .ofOperator ' '] ++ gs) := by
  intro s fs hs _ d hd
  obtain ⟨hspace, hopens⟩ := (hs.string key (d := ':') (by decide)).space (by decide)
  have hrest := h _ _ hspace hopens d hd
  simpa using hrest

/-- Brackets are complete as soon as they are closed. -/
theorem Spells.enclosed {cs : List Char} {gs : List Fragment} (h : Spells cs gs) {l r : Char}
    (hl : l = '[' ∨ l = '\x7b') (hr : r = ']' ∨ r = '\x7d') :
    Settles (l :: cs ++ [r]) (.ofOperator l :: gs ++ [.ofOperator r]) := by
  intro s fs hs
  have hopen : Rests (s.step l) (fs ++ [.ofOperator l]) ∧ Opens (s.step l) := by
    have hstep : Rests (s.step l) (fs ++ [.ofOperator l]) := by
      rcases hl with rfl | rfl <;>
        exact hs.step (by decide) (by decide) (continues_of_isBracket (by decide) s)
    refine ⟨hstep, ?_, ?_⟩ <;> rw [hstep.continues] <;> rcases hl with rfl | rfl <;> rfl
  have hdelimiter : Delimiter r := by
    rcases hr with rfl | rfl
    · exact .bracket
    · exact .brace
  have hclose := h _ _ hopen.1 hopen.2 r hdelimiter
  simpa using hclose

/-- A text that settles with its last bracket spells its fragments. -/
theorem Settles.spells {cs : List Char} {gs : List Fragment} {r : Char}
    (hr : r = ']' ∨ r = '\x7d') (h : Settles cs (gs ++ [.ofOperator r])) :
    Spells cs (gs ++ [.ofOperator r]) := by
  intro s fs hs _ d hd
  have hend := h s fs hs
  rw [← List.append_assoc] at hend ⊢
  have hlast : (cs.foldl Scanner.step s).continues d = false := by
    rw [hend.continues]
    rcases hr with rfl | rfl <;> cases hd <;> rfl
  rw [List.foldl_append]
  exact hend.step (mem_symbols hd).1 (mem_symbols hd).2 hlast

/-- What is complete at the end of the source is all there is. -/
theorem Settles.scan {cs : List Char} {gs : List Fragment} (h : Settles cs gs) :
    Fragment.scan cs = gs := by
  have hend := h {} [] rests_empty
  have hfinish : (cs.foldl Scanner.step {}).finish = cs.foldl Scanner.step {} := by
    rw [finish, hend.mode]
    exact flushWord_of_pending hend.pending
  rw [Fragment.scan, hfinish, hend.fragments, List.nil_append]

/-- A word is scanned into itself. -/
theorem scan_word {w : List Char} (hw : IsWord w) : Fragment.scan w = [⟨w, .literal⟩] :=
  rests_empty.finish_word hw

/-- A word behind a minus sign is scanned apart from it. -/
theorem scan_minus {w : List Char} (hw : IsWord w) :
    Fragment.scan ('-' :: w) = [.ofOperator '-', ⟨w, .literal⟩] :=
  (rests_empty.step (c := '-') (by decide) (by decide) rfl).finish_word hw

end Scanner

end Stencil
