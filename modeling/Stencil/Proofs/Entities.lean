import Mathlib.Logic.Function.Basic
import Stencil.Proofs.Bytes
import Stencil.Text.Entity

/-!
# Reading entities

Escaping a text for markup can be undone. The ampersand is escaped itself, so what looks like an
entity in the text is no entity any more once it is escaped, and entities that are replaced from
left to right give the text back. The same text is written by one pass over the bytes, which copies
those between the characters that are replaced: it never cuts a character, whose invariant is that
the bytes in front of `start` have been written and those behind it hold nothing to replace.
Main statement: `escapeMarkup_invertible`.
-/

namespace Stencil.Text

/-! ### The pass over the bytes -/

/-- A pass over the bytes of a text. -/
structure MarkupPass where
  /-- The bytes in front of this position have been written. -/
  start : Nat
  /-- The position of the next character. -/
  next : Nat
  /-- What has been written. -/
  out : List Char

/-- What has not been written yet, of which there may be nothing. -/
def MarkupPass.run? (bs : List UInt8) (p : MarkupPass) : Option (List Char) :=
  if p.start < p.next then slice? bs p.start p.next else some []

/-- Goes past one character. An entity takes the place of one byte, and what has not been written
yet is copied in front of it. -/
def MarkupPass.step? (bs : List UInt8) (p : MarkupPass) (c : Char) : Option MarkupPass :=
  match entity? c with
  | none => some { p with next := p.next + c.utf8Size }
  | some entity => do
    let run ← p.run? bs
    return ⟨p.next + 1, p.next + c.utf8Size, p.out ++ run ++ entity⟩

/-- The text with entities, as one pass over its bytes writes it. -/
def escapeRuns? (s : List Char) : Option (List Char) := do
  let p ← s.foldlM (MarkupPass.step? (bytes s)) ⟨0, 0, []⟩
  let run ← slice? (bytes s) p.start (bytes s).length
  return p.out ++ run

/-- The pass has written the text `written`, behind which stands `run` without anything to
replace. -/
structure MarkupPass.Stands (p : MarkupPass) (written run : List Char) : Prop where
  /-- The text that has been written ends where the pass goes on. -/
  start : p.start = (bytes written).length
  /-- The run ends in front of the next character. -/
  next : p.next = (bytes (written ++ run)).length
  /-- The text has been written with entities. -/
  out : p.out = escapeMarkup written
  /-- The characters of the run stand for themselves. -/
  run : escapeMarkup run = run

private theorem length_bytes_snoc (s : List Char) (c : Char) :
    (bytes (s ++ [c])).length = (bytes s).length + c.utf8Size := by
  rw [bytes_append, bytes_singleton, List.length_append, String.length_utf8EncodeChar]

private theorem escapeMarkup_singleton (c : Char) :
    escapeMarkup [c] = (entity? c).getD [c] := List.flatMap_singleton _ c

private theorem utf8Size_of_entity? {c : Char} {entity : List Char} (h : entity? c = some entity) :
    c.utf8Size = 1 := by
  unfold entity? at h
  split at h <;> first | rfl | cases h

private theorem MarkupPass.Stands.run? {p : MarkupPass} {written run : List Char}
    (h : p.Stands written run) (back : List Char) :
    p.run? (bytes (written ++ run ++ back)) = some run := by
  rw [MarkupPass.run?]
  split
  · rw [h.start, h.next, slice?_bytes]
  · next hge =>
    rw [h.start, h.next, bytes_append, List.length_append] at hge
    have hnil : bytes run = bytes [] := List.length_eq_zero_iff.mp (by omega)
    rw [← ofBytes?_bytes run, hnil, ofBytes?_bytes]

private theorem MarkupPass.Stands.step? {p : MarkupPass} {written run : List Char}
    (h : p.Stands written run) (c : Char) (rest : List Char) :
    ∃ p' written' run', p.step? (bytes (written ++ run ++ c :: rest)) c = some p' ∧
      written' ++ run' = written ++ run ++ [c] ∧ p'.Stands written' run' := by
  rw [MarkupPass.step?]
  cases hc : entity? c with
  | none =>
    refine ⟨_, written, run ++ [c], rfl, by rw [List.append_assoc], h.start, ?_, h.out, ?_⟩
    · rw [← List.append_assoc, length_bytes_snoc, h.next]
    · rw [escapeMarkup_append, h.run, escapeMarkup_singleton, hc, Option.getD_none]
  | some entity =>
    have hnext : p.next + 1 = (bytes (written ++ run ++ [c])).length := by
      rw [length_bytes_snoc, h.next, utf8Size_of_entity? hc]
    simp only [h.run?, Option.bind_eq_bind, Option.bind_some, utf8Size_of_entity? hc]
    refine ⟨_, written ++ run ++ [c], [], rfl, by rw [List.append_nil], hnext, ?_, ?_, rfl⟩
    · rw [List.append_nil]
      exact hnext
    · rw [escapeMarkup_append, escapeMarkup_append, escapeMarkup_singleton, hc, h.run, h.out,
        Option.getD_some]

private theorem MarkupPass.Stands.foldlM {p : MarkupPass} {written run : List Char}
    (h : p.Stands written run) (rest : List Char) :
    ∃ p' written' run',
      rest.foldlM (MarkupPass.step? (bytes (written ++ run ++ rest))) p = some p' ∧
        written' ++ run' = written ++ run ++ rest ∧ p'.Stands written' run' := by
  induction rest generalizing p written run with
  | nil => exact ⟨p, written, run, rfl, by rw [List.append_nil], h⟩
  | cons c rest ih =>
    obtain ⟨p', written', run', hstep, htext, h'⟩ := h.step? c rest
    have hrest : written' ++ run' ++ rest = written ++ run ++ c :: rest := by
      rw [htext, List.append_assoc, List.singleton_append]
    obtain ⟨q, written'', run'', hfold, htext', hq⟩ := ih h'
    rw [hrest] at hfold htext'
    refine ⟨q, written'', run'', ?_, htext', hq⟩
    rw [List.foldlM_cons, hstep]
    exact hfold

/-- The pass never cuts a character, and writes each character as itself or as its entity. -/
theorem escapeRuns?_eq (s : List Char) : escapeRuns? s = some (escapeMarkup s) := by
  have hinit : MarkupPass.Stands ⟨0, 0, []⟩ [] [] := ⟨rfl, rfl, rfl, rfl⟩
  obtain ⟨p, written, run, hfold, htext, h⟩ := hinit.foldlM s
  simp only [List.nil_append] at hfold htext
  have hslice : slice? (bytes s) p.start (bytes s).length = some run := by
    have := slice?_bytes written run []
    rwa [List.append_nil, htext, ← h.start] at this
  rw [escapeRuns?, hfold]
  simp only [Option.bind_eq_bind, Option.bind_some, hslice, h.out]
  rw [← htext, escapeMarkup_append, h.run]
  rfl

/-! ### Replacing entities -/

/-- The text with every entity replaced by its character, from left to right. -/
def unescapeMarkup : List Char → List Char
  | [] => []
  | '&' :: 'l' :: 't' :: ';' :: s => '<' :: unescapeMarkup s
  | '&' :: 'g' :: 't' :: ';' :: s => '>' :: unescapeMarkup s
  | '&' :: 'a' :: 'm' :: 'p' :: ';' :: s => '&' :: unescapeMarkup s
  | '&' :: 'q' :: 'u' :: 'o' :: 't' :: ';' :: s => '"' :: unescapeMarkup s
  | '&' :: '#' :: 'x' :: '2' :: '7' :: ';' :: s => '\'' :: unescapeMarkup s
  | '&' :: '#' :: 'x' :: '2' :: 'f' :: ';' :: s => '/' :: unescapeMarkup s
  | c :: s => c :: unescapeMarkup s

private theorem unescapeMarkup_cons {c : Char} (h : c ≠ '&') (s : List Char) :
    unescapeMarkup (c :: s) = c :: unescapeMarkup s := by
  simp [unescapeMarkup, h]

private theorem unescapeMarkup_markupChar (c : Char) (s : List Char) :
    unescapeMarkup (markupChar c ++ s) = c :: unescapeMarkup s := by
  unfold markupChar entity?
  split
  case h_7 _ _ hne _ _ _ => exact unescapeMarkup_cons hne s
  all_goals rfl

/-- Entities that are replaced give the text back. -/
theorem unescapeMarkup_escapeMarkup (s : List Char) : unescapeMarkup (escapeMarkup s) = s := by
  induction s with
  | nil => rfl
  | cons c s ih =>
    rw [escapeMarkup, List.flatMap_cons, unescapeMarkup_markupChar]
    exact congrArg (c :: ·) ih

/-- A text is escaped by writing the six characters of markup as their entities and all others as
themselves, in one pass over its bytes. None of the characters that open or close tags and values
is left. Entities that are replaced from left to right give the text back, so that different texts
are escaped differently, and a text is escaped piece by piece. -/
theorem escapeMarkup_invertible (s : List Char) :
    escapeMarkup s = s.flatMap (fun c ↦ (entity? c).getD [c]) ∧
      escapeRuns? s = some (s.flatMap fun c ↦ (entity? c).getD [c]) ∧
      ('<' ∉ escapeMarkup s ∧ '>' ∉ escapeMarkup s ∧ '"' ∉ escapeMarkup s ∧
        '\'' ∉ escapeMarkup s ∧ '/' ∉ escapeMarkup s) ∧
      unescapeMarkup (escapeMarkup s) = s ∧
      (∀ t, escapeMarkup s = escapeMarkup t ↔ s = t) ∧
      ∀ t, escapeMarkup (s ++ t) = escapeMarkup s ++ escapeMarkup t := by
  refine ⟨rfl, escapeRuns?_eq s, ⟨?_, ?_, ?_, ?_, ?_⟩, unescapeMarkup_escapeMarkup s, fun t ↦ ?_,
    escapeMarkup_append s⟩
  · exact fun h ↦ (ne_of_mem_escapeMarkup h).1 rfl
  · exact fun h ↦ (ne_of_mem_escapeMarkup h).2.1 rfl
  · exact fun h ↦ (ne_of_mem_escapeMarkup h).2.2.1 rfl
  · exact fun h ↦ (ne_of_mem_escapeMarkup h).2.2.2.1 rfl
  · exact fun h ↦ (ne_of_mem_escapeMarkup h).2.2.2.2 rfl
  · have hinverse : Function.LeftInverse unescapeMarkup escapeMarkup := unescapeMarkup_escapeMarkup
    exact hinverse.injective.eq_iff

end Stencil.Text
