/-!
# Markup entities

Escaping for markup writes six characters as entities and every other character as itself. The
escaped text holds none of the characters that open or close tags and attribute values.
-/

namespace Stencil.Text

/-- The entity of a character that may not stand for itself in markup. -/
def entity? (c : Char) : Option (List Char) :=
  match c with
  | '<' => some ['&', 'l', 't', ';']
  | '>' => some ['&', 'g', 't', ';']
  | '&' => some ['&', 'a', 'm', 'p', ';']
  | '"' => some ['&', 'q', 'u', 'o', 't', ';']
  | '\'' => some ['&', '#', 'x', '2', '7', ';']
  | '/' => some ['&', '#', 'x', '2', 'f', ';']
  | _ => none

/-- One character as it is written into markup. -/
def markupChar (c : Char) : List Char := (entity? c).getD [c]

/-- The text with every markup character replaced by its entity. -/
def escapeMarkup (s : List Char) : List Char := s.flatMap markupChar

/-- A text is escaped piece by piece. -/
theorem escapeMarkup_append (s t : List Char) :
    escapeMarkup (s ++ t) = escapeMarkup s ++ escapeMarkup t := List.flatMap_append

private theorem ne_of_mem_markupChar {c d : Char} (h : d ∈ markupChar c) :
    d ≠ '<' ∧ d ≠ '>' ∧ d ≠ '"' ∧ d ≠ '\'' ∧ d ≠ '/' := by
  unfold markupChar entity? at h
  split at h
  case h_7 hlt hgt _ hdouble hsingle hslash =>
    rw [Option.getD_none, List.mem_singleton] at h
    subst h
    exact ⟨hlt, hgt, hdouble, hsingle, hslash⟩
  all_goals
    simp only [Option.getD_some, List.mem_cons, List.not_mem_nil, or_false] at h
    rcases h with rfl | rfl | rfl | rfl | rfl | rfl <;> decide

/-- No character of an escaped text opens or closes a tag or a value. -/
theorem ne_of_mem_escapeMarkup {s : List Char} {d : Char} (h : d ∈ escapeMarkup s) :
    d ≠ '<' ∧ d ≠ '>' ∧ d ≠ '"' ∧ d ≠ '\'' ∧ d ≠ '/' := by
  obtain ⟨c, -, hd⟩ := List.mem_flatMap.mp h
  exact ne_of_mem_markupChar hd

end Stencil.Text
