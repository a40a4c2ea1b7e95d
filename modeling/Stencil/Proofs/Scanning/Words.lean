import Mathlib.Data.List.TakeWhile
import Stencil.Proofs.Scanning.Invariant

/-!
# Words among fragments

What a scan makes of each kind of text it makes of all its fragments. In particular a literal or a
path among the fragments of a source is one by its text, a key is a path by its text, and few
characters may stand in them.
-/

namespace Stencil

/-! ### Characters of words -/

/-- A character is the one at which a text is split, or stands in a piece. -/
theorem mem_splitAtChar (sep : Char) {c : Char} {s : List Char} (h : c ∈ s) :
    c = sep ∨ ∃ piece ∈ Text.splitAtChar sep s, c ∈ piece := by
  induction s with
  | nil => cases h
  | cons d ds ih =>
    rw [Text.splitAtChar]
    by_cases hd : d = sep
    · rw [if_pos hd]
      rcases List.mem_cons.mp h with rfl | h
      · exact .inl hd
      · refine (ih h).imp_right ?_
        rintro ⟨piece, hpiece, hc⟩
        exact ⟨piece, .tail _ hpiece, hc⟩
    · rw [if_neg hd]
      cases hpieces : Text.splitAtChar sep ds with
      | nil =>
        rcases List.mem_cons.mp h with rfl | h
        · exact .inr ⟨[c], List.mem_cons_self, List.mem_cons_self⟩
        · rcases ih h with h | ⟨piece, hpiece, -⟩
          · exact .inl h
          · rw [hpieces] at hpiece
            cases hpiece
      | cons p ps =>
        rw [hpieces] at ih
        rcases List.mem_cons.mp h with rfl | h
        · exact .inr ⟨c :: p, List.mem_cons_self, List.mem_cons_self⟩
        · refine (ih h).imp_right ?_
          rintro ⟨piece, hpiece, hc⟩
          rcases List.mem_cons.mp hpiece with rfl | hpiece
          · exact ⟨d :: piece, List.mem_cons_self, .tail _ hc⟩
          · exact ⟨piece, .tail _ hpiece, hc⟩

private theorem isDigit_of_isDigits {s : List Char} (h : isDigits s = true) :
    ∀ c ∈ s, c.isDigit = true := by
  simp only [isDigits, Bool.and_eq_true, List.all_eq_true] at h
  exact h.2

private theorem ne_point_of_isDigits {s : List Char} (h : isDigits s = true) :
    ∀ c ∈ s, (c != '.') = true := by
  intro c hc
  have hdigit := isDigit_of_isDigits h c hc
  rw [bne_iff_ne]
  rintro rfl
  cases hdigit

/-- A number is made of digits, with a point between them perhaps. -/
theorem isNumber_iff {s : List Char} : isNumber s = true ↔
    isDigits s = true ∨ ∃ whole fraction, isDigits whole = true ∧ isDigits fraction = true ∧
      s = whole ++ '.' :: fraction := by
  have hsplit := List.takeWhile_append_dropWhile (p := (· != '.')) (l := s)
  have hpoint := List.head?_dropWhile_not (· != '.') s
  have hdrop : s.drop (s.takeWhile (· != '.')).length = s.dropWhile (· != '.') := by
    simpa only [hsplit] using
      (List.drop_left : (s.takeWhile (· != '.') ++ s.dropWhile (· != '.')).drop _ = _)
  unfold isNumber
  dsimp only
  rw [hdrop]
  constructor
  · intro h
    generalize s.takeWhile (· != '.') = whole at *
    generalize s.dropWhile (· != '.') = behind at *
    subst hsplit
    cases behind with
    | nil => exact .inl (by simpa using h)
    | cons point fraction =>
      rw [Bool.and_eq_true] at h
      have hpoint : point = '.' := by simpa using hpoint
      exact .inr ⟨whole, fraction, h.1, h.2, by rw [hpoint]⟩
  · rintro (h | ⟨whole, fraction, hwhole, hfraction, rfl⟩)
    · have hall := ne_point_of_isDigits h
      rw [List.takeWhile_eq_self_iff.mpr hall, List.dropWhile_eq_nil_iff.mpr hall]
      exact h
    · have hall := ne_point_of_isDigits hwhole
      rw [List.takeWhile_append_of_pos hall, List.dropWhile_append_of_pos hall]
      simp [hwhole, hfraction]

/-- The characters of a number. -/
theorem isDigit_or_point_of_isNumber {s : List Char} (h : isNumber s = true) :
    ∀ c ∈ s, c.isDigit = true ∨ c = '.' := by
  rcases isNumber_iff.mp h with h | ⟨whole, fraction, hwhole, hfraction, rfl⟩
  · exact fun c hc ↦ .inl (isDigit_of_isDigits h c hc)
  · rw [List.forall_mem_append, List.forall_mem_cons]
    exact ⟨fun c hc ↦ .inl (isDigit_of_isDigits hwhole c hc), .inr rfl,
      fun c hc ↦ .inl (isDigit_of_isDigits hfraction c hc)⟩

/-- The characters of a path. -/
theorem isNameChar_or_mark_of_isPath {s : List Char} (h : isPath s = true) :
    ∀ c ∈ s, isNameChar c = true ∨ c ∈ ['.', '-', '\'', '"'] := by
  intro c hc
  rcases mem_splitAtChar '.' hc with rfl | ⟨piece, hpiece, hc⟩
  · exact .inr (by decide)
  · unfold isPath at h
    split at h
    · next hnil => simp [hnil] at hpiece
    · next root segments hcons =>
      simp only [Bool.and_eq_true, List.all_eq_true] at h
      rw [hcons] at hpiece
      rcases List.mem_cons.mp hpiece with rfl | hpiece
      · exact .inl (h.1.2 c hc)
      · have hsegment := h.2 piece hpiece
        simp only [isSegment, Bool.and_eq_true, List.all_eq_true, Bool.or_eq_true, beq_iff_eq]
          at hsegment
        rcases hsegment.2 c hc with ((hc | rfl) | rfl) | rfl
        · exact .inl hc
        all_goals exact .inr (by decide)

/-- No slash is in a path. -/
theorem slash_notMem_of_isPath {s : List Char} (h : isPath s = true) : '/' ∉ s := by
  intro hmem
  rcases isNameChar_or_mark_of_isPath h '/' hmem with h | h
  · cases h
  · revert h
    decide

/-- A path begins with a character of a name. -/
theorem exists_head_of_isPath {w : List Char} (h : isPath w = true) :
    ∃ c cs, w = c :: cs ∧ isNameChar c = true := by
  unfold isPath at h
  cases w with
  | nil => cases h
  | cons c cs =>
    refine ⟨c, cs, rfl, ?_⟩
    rw [Text.splitAtChar] at h
    split at h
    · cases h
    · next root segments hroot =>
      split at hroot
      · cases hroot
        cases h
      · cases hpieces : Text.splitAtChar '.' cs <;> rw [hpieces] at hroot <;> cases hroot
        all_goals
          simp only [Bool.and_eq_true, List.all_cons] at h
          exact h.1.2.1

/-- What makes a word a literal. -/
theorem isLiteral_of_classify {w : List Char} (h : classify w = .literal) : isLiteral w = true := by
  unfold classify at h
  split at h
  · assumption
  · split at h <;> cases h

/-- What makes a word a path. -/
theorem isPath_of_classify {w : List Char} (h : classify w = .path) :
    isLiteral w = false ∧ isPath w = true := by
  unfold classify at h
  split at h
  · cases h
  · next hliteral =>
    split at h
    · next hpath => exact ⟨Bool.eq_false_iff.mpr hliteral, hpath⟩
    · cases h

/-! ### What holds of all fragments -/

namespace Fragment

/-- Whether a property holds of whatever a scan adds, and stays where a path becomes a key. -/
structure Invariant (P : Fragment → Prop) : Prop where
  /-- It holds of words. -/
  word : ∀ text, P ⟨text, classify text⟩
  /-- It holds of strings, of strings without an end and of regular expressions. -/
  closed : ∀ text kind, kind ∈ [FragmentKind.str, .other, .regex] → P ⟨text, kind⟩
  /-- It holds of operators. -/
  operator : ∀ text, P ⟨text, .operator⟩
  /-- It stays where a path becomes a key. -/
  becomes : ∀ f g, f.Becomes g → P f → P g

/-- What holds of all that a scan adds holds of all fragments of a source. -/
theorem Invariant.forall_scan {P : Fragment → Prop} (hP : Invariant P) (source : List Char) :
    ∀ f ∈ scan source, P f := by
  have hclosed {kind : FragmentKind} (hkind : kind ∈ [FragmentKind.str, .other, .regex])
      (text : List Char) : P ⟨text, kind⟩ := hP.closed text kind hkind
  -- Nothing has to be known about what is pending.
  have hI : Scanner.Invariant P fun _ _ ↦ True := {
    nothing := trivial
    letter := fun _ _ _ _ _ ↦ trivial
    quote := fun _ _ ↦ trivial
    inString := fun _ _ _ _ _ ↦ trivial
    doubled := fun _ _ _ ↦ trivial
    slash := trivial
    inRegex := fun _ _ _ _ ↦ trivial
    flag := fun _ _ _ _ ↦ trivial
    word := fun text _ _ ↦ hP.word text
    string := fun _ text _ ↦ hclosed (by simp) text
    openString := fun _ _ text _ ↦ hclosed (by simp) text
    regex := fun text _ ↦ hclosed (by simp) text
    openRegex := fun _ text _ ↦ hclosed (by simp) text
    operator := fun c _ ↦ hP.operator [c]
    wordOperator := fun op _ ↦ hP.operator op
    longer := fun text c _ _ _ _ ↦ hP.operator (text ++ [c])
    becomes := hP.becomes }
  exact hI.scan source

/-- A literal or a path among fragments is one by its text. -/
theorem classify_text_of_mem_scan {source : List Char} {f : Fragment} (hf : f ∈ scan source)
    (hkind : f.kind = .literal ∨ f.kind = .path) : classify f.text = f.kind := by
  have hP : Invariant fun f ↦ f.kind = .literal ∨ f.kind = .path → classify f.text = f.kind := by
    refine ⟨fun text _ ↦ rfl, fun text kind hkind h ↦ ?_, fun text h ↦ ?_, fun f g hfg hf h ↦ ?_⟩
    · simp only [List.mem_cons, List.not_mem_nil, or_false] at hkind
      rcases hkind with rfl | rfl | rfl <;> rcases h with h | h <;> cases h
    · rcases h with h | h <;> cases h
    · rcases hfg.kind with hg | ⟨-, hg⟩
      · rw [hg] at h ⊢
        rw [hfg.text]
        exact hf h
      · rcases h with h | h <;> rw [hg] at h <;> cases h
  exact hP.forall_scan source f hf hkind

/-- A key among fragments is a path by its text. -/
theorem classify_text_of_objectKey {source : List Char} {f : Fragment} (hf : f ∈ scan source)
    (hkind : f.kind = .objectKey) : classify f.text = .path := by
  have hP : Invariant fun f ↦ f.kind = .path ∨ f.kind = .objectKey → classify f.text = .path := by
    refine ⟨fun text h ↦ ?_, fun text kind hkind h ↦ ?_, fun text h ↦ ?_, fun f g hfg hf h ↦ ?_⟩
    · exact h.resolve_right (classify_ne (by decide) text)
    · simp only [List.mem_cons, List.not_mem_nil, or_false] at hkind
      rcases hkind with rfl | rfl | rfl <;> rcases h with h | h <;> cases h
    · rcases h with h | h <;> cases h
    · rw [hfg.text]
      rcases hfg.kind with hg | ⟨hpath, -⟩
      · exact hf (hg ▸ h)
      · exact hf (.inl hpath)
  exact hP.forall_scan source f hf (.inr hkind)

end Fragment

end Stencil
