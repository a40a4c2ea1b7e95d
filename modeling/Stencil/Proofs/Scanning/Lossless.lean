import Stencil.Proofs.Scanning

/-!
# What scans keep

Every character of a source ends up in a fragment, apart from carriage returns, and the operators
that stand for words are all that is not in the source. A character that is part of no such word or
operator, and no blank, is kept whatever stands around it.
-/

namespace Stencil

open Fragment (Marked)

/-- What a fragment stands for in a source: the letter in front of a regular expression is no part
of its text. -/
def Fragment.source (f : Fragment) : List Char :=
  if f.kind == .regex then 'r' :: f.text else f.text

/-- A text without carriage returns and with spaces for tabs and line feeds. -/
def Text.spaced (s : List Char) : List Char :=
  (s.filter (· != '\r')).map fun c ↦ if c == '\n' || c == '\t' then ' ' else c

/-- The blanks of two texts in a row are replaced in each. -/
@[simp] theorem Text.spaced_append (s t : List Char) :
    Text.spaced (s ++ t) = Text.spaced s ++ Text.spaced t := by
  simp [Text.spaced]

/-- Whether the character is none of those that a scan may drop, add or put in place of others:
blanks, what the words for operators are made of, and what these words stand for. -/
def Text.isKept (c : Char) : Bool :=
  !(['\r', '\n', '\t', ' ', 'n', 'o', 't', 'r', 'a', 'd', '!', '|', '&'].contains c)

/-- Whether none of the words that stand for operators occurs in a text, be it inside of another
word. -/
structure Text.IsPlain (s : List Char) : Prop where
  /-- The word `not` does not occur. -/
  not : ¬"not".toList <:+: s
  /-- The word `or` does not occur. -/
  or : ¬"or".toList <:+: s
  /-- The word `and` does not occur. -/
  and : ¬"and".toList <:+: s

/-- A part of a plain text is plain. -/
theorem Text.IsPlain.of_infix {s t : List Char} (ht : Text.IsPlain t) (h : s <:+: t) :
    Text.IsPlain s :=
  ⟨fun hs ↦ ht.not (hs.trans h), fun hs ↦ ht.or (hs.trans h), fun hs ↦ ht.and (hs.trans h)⟩

private theorem Fragment.source_becomes {f g : Fragment} (h : f.Becomes g) :
    g.source = f.source := by
  unfold Fragment.source
  rcases h.kind with hg | ⟨hf, hg⟩
  · rw [hg, h.text]
  · rw [hf, hg, h.text]
    rfl

private theorem Fragment.flatMap_source_of_marked {fs gs : List Fragment} (h : Marked fs gs) :
    gs.flatMap Fragment.source = fs.flatMap Fragment.source := by
  rw [List.flatMap_def, List.flatMap_def, h.map_eq fun f g ↦ Fragment.source_becomes]

namespace Scanner

/-- What the complete fragments and the pending one stand for. -/
def written (s : Scanner) : List Char :=
  s.fragments.toList.flatMap Fragment.source ++
    match s.mode with
    | .regex _ | .flags => 'r' :: s.pending.reverse
    | _ => s.pending.reverse

/-- What is written is what has been scanned, and the pending word stands at its end. -/
structure Keeps (s : Scanner) (scanned : List Char) : Prop where
  /-- What is written is what has been scanned. -/
  written : Text.spaced s.written = Text.spaced scanned
  /-- The pending word stands at the end. -/
  word : s.mode = .words → s.pending.reverse <:+ scanned

variable {s : Scanner} {scanned : List Char}

private theorem written_of_words (hmode : s.mode = .words) :
    s.written = s.fragments.toList.flatMap Fragment.source ++ s.pending.reverse := by
  rw [Scanner.written, hmode]

private theorem written_close {kind : FragmentKind}
    (h : (⟨s.pending.reverse, kind⟩ : Fragment).source = (match s.mode with
      | .regex _ | .flags => 'r' :: s.pending.reverse
      | _ => s.pending.reverse)) : (s.close kind).written = s.written := by
  rw [close, written_of_words rfl, toList_pushWord, Scanner.written, ← h]
  simp [pushWord]

private theorem written_flushWord (hmode : s.mode = .words)
    (hword : Text.IsPlain s.pending.reverse) : s.flushWord.written = s.written := by
  rw [flushWord]
  split
  · rfl
  · split
    · next h => exact absurd (eq_of_beq h ▸ List.infix_rfl) hword.not
    · split
      · next h => exact absurd (eq_of_beq h ▸ List.infix_rfl) hword.or
      · split
        · next h => exact absurd (eq_of_beq h ▸ List.infix_rfl) hword.and
        · have hkind : classify s.pending.reverse ≠ .regex := classify_ne (by decide) _
          rw [written_of_words rfl, toList_pushWord, written_of_words hmode]
          simp [pushWord, Fragment.source, hkind]

private theorem written_pushSymbol (hmode : s.mode = .words) (hpending : s.pending = [])
    (c : Char) : (s.pushSymbol c).written = s.written ++ [c] := by
  rw [written_of_words (by simpa using hmode), written_of_words hmode, pending_pushSymbol, hpending]
  cases hc : s.continues c with
  | true =>
    obtain ⟨before, text, hs, -, -, hpush⟩ := toList_pushSymbol_of_continues hc
    simp [hs, hpush, Fragment.source]
  | false =>
    obtain ⟨gs, hgs, hpush⟩ := toList_pushSymbol_of_not_continues hc
    simp [hpush, Fragment.flatMap_source_of_marked hgs, Fragment.source]

private theorem spaced_written_pushOperatorChar (hmode : s.mode = .words)
    (hpending : s.pending = []) (c : Char) :
    Text.spaced (s.pushOperatorChar c).written = Text.spaced (s.written ++ [c]) := by
  rw [pushOperatorChar]
  split
  · next hc =>
    rw [eq_of_beq hc, Text.spaced_append]
    simp [Text.spaced]
  · split
    · next hc =>
      rw [written_pushSymbol hmode hpending, Text.spaced_append, Text.spaced_append]
      simp only [Bool.or_eq_true, beq_iff_eq] at hc
      rcases hc with rfl | rfl <;> rfl
    · rw [written_pushSymbol hmode hpending]

private theorem Keeps.stepWords (h : s.Keeps scanned) (hmode : s.mode = .words)
    (hplain : Text.IsPlain scanned) (c : Char) : (s.stepWords c).Keeps (scanned ++ [c]) := by
  have hword := h.word hmode
  have hflush := written_flushWord hmode (hplain.of_infix hword.isInfix)
  obtain ⟨hpending, hmode'⟩ := pending_flushWord hmode
  rw [Scanner.stepWords]
  split
  · refine ⟨?_, by simp [extend]⟩
    rw [Text.spaced_append, ← h.written, ← hflush, Scanner.written, Scanner.written, hmode',
      hpending]
    simp [extend, hpending]
  · split
    · refine ⟨?_, fun _ ↦ ?_⟩
      · rw [Text.spaced_append, ← h.written, Scanner.written, Scanner.written, hmode]
        simp [extend]
      · obtain ⟨before, rfl⟩ := hword
        exact ⟨before, by simp [extend]⟩
    · split
      · next hc =>
        simp only [Bool.and_eq_true, beq_iff_eq] at hc
        obtain ⟨rfl, hr⟩ := hc
        refine ⟨?_, by simp⟩
        rw [Text.spaced_append, ← h.written, ← Text.spaced_append, Scanner.written, Scanner.written,
          hmode, hr]
        simp
      · refine ⟨?_, fun _ ↦ ?_⟩
        · rw [spaced_written_pushOperatorChar hmode' hpending, hflush, Text.spaced_append,
            h.written, Text.spaced_append]
        · rw [pending_pushOperatorChar, hpending]
          exact List.nil_suffix

private theorem Keeps.close (h : s.Keeps scanned) {kind : FragmentKind}
    (hkind : (⟨s.pending.reverse, kind⟩ : Fragment).source = (match s.mode with
      | .regex _ | .flags => 'r' :: s.pending.reverse
      | _ => s.pending.reverse)) : (s.close kind).Keeps scanned := by
  refine ⟨?_, fun _ ↦ List.nil_suffix⟩
  rw [written_close hkind, h.written]

private theorem Keeps.extend (h : s.Keeps scanned) {mode : ScanMode} (hmode : mode ≠ .words)
    {c : Char} (hsame : (s.extend c mode).written = s.written ++ [c]) :
    (s.extend c mode).Keeps (scanned ++ [c]) := by
  refine ⟨?_, fun hwords ↦ absurd hwords hmode⟩
  rw [hsame, Text.spaced_append, h.written, Text.spaced_append]

private theorem Keeps.step (h : s.Keeps scanned) (hplain : Text.IsPlain scanned) (c : Char) :
    (s.step c).Keeps (scanned ++ [c]) := by
  rw [Scanner.step]
  split
  · next hmode => exact h.stepWords hmode hplain c
  · next q escaped hmode =>
    apply h.extend
    · repeat' split
      all_goals simp
    · rw [Scanner.written, Scanner.written, hmode]
      repeat' split
      all_goals simp_all [Scanner.extend]
  · next q hmode =>
    split
    · apply h.extend (by simp)
      rw [Scanner.written, Scanner.written, hmode]
      simp [Scanner.extend]
    · exact (h.close (by rw [hmode]; rfl)).stepWords rfl hplain c
  · next escaped hmode =>
    apply h.extend
    · split <;> simp
    · rw [Scanner.written, Scanner.written, hmode]
      split <;> simp_all [Scanner.extend]
  · next hmode =>
    split
    · apply h.extend (by simp)
      rw [Scanner.written, Scanner.written, hmode]
      simp [Scanner.extend]
    · exact (h.close (by rw [hmode]; rfl)).stepWords rfl hplain c

private theorem Keeps.foldl (h : s.Keeps scanned) {rest : List Char}
    (hplain : Text.IsPlain (scanned ++ rest)) :
    (rest.foldl Scanner.step s).Keeps (scanned ++ rest) := by
  induction rest generalizing s scanned with
  | nil => rwa [List.append_nil]
  | cons c cs ih =>
    have hstep := h.step (hplain.of_infix (List.prefix_append _ _).isInfix) c
    rw [List.append_cons] at hplain ⊢
    exact ih hstep hplain

private theorem Keeps.finish (h : s.Keeps scanned) (hplain : Text.IsPlain scanned) :
    Text.spaced (s.finish.fragments.toList.flatMap Fragment.source) = Text.spaced scanned := by
  have hclose {kind : FragmentKind} (h' : (s.close kind).Keeps scanned) :
      Text.spaced ((s.close kind).fragments.toList.flatMap Fragment.source) =
        Text.spaced scanned := by
    rw [← h'.written, written_of_words rfl]
    simp [Scanner.close, pushWord]
  rw [Scanner.finish]
  split
  · next hmode =>
    have hflush := written_flushWord hmode (hplain.of_infix (h.word hmode).isInfix)
    obtain ⟨hpending, hmode'⟩ := pending_flushWord hmode
    rw [← h.written, ← hflush, written_of_words hmode', hpending]
    simp
  · next hmode => exact hclose (h.close (by rw [hmode]; rfl))
  · next hmode => exact hclose (h.close (by rw [hmode]; rfl))
  · next hmode => exact hclose (h.close (by rw [hmode]; rfl))
  · next hmode => exact hclose (h.close (by rw [hmode]; rfl))

/-! ### Characters that are kept in any case -/

private theorem written_appendOperator (hmode : s.mode = .words) (hpending : s.pending = [])
    (op : List Char) : (s.appendOperator op).written = s.written ++ op := by
  rw [written_of_words (s := s.appendOperator op) hmode, written_of_words hmode,
    toList_appendOperator, hpending]
  simp [appendOperator, Fragment.source, hpending]

private theorem filter_written_flushWord (hmode : s.mode = .words) :
    s.flushWord.written.filter Text.isKept = s.written.filter Text.isKept := by
  have hwritten := written_of_words hmode
  have hempty : ({ s with pending := [] } : Scanner).written =
      s.fragments.toList.flatMap Fragment.source :=
    (written_of_words (s := { s with pending := [] }) hmode).trans (List.append_nil _)
  rw [flushWord]
  split
  · rfl
  · split
    · next hnot =>
      rw [written_pushSymbol (s := { s with pending := [] }) hmode rfl, hempty, hwritten,
        eq_of_beq hnot]
      simp [Text.isKept]
    · split
      · next hor =>
        rw [written_appendOperator (s := { s with pending := [] }) hmode rfl, hempty, hwritten,
          eq_of_beq hor]
        simp [Text.isKept]
      · split
        · next hand =>
          rw [written_appendOperator (s := { s with pending := [] }) hmode rfl, hempty, hwritten,
            eq_of_beq hand]
          simp [Text.isKept]
        · have hkind : classify s.pending.reverse ≠ .regex := classify_ne (by decide) _
          rw [written_of_words rfl, toList_pushWord, hwritten]
          simp [pushWord, Fragment.source, hkind]

private theorem filter_written_pushOperatorChar (hmode : s.mode = .words)
    (hpending : s.pending = []) (c : Char) :
    (s.pushOperatorChar c).written.filter Text.isKept =
      (s.written ++ [c]).filter Text.isKept := by
  rw [pushOperatorChar]
  split
  · next hc =>
    rw [eq_of_beq hc]
    simp [Text.isKept]
  · split
    · next hc =>
      rw [written_pushSymbol hmode hpending]
      simp only [Bool.or_eq_true, beq_iff_eq] at hc
      rcases hc with rfl | rfl <;> simp [Text.isKept]
    · rw [written_pushSymbol hmode hpending]

private theorem filter_written_stepWords (hmode : s.mode = .words) (c : Char) :
    (s.stepWords c).written.filter Text.isKept = (s.written ++ [c]).filter Text.isKept := by
  obtain ⟨hpending, hmode'⟩ := pending_flushWord hmode
  rw [Scanner.stepWords, List.filter_append]
  split
  · rw [← filter_written_flushWord hmode, Scanner.written, Scanner.written, hmode', hpending]
    simp [extend, hpending]
  · split
    · rw [Scanner.written, Scanner.written, hmode]
      simp [extend]
    · split
      · next hc =>
        simp only [Bool.and_eq_true, beq_iff_eq] at hc
        rw [Scanner.written, Scanner.written, hmode, hc.2, hc.1, ← List.filter_append]
        simp
      · rw [filter_written_pushOperatorChar hmode' hpending, List.filter_append,
          filter_written_flushWord hmode]

private theorem filter_written_step (s : Scanner) (c : Char) :
    (s.step c).written.filter Text.isKept = (s.written ++ [c]).filter Text.isKept := by
  rw [Scanner.step]
  split
  · next hmode => exact filter_written_stepWords hmode c
  · next q escaped hmode =>
    rw [Scanner.written, Scanner.written, hmode]
    repeat' split
    all_goals simp_all [Scanner.extend]
  · next q hmode =>
    split
    · rw [Scanner.written, Scanner.written, hmode]
      simp [Scanner.extend]
    · rw [filter_written_stepWords rfl, written_close (by rw [hmode]; rfl)]
  · next escaped hmode =>
    rw [Scanner.written, Scanner.written, hmode]
    split <;> simp_all [Scanner.extend]
  · next hmode =>
    split
    · rw [Scanner.written, Scanner.written, hmode]
      simp [Scanner.extend]
    · rw [filter_written_stepWords rfl, written_close (by rw [hmode]; rfl)]

private theorem filter_written_foldl (s : Scanner) (cs : List Char) :
    (cs.foldl Scanner.step s).written.filter Text.isKept =
      (s.written ++ cs).filter Text.isKept := by
  induction cs generalizing s with
  | nil => rw [List.foldl_nil, List.append_nil]
  | cons c cs ih =>
    rw [List.foldl_cons, ih, List.filter_append, filter_written_step, ← List.filter_append,
      List.append_assoc, List.singleton_append]

private theorem filter_written_finish (s : Scanner) :
    (s.finish.fragments.toList.flatMap Fragment.source).filter Text.isKept =
      s.written.filter Text.isKept := by
  have hclose {kind : FragmentKind} (h : (s.close kind).written = s.written) :
      ((s.close kind).fragments.toList.flatMap Fragment.source).filter Text.isKept =
        s.written.filter Text.isKept := by
    rw [← h, written_of_words rfl]
    simp [Scanner.close, pushWord]
  rw [Scanner.finish]
  split
  · next hmode =>
    obtain ⟨hpending, hmode'⟩ := pending_flushWord hmode
    rw [← filter_written_flushWord hmode, written_of_words hmode', hpending]
    simp
  · next hmode => exact hclose (written_close (by rw [hmode]; rfl))
  · next hmode => exact hclose (written_close (by rw [hmode]; rfl))
  · next hmode => exact hclose (written_close (by rw [hmode]; rfl))
  · next hmode => exact hclose (written_close (by rw [hmode]; rfl))

end Scanner

/-- Whatever the words of a source stand for, the fragments have its characters in their order, but
for those of which operators and spaces are made. -/
theorem Fragment.filter_flatMap_source_scan (source : List Char) :
    ((Fragment.scan source).flatMap Fragment.source).filter Text.isKept =
      source.filter Text.isKept := by
  rw [Fragment.scan, Scanner.filter_written_finish, Scanner.filter_written_foldl]
  rfl

/-- Scanning loses and invents nothing: the fragments of a source in which no word stands for an
operator make up the source again, up to carriage returns and to spaces for tabs and line feeds. -/
theorem Fragment.spaced_flatMap_source_scan {source : List Char} (hplain : Text.IsPlain source) :
    Text.spaced ((Fragment.scan source).flatMap Fragment.source) = Text.spaced source := by
  have hstart : Scanner.Keeps {} [] := ⟨rfl, fun _ ↦ List.nil_suffix⟩
  have hscan : Scanner.Keeps (source.foldl Scanner.step {}) source := hstart.foldl hplain
  exact hscan.finish hplain

/-- A source with strings, a regular expression and operators that are joined. -/
theorem Fragment.spaced_flatMap_source_scan_mixed :
    let source := "\x7ba: r/[/]\n/g,\t'it''s' \x7d ==\r= \"open".toList
    Text.IsPlain source ∧
      Text.spaced ((Fragment.scan source).flatMap Fragment.source) = Text.spaced source := by
  intro source
  have hplain : Text.IsPlain source := by constructor <;> decide +kernel
  exact ⟨hplain, Fragment.spaced_flatMap_source_scan hplain⟩

end Stencil
