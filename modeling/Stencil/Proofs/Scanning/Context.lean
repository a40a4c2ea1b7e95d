import Stencil.Proofs.Scanning.Runs

/-!
# Scanning behind other fragments

Behind other fragments a text is scanned as it is on its own, with all indices moved up. Two things
could come in between: the text may begin with characters that make the last operator in front
longer, and a colon in the text may mark a word in front as the key of a map. Whether they do can be
seen from the fragments that the text has on its own.
-/

namespace Stencil

open Fragment (Marked)

namespace Fragment

/-! ### How fragments grow -/

/-- What a scan does to fragments: paths become keys, the last operator becomes longer, and more
fragments are added. -/
inductive Grows : List Fragment → List Fragment → Prop where
  /-- Paths become keys. -/
  | marked {fs gs : List Fragment} (h : Marked fs gs) : Grows fs gs
  /-- The last operator becomes longer. -/
  | longer (before : List Fragment) (text : List Char) (c : Char) :
      Grows (before ++ [⟨text, .operator⟩]) (before ++ [⟨text ++ [c], .operator⟩])
  /-- A fragment is added. -/
  | added (fs : List Fragment) (f : Fragment) : Grows fs (fs ++ [f])
  /-- One after the other. -/
  | trans {fs gs hs : List Fragment} (h : Grows fs gs) (h' : Grows gs hs) : Grows fs hs

/-- Fragments may stay as they are. -/
theorem Grows.refl (fs : List Fragment) : Grows fs fs := .marked (.refl fs)

/-- Whether the first fragment is an operator that begins with the character. -/
def BeginsWith (op : Char) (fs : List Fragment) : Prop :=
  ∃ f, fs.head? = some f ∧ f.kind = .operator ∧ f.text.head? = some op

/-- Whether a colon stands behind no other operator, or behind an opening brace or a comma with no
word in between. -/
def HasStrayColon (fs : List Fragment) : Prop :=
  ∃ before f after, fs = before ++ f :: after ∧ f.kind = .operator ∧ f.text.head? = some ':' ∧
    ((∀ g ∈ before, g.isVisible = false) ∨
      ∃ front g spaces, before = front ++ g :: spaces ∧ (∀ f ∈ spaces, f.isSpace = true) ∧
        (g = .ofOperator '\x7b' ∨ g = .ofOperator ','))

/-- The first fragment keeps what does not depend on keys and on the ends of operators. -/
theorem Grows.exists_head {P : Fragment → Prop} (hkey : ∀ f g, Becomes f g → P f → P g)
    (hlonger : ∀ text c, P ⟨text, .operator⟩ → P ⟨text ++ [c], .operator⟩)
    {fs gs : List Fragment} (hgrows : Grows fs gs) (h : ∃ f, fs.head? = some f ∧ P f) :
    ∃ g, gs.head? = some g ∧ P g := by
  induction hgrows with
  | marked hmarked =>
    obtain ⟨f, hhead, hf⟩ := h
    cases hmarked with
    | nil => cases hhead
    | cons hfg _ =>
      cases hhead
      exact ⟨_, rfl, hkey _ _ hfg hf⟩
  | longer before text c =>
    obtain ⟨f, hhead, hf⟩ := h
    cases before with
    | nil =>
      cases hhead
      exact ⟨_, rfl, hlonger text c hf⟩
    | cons g before =>
      cases hhead
      exact ⟨_, rfl, hf⟩
  | added fs f =>
    obtain ⟨g, hhead, hg⟩ := h
    exact ⟨g, by rw [List.head?_append, hhead]; rfl, hg⟩
  | trans _ _ ih ih' => exact ih' (ih h)

/-- What fragments begin with does not change. -/
theorem BeginsWith.of_grows {op : Char} {fs gs : List Fragment} (h : BeginsWith op fs)
    (hgrows : Grows fs gs) : BeginsWith op gs := by
  refine hgrows.exists_head (fun f g hfg hf ↦ ?_) (fun text c hf ↦ ⟨rfl, ?_⟩) h
  · exact ⟨hfg.kind_eq_operator.mpr hf.1, hfg.text ▸ hf.2⟩
  · rw [List.head?_append, hf.2]
    rfl

/-- Fragments that have been marked fall into those that were the parts. -/
theorem Marked.exists_append {before after gs : List Fragment}
    (h : Marked (before ++ after) gs) :
    ∃ before' after', gs = before' ++ after' ∧ Marked before before' ∧ Marked after after' := by
  induction before generalizing gs with
  | nil => exact ⟨[], gs, rfl, .nil, h⟩
  | cons f before ih =>
    cases h with
    | cons hf h =>
      obtain ⟨before', after', rfl, hbefore, hafter⟩ := ih h
      exact ⟨_ :: before', after', rfl, .cons hf hbefore, hafter⟩

private theorem forall_mem_of_marked {p : Fragment → Bool} {b : Bool}
    (hp : ∀ f g, Becomes f g → p g = p f) {fs gs : List Fragment} (h : Marked fs gs)
    (hfs : ∀ f ∈ fs, p f = b) : ∀ g ∈ gs, p g = b :=
  h.forall_mem (fun f g hfg hf ↦ (hp f g hfg).trans hf) hfs

/-- Operators are not marked. -/
theorem Becomes.eq_ofOperator {f : Fragment} {c : Char} (h : Becomes (.ofOperator c) f) :
    f = .ofOperator c := by
  obtain ⟨text, kind⟩ := f
  obtain rfl : text = [c] := h.text
  obtain rfl : kind = .operator := h.kind_eq_operator.mpr rfl
  rfl

private theorem HasStrayColon.of_marked {fs gs : List Fragment} (h : HasStrayColon fs)
    (hmarked : Marked fs gs) : HasStrayColon gs := by
  obtain ⟨before, f, after, rfl, hkind, htext, hbefore⟩ := h
  obtain ⟨before', behind, rfl, hfront, hbehind⟩ := hmarked.exists_append
  cases hbehind with
  | cons hf _ =>
    refine ⟨before', _, _, rfl, hf.kind_eq_operator.mpr hkind, hf.text ▸ htext, ?_⟩
    refine hbefore.imp (forall_mem_of_marked (fun _ _ ↦ Becomes.isVisible) hfront) ?_
    rintro ⟨front, g, spaces, rfl, hspaces, hg⟩
    obtain ⟨front', rest, rfl, -, hrest⟩ := hfront.exists_append
    cases hrest with
    | cons hgg' hspaces' =>
      refine ⟨front', _, _, rfl,
        forall_mem_of_marked (fun _ _ ↦ Becomes.isSpace) hspaces' hspaces, ?_⟩
      rcases hg with rfl | rfl
      · exact .inl hgg'.eq_ofOperator
      · exact .inr hgg'.eq_ofOperator

/-- Fragments may be marked one after the other. -/
theorem Marked.trans {fs gs hs : List Fragment} (h : Marked fs gs) (h' : Marked gs hs) :
    Marked fs hs := by
  induction h generalizing hs with
  | nil => exact h'
  | cons hf _ ih =>
    cases h' with
    | cons hg hrest => exact .cons (hf.trans hg) (ih hrest)

/-- Fragments with more behind them are at most marked. -/
theorem Grows.exists_append {fs more gs : List Fragment} (h : Grows (fs ++ more) gs)
    (hmore : more ≠ []) : ∃ fs' more', gs = fs' ++ more' ∧ Marked fs fs' ∧ more' ≠ [] := by
  generalize hwhole : fs ++ more = whole at h
  induction h generalizing fs more with
  | marked hmarked =>
    subst hwhole
    obtain ⟨fs', more', rfl, hfs, hmore'⟩ := hmarked.exists_append
    refine ⟨fs', more', rfl, hfs, ?_⟩
    rintro rfl
    exact hmore (List.forall₂_nil_right_iff.mp hmore')
  | longer before text c =>
    obtain ⟨front, f, rfl⟩ := (List.eq_nil_or_concat' more).resolve_left hmore
    rw [← List.append_assoc] at hwhole
    obtain ⟨rfl, -⟩ := List.append_inj' hwhole rfl
    exact ⟨fs, front ++ [⟨text ++ [c], .operator⟩], by simp, .refl fs, by simp⟩
  | added _ f =>
    subst hwhole
    exact ⟨fs, more ++ [f], by simp, .refl fs, by simp⟩
  | trans _ _ ih ih' =>
    obtain ⟨fs', more', rfl, hfs, hmore'⟩ := ih hmore hwhole
    obtain ⟨fs'', more'', rfl, hfs', hmore''⟩ := ih' hmore' rfl
    exact ⟨fs'', more'', rfl, Marked.trans hfs hfs', hmore''⟩

/-- A colon stays where it is, and so do the fragments in front of it. -/
theorem HasStrayColon.of_grows {fs gs : List Fragment} (h : HasStrayColon fs)
    (hgrows : Grows fs gs) : HasStrayColon gs := by
  induction hgrows with
  | marked hmarked => exact h.of_marked hmarked
  | longer before text c =>
    obtain ⟨front, f, after, hfs, hkind, htext, hbefore⟩ := h
    rcases List.eq_nil_or_concat' after with rfl | ⟨after, g, rfl⟩
    · obtain ⟨rfl, hf⟩ := List.append_inj' hfs rfl
      cases hf
      refine ⟨_, _, [], rfl, rfl, ?_, hbefore⟩
      rw [List.head?_append, htext]
      rfl
    · rw [← List.cons_append, ← List.append_assoc] at hfs
      obtain ⟨rfl, -⟩ := List.append_inj' hfs rfl
      exact ⟨_, _, after ++ [⟨text ++ [c], .operator⟩], by simp, hkind, htext, hbefore⟩
  | added fs g =>
    obtain ⟨before, f, after, rfl, hkind, htext, hbefore⟩ := h
    exact ⟨before, f, after ++ [g], by simp, hkind, htext, hbefore⟩
  | trans _ _ ih ih' => exact ih' (ih h)

end Fragment

open Fragment (Grows BeginsWith HasStrayColon)

namespace Scanner

section

variable {s : Scanner}

private theorem grows_pushWord (s : Scanner) (text : List Char) (kind : FragmentKind) :
    Grows s.fragments.toList (s.pushWord text kind).fragments.toList := by
  rw [toList_pushWord]
  exact .added _ _

private theorem grows_pushSymbol (s : Scanner) (c : Char) :
    Grows s.fragments.toList (s.pushSymbol c).fragments.toList := by
  cases hc : s.continues c with
  | false =>
    obtain ⟨gs, hgs, hpush⟩ := toList_pushSymbol_of_not_continues hc
    rw [hpush]
    exact .trans (.marked hgs) (.added _ _)
  | true =>
    obtain ⟨before, text, hs, -, -, hpush⟩ := toList_pushSymbol_of_continues hc
    rw [hs, hpush]
    exact .longer _ _ _

/-- Adding a character of an operator makes the fragments grow. -/
theorem grows_pushOperatorChar (s : Scanner) (c : Char) :
    Grows s.fragments.toList (s.pushOperatorChar c).fragments.toList := by
  unfold Scanner.pushOperatorChar
  split
  · exact .refl _
  · split <;> exact grows_pushSymbol _ _

private theorem grows_flushWord (s : Scanner) :
    Grows s.fragments.toList s.flushWord.fragments.toList := by
  have hword (op : List Char) : Grows s.fragments.toList
      ({ s with pending := [] }.appendOperator op).fragments.toList := by
    rw [toList_appendOperator]
    exact .added _ _
  unfold Scanner.flushWord
  dsimp only
  split
  · exact .refl _
  · split
    · exact grows_pushSymbol { s with pending := [] } _
    · split
      · exact hword _
      · split
        · exact hword _
        · exact grows_pushWord _ _ _

/-- Scanning a character among words makes the fragments grow. -/
theorem grows_stepWords (s : Scanner) (c : Char) :
    Grows s.fragments.toList (s.stepWords c).fragments.toList := by
  unfold Scanner.stepWords
  split
  · exact grows_flushWord s
  · split
    · exact .refl _
    · split
      · exact .refl _
      · exact .trans (grows_flushWord s) (grows_pushOperatorChar _ c)

/-- A character lets the fragments grow. -/
theorem grows_step (s : Scanner) (c : Char) :
    Grows s.fragments.toList (s.step c).fragments.toList := by
  have hclose (kind : FragmentKind) :
      Grows s.fragments.toList ((s.close kind).stepWords c).fragments.toList :=
    .trans (grows_pushWord _ _ kind) (grows_stepWords _ c)
  unfold Scanner.step
  split
  · exact grows_stepWords s c
  · exact .refl _
  · split
    · exact .refl _
    · exact hclose _
  · exact .refl _
  · split
    · exact .refl _
    · exact hclose _

/-- A text lets the fragments grow. -/
theorem grows_foldl (s : Scanner) (cs : List Char) :
    Grows s.fragments.toList (cs.foldl Scanner.step s).fragments.toList := by
  induction cs generalizing s with
  | nil => exact .refl _
  | cons c cs ih => exact .trans (grows_step s c) (ih _)

/-- The end of a text lets the fragments grow. -/
theorem grows_finish (s : Scanner) : Grows s.fragments.toList s.finish.fragments.toList := by
  unfold Scanner.finish
  split
  · exact grows_flushWord s
  all_goals exact grows_pushWord _ _ _

end

/-! ### Scans behind others -/

/-- The scan `t` goes on behind the scan `ctx` as the scan `s` does on its own. -/
structure Behind (ctx s t : Scanner) : Prop where
  /-- Both are inside of the same. -/
  mode : t.mode = s.mode
  /-- The same is pending. -/
  pending : t.pending = s.pending
  /-- The fragments stand behind the others. -/
  fragments : t.fragments.toList = ctx.fragments.toList ++ s.fragments.toList
  /-- The last operator is the one in front unless there is one in the text. -/
  lastOperator :
    t.lastOperator = (s.lastOperator.map (ctx.fragments.size + ·)).or ctx.lastOperator
  /-- The last word is the one in front unless there is one in the text. -/
  lastWord : t.lastWord = (s.lastWord.map (ctx.fragments.size + ·)).or ctx.lastWord

/-- Whether the fragments do not touch those of a scan in front of them: they make no operator of it
longer, and no colon among them could mark a word of it. -/
structure Admits (ctx : Scanner) (fs : List Fragment) : Prop where
  /-- The first fragment does not make the last one in front longer. -/
  begins : ∀ op, ctx.continues op = true → ¬BeginsWith op fs
  /-- Where a colon could mark a word in front there is neither a word nor an operator. -/
  colons : HasStrayColon fs → ctx.lastOperator = none ∧ ctx.lastWord = none

private theorem Admits.of_grows {ctx : Scanner} {fs gs : List Fragment} (h : ctx.Admits gs)
    (hgrows : Grows fs gs) : ctx.Admits fs :=
  ⟨fun op hop hbegins ↦ h.begins op hop (hbegins.of_grows hgrows),
    fun hstray ↦ h.colons (hstray.of_grows hgrows)⟩

private theorem modify_append {α : Type} (f : α → α) (xs ys : List α) (i : Nat) :
    (xs ++ ys).modify (xs.length + i) f = xs ++ ys.modify i f := by
  induction xs with
  | nil => simp
  | cons x xs ih => simpa [Nat.add_right_comm _ 1 i] using ih

section

variable {ctx s t : Scanner}

private theorem Behind.size (h : Behind ctx s t) :
    t.fragments.size = ctx.fragments.size + s.fragments.size := by
  rw [← Array.length_toList, h.fragments, List.length_append, Array.length_toList,
    Array.length_toList]

private theorem hasStrayColon_pushSymbol (hs : s.Tidy) (hlast : s.continues ':' = false)
    (h : s.lastOperator = none ∨ s.startsEntry = true ∧ s.lastWord = none) :
    HasStrayColon (s.pushSymbol ':').fragments.toList := by
  obtain ⟨gs, hgs, hpush⟩ := toList_pushSymbol_of_not_continues hlast
  rw [hpush]
  have hmarked : Marked (s.fragments.toList ++ [.ofOperator ':']) (gs ++ [.ofOperator ':']) :=
    List.rel_append hgs (Fragment.Marked.refl _)
  refine HasStrayColon.of_grows ⟨s.fragments.toList, _, [], rfl, rfl, rfl, ?_⟩ (.marked hmarked)
  refine h.imp (fun hnone ↦ ?_) (fun hentry ↦ ?_)
  · have hoperators := hs.lastOperator
    rw [hnone] at hoperators
    exact hoperators
  · obtain ⟨hstarts, hnone⟩ := hentry
    have hwords := hs.lastWord
    rw [hnone] at hwords
    have hoperator := hs.lastOperator
    unfold Scanner.startsEntry at hstarts
    split at hstarts
    · next f hf =>
      obtain ⟨i, hi, hf⟩ := Option.bind_eq_some_iff.mp hf
      rw [hi] at hoperator
      obtain ⟨front, g, spaces, hfs, rfl, hg, hspaces⟩ := hoperator
      rw [← Array.getElem?_toList, hfs, List.getElem?_append_right (Nat.le_refl _),
        Nat.sub_self, List.getElem?_cons_zero] at hf
      cases hf
      refine ⟨front, _, spaces, hfs, fun f hf ↦ ?_, ?_⟩
      · have hword := hwords f (by rw [hfs]; simp [hf])
        have hvisible := hspaces f hf
        simp_all [Fragment.isWord, Fragment.isVisible]
      · obtain ⟨text, kind⟩ := f
        rw [Fragment.isVisible, Bool.and_eq_true] at hg
        obtain rfl : kind = .operator := eq_of_beq hg.1
        simpa [Fragment.ofOperator] using hstarts
    · cases hstarts

private theorem Behind.startsEntry (h : Behind ctx s t)
    (hnone : s.lastOperator = none → ctx.lastOperator = none) : t.startsEntry = s.startsEntry := by
  rw [Scanner.startsEntry, Scanner.startsEntry, h.lastOperator]
  cases hs : s.lastOperator with
  | none => rw [hnone hs]; rfl
  | some i =>
    have hget : t.fragments[ctx.fragments.size + i]? = s.fragments[i]? := by
      rw [← Array.getElem?_toList, ← Array.getElem?_toList, h.fragments, ← Array.length_toList,
        List.getElem?_append_right (Nat.le_add_right _ _), Nat.add_sub_cancel_left]
    simp only [Option.map_some, Option.some_or, Option.bind_some, hget]

private theorem Behind.markKey (h : Behind ctx s t)
    (hnone : s.lastWord = none → ctx.lastWord = none) : Behind ctx s.markKey t.markKey := by
  refine ⟨by simp [h.mode], by simp [h.pending], ?_, by simp [h.lastOperator],
    by simp [h.lastWord]⟩
  rw [toList_markKey, toList_markKey, h.lastWord, h.fragments]
  cases hs : s.lastWord with
  | none => rw [hnone hs]; rfl
  | some i =>
    rw [Option.map_some, Option.some_or, Option.elim_some, Option.elim_some,
      ← Array.length_toList, modify_append]

private theorem Behind.continues (h : Behind ctx s t) {c : Char}
    (hc : s.fragments.toList = [] → ctx.continues c = false) : t.continues c = s.continues c := by
  unfold Scanner.continues at hc ⊢
  rw [← Array.getLast?_toList] at hc
  rw [← Array.getLast?_toList, ← Array.getLast?_toList, h.fragments]
  cases hs : s.fragments.toList with
  | nil => rw [List.append_nil, hc hs]; rfl
  | cons f fs => simp [List.getLast?_append, List.getLast?_cons]

private theorem Behind.appendOperator (h : Behind ctx s t) (text : List Char) :
    Behind ctx (s.appendOperator text) (t.appendOperator text) := by
  refine ⟨h.mode, h.pending, ?_, ?_, h.lastWord⟩
  · rw [toList_appendOperator, toList_appendOperator, h.fragments, List.append_assoc]
  · simp only [Scanner.appendOperator, h.size]
    split
    · exact h.lastOperator
    · rfl

private theorem Behind.pushWord (h : Behind ctx s t) (text : List Char) (kind : FragmentKind) :
    Behind ctx (s.pushWord text kind) (t.pushWord text kind) := by
  refine ⟨rfl, rfl, ?_, h.lastOperator, ?_⟩
  · rw [toList_pushWord, toList_pushWord, h.fragments, List.append_assoc]
  · simp only [Scanner.pushWord, h.size]
    rfl

private theorem Admits.continues {c : Char} (h : ctx.Admits (s.pushSymbol c).fragments.toList)
    (hs : s.fragments.toList = []) : ctx.continues c = false := by
  rw [Bool.eq_false_iff]
  intro hc
  have hlast : s.continues c = false := by
    rw [Scanner.continues, ← Array.getLast?_toList, hs]
    rfl
  obtain ⟨gs, hgs, hpush⟩ := toList_pushSymbol_of_not_continues hlast
  rw [hs] at hgs
  cases hgs
  exact h.begins c hc ⟨_, by rw [hpush]; rfl, rfl, rfl⟩

private theorem Behind.pushSymbol (h : Behind ctx s t) (hs : s.Tidy) {c : Char}
    (hadmits : ctx.Admits (s.pushSymbol c).fragments.toList) :
    Behind ctx (s.pushSymbol c) (t.pushSymbol c) := by
  have hcontinues := h.continues hadmits.continues
  cases hlast : s.continues c with
  | true =>
    obtain ⟨before, text, hfragments, -⟩ := toList_pushSymbol_of_continues hlast
    have hsize : 0 < s.fragments.size := by
      rw [← Array.length_toList, hfragments]
      simp
    have hindex : t.fragments.size - 1 = ctx.fragments.toList.length + (s.fragments.size - 1) := by
      rw [h.size, Array.length_toList]
      omega
    rw [Scanner.pushSymbol, Scanner.pushSymbol, hcontinues, hlast, if_pos rfl, if_pos rfl]
    refine ⟨h.mode, h.pending, ?_, h.lastOperator, h.lastWord⟩
    simp only [hindex, Array.toList_modify, h.fragments, modify_append]
  | false =>
    by_cases hc : c = ':'
    · subst hc
      have hcolon := fun hstray ↦ hadmits.colons (hasStrayColon_pushSymbol hs hlast hstray)
      have hstarts := h.startsEntry fun hnone ↦ (hcolon (.inl hnone)).1
      rw [Scanner.pushSymbol, Scanner.pushSymbol, hcontinues, hlast, hstarts]
      cases hentry : s.startsEntry with
      | false => exact h.appendOperator _
      | true =>
        exact (h.markKey fun hnone ↦ (hcolon (.inr ⟨hentry, hnone⟩)).2).appendOperator _
    · rw [pushSymbol_eq hc hlast, pushSymbol_eq hc (hcontinues.trans hlast)]
      exact h.appendOperator _

private theorem Behind.pushOperatorChar (h : Behind ctx s t) (hs : s.Tidy) {c : Char}
    (hadmits : ctx.Admits (s.pushOperatorChar c).fragments.toList) :
    Behind ctx (s.pushOperatorChar c) (t.pushOperatorChar c) := by
  unfold Scanner.pushOperatorChar at hadmits ⊢
  split
  · exact h
  · next hreturn =>
    rw [if_neg hreturn] at hadmits
    split
    · next hspace =>
      rw [if_pos hspace] at hadmits
      exact h.pushSymbol hs hadmits
    · next hspace =>
      rw [if_neg hspace] at hadmits
      exact h.pushSymbol hs hadmits

private theorem Behind.flushWord (h : Behind ctx s t) (hs : s.Tidy) (hmode : s.mode = .words)
    (hadmits : ctx.Admits s.flushWord.fragments.toList) :
    Behind ctx s.flushWord t.flushWord := by
  have hempty : Behind ctx { s with pending := [] } { t with pending := [] } :=
    ⟨h.mode, rfl, h.fragments, h.lastOperator, h.lastWord⟩
  unfold Scanner.flushWord at hadmits ⊢
  dsimp only at hadmits ⊢
  rw [h.pending]
  split
  · exact h
  · next hword =>
    rw [if_neg hword] at hadmits
    split
    · next hnot =>
      rw [if_pos hnot] at hadmits
      exact hempty.pushSymbol (hs.clear hmode) hadmits
    · split
      · exact hempty.appendOperator _
      · split
        · exact hempty.appendOperator _
        · exact h.pushWord _ _

private theorem Behind.extend (h : Behind ctx s t) (c : Char) (mode : ScanMode) :
    Behind ctx (s.extend c mode) (t.extend c mode) :=
  ⟨rfl, congrArg (c :: ·) h.pending, h.fragments, h.lastOperator, h.lastWord⟩

private theorem Behind.close (h : Behind ctx s t) (kind : FragmentKind) :
    Behind ctx (s.close kind) (t.close kind) := by
  rw [Scanner.close, Scanner.close, h.pending]
  exact h.pushWord _ kind

private theorem Behind.stepWords (h : Behind ctx s t) (hs : s.Tidy) (hmode : s.mode = .words)
    {c : Char} (hadmits : ctx.Admits (s.stepWords c).fragments.toList) :
    Behind ctx (s.stepWords c) (t.stepWords c) := by
  unfold Scanner.stepWords at hadmits ⊢
  rw [h.pending]
  split
  · next hquote =>
    rw [if_pos hquote] at hadmits
    exact (h.flushWord hs hmode hadmits).extend c _
  · next hquote =>
    rw [if_neg hquote] at hadmits
    split
    · exact h.extend c _
    · next hword =>
      rw [if_neg hword] at hadmits
      split
      · exact ⟨rfl, rfl, h.fragments, h.lastOperator, h.lastWord⟩
      · next hregex =>
        rw [if_neg hregex] at hadmits
        have hflush := h.flushWord hs hmode (hadmits.of_grows (grows_pushOperatorChar _ c))
        exact hflush.pushOperatorChar (hs.flushWord hmode) hadmits

private theorem Behind.step (h : Behind ctx s t) (hs : s.Tidy) {c : Char}
    (hadmits : ctx.Admits (s.step c).fragments.toList) : Behind ctx (s.step c) (t.step c) := by
  have hclose (kind : FragmentKind) (hkind : kind ≠ .operator)
      (hadmits : ctx.Admits ((s.close kind).stepWords c).fragments.toList) :
      Behind ctx ((s.close kind).stepWords c) ((t.close kind).stepWords c) :=
    (h.close kind).stepWords (hs.pushWord _ hkind) rfl hadmits
  unfold Scanner.step at hadmits ⊢
  rw [h.mode]
  cases hmode : s.mode with
  | words =>
    rw [hmode] at hadmits
    exact h.stepWords hs hmode hadmits
  | string q escaped => exact h.extend c _
  | afterQuote q =>
    rw [hmode] at hadmits
    dsimp only at hadmits ⊢
    split
    · exact h.extend c _
    · next hquote =>
      rw [if_neg hquote] at hadmits
      exact hclose .str (by simp) hadmits
  | regex escaped => exact h.extend c _
  | flags =>
    rw [hmode] at hadmits
    dsimp only at hadmits ⊢
    split
    · exact h.extend c _
    · next hflag =>
      rw [if_neg hflag] at hadmits
      exact hclose .regex (by simp) hadmits

private theorem Behind.foldl (h : Behind ctx s t) (hs : s.Tidy) {cs : List Char}
    (hadmits : ctx.Admits (cs.foldl Scanner.step s).fragments.toList) :
    Behind ctx (cs.foldl Scanner.step s) (cs.foldl Scanner.step t) := by
  induction cs generalizing s t with
  | nil => exact h
  | cons c cs ih =>
    exact ih (h.step hs (hadmits.of_grows (grows_foldl _ cs))) (hs.step c) hadmits

private theorem Behind.finish (h : Behind ctx s t) (hs : s.Tidy)
    (hadmits : ctx.Admits s.finish.fragments.toList) : Behind ctx s.finish t.finish := by
  unfold Scanner.finish at hadmits ⊢
  rw [h.mode]
  cases hmode : s.mode with
  | words =>
    rw [hmode] at hadmits
    exact h.flushWord hs hmode hadmits
  | _ => exact h.close _

end

/-- Behind a scan that stands between fragments a text is scanned as it is on its own, if its
fragments do not touch those in front. -/
theorem Rests.foldl_admits {ctx : Scanner} {fs : List Fragment} (h : ctx.Rests fs)
    {source : List Char} (hadmits : ctx.Admits (Fragment.scan source)) :
    (source.foldl Scanner.step ctx).mode = (source.foldl Scanner.step {}).mode ∧
      (source.foldl Scanner.step ctx).finish.fragments.toList = fs ++ Fragment.scan source := by
  have hstart : Behind ctx {} ctx :=
    ⟨h.mode, h.pending, (List.append_nil _).symm, rfl, rfl⟩
  have hfoldl := hstart.foldl tidy_empty (hadmits.of_grows (grows_finish _))
  refine ⟨hfoldl.mode, ?_⟩
  rw [(hfoldl.finish (tidy_foldl source) hadmits).fragments, h.fragments]
  rfl

end Scanner

end Stencil
