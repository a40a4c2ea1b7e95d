import Mathlib.Data.List.Chain
import Stencil.Proofs.Scanning

/-!
# Runs of operator characters

Every operator among the fragments of a scan is one character or several of the same, and characters
that could have been in one fragment are, unless a word stands for them. A string that is open
begins with its quote, and a scan knows where its last operator and its last word are. So where an
entry of a map may start, it leaves no path in front of a colon that is not marked as a key.
-/

namespace Stencil

open Fragment (Marked)

namespace Fragment

/-- Whether a fragment that is an operator is one character or several of the same. -/
def IsRun (f : Fragment) : Prop :=
  f.kind = .operator → ∃ c n, f.text = List.replicate (n + 1) c

/-- Whether an operator makes none in front of it longer: a bracket, or what stands for a word. -/
def StandsAlone (op : List Char) : Prop :=
  (∃ c, isBracket c = true ∧ [c] <+: op) ∨ ['|', '|'] <+: op ∨ ['&', '&'] <+: op

/-- Whether no operator begins with the character at the end of the one in front of it, other than
those that stand alone. -/
def Apart (fs : List Fragment) : Prop :=
  fs.IsChain fun g f ↦ g.kind = .operator → f.kind = .operator →
    g.text.getLast? = f.text.head? → StandsAlone f.text

/-- Two equals signs that touch are one fragment. -/
theorem Apart.assign {f g : Fragment} {fs : List Fragment} (h : Apart (g :: f :: fs))
    (hg : g.kind = .operator) (hf : f.kind = .operator) (hhead : f.text.head? = some '=') :
    g.text.getLast? ≠ some '=' := by
  intro hlast
  obtain ⟨cs, htext⟩ := List.head?_eq_some_iff.mp hhead
  have halone := (List.isChain_cons_cons.mp h).1 hg hf (hlast.trans hhead.symm)
  rw [htext] at halone
  rcases halone with ⟨c, hc, halone⟩ | halone | halone <;>
    obtain ⟨hchar, -⟩ := List.cons_prefix_cons.mp halone
  · subst hchar
    cases hc
  · cases hchar
  · cases hchar

private theorem Becomes.isRun {f g : Fragment} (h : f.Becomes g) (hf : f.IsRun) : g.IsRun := by
  intro hkind
  rw [h.text]
  exact hf (h.kind_eq_operator.mp hkind)

private theorem Marked.isRun {fs gs : List Fragment} (h : Marked fs gs)
    (hfs : ∀ f ∈ fs, f.IsRun) : ∀ g ∈ gs, g.IsRun :=
  h.forall_mem (fun _ _ ↦ Becomes.isRun) hfs

private theorem Marked.apart {fs gs : List Fragment} (h : Marked fs gs) (hfs : Apart fs) :
    Apart gs := by
  induction h with
  | nil => exact hfs
  | @cons f g _ _ hf hrest ih =>
    cases hrest with
    | nil => exact List.isChain_singleton g
    | cons hf' hrest =>
      obtain ⟨hpair, hfs⟩ := List.isChain_cons_cons.mp hfs
      refine List.isChain_cons_cons.mpr ⟨?_, ih hfs⟩
      rw [hf.kind_eq_operator, hf'.kind_eq_operator, hf.text, hf'.text]
      exact hpair

private theorem Apart.append {fs : List Fragment} (h : Apart fs) {f : Fragment}
    (hf : f.kind = .operator → StandsAlone f.text) : Apart (fs ++ [f]) := by
  refine List.isChain_append.mpr
    ⟨h, List.isChain_singleton f, fun g _ g' hg' hkind hkind' _ ↦ ?_⟩
  cases hg'
  exact hf hkind'

private theorem StandsAlone.append {op : List Char} (h : StandsAlone op) (more : List Char) :
    StandsAlone (op ++ more) := by
  have hmore {front : List Char} (h : front <+: op) : front <+: op ++ more :=
    h.trans (List.prefix_append _ _)
  obtain ⟨c, hc, hop⟩ | halone := h
  · exact .inl ⟨c, hc, hmore hop⟩
  · exact .inr (halone.imp hmore hmore)

private theorem Apart.lengthen {before : List Fragment} {op : List Char}
    (h : Apart (before ++ [⟨op, .operator⟩])) {more : List Char} (hop : op ≠ []) :
    Apart (before ++ [⟨op ++ more, .operator⟩]) := by
  obtain ⟨hbefore, -, hpair⟩ := List.isChain_append.mp h
  refine List.isChain_append.mpr ⟨hbefore, List.isChain_singleton _, ?_⟩
  intro g hg f hf hgkind _ htext
  cases hf
  rw [List.head?_append_of_ne_nil _ hop] at htext
  exact (hpair g hg _ rfl hgkind rfl htext).append more

/-! ### The last fragments of a kind -/

/-- Whether the fragment is no operator. -/
def isWord (f : Fragment) : Bool := f.kind != .operator

/-- Whether the fragment is an operator and no space. -/
def isVisible (f : Fragment) : Bool := f.kind == .operator && !f.isSpace

/-- A fragment that has become another one is a word if it was one. -/
theorem Becomes.isWord {f g : Fragment} (h : f.Becomes g) : g.isWord = f.isWord := by
  rw [Bool.eq_iff_iff]
  simp [Fragment.isWord, h.kind_eq_operator]

/-- A fragment that has become another one is a space if it was one. -/
theorem Becomes.isSpace {f g : Fragment} (h : f.Becomes g) : g.isSpace = f.isSpace := by
  rw [Bool.eq_iff_iff]
  simp [Fragment.isSpace, h.kind_eq_operator, h.text]

/-- A fragment that has become another one is visible if it was. -/
theorem Becomes.isVisible {f g : Fragment} (h : f.Becomes g) : g.isVisible = f.isVisible := by
  rw [Fragment.isVisible, Fragment.isVisible, h.isSpace, Bool.eq_iff_iff]
  simp [h.kind_eq_operator]

/-- Whether the index is that of the last fragment with the property, if there is one. -/
def IsLast (p : Fragment → Bool) (fs : List Fragment) : Option Nat → Prop
  | none => ∀ f ∈ fs, p f = false
  | some i => ∃ before f after, fs = before ++ f :: after ∧ before.length = i ∧ p f = true ∧
      ∀ g ∈ after, p g = false

section

variable {p : Fragment → Bool} {fs gs : List Fragment} {i : Option Nat}

private theorem IsLast.append (h : IsLast p fs i) {f : Fragment} (hf : p f = false) :
    IsLast p (fs ++ [f]) i := by
  cases i with
  | none => exact List.forall_mem_append.mpr ⟨h, List.forall_mem_singleton.mpr hf⟩
  | some i =>
    obtain ⟨before, g, after, rfl, hi, hg, hafter⟩ := h
    refine ⟨before, g, after ++ [f], by simp, hi, hg, ?_⟩
    exact List.forall_mem_append.mpr ⟨hafter, List.forall_mem_singleton.mpr hf⟩

private theorem isLast_append {f : Fragment} (hf : p f = true) (fs : List Fragment) :
    IsLast p (fs ++ [f]) (some fs.length) :=
  ⟨fs, f, [], rfl, rfl, hf, List.forall_mem_nil _⟩

/-- No fragment but one is the last. -/
theorem IsLast.eq_some {before after : List Fragment} {f : Fragment}
    (h : IsLast p (before ++ f :: after) i) (hf : p f = true)
    (hafter : ∀ g ∈ after, p g = false) : i = some before.length := by
  have hsame {xs ys zs : List Fragment} {x y : Fragment} (hx : p x = true)
      (hzs : ∀ z ∈ zs, p z = false) (hsplit : y :: zs = xs ++ x :: ys) : xs = [] := by
    cases xs with
    | nil => rfl
    | cons x' xs =>
      have hfalse := hzs x (by simp [(List.cons.inj hsplit).2])
      rw [hx] at hfalse
      cases hfalse
  cases i with
  | none =>
    have hfalse := h f (by simp)
    rw [hf] at hfalse
    cases hfalse
  | some i =>
    obtain ⟨before', g, after', hsplit, rfl, hg, hafter'⟩ := h
    rcases List.append_eq_append_iff.mp hsplit with ⟨xs, rfl, hrest⟩ | ⟨xs, rfl, hrest⟩
    · rw [hsame hg hafter hrest, List.append_nil]
    · rw [hsame hf hafter' hrest, List.append_nil]

private theorem IsLast.of_map_eq (h : IsLast p fs i) (hmap : gs.map p = fs.map p) :
    IsLast p gs i := by
  cases i with
  | none =>
    have hgs : ∀ b ∈ gs.map p, b = false := by
      rw [hmap, List.forall_mem_map]
      exact h
    exact List.forall_mem_map.mp hgs
  | some i =>
    obtain ⟨before, f, after, rfl, hi, hf, hafter⟩ := h
    rw [List.map_append, List.map_cons] at hmap
    obtain ⟨before', rest, rfl, hbefore, hrest⟩ := List.map_eq_append_iff.mp hmap
    obtain ⟨g, after', rfl, hg, hafter'⟩ := List.map_eq_cons_iff.mp hrest
    refine ⟨before', g, after', rfl, ?_, hg.trans hf, ?_⟩
    · rw [← hi, ← List.length_map p, hbefore, List.length_map]
    · have hall : ∀ b ∈ after'.map p, b = false := by
        rw [hafter', List.forall_mem_map]
        exact hafter
      exact List.forall_mem_map.mp hall

end

/-! ### Paths in front of colons -/

/-- Whether an entry of a map may start behind the fragment. -/
def StartsEntry (f : Fragment) : Prop := f = .ofOperator '\x7b' ∨ f = .ofOperator ','

/-- Whether the fragment is an operator that begins with a colon. -/
def IsColon (f : Fragment) : Prop := f.kind = .operator ∧ f.text.head? = some ':'

/-- Whether the last word among the fragments is a path where an entry of a map may start, with
nothing but spaces around it. -/
def EndsWithPath (fs : List Fragment) : Prop :=
  ∃ front g spaces f spaces', fs = front ++ g :: (spaces ++ f :: spaces') ∧ g.StartsEntry ∧
    (∀ h ∈ spaces, h.isSpace = true) ∧ f.kind = .path ∧ ∀ h ∈ spaces', h.isSpace = true

/-- Whether a path stands in front of a colon where an entry of a map may start. -/
def HasUnmarkedKey (fs : List Fragment) : Prop :=
  ∃ before f after, fs = before ++ f :: after ∧ f.IsColon ∧ EndsWithPath before

private theorem hasUnmarkedKey_append {fs : List Fragment} {f : Fragment} :
    HasUnmarkedKey (fs ++ [f]) ↔ HasUnmarkedKey fs ∨ f.IsColon ∧ EndsWithPath fs := by
  constructor
  · rintro ⟨before, g, after, hfs, hg, hbefore⟩
    rcases List.eq_nil_or_concat' after with rfl | ⟨after, g', rfl⟩
    · obtain ⟨rfl, hfg⟩ := List.append_inj' hfs rfl
      cases hfg
      exact .inr ⟨hg, hbefore⟩
    · rw [← List.cons_append, ← List.append_assoc] at hfs
      obtain ⟨rfl, -⟩ := List.append_inj' hfs rfl
      exact .inl ⟨before, g, after, rfl, hg, hbefore⟩
  · rintro (⟨before, g, after, rfl, hg, hbefore⟩ | ⟨hf, hfs⟩)
    · exact ⟨before, g, after ++ [f], by simp, hg, hbefore⟩
    · exact ⟨fs, f, [], rfl, hf, hfs⟩

private theorem Becomes.isColon {f g : Fragment} (h : f.Becomes g) (hg : g.IsColon) :
    f.IsColon :=
  ⟨h.kind_eq_operator.mp hg.1, h.text ▸ hg.2⟩

private theorem Becomes.startsEntry {f g : Fragment} (h : f.Becomes g) (hg : g.StartsEntry) :
    f.StartsEntry := by
  have hoperator {c : Char} (hc : g = .ofOperator c) : f = .ofOperator c := by
    subst hc
    obtain ⟨text, kind⟩ := f
    obtain rfl : [c] = text := h.text
    obtain rfl : kind = .operator := h.kind_eq_operator.mp rfl
    rfl
  exact hg.imp hoperator hoperator

private theorem Becomes.kind_eq_path {f g : Fragment} (h : f.Becomes g) (hg : g.kind = .path) :
    f.kind = .path := by
  rcases h.kind with hkind | ⟨hf, -⟩
  · exact hkind.symm.trans hg
  · exact hf

private theorem Marked.exists_of_cons {fs before after : List Fragment} {g : Fragment}
    (h : Marked fs (before ++ g :: after)) : ∃ before' f after', fs = before' ++ f :: after' ∧
      Marked before' before ∧ f.Becomes g ∧ Marked after' after := by
  induction before generalizing fs with
  | nil =>
    obtain ⟨f, after', hf, hafter, rfl⟩ := List.forall₂_cons_right_iff.mp h
    exact ⟨[], f, after', rfl, .nil, hf, hafter⟩
  | cons g' before ih =>
    obtain ⟨f', fs, hf', hfs, rfl⟩ := List.forall₂_cons_right_iff.mp h
    obtain ⟨before', f, after', rfl, hbefore, hf, hafter⟩ := ih hfs
    exact ⟨f' :: before', f, after', rfl, .cons hf' hbefore, hf, hafter⟩

private theorem Marked.forall_isSpace {fs gs : List Fragment} (h : Marked fs gs)
    (hgs : ∀ g ∈ gs, g.isSpace = true) : ∀ f ∈ fs, f.isSpace = true := by
  have hmap := h.map_eq fun _ _ ↦ Becomes.isSpace
  rw [← List.forall_mem_map (P := fun b ↦ b = true), hmap, List.forall_mem_map] at hgs
  exact hgs

private theorem EndsWithPath.of_marked {fs gs : List Fragment} (h : EndsWithPath gs)
    (hmarked : Marked fs gs) : EndsWithPath fs := by
  obtain ⟨front, g, spaces, f, spaces', rfl, hg, hspaces, hf, hspaces'⟩ := h
  obtain ⟨front', g', rest, rfl, -, hgg', hrest⟩ := hmarked.exists_of_cons
  obtain ⟨before, f', after, rfl, hbefore, hff', hafter⟩ := hrest.exists_of_cons
  exact ⟨front', g', before, f', after, rfl, hgg'.startsEntry hg, hbefore.forall_isSpace hspaces,
    hff'.kind_eq_path hf, hafter.forall_isSpace hspaces'⟩

private theorem HasUnmarkedKey.of_marked {fs gs : List Fragment} (h : HasUnmarkedKey gs)
    (hmarked : Marked fs gs) : HasUnmarkedKey fs := by
  obtain ⟨before, f, after, rfl, hf, hbefore⟩ := h
  obtain ⟨before', f', after', rfl, hmarked, hff', -⟩ := hmarked.exists_of_cons
  exact ⟨before', f', after', rfl, hff'.isColon hf, hbefore.of_marked hmarked⟩

end Fragment

open Fragment (IsRun Apart IsLast isVisible isWord EndsWithPath HasUnmarkedKey)

namespace Scanner

/-- Whether the pending characters of a string begin with its quote; the last one comes first. -/
def Quoted : ScanMode → List Char → Prop
  | .string q _, pending => Text.isQuote q = true ∧ pending.getLast? = some q
  | .afterQuote q, pending => Text.isQuote q = true ∧ pending.getLast? = some q
  | _, _ => True

/-- Operators are runs of one character that are apart, the open string begins with its quote, the
last fragments of their kinds are known, and paths in front of colons are keys. -/
structure Tidy (s : Scanner) : Prop where
  /-- Operators are runs of one character. -/
  runs : ∀ f ∈ s.fragments.toList, f.IsRun
  /-- Operators are apart. -/
  apart : Apart s.fragments.toList
  /-- The open string begins with its quote. -/
  quoted : Quoted s.mode s.pending
  /-- The last operator that is no space is known. -/
  lastOperator : IsLast isVisible s.fragments.toList s.lastOperator
  /-- The last fragment that is no operator is known. -/
  lastWord : IsLast isWord s.fragments.toList s.lastWord
  /-- No path is left in front of a colon where an entry may start. -/
  keys : ¬HasUnmarkedKey s.fragments.toList

variable {s : Scanner}

/-- Before anything is scanned a scan is tidy. -/
theorem tidy_empty : Tidy {} :=
  ⟨List.forall_mem_nil _, List.isChain_nil, trivial, List.forall_mem_nil _, List.forall_mem_nil _,
    fun ⟨_, _, _, hfs, _⟩ ↦ List.cons_ne_nil _ _ (List.append_eq_nil_iff.mp hfs.symm).2⟩

/-- A word, a string or a regular expression leaves a scan tidy. -/
theorem Tidy.pushWord (h : s.Tidy) (text : List Char) {kind : FragmentKind}
    (hkind : kind ≠ .operator) : (s.pushWord text kind).Tidy := by
  refine ⟨?_, ?_, trivial, ?_, ?_, ?_⟩ <;> rw [toList_pushWord]
  · exact List.forall_mem_append.mpr ⟨h.runs, List.forall_mem_singleton.mpr (absurd · hkind)⟩
  · exact h.apart.append (absurd · hkind)
  · exact h.lastOperator.append (by simp [isVisible, hkind])
  · exact Fragment.isLast_append (by simp [isWord, hkind]) _
  · rw [Fragment.hasUnmarkedKey_append]
    exact not_or.mpr ⟨h.keys, fun hcolon ↦ hkind hcolon.1.1⟩

private theorem Tidy.appendOperator (h : s.Tidy) (hmode : s.mode = .words) {op : List Char}
    (hrun : ∃ c n, op = List.replicate (n + 1) c)
    (hvisible : op = [' '] ∨ isVisible ⟨op, .operator⟩ = true)
    (hapart : Apart (s.fragments.toList ++ [⟨op, .operator⟩]))
    (hkeys : Fragment.IsColon ⟨op, .operator⟩ → ¬EndsWithPath s.fragments.toList) :
    (s.appendOperator op).Tidy := by
  have hquoted : Quoted (s.appendOperator op).mode (s.appendOperator op).pending := by
    rw [Scanner.appendOperator, hmode]
    trivial
  refine ⟨?_, ?_, hquoted, ?_, ?_, ?_⟩ <;> rw [toList_appendOperator]
  · exact List.forall_mem_append.mpr ⟨h.runs, List.forall_mem_singleton.mpr fun _ ↦ hrun⟩
  · exact hapart
  · rw [Scanner.appendOperator]
    rcases hvisible with rfl | hvisible
    · exact h.lastOperator.append rfl
    · have hne : (op == [' ']) = false := by
        rw [Bool.eq_false_iff]
        intro hspace
        rw [eq_of_beq hspace] at hvisible
        cases hvisible
      simp only [hne, Bool.false_eq_true, if_false]
      exact Fragment.isLast_append hvisible _
  · exact h.lastWord.append rfl
  · rw [Fragment.hasUnmarkedKey_append]
    exact not_or.mpr ⟨h.keys, fun hcolon ↦ hkeys hcolon.1 hcolon.2⟩

/-- A key that is marked leaves a scan tidy. -/
theorem Tidy.markKey (h : s.Tidy) : s.markKey.Tidy := by
  have hmarked := s.marked_markKey
  refine ⟨hmarked.isRun h.runs, hmarked.apart h.apart, ?_, ?_, ?_, fun hkeys ↦ ?_⟩
  · rw [mode_markKey, pending_markKey]
    exact h.quoted
  · rw [lastOperator_markKey]
    exact h.lastOperator.of_map_eq (hmarked.map_eq fun _ _ ↦ Fragment.Becomes.isVisible)
  · rw [lastWord_markKey]
    exact h.lastWord.of_map_eq (hmarked.map_eq fun _ _ ↦ Fragment.Becomes.isWord)
  · exact h.keys (hkeys.of_marked hmarked)

-- Where the fragments end with a path, the last operator and the last word say so.
private theorem Tidy.of_endsWithPath (h : s.Tidy) (hends : EndsWithPath s.fragments.toList) :
    s.startsEntry = true ∧
      ∃ i f, s.lastWord = some i ∧ s.fragments.toList[i]? = some f ∧ f.kind = .path := by
  obtain ⟨front, g, spaces, f, spaces', hfs, hg, hspaces, hf, hspaces'⟩ := hends
  have hvisible : ∀ h ∈ spaces ++ f :: spaces', isVisible h = false := by
    simp only [List.forall_mem_append, List.forall_mem_cons]
    refine ⟨fun h hh ↦ ?_, by simp [isVisible, hf], fun h hh ↦ ?_⟩
    · simp [isVisible, hspaces h hh]
    · simp [isVisible, hspaces' h hh]
  have hwords : ∀ h ∈ spaces', isWord h = false := fun h hh ↦ by
    have hspace := hspaces' h hh
    simp_all [isWord, Fragment.isSpace]
  have hoperator : s.lastOperator = some front.length := by
    have hlast := h.lastOperator
    rw [hfs] at hlast
    exact hlast.eq_some (by rcases hg with rfl | rfl <;> rfl) hvisible
  have hword : s.lastWord = some (front ++ g :: spaces).length := by
    have hlast := h.lastWord
    rw [hfs, ← List.cons_append, ← List.append_assoc] at hlast
    exact hlast.eq_some (by simp [isWord, hf]) hwords
  constructor
  · have hget : s.fragments.toList[front.length]? = some g := by
      rw [hfs, List.getElem?_append_right (Nat.le_refl _), Nat.sub_self]
      rfl
    rw [startsEntry, hoperator, Option.bind_some, ← Array.getElem?_toList, hget]
    rcases hg with rfl | rfl <;> rfl
  · refine ⟨_, f, hword, ?_, hf⟩
    rw [hfs, ← List.cons_append, ← List.append_assoc,
      List.getElem?_append_right (Nat.le_refl _), Nat.sub_self]
    rfl

private theorem Tidy.not_endsWithPath_markKey (h : s.Tidy) :
    ¬EndsWithPath s.markKey.fragments.toList := by
  intro hends
  obtain ⟨-, i, f, hword, hget, hf⟩ := h.markKey.of_endsWithPath hends
  rw [lastWord_markKey] at hword
  rw [toList_markKey, hword, Option.elim_some, List.getElem?_modify_eq] at hget
  obtain ⟨g, -, rfl⟩ := Option.map_eq_some_iff.mp hget
  unfold Fragment.asKey at hf
  split at hf
  · cases hf
  · next hpath => exact hpath (by simp [hf])

private theorem Tidy.apart_append (h : s.Tidy) {c : Char} (hlast : s.continues c = false) :
    Apart (s.fragments.toList ++ [⟨[c], .operator⟩]) := by
  refine List.isChain_append.mpr
    ⟨h.apart, List.isChain_singleton _, fun g hg f hf hkind _ htext ↦ ?_⟩
  cases hf
  obtain ⟨d, n, hd⟩ := h.runs g (List.mem_of_getLast? hg) hkind
  have hdc : d = c := by simpa [hd, List.getLast?_replicate] using htext
  rw [Scanner.continues, ← Array.getLast?_toList, Option.mem_def.mp hg] at hlast
  exact .inl ⟨c, by simpa [hkind, hd, hdc] using hlast, List.prefix_rfl⟩

private theorem Tidy.lengthen (h : s.Tidy) (hmode : s.mode = .words) {c : Char}
    (hlast : s.continues c = true) : (s.pushSymbol c).Tidy := by
  obtain ⟨before, text, hs, htext, -, hpush⟩ := toList_pushSymbol_of_continues hlast
  obtain ⟨hmode', hindices⟩ : (s.pushSymbol c).mode = .words ∧
      (s.pushSymbol c).lastOperator = s.lastOperator ∧ (s.pushSymbol c).lastWord = s.lastWord := by
    rw [Scanner.pushSymbol, if_pos hlast]
    exact ⟨hmode, rfl, rfl⟩
  obtain ⟨hruns, hapart, -, hoperator, hword, hkeys⟩ := h
  rw [hs] at hruns hapart hoperator hword hkeys
  rw [List.forall_mem_append, List.forall_mem_singleton] at hruns
  obtain ⟨d, n, hd⟩ := hruns.2 rfl
  dsimp only at hd
  obtain rfl : d = c := by
    rw [hd] at htext
    simpa using htext
  refine ⟨?_, ?_, ?_, ?_, ?_, ?_⟩
  · rw [hpush, List.forall_mem_append, List.forall_mem_singleton]
    refine ⟨hruns.1, fun _ ↦ ⟨d, n + 1, ?_⟩⟩
    rw [hd, ← List.replicate_succ']
  · rw [hpush]
    exact hapart.lengthen (by simp [hd])
  · rw [hmode']
    trivial
  · rw [hpush, hindices.1]
    refine hoperator.of_map_eq ?_
    simp [isVisible, Fragment.isSpace, hd]
  · rw [hpush, hindices.2]
    refine hword.of_map_eq ?_
    simp [isWord]
  · rw [Fragment.hasUnmarkedKey_append] at hkeys
    rw [hpush, Fragment.hasUnmarkedKey_append]
    refine mt (Or.imp_right (And.imp_left fun hcolon ↦ ⟨rfl, ?_⟩)) hkeys
    simpa [hd, List.replicate_succ] using hcolon.2

private theorem Tidy.pushSymbol (h : s.Tidy) (hmode : s.mode = .words) (c : Char) :
    (s.pushSymbol c).Tidy := by
  by_cases hlast : s.continues c = true
  · exact h.lengthen hmode hlast
  · have hapart := h.apart_append (Bool.eq_false_iff.mpr hlast)
    have hvisible : [c] = [' '] ∨ isVisible ⟨[c], .operator⟩ = true := by
      by_cases hc : c = ' '
      · exact .inl (hc ▸ rfl)
      · exact .inr (by simp [isVisible, Fragment.isSpace, hc])
    rw [Scanner.pushSymbol, if_neg hlast]
    dsimp only
    split
    · have hmarked : Marked (s.fragments.toList ++ [⟨[c], .operator⟩])
          (s.markKey.fragments.toList ++ [⟨[c], .operator⟩]) :=
        List.rel_append s.marked_markKey (Fragment.Marked.refl _)
      exact h.markKey.appendOperator (by simpa using hmode) ⟨c, 0, rfl⟩ hvisible
        (hmarked.apart hapart) fun _ ↦ h.not_endsWithPath_markKey
    · next hentry =>
      refine h.appendOperator hmode ⟨c, 0, rfl⟩ hvisible hapart fun hcolon hends ↦ hentry ?_
      obtain rfl : c = ':' := by simpa using hcolon.2
      exact (h.of_endsWithPath hends).1

private theorem Tidy.pushOperatorChar (h : s.Tidy) (hmode : s.mode = .words) (c : Char) :
    (s.pushOperatorChar c).Tidy := by
  unfold Scanner.pushOperatorChar
  split
  · exact h
  · split <;> exact h.pushSymbol hmode _

/-- Without the pending word a scan is tidy, too. -/
theorem Tidy.clear (h : s.Tidy) (hmode : s.mode = .words) :
    ({ s with pending := [] } : Scanner).Tidy := by
  refine ⟨h.runs, h.apart, ?_, h.lastOperator, h.lastWord, h.keys⟩
  rw [hmode]
  trivial

/-- A word that ends leaves a scan tidy. -/
theorem Tidy.flushWord (h : s.Tidy) (hmode : s.mode = .words) : s.flushWord.Tidy := by
  have hempty := h.clear hmode
  have hor : ({ s with pending := [] }.appendOperator ['|', '|']).Tidy :=
    hempty.appendOperator hmode ⟨'|', 1, rfl⟩ (.inr rfl)
      (hempty.apart.append fun _ ↦ .inr (.inl List.prefix_rfl))
      fun hcolon ↦ absurd hcolon.2 (by decide)
  have hand : ({ s with pending := [] }.appendOperator ['&', '&']).Tidy :=
    hempty.appendOperator hmode ⟨'&', 1, rfl⟩ (.inr rfl)
      (hempty.apart.append fun _ ↦ .inr (.inr List.prefix_rfl))
      fun hcolon ↦ absurd hcolon.2 (by decide)
  unfold Scanner.flushWord
  dsimp only
  split
  · exact h
  · split
    · exact hempty.pushSymbol hmode _
    · split
      · exact hor
      · split
        · exact hand
        · exact h.pushWord _ (classify_ne (by decide) _)

private theorem Tidy.extend (h : s.Tidy) {c : Char} {mode : ScanMode}
    (hquoted : Quoted mode (c :: s.pending)) : (s.extend c mode).Tidy :=
  ⟨h.runs, h.apart, hquoted, h.lastOperator, h.lastWord, h.keys⟩

private theorem Tidy.stepWords (h : s.Tidy) (hmode : s.mode = .words) (c : Char) :
    (s.stepWords c).Tidy := by
  unfold Scanner.stepWords
  split
  · next hquote =>
    apply (h.flushWord hmode).extend
    rw [(pending_flushWord hmode).1]
    exact ⟨hquote, rfl⟩
  · split
    · exact h.extend trivial
    · split
      · exact ⟨h.runs, h.apart, trivial, h.lastOperator, h.lastWord, h.keys⟩
      · exact (h.flushWord hmode).pushOperatorChar (pending_flushWord hmode).2 c

private theorem getLast?_cons_of_eq_some {α : Type} {xs : List α} {y : α} (x : α)
    (h : xs.getLast? = some y) : (x :: xs).getLast? = some y := by
  simp [List.getLast?_cons, h]

/-- A character leaves a scan tidy. -/
theorem Tidy.step (h : s.Tidy) (c : Char) : (s.step c).Tidy := by
  have hquoted := h.quoted
  unfold Scanner.step
  split
  · next hmode => exact h.stepWords hmode c
  · next q escaped hmode =>
    rw [hmode] at hquoted
    have hlast := getLast?_cons_of_eq_some c hquoted.2
    apply h.extend
    repeat' split
    all_goals exact ⟨hquoted.1, hlast⟩
  · next q hmode =>
    rw [hmode] at hquoted
    split
    · exact h.extend ⟨hquoted.1, getLast?_cons_of_eq_some c hquoted.2⟩
    · exact (h.pushWord _ (by simp)).stepWords rfl c
  · apply h.extend
    split <;> trivial
  · split
    · exact h.extend trivial
    · exact (h.pushWord _ (by simp)).stepWords rfl c

/-- A scan is tidy all along. -/
theorem tidy_foldl (source : List Char) : (source.foldl Scanner.step {}).Tidy := by
  have hfoldl (s : Scanner) (h : s.Tidy) : (source.foldl Scanner.step s).Tidy := by
    induction source generalizing s with
    | nil => exact h
    | cons c cs ih => exact ih _ (h.step c)
  exact hfoldl {} tidy_empty

/-- The end of the source leaves a scan tidy. -/
theorem Tidy.finish (h : s.Tidy) : s.finish.Tidy := by
  unfold Scanner.finish
  split
  · next hmode => exact h.flushWord hmode
  · exact h.pushWord _ (by simp)
  · exact h.pushWord _ (by simp)
  · exact h.pushWord _ (by simp)
  · exact h.pushWord _ (by simp)

end Scanner

/-- Operators are runs of one character. -/
theorem Fragment.isRun_scan (source : List Char) : ∀ f ∈ Fragment.scan source, f.IsRun :=
  (Scanner.tidy_foldl source).finish.runs

/-- Operators that touch are apart. -/
theorem Fragment.apart_scan (source : List Char) : Fragment.Apart (Fragment.scan source) :=
  (Scanner.tidy_foldl source).finish.apart

/-- No path is left in front of a colon where an entry of a map may start. -/
theorem Fragment.not_hasUnmarkedKey_scan (source : List Char) :
    ¬Fragment.HasUnmarkedKey (Fragment.scan source) :=
  (Scanner.tidy_foldl source).finish.keys

end Stencil
