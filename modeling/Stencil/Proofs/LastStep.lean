import Mathlib.Data.List.DropRight
import Stencil.Proofs.Pipeline

/-!
# A step at the end of a pipeline

A filter whose name is written behind a pipeline, with a bar and spaces in front of it, is read as
one more step, and the steps in front of it are read as before. The pipeline must not be marked as
safe, since nothing is known of what stands behind the mark.
-/

namespace Stencil

/-! ### Blanks behind a text -/

section

variable {s t : List Char}

private theorem rtakeWhile_append_cons {p : Char → Bool} {c : Char} (hc : p c = false)
    (s t : List Char) :
    (s ++ c :: t).rtakeWhile p = t.rtakeWhile p := by
  have htake : (t.reverse ++ c :: s.reverse).takeWhile p = t.reverse.takeWhile p := by
    rw [List.takeWhile_append, List.takeWhile_cons_of_neg (by simp [hc]), List.append_nil]
    split
    · next hlength => exact ((List.takeWhile_prefix p).eq_of_length hlength).symm
    · rfl
  rw [List.rtakeWhile, List.rtakeWhile, List.reverse_append, List.reverse_cons, List.append_assoc,
    List.singleton_append, htake]

private theorem trim_append (hs : Text.trim s ≠ []) {front : List Char} {c : Char}
    (ht : t = front ++ [c]) (hc : Text.isBlank c = false) :
    Text.trim (s ++ t) = Text.trim s ++ s.rtakeWhile Text.isBlank ++ t := by
  cases hdrop : s.dropWhile Text.isBlank with
  | nil =>
    rw [Text.trim, Text.trimWhile, hdrop] at hs
    exact absurd rfl hs
  | cons d ds =>
    have hd : Text.isBlank d = false := by
      have hhead := List.head_dropWhile_not Text.isBlank (l := s) (by simp [hdrop])
      simpa [hdrop] using hhead
    have htrim : Text.trim s = d :: Text.dropEndWhile Text.isBlank ds := by
      rw [Text.trim, Text.trimWhile, hdrop]
      exact Text.dropEndWhile_append_cons hd [] ds
    have hblanks : s.rtakeWhile Text.isBlank = ds.rtakeWhile Text.isBlank := by
      rw [← List.takeWhile_append_dropWhile (p := Text.isBlank) (l := s), hdrop]
      exact rtakeWhile_append_cons hd _ ds
    have hds : Text.dropEndWhile Text.isBlank ds ++ ds.rtakeWhile Text.isBlank = ds :=
      List.rdropWhile_append_rtakeWhile
    have hend : Text.dropEndWhile Text.isBlank (d :: ds ++ t) = d :: ds ++ t := by
      rw [ht, ← List.append_assoc]
      exact Text.dropEndWhile_append_cons hc _ []
    rw [htrim, hblanks, Text.trim, Text.trimWhile, List.dropWhile_append, hdrop,
      if_neg (by simp), hend]
    simp only [List.cons_append, hds]

end

/-! ### Scanning blanks behind a source -/

namespace Scanner

variable {t : Scanner} {fs : List Fragment}

private theorem Rests.pushSpace_rdropWhile (h : t.Rests fs) :
    ∃ before f, (f.isSpace = true ∧ f.text ≠ []) ∧ (t.pushSymbol ' ').Rests (before ++ [f]) ∧
      (before ++ [f]).rdropWhile Fragment.isSpace = fs.rdropWhile Fragment.isSpace := by
  obtain ⟨before, f, hf, hpush, hbefore⟩ := h.pushSpace
  refine ⟨before, f, hf, hpush, ?_⟩
  rw [List.rdropWhile_concat_pos _ _ _ hf.1]
  rcases hbefore with rfl | ⟨g, hg, rfl⟩
  · rfl
  · rw [List.rdropWhile_concat_pos _ _ _ hg]

private theorem foldl_blanks {blanks : List Char} (ht : t.finish.Rests fs) (hends : t.mode.Ends)
    (hblanks : ∀ c ∈ blanks, Text.isBlank c = true ∧ isOperatorChar c = true) :
    (blanks.foldl step t).mode.Ends ∧ ∃ gs, (blanks.foldl step t).finish.Rests gs ∧
      gs.rdropWhile Fragment.isSpace = fs.rdropWhile Fragment.isSpace := by
  induction blanks generalizing t fs with
  | nil => exact ⟨hends, fs, ht, rfl⟩
  | cons c cs ih =>
    obtain ⟨⟨hblank, hc⟩, hblanks⟩ := List.forall_mem_cons.mp hblanks
    have hslash : c ≠ '/' := by
      rintro rfl
      cases hblank
    have hnext : ∃ gs, (t.step c).Rests gs ∧
        gs.rdropWhile Fragment.isSpace = fs.rdropWhile Fragment.isSpace := by
      rw [step_of_isOperatorChar hends hc hslash]
      rcases pushOperatorChar_of_isBlank hblank hc t.finish with hstep | hstep <;> rw [hstep]
      · exact ⟨fs, ht, rfl⟩
      · obtain ⟨before, f, -, hpush, hdrop⟩ := ht.pushSpace_rdropWhile
        exact ⟨_, hpush, hdrop⟩
    obtain ⟨gs, hgs, hdrop⟩ := hnext
    obtain ⟨hends', gs', hgs', hdrop'⟩ := ih (hgs.finish.symm ▸ hgs) (hgs.mode ▸ trivial) hblanks
    exact ⟨hends', gs', hgs', hdrop'.trans hdrop⟩

end Scanner

/-! ### Words in steps -/

private theorem FilterCall.IsWrittenAs.exists_ofFragment {fs : List Fragment} {call : FilterCall}
    (h : IsWrittenAs fs call) {f : Fragment} (hmem : f ∈ fs) (hkind : f.kind = .other) :
    ∃ ts, Token.ofFragment f = .ok ts := by
  obtain ⟨before, name, between, rest, after, rfl, hspaces, hname, -, hargs⟩ := h
  have hspace : f.isSpace = false := by simp [Fragment.isSpace, hkind]
  have hnot {gs : List Fragment} (hgs : ∀ g ∈ gs, g.isSpace = true) : f ∉ gs := by
    intro hf
    rw [hgs f hf] at hspace
    cases hspace
  simp only [List.mem_append, or_imp, forall_and] at hspaces
  obtain ⟨⟨hbefore, hbetween⟩, hafter⟩ := hspaces
  simp only [List.mem_append, List.mem_cons, hnot hbefore, hnot hbetween, hnot hafter, false_or,
    or_false] at hmem
  rcases hmem with rfl | hmem
  · rw [hname] at hkind
    cases hkind
  · generalize call.args = args at hargs
    cases hargs with
    | none => cases hmem
    | @list inner ts n args htokens _ _ =>
      simp only [List.mem_append, List.mem_cons, List.not_mem_nil, or_false] at hmem
      rcases hmem with (rfl | hmem) | rfl
      · cases hkind
      · obtain ⟨here, hhere, -⟩ :=
          Token.exists_of_mem htokens hmem (by simp [Token.isJoined, hkind])
        exact ⟨here, hhere⟩
      · cases hkind

/-! ### Segments without the spaces at their ends -/

namespace Pipeline

private theorem map_trimSpaces_splitBy {fs gs : List Fragment}
    (h : gs.rdropWhile Fragment.isSpace = fs.rdropWhile Fragment.isSpace) :
    (Fragment.splitBy isBar gs).map Fragment.trimSpaces =
      (Fragment.splitBy isBar fs).map Fragment.trimSpaces := by
  have hkept (fs : List Fragment) : (Fragment.splitBy isBar fs).map Fragment.trimSpaces =
      (Fragment.splitBy isBar (fs.rdropWhile Fragment.isSpace)).map Fragment.trimSpaces := by
    have hspaces : ∀ f ∈ fs.rtakeWhile Fragment.isSpace, f.isSpace = true := fun f hf ↦
      List.mem_rtakeWhile_imp hf
    obtain ⟨front, last, hfront, hwhole⟩ := Fragment.exists_splitBy_append (p := isBar)
      (fs.rdropWhile Fragment.isSpace)
      fun f hf ↦ Token.isOperator_of_isSpace (hspaces f hf) (by decide)
    rw [List.rdropWhile_append_rtakeWhile] at hwhole
    rw [hfront, hwhole, List.map_append, List.map_append, List.map_singleton, List.map_singleton,
      Fragment.trimSpaces_append_spaces _ hspaces]
  rw [hkept gs, hkept fs, h]

/-- The segments of a source text without the spaces at their ends. -/
private def trimmedSegments (source : String) : List (List Fragment) :=
  (segments source).map Fragment.trimSpaces

private theorem isStep_trimSpaces {fs : List Fragment} {step : Option FilterCall} :
    FilterCall.IsStep (Fragment.trimSpaces fs) step ↔ FilterCall.IsStep fs step := by
  rw [← FilterCall.ofFragments?_eq_ok, ← FilterCall.ofFragments?_eq_ok, FilterCall.ofFragments?,
    FilterCall.ofFragments?, Fragment.trimSpaces_trimSpaces]

private theorem read_eq_ok_trimmed {source : String} {p : Pipeline} :
    read source = .ok p ↔ Text.trim source.toList ≠ [] ∧
      p.source = String.ofList (Text.trim source.toList) ∧
      Expr.ofFragments ((trimmedSegments source).head?.getD []) = .ok p.base ∧
      ∃ steps, List.Forall₂ FilterCall.IsStep (trimmedSegments source).tail steps ∧
        p.filters = steps.filterMap id ∧ p.safe = steps.any Option.isNone := by
  have hhead : Expr.ofFragments ((trimmedSegments source).head?.getD []) =
      Expr.ofFragments ((segments source).head?.getD []) := by
    rw [trimmedSegments, List.head?_map]
    cases (segments source).head? with
    | none => rfl
    | some fs => exact Expr.ofFragments_trimSpaces fs
  have htail (steps : List (Option FilterCall)) :
      List.Forall₂ FilterCall.IsStep (trimmedSegments source).tail steps ↔
        List.Forall₂ FilterCall.IsStep (segments source).tail steps := by
    rw [trimmedSegments, ← List.map_tail, List.forall₂_map_left_iff]
    simp only [isStep_trimSpaces]
  simp only [read_eq_ok, hhead, htail]

private theorem exists_ofFragment {source : String} {p : Pipeline} (h : read source = .ok p)
    (hsafe : p.safe = false) :
    ∀ f ∈ Fragment.scan (Text.trim source.toList), f.kind = .other →
      ∃ ts, Token.ofFragment f = .ok ts := by
  obtain ⟨-, -, hbase, steps, hsteps, -, hmark⟩ := read_eq_ok.mp h
  intro f hf hkind
  have hbar : isBar f = false := by simp [isBar, Fragment.isOperator, hkind]
  have hjoined : Token.isJoined f = false := by simp [Token.isJoined, hkind]
  obtain ⟨part, hpart, hmem⟩ := Fragment.exists_mem_splitBy hbar hf
  have hpart : part ∈ segments source := hpart
  cases hsegments : segments source with
  | nil => simp [hsegments] at hpart
  | cons first rest =>
    rw [hsegments] at hpart hbase hsteps
    rcases List.mem_cons.mp hpart with rfl | hpart
    · obtain ⟨ts, hts, -⟩ := Expr.exists_tokens hbase
      obtain ⟨here, hhere, -⟩ := Token.exists_of_mem hts hmem hjoined
      exact ⟨here, hhere⟩
    · obtain ⟨step, hstep, hwritten⟩ := exists_of_forall₂ hsteps hpart
      cases hwritten with
      | mark =>
        rw [hmark, List.any_eq_false] at hsafe
        exact absurd rfl (hsafe none hstep)
      | call hcall => exact hcall.exists_ofFragment hmem hkind

section

variable {source : String} {p : Pipeline} {name : List Char}

private theorem trim_append_filter (h : read source = .ok p) (hname : Text.IsName name) :
    Text.trim (source ++ " | " ++ String.ofList name).toList =
      Text.trim source.toList ++ source.toList.rtakeWhile Text.isBlank ++
        ' ' :: '|' :: ' ' :: name := by
  obtain ⟨front, c, hfront, hc⟩ := exists_last_name hname.toIsIdentifier
  have hlast : ' ' :: '|' :: ' ' :: name = (' ' :: '|' :: ' ' :: front) ++ [c] := by
    rw [hfront]
    rfl
  rw [String.toList_append, String.toList_append, List.append_assoc, String.toList_ofList,
    String.toList_ofList]
  exact trim_append (read_eq_ok.mp h).1 hlast hc

private theorem trimmedSegments_append (h : read source = .ok p) (hsafe : p.safe = false)
    (hregex : ¬Text.LeavesRegexOpen (Text.trim source.toList))
    (hblanks : ∀ c ∈ source.toList.rtakeWhile Text.isBlank, isOperatorChar c = true)
    (hname : Text.IsName name) (hword : name ∉ literalWords) :
    trimmedSegments (source ++ " | " ++ String.ofList name) =
      trimmedSegments source ++ [[⟨name, .path⟩]] := by
  have hends := Scanner.ends_of_tokens hregex (exists_ofFragment h hsafe)
  obtain ⟨hends, gs, hgs, hdrop⟩ := Scanner.foldl_blanks (Scanner.rests_finish _) hends
    fun c hc ↦ ⟨List.mem_rtakeWhile_imp hc, hblanks c hc⟩
  obtain ⟨before, f, hf, hspace, hdrop'⟩ := hgs.pushSpace_rdropWhile
  have hstep := Scanner.step_of_isOperatorChar hends (c := ' ') (by decide) (by decide)
  have hspace : (((source.toList.rtakeWhile Text.isBlank).foldl Scanner.step
      ((Text.trim source.toList).foldl Scanner.step {})).step ' ').Rests (before ++ [f]) := by
    rw [hstep]
    exact hspace
  have hbar := rests_bar hspace hf
  obtain ⟨-, hfinish⟩ := hbar.foldl_name hname
  have hscan : Fragment.scan (Text.trim (source ++ " | " ++ String.ofList name).toList) =
      before ++ [f] ++ .ofOperator '|' :: [.ofOperator ' ', ⟨name, .path⟩] := by
    rw [trim_append_filter h hname, Fragment.scan, List.foldl_append, List.foldl_append,
      List.foldl_cons, List.foldl_cons, List.foldl_cons, hfinish, Scanner.toList_pushWord,
      hbar.fragments, hname.classify hword]
    simp
  rw [trimmedSegments, trimmedSegments, segments, segments, hscan,
    Fragment.splitBy_append (p := isBar) rfl, List.map_append,
    map_trimSpaces_splitBy (hdrop'.trans hdrop)]
  rfl

/-- The name of a filter behind a bar is one more step without arguments. -/
theorem read_append_filter (h : read source = .ok p) (hsafe : p.safe = false)
    (hregex : ¬Text.LeavesRegexOpen (Text.trim source.toList))
    (hblanks : ∀ c ∈ source.toList.rtakeWhile Text.isBlank, isOperatorChar c = true)
    (hname : Text.IsName name) (hword : name ∉ literalWords) (hmark : name ≠ "safe".toList) :
    read (source ++ " | " ++ String.ofList name) = .ok {
      source := String.ofList (Text.trim (source ++ " | " ++ String.ofList name).toList)
      base := p.base
      filters := p.filters ++ [⟨String.ofList name, []⟩]
      safe := false } := by
  obtain ⟨-, -, hbase, steps, hsteps, hfilters, hsteps'⟩ := read_eq_ok_trimmed.mp h
  have hne : trimmedSegments source ≠ [] := by
    simpa [trimmedSegments, segments] using Fragment.splitBy_ne_nil isBar _
  have hstep : FilterCall.IsStep [⟨name, .path⟩] (some ⟨String.ofList name, []⟩) := by
    refine .call ⟨[], ⟨name, .path⟩, [], [], [], rfl, by simp, rfl, rfl, .none⟩ fun hsafe ↦ ?_
    rw [← String.toList_inj, String.toList_ofList] at hsafe
    exact hmark hsafe
  rw [read_eq_ok_trimmed, trimmedSegments_append h hsafe hregex hblanks hname hword,
    List.head?_append_of_ne_nil _ hne, List.tail_append_of_ne_nil hne]
  refine ⟨?_, rfl, hbase, steps ++ [some ⟨String.ofList name, []⟩],
    List.rel_append hsteps (.cons hstep .nil), ?_, ?_⟩
  · rw [trim_append_filter h hname]
    simp
  · rw [List.filterMap_append, ← hfilters]
    rfl
  · rw [List.any_append, ← hsteps', hsafe]
    rfl

end

end Pipeline

end Stencil
