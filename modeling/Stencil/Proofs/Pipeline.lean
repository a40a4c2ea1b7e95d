import Stencil.Proofs.Scanning.Blanks
import Stencil.Proofs.Scanning.Rows
import Stencil.Proofs.Steps

/-!
# Reading pipelines

A pipeline that is written as an expression and steps, with a bar and spaces between them, is read
as the expression and the steps that it is written of: the bars in operators, strings and regular
expressions belong to what they stand in. This holds as long as no source leaves a regular
expression open with something behind it.
-/

namespace Stencil

open Text (IsName)

/-- How a step of a pipeline is written: a name, and maybe sources of arguments. -/
structure StepSource where
  /-- The name. -/
  name : List Char
  /-- What stands between the parentheses, if there are any. -/
  args : Option (List (List Char))

namespace StepSource

/-- The sources of the arguments. -/
def argSources (s : StepSource) : List (List Char) := s.args.getD []

/-- The text of the step: arguments stand in parentheses, with commas between them. -/
def text (s : StepSource) : List Char :=
  match s.args with
  | none => s.name
  | some texts => s.name ++ '(' :: (List.intercalate [','] texts ++ [')'])

end StepSource

/-- Whether the step of a pipeline is read from a source, where nothing is the mark of safe results.
A filter may have arguments, each of which is read from its own source. -/
inductive FilterCall.IsReadFrom : Option FilterCall → StepSource → Prop where
  /-- The mark of safe results has no arguments. -/
  | mark : IsReadFrom none ⟨"safe".toList, none⟩
  /-- The name of a filter is none of the words for values. -/
  | call {s : StepSource} {args : List Expr} (hname : IsName s.name)
    (hword : s.name ∉ literalWords) (hsafe : s.name ≠ "safe".toList)
    (hargs : List.Forall₂ Expr.IsReadFrom args s.argSources) :
    IsReadFrom (some ⟨String.ofList s.name, args⟩) s

/-! ### Scanning steps -/

/-- The fragments of a step: with spaces around them they are the step, and they do not end with a
space themselves. -/
private structure StandsFor (step : Option FilterCall) (part : List Fragment) : Prop where
  /-- With spaces around them they are the step. -/
  step : ∀ after : List Fragment, (∀ f ∈ after, f.isSpace = true) →
    FilterCall.IsStep (.ofOperator ' ' :: (part ++ after)) step
  /-- The last one is no space. -/
  last : ∃ before f, part = before ++ [f] ∧ f.isSpace = false

private theorem scans_name {name : List Char} (hname : IsName name) (hword : name ∉ literalWords)
    {t : Scanner} {fs : List Fragment} (ht : t.Rests fs) : t.Scans fs name [⟨name, .path⟩] := by
  obtain ⟨hmode, hfinish⟩ := ht.foldl_name hname
  rw [hname.classify hword] at hfinish
  refine ⟨?_, hmode ▸ trivial, List.forall_mem_singleton.mpr rfl⟩
  rw [hfinish]
  exact Scanner.Rests.pushWord ht.fragments name .path

private theorem standsFor_call {name : List Char} (hsafe : name ≠ "safe".toList)
    {rest : List Fragment} {args : List Expr} (hargs : FilterCall.IsArguments rest args)
    (hlast : ∀ f ∈ rest.getLast?, f.isSpace = false) :
    StandsFor (some ⟨String.ofList name, args⟩) (⟨name, .path⟩ :: rest) := by
  refine ⟨fun after hafter ↦ ?_, ?_⟩
  · refine .call ⟨[.ofOperator ' '], ⟨name, .path⟩, [], rest, after, rfl, ?_, rfl, rfl, hargs⟩ ?_
    · exact List.forall_mem_append.mpr ⟨List.forall_mem_singleton.mpr rfl, hafter⟩
    · intro h
      rw [← String.toList_inj, String.toList_ofList] at h
      exact hsafe h
  · rcases List.eq_nil_or_concat' rest with rfl | ⟨before, f, rfl⟩
    · exact ⟨[], _, rfl, rfl⟩
    · exact ⟨_ :: before, f, rfl, hlast f (by simp)⟩

private theorem exists_scans_step {step : Option FilterCall} {source : StepSource}
    (h : FilterCall.IsReadFrom step source)
    (hregex : ∀ text ∈ source.argSources, ¬Text.LeavesRegexOpen text) {t : Scanner}
    {fs : List Fragment} (ht : t.Rests fs) :
    ∃ part, t.Scans fs source.text part ∧ StandsFor step part := by
  cases h with
  | mark =>
    refine ⟨_, scans_name (by decide) (by decide) ht, fun after _ ↦ .mark ?_, [], _, rfl, rfl⟩
    exact ⟨[.ofOperator ' '], _, after, rfl, List.forall_mem_singleton.mpr rfl, rfl, rfl⟩
  | @call source args hname hword hsafe hargs =>
    obtain ⟨name, sources⟩ := source
    have hscans := scans_name hname hword ht
    cases sources with
    | none =>
      cases hargs
      exact ⟨_, hscans, standsFor_call hsafe .none (by simp)⟩
    | some texts =>
      have hargs : List.Forall₂ Expr.IsReadFrom args texts := hargs
      have hopen : ((name.foldl Scanner.step t).step '(').Rests
          (fs ++ [⟨name, .path⟩] ++ [.ofOperator '(']) :=
        hscans.rests.step_symbol hscans.ends (by decide) (Scanner.continues_of_isBracket rfl _)
      obtain ⟨gs, hgs, ts, n, hts, hn, hitems⟩ := Item.exists_scans_items
        (Expr.IsReadFrom.forall₂_isScannedFrom hargs hregex) hopen (by decide)
      have hclose : ((StepSource.text ⟨name, some texts⟩).foldl Scanner.step t).Rests
          (fs ++ ⟨name, .path⟩ :: (.ofOperator '(' :: gs ++ [.ofOperator ')'])) := by
        have hrests := hgs.rests.step_symbol hgs.ends (c := ')') (by decide)
          (Scanner.continues_of_isBracket rfl _)
        simpa [StepSource.text] using hrests
      refine ⟨_, ⟨hclose.finish.symm ▸ hclose, hclose.mode ▸ trivial, ?_⟩,
        standsFor_call hsafe (.list hts hn hitems) ?_⟩
      · simpa [or_imp, forall_and] using ⟨rfl, rfl, hgs.bars, rfl⟩
      · rw [List.getLast?_concat]
        exact fun f hf ↦ Option.mem_some.mp hf ▸ rfl

/-- Behind a space, a bar and the space behind it are scanned by themselves. -/
theorem rests_bar {t : Scanner} {fs : List Fragment} {f : Fragment}
    (ht : t.Rests (fs ++ [f])) (hf : f.isSpace = true ∧ f.text ≠ []) :
    ((t.step '|').step ' ').Rests (fs ++ [f] ++ [.ofOperator '|'] ++ [.ofOperator ' ']) := by
  obtain ⟨c, cs, htext⟩ := List.exists_cons_of_ne_nil hf.2
  obtain rfl : c = ' ' := Token.text_of_isSpace hf.1 c (by simp [htext])
  have hbar : (t.step '|').Rests (fs ++ [f] ++ [.ofOperator '|']) :=
    ht.step_between (by decide) (by simp [htext])
  exact hbar.step_between (by decide) rfl

private theorem exists_scans_steps {steps : List (Option FilterCall)} {sources : List StepSource}
    (h : List.Forall₂ FilterCall.IsReadFrom steps sources) (hne : sources ≠ [])
    (hregex : ∀ source ∈ sources, ∀ text ∈ source.argSources, ¬Text.LeavesRegexOpen text)
    {t : Scanner} {fs : List Fragment} {f : Fragment} (ht : t.Rests (fs ++ [f]))
    (hf : f.isSpace = true ∧ f.text ≠ []) :
    ∃ gs, (('|' :: ' ' :: List.intercalate [' ', '|', ' '] (sources.map StepSource.text)).foldl
        Scanner.step t).finish.fragments.toList = fs ++ [f] ++ .ofOperator '|' :: gs ∧
      List.Forall₂ FilterCall.IsStep (Fragment.splitBy Pipeline.isBar gs) steps := by
  induction h generalizing t fs f with
  | nil => exact absurd rfl hne
  | @cons step source steps sources hstep hrest ih =>
    obtain ⟨hopen, hregex⟩ := List.forall_mem_cons.mp hregex
    obtain ⟨part, hpart, hstands⟩ := exists_scans_step hstep hopen (rests_bar ht hf)
    have hfront : ∀ f ∈ Fragment.ofOperator ' ' :: part, Pipeline.isBar f = false :=
      List.forall_mem_cons.mpr ⟨rfl, hpart.bars⟩
    rw [List.map_cons]
    cases hrest with
    | nil =>
      refine ⟨.ofOperator ' ' :: part, ?_, ?_⟩
      · rw [List.map_nil, List.intercalate_singleton, List.foldl_cons, List.foldl_cons,
          hpart.rests.fragments]
        simp
      · rw [Fragment.splitBy_eq_singleton hfront]
        have hlast := hstands.step [] (List.forall_mem_nil _)
        rw [List.append_nil] at hlast
        exact .cons hlast .nil
    | @cons step' source' steps' sources' hstep' hrest' =>
      obtain ⟨before, g, rfl, hg⟩ := hstands.last
      have hbehind := hpart.rests
      rw [← List.append_assoc] at hbehind
      have hnext := hbehind.step_operator hpart.ends (c := ' ') (by decide) hg
      obtain ⟨gs, hgs, hsteps⟩ := ih (List.cons_ne_nil _ _) hregex hnext ⟨rfl, List.cons_ne_nil _ _⟩
      refine ⟨.ofOperator ' ' :: (before ++ [g] ++ [.ofOperator ' ']) ++ .ofOperator '|' :: gs,
        ?_, ?_⟩
      · rw [List.map_cons, List.intercalate_cons_cons, List.foldl_cons, List.foldl_cons,
          List.foldl_append, List.foldl_append]
        rw [List.map_cons] at hgs
        simpa using hgs
      · rw [Fragment.splitBy_append_cons _ rfl]
        · exact .cons (hstands.step _ (List.forall_mem_singleton.mpr rfl)) hsteps
        · rw [← List.cons_append]
          exact List.forall_mem_append.mpr ⟨hfront, List.forall_mem_singleton.mpr rfl⟩

/-! ### Blanks at the ends -/

/-- A name does not end with a blank. -/
theorem exists_last_name {name : List Char} (hname : Text.IsIdentifier name) :
    ∃ front c, name = front ++ [c] ∧ Text.isBlank c = false := by
  rcases List.eq_nil_or_concat' name with rfl | ⟨front, c, rfl⟩
  · exact absurd hname.isEmpty_eq_false (by decide)
  · exact ⟨front, c, rfl, isBlank_of_isNameChar (hname.chars c (by simp))⟩

private theorem exists_last_step {step : Option FilterCall} {source : StepSource}
    (h : FilterCall.IsReadFrom step source) :
    ∃ front c, source.text = front ++ [c] ∧ Text.isBlank c = false := by
  cases h with
  | mark => exact exists_last_name (by decide)
  | @call source args hname _ _ _ =>
    obtain ⟨name, sources⟩ := source
    cases sources with
    | none => exact exists_last_name hname.toIsIdentifier
    | some texts =>
      refine ⟨name ++ '(' :: List.intercalate [','] texts, ')', ?_, by decide⟩
      simp [StepSource.text]

private theorem exists_last_steps {steps : List (Option FilterCall)} {sources : List StepSource}
    (h : List.Forall₂ FilterCall.IsReadFrom steps sources) (hne : sources ≠ []) (sep : List Char) :
    ∃ front c, List.intercalate sep (sources.map StepSource.text) = front ++ [c] ∧
      Text.isBlank c = false := by
  induction h with
  | nil => exact absurd rfl hne
  | @cons step source steps sources hstep hrest ih =>
    cases hrest with
    | nil =>
      rw [List.map_singleton, List.intercalate_singleton]
      exact exists_last_step hstep
    | cons hstep' hrest' =>
      obtain ⟨front, c, hfront, hc⟩ := ih (List.cons_ne_nil _ _)
      refine ⟨source.text ++ sep ++ front, c, ?_, hc⟩
      rw [List.map_cons, List.map_cons, List.intercalate_cons_cons, ← List.map_cons, hfront,
        ← List.append_assoc]

private theorem ne_nil_of_isReadFrom {e : Expr} {source : List Char} (he : e.IsReadFrom source) :
    source ≠ [] := by
  rintro rfl
  cases he

private theorem trim_joined {e : Expr} {base : List Char} (he : e.IsReadFrom base)
    {steps : List (Option FilterCall)} {sources : List StepSource}
    (hsteps : List.Forall₂ FilterCall.IsReadFrom steps sources) (hne : sources ≠ []) :
    Text.trim (List.intercalate [' ', '|', ' '] (base :: sources.map StepSource.text)) =
      base.dropWhile Text.isBlank ++ ' ' :: '|' :: ' ' ::
        List.intercalate [' ', '|', ' '] (sources.map StepSource.text) := by
  have hbase := ne_nil_of_isReadFrom he.dropWhile_isBlank.1
  obtain ⟨rest, c, hrest, hc⟩ := exists_last_steps hsteps hne [' ', '|', ' ']
  rw [List.intercalate_cons_of_ne_nil (by simpa using hne), hrest, List.append_assoc, Text.trim,
    Text.trimWhile, List.dropWhile_append, if_neg (by simpa using hbase)]
  have hlast := Text.dropEndWhile_append_cons hc
    (base.dropWhile Text.isBlank ++ ' ' :: '|' :: ' ' :: rest) []
  simpa [Text.dropEndWhile] using hlast

/-! ### Pipelines -/

namespace Pipeline

private theorem any_isNone {steps : List (Option FilterCall)} {sources : List StepSource}
    (h : List.Forall₂ FilterCall.IsReadFrom steps sources) :
    steps.any Option.isNone = sources.any fun source ↦ source.name == "safe".toList := by
  induction h with
  | nil => rfl
  | cons hstep _ ih =>
    rw [List.any_cons, List.any_cons, ih]
    cases hstep with
    | mark => rfl
    | call _ _ hsafe _ =>
      rw [beq_eq_false_iff_ne.mpr hsafe]
      rfl

/-- An expression is read as a pipeline without filters. -/
theorem read_of_isReadFrom {e : Expr} {source : List Char} (h : e.IsReadFrom (Text.trim source)) :
    read (String.ofList source) = .ok ⟨String.ofList (Text.trim source), e, [], false⟩ := by
  rw [read_eq_ok, segments, String.toList_ofList, Fragment.splitBy_eq_singleton h.isBar_scan]
  exact ⟨ne_nil_of_isReadFrom h, rfl, h, [], .nil, rfl, rfl⟩

/-- An expression and steps, with a bar and spaces between them, are read as the pipeline of that
expression and these steps: the filters with their own arguments, one after the other, and the mark
of safe results if it is among the steps. -/
theorem read_joined {e : Expr} {base : List Char} (he : e.IsReadFrom base)
    {steps : List (Option FilterCall)} {sources : List StepSource}
    (hsteps : List.Forall₂ FilterCall.IsReadFrom steps sources)
    (hbase : sources ≠ [] → ¬Text.LeavesRegexOpen base)
    (hargs : ∀ source ∈ sources, ∀ text ∈ source.argSources, ¬Text.LeavesRegexOpen text) :
    let whole := List.intercalate [' ', '|', ' '] (base :: sources.map StepSource.text)
    read (String.ofList whole) = .ok {
      source := String.ofList (Text.trim whole)
      base := e
      filters := steps.filterMap id
      safe := sources.any fun source ↦ source.name == "safe".toList } := by
  intro whole
  obtain ⟨hfront, hmode⟩ := he.dropWhile_isBlank
  by_cases hne : sources = []
  · subst hne
    cases hsteps
    have hwhole : whole = base := List.intercalate_singleton
    have htrim : e.IsReadFrom (Text.trim whole) := by
      rw [hwhole]
      exact hfront.dropEndWhile_isBlank
    exact read_of_isReadFrom htrim
  · rw [read_eq_ok, segments, String.toList_ofList]
    have hclosed : ¬Text.LeavesRegexOpen (base.dropWhile Text.isBlank) := by
      rw [Text.LeavesRegexOpen, hmode]
      exact hbase hne
    have hends := hfront.ends hclosed
    have hrests : ((base.dropWhile Text.isBlank).foldl Scanner.step {}).finish.Rests
        ([] ++ Fragment.scan (base.dropWhile Text.isBlank)) := Scanner.rests_finish _
    obtain ⟨value, f, hf, hspace, hvalue, hinit⟩ := hrests.step_space hends hfront
    obtain ⟨gs, hscan, hsegments⟩ := exists_scans_steps hsteps hne hargs hspace hf
    have htrim : Text.trim whole = _ := trim_joined he hsteps hne
    have hbars : ∀ g ∈ value ++ [f], isBar g = false := by
      refine List.forall_mem_append.mpr ⟨fun g hg ↦ hfront.isBar_scan g (hinit.subset hg), ?_⟩
      exact List.forall_mem_singleton.mpr (Token.isOperator_of_isSpace hf.1 (by decide))
    have hsplit : Fragment.splitBy isBar (Fragment.scan (Text.trim whole)) =
        (value ++ [f]) :: Fragment.splitBy isBar gs := by
      rw [htrim, Fragment.scan, List.foldl_append, List.foldl_cons, hscan, List.nil_append,
        Fragment.splitBy_append_cons hbars rfl]
    rw [hsplit]
    refine ⟨?_, rfl, ?_, steps, hsegments, rfl, (any_isNone hsteps).symm⟩
    · rw [htrim]
      simp
    · exact (Expr.ofFragments_append_space hf.1 value).trans hvalue

/-- The bars in the operators and strings of the expression and of an argument split nothing. -/
theorem read_joined_bars :
    read " a || '|' | f(b||'|',c) | safe | upper" =
      .ok ⟨"a || '|' | f(b||'|',c) | safe | upper",
        .binary .or (.path "a" []) (.const (.text "|" false)),
        [⟨"f", [.binary .or (.path "b" []) (.const (.text "|" false)), .path "c" []]⟩,
          ⟨"upper", []⟩], true⟩ := by
  have hbase : Expr.IsReadFrom (.binary .or (.path "a" []) (.const (.text "|" false)))
      " a || '|'".toList :=
    Expr.IsReadFrom.of_tokens [.ofOperator ' ', ⟨"a".toList, .path⟩, .ofOperator ' ',
      ⟨"||".toList, .operator⟩, .ofOperator ' ', ⟨"'|'".toList, .str⟩]
      [.path "a".toList, .symbol .or, .str "|"] rfl rfl rfl
  have hor : Expr.IsReadFrom (.binary .or (.path "b" []) (.const (.text "|" false)))
      "b||'|'".toList :=
    Expr.IsReadFrom.of_tokens [⟨"b".toList, .path⟩, ⟨"||".toList, .operator⟩, ⟨"'|'".toList, .str⟩]
      [.path "b".toList, .symbol .or, .str "|"] rfl rfl rfl
  have hpath : Expr.IsReadFrom (.path "c" []) "c".toList := rfl
  have hsteps := List.Forall₂.cons
    (FilterCall.IsReadFrom.call (s := ⟨"f".toList, some ["b||'|'".toList, "c".toList]⟩)
      (by decide) (by decide) (by decide) (.cons hor (.cons hpath .nil)))
    (.cons .mark (.cons
      (FilterCall.IsReadFrom.call (s := ⟨"upper".toList, none⟩) (by decide) (by decide) (by decide)
        .nil) .nil))
  have hread := read_joined hbase hsteps (fun _ ↦ by decide) (by decide)
  have hwhole : List.intercalate [' ', '|', ' '] (" a || '|'".toList :: List.map StepSource.text
      [⟨"f".toList, some ["b||'|'".toList, "c".toList]⟩, ⟨"safe".toList, none⟩,
        ⟨"upper".toList, none⟩]) = " a || '|' | f(b||'|',c) | safe | upper".toList := by
    decide
  simp only [hwhole, String.ofList_toList] at hread
  rw [hread]
  rfl

/-- A regular expression that ends with an escaped slash is read by itself, but it is open, and
takes in the steps behind it. -/
theorem read_joined_openRegex :
    ∃ e : Expr, e.IsReadFrom "r/(?x)#\\/".toList ∧
      FilterCall.IsReadFrom none ⟨"safe".toList, none⟩ ∧
      read "r/(?x)#\\/ | safe" = .error (.syntaxError "unknown regex flag ` `") := by
  obtain ⟨e, he⟩ : ∃ e : Expr, e.IsReadFrom "r/(?x)#\\/".toList := ⟨_, rfl⟩
  have htrim : Text.trim "r/(?x)#\\/ | safe".toList = "r/(?x)#\\/ | safe".toList := by decide
  have hscan : Fragment.scan "r/(?x)#\\/ | safe".toList =
      [⟨"/(?x)#\\/ | safe".toList, .regex⟩] := rfl
  refine ⟨e, he, .mark, ?_⟩
  rw [read, htrim, hscan]
  rfl

end Pipeline

end Stencil
