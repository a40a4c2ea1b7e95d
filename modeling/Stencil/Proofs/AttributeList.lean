import Mathlib.Data.List.DropRight
import Mathlib.Data.List.Forall2
import Stencil.Proofs.Scanning.Sources

/-!
# Reading attribute lists

An attribute list that is written with spaces between its assignments is read as the entries that it
is written of, whatever spaces, comparisons, strings and brackets there are in the values. A value
without a name may stand in front. This holds as long as no text but the last one leaves a regular
expression open.
-/

namespace Stencil

open Text (IsName)

namespace AttributeList

/-- Whether an entry is read from a source: from its name, an equals sign and a source that its
value is read from. -/
inductive IsReadFrom : String × Expr → List Char → Prop
  /-- The value stands behind the equals sign. -/
  | assignment {name source : List Char} {e : Expr} (hname : IsName name)
    (he : e.IsReadFrom source) : IsReadFrom (String.ofList name, e) (name ++ '=' :: source)

/-- Whether entries are read from sources, of which the first one may be that of a value without a
name. -/
inductive AreReadFrom (defaultName : String) : List (String × Expr) → List (List Char) → Prop
  /-- Every entry has a name. -/
  | named {entries : List (String × Expr)} {texts : List (List Char)}
    (h : List.Forall₂ IsReadFrom entries texts) : AreReadFrom defaultName entries texts
  /-- The first value has none. -/
  | keyless {e : Expr} {source : List Char} {entries : List (String × Expr)}
    {texts : List (List Char)} (he : e.IsReadFrom source)
    (h : List.Forall₂ IsReadFrom entries texts) :
    AreReadFrom defaultName ((defaultName, e) :: entries) (source :: texts)

/-! ### Reading on behind fragments -/

/-- The entries from the name `key` on, where `before` holds the fragments since the last
assignment, the latest first, and `last` the fragment in front. -/
def entriesBehind (defaultName : String) (key : Option String) (before : List Fragment)
    (last : Option Fragment) (fs : List Fragment) : Except Error (List (String × Expr)) :=
  entriesFrom defaultName key (segmentsFrom before last fs).2 (segmentsFrom before last fs).1

section

variable {defaultName : String} {key : Option String} {before : List Fragment}
  {last : Option Fragment}

/-- Where nothing is left the fragments since the last assignment are the last value. -/
theorem entriesBehind_nil :
    entriesBehind defaultName key before last [] =
      Option.toList <$> entry? defaultName key before.reverse := by
  rw [entriesBehind, segmentsFrom, entriesFrom]
  cases entry? defaultName key before.reverse <;> rfl

/-- Equals signs that make comparisons belong to the value. -/
theorem entriesBehind_append {fs : List Fragment} (hfs : EqualsCompare last fs)
    (rest : List Fragment) :
    entriesBehind defaultName key before last (fs ++ rest) =
      entriesBehind defaultName key (fs.reverse ++ before) (fs.getLast?.or last) rest := by
  induction fs generalizing before last with
  | nil => rfl
  | cons f fs ih =>
    have hassign : (f.isOperator ['='] && !(last.map isComparisonStart).getD false) = false := by
      rw [Bool.and_eq_false_iff]
      cases hf : f.isOperator ['='] with
      | false => exact .inl rfl
      | true =>
        obtain ⟨g, rfl, hg⟩ := hfs.1 hf
        exact .inr (by simp [hg])
    have hlast : (f :: fs).getLast?.or last = fs.getLast?.or (some f) := by
      cases fs <;> simp [List.getLast?_cons]
    rw [hlast, List.reverse_cons, List.append_assoc, List.singleton_append, ← ih hfs.2,
      entriesBehind, List.cons_append, segmentsFrom, hassign]
    rfl

/-- The fragments since the last assignment are a value in front of a name. -/
private def EndsWith (defaultName : String) (key : Option String) (before : List Fragment)
    (entry : Option (String × Expr)) : Prop :=
  ∀ word : Fragment, word.kind ≠ .operator → ∃ value,
    splitName (before.reverse ++ [word]) = (value, [word]) ∧
      entry? defaultName key value = .ok entry

private theorem entriesBehind_assignment {entry : Option (String × Expr)}
    (hbefore : EndsWith defaultName key before entry) {name : List Char} (hname : IsName name)
    {rest : List Fragment} {entries : List (String × Expr)}
    (hrest : entriesBehind defaultName (some (String.ofList name)) []
      (some (.ofOperator '=')) rest = .ok entries) :
    entriesBehind defaultName key before last
      (⟨name, classify name⟩ :: .ofOperator '=' :: rest) = .ok (entry.toList ++ entries) := by
  have hkind : classify name ≠ .operator := classify_ne (by decide) name
  generalize classify name = kind at hkind
  obtain ⟨value, hsplit, hentry⟩ := hbefore ⟨name, kind⟩ hkind
  have hstrip : stripName (Fragment.joinText [⟨name, kind⟩]) = name := by
    rw [Fragment.joinText, List.flatMap_singleton]
    exact hname.stripName [] (List.forall_mem_nil _)
  have hnot : Fragment.isOperator ⟨name, kind⟩ ['='] = false := by
    simp [Fragment.isOperator, hkind]
  have hstart : isComparisonStart ⟨name, kind⟩ = false := by
    simp [isComparisonStart, Fragment.isOperator, hkind]
  have hassign : Fragment.isOperator (.ofOperator '=') ['='] = true := rfl
  simp only [entriesBehind, segmentsFrom, hnot, hstart, hassign, Option.map_some,
    Option.getD_some, Bool.false_and, Bool.not_false, Bool.and_true, Bool.false_eq_true, if_false,
    if_true, List.reverse_cons]
  rw [entriesFrom, hsplit]
  simp only [hentry, hstrip, hname.isEmpty_eq_false]
  rw [entriesBehind] at hrest
  rw [hrest]
  rfl

private theorem endsWith_nil : EndsWith defaultName none [] none := by
  intro word hword
  have hspace : word.isSpace = false := by simp [Fragment.isSpace, hword]
  refine ⟨[], ?_, rfl⟩
  simp [splitName, Fragment.trimSpaces, hspace]

private theorem entry_eq_some {fs : List Fragment} {e : Expr} (he : Expr.ofFragments fs = .ok e) :
    entry? defaultName key fs = .ok (some (key.getD defaultName, e)) := by
  rw [← Expr.ofFragments_trimSpaces] at he
  have hne : (Fragment.trimSpaces fs).isEmpty = false := by
    rw [Bool.eq_false_iff]
    intro hempty
    have hspaces := Expr.all_isSpace_eq_false he
    rw [List.isEmpty_iff.mp hempty] at hspaces
    cases hspaces
  unfold entry?
  simp only [hne, he]
  rfl

private theorem endsWith_space {fs : List Fragment} {e : Expr} (he : Expr.ofFragments fs = .ok e)
    {f : Fragment} (hf : f.isSpace = true) :
    EndsWith defaultName key (f :: fs.reverse) (some (key.getD defaultName, e)) := by
  intro word hword
  have hspace : word.isSpace = false := by simp [Fragment.isSpace, hword]
  have hdrop : (fs ++ [f, word]).dropWhile Fragment.isSpace =
      fs.dropWhile Fragment.isSpace ++ [f, word] := by
    rw [List.dropWhile_append, if_neg]
    rw [List.isEmpty_iff, List.dropWhile_eq_nil_iff, ← List.all_eq_true,
      Expr.all_isSpace_eq_false he]
    simp
  refine ⟨fs.dropWhile Fragment.isSpace, ?_, entry_eq_some ?_⟩
  · simp [splitName, Fragment.trimSpaces, hdrop, hspace, hf]
  · rw [← he, ← Expr.ofFragments_trimSpaces, ← Expr.ofFragments_trimSpaces fs, Fragment.trimSpaces,
      Fragment.trimSpaces, List.dropWhile_idempotent]

/-- A value with nothing behind it. -/
theorem entriesBehind_last {value : List Fragment} {e : Expr}
    (hvalue : EqualsCompare last value) (he : Expr.ofFragments value = .ok e) :
    entriesBehind defaultName key [] last value = .ok [(key.getD defaultName, e)] := by
  rw [← List.append_nil value, entriesBehind_append hvalue, entriesBehind_nil, List.append_nil,
    List.reverse_reverse, entry_eq_some he]
  rfl

private theorem entriesBehind_value {value rest : List Fragment} {e : Expr}
    {entries : List (String × Expr)} (hvalue : EqualsCompare last value)
    (he : Expr.ofFragments value = .ok e) {f : Fragment} (hf : f.isSpace = true)
    (hrest : ∀ before last entry, EndsWith defaultName key before entry →
      entriesBehind defaultName key before last rest = .ok (entry.toList ++ entries)) :
    entriesBehind defaultName key [] last (value ++ [f] ++ rest) =
      .ok ((key.getD defaultName, e) :: entries) := by
  have hspace (last : Option Fragment) : EqualsCompare last [f] :=
    ⟨by simp [Token.isOperator_of_isSpace hf (by decide : '=' ≠ ' ')], trivial⟩
  rw [List.append_assoc, entriesBehind_append hvalue, entriesBehind_append (hspace _),
    hrest _ _ _ (by simpa using endsWith_space he hf)]
  rfl

end

/-! ### Equals signs in values -/

/-- The equals signs in a value make comparisons, at the front and behind a name. -/
theorem equalsCompare_of_isReadFrom {source : List Char} {value : List Fragment} {e : Expr}
    (he : Expr.ofFragments value = .ok e) (hscan : value <+: Fragment.scan source) :
    EqualsCompare none value ∧ EqualsCompare (some (.ofOperator '=')) value := by
  have hapart : Fragment.Apart value := by
    obtain ⟨rest, hrest⟩ := hscan
    have hwhole := Fragment.apart_scan source
    rw [← hrest] at hwhole
    exact (List.isChain_append.mp hwhole).1
  have hassign : Fragment.Apart (.ofOperator '=' :: value) := by
    cases value with
    | nil => exact List.isChain_singleton _
    | cons f fs =>
      refine List.isChain_cons_cons.mpr ⟨fun _ hkind hhead ↦ ?_, hapart⟩
      obtain ⟨cs, htext⟩ := List.head?_eq_some_iff.mp hhead.symm
      have hfirst : '=' = ' ' ∨ isBracket '=' = true ∨ '=' ∈ ['!', '-', '+'] :=
        Expr.head_of_ofFragments he hkind htext
      exact absurd hfirst (by decide)
  exact ⟨Expr.equalsCompare_of_ofFragments he hapart, Expr.equalsCompare_of_ofFragments he hassign⟩

/-! ### Scanning assignments -/

private theorem entriesBehind_scan (defaultName : String) {entries : List (String × Expr)}
    {texts : List (List Char)} (h : List.Forall₂ IsReadFrom entries texts) (hne : texts ≠ [])
    (hregex : ∀ text ∈ texts.dropLast, ¬Text.LeavesRegexOpen text) {t : Scanner}
    {fs : List Fragment} (ht : t.Rests fs) :
    ∃ gs, ((List.intercalate [' '] texts).foldl Scanner.step t).finish.fragments.toList =
        fs ++ gs ∧
      ∀ key before last entry, EndsWith defaultName key before entry →
        entriesBehind defaultName key before last gs = .ok (entry.toList ++ entries) := by
  induction h generalizing t fs with
  | nil => exact absurd rfl hne
  | @cons entry text entries texts hentry hrest ih =>
    obtain @⟨name, source, e, hname, he⟩ := hentry
    have hrests := (ht.foldl_assignment hname he).2
    cases hrest with
    | nil =>
      refine ⟨⟨name, classify name⟩ :: .ofOperator '=' :: Fragment.scan source, ?_,
        fun key before last entry hbefore ↦ ?_⟩
      · rw [List.intercalate_singleton, hrests.fragments]
      have hcompare := (equalsCompare_of_isReadFrom he List.prefix_rfl).2
      exact entriesBehind_assignment hbefore hname (entriesBehind_last hcompare he)
    | @cons entry' text' entries' texts' hentry' hrest' =>
      rw [List.dropLast_cons_of_ne_nil (List.cons_ne_nil _ _), List.forall_mem_cons] at hregex
      have hrests' : ((name ++ '=' :: source).foldl Scanner.step t).finish.Rests
          (fs ++ [⟨name, classify name⟩, .ofOperator '='] ++ Fragment.scan source) := by
        simpa using hrests
      obtain ⟨value, f, ⟨hf, -⟩, hspace, hvalue, hpart⟩ :=
        hrests'.step_space (ht.ends_assignment hname he hregex.1) he
      obtain ⟨gs, hscan, hread⟩ := ih (List.cons_ne_nil _ _) hregex.2 hspace
      refine ⟨⟨name, classify name⟩ :: .ofOperator '=' :: (value ++ [f] ++ gs), ?_,
        fun key before last entry hbefore ↦ ?_⟩
      · rw [List.intercalate_cons_cons, List.foldl_append, List.foldl_append]
        simpa using hscan
      · have hcompare := (equalsCompare_of_isReadFrom hvalue hpart).2
        exact entriesBehind_assignment hbefore hname
          (entriesBehind_value hcompare hvalue hf (hread _))

private theorem read_of_entriesBehind {defaultName : String} {source : List Char}
    {entries : List (String × Expr)}
    (h : entriesBehind defaultName none [] none (Fragment.scan source) = .ok entries) :
    read (String.ofList source) defaultName = .ok ⟨entries⟩ := by
  rw [entriesBehind] at h
  simp only [read, String.toList_ofList, h]
  rfl

/-- Assignments with spaces between them are read as an attribute list with their entries. -/
theorem read_named {defaultName : String} {entries : List (String × Expr)}
    {texts : List (List Char)} (h : List.Forall₂ IsReadFrom entries texts)
    (hregex : ∀ text ∈ texts.dropLast, ¬Text.LeavesRegexOpen text) :
    read (String.ofList (List.intercalate [' '] texts)) defaultName = .ok ⟨entries⟩ := by
  apply read_of_entriesBehind
  by_cases hne : texts = []
  · subst hne
    cases h
    rfl
  · obtain ⟨gs, hscan, hentries⟩ :=
      entriesBehind_scan defaultName h hne hregex Scanner.rests_empty
    rw [Fragment.scan, hscan]
    exact hentries _ _ _ _ endsWith_nil

/-- Assignments with spaces between them, and perhaps a value in front of them, are read as an
attribute list with their entries. -/
theorem read_assignments {defaultName : String} {entries : List (String × Expr)}
    {texts : List (List Char)} (h : AreReadFrom defaultName entries texts)
    (hregex : ∀ text ∈ texts.dropLast, ¬Text.LeavesRegexOpen text) :
    read (String.ofList (List.intercalate [' '] texts)) defaultName = .ok ⟨entries⟩ := by
  cases h with
  | named h => exact read_named h hregex
  | @keyless e source entries texts he h =>
    apply read_of_entriesBehind
    by_cases hne : texts = []
    · subst hne
      cases h
      rw [List.intercalate_singleton]
      exact entriesBehind_last (equalsCompare_of_isReadFrom he List.prefix_rfl).1 he
    · rw [List.dropLast_cons_of_ne_nil hne, List.forall_mem_cons] at hregex
      have hrests : (source.foldl Scanner.step {}).finish.Rests ([] ++ Fragment.scan source) :=
        Scanner.rests_finish _
      obtain ⟨value, f, ⟨hf, -⟩, hspace, hvalue, hpart⟩ :=
        hrests.step_space (he.ends hregex.1) he
      obtain ⟨gs, hscan, hentries⟩ := entriesBehind_scan defaultName h hne hregex.2 hspace
      have hfragments : Fragment.scan (List.intercalate [' '] (source :: texts)) =
          value ++ [f] ++ gs := by
        rw [List.intercalate_cons_of_ne_nil hne, Fragment.scan, List.foldl_append,
          List.foldl_append]
        exact hscan
      have hcompare := (equalsCompare_of_isReadFrom hvalue hpart).1
      rw [hfragments]
      exact entriesBehind_value hcompare hvalue hf (hentries none)

/-- The equals sign and the space in the string belong to the value, and so does the comparison. -/
theorem read_assignments_mixed :
    read "d == null a='= ' _b=d" "value" =
      .ok ⟨[("value", .binary .eq (.path "d" []) (.const .null)),
        ("a", .const (.text "= " false)), ("_b", .path "d" [])]⟩ := by
  have heq : Expr.IsReadFrom (.binary .eq (.path "d" []) (.const .null)) "d == null".toList := rfl
  have hstr : Expr.IsReadFrom (.const (.text "= " false)) "'= '".toList := rfl
  have hpath : Expr.IsReadFrom (.path "d" []) "d".toList := rfl
  have ha : IsName "a".toList := by decide
  have hb : IsName "_b".toList := by decide
  have hentries : AreReadFrom "value" _ _ :=
    .keyless heq (.cons (.assignment ha hstr) (.cons (.assignment hb hpath) .nil))
  have hsource : "d == null a='= ' _b=d" = String.ofList (List.intercalate [' ']
      ["d == null".toList, "a".toList ++ '=' :: "'= '".toList,
        "_b".toList ++ '=' :: "d".toList]) := by
    decide
  have hread := read_assignments hentries (by decide)
  simp only [String.ofList_toList] at hread
  rw [hsource]
  exact hread

/-- A regular expression that ends with an escaped slash is read by itself, but it is open, and
takes in the assignment behind it. -/
theorem read_assignments_openRegex :
    ∃ e e', AreReadFrom "value" [("a", e), ("b", e')]
        ["a=r/(?x)#\\/".toList, "b=null".toList] ∧
      read "a=r/(?x)#\\/ b=null" "value" = .error (.syntaxError "unknown regex flag ` `") := by
  obtain ⟨e, he⟩ : ∃ e : Expr, e.IsReadFrom "r/(?x)#\\/".toList := ⟨_, rfl⟩
  have hnull : Expr.IsReadFrom (.const .null) "null".toList := rfl
  have ha : IsName "a".toList := by decide
  have hb : IsName "b".toList := by decide
  have hscan : Fragment.scan "a=r/(?x)#\\/ b=null".toList =
      [⟨"a".toList, .path⟩, .ofOperator '=', ⟨"/(?x)#\\/ b=null".toList, .regex⟩] := rfl
  refine ⟨e, _, .named (.cons (.assignment ha he) (.cons (.assignment hb hnull) .nil)), ?_⟩
  rw [read, hscan]
  rfl

end AttributeList

end Stencil
