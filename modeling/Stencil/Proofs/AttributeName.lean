import Stencil.Proofs.AttributeList

/-!
# Names in attribute lists

A name with dashes in it is scanned as the words between them, and put together again from the texts
of its fragments. Words that stand for operators are written as these operators by then, so that a
name is kept as it is written if none of its words is one of them, and only then.
-/

namespace Stencil

/-- A name of an attribute: a letter or an underscore, and letters, digits, underscores and dashes
behind it. -/
structure Text.IsAttributeName (s : List Char) : Prop where
  /-- The first character is a letter or an underscore. -/
  first : ∃ c cs, s = c :: cs ∧ (c.isAlpha = true ∨ c = '_')
  /-- All characters may stand in names, or are dashes. -/
  chars : ∀ c ∈ s, isNameChar c = true ∨ c = '-'

instance (s : List Char) : Decidable (Text.IsAttributeName s) :=
  decidable_of_iff
    ((s.head?.any fun c ↦ c.isAlpha || c == '_') = true ∧
      s.all (fun c ↦ isNameChar c || c == '-') = true) <| by
    rw [List.all_eq_true]
    constructor
    · rintro ⟨hfirst, hchars⟩
      cases s with
      | nil => cases hfirst
      | cons c cs => exact ⟨⟨c, cs, rfl, by simpa using hfirst⟩, by simpa using hchars⟩
    · rintro ⟨⟨c, cs, rfl, hc⟩, hchars⟩
      exact ⟨by simpa using hc, by simpa using hchars⟩

/-! ### Words between dashes -/

/-- The fragments of a word: none if it is empty, and an operator if the word stands for one. -/
def Fragment.ofWord (word : List Char) : List Fragment :=
  if word = [] then []
  else if word = "not".toList then [.ofOperator '!']
  else if word = "or".toList then [⟨['|', '|'], .operator⟩]
  else if word = "and".toList then [⟨['&', '&'], .operator⟩]
  else [⟨word, classify word⟩]

/-- The text that is left of a word. -/
def Fragment.wordText (word : List Char) : List Char := joinText (ofWord word)

/-- The text that is left of the words between dashes. -/
def AttributeList.keyText (key : List Char) : List Char :=
  List.intercalate ['-'] ((Text.splitAtChar '-' key).map Fragment.wordText)

open Fragment (joinText ofWord wordText)

section

variable {word : List Char}

private theorem wordText_of_not_mem (h : word ∉ operatorWords) : wordText word = word := by
  simp only [operatorWords, List.mem_cons, List.not_mem_nil, or_false, not_or] at h
  rw [wordText, ofWord]
  split
  · next hnil => exact hnil.symm
  · rw [if_neg h.1, if_neg h.2.1, if_neg h.2.2]
    exact List.append_nil _

private theorem exists_mem_wordText (h : word ∈ operatorWords) :
    ∃ c ∈ wordText word, isNameChar c = false ∧ c ≠ '-' := by
  simp only [operatorWords, List.mem_cons, List.not_mem_nil, or_false] at h
  rcases h with rfl | rfl | rfl
  · exact ⟨'!', by decide, by decide, by decide⟩
  · exact ⟨'|', by decide, by decide, by decide⟩
  · exact ⟨'&', by decide, by decide, by decide⟩

private theorem wordText_eq_nil (h : wordText word = []) : word = [] := by
  by_cases hword : word ∈ operatorWords
  · obtain ⟨c, hc, -⟩ := exists_mem_wordText hword
    rw [h] at hc
    cases hc
  · rwa [wordText_of_not_mem hword] at h

private theorem mem_wordText (hword : ∀ c ∈ word, isNameChar c = true) :
    ∀ c ∈ wordText word, isNameChar c = true ∨ c ∈ ['!', '|', '&'] := by
  have hall :
      operatorWords.all (fun word ↦ (wordText word).all ['!', '|', '&'].contains) = true := by
    decide
  by_cases h : word ∈ operatorWords
  · intro c hc
    exact .inr (List.contains_iff_mem.mp
      (List.all_eq_true.mp (List.all_eq_true.mp hall word h) c hc))
  · rw [wordText_of_not_mem h]
    exact fun c hc ↦ .inl (hword c hc)

end

private theorem exists_splitAtChar (sep : Char) (s : List Char) :
    ∃ front last, Text.splitAtChar sep s = front ++ [last] ∧
      s = front.flatMap (· ++ [sep]) ++ last := by
  induction s with
  | nil => exact ⟨[], [], rfl, rfl⟩
  | cons c cs ih =>
    obtain ⟨front, last, hsplit, hcs⟩ := ih
    rw [Text.splitAtChar]
    split
    · next hsep =>
      subst hsep
      exact ⟨[] :: front, last, by rw [hsplit]; rfl, by simp [← hcs]⟩
    · rw [hsplit]
      cases front with
      | nil => exact ⟨[], c :: last, rfl, by simpa using hcs⟩
      | cons part front => exact ⟨(c :: part) :: front, last, rfl, by simpa using hcs⟩

private theorem not_mem_splitAtChar (sep : Char) (s : List Char) :
    ∀ part ∈ Text.splitAtChar sep s, sep ∉ part := by
  induction s with
  | nil => simp [Text.splitAtChar]
  | cons c cs ih =>
    rw [Text.splitAtChar]
    split
    · exact List.forall_mem_cons.mpr ⟨List.not_mem_nil, ih⟩
    · next hsep =>
      cases hsplit : Text.splitAtChar sep cs with
      | nil => simp [Text.consHead, Ne.symm hsep]
      | cons part parts =>
        rw [hsplit] at ih
        obtain ⟨hpart, hparts⟩ := List.forall_mem_cons.mp ih
        exact List.forall_mem_cons.mpr ⟨by simp [Ne.symm hsep, hpart], hparts⟩

private theorem intercalate_append_singleton (sep : Char) (parts : List (List Char))
    (last : List Char) : List.intercalate [sep] (parts ++ [last]) =
      parts.flatMap (· ++ [sep]) ++ last := by
  induction parts with
  | nil => exact List.intercalate_singleton
  | cons part parts ih =>
    rw [List.cons_append, List.intercalate_cons_of_ne_nil (by simp), ih]
    simp

/-! ### Scanning names -/

/-- A fragment of a name: a word, or an operator that begins no comparison. -/
private def IsKeyFragment (f : Fragment) : Prop :=
  f.kind = .operator → ∃ c ∈ ['-', '!', '|', '&'], ∃ n, f.text = List.replicate (n + 1) c

private theorem isKeyFragment_ofWord (word : List Char) : ∀ f ∈ ofWord word, IsKeyFragment f := by
  unfold ofWord
  repeat' split
  · exact List.forall_mem_nil _
  · exact List.forall_mem_singleton.mpr fun _ ↦ ⟨'!', by decide, 0, rfl⟩
  · exact List.forall_mem_singleton.mpr fun _ ↦ ⟨'|', by decide, 1, rfl⟩
  · exact List.forall_mem_singleton.mpr fun _ ↦ ⟨'&', by decide, 1, rfl⟩
  · exact List.forall_mem_singleton.mpr fun hkind ↦ absurd hkind (classify_ne (by decide) word)

private theorem IsKeyFragment.isSpace {f : Fragment} (h : IsKeyFragment f) : f.isSpace = false := by
  rw [Bool.eq_false_iff]
  intro hspace
  have hkind : f.kind = .operator := by simpa using (Bool.and_eq_true_iff.mp hspace).1
  obtain ⟨c, hc, n, htext⟩ := h hkind
  have hblank := Token.text_of_isSpace hspace c (by simp [htext])
  subst hblank
  exact absurd hc (by decide)

private theorem IsKeyFragment.all_eq_false {f : Fragment} (h : IsKeyFragment f) :
    (f.kind == .operator && f.text.all (· == '=')) = false := by
  rw [Bool.eq_false_iff]
  intro hall
  simp only [Bool.and_eq_true, beq_iff_eq] at hall
  obtain ⟨c, hc, n, htext⟩ := h hall.1
  have hequals : c = '=' := by simpa [htext] using hall.2
  subst hequals
  exact absurd hc (by decide)

private theorem IsKeyFragment.isOperator {f : Fragment} (h : IsKeyFragment f) :
    f.isOperator ['='] = false := by
  have hall := h.all_eq_false
  rw [Bool.eq_false_iff] at hall ⊢
  intro hop
  obtain ⟨text, kind⟩ := f
  simp only [Fragment.isOperator, Bool.and_eq_true, beq_iff_eq] at hop
  exact hall (by simp [hop.1, hop.2])

/-- The fragments of a name that ends with a dash, or is empty. -/
private structure IsKeyFront (text : List Char) (fs : List Fragment) : Prop where
  /-- The fragments make up the text. -/
  text : joinText fs = text
  /-- All of them are fragments of names. -/
  fragments : ∀ f ∈ fs, IsKeyFragment f
  /-- The last one consists of dashes. -/
  last : fs = [] ∨ ∃ before n, fs = before ++ [⟨List.replicate (n + 1) '-', .operator⟩]

private theorem IsKeyFront.continues_eq_false {text : List Char} {fs : List Fragment}
    (h : IsKeyFront text fs) {t : Scanner} (ht : t.Rests fs) : t.continues '!' = false := by
  rcases h.last with rfl | ⟨before, n, rfl⟩
  · have hback : t.fragments.back? = none := by
      rw [← Array.getLast?_toList, ht.fragments]
      rfl
    rw [Scanner.continues, hback]
  · rw [ht.continues]
    simp

namespace Scanner

variable {t : Scanner} {fs gs : List Fragment} {text word : List Char}

private theorem Rests.foldl_word (ht : t.Rests fs) (hword : ∀ c ∈ word, isNameChar c = true)
    (hbang : t.continues '!' = false) : (word.foldl step t).mode = .words ∧
      (word.foldl step t).finish.Rests (fs ++ ofWord word) := by
  rw [foldl_step_word (fun c hc ↦ isQuote_of_isNameChar (hword c hc))
    (fun c hc ↦ isOperatorChar_of_isNameChar (hword c hc)) ht.mode, ht.pending, List.append_nil]
  refine ⟨rfl, ?_⟩
  have hempty : Rests { t with pending := [], mode := .words } fs := ⟨rfl, rfl, ht.fragments⟩
  have hcontinues : Scanner.continues { t with pending := [], mode := .words } '!' = false := hbang
  simp only [Scanner.finish, flushWord, List.reverse_reverse, List.isEmpty_iff, beq_iff_eq, ofWord]
  split
  · next hnil =>
    subst hnil
    simpa using hempty
  · split
    · rw [pushSymbol_eq (by decide) hcontinues]
      exact hempty.appendOperator _
    · split
      · exact hempty.appendOperator _
      · split
        · exact hempty.appendOperator _
        · exact Rests.pushWord ht.fragments _ _

private theorem Rests.step_dash (ht : t.finish.Rests gs) (hmode : t.mode = .words)
    (hgs : ∀ f ∈ gs, IsKeyFragment f) :
    ∃ gs', (t.step '-').Rests gs' ∧ IsKeyFront (joinText gs ++ ['-']) gs' := by
  have hstep : t.step '-' = t.finish.pushSymbol '-' :=
    step_of_isOperatorChar (by rw [hmode]; trivial) (by decide) (by decide)
  have hdashes (n : Nat) : IsKeyFragment ⟨List.replicate (n + 1) '-', .operator⟩ :=
    fun _ ↦ ⟨'-', by decide, n, rfl⟩
  rw [hstep]
  cases hlast : t.finish.continues '-' with
  | true =>
    obtain ⟨before, dashes, hfragments, hall, -, hpush⟩ := toList_pushSymbol_of_continues hlast
    rw [ht.fragments] at hfragments
    subst hfragments
    have hreplicate : dashes ++ ['-'] = List.replicate (dashes.length + 1) '-' := by
      refine List.eq_replicate_iff.mpr ⟨by simp, fun c hc ↦ ?_⟩
      rcases List.mem_append.mp hc with hc | hc
      · simpa using List.all_eq_true.mp hall c hc
      · exact List.mem_singleton.mp hc
    refine ⟨before ++ [⟨dashes ++ ['-'], .operator⟩],
      ⟨by rw [mode_pushSymbol, ht.mode], by rw [pending_pushSymbol, ht.pending], hpush⟩,
      by simp [joinText], ?_, .inr ⟨before, dashes.length, by rw [hreplicate]⟩⟩
    rw [List.forall_mem_append] at hgs ⊢
    rw [hreplicate]
    exact ⟨hgs.1, List.forall_mem_singleton.mpr (hdashes _)⟩
  | false =>
    rw [pushSymbol_eq (by decide) hlast]
    refine ⟨gs ++ [⟨['-'], .operator⟩], ht.appendOperator _, by simp [joinText], ?_,
      .inr ⟨gs, 0, rfl⟩⟩
    rw [List.forall_mem_append]
    exact ⟨hgs, List.forall_mem_singleton.mpr (hdashes 0)⟩

private theorem Rests.foldl_word_dash (ht : t.Rests fs) (hfs : IsKeyFront text fs)
    (hword : ∀ c ∈ word, isNameChar c = true) :
    ∃ gs, ((word ++ ['-']).foldl step t).Rests gs ∧
      IsKeyFront (text ++ (wordText word ++ ['-'])) gs := by
  obtain ⟨hmode, hrests⟩ := ht.foldl_word hword (hfs.continues_eq_false ht)
  have hfragments : ∀ f ∈ fs ++ ofWord word, IsKeyFragment f := by
    rw [List.forall_mem_append]
    exact ⟨hfs.fragments, isKeyFragment_ofWord word⟩
  obtain ⟨gs, hstep, hgs⟩ := hrests.step_dash hmode hfragments
  refine ⟨gs, ?_, ?_⟩
  · rw [List.foldl_append]
    exact hstep
  · have htext : joinText (fs ++ ofWord word) = text ++ wordText word := by
      rw [joinText, List.flatMap_append, ← hfs.text]
      rfl
    rwa [htext, List.append_assoc] at hgs

private theorem Rests.foldl_front {parts : List (List Char)} (ht : t.Rests fs)
    (hfs : IsKeyFront text fs) (hparts : ∀ part ∈ parts, ∀ c ∈ part, isNameChar c = true) :
    ∃ gs, ((parts.flatMap (· ++ ['-'])).foldl step t).Rests gs ∧
      IsKeyFront (text ++ (parts.map wordText).flatMap (· ++ ['-'])) gs := by
  induction parts generalizing t fs text with
  | nil => exact ⟨fs, ht, by simpa using hfs⟩
  | cons part parts ih =>
    obtain ⟨hpart, hparts⟩ := List.forall_mem_cons.mp hparts
    obtain ⟨fs', ht', hfs'⟩ := ht.foldl_word_dash hfs hpart
    obtain ⟨gs, hrests, hgs⟩ := ih ht' hfs' hparts
    refine ⟨gs, ?_, ?_⟩
    · rw [List.flatMap_cons, List.foldl_append]
      exact hrests
    · rw [List.map_cons, List.flatMap_cons, ← List.append_assoc]
      exact hgs

end Scanner

private theorem equalsCompare_append {fs gs : List Fragment} {last : Option Fragment}
    (hfs : ∀ f ∈ fs, IsKeyFragment f) (hgs : ∀ last, EqualsCompare last gs) :
    EqualsCompare last (fs ++ gs) := by
  induction fs generalizing last with
  | nil => exact hgs last
  | cons f fs ih =>
    obtain ⟨hf, hfs⟩ := List.forall_mem_cons.mp hfs
    exact ⟨by simp [hf.isOperator], ih hfs⟩

namespace AttributeList

variable {key source last : List Char} {front : List (List Char)} {e : Expr} {defaultName : String}

private theorem exists_words (hkey : ∀ c ∈ key, isNameChar c = true ∨ c = '-') :
    ∃ front last, Text.splitAtChar '-' key = front ++ [last] ∧
      key = front.flatMap (· ++ ['-']) ++ last ∧
      ∀ word ∈ front ++ [last], ∀ c ∈ word, isNameChar c = true := by
  obtain ⟨front, last, hsplit, htext⟩ := exists_splitAtChar '-' key
  refine ⟨front, last, hsplit, htext, fun word hword c hc ↦ ?_⟩
  have hmem : c ∈ key := by
    rw [htext]
    rcases List.mem_append.mp hword with hfront | hlast
    · exact List.mem_append_left _ (List.mem_flatMap.mpr ⟨word, hfront, by simp [hc]⟩)
    · rw [List.mem_singleton.mp hlast] at hc
      exact List.mem_append_right _ hc
  refine (hkey c hmem).resolve_right ?_
  rintro rfl
  rw [← hsplit] at hword
  exact not_mem_splitAtChar '-' key word hword hc

private theorem exists_scan (hwords : ∀ word ∈ front ++ [last], ∀ c ∈ word, isNameChar c = true)
    (he : e.IsReadFrom source) :
    ∃ fs, IsKeyFront ((front.map wordText).flatMap (· ++ ['-'])) fs ∧
      Fragment.scan (front.flatMap (· ++ ['-']) ++ last ++ '=' :: source) =
        fs ++ ofWord last ++ .ofOperator '=' :: Fragment.scan source := by
  rw [List.forall_mem_append, List.forall_mem_singleton] at hwords
  have hempty : IsKeyFront [] [] := ⟨rfl, List.forall_mem_nil _, .inl rfl⟩
  obtain ⟨fs, hfront, hfs⟩ := Scanner.rests_empty.foldl_front hempty hwords.1
  obtain ⟨hmode, hlast⟩ := hfront.foldl_word hwords.2 (hfs.continues_eq_false hfront)
  have hfragments : ∀ f ∈ fs ++ ofWord last, IsKeyFragment f := by
    rw [List.forall_mem_append]
    exact ⟨hfs.fragments, isKeyFragment_ofWord last⟩
  have hcontinues : (last.foldl Scanner.step
      ((front.flatMap (· ++ ['-'])).foldl Scanner.step {})).finish.continues '=' = false := by
    rcases List.eq_nil_or_concat' (fs ++ ofWord last) with hnil | ⟨before, f, hconcat⟩
    · have hback := hlast.fragments
      rw [hnil, Array.toList_eq_nil_iff] at hback
      simp [Scanner.continues, hback]
    · rw [hconcat] at hlast hfragments
      have hall := (hfragments f (by simp)).all_eq_false
      rw [hlast.continues]
      rw [Bool.and_eq_false_iff] at hall ⊢
      rcases hall with hall | hall <;> simp [hall]
  have hassign := hlast.step_symbol (by rw [hmode]; trivial) (by decide) hcontinues
  refine ⟨fs, by simpa using hfs, ?_⟩
  have hscan := (hassign.foldl_source (by decide) he).2.fragments
  rw [Fragment.scan, List.foldl_append, List.foldl_append, List.foldl_cons, hscan]
  simp

private theorem splitName_of_isSpace {fs : List Fragment} (hfs : ∀ f ∈ fs, f.isSpace = false) :
    splitName fs = ([], fs) := by
  have hdrop {gs : List Fragment} (hgs : ∀ f ∈ gs, f.isSpace = false) :
      gs.dropWhile Fragment.isSpace = gs := by
    cases gs with
    | nil => rfl
    | cons g gs => exact List.dropWhile_cons_of_neg (by simp [hgs g])
  have htrim : Fragment.trimSpaces fs = fs := by
    rw [Fragment.trimSpaces, hdrop hfs, hdrop (by simpa using hfs), List.reverse_reverse]
  have htake : fs.reverse.takeWhile (fun f ↦ !f.isSpace) = fs.reverse :=
    List.takeWhile_eq_self_iff.mpr (by simpa using hfs)
  simp [splitName, htrim, htake]

private theorem entriesBehind_key {fs value : List Fragment} (hfs : ∀ f ∈ fs, IsKeyFragment f)
    (hlast : ∀ f, fs.getLast? = some f → isComparisonStart f = false)
    (hname : stripName (joinText fs) = joinText fs) (hne : joinText fs ≠ [])
    (hvalue : EqualsCompare (some (.ofOperator '=')) value) (he : Expr.ofFragments value = .ok e) :
    entriesBehind defaultName none [] none (fs ++ .ofOperator '=' :: value) =
      .ok [(String.ofList (joinText fs), e)] := by
  have hcompare : EqualsCompare none (fs ++ []) := equalsCompare_append hfs fun _ ↦ trivial
  rw [List.append_nil] at hcompare
  have hassign : (Fragment.isOperator (.ofOperator '=') ['='] &&
      !((fs.getLast?.or none).map isComparisonStart).getD false) = true := by
    cases hget : fs.getLast? with
    | none => rfl
    | some f => simp [hlast f hget, Fragment.isOperator, Fragment.ofOperator]
  have hrest : entriesBehind defaultName (some (String.ofList (joinText fs))) []
      (some (.ofOperator '=')) value = .ok [(String.ofList (joinText fs), e)] :=
    entriesBehind_last hvalue he
  rw [entriesBehind] at hrest
  rw [entriesBehind_append hcompare, entriesBehind, segmentsFrom, if_pos hassign, entriesFrom,
    List.append_nil, List.reverse_reverse, splitName_of_isSpace fun f hf ↦ (hfs f hf).isSpace]
  simp only [hname, List.isEmpty_eq_false_iff.mpr hne, hrest]
  rfl

private theorem stripName_of_chars {s : List Char}
    (hs : ∀ c ∈ s, isNameChar c = true ∨ c ∈ ['-', '!', '|', '&']) : stripName s = s := by
  have hops : ['-', '!', '|', '&'].all (fun c ↦ !Text.isBlank c && !Text.isQuote c) = true := by
    decide
  simp only [List.all_eq_true, Bool.and_eq_true, Bool.not_eq_true'] at hops
  have htrim {p : Char → Bool} (hp : ∀ c ∈ s, p c = false) : Text.trimWhile p s = s :=
    Text.trimWhile_append (s := []) (List.forall_mem_nil _) hp
  rw [stripName, Text.trim, htrim fun c hc ↦ ?_, htrim fun c hc ↦ ?_]
  · exact (hs c hc).elim isQuote_of_isNameChar fun h ↦ (hops c h).2
  · exact (hs c hc).elim isBlank_of_isNameChar fun h ↦ (hops c h).1

private theorem keyText_props (hkey : Text.IsAttributeName key) :
    keyText key ≠ [] ∧ stripName (keyText key) = keyText key := by
  obtain ⟨front, last, hsplit, htext, hwords⟩ := exists_words hkey.chars
  have hkept : keyText key = (front.map wordText).flatMap (· ++ ['-']) ++ wordText last := by
    rw [keyText, hsplit, List.map_append, List.map_singleton, intercalate_append_singleton]
  refine ⟨fun hnil ↦ ?_, stripName_of_chars fun c hc ↦ ?_⟩
  · rw [hkept, List.append_eq_nil_iff] at hnil
    obtain ⟨c, cs, hcons, -⟩ := hkey.first
    cases front with
    | nil =>
      have hlast : last = [] := wordText_eq_nil hnil.2
      rw [hlast, hcons] at htext
      cases htext
    | cons word front => simp at hnil
  · rw [hkept] at hc
    rcases List.mem_append.mp hc with hc | hc
    · obtain ⟨text, htext, hc⟩ := List.mem_flatMap.mp hc
      obtain ⟨word, hword, rfl⟩ := List.mem_map.mp htext
      rcases List.mem_append.mp hc with hc | hc
      · exact (mem_wordText (hwords word (by simp [hword])) c hc).imp_right (.tail _)
      · exact .inr (by simp_all)
    · exact (mem_wordText (hwords last (by simp)) c hc).imp_right (.tail _)

private theorem keyText_eq_iff (hkey : ∀ c ∈ key, isNameChar c = true ∨ c = '-') :
    keyText key = key ↔ ∀ word ∈ Text.splitAtChar '-' key, word ∉ operatorWords := by
  obtain ⟨front, last, hsplit, htext, -⟩ := exists_words hkey
  have hkept : keyText key = (front.map wordText).flatMap (· ++ ['-']) ++ wordText last := by
    rw [keyText, hsplit, List.map_append, List.map_singleton, intercalate_append_singleton]
  constructor
  · intro heq word hword hop
    obtain ⟨c, hc, hname, hdash⟩ := exists_mem_wordText hop
    have hmem : c ∈ keyText key := by
      rw [hsplit] at hword
      rw [hkept]
      rcases List.mem_append.mp hword with hfront | hlast
      · exact List.mem_append_left _ (List.mem_flatMap.mpr
          ⟨wordText word, List.mem_map_of_mem hfront, by simp [hc]⟩)
      · rw [← List.mem_singleton.mp hlast]
        exact List.mem_append_right _ hc
    rw [heq] at hmem
    rcases hkey c hmem with h | h
    · rw [hname] at h
      cases h
    · exact hdash h
  · intro hwords
    have hmap : (Text.splitAtChar '-' key).map wordText = Text.splitAtChar '-' key :=
      (List.map_congr_left fun word hword ↦ wordText_of_not_mem (hwords word hword)).trans
        (List.map_id _)
    rw [keyText, hmap, hsplit, intercalate_append_singleton]
    exact htext.symm

private theorem isComparisonStart_of_getLast? {fs : List Fragment} {text : List Char}
    (hfs : IsKeyFront text fs) (hlast : last ≠ "not".toList) {f : Fragment}
    (hf : (fs ++ ofWord last).getLast? = some f) : isComparisonStart f = false := by
  have hdashes (n : Nat) : isComparisonStart ⟨List.replicate (n + 1) '-', .operator⟩ = false := by
    simp [isComparisonStart, Fragment.isOperator, List.replicate_succ]
  unfold ofWord at hf
  split at hf
  · rw [List.append_nil] at hf
    rcases hfs.last with rfl | ⟨before, n, rfl⟩
    · cases hf
    · rw [List.getLast?_concat] at hf
      cases hf
      exact hdashes n
  · repeat' split at hf
    all_goals
      rw [List.getLast?_concat] at hf
      cases hf
    · rfl
    · rfl
    · simp [isComparisonStart, Fragment.isOperator, classify_ne]

/-- A name keeps its words, and names the value behind it, unless its last word makes the equals
sign a comparison. -/
theorem read_key (hkey : Text.IsAttributeName key)
    (hlast : (Text.splitAtChar '-' key).getLast? ≠ some "not".toList) (he : e.IsReadFrom source) :
    read (String.ofList (key ++ '=' :: source)) defaultName =
      .ok ⟨[(String.ofList (keyText key), e)]⟩ := by
  obtain ⟨hne, hstrip⟩ := keyText_props hkey
  obtain ⟨front, last, hsplit, htext, hwords⟩ := exists_words hkey.chars
  obtain ⟨fs, hfs, hscan⟩ := exists_scan hwords he
  have hjoin : joinText (fs ++ ofWord last) = keyText key := by
    rw [joinText, List.flatMap_append, keyText, hsplit, List.map_append, List.map_singleton,
      intercalate_append_singleton, ← hfs.text]
    rfl
  have hfragments : ∀ f ∈ fs ++ ofWord last, IsKeyFragment f := by
    rw [List.forall_mem_append]
    exact ⟨hfs.fragments, isKeyFragment_ofWord last⟩
  have hnot : last ≠ "not".toList := by
    rintro rfl
    exact hlast (by rw [hsplit, List.getLast?_concat])
  rw [← hjoin] at hne hstrip
  have hentries : entriesBehind defaultName none [] none _ = .ok _ :=
    entriesBehind_key hfragments (fun f ↦ isComparisonStart_of_getLast? hfs hnot) hstrip hne
      (equalsCompare_of_isReadFrom he List.prefix_rfl).2 he
  rw [← htext] at hscan
  rw [hjoin, entriesBehind] at hentries
  simp only [read, String.toList_ofList, hscan, hentries]
  rfl

-- Behind a name that ends with the word for `!` the equals sign makes a comparison, which has no
-- operand in front of it.
private theorem ofFragments_ne_ok_of_not {fs : List Fragment} {text : List Char}
    (hfs : IsKeyFront text fs)
    (hapart : Fragment.Apart (fs ++ [.ofOperator '!', .ofOperator '=', ⟨['1'], .literal⟩])) :
    Expr.ofFragments (fs ++ [.ofOperator '!', .ofOperator '=', ⟨['1'], .literal⟩]) ≠ .ok e := by
  rcases hfs.last with rfl | ⟨before, n, rfl⟩
  · intro h
    cases h
  · have hbracket : Token.bracket? (List.replicate (n + 1) '-') = none := by
      rw [Option.eq_none_iff_forall_ne_some]
      intro t ht
      obtain ⟨c, hc, hbracket⟩ := Token.exists_of_bracket? ht
      cases (List.cons.inj hc).1
      cases hbracket
    have hdashes : Token.isJoined ⟨List.replicate (n + 1) '-', .operator⟩ = true := by
      simp [Token.isJoined, Fragment.isSpace, hbracket]
    rw [List.append_assoc] at hapart ⊢
    exact Expr.ofFragments_ne_ok_of_operators hapart hdashes rfl

private theorem exists_of_entry {key : Option String} {fs : List Fragment}
    {entry : Option (String × Expr)} {f : Fragment} (hmem : f ∈ fs) (hf : f.isSpace = false)
    (h : entry? defaultName key fs = .ok entry) : ∃ e, Expr.ofFragments fs = .ok e := by
  have hne : (Fragment.trimSpaces fs).isEmpty = false := by
    rw [Bool.eq_false_iff]
    intro hempty
    obtain ⟨before, after, hbefore, hafter, hspaces⟩ := Fragment.exists_trimSpaces fs
    rw [List.isEmpty_iff.mp hempty, List.append_nil] at hspaces
    rw [hspaces, List.mem_append] at hmem
    have hspace : f.isSpace = true := hmem.elim (hbefore f) (hafter f)
    rw [hf] at hspace
    cases hspace
  unfold entry? at h
  simp only [hne, Bool.false_eq_true, if_false, Expr.ofFragments_trimSpaces] at h
  obtain ⟨e, he, -⟩ := exists_of_map_eq_ok h
  exact ⟨e, he⟩

private theorem read_ne_ok_of_not (hkey : Text.IsAttributeName key)
    (hlast : (Text.splitAtChar '-' key).getLast? = some "not".toList) (a : AttributeList) :
    read (String.ofList (key ++ ['=', '1'])) defaultName ≠ .ok a := by
  intro hread
  obtain ⟨front, last, hsplit, htext, hwords⟩ := exists_words hkey.chars
  rw [hsplit, List.getLast?_concat, Option.some_inj] at hlast
  subst hlast
  have hone : Expr.IsReadFrom (.const (.int 1)) ['1'] := rfl
  obtain ⟨fs, hfs, hscan⟩ := exists_scan hwords hone
  rw [← htext, List.append_assoc] at hscan
  have hwhole : Fragment.scan (key ++ ['=', '1']) =
      fs ++ [.ofOperator '!', .ofOperator '=', ⟨['1'], .literal⟩] := hscan
  have hcompare : EqualsCompare none
      (fs ++ [.ofOperator '!', .ofOperator '=', ⟨['1'], .literal⟩]) :=
    equalsCompare_append hfs.fragments fun last ↦ by
      simp [EqualsCompare, Fragment.isOperator, Fragment.ofOperator, isComparisonStart]
  have hentries : entriesBehind defaultName none [] none _ = entriesBehind _ _ _ _ [] :=
    entriesBehind_append hcompare []
  rw [List.append_nil, ← hwhole, List.append_nil, entriesBehind_nil, List.reverse_reverse,
    entriesBehind] at hentries
  obtain ⟨entries, hread, -⟩ := exists_of_bind_eq_ok hread
  rw [String.toList_ofList, hentries] at hread
  obtain ⟨entry, hentry, -⟩ := exists_of_map_eq_ok hread
  have hapart := Fragment.apart_scan (key ++ ['=', '1'])
  rw [hwhole] at hapart hentry
  obtain ⟨e, he⟩ := exists_of_entry (f := .ofOperator '!') (by simp) rfl hentry
  exact ofFragments_ne_ok_of_not hfs hapart he

/-- A name is kept as it is written if none of its words stands for an operator, and only then. -/
theorem read_names_iff {key : String} (hkey : Text.IsAttributeName key.toList)
    (defaultName : String) :
    (∃ a, read (key ++ "=1") defaultName = .ok a ∧ a.names = [key]) ↔
      ∀ word ∈ Text.splitAtChar '-' key.toList, word ∉ operatorWords := by
  have hone : Expr.IsReadFrom (.const (.int 1)) ['1'] := rfl
  have hsource : key ++ "=1" = String.ofList (key.toList ++ ['=', '1']) := by
    rw [String.ofList_append, String.ofList_toList]
  rw [hsource]
  by_cases hlast : (Text.splitAtChar '-' key.toList).getLast? = some "not".toList
  · have hmem : "not".toList ∈ Text.splitAtChar '-' key.toList := List.mem_of_getLast? hlast
    refine iff_of_false ?_ fun hwords ↦ hwords _ hmem (by decide)
    rintro ⟨a, hread, -⟩
    exact read_ne_ok_of_not hkey hlast a hread
  · rw [read_key hkey hlast hone]
    rw [← keyText_eq_iff hkey.chars]
    constructor
    · rintro ⟨a, hread, hnames⟩
      cases hread
      have hkept := congrArg String.toList (List.singleton_inj.mp hnames)
      rwa [String.toList_ofList] at hkept
    · intro hkept
      exact ⟨_, rfl, by rw [names, List.map_singleton, hkept, String.ofList_toList]⟩

/-- The dashes stand between words, at the end and side by side. -/
theorem read_names_dashes :
    Text.IsAttributeName "data-x--_1-".toList ∧
      ∃ a, read ("data-x--_1-" ++ "=1") "value" = .ok a ∧ a.names = ["data-x--_1-"] := by
  have hkey : Text.IsAttributeName "data-x--_1-".toList := by decide
  exact ⟨hkey, (read_names_iff hkey "value").mpr (by decide)⟩

/-- A word that stands for an operator is written as the operator in the name. -/
theorem read_names_operatorWord :
    Text.IsAttributeName "data-or".toList ∧
      ∃ a, read "data-or=1" "value" = .ok a ∧ a.names = ["data-||"] := by
  have hkey : Text.IsAttributeName "data-or".toList := by decide
  have hone : Expr.IsReadFrom (.const (.int 1)) ['1'] := rfl
  have hsource : "data-or=1" = String.ofList ("data-or".toList ++ '=' :: ['1']) := by decide
  have hkept : String.ofList (keyText "data-or".toList) = "data-||" := by decide
  rw [hsource, read_key hkey (by decide) hone, hkept]
  exact ⟨hkey, _, rfl, rfl⟩

end AttributeList

end Stencil
