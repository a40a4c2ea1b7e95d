import Mathlib.Data.List.Forall2
import Stencil.Proofs.Scanning.Blanks

/-!
# Reading signatures

A signature that is written with commas and spaces between its parameters is read as the parameters
that it is written of: the commas, equals signs, brackets and quotes of a default belong to it. This
holds as long as no parameter but the last one leaves a regular expression open.
-/

namespace Stencil

open Text (IsIdentifier IsName)

/-- Whether a parameter is read from a source: from its name, or from its name, an equals sign and a
source that its default is read from. -/
inductive Param.IsReadFrom : Param → List Char → Prop
  /-- A name by itself has no default. -/
  | bare {name : List Char} (hname : IsName name) : IsReadFrom ⟨String.ofList name, none⟩ name
  /-- The default stands behind the equals sign. -/
  | withDefault {name source : List Char} {e : Expr} (hname : IsName name)
    (he : e.IsReadFrom source) :
    IsReadFrom ⟨String.ofList name, some e⟩ (name ++ '=' :: source)

namespace Signature

/-! ### Commas outside of brackets -/

private theorem bracketsAfter_of_not_isBracket {closing text : List Char}
    (hclosing : ∀ c ∈ closing, isBracket c = true) (htext : ∀ c ∈ text, isBracket c = false) :
    bracketsAfter closing text = closing := by
  unfold bracketsAfter
  split
  · next c =>
    have hc : isBracket c = false := htext c List.mem_cons_self
    have hlookup : bracketPairs.lookup c = none := by
      rw [List.lookup_eq_none_iff]
      intro p hp
      have hne := (List.any_eq_false.mp hc) p hp
      simp_all
    have hhead : closing.head? ≠ some c := by
      intro hhead
      rw [hclosing c (List.mem_of_head? hhead)] at hc
      cases hc
    simp [hlookup, hhead]
  · rfl

private theorem isBracket_bracketsAfter {closing : List Char} (text : List Char)
    (hclosing : ∀ c ∈ closing, isBracket c = true) :
    ∀ c ∈ bracketsAfter closing text, isBracket c = true := by
  unfold bracketsAfter
  split
  · next c =>
    split
    · next close hclose =>
      have hall : ∀ p ∈ bracketPairs, isBracket p.2 = true := by decide
      obtain ⟨before, after, hpairs, -⟩ := List.lookup_eq_some_iff.mp hclose
      exact List.forall_mem_cons.mpr ⟨hall (c, close) (by simp [hpairs]), hclosing⟩
    · split
      · exact fun d hd ↦ hclosing d (List.mem_of_mem_tail hd)
      · exact hclosing
  · exact hclosing

private theorem closingAfter_append (closing cs ds : List Char) :
    closingAfter closing (cs ++ ds) = (closingAfter closing cs).bind (closingAfter · ds) := by
  induction cs generalizing closing with
  | nil => rfl
  | cons c cs ih =>
    rw [List.cons_append, closingAfter, closingAfter]
    split
    · exact ih _
    · split
      · rfl
      · exact ih _

private theorem closingAfter_commas {closing closing' cs : List Char}
    (hcs : ∀ c ∈ cs, isBracket c = false) (h : closingAfter closing cs = some closing') :
    closing' = closing ∧ (cs ≠ [] → closing ≠ []) := by
  induction cs with
  | nil =>
    cases h
    exact ⟨rfl, fun hne ↦ absurd rfl hne⟩
  | cons c cs ih =>
    obtain ⟨hc, hcs⟩ := List.forall_mem_cons.mp hcs
    rw [closingAfter, hc] at h
    simp only [Bool.false_eq_true, if_false] at h
    split at h
    · cases h
    · next hne => exact ⟨(ih hcs h).1, fun _ ↦ by simpa using hne⟩

private theorem closingAfter_operator {closing closing' text : List Char}
    (hclosing : ∀ c ∈ closing, isBracket c = true)
    (htext : (∃ c, text = [c]) ∨ ∀ c ∈ text, isBracket c = false)
    (h : closingAfter closing (text.filter isMark) = some closing') :
    closing' = bracketsAfter closing text ∧ (text = [','] → closing ≠ []) := by
  by_cases hbrackets : ∀ c ∈ text, isBracket c = false
  · obtain ⟨rfl, hne⟩ :=
      closingAfter_commas (fun c hc ↦ hbrackets c (List.mem_of_mem_filter hc)) h
    refine ⟨(bracketsAfter_of_not_isBracket hclosing hbrackets).symm, ?_⟩
    rintro rfl
    exact hne (by decide)
  · obtain ⟨c, rfl⟩ := htext.resolve_right hbrackets
    have hc : isBracket c = true := by simpa using hbrackets
    rw [List.filter_cons_of_pos (by simp [isMark, hc]), List.filter_nil, closingAfter, if_pos hc]
      at h
    cases h
    refine ⟨rfl, ?_⟩
    rintro ⟨⟩
    cases hc

/-- Fragments with no comma outside of brackets belong to one argument. -/
theorem splitArguments_append {closing closing' : List Char} {fs rest part : List Fragment}
    {parts : List (List Fragment)} (hclosing : ∀ c ∈ closing, isBracket c = true)
    (hfs : ∀ f ∈ fs, f.kind = .operator →
      (∃ c, f.text = [c]) ∨ ∀ c ∈ f.text, isBracket c = false)
    (h : closingAfter closing (fs.flatMap Fragment.marks) = some closing')
    (hrest : splitArguments closing' rest = part :: parts) :
    splitArguments closing (fs ++ rest) = (fs ++ part) :: parts := by
  induction fs generalizing closing with
  | nil =>
    cases h
    exact hrest
  | cons f fs ih =>
    obtain ⟨hf, hfs⟩ := List.forall_mem_cons.mp hfs
    rw [List.flatMap_cons, closingAfter_append] at h
    obtain ⟨closing'', hmarks, h⟩ := Option.bind_eq_some_iff.mp h
    rw [List.cons_append, splitArguments]
    by_cases hkind : f.kind = .operator
    · simp only [Fragment.marks, hkind, beq_self_eq_true, if_true] at hmarks
      obtain ⟨rfl, hcomma⟩ := closingAfter_operator hclosing (hf hkind) hmarks
      have hsplit : (f.isOperator [','] && closing.isEmpty) = false := by
        simpa [Fragment.isOperator, hkind] using hcomma
      rw [hsplit]
      simp only [hkind, beq_self_eq_true, if_true, Bool.false_eq_true, if_false]
      rw [ih (isBracket_bracketsAfter f.text hclosing) hfs h]
      rfl
    · have hword : (f.kind == .operator) = false := by simpa using hkind
      simp only [Fragment.marks, hword, Bool.false_eq_true, if_false] at hmarks
      cases hmarks
      simp only [Fragment.isOperator, hword, Bool.false_and, Bool.false_eq_true, if_false]
      rw [ih hclosing hfs h]
      rfl

/-! ### Names and defaults -/

private theorem takeWhile_key {key : List Fragment}
    (hkey : ∀ f ∈ key, f.isOperator ['='] = false) (rest : List Fragment)
    (hrest : rest.head?.all (·.isOperator ['=']) = true) :
    (key ++ rest).takeWhile (fun f ↦ !f.isOperator ['=']) = key := by
  rw [List.takeWhile_append_of_pos (by simpa using hkey)]
  cases rest with
  | nil => simp
  | cons f fs =>
    have hf : f.isOperator ['='] = true := hrest
    simp [hf]

private theorem readParam_name {key : List Fragment}
    (hkey : ∀ f ∈ key, f.isOperator ['='] = false)
    (hname : isIdentifier (stripName (Fragment.joinText key)) = true) :
    readParam key = .ok ⟨String.ofList (stripName (Fragment.joinText key)), none⟩ := by
  have htake := takeWhile_key hkey [] rfl
  rw [List.append_nil] at htake
  simp only [readParam, htake, hname, List.drop_length]
  rfl

private theorem readParam_default {key default : List Fragment} {e : Expr}
    (hkey : ∀ f ∈ key, f.isOperator ['='] = false)
    (hname : isIdentifier (stripName (Fragment.joinText key)) = true)
    (he : Expr.ofFragments default = .ok e) :
    readParam (key ++ .ofOperator '=' :: default) =
      .ok ⟨String.ofList (stripName (Fragment.joinText key)), some e⟩ := by
  have htake := takeWhile_key hkey (.ofOperator '=' :: default) rfl
  simp only [readParam, htake, hname, List.drop_left, Expr.all_isSpace_eq_false he, he]
  rfl

/-! ### Fragments of parameters -/

/-- The parameter is read from the fragments, with or without spaces in front, and they stand by
themselves among others. -/
private structure ReadsAs (p : Param) (fs : List Fragment) : Prop where
  /-- The parameter is read. -/
  read : ∀ spaces : List Fragment, spaces.all Fragment.isSpace = true →
    readParam (spaces ++ fs) = .ok p
  /-- There is more than spaces. -/
  notSpaces : fs.all Fragment.isSpace = false
  /-- Brackets are fragments of their own. -/
  brackets : ∀ f ∈ fs, f.kind = .operator →
    (∃ c, f.text = [c]) ∨ ∀ c ∈ f.text, isBracket c = false
  /-- Brackets are closed, and all commas stand inside of them. -/
  closed : closingAfter [] (fs.flatMap Fragment.marks) = some []
  /-- A comma does not make the last fragment longer. -/
  comma : ∃ before f, fs = before ++ [f] ∧
    (f.kind == .operator && f.text.all (· == ',')) = false

private theorem joinText_append_word {spaces : List Fragment}
    (hspaces : spaces.all Fragment.isSpace = true) {name : List Char} (hname : IsName name)
    (kind : FragmentKind) : stripName (Fragment.joinText (spaces ++ [⟨name, kind⟩])) = name := by
  rw [Fragment.joinText, List.flatMap_append, List.flatMap_singleton]
  refine hname.stripName _ fun c hc ↦ ?_
  obtain ⟨f, hf, hc⟩ := List.mem_flatMap.mp hc
  rw [Token.text_of_isSpace (List.all_eq_true.mp hspaces f hf) c hc]
  decide

private theorem isOperator_key {spaces : List Fragment}
    (hspaces : spaces.all Fragment.isSpace = true) {word : Fragment}
    (hword : word.kind ≠ .operator) :
    ∀ f ∈ spaces ++ [word], f.isOperator ['='] = false := by
  rw [List.forall_mem_append, List.forall_mem_singleton]
  constructor
  · intro f hf
    exact Token.isOperator_of_isSpace (List.all_eq_true.mp hspaces f hf) (by decide)
  · simp [Fragment.isOperator, hword]

private theorem readsAs_bare {name : List Char} (hname : IsName name) :
    ReadsAs ⟨String.ofList name, none⟩ [⟨name, classify name⟩] := by
  have hword : classify name ≠ .operator := classify_ne (by decide) name
  refine ⟨fun spaces hspaces ↦ ?_, ?_, ?_, ?_, ?_⟩
  · have htext := joinText_append_word hspaces hname (classify name)
    have hread := readParam_name (isOperator_key hspaces hword)
      (by rw [htext]; exact hname.isIdentifier)
    rwa [htext] at hread
  · simp [Fragment.isSpace, hword]
  · simp [hword]
  · simp [Fragment.marks, hword, closingAfter]
  · exact ⟨[], _, rfl, by simp [hword]⟩

private theorem readsAs_default {name source : List Char} {e : Expr} (hname : IsName name)
    (he : e.IsReadFrom source) :
    ReadsAs ⟨String.ofList name, some e⟩
      (⟨name, classify name⟩ :: .ofOperator '=' :: Fragment.scan source) := by
  have hkind : classify name ≠ .operator := classify_ne (by decide) name
  refine ⟨fun spaces hspaces ↦ ?_, ?_, ?_, ?_, ?_⟩
  · have htext := joinText_append_word hspaces hname (classify name)
    have hread := readParam_default (isOperator_key hspaces hkind)
      (by rw [htext]; exact hname.isIdentifier) he
    rw [htext] at hread
    simpa using hread
  · simp [Fragment.isSpace, hkind]
  · obtain ⟨ts, hts, -⟩ := Expr.exists_tokens he
    rw [List.forall_mem_cons, List.forall_mem_cons]
    exact ⟨fun h ↦ absurd h hkind, fun _ ↦ .inl ⟨'=', rfl⟩, (Token.isBracket_of_ofFragments hts).2⟩
  · have hmarks : Fragment.marks ⟨name, classify name⟩ = [] := by simp [Fragment.marks, hkind]
    rw [List.flatMap_cons, List.flatMap_cons, hmarks]
    exact Expr.closingAfter_of_ofFragments he
  · obtain ⟨before, f, hscan, hf⟩ := he.exists_last_apart (c := ',') (by decide) rfl
    exact ⟨⟨name, classify name⟩ :: .ofOperator '=' :: before, f, by simp [hscan], hf⟩

section

variable {p : Param} {spaces part : List Fragment}

private theorem ReadsAs.splitArguments (h : ReadsAs p part)
    (hspaces : spaces.all Fragment.isSpace = true) {rest tail : List Fragment}
    {parts : List (List Fragment)}
    (hrest : Signature.splitArguments [] rest = tail :: parts) :
    Signature.splitArguments [] (spaces ++ part ++ rest) = (spaces ++ part ++ tail) :: parts := by
  have hspace := List.all_eq_true.mp hspaces
  have hmarks : spaces.flatMap Fragment.marks = [] :=
    List.flatMap_eq_nil_iff.mpr fun f hf ↦ Token.marks_of_isSpace (hspace f hf)
  refine splitArguments_append (List.forall_mem_nil _) ?_ ?_ hrest
  · rw [List.forall_mem_append]
    refine ⟨fun f hf _ ↦ .inr fun c hc ↦ ?_, h.brackets⟩
    rw [Token.text_of_isSpace (hspace f hf) c hc]
    decide
  · rw [List.flatMap_append, hmarks]
    exact h.closed

private theorem ReadsAs.readParams (h : ReadsAs p part)
    (hspaces : spaces.all Fragment.isSpace = true) {parts : List (List Fragment)}
    {params : List Param} (hparts : Signature.readParams parts = .ok params) :
    Signature.readParams ((spaces ++ part) :: parts) = .ok (p :: params) := by
  have hall : (spaces ++ part).all Fragment.isSpace = false := by
    rw [List.all_append, h.notSpaces, Bool.and_false]
  simp only [Signature.readParams, hall, h.read spaces hspaces, hparts]
  rfl

end

/-! ### Scanning parameters -/

-- A parameter is scanned into fragments that it is read from, and it ends in front of a comma if it
-- leaves no regular expression open.
private theorem foldl_param {p : Param} {text : List Char} (hp : p.IsReadFrom text) {t : Scanner}
    {fs : List Fragment} (ht : t.Rests fs) :
    ∃ part, ReadsAs p part ∧ (text.foldl Scanner.step t).finish.Rests (fs ++ part) ∧
      (¬Text.LeavesRegexOpen text → (text.foldl Scanner.step t).mode.Ends) := by
  cases hp with
  | bare hname =>
    obtain ⟨hmode, hfinish⟩ := ht.foldl_name hname
    refine ⟨_, readsAs_bare hname, ?_, fun _ ↦ by rw [hmode]; trivial⟩
    rw [hfinish]
    exact Scanner.Rests.pushWord ht.fragments _ _
  | withDefault hname he =>
    exact ⟨_, readsAs_default hname he, (ht.foldl_assignment hname he).2,
      ht.ends_assignment hname he⟩

private theorem readParams_scan {params : List Param} {texts : List (List Char)}
    (h : List.Forall₂ Param.IsReadFrom params texts) (hne : texts ≠ [])
    (hregex : ∀ text ∈ texts.dropLast, ¬Text.LeavesRegexOpen text) {t : Scanner}
    {fs : List Fragment} (ht : t.Rests fs) :
    ∃ gs, ((List.intercalate [',', ' '] texts).foldl Scanner.step t).finish.fragments.toList =
        fs ++ gs ∧
      ∀ spaces : List Fragment, spaces.all Fragment.isSpace = true →
        readParams (splitArguments [] (spaces ++ gs)) = .ok params := by
  induction h generalizing t fs with
  | nil => exact absurd rfl hne
  | @cons p text params texts hp hrest ih =>
    obtain ⟨part, hpart, hrests, hends⟩ := foldl_param hp ht
    cases hrest with
    | nil =>
      refine ⟨part, by rw [List.intercalate_singleton, hrests.fragments], fun spaces hspaces ↦ ?_⟩
      have hsplit : splitArguments [] (spaces ++ part ++ []) = [spaces ++ part ++ []] :=
        hpart.splitArguments hspaces rfl
      rw [List.append_nil] at hsplit
      rw [hsplit]
      exact hpart.readParams hspaces rfl
    | @cons p' text' params' texts' hp' hrest' =>
      rw [List.dropLast_cons_of_ne_nil (List.cons_ne_nil _ _), List.forall_mem_cons] at hregex
      obtain ⟨before, f, hlast, hcomma⟩ := hpart.comma
      have hcommaRests : ((text.foldl Scanner.step t).step ',').Rests
          (fs ++ part ++ [.ofOperator ',']) := by
        rw [hlast, ← List.append_assoc] at hrests ⊢
        exact hrests.step_operator (hends hregex.1) (by decide) hcomma
      have hspaceRests : (((text.foldl Scanner.step t).step ',').step ' ').Rests
          (fs ++ part ++ [.ofOperator ','] ++ [.ofOperator ' ']) :=
        hcommaRests.step_between (by decide) rfl
      obtain ⟨gs, hscan, hread⟩ := ih (List.cons_ne_nil _ _) hregex.2 hspaceRests
      refine ⟨part ++ .ofOperator ',' :: .ofOperator ' ' :: gs, ?_, fun spaces hspaces ↦ ?_⟩
      · rw [List.intercalate_cons_cons, List.foldl_append, List.foldl_append]
        simpa using hscan
      · rw [← List.append_assoc]
        have hsplit : splitArguments [] (.ofOperator ',' :: .ofOperator ' ' :: gs) =
            [] :: splitArguments [] ([.ofOperator ' '] ++ gs) := rfl
        rw [hpart.splitArguments hspaces hsplit, List.append_nil]
        exact hpart.readParams hspaces (hread _ rfl)

/-! ### Blanks behind the last parameter -/

private theorem exists_cons_of_isReadFrom {p : Param} {text : List Char} (h : p.IsReadFrom text) :
    ∃ c cs, text = c :: cs ∧ Text.isBlank c = false := by
  cases h with
  | bare hname =>
    obtain ⟨c, cs, rfl, -⟩ := hname.first
    exact ⟨c, cs, rfl, isBlank_of_isNameChar (hname.chars c List.mem_cons_self)⟩
  | withDefault hname _ =>
    obtain ⟨c, cs, rfl, -⟩ := hname.first
    exact ⟨c, _, rfl, isBlank_of_isNameChar (hname.chars c List.mem_cons_self)⟩

private theorem dropEndWhile_isReadFrom {p : Param} {text : List Char} (h : p.IsReadFrom text) :
    p.IsReadFrom (Text.dropEndWhile Text.isBlank text) := by
  cases h with
  | bare hname =>
    rw [Text.dropEndWhile_of_forall fun c hc ↦ isBlank_of_isNameChar (hname.chars c hc)]
    exact .bare hname
  | withDefault hname he =>
    rw [Text.dropEndWhile_append_cons (by decide)]
    exact .withDefault hname he.dropEndWhile_isBlank

private theorem dropEndWhile_intercalate {params : List Param} {texts : List (List Char)}
    (h : List.Forall₂ Param.IsReadFrom params texts) (hne : texts ≠ []) :
    ∃ texts', List.Forall₂ Param.IsReadFrom params texts' ∧ texts'.dropLast = texts.dropLast ∧
      ∃ c cs, Text.isBlank c = false ∧ List.intercalate [',', ' '] texts = c :: cs ∧
        List.intercalate [',', ' '] texts' = c :: Text.dropEndWhile Text.isBlank cs := by
  induction h with
  | nil => exact absurd rfl hne
  | @cons p text params texts hp hrest ih =>
    obtain ⟨c, cs, hcons, hc⟩ := exists_cons_of_isReadFrom hp
    cases hrest with
    | nil =>
      refine ⟨[Text.dropEndWhile Text.isBlank text], .cons (dropEndWhile_isReadFrom hp) .nil, rfl,
        c, cs, hc, ?_, ?_⟩
      · rw [List.intercalate_singleton, hcons]
      · rw [List.intercalate_singleton, hcons]
        exact Text.dropEndWhile_append_cons hc [] cs
    | @cons p' text' params' texts' hp' hrest' =>
      obtain ⟨texts'', hparams, hlast, d, ds, hd, hwhole, htrim⟩ := ih (List.cons_ne_nil _ _)
      have hne : texts'' ≠ [] := by
        rintro rfl
        cases hparams
      refine ⟨text :: texts'', .cons hp hparams, ?_, c, cs ++ [',', ' '] ++ d :: ds, hc, ?_, ?_⟩
      · rw [List.dropLast_cons_of_ne_nil hne, List.dropLast_cons_of_ne_nil (List.cons_ne_nil _ _),
          hlast]
      · rw [List.intercalate_cons_cons, hwhole, hcons]
        rfl
      · rw [List.intercalate_cons_of_ne_nil hne, htrim, hcons, Text.dropEndWhile_append_cons hd]
        rfl

/-! ### Signatures -/

private theorem splitSource_parentheses {name : List Char} (hname : IsIdentifier name)
    (args : List Char) :
    splitSource (name ++ '(' :: (args ++ [')'])) = .ok (name, Text.trim args) := by
  have hchars : ∀ c ∈ name, (c != '(') = true := by
    intro c hc
    rw [bne_iff_ne]
    rintro rfl
    cases hname.chars '(' hc
  have htake : (name ++ '(' :: (args ++ [')'])).takeWhile (· != '(') = name := by
    rw [List.takeWhile_append_of_pos hchars, List.takeWhile_cons_of_neg (by decide),
      List.append_nil]
  have htrim : Text.trim name = name :=
    Text.trimWhile_append (s := []) (List.forall_mem_nil _)
      fun c hc ↦ isBlank_of_isNameChar (hname.chars c hc)
  simp only [splitSource, htake, List.drop_left, List.reverse_append, List.reverse_singleton,
    List.singleton_append]
  rw [List.takeWhile_cons_of_neg (by decide)]
  simp [hname.isEmpty_eq_false, htrim, show Text.trim [] = [] from rfl]

private theorem trim_parentheses {name : List Char} (hname : IsIdentifier name)
    (args : List Char) :
    Text.trim (name ++ '(' :: (args ++ [')'])) = name ++ '(' :: (args ++ [')']) := by
  obtain ⟨c, cs, rfl, -⟩ := hname.first
  have hc := isBlank_of_isNameChar (hname.chars c List.mem_cons_self)
  have hend := Text.dropEndWhile_append_cons (p := Text.isBlank) (c := ')') (by decide)
    (c :: cs ++ '(' :: args) []
  rw [Text.trim, Text.trimWhile, List.cons_append, List.dropWhile_cons_of_neg (by simp [hc])]
  simpa [show Text.dropEndWhile Text.isBlank [] = [] from rfl] using hend

private theorem read_parentheses {name : List Char} (hname : IsIdentifier name)
    (args : List Char) :
    read (String.ofList (name ++ '(' :: (args ++ [')']))) =
      (if (Text.trim args).isEmpty then .ok []
        else readParams (splitArguments [] (Fragment.scan (Text.trim args)))).map
          (⟨String.ofList name, ·⟩) := by
  rw [read, String.toList_ofList, trim_parentheses hname, splitSource_parentheses hname]
  simp only [bind, Except.bind, hname.isIdentifier, Bool.not_true, Bool.false_eq_true, if_false]
  split
  · rfl
  · rfl

/-- A name and parameters in parentheses, with a comma and a space between them, are read as a
signature with that name and these parameters. -/
theorem read_params {name : List Char} (hname : IsIdentifier name) {params : List Param}
    {texts : List (List Char)} (h : List.Forall₂ Param.IsReadFrom params texts)
    (hregex : ∀ text ∈ texts.dropLast, ¬Text.LeavesRegexOpen text) :
    read (String.ofList (name ++ '(' :: (List.intercalate [',', ' '] texts ++ [')']))) =
      .ok ⟨String.ofList name, params⟩ := by
  rw [read_parentheses hname]
  by_cases hne : texts = []
  · subst hne
    cases h
    rfl
  · obtain ⟨texts', h', hlast, c, cs, hc, hwhole, htrim⟩ := dropEndWhile_intercalate h hne
    have hargs : Text.trim (List.intercalate [',', ' '] texts) =
        List.intercalate [',', ' '] texts' := by
      rw [hwhole, htrim, Text.trim, Text.trimWhile, List.dropWhile_cons_of_neg (by simp [hc])]
      exact Text.dropEndWhile_append_cons hc [] cs
    have hne' : texts' ≠ [] := by
      rintro rfl
      cases htrim
    obtain ⟨gs, hscan, hread⟩ := readParams_scan h' hne' (hlast ▸ hregex) Scanner.rests_empty
    have hparams :
        readParams (splitArguments [] (Fragment.scan (List.intercalate [',', ' '] texts'))) =
          .ok params := by
      rw [Fragment.scan, hscan]
      exact hread [] rfl
    rw [hargs, hparams, htrim]
    rfl

/-- The commas in brackets and strings belong to the default that they stand in. -/
theorem read_params_nested :
    read "m(a, b=[d,e], _c=',')" =
      .ok ⟨"m", [⟨"a", none⟩, ⟨"b", some (.list [.path "d" [], .path "e" []])⟩,
        ⟨"_c", some (.const (.text "," false))⟩]⟩ := by
  have hstr : Expr.IsReadFrom (.const (.text "," false)) "','".toList := rfl
  have hlist : Expr.IsReadFrom (.list [.path "d" [], .path "e" []]) "[d,e]".toList := by
    have hscan : Fragment.scan "[d,e]".toList = [.ofOperator '[', ⟨"d".toList, .path⟩,
        .ofOperator ',', ⟨"e".toList, .path⟩, .ofOperator ']'] := by rfl
    have htokens : Token.ofFragments [.ofOperator '[', ⟨"d".toList, .path⟩, .ofOperator ',',
        ⟨"e".toList, .path⟩, .ofOperator ']'] = .ok [.symbol .bracketOpen, .path "d".toList,
          .symbol .comma, .path "e".toList, .symbol .bracketClose] := by rfl
    have hparse : Expr.ofTokens [.symbol .bracketOpen, .path "d".toList, .symbol .comma,
        .path "e".toList, .symbol .bracketClose] = .ok (.list [.path "d" [], .path "e" []]) := by
      rfl
    rw [Expr.IsReadFrom, hscan, Expr.ofFragments, htokens]
    exact hparse
  have hname : IsIdentifier "m".toList := by decide
  have ha : IsName "a".toList := by decide
  have hb : IsName "b".toList := by decide
  have hc : IsName "_c".toList := by decide
  have hparams := List.Forall₂.cons (Param.IsReadFrom.bare ha)
    (.cons (Param.IsReadFrom.withDefault hb hlist)
      (.cons (Param.IsReadFrom.withDefault hc hstr) .nil))
  have hsource : "m(a, b=[d,e], _c=',')" = String.ofList ("m".toList ++ '(' ::
      (List.intercalate [',', ' ']
        ["a".toList, "b".toList ++ '=' :: "[d,e]".toList, "_c".toList ++ '=' :: "','".toList] ++
          [')'])) := by
    decide
  have hread := read_params hname hparams (by decide)
  simp only [String.ofList_toList] at hread
  rw [hsource]
  exact hread

/-- A regular expression that ends with an escaped slash is read by itself, but it is open, and
takes in the parameters behind it. -/
theorem read_params_openRegex :
    ∃ e, List.Forall₂ Param.IsReadFrom [⟨"a", some e⟩, ⟨"b", none⟩]
        ["a=r/(?x)#\\/".toList, "b".toList] ∧
      read "m(a=r/(?x)#\\/, b)" = .error (.syntaxError "unknown regex flag `,`") := by
  obtain ⟨e, he⟩ : ∃ e : Expr, e.IsReadFrom "r/(?x)#\\/".toList := ⟨_, rfl⟩
  have hscan : Fragment.scan "a=r/(?x)#\\/, b".toList =
      [⟨"a".toList, .path⟩, .ofOperator '=', ⟨"/(?x)#\\/, b".toList, .regex⟩] := rfl
  have hname : IsIdentifier "m".toList := by decide
  have ha : IsName "a".toList := by decide
  have hb : IsName "b".toList := by decide
  refine ⟨e, .cons (.withDefault ha he) (.cons (.bare hb) .nil), ?_⟩
  have hsource : "m(a=r/(?x)#\\/, b)" = String.ofList ("m".toList ++ '(' ::
      ("a=r/(?x)#\\/, b".toList ++ [')'])) := by
    decide
  have htrim : Text.trim "a=r/(?x)#\\/, b".toList = "a=r/(?x)#\\/, b".toList := by decide
  rw [hsource, read_parentheses hname, htrim, hscan]
  rfl

end Signature

end Stencil
