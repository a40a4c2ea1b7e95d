import Mathlib.Data.List.DropRight
import Stencil.Proofs.Occurrences
import Stencil.Proofs.Scanning.Invariant
import Stencil.Expr.Token

/-!
# Sources of regular expressions

In the source of a regular expression each backslash escapes the character behind it, and between
slashes every slash has to be escaped. The pattern is read from the source without backslashes that
stand in front of slashes. They are the ones that escape slashes, unless a backslash in front of a
slash is escaped itself, which never happens between the slashes of a regular expression that is
scanned. Main statement: `Regex.read_unescaped`.
-/

namespace Stencil

/-! ### Backslashes and slashes -/

namespace Text

/-- The source without the backslashes that escape slashes; from left to right, each backslash
escapes the character behind it. -/
def unescapeSlashes : List Char → List Char
  | '\\' :: '/' :: s => '/' :: unescapeSlashes s
  | '\\' :: c :: s => '\\' :: c :: unescapeSlashes s
  | c :: s => c :: unescapeSlashes s
  | [] => []

/-- Whether the character behind a text is escaped, where `escaped` says it of the first one. -/
def escapesNext (escaped : Bool) (s : List Char) : Bool :=
  s.foldl (fun escaped c ↦ c == '\\' && !escaped) escaped

/-- Whether a slash stands behind a backslash that is escaped, and so does not escape it. -/
def HasPairBeforeSlash (escaped : Bool) (s : List Char) : Prop :=
  ∃ front back, s = front ++ '\\' :: '/' :: back ∧ escapesNext escaped front = true

/-- Whether every slash is escaped. -/
def EscapesSlashes (s : List Char) : Prop :=
  ∀ front back, s = front ++ '/' :: back → escapesNext false front = true

private theorem escapesNext_append (escaped : Bool) (s : List Char) (c : Char) :
    escapesNext escaped (s ++ [c]) = (c == '\\' && !escapesNext escaped s) := by
  rw [escapesNext, List.foldl_append]
  rfl

private theorem not_hasPairBeforeSlash_nil (escaped : Bool) : ¬HasPairBeforeSlash escaped [] := by
  rintro ⟨front, back, hs, -⟩
  exact List.append_ne_nil_of_right_ne_nil front (List.cons_ne_nil _ _) hs.symm

/-- A pair in front of a slash is at the start or behind the first character. -/
theorem hasPairBeforeSlash_cons {escaped : Bool} {c : Char} {s : List Char} :
    HasPairBeforeSlash escaped (c :: s) ↔
      (escaped = true ∧ c = '\\' ∧ s.head? = some '/') ∨
        HasPairBeforeSlash (c == '\\' && !escaped) s := by
  constructor
  · rintro ⟨front, back, hs, hfront⟩
    cases front with
    | nil =>
      obtain ⟨rfl, rfl⟩ := List.cons.inj hs
      exact .inl ⟨hfront, rfl, rfl⟩
    | cons d front =>
      obtain ⟨rfl, rfl⟩ := List.cons.inj hs
      exact .inr ⟨front, back, rfl, hfront⟩
  · rintro (⟨hescaped, rfl, hs⟩ | ⟨front, back, rfl, hfront⟩)
    · obtain ⟨back, rfl⟩ := List.head?_eq_some_iff.mp hs
      exact ⟨[], back, rfl, hescaped⟩
    · exact ⟨c :: front, back, rfl, hfront⟩

private theorem EscapesSlashes.append {s : List Char} (h : EscapesSlashes s) {c : Char}
    (hc : c = '/' → escapesNext false s = true) : EscapesSlashes (s ++ [c]) := by
  intro front back hs
  rcases List.eq_nil_or_concat' back with rfl | ⟨back, d, rfl⟩
  · obtain ⟨rfl, hslash⟩ := List.append_inj' hs rfl
    exact hc (List.singleton_inj.mp hslash)
  · rw [← List.cons_append, ← List.append_assoc] at hs
    exact h front back (List.append_inj' hs rfl).1

private theorem EscapesSlashes.of_append {s back : List Char}
    (h : EscapesSlashes (s ++ '/' :: back)) : EscapesSlashes s := by
  rintro front back' rfl
  exact h front (back' ++ '/' :: back) (by simp)

-- Where every slash is escaped, so is none of the backslashes in front of them.
private theorem EscapesSlashes.not_hasPairBeforeSlash {s : List Char} (h : EscapesSlashes s) :
    ¬HasPairBeforeSlash false s := by
  rintro ⟨front, back, rfl, hfront⟩
  have hslash := h (front ++ ['\\']) back (by simp)
  rw [escapesNext_append, hfront] at hslash
  cases hslash

end Text

open Text (unescapeSlashes HasPairBeforeSlash hasPairBeforeSlash_cons EscapesSlashes)

/-! ### The source of the pattern -/

namespace Regex

private theorem intercalate_consHead (c : Char) (parts : List (List Char)) :
    List.intercalate ['/'] (Text.consHead c parts) = c :: List.intercalate ['/'] parts := by
  cases parts with
  | nil => rfl
  | cons part parts => cases parts <;> simp [Text.consHead, List.intercalate_cons_cons]

private theorem patternSource_slash (s : List Char) :
    patternSource ('\\' :: '/' :: s) = '/' :: patternSource s := by
  have hparts : Text.pieces ['\\', '/'] s ≠ [] := (Text.cut_pieces (by simp) s).ne_nil
  change List.intercalate ['/'] ([] :: Text.pieces ['\\', '/'] s) = _
  rw [List.intercalate_cons_of_ne_nil hparts]
  rfl

private theorem patternSource_cons {c : Char} {s : List Char}
    (h : ¬(c = '\\' ∧ s.head? = some '/')) : patternSource (c :: s) = c :: patternSource s := by
  have hprefix : (['\\', '/'] : List Char).isPrefixOf (c :: s) = false := by
    rw [Bool.eq_false_iff]
    intro hprefix
    obtain ⟨back, hback⟩ := List.isPrefixOf_iff_prefix.mp hprefix
    obtain ⟨rfl, rfl⟩ := List.cons.inj hback
    exact h ⟨rfl, rfl⟩
  have hpieces : Text.pieces ['\\', '/'] (c :: s) =
      Text.consHead c (Text.pieces ['\\', '/'] s) := by
    change Text.piecesFrom ['\\', '/'] 0 (c :: s) = _
    rw [Text.piecesFrom, hprefix]
    rfl
  rw [patternSource, Text.replaceAll, hpieces, intercalate_consHead]
  rfl

/-- The backslashes that escape slashes are left out of the source, and nothing else, exactly if no
slash stands behind an escaped backslash. The induction goes over pairs of a backslash and what it
escapes. -/
theorem patternSource_eq_iff (s : List Char) :
    patternSource s = unescapeSlashes s ↔ ¬HasPairBeforeSlash false s := by
  fun_induction unescapeSlashes s with
  | case1 s ih =>
    rw [patternSource_slash, List.cons.injEq, ih]
    simp [hasPairBeforeSlash_cons]
  | case2 c s hslash ih =>
    rw [patternSource_cons (by simpa using hslash), List.cons.injEq, hasPairBeforeSlash_cons,
      hasPairBeforeSlash_cons]
    by_cases hpair : c = '\\' ∧ s.head? = some '/'
    · obtain ⟨rfl, hs⟩ := hpair
      obtain ⟨back, rfl⟩ := List.head?_eq_some_iff.mp hs
      rw [patternSource_slash]
      simp
    · rw [patternSource_cons hpair, List.cons.injEq, ih]
      simp [hpair]
  | case3 c s _ hescape ih =>
    have hnil (hc : c = '\\') : s = [] := by
      cases s with
      | nil => rfl
      | cons d s => exact (hescape d s hc rfl).elim
    have hnext : ¬(c = '\\' ∧ s.head? = some '/') := by
      rintro ⟨hc, hs⟩
      rw [hnil hc] at hs
      cases hs
    rw [patternSource_cons hnext, List.cons.injEq, ih, hasPairBeforeSlash_cons]
    by_cases hc : c = '\\'
    · simp [hnil hc, Text.not_hasPairBeforeSlash_nil]
    · simp [hc, beq_false_of_ne hc]
  | case4 => exact iff_of_true rfl (Text.not_hasPairBeforeSlash_nil false)

/-! ### Flags -/

/-- What flags ask for together. -/
def optionsOf (flags : List Char) : PatternOptions :=
  { ignoreCase := flags.contains 'i', multiLine := flags.contains 'm' }

/-- What a source and flags are read as if the pattern has the source `pattern`. -/
def readAs (engine : PatternEngine) (source flags : String) (pattern : List Char) :
    Except Error Regex :=
  match engine.compile? (optionsOf flags.toList) pattern with
  | some p => .ok ⟨source, flags, p⟩
  | none => .error (.syntaxError "invalid regular expression")

private theorem readFlags_eq {flags : List Char} (h : ∀ c ∈ flags, c ∈ ['i', 'm', 'g', 'y'])
    (options : PatternOptions) : readFlags options flags =
      .ok { ignoreCase := options.ignoreCase || flags.contains 'i'
            multiLine := options.multiLine || flags.contains 'm' } := by
  induction flags generalizing options with
  | nil => simp [readFlags]
  | cons c flags ih =>
    obtain ⟨hc, hflags⟩ := List.forall_mem_cons.mp h
    simp only [List.mem_cons, List.not_mem_nil, or_false] at hc
    rcases hc with rfl | rfl | rfl | rfl <;> simp [readFlags, ih hflags]

/-- With flags that have a meaning, what is read is decided by the source of the pattern. -/
theorem readWith_eq_readAs {engine : PatternEngine} {source flags : String}
    (h : ∀ c ∈ flags.toList, c ∈ ['i', 'm', 'g', 'y']) :
    readWith engine source flags = readAs engine source flags (patternSource source.toList) := by
  have hoptions : readFlags {} flags.toList = .ok (optionsOf flags.toList) := by
    rw [readFlags_eq h]
    simp [optionsOf]
  rw [readWith, hoptions]
  rfl

end Regex

/-! ### Regular expressions that are scanned -/

private theorem eq_of_append_slash {front back front' back' : List Char} (hback : '/' ∉ back)
    (hback' : '/' ∉ back') (h : front ++ '/' :: back = front' ++ '/' :: back') :
    front = front' := by
  rcases List.append_eq_append_iff.mp h with ⟨more, rfl, hmore⟩ | ⟨more, rfl, hmore⟩
  · cases more with
    | nil => exact (List.append_nil front).symm
    | cons c more =>
      obtain ⟨-, rfl⟩ := List.cons.inj hmore
      simp at hback
  · cases more with
    | nil => exact List.append_nil front'
    | cons c more =>
      obtain ⟨-, rfl⟩ := List.cons.inj hmore
      simp at hback'

namespace Fragment

/-- Whether every slash is escaped in the source of a fragment that is a regular expression. -/
def EscapesSlashes (f : Fragment) : Prop :=
  f.kind = .regex → ∀ c source flags, f.text = c :: source ++ '/' :: flags → '/' ∉ flags →
    Text.EscapesSlashes source

private theorem escapesSlashes_of_kind {f : Fragment} (h : f.kind ≠ .regex) : f.EscapesSlashes :=
  fun hkind ↦ absurd hkind h

end Fragment

namespace Scanner

/-- Whether every slash is escaped in the source of the pending regular expression, and the mode
says whether the next character is. -/
def PendingEscapesSlashes : ScanMode → List Char → Prop
  | .regex escaped, text => ∃ source, text = '/' :: source ∧ Text.EscapesSlashes source ∧
      Text.escapesNext false source = escaped
  | .flags, text => ∃ source flags, text = '/' :: source ++ '/' :: flags ∧
      Text.EscapesSlashes source ∧ '/' ∉ flags
  | _, _ => True

private theorem PendingEscapesSlashes.inRegex {escaped : Bool} {text : List Char}
    (h : PendingEscapesSlashes (.regex escaped) text) (c : Char) :
    PendingEscapesSlashes (.inRegex escaped c) (text ++ [c]) := by
  obtain ⟨source, rfl, hsource, hnext⟩ := h
  unfold ScanMode.inRegex
  split
  · next hc =>
    simp only [Bool.and_eq_true, beq_iff_eq] at hc
    exact ⟨source, [], by simp [hc.1], hsource, List.not_mem_nil⟩
  · next hc =>
    refine ⟨source ++ [c], rfl, hsource.append fun hslash ↦ ?_, ?_⟩
    · rw [hnext]
      simpa [hslash] using hc
    · rw [Text.escapesNext_append, hnext]

/-- In the regular expressions that are scanned every slash of the source is escaped. -/
theorem invariant_escapesSlashes : Invariant Fragment.EscapesSlashes PendingEscapesSlashes where
  nothing := trivial
  letter := fun _ _ _ _ _ ↦ trivial
  quote := fun _ _ ↦ trivial
  inString := fun q escaped _ c _ ↦ by
    unfold ScanMode.inString
    repeat' split
    all_goals trivial
  doubled := fun _ _ _ ↦ trivial
  slash := ⟨[], rfl, fun _ _ hs ↦ absurd hs.symm (by simp), rfl⟩
  inRegex := fun _ _ c h ↦ h.inRegex c
  flag := fun text c hc h ↦ by
    obtain ⟨source, flags, rfl, hsource, hflags⟩ := h
    refine ⟨source, flags ++ [c], by simp, hsource, ?_⟩
    rw [List.mem_append, not_or, List.mem_singleton]
    exact ⟨hflags, by rintro rfl; cases hc⟩
  word := fun text _ _ ↦ Fragment.escapesSlashes_of_kind (classify_ne (by decide) text)
  string := fun _ _ _ ↦ Fragment.escapesSlashes_of_kind nofun
  openString := fun _ _ _ _ ↦ Fragment.escapesSlashes_of_kind nofun
  regex := fun text h _ _ source flags htext hflags ↦ by
    obtain ⟨source', flags', rfl, hsource, hflags'⟩ := h
    rw [List.cons_append, List.cons_append, List.cons.injEq] at htext
    rw [eq_of_append_slash hflags hflags' htext.2.symm]
    exact hsource
  openRegex := fun _ text h _ _ source flags htext _ ↦ by
    obtain ⟨source', rfl, hsource, -⟩ := h
    rw [List.cons_append, List.cons.injEq] at htext
    rw [htext.2] at hsource
    exact hsource.of_append
  operator := fun _ _ ↦ Fragment.escapesSlashes_of_kind nofun
  wordOperator := fun _ _ ↦ Fragment.escapesSlashes_of_kind nofun
  longer := fun _ _ _ _ _ _ ↦ Fragment.escapesSlashes_of_kind nofun
  becomes := fun f g hfg hf hkind ↦ by
    rw [hfg.text]
    rcases hfg.kind with hsame | ⟨-, hkey⟩
    · exact hf (hsame ▸ hkind)
    · rw [hkey] at hkind
      cases hkind

end Scanner

private theorem Token.exists_of_ofRegex {s source flags : List Char}
    (h : Token.ofRegex s = .ok (.regex source flags)) :
    ∃ c, s = c :: source ++ '/' :: flags ∧ '/' ∉ flags := by
  have hsplit : s.rdropWhile (· != '/') ++ s.rtakeWhile (· != '/') = s :=
    List.rdropWhile_append_rtakeWhile
  have hlast := List.rdropWhile_last_not (· != '/') s
  have hflags : '/' ∉ s.rtakeWhile (· != '/') := fun hslash ↦ by
    simpa using List.mem_rtakeWhile_imp hslash
  have hread : Token.ofRegex s = if (s.rtakeWhile (· != '/')).length + 1 < s.length then
      .ok (.regex ((s.drop 1).take (s.length - (s.rtakeWhile (· != '/')).length - 2))
        (s.rtakeWhile (· != '/')))
    else .error (.syntaxError ("unterminated regex literal `" ++ String.ofList s ++ "`")) := rfl
  rw [hread] at h
  generalize s.rtakeWhile (· != '/') = flags' at *
  generalize s.rdropWhile (· != '/') = front at *
  subst hsplit
  split at h
  · next hlength =>
    obtain ⟨rfl, rfl⟩ := Token.regex.inj (Except.ok.inj h)
    rw [List.length_append] at hlength
    -- What stands in front of the flags is the first character, the source and the last slash.
    obtain ⟨c, rest, rfl⟩ := List.exists_cons_of_length_pos (show 0 < front.length by omega)
    rcases List.eq_nil_or_concat' rest with rfl | ⟨source, d, rfl⟩
    · rw [List.length_singleton] at hlength
      omega
    · obtain rfl : d = '/' := by simpa using hlast (List.cons_ne_nil _ _)
      have hlen : (c :: (source ++ ['/']) ++ flags').length - flags'.length - 2 =
          source.length := by
        simp only [List.length_append, List.length_cons, List.length_nil]
        omega
      rw [hlen]
      exact ⟨c, by simp, hflags⟩
  · cases h

/-- With flags that have a meaning, a regular expression is read from its source without the
backslashes in front of slashes. These are the ones that escape slashes if and only if no slash
stands behind a backslash that is escaped itself; so it is for the source and flags of every regular
expression that is scanned. It makes no difference which engine compiles the pattern. -/
theorem Regex.read_unescaped (engine : PatternEngine) (source flags : String)
    (hflags : ∀ c ∈ flags.toList, c ∈ ['i', 'm', 'g', 'y']) :
    Regex.readWith engine source flags =
        Regex.readAs engine source flags (patternSource source.toList) ∧
      (patternSource source.toList = unescapeSlashes source.toList ↔
        ¬HasPairBeforeSlash false source.toList) ∧
      ∀ text, ∀ f ∈ Fragment.scan text, f.kind = .regex →
        Token.ofRegex f.text = .ok (.regex source.toList flags.toList) →
          patternSource source.toList = unescapeSlashes source.toList := by
  have hiff := patternSource_eq_iff source.toList
  refine ⟨readWith_eq_readAs hflags, hiff, fun text f hf hkind hread ↦ hiff.mpr ?_⟩
  obtain ⟨c, htext, hslash⟩ := Token.exists_of_ofRegex hread
  exact (Scanner.invariant_escapesSlashes.scan text f hf hkind c _ _ htext
    hslash).not_hasPairBeforeSlash

/-- Of three backslashes in front of a slash the last one is left out, given by itself or scanned
between slashes. -/
theorem Regex.read_unescaped_three :
    let source := "a\\\\\\/b"
    let f : Fragment := ⟨"/a\\\\\\/b/gi".toList, .regex⟩
    (∀ c ∈ "gi".toList, c ∈ ['i', 'm', 'g', 'y']) ∧
      Regex.read source "gi" = Regex.readAs .standard source "gi" "a\\\\/b".toList ∧
      ¬HasPairBeforeSlash false source.toList ∧
      f ∈ Fragment.scan "x + r/a\\\\\\/b/gi".toList ∧
      Token.ofRegex f.text = .ok (.regex source.toList "gi".toList) ∧
      patternSource source.toList = unescapeSlashes source.toList := by
  intro source f
  have hflags : ∀ c ∈ "gi".toList, c ∈ ['i', 'm', 'g', 'y'] := by simp
  have hmem : f ∈ Fragment.scan "x + r/a\\\\\\/b/gi".toList := by decide
  have htoken : Token.ofRegex f.text = .ok (.regex source.toList "gi".toList) := by
    simp [f, source, Token.ofRegex]
  obtain ⟨hread, hiff, hscan⟩ := Regex.read_unescaped .standard source "gi" hflags
  have hscanned := hscan _ f hmem rfl htoken
  have hpattern : unescapeSlashes source.toList = "a\\\\/b".toList := by decide
  rw [hscanned, hpattern] at hread
  exact ⟨hflags, hread, hiff.mp hscanned, hmem, htoken, hscanned⟩

private theorem toRanges_single (c : Char) :
    (Pattern.CharSet.single c).toRanges = [(c.toNat, c.toNat)] := by
  simp [Pattern.CharSet.single, Pattern.CharSet.toRanges, Text.CharRanges.union,
    Text.CharRanges.joinFrom]

private theorem footprint_single {c : Char} (h : c = '/' ∨ c = '\\') :
    (Pattern.CharSet.single c).footprint = .both 32 := by
  rw [Pattern.CharSet.footprint, toRanges_single]
  rcases h with rfl | rfl <;> rfl

-- The program of a pattern is known once the pattern is read and found small enough.
private theorem isMatch_standard {source : List Char} {e : Pattern.Expr} {c : Pattern.Cursor}
    (hread : Pattern.read? {} source = some (e, c))
    (hsmall : (Pattern.Expr.group 0 e).isAcceptable) (text : List Char) :
    (PatternEngine.standard.compile? {} source).map (·.isMatch text) =
      let code := Pattern.code (.group 0 e) 0 (Pattern.Expr.group 0 e).size
      let program := (code ++ [Pattern.Instruction.accept]).toArray
      some (Pattern.isMatch ⟨program, c.groups, c.names⟩ text) := by
  have hprogram : Pattern.program? e =
      some (Pattern.code (.group 0 e) 0 (Pattern.Expr.group 0 e).size ++
        [Pattern.Instruction.accept]).toArray := if_pos hsmall
  simp only [PatternEngine.standard, Pattern.ofSource?, hread, Option.bind_some, hprogram,
    Option.map_some]

/-- Two backslashes stand for one in front of a slash, but the second one is left out, and the
pattern finds a slash alone. -/
theorem Regex.not_unescaped_two :
    let source := "\\\\/"
    Regex.read source "" = Regex.readAs .standard source "" "\\/".toList ∧
      unescapeSlashes source.toList = source.toList ∧
      (PatternEngine.standard.compile? {} "\\/".toList).map (·.isMatch ['/']) = some true ∧
      (PatternEngine.standard.compile? {} source.toList).map (·.isMatch ['/']) = some false := by
  intro source
  have hpattern : patternSource source.toList = "\\/".toList := by decide
  have hread := @Regex.readWith_eq_readAs .standard source "" (by simp)
  rw [hpattern] at hread
  have hslash := footprint_single (.inl rfl)
  have hbackslash := footprint_single (.inr rfl)
  have hone : (Pattern.Expr.group 0 (.set (.single '/'))).isAcceptable := by
    simp only [Pattern.Expr.isAcceptable, Pattern.Expr.footprint, hslash]
    rfl
  have htwo : (Pattern.Expr.group 0
      (.seq [.set (.single '\\'), .set (.single '/')])).isAcceptable := by
    simp only [Pattern.Expr.isAcceptable, Pattern.Expr.footprint, Pattern.Expr.sumFootprints,
      hslash, hbackslash]
    rfl
  refine ⟨hread, by decide, ?_, ?_⟩
  · rw [isMatch_standard (c := ⟨[], {}, 0, []⟩) rfl hone]
    decide
  · change (PatternEngine.standard.compile? {} "\\\\/".toList).map _ = _
    rw [isMatch_standard (c := ⟨[], {}, 0, []⟩) rfl htwo]
    decide

end Stencil
