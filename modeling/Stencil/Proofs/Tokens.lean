import Mathlib.Data.List.Induction
import Stencil.Proofs.Grammar.Turns
import Stencil.Proofs.OperatorRuns
import Stencil.Proofs.Scanning
import Stencil.Proofs.Segments

/-!
# Tokens of fragments

Fragments that make up tokens fall into runs of operators that touch each other and fragments
between them. A run is cut into symbols that make it up, so that no operator character and no
bracket gets lost, and spaces at the ends make no difference.
-/

namespace Stencil

open Fragment (joinText)

namespace Token

/-! ### Runs of operators -/

/-- What is joined with others is an operator. -/
theorem kind_of_isJoined {f : Fragment} (hf : isJoined f = true) : f.kind = .operator := by
  simp_all [isJoined]

/-- What is joined with others has a text. -/
theorem text_ne_nil_of_isJoined {f : Fragment} (hf : isJoined f = true) : f.text ≠ [] := by
  intro htext
  simp [isJoined, Fragment.isSpace, htext] at hf

/-! ### Fragments between runs -/

/-- The tokens of fragments of which the first one is not joined with others. -/
def ofUnjoined : List Fragment → Except Error (List Token)
  | [] => .ok []
  | f :: fs => do
    let here ← ofFragment f
    let rest ← ofFragments fs
    return here ++ rest

/-- The fragments behind operator characters fall into a run that belongs to them and the others. -/
theorem ofFragmentsAfter_eq_ok {pending : List Char} {fs : List Fragment} {ts : List Token} :
    ofFragmentsAfter pending fs = .ok ts ↔
      ∃ operators more, cutOperators (pending ++ joinText (fs.takeWhile isJoined)) = .ok operators ∧
        ofUnjoined (fs.dropWhile isJoined) = .ok more ∧ ts = operators ++ more := by
  induction fs generalizing pending with
  | nil =>
    rw [ofFragmentsAfter, List.takeWhile_nil, List.dropWhile_nil, joinText, List.flatMap_nil,
      List.append_nil]
    constructor
    · intro h
      exact ⟨ts, [], h, rfl, (List.append_nil ts).symm⟩
    · rintro ⟨operators, more, h, hmore, rfl⟩
      cases hmore
      rw [h, List.append_nil]
  | cons f fs ih =>
    rw [ofFragmentsAfter]
    by_cases hf : isJoined f = true
    · rw [if_pos hf, ih, List.takeWhile_cons_of_pos hf, List.dropWhile_cons_of_pos hf, joinText,
        joinText, List.flatMap_cons, List.append_assoc]
    · rw [if_neg hf, List.takeWhile_cons_of_neg hf, List.dropWhile_cons_of_neg hf, joinText,
        List.flatMap_nil, List.append_nil, ofUnjoined]
      constructor
      · intro h
        obtain ⟨operators, hoperators, h⟩ := exists_of_bind_eq_ok h
        obtain ⟨here, hhere, h⟩ := exists_of_bind_eq_ok h
        obtain ⟨rest, hrest, h⟩ := exists_of_bind_eq_ok h
        cases h
        refine ⟨operators, here ++ rest, hoperators, ?_, List.append_assoc _ _ _⟩
        rw [hhere, ofFragments, hrest]
        rfl
      · rintro ⟨operators, more, hoperators, hmore, rfl⟩
        obtain ⟨here, hhere, hmore⟩ := exists_of_bind_eq_ok hmore
        obtain ⟨rest, hrest, hmore⟩ := exists_of_bind_eq_ok hmore
        cases hmore
        rw [ofFragments] at hrest
        rw [hoperators, hhere, hrest]
        exact congrArg Except.ok (List.append_assoc _ _ _)

/-- A fragment that is not joined with others has its tokens among all. -/
theorem exists_of_mem {pending : List Char} {fs : List Fragment} {ts : List Token}
    (h : ofFragmentsAfter pending fs = .ok ts) {f : Fragment} (hmem : f ∈ fs)
    (hf : isJoined f = false) : ∃ here, ofFragment f = .ok here ∧ ∀ t ∈ here, t ∈ ts := by
  induction fs generalizing pending ts with
  | nil => cases hmem
  | cons g gs ih =>
    rw [ofFragmentsAfter] at h
    split at h
    · next hg =>
      rcases List.mem_cons.mp hmem with rfl | hmem
      · simp [hf] at hg
      · exact ih h hmem
    · obtain ⟨operators, -, h⟩ := exists_of_bind_eq_ok h
      obtain ⟨here, hhere, h⟩ := exists_of_bind_eq_ok h
      obtain ⟨rest, hrest, h⟩ := exists_of_bind_eq_ok h
      cases h
      rcases List.mem_cons.mp hmem with rfl | hmem
      · exact ⟨here, hhere, fun t ht ↦ by simp [ht]⟩
      · obtain ⟨here', hhere', hts⟩ := ih hrest hmem
        exact ⟨here', hhere', fun t ht ↦ by simp [hts t ht]⟩

/-! ### Spaces -/

private theorem exists_text_of_bracket {b : Symbol} (hb : b ∈ bracketSymbols) :
    ∃ c, b.text = [c] ∧ isBracket c = true := by
  simp only [bracketSymbols, List.mem_cons, List.not_mem_nil, or_false] at hb
  rcases hb with rfl | rfl | rfl | rfl | rfl | rfl <;> exact ⟨_, rfl, rfl⟩

/-- The text of a bracket is a bracket. -/
theorem exists_of_bracket? {s : List Char} {t : Token} (h : bracket? s = some t) :
    ∃ c, s = [c] ∧ isBracket c = true := by
  obtain ⟨b, hfind, rfl⟩ := Option.map_eq_some_iff.mp h
  obtain ⟨c, hc, hbracket⟩ := exists_text_of_bracket (List.mem_of_find?_eq_some hfind)
  have htext : b.text = s := by simpa using List.find?_some hfind
  exact ⟨c, htext.symm.trans hc, hbracket⟩

/-- A space is nothing but spaces. -/
theorem text_of_isSpace {f : Fragment} (hf : f.isSpace = true) : ∀ c ∈ f.text, c = ' ' := by
  simpa [Fragment.isSpace] using (Bool.and_eq_true_iff.mp hf).2

/-- A space is no other operator. -/
theorem isOperator_of_isSpace {f : Fragment} (hf : f.isSpace = true) {c : Char} (hc : c ≠ ' ') :
    f.isOperator [c] = false := by
  rw [Bool.eq_false_iff]
  intro hop
  have htext : f.text = [c] := eq_of_beq (Bool.and_eq_true_iff.mp hop).2
  exact hc (text_of_isSpace hf c (by rw [htext]; exact List.mem_cons_self))

private theorem bracket?_of_isSpace {f : Fragment} (hf : f.isSpace = true) :
    bracket? f.text = none := by
  have hall := text_of_isSpace hf
  have hfind : bracketSymbols.find? (fun b ↦ b.text == f.text) = none := by
    rw [List.find?_eq_none]
    intro b hb htext
    obtain ⟨c, hc, hbracket⟩ := exists_text_of_bracket hb
    rw [← eq_of_beq htext, hc, List.forall_mem_singleton] at hall
    rw [hall] at hbracket
    cases hbracket
  rw [bracket?, hfind]
  rfl

/-- An operator in which a character is neither a space nor a bracket is joined with others. -/
theorem isJoined_of_mem {f : Fragment} (hkind : f.kind = .operator) {c : Char} (hc : c ∈ f.text)
    (hspace : c ≠ ' ') (hbracket : isBracket c = false) : isJoined f = true := by
  have hf : f.isSpace = false := Bool.eq_false_iff.mpr fun h ↦ hspace (text_of_isSpace h c hc)
  cases htext : bracket? f.text with
  | none => simp [isJoined, hkind, hf, htext]
  | some t =>
    obtain ⟨d, hd, hd'⟩ := exists_of_bracket? htext
    rw [hd, List.mem_singleton] at hc
    rw [hc, hd'] at hbracket
    cases hbracket

private theorem isJoined_of_isSpace {f : Fragment} (hf : f.isSpace = true) :
    isJoined f = false := by
  simp [isJoined, hf]

private theorem ofFragment_of_isSpace {f : Fragment} (hf : f.isSpace = true) :
    ofFragment f = .ok [] := by
  have hkind : f.kind = .operator := by
    simpa using (Bool.and_eq_true_iff.mp hf).1
  rw [ofFragment, hkind]
  dsimp only
  rw [bracket?_of_isSpace hf]
  rfl

/-- A fragment in front that is not joined with others has its tokens in front. -/
theorem ofFragments_cons {f : Fragment} {here : List Token} (hf : isJoined f = false)
    (hhere : ofFragment f = .ok here) (fs : List Fragment) :
    ofFragments (f :: fs) = (ofFragments fs).map (here ++ ·) := by
  rw [ofFragments, ofFragmentsAfter, hf, hhere, ofFragments]
  cases ofFragmentsAfter [] fs <;> rfl

/-- The tokens of fragments fall into those in front of a fragment that is not joined with others,
its own, and those behind it. -/
theorem ofFragmentsAfter_append_cons {f : Fragment} {here : List Token}
    (hf : isJoined f = false) (hhere : ofFragment f = .ok here) (pending : List Char)
    (fs gs : List Fragment) :
    ofFragmentsAfter pending (fs ++ f :: gs) = (do
      let front ← ofFragmentsAfter pending fs
      let rest ← ofFragments gs
      return front ++ here ++ rest) := by
  induction fs generalizing pending with
  | nil =>
    rw [List.nil_append, ofFragmentsAfter, ofFragmentsAfter, hf, hhere]
    rfl
  | cons g fs ih =>
    rw [List.cons_append, ofFragmentsAfter, ofFragmentsAfter, ih, ih]
    split
    · rfl
    · cases cutOperators pending with
      | error e => rfl
      | ok operators =>
        cases ofFragment g with
        | error e => rfl
        | ok now =>
          cases ofFragmentsAfter [] fs with
          | error e => rfl
          | ok front =>
            cases h : ofFragments gs with
            | error e => rfl
            | ok rest => exact congrArg Except.ok (by simp)

/-- A fragment at the end that is not joined with others has its tokens at the end. -/
theorem ofFragmentsAfter_append {f : Fragment} {here : List Token} (hf : isJoined f = false)
    (hhere : ofFragment f = .ok here) (pending : List Char) (fs : List Fragment) :
    ofFragmentsAfter pending (fs ++ [f]) = (ofFragmentsAfter pending fs).map (· ++ here) := by
  rw [ofFragmentsAfter_append_cons hf hhere]
  cases ofFragmentsAfter pending fs with
  | error e => rfl
  | ok front => exact congrArg Except.ok (List.append_nil _)

/-- Fragments that do not end with an operator have their tokens in front. -/
theorem ofFragments_append {fs : List Fragment} {f : Fragment} (hf : isJoined f = false)
    {ts : List Token} (h : ofFragments (fs ++ [f]) = .ok ts) (gs : List Fragment) :
    ofFragments (fs ++ [f] ++ gs) = (ofFragments gs).map (ts ++ ·) := by
  obtain ⟨here, hhere, -⟩ := exists_of_mem h List.mem_concat_self hf
  rw [ofFragments, ofFragmentsAfter_append hf hhere] at h
  obtain ⟨front, hfront, rfl⟩ := exists_of_map_eq_ok h
  rw [List.append_assoc, List.singleton_append, ofFragments,
    ofFragmentsAfter_append_cons hf hhere, hfront]
  cases ofFragments gs <;> rfl

/-- A space in front has no token. -/
theorem ofFragments_space_cons {f : Fragment} (hf : f.isSpace = true) (fs : List Fragment) :
    ofFragments (f :: fs) = ofFragments fs := by
  rw [ofFragments_cons (isJoined_of_isSpace hf) (ofFragment_of_isSpace hf)]
  cases ofFragments fs <;> rfl

/-- A space at the end has no token. -/
theorem ofFragmentsAfter_append_space {f : Fragment} (hf : f.isSpace = true)
    (pending : List Char) (fs : List Fragment) :
    ofFragmentsAfter pending (fs ++ [f]) = ofFragmentsAfter pending fs := by
  rw [ofFragmentsAfter_append (isJoined_of_isSpace hf) (ofFragment_of_isSpace hf)]
  cases ofFragmentsAfter pending fs with
  | error e => rfl
  | ok ts => exact congrArg Except.ok (List.append_nil ts)

/-- Spaces in front have no tokens. -/
theorem ofFragments_spaces_append {spaces : List Fragment}
    (hspaces : ∀ f ∈ spaces, f.isSpace = true) (fs : List Fragment) :
    ofFragments (spaces ++ fs) = ofFragments fs := by
  induction spaces with
  | nil => rfl
  | cons f spaces ih =>
    obtain ⟨hf, hspaces⟩ := List.forall_mem_cons.mp hspaces
    rw [List.cons_append, ofFragments_space_cons hf, ih hspaces]

/-- Spaces at the end have no tokens. -/
theorem ofFragmentsAfter_append_spaces {spaces : List Fragment}
    (hspaces : ∀ f ∈ spaces, f.isSpace = true) (pending : List Char) (fs : List Fragment) :
    ofFragmentsAfter pending (fs ++ spaces) = ofFragmentsAfter pending fs := by
  induction spaces generalizing fs with
  | nil => rw [List.append_nil]
  | cons f spaces ih =>
    obtain ⟨hf, hspaces⟩ := List.forall_mem_cons.mp hspaces
    rw [List.append_cons, ih hspaces, ofFragmentsAfter_append_space hf]

/-- Spaces at the ends have no tokens. -/
theorem ofFragments_trimSpaces (fs : List Fragment) :
    ofFragments (Fragment.trimSpaces fs) = ofFragments fs := by
  obtain ⟨before, after, hbefore, hafter, hfs⟩ := Fragment.exists_trimSpaces fs
  have hwhole : ofFragments (before ++ (Fragment.trimSpaces fs ++ after)) =
      ofFragments (Fragment.trimSpaces fs) :=
    (ofFragments_spaces_append hbefore _).trans (ofFragmentsAfter_append_spaces hafter [] _)
  rw [← hwhole, ← List.append_assoc, ← hfs]

/-! ### The first token -/

private theorem ofDottedNames_ne_nil (s : List Char) : ofDottedNames s ≠ .ok [] := by
  unfold ofDottedNames
  dsimp only
  split
  · next rest =>
    split
    · intro h
      have hnames := List.flatMap_eq_nil_iff.mp (Except.ok.inj h)
      obtain ⟨name, names, hcons⟩ := List.exists_cons_of_ne_nil (Text.splitAtChar_ne_nil '.' rest)
      exact absurd (hnames name (hcons ▸ List.mem_cons_self)) (List.cons_ne_nil _ _)
    · rintro ⟨⟩
  · rintro ⟨⟩

private theorem isSpace_of_ofFragment {f : Fragment} (hf : isJoined f = false)
    (h : ofFragment f = .ok []) : f.isSpace = true := by
  obtain ⟨text, kind⟩ := f
  cases kind with
  | operator =>
    have hbracket : bracket? text = none := by simpa [ofFragment] using h
    simpa [isJoined, hbracket] using hf
  | str | regex | literal =>
    obtain ⟨t, -, ht⟩ := exists_of_map_eq_ok h
    cases ht
  | path | objectKey => cases h
  | other => exact absurd h (ofDottedNames_ne_nil text)

-- The first fragment is a space, begins with the first token, or belongs to operators, the first
-- token being one of their symbols.
private theorem ofFragments_cons_cases {f : Fragment} {fs : List Fragment} {ts : List Token}
    (h : ofFragments (f :: fs) = .ok ts) :
    (f.isSpace = true ∧ ofFragments fs = .ok ts) ∨
      (isJoined f = false ∧ ∃ t here rest, ofFragment f = .ok (t :: here) ∧
        ofFragments fs = .ok rest ∧ ts = t :: here ++ rest) ∨
      isJoined f = true ∧ ∃ b ∈ operatorSymbols, f.text.head? = b.text.head? ∧
        ∃ more, ts = .symbol b :: more := by
  by_cases hf : isJoined f = true
  · right
    right
    obtain ⟨operators, more, hcut, -, rfl⟩ := ofFragmentsAfter_eq_ok.mp h
    rw [List.takeWhile_cons_of_pos hf, List.nil_append, joinText, List.flatMap_cons] at hcut
    obtain ⟨symbols, rfl, htext, hall⟩ := exists_of_cutOperators hcut
    cases symbols with
    | nil => exact absurd (List.append_eq_nil_iff.mp htext).1 (text_ne_nil_of_isJoined hf)
    | cons b symbols =>
      refine ⟨hf, b, hall b List.mem_cons_self, ?_, _, rfl⟩
      have hb := b.text_ne_nil
      rw [List.flatMap_cons] at htext
      rw [← List.head?_append_of_ne_nil _ (text_ne_nil_of_isJoined hf), htext,
        List.head?_append_of_ne_nil _ (by simp [hb])]
  · rw [Bool.not_eq_true] at hf
    rw [ofFragments, ofFragmentsAfter, hf] at h
    obtain ⟨operators, hcut, h⟩ := exists_of_bind_eq_ok h
    obtain ⟨here, hhere, h⟩ := exists_of_bind_eq_ok h
    obtain ⟨rest, hrest, h⟩ := exists_of_bind_eq_ok h
    cases hcut
    cases h
    cases here with
    | nil => exact .inl ⟨isSpace_of_ofFragment hf hhere, hrest⟩
    | cons t here => exact .inr (.inl ⟨hf, t, here, rest, hhere, hrest, rfl⟩)

/-- Fragments without tokens are spaces. -/
theorem isSpace_of_ofFragments {fs : List Fragment} (h : ofFragments fs = .ok []) :
    ∀ f ∈ fs, f.isSpace = true := by
  induction fs with
  | nil => exact List.forall_mem_nil _
  | cons f fs ih =>
    rcases ofFragments_cons_cases h with ⟨hf, h⟩ | ⟨-, _, _, _, -, -, ⟨⟩⟩ | ⟨-, _, -, -, _, ⟨⟩⟩
    exact List.forall_mem_cons.mpr ⟨hf, ih h⟩

/-- A first token that is no operator is that of the first fragment that is no space. -/
theorem exists_of_ofFragments_eq_cons {fs : List Fragment} {t : Token} {ts : List Token}
    (h : ofFragments fs = .ok (t :: ts)) (ht : ∀ b ∈ operatorSymbols, t ≠ .symbol b) :
    ∃ spaces f after here rest, fs = spaces ++ f :: after ∧ (∀ g ∈ spaces, g.isSpace = true) ∧
      isJoined f = false ∧ ofFragment f = .ok (t :: here) ∧ ofFragments after = .ok rest ∧
      ts = here ++ rest := by
  induction fs with
  | nil => cases h
  | cons f fs ih =>
    rcases ofFragments_cons_cases h with ⟨hf, h⟩ | ⟨hf, t', here, rest, hhere, hrest, hts⟩ |
      ⟨-, b, hb, -, more, hts⟩
    · obtain ⟨spaces, g, after, here, rest, rfl, hspaces, hg⟩ := ih h
      exact ⟨f :: spaces, g, after, here, rest, rfl, List.forall_mem_cons.mpr ⟨hf, hspaces⟩, hg⟩
    · cases hts
      exact ⟨[], f, fs, here, rest, rfl, List.forall_mem_nil _, hf, hhere, hrest, rfl⟩
    · cases hts
      exact absurd rfl (ht b hb)

/-! ### Commas and colons -/

section

variable {b : Symbol} {c : Char}

private theorem cutOperators_separator_cons (hb : b ∈ [.comma, .colon]) (hc : b.text = [c])
    (s : List Char) : cutOperators (c :: s) = (cutOperators s).map (.symbol b :: ·) := by
  have hlongest : b.IsLongestIn (b.text ++ s) := by
    apply Symbol.find?_eq_some_iff.mp
    simp only [List.mem_cons, List.not_mem_nil, or_false] at hb
    rcases hb with rfl | rfl <;> rfl
  have hcut := cutOperators_append hlongest
  rwa [hc, List.singleton_append] at hcut

/-- A comma or a colon in front has its token in front, whatever touches it. -/
theorem ofFragments_separator_cons (hb : b ∈ [.comma, .colon]) (hc : b.text = [c])
    (fs : List Fragment) :
    ofFragments (.ofOperator c :: fs) = (ofFragments fs).map (.symbol b :: ·) := by
  have hafter (pending : List Char) : ofFragmentsAfter (c :: pending) fs =
      (ofFragmentsAfter pending fs).map (.symbol b :: ·) := by
    induction fs generalizing pending with
    | nil => exact cutOperators_separator_cons hb hc pending
    | cons f fs ih =>
      rw [ofFragmentsAfter, ofFragmentsAfter]
      split
      · exact ih _
      · rw [cutOperators_separator_cons hb hc]
        cases cutOperators pending with
        | error e => rfl
        | ok operators =>
          cases ofFragment f with
          | error e => rfl
          | ok here => cases ofFragmentsAfter [] fs <;> rfl
  have hjoined : isJoined (.ofOperator c) = true := by
    simp only [List.mem_cons, List.not_mem_nil, or_false] at hb
    rcases hb with rfl | rfl <;> cases hc <;> rfl
  rw [ofFragments, ofFragmentsAfter, if_pos hjoined]
  exact hafter []

end

/-! ### Words -/

/-- Whether the token is no symbol but the dot in front of a name. -/
def IsWord (t : Token) : Prop := ∀ s, t = .symbol s → s = .dot

private theorem isWord_of_ne {t : Token} (h : ∀ s, t ≠ .symbol s) : t.IsWord :=
  fun s hs ↦ absurd hs (h s)

private theorem isWord_ofDottedNames {s : List Char} {ts : List Token}
    (h : ofDottedNames s = .ok ts) : ∀ t ∈ ts, t.IsWord := by
  unfold ofDottedNames at h
  dsimp only at h
  split at h
  · split at h
    · cases h
      intro t ht
      obtain ⟨name, -, ht⟩ := List.mem_flatMap.mp ht
      rcases List.mem_cons.mp ht with rfl | ht
      · exact fun s hs ↦ (Token.symbol.inj hs).symm
      · rw [List.mem_singleton.mp ht]
        exact isWord_of_ne (by simp)
    · cases h
  · cases h

private theorem isWord_number? {s : List Char} {t : Token} (h : number? s = some t) :
    t.IsWord := by
  unfold number? at h
  split at h
  · cases h
    exact isWord_of_ne (by simp)
  · split at h
    · obtain ⟨x, -, rfl⟩ := Option.map_eq_some_iff.mp h
      exact isWord_of_ne (by simp)
    · cases h

private theorem isWord_ofLiteral {s : List Char} {t : Token} (h : ofLiteral s = .ok t) :
    t.IsWord := by
  unfold ofLiteral at h
  repeat' split at h
  case h_1 hnumber =>
    cases h
    exact isWord_number? hnumber
  all_goals cases h
  all_goals exact isWord_of_ne (by simp)

private theorem isWord_ofRegex {s : List Char} {t : Token} (h : ofRegex s = .ok t) :
    t.IsWord := by
  unfold ofRegex at h
  dsimp only at h
  split at h <;> cases h
  exact isWord_of_ne (by simp)

/-- The tokens of a fragment that is no operator are words. -/
theorem isWord_ofFragment {f : Fragment} {ts : List Token} (hf : f.kind ≠ .operator)
    (h : ofFragment f = .ok ts) : ∀ t ∈ ts, t.IsWord := by
  obtain ⟨text, kind⟩ := f
  cases kind with
  | operator => exact absurd rfl hf
  | str =>
    obtain ⟨x, -, rfl⟩ := exists_of_map_eq_ok h
    exact List.forall_mem_singleton.mpr (isWord_of_ne (by simp))
  | regex =>
    obtain ⟨t, ht, rfl⟩ := exists_of_map_eq_ok h
    exact List.forall_mem_singleton.mpr (isWord_ofRegex ht)
  | literal =>
    obtain ⟨t, ht, rfl⟩ := exists_of_map_eq_ok h
    exact List.forall_mem_singleton.mpr (isWord_ofLiteral ht)
  | path =>
    cases h
    refine List.forall_mem_singleton.mpr ?_
    cases ht : number? text with
    | none => exact isWord_of_ne (by simp)
    | some t => exact isWord_number? ht
  | objectKey =>
    cases h
    exact List.forall_mem_singleton.mpr (isWord_of_ne (by simp))
  | other => exact isWord_ofDottedNames h

private theorem eq_bracket_of_mem {f : Fragment} {b : Symbol} {ts : List Token} (hb : b ≠ .dot)
    (h : ofFragment f = .ok ts) (hmem : .symbol b ∈ ts) : f = ⟨b.text, .operator⟩ := by
  obtain ⟨text, kind⟩ := f
  by_cases hkind : kind = .operator
  · subst hkind
    cases h
    obtain ⟨b', hfind, hb'⟩ := Option.map_eq_some_iff.mp (Option.mem_toList.mp hmem)
    cases hb'
    have htext : b.text = text := by simpa using List.find?_some hfind
    rw [htext]
  · exact absurd (isWord_ofFragment hkind h _ hmem b rfl) hb

/-- Only a bracket has it as its token. -/
theorem eq_bracket_of_ofFragment {f : Fragment} {b : Symbol} {ts : List Token} (hb : b ≠ .dot)
    (h : ofFragment f = .ok (.symbol b :: ts)) : f = ⟨b.text, .operator⟩ :=
  eq_bracket_of_mem hb h List.mem_cons_self

/-! ### Brackets and commas -/

end Token

/-- Whether the character is a bracket or a comma. -/
def isMark (c : Char) : Bool := isBracket c || c == ','

/-- The brackets and commas of a fragment. -/
def Fragment.marks (f : Fragment) : List Char :=
  if f.kind == .operator then f.text.filter isMark else []

namespace Token

/-- There is no bracket and no comma in a space. -/
theorem marks_of_isSpace {f : Fragment} (hf : f.isSpace = true) : f.marks = [] := by
  unfold Fragment.marks
  split
  · rw [List.filter_eq_nil_iff]
    intro c hc
    rw [text_of_isSpace hf c hc]
    decide
  · rfl

/-- The brackets and commas of a token. -/
def marks : Token → List Char
  | .symbol s => s.text.filter isMark
  | _ => []

private theorem IsWord.marks {t : Token} (h : t.IsWord) : t.marks = [] := by
  cases t with
  | symbol s =>
    obtain rfl := h s rfl
    rfl
  | _ => rfl

private theorem flatMap_marks_cutOperators {s : List Char} {ts : List Token}
    (h : cutOperators s = .ok ts) : ts.flatMap marks = s.filter isMark := by
  obtain ⟨symbols, rfl, rfl, -⟩ := exists_of_cutOperators h
  rw [List.filter_flatMap, List.flatMap_map]
  rfl

private theorem marks_ofFragment {f : Fragment} {ts : List Token} (hf : isJoined f = false)
    (h : ofFragment f = .ok ts) : ts.flatMap marks = f.marks := by
  by_cases hkind : f.kind = .operator
  · rw [ofFragment, hkind] at h
    cases h
    cases hb : bracket? f.text with
    | none =>
      have hspace : f.isSpace = true := by simpa [isJoined, hb, hkind] using hf
      exact (marks_of_isSpace hspace).symm
    | some t =>
      obtain ⟨b, hfind, rfl⟩ := Option.map_eq_some_iff.mp hb
      have htext : b.text = f.text := by simpa using List.find?_some hfind
      simp [marks, Fragment.marks, htext, hkind]
  · have hmarks : f.marks = [] := by simp [Fragment.marks, hkind]
    rw [hmarks, List.flatMap_eq_nil_iff]
    exact fun t ht ↦ (isWord_ofFragment hkind h t ht).marks

/-- Fragments have the brackets and commas of their tokens. -/
theorem flatMap_marks {pending : List Char} {fs : List Fragment} {ts : List Token}
    (h : ofFragmentsAfter pending fs = .ok ts) :
    ts.flatMap marks = pending.filter isMark ++ fs.flatMap Fragment.marks := by
  induction fs generalizing pending ts with
  | nil =>
    rw [flatMap_marks_cutOperators h, List.flatMap_nil, List.append_nil]
  | cons f fs ih =>
    rw [ofFragmentsAfter] at h
    rw [List.flatMap_cons]
    split at h
    · next hf =>
      have hmarks : f.marks = f.text.filter isMark := by
        simp [Fragment.marks, kind_of_isJoined hf]
      rw [ih h, List.filter_append, hmarks, List.append_assoc]
    · next hf =>
      obtain ⟨operators, hoperators, h⟩ := exists_of_bind_eq_ok h
      obtain ⟨here, hhere, h⟩ := exists_of_bind_eq_ok h
      obtain ⟨rest, hrest, h⟩ := exists_of_bind_eq_ok h
      cases h
      rw [List.flatMap_append, List.flatMap_append, flatMap_marks_cutOperators hoperators,
        marks_ofFragment (by simpa using hf) hhere, ih hrest, List.append_assoc]
      rfl

/-! ### Operators at the ends of runs -/

private theorem isBracket_text {b : Symbol} (hb : b ∈ operatorSymbols) :
    ∀ c ∈ b.text, isBracket c = false := by
  have hall : operatorSymbols.all (fun b ↦ b.text.all (!isBracket ·)) = true := by decide
  simp only [List.all_eq_true, Bool.not_eq_true'] at hall
  exact hall b hb

/-- No run of operators has a bracket in it. -/
theorem isBracket_of_cutOperators {s : List Char} {ts : List Token} (h : cutOperators s = .ok ts) :
    ∀ c ∈ s, isBracket c = false := by
  obtain ⟨symbols, rfl, rfl, hall⟩ := exists_of_cutOperators h
  intro c hc
  obtain ⟨b, hb, hc⟩ := List.mem_flatMap.mp hc
  exact isBracket_text (hall b hb) c hc

/-- An operator fragment is a single bracket or has no bracket in it. -/
theorem isBracket_of_ofFragments {pending : List Char} {fs : List Fragment} {ts : List Token}
    (h : ofFragmentsAfter pending fs = .ok ts) :
    (∀ c ∈ pending, isBracket c = false) ∧
      ∀ f ∈ fs, f.kind = .operator →
        (∃ c, f.text = [c]) ∨ ∀ c ∈ f.text, isBracket c = false := by
  induction fs generalizing pending ts with
  | nil => exact ⟨isBracket_of_cutOperators h, List.forall_mem_nil _⟩
  | cons f fs ih =>
    rw [ofFragmentsAfter] at h
    split at h
    · obtain ⟨hpending, hfs⟩ := ih h
      rw [List.forall_mem_append] at hpending
      exact ⟨hpending.1, List.forall_mem_cons.mpr ⟨fun _ ↦ .inr hpending.2, hfs⟩⟩
    · next hf =>
      obtain ⟨operators, hoperators, h⟩ := exists_of_bind_eq_ok h
      obtain ⟨here, -, h⟩ := exists_of_bind_eq_ok h
      obtain ⟨rest, hrest, -⟩ := exists_of_bind_eq_ok h
      refine ⟨isBracket_of_cutOperators hoperators, List.forall_mem_cons.mpr ⟨fun hkind ↦ ?_,
        (ih hrest).2⟩⟩
      cases hb : bracket? f.text with
      | none =>
        have hspace : f.isSpace = true := by simpa [isJoined, hb, hkind] using hf
        right
        intro c hc
        rw [text_of_isSpace hspace c hc]
        decide
      | some t =>
        obtain ⟨c, hc, -⟩ := exists_of_bracket? hb
        exact .inl ⟨c, hc⟩

/-- Fragments that end with an operator have it as their last token. -/
theorem exists_last_of_isJoined {pending : List Char} {fs : List Fragment} {f : Fragment}
    {ts : List Token} (hf : isJoined f = true) (h : ofFragmentsAfter pending (fs ++ [f]) = .ok ts) :
    ∃ before, ∃ b ∈ operatorSymbols, ts = before ++ [.symbol b] ∧
      f.text.getLast? = b.text.getLast? := by
  induction fs generalizing pending ts with
  | nil =>
    rw [List.nil_append, ofFragmentsAfter, if_pos hf] at h
    obtain ⟨symbols, rfl, hs, hall⟩ := exists_of_cutOperators h
    rcases List.eq_nil_or_concat' symbols with rfl | ⟨before, b, rfl⟩
    · exact absurd (List.append_eq_nil_iff.mp hs).2 (text_ne_nil_of_isJoined hf)
    · refine ⟨before.map .symbol, b, hall b (by simp), by simp, ?_⟩
      have hb := b.text_ne_nil
      rw [List.flatMap_append, List.flatMap_singleton] at hs
      rw [← List.getLast?_append_of_ne_nil _ (text_ne_nil_of_isJoined hf), hs,
        List.getLast?_append_of_ne_nil _ (by simp [hb])]
  | cons g gs ih =>
    rw [List.cons_append, ofFragmentsAfter] at h
    split at h
    · exact ih h
    · obtain ⟨operators, -, h⟩ := exists_of_bind_eq_ok h
      obtain ⟨here, -, h⟩ := exists_of_bind_eq_ok h
      obtain ⟨rest, hrest, h⟩ := exists_of_bind_eq_ok h
      cases h
      obtain ⟨before, b, hb, rfl, hlast⟩ := ih hrest
      exact ⟨operators ++ here ++ before, b, hb, by simp, hlast⟩

/-- A first token that is a symbol begins the first fragment that is no space. -/
theorem exists_of_ofFragments_eq_symbol_cons {fs : List Fragment} {b : Symbol} {ts : List Token}
    (hb : b ≠ .dot) (h : ofFragments fs = .ok (.symbol b :: ts)) :
    ∃ spaces f after, fs = spaces ++ f :: after ∧ (∀ g ∈ spaces, g.isSpace = true) ∧
      f.kind = .operator ∧ f.text.head? = b.text.head? := by
  induction fs with
  | nil => cases h
  | cons f fs ih =>
    rcases ofFragments_cons_cases h with ⟨hf, h⟩ | ⟨-, t, here, rest, hhere, -, hts⟩ |
      ⟨hf, b', -, htext, more, hts⟩
    · obtain ⟨spaces, g, after, rfl, hspaces, hg⟩ := ih h
      exact ⟨f :: spaces, g, after, rfl, List.forall_mem_cons.mpr ⟨hf, hspaces⟩, hg⟩
    · cases hts
      obtain rfl := eq_bracket_of_ofFragment hb hhere
      exact ⟨[], _, fs, rfl, List.forall_mem_nil _, rfl, rfl⟩
    · cases hts
      exact ⟨[], f, fs, rfl, List.forall_mem_nil _, kind_of_isJoined hf, htext⟩

/-- A last token that is a symbol ends the last fragment that is no space. -/
theorem exists_of_ofFragments_eq_concat {fs : List Fragment} {b : Symbol} {ts : List Token}
    (hb : b ≠ .dot) (h : ofFragments fs = .ok (ts ++ [.symbol b])) :
    ∃ before f spaces, fs = before ++ f :: spaces ∧ (∀ g ∈ spaces, g.isSpace = true) ∧
      f.kind = .operator ∧ f.text.getLast? = b.text.getLast? := by
  induction fs using List.reverseRecOn with
  | nil => simp [ofFragments, ofFragmentsAfter, cutOperators, cutOperatorsFrom] at h
  | append_singleton fs f ih =>
    by_cases hspace : f.isSpace = true
    · rw [ofFragments, ofFragmentsAfter_append_space hspace] at h
      obtain ⟨before, g, spaces, rfl, hspaces, hg⟩ := ih h
      exact ⟨before, g, spaces ++ [f], by simp,
        List.forall_mem_append.mpr ⟨hspaces, List.forall_mem_singleton.mpr hspace⟩, hg⟩
    · refine ⟨fs, f, [], rfl, List.forall_mem_nil _, ?_⟩
      by_cases hf : isJoined f = true
      · obtain ⟨before, b', -, hts, htext⟩ := exists_last_of_isJoined hf h
        obtain ⟨-, hlast⟩ := List.append_inj' hts rfl
        cases hlast
        exact ⟨kind_of_isJoined hf, htext⟩
      · rw [Bool.not_eq_true] at hf
        obtain ⟨here, hhere, -⟩ := exists_of_mem h List.mem_concat_self hf
        rw [ofFragments, ofFragmentsAfter_append hf hhere] at h
        obtain ⟨front, -, hts⟩ := exists_of_map_eq_ok h
        rcases List.eq_nil_or_concat' here with rfl | ⟨here, t, rfl⟩
        · exact absurd (isSpace_of_ofFragment hf hhere) hspace
        · rw [← List.append_assoc] at hts
          obtain ⟨-, hlast⟩ := List.append_inj' hts rfl
          cases hlast
          obtain rfl := eq_bracket_of_mem hb hhere List.mem_concat_self
          exact ⟨rfl, rfl⟩

end Token

end Stencil
