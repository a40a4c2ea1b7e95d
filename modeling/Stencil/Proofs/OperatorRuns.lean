import Stencil.Expr.Token

/-!
# Runs of operators

Operator characters that touch each other are cut into symbols from the front, each of them the
longest one that what is left begins with. No such choice has to be taken back: every operator
character is a symbol by itself, save the ampersand, which stands in the symbol of two of them and
in no other. So a run is cut up to its end unless ampersands stand next to each other in it an odd
number of times. Main statement: `Token.cutOperators_run`.
-/

namespace Stencil

/-! ### The longest symbol in front -/

/-- Whether the symbol is the longest operator that the text begins with. -/
structure Symbol.IsLongestIn (b : Symbol) (s : List Char) : Prop where
  /-- It is an operator. -/
  mem : b ∈ operatorSymbols
  /-- The text begins with it. -/
  text_prefix : b.text <+: s
  /-- The text begins with no longer one. -/
  length_le : ∀ b' ∈ operatorSymbols, b'.text <+: s → b'.text.length ≤ b.text.length

namespace Symbol

/-- Every symbol has characters. -/
theorem text_ne_nil (b : Symbol) : b.text ≠ [] := by
  cases b <;> exact List.cons_ne_nil _ _

/-- Operators are tried from longer to shorter ones. -/
theorem pairwise_operatorSymbols :
    operatorSymbols.Pairwise fun b b' ↦ b'.text.length ≤ b.text.length := by
  decide

/-- Operators that are written the same are the same. -/
theorem eq_of_text_eq :
    ∀ b ∈ operatorSymbols, ∀ b' ∈ operatorSymbols, b.text = b'.text → b = b' := by
  decide

/-- The operator that is found first is the longest one. -/
theorem IsLongestIn.of_find? {b : Symbol} {s : List Char}
    (h : operatorSymbols.find? (fun b ↦ b.text.isPrefixOf s) = some b) : b.IsLongestIn s := by
  obtain ⟨hb, before, after, hsplit, hbefore⟩ := List.find?_eq_some_iff_append.mp h
  refine ⟨List.mem_of_find?_eq_some h, List.isPrefixOf_iff_prefix.mp hb, ?_⟩
  intro b' hb' hprefix
  have hpairwise := pairwise_operatorSymbols
  rw [hsplit] at hb' hpairwise
  rcases List.mem_append.mp hb' with hfront | hback
  · have hnot := hbefore b' hfront
    rw [List.isPrefixOf_iff_prefix.mpr hprefix] at hnot
    cases hnot
  · rcases List.mem_cons.mp hback with rfl | hback
    · exact Nat.le_refl _
    · exact List.rel_of_pairwise_cons (List.pairwise_append.mp hpairwise).2.1 hback

/-- A text begins with one longest operator at most. -/
theorem IsLongestIn.unique {b b' : Symbol} {s : List Char} (h : b.IsLongestIn s)
    (h' : b'.IsLongestIn s) : b = b' := by
  apply eq_of_text_eq b h.mem b' h'.mem
  have hlength : b.text.length = b'.text.length :=
    Nat.le_antisymm (h'.length_le b h.mem h.text_prefix) (h.length_le b' h'.mem h'.text_prefix)
  have hprefix : b.text <+: b'.text :=
    List.prefix_of_prefix_length_le h.text_prefix h'.text_prefix (Nat.le_of_eq hlength)
  exact hprefix.eq_of_length hlength

/-- Trying the operators one after the other finds the longest one. -/
theorem find?_eq_some_iff {b : Symbol} {s : List Char} :
    operatorSymbols.find? (fun b ↦ b.text.isPrefixOf s) = some b ↔ b.IsLongestIn s := by
  constructor
  · exact IsLongestIn.of_find?
  · intro h
    cases hfind : operatorSymbols.find? fun b ↦ b.text.isPrefixOf s with
    | none =>
      have hnot := List.find?_eq_none.mp hfind b h.mem
      exact absurd (List.isPrefixOf_iff_prefix.mpr h.text_prefix) hnot
    | some b' => rw [(IsLongestIn.of_find? hfind).unique h]

end Symbol

namespace Token

/-! ### Cutting from the front -/

/-- Cutting a text from the front: while it begins with an operator, the longest one is taken away.
What comes of it are the operators in their order and the text that is left. -/
inductive LongestFirst : List Char → List Symbol → List Char → Prop where
  /-- The text begins with no operator. -/
  | stop {s : List Char} (h : ∀ b ∈ operatorSymbols, ¬b.text <+: s) : LongestFirst s [] s
  /-- The longest operator is taken away. -/
  | take {b : Symbol} {rest left : List Char} {bs : List Symbol}
    (hb : b.IsLongestIn (b.text ++ rest)) (h : LongestFirst rest bs left) :
    LongestFirst (b.text ++ rest) (b :: bs) left

private theorem cutOperatorsFrom_skip (n : Nat) (s : List Char) :
    cutOperatorsFrom n s = cutOperators (s.drop n) := by
  induction s generalizing n with
  | nil => cases n <;> rfl
  | cons c cs ih =>
    cases n with
    | zero => rfl
    | succ n => exact ih n

/-- The longest operator in front becomes the first token. -/
theorem cutOperators_append {b : Symbol} {s : List Char} (hb : b.IsLongestIn (b.text ++ s)) :
    cutOperators (b.text ++ s) = (cutOperators s).map (.symbol b :: ·) := by
  have hfind := Symbol.find?_eq_some_iff.mpr hb
  cases htext : b.text with
  | nil => exact absurd htext b.text_ne_nil
  | cons c cs =>
    simp only [htext, List.cons_append] at hfind
    rw [List.cons_append, cutOperators, cutOperatorsFrom, hfind]
    simp only [htext, cutOperatorsFrom_skip, List.length_cons, Nat.add_sub_cancel, List.drop_left]
    cases cutOperators s <;> rfl

/-- A text that begins with no operator is not cut. -/
theorem cutOperators_of_forall_not_prefix {s : List Char}
    (h : ∀ b ∈ operatorSymbols, ¬b.text <+: s) :
    cutOperators s = if s = [] then .ok [] else
      .error (.syntaxError ("unexpected operator `" ++ String.ofList s ++ "`")) := by
  cases s with
  | nil => rfl
  | cons c cs =>
    have hfind : operatorSymbols.find? (fun b ↦ b.text.isPrefixOf (c :: cs)) = none := by
      apply List.find?_eq_none.mpr
      intro b hb hprefix
      exact h b hb (List.isPrefixOf_iff_prefix.mp hprefix)
    rw [cutOperators, cutOperatorsFrom, hfind, if_neg (List.cons_ne_nil c cs)]

namespace LongestFirst

variable {s left : List Char} {bs : List Symbol}

/-- Every text can be cut from the front, since each operator that is taken away makes it
shorter. -/
theorem exists_cut (s : List Char) : ∃ bs left, LongestFirst s bs left := by
  induction hn : s.length using Nat.strongRecOn generalizing s with
  | ind n ih =>
    cases hfind : operatorSymbols.find? fun b ↦ b.text.isPrefixOf s with
    | none =>
      refine ⟨[], s, .stop ?_⟩
      intro b hb hprefix
      exact List.find?_eq_none.mp hfind b hb (List.isPrefixOf_iff_prefix.mpr hprefix)
    | some b =>
      have hb := Symbol.find?_eq_some_iff.mp hfind
      obtain ⟨rest, rfl⟩ := hb.text_prefix
      have hshorter : rest.length < n := by
        have hpos := List.length_pos_iff.mpr b.text_ne_nil
        rw [List.length_append] at hn
        omega
      obtain ⟨bs, left, hcut⟩ := ih _ hshorter rest rfl
      exact ⟨b :: bs, left, .take hb hcut⟩

/-- Operators are cut from the front, the longest one first; what is left is an error. -/
theorem cutOperators_eq (h : LongestFirst s bs left) :
    cutOperators s = if left = [] then .ok (bs.map .symbol) else
      .error (.syntaxError ("unexpected operator `" ++ String.ofList left ++ "`")) := by
  induction h with
  | stop h => exact cutOperators_of_forall_not_prefix h
  | take hb h ih =>
    rw [cutOperators_append hb, ih]
    split <;> rfl

/-- The operators that are taken away and what is left make up the text. -/
theorem flatMap_text_append (h : LongestFirst s bs left) :
    bs.flatMap Symbol.text ++ left = s := by
  induction h with
  | stop h => rfl
  | take hb h ih => rw [List.flatMap_cons, List.append_assoc, ih]

/-- Only operators are taken away. -/
theorem mem_operatorSymbols (h : LongestFirst s bs left) : ∀ b ∈ bs, b ∈ operatorSymbols := by
  induction h with
  | stop h => exact List.forall_mem_nil _
  | take hb h ih => exact List.forall_mem_cons.mpr ⟨hb.mem, ih⟩

/-- What is left begins with no operator. -/
theorem not_prefix_left (h : LongestFirst s bs left) : ∀ b ∈ operatorSymbols, ¬b.text <+: left := by
  induction h with
  | stop h => exact h
  | take hb h ih => exact ih

end LongestFirst

/-- Operator characters are made up by the symbols that they are cut into. -/
theorem exists_of_cutOperators {s : List Char} {ts : List Token} (h : cutOperators s = .ok ts) :
    ∃ symbols : List Symbol, ts = symbols.map .symbol ∧ s = symbols.flatMap Symbol.text ∧
      ∀ b ∈ symbols, b ∈ operatorSymbols := by
  obtain ⟨bs, left, hcut⟩ := LongestFirst.exists_cut s
  have htext := hcut.flatMap_text_append
  rw [hcut.cutOperators_eq] at h
  split at h
  · next hleft =>
    rw [hleft, List.append_nil] at htext
    cases h
    exact ⟨bs, rfl, htext.symm, hcut.mem_operatorSymbols⟩
  · cases h

/-! ### Runs of ampersands -/

/-- Whether ampersands stand next to each other an odd number of times, with no further one at
either side. -/
def HasOddRun (s : List Char) : Prop :=
  ∃ before n after, s = before ++ List.replicate n '&' ++ after ∧ n % 2 = 1 ∧
    before.getLast? ≠ some '&' ∧ after.head? ≠ some '&'

variable {c : Char} {s : List Char}

private theorem not_hasOddRun_nil : ¬HasOddRun [] := by
  rintro ⟨before, n, after, h, hn, -, -⟩
  have hlength := congrArg List.length h
  simp only [List.length_nil, List.length_append, List.length_replicate] at hlength
  omega

private theorem hasOddRun_cons (hc : c ≠ '&') : HasOddRun (c :: s) ↔ HasOddRun s := by
  constructor
  · rintro ⟨before, n, after, h, hn, hbefore, hafter⟩
    cases before with
    | nil =>
      cases n with
      | zero => cases hn
      | succ n => exact absurd (List.cons.inj h).1 hc
    | cons d before =>
      obtain ⟨rfl, rfl⟩ := List.cons.inj h
      refine ⟨before, n, after, rfl, hn, ?_, hafter⟩
      intro hlast
      apply hbefore
      rw [List.getLast?_cons, hlast, Option.getD_some]
  · rintro ⟨before, n, after, rfl, hn, hbefore, hafter⟩
    refine ⟨c :: before, n, after, rfl, hn, ?_, hafter⟩
    cases hlast : before.getLast? with
    | none => simpa [List.getLast?_cons, hlast] using hc
    | some d => simpa [List.getLast?_cons, hlast] using hbefore

private theorem hasOddRun_append {front : List Char} (hfront : '&' ∉ front) :
    HasOddRun (front ++ s) ↔ HasOddRun s := by
  induction front with
  | nil => rfl
  | cons c front ih =>
    rw [List.mem_cons, not_or] at hfront
    rw [List.cons_append, hasOddRun_cons (Ne.symm hfront.1), ih hfront.2]

private theorem hasOddRun_pair : HasOddRun ('&' :: '&' :: s) ↔ HasOddRun s := by
  constructor
  · rintro ⟨before, n, after, h, hn, hbefore, hafter⟩
    rcases before with _ | ⟨c, _ | ⟨d, before⟩⟩
    · rcases n with _ | _ | n
      · cases hn
      · obtain rfl : '&' :: s = after := (List.cons.inj h).2
        exact absurd rfl hafter
      · refine ⟨[], n, after, ?_, by omega, hbefore, hafter⟩
        exact (List.cons.inj (List.cons.inj h).2).2
    · rw [← (List.cons.inj h).1] at hbefore
      exact absurd rfl hbefore
    · refine ⟨before, n, after, (List.cons.inj (List.cons.inj h).2).2, hn, ?_, hafter⟩
      intro hlast
      apply hbefore
      rw [List.getLast?_cons, List.getLast?_cons, hlast, Option.getD_some, Option.getD_some]
  · rintro ⟨before, n, after, rfl, hn, hbefore, hafter⟩
    cases before with
    | nil => exact ⟨[], n + 2, after, rfl, by omega, hbefore, hafter⟩
    | cons c before =>
      refine ⟨'&' :: '&' :: c :: before, n, after, rfl, hn, ?_, hafter⟩
      simpa [List.getLast?_cons] using hbefore

private theorem hasOddRun_single (hs : s.head? ≠ some '&') : HasOddRun ('&' :: s) :=
  ⟨[], 1, s, rfl, rfl, nofun, hs⟩

/-! ### Which runs are cut up to their ends -/

/-- Whether the character may stand in a run of operators: it is an operator character, but neither
a bracket nor a space. -/
def isRunChar (c : Char) : Bool := isOperatorChar c && !isBracket c && !c.isWhitespace

private theorem exists_operator_of_isRunChar (hc : isRunChar c = true) (hne : c ≠ '&') :
    ∃ b ∈ operatorSymbols, b.text = [c] := by
  have hall : (operatorChars.all fun c ↦
      !isRunChar c || c == '&' || operatorSymbols.any fun b ↦ b.text == [c]) = true := by
    decide
  have hmem : c ∈ operatorChars := by
    simp only [isRunChar, Bool.and_eq_true, isOperatorChar, List.contains_iff_mem] at hc
    exact hc.1.1
  simpa [hc, hne] using List.all_eq_true.mp hall c hmem

private theorem all_isRunChar_text :
    ∀ b ∈ operatorSymbols, b.text.all isRunChar = true := by
  decide

private theorem exists_text_append_iff {b : Symbol} (hb : b ∈ operatorSymbols) :
    (∃ c ∈ b.text ++ s, isRunChar c = false) ↔ ∃ c ∈ s, isRunChar c = false := by
  constructor
  · rintro ⟨c, hc, hfalse⟩
    rcases List.mem_append.mp hc with htext | hs
    · rw [List.all_eq_true.mp (all_isRunChar_text b hb) c htext] at hfalse
      cases hfalse
    · exact ⟨c, hs, hfalse⟩
  · rintro ⟨c, hc, hfalse⟩
    exact ⟨c, List.mem_append_right _ hc, hfalse⟩

private theorem eq_and_or_notMem_text : ∀ b ∈ operatorSymbols, b = .and ∨ '&' ∉ b.text := by
  decide

private theorem hasOddRun_text_append {b : Symbol} (hb : b ∈ operatorSymbols) :
    HasOddRun (b.text ++ s) ↔ HasOddRun s := by
  rcases eq_and_or_notMem_text b hb with rfl | hnot
  · exact hasOddRun_pair
  · exact hasOddRun_append hnot

private theorem head_of_not_prefix (h : ∀ b ∈ operatorSymbols, ¬b.text <+: c :: s)
    (hc : isRunChar c = true) : c = '&' ∧ s.head? ≠ some '&' := by
  by_cases hamp : c = '&'
  · subst hamp
    refine ⟨rfl, ?_⟩
    intro hhead
    obtain ⟨rest, rfl⟩ := List.head?_eq_some_iff.mp hhead
    exact h .and (by decide) ⟨rest, rfl⟩
  · obtain ⟨b, hb, htext⟩ := exists_operator_of_isRunChar hc hamp
    have hprefix : b.text <+: c :: s := by
      rw [htext]
      exact ⟨s, rfl⟩
    exact absurd hprefix (h b hb)

/-- Something is left of a text exactly if it has a character that stands in no run or an odd run of
ampersands. -/
theorem LongestFirst.left_ne_nil_iff {left : List Char} {bs : List Symbol}
    (h : LongestFirst s bs left) :
    left ≠ [] ↔ (∃ c ∈ s, isRunChar c = false) ∨ HasOddRun s := by
  induction h with
  | @stop s h =>
    cases s with
    | nil => simp [not_hasOddRun_nil]
    | cons c s =>
      refine iff_of_true (List.cons_ne_nil c s) ?_
      cases hc : isRunChar c with
      | false => exact .inl ⟨c, List.mem_cons_self, hc⟩
      | true =>
        obtain ⟨rfl, hhead⟩ := head_of_not_prefix h hc
        exact .inr (hasOddRun_single hhead)
  | take hb h ih => rw [ih, exists_text_append_iff hb.mem, hasOddRun_text_append hb.mem]

/-- A run of operators is cut into the operators that it is made of, each of them the longest one
that what is left begins with; or it is cut so up to an ampersand without a further one behind it,
and that is a syntax error about what is left. It is an error exactly if ampersands stand next to
each other an odd number of times. -/
theorem cutOperators_run {s : List Char} (hs : ∀ c ∈ s, isRunChar c = true) :
    ((∃ bs, LongestFirst s bs [] ∧ bs.flatMap Symbol.text = s ∧
        cutOperators s = .ok (bs.map .symbol)) ∨
      ∃ bs rest, LongestFirst s bs ('&' :: rest) ∧ rest.head? ≠ some '&' ∧
        cutOperators s = .error
          (.syntaxError ("unexpected operator `" ++ String.ofList ('&' :: rest) ++ "`"))) ∧
    ((∃ e, cutOperators s = .error e) ↔ HasOddRun s) := by
  obtain ⟨bs, left, hcut⟩ := LongestFirst.exists_cut s
  have heq := hcut.cutOperators_eq
  have htext := hcut.flatMap_text_append
  have hiff : left ≠ [] ↔ HasOddRun s := by
    rw [hcut.left_ne_nil_iff]
    apply or_iff_right
    rintro ⟨c, hc, hfalse⟩
    rw [hs c hc] at hfalse
    cases hfalse
  cases left with
  | nil =>
    rw [if_pos rfl] at heq
    rw [List.append_nil] at htext
    refine ⟨.inl ⟨bs, hcut, htext, heq⟩, iff_of_false ?_ fun hodd ↦ hiff.mpr hodd rfl⟩
    rintro ⟨e, he⟩
    rw [heq] at he
    cases he
  | cons c rest =>
    have hc : isRunChar c = true := hs c (htext ▸ by simp)
    obtain ⟨rfl, hhead⟩ := head_of_not_prefix hcut.not_prefix_left hc
    rw [if_neg (List.cons_ne_nil _ rest)] at heq
    exact ⟨.inr ⟨bs, rest, hcut, hhead, heq⟩,
      iff_of_true ⟨_, heq⟩ (hiff.mp (List.cons_ne_nil _ rest))⟩

/-- Three ampersands in a row are no operators, although two others stand in front; four are. -/
theorem cutOperators_run_ampersands :
    let odd := "!==&&<=&&&,".toList
    let even := "!==&&<=&&&&,".toList
    (∀ c ∈ odd, isRunChar c = true) ∧ (∀ c ∈ even, isRunChar c = true) ∧
      cutOperators odd = .error (.syntaxError "unexpected operator `&,`") ∧ HasOddRun odd ∧
      ¬HasOddRun even := by
  intro odd even
  have hodd : ∀ c ∈ odd, isRunChar c = true := List.all_eq_true.mp (by decide)
  have heven : ∀ c ∈ even, isRunChar c = true := List.all_eq_true.mp (by decide)
  have herror : cutOperators odd = .error (.syntaxError "unexpected operator `&,`") := rfl
  refine ⟨hodd, heven, herror, (cutOperators_run hodd).2.mp ⟨_, herror⟩, fun hrun ↦ ?_⟩
  obtain ⟨e, he⟩ := (cutOperators_run heven).2.mpr hrun
  cases he

end Token

end Stencil
