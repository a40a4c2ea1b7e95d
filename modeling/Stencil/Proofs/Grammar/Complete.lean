import Stencil.Proofs.Grammar.Sound

/-!
# What is derived is read

The parser of a phrase reads what has a derivation, up to the first symbol that does not belong to
the phrase, if the derivation is not nested more deeply than the parser allows. So no tokens make up
two expressions, and the expression that tokens make up is what is read from them.
-/

namespace Stencil

namespace Parser

variable {α β : Type}

/-! ### Where phrases end -/

/-- Whether no symbol comes next that binds as strongly as given. -/
def EndsAt (k : Nat) (ts : List Token) : Prop :=
  ∀ s rest, ts = .symbol s :: rest → s.strength < k

private theorem EndsAt.mono {k l : Nat} {ts : List Token} (h : EndsAt k ts) (hkl : k ≤ l) :
    EndsAt l ts :=
  fun s rest hs ↦ Nat.lt_of_lt_of_le (h s rest hs) hkl

private theorem endsAt_nil (k : Nat) : EndsAt k [] := by
  intro s rest h
  cases h

private theorem endsAt_symbol {k : Nat} {s : Symbol} (h : s.strength < k) (ts : List Token) :
    EndsAt k (.symbol s :: ts) := by
  intro s' rest hs
  cases hs
  exact h

section

variable {p : Parser α} {f : α → Parser β} {ts : List Token}

private theorem run_bind {x : α} {ts' : List Token} (h : p.run ts = .ok (x, ts')) :
    (p >>= f).run ts = (f x).run ts' := by
  rw [StateT.run_bind, h]
  rfl

private theorem run_skip (s : Symbol) (ts : List Token) :
    (skip s).run (.symbol s :: ts) = .ok (true, ts) := by
  cases s <;> rfl

private theorem run_skip_of_ne {s : Symbol} (h : ∀ rest, ts ≠ .symbol s :: rest) :
    (skip s).run ts = .ok (false, ts) := by
  cases ts with
  | nil => rfl
  | cons t rest =>
    cases t with
    | symbol s' =>
      have hne : (s' == s) = false := by
        apply beq_false_of_ne
        rintro rfl
        exact h rest rfl
      have hsees : (sees s).run (.symbol s' :: rest) = .ok (false, .symbol s' :: rest) := by
        change Except.ok (s' == s, _) = _
        rw [hne]
      rw [skip, run_bind hsees]
      rfl
    | _ => rfl

private theorem run_expect (s : Symbol) (ts : List Token) :
    (expect s).run (.symbol s :: ts) = .ok ((), ts) := by
  cases s <;> rfl

private theorem run_get (ts : List Token) : (get : Parser (List Token)).run ts = .ok (ts, ts) := rfl

end

private theorem run_chain {op? : Symbol → Option BinaryOp} {operand : Parser Expr} {left : Expr}
    {s : Symbol} {op : BinaryOp} (h : op? s = some op) (fuel : Nat) (ts : List Token) :
    (chain op? operand left (fuel + 1)).run (.symbol s :: ts) =
      (operand >>= fun right ↦ chain op? operand (.binary op left right) fuel).run ts := by
  rw [chain, run_bind (run_get _)]
  dsimp only
  rw [h]
  rfl

private theorem run_chain_end {op? : Symbol → Option BinaryOp} {operand : Parser Expr}
    {ts : List Token} (h : ∀ s rest, ts = .symbol s :: rest → op? s = none) (left : Expr)
    (fuel : Nat) : (chain op? operand left fuel).run ts = .ok (left, ts) := by
  cases fuel with
  | zero => rfl
  | succ fuel =>
    cases ts with
    | nil => rfl
    | cons t rest =>
      cases t with
      | symbol s =>
        rw [chain, run_bind (run_get _)]
        dsimp only
        rw [h s rest rfl]
        rfl
      | _ => rfl

private theorem run_postfixes_end {expr : Parser Expr} {ts : List Token} (h : EndsAt 8 ts)
    (e : Expr) (fuel : Nat) : (postfixes expr e fuel).run ts = .ok (e, ts) := by
  cases fuel with
  | zero => rfl
  | succ fuel =>
    cases ts with
    | nil => rfl
    | cons t rest =>
      cases t with
      | symbol s =>
        have hs := h s rest rfl
        cases s <;> first | rfl | exact absurd hs (by decide)
      | _ => rfl

/-- The parser of what commas separate, which may be nested to the given depth. -/
def ofItem : {α : Type} → Item α → Nat → Parser α
  | _, .expression, most => (nested most).1
  | _, .entry, most => entry (nested most).1

/-- What the parser makes of a phrase. Where more of the same kind may follow, it goes on with that
from what it has read. -/
def Completes : {α : Type} → Phrase α → Nat → List Token → α → Prop
  | _, .item i, n, ts, x => ∀ most ≥ n, ∀ rest, EndsAt 1 rest →
      (ofItem i most).run (ts ++ rest) = .ok (x, rest)
  | _, .binary k, n, ts, e => ∀ most ≥ n,
      (∀ rest, EndsAt (k + 2) rest →
        (binaryFrom k (nested most).2).run (ts ++ rest) = .ok (e, rest)) ∧
      ∀ op?, levels.drop k = op? :: levels.drop (k + 1) → ∀ rest, EndsAt (k + 3) rest →
        ∃ fuel, rest.length ≤ fuel ∧ (binaryFrom k (nested most).2).run (ts ++ rest) =
          (chain op? (binaryFrom (k + 1) (nested most).2) e fuel).run rest
  | _, .operand, n, ts, e => ∀ most ≥ n, ∀ rest, EndsAt 8 rest →
      (nested most).2.run (ts ++ rest) = .ok (e, rest)
  | _, .access, n, ts, e => 1 ≤ n ∧ Begins (fun s ↦ unaryOp? s = none) ts ∧
      ∀ most, n ≤ most + 1 → ∀ rest, ∃ fuel, rest.length ≤ fuel ∧
        (do
          let e ← primary (nested most).1
          postfixes (nested (most + 1)).1 e (ts ++ rest).length : Parser Expr).run (ts ++ rest) =
            (postfixes (nested (most + 1)).1 e fuel).run rest
  | _, .primary, n, ts, e => 1 ≤ n ∧ Begins (fun s ↦ unaryOp? s = none) ts ∧
      ∀ most, n ≤ most + 1 → ∀ rest,
        (primary (nested most).1).run (ts ++ rest) = .ok (e, rest)
  | _, .row i, n, ts, xs => ∀ most ≥ n, ∀ close, close.closes = true → ∀ fuel, ts.length < fuel →
      ∀ rest, (itemsUpTo close (ofItem i most) fuel).run (ts ++ .symbol close :: rest) =
          .ok (xs, rest) ∧
        (itemsUpTo close (ofItem i most) fuel).run
          (ts ++ .symbol .comma :: .symbol close :: rest) = .ok (xs, rest)
  | _, .items i, n, ts, xs => ∀ most ≥ n, ∀ close, close.closes = true → ∀ rest,
      (items close (ofItem i most)).run (ts ++ .symbol close :: rest) = .ok (xs, rest)

section

variable {n n₁ n₂ n₃ k : Nat} {ts ts₁ ts₂ ts₃ : List Token} {e : Expr}

private theorem exists_eq_succ {n most : Nat} (h : n + 1 ≤ most) : ∃ m, most = m + 1 ∧ n ≤ m := by
  cases most with
  | zero => omega
  | succ m => exact ⟨m, rfl, Nat.le_of_succ_le_succ h⟩

private theorem completes_test (h : Completes (.binary 0) n ts e) :
    Completes (.item .expression) (n + 1) ts e := by
  intro most hmost rest hrest
  obtain ⟨m, rfl, hm⟩ := exists_eq_succ hmost
  have htest : (binary (nested m).2).run (ts ++ rest) = .ok (e, rest) :=
    (h m hm).1 rest (hrest.mono (by omega))
  have hquestion : ∀ rest', rest ≠ .symbol .question :: rest' :=
    fun rest' hr ↦ absurd (hrest .question rest' hr) (by decide)
  change (conditional (nested m).2 (nested m).1).run (ts ++ rest) = _
  rw [conditional, run_bind htest, run_bind (run_skip_of_ne hquestion)]
  rfl

private theorem completes_conditional {test yes no : Expr}
    (htest : Completes (.binary 0) n₁ ts₁ test) (hyes : Completes (.item .expression) n₂ ts₂ yes)
    (hno : Completes (.item .expression) n₃ ts₃ no) :
    Completes (.item .expression) (max n₁ (max n₂ n₃) + 1)
      (ts₁ ++ .symbol .question :: ts₂ ++ .symbol .colon :: ts₃) (.conditional test yes no) := by
  intro most hmost rest hrest
  obtain ⟨m, rfl, hm⟩ := exists_eq_succ hmost
  obtain ⟨hn₁, hm⟩ := Nat.max_le.mp hm
  obtain ⟨hn₂, hn₃⟩ := Nat.max_le.mp hm
  have htest : (binary (nested m).2).run _ = .ok _ :=
    (htest m hn₁).1 (.symbol .question :: (ts₂ ++ .symbol .colon :: (ts₃ ++ rest)))
      (endsAt_symbol (by decide) _)
  have hyes : (nested m).1.run _ = .ok _ :=
    hyes m hn₂ (.symbol .colon :: (ts₃ ++ rest)) (endsAt_symbol (by decide) _)
  have hno : (nested m).1.run _ = .ok _ := hno m hn₃ rest hrest
  change (conditional (nested m).2 (nested m).1).run _ = _
  simp only [List.append_assoc, List.cons_append]
  rw [conditional, run_bind htest, run_bind (run_skip .question _)]
  change (do
    let yes ← (nested m).1
    expect .colon
    let no ← (nested m).1
    return .conditional test yes no : Parser Expr).run _ = _
  rw [run_bind hyes, run_bind (run_expect .colon _), run_bind hno]
  rfl

private theorem binaryFrom_of_drop {op? : Symbol → Option BinaryOp}
    (h : levels.drop k = op? :: levels.drop (k + 1)) (operand : Parser Expr) :
    binaryFrom k operand = level op? (binaryFrom (k + 1) operand) := by
  rw [binaryFrom, h]
  rfl

private theorem run_level {op? : Symbol → Option BinaryOp} {operand : Parser Expr}
    {ts rest : List Token} (h : operand.run ts = .ok (e, rest)) :
    (level op? operand).run ts = (chain op? operand e ts.length).run rest := by
  change (do
    let left ← operand
    chain op? operand left ts.length : Parser Expr).run ts = _
  rw [run_bind h]

-- What goes on with more operators of the strength ends where none comes next.
private theorem completes_binary_of_continues {most : Nat}
    (h : ∀ op?, levels.drop k = op? :: levels.drop (k + 1) → ∀ rest, EndsAt (k + 3) rest →
      ∃ fuel, rest.length ≤ fuel ∧ (binaryFrom k (nested most).2).run (ts ++ rest) =
        (chain op? (binaryFrom (k + 1) (nested most).2) e fuel).run rest)
    (hk : k < 6) (rest : List Token) (hrest : EndsAt (k + 2) rest) :
    (binaryFrom k (nested most).2).run (ts ++ rest) = .ok (e, rest) := by
  obtain ⟨op?, hlevel, hop⟩ := exists_level hk
  obtain ⟨fuel, -, hrun⟩ := h op? hlevel rest (hrest.mono (by omega))
  rw [hrun]
  apply run_chain_end
  intro s rest' hs
  cases hsome : op? s with
  | none => rfl
  | some op =>
    obtain ⟨rfl, hstrength⟩ := (hop s op).mp hsome
    have hlt := hrest _ _ hs
    rw [BinaryOp.strength_symbol] at hlt
    omega

private theorem completes_stronger (h : Completes (.binary (k + 1)) n ts e) :
    Completes (.binary k) n ts e := by
  intro most hmost
  obtain ⟨hoperand, -⟩ := h most hmost
  have hcontinues (op? : Symbol → Option BinaryOp)
      (hlevel : levels.drop k = op? :: levels.drop (k + 1)) (rest : List Token)
      (hrest : EndsAt (k + 3) rest) :
      ∃ fuel, rest.length ≤ fuel ∧ (binaryFrom k (nested most).2).run (ts ++ rest) =
        (chain op? (binaryFrom (k + 1) (nested most).2) e fuel).run rest := by
    refine ⟨(ts ++ rest).length, by simp, ?_⟩
    rw [binaryFrom_of_drop hlevel, run_level (hoperand rest hrest)]
  refine ⟨fun rest hrest ↦ ?_, hcontinues⟩
  by_cases hk : k < 6
  · exact completes_binary_of_continues hcontinues hk rest hrest
  · have hlength : levels.length ≤ k := Nat.le_of_not_lt hk
    have hnone : binaryFrom k (nested most).2 = binaryFrom (k + 1) (nested most).2 := by
      rw [binaryFrom, binaryFrom, List.drop_eq_nil_of_le hlength,
        List.drop_eq_nil_of_le (Nat.le_succ_of_le hlength)]
    rw [hnone]
    exact hoperand rest (hrest.mono (by omega))

private theorem completes_binary {left right : Expr} (op : BinaryOp)
    (hleft : Completes (.binary op.strength) n₁ ts₁ left)
    (hright : Completes (.binary (op.strength + 1)) n₂ ts₂ right) :
    Completes (.binary op.strength) (max n₁ n₂) (ts₁ ++ .symbol op.symbol :: ts₂)
      (.binary op left right) := by
  intro most hmost
  obtain ⟨hn₁, hn₂⟩ := Nat.max_le.mp hmost
  have hk : op.strength < 6 := by cases op <;> decide
  have hcontinues (op? : Symbol → Option BinaryOp)
      (hlevel : levels.drop op.strength = op? :: levels.drop (op.strength + 1))
      (rest : List Token) (hrest : EndsAt (op.strength + 3) rest) :
      ∃ fuel, rest.length ≤ fuel ∧
        (binaryFrom op.strength (nested most).2).run
          ((ts₁ ++ .symbol op.symbol :: ts₂) ++ rest) =
        (chain op? (binaryFrom (op.strength + 1) (nested most).2) (.binary op left right) fuel).run
          rest := by
    have hnext : EndsAt (op.strength + 3) (.symbol op.symbol :: (ts₂ ++ rest)) := by
      apply endsAt_symbol
      rw [BinaryOp.strength_symbol]
      omega
    obtain ⟨fuel, hfuel, hrun⟩ := (hleft most hn₁).2 op? hlevel _ hnext
    have hop : op? op.symbol = some op := by
      obtain ⟨op?', hlevel', hop⟩ := exists_level hk
      rw [hlevel] at hlevel'
      cases hlevel'
      exact (hop _ _).mpr ⟨rfl, rfl⟩
    rw [List.length_cons, List.length_append] at hfuel
    obtain ⟨fuel, rfl, -⟩ := exists_eq_succ hfuel
    refine ⟨fuel, by omega, ?_⟩
    have hright := (hright most hn₂).1 rest hrest
    rw [List.append_assoc, List.cons_append, hrun, run_chain hop, run_bind hright]
  refine ⟨fun rest hrest ↦ ?_, hcontinues⟩
  exact completes_binary_of_continues hcontinues hk rest hrest

private theorem completes_operand (h : Completes .operand n ts e) :
    Completes (.binary 6) n ts e := by
  intro most hmost
  refine ⟨fun rest hrest ↦ h most hmost rest hrest, fun op? hlevel ↦ ?_⟩
  cases hlevel

private theorem completes_unary (op : UnaryOp) (h : Completes .operand n ts e) :
    Completes .operand (n + 1) (.symbol op.symbol :: ts) (.unary op e) := by
  intro most hmost rest hrest
  obtain ⟨m, rfl, hm⟩ := exists_eq_succ hmost
  have hop : unaryOp? op.symbol = some op := unaryOp?_eq_some.mpr rfl
  have he := h m hm rest hrest
  have hrun : (nested (m + 1)).2.run (.symbol op.symbol :: (ts ++ rest)) =
      (do return .unary op (← (nested m).2) : Parser Expr).run (ts ++ rest) := by
    cases op <;> rfl
  rw [List.cons_append, hrun, run_bind he]
  rfl


private theorem completes_access (h : Completes .access n ts e) : Completes .operand n ts e := by
  intro most hmost rest hrest
  obtain ⟨hn, ⟨t, ts', rfl, ht⟩, hrun⟩ := h
  obtain ⟨m, rfl, -⟩ := exists_eq_succ (Nat.le_trans hn hmost)
  obtain ⟨fuel, -, hrun⟩ := hrun m hmost rest
  rw [run_postfixes_end hrest] at hrun
  rw [← hrun]
  change (operand (nested (m + 1)).1 (nested m).1 (nested m).2).run (t :: ts' ++ rest) = _
  cases t with
  | symbol s =>
    have hs := ht s rfl
    cases s <;> first | rfl | cases hs
  | _ => rfl

private theorem completes_primary (h : Completes .primary n ts e) :
    Completes .access n ts e := by
  obtain ⟨hn, hbegins, hrun⟩ := h
  refine ⟨hn, hbegins, fun most hmost rest ↦ ⟨(ts ++ rest).length, by simp, ?_⟩⟩
  rw [run_bind (hrun most hmost rest)]

private theorem completes_property (name : List Char) (h : Completes .access n ts e) :
    Completes .access n (ts ++ [.symbol .dot, .identifier name])
      (.property e (String.ofList name)) := by
  obtain ⟨hn, hbegins, hrun⟩ := h
  refine ⟨hn, hbegins.append _, fun most hmost rest ↦ ?_⟩
  obtain ⟨fuel, hfuel, hrun⟩ :=
    hrun most hmost (.symbol .dot :: .identifier name :: rest)
  obtain ⟨fuel, rfl, hrest⟩ := exists_eq_succ hfuel
  rw [List.append_assoc]
  refine ⟨fuel, Nat.le_of_succ_le hrest, ?_⟩
  exact hrun

private theorem completes_index {key : Expr} (h : Completes .access n₁ ts₁ e)
    (hkey : Completes (.item .expression) n₂ ts₂ key)
    (hbegins₂ : Begins (fun s ↦ s.closes = false) ts₂) :
    Completes .access (max n₁ n₂) (ts₁ ++ .symbol .bracketOpen :: ts₂ ++ [.symbol .bracketClose])
      (.item e key) := by
  obtain ⟨hn, hbegins, hrun⟩ := h
  refine ⟨Nat.le_trans hn (Nat.le_max_left _ _), (hbegins.append _).append _,
    fun most hmost rest ↦ ?_⟩
  obtain ⟨hn₁, hn₂⟩ := Nat.max_le.mp hmost
  obtain ⟨fuel, hfuel, hrun⟩ :=
    hrun most hn₁ (.symbol .bracketOpen :: (ts₂ ++ .symbol .bracketClose :: rest))
  obtain ⟨fuel, rfl, hrest⟩ := exists_eq_succ hfuel
  have hkey : (nested (most + 1)).1.run _ = .ok _ :=
    hkey (most + 1) hn₂ (.symbol .bracketClose :: rest) (endsAt_symbol (by decide) _)
  simp only [List.append_assoc, List.cons_append, List.nil_append]
  refine ⟨fuel, ?_, ?_⟩
  · rw [List.length_append, List.length_cons] at hrest
    omega
  · rw [hrun]
    have hread : (postfixes (nested (most + 1)).1 e (fuel + 1)).run
        (.symbol .bracketOpen :: (ts₂ ++ .symbol .bracketClose :: rest)) =
          (do
            let key ← (nested (most + 1)).1
            expect .bracketClose
            postfixes (nested (most + 1)).1 (.item e key) fuel : Parser Expr).run
              (ts₂ ++ .symbol .bracketClose :: rest) := by
      obtain ⟨t, ts', rfl, ht⟩ := hbegins₂
      cases t with
      | symbol s =>
        have hs := ht s rfl
        cases s <;> first | rfl | cases hs
      | _ => rfl
    rw [hread, run_bind hkey, run_bind (run_expect .bracketClose _)]

private theorem completes_call {args : List Expr} (h : Completes .access n₁ ts₁ e)
    (hargs : Completes (.items .expression) n₂ ts₂ args) :
    Completes .access (max n₁ n₂) (ts₁ ++ .symbol .parenOpen :: ts₂ ++ [.symbol .parenClose])
      (.call e args) := by
  obtain ⟨hn, hbegins, hrun⟩ := h
  refine ⟨Nat.le_trans hn (Nat.le_max_left _ _), (hbegins.append _).append _,
    fun most hmost rest ↦ ?_⟩
  obtain ⟨hn₁, hn₂⟩ := Nat.max_le.mp hmost
  obtain ⟨fuel, hfuel, hrun⟩ :=
    hrun most hn₁ (.symbol .parenOpen :: (ts₂ ++ .symbol .parenClose :: rest))
  obtain ⟨fuel, rfl, hrest⟩ := exists_eq_succ hfuel
  have hargs : (items .parenClose (nested (most + 1)).1).run _ = .ok _ :=
    hargs (most + 1) hn₂ .parenClose rfl rest
  simp only [List.append_assoc, List.cons_append, List.nil_append]
  refine ⟨fuel, ?_, ?_⟩
  · rw [List.length_append, List.length_cons] at hrest
    omega
  · have hread : (postfixes (nested (most + 1)).1 e (fuel + 1)).run
        (.symbol .parenOpen :: (ts₂ ++ .symbol .parenClose :: rest)) =
          (do
            let args ← items .parenClose (nested (most + 1)).1
            postfixes (nested (most + 1)).1 (.call e args) fuel : Parser Expr).run
              (ts₂ ++ .symbol .parenClose :: rest) := rfl
    rw [hrun, hread, run_bind hargs]

private theorem completes_atom {t : Token} (h : Atom t e) : Completes .primary 1 [t] e := by
  refine ⟨Nat.le_refl 1, h.begins, fun most _ rest ↦ ?_⟩
  cases h with
  | path h =>
    change Except.ok (ofPath _, rest) = _
    rw [ofPath, h]
    rfl
  | regex h =>
    have hnext (t : Token) : (next "expression").run (t :: rest) = .ok (t, rest) := rfl
    rw [List.singleton_append, primary, run_bind (hnext _)]
    dsimp only
    rw [h]
    rfl
  | _ => rfl

private theorem completes_group (h : Completes (.item .expression) n ts e) :
    Completes .primary (n + 1) (.symbol .parenOpen :: ts ++ [.symbol .parenClose]) e := by
  refine ⟨Nat.le_add_left 1 n, begins_symbol (P := fun s ↦ unaryOp? s = none) rfl _,
    fun most hmost rest ↦ ?_⟩
  have he : (nested most).1.run _ = .ok _ :=
    h most (Nat.le_of_succ_le_succ hmost) (.symbol .parenClose :: rest)
      (endsAt_symbol (by decide) _)
  simp only [List.append_assoc, List.cons_append, List.nil_append]
  have hread : (primary (nested most).1).run
      (.symbol .parenOpen :: (ts ++ .symbol .parenClose :: rest)) =
        (do
          let e ← (nested most).1
          expect .parenClose
          return e : Parser Expr).run (ts ++ .symbol .parenClose :: rest) := rfl
  rw [hread, run_bind he, run_bind (run_expect .parenClose _)]
  rfl

private theorem completes_list {es : List Expr} (h : Completes (.items .expression) n ts es) :
    Completes .primary (n + 1) (.symbol .bracketOpen :: ts ++ [.symbol .bracketClose])
      (.list es) := by
  refine ⟨Nat.le_add_left 1 n, begins_symbol (P := fun s ↦ unaryOp? s = none) rfl _,
    fun most hmost rest ↦ ?_⟩
  have hes : (items .bracketClose (nested most).1).run _ = .ok _ :=
    h most (Nat.le_of_succ_le_succ hmost) .bracketClose rfl rest
  simp only [List.append_assoc, List.cons_append, List.nil_append]
  have hread : (primary (nested most).1).run
      (.symbol .bracketOpen :: (ts ++ .symbol .bracketClose :: rest)) =
        (do return .list (← items .bracketClose (nested most).1) : Parser Expr).run
          (ts ++ .symbol .bracketClose :: rest) := rfl
  rw [hread, run_bind hes]
  rfl

private theorem completes_map {es : List (String × Expr)}
    (h : Completes (.items .entry) n ts es) :
    Completes .primary (n + 1) (.symbol .braceOpen :: ts ++ [.symbol .braceClose]) (.map es) := by
  refine ⟨Nat.le_add_left 1 n, begins_symbol (P := fun s ↦ unaryOp? s = none) rfl _,
    fun most hmost rest ↦ ?_⟩
  have hes : (items .braceClose (entry (nested most).1)).run _ = .ok _ :=
    h most (Nat.le_of_succ_le_succ hmost) .braceClose rfl rest
  simp only [List.append_assoc, List.cons_append, List.nil_append]
  have hread : (primary (nested most).1).run
      (.symbol .braceOpen :: (ts ++ .symbol .braceClose :: rest)) =
        (do return .map (← items .braceClose (entry (nested most).1)) : Parser Expr).run
          (ts ++ .symbol .braceClose :: rest) := rfl
  rw [hread, run_bind hes]
  rfl

private theorem completes_entry {t : Token} {key : String} (hkey : Key t key)
    (h : Completes (.item .expression) n ts e) :
    Completes (.item .entry) n (t :: .symbol .colon :: ts) (key, e) := by
  intro most hmost rest hrest
  have he : (nested most).1.run _ = .ok _ := h most hmost rest hrest
  have hread : (entry (nested most).1).run (t :: .symbol .colon :: (ts ++ rest)) =
      (do return (key, ← (nested most).1) : Parser (String × Expr)).run (ts ++ rest) := by
    cases hkey <;> rfl
  change (entry (nested most).1).run _ = _
  rw [List.cons_append, List.cons_append, hread, run_bind he]
  rfl

private theorem completes_one {i : Item α} {x : α} (h : Completes (.item i) n ts x) :
    Completes (.row i) n ts [x] := by
  intro most hmost close hclose fuel hfuel rest
  obtain ⟨fuel, rfl, -⟩ := exists_eq_succ hfuel
  have hclosed : EndsAt 1 (.symbol close :: rest) := by
    apply endsAt_symbol
    rw [Symbol.strength_of_closes hclose]
    exact Nat.zero_lt_one
  constructor
  · rw [itemsUpTo, run_bind (h most hmost _ hclosed), run_bind (run_skip close rest)]
    rfl
  · have hcomma : EndsAt 1 (.symbol .comma :: .symbol close :: rest) :=
      endsAt_symbol (by decide) _
    have hne (rest' : List Token) :
        (.symbol .comma :: .symbol close :: rest : List Token) ≠ .symbol close :: rest' := by
      intro heq
      cases heq
      cases hclose
    rw [itemsUpTo, run_bind (h most hmost _ hcomma), run_bind (run_skip_of_ne hne)]
    change (do
      expect .comma
      if (← skip close) then return [x]
      return x :: (← itemsUpTo close (ofItem i most) fuel) : Parser (List _)).run _ = _
    rw [run_bind (run_expect .comma _), run_bind (run_skip close rest)]
    rfl

private theorem completes_more {i : Item α} {x : α} {xs : List α}
    (h : Completes (.item i) n₁ ts₁ x) (hmore : Completes (.row i) n₂ ts₂ xs)
    (hbegins : Begins (fun s ↦ s.closes = false) ts₂) :
    Completes (.row i) (max n₁ n₂) (ts₁ ++ .symbol .comma :: ts₂) (x :: xs) := by
  intro most hmost close hclose fuel hfuel rest
  obtain ⟨hn₁, hn₂⟩ := Nat.max_le.mp hmost
  obtain ⟨fuel, rfl, -⟩ := exists_eq_succ hfuel
  have hfuel₂ : ts₂.length < fuel := by
    rw [List.length_append, List.length_cons] at hfuel
    omega
  have hstep (after : List Token)
      (hxs : (itemsUpTo close (ofItem i most) fuel).run (ts₂ ++ after) = .ok (xs, rest)) :
      (itemsUpTo close (ofItem i most) (fuel + 1)).run
        (ts₁ ++ .symbol .comma :: (ts₂ ++ after)) = .ok (x :: xs, rest) := by
    have hcomma : EndsAt 1 (.symbol .comma :: (ts₂ ++ after)) := endsAt_symbol (by decide) _
    have hne (rest' : List Token) :
        (.symbol .comma :: (ts₂ ++ after) : List Token) ≠ .symbol close :: rest' := by
      intro heq
      cases heq
      cases hclose
    have hopen (rest' : List Token) : ts₂ ++ after ≠ .symbol close :: rest' := by
      obtain ⟨t, ts', rfl, ht⟩ := hbegins
      intro heq
      cases heq
      rw [ht close rfl] at hclose
      cases hclose
    rw [itemsUpTo, run_bind (h most hn₁ _ hcomma), run_bind (run_skip_of_ne hne)]
    change (do
      expect .comma
      if (← skip close) then return [x]
      return x :: (← itemsUpTo close (ofItem i most) fuel) : Parser (List _)).run _ = _
    rw [run_bind (run_expect .comma _), run_bind (run_skip_of_ne hopen)]
    change (do return x :: (← itemsUpTo close (ofItem i most) fuel) : Parser (List _)).run _ = _
    rw [run_bind hxs]
    rfl
  have hxs := hmore most hn₂ close hclose fuel hfuel₂ rest
  rw [List.append_assoc, List.append_assoc, List.cons_append, List.cons_append]
  exact ⟨hstep _ hxs.1, hstep _ hxs.2⟩

private theorem completes_none {i : Item α} : Completes (.items i) 0 [] [] := by
  intro most _ close _ rest
  rw [List.nil_append, items, run_bind (run_skip close rest)]
  rfl

private theorem run_items {close : Symbol} {item : Parser α} (hclose : close.closes = true)
    (hbegins : Begins (fun s ↦ s.closes = false) ts) :
    (items close item).run ts = (itemsUpTo close item (ts.length + 1)).run ts := by
  have hopen (rest' : List Token) : ts ≠ .symbol close :: rest' := by
    obtain ⟨t, ts', rfl, ht⟩ := hbegins
    intro heq
    cases heq
    rw [ht close rfl] at hclose
    cases hclose
  rw [items, run_bind (run_skip_of_ne hopen)]
  rfl

private theorem completes_row {i : Item α} {xs : List α} (h : Completes (.row i) n ts xs)
    (hbegins : Begins (fun s ↦ s.closes = false) ts) : Completes (.items i) n ts xs := by
  intro most hmost close hclose rest
  rw [run_items hclose (hbegins.append _)]
  refine (h most hmost close hclose _ ?_ rest).1
  rw [List.length_append]
  omega

private theorem completes_trailing {i : Item α} {xs : List α} (h : Completes (.row i) n ts xs)
    (hbegins : Begins (fun s ↦ s.closes = false) ts) :
    Completes (.items i) n (ts ++ [.symbol .comma]) xs := by
  intro most hmost close hclose rest
  rw [List.append_assoc, run_items hclose (hbegins.append _)]
  refine (h most hmost close hclose _ ?_ rest).2
  rw [List.length_append]
  omega

end

/-- What is derived is read by the parser of the phrase. -/
theorem completes_of_derives {p : Phrase α} {n : Nat} {ts : List Token} {x : α}
    (h : Derives p n ts x) : Completes p n ts x := by
  induction h with
  | test _ ih => exact completes_test ih
  | conditional _ _ _ htest hyes hno => exact completes_conditional htest hyes hno
  | stronger _ ih => exact completes_stronger ih
  | binary op _ _ hleft hright => exact completes_binary op hleft hright
  | operand _ ih => exact completes_operand ih
  | unary op _ ih => exact completes_unary op ih
  | access _ ih => exact completes_access ih
  | primary _ ih => exact completes_primary ih
  | property name _ ih => exact completes_property name ih
  | index _ hkey ih ihkey => exact completes_index ih ihkey (hkey.begins id)
  | call _ _ ih ihargs => exact completes_call ih ihargs
  | atom h => exact completes_atom h
  | group _ ih => exact completes_group ih
  | list _ ih => exact completes_list ih
  | map _ ih => exact completes_map ih
  | entry hkey _ ih => exact completes_entry hkey ih
  | one _ ih => exact completes_one ih
  | more _ hmore ih ihmore => exact completes_more ih ihmore (hmore.begins id)
  | none => exact completes_none
  | row h ih => exact completes_row ih (h.begins id)
  | trailing h ih => exact completes_trailing ih (h.begins id)

end Parser

namespace Expr

/-- Tokens that make up an expression are read if it is not nested too deeply. -/
theorem ofTokens_of_derives {n : Nat} {ts : List Token} {e : Expr}
    (h : Derives (.item .expression) n ts e) (hn : n ≤ Parser.maxNesting) :
    ofTokens ts = .ok e := by
  have hrun : Parser.expression.run (ts ++ []) = .ok (e, []) :=
    Parser.completes_of_derives h _ hn [] (Parser.endsAt_nil 1)
  obtain ⟨t, rest, rfl, -⟩ := h.begins id
  rw [List.append_nil] at hrun
  rw [ofTokens, hrun]
  rfl

/-- Tokens make up one expression at most. -/
theorem eq_of_derives {n n' : Nat} {ts : List Token} {e e' : Expr}
    (h : Derives (.item .expression) n ts e) (h' : Derives (.item .expression) n' ts e') :
    e = e' := by
  have hrun := Parser.completes_of_derives h (max n n') (Nat.le_max_left _ _) []
    (Parser.endsAt_nil 1)
  have hrun' := Parser.completes_of_derives h' (max n n') (Nat.le_max_right _ _) []
    (Parser.endsAt_nil 1)
  rw [hrun] at hrun'
  cases hrun'
  rfl

/-- What is read from tokens is made up by them. -/
theorem derives_of_ofTokens {ts : List Token} {e : Expr} (h : ofTokens ts = .ok e) :
    ∃ n, n ≤ Parser.maxNesting ∧ Derives (.item .expression) n ts e := by
  rw [ofTokens] at h
  split at h
  · cases h
  · obtain ⟨⟨e', rest⟩, hrun, h⟩ := exists_of_bind_eq_ok h
    obtain ⟨⟨_, after⟩, hfinish, h⟩ := exists_of_bind_eq_ok h
    cases h
    obtain ⟨n, used, hn, rfl, he⟩ := ((Parser.sound_nested Parser.maxNesting).1 ts).of_run _ _ hrun
    cases rest with
    | nil =>
      rw [List.append_nil]
      exact ⟨n, hn, he⟩
    | cons t rest => cases hfinish

/-- The parser reads exactly the expressions that tokens make up and that are nested at most 150
deep, however long they are, and no tokens make up two expressions. -/
theorem ofTokens_grammar (ts : List Token) :
    (∀ e, ofTokens ts = .ok e ↔ ∃ n, n ≤ 150 ∧ Derives (.item .expression) n ts e) ∧
      ∀ n n' e e', Derives (.item .expression) n ts e → Derives (.item .expression) n' ts e' →
        e = e' := by
  constructor
  · intro e
    constructor
    · exact derives_of_ofTokens
    · rintro ⟨n, hn, he⟩
      exact ofTokens_of_derives he hn
  · intro n n' e e' he he'
    exact eq_of_derives he he'

/-- What is read as an argument list are items between parentheses that are not nested too
deeply. -/
theorem argumentsOfFragments_eq_ok {fs : List Fragment} {args : List Expr} :
    argumentsOfFragments fs = .ok args ↔
      ∃ ts n, Token.ofFragments fs =
          .ok (.symbol .parenOpen :: ts ++ [.symbol .parenClose]) ∧
        n ≤ Parser.maxNesting ∧ Derives (.items .expression) n ts args := by
  constructor
  · intro h
    obtain ⟨ts, hts, h⟩ := exists_of_bind_eq_ok h
    obtain ⟨⟨args', rest⟩, hrun, h⟩ := exists_of_bind_eq_ok h
    obtain ⟨⟨_, after⟩, hfinish, h⟩ := exists_of_bind_eq_ok h
    cases h
    obtain ⟨ts', rfl, n, used, hn, rfl, hargs⟩ :=
      (Parser.leads_arguments (Parser.sound_nested Parser.maxNesting).1).of_run _ _ hrun
    cases rest with
    | nil => exact ⟨used, n, hts, hn, hargs⟩
    | cons t rest => cases hfinish
  · rintro ⟨ts, n, hts, hn, hargs⟩
    have hitems : (Parser.items .parenClose Parser.expression).run (ts ++ [.symbol .parenClose]) =
        .ok (args, []) :=
      Parser.completes_of_derives hargs _ hn .parenClose rfl []
    have hrun : (Parser.arguments Parser.expression).run
        (.symbol .parenOpen :: ts ++ [.symbol .parenClose]) = .ok (args, []) := hitems
    rw [argumentsOfFragments, hts]
    change ((Parser.arguments Parser.expression).run _ >>= _) = _
    rw [hrun]
    rfl

end Expr

end Stencil
