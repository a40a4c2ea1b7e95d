import Mathlib.Data.Nat.Init
import Stencil.Proofs.Grammar

/-!
# What is read is derived

Whatever the parser of a phrase reads has a derivation, which is nested no more deeply than the
parser allows.
-/

namespace Stencil

/-- Splitting a text leaves at least one piece. -/
theorem Text.splitAtChar_ne_nil (sep : Char) (s : List Char) : splitAtChar sep s ≠ [] := by
  cases s with
  | nil => exact List.cons_ne_nil _ _
  | cons c cs =>
    rw [splitAtChar]
    split
    · exact List.cons_ne_nil _ _
    · cases splitAtChar sep cs <;> exact List.cons_ne_nil _ _

namespace Parser

variable {α β : Type}

/-! ### Successful runs -/

/-- What holds of the result and the tokens that are left, whenever something is read. -/
structure Leads (p : Parser α) (ts : List Token) (Q : α → List Token → Prop) : Prop where
  /-- It holds of every run that succeeds. -/
  of_run : ∀ x rest, p.run ts = .ok (x, rest) → Q x rest

section

variable {p : Parser α} {f : α → Parser β} {ts : List Token} {Q : α → List Token → Prop}
  {R : β → List Token → Prop}

private theorem leads_pure {x : α} (h : Q x ts) : Leads (pure x) ts Q := by
  refine ⟨fun y rest hy ↦ ?_⟩
  cases hy
  exact h

private theorem leads_throw {e : Error} : Leads (throw e) ts Q := by
  refine ⟨fun x rest hx ↦ ?_⟩
  cases hx

private theorem Leads.bind (hp : Leads p ts Q) (hf : ∀ x ts₁, Q x ts₁ → Leads (f x) ts₁ R) :
    Leads (p >>= f) ts R := by
  refine ⟨fun y rest hy ↦ ?_⟩
  rw [StateT.run_bind] at hy
  obtain ⟨⟨x, ts₁⟩, hx, hy⟩ := exists_of_bind_eq_ok hy
  exact (hf x ts₁ (hp.of_run x ts₁ hx)).of_run y rest hy

private theorem Leads.mono {Q' : α → List Token → Prop} (hp : Leads p ts Q)
    (hQ : ∀ x rest, Q x rest → Q' x rest) : Leads p ts Q' :=
  ⟨fun x rest h ↦ hQ x rest (hp.of_run x rest h)⟩

private theorem leads_get_bind {f : List Token → Parser β} (h : Leads (f ts) ts R) :
    Leads (get >>= f) ts R :=
  ⟨fun y rest hy ↦ h.of_run y rest hy⟩

private theorem leads_set_bind {ts' : List Token} {f : PUnit → Parser β}
    (h : Leads (f ⟨⟩) ts' R) : Leads (set ts' >>= f) ts R :=
  ⟨fun y rest hy ↦ h.of_run y rest hy⟩

private theorem leads_next {expected : String} :
    Leads (next expected) ts fun t rest ↦ ts = t :: rest := by
  refine ⟨fun t rest h ↦ ?_⟩
  cases ts with
  | nil => cases h
  | cons t' ts' =>
    cases h
    rfl

private theorem leads_sees {s : Symbol} :
    Leads (sees s) ts fun b rest ↦ rest = ts ∧ (b = true → ∃ ts', ts = .symbol s :: ts') := by
  apply leads_get_bind
  split
  · next t ts' =>
    apply leads_pure
    refine ⟨rfl, fun h ↦ ⟨ts', ?_⟩⟩
    rw [eq_of_beq h]
  · exact leads_pure ⟨rfl, by simp⟩

private theorem leads_skip {s : Symbol} :
    Leads (skip s) ts fun b rest ↦ if b then ts = .symbol s :: rest else rest = ts := by
  apply leads_sees.bind
  rintro b ts₁ ⟨rfl, hb⟩
  split
  · next h =>
    obtain ⟨ts', rfl⟩ := hb h
    refine ⟨fun b rest hrun ↦ ?_⟩
    cases hrun
    rfl
  · exact leads_pure rfl

private theorem leads_expect {s : Symbol} :
    Leads (expect s) ts fun _ rest ↦ ts = .symbol s :: rest := by
  apply leads_next.bind
  rintro t ts₁ rfl
  split
  · split
    · next h =>
      apply leads_pure
      rw [eq_of_beq h]
    · exact leads_throw
  · exact leads_throw

end

/-! ### What is read is derived -/

/-- Whether a phrase that is nested at most as deeply as given reaches from the tokens `ts` to the
tokens `rest`. -/
def Spans (q : Phrase α) (most : Nat) (ts : List Token) (x : α) (rest : List Token) : Prop :=
  ∃ n used, n ≤ most ∧ ts = used ++ rest ∧ Derives q n used x

/-- Whatever is read is a phrase that is nested at most as deeply as given. -/
def Sound (p : Parser α) (q : Phrase α) (most : Nat) : Prop :=
  ∀ ts, Leads p ts (Spans q most ts)

variable {most : Nat}

private theorem sound_chain {op? : Symbol → Option BinaryOp} {operand : Parser Expr} {k : Nat}
    (hop : ∀ s op, op? s = some op → op.symbol = s ∧ op.strength = k)
    (hoperand : Sound operand (.binary (k + 1)) most) {left : Expr} {ts₀ ts : List Token}
    (hleft : Spans (.binary k) most ts₀ left ts) (fuel : Nat) :
    Leads (chain op? operand left fuel) ts (Spans (.binary k) most ts₀) := by
  induction fuel generalizing left ts with
  | zero => exact leads_pure hleft
  | succ fuel ih =>
    apply leads_get_bind
    split
    · next s ts₁ =>
      split
      · next op hs =>
        obtain ⟨rfl, rfl⟩ := hop s op hs
        obtain ⟨n₁, used₁, hn₁, rfl, hleft⟩ := hleft
        apply leads_set_bind
        apply (hoperand ts₁).bind
        rintro right ts₂ ⟨n₂, used₂, hn₂, rfl, hright⟩
        exact ih ⟨_, _, Nat.max_le.mpr ⟨hn₁, hn₂⟩, by simp, .binary op hleft hright⟩
      · exact leads_pure hleft
    · exact leads_pure hleft

private theorem sound_level {op? : Symbol → Option BinaryOp} {operand : Parser Expr} {k : Nat}
    (hop : ∀ s op, op? s = some op → op.symbol = s ∧ op.strength = k)
    (hoperand : Sound operand (.binary (k + 1)) most) :
    Sound (level op? operand) (.binary k) most := by
  intro ts
  apply leads_get_bind
  apply (hoperand ts).bind
  rintro left ts₁ ⟨n, used, hn, hts, hleft⟩
  exact sound_chain hop hoperand ⟨n, used, hn, hts, .stronger hleft⟩ _

private theorem sound_binaryFrom {operand : Parser Expr} (hoperand : Sound operand .operand most)
    {k : Nat} (hk : k ≤ 6) : Sound (binaryFrom k operand) (.binary k) most := by
  induction hk using Nat.decreasingInduction with
  | self =>
    intro ts
    apply (hoperand ts).mono
    rintro e rest ⟨n, used, hn, hts, he⟩
    exact ⟨n, used, hn, hts, .operand he⟩
  | of_succ k hk ih =>
    obtain ⟨op?, hlevel, hop⟩ := exists_level hk
    rw [binaryFrom, hlevel]
    exact sound_level (fun s op ↦ (hop s op).mp) ih

private theorem leads_itemsUpTo {i : Item α} {item : Parser α} {close : Symbol}
    (hitem : Sound item (.item i) most) {ts : List Token} {fuel : Nat} (hfuel : ts.length < fuel) :
    Leads (itemsUpTo close item fuel) ts fun xs rest ↦
      Spans (.items i) most ts xs (.symbol close :: rest) := by
  have hrow : Leads (itemsUpTo close item fuel) ts fun xs rest ↦
      Spans (.row i) most ts xs (.symbol close :: rest) ∨
        Spans (.row i) most ts xs (.symbol .comma :: .symbol close :: rest) := by
    induction fuel generalizing ts with
    | zero => omega
    | succ fuel ih =>
      apply (hitem ts).bind
      rintro x ts₁ ⟨n, used, hn, rfl, hx⟩
      apply leads_skip.bind
      intro closed ts₂ hclosed
      cases closed with
      | true =>
        subst hclosed
        exact leads_pure (.inl ⟨n, used, hn, rfl, .one hx⟩)
      | false =>
        subst hclosed
        apply leads_expect.bind
        rintro _ ts₃ rfl
        apply leads_skip.bind
        intro closed ts₄ hclosed
        cases closed with
        | true =>
          subst hclosed
          exact leads_pure (.inr ⟨n, used, hn, rfl, .one hx⟩)
        | false =>
          subst hclosed
          have hlength : ts₄.length < fuel := by
            simp only [List.length_append, List.length_cons] at hfuel
            omega
          apply (ih hlength).bind
          rintro xs ts₅ (⟨n', used', hn', rfl, hxs⟩ | ⟨n', used', hn', rfl, hxs⟩)
          · exact leads_pure (.inl ⟨_, _, Nat.max_le.mpr ⟨hn, hn'⟩, by simp, .more hx hxs⟩)
          · exact leads_pure (.inr ⟨_, _, Nat.max_le.mpr ⟨hn, hn'⟩, by simp, .more hx hxs⟩)
  apply hrow.mono
  rintro xs rest (⟨n, used, hn, rfl, hxs⟩ | ⟨n, used, hn, rfl, hxs⟩)
  · exact ⟨n, used, hn, rfl, .row hxs⟩
  · exact ⟨n, _, hn, by simp, .trailing hxs⟩

private theorem leads_items {i : Item α} {item : Parser α} {close : Symbol} {ts : List Token}
    (hitem : Sound item (.item i) most) :
    Leads (items close item) ts fun xs rest ↦
      Spans (.items i) most ts xs (.symbol close :: rest) := by
  apply leads_skip.bind
  intro closed ts₁ hclosed
  cases closed with
  | true =>
    subst hclosed
    exact leads_pure ⟨0, [], Nat.zero_le _, rfl, .none⟩
  | false =>
    subst hclosed
    apply leads_get_bind
    exact leads_itemsUpTo hitem (Nat.lt_succ_self _)

private theorem sound_entry {expr : Parser Expr} (hexpr : Sound expr (.item .expression) most) :
    Sound (entry expr) (.item .entry) most := by
  intro ts
  apply leads_next.bind
  rintro t ts₁ rfl
  have hrest {key : String} (hkey : Key t key) :
      Leads (do expect .colon; return (key, ← expr) : Parser (String × Expr)) ts₁
        (Spans (.item .entry) most (t :: ts₁)) := by
    apply leads_expect.bind
    rintro _ ts₂ rfl
    apply (hexpr ts₂).bind
    rintro e ts₃ ⟨n, used, hn, rfl, he⟩
    exact leads_pure ⟨n, _, hn, rfl, .entry hkey he⟩
  dsimp only
  split
  · exact hrest (.objectKey _)
  · exact hrest (.path _)
  · exact hrest (.str _)
  · exact hrest (.int _)
  · exact hrest (.float _)
  · exact leads_throw

private theorem atom_ofPath (text : List Char) : Atom (.path text) (ofPath text) := by
  obtain ⟨root, names, h⟩ := List.exists_cons_of_ne_nil (Text.splitAtChar_ne_nil '.' text)
  rw [ofPath, h]
  exact .path h

private theorem sound_primary {expr : Parser Expr} (hexpr : Sound expr (.item .expression) most) :
    Sound (primary expr) .primary (most + 1) := by
  intro ts
  apply leads_next.bind
  rintro t ts₁ rfl
  have hatom {e : Expr} (he : Atom t e) :
      Leads (pure e) ts₁ (Spans .primary (most + 1) (t :: ts₁)) :=
    leads_pure ⟨1, [t], Nat.succ_le_succ (Nat.zero_le _), rfl, .atom he⟩
  split
  · exact hatom (atom_ofPath _)
  · exact hatom (.str _)
  · exact hatom (.int _)
  · exact hatom (.float _)
  · exact hatom (.bool _)
  · exact hatom .null
  · exact hatom .undefined
  · split
    · next hr => exact hatom (.regex hr)
    · exact leads_throw
  · apply (hexpr ts₁).bind
    rintro e ts₂ ⟨n, used, hn, rfl, he⟩
    apply leads_expect.bind
    rintro _ ts₃ rfl
    exact leads_pure ⟨_, _, Nat.succ_le_succ hn, by simp, .group he⟩
  · apply (leads_items hexpr).bind
    rintro es ts₂ ⟨n, used, hn, rfl, hes⟩
    exact leads_pure ⟨_, _, Nat.succ_le_succ hn, by simp, .list hes⟩
  · apply (leads_items (sound_entry hexpr)).bind
    rintro es ts₂ ⟨n, used, hn, rfl, hes⟩
    exact leads_pure ⟨_, _, Nat.succ_le_succ hn, by simp, .map hes⟩
  · exact leads_throw

/-- An argument list that is read stands between parentheses. -/
theorem leads_arguments {expr : Parser Expr} (hexpr : Sound expr (.item .expression) most)
    {ts : List Token} :
    Leads (arguments expr) ts fun args rest ↦ ∃ ts₁, ts = .symbol .parenOpen :: ts₁ ∧
      Spans (.items .expression) most ts₁ args (.symbol .parenClose :: rest) := by
  apply leads_expect.bind
  rintro _ ts₁ rfl
  apply (leads_items hexpr).mono
  intro args rest hargs
  exact ⟨ts₁, rfl, hargs⟩

private theorem leads_postfixes {expr : Parser Expr} (hexpr : Sound expr (.item .expression) most)
    {e : Expr} {ts₀ ts : List Token} (he : Spans .access most ts₀ e ts) (fuel : Nat) :
    Leads (postfixes expr e fuel) ts (Spans .access most ts₀) := by
  induction fuel generalizing e ts with
  | zero => exact leads_pure he
  | succ fuel ih =>
    obtain ⟨n₁, used₁, hn₁, rfl, he⟩ := he
    apply leads_get_bind
    split
    · apply leads_set_bind
      apply leads_next.bind
      rintro t ts₁ rfl
      split
      · next name => exact ih ⟨_, _, hn₁, by simp, .property name he⟩
      · exact leads_throw
    · next ts₁ =>
      apply leads_set_bind
      have hkey : Leads (do
          let key ← expr
          expect .bracketClose
          postfixes expr (.item e key) fuel) ts₁
            (Spans .access most (used₁ ++ .symbol .bracketOpen :: ts₁)) := by
        apply (hexpr ts₁).bind
        rintro key ts₂ ⟨n₂, used₂, hn₂, rfl, hkey⟩
        apply leads_expect.bind
        rintro _ ts₃ rfl
        exact ih ⟨_, _, Nat.max_le.mpr ⟨hn₁, hn₂⟩, by simp, .index he hkey⟩
      apply leads_sees.bind
      rintro seen ts₂ ⟨rfl, -⟩
      cases seen with
      | true => exact leads_throw
      | false => exact hkey
    · apply (leads_arguments hexpr).bind
      rintro args ts₂ ⟨ts₁, hts, n₂, used₂, hn₂, rfl, hargs⟩
      cases hts
      exact ih ⟨_, _, Nat.max_le.mpr ⟨hn₁, hn₂⟩, by simp, .call he hargs⟩
    · exact leads_pure ⟨n₁, used₁, hn₁, rfl, he⟩

private theorem sound_conditional {operand branch : Parser Expr}
    (hoperand : Sound operand .operand most) (hbranch : Sound branch (.item .expression) most) :
    Sound (conditional operand branch) (.item .expression) (most + 1) := by
  intro ts
  have hbinary : Sound (binary operand) (.binary 0) most :=
    sound_binaryFrom hoperand (Nat.zero_le 6)
  apply (hbinary ts).bind
  rintro test ts₁ ⟨n₁, used₁, hn₁, rfl, htest⟩
  apply leads_skip.bind
  intro asked ts₂ hasked
  cases asked with
  | false =>
    subst hasked
    exact leads_pure ⟨_, _, Nat.succ_le_succ hn₁, rfl, .test htest⟩
  | true =>
    subst hasked
    apply (hbranch ts₂).bind
    rintro yes ts₃ ⟨n₂, used₂, hn₂, rfl, hyes⟩
    apply leads_expect.bind
    rintro _ ts₄ rfl
    apply (hbranch ts₄).bind
    rintro no ts₅ ⟨n₃, used₃, hn₃, rfl, hno⟩
    exact leads_pure
      ⟨_, _, Nat.succ_le_succ (Nat.max_le.mpr ⟨hn₁, Nat.max_le.mpr ⟨hn₂, hn₃⟩⟩), by simp,
        .conditional htest hyes hno⟩

private theorem sound_operand {expr inner nested : Parser Expr}
    (hexpr : Sound expr (.item .expression) (most + 1))
    (hinner : Sound inner (.item .expression) most) (hnested : Sound nested .operand most) :
    Sound (operand expr inner nested) .operand (most + 1) := by
  intro ts
  have hwithout : Leads (do
      let e ← primary inner
      postfixes expr e ts.length) ts (Spans .operand (most + 1) ts) := by
    have haccess : Leads (do
        let e ← primary inner
        postfixes expr e ts.length) ts (Spans .access (most + 1) ts) := by
      apply (sound_primary hinner ts).bind
      rintro e ts₁ ⟨n, used, hn, hts, he⟩
      exact leads_postfixes hexpr ⟨n, used, hn, hts, .primary he⟩ _
    apply haccess.mono
    rintro e rest ⟨n, used, hn, hts, he⟩
    exact ⟨n, used, hn, hts, .access he⟩
  apply leads_get_bind
  apply leads_get_bind
  split
  · next s ts₁ =>
    split
    · next op hs =>
      obtain rfl := unaryOp?_eq_some.mp hs
      apply leads_set_bind
      apply (hnested ts₁).bind
      rintro e ts₂ ⟨n, used, hn, rfl, he⟩
      exact leads_pure ⟨_, _, Nat.succ_le_succ hn, rfl, .unary op he⟩
    · exact hwithout
  · exact hwithout

/-- What is read within a depth is nested within it. -/
theorem sound_nested (n : Nat) :
    Sound (nested n).1 (.item .expression) n ∧ Sound (nested n).2 .operand n := by
  induction n with
  | zero => exact ⟨fun _ ↦ leads_throw, fun _ ↦ leads_throw⟩
  | succ n ih =>
    have houter := sound_conditional ih.2 ih.1
    exact ⟨houter, sound_operand houter ih.1 ih.2⟩

end Parser

end Stencil
