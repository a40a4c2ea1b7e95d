import Stencil.Proofs.Literal.RoundTrip
import Stencil.Proofs.Number.Integral

/-!
# Integers as expressions

The text of an integer is an expression of this value, except for the least integer. A minus sign is
an operator in front of a number of its own, and the number behind the sign of the least integer is
one too great for 64 bits. Main statement: `run_read_integerText`.
-/

namespace Stencil

open Number

/-- A number beyond 64 bits is read in double precision. -/
theorem number?_toDigits_of_great {m : Nat} (h : int64? m = none) (hm : m ≤ 2 ^ 63) :
    Token.number? (Nat.toDigits 10 m) = some (.float (Float.ofNat m)) := by
  obtain ⟨c, cs, hcs⟩ := List.exists_cons_of_ne_nil (Nat.toDigits_ne_nil (n := m) (b := 10))
  have hdigit : c.isDigit = true := isDigit_of_mem_toDigits (hcs ▸ List.mem_cons_self)
  have hhead : ((Nat.toDigits 10 m).head?.map Char.isDigit).getD false = true := by
    rw [hcs]
    exact hdigit
  simp only [Token.number?, readInt64?_toDigits, h, hhead, readFloat?_toDigits hm]
  rfl

namespace Pipeline

private theorem exists_read_of_cuts {n : Int64} {gs : List Fragment} {ts : List Token} {e : Expr}
    {v : Value} (hscan : Fragment.scan (integerText n).toList = gs) (hcut : Token.Cuts gs ts)
    (he : Expr.ofTokens ts = .ok e) (hv : v.isMissing = false)
    (heval : ∀ s : Setting, e.eval s = pure v) :
    ∃ p, read (integerText n) = .ok p ∧ ∀ s : Setting, p.eval s = pure v := by
  have hread := read_of_cuts hscan hcut he (trim_integerText n) (toList_integerText_ne_nil n)
  rw [String.ofList_toList] at hread
  exact ⟨_, hread, fun s ↦ eval_of_no_filters rfl hv (heval s)⟩

private theorem exists_read_digits {n : Int64} {m : Nat} (h : n.toInt = Int.ofNat m) :
    ∃ p, read (integerText n) = .ok p ∧ ∀ s : Setting, p.eval s = pure (.int n) := by
  have hfits : int64? (m : Int) = some n := by
    have hsame := int64?_toInt n
    rwa [h] at hsame
  have hcut := Token.cuts_word (ofLiteral_toDigits (number?_toDigits hfits))
  have he := Expr.ofTokens_of_derives (.expression_of_primary (.atom (.int n))) (by decide)
  refine exists_read_of_cuts ?_ hcut he rfl fun s ↦ by rw [Expr.eval]
  rw [toList_integerText_of_ofNat h]
  exact Scanner.scan_word (isWord_toDigits m)

private theorem exists_read_minus {n : Int64} {m : Nat} {t : Token} {v w : Value}
    (h : n.toInt = Int.negSucc m) (ht : Token.number? (Nat.toDigits 10 (m + 1)) = some t)
    (hatom : Atom t (.const v)) (hnegate : v.negate = .ok w) (hw : w.isMissing = false) :
    ∃ p, read (integerText n) = .ok p ∧ ∀ s : Setting, p.eval s = pure w := by
  have hcut := Token.cuts_minus (ofLiteral_toDigits ht)
  have he := Expr.ofTokens_of_derives
    (.expression_of_operand (.unary .negate (.access (.primary (.atom hatom))))) (by decide)
  refine exists_read_of_cuts ?_ hcut he hw fun s ↦ ?_
  · rw [toList_integerText_of_negSucc h]
    exact Scanner.scan_minus (isWord_toDigits (m + 1))
  · rw [Expr.eval, Expr.eval, pure_bind, UnaryOp.apply, hnegate]
    rfl

private theorem exists_read_minValue :
    ∃ p, read (integerText Int64.minValue) = .ok p ∧
      ∀ s : Setting, p.eval s = pure (.float (floatOfInt64 Int64.minValue)) := by
  have h : Int64.minValue.toInt = Int.negSucc (2 ^ 63 - 1) := by decide
  have hgreat : int64? (2 ^ 63 - 1 + 1 : Nat) = none := by decide
  have hnegate : (Value.float (Float.ofNat (2 ^ 63 - 1 + 1))).negate =
      .ok (.float (floatOfInt64 Int64.minValue)) := by
    rw [floatOfInt64, h]
    rfl
  exact exists_read_minus h (number?_toDigits_of_great hgreat le_rfl) (.float _) hnegate rfl

/-- Every integer of 64 bits can be written as an expression: its text is read as a pipeline that
has this value in every scope, and so in every environment and every context that makes up a scope.
The one exception is the least integer, which becomes a number of double precision. -/
theorem run_read_integerText (n : Int64) :
    ∃ p, read (integerText n) = .ok p ∧
      (∀ s : Setting, p.eval s =
        pure (if n = Int64.minValue then .float (floatOfInt64 n) else .int n)) ∧
      ∀ env context, p.run env context =
        (do
          let _ ← Scope.ofContext (← Value.ofDatum context)
          return if n = Int64.minValue then .float (floatOfInt64 n) else .int n) := by
  have hread : ∃ p, read (integerText n) = .ok p ∧ ∀ s : Setting, p.eval s =
      pure (if n = Int64.minValue then .float (floatOfInt64 n) else .int n) := by
    by_cases hn : n = Int64.minValue
    · rw [if_pos hn, hn]
      exact exists_read_minValue
    · rw [if_neg hn]
      cases h : n.toInt with
      | ofNat m => exact exists_read_digits h
      | negSucc m =>
        obtain ⟨i, hfits, hnegate⟩ := exists_opposite hn h
        exact exists_read_minus h (number?_toDigits hfits) (.int i) hnegate rfl
  obtain ⟨p, hp, heval⟩ := hread
  refine ⟨p, hp, heval, fun env context ↦ ?_⟩
  rw [run, heval]
  rfl

/-- The text of the least integer is read, but its value is no integer. -/
theorem run_read_minValue :
    ∃ p, read (integerText Int64.minValue) = .ok p ∧
      ∀ s : Setting, ¬ p.eval s = pure (.int Int64.minValue) := by
  obtain ⟨p, hp, heval⟩ := exists_read_minValue
  refine ⟨p, hp, fun s h ↦ ?_⟩
  rw [heval] at h
  cases congrArg (fun a : Action Value ↦ (a.run.run []).1) h

end Pipeline

end Stencil
