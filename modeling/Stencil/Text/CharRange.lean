/-!
# Sets of characters as ranges of code points

A property of characters is kept as closed ranges of code points, ascending and apart. For such
ranges the search for a code point may stop at the first range that starts behind it.
-/

namespace Stencil.Text

/-- Closed ranges of code points. -/
abbrev CharRanges := List (Nat × Nat)

/-- Whether the code point lies in one of the ranges, which ascend. -/
def CharRanges.contains : CharRanges → Nat → Bool
  | [], _ => false
  | (first, last) :: rest, n => first ≤ n && (n ≤ last || CharRanges.contains rest n)

/-- In ascending ranges the search finds every code point that lies in one of them. -/
theorem CharRanges.contains_iff {rs : CharRanges} (h : rs.Pairwise fun r s ↦ r.1 ≤ s.1) (n : Nat) :
    rs.contains n = true ↔ ∃ r ∈ rs, r.1 ≤ n ∧ n ≤ r.2 := by
  induction rs with
  | nil => simp [CharRanges.contains]
  | cons r rest ih =>
    obtain ⟨hr, hrest⟩ := List.pairwise_cons.mp h
    simp only [CharRanges.contains, Bool.and_eq_true, Bool.or_eq_true, decide_eq_true_eq,
      List.mem_cons, exists_eq_or_imp, ih hrest]
    constructor
    · rintro ⟨hfirst, hlast | hin⟩
      · exact Or.inl ⟨hfirst, hlast⟩
      · exact Or.inr hin
    · rintro (⟨hfirst, hlast⟩ | ⟨s, hs, hin⟩)
      · exact ⟨hfirst, Or.inl hlast⟩
      · exact ⟨Nat.le_trans (hr s hs) hin.1, Or.inr ⟨s, hs, hin⟩⟩

/-- The code points of `r` and those of ascending ranges that do not start before `r`: ranges that
overlap or touch become one. -/
def CharRanges.joinFrom (r : Nat × Nat) : CharRanges → CharRanges
  | [] => [r]
  | s :: rest =>
    if s.1 ≤ r.2 + 1 then joinFrom (r.1, max r.2 s.2) rest else r :: joinFrom s rest

/-- The union of ascending ranges. -/
def CharRanges.union (rs ss : CharRanges) : CharRanges :=
  match rs.merge ss fun r s ↦ r.1 ≤ s.1 with
  | [] => []
  | r :: rest => joinFrom r rest

/-- The code points from `n` on that no range has. -/
def CharRanges.complFrom (n : Nat) : CharRanges → CharRanges
  | [] => if n ≤ 0x10FFFF then [(n, 0x10FFFF)] else []
  | r :: rest =>
    if n < r.1 then (n, r.1 - 1) :: complFrom (r.2 + 1) rest else complFrom (r.2 + 1) rest

/-- The code points that no range has. -/
def CharRanges.compl (rs : CharRanges) : CharRanges := complFrom 0 rs

/-- The code points of both sides. -/
def CharRanges.inter (rs ss : CharRanges) : CharRanges := compl (rs.compl.union ss.compl)

/-- The code points of the first side that the second one lacks. -/
def CharRanges.diff (rs ss : CharRanges) : CharRanges := compl (rs.compl.union ss)

/-- The ranges of single code points, which may come in any order. -/
def CharRanges.ofList (ns : List Nat) : CharRanges :=
  CharRanges.union [] ((ns.mergeSort fun m n ↦ m ≤ n).map fun n ↦ (n, n))

/-- The code points of the ranges, one by one. -/
def CharRanges.toList (rs : CharRanges) : List Nat :=
  rs.flatMap fun r ↦ List.range' r.1 (r.2 + 1 - r.1)

/-- A run of code points that are mapped alike: every `step`-th one from `first` to `last` keeps
its distance to `first` when `first` is moved to `target`. -/
structure CharShift where
  /-- The first code point of the run. -/
  first : Nat
  /-- The last code point of the run. -/
  last : Nat
  /-- The distance between neighbours of the run. -/
  step : Nat
  /-- The code point that `first` is mapped to. -/
  target : Nat

namespace CharShift

/-- The image of a code point under the first run that has it. -/
def image? (shifts : List CharShift) (n : Nat) : Option Nat :=
  (shifts.find? fun s ↦ s.first ≤ n && n ≤ s.last && (n - s.first) % s.step == 0).map
    fun s ↦ s.target + (n - s.first)

/-- The code points of a run. -/
def domain (s : CharShift) : CharRanges :=
  if s.step = 1 then [(s.first, s.last)]
  else (List.range ((s.last - s.first) / s.step + 1)).map fun i ↦
    (s.first + i * s.step, s.first + i * s.step)

end CharShift

end Stencil.Text
