import Mathlib.Data.List.TakeWhile
import Stencil.Pipeline

/-!
# Segments of fragments

Fragments are split at some of them, and segments are trimmed at their ends. Nothing of a segment
gets lost but the spaces at its ends.
-/

namespace Stencil.Fragment

/-! ### Splitting -/

section

variable {p : Fragment → Bool} {fs : List Fragment}

/-- There is a first segment. -/
theorem splitBy_ne_nil (p : Fragment → Bool) (fs : List Fragment) : splitBy p fs ≠ [] := by
  cases fs with
  | nil => exact List.cons_ne_nil _ _
  | cons f fs =>
    rw [splitBy]
    split
    · exact List.cons_ne_nil _ _
    · split <;> exact List.cons_ne_nil _ _

/-- Where no fragment splits there is one segment. -/
theorem splitBy_eq_singleton (h : ∀ f ∈ fs, p f = false) : splitBy p fs = [fs] := by
  induction fs with
  | nil => rfl
  | cons f fs ih =>
    rw [splitBy, h f List.mem_cons_self, ih fun g hg ↦ h g (.tail f hg)]
    rfl

/-- The first segment ends at the first fragment that splits. -/
theorem splitBy_append_cons (h : ∀ f ∈ fs, p f = false) {g : Fragment} (hg : p g = true)
    (gs : List Fragment) : splitBy p (fs ++ g :: gs) = fs :: splitBy p gs := by
  induction fs with
  | nil => rw [List.nil_append, splitBy, if_pos hg]
  | cons f fs ih =>
    rw [List.cons_append, splitBy, h f List.mem_cons_self, ih fun g hg ↦ h g (.tail f hg)]
    rfl

/-- Segments stand in front of a fragment that splits, and behind it. -/
theorem splitBy_append {g : Fragment} (hg : p g = true) (fs gs : List Fragment) :
    splitBy p (fs ++ g :: gs) = splitBy p fs ++ splitBy p gs := by
  induction fs with
  | nil => simp [splitBy, hg]
  | cons f fs ih =>
    rw [List.cons_append, splitBy, splitBy, ih]
    cases hsplit : splitBy p fs with
    | nil => exact absurd hsplit (splitBy_ne_nil p fs)
    | cons part parts => split <;> rfl

/-- Fragments at the end of which none splits belong to the last segment. -/
theorem exists_splitBy_append (fs : List Fragment) {gs : List Fragment}
    (hgs : ∀ g ∈ gs, p g = false) :
    ∃ front last,
      splitBy p fs = front ++ [last] ∧ splitBy p (fs ++ gs) = front ++ [last ++ gs] := by
  induction fs with
  | nil => exact ⟨[], [], rfl, splitBy_eq_singleton hgs⟩
  | cons f fs ih =>
    obtain ⟨front, last, hsplit, happend⟩ := ih
    rw [List.cons_append, splitBy, splitBy, hsplit, happend]
    split
    · exact ⟨[] :: front, last, rfl, rfl⟩
    · cases front with
      | nil => exact ⟨[], f :: last, rfl, rfl⟩
      | cons part front => exact ⟨(f :: part) :: front, last, rfl, rfl⟩

/-- A fragment that does not split belongs to a segment. -/
theorem exists_mem_splitBy {f : Fragment} (hf : p f = false) (h : f ∈ fs) :
    ∃ part ∈ splitBy p fs, f ∈ part := by
  induction fs with
  | nil => cases h
  | cons g fs ih =>
    cases hsplit : splitBy p fs with
    | nil => exact absurd hsplit (splitBy_ne_nil p fs)
    | cons part parts =>
      rw [splitBy, hsplit]
      rcases List.mem_cons.mp h with rfl | h
      · rw [hf]
        exact ⟨_, List.mem_cons_self, List.mem_cons_self⟩
      · obtain ⟨part', hpart', hmem⟩ := ih h
        rw [hsplit] at hpart'
        split
        · exact ⟨part', .tail _ hpart', hmem⟩
        · rcases List.mem_cons.mp hpart' with rfl | hpart'
          · exact ⟨g :: part', List.mem_cons_self, .tail _ hmem⟩
          · exact ⟨part', .tail _ hpart', hmem⟩

/-- A segment has its fragments from all of them. -/
theorem subset_of_mem_splitBy {part : List Fragment} (h : part ∈ splitBy p fs) : part ⊆ fs := by
  induction fs generalizing part with
  | nil =>
    rw [splitBy, List.mem_singleton] at h
    simp [h]
  | cons f fs ih =>
    have hbehind {part : List Fragment} (h : part ∈ splitBy p fs) : part ⊆ f :: fs :=
      List.subset_cons_of_subset f (ih h)
    rw [splitBy] at h
    split at h
    · rcases List.mem_cons.mp h with rfl | h
      · simp
      · exact hbehind h
    · split at h
      · next hsplit => exact absurd hsplit (splitBy_ne_nil p fs)
      · next first parts hsplit =>
        rw [hsplit] at hbehind
        rcases List.mem_cons.mp h with rfl | h
        · exact List.cons_subset_cons f (ih (hsplit ▸ List.mem_cons_self))
        · exact hbehind (List.mem_cons_of_mem first h)

end

/-! ### Trimming -/

section

variable {fs before after : List Fragment}

private theorem exists_dropWhile (fs : List Fragment) :
    ∃ before, (∀ f ∈ before, f.isSpace = true) ∧ fs = before ++ fs.dropWhile isSpace := by
  refine ⟨fs.takeWhile isSpace, fun f hf ↦ ?_, List.takeWhile_append_dropWhile.symm⟩
  exact List.mem_takeWhile_imp hf

/-- What trimming takes away are spaces at the two ends. -/
theorem exists_trimSpaces (fs : List Fragment) :
    ∃ before after, (∀ f ∈ before, f.isSpace = true) ∧ (∀ f ∈ after, f.isSpace = true) ∧
      fs = before ++ trimSpaces fs ++ after := by
  obtain ⟨before, hbefore, hfront⟩ := exists_dropWhile fs
  obtain ⟨after, hafter, hback⟩ := exists_dropWhile (fs.dropWhile isSpace).reverse
  refine ⟨before, after.reverse, hbefore, by simpa using hafter, ?_⟩
  rw [trimSpaces, List.append_assoc, ← List.reverse_append, ← hback, List.reverse_reverse]
  exact hfront

/-- A trimmed segment has its fragments from the segment. -/
theorem trimSpaces_subset (fs : List Fragment) : trimSpaces fs ⊆ fs := by
  obtain ⟨before, after, -, -, h⟩ := exists_trimSpaces fs
  intro f hf
  rw [h]
  simp [hf]

/-- Trimming stops at the first fragment that is no space. -/
theorem exists_trimSpaces_append_cons {f : Fragment} (hbefore : ∀ f ∈ before, f.isSpace = true)
    (hf : f.isSpace = false) (fs : List Fragment) :
    ∃ rest, trimSpaces (before ++ f :: fs) = f :: rest := by
  have hfront : (before ++ f :: fs).dropWhile isSpace = f :: fs := by
    rw [List.dropWhile_append_of_pos hbefore]
    exact List.dropWhile_cons_of_neg (by simp [hf])
  rw [trimSpaces, hfront, List.reverse_cons, List.dropWhile_append]
  split
  · exact ⟨[], by simp [hf]⟩
  · exact ⟨_, by rw [List.reverse_append]; rfl⟩

/-- Spaces at the end are trimmed away. -/
theorem trimSpaces_append_spaces (fs : List Fragment) (hafter : ∀ f ∈ after, f.isSpace = true) :
    trimSpaces (fs ++ after) = trimSpaces fs := by
  rw [trimSpaces, trimSpaces, List.dropWhile_append]
  split
  · next hempty =>
    rw [List.isEmpty_iff.mp hempty, List.dropWhile_eq_nil_iff.mpr hafter]
  · rw [List.reverse_append, List.dropWhile_append_of_pos (by simpa using hafter)]

/-- What has been trimmed has no spaces at its ends. -/
@[simp] theorem trimSpaces_trimSpaces (fs : List Fragment) :
    trimSpaces (trimSpaces fs) = trimSpaces fs := by
  obtain ⟨before, after, hbefore, hafter, h⟩ := exists_trimSpaces fs
  have hfront : trimSpaces (before ++ trimSpaces fs) = trimSpaces (trimSpaces fs) := by
    rw [trimSpaces, List.dropWhile_append_of_pos hbefore]
    rfl
  rw [← hfront, ← trimSpaces_append_spaces _ hafter, ← h]

/-- Fragments between spaces that neither begin nor end with one are what is left of them. -/
theorem trimSpaces_append {f g : Fragment} (hbefore : ∀ f ∈ before, f.isSpace = true)
    (hafter : ∀ f ∈ after, f.isSpace = true) (hhead : fs.head? = some f) (hf : f.isSpace = false)
    (hlast : fs.getLast? = some g) (hg : g.isSpace = false) :
    trimSpaces (before ++ fs ++ after) = fs := by
  have hkeep {gs : List Fragment} {g : Fragment} (hgs : gs.head? = some g)
      (hg : g.isSpace = false) : gs.dropWhile isSpace = gs := by
    obtain ⟨gs', rfl⟩ := List.head?_eq_some_iff.mp hgs
    exact List.dropWhile_cons_of_neg (by simp [hg])
  have hfront : (before ++ fs ++ after).dropWhile isSpace = fs ++ after := by
    rw [List.append_assoc, List.dropWhile_append_of_pos hbefore]
    exact hkeep (by rw [List.head?_append, hhead]; rfl) hf
  rw [trimSpaces, hfront, List.reverse_append, List.dropWhile_append_of_pos (by simpa using hafter),
    hkeep (by rw [List.head?_reverse, hlast]) hg, List.reverse_reverse]

end

end Stencil.Fragment
