import Stencil.Value.Basic

/-!
# Scopes

A scope is a chain of frames, the innermost first. A name is looked up from the innermost frame
outward; a frame binds it to a variable or to a macro. Writing changes the innermost frame only, and
a macro is called in the frame that binds it.
-/

namespace Stencil

/-- A frame of a scope. -/
structure Frame where
  /-- The variables, in order of insertion. -/
  vars : List (String × Value)
  /-- The names of the macros that are bound. -/
  macros : List String

namespace Frame

/-- A frame that binds nothing. -/
def empty : Frame := ⟨[], []⟩

/-- Binds a variable, in place of a macro of the same name. -/
def set (f : Frame) (name : String) (v : Value) : Frame :=
  ⟨Entries.insert name v f.vars, f.macros.filter (· != name)⟩

/-- Binds a macro, in place of a variable of the same name. -/
def bindMacro (f : Frame) (name : String) : Frame :=
  ⟨f.vars.filter fun e ↦ e.1 != name,
    if f.macros.contains name then f.macros else name :: f.macros⟩

end Frame

/-- A chain of frames, the innermost first. -/
abbrev Scope := List Frame

/-- What a name is bound to. -/
inductive Binding where
  /-- A variable. -/
  | variable (v : Value)
  /-- A macro, in the frame that the given number of frames lie in. -/
  | routine (level : Nat)

namespace Scope

/-- What a name is bound to, in a chain with `level` frames before it. -/
def resolveFrom (name : String) (level : Nat) : Scope → Option Binding
  | [] => none
  | f :: fs =>
    match Entries.get? name f.vars with
    | some v => some (.variable v)
    | none =>
      if f.macros.contains name then some (.routine level) else resolveFrom name (level + 1) fs

/-- What a name is bound to. -/
def resolve (s : Scope) (name : String) : Option Binding := resolveFrom name 0 s

/-- The value of a variable. -/
def lookup (s : Scope) (name : String) : Option Value :=
  match s.resolve name with
  | some (.variable v) => some v
  | _ => none

/-- Binds a variable in the innermost frame. -/
def set (s : Scope) (name : String) (v : Value) : Scope :=
  match s with
  | [] => []
  | f :: fs => f.set name v :: fs

/-- Binds a macro in the innermost frame, unless the name already stands for a macro. -/
def bindMacro (s : Scope) (name : String) : Scope :=
  match s, s.resolve name with
  | s, some (.routine _) => s
  | f :: fs, _ => f.bindMacro name :: fs
  | [], _ => []

/-! ### What a write leaves alone -/

/-- Writing neither adds nor removes frames. -/
@[simp] theorem length_set (s : Scope) (name : String) (v : Value) :
    (s.set name v).length = s.length := by cases s <;> rfl

/-- Writing leaves all frames but the innermost one alone. -/
@[simp] theorem tail_set (s : Scope) (name : String) (v : Value) :
    (s.set name v).tail = s.tail := by cases s <;> rfl

/-- Binding a macro neither adds nor removes frames. -/
@[simp] theorem length_bindMacro (s : Scope) (name : String) :
    (s.bindMacro name).length = s.length := by
  unfold bindMacro
  split <;> simp

/-- Binding a macro leaves all frames but the innermost one alone. -/
@[simp] theorem tail_bindMacro (s : Scope) (name : String) :
    (s.bindMacro name).tail = s.tail := by
  unfold bindMacro
  split <;> simp

/-! ### Where a name is found -/

/-- A name stands for nothing if no frame binds it. -/
theorem resolve_eq_none {name : String} {s : Scope} :
    s.resolve name = none ↔ ∀ f ∈ s, Entries.get? name f.vars = none ∧ name ∉ f.macros := by
  have hfrom (level : Nat) : resolveFrom name level s = none ↔
      ∀ f ∈ s, Entries.get? name f.vars = none ∧ name ∉ f.macros := by
    induction s generalizing level with
    | nil => simp [resolveFrom]
    | cons f fs ih =>
      rw [resolveFrom, List.forall_mem_cons, ← ih (level + 1)]
      cases Entries.get? name f.vars with
      | some v => simp
      | none => by_cases hm : name ∈ f.macros <;> simp [hm]
  exact hfrom 0

/-- A macro is found in one of the frames that are searched. -/
theorem resolveFrom_lt {name : String} {start level : Nat} {s : Scope}
    (h : resolveFrom name start s = some (.routine level)) : level < start + s.length := by
  induction s generalizing start with
  | nil => cases h
  | cons f fs ih =>
    rw [resolveFrom] at h
    rw [List.length_cons]
    split at h
    · cases h
    · split at h
      · cases h
        omega
      · have := ih h
        omega

/-- A macro is found in a frame of the scope. -/
theorem resolve_lt {name : String} {level : Nat} {s : Scope}
    (h : s.resolve name = some (.routine level)) : level < s.length := by
  have := resolveFrom_lt h
  omega

/-- A macro is bound by the frame that it is found in. -/
theorem exists_mem_macros {name : String} {level : Nat} {s : Scope}
    (h : s.resolve name = some (.routine level)) : ∃ f, s[level]? = some f ∧ name ∈ f.macros := by
  have hfrom {s : Scope} (start : Nat) (h : resolveFrom name start s = some (.routine level)) :
      ∃ i f, level = start + i ∧ s[i]? = some f ∧ name ∈ f.macros := by
    induction s generalizing start with
    | nil => cases h
    | cons f fs ih =>
      rw [resolveFrom] at h
      split at h
      · cases h
      · split at h
        · next hm =>
          cases h
          exact ⟨0, f, rfl, rfl, List.contains_iff_mem.mp hm⟩
        · obtain ⟨i, g, rfl, hg, hm⟩ := ih _ h
          exact ⟨i + 1, g, by omega, hg, hm⟩
  obtain ⟨i, f, rfl, hf, hm⟩ := hfrom 0 h
  rw [Nat.zero_add]
  exact ⟨f, hf, hm⟩

/-- A name is found as a macro in the innermost frame once it is bound there. -/
theorem resolve_cons_bindMacro (name : String) (f : Frame) (fs : Scope) :
    resolve (f.bindMacro name :: fs) name = some (.routine 0) := by
  have hm : (f.bindMacro name).macros.contains name := by
    rw [Frame.bindMacro]
    split
    · assumption
    · simp
  rw [resolve, resolveFrom, hm, Frame.bindMacro, Entries.get?_filter_ne]
  rfl

/-- A name that stood for nothing is found as a macro in the innermost frame once it is bound. -/
theorem resolve_bindMacro {name : String} {s : Scope} (hs : s ≠ []) (h : s.resolve name = none) :
    (s.bindMacro name).resolve name = some (.routine 0) := by
  cases s with
  | nil => exact absurd rfl hs
  | cons f fs =>
    have hb : bindMacro (f :: fs) name = f.bindMacro name :: fs := by
      unfold bindMacro
      simp only [h]
    rw [hb, resolve_cons_bindMacro]

/-- Whatever a name stood for, it is found as a macro once it is bound. -/
theorem exists_resolve_bindMacro (name : String) {s : Scope} (hs : s ≠ []) :
    ∃ level, (s.bindMacro name).resolve name = some (.routine level) := by
  cases s with
  | nil => exact absurd rfl hs
  | cons f fs =>
    unfold bindMacro
    rcases h : resolve (f :: fs) name with _ | v | level
    · exact ⟨0, resolve_cons_bindMacro name f fs⟩
    · exact ⟨0, resolve_cons_bindMacro name f fs⟩
    · exact ⟨level, h⟩

end Scope

end Stencil
