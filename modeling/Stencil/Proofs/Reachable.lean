import Stencil.Proofs.Termination

/-!
# The states that a rendering passes through

At every moment of a rendering no frame binds a name twice, and the macros that are bound are
declared. Frames come up in front of others and are left together with those in front of them, but
never all of them, so that the frame of the context is always the last one. The call of a name that
has been bound as a macro is a call of that macro.
-/

namespace Stencil

/-! ### Moments -/

/-- How a frame came about. -/
inductive Origin where
  /-- It is the frame of the context. -/
  | root
  /-- It came up in front of another frame. -/
  | child

/-- A moment of a rendering. -/
structure Moment where
  /-- The chain of frames. -/
  scope : Scope
  /-- How each of these frames came about. -/
  origins : List Origin
  /-- The frames that steps take place outside of, until they come back to them. -/
  aside : List Frame

namespace Moment

/-- All frames that there are at a moment. -/
def frames (k : Moment) : List Frame := k.scope ++ k.aside

/-- The moment at which frames have been written to. -/
def withScope (k : Moment) (s : Scope) : Moment := { k with scope := s }

/-- The moment at which a frame has come up in front of the others. -/
def push (k : Moment) (f : Frame) : Moment := ⟨f :: k.scope, .child :: k.origins, k.aside⟩

/-- The moment at which the innermost frames have been left. -/
def leave (k : Moment) (n : Nat) : Moment :=
  ⟨k.scope.drop n, k.origins.drop n, k.scope.take n ++ k.aside⟩

end Moment

/-- The moments that a script passes through from one on: when it begins and when it is done, and
those of its parts. -/
inductive Script.Reaches {Task : Type → Type} (code : Code Task) :
    {α : Type} → Script Task α → Moment → Moment → Prop where
  /-- The script begins. -/
  | start {α : Type} (a : Script Task α) (k : Moment) : Reaches code a k k
  /-- The script is done, whether or not it has failed. -/
  | done {α : Type} {a : Script Task α} {k : Moment} {s : Scope} {r : Except Error α}
      {visits : List (Visit Task)} (hrun : a.Runs code k.scope r s visits) :
      Reaches code a k (k.withScope s)
  /-- The first script is under way. -/
  | first {α β : Type} {first : Script Task α} {next : α → Script Task β} {k k' : Moment}
      (hfirst : Reaches code first k k') : Reaches code (.bind first next) k k'
  /-- The first script is done, and the next one is under way. -/
  | next {α β : Type} {first : Script Task α} {next : α → Script Task β} {k k' : Moment} {s : Scope}
      {x : α} {visits : List (Visit Task)} (hfirst : first.Runs code k.scope (.ok x) s visits)
      (hnext : Reaches code (next x) (k.withScope s) k') : Reaches code (.bind first next) k k'
  /-- Steps in a new frame are under way. -/
  | inFrame {α : Type} {f : Frame} {body : Script Task α} {k k' : Moment}
      (hbody : Reaches code body (k.push f) k') : Reaches code (.inFrame f body) k k'
  /-- Steps outside of frames are under way. -/
  | outside {α : Type} {n : Nat} {body : Script Task α} {k k' : Moment}
      (hbody : Reaches code body (k.leave n) k') : Reaches code (.outside n body) k k'
  /-- Steps whose failure may be made up for are under way. -/
  | orIfUnknown {α : Type} {body : Script Task α} {x : α} {k k' : Moment}
      (hbody : Reaches code body k k') : Reaches code (.orIfUnknown body x) k k'
  /-- A task is under way. -/
  | task {α : Type} {d : Nat} {t : Task α} {k k' : Moment}
      (hcode : Reaches code (code.script d t) k k') : Reaches code (.task d t) k k'

/-- A task of a run begins at a moment that the run passes through. -/
theorem Script.Runs.exists_reaches {Task : Type → Type} {code : Code Task} {α : Type}
    {a : Script Task α} {s s' : Scope} {r : Except Error α} {visits : List (Visit Task)}
    (h : a.Runs code s r s' visits) {k : Moment} (hk : k.scope = s) {v : Visit Task}
    (hv : v ∈ visits) : ∃ k', a.Reaches code k k' ∧ k'.scope = v.scope := by
  induction h generalizing k with
  | @next _ _ _ _ s s₁ _ _ _ _ _ hfirst _ ihfirst ihnext =>
    rcases List.mem_append.mp hv with hv | hv
    · obtain ⟨k', hk', hscope⟩ := ihfirst hk hv
      exact ⟨k', .first hk', hscope⟩
    · obtain ⟨k', hk', hscope⟩ := ihnext (k := k.withScope s₁) rfl hv
      subst hk
      exact ⟨k', .next hfirst hk', hscope⟩
  | failed _ ih =>
    obtain ⟨k', hk', hscope⟩ := ih hk hv
    exact ⟨k', .first hk', hscope⟩
  | @inFrame α f body s s₁ r visits _ ih =>
    obtain ⟨k', hk', hscope⟩ := ih (k := k.push f) (by rw [Moment.push, hk]) hv
    exact ⟨k', .inFrame hk', hscope⟩
  | @outside α n body s s₁ r visits _ ih =>
    obtain ⟨k', hk', hscope⟩ := ih (k := k.leave n) (by rw [Moment.leave, hk]) hv
    exact ⟨k', .outside hk', hscope⟩
  | orIfUnknown _ ih =>
    obtain ⟨k', hk', hscope⟩ := ih hk hv
    exact ⟨k', .orIfUnknown hk', hscope⟩
  | task _ ih =>
    rcases List.mem_cons.mp hv with rfl | hv
    · exact ⟨k, .start _ _, hk⟩
    · obtain ⟨k', hk', hscope⟩ := ih hk hv
      exact ⟨k', .task hk', hscope⟩
  | _ => cases hv

/-! ### Frames in order -/

/-- Whether the macros that a frame binds are as described and no variables of the frame. -/
def Frame.Tidy (D : String → Prop) (f : Frame) : Prop :=
  ∀ name ∈ f.macros, D name ∧ Entries.get? name f.vars = none

/-- Whether there are frames, and all of them are in order. -/
def Scope.Tidy (D : String → Prop) (s : Scope) : Prop := 0 < s.length ∧ ∀ f ∈ s, f.Tidy D

variable {D : String → Prop}

namespace Frame

/-- A frame without macros is in order. -/
theorem tidy_of_macros_eq_nil {f : Frame} (h : f.macros = []) : f.Tidy D := by
  intro name hname
  rw [h] at hname
  cases hname

/-- A variable takes the place of a macro of its name. -/
theorem Tidy.set {f : Frame} (h : f.Tidy D) (name : String) (v : Value) :
    (f.set name v).Tidy D := by
  intro key hkey
  obtain ⟨hmem, hne⟩ := List.mem_filter.mp hkey
  obtain ⟨hD, hvars⟩ := h key hmem
  refine ⟨hD, ?_⟩
  rw [Frame.set, Entries.get?_insert, if_neg (by simpa using hne), hvars]

/-- A macro takes the place of a variable of its name. -/
theorem Tidy.bindMacro {f : Frame} (h : f.Tidy D) {name : String} (hname : D name) :
    (f.bindMacro name).Tidy D := by
  intro key hkey
  have hkey : key = name ∨ key ∈ f.macros := by
    rw [Frame.bindMacro] at hkey
    split at hkey
    · exact .inr hkey
    · exact List.mem_cons.mp hkey
  by_cases hne : key = name
  · subst hne
    exact ⟨hname, Entries.get?_filter_ne _ _⟩
  · obtain ⟨hD, hvars⟩ := h key (hkey.resolve_left hne)
    exact ⟨hD, (Entries.get?_filter_ne_of_ne hne _).trans hvars⟩

end Frame

namespace Scope

/-- Writing a variable keeps a scope tidy. -/
theorem Tidy.set {s : Scope} (h : s.Tidy D) (name : String) (v : Value) :
    (s.set name v).Tidy D := by
  refine ⟨by simpa using h.1, ?_⟩
  cases s with
  | nil => exact h.2
  | cons f fs =>
    obtain ⟨hf, hfs⟩ := List.forall_mem_cons.mp h.2
    exact List.forall_mem_cons.mpr ⟨hf.set name v, hfs⟩

/-- Binding a declared macro keeps a scope tidy. -/
theorem Tidy.bindMacro {s : Scope} (h : s.Tidy D) {name : String} (hname : D name) :
    (s.bindMacro name).Tidy D := by
  refine ⟨by simpa using h.1, ?_⟩
  unfold Scope.bindMacro
  split
  · exact h.2
  · obtain ⟨hf, hfs⟩ := List.forall_mem_cons.mp h.2
    exact List.forall_mem_cons.mpr ⟨hf.bindMacro hname, hfs⟩
  · exact h.2

/-- A tidy frame keeps a scope tidy. -/
theorem Tidy.cons {s : Scope} (h : s.Tidy D) {f : Frame} (hf : f.Tidy D) : Tidy D (f :: s) :=
  ⟨Nat.succ_pos _, List.forall_mem_cons.mpr ⟨hf, h.2⟩⟩

/-- Leaving frames keeps a scope tidy as long as one is left. -/
theorem Tidy.drop {s : Scope} (h : s.Tidy D) {n : Nat} (hn : n < s.length) : Tidy D (s.drop n) := by
  refine ⟨?_, fun f hf ↦ h.2 f (List.mem_of_mem_drop hf)⟩
  rw [List.length_drop]
  omega

/-- A macro that a name stands for is as described. -/
theorem Tidy.of_resolve {s : Scope} (h : s.Tidy D) {name : String} {level : Nat}
    (hr : s.resolve name = some (.routine level)) : D name := by
  obtain ⟨f, hf, hname⟩ := exists_mem_macros hr
  exact (h.2 f (List.mem_of_getElem? hf) name hname).1

end Scope

/-! ### Scripts that keep frames in order -/

section

variable {Task : Type → Type} {W : {α : Type} → Task α → Scope → Prop}

namespace Script

/-- Whether a script may give a value and a scope: what a look decides in the scope that it finds,
and anything else in a scope with as many frames. -/
def MayGive : {α : Type} → Script Task α → Scope → α → Scope → Prop
  | _, .look f, s, x, s' => f s = .ok x ∧ s' = s
  | _, _, s, _, s' => s'.length = s.length

/-- Whether a script in a scope binds macros as described only, begins new frames only that are in
order, leaves only frames that lie in another one, and names tasks as described only. -/
def Orderly (D : String → Prop) (W : {α : Type} → Task α → Scope → Prop) :
    {α : Type} → Script Task α → Scope → Prop
  | _, .look _, _ => True
  | _, .bind first next, s =>
    first.Orderly D W s ∧ ∀ x s', first.MayGive s x s' → s'.Tidy D → (next x).Orderly D W s'
  | _, .set _ _, _ => True
  | _, .bindMacro name, _ => D name
  | _, .inFrame f body, s => f.Tidy D ∧ body.Orderly D W (f :: s)
  | _, .outside n body, s => n < s.length ∧ body.Orderly D W (s.drop n)
  | _, .orIfUnknown body _, s => body.Orderly D W s
  | _, .task _ t, s => W t s

/-- Steps in a row are orderly if the first is, and the next one wherever the first leads. -/
@[simp] theorem orderly_bind {α β : Type} {first : Script Task α} {next : α → Script Task β}
    {s : Scope} :
    (first >>= next).Orderly D W s ↔
      first.Orderly D W s ∧ ∀ x s', first.MayGive s x s' → s'.Tidy D → (next x).Orderly D W s' :=
  Iff.rfl

/-- A value is orderly. -/
@[simp] theorem orderly_pure {α : Type} {x : α} {s : Scope} :
    (pure x : Script Task α).Orderly D W s := trivial

/-- A result is orderly. -/
@[simp] theorem orderly_ofExcept {α : Type} {r : Except Error α} {s : Scope} :
    (ofExcept r : Script Task α).Orderly D W s := trivial

/-- A task is orderly where it is allowed. -/
@[simp] theorem orderly_task {α : Type} {d : Nat} {t : Task α} {s : Scope} :
    (task d t).Orderly D W s ↔ W t s := Iff.rfl

/-- A step is orderly whether or not what is unknown is made up for. -/
@[simp] theorem orderly_orIfUnknown {α : Type} {body : Script Task α} {x : α} {s : Scope} :
    (body.orIfUnknown x).Orderly D W s ↔ body.Orderly D W s := Iff.rfl

/-- Looking at the scope is orderly. -/
@[simp] theorem orderly_look {α : Type} {f : Scope → Except Error α} {s : Scope} :
    (look f : Script Task α).Orderly D W s := trivial

/-- Writing a variable is orderly. -/
@[simp] theorem orderly_set {name : String} {v : Value} {s : Scope} :
    (set name v : Script Task Unit).Orderly D W s := trivial

/-- A choice is orderly if the chosen side is. -/
@[simp] theorem orderly_ite {α : Type} {c : Prop} [Decidable c] {a b : Script Task α} {s : Scope} :
    (if c then a else b).Orderly D W s ↔ if c then a.Orderly D W s else b.Orderly D W s := by
  split <;> rfl

private theorem Runs.mayGive {code : Code Task} {α : Type} {a : Script Task α} {s s' : Scope}
    {r : Except Error α} {visits : List (Visit Task)} (h : a.Runs code s r s' visits) {x : α}
    (hr : r = .ok x) (hlength : s'.length = s.length) : a.MayGive s x s' := by
  cases h with
  | look f s => exact ⟨hr, rfl⟩
  | _ => exact hlength

/-- A script that keeps frames in order leads to a scope with as many frames, all of them in order,
and begins only tasks as described. -/
theorem Runs.tidy {code : Code Task}
    (hcode : ∀ {α : Type} (d : Nat) (t : Task α) (s : Scope), W t s → s.Tidy D →
      (code.script d t).Orderly D W s)
    {α : Type} {a : Script Task α} {s s' : Scope} {r : Except Error α} {visits : List (Visit Task)}
    (h : a.Runs code s r s' visits) (ha : a.Orderly D W s) (hs : s.Tidy D) :
    s'.Tidy D ∧ s'.length = s.length ∧ ∀ v ∈ visits, W v.task v.scope := by
  induction h with
  | look f s => exact ⟨hs, rfl, by simp⟩
  | next hfirst _ ihfirst ihnext =>
    obtain ⟨hs₁, hlength₁, hbefore⟩ := ihfirst ha.1 hs
    have hnext := ha.2 _ _ (hfirst.mayGive rfl hlength₁) hs₁
    obtain ⟨hs₂, hlength₂, hafter⟩ := ihnext hnext hs₁
    refine ⟨hs₂, hlength₂.trans hlength₁, fun v hv ↦ ?_⟩
    exact (List.mem_append.mp hv).elim (hbefore v) (hafter v)
  | failed _ ihfirst => exact ihfirst ha.1 hs
  | set name v s => exact ⟨hs.set name v, Scope.length_set s name v, by simp⟩
  | bindMacro name s => exact ⟨hs.bindMacro ha, Scope.length_bindMacro s name, by simp⟩
  | @inFrame α f body s s₁ r visits _ ih =>
    obtain ⟨hs₁, hlength, hvisits⟩ := ih ha.2 (hs.cons ha.1)
    have htail : s₁.tail.length = s.length := by
      rw [List.length_tail, hlength, List.length_cons, Nat.add_sub_cancel]
    refine ⟨⟨htail ▸ hs.1, fun g hg ↦ hs₁.2 g (List.mem_of_mem_tail hg)⟩, htail, hvisits⟩
  | @outside α n body s s₁ r visits _ ih =>
    obtain ⟨hs₁, hlength, hvisits⟩ := ih ha.2 (hs.drop ha.1)
    have hall : (s.take n ++ s₁).length = s.length := by
      rw [List.length_append, hlength, ← List.length_append, List.take_append_drop]
    refine ⟨⟨hall ▸ hs.1, fun g hg ↦ ?_⟩, hall, hvisits⟩
    rcases List.mem_append.mp hg with hg | hg
    · exact hs.2 g (List.mem_of_mem_take hg)
    · exact hs₁.2 g hg
  | orIfUnknown _ ih => exact ih ha hs
  | task _ ih =>
    obtain ⟨hs₁, hlength, hvisits⟩ := ih (hcode _ _ _ ha hs) hs
    refine ⟨hs₁, hlength, fun v hv ↦ ?_⟩
    rcases List.mem_cons.mp hv with rfl | hv
    · exact ha
    · exact hvisits v hv

end Script

/-- Whether all frames at a moment are in order, and the one of the context is the last one of the
chain. -/
structure Moment.InOrder (D : String → Prop) (k : Moment) : Prop where
  /-- The frames of the chain are in order. -/
  scope : k.scope.Tidy D
  /-- The other frames are in order. -/
  aside : ∀ f ∈ k.aside, f.Tidy D
  /-- All frames of the chain but the last one have come up in front of others. -/
  origins : k.origins = List.replicate (k.scope.length - 1) .child ++ [.root]

namespace Moment

variable {k : Moment}

/-- Another tidy scope of the same length keeps the order. -/
theorem InOrder.withScope (h : k.InOrder D) {s : Scope} (hs : s.Tidy D)
    (hlength : s.length = k.scope.length) : (k.withScope s).InOrder D :=
  ⟨hs, h.aside, by rw [Moment.withScope, hlength, h.origins]⟩

/-- Entering a tidy frame keeps the order. -/
theorem InOrder.push (h : k.InOrder D) {f : Frame} (hf : f.Tidy D) : (k.push f).InOrder D := by
  refine ⟨h.scope.cons hf, h.aside, ?_⟩
  have hlength := h.scope.1
  rw [Moment.push, h.origins, List.length_cons, Nat.add_sub_cancel, ← List.cons_append,
    ← List.replicate_succ, Nat.sub_add_cancel hlength]

/-- Leaving frames keeps the order as long as one is left. -/
theorem InOrder.leave (h : k.InOrder D) {n : Nat} (hn : n < k.scope.length) :
    (k.leave n).InOrder D := by
  refine ⟨h.scope.drop hn, fun f hf ↦ ?_, ?_⟩
  · rcases List.mem_append.mp hf with hf | hf
    · exact h.scope.2 f (List.mem_of_mem_take hf)
    · exact h.aside f hf
  · have hlength : n ≤ (List.replicate (k.scope.length - 1) Origin.child).length := by
      rw [List.length_replicate]
      omega
    rw [Moment.leave, h.origins, List.drop_append_of_le_length hlength, List.drop_replicate,
      List.length_drop, Nat.sub_right_comm]

end Moment

/-- A script that keeps frames in order passes only through moments at which they are. -/
theorem Script.Reaches.inOrder {code : Code Task}
    (hcode : ∀ {α : Type} (d : Nat) (t : Task α) (s : Scope), W t s → s.Tidy D →
      (code.script d t).Orderly D W s)
    {α : Type} {a : Script Task α} {k k' : Moment} (h : a.Reaches code k k')
    (ha : a.Orderly D W k.scope) (hk : k.InOrder D) : k'.InOrder D := by
  induction h with
  | start => exact hk
  | done hrun =>
    obtain ⟨hs, hlength, -⟩ := hrun.tidy hcode ha hk.scope
    exact hk.withScope hs hlength
  | first _ ih => exact ih ha.1 hk
  | next hfirst _ ih =>
    obtain ⟨hs, hlength, -⟩ := hfirst.tidy hcode ha.1 hk.scope
    exact ih (ha.2 _ _ (hfirst.mayGive rfl hlength) hs) (hk.withScope hs hlength)
  | inFrame _ ih => exact ih ha.2 (hk.push ha.1)
  | outside _ ih => exact ih ha.2 (hk.leave ha.1)
  | orIfUnknown _ ih => exact ih ha hk
  | task _ ih => exact ih (hcode _ _ _ ha hk.scope) hk

end

/-! ### The tasks of a rendering -/

namespace Task

variable {env : Environment} {macros : List (String × MacroDecl)} {d : Nat}

/-- Whether a macro is declared. -/
def Declared (macros : List (String × MacroDecl)) (name : String) : Prop :=
  (Entries.get? name macros).isSome

/-- Whether a task, if it calls a macro, calls one that is declared, in a frame that there is. -/
@[simp] def Callable (macros : List (String × MacroDecl)) : {α : Type} → Task α → Scope → Prop
  | _, .invoke name _ level, s => Declared macros name ∧ level < s.length
  | _, _, _ => True

private theorem orderly_bindScript (name : String) (s : Scope) :
    (bindScript macros name).Orderly (Declared macros) (Callable macros) s := by
  rw [bindScript]
  split
  · next h => exact ⟨h, fun _ _ _ _ ↦ trivial⟩
  · trivial

private theorem orderly_resolve_bind {α : Type} {name : String}
    {next : Option Binding → Script Task α} {s : Scope} (hs : s.Tidy (Declared macros))
    (hnone : (next none).Orderly (Declared macros) (Callable macros) s)
    (hvariable : ∀ v,
      (next (some (.variable v))).Orderly (Declared macros) (Callable macros) s)
    (hroutine : ∀ level, Declared macros name ∧ level < s.length →
      (next (some (.routine level))).Orderly (Declared macros) (Callable macros) s) :
    (Script.look (fun s ↦ .ok (s.resolve name)) >>= next).Orderly (Declared macros)
      (Callable macros) s := by
  refine ⟨trivial, ?_⟩
  rintro binding s₁ ⟨hbinding, rfl⟩ -
  cases hbinding
  rcases hr : s₁.resolve name with _ | v | level
  · exact hnone
  · exact hvariable v
  · exact hroutine level ⟨hs.of_resolve hr, Scope.resolve_lt hr⟩

private theorem orderly_evalScript (e : Expr) (s : Scope) :
    (evalScript d e).Orderly (Declared macros) (Callable macros) s := by
  cases e with
  | call callee args =>
    cases callee with
    | path root names =>
      refine ⟨trivial, fun vs s₁ _ _ ↦ ?_⟩
      cases names.getLast? <;> simp
    | _ => simp [evalScript]
  | binary op left right => cases op <;> simp [evalScript]
  | _ => simp [evalScript]

private theorem orderly_renderScript (n : Node) {s : Scope} (hs : s.Tidy (Declared macros)) :
    (renderScript env macros d n).Orderly (Declared macros) (Callable macros) s := by
  cases n with
  | interpolation p fs =>
    rw [renderScript]
    cases p.calledName? <;> simp [orderly_bindScript]
  | condition test body others otherwise =>
    refine ⟨trivial, fun v s₁ _ _ ↦ ?_⟩
    dsimp only
    split
    · trivial
    · refine ⟨trivial, fun o s₂ _ _ ↦ ?_⟩
      cases o with
      | some out => trivial
      | none => cases otherwise <;> trivial
  | outermost body =>
    refine ⟨trivial, ?_⟩
    rintro x s₁ ⟨hx, rfl⟩ hs₁
    cases hx
    exact ⟨Nat.sub_lt hs.1 Nat.zero_lt_one, trivial⟩
  | _ => simp [renderScript]

private theorem orderly_script {α : Type} (t : Task α) {s : Scope} (h : t.Callable macros s)
    (hs : s.Tidy (Declared macros)) :
    (t.script env macros d).Orderly (Declared macros) (Callable macros) s := by
  cases t with
  | eval e => exact orderly_evalScript e s
  | evalAll es => cases es <;> simp [script]
  | evalEntries table es => cases es <;> simp [script]
  | valueOf name =>
    apply orderly_resolve_bind hs
    · simp [orderly_bindScript]
    · exact fun v ↦ trivial
    · exact fun level hlevel ↦ hlevel
  | call name args =>
    apply orderly_resolve_bind hs
    · simp [orderly_bindScript]
    · exact fun v ↦ trivial
    · exact fun level hlevel ↦ hlevel
  | invoke name args level =>
    rw [script]
    cases Entries.get? name macros with
    | none => trivial
    | some m =>
      by_cases hd : env.callLimit ≤ d
      · simp [hd]
      · simp only [hd, if_false]
        refine ⟨h.2, Frame.tidy_of_macros_eq_nil rfl, ?_⟩
        simp
  | bindAll params args =>
    cases params with
    | nil => simp [script]
    | cons p ps =>
      obtain ⟨name, default⟩ := p
      cases args <;> cases default <;> simp [script]
  | evalPipeline p => simp [script, pipelineScript]
  | runFilters v steps fs =>
    cases steps with
    | nil => simp [script]
    | cons step steps => cases fs <;> simp [script]
  | runNodeFilters v names =>
    cases names with
    | nil => simp [script]
    | cons name names =>
      rw [script]
      cases filter env name <;> simp
  | render n => exact orderly_renderScript n hs
  | renderAll ns => cases ns <;> simp [script]
  | renderFirst branches => cases branches <;> simp [script]
  | renderRuns valueName keyName body i n pairs =>
    cases pairs with
    | nil => simp [script]
    | cons pair pairs =>
      have hf : (loopFrame valueName keyName pair i n).macros = [] := by
        cases keyName <;> rfl
      exact ⟨⟨Frame.tidy_of_macros_eq_nil hf, trivial⟩, by simp⟩

/-! ### Calls -/

/-- Behind the binding of a declared macro, the next script runs. -/
theorem runs_bindScript_bind {α : Type} {next : Bool → Script Task α} {name : String}
    {s s' : Scope} {r : Except Error α} {visits : List (Visit Task)}
    (hname : Declared macros name)
    (h : (bindScript macros name >>= next).Runs (code env macros) s r s' visits) :
    (next true).Runs (code env macros) (s.bindMacro name) r s' visits := by
  have hisSome : (Entries.get? name macros).isSome := hname
  rw [bindScript, if_pos hisSome] at h
  obtain ⟨r₁, s₁, before, hbind, hrest⟩ := h.of_bind
  obtain ⟨r₂, s₂, first, hfirst, htrue⟩ := hbind.of_bind
  obtain ⟨rfl, rfl, rfl⟩ := hfirst.of_bindMacro
  rcases htrue with ⟨e, he, -⟩ | ⟨_, after, -, htrue, rfl⟩
  · cases he
  · obtain ⟨rfl, rfl, rfl⟩ := htrue.of_look
    rcases hrest with ⟨e, he, -⟩ | ⟨x, after, hx, hnext, rfl⟩
    · cases he
    · cases hx
      exact hnext

/-- The call of a name that stands for a macro is the call of the macro. -/
theorem runs_call_routine {name : String} {args : List Value} {level : Nat} {s s' : Scope}
    {r : Except Error Value} {visits : List (Visit Task)}
    (hr : s.resolve name = some (.routine level))
    (h : (Script.task d (.call name args)).Runs (code env macros) s r s' visits) :
    ∃ rest, (Script.task d (.invoke name args level)).Runs (code env macros) s r s' rest ∧
      visits = ⟨d, .call name args, s⟩ :: rest := by
  obtain ⟨rest, hcode, rfl⟩ := h.of_task
  have hbound := hcode.of_look_bind rfl
  rw [hr] at hbound
  exact ⟨rest, hbound, rfl⟩

/-- The call of a declared name that stands for nothing begins once more, with the macro bound. -/
theorem runs_call_none {name : String} {args : List Value} {s s' : Scope}
    {r : Except Error Value} {visits : List (Visit Task)} (hname : Declared macros name)
    (hr : s.resolve name = none)
    (h : (Script.task d (.call name args)).Runs (code env macros) s r s' visits) :
    ∃ rest, (Script.task d (.call name args)).Runs (code env macros) (s.bindMacro name) r s' rest ∧
      visits = ⟨d, .call name args, s⟩ :: rest := by
  obtain ⟨rest, hcode, rfl⟩ := h.of_task
  have hnone := hcode.of_look_bind rfl
  rw [hr] at hnone
  have hagain := runs_bindScript_bind hname hnone
  rw [if_pos rfl] at hagain
  exact ⟨rest, hagain, rfl⟩

end Task

/-! ### Renderings -/

/-- The moments that a rendering passes through. The only frame at its beginning is the one of the
context. -/
def Template.Reaches (t : Template) (env : Environment) (context : Datum) (k : Moment) : Prop :=
  ∃ s, Scope.ofDatum context = .ok s ∧
    (Script.task 0 (.renderAll t.nodes)).Reaches (Task.code env t.macroTable) ⟨s, [.root], []⟩ k

/-- Whether the frames at a moment of a rendering, and the macros that they bind, are as they should
be. -/
structure Moment.WellFormed (t : Template) (env : Environment) (k : Moment) : Prop where
  /-- No frame binds a name both to a macro and to a variable. -/
  unambiguous : ∀ f ∈ k.frames, ∀ name ∈ f.macros, Entries.get? name f.vars = none
  /-- The macros that are bound are declared. -/
  declared : ∀ f ∈ k.frames, ∀ name ∈ f.macros, (Entries.get? name t.macroTable).isSome
  /-- A name that is said to be bound as a macro is found as one, in a frame that binds it. -/
  found : ∀ d name s,
    ((Task.setting env t.macroTable d).bindMacro name).run.run k.scope = (.ok true, s) →
      ∃ level f, s.resolve name = some (.routine level) ∧ s[level]? = some f ∧ name ∈ f.macros
  /-- The call of a name that stood for nothing and is said to be bound begins once more, and then
  the macro is called. -/
  called : ∀ d name s args r s' visits,
    ((Task.setting env t.macroTable d).bindMacro name).run.run k.scope = (.ok true, s) →
      k.scope.resolve name = none →
      (Script.task d (.call name args)).Runs (Task.code env t.macroTable) k.scope r s' visits →
      ∃ level rest,
        (Script.task d (.invoke name args level)).Runs (Task.code env t.macroTable) s r s' rest ∧
          visits = ⟨d, .call name args, k.scope⟩ :: ⟨d, .call name args, s⟩ :: rest
  /-- Each frame of the chain has come about in some way. -/
  length_origins : k.origins.length = k.scope.length
  /-- The frame of the context is the last one of the chain, and the only one of its kind. -/
  origins : ∃ n, k.origins = List.replicate n .child ++ [.root]

/-- A moment at which all frames are in order, and bind declared macros only, is well-formed. -/
theorem Moment.InOrder.wellFormed {t : Template} {k : Moment}
    (h : k.InOrder (Task.Declared t.macroTable)) (env : Environment) : k.WellFormed t env := by
  have hframes : ∀ f ∈ k.frames, f.Tidy (Task.Declared t.macroTable) := by
    intro f hf
    exact (List.mem_append.mp hf).elim (h.scope.2 f) (h.aside f)
  have hscope : k.scope ≠ [] := List.ne_nil_of_length_pos h.scope.1
  have hbind {d : Nat} {name : String} {s : Scope}
      (hs : ((Task.setting env t.macroTable d).bindMacro name).run.run k.scope = (.ok true, s)) :
      Task.Declared t.macroTable name ∧ s = k.scope.bindMacro name := by
    rw [Task.run_bindMacro] at hs
    split at hs
    · next hname =>
      cases hs
      exact ⟨hname, rfl⟩
    · cases hs
  constructor
  case unambiguous => exact fun f hf name hname ↦ (hframes f hf name hname).2
  case declared => exact fun f hf name hname ↦ (hframes f hf name hname).1
  case found =>
    intro d name s hs
    obtain ⟨-, rfl⟩ := hbind hs
    obtain ⟨level, hlevel⟩ := Scope.exists_resolve_bindMacro name hscope
    obtain ⟨f, hf, hname⟩ := Scope.exists_mem_macros hlevel
    exact ⟨level, f, hlevel, hf, hname⟩
  case called =>
    intro d name s args r s' visits hs hnone hrun
    obtain ⟨hname, rfl⟩ := hbind hs
    obtain ⟨again, hagain, rfl⟩ := Task.runs_call_none hname hnone hrun
    have hlevel := Scope.resolve_bindMacro hscope hnone
    obtain ⟨rest, hrest, rfl⟩ := Task.runs_call_routine hlevel hagain
    exact ⟨0, rest, hrest, rfl⟩
  case length_origins =>
    rw [h.origins, List.length_append, List.length_replicate, List.length_singleton]
    exact Nat.sub_add_cancel h.scope.1
  case origins => exact ⟨k.scope.length - 1, h.origins⟩

private theorem Scope.tidy_of_ofDatum {context : Datum} {s : Scope}
    (h : Scope.ofDatum context = .ok s) : s.Tidy D := by
  obtain ⟨vars, rfl⟩ := Scope.eq_of_ofDatum h
  exact ⟨Nat.zero_lt_one, List.forall_mem_singleton.mpr (Frame.tidy_of_macros_eq_nil rfl)⟩

/-- Every moment of a rendering is well-formed. Each of its tasks begins at one of them, and each
macro that is called is declared. -/
theorem Template.wellFormed_of_reaches (t : Template) (env : Environment) (context : Datum) :
    (∀ k, t.Reaches env context k → k.WellFormed t env) ∧
      ∀ r visits, t.Renders env context r visits →
        (∀ v ∈ visits, ∃ k, t.Reaches env context k ∧ k.scope = v.scope) ∧
          ∀ d name args level s,
            (⟨d, .invoke name args level, s⟩ : Visit Task) ∈ visits →
              (Entries.get? name t.macroTable).isSome := by
  constructor
  · rintro k ⟨s, hstart, hreach⟩
    obtain ⟨vars, rfl⟩ := Scope.eq_of_ofDatum hstart
    have hbegin : Moment.InOrder (Task.Declared t.macroTable) ⟨[⟨vars, []⟩], [.root], []⟩ :=
      ⟨Scope.tidy_of_ofDatum hstart, List.forall_mem_nil _, rfl⟩
    have hk : k.InOrder (Task.Declared t.macroTable) :=
      hreach.inOrder (W := Task.Callable t.macroTable) (fun d t s ↦ Task.orderly_script t) trivial
        hbegin
    exact hk.wellFormed env
  · intro r visits h
    cases h with
    | failed hstart => simp
    | @run s s' r visits hstart hrun =>
      obtain ⟨-, -, hvisits⟩ := hrun.tidy (W := Task.Callable t.macroTable)
        (fun d t s ↦ Task.orderly_script t) trivial (Scope.tidy_of_ofDatum hstart)
      constructor
      · intro v hv
        obtain ⟨k, hk, hscope⟩ := hrun.exists_reaches (k := ⟨s, [.root], []⟩) rfl hv
        exact ⟨k, ⟨s, hstart, hk⟩, hscope⟩
      · intro d name args level s hv
        exact (hvisits _ hv).1

end Stencil
