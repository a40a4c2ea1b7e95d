import Stencil.Action

/-!
# Scripts and their runs

A script is a course of steps in a scope in which further tasks are named and not carried out. What
a task stands for is a script again, so that a run is a finite tree; a script whose tasks never come
to an end has no run. Contracts of tasks are what runs are reasoned about with: every script keeps
its contract if it does so by the contracts of the tasks that it names.
-/

namespace Stencil

/-- The steps of an action, with the depth at which each further task is done. -/
inductive Script (Task : Type → Type) : Type → Type 1 where
  /-- The result that the scope decides. -/
  | look {α : Type} (f : Scope → Except Error α) : Script Task α
  /-- One script and, if it succeeds, another one. -/
  | bind {α β : Type} (first : Script Task α) (next : α → Script Task β) : Script Task β
  /-- Binds a variable in the innermost frame. -/
  | set (name : String) (v : Value) : Script Task Unit
  /-- Binds a macro in the innermost frame. -/
  | bindMacro (name : String) : Script Task Unit
  /-- Steps in a new innermost frame. -/
  | inFrame {α : Type} (f : Frame) (body : Script Task α) : Script Task α
  /-- Steps without the innermost frames. -/
  | outside {α : Type} (n : Nat) (body : Script Task α) : Script Task α
  /-- Steps with a value in place of the failure that a called name is unknown. -/
  | orIfUnknown {α : Type} (body : Script Task α) (x : α) : Script Task α
  /-- A task. -/
  | task {α : Type} (depth : Nat) (t : Task α) : Script Task α

namespace Script

variable {Task : Type → Type}

/-- The script that is decided by a result. -/
def ofExcept {α : Type} (r : Except Error α) : Script Task α := .look fun _ ↦ r

instance : Monad (Script Task) where
  pure x := .ofExcept (.ok x)
  bind := .bind

end Script

/-! ### Runs -/

/-- What tasks stand for. -/
structure Code (Task : Type → Type) where
  /-- The script of a task at a depth. -/
  script : {α : Type} → Nat → Task α → Script Task α

/-- A task that is begun. -/
structure Visit (Task : Type → Type) where
  /-- The type of its result. -/
  {α : Type}
  /-- The depth at which it is done. -/
  depth : Nat
  /-- The task. -/
  task : Task α
  /-- The scope that it begins in. -/
  scope : Scope

/-- The runs of a script: its scope, the result, the scope afterwards and the tasks that are begun
on the way. -/
inductive Script.Runs {Task : Type → Type} (code : Code Task) :
    {α : Type} → Script Task α → Scope → Except Error α → Scope → List (Visit Task) → Prop where
  /-- Looking leaves the scope alone. -/
  | look {α : Type} (f : Scope → Except Error α) (s : Scope) : Runs code (.look f) s (f s) s []
  /-- The next script runs behind a success. -/
  | next {α β : Type} {first : Script Task α} {next : α → Script Task β} {s s₁ s₂ : Scope} {x : α}
      {r : Except Error β} {before after : List (Visit Task)}
      (hfirst : Runs code first s (.ok x) s₁ before) (hnext : Runs code (next x) s₁ r s₂ after) :
      Runs code (.bind first next) s r s₂ (before ++ after)
  /-- A failure ends both scripts. -/
  | failed {α β : Type} {first : Script Task α} {next : α → Script Task β} {s s₁ : Scope}
      {e : Error} {before : List (Visit Task)} (hfirst : Runs code first s (.error e) s₁ before) :
      Runs code (.bind first next) s (.error e) s₁ before
  /-- A variable is bound. -/
  | set (name : String) (v : Value) (s : Scope) :
      Runs code (.set name v) s (.ok ()) (s.set name v) []
  /-- A macro is bound. -/
  | bindMacro (name : String) (s : Scope) :
      Runs code (.bindMacro name) s (.ok ()) (s.bindMacro name) []
  /-- A new frame is given up afterwards. -/
  | inFrame {α : Type} {f : Frame} {body : Script Task α} {s s₁ : Scope} {r : Except Error α}
      {visits : List (Visit Task)} (hbody : Runs code body (f :: s) r s₁ visits) :
      Runs code (.inFrame f body) s r s₁.tail visits
  /-- Frames that are left are put back afterwards. -/
  | outside {α : Type} {n : Nat} {body : Script Task α} {s s₁ : Scope} {r : Except Error α}
      {visits : List (Visit Task)} (hbody : Runs code body (s.drop n) r s₁ visits) :
      Runs code (.outside n body) s r (s.take n ++ s₁) visits
  /-- The failure that a called name is unknown is made up for. -/
  | orIfUnknown {α : Type} {body : Script Task α} {x : α} {s s₁ : Scope} {r : Except Error α}
      {visits : List (Visit Task)} (hbody : Runs code body s r s₁ visits) :
      Runs code (.orIfUnknown body x) s (Action.recovered r x) s₁ visits
  /-- A task is carried out. -/
  | task {α : Type} {depth : Nat} {t : Task α} {s s₁ : Scope} {r : Except Error α}
      {visits : List (Visit Task)} (hcode : Runs code (code.script depth t) s r s₁ visits) :
      Runs code (.task depth t) s r s₁ (⟨depth, t, s⟩ :: visits)

section

variable {Task : Type → Type} {code : Code Task} {s s' : Scope} {visits : List (Visit Task)}

/-- A look leaves the scope alone, and no task is begun. -/
theorem Script.Runs.of_look {α : Type} {f : Scope → Except Error α} {r : Except Error α}
    (h : (Script.look f).Runs code s r s' visits) : r = f s ∧ s' = s ∧ visits = [] := by
  cases h with
  | look f s => exact ⟨rfl, rfl, rfl⟩

/-- A macro is bound, and no task is begun. -/
theorem Script.Runs.of_bindMacro {name : String} {r : Except Error Unit}
    (h : (Script.bindMacro name).Runs code s r s' visits) :
    r = .ok () ∧ s' = s.bindMacro name ∧ visits = [] := by
  cases h with
  | bindMacro name s => exact ⟨rfl, rfl, rfl⟩

/-- The first script has failed, or the next one runs behind it. -/
theorem Script.Runs.of_bind {α β : Type} {first : Script Task α} {next : α → Script Task β}
    {r : Except Error β} (h : (first >>= next).Runs code s r s' visits) :
    ∃ r₁ s₁ before, first.Runs code s r₁ s₁ before ∧
      ((∃ e, r₁ = .error e ∧ r = .error e ∧ s' = s₁ ∧ visits = before) ∨
        ∃ x after, r₁ = .ok x ∧ (next x).Runs code s₁ r s' after ∧ visits = before ++ after) := by
  cases h with
  | next hfirst hnext => exact ⟨_, _, _, hfirst, .inr ⟨_, _, rfl, hnext, rfl⟩⟩
  | failed hfirst => exact ⟨_, _, _, hfirst, .inl ⟨_, rfl, rfl, rfl, rfl⟩⟩

/-- Behind a look that decides on a value, the next script runs. -/
theorem Script.Runs.of_look_bind {α β : Type} {f : Scope → Except Error α}
    {next : α → Script Task β} {r : Except Error β}
    (h : (Script.look f >>= next).Runs code s r s' visits) {x : α} (hx : f s = .ok x) :
    (next x).Runs code s r s' visits := by
  obtain ⟨r₁, s₁, before, hfirst, hrest⟩ := h.of_bind
  obtain ⟨rfl, rfl, rfl⟩ := hfirst.of_look
  rw [hx] at hrest
  rcases hrest with ⟨e, he, -⟩ | ⟨y, after, hy, hnext, rfl⟩
  · cases he
  · cases hy
    exact hnext

/-- Behind the binding of a variable, the next script runs. -/
theorem Script.Runs.of_set_bind {α : Type} {name : String} {v : Value} {next : Unit → Script Task α}
    {r : Except Error α} (h : (.set name v >>= next : Script Task α).Runs code s r s' visits) :
    (next ()).Runs code (s.set name v) r s' visits := by
  obtain ⟨r₁, s₁, before, hset, hrest⟩ := h.of_bind
  cases hset
  rcases hrest with ⟨e, he, _⟩ | ⟨_, after, _, hnext, rfl⟩
  · cases he
  · exact hnext

/-- What is made up for has run. -/
theorem Script.Runs.of_orIfUnknown {α : Type} {body : Script Task α} {x : α} {r : Except Error α}
    (h : (body.orIfUnknown x).Runs code s r s' visits) :
    ∃ r₁, body.Runs code s r₁ s' visits ∧ r = Action.recovered r₁ x := by
  cases h with
  | orIfUnknown hbody => exact ⟨_, hbody, rfl⟩

/-- A task is begun, and its script runs. -/
theorem Script.Runs.of_task {α : Type} {d : Nat} {t : Task α} {r : Except Error α}
    (h : (Script.task d t).Runs code s r s' visits) :
    ∃ rest, (code.script d t).Runs code s r s' rest ∧ visits = ⟨d, t, s⟩ :: rest := by
  cases h with
  | task hcode => exact ⟨_, hcode, rfl⟩

end

/-! ### Contracts -/

/-- What holds of a result, by whether it is a success. -/
def onResult {α : Type} (ok : α → Scope → Prop) (error : Error → Scope → Prop) :
    Except Error α → Scope → Prop
  | .ok x => ok x
  | .error e => error e

/-- What holds of a success. -/
@[simp] theorem onResult_ok {α : Type} {ok : α → Scope → Prop} {error : Error → Scope → Prop}
    {x : α} {s : Scope} : onResult ok error (.ok x) s ↔ ok x s := Iff.rfl

/-- What holds of a failure. -/
@[simp] theorem onResult_error {α : Type} {ok : α → Scope → Prop} {error : Error → Scope → Prop}
    {e : Error} {s : Scope} : onResult ok error (.error e) s ↔ error e s := Iff.rfl

/-- What holds of a result holds of whatever success or failure it is. -/
theorem onResult_iff {α : Type} {ok : α → Scope → Prop} {error : Error → Scope → Prop}
    {r : Except Error α} {s : Scope} :
    onResult ok error r s ↔ (∀ x, r = .ok x → ok x s) ∧ ∀ e, r = .error e → error e s := by
  cases r <;> simp

/-- What holds of all results holds of the successes and of the failures. -/
@[simp] theorem forall_onResult {α : Type} {P : Except Error α → Scope → Prop}
    {ok : α → Scope → Prop} {error : Error → Scope → Prop} :
    (∀ r s, P r s → onResult ok error r s) ↔
      (∀ x s, P (.ok x) s → ok x s) ∧ ∀ e s, P (.error e) s → error e s := by
  constructor
  · intro h
    exact ⟨fun x s hx ↦ h _ s hx, fun e s he ↦ h _ s he⟩
  · rintro ⟨hok, herror⟩ (e | x) s h
    · exact herror e s h
    · exact hok x s h

/-- What holds of a failure that is made up for holds of the value in its place. -/
@[simp] theorem onResult_recovered {α : Type} {ok : α → Scope → Prop}
    {error : Error → Scope → Prop} {r : Except Error α} {x : α} {s : Scope} :
    onResult ok error (Action.recovered r x) s ↔
      onResult ok (fun e s ↦ if e.isUndefinedVariable then ok x s else error e s) r s := by
  cases r with
  | ok y => rfl
  | error e =>
    rw [Action.recovered]
    by_cases he : e.isUndefinedVariable <;> simp [he]

/-- What tasks ask for when they are begun, and what holds of each when it is done. -/
structure Contract (Task : Type → Type) where
  /-- What a task asks for. -/
  pre : {α : Type} → Nat → Task α → Scope → Prop
  /-- What a task leads to. -/
  post : {α : Type} → Nat → Task α → Scope → Except Error α → Scope → Prop

namespace Contract

variable {Task : Type → Type}

/-- Both contracts at once. -/
def and (C D : Contract Task) : Contract Task where
  pre d t s := C.pre d t s ∧ D.pre d t s
  post d t s r s' := C.post d t s r s' ∧ D.post d t s r s'

/-- The contract for tasks of less than a measure. -/
def below {M : Type} [WellFoundedRelation M] (C : Contract Task)
    (measure : {α : Type} → Nat → Task α → Scope → M) (m : M) : Contract Task where
  pre d t s := C.pre d t s ∧ WellFoundedRelation.rel (measure d t s) m
  post := C.post

end Contract

namespace Script

variable {Task : Type → Type}

/-- Whether, by the contracts of its tasks, a script in a scope leads to a result and a scope as
described. -/
def Meets (C : Contract Task) :
    {α : Type} → Script Task α → (Except Error α → Scope → Prop) → Scope → Prop
  | _, .look f, Q, s => Q (f s) s
  | _, .bind first next, Q, s =>
    first.Meets C (onResult (fun x ↦ (next x).Meets C Q) fun e ↦ Q (.error e)) s
  | _, .set name v, Q, s => Q (.ok ()) (s.set name v)
  | _, .bindMacro name, Q, s => Q (.ok ()) (s.bindMacro name)
  | _, .inFrame f body, Q, s => body.Meets C (fun r s' ↦ Q r s'.tail) (f :: s)
  | _, .outside n body, Q, s => body.Meets C (fun r s' ↦ Q r (s.take n ++ s')) (s.drop n)
  | _, .orIfUnknown body x, Q, s => body.Meets C (fun r s' ↦ Q (Action.recovered r x) s') s
  | _, .task d t, Q, s => C.pre d t s ∧ ∀ r s', C.post d t s r s' → Q r s'

/-- A look leads to what it decides. -/
@[simp] theorem meets_look {C : Contract Task} {α : Type} {f : Scope → Except Error α}
    {Q : Except Error α → Scope → Prop} {s : Scope} :
    (look f : Script Task α).Meets C Q s ↔ Q (f s) s := Iff.rfl

/-- What is decided already leaves the scope alone. -/
@[simp] theorem meets_ofExcept {C : Contract Task} {α : Type} {r : Except Error α}
    {Q : Except Error α → Scope → Prop} {s : Scope} :
    (ofExcept r : Script Task α).Meets C Q s ↔ Q r s := Iff.rfl

/-- A value leaves the scope alone. -/
@[simp] theorem meets_pure {C : Contract Task} {α : Type} {x : α}
    {Q : Except Error α → Scope → Prop} {s : Scope} :
    (pure x : Script Task α).Meets C Q s ↔ Q (.ok x) s := Iff.rfl

/-- The next script goes on with the value of the first one. -/
@[simp] theorem meets_bind {C : Contract Task} {α β : Type} {first : Script Task α}
    {next : α → Script Task β} {Q : Except Error β → Scope → Prop} {s : Scope} :
    (first >>= next).Meets C Q s ↔
      first.Meets C (onResult (fun x ↦ (next x).Meets C Q) fun e ↦ Q (.error e)) s := Iff.rfl

/-- A variable is bound. -/
@[simp] theorem meets_set {C : Contract Task} {name : String} {v : Value}
    {Q : Except Error Unit → Scope → Prop} {s : Scope} :
    (set name v : Script Task Unit).Meets C Q s ↔ Q (.ok ()) (s.set name v) := Iff.rfl

/-- A macro is bound. -/
@[simp] theorem meets_bindMacro {C : Contract Task} {name : String}
    {Q : Except Error Unit → Scope → Prop} {s : Scope} :
    (bindMacro name : Script Task Unit).Meets C Q s ↔ Q (.ok ()) (s.bindMacro name) := Iff.rfl

/-- A new frame is given up afterwards. -/
@[simp] theorem meets_inFrame {C : Contract Task} {α : Type} {f : Frame} {body : Script Task α}
    {Q : Except Error α → Scope → Prop} {s : Scope} :
    (inFrame f body).Meets C Q s ↔ body.Meets C (fun r s' ↦ Q r s'.tail) (f :: s) := Iff.rfl

/-- Frames that are left are put back afterwards. -/
@[simp] theorem meets_outside {C : Contract Task} {α : Type} {n : Nat} {body : Script Task α}
    {Q : Except Error α → Scope → Prop} {s : Scope} :
    (outside n body).Meets C Q s ↔
      body.Meets C (fun r s' ↦ Q r (s.take n ++ s')) (s.drop n) := Iff.rfl

/-- The failure that a called name is unknown is made up for. -/
@[simp] theorem meets_orIfUnknown {C : Contract Task} {α : Type} {body : Script Task α} {x : α}
    {Q : Except Error α → Scope → Prop} {s : Scope} :
    (body.orIfUnknown x).Meets C Q s ↔
      body.Meets C (fun r s' ↦ Q (Action.recovered r x) s') s := Iff.rfl

/-- A task is known by its contract alone. -/
@[simp] theorem meets_task {C : Contract Task} {α : Type} {d : Nat} {t : Task α}
    {Q : Except Error α → Scope → Prop} {s : Scope} :
    (task d t).Meets C Q s ↔ C.pre d t s ∧ ∀ r s', C.post d t s r s' → Q r s' := Iff.rfl

/-- A choice of scripts leads to what the chosen one leads to. -/
@[simp] theorem meets_ite {C : Contract Task} {α : Type} {c : Prop} [Decidable c]
    {a b : Script Task α} {Q : Except Error α → Scope → Prop} {s : Scope} :
    (if c then a else b).Meets C Q s ↔ if c then a.Meets C Q s else b.Meets C Q s := by
  split <;> rfl

/-- A script that leads to something leads to all that follows from it. -/
theorem Meets.mono {C : Contract Task} {α : Type} {a : Script Task α}
    {Q R : Except Error α → Scope → Prop} {s : Scope} (h : a.Meets C Q s)
    (hQR : ∀ r s', Q r s' → R r s') : a.Meets C R s := by
  induction a generalizing s with
  | look f => exact hQR _ _ h
  | bind first next ihfirst ihnext =>
    apply meets_bind.mpr
    apply ihfirst (meets_bind.mp h)
    intro r s' hr
    cases r with
    | ok x => exact ihnext x hr hQR
    | error e => exact hQR _ _ hr
  | set name v => exact hQR _ _ h
  | bindMacro name => exact hQR _ _ h
  | inFrame f body ih => exact ih h fun r s' ↦ hQR r s'.tail
  | outside n body ih => exact ih h fun r s' ↦ hQR r (s.take n ++ s')
  | orIfUnknown body x ih => exact ih h fun r s' ↦ hQR (Action.recovered r x) s'
  | task d t => exact ⟨h.1, fun r s' hr ↦ hQR r s' (h.2 r s' hr)⟩

/-- Contracts may be replaced by ones that ask for less and lead to more. -/
theorem Meets.of_contract {C D : Contract Task}
    (hpre : ∀ {β : Type} (d : Nat) (t : Task β) (s : Scope), C.pre d t s → D.pre d t s)
    (hpost : ∀ {β : Type} (d : Nat) (t : Task β) (s : Scope) (r : Except Error β) (s' : Scope),
      D.post d t s r s' → C.post d t s r s')
    {α : Type} {a : Script Task α} {Q : Except Error α → Scope → Prop} {s : Scope}
    (h : a.Meets C Q s) : a.Meets D Q s := by
  induction a generalizing s with
  | look f => exact h
  | bind first next ihfirst ihnext =>
    apply meets_bind.mpr
    apply (ihfirst (meets_bind.mp h)).mono
    rintro (e | x) s' hr
    · exact hr
    · exact ihnext x hr
  | set name v => exact h
  | bindMacro name => exact h
  | inFrame f body ih => exact ih h
  | outside n body ih => exact ih h
  | orIfUnknown body x ih => exact ih h
  | task d t => exact ⟨hpre d t s h.1, fun r s' hr ↦ h.2 r s' (hpost d t s r s' hr)⟩

/-- What holds by either of two contracts holds by both at once. -/
theorem Meets.and {C D : Contract Task} {α : Type} {a : Script Task α}
    {Q R : Except Error α → Scope → Prop} {s : Scope} (hC : a.Meets C Q s) (hD : a.Meets D R s) :
    a.Meets (C.and D) (fun r s' ↦ Q r s' ∧ R r s') s := by
  induction a generalizing s with
  | look f => exact ⟨hC, hD⟩
  | bind first next ihfirst ihnext =>
    apply meets_bind.mpr
    apply (ihfirst (meets_bind.mp hC) (meets_bind.mp hD)).mono
    rintro (e | x) s' ⟨hQ, hR⟩
    · exact ⟨hQ, hR⟩
    · exact ihnext x hQ hR
  | set name v => exact ⟨hC, hD⟩
  | bindMacro name => exact ⟨hC, hD⟩
  | inFrame f body ih => exact ih hC hD
  | outside n body ih => exact ih hC hD
  | orIfUnknown body x ih => exact ih hC hD
  | task d t => exact ⟨⟨hC.1, hD.1⟩, fun r s' h ↦ ⟨hC.2 r s' h.1, hD.2 r s' h.2⟩⟩

/-- What holds for each of some things holds for all of them at once. -/
theorem Meets.forall {ι : Type} [Nonempty ι] {C : Contract Task} {α : Type} {a : Script Task α}
    {Q : ι → Except Error α → Scope → Prop} {s : Scope} (h : ∀ i, a.Meets C (Q i) s) :
    a.Meets C (fun r s' ↦ ∀ i, Q i r s') s := by
  induction a generalizing s with
  | look f => exact h
  | bind first next ihfirst ihnext =>
    apply meets_bind.mpr
    apply (ihfirst fun i ↦ meets_bind.mp (h i)).mono
    rintro (e | x) s' hr
    · exact hr
    · exact ihnext x hr
  | set name v => exact h
  | bindMacro name => exact h
  | inFrame f body ih => exact ih h
  | outside n body ih => exact ih h
  | orIfUnknown body x ih => exact ih h
  | task d t =>
    refine ⟨?_, fun r s' hr i ↦ (h i).2 r s' hr⟩
    obtain ⟨i⟩ := ‹Nonempty ι›
    exact (h i).1

end Script

/-! ### Scripts that keep a scope as it is described -/

/-- Whether a scope is as described, and a value or a failure too. -/
def Settles {α : Type} (K : Scope → Prop) (R : α → Prop) (E : Error → Prop) (r : Except Error α)
    (s : Scope) : Prop :=
  K s ∧ (∀ x, r = .ok x → R x) ∧ ∀ e, r = .error e → E e

/-- A success settles with what holds of the scope and of its value. -/
@[simp] theorem settles_ok_iff {α : Type} {K : Scope → Prop} {R : α → Prop} {E : Error → Prop}
    {x : α} {s : Scope} : Settles K R E (.ok x) s ↔ K s ∧ R x := by
  simp [Settles]

/-- A failure settles with what holds of the scope and of its error. -/
@[simp] theorem settles_error_iff {α : Type} {K : Scope → Prop} {R : α → Prop} {E : Error → Prop}
    {e : Error} {s : Scope} : Settles K R E (.error e) s ↔ K s ∧ E e := by
  simp [Settles]

namespace Script

section

variable {Task : Type → Type} {C : Contract Task} {α β : Type} {K : Scope → Prop} {R : α → Prop}
  {E : Error → Prop} {s : Scope}

/-- What is decided already has to be as described. -/
theorem settles_ofExcept {r : Except Error α} (hs : K s) (hr : ∀ x, r = .ok x → R x)
    (he : ∀ e, r = .error e → E e) :
    (.ofExcept r : Script Task α).Meets C (Settles K R E) s := ⟨hs, hr, he⟩

/-- A value has to be as described. -/
theorem settles_pure {x : α} (hs : K s) (hx : R x) :
    (pure x : Script Task α).Meets C (Settles K R E) s :=
  settles_ok_iff.mpr ⟨hs, hx⟩

/-- A failure has to be as described. -/
theorem settles_error {e : Error} (hs : K s) (he : E e) :
    (.ofExcept (.error e) : Script Task α).Meets C (Settles K R E) s :=
  settles_error_iff.mpr ⟨hs, he⟩

/-- The next script starts from what the first one settles. -/
theorem settles_bind {first : Script Task β} {next : β → Script Task α} {Q : β → Prop}
    (hfirst : first.Meets C (Settles K Q E) s)
    (hnext : ∀ x s₁, K s₁ → Q x → (next x).Meets C (Settles K R E) s₁) :
    (first >>= next).Meets C (Settles K R E) s := by
  apply meets_bind.mpr
  apply hfirst.mono
  rintro (e | x) s₁ ⟨hs₁, hx, he⟩
  · exact settles_error_iff.mpr ⟨hs₁, he e rfl⟩
  · exact hnext x s₁ hs₁ (hx x rfl)

/-- The next script goes on with what a look decides. -/
theorem settles_look_bind {f : Scope → Except Error β} {next : β → Script Task α} (hs : K s)
    (he : ∀ e, f s = .error e → E e)
    (hnext : ∀ x, f s = .ok x → (next x).Meets C (Settles K R E) s) :
    (.look f >>= next : Script Task α).Meets C (Settles K R E) s := by
  apply meets_bind.mpr
  apply meets_look.mpr
  cases hx : f s with
  | error e => exact settles_error_iff.mpr ⟨hs, he e hx⟩
  | ok x => exact hnext x hx

/-- What is settled with a new frame is settled without it. -/
theorem settles_inFrame {f : Frame} {a : Script Task α} {L : Scope → Prop}
    (ha : a.Meets C (Settles L R E) (f :: s)) (hL : ∀ s', L s' → K s'.tail) :
    (inFrame f a).Meets C (Settles K R E) s := by
  apply meets_inFrame.mpr
  apply ha.mono
  rintro r s₁ ⟨hs₁, hr⟩
  exact ⟨hL s₁ hs₁, hr⟩

/-- What is settled without the innermost frames is settled with them. -/
theorem settles_outside {n : Nat} {a : Script Task α} {L : Scope → Prop}
    (ha : a.Meets C (Settles L R E) (s.drop n)) (hL : ∀ s', L s' → K (s.take n ++ s')) :
    (outside n a).Meets C (Settles K R E) s := by
  apply meets_outside.mpr
  apply ha.mono
  rintro r s₁ ⟨hs₁, hr⟩
  exact ⟨hL s₁ hs₁, hr⟩

end

/-- Whether a script keeps the scope as described wherever it starts, and ends as described. -/
def Walks {Task : Type → Type} (C : Contract Task) (K : Scope → Prop) {α : Type} (R : α → Prop)
    (E : Error → Prop) (a : Script Task α) : Prop :=
  ∀ s, K s → a.Meets C (Settles K R E) s

section

variable {Task : Type → Type} {C : Contract Task} {α β : Type} {K : Scope → Prop} {R : α → Prop}
  {E : Error → Prop}

/-- What is decided already has to be as described. -/
theorem walks_ofExcept {r : Except Error α} (hr : ∀ x, r = .ok x → R x)
    (he : ∀ e, r = .error e → E e) : (.ofExcept r : Script Task α).Walks C K R E :=
  fun _ hs ↦ settles_ofExcept hs hr he

/-- A value has to be as described. -/
theorem walks_pure {x : α} (hx : R x) : (pure x : Script Task α).Walks C K R E :=
  fun _ hs ↦ settles_pure hs hx

/-- A failure has to be as described. -/
theorem walks_error {e : Error} (he : E e) :
    (.ofExcept (.error e) : Script Task α).Walks C K R E :=
  fun _ hs ↦ settles_error hs he

/-- The next script goes on with the values of the first one. -/
theorem walks_bind {first : Script Task β} {next : β → Script Task α} {Q : β → Prop}
    (hfirst : first.Walks C K Q E) (hnext : ∀ x, Q x → (next x).Walks C K R E) :
    (first >>= next).Walks C K R E :=
  fun s hs ↦ settles_bind (hfirst s hs) fun x s₁ hs₁ hx ↦ hnext x hx s₁ hs₁

/-- The next script goes on with what a look decides. -/
theorem walks_look_bind {f : Scope → Except Error β} {next : β → Script Task α}
    (he : ∀ s e, f s = .error e → E e)
    (hnext : ∀ s x, f s = .ok x → (next x).Walks C K R E) :
    (.look f >>= next : Script Task α).Walks C K R E :=
  fun s hs ↦ settles_look_bind hs (he s) fun x hx ↦ hnext s x hx s hs

/-- Both scripts of a choice have to end as described. -/
theorem walks_ite {c : Prop} [Decidable c] {a b : Script Task α} (ha : a.Walks C K R E)
    (hb : b.Walks C K R E) : (if c then a else b).Walks C K R E := by
  split
  · exact ha
  · exact hb

/-- The value in place of a failure has to be as described, too. -/
theorem walks_orIfUnknown {a : Script Task α} {x : α}
    (ha : a.Walks C K R fun e ↦ e.isUndefinedVariable = false → E e) (hx : R x) :
    (a.orIfUnknown x).Walks C K R E := by
  intro s hs
  apply meets_orIfUnknown.mpr
  apply (ha s hs).mono
  rintro (e | y) s₁ ⟨hs₁, hy, he⟩
  · rw [Action.recovered]
    split
    · exact settles_ok_iff.mpr ⟨hs₁, hx⟩
    · next hknown => exact settles_error_iff.mpr ⟨hs₁, he e rfl (Bool.eq_false_iff.mpr hknown)⟩
  · exact settles_ok_iff.mpr ⟨hs₁, hy y rfl⟩

/-- A variable is bound behind what keeps the scope as described. -/
theorem walks_set_bind {name : String} {v : Value} {next : Unit → Script Task α}
    (hset : ∀ s, K s → K (s.set name v)) (hnext : (next ()).Walks C K R E) :
    (.set name v >>= next : Script Task α).Walks C K R E :=
  fun s hs ↦ meets_bind.mpr (meets_set.mpr (hnext _ (hset s hs)))

end

end Script

/-! ### The rules for tasks that name each other -/

section Rules

variable {Task : Type → Type} {code : Code Task} {C : Contract Task}

/-- Every script of a task keeps the contract of the task, by the contracts of those it names. -/
def Contract.KeptBy (C : Contract Task) (code : Code Task) : Prop :=
  ∀ {α : Type} (d : Nat) (t : Task α) (s : Scope),
    C.pre d t s → (code.script d t).Meets C (C.post d t s) s

/-- What a run leads to, and what the tasks that it begins ask for, is as the contracts say. -/
theorem Script.Runs.of_meets (hC : C.KeptBy code) {α : Type} {a : Script Task α} {s s' : Scope}
    {r : Except Error α} {visits : List (Visit Task)} (h : a.Runs code s r s' visits)
    {Q : Except Error α → Scope → Prop} (hQ : a.Meets C Q s) :
    Q r s' ∧ ∀ v ∈ visits, C.pre v.depth v.task v.scope := by
  induction h with
  | look f s => exact ⟨hQ, by simp⟩
  | next _ _ ihfirst ihnext =>
    obtain ⟨hx, hbefore⟩ := ihfirst (meets_bind.mp hQ)
    obtain ⟨hr, hafter⟩ := ihnext hx
    refine ⟨hr, ?_⟩
    intro v hv
    exact (List.mem_append.mp hv).elim (hbefore v) (hafter v)
  | failed _ ihfirst => exact ihfirst (meets_bind.mp hQ)
  | set name v s => exact ⟨hQ, by simp⟩
  | bindMacro name s => exact ⟨hQ, by simp⟩
  | inFrame _ ih => exact ih hQ
  | outside _ ih => exact ih hQ
  | orIfUnknown _ ih => exact ih hQ
  | task _ ih =>
    obtain ⟨hpost, hvisits⟩ := ih (hC _ _ _ hQ.1)
    refine ⟨hQ.2 _ _ hpost, ?_⟩
    intro v hv
    rcases List.mem_cons.mp hv with rfl | hv
    · exact hQ.1
    · exact hvisits v hv

/-- A script whose tasks all have runs has a run. -/
theorem Script.Meets.exists_runs
    (htask : ∀ {α : Type} (d : Nat) (t : Task α) (s : Scope), C.pre d t s →
      ∃ r s' visits, (Script.task d t).Runs code s r s' visits ∧ C.post d t s r s')
    {α : Type} {a : Script Task α} {Q : Except Error α → Scope → Prop} {s : Scope}
    (h : a.Meets C Q s) : ∃ r s' visits, a.Runs code s r s' visits ∧ Q r s' := by
  induction a generalizing s with
  | look f => exact ⟨_, _, _, .look f s, h⟩
  | bind first next ihfirst ihnext =>
    obtain ⟨r, s₁, before, hfirst, hr⟩ := ihfirst (meets_bind.mp h)
    cases r with
    | ok x =>
      obtain ⟨r, s₂, after, hnext, hr⟩ := ihnext x hr
      exact ⟨_, _, _, .next hfirst hnext, hr⟩
    | error e => exact ⟨_, _, _, .failed hfirst, hr⟩
  | set name v => exact ⟨_, _, _, .set name v s, h⟩
  | bindMacro name => exact ⟨_, _, _, .bindMacro name s, h⟩
  | inFrame f body ih =>
    obtain ⟨r, s₁, visits, hbody, hr⟩ := ih h
    exact ⟨_, _, _, .inFrame hbody, hr⟩
  | outside n body ih =>
    obtain ⟨r, s₁, visits, hbody, hr⟩ := ih h
    exact ⟨_, _, _, .outside hbody, hr⟩
  | orIfUnknown body x ih =>
    obtain ⟨r, s₁, visits, hbody, hr⟩ := ih h
    exact ⟨_, _, _, .orIfUnknown hbody, hr⟩
  | task d t =>
    obtain ⟨r, s₁, visits, ht, hr⟩ := htask d t s h.1
    exact ⟨r, s₁, visits, ht, h.2 r s₁ hr⟩

/-- Every task has a run if the tasks that its script names are of less measure. -/
theorem Contract.exists_runs {M : Type} [WellFoundedRelation M]
    (measure : {α : Type} → Nat → Task α → Scope → M)
    (hC : ∀ {α : Type} (d : Nat) (t : Task α) (s : Scope), C.pre d t s →
      (code.script d t).Meets (C.below measure (measure d t s)) (C.post d t s) s)
    {α : Type} (d : Nat) (t : Task α) (s : Scope) (h : C.pre d t s) :
    ∃ r s' visits, (Script.task d t).Runs code s r s' visits ∧ C.post d t s r s' := by
  have all (m : M) : ∀ {α : Type} (d : Nat) (t : Task α) (s : Scope), measure d t s = m →
      C.pre d t s →
        ∃ r s' visits, (Script.task d t).Runs code s r s' visits ∧ C.post d t s r s' := by
    induction WellFoundedRelation.wf.apply m with
    | intro m _ ih =>
      intro α d t s hm h
      subst m
      have htask {β : Type} (d' : Nat) (t' : Task β) (s₁ : Scope)
          (h' : (C.below measure (measure d t s)).pre d' t' s₁) :
          ∃ r s' visits, (Script.task d' t').Runs code s₁ r s' visits ∧
            (C.below measure (measure d t s)).post d' t' s₁ r s' :=
        ih _ h'.2 d' t' s₁ rfl h'.1
      obtain ⟨r, s', visits, hrun, hpost⟩ := (hC d t s h).exists_runs htask
      exact ⟨r, s', _, .task hrun, hpost⟩
  exact all _ d t s rfl h

end Rules

/-! ### Scripts as actions -/

/-- Actions that carry out tasks. -/
structure Handler (Task : Type → Type) where
  /-- The action of a task at a depth. -/
  act : {α : Type} → Nat → Task α → Action α

/-- The action of a script whose tasks are carried out by given actions. -/
def Script.act {Task : Type → Type} (h : Handler Task) : {α : Type} → Script Task α → Action α
  | _, .look f => do .ofExcept (f (← get))
  | _, .bind first next => do (next (← first.act h)).act h
  | _, .set name v => modify (·.set name v)
  | _, .bindMacro name => modify (·.bindMacro name)
  | _, .inFrame f body => .inFrame f (body.act h)
  | _, .outside n body => .outside n (body.act h)
  | _, .orIfUnknown body x => (body.act h).orIfUnknown x
  | _, .task d t => h.act d t

section Handlers

namespace Script

variable {Task : Type → Type} {h : Handler Task} {α β : Type}

/-- Steps in a row are run one behind the other. -/
@[simp] theorem act_bind (first : Script Task α) (next : α → Script Task β) :
    (first >>= next).act h = first.act h >>= fun x ↦ (next x).act h := rfl

/-- A value is run as itself. -/
@[simp] theorem act_pure (x : α) : (pure x : Script Task α).act h = pure x := rfl

/-- A result is run as itself. -/
@[simp] theorem act_ofExcept (r : Except Error α) :
    (ofExcept r : Script Task α).act h = .ofExcept r := rfl

/-- A task is run by the handler. -/
@[simp] theorem act_task (d : Nat) (t : Task α) : (task d t).act h = h.act d t := rfl

/-- A choice is run as the chosen side. -/
@[simp] theorem act_ite (c : Prop) [Decidable c] (a b : Script Task α) :
    (if c then a else b).act h = if c then a.act h else b.act h := by split <;> rfl

/-- A look gives what it decides. -/
theorem run_act_look (f : Scope → Except Error α) (s : Scope) :
    ((look f : Script Task α).act h).run.run s = (f s, s) := by
  rw [act]
  change (Action.ofExcept (f s)).run.run s = _
  cases f s <;> rfl

end Script

variable {Task : Type → Type} {code : Code Task} {C : Contract Task} {h : Handler Task}

/-- Where actions do what the scripts of their tasks say, a run does what the action does. -/
theorem Script.Runs.run_act (hC : C.KeptBy code)
    (hact : ∀ {α : Type} (d : Nat) (t : Task α) (s : Scope), C.pre d t s →
      ((code.script d t).act h).run.run s = (h.act d t).run.run s)
    {α : Type} {a : Script Task α} {s s' : Scope} {r : Except Error α}
    {visits : List (Visit Task)} (hrun : a.Runs code s r s' visits)
    {Q : Except Error α → Scope → Prop} (hQ : a.Meets C Q s) :
    (a.act h).run.run s = (r, s') := by
  induction hrun with
  | look f s => exact Script.run_act_look f s
  | next hfirst _ ihfirst ihnext =>
    have hx := (hfirst.of_meets hC (Script.meets_bind.mp hQ)).1
    rw [Script.act, Action.run_bind_ok (ihfirst (Script.meets_bind.mp hQ))]
    exact ihnext hx
  | failed _ ihfirst =>
    rw [Script.act, Action.run_bind_error (ihfirst (Script.meets_bind.mp hQ))]
  | set name v s => rfl
  | bindMacro name s => rfl
  | inFrame _ ih => rw [Script.act, Action.run_inFrame, ih hQ]
  | outside _ ih => rw [Script.act, Action.run_outside, ih hQ]
  | orIfUnknown _ ih => rw [Script.act, Action.run_orIfUnknown, ih hQ]
  | task _ ih => rw [Script.act, ← hact _ _ _ hQ.1, ih (hC _ _ _ hQ.1)]

end Handlers

end Stencil
