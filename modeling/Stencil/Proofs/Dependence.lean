import Mathlib.Data.List.Forall2
import Stencil.Proofs.Mentions
import Stencil.Proofs.Termination

/-!
# What a rendering depends on

A rendering looks up names that the template mentions and no other ones. So two renderings go the
same way if what they start from agrees on these names: the scopes, the declared macros and the
filters. The frames that come up on the way differ in other names only.
-/

namespace Stencil

/-! ### Scopes that agree -/

/-- Whether two frames bind each of the names to the same. -/
def Frame.Agree (N : String → Prop) (f g : Frame) : Prop :=
  ∀ name, N name → Entries.get? name f.vars = Entries.get? name g.vars ∧
    (name ∈ f.macros ↔ name ∈ g.macros)

/-- Whether two scopes bind each of the names to the same in each frame. -/
def Scope.Agree (N : String → Prop) : Scope → Scope → Prop := List.Forall₂ (Frame.Agree N)

variable {N : String → Prop}

namespace Frame

/-- A frame agrees with itself. -/
theorem Agree.refl (f : Frame) : f.Agree N f := fun _ _ ↦ ⟨rfl, Iff.rfl⟩

/-- Frames in which the same is written agree as before. -/
theorem Agree.set {f g : Frame} (h : f.Agree N g) (name : String) (v : Value) :
    (f.set name v).Agree N (g.set name v) := by
  intro key hkey
  obtain ⟨hvars, hmacros⟩ := h key hkey
  simp only [Frame.set, Entries.get?_insert, hvars, List.mem_filter, hmacros, and_self]

/-- Frames in which the same macro is bound agree as before. -/
theorem Agree.bindMacro {f g : Frame} (h : f.Agree N g) (name : String) :
    (f.bindMacro name).Agree N (g.bindMacro name) := by
  intro key hkey
  obtain ⟨hvars, hmacros⟩ := h key hkey
  have hmem (f : Frame) : key ∈ (f.bindMacro name).macros ↔ key = name ∨ key ∈ f.macros := by
    rw [Frame.bindMacro]
    split
    · next hname =>
      rw [List.contains_iff_mem] at hname
      exact ⟨.inr, fun hk ↦ hk.elim (fun hk ↦ hk ▸ hname) id⟩
    · exact List.mem_cons
  rw [hmem, hmem, hmacros]
  refine ⟨?_, Iff.rfl⟩
  by_cases hname : key = name
  · subst hname
    simp only [Frame.bindMacro, Entries.get?_filter_ne]
  · simp only [Frame.bindMacro, Entries.get?_filter_ne_of_ne hname, hvars]

end Frame

namespace Scope

/-- A scope agrees with itself. -/
theorem Agree.refl (s : Scope) : s.Agree N s :=
  List.forall₂_same.mpr fun f _ ↦ .refl f

/-- Scopes that agree have as many frames. -/
theorem Agree.length_eq {s t : Scope} (h : s.Agree N t) : s.length = t.length :=
  List.Forall₂.length_eq h

/-- Scopes that agree on a name bind it to the same, in the same frame. -/
theorem Agree.resolve {s t : Scope} (h : s.Agree N t) {name : String} (hname : N name) :
    s.resolve name = t.resolve name := by
  have hfrom (level : Nat) : resolveFrom name level s = resolveFrom name level t := by
    induction h generalizing level with
    | nil => rfl
    | @cons f g fs gs hf _ ih =>
      obtain ⟨hvars, hmacros⟩ := hf name hname
      have hcontains : f.macros.contains name = g.macros.contains name := by
        rw [Bool.eq_iff_iff, List.contains_iff_mem, List.contains_iff_mem, hmacros]
      rw [resolveFrom, resolveFrom, hvars, hcontains, ih]
  exact hfrom 0

/-- Scopes in which the same is written agree as before. -/
theorem Agree.set {s t : Scope} (h : s.Agree N t) (name : String) (v : Value) :
    (s.set name v).Agree N (t.set name v) := by
  cases h with
  | nil => exact .nil
  | cons hf hfs => exact .cons (hf.set name v) hfs

/-- Scopes in which the same macro is bound agree as before, if they agree on its name. -/
theorem Agree.bindMacro {s t : Scope} (h : s.Agree N t) {name : String} (hname : N name) :
    (s.bindMacro name).Agree N (t.bindMacro name) := by
  have hresolve := h.resolve hname
  cases h with
  | nil => exact .nil
  | @cons f g fs gs hf hfs =>
    have hagree : Scope.Agree N (f.bindMacro name :: fs) (g.bindMacro name :: gs) :=
      .cons (hf.bindMacro name) hfs
    unfold Scope.bindMacro
    rw [hresolve]
    rcases Scope.resolve (g :: gs) name with _ | v | level
    · exact hagree
    · exact hagree
    · exact .cons hf hfs

/-- Scopes that agree do so without their innermost frames. -/
theorem Agree.tail {s t : Scope} (h : s.Agree N t) : Scope.Agree N s.tail t.tail := by
  cases h with
  | nil => exact .nil
  | cons _ hfs => exact hfs

/-- Scopes that agree do so without some of their frames. -/
theorem Agree.drop {s t : Scope} (h : s.Agree N t) (n : Nat) :
    Scope.Agree N (s.drop n) (t.drop n) := List.forall₂_drop n h

/-- Frames of scopes that agree may be put in front of others. -/
theorem Agree.take_append {s t s' t' : Scope} (h : s.Agree N t) (h' : s'.Agree N t') (n : Nat) :
    Scope.Agree N (s.take n ++ s') (t.take n ++ t') :=
  List.rel_append (List.forall₂_take n h) h'

end Scope

/-! ### Scripts that look at some names only -/

section

variable {Task : Type → Type} {W : {α : Type} → Task α → Prop} {h : Handler Task}

/-- Whether a script looks at the names only, and names tasks as described only. -/
inductive Script.LooksAt (N : String → Prop) (W : {α : Type} → Task α → Prop) :
    {α : Type} → Script Task α → Prop where
  /-- The result depends on the names only. -/
  | look {α : Type} {f : Scope → Except Error α} (hf : ∀ s t, Scope.Agree N s t → f s = f t) :
      LooksAt N @W (.look f)
  /-- What is looked at may depend on other names, but the next script does not. -/
  | lookThen {α β : Type} {f : Scope → Except Error α} {next : α → Script Task β}
      (hf : ∀ s t, Scope.Agree N s t → (f s).map next = (f t).map next)
      (hnext : ∀ s x, f s = .ok x → LooksAt N @W (next x)) : LooksAt N @W (.bind (.look f) next)
  /-- One script and another one. -/
  | bind {α β : Type} {first : Script Task α} {next : α → Script Task β}
      (hfirst : LooksAt N @W first) (hnext : ∀ x, LooksAt N @W (next x)) :
      LooksAt N @W (.bind first next)
  /-- A variable is bound. -/
  | set (name : String) (v : Value) : LooksAt N @W (.set name v)
  /-- A macro is bound by one of the names. -/
  | bindMacro {name : String} (hname : N name) : LooksAt N @W (.bindMacro name)
  /-- Steps in a new innermost frame. -/
  | inFrame {α : Type} {f : Frame} {body : Script Task α} (hbody : LooksAt N @W body) :
      LooksAt N @W (.inFrame f body)
  /-- Steps without the innermost frames. -/
  | outside {α : Type} {n : Nat} {body : Script Task α} (hbody : LooksAt N @W body) :
      LooksAt N @W (.outside n body)
  /-- Steps with a value in place of a failure. -/
  | orIfUnknown {α : Type} {body : Script Task α} {x : α} (hbody : LooksAt N @W body) :
      LooksAt N @W (.orIfUnknown body x)
  /-- A task. -/
  | task {α : Type} {d : Nat} {t : Task α} (ht : W t) : LooksAt N @W (.task d t)

/-- Whether a result and a scope are what an action leads to in another scope, up to names that are
not among the given ones. -/
def Action.Mirrors (N : String → Prop) {α : Type} (a : Action α) (t : Scope) (r : Except Error α)
    (s' : Scope) : Prop :=
  ∃ t', a.run.run t = (r, t') ∧ s'.Agree N t'

/-- Tasks as described lead to what given actions lead to in every scope that agrees on the
names. -/
def Handler.mirrored (N : String → Prop) (W : {α : Type} → Task α → Prop) (h : Handler Task) :
    Contract Task where
  pre _ t _ := W t
  post d task s r s' := ∀ t, s.Agree N t → (h.act d task).Mirrors N t r s'

/-- A script that looks at the names only leads to the same in scopes that agree on them. -/
theorem Script.LooksAt.meets {α : Type} {a : Script Task α} (ha : LooksAt N @W a) {s t : Scope}
    (hst : s.Agree N t) : a.Meets (h.mirrored N @W) ((a.act h).Mirrors N t) s := by
  induction ha generalizing s t with
  | @look α f hf =>
    refine ⟨t, ?_, hst⟩
    rw [run_act_look, hf s t hst]
  | @lookThen α β f next hf _ ih =>
    apply meets_bind.mpr
    apply meets_look.mpr
    have hsame := hf s t hst
    cases hs : f s with
    | error e =>
      cases ht : f t with
      | ok y =>
        rw [hs, ht] at hsame
        cases hsame
      | error e' =>
        rw [hs, ht] at hsame
        cases hsame
        have hlook : ((Script.look f : Script Task α).act h).run.run t = (.error e, t) := by
          rw [run_act_look, ht]
        exact ⟨t, by rw [act, Action.run_bind_error hlook], hst⟩
    | ok x =>
      cases ht : f t with
      | error e =>
        rw [hs, ht] at hsame
        cases hsame
      | ok y =>
        rw [hs, ht] at hsame
        have hnext : next x = next y := Except.ok.inj hsame
        have hlook : ((Script.look f : Script Task α).act h).run.run t = (.ok y, t) := by
          rw [run_act_look, ht]
        apply (ih s x hs hst).mono
        rintro r s' ⟨t', hrun, hagree⟩
        rw [hnext] at hrun
        exact ⟨t', by rw [act, Action.run_bind_ok hlook, hrun], hagree⟩
  | bind _ _ ihfirst ihnext =>
    apply meets_bind.mpr
    apply (ihfirst hst).mono
    rintro (e | x) s₁ ⟨t₁, hrun, hagree⟩
    · exact ⟨t₁, by rw [act, Action.run_bind_error hrun], hagree⟩
    · apply (ihnext x hagree).mono
      rintro r s₂ ⟨t₂, hrun', hagree'⟩
      exact ⟨t₂, by rw [act, Action.run_bind_ok hrun, hrun'], hagree'⟩
  | set name v => exact ⟨_, rfl, hst.set name v⟩
  | bindMacro hname => exact ⟨_, rfl, hst.bindMacro hname⟩
  | @inFrame α f body _ ih =>
    have hframe : Scope.Agree N (f :: s) (f :: t) := .cons (.refl f) hst
    apply (ih hframe).mono
    rintro r s₁ ⟨t₁, hrun, hagree⟩
    exact ⟨t₁.tail, by rw [act, Action.run_inFrame, hrun], hagree.tail⟩
  | @outside α n body _ ih =>
    apply (ih (hst.drop n)).mono
    rintro r s₁ ⟨t₁, hrun, hagree⟩
    exact ⟨t.take n ++ t₁, by rw [act, Action.run_outside, hrun], hst.take_append hagree n⟩
  | orIfUnknown _ ih =>
    apply (ih hst).mono
    rintro r s₁ ⟨t₁, hrun, hagree⟩
    exact ⟨t₁, by rw [act, Action.run_orIfUnknown, hrun], hagree⟩
  | task ht => exact ⟨ht, fun r s' hr ↦ hr t hst⟩

end

section

variable {Task : Type → Type} {W : {α : Type} → Task α → Prop} {α β : Type}

/-- A result looks at nothing. -/
theorem Script.looksAt_ofExcept (r : Except Error α) :
    LooksAt N @W (.ofExcept r : Script Task α) := .look fun _ _ _ ↦ rfl

/-- A value looks at nothing. -/
theorem Script.looksAt_pure (x : α) : LooksAt N @W (pure x : Script Task α) := looksAt_ofExcept _

/-- A choice looks at what both sides look at. -/
theorem Script.looksAt_ite {c : Prop} [Decidable c] {a b : Script Task α} (ha : LooksAt N @W a)
    (hb : LooksAt N @W b) : LooksAt N @W (if c then a else b) := by
  split
  · exact ha
  · exact hb

end

namespace Task

variable {F : String → Prop} {env env' : Environment} {macros macros' : List (String × MacroDecl)}
  {d : Nat}

/-! ### Tasks about some names -/

/-- Whether pipelines mention the names only, and use the filters only. -/
def ChainsWithin (N F : String → Prop) (chains : List (Pipeline × List String)) : Prop :=
  ∀ c ∈ chains, (∀ name ∈ c.1.roots, N name) ∧ ∀ filter ∈ c.1.filterNames ++ c.2, F filter

private theorem chainsWithin_cons {p : Pipeline} {names : List String}
    {chains : List (Pipeline × List String)} :
    ChainsWithin N F ((p, names) :: chains) ↔
      ((∀ name ∈ p.roots, N name) ∧ ∀ filter ∈ p.filterNames, F filter) ∧
        (∀ filter ∈ names, F filter) ∧ ChainsWithin N F chains := by
  simp only [ChainsWithin, List.forall_mem_cons, List.forall_mem_append, and_assoc]

private theorem chainsWithin_append {chains chains' : List (Pipeline × List String)} :
    ChainsWithin N F (chains ++ chains') ↔ ChainsWithin N F chains ∧ ChainsWithin N F chains' :=
  List.forall_mem_append

/-- Whether a task is about the names only, and about the filters only. Filters that are run make
nothing of what they can see of the rendering. -/
def Within (N F : String → Prop) : {α : Type} → Task α → Prop
  | _, .eval e => ∀ name ∈ e.roots, N name
  | _, .evalAll es => ∀ name ∈ Expr.rootsOfAll es, N name
  | _, .evalEntries _ es => ∀ name ∈ Expr.rootsOfEntries es, N name
  | _, .valueOf name => N name
  | _, .call name _ => N name
  | _, .invoke name _ _ => N name
  | _, .bindAll params _ => ∀ name ∈ params.flatMap Param.roots, N name
  | _, .evalPipeline p => (∀ name ∈ p.roots, N name) ∧ ∀ filter ∈ p.filterNames, F filter
  | _, .runFilters _ steps fs =>
    (∀ name ∈ FilterCall.rootsOfAll steps, N name) ∧ ∀ f ∈ fs, f.IsBlind
  | _, .runNodeFilters _ names => ∀ filter ∈ names, F filter
  | _, .render n => ChainsWithin N F n.chains
  | _, .renderAll ns => ChainsWithin N F (Node.chainsOfAll ns)
  | _, .renderFirst branches => ChainsWithin N F (Node.chainsOfBranches branches)
  | _, .renderRuns _ _ body _ _ _ => ChainsWithin N F (Node.chainsOfAll body)

/-- What two renderings have in common: the macros with the names, which lead to further ones of the
names and the filters only, the filters, which are built in, the escaping and the limit of calls. -/
structure Corresponds (N F : String → Prop) (env env' : Environment)
    (macros macros' : List (String × MacroDecl)) : Prop where
  /-- The macros are the same. -/
  decl_eq : ∀ name, N name → Entries.get? name macros' = Entries.get? name macros
  /-- They mention the names and use the filters. -/
  within : ∀ name m, N name → Entries.get? name macros = some m →
    (∀ name ∈ m.names, N name) ∧ ∀ filter ∈ m.filterNames, F filter
  /-- The filters are the same. -/
  filter?_eq : ∀ name, F name → env'.filter? name = env.filter? name
  /-- They are built in. -/
  builtin : ∀ name f, F name → env.filter? name = some f →
    ∃ around, ∃ e ∈ Filter.builtins around, f = e.2
  /-- The escaping is the same. -/
  escaping_eq : env'.escaping = env.escaping
  /-- The limit is the same. -/
  callLimit_eq : env'.callLimit = env.callLimit

/-! ### The scripts are the same -/

section

variable (h : Corresponds N F env env' macros macros')

include h

private theorem Corresponds.isBlind {name : String} {f : Filter} (hname : F name)
    (hf : filter env name = .ok f) : f.IsBlind := by
  obtain ⟨around, e, he, rfl⟩ := h.builtin name f hname (filter?_of_filter hf)
  exact Filter.isBlind_builtins around e he

private theorem Corresponds.filter_eq {name : String} (hname : F name) :
    filter env' name = filter env name := by
  rw [filter, filter, h.filter?_eq name hname]

private theorem Corresponds.filters_eq {steps : List FilterCall}
    (hsteps : ∀ name ∈ steps.map (·.name), F name) :
    Task.filters env' steps = Task.filters env steps := by
  induction steps with
  | nil => rfl
  | cons step steps ih =>
    rw [List.map_cons, List.forall_mem_cons] at hsteps
    rw [Task.filters, Task.filters, h.filter_eq hsteps.1, ih hsteps.2]

private theorem Corresponds.bindScript_eq {name : String} (hname : N name) :
    bindScript macros' name = bindScript macros name := by
  rw [bindScript, bindScript, h.decl_eq name hname]

private theorem Corresponds.renderScript_eq {n : Node} (hn : (render n).Within N F) :
    renderScript env' macros' d n = renderScript env macros d n := by
  cases n with
  | interpolation p names =>
    rw [renderScript, renderScript, h.escaping_eq]
    cases hp : p.calledName? with
    | none => rfl
    | some name =>
      have hname : N name :=
        (hn _ List.mem_cons_self).1 name (Pipeline.mem_roots_of_calledName? hp)
      simp only [h.bindScript_eq hname]
  | _ => rfl

/-- Tasks about the names and the filters have the same scripts in both renderings. -/
theorem Corresponds.script_eq {α : Type} {t : Task α} (ht : t.Within N F) :
    t.script env' macros' d = t.script env macros d := by
  cases t with
  | valueOf name => rw [script, script, h.bindScript_eq ht]
  | call name args => rw [script, script, h.bindScript_eq ht]
  | invoke name args level => rw [script, script, h.decl_eq name ht, h.callLimit_eq]
  | evalPipeline p =>
    rw [script, script, pipelineScript, pipelineScript, h.filters_eq ht.2]
  | runFilters v steps fs =>
    cases steps with
    | nil => rfl
    | cons step steps =>
      cases fs with
      | nil => rfl
      | cons f fs =>
        have hf : f.IsBlind := ht.2 f List.mem_cons_self
        simp only [script, look_view hf _ (setting env macros d)]
  | runNodeFilters v names =>
    cases names with
    | nil => rfl
    | cons name names =>
      have hname : F name := ht name List.mem_cons_self
      rw [script, script, h.filter_eq hname]
      cases hf : filter env name with
      | error e => rfl
      | ok f => simp only [look_view (h.isBlind hname hf) _ (setting env macros d)]
  | render n => exact h.renderScript_eq ht
  | evalAll es => cases es <;> rfl
  | evalEntries table es => cases es <;> rfl
  | bindAll params args => cases params <;> rfl
  | renderAll ns => cases ns <;> rfl
  | renderFirst branches => cases branches <;> rfl
  | renderRuns valueName keyName body i n pairs => cases pairs <;> rfl
  | eval e => rfl

end

/-! ### The scripts look at the names only -/

/-- Whether a script looks at the names only, and names tasks about the names and the filters
only. -/
private abbrev Looks (N F : String → Prop) {α : Type} (a : Script Task α) : Prop :=
  Script.LooksAt N (Within N F) a

private theorem looks_bindScript {name : String} (hname : N name) :
    Looks N F (bindScript macros name) :=
  Script.looksAt_ite (.bind (.bindMacro hname) fun _ ↦ Script.looksAt_pure _)
    (Script.looksAt_pure _)

private theorem looks_resolve {name : String} (hname : N name) :
    Looks N F (.look fun s ↦ .ok (s.resolve name)) :=
  .look fun _ _ h ↦ by rw [h.resolve hname]

private theorem looks_view {f : Filter} (hf : f.IsBlind) (a : Setting) (vs : List Value) :
    Looks N F (.look fun s ↦ f (a.view s) vs) :=
  .look fun _ _ _ ↦ hf _ _ _

private theorem looks_evalScript (e : Expr) (he : (eval e).Within N F) :
    Looks N F (evalScript d e) := by
  cases e with
  | const v => exact Script.looksAt_pure _
  | path root names =>
    have hroot : N root := he root List.mem_cons_self
    exact .bind (.task hroot) fun v ↦ Script.looksAt_pure _
  | property e name => exact .bind (.task he) fun v ↦ Script.looksAt_ofExcept _
  | item e key =>
    obtain ⟨he, hkey⟩ := List.forall_mem_append.mp he
    exact .bind (.task he) fun v ↦ .bind (.task hkey) fun k ↦ Script.looksAt_ofExcept _
  | call callee args =>
    obtain ⟨hcallee, hargs⟩ := List.forall_mem_append.mp he
    cases callee with
    | path root names =>
      have hroot : N root := hcallee root List.mem_cons_self
      refine .bind (.task hargs) fun vs ↦ ?_
      cases names.getLast? with
      | none => exact .task hroot
      | some method => exact .bind (.task hroot) fun v ↦ Script.looksAt_ofExcept _
    | property e method =>
      exact .bind (.task hargs) fun vs ↦ .bind (.task hcallee) fun v ↦ Script.looksAt_ofExcept _
    | _ => exact .bind (.task hargs) fun vs ↦ Script.looksAt_ofExcept _
  | unary op e => exact .bind (.task he) fun v ↦ Script.looksAt_ofExcept _
  | binary op left right =>
    obtain ⟨hleft, hright⟩ := List.forall_mem_append.mp he
    cases op with
    | and =>
      exact .bind (.task hleft) fun v ↦
        Script.looksAt_ite (.task hright) (Script.looksAt_pure _)
    | or =>
      exact .bind (.task hleft) fun v ↦
        Script.looksAt_ite (Script.looksAt_pure _) (.task hright)
    | _ => exact .bind (.task hleft) fun a ↦ .bind (.task hright) fun b ↦ Script.looksAt_ofExcept _
  | conditional test yes no =>
    obtain ⟨hboth, hno⟩ := List.forall_mem_append.mp he
    obtain ⟨htest, hyes⟩ := List.forall_mem_append.mp hboth
    exact .bind (.task htest) fun v ↦ Script.looksAt_ite (.task hyes) (.task hno)
  | list items => exact .bind (.task he) fun vs ↦ Script.looksAt_pure _
  | map entries => exact .bind (.task he) fun table ↦ Script.looksAt_pure _

private theorem looks_renderScript (n : Node) (hn : (render n).Within N F) :
    Looks N F (renderScript env macros d n) := by
  cases n with
  | text t => exact Script.looksAt_pure _
  | interpolation p names =>
    obtain ⟨hp, hnames, -⟩ := chainsWithin_cons.mp hn
    have hrest : Looks N F (do
        let v ← .task d (.evalPipeline p)
        let v ← .task d (.runNodeFilters v names)
        return if p.safe then v.chars else env.escaping.write v) :=
      .bind (.task hp) fun v ↦ .bind (.task hnames) fun w ↦ Script.looksAt_pure _
    rw [renderScript]
    cases hcall : p.calledName? with
    | none => exact hrest
    | some name =>
      have hname : N name := hp.1 name (Pipeline.mem_roots_of_calledName? hcall)
      exact .bind (looks_bindScript hname) fun _ ↦ hrest
  | loop valueName keyName iterable body =>
    obtain ⟨hiterable, -, hbody⟩ := chainsWithin_cons.mp hn
    exact .bind (.task hiterable) fun v ↦ .task hbody
  | condition test body others otherwise =>
    obtain ⟨hall, hrest⟩ := chainsWithin_append.mp hn
    obtain ⟨hfirst, hothers⟩ := chainsWithin_append.mp hall
    obtain ⟨htest, -, hbody⟩ := chainsWithin_cons.mp hfirst
    refine .bind (.task htest) fun v ↦ Script.looksAt_ite (.task hbody) ?_
    refine .bind (.task hothers) fun o ↦ ?_
    cases o with
    | some out => exact Script.looksAt_pure _
    | none =>
      cases otherwise with
      | some nodes => exact .task hrest
      | none => exact Script.looksAt_pure _
  | assignment name p =>
    obtain ⟨hp, -, -⟩ := chainsWithin_cons.mp hn
    exact .bind (.task hp) fun v ↦ .bind (.set name v) fun _ ↦ Script.looksAt_pure _
  | outermost body =>
    refine .lookThen (fun s t h ↦ ?_) fun _ _ _ ↦ .outside (.task hn)
    rw [Except.map, Except.map, h.length_eq]

private theorem looks_bindAll (p : Param) (ps : List Param) (args : List Value)
    (h : (bindAll (p :: ps) args).Within N F) :
    Looks N F ((bindAll (p :: ps) args).script env macros d) := by
  obtain ⟨hp, hps⟩ := List.forall_mem_append.mp h
  have hrest (v : Value) : Looks N F (do
      .set p.name v
      .task d (.bindAll ps args.tail)) := .bind (.set p.name v) fun _ ↦ .task hps
  obtain ⟨name, default⟩ := p
  cases args with
  | cons v vs => exact .bind (Script.looksAt_pure _) hrest
  | nil =>
    cases default with
    | none => exact .bind (Script.looksAt_pure _) hrest
    | some e => exact .bind (.orIfUnknown (.task hp)) hrest

private theorem Corresponds.looks_pipelineScript (h : Corresponds N F env env' macros macros')
    {p : Pipeline} (hp : (evalPipeline p).Within N F) : Looks N F (pipelineScript env d p) := by
  obtain ⟨hroots, hfilters⟩ := hp
  obtain ⟨hbase, hargs⟩ := List.forall_mem_append.mp hroots
  refine .lookThen (fun _ _ _ ↦ rfl) fun _ fs hfs ↦ ?_
  have hblind : ∀ f ∈ fs, f.IsBlind := by
    refine forall_mem_filters (fun step hstep f hf ↦ ?_) hfs
    exact h.isBlind (hfilters _ (List.mem_map_of_mem hstep)) hf
  exact .bind (.task hbase) fun v ↦ .bind (.task ⟨hargs, hblind⟩) fun w ↦ Script.looksAt_pure _

private theorem Corresponds.looks_invoke (h : Corresponds N F env env' macros macros')
    {name : String} (args : List Value) (level : Nat) (hname : N name) :
    Looks N F ((invoke name args level).script env macros d) := by
  rw [script]
  cases hm : Entries.get? name macros with
  | none => exact Script.looksAt_ofExcept _
  | some m =>
    obtain ⟨hnames, hfilters⟩ := h.within name m hname hm
    obtain ⟨hparams, hroots⟩ := List.forall_mem_append.mp hnames
    have hbody : (renderAll m.body).Within N F := by
      intro c hc
      refine ⟨fun name' hname' ↦ hroots name' ?_, fun filter hfilter ↦ hfilters filter ?_⟩
      · exact List.mem_flatMap.mpr ⟨c, hc, hname'⟩
      · exact List.mem_flatMap.mpr ⟨c, hc, hfilter⟩
    refine Script.looksAt_ite (Script.looksAt_ofExcept _) (.outside (.inFrame ?_))
    exact .bind (.task hparams) fun _ ↦ .bind (.task hbody) fun out ↦ Script.looksAt_pure _

private theorem Corresponds.looks_script (h : Corresponds N F env env' macros macros') {α : Type}
    {t : Task α} (ht : t.Within N F) : Looks N F (t.script env macros d) := by
  cases t with
  | eval e => exact looks_evalScript e ht
  | evalAll es =>
    cases es with
    | nil => exact Script.looksAt_pure _
    | cons e es =>
      obtain ⟨he, hes⟩ := List.forall_mem_append.mp ht
      exact .bind (.task he) fun v ↦ .bind (.task hes) fun vs ↦ Script.looksAt_pure _
  | evalEntries table es =>
    cases es with
    | nil => exact Script.looksAt_pure _
    | cons entry es =>
      obtain ⟨he, hes⟩ := List.forall_mem_append.mp ht
      exact .bind (.task he) fun v ↦ .task hes
  | valueOf name =>
    refine .bind (looks_resolve ht) fun b ↦ ?_
    match b with
    | some (.variable v) => exact Script.looksAt_pure _
    | some (.routine level) => exact .task ht
    | none =>
      exact .bind (looks_bindScript ht) fun b ↦
        Script.looksAt_ite (.task ht) (Script.looksAt_pure _)
  | call name args =>
    refine .bind (looks_resolve ht) fun b ↦ ?_
    match b with
    | some (.variable v) => exact Script.looksAt_ofExcept _
    | some (.routine level) => exact .task ht
    | none =>
      exact .bind (looks_bindScript ht) fun b ↦
        Script.looksAt_ite (.task ht) (Script.looksAt_ofExcept _)
  | invoke name args level => exact h.looks_invoke args level ht
  | bindAll params args =>
    cases params with
    | nil => exact Script.looksAt_pure _
    | cons p ps => exact looks_bindAll p ps args ht
  | evalPipeline p => exact .orIfUnknown (h.looks_pipelineScript ht)
  | runFilters v steps fs =>
    cases steps with
    | nil => exact Script.looksAt_pure _
    | cons step steps =>
      cases fs with
      | nil => exact Script.looksAt_pure _
      | cons f fs =>
        obtain ⟨hroots, hblind⟩ := ht
        obtain ⟨hargs, hroots⟩ := List.forall_mem_append.mp hroots
        obtain ⟨hf, hfs⟩ := List.forall_mem_cons.mp hblind
        exact .bind (.task hargs) fun vs ↦ .bind (looks_view hf _ _) fun w ↦ .task ⟨hroots, hfs⟩
  | runNodeFilters v names =>
    cases names with
    | nil => exact Script.looksAt_pure _
    | cons name names =>
      obtain ⟨hname, hnames⟩ := List.forall_mem_cons.mp ht
      rw [script]
      cases hf : filter env name with
      | error e => exact Script.looksAt_ofExcept _
      | ok f => exact .bind (looks_view (h.isBlind hname hf) _ _) fun w ↦ .task hnames
  | render n => exact looks_renderScript n ht
  | renderAll ns =>
    cases ns with
    | nil => exact Script.looksAt_pure _
    | cons n ns =>
      obtain ⟨hn, hns⟩ := chainsWithin_append.mp ht
      exact .bind (.task hn) fun here ↦ .bind (.task hns) fun rest ↦ Script.looksAt_pure _
  | renderFirst branches =>
    cases branches with
    | nil => exact Script.looksAt_pure _
    | cons branch branches =>
      obtain ⟨hfirst, hbranches⟩ := chainsWithin_append.mp ht
      obtain ⟨htest, -, hbody⟩ := chainsWithin_cons.mp hfirst
      refine .bind (.task htest) fun v ↦ Script.looksAt_ite ?_ (.task hbranches)
      exact .bind (.task hbody) fun out ↦ Script.looksAt_pure _
  | renderRuns valueName keyName body i n pairs =>
    cases pairs with
    | nil => exact Script.looksAt_pure _
    | cons pair pairs =>
      exact .bind (.inFrame (.task ht)) fun here ↦ .bind (.task ht) fun rest ↦
        Script.looksAt_pure _

/-! ### The runs go the same way -/

/-- Tasks about the names and the filters lead to the same in both renderings. -/
def mirrored (N F : String → Prop) (env' : Environment) (macros' : List (String × MacroDecl))
    (most : Nat) : Contract Task :=
  (steady most).and ((handler env' macros').mirrored N (Within N F))

/-- Whatever a task leads to in one rendering it leads to in the other, from scopes that agree. -/
theorem Corresponds.keptBy (h : Corresponds N F env env' macros macros') {most : Nat}
    (hmost : env.callLimit ≤ most) :
    (mirrored N F env' macros' most).KeptBy (code env macros) := by
  rintro α d task s ⟨hsteady, hwithin⟩
  have hlength : (task.script env macros d).Meets (steady most)
      ((steady most).post d task s) s := steady_keptBy hmost d task s hsteady
  have hs : 0 < s.length := Nat.lt_of_le_of_lt (Nat.zero_le _) hsteady.1
  have hmirrored (t : { t : Scope // s.Agree N t }) :
      (task.script env macros d).Meets ((handler env' macros').mirrored N (Within N F))
        (((handler env' macros').act d task).Mirrors N t.1) s := by
    have ht : t.1 ≠ [] := List.ne_nil_of_length_pos (t.2.length_eq ▸ hs)
    apply ((h.looks_script hwithin).meets t.2).mono
    rintro r s' ⟨t', hrun, hagree⟩
    rw [← h.script_eq hwithin, act_script _ _ _ task t.1 ht] at hrun
    exact ⟨t', hrun, hagree⟩
  have : Nonempty { t : Scope // s.Agree N t } := ⟨⟨s, .refl s⟩⟩
  apply (hlength.and (Script.Meets.forall hmirrored)).mono
  rintro r s' ⟨hlength, hr⟩
  exact ⟨hlength, fun t ht ↦ hr ⟨t, ht⟩⟩

end Task

/-! ### Renderings -/

namespace Template

/-- A rendering depends only on what the template mentions. With the same nodes, the same last
declarations of the macros that are mentioned, contexts that are maps with the same values for the
names that are mentioned, the same escaping and limit of calls, and the same built-in filters, or
none, for the filters that are used, the result is the same. -/
theorem render_eq_of_mentions {t t' : Template} {env env' : Environment} {context context' : Datum}
    {names names' : List String} {rows : Rows names} {rows' : Rows names'}
    (hnodes : t'.nodes = t.nodes)
    (hmacros : ∀ name, t.Mentions name → t'.decl? name = t.decl? name)
    (hcontext : Value.ofDatum context = .ok (.map rows))
    (hcontext' : Value.ofDatum context' = .ok (.map rows'))
    (hentries : ∀ name, t.Mentions name →
      Entries.get? name rows'.entries = Entries.get? name rows.entries)
    (hescaping : env'.escaping = env.escaping) (hlimit : env'.callLimit = env.callLimit)
    (hfilters : ∀ name, t.UsesFilter name → env'.filter? name = env.filter? name ∧
      ∀ f, env.filter? name = some f →
    ∃ around, ∃ e ∈ Filter.builtins around, f = e.2) :
    t'.render env' context' = t.render env context := by
  have h : Task.Corresponds t.Mentions t.UsesFilter env env' t.macroTable t'.macroTable := by
    refine ⟨fun name hname ↦ ?_, fun name m hname hm ↦ ?_, fun name hname ↦ (hfilters name hname).1,
      fun name f hname ↦ (hfilters name hname).2 f, hescaping, hlimit⟩
    · rw [get?_macroTable, get?_macroTable, hmacros name hname]
    · rw [get?_macroTable] at hm
      exact ⟨fun _ ↦ .decl hname hm, fun _ ↦ .decl hname hm⟩
  have hwithin : (Task.renderAll t.nodes).Within t.Mentions t.UsesFilter := by
    intro c hc
    refine ⟨fun name hname ↦ .nodes ?_, fun filter hfilter ↦ .nodes ?_⟩
    · exact List.mem_flatMap.mpr ⟨c, hc, hname⟩
    · exact List.mem_flatMap.mpr ⟨c, hc, hfilter⟩
  have hstart : Scope.ofDatum context = .ok [⟨rows.entries, []⟩] := by
    rw [Scope.ofDatum, hcontext]
    rfl
  have hstart' : Scope.ofDatum context' = .ok [⟨rows'.entries, []⟩] := by
    rw [Scope.ofDatum, hcontext']
    rfl
  have hagree : Scope.Agree t.Mentions [⟨rows.entries, []⟩] [⟨rows'.entries, []⟩] := by
    refine .cons (fun name hname ↦ ⟨(hentries name hname).symm, Iff.rfl⟩) .nil
  have hpost := Task.post_act (h.keptBy (Nat.le_refl _)) (d := 0) (.renderAll t.nodes)
    (Scope.length_pos_of_ofDatum hstart)
    ⟨⟨Scope.length_pos_of_ofDatum hstart, Nat.zero_le _⟩, hwithin⟩
  obtain ⟨s', hrun, -⟩ := hpost.2 _ hagree
  rw [Task.handler_act] at hrun
  rw [t.render_of_ok env hstart, t'.render_of_ok env' hstart', hnodes, hrun]

/-- Macros, names and filters that are not mentioned make no difference. -/
theorem render_eq_of_mentions_greeting :
    let call : Node := .interpolation ⟨"m()", .call (.path "m" []) [], [], false⟩ []
    let greeting : Node :=
      .interpolation ⟨"name | upper", .path "name" [], [⟨"upper", []⟩], false⟩ []
    let t : Template := ⟨[call], [⟨⟨"m", []⟩, [greeting]⟩]⟩
    let t' : Template := ⟨[call], [⟨⟨"m", []⟩, [greeting]⟩, ⟨⟨"other", []⟩, []⟩]⟩
    t'.render (Environment.new.addFilter "later" fun _ _ ↦ .ok .null)
        (.map [(.text "age", .integer 36), (.text "name", .text "Ada")]) =
      t.render Environment.new (.map [(.text "name", .text "Ada")]) := by
  intro call greeting t t'
  have hdecl {name : String} {m : MacroDecl} (hm : t.decl? name = some m) :
      m = ⟨⟨"m", []⟩, [greeting]⟩ :=
    List.mem_singleton.mp (List.mem_of_find?_eq_some hm)
  have hnames {name : String} (h : t.Mentions name) : name = "m" ∨ name = "name" := by
    cases h with
    | nodes h => exact .inl (List.mem_singleton.mp h)
    | decl _ hm h =>
      cases hdecl hm
      exact .inr (List.mem_singleton.mp h)
  have hfilters {name : String} (h : t.UsesFilter name) : name = "upper" := by
    cases h with
    | nodes h => cases h
    | decl _ hm h =>
      cases hdecl hm
      exact List.mem_singleton.mp h
  have hcontext : Value.ofDatum (.map [(.text "name", .text "Ada")]) =
      .ok (.ofTable (.ofList [("name", .plain "Ada")])) := rfl
  have hcontext' : Value.ofDatum (.map [(.text "age", .integer 36), (.text "name", .text "Ada")]) =
      .ok (.ofTable (.ofList [("age", .int 36), ("name", .plain "Ada")])) := rfl
  refine render_eq_of_mentions rfl ?_ hcontext hcontext' ?_ rfl rfl ?_
  · intro name h
    rcases hnames h with rfl | rfl <;> rfl
  · intro name h
    rcases hnames h with rfl | rfl <;> rfl
  · intro name h
    cases hfilters h
    refine ⟨rfl, fun f hf ↦ ?_⟩
    obtain ⟨around, hmem⟩ := Environment.onlyBuiltins_new.exists_mem hf
    exact ⟨around, _, hmem, rfl⟩

end Template

end Stencil
