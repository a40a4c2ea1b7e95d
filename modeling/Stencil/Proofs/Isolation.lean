import Stencil.Proofs.Termination

/-!
# What a rendering leaves alone

Writing goes to the innermost frame, and loops and macros have frames of their own. So a rendering
changes nothing but the frame that it starts in, unless there are parts for the outermost frame.
Evaluating does not even change variables: it binds macros by names that stand for nothing.
-/

namespace Stencil

namespace Scope

/-- Nothing but the innermost frame is different afterwards. -/
def Confined (s s' : Scope) : Prop := ∃ f f' fs, s = f :: fs ∧ s' = f' :: fs

/-- The innermost frame binds more macros afterwards, by names that stood for nothing before.
Nothing else is different. -/
def BindsMore (s s' : Scope) : Prop :=
  ∃ f fs names, s = f :: fs ∧ s' = ⟨f.vars, names ++ f.macros⟩ :: fs ∧
    ∀ name ∈ names, s.resolve name = none

/-! ### Changes of the innermost frame -/

private theorem Confined.refl {s : Scope} (hs : s ≠ []) : Confined s s := by
  obtain ⟨f, fs, rfl⟩ := List.exists_cons_of_ne_nil hs
  exact ⟨f, f, fs, rfl, rfl⟩

private theorem Confined.trans {s s' s'' : Scope} (h : Confined s s') (h' : Confined s' s'') :
    Confined s s'' := by
  obtain ⟨f, f', fs, rfl, rfl⟩ := h
  obtain ⟨g, g', gs, heq, rfl⟩ := h'
  cases heq
  exact ⟨f, g', fs, rfl, rfl⟩

private theorem Confined.ne_nil {s s' : Scope} (h : Confined s s') : s' ≠ [] := by
  obtain ⟨f, f', fs, rfl, rfl⟩ := h
  exact List.cons_ne_nil _ _

private theorem Confined.of_tail {s s' : Scope} (hs : s ≠ []) (hlength : s'.length = s.length)
    (htail : s'.tail = s.tail) : Confined s s' := by
  obtain ⟨f, fs, rfl⟩ := List.exists_cons_of_ne_nil hs
  cases s' with
  | nil => cases hlength
  | cons f' fs' =>
    cases htail
    exact ⟨f, f', fs, rfl, rfl⟩

private theorem Confined.set {s s' : Scope} (h : Confined s s') (name : String) (v : Value) :
    Confined s (s'.set name v) :=
  h.trans (.of_tail h.ne_nil (length_set s' name v) (tail_set s' name v))

private theorem Confined.bindMacro {s s' : Scope} (h : Confined s s') (name : String) :
    Confined s (s'.bindMacro name) :=
  h.trans (.of_tail h.ne_nil (length_bindMacro s' name) (tail_bindMacro s' name))

/-- What is confined to the innermost frame leaves the others alone. -/
theorem Confined.tail_eq {f : Frame} {s s' : Scope} (h : Confined (f :: s) s') :
    s'.tail = s := by
  obtain ⟨f, f', fs, heq, rfl⟩ := h
  cases heq
  rfl

/-! ### New bindings of macros -/

private theorem BindsMore.confined {s s' : Scope} (h : BindsMore s s') : Confined s s' := by
  obtain ⟨f, fs, names, rfl, rfl, -⟩ := h
  exact ⟨f, _, fs, rfl, rfl⟩

private theorem BindsMore.refl {s : Scope} (hs : s ≠ []) : BindsMore s s := by
  obtain ⟨f, fs, rfl⟩ := List.exists_cons_of_ne_nil hs
  exact ⟨f, fs, [], rfl, rfl, by simp⟩

private theorem BindsMore.resolve_eq_none {s s' : Scope} (h : BindsMore s s') {name : String}
    (hname : s'.resolve name = none) : s.resolve name = none := by
  obtain ⟨f, fs, names, rfl, rfl, -⟩ := h
  rw [Scope.resolve_eq_none, List.forall_mem_cons] at hname ⊢
  refine ⟨⟨hname.1.1, fun hm ↦ hname.1.2 ?_⟩, hname.2⟩
  exact List.mem_append_right _ hm

private theorem BindsMore.trans {s s' s'' : Scope} (h : BindsMore s s') (h' : BindsMore s' s'') :
    BindsMore s s'' := by
  have hold (name : String) (hname : s'.resolve name = none) : s.resolve name = none :=
    h.resolve_eq_none hname
  obtain ⟨f, fs, names, rfl, rfl, hnames⟩ := h
  obtain ⟨g, gs, names', heq, rfl, hnames'⟩ := h'
  cases heq
  refine ⟨f, fs, names' ++ names, rfl, by simp, ?_⟩
  intro name hname
  rcases List.mem_append.mp hname with hname | hname
  · exact hold name (hnames' name hname)
  · exact hnames name hname

private theorem bindsMore_bindMacro {s : Scope} {name : String} (hs : s ≠ [])
    (hr : s.resolve name = none) : BindsMore s (s.bindMacro name) := by
  obtain ⟨f, fs, rfl⟩ := List.exists_cons_of_ne_nil hs
  obtain ⟨hvars, hmacros⟩ := Scope.resolve_eq_none.mp hr f List.mem_cons_self
  refine ⟨f, fs, [name], rfl, ?_, ?_⟩
  · unfold bindMacro
    simp [hr, Frame.bindMacro, Entries.filter_ne_of_get?_eq_none hvars, hmacros]
  · simpa using hr

end Scope

/-- Whether a node is a part for the outermost frame. -/
def Node.IsOutermost : Node → Prop
  | .outermost _ => True
  | _ => False

namespace Task

/-- What may be different in the scope once a task is done. -/
def Keeps : {α : Type} → Task α → Scope → Scope → Prop
  | _, .invoke _ _ _ => fun s s' ↦ s' = s
  | _, .bindAll _ _ => Scope.Confined
  | _, .render (.loop _ _ _ _) => Scope.BindsMore
  | _, .render _ => Scope.Confined
  | _, .renderAll _ => Scope.Confined
  | _, .renderFirst _ => Scope.Confined
  | _, _ => Scope.BindsMore

/-- Tasks without parts for the outermost frame leave alone what they are not about. -/
def isolated : Contract Task where
  pre _ t s := s ≠ [] ∧ t.AllNodes fun n ↦ ¬n.IsOutermost
  post _ t s _ s' := t.Keeps s s'

variable {env : Environment} {macros : List (String × MacroDecl)} {d : Nat}

private theorem Keeps.confined {α : Type} {t : Task α} {s s' : Scope} (hs : s ≠ [])
    (h : t.Keeps s s') : s.Confined s' := by
  cases t with
  | invoke name args level =>
    cases h
    exact Scope.Confined.refl hs
  | bindAll params args => exact h
  | render n =>
    cases n with
    | loop valueName keyName iterable body => exact Scope.BindsMore.confined h
    | _ => exact h
  | renderAll ns => exact h
  | renderFirst branches => exact h
  | _ => exact Scope.BindsMore.confined h

private theorem Keeps.refl {α : Type} (t : Task α) {s : Scope} (hs : s ≠ []) : t.Keeps s s := by
  cases t with
  | invoke name args level => rfl
  | bindAll params args => exact Scope.Confined.refl hs
  | render n =>
    cases n with
    | loop valueName keyName iterable body => exact Scope.BindsMore.refl hs
    | _ => exact Scope.Confined.refl hs
  | renderAll ns => exact Scope.Confined.refl hs
  | renderFirst branches => exact Scope.Confined.refl hs
  | _ => exact Scope.BindsMore.refl hs

private theorem Keeps.of_names {o : Outcome} {α β : Type} {t : Task α} {t' : Task β}
    (h : o.Names env t t') {s s₁ s₂ : Scope} (hs : t.Keeps s s₁) (hs₁ : s₁ ≠ [])
    (ht : t'.Keeps s₁ s₂) : t.Keeps s s₂ := by
  have hconfined : s₁.Confined s₂ := ht.confined hs₁
  cases h <;> first | exact Scope.BindsMore.trans hs ht | exact Scope.Confined.trans hs hconfined

private theorem allNodes_of_names {o : Outcome} {P : Node → Prop} {α β : Type} {t : Task α}
    {t' : Task β} (h : o.Names env t t') (ht : t.AllNodes P) : t'.AllNodes P := by
  cases h with
  | body test body others otherwise =>
    rw [AllNodes, Node.All] at ht
    exact ht.2.1
  | others test body others otherwise =>
    rw [AllNodes, Node.All] at ht
    exact ht.2.2.1
  | otherwise test body others nodes =>
    rw [AllNodes, Node.All] at ht
    exact ht.2.2.2
  | runs valueName keyName iterable body _ => exact ht.2
  | node n ns => exact ht.1
  | moreNodes n ns => exact ht.2
  | branch test body branches => exact ht.1
  | moreBranches test body branches => exact ht.2
  | _ => trivial

/-! ### Scripts -/

private theorem meets_isolated {α : Type} {t : Task α} {K : Scope → Prop} {s : Scope}
    (hs : s ≠ []) (ht : t.AllNodes fun n ↦ ¬n.IsOutermost) (hK : ∀ s', t.Keeps s s' → K s') :
    (Script.task d t).Meets isolated
      (Settles K (Outcome.any.Gives t) (Outcome.any.Fails t)) s := by
  refine ⟨⟨hs, ht⟩, fun r s' h ↦ ⟨hK s' h, fun x _ ↦ ?_, fun e _ ↦ ?_⟩⟩
  · exact Outcome.gives_any t x
  · exact Outcome.fails_any t e

/-- Whether the script of a task leaves alone what the task is not about. -/
private def IsIsolated (env : Environment) (macros : List (String × MacroDecl)) (d : Nat)
    {α : Type} (t : Task α) (s : Scope) : Prop :=
  (t.script env macros d).Meets isolated
    (Settles (t.Keeps s) (Outcome.any.Gives t) (Outcome.any.Fails t)) s

private theorem isolated_plain {α : Type} (t : Task α) (s : Scope) (hs : s ≠ [])
    (ht : t.AllNodes fun n ↦ ¬n.IsOutermost) (hplain : Outcome.IsPlain t) :
    IsIsolated env macros d t s := by
  have hset (hsets : Outcome.SetsVariables t) (s₁ : Scope) (name : String) (v : Value)
      (hs₁ : t.Keeps s s₁) (_ : Outcome.any.value v) : t.Keeps s (s₁.set name v) := by
    cases t with
    | bindAll params args => exact Scope.Confined.set hs₁ name v
    | render n =>
      cases n with
      | assignment name' p => exact Scope.Confined.set hs₁ name v
      | _ => exact absurd hsets id
    | _ => exact absurd hsets id
  have hbind (hbinds : Outcome.BindsMacros t) (s₁ : Scope) (name : String)
      (hs₁ : t.Keeps s s₁) : t.Keeps s (s₁.bindMacro name) := by
    cases t with
    | render n =>
      cases n with
      | interpolation p names => exact Scope.Confined.bindMacro hs₁ name
      | _ => exact absurd hbinds id
    | _ => exact absurd hbinds id
  refine Outcome.walks_script Outcome.isClosed_any t hplain (Outcome.admits_any env t) hset hbind
    ?_ s (.refl t hs)
  intro β t' hnames s₁ hs₁
  have hconfined : s.Confined s₁ := Keeps.confined hs hs₁
  have hne := hconfined.ne_nil
  exact meets_isolated hne (allNodes_of_names hnames ht) fun s₂ h ↦ .of_names hnames hs₁ hne h

private theorem isolated_valueOf (name : String) (s : Scope) (hs : s ≠ []) :
    IsIsolated env macros d (.valueOf name) s := by
  have h := Scope.BindsMore.refl hs
  refine Outcome.settles_valueOf Outcome.isClosed_any h ?_ ?_ ?_
  · exact fun _ _ ↦ trivial
  · intro level _
    exact meets_isolated hs trivial fun s' h' ↦ h'.symm ▸ h
  · intro hr
    have hbound := Scope.bindsMore_bindMacro hs hr
    exact meets_isolated hbound.confined.ne_nil trivial fun s' h' ↦ hbound.trans h'

private theorem isolated_call (name : String) (args : List Value) (s : Scope) (hs : s ≠ []) :
    IsIsolated env macros d (.call name args) s := by
  have h := Scope.BindsMore.refl hs
  refine Outcome.settles_call Outcome.isClosed_any h ?_ ?_
  · intro level _
    exact meets_isolated hs trivial fun s' h' ↦ h'.symm ▸ h
  · intro hr
    have hbound := Scope.bindsMore_bindMacro hs hr
    exact meets_isolated hbound.confined.ne_nil trivial fun s' h' ↦ hbound.trans h'

private theorem isolated_invoke
    (hmacros : ∀ m ∈ macros, Node.AllOf (fun n ↦ ¬n.IsOutermost) m.2.body) (name : String)
    (args : List Value) (level : Nat) (s : Scope) :
    IsIsolated env macros d (.invoke name args level) s := by
  have hnamed {α : Type} (t : Task α) (ht : t.AllNodes fun n ↦ ¬n.IsOutermost)
      (hkeeps : t.Keeps = Scope.Confined) :
      (Script.task (d + 1) t).Walks isolated (Scope.Confined (.empty :: s.drop level))
        (Outcome.any.Gives t) (Outcome.any.Fails t) := by
    intro s₁ hs₁
    exact meets_isolated hs₁.ne_nil ht fun s₂ h ↦ hs₁.trans (hkeeps ▸ h)
  refine Outcome.settles_invoke Outcome.isClosed_any
    (L := Scope.Confined (.empty :: s.drop level)) rfl (.refl (List.cons_ne_nil _ _)) ?_ ?_ ?_
  · intro s₁ hs₁
    rw [hs₁.tail_eq]
    exact List.take_append_drop level s
  · exact fun m _ _ ↦ hnamed (.bindAll m.signature.params args) trivial rfl
  · exact fun m hm _ ↦ hnamed (.renderAll m.body) (hmacros _ (Entries.mem_of_get? hm)) rfl

private theorem isolated_renderRuns (valueName : String) (keyName : Option String)
    (body : List Node) (i n : Nat) (pair : Value × Value) (pairs : List (Value × Value))
    (s : Scope) (hs : s ≠ []) (hbody : Node.AllOf (fun n ↦ ¬n.IsOutermost) body) :
    IsIsolated env macros d (.renderRuns valueName keyName body i n (pair :: pairs)) s := by
  refine Outcome.settles_renderRuns Outcome.isClosed_any
    (L := Scope.Confined (loopFrame valueName keyName pair i n :: s))
    (.refl (List.cons_ne_nil _ _)) ?_ ?_ ?_
  · intro s₁ hs₁
    rw [hs₁.tail_eq]
    exact Scope.BindsMore.refl hs
  · intro s₁ hs₁
    exact meets_isolated hs₁.ne_nil hbody fun s₂ h ↦ hs₁.trans h
  · intro s₁ (hs₁ : s.BindsMore s₁)
    exact meets_isolated hs₁.confined.ne_nil hbody fun s₂ h ↦ hs₁.trans h

private theorem isolated_script
    (hmacros : ∀ m ∈ macros, Node.AllOf (fun n ↦ ¬n.IsOutermost) m.2.body) {α : Type} (t : Task α)
    (s : Scope) (hs : s ≠ []) (ht : t.AllNodes fun n ↦ ¬n.IsOutermost) :
    IsIsolated env macros d t s := by
  by_cases hplain : Outcome.IsPlain t
  · exact isolated_plain t s hs ht hplain
  · cases t with
    | valueOf name => exact isolated_valueOf name s hs
    | call name args => exact isolated_call name args s hs
    | invoke name args level => exact isolated_invoke hmacros name args level s
    | render n =>
      cases n with
      | outermost body => exact absurd trivial ht.1
      | _ => exact absurd trivial hplain
    | renderRuns valueName keyName body i n pairs =>
      cases pairs with
      | nil => exact absurd trivial hplain
      | cons pair pairs => exact isolated_renderRuns valueName keyName body i n pair pairs s hs ht
    | _ => exact absurd trivial hplain

/-- The scripts of tasks without parts for the outermost frame leave alone what the tasks are not
about, if the bodies of the macros have no such parts. -/
theorem isolated_keptBy
    (hmacros : ∀ m ∈ macros, Node.AllOf (fun n ↦ ¬n.IsOutermost) m.2.body) :
    isolated.KeptBy (code env macros) := by
  intro α d t s h
  have hscript : IsIsolated env macros d t s := isolated_script hmacros t s h.1 h.2
  exact hscript.mono fun r s' hs' ↦ hs'.1

end Task

/-! ### Nodes and expressions -/

/-- Without parts for the outermost frame, rendering changes nothing but the innermost frame;
evaluating only binds more macros there, by names that stood for nothing; and so does a loop.
Failures make no difference. -/
theorem Node.rendering_isolated (env : Environment) (macros : List (String × MacroDecl)) (d : Nat)
    (hmacros : ∀ m ∈ macros, Node.AllOf (fun n ↦ ¬n.IsOutermost) m.2.body) (f : Frame)
    (fs : Scope) :
    (∀ ns : List Node, Node.AllOf (fun n ↦ ¬n.IsOutermost) ns →
      Scope.Confined (f :: fs)
        ((Node.renderAll (Task.setting env macros d) ns).run.run (f :: fs)).2) ∧
    (∀ e : Expr,
      Scope.BindsMore (f :: fs) ((e.eval (Task.setting env macros d)).run.run (f :: fs)).2) ∧
    ∀ (valueName : String) (keyName : Option String) (iterable : Pipeline) (body : List Node),
      Node.AllOf (fun n ↦ ¬n.IsOutermost) body →
        Scope.BindsMore (f :: fs)
          (((Node.loop valueName keyName iterable body).render
            (Task.setting env macros d)).run.run (f :: fs)).2 := by
  have hC : Task.isolated.KeptBy (Task.code env macros) := Task.isolated_keptBy hmacros
  have hlength : 0 < (f :: fs).length := Nat.zero_lt_succ _
  have hs : f :: fs ≠ [] := List.cons_ne_nil f fs
  refine ⟨?_, ?_, ?_⟩
  · intro ns hns
    exact Task.post_act hC (d := d) (.renderAll ns) hlength ⟨hs, hns⟩
  · intro e
    exact Task.post_act hC (d := d) (.eval e) hlength ⟨hs, trivial⟩
  · intro valueName keyName iterable body hbody
    exact Task.post_act hC (d := d) (.render (.loop valueName keyName iterable body)) hlength
      ⟨hs, id, hbody⟩

/-- A macro that is called by the default of its own parameter, by an expression, by a variable that
is set, and by a loop. -/
theorem Node.rendering_isolated_self :
    let e : Expr := .call (.path "m" []) []
    let p : Pipeline := ⟨"m()", e, [], false⟩
    let macros : List (String × MacroDecl) := [("m", ⟨⟨"m", [⟨"x", some e⟩]⟩, [.text "t"]⟩)]
    let setting := Task.setting .new macros 0
    let scope : Scope := [⟨[("x", .null)], []⟩, .empty]
    let ns : List Node := [.assignment "x" p]
    (∀ m ∈ macros, Node.AllOf (fun n ↦ ¬n.IsOutermost) m.2.body) ∧
      Node.AllOf (fun n ↦ ¬n.IsOutermost) ns ∧
      scope.Confined ((Node.renderAll setting ns).run.run scope).2 ∧
      scope.BindsMore ((e.eval setting).run.run scope).2 ∧
      scope.BindsMore (((Node.loop "v" none p ns).render setting).run.run scope).2 := by
  intro e p macros setting scope ns
  have hmacros : ∀ m ∈ macros, Node.AllOf (fun n ↦ ¬n.IsOutermost) m.2.body := by
    intro m hm
    cases List.mem_singleton.mp hm
    exact ⟨id, trivial⟩
  have hns : Node.AllOf (fun n ↦ ¬n.IsOutermost) ns := ⟨id, trivial⟩
  obtain ⟨hrender, heval, hloop⟩ :=
    Node.rendering_isolated .new macros 0 hmacros ⟨[("x", .null)], []⟩ [.empty]
  exact ⟨hmacros, hns, hrender ns hns, heval e, hloop "v" none p ns hns⟩

end Stencil
