import Stencil.Proofs.Dependence
import Stencil.Proofs.Isolation

/-!
# The runs of a loop

A run of a loop starts in a frame of its own and leaves nothing behind. Runs over the same value
differ in their index and in what the loop says about them, so where neither is mentioned a run
writes what its value leads to, whichever runs there are besides it.
-/

namespace Stencil

/-- Whether a name is neither the one of the index nor the one of what a loop says about its
runs. -/
def IsRunFree (keyName : Option String) (name : String) : Prop :=
  name ≠ "loop" ∧ keyName ≠ some name

instance (keyName : Option String) (name : String) : Decidable (IsRunFree keyName name) :=
  inferInstanceAs (Decidable (_ ∧ _))

/-- The values that a sequence is gone through with are its items. -/
theorem Value.map_snd_iterationPairs_seq (items : List Value) :
    (Value.seq items).iterationPairs.map Prod.snd = items := by
  rw [iterationPairs, List.map_map]
  exact List.zipIdx_map_fst 0 items

/-! ### Frames of runs -/

/-- Frames that agree on names do so with another name bound, whatever it is bound to. -/
theorem Frame.Agree.set_of_not {N : String → Prop} {f g : Frame} (h : f.Agree N g) {name : String}
    (hname : ¬N name) (v w : Value) : (f.set name v).Agree N (g.set name w) := by
  intro key hkey
  have hne : key ≠ name := fun heq ↦ hname (heq ▸ hkey)
  obtain ⟨hvars, hmacros⟩ := h key hkey
  simp only [Frame.set, Entries.get?_insert, if_neg hne, hvars, List.mem_filter, hmacros, and_self]

/-- The frames of two runs over the same value agree on all names but those of the index and of what
the loop says. -/
theorem loopFrame_agree (valueName : String) (keyName : Option String) (v : Value)
    (key key' : Value) (i i' n n' : Nat) :
    (loopFrame valueName keyName (key, v) i n).Agree (IsRunFree keyName)
      (loopFrame valueName keyName (key', v) i' n') := by
  have hvalue := (Frame.Agree.refl (N := IsRunFree keyName) .empty).set valueName v
  have hloop : ¬IsRunFree keyName "loop" := fun h ↦ h.1 rfl
  cases keyName with
  | none => exact hvalue.set_of_not hloop _ _
  | some name =>
    have hkey : ¬IsRunFree (some name) name := fun h ↦ h.2 rfl
    exact (hvalue.set_of_not hkey key key').set_of_not hloop _ _

/-! ### Runs -/

/-- What a loop needs for its runs not to know of each other: there are no filters but the built-in
ones and no parts for the outermost frame, and neither the body of the loop nor a macro mentions the
index or what the loop says about its runs. -/
structure Node.RunFree (env : Environment) (macros : List (String × MacroDecl))
    (keyName : Option String) (body : List Node) : Prop where
  /-- All filters are built in. -/
  onlyBuiltins : env.OnlyBuiltins
  /-- The body has no parts for the outermost frame. -/
  inner : Node.AllOf (fun n ↦ ¬n.IsOutermost) body
  /-- The bodies of the macros have no such parts either. -/
  inner_macros : ∀ m ∈ macros, Node.AllOf (fun n ↦ ¬n.IsOutermost) m.2.body
  /-- The body does not mention what tells the runs apart. -/
  names : ∀ name ∈ Node.names body, IsRunFree keyName name
  /-- The macros do not mention it in their bodies or defaults. -/
  names_macros : ∀ m ∈ macros, ∀ name ∈ m.2.names, IsRunFree keyName name

namespace Node.RunFree

variable {env : Environment} {macros : List (String × MacroDecl)} {keyName : Option String}
  {body : List Node} (h : RunFree env macros keyName body) (d : Nat) (valueName : String)
  {s : Scope}

include h

private theorem corresponds :
    Task.Corresponds (IsRunFree keyName) (fun _ ↦ True) env env macros macros where
  decl_eq _ _ := rfl
  within _ _ _ hm := ⟨h.names_macros _ (Entries.mem_of_get? hm), fun _ _ ↦ trivial⟩
  filter?_eq _ _ := rfl
  builtin _ _ _ hf := (h.onlyBuiltins.exists_mem hf).imp fun _ hmem ↦ ⟨_, hmem, rfl⟩
  escaping_eq := rfl
  callLimit_eq := rfl

private theorem within : (Task.renderAll body).Within (IsRunFree keyName) fun _ ↦ True := by
  intro chain hchain
  refine ⟨fun name hname ↦ h.names name ?_, fun _ _ ↦ trivial⟩
  exact List.mem_flatMap.mpr ⟨chain, hchain, hname⟩

private theorem run_renderAll_eq {f g : Frame} (hfg : f.Agree (IsRunFree keyName) g) :
    ((Node.renderAll (Task.setting env macros d) body).run.run (f :: s)).1 =
      ((Node.renderAll (Task.setting env macros d) body).run.run (g :: s)).1 := by
  have hlength : 0 < (f :: s).length := Nat.zero_lt_succ _
  have hkept : (Task.mirrored (IsRunFree keyName) (fun _ ↦ True) env macros
      (max env.callLimit d)).KeptBy (Task.code env macros) :=
    h.corresponds.keptBy (Nat.le_max_left _ _)
  have hpost := Task.post_act hkept (.renderAll body) hlength
    ⟨⟨hlength, Nat.le_max_right _ _⟩, h.within⟩
  obtain ⟨t', hrun, -⟩ := hpost.2 (g :: s) (.cons hfg (Scope.Agree.refl s))
  rw [Task.handler_act] at hrun
  exact (congrArg Prod.fst hrun).symm

private theorem run_inFrame_snd (f : Frame) :
    ((Action.inFrame f (Node.renderAll (Task.setting env macros d) body)).run.run s).2 = s := by
  have hkept : Task.isolated.KeptBy (Task.code env macros) := Task.isolated_keptBy h.inner_macros
  have hlength : 0 < (f :: s).length := Nat.zero_lt_succ _
  have hpost := Task.post_act hkept (d := d) (.renderAll body) hlength
    ⟨List.cons_ne_nil f s, h.inner⟩
  exact Scope.Confined.tail_eq hpost

/-- What a run over a value writes. -/
private def once (env : Environment) (macros : List (String × MacroDecl)) (d : Nat)
    (valueName : String) (keyName : Option String) (body : List Node) (s : Scope) (v : Value) :
    Except Error (List Char) :=
  ((Action.inFrame (loopFrame valueName keyName (.undefined, v) 0 0)
    (Node.renderAll (Task.setting env macros d) body)).run.run s).1

private theorem run_renderRuns (i n : Nat) (pairs : List (Value × Value)) :
    (renderRuns valueName keyName (Node.renderAll (Task.setting env macros d) body) i n
        pairs).run.run s =
      (((pairs.map Prod.snd).mapM (once env macros d valueName keyName body s)).map List.flatten,
        s) := by
  induction pairs generalizing i with
  | nil => rfl
  | cons pair pairs ih =>
    have hagree := loopFrame_agree valueName keyName pair.2 pair.1 .undefined i 0 n 0
    have hrun : (Action.inFrame (loopFrame valueName keyName pair i n)
        (Node.renderAll (Task.setting env macros d) body)).run.run s =
          (once env macros d valueName keyName body s pair.2, s) :=
      Prod.ext (h.run_renderAll_eq d hagree) (h.run_inFrame_snd d _)
    rw [renderRuns, List.map_cons, List.mapM_cons]
    cases hhere : once env macros d valueName keyName body s pair.2 with
    | error e =>
      rw [hhere] at hrun
      rw [Action.run_bind_error hrun]
      rfl
    | ok here =>
      rw [hhere] at hrun
      rw [Action.run_bind_ok hrun, ExceptT.run_bind, StateT.run_bind, ih]
      cases (pairs.map Prod.snd).mapM (once env macros d valueName keyName body s) <;> rfl

private theorem run_render_loop {p : Pipeline} {items : List Value}
    (hp : (p.eval (Task.setting env macros d)).run.run s = (.ok (.seq items), s)) :
    (((Node.loop valueName keyName p body).render (Task.setting env macros d)).run.run s).1 =
      (items.mapM (once env macros d valueName keyName body s)).map List.flatten := by
  have hruns := h.run_renderRuns d valueName (s := s) 0 (Value.seq items).iterationPairs.length
    (Value.seq items).iterationPairs
  rw [Value.map_snd_iterationPairs_seq] at hruns
  rw [Node.render, Action.run_bind_ok hp]
  exact congrArg Prod.fst hruns

end Node.RunFree

/-- A loop over two sequences in a row writes what the loops over each of them write, one behind the
other, and where the first of them fails it fails in the same way: its runs know neither of each
other nor of how many they are. -/
theorem Node.render_loop_append {env : Environment} {macros : List (String × MacroDecl)}
    {keyName : Option String} {body : List Node} (h : RunFree env macros keyName body) (d : Nat)
    (valueName : String) {s : Scope} {p q r : Pipeline} {xs ys : List Value}
    (hp : (p.eval (Task.setting env macros d)).run.run s = (.ok (.seq xs), s))
    (hq : (q.eval (Task.setting env macros d)).run.run s = (.ok (.seq ys), s))
    (hr : (r.eval (Task.setting env macros d)).run.run s = (.ok (.seq (xs ++ ys)), s)) :
    let out (iterable : Pipeline) : Except Error (List Char) :=
      (((Node.loop valueName keyName iterable body).render
        (Task.setting env macros d)).run.run s).1
    out r = do return (← out p) ++ (← out q) := by
  simp only [h.run_render_loop d valueName hp, h.run_render_loop d valueName hq,
    h.run_render_loop d valueName hr, List.mapM_append]
  cases xs.mapM (RunFree.once env macros d valueName keyName body s) with
  | error e => rfl
  | ok outs =>
    cases ys.mapM (RunFree.once env macros d valueName keyName body s) with
    | error e => rfl
    | ok outs' => exact congrArg Except.ok List.flatten_append

/-- A macro that binds a variable of its own, called in each run with the value of the run. -/
theorem Node.render_loop_append_macro :
    let value (v : Value) : Pipeline := ⟨"", .const v, [], false⟩
    let shown (name : String) : Node := .interpolation ⟨name, .path name [], [], false⟩ []
    let macros : List (String × MacroDecl) :=
      [("m", ⟨⟨"m", [⟨"x", some (.path "y" [])⟩]⟩, [shown "x", .assignment "x" (value .null)]⟩)]
    let body : List Node :=
      [.interpolation ⟨"m(v)", .call (.path "m" []) [.path "v" []], [], false⟩ [],
        .assignment "v" (value .null), shown "v"]
    let out (items : List Value) : Except Error (List Char) :=
      (((Node.loop "v" (some "i") (value (.seq items)) body).render
        (Task.setting .new macros 0)).run.run [.empty]).1
    RunFree .new macros (some "i") body ∧
      out [.bool true, .plain "a", .plain "b"] =
        (do return (← out [.bool true]) ++ (← out [.plain "a", .plain "b"])) := by
  intro value shown macros body out
  have h : RunFree .new macros (some "i") body := by
    refine ⟨Environment.onlyBuiltins_new, ⟨id, id, id, trivial⟩, ?_, by decide, by decide⟩
    intro m hm
    cases List.mem_singleton.mp hm
    exact ⟨id, id, trivial⟩
  exact ⟨h, @Node.render_loop_append _ _ _ _ h 0 "v" _ _ _ _ [.bool true] [.plain "a", .plain "b"]
    rfl rfl rfl⟩

end Stencil
