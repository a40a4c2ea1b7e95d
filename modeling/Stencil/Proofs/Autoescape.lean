import Stencil.Proofs.Markup
import Stencil.Proofs.Reading
import Stencil.Proofs.Termination

/-!
# Renderings without markup

Where everything that is written is escaped, markup can only come from the texts of a template and
from safe texts. Safe texts are made by macros, which are rendered in the same way, and by filters.
So if the texts of the template are inert and no safe text comes in from outside, the variables hold
inert safe texts all along, and the output is inert.
-/

namespace Stencil

/-! ### Templates that write no markup -/

/-- The pipelines of a node itself. -/
def Node.pipelines : Node → List Pipeline
  | .text _ => []
  | .interpolation p _ => [p]
  | .loop _ _ iterable _ => [iterable]
  | .condition test _ others _ => test :: others.map (·.1)
  | .assignment _ p => [p]
  | .outermost _ => []

/-- Whether a node writes no markup by itself: a text is inert, an interpolation is not marked as
safe, and no filter puts breaks into texts. -/
def Node.IsTame (n : Node) : Prop :=
  (∀ p ∈ n.pipelines, "nl2br" ∉ p.filterNames) ∧
    match n with
    | .text s => Text.InertString s
    | .interpolation p filters => p.safe = false ∧ "nl2br" ∉ filters
    | _ => True

/-- Whether the pipelines of a node are read from source texts. -/
def Node.IsRead (n : Node) : Prop := ∀ p ∈ n.pipelines, ∃ source, Pipeline.read source = .ok p

/-- Whether all nodes of a template and of its macros are as described. -/
def Template.AllNodes (P : Node → Prop) (t : Template) : Prop :=
  Node.AllOf P t.nodes ∧ ∀ m ∈ t.macros, Node.AllOf P m.body

/-- Whether the pipelines and the signatures of a template are read from source texts. -/
def Template.IsRead (t : Template) : Prop :=
  t.AllNodes Node.IsRead ∧ ∀ m ∈ t.macros, ∃ source, Signature.read source = .ok m.signature

/-! ### Inert scopes -/

/-- Whether all safe texts in the variables of a scope are inert. -/
def Scope.Inert (s : Scope) : Prop := ∀ f ∈ s, ∀ e ∈ f.vars, e.2.Inert

namespace Scope

private theorem inert_cons {f : Frame} {s : Scope} :
    Inert (f :: s) ↔ (∀ e ∈ f.vars, e.2.Inert) ∧ Inert s := List.forall_mem_cons

private theorem Inert.of_mem {s s' : Scope} (h : s.Inert) (hs : ∀ f ∈ s', f ∈ s) : s'.Inert :=
  fun f hf ↦ h f (hs f hf)

private theorem Inert.tail {s : Scope} (h : s.Inert) : Inert s.tail :=
  h.of_mem fun _ hf ↦ List.mem_of_mem_tail hf

private theorem Inert.drop {s : Scope} (h : s.Inert) (n : Nat) : Inert (s.drop n) :=
  h.of_mem fun _ hf ↦ List.mem_of_mem_drop hf

private theorem Inert.take_append {s s' : Scope} (h : s.Inert) (h' : s'.Inert) (n : Nat) :
    Inert (s.take n ++ s') := by
  intro f hf
  rcases List.mem_append.mp hf with hf | hf
  · exact h f (List.mem_of_mem_take hf)
  · exact h' f hf

private theorem Inert.set {s : Scope} {name : String} {v : Value} (h : s.Inert) (hv : v.Inert) :
    (s.set name v).Inert := by
  cases s with
  | nil => exact h
  | cons f fs =>
    obtain ⟨hf, hfs⟩ := inert_cons.mp h
    exact inert_cons.mpr ⟨Value.safeTexts_insert hf hv, hfs⟩

private theorem Inert.bindMacro {s : Scope} (h : s.Inert) (name : String) :
    (s.bindMacro name).Inert := by
  unfold Scope.bindMacro
  split
  · exact h
  · obtain ⟨hf, hfs⟩ := inert_cons.mp h
    apply inert_cons.mpr
    refine ⟨fun e he ↦ ?_, hfs⟩
    exact hf e (List.mem_filter.mp he).1
  · exact h

private theorem Inert.resolveFrom {s : Scope} {name : String} {level : Nat} {v : Value}
    (h : s.Inert) (hv : Scope.resolveFrom name level s = some (.variable v)) : v.Inert := by
  induction s generalizing level with
  | nil => cases hv
  | cons f fs ih =>
    obtain ⟨hf, hfs⟩ := inert_cons.mp h
    rw [Scope.resolveFrom] at hv
    split at hv
    · next w hw =>
      cases hv
      exact Value.safeTexts_get? hf hw
    · split at hv
      · cases hv
      · exact ih hfs hv

private theorem inert_loopFrame {valueName : String} {keyName : Option String}
    {pair : Value × Value} {i n : Nat} {s : Scope} (h : s.Inert) (hkey : pair.1.Inert)
    (hvalue : pair.2.Inert) : Inert (loopFrame valueName keyName pair i n :: s) := by
  have hinfo : (loopInfo i n).Inert := by
    simp [loopInfo, Entries.ofList, Entries.insert]
  have hempty : Inert (.empty :: s) := inert_cons.mpr ⟨List.forall_mem_nil _, h⟩
  cases keyName with
  | none => exact (hempty.set hvalue).set hinfo
  | some name => exact ((hempty.set hvalue).set hkey).set hinfo

end Scope

/-! ### Inert tasks -/

/-- Inert values and texts, and any failures. -/
def Outcome.inert : Outcome := ⟨Value.Inert, Text.Inert, fun _ ↦ True⟩

private theorem Outcome.allows_inert {r : Except Error Value} (h : ∀ v, r = .ok v → v.Inert) :
    Outcome.inert.Allows r := ⟨h, fun _ _ ↦ trivial⟩

private theorem Outcome.isClosed_inert : Outcome.inert.IsClosed where
  undefined := Value.safeTexts_undefined
  empty := Value.safeTexts_plain
  path _ hv := Value.SafeTexts.path hv
  property _ hv := allows_inert fun _ hw ↦ Value.SafeTexts.property hv hw
  item hv := allows_inert fun _ hw ↦ Value.SafeTexts.item hv hw
  method _ hv hargs := allows_inert fun _ hw ↦ Value.SafeTexts.callMethod hv hargs hw
  unary _ := allows_inert fun _ hw ↦ Value.safeTexts_unary hw
  binary ha hb := allows_inert fun _ hw ↦ Value.safeTexts_binary ha hb hw
  seq hvs := Value.safeTexts_seq.mpr hvs
  map htable := Value.safeTexts_ofTable.mpr htable
  nil := Text.inert_nil
  append ha hb := Text.Inert.append ha hb
  safe hout := Value.inert_text hout
  unknownFilter _ := trivial
  invalidOperation _ := trivial

namespace Task

/-- Whether a pipeline has inert constants and puts no breaks into texts. -/
def InertPipeline (p : Pipeline) : Prop :=
  p.SafeTexts Text.InertString ∧ "nl2br" ∉ p.filterNames

/-- Whether a node writes no markup by itself and has pipelines with inert constants. -/
def InertNode (n : Node) : Prop :=
  n.IsTame ∧ ∀ p ∈ n.pipelines, p.SafeTexts Text.InertString

/-- Whether what a task is about is inert. -/
def Inert : {α : Type} → Task α → Prop
  | _, .eval e => e.SafeTexts Text.InertString
  | _, .evalAll es => Expr.SafeTextsOf Text.InertString es
  | _, .evalEntries table es =>
    (∀ e ∈ table.entries, e.2.Inert) ∧ Expr.SafeTextsOfEntries Text.InertString es
  | _, .valueOf _ => True
  | _, .call _ args => ∀ v ∈ args, v.Inert
  | _, .invoke _ args _ => ∀ v ∈ args, v.Inert
  | _, .bindAll params args => (∀ p ∈ params, p.SafeTexts Text.InertString) ∧ ∀ v ∈ args, v.Inert
  | _, .evalPipeline p => InertPipeline p
  | _, .runFilters v steps filters =>
    v.Inert ∧ (∀ f ∈ steps, f.SafeTexts Text.InertString) ∧
      ∀ f ∈ filters, f.Preserves Text.InertString
  | _, .runNodeFilters v names => v.Inert ∧ "nl2br" ∉ names
  | _, .render n => n.All InertNode
  | _, .renderAll ns => Node.AllOf InertNode ns
  | _, .renderFirst branches =>
    (∀ b ∈ branches, InertPipeline b.1) ∧ Node.AllOfBranches InertNode branches
  | _, .renderRuns _ _ body _ _ pairs =>
    Node.AllOf InertNode body ∧ ∀ pair ∈ pairs, pair.1.Inert ∧ pair.2.Inert

/-- What is inert stays inert. -/
def inert : Contract Task where
  pre _ t s := s.Inert ∧ t.Inert
  post _ t _ r s' := Settles Scope.Inert (Outcome.inert.Gives t) (Outcome.inert.Fails t) r s'

variable {env : Environment} {macros : List (String × MacroDecl)} {d : Nat}

/-! ### What tasks bring along and name -/

private theorem preserves_filter (henv : env.OnlyBuiltins) {name : String} {f : Filter}
    (hname : name ≠ "nl2br") (hf : filter env name = .ok f) : f.Preserves Text.InertString := by
  obtain ⟨around, hmem⟩ := henv.exists_mem (filter?_of_filter hf)
  exact Filter.preserves_builtins around _ hmem hname

private theorem allowsFilter_inert {f : Filter} (hf : f.Preserves Text.InertString) :
    Outcome.inert.AllowsFilter f :=
  fun _ _ hvs ↦ Outcome.allows_inert fun w hw ↦ hf _ _ w hvs hw

private theorem admits_inert (henv : env.OnlyBuiltins) (hhtml : env.escaping = .html) {α : Type}
    (t : Task α) (ht : t.Inert) : Outcome.inert.Admits env t := by
  cases t with
  | eval e =>
    cases e with
    | const v => exact ht
    | _ => trivial
  | evalEntries table es => exact ht.1
  | bindAll params args => exact ht.2
  | runFilters v steps fs => exact ⟨ht.1, fun f hf ↦ allowsFilter_inert (ht.2.2 f hf)⟩
  | runNodeFilters v names =>
    refine ⟨ht.1, fun name hname f hf ↦ ?_⟩
    have hbreaks : name ≠ "nl2br" := fun heq ↦ ht.2 (heq ▸ hname)
    exact allowsFilter_inert (preserves_filter henv hbreaks hf)
  | render n =>
    cases n with
    | text t => exact ht.1.2
    | interpolation p names =>
      intro v hv
      rw [ht.1.2.1, hhtml]
      exact Value.Inert.write hv
    | _ => trivial
  | _ => trivial

private theorem InertNode.pipeline {n : Node} (hn : InertNode n) {p : Pipeline}
    (hp : p ∈ n.pipelines) : InertPipeline p := ⟨hn.2 p hp, hn.1.1 p hp⟩

private theorem inert_of_names (henv : env.OnlyBuiltins) {α β : Type} {t : Task α} {t' : Task β}
    (h : Outcome.inert.Names env t t') (ht : t.Inert) : t'.Inert := by
  cases h with
  | root root names => trivial
  | owner e name => exact ht
  | container e key => exact ht.1
  | key e key => exact ht.2
  | arguments callee args => exact ht.2
  | call root names args hvs => exact hvs
  | object root names args => trivial
  | receiver e method args => exact ht.1
  | operand op e => exact ht
  | left op left right => exact ht.1
  | right op left right => exact ht.2
  | test test yes no => exact ht.1
  | yes test yes no => exact ht.2.1
  | no test yes no => exact ht.2.2
  | items items => exact ht
  | entries entries => exact ⟨List.forall_mem_nil _, ht⟩
  | head e es => exact ht.1
  | tail e es => exact ht.2
  | entry table name e es => exact ht.2.1
  | moreEntries name e es htable hv => exact ⟨Value.safeTexts_insert htable hv, ht.2.2⟩
  | default ps args he => exact (List.forall_mem_cons.mp ht.1).1 _ he
  | moreParams p ps args =>
    exact ⟨(List.forall_mem_cons.mp ht.1).2, fun v hv ↦ ht.2 v (List.mem_of_mem_tail hv)⟩
  | base p => exact ht.1.1
  | steps p hv hfs =>
    refine ⟨hv, ht.1.2, forall_mem_filters (fun step hstep f hf ↦ ?_) hfs⟩
    have hbreaks : step.name ≠ "nl2br" := fun heq ↦ ht.2 (heq ▸ List.mem_map_of_mem hstep)
    exact preserves_filter henv hbreaks hf
  | stepArguments v step steps f fs => exact (List.forall_mem_cons.mp ht.2.1).1
  | moreSteps v step steps f fs hw =>
    exact ⟨hw, (List.forall_mem_cons.mp ht.2.1).2, (List.forall_mem_cons.mp ht.2.2).2⟩
  | moreFilters v name names hw => exact ⟨hw, fun hmem ↦ ht.2 (List.mem_cons_of_mem name hmem)⟩
  | interpolated p names => exact InertNode.pipeline ht List.mem_cons_self
  | nodeFilters p names hv => exact ⟨hv, ht.1.2.2⟩
  | iterable valueName keyName iterable body => exact InertNode.pipeline ht.1 List.mem_cons_self
  | runs valueName keyName iterable body hv => exact ⟨ht.2, Value.SafeTexts.iterationPairs hv⟩
  | condition test body others otherwise => exact InertNode.pipeline ht.1 List.mem_cons_self
  | body test body others otherwise => exact ht.2.1
  | others test body others otherwise =>
    refine ⟨fun b hb ↦ ?_, ht.2.2.1⟩
    exact InertNode.pipeline ht.1 (List.mem_cons_of_mem _ (List.mem_map_of_mem hb))
  | otherwise test body others nodes => exact ht.2.2.2
  | assigned name p => exact InertNode.pipeline ht List.mem_cons_self
  | node n ns => exact ht.1
  | moreNodes n ns => exact ht.2
  | branchTest test body branches => exact (List.forall_mem_cons.mp ht.1).1
  | branch test body branches => exact ht.2.1
  | moreBranches test body branches => exact ⟨(List.forall_mem_cons.mp ht.1).2, ht.2.2⟩

/-! ### Scripts -/

private theorem walks_inert {α : Type} (t : Task α) (ht : t.Inert) :
    (Script.task d t).Walks inert Scope.Inert (Outcome.inert.Gives t) (Outcome.inert.Fails t) :=
  fun _ hs ↦ ⟨⟨hs, ht⟩, fun _ _ h ↦ h⟩

/-- Whether the bodies and the defaults of the macros are inert. -/
def InertMacros (macros : List (String × MacroDecl)) : Prop :=
  ∀ m ∈ macros, Node.AllOf InertNode m.2.body ∧
    ∀ p ∈ m.2.signature.params, p.SafeTexts Text.InertString

private theorem inert_script (henv : env.OnlyBuiltins) (hhtml : env.escaping = .html)
    (hmacros : InertMacros macros) {α : Type} (t : Task α) (s : Scope) (hs : s.Inert)
    (ht : t.Inert) :
    (t.script env macros d).Meets inert
      (Settles Scope.Inert (Outcome.inert.Gives t) (Outcome.inert.Fails t)) s := by
  have hclosed := Outcome.isClosed_inert
  by_cases hplain : Outcome.IsPlain t
  · refine Outcome.walks_script hclosed t hplain (admits_inert henv hhtml t ht)
      (fun _ _ _ _ hs hv ↦ hs.set hv) (fun _ _ name hs ↦ hs.bindMacro name) ?_ s hs
    exact fun hnames ↦ walks_inert _ (inert_of_names henv hnames ht)
  · cases t with
    | valueOf name =>
      refine Outcome.settles_valueOf hclosed hs (fun v hv ↦ hs.resolveFrom hv) ?_ ?_
      · exact fun level _ ↦ walks_inert (.invoke name [] level) (List.forall_mem_nil _) s hs
      · exact fun _ ↦ walks_inert (.call name []) (List.forall_mem_nil _) _ (hs.bindMacro name)
    | call name args =>
      refine Outcome.settles_call hclosed hs ?_ ?_
      · exact fun level _ ↦ walks_inert (.invoke name args level) ht s hs
      · exact fun _ ↦ walks_inert (.call name args) ht _ (hs.bindMacro name)
    | invoke name args level =>
      have hframe : Scope.Inert (.empty :: s.drop level) :=
        Scope.inert_cons.mpr ⟨List.forall_mem_nil _, hs.drop level⟩
      refine Outcome.settles_invoke hclosed (L := Scope.Inert) hs hframe
        (fun s₁ hs₁ ↦ hs.take_append hs₁.tail level) ?_ ?_
      · intro m hm _
        have hparams := (hmacros _ (Entries.mem_of_get? hm)).2
        exact walks_inert (.bindAll m.signature.params args) ⟨hparams, ht⟩
      · intro m hm _
        exact walks_inert (.renderAll m.body) (hmacros _ (Entries.mem_of_get? hm)).1
    | render n =>
      cases n with
      | outermost body =>
        exact Outcome.settles_outermost (L := Scope.Inert) hs (hs.drop _)
          (fun s₁ hs₁ ↦ hs.take_append hs₁ _) (walks_inert (.renderAll body) ht.2)
      | _ => exact absurd trivial hplain
    | renderRuns valueName keyName body i n pairs =>
      cases pairs with
      | nil => exact absurd trivial hplain
      | cons pair pairs =>
        obtain ⟨hbody, hpairs⟩ := ht
        obtain ⟨hpair, hpairs⟩ := List.forall_mem_cons.mp hpairs
        refine Outcome.settles_renderRuns hclosed (L := Scope.Inert)
          (Scope.inert_loopFrame hs hpair.1 hpair.2) (fun s₁ hs₁ ↦ hs₁.tail) ?_ ?_
        · exact walks_inert (.renderAll body) hbody
        · exact walks_inert (.renderRuns valueName keyName body (i + 1) n pairs) ⟨hbody, hpairs⟩
    | _ => exact absurd trivial hplain

/-- The scripts of tasks keep what is inert, where the built-in filters are the only ones, values
are escaped for markup and the macros are inert. -/
theorem inert_keptBy (henv : env.OnlyBuiltins) (hhtml : env.escaping = .html)
    (hmacros : InertMacros macros) : inert.KeptBy (code env macros) := by
  intro α d t s h
  exact inert_script henv hhtml hmacros t s h.1 h.2

end Task

/-! ### Renderings -/

/-- The macros of the table of a template are declared in the template. -/
theorem Template.mem_of_mem_macroTable {t : Template} {m : String × MacroDecl}
    (h : m ∈ t.macroTable) : m.2 ∈ t.macros := by
  rw [Template.macroTable] at h
  have hfold (decls : List MacroDecl) (table : List (String × MacroDecl))
      (h : m ∈ decls.foldl (fun table m ↦ Entries.insertOrdered m.signature.name m table) table) :
      m ∈ table ∨ m.2 ∈ decls := by
    induction decls generalizing table with
    | nil => exact .inl h
    | cons decl decls ih =>
      rcases ih _ h with h | h
      · rcases Entries.mem_insertOrdered h with rfl | h
        · exact .inr List.mem_cons_self
        · exact .inl h
      · exact .inr (List.mem_cons_of_mem decl h)
  rcases hfold t.macros [] h with h | h
  · cases h
  · exact h

private theorem Scope.inert_ofDatum {context : Datum} {s : Scope}
    (hcontext : ∀ v, Value.ofDatum context = .ok v → v.SafeTexts fun _ ↦ False)
    (hs : Scope.ofDatum context = .ok s) : s.Inert := by
  rw [Scope.ofDatum] at hs
  obtain ⟨v, hv, hs⟩ := exists_of_bind_eq_ok hs
  have hsafe : v.Inert := ⟨fun t ht ↦ ((hcontext v hv).of_hasSafe t ht).elim⟩
  unfold Scope.ofContext at hs
  split at hs
  · cases hs
    exact Scope.inert_cons.mpr ⟨Value.safeTexts_map.mp hsafe, List.forall_mem_nil _⟩
  · cases hs
    exact Scope.inert_cons.mpr ⟨List.forall_mem_nil _, List.forall_mem_nil _⟩
  · cases hs
    exact Scope.inert_cons.mpr ⟨List.forall_mem_nil _, List.forall_mem_nil _⟩
  · cases hs

private theorem Node.inertNode {n : Node} (hread : n.IsRead) (htame : n.IsTame) :
    Task.InertNode n := by
  refine ⟨htame, fun p hp ↦ ?_⟩
  obtain ⟨source, hsource⟩ := hread p hp
  exact Pipeline.safeTexts_read hsource

private theorem Template.inertMacros {t : Template} (hread : t.IsRead)
    (htame : t.AllNodes Node.IsTame) : Task.InertMacros t.macroTable := by
  intro m hm
  have hmem := Template.mem_of_mem_macroTable hm
  constructor
  · exact Node.AllOf.imp (fun _ ↦ Node.inertNode) (hread.1.2 _ hmem) (htame.2 _ hmem)
  · obtain ⟨source, hsource⟩ := hread.2 _ hmem
    exact Signature.safeTexts_read hsource

/-- Where values are escaped for markup and the built-in filters are the only ones, the output of a
template that writes no markup by itself has none of the characters that open or close tags and
single-quoted attribute values, unless a safe text comes in with the context. -/
theorem Template.inert_render (t : Template) (env : Environment) (henv : env.OnlyBuiltins)
    (hhtml : env.escaping = .html) (hread : t.IsRead) (htame : t.AllNodes Node.IsTame)
    (context : Datum)
    (hcontext : ∀ v, Value.ofDatum context = .ok v → v.SafeTexts fun _ ↦ False)
    {out : String} (hout : t.render env context = .ok out) : Text.InertString out := by
  cases hstart : Scope.ofDatum context with
  | error e =>
    rw [t.render_of_error env hstart] at hout
    cases hout
  | ok s =>
    have hs := Scope.length_pos_of_ofDatum hstart
    have hnodes : Node.AllOf Task.InertNode t.nodes :=
      Node.AllOf.imp (fun _ ↦ Node.inertNode) hread.1.1 htame.1
    have hC : Task.inert.KeptBy (Task.code env t.macroTable) :=
      Task.inert_keptBy henv hhtml (Template.inertMacros hread htame)
    have hpost := Task.post_act hC (d := 0) (.renderAll t.nodes) hs
      ⟨Scope.inert_ofDatum hcontext hstart, hnodes⟩
    rw [t.render_of_ok env hstart] at hout
    cases hr : (((Task.renderAll t.nodes).act
        (Task.setting env t.macroTable 0)).run.run s).1 with
    | error e =>
      rw [hr] at hout
      cases hout
    | ok chars =>
      rw [hr] at hout
      cases hout
      have hchars : Text.Inert chars := hpost.2.1 chars hr
      rwa [Text.InertString, String.toList_ofList]

/-- A template whose output is escaped, in a macro and outside of it. -/
theorem Template.inert_render_escaped :
    let p : Pipeline := ⟨"x", .path "x" [], [], false⟩
    let q : Pipeline := ⟨"m(x)", .call (.path "m" []) [.path "x" []], [], false⟩
    let t : Template := ⟨[.interpolation p [], .text " ", .interpolation q []],
      [⟨⟨"m", [⟨"y", none⟩]⟩, [.interpolation ⟨"y", .path "y" [], [], false⟩ []]⟩]⟩
    let context : Datum := .map [(.text "x", .text "<b>")]
    Environment.new.OnlyBuiltins ∧ t.IsRead ∧ t.AllNodes Node.IsTame ∧
      t.render .new context = .ok "&lt;b&gt; &lt;b&gt;" ∧
      Text.InertString "&lt;b&gt; &lt;b&gt;" := by
  intro p q t context
  have henv := Environment.onlyBuiltins_new
  have hread : t.IsRead := by
    refine ⟨⟨⟨?_, List.forall_mem_nil _, ?_, trivial⟩, ?_⟩, ?_⟩
    · intro p' hp
      rw [List.mem_singleton.mp hp]
      exact ⟨"x", rfl⟩
    · intro p' hp
      rw [List.mem_singleton.mp hp]
      exact ⟨"m(x)", rfl⟩
    · intro m hm
      rw [List.mem_singleton.mp hm]
      refine ⟨?_, trivial⟩
      intro p' hp
      rw [List.mem_singleton.mp hp]
      exact ⟨"y", rfl⟩
    · intro m hm
      rw [List.mem_singleton.mp hm]
      exact ⟨"m(y)", rfl⟩
  have htame : t.AllNodes Node.IsTame := by
    have hpipe : ∀ p : Pipeline, p.filters = [] → ∀ p' ∈ [p], "nl2br" ∉ p'.filterNames := by
      intro p hp p' hp'
      rw [List.mem_singleton.mp hp', Pipeline.filterNames, hp]
      exact List.not_mem_nil
    have hnil : "nl2br" ∉ ([] : List String) := List.not_mem_nil
    have htext : Text.InertString " " := by
      intro c hc
      have hc : c ∈ [' '] := hc
      rw [List.mem_singleton.mp hc]
      decide
    refine ⟨⟨⟨hpipe p rfl, rfl, hnil⟩, ⟨List.forall_mem_nil _, htext⟩,
      ⟨hpipe q rfl, rfl, hnil⟩, trivial⟩, ?_⟩
    intro m hm
    rw [List.mem_singleton.mp hm]
    exact ⟨⟨hpipe _ rfl, rfl, hnil⟩, trivial⟩
  have hcontext : ∀ v, Value.ofDatum context = .ok v → v.SafeTexts fun _ ↦ False := by
    intro v hv
    cases hv
    simp [Table.entries_empty, Entries.insert]
  have hout : t.render .new context = .ok "&lt;b&gt; &lt;b&gt;" := by
    have h : (t.render .new context).toOption = some "&lt;b&gt; &lt;b&gt;" := by decide +kernel
    cases hr : t.render .new context with
    | error e =>
      rw [hr] at h
      cases h
    | ok out =>
      rw [hr] at h
      cases h
      rfl
  exact ⟨henv, hread, htame, hout, t.inert_render .new henv rfl hread htame context hcontext hout⟩

end Stencil
