import Stencil.Signature

/-!
# Templates

A template is a tree of nodes with declarations of macros. Nodes are texts, interpolations, loops,
conditions, assignments and parts that are rendered in the outermost scope.
-/

namespace Stencil

/-- A node of a template. -/
inductive Node where
  /-- A text. -/
  | text (s : String)
  /-- An interpolation, with filters that run behind those of the pipeline. -/
  | interpolation (p : Pipeline) (filters : List String)
  /-- A loop, with a name for the value and maybe one for its key. -/
  | loop (valueName : String) (keyName : Option String) (iterable : Pipeline) (body : List Node)
  /-- A condition, further ones that are asked in turn, and what is left. -/
  | condition (test : Pipeline) (body : List Node) (others : List (Pipeline × List Node))
      (otherwise : Option (List Node))
  /-- An assignment. -/
  | assignment (name : String) (p : Pipeline)
  /-- Nodes that are rendered in the outermost scope. -/
  | outermost (body : List Node)

/-- A declaration of a macro. -/
structure MacroDecl where
  /-- The name and the parameters. -/
  signature : Signature
  /-- The nodes that a call renders. -/
  body : List Node

/-- A template. -/
structure Template where
  /-- The nodes. -/
  nodes : List Node
  /-- The declarations; a later one replaces an earlier one of the same name. -/
  macros : List MacroDecl

namespace Node

/-- An interpolation. -/
def readInterpolation (source : String) (filters : List String) : Except Error Node := do
  return .interpolation (← Pipeline.read source) filters

/-- A loop. -/
def readLoop (valueName : String) (keyName : Option String) (iterable : String) (body : List Node) :
    Except Error Node := do
  return .loop valueName keyName (← Pipeline.read iterable) body

/-- An assignment. -/
def readAssignment (name source : String) : Except Error Node := do
  return .assignment name (← Pipeline.read source)

end Node

/-- A declaration of a macro. -/
def MacroDecl.read (signature : String) (body : List Node) : Except Error MacroDecl := do
  return ⟨← Signature.read signature, body⟩

/-- The outline of an interpolation. -/
def Node.interpolationOutline (p : Pipeline) (filters : List String) : String :=
  Text.Outline.record "ExprNode" [("expr", p.outline), ("filters", Text.Outline.names filters)]

/-- The outline of a block. -/
def Node.blockOutline (kind structureName : String) (fields : List (String × String)) : String :=
  Text.Outline.constructor "Block"
    (Text.Outline.constructor kind (Text.Outline.record structureName fields))

mutual

/-- The outline of a node. -/
def Node.outline : Node → String
  | .text s => Text.Outline.constructor "Text" (Text.quote s)
  | .interpolation p filters =>
    Text.Outline.constructor "Expr" (Node.interpolationOutline p filters)
  | .loop valueName keyName iterable body =>
    Node.blockOutline "For" "ForBlock"
      [("value_name", Text.quote valueName),
        ("index_name", Text.Outline.option (keyName.map Text.quote)),
        ("iterable", iterable.outline), ("body", Text.Outline.list (Node.outlines body))]
  | .condition test body others otherwise =>
    Node.blockOutline "If" "IfBlock"
      [("cond", test.outline), ("body", Text.Outline.list (Node.outlines body)),
        ("elseifs", Text.Outline.list (Node.branchOutlines others)),
        ("else_body",
          match otherwise with
          | none => Text.Outline.option none
          | some nodes => Text.Outline.option (some (Text.Outline.list (Node.outlines nodes))))]
  | .assignment name p =>
    Node.blockOutline "Set" "SetBlock" [("key", Text.quote name), ("expr", p.outline)]
  | .outermost body =>
    Node.blockOutline "Raw" "RawBlock" [("body", Text.Outline.list (Node.outlines body))]

/-- The outlines of nodes. -/
def Node.outlines : List Node → List String
  | [] => []
  | n :: ns => n.outline :: Node.outlines ns

/-- The outlines of the further branches of a condition. -/
def Node.branchOutlines : List (Pipeline × List Node) → List String
  | [] => []
  | (test, body) :: bs =>
    Text.Outline.record "ElseIf"
      [("cond", test.outline), ("body", Text.Outline.list (Node.outlines body))] ::
        Node.branchOutlines bs

end

/-- The outline of a declaration of a macro. -/
def MacroDecl.outline (m : MacroDecl) : String :=
  Text.Outline.record "MacroDecl"
    [("signature", m.signature.outline), ("body", Text.Outline.list (Node.outlines m.body))]

/-- The outline of a template. -/
def Template.outline (t : Template) : String :=
  Text.Outline.record "Template"
    [("nodes", Text.Outline.list (Node.outlines t.nodes)),
      ("macros", Text.Outline.list (t.macros.map (·.outline)))]

end Stencil
