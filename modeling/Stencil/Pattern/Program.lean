import Stencil.Pattern.Footprint

/-!
# Pattern programs

The program of an expression is a list of instructions with addresses. `code e base next` starts
with the instruction at `base`, takes `e.size` addresses, and leaves at `next` behind every match
of `e`. Where an instruction goes on in two ways, the first one is preferred.
-/

namespace Stencil.Pattern

/-- One instruction of a program. -/
inductive Instruction where
  /-- Reads one character of a set. -/
  | read (s : CharSet) (next : Nat)
  /-- Goes on if the place satisfies a condition. -/
  | look (k : Look) (next : Nat)
  /-- Goes on in two ways. -/
  | split (first second : Nat)
  /-- Remembers the position in a slot. -/
  | save (slot next : Nat)
  /-- Goes on elsewhere. -/
  | jump (next : Nat)
  /-- Ends a match. -/
  | accept

/-- A program starts at address zero. -/
abbrev Program := Array Instruction

/-- A choice between two addresses, of which a greedy one prefers `more`. -/
def choice (greedy : Bool) (more done : Nat) : Instruction :=
  if greedy then .split more done else .split done more

/-- `n` copies of a body of `size` instructions, one behind the other. -/
def copies (body : Nat → Nat → List Instruction) (size base : Nat) : Nat → List Instruction
  | 0 => []
  | n + 1 => body base (base + size) ++ copies body size (base + size) n

/-- `n` copies of a body, each of which may be the last. -/
def optionalCopies (body : Nat → Nat → List Instruction) (size : Nat) (greedy : Bool)
    (base next : Nat) : Nat → List Instruction
  | 0 => [.jump next]
  | n + 1 =>
    choice greedy (base + 1) next :: body (base + 1) (base + 1 + size) ++
      optionalCopies body size greedy (base + 1 + size) next n

/-- A body once and then as often as it matches. -/
def loop (body : Nat → Nat → List Instruction) (size : Nat) (greedy : Bool) (base next : Nat) :
    List Instruction :=
  body base (base + size) ++ [choice greedy base next]

/-- The instructions of a repetition. -/
def repetition (body : Nat → Nat → List Instruction) (size min : Nat) (greedy : Bool)
    (base next : Nat) : Option Nat → List Instruction
  | none =>
    if min = 0 then
      choice greedy (base + 1) next :: loop body size greedy (base + 1) next
    else
      let start := base + (min - 1) * size
      copies body size base (min - 1) ++ loop body size greedy start next
  | some max =>
    let start := base + min * size
    copies body size base min ++
      optionalCopies body size greedy start next (max - min)

mutual

/-- The instructions of an expression. -/
def code : Expr → Nat → Nat → List Instruction
  | .set s, _, next => [.read s next]
  | .look k, _, next => [.look k next]
  | .seq es, base, next => codeSeq es base next
  | .alt es, base, next => codeAlt es base next
  | .group i e, base, next =>
    .save (2 * i) (base + 1) :: code e (base + 1) (base + 1 + e.size) ++
      [.save (2 * i + 1) next]
  | .repeated e min max greedy, base, next =>
    repetition (fun b n ↦ code e b n) e.size min greedy base next max

/-- The instructions of a sequence. -/
def codeSeq : List Expr → Nat → Nat → List Instruction
  | [], _, next => [.jump next]
  | e :: es, base, next => code e base (base + e.size) ++ codeSeq es (base + e.size) next

/-- The instructions of alternatives. -/
def codeAlt : List Expr → Nat → Nat → List Instruction
  | [], _, next => [.read .empty next]
  | e :: es, base, next =>
    .split (base + 1) (base + 1 + e.size) :: code e (base + 1) next ++
      codeAlt es (base + 1 + e.size) next

end

/-- The program of an expression as the group zero, unless it is too large. -/
def program? (e : Expr) : Option Program :=
  let whole := Expr.group 0 e
  if whole.isAcceptable then
    some (code whole 0 whole.size ++ [Instruction.accept]).toArray
  else none

end Stencil.Pattern
