import Stencil.Pattern.PropertyName

/-!
# Pattern expressions

An expression describes the texts that it matches and, among several ways to match, which one is
preferred: an earlier alternative before a later one, and one more repetition before the end of a
greedy repetition.
-/

namespace Stencil.Pattern

/-- A condition on a place between two characters. -/
inductive Look where
  /-- The start of the text. -/
  | textStart
  /-- The end of the text. -/
  | textEnd
  /-- The start of a line; with `crlf` a line may also end with a carriage return. -/
  | lineStart (crlf : Bool)
  /-- The end of a line; with `crlf` a line may also end with a carriage return. -/
  | lineEnd (crlf : Bool)
  /-- Between a character of a word and another one, or the opposite. -/
  | wordBoundary (unicode negated : Bool)
  /-- In front of the first character of a word. -/
  | wordStart (unicode : Bool)
  /-- Behind the last character of a word. -/
  | wordEnd (unicode : Bool)
  /-- Behind anything but a character of a word. -/
  | wordStartHalf (unicode : Bool)
  /-- In front of anything but a character of a word. -/
  | wordEndHalf (unicode : Bool)
deriving DecidableEq, Repr

/-- A pattern expression. -/
inductive Expr where
  /-- Matches one character of a set. -/
  | set (s : CharSet)
  /-- Matches nothing at a place that satisfies a condition. -/
  | look (k : Look)
  /-- Matches its parts one after the other. -/
  | seq (es : List Expr)
  /-- Matches what one of its alternatives matches. -/
  | alt (es : List Expr)
  /-- Matches what `e` matches and remembers it as the group `index`. -/
  | group (index : Nat) (e : Expr)
  /-- Matches `e` at least `min` and at most `max` times. -/
  | repeated (e : Expr) (min : Nat) (max : Option Nat) (greedy : Bool)
deriving Repr

/-- The place that a condition is asked about: the characters at its two sides. -/
structure Place where
  /-- The character in front, if there is one. -/
  before : Option Char
  /-- The character behind, if there is one. -/
  after : Option Char
deriving DecidableEq, Repr

/-- Whether a character of a word stands there. -/
def isWordAt (unicode : Bool) (c : Option Char) : Bool :=
  match c with
  | some c => (CharSet.word unicode).contains c.toNat
  | none => false

/-- Whether the place satisfies the condition. -/
def Look.holds (k : Look) (p : Place) : Bool :=
  match k with
  | .textStart => p.before.isNone
  | .textEnd => p.after.isNone
  | .lineStart false => p.before.isNone || p.before == some '\n'
  | .lineEnd false => p.after.isNone || p.after == some '\n'
  | .lineStart true =>
    p.before.isNone || p.before == some '\n' || (p.before == some '\r' && p.after != some '\n')
  | .lineEnd true =>
    p.after.isNone || p.after == some '\r' || (p.after == some '\n' && p.before != some '\r')
  | .wordBoundary u negated => (isWordAt u p.before != isWordAt u p.after) != negated
  | .wordStart u => !isWordAt u p.before && isWordAt u p.after
  | .wordEnd u => isWordAt u p.before && !isWordAt u p.after
  | .wordStartHalf u => !isWordAt u p.before
  | .wordEndHalf u => !isWordAt u p.after

namespace Expr

mutual

/-- Whether nothing but the empty text can match. -/
def isEmptyOnly : Expr → Bool
  | .set _ => false
  | .look _ => true
  | .seq es => areEmptyOnly es
  | .alt es => areEmptyOnly es
  | .group _ e => e.isEmptyOnly
  | .repeated e _ max _ => e.isEmptyOnly || max == some 0

/-- Whether nothing but the empty text can match any of the expressions. -/
def areEmptyOnly : List Expr → Bool
  | [] => true
  | e :: es => e.isEmptyOnly && areEmptyOnly es

end

/-! ### Building expressions -/

/-- The parts of a sequence; any other expression is its own only part. -/
def parts : Expr → List Expr
  | .seq es => es
  | e => [e]

/-- Expressions one after the other; sequences among them are resolved into their parts. -/
def concat (es : List Expr) : Expr :=
  match es.flatMap parts with
  | [e] => e
  | es => .seq es

/-- The alternatives of a choice; any other expression is its own only alternative. -/
def alternatives : Expr → List Expr
  | .alt es => es
  | e => [e]

/-- The set that an expression matches one character of, if it is such an expression. -/
def set? : Expr → Option CharSet
  | .set s => some s
  | _ => none

/-- A choice between expressions; choices among them are resolved into their alternatives. A choice
between sets is a set. -/
def choose (es : List Expr) : Expr :=
  match es.flatMap alternatives with
  | [e] => e
  | es =>
    match es.mapM set? with
    | some sets => .set (.unions sets)
    | none => .alt es

/-- A repetition. What matches only the empty text is not repeated more than once, and what is
matched no time or exactly once needs no repetition. -/
def times (e : Expr) (min : Nat) (max : Option Nat) (greedy : Bool) : Expr :=
  let atMostOnce := e.isEmptyOnly
  let min := if atMostOnce then Nat.min min 1 else min
  let max := if atMostOnce then some (Nat.min (max.getD 1) 1) else max
  if max = some 0 then .seq []
  else if min = 1 ∧ max = some 1 then e
  else .repeated e min max greedy

end Expr

/-- The number of instructions that a repetition needs for a body of `n` instructions. -/
def repeatedSize (n min : Nat) : Option Nat → Nat
  | none => (if min = 0 then 1 else min) * n + if min = 0 then 2 else 1
  | some max => min * n + (max - min) * (n + 1) + 1

mutual

/-- The number of instructions of the program for an expression. -/
def Expr.size : Expr → Nat
  | .set _ => 1
  | .look _ => 1
  | .seq es => Expr.sizeSeq es
  | .alt es => Expr.sizeAlt es
  | .group _ e => e.size + 2
  | .repeated e min max _ => repeatedSize e.size min max

/-- The number of instructions for a sequence. -/
def Expr.sizeSeq : List Expr → Nat
  | [] => 1
  | e :: es => e.size + Expr.sizeSeq es

/-- The number of instructions for alternatives. -/
def Expr.sizeAlt : List Expr → Nat
  | [] => 1
  | e :: es => e.size + 1 + Expr.sizeAlt es

end

end Stencil.Pattern
