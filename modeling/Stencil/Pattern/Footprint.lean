import Stencil.Pattern.Expr

/-!
# The footprint of a pattern

How large a pattern may be is measured by two automata over the bytes of UTF-8: one matches a text
from its start to its end, the other one from its end to its start. The footprint of an expression
is the number of bytes that each of them takes. A state takes 32 bytes, a transition of a state with
several ones takes 8, and a way out of a state that is left without reading takes 4.
-/

namespace Stencil.Pattern

open Stencil.Text (CharRanges)

/-- The number of bytes that the two automata take. -/
structure Footprint where
  /-- The automaton that reads forward. -/
  forward : Nat
  /-- The automaton that reads backward. -/
  backward : Nat
deriving DecidableEq, Repr

/-- The bytes of two parts of the automata. -/
instance : Add Footprint := ⟨fun a b ↦ ⟨a.forward + b.forward, a.backward + b.backward⟩⟩

/-- The same number of bytes in both directions. -/
def Footprint.both (n : Nat) : Footprint := ⟨n, n⟩

/-- A number of bytes that depends in the same way in both directions on another one. -/
def Footprint.map (f : Nat → Nat) (a : Footprint) : Footprint := ⟨f a.forward, f a.backward⟩

/-- The sum of some numbers. -/
def total (ns : List Nat) : Nat := ns.foldr (· + ·) 0

/-! ### Characters as bytes -/

/-- A range for each of the bytes that encode a character. -/
abbrev ByteRanges := List (Nat × Nat)

/-- How many numbers `n` continuation bytes can tell apart. -/
def continuations : Nat → Nat
  | 0 => 1
  | n + 1 => 64 * continuations n

/-- The encodings of the numbers from `first` to `last` by a byte that counts up from `lead` and `n`
continuation bytes, as few as possible and ascending. -/
def encodings : (n lead first last : Nat) → List ByteRanges
  | 0, lead, first, last => [[(lead + first, lead + last)]]
  | n + 1, lead, first, last =>
    let size := continuations (n + 1)
    let low := first / size
    let high := last / size
    let inside (digit first last : Nat) : List ByteRanges :=
      (encodings n 0x80 first last).map fun bs ↦ (lead + digit, lead + digit) :: bs
    if low = high then inside low (first % size) (last % size)
    else
      let start := if first % size = 0 then low else low + 1
      let stop := (last + 1) / size
      (if first % size = 0 then [] else inside low (first % size) (size - 1)) ++
      (if start < stop then
        [(lead + start, lead + stop - 1) :: List.replicate (n + 1) (0x80, 0xBF)]
      else []) ++
      (if (last + 1) % size = 0 then [] else inside high 0 (last % size))

/-- A range of code points with encodings of one length. -/
structure EncodingClass where
  /-- The first code point. -/
  first : Nat
  /-- The last code point. -/
  last : Nat
  /-- The number of continuation bytes. -/
  length : Nat
  /-- The byte that the first bytes count up from. -/
  lead : Nat

/-- The lengths of encodings. Surrogates have none. -/
def encodingClasses : List EncodingClass :=
  [⟨0, 0x7F, 0, 0⟩, ⟨0x80, 0x7FF, 1, 0xC0⟩, ⟨0x800, 0xD7FF, 2, 0xE0⟩, ⟨0xE000, 0xFFFF, 2, 0xE0⟩,
    ⟨0x10000, 0x10FFFF, 3, 0xF0⟩]

/-- The encodings of all characters in some ranges, ascending. -/
def utf8Encodings (rs : CharRanges) : List ByteRanges :=
  rs.flatMap fun r ↦ encodingClasses.flatMap fun k ↦
    if max r.1 k.first ≤ min r.2 k.last then
      encodings k.length k.lead (max r.1 k.first) (min r.2 k.last)
    else []

/-- Divides ascending encodings by their first ranges. -/
def branches (bs : List ByteRanges) : List (List ByteRanges) :=
  bs.splitBy fun a b ↦ a.head? == b.head?

/-- All that may be left of encodings after some bytes, the whole encodings included, as long as
there is anything left; `n` is their greatest length. -/
def remainders : Nat → List ByteRanges → List (List ByteRanges)
  | 0, _ => []
  | n + 1, bs =>
    if bs.all (·.isEmpty) then []
    else bs :: (branches bs).flatMap fun b ↦ remainders n (b.map List.tail)

/-- The bytes of the only character among some encodings. -/
def onlyBytes? : List ByteRanges → Option (List Nat)
  | [b] => if b.all fun r ↦ r.1 == r.2 then some (b.map (·.1)) else none
  | _ => none

/-- The footprint of a set. The automaton that reads forward has one state for each remainder of the
encodings, however often it occurs. The one that reads backward has a state for each beginning. -/
def CharSet.footprint (s : CharSet) : Footprint :=
  let rs := s.toRanges
  let bs := utf8Encodings rs
  match onlyBytes? bs with
  | some bytes => .both (32 * bytes.length)
  | none =>
    if rs.all fun r ↦ r.2 < 0x80 then .both (64 + 8 * rs.length)
    else
      let states := remainders 4 bs
      ⟨32 + total (states.eraseDups.map fun r ↦ 32 + 8 * (branches r).length),
        64 + 32 * total (states.map fun r ↦ (branches r).length) + 4 * bs.length⟩

/-! ### Words -/

/-- The bytes of a text that is the only one to match. The empty text does not count. -/
def Expr.word? (e : Expr) : Option (List Nat) :=
  match e.parts with
  | [] => none
  | es =>
    (es.mapM fun (part : Expr) ↦
      part.set?.bind fun s ↦ onlyBytes? (utf8Encodings s.toRanges)).map List.flatten

/-- The bytes of the states that tell words apart; `n` exceeds the length of the longest. Words that
end at a state divide the others into runs. The state has a way out to each run and to the end of
each word, those ahead of all runs being one. -/
def wordBytes : Nat → List (List Nat) → Nat
  | 0, _ => 0
  | n + 1, words =>
    if words.all (·.isEmpty) then 0
    else
      let behind := words.dropWhile (·.isEmpty)
      let ends := (if behind.length < words.length then 1 else 0) + behind.countP (·.isEmpty)
      let runs := (behind.splitBy fun a b ↦ a.isEmpty == b.isEmpty).filter
        fun run ↦ run.all fun word ↦ !word.isEmpty
      let run (words : List (List Nat)) : Nat :=
        let firsts := (words.map List.head?).eraseDups
        (if firsts.length = 1 then 32 else 32 + 8 * firsts.length) +
          total (firsts.map fun first ↦
            wordBytes n ((words.filter fun word ↦ word.head? == first).map List.tail))
      32 + 4 * (runs.length + ends) + total (runs.map run)

/-- The footprint of a choice between words, which share their beginnings in the automaton that
reads forward and their ends in the other one. -/
def wordsFootprint (words : List (List Nat)) : Footprint :=
  let n := words.flatten.length + 1
  ⟨32 + wordBytes n words, 32 + wordBytes n (words.map List.reverse)⟩

/-! ### Expressions -/

/-- The bytes of a repetition of a body of `n` bytes. -/
def repeatedBytes (mayBeEmpty : Bool) (min : Nat) (max : Option Nat) (n : Nat) : Nat :=
  match min, max with
  | 0, none => if mayBeEmpty then n + 112 else n + 40
  | 0, some 1 => n + 72
  | min, none => min * n + 40
  | min, some max =>
    let required := if min = 0 then 32 else min * n
    if max = min then required else required + 32 + (max - min) * (n + 40)

namespace Expr

mutual

/-- Whether the empty text can match. -/
def mayBeEmpty : Expr → Bool
  | .set _ => false
  | .look _ => true
  | .seq es => allMayBeEmpty es
  | .alt es => anyMayBeEmpty es
  | .group _ e => e.mayBeEmpty
  | .repeated e min _ _ => min == 0 || e.mayBeEmpty

/-- Whether the empty text can match all of the expressions. -/
def allMayBeEmpty : List Expr → Bool
  | [] => true
  | e :: es => e.mayBeEmpty && allMayBeEmpty es

/-- Whether the empty text can match one of the expressions. -/
def anyMayBeEmpty : List Expr → Bool
  | [] => false
  | e :: es => e.mayBeEmpty || anyMayBeEmpty es

end

mutual

/-- The footprint of an expression. Only the automaton that reads forward remembers groups. -/
def footprint : Expr → Footprint
  | .set s => s.footprint
  | .look _ => .both 32
  | .seq es => if es.isEmpty then .both 32 else sumFootprints es
  | .alt es =>
    match es.mapM word? with
    | some words => wordsFootprint words
    | none => .both (64 + 4 * es.length) + sumFootprints es
  | .group _ e => e.footprint + ⟨64, 0⟩
  | .repeated e min max _ => e.footprint.map (repeatedBytes e.mayBeEmpty min max)

/-- The footprint of several expressions. -/
def sumFootprints : List Expr → Footprint
  | [] => .both 0
  | e :: es => e.footprint + sumFootprints es

end

/-- The greatest number of bytes that an automaton may take. -/
def footprintLimit : Nat := 10485760

/-- Whether the automata of a pattern stay below the limit. Each has a loop of 112 bytes to start a
match anywhere and a state to end it. -/
def isAcceptable (e : Expr) : Bool :=
  let whole := e.footprint + .both 144
  whole.forward ≤ footprintLimit && whole.backward ≤ footprintLimit

end Expr

end Stencil.Pattern
