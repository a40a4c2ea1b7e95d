import Stencil.Pattern.Program

/-!
# Searching with a program

All ways to match are followed at once, one character at a time. Threads are kept in the order of
preference; two threads never stand at one instruction, since the less preferred one could only
repeat what the other one does. A search finds the leftmost match and, among the matches that start
there, the preferred one.
-/

namespace Stencil.Pattern

/-- The positions that a thread has remembered. -/
abbrev Slots := Array (Option Nat)

/-- A way to match that has come to an instruction that reads a character or accepts. -/
structure Thread where
  /-- The address of the instruction. -/
  address : Nat
  /-- The positions remembered on the way. -/
  slots : Slots

/-- The threads at one position of the text. -/
structure Threads where
  /-- Which addresses have been reached. -/
  reached : Array Bool
  /-- The threads, the least preferred first. -/
  reversed : List Thread

/-- No thread of a program with `size` instructions. -/
def Threads.none (size : Nat) : Threads := ⟨Array.replicate size false, []⟩

/-- Adds the threads that an address leads to without reading a character, the most preferred
first. The first argument exceeds the number of addresses that have not been reached yet. -/
def follow (p : Program) (place : Place) (position : Nat) :
    Nat → Nat → Slots → Threads → Threads
  | 0, _, _, ts => ts
  | fuel + 1, address, slots, ts =>
    match ts.reached[address]?, p[address]? with
    | some false, some i =>
      let ts := { ts with reached := ts.reached.setIfInBounds address true }
      match i with
      | .read _ _ | .accept => { ts with reversed := ⟨address, slots⟩ :: ts.reversed }
      | .jump next => follow p place position fuel next slots ts
      | .look k next =>
        if k.holds place then follow p place position fuel next slots ts else ts
      | .save slot next =>
        follow p place position fuel next (slots.setIfInBounds slot (some position)) ts
      | .split first second =>
        follow p place position fuel second slots (follow p place position fuel first slots ts)
    | _, _ => ts

/-- Lets the threads, the most preferred first, read one character or accept. Threads behind an
accepting one are dropped, and its slots are the result. -/
def step (p : Program) (c : Option Char) (place : Place) (position : Nat) :
    List Thread → Threads → Option Slots × Threads
  | [], next => (none, next)
  | t :: rest, next =>
    match p[t.address]?, c with
    | some .accept, _ => (some t.slots, next)
    | some (.read s target), some c =>
      if s.contains c.toNat then
        step p (some c) place position rest
          (follow p place position (p.size + 1) target t.slots next)
      else step p (some c) place position rest next
    | _, _ => step p c place position rest next

/-- Goes on with a search: `threads` stand in front of the text, and `best` is the most preferred
match so far. As long as there is none, a match may start at every position. -/
def run (p : Program) (slotCount : Nat) (before : Option Char) (position : Nat)
    (threads : Threads) (best : Option Slots) : List Char → Option Slots
  | [] =>
    let threads := start threads best ⟨before, none⟩
    let found := (step p none ⟨before, none⟩ position threads.reversed.reverse (.none 0)).1
    found <|> best
  | c :: cs =>
    let threads := start threads best ⟨before, some c⟩
    if threads.reversed.isEmpty && best.isSome then best
    else
      let (found, next) := step p (some c) ⟨some c, cs.head?⟩ (position + 1)
        threads.reversed.reverse (.none p.size)
      run p slotCount (some c) (position + 1) next (found <|> best) cs
where
  /-- Adds the threads that start at this position. -/
  start (threads : Threads) (best : Option Slots) (place : Place) : Threads :=
    if best.isSome then threads
    else follow p place position (p.size + 1) 0 (Array.replicate slotCount none) threads

/-- The slots of the first match at or behind the position `start` of the text. -/
def search (p : Program) (slotCount : Nat) (text : List Char) (start : Nat) : Option Slots :=
  let before := if start = 0 then none else text[start - 1]?
  run p slotCount before start (.none p.size) none (text.drop start)

end Stencil.Pattern
