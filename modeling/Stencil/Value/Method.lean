import Stencil.Text.LetterCase
import Stencil.Value.Argument

/-!
# Methods of values

Every value but a missing one has a text; texts, sequences and regular expressions have methods of
their own. Positions count characters or items from zero.
-/

namespace Stencil.Value

/-- The failure of calling a method that the value does not have. -/
def unknownMethod (v : Value) (name : String) : Error :=
  .new .invalidOperation (v.kind.name ++ " has no method named " ++ name)

/-- A position in something of length `n`; a negative one counts from the end. -/
def relativeIndex (i : Int64) (n : Nat) : Nat :=
  if i < 0 then ((n : Int) + i.toInt).toNat else min i.toInt.toNat n

/-- A position in something of length `n`; a negative one is the start. -/
def clampedIndex (i : Int64) (n : Nat) : Nat := min i.toInt.toNat n

/-- The items from position `start` to before position `stop`, of which both may be negative. -/
def slice {α : Type} (items : List α) (start stop : Option Int64) : List α :=
  let first := relativeIndex (start.getD 0) items.length
  let last := (stop.map fun i ↦ relativeIndex i items.length).getD items.length
  (items.drop first).take (last - first)

/-- The characters between two positions, whichever comes first. -/
def substring (s : List Char) (start : Int64) (stop : Option Int64) : List Char :=
  let a := clampedIndex start s.length
  let b := (stop.map fun i ↦ clampedIndex i s.length).getD s.length
  (s.drop (min a b)).take (max a b - min a b)

/-- The parts of a text between the occurrences of a separator. An empty separator stands between
all characters. -/
def splitAt (sep s : List Char) : List (List Char) :=
  if sep.isEmpty then s.map ([·]) else Text.pieces sep s

/-- The parts of a text between the matches of a regular expression or the occurrences of the text
of another value. -/
def splitBy (separator : Value) (s : List Char) : List (List Char) :=
  match separator with
  | .regex r => r.pattern.split s
  | v => splitAt v.chars s

/-- Replaces what a regular expression matches, or the first occurrence of the text of another
value. -/
def replaceBy (what : Value) (replacement s : List Char) : List Char :=
  match what with
  | .regex r =>
    if r.isGlobal then r.pattern.replaceAll s replacement else r.pattern.replaceFirst s replacement
  | v => Text.replaceFirst v.chars replacement s

/-- The position of something found, or -1. -/
def ofIndex? (i : Option Nat) : Value :=
  match i with
  | some i => .ofNat i
  | none => .int (-1)

/-- Calls a method of a text. -/
def callText (v : Value) (s : List Char) (name : String) (args : List Value) :
    Except Error Value := do
  match name with
  | "toUpperCase" =>
    let _ ← Arguments.ofValues [] args
    return .ofChars (Text.upper s)
  | "toLowerCase" =>
    let _ ← Arguments.ofValues [] args
    return .ofChars (Text.lower s)
  | "trim" =>
    let _ ← Arguments.ofValues [] args
    return .ofChars (Text.trim s)
  | "split" =>
    let (separator, limit, _) ← Arguments.ofValues [.optional .value, .optional .size] args
    let parts : List (List Char) := match separator with
      | none => [s]
      | some separator => splitBy separator s
    let kept : List (List Char) := match limit with
      | none => parts
      | some n => parts.take n
    return .seq (kept.map .ofChars)
  | "indexOf" =>
    let (needle, _) ← Arguments.ofValues [.text] args
    return ofIndex? (Text.indexOf? (String.toList needle) s)
  | "includes" =>
    let (needle, _) ← Arguments.ofValues [.text] args
    return .bool (Text.includes (String.toList needle) s)
  | "startsWith" =>
    let (needle, _) ← Arguments.ofValues [.text] args
    return .bool ((String.toList needle).isPrefixOf s)
  | "endsWith" =>
    let (needle, _) ← Arguments.ofValues [.text] args
    return .bool ((String.toList needle).isSuffixOf s)
  | "replace" =>
    let (what, replacement, _) ← Arguments.ofValues [.value, .text] args
    return .ofChars (replaceBy what (String.toList replacement) s)
  | "slice" =>
    let (start, stop, _) ← Arguments.ofValues [.optional .integer, .optional .integer] args
    return .ofChars (slice s start stop)
  | "substring" =>
    let (start, stop, _) ← Arguments.ofValues [.integer, .optional .integer] args
    return .ofChars (substring s start stop)
  | "charAt" =>
    let (position, _) ← Arguments.ofValues [.optional .size] args
    let i : Nat := match position with
      | some i => i
      | none => 0
    return .ofChars s[i]?.toList
  | _ => throw (v.unknownMethod name)

/-- Calls a method of a sequence. -/
def callSeq (v : Value) (items : List Value) (name : String) (args : List Value) :
    Except Error Value := do
  match name with
  | "join" =>
    let (separator, _) ← Arguments.ofValues [.optional .text] args
    return .ofChars (List.intercalate (String.toList (Option.getD separator ",")) (slotTexts items))
  | "indexOf" =>
    let (needle, _) ← Arguments.ofValues [.value] args
    return ofIndex? (items.findIdx? fun item ↦ strictlyEqual item needle)
  | "includes" =>
    let (needle, _) ← Arguments.ofValues [.value] args
    return .bool (items.any fun item ↦ strictlyEqual item needle)
  | "slice" =>
    let (start, stop, _) ← Arguments.ofValues [.optional .integer, .optional .integer] args
    return .seq (slice items start stop)
  | "concat" =>
    return .seq (items ++ args.flatMap fun arg ↦ (arg.asItems?).getD [arg])
  | _ => throw (v.unknownMethod name)

/-- Calls a method of a regular expression. -/
def callRegex (v : Value) (r : Regex) (name : String) (args : List Value) :
    Except Error Value := do
  match name with
  | "test" =>
    let (s, _) ← Arguments.ofValues [.text] args
    return .bool (r.pattern.isMatch (String.toList s))
  | _ => throw (v.unknownMethod name)

/-- Calls a method. -/
def callMethod (v : Value) (name : String) (args : List Value) : Except Error Value :=
  if v.isMissing then
    .error (.new .invalidOperation ("cannot call method `" ++ name ++ "` of " ++ v.kind.name))
  else if name = "toString" then
    match Arguments.ofValues [] args with
    | .error e => .error e
    | .ok _ => .ok (.ofChars v.chars)
  else
    match v with
    | .text s _ => v.callText s.toList name args
    | .seq items => v.callSeq items name args
    | .regex r => v.callRegex r name args
    | _ => .error (v.unknownMethod name)

end Stencil.Value
