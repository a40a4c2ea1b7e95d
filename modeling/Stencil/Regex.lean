import Stencil.Error
import Stencil.Pattern.Replacement

/-!
# Regular expressions

A regular expression is written as a source and flags. In the source a slash may be written behind a
backslash, as it has to be between slashes. Of the flags, `i` ignores letter case, `m` lets `^` and
`$` stand at lines, `g` extends replacements to every match, and `y` has no effect.
-/

namespace Stencil

/-- What a compiled pattern makes of texts. -/
structure CompiledPattern where
  /-- Whether it matches somewhere in a text. -/
  isMatch : List Char → Bool
  /-- The parts of a text between the matches. -/
  split : List Char → List (List Char)
  /-- The text with a replacement in place of the first match. -/
  replaceFirst (text replacement : List Char) : List Char
  /-- The text with a replacement in place of every match. -/
  replaceAll (text replacement : List Char) : List Char

/-- What flags ask of the pattern. -/
structure PatternOptions where
  /-- Letter case makes no difference. -/
  ignoreCase : Bool := false
  /-- `^` and `$` stand at lines. -/
  multiLine : Bool := false

/-- An engine that compiles patterns. -/
structure PatternEngine where
  /-- The pattern with the given source, if it is well formed. -/
  compile? (options : PatternOptions) (source : List Char) : Option CompiledPattern

/-- The engine that follows all ways to match at once. -/
def PatternEngine.standard : PatternEngine where
  compile? options source :=
    let mode : Pattern.Mode :=
      { ignoreCase := options.ignoreCase, multiLine := options.multiLine }
    (Pattern.ofSource? mode source).map fun p ↦
      ⟨p.isMatch, p.split, p.replaceFirst, p.replaceAll⟩

/-- A regular expression. -/
structure Regex where
  /-- The source as it is written. -/
  source : String
  /-- The flags as they are written. -/
  flags : String
  /-- The pattern that texts are searched for. -/
  pattern : CompiledPattern

namespace Regex

/-- The source of the pattern: every slash behind a backslash becomes a slash. -/
def patternSource (source : List Char) : List Char := Text.replaceAll ['\\', '/'] ['/'] source

/-- Adds what flags ask for. -/
def readFlags (options : PatternOptions) : List Char → Except Error PatternOptions
  | [] => .ok options
  | c :: cs =>
    match c with
    | 'i' => readFlags { options with ignoreCase := true } cs
    | 'm' => readFlags { options with multiLine := true } cs
    | 'g' | 'y' => readFlags options cs
    | _ => .error (.syntaxError ("unknown regex flag `" ++ String.singleton c ++ "`"))

/-- Reads a regular expression with the given engine. -/
def readWith (engine : PatternEngine) (source flags : String) : Except Error Regex :=
  match readFlags {} flags.toList with
  | .error e => .error e
  | .ok options =>
    match engine.compile? options (patternSource source.toList) with
    | some pattern => .ok ⟨source, flags, pattern⟩
    | none => .error (.syntaxError "invalid regular expression")

/-- Reads a regular expression. -/
def read (source flags : String) : Except Error Regex := readWith .standard source flags

/-- Whether replacements extend to every match. -/
def isGlobal (r : Regex) : Bool := r.flags.toList.contains 'g'

/-- The regular expression between slashes, followed by its flags. -/
def chars (r : Regex) : List Char := '/' :: r.source.toList ++ '/' :: r.flags.toList

end Regex

end Stencil
