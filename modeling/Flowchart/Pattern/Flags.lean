/-!
# Flags of patterns

How parts of a pattern are meant. Flags are turned on and off inside a pattern and then hold up to the
end of the group around.
-/

namespace Flowchart

namespace Pattern

/-- What can be turned on and off. -/
inductive Flag where
  /-- Case does not matter. -/
  | caseless
  /-- `^` and `$` match at lines. -/
  | byLine
  /-- The dot matches line ends. -/
  | dotAll
  /-- Greedy and reluctant repetitions trade places. -/
  | swapGreed
  /-- Classes are those of Unicode, not of ASCII. -/
  | unicode
  /-- A carriage return ends a line, too. -/
  | anyLineEnd
  /-- White space and comments are skipped. -/
  | verbose
deriving DecidableEq

/-- The flag of a letter. -/
def Flag.ofChar? : Char → Option Flag
  | 'i' => some caseless
  | 'm' => some byLine
  | 's' => some dotAll
  | 'U' => some swapGreed
  | 'u' => some unicode
  | 'R' => some anyLineEnd
  | 'x' => some verbose
  | _ => none

/-- Flags that are turned on or off. -/
abbrev Changes := List (Flag × Bool)

/-- Whether each flag is on. -/
structure Flags where
  /-- Case does not matter. -/
  caseless : Bool := false
  /-- `^` and `$` match at lines. -/
  byLine : Bool := false
  /-- The dot matches line ends. -/
  dotAll : Bool := false
  /-- Greedy and reluctant repetitions trade places. -/
  swapGreed : Bool := false
  /-- Classes are those of Unicode, not of ASCII. -/
  unicode : Bool := true
  /-- A carriage return ends a line, too. -/
  anyLineEnd : Bool := false
  /-- White space and comments are skipped. -/
  verbose : Bool := false
deriving DecidableEq

instance : Inhabited Flags := ⟨{}⟩

/-- Turns one flag on or off. -/
def Flags.set (f : Flags) : Flag × Bool → Flags
  | (.caseless, on) => { f with caseless := on }
  | (.byLine, on) => { f with byLine := on }
  | (.dotAll, on) => { f with dotAll := on }
  | (.swapGreed, on) => { f with swapGreed := on }
  | (.unicode, on) => { f with unicode := on }
  | (.anyLineEnd, on) => { f with anyLineEnd := on }
  | (.verbose, on) => { f with verbose := on }

/-- Turns flags on and off. -/
def Flags.change (f : Flags) (changes : Changes) : Flags :=
  changes.foldl Flags.set f

end Pattern

end Flowchart
