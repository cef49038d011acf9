/-!
Log lines: a level and a text. A log that is filtered at a level shows the lines
of that level and of all more severe ones.
-/
namespace MemoryRepair

inductive Level
  | error
  | warn
  | info
  | debug
  | trace
  deriving DecidableEq, Repr

namespace Level

def name : Level → String
  | error => "ERROR"
  | warn => "WARN"
  | info => "INFO"
  | debug => "DEBUG"
  | trace => "TRACE"

/-- The place of a level in the order from the most severe one down. -/
def rank : Level → Nat
  | error => 1
  | warn => 2
  | info => 3
  | debug => 4
  | trace => 5

/-- A log filtered at the first level shows lines of the second. -/
def shows (filter level : Level) : Bool := level.rank ≤ filter.rank

end Level

structure LogLine where
  level : Level
  text : String
  deriving DecidableEq, Repr

namespace LogLine

def render (line : LogLine) : String :=
  line.level.name ++ " " ++ line.text

end LogLine

end MemoryRepair
