import DesignTables.Number.Integer
import DesignTables.Text.Case

/-!
Levels of log entries, and the thresholds that admit them.
-/
namespace DesignTables.Log

/-- How much an entry matters, the gravest level first. -/
inductive Level where
  | error | warn | info | debug | trace
deriving DecidableEq, Repr

namespace Level

/-- The position of a level; a graver one comes first. -/
def rank : Level → Nat
  | error => 1
  | warn => 2
  | info => 3
  | debug => 4
  | trace => 5

/-- The name of a level. -/
def name : Level → String
  | error => "error"
  | warn => "warn"
  | info => "info"
  | debug => "debug"
  | trace => "trace"

/-- A level as it stands in a log line. -/
def label : Level → String
  | error => "ERROR"
  | warn => "WARN"
  | info => "INFO"
  | debug => "DEBUG"
  | trace => "TRACE"

/-- All levels. -/
def all : List Level := [error, warn, info, debug, trace]

/-- The level of a rank. -/
def ofRank? (rank : Nat) : Option Level := all.find? (·.rank == rank)

/-- The level of a name. -/
def ofName? (name : String) : Option Level := all.find? (·.name == name)

end Level

/-- The entries that are let through: none, or those of a level and of the graver ones. -/
inductive Threshold where
  | off
  | upTo (level : Level)
deriving DecidableEq, Repr

namespace Threshold

/-- The position of a threshold among the levels. -/
def rank : Threshold → Nat
  | off => 0
  | upTo level => level.rank

/-- The threshold of a rank; every rank beyond the last level lets all through. -/
def ofRank (rank : Nat) : Threshold :=
  if rank = 0 then off else upTo ((Level.ofRank? rank).getD .trace)

/-- The name of a threshold. -/
def name : Threshold → String
  | off => "off"
  | upTo level => level.name

/-- Whether entries of a level are let through. -/
def admits (threshold : Threshold) (level : Level) : Bool := level.rank ≤ threshold.rank

/-- The threshold that a text names: by its rank, or by its name in any ASCII case. No text at all
lets errors through. -/
def read? (s : String) : Option Threshold :=
  match (readCount? s).filter (· ≤ 5) with
  | some rank => some (ofRank rank)
  | none =>
    if s.isEmpty then some (upTo .error)
    else (off :: Level.all.map upTo).find? (·.name == Text.asciiLower s)

end Threshold

end DesignTables.Log
