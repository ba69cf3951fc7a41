import DesignTables.Text.Path

/-!
The options of a compile run.
-/
namespace DesignTables

/-- The options of a run. -/
structure Options where
  /-- The root of the output tree. -/
  outputRoot : String
  /-- The directory of record files, below the root. -/
  dataDir : String
  /-- The directory of companion code, below the root. -/
  codeDir : String
  /-- The namespace around generated code; empty for none. -/
  codeNamespace : String
  /-- The namespaces that generated schema code imports. -/
  codeImports : List String
  /-- The number of workers; derived from the processors when absent. -/
  concurrency : Option Nat
deriving DecidableEq, Repr

namespace Options

/-- The options of a run that sets none. -/
def standard : Options where
  outputRoot := "output"
  dataDir := "tables/"
  codeDir := "scripts/"
  codeNamespace := ""
  codeImports := ["System"]
  concurrency := none

/-- Where record files go. -/
def dataPath (options : Options) : String := Path.join options.outputRoot options.dataDir

/-- Where companion code goes. -/
def codePath (options : Options) : String := Path.join options.outputRoot options.codeDir

/-- The number of workers derived from a number of processors: half of them and one more on a large
machine, three on a small one, six at most. -/
def workersFor (processors : Nat) : Nat :=
  min (if 10 ≤ processors then processors / 2 + 1 else 3) 6

/-- The number of workers on a machine with some processors; at least one. -/
def workers (options : Options) (processors : Nat) : Nat :=
  max (options.concurrency.getD (workersFor processors)) 1

end Options

end DesignTables
