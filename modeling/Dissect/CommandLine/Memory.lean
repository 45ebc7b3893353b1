import Dissect.CommandLine.Run
import Dissect.Files.Tree

/-!
# Running in memory

Command lines run on a directory tree in memory.
-/

set_option autoImplicit false

namespace Dissect.CommandLine

open Files (Tree)

/-- The host that works on a directory tree in memory. -/
def memoryHost : Host (StateM Tree) where
  readText path := do return (← get).readText path
  makeDirectory path := modifyGet fun t => t.makeDirectory path
  writeText path text := modifyGet fun t => t.writeText path text

/-- Runs a command line on a directory tree: how it ends, and the tree afterwards. -/
def runInMemory (env : Environment) (words : List String) (tree : Tree) : Ending × Tree :=
  (run memoryHost env words).run tree

end Dissect.CommandLine
