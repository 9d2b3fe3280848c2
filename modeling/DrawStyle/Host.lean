import DrawStyle.Files.Tree
import DrawStyle.Log

/-!
What a run needs from its surroundings: reading whole files, replacing a file, and a log.

A run is written once for every host. `World` is the host of a tree of files, where all that a
run does is a value.
-/

namespace DrawStyle

/-- Surroundings in which files are read and replaced and messages are taken. -/
class Host (m : Type → Type) where
  read : Path → m (Except FileFault ByteArray)
  replace : Path → ByteArray → m (Except FileFault Unit)
  log : LogEntry → m Unit

structure World where
  tree : FileTree
  log : List LogEntry

instance : Host (StateM World) where
  read p := fun w => (w.tree.read p, w)
  replace p bytes := fun w =>
    let (tree, result) := w.tree.replace p bytes
    (result, { w with tree })
  log entry := fun w => ((), { w with log := w.log ++ [entry] })

end DrawStyle
