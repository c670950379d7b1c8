import GoScaffold.Command

/-! The program: it reads the files that a command may look at, runs the command on them, and writes
the files that the command changed. -/

namespace GoScaffold.Program

def take (tree : FileTree) (path : String) : IO FileTree := do
  try
    let bytes ← IO.FS.readBinFile path
    return (tree.write? path bytes).getD tree
  catch _ =>
    try
      if ← (← IO.FS.realPath path).isDir then return (tree.makeDirectory? path).getD tree
      else return tree
    catch _ => return tree

def put (path : String) (bytes : ByteArray) : IO Bool := do
  try
    IO.FS.createDirAll (Path.parent path)
    IO.FS.writeBinFile path bytes
    return true
  catch _ =>
    IO.eprintln ("Error: " ++ (Error.write path).message)
    return false

end GoScaffold.Program

open GoScaffold in
def main (args : List String) : IO UInt32 := do
  let known ← (Command.lookups {} args).foldlM Program.take {}
  let tree ← (Command.lookups known args).foldlM Program.take known
  let outcome := Command.run tree args
  let written ← (outcome.tree.changes tree).mapM fun (path, bytes) => Program.put path bytes
  IO.print outcome.output
  IO.eprint outcome.complaints
  return if written.all (· == true) then outcome.code.toUInt32 else 1
