import Flowline.CommandLine

/-!
# The program

Reads the file that the first argument names and standard input, runs the command, prints what it
prints and gives back its exit code.
-/

open Flowline

def readSourceFile (path : String) : IO (Except Fault String) := do
  try
    return fileSource (← IO.FS.readBinFile path).toList
  catch _ =>
    return .error (.noFile path)

def lastWords : CommandLine.Stop → Option String
  | .exit _ => none
  | .fault f => some (f.message?.getD "the data are not of the right kind")
  | .broken (.raised e) => some (e.kind ++ ": " ++ e.message?.getD "")
  | .broken (.unreadable e) => some e.message
  | .broken _ => some "the program did not finish"

def main (args : List String) : IO UInt32 := do
  let source ←
    match args with
    | path :: _ => readSourceFile path
    | [] => pure (.ok "")
  let input ← (← IO.getStdin).readToEnd
  let report := CommandLine.run { input := input.toList } source args
  (← IO.getStdout).putStr report.world.printed
  match lastWords report.stop with
  | some text => (← IO.getStderr).putStrLn text
  | none => pure ()
  match report.stop with
  | .exit code => return (code % 256).toNat.toUInt32
  | _ => return 1
