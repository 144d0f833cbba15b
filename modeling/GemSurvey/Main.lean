import GemSurvey.Program
import GemSurvey.World

/-! The command line: a recorded world comes in on standard input, and the files that the run
changes are written where they are. -/
namespace GemSurvey.Main

def logVariable : String := "GEMSMITH_LOG"

def asString (t : Text) : String := String.ofList t

def save (change : Place × Bytes) : IO Unit :=
  IO.FS.writeBinFile ("/" ++ "/".intercalate (change.1.map asString)) ⟨change.2.toArray⟩

def execute (world : World) (arguments : List Text) : IO UInt32 := do
  let result := Program.run world arguments
  for change in Tree.changes world.tree result.tree do save change
  (← IO.getStdout).putStr (asString result.stdout)
  (← IO.getStderr).putStr (asString result.stderr)
  return UInt32.ofNat result.code

end GemSurvey.Main

def main (arguments : List String) : IO UInt32 := do
  let recorded ← (← IO.getStdin).readToEnd
  let logFilter := (← IO.getEnv GemSurvey.Main.logVariable).getD ""
  match GemSurvey.Snapshot.read recorded.toList with
  | .ok snapshot =>
      GemSurvey.Main.execute (snapshot.world logFilter.toList) (arguments.map String.toList)
  | .error reason =>
      (← IO.getStderr).putStrLn (GemSurvey.Main.asString ("unreadable record: ".toList ++ reason))
      return UInt32.ofNat GemSurvey.Program.misuseCode
