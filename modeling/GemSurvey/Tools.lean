import GemSurvey.Fault
import GemSurvey.Text.Utf8

/-! The programs that a run asks, as functions of what was asked before, oldest first, and of the
question. What an answer may depend on is thereby open; tools that always answer alike ignore the past.
The package manager's program places a required name, and no place is an empty text. No program's name
and no argument can hold the zero character. Both streams of a program make one text, each on lines of
its own. -/
namespace GemSurvey

structure Output where
  stdout : Text := []
  stderr : Text := []
  success : Bool := false
  deriving DecidableEq, Repr

def Output.combined (o : Output) : Text :=
  let apart := !o.stdout.isEmpty && o.stdout.getLast? != some '\n' && !o.stderr.isEmpty
  o.stdout ++ (if apart then ['\n'] else []) ++ o.stderr

structure Printed where
  stdout : Bytes := []
  stderr : Bytes := []
  success : Bool := false
  deriving DecidableEq, Repr

def Printed.output (p : Printed) : Output :=
  ⟨Text.decodeLenient p.stdout, Text.decodeLenient p.stderr, p.success⟩

def runBy (ask : Text → List Text → Except IoFault Printed) (program : Text)
    (arguments : List Text) : Except IoFault Output :=
  if (program :: arguments).any (·.contains '\x00') then .error .zeroInArgument
  else (ask program arguments).map Printed.output

inductive Call where
  | locate (name : Text)
  | run (program : Text) (arguments : List Text)
  deriving DecidableEq, Repr

structure Tools where
  locate : List Call → Text → Except IoFault Text
  run : List Call → Text → List Text → Except IoFault Output

namespace Tools

def steady (locate : Text → Except IoFault Text)
    (run : Text → List Text → Except IoFault Output) : Tools :=
  ⟨fun _ => locate, fun _ => run⟩

end Tools

def locateBy (run : Text → List Text → Except IoFault Output) (program name : Text) :
    Except IoFault Text :=
  (run program ["which", name]).map fun o => if o.success then o.stdout else []

end GemSurvey
