import GemSurvey.Toml.Document
import GemSurvey.Tools
import GemSurvey.Tree

/-! What a run of the program finds around it: a tree, programs that answer by their name and arguments,
a log filter, which a blank one leaves to the command line, and the day. A recorded world has the files
of a project with their absolute paths, and what each program answers to its arguments. A program that
has an answer to anything is there, and answers nothing, without success, to what was not recorded. -/
namespace GemSurvey

structure World where
  tree : Tree
  ask : Text → List Text → Except IoFault Printed
  logFilter : Text
  today : Text

namespace World

def run (world : World) : Text → List Text → Except IoFault Output := runBy world.ask

def currentPath (world : World) : Path := ⟨'/' :: Text.join ['/'] world.tree.current⟩

end World
end GemSurvey

namespace GemSurvey

structure RecordedFile where
  path : Path
  text : Text
  executable : Bool
  deriving DecidableEq, Repr

structure RecordedAnswer where
  program : Text
  arguments : List Text
  stdout : Text
  stderr : Text
  success : Bool
  deriving DecidableEq, Repr

structure Snapshot where
  current : Path
  today : Text
  files : List RecordedFile
  answers : List RecordedAnswer
  deriving DecidableEq, Repr

namespace Snapshot

open Datum (asText asTexts asBoolean asListOf)

def fileOf (d : Datum) : Except Datum.Fault RecordedFile := do
  let fs ← d.fields false ["path", "text", "executable"]
  .ok ⟨⟨← fs.required "path" asText⟩, ← fs.default "text" [] asText,
    ← fs.default "executable" false asBoolean⟩

def answerOf (d : Datum) : Except Datum.Fault RecordedAnswer := do
  let fs ← d.fields false ["program", "arguments", "stdout", "stderr", "success"]
  .ok ⟨← fs.required "program" asText, ← fs.default "arguments" [] asTexts,
    ← fs.default "stdout" [] asText, ← fs.default "stderr" [] asText,
    ← fs.default "success" true asBoolean⟩

def ofDatum (d : Datum) : Except Datum.Fault Snapshot := do
  let fs ← d.fields false ["current", "today", "files", "answers"]
  .ok ⟨⟨← fs.required "current" asText⟩, ← fs.required "today" asText,
    ← fs.default "files" [] (asListOf fileOf), ← fs.default "answers" [] (asListOf answerOf)⟩

def read (t : Text) : Except Text Snapshot :=
  match Toml.read t with
  | .error fault => .error fault.message
  | .ok d => match ofDatum d with
      | .error fault => .error fault.message
      | .ok snapshot => .ok snapshot

def place (p : Path) : Place :=
  p.components.filterMap fun
    | .name t => some t
    | _ => none

def parents (p : Place) : List Place := (List.range p.length).map fun n => p.take n

def directories (s : Snapshot) : List Place :=
  let holding := s.files.flatMap fun file => parents (place file.path)
  ((holding ++ parents (place s.current) ++ [place s.current]).filter (!·.isEmpty)).eraseDups

def tree (s : Snapshot) : Tree where
  nodes := s.directories.map (·, .directory) ++
    s.files.map fun file => (place file.path, .file (Text.encode file.text) file.executable)
  current := place s.current

def ask (s : Snapshot) (program : Text) (arguments : List Text) : Except IoFault Printed :=
  let known := s.answers.filter (·.program = program)
  if known.isEmpty then .error .notFound
  else match known.find? (·.arguments = arguments) with
    | some answer => .ok ⟨Text.encode answer.stdout, Text.encode answer.stderr, answer.success⟩
    | none => .ok {}

def world (s : Snapshot) (logFilter : Text) : World := ⟨s.tree, s.ask, logFilter, s.today⟩

end Snapshot

namespace Tree

def changes (earlier later : Tree) : List (Place × Bytes) :=
  later.nodes.filterMap fun entry =>
    match entry.2 with
    | .file content _ =>
        if earlier.nodes.contains entry then none else some (entry.1, content)
    | _ => none

end Tree
end GemSurvey
