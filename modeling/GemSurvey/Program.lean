import GemSurvey.CommandLine
import GemSurvey.Datum.Basic
import GemSurvey.Gemspec
import GemSurvey.Log
import GemSurvey.Report.Encoding

/-! The program: from its arguments and the world around it to what it prints, the tree that it leaves
and its exit code. The log lines of a command stand before its notes, then what is uncommitted, and the
complaint of a run that fails comes last. A description is written when all else has succeeded. -/
namespace GemSurvey.Program

structure Effect where
  result : Except Fault Unit
  stdout : Text := []
  entries : List Log.Entry := []
  notes : Text := []
  tree : Tree

def failed (tree : Tree) (entries : List Log.Entry) (fault : Fault) : Effect :=
  { result := .error fault, entries := entries, tree := tree }

def padded (width : Nat) (t : Text) : Text := t ++ List.replicate (width - t.length) ' '

def fileLine (file : SourceFile) : Text :=
  padded 12 file.role.label ++ " " ++ file.path.text ++ "\n"

def listFiles (tree : Tree) (w : Workspace) : Effect :=
  match w.sources tree with
  | .error fault => failed tree [] fault
  | .ok selected =>
      { result := .ok (), stdout := (Selection.files selected).flatMap fileLine
        entries := Log.ofSelected selected, tree := tree }

def reportText (json : Bool) (report : Report) : Except Fault Text :=
  if json then .ok (report.toDatum.json 0 ++ "\n") else Listing.ofReport report

def listDependencies (tree : Tree) (w : Workspace) (json : Bool) : Effect :=
  let outcome := w.survey tree
  let entries := Log.ofSurvey outcome
  match outcome.result with
  | .error fault => failed tree entries fault
  | .ok report => match reportText json report with
      | .error fault => failed tree entries fault
      | .ok t => { result := .ok (), stdout := t, entries := entries, tree := tree }

def readmeEntries (tree : Tree) (w : Workspace) : List Log.Entry :=
  ((Project.unreadable? w tree).map Log.ofReadme).toList

def written (root path : Path) (report : Report) : Text :=
  "✅ Wrote " ++ ((root.below? path).getD path).text ++ " (" ++
    Text.decimal report.declarations.length ++ " dependency lines)\n"

def describe (tree : Tree) (today : Text) (w : Workspace) (print : Bool) : Effect :=
  let said := readmeEntries tree w
  match Project.load w tree today with
  | .error fault => failed tree said fault
  | .ok project =>
      let outcome := w.survey tree
      let said := said ++ Log.ofSurvey outcome
      match outcome.result with
      | .error fault => failed tree said fault
      | .ok report => match w.git.tracked with
          | .error fault => failed tree said fault
          | .ok files => match Gemspec.render project files report.declarations with
              | .error fault => failed tree said fault
              | .ok content =>
                  if print then
                    { result := .ok (), stdout := content, entries := said, tree := tree }
                  else match Gemspec.write tree w.root project content with
                    | .error fault => failed tree said fault
                    | .ok (path, changed) =>
                        { result := .ok (), stdout := written w.root path report
                          entries := said, tree := changed }

def attributeLine (entry : Text × Option Text) : Text :=
  padded 16 (entry.1 ++ ":") ++ entry.2.getD [] ++ "\n"

def attributesMissing : Fault := .withHelp "Project had missing attributes"
  ("Add a DESCRIPTION section to the README, a VERSION constant under lib/, and git " ++
    "user.name/user.email")

def showAttributes (tree : Tree) (today : Text) (w : Workspace) (check : Bool) : Effect :=
  let said := readmeEntries tree w
  match Project.load w tree today with
  | .error fault => failed tree said fault
  | .ok project =>
      let undefined := if check then project.missing else []
      { result := if undefined.isEmpty then .ok () else .error attributesMissing
        stdout := project.attributes.flatMap attributeLine
        entries := said
        notes := undefined.flatMap fun name => name ++ " undefined\n"
        tree := tree }

def perform (tree : Tree) (today : Text) (w : Workspace) (i : CommandLine.Invocation) : Effect :=
  match i.command with
  | .files => listFiles tree w
  | .dependencies => listDependencies tree w i.flag
  | .gemspec => describe tree today w i.flag
  | .info => showAttributes tree today w i.flag

def uncommitted (w : Workspace) : Text :=
  match w.git.status with
  | .error _ => []
  | .ok status =>
      if status.isEmpty then []
      else "\x1b[1m\x1b[33mUncommitted changes:\x1b[0m\n" ++ status ++ "\n"

def complaint (fault : Fault) : Text :=
  "\n❌ " ++ fault.message ++ "\n\n" ++
    match fault.help? with
    | some help => "💡 Help: " ++ help ++ "\n\n"
    | none => []

structure Result where
  code : Nat
  fault : Option Fault := none
  stdout : Text := []
  stderr : Text := []
  tree : Tree

def faultOf? (result : Except Fault Unit) : Option Fault :=
  match result with
  | .ok () => none
  | .error fault => some fault

def complaintOf (fault : Option Fault) : Text := (fault.map complaint).getD []

def codeOf (fault : Option Fault) : Nat := (fault.map Fault.exitCode).getD 0

def invoke (world : World) (i : CommandLine.Invocation) : Result :=
  let start := (i.directory.map Path.mk).getD world.currentPath
  match Workspace.openAt world start with
  | .error fault =>
      { code := codeOf (some fault), fault := some fault, stderr := complaint fault
        tree := world.tree }
  | .ok w =>
      let effect := perform world.tree world.today w i
      let fault := faultOf? effect.result
      { code := codeOf fault
        fault := fault
        stdout := effect.stdout
        stderr := Log.render world.logFilter i.verbosity effect.entries ++ effect.notes ++
          uncommitted w ++ complaintOf fault
        tree := effect.tree }

def versionLine (command : Option CommandLine.CommandName) : Text :=
  match command with
  | none => "gemsmith 0.1.0\n"
  | some c => "gemsmith-" ++ c.label ++ " 0.1.0\n"

def usage : Text :=
  "Usage: gemsmith [-v] [-C DIR] files | dependencies [--json] | gemspec [--stdout] | info [--check]\n"

def misuseCode : Nat := 2

def run (world : World) (arguments : List Text) : Result :=
  match CommandLine.read arguments with
  | .run i => invoke world i
  | .version command => { code := 0, stdout := versionLine command, tree := world.tree }
  | .help => { code := 0, stdout := usage, tree := world.tree }
  | .misuse => { code := misuseCode, stderr := usage, tree := world.tree }

end GemSurvey.Program
