import GemSurvey.Settings.Load
import GemSurvey.Tools

/-! Questions to git: where the work tree is, what is tracked in it, what is uncommitted, and who the
author is. All but the first are asked from the work tree's root, so that paths come back relative to
it. Tracked paths that the ignore pattern matches are left out, and a value that is not configured is
empty. -/
namespace GemSurvey

structure Git where
  run : Text → List Text → Except IoFault Output
  workTree : Path
  ignore : Option Settings.Ignore := none

namespace Git

def ask (run : Text → List Text → Except IoFault Output) (arguments : List Text) :
    Except IoFault Output := run "git" arguments

def openAt (run : Text → List Text → Except IoFault Output) (start : Path) : Except Fault Git :=
  match ask run ["-C", start.text, "rev-parse", "--show-toplevel"] with
  | .error cause => .error (.ofIo "Failed to execute git rev-parse" cause)
  | .ok o =>
      if o.success then .ok { run := run, workTree := ⟨Text.trim o.stdout⟩ }
      else if Text.occursIn "not a git repository" o.stderr then .error (.git (.notRepository start))
      else .error (.ofText ("Failed to open git repository: " ++ o.stderr))

def atRoot (git : Git) (arguments : List Text) : Except IoFault Output :=
  ask git.run ("-C" :: git.workTree.text :: "-c" :: "core.quotePath=false" :: arguments)

def query (git : Git) (arguments : List Text) : Except Fault Text :=
  let command : Text := "git " ++ Text.join [' '] arguments
  match git.atRoot arguments with
  | .error cause => .error (.ofIo ("Failed to execute " ++ command) cause)
  | .ok o => if o.success then .ok o.stdout else .error (.git (.commandFailed command o.stderr))

def isIgnored (git : Git) (path : Text) : Bool := git.ignore.any (·.matches path)

def paths (git : Git) (stdout : Text) : List Path :=
  (((Text.lines stdout).map Text.trim).filter fun line =>
    !line.isEmpty && !git.isIgnored line).map Path.mk

def tracked (git : Git) : Except Fault (List Path) := (git.query ["ls-files"]).map git.paths

def status (git : Git) : Except Fault Text :=
  (git.query ["status", "--porcelain"]).map Text.trim

def value (git : Git) (key : Text) : Text :=
  match git.atRoot ["config", key] with
  | .ok o => if o.success then Text.trim o.stdout else []
  | .error _ => []

def userName (git : Git) : Text := git.value "user.name"

def userEmail (git : Git) : Text := git.value "user.email"

end Git
end GemSurvey
