import GemSurvey.Resolution.Session
import GemSurvey.Text.CharClass

/-! Commands. A command is probed once a run: it must be there, and then tell its version, by the first
line of `--version` or else by the last word of `-v`. One that has no version counts as the fallback
requirement `system`. -/
namespace GemSurvey.Requirement

def fallback : Text := "system"

def commandKey (label : Text) : Key := ⟨.command, label⟩

def fallbackRecord (version : Option Text) : Record :=
  ⟨commandKey fallback, version, if version.isSome then .configured else .notFound⟩

def seed (version : Option Text) (s : Session) : Except Conflict Unit × Session :=
  match s.record (fallbackRecord version) with
  | .ok s => (.ok (), s)
  | .error conflict => (.error conflict, s)

def stdoutOf (answer : Except IoFault Output) : Text :=
  match answer with
  | .ok o => o.stdout
  | .error _ => []

def combinedOf (answer : Except IoFault Output) : Text :=
  match answer with
  | .ok o => o.combined
  | .error _ => []

def succeeded (answer : Except IoFault Output) : Bool :=
  match answer with
  | .ok o => o.success
  | .error _ => false

def probeVersion (tools : Tools) (command : Text) (s : Session) : Option Text × Session :=
  let (long, s) := s.run tools command ["--version"]
  match Text.firstLine? (stdoutOf long) with
  | some version => (some version, s)
  | none =>
      let (short, s) := s.run tools command ["-v"]
      ((Text.lastWord? (stdoutOf short)).or (Text.lastWord? (combinedOf short)), s)

def probed (command : Text) (version : Option Text) : Record :=
  ⟨commandKey command, version, if version.isSome then .commandProbe else .notFound⟩

def probe (tools : Tools) (which command : Text) (s : Session) : Record × Session :=
  let (present, s) := s.run tools which [command]
  if succeeded present then
    let (version, s) := probeVersion tools command s
    (probed command version, s)
  else (probed command none, s)

def ofVersion (s : Session) (command : Text) : Option Text → Requirement
  | some version => ⟨command, some version⟩
  | none => ⟨fallback, s.versions.version? (commandKey fallback)⟩

def remember (command : Text) (r : Requirement) (s : Session) : Session :=
  { s with requirements := (command, r) :: s.requirements }

def resolve (tools : Tools) (which command : Text) (s : Session) :
    Except Conflict Requirement × Session :=
  match s.requirements.lookup command with
  | some known => (.ok known, s)
  | none => match s.versions.get? (commandKey command) with
      | some held =>
          let found := ofVersion s command held.version
          (.ok found, remember command found s)
      | none =>
          let (record, s) := probe tools which command s
          match s.record record with
          | .error conflict => (.error conflict, s)
          | .ok s =>
              let found := ofVersion s command record.version
              (.ok found, remember command found s)

end GemSurvey.Requirement
