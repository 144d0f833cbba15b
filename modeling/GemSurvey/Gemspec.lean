import GemSurvey.Project

/-! The gem's description as a file: the project's attributes, the tracked files and the dependency
lines. A project that lacks a required attribute is refused. A tracked `bin/` file of the gem's own name
is its executable. -/
namespace GemSurvey.Gemspec

def required (p : Project) : List (Text × Option Text) :=
  [("version", p.version), ("description", p.description), ("summary", p.summary),
    ("author", p.author), ("email", p.email)]

def lacking (p : Project) : List Text := ((required p).filter (·.2.isNone)).map (·.1)

def assigned (label value : Text) : Text := "  s." ++ label ++ "= '" ++ value ++ "'\n"

def heredoc (label word value : Text) : Text :=
  "  s." ++ label ++ " = <<" ++ word ++ "\n" ++ value ++ "\n" ++ word ++ "\n"

def homepage (p : Project) : Text :=
  p.homepage.getD (Project.homepageOf (p.author.getD []) p.name)

def heading (p : Project) : Text :=
  "Gem::Specification.new do |s|\n\n" ++
    assigned "name     " p.name ++ assigned "version  " (p.version.getD []) ++ "\n" ++
    assigned "homepage " (homepage p) ++ "\n" ++
    assigned "author   " (p.author.getD []) ++ assigned "email    " (p.email.getD []) ++ "\n" ++
    assigned "date     " p.date ++ "  s.licenses = ['" ++ p.license ++ "']\n\n"

def texts (p : Project) : Text :=
  heredoc "description" "DESCRIPTION" (p.description.getD []) ++ "\n" ++
    heredoc "summary" "SUMMARY" (p.summary.getD []) ++ "\n"

def fileLine (file : Path) : Text := file.text ++ "\n"

def fileBlock (files : List Path) : Text :=
  "  s.require_paths = ['lib']\n  s.files = %w(\n" ++
    files.flatMap fileLine ++ "  )\n"

def executableLine (p : Project) (files : List Path) : Text :=
  if files.any (Path.same (("bin" : Path).join ⟨p.name⟩)) then
    "  s.executables << '" ++ p.name ++ "'\n"
  else []

def declarationLine (d : Declaration) : Text := "  " ++ d.shown ++ "\n"

def body (p : Project) (files : List Path) (declarations : List Declaration) : Text :=
  heading p ++ texts p ++ fileBlock files ++ executableLine p files ++
    declarations.flatMap declarationLine ++ "end\n"

def render (p : Project) (files : List Path) (declarations : List Declaration) :
    Except Fault Text :=
  if (lacking p).isEmpty then .ok (body p files declarations)
  else .error (.withHelp
    ("Cannot write " ++ p.gemspec ++ ": missing " ++ Text.join ", " (lacking p))
    "Run `gemsmith info --check` to see which project attributes are undefined")

def place (root : Path) (p : Project) : Path := root.join ⟨p.gemspec⟩

def write (tree : Tree) (root : Path) (p : Project) (content : Text) :
    Except Fault (Path × Tree) :=
  match tree.write (place root p) (Text.encode content) with
  | .ok tree => .ok (place root p, tree)
  | .error cause => .error (.ofIo ("Failed to write " ++ (place root p).text) cause)

end GemSurvey.Gemspec
