import GemSurvey.Ledger
import GemSurvey.Source.Basic
import GemSurvey.Tools

/-! What a run knows so far: the versions, the problems met, the calls made, oldest first, and the
answers given before for each name and each command. A required name turns out to be a gem or a part of
the language and its standard library, and a command counts as itself or as the fallback. -/
namespace GemSurvey

inductive Library where
  | gem (name version : Text)
  | builtin (name : Text)
  deriving DecidableEq, Repr

structure Requirement where
  label : Text
  version : Option Text
  deriving DecidableEq, Repr

structure Session where
  versions : Ledger := .empty
  problems : List Diagnostic := []
  calls : List Call := []
  queries : Nat := 0
  libraries : List (Text × Library) := []
  requirements : List (Text × Requirement) := []
  deriving Repr

namespace Session

def locate (s : Session) (tools : Tools) (name : Text) : Except IoFault Text × Session :=
  (tools.locate s.calls name, { s with calls := s.calls ++ [.locate name] })

def run (s : Session) (tools : Tools) (program : Text) (arguments : List Text) :
    Except IoFault Output × Session :=
  (tools.run s.calls program arguments, { s with calls := s.calls ++ [.run program arguments] })

def report (s : Session) (problem : Diagnostic) : Session :=
  { s with problems := s.problems ++ [problem] }

def record (s : Session) (r : Record) : Except Conflict Session :=
  (s.versions.record r).map fun versions => { s with versions := versions }

end Session
end GemSurvey
