import GemSurvey.Proofs.Ledger
import GemSurvey.Proofs.Text.Start
import GemSurvey.Resolution.Library

/-! Required names. A package's own files are named by its name, alone or with a slash and more behind
it; of any other name, what can come of it and what each outcome leaves behind. -/
namespace GemSurvey.Library

def IsOwn (package name : Text) : Prop := name = package ∨ ∃ part, name = package ++ '/' :: part

theorem isSelfIff {package name : Text} : isSelf package name = true ↔ IsOwn package name := by
  have begins (rest : Text) : name = package ++ rest ↔ Text.after? package name = some rest :=
    Text.afterIff.symm
  unfold isSelf IsOwn
  simp only [begins]
  have whole := begins []
  rw [List.append_nil] at whole
  rw [whole]
  cases Text.after? package name with
  | none => simp
  | some rest => cases rest with
    | nil => simp
    | cons c part => simp

end GemSurvey.Library

namespace GemSurvey.Library

def placeOf (answer : Except IoFault Text) : Text :=
  match answer with
  | .ok place => place
  | .error _ => []

def foundAt (tools : Tools) (past : List Call) (name : Text) : Library :=
  ofLocated name (placeOf (tools.locate past name))

theorem foundGem {tools : Tools} {past : List Call} {name gem version : Text} :
    foundAt tools past name = .gem gem version ↔
      Located.parse? (placeOf (tools.locate past name)) = some (gem, version) := by
  simp only [foundAt, ofLocated]
  cases Located.parse? (placeOf (tools.locate past name)) with
  | none => simp
  | some found => simp [Prod.ext_iff]

section Asking
variable (s : Session) (tools : Tools) (name : Text)

theorem locatedFound : ofLocated name (located s tools name).1 = foundAt tools s.calls name := by
  simp only [located, Session.locate, foundAt]
  cases tools.locate s.calls name <;> rfl

@[simp] theorem locatedVersions : (located s tools name).2.versions = s.versions := by
  simp only [located, Session.locate]
  cases tools.locate s.calls name <;> rfl

@[simp] theorem locatedLibraries : (located s tools name).2.libraries = s.libraries := by
  simp only [located, Session.locate]
  cases tools.locate s.calls name <;> rfl

@[simp] theorem locatedRequirements : (located s tools name).2.requirements = s.requirements := by
  simp only [located, Session.locate]
  cases tools.locate s.calls name <;> rfl

theorem locatedCalls : (located s tools name).2.calls = s.calls ++ [.locate name] := by
  simp only [located, Session.locate]
  cases tools.locate s.calls name <;> rfl

end Asking

inductive Resolved (package : Text) (tools : Tools) (name : Text) (s : Session) :
    Except Conflict (Option Library) × Session → Prop where
  | own (self : isSelf package name = true) : Resolved package tools name s (.ok none, s)
  | known {found} (other : isSelf package name = false)
      (memo : s.libraries.lookup name = some found) :
      Resolved package tools name s (.ok (some found), s)
  | clash {conflict} (other : isSelf package name = false)
      (fresh : s.libraries.lookup name = none)
      (refused : s.versions.record (foundAt tools s.calls name).toRecord = .error conflict) :
      Resolved package tools name s (.error conflict, (located s tools name).2)
  | settled {versions} (other : isSelf package name = false)
      (fresh : s.libraries.lookup name = none)
      (kept : s.versions.record (foundAt tools s.calls name).toRecord = .ok versions) :
      Resolved package tools name s (.ok (some (foundAt tools s.calls name)),
        { (located s tools name).2 with
          versions := versions
          libraries := (name, foundAt tools s.calls name) :: s.libraries })

theorem resolved (package : Text) (tools : Tools) (name : Text) (s : Session) :
    Resolved package tools name s (resolve package tools name s) := by
  unfold resolve
  split
  · exact .own (by assumption)
  · rename_i notSelf
    have other : isSelf package name = false := by simpa using notSelf
    split
    · exact .known other (by assumption)
    · rename_i fresh
      simp only [Session.record, locatedVersions, locatedFound]
      cases result : s.versions.record (foundAt tools s.calls name).toRecord with
      | error conflict => exact .clash other fresh result
      | ok versions => simpa [Except.map] using Resolved.settled other fresh result

end GemSurvey.Library
