import GemSurvey.Proofs.Resolution.Growth
import GemSurvey.Proofs.Survey.Run

/-! Answers that stand. Names are asked for and versions recorded in any order, and some of it may fail.
A record stays as it is, and what was answered once is answered again from memory, without a question to
the tools; the ledger agrees with it. -/
namespace GemSurvey

def Answer.AgreesWith (versions : Ledger) : Answer → Prop
  | own => True
  | library (.gem name version) => versions.Holds ⟨.gem, name⟩ (some version)
  | library (.builtin name) => versions.Holds ⟨.library, name⟩ none
  | requirement found => versions.Holds (Requirement.commandKey found.label) found.version

inductive Operation where
  | ask (kind : ReferenceKind) (name : Text)
  | record (r : Record)
  deriving DecidableEq, Repr

namespace Session
open Requirement (fallback commandKey)

def seeded (version : Option Text) : Session := (Requirement.seed version {}).2

section
variable (package : Text) (tools : Tools) (which : Text)

def ask (kind : ReferenceKind) (name : Text) (s : Session) : Except Conflict Answer × Session :=
  match kind with
  | .library => match Library.resolve package tools name s with
      | (found, next) => (found.map (·.elim .own .library), next)
  | .command => match Requirement.resolve tools which name s with
      | (found, next) => (found.map .requirement, next)

def perform (s : Session) : Operation → Session
  | .ask kind name => (s.ask package tools which kind name).2
  | .record r => match s.record r with
      | .ok next => next
      | .error _ => s

def performAll (s : Session) (operations : List Operation) : Session :=
  operations.foldl (perform package tools which) s

end

inductive Known (package : Text) (s : Session) : ReferenceKind → Text → Answer → Prop where
  | own {name} (self : Library.isSelf package name = true) : Known package s .library name .own
  | library {name found} (other : Library.isSelf package name = false)
      (memo : s.libraries.lookup name = some found) :
      Known package s .library name (.library found)
  | command {name found} (memo : s.requirements.lookup name = some found) :
      Known package s .command name (.requirement found)

structure Coherent (s : Session) : Prop where
  fallback : ∃ version, s.versions.Holds (commandKey fallback) version
  libraries : ∀ name found,
    s.libraries.lookup name = some found → (Answer.library found).AgreesWith s.versions
  requirements : ∀ command found,
    s.requirements.lookup command = some found → (Answer.requirement found).AgreesWith s.versions

variable {package : Text} {tools : Tools} {which : Text} {s t next : Session}
  {kind : ReferenceKind} {name : Text} {answer : Answer}

theorem Known.again (known : Known package s kind name answer) (tools : Tools) (which : Text) :
    s.ask package tools which kind name = (.ok answer, s) := by
  cases known with
  | own self => simp [ask, Library.resolve, self, Except.map]
  | library other memo => simp [ask, Library.resolve, other, memo, Except.map]
  | command memo => simp [ask, Requirement.resolve, memo, Except.map]

theorem Known.grow (known : Known package s kind name answer) (grows : s.Grows t) :
    Known package t kind name answer := by
  cases known with
  | own self => exact .own self
  | library other memo => exact .library other (grows.libraries _ _ memo)
  | command memo => exact .command (grows.requirements _ _ memo)

theorem askGrows (package : Text) (tools : Tools) (which : Text) (kind : ReferenceKind)
    (name : Text) (s : Session) : s.Grows (s.ask package tools which kind name).2 := by
  cases kind with
  | library => exact Grows.library package tools name s
  | command => exact Grows.requirement tools which name s

theorem performGrows (package : Text) (tools : Tools) (which : Text) (s : Session)
    (operation : Operation) : s.Grows (s.perform package tools which operation) := by
  cases operation with
  | ask kind name => exact askGrows package tools which kind name s
  | record r =>
    simp only [perform]
    cases kept : s.record r with
    | ok next => exact Grows.record kept
    | error conflict => exact Grows.refl s

theorem performAllGrows (package : Text) (tools : Tools) (which : Text)
    (operations : List Operation) (s : Session) :
    s.Grows (s.performAll package tools which operations) := by
  induction operations generalizing s with
  | nil => exact Grows.refl s
  | cons operation rest ih => exact (performGrows package tools which s operation).trans (ih _)

theorem askedKnown (ok : (s.ask package tools which kind name).1 = .ok answer) :
    Known package (s.ask package tools which kind name).2 kind name answer := by
  cases kind with
  | library =>
    have course := Library.resolved package tools name s
    unfold ask at ok ⊢
    rcases result : Library.resolve package tools name s with ⟨found, next⟩
    simp only [result] at ok course ⊢
    cases course with
    | own self =>
      cases ok
      exact .own self
    | known other memo =>
      cases ok
      exact .library other memo
    | clash => cases ok
    | settled other fresh kept =>
      cases ok
      exact .library other (by simp)
  | command =>
    have course := Requirement.resolved tools which name s
    unfold ask at ok ⊢
    rcases result : Requirement.resolve tools which name s with ⟨found, next⟩
    simp only [result] at ok course ⊢
    cases course with
    | known memo =>
      cases ok
      exact .command memo
    | held fresh there =>
      cases ok
      exact .command (by simp [Requirement.remember])
    | probed fresh absent records same =>
      cases ok
      exact .command (by simp [Requirement.remember])

theorem libraryAgrees {versions : Ledger} {found : Library}
    (held : versions.Holds found.toRecord.key found.toRecord.version) :
    (Answer.library found).AgreesWith versions := by
  cases found with
  | gem name version => exact held
  | builtin name => exact held

theorem requirementAgrees {command : Text} {version : Option Text}
    (seeded : ∃ version, s.versions.Holds (commandKey fallback) version)
    (held : s.versions.Holds (commandKey command) version) :
    (Answer.requirement (Requirement.ofVersion s command version)).AgreesWith s.versions := by
  cases version with
  | some version => exact held
  | none =>
    obtain ⟨_, record, there, _⟩ := seeded
    exact ⟨record, there, by simp [Requirement.ofVersion, Ledger.version?, there]⟩

theorem Answer.agreesLater (grows : s.Grows t) (agrees : answer.AgreesWith s.versions) :
    answer.AgreesWith t.versions := by
  match answer, agrees with
  | .own, _ => trivial
  | .library (.gem _ _), held => exact grows.holds held
  | .library (.builtin _), held => exact grows.holds held
  | .requirement _, held => exact grows.holds held

namespace Coherent

theorem grow (h : Coherent s) (grows : s.Grows next)
    (libraries : ∀ name found, next.libraries.lookup name = some found →
      s.libraries.lookup name = some found ∨ (Answer.library found).AgreesWith next.versions)
    (requirements : ∀ command found, next.requirements.lookup command = some found →
      s.requirements.lookup command = some found ∨
        (Answer.requirement found).AgreesWith next.versions) : Coherent next where
  fallback := by
    obtain ⟨version, held⟩ := h.fallback
    exact ⟨version, grows.holds held⟩
  libraries name found memo := by
    rcases libraries name found memo with before | agrees
    · exact Answer.agreesLater grows (h.libraries name found before)
    · exact agrees
  requirements command found memo := by
    rcases requirements command found memo with before | agrees
    · exact Answer.agreesLater grows (h.requirements command found before)
    · exact agrees

theorem library (h : Coherent s) (package : Text) (tools : Tools) (name : Text) :
    Coherent (Library.resolve package tools name s).2 := by
  have grows := Grows.library package tools name s
  have course := Library.resolved package tools name s
  rcases result : Library.resolve package tools name s with ⟨found, next⟩
  simp only [result] at grows course ⊢
  cases course with
  | own => exact h
  | known => exact h
  | clash =>
    refine h.grow grows (fun _ _ memo => .inl ?_) fun _ _ memo => .inl ?_
    · simpa using memo
    · simpa using memo
  | settled other fresh kept =>
    refine h.grow grows (fun name found memo => ?_) fun _ _ memo => .inl (by simpa using memo)
    rcases Survey.Accounts.memoCons memo with before | ⟨_, rfl⟩
    · exact .inl before
    · exact .inr (libraryAgrees (Ledger.recordHolds kept))

theorem requirement (h : Coherent s) (tools : Tools) (which command : Text) :
    Coherent (Requirement.resolve tools which command s).2 := by
  have grows := Grows.requirement tools which command s
  have course := Requirement.resolved tools which command s
  rcases result : Requirement.resolve tools which command s with ⟨found, next⟩
  simp only [result] at grows course ⊢
  cases course with
  | known => exact h
  | held fresh there =>
    refine h.grow grows (fun _ _ => .inl) fun command found memo => ?_
    rcases Survey.Accounts.memoCons memo with before | ⟨_, rfl⟩
    · exact .inl before
    · exact .inr (requirementAgrees h.fallback ⟨_, there, rfl⟩)
  | @probed versions after fresh absent records same =>
    have held : after.versions.Holds (commandKey command)
        (Requirement.versionAt? tools which command s.calls) := by
      rw [same]
      exact ⟨_, Ledger.getIff.mpr ⟨(records _).mpr (.inl rfl), rfl⟩, rfl⟩
    have seeded : ∃ version, after.versions.Holds (commandKey Requirement.fallback) version := by
      obtain ⟨version, before⟩ := h.fallback
      exact ⟨version, grows.holds before⟩
    refine h.grow grows (fun _ _ memo => .inl ?_) fun command found memo => ?_
    · simpa [Requirement.remember, same] using memo
    · rcases Survey.Accounts.memoCons memo with before | ⟨_, rfl⟩
      · exact .inl (by simpa [same] using before)
      · exact .inr (requirementAgrees seeded held)

theorem ask (h : Coherent s) (package : Text) (tools : Tools) (which : Text)
    (kind : ReferenceKind) (name : Text) : Coherent (s.ask package tools which kind name).2 := by
  cases kind with
  | library => exact h.library package tools name
  | command => exact h.requirement tools which name

theorem record (h : Coherent s) {r : Record} (ok : s.record r = .ok next) : Coherent next := by
  have grows := Grows.record ok
  obtain ⟨versions, _, rfl⟩ := recordIff.mp ok
  exact h.grow grows (fun _ _ => .inl) fun _ _ => .inl

theorem perform (h : Coherent s) (package : Text) (tools : Tools) (which : Text)
    (operation : Operation) : Coherent (s.perform package tools which operation) := by
  cases operation with
  | ask kind name => exact h.ask package tools which kind name
  | record r =>
    simp only [Session.perform]
    cases kept : s.record r with
    | ok next => exact h.record kept
    | error conflict => exact h

theorem performAll (h : Coherent s) (package : Text) (tools : Tools) (which : Text)
    (operations : List Operation) : Coherent (s.performAll package tools which operations) := by
  induction operations generalizing s with
  | nil => exact h
  | cons operation rest ih => exact ih (h.perform package tools which operation)

theorem start (version : Option Text) : Coherent (seeded version) where
  fallback := ⟨version, Requirement.fallbackRecord version, by
    simp [seeded, Requirement.seed, Session.record, Ledger.record, Ledger.empty, Ledger.get?,
      Ledger.place, Except.map, Requirement.fallbackRecord], rfl⟩
  libraries _ _ found := by cases found
  requirements _ _ found := by cases found

theorem knownAgrees (h : Coherent s) (known : Known package s kind name answer) :
    answer.AgreesWith s.versions := by
  cases known with
  | own => trivial
  | library _ memo => exact h.libraries _ _ memo
  | command memo => exact h.requirements _ _ memo

end Coherent

theorem performAllAppend (package : Text) (tools : Tools) (which : Text)
    (first second : List Operation) (s : Session) :
    s.performAll package tools which (first ++ second) =
      (s.performAll package tools which first).performAll package tools which second :=
  List.foldl_append

theorem answersStand (package : Text) (tools : Tools) (which : Text) (version : Option Text)
    (before later : List Operation) :
    (∀ key held,
      ((seeded version).performAll package tools which before).versions.get? key = some held →
      ((seeded version).performAll package tools which (before ++ later)).versions.get? key =
        some held) ∧
    ∀ kind name answer,
      (((seeded version).performAll package tools which before).ask package tools which
        kind name).1 = .ok answer →
      let s := (seeded version).performAll package tools which (before ++ .ask kind name :: later)
      s.ask package tools which kind name = (.ok answer, s) ∧ answer.AgreesWith s.versions := by
  constructor
  · intro key held there
    rw [performAllAppend]
    exact (performAllGrows package tools which later _).records key held there
  · intro kind name answer answered
    have known : Known package ((seeded version).performAll package tools which
        (before ++ .ask kind name :: later)) kind name answer := by
      rw [performAllAppend]
      exact (askedKnown answered).grow (performAllGrows package tools which later _)
    have coherent := (Coherent.start version).performAll package tools which
      (before ++ .ask kind name :: later)
    exact ⟨known.again tools which, coherent.knownAgrees known⟩

end Session

namespace Sample

def disputed : Tools := .steady (locate "7.3") ask

def asked : List Operation := [
  .record ⟨⟨.command, "make"⟩, none, .notFound⟩,
  .ask .library "net/ssh/proxy",
  .ask .library "net/ssh"]

def askedLater : List Operation := [
  .record ⟨⟨.gem, "net-ssh"⟩, some "7.2", .packageManager⟩,
  .ask .command "git",
  .ask .library "net/ssh"]

end Sample

theorem Session.sampleStands :
    (((seeded (some "linux/bash")).performAll "own" Sample.disputed "which" Sample.asked).ask "own"
      Sample.disputed "which" .command "make").1 =
        .ok (.requirement ⟨"system", some "linux/bash"⟩) ∧
    let s := (seeded (some "linux/bash")).performAll "own" Sample.disputed "which"
      (Sample.asked ++ .ask .command "make" :: Sample.askedLater)
    s.ask "own" Sample.disputed "which" .command "make" =
      (.ok (.requirement ⟨"system", some "linux/bash"⟩), s) ∧
    s.versions.Holds ⟨.command, "system"⟩ (some "linux/bash") := by
  have answered : (((seeded (some "linux/bash")).performAll "own" Sample.disputed "which"
      Sample.asked).ask "own" Sample.disputed "which" .command "make").1 =
        .ok (.requirement ⟨"system", some "linux/bash"⟩) := by decide +kernel
  have stands := (answersStand "own" Sample.disputed "which" (some "linux/bash") Sample.asked
    Sample.askedLater).2 .command "make" _ answered
  exact ⟨answered, stands⟩

end GemSurvey
