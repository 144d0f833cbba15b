import GemSurvey.Proofs.Reference.Token
import GemSurvey.Survey
import Mathlib.Data.List.Nodup

/-! What the references of a survey would have asked. Where a name first occurs it leads to the
calls that settle it, and nowhere else, so that no call is asked for twice. -/
namespace GemSurvey

namespace Requirement

/-- What is asked about a command, `past` being the calls before: whether it is there, then its
version in the long form, then in the short form if the long one shows nothing. -/
def inquiry (tools : Tools) (which : Text) (past : List Call) (command : Text) : List Call :=
  let present := Call.run which [command]
  let long := Call.run command ["--version"]
  if succeeded (tools.run past which [command]) then
    if (stdoutOf (tools.run (past ++ [present]) command ["--version"])).all Text.isBlank then
      [present, long, .run command ["-v"]]
    else [present, long]
  else [present]

end Requirement

namespace Survey
open Requirement (fallback)

def Unmet (before : List Reference) (kind : ReferenceKind) (name : Text) : Prop :=
  ∀ r ∈ before, ¬ (r.kind = kind ∧ r.name = name)

instance (before kind name) : Decidable (Unmet before kind name) :=
  inferInstanceAs (Decidable (∀ r ∈ before, ¬ (r.kind = kind ∧ r.name = name)))

section
variable (package : Text) (tools : Tools) (which : Text)

def inquiry (before : List Reference) (past : List Call) (r : Reference) : List Call :=
  if Unmet before r.kind r.name then
    match r.kind with
    | .library => if Library.isSelf package r.name then [] else [.locate r.name]
    | .command => if r.name = fallback then [] else Requirement.inquiry tools which past r.name
  else []

def inquiriesAfter (before : List Reference) (past : List Call) : List Reference → List Call
  | [] => []
  | r :: rest =>
      let asked := inquiry package tools which before past r
      asked ++ inquiriesAfter (before ++ [r]) (past ++ asked) rest

def inquiries (rs : List Reference) : List Call := inquiriesAfter package tools which [] [] rs

end

inductive Asks (which : Text) : ReferenceKind → Text → Call → Prop where
  | place {name} : Asks which .library name (.locate name)
  | presence {name} : Asks which .command name (.run which [name])
  | long {name} : Asks which .command name (.run name ["--version"])
  | short {name} : Asks which .command name (.run name ["-v"])

def Tokens (rs : List Reference) : Prop := ∀ r ∈ rs, r.kind = .command → Line.IsToken r.name

section
variable {package : Text} {tools : Tools} {which : Text} {before : List Reference}
  {past : List Call} {r : Reference} {call : Call} {command : Text} {kind : ReferenceKind}
  {name : Text}

theorem unmetSnoc : Unmet (before ++ [r]) kind name ↔
    Unmet before kind name ∧ ¬ (r.kind = kind ∧ r.name = name) := by
  simp [Unmet, or_imp, forall_and]

theorem unmetOther (apart : r.kind ≠ kind) :
    Unmet (before ++ [r]) kind name ↔ Unmet before kind name := by
  simp [unmetSnoc, apart]

theorem unmetAgain (met : ¬ Unmet before r.kind r.name) :
    Unmet (before ++ [r]) kind name ↔ Unmet before kind name := by
  rw [unmetSnoc]
  refine and_iff_left_of_imp fun unmet same => met ?_
  rw [same.1, same.2]
  exact unmet

theorem noOption (h : Line.IsToken command) : command ≠ "--version" ∧ command ≠ "-v" :=
  ⟨h.noOption _ _, h.noOption _ _⟩

theorem asksOne {kind kind' : ReferenceKind} {name name' : Text} (h : Asks which kind name call)
    (h' : Asks which kind' name' call) (token : kind = .command → Line.IsToken name)
    (token' : kind' = .command → Line.IsToken name') : kind = kind' ∧ name = name' := by
  cases h with
  | place => cases h' with
    | place => exact ⟨rfl, rfl⟩
  | presence => cases h' with
    | presence => exact ⟨rfl, rfl⟩
    | long => exact absurd rfl (noOption (token rfl)).1
    | short => exact absurd rfl (noOption (token rfl)).2
  | long => cases h' with
    | presence => exact absurd rfl (noOption (token' rfl)).1
    | long => exact ⟨rfl, rfl⟩
  | short => cases h' with
    | presence => exact absurd rfl (noOption (token' rfl)).2
    | short => exact ⟨rfl, rfl⟩

theorem commandAsks (asked : call ∈ Requirement.inquiry tools which past command) :
    Asks which .command command call := by
  have one : call = .run which [command] ∨ call = .run command ["--version"] ∨
      call = .run command ["-v"] := by
    simp only [Requirement.inquiry] at asked
    split at asked
    · split at asked
      · simpa only [List.mem_cons, List.not_mem_nil, or_false] using asked
      · simp only [List.mem_cons, List.not_mem_nil, or_false] at asked
        exact asked.imp_right .inl
    · exact .inl (List.mem_singleton.mp asked)
  rcases one with rfl | rfl | rfl
  · exact .presence
  · exact .long
  · exact .short

theorem commandOnce (token : Line.IsToken command) :
    (Requirement.inquiry tools which past command).Nodup := by
  have presence (option : Text) (other : command ≠ option) :
      Call.run which [command] ≠ Call.run command [option] := by
    intro same
    exact other (List.cons.inj (Call.run.inj same).2).1
  have apart : Call.run command ["--version"] ≠ Call.run command ["-v"] := by
    intro same
    exact absurd (List.cons.inj (Call.run.inj same).2).1 (by decide)
  obtain ⟨long, short⟩ := noOption token
  simp only [Requirement.inquiry]
  split
  · split
    · refine List.nodup_cons.mpr ⟨?_, List.nodup_cons.mpr ⟨?_, List.nodup_singleton _⟩⟩
      · simp only [List.mem_cons, List.not_mem_nil, or_false, not_or]
        exact ⟨presence _ long, presence _ short⟩
      · simpa only [List.mem_singleton] using apart
    · refine List.nodup_cons.mpr ⟨?_, List.nodup_singleton _⟩
      simpa only [List.mem_singleton] using presence _ long
  · exact List.nodup_singleton _

theorem inquiryAsks (asked : call ∈ inquiry package tools which before past r) :
    Unmet before r.kind r.name ∧ Asks which r.kind r.name call := by
  unfold inquiry at asked
  split at asked
  · rename_i unmet
    refine ⟨unmet, ?_⟩
    cases kind : r.kind with
    | library =>
      simp only [kind] at asked
      split at asked
      · cases asked
      · cases List.mem_singleton.mp asked
        exact .place
    | command =>
      simp only [kind] at asked
      split at asked
      · cases asked
      · exact commandAsks asked
  · cases asked

theorem inquiryOnce (token : r.kind = .command → Line.IsToken r.name) :
    (inquiry package tools which before past r).Nodup := by
  unfold inquiry
  split
  · cases kind : r.kind with
    | library =>
      simp only
      split
      · exact List.nodup_nil
      · exact List.nodup_singleton _
    | command =>
      simp only
      split
      · exact List.nodup_nil
      · exact commandOnce (token kind)
  · exact List.nodup_nil

theorem inquiriesAsk {rs : List Reference}
    (asked : call ∈ inquiriesAfter package tools which before past rs) :
    ∃ r ∈ rs, Unmet before r.kind r.name ∧ Asks which r.kind r.name call := by
  induction rs generalizing before past with
  | nil => cases asked
  | cons r rest ih =>
    rcases List.mem_append.mp asked with here | later
    · exact ⟨r, List.mem_cons_self, inquiryAsks here⟩
    · obtain ⟨r', there, unmet, asks⟩ := ih later
      exact ⟨r', List.mem_cons_of_mem _ there, (unmetSnoc.mp unmet).1, asks⟩

theorem inquiriesOnce {rs : List Reference} (tokens : Tokens rs) :
    (inquiriesAfter package tools which before past rs).Nodup := by
  induction rs generalizing before past with
  | nil => exact List.nodup_nil
  | cons r rest ih =>
    have token := tokens r List.mem_cons_self
    have tail : Tokens rest := fun r' there => tokens r' (List.mem_cons_of_mem _ there)
    refine (inquiryOnce token).append (ih tail) ?_
    intro call here later
    obtain ⟨r', there, unmet, asks⟩ := inquiriesAsk later
    exact (unmetSnoc.mp unmet).2 (asksOne (inquiryAsks here).2 asks token (tail r' there))

end
end Survey
end GemSurvey
