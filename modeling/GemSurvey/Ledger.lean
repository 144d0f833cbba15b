import GemSurvey.Fault
import GemSurvey.Text.Quoted

/-! The versions that a run has settled on: one record a key, in the order of the keys. A gem's key is
the name that the package manager reports, a library's a required name that is no gem's, and a command
is shown with a dot before its name. The first record for a key stands; another version for it is a
conflict. -/
namespace GemSurvey

inductive KeyKind where
  | gem
  | library
  | command
  deriving DecidableEq, Repr

structure Key where
  kind : KeyKind
  name : Text
  deriving DecidableEq, Repr

inductive Provenance where
  | packageManager | commandProbe | notFound
  | configured
  deriving DecidableEq, Repr

structure Record where
  key : Key
  version : Option Text
  provenance : Provenance
  deriving DecidableEq, Repr

def KeyKind.rank : KeyKind → Nat
  | gem => 0
  | library => 1
  | command => 2

theorem KeyKind.rankInj {a b : KeyKind} (h : a.rank = b.rank) : a = b := by
  cases a <;> cases b <;> simp [rank] at h <;> rfl

namespace Key

def shown (key : Key) : Text :=
  match key.kind with
  | .command => '.' :: key.name
  | _ => key.name

instance : LT Key :=
  ⟨fun a b => a.kind.rank < b.kind.rank ∨ (a.kind.rank = b.kind.rank ∧ a.name < b.name)⟩

instance (a b : Key) : Decidable (a < b) :=
  inferInstanceAs (Decidable (a.kind.rank < b.kind.rank ∨
    (a.kind.rank = b.kind.rank ∧ a.name < b.name)))

theorem ltIrrefl (a : Key) : ¬ a < a := by
  rintro (h | ⟨_, h⟩)
  · exact Nat.lt_irrefl _ h
  · exact List.lt_irrefl _ h

theorem ltTrans {a b c : Key} (h : a < b) (k : b < c) : a < c := by
  rcases h with h | ⟨h, h'⟩ <;> rcases k with k | ⟨k, k'⟩
  · exact .inl (Nat.lt_trans h k)
  · exact .inl (k ▸ h)
  · exact .inl (h ▸ k)
  · exact .inr ⟨h.trans k, List.lt_trans h' k'⟩

theorem eqOfNotLt {a b : Key} (h : ¬ a < b) (k : ¬ b < a) : a = b := by
  have rank : a.kind.rank = b.kind.rank :=
    Nat.le_antisymm (Nat.le_of_not_lt fun l => k (.inl l)) (Nat.le_of_not_lt fun l => h (.inl l))
  have name : a.name = b.name :=
    List.le_antisymm (List.not_lt.mp fun l => k (.inr ⟨rank.symm, l⟩))
      (List.not_lt.mp fun l => h (.inr ⟨rank, l⟩))
  cases a; cases b
  exact (Key.mk.injEq ..).mpr ⟨KeyKind.rankInj rank, name⟩

end Key

structure Conflict where
  key : Key
  held : Option Text
  offered : Option Text
  deriving DecidableEq, Repr

def Conflict.fault (c : Conflict) : Fault :=
  .invariant ("'" ++ c.key.shown ++ "' resolved to both " ++ Text.shown c.held ++ " and " ++
    Text.shown c.offered ++ " in one run")

structure Ledger where
  records : List Record
  ordered : records.Pairwise fun r s => r.key < s.key
  deriving DecidableEq, Repr

namespace Ledger

def empty : Ledger := ⟨[], .nil⟩

instance : Inhabited Ledger := ⟨empty⟩

def get? (l : Ledger) (key : Key) : Option Record := l.records.find? fun r => r.key = key

def version? (l : Ledger) (key : Key) : Option Text := (l.get? key).bind Record.version

def size (l : Ledger) : Nat := l.records.length

def place (r : Record) : List Record → List Record
  | [] => [r]
  | x :: rest =>
      if r.key < x.key then r :: x :: rest
      else if x.key < r.key then x :: place r rest
      else x :: rest

theorem memPlace {r x : Record} {rs : List Record} (h : x ∈ place r rs) : x = r ∨ x ∈ rs := by
  induction rs with
  | nil => simpa [place] using h
  | cons y rest ih =>
    rw [place] at h
    split at h
    · simpa using h
    · split at h
      · rcases List.mem_cons.mp h with same | inside
        · exact .inr (by simp [same])
        · exact (ih inside).imp_right fun m => List.mem_cons_of_mem _ m
      · exact .inr h

theorem orderedPlace {r : Record} {rs : List Record}
    (h : rs.Pairwise fun a b => a.key < b.key) :
    (place r rs).Pairwise fun a b => a.key < b.key := by
  induction rs with
  | nil => simp [place]
  | cons x rest ih =>
    have head := (List.pairwise_cons.mp h).1
    have tail := (List.pairwise_cons.mp h).2
    rw [place]
    split
    · rename_i lt
      refine List.pairwise_cons.mpr ⟨fun a ha => ?_, h⟩
      rcases List.mem_cons.mp ha with same | inside
      · exact same ▸ lt
      · exact Key.ltTrans lt (head a inside)
    · split
      · rename_i gt
        refine List.pairwise_cons.mpr ⟨fun a ha => ?_, ih tail⟩
        rcases memPlace ha with same | inside
        · exact same ▸ gt
        · exact head a inside
      · exact h

def record (l : Ledger) (r : Record) : Except Conflict Ledger :=
  match l.get? r.key with
  | some held =>
      if held.version = r.version then .ok l else .error ⟨r.key, held.version, r.version⟩
  | none => .ok ⟨place r l.records, orderedPlace l.ordered⟩

def ofRecords (records : List Record) : Except Conflict Ledger := records.foldlM record empty

end Ledger
end GemSurvey
