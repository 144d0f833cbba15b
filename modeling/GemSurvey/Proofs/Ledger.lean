import GemSurvey.Ledger
import Mathlib.Data.List.Nodup

/-! A ledger as a map from keys to records. What it holds under a key is the one record of that
key, and to record changes it at the most by that record. -/
namespace GemSurvey.Ledger

theorem nodupKeys (l : Ledger) : (l.records.map Record.key).Nodup := by
  refine List.pairwise_map.mpr (l.ordered.imp ?_)
  intro a b less equal
  exact Key.ltIrrefl b.key (equal ▸ less)

theorem uniqueKeys {l : Ledger} {r s} (hr : r ∈ l.records) (hs : s ∈ l.records)
    (same : r.key = s.key) : r = s :=
  List.inj_on_of_nodup_map l.nodupKeys hr hs same

theorem getIff {l : Ledger} {key r} : l.get? key = some r ↔ r ∈ l.records ∧ r.key = key := by
  constructor
  · intro found
    exact ⟨List.mem_of_find?_eq_some found, by simpa using List.find?_some found⟩
  · rintro ⟨member, rfl⟩
    cases found : l.get? r.key with
    | none => simpa using List.find?_eq_none.mp found r member
    | some held =>
      have same : held.key = r.key := by simpa using List.find?_some found
      rw [uniqueKeys (List.mem_of_find?_eq_some found) member same]

theorem getNone {l : Ledger} {key} : l.get? key = none ↔ ∀ r ∈ l.records, r.key ≠ key := by
  simp [get?, List.find?_eq_none]

theorem versionIff {l : Ledger} {key v} :
    l.version? key = some v ↔ ∃ provenance, ⟨key, some v, provenance⟩ ∈ l.records := by
  simp only [version?, Option.bind_eq_some_iff, getIff]
  constructor
  · rintro ⟨⟨_, _, provenance⟩, ⟨member, rfl⟩, rfl⟩
    exact ⟨provenance, member⟩
  · rintro ⟨provenance, member⟩
    exact ⟨_, ⟨member, rfl⟩, rfl⟩

theorem versionOfMem {l : Ledger} {r} (member : r ∈ l.records) : l.version? r.key = r.version := by
  simp [version?, getIff.mpr ⟨member, rfl⟩]

theorem eqOfMem {l m : Ledger} (same : ∀ x, x ∈ l.records ↔ x ∈ m.records) : l = m := by
  have records : l.records = m.records := by
    refine List.Perm.eq_of_pairwise (fun a b _ _ before after => ?_) l.ordered m.ordered
      ((List.perm_ext_iff_of_nodup l.nodupKeys.of_map m.nodupKeys.of_map).mpr same)
    exact absurd (Key.ltTrans before after) (Key.ltIrrefl a.key)
  cases l
  cases m
  cases records
  rfl

theorem memPlaceIff {r x : Record} {rs : List Record} (fresh : ∀ y ∈ rs, y.key ≠ r.key) :
    x ∈ place r rs ↔ x = r ∨ x ∈ rs := by
  induction rs with
  | nil => simp [place]
  | cons y rest ih =>
    have tail := ih fun z hz => fresh z (List.mem_cons_of_mem _ hz)
    rw [place]
    split
    · simp
    · rename_i notBefore
      split
      · simp only [List.mem_cons, tail]
        exact or_left_comm
      · rename_i notAfter
        exact absurd (Key.eqOfNotLt notAfter notBefore) (fresh y List.mem_cons_self)

theorem getNoneAdded {l next : Ledger} {r : Record}
    (records : ∀ x, x ∈ next.records ↔ x = r ∨ x ∈ l.records) {key} :
    next.get? key = none ↔ r.key ≠ key ∧ l.get? key = none := by
  simp [getNone, records, or_imp, forall_and]

inductive Recorded (l : Ledger) (r : Record) : Except Conflict Ledger → Prop where
  | held {old} (found : l.get? r.key = some old) (same : old.version = r.version) :
      Recorded l r (.ok l)
  | clash {old} (found : l.get? r.key = some old) (different : old.version ≠ r.version) :
      Recorded l r (.error ⟨r.key, old.version, r.version⟩)
  | added {next : Ledger} (fresh : l.get? r.key = none)
      (records : ∀ x, x ∈ next.records ↔ x = r ∨ x ∈ l.records) : Recorded l r (.ok next)

theorem recorded (l : Ledger) (r : Record) : Recorded l r (l.record r) := by
  unfold record
  split
  · rename_i old found
    split
    · exact .held found (by assumption)
    · exact .clash found (by assumption)
  · rename_i fresh
    exact .added fresh fun x => memPlaceIff (getNone.mp fresh)

theorem recordFresh {l : Ledger} {r} (fresh : l.get? r.key = none) :
    ∃ next, l.record r = .ok next ∧ ∀ x, x ∈ next.records ↔ x = r ∨ x ∈ l.records := by
  have course := recorded l r
  cases result : l.record r with
  | error conflict => rw [result] at course; cases course with
    | clash found => simp [fresh] at found
  | ok next => rw [result] at course; cases course with
    | held found => simp [fresh] at found
    | added _ records => exact ⟨next, rfl, records⟩

def Holds (l : Ledger) (key : Key) (version : Option Text) : Prop :=
  ∃ record, l.get? key = some record ∧ record.version = version

theorem recordRefused {l : Ledger} {r : Record} {conflict : Conflict} :
    l.record r = .error conflict ↔ (conflict.key = r.key ∧ conflict.offered = r.version) ∧
      l.Holds conflict.key conflict.held ∧ conflict.held ≠ conflict.offered := by
  have course := recorded l r
  constructor
  · intro refused
    rw [refused] at course
    cases course with
    | clash found different => exact ⟨⟨rfl, rfl⟩, ⟨_, found, rfl⟩, different⟩
  · obtain ⟨key, held, offered⟩ := conflict
    rintro ⟨⟨rfl, rfl⟩, ⟨old, there, rfl⟩, different⟩
    simp only at there different
    simp [record, there, different]

theorem recordKeeps {l next : Ledger} {r held : Record} {key : Key} (ok : l.record r = .ok next)
    (there : l.get? key = some held) : next.get? key = some held := by
  have course := recorded l r
  rw [ok] at course
  cases course with
  | held => exact there
  | added _ records =>
    obtain ⟨member, same⟩ := getIff.mp there
    exact getIff.mpr ⟨(records held).mpr (.inr member), same⟩

theorem recordHolds {l next : Ledger} {r : Record} (ok : l.record r = .ok next) :
    next.Holds r.key r.version := by
  have course := recorded l r
  rw [ok] at course
  cases course with
  | held found same => exact ⟨_, found, same⟩
  | added _ records => exact ⟨r, getIff.mpr ⟨(records r).mpr (.inl rfl), rfl⟩, rfl⟩

theorem foldFresh {records : List Record} (l : Ledger)
    (once : records.Pairwise fun a b => a.key < b.key)
    (fresh : ∀ r ∈ records, l.get? r.key = none) :
    ∃ all, records.foldlM record l = .ok all ∧
      ∀ x, x ∈ all.records ↔ x ∈ l.records ∨ x ∈ records := by
  induction records generalizing l with
  | nil => exact ⟨l, rfl, by simp⟩
  | cons r rest ih =>
    obtain ⟨less, once⟩ := List.pairwise_cons.mp once
    obtain ⟨next, recorded, grown⟩ := recordFresh (fresh r List.mem_cons_self)
    have later : ∀ x ∈ rest, next.get? x.key = none := by
      intro x there
      have apart : r.key ≠ x.key := fun same => Key.ltIrrefl x.key (same ▸ less x there)
      exact (getNoneAdded grown).mpr ⟨apart, fresh x (List.mem_cons_of_mem _ there)⟩
    obtain ⟨all, done, members⟩ := ih next once later
    refine ⟨all, ?_, fun x => ?_⟩
    · rw [List.foldlM_cons, recorded]
      exact done
    · rw [members, grown, List.mem_cons]
      exact or_assoc.trans or_left_comm

theorem ofOwnRecords (l : Ledger) : ofRecords l.records = .ok l := by
  obtain ⟨all, done, members⟩ := foldFresh empty l.ordered fun _ _ => rfl
  have same : all = l := eqOfMem fun x => by simp [members, empty]
  rw [ofRecords, done, same]

end GemSurvey.Ledger
