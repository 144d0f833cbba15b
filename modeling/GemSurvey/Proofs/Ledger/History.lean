import GemSurvey.Proofs.Ledger
import Mathlib.Data.Finset.Card
import Mathlib.Data.Finset.Dedup

/-! Records offered to a new ledger one after another, refused ones among them. Under each key there
stands the first record that was offered for it, whatever came later. -/
namespace GemSurvey.Ledger

def offer (l : Ledger) (r : Record) : Ledger :=
  match l.record r with
  | .ok next => next
  | .error _ => l

def offered (records : List Record) : Ledger := records.foldl offer empty

def first? (key : Key) (records : List Record) : Option Record := records.find? fun r => r.key = key

structure History (records : List Record) : Prop where
  firsts : ∀ key, (offered records).get? key = first? key records
  size : (offered records).size = (records.map Record.key).toFinset.card
  ordered : (offered records).records.Pairwise fun r s => r.key < s.key
  accepted : ∀ r next, (offered records).record r = .ok next → offered (records ++ [r]) = next
  refused : ∀ r, (∃ conflict, (offered records).record r = .error conflict) ↔
    ∃ first, first? r.key (records ++ [r]) = some first ∧ r.version ≠ first.version
  unchanged : ∀ r conflict, (offered records).record r = .error conflict →
    offered (records ++ [r]) = offered records ∧
      ∃ first, first? r.key records = some first ∧ conflict = ⟨r.key, first.version, r.version⟩

variable {l next : Ledger} {r held : Record} {records : List Record} {key : Key} {conflict : Conflict}

theorem offerOk (ok : l.record r = .ok next) : l.offer r = next := by
  rw [offer, ok]

theorem offerRefused (refused : l.record r = .error conflict) : l.offer r = l := by
  rw [offer, refused]

theorem getHeld (found : l.get? r.key = some held) (key : Key) :
    l.get? key = (l.get? key).or (if r.key = key then some r else none) := by
  by_cases same : r.key = key
  · simp [← same, found]
  · simp [same]

theorem getAdded (members : ∀ x, x ∈ next.records ↔ x = r ∨ x ∈ l.records) (key : Key) :
    next.get? key = (l.get? key).or (if r.key = key then some r else none) := by
  cases there : l.get? key with
  | some old =>
    obtain ⟨member, under⟩ := getIff.mp there
    simp [getIff.mpr ⟨(members old).mpr (.inr member), under⟩]
  | none =>
    by_cases same : r.key = key
    · simp [getIff.mpr ⟨(members r).mpr (.inl rfl), same⟩, same]
    · simp [(getNoneAdded members).mpr ⟨same, there⟩, same]

theorem getOffered (l : Ledger) (r : Record) (key : Key) :
    (l.offer r).get? key = (l.get? key).or (if r.key = key then some r else none) := by
  have course := recorded l r
  cases result : l.record r with
  | error conflict =>
    rw [result] at course
    cases course with
    | clash found => rw [offerRefused result, ← getHeld found]
  | ok next =>
    rw [result] at course
    cases course with
    | held found => rw [offerOk result, ← getHeld found]
    | added _ members => rw [offerOk result, getAdded members]

theorem getFold (l : Ledger) (records : List Record) (key : Key) :
    (records.foldl offer l).get? key = (l.get? key).or (first? key records) := by
  induction records generalizing l with
  | nil => simp [first?]
  | cons r rest ih =>
    rw [List.foldl_cons, ih, getOffered, Option.or_assoc]
    congr 1
    by_cases same : r.key = key <;> simp [first?, same]

theorem getFirst (records : List Record) (key : Key) :
    (offered records).get? key = first? key records :=
  getFold empty records key

theorem offeredSnoc (records : List Record) (r : Record) :
    offered (records ++ [r]) = (offered records).offer r := by
  simp [offered]

theorem firstSnoc : first? key (records ++ [r]) =
    (first? key records).or (if r.key = key then some r else none) := by
  by_cases same : r.key = key <;> simp [first?, same]

theorem memKeys : key ∈ l.records.map Record.key ↔ (l.get? key).isSome := by
  simp [get?, List.mem_map]

theorem sizeOffered (records : List Record) :
    (offered records).size = (records.map Record.key).toFinset.card := by
  have keys : (records.map Record.key).toFinset = ((offered records).records.map Record.key).toFinset := by
    ext key
    simp only [List.mem_toFinset, memKeys, getFirst]
    simp [first?, List.mem_map]
  rw [keys, List.toFinset_card_of_nodup (nodupKeys _), List.length_map]
  rfl

theorem refusedIff (records : List Record) (r : Record) :
    (∃ conflict, (offered records).record r = .error conflict) ↔
      ∃ first, first? r.key (records ++ [r]) = some first ∧ r.version ≠ first.version := by
  rw [firstSnoc, if_pos rfl, ← getFirst]
  constructor
  · intro ⟨conflict, refused⟩
    obtain ⟨⟨key, offered⟩, ⟨held, there, version⟩, differs⟩ := recordRefused.mp refused
    rw [key] at there
    exact ⟨held, by rw [there, Option.some_or], fun same => differs (by rw [← version, offered, same])⟩
  · intro ⟨first, stands, differs⟩
    cases there : (offered records).get? r.key with
    | none =>
      rw [there, Option.none_or] at stands
      cases stands
      exact absurd rfl differs
    | some held =>
      rw [there, Option.some_or] at stands
      cases stands
      exact ⟨⟨r.key, first.version, r.version⟩,
        recordRefused.mpr ⟨⟨rfl, rfl⟩, ⟨first, there, rfl⟩, differs.symm⟩⟩

theorem conflictTold (refused : (offered records).record r = .error conflict) :
    ∃ first, first? r.key records = some first ∧ conflict = ⟨r.key, first.version, r.version⟩ := by
  have course := recorded (offered records) r
  rw [refused] at course
  cases course with
  | clash found => exact ⟨_, (getFirst records r.key).symm.trans found, rfl⟩

theorem firstsStand (records : List Record) : History records where
  firsts := getFirst records
  size := sizeOffered records
  ordered := (offered records).ordered
  accepted r next ok := by rw [offeredSnoc, offerOk ok]
  refused := refusedIff records
  unchanged r conflict refused := ⟨by rw [offeredSnoc, offerRefused refused], conflictTold refused⟩

end GemSurvey.Ledger
