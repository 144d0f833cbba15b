import GemSurvey.Proofs.Text.Cutting
import GemSurvey.Text.Utf8
import Mathlib.Algebra.Group.Nat.Defs

/-! Where bytes are text. A byte of the lower half stands for itself, so that bytes are text with
it at their end exactly if they are without it, and a text has a newline only where they have. -/
namespace GemSurvey.Text

def isText (bytes : Bytes) : Bool := (decode? bytes).isSome

def Pending.Upper : Pending → Prop
  | .none => True
  | .owing _ low _ _ => 0x80 ≤ low

theorem beginUpper (byte : Nat) : (beginUnit byte).2.Upper := by
  unfold beginUnit
  repeat' split
  all_goals simp [Pending.Upper]

theorem stepUpper (byte : Nat) (pending : Pending) : (stepUnit byte pending).2.Upper := by
  cases pending with
  | none => exact beginUpper byte
  | owing count low high bits =>
    simp only [stepUnit]
    split
    · split
      · trivial
      · exact Nat.le_refl 0x80
    · exact beginUpper byte

theorem unitsCut {bytes rest : Bytes} {byte : UInt8} (lower : byte.toNat < 0x80)
    (pending : Pending) (upper : pending.Upper) : units pending (bytes ++ byte :: rest) =
      units pending bytes ++ some (Char.ofNat byte.toNat) :: units .none rest := by
  induction bytes generalizing pending with
  | nil => cases pending with
    | none => simp [units, stepUnit, beginUnit, lower]
    | owing count low high bits =>
      have outside : ¬ low ≤ byte.toNat := by
        have : 0x80 ≤ low := upper
        omega
      simp [units, stepUnit, beginUnit, lower, outside]
  | cons first more ih =>
    simp only [List.cons_append, units, ih _ (stepUpper _ _), List.append_assoc]

theorem lenientCut (bytes rest : Bytes) {byte : UInt8} (lower : byte.toNat < 0x80) :
    decodeLenient (bytes ++ byte :: rest) =
      decodeLenient bytes ++ Char.ofNat byte.toNat :: decodeLenient rest := by
  unfold decodeLenient
  rw [unitsCut lower .none trivial, List.map_append, List.map_cons, Option.getD_some]

theorem decodeSnoc (bytes : Bytes) {last : UInt8} (lower : last.toNat < 0x80) :
    decode? (bytes ++ [last]) = (decode? bytes).map (· ++ [Char.ofNat last.toNat]) := by
  unfold decode?
  rw [unitsCut lower .none trivial, List.mapM_append]
  cases (units .none bytes).mapM id <;> rfl

theorem isTextSnoc (bytes : Bytes) {last : UInt8} (lower : last.toNat < 0x80) :
    isText (bytes ++ [last]) = isText bytes := by
  rw [isText, isText, decodeSnoc bytes lower, Option.isSome_map]

theorem isTextStripped (bytes : Bytes) : isText (dropLastIf (· == 13) bytes) = isText bytes := by
  rcases dropLastForm (· == 13) bytes with same | ⟨last, ret, same⟩
  · rw [same]
  · cases eq_of_beq ret
    conv => rhs; rw [same]
    exact (isTextSnoc _ (by decide)).symm

/-- What is settled of a sequence: it completes to no code below. -/
def Pending.floor : Pending → Nat
  | .none => 0x80
  | .owing count low _ bits => (bits * 64 + (low - 0x80)) * 64 ^ (count - 1)

theorem beginFloor (byte : Nat) : 0x80 ≤ (beginUnit byte).2.floor := by
  unfold beginUnit
  repeat' split
  all_goals simp_all [Pending.floor]
  all_goals omega

theorem stepFloor (byte : Nat) {pending : Pending} (above : 0x80 ≤ pending.floor) :
    0x80 ≤ (stepUnit byte pending).2.floor := by
  cases pending with
  | none => exact beginFloor byte
  | owing count low high bits =>
    simp only [stepUnit]
    split
    · rename_i within
      simp only [Bool.and_eq_true, decide_eq_true_eq] at within
      split
      · exact Nat.le_refl 0x80
      · have power : 64 ^ (count - 1) = 64 * 64 ^ (count - 1 - 1) := by
          rw [← Nat.pow_succ']
          congr 1
          omega
        have grown : bits * 64 + (low - 0x80) ≤ bits * 64 + (byte - 0x80) := by omega
        have scaled := Nat.mul_le_mul_right (64 ^ (count - 1)) grown
        simp only [Pending.floor] at above ⊢
        rw [Nat.sub_self, Nat.add_zero, Nat.mul_assoc, ← power]
        exact Nat.le_trans above scaled
    · exact beginFloor byte

theorem beginChar {byte : Nat} {c : Char} (member : some c ∈ (beginUnit byte).1) :
    c = Char.ofNat byte := by
  unfold beginUnit at member
  repeat' split at member
  all_goals simp_all

theorem stepChar {byte : Nat} {pending : Pending} {c : Char} (above : 0x80 ≤ pending.floor)
    (member : some c ∈ (stepUnit byte pending).1) :
    c = Char.ofNat byte ∨ ∃ code, 0x80 ≤ code ∧ c = Char.ofNat code := by
  cases pending with
  | none => exact .inl (beginChar member)
  | owing count low high bits =>
    simp only [stepUnit] at member
    split at member
    · rename_i within
      simp only [Bool.and_eq_true, decide_eq_true_eq] at within
      split at member
      · rename_i last
        have power : 64 ^ (count - 1) = 1 := by rw [Nat.sub_eq_zero_of_le last, Nat.pow_zero]
        simp only [Pending.floor, power] at above
        exact .inr ⟨_, by omega, Option.some.inj (List.mem_singleton.mp member)⟩
      · cases member
    · rcases List.mem_cons.mp member with none | begun
      · cases none
      · exact .inl (beginChar begun)

theorem unitsChar {bytes : Bytes} {pending : Pending} {c : Char} (above : 0x80 ≤ pending.floor)
    (member : some c ∈ units pending bytes) :
    (∃ byte ∈ bytes, c = Char.ofNat byte.toNat) ∨ ∃ code, 0x80 ≤ code ∧ c = Char.ofNat code := by
  induction bytes generalizing pending with
  | nil =>
    rw [units] at member
    split at member <;> simp at member
  | cons byte rest ih =>
    rw [units, List.mem_append] at member
    rcases member with done | later
    · rcases stepChar above done with same | beyond
      · exact .inl ⟨byte, List.mem_cons_self, same⟩
      · exact .inr beyond
    · rcases ih (stepFloor _ above) later with ⟨other, there, same⟩ | beyond
      · exact .inl ⟨other, List.mem_cons_of_mem _ there, same⟩
      · exact .inr beyond

theorem decodeIff {bytes : Bytes} {t : Text} :
    decode? bytes = some t ↔ units .none bytes = t.map some := by
  unfold decode?
  generalize units .none bytes = read
  induction read generalizing t with
  | nil => cases t <;> simp
  | cons unit rest ih =>
    cases unit with
    | none => cases t <;> simp
    | some c =>
      cases t with
      | nil => simp [List.mapM_cons, Option.bind_eq_some_iff]
      | cons d more =>
        rw [List.mapM_cons, List.map_cons, List.cons.injEq, ← ih]
        cases List.mapM id rest <;> simp

theorem newlineCode {code : Nat} (same : Char.ofNat code = '\n') : code = 10 := by
  rw [Char.ofNat] at same
  by_cases valid : code.isValidChar
  · rw [dif_pos valid] at same
    exact congrArg Char.toNat same
  · rw [dif_neg valid] at same
    cases same

theorem newlineUnits {bytes : Bytes} (unmarked : 10 ∉ bytes) : some '\n' ∉ units .none bytes := by
  intro unit
  rcases @unitsChar _ .none _ (Nat.le_refl 0x80) unit with ⟨byte, there, same⟩ | ⟨code, above, same⟩
  · have ten : byte = 10 := UInt8.toNat_inj.mp (newlineCode same.symm)
    exact unmarked (ten ▸ there)
  · have ten := newlineCode same.symm
    omega

theorem newlineDecoded {bytes : Bytes} {t : Text} (read : decode? bytes = some t)
    (unmarked : 10 ∉ bytes) : '\n' ∉ t :=
  fun member => newlineUnits unmarked (decodeIff.mp read ▸ List.mem_map_of_mem member)

theorem newlineLenient {bytes : Bytes} (unmarked : 10 ∉ bytes) : '\n' ∉ decodeLenient bytes := by
  intro member
  obtain ⟨unit, there, same⟩ := List.mem_map.mp member
  cases unit with
  | none => exact absurd same (by decide)
  | some c => exact newlineUnits unmarked (Option.getD_some.symm.trans same ▸ there)

end GemSurvey.Text
