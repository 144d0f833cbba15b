import GemSurvey.Proofs.Text.Utf8

/-! Encoded text. A character is encoded in one to four bytes, by how large its code is, and each
text is read back from its bytes. -/
namespace GemSurvey.Text

section
variable {n : Nat} {rest : Bytes}

theorem byteCode (small : n < 256) : (UInt8.ofNat n).toNat = n := Nat.mod_eq_of_lt small

theorem unitsBegun {byte : Nat} {next : Pending} (small : byte < 256)
    (begins : beginUnit byte = ([], next)) :
    units .none (UInt8.ofNat byte :: rest) = units next rest := by
  simp only [units, stepUnit, byteCode small, begins, List.nil_append]

theorem unitsContinued {count low high bits byte : Nat} (small : byte < 256) (least : low ≤ byte)
    (most : byte ≤ high) :
    units (.owing count low high bits) (UInt8.ofNat byte :: rest) =
      if count ≤ 1 then some (Char.ofNat (bits * 64 + (byte - 0x80))) :: units .none rest
      else units (.owing (count - 1) 0x80 0xBF (bits * 64 + (byte - 0x80))) rest := by
  simp only [units, stepUnit, byteCode small, least, most, decide_true, Bool.and_self, if_true]
  split <;> rfl

theorem beginsTwo (above : 0x7F < n) (below : n ≤ 0x7FF) :
    beginUnit (n / 64 % 32 + 192) = ([], .owing 1 0x80 0xBF (n / 64)) := by
  have first : n / 64 % 32 + 192 = n / 64 + 192 := by omega
  rw [first]
  unfold beginUnit
  simp only [Bool.and_eq_true, decide_eq_true_eq]
  rw [if_neg (by omega), if_pos (by omega), Nat.add_sub_cancel]

theorem beginsThree (above : 0x7FF < n) (below : n ≤ 0xFFFF)
    (valid : n < 0xD800 ∨ 0xDFFF < n) : ∃ low high,
      beginUnit (n / 4096 % 16 + 224) = ([], .owing 2 low high (n / 4096)) ∧
        low ≤ n / 64 % 64 + 128 ∧ n / 64 % 64 + 128 ≤ high := by
  have first : n / 4096 % 16 + 224 = n / 4096 + 224 := by omega
  rw [first]
  by_cases least : n / 4096 = 0
  · exact ⟨0xA0, 0xBF, by rw [least]; rfl, by omega, by omega⟩
  by_cases surrogate : n / 4096 = 13
  · exact ⟨0x80, 0x9F, by rw [surrogate]; rfl, by omega, by omega⟩
  refine ⟨0x80, 0xBF, ?_, by omega, by omega⟩
  unfold beginUnit
  simp only [Bool.and_eq_true, decide_eq_true_eq, beq_iff_eq]
  rw [if_neg (by omega), if_neg (by omega), if_neg (by omega), if_neg (by omega),
    if_pos (by omega), Nat.add_sub_cancel]

theorem beginsFour (above : 0xFFFF < n) (below : n < 0x110000) : ∃ low high,
    beginUnit (n / 262144 % 8 + 240) = ([], .owing 3 low high (n / 262144)) ∧
      low ≤ n / 4096 % 64 + 128 ∧ n / 4096 % 64 + 128 ≤ high := by
  have first : n / 262144 % 8 + 240 = n / 262144 + 240 := by omega
  rw [first]
  by_cases least : n / 262144 = 0
  · exact ⟨0x90, 0xBF, by rw [least]; rfl, by omega, by omega⟩
  by_cases most : n / 262144 = 4
  · exact ⟨0x80, 0x8F, by rw [most]; rfl, by omega, by omega⟩
  refine ⟨0x80, 0xBF, ?_, by omega, by omega⟩
  unfold beginUnit
  simp only [Bool.and_eq_true, decide_eq_true_eq, beq_iff_eq]
  rw [if_neg (by omega), if_neg (by omega), if_neg (by omega), if_neg (by omega),
    if_neg (by omega), if_neg (by omega), if_pos (by omega), Nat.add_sub_cancel]

end

theorem unitsEncoded (c : Char) (rest : Bytes) :
    units .none (String.utf8EncodeChar c ++ rest) = some c :: units .none rest := by
  have valid : c.val.toNat < 0xD800 ∨ 0xDFFF < c.val.toNat ∧ c.val.toNat < 0x110000 := c.valid
  have same : Char.ofNat c.val.toNat = c := Char.ofNat_toNat c
  unfold String.utf8EncodeChar
  generalize c.val.toNat = n at valid same
  dsimp only
  -- One case for each count of bytes; the code is put together again from their bits.
  split
  · have lower : n < 0x80 := by omega
    simp only [List.cons_append, List.nil_append, units, stepUnit, beginUnit,
      byteCode (show n < 256 by omega), if_pos lower, same]
  split
  · rename_i two
    have code : n / 64 * 64 + (n % 64 + 128 - 0x80) = n := by omega
    simp only [List.cons_append, List.nil_append]
    rw [unitsBegun (by omega) (beginsTwo (by omega) two),
      unitsContinued (by omega) (by omega) (by omega), if_pos (by omega), code, same]
  split
  · rename_i three
    have code : (n / 4096 * 64 + (n / 64 % 64 + 128 - 0x80)) * 64 + (n % 64 + 128 - 0x80) = n := by
      omega
    obtain ⟨low, high, begins, least, most⟩ := beginsThree (by omega) three (by omega)
    simp only [List.cons_append, List.nil_append]
    rw [unitsBegun (by omega) begins, unitsContinued (by omega) least most, if_neg (by omega),
      unitsContinued (by omega) (by omega) (by omega), if_pos (by omega), code, same]
  · have code : ((n / 262144 * 64 + (n / 4096 % 64 + 128 - 0x80)) * 64 +
        (n / 64 % 64 + 128 - 0x80)) * 64 + (n % 64 + 128 - 0x80) = n := by omega
    obtain ⟨low, high, begins, least, most⟩ := @beginsFour n (by omega) (by omega)
    simp only [List.cons_append, List.nil_append]
    rw [unitsBegun (by omega) begins, unitsContinued (by omega) least most, if_neg (by omega),
      unitsContinued (by omega) (by omega) (by omega), if_neg (by omega),
      unitsContinued (by omega) (by omega) (by omega), if_pos (by omega), code, same]

theorem unitsText (t : Text) : units .none (encode t) = t.map some := by
  unfold encode
  induction t with
  | nil => rfl
  | cons c rest ih => rw [List.flatMap_cons, unitsEncoded, ih, List.map_cons]

theorem encodedText (t : Text) : decode? (encode t) = some t := decodeIff.mpr (unitsText t)

theorem decodeEncoded (t : Text) : decodeLenient (encode t) = t := by
  unfold decodeLenient
  rw [unitsText, List.map_map]
  exact List.map_id' t

end GemSurvey.Text
