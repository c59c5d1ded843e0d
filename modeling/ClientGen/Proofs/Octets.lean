/-
# Texts survive as octets

A text that is encoded as octets is read back from them as it was.  Reading goes through
the octets piece by piece, so it is enough to see that the octets of one character are read
as one piece, whatever follows them.  The first octet announces how many octets follow and
the bounds of the next one; the bounds leave out the forms that are too long and the codes
that are no characters, and a character is of neither kind.
-/
import ClientGen.Text.Utf8

namespace ClientGen

/-- A character is the one of its code. -/
@[simp]
theorem Text.charOfCode_toNat (c : Char) : charOfCode c.toNat = c := by
  have valid : c.toNat.isValidChar := c.valid
  rw [charOfCode, if_pos valid, Char.ofNat_toNat]

namespace Utf8

/-- An octet that continues a character gives six more bits. -/
theorem continueWith_cons {low high : UInt8} {n : Nat} (small : n < 64)
    (lower : low.toNat ≤ 0x80 + n) (upper : 0x80 + n ≤ high.toNat) (bits : Nat)
    (read : List UInt8) (owed : Nat) (rest : List UInt8) :
    continueWith bits read (owed + 1) low high ((0x80 + n).toUInt8 :: rest) =
      continueWith (64 * bits + n) (read ++ [(0x80 + n).toUInt8]) owed 0x80 0xBF rest := by
  have value : (0x80 + n).toUInt8.toNat = 0x80 + n := Nat.mod_eq_of_lt (by omega)
  have within : low ≤ (0x80 + n).toUInt8 ∧ (0x80 + n).toUInt8 ≤ high := by
    rw [UInt8.le_iff_toNat_le, UInt8.le_iff_toNat_le, value]
    exact ⟨lower, upper⟩
  rw [continueWith, if_pos within, value, Nat.add_sub_cancel_left]

/-- An octet with the usual bounds that continues a character gives six more bits. -/
theorem continueWith_tail (n bits : Nat) (read : List UInt8) (owed : Nat) (rest : List UInt8) :
    continueWith bits read (owed + 1) 0x80 0xBF ((0x80 + n % 64).toUInt8 :: rest) =
      continueWith (64 * bits + n % 64) (read ++ [(0x80 + n % 64).toUInt8]) owed 0x80 0xBF
        rest := by
  have small : n % 64 < 64 := Nat.mod_lt n (by decide)
  have upper : 0x80 + n % 64 ≤ (0xBF : UInt8).toNat :=
    Nat.add_le_add_left (Nat.le_pred_of_lt small) _
  exact continueWith_cons small (Nat.le_add_right _ _) upper bits read owed rest

/-! ## What the first octet announces -/

theorem announce_two : ∀ k < 30, announce (0xC2 + k).toUInt8 = some (k + 2, 1, 0x80, 0xBF) := by
  decide

theorem announce_three : ∀ k < 16, announce (0xE0 + k).toUInt8 =
    some (k, 2, if k = 0 then 0xA0 else 0x80, if k = 0xD then 0x9F else 0xBF) := by
  decide

theorem announce_four : ∀ k < 5, announce (0xF0 + k).toUInt8 =
    some (k, 3, if k = 0 then 0x90 else 0x80, if k = 4 then 0x8F else 0xBF) := by
  decide

/-- Where an octet announces a character of several octets, the next piece is read on. -/
theorem nextPiece_of_announce {first low high : UInt8} {bits owed : Nat}
    (announced : announce first = some (bits, owed, low, high)) (rest : List UInt8) :
    nextPiece first rest = continueWith bits [first] owed low high rest := by
  have many : ¬ first < 0x80 := by
    intro few
    have few : first.toNat < 0x80 := UInt8.lt_iff_toNat_lt.mp few
    rw [announce, if_pos (by omega)] at announced
    cases announced
  rw [nextPiece, if_neg many, announced]

/-! ## One character -/

/-- The octets of a character are read as one piece. -/
theorem nextPiece_encodeChar (c : Char) :
    ∃ first more, encodeChar c = first :: more ∧
      ∀ rest, nextPiece first (more ++ rest) = .char c (more.length + 1) := by
  have valid : c.toNat < 0xD800 ∨ 0xDFFF < c.toNat ∧ c.toNat < 0x110000 := c.valid
  rw [encodeChar]
  split
  · rename_i one
    refine ⟨_, _, rfl, fun rest => ?_⟩
    have value : c.toNat.toUInt8.toNat = c.toNat := Nat.mod_eq_of_lt (by omega)
    have few : c.toNat.toUInt8 < 0x80 := by
      rw [UInt8.lt_iff_toNat_lt, value]
      exact one
    rw [nextPiece, if_pos few, value, Text.charOfCode_toNat]
    rfl
  split
  · rename_i two
    refine ⟨_, _, rfl, fun rest => ?_⟩
    have whole : 64 * (c.toNat / 64) + c.toNat % 64 = c.toNat := by omega
    obtain ⟨k, high⟩ : ∃ k, c.toNat / 64 = k + 2 := ⟨c.toNat / 64 - 2, by omega⟩
    have first : 0xC0 + c.toNat / 64 = 0xC2 + k := by omega
    rw [first, nextPiece_of_announce (announce_two k (by omega)), ← high]
    simp only [List.cons_append, List.nil_append]
    rw [continueWith_tail, continueWith, whole, Text.charOfCode_toNat]
    rfl
  split
  · rename_i three
    refine ⟨_, _, rfl, fun rest => ?_⟩
    have whole : 64 * (64 * (c.toNat / 4096) + c.toNat / 64 % 64) + c.toNat % 64 = c.toNat := by
      omega
    rw [nextPiece_of_announce (announce_three (c.toNat / 4096) (by omega))]
    simp only [List.cons_append, List.nil_append]
    rw [continueWith_cons (Nat.mod_lt _ (by decide)), continueWith_tail, continueWith, whole,
      Text.charOfCode_toNat]
    · rfl
    · split
      · exact Nat.le_trans (by decide : (0xA0 : UInt8).toNat ≤ 0xA0) (by omega)
      · exact Nat.le_trans (by decide : (0x80 : UInt8).toNat ≤ 0x80) (by omega)
    · split
      · exact Nat.le_trans (by omega) (by decide : 0x9F ≤ (0x9F : UInt8).toNat)
      · exact Nat.le_trans (by omega) (by decide : 0xBF ≤ (0xBF : UInt8).toNat)
  · refine ⟨_, _, rfl, fun rest => ?_⟩
    have whole : 64 * (64 * (64 * (c.toNat / 262144) + c.toNat / 4096 % 64) +
        c.toNat / 64 % 64) + c.toNat % 64 = c.toNat := by
      omega
    rw [nextPiece_of_announce (announce_four (c.toNat / 262144) (by omega))]
    simp only [List.cons_append, List.nil_append]
    rw [continueWith_cons (Nat.mod_lt _ (by decide)), continueWith_tail, continueWith_tail,
      continueWith, whole, Text.charOfCode_toNat]
    · rfl
    · split
      · exact Nat.le_trans (by decide : (0x90 : UInt8).toNat ≤ 0x90) (by omega)
      · exact Nat.le_trans (by decide : (0x80 : UInt8).toNat ≤ 0x80) (by omega)
    · split
      · exact Nat.le_trans (by omega) (by decide : 0x8F ≤ (0x8F : UInt8).toNat)
      · exact Nat.le_trans (by omega) (by decide : 0xBF ≤ (0xBF : UInt8).toNat)

/-! ## Texts -/

/-- Octets that belong to the piece read last are passed over. -/
theorem piecesFrom_append (skipped rest : List UInt8) :
    piecesFrom skipped.length (skipped ++ rest) = piecesFrom 0 rest := by
  induction skipped with
  | nil => rfl
  | cons octet skipped ih => exact ih

/-- The octets of a character make up the first piece. -/
theorem piecesFrom_encodeChar (c : Char) (rest : List UInt8) :
    ∃ size, piecesFrom 0 (encodeChar c ++ rest) = .char c size :: piecesFrom 0 rest := by
  obtain ⟨first, more, octets, piece⟩ := nextPiece_encodeChar c
  refine ⟨more.length + 1, ?_⟩
  rw [octets, List.cons_append, piecesFrom, piece]
  exact congrArg (_ :: ·) (piecesFrom_append more rest)

/-- A text is read back from its octets. -/
theorem decode_encode (t : Text) : decode (encode t) = .ok t := by
  have read : ∀ position, decodePieces position (piecesFrom 0 (encode t)) = .ok t := by
    induction t with
    | nil => intro position; rfl
    | cons c rest ih =>
        intro position
        obtain ⟨size, pieces⟩ := piecesFrom_encodeChar c (encode rest)
        have octets : encode (c :: rest) = encodeChar c ++ encode rest := rfl
        rw [octets, pieces, decodePieces, ih]
        rfl
  exact read 0

end Utf8

end ClientGen
