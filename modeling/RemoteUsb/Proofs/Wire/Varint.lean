import Mathlib.Algebra.Group.Nat.Defs
import RemoteUsb.Wire.Varint

/-! What is written as a varint is read back, and what follows it is left alone. -/

namespace RemoteUsb.Wire.Varint

/-- The numbers of a width are those below its bound. -/
def Width.bound (w : Width) : Nat := 128 ^ (w.count - 1) * (w.last.toNat + 1)

theorem toNat_toUInt8 {n : Nat} (h : n < 256) : n.toUInt8.toNat = n := by
  simp [Nat.mod_eq_of_lt h]

theorem readGroups_write {last : UInt8} (hlast : last.toNat < 128) (left : Nat) :
    ∀ n rest, n < 128 ^ left * (last.toNat + 1) →
      readGroups last (left + 1) (write n ++ rest) = .ok (n, rest) := by
  induction left with
  | zero =>
    intro n rest hn
    have hbyte := toNat_toUInt8 (n := n) (by omega)
    rw [write, if_pos (by omega), List.singleton_append, readGroups, if_pos, if_neg, hbyte]
    · rw [UInt8.lt_iff_toNat_lt, hbyte]
      omega
    · rw [UInt8.lt_iff_toNat_lt, hbyte]
      show n < 128
      omega
  | succ left ih =>
    intro n rest hn
    rw [write]
    split
    · have hbyte := toNat_toUInt8 (n := n) (by omega)
      rw [List.singleton_append, readGroups, if_pos, if_neg, hbyte]
      · exact fun h => absurd h.1 (Nat.succ_ne_zero left)
      · rw [UInt8.lt_iff_toNat_lt, hbyte]
        assumption
    · have hbyte := toNat_toUInt8 (n := n % 128 + 128) (by omega)
      have hhigh : n / 128 < 128 ^ left * (last.toNat + 1) := by
        rw [Nat.div_lt_iff_lt_mul (by decide)]
        rw [Nat.pow_succ] at hn
        calc n < 128 ^ left * 128 * (last.toNat + 1) := hn
          _ = 128 ^ left * (last.toNat + 1) * 128 := Nat.mul_right_comm ..
      rw [List.cons_append, readGroups, if_neg, ih _ _ hhigh]
      · simp only [bind, Except.bind, pure, Except.pure, hbyte]
        rw [show n % 128 + 128 - 128 + 128 * (n / 128) = n by omega]
      · rw [UInt8.lt_iff_toNat_lt, hbyte]
        show ¬n % 128 + 128 < 128
        omega

/-- A number of the width is read back. -/
theorem read_write {w : Width} (hcount : 0 < w.count) (hlast : w.last.toNat < 128) {n : Nat}
    (hn : n < w.bound) (rest : Bytes) : read w (write n ++ rest) = .ok (n, rest) := by
  have := readGroups_write hlast (w.count - 1) n rest hn
  rwa [Nat.sub_add_cancel hcount] at this

theorem read_write_word32 {n : Nat} (hn : n < 2 ^ 32) (rest : Bytes) :
    read word32 (write n ++ rest) = .ok (n, rest) :=
  read_write (by decide) (by decide) (by exact hn) rest

theorem read_write_word64 {n : Nat} (hn : n < 2 ^ 64) (rest : Bytes) :
    read word64 (write n ++ rest) = .ok (n, rest) :=
  read_write (by decide) (by decide) (by exact hn) rest

theorem length_write_le (k : Nat) : ∀ n < 128 ^ (k + 1), (write n).length ≤ k + 1 := by
  induction k with
  | zero =>
    intro n hn
    rw [write, if_pos (show n < 128 from hn)]
    exact Nat.le_refl 1
  | succ k ih =>
    intro n hn
    rw [write]
    split
    · exact Nat.le_add_left 1 _
    · rw [Nat.pow_succ] at hn
      exact Nat.succ_le_succ (ih (n / 128) (Nat.div_lt_of_lt_mul (by rwa [Nat.mul_comm])))

end RemoteUsb.Wire.Varint
