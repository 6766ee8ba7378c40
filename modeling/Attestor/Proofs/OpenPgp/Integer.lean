import Attestor.OpenPgp.Integer
import Attestor.Proofs.Octets

namespace Attestor.OpenPgp.Integer

open Octets

theorem trim_cases (bytes : List UInt8) :
    trim bytes = [] ∨ ∃ first rest, trim bytes = first :: rest ∧ first ≠ 0 := by
  induction bytes with
  | nil => exact .inl rfl
  | cons byte bytes ih =>
    by_cases zero : byte = 0
    · simpa only [trim, if_pos zero] using ih
    · exact .inr ⟨byte, bytes, by rw [trim, if_neg zero], zero⟩

theorem trim_trim (bytes : List UInt8) : trim (trim bytes) = trim bytes := by
  rcases trim_cases bytes with none | ⟨first, rest, some, nonzero⟩
  · rw [none, trim]
  · rw [some, trim, if_neg nonzero]

theorem replicate_trim (bytes : List UInt8) :
    ∃ zeros, bytes.length = zeros + (trim bytes).length ∧
      List.replicate zeros 0 ++ trim bytes = bytes := by
  induction bytes with
  | nil => exact ⟨0, rfl, rfl⟩
  | cons byte bytes ih =>
    by_cases zero : byte = 0
    · obtain ⟨zeros, length, whole⟩ := ih
      refine ⟨zeros + 1, ?_, ?_⟩
      · simp only [trim, if_pos zero, List.length_cons, length]
        omega
      · rw [trim, if_pos zero, List.replicate_succ, List.cons_append, whole, zero]
    · exact ⟨0, by simp [trim, zero], by simp [trim, zero]⟩

theorem length_trim_le (bytes : List UInt8) : (trim bytes).length ≤ bytes.length := by
  obtain ⟨zeros, length, _⟩ := replicate_trim bytes
  omega

theorem bitLength_bytes (bytes : List UInt8) : (bitLength bytes + 7) / 8 = (trim bytes).length := by
  unfold bitLength
  rcases trim_cases bytes with none | ⟨first, rest, some, nonzero⟩
  · rw [none]
    rfl
  · have positive : first.toNat ≠ 0 := fun zero => nonzero (UInt8.toNat_inj.mp zero)
    have bits : first.toNat.log2 < 8 := (Nat.log2_lt positive).mpr first.toNat_lt
    rw [some, List.length_cons]
    dsimp only
    omega

theorem bitLength_trim (bytes : List UInt8) : bitLength (trim bytes) = bitLength bytes := by
  rw [bitLength, trim_trim]
  rfl

theorem read_write {bytes : List UInt8} (rest : List UInt8) (short : bytes.length < 8192) :
    read? (write bytes ++ rest) = some (trim bytes, rest) := by
  have size := bitLength_bytes bytes
  have shorter := length_trim_le bytes
  have small : bitLength bytes < Nat.pow 256 2 := by
    simp only [Nat.pow_eq]
    omega
  have split := split_append (trim bytes) rest
  rw [← size] at split
  simp only [read?, write, List.append_assoc, number_bigEndian _ small, split,
    Option.bind_eq_bind, Option.bind_some, bitLength_trim, if_true]
  rfl

theorem padded_trim (bytes : List UInt8) : padded? bytes.length (trim bytes) = some bytes := by
  obtain ⟨zeros, length, whole⟩ := replicate_trim bytes
  have missing : bytes.length - (trim bytes).length = zeros := by omega
  rw [padded?, if_pos (length_trim_le bytes), missing, whole]

end Attestor.OpenPgp.Integer
