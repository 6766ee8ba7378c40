import Attestor.OpenPgp.Signature
import Attestor.Proofs.OpenPgp.Integer

namespace Attestor.OpenPgp

open Hash Octets

namespace Subpacket

structure Fits (subpacket : Subpacket) : Prop where
  kind : subpacket.kind < 128
  content : subpacket.content.length < 191

theorem length_short {n : Nat} (rest : List UInt8) (short : n < 192) :
    length? (UInt8.ofNat n :: rest) = some (n, rest) := by
  have byte : (UInt8.ofNat n).toNat = n := by simp; omega
  simp only [length?, byte, if_pos short]

theorem readAllWithin_write {steps : Nat} {subpackets : List Subpacket}
    (fit : ∀ subpacket ∈ subpackets, subpacket.Fits)
    (enough : (subpackets.flatMap write).length ≤ steps) :
    readAllWithin steps (subpackets.flatMap write) = some subpackets := by
  induction subpackets generalizing steps with
  | nil => simp [readAllWithin]
  | cons subpacket rest ih =>
    obtain ⟨critical, kind, content⟩ := subpacket
    have fits := fit _ (List.mem_cons_self ..)
    have first : kind < 128 := fits.kind
    have short : content.length + 1 < 192 := Nat.succ_lt_succ fits.content
    have others := fun subpacket member => fit subpacket (List.mem_cons_of_mem _ member)
    simp only [List.flatMap_cons, List.length_append] at enough ⊢
    cases steps with
    | zero => simp [write] at enough
    | succ steps =>
      have left : (rest.flatMap write).length ≤ steps := by
        simp only [write, List.length_cons] at enough
        omega
      have byte : (UInt8.ofNat (kind + if critical then 128 else 0)).toNat =
          kind + if critical then 128 else 0 := by
        cases critical <;> simp <;> omega
      have split := split_append
        (UInt8.ofNat (kind + if critical then 128 else 0) :: content) (rest.flatMap write)
      simp only [List.length_cons, List.cons_append] at split
      simp only [write, readAllWithin, List.cons_append, length_short _ short, split,
        ih others left, Option.bind_eq_bind, Option.bind_some, byte]
      cases critical with
      | true => simp [Nat.mod_eq_of_lt first]
      | false => simp [Nat.mod_eq_of_lt first, Nat.not_le.mpr first]

theorem readAll_write {subpackets : List Subpacket} (fit : ∀ subpacket ∈ subpackets, subpacket.Fits) :
    readAll? (subpackets.flatMap write) = some subpackets :=
  readAllWithin_write fit (Nat.le_refl _)

end Subpacket

namespace Packet

structure Fits (packet : Packet) : Prop where
  tag : packet.tag < 64
  body : packet.body.length < Nat.pow 256 4

theorem newLength_lengthBytes {length : Nat} (rest : List UInt8) (small : length < Nat.pow 256 4) :
    newLength? (lengthBytes length ++ rest) = some (length, rest) := by
  unfold lengthBytes
  split
  · rename_i short
    have byte : (UInt8.ofNat length).toNat = length := by simp; omega
    simp only [List.singleton_append, newLength?, byte, if_pos short]
  · split
    · rename_i middle
      have high : (UInt8.ofNat ((length - 192 + 192 * 256) / 256)).toNat =
          (length - 192) / 256 + 192 := by
        simp
        omega
      have low : (UInt8.ofNat (length - 192 + 192 * 256)).toNat = (length - 192) % 256 := by
        simp
      have bytes : bigEndian 2 (length - 192 + 192 * 256) =
          [UInt8.ofNat ((length - 192 + 192 * 256) / 256),
            UInt8.ofNat (length - 192 + 192 * 256)] := by
        simp only [bigEndian_succ, Nat.pow_eq, Nat.reducePow, Nat.div_one]
        rfl
      simp only [bytes, List.cons_append, List.nil_append, newLength?, high, low]
      rw [if_neg (by omega), if_pos (by omega)]
      congr 2
      omega
    · simp only [List.cons_append, newLength?]
      exact number_bigEndian rest small

theorem read_write {packet : Packet} (rest : List UInt8) (fits : packet.Fits) :
    read? (packet.write ++ rest) = some (packet, rest) := by
  obtain ⟨tag, body⟩ := packet
  have small : tag < 64 := fits.tag
  have byte : (UInt8.ofNat (192 + tag)).toNat = 192 + tag := by simp; omega
  have length := newLength_lengthBytes (body ++ rest) fits.body
  have header : header? (UInt8.ofNat (192 + tag) :: (lengthBytes body.length ++ (body ++ rest))) =
      some (tag, body.length, body ++ rest) := by
    simp only [header?, byte, length, Option.map_some]
    rw [if_neg (by omega), if_pos (by omega), Nat.add_sub_cancel_left]
  simp only [read?, write, List.cons_append, List.append_assoc, header, split_append,
    Option.bind_eq_bind, Option.bind_some]
  rfl

section

variable {bytes rest : List UInt8}

theorem newLength_more {length : Nat} (read : newLength? bytes = some (length, rest))
    (more : List UInt8) : newLength? (bytes ++ more) = some (length, rest ++ more) := by
  cases bytes with
  | nil => cases read
  | cons first bytes =>
    rw [List.cons_append]
    simp only [newLength?] at read ⊢
    split at read
    · rename_i short
      cases read
      rw [if_pos short]
    · rename_i short
      rw [if_neg short]
      split at read
      · rename_i middle
        rw [if_pos middle]
        cases bytes with
        | nil => cases read
        | cons second bytes =>
          cases read
          rfl
      · rename_i middle
        rw [if_neg middle]
        split at read
        · rename_i long
          rw [if_pos long]
          exact number_more read more
        · cases read

theorem oldLength_more {kind length : Nat} (read : oldLength? kind bytes = some (length, rest))
    (more : List UInt8) : oldLength? kind (bytes ++ more) = some (length, rest ++ more) := by
  match kind, read with
  | 0, read | 1, read | 2, read => exact number_more read more

theorem header_more {tag length : Nat} (read : header? bytes = some (tag, length, rest))
    (more : List UInt8) : header? (bytes ++ more) = some (tag, length, rest ++ more) := by
  cases bytes with
  | nil => cases read
  | cons first bytes =>
    rw [List.cons_append]
    simp only [header?] at read ⊢
    split at read
    · cases read
    · rename_i marked
      rw [if_neg marked]
      split at read
      · rename_i new
        rw [if_pos new]
        obtain ⟨⟨_, _⟩, found, made⟩ := Option.map_eq_some_iff.mp read
        obtain ⟨number, rfl, rfl⟩ : first.toNat - 192 = tag ∧ _ ∧ _ := by
          simpa only [Prod.mk.injEq] using made
        rw [newLength_more found more, Option.map_some, number]
      · rename_i old
        rw [if_neg old]
        obtain ⟨⟨_, _⟩, found, made⟩ := Option.map_eq_some_iff.mp read
        obtain ⟨number, rfl, rfl⟩ : (first.toNat - 128) / 4 = tag ∧ _ ∧ _ := by
          simpa only [Prod.mk.injEq] using made
        rw [oldLength_more found more, Option.map_some, number]

theorem read_more {packet : Packet} (read : read? bytes = some (packet, rest))
    (more : List UInt8) : read? (bytes ++ more) = some (packet, rest ++ more) := by
  obtain ⟨⟨tag, length, left⟩, header, later⟩ := Option.bind_eq_some_iff.mp read
  obtain ⟨⟨body, _⟩, split, made⟩ := Option.bind_eq_some_iff.mp later
  cases made
  simp only [read?, header_more header more, split_more split more, Option.bind_eq_bind,
    Option.bind_some, Option.pure_def]

end

/-- Packets one after the other are read as they are read on their own. -/
theorem readAllWithin_flatMap {steps : Nat} {parts : List (List UInt8 × Packet)}
    (each : ∀ part ∈ parts, read? part.1 = some (part.2, [])) (enough : parts.length ≤ steps) :
    readAllWithin steps (parts.flatMap (·.1)) = some (parts.map (·.2)) := by
  induction parts generalizing steps with
  | nil => cases steps <;> rfl
  | cons part parts ih =>
    obtain ⟨read, others⟩ := List.forall_mem_cons.mp each
    obtain ⟨bytes, packet⟩ := part
    cases steps with
    | zero => cases enough
    | succ steps =>
      cases bytes with
      | nil => cases read
      | cons first bytes =>
        have later := ih others (Nat.le_of_succ_le_succ enough)
        have more := read_more read (parts.flatMap (·.1))
        simp only [List.flatMap_cons, List.cons_append, List.nil_append] at more ⊢
        simp only [readAllWithin, more, later, Option.bind_eq_bind, Option.bind_some,
          Option.pure_def, List.map_cons]

theorem readAll_flatMap {parts : List (List UInt8 × Packet)}
    (each : ∀ part ∈ parts, read? part.1 = some (part.2, [])) :
    readAll? (parts.flatMap (·.1)) = some (parts.map (·.2)) := by
  refine readAllWithin_flatMap each ?_
  induction parts with
  | nil => exact Nat.le_refl 0
  | cons part parts ih =>
    obtain ⟨read, others⟩ := List.forall_mem_cons.mp each
    obtain ⟨_ | ⟨first, bytes⟩, packet⟩ := part
    · cases read
    · have shorter := ih others
      simp only [List.flatMap_cons, List.length_append, List.length_cons]
      omega

theorem readAll_write {packet : Packet} (fits : packet.Fits) :
    readAll? packet.write = some [packet] := by
  have read := read_write [] fits
  have alone : readAll? ([(packet.write, packet)].flatMap (·.1)) = some [packet] :=
    readAll_flatMap (by simpa using read)
  simpa using alone

end Packet

end Attestor.OpenPgp
