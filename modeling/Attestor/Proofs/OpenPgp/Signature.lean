import Attestor.Proofs.OpenPgp.Packets

namespace Attestor

open Hash

theorem Hash.length_words {α : Type} (count : Nat) (number : α → Nat) (words : List α) :
    (words.flatMap fun word => bigEndian count (number word)).length = words.length * count := by
  rw [List.length_flatMap]
  simp [List.map_const']

theorem Ed25519.length_littleEndian (count n : Nat) :
    (Ed25519.littleEndian count n).length = count := by
  induction count generalizing n with
  | zero => rfl
  | succ count ih => rw [Ed25519.littleEndian, List.length_cons, ih]

theorem Ed25519.length_sign (seed message : List UInt8) :
    (Ed25519.sign seed message).length = 64 := by
  simp only [Ed25519.sign, Ed25519.Point.encode, List.length_append, Ed25519.length_littleEndian]

namespace OpenPgp

open Octets

theorem HashAlgorithm.two_le_length_digest (hash : HashAlgorithm) (message : List UInt8) :
    2 ≤ (hash.digest message).length := by
  cases hash <;>
    simp only [HashAlgorithm.digest, Sha256.digest224, Sha256.digest256, Sha256.bytes,
      Sha512.digest384, Sha512.digest512, Sha512.bytes, List.length_take, length_words,
      List.length_cons, List.length_nil] <;>
    omega

theorem HashAlgorithm.ofCode_code (hash : HashAlgorithm) : ofCode? hash.code = some hash := by
  cases hash <;> rfl

theorem Version.ofNumber_number (version : Version) : ofNumber? version.number = some version := by
  cases version <;> rfl

namespace SignatureHead

structure States (head : SignatureHead) (facts : List Subpacket) : Prop where
  kind : head.kind < 256
  algorithm : head.algorithm = edwardsAlgorithm ∨ head.algorithm = plainEdwardsAlgorithm
  hash : head.hash < 256
  area : head.hashedArea = facts.flatMap Subpacket.write
  fit : ∀ fact ∈ facts, fact.Fits
  short : head.hashedArea.length < Nat.pow 256 2
  salt : Signature.salt? head.version head.hash head.saltBytes = some (head.salt, [])

def written (head : SignatureHead) (number : List UInt8) : List UInt8 :=
  if head.algorithm = edwardsAlgorithm then Integer.trim number else number

def signature (head : SignatureHead) (facts : List Subpacket) (numbers : List UInt8) : Signature :=
  { head with
    hashed := facts
    unhashed := []
    r := head.written (numbers.take 32)
    s := head.written (numbers.drop 32) }

theorem padded_written (head : SignatureHead) (number : List UInt8) :
    Integer.padded? number.length (head.written number) = some number := by
  rw [written]
  split
  · exact Integer.padded_trim number
  · rw [Integer.padded?, if_pos (Nat.le_refl _), Nat.sub_self, List.replicate_zero, List.nil_append]

end SignatureHead

namespace Signature

theorem area_write (version : Version) {area : List UInt8} (rest : List UInt8)
    (short : area.length < Nat.pow 256 2) :
    area? version (bigEndian version.areaSize area.length ++ (area ++ rest)) = some (area, rest) := by
  have fits : area.length < Nat.pow 256 version.areaSize := by
    cases version with
    | four => exact short
    | six => exact Nat.lt_trans short (by decide)
  simp only [area?, number_bigEndian _ fits, split_append, Option.bind_eq_bind, Option.bind_some]

theorem salt_more {version : Version} {hash : Nat} {bytes salt rest : List UInt8}
    (read : salt? version hash bytes = some (salt, rest)) (more : List UInt8) :
    salt? version hash (bytes ++ more) = some (salt, rest ++ more) := by
  cases version with
  | four =>
    cases read
    rfl
  | six =>
    obtain ⟨algorithm, known, later⟩ := Option.bind_eq_some_iff.mp read
    obtain ⟨⟨size, left⟩, sized, last⟩ := Option.bind_eq_some_iff.mp later
    dsimp only at last
    split at last
    · rename_i same
      simp only [salt?, known, number_more sized more, split_more last more, if_pos same,
        Option.bind_eq_bind, Option.bind_some]
    · cases last

theorem numbers_write {head : SignatureHead} {numbers : List UInt8}
    (algorithm : head.algorithm = edwardsAlgorithm ∨ head.algorithm = plainEdwardsAlgorithm)
    (size : numbers.length = 64) :
    numbers? head.algorithm (head.numberBytes numbers) =
      some (head.written (numbers.take 32), head.written (numbers.drop 32)) := by
  have first : (numbers.take 32).length = 32 := by
    rw [List.length_take, size]
    rfl
  have second : (numbers.drop 32).length = 32 := by
    rw [List.length_drop, size]
  rcases algorithm with curve | curve
  · have left := Integer.read_write (Integer.write (numbers.drop 32))
      (by rw [first]; decide : (numbers.take 32).length < 8192)
    have right := Integer.read_write [] (by rw [second]; decide : (numbers.drop 32).length < 8192)
    rw [List.append_nil] at right
    simp only [numbers?, SignatureHead.numberBytes, SignatureHead.written, curve, if_true, left, right,
      Option.bind_eq_bind, Option.bind_some, Option.pure_def]
  · have other : plainEdwardsAlgorithm ≠ edwardsAlgorithm := by decide
    have left := split_append (numbers.take 32) (numbers.drop 32)
    have right := split_append (numbers.drop 32) []
    rw [first, List.take_append_drop] at left
    rw [second, List.append_nil] at right
    simp only [numbers?, SignatureHead.numberBytes, SignatureHead.written, curve, if_neg other, if_true,
      left, right, Option.bind_eq_bind, Option.bind_some, Option.pure_def]

theorem read_sign {head : SignatureHead} {facts : List Subpacket} (states : head.States facts)
    (hash : HashAlgorithm) (seed data : List UInt8) :
    read? (head.sign hash seed data) =
      some (head.signature facts (Ed25519.sign seed (hash.digest (head.covered data)))) := by
  have enough := hash.two_le_length_digest (head.covered data)
  simp only [SignatureHead.sign]
  generalize hash.digest (head.covered data) = digest at enough ⊢
  have numbers := numbers_write states.algorithm (Ed25519.length_sign seed digest)
  generalize Ed25519.sign seed digest = signed at numbers ⊢
  obtain ⟨version, kind, algorithm, code, area, salt⟩ := head
  obtain ⟨small, curve, named, stated, fit, short, salted⟩ := states
  simp only at small curve named stated short salted numbers
  have curveByte : algorithm < 256 := by
    rcases curve with rfl | rfl
    · decide
    · decide
  have versionByte : version.number < 256 := by
    cases version <;> decide
  have said : Subpacket.readAll? area = some facts := by
    rw [stated, Subpacket.readAll_write fit]
  have nothing : Subpacket.readAll? [] = some [] := rfl
  have empty (rest : List UInt8) :
      area? version (bigEndian version.areaSize 0 ++ rest) = some ([], rest) := by
    have short : ([] : List UInt8).length < Nat.pow 256 2 := by decide
    have written := area_write version rest short
    exact written
  have start (rest : List UInt8) : split? 2 (digest.take 2 ++ rest) = some (digest.take 2, rest) := by
    have two : (digest.take 2).length = 2 := by
      rw [List.length_take]
      omega
    have split := split_append (digest.take 2) rest
    rwa [two] at split
  simp only [read?, SignatureHead.bytes, List.append_assoc, List.cons_append, List.nil_append,
    number_byte _ versionByte, Version.ofNumber_number, number_byte _ small, number_byte _ curveByte,
    number_byte _ named, area_write version _ short, said, empty, nothing, start,
    salt_more salted, numbers, Option.bind_eq_bind, Option.bind_some, Option.pure_def]
  rfl

theorem holds_signature {head : SignatureHead} {facts : List Subpacket} {hash : HashAlgorithm}
    {numbers data point : List UInt8} {key : PublicKey} (version : head.version = key.version)
    (algorithm : head.algorithm = key.algorithm) (named : head.hash = hash.code)
    (size : numbers.length = 64) (found : key.point? = some point)
    (later : (head.signature facts numbers).created?.any (key.created ≤ ·) = true) :
    (head.signature facts numbers).holds key data =
      Ed25519.verify point (hash.digest (head.covered data)) numbers := by
  have digest : (head.signature facts numbers).toSignatureHead.digest? data =
      some (hash.digest (head.covered data)) := by
    simp only [SignatureHead.signature, SignatureHead.digest?, named, HashAlgorithm.ofCode_code,
      Option.map_some]
  have first : Integer.padded? 32 (head.signature facts numbers).r = some (numbers.take 32) := by
    have padded := head.padded_written (numbers.take 32)
    rwa [List.length_take, size] at padded
  have second : Integer.padded? 32 (head.signature facts numbers).s = some (numbers.drop 32) := by
    have padded := head.padded_written (numbers.drop 32)
    rwa [List.length_drop, size] at padded
  have sameVersion : ((head.signature facts numbers).version == key.version) = true :=
    beq_iff_eq.mpr version
  have sameAlgorithm : ((head.signature facts numbers).algorithm == key.algorithm) = true :=
    beq_iff_eq.mpr algorithm
  simp only [holds, sameVersion, sameAlgorithm, later, found, digest, first, second,
    List.take_append_drop, Bool.true_and]

end Signature

end OpenPgp

end Attestor
