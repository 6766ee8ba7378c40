import Attestor.Proofs.Signing

namespace Attestor.OpenPgp

/-- A signature packet, with any header that the formats of packets allow. -/
structure SignaturePacket where
  bytes : List UInt8
  packet : Packet
  read : Packet.read? bytes = some (packet, [])
  tagged : packet.tag = Packet.signatureTag

def Certificate.publicKeys (certificate : Certificate) : List PublicKey :=
  certificate.primary.subject.publicPart ::
    certificate.subkeys.map fun subkey => subkey.subject.publicPart

theorem Certificate.mem_publicKeys {certificate : Certificate} {time : Nat} {status : KeyStatus}
    (member : status ∈ certificate.keysAt time) :
    status.key.publicPart ∈ certificate.publicKeys := by
  rw [publicKeys, List.mem_cons, List.mem_map]
  rcases mem_keysAt member with own | ⟨subkey, bound, own⟩
  · exact .inl (congrArg Key.publicPart own)
  · exact .inr ⟨subkey, bound, congrArg Key.publicPart own.symm⟩

namespace SignaturePacket

def ofBody (body : List UInt8) (short : body.length < Nat.pow 256 4) : SignaturePacket where
  packet := { tag := Packet.signatureTag, body }
  bytes := Packet.write { tag := Packet.signatureTag, body }
  read := by
    have fits : Packet.Fits { tag := Packet.signatureTag, body } :=
      ⟨(by decide : Packet.signatureTag < 64), short⟩
    simpa using Packet.read_write [] fits
  tagged := rfl

def signature? (part : SignaturePacket) : Option Signature :=
  Signature.read? part.packet.body

def joined (parts : List SignaturePacket) : List UInt8 :=
  parts.flatMap (·.bytes)

theorem readAll_joined (parts : List SignaturePacket) :
    Packet.readAll? (joined parts) = some (parts.map (·.packet)) := by
  have each : ∀ part ∈ parts.map (fun part => (part.bytes, part.packet)),
      Packet.read? part.1 = some (part.2, []) := by
    intro entry member
    obtain ⟨part, _, rfl⟩ := List.mem_map.mp member
    exact part.read
  simpa [joined, List.flatMap_map, Function.comp_def] using Packet.readAll_flatMap each

theorem signatures_packets (parts : List SignaturePacket) :
    Detached.signatures? (parts.map (·.packet)) = some (parts.filterMap signature?) := by
  have signatures : ∀ packet ∈ parts.map (·.packet), packet.tag = Packet.signatureTag := by
    intro packet member
    obtain ⟨part, _, rfl⟩ := List.mem_map.mp member
    exact part.tagged
  have kept : (parts.map (·.packet)).filter (·.tag = Packet.signatureTag) =
      parts.map (·.packet) :=
    List.filter_eq_self.mpr fun packet member => decide_eq_true (signatures packet member)
  have allowed : (parts.map (·.packet)).all (fun packet =>
      packet.tag = Packet.signatureTag ∨ packet.tag = Packet.markerTag) = true :=
    List.all_eq_true.mpr fun packet member => decide_eq_true (.inl (signatures packet member))
  rw [Detached.signatures?, if_pos allowed, kept, List.filterMap_map]
  rfl

/-- No key of the certificate made the signature over the body: it is by another key, or over
another body. -/
def Foreign (certificate : Certificate) (body : List UInt8) (part : SignaturePacket) : Prop :=
  ∀ signature data, part.signature? = some signature →
    Detached.data? signature.kind body = some data →
    ∀ key ∈ certificate.publicKeys, signature.holds key data = false

end SignaturePacket

namespace Detached

variable {certificate : Certificate} {now : Nat} {body : List UInt8}

/-- A good signature was made over the body by a key of the certificate. -/
theorem isGood_holds {signature : Signature}
    (good : isGood certificate now body signature = true) :
    ∃ data, data? signature.kind body = some data ∧
      ∃ key ∈ certificate.publicKeys, signature.holds key data = true := by
  rw [isGood] at good
  split at good
  · rename_i time data _ stated
    obtain ⟨_, byKey⟩ := Bool.and_eq_true_iff.mp good
    obtain ⟨status, member, made⟩ := List.any_eq_true.mp byKey
    obtain ⟨_, holds⟩ := Bool.and_eq_true_iff.mp made
    exact ⟨data, stated, _, Certificate.mem_publicKeys member, holds⟩
  · cases good

variable {parts : List SignaturePacket} {block : List UInt8}

/-- A block is accepted if one of its signatures is good. -/
theorem verify_joined (armored : Packet.Armored block (SignaturePacket.joined parts)) :
    verify certificate now body block = true ↔ ∃ part ∈ parts, ∃ signature,
      part.signature? = some signature ∧ isGood certificate now body signature = true := by
  simp only [verify, Packet.ofBlock_armored armored, SignaturePacket.readAll_joined,
    Option.bind_some, SignaturePacket.signatures_packets, List.any_eq_true, List.mem_filterMap]
  constructor
  · intro given
    obtain ⟨signature, ⟨part, member, read⟩, good⟩ := given
    exact ⟨part, member, signature, read, good⟩
  · intro given
    obtain ⟨part, member, signature, read, good⟩ := given
    exact ⟨signature, ⟨part, member, read⟩, good⟩

/-- A block is accepted if one of its packets is accepted in armor of its own. More packets, among
the others in any order, never make it refused, and foreign ones change nothing. -/
theorem verify_block {alone : SignaturePacket → List UInt8}
    (armored : Packet.Armored block (SignaturePacket.joined parts))
    (each : ∀ part ∈ parts, Packet.Armored (alone part) part.bytes) :
    (verify certificate now body block = true ↔
      ∃ part ∈ parts, verify certificate now body (alone part) = true) ∧
    ∀ others all wider, List.Perm all (parts ++ others) →
      Packet.Armored wider (SignaturePacket.joined all) →
      (verify certificate now body block = true → verify certificate now body wider = true) ∧
      ((∀ part ∈ others, part.Foreign certificate body) →
        verify certificate now body wider = verify certificate now body block) := by
  have single : ∀ part ∈ parts, (verify certificate now body (alone part) = true ↔
      ∃ signature, part.signature? = some signature ∧
        isGood certificate now body signature = true) := by
    intro part member
    have own : Packet.Armored (alone part) (SignaturePacket.joined [part]) := by
      simpa [SignaturePacket.joined] using each part member
    rw [verify_joined own]
    simp only [List.mem_singleton, exists_eq_left]
  refine ⟨?_, fun others all wider same held => ?_⟩
  · rw [verify_joined armored]
    exact exists_congr fun part => and_congr_right fun member => (single part member).symm
  · have more : verify certificate now body block = true →
        verify certificate now body wider = true := by
      rw [verify_joined armored, verify_joined held]
      intro given
      obtain ⟨part, member, good⟩ := given
      exact ⟨part, same.mem_iff.mpr (List.mem_append_left _ member), good⟩
    refine ⟨more, fun foreign => ?_⟩
    rw [Bool.eq_iff_iff]
    refine ⟨?_, more⟩
    rw [verify_joined armored, verify_joined held]
    intro given
    obtain ⟨part, member, signature, read, good⟩ := given
    rcases List.mem_append.mp (same.mem_iff.mp member) with own | added
    · exact ⟨part, own, signature, read, good⟩
    · obtain ⟨data, stated, key, listed, holds⟩ := isGood_holds good
      rw [foreign part added signature data read stated key listed] at holds
      cases holds

end Detached

namespace SignaturePacket

def signed (key : PublicKey) (seed : List UInt8) (now : Nat) (body : List UInt8) : SignaturePacket :=
  ofBody ((Detached.head key now).sign .sha512 seed body) (Detached.packet_fits key seed now body).body

variable {key : PublicKey} {seed : List UInt8} {now : Nat} {body : List UInt8}

theorem signature_signed :
    (signed key seed now body).signature? = some (Detached.signature key seed now body) :=
  Signature.read_sign (Detached.head_states key now) .sha512 seed body

theorem foreign_signed {certificate : Certificate} {other : List UInt8}
    (apart : ∀ own ∈ certificate.publicKeys,
      (Detached.signature key seed now body).holds own other = false) :
    (signed key seed now body).Foreign certificate other := by
  intro signature data read stated own listed
  obtain rfl := Option.some.inj (signature_signed.symm.trans read)
  have plain : Detached.data? (Detached.signature key seed now body).kind other = some other := rfl
  obtain rfl := Option.some.inj (plain.symm.trans stated)
  exact apart own listed

end SignaturePacket

namespace Detached

/-- Signatures by a stranger and over another body do not come between a genuine one and its
acceptance, and are not accepted in place of it. -/
theorem verify_block_mixed :
    let seed : List UInt8 := List.replicate 32 7
    let stranger : List UInt8 := List.replicate 32 8
    let certificate := (Signer.ofSeed seed).publicCertificate
    let body := Text.encode "body"
    let block (parts : List SignaturePacket) : List UInt8 :=
      Text.encode (Armor.write .signature (SignaturePacket.joined parts))
    let foreign := [SignaturePacket.signed (Signer.keyOfSeed stranger) stranger 5 body,
      SignaturePacket.signed (Signer.keyOfSeed seed) seed 5 (Text.encode "other")]
    (∀ part ∈ foreign, part.Foreign certificate body ∧ part.signature?.isSome = true) ∧
      verify certificate 5 body (block foreign) = false ∧
      ∃ genuine, verify certificate 5 body (block [genuine]) = true ∧
        verify certificate 5 body (block (foreign ++ [genuine])) = true := by
  intro seed stranger certificate body block foreign
  have state :
      let signer := Signer.ofSeed (List.replicate 32 7)
      (Signer.seedAt? signer.certificate 5).isSome = true ∧
        signer.isGenuine 5 (Text.encode "body") = true ∧
        signer.certificate.isRevoked 5 = false := by
    decide +kernel
  obtain ⟨found, good, live⟩ := state
  obtain ⟨⟨key, secret⟩, chosen⟩ := Option.isSome_iff_exists.mp found
  have armored (parts : List SignaturePacket) :
      Packet.Armored (block parts) (SignaturePacket.joined parts) :=
    Packet.armored_write .signature _
  have each (parts : List SignaturePacket) :
      ∀ part ∈ parts, Packet.Armored (block [part]) part.bytes := by
    intro part _
    simpa [SignaturePacket.joined] using armored [part]
  have byStranger : ∀ own ∈ certificate.publicKeys,
      (signature (Signer.keyOfSeed stranger) stranger 5 body).holds own body = false := by
    decide +kernel
  have overOther : ∀ own ∈ certificate.publicKeys,
      (signature (Signer.keyOfSeed seed) seed 5 (Text.encode "other")).holds own body = false := by
    decide +kernel
  have strange : ∀ part ∈ foreign,
      part.Foreign certificate body ∧ part.signature?.isSome = true := by
    intro part member
    simp only [foreign, List.mem_cons, List.not_mem_nil, or_false] at member
    rcases member with rfl | rfl
    · exact ⟨SignaturePacket.foreign_signed byStranger,
        Option.isSome_of_eq_some SignaturePacket.signature_signed⟩
    · exact ⟨SignaturePacket.foreign_signed overOther,
        Option.isSome_of_eq_some SignaturePacket.signature_signed⟩
  let genuine := SignaturePacket.signed key secret 5 body
  have text : block [genuine] = Text.encode (sign key secret 5 body) := by
    have bytes : SignaturePacket.joined [genuine] = genuine.bytes := List.append_nil _
    exact congrArg (fun bytes => Text.encode (Armor.write .signature bytes)) bytes
  have accepted : verify certificate 5 body (block [genuine]) = true := by
    rw [text]
    exact (Signer.verify_sign_seedAt chosen (by decide) good).trans (congrArg Bool.not live)
  have nothing : verify certificate 5 body (block []) = false := by
    refine Bool.eq_false_iff.mpr fun given => ?_
    obtain ⟨part, member, _⟩ := (verify_joined (armored [])).mp given
    cases member
  have refused : verify certificate 5 body (block foreign) =
      verify certificate 5 body (block []) :=
    ((verify_block (armored []) (each [])).2 foreign foreign _ (.refl _) (armored foreign)).2
      fun part member => (strange part member).1
  have kept : verify certificate 5 body (block (foreign ++ [genuine])) = true :=
    ((verify_block (armored [genuine]) (each [genuine])).2 foreign (foreign ++ [genuine]) _
      List.perm_append_comm (armored (foreign ++ [genuine]))).1 accepted
  exact ⟨strange, refused.trans nothing, genuine, accepted, kept⟩

end Detached

end Attestor.OpenPgp
