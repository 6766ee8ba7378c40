import Attestor.OpenPgp.Validity

namespace Attestor.OpenPgp.Certificate

def isRevoked (certificate : Certificate) (time : Nat) : Bool :=
  (certificate.primaryBindingAt? time).any fun binding => certificate.revokedAt binding time

/-- Whether a key counts as one of the certificate at a time: it can sign for the certificate, which is
not revoked. -/
def trusts (certificate : Certificate) (key : PublicKey) (time : Nat) : Bool :=
  !certificate.isRevoked time &&
    (certificate.keysAt time).any fun status => status.usable && status.key.publicPart == key

namespace KeyStatus

def stripped (status : KeyStatus) : KeyStatus :=
  { status with key := status.key.stripped }

structure MaySign (status : KeyStatus) : Prop where
  supported : ∃ point, status.key.publicPart.point? = some point
  alive : status.alive = true
  unrevoked : status.revoked = false
  flagged : status.forSigning = true

theorem usable_iff {status : KeyStatus} : status.usable = true ↔ status.MaySign := by
  simp only [usable, Bool.and_eq_true, Bool.not_eq_true', Option.isSome_iff_exists]
  constructor
  · rintro ⟨⟨⟨flagged, alive⟩, unrevoked⟩, supported⟩
    exact ⟨supported, alive, unrevoked, flagged⟩
  · rintro ⟨supported, alive, unrevoked, flagged⟩
    exact ⟨⟨⟨flagged, alive⟩, unrevoked⟩, supported⟩

end KeyStatus

theorem primaryBindingAt_stripped (certificate : Certificate) (time : Nat) :
    certificate.stripped.primaryBindingAt? time = certificate.primaryBindingAt? time := rfl

theorem primaryAliveAt_stripped (certificate : Certificate) (time : Nat) :
    certificate.stripped.primaryAliveAt time = certificate.primaryAliveAt time := rfl

theorem revokedAt_stripped (certificate : Certificate) (binding : Signature) (time : Nat) :
    certificate.stripped.revokedAt binding time = certificate.revokedAt binding time := rfl

theorem subkeyStatus_stripped (certificate : Certificate) (time : Nat) (subkey : Bound Key) :
    certificate.stripped.subkeyStatus? time { subkey with subject := subkey.subject.stripped } =
      (certificate.subkeyStatus? time subkey).map KeyStatus.stripped := by
  have binding : ({ subkey with subject := subkey.subject.stripped } : Bound Key).bindingAt? time =
      subkey.bindingAt? time := rfl
  rw [subkeyStatus?, subkeyStatus?, binding, Option.map_map]
  rfl

theorem keysAt_stripped (certificate : Certificate) (time : Nat) :
    certificate.stripped.keysAt time = (certificate.keysAt time).map KeyStatus.stripped := by
  rw [keysAt, keysAt, primaryBindingAt_stripped]
  cases certificate.primaryBindingAt? time with
  | none => rfl
  | some binding =>
    have subkeys : certificate.stripped.subkeys = certificate.subkeys.map fun subkey =>
      { subkey with subject := subkey.subject.stripped } := rfl
    simp only [List.map_cons, subkeys, List.filterMap_map, List.map_filterMap]
    congr 2
    funext subkey
    exact subkeyStatus_stripped certificate time subkey

theorem mem_keysAt {certificate : Certificate} {time : Nat} {status : KeyStatus}
    (member : status ∈ certificate.keysAt time) :
    status.key = certificate.primary.subject ∨
      ∃ subkey ∈ certificate.subkeys, status.key = subkey.subject := by
  rw [keysAt] at member
  split at member
  · cases member
  · rcases List.mem_cons.mp member with rfl | later
    · exact .inl rfl
    · obtain ⟨subkey, bound, stated⟩ := List.mem_filterMap.mp later
      obtain ⟨_, _, rfl⟩ := Option.map_eq_some_iff.mp stated
      exact .inr ⟨subkey, bound, rfl⟩

theorem signingKeyAt_spec {certificate : Certificate} {time : Nat} {key : Key}
    (found : certificate.signingKeyAt? time = some key) :
    ∃ status ∈ certificate.keysAt time, status.usable = true ∧ status.key = key := by
  obtain ⟨status, first, same⟩ := Option.map_eq_some_iff.mp found
  have usable := List.find?_some first
  rw [Bool.and_eq_true] at usable
  exact ⟨status, List.mem_of_find?_eq_some first, usable.1, same⟩

theorem alive_spec {certificate : Certificate} {time : Nat} {status : KeyStatus}
    (member : status ∈ certificate.keysAt time) (alive : status.alive = true) :
    (∃ binding, certificate.primaryBindingAt? time = some binding) ∧
      certificate.primaryAliveAt time = true ∧ status.key.publicPart.created ≤ time := by
  rw [keysAt] at member
  cases bound : certificate.primaryBindingAt? time with
  | none => simp [bound] at member
  | some binding =>
    rw [bound] at member
    refine ⟨⟨binding, rfl⟩, ?_⟩
    rcases List.mem_cons.mp member with rfl | member
    · have whole : certificate.primaryAliveAt time = true := alive
      have made := whole
      rw [primaryAliveAt, PublicKey.aliveAt, Bool.and_eq_true] at made
      exact ⟨whole, of_decide_eq_true made.1⟩
    · obtain ⟨subkey, _, stated⟩ := List.mem_filterMap.mp member
      obtain ⟨_, _, rfl⟩ := Option.map_eq_some_iff.mp stated
      obtain ⟨whole, own⟩ := Bool.and_eq_true_iff.mp alive
      rw [PublicKey.aliveAt, Bool.and_eq_true] at own
      exact ⟨whole, of_decide_eq_true own.1⟩

theorem trusts_iff {certificate : Certificate} {key : PublicKey} {time : Nat} :
    certificate.trusts key time = true ↔ certificate.isRevoked time = false ∧
      ∃ status ∈ certificate.keysAt time, status.usable = true ∧ status.key.publicPart = key := by
  simp only [trusts, Bool.and_eq_true, Bool.not_eq_true', List.any_eq_true, beq_iff_eq]

/-- A usable key of the certificate itself counts unless the certificate is revoked. -/
theorem trusts_own {certificate : Certificate} {time : Nat} {status : KeyStatus}
    (member : status ∈ certificate.keysAt time) (usable : status.usable = true) :
    certificate.trusts status.key.publicPart time = !certificate.isRevoked time := by
  have own : (certificate.keysAt time).any (fun other =>
      other.usable && other.key.publicPart == status.key.publicPart) = true := by
    refine List.any_eq_true.mpr ⟨status, member, ?_⟩
    rw [usable, beq_self_eq_true]
    rfl
  rw [trusts, own, Bool.and_true]

end Attestor.OpenPgp.Certificate
