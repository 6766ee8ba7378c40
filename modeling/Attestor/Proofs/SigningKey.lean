import Attestor.Proofs.Signing

namespace Attestor.OpenPgp.Certificate

namespace KeyStatus

structure CanSign (status : KeyStatus) : Prop extends status.MaySign where
  unlocked : ∃ number, status.key.secret = .plain number

structure IsLocked (status : KeyStatus) : Prop extends status.MaySign where
  locked : status.key.secret = .locked

def picked (status : KeyStatus) : Bool :=
  status.usable && status.key.secret != .absent

theorem picked_iff {status : KeyStatus} :
    status.picked = true ↔ status.CanSign ∨ status.IsLocked := by
  rw [picked, Bool.and_eq_true, usable_iff, bne_iff_ne]
  constructor
  · rintro ⟨maySign, present⟩
    cases secret : status.key.secret with
    | absent => exact absurd secret present
    | plain number => exact .inl ⟨maySign, number, secret⟩
    | locked => exact .inr ⟨maySign, secret⟩
  · rintro (⟨maySign, number, secret⟩ | ⟨maySign, secret⟩)
    · exact ⟨maySign, by simp [secret]⟩
    · exact ⟨maySign, by simp [secret]⟩

theorem seed_isSome_iff {status : KeyStatus} (picked : status.CanSign ∨ status.IsLocked) :
    status.key.seed?.isSome = true ↔ status.CanSign := by
  rcases picked with canSign | isLocked
  · obtain ⟨number, secret⟩ := canSign.unlocked
    simp [Key.seed?, secret, canSign]
  · have closed : ¬ status.CanSign := by
      rintro ⟨_, number, secret⟩
      cases isLocked.locked.symm.trans secret
    simp [Key.seed?, isLocked.locked, closed]

end KeyStatus

/-- Whether a key can sign at a time and no locked key stands before it. -/
def SignsAt (certificate : Certificate) (time : Nat) : Prop :=
  ∃ before status after, certificate.keysAt time = before ++ status :: after ∧ status.CanSign ∧
    ∀ other ∈ before, ¬ other.IsLocked

theorem signingKeyAt_eq (certificate : Certificate) (time : Nat) :
    certificate.signingKeyAt? time =
      ((certificate.keysAt time).find? KeyStatus.picked).map (·.key) := rfl

/-- The search stops at the first key with a secret. It need not be the key that is known to sign, but
with no locked key before that one it can sign as well. -/
theorem signsAt_iff {certificate : Certificate} {time : Nat} :
    certificate.SignsAt time ↔
      ∃ key, certificate.signingKeyAt? time = some key ∧ key.seed?.isSome = true := by
  simp only [signingKeyAt_eq, Option.map_eq_some_iff]
  constructor
  · rintro ⟨before, status, after, split, canSign, unlocked⟩
    have itself := KeyStatus.picked_iff.mpr (.inl canSign)
    rw [split, List.find?_append, List.find?_cons_of_pos itself]
    cases earlier : before.find? KeyStatus.picked with
    | none => exact ⟨_, ⟨status, rfl, rfl⟩, (KeyStatus.seed_isSome_iff (.inl canSign)).mpr canSign⟩
    | some first =>
      have picked := KeyStatus.picked_iff.mp (List.find?_some earlier)
      have firstSigns := picked.resolve_right (unlocked first (List.mem_of_find?_eq_some earlier))
      exact ⟨_, ⟨first, rfl, rfl⟩, (KeyStatus.seed_isSome_iff picked).mpr firstSigns⟩
  · rintro ⟨_, ⟨status, found, rfl⟩, seeded⟩
    obtain ⟨picked, before, after, split, passed⟩ := List.find?_eq_some_iff_append.mp found
    have canSign := (KeyStatus.seed_isSome_iff (KeyStatus.picked_iff.mp picked)).mp seeded
    refine ⟨before, status, after, split, canSign, ?_⟩
    intro other member isLocked
    have skipped := passed other member
    rw [KeyStatus.picked_iff.mpr (.inr isLocked)] at skipped
    cases skipped

theorem not_signsAt_iff {certificate : Certificate} {time : Nat} :
    ¬ certificate.SignsAt time ↔
      ∀ before status after, certificate.keysAt time = before ++ status :: after →
        status.CanSign → ∃ other ∈ before, other.IsLocked := by
  constructor
  · intro refused before status after split canSign
    by_contra unlocked
    refine refused ⟨before, status, after, split, canSign, ?_⟩
    intro other member isLocked
    exact unlocked ⟨other, member, isLocked⟩
  · rintro blocked ⟨before, status, after, split, canSign, unlocked⟩
    obtain ⟨other, member, isLocked⟩ := blocked before status after split canSign
    exact unlocked other member isLocked

/-- A locked key in the first place is in the way of all others. -/
theorem locked_first {certificate : Certificate} {time : Nat} {first : KeyStatus}
    {rest : List KeyStatus} (keys : certificate.keysAt time = first :: rest)
    (isLocked : first.IsLocked) {before after : List KeyStatus} {status : KeyStatus}
    (split : certificate.keysAt time = before ++ status :: after) (canSign : status.CanSign) :
    ∃ other ∈ before, other.IsLocked := by
  cases before with
  | nil =>
    obtain rfl : first = status := (List.cons.inj (keys.symm.trans split)).1
    obtain ⟨number, secret⟩ := canSign.unlocked
    cases isLocked.locked.symm.trans secret
  | cons head tail =>
    obtain rfl : first = head := (List.cons.inj (keys.symm.trans split)).1
    exact ⟨first, List.mem_cons_self .., isLocked⟩

end Attestor.OpenPgp.Certificate

namespace Attestor.Signer

open OpenPgp

theorem seedAt_isSome_iff {certificate : Certificate} {now : Nat} :
    (seedAt? certificate now).isSome = true ↔ certificate.SignsAt now := by
  rw [Certificate.signsAt_iff, seedAt?]
  cases certificate.signingKeyAt? now with
  | none => simp
  | some key => cases seeded : key.seed? <;> simp [seeded]

/-- A certificate makes a signer if and only if one of its keys can sign and no locked key stands
before it. So it is refused, as one without a usable signing key, even if it has keys that can sign,
when a locked key stands before each of them. -/
theorem ofCertificate_spec (certificate : Certificate) (now : Nat) :
    (∀ signer, ofCertificate certificate now = .ok signer ↔
      signer = { certificate } ∧ certificate.SignsAt now) ∧
    (∀ error, ofCertificate certificate now = .error error ↔
      error = .noSigningKey (keyIdText certificate) ∧
        ∀ before status after, certificate.keysAt now = before ++ status :: after →
          status.CanSign → ∃ other ∈ before, other.IsLocked) := by
  simp only [← Certificate.not_signsAt_iff, ← seedAt_isSome_iff, ofCertificate]
  cases (seedAt? certificate now).isSome <;> simp [eq_comm]

def halfLocked : Certificate :=
  let seed : List UInt8 := List.replicate 32 7
  let subseed : List UInt8 := List.replicate 32 8
  let primary := keyOfSeed seed
  let subkey := keyOfSeed subseed
  let both := primary.hashed ++ subkey.hashed
  let consent : Subpacket :=
    { critical := false
      kind := Subpacket.embeddedKind
      content := statement Certificate.backKind [] subseed both }
  let forSigning : Subpacket := { critical := true, kind := Subpacket.flagsKind, content := [2] }
  Certificate.ofParts { publicPart := primary, secret := .locked }
    { subkeys := [{ publicPart := subkey, secret := .plain subseed }]
      signatures :=
        [statement Certificate.directKind [forSigning] seed primary.hashed,
          statement Certificate.subkeyKind [forSigning, consent] seed both] }

theorem ofCertificate_halfLocked :
    (∃ status ∈ halfLocked.keysAt 5, status.CanSign) ∧
      ofCertificate halfLocked 5 = .error (.noSigningKey (keyIdText halfLocked)) := by
  have states : (halfLocked.keysAt 5).map (fun status => (status.usable, status.key.secret)) =
      [(true, .locked), (true, .plain (List.replicate 32 8))] := by
    decide +kernel
  obtain ⟨first, rest, keys, locked, later⟩ := List.map_eq_cons_iff.mp states
  obtain ⟨second, last, rfl, plain, -⟩ := List.map_eq_cons_iff.mp later
  obtain ⟨firstUsable, firstSecret⟩ := Prod.mk.inj locked
  obtain ⟨secondUsable, secondSecret⟩ := Prod.mk.inj plain
  have isLocked : first.IsLocked :=
    ⟨Certificate.KeyStatus.usable_iff.mp firstUsable, firstSecret⟩
  have canSign : second.CanSign :=
    ⟨Certificate.KeyStatus.usable_iff.mp secondUsable, _, secondSecret⟩
  refine ⟨⟨second, by simp [keys], canSign⟩, ?_⟩
  refine ((ofCertificate_spec halfLocked 5).2 _).mpr ⟨rfl, ?_⟩
  intro before status after split signs
  exact Certificate.locked_first keys isLocked split signs

end Attestor.Signer
