import Attestor.Proofs.Image.Canonical
import Attestor.Proofs.Payload

namespace Attestor

open Text

namespace ImageReference

variable {image other : ImageReference}

theorem eq_iff : image = other ↔ image.name = other.name ∧ image.digest = other.digest := by
  cases image
  cases other
  exact Eq.to_iff (mk.injEq ..)

theorem Settled.name_plain (settled : image.Settled) : '@' ∉ image.name.toList := by
  cases settled with
  | parts location digest settled short written sound bytes =>
    rw [String.toList_ofList]
    exact settled.front_plain

theorem Settled.cut_canonical (settled : image.Settled) :
    cut '@' image.canonical.toList = (image.name.toList, some image.digest.toList) := by
  have characters : image.canonical.toList = image.name.toList ++ '@' :: image.digest.toList := by
    simp [canonical]
  rw [characters]
  exact cut_append settled.name_plain

theorem Settled.canonical_inj (settled : image.Settled) (others : other.Settled) :
    image.canonical = other.canonical ↔ image = other := by
  constructor
  · intro same
    have parts := settled.cut_canonical
    rw [same, others.cut_canonical] at parts
    obtain ⟨names, digests⟩ := Prod.mk.inj parts
    have name : image.name = other.name := String.toList_injective names.symm
    have digest : image.digest = other.digest :=
      String.toList_injective (Option.some.inj digests).symm
    exact eq_iff.mpr ⟨name, digest⟩
  · intro same
    rw [same]

end ImageReference

namespace Payload

theorem body_inj {first second : Payload} : first.body = second.body ↔ first = second := by
  constructor
  · intro same
    have read := ofBody_body first
    rw [same, ofBody_body] at read
    exact (Option.some.inj read).symm
  · intro same
    rw [same]

theorem refersTo_ofImage (image other : ImageReference) :
    (ofImage image).refersTo other = true ↔ image = other := by
  rw [ImageReference.eq_iff]
  simp only [refersTo, ofImage, Bool.and_eq_true, beq_iff_eq]

theorem ofImage_inj {image other : ImageReference} : ofImage image = ofImage other ↔ image = other := by
  constructor
  · intro same
    have itself := (refersTo_ofImage other other).mpr rfl
    rw [← same] at itself
    exact (refersTo_ofImage image other).mp itself
  · intro same
    rw [same]

/-- A text that is signed states the payload that it was written for, whatever characters are in it.
So of two images that references are read as, the text for one is about the other, is the text for the
other, or goes with the same canonical text, only if they are the same image. -/
theorem body_identifies :
    (∀ payload : Payload, ofBody? payload.body = some payload) ∧
    ∀ (text otherText : String) (image other : ImageReference),
      ImageReference.parse text = .ok image → ImageReference.parse otherText = .ok other →
      ((∃ payload, ofBody? (ofImage image).body = some payload ∧ payload.refersTo other = true) ↔
        image = other) ∧
      ((ofImage image).body = (ofImage other).body ↔ image = other) ∧
      (image.canonical = other.canonical ↔ image = other) := by
  refine ⟨ofBody_body, ?_⟩
  intro text otherText image other read otherRead
  have settled := ImageReference.parse_settled read
  have otherSettled := ImageReference.parse_settled otherRead
  refine ⟨?_, ?_, settled.canonical_inj otherSettled⟩
  · constructor
    · intro given
      obtain ⟨payload, stated, refers⟩ := given
      rw [ofBody_body] at stated
      obtain rfl := Option.some.inj stated
      exact (refersTo_ofImage image other).mp refers
    · intro same
      exact ⟨ofImage image, ofBody_body _, (refersTo_ofImage image other).mpr same⟩
  · exact body_inj.trans ofImage_inj

/-- Images of one path and digest on two registries. -/
theorem body_identifies_registry :
    let digest := "sha256:73d506a23331fce5cb6f49bfb4c27450d2ef4878efce89f03a46b27372a88430"
    let image : ImageReference := { name := "docker.io/library/app", digest }
    let other : ImageReference := { name := "localhost:5000/library/app", digest }
    ImageReference.parse
        "app:1.0@sha256:73d506a23331fce5cb6f49bfb4c27450d2ef4878efce89f03a46b27372a88430" =
      .ok image ∧
    ImageReference.parse
        "localhost:5000/library/app@sha256:73d506a23331fce5cb6f49bfb4c27450d2ef4878efce89f03a46b27372a88430" =
      .ok other ∧
    (ofImage image).body ≠ (ofImage other).body ∧ image.canonical ≠ other.canonical := by
  intro digest image other
  have read : ImageReference.parse
      "app:1.0@sha256:73d506a23331fce5cb6f49bfb4c27450d2ef4878efce89f03a46b27372a88430" =
      .ok image :=
    ImageReference.isReadFrom_iff.mp (by decide +kernel)
  have otherRead : ImageReference.parse
      "localhost:5000/library/app@sha256:73d506a23331fce5cb6f49bfb4c27450d2ef4878efce89f03a46b27372a88430" =
      .ok other :=
    ImageReference.isReadFrom_iff.mp (by decide +kernel)
  have different : image ≠ other := by
    decide
  obtain ⟨_, bodies, texts⟩ := body_identifies.2 _ _ image other read otherRead
  exact ⟨read, otherRead, mt bodies.mp different, mt texts.mp different⟩

end Payload

end Attestor
