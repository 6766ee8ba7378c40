import Attestor.Image
import Attestor.Proofs.Image.Grammar

namespace Attestor.Image

open Grammar Attestor.Text

structure Location.Settled (location : Location) : Prop where
  registry : isRegistry location.registry = true
  plain : '/' ∉ location.registry
  host : isHost location.registry = true ∨ isPathComponent location.registry = true
  real : location.registry ≠ defaultRegistryAlias
  path : location.registry = defaultRegistry → '/' ∈ location.repository
  parts : ∀ part ∈ segments '/' location.repository,
    isLabel part = true ∨ isPathComponent part = true

theorem default_registry : isRegistry defaultRegistry = true := by decide

theorem default_plain : '/' ∉ defaultRegistry := by decide

theorem default_host : isHost defaultRegistry = true := by decide

theorem normalize_registry (location : Location) :
    location.normalize.registry =
      if location.registry = defaultRegistryAlias then defaultRegistry
      else location.registry := by
  simp only [Location.normalize]
  split
  · split <;> rfl
  · split <;> rfl

theorem normalize_repository (location : Location) :
    location.normalize.repository =
      if location.normalize.registry = defaultRegistry ∧ '/' ∉ location.repository then
        officialPath ++ location.repository
      else location.repository := by
  rw [normalize_registry]
  simp only [Location.normalize]
  split
  · split <;> rfl
  · split <;> rfl

theorem normalize_settled {location : Location} (registry : isRegistry location.registry = true)
    (plain : '/' ∉ location.registry)
    (host : isHost location.registry = true ∨ isPathComponent location.registry = true)
    (parts : ∀ part ∈ segments '/' location.repository,
      isLabel part = true ∨ isPathComponent part = true) : location.normalize.Settled := by
  have served : location.normalize.registry = defaultRegistry ∨
      (location.normalize.registry = location.registry ∧
        location.registry ≠ defaultRegistryAlias) := by
    rw [normalize_registry]
    split
    · exact .inl rfl
    · exact .inr ⟨rfl, by assumption⟩
  constructor
  · rcases served with same | ⟨same, _⟩
    · rw [same, default_registry]
    · rw [same, registry]
  · rcases served with same | ⟨same, _⟩
    · rw [same]
      exact default_plain
    · rw [same]
      exact plain
  · rcases served with same | ⟨same, _⟩
    · rw [same]
      exact .inl default_host
    · rw [same]
      exact host
  · rcases served with same | ⟨same, real⟩
    · rw [same]
      decide
    · rw [same]
      exact real
  · intro default
    rw [normalize_repository]
    split
    · exact List.mem_append_left _ (by decide)
    · rename_i several
      exact Decidable.not_not.mp fun none => several ⟨default, none⟩
  · rw [normalize_repository]
    split
    · have split : officialPath ++ location.repository =
          "library".toList ++ '/' :: location.repository := rfl
      rw [split, segments_append (by decide)]
      intro part member
      rcases List.mem_cons.mp member with rfl | other
      · exact .inr (by decide)
      · exact parts part other
    · exact parts

theorem locate_settled {name : List Char} (named : isName name = true) :
    (locate name).normalize.Settled := by
  rcases cut_cases '/' name with ⟨plain, whole⟩ | ⟨first, rest, plain, split, parts⟩
  · rw [isName_single plain] at named
    simp only [locate, whole]
    refine normalize_settled default_registry default_plain (.inl default_host) ?_
    rw [segments_plain plain]
    intro part member
    rw [List.mem_singleton.mp member]
    exact .inr named
  · rw [split, isName_append plain] at named
    obtain ⟨head, tail⟩ := (Bool.and_eq_true ..).mp named
    have others : ∀ part ∈ segments '/' rest, isLabel part = true ∨ isPathComponent part = true :=
      fun part member => .inr (List.all_eq_true.mp tail part member)
    simp only [locate, parts]
    split
    · rename_i registry
      exact normalize_settled registry plain ((Bool.or_eq_true ..).mp head) others
    · rename_i unserved
      refine normalize_settled default_registry default_plain (.inl default_host) ?_
      simp only [isRegistry, Bool.or_eq_true, not_or, List.contains_iff_mem] at unserved
      obtain ⟨⟨dots, port⟩, _⟩ := unserved
      rw [split, segments_append plain]
      intro part member
      rcases List.mem_cons.mp member with rfl | other
      · rcases (Bool.or_eq_true ..).mp head with host | component
        · exact .inl (host_label host dots port)
        · exact .inr component
      · exact others part other

theorem splitTag_plain {text : List Char} (plain : ':' ∉ text) : splitTag text = (text, none) := by
  induction text with
  | nil => rfl
  | cons c text ih =>
    obtain ⟨different, tail⟩ := not_or.mp (mt List.mem_cons.mpr plain)
    simp [splitTag, ih tail, Ne.symm different]

theorem splitTag_below (first rest : List Char) :
    splitTag (first ++ '/' :: rest) = (first ++ '/' :: (splitTag rest).1, (splitTag rest).2) := by
  induction first with
  | nil => cases parts : splitTag rest with | mk name tag => cases tag <;> simp [splitTag, parts]
  | cons c first ih =>
    simp only [List.cons_append, splitTag, ih]
    cases (splitTag rest).2 <;> simp

theorem splitTag_slash {first rest : List Char} (plain : ':' ∉ rest) :
    splitTag (first ++ '/' :: rest) = (first ++ '/' :: rest, none) := by
  rw [splitTag_below, splitTag_plain plain]

namespace Location.Settled

variable {location : Location}

theorem registry_characters (settled : location.Settled) : '@' ∉ location.registry := by
  intro member
  rcases settled.host with host | component
  · rcases host_characters host '@' member with impossible | impossible | impossible | impossible
    all_goals exact absurd impossible (by decide)
  · cases path_characters component '@' member

theorem repository_characters (settled : location.Settled) {c : Char}
    (member : c ∈ location.repository) (different : c ≠ '/') :
    isAlphanumeric c = true ∨ isPathCharacter c = true := by
  obtain ⟨part, stands, inside⟩ := (mem_segments different).mp member
  rcases settled.parts part stands with label | component
  · rcases label_characters label c inside with letter | rfl
    · exact .inl letter
    · exact .inr rfl
  · exact .inr (path_characters component c inside)

theorem front_plain (settled : location.Settled) :
    '@' ∉ location.registry ++ '/' :: location.repository := by
  rw [List.mem_append, List.mem_cons]
  intro given
  rcases given with inside | same | inside
  · exact settled.registry_characters inside
  · cases same
  · rcases settled.repository_characters inside (by decide) with letter | path
    · cases letter
    · cases path

theorem components_iff (settled : location.Settled) :
    (segments '/' location.repository).all isPathComponent = true ↔
      ∀ c ∈ location.repository, isUpper c = false := by
  rw [List.all_eq_true]
  constructor
  · intro components c member
    by_cases slash : c = '/'
    · rw [slash]
      rfl
    · obtain ⟨part, stands, inside⟩ := (mem_segments slash).mp member
      exact (component_iff (settled.parts part stands)).mp (components part stands) c inside
  · intro lower part stands
    refine (component_iff (settled.parts part stands)).mpr fun c inside => ?_
    by_cases slash : c = '/'
    · rw [slash]
      rfl
    · exact lower c ((mem_segments slash).mpr ⟨part, stands, inside⟩)

theorem name_iff (settled : location.Settled) :
    isName (location.registry ++ '/' :: location.repository) = true ↔
      ∀ c ∈ location.repository, isUpper c = false := by
  rw [← settled.components_iff, isName_append settled.plain]
  simp [settled.host]

theorem locate_normalize (settled : location.Settled) :
    (locate (location.registry ++ '/' :: location.repository)).normalize = location := by
  have located : locate (location.registry ++ '/' :: location.repository) = location := by
    simp [locate, cut_append settled.plain, settled.registry]
  have registry : location.normalize.registry = location.registry := by
    rw [normalize_registry, if_neg settled.real]
  have repository : location.normalize.repository = location.repository := by
    rw [normalize_repository, registry, if_neg]
    intro given
    obtain ⟨default, none⟩ := given
    exact none (settled.path default)
  rw [located]
  obtain ⟨_, _⟩ := location
  exact (Location.mk.injEq ..).mpr ⟨registry, repository⟩

/-- A settled location with a good digest is read as itself, unless its path has an upper-case
letter. -/
theorem readReference (settled : location.Settled) {digest : List Char}
    (short : location.repository.length ≤ 255) (written : isDigest digest = true)
    (sound : digestFlaw? digest = none) :
    Image.readReference (location.registry ++ '/' :: location.repository ++ '@' :: digest) =
      if location.repository.all (fun c => !isUpper c) then .ok (location, some digest)
      else .error .invalidFormat := by
  have colons : ':' ∉ location.repository := by
    intro inside
    rcases settled.repository_characters inside (by decide) with letter | path
    · cases letter
    · cases path
  have cut : cutReference (location.registry ++ '/' :: location.repository ++ '@' :: digest) =
      { name := location.registry ++ '/' :: location.repository, tag := none
        digest := some digest } := by
    simp only [cutReference, cut_append settled.front_plain, splitTag_slash colons]
  have nonempty :
      (location.registry ++ '/' :: location.repository ++ '@' :: digest).isEmpty = false := by
    simp
  have lower : isName (location.registry ++ '/' :: location.repository) =
      location.repository.all (fun c => !isUpper c) := by
    rw [Bool.eq_iff_iff, settled.name_iff]
    simp
  simp only [Image.readReference, nonempty, cut, Parts.wellFormed, Option.all_none,
    Option.all_some, written, settled.locate_normalize, Option.bind_some, sound, Bool.and_true,
    lower, Bool.false_eq_true, ↓reduceIte, Nat.not_lt.mpr short]
  cases location.repository.all (fun c => !isUpper c) <;> rfl

end Location.Settled

theorem readReference_ok_iff {text digest : List Char} {location : Location} :
    readReference text = .ok (location, some digest) ↔
      (cutReference text).wellFormed = true ∧ (cutReference text).digest = some digest ∧
        location = (locate (cutReference text).name).normalize ∧
        location.repository.length ≤ 255 ∧ digestFlaw? digest = none := by
  simp only [readReference]
  constructor
  · intro read
    split at read
    · cases read
    · split at read
      · cases read
      · rename_i good
        split at read
        · cases read
        · rename_i short
          split at read
          · cases read
          · rename_i sound
            simp only [Except.ok.injEq, Prod.mk.injEq] at read
            obtain ⟨rfl, given⟩ := read
            rw [given, Option.bind_some] at sound
            exact ⟨by simpa using good, given, rfl, Nat.not_lt.mp short, sound⟩
  · rintro ⟨formed, given, rfl, short, sound⟩
    have spoken : text.isEmpty = false := by
      cases text with
      | nil => cases formed
      | cons c rest => rfl
    simp only [spoken, formed, given, Option.bind_some, sound, Nat.not_lt.mpr short, Bool.not_true,
      Bool.false_eq_true, ↓reduceIte]

theorem readReference_ok {text digest : List Char} {location : Location}
    (read : readReference text = .ok (location, some digest)) :
    location.Settled ∧ location.repository.length ≤ 255 ∧ isDigest digest = true ∧
      digestFlaw? digest = none := by
  obtain ⟨formed, given, rfl, short, sound⟩ := readReference_ok_iff.mp read
  simp only [Parts.wellFormed, Bool.and_eq_true, given, Option.all_some] at formed
  exact ⟨locate_settled formed.1.1, short, formed.2, sound⟩

end Attestor.Image

namespace Attestor.ImageReference

open Image Grammar Attestor.Text

def isReadFrom (image : ImageReference) (text : String) : Bool :=
  (parse text).toOption = some image

theorem isReadFrom_iff {image : ImageReference} {text : String} :
    image.isReadFrom text = true ↔ parse text = .ok image := by
  cases read : parse text <;> simp [isReadFrom, read, Except.toOption]

def path (image : ImageReference) : List Char :=
  (cut '/' image.name.toList).2.getD []

def hasLowerPath (image : ImageReference) : Bool :=
  image.path.all fun c => !isUpper c

inductive Settled : ImageReference → Prop where
  | parts (location : Location) (digest : List Char) (settled : location.Settled)
      (short : location.repository.length ≤ 255) (written : isDigest digest = true)
      (sound : digestFlaw? digest = none) (bytes : hasBytes digest = true) :
      Settled {
        name := String.ofList (location.registry ++ '/' :: location.repository)
        digest := String.ofList digest }

def ofLocation (location : Location) (digest : List Char) : ImageReference where
  name := String.ofList (location.registry ++ '/' :: location.repository)
  digest := String.ofList digest

theorem parse_ok_iff {text : String} {image : ImageReference} :
    parse text = .ok image ↔ ∃ location digest,
      readReference text.toList = .ok (location, some digest) ∧ hasBytes digest = true ∧
        image = ofLocation location digest := by
  simp only [parse]
  constructor
  · intro read
    split at read
    · cases read
    · cases read
    · rename_i location digest found
      split at read
      · rename_i bytes
        cases read
        exact ⟨location, digest, found, bytes, rfl⟩
      · cases read
  · rintro ⟨location, digest, found, bytes, rfl⟩
    simp only [found, bytes, if_true]
    rfl

theorem parse_settled {text : String} {image : ImageReference} (read : parse text = .ok image) :
    image.Settled := by
  obtain ⟨location, digest, found, bytes, rfl⟩ := parse_ok_iff.mp read
  obtain ⟨settled, short, written, sound⟩ := readReference_ok found
  exact .parts location digest settled short written sound bytes

theorem Settled.reads {image : ImageReference} (settled : image.Settled) :
    parse image.canonical =
      if image.hasLowerPath then .ok image
      else .error (.malformed image.canonical .invalidFormat) := by
  cases settled with
  | parts location digest settled short written sound bytes =>
    let image : ImageReference := {
      name := String.ofList (location.registry ++ '/' :: location.repository)
      digest := String.ofList digest }
    have path : image.path = location.repository := by
      simp [image, ImageReference.path, cut_append settled.plain]
    have characters : image.canonical.toList =
        location.registry ++ '/' :: location.repository ++ '@' :: digest := by
      simp [image, canonical]
    rw [parse, characters, settled.readReference short written sound, hasLowerPath, path]
    cases location.repository.all (fun c => !isUpper c) with
    | false => rfl
    | true => simp only [↓reduceIte, bytes]

/-- The canonical text of an image is read as the image, unless the path of the image has an
upper-case letter: then it is no reference. -/
theorem parse_canonical {text : String} {image : ImageReference} (read : parse text = .ok image) :
    parse image.canonical =
      if image.hasLowerPath then .ok image
      else .error (.malformed image.canonical .invalidFormat) := by
  have settled := parse_settled read
  exact settled.reads

theorem parse_canonical_upper :
    let image : ImageReference := {
      name := "docker.io/MyHost/app"
      digest := "sha256:73d506a23331fce5cb6f49bfb4c27450d2ef4878efce89f03a46b27372a88430" }
    parse "MyHost/app@sha256:73d506a23331fce5cb6f49bfb4c27450d2ef4878efce89f03a46b27372a88430" =
        .ok image ∧
      parse image.canonical = .error (.malformed image.canonical .invalidFormat) := by
  intro image
  have read : parse
      "MyHost/app@sha256:73d506a23331fce5cb6f49bfb4c27450d2ef4878efce89f03a46b27372a88430" =
        .ok image := by
    rfl
  exact ⟨read, (parse_canonical read).trans (if_neg (by decide +kernel))⟩

end Attestor.ImageReference
