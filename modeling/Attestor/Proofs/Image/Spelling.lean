import Attestor.Proofs.Image.Canonical

namespace Attestor

open Text

namespace Image

namespace Grammar

variable {text tag : List Char}

theorem splitTag_append (colons : ':' ∉ tag) (slashes : '/' ∉ tag) :
    splitTag (text ++ ':' :: tag) = (text, some tag) := by
  induction text with
  | nil => simp [splitTag, splitTag_plain colons, slashes]
  | cons c text ih => simp only [List.cons_append, splitTag, ih]

theorem splitTag_whole (text : List Char) :
    text = (splitTag text).1 ++ ((splitTag text).2.elim [] (':' :: ·)) := by
  induction text with
  | nil => rfl
  | cons c rest ih =>
    rw [splitTag]
    split
    · rename_i name tag parts
      rw [parts] at ih
      exact congrArg (c :: ·) ih
    · rename_i name parts
      rw [parts] at ih
      split
      · rename_i colon
        rw [colon.1]
        rfl
      · exact congrArg (c :: ·) ih

theorem splitTag_name (named : isName text = true) : splitTag text = (text, none) := by
  have plain {part : List Char} (component : isPathComponent part = true) : ':' ∉ part := by
    intro member
    cases path_characters component ':' member
  rcases cut_cases '/' text with ⟨whole, _⟩ | ⟨first, rest, slashes, split, _⟩
  · rw [isName_single whole] at named
    exact splitTag_plain (plain named)
  · rw [split, isName_append slashes] at named
    obtain ⟨_, components⟩ := (Bool.and_eq_true ..).mp named
    rw [split]
    refine splitTag_slash fun member => ?_
    have apart : ':' ≠ '/' := by decide
    obtain ⟨part, stands, inside⟩ := (mem_segments apart).mp member
    exact plain (List.all_eq_true.mp components part stands) inside

theorem tag_plain (written : isTag tag = true) : ':' ∉ tag ∧ '/' ∉ tag ∧ '@' ∉ tag := by
  have outside {c : Char} (word : isWord c = false) (mark : c ≠ '.' ∧ c ≠ '-') : c ∉ tag := by
    cases tag with
    | nil => exact List.not_mem_nil
    | cons first rest =>
      simp only [isTag, Bool.and_eq_true, List.all_eq_true, Bool.or_eq_true, beq_iff_eq] at written
      obtain ⟨⟨head, tail⟩, _⟩ := written
      intro member
      rcases List.mem_cons.mp member with rfl | later
      · exact Bool.false_ne_true (word.symm.trans head)
      · rcases tail c later with (given | dot) | dash
        · exact Bool.false_ne_true (word.symm.trans given)
        · exact mark.1 dot
        · exact mark.2 dash
  have colon : isWord ':' = false := by decide +kernel
  have slash : isWord '/' = false := by decide +kernel
  have sign : isWord '@' = false := by decide +kernel
  exact ⟨outside colon (by decide), outside slash (by decide), outside sign (by decide)⟩

theorem algorithm_plain {begins last : Bool}
    (read : text.foldlM algorithmStep begins = some last) : '@' ∉ text := by
  induction text generalizing begins with
  | nil => exact List.not_mem_nil
  | cons c rest ih =>
    rw [List.foldlM_cons] at read
    obtain ⟨next, step, later⟩ := Option.bind_eq_some_iff.mp read
    intro member
    rcases List.mem_cons.mp member with rfl | inside
    · cases begins <;> cases step
    · exact ih later inside

theorem digest_plain (written : isDigest text = true) : '@' ∉ text := by
  rcases cut_cases ':' text with ⟨_, whole⟩ | ⟨algorithm, digits, _, split, parts⟩
  · simp only [isDigest, whole, Bool.false_eq_true] at written
  · simp only [isDigest, parts, Bool.and_eq_true, List.all_eq_true] at written
    obtain ⟨⟨known, _⟩, hexadecimal⟩ := written
    rw [split, List.mem_append, List.mem_cons]
    rintro (inside | same | inside)
    · exact algorithm_plain (beq_iff_eq.mp known) inside
    · cases same
    · cases hexadecimal '@' inside

end Grammar

open Grammar

/-- What stands in front of a digest, with or without a tag, and the digest are read as an image. -/
structure Spells (front digest : List Char) (image : ImageReference) : Prop where
  plain : '@' ∉ front
  name : isName (splitTag front).1 = true
  tag : (splitTag front).2.all isTag = true
  written : isDigest digest = true
  short : (locate (splitTag front).1).normalize.repository.length ≤ 255
  sound : digestFlaw? digest = none
  bytes : hasBytes digest = true
  whole : image = .ofLocation (locate (splitTag front).1).normalize digest

theorem cutReference_pinned {front digest : List Char} (plain : '@' ∉ front) :
    cutReference (front ++ '@' :: digest) =
      { name := (splitTag front).1, tag := (splitTag front).2, digest := some digest } := by
  simp only [cutReference, cut_append plain]

theorem front_plain {front digest : List Char}
    (formed : (cutReference (front ++ '@' :: digest)).wellFormed = true) : '@' ∉ front := by
  intro member
  obtain ⟨before, after, split, plain⟩ := List.eq_append_cons_of_mem member
  rw [split, List.append_assoc, List.cons_append, cutReference_pinned plain] at formed
  simp only [Parts.wellFormed, Bool.and_eq_true, Option.all_some] at formed
  exact digest_plain formed.2 (by simp)

def Unserved (text : List Char) : Prop :=
  ∀ first rest, '/' ∉ first → text = first ++ '/' :: rest →
    '.' ∉ first ∧ ':' ∉ first ∧ first ≠ "localhost".toList

theorem unserved_plain {text : List Char} (plain : '/' ∉ text) : Unserved text := by
  intro first rest _ split
  exact absurd (by simp [split]) plain

theorem unserved_append {first rest : List Char} (plain : '/' ∉ first) (dots : '.' ∉ first)
    (colons : ':' ∉ first) (different : first ≠ "localhost".toList) :
    Unserved (first ++ '/' :: rest) := by
  intro other more slashes split
  have same : cut '/' (first ++ '/' :: rest) = (first, some rest) := cut_append plain
  rw [split, cut_append slashes] at same
  obtain rfl : other = first := congrArg Prod.fst same
  exact ⟨dots, colons, different⟩

theorem Unserved.untagged {front : List Char} (unserved : Unserved front) :
    Unserved (splitTag front).1 := by
  intro first rest plain split
  refine unserved first (rest ++ (splitTag front).2.elim [] (':' :: ·)) plain ?_
  calc
    front = (splitTag front).1 ++ (splitTag front).2.elim [] (':' :: ·) := splitTag_whole front
    _ = first ++ '/' :: (rest ++ (splitTag front).2.elim [] (':' :: ·)) := by
      rw [split, List.append_assoc, List.cons_append]

theorem locate_append {first rest : List Char} (plain : '/' ∉ first) :
    locate (first ++ '/' :: rest) =
      if isRegistry first then { registry := first, repository := rest }
      else { registry := defaultRegistry, repository := first ++ '/' :: rest } := by
  simp only [locate, cut_append plain]

theorem locate_unserved {name : List Char} (unserved : Unserved name) :
    locate name = { registry := defaultRegistry, repository := name } := by
  rcases cut_cases '/' name with ⟨_, whole⟩ | ⟨first, rest, plain, split, _⟩
  · simp only [locate, whole]
  · obtain ⟨dots, colons, different⟩ := unserved first rest plain split
    have path : isRegistry first = false := by
      simpa [isRegistry, dots, colons] using different
    rw [split, locate_append plain, path, if_neg Bool.false_ne_true]

theorem normalize_default (repository : List Char) :
    ({ registry := defaultRegistry, repository } : Location).normalize =
      { registry := defaultRegistry
        repository := if '/' ∈ repository then repository else officialPath ++ repository } := by
  have real : defaultRegistry ≠ defaultRegistryAlias := by decide
  by_cases several : '/' ∈ repository <;> simp [Location.normalize, real, several]

theorem normalize_alias (repository : List Char) :
    ({ registry := defaultRegistryAlias, repository } : Location).normalize =
      ({ registry := defaultRegistry, repository } : Location).normalize := by
  simp [Location.normalize]

namespace Spells

variable {front digest place tag : List Char} {image : ImageReference}

/-- Whatever else is well formed and comes to the same location spells the same image. -/
theorem respelled {other : List Char} (spells : Spells front digest image) (plain : '@' ∉ other)
    (name : isName (splitTag other).1 = true) (tag : (splitTag other).2.all isTag = true)
    (same : (locate (splitTag other).1).normalize = (locate (splitTag front).1).normalize) :
    Spells other digest image where
  plain := plain
  name := name
  tag := tag
  written := spells.written
  short := by rw [same]; exact spells.short
  sound := spells.sound
  bytes := spells.bytes
  whole := by rw [same]; exact spells.whole

theorem tagged (spells : Spells front digest image) (named : isName front = true)
    (written : isTag tag = true) : Spells (front ++ ':' :: tag) digest image := by
  obtain ⟨colons, slashes, ats⟩ := tag_plain written
  have parts : splitTag (front ++ ':' :: tag) = (front, some tag) := splitTag_append colons slashes
  have bare : splitTag front = (front, none) := splitTag_name named
  refine spells.respelled ?_ ?_ ?_ ?_
  · rw [List.mem_append, List.mem_cons]
    rintro (inside | same | inside)
    · exact spells.plain inside
    · cases same
    · exact ats inside
  · rw [parts]
    exact named
  · rw [parts]
    exact written
  · rw [parts, bare]

theorem below (spells : Spells front digest image) (plain : '@' ∉ place)
    (named : isName (place ++ '/' :: (splitTag front).1) = true)
    (same : (locate (place ++ '/' :: (splitTag front).1)).normalize =
      (locate (splitTag front).1).normalize) : Spells (place ++ '/' :: front) digest image := by
  refine spells.respelled ?_ ?_ ?_ ?_
  · rw [List.mem_append, List.mem_cons]
    rintro (inside | same | inside)
    · exact plain inside
    · cases same
    · exact spells.plain inside
  all_goals rw [splitTag_below]
  · exact named
  · exact spells.tag
  · exact same

theorem components {other : ImageReference} (spells : Spells (place ++ '/' :: front) digest other)
    (plain : '/' ∉ place) : (segments '/' (splitTag front).1).all isPathComponent = true := by
  have named := spells.name
  rw [splitTag_below, isName_append plain] at named
  exact ((Bool.and_eq_true ..).mp named).2

theorem served (spells : Spells front digest image) (unserved : Unserved front)
    (components : (segments '/' (splitTag front).1).all isPathComponent = true)
    (standard : place = defaultRegistry ∨ place = defaultRegistryAlias) :
    Spells (place ++ '/' :: front) digest image := by
  have facts : '@' ∉ place ∧ '/' ∉ place ∧ isHost place = true ∧ isRegistry place = true := by
    rcases standard with rfl | rfl <;> decide
  obtain ⟨ats, plain, host, registry⟩ := facts
  refine spells.below ats ?_ ?_
  · rw [isName_append plain, host, components]
    rfl
  · rw [locate_append plain, registry, if_pos rfl, locate_unserved unserved.untagged]
    rcases standard with rfl | rfl
    · rfl
    · exact normalize_alias _

theorem single_components (spells : Spells front digest image) (single : '/' ∉ front) :
    '/' ∉ (splitTag front).1 ∧ (segments '/' (splitTag front).1).all isPathComponent = true := by
  have plain : '/' ∉ (splitTag front).1 := by
    intro member
    rw [splitTag_whole front] at single
    exact single (List.mem_append_left _ member)
  have named := spells.name
  rw [isName_single plain] at named
  rw [segments_plain plain, List.all_cons, named]
  exact ⟨plain, rfl⟩

theorem unserved_official (rest : List Char) : Unserved ("library".toList ++ '/' :: rest) :=
  unserved_append (by decide) (by decide) (by decide) (by decide)

theorem official (spells : Spells front digest image) (single : '/' ∉ front) :
    Spells ("library".toList ++ '/' :: front) digest image := by
  obtain ⟨plain, components⟩ := spells.single_components single
  refine spells.below (by decide) ?_ ?_
  · rw [isName_append (by decide), components]
    rfl
  · rw [locate_unserved (unserved_official _), locate_unserved (unserved_plain plain),
      normalize_default, normalize_default, if_pos (by simp), if_neg plain]
    rfl

theorem served_official (spells : Spells front digest image) (single : '/' ∉ front) :
    Spells (defaultRegistry ++ '/' :: ("library".toList ++ '/' :: front)) digest image := by
  obtain ⟨_, components⟩ := spells.single_components single
  refine (spells.official single).served (unserved_official _) ?_ (.inl rfl)
  rw [splitTag_below, segments_append (by decide), List.all_cons, components]
  rfl

end Spells

end Image

namespace ImageReference

open Image Grammar

theorem pinned_toList (front digest : String) :
    (front ++ "@" ++ digest).toList = front.toList ++ '@' :: digest.toList := by
  simp

theorem parse_pinned_iff {front digest : String} {image : ImageReference} :
    parse (front ++ "@" ++ digest) = .ok image ↔ Spells front.toList digest.toList image := by
  simp only [parse_ok_iff, pinned_toList, readReference_ok_iff]
  constructor
  · rintro ⟨location, digits, ⟨formed, given, rfl, short, sound⟩, bytes, rfl⟩
    have plain := front_plain formed
    rw [cutReference_pinned plain] at formed given short
    cases given
    simp only [Parts.wellFormed, Bool.and_eq_true, Option.all_some] at formed
    rw [cutReference_pinned plain]
    exact ⟨plain, formed.1.1, formed.1.2, formed.2, short, sound, bytes, rfl⟩
  · intro spells
    refine ⟨_, _, ⟨?_, ?_, rfl, ?_, spells.sound⟩, spells.bytes, ?_⟩
    all_goals rw [cutReference_pinned spells.plain]
    · simp only [Parts.wellFormed, spells.name, spells.tag, Option.all_some, spells.written, Bool.and_self]
    · exact spells.short
    · exact spells.whole

theorem parse_illFormed {text : String} (spoken : text.toList ≠ [])
    (formed : (cutReference text.toList).wellFormed = false) :
    parse text = .error (.malformed text .invalidFormat) := by
  have some_ : text.toList.isEmpty = false := List.isEmpty_eq_false_iff.mpr spoken
  simp only [parse, readReference, some_, formed, Bool.not_false, if_true, Bool.false_eq_true, if_false]

/-- Other texts are read as the image that one text is read as. A tag may follow the name, though no
second one. The default registry, or its alias, may be named if no other registry is and the text with
it is a reference at all. An image of the default registry with a path of one component is an official
one, so that their path may stand in front. -/
theorem parse_spellings (name digest : String) (image : ImageReference)
    (read : parse (name ++ "@" ++ digest) = .ok image) :
    (∀ tag : String, isTag tag.toList = true →
      parse (name ++ ":" ++ tag ++ "@" ++ digest) =
        if isName name.toList then .ok image
        else .error (.malformed (name ++ ":" ++ tag ++ "@" ++ digest) .invalidFormat)) ∧
    (Unserved name.toList → ∀ other,
      parse ("docker.io/" ++ name ++ "@" ++ digest) = .ok other ∨
        parse ("index.docker.io/" ++ name ++ "@" ++ digest) = .ok other →
      parse ("docker.io/" ++ name ++ "@" ++ digest) = .ok image ∧
        parse ("index.docker.io/" ++ name ++ "@" ++ digest) = .ok image) ∧
    ('/' ∉ name.toList →
      ∀ place ∈ ["docker.io/", "index.docker.io/", "library/", "docker.io/library/"],
        parse (place ++ name ++ "@" ++ digest) = .ok image) := by
  have spells := parse_pinned_iff.mp read
  have toDefault : ("docker.io/" ++ name).toList = defaultRegistry ++ '/' :: name.toList := by
    rw [String.toList_append]
    rfl
  have toAlias : ("index.docker.io/" ++ name).toList = defaultRegistryAlias ++ '/' :: name.toList := by
    rw [String.toList_append]
    rfl
  refine ⟨?_, ?_, ?_⟩
  · intro tag written
    have front : (name ++ ":" ++ tag).toList = name.toList ++ ':' :: tag.toList := by simp
    split
    · rename_i named
      rw [parse_pinned_iff, front]
      exact spells.tagged named written
    · rename_i unnamed
      obtain ⟨colons, slashes, ats⟩ := tag_plain written
      have plain : '@' ∉ name.toList ++ ':' :: tag.toList := by
        simp [spells.plain, ats]
      refine parse_illFormed (by simp) ?_
      rw [pinned_toList, front, cutReference_pinned plain, splitTag_append colons slashes]
      simp [Parts.wellFormed, unnamed]
  · intro unserved other accepted
    have components : (segments '/' (splitTag name.toList).1).all isPathComponent = true := by
      rw [parse_pinned_iff, parse_pinned_iff, toDefault, toAlias] at accepted
      rcases accepted with named | aliased
      · exact named.components (by decide)
      · exact aliased.components (by decide)
    rw [parse_pinned_iff, parse_pinned_iff, toDefault, toAlias]
    exact ⟨spells.served unserved components (.inl rfl), spells.served unserved components (.inr rfl)⟩
  · intro single place member
    obtain ⟨_, components⟩ := spells.single_components single
    have toOfficial : ("library/" ++ name).toList = "library".toList ++ '/' :: name.toList := by
      rw [String.toList_append]
      rfl
    have toBoth : ("docker.io/library/" ++ name).toList =
        defaultRegistry ++ '/' :: ("library".toList ++ '/' :: name.toList) := by
      rw [String.toList_append]
      rfl
    rw [parse_pinned_iff]
    simp only [List.mem_cons, List.not_mem_nil, or_false] at member
    rcases member with rfl | rfl | rfl | rfl
    · rw [toDefault]
      exact spells.served (unserved_plain single) components (.inl rfl)
    · rw [toAlias]
      exact spells.served (unserved_plain single) components (.inr rfl)
    · rw [toOfficial]
      exact spells.official single
    · rw [toBoth]
      exact spells.served_official single

theorem parse_spellings_tagged :
    let digest := "sha256:73d506a23331fce5cb6f49bfb4c27450d2ef4878efce89f03a46b27372a88430"
    let image : ImageReference := { name := "docker.io/project/app", digest }
    let official : ImageReference := { name := "docker.io/library/app", digest }
    parse ("project/app" ++ "@" ++ digest) = .ok image ∧
      parse ("project/app" ++ ":" ++ "v1.0-é" ++ "@" ++ digest) = .ok image ∧
      parse ("index.docker.io/" ++ "project/app" ++ "@" ++ digest) = .ok image ∧
      parse ("app:1.0" ++ "@" ++ digest) = .ok official ∧
      parse ("docker.io/library/" ++ "app:1.0" ++ "@" ++ digest) = .ok official := by
  intro digest image official
  have read : parse ("project/app" ++ "@" ++ digest) = .ok image :=
    isReadFrom_iff.mp (by decide +kernel)
  have default : parse ("docker.io/" ++ "project/app" ++ "@" ++ digest) = .ok image :=
    isReadFrom_iff.mp (by decide +kernel)
  have short : parse ("app:1.0" ++ "@" ++ digest) = .ok official :=
    isReadFrom_iff.mp (by decide +kernel)
  have plain : '/' ∉ "project".toList := by decide
  have unserved : Unserved "project/app".toList :=
    unserved_append plain (by decide) (by decide) (by decide)
  obtain ⟨tagged, served, _⟩ := parse_spellings _ _ _ read
  obtain ⟨_, _, places⟩ := parse_spellings _ _ _ short
  refine ⟨read, ?_, (served unserved image (.inl default)).2, short, places (by decide) _ (by simp)⟩
  exact (tagged "v1.0-é" (by decide +kernel)).trans (if_pos (by decide +kernel))

end ImageReference

end Attestor
