import Attestor.Proofs.CommandLine.Preparation
import Attestor.Proofs.Files
import Attestor.Proofs.Store.Listing

namespace Attestor.CommandLine

open Session

variable {files : Files} {path : String} {names : List String}

/-- A store in which every attestation stands under the image that it states can be kept wherever no
directory is, and be read again in place of any other. Then each image has its own attestations, with
equal ones in the order in which they were submitted. -/
theorem saveStore_reload {store : Store} (located : files.locate path = some names)
    (plain : files.isDirectory names = false) (filed : store.Filed) :
    ∃ after loaded,
      saveStore Files.access (some path) store files = (.ok (), after) ∧
      (∀ held : Store, held.reload path (after.look path) = (.ok (), loaded)) ∧
      (loadStore Files.access (some path) after).1 = .ok loaded ∧
      loaded.Filed ∧
      ∀ image, Store.StablySorted (store.attestations image) (loaded.attestations image) := by
  obtain ⟨after, written⟩ := Files.write_exists located plain (Text.encode store.document)
  have found := Files.look_write written
  obtain ⟨loaded, reloads, again, sorted⟩ := filed.reload_document path
  refine ⟨after, loaded, saveStore_ok_iff.mpr written, ?_, ?_, again, sorted⟩
  · intro held
    rw [found]
    exact reloads held
  · refine (loadStore_present found).mpr ?_
    have fresh := reloads {}
    rw [Store.reload] at fresh
    split at fresh
    · rename_i same read
      rw [read, (Prod.mk.inj fresh).2]
    · cases fresh

def unsorted : List SignedAttestation :=
  let short := "app@sha256:73d506a23331fce5cb6f49bfb4c27450d2ef4878efce89f03a46b27372a88430"
  let state (image check signature : String) : SignedAttestation :=
    { checkName := check, image, body := "a \"quoted\" body", signature, keyId := "0x1" }
  [state ("docker.io/library/" ++ short) "nobody" "first", state short "diy" "second",
    state short "" "third", state short "diy" "fourth"]

theorem saveStore_reload_unsorted : ∃ image store after loaded,
    Store.attestations store image = unsorted ∧
    saveStore Files.access (some "attestations.json") store ({} : Files) = (.ok (), after) ∧
    store.reload "attestations.json" (after.look "attestations.json") = (.ok (), loaded) ∧
    Store.StablySorted unsorted (loaded.attestations image) := by
  let image : ImageReference :=
    { name := "docker.io/library/app"
      digest := "sha256:73d506a23331fce5cb6f49bfb4c27450d2ef4878efce89f03a46b27372a88430" }
  have named : ∀ attestation ∈ unsorted, Store.names image attestation = true := by
    decide
  obtain ⟨store, read⟩ : ∃ store, Store.ofList unsorted = .ok store :=
    Store.refileAll_ok_iff.mpr fun attestation member =>
      ⟨image, Store.names_iff.mp (named attestation member)⟩
  have filed : store.attestations image = unsorted := by
    rw [Store.attestations_refileAll read image]
    exact (List.nil_append _).trans (List.filter_eq_self.mpr named)
  obtain ⟨after, loaded, saved, reloads, _, _, sorted⟩ :=
    saveStore_reload (by rfl : ({} : Files).locate "attestations.json" = some ["attestations.json"])
      (by rfl) (Store.ofList_filed read)
  refine ⟨image, store, after, loaded, filed, saved, reloads store, ?_⟩
  rw [← filed]
  exact sorted image

theorem saveStore_congr {store other : Store} (same : other.document = store.document)
    (path : Option String) :
    saveStore Files.access path other = saveStore Files.access path store := by
  cases path with
  | none => rfl
  | some path => simp only [saveStore, same]

/-- A store in which every attestation stands under the image that it states is kept in the same list,
in whatever order its images are gone through. Once the file is read again and kept, whatever the order
then, the list and the file are the same as before. -/
theorem saveStore_stable {store : Store} (filed : store.Filed) :
    (∀ other : Store, other.entries.Perm store.entries → other.toList = store.toList ∧
      ∀ path, saveStore Files.access path other = saveStore Files.access path store) ∧
    ∀ files path after, saveStore Files.access (some path) store files = (.ok (), after) →
      (Entry.content? (after.look path)).bind Store.readDocument? = some store.toList ∧
      ∃ loaded : Store, (∀ held : Store, held.reload path (after.look path) = (.ok (), loaded)) ∧
        ∀ other : Store, other.entries.Perm loaded.entries → other.toList = store.toList ∧
          saveStore Files.access (some path) other after = (.ok (), after) := by
  constructor
  · intro other perm
    refine ⟨filed.toList_perm_entries perm, fun path => ?_⟩
    exact saveStore_congr (filed.document_perm_entries perm) path
  · intro files path after saved
    have written := saveStore_ok_iff.mp saved
    obtain ⟨loaded, reloads, again, same⟩ := filed.reload_document_toList path
    rw [Files.look_write written]
    refine ⟨store.readDocument_document, loaded, reloads, fun other perm => ?_⟩
    have listed : other.toList = store.toList := (again.toList_perm_entries perm).trans same
    refine ⟨listed, saveStore_ok_iff.mpr ?_⟩
    rw [Store.document, listed, ← Store.document]
    exact Files.write_again written

def paired : Store :=
  let digest := "sha256:73d506a23331fce5cb6f49bfb4c27450d2ef4878efce89f03a46b27372a88430"
  let tool : SignedAttestation :=
    { checkName := "diy", image := "gcr.io/project/tool@" ++ digest, body := "", signature := "",
      keyId := "0x1" }
  { entries := [({ name := "docker.io/library/app", digest }, unsorted),
      ({ name := "gcr.io/project/tool", digest }, [tool, tool])] }

theorem saveStore_stable_paired :
    let turned : Store := { entries := paired.entries.reverse }
    turned ≠ paired ∧ turned.toList = paired.toList ∧
    ∃ after loaded,
      saveStore Files.access (some "attestations.json") paired ({} : Files) = (.ok (), after) ∧
      paired.reload "attestations.json" (after.look "attestations.json") = (.ok (), loaded) ∧
      loaded.toList = paired.toList ∧
      saveStore Files.access (some "attestations.json") loaded after = (.ok (), after) := by
  intro turned
  have apart : (paired.entries.map (·.1)).Nodup := by decide
  have filed : paired.Filed := Store.filed_iff.mpr ⟨apart, by decide +kernel⟩
  have differ : turned.entries.map (·.1.name) ≠ paired.entries.map (·.1.name) := by decide
  obtain ⟨independent, stable⟩ := saveStore_stable filed
  have located : ({} : Files).locate "attestations.json" = some ["attestations.json"] := rfl
  obtain ⟨after, written⟩ := Files.write_exists located rfl (Text.encode paired.document)
  have saved := saveStore_ok_iff.mpr written
  obtain ⟨_, loaded, reloads, again⟩ := stable _ _ _ saved
  obtain ⟨listed, kept⟩ := again loaded (.refl _)
  refine ⟨fun same => differ (by rw [same]), (independent turned (List.reverse_perm _)).1, ?_⟩
  exact ⟨after, loaded, saved, reloads paired, listed, kept⟩

end Attestor.CommandLine
