import Attestor.Evidence.Documents
import Attestor.Proofs.Results

namespace Attestor

open Results

theorem Entry.document_ok_iff {α : Type} {path : String} {entry : Option Entry}
    {read? : List UInt8 → Option α} {document : α} :
    Entry.document path entry read? = .ok document ↔
      ∃ content, entry = some (.file content) ∧ read? content = some document := by
  constructor
  · intro read
    rw [Entry.document] at read
    split at read
    · cases read
    · rename_i content held
      split at read
      · rename_i found
        cases read
        refine ⟨content, ?_, found⟩
        cases entry with
        | none => cases held
        | some entry =>
          cases entry with
          | file bytes =>
            cases held
            rfl
          | other => cases held
      · cases read
  · intro given
    obtain ⟨content, rfl, read⟩ := given
    simp only [Entry.document, Entry.content?, read]

theorem Entry.document_error_iff {α : Type} {path : String} {entry : Option Entry}
    {read? : List UInt8 → Option α} {error : Error} :
    Entry.document path entry read? = .error error ↔
      (∀ content, entry ≠ some (.file content)) ∧ error = .offlineEvidence path .unreadable ∨
      ∃ content, entry = some (.file content) ∧ read? content = none ∧
        error = .offlineEvidence path .malformed := by
  rcases entry with _ | content | _
  · simp [Entry.document, Entry.content?, eq_comm]
  · cases found : read? content <;> simp [Entry.document, Entry.content?, found, eq_comm]
  · simp [Entry.document, Entry.content?, eq_comm]

theorem Entry.document_bind_ok_iff {α β ε : Type} {path : String} {entry : Option Entry}
    {read? : List UInt8 → Option α} {next : α → Except ε β} {cause : ε → Error} {b : β} :
    (Entry.document path entry read? >>= fun document => (next document).mapError cause) = .ok b ↔
      ∃ content document, entry = some (.file content) ∧ read? content = some document ∧
        next document = .ok b := by
  simp only [bind_ok_iff, mapError_ok_iff, document_ok_iff]
  constructor
  · intro given
    obtain ⟨document, ⟨content, file, read⟩, made⟩ := given
    exact ⟨content, document, file, read, made⟩
  · intro given
    obtain ⟨content, document, file, read, made⟩ := given
    exact ⟨document, ⟨content, file, read⟩, made⟩

theorem Catalogue.ofFile_ok_iff {path : String} {entry : Option Entry} {catalogue : Catalogue} :
    ofFile path entry = .ok catalogue ↔ ∃ bytes entries, entry = some (.file bytes) ∧
      readDocument? bytes = some entries ∧ ofEntries entries = .ok catalogue :=
  Entry.document_bind_ok_iff

theorem Store.ofFile_ok_iff {path : String} {entry : Option Entry} {store : Store} :
    ofFile path entry = .ok store ↔ ∃ bytes list, entry = some (.file bytes) ∧
      readDocument? bytes = some list ∧ ofList list = .ok store :=
  Entry.document_bind_ok_iff

end Attestor
