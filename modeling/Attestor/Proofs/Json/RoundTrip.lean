import Attestor.Json.Reader
import Attestor.Proofs.Json.Literal
import Attestor.Proofs.Text.Utf8

namespace Attestor.Json

mutual

def spelled : Json → List Token → List Token
  | .null, after => .null :: after
  | .bool value, after => .bool value :: after
  | .num numeral, after => .num numeral :: after
  | .str text, after => .str text :: after
  | .arr [], after => .openArray :: .closeArray :: after
  | .arr (item :: rest), after =>
    .openArray :: spelled item (spelledItems rest (.closeArray :: after))
  | .obj [], after => .openObject :: .closeObject :: after
  | .obj ((key, value) :: rest), after =>
    .openObject :: .str key :: .colon ::
      spelled value (spelledMembers rest (.closeObject :: after))

def spelledItems : List Json → List Token → List Token
  | [], after => after
  | item :: rest, after => .comma :: spelled item (spelledItems rest after)

def spelledMembers : List (Text × Json) → List Token → List Token
  | [], after => after
  | (key, value) :: rest, after =>
    .comma :: .str key :: .colon :: spelled value (spelledMembers rest after)

end

def Lexed (pieces : List Piece) (tokens : List Token) : Prop :=
  ∀ steps, pieces.length ≤ steps → tokensWithin steps pieces = some tokens

namespace Lexed

variable {pieces : List Piece} {tokens : List Token}

theorem nil : Lexed [] [] := by
  intro steps _
  cases steps <;> rfl

theorem blank {c : Char} (empty : isBlank c = true) (later : Lexed pieces tokens) :
    Lexed (.char c :: pieces) tokens := by
  intro steps enough
  cases steps with
  | zero => cases enough
  | succ steps =>
    rw [tokensWithin, if_pos empty]
    exact later steps (Nat.le_of_succ_le_succ enough)

theorem word {c : Char} {more : List Piece} {token : Token} (full : isBlank c = false)
    (first : token? (.char c :: more) = some (token, pieces)) (ending : pieces <:+ more)
    (later : Lexed pieces tokens) : Lexed (.char c :: more) (token :: tokens) := by
  intro steps enough
  cases steps with
  | zero => cases enough
  | succ steps =>
    have left : pieces.length ≤ steps := 
      Nat.le_trans ending.length_le (Nat.le_of_succ_le_succ enough)
    simp only [tokensWithin, full, first, later steps left, Bool.false_eq_true, ↓reduceIte,
      Option.map_some]

theorem blanks {count : Nat} (later : Lexed pieces tokens) :
    Lexed ((List.replicate count ' ').map .char ++ pieces) tokens := by
  induction count with
  | zero => exact later
  | succ count ih => exact blank rfl ih

theorem ending {blanks : List Char} (empty : ∀ c ∈ blanks, isBlank c = true) :
    Lexed (blanks.map .char) [] := by
  induction blanks with
  | nil => exact nil
  | cons c rest ih =>
    obtain ⟨first, others⟩ := List.forall_mem_cons.mp empty
    exact blank first (ih others)

theorem lineBreak (layout : Layout) (level : Nat) (later : Lexed pieces tokens) :
    Lexed ((layout.lineBreak level).map .char ++ pieces) tokens := by
  cases layout with
  | compact => exact later
  | pretty => exact blank rfl (blanks later)

theorem colon (layout : Layout) (later : Lexed pieces tokens) :
    Lexed (layout.colon.map .char ++ pieces) (.colon :: tokens) := by
  cases layout with
  | compact => exact word rfl rfl List.suffix_rfl later
  | pretty => exact word rfl rfl List.suffix_rfl (blank rfl later)

theorem literal (text : Text) (later : Lexed pieces tokens) :
    Lexed ((Json.literal text).map .char ++ pieces) (.str text :: tokens) := by
  obtain ⟨inside, opens, read⟩ := stringLiteral_literal text
  rw [opens, List.map_cons, List.cons_append]
  refine word rfl ?_ (List.suffix_append ..) later
  simp only [token?, read, Option.map_some]

end Lexed

mutual

theorem lexed_write (layout : Layout) (level : Nat) (value : Json)
    (plain : value.sound (fun _ => false) = true) {pieces : List Piece} {tokens : List Token}
    (later : Lexed pieces tokens) :
    Lexed ((write layout level value).map .char ++ pieces) (spelled value tokens) := by
  match value with
  | .null =>
    change Lexed (.char 'n' :: .char 'u' :: .char 'l' :: .char 'l' :: pieces) _
    exact .word rfl rfl (List.suffix_append (['u', 'l', 'l'].map Piece.char) _) later
  | .bool true =>
    change Lexed (.char 't' :: .char 'r' :: .char 'u' :: .char 'e' :: pieces) _
    exact .word rfl rfl (List.suffix_append (['r', 'u', 'e'].map Piece.char) _) later
  | .bool false =>
    change Lexed (.char 'f' :: .char 'a' :: .char 'l' :: .char 's' :: .char 'e' :: pieces) _
    exact .word rfl rfl (List.suffix_append (['a', 'l', 's', 'e'].map Piece.char) _) later
  | .num numeral => cases plain
  | .str text => exact .literal text later
  | .arr [] => exact .word rfl rfl List.suffix_rfl (.word rfl rfl List.suffix_rfl later)
  | .arr (item :: rest) =>
    simp only [sound, soundItems, Bool.and_eq_true] at plain
    simp only [write, spelled, List.map_append, List.map_cons, List.map_nil, List.append_assoc,
      List.cons_append, List.nil_append]
    refine .word rfl rfl List.suffix_rfl (.lineBreak layout _ ?_)
    refine lexed_write layout _ item plain.1 (lexed_writeItems layout _ rest plain.2 ?_)
    exact .lineBreak layout _ (.word rfl rfl List.suffix_rfl later)
  | .obj [] => exact .word rfl rfl List.suffix_rfl (.word rfl rfl List.suffix_rfl later)
  | .obj ((key, value) :: rest) =>
    simp only [sound, soundMembers, Bool.and_eq_true] at plain
    simp only [write, spelled, List.map_append, List.map_cons, List.map_nil, List.append_assoc,
      List.cons_append, List.nil_append]
    refine .word rfl rfl List.suffix_rfl (.lineBreak layout _ (.literal key (.colon layout ?_)))
    refine lexed_write layout _ value plain.1.2 (lexed_writeMembers layout _ rest plain.2 ?_)
    exact .lineBreak layout _ (.word rfl rfl List.suffix_rfl later)

theorem lexed_writeItems (layout : Layout) (level : Nat) (items : List Json)
    (plain : soundItems (fun _ => false) items = true) {pieces : List Piece} {tokens : List Token}
    (later : Lexed pieces tokens) :
    Lexed ((writeItems layout level items).map .char ++ pieces) (spelledItems items tokens) := by
  match items with
  | [] => exact later
  | item :: rest =>
    simp only [soundItems, Bool.and_eq_true] at plain
    simp only [writeItems, spelledItems, List.map_append, List.map_cons, List.append_assoc,
      List.cons_append]
    refine .word rfl rfl List.suffix_rfl (.lineBreak layout _ ?_)
    exact lexed_write layout _ item plain.1 (lexed_writeItems layout _ rest plain.2 later)

theorem lexed_writeMembers (layout : Layout) (level : Nat) (members : List (Text × Json))
    (plain : soundMembers (fun _ => false) members = true) {pieces : List Piece}
    {tokens : List Token} (later : Lexed pieces tokens) :
    Lexed ((writeMembers layout level members).map .char ++ pieces)
      (spelledMembers members tokens) := by
  match members with
  | [] => exact later
  | (key, value) :: rest =>
    simp only [soundMembers, Bool.and_eq_true] at plain
    simp only [writeMembers, spelledMembers, List.map_append, List.map_cons, List.append_assoc,
      List.cons_append]
    refine .word rfl rfl List.suffix_rfl (.lineBreak layout _ (.literal key (.colon layout ?_)))
    exact lexed_write layout _ value plain.1.2 (lexed_writeMembers layout _ rest plain.2 later)

end

theorem read_opened (value : Json) (held : List Json) (stack : List Frame) (after : List Token) :
    (spelled value after).foldlM Reading.step (.opened (.items held :: stack)) =
      (spelled value after).foldlM Reading.step (.value (.items held :: stack)) := by
  match value with
  | .null | .bool _ | .num _ | .str _ | .arr [] | .obj [] => rfl
  | .arr (_ :: _) | .obj ((_, _) :: _) => rfl

mutual

/-- The words of a value are read as the value. -/
theorem read_spelled (value : Json) (stack : List Frame) (after : List Token) :
    (spelled value after).foldlM Reading.step (.value stack) =
      (Reading.feed value stack).bind fun reading => after.foldlM Reading.step reading := by
  match value with
  | .null | .bool _ | .num _ | .str _ | .arr [] | .obj [] => rfl
  | .arr (item :: rest) =>
    change (spelled item _).foldlM Reading.step (.opened (.items [] :: stack)) = _
    rw [read_opened, read_spelled item]
    exact read_spelledItems rest [item] stack after
  | .obj ((key, value) :: rest) =>
    change (spelled value _).foldlM Reading.step (.value (.member [] key :: stack)) = _
    rw [read_spelled value]
    exact read_spelledMembers rest [(key, value)] stack after

theorem read_spelledItems (items held : List Json) (stack : List Frame) (after : List Token) :
    (spelledItems items (.closeArray :: after)).foldlM Reading.step (.next (.items held :: stack)) =
      (Reading.feed (.arr (held.reverse ++ items)) stack).bind fun reading =>
        after.foldlM Reading.step reading := by
  match items with
  | [] =>
    rw [List.append_nil]
    rfl
  | item :: rest =>
    change (spelled item _).foldlM Reading.step (.value (.items held :: stack)) = _
    rw [read_spelled item, List.append_cons, ← List.reverse_cons]
    exact read_spelledItems rest (item :: held) stack after

theorem read_spelledMembers (members held : List (Text × Json)) (stack : List Frame)
    (after : List Token) :
    (spelledMembers members (.closeObject :: after)).foldlM Reading.step
        (.next (.members held :: stack)) =
      (Reading.feed (.obj (held.reverse ++ members)) stack).bind fun reading =>
        after.foldlM Reading.step reading := by
  match members with
  | [] =>
    rw [List.append_nil]
    rfl
  | (key, value) :: rest =>
    change (spelled value _).foldlM Reading.step (.value (.member held key :: stack)) = _
    rw [read_spelled value, List.append_cons, ← List.reverse_cons]
    exact read_spelledMembers rest ((key, value) :: held) stack after

end

variable {value : Json}

theorem parse_write_blanks (layout : Layout) (plain : value.sound (fun _ => false) = true)
    {blanks : List Char} (empty : ∀ c ∈ blanks, isBlank c = true) :
    parse? ((write layout 0 value ++ blanks).map .char) = some value := by
  have lexed := lexed_write layout 0 value plain (Lexed.ending empty)
  rw [← List.map_append] at lexed
  rw [parse?, tokens?, lexed _ (Nat.le_refl _), Option.bind_some, ofTokens?, read_spelled]
  rfl

theorem parse_write (layout : Layout) (plain : value.sound (fun _ => false) = true) :
    parse? ((write layout 0 value).map .char) = some value := by
  have read := parse_write_blanks layout plain (List.forall_mem_nil _)
  rwa [List.append_nil] at read

theorem ofString_compact (plain : value.sound (fun _ => false) = true) :
    ofString? value.compact = some value := by
  rw [ofString?, Attestor.Text.ofString, compact, String.toList_ofList]
  exact parse_write .compact plain

theorem ofString_pretty (plain : value.sound (fun _ => false) = true) :
    ofString? value.pretty = some value := by
  rw [ofString?, Attestor.Text.ofString, pretty, String.toList_ofList]
  exact parse_write .pretty plain

theorem ofString_line (plain : value.sound (fun _ => false) = true) :
    ofString? (value.pretty ++ "\n") = some value := by
  have blank : ∀ c ∈ "\n".toList, isBlank c = true := by simp [isBlank]
  rw [ofString?, Attestor.Text.ofString, pretty, String.toList_append, String.toList_ofList]
  exact parse_write_blanks .pretty plain blank

theorem ofBytes_encode (text : String) : ofBytes? (Attestor.Text.encode text) = ofString? text := by
  rw [ofBytes?, Attestor.Text.pieces_encode]
  rfl

theorem ofBytes_pretty (plain : value.sound (fun _ => false) = true) :
    ofBytes? (Attestor.Text.encode value.pretty) = some value :=
  (ofBytes_encode value.pretty).trans (ofString_pretty plain)

end Attestor.Json
