import Attestor.OpenPgp.Armor
import Attestor.Proofs.Text.Base64
import Attestor.Proofs.Text.Utf8

namespace Attestor.OpenPgp

namespace Armor

open Base64

theorem lines_append {first : List Char} (rest : List Char) (plain : '\n' ∉ first) :
    lines (first ++ '\n' :: rest) = first :: lines rest := by
  have go (line : List Char) :
      lines.go line (first ++ '\n' :: rest) = (line.reverse ++ first) :: lines rest := by
    induction first generalizing line with
    | nil => simp [lines.go, lines]
    | cons c first ih =>
      obtain ⟨different, tail⟩ := not_or.mp (mt List.mem_cons.mpr plain)
      rw [List.cons_append, lines.go, if_neg (Ne.symm different), ih tail]
      simp
  exact go []

theorem go_ne_nil (line text : List Char) : lines.go line text ≠ [] := by
  induction text generalizing line with
  | nil => simp [lines.go]
  | cons c text ih =>
    rw [lines.go]
    split
    · simp
    · exact ih (c :: line)

theorem intercalate_lines (text : List Char) : ['\n'].intercalate (lines text) = text := by
  have go (line : List Char) : ['\n'].intercalate (lines.go line text) = line.reverse ++ text := by
    induction text generalizing line with
    | nil => simp [lines.go]
    | cons c text ih =>
      rw [lines.go]
      split
      · rename_i same
        rw [List.intercalate_cons_of_ne_nil (go_ne_nil [] text), ih, same]
        simp
      · rw [ih]
        simp
  exact go []

theorem not_blank {c : Char} (written : (digit? c).isSome ∨ c = '=') : isBlank c = false := by
  refine Bool.eq_false_iff.mpr fun blank => ?_
  simp only [isBlank, Bool.or_eq_true, beq_iff_eq] at blank
  rcases blank with ((rfl | rfl) | rfl) | rfl <;> revert written <;> decide

theorem data_break (text : List Char) : data [] ('\n' :: text) = data [] text := rfl

theorem data_group {a b c d : Char} {bytes : List UInt8} (text : List Char)
    (group : group? a b c d = some bytes) :
    data [] (a :: b :: c :: d :: text) = (bytes ++ (data [] text).1, (data [] text).2) := by
  obtain ⟨first, second, third, fourth⟩ := group_cases group
  have more : ((digit? c).isSome || c == '=') = true := by simpa using third
  simp [data, not_blank (.inl first), not_blank (.inl second), not_blank third, not_blank fourth,
    first, second, more, group]

theorem data_encode (bytes : List UInt8) (text : List Char) :
    data [] (encode bytes ++ text) = (bytes ++ (data [] text).1, (data [] text).2) := by
  fun_induction encode bytes with
  | case1 => rfl
  | case2 a n => exact data_group text (group_one a)
  | case3 a b n => exact data_group text (group_two a b)
  | case4 a b c rest n ih =>
    simp only [List.cons_append]
    rw [data_group _ (group_three a b c), ih]
    rfl

theorem data_wrapWithin (steps : Nat) (bytes : List UInt8) (text : List Char) :
    data [] ((wrapWithin steps 64 (encode bytes)).flatMap (· ++ ['\n']) ++ text) =
      (bytes ++ (data [] text).1, (data [] text).2) := by
  have alone (bytes : List UInt8) :
      data [] ([encode bytes].flatMap (· ++ ['\n']) ++ text) =
        (bytes ++ (data [] text).1, (data [] text).2) := by
    simp only [List.flatMap_singleton, List.append_assoc, List.singleton_append, data_encode,
      data_break]
  induction steps generalizing bytes with
  | zero => exact alone bytes
  | succ steps ih =>
    rw [wrapWithin]
    split
    · exact alone bytes
    · rename_i long
      rw [length_encode] at long
      -- A full line is sixteen whole groups, so what follows is encoded on its own.
      have front : (bytes.take 48).length = 3 * 16 := by
        rw [List.length_take]
        omega
      have line : (encode (bytes.take 48)).length = 64 := by rw [length_encode, front]
      have split : encode bytes = encode (bytes.take 48) ++ encode (bytes.drop 48) := by
        rw [← encode_append front, List.take_append_drop]
      rw [split, List.take_left' line, List.drop_left' line]
      simp only [List.flatMap_cons, List.append_assoc, List.cons_append, List.nil_append,
        data_encode, data_break, ih]
      rw [← List.append_assoc, List.take_append_drop]

def header (armor : Armor) : List Char :=
  "-----BEGIN PGP ".toList ++ armor.label.toList ++ "-----".toList

def footer (armor : Armor) : List Char :=
  "-----END PGP ".toList ++ armor.label.toList ++ "-----\n".toList

def body (bytes : List UInt8) : List Char :=
  (wrapWithin (encode bytes).length 64 (encode bytes)).flatMap (· ++ ['\n'])

theorem breaks : "-----\n\n".toList = "-----".toList ++ ['\n', '\n'] := by decide

theorem toList_write (armor : Armor) (bytes : List UInt8) :
    (write armor bytes).toList =
      armor.header ++ '\n' :: '\n' :: (body bytes ++ armor.footer) := by
  delta write header footer body
  dsimp only
  simp only [String.toList_append, String.toList_ofList, breaks, List.append_assoc,
    List.cons_append, List.nil_append]

theorem read_write (armor : Armor) (bytes : List UInt8) :
    read? (write armor bytes).toList = some (bytes, ['\n']) := by
  have plain : '\n' ∉ armor.header := by cases armor <;> decide
  have opened (rest : List (List Char)) :
      open? (armor.header :: rest) = some { armor, quote := [], lines := [] :: rest } := by
    cases armor <;> rfl
  have closed : delimiter? "END PGP " armor.footer = some (armor, ['\n']) := by
    cases armor <;> decide
  have stop : data [] armor.footer = ([], armor.footer) := by cases armor <;> decide
  have kept : (afterChecksum armor.footer).dropWhile isBlank = armor.footer := by
    cases armor <;> decide
  have unquoted (texts : List (List Char)) : texts.mapM (unquote? []) = some texts := by
    induction texts with
    | nil => rfl
    | cons text texts ih =>
      rw [List.mapM_cons, ih]
      rfl
  have blank (rest : List Char) : lines ('\n' :: rest) = [] :: lines rest := rfl
  have begun (rest : List (List Char)) : afterKeys false ([] :: rest) = rest := rfl
  have content : data [] (body bytes ++ armor.footer) = (bytes, armor.footer) := by
    rw [body, data_wrapWithin, stop, List.append_nil]
  simp only [read?, toList_write, lines_append _ plain, blank, opened,
    Option.bind_eq_bind, Option.bind_some, List.tail_cons, List.head?_cons, Option.getD_some,
    unquoted, List.all_nil, if_true, begun, intercalate_lines, content, kept, closed]
  rfl

theorem ascii_wrapWithin {steps width : Nat} {text : List Char} (ascii : ∀ c ∈ text, c.toNat < 128) :
    ∀ line ∈ wrapWithin steps width text, ∀ c ∈ line, c.toNat < 128 := by
  fun_induction wrapWithin steps width text with
  | case1 => simpa using ascii
  | case2 => simpa using ascii
  | case3 width text steps long ih =>
    refine List.forall_mem_cons.mpr ⟨fun c member => ?_, ih fun c member => ?_⟩
    · exact ascii c (List.mem_of_mem_take member)
    · exact ascii c (List.mem_of_mem_drop member)

theorem ascii_write (armor : Armor) (bytes : List UInt8) :
    ∀ c ∈ (write armor bytes).toList, c.toNat < 128 := by
  have header : armor.header.all (fun c => c.toNat < 128) = true := by
    cases armor <;> decide
  have footer : armor.footer.all (fun c => c.toNat < 128) = true := by
    cases armor <;> decide
  intro c member
  simp only [toList_write, List.mem_append, List.mem_cons, body, List.mem_flatMap] at member
  rcases member with member | rfl | rfl | ⟨line, wrapped, member | rfl | none⟩ | member
  · simpa using List.all_eq_true.mp header c member
  · decide
  · decide
  · exact ascii_wrapWithin (encode_ascii bytes) line wrapped c member
  · decide
  · cases none
  · simpa using List.all_eq_true.mp footer c member

end Armor

namespace Packet

theorem characters_encode {text : String} (ascii : ∀ c ∈ text.toList, c.toNat < 128) :
    characters (Text.encode text) = text.toList := by
  rw [characters, Text.encode_eq_flatMap]
  generalize text.toList = characters at ascii ⊢
  induction characters with
  | nil => rfl
  | cons c rest ih =>
    obtain ⟨small, others⟩ := List.forall_mem_cons.mp ascii
    have code : c.toNat = c.val.toNat := rfl
    have byte : (UInt8.ofNat c.val.toNat).toNat = c.val.toNat := Text.byte_toNat (by omega)
    have one : String.utf8EncodeChar c = [UInt8.ofNat c.val.toNat] := by
      simp only [String.utf8EncodeChar]
      rw [if_pos (by omega)]
    rw [List.flatMap_cons, one, List.singleton_append, List.map_cons, ih others, byte]
    congr 1
    exact Char.ofNat_toNat c

structure Armored (text content : List UInt8) : Prop where
  unframed : header? text = none
  held : ∃ rest, Armor.read? (characters text) = some (content, rest)

theorem ofBlock_armored {text content : List UInt8} (armored : Armored text content) :
    ofBlock? text = readAll? content := by
  obtain ⟨rest, held⟩ := armored.held
  rw [ofBlock?, armored.unframed, held]
  rfl

theorem armored_write (armor : Armor) (bytes : List UInt8) :
    Armored (Text.encode (armor.write bytes)) bytes where
  unframed := by
    obtain ⟨rest, start⟩ : ∃ rest, armor.header = '-' :: rest := by
      cases armor <;> exact ⟨_, rfl⟩
    rw [Text.encode_eq_flatMap, Armor.toList_write, start, List.cons_append, List.flatMap_cons]
    rfl
  held := by
    rw [characters_encode (Armor.ascii_write armor bytes), Armor.read_write]
    exact ⟨_, rfl⟩

theorem ofBlock_write (armor : Armor) (bytes : List UInt8) :
    ofBlock? (Text.encode (armor.write bytes)) = readAll? bytes :=
  ofBlock_armored (armored_write armor bytes)

end Packet

end Attestor.OpenPgp
