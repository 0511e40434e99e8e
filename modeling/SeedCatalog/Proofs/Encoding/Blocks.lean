import SeedCatalog.Encoding.Basic
import SeedCatalog.Proofs.Encoding.Utf8

/-!
# Decoding block by block

A file that is read line by line is decoded block by block, and the bytes of a
character that a block cuts are put in front of the next block.  The blocks
together are a text exactly if the bytes as a whole are one.
-/

namespace SeedCatalog.Encoding

/-! ## Cutting bytes into blocks -/

/-- The blocks put together are the bytes. -/
theorem flatten_blocksFrom (size : Nat) (block : Bytes) (lacks : Nat) (bytes : Bytes) :
    (blocksFrom size block lacks bytes).flatten = block.reverse ++ bytes := by
  induction bytes generalizing block lacks with
  | nil => cases lacks <;> simp [blocksFrom]
  | cons b rest ih => cases lacks <;> simp [blocksFrom, ih]

/-! ## Decoding in two parts -/

variable {encoding : Encoding}

/-- What a block is decoded to, if it can be decoded; the place of a fault is left aside. -/
def decoded? (encoding : Encoding) (bytes : Bytes) : Option (Text × Bytes) :=
  (encoding.decodeBlock bytes).toOption

theorem decoded?_eq_some_iff {bytes : Bytes} {decoded : Text × Bytes} :
    encoding.decoded? bytes = some decoded ↔ encoding.decodeBlock bytes = .ok decoded := by
  rw [decoded?]
  cases encoding.decodeBlock bytes <;> simp [Except.toOption]

theorem toOption_decodeBytes (encoding : Encoding) (position : Nat) (bytes : Bytes) :
    (decodeBytes encoding position bytes).toOption = bytes.mapM encoding.charOfByte? := by
  induction bytes generalizing position with
  | nil => rfl
  | cons b rest ih =>
      rw [decodeBytes, List.mapM_cons, ← ih (position + 1)]
      cases encoding.charOfByte? b with
      | none => rfl
      | some c => cases decodeBytes encoding (position + 1) rest <;> rfl

/-- In an encoding of one byte a character the bytes are decoded one by one. -/
theorem decoded?_of_ne_utf8 (single : encoding ≠ .utf8) (bytes : Bytes) :
    encoding.decoded? bytes = (bytes.mapM encoding.charOfByte?).map (·, []) := by
  have block : encoding.decodeBlock bytes =
      (decodeBytes encoding 0 bytes).map fun text => (text, []) := by
    cases encoding <;> first | contradiction | rfl
  rw [decoded?, block, ← toOption_decodeBytes encoding 0]
  cases decodeBytes encoding 0 bytes <;> rfl

theorem decoded?_utf8 (bytes : Bytes) :
    Encoding.utf8.decoded? bytes =
      if (Utf8.decode bytes).fault = none then
        some ((Utf8.decode bytes).text, (Utf8.decode bytes).rest)
      else none := by
  simp only [decoded?, decodeBlock]
  cases (Utf8.decode bytes).fault <;> rfl

/-- Behind a part that is decoded, decoding goes on from the bytes that it leaves over. -/
theorem decoded?_append {first : Bytes} {text : Text} {left : Bytes}
    (read : encoding.decoded? first = some (text, left)) (second : Bytes) :
    encoding.decoded? (first ++ second) =
      (encoding.decoded? (left ++ second)).map fun decoded => (text ++ decoded.1, decoded.2) := by
  by_cases single : encoding = .utf8
  · subst single
    rw [decoded?_utf8] at read
    split at read
    · rename_i faultless
      cases read
      have goesOn := Utf8.decodeFrom_append Utf8.isReached_none faultless second
      rw [decoded?_utf8, decoded?_utf8, Utf8.decode, Utf8.decode, goesOn]
      simp only [Utf8.Decoded.prepend, apply_ite (Option.map _), Option.map_some, Option.map_none]
      rfl
    · contradiction
  · rw [decoded?_of_ne_utf8 single, Option.map_eq_some_iff] at read
    obtain ⟨whole, read, same⟩ := read
    cases same
    rw [decoded?_of_ne_utf8 single, decoded?_of_ne_utf8 single, List.mapM_append, read,
      List.nil_append]
    cases second.mapM encoding.charOfByte? <;> rfl

/-- What cannot be decoded cannot be decoded either with bytes behind it. -/
theorem decoded?_append_of_eq_none {first : Bytes} (failed : encoding.decoded? first = none)
    (second : Bytes) : encoding.decoded? (first ++ second) = none := by
  by_cases single : encoding = .utf8
  · subst single
    rw [decoded?_utf8, ite_eq_right_iff] at failed
    have faulty : (Utf8.decodeFrom none first).fault ≠ none := fun faultless => by
      simpa using failed faultless
    rw [decoded?_utf8, Utf8.decode, Utf8.decodeFrom_append_of_fault faulty, if_neg faulty]
  · rw [decoded?_of_ne_utf8 single, Option.map_eq_none_iff] at failed
    rw [decoded?_of_ne_utf8 single, List.mapM_append, failed]
    rfl

/-- The bytes that are left over are left over again. -/
theorem decoded?_left {bytes : Bytes} {text : Text} {left : Bytes}
    (read : encoding.decoded? bytes = some (text, left)) :
    encoding.decoded? left = some ([], left) := by
  have again := decoded?_append read []
  rw [List.append_nil, List.append_nil, read] at again
  cases behind : encoding.decoded? left with
  | none => simp [behind] at again
  | some decoded =>
      simp only [behind, Option.map_some, Option.some.injEq, Prod.mk.injEq] at again
      obtain ⟨same, rest⟩ := again
      have nothing : decoded.1 = [] := by simpa using same
      rw [Option.some.injEq, Prod.ext_iff]
      exact ⟨nothing, rest.symm⟩

/-! ## Blocks and the whole -/

/-- Blocks that can be decoded to the end are a text, and only they have no error. -/
theorem decodeBlocks_eq {left : Bytes} (blocks : List Bytes)
    (again : encoding.decoded? left = some ([], left)) :
    (∀ text, encoding.decoded? (left ++ blocks.flatten) = some (text, []) →
        decodeBlocks encoding left blocks = (text, none)) ∧
      ((decodeBlocks encoding left blocks).2 = none →
        ∃ text, encoding.decoded? (left ++ blocks.flatten) = some (text, [])) := by
  induction blocks generalizing left with
  | nil =>
      rw [List.flatten_nil, List.append_nil, again]
      constructor
      · rintro text ⟨⟩
        rfl
      · intro faultless
        cases left with
        | nil => exact ⟨[], rfl⟩
        | cons b rest => simp [decodeBlocks] at faultless
  | cons block blocks ih =>
      rw [List.flatten_cons, ← List.append_assoc, decodeBlocks]
      cases read : encoding.decodeBlock (left ++ block) with
      | error error =>
          have failed : encoding.decoded? (left ++ block) = none := by
            rw [decoded?, read]
            rfl
          rw [decoded?_append_of_eq_none failed]
          simp
      | ok decoded =>
          obtain ⟨text, left'⟩ := decoded
          have read := decoded?_eq_some_iff.2 read
          obtain ⟨whole, faultless⟩ := ih (decoded?_left read)
          rw [decoded?_append read]
          simp only [Option.map_eq_some_iff, Prod.mk.injEq]
          constructor
          · rintro _ ⟨⟨more, rest⟩, goesOn, rfl, rfl⟩
            rw [whole more goesOn]
            exact ⟨rfl, rfl⟩
          · intro none
            obtain ⟨more, goesOn⟩ := faultless none
            exact ⟨text ++ more, (more, []), goesOn, rfl, rfl⟩

theorem decode_eq_ok_iff {bytes : Bytes} {text : Text} :
    encoding.decode bytes = .ok text ↔ encoding.decoded? bytes = some (text, []) := by
  rw [decoded?_eq_some_iff, decode]
  split
  · rename_i read
    simp [read]
  · rename_i read
    simp [read]
  · rename_i rest filled read
    simp only [read, Except.ok.injEq, Prod.mk.injEq, reduceCtorEq, false_iff, not_and]
    exact fun _ => filled

theorem decoded?_nil (encoding : Encoding) : encoding.decoded? [] = some ([], []) := by
  cases encoding <;> rfl

/-- Bytes that are a text are decoded to the end. -/
theorem decodeInBlocks_of_decode {bytes : Bytes} {text : Text}
    (read : encoding.decode bytes = .ok text) : encoding.decodeInBlocks bytes = (text, none) := by
  have blocks := (decodeBlocks_eq (blocksFrom blockSize [] blockSize bytes) encoding.decoded?_nil).1
  rw [flatten_blocksFrom, List.reverse_nil, List.nil_append, List.nil_append] at blocks
  exact blocks text (decode_eq_ok_iff.1 read)

/-- Bytes that are decoded to the end are a text. -/
theorem exists_decode_of_decodeInBlocks {bytes : Bytes}
    (faultless : (encoding.decodeInBlocks bytes).2 = none) :
    ∃ text, encoding.decode bytes = .ok text := by
  have blocks := (decodeBlocks_eq (blocksFrom blockSize [] blockSize bytes) encoding.decoded?_nil).2
  rw [flatten_blocksFrom, List.reverse_nil, List.nil_append, List.nil_append] at blocks
  simp only [decode_eq_ok_iff]
  exact blocks faultless

theorem snd_readLines (encoding : Encoding) (bytes : Bytes) :
    (encoding.readLines bytes).2 = (encoding.decodeInBlocks bytes).2 := by
  rw [readLines]
  split <;> rename_i decoded <;> rw [decoded]

theorem snd_readLinesAsGiven (encoding : Encoding) (bytes : Bytes) :
    (encoding.readLinesAsGiven bytes).2 = (encoding.decodeInBlocks bytes).2 := by
  rw [readLinesAsGiven]
  split <;> rename_i decoded <;> rw [decoded]

/-- The lines of bytes that are a text are the lines of the text. -/
theorem readLines_of_decode {bytes : Bytes} {text : Text}
    (read : encoding.decode bytes = .ok text) :
    encoding.readLines bytes = ((Text.unifyLineEnds text).lines, none) := by
  rw [readLines, decodeInBlocks_of_decode read]

theorem readLinesAsGiven_of_decode {bytes : Bytes} {text : Text}
    (read : encoding.decode bytes = .ok text) :
    encoding.readLinesAsGiven bytes = (text.lines, none) := by
  rw [readLinesAsGiven, decodeInBlocks_of_decode read]

/-- Bytes without a fault are a text. -/
theorem exists_decode_of_readLines {bytes : Bytes}
    (faultless : (encoding.readLines bytes).2 = none) :
    ∃ text, encoding.decode bytes = .ok text :=
  exists_decode_of_decodeInBlocks (encoding.snd_readLines bytes ▸ faultless)

/-- The bytes of a text in UTF-8 are decoded to the text. -/
theorem decode_utf8_encode (text : Text) : Encoding.utf8.decode (Utf8.encode text) = .ok text := by
  rw [decode_eq_ok_iff, decoded?_utf8, Utf8.decode_encode]
  rfl

end SeedCatalog.Encoding
