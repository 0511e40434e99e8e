import SeedCatalog.Encoding.Utf8

/-!
# Reading UTF-8 part by part

Bytes may be read in two parts: the bytes that the first part leaves over are
put in front of the second.  Nothing that is at fault is mended by the bytes
behind it.
-/

namespace SeedCatalog.Utf8

/-! ## The bytes of a text -/

theorem toNat_ofNat_of_lt {n : Nat} (byte : n < 256) : (UInt8.ofNat n).toNat = n := by
  simp [UInt8.toNat_ofNat', Nat.mod_eq_of_lt byte]

/-- The number of a character is below the surrogates or beyond them. -/
theorem toNat_isScalar (c : Char) : c.toNat < 0xD800 ∨ 0xDFFF < c.toNat ∧ c.toNat < 0x110000 :=
  c.valid

/-- A first byte that stands for itself is a character. -/
theorem decodeFrom_single {b : UInt8} (small : b.toNat < 0x80) (rest : Bytes) :
    decodeFrom none (b :: rest) = (decodeFrom none rest).cons (Char.ofNat b.toNat) := by
  rw [decodeFrom, if_pos small]

theorem decodeFrom_open {b : UInt8} {opened : Opened} (large : ¬b.toNat < 0x80)
    (opens : open? b = some opened) (rest : Bytes) :
    decodeFrom none (b :: rest) = decodeFrom (some opened) rest := by
  rw [decodeFrom, if_neg large, opens]

/-- A byte that continues a character and does not finish it. -/
theorem decodeFrom_next {b : UInt8} {opened : Opened}
    (fits : opened.low ≤ b.toNat ∧ b.toNat ≤ opened.high) (more : opened.missing ≠ 1)
    (rest : Bytes) :
    decodeFrom (some opened) (b :: rest) =
      decodeFrom (some ⟨b :: opened.read, opened.missing - 1,
        opened.value * 0x40 + (b.toNat - 0x80), 0x80, 0xBF⟩) rest := by
  rw [decodeFrom, if_pos fits, if_neg more]

/-- The byte that finishes a character. -/
theorem decodeFrom_last {b : UInt8} {opened : Opened}
    (fits : opened.low ≤ b.toNat ∧ b.toNat ≤ opened.high) (last : opened.missing = 1)
    (rest : Bytes) :
    decodeFrom (some opened) (b :: rest) =
      (decodeFrom none rest).cons (Char.ofNat (opened.value * 0x40 + (b.toNat - 0x80))) := by
  rw [decodeFrom, if_pos fits, if_pos last]

/-- A further byte of a character, given its six bits. -/
theorem toNat_further {n : Nat} (bits : n < 0x40) : (UInt8.ofNat (0x80 + n)).toNat = 0x80 + n :=
  toNat_ofNat_of_lt (by omega)

theorem open?_two {b : UInt8} (fits : 0xC2 ≤ b.toNat ∧ b.toNat ≤ 0xDF) :
    open? b = some ⟨[b], 1, b.toNat - 0xC0, 0x80, 0xBF⟩ := by
  simp only [open?, if_pos fits]

theorem open?_three {b : UInt8} (fits : 0xE0 ≤ b.toNat ∧ b.toNat ≤ 0xEF) :
    open? b = some ⟨[b], 2, b.toNat - 0xE0, if b.toNat = 0xE0 then 0xA0 else 0x80,
      if b.toNat = 0xED then 0x9F else 0xBF⟩ := by
  simp only [open?]
  rw [if_neg (by omega), if_pos fits]

theorem open?_four {b : UInt8} (fits : 0xF0 ≤ b.toNat ∧ b.toNat ≤ 0xF4) :
    open? b = some ⟨[b], 3, b.toNat - 0xF0, if b.toNat = 0xF0 then 0x90 else 0x80,
      if b.toNat = 0xF4 then 0x8F else 0xBF⟩ := by
  simp only [open?]
  rw [if_neg (by omega), if_neg (by omega), if_pos fits]

/-- The bytes of a character are read as the character. -/
theorem decodeFrom_encodeChar (c : Char) (rest : Bytes) :
    decodeFrom none (encodeChar c ++ rest) = (decodeFrom none rest).cons c := by
  have scalar := toNat_isScalar c
  have whole : Char.ofNat c.toNat = c := Char.ofNat_toNat c
  unfold encodeChar
  generalize c.toNat = n at scalar whole
  simp only
  split
  case isTrue one =>
    have first : (UInt8.ofNat n).toNat = n := toNat_ofNat_of_lt (by omega)
    rw [List.singleton_append, decodeFrom_single (by omega), first, whole]
  case isFalse more =>
    split
    case isTrue two =>
      have first : (UInt8.ofNat (0xC0 + n / 0x40)).toNat = 0xC0 + n / 0x40 :=
        toNat_ofNat_of_lt (by omega)
      have second := toNat_further (Nat.mod_lt n (by decide : 0 < 0x40))
      have value : (0xC0 + n / 0x40 - 0xC0) * 0x40 + (0x80 + n % 0x40 - 0x80) = n := by omega
      rw [List.cons_append, List.singleton_append,
        decodeFrom_open (by omega) (open?_two (by omega)),
        decodeFrom_last (by simp only; omega) rfl, first, second, value, whole]
    case isFalse more =>
      have further := toNat_further (Nat.mod_lt (n / 0x40) (by decide : 0 < 0x40))
      have last := toNat_further (Nat.mod_lt n (by decide : 0 < 0x40))
      split
      case isTrue three =>
        have first : (UInt8.ofNat (0xE0 + n / 0x1000)).toNat = 0xE0 + n / 0x1000 :=
          toNat_ofNat_of_lt (by omega)
        have value : ((0xE0 + n / 0x1000 - 0xE0) * 0x40 + (0x80 + n / 0x40 % 0x40 - 0x80)) * 0x40 +
            (0x80 + n % 0x40 - 0x80) = n := by omega
        rw [List.cons_append, List.cons_append, List.singleton_append,
          decodeFrom_open (by omega) (open?_three (by omega)),
          decodeFrom_next (by simp only [first, further]; split <;> split <;> omega) (by simp),
          decodeFrom_last (by simp only; omega) rfl]
        simp only [first, further, last, value, whole]
      case isFalse more =>
        have first : (UInt8.ofNat (0xF0 + n / 0x40000)).toNat = 0xF0 + n / 0x40000 :=
          toNat_ofNat_of_lt (by omega)
        have second := toNat_further (Nat.mod_lt (n / 0x1000) (by decide : 0 < 0x40))
        have value : (((0xF0 + n / 0x40000 - 0xF0) * 0x40 +
            (0x80 + n / 0x1000 % 0x40 - 0x80)) * 0x40 + (0x80 + n / 0x40 % 0x40 - 0x80)) * 0x40 +
            (0x80 + n % 0x40 - 0x80) = n := by omega
        rw [List.cons_append, List.cons_append, List.cons_append, List.singleton_append,
          decodeFrom_open (by omega) (open?_four (by omega)),
          decodeFrom_next (by simp only [first, second]; split <;> split <;> omega) (by simp),
          decodeFrom_next (by simp only; omega) (by simp),
          decodeFrom_last (by simp only; omega) rfl]
        simp only [first, second, further, last, value, whole]

/-- The bytes of a text are read as the text. -/
theorem decode_encode (text : Text) : decode (encode text) = ⟨text, [], none⟩ := by
  induction text with
  | nil => rfl
  | cons c text ih =>
      rw [decode, encode, List.flatMap_cons, decodeFrom_encodeChar, ← encode, ← decode, ih]
      rfl

/-! ## Reading in parts -/

/-- Put a text in front of what was decoded. -/
def Decoded.prepend (text : Text) (decoded : Decoded) : Decoded :=
  { decoded with text := text ++ decoded.text }

/-- The bytes that a place in a character has been reached by; none outside characters. -/
def bytesRead : Option Opened → Bytes
  | none => []
  | some opened => opened.read.reverse

/-- A place that the bytes read lead to. -/
def IsReached (place : Option Opened) : Prop :=
  ∀ rest, decodeFrom none (bytesRead place ++ rest) = decodeFrom place rest

theorem isReached_none : IsReached none :=
  fun _ => rfl

theorem read_of_open? {b : UInt8} {opened : Opened} (opens : open? b = some opened) :
    opened.read = [b] := by
  unfold open? at opens
  simp only at opens
  split at opens
  · cases opens
    rfl
  · split at opens
    · cases opens
      rfl
    · split at opens
      · cases opens
        rfl
      · contradiction

theorem isReached_of_open? {b : UInt8} {opened : Opened} (large : ¬b.toNat < 0x80)
    (opens : open? b = some opened) : IsReached (some opened) := by
  intro rest
  rw [bytesRead, read_of_open? opens, List.reverse_singleton, List.singleton_append,
    decodeFrom_open large opens]

theorem IsReached.next {b : UInt8} {opened : Opened} (reached : IsReached (some opened))
    (fits : opened.low ≤ b.toNat ∧ b.toNat ≤ opened.high) (more : opened.missing ≠ 1) :
    IsReached (some ⟨b :: opened.read, opened.missing - 1,
      opened.value * 0x40 + (b.toNat - 0x80), 0x80, 0xBF⟩) := by
  intro rest
  have reached := reached (b :: rest)
  rw [decodeFrom_next fits more] at reached
  rw [← reached, bytesRead, bytesRead, List.reverse_cons, List.append_assoc, List.singleton_append]

/-- Behind bytes without a fault reading goes on from the bytes that they leave over. -/
theorem decodeFrom_append {place : Option Opened} {first : Bytes} (reached : IsReached place)
    (faultless : (decodeFrom place first).fault = none) (second : Bytes) :
    decodeFrom place (first ++ second) =
      (decodeFrom none ((decodeFrom place first).rest ++ second)).prepend
        (decodeFrom place first).text := by
  fun_induction decodeFrom place first with
  | case1 => rfl
  | case2 opened => exact (reached second).symm
  | case3 b rest small ih =>
      rw [List.cons_append, decodeFrom_single small, ih isReached_none faultless]
      rfl
  | case4 b rest large opened opens ih =>
      rw [List.cons_append, decodeFrom_open large opens,
        ih (isReached_of_open? large opens) faultless]
  | case5 => contradiction
  | case6 opened b rest fits value last ih =>
      rw [List.cons_append, decodeFrom_last fits last, ih isReached_none faultless]
      rfl
  | case7 opened b rest fits value more ih =>
      rw [List.cons_append, decodeFrom_next fits more, ih (reached.next fits more) faultless]
  | case8 => contradiction

/-- What is at fault stays at fault whatever follows. -/
theorem decodeFrom_append_of_fault {place : Option Opened} {first : Bytes}
    (faulty : (decodeFrom place first).fault ≠ none) (second : Bytes) :
    decodeFrom place (first ++ second) = decodeFrom place first := by
  fun_induction decodeFrom place first with
  | case1 => contradiction
  | case2 => contradiction
  | case3 b rest small ih => rw [List.cons_append, decodeFrom_single small, ih faulty]
  | case4 b rest large opened opens ih =>
      rw [List.cons_append, decodeFrom_open large opens, ih faulty]
  | case5 b rest large closed => rw [List.cons_append, decodeFrom, if_neg large, closed]
  | case6 opened b rest fits value last ih =>
      rw [List.cons_append, decodeFrom_last fits last, ih faulty]
  | case7 opened b rest fits value more ih =>
      rw [List.cons_append, decodeFrom_next fits more, ih faulty]
  | case8 opened b rest misfit => rw [List.cons_append, decodeFrom, if_neg misfit]

end SeedCatalog.Utf8
