import Mathlib.Logic.Function.Basic

/-!
# Bytes and hexadecimal text

Byte strings, the byte view of text, and the `hex` encoding that every binary field crosses
the wire and the database in.
-/

namespace PasswordManager

abbrev Bytes := List UInt8

/-- Byte strings of one length, as the source's `[u8; n]`. -/
abbrev BytesN (n : Nat) := { bytes : Bytes // bytes.length = n }

/-- `<[u8; n]>::try_from`. -/
def BytesN.tryFrom (n : Nat) (bytes : Bytes) : Option (BytesN n) :=
  if h : bytes.length = n then some ⟨bytes, h⟩ else none

@[simp] theorem BytesN.tryFrom_val {n : Nat} (b : BytesN n) : BytesN.tryFrom n b.val = some b := by
  simp [BytesN.tryFrom, b.property]

/-- `str::as_bytes`. -/
def asBytes (s : String) : Bytes := s.toByteArray.data.toList

/-- `String::from_utf8`. -/
def fromUtf8 (bytes : Bytes) : Option String := String.fromUTF8? ⟨bytes.toArray⟩

@[simp] theorem fromUtf8_asBytes (s : String) : fromUtf8 (asBytes s) = some s := by
  simp [fromUtf8, asBytes, String.fromUTF8?, String.fromUTF8, s.isValidUTF8]

theorem fromUtf8_eq_some {bytes : Bytes} {s : String} (h : fromUtf8 bytes = some s) :
    asBytes s = bytes := by
  unfold fromUtf8 String.fromUTF8? at h
  split at h
  · cases h
    simp [asBytes, String.fromUTF8]
  · cases h

theorem asBytes_injective : Function.Injective asBytes := by
  intro s t h
  have := fromUtf8_asBytes s
  rw [h, fromUtf8_asBytes] at this
  exact (Option.some.inj this).symm

theorem asBytes_ascii {cs : List Char} (ascii : ∀ c ∈ cs, c.toNat < 128) :
    asBytes (String.ofList cs) = cs.map fun c => UInt8.ofNat c.toNat := by
  have bytes : asBytes (String.ofList cs) = cs.flatMap String.utf8EncodeChar := by
    simp [asBytes, String.toByteArray_ofList, List.utf8Encode]
  rw [bytes]
  clear bytes
  induction cs with
  | nil => rfl
  | cons c cs ih =>
    have here : c.val.toNat ≤ 127 := Nat.le_of_lt_succ (ascii c List.mem_cons_self)
    have rest := ih fun d member => ascii d (List.mem_cons_of_mem _ member)
    have single : String.utf8EncodeChar c = [UInt8.ofNat c.toNat] := by
      simp only [String.utf8EncodeChar, here, if_true]
      rfl
    rw [List.flatMap_cons, List.map_cons, rest, single]
    rfl

theorem asBytes_toList {s : String} (ascii : ∀ c ∈ s.toList, c.toNat < 128) :
    asBytes s = s.toList.map fun c => UInt8.ofNat c.toNat := by
  have bytes := asBytes_ascii ascii
  rwa [String.ofList_toList] at bytes

theorem length_le_utf8ByteSize (s : String) : s.length ≤ s.utf8ByteSize := by
  have listed : ∀ cs : List Char, cs.length ≤ (String.ofList cs).utf8ByteSize := by
    intro cs
    induction cs with
    | nil => exact Nat.zero_le _
    | cons c cs ih =>
      have one := c.utf8Size_pos
      rw [String.ofList_cons, String.utf8ByteSize_append, String.utf8ByteSize_singleton, List.length_cons]
      omega
  have counted := listed s.toList
  rwa [String.ofList_toList, String.length_toList] at counted

namespace Hex

/-- The lower-case digit of a half byte. -/
def digit (n : Nat) : Char := if n < 10 then Char.ofNat (48 + n) else Char.ofNat (87 + n)

/-- The value of a digit of either case. -/
def val (c : Char) : Option Nat :=
  if 48 ≤ c.toNat ∧ c.toNat ≤ 57 then some (c.toNat - 48)
  else if 97 ≤ c.toNat ∧ c.toNat ≤ 102 then some (c.toNat - 87)
  else if 65 ≤ c.toNat ∧ c.toNat ≤ 70 then some (c.toNat - 55)
  else none

def digits : Bytes → List Char
  | [] => []
  | b :: bytes => digit (b.toNat / 16) :: digit (b.toNat % 16) :: digits bytes

def values : List Char → Option Bytes
  | [] => some []
  | [_] => none
  | hi :: lo :: rest => do
    let hi ← val hi
    let lo ← val lo
    let bytes ← values rest
    return UInt8.ofNat (hi * 16 + lo) :: bytes

/-- `hex::encode`. -/
def encode (bytes : Bytes) : String := String.ofList (digits bytes)

def chars (bytes : Bytes) : List Char := bytes.map fun b => Char.ofNat b.toNat

/-- `hex::decode`, up to the kind of error. It reads the text byte by byte. -/
def decode (text : String) : Option Bytes := values (chars (asBytes text))

theorem val_digit {n : Nat} (small : n < 16) : val (digit n) = some n := by
  have cases : ∀ k : Fin 16, val (digit k) = some k.val := by decide
  exact cases ⟨n, small⟩

theorem values_digits (bytes : Bytes) : values (digits bytes) = some bytes := by
  induction bytes with
  | nil => rfl
  | cons b bytes ih =>
    have bound := b.toNat_lt
    have high : b.toNat / 16 < 16 := by omega
    have low : b.toNat % 16 < 16 := by omega
    have whole : b.toNat / 16 * 16 + b.toNat % 16 = b.toNat := by omega
    simp only [digits, values, val_digit high, val_digit low, ih, whole, UInt8.ofNat_toNat,
      Option.bind_eq_bind, Option.bind_some, Option.pure_def]

theorem digit_ge {n : Nat} (small : n < 16) : 48 ≤ (digit n).toNat := by
  have cases : ∀ k : Fin 16, 48 ≤ (digit k).toNat := by decide
  exact cases ⟨n, small⟩

/-- No digit is a hyphen or ends a line. -/
theorem notMem_digits {c : Char} (low : c.toNat < 48) (bytes : Bytes) : c ∉ digits bytes := by
  induction bytes with
  | nil => simp [digits]
  | cons b bytes ih =>
    have bound := b.toNat_lt
    have high : 48 ≤ (digit (b.toNat / 16)).toNat := digit_ge (by omega)
    have low' : 48 ≤ (digit (b.toNat % 16)).toNat := digit_ge (by omega)
    simp only [digits, List.mem_cons, not_or]
    refine ⟨fun same => ?_, fun same => ?_, ih⟩
    · rw [← same] at high
      omega
    · rw [← same] at low'
      omega

theorem digits_visible (bytes : Bytes) : ∀ c ∈ digits bytes, 32 ≤ c.toNat ∧ c.toNat < 127 := by
  have cases : ∀ k : Fin 16, 32 ≤ (digit k).toNat ∧ (digit k).toNat < 127 := by decide
  induction bytes with
  | nil => nofun
  | cons b bytes ih =>
    have bound := b.toNat_lt
    intro c member
    simp only [digits, List.mem_cons] at member
    rcases member with rfl | rfl | later
    · exact cases ⟨b.toNat / 16, by omega⟩
    · exact cases ⟨b.toNat % 16, by omega⟩
    · exact ih c later

/-- A digit of lower case is the one that its value is written with. -/
theorem digit_val {c : Char} {n : Nat} (read : val c = some n) :
    n < 16 ∧ (32 ≤ c.toNat ∧ c.toNat < 127) ∧ (digit n = c ↔ ¬c.isUpper) := by
  have all : ∀ k : Fin 128, (val (Char.ofNat k)).all fun n =>
      decide (n < 16 ∧ (32 ≤ k.val ∧ k.val < 127) ∧
        (digit n = Char.ofNat k ↔ ¬(Char.ofNat k).isUpper)) := by
    decide +kernel
  have small : c.toNat < 128 := by
    unfold val at read
    split at read
    · omega
    · split at read
      · omega
      · split at read
        · omega
        · cases read
  have here := all ⟨c.toNat, small⟩
  simp only [Char.ofNat_toNat, read, Option.all_some, decide_eq_true_eq] at here
  exact here

theorem values_cons {hi lo : Char} {rest : List Char} {bytes : Bytes}
    (read : values (hi :: lo :: rest) = some bytes) :
    ∃ high low later, val hi = some high ∧ val lo = some low ∧ values rest = some later ∧
      bytes = UInt8.ofNat (high * 16 + low) :: later := by
  simp only [values, Option.bind_eq_bind, Option.bind_eq_some_iff, Option.pure_def,
    Option.some.injEq] at read
  obtain ⟨high, upper, low, lower, later, found, rfl⟩ := read
  exact ⟨high, low, later, upper, lower, found, rfl⟩

theorem values_visible {cs : List Char} {bytes : Bytes} (read : values cs = some bytes) :
    ∀ c ∈ cs, 32 ≤ c.toNat ∧ c.toNat < 127 := by
  induction cs using values.induct generalizing bytes with
  | case1 => nofun
  | case2 c => cases read
  | case3 hi lo rest ih =>
    obtain ⟨high, low, later, upper, lower, found, -⟩ := values_cons read
    intro c member
    rcases List.mem_cons.mp member with rfl | member
    · exact (digit_val upper).2.1
    · rcases List.mem_cons.mp member with rfl | member
      · exact (digit_val lower).2.1
      · exact ih found c member

theorem toNat_ofNat_byte (b : UInt8) : (Char.ofNat b.toNat).toNat = b.toNat := by
  have bound := b.toNat_lt
  have valid : b.toNat.isValidChar := .inl (by omega)
  rw [Char.ofNat, dif_pos valid]
  rfl

theorem map_chars (bytes : Bytes) : (chars bytes).map (fun c => UInt8.ofNat c.toNat) = bytes := by
  rw [chars, List.map_map]
  refine List.map_id'' (fun b => ?_) bytes
  show UInt8.ofNat (Char.ofNat b.toNat).toNat = b
  rw [toNat_ofNat_byte, UInt8.ofNat_toNat]

theorem chars_asBytes {text : String} (ascii : ∀ c ∈ text.toList, c.toNat < 128) :
    chars (asBytes text) = text.toList := by
  have back : ∀ c ∈ text.toList, Char.ofNat (UInt8.ofNat c.toNat).toNat = c := by
    intro c member
    have small := ascii c member
    rw [UInt8.toNat_ofNat_of_lt' (by show _ < 256; omega), Char.ofNat_toNat]
  rw [asBytes_toList ascii, chars, List.map_map]
  exact (List.map_congr_left back).trans (List.map_id' _)

theorem chars_toList {text : String} (ascii : ∀ c ∈ chars (asBytes text), c.toNat < 128) :
    chars (asBytes text) = text.toList := by
  have same : String.ofList (chars (asBytes text)) = text :=
    asBytes_injective ((asBytes_ascii ascii).trans (map_chars _))
  rw [← String.toList_ofList (l := chars (asBytes text)), same]

/-- Byte by byte and character by character, the same texts are read. -/
theorem decode_eq (text : String) : decode text = values text.toList := by
  have small : ∀ {cs bytes}, values cs = some bytes → ∀ c ∈ cs, c.toNat < 128 := by
    intro cs bytes read c member
    have visible := values_visible read c member
    omega
  cases read : values text.toList with
  | some bytes => rw [decode, chars_asBytes (small read), read]
  | none =>
    cases read' : decode text with
    | none => rfl
    | some bytes =>
      rw [decode, chars_toList (small read'), read] at read'
      cases read'

@[simp] theorem decode_encode (bytes : Bytes) : decode (encode bytes) = some bytes := by
  rw [decode_eq, encode, String.toList_ofList, values_digits]

theorem encode_injective : Function.Injective encode := by
  intro a b h
  have := decode_encode a
  rw [h, decode_encode] at this
  exact (Option.some.inj this).symm

theorem decode_visible {text : String} {bytes : Bytes} (read : decode text = some bytes) :
    ∀ c ∈ text.toList, 32 ≤ c.toNat ∧ c.toNat < 127 :=
  values_visible ((decode_eq text).symm.trans read)

/-- Encoding gives back what was decoded exactly if no digit was in upper case. -/
theorem digits_values {cs : List Char} {bytes : Bytes} (read : values cs = some bytes) :
    digits bytes = cs ↔ ∀ c ∈ cs, ¬c.isUpper := by
  induction cs using values.induct generalizing bytes with
  | case1 =>
    cases read
    simp [digits]
  | case2 c => cases read
  | case3 hi lo rest ih =>
    obtain ⟨high, low, later, upper, lower, found, rfl⟩ := values_cons read
    obtain ⟨fits, -, highDigit⟩ := digit_val upper
    obtain ⟨fits', -, lowDigit⟩ := digit_val lower
    have whole : (UInt8.ofNat (high * 16 + low)).toNat = high * 16 + low :=
      UInt8.toNat_ofNat_of_lt' (by show _ < 256; omega)
    have quotient : (high * 16 + low) / 16 = high := by omega
    have remainder : (high * 16 + low) % 16 = low := by omega
    simp only [digits, whole, quotient, remainder, List.cons.injEq, highDigit, lowDigit, ih found,
      List.mem_cons, forall_eq_or_imp]

theorem encode_decoded {text : String} {bytes : Bytes} (read : decode text = some bytes) :
    encode bytes = text ↔ ∀ c ∈ text.toList, ¬c.isUpper := by
  rw [decode_eq] at read
  rw [← digits_values read, encode, ← String.toList_inj, String.toList_ofList]

theorem length_digits (bytes : Bytes) : (digits bytes).length = 2 * bytes.length := by
  induction bytes with
  | nil => rfl
  | cons b bytes ih =>
    simp only [digits, List.length_cons, ih]
    omega

theorem digits_append (a b : Bytes) : digits (a ++ b) = digits a ++ digits b := by
  induction a with
  | nil => rfl
  | cons x a ih => simp [digits, ih]

end Hex

/-- `uuid::Uuid`: sixteen bytes. -/
abbrev Uuid := BytesN 16

namespace Uuid

/-- `Uuid::to_string`: the hyphenated lower-case form. -/
def toString (u : Uuid) : String :=
  String.ofList <| Hex.digits (u.val.take 4) ++ '-' :: Hex.digits ((u.val.drop 4).take 2) ++
    '-' :: Hex.digits ((u.val.drop 6).take 2) ++ '-' :: Hex.digits ((u.val.drop 8).take 2) ++
    '-' :: Hex.digits (u.val.drop 10)

theorem filter_digits (bytes : Bytes) :
    (Hex.digits bytes).filter (· ≠ '-') = Hex.digits bytes :=
  List.filter_eq_self.mpr fun _ member =>
    decide_eq_true fun same => Hex.notMem_digits (by decide) bytes (same ▸ member)

/-- The text without its hyphens is the hex of the sixteen bytes. -/
theorem toString_digits (u : Uuid) :
    u.toString.toList.filter (· ≠ '-') = Hex.digits u.val := by
  have split : u.val = u.val.take 4 ++ ((u.val.drop 4).take 2 ++ ((u.val.drop 6).take 2 ++
      ((u.val.drop 8).take 2 ++ u.val.drop 10))) := by
    rw [← List.drop_drop (i := 2) (j := 8), List.take_append_drop,
      ← List.drop_drop (i := 2) (j := 6), List.take_append_drop,
      ← List.drop_drop (i := 2) (j := 4), List.take_append_drop, List.take_append_drop]
  refine Eq.trans ?_ (congrArg Hex.digits split).symm
  simp only [toString, String.toList_ofList, List.filter_append, filter_digits, Hex.digits_append,
    List.filter_cons, ne_eq, not_true_eq_false, decide_false, Bool.false_eq_true, if_false,
    List.append_assoc]

theorem toString_injective : Function.Injective toString := by
  intro u v h
  have same : Hex.digits u.val = Hex.digits v.val := by
    rw [← toString_digits, ← toString_digits, h]
  have bytes := Hex.values_digits u.val
  rw [same, Hex.values_digits] at bytes
  exact Subtype.ext (Option.some.inj bytes).symm

theorem toString_visible (u : Uuid) : ∀ c ∈ u.toString.toList, 32 ≤ c.toNat ∧ c.toNat < 127 := by
  intro c member
  have hyphen : 32 ≤ '-'.toNat ∧ '-'.toNat < 127 := by decide
  simp only [toString, String.toList_ofList, List.mem_append, List.mem_cons] at member
  rcases member with (((first | rfl | second) | rfl | third) | rfl | fourth) | rfl | fifth
  · exact Hex.digits_visible _ c first
  · exact hyphen
  · exact Hex.digits_visible _ c second
  · exact hyphen
  · exact Hex.digits_visible _ c third
  · exact hyphen
  · exact Hex.digits_visible _ c fourth
  · exact hyphen
  · exact Hex.digits_visible _ c fifth

theorem asBytes_toString (u : Uuid) :
    asBytes u.toString = u.toString.toList.map fun c => UInt8.ofNat c.toNat := by
  have ascii : ∀ c ∈ u.toString.toList, c.toNat < 128 := by
    intro c member
    have visible := toString_visible u c member
    omega
  exact asBytes_toList ascii

theorem length_toString (u : Uuid) : (asBytes u.toString).length = 36 := by
  have sized := u.property
  rw [asBytes_toString, List.length_map]
  simp only [toString, String.toList_ofList, List.length_append, List.length_cons, Hex.length_digits,
    List.length_take, List.length_drop, sized]
  omega

end Uuid

end PasswordManager
