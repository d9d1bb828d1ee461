import PasswordManager.Codec.Hex

/-!
# Records as bytes

A codec of a record is put together from those of its fields.
-/

namespace PasswordManager

/-- A way to write values as bytes: reading takes off what was written, whatever comes after it. -/
structure Codec (α : Type) where
  write : α → Bytes
  read : Bytes → Option (α × Bytes)
  read_write : ∀ a rest, read (write a ++ rest) = some (a, rest)

namespace Codec

variable {α β : Type}

def readNat : Bytes → Option (Nat × Bytes)
  | [] => none
  | b :: rest => if b = 0 then (readNat rest).map fun p => (p.1 + 1, p.2) else some (0, rest)

/-- As many zeros as the number says, and an end mark. -/
def nat : Codec Nat where
  write n := List.replicate n 0 ++ [1]
  read := readNat
  read_write n rest := by
    induction n with
    | zero => rfl
    | succ n ih =>
      rw [List.replicate_succ, List.cons_append, List.cons_append, readNat, if_pos rfl, ih]
      rfl

/-- Values that are written as values of another type. -/
def via (c : Codec α) (out : β → α) (back : α → Option β) (inverse : ∀ b, back (out b) = some b) :
    Codec β where
  write b := c.write (out b)
  read input := (c.read input).bind fun p => (back p.1).map fun b => (b, p.2)
  read_write b rest := by rw [c.read_write, Option.bind_some, inverse, Option.map_some]

def pair (first : Codec α) (second : Codec β) : Codec (α × β) where
  write p := first.write p.1 ++ second.write p.2
  read input := (first.read input).bind fun p => (second.read p.2).map fun q => ((p.1, q.1), q.2)
  read_write p rest := by
    rw [List.append_assoc, first.read_write, Option.bind_some, second.read_write, Option.map_some]

def readMany (c : Codec α) : Nat → Bytes → Option (List α × Bytes)
  | 0, input => some ([], input)
  | n + 1, input =>
    (c.read input).bind fun p => (readMany c n p.2).map fun q => (p.1 :: q.1, q.2)

theorem readMany_write (c : Codec α) (items : List α) (rest : Bytes) :
    readMany c items.length (items.flatMap c.write ++ rest) = some (items, rest) := by
  induction items with
  | nil => rfl
  | cons item items ih =>
    rw [List.flatMap_cons, List.append_assoc, List.length_cons, readMany, c.read_write,
      Option.bind_some, ih, Option.map_some]

def list (c : Codec α) : Codec (List α) where
  write items := nat.write items.length ++ items.flatMap c.write
  read input := (nat.read input).bind fun p => readMany c p.1 p.2
  read_write items rest := by
    rw [List.append_assoc, nat.read_write, Option.bind_some, readMany_write]

def bytes : Codec Bytes where
  write content := nat.write content.length ++ content
  read input := (nat.read input).bind fun p =>
    if p.1 ≤ p.2.length then some (p.2.take p.1, p.2.drop p.1) else none
  read_write content rest := by
    rw [List.append_assoc, nat.read_write, Option.bind_some, if_pos (by simp), List.take_left,
      List.drop_left]

def string : Codec String := bytes.via asBytes fromUtf8 fromUtf8_asBytes

def bool : Codec Bool :=
  nat.via Bool.toNat (fun n => some (n == 1)) fun b => by cases b <;> rfl

def int : Codec Int :=
  (bool.pair nat).via (fun z => (decide (z < 0), z.natAbs))
    (fun p => some (if p.1 then -(p.2 : Int) else p.2)) fun z => by
      by_cases negative : z < 0
      · have back : -(z.natAbs : Int) = z := by omega
        simp only [negative, decide_true, if_true, back]
      · have back : (z.natAbs : Int) = z := by omega
        simp only [negative, decide_false, Bool.false_eq_true, if_false, back]

def option (c : Codec α) : Codec (Option α) :=
  c.list.via Option.toList (fun items => some items.head?) fun o => by cases o <;> rfl

end Codec

end PasswordManager
