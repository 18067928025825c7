/-
# VpsDashboard.Foundation.Utf8 — decoding UTF-8 a byte at a time

`Utf8.step` is the decoder of the WHATWG Encoding Standard in replacement mode: its
state is the code point so far, the number of bytes it still needs, and the bounds of
the next one.  A byte that does not fit gives U+FFFD and is looked at again as the
beginning of a character.  Decoding goes byte by byte, so it does not matter how the
bytes are cut (`decode_append`), and it undoes `String.utf8EncodeChar`
(`decode_encode`).

`TextDecoder` is the object of that name in a browser, used with `stream: true`.
`runes` is the `for range` loop of Go over a string.
-/
import Mathlib.Data.List.Basic

namespace VpsDashboard.Foundation

set_option autoImplicit false

/-- The UTF-8 encoding of a text. -/
def utf8 (text : List Char) : List UInt8 := text.flatMap String.utf8EncodeChar

@[simp] theorem utf8_nil : utf8 [] = [] := rfl

@[simp] theorem utf8_cons (c : Char) (text : List Char) :
    utf8 (c :: text) = String.utf8EncodeChar c ++ utf8 text := List.flatMap_cons

@[simp] theorem utf8_append (left right : List Char) :
    utf8 (left ++ right) = utf8 left ++ utf8 right := List.flatMap_append

theorem toList_loop (bytes : ByteArray) (i : Nat) (read : List UInt8) :
    ByteArray.toList.loop bytes i read = read.reverse ++ bytes.data.toList.drop i := by
  fun_induction ByteArray.toList.loop bytes i read with
  | case1 i read inside ih =>
      have here : bytes.data.toList.drop i = bytes.get! i :: bytes.data.toList.drop (i + 1) := by
        rw [List.drop_eq_getElem_cons (by simpa using inside)]
        simp [ByteArray.get!, inside]
      rw [ih, here, List.reverse_cons, List.append_assoc, List.singleton_append]
  | case2 i read outside =>
      have none : bytes.data.toList.drop i = [] := by
        rw [List.drop_eq_nil_iff]
        simpa using outside
      rw [none, List.append_nil]

/-- The bytes of a string. -/
theorem toUTF8_toList (s : String) : s.toUTF8.toList = utf8 s.toList := by
  have bytes : s.toUTF8 = s.toList.utf8Encode := String.utf8Encode_toList.symm
  rw [bytes, ByteArray.toList, toList_loop, List.utf8Encode, List.toList_data_toByteArray]
  rfl

/-- An ASCII byte occurs only in the encoding of its own character. -/
theorem toNat_of_mem_utf8EncodeChar {c : Char} {b : UInt8} (ascii : b.toNat < 0x80)
    (member : b ∈ String.utf8EncodeChar c) : c.toNat = b.toNat := by
  have high : ∀ {n m : Nat}, 0x80 ≤ m → n + m < 256 → b = UInt8.ofNat (n + m) → False := by
    rintro n m big small rfl
    rw [UInt8.toNat_ofNat'] at ascii
    omega
  have value : c.toNat = c.val.toNat := rfl
  rw [value]
  rw [String.utf8EncodeChar] at member
  generalize c.val.toNat = v at member
  split at member
  · obtain rfl := List.mem_singleton.mp member
    rw [UInt8.toNat_ofNat']
    omega
  exfalso
  split at member
  · simp only [List.mem_cons, List.not_mem_nil, or_false] at member
    rcases member with lead | last
    · exact high (by omega) (by omega) lead
    · exact high (by omega) (by omega) last
  split at member
  · simp only [List.mem_cons, List.not_mem_nil, or_false] at member
    rcases member with lead | second | last
    · exact high (by omega) (by omega) lead
    · exact high (by omega) (by omega) second
    · exact high (by omega) (by omega) last
  · simp only [List.mem_cons, List.not_mem_nil, or_false] at member
    rcases member with lead | second | third | last
    · exact high (by omega) (by omega) lead
    · exact high (by omega) (by omega) second
    · exact high (by omega) (by omega) third
    · exact high (by omega) (by omega) last

/-- An ASCII text has one byte for each character. -/
theorem utf8_ascii {text : List Char} (ascii : ∀ c ∈ text, c.toNat < 0x80) :
    utf8 text = text.map fun c => UInt8.ofNat c.toNat := by
  induction text with
  | nil => rfl
  | cons c text ih =>
      obtain ⟨here, later⟩ := List.forall_mem_cons.mp ascii
      have small : c.val.toNat ≤ 0x7F := Nat.le_of_lt_succ here
      rw [utf8_cons, ih later, String.utf8EncodeChar, if_pos small]
      rfl

theorem mem_of_mem_utf8 {text : List Char} {c : Char} (ascii : c.toNat < 0x80)
    (member : UInt8.ofNat c.toNat ∈ utf8 text) : c ∈ text := by
  obtain ⟨d, inside, byte⟩ := List.mem_flatMap.mp member
  have small : (UInt8.ofNat c.toNat).toNat = c.toNat := by
    rw [UInt8.toNat_ofNat']
    omega
  have same : d.toNat = c.toNat := by
    rw [toNat_of_mem_utf8EncodeChar (by omega) byte, small]
  rwa [← Char.toNat_inj.mp same]

/-! ## The decoder -/

/-- What is known of an unfinished character. -/
structure Utf8 where
  codePoint : Nat
  needed : Nat
  lower : Nat
  upper : Nat
deriving DecidableEq

namespace Utf8

/-- Between two characters. -/
def ready : Utf8 := ⟨0, 0, 0x80, 0xBF⟩

def replacement : Char := Char.ofNat 0xFFFD

/-- The first byte of a character. -/
def lead (b : Nat) : List Char × Utf8 :=
  if b ≤ 0x7F then ([Char.ofNat b], ready)
  else if 0xC2 ≤ b ∧ b ≤ 0xDF then ([], ⟨b - 0xC0, 1, 0x80, 0xBF⟩)
  else if 0xE0 ≤ b ∧ b ≤ 0xEF then
    ([], ⟨b - 0xE0, 2, if b = 0xE0 then 0xA0 else 0x80, if b = 0xED then 0x9F else 0xBF⟩)
  else if 0xF0 ≤ b ∧ b ≤ 0xF4 then
    ([], ⟨b - 0xF0, 3, if b = 0xF0 then 0x90 else 0x80, if b = 0xF4 then 0x8F else 0xBF⟩)
  else ([replacement], ready)

def step (s : Utf8) (byte : UInt8) : List Char × Utf8 :=
  let b := byte.toNat
  if s.needed = 0 then lead b
  else if s.lower ≤ b ∧ b ≤ s.upper then
    let codePoint := s.codePoint * 64 + (b - 0x80)
    if s.needed = 1 then ([Char.ofNat codePoint], ready)
    else ([], ⟨codePoint, s.needed - 1, 0x80, 0xBF⟩)
  else (replacement :: (lead b).1, (lead b).2)

def decode (s : Utf8) : List UInt8 → List Char × Utf8
  | [] => ([], s)
  | b :: rest => ((s.step b).1 ++ ((s.step b).2.decode rest).1, ((s.step b).2.decode rest).2)

theorem decode_append (s : Utf8) (left right : List UInt8) :
    s.decode (left ++ right) =
      ((s.decode left).1 ++ ((s.decode left).2.decode right).1,
        ((s.decode left).2.decode right).2) := by
  induction left generalizing s with
  | nil => rfl
  | cons b left ih => simp only [List.cons_append, decode, ih, List.append_assoc]

section Continuation

variable {codePoint n lower upper b : Nat}

/-- The last byte of a character. -/
theorem step_last (small : b < 64) (low : lower ≤ b + 0x80) (high : b + 0x80 ≤ upper) :
    step ⟨codePoint, 1, lower, upper⟩ (UInt8.ofNat (b + 0x80)) =
      ([Char.ofNat (codePoint * 64 + b)], ready) := by
  have byte : (UInt8.ofNat (b + 0x80)).toNat = b + 0x80 := by
    rw [UInt8.toNat_ofNat']
    omega
  simp only [step, byte, Nat.one_ne_zero, if_false, if_pos (And.intro low high),
    Nat.add_sub_cancel, if_true]

/-- A byte of a character that more bytes follow. -/
theorem step_more (small : b < 64) (low : lower ≤ b + 0x80) (high : b + 0x80 ≤ upper) :
    step ⟨codePoint, n + 2, lower, upper⟩ (UInt8.ofNat (b + 0x80)) =
      ([], ⟨codePoint * 64 + b, n + 1, 0x80, 0xBF⟩) := by
  have byte : (UInt8.ofNat (b + 0x80)).toNat = b + 0x80 := by
    rw [UInt8.toNat_ofNat']
    omega
  have notLast : ¬ n + 2 = 1 := by omega
  have notReady : ¬ n + 2 = 0 := by omega
  simp only [step, byte, if_neg notReady, if_pos (And.intro low high), Nat.add_sub_cancel,
    if_neg notLast]
  rfl

end Continuation

theorem step_ready {b : Nat} (byte : b < 256) : ready.step (UInt8.ofNat b) = lead b := by
  have value : (UInt8.ofNat b).toNat = b := by
    rw [UInt8.toNat_ofNat']
    omega
  simp only [step, ready, value, if_true]

/-- The leads of two, three and four bytes. -/
theorem lead_two {b : Nat} (low : 2 ≤ b) (high : b < 32) :
    lead (b + 0xC0) = ([], ⟨b, 1, 0x80, 0xBF⟩) := by
  rw [lead, if_neg (by omega), if_pos (by omega), Nat.add_sub_cancel]

theorem lead_three {b : Nat} (high : b < 16) :
    lead (b + 0xE0) =
      ([], ⟨b, 2, if b = 0 then 0xA0 else 0x80, if b = 13 then 0x9F else 0xBF⟩) := by
  rw [lead, if_neg (by omega), if_neg (by omega), if_pos (by omega), Nat.add_sub_cancel]
  simp only [Nat.add_eq_right, show b + 0xE0 = 0xED ↔ b = 13 by omega]

theorem lead_four {b : Nat} (high : b < 5) :
    lead (b + 0xF0) =
      ([], ⟨b, 3, if b = 0 then 0x90 else 0x80, if b = 4 then 0x8F else 0xBF⟩) := by
  rw [lead, if_neg (by omega), if_neg (by omega), if_neg (by omega), if_pos (by omega),
    Nat.add_sub_cancel]
  simp only [Nat.add_eq_right, show b + 0xF0 = 0xF4 ↔ b = 4 by omega]

/-- One encoded character is decoded to itself. -/
theorem decode_char (c : Char) : ready.decode (String.utf8EncodeChar c) = ([c], ready) := by
  have scalar : c.val.toNat < 0xD800 ∨ 0xDFFF < c.val.toNat ∧ c.val.toNat < 0x110000 := c.valid
  have self : Char.ofNat c.val.toNat = c := Char.ofNat_toNat c
  rw [String.utf8EncodeChar]
  generalize c.val.toNat = v at scalar self
  split
  · simp only [decode, step_ready (show v < 256 by omega), lead, if_pos ‹v ≤ 0x7F›, self]
    rfl
  split
  · have low : 2 ≤ v / 64 % 32 := by omega
    have whole : v / 64 % 32 * 64 + v % 64 = v := by omega
    simp only [decode, step_ready (show v / 64 % 32 + 0xC0 < 256 by omega),
      lead_two low (show v / 64 % 32 < 32 by omega)]
    rw [step_last (by omega) (by omega) (by omega), whole, self]
    rfl
  split
  · have whole : (v / 4096 % 16 * 64 + v / 64 % 64) * 64 + v % 64 = v := by omega
    simp only [decode, step_ready (show v / 4096 % 16 + 0xE0 < 256 by omega),
      lead_three (show v / 4096 % 16 < 16 by omega)]
    rw [step_more (n := 0) (by omega) (by split <;> omega) (by split <;> omega),
      step_last (by omega) (by omega) (by omega), whole, self]
    rfl
  · have whole : ((v / 262144 % 8 * 64 + v / 4096 % 64) * 64 + v / 64 % 64) * 64 + v % 64 = v := by
      omega
    simp only [decode, step_ready (show v / 262144 % 8 + 0xF0 < 256 by omega),
      lead_four (show v / 262144 % 8 < 5 by omega)]
    rw [step_more (n := 1) (by omega) (by split <;> omega) (by split <;> omega),
      step_more (n := 0) (by omega) (by omega) (by omega),
      step_last (by omega) (by omega) (by omega), whole, self]
    rfl

/-- Decoding undoes encoding. -/
theorem decode_encode (text : List Char) : ready.decode (utf8 text) = (text, ready) := by
  induction text with
  | nil => rfl
  | cons c text ih => rw [utf8_cons, decode_append, decode_char, ih, List.singleton_append]

end Utf8

/-! ## TextDecoder -/

structure TextDecoder where
  utf8 : Utf8
  /-- Whether the first character has been seen, which a byte order mark is taken off. -/
  bomSeen : Bool

namespace TextDecoder

def new : TextDecoder := ⟨.ready, false⟩

def byteOrderMark : Char := Char.ofNat 0xFEFF

def dropBom : List Char → List Char
  | [] => []
  | c :: text => if c = byteOrderMark then text else c :: text

/-- `decoder.decode(value, { stream: true })`. -/
def decode (d : TextDecoder) (value : List UInt8) : List Char × TextDecoder :=
  let (text, state) := d.utf8.decode value
  (if d.bomSeen then text else dropBom text, ⟨state, d.bomSeen || !text.isEmpty⟩)

theorem decode_append (d : TextDecoder) (left right : List UInt8) :
    d.decode (left ++ right) =
      ((d.decode left).1 ++ ((d.decode left).2.decode right).1,
        ((d.decode left).2.decode right).2) := by
  obtain ⟨state, seen⟩ := d
  simp only [decode, Utf8.decode_append]
  cases seen with
  | true => rfl
  | false => cases (state.decode left).1 with
      | nil => rfl
      | cons c text => by_cases mark : c = byteOrderMark <;> simp [dropBom, mark]

/-- A text that does not begin with a byte order mark is decoded to itself. -/
theorem decode_encode {text : List Char} (noMark : text.head? ≠ some byteOrderMark) :
    (new.decode (Foundation.utf8 text)).1 = text := by
  simp only [decode, new, Utf8.decode_encode]
  cases text with
  | nil => rfl
  | cons c text =>
      have other : c ≠ byteOrderMark := fun same => noMark (congrArg some same)
      simp [dropBom, other]

end TextDecoder

/-! ## The runes of a Go string -/

/-- The number of bytes of a character, by its first one. -/
def runeWidth (b : UInt8) : Nat :=
  if b.toNat < 0x80 then 1 else if b.toNat < 0xE0 then 2 else if b.toNat < 0xF0 then 3 else 4

/-- The character these bytes begin with, none when they begin with no character. -/
def decodeRune : List UInt8 → Option Char
  | [] => none
  | b :: rest =>
      match (Utf8.ready.decode ((b :: rest).take (runeWidth b))).1 with
      | [c] => if String.utf8EncodeChar c = (b :: rest).take (runeWidth b) then some c else none
      | _ => none

/-- The runes after the next `skip` bytes; an invalid byte is one rune, `none`. -/
def runesFrom : Nat → List UInt8 → List (Option Char)
  | _, [] => []
  | skip + 1, _ :: rest => runesFrom skip rest
  | 0, b :: rest =>
      match decodeRune (b :: rest) with
      | some c => some c :: runesFrom (runeWidth b - 1) rest
      | none => none :: runesFrom 0 rest

def runes (bytes : List UInt8) : List (Option Char) := runesFrom 0 bytes

theorem runesFrom_append (skipped rest : List UInt8) :
    runesFrom skipped.length (skipped ++ rest) = runes rest := by
  induction skipped with
  | nil => rfl
  | cons b skipped ih => exact ih

/-- The first byte of a character tells how many there are. -/
theorem runeWidth_encode (c : Char) :
    ∃ b tail, String.utf8EncodeChar c = b :: tail ∧ runeWidth b = tail.length + 1 := by
  have scalar : c.val.toNat < 0xD800 ∨ 0xDFFF < c.val.toNat ∧ c.val.toNat < 0x110000 := c.valid
  rw [String.utf8EncodeChar]
  generalize c.val.toNat = v at scalar
  have value : ∀ {n : Nat}, n < 256 → (UInt8.ofNat n).toNat = n := by
    intro n byte
    rw [UInt8.toNat_ofNat']
    omega
  split
  · refine ⟨_, _, rfl, ?_⟩
    rw [runeWidth, value (by omega), if_pos (by omega)]
    rfl
  split
  · refine ⟨_, _, rfl, ?_⟩
    rw [runeWidth, value (by omega), if_neg (by omega), if_pos (by omega)]
    rfl
  split
  · refine ⟨_, _, rfl, ?_⟩
    rw [runeWidth, value (by omega), if_neg (by omega), if_neg (by omega), if_pos (by omega)]
    rfl
  · refine ⟨_, _, rfl, ?_⟩
    rw [runeWidth, value (by omega), if_neg (by omega), if_neg (by omega), if_neg (by omega)]
    rfl

theorem decodeRune_encode (c : Char) (rest : List UInt8) :
    decodeRune (String.utf8EncodeChar c ++ rest) = some c := by
  obtain ⟨b, tail, bytes, width⟩ := runeWidth_encode c
  have prefixed : (String.utf8EncodeChar c ++ rest).take (runeWidth b) = String.utf8EncodeChar c := by
    rw [width, bytes]
    exact List.take_left' rfl
  rw [bytes, List.cons_append, decodeRune, ← List.cons_append, ← bytes, prefixed,
    Utf8.decode_char]
  simp

/-- The runes of an encoded text are its characters. -/
theorem runes_encode (text : List Char) : runes (utf8 text) = text.map some := by
  induction text with
  | nil => rfl
  | cons c text ih =>
      obtain ⟨b, tail, bytes, width⟩ := runeWidth_encode c
      have first := decodeRune_encode c (utf8 text)
      rw [bytes] at first
      rw [utf8_cons, bytes, List.cons_append, runes, runesFrom, ← List.cons_append, first]
      simp only [width, Nat.add_sub_cancel, runesFrom_append, ih, List.map_cons]

end VpsDashboard.Foundation
