/-
# VpsDashboard.Foundation.JsonString — strings as JSON text

`marshalString` is `json.Marshal` of a Go string, rune by rune: control characters,
quotes and backslashes are escaped, and so are `<`, `>`, `&` and the line separators
U+2028 and U+2029; an invalid byte becomes the escape of U+FFFD.  Its text has no line
break (`newline_not_mem_marshalString`).

`parseString` is `JSON.parse` on the text of one string, and undoes it
(`parseString_marshalString`).  It answers an escaped surrogate with an error, which
Go never writes.
-/
import VpsDashboard.Foundation.Utf8

namespace VpsDashboard.Foundation

set_option autoImplicit false

namespace JsonString

def doubleQuote : Char := Char.ofNat 34
def backslash : Char := Char.ofNat 92

/-- The characters with an escape of two characters, and its second one. -/
def shortEscapes : List (Char × Char) :=
  [(doubleQuote, doubleQuote), (backslash, backslash), ('\n', 'n'), ('\r', 'r'), ('\t', 't'),
    (Char.ofNat 8, 'b'), (Char.ofNat 12, 'f')]

/-! ## json.Marshal -/

def hexLower (n : Nat) : Char := if n < 10 then Char.ofNat (48 + n) else Char.ofNat (87 + n)

def unicodeEscape (n : Nat) : List Char :=
  [backslash, 'u', hexLower (n / 4096 % 16), hexLower (n / 256 % 16), hexLower (n / 16 % 16),
    hexLower (n % 16)]

/-- Whether a character is written as a `\u` escape. -/
def escaped (c : Char) : Bool :=
  c.toNat < 0x20 || c == '<' || c == '>' || c == '&' || c.toNat == 0x2028 || c.toNat == 0x2029

def escapeRune : Option Char → List Char
  | none => unicodeEscape 0xFFFD
  | some c =>
      match shortEscapes.lookup c with
      | some e => [backslash, e]
      | none => if escaped c then unicodeEscape c.toNat else [c]

def marshalString (text : List (Option Char)) : List Char :=
  doubleQuote :: text.flatMap escapeRune ++ [doubleQuote]

/-! ## JSON.parse -/

def hexValue (c : Char) : Option Nat :=
  if '0' ≤ c ∧ c ≤ '9' then some (c.toNat - 48)
  else if 'a' ≤ c ∧ c ≤ 'f' then some (c.toNat - 87)
  else if 'A' ≤ c ∧ c ≤ 'F' then some (c.toNat - 55)
  else none

/-- The character of a short escape. -/
def unescape (e : Char) : Option Char :=
  if e = '/' then some '/' else (shortEscapes.find? fun pair => pair.2 == e).map Prod.fst

/-- The character of the four digits after `\u`. -/
def unicodeUnescape (a b c d : Char) : Option Char := do
  let n := (← hexValue a) * 4096 + (← hexValue b) * 256 + (← hexValue c) * 16 + (← hexValue d)
  if n.isValidChar then some (Char.ofNat n) else none

/-- The text after the opening quote, up to the closing one at the end. -/
def parseBody : List Char → Option (List Char)
  | [] => none
  | c :: rest =>
      if c = doubleQuote then if rest = [] then some [] else none
      else if c = backslash then
        match rest with
        | [] => none
        | e :: rest =>
            if e ≠ 'u' then do
              let char ← unescape e
              return char :: (← parseBody rest)
            else
              match rest with
              | a :: b :: c :: d :: rest => do
                  let char ← unicodeUnescape a b c d
                  return char :: (← parseBody rest)
              | _ => none
      else if c.toNat < 0x20 then none
      else (parseBody rest).map (c :: ·)

def parseString : List Char → Option (List Char)
  | [] => none
  | c :: rest => if c = doubleQuote then parseBody rest else none

/-! ## Parsing undoes marshalling -/

theorem hexValue_hexLower {n : Nat} (digit : n < 16) : hexValue (hexLower n) = some n := by
  have all : ∀ n < 16, hexValue (hexLower n) = some n := by decide
  exact all n digit

theorem unicodeUnescape_escape (c : Char) (small : c.toNat < 0x10000) :
    unicodeUnescape (hexLower (c.toNat / 4096 % 16)) (hexLower (c.toNat / 256 % 16))
      (hexLower (c.toNat / 16 % 16)) (hexLower (c.toNat % 16)) = some c := by
  have whole : c.toNat / 4096 % 16 * 4096 + c.toNat / 256 % 16 * 256 + c.toNat / 16 % 16 * 16 +
      c.toNat % 16 = c.toNat := by omega
  have valid : c.toNat.isValidChar := c.valid
  simp only [unicodeUnescape, hexValue_hexLower (Nat.mod_lt _ (by decide : 0 < 16)),
    Option.bind_eq_bind, Option.bind_some, whole, if_pos valid, Char.ofNat_toNat]

theorem shortEscapes_unescape {c e : Char} (found : shortEscapes.lookup c = some e) :
    unescape e = some c ∧ e ≠ 'u' ∧ e ≠ '\n' := by
  have all : ∀ pair ∈ shortEscapes,
      unescape pair.2 = some pair.1 ∧ pair.2 ≠ 'u' ∧ pair.2 ≠ '\n' := by decide
  obtain ⟨before, after, split, -⟩ := List.lookup_eq_some_iff.mp found
  exact all (c, e) (by rw [split]; simp)

theorem lookup_eq_none_ne {c : Char} (none : shortEscapes.lookup c = none) :
    c ≠ doubleQuote ∧ c ≠ backslash ∧ c ≠ '\n' := by
  refine ⟨?_, ?_, ?_⟩
  all_goals
    rintro rfl
    revert none
    decide

/-- The escape of one character is parsed to that character. -/
theorem parseBody_escapeRune (c : Char) (rest : List Char) :
    parseBody (escapeRune (some c) ++ rest) = (parseBody rest).map (c :: ·) := by
  have quoted : ¬ backslash = doubleQuote := by decide
  unfold escapeRune
  dsimp only
  split
  · rename_i e found
    obtain ⟨char, notU, -⟩ := shortEscapes_unescape found
    rw [List.cons_append, List.cons_append, List.nil_append, parseBody.eq_def]
    dsimp only
    rw [if_neg quoted, if_pos rfl, if_pos notU, char]
    cases parseBody rest <;> rfl
  · rename_i none
    obtain ⟨noQuote, noBackslash, -⟩ := lookup_eq_none_ne none
    split
    · rename_i escape
      have small : c.toNat < 0x10000 := by
        simp only [escaped, Bool.or_eq_true, decide_eq_true_eq, beq_iff_eq] at escape
        rcases escape with ((((control | rfl) | rfl) | rfl) | line) | paragraph
        · omega
        · decide
        · decide
        · decide
        · omega
        · omega
      simp only [unicodeEscape, List.cons_append, List.nil_append]
      rw [parseBody.eq_def]
      dsimp only
      rw [if_neg quoted, if_pos rfl, if_neg (by decide), unicodeUnescape_escape c small]
      cases parseBody rest <;> rfl
    · rename_i plain
      have printable : ¬ c.toNat < 0x20 := by
        intro control
        simp [escaped, control] at plain
      rw [List.singleton_append, parseBody.eq_def]
      dsimp only
      rw [if_neg noQuote, if_neg noBackslash, if_neg printable]

/-- **Parsing undoes marshalling.** -/
theorem parseString_marshalString (text : List Char) :
    parseString (marshalString (text.map some)) = some text := by
  have body : parseBody ((text.map some).flatMap escapeRune ++ [doubleQuote]) = some text := by
    induction text with
    | nil => rfl
    | cons c text ih =>
        rw [List.map_cons, List.flatMap_cons, List.append_assoc, parseBody_escapeRune, ih]
        rfl
  rw [marshalString, List.cons_append, parseString, if_pos rfl, body]

/-- The character that stands for an invalid byte. -/
def replacement : Char := Char.ofNat 0xFFFD

theorem parseBody_escapeRune_none (rest : List Char) :
    parseBody (escapeRune none ++ rest) = (parseBody rest).map (replacement :: ·) := by
  have quoted : ¬ backslash = doubleQuote := by decide
  have digits := unicodeUnescape_escape replacement (by decide)
  simp only [escapeRune, unicodeEscape, List.cons_append, List.nil_append]
  rw [parseBody.eq_def]
  dsimp only
  rw [if_neg quoted, if_pos rfl, if_neg (by decide)]
  rw [show replacement.toNat = 0xFFFD from by decide] at digits
  rw [digits]
  cases parseBody rest <;> rfl

/-- The same of any runes, with that character for the invalid ones. -/
theorem parseString_marshalString_runes (text : List (Option Char)) :
    parseString (marshalString text) = some (text.map fun rune => rune.getD replacement) := by
  have body : parseBody (text.flatMap escapeRune ++ [doubleQuote]) =
      some (text.map fun rune => rune.getD replacement) := by
    induction text with
    | nil => rfl
    | cons rune text ih =>
        rw [List.flatMap_cons, List.append_assoc]
        cases rune with
        | none =>
            rw [parseBody_escapeRune_none, ih]
            rfl
        | some c =>
            rw [parseBody_escapeRune, ih]
            rfl
  rw [marshalString, List.cons_append, parseString, if_pos rfl, body]

/-! ## No line break -/

theorem newline_not_mem_unicodeEscape (n : Nat) : '\n' ∉ unicodeEscape n := by
  have digits : ∀ k < 16, hexLower k ≠ '\n' := by decide
  have digit : ∀ k : Nat, '\n' ≠ hexLower (k % 16) := fun k =>
    (digits (k % 16) (Nat.mod_lt k (by decide))).symm
  have prefixes : '\n' ≠ backslash ∧ '\n' ≠ 'u' := by decide
  simp [unicodeEscape, digit, prefixes]

theorem newline_not_mem_escapeRune (rune : Option Char) : '\n' ∉ escapeRune rune := by
  have prefixed : '\n' ≠ backslash := by decide
  cases rune with
  | none => exact newline_not_mem_unicodeEscape _
  | some c =>
      unfold escapeRune
      dsimp only
      split
      · rename_i e found
        have other := (shortEscapes_unescape found).2.2
        simp [prefixed, other.symm]
      · rename_i none
        split
        · exact newline_not_mem_unicodeEscape _
        · simpa using (lookup_eq_none_ne none).2.2.symm

theorem newline_not_mem_marshalString (text : List (Option Char)) :
    '\n' ∉ marshalString text := by
  have quote : '\n' ≠ doubleQuote := by decide
  have runes : '\n' ∉ text.flatMap escapeRune := by
    intro found
    obtain ⟨rune, -, inside⟩ := List.mem_flatMap.mp found
    exact newline_not_mem_escapeRune rune inside
  rw [marshalString, List.mem_append, List.mem_cons, List.mem_singleton]
  rintro ((same | inside) | same)
  · exact quote same
  · exact runes inside
  · exact quote same

end JsonString

end VpsDashboard.Foundation
