/-
# VpsDashboard.Foundation.Go — the parts of Go's standard library the model uses

Each definition follows the documented behaviour of the package it is named
after: `time`, `strings`, `net/url`, `encoding/base64`, `net/http` headers and
the decoding half of `encoding/json`.

`Json.Decoder` is `json.Unmarshal` into an existing value: members are matched
to fields by exact name first and by case folding second, unknown members are
skipped, `null` leaves a field as it is, and a value of the wrong kind is an
error.  A field that no member names keeps its old value, so a document that
lacks a field is accepted.
-/
import Mathlib.Algebra.Ring.Int.Defs
import Mathlib.Algebra.Ring.Nat

namespace VpsDashboard.Foundation

set_option autoImplicit false

/-! ## time -/

/-- An instant, in nanoseconds since the Unix epoch. -/
abbrev Time := Int

/-- A `time.Duration`, in nanoseconds. -/
abbrev Duration := Int

namespace Time

def second : Duration := 1000000000
def minute : Duration := 60 * second
def hour : Duration := 60 * minute

/-- `t.After(u)`. -/
def after (t u : Time) : Bool := decide (u < t)

/-- `t.UnixMilli()`. -/
def unixMilli (t : Time) : Int := t / 1000000

/-- `int64` arithmetic wraps around. -/
def wrap64 (n : Int) : Int := n.bmod (2 ^ 64)

theorem wrap64_of_fits {n : Int} (fits : n.natAbs < 2 ^ 63) : wrap64 n = n :=
  Int.bmod_eq_of_le (by omega) (by omega)

/-- Seconds from year 1, where `time.Time` counts from, to the Unix epoch. -/
def unixToInternal : Int := 62135596800

/-- The saturating sum of seconds in `Time.Add`. -/
def saturate (sec : Int) : Int :=
  if 2 ^ 63 ≤ sec then 2 ^ 63 - 1 else if sec < -2 ^ 63 then -(2 ^ 63 - 1) else sec

/-- `time.Unix(sec, 0).Add(time.Duration(n) * time.Second)` for any two `int64`:
the conversion and the product wrap, the sum of seconds saturates. -/
def unixPlusSeconds (sec n : Int) : Time :=
  let base := wrap64 (sec + unixToInternal)
  let d := wrap64 (n * second)
  (saturate (base + d / second) - unixToInternal) * second + d % second

/-- Whether `Time.MarshalJSON` accepts the year, which must be within [0, 9999]. -/
def jsonYear (t : Time) : Bool :=
  decide (-62167219200 * second ≤ t ∧ t < 253402300800 * second)

end Time

/-! ## strings, net/url and encoding/base64 -/

/-- `unicode.IsSpace`. -/
def isSpace (c : Char) : Bool :=
  let n := c.toNat
  (9 ≤ n && n ≤ 13) || n == 32 || n == 0x85 || n == 0xA0 || n == 0x1680 ||
    (0x2000 ≤ n && n ≤ 0x200A) || n == 0x2028 || n == 0x2029 || n == 0x202F || n == 0x205F ||
    n == 0x3000

/-- `strings.TrimSpace`. -/
def trimSpace (s : String) : String :=
  String.ofList ((s.toList.dropWhile isSpace).reverse.dropWhile isSpace).reverse

theorem mem_dropWhile {p : Char → Bool} {l : List Char} {c : Char} (member : c ∈ l)
    (kept : p c = false) : c ∈ l.dropWhile p := by
  rw [← List.takeWhile_append_dropWhile (p := p) (l := l)] at member
  rcases List.mem_append.mp member with dropped | rest
  · have all : (l.takeWhile p).all p = true := List.all_takeWhile
    rw [List.all_eq_true.mp all c dropped] at kept
    cases kept
  · exact rest

/-- `strings.TrimSpace` removes nothing but white space. -/
theorem mem_trimSpace {s : String} {c : Char} (member : c ∈ s.toList)
    (solid : isSpace c = false) : c ∈ (trimSpace s).toList := by
  rw [trimSpace, String.toList_ofList, List.mem_reverse]
  apply mem_dropWhile _ solid
  exact List.mem_reverse.mpr (mem_dropWhile member solid)

/-- The representative of a character's case-folding class, exact on the classes
of the ASCII letters: U+017F folds with `s` and U+212A with `k`. -/
def foldChar (c : Char) : Char :=
  if 'A' ≤ c && c ≤ 'Z' then Char.ofNat (c.toNat + 32)
  else if c.toNat == 0x17F then 's'
  else if c.toNat == 0x212A then 'k'
  else c

/-- `strings.EqualFold`, when one of the strings is ASCII. -/
def equalFold (s t : String) : Bool := s.toList.map foldChar == t.toList.map foldChar

def hexDigit (n : Nat) : Char :=
  if n < 10 then Char.ofNat (48 + n) else Char.ofNat (55 + n)

def queryEscapeByte (b : UInt8) : List Char :=
  let c := Char.ofNat b.toNat
  if c.isAlphanum || c == '-' || c == '_' || c == '.' || c == '~' then [c]
  else if c == ' ' then ['+']
  else ['%', hexDigit (b.toNat / 16), hexDigit (b.toNat % 16)]

/-- `url.QueryEscape`. -/
def queryEscape (s : String) : String :=
  String.ofList (s.toUTF8.toList.flatMap queryEscapeByte)

def base64Char (n : Nat) : Char :=
  if n < 26 then Char.ofNat (65 + n)
  else if n < 52 then Char.ofNat (71 + n)
  else if n < 62 then Char.ofNat (n - 4)
  else if n = 62 then '-' else '_'

/-- `base64.RawURLEncoding.EncodeToString`, three bytes to four characters. -/
def rawURLEncodeChars : List UInt8 → List Char
  | a :: b :: c :: rest =>
      let n := a.toNat * 65536 + b.toNat * 256 + c.toNat
      base64Char (n / 262144) :: base64Char (n / 4096 % 64) :: base64Char (n / 64 % 64) ::
        base64Char (n % 64) :: rawURLEncodeChars rest
  | [a, b] =>
      let n := a.toNat * 1024 + b.toNat * 4
      [base64Char (n / 4096), base64Char (n / 64 % 64), base64Char (n % 64)]
  | [a] =>
      let n := a.toNat * 16
      [base64Char (n / 64), base64Char (n % 64)]
  | [] => []

def rawURLEncode (bytes : List UInt8) : String := String.ofList (rawURLEncodeChars bytes)

theorem base64Char_inj : ∀ n < 64, ∀ m < 64, base64Char n = base64Char m → n = m := by
  decide +kernel

theorem toNat_inj {a b : UInt8} (same : a.toNat = b.toNat) : a = b := UInt8.toNat.inj same

/-- The digits of a quantum give back its bytes. -/
theorem quantum_inj {a b c a' b' c' : UInt8}
    (same : a.toNat * 65536 + b.toNat * 256 + c.toNat = a'.toNat * 65536 + b'.toNat * 256 + c'.toNat) :
    a = a' ∧ b = b' ∧ c = c' := by
  have bytes := And.intro b.toNat_lt (And.intro c.toNat_lt (And.intro b'.toNat_lt c'.toNat_lt))
  refine ⟨toNat_inj ?_, toNat_inj ?_, toNat_inj ?_⟩ <;> omega

/-- No two texts are encoded the same. -/
theorem rawURLEncodeChars_inj {left right : List UInt8}
    (same : rawURLEncodeChars left = rawURLEncodeChars right) : left = right := by
  induction left using rawURLEncodeChars.induct generalizing right with
  | case1 a b c rest ih =>
      rw [rawURLEncodeChars.eq_def right] at same
      split at same
      · rename_i a' b' c' rest'
        simp only [rawURLEncodeChars, List.cons.injEq] at same
        obtain ⟨first, second, third, fourth, tail⟩ := same
        have bounds := And.intro a.toNat_lt (And.intro b.toNat_lt (And.intro c.toNat_lt
          (And.intro a'.toNat_lt (And.intro b'.toNat_lt c'.toNat_lt))))
        have q₁ := base64Char_inj _ (by omega) _ (by omega) first
        have q₂ := base64Char_inj _ (by omega) _ (by omega) second
        have q₃ := base64Char_inj _ (by omega) _ (by omega) third
        have q₄ := base64Char_inj _ (by omega) _ (by omega) fourth
        have whole : a.toNat * 65536 + b.toNat * 256 + c.toNat =
            a'.toNat * 65536 + b'.toNat * 256 + c'.toNat := by omega
        obtain ⟨rfl, rfl, rfl⟩ := quantum_inj whole
        rw [ih tail]
      · simp [rawURLEncodeChars] at same
      · simp [rawURLEncodeChars] at same
      · simp [rawURLEncodeChars] at same
  | case2 a b =>
      rw [rawURLEncodeChars.eq_def right] at same
      split at same
      · simp [rawURLEncodeChars] at same
      · rename_i a' b'
        simp only [rawURLEncodeChars, List.cons.injEq, and_true] at same
        obtain ⟨first, second, third⟩ := same
        have bounds := And.intro a.toNat_lt (And.intro b.toNat_lt (And.intro a'.toNat_lt b'.toNat_lt))
        have q₁ := base64Char_inj _ (by omega) _ (by omega) first
        have q₂ := base64Char_inj _ (by omega) _ (by omega) second
        have q₃ := base64Char_inj _ (by omega) _ (by omega) third
        have whole : a.toNat * 65536 + b.toNat * 256 + (0 : UInt8).toNat =
            a'.toNat * 65536 + b'.toNat * 256 + (0 : UInt8).toNat := by omega
        obtain ⟨rfl, rfl, -⟩ := quantum_inj whole
        rfl
      · simp [rawURLEncodeChars] at same
      · simp [rawURLEncodeChars] at same
  | case3 a =>
      rw [rawURLEncodeChars.eq_def right] at same
      split at same
      · simp [rawURLEncodeChars] at same
      · simp [rawURLEncodeChars] at same
      · rename_i a'
        simp only [rawURLEncodeChars, List.cons.injEq, and_true] at same
        obtain ⟨first, second⟩ := same
        have bounds := And.intro a.toNat_lt a'.toNat_lt
        have q₁ := base64Char_inj _ (by omega) _ (by omega) first
        have q₂ := base64Char_inj _ (by omega) _ (by omega) second
        obtain rfl : a = a' := toNat_inj (by omega)
        rfl
      · simp [rawURLEncodeChars] at same
  | case4 =>
      rw [rawURLEncodeChars.eq_def right] at same
      split at same
      · simp [rawURLEncodeChars] at same
      · simp [rawURLEncodeChars] at same
      · simp [rawURLEncodeChars] at same
      · rfl

theorem rawURLEncode_inj {left right : List UInt8} (same : rawURLEncode left = rawURLEncode right) :
    left = right := rawURLEncodeChars_inj (String.ofList_injective same)

/-- The value of a character of the standard base64 alphabet. -/
def base64Value (c : Char) : Option Nat :=
  if 'A' ≤ c && c ≤ 'Z' then some (c.toNat - 65)
  else if 'a' ≤ c && c ≤ 'z' then some (c.toNat - 71)
  else if '0' ≤ c && c ≤ '9' then some (c.toNat + 4)
  else if c = '+' then some 62
  else if c = '/' then some 63
  else none

/-- One quantum of four characters at a time; `=` may only pad the last one. -/
def base64Quanta : List Char → Option (List UInt8)
  | [] => some []
  | a :: b :: c :: d :: rest => do
      let x ← base64Value a
      let y ← base64Value b
      let first := UInt8.ofNat (x * 4 + y / 16)
      if c = '=' ∧ d = '=' ∧ rest = [] then return [first]
      let z ← base64Value c
      let second := UInt8.ofNat (y % 16 * 16 + z / 4)
      if d = '=' ∧ rest = [] then return [first, second]
      let w ← base64Value d
      let tail ← base64Quanta rest
      return first :: second :: UInt8.ofNat (z % 4 * 64 + w) :: tail
  | _ => none

/-- `base64.StdEncoding.DecodeString`, which skips line breaks. -/
def base64Decode (s : String) : Option (List UInt8) :=
  base64Quanta (s.toList.filter fun c => c != '\r' && c != '\n')

/-! ## net/http headers and query parameters -/

/-- The first value of a key, or the empty string: `url.Values.Get`. -/
def firstValue (key : String) (pairs : List (String × String)) : String :=
  ((pairs.find? fun pair => pair.1 == key).map Prod.snd).getD ""

/-- `http.Header.Get`, whose keys are compared in canonical form. -/
def headerValue (key : String) (headers : List (String × String)) : String :=
  ((headers.find? fun header => equalFold header.1 key).map Prod.snd).getD ""

/-! ## encoding/json -/

/-- A JSON document; a number is `int` when its literal has neither fraction nor
exponent. -/
inductive Json where
  | null
  | bool (b : Bool)
  | int (n : Int)
  | decimal (literal : String)
  | str (s : String)
  | arr (items : List Json)
  | obj (members : List (String × Json))

namespace Json

/-- `json.Unmarshal` into a value of type `α`. -/
abbrev Decoder (α : Type) := α → Json → Except String α

/-- One field of a struct: the name of its tag and how a member's value is stored. -/
structure Field (α : Type) where
  name : String
  store : Decoder α

namespace Decoder

def string : Decoder String
  | old, .null => .ok old
  | _, .str s => .ok s
  | _, _ => .error "json: cannot unmarshal value into Go value of type string"

/-- A 64-bit signed integer: only integer literals, and only those in range. -/
def int : Decoder Int
  | old, .null => .ok old
  | _, .int n =>
      if -2 ^ 63 ≤ n ∧ n < 2 ^ 63 then .ok n
      else .error "json: cannot unmarshal number into Go value of type int"
  | _, _ => .error "json: cannot unmarshal value into Go value of type int"

variable {α β : Type}

/-- The field a member is stored in: the one of exactly that name, else the first
one whose name is equal under case folding. -/
def fieldFor (fields : List (Field α)) (name : String) : Option (Field α) :=
  (fields.find? fun field => field.name == name).or
    (fields.find? fun field => equalFold field.name name)

def members (fields : List (Field α)) : α → List (String × Json) → Except String α
  | value, [] => .ok value
  | value, (name, json) :: rest =>
      match fieldFor fields name with
      | none => members fields value rest
      | some field =>
          match field.store value json with
          | .ok value' => members fields value' rest
          | .error e => .error e

def struct (fields : List (Field α)) : Decoder α
  | old, .null => .ok old
  | old, .obj given => members fields old given
  | _, _ => .error "json: cannot unmarshal value into Go struct"

/-- The elements of a slice, each decoded into a zero value. -/
def elements (zero : α) (element : Decoder α) : List Json → Except String (List α)
  | [] => .ok []
  | json :: rest =>
      match element zero json with
      | .error e => .error e
      | .ok value =>
          match elements zero element rest with
          | .error e => .error e
          | .ok values => .ok (value :: values)

/-- A slice, which is nil after a `null`. -/
def slice (zero : α) (element : Decoder α) : Decoder (Option (List α))
  | _, .null => .ok none
  | _, .arr items =>
      match elements zero element items with
      | .error e => .error e
      | .ok values => .ok (some values)
  | _, _ => .error "json: cannot unmarshal value into Go slice"

/-- A field read by `get` and written by `set`, decoded by `inner`. -/
def field (name : String) (get : α → β) (set : α → β → α) (inner : Decoder β) : Field α where
  name := name
  store value json :=
    match inner (get value) json with
    | .ok new => .ok (set value new)
    | .error e => .error e

end Decoder

end Json

end VpsDashboard.Foundation
