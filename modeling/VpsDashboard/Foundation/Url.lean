/-
# VpsDashboard.Foundation.Url — the parameters of a URL

Whoever receives a URL cuts its query at each `&` and each piece at its first `=`, and
undoes the escapes.  `queryParameter_queryText` says that this gives back the values that
were escaped by `queryEscape` and joined.
-/
import VpsDashboard.Foundation.Go

namespace VpsDashboard.Foundation

set_option autoImplicit false

/-! ## Escapes -/

def hexValue (c : Char) : Option Nat :=
  if '0' ≤ c && c ≤ '9' then some (c.toNat - 48)
  else if 'A' ≤ c && c ≤ 'F' then some (c.toNat - 55)
  else if 'a' ≤ c && c ≤ 'f' then some (c.toNat - 87)
  else none

/-- `url.QueryUnescape`: the bytes that the text stands for. -/
def queryUnescape : List Char → Option (List UInt8)
  | [] => some []
  | '%' :: high :: low :: rest => do
      let x ← hexValue high
      let y ← hexValue low
      return UInt8.ofNat (x * 16 + y) :: (← queryUnescape rest)
  | '%' :: _ => none
  | '+' :: rest => do return 32 :: (← queryUnescape rest)
  | c :: rest => do return String.utf8EncodeChar c ++ (← queryUnescape rest)

/-- Any other character stands for its UTF-8 encoding. -/
theorem queryUnescape_cons {c : Char} (notPercent : c ≠ '%') (notPlus : c ≠ '+')
    (rest : List Char) :
    queryUnescape (c :: rest) = (queryUnescape rest).map (String.utf8EncodeChar c ++ ·) := by
  rw [queryUnescape.eq_5 c rest (fun _ _ _ percent => absurd percent notPercent) notPercent notPlus]
  cases queryUnescape rest <;> rfl

theorem queryUnescape_plus (rest : List Char) :
    queryUnescape ('+' :: rest) = (queryUnescape rest).map (32 :: ·) := by
  rw [queryUnescape]
  cases queryUnescape rest <;> rfl

theorem queryUnescape_percent {high low : Char} {x y : Nat} (first : hexValue high = some x)
    (second : hexValue low = some y) (rest : List Char) :
    queryUnescape ('%' :: high :: low :: rest) =
      (queryUnescape rest).map (UInt8.ofNat (x * 16 + y) :: ·) := by
  rw [queryUnescape, first, second]
  cases queryUnescape rest <;> rfl

/-- The characters that are not escaped. -/
def unreserved (c : Char) : Bool :=
  c.isAlphanum || c == '-' || c == '_' || c == '.' || c == '~'

theorem unreserved_byte : ∀ n < 256, unreserved (Char.ofNat n) = true →
    Char.ofNat n ∉ ['%', '+'] ∧ String.utf8EncodeChar (Char.ofNat n) = [UInt8.ofNat n] := by
  decide +kernel

theorem hexValue_hexDigit : ∀ n < 16, hexValue (hexDigit n) = some n := by decide

/-- A byte is read back from its escape, whatever follows. -/
theorem queryUnescape_escapeByte (b : UInt8) (rest : List Char) :
    queryUnescape (queryEscapeByte b ++ rest) = (queryUnescape rest).map (b :: ·) := by
  have small : b.toNat < 256 := b.toNat_lt
  rw [queryEscapeByte]
  split
  · rename_i free
    obtain ⟨plain, bytes⟩ := unreserved_byte b.toNat small free
    simp only [List.mem_cons, not_or] at plain
    rw [List.singleton_append, queryUnescape_cons plain.1 plain.2.1, bytes, UInt8.ofNat_toNat]
    rfl
  · split
    · rename_i space
      have blank : Char.ofNat b.toNat = ' ' := by simpa using space
      have value : b.toNat = 32 := by
        have code := congrArg Char.toNat blank
        rwa [show (Char.ofNat b.toNat).toNat = b.toNat from
          (by decide +kernel : ∀ n < 256, (Char.ofNat n).toNat = n) _ small] at code
      rw [List.singleton_append, queryUnescape_plus, ← UInt8.ofNat_toNat (x := b), value]
      rfl
    · rw [List.cons_append, List.cons_append, List.cons_append, List.nil_append,
        queryUnescape_percent (hexValue_hexDigit _ (by omega)) (hexValue_hexDigit _ (by omega)),
        show b.toNat / 16 * 16 + b.toNat % 16 = b.toNat by omega, UInt8.ofNat_toNat]

/-- What is written for each byte has only good characters, so a text has. -/
theorem all_of_mem_flatMap {write : UInt8 → List Char} {good : Char → Bool}
    (each : ∀ n < 256, (write (UInt8.ofNat n)).all good = true) {text : List UInt8} {c : Char}
    (member : c ∈ text.flatMap write) : good c = true := by
  obtain ⟨b, -, inside⟩ := List.mem_flatMap.mp member
  have written := each b.toNat b.toNat_lt
  rw [UInt8.ofNat_toNat] at written
  exact List.all_eq_true.mp written c inside

theorem queryEscapeByte_safe : ∀ n < 256, (queryEscapeByte (UInt8.ofNat n)).all (fun c =>
    !(['&', ';', '=', '#'].contains c)) = true := by
  decide +kernel

theorem queryUnescape_flatMap (text : List UInt8) :
    queryUnescape (text.flatMap queryEscapeByte) = some text := by
  induction text with
  | nil => rfl
  | cons b bytes ih => rw [List.flatMap_cons, queryUnescape_escapeByte, ih, Option.map_some]

/-- What `queryEscape` writes is read back. -/
theorem queryUnescape_queryEscape (s : String) :
    queryUnescape (queryEscape s).toList = some s.toUTF8.toList := by
  rw [queryEscape, String.toList_ofList, queryUnescape_flatMap]

theorem amp_not_mem_queryEscape (s : String) : '&' ∉ (queryEscape s).toList := by
  rw [queryEscape, String.toList_ofList]
  intro member
  simpa using all_of_mem_flatMap queryEscapeByte_safe member

/-! ## Queries -/

/-- What follows the first `?`. -/
def rawQuery (url : List Char) : List Char := (url.dropWhile (· != '?')).tail

/-- A piece of a query, cut at its first `=`. -/
def splitParameter (piece : List Char) : List Char × List Char :=
  (piece.takeWhile (· != '='), (piece.dropWhile (· != '=')).tail)

/-- The bytes of the first parameter of this name. -/
def queryParameter (name url : String) : Option (List UInt8) :=
  ((((rawQuery url.toList).splitOn '&').map splitParameter).find?
    fun parameter => parameter.1 == name.toList).bind fun parameter => queryUnescape parameter.2

/-- A name and its value as they stand in a query. -/
def parameterText (parameter : String × String) : List Char :=
  parameter.1.toList ++ '=' :: (queryEscape parameter.2).toList

def queryText (parameters : List (String × String)) : List Char :=
  ['&'].intercalate (parameters.map parameterText)

/-- The name needs no escape. -/
def PlainName (name : String) : Prop := '&' ∉ name.toList ∧ '=' ∉ name.toList

instance (name : String) : Decidable (PlainName name) := inferInstanceAs (Decidable (_ ∧ _))

theorem takeWhile_append_sep {text : List Char} {sep : Char} (rest : List Char) (absent : sep ∉ text) :
    (text ++ sep :: rest).takeWhile (· != sep) = text ∧
      (text ++ sep :: rest).dropWhile (· != sep) = sep :: rest := by
  have all : ∀ c ∈ text, (c != sep) = true := by
    intro c member
    rw [bne_iff_ne]
    rintro rfl
    exact absent member
  rw [List.takeWhile_append_of_pos all, List.dropWhile_append_of_pos all]
  simp

theorem splitParameter_parameterText {parameter : String × String} (plain : PlainName parameter.1) :
    splitParameter (parameterText parameter) =
      (parameter.1.toList, (queryEscape parameter.2).toList) := by
  obtain ⟨name, value⟩ := takeWhile_append_sep (queryEscape parameter.2).toList plain.2
  rw [splitParameter, parameterText, name, value]
  rfl

theorem splitOn_queryText {parameters : List (String × String)} (nonempty : parameters ≠ [])
    (plain : ∀ name ∈ parameters.map Prod.fst, PlainName name) :
    (queryText parameters).splitOn '&' = parameters.map parameterText := by
  refine List.splitOn_intercalate '&' ?_ (by simpa using nonempty)
  intro piece member
  obtain ⟨parameter, given, rfl⟩ := List.mem_map.mp member
  simp [parameterText, (plain _ (List.mem_map_of_mem given)).1, amp_not_mem_queryEscape]

/-- **Parameters are read back.**  The first parameter of a name has the value that was
escaped. -/
theorem queryParameter_queryText {url : String} (base name : String)
    (parameters : List (String × String))
    (built : url.toList = base.toList ++ '?' :: queryText parameters) (noQuery : '?' ∉ base.toList)
    (nonempty : parameters ≠ []) (plain : ∀ name ∈ parameters.map Prod.fst, PlainName name) :
    queryParameter name url =
      (parameters.find? fun parameter => parameter.1 == name).map fun parameter =>
        parameter.2.toUTF8.toList := by
  have query : rawQuery url.toList = queryText parameters := by
    rw [rawQuery, built, (takeWhile_append_sep _ noQuery).2, List.tail_cons]
  rw [queryParameter, query, splitOn_queryText nonempty plain]
  clear query built nonempty
  induction parameters with
  | nil => rfl
  | cons parameter later ih =>
      have rest := ih fun other member => plain other (List.mem_cons_of_mem _ member)
      have here := splitParameter_parameterText (plain parameter.1 List.mem_cons_self)
      rw [List.map_cons, List.map_cons, here]
      by_cases same : parameter.1 = name
      · subst same
        simp [queryUnescape_queryEscape]
      · have different : parameter.1.toList ≠ name.toList := fun equal =>
          same (String.toList_inj.mp equal)
        rw [List.find?_cons_of_neg (by simpa using different),
          List.find?_cons_of_neg (by simpa using same)]
        exact rest

end VpsDashboard.Foundation
