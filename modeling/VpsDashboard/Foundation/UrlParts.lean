/-
# VpsDashboard.Foundation.UrlParts — texts that are written into a URL

A text of any bytes is escaped into a segment of a path or into a query, the pieces are
put together, and whoever receives the URL takes it apart again.

* `parse_join` — scheme, host, path and query are found again, whatever was escaped;
* `pathUnescape_pathEscape` — a segment is read back;
* `removeDotSegments_joinSegments` — the removal of dot segments goes segment by segment;
* `parseQuery_encode` — a query is read back, sorted by name.
-/
import Mathlib.Data.List.Sort
import Mathlib.Data.List.TakeWhile
import VpsDashboard.Foundation.Url
import VpsDashboard.Foundation.Utf8

namespace VpsDashboard.Foundation

set_option autoImplicit false

/-! ## Paths -/

/-- A byte as it is if its character is plain, and otherwise as two digits. -/
def percentByte (plain : Char → Bool) (b : UInt8) : List Char :=
  let c := Char.ofNat b.toNat
  if plain c then [c] else ['%', hexDigit (b.toNat / 16), hexDigit (b.toNat % 16)]

/-- What is not escaped in a segment of a path. -/
def segmentPlain (c : Char) : Bool := unreserved c || ['$', '&', '+', '=', ':', '@'].contains c

/-- `url.PathEscape`. -/
def pathEscape (text : List UInt8) : List Char := text.flatMap (percentByte segmentPlain)

/-- `url.PathUnescape`, where a `+` stands for itself. -/
def pathUnescape : List Char → Option (List UInt8)
  | [] => some []
  | '%' :: high :: low :: rest => do
      let x ← hexValue high
      let y ← hexValue low
      return UInt8.ofNat (x * 16 + y) :: (← pathUnescape rest)
  | '%' :: _ => none
  | c :: rest => do return String.utf8EncodeChar c ++ (← pathUnescape rest)

theorem pathUnescape_cons {c : Char} (notPercent : c ≠ '%') (rest : List Char) :
    pathUnescape (c :: rest) = (pathUnescape rest).map (String.utf8EncodeChar c ++ ·) := by
  rw [pathUnescape.eq_4 c rest (fun _ _ _ percent => absurd percent notPercent) notPercent]
  cases pathUnescape rest <;> rfl

theorem pathUnescape_percent {high low : Char} {x y : Nat} (first : hexValue high = some x)
    (second : hexValue low = some y) (rest : List Char) :
    pathUnescape ('%' :: high :: low :: rest) =
      (pathUnescape rest).map (UInt8.ofNat (x * 16 + y) :: ·) := by
  rw [pathUnescape, first, second]
  cases pathUnescape rest <;> rfl

/-- Text without escapes stands for its own bytes. -/
theorem pathUnescape_append {text : List Char} (literal : '%' ∉ text) (rest : List Char) :
    pathUnescape (text ++ rest) = (pathUnescape rest).map (utf8 text ++ ·) := by
  induction text with
  | nil => simp
  | cons c text ih =>
      simp only [List.mem_cons, not_or] at literal
      rw [List.cons_append, pathUnescape_cons (Ne.symm literal.1), ih literal.2, Option.map_map]
      simp [Function.comp_def]

theorem segmentPlain_byte : ∀ n < 256, segmentPlain (Char.ofNat n) = true →
    Char.ofNat n ≠ '%' ∧ String.utf8EncodeChar (Char.ofNat n) = [UInt8.ofNat n] := by
  decide +kernel

/-- A byte is read back, whatever follows. -/
theorem pathUnescape_percentByte (b : UInt8) (rest : List Char) :
    pathUnescape (percentByte segmentPlain b ++ rest) = (pathUnescape rest).map (b :: ·) := by
  have small : b.toNat < 256 := b.toNat_lt
  rw [percentByte]
  split
  · rename_i free
    obtain ⟨notPercent, bytes⟩ := segmentPlain_byte b.toNat small free
    rw [List.singleton_append, pathUnescape_cons notPercent, bytes, UInt8.ofNat_toNat]
    rfl
  · rw [List.cons_append, List.cons_append, List.cons_append, List.nil_append,
      pathUnescape_percent (hexValue_hexDigit _ (by omega)) (hexValue_hexDigit _ (by omega)),
      show b.toNat / 16 * 16 + b.toNat % 16 = b.toNat by omega, UInt8.ofNat_toNat]

theorem pathUnescape_pathEscape_append (text : List UInt8) (rest : List Char) :
    pathUnescape (pathEscape text ++ rest) = (pathUnescape rest).map (text ++ ·) := by
  induction text with
  | nil => simp [pathEscape]
  | cons b text ih =>
      rw [pathEscape, List.flatMap_cons, List.append_assoc, pathUnescape_percentByte,
        ← pathEscape, ih, Option.map_map]
      rfl

/-- **A segment is read back.** -/
@[simp] theorem pathUnescape_pathEscape (text : List UInt8) :
    pathUnescape (pathEscape text) = some text := by
  have whole := pathUnescape_pathEscape_append text []
  simpa [pathUnescape] using whole

/-- What is not escaped in a path. -/
def pathPlain (c : Char) : Bool :=
  unreserved c || ['$', '&', '+', ',', '/', ':', ';', '=', '@'].contains c

/-- What may stand in a path that is sent as it was written; 39 is the apostrophe. -/
def validEncoded (c : Char) : Bool :=
  pathPlain c || ['!', Char.ofNat 39, '(', ')', '*', '[', ']', '%'].contains c

/-- `EscapedPath` of the URL that was parsed with this path, none for a wrong escape. -/
def escapedPath (path : List Char) : Option (List Char) :=
  (pathUnescape path).map fun bytes =>
    if path.all validEncoded then path else bytes.flatMap (percentByte pathPlain)

theorem percentByte_safe : ∀ n < 256, (percentByte segmentPlain (UInt8.ofNat n)).all (fun c =>
    validEncoded c && !(['/', '?', '#'].contains c)) = true := by
  decide +kernel

/-- An escaped segment has only characters of a path, and none that ends the segment. -/
theorem pathEscape_safe {text : List UInt8} {c : Char} (member : c ∈ pathEscape text) :
    validEncoded c = true ∧ c ∉ ['/', '?', '#'] := by
  simpa using all_of_mem_flatMap percentByte_safe member

/-! ## Dot segments -/

def dot : List Char := ['.']

def dotDot : List Char := ['.', '.']

/-- The segments that remain, `kept` being the ones before them, the last one first.  A dot
segment at the end leaves an empty one. -/
def withoutDots (kept : List (List Char)) : List (List Char) → List (List Char)
  | [] => kept.reverse
  | [last] =>
      if last = dot then ([] :: kept).reverse
      else if last = dotDot then ([] :: kept.tail).reverse
      else (last :: kept).reverse
  | segment :: rest =>
      if segment = dot then withoutDots kept rest
      else if segment = dotDot then withoutDots kept.tail rest
      else withoutDots (segment :: kept) rest

/-- The removal of dot segments; the path of a request begins with a slash. -/
def removeDotSegments (path : List Char) : List Char :=
  '/' :: ['/'].intercalate (withoutDots [] (path.tail.splitOn '/'))

/-- A path of these segments. -/
def joinSegments (segments : List (List Char)) : List Char := '/' :: ['/'].intercalate segments

theorem removeDotSegments_joinSegments {segments : List (List Char)} (nonempty : segments ≠ [])
    (bare : ∀ segment ∈ segments, '/' ∉ segment) :
    removeDotSegments (joinSegments segments) = joinSegments (withoutDots [] segments) := by
  rw [removeDotSegments, joinSegments, List.tail_cons, List.splitOn_intercalate '/' bare nonempty]
  rfl

/-! ## Queries -/

/-- `url.QueryEscape` of any bytes. -/
def queryEscapeBytes (text : List UInt8) : List Char := text.flatMap queryEscapeByte

theorem queryUnescape_queryEscapeBytes (text : List UInt8) :
    queryUnescape (queryEscapeBytes text) = some text :=
  queryUnescape_flatMap text

/-- An escaped text has none of the characters that divide a query or end it. -/
theorem queryEscapeBytes_safe {text : List UInt8} {c : Char} (member : c ∈ queryEscapeBytes text) :
    c ∉ ['&', ';', '=', '#'] := by
  simpa using all_of_mem_flatMap queryEscapeByte_safe member

/-- `url.Values` with one value a name. -/
abbrev Values := List (String × List UInt8)

namespace Values

def set (values : Values) (name : String) (value : List UInt8) : Values :=
  (name, value) :: values.filter fun entry => entry.1 != name

/-- Strings are ordered by their bytes, which is the order of their characters. -/
def nameLE (a b : String) : Bool :=
  !List.lex b.toList a.toList fun x y => decide (x.toNat < y.toNat)

/-- In the order of the names. -/
def sorted (values : Values) : Values := values.insertionSort fun a b => nameLE a.1 b.1 = true

def pairText (entry : String × List UInt8) : List Char :=
  queryEscapeBytes (utf8 entry.1.toList) ++ '=' :: queryEscapeBytes entry.2

def encode (values : Values) : List Char := ['&'].intercalate (values.sorted.map pairText)

end Values

/-- `url.ParseQuery`: the pairs of a query in their order; a piece that is empty, has a
semicolon or a wrong escape is left out. -/
def parseQuery (query : List Char) : List (List UInt8 × List UInt8) :=
  (query.splitOn '&').filterMap fun piece =>
    if piece = [] ∨ ';' ∈ piece then none
    else do
      let name ← queryUnescape (splitParameter piece).1
      let value ← queryUnescape (splitParameter piece).2
      return (name, value)

/-- `url.Values.Get`: the first value of the name. -/
def getValue (pairs : List (List UInt8 × List UInt8)) (name : List UInt8) : List UInt8 :=
  ((pairs.find? fun pair => pair.1 = name).map Prod.snd).getD []

theorem pairText_safe {entry : String × List UInt8} :
    ∀ c ∈ ['&', ';', '#'], c ∉ Values.pairText entry := by
  intro c special member
  rcases List.mem_append.mp member with name | value
  · have safe := queryEscapeBytes_safe name
    grind
  · rcases List.mem_cons.mp value with rfl | value
    · revert special
      decide
    · have safe := queryEscapeBytes_safe value
      grind

/-- A query has none of the characters that no piece has, but for the `&`. -/
theorem hash_not_mem_encode (values : Values) : '#' ∉ values.encode := by
  rw [Values.encode]
  induction values.sorted with
  | nil => simp
  | cons entry rest ih =>
      cases rest with
      | nil => simpa using pairText_safe '#' (by decide)
      | cons next later =>
          rw [List.map_cons, List.map_cons, List.intercalate_cons_cons, ← List.map_cons]
          simp only [List.mem_append, not_or]
          exact ⟨⟨pairText_safe '#' (by decide), by decide⟩, ih⟩

theorem splitParameter_pairText (entry : String × List UInt8) :
    splitParameter (Values.pairText entry) =
      (queryEscapeBytes (utf8 entry.1.toList), queryEscapeBytes entry.2) := by
  have absent : '=' ∉ queryEscapeBytes (utf8 entry.1.toList) := by
    intro member
    have safe := queryEscapeBytes_safe member
    simp at safe
  obtain ⟨name, value⟩ := takeWhile_append_sep (queryEscapeBytes entry.2) absent
  rw [splitParameter, Values.pairText, name, value]
  rfl

/-- **A query is read back**, sorted by name. -/
theorem parseQuery_encode {values : Values} (nonempty : values ≠ []) :
    parseQuery values.encode = values.sorted.map fun entry => (utf8 entry.1.toList, entry.2) := by
  have some : values.sorted.map Values.pairText ≠ [] := by
    intro none
    have same : values.sorted.length = values.length := List.length_insertionSort _ _
    rw [List.map_eq_nil_iff.mp none] at same
    exact nonempty (List.length_eq_zero_iff.mp same.symm)
  have pieces : values.encode.splitOn '&' = values.sorted.map Values.pairText := by
    refine List.splitOn_intercalate '&' ?_ some
    intro piece member
    obtain ⟨entry, -, rfl⟩ := List.mem_map.mp member
    exact pairText_safe '&' (by decide)
  rw [parseQuery, pieces, List.filterMap_map, ← List.filterMap_eq_map]
  congr 1
  funext entry
  have whole : ¬(Values.pairText entry = [] ∨ ';' ∈ Values.pairText entry) := by
    rw [not_or]
    exact ⟨by simp [Values.pairText], pairText_safe ';' (by decide)⟩
  simp [whole, splitParameter_pairText, queryUnescape_queryEscapeBytes]

/-! ## URLs -/

/-- The parts of a URL as they are sent. -/
structure URL where
  scheme : List Char
  host : List Char
  path : List Char
  rawQuery : List Char

/-- `url.Parse` of a URL with a host, as far as the four parts go. -/
def URL.parse (url : List Char) : Option URL :=
  let u := url.takeWhile (· != '#')
  match (u.dropWhile (· != ':')).tail with
  | '/' :: '/' :: rest =>
      let before := rest.takeWhile (· != '?')
      (escapedPath (before.dropWhile (· != '/'))).map fun path =>
        { scheme := u.takeWhile (· != ':')
          host := before.takeWhile (· != '/')
          path := path
          rawQuery := Foundation.rawQuery rest }
  | _ => none

theorem validEncoded_ne {c : Char} (valid : validEncoded c = true) : c ≠ '?' ∧ c ≠ '#' := by
  constructor <;> rintro rfl <;> revert valid <;> decide

/-- **The parts are found again.** -/
theorem parse_join {scheme host path query : List Char} (schemeBare : ∀ c ∈ scheme, c ∉ [':', '#'])
    (hostBare : ∀ c ∈ host, c ∉ ['/', '?', '#']) (absolute : path.head? = some '/')
    (pathValid : ∀ c ∈ path, validEncoded c = true) (escapes : (pathUnescape path).isSome = true)
    (queryBare : '#' ∉ query) :
    URL.parse (scheme ++ ':' :: '/' :: '/' :: (host ++ (path ++ '?' :: query))) =
      some ⟨scheme, host, path, query⟩ := by
  have noFragment : ∀ c ∈ scheme ++ ':' :: '/' :: '/' :: (host ++ (path ++ '?' :: query)),
      (c != '#') = true := by
    have := fun c member => (validEncoded_ne (pathValid c member)).2
    simp only [List.mem_append, List.mem_cons, bne_iff_ne]
    grind
  have colon : ':' ∉ scheme := fun member => schemeBare _ member (by decide)
  have question : '?' ∉ host ++ path := by
    rw [List.mem_append, not_or]
    exact ⟨fun member => hostBare _ member (by decide),
      fun member => (validEncoded_ne (pathValid _ member)).1 rfl⟩
  obtain ⟨more, rfl⟩ : ∃ more, path = '/' :: more := by
    cases path with
    | nil => cases absolute
    | cons c more =>
        obtain rfl := Option.some.inj absolute
        exact ⟨more, rfl⟩
  have slash : '/' ∉ host := fun member => hostBare _ member (by decide)
  obtain ⟨before, after⟩ :=
    takeWhile_append_sep ('/' :: '/' :: (host ++ ('/' :: more ++ '?' :: query))) colon
  obtain ⟨path, rawQuery⟩ := takeWhile_append_sep query question
  obtain ⟨authority, rest⟩ := takeWhile_append_sep more slash
  obtain ⟨bytes, unescaped⟩ := Option.isSome_iff_exists.mp escapes
  have sent : escapedPath ('/' :: more) = some ('/' :: more) := by
    rw [escapedPath, unescaped, Option.map_some, if_pos (List.all_eq_true.mpr pathValid)]
  rw [List.append_assoc] at path rawQuery
  rw [URL.parse, List.takeWhile_eq_self_iff.mpr noFragment]
  simp only [before, after, List.tail_cons]
  rw [path, authority, rest, sent, Option.map_some, Foundation.rawQuery, rawQuery, List.tail_cons]

/-- That, of a URL without a query. -/
theorem parse_join_bare {scheme host path : List Char} (schemeBare : ∀ c ∈ scheme, c ∉ [':', '#'])
    (hostBare : ∀ c ∈ host, c ∉ ['/', '?', '#']) (absolute : path.head? = some '/')
    (pathValid : ∀ c ∈ path, validEncoded c = true) (escapes : (pathUnescape path).isSome = true) :
    URL.parse (scheme ++ ':' :: '/' :: '/' :: (host ++ path)) = some ⟨scheme, host, path, []⟩ := by
  have noFragment : ∀ c ∈ scheme ++ ':' :: '/' :: '/' :: (host ++ path), (c != '#') = true := by
    have := fun c member => (validEncoded_ne (pathValid c member)).2
    simp only [List.mem_append, List.mem_cons, bne_iff_ne]
    grind
  have noQuery : ∀ c ∈ host ++ path, (c != '?') = true := by
    have := fun c member => (validEncoded_ne (pathValid c member)).1
    simp only [List.mem_append, bne_iff_ne]
    grind
  have colon : ':' ∉ scheme := fun member => schemeBare _ member (by decide)
  obtain ⟨more, rfl⟩ : ∃ more, path = '/' :: more := by
    cases path with
    | nil => cases absolute
    | cons c more =>
        obtain rfl := Option.some.inj absolute
        exact ⟨more, rfl⟩
  have slash : '/' ∉ host := fun member => hostBare _ member (by decide)
  obtain ⟨before, after⟩ := takeWhile_append_sep ('/' :: '/' :: (host ++ '/' :: more)) colon
  obtain ⟨authority, rest⟩ := takeWhile_append_sep more slash
  obtain ⟨bytes, unescaped⟩ := Option.isSome_iff_exists.mp escapes
  have sent : escapedPath ('/' :: more) = some ('/' :: more) := by
    rw [escapedPath, unescaped, Option.map_some, if_pos (List.all_eq_true.mpr pathValid)]
  have query : Foundation.rawQuery (host ++ '/' :: more) = [] := by
    rw [Foundation.rawQuery, List.dropWhile_eq_nil_iff.mpr noQuery, List.tail_nil]
  rw [URL.parse, List.takeWhile_eq_self_iff.mpr noFragment]
  simp only [before, after, List.tail_cons]
  rw [List.takeWhile_eq_self_iff.mpr noQuery, authority, rest, sent, Option.map_some, query]

end VpsDashboard.Foundation
