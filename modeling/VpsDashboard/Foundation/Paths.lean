/-
# VpsDashboard.Foundation.Paths — slash-separated paths

The names that `io/fs` accepts, `path.Clean` and `path.Base`, and the resolution of a
relative reference against the path of a URL.

* `cleanRooted_slash` — a valid name is clean already;
* `basePath_slash` — the base of a valid name is its last segment;
* `resolveReference_directory` — a reference that ends in a slash leads to a directory,
  wherever it is followed from.
-/
import Mathlib.Data.List.DropRight
import VpsDashboard.Foundation.Fields
import VpsDashboard.Foundation.UrlParts

namespace VpsDashboard.Foundation

set_option autoImplicit false

/-! ## Valid names -/

/-- An element of a valid name. -/
def properSegment (segment : List Char) : Bool :=
  segment != [] && segment != dot && segment != dotDot

/-- `fs.ValidPath`. -/
def validPath (name : List Char) : Bool := name = dot || (name.splitOn '/').all properSegment

/-- A name that ends in a slash is not valid. -/
theorem not_validPath_slash (name : List Char) : validPath (name ++ ['/']) = false := by
  have notDot : name ++ ['/'] ≠ dot := by
    intro same
    have last := congrArg List.getLast? same
    simp [dot] at last
  rw [validPath, decide_eq_false notDot, List.splitOn_append_cons_self]
  simp [properSegment]

/-! ## Cleaning -/

/-- The segments that remain, `kept` being the ones before them, the last one first. -/
def cleanSegments (kept : List (List Char)) : List (List Char) → List (List Char)
  | [] => kept.reverse
  | segment :: rest =>
      if segment = [] ∨ segment = dot then cleanSegments kept rest
      else if segment = dotDot then cleanSegments kept.tail rest
      else cleanSegments (segment :: kept) rest

/-- `path.Clean` of a path that begins with a slash. -/
def cleanRooted (path : List Char) : List Char :=
  joinSegments (cleanSegments [] (path.splitOn '/'))

theorem cleanSegments_proper {segments : List (List Char)}
    (proper : segments.all properSegment = true) (kept : List (List Char)) :
    cleanSegments kept segments = kept.reverse ++ segments := by
  induction segments generalizing kept with
  | nil => simp [cleanSegments]
  | cons segment rest ih =>
      simp only [List.all_cons, properSegment, Bool.and_eq_true, bne_iff_ne, ne_eq] at proper
      obtain ⟨⟨⟨filled, notDot⟩, notDotDot⟩, later⟩ := proper
      rw [cleanSegments, if_neg (by simp [filled, notDot]), if_neg notDotDot,
        ih (by simpa [properSegment] using later)]
      simp

theorem splitOn_slash_cons (name : List Char) :
    ('/' :: name).splitOn '/' = [] :: name.splitOn '/' := by
  simp [List.splitOn_cons_eq_if_modifyHead]

/-- **A valid name is clean.** -/
theorem cleanRooted_slash {name : List Char}
    (proper : (name.splitOn '/').all properSegment = true) :
    cleanRooted ('/' :: name) = '/' :: name := by
  rw [cleanRooted, splitOn_slash_cons, cleanSegments, if_pos (.inl rfl),
    cleanSegments_proper proper, List.reverse_nil, List.nil_append, joinSegments,
    List.intercalate_splitOn]

/-! ## The last element -/

/-- `path.Base`. -/
def basePath (path : List Char) : List Char :=
  if path = [] then dot
  else
    let last := (path.rdropWhile (· == '/')).rtakeWhile (· != '/')
    if last = [] then ['/'] else last

/-- What comes after the last slash of a path that does not end in one. -/
theorem basePath_append {before last : List Char} (filled : last ≠ []) (bare : '/' ∉ last) :
    basePath (before ++ '/' :: last) = last := by
  have ends : ∀ c ∈ last.reverse, (c != '/') = true := by
    intro c member
    rw [bne_iff_ne]
    rintro rfl
    exact bare (List.mem_reverse.mp member)
  obtain ⟨c, rest, reversed⟩ := List.exists_cons_of_ne_nil (mt List.reverse_eq_nil_iff.mp filled)
  have notSlash : (c == '/') = false := by
    have := ends c (reversed ▸ List.mem_cons_self)
    simpa using this
  have kept : (before ++ '/' :: last).rdropWhile (· == '/') = before ++ '/' :: last := by
    rw [List.rdropWhile, List.reverse_append, List.reverse_cons, reversed]
    simp only [List.cons_append, List.dropWhile_cons, notSlash, Bool.false_eq_true, if_false]
    rw [← List.cons_append, ← List.cons_append, ← reversed]
    simp
  have taken : (before ++ '/' :: last).rtakeWhile (· != '/') = last := by
    rw [List.rtakeWhile, List.reverse_append, List.reverse_cons, List.append_assoc,
      List.takeWhile_append_of_pos ends]
    simp
  rw [basePath, if_neg (by simp), kept, taken]
  exact if_neg filled

theorem joinSegments_concat (front : List (List Char)) (last : List Char) :
    ∃ before, joinSegments (front ++ [last]) = before ++ '/' :: last := by
  induction front with
  | nil => exact ⟨[], by simp [joinSegments]⟩
  | cons segment rest ih =>
      obtain ⟨before, whole⟩ := ih
      obtain ⟨next, later, split⟩ := List.exists_cons_of_ne_nil
        (show rest ++ [last] ≠ [] by simp)
      refine ⟨'/' :: segment ++ before, ?_⟩
      rw [List.append_assoc, ← whole, List.cons_append, split, joinSegments,
        List.intercalate_cons_cons, joinSegments]
      simp

/-- The base of a valid name is its last segment. -/
theorem basePath_slash {name : List Char}
    (proper : (name.splitOn '/').all properSegment = true) :
    ∃ last ∈ name.splitOn '/', basePath ('/' :: name) = last := by
  have some := List.splitOn_ne_nil '/' name
  have whole : joinSegments (name.splitOn '/') = '/' :: name := by
    rw [joinSegments, List.intercalate_splitOn]
  rw [← List.dropLast_append_getLast some] at whole
  obtain ⟨before, apart⟩ := joinSegments_concat (name.splitOn '/').dropLast
    ((name.splitOn '/').getLast some)
  have member := List.getLast_mem some
  have filled := List.all_eq_true.mp proper _ member
  simp only [properSegment, Bool.and_eq_true, bne_iff_ne, ne_eq] at filled
  refine ⟨_, member, ?_⟩
  rw [← whole, apart]
  exact basePath_append filled.1.1 (not_mem_of_mem_splitOn member)

/-! ## References -/

/-- The path that a reference to another path leads to, from the path of a URL. -/
def resolveReference (base reference : List Char) : List Char :=
  removeDotSegments (base.rdropWhile (· != '/') ++ reference)

theorem withoutDots_directory (kept segments : List (List Char)) :
    ∃ front, withoutDots kept (segments ++ [[]]) = front ++ [[]] := by
  induction segments generalizing kept with
  | nil => exact ⟨kept.reverse, by simp [withoutDots, dot, dotDot]⟩
  | cons segment rest ih =>
      obtain ⟨next, later, split⟩ := List.exists_cons_of_ne_nil
        (show rest ++ [[]] ≠ [] by simp)
      rw [List.cons_append, split, withoutDots, ← split]
      · split
        · exact ih _
        · split <;> exact ih _
      · simp

theorem joinSegments_directory (front : List (List Char)) :
    (joinSegments (front ++ [[]])).getLast? = some '/' := by
  induction front with
  | nil => rfl
  | cons segment rest ih =>
      obtain ⟨next, later, split⟩ := List.exists_cons_of_ne_nil
        (show rest ++ [[]] ≠ [] by simp)
      have longer : joinSegments (segment :: rest ++ [[]]) =
          '/' :: segment ++ joinSegments (rest ++ [[]]) := by
        rw [List.cons_append, split, joinSegments, List.intercalate_cons_cons, joinSegments]
        simp
      rw [longer, List.getLast?_append, ih]
      rfl

/-- **A reference that ends in a slash leads to a directory.** -/
theorem resolveReference_directory (base : List Char) {reference : List Char}
    (directory : reference.getLast? = some '/') :
    (resolveReference base reference).getLast? = some '/' := by
  obtain ⟨front, whole⟩ : ∃ front, base.rdropWhile (· != '/') ++ reference = front ++ ['/'] := by
    obtain ⟨front, rfl⟩ := List.getLast?_eq_some_iff.mp directory
    exact ⟨base.rdropWhile (· != '/') ++ front, by simp⟩
  rw [resolveReference, whole, removeDotSegments]
  cases front with
  | nil => rfl
  | cons c front =>
      rw [List.cons_append, List.tail_cons, List.splitOn_append_cons_self, List.splitOn_nil]
      obtain ⟨kept, ended⟩ := withoutDots_directory [] (front.splitOn '/')
      rw [ended]
      exact joinSegments_directory kept

end VpsDashboard.Foundation
