/-
# VpsDashboard.Docker.HostRule — the host of a router rule

A router rule joins matchers such as Host(..) and PathPrefix(..), whose arguments stand in
backticks, with && and ||.  `extractHost` does not parse it: it searches for the first
text that looks like a host matcher, with a pattern that is anchored nowhere.

`extractHost_rule` — on the rules of the grammar below that is the first host matcher: no
match begins inside another matcher's name, since a name that ends in host is that word
itself, nor inside an argument, since none ends in an opening parenthesis.

Blanks are the characters of `\s`; what is trimmed from the result is all white space.
-/
import VpsDashboard.Foundation.Go
import VpsDashboard.Foundation.Regex

namespace VpsDashboard.Docker

open Foundation

set_option autoImplicit false

/-! ## The pattern -/

/-- The class `\s`. -/
def isBlank (c : Char) : Bool := [' ', '\t', '\n', Char.ofNat 12, '\r'].contains c

def backtick : Char := Char.ofNat 96

/-- A letter of a case-insensitive pattern. -/
def letter (c : Char) : Regex Char := .one fun d => foldChar d == c

def exactly (c : Char) : Regex Char := .one fun d => d == c

/-- `(?i)Host\s*\(\s*` and, in backticks, the group `([^`]+)`, then `\s*\)`. -/
def hostRulePattern : Regex Char := .chain
  [letter 'h', letter 'o', letter 's', letter 't', .many isBlank, exactly '(', .many isBlank,
    exactly backtick, .group 1 (.many1 fun c => c != backtick), exactly backtick, .many isBlank,
    exactly ')']

/-- `extractHost`. -/
def extractHost (rule : String) : String :=
  match hostRulePattern.find rule.toList with
  | some found => trimSpace (String.ofList (found.submatch 1))
  | none => ""

/-! ## The grammar of rules -/

/-- What stands in backticks.  It does not end in an opening parenthesis, not even before
blanks. -/
structure Argument where
  text : List Char
  filled : text ≠ []
  unquoted : backtick ∉ text
  closed : ∀ front trailing, text = front ++ '(' :: trailing → ¬ ∀ c ∈ trailing, isBlank c = true

def Argument.quoted (a : Argument) : List Char := [backtick] ++ a.text ++ [backtick]

def isNameChar (c : Char) : Bool := c.isAlphanum || c == '_'

/-- ASCII letters, digits and underscores, no digit first. -/
def isIdentifier : List Char → Bool
  | [] => false
  | c :: rest => isNameChar c && !c.isDigit && rest.all isNameChar

def hostWord : List Char := ['h', 'o', 's', 't']

/-- A matcher: its name, the blanks, and its arguments with what separates them. -/
structure Matcher where
  name : List Char
  gap : List Char
  inner : List Char
  first : Argument
  others : List (List Char × Argument)
  outer : List Char
  identifier : isIdentifier name = true
  whole : hostWord <:+ name.map Char.toLower → name.map Char.toLower = hostWord
  single : name.map Char.toLower = hostWord → others = []
  blanks : (∀ c ∈ gap, isBlank c = true) ∧ (∀ c ∈ inner, isBlank c = true) ∧
    ∀ c ∈ outer, isBlank c = true
  separated : ∀ other ∈ others, ',' ∈ other.1 ∧ ∀ c ∈ other.1, c = ',' ∨ isBlank c = true

namespace Matcher

variable (m : Matcher)

def isHost : Bool := m.name.map Char.toLower == hostWord

def arguments : List Char := m.first.quoted ++ m.others.flatMap fun other => other.1 ++ other.2.quoted

def text : List Char :=
  m.name ++ m.gap ++ ['('] ++ m.inner ++ m.arguments ++ m.outer ++ [')']

end Matcher

inductive Joiner where
  | and
  | or

def Joiner.text : Joiner → List Char
  | .and => [' ', '&', '&', ' ']
  | .or => [' ', '|', '|', ' ']

structure Rule where
  first : Matcher
  others : List (Joiner × Matcher)

namespace Rule

variable (rule : Rule)

def matchers : List Matcher := rule.first :: rule.others.map Prod.snd

def text : List Char :=
  rule.first.text ++ rule.others.flatMap fun other => other.1.text ++ other.2.text

end Rule

/-! ## Where a match begins -/

section Opening

variable {word gap inner : List Char}

/-- A match up to its quoted argument. -/
structure Opens (word gap inner : List Char) : Prop where
  word : word.map foldChar = hostWord
  gap : ∀ c ∈ gap, isBlank c = true
  inner : ∀ c ∈ inner, isBlank c = true

def opening (word gap inner rest : List Char) : List Char :=
  word ++ (gap ++ '(' :: (inner ++ backtick :: rest))

theorem matches_hostRulePattern_iff {u : List Char} {k : Regex.Groups Char} :
    Regex.Matches hostRulePattern u k ↔ ∃ word gap inner arg outer, Opens word gap inner ∧
      arg ≠ [] ∧ backtick ∉ arg ∧ (∀ c ∈ outer, isBlank c = true) ∧
        u = opening word gap inner (arg ++ backtick :: (outer ++ [')'])) ∧ k = [(1, arg)] := by
  simp only [hostRulePattern, letter, exactly, Regex.matches_chain_one_iff,
    Regex.matches_chain_many_iff, Regex.matches_chain_group_iff, Regex.matches_chain_nil_iff,
    beq_iff_eq, bne_iff_ne]
  constructor
  · rintro ⟨h, _, isH, rfl, o, _, isO, rfl, s, _, isS, rfl, t, _, isT, rfl, gap, _, gapBlank, rfl,
      _, _, rfl, rfl, inner, _, innerBlank, rfl, _, _, rfl, rfl, arg, _, _, filled, unquoted, rfl,
      ⟨_, _, rfl, rfl, outer, _, outerBlank, rfl, _, _, rfl, rfl, rfl, rfl⟩, rfl⟩
    refine ⟨[h, o, s, t], gap, inner, arg, outer, ⟨?_, gapBlank, innerBlank⟩, filled, ?_,
      outerBlank, rfl, rfl⟩
    · simp only [List.map_cons, List.map_nil, isH, isO, isS, isT, hostWord]
    · exact fun member => unquoted _ member rfl
  · rintro ⟨word, gap, inner, arg, outer, ⟨letters, gapBlank, innerBlank⟩, filled, unquoted,
      outerBlank, rfl, rfl⟩
    obtain ⟨h, _, rfl, isH, letters⟩ := List.map_eq_cons_iff.mp letters
    obtain ⟨o, _, rfl, isO, letters⟩ := List.map_eq_cons_iff.mp letters
    obtain ⟨s, _, rfl, isS, letters⟩ := List.map_eq_cons_iff.mp letters
    obtain ⟨t, _, rfl, isT, letters⟩ := List.map_eq_cons_iff.mp letters
    obtain rfl := List.map_eq_nil_iff.mp letters
    exact ⟨h, _, isH, rfl, o, _, isO, rfl, s, _, isS, rfl, t, _, isT, rfl, gap, _, gapBlank, rfl,
      _, _, rfl, rfl, inner, _, innerBlank, rfl, _, _, rfl, rfl, arg, _, _, filled,
      fun c member same => unquoted (same ▸ member), rfl,
      ⟨_, _, rfl, rfl, outer, _, outerBlank, rfl, _, _, rfl, rfl, rfl, rfl⟩, rfl⟩

theorem begins_opening {s : List Char} (begins : hostRulePattern.Begins s) :
    ∃ word gap inner rest, Opens word gap inner ∧ s = opening word gap inner rest := by
  obtain ⟨u, rest, k, rfl, matched⟩ := begins
  obtain ⟨word, gap, inner, arg, outer, opens, -, -, -, rfl, -⟩ :=
    matches_hostRulePattern_iff.mp matched
  exact ⟨word, gap, inner, _, opens, by simp only [opening, List.append_assoc, List.cons_append]; rfl⟩

end Opening

/-! ## Texts that are cut at the first character of a kind -/

theorem split_unique {p : Char → Bool} {u v s t : List Char} {a b : Char}
    (left : ∀ c ∈ u, p c = true) (right : ∀ c ∈ v, p c = true) (stop : p a = false)
    (stop' : p b = false) (same : u ++ a :: s = v ++ b :: t) : u = v ∧ a = b ∧ s = t := by
  have cut : ∀ {w : List Char} {c : Char} {rest : List Char}, (∀ d ∈ w, p d = true) →
      p c = false → (w ++ c :: rest).takeWhile p = w := by
    intro w c rest all ends
    rw [List.takeWhile_append_of_pos all, List.takeWhile_cons_of_neg (by simp [ends]),
      List.append_nil]
  have cutLeft : (u ++ a :: s).takeWhile p = u := cut left stop
  have equal : u = v := by rw [← cutLeft, same, cut right stop']
  subst equal
  obtain ⟨rfl, rfl⟩ := List.cons.inj (List.append_cancel_left same)
  exact ⟨rfl, rfl, rfl⟩

theorem of_blank (P : Char → Bool) {c : Char} (blank : isBlank c = true)
    (all : [' ', '\t', '\n', Char.ofNat 12, '\r'].all P = true) : P c = true :=
  List.all_eq_true.mp all c (List.contains_iff_mem.mp blank)

/-- A character of a name, in any letter case, or one that folds to a letter. -/
def isWordChar (c : Char) : Bool := isNameChar (foldChar c)

theorem isNameChar_of_mem {name : List Char} (identifier : isIdentifier name = true) {c : Char}
    (member : c ∈ name) : isNameChar c = true := by
  cases name with
  | nil => cases identifier
  | cons first rest =>
      simp only [isIdentifier, Bool.and_eq_true, List.all_eq_true] at identifier
      rcases List.mem_cons.mp member with rfl | later
      · exact identifier.1.1
      · exact identifier.2 c later

theorem isNameChar_ascii {c : Char} (name : isNameChar c = true) : c.toNat < 128 := by
  have below : ∀ low high : Char, high.toNat < 128 →
      (decide (c.val ≥ low.val) && decide (c.val ≤ high.val)) = true → c.toNat < 128 := by
    intro low high ascii bounds
    have upper := of_decide_eq_true (Bool.and_eq_true_iff.mp bounds).2
    exact Nat.lt_of_le_of_lt (UInt32.le_iff_toNat_le.mp upper) ascii
  rcases Bool.or_eq_true_iff.mp name with alphanum | underscore
  · rcases Bool.or_eq_true_iff.mp alphanum with alpha | digit
    · rcases Bool.or_eq_true_iff.mp alpha with upper | lower
      · have bounds := of_decide_eq_true upper
        exact Nat.lt_of_le_of_lt (UInt32.le_iff_toNat_le.mp bounds.2) (by decide)
      · exact below 'a' 'z' (by decide) lower
    · exact below '0' '9' (by decide) digit
  · rw [beq_iff_eq.mp underscore]
    decide

/-- Within names the folding of the pattern is that of ASCII letters. -/
theorem foldChar_of_isNameChar {c : Char} (name : isNameChar c = true) :
    foldChar c = c.toLower ∧ isWordChar c = true := by
  have table : ∀ n < 128, isNameChar (Char.ofNat n) = true →
      foldChar (Char.ofNat n) = (Char.ofNat n).toLower ∧ isWordChar (Char.ofNat n) = true := by
    decide
  have entry := table c.toNat (isNameChar_ascii name)
  rw [Char.ofNat_toNat] at entry
  exact entry name

/-- A blank, or the parenthesis after blanks, ends a word. -/
theorem word_ends {gap : List Char} (blank : ∀ c ∈ gap, isBlank c = true) (rest : List Char) :
    ∃ c others, gap ++ '(' :: rest = c :: others ∧ isWordChar c = false := by
  cases gap with
  | nil => exact ⟨'(', rest, rfl, by decide⟩
  | cons c gap =>
      have ends := of_blank (fun c => !isWordChar c) (blank c List.mem_cons_self) (by decide)
      exact ⟨c, gap ++ '(' :: rest, rfl, by simpa using ends⟩

/-! ## Where no match begins -/

section Quiet

variable {u s : List Char}

theorem Opens.isWordChar {word gap inner : List Char} (opens : Opens word gap inner) :
    ∀ c ∈ word, isWordChar c = true := by
  intro c member
  have folded : foldChar c ∈ hostWord := opens.word ▸ List.mem_map_of_mem member
  exact List.all_eq_true.mp (by decide : hostWord.all isNameChar = true) _ folded

theorem Opens.unquoted {word gap inner : List Char} (opens : Opens word gap inner) :
    ∀ c ∈ word ++ (gap ++ '(' :: inner), (c != backtick) = true := by
  have blank : ∀ c, isBlank c = true → (c != backtick) = true := fun c holds =>
    of_blank (fun c => c != backtick) holds (by decide)
  intro c member
  rw [List.mem_append, List.mem_append, List.mem_cons] at member
  rcases member with inWord | inGap | rfl | inInner
  · rw [bne_iff_ne]
    rintro rfl
    exact absurd (opens.isWordChar _ inWord) (by decide)
  · exact blank c (opens.gap c inGap)
  · decide
  · exact blank c (opens.inner c inInner)

/-- Where there is no letter h, no match begins. -/
theorem quiet_of_no_h (no : ∀ c ∈ u, (foldChar c != 'h') = true) : hostRulePattern.Quiet u s := by
  rw [Regex.quiet_iff]
  intro w filled suffix begins
  obtain ⟨word, gap, inner, rest, opens, whole⟩ := begins_opening begins
  obtain ⟨h, others, rfl, isH, -⟩ := List.map_eq_cons_iff.mp opens.word
  obtain ⟨c, w, rfl⟩ := List.exists_cons_of_ne_nil filled
  obtain ⟨rfl, -⟩ := List.cons.inj whole
  exact bne_iff_ne.mp (no c (suffix.subset List.mem_cons_self)) isH

theorem quiet_literal (no : u.all (fun c => foldChar c != 'h') = true) :
    hostRulePattern.Quiet u s :=
  quiet_of_no_h (List.all_eq_true.mp no)

/-- A match that begins in a name begins the word host at its end. -/
theorem quiet_name {name gap rest : List Char} (chars : ∀ c ∈ name, isNameChar c = true)
    (blank : ∀ c ∈ gap, isBlank c = true) (other : ¬ hostWord <:+ name.map Char.toLower) :
    hostRulePattern.Quiet name (gap ++ '(' :: rest) := by
  rw [Regex.quiet_iff]
  intro w _ suffix begins
  obtain ⟨word, gap', inner, rest', opens, whole⟩ := begins_opening begins
  obtain ⟨c, others, ends, stop⟩ := word_ends blank rest
  obtain ⟨c', others', ends', stop'⟩ := word_ends opens.gap (inner ++ backtick :: rest')
  rw [opening, ends, ends'] at whole
  have inName : ∀ c ∈ w, isNameChar c = true := fun c member => chars c (suffix.subset member)
  obtain ⟨rfl, -, -⟩ := split_unique (fun c member => (foldChar_of_isNameChar (inName c member)).2)
    opens.isWordChar stop stop' whole
  have lower : w.map Char.toLower = hostWord := by
    rw [← opens.word]
    exact List.map_congr_left fun c member => (foldChar_of_isNameChar (inName c member)).1.symm
  exact other (lower ▸ suffix.map Char.toLower)

/-- A match that begins in an argument has its parenthesis at the end of it. -/
theorem quiet_argument (a : Argument) : hostRulePattern.Quiet a.text (backtick :: s) := by
  rw [Regex.quiet_iff]
  intro w _ suffix begins
  obtain ⟨word, gap, inner, rest, opens, whole⟩ := begins_opening begins
  have inner' : w ++ backtick :: s = (word ++ (gap ++ '(' :: inner)) ++ backtick :: rest := by
    simpa only [opening, List.append_assoc, List.cons_append] using whole
  have unquoted : ∀ c ∈ w, (c != backtick) = true := by
    intro c member
    rw [bne_iff_ne]
    rintro rfl
    exact a.unquoted (suffix.subset member)
  obtain ⟨rfl, -, -⟩ :=
    split_unique unquoted opens.unquoted (by decide) (by decide) inner'
  obtain ⟨front, same⟩ := suffix
  refine a.closed (front ++ word ++ gap) inner ?_ opens.inner
  rw [← same]
  simp only [List.append_assoc]

theorem quiet_blanks (blank : ∀ c ∈ u, isBlank c = true) : hostRulePattern.Quiet u s :=
  quiet_of_no_h fun c member => of_blank (fun c => foldChar c != 'h') (blank c member) (by decide)

theorem Argument.quiet (a : Argument) (s : List Char) : hostRulePattern.Quiet a.quoted s := by
  simp only [Argument.quoted, Regex.quiet_append_iff]
  exact ⟨⟨quiet_literal (by decide), quiet_argument a⟩, quiet_literal (by decide)⟩

theorem quiet_separator (chars : ∀ c ∈ u, c = ',' ∨ isBlank c = true) :
    hostRulePattern.Quiet u s := by
  refine quiet_of_no_h fun c member => ?_
  rcases chars c member with rfl | blank
  · decide
  · exact of_blank (fun c => foldChar c != 'h') blank (by decide)

theorem Joiner.quiet (j : Joiner) (s : List Char) : hostRulePattern.Quiet j.text s := by
  cases j <;> exact quiet_literal (by decide)

namespace Matcher

variable (m : Matcher)

theorem quiet_arguments (s : List Char) : hostRulePattern.Quiet m.arguments s := by
  rw [arguments, Regex.quiet_append_iff]
  refine ⟨m.first.quiet _, Regex.quiet_flatMap fun other member s => ?_⟩
  rw [Regex.quiet_append_iff]
  exact ⟨quiet_separator (m.separated other member).2, other.2.quiet s⟩

theorem chars (c : Char) (member : c ∈ m.name) : isNameChar c = true :=
  isNameChar_of_mem m.identifier member

/-- No match begins in a matcher that is not a host matcher. -/
theorem quiet (other : m.isHost = false) (s : List Char) : hostRulePattern.Quiet m.text s := by
  have ending : ¬ hostWord <:+ m.name.map Char.toLower := fun suffix => by
    simp [isHost, m.whole suffix] at other
  obtain ⟨gapBlank, innerBlank, outerBlank⟩ := m.blanks
  simp only [text, Regex.quiet_append_iff, List.append_assoc]
  exact ⟨quiet_name m.chars gapBlank ending, quiet_blanks gapBlank,
    quiet_literal (by decide), quiet_blanks innerBlank, m.quiet_arguments _,
    quiet_blanks outerBlank, quiet_literal (by decide)⟩

end Matcher

end Quiet

/-! ## The host matcher -/

section Host

variable {word gap inner word' gap' inner' rest rest' : List Char}

theorem opening_eq : opening word gap inner rest =
    (word ++ (gap ++ '(' :: inner)) ++ backtick :: rest := by
  simp only [opening, List.append_assoc, List.cons_append]

theorem opening_inj (opens : Opens word gap inner) (opens' : Opens word' gap' inner')
    (same : opening word gap inner rest = opening word' gap' inner' rest') : rest = rest' := by
  rw [opening_eq, opening_eq] at same
  exact (split_unique opens.unquoted opens'.unquoted (by decide) (by decide) same).2.2

theorem opening_append (s : List Char) :
    opening word gap inner rest ++ s = opening word gap inner (rest ++ s) := by
  simp only [opening, List.append_assoc, List.cons_append]

namespace Matcher

variable {m : Matcher}

theorem opens (host : m.isHost = true) : Opens m.name m.gap m.inner where
  word := by
    rw [← beq_iff_eq.mp host]
    exact List.map_congr_left fun c member =>
      (foldChar_of_isNameChar (m.chars c member)).1
  gap := m.blanks.1
  inner := m.blanks.2.1

theorem text_of_host (host : m.isHost = true) : m.text =
    opening m.name m.gap m.inner (m.first.text ++ backtick :: (m.outer ++ [')'])) := by
  have alone := m.single (beq_iff_eq.mp host)
  simp [text, arguments, alone, opening, Argument.quoted]

/-- The match at a host matcher captures its argument. -/
theorem find_host (host : m.isHost = true) (s : List Char) :
    ∃ p, hostRulePattern.find (m.text ++ s) = some p ∧ p.groups = [(1, m.first.text)] := by
  have matched : Regex.Matches hostRulePattern m.text [(1, m.first.text)] :=
    matches_hostRulePattern_iff.mpr ⟨m.name, m.gap, m.inner, m.first.text, m.outer, opens host,
      m.first.filled, m.first.unquoted, m.blanks.2.2, text_of_host host, rfl⟩
  apply Regex.find_of_unique ⟨m.text, s, _, rfl, matched⟩
  intro u rest k whole another
  obtain ⟨word, gap, inner, arg, outer, opens', -, unquoted, -, rfl, rfl⟩ :=
    matches_hostRulePattern_iff.mp another
  rw [text_of_host host, opening_append, opening_append] at whole
  have after := opening_inj (opens host) opens' whole
  rw [List.append_assoc, List.append_assoc] at after
  have quoteless : ∀ {text : List Char}, backtick ∉ text →
      ∀ c ∈ text, (c != backtick) = true := by
    intro text free c member
    rw [bne_iff_ne]
    rintro rfl
    exact free member
  obtain ⟨rfl, -, -⟩ := split_unique (quoteless m.first.unquoted) (quoteless unquoted) (by decide)
    (by decide) after
  rfl

end Matcher

end Host

/-- The search over a rule ends at its first host matcher. -/
theorem find_rule (first : Matcher) (others : List (Joiner × Matcher)) :
    (hostRulePattern.find (Rule.text ⟨first, others⟩)).map Regex.Parse.groups =
      ((Rule.matchers ⟨first, others⟩).find? Matcher.isHost).map fun m => [(1, m.first.text)] := by
  simp only [Rule.text, Rule.matchers]
  induction others generalizing first with
  | nil =>
      by_cases host : first.isHost = true
      · obtain ⟨p, found, groups⟩ := Matcher.find_host host []
        rw [List.append_nil] at found
        simp [host, found, groups]
      · have other := Bool.not_eq_true _ |>.mp host
        rw [List.flatMap_nil, (first.quiet other []).find]
        simp [other]
        rfl
  | cons entry others ih =>
      obtain ⟨joiner, second⟩ := entry
      by_cases host : first.isHost = true
      · obtain ⟨p, found, groups⟩ := Matcher.find_host host
          (((joiner, second) :: others).flatMap fun other => other.1.text ++ other.2.text)
        simp only [found, List.find?_cons_of_pos host, Option.map_some, groups]
      · have other := Bool.not_eq_true _ |>.mp host
        rw [(first.quiet other _).find, List.flatMap_cons, List.append_assoc,
          (joiner.quiet _).find, ih second, List.find?_cons_of_neg host, List.map_cons]

/-- **The host of a rule is the argument of its first host matcher.** -/
theorem extractHost_rule (rule : Rule) : extractHost (String.ofList rule.text) =
    match rule.matchers.find? Matcher.isHost with
    | some m => trimSpace (String.ofList m.first.text)
    | none => "" := by
  have searched : (hostRulePattern.find rule.text).map Regex.Parse.groups =
      (rule.matchers.find? Matcher.isHost).map fun m => [(1, m.first.text)] :=
    find_rule rule.first rule.others
  rw [extractHost, String.toList_ofList]
  cases first : rule.matchers.find? Matcher.isHost with
  | none =>
      rw [first, Option.map_none, Option.map_eq_none_iff] at searched
      rw [searched]
  | some m =>
      rw [first, Option.map_some] at searched
      obtain ⟨found, there, groups⟩ := Option.map_eq_some_iff.mp searched
      rw [there]
      simp only [Regex.Parse.submatch, groups]
      rfl

/-! ## A compound rule -/

/-- An argument without an opening parenthesis. -/
def Argument.plain (text : List Char) (filled : text ≠ []) (unquoted : backtick ∉ text)
    (unopened : '(' ∉ text) : Argument where
  text := text
  filled := filled
  unquoted := unquoted
  closed front trailing same := by
    rw [same] at unopened
    simp at unopened

/-- A matcher with one argument and no blanks. -/
def Matcher.plain (name : List Char) (argument : Argument)
    (identifier : isIdentifier name = true)
    (whole : hostWord <:+ name.map Char.toLower → name.map Char.toLower = hostWord) : Matcher where
  name := name
  gap := []
  inner := []
  first := argument
  others := []
  outer := []
  identifier := identifier
  whole := whole
  single _ := rfl
  blanks := ⟨nofun, nofun, nofun⟩
  separated := nofun

def dashboardRule : Rule where
  first := .plain "Host".toList (.plain "dashboard.home.lan".toList (by decide) (by decide) (by decide))
    (by decide) (by decide)
  others := [(.and, .plain "PathPrefix".toList (.plain "/".toList (by decide) (by decide) (by decide))
    (by decide) (by decide))]

example : String.ofList dashboardRule.text = "Host(`dashboard.home.lan`) && PathPrefix(`/`)" ∧
    extractHost (String.ofList dashboardRule.text) = "dashboard.home.lan" := by
  decide +kernel

end VpsDashboard.Docker
