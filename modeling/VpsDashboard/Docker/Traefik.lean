/-
# VpsDashboard.Docker.Traefik — the link of a container, read from its labels

The labels are a Go map, which is iterated in any order.  `ParseTraefikURL` returns the
host of the first router rule that has one, so the link depends on that order.

* `two_routers_two_links` — a container with two routers shows one link or the other;
* `parseTraefikURL_unordered_iff` — the link is a function of the labels exactly where
  all router rules that have a host have the same one (`OneHost`).
-/
import VpsDashboard.Docker.HostRule
import Mathlib.Data.List.Infix

namespace VpsDashboard.Docker

open Foundation

set_option autoImplicit false

/-! ## Labels -/

/-- A `map[string]string`.  Its entries have no order. -/
structure Labels where
  entries : List (String × String)
  distinct : (entries.map Prod.fst).Nodup

/-- An order in which the map can be iterated. -/
def Labels.Order (labels : Labels) (order : List (String × String)) : Prop :=
  order.Perm labels.entries

def isRouterRule (key : String) : Bool :=
  decide ("traefik.http.routers".toList <:+: key.toList) && decide (".rule".toList <:+ key.toList)

/-- `ParseTraefikURL`, which meets the labels in the given order. -/
def parseTraefikURL : List (String × String) → String
  | [] => ""
  | (key, value) :: labels =>
      if !isRouterRule key then parseTraefikURL labels
      else if extractHost value ≠ "" then "https://" ++ extractHost value
      else parseTraefikURL labels

/-- All router rules that have a host have the same one. -/
def Labels.OneHost (labels : Labels) : Prop :=
  ∀ a ∈ labels.entries, ∀ b ∈ labels.entries, isRouterRule a.1 = true → isRouterRule b.1 = true →
    extractHost a.2 ≠ "" → extractHost b.2 ≠ "" → extractHost a.2 = extractHost b.2

/-! ## The first entry that answers -/

section Orders

variable {α β : Type} {f : α → Option β} {l : List α}

/-- Where all answers are the same, the first one does not depend on the order. -/
theorem findSome?_perm {order order' : List α} (perm : order.Perm l) (perm' : order'.Perm l)
    (agree : ∀ a ∈ l, ∀ b ∈ l, ∀ x y, f a = some x → f b = some y → x = y) :
    order.findSome? f = order'.findSome? f := by
  have answers : ∀ {o : List α} {x : β}, o.Perm l → o.findSome? f = some x →
      ∃ a ∈ l, f a = some x := by
    intro o x perm first
    obtain ⟨a, member, answer⟩ := List.exists_of_findSome?_eq_some first
    exact ⟨a, perm.subset member, answer⟩
  have silent : ∀ {o o' : List α}, o.Perm l → o'.Perm l → o.findSome? f = none →
      o'.findSome? f = none := by
    intro o o' perm perm' none
    rw [List.findSome?_eq_none_iff] at none ⊢
    exact fun a member => none a (perm.symm.subset (perm'.subset member))
  cases first : order.findSome? f with
  | none => exact (silent perm perm' first).symm
  | some x =>
      cases first' : order'.findSome? f with
      | none => exact absurd (silent perm' perm first') (by simp [first])
      | some y =>
          obtain ⟨a, inA, answer⟩ := answers perm first
          obtain ⟨b, inB, answer'⟩ := answers perm' first'
          rw [agree a inA b inB x y answer answer']

/-- Every answer is the first one in some order. -/
theorem exists_order_findSome? {a : α} {x : β} (member : a ∈ l) (answer : f a = some x) :
    ∃ order : List α, order.Perm l ∧ order.findSome? f = some x := by
  obtain ⟨before, after, rfl⟩ := List.append_of_mem member
  refine ⟨a :: (before ++ after), List.perm_middle.symm, ?_⟩
  rw [List.findSome?_cons, answer]

end Orders

/-! ## The link -/

/-- The host that a label contributes. -/
def routerHost (label : String × String) : Option String :=
  if isRouterRule label.1 = true ∧ extractHost label.2 ≠ "" then some (extractHost label.2) else none

theorem routerHost_eq_some_iff {label : String × String} {host : String} :
    routerHost label = some host ↔
      isRouterRule label.1 = true ∧ extractHost label.2 ≠ "" ∧ extractHost label.2 = host := by
  unfold routerHost
  split
  · rename_i held
    simp [held]
  · rename_i fails
    simp only [reduceCtorEq, false_iff]
    exact fun ⟨router, filled, _⟩ => fails ⟨router, filled⟩

def link : Option String → String
  | some host => "https://" ++ host
  | none => ""

theorem parseTraefikURL_eq (labels : List (String × String)) :
    parseTraefikURL labels = link (labels.findSome? routerHost) := by
  induction labels with
  | nil => rfl
  | cons label labels ih =>
      obtain ⟨key, value⟩ := label
      by_cases router : isRouterRule key = true
      · by_cases filled : extractHost value ≠ ""
        · simp [parseTraefikURL, routerHost, router, filled, link]
        · simp [parseTraefikURL, routerHost, router, filled, ih]
      · simp [parseTraefikURL, routerHost, router, ih]

theorem link_inj {host host' : String} (same : link (some host) = link (some host')) :
    host = host' := by
  have chars := congrArg String.toList same
  simp only [link, String.toList_append, List.append_cancel_left_eq] at chars
  exact String.toList_inj.mp chars

/-- **The link is a function of the labels exactly where they name one host.** -/
theorem parseTraefikURL_unordered_iff (labels : Labels) :
    (∀ order order', labels.Order order → labels.Order order' →
      parseTraefikURL order = parseTraefikURL order') ↔ labels.OneHost := by
  constructor
  · intro same a inA b inB routerA routerB filledA filledB
    obtain ⟨order, perm, first⟩ := exists_order_findSome? inA
      (routerHost_eq_some_iff.mpr ⟨routerA, filledA, rfl⟩)
    obtain ⟨order', perm', first'⟩ := exists_order_findSome? inB
      (routerHost_eq_some_iff.mpr ⟨routerB, filledB, rfl⟩)
    have links := same order order' perm perm'
    rw [parseTraefikURL_eq, parseTraefikURL_eq, first, first'] at links
    exact link_inj links
  · intro one order order' perm perm'
    rw [parseTraefikURL_eq, parseTraefikURL_eq]
    refine congrArg link (findSome?_perm perm perm' ?_)
    intro a inA b inB x y answer answer'
    obtain ⟨routerA, filledA, rfl⟩ := routerHost_eq_some_iff.mp answer
    obtain ⟨routerB, filledB, rfl⟩ := routerHost_eq_some_iff.mp answer'
    exact one a inA b inB routerA routerB filledA filledB

/-- A container that is reachable under two names. -/
def twoRouters : Labels where
  entries := [("traefik.http.routers.a.rule", "Host(`one.example.com`)"),
    ("traefik.http.routers.b.rule", "Host(`two.example.com`)")]
  distinct := by decide

theorem two_routers_two_links :
    twoRouters.Order twoRouters.entries ∧ twoRouters.Order twoRouters.entries.reverse ∧
      parseTraefikURL twoRouters.entries = "https://one.example.com" ∧
      parseTraefikURL twoRouters.entries.reverse = "https://two.example.com" :=
  ⟨List.Perm.refl _, List.reverse_perm _, by decide +kernel, by decide +kernel⟩

end VpsDashboard.Docker
