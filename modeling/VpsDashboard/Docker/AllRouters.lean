/-
# VpsDashboard.Docker.AllRouters — all links of a container

`ParseAllTraefikURLs` goes through the labels as `ParseTraefikURL` does, but goes on after
the first router rule with a host, and keeps each link once: a set holds the links it has
seen, a slice those it returns.

* `parseAllTraefikURLs_eq` — the loop keeps the first of each link;
* `scanners_agree` — the two scanners find links in the same label maps, the first link of
  one order is what the other returns for it, and the links are, in every order, those of
  the router rules with a host.
-/
import VpsDashboard.Docker.Traefik
import VpsDashboard.Foundation.KeepFirst

namespace VpsDashboard.Docker

open Foundation

set_option autoImplicit false

/-! ## The loop -/

/-- The variables of the loop. -/
structure URLScan where
  seen : List String
  urls : List String

/-- One label. -/
def URLScan.next (s : URLScan) (label : String × String) : URLScan :=
  if !isRouterRule label.1 then s
  else if extractHost label.2 ≠ "" then
    let url := "https://" ++ extractHost label.2
    if url ∈ s.seen then s else { seen := url :: s.seen, urls := s.urls ++ [url] }
  else s

/-- `ParseAllTraefikURLs`, which meets the labels in the given order. -/
def parseAllTraefikURLs (labels : List (String × String)) : List String :=
  (labels.foldl URLScan.next ⟨[], []⟩).urls

/-! ## What it returns -/

/-- The link that a label contributes. -/
def routerURL (label : String × String) : Option String :=
  (routerHost label).map fun host => "https://" ++ host

theorem isRouterRule_iff {key : String} : isRouterRule key = true ↔
    "traefik.http.routers".toList <:+: key.toList ∧ ".rule".toList <:+ key.toList := by
  constructor
  · intro rule
    obtain ⟨contains, ends⟩ := (Bool.and_eq_true _ _).mp rule
    exact ⟨of_decide_eq_true contains, of_decide_eq_true ends⟩
  · rintro ⟨contains, ends⟩
    exact (Bool.and_eq_true _ _).mpr ⟨decide_eq_true contains, decide_eq_true ends⟩

theorem routerURL_eq_some_iff {label : String × String} {url : String} :
    routerURL label = some url ↔ isRouterRule label.1 = true ∧ extractHost label.2 ≠ "" ∧
      url = "https://" ++ extractHost label.2 := by
  simp only [routerURL, Option.map_eq_some_iff, routerHost_eq_some_iff]
  constructor
  · rintro ⟨host, ⟨router, filled, rfl⟩, rfl⟩
    exact ⟨router, filled, rfl⟩
  · rintro ⟨router, filled, rfl⟩
    exact ⟨_, ⟨router, filled, rfl⟩, rfl⟩

theorem URLScan.next_eq (s : URLScan) (label : String × String) :
    s.next label = match routerURL label with
      | none => s
      | some url => if url ∈ s.seen then s else ⟨url :: s.seen, s.urls ++ [url]⟩ := by
  unfold URLScan.next routerURL routerHost
  by_cases router : isRouterRule label.1 = true
  · by_cases filled : extractHost label.2 ≠ ""
    · simp [router, filled]
    · simp [router, filled]
  · simp [router]

/-- The loop from any of its states. -/
theorem foldl_next_urls (s : URLScan) (labels : List (String × String)) :
    (labels.foldl URLScan.next s).urls =
      s.urls ++ keepFirst id s.seen (labels.filterMap routerURL) := by
  induction labels generalizing s with
  | nil => simp
  | cons label labels ih =>
      rw [List.foldl_cons, ih, URLScan.next_eq]
      cases url : routerURL label with
      | none => rw [List.filterMap_cons_none url]
      | some url' =>
          rw [List.filterMap_cons_some url]
          by_cases known : url' ∈ s.seen
          · rw [keepFirst_cons_seen id known]
            simp [known]
          · rw [keepFirst_cons_new id known]
            simp [known]

theorem parseAllTraefikURLs_eq (labels : List (String × String)) :
    parseAllTraefikURLs labels = keepFirst id [] (labels.filterMap routerURL) := by
  rw [parseAllTraefikURLs, foldl_next_urls, List.nil_append]

theorem mem_parseAllTraefikURLs_iff {labels : List (String × String)} {url : String} :
    url ∈ parseAllTraefikURLs labels ↔ ∃ label ∈ labels, routerURL label = some url := by
  have keys : url ∈ (keepFirst id [] (labels.filterMap routerURL)).map id ↔ _ :=
    mem_map_keepFirst_iff id
  rw [parseAllTraefikURLs_eq]
  simpa using keys

theorem parseTraefikURL_eq_head (labels : List (String × String)) :
    parseTraefikURL labels = (parseAllTraefikURLs labels).head?.getD "" := by
  rw [parseTraefikURL_eq, parseAllTraefikURLs_eq, head?_keepFirst, List.head?_filterMap]
  have links : labels.findSome? routerURL =
      (labels.findSome? routerHost).map fun host => "https://" ++ host :=
    (List.map_findSome? ..).symm
  rw [links]
  cases labels.findSome? routerHost <;> rfl

theorem parseTraefikURL_ne_empty_iff (labels : List (String × String)) :
    parseTraefikURL labels ≠ "" ↔ parseAllTraefikURLs labels ≠ [] := by
  rw [parseTraefikURL_eq_head]
  cases all : parseAllTraefikURLs labels with
  | nil => simp
  | cons url urls =>
      have member : url ∈ parseAllTraefikURLs labels := by simp [all]
      obtain ⟨label, -, found⟩ := mem_parseAllTraefikURLs_iff.mp member
      obtain ⟨-, -, rfl⟩ := routerURL_eq_some_iff.mp found
      simp

/-- The links are those of the map, in whatever order it is iterated. -/
theorem mem_parseAllTraefikURLs_order {labels : Labels} {order : List (String × String)}
    (one : labels.Order order) {url : String} :
    url ∈ parseAllTraefikURLs order ↔ ∃ label ∈ labels.entries, routerURL label = some url := by
  simp [mem_parseAllTraefikURLs_iff, one.mem_iff]

/-- **The two scanners agree.**  For every label map and any orders of iteration: one of them
finds a link exactly when the other does; in one order the link is the first of all links;
and in every order all links are, each once, those of the hosts under the keys that contain
`traefik.http.routers` and end in `.rule`. -/
theorem scanners_agree (labels : Labels) {order order' : List (String × String)}
    (one : labels.Order order) (other : labels.Order order') :
    (parseTraefikURL order ≠ "" ↔ parseAllTraefikURLs order' ≠ []) ∧
      parseTraefikURL order = (parseAllTraefikURLs order).head?.getD "" ∧
      (parseAllTraefikURLs order).Nodup ∧
      ∀ url, url ∈ parseAllTraefikURLs order ↔
        ∃ key value, (key, value) ∈ labels.entries ∧
          "traefik.http.routers".toList <:+: key.toList ∧ ".rule".toList <:+ key.toList ∧
          extractHost value ≠ "" ∧ url = "https://" ++ extractHost value := by
  refine ⟨?_, parseTraefikURL_eq_head order, ?_, fun url => ?_⟩
  · rw [parseTraefikURL_ne_empty_iff]
    simp only [ne_eq, List.eq_nil_iff_forall_not_mem, mem_parseAllTraefikURLs_order one,
      mem_parseAllTraefikURLs_order other]
  · have once : ((keepFirst id [] (order.filterMap routerURL)).map id).Nodup := keepFirst_nodup id
    rw [parseAllTraefikURLs_eq]
    simpa using once
  · rw [mem_parseAllTraefikURLs_order one]
    constructor
    · rintro ⟨⟨key, value⟩, member, found⟩
      obtain ⟨router, filled, url⟩ := routerURL_eq_some_iff.mp found
      obtain ⟨contains, ends⟩ := isRouterRule_iff.mp router
      exact ⟨key, value, member, contains, ends, filled, url⟩
    · rintro ⟨key, value, member, contains, ends, filled, url⟩
      exact ⟨(key, value), member,
        routerURL_eq_some_iff.mpr ⟨isRouterRule_iff.mpr ⟨contains, ends⟩, filled, url⟩⟩

/-- The labels of the test of `ParseAllTraefikURLs`: three routers, two hosts. -/
def threeRouters : Labels where
  entries := [("traefik.http.routers.a.rule", "Host(`one.example.com`)"),
    ("traefik.http.routers.b.rule", "Host(`two.example.com`)"),
    ("traefik.http.routers.c.rule", "Host(`one.example.com`)")]
  distinct := by decide

/-- Its two links, the first of which is the one of `ParseTraefikURL`. -/
theorem scanners_agree_three_routers :
    parseAllTraefikURLs threeRouters.entries =
        ["https://one.example.com", "https://two.example.com"] ∧
      parseTraefikURL threeRouters.entries = "https://one.example.com" ∧
      parseTraefikURL threeRouters.entries.reverse ≠ "" ∧
      ∃ key value, (key, value) ∈ threeRouters.entries ∧
        "traefik.http.routers".toList <:+: key.toList ∧ ".rule".toList <:+ key.toList ∧
        extractHost value ≠ "" ∧ "https://two.example.com" = "https://" ++ extractHost value := by
  have links : parseAllTraefikURLs threeRouters.entries =
      ["https://one.example.com", "https://two.example.com"] := by decide +kernel
  have agree := scanners_agree threeRouters (List.Perm.refl _) (List.reverse_perm _)
  have across := scanners_agree threeRouters (List.reverse_perm _) (List.Perm.refl _)
  refine ⟨links, ?_, ?_, ?_⟩
  · rw [agree.2.1, links]
    rfl
  · rw [across.1, links]
    simp
  · rw [← agree.2.2.2, links]
    simp

end VpsDashboard.Docker
