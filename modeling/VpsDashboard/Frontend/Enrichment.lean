/-
# VpsDashboard.Frontend.Enrichment — a film that TMDB does not have is requested for ever

A run that ends replaces the cache object even when it fetched nothing, the new object
makes the effect run again, and the effect starts with the first ten films that are not
cached.  Nothing remembers that a film could not be fetched.

The dependencies stay as they are and every request for an id gets the same answer, so
the only turns left are renders, effects and answers (`settle`).  `Phase` lists the
states between them, with the films still to be requested.

* `missing_film_never_settles` — one film that TMDB does not have;
* `enrichment_settles_iff` — with a key and loaded lists the requests come to an end and
  everything TMDB has is then cached if and only if TMDB has every listed film that was
  not cached; without them, if and only if it has none of these.
-/
import VpsDashboard.Frontend.Crosswatch

namespace VpsDashboard.Frontend

open Foundation Trakt

set_option autoImplicit false

section Answers

variable (answers : Int → TmdbResponse)

/-- TMDB has the film with this id. -/
def Served (id : Int) : Prop := (fetchTMDBDetail (answers id)).isSome = true

instance (id : Int) : Decidable (Served answers id) := inferInstanceAs (Decidable (_ = true))

/-- What fetching these films one by one stores. -/
def serve (movies : List TraktMovie) : TmdbCache :=
  movies.filterMap fun m => (fetchTMDBDetail (answers m.ids.tmdb)).map fun detail => (m.ids.tmdb, detail)

/-- What happens while no dependency of the effect is changed from outside. -/
inductive Turn where
  | render
  | effect
  | answer (run : Nat)

def settle (s : Crosswatch) : Turn → Option Crosswatch
  | .render => s.step .render
  | .effect => s.step .effect
  | .answer i => do
      let run ← s.runs[i]?
      let m ← run.awaiting
      s.step (.answer i (answers m.ids.tmdb))

/-- The requests come to an end, in every state it can still stop, and once it has
stopped every listed film that TMDB has is cached. -/
structure Settles (v : Values) : Prop where
  finite : Guarded.Bounded (settle answers) Crosswatch.requests (.mount v)
  stops : ∀ turns s, Guarded.steps (settle answers) (.mount v) turns = some s →
    ∃ later s', Guarded.steps (settle answers) s later = some s' ∧ s'.Quiescent
  complete : ∀ turns s, Guarded.steps (settle answers) (.mount v) turns = some s → s.Quiescent →
    ∀ m ∈ v.allTraktMovies, Served answers m.ids.tmdb →
      cached s.values.tmdbCache.value m.ids.tmdb = true

/-! ## The cache after a batch -/

theorem cached_append (cache entries : TmdbCache) (id : Int) :
    cached (cache ++ entries) id = (cached cache id || cached entries id) := List.any_append

variable {answers}

theorem cached_serve {movies : List TraktMovie} {id : Int} :
    cached (serve answers movies) id = true ↔
      id ∈ movies.map (fun m => m.ids.tmdb) ∧ Served answers id := by
  rw [cached, List.any_eq_true]
  constructor
  · rintro ⟨entry, stored, same⟩
    obtain ⟨m, member, found⟩ := List.mem_filterMap.mp stored
    obtain ⟨detail, fetched, rfl⟩ := Option.map_eq_some_iff.mp found
    obtain rfl : m.ids.tmdb = id := by simpa using same
    exact ⟨List.mem_map_of_mem member, by rw [Served, fetched]; rfl⟩
  · rintro ⟨member, has⟩
    obtain ⟨m, listed, rfl⟩ := List.mem_map.mp member
    obtain ⟨detail, fetched⟩ := Option.isSome_iff_exists.mp has
    refine ⟨(m.ids.tmdb, detail), List.mem_filterMap.mpr ⟨m, listed, ?_⟩, BEq.refl _⟩
    rw [fetched]
    rfl

/-- Dropping from a list what has the key of one of its first `n` elements. -/
theorem filter_not_mem_take {α : Type} {key : α → Int} {l : List α} (distinct : (l.map key).Nodup)
    (n : Nat) : (l.filter fun x => decide (key x ∉ (l.take n).map key)) = l.drop n := by
  have whole := List.take_append_drop n l
  have apart : ∀ x ∈ l.drop n, key x ∉ (l.take n).map key := by
    intro x member early
    rw [← whole, List.map_append, List.nodup_append] at distinct
    exact distinct.2.2 (key x) early (key x) (List.mem_map_of_mem member) rfl
  have first : (l.take n).filter (fun x => decide (key x ∉ (l.take n).map key)) = [] := by
    apply List.filter_eq_nil_iff.mpr
    intro x member
    have found : key x ∈ (l.take n).map key := List.mem_map_of_mem member
    rw [decide_eq_true_eq]
    exact fun missing => missing found
  have second : (l.drop n).filter (fun x => decide (key x ∉ (l.take n).map key)) = l.drop n := by
    apply List.filter_eq_self.mpr
    intro x member
    exact decide_eq_true (apart x member)
  calc (l.filter fun x => decide (key x ∉ (l.take n).map key))
      = (l.take n ++ l.drop n).filter fun x => decide (key x ∉ (l.take n).map key) := by rw [whole]
    _ = l.drop n := by rw [List.filter_append, first, second, List.nil_append]

end Answers

namespace Values

def withCache (v : Values) (cache : Ref TmdbCache) : Values := { v with tmdbCache := cache }

variable {answers : Int → TmdbResponse}

/-- What TMDB does not have stays uncached. -/
theorem mem_uncached_serve {v : Values} {cache : Ref TmdbCache} {movies : List TraktMovie}
    {m : TraktMovie} (member : m ∈ (v.withCache cache).uncached)
    (missing : ¬ Served answers m.ids.tmdb) :
    m ∈ (v.withCache (cache.replace (cache.value ++ serve answers movies))).uncached := by
  obtain ⟨listed, unknown⟩ := mem_uncached.mp member
  refine mem_uncached.mpr ⟨listed, ?_⟩
  have before : cached cache.value m.ids.tmdb = false := unknown
  have after : cached (serve answers movies) m.ids.tmdb = false := by
    rw [Bool.eq_false_iff]
    exact fun found => missing (cached_serve.mp found).2
  exact (cached_append cache.value _ _).trans (by rw [before, after]; rfl)

theorem mem_uncached_of_replace {v : Values} {cache : Ref TmdbCache} {entries : TmdbCache}
    {m : TraktMovie}
    (member : m ∈ (v.withCache (cache.replace (cache.value ++ entries))).uncached) :
    m ∈ (v.withCache cache).uncached := by
  obtain ⟨listed, unknown⟩ := mem_uncached.mp member
  have parts : (cached cache.value m.ids.tmdb || cached entries m.ids.tmdb) = false :=
    (cached_append _ _ _).symm.trans unknown
  exact mem_uncached.mpr ⟨listed, (Bool.or_eq_false_iff.mp parts).1⟩

/-- A batch of which TMDB has every film is done. -/
theorem uncached_serve {v : Values} {cache : Ref TmdbCache} (n : Nat)
    (all : ∀ m ∈ (v.withCache cache).uncached, Served answers m.ids.tmdb) :
    (v.withCache (cache.replace (cache.value ++
      serve answers ((v.withCache cache).uncached.take n)))).uncached =
        (v.withCache cache).uncached.drop n := by
  have fetched : ∀ id, cached (serve answers ((v.withCache cache).uncached.take n)) id =
      decide (id ∈ ((v.withCache cache).uncached.take n).map fun m => m.ids.tmdb) := by
    intro id
    rw [Bool.eq_iff_iff, cached_serve, decide_eq_true_eq]
    apply and_iff_left_of_imp
    intro listed
    obtain ⟨m, member, rfl⟩ := List.mem_map.mp listed
    exact all m (List.mem_of_mem_take member)
  calc (v.withCache (cache.replace (cache.value ++
        serve answers ((v.withCache cache).uncached.take n)))).uncached
      = (v.withCache cache).uncached.filter fun m =>
          decide (m.ids.tmdb ∉ ((v.withCache cache).uncached.take n).map fun m => m.ids.tmdb) := by
        conv_rhs => arg 2; rw [uncached]
        rw [List.filter_filter, uncached]
        apply List.filter_congr
        intro m listed
        show (decide (m.ids.tmdb ≠ 0) && !cached (cache.value ++ _) m.ids.tmdb) =
          (decide _ && (decide (m.ids.tmdb ≠ 0) && !cached cache.value m.ids.tmdb))
        simp only [cached_append, fetched, decide_not, Bool.not_or]
        ac_rfl
    _ = (v.withCache cache).uncached.drop n := filter_not_mem_take (v.withCache cache).uncached_nodup n

end Values

/-! ## The states between two turns -/

section Phases

variable (answers : Int → TmdbResponse) (v : Values)

/-- No run is in flight, `cache` is the cache of the last render and `latest` the present one. -/
def resting (cache latest : Ref TmdbCache) (waits : Bool) (cleanup : Option Nat)
    (runs : List EnrichRun) : Crosswatch :=
  ⟨v.withCache latest, v.withCache cache, waits, cleanup, false, runs⟩

/-- A run awaits the answer for `m` after it has fetched `done`. -/
def flying (cache : Ref TmdbCache) (runs : List EnrichRun) (apiKey : String)
    (done : List TraktMovie) (m : TraktMovie) (batch : List TraktMovie) (requested : List Int) :
    Crosswatch :=
  ⟨v.withCache cache, v.withCache cache, false, some runs.length, true,
    runs ++ [⟨apiKey, some m, batch, requested, serve answers done, false⟩]⟩

/-- The states that are reached with an enabled effect, and the films that are requested
from each on if TMDB has them all. -/
inductive Phase : Crosswatch → List TraktMovie → Prop where
  | waits (cache : Ref TmdbCache) (cleanup : Option Nat) (runs : List EnrichRun)
      (ended : ∀ run ∈ runs, run.awaiting = none) :
      Phase (resting v cache cache true cleanup runs) (v.withCache cache).uncached
  | flies (cache : Ref TmdbCache) (runs : List EnrichRun) (apiKey : String)
      (done : List TraktMovie) (m : TraktMovie) (batch : List TraktMovie) (requested : List Int)
      (ended : ∀ run ∈ runs, run.awaiting = none)
      (split : done ++ m :: batch = (v.withCache cache).uncached.take 10) :
      Phase (flying answers v cache runs apiKey done m batch requested)
        (batch ++ (v.withCache cache).uncached.drop 10)
  | due (cache latest : Ref TmdbCache) (cleanup : Option Nat) (runs : List EnrichRun)
      (ended : ∀ run ∈ runs, run.awaiting = none) (newer : latest.id ≠ cache.id) :
      Phase (resting v cache latest false cleanup runs) (v.withCache latest).uncached
  | settled (cache : Ref TmdbCache) (cleanup : Option Nat) (runs : List EnrichRun)
      (ended : ∀ run ∈ runs, run.awaiting = none) (none : (v.withCache cache).uncached = []) :
      Phase (resting v cache cache false cleanup runs) []

end Phases

namespace Crosswatch

def requestedIds (s : Crosswatch) : List Int := s.runs.flatMap EnrichRun.requested

theorem requests_eq (s : Crosswatch) : s.requests = s.requestedIds.length := by
  rw [requests, requestedIds, List.length_flatMap]

/-- How many turns may pass before the next request is sent. -/
def rank (s : Crosswatch) : Nat :=
  if s.effectWaits then 1
  else if s.tmdbEnriching then 3
  else if s.values.sameDeps s.rendered then 0
  else 2

/-- A request was sent, or the next one has come nearer. -/
def Forward (s s' : Crosswatch) : Prop :=
  s.requests < s'.requests ∨ s'.requests = s.requests ∧ s'.rank < s.rank

end Crosswatch

section Turns

variable {answers : Int → TmdbResponse} {v : Values}

theorem cancel_ended {runs : List EnrichRun} (ended : ∀ run ∈ runs, run.awaiting = none) (i : Nat) :
    runs.modify i EnrichRun.cancel = runs := by
  refine List.ext_getElem? fun j => ?_
  rw [List.getElem?_modify]
  cases found : runs[j]? with
  | none => rfl
  | some run =>
      have still : run.cancel = run := by
        rw [EnrichRun.cancel, ended run (List.mem_of_getElem? found)]
        rfl
      split
      · exact congrArg some still
      · rfl

theorem runCleanup_resting {cache latest : Ref TmdbCache} {waits : Bool} {cleanup : Option Nat}
    {runs : List EnrichRun} (ended : ∀ run ∈ runs, run.awaiting = none) :
    (resting v cache latest waits cleanup runs).runCleanup =
      resting v cache latest waits none runs := by
  cases cleanup with
  | none => rfl
  | some i =>
      show { resting v cache latest waits none runs with runs := runs.modify i EnrichRun.cancel } = _
      rw [cancel_ended ended]
      rfl

/-- The effect that finds every film cached leaves nothing behind. -/
theorem effect_cached {cache : Ref TmdbCache} {cleanup : Option Nat} {runs : List EnrichRun}
    (ended : ∀ run ∈ runs, run.awaiting = none) (empty : (v.withCache cache).uncached = []) :
    settle answers (resting v cache cache true cleanup runs) .effect =
      some (resting v cache cache false none runs) := by
  show some { (resting v cache cache true cleanup runs).runCleanup.runEffect with
    effectWaits := false } = _
  rw [runCleanup_resting ended, Crosswatch.runEffect]
  simp only [show (resting v cache cache true none runs).rendered.uncached = [] from empty,
    List.isEmpty_nil, if_true]
  split <;> rfl

/-- Otherwise it starts a run with the first ten films. -/
theorem effect_uncached (enabled : v.enabled = true) {cache : Ref TmdbCache}
    {cleanup : Option Nat} {runs : List EnrichRun} (ended : ∀ run ∈ runs, run.awaiting = none)
    {m : TraktMovie} {rest : List TraktMovie} (first : (v.withCache cache).uncached = m :: rest) :
    settle answers (resting v cache cache true cleanup runs) .effect =
      some (flying answers v cache runs v.tmdbApiKey [] m (rest.take 9) [m.ids.tmdb]) := by
  obtain ⟨hasKey, loaded⟩ : v.hasTmdb = true ∧ v.loading = false := by
    simpa [Values.enabled] using enabled
  have listed : (v.withCache cache).allTraktMovies.isEmpty = false := by
    have member : m ∈ (v.withCache cache).allTraktMovies :=
      (Values.mem_uncached.mp (by rw [first]; exact List.mem_cons_self)).1
    rw [List.isEmpty_eq_false_iff_exists_mem]
    exact ⟨m, member⟩
  show some { (resting v cache cache true cleanup runs).runCleanup.runEffect with
    effectWaits := false } = _
  rw [runCleanup_resting ended, Crosswatch.runEffect]
  simp only [show (resting v cache cache true none runs).rendered = v.withCache cache from rfl,
    show (v.withCache cache).hasTmdb = true from hasKey,
    show (v.withCache cache).loading = false from loaded, listed, first,
    show (resting v cache cache true none runs).tmdbEnriching = false from rfl]
  rfl

theorem store_serve (apiKey : String) (done : List TraktMovie) (m : TraktMovie)
    (batch : List TraktMovie) (requested : List Int) :
    EnrichRun.store ⟨apiKey, some m, batch, requested, serve answers done, false⟩ m
        (answers m.ids.tmdb) =
      ⟨apiKey, some m, batch, requested, serve answers (done ++ [m]), false⟩ := by
  rw [EnrichRun.store, serve, serve, List.filterMap_append]
  cases fetched : fetchTMDBDetail (answers m.ids.tmdb) with
  | none => simp [fetched]
  | some detail => simp [fetched]

/-- Only the run in flight awaits an answer. -/
theorem answer_flying {cache : Ref TmdbCache} {runs : List EnrichRun} {apiKey : String}
    {done : List TraktMovie} {m : TraktMovie} {batch : List TraktMovie} {requested : List Int}
    (ended : ∀ run ∈ runs, run.awaiting = none) (i : Nat) :
    settle answers (flying answers v cache runs apiKey done m batch requested) (.answer i) =
      if i = runs.length then some ((flying answers v cache runs apiKey done m batch requested).answered
        i ⟨apiKey, some m, batch, requested, serve answers done, false⟩ m (answers m.ids.tmdb))
      else none := by
  have read : (flying answers v cache runs apiKey done m batch requested).runs[i]? =
      (runs ++ [⟨apiKey, some m, batch, requested, serve answers done, false⟩])[i]? := rfl
  simp only [settle, Crosswatch.step, read]
  split
  · rename_i last
    rw [last, List.getElem?_concat_length]
    rfl
  · rename_i other
    cases found : (runs ++ [⟨apiKey, some m, batch, requested, serve answers done, false⟩])[i]? with
    | none => rfl
    | some run =>
        have earlier : i < runs.length := by
          have inside := (List.getElem?_eq_some_iff.mp found).1
          rw [List.length_append, List.length_singleton] at inside
          omega
        rw [List.getElem?_append_left earlier] at found
        have still := ended run (List.mem_of_getElem? found)
        show (run.awaiting.bind _) = none
        rw [still]
        rfl

theorem answer_next {cache : Ref TmdbCache} {runs : List EnrichRun} {apiKey : String}
    {done : List TraktMovie} {m m' : TraktMovie} {batch : List TraktMovie} {requested : List Int}
    (ended : ∀ run ∈ runs, run.awaiting = none) :
    settle answers (flying answers v cache runs apiKey done m (m' :: batch) requested)
        (.answer runs.length) =
      some (flying answers v cache runs apiKey (done ++ [m]) m' batch
        (requested ++ [m'.ids.tmdb])) := by
  rw [answer_flying ended, if_pos rfl, Crosswatch.answered, store_serve]
  simp [EnrichRun.next, flying]

theorem answer_last {cache : Ref TmdbCache} {runs : List EnrichRun} {apiKey : String}
    {done : List TraktMovie} {m : TraktMovie} {requested : List Int}
    (ended : ∀ run ∈ runs, run.awaiting = none) :
    settle answers (flying answers v cache runs apiKey done m [] requested)
        (.answer runs.length) =
      some (resting v cache (cache.replace (cache.value ++ serve answers (done ++ [m]))) false
        (some runs.length)
        (runs ++ [⟨apiKey, none, [], requested, serve answers (done ++ [m]), false⟩])) := by
  rw [answer_flying ended, if_pos rfl, Crosswatch.answered, store_serve]
  simp [EnrichRun.next, flying, resting, Crosswatch.finish, Values.withCache]

theorem answer_resting {cache latest : Ref TmdbCache} {waits : Bool} {cleanup : Option Nat}
    {runs : List EnrichRun} (ended : ∀ run ∈ runs, run.awaiting = none) (i : Nat) :
    settle answers (resting v cache latest waits cleanup runs) (.answer i) = none := by
  have read : (resting v cache latest waits cleanup runs).runs[i]? = runs[i]? := rfl
  simp only [settle, read]
  cases found : runs[i]? with
  | none => rfl
  | some run =>
      show (run.awaiting.bind _) = none
      rw [ended run (List.mem_of_getElem? found)]
      rfl

theorem render_due {cache latest : Ref TmdbCache} {cleanup : Option Nat} {runs : List EnrichRun}
    (newer : latest.id ≠ cache.id) :
    settle answers (resting v cache latest false cleanup runs) .render =
      some (resting v latest latest true cleanup runs) := by
  have changed : (v.withCache latest).sameDeps (v.withCache cache) = false := by
    simp [Values.sameDeps, Values.withCache, newer]
  show some { resting v cache latest false cleanup runs with
    rendered := v.withCache latest
    effectWaits := !(v.withCache latest).sameDeps (v.withCache cache) } = _
  rw [changed]
  rfl

/-- A render with nothing new. -/
theorem render_same {s : Crosswatch} (same : s.values = s.rendered) (idle : s.effectWaits = false) :
    settle answers s .render = some s := by
  cases s
  simp only [settle, Crosswatch.step] at *
  subst same idle
  simp [Values.sameDeps_refl]

end Turns

/-! ## One turn -/

section Advance

variable (answers : Int → TmdbResponse) (v : Values)

/-- From `s` with the films `ahead` still to be requested to `s'` with `ahead'`. -/
structure Advance (s : Crosswatch) (ahead : List TraktMovie) (s' : Crosswatch)
    (ahead' : List TraktMovie) : Prop where
  phase : Phase answers v s' ahead'
  order : (∀ m ∈ s.values.uncached, Served answers m.ids.tmdb) →
    s.requestedIds ++ ahead.map (fun m => m.ids.tmdb) =
      s'.requestedIds ++ ahead'.map fun m => m.ids.tmdb
  fewer : ∀ m ∈ s'.values.uncached, m ∈ s.values.uncached
  missing : ∀ m ∈ s.values.uncached, ¬ Served answers m.ids.tmdb → m ∈ s'.values.uncached

variable {answers v}

/-- A turn that leaves the cache alone, with the requests it sends. -/
theorem Advance.of_same {s s' : Crosswatch} {ahead ahead' : List TraktMovie}
    (phase : Phase answers v s' ahead') (same : s'.values = s.values) (sent : List Int)
    (requested : s'.requestedIds = s.requestedIds ++ sent)
    (next : ahead.map (fun m => m.ids.tmdb) = sent ++ ahead'.map fun m => m.ids.tmdb) :
    Advance answers v s ahead s' ahead' where
  phase := phase
  order _ := by rw [requested, next, List.append_assoc]
  fewer m member := by rwa [same] at member
  missing m member _ := by rwa [same]

theorem rank_resting {cache latest : Ref TmdbCache} {cleanup : Option Nat} {runs : List EnrichRun}
    (newer : latest.id ≠ cache.id) : (resting v cache latest false cleanup runs).rank = 2 := by
  simp [Crosswatch.rank, resting, Values.sameDeps, Values.withCache, newer]

theorem rank_settled {cache : Ref TmdbCache} {cleanup : Option Nat} {runs : List EnrichRun} :
    (resting v cache cache false cleanup runs).rank = 0 := by
  simp [Crosswatch.rank, resting, Values.sameDeps_refl]

/-- A turn that sends requests for these ids. -/
theorem Crosswatch.Forward.of_sent {s s' : Crosswatch} {sent : List Int} (nonempty : sent ≠ [])
    (requested : s'.requestedIds = s.requestedIds ++ sent) : s.Forward s' := by
  have more := List.length_pos_of_ne_nil nonempty
  refine .inl ?_
  rw [Crosswatch.requests_eq, Crosswatch.requests_eq, requested, List.length_append]
  omega

theorem Crosswatch.Forward.of_rank {s s' : Crosswatch} (requested : s'.requestedIds = s.requestedIds)
    (nearer : s'.rank < s.rank) : s.Forward s' := by
  refine .inr ⟨?_, nearer⟩
  rw [Crosswatch.requests_eq, Crosswatch.requests_eq, requested]

theorem requestedIds_resting {cache latest : Ref TmdbCache} {waits : Bool} {cleanup : Option Nat}
    {runs : List EnrichRun} :
    (resting v cache latest waits cleanup runs).requestedIds = runs.flatMap EnrichRun.requested := rfl

theorem requestedIds_flying {cache : Ref TmdbCache} {runs : List EnrichRun} {apiKey : String}
    {done : List TraktMovie} {m : TraktMovie} {batch : List TraktMovie} {requested : List Int} :
    (flying answers v cache runs apiKey done m batch requested).requestedIds =
      runs.flatMap EnrichRun.requested ++ requested := by
  simp [Crosswatch.requestedIds, flying, List.flatMap_append]

theorem Phase.effect (enabled : v.enabled = true) (cache : Ref TmdbCache) (cleanup : Option Nat)
    {runs : List EnrichRun} (ended : ∀ run ∈ runs, run.awaiting = none) :
    ∃ s' ahead', settle answers (resting v cache cache true cleanup runs) .effect = some s' ∧
      Advance answers v (resting v cache cache true cleanup runs) (v.withCache cache).uncached
        s' ahead' ∧
      (resting v cache cache true cleanup runs).Forward s' := by
  cases first : (v.withCache cache).uncached with
  | nil =>
      refine ⟨_, [], effect_cached ended first,
        .of_same (.settled cache none runs ended first) rfl [] (List.append_nil _).symm rfl,
        .of_rank rfl ?_⟩
      rw [rank_settled]
      exact Nat.zero_lt_one
  | cons m rest =>
      have split : ([] : List TraktMovie) ++ m :: rest.take 9 =
          (v.withCache cache).uncached.take 10 := by
        rw [first]
        rfl
      have left : (v.withCache cache).uncached.drop 10 = rest.drop 9 := by
        rw [first]
        rfl
      refine ⟨_, _, effect_uncached enabled ended first,
        .of_same (.flies cache runs v.tmdbApiKey [] m (rest.take 9) [m.ids.tmdb] ended split) rfl
          [m.ids.tmdb] requestedIds_flying ?_, .of_sent (List.cons_ne_nil _ _) requestedIds_flying⟩
      rw [left, List.take_append_drop]
      rfl

theorem Phase.answer {cache : Ref TmdbCache} {runs : List EnrichRun} (apiKey : String)
    {done : List TraktMovie} {m : TraktMovie} {batch : List TraktMovie} (requested : List Int)
    (ended : ∀ run ∈ runs, run.awaiting = none)
    (split : done ++ m :: batch = (v.withCache cache).uncached.take 10) :
    ∃ s' ahead', settle answers (flying answers v cache runs apiKey done m batch requested)
        (.answer runs.length) = some s' ∧
      Advance answers v (flying answers v cache runs apiKey done m batch requested)
        (batch ++ (v.withCache cache).uncached.drop 10) s' ahead' ∧
      (flying answers v cache runs apiKey done m batch requested).Forward s' := by
  cases batch with
  | cons m' batch =>
      have sent : (flying answers v cache runs apiKey (done ++ [m]) m' batch
          (requested ++ [m'.ids.tmdb])).requestedIds =
            (flying answers v cache runs apiKey done m (m' :: batch) requested).requestedIds ++
              [m'.ids.tmdb] := by
        rw [requestedIds_flying, requestedIds_flying, List.append_assoc]
      exact ⟨_, _, answer_next ended,
        .of_same (.flies cache runs apiKey (done ++ [m]) m' batch (requested ++ [m'.ids.tmdb]) ended
          (by simpa using split)) rfl [m'.ids.tmdb] sent rfl,
        .of_sent (List.cons_ne_nil _ _) sent⟩
  | nil =>
      have later : ∀ run ∈ runs ++ [⟨apiKey, none, [], requested, serve answers (done ++ [m]), false⟩],
          run.awaiting = none := by
        intro run member
        rcases List.mem_append.mp member with earlier | last
        · exact ended run earlier
        · rw [List.mem_singleton.mp last]
      have same : (resting v cache (cache.replace (cache.value ++ serve answers (done ++ [m]))) false
          (some runs.length)
          (runs ++ [⟨apiKey, none, [], requested, serve answers (done ++ [m]), false⟩])).requestedIds =
            (flying answers v cache runs apiKey done m [] requested).requestedIds := by
        rw [requestedIds_flying, requestedIds_resting, List.flatMap_append, List.flatMap_singleton]
      refine ⟨_, _, answer_last ended,
        ⟨.due cache (cache.replace (cache.value ++ serve answers (done ++ [m]))) (some runs.length) _
          later (Nat.succ_ne_self _), ?_, ?_, ?_⟩, .of_rank same ?_⟩
      · intro all
        have left := Values.uncached_serve 10 all
        rw [← split] at left
        rw [same, left, List.nil_append]
      · exact fun other member => Values.mem_uncached_of_replace member
      · exact fun other member gone => Values.mem_uncached_serve member gone
      · rw [rank_resting (Nat.succ_ne_self _)]
        exact Nat.lt_succ_self 2

theorem Phase.render {cache latest : Ref TmdbCache} {cleanup : Option Nat} {runs : List EnrichRun}
    (ended : ∀ run ∈ runs, run.awaiting = none) (newer : latest.id ≠ cache.id) :
    Advance answers v (resting v cache latest false cleanup runs) (v.withCache latest).uncached
        (resting v latest latest true cleanup runs) (v.withCache latest).uncached ∧
      (resting v cache latest false cleanup runs).Forward
        (resting v latest latest true cleanup runs) := by
  refine ⟨.of_same (.waits latest cleanup runs ended) rfl [] (List.append_nil _).symm rfl,
    .of_rank rfl ?_⟩
  rw [rank_resting newer]
  exact Nat.lt_succ_self 1

/-- Unless everything is settled, some turn sends a request or brings one nearer. -/
theorem Phase.turn (enabled : v.enabled = true) {s : Crosswatch} {ahead : List TraktMovie}
    (phase : Phase answers v s ahead) :
    (s.Quiescent ∧ s.values.uncached = []) ∨
    ∃ turn s' ahead', settle answers s turn = some s' ∧ Advance answers v s ahead s' ahead' ∧
      s.Forward s' := by
  cases phase with
  | waits cache cleanup runs ended => exact .inr ⟨_, Phase.effect enabled cache cleanup ended⟩
  | flies cache runs apiKey done m batch requested ended split =>
      exact .inr ⟨_, Phase.answer apiKey requested ended split⟩
  | due cache latest cleanup runs ended newer =>
      exact .inr ⟨_, _, _, render_due newer, Phase.render ended newer⟩
  | settled cache cleanup runs ended empty =>
      refine .inl ⟨⟨?_, rfl, Values.sameDeps_refl _⟩, empty⟩
      rintro ⟨run, member, awaits⟩
      rw [ended run member] at awaits
      cases awaits

theorem Phase.rerender {s s' : Crosswatch} {ahead : List TraktMovie} (phase : Phase answers v s ahead)
    (same : s.values = s.rendered) (idle : s.effectWaits = false)
    (taken : settle answers s .render = some s') : ∃ ahead', Advance answers v s ahead s' ahead' := by
  rw [render_same same idle] at taken
  cases taken
  exact ⟨ahead, .of_same phase rfl [] (List.append_nil _).symm rfl⟩

/-- Every turn keeps to the phases. -/
theorem Phase.kept (enabled : v.enabled = true) {s s' : Crosswatch} {ahead : List TraktMovie}
    {turn : Turn} (phase : Phase answers v s ahead) (taken : settle answers s turn = some s') :
    ∃ ahead', Advance answers v s ahead s' ahead' := by
  have phase' := phase
  cases phase with
  | waits cache cleanup runs ended =>
      cases turn with
      | render => cases taken
      | effect =>
          obtain ⟨s'', ahead', run, advance, -⟩ := Phase.effect enabled cache cleanup ended
          obtain rfl := Option.some.inj (run.symm.trans taken)
          exact ⟨ahead', advance⟩
      | answer i =>
          rw [answer_resting ended] at taken
          cases taken
  | flies cache runs apiKey done m batch requested ended split =>
      cases turn with
      | render => exact phase'.rerender rfl rfl taken
      | effect => cases taken
      | answer i =>
          by_cases last : i = runs.length
          · obtain ⟨s'', ahead', run, advance, -⟩ := Phase.answer apiKey requested ended split
            rw [last] at taken
            obtain rfl := Option.some.inj (run.symm.trans taken)
            exact ⟨ahead', advance⟩
          · rw [answer_flying ended, if_neg last] at taken
            cases taken
  | due cache latest cleanup runs ended newer =>
      cases turn with
      | render =>
          rw [render_due newer] at taken
          cases taken
          exact ⟨_, (Phase.render ended newer).1⟩
      | effect => cases taken
      | answer i =>
          rw [answer_resting ended] at taken
          cases taken
  | settled cache cleanup runs ended empty =>
      cases turn with
      | render => exact phase'.rerender rfl rfl taken
      | effect => cases taken
      | answer i =>
          rw [answer_resting ended] at taken
          cases taken

end Advance

/-! ## Whole runs with an enabled effect -/

section Enabled

variable {answers : Int → TmdbResponse} {v : Values}

theorem Crosswatch.rank_le (s : Crosswatch) : s.rank ≤ 3 := by
  rw [rank]
  repeat' split
  all_goals omega

theorem Phase.mount : Phase answers v (.mount v) v.uncached := .waits v.tmdbCache none [] nofun

theorem Phase.listed {s : Crosswatch} {ahead : List TraktMovie} (phase : Phase answers v s ahead) :
    s.values.allTraktMovies = v.allTraktMovies := by
  cases phase <;> rfl

theorem Phase.cached_of_quiescent {s : Crosswatch} {ahead : List TraktMovie}
    (phase : Phase answers v s ahead) (quiescent : s.Quiescent) : s.values.uncached = [] := by
  obtain ⟨grounded, idle, rendered⟩ := quiescent
  cases phase with
  | waits cache cleanup runs ended => cases idle
  | flies cache runs apiKey done m batch requested ended split =>
      exact absurd ⟨_, List.mem_concat_self, rfl⟩ grounded
  | due cache latest cleanup runs ended newer =>
      have changed : (v.withCache latest).sameDeps (v.withCache cache) = false := by
        simp [Values.sameDeps, Values.withCache, newer]
      have same : (v.withCache latest).sameDeps (v.withCache cache) = true := rendered
      rw [changed] at same
      cases same
  | settled cache cleanup runs ended empty => exact empty

/-- While TMDB has every film, each is requested once, in the order of the list. -/
structure ServedRun (answers : Int → TmdbResponse) (v : Values) (s : Crosswatch)
    (ahead : List TraktMovie) : Prop where
  phase : Phase answers v s ahead
  served : ∀ m ∈ s.values.uncached, Served answers m.ids.tmdb
  order : s.requestedIds ++ ahead.map (fun m => m.ids.tmdb) = v.uncached.map fun m => m.ids.tmdb

theorem ServedRun.advance {s s' : Crosswatch} {ahead ahead' : List TraktMovie}
    (run : ServedRun answers v s ahead) (advance : Advance answers v s ahead s' ahead') :
    ServedRun answers v s' ahead' where
  phase := advance.phase
  served m member := run.served m (advance.fewer m member)
  order := (advance.order run.served).symm.trans run.order

theorem ServedRun.length {s : Crosswatch} {ahead : List TraktMovie}
    (run : ServedRun answers v s ahead) : s.requests + ahead.length = v.uncached.length := by
  have counted := congrArg List.length run.order
  rw [List.length_append, List.length_map, List.length_map, ← Crosswatch.requests_eq] at counted
  exact counted

theorem ServedRun.stops (enabled : v.enabled = true) {s : Crosswatch} {ahead : List TraktMovie}
    (run : ServedRun answers v s ahead) :
    ∃ later s', Guarded.steps (settle answers) s later = some s' ∧ s'.Quiescent := by
  induction left : 4 * ahead.length + s.rank using Nat.strong_induction_on generalizing s ahead with
  | _ n ih =>
      rcases run.phase.turn enabled with ⟨quiescent, -⟩ | ⟨turn, s', ahead', taken, advance, forward⟩
      · exact ⟨[], s, rfl, quiescent⟩
      · have next := run.advance advance
        have before := run.length
        have after := next.length
        have bound := s'.rank_le
        have less : 4 * ahead'.length + s'.rank < n := by
          rcases forward with more | ⟨same, nearer⟩
          · omega
          · omega
        obtain ⟨later, last, ran, quiescent⟩ := ih _ less next rfl
        exact ⟨turn :: later, last, (Guarded.steps_cons taken later).trans ran, quiescent⟩

theorem settles_of_served (enabled : v.enabled = true)
    (all : ∀ m ∈ v.uncached, Served answers m.ids.tmdb) : Settles answers v := by
  have reached : ∀ {turns s}, Guarded.steps (settle answers) (.mount v) turns = some s →
      ∃ ahead, ServedRun answers v s ahead :=
    fun ran => Guarded.steps_invariant (P := fun s => ∃ ahead, ServedRun answers v s ahead)
      (fun ⟨_, run⟩ taken => (run.phase.kept enabled taken).imp fun _ => run.advance)
      ⟨_, Phase.mount, all, rfl⟩ ran
  refine ⟨⟨v.uncached.length, fun turns s ran => ?_⟩, fun turns s ran => ?_, ?_⟩
  · obtain ⟨ahead, run⟩ := reached ran
    have counted := run.length
    omega
  · obtain ⟨ahead, run⟩ := reached ran
    exact run.stops enabled
  · intro turns s ran quiescent m listed _
    obtain ⟨ahead, run⟩ := reached ran
    by_contra unknown
    have member : m ∈ s.values.uncached :=
      Values.mem_uncached.mpr ⟨run.phase.listed ▸ listed, Bool.eq_false_iff.mpr unknown⟩
    rw [run.phase.cached_of_quiescent quiescent] at member
    cases member

/-- As long as a film that TMDB does not have is listed, another request will be sent. -/
theorem request_again (enabled : v.enabled = true) {m : TraktMovie}
    (gone : ¬ Served answers m.ids.tmdb) {s : Crosswatch} {ahead : List TraktMovie}
    (phase : Phase answers v s ahead) (missing : m ∈ s.values.uncached) :
    ∃ turns s', Guarded.steps (settle answers) s turns = some s' ∧
      (∃ ahead', Phase answers v s' ahead' ∧ m ∈ s'.values.uncached) ∧ s.requests < s'.requests := by
  induction near : s.rank using Nat.strong_induction_on generalizing s ahead with
  | _ n ih =>
      rcases phase.turn enabled with ⟨-, empty⟩ | ⟨turn, s', ahead', taken, advance, forward⟩
      · rw [empty] at missing
        cases missing
      · have still := advance.missing m missing gone
        rcases forward with more | ⟨same, nearer⟩
        · exact ⟨[turn], s', Guarded.steps_cons taken [], ⟨ahead', advance.phase, still⟩, more⟩
        · obtain ⟨turns, last, ran, holds, raised⟩ := ih s'.rank (near ▸ nearer) advance.phase still rfl
          exact ⟨turn :: turns, last, (Guarded.steps_cons taken turns).trans ran, holds, same ▸ raised⟩

theorem not_bounded_of_missing (enabled : v.enabled = true) {m : TraktMovie}
    (listed : m ∈ v.uncached) (gone : ¬ Served answers m.ids.tmdb) :
    ¬ Guarded.Bounded (settle answers) Crosswatch.requests (.mount v) :=
  Guarded.not_bounded_of_rounds (P := fun s => ∃ ahead, Phase answers v s ahead ∧ m ∈ s.values.uncached)
    (fun ⟨_, phase, missing⟩ => request_again enabled gone phase missing) ⟨_, Phase.mount, listed⟩

end Enabled

/-! ## A disabled effect -/

section Disabled

variable {answers : Int → TmdbResponse} {v : Values}

/-- Nothing has happened but, perhaps, an effect that returned at once. -/
structure Untouched (v : Values) (s : Crosswatch) : Prop where
  values : s.values = v
  rendered : s.rendered = v
  cleanup : s.cleanup = none
  runs : s.runs = []

theorem effect_disabled (disabled : v.enabled = false) {s : Crosswatch} (untouched : Untouched v s) :
    s.runCleanup.runEffect = s := by
  have returns : (!v.hasTmdb || v.loading) = !v.enabled := by
    rw [Values.enabled, Bool.not_and, Bool.not_not]
  rw [Crosswatch.runCleanup, untouched.cleanup, Crosswatch.runEffect]
  simp [untouched.rendered, returns, disabled]

theorem Untouched.kept (disabled : v.enabled = false) {s s' : Crosswatch} {turn : Turn}
    (untouched : Untouched v s) (taken : settle answers s turn = some s') : Untouched v s' := by
  cases turn with
  | render =>
      simp only [settle, Crosswatch.step] at taken
      split at taken
      · cases taken
      · cases taken
        exact ⟨untouched.values, untouched.values, untouched.cleanup, untouched.runs⟩
  | effect =>
      simp only [settle, Crosswatch.step, effect_disabled disabled untouched] at taken
      split at taken
      · cases taken
        exact ⟨untouched.values, untouched.rendered, untouched.cleanup, untouched.runs⟩
      · cases taken
  | answer i =>
      simp only [settle, untouched.runs, List.getElem?_nil] at taken
      cases taken

theorem Untouched.mount : Untouched v (.mount v) := ⟨rfl, rfl, rfl, rfl⟩

theorem Untouched.quiescent {s : Crosswatch} (untouched : Untouched v s)
    (idle : s.effectWaits = false) : s.Quiescent := by
  refine ⟨?_, idle, ?_⟩
  · rintro ⟨run, member, -⟩
    rw [untouched.runs] at member
    cases member
  · rw [untouched.values, untouched.rendered]
    exact Values.sameDeps_refl v

/-- A disabled effect comes to rest at once. -/
theorem Untouched.stops (disabled : v.enabled = false) {s : Crosswatch} (untouched : Untouched v s) :
    ∃ later s', Guarded.steps (settle answers) s later = some s' ∧ s'.Quiescent := by
  cases waits : s.effectWaits with
  | false => exact ⟨[], s, rfl, untouched.quiescent waits⟩
  | true =>
      have taken : settle answers s .effect = some { s with effectWaits := false } := by
        simp only [settle, Crosswatch.step, effect_disabled disabled untouched, waits, if_true]
      exact ⟨[.effect], _, Guarded.steps_cons taken [], (untouched.kept disabled taken).quiescent rfl⟩

theorem settles_iff_of_disabled (disabled : v.enabled = false) :
    Settles answers v ↔ ∀ m ∈ v.uncached, ¬ Served answers m.ids.tmdb := by
  have reached : ∀ {turns s}, Guarded.steps (settle answers) (.mount v) turns = some s →
      Untouched v s :=
    fun ran => Guarded.steps_invariant (Untouched.kept disabled) Untouched.mount ran
  constructor
  · intro settles m member has
    obtain ⟨turns, s, ran, quiescent⟩ := settles.stops [] _ rfl
    obtain ⟨listed, unknown⟩ := Values.mem_uncached.mp member
    have known := settles.complete turns s ran quiescent m listed has
    rw [(reached ran).values, unknown] at known
    cases known
  · intro none
    refine ⟨⟨0, fun turns s ran => ?_⟩, fun turns s ran => ?_, ?_⟩
    · rw [Crosswatch.requests, (reached ran).runs]
      exact Nat.le_refl 0
    · exact (reached ran).stops disabled
    · intro turns s ran _ m listed has
      by_contra unknown
      rw [(reached ran).values] at unknown
      exact none m (Values.mem_uncached.mpr ⟨listed, Bool.eq_false_iff.mpr unknown⟩) has

end Disabled

/-- **Enrichment ends, and is complete, if TMDB has what it asks for.**  With a key and
loaded lists the requests come to an end with everything TMDB has in the cache if and
only if TMDB has every listed film that is not cached.  A disabled effect requests
nothing, so that the cache is complete only if TMDB has none of them. -/
theorem enrichment_settles_iff (answers : Int → TmdbResponse) (v : Values) :
    Settles answers v ↔
      if v.enabled then ∀ m ∈ v.uncached, Served answers m.ids.tmdb
      else ∀ m ∈ v.uncached, ¬ Served answers m.ids.tmdb := by
  cases enabled : v.enabled with
  | false => exact settles_iff_of_disabled enabled
  | true =>
      constructor
      · intro settles m listed
        by_contra gone
        exact not_bounded_of_missing enabled listed gone settles.finite
      · exact settles_of_served enabled

/-- A key and two films, loaded: TMDB answers 404 for the first and has the second. -/
def oneMissing : Values where
  tmdbApiKey := "key"
  loading := false
  watchlistMovies := ⟨1, [⟨"", ⟨"Gone", 2001, ⟨1, "gone", 11, ""⟩⟩⟩,
    ⟨"", ⟨"Here", 2002, ⟨2, "here", 12, ""⟩⟩⟩]⟩
  watchedMovies := ⟨1, []⟩
  tmdbCache := ⟨0, []⟩

def oneMissingAnswers (id : Int) : TmdbResponse :=
  if id = 11 then .answered 404 none else .answered 200 (some (.obj [("id", .int id)]))

/-- Both films are requested once, and from then on the first one is requested after
every effect, without end. -/
theorem missing_film_never_settles :
    oneMissing.enabled = true ∧
      ¬ Guarded.Bounded (settle oneMissingAnswers) Crosswatch.requests (.mount oneMissing) ∧
      ¬ Settles oneMissingAnswers oneMissing := by
  have forever : ¬ Guarded.Bounded (settle oneMissingAnswers) Crosswatch.requests (.mount oneMissing) :=
    not_bounded_of_missing (m := ⟨"Gone", 2001, ⟨1, "gone", 11, ""⟩⟩) (by decide) (by decide)
      (by decide)
  exact ⟨by decide, forever, fun settles => forever settles.finite⟩

end VpsDashboard.Frontend
