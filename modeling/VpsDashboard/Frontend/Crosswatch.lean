/-
# VpsDashboard.Frontend.Crosswatch — the effect that fetches film details

`useCrosswatch` keeps the Trakt lists and a cache of TMDB details in React state.  After
every render whose dependencies differ from those of the render before, an effect runs:
it takes the first ten listed films that are not cached and fetches them one by one in
an asynchronous function, whose last acts are to replace the cache object and to reset
the flag `tmdbEnriching`.  Its cleanup, run before the next effect, cancels the fetches
still to come.

The model is a system of guarded steps: a change of the state, a render with its
commit, an effect, and the answer to a request.  React runs a waiting effect before it
renders again.  Objects that are compared by reference carry a number that every
replacement raises.
-/
import VpsDashboard.Foundation.Guarded
import VpsDashboard.Foundation.JsObject
import VpsDashboard.Trakt.Lists

namespace VpsDashboard.Frontend

open Foundation Trakt

set_option autoImplicit false

/-! ## Fetching a detail -/

structure TMDBMovieDetail where
  tmdbId : Option Json
  title : Option Json
  posterPath : Option Json
  backdropPath : Option Json
  releaseDate : Json
  voteAverage : Json
  overview : Json
  runtime : Json
  genres : List (Option Json)
  tagline : Json

/-- What comes back from TMDB: nothing, or a status and the body as `res.json()` reads it. -/
inductive TmdbResponse where
  | failed
  | answered (status : Nat) (body : Option Json)

/-- `(data.genres ?? []).map((g) => g.name)`. -/
def genreNames (genres : Option Json) : Option (List (Option Json)) :=
  match Json.nullish genres (.arr []) with
  | .arr items =>
      if items.any (fun g => g matches .null) then none
      else some (items.map fun g => g.property "name")
  | _ => none

/-- `fetchTMDBDetail` from the response on, `none` when it throws. -/
def fetchTMDBDetail : TmdbResponse → Option TMDBMovieDetail
  | .failed => none
  | .answered status body =>
      if 200 ≤ status ∧ status < 300 then
        match body with
        | none => none
        | some .null => none
        | some data => do
            let genres ← genreNames (data.property "genres")
            return {
              tmdbId := data.property "id"
              title := data.property "title"
              posterPath := data.property "poster_path"
              backdropPath := data.property "backdrop_path"
              releaseDate := Json.nullish (data.property "release_date") (.str "")
              voteAverage := Json.nullish (data.property "vote_average") (.int 0)
              overview := Json.nullish (data.property "overview") (.str "")
              runtime := Json.nullish (data.property "runtime") (.int 0)
              genres := genres
              tagline := Json.nullish (data.property "tagline") (.str "") }
      else none

/-! ## State of the hook -/

/-- A variable that holds an object: which one, and what is in it. -/
structure Ref (α : Type) where
  id : Nat
  value : α

/-- Assign another object. -/
def Ref.replace {α : Type} (r : Ref α) (value : α) : Ref α := ⟨r.id + 1, value⟩

/-- Details by id; of two entries for one id the later counts. -/
abbrev TmdbCache := List (Int × TMDBMovieDetail)

def cached (cache : TmdbCache) (id : Int) : Bool := cache.any fun entry => entry.1 == id

structure Values where
  tmdbApiKey : String
  loading : Bool
  watchlistMovies : Ref (List WatchlistMovie)
  watchedMovies : Ref (List WatchedMovie)
  tmdbCache : Ref TmdbCache

/-- The films with an id that has not come up before. -/
def unseen (seen : List Int) : List TraktMovie → List TraktMovie
  | [] => []
  | m :: rest =>
      if m.ids.tmdb = 0 ∨ m.ids.tmdb ∈ seen then unseen seen rest
      else m :: unseen (m.ids.tmdb :: seen) rest

namespace Values

def hasTmdb (v : Values) : Bool := v.tmdbApiKey != ""

/-- A key is set and the lists are not being loaded. -/
def enabled (v : Values) : Bool := v.hasTmdb && !v.loading

def allTraktMovies (v : Values) : List TraktMovie :=
  unseen [] (v.watchlistMovies.value.map WatchlistMovie.movie ++
    v.watchedMovies.value.map WatchedMovie.movie)

def uncached (v : Values) : List TraktMovie :=
  v.allTraktMovies.filter fun m => m.ids.tmdb ≠ 0 && !cached v.tmdbCache.value m.ids.tmdb

/-- Whether no dependency of the effect differs; `allTraktMovies` is made anew when one
of its two lists is. -/
def sameDeps (v w : Values) : Bool :=
  v.hasTmdb == w.hasTmdb && v.loading == w.loading &&
    (v.watchlistMovies.id == w.watchlistMovies.id && v.watchedMovies.id == w.watchedMovies.id) &&
    v.tmdbApiKey == w.tmdbApiKey && v.tmdbCache.id == w.tmdbCache.id

end Values

theorem unseen_spec (seen : List Int) (movies : List TraktMovie) :
    ((unseen seen movies).map fun m => m.ids.tmdb).Nodup ∧
      ∀ m ∈ unseen seen movies, m.ids.tmdb ≠ 0 ∧ m.ids.tmdb ∉ seen := by
  induction movies generalizing seen with
  | nil => exact ⟨List.nodup_nil, nofun⟩
  | cons m rest ih =>
      rw [unseen]
      split
      · exact ih seen
      · rename_i fresh
        obtain ⟨nonzero, first⟩ := not_or.mp fresh
        obtain ⟨distinct, others⟩ := ih (m.ids.tmdb :: seen)
        refine ⟨?_, ?_⟩
        · rw [List.map_cons, List.nodup_cons]
          refine ⟨fun again => ?_, distinct⟩
          obtain ⟨other, member, same⟩ := List.mem_map.mp again
          exact (others other member).2 (by rw [same]; exact List.mem_cons_self)
        · intro other member
          rcases List.mem_cons.mp member with rfl | later
          · exact ⟨nonzero, first⟩
          · exact ⟨(others other later).1, fun earlier =>
              (others other later).2 (List.mem_cons_of_mem _ earlier)⟩

namespace Values

/-- No two films to fetch have the same id. -/
theorem uncached_nodup (v : Values) : (v.uncached.map fun m => m.ids.tmdb).Nodup :=
  (unseen_spec [] _).1.sublist (List.filter_sublist.map _)

theorem mem_uncached {v : Values} {m : TraktMovie} :
    m ∈ v.uncached ↔ m ∈ v.allTraktMovies ∧ cached v.tmdbCache.value m.ids.tmdb = false := by
  rw [uncached, List.mem_filter]
  apply and_congr_right
  intro member
  have nonzero := ((unseen_spec [] _).2 m member).1
  simp [nonzero]

theorem sameDeps_refl (v : Values) : v.sameDeps v = true := by
  simp [sameDeps]

end Values

/-- One call of `enrich`: the film it awaits, those after it, and the ids it has requested. -/
structure EnrichRun where
  apiKey : String
  awaiting : Option TraktMovie
  batch : List TraktMovie
  requested : List Int
  results : TmdbCache
  cancelled : Bool

namespace EnrichRun

/-- The head of the loop: request the next film, or leave the loop. -/
def next (run : EnrichRun) : EnrichRun :=
  match run.batch with
  | [] => { run with awaiting := none }
  | m :: batch =>
      if run.cancelled then { run with awaiting := none }
      else { run with awaiting := some m, batch := batch, requested := run.requested ++ [m.ids.tmdb] }

def enrich (apiKey : String) (batch : List TraktMovie) : EnrichRun :=
  next ⟨apiKey, none, batch, [], [], false⟩

/-- The `await` returns, or throws and is skipped. -/
def store (run : EnrichRun) (m : TraktMovie) (res : TmdbResponse) : EnrichRun :=
  match fetchTMDBDetail res with
  | some detail => { run with results := run.results ++ [(m.ids.tmdb, detail)] }
  | none => run

/-- Set `cancelled`; nothing reads it once the run has ended. -/
def cancel (run : EnrichRun) : EnrichRun :=
  if run.awaiting.isSome then { run with cancelled := true } else run

end EnrichRun

/-- `values` is the state with all updates applied, `rendered` that of the last commit;
`cleanup` is the run that the last effect left a cleanup for. -/
structure Crosswatch where
  values : Values
  rendered : Values
  effectWaits : Bool
  cleanup : Option Nat
  tmdbEnriching : Bool
  runs : List EnrichRun

inductive Change where
  | apiKey (key : String)
  | loading (loading : Bool)
  | watchlist (movies : List WatchlistMovie)
  | watched (movies : List WatchedMovie)

inductive CrosswatchAction where
  | change (c : Change)
  | render
  | effect
  | answer (run : Nat) (res : TmdbResponse)

def Values.change (v : Values) : Change → Values
  | .apiKey key => { v with tmdbApiKey := key }
  | .loading loading => { v with loading := loading }
  | .watchlist movies => { v with watchlistMovies := v.watchlistMovies.replace movies }
  | .watched movies => { v with watchedMovies := v.watchedMovies.replace movies }

namespace Crosswatch

/-- The state after the first render with these values. -/
def mount (v : Values) : Crosswatch := ⟨v, v, true, none, false, []⟩

def runCleanup (s : Crosswatch) : Crosswatch :=
  match s.cleanup with
  | none => s
  | some i => { s with runs := s.runs.modify i EnrichRun.cancel, cleanup := none }

/-- The body of the effect. -/
def runEffect (s : Crosswatch) : Crosswatch :=
  let v := s.rendered
  if !v.hasTmdb || v.loading || s.tmdbEnriching || v.allTraktMovies.isEmpty then s
  else if v.uncached.isEmpty then { s with tmdbEnriching := false }
  else { s with
    tmdbEnriching := true
    cleanup := some s.runs.length
    runs := s.runs ++ [.enrich v.tmdbApiKey (v.uncached.take 10)] }

/-- After the loop of a run. -/
def finish (s : Crosswatch) (run : EnrichRun) : Crosswatch :=
  let s := if run.cancelled then s else { s with
    values := { s.values with
      tmdbCache := s.values.tmdbCache.replace (s.values.tmdbCache.value ++ run.results) } }
  { s with tmdbEnriching := false }

/-- The answer to the request that the run at `i` awaits. -/
def answered (s : Crosswatch) (i : Nat) (run : EnrichRun) (m : TraktMovie) (res : TmdbResponse) :
    Crosswatch :=
  let run := (run.store m res).next
  let s := { s with runs := s.runs.set i run }
  match run.awaiting with
  | none => s.finish run
  | some _ => s

def step (s : Crosswatch) : CrosswatchAction → Option Crosswatch
  | .change c => some { s with values := s.values.change c }
  | .render =>
      if s.effectWaits then none
      else some { s with
        rendered := s.values
        effectWaits := !s.values.sameDeps s.rendered }
  | .effect =>
      if s.effectWaits then some { s.runCleanup.runEffect with effectWaits := false } else none
  | .answer i res => do
      let run ← s.runs[i]?
      let m ← run.awaiting
      return s.answered i run m res

/-- The number of requests sent to TMDB. -/
def requests (s : Crosswatch) : Nat := (s.runs.map fun run => run.requested.length).sum

def InFlight (s : Crosswatch) : Prop := ∃ run ∈ s.runs, run.awaiting.isSome

/-- No run is in flight, no effect waits to be executed, and no render is due. -/
def Quiescent (s : Crosswatch) : Prop :=
  ¬ s.InFlight ∧ s.effectWaits = false ∧ s.values.sameDeps s.rendered

instance (s : Crosswatch) : Decidable s.InFlight :=
  inferInstanceAs (Decidable (∃ run ∈ s.runs, _))

instance (s : Crosswatch) : Decidable s.Quiescent := inferInstanceAs (Decidable (_ ∧ _ ∧ _))

end Crosswatch

end VpsDashboard.Frontend
