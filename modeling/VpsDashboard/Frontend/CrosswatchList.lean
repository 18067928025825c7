/-
# VpsDashboard.Frontend.CrosswatchList — the films that the Crosswatch widget shows

`useCrosswatch` makes its list out of four views of the two Trakt lists, each with its own
rule for an id that comes up twice: a `Map` that keeps the first film, the filtered union of
both lists, the set of the watched ids, and a record in which the last watched entry counts.

`movies_join` says that they fit together: whatever the lists and the cache hold, the list
shows each film of the view that has an id, once and in order of first occurrence
(`Join`).  The one thing that keeps it from being made is a cached release date that has no
`slice`, which throws.
-/
import VpsDashboard.Foundation.KeepFirst
import VpsDashboard.Frontend.Crosswatch

namespace VpsDashboard.Frontend

open Foundation Trakt

set_option autoImplicit false

/-! ## The list -/

inductive CrosswatchView where
  | watchlist
  | watched
deriving DecidableEq

/-- The year of Trakt, or `Number` of the beginning of a release date. -/
inductive MovieYear where
  | trakt (year : Int)
  | number (beginning : Json)

structure CrosswatchMovie where
  tmdbId : Int
  title : Json
  year : MovieYear
  posterPath : Json
  voteAverage : Json
  runtime : Json
  genres : List (Option Json)
  watched : Bool
  watchedAt : Option String
  plays : Int

/-- An entry of `watchedAtMap`. -/
structure WatchedInfo where
  at' : String
  plays : Int

/-- `tmdbCache[id]`. -/
def cachedDetail (cache : TmdbCache) (id : Int) : Option TMDBMovieDetail :=
  cache.reverse.lookup id

/-- The year of a film, `none` when the release date has no `slice`. -/
def movieYear (detail : Option TMDBMovieDetail) (m : TraktMovie) : Option MovieYear :=
  match detail with
  | some d =>
      if d.releaseDate.truthy then (d.releaseDate.slice 4).map .number
      else some (.trakt m.year)
  | none => some (.trakt m.year)

/-- The body of the loop over the films of the view. -/
def addUnique (unique : JsMap Int TraktMovie) (m : TraktMovie) : JsMap Int TraktMovie :=
  if m.ids.tmdb ≠ 0 && !unique.has m.ids.tmdb then unique.set m.ids.tmdb m else unique

def addWatched (map : JsMap Int WatchedInfo) (w : WatchedMovie) : JsMap Int WatchedInfo :=
  if w.movie.ids.tmdb ≠ 0 then map.set w.movie.ids.tmdb ⟨w.lastWatchedAt, w.plays⟩ else map

namespace Values

variable (v : Values)

/-- The set of the ids that are not 0. -/
def watchedTmbdIds : List Int :=
  (v.watchedMovies.value.map fun w => w.movie.ids.tmdb).filter fun id => id ≠ 0

def watchedAtMap : JsMap Int WatchedInfo := v.watchedMovies.value.foldl addWatched []

def movieList : CrosswatchView → List TraktMovie
  | .watchlist => v.watchlistMovies.value.map WatchlistMovie.movie
  | .watched => v.watchedMovies.value.map WatchedMovie.movie

def unique (view : CrosswatchView) : JsMap Int TraktMovie :=
  (v.movieList view).foldl addUnique []

/-- One film of the list, `none` when it throws. -/
def crosswatchMovie (m : TraktMovie) : Option CrosswatchMovie := do
  let tmdbId := m.ids.tmdb
  let detail := if tmdbId ≠ 0 then cachedDetail v.tmdbCache.value tmdbId else none
  let watchedInfo := if tmdbId ≠ 0 then v.watchedAtMap.get tmdbId else none
  let year ← movieYear detail m
  return {
    tmdbId := tmdbId
    title := Json.nullish (detail.bind (·.title)) (.str m.title)
    year := year
    posterPath := Json.nullish (detail.bind (·.posterPath)) .null
    voteAverage := Json.nullish (detail.map (·.voteAverage)) (.int 0)
    runtime := Json.nullish (detail.map (·.runtime)) (.int 0)
    genres := (detail.map (·.genres)).getD []
    watched := if tmdbId ≠ 0 then v.watchedTmbdIds.contains tmdbId else false
    watchedAt := watchedInfo.map (·.at')
    plays := (watchedInfo.map (·.plays)).getD 0 }

/-- `movies`, `none` when it throws. -/
def movies (view : CrosswatchView) : Option (List CrosswatchMovie) :=
  ((v.unique view).map Prod.snd).mapM v.crosswatchMovie

end Values

/-! ## The four views -/

section Views

variable {v : Values} {view : CrosswatchView}

def tmdbOf (m : TraktMovie) : Int := m.ids.tmdb

/-- The union of both lists keeps the first film of each id that is not 0. -/
theorem unseen_eq (seen : List Int) (movies : List TraktMovie) :
    unseen seen movies = keepFirst tmdbOf (0 :: seen) movies := by
  induction movies generalizing seen with
  | nil => rfl
  | cons m rest ih =>
      rw [unseen]
      split
      · rename_i known
        rw [keepFirst_cons_seen tmdbOf (List.mem_cons.mpr known), ih]
      · rename_i fresh
        have swap : ∀ k, k ∈ 0 :: m.ids.tmdb :: seen ↔ k ∈ tmdbOf m :: 0 :: seen := by
          intro k
          simp [tmdbOf, or_left_comm]
        rw [keepFirst_cons_new tmdbOf fun known => fresh (List.mem_cons.mp known), ih,
          keepFirst_congr tmdbOf swap]

/-- So does the `Map`, of the list of the view. -/
theorem foldl_addUnique (unique : JsMap Int TraktMovie) (movies : List TraktMovie) :
    (movies.foldl addUnique unique).map Prod.snd =
      unique.map Prod.snd ++ keepFirst tmdbOf (0 :: unique.map Prod.fst) movies := by
  induction movies generalizing unique with
  | nil => simp
  | cons m rest ih =>
      rw [List.foldl_cons, ih]
      by_cases known : tmdbOf m ∈ 0 :: unique.map Prod.fst
      · have kept : addUnique unique m = unique := by
          apply if_neg
          rcases List.mem_cons.mp known with zero | old
          · simp [show m.ids.tmdb = 0 from zero]
          · simp [JsMap.has_eq_true_iff.mpr (show m.ids.tmdb ∈ _ from old)]
        rw [keepFirst_cons_seen tmdbOf known, kept]
      · obtain ⟨nonzero, fresh⟩ : m.ids.tmdb ≠ 0 ∧ m.ids.tmdb ∉ unique.map Prod.fst :=
          not_or.mp fun either => known (List.mem_cons.mpr either)
        have added : addUnique unique m = unique ++ [(m.ids.tmdb, m)] := by
          rw [← JsMap.set_fresh fresh]
          apply if_pos
          have lacks : unique.has m.ids.tmdb = false := by
            simpa using fun has => fresh (JsMap.has_eq_true_iff.mp has)
          simp [lacks, nonzero]
        have swap : ∀ k, k ∈ 0 :: (unique.map Prod.fst ++ [m.ids.tmdb]) ↔
            k ∈ tmdbOf m :: 0 :: unique.map Prod.fst := by
          intro k
          simp [tmdbOf, or_comm, or_left_comm]
        rw [keepFirst_cons_new tmdbOf known, added]
        simp [keepFirst_congr tmdbOf swap]

theorem unique_eq : (v.unique view).map Prod.snd = keepFirst tmdbOf [0] (v.movieList view) :=
  foldl_addUnique [] _

/-- The entry that the record has for an id is that of a watched film with that id. -/
theorem foldl_addWatched_get (map : JsMap Int WatchedInfo) (watched : List WatchedMovie) (id : Int) :
    ((watched.foldl addWatched map).get id = map.get id ∧
        ∀ w ∈ watched, w.movie.ids.tmdb = id → id = 0) ∨
      ∃ w ∈ watched, w.movie.ids.tmdb = id ∧
        (watched.foldl addWatched map).get id = some ⟨w.lastWatchedAt, w.plays⟩ := by
  induction watched generalizing map with
  | nil => exact .inl ⟨rfl, nofun⟩
  | cons w rest ih =>
      rw [List.foldl_cons]
      rcases ih (addWatched map w) with ⟨kept, none⟩ | ⟨w', member, same, found⟩
      · by_cases mine : w.movie.ids.tmdb = id ∧ id ≠ 0
        · obtain ⟨rfl, nonzero⟩ := mine
          refine .inr ⟨w, List.mem_cons_self, rfl, ?_⟩
          rw [kept]
          simp [addWatched, nonzero, JsMap.get_set]
        · left
          constructor
          · rw [kept]
            by_cases zero : w.movie.ids.tmdb = 0
            · simp [addWatched, zero]
            · have other : id ≠ w.movie.ids.tmdb := by
                rintro rfl
                exact mine ⟨rfl, zero⟩
              simp [addWatched, zero, JsMap.get_set, other]
          · intro w' member same
            rcases List.mem_cons.mp member with rfl | later
            · by_contra nonzero
              exact mine ⟨same, nonzero⟩
            · exact none w' later same
      · exact .inr ⟨w', List.mem_cons_of_mem _ member, same, found⟩

/-- For a watched id the record has the data of one watched entry. -/
theorem watchedAtMap_get {id : Int} (nonzero : id ≠ 0)
    (watched : id ∈ v.watchedMovies.value.map fun w => w.movie.ids.tmdb) :
    ∃ w ∈ v.watchedMovies.value, w.movie.ids.tmdb = id ∧
      v.watchedAtMap.get id = some ⟨w.lastWatchedAt, w.plays⟩ := by
  rcases foldl_addWatched_get [] v.watchedMovies.value id with ⟨-, none⟩ | found
  · obtain ⟨w, member, same⟩ := List.mem_map.mp watched
    exact absurd (none w member same) nonzero
  · exact found

theorem mem_watchedTmbdIds_iff {id : Int} :
    id ∈ v.watchedTmbdIds ↔
      id ∈ (v.watchedMovies.value.map fun w => w.movie.ids.tmdb) ∧ id ≠ 0 := by
  simp [Values.watchedTmbdIds]

/-- Every film of the view is listed for its details. -/
theorem mem_allTraktMovies {id : Int} (nonzero : id ≠ 0)
    (listed : id ∈ (v.movieList view).map tmdbOf) : id ∈ v.allTraktMovies.map tmdbOf := by
  obtain ⟨m, member, rfl⟩ := List.mem_map.mp listed
  rw [Values.allTraktMovies, unseen_eq, mem_map_keepFirst_iff]
  refine ⟨List.mem_map_of_mem ?_, by simpa using nonzero⟩
  cases view with
  | watchlist => exact List.mem_append_left _ member
  | watched => exact List.mem_append_right _ member

/-! ## The join -/

/-- What is returned for one film. -/
theorem crosswatchMovie_eq_some {m : TraktMovie} {shown : CrosswatchMovie} (nonzero : tmdbOf m ≠ 0)
    (returned : v.crosswatchMovie m = some shown) :
    shown.tmdbId = tmdbOf m ∧
      (shown.watched = true ↔
        tmdbOf m ∈ v.watchedMovies.value.map fun w => w.movie.ids.tmdb) ∧
      (shown.watched = true → ∃ w ∈ v.watchedMovies.value, w.movie.ids.tmdb = tmdbOf m ∧
        shown.watchedAt = some w.lastWatchedAt ∧ shown.plays = w.plays) := by
  have id : m.ids.tmdb ≠ 0 := nonzero
  obtain ⟨year, -, rest⟩ := Option.bind_eq_some_iff.mp returned
  obtain rfl := Option.some.inj rest
  have watched : (v.watchedTmbdIds.contains m.ids.tmdb = true) ↔
      tmdbOf m ∈ v.watchedMovies.value.map fun w => w.movie.ids.tmdb := by
    rw [List.contains_iff_mem, mem_watchedTmbdIds_iff]
    exact and_iff_left id
  simp only [if_pos id]
  refine ⟨rfl, watched, fun shown => ?_⟩
  obtain ⟨w, member, same, found⟩ := watchedAtMap_get nonzero (watched.mp shown)
  exact ⟨w, member, same, by simp [show v.watchedAtMap.get m.ids.tmdb = _ from found]⟩

/-- The films of a view are shown as they should be. -/
structure Join (v : Values) (films : List TraktMovie) (shown : List CrosswatchMovie) : Prop where
  nonzero : ∀ m ∈ shown, m.tmdbId ≠ 0
  distinct : (shown.map (·.tmdbId)).Nodup
  ordered : (shown.map (·.tmdbId)).Pairwise fun a b =>
    (films.map tmdbOf).idxOf a < (films.map tmdbOf).idxOf b
  complete : ∀ m ∈ films, tmdbOf m ≠ 0 → tmdbOf m ∈ shown.map (·.tmdbId)
  listed : ∀ m ∈ shown, m.tmdbId ∈ films.map tmdbOf
  candidates : ∀ m ∈ shown, m.tmdbId ∈ v.allTraktMovies.map tmdbOf
  watched : ∀ m ∈ shown, (m.watched = true ↔
    m.tmdbId ∈ v.watchedMovies.value.map fun w => w.movie.ids.tmdb)
  oneEntry : ∀ m ∈ shown, m.watched = true → ∃ w ∈ v.watchedMovies.value,
    w.movie.ids.tmdb = m.tmdbId ∧ m.watchedAt = some w.lastWatchedAt ∧ m.plays = w.plays

theorem mapM_movies {films : List TraktMovie} {shown : List CrosswatchMovie}
    (nonzero : ∀ m ∈ films, tmdbOf m ≠ 0) (returned : films.mapM v.crosswatchMovie = some shown) :
    shown.map (·.tmdbId) = films.map tmdbOf ∧
      ∀ m ∈ shown, ∃ film ∈ films, v.crosswatchMovie film = some m := by
  induction films generalizing shown with
  | nil =>
      obtain rfl := Option.some.inj returned
      exact ⟨rfl, nofun⟩
  | cons film rest ih =>
      rw [List.mapM_cons] at returned
      obtain ⟨first, one, later⟩ := Option.bind_eq_some_iff.mp returned
      obtain ⟨others, all, whole⟩ := Option.bind_eq_some_iff.mp later
      obtain rfl := Option.some.inj whole
      obtain ⟨head, tail⟩ := List.forall_mem_cons.mp nonzero
      obtain ⟨ids, sources⟩ := ih tail all
      refine ⟨?_, List.forall_mem_cons.mpr ⟨⟨film, List.mem_cons_self, one⟩, ?_⟩⟩
      · rw [List.map_cons, List.map_cons, ids, (crosswatchMovie_eq_some head one).1]
      · intro m member
        obtain ⟨film', inside, same⟩ := sources m member
        exact ⟨film', List.mem_cons_of_mem _ inside, same⟩

theorem mapM_eq_none {films : List TraktMovie} (thrown : films.mapM v.crosswatchMovie = none) :
    ∃ film ∈ films, v.crosswatchMovie film = none := by
  induction films with
  | nil => cases thrown
  | cons film rest ih =>
      cases one : v.crosswatchMovie film with
      | none => exact ⟨film, List.mem_cons_self, one⟩
      | some first =>
          cases later : rest.mapM v.crosswatchMovie with
          | none =>
              obtain ⟨film', inside, none⟩ := ih later
              exact ⟨film', List.mem_cons_of_mem _ inside, none⟩
          | some others => simp [List.mapM_cons, one, later] at thrown

/-- A cached release date that counts as true and has no `slice`. -/
def Undated (v : Values) (m : TraktMovie) : Prop :=
  ∃ detail, cachedDetail v.tmdbCache.value (tmdbOf m) = some detail ∧
    detail.releaseDate.truthy = true ∧ detail.releaseDate.slice 4 = none

theorem crosswatchMovie_eq_none {m : TraktMovie} (thrown : v.crosswatchMovie m = none) :
    Undated v m := by
  have year : movieYear (if m.ids.tmdb ≠ 0 then cachedDetail v.tmdbCache.value m.ids.tmdb
      else none) m = none := by
    by_contra made
    obtain ⟨year, some⟩ := Option.ne_none_iff_exists'.mp made
    simp only [Values.crosswatchMovie, some] at thrown
    cases thrown
  split at year
  · cases found : cachedDetail v.tmdbCache.value m.ids.tmdb with
    | none => simp [found, movieYear] at year
    | some detail =>
        cases true : detail.releaseDate.truthy with
        | false => simp [found, movieYear, true] at year
        | true => exact ⟨detail, found, true, by simpa [found, movieYear, true] using year⟩
  · cases year

/-- **The list is a faithful join of the lists.**  Whatever the watchlist, the watched list
and the cache hold, in either view: the films shown are those of the view, and they are
marked by the watched list (`Join`).  The list cannot be made only for a cached release date
that has no `slice`. -/
theorem movies_join (v : Values) (view : CrosswatchView) :
    let films := match view with
      | .watchlist => v.watchlistMovies.value.map fun e => e.movie
      | .watched => v.watchedMovies.value.map fun e => e.movie
    match v.movies view with
    | some shown => Join v films shown
    | none => ∃ m ∈ films, tmdbOf m ≠ 0 ∧ Undated v m := by
  intro films
  have same : films = v.movieList view := by
    cases view <;> rfl
  rw [same]
  have inside : ∀ m ∈ keepFirst tmdbOf [0] (v.movieList view),
      m ∈ v.movieList view ∧ tmdbOf m ≠ 0 := by
    intro m member
    refine ⟨(keepFirst_sublist tmdbOf).subset member, ?_⟩
    simpa using ((mem_map_keepFirst_iff tmdbOf).mp (List.mem_map_of_mem member)).2
  cases made : v.movies view with
  | none =>
      rw [Values.movies, unique_eq] at made
      obtain ⟨m, member, thrown⟩ := mapM_eq_none made
      exact ⟨m, (inside m member).1, (inside m member).2, crosswatchMovie_eq_none thrown⟩
  | some shown =>
      rw [Values.movies, unique_eq] at made
      obtain ⟨ids, sources⟩ := mapM_movies (fun m member => (inside m member).2) made
      have facts : ∀ m ∈ shown, ∃ film ∈ v.movieList view, tmdbOf film ≠ 0 ∧
          v.crosswatchMovie film = some m ∧ m.tmdbId = tmdbOf film := by
        intro m member
        obtain ⟨film, kept, same⟩ := sources m member
        obtain ⟨listed, nonzero⟩ := inside film kept
        exact ⟨film, listed, nonzero, same, (crosswatchMovie_eq_some nonzero same).1⟩
      constructor
      case nonzero =>
        intro m member
        obtain ⟨film, -, nonzero, -, id⟩ := facts m member
        rwa [id]
      case distinct =>
        rw [ids]
        exact keepFirst_nodup tmdbOf
      case ordered =>
        rw [ids]
        exact keepFirst_ordered tmdbOf
      case complete =>
        intro film listed nonzero
        rw [ids, mem_map_keepFirst_iff]
        exact ⟨List.mem_map_of_mem listed, by simpa using nonzero⟩
      case listed =>
        intro m member
        obtain ⟨film, listed, -, -, id⟩ := facts m member
        rw [id]
        exact List.mem_map_of_mem listed
      case candidates =>
        intro m member
        obtain ⟨film, listed, nonzero, -, id⟩ := facts m member
        rw [id]
        exact mem_allTraktMovies nonzero (List.mem_map_of_mem listed)
      case watched =>
        intro m member
        obtain ⟨film, -, nonzero, same, id⟩ := facts m member
        rw [id]
        exact (crosswatchMovie_eq_some nonzero same).2.1
      case oneEntry =>
        intro m member
        obtain ⟨film, -, nonzero, same, id⟩ := facts m member
        rw [id]
        exact (crosswatchMovie_eq_some nonzero same).2.2

/-- One film on the watchlist, seen twice since, and one without an id. -/
def seenTwice : Values where
  tmdbApiKey := "key"
  loading := false
  watchlistMovies := ⟨1, [⟨"", ⟨"Metropolis", 1927, ⟨1, "metropolis", 19, ""⟩⟩⟩,
    ⟨"", ⟨"Lost", 1926, ⟨2, "lost", 0, ""⟩⟩⟩]⟩
  watchedMovies := ⟨1, [⟨1, "2024-01-01", ⟨"M", 1931, ⟨3, "m", 832, ""⟩⟩⟩,
    ⟨2, "2024-05-01", ⟨"Metropolis", 1927, ⟨1, "metropolis", 19, ""⟩⟩⟩]⟩
  tmdbCache := ⟨0, []⟩

/-- Its watchlist shows the film, as the watched entry has it; the other view shows both. -/
theorem movies_join_seen_twice :
    ∃ shown, seenTwice.movies .watchlist = some [shown] ∧ shown.tmdbId = 19 ∧
      shown.watched = true ∧ shown.watchedAt = some "2024-05-01" ∧ shown.plays = 2 ∧
      Join seenTwice (seenTwice.watchlistMovies.value.map fun e => e.movie) [shown] ∧
      ∃ both, seenTwice.movies .watched = some both ∧ both.map (·.tmdbId) = [832, 19] ∧
        Join seenTwice (seenTwice.watchedMovies.value.map fun e => e.movie) both :=
  ⟨_, rfl, rfl, rfl, rfl, rfl, movies_join seenTwice .watchlist, _, rfl, rfl,
    movies_join seenTwice .watched⟩

end Views

end VpsDashboard.Frontend
