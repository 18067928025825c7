/-
# VpsDashboard.Trakt.Lists — the watchlist and the watched list

`GetWatchlist` and `GetWatched` of `client.go`: one data request each, and the
decoding of its body.
-/
import VpsDashboard.Trakt.OAuth

namespace VpsDashboard.Trakt

open Foundation

set_option autoImplicit false

structure TraktIDs where
  trakt : Int
  slug : String
  tmdb : Int
  imdb : String
deriving DecidableEq

structure TraktMovie where
  title : String
  year : Int
  ids : TraktIDs
deriving DecidableEq

structure WatchlistMovie where
  listedAt : String
  movie : TraktMovie
deriving DecidableEq

structure WatchedMovie where
  plays : Int
  lastWatchedAt : String
  movie : TraktMovie
deriving DecidableEq

/-! ## Decoding and encoding -/

def TraktIDs.zero : TraktIDs := ⟨0, "", 0, ""⟩
def TraktMovie.zero : TraktMovie := ⟨"", 0, .zero⟩

open Json.Decoder in
def TraktIDs.decoder : Json.Decoder TraktIDs := struct
  [field "trakt" (·.trakt) (fun ids v => { ids with trakt := v }) int,
   field "slug" (·.slug) (fun ids v => { ids with slug := v }) string,
   field "tmdb" (·.tmdb) (fun ids v => { ids with tmdb := v }) int,
   field "imdb" (·.imdb) (fun ids v => { ids with imdb := v }) string]

open Json.Decoder in
def TraktMovie.decoder : Json.Decoder TraktMovie := struct
  [field "title" (·.title) (fun m v => { m with title := v }) string,
   field "year" (·.year) (fun m v => { m with year := v }) int,
   field "ids" (·.ids) (fun m v => { m with ids := v }) TraktIDs.decoder]

open Json.Decoder in
def WatchlistMovie.decoder : Json.Decoder WatchlistMovie := struct
  [field "listed_at" (·.listedAt) (fun m v => { m with listedAt := v }) string,
   field "movie" (·.movie) (fun m v => { m with movie := v }) TraktMovie.decoder]

open Json.Decoder in
def WatchedMovie.decoder : Json.Decoder WatchedMovie := struct
  [field "plays" (·.plays) (fun m v => { m with plays := v }) int,
   field "last_watched_at" (·.lastWatchedAt) (fun m v => { m with lastWatchedAt := v }) string,
   field "movie" (·.movie) (fun m v => { m with movie := v }) TraktMovie.decoder]

def TraktIDs.json (ids : TraktIDs) : Json :=
  .obj [("trakt", .int ids.trakt), ("slug", .str ids.slug), ("tmdb", .int ids.tmdb),
    ("imdb", .str ids.imdb)]

def TraktMovie.json (m : TraktMovie) : Json :=
  .obj [("title", .str m.title), ("year", .int m.year), ("ids", m.ids.json)]

def WatchlistMovie.json (m : WatchlistMovie) : Json :=
  .obj [("listed_at", .str m.listedAt), ("movie", m.movie.json)]

def WatchedMovie.json (m : WatchedMovie) : Json :=
  .obj [("plays", .int m.plays), ("last_watched_at", .str m.lastWatchedAt), ("movie", m.movie.json)]

/-- A nil slice is encoded as `null`. -/
def sliceJson {α : Type} (element : α → Json) : Option (List α) → Json
  | none => .null
  | some values => .arr (values.map element)

/-! ## Requests -/

namespace Client

/-- One data request for a list. -/
def getList {α : Type} (url : String) (zero : α) (element : Json.Decoder α) :
    Prog (Except String (Option (List α))) := do
  match ← get url with
  | .error e => return .error e
  | .ok data => return unmarshal (Json.Decoder.slice zero element) none data

def getWatchlist : Prog (Except String (Option (List WatchlistMovie))) :=
  getList (traktAPI ++ "/users/me/watchlist/movies") ⟨"", .zero⟩ WatchlistMovie.decoder

def getWatched : Prog (Except String (Option (List WatchedMovie))) :=
  getList (traktAPI ++ "/users/me/watched/movies") ⟨0, "", .zero⟩ WatchedMovie.decoder

end Client

end VpsDashboard.Trakt
