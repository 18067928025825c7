/-
# VpsDashboard.Server.Static — the pages of the frontend

`staticHandler` answers whatever no other route does, from the files that are embedded
under `dist`: a path that names none of them is the frontend's own and gets the index
page.  What it does with the others is up to `http.FileServer`, which redirects
directories and index pages, and lists a directory without one.

`static_page` — with an index page and plain directory names, a browser gets, after at
most one redirect, the file its path names, or else the index page: no path is answered
by an error or by the list of a directory.  The index page of a directory below cannot be
reached: its path gets the one above.
-/
import VpsDashboard.Foundation.Paths

namespace VpsDashboard.Server

open Foundation

set_option autoImplicit false

/-! ## The embedded files -/

/-- The files of `web.Dist` below `dist`, each with the elements of its name.  A directory
is there when a file lies in it. -/
structure Dist where
  files : List (List (List Char) × List UInt8)

inductive DistEntry where
  | file (content : List UInt8)
  | directory

inductive OpenError where
  | invalid
  | notExist

namespace Dist

variable (d : Dist)

def lookup (elements : List (List Char)) : Except OpenError DistEntry :=
  match d.files.find? fun f => f.1 = elements with
  | some f => .ok (.file f.2)
  | none =>
      if d.files.any fun f => elements.isPrefixOf f.1 then .ok .directory else .error .notExist

/-- `Open` of the file system `dist`. -/
def open' (name : List Char) : Except OpenError DistEntry :=
  if !validPath name then .error .invalid
  else if name = dot then .ok .directory
  else d.lookup (name.splitOn '/')

/-- `Open` of `http.FS(dist)`. -/
def httpOpen (name : List Char) : Except OpenError DistEntry :=
  d.open' (if name = ['/'] then dot else if ['/'].isPrefixOf name then name.tail else name)

end Dist

/-! ## The file server -/

/-- `content` is what `http.ServeContent` answers with the file, whole or in part. -/
inductive StaticAnswer where
  | content (file : List UInt8)
  | moved (location : List Char)
  | listing
  | failed (text : String) (status : Nat)
deriving DecidableEq

def indexPage : List Char := "/index.html".toList

/-- A redirect with status 301 that keeps the query. -/
def localRedirect (newPath query : List Char) : StaticAnswer :=
  .moved (newPath ++ if query = [] then [] else '?' :: query)

def toHTTPError : OpenError → StaticAnswer
  | .notExist => .failed "404 page not found" 404
  | .invalid => .failed "500 Internal Server Error" 500

/-- `serveFile` of `net/http`, with redirects; `path` is the one of the URL. -/
def serveFile (d : Dist) (path query name : List Char) : StaticAnswer :=
  if indexPage.isSuffixOf path then localRedirect "./".toList query
  else
    let slash := path.getLast? == some '/'
    match d.httpOpen name with
    | .error e => toHTTPError e
    | .ok (.file content) =>
        if slash then
          if basePath path = ['/'] ∨ basePath path = dot then
            .failed "http: attempting to traverse a non-directory" 500
          else localRedirect ("../".toList ++ basePath path) query
        else .content content
    | .ok .directory =>
        if !slash then localRedirect (basePath path ++ ['/']) query
        else
          -- The index page of the directory, if it has one.
          let directory := if name.getLast? = some '/' then name.dropLast else name
          match d.httpOpen (directory ++ indexPage) with
          | .ok (.file content) => .content content
          | _ => .listing

/-- `http.FileServer`. -/
def fileServer (d : Dist) (path query : List Char) : StaticAnswer :=
  let path := if ['/'].isPrefixOf path then path else '/' :: path
  serveFile d path query (cleanRooted path)

def trimSlash (path : List Char) : List Char :=
  if ['/'].isPrefixOf path then path.tail else path

def staticHandler (d : Dist) (path query : List Char) : StaticAnswer :=
  let name := trimSlash path
  if name = [] ∨ name = "index.html".toList then fileServer d ['/'] query
  else
    match d.open' name with
    | .error _ => fileServer d ['/'] query
    | .ok _ => fileServer d ('/' :: name) query

/-! ## What a browser gets -/

/-- The path of a reference without a scheme. -/
def referencePath (reference : List Char) : List Char :=
  reference.takeWhile fun c => c != '?' && c != '#'

/-- The answer after at most one redirect. -/
def Dist.browse (d : Dist) (path query : List Char) : StaticAnswer :=
  match staticHandler d path query with
  | .moved location => staticHandler d (resolveReference path (referencePath location)) query
  | answer => answer

/-- The file that a path stands for: the one it names, unless that is the index page of a
directory below, and else the index page. -/
def Dist.page (d : Dist) (index : List UInt8) (path : List Char) : List UInt8 :=
  if indexPage.isSuffixOf (trimSlash path) then index
  else
    match d.open' (trimSlash path) with
    | .ok (.file content) => content
    | _ => index

/-- The names of directories have no character that means something in a reference. -/
def Dist.PlainDirectories (d : Dist) : Prop :=
  ∀ f ∈ d.files, ∀ element ∈ f.1.dropLast, ∀ c ∈ element, c ∉ ['?', '#', '%', ':']

instance (d : Dist) : Decidable d.PlainDirectories :=
  decidable_of_iff ((d.files.all fun f => f.1.dropLast.all fun element =>
      element.all fun c => !(['?', '#', '%', ':'].contains c)) = true)
    (by simp [Dist.PlainDirectories])

section Answers

variable {d : Dist} {index : List UInt8} {path query : List Char}

theorem Dist.lookup_directory {elements : List (List Char)}
    (found : d.lookup elements = .ok .directory) :
    ∃ f ∈ d.files, ∀ element ∈ elements, element ∈ f.1.dropLast := by
  rw [Dist.lookup] at found
  split at found
  · cases found
  · rename_i none
    split at found
    · rename_i inside
      obtain ⟨f, member, isPrefix⟩ := List.any_eq_true.mp inside
      obtain ⟨more, whole⟩ := List.isPrefixOf_iff_prefix.mp isPrefix
      have other : more ≠ [] := by
        rintro rfl
        have absent := List.find?_eq_none.mp none f member
        simp [← whole] at absent
      refine ⟨f, member, fun element inElements => ?_⟩
      rw [← whole, List.dropLast_append_of_ne_nil other]
      exact List.mem_append_left _ inElements
    · cases found

/-- A name that can be opened is the root or consists of proper elements. -/
theorem Dist.open_ok {name : List Char} {entry : DistEntry} (opened : d.open' name = .ok entry) :
    (name = dot ∧ entry = .directory) ∨
      ((name.splitOn '/').all properSegment = true ∧ name ≠ dot ∧
        d.lookup (name.splitOn '/') = .ok entry) := by
  rw [Dist.open'] at opened
  cases valid : validPath name with
  | false => simp [valid] at opened
  | true =>
      rw [valid] at opened
      by_cases root : name = dot
      · left
        simp only [Bool.not_true, Bool.false_eq_true, if_false, if_pos root] at opened
        exact ⟨root, (Except.ok.inj opened).symm⟩
      · right
        simp only [Bool.not_true, Bool.false_eq_true, if_false, if_neg root] at opened
        rw [validPath, decide_eq_false root, Bool.false_or] at valid
        exact ⟨valid, root, opened⟩

theorem fileServer_root (page : d.open' "index.html".toList = .ok (.file index)) :
    fileServer d ['/'] query = .content index := by
  have clean : cleanRooted ['/'] = ['/'] := by decide
  have root : d.httpOpen ['/'] = .ok .directory := rfl
  have below : d.httpOpen (['/'].dropLast ++ indexPage) = .ok (.file index) := page
  show serveFile d ['/'] query (cleanRooted ['/']) = _
  rw [clean, serveFile, if_neg (by decide), root]
  simp only [List.getLast?_singleton, beq_self_eq_true, Bool.not_true, Bool.false_eq_true, if_false,
    if_true, below]

/-- Whatever ends in a slash gets the index page. -/
theorem staticHandler_directory (page : d.open' "index.html".toList = .ok (.file index))
    (directory : path.getLast? = some '/') : staticHandler d path query = .content index := by
  obtain ⟨front, rfl⟩ := List.getLast?_eq_some_iff.mp directory
  rw [staticHandler]
  split
  · exact fileServer_root page
  · rename_i other
    have refused : d.open' (trimSlash (front ++ ['/'])) = .error .invalid := by
      cases front with
      | nil => exact absurd (.inl rfl) other
      | cons c front =>
          have invalid : ∃ name, trimSlash (c :: front ++ ['/']) = name ++ ['/'] := by
            rw [trimSlash]
            split
            · exact ⟨front, rfl⟩
            · exact ⟨c :: front, rfl⟩
          obtain ⟨name, same⟩ := invalid
          rw [same, Dist.open', not_validPath_slash]
          rfl
    rw [refused]
    exact fileServer_root page

/-- The browser follows a redirect to a directory to the index page. -/
theorem moved_directory (page : d.open' "index.html".toList = .ok (.file index))
    {newPath : List Char} (directory : newPath.getLast? = some '/')
    (plain : ∀ c ∈ newPath, (c != '?' && c != '#') = true)
    (moved : staticHandler d path query = localRedirect newPath query) :
    d.browse path query = .content index := by
  have target : referencePath (newPath ++ if query = [] then [] else '?' :: query) = newPath := by
    rw [referencePath, List.takeWhile_append_of_pos plain]
    split <;> simp
  rw [Dist.browse, moved, localRedirect]
  dsimp only
  rw [target]
  exact staticHandler_directory page (resolveReference_directory path directory)

/-- The file server opens what the handler has opened. -/
theorem Dist.httpOpen_clean {name : List Char} {entry : DistEntry}
    (opened : d.open' name = .ok entry) : d.httpOpen (cleanRooted ('/' :: name)) = .ok entry := by
  rcases Dist.open_ok opened with ⟨rfl, rfl⟩ | ⟨proper, -, -⟩
  · have clean : cleanRooted ('/' :: dot) = ['/'] := by decide
    rw [clean]
    rfl
  · have filled : '/' :: name ≠ ['/'] := by
      rintro ⟨⟩
      revert proper
      decide
    rw [cleanRooted_slash proper, Dist.httpOpen, if_neg filled]
    exact opened

theorem Dist.open_not_slash {name : List Char} {entry : DistEntry}
    (opened : d.open' name = .ok entry) : (('/' :: name).getLast? == some '/') = false := by
  rw [beq_eq_false_iff_ne]
  intro slash
  obtain ⟨front, whole⟩ := List.getLast?_eq_some_iff.mp slash
  cases front with
  | nil =>
      obtain rfl : name = [] := (List.cons.inj whole).2
      cases opened
  | cons c front =>
      obtain rfl : name = front ++ ['/'] := (List.cons.inj whole).2
      rw [Dist.open', not_validPath_slash] at opened
      cases opened

/-- The last element of a directory has no special character. -/
theorem Dist.PlainDirectories.base (plain : d.PlainDirectories) {name : List Char}
    (opened : d.open' name = .ok .directory) :
    ∀ c ∈ basePath ('/' :: name), c ∉ ['?', '#', '%', ':'] := by
  rcases Dist.open_ok opened with ⟨rfl, -⟩ | ⟨proper, -, found⟩
  · have same : basePath ('/' :: dot) = dot := by decide
    rw [same]
    simp [dot]
  · obtain ⟨last, member, same⟩ := basePath_slash proper
    obtain ⟨f, file, inside⟩ := Dist.lookup_directory found
    rw [same]
    exact plain f file last (inside last member)

/-- What the file server makes of a name that the handler has opened. -/
theorem serveFile_opened {name : List Char} {entry : DistEntry}
    (opened : d.open' name = .ok entry) (other : name ≠ "index.html".toList) :
    serveFile d ('/' :: name) query (cleanRooted ('/' :: name)) =
      if indexPage.isSuffixOf name then localRedirect "./".toList query
      else
        match entry with
        | .file content => .content content
        | .directory => localRedirect (basePath ('/' :: name) ++ ['/']) query := by
  have suffix : indexPage.isSuffixOf ('/' :: name) = indexPage.isSuffixOf name := by
    rw [Bool.eq_iff_iff, List.isSuffixOf_iff_suffix, List.isSuffixOf_iff_suffix,
      List.suffix_cons_iff]
    refine or_iff_right fun same => other ?_
    exact (List.cons.inj same).2.symm
  rw [serveFile, suffix, Dist.httpOpen_clean opened, Dist.open_not_slash opened]
  split
  · rfl
  · cases entry <;> rfl

/-- **What a browser gets.**  After at most one redirect every path is answered by the file
that it names, or by the index page. -/
theorem static_page (page : d.open' "index.html".toList = .ok (.file index))
    (plain : d.PlainDirectories) (path query : List Char) :
    d.browse path query = .content (d.page index path) := by
  have direct : ∀ {answer}, staticHandler d path query = .content answer →
      d.browse path query = .content answer := by
    intro answer answered
    rw [Dist.browse, answered]
  by_cases root : trimSlash path = [] ∨ trimSlash path = "index.html".toList
  · have answered : staticHandler d path query = .content index := by
      rw [staticHandler, if_pos root]
      exact fileServer_root page
    have same : d.page index path = index := by
      rw [Dist.page]
      rcases root with blank | named
      · rw [blank]
        rfl
      · rw [named, page, ite_self]
    rw [direct answered, same]
  · obtain ⟨-, other⟩ := not_or.mp root
    cases opened : d.open' (trimSlash path) with
    | error e =>
        have answered : staticHandler d path query = .content index := by
          rw [staticHandler, if_neg root, opened]
          exact fileServer_root page
        rw [direct answered, Dist.page, opened, ite_self]
    | ok entry =>
        have served : staticHandler d path query =
            serveFile d ('/' :: trimSlash path) query (cleanRooted ('/' :: trimSlash path)) := by
          rw [staticHandler, if_neg root, opened]
          rfl
        rw [serveFile_opened opened other] at served
        rw [Dist.page]
        by_cases below : indexPage.isSuffixOf (trimSlash path) = true
        · rw [if_pos below] at served ⊢
          exact moved_directory page (by decide) (List.all_eq_true.mp (by decide)) served
        · rw [if_neg below] at served ⊢
          rw [opened]
          cases entry with
          | file content => exact direct served
          | directory =>
              refine moved_directory page (by simp) (fun c member => ?_) served
              rcases List.mem_append.mp member with inBase | slash
              · have special := plain.base opened c inBase
                simp only [List.mem_cons, List.not_mem_nil, or_false, not_or] at special
                simp [special.1, special.2.1]
              · obtain rfl := List.mem_singleton.mp slash
                decide

end Answers

/-- A frontend with its assets, and a directory with an index page of its own. -/
def builtFrontend : Dist where
  files := [(["index.html".toList], [1]), (["assets".toList, "app.js".toList], [2]),
    (["docs".toList, "index.html".toList], [3])]

/-- The rule for a page of the frontend, a file, a directory, and the page that is out of
reach. -/
theorem static_page_built :
    (["/settings", "/assets/app.js", "/assets", "/docs/index.html"].map fun path =>
        builtFrontend.page [1] path.toList) = [[1], [2], [1], [1]] ∧
      ∀ path query, builtFrontend.browse path query = .content (builtFrontend.page [1] path) :=
  ⟨by decide +kernel, static_page (by rfl) (by decide)⟩

end VpsDashboard.Server
