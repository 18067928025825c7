/-
# VpsDashboard.Trakt.World — the Trakt stores and the actions on them

The state behind the Trakt routes is two locked records and a file for each: the
token `Store` and the `CredentialStore`.  Every method of theirs that holds the
lock from its first statement to its last is one indivisible action here:

* `Store.Get`, `Store.Set` and `Store.Clear`; the last two write the token file
  while they still hold the lock;
* `CredentialStore.Get`, the locked change inside `Update` and inside
  `SetRedirectURI`, and the locked snapshot inside `save`.  The file write of
  `CredentialStore.save` comes after its lock is released and is an action of
  its own.

The other actions read the clock, read random bytes and call Trakt; what they
answer is the outside world's contribution (`Env`).  File operations take effect.
A file is represented by the record its JSON text encodes.
-/
import VpsDashboard.Foundation.Program
import VpsDashboard.Foundation.Go

namespace VpsDashboard.Trakt

open Foundation

set_option autoImplicit false

/-! ## The token store -/

structure Tokens where
  accessToken : String
  refreshToken : String
  expiresAt : Time
  scope : String
  username : String
deriving DecidableEq

/-- The text `json.Marshal` gives for tokens, or none when it fails: a `time.Time`
whose year has more than four digits has no JSON form. -/
def Tokens.marshal (t : Tokens) : Option Tokens :=
  if t.expiresAt.jsonYear then some t else none

/-- `trakt.Store`: the tokens in memory and the file behind them. -/
structure Store where
  tokens : Option Tokens
  file : Option Tokens
deriving DecidableEq

namespace Store

/-- Write the tokens to the file, or remove the file when there are none.  When
the tokens have no JSON form the file stays as it is. -/
def save (s : Store) : Store :=
  match s.tokens with
  | none => { s with file := none }
  | some t =>
      match t.marshal with
      | none => s
      | some data => { s with file := some data }

def get (s : Store) : Option Tokens := s.tokens

def set (s : Store) (t : Tokens) : Store := { s with tokens := some t }.save

def clear (s : Store) : Store := { s with tokens := none }.save

@[simp] theorem get_eq (s : Store) : s.get = s.tokens := rfl

@[simp] theorem clear_eq (s : Store) : s.clear = ⟨none, none⟩ := rfl

@[simp] theorem set_tokens (s : Store) (t : Tokens) : (s.set t).tokens = some t := by
  unfold set save
  cases h : t.marshal <;> simp [h]

end Store

/-! ## The credential store -/

structure Credentials where
  clientID : String
  clientSecret : String
  redirectURI : String
deriving DecidableEq

def Credentials.configured (c : Credentials) : Bool :=
  c.clientID != "" && c.clientSecret != ""

/-- `trakt.CredentialStore`: the credentials in memory, and the file behind them. -/
structure CredentialStore where
  creds : Credentials
  filePath : String
  file : Option Credentials
deriving DecidableEq

namespace CredentialStore

/-- The locked part of `Update`.  A blank secret keeps the stored one. -/
def updateLocked (cs : CredentialStore) (c : Credentials) : CredentialStore :=
  { cs with creds :=
      { clientID := trimSpace c.clientID
        clientSecret :=
          if trimSpace c.clientSecret ≠ "" then trimSpace c.clientSecret
          else cs.creds.clientSecret
        redirectURI := trimSpace c.redirectURI } }

/-- The locked part of `SetRedirectURI`: whether the value changed, and the store after. -/
def setRedirectURILocked (cs : CredentialStore) (uri : String) : Bool × CredentialStore :=
  (decide (cs.creds.redirectURI ≠ uri), { cs with creds := { cs.creds with redirectURI := uri } })

end CredentialStore

/-! ## Requests to Trakt -/

/-- The body of a token request; `omitempty` fields are absent when empty. -/
structure TokenReq where
  code : String
  clientID : String
  clientSecret : String
  redirectURI : String
  grantType : String
  refreshToken : String
deriving DecidableEq

structure TokenResp where
  accessToken : String
  refreshToken : String
  expiresIn : Int
  createdAt : Int
  scope : String
  tokenType : String
deriving DecidableEq

/-- An HTTP answer that arrived: its status, the text of its body, the JSON
document that text is (none when it is not one), and the error that cut the
reading of the body short, if any. -/
structure HttpResponse where
  status : Nat
  text : String
  json : Option Json
  readError : Option String

/-- What `http.Client.Do` returns: an answer, or a transport error. -/
abbrev HttpResult := Except String HttpResponse

/-! ## Actions -/

inductive Act where
  | storeGet
  | storeSet (t : Tokens)
  | storeClear
  | credsGet
  | credsUpdate (c : Credentials)
  | credsSetRedirectURI (uri : String)
  | credsSnapshot
  | credsWriteFile (data : Credentials)
  | now
  | randRead
  | tokenRequest (body : TokenReq)
  | apiGet (url clientID bearer : String)
deriving DecidableEq

abbrev Ans : Act → Type
  | .storeGet => Option Tokens
  | .storeSet _ => Unit
  | .storeClear => Unit
  | .credsGet => Credentials
  | .credsUpdate _ => Unit
  | .credsSetRedirectURI _ => Bool
  | .credsSnapshot => Credentials × String
  | .credsWriteFile _ => Unit
  | .now => Time
  | .randRead => Except String (List UInt8)
  | .tokenRequest _ => HttpResult
  | .apiGet _ _ _ => HttpResult

/-- What the outside world contributes to an action: the reading of the clock, the
outcome of `rand.Read`, the outcome of an HTTP call. -/
structure Env where
  now : Time
  rand : Except String (List UInt8)
  http : HttpResult

/-- The clock at zero, and an HTTP call answered with this status and body. -/
def answering (status : Nat) (body : Option Json) : Env where
  now := 0
  rand := .error "unused"
  http := .ok ⟨status, "", body, none⟩

@[ext] structure World where
  store : Store
  creds : CredentialStore
deriving DecidableEq

@[reducible] def exec (w : World) : (a : Act) → Env → Ans a × World
  | .storeGet, _ => (w.store.get, w)
  | .storeSet t, _ => ((), { w with store := w.store.set t })
  | .storeClear, _ => ((), { w with store := w.store.clear })
  | .credsGet, _ => (w.creds.creds, w)
  | .credsUpdate c, _ => ((), { w with creds := w.creds.updateLocked c })
  | .credsSetRedirectURI uri, _ =>
      ((w.creds.setRedirectURILocked uri).1,
        { w with creds := (w.creds.setRedirectURILocked uri).2 })
  | .credsSnapshot, _ => ((w.creds.creds, w.creds.filePath), w)
  | .credsWriteFile data, _ => ((), { w with creds := { w.creds with file := some data } })
  | .now, env => (env.now, w)
  | .randRead, env => (env.rand, w)
  | .tokenRequest _, env => (env.http, w)
  | .apiGet _ _ _, env => (env.http, w)

/-- The Trakt side of the server as a machine. -/
@[reducible] def machine : Machine Act Ans Env World := ⟨exec⟩

@[simp] theorem machine_exec (w : World) (a : Act) (env : Env) :
    machine.exec w a env = exec w a env := rfl

/-- Only `Store.Clear` empties a store that holds tokens. -/
theorem exec_empties {w : World} {a : Act} {env : Env} {t : Tokens}
    (held : w.store.tokens = some t) (gone : (exec w a env).2.store.tokens = none) :
    a = .storeClear := by
  cases a with
  | storeClear => rfl
  | storeSet new => simp at gone
  | _ => simp [held] at gone

/-- A program over the Trakt actions. -/
abbrev Prog (α : Type) := Program Act Ans α

abbrev perform (a : Act) : Prog (Ans a) := Program.perform a

end VpsDashboard.Trakt
