/-
# VpsDashboard.Trakt.Restart — what the stores hold when the process starts

`NewStore` and `NewCredentialStore` read their files.  A credential of the file takes
precedence over the one of the environment unless it is blank.  Reading a file that is
there succeeds; a file is represented by the record its text encodes.
-/
import VpsDashboard.Trakt.OAuth

namespace VpsDashboard.Trakt

open Foundation

set_option autoImplicit false

/-- `NewStore`: the tokens of the file. -/
def newStore (file : Option Tokens) : Store := ⟨file, file⟩

/-- The fields of `c` that are not blank, in place of those of `creds`. -/
def Credentials.override (creds c : Credentials) : Credentials where
  clientID := if c.clientID ≠ "" then c.clientID else creds.clientID
  clientSecret := if c.clientSecret ≠ "" then c.clientSecret else creds.clientSecret
  redirectURI := if c.redirectURI ≠ "" then c.redirectURI else creds.redirectURI

namespace CredentialStore

/-- `os.ReadFile`, which fails for an empty path. -/
def readFile (filePath : String) (file : Option Credentials) : Option Credentials :=
  if filePath = "" then none else file

def load (cs : CredentialStore) : CredentialStore :=
  match readFile cs.filePath cs.file with
  | none => cs
  | some c => { cs with creds := cs.creds.override c }

end CredentialStore

/-- `NewCredentialStore`, with what the file holds. -/
def newCredentialStore (filePath : String) (file : Option Credentials) (env : Credentials) :
    CredentialStore :=
  CredentialStore.load ⟨env, filePath, file⟩

/-- The stores of a process that starts with these files and this environment. -/
def World.boot (tokens : Option Tokens) (filePath : String) (file : Option Credentials)
    (env : Credentials) : World :=
  ⟨newStore tokens, newCredentialStore filePath file env⟩

/-- The process ends, wherever it is, and starts again. -/
def World.restart (w : World) (env : Credentials) : World :=
  .boot w.store.file w.creds.filePath w.creds.file env

/-! ## Fields -/

inductive CredentialField where
  | clientID
  | clientSecret
  | redirectURI
deriving DecidableEq

def Credentials.field (c : Credentials) : CredentialField → String
  | .clientID => c.clientID
  | .clientSecret => c.clientSecret
  | .redirectURI => c.redirectURI

theorem override_field (creds c : Credentials) (f : CredentialField) :
    (creds.override c).field f = if c.field f ≠ "" then c.field f else creds.field f := by
  cases f <;> rfl

@[simp] theorem newCredentialStore_filePath (filePath : String) (file : Option Credentials)
    (env : Credentials) : (newCredentialStore filePath file env).filePath = filePath := by
  rw [newCredentialStore, CredentialStore.load]
  split <;> rfl

@[simp] theorem newCredentialStore_file (filePath : String) (file : Option Credentials)
    (env : Credentials) : (newCredentialStore filePath file env).file = file := by
  rw [newCredentialStore, CredentialStore.load]
  split <;> rfl

/-- A field of the file that is read, blank when there is none. -/
def fileField (filePath : String) (file : Option Credentials) (f : CredentialField) : String :=
  match CredentialStore.readFile filePath file with
  | none => ""
  | some c => c.field f

theorem newCredentialStore_field (filePath : String) (file : Option Credentials)
    (env : Credentials) (f : CredentialField) :
    (newCredentialStore filePath file env).creds.field f =
      if fileField filePath file f ≠ "" then fileField filePath file f else env.field f := by
  rw [newCredentialStore, CredentialStore.load, fileField]
  dsimp only
  cases CredentialStore.readFile filePath file with
  | none => simp
  | some c => exact override_field env c f

end VpsDashboard.Trakt
