/-
# VpsDashboard.Trakt.OAuth — the token life cycle, function by function

The functions of `store.go`, `credentials.go`, `oauth.go` and `client.go` as
programs over the actions of `VpsDashboard.Trakt.World`, statement by statement:
each call that takes a lock, reads the clock or goes over the network is one
action, in the order the source makes them.  Nothing here says whether a program
runs alone or among others.

`expiresIn` and `createdAt` come from the token endpoint unchecked, so the expiry
is computed in wrapping and saturating arithmetic (`Time.unixPlusSeconds`).
-/
import VpsDashboard.Trakt.World

namespace VpsDashboard.Trakt

open Foundation

set_option autoImplicit false

/-! ## Store: the checks of a session -/

namespace Store

def isAuthenticated : Prog Bool := do
  match ← perform .storeGet with
  | none => return false
  | some t =>
      let now ← perform .now
      if now.after t.expiresAt then return false
      return true

def needsRefresh : Prog Bool := do
  match ← perform .storeGet with
  | none => return false
  | some t =>
      let now ← perform .now
      return Time.after (now + 5 * Time.minute) t.expiresAt

def getAccessToken : Prog (Except String String) := do
  match ← perform .storeGet with
  | none => return .error "not authenticated"
  | some t =>
      let now ← perform .now
      if now.after t.expiresAt then
        return .error "token expired, re-authentication required"
      return .ok t.accessToken

end Store

/-! ## CredentialStore: changes and their file -/

namespace CredentialStore

def save : Prog Unit := do
  let (c, path) ← perform .credsSnapshot
  if path = "" then return ()
  perform (.credsWriteFile c)

def update (c : Credentials) : Prog Unit := do
  perform (.credsUpdate c)
  save

def setRedirectURI (uri : String) : Prog Unit := do
  if uri = "" then return ()
  let changed ← perform (.credsSetRedirectURI uri)
  if changed then save

end CredentialStore

/-! ## The token endpoint -/

def TokenResp.zero : TokenResp := ⟨"", "", 0, 0, "", ""⟩

open Json Json.Decoder in
def TokenResp.fields : List (Json.Field TokenResp) :=
  [field "access_token" (·.accessToken) (fun r v => { r with accessToken := v }) string,
   field "refresh_token" (·.refreshToken) (fun r v => { r with refreshToken := v }) string,
   field "expires_in" (·.expiresIn) (fun r v => { r with expiresIn := v }) int,
   field "created_at" (·.createdAt) (fun r v => { r with createdAt := v }) int,
   field "scope" (·.scope) (fun r v => { r with scope := v }) string,
   field "token_type" (·.tokenType) (fun r v => { r with tokenType := v }) string]

/-- `json.Unmarshal` of a whole body. -/
def unmarshal {α : Type} (decoder : Json.Decoder α) (zero : α) : Option Json → Except String α
  | none => .error "invalid character in JSON text"
  | some json => decoder zero json

def TokenResp.unmarshal : Option Json → Except String TokenResp :=
  Trakt.unmarshal (Json.Decoder.struct TokenResp.fields) TokenResp.zero

/-- What `doTokenRequest` makes of the outcome of the call. -/
def readTokenAnswer : HttpResult → Except String TokenResp
  | .error e => .error ("token request failed: " ++ e)
  | .ok resp =>
      if resp.status ≠ 200 then
        .error ("token request returned status " ++ toString resp.status ++ ": " ++
          trimSpace resp.text)
      else
        match TokenResp.unmarshal resp.json with
        | .error e => .error ("failed to parse token response: " ++ e)
        | .ok tokens => .ok tokens

def traktAPI : String := "https://api.trakt.tv"
def traktAuthURL : String := "https://trakt.tv/oauth/authorize"

open Json Json.Decoder in
/-- `userSettingsResp`: the username inside the `user` object. -/
def userSettingsFields : List (Json.Field String) :=
  [field "user" id (fun _ v => v)
    (struct [field "username" id (fun _ v => v) string])]

def userSettings : Option Json → Except String String :=
  unmarshal (Json.Decoder.struct userSettingsFields) ""

/-- `GenerateState`, from what `rand.Read` puts into the 32 bytes. -/
def generateState : Prog (Except String String) := do
  match ← perform .randRead with
  | .error e => return .error e
  | .ok b => return .ok (rawURLEncode b)

namespace OAuthHandler

def isConfigured : Prog Bool := do
  return (← perform .credsGet).configured

def buildAuthURL (state redirectURI : String) : Prog String := do
  let creds ← perform .credsGet
  return traktAuthURL ++ "?response_type=code&client_id=" ++ queryEscape creds.clientID ++
    "&redirect_uri=" ++ queryEscape redirectURI ++ "&state=" ++ queryEscape state

def doTokenRequest (body : TokenReq) : Prog (Except String TokenResp) := do
  return readTokenAnswer (← perform (.tokenRequest body))

/-- The status of the answer is not looked at. -/
def fetchUsername (accessToken : String) : Prog (Except String String) := do
  let creds ← perform .credsGet
  match ← perform (.apiGet (traktAPI ++ "/users/settings") creds.clientID accessToken) with
  | .error e => return .error e
  | .ok resp => return userSettings resp.json

/-- The tokens that an answer of the token endpoint stands for. -/
def storedTokens (tokens : TokenResp) (username : String) : Tokens where
  accessToken := tokens.accessToken
  refreshToken := tokens.refreshToken
  expiresAt := Time.unixPlusSeconds tokens.createdAt tokens.expiresIn
  scope := tokens.scope
  username := username

def exchangeBody (creds : Credentials) (code redirectURI : String) : TokenReq where
  code := code
  clientID := creds.clientID
  clientSecret := creds.clientSecret
  redirectURI := redirectURI
  grantType := "authorization_code"
  refreshToken := ""

def exchangeCode (code redirectURI : String) : Prog (Except String Unit) := do
  let creds ← perform .credsGet
  match ← doTokenRequest (exchangeBody creds code redirectURI) with
  | .error e => return .error e
  | .ok tokens =>
      CredentialStore.setRedirectURI redirectURI
      let username ← fetchUsername tokens.accessToken
      perform (.storeSet (storedTokens tokens (username.toOption.getD "")))
      return .ok ()

def refreshBody (creds : Credentials) (refreshToken : String) : TokenReq where
  code := ""
  clientID := creds.clientID
  clientSecret := creds.clientSecret
  redirectURI := creds.redirectURI
  grantType := "refresh_token"
  refreshToken := refreshToken

def refreshTokens : Prog (Except String Unit) := do
  match ← perform .storeGet with
  | none => return .error "no refresh token available"
  | some t =>
      if t.refreshToken = "" then return .error "no refresh token available"
      let creds ← perform .credsGet
      match ← doTokenRequest (refreshBody creds t.refreshToken) with
      | .error e => return .error e
      | .ok tokens =>
          perform (.storeSet (storedTokens tokens t.username))
          return .ok ()

def refreshIfNeeded : Prog (Except String Unit) := do
  if !(← Store.needsRefresh) then return .ok ()
  match ← refreshTokens with
  | .error _ =>
      perform .storeClear
      return .error "re-authentication required"
  | .ok () => return .ok ()

def logout : Prog Unit := perform .storeClear

end OAuthHandler

/-! ## Client: the data requests -/

namespace Client

def do' (url : String) : Prog HttpResult := do
  match ← OAuthHandler.refreshIfNeeded with
  | .error e => return .error e
  | .ok () =>
      match ← Store.getAccessToken with
      | .error e => return .error e
      | .ok token =>
          let creds ← perform .credsGet
          perform (.apiGet url creds.clientID token)

/-- The body of a successful answer, as the JSON document it is. -/
def get (url : String) : Prog (Except String (Option Json)) := do
  match ← do' url with
  | .error e => return .error e
  | .ok resp =>
      if resp.status ≠ 200 then
        if resp.status = 401 then
          perform .storeClear
          return .error "re-authentication required"
        return .error ("trakt API returned status " ++ toString resp.status)
      match resp.readError with
      | some e => return .error e
      | none => return .ok resp.json

end Client

end VpsDashboard.Trakt
