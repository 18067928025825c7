/-
# VpsDashboard.Trakt.Actions — what each function does, once for all logics

One lemma for each function of `VpsDashboard.Trakt.OAuth`, from which every account of a run
takes what it needs:

* where only the kind of the actions matters, `Program.Performs` with the smallest kind there
  is (`Act.looks`, `Act.refreshes`, `Act.saves`, `Act.exchanges`, `Act.fetches`);
* where it matters what was read before, a rule over an arbitrary logic: `getAccessToken_wp`,
  `refreshTokens_wp` and `exchangeCode_wp` say which permissions the function needs, after
  which answers, and `DataLogic` what a logic has to know for a data request.
-/
import VpsDashboard.Trakt.Lists

namespace VpsDashboard.Trakt

open Foundation

set_option autoImplicit false

/-! ## Kinds of actions -/

def loginGrant : String := "authorization_code"
def refreshGrant : String := "refresh_token"

/-- An action that involves neither the token store nor the token endpoint. -/
def Act.aside : Act → Prop
  | .storeGet | .storeSet _ | .storeClear | .tokenRequest _ => False
  | _ => True

/-- To look at the session. -/
def Act.looks : Act → Prop
  | .storeGet | .now => True
  | _ => False

/-- To look at the session and to refresh it. -/
def Act.refreshes : Act → Prop
  | .storeGet | .now | .credsGet | .storeSet _ => True
  | .tokenRequest body => body.grantType = refreshGrant
  | _ => False

/-- To fetch this URL in a session, which ends when Trakt refuses it. -/
def Act.fetches (url : String) : Act → Prop
  | .storeClear => True
  | .apiGet url' _ _ => url' = url
  | a => Act.refreshes a

/-- To write the credentials file. -/
def Act.saves : Act → Prop
  | .credsGet | .credsSnapshot | .credsWriteFile _ => True
  | _ => False

/-- To exchange this code. -/
def Act.exchanges (code : String) : Act → Prop
  | .storeSet _ | .credsSetRedirectURI _ => True
  | .tokenRequest body => body.grantType = loginGrant ∧ body.code = code
  | .apiGet url _ _ => url = traktAPI ++ "/users/settings"
  | a => Act.saves a

section Kinds

variable {a : Act}

theorem refreshes_of_looks (looks : a.looks) : a.refreshes := by
  cases a <;> trivial

theorem fetches_of_refreshes {url : String} (refreshes : a.refreshes) : a.fetches url := by
  cases a with
  | storeClear => trivial
  | apiGet => cases refreshes
  | _ => exact refreshes

theorem exchanges_of_saves {code : String} (saves : a.saves) : a.exchanges code := by
  cases a <;> trivial

theorem aside_of_saves (saves : a.saves) : a.aside := by
  cases a <;> trivial

end Kinds

/-! ## The credentials -/

theorem CredentialStore.save_saves : CredentialStore.save.Performs Act.saves := by
  unfold CredentialStore.save
  apply (Program.performs_perform trivial).bind
  intro read
  exact (Program.performs_ret _).ite (Program.performs_perform trivial)

theorem CredentialStore.update_performs {may : Act → Prop} (c : Credentials)
    (updates : may (.credsUpdate c)) (saves : ∀ a : Act, a.saves → may a) :
    (CredentialStore.update c).Performs may := by
  unfold CredentialStore.update
  exact (Program.performs_perform updates).bind fun _ => save_saves.mono saves

theorem CredentialStore.setRedirectURI_performs {may : Act → Prop} (uri : String)
    (sets : may (.credsSetRedirectURI uri)) (saves : ∀ a : Act, a.saves → may a) :
    (CredentialStore.setRedirectURI uri).Performs may := by
  unfold CredentialStore.setRedirectURI
  apply (Program.performs_ret _).ite
  apply (Program.performs_perform sets).bind
  intro changed
  exact (save_saves.mono saves).ite (Program.performs_ret _)

theorem OAuthHandler.fetchUsername_performs {may : Act → Prop} (accessToken : String)
    (reads : may .credsGet)
    (settings : ∀ clientID, may (.apiGet (traktAPI ++ "/users/settings") clientID accessToken)) :
    (OAuthHandler.fetchUsername accessToken).Performs may := by
  unfold OAuthHandler.fetchUsername
  apply (Program.performs_perform reads).bind
  intro creds
  apply (Program.performs_perform (settings creds.clientID)).bind
  intro result
  cases result <;> exact Program.performs_ret _

/-! ## The session -/

theorem Store.isAuthenticated_looks : Store.isAuthenticated.Performs Act.looks := by
  unfold Store.isAuthenticated
  apply (Program.performs_perform trivial).bind
  intro t
  cases t with
  | none => exact Program.performs_ret _
  | some t =>
      apply (Program.performs_perform trivial).bind
      intro now
      exact (Program.performs_ret _).ite (Program.performs_ret _)

theorem Store.needsRefresh_looks : Store.needsRefresh.Performs Act.looks := by
  unfold Store.needsRefresh
  apply (Program.performs_perform trivial).bind
  intro t
  cases t with
  | none => exact Program.performs_ret _
  | some t => exact (Program.performs_perform trivial).bind fun now => Program.performs_ret _

section Rules

variable {κ : Type} {L : Logic Act Ans κ} {k : κ}

/-- The access token that is handed out was read, and is unexpired by the clock that was read
right after. -/
theorem Store.getAccessToken_wp {Q : Except String String → κ → Prop}
    (looks : ∀ k (a : Act), a.looks → L.issue k a) (failed : ∀ e k, Q (.error e) k)
    (found : ∀ t k₁ now k₂, L.learn k .storeGet (some t) k₁ → L.learn k₁ .now now k₂ →
      ¬ Time.after now t.expiresAt → Q (.ok t.accessToken) k₂) :
    Store.getAccessToken.wp L Q k := by
  unfold Store.getAccessToken
  refine Program.wp_perform L (looks _ _ trivial) fun read k₁ reads => ?_
  cases read with
  | none => exact failed _ _
  | some t =>
      refine Program.wp_perform L (looks _ _ trivial) fun now k₂ clock => ?_
      rw [Program.wp_ite]
      split
      · exact failed _ _
      · rename_i fresh
        exact found t k₁ now k₂ reads clock fresh

/-- A refresh stores what it is granted for the refresh token that it has read; it fails when
there is none, and when it is refused. -/
theorem OAuthHandler.refreshTokens_wp {Q : Except String Unit → κ → Prop}
    (reads : L.issue k .storeGet)
    (useless : ∀ read e k₁, L.learn k .storeGet read k₁ →
      (∀ t, read = some t → t.refreshToken = "") → Q (.error e) k₁)
    (creds : ∀ t k₁, L.learn k .storeGet (some t) k₁ → L.issue k₁ .credsGet)
    (request : ∀ t k₁ c k₂, L.learn k .storeGet (some t) k₁ → t.refreshToken ≠ "" →
      L.learn k₁ .credsGet c k₂ → L.issue k₂ (.tokenRequest (refreshBody c t.refreshToken)) ∧
        ∀ answer k₃, L.learn k₂ (.tokenRequest (refreshBody c t.refreshToken)) answer k₃ →
          match readTokenAnswer answer with
          | .error e => Q (.error e) k₃
          | .ok tokens => L.issue k₃ (.storeSet (storedTokens tokens t.username)) ∧
              ∀ k₄, L.learn k₃ (.storeSet (storedTokens tokens t.username)) () k₄ → Q (.ok ()) k₄) :
    OAuthHandler.refreshTokens.wp L Q k := by
  unfold OAuthHandler.refreshTokens OAuthHandler.doTokenRequest
  refine Program.wp_perform L reads fun read k₁ found => ?_
  cases read with
  | none => exact useless none _ k₁ found nofun
  | some t =>
      rw [Program.wp_ite]
      split
      · rename_i blank
        exact useless (some t) _ k₁ found (by rintro _ ⟨⟩; exact blank)
      · rename_i filled
        refine Program.wp_perform L (creds t k₁ found) fun c k₂ given => ?_
        obtain ⟨permitted, answered⟩ := request t k₁ c k₂ found filled given
        refine Program.wp_perform L permitted fun answer k₃ arrived => ?_
        have outcome := answered answer k₃ arrived
        cases read : readTokenAnswer answer with
        | error e =>
            rw [read] at outcome
            exact outcome
        | ok tokens =>
            rw [read] at outcome
            exact ⟨outcome.1, fun _ k₄ stored => outcome.2 k₄ stored⟩

/-- A login asks for tokens with its code and the credentials it has read, stores the redirect
URI, fetches the name with the access token it was granted, and stores the tokens with it. -/
theorem OAuthHandler.exchangeCode_wp {code uri : String} {Q : Except String Unit → κ → Prop}
    (reads : L.issue k .credsGet) (failed : ∀ e k, Q (.error e) k)
    (request : ∀ c k₁, L.learn k .credsGet c k₁ →
      L.issue k₁ (.tokenRequest (exchangeBody c code uri)) ∧
        ∀ answer k₂ tokens, L.learn k₁ (.tokenRequest (exchangeBody c code uri)) answer k₂ →
          readTokenAnswer answer = .ok tokens →
            (CredentialStore.setRedirectURI uri).wp L (fun _ k₃ =>
              (fetchUsername tokens.accessToken).wp L (fun name k₄ =>
                L.issue k₄ (.storeSet (storedTokens tokens (name.toOption.getD ""))) ∧
                  ∀ k₅, Q (.ok ()) k₅) k₃) k₂) :
    (OAuthHandler.exchangeCode code uri).wp L Q k := by
  unfold OAuthHandler.exchangeCode OAuthHandler.doTokenRequest
  refine Program.wp_perform L reads fun c k₁ given => ?_
  obtain ⟨permitted, answered⟩ := request c k₁ given
  refine Program.wp_perform L permitted fun answer k₂ arrived => ?_
  cases read : readTokenAnswer answer with
  | error e => exact failed _ _
  | ok tokens =>
      have recorded := answered answer k₂ tokens arrived read
      refine (Program.wp_bind L _ _ _ _).mpr (Program.wp_mono _ ?_ recorded)
      intro _ k₃ named
      refine (Program.wp_bind L _ _ _ _).mpr (Program.wp_mono _ ?_ named)
      intro name k₄ stores
      exact ⟨stores.1, fun _ k₅ _ => stores.2 k₅⟩

/-- In any logic an exchange needs permission for its token request, with the credentials
it has read, and for storing tokens. -/
theorem OAuthHandler.exchangeCode_permitted {code uri : String}
    {Q : Except String Unit → κ → Prop} (aside : ∀ k (a : Act), a.aside → L.issue k a)
    (requests : ∀ creds k', L.learn k .credsGet creds k' →
      L.issue k' (.tokenRequest (exchangeBody creds code uri)))
    (stores : ∀ k t, L.issue k (.storeSet t)) (all : ∀ r k', Q r k') :
    (OAuthHandler.exchangeCode code uri).wp L Q k := by
  have recorded : (CredentialStore.setRedirectURI uri).Performs Act.aside :=
    CredentialStore.setRedirectURI_performs uri trivial fun _ => aside_of_saves
  have named : ∀ token, (fetchUsername token).Performs Act.aside := fun token =>
    fetchUsername_performs token trivial fun _ => trivial
  refine exchangeCode_wp (aside _ _ trivial) (fun e k' => all _ _) fun creds k₁ read =>
    ⟨requests creds k₁ read, fun answer k₂ tokens _ _ => ?_⟩
  refine Program.wp_of_performs Act.aside recorded aside fun _ k₃ => ?_
  refine Program.wp_of_performs Act.aside (named _) aside fun name k₄ => ?_
  exact ⟨stores _ _, fun k₅ => all _ _⟩

end Rules

theorem OAuthHandler.refreshTokens_refreshes :
    OAuthHandler.refreshTokens.Performs Act.refreshes := by
  apply Program.performs_of_permitted
  intro k
  refine refreshTokens_wp trivial (fun _ _ _ _ _ => trivial) (fun _ _ _ => trivial)
    fun t _ c _ _ _ _ => ⟨rfl, fun answer _ _ => ?_⟩
  cases readTokenAnswer answer with
  | error e => trivial
  | ok tokens => exact ⟨trivial, fun _ _ => trivial⟩

theorem OAuthHandler.exchangeCode_exchanges (code uri : String) :
    (OAuthHandler.exchangeCode code uri).Performs (Act.exchanges code) := by
  apply Program.performs_of_permitted
  intro k
  refine exchangeCode_wp trivial (fun _ _ => trivial) fun c _ _ =>
    ⟨⟨rfl, rfl⟩, fun answer _ tokens _ _ => ?_⟩
  have recorded : (CredentialStore.setRedirectURI uri).Performs (Act.exchanges code) :=
    CredentialStore.setRedirectURI_performs uri trivial fun _ => exchanges_of_saves
  have named : (fetchUsername tokens.accessToken).Performs (Act.exchanges code) :=
    fetchUsername_performs _ trivial fun _ => rfl
  refine Program.wp_of_performs _ recorded (fun _ _ may => may) fun _ _ => ?_
  refine Program.wp_of_performs _ named (fun _ _ may => may) fun _ _ => ?_
  exact ⟨trivial, fun _ => trivial⟩

/-! ## Data requests -/

/-- What a logic has to know for a request of this URL: which of its knowledge shows that the
session cannot be used any more, and that an access token was found in it. -/
structure DataLogic {κ : Type} (L : Logic Act Ans κ) (url : String) (Ended : κ → Prop)
    (Found : String → κ → Prop) : Prop where
  looks : ∀ k (a : Act), a.looks → L.issue k a
  credsGet : ∀ k, L.issue k .credsGet
  refreshes : ∀ k, OAuthHandler.refreshTokens.wp L (fun r k' => ∀ e, r = .error e → Ended k') k
  finds : ∀ k, Store.getAccessToken.wp L (fun r k' => ∀ token, r = .ok token → Found token k') k
  keeps : ∀ {token k c k'}, Found token k → L.learn k .credsGet c k' → Found token k'
  requests : ∀ {token k} (clientID : String), Found token k → L.issue k (.apiGet url clientID token)
  refused : ∀ {token k clientID resp k'}, Found token k →
    L.learn k (.apiGet url clientID token) (.ok resp) k' → resp.status = 401 → Ended k'
  clears : ∀ k, Ended k → L.issue k .storeClear

namespace DataLogic

variable {κ : Type} {L : Logic Act Ans κ} {url : String} {Ended : κ → Prop}
  {Found : String → κ → Prop} (D : DataLogic L url Ended Found)

include D

theorem refreshIfNeeded : OAuthHandler.refreshIfNeeded.Permitted L := by
  unfold OAuthHandler.refreshIfNeeded
  apply (Store.needsRefresh_looks.permitted D.looks).bind
  intro needed
  refine (Program.permitted_ret _).ite fun k => ?_
  rw [Program.wp_bind]
  refine Program.wp_mono _ ?_ (D.refreshes k)
  intro refreshed k' failed
  cases refreshed with
  | error e => exact ⟨D.clears k' (failed e rfl), fun _ _ _ => trivial⟩
  | ok done => trivial

/-- An answer 401 ends the session that the request was made in. -/
theorem do' (k : κ) : (Client.do' url).wp L
    (fun result k' => ∀ resp, result = .ok resp → resp.status = 401 → Ended k') k := by
  unfold Client.do'
  rw [Program.wp_bind]
  refine D.refreshIfNeeded.wp fun session k₁ => ?_
  cases session with
  | error e => exact nofun
  | ok done =>
      dsimp only
      rw [Program.wp_bind]
      refine Program.wp_mono _ ?_ (D.finds k₁)
      intro read k₂ finds
      cases read with
      | error e => exact nofun
      | ok token =>
          have found := finds token rfl
          refine Program.wp_perform L (D.credsGet k₂) fun c k₃ given => ?_
          have still := D.keeps found given
          refine ⟨D.requests c.clientID still, fun answer k₄ arrived => ?_⟩
          rintro resp rfl status
          exact D.refused still arrived status

theorem get : (Client.get url).Permitted L := by
  intro k
  unfold Client.get
  rw [Program.wp_bind]
  refine Program.wp_mono _ ?_ (D.do' k)
  intro result k' refused
  cases result with
  | error e => trivial
  | ok resp =>
      simp only [Program.wp_ite]
      split
      · split
        · rename_i status
          exact ⟨D.clears k' (refused resp rfl status), fun _ _ _ => trivial⟩
        · trivial
      · cases resp.readError <;> trivial

theorem getList {α : Type} (zero : α) (element : Json.Decoder α) :
    (Client.getList url zero element).Permitted L := by
  unfold Client.getList
  apply D.get.bind
  intro body
  cases body <;> exact Program.permitted_ret _

end DataLogic

/-- Where neither the end of a session nor what was found in it matters. -/
theorem dataLogic_of_fetches {κ : Type} {L : Logic Act Ans κ} {url : String}
    (permits : ∀ k (a : Act), a.fetches url → L.issue k a) :
    DataLogic L url (fun _ => True) fun _ _ => True where
  looks k a looks := permits k a (fetches_of_refreshes (refreshes_of_looks looks))
  credsGet _ := permits _ _ trivial
  refreshes _ := (OAuthHandler.refreshTokens_refreshes.permitted fun k a refreshes =>
    permits k a (fetches_of_refreshes refreshes)).wp fun _ _ _ _ => trivial
  finds _ := Store.getAccessToken_wp
    (fun k a looks => permits k a (fetches_of_refreshes (refreshes_of_looks looks)))
    (fun _ _ _ _ => trivial) fun _ _ _ _ _ _ _ _ _ => trivial
  keeps _ _ := trivial
  requests _ _ := permits _ _ rfl
  refused _ _ _ := trivial
  clears k _ := permits k _ trivial

theorem Client.getList_fetches {α : Type} (url : String) (zero : α) (element : Json.Decoder α) :
    (Client.getList url zero element).Performs (Act.fetches url) :=
  Program.performs_of_permitted
    ((dataLogic_of_fetches fun _ _ fetches => fetches).getList zero element)

end VpsDashboard.Trakt
