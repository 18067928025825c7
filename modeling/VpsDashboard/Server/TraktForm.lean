/-
# VpsDashboard.Server.TraktForm — the Trakt form, viewed and saved without edits

`GET /api/trakt/config` answers with the redirect URI that the server would use for
this request, and the form posts it back as the one to store.  A redirect URI that is
stored comes back as it is; one that is derived from the request becomes a stored one.

* `unedited_save_keeps_iff` — for every state and pair of requests, saving the form
  unedited keeps the credentials exactly when the client id has no white space around
  it and the redirect URI is stored, without white space around it;
* `unedited_save_fixes_redirect` — without a stored redirect URI the one derived for
  the viewer is stored, and a request to another host is told the viewer's.
-/
import VpsDashboard.Foundation.JsObject
import VpsDashboard.Server.RedirectAgreement
import VpsDashboard.Trakt.TokenAnswers

namespace VpsDashboard.Server

open Foundation Trakt

set_option autoImplicit false
set_option linter.dupNamespace false

/-! ## The form -/

/-- `traktConfig` of the form: the members of the answer, or null when it is not read. -/
def traktConfig : Except Fault Response → Option JsObject
  | .ok ⟨200, _, _, .json (.obj members)⟩ => some members
  | _ => none

/-- A property of `traktConfig` that is a string, or the blank one. -/
def configText (config : Option JsObject) (key : String) : String :=
  match config.bind fun members => members.get key with
  | some (.str text) => text
  | _ => ""

/-- What `handleSaveTrakt` posts, with what has been typed into the two fields. -/
def savedForm (clientId clientSecret : String) (config : Option JsObject) : Json :=
  .obj [("clientId", .str (if clientId ≠ "" then clientId else configText config "clientId")),
    ("clientSecret", .str clientSecret),
    ("redirectUri", .str (configText config "redirectUri"))]

section Requests

variable (w : World) (view save : Request) (outside : Nat → Env)

/-- The answer to the request that shows the form. -/
def viewForm : Except Fault Response := ((wired.handleTraktConfigGet view).run machine w outside).1

/-- The form is shown by one request and saved by another, with no edit but this secret. -/
def saveUnedited (secret : String) : Except Fault Response × World :=
  (wired.handleTraktConfigSave { save with
    method := .post, body := some (savedForm "" secret (traktConfig (viewForm w view outside))) }).run
      machine w outside

end Requests

/-! ## The two handlers -/

theorem viewForm_eq (w : World) (view : Request) (outside : Nat → Env) :
    viewForm w view outside =
      .ok (Server.configAnswer w.creds.creds
        (effective view.derivedRedirect w.creds.creds.redirectURI)) := by
  by_cases stored : w.creds.creds.redirectURI = ""
  · simp [viewForm, Server.handleTraktConfigGet, Server.describeConfig, Server.effectiveRedirect,
      wired, effective, stored]
  · simp [viewForm, Server.handleTraktConfigGet, Server.describeConfig, Server.effectiveRedirect,
      wired, effective, stored]

/-- The form posts the client id and the redirect URI that it was shown. -/
theorem savedForm_viewed (c : Credentials) (secret redirectURI : String) :
    savedForm "" secret (traktConfig (.ok (Server.configAnswer c redirectURI))) =
      .obj [("clientId", .str c.clientID), ("clientSecret", .str secret),
        ("redirectUri", .str redirectURI)] := by
  rfl

theorem configBody_form (id secret redirectURI : String) :
    unmarshal Server.configBody ⟨"", "", ""⟩ (some (.obj [("clientId", .str id),
      ("clientSecret", .str secret), ("redirectUri", .str redirectURI)])) =
        .ok ⟨id, secret, redirectURI⟩ := by
  rfl

theorem describeConfig_keeps (r : Request) : machine.Keeps (wired.describeConfig r) := by
  have reads : (wired.describeConfig r).Performs fun a => a = .credsGet :=
    wired.describeConfig_performs r rfl
  apply Machine.keeps_of_performs reads
  rintro _ rfl _ _
  rfl

/-- A body that decodes is stored, and the configuration shown again. -/
theorem handleTraktConfigSave_eq {r : Request} {c : Credentials}
    (decoded : unmarshal Server.configBody ⟨"", "", ""⟩ r.body = .ok c) :
    wired.handleTraktConfigSave r = (do CredentialStore.update c; wired.describeConfig r) := by
  unfold Server.handleTraktConfigSave
  rw [decoded]
  rfl

/-- Saving is an update of the credentials, and of nothing else in memory. -/
theorem saveUnedited_creds (w : World) (view save : Request) (outside : Nat → Env)
    (secret : String) :
    (saveUnedited w view save outside secret).2.creds.creds =
      (w.creds.updateLocked ⟨w.creds.creds.clientID, secret,
        effective view.derivedRedirect w.creds.creds.redirectURI⟩).creds := by
  rw [saveUnedited, viewForm_eq, savedForm_viewed,
    handleTraktConfigSave_eq (configBody_form w.creds.creds.clientID secret _)]
  apply Machine.wp_run (Q := fun (_ : Except Fault Response) (w' : World) =>
    w'.creds.creds = (w.creds.updateLocked _).creds)
  rw [Program.wp_bind, CredentialStore.update, Program.perform_bind]
  apply Machine.wp_state_act.mpr
  intro _
  apply CredentialStore.save_wp
  intro file
  apply Program.wp_mono _ _ (describeConfig_keeps _ _)
  rintro _ w' rfl
  rfl

/-! ## Saving without edits -/

/-- A redirect URI that is derived from a request is never blank. -/
theorem trimSpace_derivedRedirect (r : Request) : trimSpace r.derivedRedirect ≠ "" := by
  intro blank
  have colon : ':' ∈ r.derivedRedirect.toList := by
    simp [Request.derivedRedirect, String.toList_append]
  have kept := mem_trimSpace colon (by decide)
  rw [blank] at kept
  cases kept

/-- **Saving the form unedited keeps the credentials** exactly when neither the client id
nor the redirect URI has white space around it and the redirect URI is a stored one. -/
theorem unedited_save_keeps_iff (w : World) (view save : Request) (outside : Nat → Env)
    (secret : String) (blank : trimSpace secret = "") :
    (saveUnedited w view save outside secret).2.creds.creds = w.creds.creds ↔
      trimSpace w.creds.creds.clientID = w.creds.creds.clientID ∧
        w.creds.creds.redirectURI ≠ "" ∧
        trimSpace w.creds.creds.redirectURI = w.creds.creds.redirectURI := by
  rw [saveUnedited_creds]
  obtain ⟨store, ⟨⟨id, stored, uri⟩, filePath, file⟩⟩ := w
  simp only [CredentialStore.updateLocked, effective, blank, ne_eq, not_true_eq_false, if_false,
    Credentials.mk.injEq, true_and]
  by_cases derived : uri = ""
  · subst derived
    simp [trimSpace_derivedRedirect view]
  · simp [derived]

/-- The settings page, opened on this host. -/
def formOn (host : String) : Request := browserRequest host "/api/trakt/config" [] []

def quiet : Nat → Env := fun _ => answering 200 none

/-- A redirect URI of its own host survives the form. -/
theorem unedited_save_keeps_stored :
    let w : World := .boot none "creds.json" none ⟨"id", "secret", "http://a.example/callback"⟩
    (saveUnedited w (formOn "b.example") (formOn "c.example") quiet " ").2.creds.creds =
      w.creds.creds :=
  (unedited_save_keeps_iff _ (formOn "b.example") (formOn "c.example") quiet " "
    (by decide +kernel)).mpr (by decide +kernel)

/-- No redirect URI is stored.  After the form has been saved unedited on one host, the
settings page on another host shows the redirect URI of the first. -/
theorem unedited_save_fixes_redirect :
    let w := (saveUnedited noRedirect (formOn "a.example") (formOn "a.example") quiet "").2
    let shown (w : World) := configText (traktConfig (viewForm w (formOn "b.example") quiet))
      "redirectUri"
    noRedirect.creds.creds = ⟨"id", "secret", ""⟩ ∧
      w.creds.creds = ⟨"id", "secret", "http://a.example/api/auth/trakt/callback"⟩ ∧
      shown noRedirect = "http://b.example/api/auth/trakt/callback" ∧
      shown w = "http://a.example/api/auth/trakt/callback" := by
  decide +kernel

end VpsDashboard.Server
