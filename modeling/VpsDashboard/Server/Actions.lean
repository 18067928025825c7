/-
# VpsDashboard.Server.Actions — which actions the handlers perform, once for all logics

Like `VpsDashboard.Trakt.Actions`, for the handlers of the Trakt routes.  The handlers that
only touch the credentials and the cookie have a fixed set of actions; the others are
permitted by every logic that permits what they call.
-/
import VpsDashboard.Server.Router
import VpsDashboard.Trakt.Actions

namespace VpsDashboard.Server

open Foundation Trakt

set_option autoImplicit false
set_option linter.dupNamespace false

/-- To store the credentials that this body holds. -/
def Act.configures (body : Option Json) : Act → Prop
  | .credsUpdate c => unmarshal Server.configBody ⟨"", "", ""⟩ body = .ok c
  | a => a.saves

theorem configures_of_saves {body : Option Json} {a : Act} (saves : a.saves) :
    Act.configures body a := by
  cases a <;> trivial

namespace Server

variable (s : Server) (r : Request)

/-! ## Handlers with a fixed set of actions -/

section Performs

variable {may : Act → Prop}

theorem effectiveRedirect_performs (reads : may .credsGet) :
    (s.effectiveRedirect r).Performs may := by
  unfold effectiveRedirect
  apply (Program.performs_ret _).ite
  apply (Program.performs_perform reads).bind
  intro c
  exact (Program.performs_ret _).ite (Program.performs_ret _)

theorem describeConfig_performs (reads : may .credsGet) : (s.describeConfig r).Performs may := by
  unfold describeConfig
  apply (Program.performs_perform reads).bind
  intro c
  apply (s.effectiveRedirect_performs r reads).bind
  intro redirectURI
  cases redirectURI <;> exact Program.performs_ret _

theorem oauthConfigured_performs (reads : may .credsGet) : s.oauthConfigured.Performs may := by
  unfold oauthConfigured OAuthHandler.isConfigured
  apply (Program.performs_ret _).ite
  exact (Program.performs_perform reads).bind fun _ => Program.performs_ret _

theorem generateState_performs (draws : may .randRead) : generateState.Performs may := by
  unfold generateState
  apply (Program.performs_perform draws).bind
  intro random
  cases random <;> exact Program.performs_ret _

theorem buildAuthURL_performs (state redirectURI : String) (reads : may .credsGet) :
    (OAuthHandler.buildAuthURL state redirectURI).Performs may := by
  unfold OAuthHandler.buildAuthURL
  exact (Program.performs_perform reads).bind fun _ => Program.performs_ret _

/-- A login stores nothing: its state travels in the cookie. -/
theorem handleTraktLogin_performs (reads : may .credsGet) (draws : may .randRead) :
    (s.handleTraktLogin r).Performs may := by
  unfold handleTraktLogin
  apply (s.oauthConfigured_performs reads).bind
  intro configured
  apply (Program.performs_ret _).ite
  apply (generateState_performs draws).bind
  intro state
  cases state with
  | error e => exact Program.performs_ret _
  | ok state =>
      apply (s.effectiveRedirect_performs r reads).bind
      intro redirectURI
      cases redirectURI with
      | error fault => exact Program.performs_ret _
      | ok uri => exact (buildAuthURL_performs state uri reads).bind fun _ => Program.performs_ret _

theorem handleTraktLogout_performs (clears : may .storeClear) :
    (s.handleTraktLogout r).Performs may := by
  have left : OAuthHandler.logout.Performs may := Program.performs_perform clears
  unfold handleTraktLogout
  exact (left.bind fun _ => Program.performs_ret _).ite (Program.performs_ret _)

theorem handleTraktConfigGet_performs (reads : may .credsGet) :
    (s.handleTraktConfigGet r).Performs may := by
  unfold handleTraktConfigGet
  exact (Program.performs_ret _).ite (s.describeConfig_performs r reads)

theorem handleTraktConfigSave_performs :
    (s.handleTraktConfigSave r).Performs (Act.configures r.body) := by
  unfold handleTraktConfigSave
  apply (Program.performs_ret _).ite
  cases decoded : unmarshal configBody ⟨"", "", ""⟩ r.body with
  | error e => exact Program.performs_ret _
  | ok body =>
      have updates : (CredentialStore.update body).Performs (Act.configures r.body) :=
        CredentialStore.update_performs body decoded fun _ => configures_of_saves
      exact updates.bind fun _ => s.describeConfig_performs r trivial

end Performs

/-! ## Handlers in any logic -/

section Permitted

variable {κ : Type} {L : Logic Act Ans κ}

theorem handleTraktCallback_permitted (reads : returnsState r = true → ∀ k, L.issue k .credsGet)
    (exchanges : returnsState r = true → ∀ uri,
      (OAuthHandler.exchangeCode (firstValue "code" r.query) uri).Permitted L) :
    (s.handleTraktCallback r).Permitted L := by
  have only : (s.effectiveRedirect r).Performs fun a => a = .credsGet :=
    s.effectiveRedirect_performs r rfl
  unfold handleTraktCallback
  apply (Program.permitted_ret _).ite
  dsimp only
  cases returns : returnsState r with
  | false => exact Program.permitted_ret _
  | true =>
      have redirects : (s.effectiveRedirect r).Permitted L := by
        apply only.permitted
        rintro k _ rfl
        exact reads returns k
      apply redirects.bind
      intro redirectURI
      cases redirectURI with
      | error fault => exact Program.permitted_ret _
      | ok uri =>
          apply (exchanges returns uri).bind
          intro exchanged
          cases exchanged <;> exact Program.permitted_ret _

theorem handleTraktMe_permitted (looks : ∀ k (a : Act), a.looks → L.issue k a)
    (refreshes : OAuthHandler.refreshTokens.Permitted L) : (s.handleTraktMe r).Permitted L := by
  have reads : (Trakt.perform .storeGet).Permitted L :=
    Program.permitted_perform fun k => looks k _ trivial
  have clock : (Trakt.perform .now).Permitted L :=
    Program.permitted_perform fun k => looks k _ trivial
  unfold handleTraktMe
  apply (Program.permitted_ret _).ite
  apply reads.bind
  intro t
  cases t with
  | none => exact Program.permitted_ret _
  | some t =>
      apply clock.bind
      intro now
      refine Program.Permitted.ite ?_ (Program.permitted_ret _)
      apply refreshes.bind
      intro refreshed
      cases refreshed with
      | error e => exact Program.permitted_ret _
      | ok done => exact reads.bind fun _ => Program.permitted_ret _

theorem handleTraktList_permitted {fetch : Prog (Except String Json)}
    (looks : ∀ k (a : Act), a.looks → L.issue k a) (fetches : fetch.Permitted L)
    (failed : String) : (s.handleTraktList fetch failed r).Permitted L := by
  have reads : (Trakt.perform .storeGet).Permitted L :=
    Program.permitted_perform fun k => looks k _ trivial
  unfold handleTraktList
  apply (Program.permitted_ret _).ite
  apply (Store.isAuthenticated_looks.permitted looks).bind
  intro authenticated
  apply (Program.permitted_ret _).ite
  apply reads.bind
  intro t
  cases t with
  | none => exact Program.permitted_ret _
  | some t =>
      apply (Program.permitted_ret _).ite
      apply fetches.bind
      intro list
      cases list <;> exact Program.permitted_ret _

/-- Behind the middleware a request is answered as the handler answers it, for some user, or
refused. -/
theorem handler_permitted (m : Middleware) {next : Handler}
    (follows : ∀ user, (next { r with user := user }).Permitted L) :
    (m.handler next r).Permitted L := by
  unfold Middleware.handler
  refine (follows _).ite (Program.Permitted.ite ?_ ((follows _).ite (Program.permitted_ret _)))
  cases m.validateBasicAuth r with
  | none => exact Program.permitted_ret _
  | some user => exact follows _

theorem serve_permitted (m : Middleware) (cors : Request → Option Response) (v : Visit)
    (handles : (s.routed m v.elsewhere v.request.endpoint v.request).Permitted L) :
    (s.serve m cors v).Permitted L := by
  unfold serve
  cases cors v.request with
  | some response => exact Program.permitted_ret _
  | none => exact handles.bind fun answer => Program.permitted_ret _

end Permitted

end Server

end VpsDashboard.Server
