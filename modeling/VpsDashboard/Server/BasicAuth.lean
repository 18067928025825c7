/-
# VpsDashboard.Server.BasicAuth — who gets past the Basic authentication

With a password hash configured, and no value in the Authelia user header, a request gets
past the middleware by its `Authorization` header alone.  `splitColon` cuts the decoded
payload at its first colon, so a user name without a colon is read back whole and a password
keeps its own colons.

* `validateBasicAuth_iff` — the headers that are accepted, for any check of passwords;
* `handler_basic_iff` — for exactly these the protected handler runs, once and with the
  configured user; all others are answered 401.
-/
import VpsDashboard.Foundation.Utf8
import VpsDashboard.Server.Auth

namespace VpsDashboard.Server

open Foundation Trakt

set_option autoImplicit false

/-- The first colon of a payload ends the user name. -/
theorem splitColon_eq_some_iff {payload username password : List UInt8} :
    splitColon payload = some (username, password) ↔
      payload = username ++ 58 :: password ∧ 58 ∉ username := by
  unfold splitColon
  constructor
  · intro split
    have whole := List.takeWhile_append_dropWhile (p := (· != 58)) (l := payload)
    cases rest : payload.dropWhile (· != 58) with
    | nil => simp [rest] at split
    | cons b later =>
        simp only [rest, Option.some.injEq, Prod.mk.injEq] at split whole
        obtain ⟨rfl, rfl⟩ := split
        have colon : b = 58 := by
          have stops := List.head_dropWhile_not (p := (· != 58)) (l := payload) (by simp [rest])
          simpa [rest] using stops
        subst colon
        refine ⟨whole.symm, fun member => ?_⟩
        have all : (payload.takeWhile (· != 58)).all (· != 58) = true := List.all_takeWhile
        simpa using List.all_eq_true.mp all 58 member
  · rintro ⟨rfl, plain⟩
    have all : ∀ b ∈ username, (b != 58) = true := by
      rintro b member
      simpa using fun same : b = 58 => plain (same ▸ member)
    simp [List.dropWhile_append_of_pos all, List.takeWhile_append_of_pos all]

/-- The header is `Basic ` and a text that base64 decodes to the configured user name, a
colon and a password that matches. -/
def BasicCredentials (m : Middleware) (r : Request) : Prop :=
  ∃ encoded password, headerValue "Authorization" r.headers = "Basic " ++ encoded ∧
    base64Decode encoded = some (m.cfg.dashboardUsername.toUTF8.toList ++ 58 :: password) ∧
    m.passwordMatches m.cfg.dashboardPasswordHash password = true

namespace Middleware

variable {m : Middleware} {r : Request}

/-- Without a colon among its characters, a name has none among its bytes. -/
theorem colon_not_mem (plain : ':' ∉ m.cfg.dashboardUsername.toList) :
    58 ∉ m.cfg.dashboardUsername.toUTF8.toList := by
  rw [toUTF8_toList]
  intro member
  exact plain (mem_of_mem_utf8 (by decide) member)

theorem eq_append_of_begins {auth : String} (begins : "Basic ".toList.isPrefixOf auth.toList = true) :
    auth = "Basic " ++ String.ofList (auth.toList.drop 6) := by
  obtain ⟨rest, whole⟩ := List.isPrefixOf_iff_prefix.mp begins
  have cut : auth.toList.drop 6 = rest := by
    rw [← whole]
    exact List.drop_left' rfl
  rw [cut, ← String.toList_inj, ← whole]
  simp

/-- The headers that are accepted. -/
theorem validateBasicAuth_iff (plain : ':' ∉ m.cfg.dashboardUsername.toList) {user : String} :
    m.validateBasicAuth r = some user ↔
      user = m.cfg.dashboardUsername ∧ BasicCredentials m r := by
  unfold validateBasicAuth BasicCredentials
  generalize headerValue "Authorization" r.headers = auth
  constructor
  · intro valid
    dsimp only at valid
    split at valid
    · cases valid
    · rename_i begins
      rw [Bool.not_eq_true, Bool.not_eq_false'] at begins
      split at valid
      · cases valid
      · rename_i payload decoded
        split at valid
        · cases valid
        · rename_i username password split
          obtain ⟨rfl, -⟩ := splitColon_eq_some_iff.mp split
          split at valid
          · cases valid
          · rename_i same
            rw [not_not] at same
            split at valid
            · cases valid
            · rename_i fits
              refine ⟨(Option.some.inj valid).symm, _, password, eq_append_of_begins begins, ?_, ?_⟩
              · rw [decoded, same]
              · simpa using fits
  · rintro ⟨rfl, encoded, password, rfl, decoded, fits⟩
    have cut : (String.ofList (("Basic " ++ encoded).toList.drop 6)) = encoded := by
      simp
    have split : splitColon (m.cfg.dashboardUsername.toUTF8.toList ++ 58 :: password) =
        some (m.cfg.dashboardUsername.toUTF8.toList, password) :=
      splitColon_eq_some_iff.mpr ⟨rfl, colon_not_mem plain⟩
    dsimp only
    rw [if_neg (by simp), cut, decoded]
    dsimp only
    rw [split]
    simp [fits]

/-- The answer to a request without valid credentials. -/
def challenge : Response :=
  { unauthorized with
    headers := ("WWW-Authenticate", "Basic realm=\"OLED Dashboard\"") :: unauthorized.headers }

/-- **Exactly the right headers are accepted.**  With a password hash, a user name without a
colon and no value in the Authelia user header, for any check of passwords: the middleware is
the protected handler with the configured user, for every handler, if and only if the header
holds the user name and a password that matches; and it answers 401 in place of every
handler if and only if it does not. -/
theorem handler_basic_iff (hash : m.cfg.dashboardPasswordHash ≠ "")
    (plain : ':' ∉ m.cfg.dashboardUsername.toList)
    (noUser : headerValue m.cfg.autheliaUserHeader r.headers = "") :
    ((∀ next, m.handler next r = next { r with user := some m.cfg.dashboardUsername }) ↔
        BasicCredentials m r) ∧
      ((∃ response, response.status = 401 ∧ ∀ next, m.handler next r = .ret (.ok response)) ↔
        ¬ BasicCredentials m r) := by
  have admitted : BasicCredentials m r →
      ∀ next, m.handler next r = next { r with user := some m.cfg.dashboardUsername } := by
    intro credentials next
    have valid := (validateBasicAuth_iff plain).mpr ⟨rfl, credentials⟩
    simp [handler, noUser, hash, valid]
  have refused : ¬ BasicCredentials m r → ∀ next, m.handler next r = .ret (.ok challenge) := by
    intro invalid next
    cases valid : m.validateBasicAuth r with
    | none => simp [handler, noUser, hash, valid, challenge]
    | some user => exact absurd ((validateBasicAuth_iff plain).mp valid).2 invalid
  -- a handler that answers otherwise
  have apart : ∀ response, (.ret (.error .nilDereference) : Prog (Except Fault Response)) ≠
      .ret (.ok response) := by
    intro response same
    cases same
  refine ⟨⟨fun runs => ?_, admitted⟩, ⟨?_, fun invalid => ⟨challenge, rfl, refused invalid⟩⟩⟩
  · by_contra invalid
    have both := runs fun _ => .ret (.error .nilDereference)
    rw [refused invalid] at both
    exact apart _ both.symm
  · rintro ⟨response, -, answers⟩ credentials
    have both := answers fun _ => .ret (.error .nilDereference)
    rw [admitted credentials] at both
    exact apart _ both

end Middleware

/-! ## A password with a colon -/

/-- The hash of the password `a:b`. -/
def alice : Middleware where
  cfg := ⟨"production", "alice", "$2a$10$hash", "Remote-User"⟩
  passwordMatches _ password := password == [97, 58, 98]

def withAuthorization (value : String) : Request :=
  { Request.plain "/api/metrics" with headers := [("Authorization", value)] }

/-- The rule for `alice:a:b`, and for `alice` without a password. -/
theorem handler_basic_alice :
    (∀ next, alice.handler next (withAuthorization "Basic YWxpY2U6YTpi") =
        next { withAuthorization "Basic YWxpY2U6YTpi" with user := some "alice" }) ∧
      ∃ response, response.status = 401 ∧
        ∀ next, alice.handler next (withAuthorization "Basic YWxpY2U=") = .ret (.ok response) := by
  have hash : alice.cfg.dashboardPasswordHash ≠ "" := by decide
  have plain : ':' ∉ alice.cfg.dashboardUsername.toList := by decide
  constructor
  · refine (Middleware.handler_basic_iff hash plain (by decide)).1.mpr ?_
    exact ⟨"YWxpY2U6YTpi", [97, 58, 98], by decide, by decide +kernel, by decide⟩
  · refine (Middleware.handler_basic_iff hash plain (by decide)).2.mpr ?_
    intro credentials
    have valid := (Middleware.validateBasicAuth_iff plain).mpr ⟨rfl, credentials⟩
    revert valid
    decide +kernel

end VpsDashboard.Server
