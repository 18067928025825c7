/-
# VpsDashboard.Trakt.TokenFile — whether the token file holds what the store holds

`Set` and `Clear` change the store and then its file.  The expiry of the tokens they
are given comes from two integers of the token endpoint that nothing checks, and
`save` returns silently when `json.Marshal` refuses the year of that expiry: memory
has changed by then, the file has not.

* `mirrored_throughout_iff` — after every call of a sequence a new store loaded from
  the file holds what the running one holds, exactly when every answer stored has an
  expiry that has a JSON form;
* `millisecond_answer_unsaved` — a `created_at` in milliseconds does not: after a
  restart the tokens before it are back.

The text of a file is represented by the record it encodes, in UTC.
-/
import VpsDashboard.Trakt.Restart
import VpsDashboard.Foundation.Interleaving

namespace VpsDashboard.Trakt

open Foundation

set_option autoImplicit false

/-! ## Calls of the store -/

/-- A call of `Set`, with the tokens a login or a refresh builds from an answer of the
token endpoint, or of `Clear`. -/
inductive StoreCall where
  | set (answer : TokenResp) (username : String)
  | clear
deriving DecidableEq

namespace Store

def call (s : Store) : StoreCall → Store
  | .set answer username => s.set (OAuthHandler.storedTokens answer username)
  | .clear => s.clear

def calls (s : Store) (cs : List StoreCall) : Store := cs.foldl call s

/-- A new store loaded from the file holds what this one holds. -/
def Mirrored (s : Store) : Prop := (newStore s.file).get = s.get

instance (s : Store) : Decidable s.Mirrored := inferInstanceAs (Decidable (_ = _))

/-- The file mirrors memory after each of the calls. -/
def MirroredThroughout (s : Store) (cs : List StoreCall) : Prop :=
  Everywhere (fun before c => ((s.calls before).call c).Mirrored) cs

instance (s : Store) (cs : List StoreCall) : Decidable (s.MirroredThroughout cs) :=
  inferInstanceAs (Decidable (Everywhere _ cs))

end Store

/-- The expiry that the two integers of the answer give has a JSON form. -/
def TokenResp.Datable (answer : TokenResp) : Prop :=
  (Time.unixPlusSeconds answer.createdAt answer.expiresIn).jsonYear = true

instance (answer : TokenResp) : Decidable answer.Datable := inferInstanceAs (Decidable (_ = _))

/-! ## Which answers have a JSON form -/

/-! ## One call -/

namespace Store

/-- What the file holds has a JSON form. -/
def Encoded (s : Store) : Prop := ∀ t ∈ s.file, t.marshal = some t

theorem encoded_newStore (earlier : Option Tokens) :
    (newStore (earlier.bind Tokens.marshal)).Encoded := by
  intro t held
  obtain ⟨t', -, written⟩ := Option.bind_eq_some_iff.mp held
  unfold Tokens.marshal at written ⊢
  split at written
  · rename_i year
    obtain rfl := Option.some.inj written
    exact if_pos year
  · cases written

/-- `Set` writes the file when the tokens have a JSON form and leaves it otherwise. -/
theorem call_set (s : Store) (answer : TokenResp) (username : String) :
    s.call (.set answer username) =
      ⟨some (OAuthHandler.storedTokens answer username),
        if answer.Datable then some (OAuthHandler.storedTokens answer username) else s.file⟩ := by
  by_cases dated : answer.Datable
  · have written : (OAuthHandler.storedTokens answer username).marshal =
        some (OAuthHandler.storedTokens answer username) := if_pos dated
    simp only [call, set, save, written, if_pos dated]
  · have refused : (OAuthHandler.storedTokens answer username).marshal = none := if_neg dated
    simp only [call, set, save, refused, if_neg dated]

theorem Encoded.call {s : Store} (encoded : s.Encoded) (c : StoreCall) : (s.call c).Encoded := by
  cases c with
  | clear =>
      intro t held
      cases held
  | set answer username =>
      rw [call_set]
      intro t held
      dsimp only at held
      split at held
      · rename_i dated
        obtain rfl := Option.some.inj held
        exact if_pos dated
      · exact encoded t held

theorem Encoded.calls {s : Store} (encoded : s.Encoded) (cs : List StoreCall) :
    (s.calls cs).Encoded := by
  induction cs generalizing s with
  | nil => exact encoded
  | cons c cs ih => exact ih (encoded.call c)

/-- Tokens without a JSON form are not in the file, whatever was there before. -/
theorem Encoded.mirrored_set {s : Store} (encoded : s.Encoded) (answer : TokenResp)
    (username : String) : (s.call (.set answer username)).Mirrored ↔ answer.Datable := by
  rw [call_set, Mirrored]
  dsimp only [newStore, get]
  split
  · rename_i dated
    exact iff_of_true rfl dated
  · rename_i undated
    apply iff_of_false _ undated
    intro held
    have written := encoded _ held
    rw [Tokens.marshal] at written
    split at written
    · rename_i year
      exact undated year
    · cases written

theorem mirrored_clear (s : Store) : (s.call .clear).Mirrored := rfl

end Store

/-! ## Every sequence of calls -/

/-- **The token file mirrors memory** after each call, from a file that an earlier
process wrote or from none, exactly when every answer stored has an expiry with a
JSON form. -/
theorem mirrored_throughout_iff (earlier : Option Tokens) (cs : List StoreCall) :
    (newStore (earlier.bind Tokens.marshal)).MirroredThroughout cs ↔
      ∀ answer username, .set answer username ∈ cs → answer.Datable := by
  have encoded := Store.encoded_newStore earlier
  constructor
  · intro mirrored answer username member
    obtain ⟨before, after, rfl⟩ := List.append_of_mem member
    exact ((encoded.calls before).mirrored_set answer username).mp (Everywhere.at mirrored)
  · intro dated
    apply everywhere_of_at
    intro before c after whole
    cases c with
    | clear => exact Store.mirrored_clear _
    | set answer username =>
        apply ((encoded.calls before).mirrored_set answer username).mpr
        apply dated answer username
        simp [whole]

/-- An answer whose `created_at` counts milliseconds. -/
def millisecondAnswer : Json :=
  .obj [("access_token", .str "access-2"), ("refresh_token", .str "refresh-2"),
    ("expires_in", .int 7776000), ("created_at", .int 1714564800000), ("scope", .str "public"),
    ("token_type", .str "bearer")]

/-- The tokens of an earlier login are in the file; the new ones are decoded, stored in
memory and not written.  A restart brings the old ones back. -/
theorem millisecond_answer_unsaved :
    let old : Tokens := ⟨"access-1", "refresh-1", 1714564800 * Time.second, "public", "ana"⟩
    let answer : TokenResp :=
      ⟨"access-2", "refresh-2", 7776000, 1714564800000, "public", "bearer"⟩
    let calls := [StoreCall.set answer "ana"]
    TokenResp.unmarshal (some millisecondAnswer) = .ok answer ∧
      ¬ (newStore (some old)).MirroredThroughout calls ∧
      (newStore ((newStore (some old)).calls calls).file).get = some old := by
  decide +kernel

end VpsDashboard.Trakt
