/-
# VpsDashboard.Frontend.LostWakeup — the effect that is skipped while a cancelled run ends

An effect that finds `tmdbEnriching` set returns at once.  Its own cleanup has just
cancelled the run that set the flag; that run ends without touching React state, so
that nothing runs the effect again.

* `key_edit_loses_wakeup` — the key is edited while a request is in flight, and the one
  listed film is never fetched;
* `no_lost_wakeup` — in every run in which no effect with films to fetch meets the set
  flag (`NotSkipped`), every listed film is cached whenever the hook has come to rest.

Of two references to one variable the later one has the greater number unless they are
the same object (`Ref.Follows`); with it equal dependencies mean equal values.
-/
import VpsDashboard.Frontend.Crosswatch

namespace VpsDashboard.Frontend

open Foundation Trakt

set_option autoImplicit false

/-! ## Objects and their successors -/

namespace Ref

variable {α : Type}

/-- `r` is what `earlier` was, or has replaced it. -/
def Follows (r earlier : Ref α) : Prop := r = earlier ∨ earlier.id < r.id

theorem Follows.refl (r : Ref α) : r.Follows r := .inl rfl

theorem Follows.replace {r earlier : Ref α} (follows : r.Follows earlier) (value : α) :
    (r.replace value).Follows earlier := by
  refine .inr ?_
  show earlier.id < r.id + 1
  rcases follows with rfl | newer <;> omega

theorem Follows.eq_of_id {r earlier : Ref α} (follows : r.Follows earlier)
    (same : r.id = earlier.id) : r = earlier := by
  rcases follows with same' | newer
  · exact same'
  · omega

end Ref

namespace Values

/-- `v` is the state some changes after `earlier`. -/
structure Follows (v earlier : Values) : Prop where
  watchlist : v.watchlistMovies.Follows earlier.watchlistMovies
  watched : v.watchedMovies.Follows earlier.watchedMovies
  cache : v.tmdbCache.Follows earlier.tmdbCache

theorem Follows.refl (v : Values) : v.Follows v := ⟨.refl _, .refl _, .refl _⟩

theorem Follows.change {v earlier : Values} (follows : v.Follows earlier) (c : Change) :
    (v.change c).Follows earlier := by
  cases c with
  | apiKey key => exact ⟨follows.watchlist, follows.watched, follows.cache⟩
  | loading loading => exact ⟨follows.watchlist, follows.watched, follows.cache⟩
  | watchlist movies => exact ⟨follows.watchlist.replace movies, follows.watched, follows.cache⟩
  | watched movies => exact ⟨follows.watchlist, follows.watched.replace movies, follows.cache⟩

/-- Equal dependencies are equal values. -/
theorem Follows.eq_of_sameDeps {v earlier : Values} (follows : v.Follows earlier)
    (same : v.sameDeps earlier = true) : v = earlier := by
  simp only [sameDeps, Bool.and_eq_true, beq_iff_eq] at same
  obtain ⟨⟨⟨⟨-, loading⟩, listed, watched⟩, key⟩, cache⟩ := same
  cases v
  cases earlier
  simp only [Values.mk.injEq]
  exact ⟨key, loading, follows.watchlist.eq_of_id listed, follows.watched.eq_of_id watched,
    follows.cache.eq_of_id cache⟩

theorem change_tmdbCache (v : Values) (c : Change) : (v.change c).tmdbCache = v.tmdbCache := by
  cases c <;> rfl

end Values

namespace Crosswatch

/-! ## The effect that is skipped -/

/-- An effect executed now has films to fetch, and returns because of the flag. -/
def Skips (s : Crosswatch) : Prop :=
  s.rendered.enabled = true ∧ s.tmdbEnriching = true ∧ s.rendered.uncached ≠ []

instance (s : Crosswatch) : Decidable s.Skips := inferInstanceAs (Decidable (_ ∧ _ ∧ _))

/-- The step is not an effect that is skipped only because of the flag. -/
def NotSkipped (s : Crosswatch) : CrosswatchAction → Prop
  | .effect => ¬ s.Skips
  | _ => True

instance (s : Crosswatch) (a : CrosswatchAction) : Decidable (s.NotSkipped a) :=
  match a with
  | .change _ => isTrue trivial
  | .render => isTrue trivial
  | .effect => inferInstanceAs (Decidable (¬ s.Skips))
  | .answer _ _ => isTrue trivial

/-- The run that will be cancelled by the next cleanup is in flight. -/
def Fetching (s : Crosswatch) : Prop :=
  ∃ i run, s.cleanup = some i ∧ s.runs[i]? = some run ∧ run.awaiting.isSome = true ∧
    run.cancelled = false

/-- Something will execute the effect again, or it has nothing to fetch. -/
structure Awake (s : Crosswatch) : Prop where
  follows : s.values.Follows s.rendered
  wakes : s.effectWaits = false → s.rendered.enabled = true →
    s.rendered.uncached = [] ∨ s.Fetching ∨ s.rendered.tmdbCache.id < s.values.tmdbCache.id

theorem awake_mount (v : Values) : (mount v).Awake := ⟨.refl v, nofun⟩

/-- What the effect does when it is not skipped. -/
theorem runEffect_fetches {s : Crosswatch} (enabled : s.rendered.enabled = true)
    (free : s.tmdbEnriching = false) {m : TraktMovie} {rest : List TraktMovie}
    (first : s.rendered.uncached = m :: rest) : s.runEffect.Fetching := by
  obtain ⟨hasKey, loaded⟩ : s.rendered.hasTmdb = true ∧ s.rendered.loading = false := by
    simpa [Values.enabled] using enabled
  have listed : s.rendered.allTraktMovies.isEmpty = false := by
    rw [List.isEmpty_eq_false_iff_exists_mem]
    exact ⟨m, (Values.mem_uncached.mp (by rw [first]; exact List.mem_cons_self)).1⟩
  rw [runEffect]
  simp only [hasKey, loaded, free, listed, first]
  refine ⟨s.runs.length, .enrich s.rendered.tmdbApiKey (m :: rest.take 9), rfl, ?_, rfl, rfl⟩
  exact List.getElem?_concat_length

theorem runCleanup_values (s : Crosswatch) : s.runCleanup.values = s.values := by
  rw [runCleanup]
  split <;> rfl

theorem runCleanup_rendered (s : Crosswatch) : s.runCleanup.rendered = s.rendered := by
  rw [runCleanup]
  split <;> rfl

theorem runCleanup_tmdbEnriching (s : Crosswatch) :
    s.runCleanup.tmdbEnriching = s.tmdbEnriching := by
  rw [runCleanup]
  split <;> rfl

theorem runEffect_values (s : Crosswatch) : s.runEffect.values = s.values := by
  rw [runEffect]
  split
  · rfl
  · split <;> rfl

theorem runEffect_rendered (s : Crosswatch) : s.runEffect.rendered = s.rendered := by
  rw [runEffect]
  split
  · rfl
  · split <;> rfl

/-- An effect that is not skipped leaves nothing to fetch or starts fetching. -/
theorem awake_effect {s : Crosswatch} (awake : s.Awake) (notSkipped : ¬ s.Skips) :
    Awake { s.runCleanup.runEffect with effectWaits := false } := by
  have values : s.runCleanup.runEffect.values = s.values := by
    rw [runEffect_values, runCleanup_values]
  have rendered : s.runCleanup.runEffect.rendered = s.rendered := by
    rw [runEffect_rendered, runCleanup_rendered]
  refine ⟨?_, fun _ enabled => ?_⟩
  · show s.runCleanup.runEffect.values.Follows s.runCleanup.runEffect.rendered
    rw [values, rendered]
    exact awake.follows
  · have on : s.rendered.enabled = true := rendered ▸ enabled
    cases first : s.rendered.uncached with
    | nil => exact .inl (show s.runCleanup.runEffect.rendered.uncached = [] by rw [rendered, first])
    | cons m rest =>
        have free : s.tmdbEnriching = false := by
          by_contra set
          exact notSkipped ⟨on, Bool.not_eq_false _ ▸ set, by rw [first]; exact nofun⟩
        refine .inr (.inl ?_)
        exact runEffect_fetches (by rw [runCleanup_rendered]; exact on)
          (by rw [runCleanup_tmdbEnriching]; exact free) (by rw [runCleanup_rendered]; exact first)

/-- A render that has the effect wait for nothing has rendered what was there. -/
theorem awake_render {s : Crosswatch} (awake : s.Awake) (idle : s.effectWaits = false) :
    Awake { s with rendered := s.values, effectWaits := !s.values.sameDeps s.rendered } := by
  refine ⟨.refl _, fun unchanged enabled => ?_⟩
  have same : s.values.sameDeps s.rendered = true := by simpa using unchanged
  have equal := awake.follows.eq_of_sameDeps same
  have on : s.rendered.enabled = true := equal ▸ enabled
  rcases awake.wakes idle on with none | fetching | newer
  · exact .inl (show s.values.uncached = [] by rw [equal, none])
  · exact .inr (.inl fetching)
  · rw [equal] at newer
    exact absurd newer (Nat.lt_irrefl _)

theorem awake_change {s : Crosswatch} (awake : s.Awake) (c : Change) :
    Awake { s with values := s.values.change c } := by
  refine ⟨awake.follows.change c, fun idle enabled => ?_⟩
  rcases awake.wakes idle enabled with none | fetching | newer
  · exact .inl none
  · exact .inr (.inl fetching)
  · refine .inr (.inr ?_)
    show _ < (s.values.change c).tmdbCache.id
    rw [Values.change_tmdbCache]
    exact newer

theorem next_cancelled (run : EnrichRun) (m : TraktMovie) (res : TmdbResponse) :
    (run.store m res).next.cancelled = run.cancelled := by
  have stored : (run.store m res).cancelled = run.cancelled := by
    rw [EnrichRun.store]
    split <;> rfl
  rw [EnrichRun.next]
  split
  · exact stored
  · split <;> exact stored

/-- A run that goes on keeps fetching. -/
theorem fetching_set {s : Crosswatch} (fetching : s.Fetching) {i : Nat} {run run' : EnrichRun}
    (found : s.runs[i]? = some run) (awaits : run'.awaiting.isSome = true)
    (same : run'.cancelled = run.cancelled) : Fetching { s with runs := s.runs.set i run' } := by
  obtain ⟨j, current, cleanup, there, flying, active⟩ := fetching
  by_cases mine : i = j
  · subst mine
    obtain rfl := Option.some.inj (found.symm.trans there)
    refine ⟨i, run', cleanup, ?_, awaits, same.trans active⟩
    exact List.getElem?_set_self (List.getElem?_eq_some_iff.mp found).1
  · exact ⟨j, current, cleanup, (List.getElem?_set_ne mine).trans there, flying, active⟩

/-- The end of a run is either that of another one, or it comes with a new cache. -/
theorem fetching_finish {s : Crosswatch} (fetching : s.Fetching) {i : Nat} {run run' : EnrichRun}
    (found : s.runs[i]? = some run) (same : run'.cancelled = run.cancelled) :
    Fetching { s with runs := s.runs.set i run' } ∨ run'.cancelled = false := by
  obtain ⟨j, current, cleanup, there, flying, active⟩ := fetching
  by_cases mine : i = j
  · subst mine
    obtain rfl := Option.some.inj (found.symm.trans there)
    exact .inr (same.trans active)
  · exact .inl ⟨j, current, cleanup, (List.getElem?_set_ne mine).trans there, flying, active⟩

/-- The answer to a request of the run at `i` that leaves a run `run'` there. -/
theorem awake_answered {s : Crosswatch} (awake : s.Awake) {i : Nat} {run : EnrichRun}
    {m : TraktMovie} (found : s.runs[i]? = some run) (res : TmdbResponse) :
    (s.answered i run m res).Awake := by
  have same := next_cancelled run m res
  rw [answered]
  generalize (run.store m res).next = run' at same
  split
  · cases cancelled : run'.cancelled with
    | true =>
        rw [finish, cancelled, if_pos rfl]
        refine ⟨awake.follows, fun idle enabled => ?_⟩
        rcases awake.wakes idle enabled with none | fetching | newer
        · exact .inl none
        · rcases fetching_finish fetching found same with still | active
          · exact .inr (.inl still)
          · rw [cancelled] at active
            cases active
        · exact .inr (.inr newer)
    | false =>
        rw [finish, cancelled, if_neg Bool.false_ne_true]
        refine ⟨⟨awake.follows.watchlist, awake.follows.watched, awake.follows.cache.replace _⟩,
          fun _ _ => .inr (.inr ?_)⟩
        show s.rendered.tmdbCache.id < s.values.tmdbCache.id + 1
        rcases awake.follows.cache with equal | newer
        · rw [equal]
          omega
        · omega
  · rename_i awaits
    refine ⟨awake.follows, fun idle enabled => ?_⟩
    rcases awake.wakes idle enabled with none | fetching | newer
    · exact .inl none
    · exact .inr (.inl (fetching_set fetching found (by rw [awaits]; rfl) same))
    · exact .inr (.inr newer)

theorem awake_step {s s' : Crosswatch} {a : CrosswatchAction} (awake : s.Awake)
    (notSkipped : s.NotSkipped a) (stepped : s.step a = some s') : s'.Awake := by
  cases a with
  | change c =>
      cases stepped
      exact awake_change awake c
  | render =>
      rw [step] at stepped
      split at stepped
      · cases stepped
      · rename_i idle
        cases stepped
        exact awake_render awake (Bool.not_eq_true _ ▸ idle)
  | effect =>
      rw [step] at stepped
      split at stepped
      · cases stepped
        exact awake_effect awake notSkipped
      · cases stepped
  | answer i res =>
      rw [step] at stepped
      obtain ⟨run, found, rest⟩ := Option.bind_eq_some_iff.mp stepped
      obtain ⟨m, awaits, answered⟩ := Option.bind_eq_some_iff.mp rest
      cases answered
      exact awake_answered awake found res

/-! ## At rest -/

/-- The listed films are cached, or a run that was not cancelled has asked for them. -/
def Enriched (s : Crosswatch) : Prop :=
  ∀ m ∈ s.values.allTraktMovies, cached s.values.tmdbCache.value m.ids.tmdb = true ∨
    ∃ run ∈ s.runs, run.cancelled = false ∧ m.ids.tmdb ∈ run.requested

instance (s : Crosswatch) : Decidable s.Enriched :=
  inferInstanceAs (Decidable (∀ m ∈ s.values.allTraktMovies, _ ∨ ∃ run ∈ s.runs, _))

theorem enriched_of_awake {s : Crosswatch} (awake : s.Awake) (quiescent : s.Quiescent)
    (enabled : s.values.enabled = true) : s.Enriched := by
  obtain ⟨grounded, idle, rendered⟩ := quiescent
  have equal := awake.follows.eq_of_sameDeps rendered
  intro m listed
  refine .inl ?_
  rcases awake.wakes idle (equal ▸ enabled) with none | fetching | newer
  · by_contra unknown
    have member : m ∈ s.values.uncached :=
      Values.mem_uncached.mpr ⟨listed, Bool.eq_false_iff.mpr unknown⟩
    rw [equal, none] at member
    cases member
  · obtain ⟨i, run, -, there, flying, -⟩ := fetching
    exact absurd ⟨run, List.mem_of_getElem? there, flying⟩ grounded
  · rw [equal] at newer
    exact absurd newer (Nat.lt_irrefl _)

end Crosswatch

open Crosswatch

/-- **No lost wake-up, unless the effect is skipped.**  In every run in which no effect
with films to fetch finds the flag set: whenever no run is in flight and no effect waits,
with a key and the lists loaded, every listed film is cached or has been requested by a
run that was not cancelled. -/
theorem no_lost_wakeup (v : Values) (actions : List CrosswatchAction) {s : Crosswatch}
    (notSkipped : Guarded.Meets step NotSkipped (mount v) actions)
    (ran : Guarded.steps step (mount v) actions = some s) (quiescent : s.Quiescent)
    (enabled : s.values.enabled = true) : s.Enriched :=
  enriched_of_awake (Guarded.steps_invariant_of awake_step (awake_mount v) notSkipped ran)
    quiescent enabled

/-! ## A film that is never fetched -/

/-- The hook as it mounts, with a key. -/
def mounted : Values := ⟨"key", false, ⟨0, []⟩, ⟨0, []⟩, ⟨0, []⟩⟩

/-- One film on the watchlist arrives and its request is sent. -/
def requested : List CrosswatchAction :=
  [.effect, .change (.watchlist [⟨"", ⟨"Here", 2002, ⟨1, "here", 12, ""⟩⟩⟩]), .render, .effect]

/-- TMDB has the film. -/
def hasFilm : TmdbResponse := .answered 200 (some (.obj [("id", .int 12)]))

/-- The key is edited before the answer comes. -/
def edited : Crosswatch :=
  (Guarded.steps step (mount mounted)
    (requested ++ [.change (.apiKey "key2"), .render, .effect, .answer 0 hasFilm])).getD (mount mounted)

/-- The effect for the new key cancels the run and is skipped; once the run has ended
nothing is left to happen, and the film is neither cached nor requested again. -/
theorem key_edit_loses_wakeup :
    Guarded.steps step (mount mounted)
        (requested ++ [.change (.apiKey "key2"), .render, .effect, .answer 0 hasFilm]) = some edited ∧
      edited.Quiescent ∧ edited.values.enabled = true ∧ ¬ edited.Enriched :=
  ⟨rfl, by decide, by decide, by decide⟩

/-- Without the edit the film is fetched, and the effect runs once more. -/
def fetched : Crosswatch :=
  (Guarded.steps step (mount mounted) (requested ++ [.answer 0 hasFilm, .render, .effect])).getD
    (mount mounted)

theorem no_lost_wakeup_one_film : fetched.Enriched :=
  no_lost_wakeup mounted (requested ++ [.answer 0 hasFilm, .render, .effect]) (by decide) rfl
    (by decide) (by decide)

end VpsDashboard.Frontend
