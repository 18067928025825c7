/-
# VpsDashboard.Server.MetricsInterval — from `METRICS_INTERVAL_SECS` to two tickers

`Load` accepts any number of seconds that is an `int` and at least one.  `main` multiplies
it by a second in `int64` arithmetic and starts two goroutines, each of which makes a ticker
of the product.  From 9223372037 seconds on the product wraps around: to another interval, or
to one that is not positive, where `time.NewTicker` panics and ends the process.

* `main_serves_iff` — main goes on to serve with tickers of the configured interval exactly
  if it is at most 9223372036 seconds.
-/
import VpsDashboard.Server.Auth

namespace VpsDashboard.Server

open Foundation

set_option autoImplicit false

/-! ## The environment -/

/-- `os.Getenv`, empty for a variable that is not set. -/
abbrev Environ := String → String

def getEnv (env : Environ) (key fallback : String) : String :=
  if env key ≠ "" then env key else fallback

/-- A number without a sign, one digit at least. -/
def digitsValue (digits : List Char) : Option Nat :=
  if digits ≠ [] ∧ digits.all Char.isDigit = true then
    some (digits.foldl (fun n c => n * 10 + (c.toNat - 48)) 0)
  else none

/-- `strconv.Atoi` where an `int` has 64 bits; a number out of range is an error. -/
def atoi (s : String) : Option Int :=
  match s.toList with
  | '-' :: digits => (digitsValue digits).bind fun n => if n ≤ 2 ^ 63 then some (-n) else none
  | '+' :: digits => (digitsValue digits).bind fun n => if n < 2 ^ 63 then some n else none
  | digits => (digitsValue digits).bind fun n => if n < 2 ^ 63 then some n else none

def getEnvInt (env : Environ) (key : String) (fallback : Int) : Int :=
  if env key = "" then fallback else (atoi (env key)).getD fallback

/-! ## The configuration -/

/-- All of `config.Config`. -/
structure FullConfig extends Config where
  listenAddr : String
  hostProc : String
  hostSys : String
  metricsIntervalSecs : Int
  autheliaGroupsHeader : String
  traktClientID : String
  traktClientSecret : String
  traktRedirectURI : String
  tmdbAPIKey : String

def load (env : Environ) : Except String FullConfig :=
  let cfg : FullConfig :=
    { appEnv := getEnv env "APP_ENV" "development"
      listenAddr := getEnv env "LISTEN_ADDR" ":8080"
      hostProc := getEnv env "HOST_PROC" "/proc"
      hostSys := getEnv env "HOST_SYS" "/sys"
      metricsIntervalSecs := getEnvInt env "METRICS_INTERVAL_SECS" 2
      dashboardUsername := getEnv env "DASHBOARD_USERNAME" "admin"
      dashboardPasswordHash := env "DASHBOARD_PASSWORD_HASH"
      autheliaUserHeader := getEnv env "AUTHELIA_USER_HEADER" "Remote-User"
      autheliaGroupsHeader := getEnv env "AUTHELIA_GROUPS_HEADER" "Remote-Groups"
      traktClientID := env "TRAKT_CLIENT_ID"
      traktClientSecret := env "TRAKT_CLIENT_SECRET"
      traktRedirectURI := env "TRAKT_REDIRECT_URI"
      tmdbAPIKey := env "TMDB_API_KEY" }
  if cfg.metricsIntervalSecs < 1 then .error "METRICS_INTERVAL_SECS must be >= 1" else .ok cfg

/-- A configuration that `load` accepts. -/
theorem load_eq_ok {env : Environ} {cfg : FullConfig} (accepted : load env = .ok cfg) :
    cfg.metricsIntervalSecs = getEnvInt env "METRICS_INTERVAL_SECS" 2 ∧
      1 ≤ cfg.metricsIntervalSecs := by
  unfold load at accepted
  dsimp only at accepted
  split at accepted
  · cases accepted
  · rename_i atLeast
    obtain rfl := Except.ok.inj accepted
    exact ⟨rfl, Int.not_lt.mp atLeast⟩

/-! ## Tickers -/

structure Ticker where
  interval : Duration
  positive : 0 < interval

/-- `time.NewTicker`, an error where it panics. -/
def newTicker (d : Duration) : Except String Ticker :=
  if positive : 0 < d then .ok ⟨d, positive⟩ else .error "non-positive interval for NewTicker"

/-- `time.Duration(cfg.MetricsIntervalSecs) * time.Second`. -/
def FullConfig.interval (cfg : FullConfig) : Duration :=
  Time.wrap64 (cfg.metricsIntervalSecs * Time.second)

/-- The field of `MetricsBroadcaster` that its `Run` begins with. -/
structure MetricsBroadcaster where
  interval : Duration

/-- What the two `Run` methods do before they wait for the first tick. -/
def runCollector (interval : Duration) : Except String Ticker := newTicker interval

def MetricsBroadcaster.run (b : MetricsBroadcaster) : Except String Ticker := newTicker b.interval

/-- What becomes of the process: a panic in any goroutine ends it. -/
inductive Process where
  | exited (status : Nat) (logged : String)
  | panicked (text : String)
  | serving (collector broadcaster : Ticker)

/-- `main` without `-health`, until both goroutines have their tickers. -/
def main (env : Environ) : Process :=
  match load env with
  | .error err => .exited 1 err
  | .ok cfg =>
      let interval := cfg.interval
      match runCollector interval, MetricsBroadcaster.run ⟨interval⟩ with
      | .ok collector, .ok broadcaster => .serving collector broadcaster
      | .error text, _ => .panicked text
      | _, .error text => .panicked text

/-! ## The interval -/

theorem interval_eq_iff (cfg : FullConfig) :
    cfg.interval = cfg.metricsIntervalSecs * Time.second ↔
      -9223372036 ≤ cfg.metricsIntervalSecs ∧ cfg.metricsIntervalSecs ≤ 9223372036 := by
  rw [FullConfig.interval, Time.wrap64, Time.second]
  constructor
  · intro exact
    have high := Int.bmod_lt (x := cfg.metricsIntervalSecs * 1000000000) (m := 2 ^ 64) (by decide)
    have low := Int.le_bmod (x := cfg.metricsIntervalSecs * 1000000000) (m := 2 ^ 64) (by decide)
    rw [exact] at high low
    omega
  · rintro ⟨low, high⟩
    exact Int.bmod_eq_of_le (by omega) (by omega)

/-- The two goroutines make tickers of one interval, so they panic together. -/
theorem main_eq {env : Environ} {cfg : FullConfig} (accepted : load env = .ok cfg) :
    main env = if positive : 0 < cfg.interval then
        .serving ⟨cfg.interval, positive⟩ ⟨cfg.interval, positive⟩
      else .panicked "non-positive interval for NewTicker" := by
  rw [main, accepted]
  dsimp only
  rw [runCollector, MetricsBroadcaster.run, newTicker]
  by_cases positive : 0 < cfg.interval
  · simp [positive]
  · simp [positive]

/-- **The interval is usable** up to 9223372036 seconds. -/
theorem main_serves_iff {env : Environ} {cfg : FullConfig} (accepted : load env = .ok cfg) :
    (cfg.interval = cfg.metricsIntervalSecs * Time.second ∧ 0 < cfg.interval ∧
        ∃ collector broadcaster, main env = .serving collector broadcaster) ↔
      getEnvInt env "METRICS_INTERVAL_SECS" 2 ≤ 9223372036 := by
  obtain ⟨value, atLeast⟩ := load_eq_ok accepted
  rw [← value]
  constructor
  · rintro ⟨exact, -, -⟩
    exact ((interval_eq_iff cfg).mp exact).2
  · intro small
    have exact := (interval_eq_iff cfg).mpr ⟨by omega, small⟩
    have positive : 0 < cfg.interval := by
      rw [exact]
      exact Int.mul_pos (by omega) (by decide)
    exact ⟨exact, positive, _, _, by rw [main_eq accepted, dif_pos positive]⟩

/-- Only this variable is set. -/
def intervalEnviron (secs : String) : Environ :=
  fun key => if key = "METRICS_INTERVAL_SECS" then secs else ""

theorem main_serves_longest :
    ∃ cfg, load (intervalEnviron "9223372036") = .ok cfg ∧
      cfg.interval = cfg.metricsIntervalSecs * Time.second ∧ 0 < cfg.interval ∧
      ∃ collector broadcaster,
        main (intervalEnviron "9223372036") = .serving collector broadcaster := by
  have accepted : load (intervalEnviron "9223372036") = .ok _ := rfl
  exact ⟨_, accepted, (main_serves_iff accepted).mpr (by decide +kernel)⟩

/-- One second more is accepted and wraps around to a negative interval. -/
theorem main_panics_one_more :
    ∃ cfg, load (intervalEnviron "9223372037") = .ok cfg ∧
      cfg.metricsIntervalSecs = 9223372037 ∧ cfg.interval = -9223372036709551616 ∧
      main (intervalEnviron "9223372037") = .panicked "non-positive interval for NewTicker" := by
  have accepted : load (intervalEnviron "9223372037") = .ok _ := rfl
  refine ⟨_, accepted, by decide +kernel, by decide +kernel, ?_⟩
  rw [main_eq accepted, dif_neg (by decide +kernel)]

end VpsDashboard.Server
