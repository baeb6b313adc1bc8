import Gatehouse.Config.Validity
import Gatehouse.Gateway.Setup
import Gatehouse.Proofs.Authority.Identity
import Gatehouse.Proofs.Instant.Shift
import Gatehouse.Proofs.Limiter.RetryAfter
import Gatehouse.Proofs.Resilience.Readiness

/-!
Settings without a fault are usable. Each check that a configuration passes is what some subsystem relies on: the
limiter on a quota, breakers on their numbers, the bulkhead on a permit, tasks on their periods, and the issue of
tokens on spans that the calendar takes.
-/
namespace Gatehouse

namespace Config

/-- What the checks ask for. -/
structure Sane (c : Config) : Prop where
  issuer : Text.isAllBlank c.tokens.issuer = false
  validities : c.tokens.accessValidity ≠ .zero ∧ c.tokens.refreshValidity ≠ .zero
  spans : ∀ d ∈ [c.tokens.accessValidity, c.tokens.refreshValidity, c.tokens.clockSkew, c.tokens.retention],
    isCalendarSpan d = true
  intervals : c.tokens.cleanupInterval ≠ .zero ∧ c.rateLimit.cleanupInterval ≠ .zero ∧
    c.keys.rotationInterval ≠ some .zero
  rate : c.rateLimit.requestsPerSecond ≠ 0
  quota : c.rateLimit.algorithm = .slidingWindow → c.rateLimit.quota ≠ 0
  burst : c.rateLimit.algorithm = .tokenBucket → c.rateLimit.burst ≠ 0
  threshold : c.breaker.failureThreshold ≠ 0
  trials : c.breaker.halfOpenLimit ≠ 0
  attempts : c.retry.maxAttempts ≠ 0
  multiplier : c.retry.multiplier.isFinite = true ∧ c.retry.multiplier.lt Binary64.one = false
  permits : c.bulkhead.maxConcurrent ≠ 0

theorem fault?_eq_none_iff {c : Config} : c.fault? = none ↔ c.Sane := by
  have passes : c.fault? = none ↔ ∀ check ∈ c.faults, check.1 = false := by
    simp [fault?]
  rw [passes]
  simp only [faults, Tokens.faults, Keys.faults, RateLimit.faults, Breaker.faults, Retry.faults, Bulkhead.faults,
    List.cons_append, List.nil_append, List.forall_mem_cons, Bool.or_eq_false_iff, Bool.not_eq_false',
    decide_eq_false_iff_not]
  constructor
  · rintro ⟨issuer, validities, access, refresh, skew, retention, cleanup, rotation, rate, quota, burst, forget,
      threshold, trials, attempts, multiplier, permits, -⟩
    refine ⟨issuer, validities, ?_, ⟨cleanup, forget, rotation⟩, rate, ?_, ?_, threshold, trials, attempts, multiplier,
      permits⟩
    · simp [access, refresh, skew, retention]
    · simpa using quota
    · simpa using burst
  · rintro ⟨issuer, validities, spans, ⟨cleanup, forget, rotation⟩, rate, quota, burst, threshold, trials, attempts,
      multiplier, permits⟩
    simp only [List.forall_mem_cons] at spans
    obtain ⟨access, refresh, skew, retention, -⟩ := spans
    refine ⟨issuer, validities, access, refresh, skew, retention, cleanup, rotation, rate, ?_, ?_, forget, threshold,
      trials, attempts, multiplier, permits, fun _ none => absurd none List.not_mem_nil⟩
    · simpa using quota
    · simpa using burst

theorem ofDuration?_of_calendar {d : Duration} (calendar : isCalendarSpan d = true) :
    Span.ofDuration? d = some (.ofDuration d) := by
  have fits : (⟨d.nanos⟩ : Span).inRange = true := by
    simp only [isCalendarSpan, decide_eq_true_eq] at calendar
    have longest : Span.longest.nanos = (maxCalendarMillis * Duration.nanosPerMilli : Nat) := by decide
    simp only [Span.inRange, longest, Bool.and_eq_true, decide_eq_true_eq]
    omega
  simp only [Span.ofDuration, Span.ofDuration?, fits, if_true, Option.getD_some]

def Tokens.validityOf (t : Tokens) (kind : Token.Kind) : Duration :=
  if kind = .refresh then t.refreshValidity else t.accessValidity

def periods (c : Config) : List Duration :=
  [c.rateLimit.cleanupInterval, c.tokens.cleanupInterval] ++ c.keys.rotationInterval.toList

theorem Sane.periods {c : Config} (sane : c.Sane) : ∀ d ∈ c.periods, d ≠ .zero := by
  obtain ⟨cleanup, forget, rotation⟩ := sane.intervals
  intro d member
  rcases List.mem_append.mp member with always | rotates
  · simp only [List.mem_cons, List.not_mem_nil, or_false] at always
    rcases always with rfl | rfl
    · exact forget
    · exact cleanup
  · rintro rfl
    exact rotation (Option.mem_toList.mp rotates)

end Config

namespace Limiter

/-- The limiter of some settings, with a key that it does not know. -/
inductive Unaware (c : Config.RateLimit) (key : String) : Limiter → Prop
  | window {w : Window} (algorithm : c.algorithm = .slidingWindow) (quota : w.quota = c.quota)
    (unknown : key ∉ w.keys.map (·.1)) : Unaware c key (.window w)
  | bucket {b : Bucket} (algorithm : c.algorithm = .tokenBucket) (rate : b.rate = c.requestsPerSecond)
    (burst : b.burst = c.burst) (unknown : key ∉ b.keys.map (·.1)) : Unaware c key (.bucket b)

variable {c : Config.RateLimit} {key : String} {l : Limiter}

theorem unaware_ofConfig (c : Config.RateLimit) (key : String) : Unaware c key (ofConfig c) := by
  unfold ofConfig
  split
  next algorithm => exact .window algorithm rfl List.not_mem_nil
  next algorithm => exact .bucket algorithm rfl rfl List.not_mem_nil

theorem Unaware.step (unaware : Unaware c key l) (now : Moment) {call : Call} (other : call ≠ .allow key) :
    Unaware c key (l.step now call).2 := by
  cases unaware with
  | @window w algorithm quota unknown =>
    cases call with
    | allow asked =>
      have apart : key ≠ asked := fun same => other (same ▸ rfl)
      obtain ⟨e, keys⟩ := w.allow_keys now asked
      simp only [Limiter.step, allow_window]
      refine .window algorithm ((w.allow_quota now asked).trans quota) ?_
      rw [keys]
      exact Keyed.not_mem_keys_put unknown apart e
    | remaining asked => exact .window algorithm quota unknown
    | reset forgotten => exact .window algorithm quota (Keyed.not_mem_keys_filter unknown _)
    | purge idle => exact .window algorithm quota (Keyed.not_mem_keys_filter unknown _)
  | @bucket b algorithm rate burst unknown =>
    cases call with
    | allow asked =>
      have apart : key ≠ asked := fun same => other (same ▸ rfl)
      obtain ⟨rate', burst'⟩ := b.allow_settings now asked
      obtain ⟨e, keys⟩ := b.allow_keys now asked
      simp only [Limiter.step, allow_bucket]
      refine .bucket algorithm (rate'.trans rate) (burst'.trans burst) ?_
      rw [keys]
      exact Keyed.not_mem_keys_put unknown apart e
    | remaining asked => exact .bucket algorithm rate burst unknown
    | reset forgotten => exact .bucket algorithm rate burst (Keyed.not_mem_keys_filter unknown _)
    | purge idle => exact .bucket algorithm rate burst (Keyed.not_mem_keys_filter unknown _)

theorem Unaware.run (unaware : Unaware c key l) {calls : List (Moment × Call)}
    (unasked : ∀ call ∈ calls, call.2 ≠ .allow key) : Unaware c key (l.run calls) := by
  induction calls generalizing l with
  | nil => exact unaware
  | cons call rest ih =>
    obtain ⟨other, later⟩ := List.forall_mem_cons.mp unasked
    exact ih (unaware.step call.1 other) later

theorem Unaware.admits {c : Config} (sane : c.Sane) (rate : c.rateLimit.requestsPerSecond < 2 ^ 32)
    (burst : c.rateLimit.burst < 2 ^ 32) (unaware : Unaware c.rateLimit key l) (now : Moment) :
    (l.allow now key).1 = .ok () := by
  cases unaware with
  | @window w algorithm quota unknown =>
    have forgotten : w.known key = [] := by
      rw [Window.known, Keyed.get?, Keyed.lookup_of_not_mem _ _ unknown]
      rfl
    have some : 0 < w.quota := Nat.pos_of_ne_zero (quota ▸ sane.quota algorithm)
    rw [allow_window, Window.allow_eq, forgotten]
    exact if_pos some
  | @bucket b algorithm sameRate sameBurst unknown =>
    have forgotten : b.keys.get? key = none := by
      rw [Keyed.get?, Keyed.lookup_of_not_mem _ _ unknown]
      rfl
    have working : b.Working := by
      constructor
      · exact Nat.pos_of_ne_zero (sameRate ▸ sane.rate)
      · exact Nat.pos_of_ne_zero (sameBurst ▸ sane.burst algorithm)
      · exact sameRate ▸ rate
      · exact sameBurst ▸ burst
    have whole := Bucket.one_le_unknown working forgotten now
    simp only [allow_bucket]
    exact Bucket.allow_ok (whole.mono (by norm_num)) whole

end Limiter

namespace Authority

/-- A request that names no times. -/
structure Timeless (r : Token.Request) : Prop where
  validity : r.validity = none
  expiresAt : r.expiresAt = none
  notBefore : r.notBefore = none

def idOf (r : Token.Request) (fresh : String) : String := (r.id.filter (· ≠ "")).getD fresh

/-- What can be added to a time can be added to its whole microseconds, and leads to no earlier time. -/
theorem truncated_sum {now finish : Instant} {s : Span} (valid : now.Valid) (forward : 0 ≤ s.nanos)
    (sum : now.add? s = some finish) : ∃ u, now.truncated.add? s = some u ∧ now.truncated ≤ u := by
  rw [Instant.add?_eq_shift valid] at sum
  split at sum
  next inRange =>
    have early := Instant.early_of_forward valid.truncated forward
    have late := Instant.shift_truncated valid forward
    refine ⟨_, ?_, Instant.le_shift valid.truncated forward⟩
    rw [Instant.add?_eq_shift valid.truncated, if_pos]
    simp only [Instant.secondInRange, Bool.and_eq_true, decide_eq_true_eq] at inRange ⊢
    exact ⟨early, Int.le_trans late inRange.2⟩
  next => cases sum

theorem issues {c : Config} (sane : c.Sane) {a : Authority} (own : a.config = c.tokens) {keyId : String}
    (signer : a.keys.signer? = some keyId) (available : a.backend.outages = []) {now finish : Instant}
    (valid : now.Valid) {r : Token.Request} (timeless : Timeless r) (named : Text.isAllBlank r.subject = false)
    {fresh : String} (free : a.store.find? (idOf r fresh) = none)
    (sum : now.add? (.ofDuration (c.tokens.validityOf r.kind)) = some finish) :
    ∃ t b, a.issue now fresh r = .ok (t, b) := by
  have span : Config.isCalendarSpan (c.tokens.validityOf r.kind) = true := by
    unfold Config.Tokens.validityOf
    split
    · exact sane.spans _ (by simp)
    · exact sane.spans _ (by simp)
  have validity : a.defaultValidity r.kind = .ok (.ofDuration (c.tokens.validityOf r.kind)) := by
    have fits := Config.ofDuration?_of_calendar span
    simp only [Config.Tokens.validityOf, ← own] at fits ⊢
    simp only [defaultValidity, fits]
  obtain ⟨expiresAt, sum', later⟩ := truncated_sum valid (Span.ofDuration_nonneg _) sum
  have expires : a.expiryOf now.truncated r = .ok expiresAt := by
    simp only [expiryOf, timeless.validity, timeless.expiresAt, validity, bind, Except.bind, sum']
    rfl
  have drafted : a.draft keyId now fresh r = .ok (a.draftUntil keyId now fresh r expiresAt) := by
    refine draft_eq_ok.mpr ⟨named, expiresAt, expires, rfl, ?_, Instant.not_lt.mpr later⟩
    simp only [draftUntil, timeless.notBefore]
    exact Instant.not_lt.mpr later
  let t := (a.draftUntil keyId now fresh r expiresAt).signWith keyId
  let backend := a.backend.withStore (a.backend.store.put (a.backend.store.marked t))
  have unused : a.backend.store.find? t.id = none := free
  have inserted : a.backend.insert t = .ok backend := by
    simp only [Token.Backend.insert, Token.Backend.attempt, Token.Backend.outage?, available, Token.Store.insert,
      unused]
    rfl
  refine ⟨t, { a with backend }, ?_⟩
  simp only [issue, signer, drafted, bind, Except.bind]
  rw [inserted]
  rfl

end Authority

namespace Gateway

/-- A gateway runs its tasks at the configured periods, but none more often than every millisecond. -/
theorem tasks_of_config {c : Config} {s : Config.KeySource} {drawn : Key} {now : Instant}
    {external : Option Token.Store} {g : Gateway} (built : ofConfig c s drawn now external = .ok g) :
    g.startMaintenance.tasks.map (·.2.ticker.period) = c.periods.map (·.max (.ofMillis 1)) := by
  obtain ⟨authority, made, rest⟩ := bind_ok built
  obtain ⟨policies, -, rest⟩ := bind_ok rest
  cases rest
  obtain ⟨keys, -, rest⟩ := bind_ok (mapError_ok made)
  obtain ⟨store, -, rest⟩ := bind_ok rest
  cases rest
  rw [Config.periods]
  cases c.keys.rotationInterval <;> rfl

end Gateway

namespace Config
open Resilience

/-- What the subsystems do with settings that they can use. -/
structure Usable (c : Config) : Prop where
  /-- The first request for every key is admitted, whatever was asked of the limiter before. -/
  admits : ∀ calls key now, (∀ call ∈ calls, call.2 ≠ .allow key) →
    (((Limiter.ofConfig c.rateLimit).run calls).allow now key).1 = .ok ()
  /-- The first call of a new breaker is admitted. -/
  lets : ∀ start actions, .ask ∉ actions → ((Session.fresh c.breaker start).run actions).Admits
  /-- A breaker that is open has seen a failure. -/
  opens : ∀ start actions, let s := (Session.fresh c.breaker start).run actions
    s.log.circuit = .opened → ∃ m call, (m, .ended call .failure) ∈ s.log
  /-- The first call after a breaker opened is admitted, if that comes when it has cooled down. -/
  cools : ∀ start actions more, let s := (Session.fresh c.breaker start).run actions
    s.log.circuit = .opened → .ask ∉ more →
      (s.log.since start).add c.breaker.resetTimeout ≤ (s.run more).now → (s.run more).Admits
  /-- Retries alone invoke the backend at once unless the context is done. -/
  invokes : ∀ (t : Traffic) call, t.layers = ⟨none, some c.retry, none⟩ → t.errorOf? call = none → t.Invokes call
  /-- When nobody holds a permit, a call gets one at once. -/
  permits : ∀ name retry breaker t call, Traffic.Leads (.ofLayers ⟨some ⟨name, c.bulkhead⟩, retry, breaker⟩) t →
    (∀ q ∈ t.calls, q.1.holdsPermit = false) → t.errorOf? call = none → t.Passable call → t.Invokes call
  /-- No task is to run without a pause. -/
  periods : ∀ d ∈ c.periods, d ≠ .zero
  tasks : ∀ s drawn now external g, Gateway.ofConfig c s drawn now external = .ok g →
    g.startMaintenance.tasks.map (·.2.ticker.period) = c.periods.map (·.max (.ofMillis 1))
  /-- With an active key, a token of any kind is issued at any time to which its validity can be added. -/
  issues : ∀ (a : Authority) keyId now r fresh finish, a.config = c.tokens → a.keys.signer? = some keyId →
    a.backend.outages = [] → now.Valid → Authority.Timeless r → Text.isAllBlank r.subject = false →
    a.store.find? (Authority.idOf r fresh) = none →
    now.add? (.ofDuration (c.tokens.validityOf r.kind)) = some finish → ∃ t b, a.issue now fresh r = .ok (t, b)

/-- Settings in which no fault is found can be used by every subsystem. The two numbers of the token bucket have 32
bits. -/
theorem usable_of_faultless {c : Config} (faultless : c.fault? = none)
    (rate : c.rateLimit.requestsPerSecond < 2 ^ 32) (burst : c.rateLimit.burst < 2 ^ 32) : c.Usable := by
  have sane : c.Sane := fault?_eq_none_iff.mp faultless
  have positive : 1 ≤ c.breaker.failureThreshold := Nat.pos_of_ne_zero sane.threshold
  have limit : 0 < c.breaker.halfOpenLimit := Nat.pos_of_ne_zero sane.trials
  have sound (start : Moment) (actions : List Session.Action) := Session.sound_run c.breaker start positive actions
  constructor
  case admits =>
    intro calls key now unasked
    exact ((Limiter.unaware_ofConfig c.rateLimit key).run unasked).admits sane rate burst now
  case lets =>
    intro start actions unasked
    have idle : Session.Idle (Session.fresh c.breaker start) := ⟨rfl, nofun⟩
    have follows := Session.follows_fresh c.breaker start
    exact (idle.run follows unasked).admits (sound start actions) positive limit
  case opens =>
    intro start actions s opened
    refine ((sound start []).opened_of_failure positive rfl actions).resolve_left fun closed => ?_
    cases closed.symm.trans opened
  case cools =>
    intro start actions more s opened unasked late
    have before := sound start actions
    exact (Session.Rested.run (.inl ⟨opened, rfl⟩) before positive unasked).admits (before.run positive more) positive
      limit late
  case invokes =>
    intro t call layers going
    exact Traffic.invokes_of_start going (Traffic.passable_of_unguarded (by rw [layers]) call) (.inl (by rw [layers]))
  case permits =>
    intro name retry breaker t call leads unheld going passable
    have free : t.free = c.bulkhead.maxConcurrent := Traffic.free_of_unheld leads unheld
    exact Traffic.invokes_of_start going passable (.inr (free ▸ Nat.pos_of_ne_zero sane.permits))
  case periods => exact sane.periods
  case tasks => exact fun _ _ _ _ _ => Gateway.tasks_of_config
  case issues =>
    intro a keyId now r fresh finish own signer available valid timeless named free sum
    exact Authority.issues sane own signer available valid timeless named free sum

def issuer : Authority := .ofParts {} (KeyRing.add {} ⟨"k", "", ""⟩ true ⟨0, 0⟩) {}

/-- The default settings are usable: with them a token is issued in the middle of a leap second. -/
theorem usable_by_default :
    let c : Config := {}
    let now : Instant := ⟨1483228799, 1500000000⟩
    c.fault? = none ∧ c.Usable ∧ ∃ t b, issuer.issue now "x" { subject := "alice" } = .ok (t, b) := by
  intro c now
  have faultless : c.fault? = none := by decide +kernel
  have usable : c.Usable := usable_of_faultless faultless (by decide) (by decide)
  refine ⟨faultless, usable, ?_⟩
  exact usable.issues issuer "k" now { subject := "alice" } "x" ⟨1483232399, 500000000⟩ rfl (by decide +kernel) rfl
    ⟨by decide, by decide, by decide⟩ ⟨rfl, rfl, rfl⟩ (by decide +kernel) (by decide +kernel) (by decide +kernel)

end Config
end Gatehouse
