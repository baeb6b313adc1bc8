import Gatehouse.Config.Validity
import Gatehouse.Proofs.Authority.Runs
import Gatehouse.Proofs.Token.Revocation

/-!
Cleaning up and validating. A cleanup removes the records of tokens that expired longer ago than records are
kept, and a token is valid for the skew of clocks after it expired. If records are kept as long as the skew a
cleanup makes no difference to what is valid.
-/
namespace Gatehouse.Authority

theorem validate_of_backend {a : Authority} {now : Instant} {t record : Token} {r : Requirement}
    (valid : a.validate now t r = .ok record) {backend : Token.Backend}
    (passed : ({ a with backend } : Authority).checkRevocation t = .ok record) :
    ({ a with backend } : Authority).validate now t r = .ok record := by
  obtain ⟨signed, claims⟩ := validate_ok valid
  obtain ⟨_, inTime, rest⟩ := bind_ok claims
  obtain ⟨_, parties, rest⟩ := bind_ok rest
  obtain ⟨_, scopes, -⟩ := bind_ok rest
  have signed' : ({ a with backend } : Authority).checkSignature t now = .ok () := signed
  have inTime' : ({ a with backend } : Authority).checkTime t now = .ok () := inTime
  have parties' : ({ a with backend } : Authority).checkParties t = .ok () := parties
  have scopes' : ({ a with backend } : Authority).checkScopes t r = .ok () := scopes
  unfold validate checkClaims
  rw [signed', inTime', parties', scopes']
  exact passed

section
open Token

theorem checkRevocation_cleaned {a : Authority} {t record : Token} (passed : a.checkRevocation t = .ok record)
    {before : Instant} (kept : before ≤ record.expiresAt) :
    ({ a with backend := a.backend.withStore (a.store.cleanup before).2 } : Authority).checkRevocation t =
      .ok record := by
  obtain ⟨presented, listed, found, live⟩ := checkRevocation_eq_ok.mp passed
  obtain ⟨listing, unlisted⟩ := attempt_eq_ok.mp listed
  obtain ⟨getting, -⟩ := attempt_eq_ok.mp found
  have still : (a.store.cleanup before).2.find? t.id = some record :=
    Store.find?_filter_of_kept (checkRevocation_ok passed).1 (by simpa using kept)
  have unlisted' : (a.store.cleanup before).2.isRevoked t.id = false := by
    refine Bool.eq_false_iff.mpr fun revoked => ?_
    rcases Store.isRevoked_iff.mp revoked with entry | ⟨r, there, isRevoked⟩
    · obtain ⟨b, member, own⟩ := Store.entryOf?_isSome.mp entry
      have before := Store.entryOf?_isSome.mpr ⟨b, (List.mem_filter.mp member).1, own⟩
      have was : a.store.isRevoked t.id = true := Store.isRevoked_iff.mpr (.inl before)
      exact absurd (was.symm.trans (Except.ok.inj unlisted)) nofun
    · rw [still] at there
      cases there
      exact absurd (isRevoked.symm.trans live) nofun
  have read : (a.store.cleanup before).2.get t.id = .ok record := by
    simp only [Store.get, still]
  exact checkRevocation_eq_ok.mpr ⟨presented, attempt_eq_ok.mpr ⟨listing, congrArg _ unlisted'⟩,
    attempt_eq_ok.mpr ⟨getting, read⟩, live⟩

end

theorem run_cleanup (a : Authority) (o : Outside) :
    (a.run o .cleanup).2 = a ∨ ∃ before, o.now.sub? a.retention = some before ∧
      (a.run o .cleanup).2 = { a with backend := a.backend.withStore (a.store.cleanup before).2 } := by
  simp only [run, cleanup]
  cases cut : o.now.sub? a.retention with
  | none => exact .inl rfl
  | some before =>
    simp only [Token.Backend.cleanup, Token.Backend.attempt]
    by_cases refuses : a.backend.outage? .cleanup = some .refuses
    · simp only [refuses, if_true]
      exact .inl rfl
    · simp only [refuses, if_false]
      exact .inr ⟨before, rfl, rfl⟩

/-- A token is out of time when a cleanup removes its record. -/
theorem not_inTime_of_cut {a : Authority} {t : Token} {now before later : Instant} (there : t.expiresAt.Valid)
    (keeps : Keeps a.config now.leap) (cut : now.sub? a.retention = some before) (old : t.expiresAt < before)
    (past : now ≤ later) : a.checkTime t later ≠ .ok () := fun inTime =>
  checkTime_ok inTime (Instant.lt_of_lt_of_le
    (Instant.ended_of_cut there (Span.ofDuration_nonneg _) keeps cut old) past)

/-- A cleanup spares the record of a token that is in time. -/
theorem validate_cleaned {a : Authority} {o : Outside} {t record : Token} {r : Requirement}
    (valid : a.validate o.now t r = .ok record) (there : t.expiresAt.Valid)
    (keeps : Keeps a.config o.now.leap) (same : record.expiresAt = t.expiresAt) :
    (a.run o .cleanup).2.validate o.now t r = .ok record := by
  rcases run_cleanup a o with untouched | ⟨before, cut, cleaned⟩
  · rw [untouched]
    exact valid
  · have claims := (validate_ok valid).2
    obtain ⟨_, inTime, -⟩ := bind_ok claims
    have kept : before ≤ record.expiresAt := by
      rw [same]
      exact Instant.le_of_not_lt fun old =>
        not_inTime_of_cut there keeps cut old (Instant.le_refl _) inTime
    rw [cleaned]
    exact validate_of_backend valid (checkRevocation_cleaned (checkClaims_ok claims) kept)

/-- If only cleanups remove records a token that is in time is the last one that was issued under its id. -/
theorem lastIssued_of_inTime {start : Authority} (works : start.backend.outages = [])
    {commands : List (Outside × Command)} (own : ∀ d ∈ commands, d.2.isOwn = true) {m : Instant}
    {fresh : String} {q : Token.Request} {t : Token} (issued : .issued m fresh q t ∈ start.history commands)
    (there : t.expiresAt.Valid) {now : Instant}
    (keeps : ∀ d ∈ commands, d.1.now ≤ now ∧ Keeps start.config d.1.now.leap)
    (inTime : (start.perform commands).checkTime t now = .ok ()) :
    lastIssued (start.history commands) t.id = some t := by
  have direct := fun d member => Command.bypasses_of_isOwn (own d member)
  have kept : ∀ e ∈ start.history commands, ¬ e.Removes t := by
    intro e member removes
    obtain ⟨d, at', -, before, cut, old⟩ := cleaned_of_removes works own member removes
    obtain ⟨past, keeps⟩ := keeps d at'
    rw [← perform_retention start direct] at cut
    rw [← perform_config start direct] at keeps
    exact not_inTime_of_cut there keeps cut old past inTime
  have explains := explains_history start direct
  obtain ⟨earlier, later, split⟩ := List.append_of_mem issued
  rw [split] at explains kept ⊢
  exact lastIssued_of_kept explains fun e member => kept e (by simp [member])

/-- A cleanup changes no outcome. In every run, if records are kept as long as the skew of clocks, a token that
is valid right before a cleanup is so right after, and stands for the same record; unless another token was
issued under its id since, for which records have to be deleted or the clock has to go back. -/
theorem cleanup_changes_no_outcome (config : Config.Tokens) (keys : KeyRing)
    (commands : List (Outside × Command)) (direct : ∀ c ∈ commands, c.2.bypasses = false) :
    let start := ofParts config keys {}
    let h := start.history commands
    let a := start.perform commands
    ∀ m fresh q t, .issued m fresh q t ∈ h → t.expiresAt.Valid → ∀ o, Keeps config o.now.leap →
      (lastIssued h t.id = some t ∨
        ∀ d ∈ commands, d.2.isOwn = true ∧ d.1.now ≤ o.now ∧ Keeps config d.1.now.leap) →
      ∀ req record, a.validate o.now t req = .ok record →
        (a.run o .cleanup).2.validate o.now t req = .ok record := by
  intro start h a m fresh q t issued there o keeps last req record valid
  have explains : Explains start h a := explains_history start direct
  have recorded : Recorded h a := by
    simpa using (recorded_new config keys).explained explains
  have claims := (validate_ok valid).2
  obtain ⟨_, inTime, -⟩ := bind_ok claims
  have newest : lastIssued h t.id = some t := by
    rcases last with newest | steady
    · exact newest
    · exact lastIssued_of_inTime rfl (fun d member => (steady d member).1) issued there
        (fun d member => (steady d member).2) inTime
  have same : record.expiresAt = t.expiresAt := by
    obtain ⟨member, own⟩ := Token.Store.mem_of_find? (checkRevocation_ok (checkClaims_ok claims)).1
    obtain ⟨u, last, -, whole⟩ := recorded.last record member
    rw [own, newest] at last
    cases last
    rw [whole]
  have config' : a.config = config := explains.config
  exact validate_cleaned valid there (config' ▸ keeps) same

namespace Skewed
open Sample

def request : Token.Request := { id := some "x", subject := "alice" }

def token : Token := Sample.token .access ⟨0, 0⟩ ⟨3600, 0⟩

/-- Where records are not kept at all a token is cut off within the skew of clocks. -/
theorem cleanup_cuts_off :
    let config : Config.Tokens := { retention := .zero }
    let commands := [(outside ⟨0, 0⟩, .issue request)]
    let a := (start config).perform commands
    let o := outside ⟨3660, 0⟩
    Config.fault? { tokens := config } = none ∧
    (start config).history commands = [.issued ⟨0, 0⟩ "drawn" request token] ∧
    a.validate o.now token {} = .ok token ∧
    ((a.run o .cleanup).2.validate o.now token {}).toOption = none :=
  ⟨by decide +kernel, by decide +kernel, ok_of_toOption (by decide +kernel), by decide +kernel⟩

/-- Where they are kept just as long as the skew it stays valid up to its very end. -/
theorem cleanup_at_end_of_skew :
    let config : Config.Tokens := { retention := .ofSeconds 120 }
    let commands := [(outside ⟨0, 0⟩, .issue request), (outside ⟨3700, 0⟩, .cleanup)]
    let a := (start config).perform commands
    let o := outside ⟨3720, 0⟩
    a.validate o.now token {} = .ok token ∧ (a.run o .cleanup).2.validate o.now token {} = .ok token := by
  intro config commands a o
  have effects : (start config).history commands =
      [.issued ⟨0, 0⟩ "drawn" request token, .cleaned ⟨3580, 0⟩] := by decide +kernel
  have issued : .issued ⟨0, 0⟩ "drawn" request token ∈ (start config).history commands := by
    rw [effects]
    exact List.mem_cons_self
  have valid : a.validate o.now token {} = .ok token := ok_of_toOption (by decide +kernel)
  have keeps : ∀ second, Keeps config (Instant.leap ⟨second, 0⟩) := by
    intro second
    have plain : Instant.leap ⟨second, 0⟩ = 0 := Instant.leap_of_plain (Nat.zero_lt_succ _)
    rw [plain]
    exact keeps_of_le (by decide)
  have steady : ∀ d ∈ commands, d.2.isOwn = true ∧ d.1.now ≤ o.now ∧ Keeps config d.1.now.leap := by
    intro d member
    simp only [commands, List.mem_cons, List.not_mem_nil, or_false] at member
    rcases member with rfl | rfl
    · exact ⟨rfl, by decide, keeps 0⟩
    · exact ⟨rfl, by decide, keeps 3700⟩
  exact ⟨valid, cleanup_changes_no_outcome config oneKey commands (by decide) _ _ _ _ issued
    ⟨by decide, by decide, by decide⟩ o (keeps 3720) (.inr steady) {} token valid⟩

end Skewed

end Gatehouse.Authority
