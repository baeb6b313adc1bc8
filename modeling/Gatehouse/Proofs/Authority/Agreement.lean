import Gatehouse.Proofs.Authority.Pruning
import Gatehouse.Token.Printer

/-!
Two ways to validate a token: by its record, and by its bearer value alone, from which the token is read back.
Both come to the same end, except while the clock is between the expiry that the value tells and the exact
one.
-/
namespace Gatehouse.Authority
open Token (Error)

/-- The same record, or errors of one kind. -/
def Alike : Except Error Token → Except Error Token → Prop
  | .ok record, .ok record' => record = record'
  | .error e, .error e' => e.code = e'.code
  | _, _ => False

theorem Alike.refl (x : Except Error Token) : Alike x x := by
  cases x <;> rfl

/-- The new tokens that an answer hands out. -/
def Answer.issues : Answer → List Token
  | issued t _ => [t]
  | rotated rs => rs.filterMap Except.toOption
  | _ => []

/-- A token that an authority drafted and signed at an instant. -/
def Drafted (now : Instant) (t : Token) : Prop :=
  ∃ (a : Authority) (keyId fresh : String) (r : Token.Request) (d : Token),
    a.draft keyId now fresh r = .ok d ∧ t = d.signWith keyId

theorem drafted_of_issue {a b : Authority} {now : Instant} {fresh : String} {r : Token.Request} {t : Token}
    (issued : a.issue now fresh r = .ok (t, b)) : Drafted now t := by
  obtain ⟨⟨keyId, d, -, drafted, signed, -⟩, -⟩ := issue_ok issued
  exact ⟨a, keyId, fresh, r, d, drafted, signed⟩

theorem drafted_of_rotate {a : Authority} {now stamp : Instant} {fresh : String} {old t : Token}
    {r : Token.Request} (rotated : (a.rotate now stamp fresh old r).1 = .ok t) : Drafted now t := by
  unfold rotate at rotated
  split at rotated
  · cases rotated
  · split at rotated
    · cases rotated
    · split at rotated
      · cases rotated
      next issued =>
        split at rotated <;> cases rotated
        exact drafted_of_issue issued

theorem drafted_of_turns {now stamp : Instant} {t : Token} {callers : List (Nat × Rotation)} {l : Locks}
    {a : Authority} (done : .ok t ∈ (takeTurns now stamp callers l a).1) : Drafted now t := by
  induction callers generalizing l a with
  | nil => cases done
  | cons caller rest ih =>
    obtain ⟨number, r⟩ := caller
    by_cases inside : ((l.enter number).inside.any (·.number = number)) = true
    · simp only [takeTurns, inside, if_true] at done
      rcases List.mem_cons.mp done with first | others
      · exact drafted_of_rotate first.symm
      · exact ih others
    · simp only [takeTurns, inside] at done
      exact ih done

theorem issues_of_settle {α : Type} {a : Authority} {r : Except Error (α × Authority)} {form : α → Answer}
    {t : Token} (issues : t ∈ (a.settle r form).1.issues) :
    ∃ x b, r = .ok (x, b) ∧ t ∈ (form x).issues := by
  cases r with
  | error e => cases issues
  | ok result => exact ⟨result.1, result.2, rfl, issues⟩

theorem drafted_of_issues {a : Authority} {o : Outside} {c : Command} {t : Token}
    (issues : t ∈ (a.run o c).1.issues) : Drafted o.now t := by
  cases c with
  | issue r =>
    obtain ⟨u, b, issued, here⟩ := issues_of_settle issues
    obtain rfl := List.mem_singleton.mp here
    exact drafted_of_issue issued
  | rotate old r =>
    simp only [run] at issues
    split at issues
    next u b rotated =>
      obtain rfl := List.mem_singleton.mp issues
      exact drafted_of_rotate (congrArg Prod.fst rotated)
    next => cases issues
  | rotateMany old r n =>
    obtain ⟨result, done, succeeded⟩ := List.mem_filterMap.mp issues
    exact drafted_of_turns (ok_of_toOption succeeded ▸ done)
  | refresh u =>
    obtain ⟨v, b, refreshed, here⟩ := issues_of_settle issues
    obtain rfl := List.mem_singleton.mp here
    obtain ⟨record, -, -, issued⟩ := refresh_ok refreshed
    exact drafted_of_issue issued
  | store d =>
    simp only [run] at issues
    split at issues <;> cases issues
  | pruneKeys | switch _ _ | keys _ => cases issues
  | validate _ _ | authenticate _ _ | revoke _ _ _ | get _ | list _ | count _ | cleanup =>
    obtain ⟨x, b, -, none⟩ := issues_of_settle issues
    cases none

theorem draft_whole {a : Authority} {keyId : String} {now : Instant} {fresh : String} {r : Token.Request}
    {d : Token} (drafted : a.draft keyId now fresh r = .ok d) :
    d.keyId = some keyId ∧ d.notBefore.truncated = d.notBefore := by
  obtain ⟨-, _, -, rfl, -⟩ := draft_eq_ok.mp drafted
  refine ⟨rfl, ?_⟩
  cases given : r.notBefore with
  | none =>
    simp only [draftUntil, given]
    exact now.truncated_truncated
  | some start =>
    simp only [draftUntil, given]
    exact start.truncated_truncated

/-- Times that there are, none of them in a leap second. -/
structure PlainTimes (t : Token) : Prop where
  issued : t.issuedAt.Valid ∧ t.issuedAt.nanos < Instant.nanosPerSecond
  begins : t.notBefore.Valid ∧ t.notBefore.nanos < Instant.nanosPerSecond
  expires : t.expiresAt.Valid ∧ t.expiresAt.nanos < Instant.nanosPerSecond

def lastValid (a : Authority) (expiry : Instant) : Instant :=
  (expiry.add? (.ofDuration a.config.clockSkew)).getD .latest

/-- The token as it is read back from its value: the times lose what is below a microsecond. -/
def reread (t : Token) : Token :=
  { t with
    issuedAt := t.issuedAt.truncated, notBefore := t.notBefore.truncated
    expiresAt := t.expiresAt.truncated, metadata := [], revocation := none }

theorem openWithSome_sign (c : Token.Claims) (now : Instant) (ids : List String) :
    openWithSome (.envelope (.sign c)) now ids = if c.keyId ∈ ids then .ok c else .error .noKey := by
  induction ids with
  | nil => rfl
  | cons id rest ih =>
    by_cases own : c.keyId = id
    · subst own
      simp [openWithSome, Token.Bearer.openWith, Token.Envelope.openWith_sign]
    · have closed : (Token.Envelope.sign c).openWith id now = .error .closed := by
        simp [Token.Envelope.openWith, Token.Envelope.sign, own]
      simp [openWithSome, Token.Bearer.openWith, closed, ih, own]

theorem verify_sign {d : Token} {keyId id : String} {now : Instant} :
    (d.signWith keyId).verify id now = .ok () ↔ id = keyId := by
  refine ⟨signer_of_verify, ?_⟩
  rintro rfl
  have opened : (Token.Bearer.envelope (.sign (d.claims id))).openWith id now = .ok (d.claims id) :=
    Token.Envelope.openWith_sign (d.claims id) now
  have same : (d.signWith id).claims id = d.claims id := rfl
  unfold Token.verify
  rw [same]
  simp only [Token.signWith, opened]
  exact if_pos rfl

theorem ofClaims_plain {t : Token} {keyId : String} {b : Token.Bearer} (own : t.keyId = some keyId)
    (value : t.value = some b) (plain : PlainTimes t) : Token.ofClaims (t.claims keyId) b = .ok (reread t) := by
  have issued := Instant.ofMicros?_plain plain.issued.1 plain.issued.2
  have begins := Instant.ofMicros?_plain plain.begins.1 plain.begins.2
  have expires := Instant.ofMicros?_plain plain.expires.1 plain.expires.2
  simp only [Token.ofClaims, Token.claims, issued, begins, expires, reread, own, value]

def checkRest (a : Authority) (t : Token) (r : Requirement) : Except Error Token := do
  a.checkParties t
  a.checkScopes t r
  a.checkRevocation t

theorem checkTime_eq (a : Authority) (t : Token) (now : Instant) :
    a.checkTime t now =
      if now < (t.notBefore.sub? (.ofDuration a.config.clockSkew)).getD .earliest then
        .error (.notYetValid t.notBefore)
      else if a.lastValid t.expiresAt < now then .error (.expired t.expiresAt) else .ok () := rfl

theorem checkClaims_eq (a : Authority) (t : Token) (r : Requirement) (now : Instant) :
    a.checkClaims t r now =
      if now < (t.notBefore.sub? (.ofDuration a.config.clockSkew)).getD .earliest then
        .error (.notYetValid t.notBefore)
      else if a.lastValid t.expiresAt < now then .error (.expired t.expiresAt)
      else a.checkRest t r := by
  unfold checkClaims
  rw [checkTime_eq]
  split
  · rfl
  · split <;> rfl

theorem checkParties_error {a : Authority} {t : Token} {e : Error} (failed : a.checkParties t = .error e) :
    e = .issuer t.issuer ∨ e = .audience t.audience := by
  unfold checkParties at failed
  split at failed
  · exact .inl (Except.error.inj failed).symm
  · split at failed
    · exact .inr (Except.error.inj failed).symm
    · cases failed

theorem checkScopes_error {a : Authority} {t : Token} {r : Requirement} {e : Error}
    (failed : a.checkScopes t r = .error e) : e = .scope r.scopes := by
  unfold checkScopes at failed
  split at failed
  · cases failed
  · exact (Except.error.inj failed).symm

theorem checkRevocation_error {a : Authority} {t : Token} {e : Error}
    (failed : a.checkRevocation t = .error e) : e = .revoked t.id ∨ ∃ f, e = .store f := by
  unfold checkRevocation at failed
  cases presented : t.isRevoked with
  | true =>
    simp only [presented, if_true] at failed
    exact .inl (Except.error.inj failed).symm
  | false =>
    simp only [presented] at failed
    rcases bind_error failed with listed | ⟨listed, -, rest⟩
    · obtain ⟨f, -, rfl⟩ := mapError_error listed
      exact .inr ⟨f, rfl⟩
    · cases listed with
      | true => exact .inl (Except.error.inj rest).symm
      | false =>
        simp only [Bool.false_eq_true, if_false] at rest
        split at rest
        · split at rest
          · exact .inl (Except.error.inj rest).symm
          · cases rest
        · exact .inl (Except.error.inj rest).symm
        · exact .inr ⟨_, (Except.error.inj rest).symm⟩

theorem code_of_checkRest {a : Authority} {t : Token} {r : Requirement} {e : Error}
    (failed : a.checkRest t r = .error e) : e.code ≠ "TokenExpired" := by
  rcases bind_error failed with parties | ⟨_, -, rest⟩
  · rcases checkParties_error parties with rfl | rfl <;> simp [Error.code]
  · rcases bind_error rest with scopes | ⟨_, -, revocation⟩
    · rw [checkScopes_error scopes]
      simp [Error.code]
    · rcases checkRevocation_error revocation with rfl | ⟨f, rfl⟩
      · simp [Error.code]
      · cases f <;> simp [Error.code, Token.StoreError.code]

/-- The token is in time only by what its expiry has below a microsecond. -/
def Lingers (a : Authority) (t : Token) (now : Instant) : Prop :=
  a.checkTime t now = .ok () ∧ a.lastValid t.expiresAt.truncated < now

/-- Past the signature the two ways differ in the time of expiry only. -/
theorem checkClaims_reread {a : Authority} {t : Token} (plain : PlainTimes t) (live : t.revocation = none)
    (whole : t.notBefore.truncated = t.notBefore) (r : Requirement) (now : Instant) :
    Alike (a.checkClaims t r now) (a.checkClaims (reread t) r now) ↔ ¬ a.Lingers t now := by
  have rest : a.checkRest (reread t) r = a.checkRest t r := by
    have presented : (reread t).isRevoked = t.isRevoked := congrArg Option.isSome live.symm
    have own : (reread t).id = t.id := rfl
    have revocation : a.checkRevocation (reread t) = a.checkRevocation t := by
      unfold checkRevocation
      rw [presented, own]
    unfold checkRest
    rw [revocation]
    rfl
  have begins : (reread t).notBefore = t.notBefore := whole
  have expires : (reread t).expiresAt = t.expiresAt.truncated := rfl
  have sooner : a.lastValid t.expiresAt.truncated ≤ a.lastValid t.expiresAt :=
    Instant.getD_add?_mono plain.expires.1.truncated
      (Nat.lt_of_le_of_lt (Nat.sub_le ..) plain.expires.2) plain.expires.2 t.expiresAt.truncated_le
      (Span.ofDuration_nonneg _)
  rw [checkClaims_eq, checkClaims_eq, begins, expires, rest, Lingers, checkTime_eq]
  split
  next => exact iff_of_true rfl fun lingers => absurd lingers.1 nofun
  next =>
    by_cases late : a.lastValid t.expiresAt < now
    · have late' := Instant.lt_of_le_of_lt sooner late
      rw [if_pos late, if_pos late', if_pos late]
      exact iff_of_true rfl fun lingers => absurd lingers.1 nofun
    · rw [if_neg late, if_neg late]
      by_cases late' : a.lastValid t.expiresAt.truncated < now
      · rw [if_pos late']
        refine iff_of_false ?_ fun none => none ⟨rfl, late'⟩
        cases outcome : a.checkRest t r with
        | ok record => exact id
        | error e => exact code_of_checkRest outcome
      · rw [if_neg late']
        exact iff_of_true (.refl _) fun lingers => late' lingers.2

section
variable {d : Token} {keyId : String} (a : Authority) (now : Instant) (r : Requirement)

/-- By its record a signed token is validated if the key that signed it is on the ring. -/
theorem validate_sign :
    a.validate now (d.signWith keyId) r = a.checkClaims (d.signWith keyId) r now ∧ keyId ∈ a.keys.ids ∨
    (∃ fault, a.validate now (d.signWith keyId) r = .error (.signature fault)) ∧ keyId ∉ a.keys.ids := by
  by_cases there : keyId ∈ a.keys.ids
  · obtain ⟨k, member, rfl⟩ := KeyRing.mem_ids.mp there
    exact .inl ⟨validate_signed member (verify_sign.mpr rfl) r, there⟩
  · refine .inr ⟨?_, there⟩
    cases signed : a.checkSignature (d.signWith keyId) now with
    | ok _ =>
      obtain ⟨k, member, verified⟩ := checkSignature_ok.mp signed
      exact absurd (KeyRing.mem_ids.mpr ⟨k, member, verify_sign.mp verified⟩) there
    | error e =>
      obtain ⟨fault, -, rfl⟩ := mapError_error signed
      refine ⟨fault, ?_⟩
      unfold validate
      rw [signed]
      rfl

/-- By its value it is so too, as the token that is read back. -/
theorem authenticate_sign (own : d.keyId = some keyId) (plain : PlainTimes (d.signWith keyId)) :
    a.authenticate now (.envelope (.sign (d.claims keyId))) r =
      if keyId ∈ a.keys.ids then a.checkClaims (reread (d.signWith keyId)) r now
      else .error (.signature .noKey) := by
  have same : (d.claims keyId).keyId = keyId := rfl
  have read : Token.ofClaims (d.claims keyId) (.envelope (.sign (d.claims keyId))) =
      .ok (reread (d.signWith keyId)) := ofClaims_plain (t := d.signWith keyId) own rfl plain
  have verifiers : a.keys.verifiers none = a.keys.ids := rfl
  unfold authenticate tokenOf
  rw [verifiers, openWithSome_sign, same]
  by_cases there : keyId ∈ a.keys.ids
  · simp only [there, if_true, read]
    rfl
  · simp only [there, if_false]
    rfl

end

/-- The two ways to validate a token that was handed out come to the same end, whatever became of the keys, the
records and the clock since; except that the record of a token may be accepted when its value is not any more,
while the token is in time only by what its expiry has below a microsecond. No expiry in whole microseconds has
such a time. All this holds outside leap seconds. -/
theorem record_and_value_validate_alike (b : Authority) (o : Outside) (c : Command) (t : Token)
    (issues : t ∈ (b.run o c).1.issues) (plain : PlainTimes t) :
    ∃ value keyId, t.value = some value ∧ t.keyId = some keyId ∧ ∀ (a : Authority) now r,
      (Alike (a.validate now t r) (a.authenticate now value r) ↔
        ¬ (keyId ∈ a.keys.ids ∧ a.Lingers t now)) ∧
      (t.expiresAt.truncated = t.expiresAt → ¬ a.Lingers t now) := by
  obtain ⟨a₀, keyId, fresh, q, d, drafted, rfl⟩ := drafted_of_issues issues
  obtain ⟨own, whole⟩ := draft_whole drafted
  have live : (d.signWith keyId).revocation = none := (draft_ok drafted).1
  refine ⟨.envelope (.sign (d.claims keyId)), keyId, rfl, own, fun a now r => ⟨?_, ?_⟩⟩
  · rw [authenticate_sign a now r own plain]
    rcases validate_sign a now r with ⟨validated, there⟩ | ⟨⟨fault, refused⟩, gone⟩
    · rw [validated, if_pos there]
      exact (checkClaims_reread plain live whole r now).trans
        (not_congr ⟨fun lingers => ⟨there, lingers⟩, And.right⟩)
    · rw [refused, if_neg gone]
      exact iff_of_true rfl fun lingers => gone lingers.1
  · rintro exact' ⟨inTime, past⟩
    rw [exact'] at past
    exact checkTime_ok inTime past

namespace Lingering
open Sample

def request (expiresAt : Option Instant) : Token.Request := { id := some "x", subject := "alice", expiresAt }

def token (expiresAt : Instant) : Token := Sample.token .access ⟨0, 0⟩ expiresAt

def value (expiresAt : Instant) : Token.Bearer := .envelope (.sign ((token expiresAt).claims "k"))

/-- An authority whose tokens by default are valid for a second and half a microsecond. -/
def precise : Authority := Sample.start { accessValidity := ⟨1000000500⟩, clockSkew := .zero }

/-- In the last half of a microsecond a token is accepted by its record and refused by its value. If it expires in
a leap second it is the other way round after that second. -/
theorem record_outlasts_value :
    let o := outside ⟨0, 0⟩
    let issued := precise.run o (.issue (request none))
    let leap : Instant := ⟨59, 1500000000⟩
    let issued' := precise.run o (.issue (request (some leap)))
    Config.fault? { tokens := precise.config } = none ∧
    token ⟨1, 500⟩ ∈ issued.1.issues ∧
    issued.2.validate ⟨1, 200⟩ (token ⟨1, 500⟩) {} = .ok (token ⟨1, 500⟩) ∧
    issued.2.authenticate ⟨1, 200⟩ (value ⟨1, 500⟩) {} = .error (.expired ⟨1, 0⟩) ∧
    token leap ∈ issued'.1.issues ∧
    issued'.2.validate ⟨60, 250000000⟩ (token leap) {} = .error (.expired leap) ∧
    issued'.2.authenticate ⟨60, 250000000⟩ (value leap) {} = .ok (token leap) := by
  decide +kernel

/-- Before that both are accepted. -/
theorem record_and_value_accepted :
    let o := outside ⟨0, 0⟩
    let issued := precise.run o (.issue (request none))
    token ⟨1, 500⟩ ∈ issued.1.issues ∧
    Alike (issued.2.validate ⟨1, 0⟩ (token ⟨1, 500⟩) {}) (issued.2.authenticate ⟨1, 0⟩ (value ⟨1, 500⟩) {}) := by
  intro o issued
  have given : token ⟨1, 500⟩ ∈ issued.1.issues := by decide +kernel
  have plain : PlainTimes (token ⟨1, 500⟩) :=
    ⟨⟨⟨by decide, by decide, by decide⟩, by decide⟩, ⟨⟨by decide, by decide, by decide⟩, by decide⟩,
      ⟨⟨by decide, by decide, by decide⟩, by decide⟩⟩
  obtain ⟨v, keyId, shown, own, alike⟩ :=
    record_and_value_validate_alike precise o (.issue (request none)) (token ⟨1, 500⟩) given plain
  obtain rfl : value ⟨1, 500⟩ = v := Option.some.inj shown
  refine ⟨given, (alike issued.2 ⟨1, 0⟩ {}).1.mpr fun lingers => ?_⟩
  have past : ¬ issued.2.lastValid (token ⟨1, 500⟩).expiresAt.truncated < ⟨1, 0⟩ := by decide +kernel
  exact past lingers.2.2

end Lingering

end Gatehouse.Authority
