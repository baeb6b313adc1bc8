import Gatehouse.Proofs.Authority.Runs
import Gatehouse.Proofs.Json.Entries

/-!
Rotation replaces a token or does nothing. The new record is stored before the old one is revoked, so a store that
refuses to revoke makes the authority take the new record back; that leaves everything as it was. It works since no
revocation is remembered for an id without a record, and no record lacks scopes that it would be given.
-/
namespace Gatehouse.Authority
open Token (Error)

/-- A command of the authority itself, or the beginning or end of an outage in which the store refuses to revoke. -/
def Command.refusesAtMost : Command → Bool
  | .switch .revoke (some .ignores) => false
  | .switch .revoke _ => true
  | c => c.isOwn

/-- No record lacks scopes that it would be given. -/
def Filled (a : Authority) : Prop :=
  ∀ t ∈ a.store.records, t.scopes = [] → Text.Ordered.ofList a.config.defaultScopes = []

/-- Nothing in the store is in the way of a new token. -/
structure Intact (a : Authority) : Prop where
  refusals : ∀ o ∈ a.backend.outages, o = (.revoke, .refuses)
  remembered : ∀ b ∈ a.store.blacklist, ∃ t, a.store.find? b.id = some t ∧ t.isRevoked = true ∧
    t.expiresAt = b.expiresAt
  filled : ∀ t ∈ a.store.records, t.scopes = [] → Text.Ordered.ofList a.config.defaultScopes = []

theorem intact_new (config : Config.Tokens) (keys : KeyRing) : Intact (ofParts config keys {}) :=
  ⟨fun _ none => absurd none List.not_mem_nil, fun _ none => absurd none List.not_mem_nil,
    fun _ none => absurd none List.not_mem_nil⟩

/-- Effects that leave an authority intact. Deleting a record would leave its revocation behind. -/
def Effect.Harmless : Effect → Prop
  | deleted _ => False
  | switched op mode => op = .revoke ∧ mode ≠ some .ignores
  | _ => True

/-- What a draft takes from its request and from the configuration. -/
structure Drawn (a : Authority) (r : Token.Request) (d : Token) : Prop where
  subject : d.subject = r.subject
  issuer : d.issuer = r.issuer.getD a.config.issuer
  audience : d.audience = r.audience
  scopes : d.scopes = if r.scopes.isEmpty then Text.Ordered.ofList a.config.defaultScopes else r.scopes
  metadata : d.metadata = r.metadata
  revocation : d.revocation = none

theorem drawn_of_draft {a : Authority} {keyId : String} {now : Instant} {fresh : String} {r : Token.Request}
    {d : Token} (drafted : a.draft keyId now fresh r = .ok d) : Drawn a r d := by
  obtain ⟨-, _, -, rfl, -⟩ := draft_eq_ok.mp drafted
  exact ⟨rfl, rfl, rfl, rfl, rfl, rfl⟩

theorem Filled.apply {a : Authority} (filled : Filled a) {e : Effect} (allowed : e.Allowed a) :
    Filled (e.apply a) := by
  intro q member bare
  rw [e.apply_config]
  cases e with
  | issued now fresh r t =>
    obtain ⟨keyId, d, -, drafted, rfl, -⟩ := allowed
    rcases Token.Store.mem_put.mp member with rfl | ⟨old, -⟩
    · have scopes : d.scopes = [] := bare
      rw [(drawn_of_draft drafted).scopes] at scopes
      split at scopes
      · exact scopes
      next given => exact absurd (List.isEmpty_iff.mpr scopes) given
    · exact filled q old bare
  | revoked id status =>
    obtain ⟨t, found, -⟩ := allowed
    simp only [Effect.apply, found] at member
    rcases Token.Store.mem_put.mp (Token.Store.mem_remember.mp member) with rfl | ⟨old, -⟩
    · exact filled t (Token.Store.mem_of_find? found).1 bare
    · exact filled q old bare
  | deleted id => exact filled q (List.mem_filter.mp member).1 bare
  | cleaned before => exact filled q (List.mem_filter.mp member).1 bare
  | keys now c => exact filled q member bare
  | switched op mode => exact filled q member bare

theorem defaultValidity_error {a : Authority} {kind : Token.Kind} {e : Error}
    (failed : a.defaultValidity kind = .error e) : ∃ f, e = .claims f := by
  unfold defaultValidity at failed
  simp only at failed
  split at failed <;> cases failed
  exact ⟨_, rfl⟩

theorem expiryOf_error {a : Authority} {now : Instant} {r : Token.Request} {e : Error}
    (failed : a.expiryOf now r = .error e) : ∃ f, e = .claims f := by
  unfold expiryOf at failed
  simp only at failed
  split at failed
  · split at failed
    · cases failed
    · rcases bind_error failed with unfit | ⟨validity, -, rest⟩
      · cases unfit
      · split at rest <;> cases rest
        exact ⟨_, rfl⟩
  · rcases bind_error failed with unfit | ⟨validity, -, rest⟩
    · exact defaultValidity_error unfit
    · split at rest
      · cases rest
      · split at rest <;> cases rest
        exact ⟨_, rfl⟩

theorem draft_error {a : Authority} {keyId : String} {now : Instant} {fresh : String} {r : Token.Request}
    {e : Error} (failed : a.draft keyId now fresh r = .error e) : ∃ f, e = .claims f := by
  unfold draft at failed
  simp only at failed
  split at failed
  · cases failed
    exact ⟨_, rfl⟩
  · rcases bind_error failed with unfit | ⟨_, -, rest⟩
    · exact expiryOf_error unfit
    · split at rest
      · cases rest
        exact ⟨_, rfl⟩
      · split at rest <;> cases rest
        exact ⟨_, rfl⟩

theorem issue_error {a : Authority} {now : Instant} {fresh : String} {r : Token.Request} {e : Error}
    (failed : a.issue now fresh r = .error e) :
    (∃ f, e = .signing f) ∨ (∃ f, e = .claims f) ∨ ∃ f, e = .store f := by
  unfold issue at failed
  split at failed
  next keyId _ =>
    rcases bind_error failed with unfit | ⟨d, -, rest⟩
    · exact .inr (.inl (draft_error unfit))
    · simp only at rest
      split at rest <;> cases rest
      · exact .inr (.inl ⟨_, rfl⟩)
      · exact .inr (.inr ⟨_, rfl⟩)
  · cases failed
    exact .inl ⟨_, rfl⟩

def exchanged (s : Token.Store) (record n : Token) (status : Token.Revocation) : Token.Store :=
  ((s.put n).put { record with revocation := some status }).remember ⟨record.id, status, record.expiresAt⟩

section
variable {s : Token.Store} {record n : Token} (status : Token.Revocation)

theorem find?_exchanged (id : String) : (exchanged s record n status).find? id =
    if id = record.id then some { record with revocation := some status }
    else if id = n.id then some n else s.find? id := by
  rw [exchanged, Token.Store.find?_remember, Token.Store.find?_put, Token.Store.find?_put]

theorem blacklist_exchanged (unlisted : s.blacklisted? record.id = none) :
    (exchanged s record n status).blacklist = s.blacklist ++ [⟨record.id, status, record.expiresAt⟩] := by
  have same : ((s.put n).put { record with revocation := some status }).blacklisted? record.id = none := by
    rw [← unlisted]
    simp only [Token.Store.blacklisted?, Token.Store.blacklist_put]
  rw [exchanged, Token.Store.remember, same]
  simp only [Option.isSome_none, Bool.false_eq_true, if_false, Token.Store.blacklist_put]

theorem ids_exchanged (known : s.find? record.id = some record) (free : s.find? n.id = none) :
    (exchanged s record n status).records.map (·.id) = s.records.map (·.id) ++ [n.id] := by
  have still : ∃ t, (s.put n).find? record.id = some t := by
    rw [Token.Store.find?_put]
    split
    · exact ⟨n, rfl⟩
    · exact ⟨record, known⟩
  obtain ⟨t, still⟩ := still
  calc (exchanged s record n status).records.map (·.id)
    _ = ((s.put n).put { record with revocation := some status }).records.map (·.id) := by
        rw [exchanged, Token.Store.records_remember]
    _ = (s.put n).records.map (·.id) := Token.Store.ids_put still
    _ = s.records.map (·.id) ++ [n.id] := Token.Store.ids_put_new free

theorem isRevoked_exchanged (apart : n.id ≠ record.id) (unlisted : s.blacklisted? record.id = none)
    (unlisted' : s.blacklisted? n.id = none) (live : n.revocation = none) :
    (exchanged s record n status).isRevoked n.id = false := by
  have found : (exchanged s record n status).find? n.id = some n := by
    rw [find?_exchanged, if_neg apart, if_pos rfl]
  have listed : (exchanged s record n status).blacklisted? n.id = none := by
    simp only [Token.Store.blacklisted?, Option.map_eq_none_iff] at unlisted' ⊢
    rw [blacklist_exchanged status unlisted, List.find?_append, unlisted']
    simpa using Ne.symm apart
  simp [Token.Store.isRevoked, found, listed, Token.isRevoked, live]

end

section
variable {a b : Authority}

theorem Intact.outage?_eq_none (intact : Intact a) {op : Token.Operation} (other : op ≠ .revoke) :
    a.backend.outage? op = none := by
  refine List.lookup_eq_none_iff.mpr fun o member => ?_
  rw [intact.refusals o member]
  simpa using other

theorem Intact.apply (intact : Intact a) {e : Effect} (allowed : e.Allowed a) (harmless : e.Harmless) :
    Intact (e.apply a) := by
  have filled : Filled (e.apply a) := Filled.apply intact.filled allowed
  cases e with
  | issued now fresh r t =>
    obtain ⟨keyId, d, -, -, rfl, free⟩ := allowed
    refine ⟨intact.refusals, fun b listed => ?_, filled⟩
    obtain ⟨q, found, kept⟩ := intact.remembered b (Token.Store.blacklist_put .. ▸ listed)
    refine ⟨q, ?_, kept⟩
    have other : ¬ b.id = d.id := fun same => by
      rw [same] at found
      cases free.symm.trans found
    exact (Token.Store.find?_put ..).trans ((if_neg other).trans found)
  | revoked id status =>
    obtain ⟨t, found, live⟩ := allowed
    obtain ⟨-, rfl⟩ := Token.Store.mem_of_find? found
    simp only [Effect.apply, found] at filled ⊢
    refine ⟨intact.refusals, fun b listed => ?_, filled⟩
    rcases Token.Store.mem_blacklist_remember listed with old | rfl
    · obtain ⟨q, found', revoked, expiry⟩ := intact.remembered b (Token.Store.blacklist_put .. ▸ old)
      have other : ¬ b.id = t.id := fun same => by
        rw [same, found] at found'
        rw [Option.some.inj found', revoked] at live
        cases live
      refine ⟨q, ?_, revoked, expiry⟩
      exact (Token.Store.find?_remember ..).trans
        ((Token.Store.find?_put ..).trans ((if_neg other).trans found'))
    · refine ⟨{ t with revocation := some status }, ?_, rfl, rfl⟩
      exact (Token.Store.find?_remember ..).trans ((Token.Store.find?_put ..).trans (if_pos rfl))
  | deleted id => exact harmless.elim
  | cleaned before =>
    refine ⟨intact.refusals, fun b listed => ?_, filled⟩
    obtain ⟨old, kept⟩ := List.mem_filter.mp listed
    obtain ⟨q, found, revoked, expiry⟩ := intact.remembered b old
    exact ⟨q, Token.Store.find?_filter_of_kept found (expiry ▸ kept), revoked, expiry⟩
  | keys now c => exact ⟨intact.refusals, intact.remembered, filled⟩
  | switched op mode =>
    obtain ⟨rfl, fails⟩ := harmless
    refine ⟨fun o member => ?_, intact.remembered, filled⟩
    rcases List.mem_append.mp member with new | old
    · cases mode with
      | none => cases new
      | some outage =>
        cases outage with
        | refuses => exact List.mem_singleton.mp new
        | ignores => exact absurd rfl fails
    · exact intact.refusals o (List.mem_filter.mp old).1

theorem Intact.explained (intact : Intact a) {es : List Effect} (explains : Explains a es b)
    (harmless : ∀ e ∈ es, e.Harmless) : Intact b := by
  induction es generalizing a with
  | nil =>
    cases explains
    exact intact
  | cons e rest ih =>
    obtain ⟨allowed, later⟩ := explains
    obtain ⟨first, others⟩ := List.forall_mem_cons.mp harmless
    exact ih (intact.apply allowed first) later others

theorem Intact.attempt {α : Type} (intact : Intact a) {op : Token.Operation} (other : op ≠ .revoke)
    (run : Except Token.StoreError α) : a.backend.attempt op run = run := by
  rw [Token.Backend.attempt, intact.outage?_eq_none other]
  exact if_neg (by simp)

theorem Intact.blacklisted?_eq_none (intact : Intact a) {id : String}
    (live : ∀ t, a.store.find? id = some t → t.isRevoked = false) : a.store.blacklisted? id = none := by
  refine Option.map_eq_none_iff.mpr (List.find?_eq_none.mpr fun b listed own => ?_)
  obtain rfl : b.id = id := by simpa using own
  obtain ⟨t, found, revoked, -⟩ := intact.remembered b listed
  rw [live t found] at revoked
  cases revoked

/-- Issuing a token adds it as it is, under an id that was free. -/
theorem Intact.issue_ok (intact : Intact a) {now : Instant} {fresh : String} {r : Token.Request} {n : Token}
    (issued : a.issue now fresh r = .ok (n, b)) :
    Drawn a r n ∧ a.store.find? n.id = none ∧ b = a.withStore (a.store.put n) := by
  obtain ⟨⟨keyId, d, -, drafted, rfl, free⟩, rfl⟩ := Authority.issue_ok issued
  have drawn := drawn_of_draft drafted
  have unlisted : a.store.blacklisted? d.id = none :=
    intact.blacklisted?_eq_none fun t found => by cases free.symm.trans found
  have plain : a.store.marked (d.signWith keyId) = d.signWith keyId := by
    simp [Token.Store.marked, Token.signWith, unlisted]
  refine ⟨⟨drawn.subject, drawn.issuer, drawn.audience, drawn.scopes, drawn.metadata, drawn.revocation⟩, free, ?_⟩
  simp only [Effect.apply, plain]

theorem Intact.discard {n : Token} (intact : Intact (a.withStore (a.store.put n)))
    (free : a.store.find? n.id = none) : (a.withStore (a.store.put n)).discard n.id = a := by
  have deleted : (a.withStore (a.store.put n)).backend.delete n.id = .ok a.backend := by
    rw [Token.Backend.delete, intact.attempt (by simp)]
    exact congrArg (Except.map _) (Token.Store.delete_put free)
  rw [Authority.discard, deleted]
  rfl

/-- What replacing a token by another means: one record comes in, and one is marked. -/
structure Replaces (a b : Authority) (old record n : Token) (r : Token.Request) (stamp : Instant) : Prop where
  known : a.store.find? old.id = some record
  new : a.store.find? n.id = none
  stored : b.store.find? n.id = some n
  live : n.revocation = none ∧ b.store.isRevoked n.id = false
  subject : n.subject = record.subject
  issuer : n.issuer = record.issuer
  audience : n.audience = record.audience
  scopes : n.scopes = record.scopes
  metadata : ∀ key, n.metadata.lookup key = if key = "rotated_from" then some old.id else r.metadata.lookup key
  revoked : b.store.find? old.id = some { record with revocation := some ⟨stamp, none, "rotated"⟩ }
  others : ∀ id, id ≠ old.id → id ≠ n.id → b.store.find? id = a.store.find? id
  ids : b.store.records.map (·.id) = a.store.records.map (·.id) ++ [n.id]
  entries : b.store.blacklist =
    a.store.blacklist ++ [⟨old.id, ⟨stamp, none, "rotated"⟩, record.expiresAt⟩]
  /-- Keys, configuration and outages are what they were. -/
  rest : b = a.withStore b.store

/-- All that a rotation can come to. -/
inductive Exchange (a : Authority) (now stamp : Instant) (old : Token) (r : Token.Request) :
    Except Error Token × Authority → Prop where
  | unknown (absent : a.store.find? old.id = none) : Exchange a now stamp old r (.error (.notFound old.id), a)
  | refused {record : Token} {e : Error} (known : a.store.find? old.id = some record)
      (unfit : a.validate now old {} = .error e) : Exchange a now stamp old r (.error (.invalid e), a)
  | undone {record : Token} {e : Error} (valid : a.validate now old {} = .ok record)
      (fault : (∃ f, e = .signing f) ∨ (∃ f, e = .claims f) ∨ ∃ f, e = .store f) :
      Exchange a now stamp old r (.error e, a)
  | replaced {record n : Token} {b : Authority} (valid : a.validate now old {} = .ok record)
      (replaces : Replaces a b old record n r stamp) : Exchange a now stamp old r (.ok n, b)

theorem Intact.scopes (intact : Intact a) {record n : Token} {r : Token.Request} (there : record ∈ a.store.records)
    (drawn : Drawn a (successorOf record r) n) : n.scopes = record.scopes := by
  rw [drawn.scopes]
  change (if record.scopes.isEmpty then _ else record.scopes) = record.scopes
  split
  next bare =>
    have bare := List.isEmpty_iff.mp bare
    rw [intact.filled record there bare, bare]
  next => rfl

theorem apply_revoked {id : String} {t : Token} (found : a.store.find? id = some t) (status : Token.Revocation) :
    (Effect.revoked id status).apply a =
      a.withStore ((a.store.put { t with revocation := some status }).remember ⟨id, status, t.expiresAt⟩) := by
  simp only [Effect.apply, found]

/-- A token is replaced when its successor is stored and it is then revoked. -/
theorem Intact.replaces (intact : Intact a) {now stamp : Instant} {fresh : String} {old record n : Token}
    {r : Token.Request} (known : a.store.find? old.id = some record) (live : record.revocation = none)
    (issued : a.issue now fresh (successorOf record r) = .ok (n, b)) :
    Replaces a ((Effect.revoked old.id ⟨stamp, none, "rotated"⟩).apply b) old record n r stamp := by
  obtain ⟨drawn, free, rfl⟩ := intact.issue_ok issued
  obtain ⟨there, own⟩ := Token.Store.mem_of_find? known
  have apart : n.id ≠ record.id := by
    intro same
    rw [same, own, known] at free
    cases free
  have unlisted : a.store.blacklisted? record.id = none := by
    refine intact.blacklisted?_eq_none fun t found => ?_
    rw [own, known] at found
    rw [← Option.some.inj found, Token.isRevoked, live]
    rfl
  have unlisted' : a.store.blacklisted? n.id = none :=
    intact.blacklisted?_eq_none fun t found => by cases free.symm.trans found
  rw [← own] at known
  have still : (a.store.put n).find? record.id = some record :=
    (Token.Store.find?_put ..).trans ((if_neg (Ne.symm apart)).trans known)
  have applied : (Effect.revoked old.id ⟨stamp, none, "rotated"⟩).apply (a.withStore (a.store.put n)) =
      a.withStore (exchanged a.store record n ⟨stamp, none, "rotated"⟩) := by
    rw [← own]
    exact @apply_revoked (a.withStore (a.store.put n)) record.id record still _
  have finds := @find?_exchanged a.store record n ⟨stamp, none, "rotated"⟩
  rw [applied]
  constructor
  case known => exact own ▸ known
  case new => exact free
  case stored => exact (finds n.id).trans ((if_neg apart).trans (if_pos rfl))
  case live => exact ⟨drawn.revocation, isRevoked_exchanged _ apart unlisted unlisted' drawn.revocation⟩
  case subject => exact drawn.subject
  case issuer => exact drawn.issuer
  case audience => exact drawn.audience
  case scopes => exact intact.scopes there drawn
  case metadata =>
    intro key
    rw [drawn.metadata, ← own]
    exact Json.lookup_setEntry ..
  case revoked => exact own ▸ (finds record.id).trans (if_pos rfl)
  case others =>
    intro id other new
    exact (finds id).trans ((if_neg (own ▸ other)).trans (if_neg new))
  case ids => exact ids_exchanged _ known free
  case entries => exact own ▸ blacklist_exchanged _ unlisted
  case rest => rfl

theorem Intact.get_eq (intact : Intact a) (id : String) :
    a.get id = match a.store.find? id with
      | some t => .ok t
      | none => .error (.notFound id) := by
  rw [get, Token.Backend.get, intact.attempt (by simp)]
  change (a.store.get id).mapError ofStore = _
  rw [Token.Store.get]
  cases a.store.find? id <;> rfl

theorem Intact.revoke_refused (intact : Intact a) (out : a.backend.outages ≠ []) (id : String)
    (status : Token.Revocation) : a.backend.revoke id status = .error Token.Backend.unavailable := by
  have refuses : a.backend.outage? .revoke = some .refuses := by
    obtain ⟨o, others, same⟩ := List.exists_cons_of_ne_nil out
    have first := intact.refusals o (same ▸ List.mem_cons_self)
    rw [Token.Backend.outage?, same, first, List.lookup_cons_self]
  simp [Token.Backend.revoke, Token.Backend.attempt, refuses]

theorem Intact.issued (intact : Intact a) {now : Instant} {fresh : String} {r : Token.Request} {n : Token}
    (issued : a.issue now fresh r = .ok (n, b)) : Intact b := by
  obtain ⟨allowed, rfl⟩ := Authority.issue_ok issued
  exact intact.apply allowed trivial

/-- A rotation comes to one of these ends, and leaves nothing in the way of the next. -/
theorem Intact.rotate (intact : Intact a) (now stamp : Instant) (fresh : String) (old : Token)
    (r : Token.Request) : Exchange a now stamp old r (a.rotate now stamp fresh old r) ∧
      Intact (a.rotate now stamp fresh old r).2 := by
  have got := intact.get_eq old.id
  cases known : a.store.find? old.id with
  | none =>
    have ends : a.rotate now stamp fresh old r = (.error (.notFound old.id), a) := by
      simp only [Authority.rotate, got, known]
    rw [ends]
    exact ⟨.unknown known, intact⟩
  | some present =>
    rw [known] at got
    cases valid : a.validate now old {} with
    | error e =>
      have ends : a.rotate now stamp fresh old r = (.error (.invalid e), a) := by
        simp only [Authority.rotate, got, valid]
      rw [ends]
      exact ⟨.refused known valid, intact⟩
    | ok record =>
      obtain ⟨found, live⟩ := checkRevocation_ok (checkClaims_ok (validate_ok valid).2)
      have own : record.id = old.id := (Token.Store.mem_of_find? found).2
      cases issued : a.issue now fresh (successorOf record r) with
      | error e =>
        have ends : a.rotate now stamp fresh old r = (.error e, a) := by
          simp only [Authority.rotate, got, valid, issued]
        rw [ends]
        exact ⟨.undone valid (issue_error issued), intact⟩
      | ok result =>
        obtain ⟨n, b⟩ := result
        have next : Intact b := intact.issued issued
        by_cases works : a.backend.outages = []
        · obtain ⟨backend, revoked⟩ := revoke_valid works valid issued ⟨stamp, none, "rotated"⟩
          have ends : a.rotate now stamp fresh old r = (.ok n, { b with backend }) := by
            simp only [Authority.rotate, got, valid, issued, revoked]
          have explains := explains_revoke revoked
          rw [revokeEffects, revoked] at explains
          rw [ends]
          refine ⟨.replaced valid ?_, next.explained explains (by simp [Effect.Harmless])⟩
          rw [explains.2, own]
          exact intact.replaces found live issued
        · obtain ⟨-, free, rfl⟩ := intact.issue_ok issued
          have refused := next.revoke_refused works record.id ⟨stamp, none, "rotated"⟩
          have ends : a.rotate now stamp fresh old r = (.error (.store Token.Backend.unavailable), a) := by
            simp only [Authority.rotate, got, valid, issued, refused, next.discard free]
          rw [ends]
          exact ⟨.undone valid (.inr (.inr ⟨_, rfl⟩)), intact⟩

theorem Intact.turns (intact : Intact a) (now stamp : Instant) (callers : List (Nat × Rotation)) (l : Locks) :
    Intact (takeTurns now stamp callers l a).2 := by
  induction callers generalizing l a with
  | nil => exact intact
  | cons caller rest ih =>
    obtain ⟨number, r⟩ := caller
    simp only [takeTurns]
    split
    · exact ih (intact.rotate ..).2 _
    · exact ih intact _

theorem harmless_of_mem {o : Outside} {c : Command} (known : c.refusesAtMost = true)
    (rotates : ∀ old r, c ≠ .rotate old r) (rotatesMany : ∀ old r n, c ≠ .rotateMany old r n) {e : Effect}
    (member : e ∈ a.effects o c) : e.Harmless := by
  cases c with
  | rotate old r => exact absurd rfl (rotates old r)
  | rotateMany old r n => exact absurd rfl (rotatesMany old r n)
  | issue r =>
    obtain ⟨t, rfl⟩ := mem_issueEffects member
    trivial
  | refresh t =>
    simp only [effects, refreshEffects] at member
    split at member
    · split at member
      · obtain ⟨u, rfl⟩ := mem_issueEffects member
        trivial
      · cases member
    · cases member
  | revoke id reason revokedBy =>
    rw [mem_revokeEffects member]
    trivial
  | cleanup =>
    simp only [effects] at member
    split at member
    · cases member
    · rw [mem_cleanEffects member]
      trivial
  | pruneKeys =>
    rw [List.mem_singleton.mp member]
    trivial
  | keys k =>
    rw [List.mem_singleton.mp member]
    trivial
  | switch op mode =>
    rw [List.mem_singleton.mp member]
    constructor
    · cases op <;> first | rfl | cases known
    · rintro rfl
      cases op <;> cases known
  | store d => cases known
  | _ => cases member

/-- A command of the authority itself leaves it intact, and so does an outage that is known to it. -/
theorem Intact.run (intact : Intact a) (o : Outside) {c : Command} (known : c.refusesAtMost = true) :
    Intact (a.run o c).2 := by
  have direct : c.bypasses = false := by
    cases c <;> first | rfl | cases known
  by_cases rotates : ∃ old r, c = .rotate old r
  · obtain ⟨old, r, rfl⟩ := rotates
    have same : (a.run o (.rotate old r)).2 = (a.rotate o.now o.stamp (o.freshId 0) old r).2 := by
      simp only [Authority.run]
      split
      next rotated => rw [rotated]
      next failed => rw [failed]
    rw [same]
    exact (intact.rotate ..).2
  by_cases rotatesMany : ∃ old r n, c = .rotateMany old r n
  · obtain ⟨old, r, n, rfl⟩ := rotatesMany
    simp only [Authority.run, rotateTogether_eq]
    exact intact.turns ..
  refine intact.explained (explains_run a o direct) fun e member => harmless_of_mem known ?_ ?_ member
  · exact fun old r same => rotates ⟨old, r, same⟩
  · exact fun old r n same => rotatesMany ⟨old, r, n, same⟩

theorem Intact.perform (intact : Intact a) {commands : List (Outside × Command)}
    (known : ∀ c ∈ commands, c.2.refusesAtMost = true) : Intact (a.perform commands) := by
  induction commands generalizing a with
  | nil => exact intact
  | cons c rest ih =>
    obtain ⟨first, others⟩ := List.forall_mem_cons.mp known
    exact ih (intact.run c.1 first) others

end

/-- Whatever an authority did, while its store may at times refuse to revoke: a rotation fails and changes nothing,
or the old token is revoked and a new one stored that inherits from its record. It fails for want of a record, or
for an invalid token, just if that is the case. -/
theorem rotation_all_or_nothing (config : Config.Tokens) (keys : KeyRing) (commands : List (Outside × Command))
    (known : ∀ c ∈ commands, c.2.refusesAtMost = true) (now stamp : Instant) (fresh : String) (old : Token)
    (r : Token.Request) :
    let a := (ofParts config keys {}).perform commands
    let outcome := a.rotate now stamp fresh old r
    (∀ e, outcome.1 = .error e → outcome.2 = a) ∧
    (∀ n, outcome.1 = .ok n → ∃ record, a.validate now old {} = .ok record ∧
      Replaces a outcome.2 old record n r stamp) ∧
    (∀ id, outcome.1 = .error (.notFound id) ↔ id = old.id ∧ a.store.find? old.id = none) ∧
    ∀ e, outcome.1 = .error (.invalid e) ↔
      (a.store.find? old.id).isSome ∧ a.validate now old {} = .error e := by
  intro a outcome
  have intact : Intact a := (intact_new config keys).perform known
  have exchange : Exchange a now stamp old r outcome := (intact.rotate now stamp fresh old r).1
  rcases outcome with ⟨result, b⟩
  cases exchange with
  | unknown absent => simp [absent, eq_comm]
  | refused found unfit => simp [found, unfit, eq_comm]
  | @undone record e valid fault =>
    obtain ⟨found, -⟩ := checkRevocation_ok (checkClaims_ok (validate_ok valid).2)
    have other : (∀ id, e ≠ .notFound id) ∧ ∀ f, e ≠ .invalid f := by
      rcases fault with ⟨f, rfl⟩ | ⟨f, rfl⟩ | ⟨f, rfl⟩ <;> exact ⟨nofun, nofun⟩
    simp [found, valid, other]
  | replaced valid replaces =>
    have found := replaces.known
    simp [found, valid, replaces]

namespace Standstill
open Sample

def noon : Instant := ⟨1483221600, 0⟩

/-- A token is issued, and then its store refuses to revoke. -/
def stuck : List (Outside × Command) :=
  [(outside noon, .issue
      { id := some "x", subject := "alice", scopes := ["read"], expiresAt := some ⟨1483225200, 0⟩ }),
    (outside noon, .switch .revoke (some .refuses))]

def mended : List (Outside × Command) := stuck ++ [(outside noon, .switch .revoke none)]

def alice : Token :=
  Token.signWith
    { id := "x", kind := .access, subject := "alice", issuer := "warden", scopes := ["read"], issuedAt := noon
      notBefore := noon, expiresAt := ⟨1483225200, 0⟩, keyId := some "k" } "k"

/-- A rotation in vain, and the same when the store is in order again. -/
theorem rotated_when_mended :
    let a := (start {}).perform stuck
    let b := (start {}).perform mended
    let r : Token.Request := { subject := "bob", metadata := [("rotated_from", "w"), ("use", "cli")] }
    (a.rotate noon noon "y" alice r).1 = .error (.store Token.Backend.unavailable) ∧
    (a.rotate noon noon "y" alice r).2 = a ∧
    ∃ n, (b.rotate noon noon "y" alice r).1 = .ok n ∧ n.id = "y" ∧
      Replaces b (b.rotate noon noon "y" alice r).2 alice alice n r noon := by
  intro a b r
  have refused : (a.rotate noon noon "y" alice r).1 = .error (.store Token.Backend.unavailable) := by
    decide +kernel
  have drawn : (b.rotate noon noon "y" alice r).1.toOption.map (·.id) = some "y" := by decide +kernel
  obtain ⟨n, rotated, id⟩ := Option.map_eq_some_iff.mp drawn
  have rotated := ok_of_toOption rotated
  have valid : b.validate noon alice {} = .ok alice := ok_of_toOption (by decide +kernel)
  refine ⟨refused, (rotation_all_or_nothing {} oneKey stuck (by decide) noon noon "y" alice r).1 _ refused, n,
    rotated, id, ?_⟩
  obtain ⟨record, same, replaces⟩ :=
    (rotation_all_or_nothing {} oneKey mended (by decide) noon noon "y" alice r).2.1 n rotated
  rw [← Except.ok.inj (valid.symm.trans same)] at replaces
  exact replaces

end Standstill

end Gatehouse.Authority
