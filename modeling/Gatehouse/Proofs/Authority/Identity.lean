import Gatehouse.Proofs.Authority.Effects
import Mathlib.Data.List.Induction

/-!
Whom a bearer is taken for. A bearer value proves the claims that were signed in it, but what is returned is
the record under their id: the token that was issued last under it.
-/
namespace Gatehouse.Authority

def Effect.issue? (id : String) : Effect → Option Token
  | .issued _ _ _ t => if t.id = id then some t else none
  | _ => none

def lastIssued (h : List Effect) (id : String) : Option Token := (h.filterMap (Effect.issue? id)).getLast?

theorem lastIssued_append_singleton (h : List Effect) (e : Effect) (id : String) :
    lastIssued (h ++ [e]) id = (e.issue? id).or (lastIssued h id) := by
  unfold lastIssued
  cases issue : e.issue? id <;> simp [issue]

def draftUntil (a : Authority) (keyId : String) (now : Instant) (fresh : String) (r : Token.Request)
    (expiresAt : Instant) : Token :=
  { id := (r.id.filter (· ≠ "")).getD fresh, kind := r.kind, subject := r.subject
    issuer := r.issuer.getD a.config.issuer, audience := r.audience
    scopes := if r.scopes.isEmpty then Text.Ordered.ofList a.config.defaultScopes else r.scopes
    issuedAt := now.truncated, notBefore := (r.notBefore.map Instant.truncated).getD now.truncated
    expiresAt, keyId := some keyId, metadata := r.metadata }

theorem draft_eq_ok {a : Authority} {keyId : String} {now : Instant} {fresh : String} {r : Token.Request}
    {d : Token} : a.draft keyId now fresh r = .ok d ↔ Text.isAllBlank r.subject = false ∧
      ∃ expiresAt, a.expiryOf now.truncated r = .ok expiresAt ∧ d = a.draftUntil keyId now fresh r expiresAt ∧
        ¬ d.expiresAt < d.notBefore ∧ ¬ d.expiresAt < d.issuedAt := by
  unfold draft
  simp only
  constructor
  · intro drafted
    split at drafted
    · cases drafted
    next named =>
      obtain ⟨expiresAt, expires, rest⟩ := bind_ok drafted
      refine ⟨by simpa using named, expiresAt, expires, ?_⟩
      split at rest
      · cases rest
      next begins =>
        split at rest
        · cases rest
        next lasts =>
          cases rest
          exact ⟨rfl, begins, lasts⟩
  · rintro ⟨named, expiresAt, expires, rfl, begins, lasts⟩
    rw [named, expires]
    refine (if_neg (by simp)).trans ?_
    exact (if_neg begins).trans (if_neg lasts)

theorem draft_ok {a : Authority} {keyId : String} {now : Instant} {fresh : String}
    {r : Token.Request} {d : Token} (drafted : a.draft keyId now fresh r = .ok d) :
    d.revocation = none ∧ d.issuedAt = now.truncated ∧ a.expiryOf now.truncated r = .ok d.expiresAt := by
  obtain ⟨-, _, expires, rfl, -⟩ := draft_eq_ok.mp drafted
  exact ⟨rfl, rfl, expires⟩

/-- Every record is the token that was issued last under its id, apart from a revocation. -/
structure Recorded (h : List Effect) (a : Authority) : Prop where
  last : ∀ r ∈ a.store.records, ∃ t, lastIssued h r.id = some t ∧ t.revocation = none ∧
    r = { t with revocation := r.revocation }

theorem recorded_new (config : Config.Tokens) (keys : KeyRing) :
    Recorded [] (ofParts config keys {}) :=
  ⟨fun _ none => absurd none List.not_mem_nil⟩

theorem Recorded.fewer {h : List Effect} {a b : Authority} (recorded : Recorded h a) {e : Effect}
    (plain : ∀ id, e.issue? id = none) (old : ∀ r ∈ b.store.records, r ∈ a.store.records) :
    Recorded (h ++ [e]) b := by
  refine ⟨fun r member => ?_⟩
  rw [lastIssued_append_singleton, plain]
  exact recorded.last r (old r member)

theorem Recorded.apply {h : List Effect} {a : Authority} (recorded : Recorded h a) {e : Effect}
    (allowed : e.Allowed a) : Recorded (h ++ [e]) (e.apply a) := by
  cases e with
  | issued now fresh r t =>
    obtain ⟨keyId, d, -, drafted, signed, -⟩ := allowed
    refine ⟨fun q member => ?_⟩
    rw [lastIssued_append_singleton]
    rcases Token.Store.mem_put.mp member with rfl | ⟨old, apart⟩
    · refine ⟨t, by simp [Effect.issue?, Token.Store.marked], ?_, rfl⟩
      rw [signed]
      exact (draft_ok drafted).1
    · have other : ¬ t.id = q.id := fun same => apart same.symm
      simpa [Effect.issue?, other] using recorded.last q old
  | revoked id status =>
    obtain ⟨t, found, -⟩ := allowed
    refine ⟨fun q member => ?_⟩
    rw [lastIssued_append_singleton]
    simp only [Effect.apply, found] at member
    rcases Token.Store.mem_put.mp (Token.Store.mem_remember.mp member) with rfl | ⟨old, -⟩
    · obtain ⟨u, last, plain, same⟩ := recorded.last t (Token.Store.mem_of_find? found).1
      refine ⟨u, last, plain, ?_⟩
      rw [same]
    · exact recorded.last q old
  | deleted id =>
    exact recorded.fewer (fun _ => rfl) fun q member => (List.mem_filter.mp member).1
  | cleaned before =>
    exact recorded.fewer (fun _ => rfl) fun q member => (List.mem_filter.mp member).1
  | keys now c => exact recorded.fewer (fun _ => rfl) fun q member => member
  | switched o mode => exact recorded.fewer (fun _ => rfl) fun q member => member

theorem Recorded.explained {h : List Effect} {a b : Authority} (recorded : Recorded h a)
    {es : List Effect} (explains : Explains a es b) : Recorded (h ++ es) b := by
  induction es generalizing h a with
  | nil =>
    cases explains
    simpa using recorded
  | cons e rest ih =>
    obtain ⟨allowed, later⟩ := explains
    simpa using ih (recorded.apply allowed) later

theorem openWithSome_ok {b : Token.Bearer} {now : Instant} {ids : List String} {c : Token.Claims}
    (opened : openWithSome b now ids = .ok c) : ∃ id ∈ ids, b.openWith id now = .ok c := by
  induction ids with
  | nil => cases opened
  | cons id rest ih =>
    cases first : b.openWith id now with
    | ok d =>
      simp only [openWithSome, first] at opened
      exact ⟨id, List.mem_cons_self, opened ▸ first⟩
    | error e =>
      simp only [openWithSome, first] at opened
      obtain ⟨other, member, there⟩ := ih opened
      exact ⟨other, List.mem_cons_of_mem _ member, there⟩

theorem ofClaims_ok {c : Token.Claims} {b : Token.Bearer} {t : Token}
    (read : Token.ofClaims c b = .ok t) : t.id = c.id ∧ Instant.ofMicros? c.expiresAt = some t.expiresAt := by
  unfold Token.ofClaims at read
  split at read <;> cases read
  exact ⟨rfl, ‹_›⟩

/-- A bearer value that stands for a token was opened with a retained key. -/
theorem tokenOf_ok {a : Authority} {b : Token.Bearer} {now : Instant} {t : Token}
    (read : a.tokenOf b now = .ok t) :
    ∃ k c, k ∈ a.keys.ids ∧ b.openWith k now = .ok c ∧ Token.ofClaims c b = .ok t := by
  unfold tokenOf at read
  cases opened : openWithSome b now (a.keys.verifiers none) with
  | error fault => simp [opened] at read
  | ok c =>
    simp only [opened] at read
    obtain ⟨k, retained, here⟩ := openWithSome_ok opened
    exact ⟨k, c, retained, here, mapError_ok read⟩

theorem checkRevocation_eq_ok {a : Authority} {t record : Token} :
    a.checkRevocation t = .ok record ↔ t.isRevoked = false ∧ a.backend.isRevoked t.id = .ok false ∧
      a.backend.get t.id = .ok record ∧ record.isRevoked = false := by
  constructor
  · intro passed
    unfold checkRevocation at passed
    cases presented : t.isRevoked with
    | true => simp only [presented, if_true] at passed; cases passed
    | false =>
      simp only [presented] at passed
      obtain ⟨listed, answered, rest⟩ := bind_ok passed
      have answered := mapError_ok answered
      cases listed with
      | true => cases rest
      | false =>
        cases found : a.backend.get t.id with
        | error e => cases e <;> simp [found] at rest
        | ok r =>
          simp only [found, Bool.false_eq_true, if_false] at rest
          cases revoked : r.isRevoked with
          | true => simp only [revoked, if_true] at rest; cases rest
          | false =>
            simp only [revoked] at rest
            cases rest
            exact ⟨rfl, answered, rfl, revoked⟩
  · rintro ⟨presented, listed, found, revoked⟩
    unfold checkRevocation
    simp only [presented, listed, found, revoked]
    rfl

theorem checkRevocation_ok {a : Authority} {t record : Token} (passed : a.checkRevocation t = .ok record) :
    a.store.find? t.id = some record ∧ record.revocation = none := by
  obtain ⟨-, -, found, live⟩ := checkRevocation_eq_ok.mp passed
  exact ⟨Token.Store.get_ok (attempt_ok found), by simpa [Token.isRevoked] using live⟩

theorem checkClaims_ok {a : Authority} {t record : Token} {r : Requirement} {now : Instant}
    (passed : a.checkClaims t r now = .ok record) : a.checkRevocation t = .ok record := by
  obtain ⟨_, -, rest⟩ := bind_ok passed
  obtain ⟨_, -, rest⟩ := bind_ok rest
  obtain ⟨_, -, rest⟩ := bind_ok rest
  exact rest

/-- A bearer that is accepted was opened with a retained key, and stands for the record of its id. -/
theorem authenticate_ok {a : Authority} {now : Instant} {b : Token.Bearer} {r : Requirement}
    {record : Token} (authentic : a.authenticate now b r = .ok record) :
    ∃ k c, k ∈ a.keys.ids ∧ b.openWith k now = .ok c ∧ record ∈ a.store.records ∧
      record.id = c.id ∧ record.revocation = none := by
  obtain ⟨t, read, passed⟩ := bind_ok authentic
  obtain ⟨k, c, retained, opened, described⟩ := tokenOf_ok read
  obtain ⟨found, unrevoked⟩ := checkRevocation_ok (checkClaims_ok passed)
  obtain ⟨stored, id⟩ := Token.Store.mem_of_find? found
  exact ⟨k, c, retained, opened, stored, id.trans (ofClaims_ok described).1, unrevoked⟩

theorem Recorded.authentic {h : List Effect} {a : Authority} (recorded : Recorded h a) {now : Instant}
    {b : Token.Bearer} {r : Requirement} {record : Token}
    (authentic : a.authenticate now b r = .ok record) :
    ∃ k c, k ∈ a.keys.ids ∧ b.openWith k now = .ok c ∧ lastIssued h c.id = some record := by
  obtain ⟨k, c, retained, opened, stored, id, unrevoked⟩ := authenticate_ok authentic
  obtain ⟨t, last, plain, same⟩ := recorded.last record stored
  have whole : record = t := by
    rw [same, unrevoked, ← plain]
  rw [id, ← whole] at last
  exact ⟨k, c, retained, opened, last⟩

def Effect.Removes (t : Token) : Effect → Prop
  | .deleted id => id = t.id
  | .cleaned before => t.expiresAt < before
  | _ => False

structure Holds (t : Token) (a : Authority) : Prop where
  found : ∃ r ∈ a.store.records, r.id = t.id
  expiry : ∀ r ∈ a.store.records, r.id = t.id → r.expiresAt = t.expiresAt

theorem Holds.apply {t : Token} {a : Authority} (holds : Holds t a) {e : Effect}
    (allowed : e.Allowed a) (kept : ¬ e.Removes t) : Holds t (e.apply a) := by
  obtain ⟨r, member, id⟩ := holds.found
  cases e with
  | issued now fresh q u =>
    obtain ⟨_, _, -, -, -, free⟩ := allowed
    have apart := Token.Store.not_mem_of_find? free
    refine ⟨⟨r, Token.Store.mem_put.mpr (.inr ⟨member, apart r member⟩), id⟩, fun s stored same => ?_⟩
    rcases Token.Store.mem_put.mp stored with rfl | ⟨old, -⟩
    · exact absurd (id.trans same.symm) (apart r member)
    · exact holds.expiry s old same
  | revoked i status =>
    obtain ⟨u, found, -⟩ := allowed
    have stored := (Token.Store.mem_of_find? found).1
    have records : ∀ s, s ∈ ((Effect.revoked i status).apply a).store.records ↔
        s = { u with revocation := some status } ∨ s ∈ a.store.records ∧ s.id ≠ u.id := by
      intro s
      simp only [Effect.apply, found]
      exact Token.Store.mem_remember.trans Token.Store.mem_put
    refine ⟨?_, fun s member same => ?_⟩
    · by_cases own : r.id = u.id
      · exact ⟨_, (records _).mpr (.inl rfl), own.symm.trans id⟩
      · exact ⟨r, (records r).mpr (.inr ⟨member, own⟩), id⟩
    · rcases (records s).mp member with rfl | ⟨old, -⟩
      · exact holds.expiry u stored same
      · exact holds.expiry s old same
  | deleted i =>
    have other : r.id ≠ i := fun same => kept (same.symm.trans id)
    exact ⟨⟨r, List.mem_filter.mpr ⟨member, by simpa using other⟩, id⟩,
      fun s stored => holds.expiry s (List.mem_filter.mp stored).1⟩
  | cleaned before =>
    have live : before ≤ r.expiresAt := by
      rw [holds.expiry r member id]
      simp only [Effect.Removes, Instant.lt_def] at kept
      rw [Instant.le_def]
      omega
    exact ⟨⟨r, List.mem_filter.mpr ⟨member, by simpa using live⟩, id⟩,
      fun s stored => holds.expiry s (List.mem_filter.mp stored).1⟩
  | keys now c => exact ⟨holds.found, holds.expiry⟩
  | switched o mode => exact ⟨holds.found, holds.expiry⟩

/-- While the record of a token is there, none is issued under its id. -/
theorem Holds.not_issued {t : Token} {a b : Authority} (holds : Holds t a) {es : List Effect}
    (explains : Explains a es b) (kept : ∀ e ∈ es, ¬ e.Removes t) :
    es.filterMap (Effect.issue? t.id) = [] := by
  induction es generalizing a with
  | nil => rfl
  | cons e rest ih =>
    obtain ⟨allowed, later⟩ := explains
    have still := holds.apply allowed (kept e List.mem_cons_self)
    have others := ih still later fun f member => kept f (List.mem_cons_of_mem _ member)
    have free : e.issue? t.id = none := by
      cases e with
      | issued now fresh q u =>
        obtain ⟨_, _, -, -, -, free⟩ := allowed
        obtain ⟨r, member, id⟩ := holds.found
        have apart : ¬ u.id = t.id := fun same =>
          Token.Store.not_mem_of_find? free r member (id.trans same.symm)
        exact if_neg apart
      | _ => rfl
    rw [List.filterMap_cons_none free, others]

/-- A token whose record was not taken away since is the last one that was issued under its id. -/
theorem lastIssued_of_kept {a b : Authority} {earlier later : List Effect} {now : Instant}
    {fresh : String} {r : Token.Request} {t : Token}
    (explains : Explains a (earlier ++ .issued now fresh r t :: later) b)
    (kept : ∀ e ∈ later, ¬ e.Removes t) :
    lastIssued (earlier ++ .issued now fresh r t :: later) t.id = some t := by
  obtain ⟨c, -, allowed, after⟩ := explains.split
  have holds : Holds t ((Effect.issued now fresh r t).apply c) := by
    obtain ⟨_, _, -, -, -, free⟩ := allowed
    refine ⟨⟨_, Token.Store.mem_put.mpr (.inl rfl), rfl⟩, fun s stored same => ?_⟩
    rcases Token.Store.mem_put.mp stored with rfl | ⟨old, -⟩
    · rfl
    · exact absurd same (Token.Store.not_mem_of_find? free s old)
  have silent := holds.not_issued after kept
  have own : Effect.issue? t.id (.issued now fresh r t) = some t := if_pos rfl
  rw [lastIssued, List.filterMap_append, List.filterMap_cons_some own, silent]
  simp

/-- Signatures are ideal: a retained key opens a value only if it was issued under the key, and then to
the claims that were signed. -/
def Unforged (h : List Effect) (a : Authority) (now : Instant) (b : Token.Bearer) : Prop :=
  ∀ k c, k ∈ a.keys.ids → b.openWith k now = .ok c →
    ∃ m fresh r t, Effect.issued m fresh r t ∈ h ∧ t.keyId = some k ∧ t.claims k = c

/-- In every run of an authority a bearer that is accepted shows a value that was signed when a token was
issued, under a key that is still retained, and is taken for the token that was issued last under the id in
it. That is the token that was signed, unless its record was deleted or cleaned away meanwhile and the id
given to another. -/
theorem authenticated_as_last_issued (config : Config.Tokens) (keys : KeyRing)
    (commands : List (Outside × Command)) (direct : ∀ c ∈ commands, c.2.bypasses = false)
    (now : Instant) (b : Token.Bearer) (req : Requirement) (record : Token) :
    let start := ofParts config keys {}
    let h := start.history commands
    let a := start.perform commands
    Unforged h a now b → a.authenticate now b req = .ok record →
      ∃ k earlier m fresh r t later, k ∈ a.keys.ids ∧ t.keyId = some k ∧
        b.openWith k now = .ok (t.claims k) ∧ h = earlier ++ .issued m fresh r t :: later ∧
        lastIssued h t.id = some record ∧
        ((∀ e ∈ later, ¬ e.Removes t) → record = t) := by
  intro start h a unforged authentic
  have explains : Explains start h a := explains_history start direct
  have recorded : Recorded h a := by
    simpa using (recorded_new config keys).explained explains
  obtain ⟨k, c, retained, opened, last⟩ := recorded.authentic authentic
  obtain ⟨m, fresh, r, t, issued, signed, claims⟩ := unforged k c retained opened
  obtain ⟨earlier, later, split⟩ := List.append_of_mem issued
  have id : c.id = t.id := by rw [← claims]; rfl
  rw [id] at last
  refine ⟨k, earlier, m, fresh, r, t, later, retained, signed, claims ▸ opened, split, last, fun kept => ?_⟩
  rw [split] at explains last
  rw [lastIssued_of_kept explains kept] at last
  exact (Option.some.inj last).symm

namespace Takeover

def start : Authority := ofParts {} (KeyRing.add {} ⟨"k", "", ""⟩ true ⟨0, 0⟩) {}

def outside (second : Int) : Outside := ⟨⟨second, 0⟩, ⟨second, 0⟩, fun _ => "drawn"⟩

def requestOf (subject : String) : Token.Request := { id := some "x", subject }

/-- A token is issued to Alice and deleted, and its id is given to a token for Bob. -/
def commands : List (Outside × Command) :=
  [(outside 0, .issue (requestOf "alice")), (outside 1, .store (.delete "x")),
   (outside 2, .issue (requestOf "bob"))]

def tokenFor (subject : String) (second : Int) : Token :=
  Token.signWith
    { id := "x", kind := .access, subject, issuer := "warden", issuedAt := ⟨second, 0⟩
      notBefore := ⟨second, 0⟩, expiresAt := ⟨second + 3600, 0⟩, keyId := some "k" } "k"

def value : Token.Bearer := .envelope (Token.Envelope.sign ((tokenFor "alice" 0).claims "k"))

theorem history_commands : start.history commands =
    [.issued ⟨0, 0⟩ "drawn" (requestOf "alice") (tokenFor "alice" 0), .deleted "x",
     .issued ⟨2, 0⟩ "drawn" (requestOf "bob") (tokenFor "bob" 2)] := by
  decide +kernel

theorem value_unforged {h : List Effect} (a : Authority) (now : Instant)
    (issued : .issued ⟨0, 0⟩ "drawn" (requestOf "alice") (tokenFor "alice" 0) ∈ h) :
    Unforged h a now value := by
  intro k c _ opened
  obtain ⟨signed, content⟩ := Token.Envelope.signedBy_of_openWith opened
  obtain rfl : "k" = k := signed
  obtain rfl : (tokenFor "alice" 0).claims "k" = c := Token.Content.claims.inj (Option.some.inj content)
  exact ⟨⟨0, 0⟩, "drawn", requestOf "alice", tokenFor "alice" 0, issued, rfl, rfl⟩

/-- Alice's bearer is taken for Bob. -/
theorem alice_taken_for_bob :
    (∀ c ∈ commands, c.2.bypasses = false) ∧
    Unforged (start.history commands) (start.perform commands) ⟨3, 0⟩ value ∧
    value.openWith "k" ⟨3, 0⟩ = .ok ((tokenFor "alice" 0).claims "k") ∧
    (start.perform commands).authenticate ⟨3, 0⟩ value {} = .ok (tokenFor "bob" 2) ∧
    (tokenFor "bob" 2).subject ≠ ((tokenFor "alice" 0).claims "k").subject := by
  refine ⟨by decide, ?_, ?_, ok_of_toOption (by decide +kernel), by decide⟩
  · refine value_unforged _ _ ?_
    rw [history_commands]
    exact List.mem_cons_self
  · exact Token.Envelope.openWith_sign ((tokenFor "alice" 0).claims "k") _

/-- Before her token is deleted Alice's bearer stands for it. -/
theorem alice_taken_for_herself :
    ∃ record, (start.perform (commands.take 1)).authenticate ⟨3, 0⟩ value {} = .ok record ∧
      lastIssued (start.history (commands.take 1)) "x" = some record := by
  have effects : start.history (commands.take 1) =
      [.issued ⟨0, 0⟩ "drawn" (requestOf "alice") (tokenFor "alice" 0)] := by decide +kernel
  have authentic : (start.perform (commands.take 1)).authenticate ⟨3, 0⟩ value {} =
      .ok (tokenFor "alice" 0) := ok_of_toOption (by decide +kernel)
  have unforged : Unforged (start.history (commands.take 1)) (start.perform (commands.take 1)) ⟨3, 0⟩
      value := by
    refine value_unforged _ _ ?_
    rw [effects]
    exact List.mem_cons_self
  obtain ⟨k, earlier, m, fresh, r, t, later, -, -, opened, -, last, -⟩ :=
    authenticated_as_last_issued {} (KeyRing.add {} ⟨"k", "", ""⟩ true ⟨0, 0⟩) (commands.take 1)
      (by decide) ⟨3, 0⟩ value {} (tokenFor "alice" 0) unforged authentic
  have content := (Token.Envelope.signedBy_of_openWith opened).2
  have claims := Token.Content.claims.inj (Option.some.inj content)
  have id : "x" = t.id := congrArg Token.Claims.id claims
  rw [← id] at last
  exact ⟨tokenFor "alice" 0, authentic, last⟩

end Takeover

end Gatehouse.Authority
