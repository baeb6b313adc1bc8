import Gatehouse.Config.Validity
import Gatehouse.Proofs.Authority.Runs
import Gatehouse.Proofs.KeyRing.Retention

/-!
Pruning the ring of an authority. A key is kept, after it retired, as long as a token that gets the longest
validity by default, and for the skew of clocks. It is then still there for every token that it signed and
that lasts no longer than this.
-/
namespace Gatehouse.Authority

/-- A clock that never goes back and shows instants that there are. -/
structure Steady (commands : List (Outside × Command)) : Prop where
  ordered : commands.Pairwise fun c d => c.1.now ≤ d.1.now
  valid : ∀ d ∈ commands, d.1.now.Valid

theorem verifyWithSome_ok {t : Token} {now : Instant} {first : Option Token.SignatureFault}
    {ids : List String} :
    verifyWithSome t now first ids = .ok () ↔ ∃ id ∈ ids, t.verify id now = .ok () := by
  induction ids generalizing first with
  | nil => simp [verifyWithSome]
  | cons id rest ih =>
    cases verified : t.verify id now with
    | ok _ => simp [verifyWithSome, verified]
    | error fault => simp [verifyWithSome, verified, ih]

theorem checkSignature_ok {a : Authority} {t : Token} {now : Instant} :
    a.checkSignature t now = .ok () ↔ ∃ k ∈ a.keys.keys, t.verify k.id now = .ok () := by
  have same : a.checkSignature t now = .ok () ↔
      verifyWithSome t now none (a.keys.verifiers t.keyId) = .ok () := by
    unfold checkSignature
    cases verifyWithSome t now none (a.keys.verifiers t.keyId) <;> simp [Except.mapError]
  rw [same, verifyWithSome_ok]
  constructor
  · rintro ⟨id, there, verified⟩
    obtain ⟨k, member, rfl⟩ := KeyRing.mem_verifiers.mp there
    exact ⟨k, member, verified⟩
  · rintro ⟨k, member, verified⟩
    exact ⟨k.id, KeyRing.mem_verifiers.mpr ⟨k, member, rfl⟩, verified⟩

theorem signer_of_verify {d : Token} {keyId id : String} {now : Instant}
    (verified : (d.signWith keyId).verify id now = .ok ()) : id = keyId := by
  obtain ⟨c, opened, -⟩ := bind_ok verified
  exact (Token.Envelope.signedBy_of_openWith opened).1.symm

/-- Once a key on the ring verifies a token nothing else of the ring matters. -/
theorem validate_signed {a : Authority} {t : Token} {now : Instant} {k : RetainedKey}
    (member : k ∈ a.keys.keys) (verified : t.verify k.id now = .ok ()) (r : Requirement) :
    a.validate now t r = a.checkClaims t r now := by
  unfold validate
  rw [checkSignature_ok.mpr ⟨k, member, verified⟩]
  rfl

theorem validate_of_keys {a : Authority} {now : Instant} {t record : Token} {r : Requirement}
    (valid : a.validate now t r = .ok record) {keys : KeyRing}
    (kept : ∀ k ∈ a.keys.keys, t.verify k.id now = .ok () → k ∈ keys.keys) :
    ({ a with keys } : Authority).validate now t r = .ok record := by
  obtain ⟨signed, claims⟩ := validate_ok valid
  obtain ⟨k, member, verified⟩ := checkSignature_ok.mp signed
  exact (validate_signed (a := { a with keys }) (kept k member verified) verified r).trans claims

theorem Explains.retires {a b : Authority} {es : List Effect} (explains : Explains a es b) {id : String}
    {p : Instant → Prop} (retires : a.keys.Retires id p)
    (holds : ∀ n c, .keys n c ∈ es → c.retires = true → p n) :
    b.keys.Retires id p := by
  induction es generalizing a with
  | nil =>
    cases explains
    exact retires
  | cons e rest ih =>
    refine ih explains.2 ?_ fun n c member => holds n c (List.mem_cons_of_mem _ member)
    cases e with
    | keys n c => exact retires.run (holds n c List.mem_cons_self)
    | revoked i status =>
      simp only [Effect.apply]
      split <;> exact retires
    | _ => exact retires

theorem Explains.floor {a b : Authority} {es : List Effect} (explains : Explains a es b) :
    a.keys.floor ≤ b.keys.floor := by
  induction es generalizing a with
  | nil =>
    cases explains
    exact Nat.le_refl _
  | cons e rest ih =>
    refine Nat.le_trans ?_ (ih explains.2)
    cases e with
    | keys n c => exact KeyRing.floor_le_run ..
    | revoked i status =>
      simp only [Effect.apply]
      split <;> exact Nat.le_refl _
    | _ => exact Nat.le_refl _

/-- A token that lasts no longer than the longest validity that tokens get by default. -/
structure Lasting (config : Config.Tokens) (t : Token) : Prop where
  valid : t.expiresAt.Valid
  bound : t.expiresAt ≤ (t.issuedAt.add? (.ofDuration config.maxLifetime)).getD .latest

theorem lasting_of_default {a : Authority} {m : Instant} {fresh : String} {q : Token.Request} {t : Token}
    (allowed : (Effect.issued m fresh q t).Allowed a) (plain : m.nanos < Instant.nanosPerSecond)
    (noExpiry : q.expiresAt = none) (noValidity : q.validity = none) : Lasting a.config t := by
  obtain ⟨k, d, -, drafted, rfl, -⟩ := allowed
  obtain ⟨-, start, expiry⟩ := draft_ok drafted
  simp only [expiryOf, noExpiry, noValidity] at expiry
  obtain ⟨s, validity, expires⟩ := bind_ok expiry
  have shorter : s.nanos ≤ (Span.ofDuration a.config.maxLifetime).nanos := by
    unfold defaultValidity at validity
    simp only at validity
    split at validity
    next fits =>
      cases validity
      rw [Span.ofDuration?_eq_some fits]
      refine Span.ofDuration_mono ?_
      split
      · exact Nat.le_max_right ..
      · exact Nat.le_max_left ..
    next => cases validity
  cases sum : m.truncated.add? s with
  | none => simp [sum] at expires
  | some x =>
    rw [sum] at expires
    cases expires
    have plain : m.truncated.nanos < Instant.nanosPerSecond := Nat.lt_of_le_of_lt (Nat.sub_le ..) plain
    obtain ⟨there, bound⟩ := Instant.add?_mono plain shorter sum
    exact ⟨there, start ▸ bound⟩

theorem signer_retires {start : Authority} {commands : List (Outside × Command)}
    (direct : ∀ c ∈ commands, c.2.bypasses = false) (steady : Steady commands) {m : Instant} {fresh : String}
    {q : Token.Request} {t : Token} (issued : .issued m fresh q t ∈ start.history commands) :
    ∃ k d, t = Token.signWith d k ∧ t.issuedAt = m.truncated ∧ m.Valid ∧
      (start.perform commands).keys.Retires k fun n =>
        m ≤ n ∧ n.Valid ∧ ∃ c, .keys n c ∈ start.history commands ∧ c.retires = true := by
  have explains := explains_history start direct
  have ordered := history_ordered start steady.ordered
  obtain ⟨pre, post, split⟩ := List.append_of_mem issued
  rw [split] at explains ordered
  obtain ⟨b, -, ⟨k, d, signer, drafted, signed, -⟩, rest⟩ := explains.split
  obtain ⟨o, there, rfl⟩ := history_time issued rfl
  refine ⟨k, d, signed, signed ▸ (draft_ok drafted).2.1, steady.valid o there, ?_⟩
  -- the key was active when it signed, and all that happened to the ring since happened later
  have since := (List.pairwise_cons.mp (List.pairwise_append.mp ordered).2.1).1
  refine rest.retires (KeyRing.retires_of_signer signer _) fun n c member turns => ?_
  have whole : .keys n c ∈ start.history commands := by rw [split]; simp [member]
  obtain ⟨o', there', rfl⟩ := history_time whole rfl
  exact ⟨since _ member _ _ rfl rfl, steady.valid o' there', c, whole, turns⟩

/-- Pruning spares live tokens. In every run with a steady clock, in which no key retires in a leap second,
a token that is valid right before the ring is pruned is so right after, whatever lifetime is asked for,
unless it was issued for a longer time than tokens get by default. -/
theorem pruning_spares_live_tokens (config : Config.Tokens) (keys : KeyRing)
    (commands : List (Outside × Command)) (direct : ∀ c ∈ commands, c.2.bypasses = false)
    (steady : Steady commands) :
    let start := ofParts config keys {}
    let a := start.perform commands
    (∀ n c, .keys n c ∈ start.history commands → c.retires = true → n.nanos < Instant.nanosPerSecond) →
    ∀ m fresh q t, .issued m fresh q t ∈ start.history commands → Lasting config t →
      ∀ o req record, a.validate o.now t req = .ok record →
        (a.run o .pruneKeys).2.validate o.now t req = .ok record ∧
        ∀ lifetime, (a.run o (.keys (.prune lifetime))).2.validate o.now t req = .ok record := by
  intro start a plain m fresh q t issued lasting o req record valid
  have explains := explains_history start direct
  have config' : a.config = config := explains.config
  obtain ⟨k, d, signed, begun, there, retires⟩ := signer_retires direct steady issued
  obtain ⟨_, checked, -⟩ := bind_ok (validate_ok valid).2
  have inTime := checkTime_ok checked
  rw [config'] at inTime
  have pruned (lifetime : Duration) :
      ({ a with keys := (a.keys.prune lifetime o.now).2 } : Authority).validate o.now t req = .ok record := by
    have floor : (config.maxLifetime.saturatingAdd config.clockSkew) ≤ lifetime.max a.keys.floor :=
      Nat.le_trans (Nat.le_max_right ..) (Nat.le_trans explains.floor (Nat.le_max_right ..))
    refine validate_of_keys valid fun key member verified => KeyRing.mem_prune member ?_
    rw [signed] at verified
    have own : key.id = k := signer_of_verify verified
    rcases retires key member own with active | since
    · exact .inl (own ▸ active)
    · refine .inr fun n x retired sum late => ?_
      obtain ⟨after, valid, c, changed, turns⟩ := since n retired
      have ends := Instant.end_le_of_lasting (begun ▸ there.truncated) lasting.valid valid
        (Span.ofDuration_nonneg _) (Span.ofDuration_nonneg config.clockSkew) lasting.bound (plain n c changed turns)
        (begun ▸ Instant.le_trans m.truncated_le after) (Span.min_add_le_ofDuration floor) sum
      exact inTime (Instant.lt_of_le_of_lt ends late)
  exact ⟨pruned _, pruned⟩

namespace Rotated
open Sample

def request (validity : Option Span) : Token.Request :=
  { id := some "x", kind := .refresh, subject := "alice", validity }

def token (expiry : Int) : Token := Sample.token .refresh ⟨0, 0⟩ ⟨expiry, 0⟩

def commands (validity : Option Span) : List (Outside × Command) :=
  [(outside ⟨0, 0⟩, .issue (request validity)), (outside ⟨0, 0⟩, .keys (.rotate ⟨"l", "", ""⟩))]

def replaced : RetainedKey := ⟨⟨"k", "", ""⟩, ⟨0, 0⟩, some ⟨0, 0⟩⟩

theorem steady (validity : Option Span) : Steady (commands validity) := by
  have zero : Instant.Valid ⟨0, 0⟩ := ⟨by decide, by decide, by decide⟩
  refine ⟨by simp [commands, outside, Instant.le_def], fun d member => ?_⟩
  simp only [commands, List.mem_cons, List.not_mem_nil, or_false] at member
  rcases member with rfl | rfl <;> exact zero

/-- A token that was issued for two days is cut off when the ring is pruned on the second. -/
theorem live_token_cut_off :
    let validity : Option Span := some ⟨172800 * 1000000000⟩
    let a := (start {}).perform (commands validity)
    let o := outside ⟨91800, 0⟩
    Config.fault? {} = none ∧ (∀ c ∈ commands validity, c.2.bypasses = false) ∧ Steady (commands validity) ∧
    (start {}).history (commands validity) =
      [.issued ⟨0, 0⟩ "drawn" (request validity) (token 172800), .keys ⟨0, 0⟩ (.rotate ⟨"l", "", ""⟩)] ∧
    a.validate o.now (token 172800) {} = .ok (token 172800) ∧
    ((a.run o .pruneKeys).2.validate o.now (token 172800) {}).toOption = none := by
  intro validity a o
  have member : replaced ∈ a.keys.keys := by decide +kernel
  have verified : (token 172800).verify "k" o.now = .ok () := ok_of_toOption (by decide +kernel)
  have claims : a.checkClaims (token 172800) {} o.now = .ok (token 172800) :=
    ok_of_toOption (by decide +kernel)
  exact ⟨by decide +kernel, by decide, steady _, by decide +kernel,
    (validate_signed member verified {}).trans claims, by decide +kernel⟩

/-- One that got a day by default is spared, even after its expiry as long as the skew lasts. -/
theorem live_token_spared :
    let a := (start {}).perform (commands none)
    let o := outside ⟨86500, 0⟩
    a.validate o.now (token 86400) {} = .ok (token 86400) ∧
    (a.run o .pruneKeys).2.validate o.now (token 86400) {} = .ok (token 86400) := by
  intro a o
  have direct : ∀ c ∈ commands none, c.2.bypasses = false := by decide
  have effects : (start {}).history (commands none) =
      [.issued ⟨0, 0⟩ "drawn" (request none) (token 86400), .keys ⟨0, 0⟩ (.rotate ⟨"l", "", ""⟩)] := by
    decide +kernel
  have issued : .issued ⟨0, 0⟩ "drawn" (request none) (token 86400) ∈ (start {}).history (commands none) := by
    rw [effects]
    exact List.mem_cons_self
  have member : replaced ∈ a.keys.keys := by decide +kernel
  have verified : (token 86400).verify "k" o.now = .ok () := ok_of_toOption (by decide +kernel)
  have claims : a.checkClaims (token 86400) {} o.now = .ok (token 86400) := ok_of_toOption (by decide +kernel)
  have valid := (validate_signed member verified {}).trans claims
  have lasting : Lasting {} (token 86400) := by
    have explains := explains_history (start {}) direct
    rw [effects] at explains
    exact lasting_of_default explains.1 (by decide) rfl rfl
  have plain : ∀ n c, .keys n c ∈ (start {}).history (commands none) → c.retires = true →
      n.nanos < Instant.nanosPerSecond := by
    intro n c changed _
    rw [effects] at changed
    simp only [List.mem_cons, List.not_mem_nil, or_false, reduceCtorEq, false_or] at changed
    cases changed
    decide
  exact ⟨valid, (pruning_spares_live_tokens {} oneKey (commands none) direct (steady none) plain _ _ _ _
    issued lasting o {} _ valid).1⟩

end Rotated

end Gatehouse.Authority
