import Gatehouse.Proofs.Authority.Agreement
import Gatehouse.Proofs.Instant.Shift
import Gatehouse.Proofs.Token.Revocation

/-!
What validation demands of a token, in order: a signature by a key on the ring, a time between its two ends,
an issuer and an audience that are allowed, the required scopes, and a record with no revocation. A token
that meets all of it is accepted, and otherwise the first demand that it does not meet is reported. The time
is compared without regard to the range of instants, though sums are cut off at its ends.
-/
namespace Gatehouse.Authority
open Token (Error SignatureFault)

/-- What has to hold of a token, and the error if it does not. -/
structure Demand where
  holds : Prop
  error : Error

/-- The first demand that is not met has this error. -/
inductive FirstUnmet : List Demand → Error → Prop
  | here {d : Demand} {rest : List Demand} (unmet : ¬ d.holds) : FirstUnmet (d :: rest) d.error
  | later {d : Demand} {rest : List Demand} {e : Error} (met : d.holds) (unmet : FirstUnmet rest e) :
    FirstUnmet (d :: rest) e

theorem firstUnmet_cons {d : Demand} {rest : List Demand} {e : Error} :
    FirstUnmet (d :: rest) e ↔ ¬ d.holds ∧ e = d.error ∨ d.holds ∧ FirstUnmet rest e := by
  constructor
  · intro first
    cases first with
    | here unmet => exact .inl ⟨unmet, rfl⟩
    | later met unmet => exact .inr ⟨met, unmet⟩
  · rintro (⟨unmet, rfl⟩ | ⟨met, unmet⟩)
    · exact .here unmet
    · exact .later met unmet

/-- Validation comes to this end by demands in order, if a record is found. -/
structure Decides (ds : List Demand) (found : Option Token) (outcome : Except Error Token) : Prop where
  accepts : ∀ record, outcome = .ok record ↔ (∀ d ∈ ds, d.holds) ∧ found = some record
  refuses : ∀ e, outcome = .error e ↔ FirstUnmet ds e

theorem Decides.nil (record : Token) : Decides [] (some record) (.ok record) :=
  ⟨fun r => by simp, fun e => iff_of_false nofun nofun⟩

theorem Decides.cons {d : Demand} {rest : List Demand} {found : Option Token} {x y : Except Error Token}
    (decides : d.holds → Decides rest found y) (met : d.holds → x = y)
    (unmet : ¬ d.holds → x = .error d.error) : Decides (d :: rest) found x := by
  by_cases holds : d.holds
  · rw [met holds]
    refine ⟨fun record => ?_, fun e => ?_⟩
    · rw [(decides holds).accepts, List.forall_mem_cons, and_iff_right holds]
    · rw [(decides holds).refuses, firstUnmet_cons]
      simp [holds]
  · rw [unmet holds]
    refine ⟨fun record => ?_, fun e => ?_⟩
    · simp [holds]
    · rw [firstUnmet_cons]
      simp [holds, eq_comm]

theorem Decides.ite {d : Demand} {rest : List Demand} {found : Option Token} {y : Except Error Token}
    {c : Prop} [Decidable c] (decides : Decides rest found y) (same : c ↔ ¬ d.holds) :
    Decides (d :: rest) found (if c then .error d.error else y) :=
  .cons (fun _ => decides) (fun met => if_neg fun h => same.mp h met) fun unmet => if_pos (same.mpr unmet)

/-- A key on the ring opens the value of the token, to the very claims of the token. -/
def Signed (keys : KeyRing) (now : Instant) (t : Token) : Prop :=
  ∃ k ∈ keys.keys, ∃ value, t.value = some value ∧ value.openWith k.id now = .ok (t.claims k.id)

/-- Why the key that is tried first does not verify a token; there may be no key at all. -/
def firstFault (keys : KeyRing) (now : Instant) (t : Token) : SignatureFault :=
  match (keys.verifiers t.keyId).map (t.verify · now) with
  | .error fault :: _ => fault
  | _ => .noKey

/-- The token has the required scopes, all of them or any. -/
def Grants (t : Token) (required : List String) : ScopeMatch → Prop
  | .all => ∀ s ∈ required, s ∈ t.scopes
  | .any => required = [] ∨ ∃ s ∈ required, s ∈ t.scopes

/-- Neither the token, nor its id, nor its record is revoked, and there is a record. -/
structure Live (s : Token.Store) (t : Token) : Prop where
  token : t.revocation = none
  id : ∀ b ∈ s.blacklist, b.id ≠ t.id
  record : ∃ record, s.find? t.id = some record ∧ record.revocation = none

/-- All demands, given what it means that the time of the token has begun and that it lasts. -/
def demandsWith (a : Authority) (begun lasts : Prop) (now : Instant) (t : Token) (r : Requirement) :
    List Demand :=
  [⟨Signed a.keys now t, .signature (firstFault a.keys now t)⟩,
   ⟨begun, .notYetValid t.notBefore⟩,
   ⟨lasts, .expired t.expiresAt⟩,
   ⟨a.config.allowedIssuers = [] ∨ t.issuer ∈ a.config.allowedIssuers, .issuer t.issuer⟩,
   ⟨a.config.allowedAudiences = [] ∨ ∃ s ∈ t.audience, s ∈ a.config.allowedAudiences, .audience t.audience⟩,
   ⟨Grants t r.scopes (r.mode.getD a.config.scopeMatch), .scope r.scopes⟩,
   ⟨Live a.store t, .revoked t.id⟩]

def demands (a : Authority) (now : Instant) (t : Token) (r : Requirement) : List Demand :=
  a.demandsWith (t.notBefore.shift (-a.config.clockSkew.nanos) ≤ now)
    (now ≤ t.expiresAt.shift a.config.clockSkew.nanos) now t r

/-- The demands with times as numbers of nanoseconds. -/
def countedDemands (a : Authority) (now : Instant) (t : Token) (r : Requirement) : List Demand :=
  a.demandsWith (t.notBefore.upper - a.config.clockSkew.nanos ≤ now.upper)
    (now.upper ≤ t.expiresAt.upper + a.config.clockSkew.nanos) now t r

section
variable {a : Authority} {now : Instant} {t : Token}

theorem verify_eq_ok {keyId : String} :
    t.verify keyId now = .ok () ↔
      ∃ value, t.value = some value ∧ value.openWith keyId now = .ok (t.claims keyId) := by
  constructor
  · intro verified
    unfold Token.verify at verified
    cases value : t.value with
    | none => simp only [value] at verified; cases verified
    | some b =>
      simp only [value] at verified
      obtain ⟨claims, opened, rest⟩ := bind_ok verified
      split at rest
      next own => exact ⟨b, rfl, own ▸ opened⟩
      next => cases rest
  · rintro ⟨value, shown, opened⟩
    unfold Token.verify
    simp only [shown, opened]
    exact if_pos rfl

theorem checkSignature_eq_ok : a.checkSignature t now = .ok () ↔ Signed a.keys now t := by
  simp only [checkSignature_ok, verify_eq_ok, Signed]

theorem verifyWithSome_error {first fault : SignatureFault} {ids : List String}
    (failed : verifyWithSome t now (some first) ids = .error fault) : fault = first := by
  induction ids with
  | nil => exact (Except.error.inj failed).symm
  | cons id rest ih =>
    unfold verifyWithSome at failed
    split at failed
    · cases failed
    · exact ih failed

theorem checkSignature_error (unsigned : ¬ Signed a.keys now t) :
    a.checkSignature t now = .error (.signature (firstFault a.keys now t)) := by
  cases checked : a.checkSignature t now with
  | ok _ => exact absurd (checkSignature_eq_ok.mp checked) unsigned
  | error e =>
    obtain ⟨fault, failed, rfl⟩ := mapError_error checked
    unfold firstFault
    cases ids : a.keys.verifiers t.keyId with
    | nil =>
      rw [ids] at failed
      cases failed
      rfl
    | cons id rest =>
      rw [ids, verifyWithSome] at failed
      cases verified : t.verify id now with
      | ok _ => simp [verified] at failed
      | error first =>
        simp only [verified] at failed
        simp [verified, verifyWithSome_error failed]

theorem permits_iff {allowed items : List String} :
    permits allowed items = true ↔ allowed = [] ∨ ∃ s ∈ items, s ∈ allowed := by
  simp [permits]

theorem satisfied_iff {required : List String} {mode : ScopeMatch} :
    mode.satisfied required t.hasScope = true ↔ Grants t required mode := by
  cases mode with
  | all =>
    have none : required = [] → ∀ s ∈ required, s ∈ t.scopes := by rintro rfl s ⟨⟩
    simpa [ScopeMatch.satisfied, Token.hasScope, Grants] using none
  | any => simp [ScopeMatch.satisfied, Token.hasScope, Grants]

section
variable (works : a.backend.outages = []) (id : String)
include works

theorem isRevoked_of_works : a.backend.isRevoked id = .ok (a.store.isRevoked id) := by
  simp [Token.Backend.isRevoked, Token.Backend.attempt, Token.Backend.outage?, works, store]

theorem get_of_works : a.backend.get id = a.store.get id := by
  simp [Token.Backend.get, Token.Backend.attempt, Token.Backend.outage?, works, store]

end

theorem not_isRevoked_iff {s : Token.Store} {id : String} :
    s.isRevoked id = false ↔
      (∀ b ∈ s.blacklist, b.id ≠ id) ∧ ∀ record, s.find? id = some record → record.revocation = none := by
  have same := not_congr (@Token.Store.isRevoked_iff s id)
  rw [Bool.not_eq_true, Token.Store.entryOf?_isSome] at same
  simpa [Token.isRevoked] using same

theorem checkRevocation_live (works : a.backend.outages = []) (live : Live a.store t) :
    ∃ record, a.store.find? t.id = some record ∧ a.checkRevocation t = .ok record := by
  obtain ⟨record, found, unrevoked⟩ := live.record
  have listed : a.store.isRevoked t.id = false := by
    refine not_isRevoked_iff.mpr ⟨live.id, fun r here => ?_⟩
    cases found.symm.trans here
    exact unrevoked
  refine ⟨record, found, checkRevocation_eq_ok.mpr ⟨congrArg Option.isSome live.token, ?_, ?_,
    congrArg Option.isSome unrevoked⟩⟩
  · rw [isRevoked_of_works works, listed]
  · rw [get_of_works works, Token.Store.get, found]

theorem checkRevocation_gone (works : a.backend.outages = []) (gone : ¬ Live a.store t) :
    a.checkRevocation t = .error (.revoked t.id) := by
  unfold checkRevocation
  rw [isRevoked_of_works works, get_of_works works]
  cases presented : t.isRevoked with
  | true => rfl
  | false =>
    cases listed : a.store.isRevoked t.id with
    | true => rfl
    | false =>
      obtain ⟨unlisted, unrevoked⟩ := not_isRevoked_iff.mp listed
      cases found : a.store.find? t.id with
      | none => simp only [Token.Store.get, found]; rfl
      | some record =>
        have whole : Live a.store t :=
          ⟨by simpa [Token.isRevoked] using presented, unlisted, record, found, unrevoked record found⟩
        exact absurd whole gone

theorem checkRevocation_decides (works : a.backend.outages = []) :
    Decides [⟨Live a.store t, .revoked t.id⟩] (a.store.find? t.id) (a.checkRevocation t) := by
  by_cases live : Live a.store t
  · obtain ⟨record, found, passed⟩ := checkRevocation_live works live
    rw [found, passed]
    exact .cons (fun _ => .nil record) (fun _ => rfl) fun gone => absurd live gone
  · exact .cons (y := a.checkRevocation t) (fun live' => absurd live' live) (fun _ => rfl)
      (checkRevocation_gone works)

theorem checkRest_eq (r : Requirement) :
    a.checkRest t r =
      if ¬ permits a.config.allowedIssuers [t.issuer] = true then .error (.issuer t.issuer)
      else if ¬ permits a.config.allowedAudiences t.audience = true then .error (.audience t.audience)
      else if ¬ (r.mode.getD a.config.scopeMatch).satisfied r.scopes t.hasScope = true then
        .error (.scope r.scopes)
      else a.checkRevocation t := by
  unfold checkRest checkParties checkScopes
  cases permits a.config.allowedIssuers [t.issuer] with
  | false => rfl
  | true =>
    cases permits a.config.allowedAudiences t.audience with
    | false => rfl
    | true => cases (r.mode.getD a.config.scopeMatch).satisfied r.scopes t.hasScope <;> rfl

/-- Validation of a token comes to the end that the demands say, and to no other. Outside leap seconds these
compare times as numbers of nanoseconds. -/
theorem validation_decided_by_demands (works : a.backend.outages = []) (begins : t.notBefore.Valid)
    (ends : t.expiresAt.Valid) (there : now.Valid) (early : now ≤ .latest) (r : Requirement) :
    (∀ record, a.validate now t r = .ok record ↔
      (∀ d ∈ a.demands now t r, d.holds) ∧ a.store.find? t.id = some record) ∧
    (∀ e, a.validate now t r = .error e ↔ FirstUnmet (a.demands now t r) e) ∧
    (t.notBefore.nanos < Instant.nanosPerSecond → t.expiresAt.nanos < Instant.nanosPerSecond →
      now.nanos < Instant.nanosPerSecond → a.demands now t r = a.countedDemands now t r) := by
  have begun := (not_iff_comm.mp (Instant.not_lt_earliest begins a.config.clockSkew there)).symm
  have lasts := (not_iff_comm.mp (Instant.not_lt_latest ends a.config.clockSkew early)).symm
  have decides : Decides (a.demands now t r) (a.store.find? t.id) (a.validate now t r) := by
    refine Decides.cons (y := a.checkClaims t r now) (fun _ => ?_) (fun signed => ?_) fun unsigned => ?_
    · rw [checkClaims_eq, checkRest_eq]
      refine .ite (.ite (.ite (.ite (.ite ?_ ?_) ?_) ?_) lasts) begun
      · exact checkRevocation_decides works
      all_goals simp only [permits_iff, satisfied_iff, List.mem_singleton, exists_eq_left]
    · obtain ⟨k, member, verified⟩ := checkSignature_ok.mp (checkSignature_eq_ok.mpr signed)
      exact validate_signed member verified r
    · unfold validate
      rw [checkSignature_error unsigned]
      rfl
  refine ⟨decides.accepts, decides.refuses, fun plain plain' plain'' => ?_⟩
  simp only [demands, countedDemands, Instant.shift_le_iff plain plain'', Instant.le_shift_iff plain' plain'',
    Int.sub_eq_add_neg]

end

namespace Ends
open Sample

def issued (skew : Duration) (now expiry : Instant) : Authority :=
  ((start { clockSkew := skew }).run (outside now)
    (.issue { id := some "x", subject := "alice", expiresAt := some expiry })).2

theorem demands_met {a : Authority} {begun lasts : Prop} {now : Instant} {t : Token} (signed : Signed a.keys now t)
    (begins : begun) (ends : lasts) (issuers : a.config.allowedIssuers = [])
    (audiences : a.config.allowedAudiences = []) (live : Live a.store t) :
    ∀ d ∈ a.demandsWith begun lasts now t {}, d.holds := by
  have nothing (mode : ScopeMatch) : Grants t [] mode := by cases mode <;> simp [Grants]
  simp [demandsWith, signed, begins, ends, issuers, audiences, live, nothing]

/-- The time of a token that expires in a leap second is over in the next second, as if that were over a second
earlier; and on the last day a leap second is past all sums. By the numbers of nanoseconds both have time left. -/
theorem refused_with_time_left :
    let leap : Instant := ⟨1483228799, 1500000000⟩
    let a := issued .zero ⟨1483221600, 0⟩ leap
    let t := token .access ⟨1483221600, 0⟩ leap
    let now : Instant := ⟨1483228800, 250000000⟩
    let b := issued (.ofSeconds 120) ⟨8210266869600, 0⟩ ⟨8210266876799, 0⟩
    let u := token .access ⟨8210266869600, 0⟩ ⟨8210266876799, 0⟩
    let now' : Instant := ⟨8210266876799, 1500000000⟩
    ((∀ d ∈ a.countedDemands now t {}, d.holds) ∧ a.store.find? t.id = some t ∧
      a.validate now t {} = .error (.expired t.expiresAt)) ∧
    (∀ d ∈ b.countedDemands now' u {}, d.holds) ∧ b.store.find? u.id = some u ∧
      b.validate now' u {} = .error (.expired u.expiresAt) := by
  intro leap a t now b u now'
  refine ⟨⟨?_, by decide +kernel, by decide +kernel⟩, ?_, by decide +kernel, by decide +kernel⟩
  · exact demands_met (checkSignature_eq_ok.mp (by decide +kernel)) (by decide +kernel) (by decide +kernel)
      (by decide +kernel) (by decide +kernel) ⟨rfl, by decide +kernel, t, by decide +kernel, rfl⟩
  · exact demands_met (checkSignature_eq_ok.mp (by decide +kernel)) (by decide +kernel) (by decide +kernel)
      (by decide +kernel) (by decide +kernel) ⟨rfl, by decide +kernel, u, by decide +kernel, rfl⟩

/-- With a skew that reaches beyond all instants a token is accepted on the last day, as it is on any other. -/
theorem accepted_on_the_last_day :
    let a := issued (.ofSeconds 120) ⟨8210266869600, 0⟩ ⟨8210266876799, 0⟩
    let t := token .access ⟨8210266869600, 0⟩ ⟨8210266876799, 0⟩
    let now : Instant := ⟨8210266876799, 500000000⟩
    a.backend.outages = [] ∧ t.notBefore.Valid ∧ t.expiresAt.Valid ∧ now.Valid ∧ now ≤ .latest ∧
      a.validate now t {} = .ok t := by
  intro a t now
  have begins : t.notBefore.Valid := ⟨by decide, by decide, by decide⟩
  have ends : t.expiresAt.Valid := ⟨by decide, by decide, by decide⟩
  have there : now.Valid := ⟨by decide, by decide, by decide⟩
  have early : now ≤ .latest := by decide
  have works : a.backend.outages = [] := by decide +kernel
  refine ⟨works, begins, ends, there, early, ?_⟩
  refine ((validation_decided_by_demands works begins ends there early {}).1 t).mpr ⟨?_, by decide +kernel⟩
  exact demands_met (checkSignature_eq_ok.mp (by decide +kernel)) (by decide +kernel) (by decide +kernel)
    (by decide +kernel) (by decide +kernel) ⟨rfl, by decide +kernel, t, by decide +kernel, rfl⟩

end Ends

end Gatehouse.Authority
