import Gatehouse.Proofs.Authority.Identity
import Gatehouse.Proofs.Instant

/-!
Where the effects in a run come from. Each stems from one command and takes place at the time of that
command. An authority whose store works deletes no records by itself: a rotation takes back the token that it
issued only if it cannot revoke the old one.
-/
namespace Gatehouse.Authority

/-- A command of the authority itself, not one of its store or for outages of the store. -/
def Command.isOwn : Command → Bool
  | .store _ => false
  | .switch _ _ => false
  | _ => true

theorem Command.bypasses_of_isOwn {c : Command} (own : c.isOwn = true) : c.bypasses = false := by
  cases c <;> first | rfl | cases own

def Effect.StemsFrom (a : Authority) (o : Outside) (c : Command) : Effect → Prop
  | issued now _ _ _ => now = o.now
  | revoked _ _ => True
  | deleted _ => a.backend.outages = [] → c.isOwn = false
  | cleaned before => c = .cleanup ∧ o.now.sub? a.retention = some before ∨ c = .store (.cleanup before)
  | keys now _ => now = o.now
  | switched op mode => c = .switch op mode

theorem Effect.apply_config (a : Authority) (e : Effect) : (e.apply a).config = a.config := by
  cases e with
  | revoked id status =>
    simp only [apply]
    split <;> rfl
  | _ => rfl

theorem Effect.apply_outages (a : Authority) {e : Effect} (other : ∀ op mode, e ≠ .switched op mode) :
    (e.apply a).backend.outages = a.backend.outages := by
  cases e with
  | revoked id status =>
    simp only [apply]
    split <;> rfl
  | switched op mode => exact absurd rfl (other op mode)
  | _ => rfl

theorem Explains.config {a b : Authority} {es : List Effect} (explains : Explains a es b) :
    b.config = a.config := by
  induction es generalizing a with
  | nil => rw [explains]
  | cons e rest ih => exact (ih explains.2).trans (e.apply_config a)

theorem Explains.outages {a b : Authority} {es : List Effect} (explains : Explains a es b)
    (others : ∀ op mode, .switched op mode ∉ es) : b.backend.outages = a.backend.outages := by
  induction es generalizing a with
  | nil => rw [explains]
  | cons e rest ih =>
    have later := ih explains.2 fun op mode member => others op mode (List.mem_cons_of_mem _ member)
    exact later.trans (e.apply_outages a fun op mode same => others op mode (same ▸ List.mem_cons_self))

theorem validate_ok {a : Authority} {now : Instant} {t record : Token} {r : Requirement}
    (valid : a.validate now t r = .ok record) :
    a.checkSignature t now = .ok () ∧ a.checkClaims t r now = .ok record := by
  obtain ⟨_, signed, claims⟩ := bind_ok valid
  exact ⟨signed, claims⟩

theorem checkTime_ok {a : Authority} {t : Token} {now : Instant} (inTime : a.checkTime t now = .ok ()) :
    ¬ (t.expiresAt.add? (.ofDuration a.config.clockSkew)).getD .latest < now := by
  intro late
  unfold checkTime at inTime
  simp only [late, if_true] at inTime
  split at inTime <;> cases inTime

theorem revoke_valid {a b : Authority} (works : a.backend.outages = []) {now : Instant}
    {old current t : Token} {q : Requirement} (valid : a.validate now old q = .ok current) {fresh : String}
    {r : Token.Request} (issued : a.issue now fresh r = .ok (t, b)) (status : Token.Revocation) :
    ∃ backend, b.backend.revoke current.id status = .ok (true, backend) := by
  obtain ⟨found, unrevoked⟩ := checkRevocation_ok (checkClaims_ok (validate_ok valid).2)
  obtain ⟨⟨_, _, -, -, -, free⟩, rfl⟩ := issue_ok issued
  have own := (Token.Store.mem_of_find? found).2
  have other : ¬ old.id = t.id := fun same => by
    rw [same, free] at found
    cases found
  have there : (a.store.put (a.store.marked t)).find? current.id = some current := by
    rw [Token.Store.find?_put, own]
    exact (if_neg other).trans found
  have live : current.isRevoked = false := by rw [Token.isRevoked, unrevoked]; rfl
  obtain ⟨s, revoked⟩ : ∃ s, (a.store.put (a.store.marked t)).revoke current.id status = .ok (true, s) := by
    simp [Token.Store.revoke, there, live]
  refine ⟨a.backend.withStore s, ?_⟩
  simp [Token.Backend.revoke, Token.Backend.outage?, Token.Backend.attempt, Effect.apply, withStore,
    Token.Backend.withStore, works, revoked, Except.map]

theorem mem_issueEffects {a : Authority} {now : Instant} {fresh : String} {r : Token.Request} {e : Effect}
    (member : e ∈ a.issueEffects now fresh r) : ∃ t, e = .issued now fresh r t := by
  unfold issueEffects at member
  split at member
  next t _ _ => exact ⟨t, List.mem_singleton.mp member⟩
  next => cases member

theorem mem_revokeEffects {a : Authority} {id : String} {status : Token.Revocation} {e : Effect}
    (member : e ∈ a.revokeEffects id status) : e = .revoked id status := by
  unfold revokeEffects at member
  split at member
  · exact List.mem_singleton.mp member
  · cases member

theorem mem_deleteEffects {a : Authority} {id : String} {e : Effect} (member : e ∈ a.deleteEffects id) :
    e = .deleted id := by
  unfold deleteEffects at member
  split at member
  · exact List.mem_singleton.mp member
  · cases member

theorem mem_cleanEffects {a : Authority} {before : Instant} {e : Effect}
    (member : e ∈ a.cleanEffects before) : e = .cleaned before := by
  unfold cleanEffects at member
  split at member
  · exact List.mem_singleton.mp member
  · cases member

/-- What a rotation may do: it issues a token, and then revokes the old one or, if the store is out of order,
takes the new one back. -/
def Effect.Rotates (a : Authority) (now stamp : Instant) : Effect → Prop
  | issued m _ _ _ => m = now
  | revoked _ status => status = ⟨stamp, none, "rotated"⟩
  | deleted _ => a.backend.outages ≠ []
  | _ => False

theorem mem_rotateEffects {a : Authority} {now stamp : Instant} {fresh : String} {old : Token}
    {r : Token.Request} {e : Effect} (member : e ∈ a.rotateEffects now stamp fresh old r) :
    e.Rotates a now stamp := by
  unfold rotateEffects at member
  cases known : a.get old.id with
  | error _ => simp [known] at member
  | ok _ =>
    cases valid : a.validate now old {} with
    | error _ => simp [known, valid] at member
    | ok current =>
      simp only [known, valid, replaceEffects] at member
      cases issued : a.issue now fresh (successorOf current r) with
      | error _ => simp [issued] at member
      | ok result =>
        obtain ⟨t, b⟩ := result
        simp only [issued] at member
        rcases List.mem_cons.mp member with rfl | later
        · rfl
        · split at later
          · rw [mem_revokeEffects later]
            rfl
          next failed =>
            rw [mem_deleteEffects later]
            intro works
            obtain ⟨backend, revoked⟩ := revoke_valid works valid issued ⟨stamp, none, "rotated"⟩
            exact failed backend revoked

theorem rotate_outages (a : Authority) (now stamp : Instant) (fresh : String) (old : Token)
    (r : Token.Request) : (a.rotate now stamp fresh old r).2.backend.outages = a.backend.outages :=
  (explains_rotate a now stamp fresh old r).outages fun _ _ member => mem_rotateEffects member

theorem mem_turnEffects {now stamp : Instant} {callers : List (Nat × Rotation)} {l : Locks} {a : Authority}
    {e : Effect} (member : e ∈ turnEffects now stamp callers l a) : e.Rotates a now stamp := by
  induction callers generalizing l a with
  | nil => cases member
  | cons caller rest ih =>
    obtain ⟨number, r⟩ := caller
    simp only [turnEffects] at member
    split at member
    · rcases List.mem_append.mp member with first | later
      · exact mem_rotateEffects first
      · have rotates := ih later
        cases e with
        | deleted id =>
          simp only [Effect.Rotates, rotate_outages] at rotates
          exact rotates
        | _ => exact rotates
    · exact ih member

theorem Effect.Rotates.stems {a : Authority} {o : Outside} {c : Command} {e : Effect}
    (rotates : e.Rotates a o.now o.stamp) : e.StemsFrom a o c := by
  cases e with
  | issued m fresh r t => exact rotates
  | revoked id status => trivial
  | deleted id => exact fun works => absurd works rotates
  | _ => exact rotates.elim

/-- Every effect of a command stems from it. -/
theorem stems_from {a : Authority} {o : Outside} {c : Command} {e : Effect} (member : e ∈ a.effects o c) :
    e.StemsFrom a o c := by
  cases c with
  | issue r =>
    obtain ⟨t, rfl⟩ := mem_issueEffects member
    rfl
  | rotate old r => exact (mem_rotateEffects member).stems
  | rotateMany old r n => exact (mem_turnEffects member).stems
  | refresh t =>
    simp only [effects, refreshEffects] at member
    split at member
    · split at member
      · obtain ⟨u, rfl⟩ := mem_issueEffects member
        rfl
      · cases member
    · cases member
  | revoke id reason revokedBy =>
    rw [mem_revokeEffects member]
    trivial
  | cleanup =>
    simp only [effects] at member
    split at member
    · cases member
    next before cut =>
      rw [mem_cleanEffects member]
      exact .inl ⟨rfl, cut⟩
  | pruneKeys =>
    rw [List.mem_singleton.mp member]
    rfl
  | switch op mode =>
    rw [List.mem_singleton.mp member]
    rfl
  | keys k =>
    rw [List.mem_singleton.mp member]
    rfl
  | store d =>
    cases d with
    | delete id =>
      rw [mem_deleteEffects member]
      exact fun _ => rfl
    | revoke id status =>
      rw [mem_revokeEffects member]
      trivial
    | cleanup before =>
      rw [mem_cleanEffects member]
      exact .inr rfl
    | _ => cases member
  | _ => cases member

theorem perform_append (a : Authority) (first second : List (Outside × Command)) :
    a.perform (first ++ second) = (a.perform first).perform second :=
  List.foldl_append

theorem history_append (a : Authority) (first second : List (Outside × Command)) :
    a.history (first ++ second) = a.history first ++ (a.perform first).history second := by
  induction first generalizing a with
  | nil => rfl
  | cons c rest ih => exact (congrArg _ (ih _)).trans (List.append_assoc ..).symm

theorem history_origin {a : Authority} {commands : List (Outside × Command)} {e : Effect}
    (member : e ∈ a.history commands) :
    ∃ earlier d later, commands = earlier ++ d :: later ∧ e ∈ (a.perform earlier).effects d.1 d.2 := by
  induction commands generalizing a with
  | nil => cases member
  | cons c rest ih =>
    rcases List.mem_append.mp member with here | there
    · exact ⟨[], c, rest, rfl, here⟩
    · obtain ⟨earlier, d, later, rfl, origin⟩ := ih there
      exact ⟨c :: earlier, d, later, rfl, origin⟩

theorem perform_config (a : Authority) {commands : List (Outside × Command)}
    (direct : ∀ c ∈ commands, c.2.bypasses = false) : (a.perform commands).config = a.config :=
  (explains_history a direct).config

theorem perform_retention (a : Authority) {commands : List (Outside × Command)}
    (direct : ∀ c ∈ commands, c.2.bypasses = false) : (a.perform commands).retention = a.retention :=
  congrArg (fun config : Config.Tokens => Span.ofDuration config.retention) (perform_config a direct)

theorem perform_outages (a : Authority) {commands : List (Outside × Command)}
    (own : ∀ c ∈ commands, c.2.isOwn = true) : (a.perform commands).backend.outages = a.backend.outages := by
  refine (explains_history a fun c member => (own c member |> Command.bypasses_of_isOwn)).outages ?_
  intro op mode member
  obtain ⟨earlier, d, later, rfl, origin⟩ := history_origin member
  have switch : d.2 = .switch op mode := stems_from origin
  have this := own d (by simp)
  rw [switch] at this
  cases this

/-- Whether records are kept as long as the skew of clocks, and for leap seconds that are in the way. -/
def Keeps (config : Config.Tokens) (leaps : Nat) : Prop :=
  (Span.ofDuration config.clockSkew).nanos + leaps ≤ (Span.ofDuration config.retention).nanos

theorem keeps_of_le {config : Config.Tokens} (longer : config.clockSkew ≤ config.retention) :
    Keeps config 0 := by
  simpa [Keeps] using Span.ofDuration_mono longer

/-- Only a cleanup removes records, once they are old enough. -/
theorem cleaned_of_removes {start : Authority} {commands : List (Outside × Command)}
    (works : start.backend.outages = []) (own : ∀ d ∈ commands, d.2.isOwn = true) {e : Effect} {t : Token}
    (member : e ∈ start.history commands) (removes : e.Removes t) :
    ∃ d ∈ commands, d.2 = .cleanup ∧ ∃ before, d.1.now.sub? start.retention = some before ∧
      t.expiresAt < before := by
  obtain ⟨earlier, d, later, rfl, origin⟩ := history_origin member
  have ownEarlier : ∀ c ∈ earlier, c.2.isOwn = true := fun c there => own c (by simp [there])
  have direct := fun c there => Command.bypasses_of_isOwn (ownEarlier c there)
  have sameOutages := perform_outages start ownEarlier
  have stems := stems_from origin
  have here := own d (by simp)
  cases e with
  | deleted id =>
    rw [stems (sameOutages.trans works)] at here
    cases here
  | cleaned before =>
    rcases stems with ⟨cleanup, cut⟩ | past
    · rw [perform_retention start direct] at cut
      exact ⟨d, by simp, cleanup, before, cut, removes⟩
    · rw [past] at here
      cases here
  | _ => exact removes.elim

def Effect.time? : Effect → Option Instant
  | issued now _ _ _ => some now
  | keys now _ => some now
  | _ => none

theorem time_of_stems {a : Authority} {o : Outside} {c : Command} {e : Effect} (stems : e.StemsFrom a o c)
    {n : Instant} (time : e.time? = some n) : n = o.now := by
  cases e <;> cases time <;> exact stems

theorem history_time {a : Authority} {commands : List (Outside × Command)} {e : Effect}
    (member : e ∈ a.history commands) {n : Instant} (time : e.time? = some n) :
    ∃ d ∈ commands, n = d.1.now := by
  obtain ⟨earlier, d, later, rfl, origin⟩ := history_origin member
  exact ⟨d, by simp, time_of_stems (stems_from origin) time⟩

/-- Under a clock that never goes back effects come in the order of their times. -/
theorem history_ordered (a : Authority) {commands : List (Outside × Command)}
    (clock : commands.Pairwise fun c d => c.1.now ≤ d.1.now) :
    (a.history commands).Pairwise fun e f => ∀ m n, e.time? = some m → f.time? = some n → m ≤ n := by
  induction commands generalizing a with
  | nil => exact .nil
  | cons c rest ih =>
    obtain ⟨first, clock⟩ := List.pairwise_cons.mp clock
    refine List.pairwise_append.mpr ⟨?_, ih _ clock, ?_⟩
    · refine List.pairwise_of_forall_mem_list fun e here f there m n time time' => ?_
      rw [time_of_stems (stems_from here) time, time_of_stems (stems_from there) time']
      exact Instant.le_refl _
    · intro e here f there m n time time'
      obtain ⟨d, later, rfl⟩ := history_time there time'
      rw [time_of_stems (stems_from here) time]
      exact first d later

namespace Sample

def oneKey : KeyRing := KeyRing.add {} ⟨"k", "", ""⟩ true ⟨0, 0⟩

def start (config : Config.Tokens) : Authority := ofParts config oneKey {}

def outside (now : Instant) : Outside := ⟨now, now, fun _ => "drawn"⟩

def token (kind : Token.Kind) (issuedAt expiresAt : Instant) : Token :=
  Token.signWith
    { id := "x", kind, subject := "alice", issuer := "warden", issuedAt, notBefore := issuedAt, expiresAt
      keyId := some "k" } "k"

end Sample

end Gatehouse.Authority
