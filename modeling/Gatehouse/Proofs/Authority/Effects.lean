import Gatehouse.Authority.Command
import Gatehouse.Proofs.Except
import Gatehouse.Proofs.Token.Store

/-!
What the operations of an authority do to it. Each of them comes down to a few effects on the store and the
ring, in an order; what can be said about every run is said about every single effect.
-/
namespace Gatehouse.Authority

inductive Effect where
  /-- A token was signed at `now` and put into the store. -/
  | issued (now : Instant) (fresh : String) (r : Token.Request) (t : Token)
  | revoked (id : String) (status : Token.Revocation)
  | deleted (id : String)
  | cleaned (before : Instant)
  | keys (now : Instant) (c : KeyRing.Command)
  | switched (o : Token.Operation) (mode : Option Token.Outage)
  deriving DecidableEq

def store (a : Authority) : Token.Store := a.backend.store

def withStore (a : Authority) (s : Token.Store) : Authority := { a with backend := a.backend.withStore s }

namespace Effect

def apply (a : Authority) : Effect → Authority
  | issued _ _ _ t => a.withStore (a.store.put (a.store.marked t))
  | revoked id status =>
    match a.store.find? id with
    | none => a
    | some t =>
      a.withStore ((a.store.put { t with revocation := some status }).remember ⟨id, status, t.expiresAt⟩)
  | deleted id => a.withStore { a.store with records := a.store.records.filter (·.id ≠ id) }
  | cleaned before => a.withStore (a.store.cleanup before).2
  | keys now c => { a with keys := (a.keys.run now c).2 }
  | switched o mode => { a with backend := a.backend.switch o mode }

/-- What is certain when an effect takes place. -/
def Allowed (a : Authority) : Effect → Prop
  | issued now fresh r t => ∃ keyId d, a.keys.signer? = some keyId ∧
    a.draft keyId now fresh r = .ok d ∧ t = d.signWith keyId ∧ a.store.find? t.id = none
  | revoked id _ => ∃ t, a.store.find? id = some t ∧ t.isRevoked = false
  | _ => True

end Effect

/-- Effects, each certain where it takes place, lead from one authority to another. -/
def Explains (a : Authority) : List Effect → Authority → Prop
  | [], b => b = a
  | e :: es, b => e.Allowed a ∧ Explains (e.apply a) es b

theorem Explains.single {a : Authority} {e : Effect} (allowed : e.Allowed a) :
    Explains a [e] (e.apply a) := ⟨allowed, rfl⟩

theorem Explains.append {a b c : Authority} {es fs : List Effect} (first : Explains a es b)
    (second : Explains b fs c) : Explains a (es ++ fs) c := by
  induction es generalizing a with
  | nil =>
    cases first
    exact second
  | cons e rest ih => exact ⟨first.1, ih first.2⟩

theorem Explains.split {a c : Authority} {es fs : List Effect} (explains : Explains a (es ++ fs) c) :
    ∃ b, Explains a es b ∧ Explains b fs c := by
  induction es generalizing a with
  | nil => exact ⟨a, rfl, explains⟩
  | cons e rest ih =>
    obtain ⟨b, first, second⟩ := ih explains.2
    exact ⟨b, ⟨explains.1, first⟩, second⟩

def issueEffects (a : Authority) (now : Instant) (fresh : String) (r : Token.Request) : List Effect :=
  match a.issue now fresh r with
  | .ok (t, _) => [.issued now fresh r t]
  | .error _ => []

def revokeEffects (a : Authority) (id : String) (status : Token.Revocation) : List Effect :=
  match a.backend.revoke id status with
  | .ok (true, _) => [.revoked id status]
  | _ => []

def deleteEffects (a : Authority) (id : String) : List Effect :=
  match a.backend.delete id with
  | .ok _ => [.deleted id]
  | .error _ => []

def cleanEffects (a : Authority) (before : Instant) : List Effect :=
  match a.backend.cleanup before with
  | .ok _ => [.cleaned before]
  | .error _ => []

theorem attempt_eq_ok {α : Type} {b : Token.Backend} {o : Token.Operation}
    {run : Except Token.StoreError α} {x : α} :
    b.attempt o run = .ok x ↔ b.outage? o ≠ some .refuses ∧ run = .ok x := by
  unfold Token.Backend.attempt
  by_cases refuses : b.outage? o = some .refuses <;> simp [refuses]

theorem attempt_ok {α : Type} {b : Token.Backend} {o : Token.Operation}
    {run : Except Token.StoreError α} {x : α} (attempted : b.attempt o run = .ok x) : run = .ok x :=
  (attempt_eq_ok.mp attempted).2

theorem insert_ok {b c : Token.Backend} {t : Token} (inserted : b.insert t = .ok c) :
    b.store.find? t.id = none ∧ c = b.withStore (b.store.put (b.store.marked t)) := by
  obtain ⟨s, stored, rfl⟩ := map_ok (attempt_ok inserted)
  obtain ⟨free, rfl⟩ := Token.Store.insert_ok stored
  exact ⟨free, rfl⟩

theorem issue_ok {a b : Authority} {now : Instant} {fresh : String} {r : Token.Request} {t : Token}
    (issued : a.issue now fresh r = .ok (t, b)) :
    (Effect.issued now fresh r t).Allowed a ∧ b = (Effect.issued now fresh r t).apply a := by
  unfold issue at issued
  cases signer : a.keys.signer? with
  | none => simp [signer] at issued
  | some keyId =>
    simp only [signer] at issued
    obtain ⟨d, drafted, rest⟩ := bind_ok issued
    cases stored : a.backend.insert (d.signWith keyId) with
    | error e => cases e <;> simp [stored] at rest
    | ok backend =>
      rw [stored] at rest
      cases rest
      obtain ⟨free, rfl⟩ := insert_ok stored
      exact ⟨⟨keyId, d, signer, drafted, rfl, free⟩, rfl⟩

theorem explains_issue (a : Authority) (now : Instant) (fresh : String) (r : Token.Request) {t : Token}
    {b : Authority} (issued : a.issue now fresh r = .ok (t, b)) :
    Explains a (a.issueEffects now fresh r) b := by
  obtain ⟨allowed, rfl⟩ := issue_ok issued
  rw [issueEffects, issued]
  exact .single allowed

theorem explains_revoke {a : Authority} {id : String} {status : Token.Revocation} {changed : Bool}
    {backend : Token.Backend} (revoked : a.backend.revoke id status = .ok (changed, backend)) :
    Explains a (a.revokeEffects id status) { a with backend } := by
  rw [revokeEffects, revoked]
  unfold Token.Backend.revoke at revoked
  split at revoked
  · cases revoked
    rfl
  · obtain ⟨⟨flag, s⟩, stored, same⟩ := map_ok (attempt_ok revoked)
    cases same
    rcases Token.Store.revoke_ok stored with ⟨rfl, rfl⟩ | ⟨rfl, t, found, fresh, rfl⟩
    · rfl
    · refine ⟨⟨t, found, fresh⟩, ?_⟩
      simp only [Effect.apply, store, found]
      rfl

theorem explains_delete {a : Authority} {id : String} {backend : Token.Backend}
    (deleted : a.backend.delete id = .ok backend) :
    Explains a (a.deleteEffects id) { a with backend } := by
  rw [deleteEffects, deleted]
  obtain ⟨s, stored, rfl⟩ := map_ok (attempt_ok deleted)
  refine ⟨trivial, ?_⟩
  rw [Token.Store.delete_ok stored]
  rfl

theorem explains_clean {a : Authority} {before : Instant} {removed : Nat} {backend : Token.Backend}
    (cleaned : a.backend.cleanup before = .ok (removed, backend)) :
    Explains a (a.cleanEffects before) { a with backend } := by
  rw [cleanEffects, cleaned]
  cases attempt_ok cleaned
  exact ⟨trivial, rfl⟩

theorem explains_discard (a : Authority) (id : String) :
    Explains a (a.deleteEffects id) (a.discard id) := by
  unfold discard
  cases deleted : a.backend.delete id with
  | error e =>
    rw [deleteEffects, deleted]
    rfl
  | ok backend => exact explains_delete deleted

def replaceEffects (a : Authority) (now stamp : Instant) (fresh : String) (current : Token)
    (r : Token.Request) : List Effect :=
  match a.issue now fresh (successorOf current r) with
  | .error _ => []
  | .ok (t, b) =>
    .issued now fresh (successorOf current r) t ::
      match b.backend.revoke current.id ⟨stamp, none, "rotated"⟩ with
      | .ok (true, _) => b.revokeEffects current.id ⟨stamp, none, "rotated"⟩
      | _ => b.deleteEffects t.id

def rotateEffects (a : Authority) (now stamp : Instant) (fresh : String) (old : Token)
    (r : Token.Request) : List Effect :=
  match a.get old.id, a.validate now old {} with
  | .ok _, .ok current => a.replaceEffects now stamp fresh current r
  | _, _ => []

theorem explains_rotate (a : Authority) (now stamp : Instant) (fresh : String) (old : Token)
    (r : Token.Request) :
    Explains a (a.rotateEffects now stamp fresh old r) (a.rotate now stamp fresh old r).2 := by
  unfold rotate rotateEffects
  cases known : a.get old.id with
  | error e => rfl
  | ok _ =>
    cases valid : a.validate now old {} with
    | error e => rfl
    | ok current =>
      simp only [replaceEffects]
      cases issued : a.issue now fresh (successorOf current r) with
      | error e => rfl
      | ok result =>
        obtain ⟨t, b⟩ := result
        obtain ⟨allowed, same⟩ := issue_ok issued
        refine ⟨allowed, ?_⟩
        simp only [← same]
        cases revoked : b.backend.revoke current.id ⟨stamp, none, "rotated"⟩ with
        | error e => exact explains_discard b t.id
        | ok result =>
          obtain ⟨changed, backend⟩ := result
          cases changed with
          | false => exact explains_discard b t.id
          | true => exact explains_revoke revoked

def accessFor (record : Token) : Token.Request :=
  { kind := .access, subject := record.subject, issuer := some record.issuer
    audience := record.audience, scopes := refreshedScopes record
    metadata := [("refreshed_from", record.id)] }

def refreshEffects (a : Authority) (now : Instant) (fresh : String) (t : Token) : List Effect :=
  match a.validate now t {} with
  | .ok record => if record.kind = .refresh then a.issueEffects now fresh (accessFor record) else []
  | .error _ => []

theorem refresh_ok {a b : Authority} {now : Instant} {fresh : String} {t u : Token}
    (refreshed : a.refresh now fresh t = .ok (u, b)) :
    ∃ record, a.validate now t {} = .ok record ∧ record.kind = .refresh ∧
      a.issue now fresh (accessFor record) = .ok (u, b) := by
  obtain ⟨record, valid, rest⟩ := bind_ok refreshed
  by_cases kind : record.kind = .refresh
  · simp only [kind, ne_eq, not_true_eq_false, if_false] at rest
    exact ⟨record, valid, kind, rest⟩
  · simp only [kind, ne_eq, not_false_eq_true, if_true] at rest
    cases rest

theorem explains_refresh {a b : Authority} {now : Instant} {fresh : String} {t u : Token}
    (refreshed : a.refresh now fresh t = .ok (u, b)) : Explains a (a.refreshEffects now fresh t) b := by
  obtain ⟨record, valid, kind, issued⟩ := refresh_ok refreshed
  simp only [refreshEffects, valid, kind, if_true]
  exact explains_issue a now fresh _ issued

def turnEffects (now stamp : Instant) : List (Nat × Rotation) → Locks → Authority → List Effect
  | [], _, _ => []
  | (number, r) :: rest, l, a =>
    let l := l.enter number
    if l.inside.any (·.number = number) then
      a.rotateEffects now stamp r.fresh r.old r.request ++
        turnEffects now stamp rest ((l.leave number).release number)
          (a.rotate now stamp r.fresh r.old r.request).2
    else turnEffects now stamp rest l a

theorem explains_turns (now stamp : Instant) (callers : List (Nat × Rotation)) (l : Locks)
    (a : Authority) : Explains a (turnEffects now stamp callers l a) (takeTurns now stamp callers l a).2 := by
  induction callers generalizing l a with
  | nil => rfl
  | cons caller rest ih =>
    obtain ⟨number, r⟩ := caller
    by_cases inside : (l.enter number).inside.any (·.number = number)
    · simp only [turnEffects, takeTurns, inside, if_true]
      exact (explains_rotate ..).append (ih ..)
    · simp only [turnEffects, takeTurns, inside]
      exact ih ..

def arrivals (rs : List Rotation) : Locks × List (Nat × Rotation) :=
  let start (acc : Locks × List (Nat × Rotation)) (r : Rotation) : Locks × List (Nat × Rotation) :=
    let l := acc.1.arrive r.old.id
    (l, acc.2 ++ [(l.next - 1, r)])
  rs.foldl start ({}, [])

theorem rotateTogether_eq (a : Authority) (now stamp : Instant) (rs : List Rotation) :
    a.rotateTogether now stamp rs = takeTurns now stamp (arrivals rs).2 (arrivals rs).1 a := rfl

def storeEffects (a : Authority) : Token.Backend.Command → List Effect
  | .delete id => a.deleteEffects id
  | .revoke id status => a.revokeEffects id status
  | .cleanup before => a.cleanEffects before
  | _ => []

def effects (a : Authority) (o : Outside) : Command → List Effect
  | .issue r => a.issueEffects o.now (o.freshId 0) r
  | .rotate old r => a.rotateEffects o.now o.stamp (o.freshId 0) old r
  | .rotateMany old r n =>
    let callers := arrivals ((List.range n).map fun i => ⟨old, r, o.freshId i⟩)
    turnEffects o.now o.stamp callers.2 callers.1 a
  | .refresh t => a.refreshEffects o.now (o.freshId 0) t
  | .revoke id reason revokedBy => a.revokeEffects id ⟨o.stamp, revokedBy, reason⟩
  | .cleanup =>
    match o.now.sub? a.retention with
    | none => []
    | some before => a.cleanEffects before
  | .pruneKeys => [.keys o.now (.prune a.config.maxLifetime)]
  | .switch op mode => [.switched op mode]
  | .store c => a.storeEffects c
  | .keys c => [.keys o.now c]
  | _ => []

/-- Whether a command writes records past the authority. -/
def Command.bypasses : Command → Bool
  | .store (.insert _) => true
  | .store (.save _) => true
  | _ => false

theorem explains_settle {α : Type} {a : Authority} {r : Except Token.Error (α × Authority)}
    {form : α → Answer} {es : List Effect} (failed : ∀ e, r = .error e → es = [])
    (done : ∀ x b, r = .ok (x, b) → Explains a es b) : Explains a es (a.settle r form).2 := by
  cases r with
  | error e =>
    rw [failed e rfl]
    rfl
  | ok result => exact done result.1 result.2 rfl

theorem explains_look {α : Type} (a : Authority) (r : Except Token.Error α) (form : α → Answer) :
    Explains a [] (a.settle (r.map (·, a)) form).2 := by
  refine explains_settle (fun _ _ => rfl) fun x b looked => ?_
  obtain ⟨y, -, same⟩ := map_ok looked
  cases same
  rfl

theorem refreshEffects_error {a : Authority} {now : Instant} {fresh : String} {t : Token}
    {e : Token.Error} (failed : a.refresh now fresh t = .error e) :
    a.refreshEffects now fresh t = [] := by
  unfold refreshEffects
  cases valid : a.validate now t {} with
  | error e => rfl
  | ok record =>
    by_cases kind : record.kind = .refresh
    · have issued : a.refresh now fresh t = a.issue now fresh (accessFor record) := by
        unfold refresh
        rw [valid]
        exact if_neg (not_not_intro kind)
      simp only [kind, if_true, issueEffects, ← issued, failed]
    · simp only [kind, if_false]

theorem explains_storeCommand {a : Authority} {c : Token.Backend.Command}
    (direct : (Command.store c).bypasses = false) {answer : Token.Backend.Answer}
    {backend : Token.Backend} (done : a.backend.run c = .ok (answer, backend)) :
    Explains a (a.storeEffects c) { a with backend } := by
  cases c with
  | insert t => cases direct
  | save t => cases direct
  | delete id =>
    obtain ⟨b, deleted, same⟩ := map_ok done
    cases same
    exact explains_delete deleted
  | revoke id status =>
    obtain ⟨⟨changed, b⟩, revoked, same⟩ := map_ok done
    cases same
    exact explains_revoke revoked
  | cleanup before =>
    obtain ⟨⟨removed, b⟩, cleaned, same⟩ := map_ok done
    cases same
    exact explains_clean cleaned
  | get _ | list _ | count _ | isRevoked _ =>
    obtain ⟨x, -, same⟩ := map_ok done
    cases same
    rfl

theorem storeEffects_error {a : Authority} {c : Token.Backend.Command} {e : Token.StoreError}
    (failed : a.backend.run c = .error e) : a.storeEffects c = [] := by
  cases c with
  | delete id =>
    cases deleted : a.backend.delete id with
    | error _ => simp only [storeEffects, deleteEffects, deleted]
    | ok b => simp [Token.Backend.run, deleted, Except.map] at failed
  | revoke id status =>
    cases revoked : a.backend.revoke id status with
    | error _ => simp only [storeEffects, revokeEffects, revoked]
    | ok b => simp [Token.Backend.run, revoked, Except.map] at failed
  | cleanup before =>
    cases cleaned : a.backend.cleanup before with
    | error _ => simp only [storeEffects, cleanEffects, cleaned]
    | ok b => simp [Token.Backend.run, cleaned, Except.map] at failed
  | _ => rfl

/-- Every command has these effects and no others, unless it writes records past the authority. -/
theorem explains_run (a : Authority) (o : Outside) {c : Command} (direct : c.bypasses = false) :
    Explains a (a.effects o c) (a.run o c).2 := by
  cases c with
  | issue r =>
    refine explains_settle (fun e failed => ?_) fun t b issued => explains_issue a _ _ r issued
    simp only [effects, issueEffects, failed]
  | rotate old r =>
    have same : (a.run o (.rotate old r)).2 = (a.rotate o.now o.stamp (o.freshId 0) old r).2 := by
      simp only [run]
      split
      next rotated => rw [rotated]
      next failed => rw [failed]
    rw [same]
    exact explains_rotate ..
  | rotateMany old r n =>
    simp only [effects, run, rotateTogether_eq]
    exact explains_turns ..
  | refresh t =>
    exact explains_settle (fun e failed => refreshEffects_error failed)
      fun u b refreshed => explains_refresh refreshed
  | revoke id reason revokedBy =>
    refine explains_settle (fun e failed => ?_) fun changed b done => ?_
    · unfold revoke at failed
      cases revoked : a.backend.revoke id ⟨o.stamp, revokedBy, reason⟩ with
      | error _ => simp only [effects, revokeEffects, revoked]
      | ok result => simp [revoked] at failed
    · unfold revoke at done
      cases revoked : a.backend.revoke id ⟨o.stamp, revokedBy, reason⟩ with
      | error e => cases e <;> simp [revoked] at done
      | ok result =>
        rw [revoked] at done
        cases done
        exact explains_revoke revoked
  | cleanup =>
    simp only [effects, run, cleanup]
    cases o.now.sub? a.retention with
    | none => rfl
    | some before =>
      cases cleaned : a.backend.cleanup before with
      | error e =>
        simp only [cleanEffects, cleaned]
        rfl
      | ok result =>
        obtain ⟨removed, backend⟩ := result
        simp only [cleaned]
        exact explains_clean cleaned
  | pruneKeys => exact ⟨trivial, rfl⟩
  | switch op mode => exact ⟨trivial, rfl⟩
  | store c =>
    simp only [effects, run]
    cases done : a.backend.run c with
    | error e =>
      rw [storeEffects_error done]
      rfl
    | ok result => exact explains_storeCommand direct done
  | keys c => exact ⟨trivial, rfl⟩
  | validate t r => exact explains_look ..
  | authenticate b r => exact explains_look ..
  | get id => exact explains_look ..
  | list f => exact explains_look ..
  | count f => exact explains_look ..

def perform (a : Authority) (commands : List (Outside × Command)) : Authority :=
  commands.foldl (fun b c => (b.run c.1 c.2).2) a

def history (a : Authority) : List (Outside × Command) → List Effect
  | [] => []
  | (o, c) :: rest => a.effects o c ++ (a.run o c).2.history rest

theorem explains_history (a : Authority) {commands : List (Outside × Command)}
    (direct : ∀ c ∈ commands, c.2.bypasses = false) :
    Explains a (a.history commands) (a.perform commands) := by
  induction commands generalizing a with
  | nil => rfl
  | cons c rest ih =>
    obtain ⟨o, c⟩ := c
    exact (explains_run a o (direct _ List.mem_cons_self)).append
      (ih _ fun d member => direct d (List.mem_cons_of_mem _ member))

end Gatehouse.Authority
