import Gatehouse.Config
import Gatehouse.Token.Error
import Gatehouse.Token.Filter

/-!
Stores of tokens. A store remembers the revocation of a token beyond the record of the token, until
the token expired. `Backend` is a store whose operations may be out of order.
-/
namespace Gatehouse.Token

/-- A revocation that outlives its record. -/
structure Blacklisted where
  id : String
  status : Revocation
  expiresAt : Instant
  deriving DecidableEq, Repr, Inhabited

structure Store where
  /-- One record for each id. -/
  records : List Token := []
  blacklist : List Blacklisted := []
  deriving DecidableEq, Repr, Inhabited

namespace Store

def find? (s : Store) (id : String) : Option Token := s.records.find? (·.id = id)

/-- The remembered revocation of an id. -/
def blacklisted? (s : Store) (id : String) : Option Revocation :=
  (s.blacklist.find? (·.id = id)).map (·.status)

def get (s : Store) (id : String) : Except StoreError Token :=
  match s.find? id with
  | some t => .ok t
  | none => .error (.notFound id)

/-- A token with the revocation that is remembered for it, if it has none of its own. -/
def marked (s : Store) (t : Token) : Token :=
  { t with revocation := t.revocation.or (s.blacklisted? t.id) }

def put (s : Store) (t : Token) : Store :=
  match s.find? t.id with
  | some _ => { s with records := s.records.map fun r => if r.id = t.id then t else r }
  | none => { s with records := s.records ++ [t] }

def insert (s : Store) (t : Token) : Except StoreError Store :=
  match s.find? t.id with
  | some _ => .error (.alreadyExists t.id)
  | none => .ok (s.put (s.marked t))

/-- Adds or replaces a record. A revocation that was there stays. -/
def save (s : Store) (t : Token) : Store :=
  let t := s.marked t
  s.put { t with revocation := t.revocation.or ((s.find? t.id).bind (·.revocation)) }

/-- Deletes a record, but no remembered revocation. -/
def delete (s : Store) (id : String) : Except StoreError Store :=
  match s.find? id with
  | some _ => .ok { s with records := s.records.filter (·.id ≠ id) }
  | none => .error (.notFound id)

/-- The order of lists: by time of issue, then by id. -/
def before (a b : Token) : Bool :=
  a.issuedAt < b.issuedAt || (a.issuedAt = b.issuedAt && a.id ≤ b.id)

def list (s : Store) (f : Filter) : List Token := (s.records.filter f.selects).mergeSort before

def count (s : Store) (f : Filter) : Nat := (s.records.filter f.selects).length

/-- Remembers a revocation, unless one is remembered for the id. -/
def remember (s : Store) (b : Blacklisted) : Store :=
  if (s.blacklisted? b.id).isSome then s else { s with blacklist := s.blacklist ++ [b] }

def revoke (s : Store) (id : String) (status : Revocation) : Except StoreError (Bool × Store) :=
  match s.find? id with
  | none => if (s.blacklisted? id).isSome then .ok (false, s) else .error (.notFound id)
  | some t =>
    if t.isRevoked then .ok (false, s)
    else
      .ok (true, (s.put { t with revocation := some status }).remember ⟨id, status, t.expiresAt⟩)

def isRevoked (s : Store) (id : String) : Bool :=
  (s.blacklisted? id).isSome || (s.find? id).any (·.isRevoked)

/-- Removes what expired before an instant, and returns the number of records removed. -/
def cleanup (s : Store) (before : Instant) : Nat × Store :=
  let records := s.records.filter (before ≤ ·.expiresAt)
  (s.records.length - records.length,
   ⟨records, s.blacklist.filter (before ≤ ·.expiresAt)⟩)

end Store

/-- The store of a configuration: one in this process, or the one that was brought. -/
def Store.ofConfig (c : Config.Store) (external : Option Store) : Except StoreError Store :=
  match c.backend, external with
  | .memory, _ => .ok {}
  | .external, some s => .ok s
  | .external, none => .error .missingBackend

inductive Operation where
  | get | insert | save | delete | list | count | revoke | isRevoked | cleanup
  deriving DecidableEq, Repr, Inhabited

/-- How an operation fails to do its work. -/
inductive Outage where
  /-- It answers with an error. -/
  | refuses
  /-- It claims to have found nothing to change. -/
  | ignores
  deriving DecidableEq, Repr, Inhabited

/-- A store with outages of some operations. -/
structure Backend where
  store : Store := {}
  outages : List (Operation × Outage) := []
  deriving DecidableEq, Repr, Inhabited

namespace Backend

def outage? (b : Backend) (o : Operation) : Option Outage := b.outages.lookup o

def switch (b : Backend) (o : Operation) (mode : Option Outage) : Backend :=
  let others := b.outages.filter (·.1 ≠ o)
  { b with outages := (mode.map fun m => (o, m)).toList ++ others }

def unavailable : StoreError := .backend "store unavailable"

/-- Runs an operation unless it is refused. -/
def attempt {α : Type} (b : Backend) (o : Operation) (run : Except StoreError α) : Except StoreError α :=
  if b.outage? o = some .refuses then .error unavailable else run

def withStore (b : Backend) (s : Store) : Backend := { b with store := s }

def get (b : Backend) (id : String) : Except StoreError Token := b.attempt .get (b.store.get id)

def insert (b : Backend) (t : Token) : Except StoreError Backend :=
  b.attempt .insert ((b.store.insert t).map b.withStore)

def save (b : Backend) (t : Token) : Except StoreError Backend :=
  b.attempt .save (.ok (b.withStore (b.store.save t)))

def delete (b : Backend) (id : String) : Except StoreError Backend :=
  b.attempt .delete ((b.store.delete id).map b.withStore)

def list (b : Backend) (f : Filter) : Except StoreError (List Token) := b.attempt .list (.ok (b.store.list f))

def count (b : Backend) (f : Filter) : Except StoreError Nat := b.attempt .count (.ok (b.store.count f))

def revoke (b : Backend) (id : String) (status : Revocation) : Except StoreError (Bool × Backend) :=
  if b.outage? .revoke = some .ignores then .ok (false, b)
  else b.attempt .revoke ((b.store.revoke id status).map fun r => (r.1, b.withStore r.2))

def isRevoked (b : Backend) (id : String) : Except StoreError Bool :=
  b.attempt .isRevoked (.ok (b.store.isRevoked id))

def cleanup (b : Backend) (before : Instant) : Except StoreError (Nat × Backend) :=
  let r := b.store.cleanup before
  b.attempt .cleanup (.ok (r.1, b.withStore r.2))

end Backend
end Gatehouse.Token
