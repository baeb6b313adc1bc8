import Gatehouse.Proofs.Instant
import Gatehouse.Proofs.Token.Revocation
import Mathlib.Data.List.Nodup

/-!
What a store lists. No two records share an id, so the tokens of a list are told apart by the time of issue and the id,
and a list is the one enumeration in that order of the records that fit. It says nothing of the order in which records
came in: stores with the same record under each id list the same.
-/
namespace Gatehouse.Token

/-- What a filter asks of a token; whatever is not set asks nothing, except that revoked tokens have to be asked for. -/
structure Filter.Fits (f : Filter) (t : Token) : Prop where
  kind : f.kinds ≠ [] → t.kind ∈ f.kinds
  subject : ∀ s, f.subject = some s → s = t.subject
  issuer : ∀ i, f.issuer = some i → i = t.issuer
  expiresAfter : ∀ m, f.expiresAfter = some m → m < t.expiresAt
  expiresBefore : ∀ m, f.expiresBefore = some m → t.expiresAt < m
  issuedAfter : ∀ m, f.issuedAfter = some m → m < t.issuedAt
  issuedBefore : ∀ m, f.issuedBefore = some m → t.issuedAt < m
  allScopes : f.requireAllScopes = true → ∀ s ∈ f.scopes, s ∈ t.scopes
  anyScope : f.requireAllScopes = false → f.scopes ≠ [] → ∃ s ∈ f.scopes, s ∈ t.scopes
  activeAt : ∀ m, f.activeAt = some m → t.notBefore ≤ m ∧ m ≤ t.expiresAt
  live : f.includeRevoked = false → t.isRevoked = false

theorem Filter.meets_iff {α : Type} {criterion : Option α} {test : α → Bool} :
    meets criterion test = true ↔ ∀ a, criterion = some a → test a = true := by
  cases criterion <;> simp [meets]

theorem Filter.scopesMatch_iff {f : Filter} {t : Token} : f.scopesMatch t = true ↔
    (f.requireAllScopes = true → ∀ s ∈ f.scopes, s ∈ t.scopes) ∧
      (f.requireAllScopes = false → f.scopes ≠ [] → ∃ s ∈ f.scopes, s ∈ t.scopes) := by
  cases all : f.requireAllScopes <;> cases none : f.scopes <;>
    simp [scopesMatch, all, none, hasScope]

theorem Filter.selects_iff {f : Filter} {t : Token} : f.selects t = true ↔ f.Fits t := by
  simp only [selects, Bool.and_eq_true, meets_iff, scopesMatch_iff, Bool.or_eq_true, List.isEmpty_iff,
    List.contains_iff_mem, decide_eq_true_eq, Bool.not_eq_true']
  constructor
  · rintro ⟨⟨⟨⟨⟨⟨⟨⟨⟨kind, subject⟩, issuer⟩, after⟩, before⟩, issuedAfter⟩, issuedBefore⟩, all, any⟩, active⟩, live⟩
    exact ⟨kind.resolve_left, subject, issuer, after, before, issuedAfter, issuedBefore, all, any, active,
      fun asked => live.resolve_left (by simp [asked])⟩
  · rintro ⟨kind, subject, issuer, after, before, issuedAfter, issuedBefore, all, any, active, live⟩
    refine ⟨⟨⟨⟨⟨⟨⟨⟨⟨?_, subject⟩, issuer⟩, after⟩, before⟩, issuedAfter⟩, issuedBefore⟩, all, any⟩, active⟩, ?_⟩
    · exact or_iff_not_imp_left.mpr kind
    · cases asked : f.includeRevoked
      · exact .inr (live asked)
      · exact .inl rfl

/-- The strict order of lists. -/
def Precedes (a b : Token) : Prop := a.issuedAt < b.issuedAt ∨ a.issuedAt = b.issuedAt ∧ a.id < b.id

theorem Precedes.asymm {a b : Token} (first : Precedes a b) : ¬Precedes b a := by
  rintro (later | ⟨same, later⟩)
  · rcases first with earlier | ⟨same, -⟩
    · exact Instant.lt_irrefl _ (Instant.lt_trans earlier later)
    · exact Instant.lt_irrefl _ (same ▸ later)
  · rcases first with earlier | ⟨-, earlier⟩
    · exact Instant.lt_irrefl _ (same ▸ earlier)
    · exact String.lt_asymm earlier later

namespace Store

theorem before_iff {a b : Token} :
    before a b = true ↔ a.issuedAt < b.issuedAt ∨ a.issuedAt = b.issuedAt ∧ a.id ≤ b.id := by
  simp [before]

theorem before_trans (a b c : Token) (first : before a b = true) (second : before b c = true) : before a c = true := by
  rw [before_iff] at *
  rcases first with earlier | ⟨same, ids⟩
  · rcases second with earlier' | ⟨same', -⟩
    · exact .inl (Instant.lt_trans earlier earlier')
    · exact .inl (same' ▸ earlier)
  · rcases second with earlier' | ⟨same', ids'⟩
    · exact .inl (same ▸ earlier')
    · exact .inr ⟨same.trans same', String.le_trans ids ids'⟩

theorem before_total (a b : Token) : (before a b || before b a) = true := by
  rw [Bool.or_eq_true, before_iff, before_iff]
  rcases Instant.lt_trichotomy a.issuedAt b.issuedAt with earlier | same | later
  · exact .inl (.inl earlier)
  · exact (String.le_total a.id b.id).imp (fun ids => .inr ⟨same, ids⟩) fun ids => .inr ⟨same.symm, ids⟩
  · exact .inr (.inl later)

theorem precedes_of_before {a b : Token} (order : before a b = true) (apart : a.id ≠ b.id) : Precedes a b := by
  rcases before_iff.mp order with earlier | ⟨same, ids⟩
  · exact .inl earlier
  · exact .inr ⟨same, String.not_le.mp fun ids' => apart (String.le_antisymm ids ids')⟩

def Distinct (s : Store) : Prop := (s.records.map (·.id)).Nodup

theorem Distinct.put {s : Store} (distinct : s.Distinct) (t : Token) : (s.put t).Distinct := by
  unfold Distinct at *
  cases found : s.find? t.id with
  | some u => rwa [ids_put found]
  | none =>
    rw [ids_put_new found]
    refine List.nodup_append.mpr ⟨distinct, List.nodup_singleton _, fun id member own used => ?_⟩
    obtain ⟨r, there, same⟩ := List.mem_map.mp member
    intro equal
    exact not_mem_of_find? found r there (same.trans (equal.trans (List.mem_singleton.mp used)))

theorem Distinct.fewer {s u : Store} (distinct : s.Distinct) (fewer : u.records.Sublist s.records) : u.Distinct :=
  distinct.sublist (fewer.map _)

theorem Distinct.after {s : Store} (distinct : s.Distinct) (c : Backend.Command) : (s.after c).Distinct := by
  cases c with
  | insert t =>
    rcases after_insert s t with ⟨same, -⟩ | ⟨-, put⟩
    · rwa [same]
    · rw [put]
      exact distinct.put _
  | save t => exact distinct.put _
  | delete id =>
    rw [after_delete]
    exact distinct.fewer List.filter_sublist
  | revoke id status =>
    rcases after_revoke s id status with same | ⟨t, -, -, revoked⟩
    · rwa [same]
    · rw [revoked, Distinct, records_remember]
      exact distinct.put _
  | cleanup before => exact distinct.fewer List.filter_sublist
  | get id => rwa [after_get]
  | list _ | count _ | isRevoked _ => exact distinct

theorem distinct_replay {s : Store} (distinct : s.Distinct) (cs : List Backend.Command) : (s.replay cs).Distinct := by
  induction cs generalizing s with
  | nil => exact distinct
  | cons c rest ih => exact ih (distinct.after c)

section
variable {s u : Store} {f : Filter} {t : Token}

theorem Distinct.eq_of_id (distinct : s.Distinct) {a b : Token} (first : a ∈ s.records) (second : b ∈ s.records)
    (same : a.id = b.id) : a = b :=
  List.inj_on_of_nodup_map distinct first second same

theorem get_iff {id : String} : s.get id = .ok t ↔ s.find? id = some t := by
  refine ⟨get_ok, fun found => ?_⟩
  rw [get, found]

theorem Distinct.mem_iff (distinct : s.Distinct) : t ∈ s.records ↔ s.get t.id = .ok t := by
  rw [get_iff]
  refine ⟨fun member => ?_, fun found => (mem_of_find? found).1⟩
  cases found : s.find? t.id with
  | none => exact absurd rfl (not_mem_of_find? found t member)
  | some r =>
    obtain ⟨there, own⟩ := mem_of_find? found
    rw [distinct.eq_of_id there member own]

theorem list_perm (s : Store) (f : Filter) : (s.list f).Perm (s.records.filter f.selects) := List.mergeSort_perm ..

theorem count_eq (s : Store) (f : Filter) : s.count f = (s.list f).length := (s.list_perm f).length_eq.symm

theorem Distinct.mem_list (distinct : s.Distinct) : t ∈ s.list f ↔ s.get t.id = .ok t ∧ f.Fits t := by
  rw [(s.list_perm f).mem_iff, List.mem_filter, Filter.selects_iff, distinct.mem_iff]

theorem Distinct.nodup_ids_list (distinct : s.Distinct) (f : Filter) : ((s.list f).map (·.id)).Nodup :=
  ((s.list_perm f).map _).nodup_iff.mpr (distinct.sublist (List.filter_sublist.map _))

theorem Distinct.list_ordered (distinct : s.Distinct) (f : Filter) : (s.list f).Pairwise Precedes := by
  have order := List.pairwise_mergeSort before_trans before_total (s.records.filter f.selects)
  have apart : (s.list f).Pairwise fun a b => a.id ≠ b.id := List.pairwise_map.mp (distinct.nodup_ids_list f)
  exact (order.and apart).imp fun both => precedes_of_before both.1 both.2

/-- A list is the only enumeration in order of what it holds. -/
theorem eq_of_precedes {l l' : List Token} (order : l.Pairwise Precedes) (order' : l'.Pairwise Precedes)
    (same : ∀ t, t ∈ l ↔ t ∈ l') : l = l' := by
  have distinct {l : List Token} (order : l.Pairwise Precedes) : l.Nodup :=
    order.imp fun first equal => (equal ▸ first).asymm (equal ▸ first)
  refine List.Perm.eq_of_pairwise (fun a b _ _ first second => absurd second first.asymm) order order' ?_
  exact (List.perm_ext_iff_of_nodup (distinct order) (distinct order')).mpr same

/-- Stores that get the same list the same. -/
theorem Distinct.list_eq (distinct : s.Distinct) (distinct' : u.Distinct) (same : ∀ id, u.get id = s.get id)
    (f : Filter) : u.list f = s.list f := by
  refine eq_of_precedes (distinct'.list_ordered f) (distinct.list_ordered f) fun t => ?_
  rw [distinct'.mem_list, distinct.mem_list, same]

theorem Distinct.list_split (distinct : s.Distinct) (f : Filter) :
    s.list { f with includeRevoked := false } =
        (s.list { f with includeRevoked := true }).filter (fun t => !t.isRevoked) ∧
      (s.list { f with includeRevoked := true }).Perm (s.list { f with includeRevoked := false } ++
        (s.list { f with includeRevoked := true }).filter (·.isRevoked)) := by
  have live : s.list { f with includeRevoked := false } =
      (s.list { f with includeRevoked := true }).filter (fun t => !t.isRevoked) := by
    refine eq_of_precedes (distinct.list_ordered _) ((distinct.list_ordered _).filter _) fun t => ?_
    rw [List.mem_filter, distinct.mem_list, distinct.mem_list, and_assoc]
    refine and_congr_right fun _ => ⟨fun fits => ?_, fun ⟨fits, kept⟩ => ?_⟩
    · exact ⟨{ fits with live := nofun }, by simp [fits.live rfl]⟩
    · exact { fits with live := fun _ => by simpa using kept }
  refine ⟨live, ?_⟩
  rw [live]
  exact (List.filter_append_perm (·.isRevoked) _).symm.trans List.perm_append_comm

end

/-- Stores that find the same records and remember the same revocations. -/
structure Same (s u : Store) : Prop where
  find : ∀ id, s.find? id = u.find? id
  blacklist : s.blacklist = u.blacklist

theorem Same.refl (s : Store) : Same s s := ⟨fun _ => rfl, rfl⟩

theorem Same.trans {s u v : Store} (first : Same s u) (second : Same u v) : Same s v :=
  ⟨fun id => (first.find id).trans (second.find id), first.blacklist.trans second.blacklist⟩

def stored? (s : Store) : Backend.Command → Option Token
  | .insert t => some ((s.find? t.id).getD (s.marked t))
  | .save t => some { s.marked t with
      revocation := (s.marked t).revocation.or ((s.find? t.id).bind (·.revocation)) }
  | _ => none

section
variable {s u : Store} {c c' : Backend.Command} {t r r' : Token}

theorem stored?_of_brought (brought : brought? c = some t) : ∃ r, s.stored? c = some r ∧ r.id = t.id := by
  cases c with
  | insert t' =>
    cases brought
    refine ⟨_, rfl, ?_⟩
    cases found : s.find? t.id with
    | none => rfl
    | some r => exact (mem_of_find? found).2
  | save t' =>
    cases brought
    exact ⟨_, rfl, rfl⟩
  | _ => cases brought

theorem after_stored (stored : s.stored? c = some r) :
    (s.after c).blacklist = s.blacklist ∧ ∀ id, (s.after c).find? id = if id = r.id then some r else s.find? id := by
  cases c with
  | insert t =>
    rcases after_insert s t with ⟨kept, there⟩ | ⟨free, put⟩
    · obtain ⟨q, found⟩ := Option.isSome_iff_exists.mp there
      have own := (mem_of_find? found).2
      simp only [stored?, found, Option.getD_some, Option.some.injEq] at stored
      subst stored
      refine ⟨by rw [kept], fun id => ?_⟩
      rw [kept]
      split
      next same => rw [same, own, found]
      next => rfl
    · simp only [stored?, free, Option.getD_none, Option.some.injEq] at stored
      subst stored
      rw [put]
      exact ⟨blacklist_put .., find?_put _ _⟩
  | save t =>
    cases stored
    exact ⟨blacklist_put .., find?_put _ _⟩
  | _ => cases stored

theorem stored?_congr (brought : brought? c = some t) (find : s.find? t.id = u.find? t.id)
    (blacklist : s.blacklist = u.blacklist) : s.stored? c = u.stored? c := by
  cases c with
  | insert t' | save t' =>
    cases brought
    simp only [stored?, marked, blacklisted?, find, blacklist]
  | _ => cases brought

theorem Same.after (same : Same s u) (brought : brought? c = some t) : Same (s.after c) (u.after c) := by
  obtain ⟨r, stored, -⟩ := stored?_of_brought (s := s) brought
  obtain ⟨blacklist, find⟩ := after_stored stored
  obtain ⟨blacklist', find'⟩ := after_stored (stored?_congr brought (same.find _) same.blacklist ▸ stored)
  refine ⟨fun id => ?_, by rw [blacklist, blacklist', same.blacklist]⟩
  rw [find, find', same.find]

theorem after_after {t' : Token} (brought' : brought? c' = some t') (stored : s.stored? c = some r)
    (stored' : s.stored? c' = some r') (apart : t'.id ≠ r.id) : ((s.after c).after c').blacklist = s.blacklist ∧
      ∀ id, ((s.after c).after c').find? id =
        if id = r'.id then some r' else if id = r.id then some r else s.find? id := by
  obtain ⟨blacklist, find⟩ := after_stored stored
  have kept : (s.after c).find? t'.id = s.find? t'.id := (find _).trans (if_neg apart)
  obtain ⟨blacklist', find'⟩ := after_stored (stored?_congr brought' kept blacklist ▸ stored')
  exact ⟨blacklist'.trans blacklist, fun id => by rw [find', find]⟩

theorem same_swap {t' : Token} (brought : brought? c = some t) (brought' : brought? c' = some t')
    (apart : t.id ≠ t'.id) : Same ((s.after c).after c') ((s.after c').after c) := by
  obtain ⟨r, stored, own⟩ := stored?_of_brought (s := s) brought
  obtain ⟨r', stored', own'⟩ := stored?_of_brought (s := s) brought'
  obtain ⟨blacklist, find⟩ := after_after brought' stored stored' (own ▸ apart.symm)
  obtain ⟨blacklist', find'⟩ := after_after brought stored' stored (own' ▸ apart)
  refine ⟨fun id => ?_, blacklist.trans blacklist'.symm⟩
  rw [find, find', own, own']
  by_cases first : id = t.id
  · rw [if_pos first, if_pos first, if_neg (first ▸ apart)]
  · rw [if_neg first, if_neg first]

end

/-- Operations that store tokens with different ids. -/
structure Storing (cs : List Backend.Command) : Prop where
  each : ∀ c ∈ cs, (brought? c).isSome = true
  apart : cs.Pairwise fun c c' => ∀ t ∈ brought? c, ∀ t' ∈ brought? c', t.id ≠ t'.id

theorem Storing.cons {c : Backend.Command} {cs : List Backend.Command} (storing : Storing (c :: cs)) :
    ∃ t, brought? c = some t ∧ Storing cs := by
  obtain ⟨t, brought⟩ := Option.isSome_iff_exists.mp (storing.each c List.mem_cons_self)
  exact ⟨t, brought, fun d member => storing.each d (List.mem_cons_of_mem _ member), storing.apart.of_cons⟩

theorem Storing.perm {cs cs' : List Backend.Command} (storing : Storing cs) (perm : cs.Perm cs') : Storing cs' where
  each c member := storing.each c (perm.mem_iff.mpr member)
  apart := by
    refine (perm.pairwise_iff ?_).mp storing.apart
    exact fun apart t brought t' brought' same => apart t' brought' t brought same.symm

theorem Same.replay {cs : List Backend.Command} (storing : Storing cs) {s u : Store} (same : Same s u) :
    Same (s.replay cs) (u.replay cs) := by
  induction cs generalizing s u with
  | nil => exact same
  | cons c rest ih =>
    obtain ⟨t, brought, others⟩ := storing.cons
    exact ih others (same.after brought)

/-- Tokens can be stored in any order. -/
theorem same_of_perm {cs cs' : List Backend.Command} (perm : cs.Perm cs') (storing : Storing cs) (s : Store) :
    Same (s.replay cs) (s.replay cs') := by
  induction perm generalizing s with
  | nil => exact .refl s
  | cons c _ ih =>
    obtain ⟨-, -, others⟩ := storing.cons
    exact ih others (s.after c)
  | swap c c' rest =>
    obtain ⟨t', brought', rest'⟩ := storing.cons
    obtain ⟨t, brought, others⟩ := rest'.cons
    have apart := (List.pairwise_cons.mp storing.apart).1 c List.mem_cons_self t' brought' t brought
    exact (same_swap brought' brought apart).replay others
  | trans first _ ih ih' => exact (ih storing s).trans (ih' (storing.perm first) s)

/-- After any run a list holds each record that fits once and nothing else, in the order of issue and ids. It is the
same for every run that leaves the same records, and however a number of tokens with different ids were stored; its
length is what is counted, and the list with revoked tokens is made up of the one without and of the revoked. -/
theorem list_enumerates_fitting (cs : List Backend.Command) (f : Filter) :
    let s := Store.replay {} cs
    (∀ t, t ∈ s.list f ↔ s.get t.id = .ok t ∧ f.Fits t) ∧ (s.list f).Nodup ∧ (s.list f).Pairwise Precedes ∧
      (∀ cs', (∀ id, (Store.replay {} cs').get id = s.get id) → (Store.replay {} cs').list f = s.list f) ∧
      (∀ new new', Storing new → new.Perm new' → (s.replay new).list f = (s.replay new').list f) ∧
      s.count f = (s.list f).length ∧
      s.list { f with includeRevoked := false } =
        (s.list { f with includeRevoked := true }).filter (fun t => !t.isRevoked) ∧
      (s.list { f with includeRevoked := true }).Perm (s.list { f with includeRevoked := false } ++
        (s.list { f with includeRevoked := true }).filter (·.isRevoked)) := by
  intro s
  have none : Distinct {} := List.nodup_nil
  have distinct : s.Distinct := distinct_replay none cs
  refine ⟨fun t => distinct.mem_list, (distinct.nodup_ids_list f).of_map _, distinct.list_ordered f,
    fun cs' same => distinct.list_eq (distinct_replay none cs') same f, fun new new' storing perm => ?_,
    s.count_eq f, distinct.list_split f⟩
  have same := same_of_perm perm storing s
  refine (distinct_replay distinct new').list_eq (distinct_replay distinct new) (fun id => ?_) f
  rw [get, get, same.find]

/-- Two tokens of one moment, stored in either order, are both listed, and listed alike. -/
theorem listed_in_either_order :
    let token (id : String) : Token :=
      { id, kind := .access, subject := "alice", issuer := "warden", issuedAt := ⟨0, 0⟩, notBefore := ⟨0, 0⟩
        expiresAt := ⟨3600, 0⟩ }
    let s := Store.replay {} [.insert (token "a"), .save (token "b")]
    let u := Store.replay {} [.save (token "b"), .insert (token "a")]
    s.list {} = u.list {} ∧ (s.list {}).length = 2 ∧ token "b" ∈ s.list {} := by
  intro token s u
  have storing : Storing [.insert (token "a"), .save (token "b")] := ⟨by decide, by simp [brought?, token]⟩
  obtain ⟨holds, -, -, -, -, counts, -⟩ := list_enumerates_fitting [.insert (token "a"), .save (token "b")] {}
  obtain ⟨-, -, -, -, alike, -⟩ := list_enumerates_fitting [] {}
  refine ⟨alike _ _ storing (.swap ..), counts ▸ by decide +kernel, (holds _).mpr ⟨?_, ?_⟩⟩
  · exact get_iff.mpr (by decide +kernel)
  · exact Filter.selects_iff.mp (by decide)

end Store
end Gatehouse.Token
