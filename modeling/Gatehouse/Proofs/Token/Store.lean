import Gatehouse.Token.Store

/-!
Which records a store has after each of its operations.
-/
namespace Gatehouse.Token.Store

theorem mem_of_find? {s : Store} {id : String} {t : Token} (found : s.find? id = some t) :
    t ∈ s.records ∧ t.id = id :=
  ⟨List.mem_of_find?_eq_some found, by simpa using List.find?_some found⟩

theorem not_mem_of_find? {s : Store} {id : String} (free : s.find? id = none) :
    ∀ t ∈ s.records, t.id ≠ id := by
  simpa [find?] using free

theorem mem_put {s : Store} {t r : Token} :
    r ∈ (s.put t).records ↔ r = t ∨ r ∈ s.records ∧ r.id ≠ t.id := by
  unfold put
  cases found : s.find? t.id with
  | none =>
    have free := not_mem_of_find? found
    simp only [List.mem_append, List.mem_singleton]
    constructor
    · rintro (old | new)
      · exact .inr ⟨old, free r old⟩
      · exact .inl new
    · rintro (new | ⟨old, -⟩)
      · exact .inr new
      · exact .inl old
  | some u =>
    obtain ⟨member, same⟩ := mem_of_find? found
    simp only [List.mem_map]
    constructor
    · rintro ⟨q, old, rfl⟩
      by_cases equal : q.id = t.id
      · exact .inl (if_pos equal)
      · rw [if_neg equal]
        exact .inr ⟨old, equal⟩
    · rintro (rfl | ⟨old, apart⟩)
      · exact ⟨u, member, if_pos same⟩
      · exact ⟨r, old, if_neg apart⟩

theorem forall_mem_put {s : Store} {t : Token} {p : Token → Prop} (new : p t) (old : ∀ r ∈ s.records, p r) :
    ∀ r ∈ (s.put t).records, p r := by
  intro r member
  rcases mem_put.mp member with rfl | ⟨there, -⟩
  · exact new
  · exact old r there

theorem records_remember (s : Store) (b : Blacklisted) : (s.remember b).records = s.records := by
  unfold remember
  split <;> rfl

theorem mem_remember {s : Store} {b : Blacklisted} {r : Token} :
    r ∈ (s.remember b).records ↔ r ∈ s.records := by
  rw [records_remember]

theorem mem_blacklist_remember {s : Store} {a b : Blacklisted} (member : b ∈ (s.remember a).blacklist) :
    b ∈ s.blacklist ∨ b = a := by
  unfold remember at member
  split at member
  · exact .inl member
  · simpa using member

theorem find?_replaced (records : List Token) (t : Token) (id : String) :
    (records.map fun r => if r.id = t.id then t else r).find? (·.id = id) =
      if id = t.id then (records.find? (·.id = t.id)).map fun _ => t else records.find? (·.id = id) := by
  induction records with
  | nil => simp
  | cons r rest ih =>
    rw [List.map_cons, List.find?_cons, ih]
    by_cases first : r.id = t.id
    · by_cases own : id = t.id
      · simp [first, own]
      · have other : ¬ t.id = id := fun same => own same.symm
        simp [first, own, other]
    · by_cases own : id = t.id
      · simp [first, own]
      · simp only [first, own, if_false, List.find?_cons]

theorem find?_put (s : Store) (t : Token) (id : String) :
    (s.put t).find? id = if id = t.id then some t else s.find? id := by
  unfold put
  cases found : s.find? t.id with
  | none =>
    simp only [find?] at found
    by_cases own : id = t.id
    · simp [find?, own, found]
    · have other : ¬ t.id = id := fun same => own same.symm
      simp [find?, own, other]
  | some u =>
    simp only [find?] at found
    simp only [find?, find?_replaced, found, Option.map_some]

theorem free_of_put {s : Store} {t : Token} {id : String} (free : (s.put t).find? id = none) :
    s.find? id = none := by
  rw [find?_put] at free
  split at free
  · cases free
  · exact free

theorem own_put {s : Store} {t : Token} (own : ∀ r ∈ s.records, s.find? r.id = some r) :
    ∀ r ∈ (s.put t).records, (s.put t).find? r.id = some r := by
  intro r member
  rw [find?_put]
  rcases mem_put.mp member with rfl | ⟨old, other⟩
  · exact if_pos rfl
  · exact (if_neg other).trans (own r old)

theorem blacklist_put (s : Store) (t : Token) : (s.put t).blacklist = s.blacklist := by
  unfold put
  split <;> rfl

theorem find?_remember (s : Store) (b : Blacklisted) (id : String) :
    (s.remember b).find? id = s.find? id := by
  unfold remember
  split <;> rfl

theorem find?_filter_of_kept {α : Type} {l : List α} {p q : α → Bool} {a : α}
    (found : l.find? p = some a) (kept : q a = true) : (l.filter q).find? p = some a := by
  rw [List.find?_filter]
  induction l with
  | nil => cases found
  | cons b rest ih =>
    rw [List.find?_cons] at found ⊢
    cases chosen : p b with
    | true =>
      rw [chosen] at found
      obtain rfl := Option.some.inj found
      simp [kept]
    | false =>
      rw [chosen] at found
      simpa [chosen] using ih found

theorem get_ok {s : Store} {id : String} {t : Token} (read : s.get id = .ok t) : s.find? id = some t := by
  unfold get at read
  split at read
  next found =>
    cases read
    exact found
  next => cases read

theorem insert_ok {s u : Store} {t : Token} (inserted : s.insert t = .ok u) :
    s.find? t.id = none ∧ u = s.put (s.marked t) := by
  unfold insert at inserted
  cases found : s.find? t.id with
  | none =>
    rw [found] at inserted
    exact ⟨rfl, (Except.ok.inj inserted).symm⟩
  | some r =>
    rw [found] at inserted
    cases inserted

theorem delete_ok {s u : Store} {id : String} (deleted : s.delete id = .ok u) :
    u = { s with records := s.records.filter (·.id ≠ id) } := by
  unfold delete at deleted
  cases found : s.find? id with
  | none =>
    rw [found] at deleted
    cases deleted
  | some r =>
    rw [found] at deleted
    exact (Except.ok.inj deleted).symm

theorem ids_put {s : Store} {t u : Token} (found : s.find? t.id = some u) :
    (s.put t).records.map (·.id) = s.records.map (·.id) := by
  simp only [put, found, List.map_map]
  refine List.map_congr_left fun q _ => ?_
  by_cases own : q.id = t.id <;> simp [own]

theorem ids_put_new {s : Store} {t : Token} (free : s.find? t.id = none) :
    (s.put t).records.map (·.id) = s.records.map (·.id) ++ [t.id] := by
  simp only [put, free, List.map_append, List.map_cons, List.map_nil]

theorem delete_put {s : Store} {n : Token} (free : s.find? n.id = none) :
    (s.put n).delete n.id = .ok s := by
  have others : s.records.filter (·.id ≠ n.id) = s.records := by
    simpa using not_mem_of_find? free
  have there : (s.put n).find? n.id = some n := (find?_put ..).trans (if_pos rfl)
  rw [delete, there]
  simp only [put, free, List.filter_append, others]
  simp

theorem revoke_ok {s u : Store} {id : String} {status : Revocation} {changed : Bool}
    (revoked : s.revoke id status = .ok (changed, u)) :
    changed = false ∧ u = s ∨
    changed = true ∧ ∃ t, s.find? id = some t ∧ t.isRevoked = false ∧
      u = (s.put { t with revocation := some status }).remember ⟨id, status, t.expiresAt⟩ := by
  unfold revoke at revoked
  cases found : s.find? id with
  | none =>
    rw [found] at revoked
    cases remembered : (s.blacklisted? id).isSome with
    | false => simp [remembered] at revoked
    | true =>
      simp only [remembered, if_true] at revoked
      cases revoked
      exact .inl ⟨rfl, rfl⟩
  | some t =>
    rw [found] at revoked
    cases before : t.isRevoked with
    | true =>
      simp only [before, if_true] at revoked
      cases revoked
      exact .inl ⟨rfl, rfl⟩
    | false =>
      simp only [before, Bool.false_eq_true, if_false] at revoked
      cases revoked
      exact .inr ⟨rfl, t, rfl, before, rfl⟩

end Gatehouse.Token.Store
