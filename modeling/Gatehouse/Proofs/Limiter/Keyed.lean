import Gatehouse.Limiter.Keyed

/-!
What is found under a key after each change of the entries. A change at one key is not seen at any
other, and forgetting idle entries takes each entry for itself, provided no key is there twice.
-/
namespace Gatehouse.Limiter.Keyed
variable {σ : Type}

def Distinct (k : Keyed σ) : Prop := (k.map (·.1)).Nodup

def wanted (now : Moment) (idle : Duration) (settled : σ → Bool) (e : Entry σ) : Bool :=
  now.since e.lastSeen < idle || !settled e.state

theorem distinct_empty : Distinct ([] : Keyed σ) := List.nodup_nil

theorem lookup_entry (head key : String) (e : Entry σ) (rest : Keyed σ) :
    List.lookup key ((head, e) :: rest) = if key = head then some e else rest.lookup key := by
  by_cases equal : key = head
  · simp [equal]
  · simp [List.lookup_cons, beq_false_of_ne equal, equal]

@[simp] theorem lookup_put (k : Keyed σ) (key other : String) (e : Entry σ) :
    (k.put key e).lookup other = if other = key then some e else k.lookup other := by
  induction k with
  | nil => exact lookup_entry key other e []
  | cons entry rest ih =>
    obtain ⟨head, f⟩ := entry
    by_cases same : head = key
    · subst head
      by_cases equal : other = key <;> simp [put, lookup_entry, equal]
    · by_cases equal : other = head
      · subst equal
        simp [put, same]
      · simp [put, lookup_entry, same, equal, ih]

@[simp] theorem lookup_erase (k : Keyed σ) (key other : String) :
    (k.erase key).lookup other = if other = key then none else k.lookup other := by
  induction k with
  | nil => simp [erase]
  | cons entry rest ih =>
    obtain ⟨head, f⟩ := entry
    by_cases same : head = key
    · subst head
      have dropped : Keyed.erase key ((key, f) :: rest) = Keyed.erase key rest := by simp [erase]
      rw [dropped, ih, lookup_entry]
      by_cases equal : other = key <;> simp [equal]
    · have kept : Keyed.erase key ((head, f) :: rest) = (head, f) :: Keyed.erase key rest := by
        simp [erase, same]
      by_cases equal : other = head
      · subst equal
        simp [kept, same]
      · simp [kept, lookup_entry, equal, ih]

theorem lookup_of_not_mem (k : Keyed σ) (key : String) (absent : key ∉ k.map (·.1)) :
    k.lookup key = none := by
  rw [List.lookup_eq_none_iff]
  intro entry member
  apply bne_iff_ne.mpr
  rintro rfl
  exact absent (List.mem_map_of_mem member)

theorem lookup_purge (k : Keyed σ) (distinct : k.Distinct) (now : Moment) (idle : Duration)
    (settled : σ → Bool) (key : String) :
    (k.purge now idle settled).lookup key = (k.lookup key).filter (wanted now idle settled) := by
  induction k with
  | nil => rfl
  | cons entry rest ih =>
    obtain ⟨head, e⟩ := entry
    obtain ⟨fresh, others⟩ := List.nodup_cons.mp distinct
    have step : Keyed.purge ((head, e) :: rest) now idle settled =
        if wanted now idle settled e then (head, e) :: Keyed.purge rest now idle settled
        else Keyed.purge rest now idle settled := List.filter_cons
    by_cases equal : key = head
    · subst key
      have gone : rest.lookup head = none := lookup_of_not_mem rest head fresh
      cases stays : wanted now idle settled e <;>
        simp [step, Option.filter, stays, ih others, gone]
    · cases stays : wanted now idle settled e <;>
        simp [step, lookup_entry, stays, equal, ih others]

theorem mem_keys_put (k : Keyed σ) (key : String) (e : Entry σ) (other : String) :
    other ∈ (k.put key e).map (·.1) ↔ other = key ∨ other ∈ k.map (·.1) := by
  induction k with
  | nil => simp [put]
  | cons entry rest ih =>
    obtain ⟨head, f⟩ := entry
    by_cases same : head = key
    · simp [put, same]
    · simp only [put, same, if_false, List.map_cons, List.mem_cons, ih]
      exact or_left_comm

theorem not_mem_keys_put {k : Keyed σ} {key other : String} (absent : other ∉ k.map (·.1)) (apart : other ≠ key)
    (e : Entry σ) : other ∉ (k.put key e).map (·.1) := by
  rw [mem_keys_put]
  exact not_or.mpr ⟨apart, absent⟩

theorem not_mem_keys_filter {k : Keyed σ} {key : String} (absent : key ∉ k.map (·.1)) (p : String × Entry σ → Bool) :
    key ∉ (k.filter p).map (·.1) :=
  fun member => absent ((List.filter_sublist.map _).subset member)

theorem Distinct.put {k : Keyed σ} (distinct : k.Distinct) (key : String) (e : Entry σ) :
    (Keyed.put key e k).Distinct := by
  induction k with
  | nil => simp [Distinct, Keyed.put]
  | cons entry rest ih =>
    obtain ⟨head, f⟩ := entry
    obtain ⟨fresh, others⟩ := List.nodup_cons.mp distinct
    by_cases same : head = key
    · subst head
      simpa [Distinct, Keyed.put] using distinct
    · have apart : head ∉ (Keyed.put key e rest).map (·.1) := by
        rw [mem_keys_put]
        rintro (equal | member)
        · exact same equal
        · exact fresh member
      simpa [Distinct, Keyed.put, same] using List.nodup_cons.mpr ⟨apart, ih others⟩

theorem Distinct.filter {k : Keyed σ} (distinct : k.Distinct) (p : String × Entry σ → Bool) :
    Distinct (k.filter p) :=
  (List.filter_sublist.map _).nodup distinct

theorem Distinct.erase {k : Keyed σ} (distinct : k.Distinct) (key : String) :
    (k.erase key).Distinct := distinct.filter _

theorem Distinct.purge {k : Keyed σ} (distinct : k.Distinct) (now : Moment) (idle : Duration)
    (settled : σ → Bool) : (k.purge now idle settled).Distinct := distinct.filter _

@[simp] theorem get?_put (k : Keyed σ) (key other : String) (e : Entry σ) :
    (k.put key e).get? other = if other = key then some e.state else k.get? other := by
  by_cases equal : other = key <;> simp [get?, equal]

@[simp] theorem get?_erase (k : Keyed σ) (key other : String) :
    (k.erase key).get? other = if other = key then none else k.get? other := by
  by_cases equal : other = key <;> simp [get?, equal]

/-- A key that is forgotten had a settled state; every other one keeps its state. -/
theorem get?_purge (k : Keyed σ) (distinct : k.Distinct) (now : Moment) (idle : Duration)
    (settled : σ → Bool) (key : String) :
    (k.purge now idle settled).get? key = k.get? key ∨
      ((k.purge now idle settled).get? key = none ∧ ∃ state, k.get? key = some state ∧ settled state) := by
  rw [get?, get?, lookup_purge k distinct]
  cases found : k.lookup key with
  | none => exact .inl rfl
  | some e =>
    cases stays : wanted now idle settled e with
    | true => exact .inl (by simp [Option.filter, stays])
    | false =>
      have old : settled e.state = true := by simp [wanted] at stays; exact stays.2
      exact .inr ⟨by simp [Option.filter, stays], e.state, rfl, old⟩

end Gatehouse.Limiter.Keyed
