import Gatehouse.Json
import Gatehouse.Text.Ordered

/-!
What is found under the keys of entries, and which entries are in order.
-/
namespace Gatehouse.Json

theorem lookup_cons_eq {α : Type} (name key : String) (value : α) (rest : List (String × α)) :
    ((key, value) :: rest).lookup name = if name = key then some value else rest.lookup name := by
  by_cases same : name = key
  · rw [same, List.lookup_cons_self, if_pos rfl]
  · rw [List.lookup_cons, beq_eq_false_iff_ne.mpr same, if_neg same]

theorem lookup_setEntry {α : Type} (key name : String) (value : α) (entries : List (String × α)) :
    (setEntry key value entries).lookup name = if name = key then some value else entries.lookup name := by
  induction entries with
  | nil => exact lookup_cons_eq ..
  | cons entry rest ih =>
    obtain ⟨k, v⟩ := entry
    unfold setEntry
    by_cases own : key = k
    · rw [if_pos own, lookup_cons_eq, lookup_cons_eq, own]
      by_cases same : name = k
      · rw [if_pos same, if_pos same]
      · rw [if_neg same, if_neg same, if_neg same]
    · rw [if_neg own]
      split
      · exact lookup_cons_eq ..
      · rw [lookup_cons_eq, lookup_cons_eq, ih]
        by_cases same : name = k
        · have other : name ≠ key := fun both => own (both.symm.trans same)
          rw [if_pos same, if_pos same, if_neg other]
        · rw [if_neg same, if_neg same]

section
variable {α : Type} {es : List (String × α)}

theorem lookup_isSome_iff {key : String} : (es.lookup key).isSome ↔ key ∈ es.map (·.1) := by
  induction es with
  | nil => simp
  | cons e rest ih =>
    obtain ⟨k, v⟩ := e
    rw [lookup_cons_eq, List.map_cons, List.mem_cons, ← ih]
    by_cases own : key = k <;> simp [own]

theorem mem_of_lookup {key : String} {v : α} (found : es.lookup key = some v) : (key, v) ∈ es := by
  induction es with
  | nil => cases found
  | cons e rest ih =>
    obtain ⟨k, w⟩ := e
    rw [lookup_cons_eq] at found
    split at found
    next own =>
      rw [own, Option.some.inj found]
      exact List.mem_cons_self
    next => exact List.mem_cons_of_mem _ (ih found)

theorem lookup_filter_ne (key name : String) :
    (es.filter (·.1 ≠ key)).lookup name = if name = key then none else es.lookup name := by
  induction es with
  | nil => simp
  | cons e rest ih =>
    obtain ⟨k, v⟩ := e
    by_cases own : k = key
    · subst own
      rw [List.filter_cons_of_neg (by simp), ih, lookup_cons_eq]
      by_cases same : name = k <;> simp [same]
    · rw [List.filter_cons_of_pos (by simpa using own), lookup_cons_eq, lookup_cons_eq, ih]
      by_cases same : name = k
      · simp [same, own]
      · simp [same]

theorem filter_key (distinct : (es.map (·.1)).Nodup) {key : String} {v : α} (found : es.lookup key = some v) :
    es.filter (·.1 = key) = [(key, v)] := by
  induction es with
  | nil => cases found
  | cons e rest ih =>
    obtain ⟨k, w⟩ := e
    obtain ⟨new, distinct⟩ := List.nodup_cons.mp distinct
    rw [lookup_cons_eq] at found
    by_cases own : key = k
    · subst own
      have others : rest.filter (·.1 = key) = [] := by
        refine List.filter_eq_nil_iff.mpr fun e member same => new (List.mem_map.mpr ⟨e, member, ?_⟩)
        simpa using same
      rw [if_pos rfl] at found
      rw [List.filter_cons_of_pos (by simp), others, Option.some.inj found]
    · rw [if_neg own] at found
      rw [List.filter_cons_of_neg (by simpa using Ne.symm own), ih distinct found]

def Increasing (es : List (String × α)) : Prop := (es.map (·.1)).Pairwise (· < ·)

instance (es : List (String × α)) : Decidable (Increasing es) :=
  inferInstanceAs (Decidable ((es.map (·.1)).Pairwise (· < ·)))

theorem Increasing.distinct (increasing : Increasing es) : (es.map (·.1)).Nodup := by
  refine List.Pairwise.imp ?_ increasing
  rintro key _ less rfl
  exact String.lt_irrefl key less

theorem setEntry_last {key : String} (value : α) (last : ∀ e ∈ es, e.1 < key) :
    setEntry key value es = es ++ [(key, value)] := by
  induction es with
  | nil => rfl
  | cons e rest ih =>
    obtain ⟨k, v⟩ := e
    obtain ⟨first, others⟩ := List.forall_mem_cons.mp last
    have apart : ¬ key = k := fun same => String.lt_irrefl _ (same ▸ first)
    rw [setEntry, if_neg apart, if_neg (String.lt_asymm first), ih others, List.cons_append]

theorem Increasing.foldl {acc : List (String × α)} (increasing : Increasing (acc ++ es)) :
    es.foldl (fun sorted e => setEntry e.1 e.2 sorted) acc = acc ++ es := by
  induction es generalizing acc with
  | nil => simp
  | cons e rest ih =>
    have last : ∀ d ∈ acc, d.1 < e.1 := by
      intro d member
      rw [Increasing, List.map_append] at increasing
      exact (List.pairwise_append.mp increasing).2.2 _ (List.mem_map_of_mem member) _ (by simp)
    rw [List.foldl_cons, setEntry_last e.2 last, ih (by simpa using increasing)]
    simp

theorem Increasing.sortEntries (increasing : Increasing es) : sortEntries es = es :=
  @Increasing.foldl _ es [] increasing

theorem keys_setEntry (key : String) (value : α) :
    (setEntry key value es).map (·.1) = Text.Ordered.insert key (es.map (·.1)) := by
  induction es with
  | nil => rfl
  | cons e rest ih =>
    obtain ⟨k, v⟩ := e
    simp only [setEntry, List.map_cons, Text.Ordered.insert]
    by_cases own : key = k
    · simp [own]
    · rw [if_neg own, if_neg own]
      split
      · rfl
      · rw [List.map_cons, ih]

theorem Increasing.setEntry (increasing : Increasing es) (key : String) (value : α) :
    Increasing (setEntry key value es) := by
  rw [Increasing, keys_setEntry]
  exact Text.Ordered.insert_increasing increasing key

theorem increasing_sortEntries (es : List (String × α)) : Increasing (Json.sortEntries es) := by
  have kept : ∀ acc : List (String × α), Increasing acc →
      Increasing (es.foldl (fun sorted e => Json.setEntry e.1 e.2 sorted) acc) := by
    induction es with
    | nil => exact fun acc increasing => increasing
    | cons e rest ih => exact fun acc increasing => ih _ (increasing.setEntry e.1 e.2)
  exact kept [] .nil

theorem mem_setEntry {key : String} {value : α} {e : String × α} (member : e ∈ Json.setEntry key value es) :
    e = (key, value) ∨ e ∈ es := by
  induction es with
  | nil => exact .inl (List.mem_singleton.mp member)
  | cons d rest ih =>
    obtain ⟨k, v⟩ := d
    unfold Json.setEntry at member
    split at member
    · exact (List.mem_cons.mp member).imp_right (List.mem_cons_of_mem _)
    · split at member
      · exact List.mem_cons.mp member
      · rcases List.mem_cons.mp member with rfl | member
        · exact .inr List.mem_cons_self
        · exact (ih member).imp_right (List.mem_cons_of_mem _)

theorem mem_of_mem_sortEntries {e : String × α} (member : e ∈ Json.sortEntries es) : e ∈ es := by
  have kept : ∀ acc : List (String × α), e ∈ es.foldl (fun sorted d => Json.setEntry d.1 d.2 sorted) acc →
      e ∈ es ∨ e ∈ acc := by
    clear member
    induction es with
    | nil => exact fun acc member => .inr member
    | cons d rest ih =>
      intro acc member
      rcases ih _ member with later | member
      · exact .inl (List.mem_cons_of_mem _ later)
      · refine (mem_setEntry member).imp_left fun own => ?_
        rw [own]
        exact List.mem_cons_self
  exact (kept [] member).resolve_right List.not_mem_nil

theorem lookup_sortEntries (distinct : (es.map (·.1)).Nodup) (name : String) :
    (Json.sortEntries es).lookup name = es.lookup name := by
  have kept : ∀ acc : List (String × α), (es.foldl (fun sorted e => Json.setEntry e.1 e.2 sorted) acc).lookup name =
      (es.lookup name).or (acc.lookup name) := by
    induction es with
    | nil => exact fun acc => rfl
    | cons e rest ih =>
      intro acc
      obtain ⟨k, v⟩ := e
      obtain ⟨new, distinct⟩ := List.nodup_cons.mp distinct
      rw [List.foldl_cons, ih distinct, lookup_setEntry, lookup_cons_eq]
      by_cases own : name = k
      · subst own
        have gone : rest.lookup name = none := by
          exact Option.not_isSome_iff_eq_none.mp (mt lookup_isSome_iff.mp new)
        simp [gone]
      · simp [own]
  exact (kept []).trans (Option.or_none ..)

end

end Gatehouse.Json
