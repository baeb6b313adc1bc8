import Gatehouse.Value.Reading

/-!
What the fields of a record hold when its entries are put under the names that they have.
-/
namespace Gatehouse.Value
variable {r s : Reading} {names : List String} {entries : List (Value × Value)}
  {values collected : List (Option Value)}

theorem collect_unknown {k v : Value} (unknown : fieldAt? r names k = some none) :
    collect r names ((k, v) :: entries) values = collect r names entries values := by
  rw [collect, unknown]

theorem collect_known {k v : Value} {n : Nat} (known : fieldAt? r names k = some (some n))
    (free : (values[n]?).join = none) :
    collect r names ((k, v) :: entries) values = collect r names entries (values.set n (some v)) := by
  rw [collect, known]
  simp only [free]

theorem collect_cons {k v : Value} (done : collect r names ((k, v) :: entries) values = some collected) :
    fieldAt? r names k = some none ∧ collect r names entries values = some collected ∨
    ∃ n, fieldAt? r names k = some (some n) ∧ (values[n]?).join = none ∧
      collect r names entries (values.set n (some v)) = some collected := by
  rw [collect] at done
  split at done
  · cases done
  next unknown => exact .inl ⟨unknown, done⟩
  next n known =>
    split at done
    · cases done
    next free => exact .inr ⟨n, known, free, done⟩

theorem collect_congr (same : ∀ e ∈ entries, fieldAt? r names e.1 = fieldAt? s names e.1) :
    collect r names entries values = collect s names entries values := by
  induction entries generalizing values with
  | nil => rfl
  | cons e rest ih =>
    obtain ⟨first, others⟩ := List.forall_mem_cons.mp same
    obtain ⟨k, v⟩ := e
    simp only [collect, ← first, ih others]

theorem collect_some (keys : ∀ e ∈ entries, fieldAt? r names e.1 ≠ none)
    (apart : entries.Pairwise fun d e => ∀ n, fieldAt? r names d.1 = some (some n) →
      fieldAt? r names e.1 ≠ some (some n))
    (free : ∀ e ∈ entries, ∀ n, fieldAt? r names e.1 = some (some n) → (values[n]?).join = none) :
    ∃ collected, collect r names entries values = some collected := by
  induction entries generalizing values with
  | nil => exact ⟨values, rfl⟩
  | cons e rest ih =>
    obtain ⟨k, v⟩ := e
    obtain ⟨key, keys⟩ := List.forall_mem_cons.mp keys
    obtain ⟨own, apart⟩ := List.pairwise_cons.mp apart
    obtain ⟨empty, free⟩ := List.forall_mem_cons.mp free
    cases known : fieldAt? r names k with
    | none => exact absurd known key
    | some position =>
      cases position with
      | none =>
        rw [collect_unknown known]
        exact ih keys apart free
      | some n =>
        rw [collect_known known (empty n known)]
        refine ih keys apart fun e member m named => ?_
        have other : n ≠ m := by
          rintro rfl
          exact own e member n known named
        rw [List.getElem?_set_ne other]
        exact free e member m named

/-- A key that names nothing is refused. -/
theorem collect_refused {e : Value × Value} (member : e ∈ entries) (nameless : fieldAt? r names e.1 = none) :
    collect r names entries values = none := by
  cases done : collect r names entries values with
  | none => rfl
  | some collected =>
    exfalso
    induction entries generalizing values with
    | nil => cases member
    | cons d rest ih =>
      obtain ⟨k, v⟩ := d
      rcases collect_cons done with ⟨unknown, later⟩ | ⟨n, known, -, later⟩
      · rcases List.mem_cons.mp member with rfl | member
        · cases nameless.symm.trans unknown
        · exact ih member later
      · rcases List.mem_cons.mp member with rfl | member
        · cases nameless.symm.trans known
        · exact ih member later

theorem collect_kept {n : Nat} {w : Value} (done : collect r names entries values = some collected)
    (held : (values[n]?).join = some w) : (collected[n]?).join = some w := by
  induction entries generalizing values with
  | nil =>
    cases done
    exact held
  | cons e rest ih =>
    rcases collect_cons done with ⟨-, later⟩ | ⟨m, -, free, later⟩
    · exact ih later held
    · refine ih later ?_
      have apart : m ≠ n := by
        rintro rfl
        cases free.symm.trans held
      rwa [List.getElem?_set_ne apart]

/-- What an entry gives to a field is what the field holds. -/
theorem collect_given {e : Value × Value} {n : Nat} (done : collect r names entries values = some collected)
    (member : e ∈ entries) (known : fieldAt? r names e.1 = some (some n)) (there : n < values.length) :
    (collected[n]?).join = some e.2 := by
  induction entries generalizing values with
  | nil => cases member
  | cons d rest ih =>
    obtain ⟨k, v⟩ := d
    rcases collect_cons done with ⟨unknown, later⟩ | ⟨m, own, free, later⟩
    · rcases List.mem_cons.mp member with rfl | member
      · cases known.symm.trans unknown
      · exact ih later member there
    · rcases List.mem_cons.mp member with rfl | member
      · obtain rfl : n = m := by simpa [known] using own
        exact collect_kept later (by simp [there])
      · exact ih later member (by simpa using there)

theorem collect_origin {n : Nat} {w : Value} (done : collect r names entries values = some collected)
    (held : (collected[n]?).join = some w) :
    (values[n]?).join = some w ∨ ∃ e ∈ entries, fieldAt? r names e.1 = some (some n) ∧ e.2 = w := by
  induction entries generalizing values with
  | nil =>
    cases done
    exact .inl held
  | cons d rest ih =>
    obtain ⟨k, v⟩ := d
    rcases collect_cons done with ⟨-, later⟩ | ⟨m, known, -, later⟩
    · rcases ih later with before | ⟨e, member, origin⟩
      · exact .inl before
      · exact .inr ⟨e, List.mem_cons_of_mem _ member, origin⟩
    · rcases ih later with before | ⟨e, member, origin⟩
      · by_cases same : m = n
        · subst same
          by_cases there : m < values.length
          · refine .inr ⟨(k, v), List.mem_cons_self, known, ?_⟩
            simpa [there] using before
          · simp [there] at before
        · rw [List.getElem?_set_ne same] at before
          exact .inl before
      · exact .inr ⟨e, List.mem_cons_of_mem _ member, origin⟩

end Gatehouse.Value
