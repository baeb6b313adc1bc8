import Gatehouse.Text.Blank

/-!
Sets of texts as increasing lists without repetitions.
-/
namespace Gatehouse.Text.Ordered

def insert (s : String) : List String → List String
  | [] => [s]
  | t :: ts =>
    if s = t then t :: ts
    else if s < t then s :: t :: ts
    else t :: insert s ts

def ofList (ss : List String) : List String := ss.foldl (fun set s => insert s set) []

theorem mem_insert {s x : String} {ts : List String} : x ∈ insert s ts ↔ x = s ∨ x ∈ ts := by
  induction ts with
  | nil => simp [insert]
  | cons t ts ih =>
    unfold insert
    split
    · next h => subst h; simp
    · split
      · simp
      · simp only [List.mem_cons, ih]
        exact or_left_comm

theorem mem_foldl_insert {x : String} {ss ts : List String} :
    x ∈ ss.foldl (fun set s => insert s set) ts ↔ x ∈ ss ∨ x ∈ ts := by
  induction ss generalizing ts with
  | nil => simp
  | cons s ss ih =>
    simp only [List.foldl_cons, ih, mem_insert, List.mem_cons]
    constructor
    · rintro (h | h | h) <;> simp [h]
    · rintro ((h | h) | h) <;> simp [h]

theorem mem_ofList {x : String} {ss : List String} : x ∈ ofList ss ↔ x ∈ ss := by
  simp [ofList, mem_foldl_insert]

theorem insert_last {s : String} {ts : List String} (last : ∀ t ∈ ts, t < s) : insert s ts = ts ++ [s] := by
  induction ts with
  | nil => rfl
  | cons t ts ih =>
    obtain ⟨first, others⟩ := List.forall_mem_cons.mp last
    have apart : ¬ s = t := fun same => String.lt_irrefl _ (same ▸ first)
    rw [insert, if_neg apart, if_neg (String.lt_asymm first), ih others, List.cons_append]

theorem foldl_insert_of_increasing {ss ts : List String} (increasing : (ts ++ ss).Pairwise (· < ·)) :
    ss.foldl (fun set s => insert s set) ts = ts ++ ss := by
  induction ss generalizing ts with
  | nil => simp
  | cons s ss ih =>
    have last : ∀ t ∈ ts, t < s := fun t member =>
      (List.pairwise_append.mp increasing).2.2 t member s List.mem_cons_self
    rw [List.foldl_cons, insert_last last, ih (by simpa using increasing), List.append_assoc]
    rfl

/-- A list that is in order stands for itself. -/
theorem ofList_of_increasing {ss : List String} (increasing : ss.Pairwise (· < ·)) : ofList ss = ss :=
  @foldl_insert_of_increasing ss [] increasing

theorem insert_increasing {ts : List String} (increasing : ts.Pairwise (· < ·)) (s : String) :
    (insert s ts).Pairwise (· < ·) := by
  induction ts with
  | nil => exact List.pairwise_singleton ..
  | cons t ts ih =>
    obtain ⟨first, others⟩ := List.pairwise_cons.mp increasing
    unfold insert
    split
    · exact increasing
    next apart =>
      split
      next less =>
        refine List.pairwise_cons.mpr ⟨fun x member => ?_, increasing⟩
        rcases List.mem_cons.mp member with rfl | member
        · exact less
        · exact String.lt_trans less (first x member)
      next greater =>
        refine List.pairwise_cons.mpr ⟨fun x member => ?_, ih others⟩
        rcases mem_insert.mp member with rfl | member
        · refine Decidable.byContradiction fun notLess => apart ?_
          exact String.le_antisymm (String.not_lt.mp notLess) (String.not_lt.mp greater)
        · exact first x member

theorem ofList_increasing (ss : List String) : (ofList ss).Pairwise (· < ·) := by
  have kept : ∀ set : List String, set.Pairwise (· < ·) →
      (ss.foldl (fun set s => insert s set) set).Pairwise (· < ·) := by
    induction ss with
    | nil => exact fun set increasing => increasing
    | cons s ss ih => exact fun set increasing => ih _ (insert_increasing increasing s)
  exact kept [] .nil

end Gatehouse.Text.Ordered
