import Gatehouse.Json

/-!
Equality of JSON values as the program tests it. It is symmetric and transitive, so equal values pass the same
tests, and it never confuses texts.
-/
namespace Gatehouse

namespace Binary64

theorem le_trans {x y z : Binary64} (first : x.le y = true) (second : y.le z = true) : x.le z = true := by
  cases x with
  | nan => simp [le] at first
  | infinity s =>
    cases y with
    | nan => simp [le] at first
    | infinity t => cases z <;> cases s <;> cases t <;> simp_all [le]
    | finite t n q =>
      have below : s = true := by simpa [le] using first
      cases z <;> simp_all [le]
  | finite s m p =>
    cases y with
    | nan => simp [le] at first
    | infinity t =>
      have above : t = false := by simpa [le] using first
      cases z <;> simp_all [le]
    | finite t n q =>
      cases z with
      | nan => simp [le] at second
      | infinity u => simpa [le] using second
      | finite u k l =>
        simp only [le, decide_eq_true_eq] at first second ⊢
        omega

theorem same_comm (x y : Binary64) : x.same y = y.same x := Bool.and_comm ..

theorem same_trans {x y z : Binary64} (first : x.same y = true) (second : y.same z = true) :
    x.same z = true := by
  simp only [same, Bool.and_eq_true] at first second ⊢
  exact ⟨le_trans first.1 second.1, le_trans second.2 first.2⟩

end Binary64

namespace Json

mutual

theorem equal_comm : ∀ a b : Json, a.equal b = b.equal a
  | .null, b => by cases b <;> rfl
  | .bool a, b => by cases b <;> simp [equal, Bool.beq_comm]
  | .int a, b => by cases b <;> simp [equal, Bool.beq_comm]
  | .float a, b => by cases b <;> simp [equal, Binary64.same_comm]
  | .text a, b => by cases b <;> simp [equal, Bool.beq_comm]
  | .array a, b => by
    cases b with
    | array b => simpa only [equal] using equalItems_comm a b
    | _ => simp [equal]
  | .object a, b => by
    cases b with
    | object b => simpa only [equal] using equalEntries_comm a b
    | _ => simp [equal]

theorem equalItems_comm : ∀ as bs : List Json, equalItems as bs = equalItems bs as
  | [], [] => rfl
  | [], _ :: _ => rfl
  | _ :: _, [] => rfl
  | a :: as, b :: bs => by simp only [equalItems, equal_comm a b, equalItems_comm as bs]

theorem equalEntries_comm : ∀ as bs : List (String × Json), equalEntries as bs = equalEntries bs as
  | [], [] => rfl
  | [], _ :: _ => rfl
  | _ :: _, [] => rfl
  | (k, a) :: as, (l, b) :: bs => by
    simp only [equalEntries, equal_comm a b, equalEntries_comm as bs, Bool.beq_comm (a := k)]

end

mutual

theorem equal_trans : ∀ {a b c : Json}, a.equal b = true → b.equal c = true → a.equal c = true
  | .null, b, c => by
    intro first second
    cases b <;> simp only [equal, Bool.false_eq_true] at first
    exact second
  | .bool a, b, c => by cases b <;> cases c <;> simp_all [equal]
  | .int a, b, c => by cases b <;> cases c <;> simp_all [equal]
  | .float a, b, c => by
    intro first second
    cases b <;> cases c <;> simp only [equal, Bool.false_eq_true] at first second ⊢
    exact Binary64.same_trans first second
  | .text a, b, c => by cases b <;> cases c <;> simp_all [equal]
  | .array a, b, c => by
    intro first second
    cases b <;> cases c <;> simp only [equal, Bool.false_eq_true] at first second ⊢
    exact equalItems_trans first second
  | .object a, b, c => by
    intro first second
    cases b <;> cases c <;> simp only [equal, Bool.false_eq_true] at first second ⊢
    exact equalEntries_trans first second

theorem equalItems_trans : ∀ {as bs cs : List Json},
    equalItems as bs = true → equalItems bs cs = true → equalItems as cs = true
  | [], [], _, _, second => second
  | a :: as, b :: bs, c :: cs, first, second => by
    simp only [equalItems, Bool.and_eq_true] at first second ⊢
    exact ⟨equal_trans first.1 second.1, equalItems_trans first.2 second.2⟩

theorem equalEntries_trans : ∀ {as bs cs : List (String × Json)},
    equalEntries as bs = true → equalEntries bs cs = true → equalEntries as cs = true
  | [], [], _, _, second => second
  | (k, a) :: as, (l, b) :: bs, (m, c) :: cs, first, second => by
    simp only [equalEntries, Bool.and_eq_true, beq_iff_eq] at first second ⊢
    exact ⟨⟨first.1.1.trans second.1.1, equal_trans first.1.2 second.1.2⟩,
      equalEntries_trans first.2 second.2⟩

end

theorem equal_congr {a b : Json} (same : a.equal b = true) (c : Json) : a.equal c = b.equal c := by
  rw [Bool.eq_iff_iff]
  constructor
  · intro equal
    rw [equal_comm] at same
    exact equal_trans same equal
  · exact equal_trans same

theorem text?_of_equal {a b : Json} (same : a.equal b = true) : a.text? = b.text? := by
  cases a <;> cases b <;> simp_all [equal, text?]

end Json
end Gatehouse
