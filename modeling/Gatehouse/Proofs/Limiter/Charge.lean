import Gatehouse.Proofs.Limiter.WindowHistory

/-!
What a request costs. It is charged to its own key only, and nothing is taken for one that is refused.
-/
namespace Gatehouse.Limiter

inductive Kept where
  | window (e : Option (Entry (List Moment)))
  | bucket (e : Option (Entry Level))

def kept (l : Limiter) (key : String) : Kept :=
  match l with
  | window w => .window (w.keys.lookup key)
  | bucket b => .bucket (b.keys.lookup key)

namespace Bucket

def levelOf (b : Bucket) (now : Moment) (key : String) : Binary64 :=
  b.level ((b.keys.get? key).getD (b.full now)) now

theorem allow_eq (b : Bucket) (now : Moment) (key : String) :
    b.allow now key =
      if Binary64.one.le (b.levelOf now key) then
        (.ok (), { b with keys := b.keys.put key ⟨⟨(b.levelOf now key).sub .one, now⟩, now⟩ })
      else
        (.error ⟨key, b.wait (b.levelOf now key)⟩,
          { b with keys := b.keys.put key ⟨⟨b.levelOf now key, now⟩, now⟩ }) := rfl

theorem allow_keys (b : Bucket) (now : Moment) (key : String) :
    ∃ e, (b.allow now key).2.keys = b.keys.put key e := by
  rw [allow_eq]
  generalize b.levelOf now key = tokens
  cases Binary64.one.le tokens
  · exact ⟨_, rfl⟩
  · exact ⟨_, rfl⟩

theorem refused_takes_nothing {b : Bucket} {now : Moment} {key : String} {e : Exceeded}
    (refused : (b.allow now key).1 = .error e) :
    (b.allow now key).2.keys.get? key = some ⟨b.levelOf now key, now⟩ := by
  rw [allow_eq] at refused ⊢
  generalize b.levelOf now key = tokens at refused ⊢
  cases whole : Binary64.one.le tokens with
  | false => simp only [Bool.false_eq_true, if_false, Keyed.get?_put, if_true]
  | true => simp [whole] at refused

end Bucket

theorem allow_window (w : Window) (now : Moment) (key : String) :
    (window w).allow now key = ((w.allow now key).1, window (w.allow now key).2) := rfl

theorem allow_bucket (b : Bucket) (now : Moment) (key : String) :
    (bucket b).allow now key = ((b.allow now key).1, bucket (b.allow now key).2) := by
  unfold allow
  simp only

theorem allow_kept (l : Limiter) (now : Moment) {key other : String} (apart : other ≠ key) :
    (l.allow now key).2.kept other = l.kept other := by
  cases l with
  | window w =>
    rw [allow_window]
    simp only [kept, Window.allow]
    split <;> simp [apart]
  | bucket b =>
    obtain ⟨e, keys⟩ := b.allow_keys now key
    rw [allow_bucket]
    simp only [kept, keys, Keyed.lookup_put, if_neg apart]

namespace Window

/-- A refusal is not noticed by any later call on the key. -/
theorem refused_adds_nothing {w : Window} {now : Moment} {key : String} {e : Exceeded}
    (refused : (w.allow now key).1 = .error e) (later : Moment) (order : now ≤ later) :
    ((w.allow now key).2.allow later key).1 = (w.allow later key).1 ∧
      (w.allow now key).2.remaining later key = w.remaining later key := by
  have left : recent w.length later ((w.allow now key).2.known key) =
      recent w.length later (w.known key) := by
    rw [allow_known, if_pos rfl, refused]
    simpa using recent_recent w.length now later order (w.known key)
  rw [allow_eq, allow_eq, remaining_eq, remaining_eq, allow_quota, allow_length, left]
  exact ⟨rfl, rfl⟩

end Window

/-- What a refusal leaves: in a window nothing that a later call notices, in a bucket its level. -/
theorem refused_keeps (l : Limiter) (now : Moment) (key : String)
    (charge : Except Exceeded Unit × Limiter) (e : Exceeded) :
    l.allow now key = charge → charge.1 = .error e →
    match l with
    | .window w => ∃ v, charge.2 = .window v ∧ ∀ later, now ≤ later →
      (v.allow later key).1 = (w.allow later key).1 ∧ v.remaining later key = w.remaining later key
    | .bucket b => ∃ d, charge.2 = .bucket d ∧
      d.keys.get? key = some ⟨b.levelOf now key, now⟩ := by
  intro charged refused
  cases l with
  | window w =>
    rw [allow_window] at charged
    subst charged
    exact ⟨_, rfl, fun later order => Window.refused_adds_nothing refused later order⟩
  | bucket b =>
    rw [allow_bucket] at charged
    subst charged
    simp only at refused
    exact ⟨(b.allow now key).2, rfl, Bucket.refused_takes_nothing refused⟩

end Gatehouse.Limiter
