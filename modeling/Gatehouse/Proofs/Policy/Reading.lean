import Gatehouse.Proofs.Policy.Printing

/-!
What is read is in canonical form, whatever the document looked like. So a policy that was read can be shown, and read
again.
-/
namespace Gatehouse

namespace Json

theorem proper_ofEntries {es : List (String × Json)} (proper : ProperEntries es) : (ofEntries es).Proper := by
  refine ⟨increasing_sortEntries es, properEntries_iff.mpr fun e member => ?_⟩
  exact properEntries_iff.mp proper e (mem_of_mem_sortEntries member)

end Json

namespace Value

mutual

theorem proper_of_json? : ∀ {v : Value} {j : Json}, v.json? = some j → j.Proper
  | .null, _, read | .bool _, _, read | .int _, _, read | .text _, _, read => by
    obtain rfl := Option.some.inj read
    trivial
  | .float f, _, read => by
    obtain rfl := Option.some.inj read
    unfold jsonFloat
    split
    · assumption
    · trivial
  | .list items, _, read => by
    obtain ⟨js, each, rfl⟩ := Option.map_eq_some_iff.mp read
    exact proper_of_jsonItems? each
  | .map entries, _, read => by
    obtain ⟨es, each, rfl⟩ := Option.map_eq_some_iff.mp read
    exact Json.proper_ofEntries (proper_of_jsonEntries? each)

theorem proper_of_jsonItems? : ∀ {items : List Value} {js : List Json}, jsonItems? items = some js →
    Json.ProperItems js
  | [], _, read => by
    obtain rfl := Option.some.inj read
    trivial
  | item :: items, _, read => by
    obtain ⟨j, own, read⟩ := Option.bind_eq_some_iff.mp read
    obtain ⟨js, others, read⟩ := Option.bind_eq_some_iff.mp read
    obtain rfl := Option.some.inj read
    exact ⟨proper_of_json? own, proper_of_jsonItems? others⟩

theorem proper_of_jsonEntries? : ∀ {entries : List (Value × Value)} {es : List (String × Json)},
    jsonEntries? entries = some es → Json.ProperEntries es
  | [], _, read => by
    obtain rfl := Option.some.inj read
    trivial
  | (.text k, v) :: rest, _, read => by
    obtain ⟨j, own, read⟩ := Option.bind_eq_some_iff.mp read
    obtain ⟨es, others, read⟩ := Option.bind_eq_some_iff.mp read
    obtain rfl := Option.some.inj read
    exact ⟨proper_of_json? own, proper_of_jsonEntries? others⟩

end

section
variable {α : Type} {read : Value → Option α}

theorem origin_of_mapM {β : Type} {read : β → Option α} {items : List β} {xs : List α}
    (done : items.mapM read = some xs) {x : α} (member : x ∈ xs) : ∃ v, read v = some x := by
  induction items generalizing xs with
  | nil =>
    obtain rfl := Option.some.inj done
    cases member
  | cons item rest ih =>
    rw [List.mapM_cons] at done
    obtain ⟨y, own, done⟩ := Option.bind_eq_some_iff.mp done
    obtain ⟨ys, others, done⟩ := Option.bind_eq_some_iff.mp done
    obtain rfl := Option.some.inj done
    rcases List.mem_cons.mp member with rfl | member
    · exact ⟨item, own⟩
    · exact ih others member

theorem origin_of_textMap? {r : Reading} {v : Value} {ts : List (String × α)} (done : v.textMap? r read = some ts) :
    Json.Increasing ts ∧ ∀ t ∈ ts, ∃ w, read w = some t.2 := by
  obtain ⟨entries, -, done⟩ := Option.bind_eq_some_iff.mp done
  obtain ⟨es, each, done⟩ := Option.bind_eq_some_iff.mp done
  obtain rfl := Option.some.inj done
  refine ⟨Json.increasing_sortEntries es, fun t member => ?_⟩
  obtain ⟨⟨k, w⟩, own⟩ := origin_of_mapM each (Json.mem_of_mem_sortEntries member)
  obtain ⟨key, -, own⟩ := Option.bind_eq_some_iff.mp own
  obtain ⟨a, valued, same⟩ := Option.bind_eq_some_iff.mp own
  obtain rfl := Option.some.inj same
  exact ⟨w, valued⟩

theorem Fields.origin_of_defaulted {f : Fields} {n : Nat} {default a : α} (done : f.defaulted n read default = some a) :
    a = default ∨ ∃ v, read v = some a := by
  unfold defaulted at done
  split at done
  · exact .inl (Option.some.inj done).symm
  · exact .inr ⟨_, done⟩

theorem Fields.origin_of_required {f : Fields} {n : Nat} {a : α} (done : f.required n read = some a) :
    ∃ v, read v = some a := by
  obtain ⟨v, -, own⟩ := Option.bind_eq_some_iff.mp done
  exact ⟨v, own⟩

theorem Fields.origin_of_list {f : Fields} {n : Nat} {r : Reading} {xs : List α}
    (done : f.defaulted n (fun v => (v.items? r).bind fun items => items.mapM read) [] = some xs) {x : α}
    (member : x ∈ xs) : ∃ v, read v = some x := by
  rcases origin_of_defaulted done with rfl | ⟨v, done⟩
  · cases member
  · obtain ⟨items, -, done⟩ := Option.bind_eq_some_iff.mp done
    exact origin_of_mapM done member

end

theorem bounds_of_int? {r : Reading} {low high i : Int} {v : Value} (read : v.int? r low high = some i) :
    low ≤ i ∧ i ≤ high := by
  unfold int? at read
  split at read
  · split at read
    next fits => exact Option.some.inj read ▸ fits
    · cases read
  · cases read

end Value

namespace Policy
variable {r : Reading} {v : Value}

theorem AttributeTest.proper_of_ofValue? {t : AttributeTest} (read : AttributeTest.ofValue? r v = some t) :
    t.Proper := by
  obtain ⟨⟨n, rest⟩, -, read⟩ := Option.bind_eq_some_iff.mp read
  dsimp only at read
  split at read
  · obtain ⟨field, -, read⟩ := Option.bind_eq_some_iff.mp read
    obtain ⟨j, valued, rfl⟩ := Option.map_eq_some_iff.mp read
    exact Value.proper_of_json? valued
  · obtain ⟨field, -, read⟩ := Option.bind_eq_some_iff.mp read
    obtain ⟨items, -, read⟩ := Option.bind_eq_some_iff.mp read
    obtain ⟨js, each, rfl⟩ := Option.map_eq_some_iff.mp read
    intro j member
    obtain ⟨w, own⟩ := Value.origin_of_mapM each member
    exact Value.proper_of_json? own
  · obtain rfl := Option.some.inj read
    trivial
  · obtain ⟨field, -, read⟩ := Option.bind_eq_some_iff.mp read
    obtain ⟨text, -, read⟩ := Option.bind_eq_some_iff.mp read
    obtain ⟨p, compiled, rfl⟩ := Option.map_eq_some_iff.mp read
    obtain ⟨e, -, rfl⟩ := Option.map_eq_some_iff.mp compiled
    exact compiled

theorem AttributeTests.proper_of_defaulted {f : Value.Fields} {n : Nat} {ts : AttributeTests}
    (read : f.defaulted n (Value.textMap? r (AttributeTest.ofValue? r)) [] = some ts) : AttributeTests.Proper ts := by
  rcases Value.Fields.origin_of_defaulted read with rfl | ⟨w, read⟩
  · exact ⟨.nil, nofun⟩
  · obtain ⟨increasing, origin⟩ := Value.origin_of_textMap? read
    refine ⟨increasing, fun t member => ?_⟩
    obtain ⟨u, own⟩ := origin t member
    exact AttributeTest.proper_of_ofValue? own

theorem increasing_of_textSet? {ss : List String} (read : textSet? r v = some ss) : ss.Pairwise (· < ·) := by
  obtain ⟨texts, -, rfl⟩ := Option.map_eq_some_iff.mp read
  exact Text.Ordered.ofList_increasing texts

theorem SubjectMatcher.proper_of_ofValue? {m : SubjectMatcher} (read : SubjectMatcher.ofValue? r v = some m) :
    m.Proper := by
  obtain ⟨f, -, read⟩ := Option.bind_eq_some_iff.mp read
  obtain ⟨id, -, read⟩ := Option.bind_eq_some_iff.mp read
  obtain ⟨roles, named, read⟩ := Option.bind_eq_some_iff.mp read
  obtain ⟨attributes, tested, read⟩ := Option.bind_eq_some_iff.mp read
  obtain rfl := Option.some.inj read
  refine ⟨?_, AttributeTests.proper_of_defaulted tested⟩
  rcases Value.Fields.origin_of_defaulted named with rfl | ⟨w, named⟩
  · exact .nil
  · exact increasing_of_textSet? named

theorem ResourceMatcher.proper_of_ofValue? {m : ResourceMatcher} (read : ResourceMatcher.ofValue? r v = some m) :
    m.Proper := by
  obtain ⟨f, -, read⟩ := Option.bind_eq_some_iff.mp read
  obtain ⟨id, -, read⟩ := Option.bind_eq_some_iff.mp read
  obtain ⟨type, -, read⟩ := Option.bind_eq_some_iff.mp read
  obtain ⟨attributes, tested, read⟩ := Option.bind_eq_some_iff.mp read
  obtain rfl := Option.some.inj read
  exact ⟨AttributeTests.proper_of_defaulted tested⟩

/-- No predicate that is read lives in the program. -/
theorem Predicate.proper_of_ofEntries? {entries : List (Value × Value)} {p : Predicate}
    (read : Predicate.ofEntries? entries = some p) : p.Proper ∧ ∀ name, (Condition.mk name p).isCustom = false := by
  obtain ⟨⟨n, rest⟩, -, read⟩ := Option.bind_eq_some_iff.mp read
  dsimp only at read
  split at read
  · obtain ⟨f, -, read⟩ := Option.bind_eq_some_iff.mp read
    obtain ⟨source, -, read⟩ := Option.bind_eq_some_iff.mp read
    obtain ⟨key, -, read⟩ := Option.bind_eq_some_iff.mp read
    obtain ⟨test, tested, read⟩ := Option.bind_eq_some_iff.mp read
    obtain rfl := Option.some.inj read
    obtain ⟨w, tested⟩ := Value.Fields.origin_of_required tested
    exact ⟨AttributeTest.proper_of_ofValue? tested, fun _ => rfl⟩
  · obtain ⟨f, -, read⟩ := Option.bind_eq_some_iff.mp read
    obtain ⟨source, -, read⟩ := Option.bind_eq_some_iff.mp read
    obtain ⟨key, -, read⟩ := Option.bind_eq_some_iff.mp read
    obtain rfl := Option.some.inj read
    exact ⟨trivial, fun _ => rfl⟩
  · obtain ⟨f, -, read⟩ := Option.bind_eq_some_iff.mp read
    obtain ⟨roles, named, read⟩ := Option.bind_eq_some_iff.mp read
    obtain rfl := Option.some.inj read
    obtain ⟨w, named⟩ := Value.Fields.origin_of_required named
    exact ⟨increasing_of_textSet? named, fun _ => rfl⟩

theorem Condition.proper_of_ofValue? {c : Condition} (read : Condition.ofValue? r v = some c) :
    c.predicate.Proper ∧ c.isCustom = false := by
  obtain ⟨entries, -, read⟩ := Option.bind_eq_some_iff.mp read
  dsimp only at read
  split at read
  · obtain ⟨name, -, read⟩ := Option.bind_eq_some_iff.mp read
    obtain ⟨p, told, read⟩ := Option.bind_eq_some_iff.mp read
    obtain rfl := Option.some.inj read
    obtain ⟨proper, written⟩ := Predicate.proper_of_ofEntries? told
    exact ⟨proper, written name⟩
  · cases read

/-- A policy that is read is in canonical form, and no condition of it lives in the program. -/
theorem proper_of_ofValue? {p : Policy} (read : ofValue? r v = some p) :
    p.Proper ∧ ∀ c ∈ p.conditions, c.isCustom = false := by
  obtain ⟨f, -, read⟩ := Option.bind_eq_some_iff.mp read
  obtain ⟨id, -, read⟩ := Option.bind_eq_some_iff.mp read
  obtain ⟨description, -, read⟩ := Option.bind_eq_some_iff.mp read
  obtain ⟨effect, -, read⟩ := Option.bind_eq_some_iff.mp read
  obtain ⟨priority, ranked, read⟩ := Option.bind_eq_some_iff.mp read
  obtain ⟨subjects, forSubjects, read⟩ := Option.bind_eq_some_iff.mp read
  obtain ⟨resources, forResources, read⟩ := Option.bind_eq_some_iff.mp read
  obtain ⟨actions, -, read⟩ := Option.bind_eq_some_iff.mp read
  obtain ⟨conditions, demanded, read⟩ := Option.bind_eq_some_iff.mp read
  obtain rfl := Option.some.inj read
  refine ⟨⟨?_, fun m member => ?_, fun m member => ?_, fun c member => ?_⟩, fun c member => ?_⟩
  · rcases Value.Fields.origin_of_defaulted ranked with rfl | ⟨w, ranked⟩
    · exact (by decide : -Nat.pow 2 31 ≤ (0 : Int) ∧ (0 : Int) ≤ Nat.pow 2 31 - 1)
    · exact Value.bounds_of_int? ranked
  · obtain ⟨w, own⟩ := Value.Fields.origin_of_list forSubjects member
    exact SubjectMatcher.proper_of_ofValue? own
  · obtain ⟨w, own⟩ := Value.Fields.origin_of_list forResources member
    exact ResourceMatcher.proper_of_ofValue? own
  · obtain ⟨w, own⟩ := Value.Fields.origin_of_list demanded member
    exact (Condition.proper_of_ofValue? own).1
  · obtain ⟨w, own⟩ := Value.Fields.origin_of_list demanded member
    exact (Condition.proper_of_ofValue? own).2

/-- Whatever a document looked like, its policies can be shown, and every reader makes the same of what is shown. -/
theorem shown_of_read {p : Policy} (read : ofValue? r v = some p) :
    ∃ j, p.toJson? = some j ∧ ∀ q, ofValue? q (.ofJson j) = some p := by
  obtain ⟨proper, written⟩ := proper_of_ofValue? read
  exact read_back proper written

end Policy
end Gatehouse
