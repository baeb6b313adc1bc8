import Mathlib.Data.List.Nodup
import Gatehouse.Report
import Gatehouse.Proofs.Json.Entries
import Gatehouse.Proofs.Value.Fields

/-!
What readers see of a value that was JSON. There are no tags and no keys but texts in it, so a record is seen the same
by every reader: a field holds what the entries have under its name.
-/
namespace Gatehouse

namespace Json

mutual

/-- A value in canonical form, with finite numbers only. -/
def Proper : Json → Prop
  | .float f => f.isFinite = true
  | .array items => ProperItems items
  | .object entries => Increasing entries ∧ ProperEntries entries
  | _ => True

def ProperItems : List Json → Prop
  | [] => True
  | item :: items => Proper item ∧ ProperItems items

def ProperEntries : List (String × Json) → Prop
  | [] => True
  | (_, v) :: rest => Proper v ∧ ProperEntries rest

end

theorem properEntries_iff {es : List (String × Json)} : ProperEntries es ↔ ∀ e ∈ es, e.2.Proper := by
  induction es with
  | nil => simp [ProperEntries]
  | cons e rest ih => simp [ProperEntries, ih]

end Json

namespace Value

theorem ofItems_eq (items : List Json) : ofItems items = items.map ofJson := by
  induction items with
  | nil => rfl
  | cons item rest ih => rw [ofItems, ih, List.map_cons]

theorem ofEntries_eq (entries : List (String × Json)) :
    ofEntries entries = entries.map fun e => (.text e.1, ofJson e.2) := by
  induction entries with
  | nil => rfl
  | cons e rest ih => rw [ofEntries, ih, List.map_cons]

mutual

theorem isTagged_ofJson : ∀ j : Json, (ofJson j).isTagged = false
  | .null | .bool _ | .int _ | .float _ | .text _ => rfl
  | .array items => anyTagged_ofItems items
  | .object entries => anyTaggedEntry_ofEntries entries

theorem anyTagged_ofItems : ∀ items : List Json, anyTagged (ofItems items) = false
  | [] => rfl
  | item :: items => by rw [ofItems, anyTagged, isTagged_ofJson item, anyTagged_ofItems items]; rfl

theorem anyTaggedEntry_ofEntries : ∀ entries : List (String × Json), anyTaggedEntry (ofEntries entries) = false
  | [] => rfl
  | (_, v) :: rest => by
    rw [ofEntries, anyTaggedEntry, isTagged_ofJson v, anyTaggedEntry_ofEntries rest]
    rfl

end

mutual

theorem json?_ofJson : ∀ {j : Json}, j.Proper → (ofJson j).json? = some j
  | .null, _ | .bool _, _ | .int _, _ | .text _, _ => rfl
  | .float f, finite => by
    have finite : f.isFinite = true := finite
    rw [ofJson, json?, jsonFloat, if_pos finite]
  | .array items, proper => by rw [ofJson, json?, jsonItems?_ofItems proper]; rfl
  | .object entries, ⟨increasing, proper⟩ => by
    rw [ofJson, json?, jsonEntries?_ofEntries proper, Option.map_some, Json.ofEntries, increasing.sortEntries]

theorem jsonItems?_ofItems : ∀ {items : List Json}, Json.ProperItems items → jsonItems? (ofItems items) = some items
  | [], _ => rfl
  | item :: items, ⟨first, others⟩ => by
    rw [ofItems, jsonItems?, json?_ofJson first, jsonItems?_ofItems others]
    rfl

theorem jsonEntries?_ofEntries : ∀ {entries : List (String × Json)}, Json.ProperEntries entries →
    jsonEntries? (ofEntries entries) = some entries
  | [], _ => rfl
  | (k, v) :: rest, ⟨first, others⟩ => by
    rw [ofEntries, jsonEntries?, json?_ofJson first, jsonEntries?_ofEntries others]
    rfl

end

section
variable {es : List (String × Json)}

theorem fieldAt?_text (r : Reading) (names : List String) (key : String) :
    fieldAt? r names (.text key) = some (names.idxOf? key) := by
  cases r <;> rfl

theorem idxOf?_eq_some {names : List String} (nodup : names.Nodup) {key : String} {n : Nat} :
    names.idxOf? key = some n ↔ names[n]? = some key := by
  rw [List.idxOf?_eq_some_iff, List.getElem?_eq_some_iff]
  constructor
  · rintro ⟨there, own, -⟩
    exact ⟨there, own⟩
  · rintro ⟨there, own⟩
    refine ⟨there, own, fun m before same => ?_⟩
    have equal := (List.Nodup.getElem_inj_iff nodup).mp (same.trans own.symm)
    omega

theorem mem_ofEntries {e : Value × Value} : e ∈ ofEntries es ↔ ∃ d ∈ es, (.text d.1, ofJson d.2) = e := by
  rw [ofEntries_eq, List.mem_map]

theorem fields?_map (r : Reading) (names : List String) (entries : List (Value × Value)) :
    (Value.map entries).fields? r names = fieldsOfEntries? r names entries := by
  cases r <;> rfl

theorem fields?_ofEntries (distinct : (es.map (·.1)).Nodup) (r : Reading) {names : List String}
    (nodup : names.Nodup) : ∃ f, (Value.map (ofEntries es)).fields? r names = some f ∧
      ∀ n name, names[n]? = some name → f.get n = (es.lookup name).map ofJson := by
  have empty (n : Nat) : ((names.map fun _ => (none : Option Value))[n]?).join = none := by
    rw [List.getElem?_map]
    cases names[n]? <;> rfl
  obtain ⟨values, done⟩ : ∃ values, collect r names (ofEntries es) (names.map fun _ => none) = some values := by
    refine collect_some (fun e member => ?_) ?_ fun e member n _ => empty n
    · obtain ⟨d, -, rfl⟩ := mem_ofEntries.mp member
      simp [fieldAt?_text]
    · rw [ofEntries_eq, List.pairwise_map]
      refine (List.pairwise_map.mp distinct).imp fun apart n first second => ?_
      rw [fieldAt?_text, Option.some.injEq, idxOf?_eq_some nodup] at first second
      exact apart (Option.some.inj (first.symm.trans second))
  refine ⟨⟨false, values⟩, by rw [fields?_map, fieldsOfEntries?, done]; rfl, fun n name named => ?_⟩
  change (values[n]?).join = _
  have there : fieldAt? r names (.text name) = some (some n) := by
    rw [fieldAt?_text, (idxOf?_eq_some nodup).mpr named]
  have inRange : n < (names.map fun _ => (none : Option Value)).length := by
    rw [List.length_map]
    exact (List.getElem?_eq_some_iff.mp named).1
  cases found : es.lookup name with
  | some v =>
    have member : (.text name, ofJson v) ∈ ofEntries es := mem_ofEntries.mpr ⟨(name, v), Json.mem_of_lookup found, rfl⟩
    exact collect_given done member there inRange
  | none =>
    cases held : (values[n]?).join with
    | none => rfl
    | some w =>
      obtain ⟨e, member, named', rfl⟩ := (collect_origin done held).resolve_left (by rw [empty]; nofun)
      obtain ⟨d, listed, rfl⟩ := mem_ofEntries.mp member
      rw [fieldAt?_text, Option.some.injEq, idxOf?_eq_some nodup, named] at named'
      have present : (es.lookup name).isSome := by
        rw [Json.lookup_isSome_iff, Option.some.inj named']
        exact List.mem_map_of_mem listed
      simp [found] at present

theorem filter_ofEntries (r : Reading) (p : String → Bool) :
    (ofEntries es).filter (fun e => (e.1.text? r).any p) = ofEntries (es.filter fun e => p e.1) ∧
      (ofEntries es).filter (fun e => !(e.1.text? r).any p) = ofEntries (es.filter fun e => !p e.1) := by
  have text (key : String) : (Value.text key).text? r = some key := by cases r <;> rfl
  constructor <;> simp only [ofEntries_eq, List.filter_map, Function.comp_def, text, Option.any_some]

theorem kind?_ofEntries (distinct : (es.map (·.1)).Nodup) (r : Reading) {key kind : String} {names : List String}
    {n : Nat} (found : es.lookup key = some (.text kind)) (known : names.idxOf? kind = some n) :
    (Value.map (ofEntries es)).kind? r key names = some (n, .map (ofEntries (es.filter (·.1 ≠ key)))) := by
  obtain ⟨own, others⟩ := @filter_ofEntries es .strict (decide <| · = key)
  unfold kind?
  simp only [own, others, Json.filter_key distinct found, anyTaggedEntry_ofEntries]
  have named : (ofJson (.text kind)).seen r = .text kind := by cases r <;> rfl
  simp [ofEntries, named, known]

theorem variant_ofEntries (distinct : (es.map (·.1)).Nodup) (r : Reading) {key kind : String} {names : List String}
    {n : Nat} (found : es.lookup key = some (.text kind)) (known : names.idxOf? kind = some n) :
    ∃ rest, (Value.map (ofEntries es)).kind? r key names = some (n, rest) ∧
      ∀ (q : Reading) (wanted : List String), wanted.Nodup → key ∉ wanted →
        ∃ f, rest.fields? q wanted = some f ∧
          ∀ m name, wanted[m]? = some name → f.get m = (es.lookup name).map ofJson := by
  refine ⟨_, kind?_ofEntries distinct r found known, fun q wanted nodup other => ?_⟩
  have fewer : ((es.filter (·.1 ≠ key)).map (·.1)).Nodup := distinct.sublist (List.filter_sublist.map _)
  obtain ⟨f, read, holds⟩ := fields?_ofEntries fewer q nodup
  refine ⟨f, read, fun m name named => (holds m name named).trans ?_⟩
  have apart : ¬ name = key := fun same => other (same ▸ List.mem_of_getElem? named)
  rw [Json.lookup_filter_ne, if_neg apart]

end

theorem text?_ofJson (r : Reading) (s : String) : (ofJson (.text s)).text? r = some s := by cases r <;> rfl

theorem items?_ofJson (r : Reading) (items : List Json) :
    (ofJson (.array items)).items? r = some (items.map ofJson) := by
  rw [← ofItems_eq]
  cases r <;> rfl

section
variable {α : Type} {shown : α → Json} {read : Value → Option α}

theorem mapM_ofJson {xs : List α} (each : ∀ x ∈ xs, read (ofJson (shown x)) = some x) :
    ((xs.map shown).map ofJson).mapM read = some xs := by
  induction xs with
  | nil => rfl
  | cons x rest ih =>
    obtain ⟨first, others⟩ := List.forall_mem_cons.mp each
    rw [List.map_cons, List.map_cons, List.mapM_cons, first, ih others]
    rfl

theorem texts?_ofJson (r : Reading) (ss : List String) : (ofJson (Report.texts ss)).texts? r = some ss := by
  rw [texts?, Report.texts, items?_ofJson]
  exact mapM_ofJson fun s _ => text?_ofJson r s

theorem mapM_entries {ts : List (String × α)} (r : Reading) (each : ∀ t ∈ ts, read (ofJson (shown t.2)) = some t.2) :
    (ts.map fun t => (Value.text t.1, ofJson (shown t.2))).mapM (fun (k, v) => do some (← k.text? r, ← read v)) =
      some ts := by
  induction ts with
  | nil => rfl
  | cons t rest ih =>
    obtain ⟨first, others⟩ := List.forall_mem_cons.mp each
    have key : (Value.text t.1).text? r = some t.1 := text?_ofJson r t.1
    rw [List.map_cons, List.mapM_cons, ih others]
    simp [key, first]

theorem textMap?_ofJson {ts : List (String × α)} (increasing : Json.Increasing ts) (r : Reading)
    (each : ∀ t ∈ ts, read (ofJson (shown t.2)) = some t.2) :
    (ofJson (.ofEntries (ts.map fun t => (t.1, shown t.2)))).textMap? r read = some ts := by
  have keys : Json.Increasing (ts.map fun t => (t.1, shown t.2)) := by
    simpa [Json.Increasing, Function.comp_def] using increasing
  have entries : (ofJson (.ofEntries (ts.map fun t => (t.1, shown t.2)))).entries? r =
      some (ts.map fun t => (.text t.1, ofJson (shown t.2))) := by
    rw [Json.ofEntries, keys.sortEntries, ofJson, ofEntries_eq, List.map_map]
    cases r <;> rfl
  rw [textMap?, entries]
  change (List.mapM _ _ >>= fun read => some (Json.sortEntries read)) = some ts
  rw [mapM_entries r each]
  exact congrArg some increasing.sortEntries

end

end Value
end Gatehouse
