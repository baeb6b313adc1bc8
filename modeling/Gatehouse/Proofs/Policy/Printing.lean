import Gatehouse.Policy.Printer
import Gatehouse.Proofs.Value.Shown

/-!
Policies that are shown and read again. Whatever is left out when a policy is shown is what a reader puts in, so the
policy that is read is the same, by every reader. Only conditions that live in the program cannot be shown.
-/
namespace Gatehouse.Policy
open Json (Increasing)

theorem variant_tagged {key kind : String} {fields : List (String × Json)}
    (distinct : (key :: fields.map (·.1)).Nodup) (r : Reading) {names : List String} {n : Nat}
    (known : names.idxOf? kind = some n) :
    ∃ rest, (Value.ofJson (tagged key kind fields)).kind? r key names = some (n, rest) ∧
      ∀ (q : Reading) (wanted : List String), wanted.Nodup → key ∉ wanted →
        ∃ f, rest.fields? q wanted = some f ∧
          ∀ m name, wanted[m]? = some name → f.get m = (fields.lookup name).map Value.ofJson := by
  have found (name : String) : (Json.sortEntries ((key, .text kind) :: fields)).lookup name =
      ((key, .text kind) :: fields).lookup name :=
    @Json.lookup_sortEntries _ ((key, .text kind) :: fields) distinct name
  obtain ⟨rest, told, holds⟩ := Value.variant_ofEntries (Json.increasing_sortEntries _).distinct r
    ((found key).trans List.lookup_cons_self) known
  refine ⟨rest, told, fun q wanted nodup other => ?_⟩
  obtain ⟨f, read, holds⟩ := holds q wanted nodup other
  refine ⟨f, read, fun m name named => (holds m name named).trans ?_⟩
  have apart : ¬ name = key := fun same => other (same ▸ List.mem_of_getElem? named)
  rw [found, Json.lookup_cons_eq, if_neg apart]

theorem fields?_record {es : List (String × Json)} (distinct : (es.map (·.1)).Nodup) (r : Reading)
    {names : List String} (nodup : names.Nodup) :
    ∃ f, (Value.ofJson (.ofEntries es)).fields? r names = some f ∧
      ∀ n name, names[n]? = some name → f.get n = (es.lookup name).map Value.ofJson := by
  obtain ⟨f, read, holds⟩ := Value.fields?_ofEntries (Json.increasing_sortEntries es).distinct r nodup
  refine ⟨f, read, fun n name named => (holds n name named).trans ?_⟩
  rw [Json.lookup_sortEntries distinct]

/-- A test that can be written down: values in canonical form, or a pattern out of its own text. -/
def AttributeTest.Proper : AttributeTest → Prop
  | equals v => v.Proper
  | oneOf vs => ∀ v ∈ vs, v.Proper
  | present => True
  | fits p => Pattern.parse p.text = some p

theorem AttributeTest.ofValue?_toJson {t : AttributeTest} (proper : t.Proper) (r : Reading) :
    AttributeTest.ofValue? r (.ofJson t.toJson) = some t := by
  -- the one field that a test has beside its kind
  have reads {kind : String} {fields : List (String × Json)} (distinct : ("op" :: fields.map (·.1)).Nodup) {n : Nat}
      (known : ["equals", "one_of", "present", "matches"].idxOf? kind = some n) :
      ∃ rest, (Value.ofJson (tagged "op" kind fields)).kind? r "op" ["equals", "one_of", "present", "matches"] =
        some (n, rest) ∧ ∀ name v, fields.lookup name = some v → name ≠ "op" →
          (rest.fields? .aside [name]).bind (fun f => f.required 0 some) = some (.ofJson v) := by
    obtain ⟨rest, told, holds⟩ := variant_tagged distinct r known
    refine ⟨rest, told, fun name v given other => ?_⟩
    obtain ⟨f, read, get⟩ := holds .aside [name] (List.nodup_singleton name) (by simpa using Ne.symm other)
    simp [read, Value.Fields.required, get 0 name rfl, given]
  cases t with
  | equals v =>
    obtain ⟨rest, told, field⟩ := @reads "equals" [("value", v)] (by simp) 0 (by decide)
    have back : (Value.ofJson v).json? = some v := Value.json?_ofJson proper
    simp only [AttributeTest.ofValue?, AttributeTest.toJson, told, Option.bind_eq_bind, Option.bind_some]
    rw [field "value" v rfl (by decide)]
    simp [back]
  | oneOf vs =>
    obtain ⟨rest, told, field⟩ := @reads "one_of" [("values", .array vs)] (by simp) 1 (by decide)
    have back : (vs.map Value.ofJson).mapM Value.json? = some vs := by
      simpa using @Value.mapM_ofJson Json (fun v => v) Value.json? vs fun v member =>
        Value.json?_ofJson (proper v member)
    simp only [AttributeTest.ofValue?, AttributeTest.toJson, told, Option.bind_eq_bind, Option.bind_some]
    rw [field "values" _ rfl (by decide)]
    simp [Value.items?_ofJson, back]
  | present =>
    obtain ⟨rest, told, -⟩ := @reads "present" [] (by simp) 2 (by decide)
    simp only [AttributeTest.ofValue?, AttributeTest.toJson, told, Option.bind_eq_bind, Option.bind_some]
  | fits p =>
    obtain ⟨rest, told, field⟩ := @reads "matches" [("pattern", .text p.text)] (by simp) 3 (by decide)
    have back : Pattern.parse p.text = some p := proper
    simp only [AttributeTest.ofValue?, AttributeTest.toJson, told, Option.bind_eq_bind, Option.bind_some]
    rw [field "pattern" _ rfl (by decide)]
    simp [Value.text?_ofJson, back]

structure AttributeTests.Proper (ts : AttributeTests) : Prop where
  keys : Increasing ts
  tests : ∀ t ∈ ts, t.2.Proper

theorem AttributeTests.ofValue?_toJson {ts : AttributeTests} (proper : ts.Proper) (r : Reading) :
    (Value.ofJson ts.toJson).textMap? r (AttributeTest.ofValue? r) = some ts :=
  Value.textMap?_ofJson proper.keys r fun t member => AttributeTest.ofValue?_toJson (proper.tests t member) r

theorem lookup_given {α : Type} (key name : String) (shown : α → Json) (a : Option α) (rest : List (String × Json)) :
    (given key shown a ++ rest).lookup name =
      if name = key then (a.map shown).or (rest.lookup name) else rest.lookup name := by
  cases a with
  | none => simp [given]
  | some a =>
    change ((key, shown a) :: rest).lookup name = _
    rw [Json.lookup_cons_eq, Option.map_some, Option.some_or]

theorem lookup_given_alone {α : Type} (key name : String) (shown : α → Json) (a : Option α) :
    (given key shown a).lookup name = if name = key then a.map shown else none := by
  simpa using lookup_given key name shown a []

theorem keys_given {α : Type} (key : String) (shown : α → Json) (a : Option α) :
    ((given key shown a).map (·.1)).Sublist [key] := by
  cases a <;> simp [given]

theorem fields?_given {α β γ : Type} {key key' key'' : String} (distinct : [key, key', key''].Nodup)
    (shown : α → Json) (shown' : β → Json) (shown'' : γ → Json) (a : Option α) (b : Option β) (c : Option γ)
    (r : Reading) :
    ∃ f, (Value.ofJson (.ofEntries (given key shown a ++ given key' shown' b ++ given key'' shown'' c))).fields? r
        [key, key', key''] = some f ∧
      f.get 0 = a.map (Value.ofJson ∘ shown) ∧ f.get 1 = b.map (Value.ofJson ∘ shown') ∧
      f.get 2 = c.map (Value.ofJson ∘ shown'') := by
  have keys : ((given key shown a ++ given key' shown' b ++ given key'' shown'' c).map (·.1)).Nodup := by
    refine distinct.sublist ?_
    rw [List.map_append, List.map_append]
    exact ((keys_given ..).append (keys_given ..)).append (keys_given ..)
  obtain ⟨f, read, holds⟩ := fields?_record keys r distinct
  have first := holds 0 key rfl
  have second := holds 1 key' rfl
  have third := holds 2 key'' rfl
  simp only [List.nodup_cons, List.mem_cons, List.not_mem_nil, or_false, not_or] at distinct
  simp [lookup_given, lookup_given_alone, distinct, Ne.symm distinct.1.1, Ne.symm distinct.1.2,
    Ne.symm distinct.2.1] at first second third
  exact ⟨f, read, first, second, third⟩

section
variable {α : Type} {f : Value.Fields} {n : Nat} {r : Reading}

theorem defaulted_nonempty {shown : List α → Json} {read : Value → Option (List α)} {items : List α}
    (held : f.get n = (nonempty items).map (Value.ofJson ∘ shown)) (back : read (.ofJson (shown items)) = some items) :
    f.defaulted n read [] = some items := by
  cases items with
  | nil => simp [Value.Fields.defaulted, held, nonempty]
  | cons x xs => simp [Value.Fields.defaulted, held, nonempty, back]

theorem defaulted_text {text : Option String} (held : f.get n = text.map (Value.ofJson ∘ Json.text)) :
    f.defaulted n (fun v => Value.optional (Value.text? r) (some v)) none = some text := by
  cases text with
  | none => simp [Value.Fields.defaulted, held]
  | some s =>
    have back : Value.text? r (.text s) = some s := Value.text?_ofJson r s
    simp [Value.Fields.defaulted, held, Value.ofJson, Value.optional, back]

end

theorem textSet?_ofJson {ss : List String} (increasing : ss.Pairwise (· < ·)) (r : Reading) :
    textSet? r (.ofJson (Report.texts ss)) = some ss := by
  rw [textSet?, Value.texts?_ofJson, Option.map_some, Text.Ordered.ofList_of_increasing increasing]

structure SubjectMatcher.Proper (m : SubjectMatcher) : Prop where
  roles : m.roles.Pairwise (· < ·)
  attributes : AttributeTests.Proper m.attributes

theorem SubjectMatcher.ofValue?_toJson {m : SubjectMatcher} (proper : m.Proper) (r : Reading) :
    SubjectMatcher.ofValue? r (.ofJson m.toJson) = some m := by
  obtain ⟨f, read, id, roles, attributes⟩ := fields?_given (by decide : ["id", "roles", "attributes"].Nodup) .text
    Report.texts AttributeTests.toJson m.id (nonempty m.roles) (nonempty m.attributes) r
  simp only [SubjectMatcher.ofValue?, SubjectMatcher.toJson, read, Option.bind_eq_bind, Option.bind_some,
    defaulted_text id, defaulted_nonempty roles (textSet?_ofJson proper.roles r),
    defaulted_nonempty attributes (AttributeTests.ofValue?_toJson proper.attributes r)]

structure ResourceMatcher.Proper (m : ResourceMatcher) : Prop where
  attributes : AttributeTests.Proper m.attributes

theorem ResourceMatcher.ofValue?_toJson {m : ResourceMatcher} (proper : m.Proper) (r : Reading) :
    ResourceMatcher.ofValue? r (.ofJson m.toJson) = some m := by
  obtain ⟨f, read, id, type, attributes⟩ := fields?_given (by decide : ["id", "type", "attributes"].Nodup) .text
    .text AttributeTests.toJson m.id m.type (nonempty m.attributes) r
  simp only [ResourceMatcher.ofValue?, ResourceMatcher.toJson, read, Option.bind_eq_bind, Option.bind_some,
    defaulted_text id, defaulted_text type,
    defaulted_nonempty attributes (AttributeTests.ofValue?_toJson proper.attributes r)]

def Predicate.Proper : Predicate → Prop
  | onAttribute _ _ test => test.Proper
  | rolesAll roles => roles.Pairwise (· < ·)
  | _ => True

def Condition.isCustom (c : Condition) : Bool :=
  match c.predicate with
  | .custom _ => true
  | _ => false

theorem ofValue?_sourceName (s : Source) : Value.variant? .aside sourceNames (.ofJson (.text s.name)) = some s := by
  cases s <;> rfl

theorem nodup_sortEntries (es : List (String × Json)) : ((Json.sortEntries es).map (·.1)).Nodup :=
  (Json.increasing_sortEntries es).distinct

/-- A condition is its name and the predicate that is read of the other fields. -/
theorem Condition.reads {name kind : String} {fields : List (String × Json)}
    (distinct : ("type" :: "name" :: fields.map (·.1)).Nodup) (r : Reading) {n : Nat}
    (known : ["attribute", "subject_is_owner", "roles_all"].idxOf? kind = some n) :
    ∃ entries rest, Condition.ofValue? r (.ofJson (tagged "type" kind (("name", .text name) :: fields))) =
        (Predicate.ofEntries? entries).map (Condition.mk name) ∧
      (Value.map entries).kind? .aside "type" ["attribute", "subject_is_owner", "roles_all"] = some (n, rest) ∧
      ∀ wanted : List String, wanted.Nodup → "type" ∉ wanted → "name" ∉ wanted →
        ∃ f, rest.fields? .aside wanted = some f ∧
          ∀ m field, wanted[m]? = some field → f.get m = (fields.lookup field).map Value.ofJson := by
  let es := Json.sortEntries (("type", .text kind) :: ("name", .text name) :: fields)
  have found (field : String) : es.lookup field =
      (("type", .text kind) :: ("name", .text name) :: fields).lookup field :=
    @Json.lookup_sortEntries _ (("type", .text kind) :: ("name", .text name) :: fields) distinct field
  have rest : ((es.filter (·.1 ≠ "name")).map (·.1)).Nodup :=
    (nodup_sortEntries _).sublist (List.filter_sublist.map _)
  have told : (es.filter (·.1 ≠ "name")).lookup "type" = some (.text kind) := by
    rw [Json.lookup_filter_ne, if_neg (by decide), found]
    rfl
  obtain ⟨left, variant, holds⟩ := Value.variant_ofEntries rest .aside told known
  refine ⟨Value.ofEntries (es.filter (·.1 ≠ "name")), left, ?_, variant, fun wanted nodup apart apart' => ?_⟩
  · have named : es.lookup "name" = some (.text name) := by
      rw [found]
      rfl
    have entries : (Value.ofJson (tagged "type" kind (("name", .text name) :: fields))).entries? r =
        some (Value.ofEntries es) := by cases r <;> rfl
    obtain ⟨own, others⟩ := @Value.filter_ofEntries es r (decide <| · = "name")
    have back : Value.text? r (.ofJson (.text name)) = some name := Value.text?_ofJson r name
    have single : es.filter (·.1 = "name") = [("name", .text name)] := Json.filter_key (nodup_sortEntries _) named
    simp only [Condition.ofValue?, entries, Option.bind_eq_bind, Option.bind_some, own, others, single,
      Value.ofEntries, back, ne_eq, decide_not]
    cases Predicate.ofEntries? (Value.ofEntries (es.filter fun e => !decide (e.1 = "name"))) <;> rfl
  · obtain ⟨f, read, get⟩ := holds .aside wanted nodup apart
    refine ⟨f, read, fun m field there => (get m field there).trans ?_⟩
    have other : ¬ field = "type" := fun same => apart (same ▸ List.mem_of_getElem? there)
    have other' : ¬ field = "name" := fun same => apart' (same ▸ List.mem_of_getElem? there)
    rw [Json.lookup_filter_ne, if_neg other', found, Json.lookup_cons_eq, if_neg other, Json.lookup_cons_eq,
      if_neg other']

theorem required_of_get {α : Type} {f : Value.Fields} {n : Nat} {j : Json} {read : Value → Option α} {a : α}
    (held : f.get n = some (.ofJson j)) (back : read (.ofJson j) = some a) : f.required n read = some a := by
  rw [Value.Fields.required, held, Option.bind_some, back]

theorem defaulted_of_get {α : Type} {f : Value.Fields} {n : Nat} {j : Json} {read : Value → Option α} {a : α}
    (held : f.get n = some (.ofJson j)) (back : read (.ofJson j) = some a) (default : α) :
    f.defaulted n read default = some a := by
  simp only [Value.Fields.defaulted, held, back]

theorem Condition.read_back {c : Condition} (proper : c.predicate.Proper) (written : c.isCustom = false) :
    ∃ j, c.toJson? = some j ∧ ∀ r, Condition.ofValue? r (.ofJson j) = some c := by
  obtain ⟨name, predicate⟩ := c
  have text (s : String) : Value.text? .aside (.ofJson (.text s)) = some s := Value.text?_ofJson .aside s
  cases predicate with
  | onAttribute source key test =>
    refine ⟨_, rfl, fun r => ?_⟩
    obtain ⟨entries, rest, read, told, fields⟩ := @Condition.reads name "attribute"
      [("source", .text source.name), ("key", .text key), ("match", test.toJson)] (by simp) r 0 (by decide)
    obtain ⟨f, got, get⟩ := fields ["source", "key", "match"] (by decide) (by decide) (by decide)
    have source := required_of_get (get 0 "source" rfl) (ofValue?_sourceName source)
    have key := required_of_get (get 1 "key" rfl) (text key)
    have test := required_of_get (get 2 "match" rfl) (AttributeTest.ofValue?_toJson proper .aside)
    rw [read]
    simp [Predicate.ofEntries?, told, got, source, key, test]
  | subjectIsOwner source key =>
    refine ⟨_, rfl, fun r => ?_⟩
    obtain ⟨entries, rest, read, told, fields⟩ := @Condition.reads name "subject_is_owner"
      [("source", .text source.name), ("key", .text key)] (by simp) r 1 (by decide)
    obtain ⟨f, got, get⟩ := fields ["source", "key"] (by decide) (by decide) (by decide)
    have source := defaulted_of_get (get 0 "source" rfl) (ofValue?_sourceName source) .resource
    have key := defaulted_of_get (get 1 "key" rfl) (text key) "owner"
    rw [read]
    simp [Predicate.ofEntries?, told, got, source, key]
  | rolesAll roles =>
    refine ⟨_, rfl, fun r => ?_⟩
    obtain ⟨entries, rest, read, told, fields⟩ := @Condition.reads name "roles_all"
      [("roles", Report.texts roles)] (by simp) r 2 (by decide)
    obtain ⟨f, got, get⟩ := fields ["roles"] (by decide) (by decide) (by decide)
    have roles := required_of_get (get 0 "roles" rfl) (textSet?_ofJson proper .aside)
    rw [read]
    simp [Predicate.ofEntries?, told, got, roles]
  | custom evaluate => cases written

/-- What can be written down of a policy is in order, as sets and maps are, and its priority has 32 bits. -/
structure Proper (p : Policy) : Prop where
  priority : -Nat.pow 2 31 ≤ p.priority ∧ p.priority ≤ Nat.pow 2 31 - 1
  subjects : ∀ m ∈ p.subjects, m.Proper
  resources : ∀ m ∈ p.resources, m.Proper
  conditions : ∀ c ∈ p.conditions, c.predicate.Proper

theorem conditions_read_back {cs : List Condition} (proper : ∀ c ∈ cs, c.predicate.Proper)
    (written : ∀ c ∈ cs, c.isCustom = false) :
    ∃ js, cs.mapM Condition.toJson? = some js ∧ ∀ r, (js.map Value.ofJson).mapM (Condition.ofValue? r) = some cs := by
  induction cs with
  | nil => exact ⟨[], rfl, fun r => rfl⟩
  | cons c rest ih =>
    obtain ⟨first, others⟩ := List.forall_mem_cons.mp proper
    obtain ⟨own, written⟩ := List.forall_mem_cons.mp written
    obtain ⟨j, shown, read⟩ := Condition.read_back first own
    obtain ⟨js, shown', read'⟩ := ih others written
    refine ⟨j :: js, ?_, fun r => ?_⟩
    · rw [List.mapM_cons, shown, shown']
      rfl
    · rw [List.map_cons, List.mapM_cons, read, read']
      rfl

theorem conditions_not_shown {cs : List Condition} (custom : ∃ c ∈ cs, c.isCustom = true) :
    cs.mapM Condition.toJson? = none := by
  induction cs with
  | nil => simp at custom
  | cons c rest ih =>
    obtain ⟨d, member, custom⟩ := custom
    rw [List.mapM_cons]
    rcases List.mem_cons.mp member with rfl | member
    · obtain ⟨name, predicate⟩ := d
      cases predicate with
      | custom evaluate => rfl
      | _ => cases custom
    · rw [ih ⟨d, member, custom⟩]
      cases c.toJson? <;> rfl

theorem list_of_get {α : Type} {f : Value.Fields} {n : Nat} {xs : List α} {shown : α → Json}
    {read : Value → Option α} (r : Reading) (held : f.get n = some (.ofJson (.array (xs.map shown))))
    (each : ∀ x ∈ xs, read (.ofJson (shown x)) = some x) :
    f.defaulted n (fun v => (v.items? r).bind fun items => items.mapM read) [] = some xs :=
  defaulted_of_get held (by rw [Value.items?_ofJson, Option.bind_some, Value.mapM_ofJson each]) []

theorem action_read_back (m : ActionMatcher) (r : Reading) :
    ActionMatcher.ofValue? r (.ofJson (.text m.name)) = some m := by
  rw [ActionMatcher.ofValue?, Value.text?_ofJson]
  rfl

theorem effect_read_back (e : Effect) (r : Reading) :
    Value.variant? r effectNames (.ofJson (.text e.name)) = some e := by
  cases e <;> cases r <;> rfl

def fieldsWith (p : Policy) (conditions : List Json) : List (String × Json) :=
  given "description" .text p.description ++
    [("id", .text p.id), ("effect", .text p.effect.name), ("priority", .int p.priority),
     ("subjects", .array (p.subjects.map SubjectMatcher.toJson)),
     ("resources", .array (p.resources.map ResourceMatcher.toJson)),
     ("actions", .array (p.actions.map fun a => .text a.name)), ("conditions", .array conditions)]

theorem distinct_fieldsWith (p : Policy) (conditions : List Json) :
    ((p.fieldsWith conditions).map (·.1)).Nodup := by
  refine (by decide : ["description", "id", "effect", "priority", "subjects", "resources", "actions",
    "conditions"].Nodup).sublist ?_
  rw [fieldsWith, List.map_append]
  exact (keys_given ..).append (List.Sublist.refl _)

theorem lookup_fieldsWith (p : Policy) (conditions : List Json) {name : String} (other : name ≠ "description") :
    (p.fieldsWith conditions).lookup name = ({ p with description := none }.fieldsWith conditions).lookup name := by
  rw [fieldsWith, lookup_given, if_neg other]
  rfl

theorem priority_read_back {i low high : Int} (fits : low ≤ i ∧ i ≤ high) (r : Reading) :
    Value.int? r low high (.ofJson (.int i)) = some i := by
  have seen : (Value.ofJson (.int i)).seen r = .int i := by cases r <;> rfl
  rw [Value.int?, seen]
  exact if_pos fits

theorem fieldsWith_read_back {p : Policy} (proper : p.Proper) {js : List Json} {r : Reading}
    (conditions : (js.map Value.ofJson).mapM (Condition.ofValue? r) = some p.conditions) :
    ofValue? r (.ofJson (.ofEntries (p.fieldsWith js))) = some p := by
  obtain ⟨f, read, get⟩ := fields?_record (distinct_fieldsWith p js) r (by decide : ["id", "description", "effect",
    "priority", "subjects", "resources", "actions", "conditions"].Nodup)
  have held (n : Nat) (name : String) (named : ["id", "description", "effect", "priority", "subjects", "resources",
      "actions", "conditions"][n]? = some name) (other : name ≠ "description") {j : Json}
      (given : ({ p with description := none }.fieldsWith js).lookup name = some j) : f.get n = some (.ofJson j) := by
    rw [get n name named, lookup_fieldsWith p js other, given]
    rfl
  have id := required_of_get (held 0 "id" rfl (by decide) rfl) (Value.text?_ofJson r p.id)
  have description : f.get 1 = p.description.map (Value.ofJson ∘ .text) := by
    rw [get 1 "description" rfl, fieldsWith, lookup_given, if_pos rfl]
    cases p.description <;> rfl
  have effect := required_of_get (held 2 "effect" rfl (by decide) rfl) (effect_read_back p.effect r)
  have priority := defaulted_of_get (held 3 "priority" rfl (by decide) rfl) (priority_read_back proper.priority r) 0
  have subjects := list_of_get r (held 4 "subjects" rfl (by decide) rfl)
    fun m member => SubjectMatcher.ofValue?_toJson (proper.subjects m member) r
  have resources := list_of_get r (held 5 "resources" rfl (by decide) rfl)
    fun m member => ResourceMatcher.ofValue?_toJson (proper.resources m member) r
  have actions := list_of_get r (held 6 "actions" rfl (by decide) rfl) fun m _ => action_read_back m r
  have conditions : f.defaulted 7 (fun v => (v.items? r).bind fun items => items.mapM (Condition.ofValue? r)) [] =
      some p.conditions :=
    defaulted_of_get (held 7 "conditions" rfl (by decide) rfl)
      (by rw [Value.items?_ofJson, Option.bind_some, conditions]) []
  simp only [ofValue?, read, Option.bind_eq_bind, Option.bind_some, id, defaulted_text description, effect, priority,
    subjects, resources, actions, conditions]

/-- A policy that can be written down is shown, and every reader makes it of what is shown. -/
theorem read_back {p : Policy} (proper : p.Proper) (written : ∀ c ∈ p.conditions, c.isCustom = false) :
    ∃ j, p.toJson? = some j ∧ ∀ r, ofValue? r (.ofJson j) = some p := by
  obtain ⟨js, shown, read⟩ := conditions_read_back proper.conditions written
  refine ⟨.ofEntries (p.fieldsWith js), ?_, fun r => fieldsWith_read_back proper (read r)⟩
  rw [toJson?, shown]
  rfl

/-- Policies without conditions that live in the program are shown, and every reader makes the same policy of what is
shown; with such a condition a policy cannot be shown. -/
theorem policy_read_back (p : Policy) :
    (p.Proper → (∀ c ∈ p.conditions, c.isCustom = false) →
      ∃ j, p.toJson? = some j ∧ ∀ r, ofValue? r (.ofJson j) = some p) ∧
    ((∃ c ∈ p.conditions, c.isCustom = true) → p.toJson? = none) := by
  refine ⟨fun proper written => read_back proper written, fun custom => ?_⟩
  rw [toJson?, conditions_not_shown custom]
  rfl

namespace Sample

def reviewers (docs : Pattern) : Policy :=
  { id := "reviewers", description := some "", effect := .deny, priority := -3
    subjects := [{}, { roles := ["dev", "ops"],
                       attributes := [("level", .oneOf [.null, .object [("a", .array [.null]), ("b", .int 2)]])] }]
    resources := [{ id := some "docs/*", attributes := [("name", .fits docs), ("size", .present)] }]
    actions := [⟨"read"⟩]
    conditions :=
      [⟨"owner", .subjectIsOwner .context "boss"⟩, ⟨"none", .onAttribute .subject "level" (.equals .null)⟩,
       ⟨"all", .rolesAll ["a", "b"]⟩] }

theorem proper_reviewers {docs : Pattern} (compiled : Pattern.parse docs.text = some docs) :
    (reviewers docs).Proper where
  priority := (by decide : -Nat.pow 2 31 ≤ (-3 : Int) ∧ (-3 : Int) ≤ Nat.pow 2 31 - 1)
  subjects := by
    intro m member
    simp only [reviewers, List.mem_cons, List.not_mem_nil, or_false] at member
    rcases member with rfl | rfl
    · exact ⟨by decide, by decide, nofun⟩
    · refine ⟨by decide, by decide, fun t member => ?_⟩
      obtain rfl := List.mem_singleton.mp member
      intro v member
      simp only [List.mem_cons, List.not_mem_nil, or_false] at member
      rcases member with rfl | rfl
      · trivial
      · exact ⟨by decide, ⟨trivial, trivial⟩, trivial, trivial⟩
  resources := by
    intro m member
    obtain rfl := List.mem_singleton.mp member
    refine ⟨(by decide : ["name", "size"].Pairwise (· < ·)), fun t member => ?_⟩
    simp only [List.mem_cons, List.not_mem_nil, or_false] at member
    rcases member with rfl | rfl
    · exact compiled
    · trivial
  conditions := by
    intro c member
    simp only [reviewers, List.mem_cons, List.not_mem_nil, or_false] at member
    rcases member with rfl | rfl | rfl
    · trivial
    · trivial
    · show ["a", "b"].Pairwise (· < ·)
      decide

theorem reviewers_read_back :
    ∃ docs, Pattern.parse "^docs/" = some docs ∧
      ∃ j, (reviewers docs).toJson? = some j ∧ ∀ r, ofValue? r (.ofJson j) = some (reviewers docs) := by
  obtain ⟨docs, compiled⟩ : ∃ docs, Pattern.parse "^docs/" = some docs :=
    Option.isSome_iff_exists.mp (by decide +kernel)
  obtain ⟨e, -, rfl⟩ := Option.map_eq_some_iff.mp compiled
  refine ⟨_, compiled, (policy_read_back _).1 (proper_reviewers compiled) fun c member => ?_⟩
  simp only [reviewers, List.mem_cons, List.not_mem_nil, or_false] at member
  rcases member with rfl | rfl | rfl <;> rfl

end Sample

end Gatehouse.Policy
