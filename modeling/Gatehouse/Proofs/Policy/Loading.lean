import Gatehouse.Config.Load
import Gatehouse.Policy.Reader
import Gatehouse.Proofs.Except
import Gatehouse.Proofs.Value.Fields

/-!
Two ways to the policies of a file. One reads its text at once; on the other, settings that name the file collect its
entries, which become policies later. Either way a document is first taken apart into entries, and of the same
entries both make the same policies, so what matters is which documents are taken: some only on one of the ways, and
all others on both or on neither.
-/
namespace Gatehouse
open Yaml (Document)

namespace Value

def entriesAtOnce? : Value → Option (List Value)
  | .null => some []
  | .list items => some items
  | v => do
    let f ← v.fields? .loose ["policies"]
    f.defaulted 0 (Value.items? .loose) []

/-- Items in which no map repeats a key. -/
def distinctItems? (items : List Value) : Option (List Value) := if areDistinct items then some items else none

def entriesNamed? (v : Value) : Option (List Value) :=
  if v.isTagged then none
  else
    match v with
    | .list items => distinctItems? items
    | .map entries => do
      let fields ← fieldsOfEntries? .aside ["policies"] entries
      fields.defaulted 0 (fun v => (v.items? .aside).bind distinctItems?) []
    | _ => none

/-- What settings take from no document: tags, or nothing where a list or record is wanted. -/
inductive OnlyAtOnce : Value → Prop where
  | tagged {v : Value} (tagged : v.isTagged = true) : OnlyAtOnce v
  | nothing : OnlyAtOnce .null
  | noPolicies {entries : List (Value × Value)} (member : (.text "policies", .null) ∈ entries) :
      OnlyAtOnce (.map entries)

/-- What is in no document that is read at once: keys that repeat, in whatever place, or count fields. -/
inductive OnlyNamed : Value → Prop where
  | repeating {v : Value} (repeating : v.isDistinct = false) : OnlyNamed v
  | counting {entries : List (Value × Value)} {i : Int} {v : Value} (counts : 0 ≤ i)
      (member : (.int i, v) ∈ entries) : OnlyNamed (.map entries)

theorem entriesNamed?_of_onlyAtOnce {v : Value} (only : OnlyAtOnce v) : v.entriesNamed? = none := by
  unfold entriesNamed?
  cases only with
  | tagged tagged => exact if_pos tagged
  | nothing => rfl
  | @noPolicies entries member =>
    split
    · rfl
    · cases done : collect .aside ["policies"] entries [none] with
      | none => simp [fieldsOfEntries?, done]
      | some values =>
        have held := collect_given done member (n := 0) rfl (by simp)
        simp [fieldsOfEntries?, done, Fields.defaulted, Fields.get, held, items?, seen]

theorem refused_at_once {v : Value} (only : OnlyNamed v) :
    ((some v).filter isDistinct).bind entriesAtOnce? = none := by
  cases only with
  | repeating repeating => simp [Option.filter, repeating]
  | @counting entries i w _ member =>
    have refused : collect .loose ["policies"] entries [none] = none := collect_refused member rfl
    simp only [Option.filter]
    split
    · simp [entriesAtOnce?, fields?, seen, untag, entries?, fieldsOfEntries?, refused]
    · rfl

theorem isDistinct_of_entry {entries : List (Value × Value)} {e : Value × Value} (member : e ∈ entries)
    (distinct : hasDistinctEntries entries = true) : e.2.isDistinct = true := by
  induction entries with
  | nil => cases member
  | cons d rest ih =>
    simp only [hasDistinctEntries, Bool.and_eq_true] at distinct
    rcases List.mem_cons.mp member with rfl | member
    · exact distinct.1.1.2
    · exact ih member distinct.2

theorem untagged_of_entry {entries : List (Value × Value)} {e : Value × Value} (member : e ∈ entries)
    (untagged : anyTaggedEntry entries = false) : e.1.isTagged = false ∧ e.2.isTagged = false := by
  induction entries with
  | nil => cases member
  | cons d rest ih =>
    simp only [anyTaggedEntry, Bool.or_eq_false_iff] at untagged
    rcases List.mem_cons.mp member with rfl | member
    · exact untagged.1
    · exact ih member untagged.2

theorem name_of_fieldAt {name : String} {k : Value} {n : Nat} (uncounted : ∀ i, k = .int i → ¬ 0 ≤ i)
    (names : fieldAt? .aside [name] k = some (some n)) : k = .text name := by
  cases k with
  | text s =>
    have found : [name].idxOf? s = some n := by simpa [fieldAt?, seen] using names
    have same : name = s := by simpa [List.idxOf?, List.findIdx?_cons] using (Option.isSome_of_eq_some found)
    rw [same]
  | int i =>
    have negative := uncounted i rfl
    simp [fieldAt?, seen, negative] at names
  | _ => simp [fieldAt?, seen] at names

theorem items_agree {v : Value} (there : v ≠ .null) (untagged : v.isTagged = false) (distinct : v.isDistinct = true) :
    v.items? .loose = (v.items? .aside).bind distinctItems? := by
  cases v with
  | null => exact absurd rfl there
  | list items => exact (if_pos distinct).symm
  | tagged t w => cases untagged
  | _ => rfl

/-- A document that neither way refuses for itself has the same entries on both. -/
theorem entries_agree {v : Value} (plain : ¬ OnlyAtOnce v) (distinct : ¬ OnlyNamed v) :
    v.entriesAtOnce? = v.entriesNamed? := by
  have untagged : v.isTagged = false := by
    simpa using fun tagged => plain (.tagged tagged)
  have unrepeated : v.isDistinct = true := by
    simpa using fun repeating => distinct (.repeating repeating)
  unfold entriesNamed?
  rw [if_neg (by simp [untagged])]
  cases v with
  | null => exact absurd .nothing plain
  | list items => exact (if_pos unrepeated).symm
  | map entries =>
    have uncounted : ∀ e ∈ entries, ∀ i, e.1 = .int i → ¬ 0 ≤ i := by
      rintro ⟨k, w⟩ member i rfl counts
      exact distinct (.counting counts member)
    have keys : ∀ e ∈ entries, fieldAt? .loose ["policies"] e.1 = fieldAt? .aside ["policies"] e.1 := by
      rintro ⟨k, w⟩ member
      have key := (untagged_of_entry member untagged).1
      cases k with
      | int i =>
        have negative := uncounted _ member i rfl
        simp [fieldAt?, seen, untag, negative]
      | tagged t u => cases key
      | _ => rfl
    have fields : (Value.map entries).fields? .loose ["policies"] = fieldsOfEntries? .aside ["policies"] entries :=
      congrArg (Option.map _) (collect_congr keys)
    simp only [entriesAtOnce?, fields]
    cases done : collect .aside ["policies"] entries [none] with
    | none => simp [fieldsOfEntries?, done]
    | some values =>
      cases held : (values[0]?).join with
      | none => simp [fieldsOfEntries?, done, Fields.defaulted, Fields.get, held]
      | some w =>
        obtain ⟨⟨k, u⟩, member, names, same⟩ := (collect_origin done held).resolve_left (by simp)
        obtain rfl : u = w := same
        obtain rfl := name_of_fieldAt (uncounted _ member) names
        have there : u ≠ .null := by
          rintro rfl
          exact plain (.noPolicies member)
        have same := items_agree there (untagged_of_entry member untagged).2 (isDistinct_of_entry member unrepeated)
        simp [fieldsOfEntries?, done, Fields.defaulted, Fields.get, held, same]
  | tagged t w => cases untagged
  | _ => rfl

end Value

namespace Policy

def typed? (entries : Option (List Value)) : Option (List Policy) := entries.bind fun es => (ofValues es).toOption

theorem parse_eq (text : String) :
    Yaml.parse text = (Yaml.parseWith text Document.value).filter Value.isDistinct := by
  unfold Yaml.parse Yaml.parseWith
  cases Yaml.document? text with
  | none => rfl
  | some d =>
    simp only [Document.distinctValue, bind, Yaml.Visit.bind, Option.bind_some]
    cases read : (d.getD Document.empty).value Yaml.maxDepth (d.getD Document.empty).root 0 with
    | none => rfl
    | some result =>
      obtain ⟨v, n⟩ := result
      cases distinct : v.isDistinct <;> simp [Option.filter, distinct, Yaml.Visit.fail, pure, Yaml.Visit.pure]

theorem listed_eq (v : Value) :
    (do
      let f ← v.fields? .loose ["policies"]
      f.defaulted 0 (fun v => (v.items? .loose).bind listOfValues?) []) =
    (do
      let f ← v.fields? .loose ["policies"]
      f.defaulted 0 (Value.items? .loose) []).bind listOfValues? := by
  cases v.fields? .loose ["policies"] with
  | none => rfl
  | some f =>
    simp only [Value.Fields.defaulted, bind, Option.bind_some]
    cases f.get 0 <;> rfl

theorem ofYaml_eq (text : String) : (ofYaml text).toOption =
    typed? (((Yaml.parseWith text Document.value).filter Value.isDistinct).bind Value.entriesAtOnce?) := by
  rw [← parse_eq]
  unfold ofYaml
  cases Yaml.parse text with
  | none => rfl
  | some v =>
    cases v with
    | null => rfl
    | list items => rfl
    | _ =>
      simp only [listed_eq, Option.bind_some, Value.entriesAtOnce?]
      generalize (do
        let f ← Value.fields? .loose ["policies"] _
        f.defaulted 0 (Value.items? .loose) [] : Option (List Value)) = entries
      cases entries <;> rfl

theorem policyEntries?_eq (text : String) :
    Config.policyEntries? text = (Yaml.parseWith text Document.value).bind Value.entriesNamed? := rfl

end Policy

namespace Config
variable {t : FileTree} {path main file text : String} {config : Config}

/-- Settings without faults that name a file, and have no policies of their own, have the entries of the file. -/
theorem load_naming (read : t.read? path = some main) (settings : parse main = some config)
    (named : config.policiesFile = some file) (alone : config.policies = []) (sound : config.fault? = none)
    (there : t.read? (FileTree.join (FileTree.parent path) file) = some text) :
    (load t path).toOption = (policyEntries? text).map fun policies => { config with policies } := by
  have present : t.contains (FileTree.join (FileTree.parent path) file) = true := by
    obtain ⟨spot, found, -⟩ := Option.bind_eq_some_iff.mp there
    rw [FileTree.contains, found]
    rfl
  unfold load
  simp only [read, settings, named, present, there]
  cases policyEntries? text with
  | none => rfl
  | some policies =>
    have still : fault? { config with policiesFile := some file, policies } = none := sound
    simp only [alone, List.nil_append, Bool.not_true, Bool.false_eq_true, if_false, pure_bind, still]
    rfl

end Config

namespace Policy

/-- Settings without faults name a file of policies and have none in place. The policies of the settings, and of the
file itself, are then the same in the same order, or there are none on either way, for every text of the file, apart
from documents that only one of the ways takes: those with tags, or with nothing where a list or record is wanted, are
only read at once; those in which keys repeat or count fields can only be collected. -/
theorem loaders_agree {t : FileTree} {path main file text : String} {config : Config}
    (read : t.read? path = some main) (settings : Config.parse main = some config)
    (named : config.policiesFile = some file) (alone : config.policies = []) (sound : config.fault? = none)
    (there : t.read? (FileTree.join (FileTree.parent path) file) = some text) :
    let atOnce := (ofYaml text).toOption
    let collected := (Config.load t path).toOption.bind fun c => (ofValues c.policies).toOption
    match Yaml.parseWith text Document.value with
    | none => atOnce = none ∧ collected = none
    | some v => (¬ v.OnlyAtOnce → ¬ v.OnlyNamed → atOnce = collected) ∧
        (v.OnlyAtOnce → collected = none) ∧ (v.OnlyNamed → atOnce = none) := by
  intro atOnce collected
  have atOnce_eq : atOnce = typed? _ := ofYaml_eq text
  have collected_eq : collected = typed? ((Yaml.parseWith text Document.value).bind Value.entriesNamed?) := by
    have loaded := Config.load_naming read settings named alone sound there
    rw [show collected = _ from congrArg (Option.bind · _) loaded, policyEntries?_eq]
    cases (Yaml.parseWith text Document.value).bind Value.entriesNamed? <;> rfl
  cases parsed : Yaml.parseWith text Document.value with
  | none =>
    rw [parsed] at atOnce_eq collected_eq
    exact ⟨atOnce_eq, collected_eq⟩
  | some v =>
    rw [parsed] at atOnce_eq collected_eq
    refine ⟨fun plain distinct => ?_, fun only => ?_, fun only => ?_⟩
    · have unrepeated : v.isDistinct = true := by
        simpa using fun repeating => distinct (.repeating repeating)
      rw [atOnce_eq, collected_eq]
      simp only [Option.filter, unrepeated, if_true, Option.bind_some, Value.entries_agree plain distinct]
    · rw [collected_eq, Option.bind_some, Value.entriesNamed?_of_onlyAtOnce only]
      rfl
    · rw [atOnce_eq, Value.refused_at_once only]
      rfl

namespace Sample

def naming : String := "policies_file: policies.yaml\n"

/-- Settings that name a file, beside that file. -/
def beside (text : String) : FileTree := ⟨[("warden.yaml", naming), ("policies.yaml", text)]⟩

def collected (text : String) : Option (List Policy) :=
  (Config.load (beside text) "warden.yaml").toOption.bind fun c => (ofValues c.policies).toOption

def onePolicy : String := "policies: [{id: p, effect: allow}]\n"

def onePolicyValue : Value :=
  .map [(.text "policies", .list [.map [(.text "id", .text "p"), (.text "effect", .text "allow")]])]

def texts? : Value → Option (List String)
  | .map [(.text a, .list [.map [(.text b, .text c), (.text d, .text e)]])] => some [a, b, c, d, e]
  | _ => none

theorem parse_onePolicy : Yaml.parseWith onePolicy Document.value = some onePolicyValue := by
  have read : (Yaml.parseWith onePolicy Document.value).bind texts? =
      some ["policies", "id", "p", "effect", "allow"] := by decide +kernel
  obtain ⟨v, parsed, read⟩ := Option.bind_eq_some_iff.mp read
  unfold texts? at read
  split at read <;> cases read
  exact parsed

theorem distinct_onePolicy : onePolicyValue.isDistinct = true := by
  simp [Value.isDistinct, Value.areDistinct, Value.hasDistinctEntries, Value.same, onePolicyValue]

/-- A file with one policy gives that on either way. -/
theorem one_policy : ((ofYaml onePolicy).toOption).map (·.map (·.id)) = some ["p"] ∧
    (ofYaml onePolicy).toOption = collected onePolicy := by
  obtain ⟨config, settings⟩ : ∃ config, Config.parse naming = some config :=
    Option.isSome_iff_exists.mp (by decide +kernel)
  have named : (Config.parse naming).map (·.policiesFile) = some (some "policies.yaml") := by decide +kernel
  have alone : (Config.parse naming).map (·.policies.length) = some 0 := by decide +kernel
  have sound : (Config.parse naming).map (·.fault?) = some none := by decide +kernel
  rw [settings] at named alone sound
  have agree := @loaders_agree (beside onePolicy) "warden.yaml" naming "policies.yaml" onePolicy config
    (by decide +kernel) settings (by simpa using named) (by simpa using alone) (by simpa using sound)
    (by decide +kernel)
  rw [parse_onePolicy] at agree
  have plain : ¬ onePolicyValue.OnlyAtOnce := by
    intro only
    cases only with
    | tagged tagged => revert tagged; decide +kernel
    | noPolicies member => simp at member
  have distinct : ¬ onePolicyValue.OnlyNamed := by
    intro only
    cases only with
    | repeating repeating => cases distinct_onePolicy.symm.trans repeating
    | counting counts member => simp at member
  refine ⟨?_, agree.1 plain distinct⟩
  rw [ofYaml_eq, parse_onePolicy]
  simp only [Option.filter, distinct_onePolicy, if_true]
  decide +kernel

/-- A file with a comment is an empty set of policies if it is read at once, and refused when settings name it; one
that counts its field is only read when settings name it. -/
theorem parted_by_comment :
    let comment := "# no policies yet\n"
    let counted := "0: []\n"
    ((ofYaml comment).toOption = some [] ∧ collected comment = none) ∧
      (ofYaml counted).toOption = none ∧ collected counted = some [] := by
  have empty : (ofYaml "# no policies yet\n").toOption.map (·.length) = some 0 := by decide +kernel
  have refused : (collected "# no policies yet\n").isNone = true := by decide +kernel
  have unread : (ofYaml "0: []\n").toOption.isNone = true := by decide +kernel
  have counted : (collected "0: []\n").map (·.length) = some 0 := by decide +kernel
  simp only [Option.map_eq_some_iff, List.length_eq_zero_iff, exists_eq_right] at empty counted
  exact ⟨⟨empty, Option.isNone_iff_eq_none.mp refused⟩, Option.isNone_iff_eq_none.mp unread, counted⟩

end Sample
end Policy
end Gatehouse
