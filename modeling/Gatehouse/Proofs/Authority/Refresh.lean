import Gatehouse.Proofs.Authority.Records
import Gatehouse.Proofs.Authority.Replacement
import Gatehouse.Proofs.Authority.Validation

/-!
What a refresh token is exchanged for: an access token for its record, with the scopes that the metadata of the
record list, or those of the record if there is no list. Only where the list has no word the configured default
takes its place. Nothing else changes, and nothing at all if the exchange fails.
-/
namespace Gatehouse.Text
variable {sep : Char → Bool}

/-- A piece follows a separator, up to the next one. -/
def Trails (sep : Char → Bool) (cs piece : List Char) : Prop :=
  ∃ before c after, cs = before ++ c :: after ∧ sep c = true ∧ piece = after.takeWhile fun c => !sep c

theorem trails_cons {c : Char} {cs piece : List Char} :
    Trails sep (c :: cs) piece ↔ sep c = true ∧ piece = cs.takeWhile (fun c => !sep c) ∨ Trails sep cs piece := by
  constructor
  · rintro ⟨before, d, after, split, rest⟩
    cases before with
    | nil =>
      obtain ⟨rfl, rfl⟩ := List.cons.inj split
      exact .inl rest
    | cons b before => exact .inr ⟨before, d, after, (List.cons.inj split).2, rest⟩
  · rintro (⟨parts, rest⟩ | ⟨before, d, after, rfl, rest⟩)
    · exact ⟨[], c, cs, rfl, parts, rest⟩
    · exact ⟨c :: before, d, after, rfl, rest⟩

/-- The first piece ends at the first separator, the others begin after one. -/
theorem splitChars_eq (sep : Char → Bool) (cs : List Char) :
    ∃ ps, splitChars sep cs = cs.takeWhile (fun c => !sep c) :: ps ∧ ∀ piece, piece ∈ ps ↔ Trails sep cs piece := by
  induction cs with
  | nil => exact ⟨[], rfl, by simp [Trails]⟩
  | cons c cs ih =>
    obtain ⟨ps, same, others⟩ := ih
    cases parts : sep c with
    | true =>
      refine ⟨cs.takeWhile (fun c => !sep c) :: ps, by simp [splitChars, parts, same], fun piece => ?_⟩
      rw [trails_cons, List.mem_cons, others]
      simp [parts]
    | false =>
      refine ⟨ps, by simp [splitChars, parts, same], fun piece => ?_⟩
      rw [trails_cons, others]
      simp [parts]

/-- A word is what follows the beginning of a text or a separator, up to the next separator, if that is anything. -/
def Lists (sep : Char → Bool) (text word : String) : Prop :=
  word ≠ "" ∧ ∃ before after, text.toList = before ++ after ∧ (∀ c ∈ before.getLast?, sep c = true) ∧
    word.toList = after.takeWhile fun c => !sep c

theorem mem_split {text word : String} :
    word ∈ (split sep text).filter (· ≠ "") ↔ Lists sep text word := by
  obtain ⟨ps, same, others⟩ := splitChars_eq sep text.toList
  have piece : word ∈ split sep text ↔ word.toList ∈ splitChars sep text.toList := by
    constructor
    · intro member
      obtain ⟨cs, there, rfl⟩ := List.mem_map.mp member
      rwa [String.toList_ofList]
    · exact fun member => List.mem_map.mpr ⟨_, member, String.ofList_toList⟩
  rw [List.mem_filter, piece, same, List.mem_cons, others, and_comm, Lists]
  refine and_congr (by simp) ⟨?_, ?_⟩
  · rintro (first | ⟨before, c, after, split, parts, rest⟩)
    · exact ⟨[], text.toList, rfl, by simp, first⟩
    · exact ⟨before ++ [c], after, by simp [split], by simp [parts], rest⟩
  · rintro ⟨before, after, split, parts, rest⟩
    cases before using List.reverseRecOn with
    | nil => exact .inl (by rw [split, rest]; rfl)
    | append_singleton before c =>
      exact .inr ⟨before, c, after, by simp [split], parts c (by simp), rest⟩

end Gatehouse.Text

namespace Gatehouse.Authority
open Token (Error)

def Listed (text word : String) : Prop := Text.Lists (fun c => c = ' ' || c = ',') text word

section
variable {a b : Authority}

theorem Filled.explained (filled : Filled a) {es : List Effect} (explains : Explains a es b) : Filled b := by
  induction es generalizing a with
  | nil =>
    cases explains
    exact filled
  | cons e rest ih => exact ih (filled.apply explains.1) explains.2

/-- A refresh token is valid, and what it is exchanged for is an access token for its record. -/
structure Refreshed (a : Authority) (now : Instant) (t record u : Token) : Prop where
  valid : a.validate now t {} = .ok record
  found : a.store.find? t.id = some record
  refreshes : record.kind = .refresh
  kind : u.kind = .access
  subject : u.subject = record.subject
  issuer : u.issuer = record.issuer
  audience : u.audience = record.audience
  /-- The scopes that are listed, if any are. -/
  listed : ∀ text, record.metadata.lookup originalScopesKey = some text → (∃ w, Listed text w) →
    ∀ w, w ∈ u.scopes ↔ Listed text w
  /-- A list without words is taken for none. -/
  unlisted : ∀ text, record.metadata.lookup originalScopesKey = some text → (∀ w, ¬ Listed text w) →
    u.scopes = Text.Ordered.ofList a.config.defaultScopes
  /-- Without a list, the scopes of the record are kept as they are. -/
  kept : record.metadata.lookup originalScopesKey = none → u.scopes = record.scopes

theorem mem_refreshedScopes {t : Token} {text : String} (lists : t.metadata.lookup originalScopesKey = some text)
    (w : String) : w ∈ refreshedScopes t ↔ Listed text w := by
  rw [refreshedScopes, lists]
  exact Text.Ordered.mem_ofList.trans Text.mem_split

theorem Filled.refreshed (filled : Filled a) {now : Instant} {fresh : String} {t u : Token}
    (refreshed : a.refresh now fresh t = .ok (u, b)) :
    ∃ record, Refreshed a now t record u ∧ a.store.find? u.id = none ∧ b = a.adding u := by
  obtain ⟨record, valid, kind, issued⟩ := refresh_ok refreshed
  obtain ⟨found, -⟩ := checkRevocation_ok (checkClaims_ok (validate_ok valid).2)
  obtain ⟨there, -⟩ := Token.Store.mem_of_find? found
  obtain ⟨free, adds⟩ := issue_adds issued
  obtain ⟨⟨keyId, d, -, drafted, rfl, -⟩, -⟩ := issue_ok issued
  obtain ⟨-, expiresAt, -, rfl, -⟩ := draft_eq_ok.mp drafted
  have scopes : (draftUntil a keyId now fresh (accessFor record) expiresAt).scopes =
      if (refreshedScopes record).isEmpty then Text.Ordered.ofList a.config.defaultScopes
      else refreshedScopes record := rfl
  refine ⟨record, ⟨valid, found, kind, rfl, rfl, rfl, rfl, ?_, ?_, ?_⟩, free, adds⟩
  · rintro text lists ⟨v, first⟩ w
    have some : ¬ (refreshedScopes record).isEmpty := fun none => by
      have member := (mem_refreshedScopes lists v).mpr first
      rw [List.isEmpty_iff.mp none] at member
      cases member
    exact (scopes.trans (if_neg some)) ▸ mem_refreshedScopes lists w
  · intro text lists none
    have bare : (refreshedScopes record).isEmpty = true :=
      List.isEmpty_iff.mpr (List.eq_nil_iff_forall_not_mem.mpr fun w member =>
        none w ((mem_refreshedScopes lists w).mp member))
    exact scopes.trans (if_pos bare)
  · intro absent
    have same : refreshedScopes record = record.scopes := by rw [refreshedScopes, absent]
    refine scopes.trans ?_
    rw [same]
    split
    next bare =>
      have bare := List.isEmpty_iff.mp bare
      rw [bare]
      exact filled record there bare
    next => rfl

theorem Recorded.presented {h : List Effect} {start : Authority} (recorded : Recorded h a)
    (explains : Explains start h a) {now : Instant} {t record : Token}
    (valid : a.validate now t {} = .ok record) {value : Token.Bearer} (shown : t.value = some value)
    (unforged : Unforged h a now value) :
    ∃ earlier m fresh q s later, h = earlier ++ .issued m fresh q s :: later ∧ s.id = t.id ∧ s.kind = t.kind ∧
      ((∀ e ∈ later, ¬ e.Removes s) → record = s) := by
  obtain ⟨signed, claims⟩ := validate_ok valid
  obtain ⟨k, member, v, shown', opened⟩ := checkSignature_eq_ok.mp signed
  obtain rfl := Option.some.inj (shown.symm.trans shown')
  obtain ⟨m, fresh, q, s, issued, -, same⟩ := unforged k.id _ (KeyRing.mem_ids.mpr ⟨k, member, rfl⟩) opened
  obtain ⟨earlier, later, rfl⟩ := List.append_of_mem issued
  have id : s.id = t.id := congrArg Token.Claims.id same
  refine ⟨earlier, m, fresh, q, s, later, rfl, id, congrArg Token.Claims.kind same, fun kept => ?_⟩
  obtain ⟨found, live⟩ := checkRevocation_ok (checkClaims_ok claims)
  obtain ⟨there, own⟩ := Token.Store.mem_of_find? found
  obtain ⟨last, issuedLast, plain, whole⟩ := recorded.last record there
  rw [own, ← id, lastIssued_of_kept explains kept] at issuedLast
  obtain rfl := Option.some.inj issuedLast
  rw [whole, live, ← plain]

end

/-- Whatever an authority did: exchanging a refresh token fails and changes nothing, or adds the record of an access
token. It has subject, issuer and audience of the record of the refresh token, and its scopes are those that the
record lists, or those of the record itself if there is no list; if there is one without a word, the configured
default. The presented token is itself a refresh token, and the record its own, unless the record was removed and
the id given to another token since. -/
theorem refresh_gives_listed_scopes (config : Config.Tokens) (keys : KeyRing)
    (commands : List (Outside × Command)) (direct : ∀ c ∈ commands, c.2.bypasses = false) (o : Outside)
    (t : Token) :
    let start := ofParts config keys {}
    let h := start.history commands
    let a := start.perform commands
    (∃ e, a.run o (.refresh t) = (.failed e, a)) ∨
      ∃ record u keepFor, a.run o (.refresh t) = (.issued u keepFor, a.adding u) ∧
        a.store.find? u.id = none ∧ Refreshed a o.now t record u ∧
        ∀ value, t.value = some value → Unforged h a o.now value →
          ∃ earlier m fresh q s later, h = earlier ++ .issued m fresh q s :: later ∧ s.id = t.id ∧
            s.kind = t.kind ∧ ((∀ e ∈ later, ¬ e.Removes s) → record = s ∧ t.kind = .refresh) := by
  intro start h a
  have explains : Explains start h a := explains_history start direct
  have filled : Filled a := Filled.explained (fun _ none => absurd none List.not_mem_nil) explains
  have recorded : Recorded h a := by
    simpa using (recorded_new config keys).explained explains
  cases refreshed : a.refresh o.now (o.freshId 0) t with
  | error e => exact .inl ⟨e, by simp only [run, refreshed, settle]⟩
  | ok result =>
    obtain ⟨u, b⟩ := result
    obtain ⟨record, given, free, rfl⟩ := filled.refreshed refreshed
    refine .inr ⟨record, u, a.keepFor u, by simp only [run, refreshed, settle], free, given, ?_⟩
    intro value shown unforged
    obtain ⟨earlier, m, fresh, q, s, later, split, id, kind, same⟩ :=
      recorded.presented explains given.valid shown unforged
    refine ⟨earlier, m, fresh, q, s, later, split, id, kind, fun kept => ⟨same kept, ?_⟩⟩
    rw [← kind, ← same kept]
    exact given.refreshes

namespace Listing
open Sample

def request (list : String) : Token.Request :=
  { id := some "x", kind := .refresh, subject := "alice", scopes := ["read"], expiresAt := some ⟨3600, 0⟩
    metadata := [(originalScopesKey, list)] }

def commands (list : String) : List (Outside × Command) := [(outside ⟨0, 0⟩, .issue (request list))]

def token (list : String) : Token :=
  Token.signWith
    { id := "x", kind := .refresh, subject := "alice", issuer := "warden", scopes := ["read"], issuedAt := ⟨0, 0⟩
      notBefore := ⟨0, 0⟩, expiresAt := ⟨3600, 0⟩, keyId := some "k", metadata := [(originalScopesKey, list)] } "k"

def config : Config.Tokens := { defaultScopes := ["admin"] }

/-- A token that lists no scopes is exchanged for one with a scope that its record does not have. -/
theorem empty_list_widened :
    let a := (start config).perform (commands "")
    Config.fault? { tokens := config } = none ∧ (∀ c ∈ commands "", c.2.bypasses = false) ∧
    a.store.find? "x" = some (token "") ∧ (∀ w, ¬ Listed "" w) ∧
    ∃ u b, a.refresh ⟨60, 0⟩ "y" (token "") = .ok (u, b) ∧ u.scopes = ["admin"] := by
  intro a
  have drawn : (a.refresh ⟨60, 0⟩ "y" (token "")).toOption.map (·.1.scopes) = some ["admin"] := by decide +kernel
  obtain ⟨⟨u, b⟩, refreshed, scopes⟩ := Option.map_eq_some_iff.mp drawn
  refine ⟨by decide +kernel, by decide, by decide +kernel, fun w listed => ?_, u, b, ok_of_toOption refreshed,
    scopes⟩
  have member := Text.mem_split.mpr listed
  have none : (Text.split (fun c => c = ' ' || c = ',') "").filter (· ≠ "") = [] := by decide +kernel
  rw [none] at member
  cases member

/-- One that lists two is exchanged for one with these. -/
theorem two_listed_given :
    let a := (start config).perform (commands "write, read")
    (∀ c ∈ commands "write, read", c.2.bypasses = false) ∧
    ∃ u keepFor, a.run (outside ⟨60, 0⟩) (.refresh (token "write, read")) = (.issued u keepFor, a.adding u) ∧
      Refreshed a ⟨60, 0⟩ (token "write, read") (token "write, read") u ∧ u.scopes = ["read", "write"] ∧
      ∀ w, w ∈ u.scopes ↔ Listed "write, read" w := by
  intro a
  have direct : ∀ c ∈ commands "write, read", c.2.bypasses = false := by decide
  have issues : (a.run (outside ⟨60, 0⟩) (.refresh (token "write, read"))).1.issues.map (·.scopes) =
      [["read", "write"]] := by decide +kernel
  have known : a.store.find? "x" = some (token "write, read") := by decide +kernel
  rcases refresh_gives_listed_scopes config oneKey (commands "write, read") direct (outside ⟨60, 0⟩)
      (token "write, read") with ⟨e, failed⟩ | ⟨record, u, keepFor, given, -, refreshed, -⟩
  · have none : (a.run (outside ⟨60, 0⟩) (.refresh (token "write, read"))).1.issues = [] :=
      congrArg (fun x => x.1.issues) failed
    rw [none] at issues
    cases issues
  · have one : (a.run (outside ⟨60, 0⟩) (.refresh (token "write, read"))).1.issues = [u] :=
      congrArg (fun x => x.1.issues) given
    rw [one] at issues
    obtain rfl := Option.some.inj (known.symm.trans refreshed.found)
    have read : Listed "write, read" "read" := Text.mem_split.mp (by decide +kernel)
    exact ⟨direct, u, keepFor, given, refreshed, List.head_eq_of_cons_eq issues,
      refreshed.listed "write, read" rfl ⟨"read", read⟩⟩

end Listing

end Gatehouse.Authority
