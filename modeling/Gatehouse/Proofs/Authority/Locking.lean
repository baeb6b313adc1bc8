import Gatehouse.Authority.Locks
import Mathlib.Data.List.Nodup

/-!
What the locks of tokens come to in every order in which callers arrive, take their turns, leave, see to their locks
and are dropped. No two callers are inside for one token, and only these wait for each other. A lock is left behind
exactly when the last caller that was to see to it is dropped, or sees to it while another one that is on its way out
still refers to it.
-/
namespace Gatehouse.Authority.Locks

/-- What keeps the lock of a token in place: whoever has yet to see to it has it from the entry of its token, and of
those with one lock one is inside at most. -/
structure Sound (l : Locks) : Prop where
  numbers : (l.callers.map (·.number)).Nodup
  ids : (l.entries.map (·.1)).Nodup
  locks : (l.entries.map (·.2)).Nodup
  callers : ∀ c ∈ l.callers, c.number < l.next ∧ c.lock < l.next
  entries : ∀ e ∈ l.entries, e.2 < l.next
  held : ∀ c ∈ l.callers, c.stage ≠ .parting → (c.id, c.lock) ∈ l.entries
  alone : ∀ c ∈ l.callers, ∀ d ∈ l.callers, c.stage = .inside → d.stage = .inside → c.lock = d.lock → c = d

theorem sound_empty : Sound {} :=
  ⟨List.nodup_nil, List.nodup_nil, List.nodup_nil, nofun, nofun, nofun, nofun⟩

section
variable {l : Locks} {c d : Caller} {number : Nat}

theorem mem_of_find? (found : l.find? number = some c) : c ∈ l.callers ∧ c.number = number :=
  ⟨List.mem_of_find?_eq_some found, by simpa using List.find?_some found⟩

theorem Sound.unique (sound : Sound l) (there : c ∈ l.callers) (there' : d ∈ l.callers)
    (same : c.number = d.number) : c = d := List.inj_on_of_nodup_map sound.numbers there there' same

theorem Sound.find? (sound : Sound l) (there : c ∈ l.callers) : l.find? c.number = some c := by
  cases found : l.find? c.number with
  | none => simpa using List.find?_eq_none.mp found c there
  | some d =>
    obtain ⟨there', same⟩ := mem_of_find? found
    rw [sound.unique there' there same]

/-- Of those that have yet to see to their locks, callers for one token have one lock. -/
theorem Sound.lock_eq_iff (sound : Sound l) (there : c ∈ l.callers) (there' : d ∈ l.callers)
    (stays : c.stage ≠ .parting) (stays' : d.stage ≠ .parting) : c.lock = d.lock ↔ c.id = d.id := by
  have entry := sound.held c there stays
  have entry' := sound.held d there' stays'
  refine ⟨fun same => ?_, fun same => ?_⟩
  · exact congrArg Prod.fst (List.inj_on_of_nodup_map sound.locks entry entry' same)
  · exact congrArg Prod.snd (List.inj_on_of_nodup_map sound.ids entry entry' same)

theorem mem_move {stage : Stage} : d ∈ (l.move number stage).callers ↔
    ∃ c ∈ l.callers, d = if c.number = number then { c with stage } else c := by
  rw [move, List.mem_map]
  exact exists_congr fun c => and_congr_right fun _ => eq_comm

theorem mem_without : d ∈ (l.without number).callers ↔ d ∈ l.callers ∧ d.number ≠ number := by
  rw [without, List.mem_filter, decide_eq_true_eq]

/-- A caller goes on from one stage to the next, and perhaps an entry is removed that nobody else needs. -/
theorem Sound.move (sound : Sound l) (there : c ∈ l.callers) {stage : Stage} {kept : List (String × Nat)}
    (fewer : kept.Sublist l.entries)
    (own : stage ≠ .parting → (c.id, c.lock) ∈ kept)
    (others : ∀ d ∈ l.callers, d ≠ c → d.stage ≠ .parting → (d.id, d.lock) ∈ kept)
    (free : stage = .inside → ∀ d ∈ l.callers, d.stage = .inside → d.lock ≠ c.lock) :
    Sound { l.move c.number stage with entries := kept } := by
  have moved {d : Caller} (listed : d ∈ (l.move c.number stage).callers) :
      d = { c with stage } ∨ d ∈ l.callers ∧ d ≠ c := by
    obtain ⟨e, there', rfl⟩ := mem_move.mp listed
    by_cases same : e.number = c.number
    · obtain rfl := sound.unique there' there same
      exact .inl (if_pos rfl)
    · rw [if_neg same]
      exact .inr ⟨there', fun equal => same (congrArg _ equal)⟩
  refine ⟨?_, sound.ids.sublist (fewer.map _), sound.locks.sublist (fewer.map _), fun d listed => ?_,
    fun e listed => sound.entries e (fewer.subset listed), fun d listed stays => ?_, fun d listed e listed' => ?_⟩
  · have same : (l.move c.number stage).callers.map (·.number) = l.callers.map (·.number) := by
      rw [Locks.move, List.map_map]
      refine List.map_congr_left fun d _ => ?_
      simp only [Function.comp_apply]
      split <;> rfl
    rw [same]
    exact sound.numbers
  · rcases moved listed with rfl | ⟨old, -⟩
    · exact sound.callers c there
    · exact sound.callers d old
  · rcases moved listed with rfl | ⟨old, other⟩
    · exact own stays
    · exact others d old other stays
  · intro inside inside' same
    rcases moved listed with rfl | ⟨old, -⟩
    · rcases moved listed' with rfl | ⟨old', -⟩
      · rfl
      · exact absurd same.symm (free inside e old' inside')
    · rcases moved listed' with rfl | ⟨old', -⟩
      · exact absurd same (free inside' d old inside)
      · exact sound.alone d old e old' inside inside' same

theorem Sound.without (sound : Sound l) (number : Nat) : Sound (l.without number) where
  numbers := sound.numbers.sublist (List.filter_sublist.map _)
  ids := sound.ids
  locks := sound.locks
  callers c listed := sound.callers c (mem_without.mp listed).1
  entries := sound.entries
  held c listed := sound.held c (mem_without.mp listed).1
  alone c listed d listed' := sound.alone c (mem_without.mp listed).1 d (mem_without.mp listed').1

theorem length_le_one_iff {α : Type} {a : α} {as : List α} (distinct : as.Nodup) (there : a ∈ as) :
    as.length ≤ 1 ↔ ∀ b ∈ as, b = a := by
  match as with
  | [b] =>
    obtain rfl := List.mem_singleton.mp there
    exact iff_of_true (Nat.le_refl _) fun _ => List.mem_singleton.mp
  | b :: d :: rest =>
    refine iff_of_false (by simp) fun all => ?_
    have same : b = d := (all b (by simp)).trans (all d (by simp)).symm
    exact (List.nodup_cons.mp distinct).1 (same ▸ List.mem_cons_self)

/-- An entry and one caller are all that refers to a lock if no other caller has it. -/
theorem Sound.references_le_iff (sound : Sound l) (there : c ∈ l.callers) (stays : c.stage ≠ .parting) :
    l.references c.lock ≤ 2 ↔ ∀ d ∈ l.callers, d.lock = c.lock → d = c := by
  have entry := sound.held c there stays
  have listed : (c.id, c.lock) ∈ l.entries.filter (·.2 = c.lock) := by simp [entry]
  have once : (l.entries.filter (·.2 = c.lock)).length ≤ 1 := by
    refine (length_le_one_iff (sound.ids.of_map.filter _) listed).mpr fun e other => ?_
    obtain ⟨there', same⟩ := List.mem_filter.mp other
    exact List.inj_on_of_nodup_map sound.locks there' entry (of_decide_eq_true same)
  have listed' : c ∈ l.callers.filter (·.lock = c.lock) := by simp [there]
  have few := length_le_one_iff (sound.numbers.of_map.filter _) listed'
  have first := List.length_pos_of_mem listed
  unfold references
  constructor
  · intro le d there' same
    exact few.mp (by omega) d (by simp [there', same])
  · intro only
    have := few.mpr fun d other => by
      obtain ⟨there', same⟩ := List.mem_filter.mp other
      exact only d there' (of_decide_eq_true same)
    omega

theorem isFree_iff {lock : Nat} : l.isFree lock = true ↔ ∀ d ∈ l.callers, d.stage = .inside → d.lock ≠ lock := by
  simp [isFree]
  exact forall_congr' fun d => forall_congr' fun _ => imp_not_comm

theorem Sound.enlist (sound : Sound l) {id : String} (unknown : ∀ e ∈ l.entries, e.1 ≠ id) :
    Sound { l with entries := (id, l.next) :: l.entries, next := l.next + 1 } where
  numbers := sound.numbers
  ids := by
    refine List.nodup_cons.mpr ⟨fun known => ?_, sound.ids⟩
    obtain ⟨e, there, same⟩ := List.mem_map.mp known
    exact unknown e there same
  locks := by
    refine List.nodup_cons.mpr ⟨fun known => ?_, sound.locks⟩
    obtain ⟨e, there, same⟩ := List.mem_map.mp known
    exact Nat.ne_of_lt (sound.entries e there) same
  callers c there := (sound.callers c there).imp Nat.lt_succ_of_lt Nat.lt_succ_of_lt
  entries e there := by
    rcases List.mem_cons.mp there with rfl | old
    · exact Nat.lt_succ_self _
    · exact Nat.lt_succ_of_lt (sound.entries e old)
  held c there stays := List.mem_cons_of_mem _ (sound.held c there stays)
  alone := sound.alone

/-- Somebody new comes to wait, with the lock from the entry of its token. -/
theorem Sound.join (sound : Sound l) {id : String} {lock : Nat} (entry : (id, lock) ∈ l.entries) :
    Sound { l with callers := l.callers ++ [⟨l.next, id, lock, .waiting⟩], next := l.next + 1 } where
  numbers := by
    rw [List.map_append, List.nodup_append]
    refine ⟨sound.numbers, List.nodup_singleton _, fun n old m new => ?_⟩
    obtain ⟨c, there, rfl⟩ := List.mem_map.mp old
    rw [List.mem_singleton.mp new]
    exact Nat.ne_of_lt (sound.callers c there).1
  ids := sound.ids
  locks := sound.locks
  callers c there := by
    rcases List.mem_append.mp there with old | new
    · exact (sound.callers c old).imp Nat.lt_succ_of_lt Nat.lt_succ_of_lt
    · rw [List.mem_singleton.mp new]
      exact ⟨Nat.lt_succ_self _, Nat.lt_succ_of_lt (sound.entries _ entry)⟩
  entries e there := Nat.lt_succ_of_lt (sound.entries e there)
  held c there stays := by
    rcases List.mem_append.mp there with old | new
    · exact sound.held c old stays
    · rw [List.mem_singleton.mp new]
      exact entry
  alone c there d there' inside inside' same := by
    have listed {e : Caller} (there : e ∈ l.callers ++ [⟨l.next, id, lock, .waiting⟩]) (inside : e.stage = .inside) :
        e ∈ l.callers := by
      refine (List.mem_append.mp there).resolve_right fun new => ?_
      rw [List.mem_singleton.mp new] at inside
      cases inside
    exact sound.alone c (listed there inside) d (listed there' inside') inside inside' same

theorem Sound.arrive (sound : Sound l) (id : String) : Sound (l.arrive id) := by
  unfold Locks.arrive
  split
  next lock found =>
    obtain ⟨front, back, entries, -⟩ := List.lookup_eq_some_iff.mp found
    exact sound.join (by simp [entries])
  next missing =>
    have unknown : ∀ e ∈ l.entries, e.1 ≠ id := fun e there same => by
      simpa [same] using List.lookup_eq_none_iff.mp missing e there
    exact (sound.enlist unknown).join List.mem_cons_self

def seenTo (l : Locks) (c : Caller) : List (String × Nat) :=
  if l.references c.lock ≤ 2 then l.entries.filter (·.1 ≠ c.id) else l.entries

inductive Goes (l : Locks) : Step → Locks → Prop
  | idle {s : Step} (none : ∀ c ∈ l.callers, (s = .settle c.number → c.stage ≠ .leaving) ∧
    (s = .drop c.number → c.stage ≠ .waiting ∧ c.stage ≠ .inside)) : Goes l s l
  | arrived (id : String) : Goes l (.arrive id) (l.arrive id)
  | entered {c : Caller} (there : c ∈ l.callers) (waits : c.stage = .waiting) (free : l.isFree c.lock = true) :
    Goes l (.enter c.number) (l.move c.number .inside)
  | left {c : Caller} (there : c ∈ l.callers) (inside : c.stage = .inside) :
    Goes l (.leave c.number) (l.move c.number .leaving)
  | settled {c : Caller} (there : c ∈ l.callers) (leaving : c.stage = .leaving) :
    Goes l (.settle c.number) { l.move c.number .parting with entries := l.seenTo c }
  | forgot {c : Caller} (there : c ∈ l.callers) (parting : c.stage = .parting) :
    Goes l (.forget c.number) (l.without c.number)
  | dropped {c : Caller} (there : c ∈ l.callers) (under : c.stage = .waiting ∨ c.stage = .inside) :
    Goes l (.drop c.number) (l.move c.number .parting)

theorem not_found (missing : l.find? number = none) : ∀ c ∈ l.callers, c.number ≠ number := by
  simpa [Locks.find?] using missing

theorem Sound.goes_of_find? (sound : Sound l) (number : Nat) {s : Step} {u : Locks} (may : Caller → Prop)
    [DecidablePred may] (next : Caller → Locks) (missing : l.find? number = none → u = l)
    (found : ∀ c, l.find? number = some c → u = if may c then next c else l)
    (idle : (∀ c ∈ l.callers, c.number = number → ¬ may c) → Goes l s l)
    (goes : ∀ c ∈ l.callers, c.number = number → may c → Goes l s (next c)) : Goes l s u := by
  cases there : l.find? number with
  | none =>
    rw [missing there]
    exact idle fun c listed own => absurd own (not_found there c listed)
  | some c =>
    obtain ⟨listed, own⟩ := mem_of_find? there
    rw [found c there]
    by_cases can : may c
    · rw [if_pos can]
      exact goes c listed own can
    · rw [if_neg can]
      exact idle fun d listed' own' => sound.unique listed listed' (own.trans own'.symm) ▸ can

theorem Sound.goes (sound : Sound l) (s : Step) : Goes l s (l.step s) := by
  cases s with
  | arrive id => exact .arrived id
  | enter number =>
    refine sound.goes_of_find? number (fun c => c.stage = .waiting ∧ l.isFree c.lock = true)
      (fun _ => l.move number .inside)
      (fun missing => by simp only [step, enter, missing]) (fun c found => by simp only [step, enter, found])
      (fun _ => .idle fun c _ => ⟨nofun, nofun⟩) ?_
    rintro c there rfl ⟨waits, free⟩
    exact .entered there waits free
  | leave number =>
    refine sound.goes_of_find? number (fun c => c.stage = .inside) (fun _ => l.move number .leaving)
      (fun missing => by simp only [step, leave, missing]) (fun c found => by simp only [step, leave, found])
      (fun _ => .idle fun c _ => ⟨nofun, nofun⟩) ?_
    rintro c there rfl inside
    exact .left there inside
  | settle number =>
    refine sound.goes_of_find? number (fun c => c.stage = .leaving)
      (fun c => { l.move number .parting with entries := l.seenTo c })
      (fun missing => by simp only [step, settle, missing])
      (fun c found => by simp only [step, settle, found, ne_eq, ite_not, seenTo]) (fun none => .idle ?_) ?_
    · exact fun c there => ⟨fun own => none c there (Step.settle.inj own).symm, nofun⟩
    · rintro c there rfl leaving
      exact .settled there leaving
  | forget number =>
    refine sound.goes_of_find? number (fun c => c.stage = .parting) (fun _ => l.without number)
      (fun missing => by simp only [step, forget, missing]) (fun c found => by simp only [step, forget, found])
      (fun _ => .idle fun c _ => ⟨nofun, nofun⟩) ?_
    rintro c there rfl parting
    exact .forgot there parting
  | drop number =>
    refine sound.goes_of_find? number (fun c => c.stage = .waiting ∨ c.stage = .inside)
      (fun _ => l.move number .parting)
      (fun missing => by simp only [step, drop, missing]) (fun c found => by simp only [step, drop, found])
      (fun none => .idle ?_) ?_
    · exact fun c there => ⟨nofun, fun own => not_or.mp (none c there (Step.drop.inj own).symm)⟩
    · rintro c there rfl under
      exact .dropped there under

theorem Sound.step (sound : Sound l) (s : Step) : Sound (l.step s) := by
  have goes := sound.goes s
  generalize l.step s = u at goes
  cases goes with
  | idle => exact sound
  | arrived id => exact sound.arrive id
  | @entered c there waits free =>
    have stays : c.stage ≠ .parting := by rw [waits]; nofun
    refine sound.move there (.refl _) (fun _ => sound.held c there stays) (fun d there' _ => sound.held d there') ?_
    exact fun _ d there' inside => isFree_iff.mp free d there' inside
  | @left c there inside =>
    have stays : c.stage ≠ .parting := by rw [inside]; nofun
    exact sound.move there (.refl _) (fun _ => sound.held c there stays) (fun d there' _ => sound.held d there') nofun
  | @settled c there leaving =>
    have stays : c.stage ≠ .parting := by rw [leaving]; nofun
    unfold seenTo
    split
    next few =>
      have only := (sound.references_le_iff there stays).mp few
      refine sound.move there List.filter_sublist (absurd rfl) (fun d there' other stays' => ?_) nofun
      have apart : d.id ≠ c.id := fun same =>
        other (only d there' ((sound.lock_eq_iff there' there stays' stays).mpr same))
      simp [sound.held d there' stays', apart]
    next => exact sound.move there (.refl _) (absurd rfl) (fun d there' _ => sound.held d there') nofun
  | forgot => exact sound.without _
  | dropped there => exact sound.move there (.refl _) (absurd rfl) (fun d there' _ => sound.held d there') nofun

theorem sound_run (steps : List Step) : Sound (run {} steps) := by
  have from_sound (l : Locks) (sound : Sound l) : Sound (run l steps) := by
    induction steps generalizing l with
    | nil => exact sound
    | cons s rest ih => exact ih (l.step s) (sound.step s)
  exact from_sound {} sound_empty

end

/-- Somebody has yet to see to the lock of a token. -/
def Attended (l : Locks) (id : String) : Prop := ∃ c ∈ l.callers, c.id = id ∧ c.stage ≠ .parting

/-- If there is a lock for a token somebody has yet to see to it. -/
def Tidy (l : Locks) (id : String) : Prop := ∀ lock, (id, lock) ∈ l.entries → l.Attended id

/-- Besides this caller nobody has yet to see to the lock of its token. -/
def Last (l : Locks) (c : Caller) : Prop := ∀ d ∈ l.callers, d.id = c.id → d.stage ≠ .parting → d = c

/-- The last caller that has yet to see to the lock of a token is not dropped, and does not see to it while another
one that is on its way out still refers to it. -/
def Allows (l : Locks) (id : String) (s : Step) : Prop := ∀ c ∈ l.callers, c.id = id → l.Last c →
  (s = .drop c.number → c.stage ≠ .waiting ∧ c.stage ≠ .inside) ∧
  (s = .settle c.number → c.stage = .leaving → ∀ d ∈ l.callers, d.stage = .parting → d.lock ≠ c.lock)

section
variable {l : Locks} {c : Caller} {id : String}

def AttendedBeside (l : Locks) (c : Caller) (id : String) : Prop :=
  ∃ d ∈ l.callers, d ≠ c ∧ d.id = id ∧ d.stage ≠ .parting

theorem attended_iff (there : c ∈ l.callers) :
    l.Attended id ↔ c.id = id ∧ c.stage ≠ .parting ∨ l.AttendedBeside c id := by
  constructor
  · rintro ⟨d, there', own, stays⟩
    by_cases same : d = c
    · exact .inl (same ▸ ⟨own, stays⟩)
    · exact .inr ⟨d, there', same, own, stays⟩
  · rintro (⟨own, stays⟩ | ⟨d, there', -, own, stays⟩)
    · exact ⟨c, there, own, stays⟩
    · exact ⟨d, there', own, stays⟩

theorem attendedBeside_iff (own : c.id = id) : l.AttendedBeside c id ↔ ¬ l.Last c := by
  subst own
  constructor
  · rintro ⟨d, there', other, same, stays⟩ last
    exact other (last d there' same stays)
  · intro more
    refine Classical.not_not.mp fun none => more fun d there' same stays => ?_
    exact Decidable.of_not_not fun other => none ⟨d, there', other, same, stays⟩

theorem Sound.attended_move (sound : Sound l) (there : c ∈ l.callers) (stage : Stage) :
    (l.move c.number stage).Attended id ↔ c.id = id ∧ stage ≠ .parting ∨ l.AttendedBeside c id := by
  constructor
  · rintro ⟨d, listed, own, stays⟩
    obtain ⟨e, there', rfl⟩ := mem_move.mp listed
    by_cases same : e.number = c.number
    · obtain rfl := sound.unique there' there same
      rw [if_pos rfl] at own stays
      exact .inl ⟨own, stays⟩
    · rw [if_neg same] at own stays
      exact .inr ⟨e, there', fun equal => same (congrArg _ equal), own, stays⟩
  · rintro (⟨own, stays⟩ | ⟨d, there', other, own, stays⟩)
    · exact ⟨_, mem_move.mpr ⟨c, there, (if_pos rfl).symm⟩, own, stays⟩
    · have apart : d.number ≠ c.number := fun same => other (sound.unique there' there same)
      exact ⟨d, mem_move.mpr ⟨d, there', (if_neg apart).symm⟩, own, stays⟩

theorem Sound.attended_parting (sound : Sound l) (there : c ∈ l.callers) :
    (l.move c.number .parting).Attended id ↔ l.AttendedBeside c id :=
  (sound.attended_move there .parting).trans ⟨fun either => either.resolve_left fun own => own.2 rfl, .inr⟩

theorem Sound.attended_without (sound : Sound l) (there : c ∈ l.callers) :
    (l.without c.number).Attended id ↔ l.AttendedBeside c id := by
  refine exists_congr fun d => ?_
  rw [mem_without, and_assoc]
  refine and_congr_right fun there' => and_congr_left fun _ => ?_
  exact not_congr ⟨fun same => sound.unique there' there same, congrArg _⟩

theorem attended_arrive (l : Locks) (new : String) (known : l.Attended id ∨ id = new) :
    (l.arrive new).Attended id := by
  have joined : ∃ lock number, (l.arrive new).callers = l.callers ++ [⟨number, new, lock, .waiting⟩] := by
    unfold arrive
    split <;> exact ⟨_, _, rfl⟩
  obtain ⟨lock, number, callers⟩ := joined
  unfold Attended
  rw [callers]
  rcases known with ⟨c, there, own, stays⟩ | rfl
  · exact ⟨c, List.mem_append_left _ there, own, stays⟩
  · exact ⟨_, List.mem_append_right _ List.mem_cons_self, rfl, nofun⟩

theorem mem_arrive {lock : Nat} {new : String} (entry : (id, lock) ∈ (l.arrive new).entries) :
    (id, lock) ∈ l.entries ∨ id = new := by
  unfold arrive at entry
  split at entry
  · exact .inl entry
  · exact (List.mem_cons.mp entry).symm.imp_right (congrArg Prod.fst)

theorem allows_of {s : Step} (drops : ∀ n, s ≠ .drop n) (settles : ∀ n, s ≠ .settle n) : l.Allows id s :=
  fun _ _ _ _ => ⟨fun own => absurd own (drops _), fun own => absurd own (settles _)⟩

theorem Sound.allows_drop_iff (sound : Sound l) (there : c ∈ l.callers)
    (under : c.stage = .waiting ∨ c.stage = .inside) :
    l.Allows id (.drop c.number) ↔ (c.id = id → ¬ l.Last c) := by
  constructor
  · intro allows own last
    obtain ⟨waits, inside⟩ := (allows c there own last).1 rfl
    exact under.elim waits inside
  · intro more d there' own last
    refine ⟨fun same => ?_, nofun⟩
    obtain rfl := sound.unique there there' (Step.drop.inj same)
    exact absurd last (more own)

theorem Sound.allows_settle_iff (sound : Sound l) (there : c ∈ l.callers) (leaving : c.stage = .leaving) :
    l.Allows id (.settle c.number) ↔
      (c.id = id → l.Last c → ∀ d ∈ l.callers, d.stage = .parting → d.lock ≠ c.lock) := by
  constructor
  · exact fun allows own last => (allows c there own last).2 rfl leaving
  · intro apart d there' own last
    refine ⟨nofun, fun same _ => ?_⟩
    obtain rfl := sound.unique there there' (Step.settle.inj same)
    exact apart own last

/-- If nobody has yet to see to its lock but one caller, that one removes it unless others still refer to it. -/
theorem Sound.tidy_settle_iff (sound : Sound l) (tidy : l.Tidy id) (there : c ∈ l.callers)
    (leaving : c.stage = .leaving) :
    Tidy { l.move c.number .parting with entries := l.seenTo c } id ↔
      (c.id = id → l.Last c → ∀ d ∈ l.callers, d.stage = .parting → d.lock ≠ c.lock) := by
  have stays : c.stage ≠ .parting := by rw [leaving]; nofun
  have entry := sound.held c there stays
  have only := sound.references_le_iff there stays
  have after : Attended { l.move c.number .parting with entries := l.seenTo c } id ↔ l.AttendedBeside c id :=
    sound.attended_parting there
  unfold Tidy
  rw [after]
  by_cases own : c.id = id
  · subst own
    by_cases few : l.references c.lock ≤ 2
    · refine iff_of_true (fun lock kept => ?_) fun _ _ d there' parting same => ?_
      · rw [seenTo, if_pos few] at kept
        simp at kept
      · exact stays ((only.mp few d there' same) ▸ parting)
    · have kept : l.seenTo c = l.entries := if_neg few
      rw [kept, attendedBeside_iff rfl]
      constructor
      · exact fun attended _ last => absurd last (attended c.lock entry)
      · intro apart lock _ last
        refine few (only.mpr fun d there' same => ?_)
        have stays' : d.stage ≠ .parting := fun parting => apart rfl last d there' parting same
        exact last d there' ((sound.lock_eq_iff there' there stays' stays).mp same) stays'
  · refine iff_of_true (fun lock kept => ?_) fun same => absurd same own
    have fewer : (l.seenTo c).Sublist l.entries := by
      unfold seenTo
      split
      · exact List.filter_sublist
      · exact .refl _
    exact ((attended_iff there).mp (tidy lock (fewer.subset kept))).resolve_left fun same => own same.1

/-- A step leaves no lock behind exactly if it is allowed. -/
theorem Sound.tidy_step_iff (sound : Sound l) (tidy : l.Tidy id) (s : Step) :
    Tidy (l.step s) id ↔ l.Allows id s := by
  have goes := sound.goes s
  generalize l.step s = u at goes
  have moved {c : Caller} (there : c ∈ l.callers) (stays : c.stage ≠ .parting) {stage : Stage}
      (still : stage ≠ .parting) : Tidy (l.move c.number stage) id := by
    intro lock entry
    refine (sound.attended_move there stage).mpr ?_
    exact ((attended_iff there).mp (tidy lock entry)).imp_left fun own => ⟨own.1, still⟩
  cases goes with
  | idle none =>
    refine iff_of_true tidy fun c there _ _ => ⟨(none c there).2, fun own leaving => ?_⟩
    exact absurd leaving ((none c there).1 own)
  | arrived new =>
    refine iff_of_true (fun lock entry => attended_arrive l new ?_) (allows_of nofun nofun)
    exact (mem_arrive entry).imp_left (tidy lock)
  | @entered c there waits =>
    have stays : c.stage ≠ .parting := by rw [waits]; nofun
    exact iff_of_true (moved there stays nofun) (allows_of nofun nofun)
  | @left c there inside =>
    have stays : c.stage ≠ .parting := by rw [inside]; nofun
    exact iff_of_true (moved there stays nofun) (allows_of nofun nofun)
  | @settled c there leaving =>
    exact (sound.tidy_settle_iff tidy there leaving).trans (sound.allows_settle_iff there leaving).symm
  | @forgot c there parting =>
    refine iff_of_true (fun lock entry => (sound.attended_without there).mpr ?_) (allows_of nofun nofun)
    exact ((attended_iff there).mp (tidy lock entry)).resolve_left fun own => own.2 parting
  | @dropped c there under =>
    have stays : c.stage ≠ .parting := by rcases under with stage | stage <;> rw [stage] <;> nofun
    refine Iff.trans ?_ (sound.allows_drop_iff there under).symm
    unfold Tidy
    rw [sound.attended_parting there]
    constructor
    · intro attended own
      subst own
      exact (attendedBeside_iff rfl).mp (attended c.lock (sound.held c there stays))
    · intro more lock entry
      by_cases own : c.id = id
      · exact (attendedBeside_iff own).mpr (more own)
      · exact ((attended_iff there).mp (tidy lock entry)).resolve_left fun same => own same.1

end

/-- Each of the steps leaves no lock of a token behind. -/
def Careful (id : String) : Locks → List Step → Prop
  | _, [] => True
  | l, s :: rest => l.Allows id s ∧ Careful id (l.step s) rest

theorem Sound.tidy_run {l : Locks} (sound : Sound l) {id : String} (tidy : l.Tidy id) {steps : List Step}
    (careful : Careful id l steps) : Tidy (run l steps) id := by
  induction steps generalizing l with
  | nil => exact tidy
  | cons s rest ih =>
    obtain ⟨allowed, careful⟩ := careful
    exact ih (sound.step s) ((sound.tidy_step_iff tidy s).mpr allowed) careful

/-- Two callers for one token are never both inside. -/
theorem Sound.exclusive {l : Locks} (sound : Sound l) : (l.inside.map (·.id)).Nodup := by
  refine (List.nodup_map_iff_inj_on (sound.numbers.of_map.filter _)).mpr fun c there d there' same => ?_
  obtain ⟨listed, inside⟩ := List.mem_filter.mp there
  obtain ⟨listed', inside'⟩ := List.mem_filter.mp there'
  have stage : c.stage = .inside := of_decide_eq_true inside
  have stage' : d.stage = .inside := of_decide_eq_true inside'
  have lock := (sound.lock_eq_iff listed listed' (by rw [stage]; nofun) (by rw [stage']; nofun)).mpr same
  exact sound.alone c listed d listed' stage stage' lock

theorem Sound.enters_iff {l : Locks} (sound : Sound l) {c : Caller} (there : c ∈ l.callers)
    (waits : c.stage = .waiting) :
    (∃ d ∈ (l.enter c.number).callers, d.number = c.number ∧ d.stage = .inside) ↔
      ∀ d ∈ l.callers, d.id = c.id → d.stage ≠ .inside := by
  have stays : c.stage ≠ .parting := by rw [waits]; nofun
  have free : l.isFree c.lock = true ↔ ∀ d ∈ l.callers, d.id = c.id → d.stage ≠ .inside := by
    refine isFree_iff.trans (forall₂_congr fun d there' => ?_)
    refine ⟨fun apart same inside => ?_, fun apart inside same => ?_⟩
    · have stays' : d.stage ≠ .parting := by rw [inside]; nofun
      exact apart inside ((sound.lock_eq_iff there' there stays' stays).mpr same)
    · have stays' : d.stage ≠ .parting := by rw [inside]; nofun
      exact apart ((sound.lock_eq_iff there' there stays' stays).mp same) inside
  have entered : l.enter c.number = if l.isFree c.lock = true then l.move c.number .inside else l := by
    simp only [enter, sound.find? there, waits, true_and]
  rw [← free, entered]
  by_cases may : l.isFree c.lock = true
  · rw [if_pos may]
    exact iff_of_true ⟨_, mem_move.mpr ⟨c, there, (if_pos rfl).symm⟩, rfl, rfl⟩ may
  · rw [if_neg may]
    refine iff_of_false ?_ may
    rintro ⟨d, there', same, inside⟩
    rw [sound.unique there' there same, waits] at inside
    cases inside

/-- Callers exclude each other, and wait for nobody else. In every run two callers for one token are never both inside,
and one that waits may enter as soon as none for its token is. When nobody is there for a token there is no lock for it
either, provided that the last caller which has yet to see to the lock is never dropped, and never sees to it while
another one that is on its way out still refers to it; and any other step than these leaves no lock behind. -/
theorem exclusive_and_tidy (steps : List Step) :
    let l := run {} steps
    (l.inside.map (·.id)).Nodup ∧
    (∀ c ∈ l.callers, c.stage = .waiting →
      ((∃ d ∈ (l.enter c.number).callers, d.number = c.number ∧ d.stage = .inside) ↔
        ∀ d ∈ l.callers, d.id = c.id → d.stage ≠ .inside)) ∧
    (∀ id, Careful id {} steps → (∀ c ∈ l.callers, c.id ≠ id) → ∀ lock, (id, lock) ∉ l.entries) ∧
    ∀ id, l.Tidy id → ∀ s, Tidy (l.step s) id ↔ l.Allows id s := by
  intro l
  have sound : Sound l := sound_run steps
  refine ⟨sound.exclusive, fun c there waits => sound.enters_iff there waits, fun id careful gone lock entry => ?_,
    fun id tidy s => sound.tidy_step_iff tidy s⟩
  have bare : Tidy {} id := nofun
  obtain ⟨c, there, own, -⟩ := sound_empty.tidy_run bare careful lock entry
  exact gone c there own

/-- A caller that is dropped while it waits leaves the lock behind, and so do two that see to it together. -/
theorem locks_left_behind :
    (run {} [.arrive "x", .drop 1, .forget 1]).callers = [] ∧
    (run {} [.arrive "x", .drop 1, .forget 1]).entries = [("x", 0)] ∧
    let both : List Step := [.arrive "x", .arrive "x", .enter 1, .leave 1, .enter 2, .leave 2, .settle 1, .settle 2,
      .forget 1, .forget 2]
    (run {} both).callers = [] ∧ (run {} both).entries = [("x", 0)] := by decide

end Gatehouse.Authority.Locks
