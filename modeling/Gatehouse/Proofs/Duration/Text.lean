import Gatehouse.Config.Printer
import Mathlib.Algebra.Ring.Nat
import Mathlib.Data.List.Forall2

/-!
What is written of a span reads back. A text of groups is read as the sum of the spans that the groups stand for, as
long as the sum is not beyond the longest span; and the groups that are written of a span stand for its years, months,
days and so on, which make up the span.
-/
namespace Gatehouse

namespace Text

theorem trimChars_eq {c last : Char} {cs : List Char} (first : isBlank c = false)
    (ends : (c :: cs).getLast? = some last) (final : isBlank last = false) : trimChars (c :: cs) = c :: cs := by
  rw [trimChars, List.dropWhile_cons_of_neg (by simp [first])]
  obtain ⟨init, same⟩ := List.getLast?_eq_some_iff.mp ends
  rw [same, List.reverse_append, List.reverse_singleton, List.singleton_append,
    List.dropWhile_cons_of_neg (by simp [final]), List.reverse_cons, List.reverse_reverse]

namespace Decimal

theorem digits_lt {n : Nat} (few : n < 10) : digits n = [digitChar n] := by
  rw [digits, dif_pos few]

theorem digits_ge {n : Nat} (many : 10 ≤ n) : digits n = digits (n / 10) ++ [digitChar (n % 10)] := by
  rw [digits, dif_neg (by omega)]

theorem digits_head (n : Nat) : ∃ c cs, digits n = c :: cs ∧ isDigit c = true := by
  induction n using digits.induct with
  | case1 n few => exact ⟨_, [], digits_lt few, by simp [isDigit, digitValue?_digitChar n few]⟩
  | case2 n many ih =>
    obtain ⟨c, cs, same, digit⟩ := ih
    exact ⟨c, cs ++ [digitChar (n % 10)], by rw [digits_ge (by omega), same, List.cons_append], digit⟩

theorem not_blank {c : Char} (digit : isDigit c = true) : isBlank c = false := by
  simp only [isDigit, digitValue?] at digit
  split at digit
  next range =>
    simp only [isBlank, blankRanges, List.any_cons, List.any_nil, Bool.or_false, Bool.or_eq_false_iff,
      Bool.and_eq_false_imp, decide_eq_true_eq, decide_eq_false_iff_not]
    omega
  next => cases digit

end Decimal
end Text

namespace Duration
open Text.Decimal (digits digitValue? digitValue?_digitChar digits_lt digits_ge)

namespace Reader

/-- A character that belongs to the name of a unit and to nothing else. -/
structure IsLetter (c : Char) : Prop where
  not_digit : digitValue? c = none
  not_blank : Text.isBlank c = false
  of_unit : isUnitChar c = true

instance (c : Char) : Decidable (IsLetter c) :=
  decidable_of_iff (digitValue? c = none ∧ Text.isBlank c = false ∧ isUnitChar c = true)
    ⟨fun ⟨a, b, c⟩ => ⟨a, b, c⟩, fun ⟨a, b, c⟩ => ⟨a, b, c⟩⟩

/-- Between two groups, or before the first. -/
def AtGroup (p : Progress) : Prop := p = .start ∨ p = .gap

variable {total : Duration}

theorem read_digits {p : Progress} (atGroup : AtGroup p) {n : Nat} (few : n < wordLimit) :
    (digits n).foldlM step ⟨total, p⟩ = some ⟨total, .whole n⟩ := by
  induction n using Text.Decimal.digits.induct with
  | case1 n one =>
    have digit := digitValue?_digitChar n one
    rw [digits_lt one]
    rcases atGroup with rfl | rfl <;> simp [step, digit]
  | case2 n many ih =>
    have digit := digitValue?_digitChar (n % 10) (by omega)
    have next : push? (n / 10) (n % 10) = some n := by
      have whole : 10 * (n / 10) + n % 10 = n := Nat.div_add_mod n 10
      rw [push?, whole, if_neg (by omega)]
    rw [digits_ge (by omega), List.foldlM_append, ih (by omega)]
    simp [step, digit, next]

theorem read_letters {n : Nat} {name : List Char} (cs : List Char) (letters : ∀ c ∈ cs, IsLetter c) :
    cs.foldlM step ⟨total, .unit n none name⟩ = some ⟨total, .unit n none (name ++ cs)⟩ := by
  induction cs generalizing name with
  | nil => simp
  | cons c cs ih =>
    have letter := letters c List.mem_cons_self
    rw [List.foldlM_cons]
    simp only [step, letter.not_digit, letter.not_blank, letter.of_unit, Bool.false_eq_true, if_false, if_true]
    rw [Option.bind_eq_bind, Option.bind_some, ih fun c member => letters c (List.mem_cons_of_mem _ member),
      List.append_assoc, List.singleton_append]

end Reader

open Reader

/-- A label is one of the names of a unit, all in letters. -/
structure Unit.Labelled (u : Unit) (label : String) : Prop where
  named : Unit.ofName? label = some u
  letters : ∀ c ∈ label.toList, IsLetter c

instance (u : Unit) (label : String) : Decidable (u.Labelled label) :=
  decidable_of_iff (Unit.ofName? label = some u ∧ label.toList.all (fun c => decide (IsLetter c)) = true)
    ⟨fun ⟨named, all⟩ => ⟨named, by simpa using all⟩, fun ⟨named, letters⟩ => ⟨named, by simpa using letters⟩⟩

theorem Unit.size_pos (u : Unit) : 0 < u.size := by
  cases u <;> decide

/-- What fits next to a total is read as a count of a unit, and added. -/
theorem addWhole_eq {u : Unit} {n total : Nat} (part : u.isSubsecond = true → n * u.nanos < nanosPerSecond)
    (fits : total + n * u.nanos ≤ longest.nanos) :
    n * u.size < wordLimit ∧ addWhole? ⟨total⟩ n u = some ⟨total + n * u.nanos⟩ := by
  have limit : longest.nanos < wordLimit * nanosPerSecond := by decide
  have sum : (total + n * u.nanos) / nanosPerSecond < wordLimit :=
    (Nat.div_lt_iff_lt_mul (by decide)).mpr (Nat.lt_of_le_of_lt fits limit)
  have rest : subsecondNanos ⟨total⟩ < nanosPerSecond := Nat.mod_lt _ (by decide)
  have seconds : 2 * nanosPerSecond < wordLimit := by decide
  rcases below : u.isSubsecond with - | -
  · have nanos : u.nanos = u.size * nanosPerSecond := by rw [Unit.nanos, below, if_neg Bool.false_ne_true]
    have few : n * u.size < wordLimit := by
      rw [nanos, ← Nat.mul_assoc] at fits
      exact Nat.lt_of_mul_lt_mul_right (Nat.lt_of_le_of_lt (Nat.le_trans (Nat.le_add_left ..) fits) limit)
    refine ⟨few, ?_⟩
    rw [addWhole?, if_neg (by omega), below, Bool.false_and, if_neg Bool.false_ne_true, addSpan?,
      if_neg (Nat.not_le.mpr sum)]
  · have nanos : u.nanos = u.size := by rw [Unit.nanos, below, if_pos rfl]
    have few := part below
    rw [nanos] at few sum ⊢
    refine ⟨by omega, ?_⟩
    rw [addWhole?, if_neg (by omega), if_neg (by simp; omega), addSpan?, nanos,
      if_neg (Nat.not_le.mpr sum)]

/-- A group of a count and a label, and the nanoseconds that it stands for: less than a second for the units below. -/
inductive Spells : Nat × String → Nat → Prop
  | intro {n : Nat} {label : String} {u : Unit} (labelled : u.Labelled label)
      (part : u.isSubsecond = true → n * u.nanos < nanosPerSecond) : Spells (n, label) (n * u.nanos)

theorem Unit.Labelled.cons {u : Unit} {label : String} (labelled : u.Labelled label) :
    ∃ c cs, label.toList = c :: cs := by
  rcases same : label.toList with - | ⟨c, cs⟩
  · rw [String.toList_eq_nil_iff.mp same] at labelled
    cases labelled.named
  · exact ⟨c, cs, rfl⟩

def groupText (part : Nat × String) : String := Text.Decimal.natText part.1 ++ part.2

/-- A group whose span fits is added to the total, wherever it ends. -/
theorem read_group {p : Progress} (atGroup : AtGroup p) {part : Nat × String} {span total : Nat}
    (spells : Spells part span) (fits : total + span ≤ longest.nanos) :
    ∃ n name, (groupText part).toList.foldlM step ⟨⟨total⟩, p⟩ = some ⟨⟨total⟩, .unit n none name⟩ ∧
      close? ⟨total⟩ n none name = some ⟨total + span⟩ := by
  cases spells with
  | @intro n label u labelled part =>
    obtain ⟨c, cs, same⟩ := labelled.cons
    have letters := labelled.letters
    rw [same] at letters
    have letter := letters c List.mem_cons_self
    obtain ⟨few, added⟩ := addWhole_eq part fits
    have count : n < wordLimit := Nat.lt_of_le_of_lt (Nat.le_mul_of_pos_right n u.size_pos) few
    refine ⟨n, c :: cs, ?_, ?_⟩
    · rw [groupText, String.toList_append, Text.Decimal.natText, String.toList_ofList, List.foldlM_append,
        read_digits atGroup count, same]
      simp only [Option.bind_eq_bind, Option.bind_some, List.foldlM_cons, step, letter.not_digit, letter.not_blank,
        letter.of_unit, Bool.false_eq_true, if_false, if_true]
      rw [read_letters cs fun c member => letters c (List.mem_cons_of_mem _ member), List.singleton_append]
    · rw [close?, ← same, String.ofList_toList, labelled.named]
      simp only [Option.bind_eq_bind, Option.bind_some, added]

def groupsText (parts : List (Nat × String)) : List Char :=
  [' '].intercalate (parts.map fun part => (groupText part).toList)

theorem groupsText_cons_cons (part next : Nat × String) (rest : List (Nat × String)) :
    groupsText (part :: next :: rest) = (groupText part).toList ++ ' ' :: groupsText (next :: rest) := by
  rw [groupsText, List.map_cons, List.map_cons, List.intercalate_cons_cons, List.append_assoc, List.singleton_append]
  rfl

/-- Groups with blanks between them are read as the sum of their spans, unless that is too long. -/
theorem read_groups {parts : List (Nat × String)} {spans : List Nat} (spells : List.Forall₂ Spells parts spans)
    (nonempty : parts ≠ []) {p : Progress} (atGroup : AtGroup p) {total : Nat}
    (fits : total + spans.sum ≤ longest.nanos) :
    ((groupsText parts).foldlM step ⟨⟨total⟩, p⟩).bind finish = some ⟨total + spans.sum⟩ := by
  induction spells generalizing p total with
  | nil => exact absurd rfl nonempty
  | @cons part span rest spans first others ih =>
    rw [List.sum_cons] at fits ⊢
    have room : total + span ≤ longest.nanos := by omega
    obtain ⟨n, name, reads, closes⟩ := read_group atGroup first room
    cases others with
    | nil =>
      rw [groupsText, List.map_singleton, List.intercalate_singleton, reads]
      exact closes
    | @cons next span' rest' spans' =>
      -- the blank behind the group ends it, and the next one begins from its total
      have blank : step ⟨⟨total⟩, .unit n none name⟩ ' ' = some ⟨⟨total + span⟩, .gap⟩ := by
        have white : Text.isBlank ' ' = true := by decide
        simp [step, digitValue?, white, closes]
      have rest : total + span + (span' :: spans').sum ≤ longest.nanos := by omega
      rw [groupsText_cons_cons, List.foldlM_append, reads, Option.bind_eq_bind, Option.bind_some, List.foldlM_cons,
        blank, Option.bind_eq_bind, Option.bind_some, ih (by simp) (.inr rfl) rest, Nat.add_assoc]

theorem spells_filter {parts : List (Nat × String)} {spans : List Nat} (spells : List.Forall₂ Spells parts spans) :
    ∃ spans', List.Forall₂ Spells (parts.filter fun part => part.1 ≠ 0) spans' ∧ spans'.sum = spans.sum := by
  induction spells with
  | nil => exact ⟨[], .nil, rfl⟩
  | @cons part span rest spans first _ ih =>
    obtain ⟨spans', others, same⟩ := ih
    by_cases none : part.1 = 0
    · have nothing : span = 0 := by
        cases first
        simp_all
      rw [List.filter_cons_of_neg (by simp [none])]
      exact ⟨spans', others, by rw [same, List.sum_cons, nothing, Nat.zero_add]⟩
    · rw [List.filter_cons_of_pos (by simp [none])]
      exact ⟨span :: spans', .cons first others, by rw [List.sum_cons, List.sum_cons, same]⟩

theorem Unit.Labelled.spells {u : Unit} {label : String} (labelled : u.Labelled label)
    (large : u.isSubsecond = false) (n : Nat) : Spells (n, label) (n * u.nanos) :=
  .intro labelled fun below => by cases below.symm.trans large

theorem spells_plural {u : Unit} {one many : String} (single : u.Labelled one) (several : u.Labelled many)
    (large : u.isSubsecond = false) (n : Nat) : Spells (n, if n = 1 then one else many) (n * u.nanos) := by
  split
  · exact single.spells large n
  · exact several.spells large n

theorem Unit.Labelled.spells_below {u : Unit} {label : String} (labelled : u.Labelled label) {n : Nat}
    (part : n * u.nanos < nanosPerSecond) : Spells (n, label) (n * u.nanos) := .intro labelled fun _ => part

theorem nanos_eq : Unit.year.nanos = 31557600 * 1000000000 ∧ Unit.month.nanos = 2630016 * 1000000000 ∧
    Unit.day.nanos = 86400 * 1000000000 ∧ Unit.hour.nanos = 3600 * 1000000000 ∧
    Unit.minute.nanos = 60 * 1000000000 ∧ Unit.second.nanos = 1000000000 ∧ Unit.milli.nanos = 1000000 ∧
    Unit.micro.nanos = 1000 ∧ Unit.nano.nanos = 1 ∧ nanosPerSecond = 1000000000 := by decide

theorem labels_spell {years months days hours minutes seconds millis micros nanos : Nat} (few : millis < 1000)
    (few' : micros < 1000) (few'' : nanos < 1000) : ∃ spans,
    List.Forall₂ Spells
      [(years, if years = 1 then "year" else "years"), (months, if months = 1 then "month" else "months"),
        (days, if days = 1 then "day" else "days"), (hours, "h"), (minutes, "m"), (seconds, "s"), (millis, "ms"),
        (micros, "us"), (nanos, "ns")] spans ∧
      spans.sum = (((((years * 31557600 + months * 2630016) + days * 86400) + hours * 3600) + minutes * 60) + seconds) *
        1000000000 + ((millis * 1000000 + micros * 1000) + nanos) := by
  obtain ⟨year, month, day, hour, minute, second, milli, micro, nano, billion⟩ := nanos_eq
  refine ⟨_, .cons (spells_plural (u := .year) (by decide) (by decide) rfl _) <|
    .cons (spells_plural (u := .month) (by decide) (by decide) rfl _) <|
    .cons (spells_plural (u := .day) (by decide) (by decide) rfl _) <|
    .cons (Unit.Labelled.spells (u := .hour) (by decide) rfl _) <|
    .cons (Unit.Labelled.spells (u := .minute) (by decide) rfl _) <|
    .cons (Unit.Labelled.spells (u := .second) (by decide) rfl _) <|
    .cons (Unit.Labelled.spells_below (u := .milli) (by decide) ?_) <|
    .cons (Unit.Labelled.spells_below (u := .micro) (by decide) ?_) <|
    .cons (Unit.Labelled.spells_below (u := .nano) (by decide) ?_) .nil, ?_⟩
  · rw [milli, billion]
    omega
  · rw [micro, billion]
    omega
  · rw [nano, billion]
    omega
  · have total (a b c d e f g h i : Nat) : [a, b, c, d, e, f, g, h, i].sum = a + b + c + d + e + f + g + h + i := by
      simp [Nat.add_assoc]
    rw [total, year, month, day, hour, minute, second, milli, micro, nano]
    omega

/-- The parts that are written of a span make it up. -/
theorem parts_spell (d : Duration) : ∃ spans, List.Forall₂ Spells d.parts spans ∧ spans.sum = d.nanos := by
  have rest : d.subsecondNanos < 1000000000 := Nat.mod_lt _ (by decide)
  have split : 1000000000 * d.wholeSeconds + d.subsecondNanos = d.nanos := Nat.div_add_mod ..
  unfold parts
  generalize d.wholeSeconds = secs, d.subsecondNanos = nanos at *
  have few : nanos / 1000000 < 1000 := by omega
  have few' : nanos / 1000 % 1000 < 1000 := by omega
  have few'' : nanos % 1000 < 1000 := by omega
  obtain ⟨spans, spells, sum⟩ := labels_spell few few' few''
  refine ⟨spans, spells, sum.trans ?_⟩
  omega

theorem groupsText_ends {parts : List (Nat × String)} {spans : List Nat} (spells : List.Forall₂ Spells parts spans)
    (nonempty : parts ≠ []) : ∃ c cs last, groupsText parts = c :: cs ∧ Text.Decimal.isDigit c = true ∧
      (c :: cs).getLast? = some last ∧ IsLetter last := by
  induction spells with
  | nil => exact absurd rfl nonempty
  | @cons part span rest spans first others ih =>
    obtain ⟨c, cs, same, digit⟩ := Text.Decimal.digits_head part.1
    have text : (groupText part).toList = c :: (cs ++ part.2.toList) := by
      rw [groupText, String.toList_append, Text.Decimal.natText, String.toList_ofList, same, List.cons_append]
    cases others with
    | nil =>
      cases first with
      | @intro n label u labelled =>
        obtain ⟨l, ls, name⟩ := labelled.cons
        have final : label.toList.getLast? = some ((l :: ls).getLast (List.cons_ne_nil _ _)) := by
          rw [name, List.getLast?_eq_some_getLast]
        refine ⟨c, cs ++ label.toList, _, ?_, digit, ?_, labelled.letters _ (List.mem_of_getLast? final)⟩
        · rw [groupsText, List.map_singleton, List.intercalate_singleton, text]
        · rw [← List.cons_append, List.getLast?_append_of_ne_nil _ (name ▸ List.cons_ne_nil _ _), final]
    | @cons next span' rest' spans' =>
      obtain ⟨c', cs', last, same', -, final, letter⟩ := ih (by simp)
      refine ⟨c, cs ++ part.2.toList ++ ' ' :: c' :: cs', last, ?_, digit, ?_, letter⟩
      · rw [groupsText_cons_cons, text, same', List.cons_append]
      · rw [← List.cons_append, List.getLast?_append_of_ne_nil _ (List.cons_ne_nil _ _), List.getLast?_cons_cons, final]

theorem parseChars_groupsText {parts : List (Nat × String)} {spans : List Nat}
    (spells : List.Forall₂ Spells parts spans) (nonempty : parts ≠ []) (fits : spans.sum ≤ longest.nanos) :
    parseChars (Text.trimChars (groupsText parts)) = some ⟨spans.sum⟩ := by
  obtain ⟨c, cs, last, same, digit, final, letter⟩ := groupsText_ends spells nonempty
  have read := @read_groups _ _ spells nonempty _ (.inl rfl) 0 (by omega)
  have whole : c :: cs ≠ ['0'] := by
    intro zero
    rw [zero] at final
    cases final
    exact absurd letter (by decide)
  rw [Nat.zero_add, same] at read
  rw [same, Text.trimChars_eq (Text.Decimal.not_blank digit) final letter.not_blank, parseChars, if_neg whole]
  exact read

/-- The text of a span: that of its parts which are not nought, or `0s` if all are. -/
theorem format_cases (d : Duration) : d.nanos = 0 ∧ d.format = "0s" ∨ ∃ parts spans,
    List.Forall₂ Spells parts spans ∧ parts ≠ [] ∧ spans.sum = d.nanos ∧ d.format.toList = groupsText parts := by
  obtain ⟨spans, spells, sum⟩ := d.parts_spell
  obtain ⟨spans', spells', sum'⟩ := spells_filter spells
  rw [sum] at sum'
  unfold format
  generalize d.parts.filter (fun part => part.1 ≠ 0) = shown at spells'
  cases spells' with
  | nil => exact .inl ⟨sum'.symm, rfl⟩
  | @cons part span rest spans first others =>
    refine .inr ⟨part :: rest, span :: spans, .cons first others, List.cons_ne_nil _ _, sum', ?_⟩
    have blank : " ".toList = [' '] := rfl
    dsimp only
    rw [List.isEmpty_cons, if_neg Bool.false_ne_true, String.toList_intercalate, List.map_map, blank]
    rfl

/-- What is written of a span reads back. -/
theorem parse_format {d : Duration} (short : d ≤ longest) : parse d.format = some d := by
  rcases d.format_cases with ⟨none, text⟩ | ⟨parts, spans, spells, nonempty, sum, text⟩
  · obtain ⟨nanos⟩ := d
    rw [text]
    cases none
    decide
  · rw [parse, text, parseChars_groupsText spells nonempty (sum ▸ short), sum]

theorem format_not_nothing (d : Duration) : (d.format.isEmpty || Yaml.Scalar.isNull d.format) = false := by
  rcases d.format_cases with ⟨-, text⟩ | ⟨parts, spans, spells, nonempty, -, text⟩
  · rw [text]
    decide
  · obtain ⟨c, cs, -, same, digit, -⟩ := groupsText_ends spells nonempty
    rw [same] at text
    have digitless : ∀ s ∈ ["", "null", "Null", "NULL", "~"], s.toList.head?.any Text.Decimal.isDigit = false := by
      decide
    refine Bool.eq_false_iff.mpr fun nothing => ?_
    have member : d.format ∈ ["", "null", "Null", "NULL", "~"] := by
      simpa [Yaml.Scalar.isNull] using nothing
    have first := digitless _ member
    rw [text, List.head?_cons, Option.any_some, digit] at first
    cases first

end Duration

namespace Config

/-- How a scalar without a tag may hold what is written: a text in any style, and a null in a plain one. -/
inductive Holds : Json → Yaml.Style → String → Prop
  | text (style : Yaml.Style) (s : String) : Holds (.text s) style s
  | null {s : String} (nothing : (s.isEmpty || Yaml.Scalar.isNull s) = true) : Holds .null .plain s

open Yaml (Document Node Style)

section
variable {doc : Document} {n : Node} {style : Style} {text : String} {start stop : Nat}

theorem bind_eq {α β : Type} {v : Yaml.Visit α} {a : α} (read : v start = some (a, stop)) (f : α → Yaml.Visit β) :
    (v >>= f) start = f a stop := by
  simp only [bind, Yaml.Visit.bind, read]

theorem readDuration_scalar {tag : Option String} (found : doc.resolve n start = some (.scalar tag style text, stop))
    {d : Duration} (parses : Duration.parse text = some d) : readDuration doc n start = some (d, stop) := by
  have read : doc.text n start = some (text, stop) := bind_eq found _
  rw [readDuration, bind_eq read, parses]
  rfl

theorem isNothing_scalar : doc.isNothing (.scalar none style text) start =
    some (decide (style = .plain) && (text.isEmpty || Yaml.Scalar.isNull text), start) := by
  have itself : doc.resolve (.scalar none style text) start = some (.scalar none style text, start) := rfl
  rw [Document.isNothing, bind_eq itself]
  by_cases plain : style = .plain
  · subst plain
    rfl
  · simp only [plain, ne_eq, not_false_eq_true, if_true, decide_false, Bool.false_and]
    rfl

/-- Written spans and options of spans read back from every document that holds them, through aliases as well. -/
theorem written_span_reads_back (found : doc.resolve n start = some (.scalar none style text, stop)) :
    (∀ d ≤ Duration.longest, Holds (spanJson d) style text → readDuration doc n start = some (d, stop)) ∧
      ∀ d : Option Duration, (∀ e ∈ d, e ≤ Duration.longest) → Holds (Report.orNull spanJson d) style text →
        doc.optional (readDuration doc) n start = some (d, stop) := by
  refine ⟨fun d short holds => ?_, fun d short holds => ?_⟩
  · cases holds
    exact readDuration_scalar found (Duration.parse_format short)
  · rw [Document.optional, bind_eq found, bind_eq isNothing_scalar]
    cases d with
    | none =>
      cases holds with
      | null nothing =>
        rw [nothing, decide_eq_true rfl, Bool.and_true, if_pos rfl]
        rfl
    | some d =>
      cases holds
      have itself : doc.resolve (.scalar none style d.format) stop = some (.scalar none style d.format, stop) := rfl
      rw [d.format_not_nothing, Bool.and_false, if_neg Bool.false_ne_true,
        bind_eq (readDuration_scalar itself (Duration.parse_format (short d rfl)))]
      rfl

end

/-- The longest span and none at all read back, the one through an alias. -/
theorem longest_span_reads_back :
    let doc : Document :=
      { root := .alias 0, targets := [⟨0, 0, .scalar none .plain Duration.longest.format⟩], events := 2 }
    readDuration doc doc.root 0 = some (.longest, 1) ∧
      doc.optional (readDuration doc) doc.root 0 = some (some .longest, 1) ∧
      doc.optional (readDuration doc) (.scalar none .plain "~") 0 = some (none, 0) := by
  intro doc
  have found : doc.resolve doc.root 0 = some (.scalar none .plain Duration.longest.format, 1) := rfl
  have short : Duration.longest ≤ Duration.longest := Nat.le_refl _
  refine ⟨(written_span_reads_back found).1 _ short (.text ..), ?_, ?_⟩
  · exact (written_span_reads_back found).2 (some .longest) (fun e same => Option.some.inj same ▸ short) (.text ..)
  · have null : doc.resolve (.scalar none .plain "~") 0 = some (.scalar none .plain "~", 0) := rfl
    exact (written_span_reads_back null).2 none nofun (.null (by decide))

end Config
end Gatehouse
