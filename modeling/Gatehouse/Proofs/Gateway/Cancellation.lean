import Gatehouse.Proofs.Gateway.Admission
import Gatehouse.Proofs.Resilience.Interruption

/-!
Cancellation of requests. Whatever requests are handled and however time passes, no call of a gateway outlasts its
context: as soon as it is canceled or the timer of its deadline fires, the call ends with the error of the context,
wherever it waits, and leaves nothing behind.
-/
namespace Gatehouse.Gateway
open Resilience (Traffic)
open Resilience.Traffic (Act Attempts Balanced Distinct Fate Fires Interrupted IsCall LastTurn Path)

/-- What a step does with the traffic, if it does anything. -/
def Step.act? (g : Gateway) : Step → Option Act
  | .arrive _ => none
  | .answer wall id =>
    match g.arrivals.find? (·.id = id) with
    | none => none
    | some a =>
      match g.judge wall a with
      | .ok p => some (.start (a.call p))
      | .error _ => none
  | .pass _ _ finish => some (.pass finish)
  | .jump _ _ now => some (.pass now)
  | .signal => some .signal
  | .cancel n => some (.cancel n)
  | .abort id => some (.abort id)
  | .watch id context => some (.watch id context)
  | .look => some .look
  | .resetBreaker name => some (.reset name)
  | .startMaintenance => none
  | .share _ _ _ => none

/-- Requests and watches have names that are not in use. Time does not run backwards, and the clock is set only to a
time before which nothing happens by itself. -/
def Step.Orderly (g : Gateway) : Step → Prop
  | .answer _ id => ∀ q ∈ g.traffic.calls, q.1.id ≠ id
  | .watch id _ => ∀ q ∈ g.traffic.calls, q.1.id ≠ id
  | .pass _ _ finish => g.traffic.now ≤ finish
  | .jump _ _ now => g.traffic.now ≤ now ∧ ∀ q ∈ g.traffic.calls, ∀ m, Fires q m → now < m
  | _ => True

/-- A gateway that comes about by such steps. -/
inductive Reached (layers : Resilience.Layers) : Gateway → Prop
  | unused (g : Gateway) : Reached layers (g.unused layers)
  | step {g : Gateway} {s : Step} (reached : Reached layers g) (orderly : s.Orderly g) : Reached layers (g.step s)

variable {g : Gateway} {s : Step}

theorem step_traffic (guarded : g.traffic.layers.breaker.isSome = true) (orderly : s.Orderly g) :
    (g.step s).traffic = match s.act? g with
      | some a => g.traffic.act a
      | none => g.traffic := by
  cases s with
  | arrive a =>
    have arrives := g.arrives a
    show (g.arrive a).traffic = g.traffic
    generalize g.arrive a = h at arrives ⊢
    cases arrives <;> rfl
  | answer wall id =>
    simp only [step, Step.act?]
    cases found : g.arrivals.find? (·.id = id) with
    | none => rw [answer_none wall found]
    | some a =>
      cases judged : g.judge wall a with
      | error e => simp only [answer_refused found judged, judged]; rfl
      | ok p => simp only [answer_passed found judged, judged]; rfl
  | pass wall freshKey finish => exact (alike_pass ..).traffic
  | jump wall freshKey now => exact (alike_jump ..).traffic.trans (Traffic.pass_early guarded orderly.2).symm
  | _ => rfl

theorem answer_acts {wall : Instant} {id : String} {act : Act} (acts : (Step.answer wall id).act? g = some act) :
    ∃ (a : Arrival) (p : Principal), a.id = id ∧ act = .start (a.call p) := by
  simp only [Step.act?] at acts
  split at acts
  · cases acts
  next a found =>
    split at acts
    · have named := List.find?_some found
      cases acts
      exact ⟨a, _, of_decide_eq_true named, rfl⟩
    · cases acts

theorem act_orderly (orderly : s.Orderly g) {a : Act} (acts : s.act? g = some a) :
    a.Orderly g.traffic ∧ a.Fresh g.traffic := by
  cases s with
  | answer wall id =>
    obtain ⟨b, p, rfl, rfl⟩ := answer_acts acts
    exact ⟨rfl, orderly⟩
  | pass => cases acts; exact ⟨orderly, trivial⟩
  | jump => cases acts; exact ⟨orderly.1, trivial⟩
  | watch => cases acts; exact ⟨trivial, orderly⟩
  | arrive | startMaintenance | share => cases acts
  | signal | cancel | abort | look | resetBreaker => cases acts; exact ⟨trivial, trivial⟩

variable {bulkhead : Config.Bulkhead} {retry : Config.Retry} {breaker : Config.Breaker}

theorem Reached.traffic (reached : Reached (layers bulkhead retry breaker) g) :
    Traffic.Reached (layers bulkhead retry breaker) g.traffic ∧ Distinct g.traffic := by
  induction reached with
  | unused => exact ⟨.bare, List.nodup_nil⟩
  | @step g s _ orderly ih =>
    obtain ⟨reached, distinct⟩ := ih
    obtain ⟨layers, timely⟩ := reached.timely
    have guarded : g.traffic.layers.breaker.isSome = true := by rw [layers]; rfl
    rw [step_traffic guarded orderly]
    cases acts : s.act? g with
    | none => exact ⟨reached, distinct⟩
    | some a =>
      obtain ⟨orderly', fresh⟩ := act_orderly orderly acts
      have path := Traffic.act_path guarded (by rw [layers]) timely orderly'
      exact ⟨reached.act orderly', path.distinct (distinct.primed fresh)⟩

def primed (g : Gateway) (s : Step) : Traffic :=
  match s.act? g with
  | some a => g.traffic.primed a
  | none => g.traffic

def Step.Aborts : Step → String → Prop
  | .abort id, name => name = id
  | _, _ => False

theorem aborts_of_act {a : Act} (acts : s.act? g = some a) : a.Aborts = s.Aborts := by
  cases s with
  | answer wall id =>
    obtain ⟨b, p, -, rfl⟩ := answer_acts acts
    rfl
  | _ => cases acts <;> rfl

/-- Every step comes down to a path, on which permits and trials add up. -/
theorem step_path (reached : Reached (layers bulkhead retry breaker) g) (orderly : s.Orderly g) :
    Path s.Aborts (g.primed s) (g.step s).traffic ∧ Distinct (g.primed s) ∧
      Balanced bulkhead.maxConcurrent breaker (g.primed s) := by
  obtain ⟨reached, distinct⟩ := reached.traffic
  obtain ⟨layers, timely⟩ := reached.timely
  have guarded : g.traffic.layers.breaker.isSome = true := by rw [layers]; rfl
  rw [step_traffic guarded orderly]
  unfold primed
  cases acts : s.act? g with
  | none => exact ⟨.refl _, distinct, reached.balanced⟩
  | some a =>
    obtain ⟨orderly', fresh⟩ := act_orderly orderly acts
    have path := Traffic.act_path guarded (by rw [layers]) timely orderly'
    rw [← aborts_of_act acts]
    exact ⟨path, distinct.primed fresh, reached.balanced.primed (by rw [layers]) orderly'⟩

theorem primed_keeps (g : Gateway) (s : Step) :
    (g.primed s).now = g.traffic.now ∧ (∀ id, (g.primed s).told id = g.traffic.told id) ∧
      ∃ joined, (g.primed s).calls = g.traffic.calls ++ joined := by
  unfold primed
  split
  · exact g.traffic.primed_keeps _
  · exact ⟨rfl, fun _ => rfl, [], (List.append_nil _).symm⟩

theorem Step.aborts_iff {id : String} : s.Aborts id ↔ s = .abort id := by
  cases s with
  | abort other => exact ⟨fun same => congrArg _ (Eq.symm same), fun same => (Step.abort.inj same).symm⟩
  | _ => exact ⟨False.elim, nofun⟩

/-- What becomes of a call in a step that does not drop it. -/
theorem step_fate (reached : Reached (layers bulkhead retry breaker) g) (orderly : s.Orderly g)
    {c : Resilience.Call} {p : Resilience.Phase} (there : (c, p) ∈ g.traffic.calls) (called : p ≠ .watching)
    (kept : s ≠ .abort c.id) : Fate s.Aborts c (g.primed s) (g.step s).traffic := by
  obtain ⟨path, distinct, -⟩ := step_path reached orderly
  obtain ⟨now, -, joined, calls⟩ := g.primed_keeps s
  have there' : (c, p) ∈ (g.primed s).calls := calls ▸ List.mem_append_left joined there
  refine path.fate (kept ∘ Step.aborts_iff.mp) ⟨rfl, rfl, called⟩ (distinct.beside there') fun d deadline => ?_
  obtain ⟨-, timely⟩ := reached.traffic.1.timely
  rw [now]
  exact Nat.le_of_lt ((timely (c, p) there).before d deadline)

/-- No call outlasts its context. In every run of a gateway, the calls that are under way after a step are not
canceled, and the timer of their deadline has not fired; all permits and all places for trials that they do not hold
are free. A call that is under way before a step, in whatever phase, begins attempts only while its context is not
done. If it ends in the step, and its context is done by then, its last turn is to be interrupted, at the tick of the
deadline at the latest, whatever else is due for it: its result is the error of the context, which is the answer of
the gateway, its permit and its trial are given back, and no breaker counts a success or a failure. A call that is
canceled ends so at once, even if it is canceled at the very time at which timers are due. -/
theorem cancellation_cuts_through (reached : Reached (layers bulkhead retry breaker) g) (orderly : s.Orderly g) :
    let t := g.traffic
    let u := (g.step s).traffic
    (∀ q ∈ u.calls, q.1.context.isCanceled u.signals = false ∧
      ∀ d, q.1.context.deadline = some d → u.now < d.tick) ∧
    Balanced bulkhead.maxConcurrent breaker u ∧
    (∀ why, Error.ofCall (.stopped why) = .stopped why) ∧
    ∀ c p, (c, p) ∈ t.calls → p ≠ .watching → s ≠ .abort c.id →
      (∃ events, Attempts c u.signals events ∧
        ((∃ q ∈ u.calls, IsCall c q) ∧ u.told c.id = t.told c.id ++ events ∨
          ∃ w v q, LastTurn s.Aborts c (g.primed s) w v u q ∧ w.told c.id = t.told c.id ++ events ∧
            ∀ why, c.context.error? u.signals w.now = some why →
              Interrupted breaker w q why v ∧
              u.told c.id = t.told c.id ++ events ++ [(w.now, .done c.id (.error (.stopped why)))])) ∧
      ∀ n m, c.context.signal = some n → t.now ≤ m → (∀ q ∈ t.calls, ∀ k, Fires q k → m ≤ k) →
        let due : Gateway := { g with traffic := { t with now := m } }
        let u := (due.step (.cancel n)).traffic
        Balanced bulkhead.maxConcurrent breaker u ∧
        (∃ w v q, LastTurn (fun _ => False) c (due.primed (.cancel n)) w v u q ∧
          Interrupted breaker w q .canceled v) ∧
        u.told c.id = t.told c.id ++ [(m, .done c.id (.error (.stopped .canceled)))] := by
  intro t u
  have reached' := (reached.step orderly).traffic.1
  obtain ⟨-, timely⟩ := reached'.timely
  obtain ⟨path, -, balanced⟩ := step_path reached orderly
  obtain ⟨layers, signals, -⟩ := path.onward
  have layer : (g.primed s).layers.breaker = some breaker := by
    rw [← layers, reached'.timely.1]
  obtain ⟨now, told, -⟩ := g.primed_keeps s
  refine ⟨fun q member => ⟨(timely q member).live, (timely q member).before⟩, reached'.balanced, fun _ => rfl,
    fun c p there called kept => ⟨?_, fun n m own later first => ?_⟩⟩
  · obtain ⟨events, attempts, rest⟩ := step_fate reached orderly there called kept
    rw [← signals] at attempts
    rw [told] at rest
    refine ⟨events, attempts, rest.imp_right ?_⟩
    rintro ⟨w, v, q, last, log⟩
    refine ⟨w, v, q, last, log, fun why done => ?_⟩
    obtain ⟨interrupted, ended⟩ := last.interrupted layer balanced (signals ▸ done)
    rw [log] at ended
    exact ⟨interrupted, ended⟩
  · obtain ⟨reached, distinct⟩ := reached.traffic
    obtain ⟨layers, timely⟩ := reached.timely
    have ticking : Traffic.Ticking { t with now := m } := fun q member k timer =>
      ⟨(timely.ticking q member k timer).1, first q member k (.inl timer)⟩
    refine Traffic.interrupted_cancel (t := { t with now := m }) (by rw [layers]) (reached.balanced.later m) distinct
      ticking there called (fun d deadline => ?_) own
    exact first (c, p) there d.tick (.inr (Option.map_eq_some_iff.mpr ⟨d, deadline, rfl⟩))

namespace Canceled

def token : Token :=
  Token.signWith
    { id := "x", kind := .access, subject := "alice", issuer := "warden", issuedAt := ⟨0, 0⟩, notBefore := ⟨0, 0⟩
      expiresAt := ⟨3600, 0⟩, keyId := some "k" } "k"

def gateway : Gateway where
  authority :=
    { keys := KeyRing.add {} ⟨"k", "", ""⟩ true ⟨0, 0⟩, backend := { store := { records := [token] } } }
  authorizer :=
    ⟨[{ id := "read", effect := .allow, subjects := [.any], resources := [.any], actions := [⟨"read"⟩] }]⟩
  limiter := .window { quota := 1, length := .ofSeconds 1 }
  traffic := .ofLayers {}

def request : Request where
  caller := "alice"
  bearer := .envelope (Token.Envelope.sign (token.claims "k"))
  action := "read"
  resource := { id := "plan", type := "document" }
  backend := "docs"

def answer : Moment := ⟨5000000⟩

def arrival : Arrival where
  id := "a"
  context := { signal := some 0 }
  request := request
  backend _ _ := ⟨some ⟨answer.nanos⟩, .success⟩

def waiting : Gateway :=
  (((gateway.unused (layers {} {} {})).step .signal).step (.arrive arrival)).step (.answer ⟨1, 0⟩ "a")

theorem waiting_reached : Reached (layers {} {} {}) waiting := by
  have arrived : Reached (layers {} {} {}) (((gateway.unused (layers {} {} {})).step .signal).step (.arrive arrival)) :=
    .step (.step (.unused gateway) trivial) trivial
  exact .step arrived (List.forall_mem_nil _)

/-- The request is canceled at the very time at which the backend answers. -/
theorem canceled_in_backend :
    waiting.traffic.isRunning "a" = true ∧
    ({ waiting.traffic with now := answer }.cancel 0).told "a" =
      waiting.traffic.told "a" ++ [(answer, .done "a" (.error (.stopped .canceled)))] := by
  have pending : (waiting.traffic.calls.any fun q =>
      q.1.id = "a" ∧ q.1.context.signal = some 0 ∧ Traffic.isServed q = true) = true := by decide +kernel
  have answered : (waiting.traffic.calls.all fun q =>
      Traffic.Phase.wakeAt? q.2 = some answer ∧ q.1.context.wakeAt? = none) = true := by decide +kernel
  obtain ⟨⟨c, p⟩, there, is⟩ := List.any_eq_true.mp pending
  obtain ⟨id, signal, served⟩ := of_decide_eq_true is
  have called : p ≠ .watching := by
    rintro rfl
    cases served
  have first (q : Resilience.Call × Resilience.Phase) (member : q ∈ waiting.traffic.calls) (k : Moment)
      (fires : Fires q k) : answer ≤ k := by
    obtain ⟨own, endless⟩ := of_decide_eq_true (List.all_eq_true.mp answered q member)
    rcases fires with timer | deadline
    · cases own.symm.trans timer
      exact Nat.le_refl _
    · cases endless.symm.trans deadline
  obtain ⟨-, -, -, calls⟩ := cancellation_cuts_through waiting_reached (s := .cancel 0) trivial
  obtain ⟨-, -, told⟩ := (calls c p there called nofun).2 0 answer signal (by decide +kernel) first
  rw [show c.id = "a" from id] at told
  exact ⟨List.any_eq_true.mpr ⟨(c, p), there, decide_eq_true id⟩, told⟩

end Canceled

end Gatehouse.Gateway
