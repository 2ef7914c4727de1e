import Metering.Proofs.Influx.Loop

/-!
# The last push

Closing a pushing backend makes its loop push what the meters hold then, once, whatever goes on at
the backend in the meantime (`PushesOnce`). This holds of a loop whose first push the clock can tell;
with a step so long that the push lies beyond the end of the clock the loop cannot begin, and then
nothing is pushed (`pushes_once_of_clock`).
-/

namespace Metering

/-- The loop of a new backend runs if it can. -/
lemma Site.loops_of_built {α : Type} {s₀ s : Site α} {around : Surroundings} {o : PushOptions}
    {sink : Influx.Sink} {b : BackendRef} (built : s₀.buildPushing around o sink = .ok (b, s)) :
    s.loops b = canLoop around o.step := by
  rw [buildPushing] at built
  cases executor : around.executor with
  | false => rw [executor] at built; cases built
  | true =>
    rw [executor] at built
    obtain ⟨rfl, rfl⟩ := Prod.mk.inj (Except.ok.inj built)
    simp only [loops, backend?, Array.getElem?_push_size]

namespace PushLoop

variable {α : Type} [Amount α]

/-! ## A loop on its own -/

section Alone

variable {b : BackendRef} {m : State α}

/-- The state after batches are handed over in the last push. -/
def State.handLast (m : State α) (b : BackendRef) (batches : List (List String)) : State α :=
  { m with site := m.site.handOverAll b batches
           log := m.log ++ batches.map (Source.last, ·) }

/-- Left alone, a loop that pushes for the last time hands over all batches. -/
lemma run_handLast (timestamp : Int) {rest : List (List String)}
    (phase : m.phase = .pushing true rest) :
    Run b m (List.replicate rest.length (.loop timestamp))
      { m.handLast b rest with phase := .pushing true [] } := by
  induction rest generalizing m with
  | nil =>
    obtain ⟨site, signals, phase', handle, flushes, log⟩ := m
    cases phase
    rw [State.handLast, List.map_nil, List.append_nil]
    exact .nil
  | cons batch rest ih =>
    have first : Run b m [.loop timestamp]
        { m.hand b .last batch with phase := .pushing true rest } :=
      .single (.turn (.hand timestamp phase))
    have others := ih (m := { m.hand b .last batch with phase := .pushing true rest }) rfl
    -- handing over one batch and then the rest is handing over all
    have same : ({ m.hand b .last batch with phase := .pushing true rest } : State α).handLast b rest
        = { m.handLast b (batch :: rest) with phase := .pushing true rest } := by
      simp only [State.handLast, State.hand, List.map_cons, List.append_assoc]
      rfl
    rw [same] at others
    exact first.trans others

/-- Left alone, a loop that waits does on a close what closing the backend does. -/
lemma exists_run_close {s : Site α} {events : List (Event α)} (account : Account b s events m)
    (loops : s.loops b = true) (waiting : m.phase = .waiting) (timestamp : Int) :
    ∃ m', Run b m (.close :: List.replicate ((m.site.rendered b timestamp).length + 2)
        (.loop timestamp)) m' ∧
      m'.phase = .ended ∧ m'.site = m.site.close b timestamp := by
  let batches := m.site.rendered b timestamp
  have signals := account.signals (by rw [waiting]; rfl) (by rw [waiting]; rfl)
  have runs : m.site.loops b = true := (account.loops (by rw [waiting]; nofun)).trans loops
  have closed : m.signalled = { m with signals := m.signals.send } := by
    rw [State.signalled, waiting]
    rfl
  obtain ⟨⟨found, left⟩, read⟩ : ∃ x, m.signals.send.read? = some x := by
    refine Option.isSome_iff_exists.1 ?_
    rw [Signals.isSome_read?, signals]
    exact decide_eq_true (Nat.succ_pos _)
  -- it reads the signal and has rendered, then hands over batch by batch
  let told : State α := { m with signals := left, phase := .pushing true batches }
  have first : Run b m [.close, .loop timestamp] told := by
    have reading : Turn b m.signalled (.loop timestamp) told := by
      rw [closed]
      exact .read timestamp waiting read
    exact (Run.single (.call .close)).snoc (.turn reading)
  have handing := run_handLast (b := b) (m := told) timestamp rfl
  have steps : [.close, .loop timestamp] ++ List.replicate batches.length (.loop timestamp) ++
      [.loop timestamp] =
        Event.close (α := α) :: List.replicate (batches.length + 2) (.loop timestamp) := by
    rw [List.append_assoc, ← List.replicate_succ']
    rfl
  rw [← steps]
  exact ⟨_, (first.trans handing).snoc (.turn (.finish timestamp rfl)), rfl,
    (Site.close_eq runs timestamp).symm⟩

end Alone

/-! ## Pushing once -/

/-- An ended loop hands over nothing any more. -/
lemma Run.of_ended {b : BackendRef} {m m' : State α} {events : List (Event α)}
    (run : Run b m events m') (ended : m.phase = .ended) :
    m'.phase = .ended ∧ m'.handed .last = m.handed .last ∧
      m'.handed .periodic = m.handed .periodic := by
  induction run with
  | nil => exact ⟨ended, rfl, rfl⟩
  | snoc _ step ih =>
    obtain ⟨ended', last, periodic⟩ := ih
    cases step with
    | call call => exact ⟨call.phase.trans ended', call.last.trans last, call.periodic.trans periodic⟩
    | turn turn => exact absurd turn.not_over (by rw [ended']; nofun)

/-- What a backend promises: until it is closed it leaves pushing to its time and to flushes; then
its loop pushes once what it renders when it reads the signal, and ends. -/
structure PushesOnce (b : BackendRef) (s : Site α) (events : List (Event α)) (m : State α) :
    Prop where
  quiet : (∀ e ∈ events, e.closes = false) → (∀ e ∈ events, e.isTick = false) →
    ∀ entry ∈ m.log, ∃ n, entry.1 = .flush n
  /-- The loop of a closed backend can go on until it has ended. -/
  goes : (∃ e ∈ events, e.closes = true) → m.phase ≠ .ended →
    ∀ timestamp, ∃ m', Step b m (.loop timestamp) m'
  /-- It takes three steps, and one for each batch. -/
  counted : (∀ e ∈ events, e.isTick = false) →
    events.countP Event.isLoop + m.phase.left = 3 + (m.handed .last).length
  begun : m.handed .last = [] ∨
    ∃ rest, RenderedLast b (.spawned s) events m (m.handed .last ++ rest)
  whole : m.phase = .ended → RenderedLast b (.spawned s) events m (m.handed .last)
  after : m.phase = .ended → ∀ more m', Run b m more m' →
    m'.handed .last = m.handed .last ∧ m'.handed .periodic = m.handed .periodic
  /-- The first shutdown returns when the loop has ended. -/
  awaited : m.handle = .awaited → m.phase = .ended → ∃ m', Step b m .joined m'
  joined : m.handle = .joined → m.phase = .ended
  alone : m.phase = .waiting → ∀ timestamp, ∃ m',
    Run b m (.close :: List.replicate ((m.site.rendered b timestamp).length + 2)
      (.loop timestamp)) m' ∧ m'.phase = .ended ∧ m'.site = m.site.close b timestamp

namespace Account

variable {b : BackendRef} {s : Site α} {m : State α} {events : List (Event α)}

/-- Without a time to push nothing is pushed periodically. -/
lemma periodic (account : Account b s events m) (quiet : ∀ e ∈ events, e.isTick = false) :
    m.handed .periodic = [] := by
  by_contra handed
  obtain ⟨⟨e, mem, tick⟩, -⟩ := account.ticked (.inl handed)
  rw [quiet e mem] at tick
  cases tick

/-- Without a close nothing is pushed for the last time. -/
lemma last (account : Account b s events m) (unclosed : ∀ e ∈ events, e.closes = false) :
    m.handed .last = [] := by
  cases last : m.phase.isLast with
  | false => exact account.early last
  | true =>
    obtain ⟨before, timestamp, after, -, rfl, -, -, -, ⟨e, mem, closes⟩, -⟩ := account.late last
    rw [unclosed e (List.mem_append_left _ mem)] at closes
    cases closes

/-- A batch that is handed over before a close or a time to push comes from a flush. -/
lemma flush_of_mem (account : Account b s events m) (unclosed : ∀ e ∈ events, e.closes = false)
    (quiet : ∀ e ∈ events, e.isTick = false) {entry : Source × List String}
    (mem : entry ∈ m.log) : ∃ n, entry.1 = .flush n := by
  have handed := State.mem_handed mem
  cases source : entry.1 with
  | flush n => exact ⟨n, rfl⟩
  | periodic =>
    rw [source, account.periodic quiet] at handed
    cases handed
  | last =>
    rw [source, account.last unclosed] at handed
    cases handed

/-- A loop that cannot begin hands over nothing. -/
lemma of_not_loops (account : Account b s events m) (dead : s.loops b = false) :
    m.handed .last = [] ∧ m.handed .periodic = [] := by
  constructor
  case left =>
    refine account.early ?_
    by_cases spawned : m.phase = .spawned
    · rw [spawned]
      rfl
    · rw [(account.begun spawned).2 dead]
      rfl
  case right =>
    by_contra handed
    obtain ⟨-, loops⟩ := account.ticked (.inl handed)
    rw [dead] at loops
    cases loops

/-- A loop that can begin does not fail. -/
lemma not_failed (account : Account b s events m) (loops : s.loops b = true) :
    m.phase ≠ .failed := by
  intro failed
  have dead := (account.begun (by rw [failed]; nofun)).1 failed
  rw [loops] at dead
  cases dead

/-- A loop that can begin is over when it has ended. -/
lemma ended_of_over (account : Account b s events m) (loops : s.loops b = true)
    (finished : m.phase.isOver = true) : m.phase = .ended := by
  cases phase : m.phase with
  | ended => rfl
  | failed => exact absurd phase (account.not_failed loops)
  | _ => rw [phase] at finished; cases finished

/-- A loop that has begun is never stuck after a close. -/
lemma exists_step (account : Account b s events m) (loops : s.loops b = true)
    (closed : ∃ e ∈ events, e.closes = true) (on : m.phase ≠ .ended) (timestamp : Int) :
    ∃ m', Step b m (.loop timestamp) m' := by
  cases phase : m.phase with
  | spawned =>
    have runs : m.site.loops b = true := (account.loops on).trans loops
    exact ⟨_, .turn (.start timestamp phase runs)⟩
  | failed => exact absurd phase (account.not_failed loops)
  | waiting =>
    have signals := account.signals (by rw [phase]; rfl) (by rw [phase]; rfl)
    have found : m.signals.read?.isSome := by
      rw [Signals.isSome_read?, signals]
      exact decide_eq_true (List.countP_pos_iff.2 closed)
    obtain ⟨⟨_, _⟩, read⟩ := Option.isSome_iff_exists.1 found
    exact ⟨_, .turn (.read timestamp phase read)⟩
  | pushing last rest =>
    cases rest with
    | cons batch rest => exact ⟨_, .turn (.hand timestamp phase)⟩
    | nil =>
      cases last with
      | true => exact ⟨_, .turn (.finish timestamp phase)⟩
      | false => exact ⟨_, .turn (.wait timestamp phase)⟩
  | ended => exact absurd phase on

/-- The account of a loop that can begin has all that is promised. -/
lemma pushesOnce (account : Account b s events m) (loops : s.loops b = true) :
    PushesOnce b s events m where
  quiet unclosed quiet entry mem := account.flush_of_mem unclosed quiet mem
  goes closed on timestamp := account.exists_step loops closed on timestamp
  counted quiet := by
    have ticks : events.countP Event.isTick = 0 :=
      List.countP_eq_zero.2 fun e mem => Bool.eq_false_iff.1 (quiet e mem)
    have steps := account.steps
    rw [account.periodic quiet, ticks] at steps
    exact steps
  begun := by
    cases last : m.phase.isLast with
    | true => exact .inr ⟨_, account.late last⟩
    | false => exact .inl (account.early last)
  whole ended := by
    have late := account.late (by rw [ended]; rfl)
    have none : m.phase.rest = [] := by rw [ended]; rfl
    rwa [none, List.append_nil] at late
  after ended more m' run := (run.of_ended ended).2
  awaited awaited ended := ⟨_, .call (.joined awaited (by rw [ended]; rfl))⟩
  joined joined := account.ended_of_over loops (account.joined joined)
  alone waiting timestamp := exists_run_close account loops waiting timestamp

end Account

/-- What a built backend promises holds of all its runs if its first push, which is one step after
its loop begins, comes before the end of the clock. If that lies beyond, the loop never pushes, and
the promise is broken. Nothing is said about the last millisecond of the clock, to whose end a timer
is set: there a loop that has a signal to read may never look at its timer. -/
theorem pushes_once_of_clock {s₀ s : Site α} {around : Surroundings} {o : PushOptions}
    {sink : Influx.Sink} {b : BackendRef} (built : s₀.buildPushing around o sink = .ok (b, s)) :
    let first := around.clock + max (o.step.toNat * 10 ^ 9) (10 ^ 6)
    (first + 999999 < 2 ^ 63 * 10 ^ 9 →
      ∀ events m, Run b (.spawned s) events m → PushesOnce b s events m) ∧
    (2 ^ 63 * 10 ^ 9 ≤ first →
      (∀ events m, Run b (.spawned s) events m →
        m.handed .last = [] ∧ m.handed .periodic = []) ∧
      ¬ ∀ events m, Run b (.spawned s) events m → PushesOnce b s events m) := by
  intro first
  have loops := Site.loops_of_built built
  refine ⟨fun before events m run => ?_, fun beyond => ?_⟩
  · exact run.account.pushesOnce (loops.trans (decide_eq_true before))
  · have late : ¬ first + 999999 < 2 ^ 63 * 10 ^ 9 :=
      Nat.not_lt_of_le (beyond.trans (Nat.le_add_right ..))
    have dead : s.loops b = false := loops.trans (decide_eq_false late)
    refine ⟨fun events m run => run.account.of_not_loops dead, fun promised => ?_⟩
    -- a loop that has failed cannot go on after a close
    have failed : Run b (.spawned s) [.loop 0] { State.spawned s with phase := .failed } :=
      .single (.turn (.fail 0 rfl dead))
    have closed := failed.snoc (.call .close)
    obtain ⟨m', step⟩ := (promised _ _ closed).goes ⟨.close, by simp, rfl⟩ nofun 0
    cases step with
    | call call => cases call
    | turn turn => exact absurd turn.not_over nofun

/-- A hub with one counter in its first registry. -/
def oneCounter : Hub Float := ⟨#[.counter 0], #[.store [⟨⟨"c", []⟩, "", ⟨0⟩⟩]], 0, []⟩

/-- The batch of that counter at the time 7. -/
def oneBatch : List String := ["c,metric_type=counter value=0 7"]

/-- A backend with one counter renders one batch of one line. -/
lemma rendered_oneCounter (size : Nat) (looping : Bool) (sink : Influx.Sink)
    (network : Influx.Network) :
    Site.rendered ⟨oneCounter, #[.pushing ⟨0⟩ size looping sink], network⟩ ⟨0⟩ 7 = [oneBatch] := by
  let listed : List Listing := [⟨⟨"c", []⟩, "", ⟨0⟩⟩]
  have sorted : Hub.sorted listed = listed := List.mergeSort_singleton _
  have meters : oneCounter.meters ⟨0⟩ = listed.filterMap oneCounter.meterOf := by
    rw [← sorted]
    rfl
  have lines : Influx.lines 7 (oneCounter.meters ⟨0⟩) = oneBatch := by
    rw [meters]
    decide +kernel
  have pieces (line : String) : Influx.chunks (max 1 size) [line] = [[line]] := by
    simp [Influx.chunks]
  exact (congrArg _ lines).trans (pieces _)

/-- The first backend that is built. -/
def firstSite (around : Surroundings) (o : PushOptions) (sink : Influx.Sink) : Site Float :=
  ⟨⟨#[], #[.store []], 0, []⟩,
    #[.pushing ⟨0⟩ (max 1 o.batchSize.toNat) (Site.canLoop around o.step) sink], .empty⟩

/-- With an executor the first backend is built. -/
lemma built_firstSite {around : Surroundings} (executor : around.executor = true) (o : PushOptions)
    (sink : Influx.Sink) : (Site.empty : Site Float).buildPushing around o sink =
      .ok (⟨0⟩, firstSite around o sink) := by
  rw [Site.buildPushing, executor]
  rfl

/-- Meters and network play no part in whether a loop runs. -/
lemma loops_firstSite (around : Surroundings) (o : PushOptions) (sink : Influx.Sink)
    (hub : Hub Float) (network : Influx.Network) :
    Site.loops { firstSite around o sink with hub, network } ⟨0⟩ = Site.canLoop around o.step := rfl

/-- Three closes, two of which are signalled before the loop looks, come to one push. -/
theorem pushes_once_of_three_closes :
    let events : List (Event Float) := [.change oneCounter .empty, .loop 5, .close, .shutdown,
      .loop 7, .close, .loop 8, .loop 9, .joined]
    let around : Surroundings := .alone true [] 86400000000000
    let o : PushOptions := {}
    around.clock + max (o.step.toNat * 10 ^ 9) (10 ^ 6) + 999999 < 2 ^ 63 * 10 ^ 9 ∧
    ∃ s m, (Site.empty : Site Float).buildPushing around o (.rehearsal [true] []) = .ok (⟨0⟩, s) ∧
      Run ⟨0⟩ (.spawned s) events m ∧ m.handle = .joined ∧ m.handed .last = [oneBatch] ∧
      PushesOnce ⟨0⟩ s events m := by
  intro events around o
  let s := firstSite around o (.rehearsal [true] [])
  have before : around.clock + max (o.step.toNat * 10 ^ 9) (10 ^ 6) + 999999 < 2 ^ 63 * 10 ^ 9 := by
    decide +kernel
  have loops := (loops_firstSite around o (.rehearsal [true] []) oneCounter .empty).trans
    (decide_eq_true before)
  have pushing : Phase.pushing true (Site.rendered _ ⟨0⟩ 7) = .pushing true [oneBatch] :=
    congrArg _ (rendered_oneCounter (max 1 o.batchSize.toNat) (Site.canLoop around o.step)
      (.rehearsal [true] []) .empty)
  have start : Run ⟨0⟩ (.spawned s) [] (.spawned s) := .nil
  have run := start
    |>.snoc (.call (.change oneCounter .empty))
    |>.snoc (.turn (.start 5 rfl loops))
    |>.snoc (.call .close)
    |>.snoc (.call (.shutdown rfl))
    |>.snoc (.turn (.read 7 rfl rfl))
    |>.snoc (.call .close)
    |>.snoc (.turn (.hand 8 pushing))
    |>.snoc (.turn (.finish 9 rfl))
    |>.snoc (.call (.joined rfl rfl))
  have built := @built_firstSite around rfl o (.rehearsal [true] [])
  have promised := (pushes_once_of_clock built).1 before _ _ run
  exact ⟨before, s, _, built, run, rfl, rfl, promised⟩

/-- A step that passes validation but reaches beyond the end of the clock, whatever the clock shows:
nothing is pushed when the backend is shut down. -/
theorem not_pushes_once_of_long_step :
    let o : PushOptions := { step := 18446744073709551615 }
    (show Options from { backend := .influxDb o }).validate = .ok () ∧
    ∀ clock, ∃ s m, (Site.empty : Site Float).buildPushing (.alone true [] clock) o
        (.rehearsal [] []) = .ok (⟨0⟩, s) ∧
      Run ⟨0⟩ (.spawned s) [.change oneCounter .empty, .shutdown, .loop 7, .joined] m ∧
      m.handle = .joined ∧ m.site.rendered ⟨0⟩ 7 = [oneBatch] ∧ m.log = [] := by
  intro o
  refine ⟨by decide +kernel, fun clock => ?_⟩
  let around : Surroundings := .alone true [] clock
  let s := firstSite around o (.rehearsal [] [])
  have pause : 2 ^ 63 * 1000000000 ≤ Site.pause o.step := by decide +kernel
  have beyond : ¬ around.clock + Site.pause o.step + 999999 < 2 ^ 63 * 1000000000 := by omega
  have loops := (loops_firstSite around o (.rehearsal [] []) oneCounter .empty).trans
    (decide_eq_false beyond)
  have start : Run ⟨0⟩ (.spawned s) [] (.spawned s) := .nil
  have run := start
    |>.snoc (.call (.change oneCounter .empty))
    |>.snoc (.call (.shutdown rfl))
    |>.snoc (.turn (.fail 7 rfl loops))
    |>.snoc (.call (.joined rfl rfl))
  exact ⟨s, _, built_firstSite rfl o _, run, rfl, rendered_oneCounter _ _ _ _, rfl⟩

end PushLoop

end Metering
