import Metering.Proofs.Influx.Publication

/-!
# The loop of a pushing backend

The loop waits for its time to push, or for a signal that the backend is closed; after the signal
it pushes once more and ends. What it does (`Turn`) goes on step by step between what others do
(`Call`): meters change, lines are flushed, the backend is closed or shut down. Shutting down waits
for the loop to end, the first time. Over a run of such steps (`Run`) the account of the loop
(`Account`) tells what it has handed over so far and how many steps are left to it.
-/

namespace Metering

namespace Site

variable {α : Type} {s : Site α} {b : BackendRef}

/-- Whether the loop of a pushing backend can run and has not ended. -/
def loops (s : Site α) (b : BackendRef) : Bool :=
  match s.backend? b with
  | some (.pushing _ _ looping _) => looping
  | _ => false

/-- The site after the loop of a pushing backend has ended. -/
def stopLoop (s : Site α) (b : BackendRef) : Site α :=
  match s.backend? b with
  | some (.pushing registry size _ sink) => s.setBackend b (.pushing registry size false sink)
  | _ => s

/-- Handing over a batch does not end a loop. -/
lemma loops_handOver (s : Site α) (b : BackendRef) (batch : List String) :
    (s.handOver b batch).2.loops b = s.loops b := by
  cases backend : s.backend? b with
  | none => simp only [handOver, backend]
  | some entry =>
    cases entry with
    | pushing registry size looping sink =>
      obtain ⟨sink', backend'⟩ := (keeps_handOver s b batch).own backend
      simp only [loops, backend, backend']
    | scraped => simp only [handOver, backend]
    | disabled => simp only [handOver, backend]

variable [Amount α]

/-- The batches that a pushing backend would hand over now. -/
def rendered (s : Site α) (b : BackendRef) (timestamp : Int) : List (List String) :=
  match s.backend? b with
  | some (.pushing registry size _ _) => s.batches registry size timestamp
  | _ => []

/-- Hands over batches one after another. -/
def handOverAll (s : Site α) (b : BackendRef) (batches : List (List String)) : Site α :=
  batches.foldl (fun s batch => (s.handOver b batch).2) s

omit [Amount α] in
/-- Writing all batches hands over all of them. -/
lemma writeAll_snd (s : Site α) (b : BackendRef) (batches : List (List String)) :
    (Influx.writeAll (fun batch s => s.handOver b batch) batches s).2 =
      s.handOverAll b batches := by
  induction batches generalizing s with
  | nil => rfl
  | cons batch batches ih => exact ih (s.handOver b batch).2

/-- Publishing hands over what is rendered. -/
lemma publish_rendered (s : Site α) (b : BackendRef) (timestamp : Int) :
    (s.publish b timestamp).2 = s.handOverAll b (s.rendered b timestamp) := by
  cases backend : s.backend? b with
  | none => simp only [publish, rendered, backend]; rfl
  | some entry =>
    cases entry with
    | pushing registry size looping sink =>
      rw [publish_eq backend, writeAll_snd, rendered, backend]
    | scraped => simp only [publish, rendered, backend]; rfl
    | disabled => simp only [publish, rendered, backend]; rfl

/-- A loop that runs is closed by one more publication. -/
lemma close_eq (loops : s.loops b = true) (timestamp : Int) :
    s.close b timestamp = (s.handOverAll b (s.rendered b timestamp)).stopLoop b := by
  rw [← publish_rendered]
  cases backend : s.backend? b with
  | none => simp only [Site.loops, backend, Bool.false_eq_true] at loops
  | some entry =>
    cases entry with
    | pushing registry size looping sink =>
      simp only [Site.loops, backend] at loops
      subst loops
      simp only [close, endLoop, backend]
      rfl
    | scraped => simp only [Site.loops, backend, Bool.false_eq_true] at loops
    | disabled => simp only [Site.loops, backend, Bool.false_eq_true] at loops

end Site

namespace PushLoop

variable {α : Type}

/-! ## Signals -/

/-- The signals to a loop: how many were sent, and up to which one the loop has read. Only the
latest one is kept. -/
structure Signals where
  sent : Nat
  read : Nat
  deriving DecidableEq, Repr

namespace Signals

/-- What reading finds: the next signal, or that signals were missed, the latest one apart. -/
inductive Found where
  | next
  | missed (number : Nat)
  deriving DecidableEq, Repr

def send (c : Signals) : Signals := { c with sent := c.sent + 1 }

/-- Reads on, if there is anything to read. -/
def read? (c : Signals) : Option (Found × Signals) :=
  if c.sent ≤ c.read then none
  else if c.sent = c.read + 1 then some (.next, { c with read := c.sent })
  else some (.missed (c.sent - 1 - c.read), { c with read := c.sent - 1 })

/-- Missed signals wake the reader as well as the next one does. -/
lemma isSome_read? (c : Signals) : c.read?.isSome = decide (c.read < c.sent) := by
  unfold read?
  split
  case isTrue none => exact (decide_eq_false (by omega)).symm
  case isFalse some =>
    rw [decide_eq_true (by omega)]
    split <;> rfl

end Signals

/-! ## States -/

/-- How far a loop has come. -/
inductive Phase where
  /-- It has not begun. -/
  | spawned
  /-- It has broken down at its beginning. -/
  | failed
  | waiting
  /-- It is handing over the batches of a push, the last push or another one. -/
  | pushing (last : Bool) (rest : List (List String))
  | ended
  deriving DecidableEq, Repr

/-- Who waits for the end of a loop. -/
inductive Handle where
  /-- Nobody yet. -/
  | kept
  /-- The first one who shuts the backend down. -/
  | awaited
  /-- Nobody any more: the first shutdown is over. -/
  | joined
  deriving DecidableEq, Repr

/-- Who hands over a batch: one of the flushes, or the loop in a push at its time or the last one. -/
inductive Source where
  | flush (number : Nat)
  | periodic
  | last
  deriving DecidableEq, Repr

/-- A site with what goes on at one of its pushing backends. -/
structure State (α : Type) where
  site : Site α
  signals : Signals
  phase : Phase
  handle : Handle
  /-- What is left of the flushes, in the order in which they began. -/
  flushes : List (List (List String))
  /-- All batches that were handed over, the first one first. -/
  log : List (Source × List String)

namespace Phase

/-- Whether the loop does nothing any more. -/
def isOver : Phase → Bool
  | failed => true
  | ended => true
  | _ => false

/-- Whether the loop has been told to end. -/
def isLast : Phase → Bool
  | pushing last _ => last
  | ended => true
  | _ => false

/-- The batches that are left of a push. -/
def rest : Phase → List (List String)
  | pushing _ batches => batches
  | _ => []

/-- The steps that a loop has yet to take, without those that hand over a batch. -/
def left : Phase → Nat
  | spawned => 3
  | failed => 2
  | waiting => 2
  | pushing false _ => 3
  | pushing true _ => 1
  | ended => 0

end Phase

namespace State

/-- The state in which a backend is built. -/
def spawned (s : Site α) : State α := ⟨s, ⟨0, 0⟩, .spawned, .kept, [], []⟩

/-- The state after a signal, which is lost if the loop is over. -/
def signalled (m : State α) : State α :=
  if m.phase.isOver then m else { m with signals := m.signals.send }

/-- The state after a batch is handed over. -/
def hand (m : State α) (b : BackendRef) (source : Source) (batch : List String) : State α :=
  { m with site := (m.site.handOver b batch).2, log := m.log ++ [(source, batch)] }

/-- The batches that come from one source. -/
def handed (m : State α) (source : Source) : List (List String) :=
  (m.log.filter (·.1 = source)).map Prod.snd

/-- A batch is handed over behind the others of its source. -/
lemma handed_hand (m : State α) (b : BackendRef) (source : Source) (batch : List String) :
    (m.hand b source batch).handed source = m.handed source ++ [batch] := by
  rw [handed, hand, List.filter_append, List.map_append]
  simp [handed]

/-- A batch is handed over by one source only. -/
lemma handed_hand_of_ne (m : State α) (b : BackendRef) {source source' : Source}
    (other : source ≠ source') (batch : List String) :
    (m.hand b source batch).handed source' = m.handed source' := by
  rw [handed, hand, List.filter_append, List.map_append]
  simp [handed, other]

/-- What the log holds was handed over by its source. -/
lemma mem_handed {m : State α} {entry : Source × List String} (mem : entry ∈ m.log) :
    entry.2 ∈ m.handed entry.1 :=
  List.mem_map_of_mem (List.mem_filter.2 ⟨mem, decide_eq_true rfl⟩)

/-- A signal leaves the phase of the loop. -/
lemma phase_signalled (m : State α) : m.signalled.phase = m.phase := by
  unfold signalled
  split <;> rfl

/-- A signal leaves the site. -/
lemma site_signalled (m : State α) : m.signalled.site = m.site := by
  unfold signalled
  split <;> rfl

/-- A signal leaves the log. -/
lemma log_signalled (m : State α) : m.signalled.log = m.log := by
  unfold signalled
  split <;> rfl

end State

/-! ## Steps -/

/-- What can happen at a pushing backend. Whoever pushes reads the clock. -/
inductive Event (α : Type) where
  /-- Meters are registered or updated, and the databases change in any way. -/
  | change (hub : Hub α) (network : Influx.Network)
  | flush (timestamp : Int)
  /-- A flush goes on by a batch. -/
  | write (number : Nat)
  | close
  | shutdown
  /-- The first shutdown returns. Others do so at once. -/
  | joined
  /-- The loop goes on by a step, but not because it is time to push. -/
  | loop (timestamp : Int)
  /-- It is time to push. -/
  | tick (timestamp : Int)

namespace Event

def closes : Event α → Bool
  | close => true
  | shutdown => true
  | _ => false

def isLoop : Event α → Bool
  | loop _ => true
  | _ => false

def isTick : Event α → Bool
  | tick _ => true
  | _ => false

end Event

variable [Amount α]

/-- What others than the loop do. -/
inductive Call (b : BackendRef) (m : State α) : Event α → State α → Prop where
  | change (hub : Hub α) (network : Influx.Network) :
    Call b m (.change hub network) { m with site := { m.site with hub, network } }
  | flush (timestamp : Int) :
    Call b m (.flush timestamp) { m with flushes := m.flushes ++ [m.site.rendered b timestamp] }
  | write {number : Nat} {batch : List String} {rest : List (List String)}
    (next : m.flushes[number]? = some (batch :: rest)) :
    Call b m (.write number)
      { m.hand b (.flush number) batch with flushes := m.flushes.set number rest }
  | close : Call b m .close m.signalled
  | shutdown (first : m.handle = .kept) :
    Call b m .shutdown { m.signalled with handle := .awaited }
  | shutdownAgain (later : m.handle ≠ .kept) : Call b m .shutdown m.signalled
  | joined (awaited : m.handle = .awaited) (finished : m.phase.isOver = true) :
    Call b m .joined { m with handle := .joined }

/-- What the loop does. -/
inductive Turn (b : BackendRef) (m : State α) : Event α → State α → Prop where
  | start (timestamp : Int) (spawned : m.phase = .spawned) (loops : m.site.loops b = true) :
    Turn b m (.loop timestamp) { m with phase := .waiting }
  | fail (timestamp : Int) (spawned : m.phase = .spawned) (loops : m.site.loops b = false) :
    Turn b m (.loop timestamp) { m with phase := .failed }
  | read (timestamp : Int) {found : Signals.Found} {signals : Signals}
    (waiting : m.phase = .waiting) (read : m.signals.read? = some (found, signals)) :
    Turn b m (.loop timestamp)
      { m with signals, phase := .pushing true (m.site.rendered b timestamp) }
  | tick (timestamp : Int) (waiting : m.phase = .waiting) :
    Turn b m (.tick timestamp) { m with phase := .pushing false (m.site.rendered b timestamp) }
  | hand (timestamp : Int) {last : Bool} {batch : List String} {rest : List (List String)}
    (pushing : m.phase = .pushing last (batch :: rest)) :
    Turn b m (.loop timestamp)
      { m.hand b (if last then .last else .periodic) batch with phase := .pushing last rest }
  | wait (timestamp : Int) (pushing : m.phase = .pushing false []) :
    Turn b m (.loop timestamp) { m with phase := .waiting }
  | finish (timestamp : Int) (pushing : m.phase = .pushing true []) :
    Turn b m (.loop timestamp) { m with site := m.site.stopLoop b, phase := .ended }

/-- One step at a backend. -/
inductive Step (b : BackendRef) (m : State α) (e : Event α) (m' : State α) : Prop where
  | call (call : Call b m e m')
  | turn (turn : Turn b m e m')

/-- Steps in a row. -/
inductive Run (b : BackendRef) (m : State α) : List (Event α) → State α → Prop where
  | nil : Run b m [] m
  | snoc {events : List (Event α)} {m' m'' : State α} {e : Event α} (run : Run b m events m')
    (step : Step b m' e m'') : Run b m (events ++ [e]) m''

namespace Run

variable {b : BackendRef} {m m' m'' : State α} {e : Event α} {events events' : List (Event α)}

/-- A step is a run. -/
lemma single (step : Step b m e m') : Run b m [e] m' :=
  Run.nil.snoc step

/-- Runs are put together. -/
lemma trans (run : Run b m events m') (run' : Run b m' events' m'') :
    Run b m (events ++ events') m'' := by
  induction run' with
  | nil =>
    rw [List.append_nil]
    exact run
  | snoc _ step ih =>
    rw [← List.append_assoc]
    exact ih.snoc step

end Run

/-! ## What others leave alone -/

section Call

variable {b : BackendRef} {m m' : State α} {e : Event α}

/-- Calls leave the phase of the loop. -/
lemma Call.phase (call : Call b m e m') : m'.phase = m.phase := by
  cases call with
  | close => exact m.phase_signalled
  | shutdown => exact m.phase_signalled
  | shutdownAgain => exact m.phase_signalled
  | _ => rfl

/-- Calls leave the loop running. -/
lemma Call.loops (call : Call b m e m') : m'.site.loops b = m.site.loops b := by
  cases call with
  | write next => exact m.site.loops_handOver b _
  | close => rw [m.site_signalled]
  | shutdown => exact congrArg (·.loops b) m.site_signalled
  | shutdownAgain => rw [m.site_signalled]
  | _ => rfl

/-- Calls hand over batches of flushes only. -/
lemma Call.handed (call : Call b m e m') {source : Source} (own : ∀ n, source ≠ .flush n) :
    m'.handed source = m.handed source := by
  have signalled : m.signalled.handed source = m.handed source := by
    rw [State.handed, m.log_signalled, State.handed]
  cases call with
  | write next => exact m.handed_hand_of_ne b (own _).symm _
  | close => exact signalled
  | shutdown => exact signalled
  | shutdownAgain => exact signalled
  | _ => rfl

/-- Calls hand over nothing of the last push. -/
lemma Call.last (call : Call b m e m') : m'.handed .last = m.handed .last :=
  call.handed fun _ => Source.noConfusion

/-- Calls hand over nothing that is periodic. -/
lemma Call.periodic (call : Call b m e m') : m'.handed .periodic = m.handed .periodic :=
  call.handed fun _ => Source.noConfusion

/-- A close is signalled to a loop that is not over. -/
lemma Call.signals (call : Call b m e m') (on : m.phase.isOver = false) :
    m'.signals = ⟨m.signals.sent + if e.closes then 1 else 0, m.signals.read⟩ := by
  have signalled : m.signalled.signals = m.signals.send := by
    rw [State.signalled, on]
    rfl
  cases call with
  | close => exact signalled
  | shutdown => exact signalled
  | shutdownAgain => exact signalled
  | _ => rfl

/-- A shutdown joins a loop that is over only. -/
lemma Call.finished (call : Call b m e m') (joined : m'.handle = .joined) :
    m.handle = .joined ∨ m.phase.isOver = true := by
  have signalled : m.signalled.handle = m.handle := by
    unfold State.signalled
    split <;> rfl
  cases call with
  | close => exact .inl (signalled ▸ joined)
  | shutdown => cases joined
  | shutdownAgain => exact .inl (signalled ▸ joined)
  | joined _ finished => exact .inr finished
  | _ => exact .inl joined

/-- A call is no turn of the loop. -/
lemma Call.not_loop (call : Call b m e m') : e.isLoop = false := by
  cases call <;> rfl

/-- A call is no time to push. -/
lemma Call.not_tick (call : Call b m e m') : e.isTick = false := by
  cases call <;> rfl

/-- A turn leaves the handle. -/
lemma Turn.handle (turn : Turn b m e m') : m'.handle = m.handle := by
  cases turn <;> rfl

/-- A turn closes nothing. -/
lemma Turn.not_closes (turn : Turn b m e m') : e.closes = false := by
  cases turn <;> rfl

/-- A loop that is over takes no turn. -/
lemma Turn.not_over (turn : Turn b m e m') : m.phase.isOver = false := by
  cases turn with
  | start _ phase => rw [phase]; rfl
  | fail _ phase => rw [phase]; rfl
  | read _ phase => rw [phase]; rfl
  | tick _ phase => rw [phase]; rfl
  | hand _ phase => rw [phase]; rfl
  | wait _ phase => rw [phase]; rfl
  | finish _ phase => rw [phase]; rfl

/-- A turn leaves the loop running unless it ends it. -/
lemma Turn.loops (turn : Turn b m e m') (on : m'.phase ≠ .ended) :
    m'.site.loops b = m.site.loops b := by
  cases turn with
  | hand => exact m.site.loops_handOver b _
  | finish => exact absurd rfl on
  | _ => rfl

/-- A loop fails when it begins if it cannot run, and never later. -/
lemma Turn.begun (turn : Turn b m e m') :
    m'.phase ≠ .spawned ∧ if m.phase = .spawned then m'.phase = .failed ↔ m.site.loops b = false
      else m.phase ≠ .failed ∧ m'.phase ≠ .failed := by
  cases turn with
  | start _ phase loops => simp [phase, loops]
  | fail _ phase loops => simp [phase, loops]
  | read _ phase => simp [phase]
  | tick _ phase => simp [phase]
  | hand _ phase => simp [phase]
  | wait _ phase => simp [phase]
  | finish _ phase => simp [phase]

/-- Before the last push a turn reads no signal and hands over nothing of that push. -/
lemma Turn.early (turn : Turn b m e m') (early : m'.phase.isLast = false) :
    m.phase.isLast = false ∧ m'.handed .last = m.handed .last ∧ m'.signals = m.signals := by
  cases turn with
  | start _ phase => exact ⟨by rw [phase]; rfl, rfl, rfl⟩
  | fail _ phase => exact ⟨by rw [phase]; rfl, rfl, rfl⟩
  | tick _ phase => exact ⟨by rw [phase]; rfl, rfl, rfl⟩
  | wait _ phase => exact ⟨by rw [phase]; rfl, rfl, rfl⟩
  | read => cases early
  | finish => cases early
  | @hand _ last batch rest phase =>
    cases last with
    | true => cases early
    | false => exact ⟨by rw [phase]; rfl, m.handed_hand_of_ne b (by decide) batch, rfl⟩

/-- A loop that has been told to end either was before, and goes on with the same batches, or has
just read the signal. -/
lemma Turn.late (turn : Turn b m e m') (late : m'.phase.isLast = true) :
    (m.phase.isLast = true ∧
      m'.handed .last ++ m'.phase.rest = m.handed .last ++ m.phase.rest) ∨
    ∃ timestamp, e = .loop timestamp ∧ m.phase = .waiting ∧ m.signals.read?.isSome ∧
      m'.handed .last = m.handed .last ∧ m'.phase.rest = m.site.rendered b timestamp := by
  cases turn with
  | read timestamp phase read =>
    exact .inr ⟨timestamp, rfl, phase, by rw [read]; rfl, rfl, rfl⟩
  | @hand _ last batch rest phase =>
    have last : last = true := late
    subst last
    refine .inl ⟨by rw [phase]; rfl, ?_⟩
    calc _ = (m.hand b .last batch).handed .last ++ rest := rfl
      _ = m.handed .last ++ (batch :: rest) := by rw [m.handed_hand, List.append_assoc]; rfl
      _ = _ := by rw [phase]; rfl
  | finish _ phase =>
    refine .inl ⟨by rw [phase]; rfl, ?_⟩
    rw [phase]
    rfl
  | _ => cases late

/-- What is counted when the loop takes a step. -/
lemma Turn.steps (turn : Turn b m e m') :
    (if e.isLoop then 1 else 0) + m'.phase.left + (m.handed .periodic).length +
        (m.handed .last).length =
      m.phase.left + (if e.isTick then 1 else 0) + (m'.handed .periodic).length +
        (m'.handed .last).length := by
  -- only handing over changes what is handed over; the other turns have fixed numbers of steps left
  cases turn with
  | start _ phase => rw [phase]; rfl
  | fail _ phase => rw [phase]; rfl
  | read _ phase => rw [phase]; rfl
  | tick _ phase => rw [phase]; rfl
  | wait _ phase => rw [phase]; rfl
  | finish _ phase => rw [phase]; rfl
  | @hand _ last batch rest phase =>
    rw [phase]
    cases last with
    | false =>
      have periodic := m.handed_hand b .periodic batch
      have last : (m.hand b .periodic batch).handed .last = m.handed .last :=
        m.handed_hand_of_ne b (by decide) batch
      change 1 + 3 + (m.handed .periodic).length + (m.handed .last).length =
        3 + 0 + ((m.hand b .periodic batch).handed .periodic).length +
          ((m.hand b .periodic batch).handed .last).length
      rw [periodic, last, List.length_append, List.length_singleton]
      omega
    | true =>
      have periodic : (m.hand b .last batch).handed .periodic = m.handed .periodic :=
        m.handed_hand_of_ne b (by decide) batch
      have last := m.handed_hand b .last batch
      change 1 + 1 + (m.handed .periodic).length + (m.handed .last).length =
        1 + 0 + ((m.hand b .last batch).handed .periodic).length +
          ((m.hand b .last batch).handed .last).length
      rw [periodic, last, List.length_append, List.length_singleton]
      omega

/-- What is pushed periodically is pushed since some time to push came while the loop waited. -/
lemma Turn.ticked (turn : Turn b m e m')
    (ticked : m'.handed .periodic ≠ [] ∨ ∃ rest, m'.phase = .pushing false rest) :
    (e.isTick = true ∧ m.phase = .waiting) ∨
      m.handed .periodic ≠ [] ∨ ∃ rest, m.phase = .pushing false rest := by
  cases turn with
  | tick _ waiting => exact .inl ⟨rfl, waiting⟩
  | @hand _ last batch rest phase =>
    cases last with
    | false => exact .inr (.inr ⟨_, phase⟩)
    | true =>
      refine .inr (.inl ?_)
      rcases ticked with handed | ⟨_, phase'⟩
      · exact fun none => handed ((m.handed_hand_of_ne b (by decide) batch).trans none)
      · cases phase'
  | _ =>
    refine .inr (ticked.imp_right ?_)
    rintro ⟨_, phase'⟩
    cases phase'

end Call

/-! ## The account of a run -/

/-- The batches that are rendered when the loop reads a signal, in a run from one state to another. -/
def RenderedLast (b : BackendRef) (m₀ : State α) (events : List (Event α)) (m : State α)
    (batches : List (List String)) : Prop :=
  ∃ before timestamp after m', events = before ++ .loop timestamp :: after ∧ Run b m₀ before m' ∧
    Run b m' (.loop timestamp :: after) m ∧ m'.phase = .waiting ∧
    (∃ e ∈ before, e.closes = true) ∧ m'.site.rendered b timestamp = batches

/-- How far the loop of a backend has come after a run, and what it has handed over so far. -/
structure Account (b : BackendRef) (s : Site α) (events : List (Event α)) (m : State α) : Prop where
  run : Run b (.spawned s) events m
  loops : m.phase ≠ .ended → m.site.loops b = s.loops b
  begun : m.phase ≠ .spawned → (m.phase = .failed ↔ s.loops b = false)
  signals : m.phase.isLast = false → m.phase.isOver = false →
    m.signals = ⟨events.countP Event.closes, 0⟩
  early : m.phase.isLast = false → m.handed .last = []
  late : m.phase.isLast = true → RenderedLast b (.spawned s) events m
    (m.handed .last ++ m.phase.rest)
  /-- Every step of the loop but for three hands over a batch or ends a push at its time. -/
  steps : events.countP Event.isLoop + m.phase.left =
    3 + events.countP Event.isTick + (m.handed .periodic).length + (m.handed .last).length
  ticked : m.handed .periodic ≠ [] ∨ (∃ rest, m.phase = .pushing false rest) →
    (∃ e ∈ events, e.isTick = true) ∧ s.loops b = true
  joined : m.handle = .joined → m.phase.isOver = true

/-- What was rendered for the last push stays so over further steps. -/
lemma RenderedLast.snoc {b : BackendRef} {m₀ m m' : State α} {e : Event α}
    {events : List (Event α)} {batches : List (List String)}
    (rendered : RenderedLast b m₀ events m batches) (step : Step b m e m') :
    RenderedLast b m₀ (events ++ [e]) m' batches := by
  obtain ⟨before, timestamp, after, there, rfl, run, run', waiting, closed, eq⟩ := rendered
  refine ⟨before, timestamp, after ++ [e], there, ?_, run, run'.snoc step, waiting, closed, eq⟩
  rw [List.append_assoc, List.cons_append]

namespace Account

variable {b : BackendRef} {s : Site α} {m m' : State α} {e : Event α} {events : List (Event α)}

/-- The account of a loop that is spawned. -/
lemma spawned (b : BackendRef) (s : Site α) : Account b s [] (.spawned s) where
  run := .nil
  loops _ := rfl
  begun on := absurd rfl on
  signals _ _ := rfl
  early _ := rfl
  late last := nomatch last
  steps := rfl
  ticked := by
    rintro (handed | ⟨rest, phase⟩)
    · exact absurd rfl handed
    · cases phase
  joined joined := nomatch joined

/-- An account goes on over calls. -/
lemma call (account : Account b s events m) (call : Call b m e m') :
    Account b s (events ++ [e]) m' where
  run := account.run.snoc (.call call)
  loops on := call.loops.trans (account.loops (call.phase ▸ on))
  begun on := by
    rw [call.phase] at on ⊢
    exact account.begun on
  signals last running := by
    rw [call.phase] at last running
    rw [call.signals running, account.signals last running, List.countP_append, List.countP_singleton]
  early last := call.last.trans (account.early (call.phase ▸ last))
  late last := by
    rw [call.last, call.phase]
    exact (account.late (call.phase ▸ last)).snoc (.call call)
  steps := by
    rw [call.last, call.periodic, call.phase, List.countP_append, List.countP_append,
      List.countP_singleton, List.countP_singleton, call.not_loop, call.not_tick]
    exact account.steps
  ticked ticked := by
    rw [call.periodic, call.phase] at ticked
    obtain ⟨⟨e, mem, tick⟩, loops⟩ := account.ticked ticked
    exact ⟨⟨e, List.mem_append_left _ mem, tick⟩, loops⟩
  joined joined := by
    rw [call.phase]
    exact (call.finished joined).elim account.joined id

/-- An account goes on over turns. -/
lemma turn (account : Account b s events m) (turn : Turn b m e m') :
    Account b s (events ++ [e]) m' where
  run := account.run.snoc (.turn turn)
  loops on := by
    have on' : m.phase ≠ .ended := fun ended => by simpa [ended, Phase.isOver] using turn.not_over
    exact (turn.loops on).trans (account.loops on')
  begun _ := by
    obtain ⟨-, begun⟩ := turn.begun
    split at begun
    case isTrue spawned => rwa [account.loops (by rw [spawned]; nofun)] at begun
    case isFalse on =>
      exact ⟨fun failed => absurd failed begun.2, fun dead =>
        absurd ((account.begun on).2 dead) begun.1⟩
  signals last _ := by
    obtain ⟨last', -, same⟩ := turn.early last
    rw [same, account.signals last' turn.not_over, List.countP_append, List.countP_singleton,
      turn.not_closes]
    rfl
  early last := by
    obtain ⟨last', same, -⟩ := turn.early last
    exact same.trans (account.early last')
  late last := by
    rcases turn.late last with ⟨last', same⟩ | ⟨timestamp, rfl, waiting, found, same, rest⟩
    · rw [same]
      exact (account.late last').snoc (.turn turn)
    · -- the signal comes from a close before
      have last' : m.phase.isLast = false := by rw [waiting]; rfl
      rw [Signals.isSome_read?, account.signals last' turn.not_over] at found
      have closed : ∃ e ∈ events, e.closes = true :=
        List.countP_pos_iff.1 (of_decide_eq_true found)
      rw [same, account.early last', List.nil_append, rest]
      exact ⟨events, timestamp, [], m, rfl, account.run, .single (.turn turn), waiting, closed, rfl⟩
  -- the turn adds as much on the one side as on the other
  steps := by
    have before := account.steps
    have step := turn.steps
    rw [List.countP_append, List.countP_append, List.countP_singleton, List.countP_singleton]
    omega
  ticked ticked := by
    rcases turn.ticked ticked with ⟨tick, waiting⟩ | ticked'
    · refine ⟨⟨e, List.mem_append_right _ (List.mem_singleton_self e), tick⟩, ?_⟩
      have begun := account.begun (by rw [waiting]; nofun)
      rw [waiting] at begun
      exact Bool.eq_true_of_not_eq_false fun dead => nomatch begun.2 dead
    · obtain ⟨⟨e', mem, tick⟩, loops⟩ := account.ticked ticked'
      exact ⟨⟨e', List.mem_append_left _ mem, tick⟩, loops⟩
  joined joined := by
    rw [turn.handle] at joined
    exact absurd (account.joined joined) (Bool.eq_false_iff.1 turn.not_over)

end Account

/-- By induction on the run: every run from the spawned loop has its account. -/
lemma Run.account {b : BackendRef} {s : Site α} {events : List (Event α)} {m : State α}
    (run : Run b (.spawned s) events m) : Account b s events m := by
  induction run with
  | nil => exact .spawned b s
  | snoc _ step ih =>
    cases step with
    | call call => exact ih.call call
    | turn turn => exact ih.turn turn

end PushLoop

end Metering
