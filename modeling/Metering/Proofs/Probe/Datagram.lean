import Mathlib.Logic.Function.Basic
import Metering.Proofs.Hub.Summary
import Metering.Proofs.Probe.Account
import Metering.Proofs.Probe.Report

/-!
# Accounts of datagram sockets

Any number of datagram sockets, in any number of scopes over one store, that may report again and
again on which address they listen. What a socket reads counts for the address that it has reported
last by then, and for none before it has reported one; what is sent and what fails counts for all
sockets together (`accounts_of_datagrams`).
-/

namespace Metering.DatagramSocket

/-- A datagram socket of a scope. -/
structure Handle where
  scope : Nat
  number : Nat
  deriving DecidableEq, Repr

/-- What can happen to a datagram socket. -/
inductive Act where
  /-- It listens on an address from now on. -/
  | listening (host : Option String) (port : UInt16)
  | event (event : Event)
  deriving DecidableEq, Repr

structure Occurrence where
  socket : Handle
  act : Act
  deriving DecidableEq, Repr

/-- How far a run has come. -/
structure State where
  sockets : Handle → DatagramSocket
  hub : Hub ℚ

namespace State

/-- Over an empty store no socket listens at first. -/
def start : State := ⟨fun socket => new ⟨socket.scope, Hub.store⟩, Hub.ofStore⟩

def step (s : State) (x : Occurrence) : State :=
  match x.act with
  | .listening host port =>
    { s with
      sockets := Function.update s.sockets x.socket ((s.sockets x.socket).listening host port) }
  | .event event => { s with hub := s.hub.perform (event.touches (s.sockets x.socket)) }

end State

def run (xs : List Occurrence) : State := xs.foldl State.step State.start

/-! ## What a run reports -/

/-- The address on which a socket listens from now on. -/
def Act.address? : Act → Option String
  | listening host port => some (Label.ofAddress host port)
  | event _ => none

/-- The address that a socket has reported last in a run. -/
def latest? (socket : Handle) (xs : List Occurrence) : Option String :=
  ((xs.filter fun x => x.socket = socket).filterMap fun x => x.act.address?).getLast?

/-- An event in some scope, and the address that its socket has reported last before it. -/
structure Moment where
  scope : Nat
  address : Option String
  event : Event
  deriving DecidableEq, Repr

/-- The moment of an occurrence after a run. -/
def Occurrence.moment? (before : List Occurrence) (x : Occurrence) : Option Moment :=
  match x.act with
  | .listening _ _ => none
  | .event event => some ⟨x.socket.scope, latest? x.socket before, event⟩

/-- The events of a run in their order. -/
def moments (xs : List Occurrence) : List Moment :=
  xs.zipIdx.filterMap fun (x, i) => x.moment? (xs.take i)

namespace Moment

/-- The bytes that are read by a socket whose last address is the given one. -/
def readAt? (address : String) (m : Moment) : Option ℕ :=
  match m.event with
  | .bytesRead bytes => if m.address = some address then some bytes.toNat else none
  | _ => none

/-- The bytes that are sent. -/
def sent? (m : Moment) : Option ℕ :=
  match m.event with
  | .bytesWritten bytes => some bytes.toNat
  | _ => none

/-- Whether an error of some class occurs. -/
def failsAs (errorClass : String) (m : Moment) : Bool :=
  match m.event with
  | .failed class' => class' = errorClass
  | _ => false

end Moment

/-- The bytes of all reads by sockets whose last address was the given one. -/
def reads (address : String) (xs : List Occurrence) : List ℕ :=
  (moments xs).filterMap (Moment.readAt? address)

/-- The bytes of all writes. -/
def writes (xs : List Occurrence) : List ℕ :=
  (moments xs).filterMap Moment.sent?

/-- The number of errors of some class. -/
def failures (errorClass : String) (xs : List Occurrence) : ℕ :=
  (moments xs).countP (Moment.failsAs errorClass)

/-! ## Runs that grow -/

variable {xs : List Occurrence} {x : Occurrence}

/-- A run takes its last occurrence last. -/
lemma run_concat (xs : List Occurrence) (x : Occurrence) : run (xs ++ [x]) = (run xs).step x :=
  List.foldl_append ..

/-- The latest address is the last one that the socket got. -/
lemma latest?_concat (socket : Handle) (xs : List Occurrence) (x : Occurrence) :
    latest? socket (xs ++ [x]) =
      if x.socket = socket then x.act.address?.or (latest? socket xs) else latest? socket xs := by
  by_cases same : x.socket = socket
  · rw [if_pos same]
    cases address : x.act.address? <;> simp [latest?, List.filter_append, same, address]
  · rw [if_neg same]
    simp [latest?, List.filter_append, same]

/-- What was reported before stays as it is. -/
lemma moments_concat (xs : List Occurrence) (x : Occurrence) :
    moments (xs ++ [x]) = moments xs ++ (x.moment? xs).toList := by
  have earlier : xs.zipIdx.filterMap (fun (y, i) => y.moment? ((xs ++ [x]).take i)) =
      moments xs := by
    refine List.filterMap_congr fun ⟨y, i⟩ mem => ?_
    have before : i ≤ xs.length := by
      have := (List.mem_zipIdx mem).2.1
      omega
    exact congrArg (y.moment? ·) (List.take_append_of_le_length before)
  have last : (xs ++ [x]).take xs.length = xs := List.take_left' rfl
  rw [moments, List.zipIdx_append, List.filterMap_append, earlier]
  cases moment : x.moment? xs <;> simp [last, moment]

/-- Each socket listens on the address that it has reported last. -/
lemma sockets_run (xs : List Occurrence) (socket : Handle) :
    (run xs).sockets socket = ⟨⟨socket.scope, Hub.store⟩, latest? socket xs⟩ := by
  induction xs using List.reverseRecOn with
  | nil => rfl
  | append_singleton xs x ih =>
    obtain ⟨socket', act⟩ := x
    rw [run_concat, latest?_concat]
    cases act with
    | event event =>
      refine ih.trans ?_
      split <;> rfl
    | listening host port =>
      by_cases same : socket' = socket
      · subst same
        rw [if_pos rfl]
        change Function.update _ _ _ _ = _
        rw [Function.update_self, ih]
        rfl
      · rw [if_neg same]
        change Function.update _ _ _ _ = _
        rw [Function.update_of_ne (Ne.symm same), ih]

namespace Moment

/-- The touches that follow from an event at that moment. -/
def touches (m : Moment) : List (Touch ℚ) :=
  m.event.touches ⟨⟨m.scope, Hub.store⟩, m.address⟩

end Moment

/-- The hub has seen the events, each where its socket listened. -/
lemma hub_run (xs : List Occurrence) :
    (run xs).hub = Hub.ofStore.perform ((moments xs).flatMap Moment.touches) := by
  induction xs using List.reverseRecOn with
  | nil => rfl
  | append_singleton xs x ih =>
    obtain ⟨socket, act⟩ := x
    rw [run_concat, moments_concat, List.flatMap_append, Hub.perform, List.foldl_append]
    cases act with
    | listening host port => exact ih
    | event event =>
      change Hub.perform (run xs).hub (event.touches ((run xs).sockets socket)) = _
      rw [ih, sockets_run]
      simp [Hub.perform, Occurrence.moment?, Moment.touches]

/-! ## What an event adds -/

section Gains

/-- All touches are of the catalogue and of the one registry. -/
lemma touches_mem {m : Moment} {t : Touch ℚ} (mem : t ∈ m.touches) :
    t.family ∈ Family.catalogue Hub.store (fun _ => {}) ∧ t.registry ∈ ({Hub.store} : Set _) := by
  obtain ⟨scope, address, event⟩ := m
  have member {template : Template} (of : template ∈ templates) (values : List String)
      (change : Change ℚ) (eq : t = (⟨scope, Hub.store⟩ : Scope).touch template values change) :
      t.family ∈ Family.catalogue Hub.store (fun _ => {}) ∧ t.registry ∈ ({Hub.store} : Set _) := by
    subst eq
    exact ⟨⟨rfl, .datagramSocket, of⟩, rfl⟩
  cases event with
  | bytesRead bytes =>
    cases address with
    | none => cases mem
    | some address => exact member (by simp [templates]) _ _ (List.mem_singleton.1 mem)
  | bytesWritten bytes => exact member (by simp [templates]) _ _ (List.mem_singleton.1 mem)
  | failed errorClass => exact member (by simp [templates]) _ _ (List.mem_singleton.1 mem)

/-- No touch assigns. -/
lemma settled (m : Moment) : ∀ t ∈ m.touches, t.change.isAssign = false :=
  Event.settled _ m.event

section Filter

variable (scope : Nat) (template : Template) (values values' : List String) (change : Change ℚ)

/-- A touch is one of the meter for its own values. -/
lemma filter_touch (size : values.length = template.keys.length)
    (size' : values'.length = template.keys.length) :
    [(⟨scope, Hub.store⟩ : Scope).touch template values change].filter
        (fun t => Hub.store = t.registry ∧ template.meter values' = t.id) =
      if values = values' then [(⟨scope, Hub.store⟩ : Scope).touch template values change]
      else [] := by
  have id :
      ((⟨scope, Hub.store⟩ : Scope).touch template values change).id = template.meter values :=
    Family.id_eq_meter (f := ⟨⟨scope, Hub.store⟩, template⟩) size
  have registry : Hub.store =
      ((⟨scope, Hub.store⟩ : Scope).touch template values change).registry := rfl
  rw [List.filter_singleton, id]
  simp [← registry, Template.meter_eq_iff size'.le size.le, eq_comm (a := values')]

/-- A touch of another template is no touch of the meter. -/
lemma filter_touch_other {template' : Template} (ne : template'.name ≠ template.name) :
    [(⟨scope, Hub.store⟩ : Scope).touch template values change].filter
      (fun t => Hub.store = t.registry ∧ template'.meter values' = t.id) = [] := by
  refine List.filter_eq_nil_iff.2 fun t mem same => ne ?_
  obtain rfl := List.mem_singleton.1 mem
  exact congrArg MeterId.name (of_decide_eq_true same).2

end Filter

/-- The summary of an address records what is read there. -/
lemma records_read (m : Moment) (address : String) :
    List.Forall₂ Touch.Records
      (m.touches.filter fun t => Hub.store = t.registry ∧ bytesReceived.meter [address] = t.id)
      (m.readAt? address).toList := by
  obtain ⟨scope, address', event⟩ := m
  cases event with
  | bytesRead bytes =>
    cases address' with
    | none => exact .nil
    | some address' =>
      simp only [Moment.touches, Event.touches, bytesRead, Moment.readAt?]
      rw [filter_touch scope bytesReceived [address'] [address] _ rfl rfl]
      by_cases same : address' = address
      · subst same
        rw [if_pos rfl, if_pos rfl]
        exact .cons ⟨rfl, rfl⟩ .nil
      · rw [if_neg (by simpa using same), if_neg (by simpa using same)]
        exact .nil
  | bytesWritten bytes =>
    simp only [Moment.touches, Event.touches, bytesWritten, Moment.readAt?]
    rw [filter_touch_other scope bytesSent _ _ _ (by decide)]
    exact .nil
  | failed errorClass =>
    simp only [Moment.touches, Event.touches, failed, Moment.readAt?]
    rw [filter_touch_other scope errors _ _ _ (by decide)]
    exact .nil

/-- One summary records whatever is sent. -/
lemma records_sent (m : Moment) :
    List.Forall₂ Touch.Records
      (m.touches.filter fun t => Hub.store = t.registry ∧ bytesSent.meter [] = t.id)
      m.sent?.toList := by
  obtain ⟨scope, address, event⟩ := m
  cases event with
  | bytesRead bytes =>
    cases address with
    | none => exact .nil
    | some address =>
      simp only [Moment.touches, Event.touches, bytesRead, Moment.sent?]
      rw [filter_touch_other scope bytesReceived _ _ _ (by decide)]
      exact .nil
  | bytesWritten bytes =>
    simp only [Moment.touches, Event.touches, bytesWritten, Moment.sent?]
    rw [filter_touch scope bytesSent [] [] _ rfl rfl]
    exact .cons ⟨rfl, rfl⟩ .nil
  | failed errorClass =>
    simp only [Moment.touches, Event.touches, failed, Moment.sent?]
    rw [filter_touch_other scope errors _ _ _ (by decide)]
    exact .nil

/-- A failure counts once for its class. -/
lemma gain_errors (m : Moment) (errorClass : String) :
    Reading.amount.gainOfAll Hub.store (errors.meter [errorClass]) m.touches =
      if m.failsAs errorClass then 1 else 0 := by
  have other (s : Scope) (template : Template) (ne : errors.name ≠ template.name)
      (values : List String) (change : Change ℚ) :
      Reading.amount.gainOf Hub.store (errors.meter [errorClass]) (s.touch template values change) =
        0 :=
    Reading.amount.gainOf_of_name_ne ne
  obtain ⟨scope, address, event⟩ := m
  cases event with
  | bytesRead bytes =>
    cases address with
    | none => rfl
    | some address =>
      simp (disch := decide) [Moment.touches, Event.touches, bytesRead, Moment.failsAs, other]
  | bytesWritten bytes =>
    simp (disch := decide) [Moment.touches, Event.touches, bytesWritten, Moment.failsAs, other]
  | failed class' =>
    have self : Reading.amount.gainOf Hub.store (errors.meter [errorClass])
        ((⟨scope, Hub.store⟩ : Scope).touch errors [class'] .countOne) =
          if [class'] = [errorClass] then 1 else 0 :=
      Reading.amount.gainOf_touch ⟨scope, Hub.store⟩ (t := errors) (Eq.refl 1) (Eq.refl 1) _
    simpa [Moment.touches, Event.touches, failed, Moment.failsAs] using self

end Gains

/-! ## What a run adds up to -/

/-- All touches of a run are of the catalogue and of the one registry. -/
lemma members (xs : List Occurrence) : ∀ t ∈ (moments xs).flatMap Moment.touches,
    t.family ∈ Family.catalogue Hub.store (fun _ => {}) ∧ t.registry ∈ ({Hub.store} : Set _) := by
  intro t mem
  obtain ⟨m, -, touched⟩ := List.mem_flatMap.1 mem
  exact touches_mem touched

/-- A meter that records one count at most with each moment shows the counts of a run. -/
lemma summary_run {id : MeterId} {count? : Moment → Option ℕ} (xs : List Occurrence)
    (records : ∀ m : Moment, List.Forall₂ Touch.Records
      (m.touches.filter fun t => Hub.store = t.registry ∧ id = t.id) (count? m).toList) :
    (run xs).hub.stateOf Hub.store id = Summary.meter? ((moments xs).filterMap count?) := by
  rw [hub_run]
  exact Hub.sound_ofStore.stateOf_summary Family.apart_catalogue Family.concordant_catalogue rfl
    (members xs) fun m _ => records m

/-- The summary of the bytes received at an address is that of the reads there. -/
lemma received_run (address : String) (xs : List Occurrence) :
    (run xs).hub.stateOf Hub.store (bytesReceived.meter [address]) =
      Summary.meter? (reads address xs) :=
  summary_run xs fun m => records_read m address

/-- The summary of the bytes sent is that of all writes. -/
lemma sent_run (xs : List Occurrence) :
    (run xs).hub.stateOf Hub.store (bytesSent.meter []) = Summary.meter? (writes xs) :=
  summary_run xs records_sent

/-- The errors of a class are counted. -/
lemma errors_run (errorClass : String) (xs : List Occurrence) :
    Reading.amount.of (run xs).hub Hub.store (errors.meter [errorClass]) =
      failures errorClass xs := by
  rw [hub_run, Reading.amount.of_run (members xs) settled]
  exact Reading.amount_gainOfAll fun m _ => gain_errors m errorClass

/-- A read where no address was reported yet is no change. -/
lemma hub_run_of_unheard {socket : Handle} (unheard : latest? socket xs = none) (bytes : UInt64) :
    (run (xs ++ [⟨socket, .event (.bytesRead bytes)⟩])).hub = (run xs).hub := by
  rw [run_concat]
  change (run xs).hub.perform (((run xs).sockets socket).bytesRead bytes) = (run xs).hub
  rw [sockets_run, unheard]
  rfl

/-! ## What is listed -/

/-- The meters that the events of a run are recorded with. -/
def Reported (xs : List Occurrence) (id : MeterId) : Prop :=
  (∃ address, reads address xs ≠ [] ∧ id = bytesReceived.meter [address]) ∨
    (writes xs ≠ [] ∧ id = bytesSent.meter []) ∨
    ∃ errorClass, failures errorClass xs ≠ 0 ∧ id = errors.meter [errorClass]

/-- Whatever an event touches was reported. -/
lemma reported_of_touch {m : Moment} (mem : m ∈ moments xs) {t : Touch ℚ}
    (touched : t ∈ m.touches) : Reported xs t.id := by
  obtain ⟨scope, address, event⟩ := m
  have ne_nil {what? : Moment → Option ℕ} {n : ℕ} (found : what? ⟨scope, address, event⟩ = some n) :
      (moments xs).filterMap what? ≠ [] :=
    List.ne_nil_of_mem (List.mem_filterMap.2 ⟨_, mem, found⟩)
  cases event with
  | bytesRead bytes =>
    cases address with
    | none => cases touched
    | some address =>
      obtain rfl := List.mem_singleton.1 touched
      exact .inl ⟨address, ne_nil (if_pos rfl), rfl⟩
  | bytesWritten bytes =>
    obtain rfl := List.mem_singleton.1 touched
    exact .inr (.inl ⟨ne_nil rfl, rfl⟩)
  | failed errorClass =>
    obtain rfl := List.mem_singleton.1 touched
    refine .inr (.inr ⟨errorClass, ?_, rfl⟩)
    exact (List.countP_pos_iff.2 ⟨_, mem, decide_eq_true rfl⟩).ne'

/-- The store lists exactly the meters that were reported to. -/
lemma listed_iff (xs : List Occurrence) (id : MeterId) :
    id ∈ ((run xs).hub.listings Hub.store).map Listing.id ↔ Reported xs id := by
  have sound : (run xs).hub.Sound (Family.catalogue Hub.store fun _ => {}) {Hub.store} := by
    rw [hub_run]
    exact Hub.sound_ofStore.perform Family.apart_catalogue fun t mem => (members xs t mem).1
  constructor
  · intro mem
    obtain ⟨l, listed, rfl⟩ := List.mem_map.1 mem
    rw [hub_run] at listed
    rcases Hub.mem_listings_perform listed with old | ⟨t, mem, -, same⟩
    · cases old
    · obtain ⟨m, mem, touched⟩ := List.mem_flatMap.1 mem
      exact same ▸ reported_of_touch mem touched
  · rw [sound.mem_ids_iff]
    rintro (⟨address, some_, rfl⟩ | ⟨some_, rfl⟩ | ⟨errorClass, some_, rfl⟩)
    · rw [received_run]
      exact (Summary.isSome_meter? _).2 some_
    · rw [sent_run]
      exact (Summary.isSome_meter? _).2 some_
    · -- a meter that is not listed reads zero
      have count := errors_run errorClass xs
      rw [Reading.of] at count
      cases state : (run xs).hub.stateOf Hub.store (errors.meter [errorClass]) with
      | none =>
        rw [state] at count
        exact absurd (Nat.cast_eq_zero.1 count.symm) some_
      | some i => rfl

/-- The meters of a run of datagram sockets: a summary for each address, of what was read by the
sockets that had reported that address last; one summary of all that was sent; and the number of
errors of each class. The store lists these meters where something was reported and no others, and
what a socket reads that has not reported an address changes nothing. -/
theorem accounts_of_datagrams (xs : List Occurrence) :
    let h := (run xs).hub
    (∀ address, h.stateOf Hub.store (bytesReceived.meter [address]) =
      Summary.meter? (reads address xs)) ∧
    h.stateOf Hub.store (bytesSent.meter []) = Summary.meter? (writes xs) ∧
    (∀ errorClass, Reading.amount.of h Hub.store (errors.meter [errorClass]) =
      failures errorClass xs) ∧
    (∀ id, id ∈ (h.listings Hub.store).map Listing.id ↔ Reported xs id) ∧
    ∀ socket bytes, latest? socket xs = none →
      (run (xs ++ [⟨socket, .event (.bytesRead bytes)⟩])).hub = h := by
  intro h
  exact ⟨fun address => received_run address xs, sent_run xs,
    fun errorClass => errors_run errorClass xs, listed_iff xs,
    fun socket bytes unheard => hub_run_of_unheard unheard bytes⟩

/-- A socket that reads too early, then on one address and later on another one, which a second
socket shares. -/
theorem accounts_of_two_addresses :
    let a : Handle := ⟨0, 0⟩
    let b : Handle := ⟨0, 1⟩
    let early : List Occurrence := [⟨b, .listening (some "h") 2⟩]
    let xs : List Occurrence := early ++ [⟨a, .event (.bytesRead 9)⟩, ⟨a, .listening none 1⟩,
      ⟨a, .event (.bytesRead 3)⟩, ⟨a, .listening (some "h") 2⟩, ⟨a, .event (.bytesRead 4)⟩,
      ⟨b, .event (.bytesRead 6)⟩, ⟨b, .event (.bytesWritten 8)⟩, ⟨a, .event (.failed "E")⟩]
    let h := (run xs).hub
    latest? a early = none ∧
      (run (early ++ [⟨a, .event (.bytesRead 9)⟩])).hub = (run early).hub ∧
      h.stateOf Hub.store (bytesReceived.meter ["?:1"]) = some (.summary ⟨1, 3, 3⟩) ∧
      h.stateOf Hub.store (bytesReceived.meter ["h:2"]) = some (.summary ⟨2, 10, 6⟩) ∧
      h.stateOf Hub.store (bytesSent.meter []) = some (.summary ⟨1, 8, 8⟩) ∧
      Reading.amount.of h Hub.store (errors.meter ["E"]) = 1 := by
  intro a b early xs h
  have unheard : latest? a early = none := by decide
  obtain ⟨-, -, -, -, silent⟩ := accounts_of_datagrams early
  obtain ⟨received, sent, failed, -, -⟩ := accounts_of_datagrams xs
  have first : reads "?:1" xs = [3] := by decide +kernel
  have second : reads "h:2" xs = [4, 6] := by decide +kernel
  have written : writes xs = [8] := by decide +kernel
  refine ⟨unheard, silent a 9 unheard, ?_, ?_, ?_, ?_⟩
  · rw [received, first]
    norm_num [Summary.meter?, Summary.ofCounts]
  · rw [received, second]
    norm_num [Summary.meter?, Summary.ofCounts]
    decide
  · rw [sent, written]
    norm_num [Summary.meter?, Summary.ofCounts]
  · rw [failed]
    decide +kernel

end Metering.DatagramSocket
