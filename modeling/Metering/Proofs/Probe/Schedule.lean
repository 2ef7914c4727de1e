import Metering.Proofs.Probe.Duration
import Metering.Proofs.Probe.Report

/-!
# Schedules

Everything that happens at the probes of any number of scopes over one store. What a datagram socket
reports depends on where it listens by then; apart from that no event depends on what came before.
Two orders of the same events that keep those of each datagram socket in order end in the same store,
timers being compared by the number of durations (`same_store`).
-/

namespace Metering.Schedule

open scoped List

/-- What can happen in a scope. -/
inductive Happening where
  /-- A datagram socket listens on an address from now on. -/
  | listening (socket : Nat) (host : Option String) (port : UInt16)
  /-- Something happens at a datagram socket. -/
  | datagram (socket : Nat) (event : DatagramSocket.Event)
  /-- Something is reported to another probe. -/
  | report (report : Report)
  deriving DecidableEq, Repr

/-- An event in some scope over the store. -/
structure Event where
  scope : Nat
  what : Happening
  deriving DecidableEq, Repr

/-- The address on which each datagram socket of each scope listens, if it does. -/
abbrev Addresses := Nat × Nat → Option (Option String × UInt16)

namespace Event

/-- The datagram socket at which an event occurs. -/
def socket? (x : Event) : Option (Nat × Nat) :=
  match x.what with
  | .listening socket _ _ => some (x.scope, socket)
  | .datagram socket _ => some (x.scope, socket)
  | .report _ => none

/-- The addresses after an event. -/
def listens (addresses : Addresses) (x : Event) : Addresses :=
  match x.what with
  | .listening socket host port =>
    Function.update addresses (x.scope, socket) (some (host, port))
  | _ => addresses

/-- What is reported where the sockets listen on some addresses. -/
def report? (addresses : Addresses) (x : Event) : Option Report.Occurrence :=
  match x.what with
  | .listening _ _ _ => none
  | .datagram socket event => some ⟨x.scope, .datagramSocket (addresses (x.scope, socket)) event⟩
  | .report report => some ⟨x.scope, report⟩

/-- The event with no time passed. -/
def untimed (x : Event) : Event :=
  match x.what with
  | .report report => ⟨x.scope, .report report.untimed⟩
  | _ => x

end Event

/-- What is reported to probes other than datagram sockets. -/
def Event.heard? (x : Event) : Option Report.Occurrence :=
  match x.what with
  | .report report => some ⟨x.scope, report⟩
  | _ => none

/-- The reports of a run to probes other than datagram sockets. -/
def heard (xs : List Event) : List Report.Occurrence := xs.filterMap Event.heard?

/-- How far a run has come. -/
structure State where
  addresses : Addresses
  hub : Hub ℚ

section Runs

variable (policies : Nat → LabelPolicy)

def State.step (s : State) (x : Event) : State where
  addresses := x.listens s.addresses
  hub := (x.report? s.addresses).elim s.hub (Report.Occurrence.perform policies s.hub)

/-- The hub after a run over an empty store, where no socket listens at first. -/
def run (xs : List Event) : Hub ℚ :=
  (xs.foldl (State.step policies) ⟨fun _ => none, Hub.ofStore⟩).hub

end Runs

/-- The reports that a run makes. -/
def reports (addresses : Addresses) : List Event → List Report.Occurrence
  | [] => []
  | x :: xs => (x.report? addresses).toList ++ reports (x.listens addresses) xs

variable {policies : Nat → LabelPolicy} {x y : Event} {xs ys : List Event}

/-- The hub of a schedule is that of the reports heard. -/
lemma hub_foldl (s : State) (xs : List Event) : (xs.foldl (State.step policies) s).hub =
    (reports s.addresses xs).foldl (Report.Occurrence.perform policies) s.hub := by
  induction xs generalizing s with
  | nil => rfl
  | cons x xs ih =>
    rw [List.foldl_cons, ih, reports, List.foldl_append, State.step]
    cases x.report? s.addresses <;> rfl

/-- A schedule is the run of its reports. -/
lemma run_eq (xs : List Event) :
    run policies xs = Report.run policies (reports (fun _ => none) xs) :=
  hub_foldl ..

/-! ## Moving an event to the front -/

/-- Events that are not of one datagram socket. -/
def Apart (x y : Event) : Prop := ∀ socket ∈ x.socket?, socket ∉ y.socket?

/-- Being apart goes both ways. -/
lemma Apart.symm (apart : Apart x y) : Apart y x :=
  fun socket at_ at_' => apart socket at_' at_

/-- Where a socket listens is changed by its own events only. -/
lemma report?_listens (apart : Apart x y) (addresses : Addresses) :
    x.report? (y.listens addresses) = x.report? addresses := by
  obtain ⟨k, what⟩ := x
  obtain ⟨k', what'⟩ := y
  cases what with
  | datagram socket event =>
    cases what' with
    | listening socket' host port =>
      have ne : (k, socket) ≠ (k', socket') := fun same => apart _ rfl (congrArg some same.symm)
      simp only [Event.report?, Event.listens, Function.update_of_ne ne]
    | _ => rfl
  | _ => rfl

/-- Events that are apart can be heard in either order. -/
lemma listens_comm (apart : Apart x y) (addresses : Addresses) :
    x.listens (y.listens addresses) = y.listens (x.listens addresses) := by
  obtain ⟨k, what⟩ := x
  obtain ⟨k', what'⟩ := y
  cases what with
  | listening socket host port =>
    cases what' with
    | listening socket' host' port' =>
      have ne : (k, socket) ≠ (k', socket') := fun same => apart _ rfl (congrArg some same.symm)
      exact (Function.update_comm ne _ _ _).symm
    | _ => rfl
  | _ => rfl

/-- An event may come before others of other sockets. -/
lemma reports_front {before : List Event} (apart : ∀ y ∈ before, Apart x y) (after : List Event)
    (addresses : Addresses) :
    (reports addresses (before ++ x :: after)).Perm
      (reports addresses (x :: (before ++ after))) := by
  induction before generalizing addresses with
  | nil => exact .refl _
  | cons y before ih =>
    obtain ⟨first, rest⟩ := List.forall_mem_cons.1 apart
    calc reports addresses (y :: (before ++ x :: after))
      _ = (y.report? addresses).toList ++
          reports (y.listens addresses) (before ++ x :: after) := rfl
      _ ~ (y.report? addresses).toList ++
          reports (y.listens addresses) (x :: (before ++ after)) := (ih rest _).append_left _
      _ = (y.report? addresses).toList ++ ((x.report? addresses).toList ++
          reports (y.listens (x.listens addresses)) (before ++ after)) := by
        rw [reports, report?_listens first, listens_comm first]
      _ ~ (x.report? addresses).toList ++ ((y.report? addresses).toList ++
          reports (y.listens (x.listens addresses)) (before ++ after)) := by
        rw [← List.append_assoc, ← List.append_assoc]
        exact List.perm_append_comm.append_right _
      _ = reports addresses (x :: y :: (before ++ after)) := by
        rw [reports, reports, report?_listens first.symm]

/-- Whether an event occurs at a datagram socket. -/
def Event.isOf (socket : Nat × Nat) (x : Event) : Bool := x.socket? = some socket

/-- Orders of the same events that keep those of each datagram socket in order. -/
structure SameEvents (xs ys : List Event) : Prop where
  perm : xs ~ ys
  sockets (socket) : xs.filter (Event.isOf socket) = ys.filter (Event.isOf socket)

/-- The first event of one order comes, in the other, after events of other sockets only. -/
lemma SameEvents.exists_front (same : SameEvents (x :: xs) ys) :
    ∃ before after, ys = before ++ x :: after ∧ (∀ y ∈ before, Apart x y) ∧
      SameEvents xs (before ++ after) := by
  obtain ⟨before, after, rfl, first⟩ :=
    List.eq_append_cons_of_mem (same.perm.subset (List.mem_cons_self ..))
  have apart : ∀ y ∈ before, Apart x y := by
    intro y mem socket at_ at_'
    have here : x.isOf socket = true := decide_eq_true at_
    have sockets := same.sockets socket
    rw [List.filter_cons_of_pos here, List.filter_append] at sockets
    -- otherwise the first event of the socket would be another one than `x`
    cases others : before.filter (Event.isOf socket) with
    | nil => exact List.filter_eq_nil_iff.1 others y mem (decide_eq_true at_')
    | cons z rest =>
      rw [others, List.cons_append] at sockets
      have z_mem : z ∈ before.filter (Event.isOf socket) := others ▸ List.mem_cons_self ..
      rw [← (List.cons.inj sockets).1] at z_mem
      exact first (List.mem_filter.1 z_mem).1
  refine ⟨before, after, rfl, apart, ?_, fun socket => ?_⟩
  · exact List.Perm.cons_inv (same.perm.trans List.perm_middle)
  · have sockets := same.sockets socket
    rw [List.filter_append] at sockets ⊢
    cases at_ : x.isOf socket with
    | false =>
      rwa [List.filter_cons_of_neg (by simp [at_]), List.filter_cons_of_neg (by simp [at_])]
        at sockets
    | true =>
      have none : before.filter (Event.isOf socket) = [] :=
        List.filter_eq_nil_iff.2 fun y mem at_' =>
          apart y mem socket (of_decide_eq_true at_) (of_decide_eq_true at_')
      rw [List.filter_cons_of_pos at_, List.filter_cons_of_pos at_, none] at sockets
      rw [none]
      exact (List.cons.inj sockets).2

/-- Orders of the same events make the same reports. -/
lemma SameEvents.reports (same : SameEvents xs ys) (addresses : Addresses) :
    reports addresses xs ~ reports addresses ys := by
  induction xs generalizing ys addresses with
  | nil => rw [List.nil_perm.1 same.perm]
  | cons x xs ih =>
    obtain ⟨before, after, rfl, apart, rest⟩ := same.exists_front
    exact ((ih rest _).append_left _).trans (reports_front apart after addresses).symm

/-! ## Durations -/

/-- Runs that have come equally far, but for durations. -/
structure State.Alike (s s' : State) : Prop where
  addresses : s.addresses = s'.addresses
  hub : s.hub.Alike s'.hub

/-- An event leads from like states to like states, with or without its time. -/
lemma State.Alike.step {s s' : State} (alike : s.Alike s') (x : Event) :
    (s.step policies x).Alike (s'.step policies x.untimed) := by
  obtain ⟨k, what⟩ := x
  refine ⟨?_, ?_⟩
  · rw [State.step, State.step, alike.addresses]
    cases what <;> rfl
  · rw [State.step, State.step, alike.addresses]
    cases what with
    | listening => exact alike.hub
    | datagram socket event =>
      exact Report.perform_untimed ⟨k, Hub.store⟩ (policies k) alike.hub (.datagramSocket _ event)
    | report report => exact report.perform_untimed _ _ alike.hub

/-- A run in which no time passes ends in the same state but for durations. -/
lemma run_untimed (xs : List Event) :
    (run policies xs).Alike (run policies (xs.map Event.untimed)) := by
  have steps {s s' : State} (alike : s.Alike s') : (xs.foldl (State.step policies) s).Alike
      ((xs.map Event.untimed).foldl (State.step policies) s') := by
    induction xs generalizing s s' with
    | nil => exact alike
    | cons x xs ih => exact ih (alike.step x)
  exact (steps ⟨rfl, .refl _⟩).hub

/-- The socket of an event does not depend on its time. -/
lemma Event.isOf_untimed (socket : Nat × Nat) (x : Event) :
    x.untimed.isOf socket = x.isOf socket := by
  obtain ⟨k, what⟩ := x
  cases what <;> rfl

/-- What is heard without the times is what is heard, without its times. -/
lemma heard_untimed (xs : List Event) : heard (xs.map Event.untimed) =
    (heard xs).map fun x => ⟨x.scope, x.report.untimed⟩ := by
  rw [heard, heard, List.filterMap_map, List.map_filterMap]
  refine List.filterMap_congr fun x _ => ?_
  obtain ⟨k, what⟩ := x
  cases what <;> rfl

/-! ## Runs of the same events -/

/-- Every timing that ends has begun, and all pools of one type and name have one size. -/
structure Orderly (policies : Nat → LabelPolicy) (xs : List Event) : Prop where
  begun : ∀ x ∈ heard xs, ∀ sample ∈ x.report.sample?, ∃ y ∈ heard xs, sample ∈ y.begun? policies
  sizes : Report.OneSize (heard xs)

/-- The pool of a report does not depend on its time. -/
lemma pool?_untimed (x : Report.Occurrence) :
    (⟨x.scope, x.report.untimed⟩ : Report.Occurrence).pool? = x.pool? := by
  obtain ⟨k, report⟩ := x
  cases report <;> rfl

/-- An orderly schedule is orderly without its times. -/
lemma Orderly.untimed (orderly : Orderly policies xs) : Orderly policies (xs.map Event.untimed) where
  begun := by
    rw [heard_untimed]
    refine List.forall_mem_map.2 fun x mem sample ends => ?_
    rw [Report.sample?_untimed] at ends
    obtain ⟨y, mem', begun⟩ := orderly.begun x mem sample ends
    refine ⟨_, List.mem_map_of_mem mem', ?_⟩
    rw [Report.Occurrence.begun?, Report.begun?_untimed]
    exact begun
  sizes := by
    rw [heard_untimed]
    refine List.forall_mem_map.2 fun x mem => List.forall_mem_map.2 fun y mem' => ?_
    rw [pool?_untimed, pool?_untimed]
    exact orderly.sizes x mem y mem'

/-- What a run reports is heard, or reported by a datagram socket. -/
lemma mem_reports {addresses : Addresses} {r : Report.Occurrence}
    (mem : r ∈ reports addresses xs) :
    r ∈ heard xs ∨ ∃ k address event, r = ⟨k, .datagramSocket address event⟩ := by
  induction xs generalizing addresses with
  | nil => cases mem
  | cons x xs ih =>
    rcases List.mem_append.1 mem with now | later
    · obtain ⟨k, what⟩ := x
      cases what with
      | listening => cases now
      | datagram socket event => exact .inr ⟨k, _, event, List.mem_singleton.1 now⟩
      | report report => exact .inl (List.mem_cons.2 (.inl (List.mem_singleton.1 now)))
    · refine (ih later).imp_left fun mem => ?_
      rw [heard, List.filterMap_cons]
      split
      · exact mem
      · exact List.mem_cons_of_mem _ mem

/-- The reports of an orderly schedule are genuine. -/
lemma Orderly.genuine (orderly : Orderly policies xs) (addresses : Addresses) :
    ∀ r ∈ reports addresses xs, r.Genuine policies := by
  intro r mem
  rcases mem_reports mem with mem | ⟨k, address, event, rfl⟩
  · exact Report.genuine_of_begun orderly.begun mem
  · exact fun sample ends => nomatch ends

/-- In an orderly schedule each pool has one size. -/
lemma Orderly.oneSize (orderly : Orderly policies xs) (addresses : Addresses) :
    Report.OneSize (reports addresses xs) := by
  intro x mem y mem' pool at_ pool' at_'
  rcases mem_reports mem with mem | ⟨k, address, event, rfl⟩
  · rcases mem_reports mem' with mem' | ⟨k, address, event, rfl⟩
    · exact orderly.sizes x mem y mem' pool at_ pool' at_'
    · cases at_'
  · cases at_

/-- Orders of the same events, apart from the time that passes, that keep the events of each
datagram socket in order. -/
structure SameButTime (xs ys : List Event) : Prop where
  perm : xs.map Event.untimed ~ ys.map Event.untimed
  sockets (socket) : xs.filter (Event.isOf socket) = ys.filter (Event.isOf socket)

/-- Schedules that differ in times only have the same events without them. -/
lemma SameButTime.untimed (same : SameButTime xs ys) :
    SameEvents (xs.map Event.untimed) (ys.map Event.untimed) where
  perm := same.perm
  sockets socket := by
    have filter (xs : List Event) : (xs.map Event.untimed).filter (Event.isOf socket) =
        (xs.filter (Event.isOf socket)).map Event.untimed := by
      rw [List.filter_map]
      exact congrArg _ (List.filter_congr fun x _ => x.isOf_untimed socket)
    rw [filter, filter, same.sockets]

/-- Instruments that are like a common one are alike. -/
lemma rel_alike_of_common {i? j? k? : Option (Instrument ℚ)}
    (first : Option.Rel Instrument.Alike i? k?) (second : Option.Rel Instrument.Alike j? k?) :
    Option.Rel Instrument.Alike i? j? := by
  cases first with
  | none =>
    cases second
    exact .none
  | some alike =>
    cases second with
    | some alike' => exact .some (alike.trans alike'.symm)

/-- The schedule does not matter: if every timing that ends has begun and pools of one type and name
have one size, then orders of the same events that keep those of each datagram socket in order end
in stores with the same meters, of the same kinds and in the same states, timers being compared by
the number of durations. -/
theorem same_store (orderly : Orderly policies xs) (same : SameButTime xs ys) :
    let first := run policies xs
    let second := run policies ys
    (first.listings Hub.store).map Listing.id ~ (second.listings Hub.store).map Listing.id ∧
      ∀ id, Option.Rel Instrument.Alike (first.stateOf Hub.store id)
        (second.stateOf Hub.store id) := by
  intro first second
  let xs' := reports (fun _ => none) (xs.map Event.untimed)
  let ys' := reports (fun _ => none) (ys.map Event.untimed)
  have genuine : ∀ r ∈ xs', r.Genuine policies := orderly.untimed.genuine _
  have perm : xs' ~ ys' := same.untimed.reports _
  have states (id : MeterId) : (Report.run policies xs').stateOf Hub.store id =
      (Report.run policies ys').stateOf Hub.store id :=
    Report.run_perm genuine perm (orderly.untimed.oneSize _) id
  have alike : first.Alike (Report.run policies xs') := by
    rw [← run_eq]
    exact run_untimed xs
  have alike' : second.Alike (Report.run policies ys') := by
    rw [← run_eq]
    exact run_untimed ys
  have sound := Report.sound_run genuine
  have sound' := Report.sound_run fun r mem => genuine r (perm.mem_iff.2 mem)
  refine ⟨?_, fun id => ?_⟩
  · rw [alike.listings, alike'.listings]
    refine (List.perm_ext_iff_of_nodup (sound.ids_nodup _) (sound'.ids_nodup _)).2 fun id => ?_
    rw [sound.mem_ids_iff, sound'.mem_ids_iff, states]
  · refine rel_alike_of_common (alike.stateOf Hub.store id) ?_
    rw [states]
    exact alike'.stateOf Hub.store id

/-- Two tasks that begin in either order, with a socket that listens on another address in between:
one task of two has ended in the end, so that a quarter of the pool is in use. -/
theorem same_store_of_two_tasks :
    let policies : Nat → LabelPolicy := fun _ => {}
    let pool (event : Pool.Event) : Event := ⟨0, .report (.pool "worker" "p" 4 event)⟩
    let sample (timer : Template) := Sample.of ⟨0, Hub.store⟩ timer ["worker", "p"]
    let task := sample Pool.queueDelay
    let use := sample Pool.usage
    let listening (host : String) : Event := ⟨1, .listening 0 (some host) 53⟩
    let read (bytes : UInt64) : Event := ⟨1, .datagram 0 (.bytesRead bytes)⟩
    let xs := [pool .submitted, listening "a", pool (.begun task 5), read 3, pool (.ended use 7),
      pool .submitted, listening "b", read 4, pool (.begun task 1)]
    let ys := [listening "a", pool .submitted, read 3, pool .submitted, listening "b",
      pool (.begun task 2), pool (.begun task 9), read 4, pool (.ended use 1)]
    Orderly policies xs ∧ SameButTime xs ys ∧
      Option.Rel Instrument.Alike
        ((run policies xs).stateOf Hub.store (Pool.ratio.meter ["worker", "p", "4"]))
        ((run policies ys).stateOf Hub.store (Pool.ratio.meter ["worker", "p", "4"])) := by
  intro policies pool sample task use listening read xs ys
  have orderly : Orderly policies xs := ⟨by decide +kernel, by decide +kernel⟩
  have same : SameButTime xs ys := by
    refine ⟨by decide +kernel, fun socket => ?_⟩
    have filter (zs : List Event) : zs.filter (Event.isOf socket) =
        (zs.filter fun x => x.socket?.isSome).filter (Event.isOf socket) := by
      rw [List.filter_filter]
      refine List.filter_congr fun x _ => ?_
      cases at_ : x.socket? <;> simp [Event.isOf, at_]
    have datagrams : xs.filter (fun x => x.socket?.isSome) =
        ys.filter fun x => x.socket?.isSome := by decide +kernel
    rw [filter xs, filter ys, datagrams]
  exact ⟨orderly, same, (same_store orderly same).2 _⟩

end Metering.Schedule
