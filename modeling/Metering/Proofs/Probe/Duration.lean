import Metering.Proofs.Hub.Alike
import Metering.Proofs.Hub.State
import Metering.Proofs.Probe.Event

/-!
# Durations

Durations show in timers only: reports that differ in the time that has passed leave hubs that are
equal up to durations (`Report.perform_untimed`). The one report that reads the hub, that of a pool,
reads a gauge.
-/

namespace Metering

variable {α : Type}

/-- Touches are like themselves. -/
lemma Touch.forall₂_alike_refl (ts : List (Touch α)) : List.Forall₂ Touch.Alike ts ts :=
  List.forall₂_same.2 fun t _ => .refl t

namespace Instrument.Alike

variable {i j k : Instrument α}

/-- Likeness of instruments goes both ways. -/
lemma symm (alike : i.Alike j) : j.Alike i := by
  cases alike with
  | refl => exact .refl _
  | timer count => exact .timer count.symm

/-- Instruments that are like the same one are alike. -/
lemma trans (first : i.Alike j) (second : j.Alike k) : i.Alike k := by
  cases first with
  | refl => exact second
  | timer count =>
    cases second with
    | refl => exact .timer count
    | timer count' => exact .timer (count.trans count')

/-- Instruments that are alike have the same level. -/
lemma level [Amount α] (alike : i.Alike j) : i.level = j.level := by
  cases alike <;> rfl

end Instrument.Alike

namespace Hub.Alike

variable {h h' : Hub α}

/-- Hubs that are alike have meters that are alike. -/
lemma stateOf (alike : h.Alike h') (r : RegistryRef) (id : MeterId) :
    Option.Rel Instrument.Alike (h.stateOf r id) (h'.stateOf r id) := by
  rw [Hub.stateOf, Hub.stateOf, alike.registry]
  cases (h'.registry r).find? id with
  | none => exact .none
  | some l => exact alike.instrument? l.meter

variable [Amount α]

/-- A family gets the same meter from hubs that are alike. -/
lemma get (alike : h.Alike h') (f : Family) (vs : List String) :
    (h.get f vs).1 = (h'.get f vs).1 ∧ (h.get f vs).2.Alike (h'.get f vs).2 :=
  alike.got (h.got_get f vs) (h'.got_get f vs)

/-- A meter has the same level in hubs that are alike. -/
lemma level (alike : h.Alike h') (m : MeterRef) : h.level m = h'.level m := by
  have instruments := alike.instrument? m
  rw [Hub.level, Hub.level]
  generalize h.instrument? m = i, h'.instrument? m = i' at instruments ⊢
  cases instruments with
  | none => rfl
  | some instruments => exact instruments.level

end Hub.Alike

section Untimed

variable [Amount α]

/-- The event with no time passed. -/
def HttpServer.Event.untimed : HttpServer.Event → HttpServer.Event
  | responseEnded request status _ => responseEnded request status 0
  | event => event

def HttpClient.Event.untimed : HttpClient.Event → HttpClient.Event
  | responseEnded request status _ => responseEnded request status 0
  | event => event

def EventBus.Event.untimed : EventBus.Event → EventBus.Event
  | handlingEnded handler sample errorClass _ => handlingEnded handler sample errorClass 0
  | event => event

def Pool.Event.untimed : Pool.Event → Pool.Event
  | submitted => submitted
  | rejected task _ => rejected task 0
  | begun task _ => begun task 0
  | ended usage _ => ended usage 0

/-- Without its time, an event of the server touches the same meters alike. -/
lemma HttpServer.Event.touches_untimed (server : HttpServer) (event : HttpServer.Event) :
    List.Forall₂ Touch.Alike (event.touches server : List (Touch α))
      (event.untimed.touches server) := by
  cases event with
  | responseEnded request status nanos =>
    refine List.rel_append ?_ (Touch.forall₂_alike_refl _)
    cases request.sample with
    | none => exact .nil
    | some sample => exact .cons (sample.finish_alike nanos 0) .nil
  | _ => exact Touch.forall₂_alike_refl _

/-- Without its time, an event of the client touches the same meters alike. -/
lemma HttpClient.Event.touches_untimed (client : HttpClient) (event : HttpClient.Event) :
    List.Forall₂ Touch.Alike (event.touches client : List (Touch α))
      (event.untimed.touches client) := by
  cases event with
  | responseEnded request status nanos =>
    exact .cons (.refl _) (.cons (.refl _) (.cons (request.sample.finish_alike nanos 0) .nil))
  | _ => exact Touch.forall₂_alike_refl _

/-- Without its time, an event of the bus touches the same meters alike. -/
lemma EventBus.Event.touches_untimed (bus : EventBus) (event : EventBus.Event) :
    List.Forall₂ Touch.Alike (event.touches bus : List (Touch α)) (event.untimed.touches bus) := by
  cases event with
  | handlingEnded handler sample errorClass nanos =>
    exact List.rel_append ((.cons (sample.finish_alike nanos 0) .nil)) (Touch.forall₂_alike_refl _)
  | _ => exact Touch.forall₂_alike_refl _

namespace Pool.Event

/-- What a pool does before the ratio is alike without the time. -/
lemma before_untimed (pool : Pool) (event : Event) :
    List.Forall₂ Touch.Alike (event.before pool : List (Touch α)) (event.untimed.before pool) := by
  cases event with
  | submitted => exact Touch.forall₂_alike_refl _
  | rejected task nanos => exact .cons (.refl _) (.cons (task.finish_alike nanos 0) .nil)
  | begun task nanos =>
    exact .cons (.refl _) (.cons (task.finish_alike nanos 0) (.cons (.refl _) .nil))
  | ended usage nanos => exact Touch.forall₂_alike_refl _

/-- What a pool does after the ratio is alike without the time. -/
lemma after_untimed (pool : Pool) (event : Event) :
    List.Forall₂ Touch.Alike (event.after pool : List (Touch α)) (event.untimed.after pool) := by
  cases event with
  | ended usage nanos => exact .cons (usage.finish_alike nanos 0) (.cons (.refl _) .nil)
  | _ => exact Touch.forall₂_alike_refl _

/-- The number of resources in use does not depend on durations. -/
lemma level_untimed (pool : Pool) {h h' : Hub α} (alike : h.Alike h') (event : Event) :
    event.level pool h = event.untimed.level pool h' := by
  have before := alike.perform (before_untimed pool event)
  rw [level, level, (before.get _ _).1]
  exact before.level _

/-- A pool does the same to hubs that are alike, with or without the time. -/
lemma perform_untimed (pool : Pool) {h h' : Hub α} (alike : h.Alike h') (event : Event) :
    (event.perform pool h).Alike (event.untimed.perform pool h') := by
  have shifts : event.untimed.shifts = event.shifts := by cases event <;> rfl
  rw [perform_eq, perform_eq, level_untimed pool alike event, touches, touches, shifts]
  exact alike.perform (List.rel_append (List.rel_append (before_untimed pool event)
    (Touch.forall₂_alike_refl _)) (after_untimed pool event))

end Pool.Event

namespace Report

/-- The report with no time passed. -/
def untimed : Report → Report
  | httpClient localAddress event => httpClient localAddress event.untimed
  | httpServer host port event => httpServer host port event.untimed
  | eventBus event => eventBus event.untimed
  | pool type name size event => pool type name size event.untimed
  | report => report

/-- Durations show in timers only. -/
lemma perform_untimed (s : Scope) (policy : LabelPolicy) {h h' : Hub α} (alike : h.Alike h')
    (report : Report) : (report.perform s policy h).Alike (report.untimed.perform s policy h') := by
  cases report with
  | httpClient localAddress event => exact alike.perform (event.touches_untimed _)
  | httpServer host port event => exact alike.perform (event.touches_untimed _)
  | eventBus event => exact alike.perform (event.touches_untimed _)
  | pool type name size event => exact event.perform_untimed _ alike
  | _ => exact alike.perform (Touch.forall₂_alike_refl _)

/-- The sample of a report does not depend on its time. -/
lemma sample?_untimed (report : Report) : report.untimed.sample? = report.sample? := by
  cases report with
  | httpClient localAddress event => cases event <;> rfl
  | httpServer host port event => cases event <;> rfl
  | eventBus event => cases event <;> rfl
  | pool type name size event => cases event <;> rfl
  | _ => rfl

/-- The sample that a report begins does not depend on its time. -/
lemma begun?_untimed (s : Scope) (policy : LabelPolicy) (h : Hub α) (report : Report) :
    report.untimed.begun? s policy h = report.begun? s policy h := by
  cases report with
  | httpClient localAddress event => cases event <;> rfl
  | httpServer host port event => cases event <;> rfl
  | eventBus event => cases event <;> rfl
  | pool type name size event => cases event <;> rfl
  | _ => rfl

end Report

end Untimed

end Metering
