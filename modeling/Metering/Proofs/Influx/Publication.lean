import Mathlib.Algebra.GroupWithZero.Nat
import Metering.Proofs.Monitor.Closing

/-!
# Publication

What is handed to a writer when lines are published: the lines cut into pieces (`Cut`), one piece
after another whatever the writer answers (`Handed`). For a pushing backend, a publication is a row
of batches handed to its sink (`Site.publish_eq`). It leaves the hub as it is, so that the next one
hands over the same lines but for the timestamp (`Site.publish_covers`).
-/

namespace Metering

namespace Influx

variable {α σ : Type}

/-! ## Pieces -/

/-- Pieces that make up a list, all of one size but for the last one, which may be smaller. -/
structure Cut (size : Nat) (xs : List α) (pieces : List (List α)) : Prop where
  whole : pieces.flatten = xs
  filled : ∀ piece ∈ pieces, piece ≠ []
  full : ∀ piece ∈ pieces.dropLast, piece.length = size
  bounded : ∀ piece ∈ pieces, piece.length ≤ size

/-- No lines make no pieces. -/
lemma Cut.eq_nil {size : Nat} {pieces : List (List α)} (cut : Cut size [] pieces) :
    pieces = [] := by
  refine List.eq_nil_iff_forall_not_mem.2 fun piece mem => ?_
  exact cut.filled piece mem (List.flatten_eq_nil_iff.1 cut.whole piece mem)

/-- The chunks of a list are a cut of it. -/
lemma cut_chunks {size : Nat} (pos : 0 < size) (xs : List α) : Cut size xs (chunks size xs) := by
  fun_induction chunks size xs with
  | case1 => exact ⟨rfl, by simp, by simp, by simp⟩
  | case2 x rest ih =>
    have bounded : (x :: rest.take (size - 1)).length ≤ size := by
      rw [List.length_cons, List.length_take]
      omega
    constructor
    case whole =>
      rw [List.flatten_cons, ih.whole, List.cons_append, List.take_append_drop]
    case filled => exact List.forall_mem_cons.2 ⟨List.cons_ne_nil _ _, ih.filled⟩
    case full =>
      cases more : chunks size (rest.drop (size - 1)) with
      | nil => exact fun piece mem => absurd mem (by simp)
      | cons next pieces =>
        -- there is a piece behind the first one, which has left something
        have left : rest.drop (size - 1) ≠ [] := by
          intro done
          rw [done, chunks] at more
          cases more
        have long : size - 1 < rest.length := by simpa using left
        rw [List.dropLast_cons_of_ne_nil (List.cons_ne_nil _ _), ← more]
        refine List.forall_mem_cons.2 ⟨?_, ih.full⟩
        rw [List.length_cons, List.length_take]
        omega
    case bounded => exact List.forall_mem_cons.2 ⟨bounded, ih.bounded⟩

/-- The chunks of a changed list are the chunks of the list, changed. -/
lemma chunks_map {β : Type} (size : Nat) (f : α → β) (xs : List α) :
    chunks size (xs.map f) = (chunks size xs).map (List.map f) := by
  fun_induction chunks size xs with
  | case1 => rw [List.map_nil, chunks, List.map_nil]
  | case2 x rest ih =>
    rw [List.map_drop] at ih
    rw [List.map_cons, chunks, ih, List.map_cons, List.map_cons, List.map_take]

/-! ## Handing over -/

/-- The batches that a writer is handed in a row, each with whether it was accepted, from one state
of the writer to another. -/
inductive Handed (write : List α → σ → Bool × σ) : σ → List (List α × Bool) → σ → Prop where
  | nil (s : σ) : Handed write s [] s
  | cons {s s' : σ} {exchanges : List (List α × Bool)} (batch : List α)
      (handed : Handed write (write batch s).2 exchanges s') :
      Handed write s ((batch, (write batch s).1) :: exchanges) s'

/-- The number of lines in the batches that were accepted. -/
def accepted (exchanges : List (List α × Bool)) : Nat :=
  ((exchanges.filter (·.2)).map (·.1.length)).sum

/-- A batch counts if it is accepted. -/
lemma accepted_cons (batch : List α) (answer : Bool) (exchanges : List (List α × Bool)) :
    accepted ((batch, answer) :: exchanges) =
      (if answer then batch.length else 0) + accepted exchanges := by
  cases answer
  · exact (Nat.zero_add _).symm
  · rfl

/-- Every batch is handed over once and in order, whatever comes of those before it. -/
lemma writeAll_handed (write : List α → σ → Bool × σ) (batches : List (List α)) (s : σ) :
    ∃ exchanges, exchanges.map Prod.fst = batches ∧
      Handed write s exchanges (writeAll write batches s).2 ∧
      (writeAll write batches s).1 = accepted exchanges := by
  induction batches generalizing s with
  | nil => exact ⟨[], rfl, .nil s, rfl⟩
  | cons batch batches ih =>
    obtain ⟨exchanges, same, handed, count⟩ := ih (write batch s).2
    refine ⟨(batch, (write batch s).1) :: exchanges, ?_, .cons batch handed, ?_⟩
    · rw [List.map_cons, same]
    · rw [accepted_cons, ← count]
      rfl

/-! ## Lines and their timestamps -/

/-- A line with its timestamp. -/
def stamped (timestamp : Int) (head : String) : String :=
  head ++ String.ofList (' ' :: Number.intText timestamp)

variable [Amount α]

/-- The timestamp is at the end of a line, and nothing else of the line depends on it. -/
lemma line?_stamped (m : Meter α) :
    ∃ head : Option String, ∀ timestamp,
      (line? timestamp m).map String.ofList = head.map (stamped timestamp) := by
  cases fields : finiteFields m.instrument with
  | nil => exact ⟨none, fun timestamp => by rw [line?, fields]; rfl⟩
  | cons f fs =>
    refine ⟨some (String.ofList (seriesText m.id m.instrument.kind ++
      ' ' :: [','].intercalate ((f :: fs).map fieldText))), fun timestamp => ?_⟩
    simp only [line?, fields, Option.map_some, stamped, ← String.ofList_append]

/-- Lines depend on the timestamp at their ends only. -/
lemma lines_stamped (meters : List (Meter α)) :
    ∃ heads : List String, ∀ timestamp, lines timestamp meters = heads.map (stamped timestamp) := by
  induction meters with
  | nil => exact ⟨[], fun _ => rfl⟩
  | cons m meters ih =>
    obtain ⟨heads, rest⟩ := ih
    obtain ⟨head, first⟩ := line?_stamped m
    refine ⟨head.toList ++ heads, fun timestamp => ?_⟩
    have step : lines timestamp (m :: meters) =
        ((line? timestamp m).map String.ofList).toList ++ lines timestamp meters := by
      rw [lines, List.filterMap_cons, lines]
      cases line? timestamp m <;> rfl
    rw [step, first, rest, List.map_append, Option.toList_map]

end Influx

namespace Site

open Influx

variable {α : Type} {s : Site α} {b : BackendRef}
variable {registry : RegistryRef} {size : Nat} {looping : Bool} {sink : Sink}

/-! ## Handing batches to a backend's sink -/

/-- The site with another sink of a pushing backend, and another network. -/
def withSink (s : Site α) (b : BackendRef) (registry : RegistryRef) (size : Nat) (looping : Bool)
    (state : Sink × Network) : Site α :=
  { s with network := state.2 }.setBackend b (.pushing registry size looping state.1)

/-- Hands a batch to the sink of a pushing backend. The result tells whether it was accepted. -/
def handOver (s : Site α) (b : BackendRef) (batch : List String) : Bool × Site α :=
  match s.backend? b with
  | some (.pushing registry size looping sink) =>
    let (accepted, state) := Sink.write batch (sink, s.network)
    (accepted, s.withSink b registry size looping state)
  | _ => (false, s)

/-- What handing over batches leaves as it is: all but the sink and the network. -/
structure Keeps (s s' : Site α) (b : BackendRef) : Prop where
  hub : s'.hub = s.hub
  others (b' : BackendRef) : b' ≠ b → s'.backend? b' = s.backend? b'
  own {registry : RegistryRef} {size : Nat} {looping : Bool} {sink : Sink} :
    s.backend? b = some (.pushing registry size looping sink) →
      ∃ sink', s'.backend? b = some (.pushing registry size looping sink')

/-- A site keeps all that it has. -/
lemma Keeps.refl (s : Site α) (b : BackendRef) : s.Keeps s b :=
  ⟨rfl, fun _ _ => rfl, fun pushing => ⟨_, pushing⟩⟩

/-- What is kept over two steps is kept over both. -/
lemma Keeps.trans {s' s'' : Site α} (keeps : s.Keeps s' b) (keeps' : s'.Keeps s'' b) :
    s.Keeps s'' b := by
  refine ⟨keeps'.hub.trans keeps.hub, fun b' ne => ?_, fun pushing => ?_⟩
  · exact (keeps'.others b' ne).trans (keeps.others b' ne)
  · obtain ⟨sink', pushing'⟩ := keeps.own pushing
    exact keeps'.own pushing'

/-- Handing over a batch changes the sink and the network only. -/
lemma keeps_handOver (s : Site α) (b : BackendRef) (batch : List String) :
    s.Keeps (s.handOver b batch).2 b := by
  unfold handOver
  split
  case h_1 registry size looping sink pushing =>
    refine ⟨rfl, fun b' ne => backend?_setBackend_of_ne _ ne _, fun pushing' => ?_⟩
    cases pushing.symm.trans pushing'
    exact ⟨_, backend?_setBackend (s := { s with network := _ }) pushing _⟩
  case h_2 => exact .refl s b

/-- Handing over batches changes the sink and the network only. -/
lemma Keeps.of_handed {s' : Site α} {exchanges : List (List String × Bool)}
    (handed : Handed (fun batch s => s.handOver b batch) s exchanges s') : s.Keeps s' b := by
  induction handed with
  | nil s => exact .refl s b
  | @cons s s' exchanges batch _ ih => exact (keeps_handOver s b batch).trans ih

/-- A sink put in its own place changes nothing. -/
lemma withSink_self (pushing : s.backend? b = some (.pushing registry size looping sink)) :
    s.withSink b registry size looping (sink, s.network) = s := by
  have same : s.backends.setIfInBounds b.index (.pushing registry size looping sink) =
      s.backends := by
    refine Array.ext_getElem? fun i => ?_
    rw [Array.getElem?_setIfInBounds]
    split
    case isTrue eq =>
      rw [← eq, if_pos (Array.getElem?_eq_some_iff.1 pushing).1]
      exact pushing.symm
    case isFalse => rfl
  rw [withSink, setBackend, same]

/-- Of two sinks that are put in one place the second stays. -/
lemma withSink_withSink (state state' : Sink × Network) :
    (s.withSink b registry size looping state).withSink b registry size looping state' =
      s.withSink b registry size looping state' := by
  simp only [withSink, setBackend, Array.setIfInBounds_setIfInBounds]

/-- Batches that are written to the sink are handed over at the site. -/
lemma writeAll_handOver (pushing : s.backend? b = some (.pushing registry size looping sink))
    (batches : List (List String)) :
    writeAll (fun batch s => s.handOver b batch) batches s =
      ((writeAll Sink.write batches (sink, s.network)).1, s.withSink b registry size looping
        (writeAll Sink.write batches (sink, s.network)).2) := by
  induction batches generalizing s sink with
  | nil => exact Prod.ext rfl (withSink_self pushing).symm
  | cons batch batches ih =>
    rcases written : Sink.write batch (sink, s.network) with ⟨answer, state⟩
    have step : s.handOver b batch = (answer, s.withSink b registry size looping state) := by
      simp only [handOver, pushing, written]
    have pushing' : (s.withSink b registry size looping state).backend? b =
        some (.pushing registry size looping state.1) :=
      backend?_setBackend (s := { s with network := state.2 }) pushing _
    simp only [writeAll, step, ih pushing', written, withSink_withSink]
    rfl

variable [Amount α]

/-- The batches that a publication hands over. -/
def batches (s : Site α) (registry : RegistryRef) (size : Nat) (timestamp : Int) :
    List (List String) :=
  chunks (max 1 size) (s.lines registry timestamp)

/-- Publishing writes the batches of the present lines. -/
lemma publish_eq (pushing : s.backend? b = some (.pushing registry size looping sink))
    (timestamp : Int) :
    s.publish b timestamp = writeAll (fun batch s => s.handOver b batch)
      (s.batches registry size timestamp) s := by
  rw [writeAll_handOver pushing]
  simp only [publish, pushing]
  rfl

/-! ## Whole publications -/

/-- What comes of a publication: the batches are handed over once and in order, the lines of those
that are accepted are counted, and the meters stay as they are. -/
structure Publishes (s : Site α) (b : BackendRef) (timestamp : Int) (batches : List (List String))
    (exchanges : List (List String × Bool)) : Prop where
  batches : exchanges.map Prod.fst = batches
  handed : Handed (fun batch s => s.handOver b batch) s exchanges (s.publish b timestamp).2
  written : (s.publish b timestamp).1 = accepted exchanges
  keeps : s.Keeps (s.publish b timestamp).2 b

/-- Every publication is some exchange of its batches. -/
lemma exists_publishes (pushing : s.backend? b = some (.pushing registry size looping sink))
    (timestamp : Int) :
    ∃ exchanges, s.Publishes b timestamp (s.batches registry size timestamp) exchanges := by
  obtain ⟨exchanges, batches, handed, count⟩ := writeAll_handed
    (fun batch s => s.handOver b batch) (s.batches registry size timestamp) s
  rw [← publish_eq pushing] at handed count
  exact ⟨exchanges, batches, handed, count, .of_handed handed⟩

/-- The lines of a pushing backend are handed over in batches that are the same whatever the writer
answers, and a publication leaves what the next one needs to hand over the same lines again. -/
theorem publish_covers (pushing : s.backend? b = some (.pushing registry size looping sink)) :
    ∃ heads : List (List String), ∀ timestamp : Int,
      let lines := s.lines registry timestamp
      let batches := heads.map (List.map (stamped timestamp))
      Cut (max 1 size) lines batches ∧
      (lines = [] → batches = []) ∧
      (∀ (σ : Type) (write : List String → σ → Bool × σ) (w : σ), ∃ exchanges,
        exchanges.map Prod.fst = batches ∧
        Handed write w exchanges (Influx.publish write size lines w).2 ∧
        (Influx.publish write size lines w).1 = accepted exchanges) ∧
      (∃ exchanges, s.Publishes b timestamp batches exchanges) ∧
      ∀ before : Int, ∃ exchanges,
        (s.publish b before).2.Publishes b timestamp batches exchanges := by
  obtain ⟨heads, stamps⟩ := lines_stamped (s.hub.meters registry)
  refine ⟨chunks (max 1 size) heads, fun timestamp => ?_⟩
  intro lines batches
  have same (s' : Site α) (hub : s'.hub = s.hub) :
      s'.batches registry size timestamp = batches := by
    rw [Site.batches, Site.lines, hub, stamps, chunks_map]
  have cut : Cut (max 1 size) lines batches := by
    rw [← same s rfl]
    exact cut_chunks (by omega) lines
  refine ⟨cut, ?_, ?_, ?_, ?_⟩
  · intro nothing
    rw [nothing] at cut
    exact cut.eq_nil
  · intro σ write w
    rw [← same s rfl]
    exact writeAll_handed write (s.batches registry size timestamp) w
  · rw [← same s rfl]
    exact exists_publishes pushing timestamp
  · intro before
    obtain ⟨_, published⟩ := exists_publishes pushing before
    obtain ⟨sink', pushing'⟩ := published.keeps.own pushing
    rw [← same _ published.keeps.hub]
    exact exists_publishes pushing' timestamp

/-- The first of two batches is refused and the second one is accepted. -/
theorem publish_covers_of_refused_batch :
    let listed : List Listing := [⟨⟨"a", []⟩, "", ⟨0⟩⟩, ⟨⟨"b", []⟩, "", ⟨1⟩⟩, ⟨⟨"c", []⟩, "", ⟨2⟩⟩]
    let hub : Hub Float := ⟨#[.counter 1, .gauge 2, .counter 3], #[.store listed], 0, []⟩
    let s : Site Float := ⟨hub, #[.pushing ⟨0⟩ 2 true (.rehearsal [true] [])], .empty⟩
    s.backend? ⟨0⟩ = some (.pushing ⟨0⟩ 2 true (.rehearsal [true] [])) ∧
      s.lines ⟨0⟩ 7 = ["a,metric_type=counter value=1 7", "b,metric_type=gauge value=2 7",
        "c,metric_type=counter value=3 7"] ∧
      (s.publish ⟨0⟩ 7).1 = 1 ∧
      ∃ heads : List (List String), ∀ timestamp : Int,
        let batches := heads.map (List.map (stamped timestamp))
        Cut 2 (s.lines ⟨0⟩ timestamp) batches ∧
          (∃ exchanges, s.Publishes ⟨0⟩ timestamp batches exchanges) ∧
          ∃ exchanges, (s.publish ⟨0⟩ 7).2.Publishes ⟨0⟩ timestamp batches exchanges := by
  intro listed hub s
  have pushing : s.backend? ⟨0⟩ = some (.pushing ⟨0⟩ 2 true (.rehearsal [true] [])) := rfl
  have sorted : Hub.sorted listed = listed := List.mergeSort_of_pairwise (by decide)
  have meters : s.hub.meters ⟨0⟩ = listed.filterMap hub.meterOf := by rw [← sorted]; rfl
  have lines : s.lines ⟨0⟩ 7 = ["a,metric_type=counter value=1 7",
      "b,metric_type=gauge value=2 7", "c,metric_type=counter value=3 7"] := by
    rw [Site.lines, meters]
    decide +kernel
  refine ⟨pushing, lines, ?_, ?_⟩
  · have pieces (a b c : String) : chunks (max 1 2) [a, b, c] = [[a, b], [c]] := by simp [chunks]
    rw [publish_eq pushing, Site.batches, lines, pieces]
    rfl
  obtain ⟨heads, covers⟩ := publish_covers pushing
  refine ⟨heads, fun timestamp => ?_⟩
  obtain ⟨cut, -, -, first, again⟩ := covers timestamp
  exact ⟨cut, first, again 7⟩

end Site

end Metering
