import Metering.Proofs.Probe.Endpoint

/-!
# Peers apart

Peers are told apart by the labels of their addresses, however many colons their hosts hold
(`Label.ofAddress_eq_iff`). Where the remote end is a label, connections to two peers are therefore
measured apart, whatever else they have in common (`meters_of_peers`): the families keep a meter of
its own for each, and what happens on the connections to one does not show in the meters of the
other.
-/

namespace Metering

namespace Hub

variable {α : Type} {h : Hub α}

section Runs

variable [Amount α]

/-- What a family keeps, it keeps through all touches. -/
lemma kept?_perform {f : Family} {vs : List String} {m : MeterRef} (kept : h.kept? f vs = some m)
    (ts : List (Touch α)) : (h.perform ts).kept? f vs = some m := by
  induction ts generalizing h with
  | nil => exact kept
  | cons t ts ih =>
    have touched : (h.touch t).kept? f vs = some m :=
      (h.got_get t.family t.values).kept?_other kept
    exact ih touched

/-- After touches the family of each of them keeps what it touched. -/
lemma exists_kept?_perform {ts : List (Touch α)} {t : Touch α} (mem : t ∈ ts) :
    ∃ m, (h.perform ts).kept? t.family t.values = some m := by
  obtain ⟨before, after, rfl⟩ := List.append_of_mem mem
  have touched : ((h.perform before).touch t).kept? t.family t.values =
      some ((h.perform before).get t.family t.values).1 :=
    ((h.perform before).got_get t.family t.values).kept?_self
  refine ⟨((h.perform before).get t.family t.values).1, ?_⟩
  rw [perform_append]
  exact kept?_perform touched after

end Runs

/-- A family keeps the very meter that the registry lists for the values of a touch. -/
structure Keeps (h : Hub α) (t : Touch α) (m : MeterRef) : Prop where
  kept : h.kept? t.family t.values = some m
  shared : h.Shared t.family t.values m

/-- One meter is not held under two identities. -/
lemma Keeps.ne {F : Set Family} {R : Set RegistryRef} (sound : h.Sound F R) {t t' : Touch α}
    {m m' : MeterRef} (keeps : h.Keeps t m) (keeps' : h.Keeps t' m') (ids : t.id ≠ t'.id) :
    m ≠ m' := by
  rintro rfl
  obtain ⟨l, listed, id, meter⟩ := keeps.shared.listed
  obtain ⟨l', listed', id', meter'⟩ := keeps'.shared.listed
  obtain ⟨-, rfl⟩ := sound.listed_once listed listed' (meter.trans meter'.symm)
  exact ids (id.symm.trans id')

end Hub

namespace Endpoint

/-- The other end of a connection. -/
structure Peer where
  host : Option String
  port : UInt16

/-- Peers are the same if their ports and hosts are, an unknown host being read as a question
mark. -/
def Peer.Same (peer peer' : Peer) : Prop :=
  peer.port = peer'.port ∧ peer.host.getD "?" = peer'.host.getD "?"

section Runs

variable (policies : Nat → LabelPolicy)

/-- Something happens on a connection to a peer, at an end where the remote end is a label. -/
def Occurrence.Meets (x : Occurrence) (peer : Peer) : Prop :=
  (x.endpoint policies).labels.hasRemote = true ∧
    x.event.remoteEnd = Label.ofAddress peer.host peer.port

instance (x : Occurrence) (peer : Peer) : Decidable (x.Meets policies peer) :=
  inferInstanceAs (Decidable (_ ∧ _))

/-- A run without what happens on connections to a peer. -/
def without (peer : Peer) (xs : List Occurrence) : List Occurrence :=
  xs.filter fun x => ¬ x.Meets policies peer

end Runs

variable {policies : Nat → LabelPolicy} {xs : List Occurrence} {x x' : Occurrence} {peer peer' : Peer}

/-- An occurrence that meets a peer has its host and port among the values. -/
lemma Occurrence.Meets.values (meets : x.Meets policies peer) (extra : List String) :
    (x.endpoint policies).values x.event.remoteEnd extra =
      (x.endpoint policies).localEnd :: Label.ofAddress peer.host peer.port :: extra := by
  obtain ⟨on, address⟩ := meets
  rw [Endpoint.values, LabelSet.values, if_pos on, address]

/-- What happens on connections to two peers touches different meters. -/
lemma id_touch_ne (different : ¬ peer.Same peer') (meets : x.Meets policies peer)
    (meets' : x'.Meets policies peer') : (x.touch policies).id ≠ (x'.touch policies).id := by
  intro same
  let socket : Socket := ⟨x.endpoint policies, x.event.remoteEnd⟩
  have size : x.event.extra.length = x.event.measure.keys.length :=
    ((x.endpoint policies).entry x.event).size.symm
  have own : (socket.endpoint.template x.event.measure).meter
      (socket.endpoint.values socket.remoteEnd x.event.extra) = (x.touch policies).id :=
    (id_touch x socket x.event.measure size).2 ⟨⟨rfl, rfl⟩, ⟨rfl, rfl⟩, rfl⟩
  obtain ⟨-, -, values⟩ := (id_touch x' socket x.event.measure size).1 (own.trans same)
  -- behind the local labels stand the addresses
  rw [meets.values, meets'.values, List.cons.injEq, List.cons.injEq] at values
  exact different (Label.ofAddress_eq_iff.1 values.2.1.symm)

/-- The hub is sound after every run. -/
lemma sound_run : (run policies xs).Sound (Family.catalogue Hub.store policies) {Hub.store} :=
  Hub.sound_ofStore.perform Family.apart_catalogue fun _ mem => (family_mem mem).1

/-- The families keep a listed meter for whatever has happened. -/
lemma exists_keeps (policies : Nat → LabelPolicy) (mem : x ∈ xs) :
    ∃ m, (run policies xs).Keeps (x.touch policies) m := by
  have touched : x.touch policies ∈ xs.flatMap (Occurrence.touches policies) :=
    List.mem_flatMap.2 ⟨x, mem, by rw [touches_eq_singleton]; exact List.mem_cons_self ..⟩
  obtain ⟨m, kept⟩ := Hub.exists_kept?_perform (h := Hub.ofStore) touched
  obtain ⟨belongs, live⟩ := family_mem touched
  exact ⟨m, kept, sound_run.shared_of_kept Family.concordant_catalogue belongs live kept⟩

/-- The state of a meter is what the events that touch it have made of it. -/
lemma stateOf_run (id : MeterId) : (run policies xs).stateOf Hub.store id =
    ((xs.filter fun x => id = (x.touch policies).id).map (Occurrence.touch policies)).foldl
      Touch.after none := by
  have singles : xs.flatMap (Occurrence.touches policies) = xs.map (Occurrence.touch policies) := by
    rw [List.map_eq_flatMap]
    exact List.flatMap_congr fun x _ => touches_eq_singleton x
  have members : ∀ t ∈ xs.flatMap (Occurrence.touches policies),
      t.family ∈ Family.catalogue Hub.store policies ∧ t.registry ∈ ({Hub.store} : Set _) :=
    fun _ mem => family_mem mem
  have state := Hub.sound_ofStore.stateOf_perform Family.apart_catalogue
    Family.concordant_catalogue members Hub.store id
  rw [singles, List.filter_map] at state
  rw [run, singles]
  refine state.trans ?_
  have here : (xs.filter ((fun t : Touch ℚ => decide (Hub.store = t.registry ∧ id = t.id)) ∘
      Occurrence.touch policies)) = xs.filter fun x => id = (x.touch policies).id :=
    List.filter_congr fun x _ => decide_eq_decide.2 (and_iff_right (registry_touch x).symm)
  rw [here]
  rfl

/-- Addresses tell peers apart, and where the remote end is a label so do meters: whatever happens on
connections to two different peers touches different meters, each of which the families keep by
itself; and the meter of one peer is in the state in which it would be if nothing had happened on any
connection to the other peer. -/
theorem meters_of_peers (policies : Nat → LabelPolicy) (peer peer' : Peer) :
    (Label.ofAddress peer.host peer.port = Label.ofAddress peer'.host peer'.port ↔
      peer.port = peer'.port ∧ peer.host.getD "?" = peer'.host.getD "?") ∧
    (¬ peer.Same peer' → ∀ x x' : Occurrence, x.Meets policies peer → x'.Meets policies peer' →
      (x.touch policies).id ≠ (x'.touch policies).id ∧ ∀ xs,
        (x ∈ xs → x' ∈ xs → ∃ m m', (run policies xs).Keeps (x.touch policies) m ∧
          (run policies xs).Keeps (x'.touch policies) m' ∧ m ≠ m') ∧
        (run policies xs).stateOf Hub.store (x.touch policies).id =
          (run policies (without policies peer' xs)).stateOf Hub.store (x.touch policies).id) := by
  refine ⟨Label.ofAddress_eq_iff, fun different x x' meets meets' => ?_⟩
  refine ⟨id_touch_ne different meets meets', fun xs => ⟨fun mem mem' => ?_, ?_⟩⟩
  · obtain ⟨m, keeps⟩ := exists_keeps policies mem
    obtain ⟨m', keeps'⟩ := exists_keeps policies mem'
    exact ⟨m, m', keeps, keeps', keeps.ne sound_run keeps' (id_touch_ne different meets meets')⟩
  · -- none of the events that touch the meter is left out
    have kept : (without policies peer' xs).filter (fun y => (x.touch policies).id =
        (y.touch policies).id) = xs.filter fun y => (x.touch policies).id = (y.touch policies).id := by
      rw [without, List.filter_filter]
      refine List.filter_congr fun y _ => ?_
      by_cases other : y.Meets policies peer'
      · have ne := id_touch_ne different meets other
        simp [ne]
      · simp [other]
    rw [stateOf_run, stateOf_run, kept]

/-- Two hosts with colons, one of which begins as the address of the other one. -/
theorem meters_of_two_peers :
    let policies : Nat → LabelPolicy := fun _ => {}
    let peer : Peer := ⟨some "::1", 80⟩
    let peer' : Peer := ⟨some "::1:80", 5⟩
    let x : Occurrence := ⟨0, .netClient none, .connected peer.host peer.port⟩
    let x' : Occurrence := ⟨0, .netClient none, .connected peer'.host peer'.port⟩
    let xs := [x, x', x, ⟨0, .netClient none, .disconnected "::1:80:5"⟩]
    ¬ peer.Same peer' ∧ x.Meets policies peer ∧ x'.Meets policies peer' ∧
      (x.endpoint policies).localEnd = (x'.endpoint policies).localEnd ∧
      (∃ m m', (run policies xs).Keeps (x.touch policies) m ∧
        (run policies xs).Keeps (x'.touch policies) m' ∧ m ≠ m') ∧
      (run policies xs).stateOf Hub.store (x.touch policies).id =
        (run policies [x, x]).stateOf Hub.store (x.touch policies).id := by
  intro policies peer peer' x x' xs
  have different : ¬ peer.Same peer' := fun same => absurd same.1 (by decide)
  have meets : x.Meets policies peer := by decide +kernel
  have meets' : x'.Meets policies peer' := by decide +kernel
  obtain ⟨-, separate⟩ := (meters_of_peers policies peer peer').2 different x x' meets meets'
  obtain ⟨kept, state⟩ := separate xs
  have others : without policies peer' xs = [x, x] := by decide +kernel
  rw [others] at state
  exact ⟨different, meets, meets', rfl, kept (by simp [xs]) (by simp [xs]), state⟩

end Endpoint

end Metering
