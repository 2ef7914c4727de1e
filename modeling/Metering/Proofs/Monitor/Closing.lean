import Mathlib.Data.List.Nodup
import Metering.Proofs.Monitor.Directory

/-!
# Closing

What closing leaves behind: a closed backend neither serves nor pushes any more and lists no meters
if it is a scraped one (`Site.Closed`), and every other backend is as it was. Stopping all names
closes their backends in the order of the names and leaves the directory empty
(`Directory.stopAll_eq`).
-/

namespace Metering

namespace Site

variable {α : Type} {s : Site α} {b b' : BackendRef}

/-- Setting a backend leaves the others as they are. -/
lemma backend?_setBackend_of_ne (s : Site α) (ne : b' ≠ b) (backend : Backend) :
    (s.setBackend b backend).backend? b' = s.backend? b' := by
  have other : b.index ≠ b'.index := by
    intro same
    cases b
    cases b'
    exact ne (congrArg BackendRef.mk same.symm)
  rw [backend?, setBackend, Array.getElem?_setIfInBounds, if_neg other]
  rfl

/-- A backend that is set is found. -/
lemma backend?_setBackend {old : Backend} (there : s.backend? b = some old) (backend : Backend) :
    (s.setBackend b backend).backend? b = some backend := by
  have bound : b.index < s.backends.size := (Array.getElem?_eq_some_iff.1 there).1
  rw [backend?, setBackend, Array.getElem?_setIfInBounds, if_pos rfl, if_pos bound]

/-- The backends that are there have a profile. -/
lemma isSome_profile? : (s.profile? b).isSome = (s.backend? b).isSome :=
  Option.isSome_map

/-- Whether a backend has no server or loop that runs, nor any meters that it would expose. -/
def Closed (s : Site α) (b : BackendRef) : Prop :=
  match s.backend? b with
  | some (.scraped registry server) =>
    (∀ x ∈ server, x.running = false) ∧ s.hub.listings registry = []
  | some (.pushing _ _ looping _) => looping = false
  | some (.disabled _) => True
  | none => False

/-- A closed backend is there. -/
lemma Closed.there (closed : s.Closed b) : (s.backend? b).isSome := by
  unfold Closed at closed
  cases backend : s.backend? b with
  | none => simp only [backend] at closed
  | some => rfl

variable [Amount α]

/-- A publication leaves the other backends as they are. -/
lemma backend?_publish_of_ne (s : Site α) (ne : b' ≠ b) (timestamp : Int) :
    (s.publish b timestamp).2.backend? b' = s.backend? b' := by
  unfold publish
  split
  · exact backend?_setBackend_of_ne _ ne _
  · rfl

/-- Ending a loop leaves the other backends as they are. -/
lemma backend?_endLoop_of_ne (s : Site α) (ne : b' ≠ b) (timestamp : Int) :
    (s.endLoop b timestamp).backend? b' = s.backend? b' := by
  have pushed := s.backend?_publish_of_ne ne timestamp
  unfold endLoop
  split
  · cases published : s.publish b timestamp with | mk written s'
    rw [published] at pushed
    dsimp only
    split
    · exact (backend?_setBackend_of_ne _ ne _).trans pushed
    · exact pushed
  · rfl

/-- Closing a backend leaves the others as they are. -/
lemma backend?_close_of_ne (s : Site α) (ne : b' ≠ b) (timestamp : Int) :
    (s.close b timestamp).backend? b' = s.backend? b' := by
  unfold close
  split
  · exact backend?_setBackend_of_ne _ ne _
  · exact s.backend?_endLoop_of_ne ne timestamp
  · rfl

/-- Closing a backend clears its registry, and nothing else in the hub. -/
lemma hub_close (s : Site α) (b : BackendRef) (timestamp : Int) :
    (s.close b timestamp).hub = s.released b :=
  (s.close_alike b timestamp).hub

/-- Closing a backend leaves all profiles as they are. -/
lemma profile?_close (s : Site α) (b b' : BackendRef) (timestamp : Int) :
    (s.close b timestamp).profile? b' = s.profile? b' :=
  (s.close_alike b timestamp).profile? b'

/-- The last push of a loop keeps the backend, but for its sink. -/
lemma backend?_publish {r : RegistryRef} {size : Nat} {looping : Bool} {sink : Influx.Sink}
    (there : s.backend? b = some (.pushing r size looping sink)) (timestamp : Int) :
    ∃ sink', (s.publish b timestamp).2.backend? b = some (.pushing r size looping sink') := by
  simp only [publish, there]
  exact ⟨_, backend?_setBackend (s := { s with network := _ }) there _⟩

/-- A backend whose loop has ended is closed. -/
lemma closed_endLoop {r : RegistryRef} {size : Nat} {looping : Bool} {sink : Influx.Sink}
    (there : s.backend? b = some (.pushing r size looping sink)) (timestamp : Int) :
    (s.endLoop b timestamp).Closed b := by
  cases looping with
  | false => simp only [endLoop, there, Closed]
  | true =>
    obtain ⟨sink', there'⟩ := backend?_publish there timestamp
    have ended := backend?_setBackend there' (.pushing r size false sink')
    simp only [endLoop, there, there', Closed, ended]

/-- A backend that is closed stays behind as a closed one. -/
lemma closed_close (there : (s.backend? b).isSome) (timestamp : Int) :
    (s.close b timestamp).Closed b := by
  obtain ⟨backend, there⟩ := Option.isSome_iff_exists.1 there
  cases backend with
  | scraped r server =>
    have stopped := backend?_setBackend (s := { s with hub := s.hub.clear r }) there
      (.scraped r (server.map fun server => { server with running := false }))
    simp only [close, there, Closed, stopped]
    refine ⟨fun x mem => ?_, (s.hub.listings_clear r r).trans (if_pos rfl)⟩
    obtain ⟨x', -, rfl⟩ := Option.map_eq_some_iff.1 mem
    rfl
  | pushing r size looping sink =>
    simp only [close, there]
    exact closed_endLoop there timestamp
  | disabled r => simp only [close, there, Closed]

/-- What is closed stays so while backends are closed. -/
lemma Closed.close (closed : s.Closed b) (b' : BackendRef) (timestamp : Int) :
    (s.close b' timestamp).Closed b := by
  by_cases same : b = b'
  · subst same
    exact closed_close closed.there timestamp
  · have kept {r : RegistryRef} (nothing : s.hub.listings r = []) :
        (s.released b').listings r = [] := by
      rcases s.released_eq b' with eq | ⟨r', k, -, eq⟩
      · rw [eq, nothing]
      · rw [eq, Hub.listings_clear, nothing]
        exact ite_self _
    unfold Closed at closed ⊢
    rw [s.backend?_close_of_ne same, hub_close]
    split
    all_goals simp_all

/-- The site after some of its backends are closed. -/
def closeAll (s : Site α) (bs : List BackendRef) (timestamp : Int) : Site α :=
  bs.foldl (fun s b => s.close b timestamp) s

/-- Closing backends leaves all profiles as they are. -/
lemma profile?_closeAll (s : Site α) (bs : List BackendRef) (b : BackendRef) (timestamp : Int) :
    (s.closeAll bs timestamp).profile? b = s.profile? b := by
  induction bs generalizing s with
  | nil => rfl
  | cons b' bs ih => exact (ih (s.close b' timestamp)).trans (s.profile?_close b' b timestamp)

/-- Closing backends leaves the others as they are. -/
lemma backend?_closeAll_of_notMem {bs : List BackendRef} (spared : b ∉ bs) (timestamp : Int) :
    (s.closeAll bs timestamp).backend? b = s.backend? b := by
  induction bs generalizing s with
  | nil => rfl
  | cons b' bs ih =>
    have ne : b ≠ b' := List.ne_of_not_mem_cons spared
    exact (ih (List.not_mem_of_not_mem_cons spared)).trans (s.backend?_close_of_ne ne timestamp)

/-- A closed backend stays closed when backends are closed. -/
lemma Closed.closeAll (closed : s.Closed b) (bs : List BackendRef) (timestamp : Int) :
    (s.closeAll bs timestamp).Closed b := by
  induction bs generalizing s with
  | nil => exact closed
  | cons b' bs ih => exact ih (closed.close b' timestamp)

/-- Each of the backends that are closed is closed in the end. -/
lemma closed_closeAll {bs : List BackendRef} (mem : b ∈ bs) (there : (s.backend? b).isSome)
    (timestamp : Int) : (s.closeAll bs timestamp).Closed b := by
  induction bs generalizing s with
  | nil => cases mem
  | cons b' bs ih =>
    rcases List.mem_cons.1 mem with rfl | later
    · exact (closed_close there timestamp).closeAll bs timestamp
    · refine ih later ?_
      rw [← isSome_profile?, profile?_close, isSome_profile?]
      exact there

end Site

namespace Directory

variable {α : Type} {d : Directory} {name : String} {b : BackendRef}

/-- A name under which something is found is among the names. -/
lemma mem_names_of_get? (found : d.get? name = some b) : name ∈ d.names := by
  obtain ⟨before, after, eq, -⟩ := List.lookup_eq_some_iff.1 found
  refine List.mem_mergeSort.2 (List.mem_map.2 ⟨(name, b), ?_, rfl⟩)
  rw [eq]
  exact List.mem_append_right _ (List.mem_cons_self ..)

/-- Erasing a name that is not there changes nothing. -/
lemma erase_of_get?_none (absent : d.get? name = none) : d.erase name = d := by
  obtain ⟨entries⟩ := d
  refine congrArg Directory.mk (List.filter_eq_self.2 fun e mem => ?_)
  exact decide_eq_true (bne_iff_ne.1 (List.lookup_eq_none_iff.1 absent e mem)).symm

variable [Amount α]

/-- Names are stopped one by one: each is erased and its backend closed. -/
lemma stopEach_eq (d : Directory) (s : Site α) {names : List String} (nodup : names.Nodup)
    (timestamp : Int) :
    stopEach timestamp names (d, s) =
      (⟨d.entries.filter fun e => e.1 ∉ names⟩, s.closeAll (names.filterMap d.get?) timestamp) := by
  induction names generalizing d s with
  | nil =>
    have all : d.entries.filter (fun e => e.1 ∉ ([] : List String)) = d.entries :=
      List.filter_eq_self.2 fun e _ => decide_eq_true List.not_mem_nil
    rw [all]
    rfl
  | cons name names ih =>
    obtain ⟨fresh, nodup⟩ := List.nodup_cons.1 nodup
    have entries : (d.erase name).entries.filter (fun e => e.1 ∉ names) =
        d.entries.filter fun e => e.1 ∉ name :: names := by
      rw [erase, List.filter_filter]
      refine List.filter_congr fun e _ => ?_
      rw [← Bool.decide_and]
      exact decide_eq_decide.2 (by rw [List.mem_cons, not_or, and_comm])
    -- no other name is erased
    have backends : names.filterMap (d.erase name).get? = names.filterMap d.get? := by
      refine List.filterMap_congr fun n mem => ?_
      rw [get?_erase, if_neg fun same : n = name => fresh (same ▸ mem)]
    rw [stopEach]
    cases found : d.get? name with
    | some b =>
      simp only [stop, found]
      rw [ih _ _ nodup, entries, backends, List.filterMap_cons, found]
      rfl
    | none =>
      simp only [stop, found]
      rw [ih _ _ nodup, ← entries, erase_of_get?_none found, List.filterMap_cons, found]

/-- Stopping all names empties the directory and closes all its backends. -/
theorem stopAll_eq (d : Directory) (s : Site α) (nodup : (d.entries.map Prod.fst).Nodup)
    (timestamp : Int) :
    d.stopAll s timestamp = (empty, s.closeAll (d.names.filterMap d.get?) timestamp) := by
  have names : d.names.Nodup := List.nodup_mergeSort.2 nodup
  have nothing : d.entries.filter (fun e => e.1 ∉ d.names) = [] := by
    refine List.filter_eq_nil_iff.2 fun e mem => ?_
    have listed : e.1 ∈ d.names := List.mem_mergeSort.2 (List.mem_map_of_mem mem)
    simpa using listed
  rw [stopAll, stopEach_eq d s names, nothing]
  rfl

end Directory

end Metering
