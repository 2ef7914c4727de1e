import Metering.Proofs.Monitor.Closing
import Metering.Proofs.Monitor.World

/-!
# Whose backend is closed

A monitor is closed by the name of its backend, and the directory may hold another backend under the
name by then. Every backend but the one under the name is spared (`World.Spares`). So a monitor that
is closed spares the backends of others exactly if the name stands for its own backend or for none,
as it does while nobody has removed the name since the monitor was set up
(`World.spares_others_iff`).
-/

namespace Metering

namespace World

variable {α : Type} [Amount α] {w w' : World α} {m : Monitor}

/-- The world after a monitor is closed. -/
def retire (w : World α) (m : Monitor) (timestamp : Int) : World α :=
  w.withState (m.close w.directory w.site timestamp)

/-- A backend keeps its names, what it is, and what it lists. -/
structure Spares (w w' : World α) (b : BackendRef) : Prop where
  name {name : String} : w.directory.get? name = some b → w'.directory.get? name = some b
  backend? : w'.site.backend? b = w.site.backend? b
  meters {backend : Backend} : w.site.backend? b = some backend →
    w'.site.hub.meters backend.registry = w.site.hub.meters backend.registry

def removes (w : World α) (name : String) : Operation → Bool
  | .close monitor _ => w.monitors[monitor]?.any fun m => m.registryName = name
  | .stop n _ => n = name
  | .stopAll _ => true
  | _ => false

/-- Whether some operations leave a name in the directory. -/
def keeps (name : String) : World α → List Operation → Bool
  | _, [] => true
  | w, op :: ops => !w.removes name op && keeps name (w.step op) ops

/-! ## Names that are kept -/

omit [Amount α] in
/-- A setup leaves the entries that are there. -/
lemma get?_of_setup {d d' : Directory} {s s' : Site α} {around : Surroundings} {name n : String}
    {o : BackendOptions} {b b' : BackendRef} (ok : d.setup s around name o = .ok (b, d', s'))
    (entry : d.get? n = some b') : d'.get? n = some b' := by
  rcases Directory.setup_inv ok with ⟨-, rfl, -⟩ | ⟨absent, rfl, -⟩
  · exact entry
  · rw [Directory.get?_cons, if_neg, entry]
    rintro rfl
    rw [absent] at entry
    cases entry

/-- Stopping a name leaves the entries of the others. -/
lemma get?_stop {d : Directory} {s : Site α} {name n : String} {timestamp : Int} (ne : n ≠ name) :
    (d.stop s name timestamp).1.get? n = d.get? n := by
  rw [Directory.stop]
  cases d.get? name with
  | none => rfl
  | some b => exact (d.get?_erase name n).trans (if_neg ne)

/-- An entry stays while nobody removes its name. -/
lemma get?_step {name : String} {b : BackendRef} (entry : w.directory.get? name = some b)
    {op : Operation} (kept : w.removes name op = false) :
    (w.step op).directory.get? name = some b := by
  cases op with
  | setup around options =>
    cases ok : Monitor.setup w.directory w.site around options with
    | error e => simpa only [step, ok] using entry
    | ok result =>
      obtain ⟨m, d, s⟩ := result
      obtain ⟨s', ok', -⟩ := Monitor.setup_inv ok
      simp only [step, ok]
      exact get?_of_setup ok' entry
  | setupBackend around n options =>
    cases ok : w.directory.setup w.site around n options with
    | error e => simpa only [step, ok] using entry
    | ok result =>
      obtain ⟨b', d, s⟩ := result
      simp only [step, ok]
      exact get?_of_setup ok entry
  | report monitor report =>
    rw [step]
    split
    · split <;> exact entry
    · exact entry
  | publish => exact entry
  | close monitor timestamp =>
    rw [step]
    cases found : w.monitors[monitor]? with
    | none => exact entry
    | some m =>
      rw [removes, found] at kept
      exact (get?_stop (Ne.symm (of_decide_eq_false kept))).trans entry
  | stop n timestamp => exact (get?_stop (Ne.symm (of_decide_eq_false kept))).trans entry
  | stopAll => cases kept

/-- An entry stays through operations that keep it. -/
lemma get?_of_keeps {name : String} {b : BackendRef} (entry : w.directory.get? name = some b)
    {ops : List Operation} (kept : keeps name w ops) :
    (ops.foldl step w).directory.get? name = some b := by
  induction ops generalizing w with
  | nil => exact entry
  | cons op ops ih =>
    obtain ⟨stays, kept⟩ := Bool.and_eq_true_iff.1 kept
    exact ih (get?_step entry (Bool.not_eq_true' _ ▸ stays)) kept

/-! ## Backends that are spared -/

/-- A monitor that is closed spares all but what the directory holds under its name. -/
lemma Sound.spares_iff (sound : w.Sound) (m : Monitor) (timestamp : Int) (b : BackendRef) :
    w.Spares (w.retire m timestamp) b ↔ w.directory.get? m.registryName ≠ some b := by
  cases entry : w.directory.get? m.registryName with
  | none =>
    have same : w.retire m timestamp = w := by
      rw [retire, Monitor.close, Directory.stop, entry]
      rfl
    rw [same]
    exact iff_of_true ⟨id, rfl, fun _ => rfl⟩ (Option.some_ne_none b).symm
  | some b' =>
    have closed : w.retire m timestamp =
        ⟨w.directory.erase m.registryName, w.site.close b' timestamp, w.monitors⟩ := by
      rw [retire, Monitor.close, Directory.stop, entry]
      rfl
    rw [closed]
    constructor
    · intro spares same
      obtain rfl := Option.some.inj same
      have kept := spares.name entry
      rw [Directory.get?_erase, if_pos rfl] at kept
      cases kept
    · intro ne
      have ne : b ≠ b' := fun same => ne (congrArg some same.symm)
      constructor
      case name =>
        intro n here
        rw [Directory.get?_erase, if_neg, here]
        rintro rfl
        exact ne (Option.some.inj (here.symm.trans entry))
      case backend? => exact w.site.backend?_close_of_ne ne timestamp
      case meters =>
        intro backend there
        dsimp only
        rw [Site.hub_close]
        rcases w.site.released_eq b' with eq | ⟨r, k, profile, eq⟩
        · rw [eq]
        · rw [eq]
          refine w.site.hub.meters_clear_of_ne fun same => ne ?_
          -- backends have registries of their own
          have profile' : w.site.profile? b = some (r, backend.kind) := by
            rw [Site.profile?, there, Option.map_some, same]
          exact sound.registry_inj profile' profile

/-- After any operations a monitor is set up, and closed after some more. Closing it spares the
backends of others if and only if its name stands for no other backend than its own. So it does if
nobody has removed the name in between; otherwise the name may stand for the backend of a monitor that
was set up later, which is closed then. -/
theorem spares_others_iff (before between : List Operation) {around : Surroundings} {o : Options}
    {m : Monitor} {state : Directory × Site α}
    (ok : Monitor.setup (run before : World α).directory (run before : World α).site around o =
      .ok (m, state))
    (timestamp : Int) :
    let w : World α := run (before ++ .setup around o :: between)
    ((∀ b ≠ m.backend, w.Spares (w.retire m timestamp) b) ↔
      ∀ b, w.directory.get? m.registryName = some b → b = m.backend) ∧
    (keeps m.registryName ((run before : World α).step (.setup around o)) between →
      w.directory.get? m.registryName = some m.backend) := by
  intro w
  have spares := (sound_run (before ++ .setup around o :: between) : w.Sound).spares_iff m timestamp
  refine ⟨⟨fun all b entry => ?_, fun own b other => (spares b).2 fun entry => other (own b entry)⟩,
    fun kept => ?_⟩
  · by_contra other
    exact (spares b).1 (all b other) entry
  · obtain ⟨d, s⟩ := state
    obtain ⟨s', ok', -⟩ := Monitor.setup_inv ok
    have entry : ((run before : World α).step (.setup around o)).directory.get? m.registryName =
        some m.backend := by
      simp only [step, ok]
      rw [Monitor.registryName_of_setup ok]
      exact ((sound_run before).setupBackend ok').2
    have after : w = between.foldl step ((run before : World α).step (.setup around o)) :=
      List.foldl_append
    rw [after]
    exact get?_of_keeps entry kept

/-- The name of the first monitor is not removed, so that closing it spares the backend of the
second. -/
theorem spares_others_of_kept_name :
    let around : Surroundings := .alone true [] 0
    let o : Options := { enabled := true, backend := .prometheus {} }
    let between : List Operation := [.setup around { o with registryName := "other" },
      .report 1 (.deployments (.deployed "app")), .close 1 0]
    let m : Monitor := ⟨"default", ⟨0⟩, ⟨0, ⟨0⟩⟩, {}, CategorySet.empty⟩
    let w : World ℚ := run (.setup around o :: between)
    ∃ state, Monitor.setup (run [] : World ℚ).directory (run [] : World ℚ).site around o =
        .ok (m, state) ∧
      w.directory.get? "default" = some m.backend ∧
      ∀ b ≠ m.backend, w.Spares (w.retire m 0) b := by
  intro around o between m w
  have ok : Monitor.setup (run [] : World ℚ).directory (run [] : World ℚ).site around o =
      .ok (m, _, _) := rfl
  have all := spares_others_iff [] between ok 0
  have own := all.2 (by decide +kernel)
  refine ⟨_, ok, own, all.1.2 fun b entry => ?_⟩
  exact Option.some.inj (entry.symm.trans own)

/-- Two monitors share a backend, the first is closed and a third is set up under the same name. When
the second is closed, the backend of the third is: its name is gone, and so is what it listed. -/
theorem not_spares_later_monitor :
    let around : Surroundings := .alone true [] 0
    let o : Options := { enabled := true, backend := .prometheus {} }
    let w : World ℚ := run [.setup around o, .setup around o, .close 0 0, .setup around o,
      .report 2 (.deployments (.deployed "app"))]
    let second : Monitor := ⟨"default", ⟨0⟩, ⟨1, ⟨0⟩⟩, {}, CategorySet.empty⟩
    let third : Monitor := ⟨"default", ⟨1⟩, ⟨2, ⟨1⟩⟩, {}, CategorySet.empty⟩
    w.monitors[1]? = some second ∧ w.monitors[2]? = some third ∧ third.backend ≠ second.backend ∧
      w.directory.get? "default" = some third.backend ∧
      (w.step (.close 1 0)).directory.get? "default" = none ∧
      (w.site.hub.listings ⟨1⟩).length = 1 ∧
      (w.step (.close 1 0)).site.hub.listings ⟨1⟩ = [] := by
  intro around o w second third
  decide +kernel

end World

end Metering
