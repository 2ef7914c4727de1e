import Mathlib.Data.List.DropRight
import Metering.Proofs.Monitor.Closing

/-!
# Chronicles of a directory

What is asked of a directory (`Directory.Request`) over any time, with the answers and with the
backends that were closed (`Chronicle`). To whoever asks, the directory is a plain map: a name stands
for the backend of the first setup that succeeded since the name was removed last, and nothing but a
removal closes a backend, once (`Chronicle.isMap_run`). The invariant behind it is
`Chronicle.Sound`.
-/

namespace Metering

namespace Directory

/-- What can be asked of a directory. -/
inductive Request where
  | setup (around : Surroundings) (name : String) (options : BackendOptions)
  | get (name : String)
  | stop (name : String) (timestamp : Int)
  | stopAll (timestamp : Int)
  | shutdownAll (timestamp : Int)

/-- The backend that a setup comes to or that is found under a name, if any. -/
abbrev Answer := Except MeteringError (Option BackendRef)

namespace Request

def isAbout (name : String) : Request → Bool
  | setup _ n _ => n = name
  | get n => n = name
  | stop n _ => n = name
  | stopAll _ => true
  | shutdownAll _ => true

def removes (name : String) : Request → Bool
  | stop n _ => n = name
  | stopAll _ => true
  | shutdownAll _ => true
  | _ => false

/-- When a request removes names. -/
def removal? : Request → Option Int
  | stop _ timestamp => some timestamp
  | stopAll timestamp => some timestamp
  | shutdownAll timestamp => some timestamp
  | _ => none

def removesAll : Request → Bool
  | stopAll _ => true
  | shutdownAll _ => true
  | _ => false

/-- The backends under the names that a request removes. -/
def closes (d : Directory) : Request → List BackendRef
  | stop name _ => (d.get? name).toList
  | stopAll _ => d.names.filterMap d.get?
  | shutdownAll _ => d.names.filterMap d.get?
  | _ => []

/-- The answer to a request, and the directory and site after it. -/
def perform {α : Type} [Amount α] (d : Directory) (s : Site α) :
    Request → Answer × Directory × Site α
  | setup around name o =>
    match d.setup s around name o with
    | .ok (b, d, s) => (.ok (some b), d, s)
    | .error e => (.error e, d, s)
  | get name => (.ok (d.get? name), d, s)
  | stop name timestamp => (.ok none, d.stop s name timestamp)
  | stopAll timestamp => (.ok none, d.stopAll s timestamp)
  | shutdownAll timestamp => (.ok none, d.shutdownAll s timestamp)

end Request

/-- The backend of a setup of a name that succeeded. -/
def setUp? (name : String) : Request × Answer → Option BackendRef
  | (.setup _ n _, .ok b) => if n = name then b else none
  | _ => none

variable {α : Type} [Amount α]

/-- What a request to a directory can come to. -/
inductive Effect (d : Directory) (s : Site α) : Request → Answer → Directory → Site α → Prop where
  | found {around : Surroundings} {name : String} {o : BackendOptions} {b : BackendRef}
    (here : d.get? name = some b) : Effect d s (.setup around name o) (.ok (some b)) d s
  | built {around : Surroundings} {name : String} {o : BackendOptions} {b : BackendRef}
    {s' : Site α} (absent : d.get? name = none) (ok : s.build around o = .ok (b, s')) :
    Effect d s (.setup around name o) (.ok (some b)) ⟨(name, b) :: d.entries⟩ s'
  | failed {around : Surroundings} {name : String} {o : BackendOptions} {e : MeteringError}
    (absent : d.get? name = none) (error : s.build around o = .error e) :
    Effect d s (.setup around name o) (.error e) d s
  | got {name : String} : Effect d s (.get name) (.ok (d.get? name)) d s
  | removed {q : Request} {timestamp : Int} (removal : q.removal? = some timestamp) :
    Effect d s q (.ok none) ⟨d.entries.filter fun e => !q.removes e.1⟩
      (s.closeAll (q.closes d) timestamp)

variable {d : Directory} {s : Site α}

/-- What a request does is one of its effects. -/
lemma effect_perform (nodup : (d.entries.map Prod.fst).Nodup) (q : Request) :
    Effect d s q (q.perform d s).1 (q.perform d s).2.1 (q.perform d s).2.2 := by
  have all (timestamp : Int) : d.stopAll s timestamp =
      (⟨d.entries.filter fun _ => !true⟩, s.closeAll (d.names.filterMap d.get?) timestamp) := by
    have none_left : d.entries.filter (fun _ => !true) = [] :=
      List.filter_eq_nil_iff.2 fun e _ => Bool.false_ne_true
    rw [stopAll_eq d s nodup, none_left]
    rfl
  cases q with
  | setup around name o =>
    rw [Request.perform, Directory.setup]
    cases here : d.get? name with
    | some b => exact .found here
    | none =>
      cases built : s.build around o with
      | ok result => exact .built here built
      | error e => exact .failed here built
  | get name => exact .got
  | stop name timestamp =>
    have removed : Effect d s (.stop name timestamp) _ _ _ := .removed rfl
    have erased : (⟨d.entries.filter fun e => !decide (name = e.1)⟩ : Directory) = d.erase name := by
      simp only [erase, ne_eq, decide_not, eq_comm]
    have stop : d.stop s name timestamp =
        (d.erase name, s.closeAll (d.get? name).toList timestamp) := by
      cases here : d.get? name with
      | some b =>
        simp only [Directory.stop, here]
        rfl
      | none =>
        simp only [Directory.stop, here, erase_of_get?_none here]
        rfl
    simp only [Request.perform, stop, ← erased]
    exact removed
  | stopAll timestamp =>
    have removed : Effect d s (.stopAll timestamp) _ _ _ := .removed rfl
    simp only [Request.perform, all]
    exact removed
  | shutdownAll timestamp =>
    have removed : Effect d s (.shutdownAll timestamp) _ _ _ := .removed rfl
    simp only [Request.perform, shutdownAll, all]
    exact removed

/-- A request closes the backends of the names that it removes. -/
lemma Request.mem_closes {q : Request} {b : BackendRef} :
    b ∈ q.closes d ↔ ∃ name, q.removes name ∧ d.get? name = some b := by
  have all : b ∈ d.names.filterMap d.get? ↔ ∃ name, d.get? name = some b := by
    rw [List.mem_filterMap]
    exact exists_congr fun name => and_iff_right_of_imp mem_names_of_get?
  cases q with
  | stop name timestamp => simp [closes, removes]
  | stopAll => simp [closes, removes, all]
  | shutdownAll => simp [closes, removes, all]
  | setup => simp [closes, removes]
  | get => simp [closes, removes]

/-- A request closes no backend twice. -/
lemma Request.nodup_closes (nodup : (d.entries.map Prod.fst).Nodup)
    (inj : ∀ {name name' b}, d.get? name = some b → d.get? name' = some b → name = name')
    (q : Request) : (q.closes d).Nodup := by
  have all : (d.names.filterMap d.get?).Nodup :=
    (List.nodup_mergeSort.2 nodup).filterMap fun name name' b here here' => inj here here'
  cases q with
  | stop name timestamp =>
    rw [closes]
    cases d.get? name with
    | none => exact List.nodup_nil
    | some b => exact List.nodup_singleton b
  | stopAll => exact all
  | shutdownAll => exact all
  | setup => exact List.nodup_nil
  | get => exact List.nodup_nil

namespace Effect

variable {q : Request} {a : Answer} {d' : Directory} {s' : Site α}

/-- A backend that is there stays there. -/
lemma isSome_profile? (effect : Effect d s q a d' s') {b : BackendRef}
    (there : (s.profile? b).isSome) : (s'.profile? b).isSome := by
  cases effect with
  | found => exact there
  | failed => exact there
  | got => exact there
  | built _ ok =>
    obtain ⟨registry, k, more⟩ := Site.build_inv ok
    obtain ⟨p, there⟩ := Option.isSome_iff_exists.1 there
    rw [more.keep there]
    rfl
  | removed =>
    rw [Site.profile?_closeAll]
    exact there

/-- What a name stands for after a request. -/
lemma get? (effect : Effect d s q a d' s') (name : String) :
    d'.get? name =
      if q.removes name then none else (d.get? name).or (setUp? name (q, a)) := by
  cases effect with
  | failed => exact Option.or_none.symm
  | got => exact Option.or_none.symm
  | @found around n o b here =>
    change d.get? name = (d.get? name).or (if n = name then some b else none)
    by_cases same : n = name
    · subst same
      rw [here, Option.some_or]
    · rw [if_neg same, Option.or_none]
  | @built around n o b s' absent ok =>
    change _ = (d.get? name).or (if n = name then some b else none)
    rw [get?_cons]
    by_cases same : n = name
    · subst same
      rw [if_pos rfl, if_pos rfl, absent, Option.none_or]
    · rw [if_neg (Ne.symm same), if_neg same, Option.or_none]
  | removed removal =>
    have none_set : setUp? name (q, .ok none) = none := by
      cases q <;> first | rfl | cases removal
    rw [d.get?_filter (Request.removes · q), none_set, Option.or_none]

/-- The names stay apart. -/
lemma nodup_names (effect : Effect d s q a d' s') (nodup : (d.entries.map Prod.fst).Nodup) :
    (d'.entries.map Prod.fst).Nodup := by
  cases effect with
  | found => exact nodup
  | failed => exact nodup
  | got => exact nodup
  | built absent _ =>
    refine List.nodup_cons.2 ⟨fun mem => ?_, nodup⟩
    obtain ⟨e, mem, same⟩ := List.mem_map.1 mem
    exact bne_iff_ne.1 (List.lookup_eq_none_iff.1 absent e mem) same.symm
  | removed => exact nodup.sublist (List.filter_sublist.map _)

/-- A backend that is set up, or found under a name, is there. -/
lemma answered (effect : Effect d s q a d' s')
    (entry : ∀ {name b}, d.get? name = some b → (s.profile? b).isSome) {b : BackendRef}
    (eq : a = .ok (some b)) : (s'.profile? b).isSome := by
  cases effect with
  | found here =>
    cases eq
    exact entry here
  | failed => cases eq
  | got => exact entry (Except.ok.inj eq)
  | built _ ok =>
    cases eq
    obtain ⟨registry, k, more⟩ := Site.build_inv ok
    rw [more.profile?, if_pos rfl]
    rfl
  | removed => cases eq

/-- A name stands for what it stood for, or for a backend that is new under this name. -/
lemma of_get? (effect : Effect d s q a d' s')
    (entry : ∀ {name b}, d.get? name = some b → (s.profile? b).isSome) {name : String}
    {b : BackendRef} (here : d'.get? name = some b) :
    d.get? name = some b ∨
      s.profile? b = none ∧ (s'.profile? b).isSome ∧ ∀ n, d'.get? n = some b → n = name := by
  cases effect with
  | found => exact .inl here
  | failed => exact .inl here
  | got => exact .inl here
  | built absent ok =>
    obtain ⟨registry, k, more⟩ := Site.build_inv ok
    rcases of_get?_cons here with ⟨rfl, rfl⟩ | old
    · refine .inr ⟨more.new, ?_, fun n here' => ?_⟩
      · rw [more.profile?, if_pos rfl]
        rfl
      · rcases of_get?_cons here' with ⟨same, -⟩ | old
        · exact same
        · have known := entry old
          rw [more.new] at known
          cases known
    · exact .inl old
  | @removed q timestamp removal =>
    rw [d.get?_filter (Request.removes · q)] at here
    split at here
    · cases here
    · exact .inl here

/-- A removal closes what the request closes, and does nothing else. -/
lemma closing (effect : Effect d s q a d' s') {timestamp : Int}
    (removal : q.removal? = some timestamp) : s' = s.closeAll (q.closes d) timestamp := by
  cases effect with
  | removed removal' =>
    cases removal.symm.trans removal'
    rfl
  | _ => cases removal

/-- Removing all names leaves none. -/
lemma emptied (effect : Effect d s q a d' s') (all : q.removesAll) : d' = empty := by
  have gone (name : String) : q.removes name = true := by
    cases q <;> first | rfl | cases all
  cases effect with
  | removed =>
    refine congrArg Directory.mk (List.filter_eq_nil_iff.2 fun e _ => ?_)
    rw [gone]
    exact Bool.false_ne_true
  | _ => cases all

/-- A backend that the request does not close stays as it is. -/
lemma spared (effect : Effect d s q a d' s') {b : BackendRef} (there : (s.backend? b).isSome)
    (spared : b ∉ q.closes d) : s'.backend? b = s.backend? b := by
  cases effect with
  | found => rfl
  | failed => rfl
  | got => rfl
  | built _ ok => exact Site.backend?_build ok there
  | removed => exact Site.backend?_closeAll_of_notMem spared _

/-- A failed request leaves everything as it is. -/
lemma failed_eq (effect : Effect d s q a d' s') {e : MeteringError} (error : a = .error e) :
    d' = d ∧ s' = s := by
  cases effect with
  | failed => exact ⟨rfl, rfl⟩
  | _ => cases error

/-- A request about one name changes no other. -/
lemma others (effect : Effect d s q a d' s') {name : String} (other : q.isAbout name = false) :
    d'.get? name = d.get? name := by
  have setUp : setUp? name (q, a) = none := by
    cases q with
    | setup around n o =>
      cases a with
      | ok b => exact if_neg (of_decide_eq_false other)
      | error => rfl
    | _ => rfl
  have stays : q.removes name = false := by
    cases q <;> first | rfl | exact other
  rw [effect.get? name, setUp, stays, if_neg Bool.false_ne_true, Option.or_none]

end Effect

end Directory

open Directory (Request Answer)

/-- A directory and its site over time. -/
structure Chronicle (α : Type) where
  directory : Directory
  site : Site α
  /-- What was asked and answered so far. -/
  exchanges : List (Request × Answer)
  /-- The backends that were closed so far. -/
  closed : List BackendRef

namespace Chronicle

variable {α : Type}

/-- An empty directory over some site. -/
def start (s : Site α) : Chronicle α := ⟨.empty, s, [], []⟩

/-- The directory with its site. -/
def state (c : Chronicle α) : Directory × Site α := (c.directory, c.site)

/-- The backend of the first setup of a name that succeeded since the name was removed last. -/
def first? (c : Chronicle α) (name : String) : Option BackendRef :=
  (c.exchanges.rtakeWhile fun e => !e.1.removes name).findSome? (Directory.setUp? name)

variable [Amount α]

def answer (c : Chronicle α) (q : Request) : Answer :=
  (q.perform c.directory c.site).1

def step (c : Chronicle α) (q : Request) : Chronicle α :=
  let (answer, d, s) := q.perform c.directory c.site
  ⟨d, s, c.exchanges ++ [(q, answer)], c.closed ++ q.closes c.directory⟩

/-- The chronicle of requests to an empty directory over some site. -/
def run (s : Site α) (qs : List Request) : Chronicle α :=
  qs.foldl step (start s)

/-- A directory is a plain map from names to backends that closes what it removes. -/
structure IsMap (c : Chronicle α) : Prop where
  /-- A name stands for the backend of the first setup of it since its last removal. -/
  get (name : String) : c.answer (.get name) = .ok (c.first? name)
  /-- Whoever asks for a name changes nothing. -/
  get_state (name : String) : (c.step (.get name)).state = c.state
  /-- A setup finds the backend of a name, whatever the options, and changes nothing. -/
  found {name : String} {b : BackendRef} (here : c.directory.get? name = some b)
    (around : Surroundings) (o : BackendOptions) :
    c.answer (.setup around name o) = .ok (some b) ∧
      (c.step (.setup around name o)).state = c.state
  /-- A setup of a name that is not there builds a backend that was never known before. -/
  built {name : String} (absent : c.directory.get? name = none) {around : Surroundings}
    {o : BackendOptions} {b : BackendRef} {s : Site α} (ok : c.site.build around o = .ok (b, s)) :
    c.answer (.setup around name o) = .ok (some b) ∧ (c.step (.setup around name o)).site = s ∧
      (c.step (.setup around name o)).directory.get? name = some b ∧
      c.site.backend? b = none ∧ ∀ e ∈ c.exchanges, e.2 ≠ .ok (some b)
  /-- If the backend cannot be built, the setup fails. -/
  fails {name : String} (absent : c.directory.get? name = none) {around : Surroundings}
    {o : BackendOptions} {e : MeteringError} (error : c.site.build around o = .error e) :
    c.answer (.setup around name o) = .error e
  /-- A setup that fails changes nothing. -/
  failed {name : String} {around : Surroundings} {o : BackendOptions} {e : MeteringError}
    (error : c.answer (.setup around name o) = .error e) :
    (c.step (.setup around name o)).state = c.state
  /-- A request about one name changes no other. -/
  others {q : Request} {name : String} (other : q.isAbout name = false) :
    (c.step q).directory.get? name = c.directory.get? name
  /-- To stop a name that is not there changes nothing. -/
  absent {name : String} (absent : c.directory.get? name = none) (timestamp : Int) :
    (c.step (.stop name timestamp)).state = c.state
  /-- The backends that a request closes are those that it removes. -/
  closes (q : Request) (b : BackendRef) : b ∈ q.closes c.directory ↔
    ∃ name, c.directory.get? name = some b ∧ (c.step q).directory.get? name = none
  /-- A removal does nothing to the site but close them. -/
  closing {q : Request} {timestamp : Int} (removal : q.removal? = some timestamp) :
    (c.step q).site = c.site.closeAll (q.closes c.directory) timestamp
  /-- What a request closes is closed then. -/
  shut {q : Request} {b : BackendRef} (mem : b ∈ q.closes c.directory) : (c.step q).site.Closed b
  /-- Every other backend is as it was. -/
  spared {q : Request} {b : BackendRef} (there : (c.site.backend? b).isSome)
    (spared : b ∉ q.closes c.directory) : (c.step q).site.backend? b = c.site.backend? b
  /-- No backend is closed twice. -/
  once : c.closed.Nodup
  /-- When all names are removed the directory is empty, and all its backends are closed. -/
  emptied {q : Request} (all : q.removesAll) : (c.step q).directory = .empty ∧
    ∀ name b, c.directory.get? name = some b → (c.step q).site.Closed b

/-! ## The invariant -/

/-- What holds of every chronicle. -/
structure Sound (c : Chronicle α) : Prop where
  names_nodup : (c.directory.entries.map Prod.fst).Nodup
  /-- The directory shows what the exchanges tell. -/
  get? (name : String) : c.directory.get? name = c.first? name
  entry {name : String} {b : BackendRef} :
    c.directory.get? name = some b → (c.site.profile? b).isSome
  entry_inj {name name' : String} {b : BackendRef} :
    c.directory.get? name = some b → c.directory.get? name' = some b → name = name'
  answered {e : Request × Answer} {b : BackendRef} :
    e ∈ c.exchanges → e.2 = .ok (some b) → (c.site.profile? b).isSome
  closed_known {b : BackendRef} : b ∈ c.closed → (c.site.profile? b).isSome
  closed_gone {b : BackendRef} : b ∈ c.closed → ∀ name, c.directory.get? name ≠ some b
  closed_nodup : c.closed.Nodup

variable {c : Chronicle α}

/-- The backend first set up under a name lasts until the name is removed. -/
lemma first?_step (c : Chronicle α) (q : Request) (name : String) :
    (c.step q).first? name =
      if q.removes name then none
      else (c.first? name).or (Directory.setUp? name (q, c.answer q)) := by
  change List.findSome? _ (List.rtakeWhile _ (c.exchanges ++ [(q, c.answer q)])) = _
  rw [List.rtakeWhile_concat]
  cases removes : q.removes name with
  | true => rfl
  | false =>
    rw [Bool.not_false, if_pos rfl, if_neg Bool.false_ne_true, List.findSome?_append,
      List.findSome?_singleton]
    rfl

omit [Amount α] in
/-- The empty history is sound. -/
lemma Sound.start (s : Site α) : (start s).Sound where
  names_nodup := List.nodup_nil
  get? _ := rfl
  entry found := nomatch found
  entry_inj found := nomatch found
  answered mem := nomatch mem
  closed_known mem := nomatch mem
  closed_gone mem := nomatch mem
  closed_nodup := List.nodup_nil

namespace Sound

/-- Every request keeps the chronicle sound. -/
theorem step (sound : c.Sound) (q : Request) : (c.step q).Sound := by
  have effect := Directory.effect_perform (s := c.site) sound.names_nodup q
  have closing {b : BackendRef} (mem : b ∈ q.closes c.directory) :
      ∃ name, q.removes name ∧ c.directory.get? name = some b :=
    Directory.Request.mem_closes.1 mem
  have known {b : BackendRef} (mem : b ∈ c.closed ++ q.closes c.directory) :
      (c.site.profile? b).isSome := by
    rcases List.mem_append.1 mem with old | new
    · exact sound.closed_known old
    · obtain ⟨name, -, here⟩ := closing new
      exact sound.entry here
  exact
    { names_nodup := effect.nodup_names sound.names_nodup
      get? := fun name => by
        rw [first?_step, ← sound.get?]
        exact effect.get? name
      entry := fun here => by
        rcases effect.of_get? sound.entry here with old | ⟨-, there, -⟩
        · exact effect.isSome_profile? (sound.entry old)
        · exact there
      -- a name found afterwards was found before, or its backend is the one just built
      entry_inj := fun here here' => by
        rcases effect.of_get? sound.entry here with old | ⟨-, -, only⟩
        · rcases effect.of_get? sound.entry here' with old' | ⟨-, -, only'⟩
          · exact sound.entry_inj old old'
          · exact only' _ here
        · exact (only _ here').symm
      answered := fun mem eq => by
        rcases List.mem_append.1 mem with old | new
        · exact effect.isSome_profile? (sound.answered old eq)
        · rw [List.mem_singleton.1 new] at eq
          exact effect.answered sound.entry eq
      closed_known := fun mem => effect.isSome_profile? (known mem)
      closed_gone := fun mem name here => by
        rcases effect.of_get? sound.entry here with old | ⟨new, -, -⟩
        · rcases List.mem_append.1 mem with before | now
          · exact sound.closed_gone before name old
          · -- it is removed under the only name that it had
            obtain ⟨name', removes, here'⟩ := closing now
            obtain rfl := sound.entry_inj old here'
            have gone := effect.get? name
            rw [if_pos removes] at gone
            cases gone.symm.trans here
        · have there := known mem
          rw [new] at there
          cases there
      closed_nodup := by
        refine sound.closed_nodup.append
          (Directory.Request.nodup_closes sound.names_nodup sound.entry_inj q) fun b before now => ?_
        obtain ⟨name, -, here⟩ := closing now
        exact sound.closed_gone before name here }

/-- Every history is sound. -/
theorem run (s : Site α) (qs : List Request) : (run s qs).Sound := by
  -- along the requests, from any sound chronicle
  have steps (c : Chronicle α) (sound : c.Sound) : (qs.foldl Chronicle.step c).Sound := by
    induction qs generalizing c with
    | nil => exact sound
    | cons q qs ih => exact ih (c.step q) (sound.step q)
  exact steps _ (Sound.start s)

/-- In a sound history the directory is the map that the answers describe. -/
theorem isMap (sound : c.Sound) : c.IsMap := by
  have effect (q : Request) := Directory.effect_perform (s := c.site) sound.names_nodup q
  have get? (q : Request) (name : String) : (c.step q).directory.get? name =
      if q.removes name then none
      else (c.directory.get? name).or (Directory.setUp? name (q, c.answer q)) :=
    (effect q).get? name
  -- what a request closes is what the directory names before it and not after it
  have closes (q : Request) (b : BackendRef) : b ∈ q.closes c.directory ↔
      ∃ name, c.directory.get? name = some b ∧ (c.step q).directory.get? name = none := by
    refine Directory.Request.mem_closes.trans (exists_congr fun name => ?_)
    rw [and_comm]
    refine and_congr_right fun here => ?_
    rw [get?, here, Option.some_or]
    simp
  have shut {q : Request} {b : BackendRef} (mem : b ∈ q.closes c.directory) :
      (c.step q).site.Closed b := by
    obtain ⟨name, removes, here⟩ := Directory.Request.mem_closes.1 mem
    obtain ⟨timestamp, removal⟩ : ∃ timestamp, q.removal? = some timestamp := by
      cases q <;> first | exact ⟨_, rfl⟩ | cases removes
    have there := sound.entry here
    rw [Site.isSome_profile?] at there
    have closed := Site.closed_closeAll mem there timestamp
    rwa [← (effect q).closing removal] at closed
  constructor
  case get =>
    intro name
    rw [← sound.get?]
    rfl
  case get_state => exact fun name => rfl
  case found =>
    intro name b here around o
    simp [answer, Chronicle.step, state, Request.perform, Directory.setup, here]
  case built =>
    intro name absent around o b s ok
    obtain ⟨registry, k, more⟩ := Site.build_inv ok
    have performed : Request.perform c.directory c.site (.setup around name o) =
        (.ok (some b), ⟨(name, b) :: c.directory.entries⟩, s) := by
      simp only [Request.perform, Directory.setup, absent, ok]
      rfl
    simp only [answer, Chronicle.step, performed]
    refine ⟨trivial, trivial, ?_, Option.map_eq_none_iff.1 more.new, fun e mem eq => ?_⟩
    · rw [Directory.get?_cons, if_pos rfl]
    · have known := sound.answered mem eq
      rw [more.new] at known
      cases known
  case fails =>
    intro name absent around o e error
    simp only [answer, Request.perform, Directory.setup, absent, error]
    rfl
  case failed =>
    intro name around o e error
    obtain ⟨directory, site⟩ := (effect (.setup around name o)).failed_eq error
    exact Prod.ext directory site
  case others =>
    exact fun other => (effect _).others other
  case absent =>
    intro name absent timestamp
    simp only [Chronicle.step, state, Request.perform, Directory.stop, absent]
  case closes => exact closes
  case closing => exact fun removal => (effect _).closing removal
  case shut => exact shut
  case spared => exact fun there spared => (effect _).spared there spared
  case once => exact sound.closed_nodup
  case emptied =>
    intro q all
    have empty := (effect q).emptied all
    refine ⟨empty, fun name b here => shut ((closes q b).2 ⟨name, here, ?_⟩)⟩
    change (q.perform c.directory c.site).2.1.get? name = none
    rw [empty]
    rfl

end Sound

/-- Whatever is asked of an empty directory over some site, from then on it is a plain map. -/
theorem isMap_run (s : Site α) (qs : List Request) : (run s qs).IsMap :=
  (Sound.run s qs).isMap

end Chronicle

end Metering
