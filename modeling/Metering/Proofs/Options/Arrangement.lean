import Metering.Options.Reading
import Metering.Options.Writing
import Metering.Proofs.Document.Arrangement

/-!
# Arrangements of options

Options are read back from their document, however it is arranged, and what is dropped from it is
read as the default (`ofJson_arranged`). For each kind of options `having` is the value of which only
some members are known, which is also what has been read halfway through the document, and `without`
is what is left when members are dropped at any level. The statements go from the inside out, so
that the fields of a record are read by those before.
-/

namespace Metering

open Document
open Document.Value
open Document.RecordField

variable {drops : Places} {w : Value}

/-! ## Scalars -/

/-- A number below the limit is read as itself. -/
lemma toNatBelow_integer {n limit : Nat} (fits : n < limit) :
    (Node.integer n).toNatBelow limit = .ok n := by
  have inside : (0 : Int) ≤ n ∧ (n : Int) < limit := by omega
  rw [Node.toNatBelow, if_pos inside, Int.toNat_natCast]

/-- A number of sixteen bits is read as itself. -/
lemma toUInt16_integer (n : UInt16) : (Node.integer n.toNat).toUInt16 = .ok n := by
  rw [Node.toUInt16, toNatBelow_integer n.toNat_lt]
  exact congrArg Except.ok UInt16.ofNat_toNat

/-- A number of sixty-four bits is read as itself. -/
lemma toUInt64_integer (n : UInt64) : (Node.integer n.toNat).toUInt64 = .ok n := by
  rw [Node.toUInt64, toNatBelow_integer n.toNat_lt]
  exact congrArg Except.ok UInt64.ofNat_toNat

/-- A number of sixteen bits fits into a document. -/
lemma fits_uint16 (n : UInt16) : Fits n.toNat := by
  have := n.toNat_lt
  unfold Fits
  omega

/-- A number of sixty-four bits fits into a document. -/
lemma fits_uint64 (n : UInt64) : Fits n.toNat := by
  have := n.toNat_lt
  unfold Fits
  omega

/-- An optional text has no members. -/
lemma plain_ofOption (s : Option String) : (Value.ofOption s).Plain := by
  cases s with
  | none => exact .null
  | some s => exact .text s

-- Fields for scalars: the entry is the scalar, and arranging it changes nothing.
namespace Document.RecordField.Readable

variable {ρ : Type} {having : (String → Bool) → ρ} {entries : List (String × Value)} {name : String}

/-- A step that reads a truth value gets the one that was written. -/
lemma bool {put : Bool → ρ → ρ} (b : Bool) (only : ∀ u, (name, u) ∈ entries → u = .bool b)
    (put_eq : ∀ has, put b (having has) = having fun n => n == name || has n) :
    Readable having drops entries (.reading name Node.toBool put) :=
  .closed b _ only rfl rfl put_eq

/-- A step that reads a text gets the one that was written. -/
lemma text {put : String → ρ → ρ} (s : String) (only : ∀ u, (name, u) ∈ entries → u = .text s)
    (put_eq : ∀ has, put s (having has) = having fun n => n == name || has n) :
    Readable having drops entries (.reading name Node.toText put) :=
  .closed s _ only rfl rfl put_eq

/-- A step that reads an optional text gets what was written. -/
lemma optional {put : Option String → ρ → ρ} (s : Option String)
    (only : ∀ u, (name, u) ∈ entries → u = .ofOption s)
    (put_eq : ∀ has, put s (having has) = having fun n => n == name || has n) :
    Readable having drops entries (.reading name (Node.toOption Node.toText) put) :=
  .closed s _ only (by cases s <;> rfl) (by cases s <;> rfl) put_eq

/-- A step that reads a number gets the one that was written. -/
lemma number {put : UInt64 → ρ → ρ} (n : UInt64)
    (only : ∀ u, (name, u) ∈ entries → u = .ofUInt64 n)
    (put_eq : ∀ has, put n (having has) = having fun m => m == name || has m) :
    Readable having drops entries (.reading name Node.toUInt64 put) :=
  .closed n _ only rfl (toUInt64_integer n) put_eq

end Document.RecordField.Readable

/-! ## Label policies -/

/-- The policy with some of its members, the others at their defaults. -/
def LabelPolicy.having (p : LabelPolicy) (has : String → Bool) : LabelPolicy where
  remoteForClients :=
    if has "remote_for_clients" then p.remoteForClients else ({} : LabelPolicy).remoteForClients
  remoteForServers :=
    if has "remote_for_servers" then p.remoteForServers else ({} : LabelPolicy).remoteForServers

/-- The policy without what is dropped. -/
def LabelPolicy.without (p : LabelPolicy) (drops : Places) : LabelPolicy :=
  p.having fun name => !drops [name]

/-- A label policy is read from every arrangement, with the defaults for what was dropped. -/
theorem LabelPolicy.ofNode_arranged (origin : Origin) (p : LabelPolicy)
    (arranged : Arranged drops p.toDocument w) :
    LabelPolicy.ofNode origin w.node = .ok (p.without drops) := by
  refine record_arranged origin p.having rfl (by decide) (fun has has' same => ?_) ?_ arranged
  · simp only [List.forall_mem_cons, RecordField.reading] at same
    simp [having, same]
  · simp only [List.forall_mem_cons]
    exact ⟨
      .bool p.remoteForClients (by simp) (by simp [having]),
      .bool p.remoteForServers (by simp) (by simp [having]),
      List.forall_mem_nil _⟩

/-! ## Scraped backends -/

/-- The address with some of its members, the others at their defaults. -/
def ListenOptions.having (o : ListenOptions) (has : String → Bool) : ListenOptions where
  host := if has "host" then o.host else ({} : ListenOptions).host
  port := if has "port" then o.port else ({} : ListenOptions).port

/-- The address without what is dropped. -/
def ListenOptions.without (o : ListenOptions) (drops : Places) : ListenOptions :=
  o.having fun name => !drops [name]

/-- Listening options are read from every arrangement, with the defaults for what was dropped. -/
theorem ListenOptions.ofNode_arranged (origin : Origin) (o : ListenOptions)
    (arranged : Arranged drops o.toDocument w) :
    ListenOptions.ofNode origin w.node = .ok (o.without drops) := by
  refine record_arranged origin o.having rfl (by decide) (fun has has' same => ?_) ?_ arranged
  · simp only [List.forall_mem_cons, RecordField.reading] at same
    simp [having, same]
  · simp only [List.forall_mem_cons]
    exact ⟨
      .text o.host (by simp) (by simp [having]),
      .closed o.port (.integer _) (by simp) rfl (toUInt16_integer _) (by simp [having]),
      List.forall_mem_nil _⟩

/-- The settings with some of their members, the others at their defaults. -/
def ScrapeOptions.having (o : ScrapeOptions) (has : String → Bool) : ScrapeOptions where
  server := if has "embedded_server" then o.server else ({} : ScrapeOptions).server
  endpoint := if has "endpoint" then o.endpoint else ({} : ScrapeOptions).endpoint

/-- The settings without what is dropped. -/
def ScrapeOptions.without (o : ScrapeOptions) (drops : Places) : ScrapeOptions :=
  let server := o.server.map fun listen => listen.without (drops.within "embedded_server")
  { o with server }.having fun name => !drops [name]

/-- Optional listening options are read from every arrangement. -/
lemma ListenOptions.toOption_arranged (origin : Origin) (o : Option ListenOptions)
    (arranged : Arranged drops ((o.map ListenOptions.toDocument).getD .null) w) :
    w.node.toOption (ListenOptions.ofNode origin) = .ok (o.map (·.without drops)) := by
  cases o with
  | none =>
    rw [arranged.eq_of_closed rfl]
    rfl
  | some o =>
    have read := ListenOptions.ofNode_arranged origin o arranged
    cases arranged with
    | closed none_ => cases none_
    | @members _ _ _ _ result =>
      change ((ListenOptions.ofNode origin (Value.members result).node).map some) = _
      rw [read]
      rfl

/-- Scrape options are read from every arrangement, with the defaults for what was dropped. -/
theorem ScrapeOptions.ofNode_arranged (origin : Origin) (o : ScrapeOptions)
    (arranged : Arranged drops (.members o.members) w) :
    ScrapeOptions.ofNode origin w.node = .ok (o.without drops) := by
  refine record_arranged origin (ScrapeOptions.having _) rfl (by cases origin <;> decide)
    (fun has has' same => ?_) ?_ arranged
  · simp only [fields, List.forall_mem_cons, RecordField.reading] at same
    simp [having, same]
  · simp only [fields, List.forall_mem_cons]
    exact ⟨
      .reading _ ((o.server.map ListenOptions.toDocument).getD .null) (by simp [members])
        (fun w => ListenOptions.toOption_arranged origin o.server) (by simp [having]),
      .text o.endpoint (by simp [members]) (by simp [having]),
      List.forall_mem_nil _⟩

/-! ## Pushing backends -/

/-- The settings with some of their members, the others at their defaults. -/
def PushOptions.having (o : PushOptions) (has : String → Bool) : PushOptions :=
  let default : PushOptions := {}
  { uri := if has "uri" then o.uri else default.uri
    database := if has "db" then o.database else default.database
    userName := if has "user_name" then o.userName else default.userName
    password := if has "password" then o.password else default.password
    retentionPolicy :=
      if has "retention_policy" then o.retentionPolicy else default.retentionPolicy
    step := if has "step_secs" then o.step else default.step
    connectTimeout :=
      if has "connect_timeout_secs" then o.connectTimeout else default.connectTimeout
    readTimeout := if has "read_timeout_secs" then o.readTimeout else default.readTimeout
    batchSize := if has "batch_size" then o.batchSize else default.batchSize
    compressed := if has "compressed" then o.compressed else default.compressed }

/-- The settings without what is dropped. -/
def PushOptions.without (o : PushOptions) (drops : Places) : PushOptions :=
  o.having fun name => !drops [name]

/-- Push options are read from every arrangement, with the defaults for what was dropped. -/
theorem PushOptions.ofNode_arranged (origin : Origin) (o : PushOptions)
    (arranged : Arranged drops (.members o.members) w) :
    PushOptions.ofNode origin w.node = .ok (o.without drops) := by
  refine record_arranged origin o.having rfl (by decide) (fun has has' same => ?_) ?_ arranged
  · simp only [fields, List.forall_mem_cons, RecordField.reading] at same
    simp [having, same]
  · simp only [fields, List.forall_mem_cons]
    exact ⟨
      .text o.uri (by simp [members]) (by simp [having]),
      .text o.database (by simp [members]) (by simp [having]),
      .optional o.userName (by simp [members]) (by simp [having]),
      .optional o.password (by simp [members]) (by simp [having]),
      .optional o.retentionPolicy (by simp [members]) (by simp [having]),
      .number o.step (by simp [members]) (by simp [having]),
      .number o.connectTimeout (by simp [members]) (by simp [having]),
      .number o.readTimeout (by simp [members]) (by simp [having]),
      .number o.batchSize (by simp [members]) (by simp [having]),
      .bool o.compressed (by simp [members]) (by simp [having]),
      List.forall_mem_nil _⟩

/-! ## Backends -/

namespace BackendOptions

/-- The backend without what is dropped of its settings. -/
def without (o : BackendOptions) (drops : Places) : BackendOptions :=
  match o with
  | prometheus settings => .prometheus (settings.without drops)
  | influxDb settings => .influxDb (settings.without drops)
  | disabled => .disabled

/-- The members of the document for a backend apart from its kind. -/
def settings : BackendOptions → List (String × Value)
  | prometheus settings => settings.members
  | influxDb settings => settings.members
  | disabled => []

/-- Backend options are written as their kind and the settings of the kind. -/
lemma toDocument_eq (o : BackendOptions) :
    o.toDocument = .members (("kind", .text o.kind.name) :: o.settings) := by
  cases o <;> rfl

/-- No setting is called like the kind. -/
lemma kind_fresh (o : BackendOptions) : "kind" ∉ o.settings.map Prod.fst := by
  cases o <;> simp [settings, ScrapeOptions.members, PushOptions.members]

/-- A kind is read back from its name. -/
lemma kindOf_name (kind : BackendKind) : kindOf (Value.text kind.name).node = .ok kind := by
  cases kind <;> rfl

variable {entries before after : List (String × Value)} {levels : Nat}

/-- Where no entry is the kind, the kind is the one found before. -/
lemma splitKind_settings (kind : Option BackendKind) (fresh : "kind" ∉ entries.map Prod.fst)
    (writable : EntriesWritable levels entries) :
    splitKind levels kind (entryNodes entries) = .ok (kind, entryNodes entries) := by
  induction entries with
  | nil => rfl
  | cons e entries ih =>
    obtain ⟨name, v⟩ := e
    have other : name ≠ "kind" := fun same => fresh (same ▸ List.mem_cons_self)
    have rest := ih (fun mem => fresh (List.mem_cons_of_mem _ mem)) writable.2
    rw [entryNodes, splitKind]
    simp only [bind, Except.bind, if_neg other, hold_node v writable.1, rest]
    rfl

/-- The kind is found between any other entries, which stay. -/
lemma splitKind_append (kind : BackendKind) (fresh : "kind" ∉ (before ++ after).map Prod.fst)
    (writable : EntriesWritable levels (before ++ after)) :
    splitKind levels none (entryNodes (before ++ ("kind", .text kind.name) :: after)) =
      .ok (some kind, entryNodes (before ++ after)) := by
  induction before with
  | nil =>
    rw [List.nil_append] at fresh writable ⊢
    rw [entryNodes, splitKind]
    simp only [bind, Except.bind, if_true, kindOf_name, Option.isSome_none, Bool.false_eq_true,
      if_false]
    exact splitKind_settings _ fresh writable
  | cons e before ih =>
    obtain ⟨name, v⟩ := e
    have other : name ≠ "kind" := fun same => fresh (same ▸ List.mem_cons_self)
    have rest := ih (fun mem => fresh (List.mem_cons_of_mem _ mem)) writable.2
    rw [List.cons_append, entryNodes, splitKind]
    simp only [bind, Except.bind, if_neg other, hold_node v writable.1, rest]
    rfl

/-- Backend options are read from every arrangement that spares the kind. -/
theorem ofNode_arranged (o : BackendOptions) (spared : drops ["kind"] = false)
    (arranged : Arranged drops o.toDocument w) (writable : w.Writable (levels + 1)) :
    ofNode levels w.node = .ok (o.without drops) := by
  rw [toDocument_eq] at arranged
  obtain ⟨u, before, after, rfl, kind, others, fresh⟩ :=
    arranged.take_first spared (kind_fresh o)
  obtain rfl := kind.eq_of_closed rfl
  have inside : EntriesWritable levels (before ++ after) := by
    refine entriesWritable_iff.2 fun e mem => entriesWritable_iff.1 writable e ?_
    rw [List.mem_append] at mem ⊢
    exact mem.imp_right (List.mem_cons_of_mem _)
  have read : ofNode levels
      (Value.members (before ++ ("kind", .text o.kind.name) :: after)).node =
        ofSettings o.kind (Value.members (before ++ after)).node := by
    rw [node, ofNode, splitKind_append o.kind fresh inside]
    rfl
  rw [read]
  cases o with
  | prometheus settings =>
    exact congrArg (Except.map _) (ScrapeOptions.ofNode_arranged .held settings others)
  | influxDb settings =>
    exact congrArg (Except.map _) (PushOptions.ofNode_arranged .held settings others)
  | disabled => rfl

/-- The settings of a backend can be written. -/
lemma writable_settings (o : BackendOptions) : EntriesWritable (levels + 1) o.settings := by
  cases o with
  | prometheus o =>
    obtain ⟨server, endpoint⟩ := o
    cases server with
    | none => exact ⟨trivial, trivial, trivial⟩
    | some listen => exact ⟨⟨trivial, fits_uint16 _, trivial⟩, trivial, trivial⟩
  | influxDb o =>
    exact ⟨trivial, trivial, (plain_ofOption _).writable, (plain_ofOption _).writable,
      (plain_ofOption _).writable, fits_uint64 _, fits_uint64 _, fits_uint64 _, fits_uint64 _,
      trivial, trivial⟩
  | disabled => trivial

/-- Backend options can be written. -/
lemma writable_toDocument (o : BackendOptions) : o.toDocument.Writable (levels + 2) := by
  rw [toDocument_eq]
  exact ⟨trivial, o.writable_settings⟩

end BackendOptions

/-! ## Categories -/

/-- A category is read back from its document. -/
lemma Category.ofNode_toDocument (origin : Origin) (c : Category) :
    Category.ofNode origin c.toDocument.node = .ok c := by
  cases origin <;> cases c <;> rfl

/-- A set of categories is read back from the list of its members. -/
lemma CategorySet.ofNode_toDocument (origin : Origin) (set : CategorySet) :
    CategorySet.ofNode origin (Value.list (set.members.map Category.toDocument)).node =
      .ok set := by
  have read : (itemNodes (set.members.map Category.toDocument)).mapM (Category.ofNode origin) =
      .ok set.members := by
    generalize set.members = categories
    induction categories with
    | nil => rfl
    | cons c categories ih =>
      rw [List.map_cons, itemNodes, List.mapM_cons, Category.ofNode_toDocument, ih]
      rfl
  rw [CategorySet.ofNode, node, Node.toList, read]
  refine congrArg Except.ok ?_
  obtain ⟨categories, listed⟩ := set
  simp only [ofList, listed]

/-- A set of categories can be written. -/
lemma CategorySet.writable_toDocument (set : CategorySet) {levels : Nat} :
    Writable (levels + 1) (.list (set.members.map Category.toDocument)) := by
  change ItemsWritable levels _
  generalize set.members = categories
  induction categories with
  | nil => trivial
  | cons c categories ih => exact ⟨(Plain.text _).writable, ih⟩

/-! ## Options -/

namespace Options

/-- The options with some of their members, the others at their defaults. -/
def having (o : Options) (has : String → Bool) : Options :=
  let default : Options := {}
  { enabled := if has "enabled" then o.enabled else default.enabled
    registryName := if has "registry_name" then o.registryName else default.registryName
    disabledCategories :=
      if has "disabled_categories" then o.disabledCategories else default.disabledCategories
    labels := if has "labels" then o.labels else default.labels
    backend := if has "backend" then o.backend else default.backend }

/-- The options without what is dropped. -/
def without (o : Options) (drops : Places) : Options :=
  let labels := o.labels.without (drops.within "labels")
  let backend := o.backend.without (drops.within "backend")
  { o with labels, backend }.having fun name => !drops [name]

/-- Options are read from every arrangement that spares the kind of the backend. -/
theorem ofNode_arranged (o : Options) (spared : drops ["backend", "kind"] = false)
    (arranged : Arranged drops o.toDocument w) :
    ofNode .json w.node = .ok (o.without drops) := by
  refine record_arranged .json (having _) rfl (by decide) (fun has has' same => ?_) ?_ arranged
  · simp only [fields, List.forall_mem_cons, RecordField.reading] at same
    simp [having, same]
  · simp only [fields, List.forall_mem_cons]
    refine ⟨
      .bool o.enabled (by simp) (by simp [having]),
      .text o.registryName (by simp) (by simp [having]),
      .closed o.disabledCategories (.list _) (by simp) rfl
        (CategorySet.ofNode_toDocument _ _) (by simp [having]),
      .reading _ o.labels.toDocument (by simp) (fun w => LabelPolicy.ofNode_arranged _ _)
        (by simp [having]),
      .reading (o.backend.without (drops.within "backend")) o.backend.toDocument (by simp)
        (fun w arranged => ?_) (by simp [having]),
      List.forall_mem_nil _⟩
    exact BackendOptions.ofNode_arranged o.backend spared arranged
      (arranged.writable (BackendOptions.writable_toDocument _))

/-- Options can be written. -/
lemma writable_toDocument (o : Options) : o.toDocument.Writable maxLevels :=
  ⟨trivial, trivial, o.disabledCategories.writable_toDocument, ⟨trivial, trivial, trivial⟩,
    o.backend.writable_toDocument, trivial⟩

/-- Options from which nothing is dropped are the options themselves. -/
lemma without_nothing (o : Options) : o.without (fun _ => false) = o := by
  obtain ⟨enabled, registryName, categories, labels, backend⟩ := o
  cases backend with
  | prometheus o =>
    obtain ⟨server, endpoint⟩ := o
    cases server <;> rfl
  | influxDb o => rfl
  | disabled => rfl

/-- Options come back from their text, and from every arrangement of their document that spares the
kind of the backend, with the defaults for what was dropped. -/
theorem ofJson_arranged (o : Options) :
    ofJson o.toJson = .ok o ∧
      ∀ (drops : Places) (v : Value), drops ["backend", "kind"] = false →
        Arranged drops o.toDocument v → ofJson (Json.encode v) = .ok (o.without drops) := by
  have read (drops : Places) (v : Value) (spared : drops ["backend", "kind"] = false)
      (arranged : Arranged drops o.toDocument v) :
      ofJson (Json.encode v) = .ok (o.without drops) := by
    have parsed := Json.parse_encode (arranged.writable o.writable_toDocument)
    simp only [ofJson, Json.decode, parsed, bind, Except.bind, ofNode_arranged o spared arranged]
    rfl
  refine ⟨?_, read⟩
  have same := read _ _ rfl (Arranged.refl o.toDocument)
  rwa [without_nothing] at same

/-- The kind of the backend comes last, a note is added and the main switch is dropped. -/
theorem ofJson_of_kind_last :
    let o : Options :=
      { enabled := true, registryName := "main", backend := .prometheus { endpoint := "/m" } }
    let v : Value := .members [
      ("registry_name", .text "main"), ("disabled_categories", .list []),
      ("labels", o.labels.toDocument),
      ("backend", .members [
        ("endpoint", .text "/m"), ("embedded_server", .null), ("kind", .text "prometheus")]),
      ("note", .bool true)]
    Arranged (fun path => path == ["enabled"]) o.toDocument v ∧
      ofJson o.toJson = .ok o ∧ ofJson (Json.encode v) = .ok { o with enabled := false } := by
  intro o v
  have backend : Arranged (fun _ => false) o.backend.toDocument
      (.members [
        ("endpoint", .text "/m"), ("embedded_server", .null), ("kind", .text "prometheus")]) := by
    let members : List (String × Value) :=
      [("kind", .text "prometheus"), ("embedded_server", .null), ("endpoint", .text "/m")]
    exact .members (EntriesArranged.refl members) (List.forall_mem_nil _) members.reverse_perm
  have whole (name : String) (other : name ≠ "enabled") :
      Places.within (fun path => path == ["enabled"]) name = fun _ => false := by
    funext path
    simp [Places.within, other]
  have arranged : Arranged (fun path => path == ["enabled"]) o.toDocument v := by
    refine .members (.drop rfl (.keep rfl (.closed rfl) (.keep rfl (.closed rfl)
      (.keep rfl ?_ (.keep rfl ?_ .nil))))) ?_ (.refl _)
    · rw [whole "labels" (by decide)]
      exact .refl _
    · rw [whole "backend" (by decide)]
      exact backend
    · exact List.forall_mem_singleton.2 ⟨by decide, .bool true⟩
  exact ⟨arranged, (ofJson_arranged o).1, (ofJson_arranged o).2 _ v rfl arranged⟩

end Options

end Metering
