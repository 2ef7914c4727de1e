import Metering.Proofs.Url.Authority

/-!
# The parts of a text that is read

How the reader of URLs comes by the parts of a URL: the host and the port depend on the authority
alone (`withAuthority_eq`), and the query and the fragment are put to what is read from the text
before them (`parse_eq`).
-/

namespace Metering.Url

/-- A mapped result comes from a result. -/
lemma exists_of_map_eq_ok {ε α β : Type} {f : α → β} {x : Except ε α} {b : β}
    (eq : x.map f = .ok b) : ∃ a, x = .ok a ∧ f a = b := by
  cases x with
  | error e => cases eq
  | ok a => exact ⟨a, rfl, Except.ok.inj eq⟩

/-! ## Hosts and ports -/

/-- An authority that is nothing but the sign behind a user. -/
def isBare (authority : List Char) : Bool :=
  (splitUser authority).1 = some [] && (splitUser authority).2.isEmpty

/-- The user name and the password in an authority. -/
def userOf (authority : List Char) : List Char × List Char :=
  let (userName, password) := cut ':' ((splitUser authority).1.getD [])
  (percentEncode inUserSet userName, percentEncode inUserSet (password.getD []))

/-- What stands for a host in an authority, and what is behind the colon after it. -/
def addressOf (authority : List Char) : List Char × Option (List Char) :=
  splitPort false (splitUser authority).2

/-- What stands for a port in an authority. -/
def portTextOf (authority : List Char) : List Char :=
  ((addressOf authority).2.getD []).takeWhile (· != '\\')

/-- What is left of an authority behind its port. -/
def behindPort (authority : List Char) : List Char :=
  ((addressOf authority).2.getD []).drop (portTextOf authority).length

/-- The host and the port of an authority. -/
def readAddress (kind : SchemeKind) (authority : List Char) :
    Except Invalid (Host × Option Nat) := do
  let hostText := (addressOf authority).1
  let hasUser := !(userOf authority).1.isEmpty || !(userOf authority).2.isEmpty
  if hostText.isEmpty && (kind != .other || (addressOf authority).2.isSome) then throw .emptyHost
  let host ← if kind = .other then Host.ofRawText hostText else Host.ofText hostText
  let port ← portOf (portTextOf authority)
  if hostText.isEmpty && hasUser then throw .emptyHost
  return (host, port)

/-- A URL with an authority and what is behind it. -/
def located (kind : SchemeKind) (u : Url) (authority behind : List Char)
    (address : Host × Option Nat) : Url :=
  { u with
    userName := (userOf authority).1
    password := (userOf authority).2
    host := some address.1
    port := if address.2 = usualPort? (String.ofList u.scheme) then none else address.2
    path := pathBehindHost kind (behindPort authority ++ behind) }

/-- What is made of host and port may be made behind reading them. -/
lemma map_read {α : Type} (f : Host × Option Nat → α) (host : Except Invalid Host)
    (portText : List Char) (misplaced : Bool) :
    (do
      let host ← host
      let port ← portOf portText
      if misplaced then throw .emptyHost
      return f (host, port)) =
    Except.map f (do
      let host ← host
      let port ← portOf portText
      if misplaced then throw .emptyHost
      return (host, port)) := by
  cases host with
  | error => rfl
  | ok host =>
    cases portOf portText with
    | error => rfl
    | ok port => cases misplaced <;> rfl

/-- A URL is located by the address in its authority. -/
lemma withAuthority_eq (kind : SchemeKind) (u : Url) (authority behind : List Char)
    (goesOn : Bool) :
    withAuthority kind u authority behind goesOn =
      if isBare authority && (goesOn || !behind.isEmpty) then .error .emptyHost
      else (readAddress kind authority).map (located kind u authority behind) := by
  unfold withAuthority readAddress
  by_cases bare : isBare authority && (goesOn || !behind.isEmpty)
  · rw [if_pos bare]
    exact if_pos bare
  rw [if_neg bare]
  refine (if_neg bare).trans ?_
  by_cases empty : (addressOf authority).1.isEmpty &&
      (kind != .other || (addressOf authority).2.isSome)
  · rw [if_pos empty]
    exact if_pos empty
  rw [if_neg empty]
  refine (if_neg empty).trans ?_
  -- the host is read in one of two ways
  have read (host : Except Invalid Host) := map_read (located kind u authority behind) host
    (portTextOf authority) ((addressOf authority).1.isEmpty &&
      (!(userOf authority).1.isEmpty || !(userOf authority).2.isEmpty))
  by_cases other : kind = .other
  · exact ((if_pos other).trans (read _)).trans (congrArg _ (if_pos other).symm)
  · exact ((if_neg other).trans (read _)).trans (congrArg _ (if_neg other).symm)

/-! ## Files -/

/-- The host and the path of a file that a text behind two slashes gives. -/
def readShare (s : List Char) : Except Invalid (Host × Path) := do
  let nameText := s.takeWhile fun c => !isSlash .file c
  let name := closeGaps nameText
  if (drive? name).isSome then return (.domain [], pathOf .file s)
  let behind := s.drop nameText.length
  let some host ← fileHost? name | return (.domain [], pathOf .file behind)
  let trail := Trail.ofText .file ((behindSlash? .file behind).getD behind)
  return (if trail.drive then .domain [] else host, .rooted (trail.toList .file))

/-- The host and the path of a URL of a file. -/
def readFile (s : List Char) : Except Invalid (Host × Path) :=
  match behindSlash? .file s with
  | none => .ok (.domain [], pathOf .file s)
  | some rest =>
    match behindSlash? .file rest with
    | none => .ok (.domain [], pathOf .file rest)
    | some rest => readShare rest

/-- A file has the host and the path that its text gives. -/
lemma ofFile_eq (u : Url) (s : List Char) :
    ofFile u s = (readFile s).map fun x => { u with host := some x.1, path := x.2 } := by
  unfold ofFile readFile
  cases behindSlash? .file s with
  | none => rfl
  | some rest =>
    dsimp only
    cases behindSlash? .file rest with
    | none => rfl
    | some rest =>
      dsimp only
      unfold readShare
      dsimp only
      split
      · rfl
      · cases fileHost? (closeGaps (rest.takeWhile fun c => !isSlash .file c)) with
        | error => rfl
        | ok host? => cases host? <;> rfl

/-! ## Whole texts -/

/-- The URL that has a scheme and nothing else. -/
def schemed (scheme : List Char) : Url :=
  ⟨scheme, [], [], none, none, .rootless [], none, none⟩

/-- The URL with a query and a fragment. -/
def withTail (query fragment : Option (List Char)) (u : Url) : Url :=
  { u with query, fragment }

/-- Whether a text has a query or a fragment. -/
def goesOn (s : List Char) : Bool :=
  (cut '?' (cut '#' (trimControls s)).1).2.isSome || (cut '#' (trimControls s)).2.isSome

/-- The URL that a text behind a scheme gives. -/
def readRest (kind : SchemeKind) (u : Url) (s : List Char) (goesOn : Bool) :
    Except Invalid Url :=
  match kind with
  | .file => ofFile u s
  | .special =>
    let s := (closeGaps s).dropWhile (isSlash .special)
    let authority := s.takeWhile fun c => !isSlash .special c
    withAuthority .special u authority (s.drop authority.length) goesOn
  | .other =>
    match closeGaps s with
    | '/' :: '/' :: s =>
      let authority := s.takeWhile (· != '/')
      withAuthority .other u authority (s.drop authority.length) goesOn
    | '/' :: s => .ok { u with path := pathOf .other s }
    | s => .ok { u with path := .rootless (percentEncode isControl s) }

/-- The URL that a text without a query and a fragment gives. -/
def readTrunk (t : List Char) (goesOn : Bool) : Except Invalid Url :=
  match scheme? (closeGaps t) with
  | none => .error .noScheme
  | some (scheme, _) =>
    readRest (schemeKind (String.ofList scheme)) (schemed scheme) ((cut ':' t).2.getD []) goesOn

section Tail

variable (query fragment : Option (List Char))

/-- Query and fragment do not change how an authority is read. -/
lemma withAuthority_tail (kind : SchemeKind) (u : Url) (authority behind : List Char)
    (goesOn : Bool) :
    withAuthority kind (withTail query fragment u) authority behind goesOn =
      (withAuthority kind u authority behind goesOn).map (withTail query fragment) := by
  rw [withAuthority_eq, withAuthority_eq]
  split
  · rfl
  · cases readAddress kind authority <;> rfl

/-- Query and fragment do not change how a text behind the scheme is read. -/
lemma readRest_tail (kind : SchemeKind) (u : Url) (s : List Char) (goesOn : Bool) :
    readRest kind (withTail query fragment u) s goesOn =
      (readRest kind u s goesOn).map (withTail query fragment) := by
  cases kind with
  | file =>
    simp only [readRest, ofFile_eq]
    cases readFile s <;> rfl
  | special => exact withAuthority_tail query fragment ..
  | other =>
    unfold readRest
    split
    · next web => cases web
    · next web => cases web
    · dsimp only
      split
      · exact withAuthority_tail query fragment ..
      · rfl
      · rfl

end Tail

/-- What stands before the query decides all but the query and the fragment, and there is a query
where a question mark stands before the fragment. -/
lemma exists_tail (s : List Char) : ∃ query fragment,
    query.isSome = (cut '?' (cut '#' (trimControls s)).1).2.isSome ∧
      parse s = (readTrunk (trunk s) (goesOn s)).map (withTail query fragment) := by
  unfold readTrunk
  cases named : scheme? (closeGaps (trunk s)) with
  | none =>
    refine ⟨(cut '?' (cut '#' (trimControls s)).1).2, none, rfl, ?_⟩
    unfold parse
    unfold trunk at named
    simp only [named]
    rfl
  | some found =>
    obtain ⟨scheme, rest⟩ := found
    let kind := schemeKind (String.ofList scheme)
    let querySet := if kind = .other then inQuerySet else inSpecialQuerySet
    refine ⟨(cut '?' (cut '#' (trimControls s)).1).2.map fun query =>
        percentEncode querySet (closeGaps query),
      (cut '#' (trimControls s)).2.map fun fragment =>
        percentEncode inFragmentSet (closeGaps fragment), Option.isSome_map, ?_⟩
    dsimp only
    rw [← readRest_tail]
    unfold parse
    simp only [trunk] at named
    simp only [named]
    rfl

/-- A text is read as its trunk, with a query and a fragment. -/
lemma parse_eq (s : List Char) : ∃ query fragment,
    parse s = (readTrunk (trunk s) (goesOn s)).map (withTail query fragment) := by
  obtain ⟨query, fragment, -, eq⟩ := exists_tail s
  exact ⟨query, fragment, eq⟩

end Metering.Url
