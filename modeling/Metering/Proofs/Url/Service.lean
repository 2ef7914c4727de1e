import Metering.Proofs.Url.Parts
import Metering.Proofs.Url.Path
import Metering.Proofs.Url.Refusal

/-!
# The URL of a service

Where the URL of a service leads that is read from the text of another URL. If the text has a query
or a fragment, the service ends up there (`parse_service_of_goesOn`). If it has none and its scheme
is special, the service is the last segment of the path (`leads_of_special`), unless blanks stand
between it and a host or a port: then the longer text is no URL at all (`refused_of_special`).
-/

namespace Metering.Url

variable {s service : List Char} {u : Url}

/-! ## Texts -/

/-- Trimming takes no other characters than blanks and controls. -/
lemma mem_trimControls {c : Char} (inner : ¬ isOuter c) : c ∈ trimControls s ↔ c ∈ s := by
  obtain ⟨lead, trail, eq, outer, blank⟩ := exists_trimControls s
  constructor
  case mp =>
    intro mem
    rw [eq]
    simp [mem]
  case mpr =>
    intro mem
    rw [eq, List.mem_append, List.mem_append] at mem
    rcases mem with mem | mem | mem
    · exact absurd (outer c mem) inner
    · exact mem
    · exact absurd (blank c mem) inner

section Slashes

variable {slashes : List Char} (slash : ∀ c ∈ slashes, c = '/')
include slash

/-- A slash is one for every scheme. -/
lemma isSlash_of_slash (kind : SchemeKind) : ∀ c ∈ slashes, isSlash kind c = true := by
  intro c mem
  rw [slash c mem]
  cases kind <;> rfl

/-- Slashes start with no other character. -/
lemma head_slashes (kind : SchemeKind) : ∀ c ∈ slashes.head?, (!isSlash kind c) = false := by
  intro c mem
  rw [isSlash_of_slash slash kind c (List.mem_of_mem_head? mem)]
  rfl

/-- Slashes have no gaps. -/
lemma closeGaps_slashes : closeGaps slashes = slashes :=
  List.filter_eq_self.2 fun c mem => by rw [slash c mem]; rfl

end Slashes

/-- Gaps are closed in joined texts one by one. -/
lemma closeGaps_append (x y : List Char) : closeGaps (x ++ y) = closeGaps x ++ closeGaps y :=
  List.filter_append x y

/-- The text of a service has no gaps. -/
lemma Word.closeGaps_service (word : Word service) :
    closeGaps ('/' :: service) = '/' :: service := by
  have slash : closeGaps ('/' :: service) = '/' :: closeGaps service := rfl
  rw [slash, word.closeGaps_eq]

/-- A text is cut where it has the character. -/
lemma isSome_cut {c : Char} : (cut c s).2.isSome = true ↔ c ∈ s := by
  constructor
  case mp =>
    intro some
    by_contra not_mem
    have all : s.dropWhile (· != c) = [] :=
      List.dropWhile_eq_nil_iff.2 fun d mem => bne_iff_ne.2 fun eq => not_mem (eq ▸ mem)
    rw [cut, all] at some
    cases some
  case mpr =>
    intro mem
    obtain ⟨x, y, rfl, first⟩ := List.eq_append_cons_of_mem mem
    rw [cut_append_cons y first]
    rfl

/-- A text without the character is not cut. -/
lemma cut_fst_of_not_mem {c : Char} (not_mem : c ∉ s) : (cut c s).1 = s := by
  rw [cut_fst, takeWhile_of_not_mem not_mem]

/-- A text goes on behind a question mark or a hash. -/
lemma goesOn_iff : goesOn s = true ↔ '?' ∈ s ∨ '#' ∈ s := by
  rw [goesOn, Bool.or_eq_true, isSome_cut, isSome_cut, mem_trimControls (by decide)]
  by_cases hash : '#' ∈ s
  · simp [hash]
  · rw [cut_fst_of_not_mem (mt (mem_trimControls (by decide)).1 hash),
      mem_trimControls (by decide)]

/-- A text that does not go on is all trunk. -/
lemma trunk_eq (off : goesOn s = false) : trunk s = trimControls s := by
  have none : ¬ ('?' ∈ s ∨ '#' ∈ s) := fun mem => by simp [goesOn_iff.2 mem] at off
  obtain ⟨question, hash⟩ := not_or.1 none
  rw [trunk, cut_fst_of_not_mem (mt (mem_trimControls (by decide)).1 hash),
    cut_fst_of_not_mem (mt (mem_trimControls (by decide)).1 question)]

/-- The text of a service has the signs of the text. -/
lemma mem_serviceText (word : Word service) {c : Char} (sign : isSign c) :
    c ∈ serviceText s service ↔ c ∈ s := by
  have no_blanks : ∀ c ∈ ([] : List Char), isOuter c := by simp
  have not_behind : c ∉ '/' :: service := word.behind_ne no_blanks sign
  have not_slash : ¬ (c == '/') := by
    intro slash
    rw [beq_iff_eq.1 slash] at sign
    exact absurd sign (by decide)
  rw [serviceText, List.mem_append, or_iff_left not_behind]
  constructor
  case mp => exact fun mem => (List.rdropWhile_prefix _ _).subset mem
  case mpr =>
    intro mem
    rw [← List.rdropWhile_append_rtakeWhile (p := (· == '/')) (l := s), List.mem_append] at mem
    exact mem.resolve_right fun slash =>
      not_slash (List.mem_rtakeWhile_imp (p := fun x => x == '/') slash)

/-- The text of a service goes on where the text does. -/
lemma goesOn_service (word : Word service) : goesOn (serviceText s service) = goesOn s := by
  rw [Bool.eq_iff_iff, goesOn_iff, goesOn_iff, mem_serviceText word (by decide),
    mem_serviceText word (by decide)]

/-- A service behind a query or a fragment is out of sight. -/
lemma trunk_service (word : Word service) (colon : ':' ∈ s) (on : goesOn s = true) :
    trunk (serviceText s service) = trunk s := by
  have colon' : ':' ∈ trimControls s := (mem_trimControls (by decide)).2 colon
  obtain ⟨a, slashes, eq, slash, eq', -, -⟩ := trim_service word ⟨':', colon', by decide⟩
  have of_mem {c : Char} (sign : isSign c) (mem : c ∈ trimControls s) : c ∈ a := by
    rw [eq] at mem
    exact (List.mem_append.1 mem).resolve_right (not_mem_slashes slash sign)
  simp only [trunk, cut_fst]
  by_cases hash : '#' ∈ trimControls s
  · have stop : ∃ c ∈ a, ¬ (c != '#') := ⟨'#', of_mem (by decide) hash, by decide⟩
    rw [eq, eq', takeWhile_append_of_stop stop, takeWhile_append_of_stop stop]
  · have question : '?' ∈ trimControls s := by
      rcases goesOn_iff.1 on with mem | mem
      · exact (mem_trimControls (by decide)).2 mem
      · exact absurd ((mem_trimControls (by decide)).2 mem) hash
    have stop : ∃ c ∈ a, ¬ (c != '?') := ⟨'?', of_mem (by decide) question, by decide⟩
    have hash' : '#' ∉ trimControls (serviceText s service) := by
      rw [mem_trimControls (by decide), mem_serviceText word (by decide),
        ← mem_trimControls (by decide)]
      exact hash
    rw [takeWhile_of_not_mem hash, takeWhile_of_not_mem hash', eq, eq',
      takeWhile_append_of_stop stop, takeWhile_append_of_stop stop]

/-! ## What the two texts share -/

/-- The host of a URL, unless it is empty. -/
def shownHost? (u : Url) : Option Host :=
  u.host.filter fun host => host ≠ .domain []

/-- Whether two URLs lead to the same server in the same way. -/
structure SameServer (u v : Url) : Prop where
  scheme : v.scheme = u.scheme
  host : v.shownHost? = u.shownHost?
  port : v.port = u.port

/-- Whether a text with a service behind it leads to the service at the server of a URL. -/
def Leads (s service : List Char) (u : Url) : Prop :=
  ∃ v, parse (serviceText s service) = .ok v ∧ SameServer u v ∧ v.path.last = service

/-- The text behind the scheme. -/
def behindScheme (s : List Char) : List Char :=
  (cut ':' (trunk s)).2.getD []

/-- A text that is read has a colon. -/
lemma colon_of_parse (ok : parse s = .ok u) : ':' ∈ s :=
  (mem_trimControls (by decide)).1
    (trunk_subset s (List.mem_of_mem_filter (colon_mem (parse_scheme ok))))

/-- A text is read from behind its scheme, with a query and a fragment. -/
lemma parse_eq_readRest {scheme : List Char}
    (named : (scheme? (closeGaps (trunk s))).map Prod.fst = some scheme) : ∃ query fragment,
      parse s = (readRest (schemeKind (String.ofList scheme)) (schemed scheme) (behindScheme s)
        (goesOn s)).map (withTail query fragment) := by
  obtain ⟨query, fragment, eq⟩ := parse_eq s
  obtain ⟨⟨_, rest⟩, found, rfl⟩ := Option.map_eq_some_iff.1 named
  refine ⟨query, fragment, ?_⟩
  rw [eq, readTrunk, found]
  rfl

/-- What a text behind a scheme gives, but for the query and the fragment. -/
lemma exists_readRest (ok : parse s = .ok u) : ∃ query fragment v,
    readRest (schemeKind (String.ofList u.scheme)) (schemed u.scheme) (behindScheme s) (goesOn s) =
      .ok v ∧ u = withTail query fragment v := by
  obtain ⟨query, fragment, eq⟩ := parse_eq_readRest (parse_scheme ok)
  obtain ⟨v, read, same⟩ := exists_of_map_eq_ok (eq.symm.trans ok)
  exact ⟨query, fragment, v, read, same.symm⟩

/-! ## Behind a query -/

/-- A service behind a query or a fragment does not change the path. -/
theorem parse_service_of_goesOn (word : Word service) (ok : parse s = .ok u)
    (on : goesOn s = true) :
    ∃ v, parse (serviceText s service) = .ok v ∧ SameServer u v ∧ v.path = u.path := by
  obtain ⟨query, fragment, eq⟩ := parse_eq s
  obtain ⟨query', fragment', eq'⟩ := parse_eq (serviceText s service)
  rw [trunk_service word (colon_of_parse ok) on, goesOn_service word] at eq'
  obtain ⟨v, read, rfl⟩ := exists_of_map_eq_ok (eq.symm.trans ok)
  exact ⟨_, eq'.trans (congrArg _ read), ⟨rfl, rfl, rfl⟩, rfl⟩

/-! ## Behind a path -/

/-- The texts behind the scheme of a text and of the text of a service. -/
structure Parted (s service a slashes : List Char) : Prop where
  slash : ∀ c ∈ slashes, c = '/'
  text : behindScheme s = a ++ slashes
  service_text : behindScheme (serviceText s service) = a ++ (endBlanks s ++ '/' :: service)
  room : endBlanks s ≠ [] → slashes = []
  last : endBlanks s = [] → ∀ c ∈ a.getLast?, c ∈ (s.rdropWhile (· == '/')).getLast?

/-- The texts behind the scheme part into what is common and what is behind it. -/
lemma exists_parted (word : Word service) (ok : parse s = .ok u) (off : goesOn s = false) :
    (∃ a slashes, Parted s service a slashes) ∧
      (scheme? (closeGaps (trunk (serviceText s service)))).map Prod.fst = some u.scheme := by
  have named := parse_scheme ok
  have colon : ':' ∈ trimControls s := (mem_trimControls (by decide)).2 (colon_of_parse ok)
  obtain ⟨front, slashes, eq, slash, eq', room, last⟩ := trim_service word ⟨':', colon, by decide⟩
  rw [← trunk_eq off] at eq
  rw [← trunk_eq ((goesOn_service word).trans off)] at eq'
  have mem : ':' ∈ front := by
    rw [← trunk_eq off, eq] at colon
    exact (List.mem_append.1 colon).resolve_right (not_mem_slashes slash (by decide))
  obtain ⟨x, a, rfl, first⟩ := List.eq_append_cons_of_mem mem
  rw [List.append_assoc, List.cons_append] at eq eq'
  refine ⟨⟨a, slashes, slash, ?_, ?_, room, fun none c mem => ?_⟩, ?_⟩
  · rw [behindScheme, eq, cut_append_cons _ first]
    rfl
  · rw [behindScheme, eq', cut_append_cons _ first]
    rfl
  · obtain ⟨front, rfl⟩ := List.getLast?_eq_some_iff.1 mem
    rw [last, if_pos none, ← List.cons_append, ← List.append_assoc, List.getLast?_concat]
    rfl
  · have gaps (y : List Char) : closeGaps (x ++ ':' :: y) = closeGaps x ++ ':' :: closeGaps y := by
      rw [closeGaps, List.filter_append]
      rfl
    have not_mem : ':' ∉ closeGaps x := fun mem => first (List.mem_of_mem_filter mem)
    rw [eq, gaps] at named
    rw [eq', gaps, scheme?_append _ _ _ not_mem, named]

/-- It is enough to read what is behind the scheme. -/
lemma exists_leads (word : Word service) (ok : parse s = .ok u) (off : goesOn s = false) :
    ∃ v, readRest (schemeKind (String.ofList u.scheme)) (schemed u.scheme) (behindScheme s) false =
        .ok v ∧
      ((∃ v', readRest (schemeKind (String.ofList u.scheme)) (schemed u.scheme)
        (behindScheme (serviceText s service)) false = .ok v' ∧
          SameServer v v' ∧ v'.path.last = service) → Leads s service u) := by
  obtain ⟨query, fragment, v, read, rfl⟩ := exists_readRest ok
  rw [off] at read
  refine ⟨v, read, ?_⟩
  obtain ⟨query', fragment', eq⟩ := parse_eq_readRest (exists_parted word ok off).2
  rw [goesOn_service word, off] at eq
  rintro ⟨v', read', same, last⟩
  exact ⟨_, eq.trans (congrArg _ read'), ⟨same.scheme, same.host, same.port⟩, last⟩

/-! ## Servers with a special scheme -/

/-- A service behind an authority is at its server. -/
lemma withAuthority_service {kind : SchemeKind} {v : Url} {n behind : List Char} {on : Bool}
    (word : Word service) (ok : withAuthority kind u n behind on = .ok v)
    (inhabited : isBare n = false) (l : List Char) (on' : Bool) :
    ∃ v', withAuthority kind u n (l ++ '/' :: service) on' = .ok v' ∧ SameServer v v' ∧
      v'.path.last = service := by
  rw [withAuthority_eq, inhabited, Bool.false_and, if_neg Bool.false_ne_true] at ok
  rw [withAuthority_eq, inhabited, Bool.false_and, if_neg Bool.false_ne_true]
  obtain ⟨address, read, rfl⟩ := exists_of_map_eq_ok ok
  refine ⟨_, congrArg _ read, ⟨rfl, rfl, rfl⟩, ?_⟩
  have path := word.last_pathBehindHost kind (behindPort n ++ l)
  rwa [List.append_assoc] at path

/-- What follows a character that stops is neither taken nor passed over. -/
lemma takeWhile_append_of_head {p : Char → Bool} {x : List Char}
    (stop : ∀ c ∈ x.head?, p c = false) (r : List Char) :
    (r ++ x).takeWhile p = r.takeWhile p ∧ (r ++ x).dropWhile p = r.dropWhile p ++ x := by
  cases x with
  | nil => simp
  | cons c x =>
    have fails : ¬ p c := Bool.eq_false_iff.1 (stop c rfl)
    by_cases inside : ∃ d ∈ r, ¬ p d
    · exact ⟨takeWhile_append_of_stop inside, dropWhile_append_of_stop inside⟩
    · push Not at inside
      rw [List.takeWhile_append_of_pos inside, List.dropWhile_append_of_pos inside,
        List.takeWhile_cons_of_neg fails, List.dropWhile_cons_of_neg fails,
        List.takeWhile_eq_self_iff.2 inside, List.dropWhile_eq_nil_iff.2 inside]
      exact ⟨List.append_nil r, rfl⟩

/-- The text from the authority on, where any number of slashes may stand before it. -/
def fromAuthority (s : List Char) : List Char :=
  (closeGaps s).dropWhile (isSlash .special)

/-- Whether a text with a special scheme goes on behind its authority. -/
def HasPath (s : List Char) : Prop :=
  ∃ c ∈ fromAuthority (behindScheme s), isSlash .special c

instance (s : List Char) : Decidable (HasPath s) :=
  List.decidableBEx (fun c => isSlash .special c) (fromAuthority (behindScheme s))

/-- A URL with a special scheme is read from where its authority starts. -/
lemma readRest_special (u : Url) (s : List Char) (on : Bool) :
    readRest .special u s on =
      withAuthority .special u ((fromAuthority s).takeWhile fun c => !isSlash .special c)
        ((fromAuthority s).dropWhile fun c => !isSlash .special c) on := by
  rw [← drop_length_takeWhile]
  rfl

/-- The authority of a special scheme is not bare. -/
lemma isBare_of_special {v : Url} {n behind : List Char} {on : Bool}
    (ok : withAuthority .special u n behind on = .ok v) : isBare n = false := by
  have filled := (withAuthority_ok ok).2.2.2 (by decide)
  rw [isBare, Bool.and_eq_false_iff]
  right
  refine Bool.eq_false_iff.2 fun empty => filled ?_
  rw [List.isEmpty_iff.1 empty]
  rfl

/-- The two texts from the authority on. -/
lemma exists_fromAuthority (word : Word service) (ok : parse s = .ok u)
    (special : schemeKind (String.ofList u.scheme) = .special) (off : goesOn s = false) :
    ∃ r slashes, (∀ c ∈ slashes, c = '/') ∧ fromAuthority (behindScheme s) = r ++ slashes ∧
      fromAuthority (behindScheme (serviceText s service)) =
        r ++ (closeGaps (endBlanks s) ++ '/' :: service) ∧
      (endBlanks s ≠ [] → slashes = []) := by
  obtain ⟨⟨a, slashes, parted⟩, -⟩ := exists_parted word ok off
  have text : closeGaps (behindScheme s) = closeGaps a ++ slashes := by
    rw [parted.text, closeGaps_append, closeGaps_slashes parted.slash]
  have service_text : closeGaps (behindScheme (serviceText s service)) =
      closeGaps a ++ (closeGaps (endBlanks s) ++ '/' :: service) := by
    rw [parted.service_text, closeGaps_append, closeGaps_append, word.closeGaps_service]
  have stop : ∃ c ∈ closeGaps a, ¬ isSlash .special c := by
    by_contra all
    push Not at all
    refine authority_ne_nil ok special ?_
    have nothing : fromAuthority (behindScheme s) = [] := by
      rw [fromAuthority, text, List.dropWhile_append_of_pos all, List.dropWhile_eq_nil_iff]
      exact isSlash_of_slash parted.slash .special
    change (fromAuthority (behindScheme s)).takeWhile _ = []
    rw [nothing]
    rfl
  refine ⟨(closeGaps a).dropWhile (isSlash .special), slashes, parted.slash, ?_, ?_, parted.room⟩
  · rw [fromAuthority, text, dropWhile_append_of_stop stop]
  · rw [fromAuthority, service_text, dropWhile_append_of_stop stop]

/-- A service is found behind a path, or where no blanks are in front of it. -/
theorem leads_of_special (word : Word service) (ok : parse s = .ok u)
    (special : schemeKind (String.ofList u.scheme) = .special) (off : goesOn s = false)
    (fits : closeGaps (endBlanks s) = [] ∨ HasPath s) : Leads s service u := by
  obtain ⟨r, slashes, slash, text, service_text, room⟩ := exists_fromAuthority word ok special off
  obtain ⟨v, read, leads⟩ := exists_leads word ok off
  rw [special, readRest_special, text] at read
  rw [special, readRest_special, service_text] at leads
  rw [(takeWhile_append_of_head (head_slashes slash .special) r).1] at read
  -- the two authorities are the same
  have split : (r ++ (closeGaps (endBlanks s) ++ '/' :: service)).takeWhile
        (fun c => !isSlash .special c) = r.takeWhile (fun c => !isSlash .special c) ∧
      (r ++ (closeGaps (endBlanks s) ++ '/' :: service)).dropWhile
          (fun c => !isSlash .special c) =
        r.dropWhile (fun c => !isSlash .special c) ++
          (closeGaps (endBlanks s) ++ '/' :: service) := by
    by_cases none : closeGaps (endBlanks s) = []
    · rw [none, List.nil_append]
      exact takeWhile_append_of_head (by simp [isSlash]) r
    · obtain ⟨c, mem, slash_c⟩ := fits.resolve_left none
      have filled : endBlanks s ≠ [] := fun empty => none (by rw [empty]; rfl)
      rw [text, room filled, List.append_nil] at mem
      have stop : ∃ c ∈ r, ¬ (!isSlash .special c) := ⟨c, mem, by simp [slash_c]⟩
      exact ⟨takeWhile_append_of_stop stop, dropWhile_append_of_stop stop⟩
  rw [split.1, split.2, ← List.append_assoc] at leads
  exact leads (withAuthority_service word read (isBare_of_special read) _ false)

/-- Blanks at the end of a text are no part of a host or a port that a service follows. -/
theorem refused_of_special (word : Word service) (ok : parse s = .ok u)
    (special : schemeKind (String.ofList u.scheme) = .special) (off : goesOn s = false)
    (blank : closeGaps (endBlanks s) ≠ []) (no_path : ¬ HasPath s) :
    ∃ e, parse (serviceText s service) = .error e := by
  obtain ⟨r, slashes, -, text, service_text, -⟩ := exists_fromAuthority word ok special off
  obtain ⟨query, fragment, eq⟩ := parse_eq_readRest (exists_parted word ok off).2
  have none : ∀ c ∈ r, (!isSlash .special c) = true := by
    intro c mem
    rw [Bool.not_eq_true']
    refine Bool.eq_false_iff.2 fun slash => no_path ⟨c, ?_, slash⟩
    rw [text]
    exact List.mem_append_left _ mem
  have outer : ∀ c ∈ closeGaps (endBlanks s), isOuter c := fun c mem =>
    List.mem_rtakeWhile_imp (List.mem_of_mem_filter mem)
  have inner : ∀ c ∈ closeGaps (endBlanks s), (!isSlash .special c) = true := fun c mem =>
    of_isOuter (p := fun c => !isSlash .special c) (by decide) (outer c mem)
  have authority_eq : (r ++ (closeGaps (endBlanks s) ++ '/' :: service)).takeWhile
      (fun c => !isSlash .special c) = r ++ closeGaps (endBlanks s) := by
    rw [← List.append_assoc, List.takeWhile_append_of_pos (List.forall_mem_append.2 ⟨none, inner⟩),
      List.takeWhile_cons_of_neg (by simp [isSlash]), List.append_nil]
  have plain : '\\' ∉ r := fun mem => by simpa [isSlash] using none _ mem
  obtain ⟨e, refused⟩ := readAddress_of_outer plain blank outer
  rw [eq, special, readRest_special, service_text, authority_eq, withAuthority_eq, refused]
  split
  · exact ⟨.emptyHost, rfl⟩
  · exact ⟨e, rfl⟩

end Metering.Url
