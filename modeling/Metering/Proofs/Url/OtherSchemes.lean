import Metering.Proofs.Url.Service

/-!
# Services of other schemes

The URL of a service in any scheme. A path may be missing there, a host may be empty, and what
stands for a host may be the drive of a file. Still a service is found where the text before it ends
with a character that no scheme treats in its own way (`leads_of_endsFirm`).
-/

namespace Metering.Url

open Metering.Text

variable {w a slashes : List Char} {u : Url}

/-! ## Files -/

/-- Whether the last character of a text is neither a gap nor a slash. -/
def Solid (s : List Char) : Prop :=
  ∃ d ∈ s.getLast?, isGap d = false ∧ isSlash .file d = false

/-- An end of a solid text is solid. -/
lemma Solid.suffix {s rest : List Char} (solid : Solid s) (ends : rest <:+ s) (ne_nil : rest ≠ []) :
    Solid rest := by
  obtain ⟨front, rfl⟩ := ends
  obtain ⟨d, last, firm⟩ := solid
  rw [List.getLast?_append_of_ne_nil _ ne_nil] at last
  exact ⟨d, last, firm⟩

/-- A solid text goes on behind the gaps that it starts with. -/
lemma Solid.exists_dropWhile {s : List Char} (solid : Solid s) :
    ∃ c rest, s.dropWhile isGap = c :: rest ∧ c :: rest <:+ s ∧
      ∀ x, (s ++ x).dropWhile isGap = c :: (rest ++ x) := by
  obtain ⟨d, last, inner, -⟩ := solid
  have stop : ∃ d ∈ s, ¬ isGap d := ⟨d, List.mem_of_mem_getLast? last, by simp [inner]⟩
  have ne_nil : s.dropWhile isGap ≠ [] := by
    obtain ⟨d, mem, fails⟩ := stop
    exact fun all => fails (List.dropWhile_eq_nil_iff.1 all d mem)
  obtain ⟨c, rest, eq⟩ := List.exists_cons_of_ne_nil ne_nil
  refine ⟨c, rest, eq, eq ▸ List.dropWhile_suffix isGap, fun x => ?_⟩
  rw [dropWhile_append_of_stop stop, eq, List.cons_append]

/-- What follows a solid text stays behind its first slash. -/
lemma Solid.behindSlash?_append {s : List Char} (solid : Solid s) (x : List Char) :
    behindSlash? .file (s ++ x) = (behindSlash? .file s).map (· ++ x) := by
  obtain ⟨c, rest, eq, -, append⟩ := solid.exists_dropWhile
  rw [behindSlash?, behindSlash?, append, eq]
  dsimp only
  split <;> rfl

/-- What stands behind the first slash of a solid text is solid. -/
lemma Solid.behindSlash? {s rest : List Char} (solid : Solid s)
    (behind : behindSlash? .file s = some rest) : Solid rest := by
  obtain ⟨c, more, eq, ends, -⟩ := solid.exists_dropWhile
  rw [Url.behindSlash?, eq] at behind
  dsimp only at behind
  split at behind
  · next slash =>
    obtain rfl := Option.some.inj behind
    refine (solid.suffix ends (List.cons_ne_nil c more)).suffix (List.suffix_cons c more) ?_
    rintro rfl
    obtain ⟨d, last, -, no_slash⟩ := solid.suffix ends (List.cons_ne_nil c [])
    obtain rfl : c = d := by simpa using last
    exact Bool.false_ne_true (no_slash.symm.trans slash)
  · cases behind

section File

variable (word : Word w) (slash : ∀ c ∈ slashes, c = '/')
include word slash

/-- A service brings no drive into a path. -/
lemma drive_behindHost {s : List Char} (solid : s = [] ∨ Solid s) :
    (Trail.ofText .file ((behindSlash? .file (s ++ slashes)).getD (s ++ slashes))).drive =
      (Trail.ofText .file ((behindSlash? .file (s ++ '/' :: w)).getD (s ++ '/' :: w))).drive := by
  have all := isSlash_of_slash slash .file
  rcases solid with rfl | solid
  · have of_service : (Trail.ofText .file w).drive = false := by
      have pieces : splitOn (isSlash .file) w = [] ++ [w] := word.splitOn_slash .file
      rw [word.ofText_eq pieces]
      rfl
    refine Eq.trans ?_ of_service.symm
    rcases slashes with _ | ⟨c, slashes⟩
    · rfl
    · obtain rfl := slash c List.mem_cons_self
      exact drive_ofText_slashes [] fun c mem => all c (List.mem_cons_of_mem _ mem)
  · rw [solid.behindSlash?_append, solid.behindSlash?_append]
    cases behindSlash? .file s with
    | none => exact (drive_ofText_slashes s all).trans (word.drive_ofText .file s).symm
    | some rest => exact (drive_ofText_slashes rest all).trans (word.drive_ofText .file rest).symm

/-- The service of a share is at the host of the share. -/
lemma readShare_service {host : Host} {path : Path} (solid : Solid a)
    (read : readShare (a ++ slashes) = .ok (host, path)) :
    ∃ path', readShare (a ++ '/' :: w) = .ok (host, path') ∧ path'.last = w := by
  have text := takeWhile_append_of_head (head_slashes slash .file) a
  have service_text := takeWhile_append_of_head (x := '/' :: w)
    (p := fun c => !isSlash .file c) (by simp [isSlash]) a
  unfold readShare at read ⊢
  simp only [drop_length_takeWhile] at read ⊢
  rw [text.1, text.2] at read
  rw [service_text.1, service_text.2]
  by_cases drive : (drive? (closeGaps (a.takeWhile fun c => !isSlash .file c))).isSome
  · rw [if_pos drive] at read ⊢
    cases read
    exact ⟨_, rfl, word.last_pathOf_service .file a⟩
  rw [if_neg drive] at read ⊢
  rcases found : fileHost? (closeGaps (a.takeWhile fun c => !isSlash .file c)) with e | _ | host
  · rw [found] at read
    cases read
  · rw [found] at read
    cases read
    exact ⟨_, rfl, word.last_pathOf_service .file _⟩
  · rw [found] at read
    cases read
    have solid : (a.dropWhile fun c => !isSlash .file c) = [] ∨
        Solid (a.dropWhile fun c => !isSlash .file c) := by
      rw [or_iff_not_imp_left]
      exact solid.suffix (List.dropWhile_suffix _)
    rw [drive_behindHost word slash solid]
    exact ⟨_, rfl, word.last_pathOf_behindSlash .file _⟩

/-- The service of a file is at the host of the file. -/
lemma readFile_service_of_solid {host : Host} {path : Path} (solid : Solid a)
    (read : readFile (a ++ slashes) = .ok (host, path)) :
    ∃ path', readFile (a ++ '/' :: w) = .ok (host, path') ∧ path'.last = w := by
  unfold readFile at read ⊢
  rw [solid.behindSlash?_append] at read ⊢
  cases first : behindSlash? .file a with
  | none =>
    rw [first] at read
    cases read
    exact ⟨_, rfl, word.last_pathOf_service .file a⟩
  | some rest =>
    have solid := solid.behindSlash? first
    simp only [first, Option.map_some, solid.behindSlash?_append] at read ⊢
    cases second : behindSlash? .file rest with
    | none =>
      rw [second] at read
      cases read
      exact ⟨_, rfl, word.last_pathOf_service .file rest⟩
    | some rest =>
      rw [second] at read
      exact readShare_service word slash (solid.behindSlash? second) read

omit word in
/-- Slashes name no host of a file. -/
lemma host_readFile_slashes {host : Host} {path : Path}
    (read : readFile slashes = .ok (host, path)) : host = .domain [] := by
  rcases slashes with _ | ⟨c, _ | ⟨d, rest⟩⟩
  · cases read
    rfl
  · obtain rfl := slash c (by simp)
    cases read
    rfl
  · obtain ⟨rfl, rfl, slashes⟩ : c = '/' ∧ d = '/' ∧ ∀ c ∈ rest, c = '/' := by simpa using slash
    have none := (takeWhile_append_of_head (head_slashes slashes .file) []).1
    rw [List.nil_append, List.takeWhile_nil] at none
    change readShare rest = _ at read
    unfold readShare at read
    rw [none] at read
    cases read
    rfl

/-- The service of a file without a path is found. -/
lemma readFile_service_of_nil {host : Host} {path : Path}
    (read : readFile slashes = .ok (host, path)) :
    ∃ path', readFile ('/' :: w) = .ok (host, path') ∧ path'.last = w := by
  have first : behindSlash? .file ('/' :: w) = some w := rfl
  have second : behindSlash? .file w = none := by
    cases w with
    | nil => rfl
    | cons c rest =>
      have inner := word.not_isGap (c := c) (by simp)
      have whole := word.not_isSlash .file (c := c) (by simp)
      simp [behindSlash?, inner, whole]
  refine ⟨pathOf .file w, ?_, word.last_pathOf_self .file⟩
  simp only [readFile, first, second, host_readFile_slashes slash read]

/-- The service of a file is at the server of the file. -/
lemma readRest_file_service {v : Url} {on : Bool} (solid : a = [] ∨ Solid a)
    (read : readRest .file u (a ++ slashes) on = .ok v) (on' : Bool) :
    ∃ v', readRest .file u (a ++ '/' :: w) on' = .ok v' ∧ SameServer v v' ∧ v'.path.last = w := by
  simp only [readRest, ofFile_eq] at read ⊢
  obtain ⟨⟨host, path⟩, found, rfl⟩ := exists_of_map_eq_ok read
  obtain ⟨path', read', last⟩ : ∃ path', readFile (a ++ '/' :: w) = .ok (host, path') ∧
      path'.last = w := by
    rcases solid with rfl | solid
    · exact readFile_service_of_nil word slash found
    · exact readFile_service_of_solid word slash solid found
  rw [read']
  exact ⟨_, rfl, ⟨rfl, rfl, rfl⟩, last⟩

end File

/-! ## Unknown schemes -/

/-- A text that does not end with a gap keeps its last character when gaps are closed. -/
lemma getLast?_closeGaps (inner : ∀ d ∈ a.getLast?, isGap d = false) :
    (closeGaps a).getLast? = a.getLast? := by
  obtain rfl | ⟨front, d, rfl⟩ := a.eq_nil_or_concat'
  · rfl
  · have kept : closeGaps [d] = [d] := List.filter_eq_self.2 (by simpa using inner)
    rw [closeGaps_append, kept, List.getLast?_concat, List.getLast?_concat]

/-- The user stands in front of the last sign. -/
lemma eq_of_splitUser {n front rest : List Char} (split_eq : splitUser n = (some front, rest)) :
    n = front ++ '@' :: rest := by
  unfold splitUser at split_eq
  split at split_eq
  · cases split_eq
  · next c before eq =>
    obtain ⟨some_eq, rfl⟩ := Prod.mk.inj split_eq
    obtain rfl := Option.some.inj some_eq
    have sign := List.head?_dropWhile_not (· != '@') n.reverse
    rw [eq] at sign
    obtain rfl : c = '@' := by simpa using sign
    have parted := List.takeWhile_append_dropWhile (p := (· != '@')) (l := n.reverse)
    rw [eq] at parted
    have turned := congrArg List.reverse parted
    rw [List.reverse_reverse, List.reverse_append, List.reverse_cons, List.append_assoc] at turned
    exact turned.symm

/-- A bare authority is the sign. -/
lemma eq_of_isBare {n : List Char} (bare : isBare n = true) : n = ['@'] := by
  rcases parted : splitUser n with ⟨_ | user, address⟩
  · simp [isBare, parted] at bare
  · obtain ⟨rfl, rfl⟩ : user = [] ∧ address = [] := by simpa [isBare, parted] using bare
    exact eq_of_splitUser parted

/-- Joined texts are encoded one by one. -/
lemma percentEncode_append (set : Char → Bool) (x y : List Char) :
    percentEncode set (x ++ y) = percentEncode set x ++ percentEncode set y :=
  List.flatMap_append ..

/-- The last segment of a path without a root is the service behind it. -/
lemma last_rootless (word : Word w) (s : List Char) :
    (Path.rootless (percentEncode isControl (s ++ '/' :: w))).last = w := by
  have name : percentEncode isControl ('/' :: w) = '/' :: percentEncode isControl w := rfl
  rw [percentEncode_append, name, word.percentEncode_eq (by decide)]
  exact rtakeWhile_append_slash (word.not_mem (by decide)) _

section Unknown

variable {s t : List Char} {on : Bool}

/-- A text that does not start with a slash is a path without a root. -/
lemma readRest_rootless (closed : closeGaps t = s) (first : ∀ c ∈ s.head?, c ≠ '/') :
    readRest .other u t on = .ok { u with path := .rootless (percentEncode isControl s) } := by
  unfold readRest
  dsimp only
  rw [closed]
  cases s with
  | nil => rfl
  | cons c s =>
    have other := first c rfl
    split
    · next eq => exact absurd (List.cons.inj eq).1 other
    · next eq => exact absurd (List.cons.inj eq).1 other
    · rfl

/-- A text behind one slash is a path. -/
lemma readRest_rooted (closed : closeGaps t = '/' :: s) (first : ∀ c ∈ s.head?, c ≠ '/') :
    readRest .other u t on = .ok { u with path := pathOf .other s } := by
  unfold readRest
  dsimp only
  rw [closed]
  cases s with
  | nil => rfl
  | cons c s =>
    have other := first c rfl
    split
    · next eq => exact absurd (List.cons.inj (List.cons.inj eq).2).1 other
    · next eq => rw [(List.cons.inj eq).2]
    · next none => exact (none (c :: s) rfl).elim

/-- A text behind two slashes has an authority. -/
lemma readRest_host (closed : closeGaps t = '/' :: '/' :: s) :
    readRest .other u t on =
      withAuthority .other u (s.takeWhile (· != '/')) (s.dropWhile (· != '/')) on := by
  unfold readRest
  dsimp only
  rw [closed, ← drop_length_takeWhile]
  rfl

/-- What stands for a host before a service is not the sign behind a user alone. -/
lemma isBare_takeWhile {v : Url} {b : List Char} (firm : b ++ slashes ≠ ['@'])
    (read : withAuthority .other u (b.takeWhile (· != '/'))
      (b.dropWhile (· != '/') ++ slashes) on = .ok v) :
    isBare (b.takeWhile (· != '/')) = false := by
  refine Bool.eq_false_iff.2 fun bare => ?_
  have split : b.takeWhile (· != '/') ++ (b.dropWhile (· != '/') ++ slashes) = b ++ slashes := by
    rw [← List.append_assoc, List.takeWhile_append_dropWhile]
  cases behind : b.dropWhile (· != '/') ++ slashes with
  | nil =>
    rw [behind, eq_of_isBare bare] at split
    exact firm split.symm
  | cons c rest =>
    rw [withAuthority_eq, bare, behind] at read
    simp at read

end Unknown

/-- Slashes start with no other character. -/
lemma head_ne_slash (slash : ∀ c ∈ slashes, c = '/') : ∀ c ∈ slashes.head?, (c != '/') = false := by
  intro c mem
  simp [slash c (List.mem_of_mem_head? mem)]

/-- Slashes alone behind a scheme lead to no host. -/
lemma sameServer_of_slashes {scheme t : List Char} {v : Url} {on : Bool}
    (slash : ∀ c ∈ slashes, c = '/') (closed : closeGaps t = slashes)
    (read : readRest .other (schemed scheme) t on = .ok v) (path : Path) :
    SameServer v { schemed scheme with path } := by
  rcases slashes with _ | ⟨c, _ | ⟨d, rest⟩⟩
  · rw [readRest_rootless closed (by simp)] at read
    obtain rfl := Except.ok.inj read
    exact ⟨rfl, rfl, rfl⟩
  · obtain rfl := slash c (by simp)
    rw [readRest_rooted closed (by simp)] at read
    obtain rfl := Except.ok.inj read
    exact ⟨rfl, rfl, rfl⟩
  · obtain ⟨rfl, rfl, slashes⟩ : c = '/' ∧ d = '/' ∧ ∀ c ∈ rest, c = '/' := by simpa using slash
    have none := (takeWhile_append_of_head (head_ne_slash slashes) []).1
    rw [List.nil_append, List.takeWhile_nil] at none
    have nobody : readAddress .other [] = .ok (.domain [], Option.none) := rfl
    rw [readRest_host closed, none, withAuthority_eq, nobody] at read
    obtain rfl := Except.ok.inj read
    exact ⟨rfl, rfl, (ite_self _).symm⟩

/-- The service behind an authority is at its server. -/
lemma readRest_host_service {t t' b : List Char} {v : Url} {on : Bool} (word : Word w)
    (slash : ∀ c ∈ slashes, c = '/') (firm : b ++ slashes ≠ ['@'])
    (closed : closeGaps t = '/' :: '/' :: (b ++ slashes))
    (service_closed : closeGaps t' = '/' :: '/' :: (b ++ '/' :: w))
    (read : readRest .other u t on = .ok v) (on' : Bool) :
    ∃ v', readRest .other u t' on' = .ok v' ∧ SameServer v v' ∧ v'.path.last = w := by
  have text := takeWhile_append_of_head (head_ne_slash slash) b
  have service_text := takeWhile_append_of_head (x := '/' :: w) (p := (· != '/')) (by simp) b
  rw [readRest_host closed, text.1, text.2] at read
  rw [readRest_host service_closed, service_text.1, service_text.2]
  exact withAuthority_service word read (isBare_takeWhile firm read) _ _

/-- The service of a URL with another scheme is at its server. -/
lemma readRest_other_service {scheme : List Char} {v : Url} {on : Bool} (word : Word w)
    (slash : ∀ c ∈ slashes, c = '/') (firm : ∀ d ∈ a.getLast?, isGap d = false ∧ d ≠ '/')
    (named : closeGaps (a ++ slashes) ≠ ['/', '/', '@'])
    (read : readRest .other (schemed scheme) (a ++ slashes) on = .ok v) (on' : Bool) :
    ∃ v', readRest .other (schemed scheme) (a ++ '/' :: w) on' = .ok v' ∧ SameServer v v' ∧
      v'.path.last = w := by
  have text : closeGaps (a ++ slashes) = closeGaps a ++ slashes := by
    rw [closeGaps_append, closeGaps_slashes slash]
  have service_text : closeGaps (a ++ '/' :: w) = closeGaps a ++ '/' :: w := by
    rw [closeGaps_append, word.closeGaps_service]
  rw [← getLast?_closeGaps fun d mem => (firm d mem).1] at firm
  generalize closeGaps a = b at *
  -- how many slashes there are before anything else tells what is read
  rcases b with _ | ⟨c, b⟩
  · have letter : ∀ c ∈ w.head?, c ≠ '/' := fun c mem eq =>
      word.not_mem (by decide) (eq ▸ List.mem_of_mem_head? mem)
    rw [readRest_rooted service_text letter]
    exact ⟨_, rfl, sameServer_of_slashes slash text read _, word.last_pathOf_self .other⟩
  by_cases first : c = '/'
  case neg =>
    rw [readRest_rootless text (by simpa using first)] at read
    rw [readRest_rootless service_text (by simpa using first)]
    obtain rfl := Except.ok.inj read
    exact ⟨_, rfl, ⟨rfl, rfl, rfl⟩, last_rootless word (c :: b)⟩
  subst first
  rcases b with _ | ⟨d, b⟩
  · exact absurd rfl (firm '/' rfl).2
  by_cases second : d = '/'
  case neg =>
    rw [readRest_rooted text (by simpa using second)] at read
    rw [readRest_rooted service_text (by simpa using second)]
    obtain rfl := Except.ok.inj read
    exact ⟨_, rfl, ⟨rfl, rfl, rfl⟩, word.last_pathOf_service .other (d :: b)⟩
  subst second
  have named_b : b ++ slashes ≠ ['@'] := by
    intro bare
    rw [text, List.cons_append, List.cons_append, bare] at named
    exact named rfl
  exact readRest_host_service word slash named_b text service_text read on'

/-! ## All schemes -/

/-- Whether a service behind a text meets nothing that a scheme treats in its own way. -/
structure EndsFirm (kind : SchemeKind) (s : List Char) : Prop where
  inner : ∀ d ∈ (s.rdropWhile (· == '/')).getLast?, ¬ isOuter d
  file : kind = .file → ∀ d ∈ (s.rdropWhile (· == '/')).getLast?, d ≠ '\\'
  other : kind = .other → closeGaps (behindScheme s) ≠ ['/', '/', '@']

namespace EndsFirm

variable {kind : SchemeKind} {s : List Char}

/-- A text with a firm end has no blanks there. -/
lemma endBlanks_eq (firm : EndsFirm kind s) : endBlanks s = [] := by
  obtain rfl | ⟨front, c, rfl⟩ := s.eq_nil_or_concat'
  · rfl
  by_cases outer : isOuter c
  case pos =>
    have no_slash : c ≠ '/' := ne_of_isOuter outer (by decide)
    have kept : (front ++ [c]).rdropWhile (· == '/') = front ++ [c] :=
      List.rdropWhile_concat_neg _ _ _ (by simpa using no_slash)
    have last : c ∈ ((front ++ [c]).rdropWhile (· == '/')).getLast? := by
      rw [kept, List.getLast?_concat]
      rfl
    exact absurd outer (firm.inner c last)
  case neg => exact List.rtakeWhile_concat_neg _ _ _ outer

/-- A text with a firm end has one in front of its slashes, too. -/
lemma last (firm : EndsFirm kind s) {d : Char}
    (mem : d ∈ (s.rdropWhile (· == '/')).getLast?) : isGap d = false ∧ d ≠ '/' := by
  have no_slash : d ≠ '/' := by
    obtain ⟨front, eq⟩ := List.getLast?_eq_some_iff.1 mem
    have ne_nil : s.rdropWhile (· == '/') ≠ [] := by rw [eq]; simp
    have stop := List.rdropWhile_last_not (· == '/') s ne_nil
    simpa [eq] using stop
  exact ⟨Bool.eq_false_iff.2 fun gap => firm.inner d mem (isOuter_of_isGap gap), no_slash⟩

end EndsFirm

/-- A text with a firm end leads to its service. -/
theorem leads_of_endsFirm {s service : List Char} (word : Word service) (ok : parse s = .ok u)
    (off : goesOn s = false) (firm : EndsFirm (schemeKind (String.ofList u.scheme)) s) :
    Leads s service u := by
  have blanks := firm.endBlanks_eq
  obtain ⟨⟨a, slashes, parted⟩, -⟩ := exists_parted word ok off
  have last {d : Char} (mem : d ∈ a.getLast?) := firm.last (parted.last blanks d mem)
  have service_text := parted.service_text
  rw [blanks, List.nil_append] at service_text
  obtain ⟨v, read, leads⟩ := exists_leads word ok off
  cases kind : schemeKind (String.ofList u.scheme) with
  | special =>
    refine leads_of_special word ok kind off (.inl ?_)
    rw [blanks]
    rfl
  | file =>
    rw [kind, parted.text] at read
    rw [kind, service_text] at leads
    have solid : a = [] ∨ Solid a := by
      obtain rfl | ⟨front, d, rfl⟩ := a.eq_nil_or_concat'
      · exact .inl rfl
      · have mem : d ∈ (front ++ [d]).getLast? := by simp
        have no_back := firm.file kind d (parted.last blanks d mem)
        exact .inr ⟨d, mem, (last mem).1, by simp [isSlash, (last mem).2, no_back]⟩
    exact leads (readRest_file_service word parted.slash solid read false)
  | other =>
    have named := firm.other kind
    rw [parted.text] at named
    rw [kind, parted.text] at read
    rw [kind, service_text] at leads
    exact leads (readRest_other_service word parted.slash (fun _ => last) named read false)

end Metering.Url
