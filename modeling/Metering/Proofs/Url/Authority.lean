import Mathlib.Data.List.DropRight
import Metering.Url.Reading

/-!
# Services behind a URL

The URL of a service is read from the text of another URL: slashes at the end of the text are
dropped, and a slash and the name of the service are put behind. For a special scheme the reader
finds the same scheme in both texts (`scheme_service`), and what it takes for the authority of the
longer one is the authority of the shorter one, possibly with blanks behind it
(`authority_service`). So the user name and the password are the same (`user_service`).
-/

namespace Metering.Url

variable {α : Type} {p : α → Bool} {xs ys : List α}

/-! ## Runs of characters -/

/-- Taking stops where it did when more stands behind. -/
lemma takeWhile_append_of_stop (stop : ∃ x ∈ xs, ¬ p x) :
    (xs ++ ys).takeWhile p = xs.takeWhile p := by
  rw [List.takeWhile_append, if_neg]
  intro whole
  obtain ⟨x, mem, fails⟩ := stop
  have all := (List.takeWhile_prefix p).eq_of_length whole
  exact fails (List.takeWhile_eq_self_iff.1 all x mem)

/-- Dropping stops where it did when more stands behind. -/
lemma dropWhile_append_of_stop (stop : ∃ x ∈ xs, ¬ p x) :
    (xs ++ ys).dropWhile p = xs.dropWhile p ++ ys := by
  rw [List.dropWhile_append, if_neg]
  rw [List.isEmpty_iff, List.dropWhile_eq_nil_iff]
  obtain ⟨x, mem, fails⟩ := stop
  exact fun all => fails (all x mem)

/-- Dropping from the end stops where it did when more stands in front. -/
lemma rdropWhile_append_of_stop (stop : ∃ y ∈ ys, ¬ p y) :
    (xs ++ ys).rdropWhile p = xs ++ ys.rdropWhile p := by
  have stop' : ∃ y ∈ ys.reverse, ¬ p y := by simpa using stop
  simp only [List.rdropWhile, List.reverse_append, dropWhile_append_of_stop stop',
    List.reverse_reverse]

/-! ## Texts with a service behind them -/

/-- The first part of a cut is what stands before the character. -/
lemma cut_fst (c : Char) (s : List Char) : (cut c s).1 = s.takeWhile (· != c) := by
  unfold cut
  split
  · next all =>
    exact (List.takeWhile_eq_self_iff.2 (List.dropWhile_eq_nil_iff.1 all)).symm
  · rfl

/-- A text is cut at the first of the characters. -/
lemma cut_append_cons {c : Char} {s : List Char} (t : List Char) (not_mem : c ∉ s) :
    cut c (s ++ c :: t) = (s, some t) := by
  have passed : ∀ a ∈ s, (a != c) = true := by
    intro a mem
    exact bne_iff_ne.2 fun eq => not_mem (eq ▸ mem)
  simp [cut, List.dropWhile_append_of_pos passed, List.takeWhile_append_of_pos passed]

/-- A blank or a control character. -/
def isOuter (c : Char) : Bool :=
  c.toNat ≤ 0x20

/-- Gaps are among the characters that are trimmed. -/
lemma isOuter_of_isGap {c : Char} (gap : isGap c) : isOuter c := by
  simp only [isGap, Bool.or_eq_true, beq_iff_eq] at gap
  obtain (rfl | rfl) | rfl := gap <;> rfl

/--
A text and what it becomes with a service behind it. Either the service is out of sight, or the
slashes at the end of the text have made room for it and for some blanks.
-/
inductive Served (service : List Char) : List Char → List Char → Prop where
  | same (s : List Char) : Served service s s
  | behind (a slashes blanks : List Char) (slash : ∀ c ∈ slashes, c = '/')
      (blank : ∀ c ∈ blanks, isOuter c) :
      Served service (a ++ slashes) (a ++ (blanks ++ '/' :: service))

variable {service s t : List Char}

/-- A name made of letters. -/
structure Word (service : List Char) : Prop where
  ne_nil : service ≠ []
  letters : service.all Char.isAlpha

/-- A word is made of letters. -/
lemma Word.letter (word : Word service) {c : Char} (mem : c ∈ service) : c.isAlpha :=
  List.all_eq_true.1 word.letters c mem

/-- No letter is a blank or a control character. -/
lemma isAlpha_ofNat : ∀ n ≤ 0x20, (Char.ofNat n).isAlpha = false := by
  decide

/-- No letter of a word is trimmed. -/
lemma Word.not_outer (word : Word service) {c : Char} (mem : c ∈ service) : ¬ isOuter c := by
  intro outer
  have small : c.toNat ≤ 0x20 := of_decide_eq_true outer
  have other := isAlpha_ofNat c.toNat small
  rw [Char.ofNat_toNat, word.letter mem] at other
  cases other

/-- No other character stands in a word. -/
lemma Word.not_mem (word : Word service) {c : Char} (other : c.isAlpha = false) : c ∉ service :=
  fun mem => Bool.false_ne_true (other.symm.trans (word.letter mem))

/-- A sign that neither a service nor what may stand in front of it contains. -/
def isSign (c : Char) : Bool :=
  !(c.isAlpha || c == '/' || isOuter c)

/-- Neither blanks nor a service have signs. -/
lemma Word.behind_ne (word : Word service) {blanks : List Char}
    (blank : ∀ c ∈ blanks, isOuter c) {c : Char} (sign : isSign c) :
    c ∉ blanks ++ '/' :: service := by
  simp only [isSign, Bool.not_eq_true', Bool.or_eq_false_iff, beq_eq_false_iff_ne] at sign
  obtain ⟨⟨other, no_slash⟩, inner⟩ := sign
  rw [List.mem_append, List.mem_cons]
  rintro (mem | rfl | mem)
  · exact Bool.false_ne_true (inner.symm.trans (blank c mem))
  · exact no_slash rfl
  · exact word.not_mem other mem

/-- Slashes have no signs. -/
lemma not_mem_slashes {slashes : List Char} (slash : ∀ c ∈ slashes, c = '/') {c : Char}
    (sign : isSign c) : c ∉ slashes := by
  intro mem
  obtain rfl := slash c mem
  exact absurd sign (by decide)

/-- A text without the character is taken whole. -/
lemma takeWhile_of_not_mem {c : Char} (not_mem : c ∉ s) : s.takeWhile (· != c) = s :=
  List.takeWhile_eq_self_iff.2 fun _ mem => bne_iff_ne.2 fun eq => not_mem (eq ▸ mem)

namespace Served

/-- Before a sign, texts that differ in a service still do. -/
lemma before (word : Word service) (served : Served service s t) {c : Char} (sign : isSign c) :
    Served service (cut c s).1 (cut c t).1 := by
  rw [cut_fst, cut_fst]
  cases served with
  | same => exact .same _
  | behind a slashes blanks slash blank =>
    by_cases mem : c ∈ a
    · have stop : ∃ x ∈ a, ¬ (x != c) := ⟨c, mem, by simp⟩
      rw [takeWhile_append_of_stop stop, takeWhile_append_of_stop stop]
      exact .same _
    · rw [takeWhile_of_not_mem, takeWhile_of_not_mem]
      · exact .behind a slashes blanks slash blank
      · exact List.not_mem_append mem (word.behind_ne blank sign)
      · exact List.not_mem_append mem (not_mem_slashes slash sign)

/-- At a sign, texts that differ in a service have the same in front. -/
lemma split (served : Served service s t) {c : Char} (sign : isSign c) (mem : c ∈ s) :
    ∃ x y z, c ∉ x ∧ s = x ++ c :: y ∧ t = x ++ c :: z ∧ Served service y z := by
  cases served with
  | same =>
    obtain ⟨x, y, rfl, first⟩ := List.eq_append_cons_of_mem mem
    exact ⟨x, y, y, first, rfl, rfl, .same y⟩
  | behind a slashes blanks slash blank =>
    have mem_a := (List.mem_append.1 mem).resolve_right (not_mem_slashes slash sign)
    obtain ⟨x, y, rfl, first⟩ := List.eq_append_cons_of_mem mem_a
    exact ⟨x, y ++ slashes, y ++ (blanks ++ '/' :: service), first, by simp, by simp,
      .behind y slashes blanks slash blank⟩

/-- Without gaps, texts that differ in a service still do. -/
lemma closeGaps (word : Word service) (served : Served service s t) :
    Served service (closeGaps s) (closeGaps t) := by
  cases served with
  | same => exact .same _
  | behind a slashes blanks slash blank =>
    have whole : Url.closeGaps ('/' :: service) = '/' :: service := by
      refine List.filter_eq_self.2 fun c mem => ?_
      rw [Bool.not_eq_true']
      refine Bool.eq_false_iff.2 fun gap => ?_
      obtain rfl | mem := List.mem_cons.1 mem
      · exact absurd gap (by decide)
      · exact word.not_outer mem (isOuter_of_isGap gap)
    have parted : Served service (Url.closeGaps a ++ Url.closeGaps slashes)
        (Url.closeGaps a ++ (Url.closeGaps blanks ++ '/' :: service)) :=
      .behind _ _ _ (fun c mem => slash c (List.mem_of_mem_filter mem))
        (fun c mem => blank c (List.mem_of_mem_filter mem))
    rw [← whole] at parted
    simpa only [Url.closeGaps, List.filter_append] using parted

end Served

/-! ## Schemes -/

/-- Dropping as many as are taken drops the same. -/
lemma drop_length_takeWhile (p : α → Bool) (xs : List α) :
    xs.drop (xs.takeWhile p).length = xs.dropWhile p := by
  have split : (xs.takeWhile p ++ xs.dropWhile p).drop (xs.takeWhile p).length = xs.dropWhile p :=
    List.drop_left
  rwa [List.takeWhile_append_dropWhile] at split

/-- The scheme is read before the first colon. -/
lemma scheme?_append (x y z : List Char) (not_mem : ':' ∉ x) :
    (scheme? (x ++ ':' :: y)).map Prod.fst = (scheme? (x ++ ':' :: z)).map Prod.fst := by
  cases x with
  | nil => rfl
  | cons c x =>
    simp only [List.cons_append, scheme?, drop_length_takeWhile]
    generalize fits : (fun c : Char => c.isAlphanum || c == '+' || c == '-' || c == '.') = p
    have ends : ¬ p ':' := by rw [← fits]; decide
    by_cases stop : ∃ d ∈ x, ¬ p d
    · rw [dropWhile_append_of_stop stop, dropWhile_append_of_stop stop]
      have left : x.dropWhile p ≠ [] := by
        obtain ⟨d, mem, fails⟩ := stop
        exact fun all => fails (List.dropWhile_eq_nil_iff.1 all d mem)
      obtain ⟨d, more, eq⟩ := List.exists_cons_of_ne_nil left
      have mem : d ∈ c :: x := by
        refine List.mem_cons_of_mem c ((List.dropWhile_suffix p).subset ?_)
        exact eq ▸ List.mem_cons_self
      have other : d ≠ ':' := fun same => not_mem (same ▸ mem)
      -- the name stops before the colon, and nothing is found in either text
      rw [eq, List.cons_append, List.cons_append]
      split
      · next same => exact absurd (List.cons.inj same).1 other
      split
      · next same => exact absurd (List.cons.inj same).1 other
      · rfl
    · push Not at stop
      rw [List.dropWhile_append_of_pos stop, List.dropWhile_append_of_pos stop,
        List.takeWhile_append_of_pos stop, List.takeWhile_append_of_pos stop,
        List.dropWhile_cons_of_neg ends, List.dropWhile_cons_of_neg ends,
        List.takeWhile_cons_of_neg ends, List.takeWhile_cons_of_neg ends]
      cases c.isAlpha with
      | false => rfl
      | true => rfl

/-! ## Parts of a text -/

/-- The text up to its query and its fragment. -/
def trunk (s : List Char) : List Char :=
  (cut '?' (cut '#' (trimControls s)).1).1

/-- The text behind any number of slashes and up to the next one. -/
def between (s : List Char) : List Char :=
  (s.dropWhile (isSlash .special)).takeWhile fun c => !isSlash .special c

/-- What stands for the user, the host and the port in a text with a special scheme. -/
def authority (s : List Char) : List Char :=
  between (closeGaps ((cut ':' (trunk s)).2.getD []))

variable {u v : Url}

/-- The scheme and the user are those of the authority that is read. -/
lemma withAuthority_ok {kind : SchemeKind} {authority behind : List Char} {goesOn : Bool}
    (ok : withAuthority kind u authority behind goesOn = .ok v) :
    v.scheme = u.scheme ∧
      v.userName = percentEncode inUserSet (cut ':' ((splitUser authority).1.getD [])).1 ∧
      v.password =
        percentEncode inUserSet ((cut ':' ((splitUser authority).1.getD [])).2.getD []) ∧
      (kind ≠ .other → (splitPort false (splitUser authority).2).1 ≠ []) := by
  simp only [withAuthority, bind, Except.bind, pure, Except.pure, throw, throwThe,
    MonadExceptOf.throw] at ok
  split at ok
  · cases ok
  split at ok
  · cases ok
  next filled =>
  have named (web : kind ≠ .other) : (splitPort false (splitUser authority).2).1 ≠ [] := by
    intro empty
    exact filled (by simp [empty, web])
  split at ok
  all_goals -- the host is read in one of two ways
    split at ok
    · cases ok
    split at ok
    · cases ok
    split at ok
    · cases ok
    cases ok
    exact ⟨rfl, rfl, rfl, named⟩

/-- A file keeps its scheme. -/
lemma ofFile_scheme (ok : ofFile u s = .ok v) : v.scheme = u.scheme := by
  simp only [ofFile, bind, Except.bind, pure, Except.pure] at ok
  repeat' split at ok
  all_goals cases ok <;> rfl

/-- The scheme of a URL is the one that its text starts with. -/
lemma parse_scheme (ok : parse s = .ok u) :
    (scheme? (closeGaps (trunk s))).map Prod.fst = some u.scheme := by
  simp only [parse, pure, Except.pure, throw, throwThe, MonadExceptOf.throw] at ok
  split at ok
  · next scheme _ eq =>
    rw [trunk, eq, Option.map_some]
    split at ok
    · rw [ofFile_scheme ok]
    · rw [(withAuthority_ok ok).1]
    · split at ok
      · rw [(withAuthority_ok ok).1]
      · cases ok; rfl
      · cases ok; rfl
  · cases ok

/-- A URL with a special scheme is read from its authority. -/
lemma parse_special (ok : parse s = .ok u)
    (special : schemeKind (String.ofList u.scheme) = .special) :
    ∃ base behind goesOn, withAuthority .special base (authority s) behind goesOn = .ok u := by
  have scheme := parse_scheme ok
  simp only [parse, pure, Except.pure, throw, throwThe, MonadExceptOf.throw] at ok
  split at ok
  · next name _ eq =>
    obtain rfl : name = u.scheme := by simpa [trunk, eq] using scheme
    rw [special] at ok
    exact ⟨_, _, _, ok⟩
  · cases ok

/-- A URL with a special scheme has an authority. -/
lemma authority_ne_nil (ok : parse s = .ok u)
    (special : schemeKind (String.ofList u.scheme) = .special) : authority s ≠ [] := by
  obtain ⟨base, behind, goesOn, ok⟩ := parse_special ok special
  intro empty
  rw [empty] at ok
  exact (withAuthority_ok ok).2.2.2 (by decide) rfl

/-! ## Services -/

/-- The text of the URL of a service. -/
def serviceText (s service : List Char) : List Char :=
  s.rdropWhile (· == '/') ++ '/' :: service

/-- Blanks in front are trimmed. -/
lemma trimControls_append {lead x : List Char} (outer : ∀ c ∈ lead, isOuter c) {first last : Char}
    (head : x.head? = some first) (first_inner : ¬ isOuter first)
    (last_eq : x.getLast? = some last) (last_inner : ¬ isOuter last) :
    trimControls (lead ++ x) = x := by
  change ((lead ++ x).dropWhile isOuter).rdropWhile isOuter = x
  obtain ⟨more, rfl⟩ := List.head?_eq_some_iff.1 head
  rw [List.dropWhile_append_of_pos outer, List.dropWhile_cons_of_neg first_inner]
  refine List.rdropWhile_eq_self_iff.2 fun ne => ?_
  rwa [List.getLast_of_getLast?_eq_some last_eq]

/-- A text is blanks, its trimmed form and blanks again. -/
lemma exists_trimControls (s : List Char) :
    ∃ lead trail, s = lead ++ (trimControls s ++ trail) ∧
      (∀ c ∈ lead, isOuter c) ∧ (∀ c ∈ trail, isOuter c) := by
  refine ⟨s.takeWhile isOuter, (s.dropWhile isOuter).rtakeWhile isOuter, ?_,
    fun _ => List.mem_takeWhile_imp, fun _ => List.mem_rtakeWhile_imp⟩
  change s = _ ++ ((s.dropWhile isOuter).rdropWhile isOuter ++ _)
  rw [List.rdropWhile_append_rtakeWhile, List.takeWhile_append_dropWhile]

/-- A trimmed text does not start with a blank. -/
lemma head_trimControls {first : Char} (head : (trimControls s).head? = some first) :
    ¬ isOuter first := by
  obtain ⟨more, eq⟩ := List.head?_eq_some_iff.1 head
  have begins : first :: more <+: s.dropWhile isOuter := eq ▸ List.rdropWhile_prefix _ _
  obtain ⟨rest, eq⟩ := begins
  have := List.head?_dropWhile_not isOuter s
  rw [← eq] at this
  simpa using this

/-- The blanks and controls at the end of a text. -/
def endBlanks (s : List Char) : List Char :=
  s.rtakeWhile isOuter

/-- The end blanks are those behind the last other character. -/
lemma endBlanks_append {x trail : List Char} (inner : ∀ c ∈ x.getLast?, ¬ isOuter c)
    (ne_nil : x ≠ []) (blank : ∀ c ∈ trail, isOuter c) (lead : List Char) :
    endBlanks (lead ++ (x ++ trail)) = trail := by
  obtain ⟨front, d, rfl⟩ := x.eq_nil_or_concat'.resolve_left ne_nil
  have stop : ¬ isOuter d := inner d (by simp)
  have blank' : ∀ c ∈ trail.reverse, isOuter c := fun c mem => blank c (List.mem_reverse.1 mem)
  rw [endBlanks, List.rtakeWhile]
  simp [List.takeWhile_append_of_pos blank', stop]

/-- A trimmed text does not end with a blank. -/
lemma last_trimControls {last : Char} (mem : last ∈ (trimControls s).getLast?) :
    ¬ isOuter last := by
  have kept : trimControls s = (s.dropWhile isOuter).rdropWhile isOuter := rfl
  obtain ⟨front, eq⟩ := List.getLast?_eq_some_iff.1 mem
  rw [kept] at eq
  have ne_nil : (s.dropWhile isOuter).rdropWhile isOuter ≠ [] := by rw [eq]; simp
  have inner := List.rdropWhile_last_not isOuter (s.dropWhile isOuter) ne_nil
  simpa [eq] using inner

/-- A text is its trimmed one between blanks. -/
lemma exists_lead (ne_nil : trimControls s ≠ []) :
    ∃ lead, s = lead ++ (trimControls s ++ endBlanks s) ∧ ∀ c ∈ lead, isOuter c := by
  obtain ⟨lead, trail, eq, outer, blank⟩ := exists_trimControls s
  have ends := endBlanks_append (fun c mem => last_trimControls mem) ne_nil blank lead
  rw [← eq] at ends
  exact ⟨lead, ends.symm ▸ eq, outer⟩

/-- A service at the end is not trimmed. -/
lemma trimControls_service (word : Word service) {lead x : List Char}
    (outer : ∀ c ∈ lead, isOuter c) {first : Char} (head : x.head? = some first) (inner : ¬ isOuter first) :
    trimControls (lead ++ x ++ '/' :: service) = x ++ '/' :: service := by
  have last_eq := List.getLast?_eq_some_getLast word.ne_nil
  rw [List.append_assoc]
  refine trimControls_append outer (by simp [head]) inner ?_
    (word.not_outer (List.getLast_mem word.ne_nil))
  simp [List.getLast?_append, List.getLast?_cons, last_eq]

/-- A text and the text of a service after they are trimmed: the service takes the place of the
slashes at the end, or it comes behind the blanks there. -/
lemma trim_service (word : Word service) (stop : ∃ c ∈ trimControls s, ¬ (c == '/')) :
    ∃ a slashes, trimControls s = a ++ slashes ∧ (∀ c ∈ slashes, c = '/') ∧
      trimControls (serviceText s service) = a ++ (endBlanks s ++ '/' :: service) ∧
      (endBlanks s ≠ [] → slashes = []) ∧ (s.rdropWhile (· == '/')).getLast? =
        if endBlanks s = [] then a.getLast? else (endBlanks s).getLast? := by
  have filled : trimControls s ≠ [] := by
    obtain ⟨c, mem, -⟩ := stop
    exact List.ne_nil_of_mem mem
  obtain ⟨first, head⟩ := Option.isSome_iff_exists.1 (List.isSome_head?.2 filled)
  have inner := head_trimControls head
  obtain ⟨lead, eq, outer⟩ := exists_lead filled
  have blank : ∀ c ∈ endBlanks s, isOuter c := fun _ => List.mem_rtakeWhile_imp
  generalize trimControls s = m at *
  generalize endBlanks s = trail at *
  rw [serviceText, eq]
  obtain rfl | ⟨front, c, rfl⟩ := trail.eq_nil_or_concat'
  · -- the text ends with its own slashes
    have ne_nil : m.rdropWhile (· == '/') ≠ [] := by
      obtain ⟨c, mem, fails⟩ := stop
      exact fun all => fails (List.rdropWhile_eq_nil_iff.1 all c mem)
    have head' : (m.rdropWhile (· == '/')).head? = some first := by
      rw [← List.head?_append_of_ne_nil _ ne_nil, List.rdropWhile_append_rtakeWhile]
      exact head
    refine ⟨m.rdropWhile (· == '/'), m.rtakeWhile (· == '/'),
      List.rdropWhile_append_rtakeWhile.symm, fun c mem => ?_, ?_, fun more => absurd rfl more, ?_⟩
    · simpa using List.mem_rtakeWhile_imp mem
    · rw [List.append_nil, rdropWhile_append_of_stop stop,
        trimControls_service word outer head' inner, List.nil_append]
    · rw [if_pos rfl, List.append_nil, rdropWhile_append_of_stop stop,
        List.getLast?_append_of_ne_nil _ ne_nil]
  · -- blanks behind the slashes keep them
    have no_slash : ¬ (c == '/') := by
      intro slash
      have outer : isOuter c := blank c (by simp)
      rw [beq_iff_eq.1 slash] at outer
      exact absurd outer (by decide)
    have kept : (lead ++ (m ++ (front ++ [c]))).rdropWhile (· == '/') =
        lead ++ (m ++ (front ++ [c])) :=
      List.rdropWhile_eq_self_iff.2 fun ne => by simpa using no_slash
    refine ⟨m, [], (List.append_nil m).symm, by simp, ?_, fun _ => rfl, ?_⟩
    · rw [kept, trimControls_service word outer (by simp [head]) inner, List.append_assoc]
    · rw [kept, if_neg (by simp)]
      simp

/-- Trimmed, a text and that of its service differ in the service only. -/
lemma served_trim (word : Word service) (stop : ∃ c ∈ trimControls s, ¬ (c == '/')) :
    Served service (trimControls s) (trimControls (serviceText s service)) := by
  obtain ⟨a, slashes, eq, slash, eq', -, -⟩ := trim_service word stop
  rw [eq, eq']
  exact .behind a slashes (endBlanks s) slash fun _ => List.mem_rtakeWhile_imp

/-- Between slashes, the text of a service adds blanks at most. -/
lemma Served.between (served : Served service s t) (ne_nil : between s ≠ []) :
    ∃ blanks, (∀ c ∈ blanks, isOuter c) ∧ Url.between t = Url.between s ++ blanks := by
  cases served with
  | same => exact ⟨[], by simp, by simp⟩
  | behind a slashes blanks slash blank =>
    have slash' : ∀ c ∈ slashes, isSlash .special c := by
      intro c mem
      rw [slash c mem]
      rfl
    -- otherwise nothing but slashes would stand there
    have stop : ∃ c ∈ a, ¬ isSlash .special c := by
      by_contra none_
      push Not at none_
      refine ne_nil ?_
      have all : (a ++ slashes).dropWhile (isSlash .special) = [] :=
        List.dropWhile_eq_nil_iff.2 (List.forall_mem_append.2 ⟨none_, slash'⟩)
      rw [Url.between, all]
      rfl
    rw [Url.between, Url.between, dropWhile_append_of_stop stop, dropWhile_append_of_stop stop]
    generalize a.dropWhile (isSlash .special) = rest
    -- a slash before the service ends what is between for both texts
    by_cases ends : ∃ c ∈ rest, ¬ !isSlash .special c
    · rw [takeWhile_append_of_stop ends, takeWhile_append_of_stop ends]
      exact ⟨[], by simp, by simp⟩
    · push Not at ends
      have inner : ∀ c ∈ blanks, !isSlash .special c := by
        intro c mem
        rw [Bool.not_eq_true']
        refine Bool.eq_false_iff.2 fun slash => ?_
        have outer := blank c mem
        simp only [isSlash, Bool.or_eq_true, Bool.and_eq_true, beq_iff_eq] at slash
        obtain rfl | ⟨rfl, -⟩ := slash
        · exact absurd outer (by decide)
        · exact absurd outer (by decide)
      have none_ : slashes.takeWhile (fun c => !isSlash .special c) = [] := by
        cases slashes with
        | nil => rfl
        | cons c more => simp [slash' c]
      have stops : ('/' :: service).takeWhile (fun c => !isSlash .special c) = [] := rfl
      rw [List.takeWhile_append_of_pos ends, List.takeWhile_append_of_pos ends,
        List.takeWhile_append_of_pos inner, stops, none_]
      exact ⟨blanks, blank, by simp⟩

/-! ## What the service shares with the text -/

/-- A text with a scheme has a colon. -/
lemma colon_mem {name : List Char} (scheme : (scheme? s).map Prod.fst = some name) : ':' ∈ s := by
  cases s with
  | nil => cases scheme
  | cons c s =>
    simp only [scheme?] at scheme
    split at scheme
    · next rest _ eq =>
      have mem : ':' ∈ ':' :: rest := List.mem_cons_self
      rw [← eq] at mem
      exact List.mem_cons_of_mem c (List.mem_of_mem_drop mem)
    · cases scheme

/-- The trunk is part of the trimmed text. -/
lemma trunk_subset (s : List Char) : trunk s ⊆ trimControls s := by
  rw [trunk, cut_fst, cut_fst]
  exact List.Subset.trans (List.takeWhile_prefix _).subset (List.takeWhile_prefix _).subset

/-- The trunks of a text and of its service differ in the service only. -/
lemma served_trunk (word : Word service) (ok : parse s = .ok u) :
    Served service (trunk s) (trunk (serviceText s service)) := by
  have colon := trunk_subset s (List.mem_of_mem_filter (colon_mem (parse_scheme ok)))
  have trimmed := served_trim word ⟨':', colon, by decide⟩
  exact (trimmed.before word (by decide)).before word (by decide)

/-- The URL of a service has the same scheme. -/
theorem scheme_service (word : Word service) (ok : parse s = .ok u)
    (service_ok : parse (serviceText s service) = .ok v) : v.scheme = u.scheme := by
  have scheme := parse_scheme ok
  have served := (served_trunk word ok).closeGaps word
  obtain ⟨x, y, z, first, eq, eq', -⟩ := served.split (by decide) (colon_mem scheme)
  have service_scheme := parse_scheme service_ok
  rw [eq] at scheme
  rw [eq', scheme?_append x z y first, scheme] at service_scheme
  exact (Option.some.inj service_scheme).symm

/-- The text of a service adds blanks at most to the authority. -/
theorem authority_service (word : Word service) (ok : parse s = .ok u)
    (special : schemeKind (String.ofList u.scheme) = .special) :
    ∃ blanks, (∀ c ∈ blanks, isOuter c) ∧
      authority (serviceText s service) = authority s ++ blanks := by
  have colon := List.mem_of_mem_filter (colon_mem (parse_scheme ok))
  obtain ⟨x, y, z, first, eq, eq', served⟩ := (served_trunk word ok).split (by decide) colon
  have short : authority s = between (closeGaps y) := by
    rw [authority, eq, cut_append_cons y first]
    rfl
  have long : authority (serviceText s service) = between (closeGaps z) := by
    rw [authority, eq', cut_append_cons z first]
    rfl
  have ne_nil := authority_ne_nil ok special
  rw [short] at ne_nil
  rw [short, long]
  exact (served.closeGaps word).between ne_nil

/-- What stands behind the last sign does not change the user. -/
lemma splitUser_append (a : List Char) {b : List Char} (not_mem : '@' ∉ b) :
    (splitUser (a ++ b)).1 = (splitUser a).1 := by
  have passed : ∀ c ∈ b.reverse, (c != '@') = true := by
    intro c mem
    exact bne_iff_ne.2 fun eq => not_mem (eq ▸ List.mem_reverse.1 mem)
  unfold splitUser
  rw [List.reverse_append, List.dropWhile_append_of_pos passed]
  split <;> rfl

/-- The URL of a service has the same user and password. -/
theorem user_service (word : Word service) (ok : parse s = .ok u)
    (special : schemeKind (String.ofList u.scheme) = .special)
    (service_ok : parse (serviceText s service) = .ok v) :
    v.userName = u.userName ∧ v.password = u.password := by
  obtain ⟨blanks, outer, eq⟩ := authority_service word ok special
  have special' : schemeKind (String.ofList v.scheme) = .special := by
    rwa [scheme_service word ok service_ok]
  obtain ⟨_, _, _, of_text⟩ := parse_special ok special
  obtain ⟨_, _, _, of_service⟩ := parse_special service_ok special'
  obtain ⟨-, name, password, -⟩ := withAuthority_ok of_text
  obtain ⟨-, service_name, service_password, -⟩ := withAuthority_ok of_service
  have same : (splitUser (authority (serviceText s service))).1 = (splitUser (authority s)).1 := by
    rw [eq]
    exact splitUser_append _ fun mem => absurd (outer '@' mem) (by decide)
  rw [same] at service_name service_password
  exact ⟨service_name.trans name.symm, service_password.trans password.symm⟩

end Metering.Url
