import Metering.Error
import Metering.Exposition.Request
import Metering.Text.Basic

/-!
# The scrape server

What the server of a scraped backend answers. It knows the paths of one endpoint, without regard to
the query, and lets them be read only.
-/

namespace Metering.Exposition

/-- An answer of the server. -/
structure Answer where
  status : UInt16
  contentType : Option String := none
  /-- The methods that the path allows, where another one was used. -/
  allow : Option String := none
  body : String := ""
  deriving DecidableEq, Repr

/-- The answer to a request that reads the exposition. -/
def readAnswer : Except MeteringError String → Answer
  | .ok text =>
    { status := 200, contentType := some "text/plain; version=0.0.4", body := text }
  | .error e =>
    { status := 500, contentType := some "text/plain; charset=utf-8", body := e.message }

/-- The answer to a request that is refused. -/
def Refusal.answer : Refusal → Answer
  | malformed => { status := 400 }
  | targetTooLong => { status := 414 }

/-- Whether a character of an endpoint begins a part that stands for other texts. -/
def isMark (c : Char) : Bool :=
  c == ':' || c == '*'

/-- Whether a router can make sense of a segment: it has one mark at most, behind which there is a
name, and a star stands at its beginning. -/
def isSegment (segment : List Char) : Bool :=
  match segment.dropWhile (!isMark ·) with
  | [] => true
  | mark :: name =>
    !name.isEmpty && !name.any isMark && (mark == ':' || segment.head? == some '*')

/-- Whether a router can make sense of an endpoint: a star stands in the last segment only, and there
are 25 colons at most. -/
def isRoute (endpoint : List Char) : Bool :=
  let segments := Text.splitOn (· == '/') endpoint
  segments.all isSegment && segments.dropLast.all (·.head? != some '*') &&
    endpoint.count ':' ≤ 25

/-- A segment without marks is one that a router can make sense of. -/
theorem isSegment_of_plain {segment : List Char} (plain : ∀ c ∈ segment, isMark c = false) :
    isSegment segment := by
  have unmarked : segment.dropWhile (!isMark ·) = [] := by
    induction segment with
    | nil => rfl
    | cons c rest ih =>
      obtain ⟨first, others⟩ := List.forall_mem_cons.1 plain
      rw [List.dropWhile_cons, first]
      exact ih others
  rw [isSegment, unmarked]

/-- A router can make sense of every endpoint without colon and star. -/
theorem isRoute_of_plain {endpoint : List Char} (colon : ':' ∉ endpoint) (star : '*' ∉ endpoint) :
    isRoute endpoint := by
  have plain : ∀ segment ∈ Text.splitOn (· == '/') endpoint, ∀ c ∈ segment, isMark c = false := by
    intro segment mem c inside
    have there : c ∈ endpoint := Text.mem_of_mem_splitOn mem inside
    simp only [isMark, Bool.or_eq_false_iff, beq_eq_false_iff_ne]
    exact ⟨fun same => colon (same ▸ there), fun same => star (same ▸ there)⟩
  have segments : (Text.splitOn (· == '/') endpoint).all isSegment :=
    List.all_eq_true.2 fun segment mem => isSegment_of_plain (plain segment mem)
  have starless : (Text.splitOn (· == '/') endpoint).dropLast.all (·.head? != some '*') := by
    refine List.all_eq_true.2 fun segment mem => bne_iff_ne.2 fun starred => ?_
    have unmarked := plain segment ((List.dropLast_sublist _).mem mem) '*' (List.mem_of_head? starred)
    cases unmarked
  have colons : endpoint.count ':' = 0 := List.count_eq_zero.2 colon
  rw [isRoute, segments, starless, colons]
  rfl

/--
Whether an endpoint serves a path. The two are the same, but a colon in the endpoint begins a part
that stands for the text up to the next slash, and a star one that stands for all that is left.
Neither stands for the end of the path.
-/
def serves (endpoint path : List Char) : Bool :=
  match endpoint with
  | [] => path.isEmpty
  | ':' :: name =>
    !path.isEmpty && serves (name.dropWhile (· != '/')) (path.dropWhile (· != '/'))
  | '*' :: _ => !path.isEmpty
  | c :: rest =>
    match path with
    | [] => false
    | d :: behind => c == d && serves rest behind
termination_by endpoint.length
decreasing_by
  · exact Nat.lt_succ_of_le (List.dropWhile_sublist _).length_le
  · simp

/-- An endpoint without colon and star serves nothing but itself. -/
theorem serves_iff_eq {endpoint path : List Char} (colon : ':' ∉ endpoint)
    (star : '*' ∉ endpoint) : serves endpoint path ↔ path = endpoint := by
  induction endpoint generalizing path with
  | nil => simp [serves]
  | cons c rest ih =>
    simp only [List.mem_cons, not_or] at colon star
    cases path with
    | nil => rw [serves] <;> grind
    | cons d behind => rw [serves] <;> grind

/-- The answer to a request that can be looked at, the exposition being given. -/
def Request.answer (endpoint : String) (exposition : Except MeteringError String) (r : Request) :
    Answer :=
  if !serves endpoint.toList r.path.toList then { status := 404 }
  else if r.method = "GET" then readAnswer exposition
  else if r.method = "HEAD" then { readAnswer exposition with body := "" }
  else { status := 405, allow := some "GET,HEAD" }

/-- The answer to a method and a target. -/
def answer (endpoint : String) (exposition : Except MeteringError String) (method target : String) :
    Answer :=
  match Request.read (requestText method target) with
  | .ok request => request.answer endpoint exposition
  | .error refusal => refusal.answer

end Metering.Exposition
