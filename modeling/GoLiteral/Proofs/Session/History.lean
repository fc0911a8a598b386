import Mathlib.Data.List.Induction
import GoLiteral.Proofs.Reading.Failure
import GoLiteral.Proofs.Session.Places

/-!
# A session over many calls

Between a reading and the look-ups that go by it there may be any number of other calls, and some
of them may fail. A `History` is a session that has answered some calls, with the buffer that all
its callers append to and the answers so far.

Every reading starts afresh: what comes of it depends on the token and the span, and neither on
what the session has kept nor on what the buffer holds (`append_eq_firstReading`). So all that a
history carries on is its last reading, and `FollowsLast`, which says just that, is kept by every
call.
-/

namespace GoLiteral.Session

variable {host : Token} {span : Span}

/-! ## A single reading -/

/-- What comes of reading a span of a token in a new session and into an empty buffer. -/
def firstReading (host : Token) (span : Span) : Outcome := (ofToken host).append span ""

/-- **Every reading starts afresh.** The session forgets what it has kept before it reads, and the
buffer is only appended to. -/
theorem append_eq_firstReading (s : Session) (span : Span) (buffer : String) :
    s.append span buffer = ⟨(firstReading s.host span).session,
      buffer ++ (firstReading s.host span).buffer, (firstReading s.host span).result⟩ := by
  have hread := Reading.append_eq_append_empty s.host.kind (s.host.slice span) buffer
  have hresult := congrArg Attempt.result hread
  rw [firstReading]
  by_cases hfit : s.fits span
  · have hfit' : (ofToken s.host).fits span := hfit
    cases hfirst : (Reading.append s.host.kind (s.host.slice span) "").result with
    | ok positions =>
      rw [append_of_ok buffer hfit (hresult.trans hfirst), append_of_ok "" hfit' hfirst, hread]
      rfl
    | error bad =>
      rw [append_of_error buffer hfit (hresult.trans hfirst), append_of_error "" hfit' hfirst,
        hread]
      rfl
  · have hfit' : ¬(ofToken s.host).fits span := hfit
    rw [append_of_not_fits buffer hfit, append_of_not_fits "" hfit', String.append_empty]
    rfl

theorem read_eq_firstReading (s : Session) (span : Span) :
    s.read span = ((firstReading s.host span).session,
      (firstReading s.host span).result.map fun _ ↦ (firstReading s.host span).buffer) := by
  rw [read, append_eq_firstReading]
  simp

theorem firstReading_of_not_fits (h : ¬(span.start ≤ span.stop ∧ span.stop ≤ host.length)) :
    firstReading host span = ⟨ofToken host, "", .error (.outside span host.length)⟩ :=
  append_of_not_fits "" (fits_iff.not.mpr h)

section Fits

variable (hfit : span.start ≤ span.stop ∧ span.stop ≤ host.length)
include hfit

theorem firstReading_of_ok {r : Reading}
    (h : Reading.ofBody host.kind (host.slice span) = .ok r) : firstReading host span =
      ⟨⟨host, if host.isRaw then none else some r.positions⟩, r.text, .ok ()⟩ := by
  obtain ⟨r', hr', happend⟩ | ⟨bad, r', hbad, -⟩ :=
    Reading.append_cases host.kind (host.slice span)
  · obtain rfl : r' = r := Except.ok.inj (hr'.symm.trans h)
    have hread : firstReading host span =
        ⟨⟨host, if host.isRaw then none else some r'.positions⟩,
          (Reading.append host.kind (host.slice span) "").buffer, .ok ()⟩ :=
      append_of_ok "" (fits_iff.mpr hfit) (congrArg Attempt.result (happend ""))
    rw [hread, happend, String.empty_append]
  · exact absurd (hbad.symm.trans h) (by simp)

theorem firstReading_of_error {bad : BadEscape}
    (h : Reading.ofBody host.kind (host.slice span) = .error bad) : ∃ r,
      Reading.ofBody host.kind (String.ofList ((host.slice span).toList.take bad.offset)) = .ok r ∧
        firstReading host span = ⟨ofToken host, r.text, .error (.badEscape bad)⟩ := by
  obtain ⟨r, hr, -⟩ | ⟨bad', r, hbad', hr, happend⟩ :=
    Reading.append_cases host.kind (host.slice span)
  · exact absurd (hr.symm.trans h) (by simp)
  · obtain rfl : bad' = bad := Except.error.inj (hbad'.symm.trans h)
    have hread : firstReading host span =
        ⟨ofToken host, (Reading.append host.kind (host.slice span) "").buffer,
          .error (.badEscape bad')⟩ :=
      append_of_error "" (fits_iff.mpr hfit) (congrArg Attempt.result (happend ""))
    exact ⟨r, hr, by rw [hread, happend, String.empty_append]⟩

end Fits

theorem isSome_positions_firstReading :
    (firstReading host span).session.positions.isSome ↔
      host.kind = .interpreted ∧ (firstReading host span).result = .ok () := by
  by_cases hfit : span.start ≤ span.stop ∧ span.stop ≤ host.length
  · cases hread : Reading.ofBody host.kind (host.slice span) with
    | ok r =>
      rw [firstReading_of_ok hfit hread]
      cases hkind : host.kind <;> simp [Token.isRaw, hkind]
    | error bad =>
      obtain ⟨r, -, hfirst⟩ := firstReading_of_error hfit hread
      simp [hfirst, ofToken]
  · simp [firstReading_of_not_fits hfit, ofToken]

theorem ofBody_of_positions_firstReading {positions : PositionMap}
    (h : (firstReading host span).session.positions = some positions) :
    ∃ text, Reading.ofBody .interpreted (host.slice span) = .ok ⟨text, positions⟩ := by
  have hsome : (firstReading host span).session.positions.isSome := by
    rw [h]
    rfl
  obtain ⟨hkind, hok⟩ := isSome_positions_firstReading.mp hsome
  by_cases hfit : span.start ≤ span.stop ∧ span.stop ≤ host.length
  · cases hbody : Reading.ofBody host.kind (host.slice span) with
    | ok r =>
      rw [firstReading_of_ok hfit hbody, host.isRaw_of_interpreted hkind] at h
      obtain rfl : r.positions = positions := Option.some.inj h
      rw [hkind] at hbody
      exact ⟨r.text, hbody⟩
    | error bad =>
      obtain ⟨r, -, hfirst⟩ := firstReading_of_error hfit hbody
      rw [hfirst] at hok
      exact absurd hok (by simp)
  · rw [firstReading_of_not_fits hfit] at hok
    exact absurd hok (by simp)

/-- What a session does when it is asked to read a span and append its value, `added`, to a buffer,
or to answer with the value. -/
structure Appends (s : Session) (span : Span) (buffer added : String) : Prop where
  /-- The span is refused exactly when it is reversed or goes past the end of the token. -/
  outside_iff : (∃ span' length, (s.append span buffer).result = .error (.outside span' length)) ↔
    ¬(span.start ≤ span.stop ∧ span.stop ≤ s.host.length)
  /-- The buffer is only appended to. -/
  buffer_eq : (s.append span buffer).buffer = buffer ++ added
  /-- To answer with a value is to append it to nothing, and leaves the session the same. -/
  read_eq : s.read span =
    ((s.append span buffer).session, (s.append span buffer).result.map fun _ ↦ added)
  /-- What is appended is the text of the span. -/
  of_ok : (s.append span buffer).result = .ok () →
    ∃ positions, Reading.ofBody s.host.kind (s.host.slice span) = .ok ⟨added, positions⟩
  /-- Where the span holds a bad escape, what is appended is the text of what is before it. -/
  of_badEscape : ∀ bad, (s.append span buffer).result = .error (.badEscape bad) →
    Reading.ofBody s.host.kind (s.host.slice span) = .error bad ∧ ∃ positions,
      Reading.ofBody s.host.kind
        (String.ofList ((s.host.slice span).toList.take bad.offset)) = .ok ⟨added, positions⟩
  /-- Where the span is refused, nothing is. -/
  of_outside : ∀ span' length, (s.append span buffer).result = .error (.outside span' length) →
    span' = span ∧ length = s.host.length ∧ added = ""

theorem appends_firstReading (s : Session) (span : Span) (buffer : String) :
    s.Appends span buffer (firstReading s.host span).buffer := by
  have happend := append_eq_firstReading s span buffer
  have hread := read_eq_firstReading s span
  by_cases hfit : span.start ≤ span.stop ∧ span.stop ≤ s.host.length
  · cases hbody : Reading.ofBody s.host.kind (s.host.slice span) with
    | ok r =>
      obtain ⟨text, positions⟩ := r
      rw [firstReading_of_ok hfit hbody] at happend hread ⊢
      constructor <;> simp [happend, hread, hfit, hbody]
    | error bad =>
      obtain ⟨⟨text, positions⟩, hr, hfirst⟩ := firstReading_of_error hfit hbody
      rw [hfirst] at happend hread ⊢
      constructor <;> simp [happend, hread, hfit, hbody, hr]
  · rw [firstReading_of_not_fits hfit] at happend hread ⊢
    constructor <;> simp [happend, hread, hfit]

/-! ## Calls -/

/-- What a session is asked to do. -/
inductive Call where
  /-- Read a span and answer with its value. -/
  | read (span : Span)
  /-- Read a span and append its value to the buffer. -/
  | append (span : Span)
  /-- Say where a boundary of the value of a span lies in the token. -/
  | locate (decoded : ℕ) (span : Span)

/-- The span that a call reads. -/
def Call.span? : Call → Option Span
  | read span => some span
  | append span => some span
  | locate _ _ => none

/-- The answer to a call. -/
inductive Answer where
  | value (result : Except Failure String)
  | appended (result : Except Failure Unit)
  | place (place? : Option ℕ)

/-- How the reading went that an answer is about. -/
def Answer.result? : Answer → Option (Except Failure Unit)
  | value result => some (result.map fun _ ↦ ())
  | appended result => some result
  | place _ => none

/-- A session that has answered some calls. -/
structure History where
  /-- The session afterwards. -/
  session : Session
  /-- The buffer that all callers append to. -/
  buffer : String
  /-- The answers, in the order of the calls. -/
  answers : List Answer

namespace History

/-- A session on a token before the first call. -/
def start (host : Token) (buffer : String) : History := ⟨ofToken host, buffer, []⟩

/-- Answers a call. -/
def call (h : History) : Call → History
  | .read span =>
    let (session, result) := h.session.read span
    ⟨session, h.buffer, h.answers ++ [.value result]⟩
  | .append span =>
    let outcome := h.session.append span h.buffer
    ⟨outcome.session, outcome.buffer, h.answers ++ [.appended outcome.result]⟩
  | .locate decoded span =>
    { h with answers := h.answers ++ [.place (h.session.toHost? decoded span)] }

/-- Answers calls one after the other. -/
def run (h : History) (calls : List Call) : History := calls.foldl call h

theorem run_append_singleton (h : History) (calls : List Call) (c : Call) :
    h.run (calls ++ [c]) = (h.run calls).call c := by
  rw [run, List.foldl_append, List.foldl_cons, List.foldl_nil, run]

/-- The span of the last call that reads one. -/
def lastSpan? (calls : List Call) : Option Span := (calls.filterMap Call.span?).getLast?

/-- How the last reading went. -/
def lastResult? (h : History) : Option (Except Failure Unit) :=
  (h.answers.filterMap Answer.result?).getLast?

theorem lastSpan?_append_singleton (calls : List Call) (c : Call) :
    lastSpan? (calls ++ [c]) = c.span?.or (lastSpan? calls) := by
  rw [lastSpan?, List.filterMap_append, List.getLast?_append]
  cases hspan : c.span? <;> simp [hspan, lastSpan?]

theorem lastResult?_of_answers {h h' : History} {a : Answer}
    (ha : h'.answers = h.answers ++ [a]) : h'.lastResult? = a.result?.or h.lastResult? := by
  rw [lastResult?, ha, List.filterMap_append, List.getLast?_append]
  cases hresult : a.result? <;> simp [hresult, lastResult?]

theorem call_of_span?_eq_some {c : Call} (hspan : c.span? = some span) (h : History) :
    (h.call c).session = (firstReading h.session.host span).session ∧
      (h.call c).lastResult? = some (firstReading h.session.host span).result := by
  cases c with
  | read span' =>
    obtain rfl : span' = span := Option.some.inj hspan
    have hread := read_eq_firstReading h.session span'
    constructor
    · rw [call, hread]
    · rw [lastResult?_of_answers (h := h) (a := .value (h.session.read span').2) rfl, hread]
      cases hresult : (firstReading h.session.host span').result <;>
        simp [Answer.result?, Except.map]
  | append span' =>
    obtain rfl : span' = span := Option.some.inj hspan
    have happend := append_eq_firstReading h.session span' h.buffer
    constructor
    · rw [call, happend]
    · rw [lastResult?_of_answers (h := h)
        (a := .appended (h.session.append span' h.buffer).result) rfl, happend]
      rfl
  | locate decoded span' => exact absurd hspan (by simp [Call.span?])

theorem call_of_span?_eq_none {c : Call} (hspan : c.span? = none) (h : History) :
    (h.call c).session = h.session ∧ (h.call c).lastResult? = h.lastResult? := by
  cases c with
  | read span' | append span' => exact absurd hspan (by simp [Call.span?])
  | locate decoded span' => exact ⟨rfl, lastResult?_of_answers (h := h) (a := .place _) rfl⟩

/-! ## The last reading is all that is kept -/

/-- A history that goes by the last of some calls that read a span, and by nothing else. -/
structure FollowsLast (host : Token) (calls : List Call) (h : History) : Prop where
  host_eq : h.session.host = host
  positions_eq : h.session.positions =
    (lastSpan? calls).bind fun span ↦ (firstReading host span).session.positions
  lastResult?_eq : h.lastResult? = (lastSpan? calls).map fun span ↦ (firstReading host span).result

theorem followsLast_start (host : Token) (buffer : String) :
    FollowsLast host [] (start host buffer) := ⟨rfl, rfl, rfl⟩

/-- A call that reads a span makes it the last one; any other call changes nothing. -/
theorem FollowsLast.call {calls : List Call} {h : History} (hlast : FollowsLast host calls h)
    (c : Call) : FollowsLast host (calls ++ [c]) (h.call c) := by
  obtain ⟨rfl, hpositions, hresult⟩ := hlast
  cases hspan : c.span? with
  | none =>
    obtain ⟨hsession, hlastResult⟩ := call_of_span?_eq_none hspan h
    constructor
    · rw [hsession]
    · rw [hsession, hpositions, lastSpan?_append_singleton, hspan, Option.none_or]
    · rw [hlastResult, hresult, lastSpan?_append_singleton, hspan, Option.none_or]
  | some span =>
    obtain ⟨hsession, hlastResult⟩ := call_of_span?_eq_some hspan h
    constructor
    · rw [hsession]
      exact host_append _ span ""
    · rw [hsession, lastSpan?_append_singleton, hspan, Option.some_or, Option.bind_some]
    · rw [hlastResult, lastSpan?_append_singleton, hspan, Option.some_or, Option.map_some]

theorem followsLast_run (host : Token) (buffer : String) (calls : List Call) :
    FollowsLast host calls ((start host buffer).run calls) := by
  -- From the first call on, so that what is kept is always that of the calls so far.
  induction calls using List.reverseRecOn with
  | nil => exact followsLast_start host buffer
  | append_singleton calls c ih =>
    rw [run_append_singleton]
    exact ih.call c

/-- A session that keeps nothing but the map of its last reading. -/
structure KeepsLastMap (host : Token) (calls : List Call) (h : History) : Prop where
  /-- There is a map when the token is interpreted and the last reading went well. -/
  isSome_iff : h.session.positions.isSome ↔
    host.kind = .interpreted ∧ h.lastResult? = some (.ok ())
  /-- It is the map of the span that was read last. -/
  eq_some : ∀ positions, h.session.positions = some positions → ∃ span text,
    lastSpan? calls = some span ∧
      Reading.ofBody .interpreted (host.slice span) = .ok ⟨text, positions⟩
  /-- A session that has read the same span last answers in the same way, whatever else it was
  asked and whatever its buffer held. -/
  toHost?_eq : ∀ buffer' calls', lastSpan? calls' = lastSpan? calls → ∀ decoded span,
    ((start host buffer').run calls').session.toHost? decoded span =
      h.session.toHost? decoded span

theorem FollowsLast.keepsLastMap {calls : List Call} {h : History}
    (hlast : FollowsLast host calls h) : KeepsLastMap host calls h := by
  obtain ⟨hhost, hpositions, hresult⟩ := hlast
  constructor
  · rw [hpositions, hresult]
    cases lastSpan? calls with
    | none => simp
    | some span =>
      rw [Option.bind_some, Option.map_some, Option.some_inj]
      exact isSome_positions_firstReading
  · intro positions hkept
    rw [hpositions] at hkept
    obtain ⟨span, hspan, hfirst⟩ := Option.bind_eq_some_iff.mp hkept
    obtain ⟨text, hbody⟩ := ofBody_of_positions_firstReading hfirst
    exact ⟨span, text, hspan, hbody⟩
  · intro buffer' calls' hspan decoded span
    obtain ⟨hhost', hpositions', -⟩ := followsLast_run host buffer' calls'
    rw [toHost?, toHost?, hhost', hhost, hpositions', hpositions, hspan]

/-- **A session over any run of calls.** What it keeps is the map of its last reading, if that went
well and the token is interpreted, and nothing else. Asked to read a span, it refuses exactly the
spans that do not fit the token. A buffer is only appended to: the text of the span; where it holds
a bad escape, the text of what is before it; nothing where it is refused. And to answer with the
text is to append it to nothing. -/
theorem keepsLastMap_run (host : Token) (buffer : String) (calls : List Call) :
    let h := (start host buffer).run calls
    h.session.host = host ∧ KeepsLastMap host calls h ∧
      ∀ span, ∃ added, h.session.Appends span h.buffer added := by
  have hlast := followsLast_run host buffer calls
  exact ⟨hlast.host_eq, hlast.keepsLastMap, fun span ↦ ⟨_, appends_firstReading _ span _⟩⟩

/-- A reading that fails takes away the map of the one before it. -/
example : ((start ⟨"\"ok\\q\"", .interpreted, by decide⟩ "").run
    [.read ⟨1, 3⟩, .append ⟨1, 5⟩]).session.positions = none := by decide +kernel

end History

end GoLiteral.Session
