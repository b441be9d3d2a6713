set_option autoImplicit false

/-!
# Time: instants and spans

An instant is a count of seconds since 1970-01-01T00:00:00Z and a count of
nanoseconds.  A leap second is written as the second before it with a
nanosecond count of a billion or more; such an instant comes after the second
it extends and before the next.
-/

namespace Questline.Time

/-- An instant. -/
structure Instant where
  seconds : Int
  nanos : Nat
  deriving DecidableEq, Repr, Inhabited

/-- A span of time in nanoseconds. -/
abbrev Span := Int

namespace Span

/-- A span of milliseconds. -/
def ofMillis (n : Int) : Span := n * 1000000

/-- A span of seconds. -/
def ofSeconds (n : Int) : Span := n * 1000000000

/-- A span of hours. -/
def ofHours (n : Int) : Span := ofSeconds (n * 3600)

/-- Whole milliseconds, rounded toward zero. -/
def millis (s : Span) : Int := Int.tdiv s 1000000

/-- Whole days, rounded toward zero. -/
def days (s : Span) : Int := Int.tdiv s 86400000000000

end Span

namespace Instant

/-- The instant so many milliseconds after 1970. -/
def ofMillis (n : Int) : Instant := ⟨n / 1000, (n % 1000).toNat * 1000000⟩

/-- The instant so many nanoseconds after 1970. -/
def ofNanos (n : Int) : Instant := ⟨n / 1000000000, (n % 1000000000).toNat⟩

/-- `a` is before `b`. -/
def before (a b : Instant) : Bool :=
  a.seconds < b.seconds || (a.seconds == b.seconds && a.nanos < b.nanos)

/-- The second of the day. -/
def secondOfDay (t : Instant) : Int := t.seconds % 86400

/-- The span from `b` to `a`.  A leap second that lies between them, by the
clock on the wall, counts. -/
def since (a b : Instant) : Span :=
  let x := a.secondOfDay
  let y := b.secondOfDay
  let leap : Int :=
    if y < x then (if b.nanos ≥ 1000000000 then 1 else 0)
    else if x < y then (if a.nanos ≥ 1000000000 then -1 else 0)
    else 0
  Span.ofSeconds (a.seconds - b.seconds + leap) + (Int.ofNat a.nanos - Int.ofNat b.nanos)

/-- The instant a span later. -/
def plus (t : Instant) (s : Span) : Instant :=
  let n := t.seconds * 1000000000 + Int.ofNat t.nanos + s
  ⟨n / 1000000000, (n % 1000000000).toNat⟩

theorem before_irrefl (a : Instant) : a.before a = false := by
  simp [before]

theorem before_trans {a b c : Instant} (h : a.before b = true) (h' : b.before c = true) :
    a.before c = true := by
  simp only [before, Bool.or_eq_true, Bool.and_eq_true, decide_eq_true_eq, beq_iff_eq] at *
  omega

theorem not_before_trans {a b c : Instant} (h : b.before a = false) (h' : c.before b = false) :
    c.before a = false := by
  simp only [before, Bool.or_eq_false_iff, Bool.and_eq_false_iff, decide_eq_false_iff_not,
    beq_eq_false_iff_ne] at *
  omega

theorem before_or_before_of_ne {a b : Instant} (h : a ≠ b) :
    a.before b = true ∨ b.before a = true := by
  obtain ⟨x, m⟩ := a
  obtain ⟨y, n⟩ := b
  simp only [ne_eq, Instant.mk.injEq, not_and, before, Bool.or_eq_true, Bool.and_eq_true,
    decide_eq_true_eq, beq_iff_eq] at *
  omega

end Instant

end Questline.Time
