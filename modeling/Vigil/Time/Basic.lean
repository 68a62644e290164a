/-!
# Points in time and lengths of time

A `Time` is a second counted from the start of 1970 in universal time and the
nanoseconds past it. Values of a thousand million nanoseconds and more stand
for the inside of a leap second, which is counted with the second before it.
Times reach over the years -262143 to 262142, so every sum of a time and a
length of time is partial: `Time.add?`.

Lengths come in two kinds. A `Span` is signed and bounded in milliseconds; it
is what times are moved by. A `Duration` is unsigned and bounded in seconds; it
is what timers wait for.
-/

namespace Vigil

/-- The nanoseconds of a second. -/
abbrev nanosPerSecond : Nat := 1000000000

/-- A signed length of time, in nanoseconds. -/
structure Span where
  nanos : Int
deriving Repr, DecidableEq

namespace Span

/-- The longest span, in milliseconds. -/
def limit : Int := 9223372036854775807

/-- A span of this many nanoseconds, if it is within the limit. -/
def ofNanos? (n : Int) : Option Span :=
  if -(limit * 1000000) ≤ n ∧ n ≤ limit * 1000000 then some ⟨n⟩ else none

def ofSeconds? (s : Int) : Option Span := ofNanos? (s * nanosPerSecond)

def ofDays? (d : Int) : Option Span := ofSeconds? (d * 86400)

def zero : Span := ⟨0⟩

def millis (s : Span) : Int := s.nanos.tdiv 1000000

instance : Neg Span := ⟨fun s => ⟨-s.nanos⟩⟩

end Span

/-- An unsigned length of time, in nanoseconds. -/
structure Duration where
  nanos : Nat
deriving Repr, DecidableEq

namespace Duration

/-- Durations are shorter than this many seconds. -/
def secondsLimit : Nat := UInt64.size

/-- Timers wait for fewer seconds than this. -/
def timerLimit : Nat := UInt64.size / 2

def ofSeconds (s : Nat) : Duration := ⟨s * nanosPerSecond⟩

def ofMillis (m : Nat) : Duration := ⟨m * 1000000⟩

def zero : Duration := ⟨0⟩

def inRange (d : Duration) : Bool := d.nanos < secondsLimit * nanosPerSecond

def times? (d : Duration) (n : Nat) : Option Duration :=
  let r : Duration := ⟨d.nanos * n⟩
  if r.inRange then some r else none

def plus? (d e : Duration) : Option Duration :=
  let r : Duration := ⟨d.nanos + e.nanos⟩
  if r.inRange then some r else none

/-- The whole seconds of a duration. -/
def seconds (d : Duration) : Nat := d.nanos / nanosPerSecond

/-- The duration as a span, if it is within the limit of spans. -/
def toSpan? (d : Duration) : Option Span := Span.ofNanos? d.nanos

end Duration

/-- A point in time. -/
structure Time where
  second : Int
  nanos : Nat
  first_le : -8334601228800 ≤ second := by omega
  le_last : second ≤ 8210266876799 := by omega
  nanos_lt : nanos < 2 * nanosPerSecond := by decide
deriving Repr, DecidableEq

namespace Time

/-- The time with these parts, if they are in range. -/
def ofParts? (second : Int) (nanos : Nat) : Option Time :=
  if h : -8334601228800 ≤ second ∧ second ≤ 8210266876799 ∧ nanos < 2 * nanosPerSecond then
    some ⟨second, nanos, h.1, h.2.1, h.2.2⟩
  else none

@[simp] theorem ofParts?_parts (t : Time) : ofParts? t.second t.nanos = some t := by
  have h := And.intro t.first_le (And.intro t.le_last t.nanos_lt)
  rw [ofParts?, dif_pos h]

/-- The start of 1970. -/
def epoch : Time := ⟨0, 0, by decide, by decide, by decide⟩

instance : Inhabited Time := ⟨epoch⟩

/-- Whether one time is before another; a leap second is between its neighbours. -/
def before (a b : Time) : Bool :=
  a.second < b.second || (a.second == b.second && a.nanos < b.nanos)

instance : LT Time := ⟨fun a b => a.before b = true⟩

instance : LE Time := ⟨fun a b => b.before a = false⟩

instance (a b : Time) : Decidable (a < b) := inferInstanceAs (Decidable (_ = true))

instance (a b : Time) : Decidable (a ≤ b) := inferInstanceAs (Decidable (_ = false))

theorem lt_def {a b : Time} :
    a < b ↔ a.second < b.second ∨ (a.second = b.second ∧ a.nanos < b.nanos) := by
  show before a b = true ↔ _
  simp [before]

theorem le_def {a b : Time} :
    a ≤ b ↔ a.second < b.second ∨ (a.second = b.second ∧ a.nanos ≤ b.nanos) := by
  show before b a = false ↔ _
  simp only [before, Bool.or_eq_false_iff, Bool.and_eq_false_iff, decide_eq_false_iff_not,
    beq_eq_false_iff_ne]
  omega

/-- The later of two times. -/
def max (a b : Time) : Time := if a < b then b else a

/-- Whole milliseconds since the start of 1970, rounded down. -/
def millis (t : Time) : Int := t.second * 1000 + t.nanos / 1000000

/-- The time that is this many milliseconds after the start of 1970. -/
def ofMillis? (m : Int) : Option Time :=
  ofParts? (m.fdiv 1000) ((m.fmod 1000).toNat * 1000000)

/-- The time that is this many nanoseconds after the start of 1970. -/
def ofNanos? (n : Int) : Option Time :=
  ofParts? (n.fdiv nanosPerSecond) (n.fmod nanosPerSecond).toNat

/-- A time moved by a span. Outside of leap seconds this is the sum of the
nanoseconds. A time inside a leap second that is moved out of it counts as the
second before when it moves forward, and as the second after when it moves back
by a second or more. -/
def add? (t : Time) (s : Span) : Option Time :=
  if t.nanos < nanosPerSecond then
    ofNanos? (t.second * nanosPerSecond + t.nanos + s.nanos)
  else
    let whole := s.nanos.tdiv nanosPerSecond
    let part := s.nanos.tmod nanosPerSecond
    if whole > 0 ∨ (part > 0 ∧ t.nanos + part ≥ 2 * nanosPerSecond) then
      ofNanos? (t.second * nanosPerSecond + (t.nanos - nanosPerSecond) + s.nanos)
    else if whole < 0 then
      ofNanos? ((t.second + 1) * nanosPerSecond + (t.nanos - nanosPerSecond) + s.nanos)
    else ofParts? t.second (t.nanos + part).toNat

theorem lt_of_ofNanos? {n : Int} {t u : Time} (h : ofNanos? n = some u)
    (hn : n < t.second * nanosPerSecond + t.nanos)
    (hsecond : n < (t.second + 1) * nanosPerSecond) : u < t := by
  unfold ofNanos? ofParts? at h
  split at h
  · cases h
    rw [lt_def]
    simp only [Int.fdiv_eq_ediv_of_nonneg _ (by decide : (0 : Int) ≤ (nanosPerSecond : Nat)),
      Int.fmod_eq_emod_of_nonneg _ (by decide : (0 : Int) ≤ (nanosPerSecond : Nat))]
    simp only [nanosPerSecond] at *
    omega
  · cases h

/-- A second back is before. -/
theorem lt_of_secondBefore? {t u : Time} (h : t.add? ⟨-1000000000⟩ = some u) : u < t := by
  unfold add? at h
  have hwhole : (-1000000000 : Int).tdiv nanosPerSecond = -1 := by decide
  have hpart : (-1000000000 : Int).tmod nanosPerSecond = 0 := by decide
  have hnanos := t.nanos_lt
  simp only [nanosPerSecond] at hnanos
  split at h
  · refine lt_of_ofNanos? h ?_ ?_ <;> (simp only [nanosPerSecond] at *; omega)
  · simp only [hwhole, hpart] at h
    refine lt_of_ofNanos? (by simpa using h) ?_ ?_ <;> (simp only [nanosPerSecond] at *; omega)

end Time

end Vigil
