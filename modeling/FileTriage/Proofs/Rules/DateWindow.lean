/-
The date window in exact time.

The window starts at the instant that is exactly so many days before now, where the calendar has that
instant (`daysBefore?_eq_some_iff`).  Where it has not, every instant of the calendar is later, and
every file that has a time passes, as it does when exact times are compared.  So the end of the
calendar makes no difference, and wider windows and earlier times only let more files pass.
-/
import FileTriage.Rules.Condition

namespace FileTriage

namespace Instant

variable {s t : Instant} {days : Nat}

/-! ## Instants -/

/-- The nanoseconds from the start of 1970 to an instant. -/
def nanoseconds (t : Instant) : Int := t.seconds * 1000000000 + t.nanos

/-- An instant that the calendar has, and that is not in a leap second. -/
structure Ordinary (t : Instant) : Prop where
  earliest : earliestSecond ≤ t.seconds
  latest : t.seconds ≤ latestSecond
  nanos_lt : t.nanos < 1000000000

theorem notAfter_iff (hs : s.Ordinary) (ht : t.Ordinary) :
    s.notAfter t = true ↔ s.nanoseconds ≤ t.nanoseconds := by
  have hslt := hs.nanos_lt
  have htlt := ht.nanos_lt
  rw [notAfter, Bool.or_eq_true, Bool.and_eq_true, decide_eq_true_eq, decide_eq_true_eq,
    decide_eq_true_eq, nanoseconds, nanoseconds]
  omega

theorem daysBefore?_eq (ht : t.Ordinary) (days : Nat) :
    t.daysBefore? days =
      if t.seconds - days * 86400 < earliestSecond then none
      else some ⟨t.seconds - days * 86400, t.nanos⟩ := by
  have hearliest := ht.earliest
  have hnanos : ¬ 1000000000 ≤ t.nanos := Nat.not_le.2 ht.nanos_lt
  by_cases hzero : days = 0
  · have hsame : t.seconds - (days : Int) * 86400 = t.seconds := by
      rw [hzero]
      omega
    rw [daysBefore?, if_pos hzero, hsame, if_neg (Int.not_lt.2 hearliest)]
  · simp only [daysBefore?, if_neg hzero, if_neg hnanos]
    rfl

/-- The instant so many days earlier is that which lies exactly so much earlier, where the calendar
has one. -/
theorem daysBefore?_eq_some_iff (ht : t.Ordinary) :
    t.daysBefore? days = some s ↔
      s.Ordinary ∧ s.nanoseconds = t.nanoseconds - days * 86400 * 1000000000 := by
  have hlatest := ht.latest
  have htlt := ht.nanos_lt
  rw [daysBefore?_eq ht]
  constructor
  · intro h
    split at h
    · cases h
    · next hreached =>
      cases h
      refine ⟨⟨Int.not_lt.1 hreached, ?_, htlt⟩, ?_⟩
      · show t.seconds - (days : Int) * 86400 ≤ latestSecond
        omega
      · simp only [nanoseconds]
        omega
  · rintro ⟨hs, heq⟩
    have hearliest := hs.earliest
    have hslt := hs.nanos_lt
    rw [nanoseconds, nanoseconds] at heq
    have hseconds : t.seconds - (days : Int) * 86400 = s.seconds := by omega
    have hnanos : t.nanos = s.nanos := by omega
    rw [hseconds, hnanos, if_neg (Int.not_lt.2 hearliest)]

/-- Where the calendar does not reach so far back, all of it is later. -/
theorem lt_nanoseconds_of_daysBefore?_eq_none (ht : t.Ordinary) (h : t.daysBefore? days = none)
    (hs : s.Ordinary) : t.nanoseconds - days * 86400 * 1000000000 < s.nanoseconds := by
  have hearliest := hs.earliest
  have htlt := ht.nanos_lt
  rw [daysBefore?_eq ht, ite_eq_left_iff] at h
  have hbefore : t.seconds - (days : Int) * 86400 < earliestSecond :=
    Classical.byContradiction fun hnot => by cases h hnot
  rw [nanoseconds, nanoseconds]
  omega

end Instant

/-! ## Windows -/

/-- The seconds of a window of days, multiplied as signed numbers of 64 bits, which wrap around. -/
def windowSeconds (daysIncluded : UInt32) : Int64 :=
  Int64.ofNat daysIncluded.toNat * Int64.ofNat secondsPerDay

/-- No number of days makes the multiplication wrap around. -/
theorem toInt_windowSeconds (days : UInt32) :
    (windowSeconds days).toInt = days.toNat * 86400 := by
  have hdays := days.toNat_lt
  have hleft : (Int64.ofNat days.toNat).toInt = days.toNat := Int64.toInt_ofNat_of_lt (by omega)
  have hright : (Int64.ofNat secondsPerDay).toInt = 86400 := by decide
  calc (windowSeconds days).toInt
      = (days.toNat * 86400 : Int).bmod (2 ^ 64) := by
        rw [windowSeconds, Int64.toInt_mul, hleft, hright]
    _ = days.toNat * 86400 := Int.bmod_eq_of_le (by omega) (by omega)

variable {f : FileRecord} {now earlier : Instant} {days more : UInt32}

/-- A file was modified within the window exactly if, in exact time, it was modified at most so many
days ago. -/
theorem modifiedWithin_iff (hnow : now.Ordinary) (hfile : ∀ m, f.modified = some m → m.Ordinary) :
    modifiedWithin days f now = true ↔
      ∃ m, f.modified = some m ∧
        now.nanoseconds ≤ m.nanoseconds + days.toNat * 86400 * 1000000000 := by
  rw [modifiedWithin]
  cases hmodified : f.modified with
  | none => simp
  | some m =>
    have hm := hfile m hmodified
    simp only [Option.some.injEq, exists_eq_left']
    cases hstart : now.daysBefore? days.toNat with
    | none =>
      have hlater := Instant.lt_nanoseconds_of_daysBefore?_eq_none hnow hstart hm
      simp only [true_iff]
      omega
    | some start =>
      obtain ⟨hordinary, hexact⟩ := (Instant.daysBefore?_eq_some_iff hnow).1 hstart
      simp only
      rw [Instant.notAfter_iff hordinary hm, hexact]
      omega

/-- A wider window at an earlier time lets every file pass that passed. -/
theorem modifiedWithin_mono (hnow : now.Ordinary) (hearlier : earlier.Ordinary)
    (hfile : ∀ m, f.modified = some m → m.Ordinary) (hmore : days ≤ more)
    (hle : earlier.nanoseconds ≤ now.nanoseconds) (h : modifiedWithin days f now = true) :
    modifiedWithin more f earlier = true := by
  obtain ⟨m, hm, hwithin⟩ := (modifiedWithin_iff hnow hfile).1 h
  have hdays : days.toNat ≤ more.toNat := UInt32.le_iff_toNat_le.1 hmore
  exact (modifiedWithin_iff hearlier hfile).2 ⟨m, hm, by omega⟩

/-- At ordinary times, a file meets a date condition exactly if it has a time, and this is at most so
many days of 86400 seconds before now in exact time, in particular if it has a time and the calendar
does not reach so far back.  The seconds of the window never leave signed numbers of 64 bits, even
when they are counted in thousandths, and the window starts exactly so many seconds before now, if
the calendar has an instant there.  A file that passes goes on passing with more days and at earlier
times. -/
theorem Condition.date_window_is_exact (days : UInt32) (now : Instant) (f : FileRecord)
    (hnow : now.Ordinary) (hfile : ∀ m, f.modified = some m → m.Ordinary) :
    ((Condition.date days).passesAt f now = true ↔
      ∃ m, f.modified = some m ∧
        now.nanoseconds ≤ m.nanoseconds + days.toNat * 86400 * 1000000000) ∧
    (now.seconds - days.toNat * 86400 < Instant.earliestSecond →
      (Condition.date days).passesAt f now = f.modified.isSome) ∧
    ((windowSeconds days).toInt = days.toNat * 86400 ∧
      (windowSeconds days).toInt * 1000 ≤ Int64.maxValue.toInt ∧
      ∀ start, now.daysBefore? days.toNat = some start ↔ start.Ordinary ∧
        start.nanoseconds = now.nanoseconds - (windowSeconds days).toInt * 1000000000) ∧
    ∀ more earlier, days ≤ more → earlier.Ordinary → earlier.nanoseconds ≤ now.nanoseconds →
      (Condition.date days).passesAt f now = true →
      (Condition.date more).passesAt f earlier = true := by
  refine ⟨modifiedWithin_iff hnow hfile, ?_, ⟨toInt_windowSeconds days, ?_, fun start => ?_⟩, ?_⟩
  · intro hbefore
    show modifiedWithin days f now = _
    rw [modifiedWithin, Instant.daysBefore?_eq hnow, if_pos hbefore]
    cases f.modified with
    | none => rfl
    | some m => rfl
  · have hdays := days.toNat_lt
    have hmax : Int64.maxValue.toInt = 9223372036854775807 := by decide
    rw [toInt_windowSeconds, hmax]
    omega
  · rw [toInt_windowSeconds]
    exact Instant.daysBefore?_eq_some_iff hnow
  · intro more earlier hmore hearlier hle hpasses
    exact modifiedWithin_mono hnow hearlier hfile hmore hle hpasses

/-- A file with a time. -/
def fileModifiedAt (t : Instant) : FileRecord :=
  { id := 1, name := "a", extension := "", parentPath := "/", modified := some t }

/-- A file of the first instant of 1970 meets a week's condition exactly seven days later, and not a
nanosecond after that.  It meets the widest condition at the first instant of the calendar. -/
theorem Condition.epoch_is_within_week :
    (Condition.date 7).passesAt (fileModifiedAt .epoch) ⟨604800, 0⟩ = true ∧
      (Condition.date 7).passesAt (fileModifiedAt .epoch) ⟨604800, 1⟩ = false ∧
      (Condition.date 4294967295).passesAt (fileModifiedAt .epoch)
        ⟨Instant.earliestSecond, 0⟩ = true := by
  have hfile : ∀ m, (fileModifiedAt .epoch).modified = some m → m.Ordinary := by
    rintro m ⟨⟩
    exact ⟨by decide, by decide, by decide⟩
  have hweek : Instant.Ordinary ⟨604800, 0⟩ := ⟨by decide, by decide, by decide⟩
  have hafter : Instant.Ordinary ⟨604800, 1⟩ := ⟨by decide, by decide, by decide⟩
  have hfirst : Instant.Ordinary ⟨Instant.earliestSecond, 0⟩ := ⟨by decide, by decide, by decide⟩
  obtain ⟨hexact, -, -, hmono⟩ :=
    date_window_is_exact 7 ⟨604800, 0⟩ (fileModifiedAt .epoch) hweek hfile
  have hpasses : (Condition.date 7).passesAt (fileModifiedAt .epoch) ⟨604800, 0⟩ = true :=
    hexact.2 ⟨.epoch, rfl, by decide⟩
  refine ⟨hpasses, ?_, hmono 4294967295 _ (by decide) hfirst (by decide) hpasses⟩
  have hlate := (date_window_is_exact 7 ⟨604800, 1⟩ (fileModifiedAt .epoch) hafter hfile).1
  rw [← Bool.not_eq_true, hlate]
  rintro ⟨m, ⟨⟩, hle⟩
  exact absurd hle (by decide)

end FileTriage
