import Alerting.Proofs.Flush.Schedule
import Mathlib.Order.Bounds.Basic

/-!
# The first delay

A frequency is accepted by its whole milliseconds, of which a span can have more than a 64-bit
word holds, but the first delay is computed with the word that is left of them. As long as
nothing is cut off, the delay leads to the next multiple of the frequency. Of a longer frequency
the word says nothing about where its multiples are, and of a multiple of the word's range it is
zero, by which the delay cannot be computed.
-/

namespace Alerting

namespace FlushFrequency

/-- The multiples of a frequency that come after a time, all in whole milliseconds. -/
def boundariesAfter (frequency : FlushFrequency) (now : Nat) : Set Nat :=
  {time | now < time ∧ frequency.milliseconds ∣ time}

variable {frequency : FlushFrequency} {now delay : UInt64}

/-- A span is accepted as the frequency of that span. -/
theorem ofDuration_eq_ok {duration : Duration} :
    ofDuration duration = .ok frequency ↔ frequency.duration = duration := by
  obtain ⟨known, positive⟩ := frequency
  rw [ofDuration]
  split
  case isTrue zero =>
    have different : known ≠ duration := by
      rintro rfl
      exact Nat.ne_of_gt positive zero
    simp [different]
  case isFalse => simp [eq_comm]

theorem toNat_millisecondWord (frequency : FlushFrequency) :
    frequency.millisecondWord.toNat = frequency.milliseconds % UInt64.size := by
  rw [millisecondWord, UInt64.toNat_ofNat']

/-- No delay can be computed exactly if nothing is left of the frequency in its word. -/
theorem firstDelay?_eq_none :
    frequency.firstDelay? now = none ↔ UInt64.size ∣ frequency.milliseconds := by
  have zero : frequency.millisecondWord = 0 ↔ frequency.milliseconds % UInt64.size = 0 := by
    rw [← UInt64.toNat_inj, toNat_millisecondWord, UInt64.toNat_zero]
  rw [firstDelay?, Alerting.firstDelay?, Nat.dvd_iff_mod_eq_zero, ← zero]
  simp

/-- A schedule starts whenever its first delay can be computed. -/
theorem isSome_startAt?_iff (time : Nat) :
    (FlushSchedule.startAt? frequency time).isSome = true ↔
      ¬ UInt64.size ∣ frequency.milliseconds := by
  rw [FlushSchedule.startAt?, Option.isSome_map, Option.isSome_iff_ne_none]
  exact not_congr firstDelay?_eq_none

/-- A multiple of the frequency at most a period ahead is the next one. -/
theorem isLeast_boundariesAfter {now delay : Nat} (ahead : 0 < delay)
    (near : delay ≤ frequency.milliseconds)
    (multiple : frequency.milliseconds ∣ now + delay) :
    IsLeast (frequency.boundariesAfter now) (now + delay) := by
  refine ⟨⟨Nat.lt_add_of_pos_right ahead, multiple⟩, ?_⟩
  rintro time ⟨later, others⟩
  -- Were there one in between, it would be less than a period before this one.
  by_contra between
  have apart : frequency.milliseconds ∣ now + delay - time := Nat.dvd_sub multiple others
  have far : frequency.milliseconds ≤ now + delay - time := Nat.le_of_dvd (by omega) apart
  omega

/-- A frequency that fits a word has a first delay, which leads to the next multiple. -/
theorem exists_firstDelay? (fits : frequency.milliseconds < UInt64.size) (now : UInt64) :
    ∃ delay, frequency.firstDelay? now = some delay ∧ 0 < delay.toNat ∧
      delay.toNat ≤ frequency.milliseconds ∧
      IsLeast (frequency.boundariesAfter now.toNat) (now.toNat + delay.toNat) := by
  have word : frequency.millisecondWord.toNat = frequency.milliseconds := by
    rw [toNat_millisecondWord, Nat.mod_eq_of_lt fits]
  have computed : frequency.firstDelay? now ≠ none := by
    intro none
    have positive : 0 < frequency.milliseconds := frequency.milliseconds_pos
    exact Nat.not_le.2 fits (Nat.le_of_dvd positive (firstDelay?_eq_none.1 none))
  obtain ⟨delay, waits⟩ := Option.ne_none_iff_exists'.1 computed
  obtain ⟨ahead, near, multiple⟩ := firstDelay?_eq_some waits
  rw [word] at near multiple
  exact ⟨delay, waits, ahead, near,
    isLeast_boundariesAfter ahead near (Nat.dvd_of_mod_eq_zero multiple)⟩

/-- A frequency that does not fit a word has its first multiple beyond every delay. -/
theorem not_isLeast_of_size_le (long : UInt64.size ≤ frequency.milliseconds)
    (waits : frequency.firstDelay? now = some delay) :
    ¬ IsLeast (frequency.boundariesAfter now.toNat) (now.toNat + delay.toNat) := by
  rintro ⟨⟨later, multiple⟩, -⟩
  obtain ⟨ahead, near, -⟩ := firstDelay?_eq_some waits
  rw [toNat_millisecondWord] at near
  have shown : now.toNat < UInt64.size := now.toNat_lt
  have cutOff : frequency.milliseconds % UInt64.size + UInt64.size ≤ frequency.milliseconds := by
    rw [Nat.mod_eq_sub_mod long]
    have rest := Nat.mod_le (frequency.milliseconds - UInt64.size) UInt64.size
    omega
  have reached : frequency.milliseconds ≤ now.toNat + delay.toNat :=
    Nat.le_of_dvd (by omega) multiple
  omega

/--
An accepted span and a time that the clock can show, in milliseconds. If the milliseconds of the
span fit a word, the first delay can be computed; it is positive and no longer than the span, and
it leads to the first multiple of the frequency after that time. If they do not fit, no delay
that is computed leads there, and if they are a multiple of the range of words, none is computed
and no schedule starts.
-/
theorem first_delay_leads_to_next_boundary {duration : Duration}
    (accepted : ofDuration duration = .ok frequency) (now : UInt64) :
    (duration.milliseconds < UInt64.size →
      ∃ delay, frequency.firstDelay? now = some delay ∧ 0 < delay.toNat ∧
        delay.toNat * Duration.nanosecondsPerMillisecond ≤
          duration.seconds.toNat * Duration.nanosecondsPerSecond + duration.nanoseconds.toNat ∧
        IsLeast {time | now.toNat < time ∧ duration.milliseconds ∣ time}
          (now.toNat + delay.toNat)) ∧
    (UInt64.size ≤ duration.milliseconds →
      ∀ delay, frequency.firstDelay? now = some delay →
        ¬ IsLeast {time | now.toNat < time ∧ duration.milliseconds ∣ time}
          (now.toNat + delay.toNat)) ∧
    (frequency.firstDelay? now = none ↔ UInt64.size ∣ duration.milliseconds) ∧
    ∀ time, (FlushSchedule.startAt? frequency time).isSome = true ↔
      ¬ UInt64.size ∣ duration.milliseconds := by
  have same := ofDuration_eq_ok.1 accepted
  subst same
  refine ⟨fun fits => ?_, fun long delay waits => not_isLeast_of_size_le long waits,
    firstDelay?_eq_none, isSome_startAt?_iff⟩
  obtain ⟨delay, waits, ahead, near, least⟩ := exists_firstDelay? fits now
  refine ⟨delay, waits, ahead, ?_, least⟩
  rw [milliseconds, Duration.milliseconds] at near
  simp only [Duration.nanosecondsPerMillisecond, Duration.nanosecondsPerSecond] at near ⊢
  omega

/-- A minute and a half and a fraction of a millisecond, from one of its multiples on. -/
theorem first_delay_leads_to_next_boundary_fraction :
    let duration : Duration := ⟨90, 999999, by decide⟩
    ∃ frequency, ofDuration duration = .ok frequency ∧ duration.milliseconds < UInt64.size ∧
      frequency.firstDelay? 180000 = some 90000 ∧
      IsLeast {time | 180000 < time ∧ duration.milliseconds ∣ time} 270000 := by
  intro duration
  let frequency : FlushFrequency := ⟨duration, by decide⟩
  have accepted : ofDuration duration = .ok frequency := ofDuration_eq_ok.2 rfl
  have fits : duration.milliseconds < UInt64.size := by decide
  have waits : frequency.firstDelay? 180000 = some 90000 := by decide +kernel
  obtain ⟨reaches, -⟩ := first_delay_leads_to_next_boundary accepted 180000
  obtain ⟨delay, computed, -, -, least⟩ := reaches fits
  cases waits.symm.trans computed
  exact ⟨frequency, accepted, fits, waits, least⟩

/-- A span of as many milliseconds as there are words is accepted as a frequency, but a delay
cannot be computed with it, at any time. -/
theorem accepted_frequency_without_first_delay : ∃ frequency,
    ofDuration ⟨18446744073709551, 616000000, by decide⟩ = .ok frequency ∧
      ∀ now, frequency.firstDelay? now = none := by
  let frequency : FlushFrequency := ⟨⟨18446744073709551, 616000000, by decide⟩, by decide⟩
  have whole : UInt64.size ∣ frequency.milliseconds := by decide +kernel
  exact ⟨frequency, ofDuration_eq_ok.2 rfl, fun _ => firstDelay?_eq_none.2 whole⟩

end FlushFrequency

end Alerting
