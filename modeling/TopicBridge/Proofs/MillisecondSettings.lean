import Mathlib
import TopicBridge.Relay.Dispatch
import TopicBridge.Ingest.Record

/-!
# Settings in milliseconds

Three settings are given as counts of milliseconds and become durations in nanoseconds
through `TopicBridge.Time.ofMillis`, a 64-bit product that wraps around: the time an HTTP
sink's client allows one post, the cool-down of the sink's breaker, and how often the log
reader commits its offsets. A setting that is not positive takes a default, but the three
are not checked at the same point:

* the client timeout is defaulted, to 3 s, *before* the conversion, on the count;
* the cool-down, 15 s, and the commit interval, 1 s, are defaulted *after* it, on the
  duration.

`TopicBridge.Relay.millisecond_settings`: for every count `v` from `-9223372036854` to
`9223372036854`, the counts whose product by a million is a 64-bit integer, each setting is
exactly `v` milliseconds when `v` is positive and its default otherwise; the client timeout
takes its default for every count that is not positive. Above that range no setting is `v`
milliseconds, since no duration is that long: the product wraps around. A cool-down or a
commit interval whose product wraps to a duration that is not positive takes its default,
and a client timeout that wraps so sets no limit at all
(`TopicBridge.Relay.overflowing_millisecond_settings`).
-/

namespace TopicBridge.Num

/-- A 64-bit integer is its own wrap. -/
theorem wrap64_of_mem {x : Int} (h0 : -9223372036854775808 ≤ x) (h1 : x < 9223372036854775808) :
    wrap64 x = x := by
  simp only [wrap64]
  split <;> omega

/-- Every wrap is below `2⁶³`. -/
theorem wrap64_lt (x : Int) : wrap64 x < 9223372036854775808 := by
  simp only [wrap64]
  split <;> omega

end TopicBridge.Num

namespace TopicBridge.Time

/-! ### Milliseconds as durations -/

/-- Counts of milliseconds whose product by a million is a 64-bit integer convert exactly. -/
theorem ofMillis_of_le {v : Int} (h0 : -9223372036854 ≤ v) (h1 : v ≤ 9223372036854) :
    ofMillis v = v * nanosPerMilli := by
  unfold ofMillis Num.mul64 nanosPerMilli
  exact Num.wrap64_of_mem (by omega) (by omega)

/-- No duration is longer than `2⁶³` nanoseconds, so a longer count never converts exactly. -/
theorem ofMillis_ne {v : Int} (h : 9223372036854 < v) : ofMillis v ≠ v * nanosPerMilli := by
  have hlt := Num.wrap64_lt (v * nanosPerMilli)
  unfold ofMillis Num.mul64
  unfold nanosPerMilli at hlt ⊢
  omega

/-- A setting converted from a count and defaulted when the duration is not positive: the
count in nanoseconds, or the default, while the conversion is exact. -/
theorem defaulted_ofMillis {v d : Int} (h0 : -9223372036854 ≤ v) (h1 : v ≤ 9223372036854) :
    (if ofMillis v ≤ 0 then d else ofMillis v) = if 0 < v then v * nanosPerMilli else d := by
  rw [ofMillis_of_le h0 h1]
  unfold nanosPerMilli
  split_ifs <;> omega

/-- Above the exact range, a setting converted and then defaulted is not the count. -/
theorem defaulted_ofMillis_ne {v d : Int} (h : 9223372036854 < v)
    (hd : d < 9223372036854775808) :
    (if ofMillis v ≤ 0 then d else ofMillis v) ≠ v * nanosPerMilli := by
  split_ifs
  · unfold nanosPerMilli
    omega
  · exact ofMillis_ne h

end TopicBridge.Time

namespace TopicBridge.Relay

open TopicBridge.Time

/-! ### The three settings -/

theorem HttpSink.new_timeout (name url : String) (timeoutMs threshold openForMs : Int) :
    (HttpSink.new name url timeoutMs threshold openForMs).timeout =
      ofMillis (if timeoutMs ≤ 0 then defaultSinkTimeoutMs else timeoutMs) := rfl

theorem HttpSink.new_openFor (name url : String) (timeoutMs threshold openForMs : Int) :
    (HttpSink.new name url timeoutMs threshold openForMs).breaker.openFor =
      if ofMillis openForMs ≤ 0 then Breaker.defaultOpenFor else ofMillis openForMs := rfl

theorem readerSettings_commitInterval (brokers : List String) (groupId topic : String)
    (minBytes maxBytes commitMs : Int) :
    (Ingest.readerSettings brokers groupId topic minBytes maxBytes commitMs).commitInterval =
      if ofMillis commitMs ≤ 0 then Ingest.defaultCommitInterval else ofMillis commitMs := rfl

/-- **Settings in milliseconds.** For a count `v` whose product by a million is a 64-bit
integer, the client timeout and the cool-down of an HTTP sink, and the reader's commit
interval, are each `v` milliseconds when `v` is positive and their defaults, 3 s, 15 s and
1 s, otherwise. The timeout, defaulted before its conversion, is 3 s for every count that
is not positive. For a count above that range, none of them is `v` milliseconds. -/
theorem millisecond_settings (v : Int) (name url : String) (threshold : Int)
    (brokers : List String) (groupId topic : String) (minBytes maxBytes : Int) :
    let sink := HttpSink.new name url v threshold v
    let reader := Ingest.readerSettings brokers groupId topic minBytes maxBytes v
    (-9223372036854 ≤ v → v ≤ 9223372036854 →
        sink.timeout = (if 0 < v then v * 1000000 else 3000000000) ∧
        sink.breaker.openFor = (if 0 < v then v * 1000000 else 15000000000) ∧
        reader.commitInterval = (if 0 < v then v * 1000000 else 1000000000)) ∧
      (v ≤ 0 → sink.timeout = 3000000000) ∧
      (9223372036854 < v →
        sink.timeout ≠ v * 1000000 ∧ sink.breaker.openFor ≠ v * 1000000 ∧
        reader.commitInterval ≠ v * 1000000) := by
  intro sink reader
  have hdefault : ofMillis defaultSinkTimeoutMs = 3000000000 := by decide
  have hnonpos : v ≤ 0 → sink.timeout = 3000000000 := fun hv => by
    rw [HttpSink.new_timeout, if_pos hv, hdefault]
  refine ⟨fun h0 h1 => ⟨?_, ?_, ?_⟩, hnonpos, fun h => ⟨?_, ?_, ?_⟩⟩
  · by_cases hv : 0 < v
    · rw [HttpSink.new_timeout, if_neg (by omega), if_pos hv, ofMillis_of_le h0 h1]
      rfl
    · rw [if_neg hv]
      exact hnonpos (by omega)
  · rw [HttpSink.new_openFor, defaulted_ofMillis h0 h1]
    rfl
  · rw [readerSettings_commitInterval, defaulted_ofMillis h0 h1]
    rfl
  · rw [HttpSink.new_timeout, if_neg (by omega)]
    exact ofMillis_ne h
  · rw [HttpSink.new_openFor]
    exact defaulted_ofMillis_ne h (by decide)
  · rw [readerSettings_commitInterval]
    exact defaulted_ofMillis_ne h (by decide)

/-- Half a second, in each of the three settings. -/
theorem half_second_settings :
    (-9223372036854 ≤ (500 : Int) ∧ (500 : Int) ≤ 9223372036854) ∧
      (HttpSink.new "broker" "http://127.0.0.1:1/" 500 1 500).timeout = 500000000 ∧
      (HttpSink.new "broker" "http://127.0.0.1:1/" 500 1 500).breaker.openFor = 500000000 ∧
      (Ingest.readerSettings [] "" "" 0 0 500).commitInterval = 500000000 := by
  obtain ⟨htimeout, hopen, hcommit⟩ :=
    (millisecond_settings 500 "broker" "http://127.0.0.1:1/" 1 [] "" "" 0 0).1 (by decide)
      (by decide)
  exact ⟨⟨by decide, by decide⟩, by simpa using htimeout, by simpa using hopen,
    by simpa using hcommit⟩

/-- **Overflowing settings.** `9223372036855` milliseconds wrap around to a negative
duration: as a cool-down or a commit interval they take the defaults, 15 s and 1 s, and as a
client timeout they set no limit. `-9223372036855` milliseconds wrap around to a positive
duration, so as a cool-down they hold a breaker open for about 292 years. -/
theorem overflowing_millisecond_settings :
    (HttpSink.new "bad" "::bad" 9223372036855 1 9223372036855).breaker.openFor = 15000000000 ∧
      (Ingest.readerSettings [] "" "" 0 0 9223372036855).commitInterval = 1000000000 ∧
      (HttpSink.new "bad" "::bad" 9223372036855 1 9223372036855).timeout =
        -9223372036854551616 ∧
      (HttpSink.new "bad" "::bad" 0 1 (-9223372036855)).breaker.openFor =
        9223372036854551616 := by
  refine ⟨?_, ?_, ?_, ?_⟩ <;> decide

end TopicBridge.Relay
