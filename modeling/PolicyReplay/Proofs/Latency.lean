import Mathlib.Algebra.GroupWithZero.Nat
import PolicyReplay.Proofs.Except
import PolicyReplay.Proofs.Run.Phases

/-!
# Exact latencies

The sum of latencies is kept in two words, one of whole seconds and one of the nanoseconds beyond
them, and each addition carries from one to the other. What is kept is the exact total nevertheless,
and latencies are taken in until the first one with which the total is no duration any more.

## Key results

- `Duration.Words.map_add`: adding with a carry is adding nanoseconds
- `Latency.recordAll_eq_ok_iff`, `Latency.recordAll_eq_error_iff`: taking in many latencies
- `Latency.recordAll_exact`: the sum, the count and the point of overflow are exact
-/

namespace PolicyReplay

namespace Duration

/-- The number of nanoseconds in 2^64 seconds, at which durations end. -/
def limit : Nat := 0x10000000000000000 * 1000000000

/-- A sum of durations is the duration with the sum of their nanoseconds, if there is one. -/
theorem add_eq_ok_iff {a b c : Duration} : a.add b = .ok c ↔ c.nanos = a.nanos + b.nanos := by
  have hc := c.nanos_lt
  obtain ⟨n, hn⟩ := c
  unfold add ofNanos
  -- a sum below the limit is a duration, and no duration is at the limit or above
  split
  · rw [Except.ok.injEq, Duration.mk.injEq, eq_comm]
  · refine iff_of_false (fun h => nomatch h) fun h : n = a.nanos + b.nanos => ?_
    omega

/-- Durations have no sum from the limit on. -/
theorem add_eq_error_iff {a b : Duration} {e : Overflow} :
    a.add b = .error e ↔ limit ≤ a.nanos + b.nanos := by
  unfold add ofNanos limit
  split
  · refine iff_of_false (fun h => nomatch h) ?_
    omega
  · refine iff_of_true rfl ?_
    omega

/-! ## Durations in two words -/

/-- A duration as it is kept: whole seconds, and the nanoseconds beyond them. -/
structure Words where
  seconds : UInt64
  subsecond : UInt32
  subsecond_lt : subsecond.toNat < 1000000000
  deriving DecidableEq, Repr

namespace Words

/-- All the nanoseconds of a duration. -/
def nanos (w : Words) : Nat := w.seconds.toNat * 1000000000 + w.subsecond.toNat

/-- Two words hold less than the limit. -/
theorem nanos_lt (w : Words) : w.nanos < limit := by
  have hseconds := w.seconds.toNat_lt
  have hsubsecond := w.subsecond_lt
  simp only [nanos, limit]
  omega

/-- The duration that is kept in two words. -/
def duration (w : Words) : Duration := ⟨w.nanos, w.nanos_lt⟩

/-- No time. -/
def zero : Words := ⟨0, 0, by decide⟩

/-- The nanoseconds of two durations, less than two seconds, fit into their word. -/
theorem toNat_subsecond_add (a b : Words) :
    (a.subsecond + b.subsecond).toNat = a.subsecond.toNat + b.subsecond.toNat := by
  have ha := a.subsecond_lt
  have hb := b.subsecond_lt
  rw [UInt32.toNat_add]
  omega

/-- What is left of the nanoseconds when a second of them is carried. -/
theorem toNat_subsecond_carried {a b : Words}
    (h : ¬ (a.subsecond + b.subsecond).toNat < 1000000000) :
    (a.subsecond + b.subsecond - 1000000000).toNat =
      a.subsecond.toNat + b.subsecond.toNat - 1000000000 := by
  have hle : (1000000000 : UInt32) ≤ a.subsecond + b.subsecond :=
    UInt32.le_iff_toNat_le.mpr (Nat.le_of_not_lt h)
  rw [UInt32.toNat_sub_of_le _ _ hle, toNat_subsecond_add]
  rfl

/-- The sum. The seconds are added, and so are the nanoseconds beyond them; if these make up a whole
second, it is carried. Either addition of seconds may leave their word. -/
def add (a b : Words) : Except Overflow Words :=
  let seconds := a.seconds + b.seconds
  let subsecond := a.subsecond + b.subsecond
  if seconds < a.seconds then .error {}
  else if h : subsecond.toNat < 1000000000 then .ok ⟨seconds, subsecond, h⟩
  else if seconds + 1 = 0 then .error {}
  else .ok ⟨seconds + 1, subsecond - 1000000000, by
    have ha := a.subsecond_lt
    have hb := b.subsecond_lt
    rw [toNat_subsecond_carried h]
    omega⟩

/-- Adding with a carry is adding nanoseconds. -/
theorem map_add (a b : Words) : (a.add b).map duration = a.duration.add b.duration := by
  -- every addition of words, as one of numbers modulo the size of the word
  have ha := a.subsecond_lt
  have hb := b.subsecond_lt
  have hsubsecond := toNat_subsecond_add a b
  have hseconds := UInt64.toNat_add a.seconds b.seconds
  have hcarry := UInt64.toNat_add (a.seconds + b.seconds) 1
  have hlt := a.seconds.toNat_lt
  have hlt' := b.seconds.toNat_lt
  have hone : (1 : UInt64).toNat = 1 := rfl
  symm
  simp only [add, UInt64.lt_iff_toNat_lt, ← UInt64.toNat_inj, UInt64.toNat_zero]
  split
  · -- the seconds alone are too many
    rw [Except.map, add_eq_error_iff]
    simp only [duration, nanos, limit]
    omega
  · split
    -- without a carry both words are added as numbers
    · rw [Except.map, add_eq_ok_iff]
      simp only [duration, nanos]
      omega
    · rename_i hwhole
      have hcarried := toNat_subsecond_carried hwhole
      split
      · -- only the second that is carried is too many
        rw [Except.map, add_eq_error_iff]
        simp only [duration, nanos, limit]
        omega
      · rw [Except.map, add_eq_ok_iff]
        simp only [duration, nanos]
        omega

/-- Many additions with a carry come to as many additions of nanoseconds. -/
theorem map_foldlM_add (w : Words) (samples : List Words) :
    (samples.foldlM add w).map duration =
      (samples.map duration).foldlM Duration.add w.duration := by
  -- induction on the samples, from whatever sum there is so far
  induction samples generalizing w with
  | nil => rfl
  | cons sample samples ih =>
    rw [List.foldlM_cons, List.map_cons, List.foldlM_cons, ← map_add]
    -- a sum that leaves the words is no duration either, and both end there
    cases w.add sample with
    | error e => rfl
    | ok sum => exact ih sum

end Words
end Duration

namespace Latency

open Duration (limit Words)

variable {l l' : Latency} {d : Duration} {durations : List Duration}

/-! ## Taking in latencies -/

/-- All the nanoseconds of durations. -/
def total (durations : List Duration) : Nat := (durations.map (·.nanos)).sum

@[simp] theorem total_nil : total [] = 0 := rfl

@[simp] theorem total_cons (d : Duration) (durations : List Duration) :
    total (d :: durations) = d.nanos + total durations := List.sum_cons

/-- The totals of two rows of durations add up. -/
@[simp] theorem total_append (durations others : List Duration) :
    total (durations ++ others) = total durations + total others := by
  rw [total, List.map_append, List.sum_append, total, total]

/-- The total does not depend on the order. -/
theorem total_perm {others : List Duration} (h : others.Perm durations) :
    total others = total durations := (h.map _).sum_nat

/-- A latency is taken in if the sum is a duration. -/
theorem record_eq_ok_iff (hcount : l.count + 1 < countBound) :
    l.record d = .ok l' ↔ l'.sum.nanos = l.sum.nanos + d.nanos ∧ l'.count = l.count + 1 := by
  obtain ⟨sum, count⟩ := l'
  -- the count is below its bound, so only the sum decides
  simp only [record, Except.bind_eq_ok_iff, Duration.add_eq_ok_iff, if_pos hcount]
  constructor
  · rintro ⟨s, hs, h⟩
    obtain ⟨rfl, rfl⟩ := Latency.mk.inj (Except.ok.inj h)
    exact ⟨hs, rfl⟩
  · rintro ⟨hs, rfl⟩
    exact ⟨sum, hs, rfl⟩

/-- Latencies are taken in if their sum is a duration. -/
theorem recordAll_eq_ok_iff (hcount : l.count + durations.length < countBound) :
    l.recordAll durations = .ok l' ↔
      l'.sum.nanos = l.sum.nanos + total durations ∧ l'.count = l.count + durations.length := by
  rw [recordAll]
  -- induction on the durations; the first is taken in by what is there, and the others by what
  -- comes of it
  induction durations generalizing l with
  | nil =>
    obtain ⟨⟨n, hn⟩, count⟩ := l
    obtain ⟨⟨n', hn'⟩, count'⟩ := l'
    show Except.ok _ = Except.ok _ ↔ _
    simp [eq_comm]
  | cons d durations ih =>
    rw [List.length_cons] at hcount
    have hfirst : l.count + 1 < countBound := by omega
    simp only [List.foldlM_cons, Except.bind_eq_ok_iff, total_cons, List.length_cons]
    constructor
    -- what comes of the first latency is the start for the others
    · rintro ⟨m, hm, hrest⟩
      obtain ⟨hsum, hm⟩ := (record_eq_ok_iff hfirst).mp hm
      have hrest := (ih (by omega)).mp hrest
      omega
    · rintro ⟨hsum, hlength⟩
      -- the sum with the first latency is not more than the sum with all of them
      have hlt := l'.sum.nanos_lt
      let m : Latency := ⟨⟨l.sum.nanos + d.nanos, by omega⟩, l.count + 1⟩
      have hm : m.sum.nanos = l.sum.nanos + d.nanos := rfl
      have hmcount : m.count = l.count + 1 := rfl
      refine ⟨m, (record_eq_ok_iff hfirst).mpr ⟨hm, hmcount⟩, (ih ?_).mpr ?_⟩ <;> omega

/-- Latencies are taken in only if their sum is a duration. -/
theorem recordAll_eq_error_iff (hcount : l.count + durations.length < countBound)
    {e : Duration.Overflow} :
    l.recordAll durations = .error e ↔ limit ≤ l.sum.nanos + total durations := by
  cases h : l.recordAll durations with
  | ok l' =>
    have hsum := ((recordAll_eq_ok_iff hcount).mp h).1
    have hlt : l'.sum.nanos < limit := l'.sum.nanos_lt
    refine iff_of_false (fun h => nomatch h) ?_
    omega
  | error e' =>
    -- below the limit there would be a latency with that sum
    refine iff_of_true rfl (Nat.le_of_not_lt fun hlt => ?_)
    have hok := (recordAll_eq_ok_iff hcount).mpr
      (show (Latency.mk ⟨_, hlt⟩ (l.count + durations.length)).sum.nanos = _ ∧ _ from ⟨rfl, rfl⟩)
    rw [h] at hok
    exact nomatch hok

/-! ## The point of overflow -/

/-- Taking in latencies from the beginning crashes at the latency with so many before it. -/
def CrashesAt (durations : List Duration) (n : Nat) : Prop :=
  ∃ l d e, recordAll {} (durations.take n) = .ok l ∧ durations[n]? = some d ∧ l.record d = .error e

/-- The latency with so many before it is the first with which the total reaches 2^64 seconds. -/
structure ReachesLimitAt (durations : List Duration) (n : Nat) : Prop where
  lt : n < durations.length
  reaches : limit ≤ total (durations.take (n + 1))
  first : ∀ m ≤ n, total (durations.take m) < limit

/-- The total grows with the number of latencies. -/
theorem total_take_mono {m n : Nat} (h : m ≤ n) (durations : List Duration) :
    total (durations.take m) ≤ total (durations.take n) := by
  obtain ⟨rest, hrest⟩ := List.take_prefix_take_left h (l := durations)
  rw [← hrest, total_append]
  exact Nat.le_add_right _ _

/-- One latency is not taken in from the limit on. -/
theorem record_eq_error_iff (hcount : l.count + 1 < countBound) {e : Duration.Overflow} :
    l.record d = .error e ↔ limit ≤ l.sum.nanos + d.nanos := by
  have hone : l.recordAll [d] = l.record d := by simp [recordAll]
  rw [← hone, recordAll_eq_error_iff hcount, total_cons, total_nil, Nat.add_zero]

/-- From the beginning, the sum is the total and the count is the number of latencies. -/
theorem recordAll_start_eq_ok_iff (hcount : durations.length < countBound) :
    recordAll {} durations = .ok l ↔
      l.sum.nanos = total durations ∧ l.count = durations.length := by
  have hstart : ({} : Latency).count + durations.length = durations.length := Nat.zero_add _
  have hzero : ({} : Latency).sum.nanos + total durations = total durations := Nat.zero_add _
  rw [recordAll_eq_ok_iff (by rwa [hstart]), hstart, hzero]

/-- In another order, latencies come to the same. -/
theorem recordAll_perm {others : List Duration} (hperm : others.Perm durations)
    (hcount : durations.length < countBound) : recordAll {} others = recordAll {} durations := by
  have hothers : others.length < countBound := by rwa [hperm.length_eq]
  -- both rows have the same total and the same number, and nothing else decides
  cases h : recordAll {} durations with
  | ok l =>
    rw [recordAll_start_eq_ok_iff hcount] at h
    rwa [recordAll_start_eq_ok_iff hothers, total_perm hperm, hperm.length_eq]
  | error e =>
    have hstart : ({} : Latency).count = 0 := rfl
    rw [recordAll_eq_error_iff (by rwa [hstart, Nat.zero_add])] at h
    rwa [recordAll_eq_error_iff (by rwa [hstart, Nat.zero_add]), total_perm hperm]

/-- The crash is where the total reaches the limit. -/
theorem crashesAt_iff (hcount : durations.length < countBound) {n : Nat} :
    CrashesAt durations n ↔ ReachesLimitAt durations n := by
  have hlength (m : Nat) : (durations.take m).length < countBound :=
    Nat.lt_of_le_of_lt (List.length_take_le' m durations) hcount
  -- the total with the latency in question is that of those before it, and it
  have htotal {d : Duration} (hd : durations[n]? = some d) :
      total (durations.take (n + 1)) = total (durations.take n) + d.nanos := by
    rw [List.take_add_one, hd, total_append]
    rfl
  -- there is room in the count for the latency at which the sum overflows
  have hroom {l : Latency} (hl : l.count = (durations.take n).length) (hn : n < durations.length) :
      l.count + 1 < countBound := by
    rw [hl, List.length_take_of_le (Nat.le_of_lt hn)]
    omega
  constructor
  -- the latencies before it are taken in, so they stay below the limit, and it is not
  · rintro ⟨l, d, e, hok, hd, herror⟩
    obtain ⟨hsum, hl⟩ := (recordAll_start_eq_ok_iff (hlength n)).mp hok
    obtain ⟨hn, -⟩ := List.getElem?_eq_some_iff.mp hd
    have hover := (record_eq_error_iff (hroom hl hn)).mp herror
    refine ⟨hn, by rwa [htotal hd, ← hsum], fun m hm => ?_⟩
    calc total (durations.take m)
      _ ≤ total (durations.take n) := total_take_mono hm durations
      _ = l.sum.nanos := hsum.symm
      _ < limit := l.sum.nanos_lt
  -- below the limit there is a latency of those before, which cannot take in this one
  · rintro ⟨hn, hover, hfirst⟩
    have hd : durations[n]? = some durations[n] := List.getElem?_eq_getElem hn
    let l : Latency := ⟨⟨total (durations.take n), hfirst n Nat.le.refl⟩, (durations.take n).length⟩
    rw [htotal hd] at hover
    exact ⟨l, durations[n], {}, (recordAll_start_eq_ok_iff (hlength n)).mpr ⟨rfl, rfl⟩, hd,
      (record_eq_error_iff (l := l) (hroom rfl hn)).mpr hover⟩

/-- Latencies are not all taken in exactly if there is a crash at one of them. -/
theorem recordAll_eq_error_iff_exists {e : Duration.Overflow} :
    recordAll {} durations = .error e ↔ ∃ n, CrashesAt durations n := by
  rw [recordAll, Except.foldlM_eq_error_iff]
  constructor
  -- the latencies before the one that fails are the first ones
  · rintro ⟨before, d, after, l, rfl, hok, herror⟩
    refine ⟨before.length, l, d, e, ?_, by simp, herror⟩
    rw [List.take_left']
    · exact hok
    · rfl
  -- and the row is cut in three at that latency
  · rintro ⟨n, l, d, e, hok, hd, herror⟩
    obtain ⟨hn, rfl⟩ := List.getElem?_eq_some_iff.mp hd
    refine ⟨durations.take n, durations[n], durations.drop (n + 1), l, ?_, hok, herror⟩
    rw [List.getElem_cons_drop, List.take_append_drop]

/-! ## Exactness -/

/-- What is kept of samples is exact: whole seconds and the nanoseconds beyond them, fewer than
10^9, make up the total, and the count is the number of samples. -/
structure Exact (samples : List Words) (l : Latency) : Prop where
  total_eq : l.sum.seconds * 1000000000 + l.sum.subsecond = (samples.map Words.nanos).sum
  subsecond_lt : l.sum.subsecond < 1000000000
  seconds_lt : l.sum.seconds < 0x10000000000000000
  count_eq : l.count = samples.length

/-- The total of samples is that of their words. -/
theorem total_map_duration (samples : List Words) :
    total (samples.map Words.duration) = (samples.map Words.nanos).sum := by
  rw [total, List.map_map]
  rfl

/-- What is recorded of samples is exact. -/
theorem exact_of_recordAll {samples : List Words} (hcount : samples.length < countBound)
    (h : recordAll {} (samples.map Words.duration) = .ok l) : Exact samples l := by
  obtain ⟨hsum, hl⟩ := (recordAll_start_eq_ok_iff (by rwa [List.length_map])).mp h
  have hlt := l.sum.nanos_lt
  refine ⟨?_, Nat.mod_lt _ (by decide), ?_, by rw [hl, List.length_map]⟩
  -- seconds and nanoseconds beyond them are quotient and remainder
  · rw [← total_map_duration, ← hsum, Duration.seconds, Duration.subsecond]
    omega
  · rw [Duration.seconds]
    omega

/-- The sum is added up apart from the count. -/
theorem map_sum_recordAll (hcount : l.count + durations.length < countBound) :
    (l.recordAll durations).map (·.sum) = durations.foldlM Duration.add l.sum := by
  rw [recordAll]
  -- induction on the durations; the sum is the same at every step, and the count stays below its
  -- bound
  induction durations generalizing l with
  | nil => rfl
  | cons d durations ih =>
    rw [List.length_cons] at hcount
    have hfirst : l.count + 1 < countBound := by omega
    rw [List.foldlM_cons, List.foldlM_cons, record]
    cases l.sum.add d with
    | error e => rfl
    | ok sum =>
      have hrest : (⟨sum, l.count + 1⟩ : Latency).count + durations.length < countBound := by
        show l.count + 1 + durations.length < countBound
        omega
      simp only [bind, Except.bind, if_pos hfirst]
      exact ih hrest

/-- Latencies are taken in exactly, up to the first with which the total reaches 2^64 seconds, where
taking them in crashes. Their order does not matter, and adding them up in two words with a carry
comes to the same sum. The report of a worker has what its session has taken in. -/
theorem recordAll_exact (samples : List Words) (hcount : samples.length < countBound) :
    let durations := samples.map Words.duration
    (∀ n, CrashesAt durations n ↔ ReachesLimitAt durations n) ∧
      ((∃ n, ReachesLimitAt durations n) → recordAll {} durations = .error {}) ∧
      ((¬ ∃ n, ReachesLimitAt durations n) →
        ∃ l, recordAll {} durations = .ok l ∧ Exact samples l) ∧
      (samples.foldlM Words.add Words.zero).map Words.duration =
        (recordAll {} durations).map (·.sum) ∧
      (∀ other : List Words, other.Perm samples →
        recordAll {} (other.map Words.duration) = recordAll {} durations) ∧
      ∀ (σ : Type) (peer : Peer σ) (s : σ) (endpoint : String) (id : Nat) (setup : Option Command)
        (commands : List Command) (l : Latency),
        ((Run.session endpoint (toString id) setup commands).account peer s).fate =
            .returned (.ok l) →
          ((Run.worker endpoint id setup commands).account peer s).fate =
            .returned (.ok ⟨id, l⟩) := by
  intro durations
  have hlength : durations.length < countBound := by rwa [List.length_map]
  have hcrash (n : Nat) : CrashesAt durations n ↔ ReachesLimitAt durations n :=
    crashesAt_iff hlength
  -- there is an error exactly if there is a crash, and that is where the limit is reached
  have herror : recordAll {} durations = .error {} ↔ ∃ n, ReachesLimitAt durations n := by
    rw [recordAll_eq_error_iff_exists]
    exact exists_congr hcrash
  refine ⟨hcrash, herror.mpr, fun hnone => ?_, ?_, fun other hperm => ?_, ?_⟩
  · cases h : recordAll {} durations with
    | error e => exact absurd (herror.mp h) hnone
    | ok l => exact ⟨l, rfl, exact_of_recordAll hcount h⟩
  -- adding in words comes to adding nanoseconds, which is what becomes of the sum
  · rw [map_sum_recordAll (by rwa [show ({} : Latency).count = 0 from rfl, Nat.zero_add]),
      Words.map_foldlM_add]
    rfl
  · exact recordAll_perm (hperm.map Words.duration) hlength
  -- a worker passes on what its session returns
  · intro σ peer s endpoint id setup commands l h
    rw [Run.worker_account]
    simp only [h, Fate.map, Except.map]

/-- The nanoseconds of the second sample fill up the last second that there is, and those of the
third carry one second too many. -/
theorem recordAll_exact_full :
    let samples : List Words :=
      [⟨0xFFFFFFFFFFFFFFFE, 999999999, by decide⟩, ⟨1, 0, by decide⟩, ⟨0, 1, by decide⟩]
    let durations := samples.map Words.duration
    samples.length < countBound ∧ CrashesAt durations 2 ∧ recordAll {} durations = .error {} ∧
      samples.foldlM Words.add Words.zero = .error {} := by
  intro samples durations
  obtain ⟨hcrash, herror, -, hcarry, -, -⟩ := recordAll_exact samples (by decide)
  have hreaches : ReachesLimitAt durations 2 :=
    ⟨by decide, by decide,
      fun m hm => Nat.lt_of_le_of_lt (total_take_mono hm durations) (by decide)⟩
  have hrecorded := herror ⟨2, hreaches⟩
  rw [hrecorded] at hcarry
  exact ⟨by decide, (hcrash 2).mpr hreaches, hrecorded, Except.map_eq_error_iff.mp hcarry⟩

end Latency
end PolicyReplay
