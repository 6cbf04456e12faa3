import PolicyReplay.Proofs.Run.Accounting
import PolicyReplay.Run.Report

/-!
# The aggregate and the records of the workers

The outcomes of a run are told twice more: by the aggregate, which is made of the means and counts
of the workers that completed, and by the report, which has a record for each worker. Both tell the
same of how many workers measured anything, how many failed and how many requests were completed,
in whatever order the outcomes are.

## Key results

- `exists_records`: what can be aggregated can be recorded
- `ofOutcomes_agreed`: the aggregate and the records agree
-/

namespace PolicyReplay.Run

variable {outcome : Outcome} {outcomes outcomes' : List Outcome} {record : Json}
  {records : List Json} {aggregate : Aggregate} {elapsed : Duration} {means : List Duration}
  {mean : Option Duration}

/-! ## Records -/

/-- The value of a member of a record. -/
def recorded? (name : String) : Json → Option Json
  | .object members => Json.member? name members
  | _ => none

/-- Whether a record has a member. -/
def carries (name : String) (record : Json) : Bool := (recorded? name record).isSome

/-- Whether a record tells of a worker that failed. -/
def tellsFailure (record : Json) : Bool :=
  match recorded? "status" record with
  | some (.string status) => status = "failed"
  | _ => false

/-- How many requests a record tells of. -/
def recordedRequests (record : Json) : Nat :=
  match recorded? "requests" record with
  | some (.number (.whole n)) => n.toNat
  | _ => 0

/-- A worker that measured something has a mean, and a worker that measured nothing has none. -/
theorem isSome_mean {latency : Latency} (h : latency.mean = .ok mean) :
    mean.isSome = decide (latency.count ≠ 0) := by
  -- the mean is a division by the count, and it is not asked for when the count is zero
  unfold Latency.mean at h
  split at h
  · rename_i hcount
    obtain rfl := Except.ok.inj h
    simp [hcount]
  · rename_i hcount
    obtain ⟨d, -, rfl⟩ := Except.map_eq_ok_iff.mp h
    simp [hcount]

/-- What the record of a worker tells of it. -/
structure Recorded (outcome : Outcome) (record : Json) : Prop where
  reporting : carries "mean_latency_secs" record = outcome.isReporting
  failed : tellsFailure record = outcome.isFailed
  coded : carries "error_code" record = outcome.isFailed
  requests : recordedRequests record = outcome.requests

/-- The record that is made of an outcome tells of it what happened. -/
theorem recorded_of_record (h : outcome.record = .ok record) : Recorded outcome record := by
  cases outcome with
  | failed worker code reason =>
    obtain rfl := Except.ok.inj h
    exact ⟨rfl, rfl, rfl, rfl⟩
  | completed report =>
    obtain ⟨mean, hmean, h⟩ := Except.bind_eq_ok_iff.mp h
    obtain rfl := Except.ok.inj h
    have hreporting := isSome_mean hmean
    cases mean with
    | none => exact ⟨hreporting, rfl, rfl, rfl⟩
    | some mean => exact ⟨hreporting, rfl, rfl, rfl⟩

/-- What can be aggregated can be recorded. -/
theorem exists_records (h : Aggregate.means (outcomes.filterMap Outcome.report?) = .ok means) :
    ∃ records, outcomes.mapM Outcome.record = .ok records := by
  obtain ⟨all, hall, -⟩ := Except.bind_eq_ok_iff.mp h
  -- a record needs the mean of its own worker only, and that is one of those aggregated
  have hmeans := Except.exists_mapM_eq_ok_iff.mp ⟨all, hall⟩
  refine Except.exists_mapM_eq_ok_iff.mpr fun outcome houtcome => ?_
  cases outcome with
  | failed worker code reason => exact ⟨_, rfl⟩
  | completed report =>
    obtain ⟨mean, hmean⟩ := hmeans report (List.mem_filterMap.mpr ⟨_, houtcome, rfl⟩)
    exact ⟨_, Except.bind_eq_ok_iff.mpr ⟨mean, hmean, rfl⟩⟩

/-! ## Totals -/

/-- Whether a worker completed without a request. -/
def Outcome.isIdle : Outcome → Bool
  | completed report => report.latency.count = 0
  | failed _ _ _ => false

/-- A worker reports, fails or is idle, and only one of these. -/
theorem one_of_three (outcome : Outcome) :
    (if outcome.isReporting then 1 else 0) + (if outcome.isFailed then 1 else 0) +
      (if outcome.isIdle then 1 else 0) = 1 := by
  cases outcome with
  | failed worker code reason => rfl
  | completed report =>
    by_cases hcount : report.latency.count = 0 <;>
      simp [Outcome.isReporting, Outcome.isFailed, Outcome.isIdle, hcount]

/-- Every worker reports, fails or is idle. -/
theorem reporting_add_failed_add_idle_eq_length (outcomes : List Outcome) :
    outcomes.countP Outcome.isReporting + outcomes.countP Outcome.isFailed +
      outcomes.countP Outcome.isIdle = outcomes.length := by
  -- each outcome that is added is counted once on each side
  induction outcomes with
  | nil => rfl
  | cons outcome outcomes ih =>
    have hfirst := one_of_three outcome
    simp only [List.countP_cons, List.length_cons]
    omega

/-- A worker reports if and only if it completed a request. -/
theorem isReporting_iff : outcome.isReporting = true ↔ 0 < outcome.requests := by
  cases outcome with
  | failed worker code reason => simp [Outcome.isReporting, Outcome.requests]
  | completed report => simp [Outcome.isReporting, Outcome.requests, Nat.pos_iff_ne_zero]

/-- Some worker reports exactly if some request was completed. -/
theorem countP_isReporting_pos_iff :
    0 < outcomes.countP Outcome.isReporting ↔ 0 < (outcomes.map Outcome.requests).sum := by
  -- a sum of counts is positive if one of them is
  rw [List.countP_pos_iff, List.sum_pos_iff_exists_pos_nat]
  simp only [isReporting_iff, List.mem_map, exists_exists_and_eq_and]

/-- There is a mean of means exactly if there are any. -/
theorem isSome_meanOf (h : Aggregate.meanOf means = .ok mean) :
    mean.isSome = true ↔ 0 < means.length := by
  unfold Aggregate.meanOf at h
  split at h
  · rename_i hempty
    obtain rfl := Except.ok.inj h
    simp [List.isEmpty_iff.mp hempty]
  · rename_i hempty
    obtain ⟨d, -, rfl⟩ := Except.map_eq_ok_iff.mp h
    simpa [List.length_pos_iff] using hempty

/-! ## Summaries -/

/-- What is said where there is a mean latency. -/
def latencyWords : String := "Average Latency: "

/-- What is said where there is none. -/
def failureWords : String := "Did not gather latency statistics --- experiment failed.\n"

/-- A summary with a mean starts with what is said where there is one. -/
theorem latencyWords_isPrefix (h : aggregate.mean.isSome = true) :
    latencyWords.toList <+: aggregate.summary.toList := by
  obtain ⟨mean, hmean⟩ := Option.isSome_iff_exists.mp h
  simp only [Aggregate.summary, hmean, String.toList_append, List.append_assoc]
  exact List.prefix_append ..

/-- A summary without a mean starts with what is said where there is none. -/
theorem failureWords_isPrefix (h : aggregate.mean.isSome = false) :
    failureWords.toList <+: aggregate.summary.toList := by
  have hnone : aggregate.mean = none := by simpa using h
  simp only [Aggregate.summary, hnone, String.toList_append, List.append_assoc]
  exact List.prefix_append ..

/-- No text starts with both. -/
theorem not_both {s : List Char} (hlatency : latencyWords.toList <+: s)
    (hfailure : failureWords.toList <+: s) : False := by
  -- of two beginnings of one text the shorter one would be a beginning of the longer one
  have hfirst := List.prefix_of_prefix_length_le hlatency hfailure (by decide)
  revert hfirst
  decide

/-- What a summary starts with tells whether there is a mean. -/
theorem latencyWords_isPrefix_iff :
    latencyWords.toList <+: aggregate.summary.toList ↔ aggregate.mean.isSome = true := by
  refine ⟨fun h => ?_, latencyWords_isPrefix⟩
  by_contra hnone
  exact not_both h (failureWords_isPrefix (Bool.not_eq_true _ ▸ hnone))

/-- What a summary starts with tells whether there is no mean. -/
theorem failureWords_isPrefix_iff :
    failureWords.toList <+: aggregate.summary.toList ↔ aggregate.mean.isSome = false := by
  refine ⟨fun h => ?_, failureWords_isPrefix⟩
  by_contra hsome
  exact not_both (latencyWords_isPrefix (Bool.not_eq_false _ ▸ hsome)) h

/-- The digits of a number, filled up with zeros, are in one line. -/
theorem newline_not_mem_digits (count n : Nat) :
    '\n' ∉ Decimal.zeros count ++ Nat.toDigits 10 n := by
  rw [List.mem_append]
  rintro (h | h)
  · exact absurd (List.eq_of_mem_replicate h) (by decide)
  · exact absurd (Nat.isDigit_of_mem_toDigits (by decide) (by decide) h) (by decide)

/-- A number of seconds, written to so many places, is in one line. -/
theorem newline_not_mem_secondsText (places : Nat) (d : Duration) :
    '\n' ∉ (secondsText places d).toList := by
  rw [secondsText, String.toList_ofList, Decimal.fixed?]
  cases Decimal.Binary.ofFloat? d.toSeconds with
  | none => exact List.not_mem_nil
  | some b =>
    have hdigits := newline_not_mem_digits
      (places + 1 - (Nat.toDigits 10 (b.scaled places)).length) (b.scaled places)
    simp only [Option.map_some, Option.getD_some, List.mem_append, not_or]
    -- the digits are cut in two at the point, and each part is digits only
    refine ⟨⟨?_, fun h => hdigits (List.mem_of_mem_take h)⟩, ?_⟩
    · split <;> decide
    · split
      · exact List.not_mem_nil
      · rw [List.mem_cons, not_or]
        exact ⟨by decide, fun h => hdigits (List.mem_of_mem_drop h)⟩

/-- A summary is two lines. -/
theorem summary_lines (aggregate : Aggregate) : ∃ first second : String,
    aggregate.summary = first ++ "\n" ++ second ++ "\n" ∧
      '\n' ∉ first.toList ∧ '\n' ∉ second.toList := by
  -- a line that ends in a number of seconds is words without a line feed and that number
  have hwords (before : String) (hbefore : '\n' ∉ before.toList) (places : Nat) (d : Duration) :
      '\n' ∉ (before ++ secondsText places d ++ " seconds").toList := by
    simp [hbefore, newline_not_mem_secondsText]
  have hsecond := hwords "Elapsed time: " (by decide) 3 aggregate.elapsed
  cases hmean : aggregate.mean with
  | none =>
    refine ⟨"Did not gather latency statistics --- experiment failed.", _, ?_, by decide, hsecond⟩
    rw [Aggregate.summary, hmean, ← String.toList_inj]
    simp
  | some mean =>
    refine ⟨_, _, ?_, hwords latencyWords (by decide) 6 mean, hsecond⟩
    rw [Aggregate.summary, hmean, ← String.toList_inj]
    simp [latencyWords]

/-! ## The aggregate and the records -/

/-- The aggregate of outcomes and the records of the workers tell the same. -/
structure Agreed (outcomes : List Outcome) (records : List Json) (aggregate : Aggregate) :
    Prop where
  reporting_outcomes : aggregate.reporting = outcomes.countP Outcome.isReporting
  reporting_records : aggregate.reporting = records.countP (carries "mean_latency_secs")
  failed_status : aggregate.failed = records.countP tellsFailure
  failed_code : aggregate.failed = records.countP (carries "error_code")
  requests : aggregate.requests = (records.map recordedRequests).sum
  hasData_iff : aggregate.hasData = true ↔ 0 < aggregate.reporting
  reporting_iff : 0 < aggregate.reporting ↔ 0 < aggregate.requests
  /-- The summary tells a latency, or else that the run failed. -/
  tells_latency : latencyWords.toList <+: aggregate.summary.toList ↔ 0 < aggregate.reporting
  tells_failure : failureWords.toList <+: aggregate.summary.toList ↔ aggregate.reporting = 0
  /-- Every worker reports, fails or completes without a request. -/
  workers : aggregate.reporting + aggregate.failed + outcomes.countP Outcome.isIdle =
    outcomes.length

/-- What is true of each record of the workers of which it is true is true of as many workers as
records. -/
theorem countP_records {p : Outcome → Bool} {q : Json → Bool}
    (hrecords : outcomes.mapM Outcome.record = .ok records)
    (h : ∀ outcome record, Recorded outcome record → p outcome = q record) :
    outcomes.countP p = records.countP q := by
  -- the records are made one by one, in order, so the two lists are counted alike
  have hmap := Except.map_eq_map_of_mapM hrecords fun outcome record hrecord =>
    h outcome record (recorded_of_record hrecord)
  calc outcomes.countP p
    _ = (outcomes.map p).countP id := by rw [List.countP_map, Function.id_comp]
    _ = (records.map q).countP id := by rw [hmap]
    _ = records.countP q := by rw [List.countP_map, Function.id_comp]

/-- The aggregate that is made of outcomes agrees with the records that are made of them. -/
theorem agreed_of_ofOutcomes (haggregate : Aggregate.ofOutcomes outcomes elapsed = .ok aggregate)
    (hrecords : outcomes.mapM Outcome.record = .ok records) :
    Agreed outcomes records aggregate := by
  obtain ⟨means, mean, hmeans, hmean, -, rfl⟩ := ofOutcomes_eq_ok_iff.mp haggregate
  -- there is one mean for each worker that reports
  have hreporting : means.length = outcomes.countP Outcome.isReporting :=
    (length_means hmeans).trans (countP_reports outcomes)
  have hdata := isSome_meanOf hmean
  constructor
  case reporting_outcomes => exact hreporting
  case reporting_records =>
    exact hreporting.trans (countP_records hrecords fun _ _ h => h.reporting.symm)
  case failed_status => exact countP_records hrecords fun _ _ h => h.failed.symm
  case failed_code => exact countP_records hrecords fun _ _ h => h.coded.symm
  case requests =>
    have hmap := Except.map_eq_map_of_mapM hrecords fun outcome record hrecord =>
      (recorded_of_record hrecord).requests.symm
    show (requestCounts outcomes).sum = _
    rw [requestCounts_sum, hmap]
  case hasData_iff => exact hdata
  case reporting_iff =>
    show 0 < means.length ↔ 0 < (requestCounts outcomes).sum
    rw [hreporting, requestCounts_sum, countP_isReporting_pos_iff]
  case tells_latency => exact latencyWords_isPrefix_iff.trans hdata
  case tells_failure =>
    rw [failureWords_isPrefix_iff, ← Bool.not_eq_true, hdata, Nat.not_lt, Nat.le_zero]
  case workers =>
    show means.length + _ + _ = _
    rw [hreporting]
    exact reporting_add_failed_add_idle_eq_length outcomes

/-- Outcomes whose means are durations and whose requests fit their word have an aggregate and
records, which agree. In another order they have the same records in another order, and, as far as
the means in that order have a mean, an aggregate with the same counts. -/
theorem ofOutcomes_agreed (elapsed : Duration) (hmeasurable : Measurable outcomes)
    (hrequests : (requestCounts outcomes).sum < Latency.countBound) :
    ∃ aggregate records, Aggregate.ofOutcomes outcomes elapsed = .ok aggregate ∧
      outcomes.mapM Outcome.record = .ok records ∧ Agreed outcomes records aggregate ∧
      ∀ outcomes', outcomes'.Perm outcomes → ∃ records',
        outcomes'.mapM Outcome.record = .ok records' ∧ records'.Perm records ∧
        (Measurable outcomes' → ∃ aggregate',
          Aggregate.ofOutcomes outcomes' elapsed = .ok aggregate' ∧
          Agreed outcomes' records' aggregate' ∧
          aggregate'.reporting = aggregate.reporting ∧ aggregate'.failed = aggregate.failed ∧
          aggregate'.requests = aggregate.requests ∧ aggregate'.hasData = aggregate.hasData ∧
          outcomes'.countP Outcome.isIdle = outcomes.countP Outcome.isIdle) := by
  -- the aggregate and the records are there, as all means are durations and the sum fits
  obtain ⟨aggregate, haggregate⟩ := ofOutcomes_eq_ok elapsed hmeasurable hrequests
  obtain ⟨means, mean, hmeans, -⟩ := hmeasurable
  obtain ⟨records, hrecords⟩ := exists_records hmeans
  have hagreed := agreed_of_ofOutcomes haggregate hrecords
  -- reordered outcomes have the same records, reordered
  refine ⟨aggregate, records, haggregate, hrecords, hagreed, fun outcomes' hperm => ?_⟩
  obtain ⟨records', hrecords', hpermRecords⟩ := Except.mapM_perm hperm hrecords
  refine ⟨records', hrecords', hpermRecords, fun hmeasurable' => ?_⟩
  -- no sum depends on the order, so the requests are within the bound in the other order too
  have hsum : (requestCounts outcomes').sum = (requestCounts outcomes).sum := by
    rw [requestCounts_sum, requestCounts_sum]
    exact (hperm.map _).sum_nat
  obtain ⟨aggregate', haggregate'⟩ := ofOutcomes_eq_ok elapsed hmeasurable' (hsum ▸ hrequests)
  have hagreed' := agreed_of_ofOutcomes haggregate' hrecords'
  -- what is counted of workers is counted of the outcomes, and what is summed of the records
  have hreporting : aggregate'.reporting = aggregate.reporting := by
    rw [hagreed'.reporting_outcomes, hagreed.reporting_outcomes, hperm.countP_eq]
  refine ⟨aggregate', haggregate', hagreed', hreporting, ?_, ?_, ?_, hperm.countP_eq _⟩
  · rw [hagreed'.failed_code, hagreed.failed_code, hpermRecords.countP_eq]
  · rw [hagreed'.requests, hagreed.requests, (hpermRecords.map _).sum_nat]
  · rw [Bool.eq_iff_iff, hagreed'.hasData_iff, hagreed.hasData_iff, hreporting]

/-- Two workers of which one measured two latencies of a second each, one that had nothing to do,
and one that failed. -/
theorem ofOutcomes_agreed_mixed :
    let outcomes : List Outcome := [
      .completed ⟨0, ⟨⟨2000000000, by decide⟩, 2⟩⟩, .completed ⟨1, {}⟩,
      .failed 2 "WIRE_CONNECTION_CLOSED" "connection closed by peer",
      .completed ⟨3, ⟨⟨3000000000, by decide⟩, 1⟩⟩]
    ∃ aggregate records, Aggregate.ofOutcomes outcomes .zero = .ok aggregate ∧
      outcomes.mapM Outcome.record = .ok records ∧ Agreed outcomes records aggregate ∧
      aggregate.reporting = 2 := by
  intro outcomes
  have hmeasurable : Measurable outcomes :=
    ⟨[⟨1000000000, by decide⟩, ⟨3000000000, by decide⟩], some ⟨2000000000, by decide⟩,
      by decide +kernel, by decide +kernel⟩
  obtain ⟨aggregate, records, haggregate, hrecords, hagreed, -⟩ :=
    ofOutcomes_agreed .zero hmeasurable (by decide)
  exact ⟨aggregate, records, haggregate, hrecords, hagreed, hagreed.reporting_outcomes⟩

end PolicyReplay.Run
