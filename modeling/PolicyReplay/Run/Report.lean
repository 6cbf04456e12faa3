import PolicyReplay.Json.Printer
import PolicyReplay.Run.Execute

/-!
# Reports and summaries

A report is a JSON document that tells what a run was asked to do and what came of it. A summary
says the same in two lines. Latencies are seconds: shortest decimals in a report, fixed places in a
summary. A mean that overflows leaves a worker without a record.
-/

namespace PolicyReplay.Run

/-- A number that may be absent. -/
def optionalNumber : Option Duration → Json
  | some d => .ofFloat d.toSeconds
  | none => .null

/-- A text that may be absent. -/
def optionalText : Option String → Json
  | some s => .string s
  | none => .null

/-- The record of a configuration. -/
def Config.record (config : Config) : Json := .object [
  ("workload", .string config.workload),
  ("trace_dir", .string config.traceFolder),
  ("clients", .ofNat config.clients),
  ("value_size", .ofNat config.valueSize),
  ("policy", optionalText config.policy)]

/-- The record of an aggregate. -/
def Aggregate.record (aggregate : Aggregate) : Json := .object [
  ("mean_latency_secs", optionalNumber aggregate.mean),
  ("elapsed_secs", .ofFloat aggregate.elapsed.toSeconds),
  ("workers_reporting", .ofNat aggregate.reporting),
  ("workers_failed", .ofNat aggregate.failed),
  ("total_requests", .ofNat aggregate.requests)]

/-- The record of a worker. -/
def Outcome.record : Outcome → Except Duration.Overflow Json
  | completed report => do
    let mean ← report.latency.mean
    return .object ([
      ("worker_id", .ofNat report.worker),
      ("status", .string "completed"),
      ("requests", .ofNat report.latency.count)] ++
      (mean.map fun mean => ("mean_latency_secs", .ofFloat mean.toSeconds)).toList)
  | failed worker code reason =>
    .ok (.object [
      ("worker_id", .ofNat worker),
      ("status", .string "failed"),
      ("requests", .ofNat 0),
      ("error_code", .string code),
      ("error", .string reason)])

/-- The record of counters. -/
def countersRecord (c : Counters) : Json := .object [
  ("frames_sent", .ofNat c.framesSent.toNat),
  ("frames_received", .ofNat c.framesReceived.toNat),
  ("bytes_sent", .ofNat c.bytesSent.toNat),
  ("requests_completed", .ofNat c.requestsCompleted.toNat),
  ("worker_failures", .ofNat c.workerFailures.toNat),
  ("handshake_rejections", .ofNat c.handshakeRejections.toNat)]

/-- The report of a run. -/
def report (config : Config) (result : Result) : Except Duration.Overflow Json := do
  let workers ← result.outcomes.mapM Outcome.record
  return .object [
    ("run_id", .string result.runId),
    ("started_at", .string result.startedAt.text),
    ("endpoint", .string result.endpoint),
    ("config", config.record),
    ("load_commands", .ofNat result.loadCommands),
    ("run_commands", .ofNat result.runCommands),
    ("aggregate", result.aggregate.record),
    ("workers", .array workers),
    ("metrics", countersRecord result.counters)]

/-- The text of a report. -/
def reportText (config : Config) (result : Result) : Except Duration.Overflow String :=
  (report config result).map Json.pretty

/-- Write a report to a file. -/
def writeReport (files : Files) (path text : String) : Except Error Unit :=
  (files.write path (Text.encode text.toList)).mapError (.reportUnwritten path)

/-- Seconds with a fixed number of places. -/
def secondsText (places : Nat) (d : Duration) : String :=
  String.ofList ((Decimal.fixed? places d.toSeconds).getD [])

/-- What is said of a run in the end. -/
def Aggregate.summary (aggregate : Aggregate) : String :=
  let first := match aggregate.mean with
    | some mean => "Average Latency: " ++ secondsText 6 mean ++ " seconds\n"
    | none => "Did not gather latency statistics --- experiment failed.\n"
  first ++ "Elapsed time: " ++ secondsText 3 aggregate.elapsed ++ " seconds\n"

end PolicyReplay.Run
