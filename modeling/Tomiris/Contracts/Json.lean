import Tomiris.Contracts.Signals
import Tomiris.ForStd.Calendar

/-!
# Contracts as JSON

The bytes of `model_dump_json` of a task, and of the compact `json.dumps` of a signal that
`HubClient.send_signal` posts. How a float is written is a parameter.
-/

namespace Tomiris

namespace Json

/-- The UTF-8 bytes of a text. -/
def utf8 (text : List Char) : List UInt8 := text.flatMap String.utf8EncodeChar

/-- A character between quotes: the quote, the backslash and the controls are escaped. -/
def escape (c : Char) : List Char :=
  match c with
  | '"' => ['\\', '"']
  | '\\' => ['\\', '\\']
  | '\n' => ['\\', 'n']
  | '\r' => ['\\', 'r']
  | '\t' => ['\\', 't']
  | '\x08' => ['\\', 'b']
  | '\x0c' => ['\\', 'f']
  | c =>
    if c.toNat < 32 then
      ['\\', 'u', '0', '0', Nat.digitChar (c.toNat / 16), Nat.digitChar (c.toNat % 16)]
    else [c]

def string (s : String) : List Char := '"' :: s.toList.flatMap escape ++ ['"']

def array (items : List (List Char)) : List Char := '[' :: [','].intercalate items ++ [']']

def object (fields : List (String × List Char)) : List Char :=
  '\x7b' :: [','].intercalate (fields.map (fun field => string field.1 ++ ':' :: field.2)) ++
    ['\x7d']

def optional {α : Type} (json : α → List Char) : Option α → List Char
  | none => "null".toList
  | some a => json a

/-- `str(UUID)`, quoted. -/
def uuid (id : UUID) : List Char :=
  let digits := (Nat.toDigits 16 id).leftpad 32 '0'
  '"' :: ['-'].intercalate ([(0, 8), (8, 4), (12, 4), (16, 4), (20, 12)].map
    (fun part => (digits.drop part.1).take part.2)) ++ ['"']

/-- A UTC `datetime`, quoted. -/
def datetime (t : Int) : List Char := '"' :: (Calendar.isoformatZ t).toList ++ ['"']

def number (n : Nat) : List Char := Nat.toDigits 10 n

end Json

mutual

/-- A value that passed `validate_bounded_json`. -/
def PyValue.json (float : PyFloat → String) : PyValue → List Char
  | .none => "null".toList
  | .bool b => (if b then "true" else "false").toList
  | .int i => (toString i).toList
  | .float f => (float f).toList
  | .str s => Json.string s
  -- refused by `validate_bounded_json`
  | .bytes _ => "null".toList
  | .mapping items => Json.object (jsonItems float items)
  | .sequence items => Json.array (jsonSequence float items)

/-- The items of a mapping with string keys. -/
def jsonItems (float : PyFloat → String) : List (PyValue × PyValue) → List (String × List Char)
  | [] => []
  | (.str key, value) :: rest => (key, value.json float) :: jsonItems float rest
  | _ :: rest => jsonItems float rest

def jsonSequence (float : PyFloat → String) : List PyValue → List (List Char)
  | [] => []
  | value :: rest => value.json float :: jsonSequence float rest

end

/-- `value` of a `Bias`. -/
def Bias.value : Bias → String
  | long => "LONG"
  | short => "SHORT"
  | neutral => "NEUTRAL"
  | abstain => "ABSTAIN"

open Json

/-- `request.model_dump_json().encode("utf-8")` -/
def AnalysisTaskRequest.json (float : PyFloat → String) (r : AnalysisTaskRequest) : List UInt8 :=
  utf8 (object
    [("protocol_version", string r.protocolVersion), ("task_id", uuid r.taskId),
      ("orchestration_run_id", uuid r.orchestrationRunId), ("snapshot_id", uuid r.snapshotId),
      ("agent_id", string r.agentId), ("asset", string r.asset),
      ("required_capability", string r.requiredCapability), ("priority", number r.priority),
      ("created_at", datetime r.createdAt), ("deadline", datetime r.deadline),
      ("correlation_id", uuid r.correlationId), ("causation_id", optional uuid r.causationId),
      ("context", r.context.json float)])

def EvidenceItem.json (float : PyFloat → String) (e : EvidenceItem) : List Char :=
  object
    [("evidence_type", string e.evidenceType), ("summary", string e.summary),
      ("source_type", string e.sourceType), ("source_id", string e.sourceId),
      ("provider", string e.provider), ("observed_at", datetime e.observedAt),
      ("source_timestamp", datetime e.sourceTimestamp),
      ("source_fingerprint", optional string e.sourceFingerprint),
      ("instrument", optional string e.instrument), ("timeframe", optional string e.timeframe),
      ("feature_name", optional string e.featureName),
      ("feature_version", optional string e.featureVersion),
      ("observation", optional string e.observation), ("metadata", e.metadata.json float)]

/-- `json.dumps(signal.model_dump(mode="json"), separators=(",", ":"), ensure_ascii=False)` -/
def SignalFields.json (float : PyFloat → String) (f : SignalFields) : List UInt8 :=
  utf8 (object
    [("protocol_version", string f.protocolVersion), ("message_id", uuid f.messageId),
      ("agent_id", string f.agentId), ("agent_run_id", uuid f.agentRunId),
      ("snapshot_id", uuid f.snapshotId), ("task_id", optional uuid f.taskId),
      ("orchestration_run_id", optional uuid f.orchestrationRunId),
      ("correlation_id", optional uuid f.correlationId),
      ("causation_id", optional uuid f.causationId), ("asset", string f.asset),
      ("bias", string f.bias.value), ("confidence", number f.confidence),
      ("impact", number f.impact), ("time_horizon", string f.timeHorizon),
      ("evidence", array (f.evidence.map (EvidenceItem.json float))),
      ("risk_flags", array (f.riskFlags.map string)), ("data_timestamp", datetime f.dataTimestamp),
      ("analysis_timestamp", datetime f.analysisTimestamp),
      ("signal_ttl_seconds", number f.signalTtlSeconds), ("role_id", optional string f.roleId),
      ("role_version", optional string f.roleVersion),
      ("config_version", optional string f.configVersion),
      ("feature_pipeline_version", optional string f.featurePipelineVersion),
      ("analysis_schema_version", optional string f.analysisSchemaVersion),
      ("data_provider", optional string f.dataProvider),
      ("data_as_of", optional datetime f.dataAsOf),
      ("confidence_model_version", optional string f.confidenceModelVersion),
      ("metadata", f.metadata.json float)])

end Tomiris
