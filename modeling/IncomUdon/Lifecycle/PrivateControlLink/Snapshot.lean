import IncomUdon.Lifecycle.PrivateControlLink.Diagnostics
import IncomUdon.Lifecycle.PrivateControlLink.Revocation
import IncomUdon.Lifecycle.PrivateControlLink.ServiceId
import IncomUdon.Python.Table

/-! Private Control Link: a Relay state snapshot comes in chunks. The responses to one request are
    collected by chunk index, and the received indexes are then run over them:

        unseen index with a response ──▶ add its channels; apply when every chunk is seen
        any other index              ──▶ reject
        no more indexes              ──▶ discard

    This is the last part of the Private Control Link validator.

    HANDLED: the validator raises only what is caught exactly when every text it parses does. -/

namespace IncomUdon.Lifecycle
open IncomUdon.Python IncomUdon.Loader IncomUdon.Lib.ErrorLog

/-! ### Responses -/

/-- The valid messages that answer one snapshot request. -/
def snapshotResponses (messages : List Json) (requestId snapshotId : String) : List Dict :=
  (messagesOfType messages "relay_state_snapshot").filter fun message =>
    (Dict.get message "in_reply_to").eq (.str requestId) &&
      (Dict.get message "snapshot_id").eq (.str snapshotId)

/-- Store a response under its chunk index; a response that is reported is skipped. -/
def collectResponse (name : Msg) (chunkCount : ℕ) (responses : Table Dict) (message : Dict) :
    Check (Table Dict) := do
  let messageCount ← integer (Dict.get message "chunk_count") (name.add [" response chunk_count"]) 64
  let messageIndex ← integer (Dict.get message "chunk_index") (name.add [" response chunk_index"]) 63
  if messageCount ≠ chunkCount ∨ messageIndex ≥ chunkCount then
    skip ": response chunk metadata is inconsistent"
  else if messageIndex ∈ responses.keys then
    skip ": duplicate response chunk index in valid_messages"
  else return responses.put messageIndex message
where
  skip (problem : String) : Check (Table Dict) := do
    .append [name.add [problem]]
    return responses

/-! ### Assembly -/

/-- `actual_result`. -/
inductive SnapshotResult where
  | discardIncomplete | applyComplete | rejectInvalid
  deriving DecidableEq

/-- The text of a result. -/
def SnapshotResult.text : SnapshotResult → String
  | .discardIncomplete => "discard_incomplete_snapshot"
  | .applyComplete => "apply_complete_snapshot"
  | .rejectInvalid => "reject_invalid_snapshot"

/-- `complete_after`, `actual_result` and `channels` after the loop. -/
structure Assembly where
  completeAfter : Option ℕ
  result : SnapshotResult
  channels : List Json

/-- The loop over the received indexes, after `received` of them. -/
def receiveChunks (name : Msg) (chunkCount : ℕ) (responses : Table Dict) (seen : List ℕ)
    (channels : List Json) (received : ℕ) : List Json → Py Assembly
  | [] => return ⟨none, .discardIncomplete, channels⟩
  | rawIndex :: rest => do
    let index ← integer rawIndex (name.add [" received chunk index"]) 63
    if index ≥ chunkCount ∨ index ∈ seen ∨ index ∉ responses.keys then
      return ⟨none, .rejectInvalid, channels⟩
    else
      let response ← responses.get index
      let chunk ← asArray (Dict.get response "channels")
        (name.add [": response channels must be an array"])
      if (index :: seen).length = chunkCount then
        return ⟨some (received + 1), .applyComplete, channels ++ chunk⟩
      else
        receiveChunks name chunkCount responses (index :: seen) (channels ++ chunk) (received + 1) rest

/-- `channel_ids`. -/
def channelIds (name : Msg) (channels : List Json) : Py (List ℕ) :=
  channels.mapM fun channel => do
    let channel ← asObject channel (name.add [": snapshot channel must be an object"])
    integer (Dict.get channel "channel_id") (name.add [" channel_id"]) 0xFFFFFFFF

/-- One of `state_snapshot_cases`. -/
def stateSnapshotCase (messages : List Json) (case : Json) (index : ℕ) : Check Unit := do
  let label : Msg := ["Private Control Link state snapshot case ", .val (.int index)]
  let case ← asObject case (label.add [" must be an object"])
  let name := nameLabel case label
  let chunkCount ← integer (Dict.get case "chunk_count") (name.add [" chunk_count"]) 64
  let required :=
    name.add [": request_message_id, snapshot_id, and received_chunk_indexes are required"]
  let requestId ← asString (Dict.get case "request_message_id") required
  let snapshotId ← asString (Dict.get case "snapshot_id") required
  let receivedIndexes ← asArray (Dict.get case "received_chunk_indexes") required
  let responses ← (snapshotResponses messages requestId snapshotId).foldlM
    (collectResponse name chunkCount) []
  let assembly ← receiveChunks name chunkCount responses [] [] 0 receivedIndexes
  compare (name.add [" apply count"]) (Json.ofNat? assembly.completeAfter)
    (Dict.get case "expected_apply_after_received_count")
  compare (name.add [" result"]) (.str assembly.result.text) (Dict.get case "expected_result")
  let ids ← channelIds name assembly.channels
  compare (name.add [" channel IDs"]) (Json.ints ids.mergeSort) (Dict.get case "expected_channel_ids")

/-- `state_snapshot_cases`. -/
def checkStateSnapshots (document : Dict) (messages : List Json) : Check Unit := do
  let cases ← asArray (Dict.get document "state_snapshot_cases")
    ["Private Control Link state_snapshot_cases must be an array"]
  forM cases.zipIdx fun (case, index) => stateSnapshotCase messages case index

/-- `_validate_private_control_link`. -/
def validatePrivateControlLink (lib : Library) (root : Root) : Check Unit := do
  let document ← load root privateControlLinkPath
  checkFraming document
  let grantHash ← checkGrantHash lib root document
  let shared ← checkServiceId document grantHash
  checkCsvFiles lib root shared
  checkRevocations document
  checkDiagnostics document
  checkStateSnapshots document grantHash.messages

/-! ### What is not caught -/

/-- The texts that are parsed, the payload and then the CSV files, are handled. -/
def PrivateControlLinkHandled (lib : Library) (root : Root) (document : Dict) : Prop :=
  FramingReadable document →
  ∀ case, Dict.get document "grant_id_hash_cross_vector" = .obj case →
  ∀ service, root serviceAdmissionPath = .json (.obj service) →
  (∀ text, PayloadText service text → ThrowsOnly Caught (lib.loads text)) ∧
  (GrantHashReadable lib document case service → ServiceIdReadable document →
    ∀ csv, root relayCsvPath = .json (.obj csv) → ∀ files, Dict.get csv "valid" = .obj files →
      EachReached (CsvReadable lib files) (CsvHandled lib files) csvFilenames)

section Handled
variable {name : Msg} {chunkCount received index : ℕ} {responses : Table Dict}
  {message document : Dict}
  {seen : List ℕ} {messages channels rawIndexes : List Json} {value : Json} {lib : Library} {root : Root}

theorem collectResponse_caught :
    RaisesOnly Caught (collectResponse name chunkCount responses message) := by
  simp [collectResponse, collectResponse.skip]

theorem receiveChunks_caught : ThrowsOnly Caught
    (receiveChunks name chunkCount responses seen channels received rawIndexes) := by
  induction rawIndexes generalizing seen channels received with
  | nil => exact throwsOnly_pure _
  | cons rawIndex rest ih => simp [receiveChunks, ih]

theorem channelIds_caught : ThrowsOnly Caught (channelIds name channels) :=
  throwsOnly_mapM fun _ _ => by simp

theorem stateSnapshotCase_caught : RaisesOnly Caught (stateSnapshotCase messages value index) := by
  have hcollect : ∀ name chunkCount (responses : List Dict) table, RaisesOnly Caught
      (responses.foldlM (collectResponse name chunkCount) table) := fun _ _ _ _ =>
    raisesOnly_foldlM fun _ _ _ => collectResponse_caught
  simp [stateSnapshotCase, hcollect, receiveChunks_caught, channelIds_caught]

theorem checkStateSnapshots_caught : RaisesOnly Caught (checkStateSnapshots document messages) := by
  have hcases : ∀ cases : List Json, RaisesOnly Caught
      (forM cases.zipIdx fun (case, index) => stateSnapshotCase messages case index) := fun _ =>
    caught_forM_zipIdx fun _ _ => stateSnapshotCase_caught
  simp [checkStateSnapshots, hcases]

/-- The grant hash vector and its source are there when its check returns. -/
theorem objects_of_returns_checkGrantHash {grantHash : GrantHash}
    (h : Returns (checkGrantHash lib root document) grantHash) :
    (∃ case, Dict.get document "grant_id_hash_cross_vector" = .obj case) ∧
      ∃ service, root serviceAdmissionPath = .json (.obj service) := by
  simp only [checkGrantHash, Run.liftM_eq, returns_bind, returns_lift, asObject_eq_ok,
    load_eq_ok] at h
  obtain ⟨case, hcase, -, -, service, hservice, -⟩ := h
  exact ⟨⟨case, hcase⟩, service, hservice⟩

/-- The validator, as the checks that may raise something else than what is caught. -/
theorem raisesOnly_validatePrivateControlLink_iff :
    RaisesOnly Caught (validatePrivateControlLink lib root) ↔
      ∀ document, root privateControlLinkPath = .json (.obj document) →
        FramingReadable document → RaisesOnly Caught (checkGrantHash lib root document) ∧
          ∀ grantHash, Returns (checkGrantHash lib root document) grantHash →
          ∀ shared, Returns (checkServiceId document grantHash) shared →
            RaisesOnly Caught (checkCsvFiles lib root shared) := by
  simp [validatePrivateControlLink, checkFraming_caught, checkServiceId_caught,
    checkRevocations_caught, checkDiagnostics_caught, checkStateSnapshots_caught, forall_unit,
    returns_checkFraming]

/-- HANDLED: the Private Control Link validator raises only what is caught exactly when the texts it
    parses do. -/
theorem raisesOnly_validatePrivateControlLink :
    RaisesOnly Caught (validatePrivateControlLink lib root) ↔
      ∀ document, root privateControlLinkPath = .json (.obj document) →
        PrivateControlLinkHandled lib root document := by
  rw [raisesOnly_validatePrivateControlLink_iff]
  refine forall₂_congr fun document _ => forall_congr' fun _ => ?_
  rw [raisesOnly_checkGrantHash]
  constructor
  · rintro ⟨htext, hcsv⟩ case hcase service hservice
    refine ⟨htext case hcase service hservice, fun hgrant hserviceId => ?_⟩
    obtain ⟨grantHash, hreturns⟩ := (exists_returns_checkGrantHash hcase hservice).mpr hgrant
    obtain ⟨shared, hshared⟩ : ∃ shared, Returns (checkServiceId document grantHash) shared :=
      exists_returns_checkServiceId.mpr hserviceId
    exact raisesOnly_checkCsvFiles.mp (hcsv grantHash hreturns shared hshared)
  · intro h
    refine ⟨fun case hcase service hservice => (h case hcase service hservice).1, ?_⟩
    intro grantHash hreturns shared hshared
    obtain ⟨⟨case, hcase⟩, service, hservice⟩ := objects_of_returns_checkGrantHash hreturns
    have hgrant := (exists_returns_checkGrantHash hcase hservice).mp ⟨grantHash, hreturns⟩
    have hserviceId := exists_returns_checkServiceId.mp ⟨shared, hshared⟩
    exact raisesOnly_checkCsvFiles.mpr ((h case hcase service hservice).2 hgrant hserviceId)

end Handled

end IncomUdon.Lifecycle
