import Zkdeal.OwnerSoak.AdmissionReceipts

/-!
# Admissions

`ensure_admission` pays a deposit on L1, signs a transaction for L2, and asks the coordinator for the admission of
the transaction against the deposit.  What it has prepared is in the state before it is sent.
-/

namespace Zkdeal.OwnerSoak

open Python Json Soak Interaction Stateful

/-! ## The L1 node -/

/-- The body of a JSON-RPC call. -/
def l1Body (method : String) (params : List Json) : Json :=
  .obj [("jsonrpc", .str "2.0"), ("id", .int 1), ("method", .str method), ("params", .arr params)]

/-- The request of `l1_rpc(method, params)`. -/
def l1Request (method : String) (params : List Json) : Request :=
  ⟨"rpc_a", "POST", "/", some (l1Body method params), none, [], "L1 " ++ method⟩

/-- `hex_int(value, field)` -/
def hexInt (value : Json) (field : String) : Except Raised ℤ :=
  let refused := .error (.driverError (field ++ " is not a 0x quantity"))
  match value with
  | .str text =>
    match text.toList with
    | '0' :: 'x' :: c :: cs => if (c :: cs).all isHex then .ok (hexValue (c :: cs)) else refused
    | _ => refused
  | _ => refused

/-- `function_selector(signature)` -/
def functionSelector (signature : String) : Bytes := (keccak256 (encodeUtf8 signature)).take 4

/-- `event_topic(signature)` -/
def eventTopic (signature : String) : String := hexText (keccak256 (encodeUtf8 signature))

/-- `QUEUE_DEPOSIT_SIGNATURE` -/
def queueDepositSignature : String := "queueDeposit(uint64,address,uint256,address)"

/-- `DEPOSIT_QUEUED_SIGNATURE` -/
def depositQueuedSignature : String := "DepositQueued(uint64,uint64,address,address,uint256)"

/-- `ROOM_STATE_SIGNATURE` -/
def roomStateSignature : String := "roomState(uint64)"

/-- `ROOM_STATE_WORDS` -/
def roomStateWords : List (String × ℕ) := [("state", 0), ("authorizationMode", 1), ("batchIndex", 18), ("inboxCursor", 22),
  ("nextInboxId", 23), ("admissionCursor", 24), ("minimumDepositConfirmations", 31), ("maximumAdmissionWindow", 35),
  ("bondEpoch", 36), ("admissionSigner", 37), ("minimumServiceBond", 38), ("omissionPenalty", 39), ("serviceBond", 40)]

/-- `blob[index * 32:(index + 1) * 32]` -/
def roomStateWord (blob : Bytes) (index : ℕ) : Bytes := (blob.drop (index * 32)).take 32

/-- `value[name]` -/
def roomStateValue (blob : Bytes) (word : String × ℕ) : String × Json :=
  if word.1 = "admissionSigner" then (word.1, .str (hexText ((roomStateWord blob word.2).drop 12)))
  else (word.1, .int (fromBig (roomStateWord blob word.2)))

/-- `BENIGN_BROADCAST_ERRORS` -/
def benignBroadcastErrors : List String :=
  ["already known", "already imported", "known transaction", "nonce too low", "transaction already exists"]

/-- `part in text` -/
def occursIn (part text : String) : Bool := decide (part.toList <:+: text.toList)

/-- `value if isinstance(value, dict) else {}` -/
def dictOf : Json → Dict
  | .obj d => d
  | _ => []

/-- `{**d, **fields}` -/
def updated (d fields : Dict) : Dict := fields.foldl (fun d field => d.set field.1 field.2) d

/-- `ZERO_ADDRESS` -/
def zeroAddress : String := "0x0000000000000000000000000000000000000000"

/-- `deposit_content_hash(depositor, beneficiary, asset, amount)` -/
def depositContentHash (depositor beneficiary asset : String) (amount : ℤ) : Except Raised String := do
  let depositor ← abiAddress (.str depositor)
  let beneficiary ← abiAddress (.str beneficiary)
  let asset ← abiAddress (.str asset)
  let amount ← abiUint amount
  return hexText (keccak256 (depositor ++ beneficiary ++ asset ++ amount))

/-! ## The stack -/

/-- What the admissions are configured with. -/
structure Workload where
  texts : Texts
  wording : Wording
  stack : Stack
  /-- `depositor_key()` -/
  depositorKey : Except Raised PrivateKey
  depositAsset : String
  depositAmount : ℤ
  depositGasLimit : ℤ
  l2GasLimit : ℤ
  l2ChainId : ℤ
  admissionFee : ℤ
  minimumDeadlineLead : ℤ
  admissionDeadlineLead : ℤ
  admissionBatchMargin : ℤ
  admissionAuth : String

namespace Workload

variable (wl : Workload)

/-- `depositor_address()` -/
def depositorAddress : Except Raised String := wl.depositorKey >>= privateKeyAddress

/-- `str(value)` -/
def text (value : Json) : String := textOf wl.texts value

/-- `str(value).lower()` -/
def lowered (value : Json) : String := lowerText wl.wording (wl.text value)

/-- What `l1_rpc` makes of a body. -/
def l1Answer (method : String) (tolerateError : Bool) : Option Json → Except Raised Json
  | some (.obj d) => do
    raiseIf ((item d "jsonrpc").eq (.str "2.0") = false)
      (Raised.driverError ("L1 JSON-RPC " ++ method ++ " response is not a JSON-RPC object"))
    match item d "error" with
    | .null => return item d "result"
    | error =>
      if tolerateError then return .obj [("error", error)]
      else throw (.driverError ("L1 JSON-RPC " ++ method ++ " failed: " ++ wl.text error))
  | _ => .error (.driverError ("L1 JSON-RPC " ++ method ++ " response is not a JSON-RPC object"))

/-- `l1_rpc(method, params, tolerate_error=tolerate_error)` -/
def l1Rpc (method : String) (params : List Json) (tolerateError : Bool) : Driver Json := do
  let (_, body, _) ← request wl.texts (l1Request method params) [200] 30 1
  liftExcept (wl.l1Answer method tolerateError body)

/-- `l1_block_number()` -/
def l1BlockNumber : Driver ℤ := do
  let answer ← wl.l1Rpc "eth_blockNumber" [] false
  liftExcept (hexInt answer "eth_blockNumber result")

/-- The turns that are left of `l1_receipt(transaction_hash)`. -/
def l1Receipt (transactionHash : String) : ℕ → Driver Dict
  | 0 => throw (.driverError ("L1 transaction " ++ transactionHash ++ " was never mined"))
  | left + 1 => do
    let receipt ← wl.l1Rpc "eth_getTransactionReceipt" [.str transactionHash] false
    match receipt with
    | .obj d =>
      match item d "blockNumber" with
      | .null =>
        perform (Op.sleep 1)
        l1Receipt transactionHash left
      | _ => return d
    | .null =>
      perform (Op.sleep 1)
      l1Receipt transactionHash left
    | _ => throw (.driverError ("L1 receipt for " ++ transactionHash ++ " is not an object"))

/-- `room_chain_state(room_id)`; the text of an address in it always matches `HEX20`. -/
def roomChainState (roomId : String) : Driver Dict := do
  let id ← liftExcept (requireInt (.str roomId) "roomId" 0)
  let word ← liftExcept (abiUint id)
  let roomManager ← liftExcept (wl.stack.address wl.wording "roomManager")
  let answer ← wl.l1Rpc "eth_call" [.obj [("to", .str roomManager),
    ("data", .str (hexText (functionSelector roomStateSignature ++ word)))], .str "latest"] false
  let blob ← liftExcept (hexBytes answer ("roomState(" ++ roomId ++ ") return data"))
  raiseIf (blob.length < 44 * 32) (Raised.driverError ("roomState(" ++ roomId ++ ") returned " ++ toString blob.length ++
    " bytes, expected at least 1408 for the IRoomManager.Room tuple"))
  let state := fromBig (roomStateWord blob 0)
  raiseIf (state ≠ 1) (Raised.driverError ("room " ++ roomId ++ " is not Open on the RoomManager (roomState.state=" ++
    toString state ++ ")"))
  raiseIf (fromBig (roomStateWord blob 1) ≠ 1) (Raised.driverError ("room " ++ roomId ++
    " is not VALIDITY_ONLY, so this coordinator cannot admit for it"))
  raiseIf (fromBig ((roomStateWord blob 37).drop 12) = 0)
    (Raised.driverError ("room " ++ roomId ++ " has no on-chain admission signer"))
  return roomStateWords.map (roomStateValue blob)

/-! ## Deposits -/

/-- A `DepositQueued` log. -/
structure DepositQueued where
  depositInboxId : ℤ
  beneficiary : String
  asset : String
  amount : ℤ

/-- One log of `decode_deposit_queued`; `none` goes on to the next one. -/
def decodeLog (roomId roomManager : String) : Json → Except Raised (Option DepositQueued)
  | .obj entry =>
    if wl.lowered ((Dict.get entry "address").getD (.str "")) ≠ roomManager then .ok none
    else
      match item entry "topics" with
      | .arr [topic, room, inbox, beneficiary] => do
        if wl.lowered topic ≠ eventTopic depositQueuedSignature then return none
        else
          let logged ← hexInt room "DepositQueued roomId topic"
          let wanted ← requireInt (.str roomId) "roomId" 0
          if logged ≠ wanted then return none
          else
            let data ← hexBytes (item entry "data") "DepositQueued data"
            raiseIf (data.length ≠ 64)
              (Raised.driverError "DepositQueued data is not exactly (address asset, uint256 amount)")
            let depositInboxId ← hexInt inbox "DepositQueued inboxId topic"
            let digits ← stripHex beneficiary "DepositQueued beneficiary topic"
            return some ⟨depositInboxId, "0x" ++ .ofList (digits.drop (digits.length - 40)), hexText ((data.drop 12).take 20),
              fromBig (data.drop 32)⟩
      | _ => .ok none
  | _ => .ok none

/-- The logs that are left of `decode_deposit_queued`. -/
def decodeLogs (roomId roomManager : String) : List Json → Except Raised DepositQueued
  | [] => .error (.driverError ("room " ++ roomId ++ " L1 deposit receipt carries no DepositQueued(" ++
      eventTopic depositQueuedSignature ++ ") log from " ++ roomManager))
  | log :: logs => do
    match ← wl.decodeLog roomId roomManager log with
    | some entry => return entry
    | none => decodeLogs roomId roomManager logs

/-- `decode_deposit_queued(room_id, receipt)` -/
def decodeDepositQueued (roomId : String) (receipt : Dict) : Except Raised DepositQueued := do
  let roomManager ← wl.stack.address wl.wording "roomManager"
  match item receipt "logs" with
  | .arr logs => wl.decodeLogs roomId roomManager logs
  | _ => .error (.driverError "L1 deposit receipt carries no log list")

/-- The turns that are left of `await_confirmations(block_number, minimum, label)`. -/
def awaitConfirmations (blockNumber minimum : ℤ) (label : String) : ℕ → ℤ → Driver ℤ
  | 0, head => do
    let reached ← liftExcept (strOfInt head)
    let queued ← liftExcept (strOfInt blockNumber)
    throw (.driverError (label ++ " never reached its " ++ toString minimum ++ "-block confirmation depth (head " ++ reached ++
      ", queued at " ++ queued ++ ")"))
  | left + 1, head => do
    if blockNumber ≤ head ∧ minimum ≤ head - blockNumber then return head
    else
      perform (Op.sleep 1)
      let head ← wl.l1BlockNumber
      awaitConfirmations blockNumber minimum label left head

/-- The record that `fund_and_deposit` prepares; a state with a number that Python cannot print is not saved. -/
def prepareDeposit (key : PrivateKey) (depositor roomId : String) : Driver Dict := do
  let count ← wl.l1Rpc "eth_getTransactionCount" [.str depositor, .str "pending"] false
  let nonce ← liftExcept (hexInt count "eth_getTransactionCount result")
  let price ← wl.l1Rpc "eth_gasPrice" [] false
  let price ← liftExcept (hexInt price "eth_gasPrice result")
  let id ← liftExcept (requireInt (.str roomId) "roomId" 0 >>= abiUint)
  let asset ← liftExcept (abiAddress (.str wl.depositAsset))
  let amount ← liftExcept (abiUint wl.depositAmount)
  let beneficiary ← liftExcept (abiAddress (.str depositor))
  let roomManager ← liftExcept (wl.stack.address wl.wording "roomManager")
  let (raw, transactionHash) ← liftExcept (signLegacyTransaction {
    nonce, gasPrice := max (price * 2) (10 ^ 9), gasLimit := wl.depositGasLimit, toAddress := .str roomManager
    value := if wl.depositAsset = zeroAddress then wl.depositAmount else 0
    data := functionSelector queueDepositSignature ++ id ++ asset ++ amount ++ beneficiary, chainId := wl.stack.chainId } key)
  let requestedAmount ← liftExcept (strOfInt wl.depositAmount)
  raiseIf (printable (.int nonce) = false) Raised.valueError
  return [("roomId", .str roomId), ("nonce", .int nonce), ("rawTransaction", .str raw), ("transactionHash", .str transactionHash),
    ("depositor", .str depositor), ("beneficiary", .str depositor), ("asset", .str wl.depositAsset),
    ("requestedAmount", .str requestedAmount)]

/-- The checks of the answer to a broadcast. -/
def checkBroadcast (roomId transactionHash : String) : Json → Except Raised Unit
  | .obj d =>
    match Dict.get d "error" with
    | some error =>
      raiseIf (benignBroadcastErrors.any (occursIn · (wl.lowered error)) = false)
        (Raised.driverError ("room " ++ roomId ++ " L1 deposit broadcast was rejected by eth_sendRawTransaction: " ++
          wl.text error))
    | none => .ok ()
  | .str answer =>
    raiseIf (lowerText wl.wording answer ≠ transactionHash) (Raised.driverError ("room " ++ roomId ++
      " L1 deposit broadcast returned " ++ answer ++ ", not the signed hash " ++ transactionHash))
  | _ => .ok ()

/-- `fund_and_deposit(...)`, from the answer to the broadcast on. -/
def queuedDeposit (roomId : String) (roomState record : Dict) (transactionHash : String) (answer : Json) : Driver Dict := do
  liftExcept (wl.checkBroadcast roomId transactionHash answer)
  let receipt ← wl.l1Receipt transactionHash 180
  raiseIf (wl.lowered ((receipt.get "status").getD (.str "")) ≠ "0x1") (Raised.driverError ("room " ++ roomId ++ " L1 deposit " ++
    transactionHash ++ " reverted (status " ++ wl.text (item receipt "status") ++ "); the room cannot escrow this asset"))
  let entry ← liftExcept (wl.decodeDepositQueued roomId receipt)
  let beneficiary ← liftExcept (required record "beneficiary")
  raiseIf (entry.beneficiary ≠ wl.lowered beneficiary) (Raised.driverError ("room " ++ roomId ++
    " DepositQueued names beneficiary " ++ entry.beneficiary ++ ", not the admission sender " ++ wl.text beneficiary))
  let queuedAt ← liftExcept (hexInt (item receipt "blockNumber") "L1 receipt blockNumber")
  let minimum ← liftExcept (required roomState "minimumDepositConfirmations" >>= (requireInt · "minimumDepositConfirmations" 0))
  let depositInboxId ← liftExcept (strOfInt entry.depositInboxId)
  let head ← wl.l1BlockNumber
  let _ ← wl.awaitConfirmations queuedAt minimum ("room " ++ roomId ++ " deposit " ++ depositInboxId) 600 head
  let queuedAtBlock ← liftExcept (strOfInt queuedAt)
  let depositor ← liftExcept (required record "depositor")
  let contentHash ← liftExcept (depositContentHash (wl.text depositor) entry.beneficiary entry.asset entry.amount)
  return updated record [("depositInboxId", .str depositInboxId), ("asset", .str entry.asset),
    ("amount", .str (toString entry.amount)), ("beneficiary", .str entry.beneficiary), ("queuedAtBlock", .str queuedAtBlock),
    ("depositContentHash", .str contentHash)]

/-- `fund_and_deposit(...)`, from the broadcast of the record on. -/
def broadcastDeposit (roomId : String) (roomState record : Dict) : Driver Dict := do
  let hash ← liftExcept (required record "transactionHash")
  let raw ← liftExcept (required record "rawTransaction")
  let answer ← wl.l1Rpc "eth_sendRawTransaction" [raw] true
  wl.queuedDeposit roomId roomState record (wl.lowered hash) answer

/-- `fund_and_deposit(room_id, room_state, prepared, on_prepared)` -/
def fundAndDeposit (roomId : String) (roomState prepared : Dict) (onPrepared : Dict → Driver Unit) : Driver Dict := do
  let key ← liftExcept wl.depositorKey
  let depositor ← liftExcept wl.depositorAddress
  if (item prepared "rawTransaction").truthy then wl.broadcastDeposit roomId roomState prepared
  else
    let record ← wl.prepareDeposit key depositor roomId
    onPrepared record
    wl.broadcastDeposit roomId roomState record

/-! ## Admission requests -/

/-- `build_admission_request(room_id, deposit, room_state, l2_nonce)` -/
def buildAdmissionRequest (roomId : String) (deposit roomState : Dict) (l2Nonce : ℤ) : Driver Dict := do
  let window ← liftExcept (required roomState "maximumAdmissionWindow" >>= (requireInt · "roomState.maximumAdmissionWindow" 1))
  raiseIf (window < wl.minimumDeadlineLead) (Raised.driverError ("room " ++ roomId ++ " maximumAdmissionWindow " ++
    toString window ++ " is below the coordinator minimum deadline lead " ++ toString wl.minimumDeadlineLead ++
    "; no deadline can satisfy both bounds"))
  let lead := min window (max wl.admissionDeadlineLead (wl.minimumDeadlineLead + 1))
  let head ← wl.l1BlockNumber
  let depositor ← liftExcept wl.depositorAddress
  let key ← liftExcept wl.depositorKey
  let (raw, transactionHash) ← liftExcept (signLegacyTransaction {
    nonce := l2Nonce, gasPrice := 10 ^ 9, gasLimit := wl.l2GasLimit, toAddress := .str depositor, value := 0, data := []
    chainId := wl.l2ChainId } key)
  let depositInboxId ← liftExcept (required deposit "depositInboxId")
  let deadlineBlock ← liftExcept (strOfInt (head + lead))
  let batchIndex ← liftExcept (required roomState "batchIndex" >>= (requireInt · "roomState.batchIndex" 0))
  let maximumBatchIndex ← liftExcept (strOfInt (batchIndex + wl.admissionBatchMargin))
  let admissionFee ← liftExcept (strOfInt wl.admissionFee)
  let headBlock ← liftExcept (strOfInt head)
  return [("rawSignedTransaction", .str raw), ("depositInboxId", .str (wl.text depositInboxId)),
    ("deadlineBlock", .str deadlineBlock), ("maximumBatchIndex", .str maximumBatchIndex), ("admissionFee", .str admissionFee),
    ("transactionHash", .str transactionHash), ("l2Nonce", .int l2Nonce), ("headBlock", .str headBlock)]

/-- `path` -/
def admissionPath (roomId : String) : String := "/rooms/" ++ quote roomId ++ "/transactions"

/-- `body` -/
def admissionBody (depositInboxId : String) (request : Dict) : Except Raised Json := do
  let raw ← required request "rawSignedTransaction"
  let deadlineBlock ← required request "deadlineBlock"
  let maximumBatchIndex ← required request "maximumBatchIndex"
  let admissionFee ← required request "admissionFee"
  return .obj [("rawSignedTransaction", raw), ("depositInboxId", .str depositInboxId),
    ("deadlineBlock", .str (wl.text deadlineBlock)), ("maximumBatchIndex", .str (wl.text maximumBatchIndex)),
    ("admissionFee", .str (wl.text admissionFee))]

/-- The request for an admission. -/
def admissionPost (roomId correlation : String) (body : Json) : Request :=
  ⟨"coordinator", "POST", admissionPath roomId, some body, some wl.admissionAuth, [("x-correlation-id", correlation)], ""⟩

/-- `answer.get(name) if isinstance(answer, dict) else None` -/
def answered (answer : Option Json) (name : String) : Json :=
  match answer with
  | some (.obj d) => item d name
  | _ => .null

/-- The turns that are left of the loop of `submit_admission`. -/
def submitLoop (roomId correlation : String) (body : Json) : ℕ → Driver (Option Json)
  | 0 => return none
  | left + 1 => do
    let (status, answer, _) ← request wl.texts (wl.admissionPost roomId correlation body) [200, 400, 401, 404, 429, 503] 1 1
    if status = 200 then return answer
    else if (status = 429 ∨ status = 503) ∧ 0 < left then
      perform (Op.sleep 1)
      submitLoop roomId correlation body left
    else throw (.driverError ("room " ++ roomId ++ " admission was refused at POST " ++ admissionPath roomId ++ ": HTTP " ++
      toString status ++ " " ++ wl.text (answered answer "decision") ++ " " ++ wl.text (answered answer "reason")))

/-- `submit_admission(...)` -/
def submitAdmission (roomId depositInboxId : String) (request deposit roomState : Dict) (correlation : String) :
    Driver Dict := do
  raiseIf (wl.text (item request "depositInboxId") ≠ depositInboxId)
    (Raised.driverError "admission request does not name the deposit it was built for")
  let body ← liftExcept (wl.admissionBody depositInboxId request)
  let answer ← wl.submitLoop roomId correlation body 30
  raiseIf ((answered answer "decision").eq (.str "LOCALLY_ADMITTED") = false)
    (Raised.driverError ("room " ++ roomId ++ " admission response is not a LOCALLY_ADMITTED decision"))
  match answered answer "receipt" with
  | .obj receipt =>
    liftExcept (wl.stack.validateAdmissionReceipt wl.texts wl.wording roomId request deposit roomState receipt)
  | _ => throw (.driverError ("room " ++ roomId ++ " admission response carries no receipt object"))

end Workload

/-! ## Submit events -/

/-- The fields of a `submit` event. -/
structure Submission where
  roomId : String
  admissionId : String
  txHash : String
  depositInboxId : String
  depositContentHash : String
  deadlineBlock : String
  maximumBatchIndex : String
  admissionFee : String
  admissionSigner : String
  cursor : ℤ
  step : String

namespace Submission

/-- The fields, as `emit_once` is given them. -/
def items (e : Submission) : Dict := [
  ("roomId", .str e.roomId), ("admissionId", .str e.admissionId), ("txHash", .str e.txHash),
  ("depositInboxId", .str e.depositInboxId), ("depositContentHash", .str e.depositContentHash),
  ("deadlineBlock", .str e.deadlineBlock), ("maximumBatchIndex", .str e.maximumBatchIndex),
  ("admissionFee", .str e.admissionFee), ("admissionSigner", .str e.admissionSigner), ("cursor", .int e.cursor),
  ("step", .str e.step)]

theorem items_keys (e : Submission) : e.items.map Prod.fst = ["roomId", "admissionId", "txHash", "depositInboxId",
    "depositContentHash", "deadlineBlock", "maximumBatchIndex", "admissionFee", "admissionSigner", "cursor", "step"] := rfl

/-- `emit_once(event_id, "submit", ...)` -/
def call (eventId : String) (e : Submission) : Call :=
  .emitOnce eventId "submit" (by decide) ⟨e.items, by
    rw [simple, items_keys]
    simp [items, simpleFields, simple], by
    rw [items_keys]
    decide⟩

end Submission

namespace Workload

variable (wl : Workload)

/-- The event of an admission, with the cursor of the indexer. -/
def submission (record status : Dict) (step : String) : Except Raised Submission := do
  let roomId ← required record "roomId"
  let admissionId ← required record "admissionId"
  let transactionHash ← required record "transactionHash"
  let depositInboxId ← required record "depositInboxId"
  let depositContentHash ← required record "depositContentHash"
  let deadlineBlock ← required record "deadlineBlock"
  let maximumBatchIndex ← required record "maximumBatchIndex"
  let admissionFee ← required record "admissionFee"
  let admissionSigner ← required record "admissionSigner"
  let cursor ← requireInt (item status "cursor") "indexer cursor" 0
  return {
    roomId := wl.text roomId, admissionId := wl.text admissionId, txHash := wl.text transactionHash
    depositInboxId := wl.text depositInboxId, depositContentHash := wl.text depositContentHash
    deadlineBlock := wl.text deadlineBlock, maximumBatchIndex := wl.text maximumBatchIndex
    admissionFee := wl.text admissionFee, admissionSigner := wl.text admissionSigner, cursor, step }

/-- `emit_admission_submit(step, record)` -/
def emitAdmissionSubmit (step : String) (record : Dict) : Driver Unit := do
  let roomId ← liftExcept (required record "roomId")
  let admissionId ← liftExcept (required record "admissionId")
  let eventId := "submit-admission:" ++ wl.text roomId ++ ":" ++ wl.text admissionId
  let w ← get
  if eventId ∈ w.journal.eventIds then return ()
  else
    let status ← indexerStatus wl.texts 10
    let submission ← liftExcept (wl.submission record status step)
    let _ ← OwnerSoak.record (submission.call eventId)

/-! ## The workload -/

/-- `state_key` -/
def stateKey (step roomId : String) (index : ℕ) : String := "admission:" ++ step ++ ":" ++ roomId ++ ":" ++ toString index

/-- `next_l2_nonce()` -/
def nextL2Nonce : Driver ℤ := do
  let w ← get
  let value ← liftExcept (requireInt ((w.state.data.get "l2TransactionNonce").getD (.int 0)) "l2TransactionNonce" 0)
  update fun s => s.put "l2TransactionNonce" (.int (value + 1))
  return value

/-- `self.state.put(state_key, record)` -/
def keep (key : String) (record : Dict) : Driver Unit := update fun s => s.put key (.obj record)

/-- `ensure_deposit(state_key, record, room_id, room_state)`, with the record that it leaves. -/
def ensureDeposit (key : String) (record : Dict) (roomId : String) (roomState : Dict) : Driver (Dict × Dict) := do
  let stored := dictOf (item record "deposit")
  if (item stored "depositInboxId").truthy then return (stored, record)
  else
    let deposit ← wl.fundAndDeposit roomId roomState stored fun prepared => keep key (record.set "deposit" (.obj prepared))
    keep key (record.set "deposit" (.obj deposit))
    return (deposit, record.set "deposit" (.obj deposit))

/-- The request of a record, or a new one, with the record that it leaves. -/
def ensureRequest (key : String) (record : Dict) (roomId : String) (deposit roomState : Dict) : Driver (Dict × Dict) :=
  match item record "request" with
  | .obj request => return (request, record)
  | _ => do
    let l2Nonce ← nextL2Nonce
    let request ← wl.buildAdmissionRequest roomId deposit roomState l2Nonce
    keep key (record.set "request" (.obj request))
    return (request, record.set "request" (.obj request))

/-- `record.pop(key, None)` -/
def popped (record : Dict) (key : String) : Dict := record.filter fun field => field.1 ≠ key

/-- The turns that are left of the loop of `ensure_admission`. -/
def admissionTurns (step roomId correlation key : String) : ℕ → Dict → Driver Dict
  | 0, _ => throw (.driverError ("room " ++ roomId ++ " admission " ++ key ++ " was never issued"))
  | left + 1, record => do
    let roomState ← wl.roomChainState roomId
    let (deposit, record) ← wl.ensureDeposit key record roomId roomState
    let (request, record) ← wl.ensureRequest key record roomId deposit roomState
    let depositInboxId ← liftExcept (required deposit "depositInboxId")
    let submitted ← catching (wl.submitAdmission roomId (wl.text depositInboxId) request deposit roomState correlation)
    match submitted with
    | .ok receipt =>
      let record := (updated record receipt).set "step" (.str step)
      keep key record
      wl.emitAdmissionSubmit step record
      return record
    | .error (.driverError message) =>
      if left = 0 ∨ occursIn "admission was refused" message = false then throw (.driverError message)
      else
        let record := popped (popped record "request") "deposit"
        keep key record
        admissionTurns step roomId correlation key left record
    | .error e => throw e

/-- `ensure_admission(step, room_id, index, correlation)` -/
def ensureAdmission (step roomId : String) (index : ℕ) (correlation : String) : Driver Dict := do
  let key := stateKey step roomId index
  let w ← get
  let record := dictOf ((w.state.data.get key).getD .null)
  if (item record "admissionId").truthy then
    wl.emitAdmissionSubmit step record
    return record
  else wl.admissionTurns step roomId correlation key 2 record

/-- `ensure_admissions(step, room_id, count, correlation)` -/
def ensureAdmissions (step roomId : String) (count : ℕ) (correlation : String) : Driver (List Dict) :=
  (List.range count).mapM fun index => wl.ensureAdmission step roomId index correlation

end Workload

end Zkdeal.OwnerSoak
