import Zkdeal.OwnerSoak.Disk
import Zkdeal.Python.Decimal
import Zkdeal.Soak.Verifier

/-!
# The charges of a run

`emit_charges` journals the entries of the billing ledger behind a cursor, and `assert_expected` compares
the journal with the whole ledger before the closure.
-/

namespace Zkdeal.OwnerSoak

open Python Json Soak Interaction Stateful

/-! ## Reading answers -/

/-- `0|[1-9][0-9]*` -/
def isDecimal : List Char → Bool
  | ['0'] => true
  | c :: cs => isDigit09 c && c != '0' && cs.all isDigit09
  | [] => false

/-- `require_int(value, field, minimum)` -/
def requireInt (value : Json) (field : String) (minimum : ℤ) : Except Raised ℤ :=
  let refused := .error (.driverError (field ++ " must be an integer >= " ++ toString minimum))
  match value with
  | .int n => if minimum ≤ n then .ok n else refused
  | .str s =>
    if isDecimal s.toList then
      match intOfStr s with
      | some n => if minimum ≤ n then .ok n else refused
      | none => .error .valueError
    else refused
  | _ => refused

/-- `require_str(value, field)` -/
def requireStr (value : Json) (field : String) : Except Raised String :=
  match value with
  | .str s =>
    if s ≠ "" ∧ s.length ≤ 512 then .ok s else .error (.driverError (field ++ " must be a nonempty bounded string"))
  | _ => .error (.driverError (field ++ " must be a nonempty bounded string"))

/-- `str(n)` of an integer -/
def strOfInt (n : ℤ) : Except Raised String :=
  if printable (.int n) then .ok (toString n) else .error .valueError

/-- `str(value)` -/
def strOf (texts : Texts) : Json → String
  | .str s => s
  | value => texts.str value

/-! ## The ledger -/

/-- An entry of the ledger, as the driver keeps it. -/
structure LedgerEntry where
  entryId : ℤ
  chargeId : String
  usageUnits : ℤ
  chargeWei : String

/-- The entry that an object of the answer stands for. -/
def ledgerEntry : Json → Except Raised LedgerEntry
  | .obj d => do
    let entryId ← requireInt (item d "entryId") "ledger entryId" 0
    let chargeId ← requireStr (item d "chargeId") "ledger chargeId"
    let usageUnits ← requireInt (item d "usageUnits") "ledger usageUnits" 0
    let chargeWei ← strOfInt (← requireInt (item d "chargeWei") "ledger chargeWei" 0)
    return ⟨entryId, chargeId, usageUnits, chargeWei⟩
  | _ => .error (.driverError "billing ledger entry is not an object")

/-- The request of `ledger_entries(after)`. -/
def ledgerRequest (after : ℤ) : Request where
  endpoint := "coordinator"
  method := "GET"
  path := "/hosting/v1/billing/ledger?after=" ++ toString after ++ "&limit=500"
  body := none
  auth := some "tenant_a"
  headers := []
  label := ""

/-- The entries of an answer, sorted. -/
def readLedger : Option Json → Except Raised (List LedgerEntry)
  | some (.obj d) =>
    match Dict.get d "entries" with
    | some (.arr items) => do return (← items.mapM ledgerEntry).insertionSort fun a b => a.entryId ≤ b.entryId
    | _ => .error (.driverError "billing ledger response omitted entries")
  | _ => .error (.driverError "billing ledger response omitted entries")

/-- `stack.ledger_entries(after)` -/
def ledgerEntries (texts : Texts) (after : ℤ) : Driver (List LedgerEntry) := do
  let (_, body, _) ← request texts (ledgerRequest after) [200] 30 1
  liftExcept (readLedger body)

/-! ## Charges -/

/-- The event of an entry. -/
def chargeCall (entry : LedgerEntry) (step : String) : Call :=
  .emitOnce ("charge:" ++ entry.chargeId) "charge" (by decide)
    ⟨[("chargeId", .str entry.chargeId), ("usageUnits", .int entry.usageUnits), ("chargeWei", .str entry.chargeWei),
        ("step", .str step)], rfl, show ∀ key ∈ ["seq", "kind", "eventId"], key ∉ ["chargeId", "usageUnits", "chargeWei",
          "step"] by decide⟩

/-- The loop of `emit_charges`. -/
def journalCharges (step : String) : List LedgerEntry → Driver Unit
  | [] => return ()
  | entry :: entries => do
    let _ ← record (chargeCall entry step)
    journalCharges step entries

/-- `max(entry["entryId"] for entry in entries)` -/
def maxEntryId (entry : LedgerEntry) (entries : List LedgerEntry) : ℤ :=
  entries.foldl (fun n e => max n e.entryId) entry.entryId

/-- What `emit_charges` returns. -/
structure StepCharges where
  charges : ℕ
  usageUnits : ℤ
  chargesWei : String

/-- The end of `emit_charges`, over the charges that the journal has for the step. -/
def summarize (step : String) (expectedCount : Option ℕ) : Driver StepCharges := do
  let w ← get
  let stepEvents := w.journal.events.filter fun event => isKind "charge" event && has event "step" (.str step)
  raiseIf (∃ count, expectedCount = some count ∧ stepEvents.length ≠ count) (Raised.driverError ("step " ++ step ++
    " journaled " ++ toString stepEvents.length ++ " ledger charges, expected " ++ toString (expectedCount.getD 0)))
  let usage ← liftExcept (total "usageUnits" stepEvents)
  let wei ← liftExcept (total "chargeWei" stepEvents)
  let chargesWei ← liftExcept (strOfInt wei)
  return ⟨stepEvents.length, usage, chargesWei⟩

/-- `workload.emit_charges(step, expected_count)` -/
def emitCharges (texts : Texts) (step : String) (expectedCount : Option ℕ) : Driver StepCharges := do
  let w ← get
  let entries ← ledgerEntries texts w.state.ledgerCursor
  journalCharges step entries
  match entries with
  | [] => summarize step expectedCount
  | entry :: entries =>
    update fun s => { s with ledgerCursor := maxEntryId entry entries }
    summarize step expectedCount

/-! ## Accounting -/

/-- What `journal_accounting` adds up. -/
structure JournalAccounting where
  nonces : List String
  chargeIds : List String
  usageUnits : ℤ
  chargesWei : ℤ

/-- One turn of the loop over the events. -/
def accountEvent (texts : Texts) (a : JournalAccounting) (event : Soak.Event) : Except Raised JournalAccounting := do
  let a := if isKind "tx-broadcast" event && (event.get "nonceId").isSome then
    { a with nonces := a.nonces ++ [strOf texts (item event "nonceId")] } else a
  if isKind "charge" event then
    let usage ← int (itemOr event "usageUnits" (.int 0))
    let wei ← int (itemOr event "chargeWei" (.int 0))
    return { a with
      chargeIds := a.chargeIds ++ [strOf texts (itemOr event "chargeId" (.str ""))]
      usageUnits := a.usageUnits + usage
      chargesWei := a.chargesWei + wei }
  else return a

/-- `journal_accounting(journal)` -/
def journalAccounting (texts : Texts) (events : List Soak.Event) : Except Raised JournalAccounting :=
  events.foldlM (accountEvent texts) ⟨[], [], 0, 0⟩

/-- `set(a) == set(b)` -/
def sameSet (a b : List String) : Bool := a.all b.contains && b.all a.contains

/-- `stack.indexer_status(attempts)` -/
def indexerStatus (texts : Texts) (attempts : ℕ) : Driver Dict := do
  let (_, body, _) ← request texts ⟨"indexer", "GET", "/hosting/v1/indexer/status", none, some "tenant_a", [], ""⟩ [200]
    attempts 1
  match body with
  | some (.obj d) => return d
  | _ => throw (.driverError "indexer status response is not an object")

/-- The turns that are left of `stack.fresh_indexer()`. -/
def freshIndexer (texts : Texts) : ℕ → Dict → Driver Dict
  | 0, last => throw (.driverError ("indexer did not recover freshness: " ++ texts.str (.obj last)))
  | left + 1, _ => do
    let last ← indexerStatus texts 3
    if isBool true (item last "indexerHeadMatchesL1") && (item last "unresolvedSafetyEvents").eq (.int 0) then return last
    else
      perform (Op.sleep 1)
      freshIndexer texts left last

/-- What `assert_expected` compares of the journal, the ledger and the manifest. -/
def checkAccounting (manifest : Dict) (accounting : JournalAccounting) (ledger : List LedgerEntry) :
    Except Raised Unit := do
  let wei ← ledger.mapM fun entry => int (.str entry.chargeWei)
  let ledgerUsage := (ledger.map (·.usageUnits)).sum
  let diverges := .error (.driverError ("journal charges (usage=" ++ toString accounting.usageUnits ++ ", wei=" ++
    toString accounting.chargesWei ++ ") diverge from the live ledger (usage=" ++ toString ledgerUsage ++ ", wei=" ++
    toString wei.sum ++ ")"))
  if !sameSet (ledger.map (·.chargeId)) accounting.chargeIds then
    .error (.driverError "journaled charge IDs diverge from the live ledger")
  else if ledgerUsage ≠ accounting.usageUnits ∨ wei.sum ≠ accounting.chargesWei then diverges
  else do
    let expected ← required manifest "expected"
    let expected ← (match expected with
      | .obj expected => .ok expected
      | _ => .error Raised.typeError)
    let expectedUsage ← int (← required expected "usageUnits")
    let expectedWei ← int (← required expected "chargesWei")
    if accounting.usageUnits ≠ expectedUsage ∨ accounting.chargesWei ≠ expectedWei then
      .error (.driverError ("observed usage/charges (usage=" ++ toString accounting.usageUnits ++ ", wei=" ++
        toString accounting.chargesWei ++ ") do not match the manifest expected (usage=" ++ toString expectedUsage ++
        ", wei=" ++ toString expectedWei ++ ")"))
    else .ok ()

/-- `assert_expected(manifest, journal, stack, state)` -/
def assertExpected (texts : Texts) (manifest : Dict) : Driver JournalAccounting := do
  let w ← get
  let accounting ← liftExcept (journalAccounting texts w.journal.events)
  raiseIf (¬accounting.nonces.Nodup) (Raised.driverError "duplicate transaction nonce detected before closure")
  raiseIf (¬accounting.chargeIds.Nodup) (Raised.driverError "duplicate charge detected before closure")
  let ledger ← ledgerEntries texts 0
  liftExcept (checkAccounting manifest accounting ledger)
  let status ← freshIndexer texts 120 []
  raiseIf ((item status "unresolvedSafetyEvents").eq (.int 0) = false)
    (Raised.driverError "unresolved safety events remain before closure")
  let w ← get
  raiseIf (w.state.resumeVerified = false)
    (Raised.driverError "restart resume was never verified; the release soak is not closable")
  return accounting

end Zkdeal.OwnerSoak
