import Zkdeal.Chain.DevNode
import Zkdeal.FaultControl.Status
import Zkdeal.Interaction.Evaluation
import Zkdeal.Python.Hex
import Zkdeal.Python.JsonText

/-!
# Reorgs

The callback of the fault `l1-reorg`: `prepare` snapshots both providers and mines one branch on them, `replace`
reverts both and mines another one.  The two branches differ in the base fee of their first block only, which is a
constant and the last six digits of the operation id, so they differ unless the two sums are one
(`reorg_replacement_differs_iff`).
-/

namespace Zkdeal.FaultControl

open Interaction Raising Python Json Chain

/-! ## Providers -/

/-- `rpc-a` and `rpc-b` -/
inductive Side : Type where
  | a
  | b
  deriving DecidableEq

def Side.label : Side → String
  | .a => "rpc-a"
  | .b => "rpc-b"

/-- A method of the nodes' RPC, with its parameters. -/
inductive Method : Type where
  | snapshot
  | getBlockByNumber
  | setNextBlockBaseFeePerGas (fee : ℕ)
  | setNextBlockTimestamp (timestamp : ℕ)
  | mine
  | revert (snapshot : Json)

def Method.name : Method → String
  | .snapshot => "evm_snapshot"
  | .getBlockByNumber => "eth_getBlockByNumber"
  | .setNextBlockBaseFeePerGas _ => "anvil_setNextBlockBaseFeePerGas"
  | .setNextBlockTimestamp _ => "evm_setNextBlockTimestamp"
  | .mine => "evm_mine"
  | .revert _ => "evm_revert"

/-- What the callback of a fault does to the providers, and what it reads of the journal. -/
inductive ProviderOp : Type where
  | rpc (side : Side) (method : Method)
  | readClosure (operationId : String)

abbrev ProviderAnswer : ProviderOp → Type
  | .rpc _ _ => Except Raised Json
  | .readClosure _ => Except Raised Closure

abbrev Callback := Raising Raised ProviderOp ProviderAnswer

def controlFailed (message : String) : Raised := .control message 502 "RPC_CONTROL_FAILED"

/-- `rpc_json(base_url, method, params, ...)` -/
def rpcJson (side : Side) (method : Method) : Callback Json := attempt (ProviderOp.rpc side method) id

/-- `re.fullmatch(r"0x[0-9a-fA-F]{lo,hi}", s)` -/
def isHexText (lo hi : ℕ) (s : String) : Bool :=
  match s.toList with
  | '0' :: 'x' :: digits => between isHex lo hi digits
  | _ => false

/-- What `_block` checks of a block, and what is read of it: the hash and the timestamp. -/
def checkBlock (block : Json) : Except Raised (String × String) :=
  let omitted := .error (controlFailed "fixed RPC omitted the latest block hash or timestamp")
  match block with
  | .obj fields =>
    match item fields "hash", item fields "timestamp" with
    | .str hash, .str timestamp =>
      if isHexText 64 64 hash && isHexText 1 16 timestamp then .ok (hash, timestamp) else omitted
    | _, _ => omitted
  | _ => omitted

/-- `_block(base_url, request_id)` -/
def latestBlock (side : Side) : Callback (String × String) := do
  let block ← rpcJson side .getBlockByNumber
  liftExcept (checkBlock block)

/-- `s.lower()` of a hash -/
def lowerText (s : String) : String := .ofList (lower s.toList)

/-- `_block_hash(base_url, request_id)` -/
def blockHash (side : Side) : Callback String := do
  let (hash, _) ← latestBlock side
  return lowerText hash

/-- A call whose answer is not read. -/
def tell (side : Side) (method : Method) : Callback Unit := do
  let _ ← rpcJson side method

/-- A turn of the loop of `_mine`. -/
def mineBlock (side : Side) (startTimestamp : Option ℕ) (offset : ℕ) : Callback Unit := do
  match startTimestamp with
  | some start => tell side (.setNextBlockTimestamp (start + offset))
  | none => pure ()
  tell side .mine

/-- `_mine(base_url, blocks, base_fee, request_id, start_timestamp)` -/
def mineBlocks (side : Side) (blocks baseFee : ℕ) (startTimestamp : Option ℕ) : Callback Unit := do
  tell side (.setNextBlockBaseFeePerGas baseFee)
  forM (List.range blocks) (mineBlock side startTimestamp)

/-! ## The callback -/

/-- `int(operation_id[-6:], 16)` of an operation id -/
def lastDigits (operationId : String) : ℕ :=
  hexValue (operationId.toList.drop (operationId.toList.length - 6))

/-- `branch_fee` -/
def branchFee (operationId : String) : ℕ := 1000 + lastDigits operationId

/-- `replacement_fee` -/
def replacementFee (operationId : String) : ℕ := 2000000 + lastDigits operationId

/-- A snapshot id of at most 128 characters. -/
def checkSnapshot (side : Side) (snapshot : Json) : Callback Unit :=
  let refused := controlFailed ("fixed RPC " ++ side.label ++ " returned an invalid snapshot id")
  match snapshot with
  | .str id => raiseIf (128 < id.length) refused
  | _ => throw refused

/-- Return a provider to a snapshot of the prepared operation. -/
def revertTo (side : Side) (snapshot : Json) : Callback Unit := do
  match ← rpcJson side (.revert snapshot) with
  | .bool true => pure ()
  | _ => throw (controlFailed ("fixed RPC " ++ side.label ++ " did not revert the prepared branch"))

/-- `str(value)` -/
def strOf : Json → String
  | .str s => s
  | value => Json.repr value

namespace Controller

variable (c : Controller)

/-- `_prior_closure(operation_id, expected_action)` -/
def priorClosure (operationId expectedAction : String) : Callback Closure := do
  raiseIf (isOperationId operationId = false) (invalidRequest "preparedOperationId is malformed")
  let closure ← attempt (ProviderOp.readClosure operationId) id
  raiseIf (closure.action ≠ expectedAction ∨ closure.bindingDigest ≠ c.bindingDigest)
    (Raised.control "prepared operation belongs to another action or candidate" 409 "CANDIDATE_BINDING_MISMATCH")
  return closure

/-- `_reorg("prepare", depth, None, operation_id)` -/
def reorgPrepare (depth : ℕ) (operationId : String) : Callback (Dict × Dict) := do
  let snapshotA ← rpcJson .a .snapshot
  let snapshotB ← rpcJson .b .snapshot
  checkSnapshot .a snapshotA
  checkSnapshot .b snapshotB
  let (hashA, timestampA) ← latestBlock .a
  let (hashB, _) ← latestBlock .b
  raiseIf (lowerText hashA ≠ lowerText hashB)
    (Raised.control "RPC providers did not agree before the reorg branch" 409 "PRECONDITION_FAILED")
  let branchTimestamp := intOfHex timestampA + 1
  mineBlocks .a depth (branchFee operationId) (some branchTimestamp)
  mineBlocks .b depth (branchFee operationId) (some branchTimestamp)
  let previous ← blockHash .a
  let other ← blockHash .b
  raiseIf (previous ≠ other) (controlFailed "RPC providers diverged while mining the reorg branch")
  return ([("phase", .str "PREPARED"), ("depth", .int depth), ("previousBlockHash", .str previous),
      ("candidateId", .str c.binding.candidateId)],
    [("snapshotA", snapshotA), ("snapshotB", snapshotB), ("previousBlockHash", .str previous), ("depth", .int depth)])

/-- `_reorg("replace", depth, prepared, operation_id)` -/
def reorgReplace (depth : ℕ) (prepared operationId : String) : Callback (Dict × Dict) := do
  let closure ← c.priorClosure prepared "fault:l1-reorg"
  let stored := closure.privateResult
  raiseIf ((item stored "depth").eq (.int depth) = false)
    (Raised.control "prepared reorg depth differs" 409 "IDEMPOTENCY_CONFLICT")
  revertTo .a (item stored "snapshotA")
  revertTo .b (item stored "snapshotB")
  let (_, timestamp) ← latestBlock .a
  let replacementTimestamp := intOfHex timestamp + 1
  mineBlocks .a depth (replacementFee operationId) (some replacementTimestamp)
  mineBlocks .b depth (replacementFee operationId) (some replacementTimestamp)
  let canonical ← blockHash .a
  let previous ← match stored.get "previousBlockHash" with
    | some value => pure (strOf value)
    | none => throw Raised.other
  let other ← blockHash .b
  raiseIf (canonical ≠ other) (controlFailed "RPC providers did not converge on the replacement branch")
  raiseIf (canonical = previous) (controlFailed "reorg replacement did not change the canonical hash")
  return ([("phase", .str "REPLACED"), ("rollbackDepth", .int depth), ("previousBlockHash", .str previous),
    ("canonicalBlockHash", .str canonical), ("candidateId", .str c.binding.candidateId)], [])

/-- `_reorg(phase, depth, prepared, operation_id)` -/
def reorg (phase : String) (depth : ℕ) (prepared : Option String) (operationId : String) : Callback (Dict × Dict) :=
  if phase = "prepare" then c.reorgPrepare depth operationId
  else c.reorgReplace depth (prepared.getD "None") operationId

end Controller

/-! ## Healthy providers -/

abbrev Hash := BitVec 256

/-- How a hash is written. -/
def hashText (h : Hash) : String := "0x" ++ hex (toBig 32 h.toNat)

/-- The fields of a block that are read of the answer to `eth_getBlockByNumber`. -/
def blockJson (block : Block Hash) : Json :=
  .obj [("hash", .str (hashText block.hash)), ("timestamp", .str (hexOf block.timestamp))]

/-- The providers' nodes, and what `read_record` finds of the closures in the journal. -/
structure Providers where
  node : Side → Node Hash
  records : String → Except Raised Closure

def Providers.set (w : Providers) (side : Side) (n : Node Hash) : Providers :=
  { w with node := Function.update w.node side n }

section Healthy

variable (rules : Rules Hash) (names : Node Hash → String)

def failed (method : Method) : Raised := controlFailed ("fixed RPC method " ++ method.name ++ " failed")

/-- How a healthy node answers a call, and what it is afterwards; `names` are the ids it gives to snapshots. -/
def answerRpc (n : Node Hash) : Method → Except Raised Json × Node Hash
  | .snapshot => (.ok (.str (names n)), n.snapshot (names n))
  | .getBlockByNumber => (.ok (blockJson n.head), n)
  | .setNextBlockBaseFeePerGas fee => (.ok .null, { n with fee := some fee })
  | .setNextBlockTimestamp timestamp =>
    if n.head.timestamp < timestamp ∧ timestamp < 2 ^ 64 then (.ok .null, { n with timestamp := some timestamp })
    else (.error (failed (.setNextBlockTimestamp timestamp)), n)
  | .mine => (.ok (.str "0x0"), n.mine rules)
  | .revert (.str id) =>
    match n.revert id with
    | some n' => (.ok (.bool true), n')
    | none => (.ok (.bool false), n)
  | .revert snapshot => (.error (failed (.revert snapshot)), n)

def answer (w : Providers) : (o : ProviderOp) → ProviderAnswer o × Providers
  | .rpc side method =>
    let (r, n) := answerRpc rules names (w.node side) method
    (r, w.set side n)
  | .readClosure operationId => (w.records operationId, w)

end Healthy

/-- The providers with these two nodes. -/
def Providers.of (nodeA nodeB : Node Hash) (records : String → Except Raised Closure) : Providers where
  node
    | .a => nodeA
    | .b => nodeB
  records := records

section Of

variable {nodeA nodeB n : Node Hash} {records : String → Except Raised Closure}

@[simp] theorem Providers.node_of_a : (of nodeA nodeB records).node .a = nodeA := rfl

@[simp] theorem Providers.node_of_b : (of nodeA nodeB records).node .b = nodeB := rfl

@[simp] theorem Providers.set_of_a : (of nodeA nodeB records).set .a n = of n nodeB records := by
  unfold set of
  congr 1
  funext side
  cases side <;> rfl

@[simp] theorem Providers.set_of_b : (of nodeA nodeB records).set .b n = of nodeA n records := by
  unfold set of
  congr 1
  funext side
  cases side <;> rfl

theorem Providers.eq_of (w : Providers) : w = of (w.node .a) (w.node .b) w.records := by
  have hnode : w.node = (of (w.node .a) (w.node .b) w.records).node := by
    funext side
    cases side <;> rfl
  exact congrArg (fun node => Providers.mk node w.records) hnode

end Of

section Calls

variable {rules : Rules Hash} {names : Node Hash → String} {w w' : Providers} {side : Side}

@[simp] theorem Providers.node_set (w : Providers) (side : Side) (n : Node Hash) : (w.set side n).node side = n :=
  Function.update_self _ _ _

theorem Providers.node_set_of_ne {side' : Side} (h : side' ≠ side) (n : Node Hash) :
    (w.set side n).node side' = w.node side' := Function.update_of_ne h _ _

@[simp] theorem Providers.set_node (w : Providers) (side : Side) : w.set side (w.node side) = w := by
  unfold set
  rw [Function.update_eq_self]

@[simp] theorem Providers.set_set (w : Providers) (side : Side) (n n' : Node Hash) : (w.set side n).set side n' = w.set side n' := by
  unfold set
  rw [Function.update_idem]

theorem evaluates_rpcJson_iff {method : Method} {r : Except Raised Json} :
    Evaluates (answer rules names) (rpcJson side method) w r w' ↔
      (answerRpc rules names (w.node side) method).1 = r ∧ w.set side (answerRpc rules names (w.node side) method).2 = w' :=
  evaluates_attempt_iff

theorem evaluates_tell_ok_iff {method : Method} :
    Evaluates (answer rules names) (tell side method) w (.ok ()) w' ↔
      (∃ value, (answerRpc rules names (w.node side) method).1 = .ok value) ∧
        w.set side (answerRpc rules names (w.node side) method).2 = w' := by
  rw [tell, evaluates_bind_ok_iff]
  constructor
  · rintro ⟨value, w₁, hcall, hend⟩
    obtain ⟨hvalue, rfl⟩ := evaluates_rpcJson_iff.1 hcall
    exact ⟨⟨value, hvalue⟩, (evaluates_pure_iff.1 hend).2⟩
  · rintro ⟨⟨value, hvalue⟩, rfl⟩
    exact ⟨value, _, evaluates_rpcJson_iff.2 ⟨hvalue, rfl⟩, evaluates_pure_iff.2 ⟨rfl, rfl⟩⟩

theorem evaluates_snapshot_ok_iff {value : Json} :
    Evaluates (answer rules names) (rpcJson side .snapshot) w (.ok value) w' ↔
      .str (names (w.node side)) = value ∧ w.set side ((w.node side).snapshot (names (w.node side))) = w' := by
  rw [evaluates_rpcJson_iff, answerRpc, Except.ok.injEq]

/-! ### Texts of hashes -/

theorem toList_hashText (h : Hash) : (hashText h).toList = '0' :: 'x' :: (hex (toBig 32 h.toNat)).toList := by
  rw [hashText, String.toList_append]
  rfl

theorem hashText_injective : Function.Injective hashText := by
  intro h h' heq
  have hdigits := congrArg String.toList heq
  rw [toList_hashText, toList_hashText] at hdigits
  have hbytes : toBig 32 h.toNat = toBig 32 h'.toNat := by
    apply hex_injective
    apply String.toList_injective
    simpa using hdigits
  exact BitVec.eq_of_toNat_eq (toBig_injective h.isLt h'.isLt hbytes)

theorem isHexText_hashText (h : Hash) : isHexText 64 64 (hashText h) = true := by
  obtain ⟨hall, hlength⟩ := between_iff.1 (between_hex (toBig 32 h.toNat))
  rw [length_toBig] at hlength
  unfold isHexText
  rw [toList_hashText]
  exact between_iff.2 ⟨fun c hc => isHex_of_isLowerHex (hall c hc), hlength⟩

@[simp] theorem lowerText_hashText (h : Hash) : lowerText (hashText h) = hashText h := by
  obtain ⟨hall, -⟩ := between_iff.1 (between_hex (toBig 32 h.toNat))
  have hlower : lower (hashText h).toList = (hashText h).toList := by
    rw [toList_hashText]
    apply lower_eq_self
    intro c hc
    obtain rfl | hc := List.mem_cons.1 hc
    · exact .inl rfl
    · obtain rfl | hc := List.mem_cons.1 hc
      · exact .inr rfl
      · exact .inl (hall c hc)
  rw [lowerText, hlower, String.ofList_toList]

theorem isHexText_hexOf (n : ℕ) : isHexText 1 16 (hexOf n) = decide (n < 2 ^ 64) := by
  unfold isHexText
  rw [toList_hexOf]
  have hpos : 1 ≤ (Nat.toDigits 16 n).length := Nat.length_toDigits_pos
  have hlength : (Nat.toDigits 16 n).length ≤ 16 ↔ n < 2 ^ 64 := Nat.length_toDigits_le_iff (by decide) (by decide)
  have hall : ∀ c ∈ Nat.toDigits 16 n, isHex c = true := fun c hc => isHex_of_isLowerHex (isLowerHex_of_mem_toDigits hc)
  rw [Bool.eq_iff_iff, decide_eq_true_eq, ← hlength]
  exact between_iff.trans ⟨fun h => h.2.2, fun h => ⟨hall, hpos, h⟩⟩

/-! ### Spec of each call -/

theorem checkBlock_blockJson (block : Block Hash) :
    checkBlock (blockJson block) =
      if block.timestamp < 2 ^ 64 then .ok (hashText block.hash, hexOf block.timestamp)
      else .error (controlFailed "fixed RPC omitted the latest block hash or timestamp") := by
  have hhash : item [("hash", .str (hashText block.hash)), ("timestamp", .str (hexOf block.timestamp))] "hash" =
      .str (hashText block.hash) := rfl
  have htimestamp : item [("hash", .str (hashText block.hash)), ("timestamp", .str (hexOf block.timestamp))] "timestamp" =
      .str (hexOf block.timestamp) := rfl
  unfold checkBlock blockJson
  dsimp only
  rw [hhash, htimestamp]
  dsimp only
  rw [isHexText_hashText, isHexText_hexOf, Bool.true_and]
  simp only [decide_eq_true_eq]

theorem evaluates_latestBlock_ok_iff {block : String × String} :
    Evaluates (answer rules names) (latestBlock side) w (.ok block) w' ↔
      (w.node side).head.timestamp < 2 ^ 64 ∧
        (hashText (w.node side).head.hash, hexOf (w.node side).head.timestamp) = block ∧ w = w' := by
  rw [latestBlock, evaluates_bind_ok_iff]
  constructor
  · rintro ⟨value, w₁, hcall, hcheck⟩
    obtain ⟨hvalue, rfl⟩ := evaluates_rpcJson_iff.1 hcall
    obtain rfl := Except.ok.inj hvalue
    rw [evaluates_liftExcept_iff, checkBlock_blockJson] at hcheck
    obtain ⟨hblock, hw⟩ := hcheck
    rw [answerRpc, Providers.set_node] at hw
    split at hblock
    · rename_i hfits
      exact ⟨hfits, Except.ok.inj hblock, hw⟩
    · cases hblock
  · rintro ⟨hfits, rfl, rfl⟩
    refine ⟨_, _, evaluates_rpcJson_iff.2 ⟨rfl, rfl⟩, ?_⟩
    rw [evaluates_liftExcept_iff, checkBlock_blockJson, if_pos hfits, answerRpc, Providers.set_node]
    exact ⟨rfl, rfl⟩

theorem evaluates_blockHash_ok_iff {hash : String} :
    Evaluates (answer rules names) (blockHash side) w (.ok hash) w' ↔
      (w.node side).head.timestamp < 2 ^ 64 ∧ hashText (w.node side).head.hash = hash ∧ w = w' := by
  rw [blockHash, evaluates_bind_ok_iff]
  constructor
  · rintro ⟨block, w₁, hblock, hrest⟩
    obtain ⟨hfits, rfl, rfl⟩ := evaluates_latestBlock_ok_iff.1 hblock
    obtain ⟨hhash, rfl⟩ := evaluates_pure_iff.1 hrest
    rw [lowerText_hashText] at hhash
    exact ⟨hfits, Except.ok.inj hhash, rfl⟩
  · rintro ⟨hfits, rfl, rfl⟩
    refine ⟨_, _, evaluates_latestBlock_ok_iff.2 ⟨hfits, rfl, rfl⟩, ?_⟩
    refine evaluates_pure_iff.2 ⟨?_, rfl⟩
    rw [lowerText_hashText]

theorem evaluates_mineBlock_ok_iff {start offset : ℕ} :
    Evaluates (answer rules names) (mineBlock side (some start) offset) w (.ok ()) w' ↔
      ((w.node side).head.timestamp < start + offset ∧ start + offset < 2 ^ 64) ∧
        w.set side ({ w.node side with timestamp := some (start + offset) }.mine rules) = w' := by
  let pinned : Node Hash := { w.node side with timestamp := some (start + offset) }
  have hpin {w₁ : Providers} : Evaluates (answer rules names) (tell side (.setNextBlockTimestamp (start + offset))) w (.ok ()) w₁ ↔
      ((w.node side).head.timestamp < start + offset ∧ start + offset < 2 ^ 64) ∧ w.set side pinned = w₁ := by
    rw [evaluates_tell_ok_iff, answerRpc]
    by_cases hfits : (w.node side).head.timestamp < start + offset ∧ start + offset < 2 ^ 64
    · rw [if_pos hfits]
      exact ⟨fun h => ⟨hfits, h.2⟩, fun h => ⟨⟨_, rfl⟩, h.2⟩⟩
    · rw [if_neg hfits]
      exact ⟨fun h => (nomatch h.1), fun h => absurd h.1 hfits⟩
  rw [mineBlock, evaluates_bind_ok_iff]
  constructor
  · rintro ⟨_, w₁, hset, hmine⟩
    obtain ⟨hfits, rfl⟩ := hpin.1 hset
    obtain ⟨-, rfl⟩ := evaluates_tell_ok_iff.1 hmine
    rw [Providers.node_set, Providers.set_set]
    exact ⟨hfits, rfl⟩
  · rintro ⟨hfits, rfl⟩
    refine ⟨(), _, hpin.2 ⟨hfits, rfl⟩, evaluates_tell_ok_iff.2 ⟨⟨_, rfl⟩, ?_⟩⟩
    rw [Providers.node_set, Providers.set_set]
    rfl

/-- The loop of `_mine` mines a branch whose timestamps fit. -/
theorem evaluates_mineLoop_ok_iff {start depth k : ℕ} :
    Evaluates (answer rules names) (forM (List.range' k depth) (mineBlock side (some start))) w (.ok ()) w' ↔
      (0 < depth → (w.node side).head.timestamp < start + k ∧ start + k + depth ≤ 2 ^ 64) ∧
        w.set side ((w.node side).mineAt rules (start + k) depth) = w' := by
  induction depth generalizing k w with
  | zero =>
    rw [List.range'_zero, List.forM_nil, evaluates_pure_iff, Node.mineAt, Providers.set_node]
    simp
  | succ depth ih =>
    have htail : (∃ a w₁, Evaluates (answer rules names) (mineBlock side (some start) k) w (.ok a) w₁ ∧
        Evaluates (answer rules names) (forM (List.range' (k + 1) depth) (mineBlock side (some start))) w₁ (.ok ()) w') ↔
        ((w.node side).head.timestamp < start + k ∧ start + k < 2 ^ 64) ∧
          (0 < depth → start + k < start + (k + 1) ∧ start + (k + 1) + depth ≤ 2 ^ 64) ∧
          w.set side ((w.node side).mineAt rules (start + k) (depth + 1)) = w' := by
      constructor
      · rintro ⟨_, w₁, hfirst, hrest⟩
        obtain ⟨hfits, rfl⟩ := evaluates_mineBlock_ok_iff.1 hfirst
        obtain ⟨hmore, rfl⟩ := ih.1 hrest
        rw [Providers.node_set] at hmore ⊢
        exact ⟨hfits, hmore, by rw [Providers.set_set]; rfl⟩
      · rintro ⟨hfits, hmore, rfl⟩
        refine ⟨(), _, evaluates_mineBlock_ok_iff.2 ⟨hfits, rfl⟩, ih.2 ?_⟩
        rw [Providers.node_set, Providers.set_set]
        exact ⟨hmore, rfl⟩
    rw [List.range'_succ, List.forM_cons, evaluates_bind_ok_iff, htail, and_assoc.symm]
    refine and_congr_left fun _ => ?_
    constructor
    · exact fun h _ => by omega
    · exact fun h => by omega

/-- A node with a branch on top of its blocks. -/
def extended (rules : Rules Hash) (n : Node Hash) (timestamp fee depth : ℕ) : Node Hash :=
  { n with blocks := rules.branch n.head.hash timestamp fee depth ++ n.blocks, fee := none, timestamp := none }

theorem evaluates_mineBlocks_ok_iff {depth fee timestamp : ℕ} (hdepth : 0 < depth) :
    Evaluates (answer rules names) (mineBlocks side depth fee (some timestamp)) w (.ok ()) w' ↔
      ((w.node side).head.timestamp < timestamp ∧ timestamp + depth ≤ 2 ^ 64) ∧
        w.set side (extended rules (w.node side) timestamp fee depth) = w' := by
  obtain ⟨depth, rfl⟩ := Nat.exists_eq_add_of_lt hdepth
  rw [Nat.zero_add, mineBlocks, List.range_eq_range', evaluates_bind_ok_iff]
  constructor
  · rintro ⟨_, w₁, hset, hloop⟩
    obtain ⟨-, rfl⟩ := evaluates_tell_ok_iff.1 hset
    obtain ⟨hfits, rfl⟩ := evaluates_mineLoop_ok_iff.1 hloop
    rw [Providers.node_set, Providers.set_set, Node.mineAt_succ]
    rw [Providers.node_set] at hfits
    exact ⟨hfits (by omega), rfl⟩
  · rintro ⟨hfits, rfl⟩
    refine ⟨(), _, evaluates_tell_ok_iff.2 ⟨⟨_, rfl⟩, rfl⟩, evaluates_mineLoop_ok_iff.2 ?_⟩
    rw [Providers.node_set, Providers.set_set, Node.mineAt_succ]
    exact ⟨fun _ => hfits, rfl⟩

theorem hash_head_extended (n : Node Hash) (timestamp fee depth : ℕ) :
    (extended rules n timestamp fee depth).head.hash = rules.tip n.head.hash timestamp fee depth :=
  Rules.hash_headOf_branch n.genesis n.blocks timestamp fee depth

theorem timestamp_head_extended (n : Node Hash) (timestamp fee : ℕ) {depth : ℕ} (hdepth : 0 < depth) :
    (extended rules n timestamp fee depth).head.timestamp < timestamp + depth := by
  obtain ⟨depth, rfl⟩ := Nat.exists_eq_add_of_lt hdepth
  have htimestamp : (headOf n.genesis (rules.branch n.head.hash timestamp fee (0 + depth + 1) ++ n.blocks)).timestamp =
      timestamp + (0 + depth) := Rules.timestamp_headOf_branch ..
  change (headOf n.genesis (rules.branch n.head.hash timestamp fee (0 + depth + 1) ++ n.blocks)).timestamp < _
  omega

end Calls

/-! ## Both phases -/

section Phases

variable {c : Controller} {rules : Rules Hash} {names : Node Hash → String} {w w' : Providers} {depth : ℕ} {operationId : String}

theorem eq_of_evaluates_checkSnapshot {side : Side} {snapshot : Json}
    (h : Evaluates (answer rules names) (checkSnapshot side snapshot) w (.ok ()) w') : w = w' := by
  cases snapshot with
  | str id => exact (evaluates_raiseIf_iff.1 h).2
  | _ => exact (evaluates_throw_iff.1 h).2

theorem evaluates_raiseIf_ok_iff {p : Prop} [Decidable p] {e : Raised} :
    Evaluates (answer rules names) (raiseIf p e : Callback Unit) w (.ok ()) w' ↔ ¬p ∧ w = w' := by
  by_cases hp : p <;> simp [evaluates_raiseIf_iff, hp]

/-- The private result of `prepare`. -/
def preparedResult (rules : Rules Hash) (names : Node Hash → String) (nodeA nodeB : Node Hash) (depth : ℕ)
    (operationId : String) : Dict := [
  ("snapshotA", .str (names nodeA)),
  ("snapshotB", .str (names nodeB)),
  ("previousBlockHash", .str (hashText (rules.tip nodeA.head.hash (nodeA.head.timestamp + 1) (branchFee operationId) depth))),
  ("depth", .int depth)]

/-- The node after `prepare`. -/
def prepared (rules : Rules Hash) (names : Node Hash → String) (n : Node Hash) (timestamp depth : ℕ) (operationId : String) :
    Node Hash :=
  extended rules (n.snapshot (names n)) timestamp (branchFee operationId) depth

/-- What a `prepare` that returns found and left. -/
theorem prepare_spec (hdepth : 0 < depth) {nodeA nodeB : Node Hash} {records : String → Except Raised Closure}
    {publicResult privateResult : Dict}
    (h : Evaluates (answer rules names) (c.reorgPrepare depth operationId) (.of nodeA nodeB records)
      (.ok (publicResult, privateResult)) w') :
    nodeB.head.hash = nodeA.head.hash ∧ nodeB.head.timestamp < nodeA.head.timestamp + 1 ∧
      nodeA.head.timestamp + 1 + depth ≤ 2 ^ 64 ∧
      privateResult = preparedResult rules names nodeA nodeB depth operationId ∧
      w' = .of (prepared rules names nodeA (nodeA.head.timestamp + 1) depth operationId)
        (prepared rules names nodeB (nodeA.head.timestamp + 1) depth operationId) records := by
  obtain ⟨_, _, hsnapshotA, h⟩ := evaluates_bind_ok_iff.1 h
  obtain ⟨rfl, rfl⟩ := evaluates_snapshot_ok_iff.1 hsnapshotA
  obtain ⟨_, _, hsnapshotB, h⟩ := evaluates_bind_ok_iff.1 h
  obtain ⟨rfl, rfl⟩ := evaluates_snapshot_ok_iff.1 hsnapshotB
  rw [Providers.node_of_a, Providers.set_of_a, Providers.node_of_b, Providers.set_of_b] at h
  obtain ⟨_, _, hcheckA, h⟩ := evaluates_bind_ok_iff.1 h
  obtain rfl := eq_of_evaluates_checkSnapshot hcheckA
  obtain ⟨_, _, hcheckB, h⟩ := evaluates_bind_ok_iff.1 h
  obtain rfl := eq_of_evaluates_checkSnapshot hcheckB
  obtain ⟨_, _, hblockA, h⟩ := evaluates_bind_ok_iff.1 h
  obtain ⟨-, rfl, rfl⟩ := evaluates_latestBlock_ok_iff.1 hblockA
  obtain ⟨_, _, hblockB, h⟩ := evaluates_bind_ok_iff.1 h
  obtain ⟨-, rfl, rfl⟩ := evaluates_latestBlock_ok_iff.1 hblockB
  rw [Providers.node_of_a, Providers.node_of_b] at h
  obtain ⟨_, _, hcompare, h⟩ := evaluates_bind_ok_iff.1 h
  obtain ⟨hagree, rfl⟩ := evaluates_raiseIf_ok_iff.1 hcompare
  obtain ⟨_, _, hmineA, h⟩ := evaluates_bind_ok_iff.1 h
  obtain ⟨hminedA, rfl⟩ := (evaluates_mineBlocks_ok_iff hdepth).1 hmineA
  obtain ⟨_, _, hmineB, h⟩ := evaluates_bind_ok_iff.1 h
  obtain ⟨hminedB, rfl⟩ := (evaluates_mineBlocks_ok_iff hdepth).1 hmineB
  rw [Providers.node_of_a, Providers.set_of_a] at h hminedB
  rw [Providers.node_of_b, Providers.set_of_b] at h
  rw [Providers.node_of_b] at hminedB
  rw [Providers.node_of_a] at hminedA
  obtain ⟨_, _, hhashA, h⟩ := evaluates_bind_ok_iff.1 h
  obtain ⟨-, rfl, rfl⟩ := evaluates_blockHash_ok_iff.1 hhashA
  obtain ⟨_, _, hhashB, h⟩ := evaluates_bind_ok_iff.1 h
  obtain ⟨-, rfl, rfl⟩ := evaluates_blockHash_ok_iff.1 hhashB
  obtain ⟨_, _, hsame, h⟩ := evaluates_bind_ok_iff.1 h
  obtain ⟨-, rfl⟩ := evaluates_raiseIf_ok_iff.1 hsame
  obtain ⟨hresult, rfl⟩ := evaluates_pure_iff.1 h
  rw [intOfHex_hexOf, Node.head_snapshot] at hminedA hminedB hresult
  rw [Node.head_snapshot] at hminedB
  rw [Node.head_snapshot, Node.head_snapshot, lowerText_hashText, lowerText_hashText, not_ne_iff] at hagree
  rw [Providers.node_of_a, hash_head_extended, Node.head_snapshot] at hresult
  refine ⟨(hashText_injective hagree).symm, hminedB.1, hminedA.2, ?_, ?_⟩
  · exact (Prod.mk.inj (Except.ok.inj hresult)).2.symm
  · rw [intOfHex_hexOf, Node.head_snapshot]
    rfl

/-- The public result of `prepare`. -/
def preparedPublic (c : Controller) (rules : Rules Hash) (nodeA : Node Hash) (depth : ℕ) (operationId : String) : Dict := [
  ("phase", .str "PREPARED"),
  ("depth", .int depth),
  ("previousBlockHash", .str (hashText (rules.tip nodeA.head.hash (nodeA.head.timestamp + 1) (branchFee operationId) depth))),
  ("candidateId", .str c.binding.candidateId)]

/-- Providers with one head are prepared. -/
theorem evaluates_prepare (hdepth : 0 < depth) {nodeA nodeB : Node Hash} {records : String → Except Raised Closure}
    (hnameA : (names nodeA).length ≤ 128) (hnameB : (names nodeB).length ≤ 128) (hagreed : nodeB.head.hash = nodeA.head.hash)
    (hfits : nodeB.head.timestamp < nodeA.head.timestamp + 1) (hends : nodeA.head.timestamp + 1 + depth ≤ 2 ^ 64) :
    Evaluates (answer rules names) (c.reorgPrepare depth operationId) (.of nodeA nodeB records)
      (.ok (preparedPublic c rules nodeA depth operationId, preparedResult rules names nodeA nodeB depth operationId))
      (.of (prepared rules names nodeA (nodeA.head.timestamp + 1) depth operationId)
        (prepared rules names nodeB (nodeA.head.timestamp + 1) depth operationId) records) := by
  have htip {n : Node Hash} (hhead : n.head.hash = nodeA.head.hash) :
      hashText (prepared rules names n (nodeA.head.timestamp + 1) depth operationId).head.hash =
        hashText (rules.tip nodeA.head.hash (nodeA.head.timestamp + 1) (branchFee operationId) depth) := by
    rw [prepared, hash_head_extended, Node.head_snapshot, hhead]
  have htimestamp (n : Node Hash) :
      (prepared rules names n (nodeA.head.timestamp + 1) depth operationId).head.timestamp < 2 ^ 64 :=
    (timestamp_head_extended _ _ _ hdepth).trans_le hends
  refine Evaluates.bind (evaluates_snapshot_ok_iff.2 ⟨rfl, rfl⟩) ?_
  refine Evaluates.bind (evaluates_snapshot_ok_iff.2 ⟨rfl, rfl⟩) ?_
  rw [Providers.node_of_a, Providers.set_of_a, Providers.node_of_b, Providers.set_of_b]
  refine Evaluates.bind (evaluates_raiseIf_ok_iff.2 ⟨not_lt.2 hnameA, rfl⟩) ?_
  refine Evaluates.bind (evaluates_raiseIf_ok_iff.2 ⟨not_lt.2 hnameB, rfl⟩) ?_
  refine Evaluates.bind (evaluates_latestBlock_ok_iff.2 ⟨?_, rfl, rfl⟩) ?_
  · rw [Providers.node_of_a, Node.head_snapshot]
    omega
  refine Evaluates.bind (evaluates_latestBlock_ok_iff.2 ⟨?_, rfl, rfl⟩) ?_
  · rw [Providers.node_of_b, Node.head_snapshot]
    omega
  dsimp only
  rw [Providers.node_of_a, Providers.node_of_b, Node.head_snapshot, Node.head_snapshot, intOfHex_hexOf]
  refine Evaluates.bind (evaluates_raiseIf_ok_iff.2 ⟨not_ne_iff.2 (by rw [hagreed]), rfl⟩) ?_
  refine Evaluates.bind ((evaluates_mineBlocks_ok_iff hdepth).2 ⟨⟨?_, hends⟩, rfl⟩) ?_
  · rw [Providers.node_of_a, Node.head_snapshot]
    omega
  rw [Providers.node_of_a, Providers.set_of_a]
  refine Evaluates.bind ((evaluates_mineBlocks_ok_iff hdepth).2 ⟨⟨?_, hends⟩, rfl⟩) ?_
  · rw [Providers.node_of_b, Node.head_snapshot]
    exact hfits
  rw [Providers.node_of_b, Providers.set_of_b]
  refine Evaluates.bind (evaluates_blockHash_ok_iff.2 ⟨htimestamp _, htip rfl, rfl⟩) ?_
  refine Evaluates.bind (evaluates_blockHash_ok_iff.2 ⟨htimestamp _, htip hagreed, rfl⟩) ?_
  refine Evaluates.bind (evaluates_raiseIf_ok_iff.2 ⟨not_ne_iff.2 rfl, rfl⟩) ?_
  exact evaluates_pure_iff.2 ⟨rfl, rfl⟩

/-- The public result of `replace`. -/
def replacedResult (c : Controller) (depth : ℕ) (previous canonical : String) : Dict := [
  ("phase", .str "REPLACED"),
  ("rollbackDepth", .int depth),
  ("previousBlockHash", .str previous),
  ("canonicalBlockHash", .str canonical),
  ("candidateId", .str c.binding.candidateId)]

theorem evaluates_revertTo (side : Side) {id : String} {n : Node Hash} (h : (w.node side).revert id = some n) :
    Evaluates (answer rules names) (revertTo side (.str id)) w (.ok ()) (w.set side n) := by
  have hcall : Evaluates (answer rules names) (rpcJson side (.revert (.str id))) w (.ok (.bool true)) (w.set side n) := by
    rw [evaluates_rpcJson_iff, answerRpc, h]
    exact ⟨rfl, rfl⟩
  exact hcall.bind (evaluates_pure_iff.2 ⟨rfl, rfl⟩)

/-- A `replace` of a prepared operation mines the new branch, and raises if it has the hash of the old one. -/
theorem replace_spec (replaceId : String) (hdepth : 0 < depth) {preparedId : String} (hid : isOperationId preparedId = true)
    {nodeA nodeB revertedA revertedB currentA currentB : Node Hash} {records : String → Except Raised Closure} {closure : Closure}
    (hrecord : records preparedId = .ok closure) (haction : closure.action = "fault:l1-reorg")
    (hbinding : closure.bindingDigest = c.bindingDigest)
    (hstored : closure.privateResult = preparedResult rules names nodeA nodeB depth preparedId)
    (hrevertA : currentA.revert (names nodeA) = some revertedA) (hrevertB : currentB.revert (names nodeB) = some revertedB)
    (hheadA : revertedA.head = nodeA.head) (hheadB : revertedB.head = nodeB.head)
    (hagreed : nodeB.head.hash = nodeA.head.hash) (hfits : nodeB.head.timestamp < nodeA.head.timestamp + 1)
    (hends : nodeA.head.timestamp + 1 + depth ≤ 2 ^ 64) :
    let previous := rules.tip nodeA.head.hash (nodeA.head.timestamp + 1) (branchFee preparedId) depth
    let canonical := rules.tip nodeA.head.hash (nodeA.head.timestamp + 1) (replacementFee replaceId) depth
    Evaluates (answer rules names) (c.reorgReplace depth preparedId replaceId) (.of currentA currentB records)
      (if canonical = previous then .error (controlFailed "reorg replacement did not change the canonical hash")
        else .ok (replacedResult c depth (hashText previous) (hashText canonical), []))
      (.of (extended rules revertedA (nodeA.head.timestamp + 1) (replacementFee replaceId) depth)
        (extended rules revertedB (nodeA.head.timestamp + 1) (replacementFee replaceId) depth) records) := by
  intro previous canonical
  have hclosure : Evaluates (answer rules names) (c.priorClosure preparedId "fault:l1-reorg") (.of currentA currentB records)
      (.ok closure) (.of currentA currentB records) := by
    refine Evaluates.bind (evaluates_raiseIf_ok_iff.2 ⟨by simp [hid], rfl⟩) ?_
    refine Evaluates.bind (evaluates_attempt_iff.2 ⟨hrecord, rfl⟩) ?_
    refine Evaluates.bind (evaluates_raiseIf_ok_iff.2 ⟨by simp [haction, hbinding], rfl⟩) ?_
    exact evaluates_pure_iff.2 ⟨rfl, rfl⟩
  have hdepthField : item (preparedResult rules names nodeA nodeB depth preparedId) "depth" = .int depth := rfl
  have hsnapshotA : item (preparedResult rules names nodeA nodeB depth preparedId) "snapshotA" = .str (names nodeA) := rfl
  have hsnapshotB : item (preparedResult rules names nodeA nodeB depth preparedId) "snapshotB" = .str (names nodeB) := rfl
  have hprevious : (preparedResult rules names nodeA nodeB depth preparedId).get "previousBlockHash" =
      some (.str (hashText previous)) := rfl
  refine hclosure.bind ?_
  rw [hstored]
  dsimp only
  rw [hdepthField, hsnapshotA, hsnapshotB, hprevious]
  refine Evaluates.bind (evaluates_raiseIf_ok_iff.2 ⟨by simp [Json.eq, Json.number], rfl⟩) ?_
  refine (evaluates_revertTo .a hrevertA).bind ?_
  rw [Providers.set_of_a]
  refine (evaluates_revertTo .b hrevertB).bind ?_
  rw [Providers.set_of_b]
  have hhead : (hashText nodeA.head.hash, hexOf nodeA.head.timestamp) =
      (hashText revertedA.head.hash, hexOf revertedA.head.timestamp) := by rw [hheadA]
  refine Evaluates.bind (evaluates_latestBlock_ok_iff.2 ⟨?_, hhead.symm, rfl⟩) ?_
  · rw [Providers.node_of_a, hheadA]
    omega
  dsimp only
  rw [intOfHex_hexOf]
  refine Evaluates.bind ((evaluates_mineBlocks_ok_iff hdepth).2 ⟨⟨?_, hends⟩, rfl⟩) ?_
  · rw [Providers.node_of_a, hheadA]
    omega
  rw [Providers.node_of_a, Providers.set_of_a]
  refine Evaluates.bind ((evaluates_mineBlocks_ok_iff hdepth).2 ⟨⟨?_, hends⟩, rfl⟩) ?_
  · rw [Providers.node_of_b, hheadB]
    exact hfits
  rw [Providers.node_of_b, Providers.set_of_b]
  have htimestamp (n : Node Hash) : (extended rules n (nodeA.head.timestamp + 1) (replacementFee replaceId) depth).head.timestamp <
      2 ^ 64 := (timestamp_head_extended n _ _ hdepth).trans_le hends
  have hhashA : hashText (extended rules revertedA (nodeA.head.timestamp + 1) (replacementFee replaceId) depth).head.hash =
      hashText canonical := by rw [hash_head_extended, hheadA]
  have hhashB : hashText (extended rules revertedB (nodeA.head.timestamp + 1) (replacementFee replaceId) depth).head.hash =
      hashText canonical := by rw [hash_head_extended, hheadB, hagreed]
  refine Evaluates.bind (evaluates_blockHash_ok_iff.2 ⟨htimestamp _, hhashA, rfl⟩) ?_
  refine Evaluates.bind (evaluates_pure_iff.2 ⟨rfl, rfl⟩) ?_
  refine Evaluates.bind (evaluates_blockHash_ok_iff.2 ⟨htimestamp _, hhashB, rfl⟩) ?_
  refine Evaluates.bind (evaluates_raiseIf_ok_iff.2 ⟨fun h => h rfl, rfl⟩) ?_
  have hsame : hashText canonical = strOf (.str (hashText previous)) ↔ canonical = previous := hashText_injective.eq_iff
  by_cases heq : canonical = previous
  · rw [if_pos heq, evaluates_bind_iff]
    refine .inr ⟨_, rfl, evaluates_raiseIf_iff.2 ⟨?_, rfl⟩⟩
    rw [if_pos (hsame.2 heq)]
  · rw [if_neg heq]
    refine Evaluates.bind (evaluates_raiseIf_ok_iff.2 ⟨fun h => heq (hsame.1 h), rfl⟩) ?_
    exact evaluates_pure_iff.2 ⟨rfl, rfl⟩

/-! ## Replacements -/

/-- The base fee of the first of the newest `depth` blocks. -/
def firstFee (depth : ℕ) (n : Node Hash) : Option ℕ := ((n.blocks.take depth).getLast?).map Block.baseFee

/-- A replacement as promised: another base fee and another canonical hash on both providers, which agree. -/
structure Replaced (depth : ℕ) (before after : Providers) (publicResult : Dict) : Prop where
  fee : ∀ side, firstFee depth (after.node side) ≠ firstFee depth (before.node side)
  changes : ∀ side, (after.node side).head.hash ≠ (before.node side).head.hash
  agree : (after.node .a).head.hash = (after.node .b).head.hash
  canonical : item publicResult "canonicalBlockHash" = .str (hashText (after.node .a).head.hash)

theorem firstFee_extended {n : Node Hash} {timestamp fee : ℕ} (hdepth : 0 < depth) :
    firstFee depth (extended rules n timestamp fee depth) = some fee := by
  obtain ⟨depth, rfl⟩ := Nat.exists_eq_add_of_lt hdepth
  rw [firstFee, extended, List.take_left' (Rules.length_branch ..), Rules.getLast?_branch]
  rfl

/-- A replacement is as promised exactly when the two fees differ. -/
theorem reorg_replacement_differs_iff (c : Controller) (rules : Rules Hash) (names : Node Hash → String) {depth : ℕ}
    (hdepth : 0 < depth) {preparedId replaceId : String} (hid : isOperationId preparedId = true)
    {before middle current : Providers} {publicResult privateResult : Dict}
    (hprepare : Evaluates (answer rules names) (c.reorg "prepare" depth none preparedId) before
      (.ok (publicResult, privateResult)) middle)
    (hactivity : ∀ side, Node.Activity (names (before.node side)) (middle.node side) (current.node side))
    {closure : Closure} (hrecord : current.records preparedId = .ok closure) (haction : closure.action = "fault:l1-reorg")
    (hbinding : closure.bindingDigest = c.bindingDigest) (hstored : closure.privateResult = privateResult)
    (hdistinct : rules.Distinct
      (rules.headers (before.node .a).head.hash ((before.node .a).head.timestamp + 1) (replacementFee replaceId) depth ++
        rules.headers (before.node .a).head.hash ((before.node .a).head.timestamp + 1) (branchFee preparedId) depth)) :
    (∃ result after, Evaluates (answer rules names) (c.reorg "replace" depth (some preparedId) replaceId) current
      (.ok result) after ∧ Replaced depth middle after result.1) ↔ lastDigits preparedId ≠ lastDigits replaceId + 1999000 := by
  obtain ⟨nodeA, nodeB, records, rfl⟩ : ∃ nodeA nodeB records, before = .of nodeA nodeB records := ⟨_, _, _, before.eq_of⟩
  obtain ⟨currentA, currentB, found, rfl⟩ : ∃ nodeA nodeB records, current = .of nodeA nodeB records := ⟨_, _, _, current.eq_of⟩
  rw [Controller.reorg, if_pos rfl] at hprepare
  obtain ⟨hagreed, hfits, hends, rfl, rfl⟩ := prepare_spec hdepth hprepare
  rw [Providers.node_of_a] at hdistinct
  have hreverts {n m : Node Hash} (h : Node.Activity (names n)
      (prepared rules names n (nodeA.head.timestamp + 1) depth preparedId) m) :
      ∃ reverted, m.revert (names n) = some reverted ∧ reverted.head = n.head := by
    have hlive : (prepared rules names n (nodeA.head.timestamp + 1) depth preparedId).Live (names n) n.blocks :=
      (Node.live_snapshot n (names n)).of_snapshots rfl
    obtain ⟨hgenesis, hkept⟩ := h.live hlive
    obtain ⟨reverted, hrevert, hsame, hblocks⟩ := Node.revert_of_live hkept
    refine ⟨reverted, hrevert, ?_⟩
    rw [Node.head, hsame, hblocks, hgenesis]
    rfl
  obtain ⟨revertedA, hrevertA, hheadA⟩ := hreverts (hactivity .a)
  obtain ⟨revertedB, hrevertB, hheadB⟩ := hreverts (hactivity .b)
  rw [Providers.node_of_a, Providers.node_of_a] at hrevertA
  rw [Providers.node_of_b, Providers.node_of_b] at hrevertB
  rw [Providers.node_of_a] at hheadA
  rw [Providers.node_of_b] at hheadB
  have hreplace := replace_spec replaceId hdepth hid hrecord haction hbinding hstored hrevertA hrevertB hheadA
    hheadB hagreed hfits hends
  have hfees : replacementFee replaceId ≠ branchFee preparedId ↔ lastDigits preparedId ≠ lastDigits replaceId + 1999000 := by
    unfold replacementFee branchFee
    omega
  rw [← hfees, Controller.reorg, if_neg (by decide)]
  constructor
  · rintro ⟨result, after, hresult, hreplaced⟩ hsame
    have hfee := hreplaced.fee .a
    obtain ⟨-, rfl⟩ := hresult.unique hreplace
    rw [Providers.node_of_a, Providers.node_of_a, prepared, firstFee_extended hdepth, firstFee_extended hdepth] at hfee
    exact hfee (congrArg some hsame)
  · intro hdiffer
    have htip := Rules.tip_ne hdepth (fun heq => hdiffer (Prod.mk.inj heq).2) hdistinct
    dsimp only at hreplace
    rw [if_neg htip] at hreplace
    refine ⟨_, _, hreplace, ⟨fun side => ?_, fun side => ?_, ?_, ?_⟩⟩
    · cases side <;>
        simpa [prepared, firstFee_extended hdepth] using hdiffer
    · cases side
      · rw [Providers.node_of_a, Providers.node_of_a, prepared, hash_head_extended, hash_head_extended, hheadA]
        exact htip
      · rw [Providers.node_of_b, Providers.node_of_b, prepared, hash_head_extended, hash_head_extended, hheadB,
          Node.head_snapshot, hagreed]
        exact htip
    · rw [Providers.node_of_a, Providers.node_of_b, hash_head_extended, hash_head_extended, hheadA, hheadB, hagreed]
    · rw [Providers.node_of_a, hash_head_extended, hheadA]
      rfl

end Phases

/-! ## A reorg of two blocks -/

namespace TwoBlocks

def rules : Rules Hash where
  hash h := .ofNat 256 (2 ^ 32 * h.timestamp + h.baseFee)
  nextFee := Block.baseFee

def names (n : Node Hash) : String := hexOf n.snapshots.length

def node : Node Hash where
  genesis := ⟨0, 1700000000, 7⟩
  blocks := []
  snapshots := []
  fee := none
  timestamp := none
  clock := 0

def controller : Controller where
  binding := ⟨"zkdeal-candidate-0001", "a", "b"⟩
  bindingDigest := "c"
  receiptBinding := []

/-- The closure of a prepared reorg. -/
def closure (preparedId : String) : Closure where
  operationId := preparedId
  action := "fault:l1-reorg"
  bindingDigest := "c"
  requestDigest := ""
  correlationId := "fault-reorg-correlation-0001"
  intentSha256 := ""
  completedAt := ""
  publicResult := preparedPublic controller rules node 2 preparedId
  privateResult := preparedResult rules names node node 2 preparedId

def before : Providers := .of node node fun _ => .error .other

/-- The node after `prepare`. -/
def preparedNode (preparedId : String) : Node Hash := FaultControl.prepared rules names node 1700000001 2 preparedId

def middle (preparedId : String) : Providers := .of (preparedNode preparedId) (preparedNode preparedId) fun _ => .error .other

/-- The providers after `prepare`, with its closure in the journal. -/
def current (preparedId : String) : Providers :=
  .of (preparedNode preparedId) (preparedNode preparedId) fun _ => .ok (closure preparedId)

theorem evaluates_before (preparedId : String) :
    Evaluates (answer rules names) (controller.reorg "prepare" 2 none preparedId) before
      (.ok (preparedPublic controller rules node 2 preparedId, (closure preparedId).privateResult)) (middle preparedId) := by
  rw [Controller.reorg, if_pos rfl]
  exact evaluates_prepare (by decide) (by decide) (by decide) rfl (by decide) (by decide)

theorem activity_current (preparedId : String) (side : Side) :
    Node.Activity (names (before.node side)) ((middle preparedId).node side) ((current preparedId).node side) := by
  cases side <;> exact Relation.ReflTransGen.refl

def replaceId : String := "fc-0000000000000000000000000000000000000000"

/-- An operation id that ends in the digits of 1999000. -/
def sameId : String := "fc-00000000000000000000000000000000001e8098"

/-- The fees 1001 and 2000000 differ. -/
theorem reorg_replacement_differs_iff_1001 : ∃ result after,
    Evaluates (answer rules names)
      (controller.reorg "replace" 2 (some "fc-0000000000000000000000000000000000000001") replaceId)
      (current "fc-0000000000000000000000000000000000000001") (.ok result) after ∧
    Replaced 2 (middle "fc-0000000000000000000000000000000000000001") after result.1 :=
  (reorg_replacement_differs_iff controller rules names (by decide) (by decide) (evaluates_before _)
    (activity_current _) rfl rfl rfl rfl (by decide)).2 (by decide)

/-- The fees 1000 + 1999000 and 2000000 are one: the replacement is the branch that it replaces, and is refused. -/
theorem replacement_is_branch :
    isOperationId sameId = true ∧ isOperationId replaceId = true ∧
    Evaluates (answer rules names) (controller.reorg "prepare" 2 none sameId) before
      (.ok (preparedPublic controller rules node 2 sameId, (closure sameId).privateResult)) (middle sameId) ∧
    ∃ after, Evaluates (answer rules names) (controller.reorg "replace" 2 (some sameId) replaceId) (current sameId)
      (.error (controlFailed "reorg replacement did not change the canonical hash")) after ∧
      ∀ side, (after.node side).blocks = ((middle sameId).node side).blocks := by
  have hrevert : (preparedNode sameId).revert (names node) = some node := rfl
  have hreplace := replace_spec (c := controller) replaceId (show 0 < 2 by decide) (show isOperationId sameId = true by decide)
    (show (current sameId).records sameId = .ok (closure sameId) from rfl) rfl rfl
    (show (closure sameId).privateResult = preparedResult rules names node node 2 sameId from rfl) hrevert hrevert rfl rfl rfl
    (by decide) (by decide)
  dsimp only at hreplace
  rw [if_pos (by decide)] at hreplace
  refine ⟨by decide, by decide, evaluates_before sameId, _, hreplace, fun side => ?_⟩
  have hblocks : (extended rules node 1700000001 (replacementFee replaceId) 2).blocks = (preparedNode sameId).blocks := by
    decide
  cases side <;> exact hblocks

end TwoBlocks

end Zkdeal.FaultControl
