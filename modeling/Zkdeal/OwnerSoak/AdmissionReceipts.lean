import Zkdeal.OwnerSoak.Charges
import Zkdeal.OwnerSoak.Transactions

/-!
# Admission receipts

`validate_admission_receipt` accepts a receipt exactly when it promises what was asked for and the room's admission
signer signed its EIP-712 digest (`validates_iff_slashable`).
-/

namespace Zkdeal.OwnerSoak

open Python Json Soak Interaction Curves

/-! ## Words -/

/-- A value of type `uint256`. -/
structure Word where
  value : ℕ
  lt : value < 2 ^ 256

/-- A value of type `bytes32`. -/
abbrev Bytes32 := { b : Bytes // b.length = 32 }

/-- A value of type `address`. -/
abbrev Address := { b : Bytes // b.length = 20 }

theorem Word.ext {v w : Word} (h : v.value = w.value) : v = w := by
  cases v
  cases w
  cases h
  rfl

/-- `number.to_bytes(32, "big")` -/
def Word.bytes (w : Word) : Bytes := toBig 32 w.value

/-- `abi_uint(value)` -/
def abiUint (value : ℤ) : Except Raised Bytes :=
  if value < 0 ∨ 1 <<< 256 ≤ value then .error (.driverError "ABI uint256 word is out of range")
  else .ok (toBig 32 value.toNat)

/-- `abi_address(value)` -/
def abiAddress (value : Json) : Except Raised Bytes := do
  let raw ← hexBytes value "ABI address"
  raiseIf (raw.length ≠ 20) (Raised.driverError "ABI address word must be 20 bytes")
  return List.replicate 12 0 ++ raw

/-- `abi_bytes32(value)` -/
def abiBytes32 (value : Json) : Except Raised Bytes := do
  let raw ← hexBytes value "ABI bytes32"
  raiseIf (raw.length ≠ 32) (Raised.driverError "ABI bytes32 word must be 32 bytes")
  return raw

/-! ## Digests -/

/-- `EIP712_DOMAIN_TYPE` -/
def eip712DomainType : String := "EIP712Domain(string name,string version,uint256 chainId,address verifyingContract)"

/-- `ADMISSION_DOMAIN_NAME` -/
def admissionDomainName : String := "ZkdealRoom"

/-- `ADMISSION_DOMAIN_VERSION` -/
def admissionDomainVersion : String := "6"

/-- `ADMISSION_RECEIPT_TYPE` -/
def admissionReceiptType : String :=
  "AdmissionReceipt(uint64 roomId,uint64 admissionId,bytes32 transactionHash," ++
    "uint64 depositInboxId,bytes32 depositContentHash,uint64 deadlineBlock," ++
    "uint64 maximumBatchIndex,uint64 bondEpoch,uint256 admissionFee)"

/-- `text.encode("ascii")` -/
def encodeAscii (text : String) : Except Raised Bytes :=
  if text.toList.all (·.toNat < 128) then .ok (encodeUtf8 text) else .error .valueError

/-- `eip712_domain_separator(name, version, chain_id, verifying_contract)` -/
def eip712DomainSeparator (name version : String) (chainId : ℤ) (verifyingContract : Json) : Except Raised Bytes := do
  let type ← encodeAscii eip712DomainType
  let name ← encodeAscii name
  let version ← encodeAscii version
  let chain ← abiUint chainId
  let contract ← abiAddress verifyingContract
  return keccak256 (keccak256 type ++ keccak256 name ++ keccak256 version ++ chain ++ contract)

/-- `abi_uint(require_int(receipt.get(name), "receipt." + name))` -/
def receiptUint (receipt : Dict) (name : String) : Except Raised Bytes := do
  abiUint (← requireInt (item receipt name) ("receipt." ++ name) 0)

/-- `admission_receipt_digest(chain_id, room_manager, receipt)` -/
def admissionReceiptDigest (chainId : ℤ) (roomManager : Json) (receipt : Dict) : Except Raised Bytes := do
  let type ← encodeAscii admissionReceiptType
  let roomId ← receiptUint receipt "roomId"
  let admissionId ← receiptUint receipt "admissionId"
  let transactionHash ← abiBytes32 (item receipt "transactionHash")
  let depositInboxId ← receiptUint receipt "depositInboxId"
  let depositContentHash ← abiBytes32 (item receipt "depositContentHash")
  let deadlineBlock ← receiptUint receipt "deadlineBlock"
  let maximumBatchIndex ← receiptUint receipt "maximumBatchIndex"
  let bondEpoch ← receiptUint receipt "bondEpoch"
  let admissionFee ← receiptUint receipt "admissionFee"
  let structHash := keccak256 (keccak256 type ++ roomId ++ admissionId ++ transactionHash ++ depositInboxId ++
    depositContentHash ++ deadlineBlock ++ maximumBatchIndex ++ bondEpoch ++ admissionFee)
  let separator ← eip712DomainSeparator admissionDomainName admissionDomainVersion chainId roomManager
  return keccak256 ([0x19, 0x01] ++ separator ++ structHash)

/-! ## Signatures -/

/-- `recover_signature_address(digest, signature, field)` -/
def recoverSignatureAddress (digest : Bytes) (signature : Json) (field : String) : Except Raised String := do
  let raw ← hexBytes signature field
  raiseIf (raw.length ≠ 65) (Raised.driverError (field ++ " must be 65 signature bytes"))
  let r := fromBig (raw.take 32)
  let s := fromBig ((raw.drop 32).take 32)
  let v := (raw.getD 64 0).toNat
  let recovery := if v = 27 ∨ v = 28 then v - 27 else v
  raiseIf (recovery ≠ 0 ∧ recovery ≠ 1) (Raised.driverError (field ++ " carries an unusable recovery byte " ++ toString v))
  raiseIf (secp256k1HalfN < s) (Raised.driverError (field ++ " is not low-s normalized"))
  return publicKeyAddress (← recoverPublicKey digest r s recovery)

/-! ## Receipts -/

/-- Python's texts of strings. -/
structure Wording where
  /-- `s.lower()` of a text with characters beyond ASCII -/
  lowered : String → String
  /-- `repr(s)` -/
  quoted : String → String

/-- What a `Stack` knows of the deployment. -/
structure Stack where
  chainId : ℤ
  addresses : List (String × String)
  negotiated : Bool

section Validation

variable (texts : Texts) (w : Wording)

/-- `str(value)`; the integers of a document have at most 4300 digits. -/
def textOf : Json → String
  | .int n => toString n
  | value => strOf texts value

/-- `text.lower()` -/
def lowerText (text : String) : String :=
  if text.toList.all (·.toNat < 128) then .ofList (lower text.toList) else w.lowered text

/-- `self.address(name)` -/
def Stack.address (stack : Stack) (name : String) : Except Raised String :=
  match stack.addresses.lookup name with
  | some address => .ok address
  | none =>
    if stack.negotiated = false then
      .error (.driverError ("deployment address " ++ w.quoted name ++
        " was requested before stack capabilities were negotiated; call capabilities() first on this code path"))
    else
      .error (.driverError ("deployment address " ++ w.quoted name ++
        " is not one the coordinator negotiated; capabilities supplied: " ++
        ", ".intercalate ((stack.addresses.map Prod.fst).insertionSort (· ≤ ·))))

/-- `str(receipt.get(name, ""))` -/
def receiptText (receipt : Dict) (name : String) : String := textOf texts ((receipt.get name).getD (.str ""))

/-- `expected` -/
def expectedFields (roomId : String) (request deposit : Dict) : Except Raised (List (String × String)) := do
  let transactionHash ← required request "transactionHash"
  let depositInboxId ← required request "depositInboxId"
  let deadlineBlock ← required request "deadlineBlock"
  let maximumBatchIndex ← required request "maximumBatchIndex"
  let admissionFee ← required request "admissionFee"
  let depositContentHash ← required deposit "depositContentHash"
  return [("roomId", roomId), ("transactionHash", lowerText w (textOf texts transactionHash)),
    ("depositInboxId", textOf texts depositInboxId), ("deadlineBlock", textOf texts deadlineBlock),
    ("maximumBatchIndex", textOf texts maximumBatchIndex), ("admissionFee", textOf texts admissionFee),
    ("depositContentHash", lowerText w (textOf texts depositContentHash))]

/-- `actual` -/
def actualField (receipt : Dict) (name : String) : String :=
  let text := receiptText texts receipt name
  if endsWith name.toList "Hash".toList then lowerText w text else text

/-- A turn of the loop over `expected.items()`. -/
def checkField (roomId : String) (receipt : Dict) (field : String × String) : Except Raised Unit :=
  let actual := actualField texts w receipt field.1
  raiseIf (actual ≠ field.2) (Raised.driverError ("room " ++ roomId ++ " admission receipt field " ++ field.1 ++ " is " ++
    w.quoted actual ++ ", expected " ++ w.quoted field.2))

/-- `[1-9][0-9]*` -/
def isCanonicalId : List Char → Bool
  | c :: cs => isDigit09 c && c != '0' && cs.all isDigit09
  | [] => false

/-- `expected[name]` -/
def expectedOf (expected : List (String × String)) (name : String) : Json := .str ((expected.lookup name).getD "")

/-- `self.validate_admission_receipt(room_id, request, deposit, room_state, receipt)` -/
def Stack.validateAdmissionReceipt (stack : Stack) (roomId : String) (request deposit roomState receipt : Dict) :
    Except Raised Dict := do
  let expected ← expectedFields texts w roomId request deposit
  let _ ← expected.mapM (checkField texts w roomId receipt)
  let admissionId := receiptText texts receipt "admissionId"
  raiseIf (isCanonicalId admissionId.toList = false)
    (Raised.driverError ("room " ++ roomId ++ " admission receipt carries no canonical admissionId"))
  let _ ← requireInt (item receipt "bondEpoch") "receipt.bondEpoch" 0
  let roomManager ← stack.address w "roomManager"
  let digest ← admissionReceiptDigest stack.chainId (.str roomManager) receipt
  let signer ← recoverSignatureAddress digest (item receipt "signature") "admission receipt signature"
  let roomSigner := lowerText w (textOf texts (← required roomState "admissionSigner"))
  raiseIf (signer ≠ roomSigner) (Raised.driverError ("room " ++ roomId ++ " admission receipt " ++ admissionId ++
    " recovers to " ++ signer ++ ", not the room's on-chain admissionSigner " ++ roomSigner ++ "; it is not slashable"))
  return [("roomId", .str roomId), ("admissionId", .str admissionId), ("transactionHash", expectedOf expected "transactionHash"),
    ("depositInboxId", expectedOf expected "depositInboxId"), ("depositContentHash", expectedOf expected "depositContentHash"),
    ("deadlineBlock", expectedOf expected "deadlineBlock"), ("maximumBatchIndex", expectedOf expected "maximumBatchIndex"),
    ("admissionFee", expectedOf expected "admissionFee"), ("bondEpoch", .str (textOf texts (item receipt "bondEpoch"))),
    ("admissionSigner", .str signer)]

end Validation

/-! ## Values and their texts -/

theorem isDecimal_digits {cs : List Char} (h : isDecimal cs = true) :
    (∀ c ∈ cs, isDigit09 c = true) ∧ cs ≠ [] ∧ (cs.head? = some '0' → cs = ['0']) := by
  unfold isDecimal at h
  split at h
  · refine ⟨?_, by simp, fun _ => rfl⟩
    intro c hc
    rw [List.mem_singleton.1 hc]
    rfl
  · rename_i c cs hzero
    simp only [Bool.and_eq_true, bne_iff_ne, List.all_eq_true] at h
    refine ⟨List.forall_mem_cons.2 ⟨h.1.1, h.2⟩, by simp, fun hhead => ?_⟩
    exact absurd (Option.some.inj hhead) h.1.2
  · cases h

theorem requireInt_ok {v : Json} {field : String} {n : ℤ} (h : requireInt v field 0 = .ok n) :
    0 ≤ n ∧ (v = .int n ∨ v = .str (toString n)) := by
  unfold requireInt at h
  cases v with
  | int m =>
    dsimp only at h
    by_cases hm : 0 ≤ m
    · rw [if_pos hm] at h
      cases h
      exact ⟨hm, .inl rfl⟩
    · rw [if_neg hm] at h
      cases h
  | str s =>
    dsimp only at h
    by_cases hdecimal : isDecimal s.toList = true
    · rw [if_pos hdecimal] at h
      obtain ⟨hdigits, hne, hhead⟩ := isDecimal_digits hdecimal
      have hvalue : intOfStr s = if s.toList.length ≤ 4300 then some (digitsNat s.toList : ℤ) else none := by
        rw [← intOfStr_of_digits hdigits hne, String.ofList_toList]
      rw [hvalue] at h
      by_cases hshort : s.toList.length ≤ 4300
      · rw [if_pos hshort] at h
        dsimp only at h
        rw [if_pos (Int.natCast_nonneg _)] at h
        obtain rfl := Except.ok.inj h
        refine ⟨Int.natCast_nonneg _, .inr ?_⟩
        have htext : toString ((digitsNat s.toList : ℕ) : ℤ) = .ofList (Nat.toDigits 10 (digitsNat s.toList)) := by
          rw [← String.toList_inj, String.toList_ofList]
          exact Nat.toList_repr
        rw [htext, toDigits_digitsNat hdigits hne hhead, String.ofList_toList]
      · rw [if_neg hshort] at h
        cases h
    · rw [if_neg hdecimal] at h
      cases h
  | _ => cases h

/-- What `require_int` reads is the integer of the text. -/
theorem textOf_of_requireInt (texts : Texts) {v : Json} {field : String} {n : ℤ} (h : requireInt v field 0 = .ok n) :
    textOf texts v = toString n := by
  rcases (requireInt_ok h).2 with rfl | rfl
  · rfl
  · rfl

theorem receiptText_of_requireInt (texts : Texts) {receipt : Dict} {name field : String} {n : ℤ}
    (h : requireInt (item receipt name) field 0 = .ok n) : receiptText texts receipt name = toString n := by
  unfold item at h
  unfold receiptText
  cases hget : receipt.get name with
  | none =>
    rw [hget] at h
    cases h
  | some v =>
    rw [hget] at h
    exact textOf_of_requireInt texts h

theorem isLowerHex_lower {c : Char} (h : isHex c = true) :
    isLowerHex (if c = .ofNat 0x212a then 'k' else c.toLower) = true ∧ c.toNat < 128 := by
  have hle : c.toNat < 103 := by
    simp only [isHex, isLowerHex, isDigit09, Bool.or_eq_true, Bool.and_eq_true, decide_eq_true_eq, Char.le_def,
      UInt32.le_iff_toNat_le] at h
    change ((48 ≤ c.toNat ∧ c.toNat ≤ 57) ∨ (97 ≤ c.toNat ∧ c.toNat ≤ 102)) ∨ (65 ≤ c.toNat ∧ c.toNat ≤ 70) at h
    omega
  have hall : ∀ n < 103, isHex (.ofNat n) = true →
      isLowerHex (if Char.ofNat n = .ofNat 0x212a then 'k' else (Char.ofNat n).toLower) = true := by decide
  refine ⟨?_, by omega⟩
  have := hall c.toNat hle
  rw [Char.ofNat_toNat] at this
  exact this h

/-- The bytes of a text are those of its lower case. -/
theorem lowerText_of_hexBytes (w : Wording) {v : Json} {field : String} {b : Bytes} (h : hexBytes v field = .ok b) :
    ∃ text, v = .str text ∧ lowerText w text = hexText b := by
  obtain ⟨digits, hstrip, rfl⟩ := map_eq_ok.1 h
  unfold stripHex at hstrip
  cases v with
  | str text =>
    refine ⟨text, rfl, ?_⟩
    dsimp only at hstrip
    split at hstrip
    · rename_i cs htext
      by_cases hdigits : cs.length % 2 = 0 ∧ cs.all isHex = true
      · rw [if_pos hdigits] at hstrip
        obtain rfl := Except.ok.inj hstrip
        have hhex : ∀ c ∈ cs, isHex c = true := List.all_eq_true.1 hdigits.2
        have hascii : text.toList.all (·.toNat < 128) = true := by
          rw [htext, List.all_eq_true]
          intro c hc
          rcases List.mem_cons.1 hc with rfl | hc
          · rfl
          rcases List.mem_cons.1 hc with rfl | hc
          · rfl
          · exact decide_eq_true (isLowerHex_lower (hhex c hc)).2
        have hlower : ∀ c ∈ lower cs, isLowerHex c = true := by
          intro c hc
          obtain ⟨d, hd, rfl⟩ := List.mem_map.1 hc
          exact (isLowerHex_lower (hhex d hd)).1
        have heven : (lower cs).length % 2 = 0 := by
          rw [lower, List.length_map]
          exact hdigits.1
        rw [lowerText, if_pos hascii, htext, ← String.toList_inj, String.toList_ofList, hexText, String.toList_append,
          hex_fromHex hlower heven]
        rfl
      · rw [if_neg hdigits] at hstrip
        cases hstrip
    · cases hstrip
  | _ => cases hstrip

/-! ## Promises -/

/-- What a receipt promises. -/
structure Promise where
  roomId : Word
  admissionId : Word
  transactionHash : Bytes32
  depositInboxId : Word
  depositContentHash : Bytes32
  deadlineBlock : Word
  maximumBatchIndex : Word
  bondEpoch : Word
  admissionFee : Word

/-- The struct of a promise, as its hash is taken. -/
def Promise.struct (p : Promise) : Bytes :=
  keccak256 (encodeUtf8 admissionReceiptType) ++ p.roomId.bytes ++ p.admissionId.bytes ++ p.transactionHash.1 ++
    p.depositInboxId.bytes ++ p.depositContentHash.1 ++ p.deadlineBlock.bytes ++ p.maximumBatchIndex.bytes ++
    p.bondEpoch.bytes ++ p.admissionFee.bytes

/-- The domain of a room manager on a chain, as its hash is taken. -/
def domain (chainId : Word) (roomManager : Address) : Bytes :=
  keccak256 (encodeUtf8 eip712DomainType) ++ keccak256 (encodeUtf8 admissionDomainName) ++
    keccak256 (encodeUtf8 admissionDomainVersion) ++ chainId.bytes ++ (List.replicate 12 0 ++ roomManager.1)

/-- The EIP-712 message of a promise. -/
def Promise.message (p : Promise) (chainId : Word) (roomManager : Address) : Bytes :=
  [0x19, 0x01] ++ keccak256 (domain chainId roomManager) ++ keccak256 p.struct

/-- The promise that a receipt spells. -/
structure Promise.Reads (p : Promise) (receipt : Dict) : Prop where
  roomId : requireInt (item receipt "roomId") ("receipt." ++ "roomId") 0 = .ok p.roomId.value
  admissionId : requireInt (item receipt "admissionId") ("receipt." ++ "admissionId") 0 = .ok p.admissionId.value
  transactionHash : hexBytes (item receipt "transactionHash") "ABI bytes32" = .ok p.transactionHash.1
  depositInboxId : requireInt (item receipt "depositInboxId") ("receipt." ++ "depositInboxId") 0 = .ok p.depositInboxId.value
  depositContentHash : hexBytes (item receipt "depositContentHash") "ABI bytes32" = .ok p.depositContentHash.1
  deadlineBlock : requireInt (item receipt "deadlineBlock") ("receipt." ++ "deadlineBlock") 0 = .ok p.deadlineBlock.value
  maximumBatchIndex : requireInt (item receipt "maximumBatchIndex") ("receipt." ++ "maximumBatchIndex") 0 =
    .ok p.maximumBatchIndex.value
  bondEpoch : requireInt (item receipt "bondEpoch") ("receipt." ++ "bondEpoch") 0 = .ok p.bondEpoch.value
  admissionFee : requireInt (item receipt "admissionFee") ("receipt." ++ "admissionFee") 0 = .ok p.admissionFee.value

theorem abiUint_eq_ok {n : ℤ} {b : Bytes} : abiUint n = .ok b ↔ ∃ w : Word, n = w.value ∧ b = w.bytes := by
  unfold abiUint
  rw [Nat.one_shiftLeft, Nat.cast_pow, Nat.cast_ofNat]
  by_cases hrange : n < 0 ∨ 2 ^ 256 ≤ n
  · rw [if_pos hrange]
    refine ⟨fun h => (by cases h), fun h => ?_⟩
    obtain ⟨w, rfl, -⟩ := h
    have hlt := w.lt
    omega
  · rw [if_neg hrange]
    constructor
    · intro h
      exact ⟨⟨n.toNat, by omega⟩, by dsimp only; omega, (Except.ok.inj h).symm⟩
    · rintro ⟨w, rfl, rfl⟩
      rw [Int.toNat_natCast]
      rfl

theorem receiptUint_eq_ok {receipt : Dict} {name : String} {b : Bytes} :
    receiptUint receipt name = .ok b ↔
      ∃ w : Word, requireInt (item receipt name) ("receipt." ++ name) 0 = .ok w.value ∧ b = w.bytes := by
  unfold receiptUint
  constructor
  · intro h
    obtain ⟨n, hn, h⟩ := bind_eq_ok.1 h
    obtain ⟨word, rfl, rfl⟩ := abiUint_eq_ok.1 h
    exact ⟨word, hn, rfl⟩
  · rintro ⟨word, hn, rfl⟩
    exact bind_eq_ok.2 ⟨_, hn, abiUint_eq_ok.2 ⟨word, rfl, rfl⟩⟩

theorem abiBytes32_eq_ok {v : Json} {b : Bytes} :
    abiBytes32 v = .ok b ↔ ∃ c : Bytes32, hexBytes v "ABI bytes32" = .ok c.1 ∧ b = c.1 := by
  unfold abiBytes32
  constructor
  · intro h
    obtain ⟨raw, hraw, h⟩ := bind_eq_ok.1 h
    obtain ⟨_, hlength, h⟩ := bind_eq_ok.1 h
    exact ⟨⟨raw, not_not.1 (raiseIf_eq_ok.1 hlength)⟩, hraw, (Except.ok.inj h).symm⟩
  · rintro ⟨c, hc, rfl⟩
    exact bind_eq_ok.2 ⟨_, hc, bind_eq_ok.2 ⟨(), raiseIf_eq_ok.2 (not_not.2 c.2), rfl⟩⟩

theorem abiAddress_eq_ok {v : Json} {b : Bytes} :
    abiAddress v = .ok b ↔ ∃ a : Address, hexBytes v "ABI address" = .ok a.1 ∧ b = List.replicate 12 0 ++ a.1 := by
  unfold abiAddress
  constructor
  · intro h
    obtain ⟨raw, hraw, h⟩ := bind_eq_ok.1 h
    obtain ⟨_, hlength, h⟩ := bind_eq_ok.1 h
    exact ⟨⟨raw, not_not.1 (raiseIf_eq_ok.1 hlength)⟩, hraw, (Except.ok.inj h).symm⟩
  · rintro ⟨a, ha, rfl⟩
    exact bind_eq_ok.2 ⟨_, ha, bind_eq_ok.2 ⟨(), raiseIf_eq_ok.2 (not_not.2 a.2), rfl⟩⟩

theorem encodeAscii_eq_ok {text : String} (h : text.toList.all (·.toNat < 128) = true) :
    encodeAscii text = .ok (encodeUtf8 text) := if_pos h

theorem ascii_types : eip712DomainType.toList.all (·.toNat < 128) = true ∧
    admissionDomainName.toList.all (·.toNat < 128) = true ∧ admissionDomainVersion.toList.all (·.toNat < 128) = true ∧
    admissionReceiptType.toList.all (·.toNat < 128) = true := by
  decide +kernel

theorem eip712DomainSeparator_eq_ok {chainId : ℤ} {contract : Json} {b : Bytes} :
    eip712DomainSeparator admissionDomainName admissionDomainVersion chainId contract = .ok b ↔
      ∃ (chain : Word) (manager : Address), chainId = chain.value ∧ hexBytes contract "ABI address" = .ok manager.1 ∧
        b = keccak256 (domain chain manager) := by
  obtain ⟨htype, hname, hversion, -⟩ := ascii_types
  unfold eip712DomainSeparator
  rw [encodeAscii_eq_ok htype, encodeAscii_eq_ok hname, encodeAscii_eq_ok hversion]
  constructor
  · intro h
    obtain ⟨_, htype, h⟩ := bind_eq_ok.1 h
    obtain ⟨_, hname, h⟩ := bind_eq_ok.1 h
    obtain ⟨_, hversion, h⟩ := bind_eq_ok.1 h
    obtain ⟨_, hchain, h⟩ := bind_eq_ok.1 h
    obtain ⟨_, hcontract, h⟩ := bind_eq_ok.1 h
    obtain rfl := Except.ok.inj htype
    obtain rfl := Except.ok.inj hname
    obtain rfl := Except.ok.inj hversion
    obtain ⟨chain, rfl, rfl⟩ := abiUint_eq_ok.1 hchain
    obtain ⟨manager, hmanager, rfl⟩ := abiAddress_eq_ok.1 hcontract
    exact ⟨chain, manager, rfl, hmanager, (Except.ok.inj h).symm⟩
  · rintro ⟨chain, manager, rfl, hmanager, rfl⟩
    exact bind_eq_ok.2 ⟨_, rfl, bind_eq_ok.2 ⟨_, rfl, bind_eq_ok.2 ⟨_, rfl, bind_eq_ok.2 ⟨_, abiUint_eq_ok.2 ⟨chain, rfl, rfl⟩,
      bind_eq_ok.2 ⟨_, abiAddress_eq_ok.2 ⟨manager, hmanager, rfl⟩, rfl⟩⟩⟩⟩⟩

/-- The digest of a receipt is the one of the promise that it spells. -/
theorem admissionReceiptDigest_eq_ok {chainId : ℤ} {roomManager : Json} {receipt : Dict} {digest : Bytes} :
    admissionReceiptDigest chainId roomManager receipt = .ok digest ↔
      ∃ (p : Promise) (chain : Word) (manager : Address), p.Reads receipt ∧ chainId = chain.value ∧
        hexBytes roomManager "ABI address" = .ok manager.1 ∧ digest = keccak256 (p.message chain manager) := by
  unfold admissionReceiptDigest
  rw [encodeAscii_eq_ok ascii_types.2.2.2]
  constructor
  · intro h
    obtain ⟨_, htype, h⟩ := bind_eq_ok.1 h
    obtain rfl := Except.ok.inj htype
    obtain ⟨_, hroom, h⟩ := bind_eq_ok.1 h
    obtain ⟨_, hadmission, h⟩ := bind_eq_ok.1 h
    obtain ⟨_, htransaction, h⟩ := bind_eq_ok.1 h
    obtain ⟨_, hinbox, h⟩ := bind_eq_ok.1 h
    obtain ⟨_, hcontent, h⟩ := bind_eq_ok.1 h
    obtain ⟨_, hdeadline, h⟩ := bind_eq_ok.1 h
    obtain ⟨_, hbatch, h⟩ := bind_eq_ok.1 h
    obtain ⟨_, hbond, h⟩ := bind_eq_ok.1 h
    obtain ⟨_, hfee, h⟩ := bind_eq_ok.1 h
    obtain ⟨_, hseparator, h⟩ := bind_eq_ok.1 h
    obtain ⟨roomId, roomReads, rfl⟩ := receiptUint_eq_ok.1 hroom
    obtain ⟨admissionId, admissionReads, rfl⟩ := receiptUint_eq_ok.1 hadmission
    obtain ⟨transactionHash, transactionReads, rfl⟩ := abiBytes32_eq_ok.1 htransaction
    obtain ⟨depositInboxId, inboxReads, rfl⟩ := receiptUint_eq_ok.1 hinbox
    obtain ⟨depositContentHash, contentReads, rfl⟩ := abiBytes32_eq_ok.1 hcontent
    obtain ⟨deadlineBlock, deadlineReads, rfl⟩ := receiptUint_eq_ok.1 hdeadline
    obtain ⟨maximumBatchIndex, batchReads, rfl⟩ := receiptUint_eq_ok.1 hbatch
    obtain ⟨bondEpoch, bondReads, rfl⟩ := receiptUint_eq_ok.1 hbond
    obtain ⟨admissionFee, feeReads, rfl⟩ := receiptUint_eq_ok.1 hfee
    obtain ⟨chain, manager, hchain, hmanager, rfl⟩ := eip712DomainSeparator_eq_ok.1 hseparator
    exact ⟨⟨roomId, admissionId, transactionHash, depositInboxId, depositContentHash, deadlineBlock, maximumBatchIndex, bondEpoch,
      admissionFee⟩, chain, manager, ⟨roomReads, admissionReads, transactionReads, inboxReads, contentReads, deadlineReads,
      batchReads, bondReads, feeReads⟩, hchain, hmanager, (Except.ok.inj h).symm⟩
  · rintro ⟨p, chain, manager, reads, hchain, hmanager, rfl⟩
    exact bind_eq_ok.2 ⟨_, rfl, bind_eq_ok.2 ⟨_, receiptUint_eq_ok.2 ⟨_, reads.roomId, rfl⟩,
      bind_eq_ok.2 ⟨_, receiptUint_eq_ok.2 ⟨_, reads.admissionId, rfl⟩,
      bind_eq_ok.2 ⟨_, abiBytes32_eq_ok.2 ⟨_, reads.transactionHash, rfl⟩,
      bind_eq_ok.2 ⟨_, receiptUint_eq_ok.2 ⟨_, reads.depositInboxId, rfl⟩,
      bind_eq_ok.2 ⟨_, abiBytes32_eq_ok.2 ⟨_, reads.depositContentHash, rfl⟩,
      bind_eq_ok.2 ⟨_, receiptUint_eq_ok.2 ⟨_, reads.deadlineBlock, rfl⟩,
      bind_eq_ok.2 ⟨_, receiptUint_eq_ok.2 ⟨_, reads.maximumBatchIndex, rfl⟩,
      bind_eq_ok.2 ⟨_, receiptUint_eq_ok.2 ⟨_, reads.bondEpoch, rfl⟩,
      bind_eq_ok.2 ⟨_, receiptUint_eq_ok.2 ⟨_, reads.admissionFee, rfl⟩,
      bind_eq_ok.2 ⟨_, eip712DomainSeparator_eq_ok.2 ⟨chain, manager, hchain, hmanager, rfl⟩, rfl⟩⟩⟩⟩⟩⟩⟩⟩⟩⟩⟩

theorem fromBig_lt_of_length {b : Bytes} (h : b.length = 32) : fromBig b < 2 ^ 256 := by
  have := fromBig_lt b
  rw [h] at this
  omega

/-- With a recovery id below two, the code returns the key under which the signature verifies, with a nonce point at `r`
whose ordinate has that parity. -/
theorem recoverPublicKey_small {digest : Bytes} (hdigest : digest.length = 32) {r s recovery : ℕ} (hid : recovery ≤ 1)
    {k : ℕ × ℕ} :
    recoverPublicKey digest r s recovery = .ok k ↔
      ∃ p y, coordinates p = some k ∧ Verifies digest r s p ∧
        coordinates (noncePoint generator (scalarOf digest) r s p) = some (r, y) ∧ y % 2 = recovery := by
  rw [recoverPublicKey_eq_ok, if_neg (by omega)]
  constructor
  · rintro ⟨-, hr, hs, -, R, y, hR, hparity, hkey⟩
    have hnonce := (keyOf_eq_iff (scalar_ne_zero hr.1 hr.2) (scalar_ne_zero hs.1 hs.2)).1
      (rfl : keyOf generator (scalarOf digest) r s R = _)
    refine ⟨_, y, hkey, ?_, hnonce ▸ hR, by omega⟩
    refine ⟨hr.1, hr.2, hs.1, hs.2, _, hnonce ▸ abscissa_of_coordinates hR, ?_⟩
    rw [ZMod.val_natCast_of_lt (coordinates_eq_some.1 hR).1, Nat.mod_eq_of_lt hr.2]
  · rintro ⟨p, y, hp, ⟨hrpos, hr, hspos, hs, -⟩, hR, hparity⟩
    refine ⟨hdigest, ⟨hrpos, hr⟩, ⟨hspos, hs⟩, by omega, _, y, hR, by omega, ?_⟩
    rw [(keyOf_eq_iff (scalar_ne_zero hrpos hr) (scalar_ne_zero hspos hs)).2 rfl, hp]

/-- The 65 bytes of a signature `(r, s)` of the digest under the public key: `s` is small, and the last byte tells the
parity of the ordinate of the nonce point, whose abscissa is `r`. -/
def SignedBy (digest : Bytes) (signature : Json) (publicKey : Point) : Prop :=
  ∃ raw r s y, hexBytes signature "admission receipt signature" = .ok raw ∧ raw.length = 65 ∧
    raw.take 64 = toBig 32 r ++ toBig 32 s ∧ s ≤ secp256k1HalfN ∧ Verifies digest r s publicKey ∧
    coordinates (noncePoint generator (scalarOf digest) r s publicKey) = some (r, y) ∧
    ((raw.getD 64 0).toNat = y % 2 ∨ (raw.getD 64 0).toNat = y % 2 + 27)

theorem recoverSignatureAddress_eq_ok {digest : Bytes} (hdigest : digest.length = 32) {signature : Json} {address : String} :
    recoverSignatureAddress digest signature "admission receipt signature" = .ok address ↔
      ∃ publicKey k, SignedBy digest signature publicKey ∧ coordinates publicKey = some k ∧ address = publicKeyAddress k := by
  unfold recoverSignatureAddress
  constructor
  · intro h
    obtain ⟨raw, hraw, h⟩ := bind_eq_ok.1 h
    obtain ⟨_, hlength, h⟩ := bind_eq_ok.1 h
    obtain ⟨_, hid, h⟩ := bind_eq_ok.1 h
    obtain ⟨_, hlow, h⟩ := bind_eq_ok.1 h
    obtain ⟨k, hrecover, h⟩ := bind_eq_ok.1 h
    have hlength := not_not.1 (raiseIf_eq_ok.1 hlength)
    have hid := raiseIf_eq_ok.1 hid
    have hlow := raiseIf_eq_ok.1 hlow
    have hfirst : (raw.take 32).length = 32 := by
      rw [List.length_take]
      omega
    have hsecond : ((raw.drop 32).take 32).length = 32 := by
      rw [List.length_take, List.length_drop]
      omega
    have hsmall : (if (raw.getD 64 0).toNat = 27 ∨ (raw.getD 64 0).toNat = 28 then (raw.getD 64 0).toNat - 27
        else (raw.getD 64 0).toNat) ≤ 1 := by omega
    obtain ⟨publicKey, y, hkey, hverifies, hnonce, hparity⟩ := (recoverPublicKey_small hdigest hsmall).1 hrecover
    refine ⟨publicKey, k, ⟨raw, _, _, y, hraw, hlength, ?_, not_lt.1 hlow, hverifies, hnonce, ?_⟩, hkey, (Except.ok.inj h).symm⟩
    · have hr := toBig_fromBig (raw.take 32)
      have hs := toBig_fromBig ((raw.drop 32).take 32)
      rw [hfirst] at hr
      rw [hsecond] at hs
      rw [hr, hs, ← List.take_add]
    · split at hparity <;> omega
  · rintro ⟨publicKey, k, ⟨raw, r, s, y, hraw, hlength, hparts, hlow, hverifies, hnonce, hv⟩, hkey, rfl⟩
    have hr : r < 256 ^ 32 := hverifies.2.1.trans (by decide)
    have hs : s < 256 ^ 32 := hverifies.2.2.2.1.trans (by decide)
    have hfirst : fromBig (raw.take 32) = r := by
      have htake : raw.take 32 = toBig 32 r := by
        have := congrArg (List.take 32) hparts
        rw [List.take_take, List.take_left' (length_toBig 32 r)] at this
        exact this
      rw [htake, fromBig_toBig_of_lt hr]
    have hsecond : fromBig ((raw.drop 32).take 32) = s := by
      have hdrop : (raw.drop 32).take 32 = toBig 32 s := by
        have := congrArg (List.drop 32) hparts
        rw [List.drop_take, List.drop_left' (length_toBig 32 r)] at this
        exact this
      rw [hdrop, fromBig_toBig_of_lt hs]
    have hrecovery : (if (raw.getD 64 0).toNat = 27 ∨ (raw.getD 64 0).toNat = 28 then (raw.getD 64 0).toNat - 27
        else (raw.getD 64 0).toNat) = y % 2 := by
      split <;> omega
    have hrecover := (recoverPublicKey_small hdigest (by omega)).2 ⟨publicKey, y, hkey, hverifies, hnonce, rfl⟩
    refine bind_eq_ok.2 ⟨raw, hraw, bind_eq_ok.2 ⟨(), raiseIf_eq_ok.2 (not_not.2 hlength), ?_⟩⟩
    dsimp only
    rw [hrecovery, hfirst, hsecond]
    exact bind_eq_ok.2 ⟨(), raiseIf_eq_ok.2 (by omega), bind_eq_ok.2 ⟨(), raiseIf_eq_ok.2 (not_lt.2 hlow),
      bind_eq_ok.2 ⟨k, hrecover, rfl⟩⟩⟩

/-! ## Slashable receipts -/

/-- The decimal text of a word. -/
def Word.text (v : Word) : String := toString v.value

section Slashing

variable (texts : Texts) (w : Wording)

/-- A field of a record spells the text. -/
def Spells (d : Dict) (name text : String) : Prop := ∃ v, d.get name = some v ∧ textOf texts v = text

/-- A field of a record spells the text, its letters of either case. -/
def SpellsLower (d : Dict) (name text : String) : Prop := ∃ v, d.get name = some v ∧ lowerText w (textOf texts v) = text

/-- The promise is the one that was asked for. -/
structure Promise.Answers (p : Promise) (roomId : String) (request deposit : Dict) : Prop where
  roomId : roomId = p.roomId.text
  transactionHash : SpellsLower texts w request "transactionHash" (hexText p.transactionHash.1)
  depositInboxId : Spells texts request "depositInboxId" p.depositInboxId.text
  deadlineBlock : Spells texts request "deadlineBlock" p.deadlineBlock.text
  maximumBatchIndex : Spells texts request "maximumBatchIndex" p.maximumBatchIndex.text
  admissionFee : Spells texts request "admissionFee" p.admissionFee.text
  depositContentHash : SpellsLower texts w deposit "depositContentHash" (hexText p.depositContentHash.1)

/-- The room's signer, at this address, signed the promise for the room manager of the stack. -/
def Stack.Slashable (stack : Stack) (p : Promise) (roomState receipt : Dict) (signer : String) : Prop :=
  ∃ (chain : Word) (manager : Address) (contract : String) (publicKey : Point) (k : ℕ × ℕ),
    stack.chainId = chain.value ∧ stack.address w "roomManager" = .ok contract ∧
      hexBytes (.str contract) "ABI address" = .ok manager.1 ∧
      SignedBy (keccak256 (p.message chain manager)) (item receipt "signature") publicKey ∧
      coordinates publicKey = some k ∧ signer = publicKeyAddress k ∧ SpellsLower texts w roomState "admissionSigner" signer

/-- What `validate_admission_receipt` returns for a promise. -/
def Promise.record (p : Promise) (signer : String) : Dict :=
  [("roomId", .str p.roomId.text), ("admissionId", .str p.admissionId.text),
    ("transactionHash", .str (hexText p.transactionHash.1)), ("depositInboxId", .str p.depositInboxId.text),
    ("depositContentHash", .str (hexText p.depositContentHash.1)), ("deadlineBlock", .str p.deadlineBlock.text),
    ("maximumBatchIndex", .str p.maximumBatchIndex.text), ("admissionFee", .str p.admissionFee.text),
    ("bondEpoch", .str p.bondEpoch.text), ("admissionSigner", .str signer)]

theorem checks_pass {roomId : String} {receipt : Dict} {expected : List (String × String)} :
    (∃ us, expected.mapM (checkField texts w roomId receipt) = .ok us) ↔
      ∀ field ∈ expected, actualField texts w receipt field.1 = field.2 := by
  induction expected with
  | nil => exact ⟨fun _ _ h => absurd h List.not_mem_nil, fun _ => ⟨[], rfl⟩⟩
  | cons field rest ih =>
    rw [List.forall_mem_cons, ← ih]
    constructor
    · rintro ⟨us, h⟩
      rw [List.mapM_cons] at h
      obtain ⟨u, hu, h⟩ := bind_eq_ok.1 h
      obtain ⟨us, hus, -⟩ := bind_eq_ok.1 h
      exact ⟨not_not.1 (raiseIf_eq_ok.1 hu), us, hus⟩
    · rintro ⟨hfield, us, hus⟩
      refine ⟨() :: us, ?_⟩
      rw [List.mapM_cons]
      exact bind_eq_ok.2 ⟨(), raiseIf_eq_ok.2 (not_not.2 hfield), bind_eq_ok.2 ⟨us, hus, rfl⟩⟩

theorem isCanonicalId_text (v : Word) : isCanonicalId v.text.toList = true ↔ 0 < v.value := by
  have htext : v.text.toList = Nat.toDigits 10 v.value := Nat.toList_repr
  rw [htext]
  have hdigits := fun c (hc : c ∈ Nat.toDigits 10 v.value) => isDigit09_of_mem_toDigits hc
  constructor
  · intro h
    refine Nat.pos_of_ne_zero fun hzero => ?_
    rw [hzero] at h
    cases h
  · intro h
    have hhead := head_toDigits h
    cases hcs : Nat.toDigits 10 v.value with
    | nil => exact absurd (congrArg List.length hcs) Nat.length_toDigits_pos.ne'
    | cons c cs =>
      rw [hcs] at hhead hdigits
      rw [List.forall_mem_cons] at hdigits
      rw [isCanonicalId, hdigits.1, Bool.true_and, Bool.and_eq_true, bne_iff_ne, List.all_eq_true]
      exact ⟨fun hc => hhead (by rw [hc]; rfl), hdigits.2⟩

/-- A field that ends in `Hash`. -/
theorem actualField_hash {receipt : Dict} {name field : String} {b : Bytes} (hname : endsWith name.toList "Hash".toList = true)
    (h : hexBytes (item receipt name) field = .ok b) : actualField texts w receipt name = hexText b := by
  obtain ⟨text, hitem, hlower⟩ := lowerText_of_hexBytes w h
  unfold item at hitem
  cases hget : receipt.get name with
  | none =>
    rw [hget] at hitem
    cases hitem
  | some v =>
    rw [hget, Option.getD_some] at hitem
    rw [actualField, if_pos hname, receiptText, hget, Option.getD_some, hitem]
    exact hlower

theorem actualField_int {receipt : Dict} {name field : String} {v : Word}
    (hname : endsWith name.toList "Hash".toList = false) (h : requireInt (item receipt name) field 0 = .ok v.value) :
    actualField texts w receipt name = v.text := by
  rw [actualField, if_neg (by rw [hname]; exact Bool.false_ne_true)]
  exact receiptText_of_requireInt texts h

/-- What the loop over `expected.items()` compares the receipt with. -/
def Promise.expected (p : Promise) : List (String × String) :=
  [("roomId", p.roomId.text), ("transactionHash", hexText p.transactionHash.1), ("depositInboxId", p.depositInboxId.text),
    ("deadlineBlock", p.deadlineBlock.text), ("maximumBatchIndex", p.maximumBatchIndex.text),
    ("admissionFee", p.admissionFee.text), ("depositContentHash", hexText p.depositContentHash.1)]

theorem expectedFields_eq_ok {roomId : String} {request deposit : Dict} {expected : List (String × String)} :
    expectedFields texts w roomId request deposit = .ok expected ↔
      ∃ transactionHash depositInboxId deadlineBlock maximumBatchIndex admissionFee depositContentHash,
        SpellsLower texts w request "transactionHash" transactionHash ∧ Spells texts request "depositInboxId" depositInboxId ∧
        Spells texts request "deadlineBlock" deadlineBlock ∧ Spells texts request "maximumBatchIndex" maximumBatchIndex ∧
        Spells texts request "admissionFee" admissionFee ∧ SpellsLower texts w deposit "depositContentHash" depositContentHash ∧
        expected = [("roomId", roomId), ("transactionHash", transactionHash), ("depositInboxId", depositInboxId),
          ("deadlineBlock", deadlineBlock), ("maximumBatchIndex", maximumBatchIndex), ("admissionFee", admissionFee),
          ("depositContentHash", depositContentHash)] := by
  unfold expectedFields
  constructor
  · intro h
    obtain ⟨transaction, htransaction, h⟩ := bind_eq_ok.1 h
    obtain ⟨inbox, hinbox, h⟩ := bind_eq_ok.1 h
    obtain ⟨deadline, hdeadline, h⟩ := bind_eq_ok.1 h
    obtain ⟨batch, hbatch, h⟩ := bind_eq_ok.1 h
    obtain ⟨fee, hfee, h⟩ := bind_eq_ok.1 h
    obtain ⟨content, hcontent, h⟩ := bind_eq_ok.1 h
    exact ⟨_, _, _, _, _, _, ⟨_, required_eq_ok.1 htransaction, rfl⟩, ⟨_, required_eq_ok.1 hinbox, rfl⟩,
      ⟨_, required_eq_ok.1 hdeadline, rfl⟩, ⟨_, required_eq_ok.1 hbatch, rfl⟩, ⟨_, required_eq_ok.1 hfee, rfl⟩,
      ⟨_, required_eq_ok.1 hcontent, rfl⟩, (Except.ok.inj h).symm⟩
  · rintro ⟨_, _, _, _, _, _, ⟨_, htransaction, rfl⟩, ⟨_, hinbox, rfl⟩, ⟨_, hdeadline, rfl⟩, ⟨_, hbatch, rfl⟩, ⟨_, hfee, rfl⟩,
      ⟨_, hcontent, rfl⟩, rfl⟩
    exact bind_eq_ok.2 ⟨_, required_eq_ok.2 htransaction, bind_eq_ok.2 ⟨_, required_eq_ok.2 hinbox,
      bind_eq_ok.2 ⟨_, required_eq_ok.2 hdeadline, bind_eq_ok.2 ⟨_, required_eq_ok.2 hbatch,
      bind_eq_ok.2 ⟨_, required_eq_ok.2 hfee, bind_eq_ok.2 ⟨_, required_eq_ok.2 hcontent, rfl⟩⟩⟩⟩⟩⟩

theorem answers_iff {p : Promise} {roomId : String} {request deposit : Dict} :
    p.Answers texts w roomId request deposit ↔ expectedFields texts w roomId request deposit = .ok p.expected := by
  rw [expectedFields_eq_ok]
  constructor
  · intro h
    exact ⟨_, _, _, _, _, _, h.transactionHash, h.depositInboxId, h.deadlineBlock, h.maximumBatchIndex, h.admissionFee,
      h.depositContentHash, by rw [h.roomId]; rfl⟩
  · rintro ⟨_, _, _, _, _, _, htransaction, hinbox, hdeadline, hbatch, hfee, hcontent, h⟩
    simp only [Promise.expected, List.cons.injEq, Prod.mk.injEq, true_and, and_true] at h
    obtain ⟨hroom, rfl, rfl, rfl, rfl, rfl, rfl⟩ := h
    exact ⟨hroom.symm, htransaction, hinbox, hdeadline, hbatch, hfee, hcontent⟩

/-- The fields of a receipt that spells a promise. -/
theorem actualField_expected {p : Promise} {receipt : Dict} (reads : p.Reads receipt) :
    p.expected.map Prod.snd = p.expected.map fun field => actualField texts w receipt field.1 := by
  simp only [Promise.expected, List.map_cons, List.map_nil]
  rw [actualField_int texts w (by decide) reads.roomId, actualField_hash texts w (by decide) reads.transactionHash,
    actualField_int texts w (by decide) reads.depositInboxId, actualField_int texts w (by decide) reads.deadlineBlock,
    actualField_int texts w (by decide) reads.maximumBatchIndex, actualField_int texts w (by decide) reads.admissionFee,
    actualField_hash texts w (by decide) reads.depositContentHash]

/-- The loop passes exactly at what the promise of the receipt expects. -/
theorem checks_pass_iff {p : Promise} {roomId : String} {request deposit receipt : Dict} (reads : p.Reads receipt)
    {expected : List (String × String)} (h : expectedFields texts w roomId request deposit = .ok expected) :
    (∀ field ∈ expected, actualField texts w receipt field.1 = field.2) ↔ expected = p.expected := by
  have hfields := actualField_expected texts w reads
  obtain ⟨_, _, _, _, _, _, -, -, -, -, -, -, rfl⟩ := (expectedFields_eq_ok texts w).1 h
  simp only [Promise.expected, List.map_cons, List.map_nil, List.cons.injEq, and_true] at hfields
  obtain ⟨hroom, htransaction, hinbox, hdeadline, hbatch, hfee, hcontent⟩ := hfields
  simp only [List.forall_mem_cons, Promise.expected, List.cons.injEq, Prod.mk.injEq, true_and, and_true, List.not_mem_nil,
    false_implies, implies_true, ← hroom, ← htransaction, ← hinbox, ← hdeadline, ← hbatch, ← hfee, ← hcontent]
  tauto

/-- A receipt is accepted exactly when it spells the promise that was asked for, under a positive admission id, and the
room's signer signed that promise for the room manager of the stack. -/
theorem validates_iff_slashable (stack : Stack) (roomId : String) (request deposit roomState receipt record : Dict) :
    stack.validateAdmissionReceipt texts w roomId request deposit roomState receipt = .ok record ↔
      ∃ (p : Promise) (signer : String), p.Reads receipt ∧ 0 < p.admissionId.value ∧
        p.Answers texts w roomId request deposit ∧ stack.Slashable texts w p roomState receipt signer ∧
        record = p.record signer := by
  unfold Stack.validateAdmissionReceipt
  constructor
  · intro h
    obtain ⟨expected, hexpected, h⟩ := bind_eq_ok.1 h
    obtain ⟨us, hchecks, h⟩ := bind_eq_ok.1 h
    obtain ⟨_, hid, h⟩ := bind_eq_ok.1 h
    obtain ⟨bond, hbond, h⟩ := bind_eq_ok.1 h
    obtain ⟨contract, hcontract, h⟩ := bind_eq_ok.1 h
    obtain ⟨digest, hdigest, h⟩ := bind_eq_ok.1 h
    obtain ⟨signer, hsigner, h⟩ := bind_eq_ok.1 h
    obtain ⟨roomSigner, hroomSigner, h⟩ := bind_eq_ok.1 h
    obtain ⟨_, hsame, h⟩ := bind_eq_ok.1 h
    obtain ⟨p, chain, manager, reads, hchain, hmanager, rfl⟩ := admissionReceiptDigest_eq_ok.1 hdigest
    obtain ⟨publicKey, k, hsigned, hk, rfl⟩ := (recoverSignatureAddress_eq_ok (length_keccak256 _)).1 hsigner
    have hsame := not_not.1 (raiseIf_eq_ok.1 hsame)
    have hadmission := receiptText_of_requireInt texts reads.admissionId
    have hid := raiseIf_eq_ok.1 hid
    rw [hadmission] at hid h
    obtain rfl := (checks_pass_iff texts w reads hexpected).1 ((checks_pass texts w).1 ⟨us, hchecks⟩)
    refine ⟨p, _, reads, (isCanonicalId_text _).1 (Bool.of_not_eq_false hid), (answers_iff texts w).2 hexpected,
      ⟨chain, manager, contract, publicKey, k, hchain, hcontract, hmanager, hsigned, hk, rfl, roomSigner,
        required_eq_ok.1 hroomSigner, hsame.symm⟩, ?_⟩
    obtain ⟨_, _, _, _, _, _, -, -, -, -, -, -, hroom⟩ := (expectedFields_eq_ok texts w).1 hexpected
    obtain rfl := (Prod.mk.inj (List.cons.inj hroom).1).2
    obtain rfl := Except.ok.inj h
    rw [textOf_of_requireInt texts reads.bondEpoch]
    rfl
  · rintro ⟨p, signer, reads, hpos, hanswers, ⟨chain, manager, contract, publicKey, k, hchain, hcontract, hmanager, hsigned, hk,
      rfl, roomSigner, hroomSigner, hsame⟩, rfl⟩
    have hexpected := (answers_iff texts w).1 hanswers
    obtain ⟨us, hchecks⟩ := (checks_pass texts w).2 ((checks_pass_iff texts w reads hexpected).2 rfl)
    refine bind_eq_ok.2 ⟨_, hexpected, bind_eq_ok.2 ⟨us, hchecks, ?_⟩⟩
    dsimp only
    rw [receiptText_of_requireInt texts reads.admissionId, textOf_of_requireInt texts reads.bondEpoch, hanswers.roomId]
    refine bind_eq_ok.2 ⟨(), raiseIf_eq_ok.2 ?_, bind_eq_ok.2 ⟨_, reads.bondEpoch, bind_eq_ok.2 ⟨contract, hcontract,
      bind_eq_ok.2 ⟨_, admissionReceiptDigest_eq_ok.2 ⟨p, chain, manager, reads, hchain, hmanager, rfl⟩,
      bind_eq_ok.2 ⟨_, (recoverSignatureAddress_eq_ok (length_keccak256 _)).2 ⟨publicKey, k, hsigned, hk, rfl⟩,
      bind_eq_ok.2 ⟨roomSigner, required_eq_ok.2 hroomSigner,
      bind_eq_ok.2 ⟨(), raiseIf_eq_ok.2 (not_not.2 hsame.symm), rfl⟩⟩⟩⟩⟩⟩⟩
    rw [Bool.eq_false_iff, not_not]
    exact (isCanonicalId_text p.admissionId).2 hpos

end Slashing

/-! ## What a digest commits to -/

theorem Word.bytes_injective : Function.Injective Word.bytes := by
  intro v w h
  have hv : fromBig v.bytes = v.value := fromBig_toBig_of_lt v.lt
  have hw : fromBig w.bytes = w.value := fromBig_toBig_of_lt w.lt
  exact Word.ext (by rw [← hv, h, hw])

@[simp] theorem Word.length_bytes (v : Word) : v.bytes.length = 32 := length_toBig 32 v.value

theorem Promise.struct_injective : Function.Injective Promise.struct := by
  intro p q h
  unfold Promise.struct at h
  obtain ⟨h, hfee⟩ := List.append_inj' h (by simp)
  obtain ⟨h, hbond⟩ := List.append_inj' h (by simp)
  obtain ⟨h, hbatch⟩ := List.append_inj' h (by simp)
  obtain ⟨h, hdeadline⟩ := List.append_inj' h (by simp)
  obtain ⟨h, hcontent⟩ := List.append_inj' h (p.depositContentHash.2.trans q.depositContentHash.2.symm)
  obtain ⟨h, hinbox⟩ := List.append_inj' h (by simp)
  obtain ⟨h, htransaction⟩ := List.append_inj' h (p.transactionHash.2.trans q.transactionHash.2.symm)
  obtain ⟨h, hadmission⟩ := List.append_inj' h (by simp)
  obtain ⟨-, hroom⟩ := List.append_inj' h (by simp)
  cases p
  cases q
  rw [Promise.mk.injEq]
  exact ⟨Word.bytes_injective hroom, Word.bytes_injective hadmission, Subtype.ext htransaction, Word.bytes_injective hinbox,
    Subtype.ext hcontent, Word.bytes_injective hdeadline, Word.bytes_injective hbatch, Word.bytes_injective hbond,
    Word.bytes_injective hfee⟩

theorem domain_inj {chain chain' : Word} {manager manager' : Address} (h : domain chain manager = domain chain' manager') :
    chain = chain' ∧ manager = manager' := by
  unfold domain at h
  obtain ⟨h, hmanager⟩ := List.append_inj' h (by simp [manager.2, manager'.2])
  obtain ⟨-, hchain⟩ := List.append_inj' h (by simp)
  exact ⟨Word.bytes_injective hchain, Subtype.ext (List.append_cancel_left hmanager)⟩

/-- Two texts of one hash. -/
def Collide (a b : Bytes) : Prop := a ≠ b ∧ keccak256 a = keccak256 b

theorem eq_or_collide {a b : Bytes} (h : keccak256 a = keccak256 b) : a = b ∨ Collide a b :=
  or_iff_not_imp_left.2 fun hne => ⟨hne, h⟩

/-- Receipts of one digest spell the same promise, for one room manager on one chain, unless two of the texts that their
digests are taken of collide. -/
theorem admissionReceiptDigest_commits {chainId chainId' : ℤ} {roomManager roomManager' : Json} {receipt receipt' : Dict}
    {digest : Bytes} (h : admissionReceiptDigest chainId roomManager receipt = .ok digest)
    (h' : admissionReceiptDigest chainId' roomManager' receipt' = .ok digest) :
    ∃ (p p' : Promise) (chain chain' : Word) (manager manager' : Address), p.Reads receipt ∧ p'.Reads receipt' ∧
      chainId = chain.value ∧ chainId' = chain'.value ∧ hexBytes roomManager "ABI address" = .ok manager.1 ∧
      hexBytes roomManager' "ABI address" = .ok manager'.1 ∧
      ((p = p' ∧ chain = chain' ∧ manager = manager') ∨ Collide p.struct p'.struct ∨
        Collide (domain chain manager) (domain chain' manager') ∨
        Collide (p.message chain manager) (p'.message chain' manager')) := by
  obtain ⟨p, chain, manager, reads, hchain, hmanager, rfl⟩ := admissionReceiptDigest_eq_ok.1 h
  obtain ⟨p', chain', manager', reads', hchain', hmanager', hdigest⟩ := admissionReceiptDigest_eq_ok.1 h'
  refine ⟨p, p', chain, chain', manager, manager', reads, reads', hchain, hchain', hmanager, hmanager', ?_⟩
  rcases eq_or_collide hdigest with hmessage | hmessage
  · unfold Promise.message at hmessage
    obtain ⟨hdomain, hstruct⟩ := List.append_inj' hmessage (by rw [length_keccak256, length_keccak256])
    rcases eq_or_collide hstruct with hstruct | hstruct
    · rcases eq_or_collide (List.append_cancel_left hdomain) with hdomain | hdomain
      · exact .inl ⟨Promise.struct_injective hstruct, domain_inj hdomain⟩
      · exact .inr (.inr (.inl hdomain))
    · exact .inr (.inl hstruct)
  · exact .inr (.inr (.inr hmessage))

/-- A receipt in numbers or in decimal texts. -/
def sampleReceipt (seven : Json) : Dict :=
  [("roomId", seven), ("admissionId", seven), ("transactionHash", .str (.ofList ("0x".toList ++ List.replicate 64 'A'))),
    ("depositInboxId", seven), ("depositContentHash", .str (.ofList ("0x".toList ++ List.replicate 64 '1'))),
    ("deadlineBlock", seven), ("maximumBatchIndex", seven), ("bondEpoch", seven), ("admissionFee", seven)]

/-- The promise of the sample receipts. -/
def samplePromise : Promise :=
  ⟨⟨7, by decide⟩, ⟨7, by decide⟩, ⟨List.replicate 32 0xaa, rfl⟩, ⟨7, by decide⟩, ⟨List.replicate 32 0x11, rfl⟩, ⟨7, by decide⟩,
    ⟨7, by decide⟩, ⟨7, by decide⟩, ⟨7, by decide⟩⟩

theorem sampleReceipt_reads {seven : Json} (h : ∀ field, requireInt seven field 0 = .ok 7) :
    samplePromise.Reads (sampleReceipt seven) := by
  have htransaction : hexBytes (.str (.ofList ("0x".toList ++ List.replicate 64 'A'))) "ABI bytes32" =
      .ok (List.replicate 32 0xaa) := by decide
  have hcontent : hexBytes (.str (.ofList ("0x".toList ++ List.replicate 64 '1'))) "ABI bytes32" =
      .ok (List.replicate 32 0x11) := by decide
  exact ⟨h _, h _, htransaction, h _, hcontent, h _, h _, h _, h _⟩

theorem sampleReceipt_digest {seven : Json} (h : ∀ field, requireInt seven field 0 = .ok 7) :
    admissionReceiptDigest 1 (.str (.ofList ("0x".toList ++ List.replicate 40 '2'))) (sampleReceipt seven) =
      .ok (keccak256 (samplePromise.message ⟨1, by decide⟩ ⟨List.replicate 20 0x22, rfl⟩)) :=
  admissionReceiptDigest_eq_ok.2 ⟨samplePromise, ⟨1, by decide⟩, ⟨List.replicate 20 0x22, rfl⟩, sampleReceipt_reads h, rfl,
    by decide, rfl⟩

theorem admissionReceiptDigest_commits_sample :
    ∃ p p' : Promise, p.Reads (sampleReceipt (.int 7)) ∧ p'.Reads (sampleReceipt (.str "7")) := by
  obtain ⟨p, p', -, -, -, -, reads, reads', -⟩ := admissionReceiptDigest_commits
    (sampleReceipt_digest fun field => (rfl : requireInt (.int 7) field 0 = .ok 7))
    (sampleReceipt_digest fun field => (rfl : requireInt (.str "7") field 0 = .ok 7))
  exact ⟨p, p', reads, reads'⟩

end Zkdeal.OwnerSoak
