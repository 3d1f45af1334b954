import Zkdeal.BackupRestore.Control
import Zkdeal.Python.Hex
import Zkdeal.Python.JsonText

/-!
# Sealed artifacts

A backup encrypts each artifact with AES-GCM, bound to the candidate, the backup, its name and the key id, and keeps
the nonce and two digests.  A restore decrypts it with the same values.
-/

namespace Zkdeal.BackupRestore

open Interaction Raising Python Python.Sha256

/-! ## Operations -/

/-- `subprocess.CompletedProcess` -/
structure Completed where
  returncode : ℤ
  stdout : Bytes
  stderr : Bytes

/-- What the controller does outside of itself. -/
inductive ControlOp : Type where
  | read (path : String)
  | enter (path : String)
  | write (path : String) (bytes : Bytes)
  | random (count : ℕ)
  | mkdir (path : String)
  | run (command : List String) (env : List (String × String)) (timeout : ℤ)
  deriving DecidableEq

/-- What an operation answers; `none` and `false` where it raises. -/
def ControlOp.Answer : ControlOp → Type
  | .read _ => Option Bytes
  | .random _ => Bytes
  | .run _ _ _ => Option Completed
  | _ => Bool

/-- A program of the controller. -/
abbrev Control (α : Type) := Raising Raised ControlOp ControlOp.Answer α

/-- `path.read_bytes()` -/
def readBytes (path : String) : Control Bytes := do
  let r : Option Bytes ← perform (ControlOp.read path)
  match r with
  | some bytes => return bytes
  | none => throw .other

/-- `AESGCM(key)`: `encrypt(nonce, data, aad)`, and `decrypt(nonce, data, aad)`, which is `none` where it raises
`InvalidTag`. -/
structure Aead where
  encrypt (key nonce data aad : Bytes) : Bytes
  decrypt (key nonce data aad : Bytes) : Option Bytes

/-- `artifact_aad(candidate_id, backup_id, name, key_id)` -/
def artifactAad (candidateId backupId name keyId : String) : Bytes :=
  canonicalBytes (.obj [("aad", .str "zkdeal-backup-artifact-v1"), ("candidateId", .str candidateId),
    ("backupId", .str backupId), ("artifact", .str name), ("keyId", .str keyId)])

/-- The files of the controller, by their paths. -/
abbrev Workspace := String → Option Bytes

/-- What an operation does to the files; a command can do anything. -/
def works (w : Workspace) : (o : ControlOp) → o.Answer → Workspace → Prop
  | .read path, (r : Option Bytes), w' => w' = w ∧ ∀ bytes, r = some bytes → w path = some bytes
  | .enter path, (r : Bool), w' => if r = true then w path = none ∧ w' = Function.update w path (some []) else w' = w
  | .write path bytes, (r : Bool), w' =>
      ∃ written, (r = true → written = bytes) ∧ w' = Function.update w path (some written)
  | .random count, (r : Bytes), w' => w' = w ∧ r.length = count
  | .mkdir _, _, w' => w' = w
  | .run _ _ _, _, _ => True

/-- The operation did not fail. -/
def flawless : (o : ControlOp) → o.Answer → Prop
  | .read _, (r : Option Bytes) => r.isSome = true
  | .enter _, (r : Bool) | .write _ _, (r : Bool) | .mkdir _, (r : Bool) => r = true
  | .random _, _ => True
  | .run _ _ _, (r : Option Completed) => r.isSome = true

section Files

variable {w : Workspace} {ok : Workspace → ControlOp → Prop} {path : String} {bytes : Bytes}

theorem meets_readBytes (hok : ok w (.read path)) :
    Meets works ok (readBytes path) (fun bytes w' => w' = w ∧ w path = some bytes) (fun _ w' => w' = w) w := by
  refine meets_bind_iff.2 (meets_perform_iff.2 ⟨hok, fun r w' hr => ?_⟩)
  obtain ⟨rfl, hread⟩ := hr
  cases r with
  | none => exact meets_throw_iff.2 rfl
  | some bytes => exact meets_pure_iff.2 ⟨rfl, hread bytes rfl⟩

end Files

/-! ## Envelopes -/

/-- What `decrypt_artifact` compares or decrypts, beside the key. -/
structure Envelope where
  candidateId : String
  backupId : String
  name : String
  keyId : String
  nonce : Json
  encryptedSha256 : Json
  plaintextSha256 : Json
  ciphertext : Bytes

def Envelope.aad (e : Envelope) : Bytes := artifactAad e.candidateId e.backupId e.name e.keyId

/-- What was encrypted with a key: the nonce, the plaintext and the additional data. -/
structure Sealing where
  nonce : Bytes
  data : Bytes
  aad : Bytes

/-- The ciphertext of a sealing. -/
def Sealing.ciphertext (A : Aead) (key : Bytes) (s : Sealing) : Bytes := A.encrypt key s.nonce s.data s.aad

/-- An ideal AEAD: under a key, it decrypts what was encrypted and nothing else, and neither nonces nor ciphertexts
repeat. -/
structure Ideal (A : Aead) (key : Bytes) (log : Set Sealing) : Prop where
  decrypts : ∀ s ∈ log, A.decrypt key s.nonce (s.ciphertext A key) s.aad = some s.data
  authentic : ∀ nonce ciphertext aad data, A.decrypt key nonce ciphertext aad = some data →
    ⟨nonce, data, aad⟩ ∈ log ∧ ciphertext = A.encrypt key nonce data aad
  nonces : Set.InjOn Sealing.nonce log
  ciphertexts : Set.InjOn (Sealing.ciphertext A key) log

section Keyed

variable {A : Aead} {key : Bytes} {log : Set Sealing}

end Keyed

/-! ## Runs -/

section Programs

variable {A : Aead} {key : Bytes} {log : Set Sealing} {keyHex keyId candidateId backupId name : String}
  {plaintextPath encryptedPath : String} {w : Workspace}

/-- Operations that do not fail. -/
def smooth (w : Workspace) (o : ControlOp) (r : o.Answer) (w' : Workspace) : Prop := works w o r w' ∧ flawless o r

end Programs

namespace OneByte

def keyHex : String := "0000000000000000000000000000000000000000000000000000000000000000"

def key : Bytes := List.replicate 32 0

def nonce : Bytes := List.replicate 12 0

def plaintext : Bytes := [7]

def aad : Bytes := artifactAad "candidate-1" "bk-1" "database.dump" "key-1"

/-- The byte and the tag, as AES-256-GCM gives them. -/
def ciphertext : Bytes := [201, 164, 156, 71, 173, 103, 163, 239, 103, 140, 35, 103, 242, 239, 35, 143, 67]

/-- `AESGCM`, on what was encrypted here -/
def aead : Aead where
  encrypt key' nonce' data aad' :=
    if key' = key ∧ nonce' = nonce ∧ data = plaintext ∧ aad' = aad then ciphertext else []
  decrypt key' nonce' data aad' :=
    if key' = key ∧ nonce' = nonce ∧ data = ciphertext ∧ aad' = aad then some plaintext else none

def sealing : Sealing := ⟨nonce, plaintext, aad⟩

theorem encrypt_eq : aead.encrypt key nonce plaintext aad = ciphertext := by simp only [aead, and_self, if_true]

theorem decrypt_eq : aead.decrypt key nonce ciphertext aad = some plaintext := by simp only [aead, and_self, if_true]

theorem ideal : Ideal aead key {sealing} where
  decrypts := by
    intro s hs
    rw [Set.mem_singleton_iff.1 hs, Sealing.ciphertext]
    dsimp only [sealing]
    rw [encrypt_eq, decrypt_eq]
  authentic := by
    intro nonce' ciphertext' aad' data h
    simp only [aead, Option.ite_none_right_eq_some] at h
    obtain ⟨⟨-, hnonce, hciphertext, haad⟩, hdata⟩ := h
    rw [hnonce, hciphertext, haad, ← Option.some.inj hdata]
    refine ⟨Set.mem_singleton_iff.2 ?_, ?_⟩
    · rw [sealing]
    · rw [encrypt_eq]
  nonces := Set.injOn_singleton _ _
  ciphertexts := Set.injOn_singleton _ _

end OneByte

end Zkdeal.BackupRestore
