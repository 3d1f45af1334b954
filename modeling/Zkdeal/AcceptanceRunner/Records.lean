import Mathlib.Logic.Function.Basic
import Zkdeal.Python.Text

/-!
# Write-once records

`write_record` asks whether a record is there, writes its own one to a temporary file and renames it to the
name of the record.  Any number of runners do so in one directory, step by step and in any order.  A record
is written once as long as no rename finds the name taken.
-/

namespace Zkdeal.AcceptanceRunner

/-! ## The directory and the runners -/

/-- What a name of the evidence directory stands for. -/
inductive Entry : Type where
  | file (contents : List UInt8)
  | link (resolves : Bool)
  | directory
  deriving DecidableEq

/-- `exists()` follows links. -/
def entryExists : Option Entry → Bool
  | some (.file _) | some .directory => true
  | some (.link resolves) => resolves
  | none => false

/-- `is_symlink()` -/
def entryIsSymlink : Option Entry → Bool
  | some (.link _) => true
  | _ => false

/-- Where a runner is in `write_record`: between the two checks, after them, with its temporary file open,
written or renamed, or in `finally` after an exception. -/
inductive Phase : Type where
  | started
  | absent
  | free
  | opened
  | written
  | replaced
  | failing
  | returned
  | raised
  | dead
  deriving DecidableEq

/-- What a runner does next; an operation can fail, and a process can die. -/
inductive Action : Type where
  | exists_
  | isSymlink
  | open_
  | write
  | replace
  | cleanUp
  | fail (written : ℕ)
  | die
  deriving DecidableEq

/-- The names of the directory, and the runners by their process ids. -/
structure Runners where
  directory : String → Option Entry
  phase : ℕ → Phase

/-- `root / f".{filename}.{os.getpid()}.tmp"` -/
def temporaryName (filename : String) (pid : ℕ) : String := "." ++ filename ++ "." ++ toString pid ++ ".tmp"

section

variable {filename : String} {payload : ℕ → List UInt8}

/-- A runner in its next phase. -/
def Runners.enter (s : Runners) (pid : ℕ) (phase : Phase) : Runners :=
  { s with phase := Function.update s.phase pid phase }

/-- A name with its next entry. -/
def Runners.put (s : Runners) (name : String) (entry : Option Entry) : Runners :=
  { s with directory := Function.update s.directory name entry }

@[simp] theorem put_phase (s : Runners) (name : String) (entry : Option Entry) : (s.put name entry).phase = s.phase := rfl

/-- What an exception leads to: `finally` from the opening of the temporary file on. -/
def afterFailure : Phase → Option Phase
  | .started | .absent | .replaced | .failing => some .raised
  | .free | .opened | .written => some .failing
  | .returned | .raised | .dead => none

/-- One step of one runner, if that is what it does next. -/
def step (filename : String) (payload : ℕ → List UInt8) (s : Runners) (pid : ℕ) : Action → Option Runners
  | .exists_ =>
    if s.phase pid = .started then
      some (s.enter pid (if entryExists (s.directory filename) then .raised else .absent))
    else none
  | .isSymlink =>
    if s.phase pid = .absent then
      some (s.enter pid (if entryIsSymlink (s.directory filename) then .raised else .free))
    else none
  | .open_ =>
    if s.phase pid = .free then
      match s.directory (temporaryName filename pid) with
      | none => some ((s.put (temporaryName filename pid) (some (.file []))).enter pid .opened)
      | some _ => some (s.enter pid .failing)
    else none
  | .write =>
    if s.phase pid = .opened then
      some ((s.put (temporaryName filename pid) (some (.file (payload pid)))).enter pid .written)
    else none
  | .replace =>
    if s.phase pid = .written then
      match s.directory (temporaryName filename pid), s.directory filename with
      | none, _ => some (s.enter pid .failing)
      | some _, some .directory => some (s.enter pid .failing)
      | some entry, _ =>
        some (((s.put filename (some entry)).put (temporaryName filename pid) none).enter pid .replaced)
    else none
  | .cleanUp =>
    match s.phase pid with
    | .replaced => some ((s.put (temporaryName filename pid) none).enter pid .returned)
    | .failing => some ((s.put (temporaryName filename pid) none).enter pid .raised)
    | _ => none
  | .fail written =>
    match afterFailure (s.phase pid) with
    | none => none
    | some phase =>
      -- A write that fails leaves a part of the record in the temporary file.
      if s.phase pid = .opened then
        some ((s.put (temporaryName filename pid) (some (.file ((payload pid).take written)))).enter pid phase)
      else some (s.enter pid phase)
  | .die => if (afterFailure (s.phase pid)).isSome then some (s.enter pid .dead) else none

/-- The runs whose steps are permitted where they are taken. -/
inductive Runs (filename : String) (payload : ℕ → List UInt8) (ok : Runners → Action → Prop) :
    Runners → Runners → Prop where
  | refl (s : Runners) : Runs filename payload ok s s
  | tail {s t u : Runners} {pid : ℕ} {a : Action} (h : Runs filename payload ok s t) (permitted : ok t a)
      (next : step filename payload t pid a = some u) : Runs filename payload ok s u

theorem Runs.trans {ok : Runners → Action → Prop} {s t u : Runners} (h : Runs filename payload ok s t)
    (h' : Runs filename payload ok t u) : Runs filename payload ok s u := by
  induction h' with
  | refl => exact h
  | tail _ permitted next ih => exact .tail ih permitted next

/-- The steps of runners in a given order. -/
def play (filename : String) (payload : ℕ → List UInt8) (permitted : Runners → Action → Bool) :
    Runners → List (ℕ × Action) → Option Runners
  | s, [] => some s
  | s, (pid, a) :: order =>
    if permitted s a then (step filename payload s pid a).bind fun t => play filename payload permitted t order else none

/-- The record of the runner is in place, and `finally` remains at most. -/
def Landed : Phase → Prop
  | .replaced | .returned => True
  | _ => False

/-- What a step of a runner leaves alone, and what it comes from. -/
structure Moves (filename : String) (payload : ℕ → List UInt8) (s : Runners) (pid : ℕ) (a : Action) (u : Runners) :
    Prop where
  others : ∀ q, q ≠ pid → u.phase q = s.phase q
  names : ∀ name, name ≠ filename → name ≠ temporaryName filename pid → u.directory name = s.directory name
  record : u.directory filename = s.directory filename ∨
    (a = .replace ∧ s.phase pid = .written ∧ u.phase pid = .replaced ∧
      u.directory filename = s.directory (temporaryName filename pid))
  landed : Landed (u.phase pid) → Landed (s.phase pid) ∨ (a = .replace ∧ s.phase pid = .written ∧
    u.directory filename = s.directory (temporaryName filename pid))
  written : u.phase pid = .written → u.directory (temporaryName filename pid) = some (.file (payload pid))

/-- What an unclaimed step keeps: the visible record, and the runners that have not put theirs in place. -/
structure Settled (filename : String) (s u : Runners) : Prop where
  record : ∀ entry, s.directory filename = some entry → u.directory filename = some entry
  landed : ∀ entry, s.directory filename = some entry → ∀ pid, Landed (u.phase pid) → Landed (s.phase pid)

end

/-! ## Two runners -/

namespace TwoRunners

def filename : String := "candidate-001-reorg.json"

/-- The records of the two runners differ in their times, say. -/
def payload (pid : ℕ) : List UInt8 := [pid.toUInt8]

def start : Runners where
  directory := fun _ => none
  phase := fun _ => .started

/-- What a runner does from its first check on. -/
def rest : List Action := [.isSymlink, .open_, .write, .replace, .cleanUp]

def seen (s : Runners) : Phase × Phase × Option Entry := (s.phase 1, s.phase 2, s.directory filename)

end TwoRunners

end Zkdeal.AcceptanceRunner
