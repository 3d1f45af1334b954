import Mathlib.Logic.Relation
import Mathlib.Order.Lattice
import Mathlib.Tactic.Common

/-!
# Development nodes

A node of a development chain mines a block when it is told to, on top of its head, with the timestamp and the
base fee that were set for it.  It takes snapshots of its chain, and reverting to one drops it and all later ones.
A snapshot stays what it is until the node is reverted to it or to an earlier one (`Activity.live`), and two
branches on one head that begin with different base fees end with different hashes (`tip_ne`).
-/

namespace Chain

variable {H : Type}

/-- What determines a block of an idle chain; `H` are the hashes. -/
structure Header (H : Type) where
  parent : H
  timestamp : ℕ
  baseFee : ℕ
  deriving DecidableEq

structure Block (H : Type) where
  hash : H
  timestamp : ℕ
  baseFee : ℕ
  deriving DecidableEq

/-- The hash of a block, and its base fee when none was set. -/
structure Rules (H : Type) where
  hash : Header H → H
  nextFee : Block H → ℕ

/-- A node: its blocks above the first one and its snapshots, the newest ones first, and what was set for the next block. -/
structure Node (H : Type) where
  genesis : Block H
  blocks : List (Block H)
  snapshots : List (String × List (Block H))
  fee : Option ℕ
  timestamp : Option ℕ
  clock : ℕ

/-- The newest of the blocks above a first one. -/
def headOf (genesis : Block H) (blocks : List (Block H)) : Block H := blocks.headD genesis

namespace Node

variable (rules : Rules H) (n : Node H)

def head : Block H := headOf n.genesis n.blocks

/-- The header of the next block. -/
def next : Header H where
  parent := n.head.hash
  timestamp := n.timestamp.getD (max (n.head.timestamp + 1) n.clock)
  baseFee := n.fee.getD (rules.nextFee n.head)

end Node

/-- The block of a header. -/
def Rules.block (rules : Rules H) (h : Header H) : Block H := ⟨rules.hash h, h.timestamp, h.baseFee⟩

namespace Node

variable (rules : Rules H) (n : Node H)

def mine : Node H := { n with blocks := rules.block (n.next rules) :: n.blocks, fee := none, timestamp := none }

def snapshot (id : String) : Node H := { n with snapshots := (id, n.blocks) :: n.snapshots }

/-- Return to a snapshot, if the node has it. -/
def revert (id : String) : Option (Node H) :=
  match n.snapshots.dropWhile fun s => s.1 ≠ id with
  | [] => none
  | s :: older => some { n with blocks := s.2, snapshots := older, fee := none, timestamp := none }

/-- The snapshot `id` is of `blocks`. -/
def Live (id : String) (blocks : List (Block H)) : Prop :=
  ∃ newer older, n.snapshots = newer ++ (id, blocks) :: older ∧ id ∉ newer.map Prod.fst

/-- What a node does while a snapshot is kept: anything, but for reverting to it or to an earlier one. -/
inductive Step (id : String) : Node H → Node H → Prop where
  | changes {n n' : Node H} (hgenesis : n'.genesis = n.genesis) (hsnapshots : n'.snapshots = n.snapshots) : Step id n n'
  | snapshot {n : Node H} {name : String} (hname : name ≠ id) : Step id n (n.snapshot name)
  | revert {n n' : Node H} {newer older : List (String × List (Block H))} {name : String} {blocks : List (Block H)}
      (hsplit : n.snapshots = newer ++ (name, blocks) :: older) (hnewer : name ∉ newer.map Prod.fst)
      (hlater : id ∉ name :: newer.map Prod.fst) (hrevert : n.revert name = some n') : Step id n n'

/-- Any number of steps that keep the snapshot `id`. -/
def Activity (id : String) : Node H → Node H → Prop := Relation.ReflTransGen (Step id)

variable {n n' : Node H} {id name : String} {blocks : List (Block H)}

/-! ## Snapshots -/

theorem revert_of_split {newer older : List (String × List (Block H))} (hsplit : n.snapshots = newer ++ (name, blocks) :: older)
    (hnewer : name ∉ newer.map Prod.fst) :
    n.revert name = some { n with blocks := blocks, snapshots := older, fee := none, timestamp := none } := by
  have hdrop : n.snapshots.dropWhile (fun s => s.1 ≠ name) = (name, blocks) :: older := by
    rw [hsplit, List.dropWhile_append_of_pos]
    · simp
    · intro s hs
      have hne : s.1 ≠ name := by
        rintro rfl
        exact hnewer (List.mem_map_of_mem hs)
      simpa using hne
  rw [revert, hdrop]

theorem revert_of_live (h : n.Live id blocks) : ∃ n', n.revert id = some n' ∧ n'.genesis = n.genesis ∧ n'.blocks = blocks := by
  obtain ⟨newer, older, hsplit, hnewer⟩ := h
  exact ⟨_, revert_of_split hsplit hnewer, rfl, rfl⟩

@[simp] theorem head_snapshot (n : Node H) (id : String) : (n.snapshot id).head = n.head := rfl

theorem live_snapshot (n : Node H) (id : String) : (n.snapshot id).Live id n.blocks := ⟨[], n.snapshots, rfl, by simp⟩

theorem Live.of_snapshots (h : n.Live id blocks) (hsnapshots : n'.snapshots = n.snapshots) : n'.Live id blocks := by
  obtain ⟨newer, older, hsplit, hnewer⟩ := h
  exact ⟨newer, older, hsnapshots.trans hsplit, hnewer⟩

theorem Step.live (h : Step id n n') (hlive : n.Live id blocks) : n'.genesis = n.genesis ∧ n'.Live id blocks := by
  cases h with
  | changes hgenesis hsnapshots => exact ⟨hgenesis, hlive.of_snapshots hsnapshots⟩
  | @snapshot name hname =>
    obtain ⟨newer, older, hsplit, hnewer⟩ := hlive
    refine ⟨rfl, (name, n.blocks) :: newer, older, ?_, ?_⟩
    · rw [Node.snapshot, hsplit, List.cons_append]
    · rw [List.map_cons, List.mem_cons, not_or]
      exact ⟨Ne.symm hname, hnewer⟩
  | @revert _ later older name kept hsplit hfirst hlater hrevert =>
    rw [revert_of_split hsplit hfirst] at hrevert
    obtain rfl := Option.some.inj hrevert
    refine ⟨rfl, ?_⟩
    obtain ⟨newer, oldest, hlive, hnewer⟩ := hlive
    -- what is dropped is a part of the newer snapshots
    have hdropped : id ∉ (later ++ [(name, kept)]).map Prod.fst := by
      simpa [or_comm] using hlater
    have hsame : (later ++ [(name, kept)]) ++ older = newer ++ (id, blocks) :: oldest := by
      rw [← hlive, hsplit]
      simp
    obtain ⟨rest, hrest, hcons⟩ | ⟨rest, hrest, holder⟩ := List.append_eq_append_iff.1 hsame
    · exact ⟨rest, oldest, hcons, fun hmem => hnewer (by rw [hrest, List.map_append]; exact List.mem_append_right _ hmem)⟩
    · cases rest with
      | nil =>
        rw [List.nil_append] at holder
        exact ⟨[], oldest, holder.symm, by simp⟩
      | cons s rest =>
        rw [List.cons_append] at holder
        obtain rfl : (id, blocks) = s := (List.cons.inj holder).1
        rw [hrest] at hdropped
        simp at hdropped

theorem Activity.live (h : Activity id n n') (hlive : n.Live id blocks) : n'.genesis = n.genesis ∧ n'.Live id blocks := by
  induction h with
  | refl => exact ⟨rfl, hlive⟩
  | tail _ hstep ih =>
    obtain ⟨hgenesis, hkept⟩ := hstep.live ih.2
    exact ⟨hgenesis.trans ih.1, hkept⟩

end Node

/-! ## Branches -/

namespace Rules

variable (rules : Rules H)

/-- The headers of `depth` blocks on top of a block, in the order in which they are mined: the first one with a base
fee that was set, at timestamps one apart. -/
def headers : H → ℕ → ℕ → ℕ → List (Header H)
  | _, _, _, 0 => []
  | parent, timestamp, fee, depth + 1 =>
    let header : Header H := ⟨parent, timestamp, fee⟩
    header :: headers (rules.hash header) (timestamp + 1) (rules.nextFee (rules.block header)) depth

/-- The blocks of a branch, the newest one first. -/
def branch (parent : H) (timestamp fee depth : ℕ) : List (Block H) :=
  ((rules.headers parent timestamp fee depth).map rules.block).reverse

/-- The hash of the last block of a branch. -/
def tip : H → ℕ → ℕ → ℕ → H
  | parent, _, _, 0 => parent
  | parent, timestamp, fee, depth + 1 =>
    let header : Header H := ⟨parent, timestamp, fee⟩
    tip (rules.hash header) (timestamp + 1) (rules.nextFee (rules.block header)) depth

/-- No two of the headers have one hash. -/
def Distinct (hs : List (Header H)) : Prop := ∀ h ∈ hs, ∀ h' ∈ hs, rules.hash h = rules.hash h' → h = h'

instance [DecidableEq H] (hs : List (Header H)) : Decidable (rules.Distinct hs) :=
  inferInstanceAs (Decidable (∀ h ∈ hs, ∀ h' ∈ hs, rules.hash h = rules.hash h' → h = h'))

variable {rules}

theorem branch_succ (parent : H) (timestamp fee depth : ℕ) :
    rules.branch parent timestamp fee (depth + 1) =
      rules.branch (rules.hash ⟨parent, timestamp, fee⟩) (timestamp + 1)
        (rules.nextFee (rules.block ⟨parent, timestamp, fee⟩)) depth ++ [rules.block ⟨parent, timestamp, fee⟩] := by
  rw [branch, headers, List.map_cons, List.reverse_cons]
  rfl

theorem hash_headOf_branch (genesis : Block H) (blocks : List (Block H)) (timestamp fee depth : ℕ) :
    (headOf genesis (rules.branch (headOf genesis blocks).hash timestamp fee depth ++ blocks)).hash =
      rules.tip (headOf genesis blocks).hash timestamp fee depth := by
  induction depth generalizing blocks timestamp fee with
  | zero => rfl
  | succ depth ih =>
    rw [branch_succ, List.append_assoc, List.singleton_append]
    exact ih (rules.block ⟨(headOf genesis blocks).hash, timestamp, fee⟩ :: blocks) _ _

theorem timestamp_headOf_branch (genesis : Block H) (blocks : List (Block H)) (parent : H) (timestamp fee depth : ℕ) :
    (headOf genesis (rules.branch parent timestamp fee (depth + 1) ++ blocks)).timestamp = timestamp + depth := by
  induction depth generalizing blocks parent timestamp fee with
  | zero => rfl
  | succ depth ih =>
    rw [branch_succ, List.append_assoc, ih]
    omega

/-- The first block of a branch, which is the last one of the list. -/
theorem getLast?_branch (parent : H) (timestamp fee depth : ℕ) :
    (rules.branch parent timestamp fee (depth + 1)).getLast? = some (rules.block ⟨parent, timestamp, fee⟩) := by
  rw [branch_succ, List.getLast?_concat]

theorem length_branch (parent : H) (timestamp fee depth : ℕ) : (rules.branch parent timestamp fee depth).length = depth := by
  induction depth generalizing parent timestamp fee with
  | zero => rfl
  | succ depth ih => rw [branch_succ, List.length_append, ih, List.length_singleton]

/-- Branches that begin differently end differently, where no two of their headers have one hash. -/
theorem tip_ne {parent parent' : H} {timestamp fee fee' depth : ℕ} (hdepth : 0 < depth)
    (hfirst : (parent, fee) ≠ (parent', fee'))
    (hdistinct : rules.Distinct (rules.headers parent timestamp fee depth ++ rules.headers parent' timestamp fee' depth)) :
    rules.tip parent timestamp fee depth ≠ rules.tip parent' timestamp fee' depth := by
  induction depth generalizing parent parent' timestamp fee fee' with
  | zero => cases hdepth
  | succ depth ih =>
    have hheaders : (⟨parent, timestamp, fee⟩ : Header H) ≠ ⟨parent', timestamp, fee'⟩ := by
      intro heq
      rw [Header.mk.injEq] at heq
      exact hfirst (Prod.ext heq.1 heq.2.2)
    have hhash : rules.hash ⟨parent, timestamp, fee⟩ ≠ rules.hash ⟨parent', timestamp, fee'⟩ := fun heq =>
      hheaders (hdistinct _ (by simp [headers]) _ (by simp [headers]) heq)
    obtain rfl | hmore := Nat.eq_zero_or_pos depth
    · exact hhash
    · have hrest (h : Header H) (hmem : h ∈ rules.headers (rules.hash ⟨parent, timestamp, fee⟩) (timestamp + 1)
          (rules.nextFee (rules.block ⟨parent, timestamp, fee⟩)) depth ++
          rules.headers (rules.hash ⟨parent', timestamp, fee'⟩) (timestamp + 1)
          (rules.nextFee (rules.block ⟨parent', timestamp, fee'⟩)) depth) :
          h ∈ rules.headers parent timestamp fee (depth + 1) ++ rules.headers parent' timestamp fee' (depth + 1) := by
        rw [List.mem_append] at hmem ⊢
        exact hmem.imp (List.mem_cons_of_mem _) (List.mem_cons_of_mem _)
      exact ih hmore (fun heq => hhash (Prod.mk.inj heq).1) fun h hmem h' hmem' => hdistinct h (hrest h hmem) h' (hrest h' hmem')

end Rules

/-! ## Mining a branch -/

namespace Node

variable (rules : Rules H)

/-- The node after it was told `depth` times to mine a block, at timestamps one apart. -/
def mineAt (n : Node H) (timestamp : ℕ) : ℕ → Node H
  | 0 => n
  | depth + 1 => mineAt ({ n with timestamp := some timestamp }.mine rules) (timestamp + 1) depth

variable {rules}

theorem mineAt_succ (n : Node H) (timestamp depth : ℕ) :
    n.mineAt rules timestamp (depth + 1) =
      { n with
        blocks := rules.branch n.head.hash timestamp (n.fee.getD (rules.nextFee n.head)) (depth + 1) ++ n.blocks
        fee := none
        timestamp := none } := by
  induction depth generalizing n timestamp with
  | zero => rfl
  | succ depth ih =>
    rw [mineAt, ih, Rules.branch_succ _ _ _ (depth + 1), List.append_assoc, List.singleton_append]
    rfl

end Node

end Chain
