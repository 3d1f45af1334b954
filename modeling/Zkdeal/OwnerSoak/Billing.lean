import Mathlib.Algebra.BigOperators.Ring.Finset
import Zkdeal.OwnerSoak.Charges
import Zkdeal.OwnerSoak.Pacer

/-!
# Billing

`emit_charges` journals a charge once, however often the ledger has it.  The sums that `assert_expected`
compares leave nothing for the other entries of the ledger (`billing_reconciled`).
-/

namespace Zkdeal.OwnerSoak

open Python Json Soak Interaction Stateful

/-! ## The ledger -/

/-- An entry of the billing ledger. -/
structure Charge where
  entryId : ℕ
  chargeId : String
  usageUnits : ℕ
  chargeWei : ℕ
  deriving DecidableEq

namespace Charge

/-- The entry bills nothing. -/
def Zero (c : Charge) : Prop := c.usageUnits = 0 ∧ c.chargeWei = 0

/-- The entry as the driver keeps it. -/
def entry (c : Charge) : LedgerEntry := ⟨c.entryId, c.chargeId, c.usageUnits, toString c.chargeWei⟩

/-- Python prints the amount. -/
def Printed (c : Charge) : Prop := printable (.int c.chargeWei) = true

end Charge

/-- A number in an answer: an integer, or its decimal. -/
def IsNumber (value : Json) (n : ℕ) : Prop := value = .int n ∨ value = .str (toString n)

/-- An entry in an answer. -/
def Shows (c : Charge) : Json → Prop
  | .obj d => IsNumber (item d "entryId") c.entryId ∧ item d "chargeId" = .str c.chargeId ∧
      IsNumber (item d "usageUnits") c.usageUnits ∧ IsNumber (item d "chargeWei") c.chargeWei
  | _ => False

/-- The ledger of the coordinator. -/
structure Ledger where
  charges : List Charge
  distinct : (charges.map (·.entryId)).Nodup
  bounded : charges.length ≤ 500

namespace Ledger

/-- The entries after an entry id, all of them after zero. -/
def since (ledger : Ledger) (after : ℤ) : List Charge := ledger.charges.filter fun c => after = 0 ∨ after < c.entryId

/-- The body of an answer to `ledger?after=...&limit=500`. -/
def Lists (ledger : Ledger) (after : ℤ) (body : Option Json) : Prop :=
  ∃ d items shown, body = some (.obj d) ∧ Dict.get d "entries" = some (.arr items) ∧ List.Forall₂ Shows shown items ∧
    List.Subperm shown (ledger.since after) ∧ shown.length = min 500 (ledger.since after).length

/-- What the ledger has to do with an answer. -/
def Answers (ledger : Ledger) : (o : Op) → Answer o → Prop
  | .send r, .answered status body _ => ∀ after, r = ledgerRequest after → status = 200 → ledger.Lists after body
  | _, _ => True

end Ledger

/-! ## Workers on a ledger -/

/-- The files of a run, and the ledger. -/
structure Billing where
  disk : Disk
  ledger : Ledger

/-- The ledger only grows. -/
def Billing.Grows (w w' : Billing) : Prop := w.ledger.charges <+: w'.ledger.charges

/-- The surroundings keep the files, and the ledger grows at any time. -/
def Billing.env : Env Op Answer Billing := fun w o r w' =>
  w.disk.Reads o r ∧ w'.disk = w.disk.after o ∧ w.Grows w' ∧ w'.ledger.Answers o r

/-- The step journals a charge. -/
def Step.charges : Step → Bool
  | .record call _ => call.eventKind == "charge"
  | _ => false

/-- What a slot does about charges: `emit_charges`, and whatever journals no charge. -/
inductive Action : Type where
  | emitCharges (step : String) (expectedCount : Option ℕ)
  | other (step : Step) (free : step.charges = false)

abbrev Action.Result : Action → Type
  | .emitCharges .. => Except Raised StepCharges
  | .other step _ => step.Result

def Action.carry (texts : Texts) : (action : Action) → Driver action.Result
  | .emitCharges step expectedCount => catching (OwnerSoak.emitCharges texts step expectedCount)
  | .other step _ => step.carry

/-- The slots of a generation. -/
abbrev Slots := Raising Raised Action Action.Result Unit

/-- What the generations are configured with. -/
structure Audit where
  texts : Texts
  manifestSha256 : String
  manifest : Dict

/-- The generations of workers, each with slots of its own and `assert_expected` after them. -/
def Audit.generations (a : Audit) : Service Slots Raised Worker Op Answer (Option JournalAccounting) Billing where
  serve slots := do
    let opened ← boot a.manifestSha256
    if opened then
      interpret (Action.carry a.texts) slots.run
      let accounting ← assertExpected a.texts a.manifest
      return some accounting
    else return none
  env := Billing.env
  load := fun _ => ⟨.fresh "" "", .empty, 0⟩
  initial w := w.disk = .empty
  drift w w' := w'.disk = w.disk ∧ w.Grows w'

/-! ## Reading the ledger -/

theorem ledgerRequest_injective {m n : ℤ} (h : (ledgerRequest m).path = (ledgerRequest n).path) : m = n := by
  have text := congrArg String.toList h
  simp only [ledgerRequest, String.toList_append, List.append_assoc] at text
  have text := List.append_cancel_right (List.append_cancel_left text)
  exact toString_int_injective (String.toList_inj.1 text)

variable {c : Charge} {ledger : Ledger}

theorem requireInt_of_isNumber {v : Json} {n : ℕ} {field : String} {m : ℤ} (h : IsNumber v n)
    (hm : requireInt v field 0 = .ok m) : m = n := by
  rcases h with rfl | rfl
  · rw [requireInt, if_pos (Int.natCast_nonneg n)] at hm
    exact (Except.ok.inj hm).symm
  · unfold requireInt at hm
    dsimp only at hm
    split at hm
    · rw [intOfStr_toString_eq] at hm
      split at hm
      · rename_i heq
        split at heq
        · cases heq
          rw [if_pos (Int.natCast_nonneg n)] at hm
          exact (Except.ok.inj hm).symm
        · cases heq
      · cases hm
    · cases hm

theorem requireStr_eq_ok {s : String} {field : String} {t : String} (h : requireStr (.str s) field = .ok t) : t = s := by
  unfold requireStr at h
  dsimp only at h
  split at h
  · exact (Except.ok.inj h).symm
  · cases h

/-- The driver reads an entry as it is. -/
theorem ledgerEntry_of_shows {v : Json} {entry : LedgerEntry} (h : Shows c v) (he : ledgerEntry v = .ok entry) :
    entry = c.entry ∧ c.Printed := by
  cases v with
  | obj d =>
    obtain ⟨hid, hcharge, husage, hwei⟩ := h
    obtain ⟨entryId, hentryId, he⟩ := bind_eq_ok.1 he
    obtain ⟨chargeId, hchargeId, he⟩ := bind_eq_ok.1 he
    obtain ⟨usageUnits, husageUnits, he⟩ := bind_eq_ok.1 he
    obtain ⟨wei, hweiInt, he⟩ := bind_eq_ok.1 he
    obtain ⟨chargeWei, hchargeWei, he⟩ := bind_eq_ok.1 he
    rw [hcharge] at hchargeId
    obtain rfl := requireInt_of_isNumber hid hentryId
    obtain rfl := requireStr_eq_ok hchargeId
    obtain rfl := requireInt_of_isNumber husage husageUnits
    obtain rfl := requireInt_of_isNumber hwei hweiInt
    unfold strOfInt at hchargeWei
    split at hchargeWei
    · rename_i print
      cases hchargeWei
      cases he
      exact ⟨rfl, print⟩
    · cases hchargeWei
  | _ => exact absurd h id

/-- The driver reads what is listed, sorted. -/
theorem readLedger_of_lists {after : ℤ} {body : Option Json} {entries : List LedgerEntry} (h : ledger.Lists after body)
    (hread : readLedger body = .ok entries) : ∃ listed : List Charge, entries = listed.map Charge.entry ∧
      (∀ c ∈ listed, c.Printed) ∧ List.Subperm listed (ledger.since after) ∧
      listed.length = min 500 (ledger.since after).length := by
  obtain ⟨d, items, shown, rfl, hitems, shows, sub, length⟩ := h
  unfold readLedger at hread
  dsimp only at hread
  rw [hitems] at hread
  obtain ⟨read, hmap, hsorted⟩ := bind_eq_ok.1 hread
  cases hsorted
  have same : read = shown.map Charge.entry ∧ ∀ c ∈ shown, c.Printed := by
    clear sub length hitems hread
    rw [mapM_eq_ok] at hmap
    induction shows generalizing read with
    | nil =>
      cases hmap
      exact ⟨rfl, nofun⟩
    | cons show' _ ih =>
      cases hmap with
      | cons hhead htail =>
        obtain ⟨rfl, print⟩ := ledgerEntry_of_shows show' hhead
        obtain ⟨rfl, prints⟩ := ih _ htail
        exact ⟨rfl, List.forall_mem_cons.2 ⟨print, prints⟩⟩
  have perm := List.perm_insertionSort (fun a b : Charge => a.entryId ≤ b.entryId) shown
  refine ⟨shown.insertionSort fun a b => a.entryId ≤ b.entryId, ?_, fun c hc => same.2 c (perm.mem_iff.1 hc),
    perm.subperm.trans sub, perm.length_eq.trans length⟩
  rw [same.1]
  refine (List.map_insertionSort _ _ Charge.entry shown fun a _ b _ => ?_).symm
  exact Int.ofNat_le.symm

/-! ## What is journaled -/

/-- The event is the charge of an entry. -/
structure Bills (c : Charge) (event : Soak.Event) : Prop where
  kind : event.get "kind" = some (.str "charge")
  chargeId : event.get "chargeId" = some (.str c.chargeId)
  usageUnits : event.get "usageUnits" = some (.int c.usageUnits)
  chargeWei : event.get "chargeWei" = some (.str (toString c.chargeWei))
  printed : c.Printed

/-- Every charge of the journal is the charge of an entry of the ledger. -/
def Billed (charges : List Charge) (es : List Soak.Event) : Prop :=
  ∀ event ∈ es, isKind "charge" event = true → ∃ c ∈ charges, Bills c event

/-- The entries that the charges of the journal are of, one by one. -/
def Picked (picks : List Charge) (es : List Soak.Event) : Prop := List.Forall₂ Bills picks (chargeEvents es)

variable {es es' : List Soak.Event} {event : Soak.Event} {picks : List Charge}

theorem canonical_eq_int {v : Json} {n : ℤ} : canonical v = .int n ↔ v = .int n := by
  cases v <;> simp [canonical]

theorem canonical_eq_str {v : Json} {s : String} : canonical v = .str s ↔ v = .str s := by
  cases v <;> simp [canonical]

theorem get_reread_eq_int {key : String} {n : ℤ} : (reread event).get key = some (.int n) ↔ event.get key = some (.int n) := by
  simp [get_reread, canonical_eq_int]

theorem get_reread_eq_str {key s : String} : (reread event).get key = some (.str s) ↔ event.get key = some (.str s) := by
  simp [get_reread, canonical_eq_str]

theorem bills_reread_iff : Bills c (reread event) ↔ Bills c event := by
  constructor
  · intro h
    exact ⟨get_reread_eq_str.1 h.kind, get_reread_eq_str.1 h.chargeId, get_reread_eq_int.1 h.usageUnits,
      get_reread_eq_str.1 h.chargeWei, h.printed⟩
  · intro h
    exact ⟨get_reread_eq_str.2 h.kind, get_reread_eq_str.2 h.chargeId, get_reread_eq_int.2 h.usageUnits,
      get_reread_eq_str.2 h.chargeWei, h.printed⟩

theorem isKind_iff {kind : String} : isKind kind event = true ↔ event.get "kind" = some (.str kind) := by
  unfold isKind eqStr item
  cases event.get "kind" with
  | none => simp
  | some v => cases v <;> simp

theorem isKind_reread (kind : String) : isKind kind (reread event) = isKind kind event := by
  rw [Bool.eq_iff_iff, isKind_iff, isKind_iff, get_reread_eq_str]

theorem chargeEvents_reread (es : List Soak.Event) : chargeEvents (es.map reread) = (chargeEvents es).map reread := by
  rw [chargeEvents, List.filter_map]
  refine congrArg (List.map reread) (List.filter_congr fun event _ => ?_)
  exact isKind_reread "charge"

theorem picked_reread_iff : Picked picks (es.map reread) ↔ Picked picks es := by
  rw [Picked, chargeEvents_reread, List.forall₂_map_right_iff]
  exact ⟨fun h => h.imp fun _ _ => bills_reread_iff.1, fun h => h.imp fun _ _ => bills_reread_iff.2⟩

/-- Events that read the same are the charges of the same entries. -/
theorem Picked.same (h : Picked picks es) (same : es.map reread = es'.map reread) : Picked picks es' := by
  rw [← picked_reread_iff, ← same]
  exact picked_reread_iff.2 h

theorem Billed.picked {charges : List Charge} (h : Billed charges es) : ∃ picks, Picked picks es ∧ picks ⊆ charges := by
  have all : ∀ event ∈ chargeEvents es, ∃ c ∈ charges, Bills c event := by
    intro event hevent
    obtain ⟨hmem, kind⟩ := List.mem_filter.1 hevent
    exact h event hmem kind
  unfold Picked
  generalize chargeEvents es = events at all
  induction events with
  | nil => exact ⟨[], .nil, List.nil_subset _⟩
  | cons event events ih =>
    obtain ⟨c, hc, bills⟩ := all event (by simp)
    obtain ⟨picks, hpicks, sub⟩ := ih fun e he => all e (by simp [he])
    exact ⟨c :: picks, .cons bills hpicks, List.cons_subset.2 ⟨hc, sub⟩⟩

theorem Billed.same {charges : List Charge} (h : Billed charges es) (same : es.map reread = es'.map reread) :
    Billed charges es' := by
  intro event hevent kind
  have hmem : reread event ∈ es.map reread := same ▸ List.mem_map_of_mem hevent
  obtain ⟨event', hevent', heq⟩ := List.mem_map.1 hmem
  obtain ⟨c, hc, bills⟩ := h event' hevent' (by rw [← isKind_reread, heq, isKind_reread, kind])
  exact ⟨c, hc, bills_reread_iff.1 (heq ▸ bills_reread_iff.2 bills)⟩

theorem Billed.grows {charges charges' : List Charge} (h : Billed charges es) (grows : charges <+: charges') :
    Billed charges' es := by
  intro event hevent kind
  obtain ⟨c, hc, bills⟩ := h event hevent kind
  exact ⟨c, grows.subset hc, bills⟩

/-! ## Accounting -/

theorem int_toString (h : c.Printed) : int (.str (toString c.chargeWei)) = .ok (c.chargeWei : ℤ) := by
  have short : (Nat.toDigits 10 c.chargeWei).length ≤ 4300 := by simpa [Charge.Printed, printable] using h
  have read := intOfStr_toString short
  generalize toString c.chargeWei = text at read ⊢
  have number : (Json.str text).toInt = some (c.chargeWei : ℤ) := read
  unfold Soak.int
  rw [number]

/-- Adding up what the entries bill. -/
def usageOf (charges : List Charge) : ℕ := (charges.map (·.usageUnits)).sum

def weiOf (charges : List Charge) : ℕ := (charges.map (·.chargeWei)).sum

theorem Bills.usage (h : Bills c event) : int (itemOr event "usageUnits" (.int 0)) = .ok (c.usageUnits : ℤ) := by
  rw [itemOr, h.usageUnits, Option.getD_some]
  rfl

theorem Bills.wei (h : Bills c event) : int (itemOr event "chargeWei" (.int 0)) = .ok (c.chargeWei : ℤ) := by
  rw [itemOr, h.chargeWei, Option.getD_some]
  exact int_toString h.printed

theorem total_usageUnits (h : Picked picks es) : total "usageUnits" (chargeEvents es) = .ok (usageOf picks : ℤ) := by
  refine bind_eq_ok.2 ⟨picks.map fun c => (c.usageUnits : ℤ), ?_, ?_⟩
  · rw [mapM_eq_ok, List.forall₂_map_right_iff]
    exact h.flip.imp fun _ _ bills => bills.usage
  · rw [usageOf, Nat.cast_list_sum, List.map_map]
    rfl

theorem total_chargeWei (h : Picked picks es) : total "chargeWei" (chargeEvents es) = .ok (weiOf picks : ℤ) := by
  refine bind_eq_ok.2 ⟨picks.map fun c => (c.chargeWei : ℤ), ?_, ?_⟩
  · rw [mapM_eq_ok, List.forall₂_map_right_iff]
    exact h.flip.imp fun _ _ bills => bills.wei
  · rw [weiOf, Nat.cast_list_sum, List.map_map]
    rfl

/-- The accounting of the charges that the entries were picked for. -/
theorem foldlM_accountEvent {texts : Texts} {a b : JournalAccounting} (h : Picked picks es)
    (account : es.foldlM (accountEvent texts) a = .ok b) : b.chargeIds = a.chargeIds ++ picks.map (·.chargeId) ∧
      b.usageUnits = a.usageUnits + usageOf picks ∧ b.chargesWei = a.chargesWei + weiOf picks := by
  induction es generalizing a picks with
  | nil =>
    obtain rfl := List.forall₂_nil_right_iff.1 h
    cases account
    simp [usageOf, weiOf]
  | cons event es ih =>
    rw [List.foldlM_cons] at account
    obtain ⟨a', ha', account⟩ := bind_eq_ok.1 account
    unfold accountEvent at ha'
    generalize hnonces : (if isKind "tx-broadcast" event && (event.get "nonceId").isSome then
      { a with nonces := a.nonces ++ [strOf texts (item event "nonceId")] } else a) = n at ha'
    have same : n.chargeIds = a.chargeIds ∧ n.usageUnits = a.usageUnits ∧ n.chargesWei = a.chargesWei := by
      rw [← hnonces]
      split <;> exact ⟨rfl, rfl, rfl⟩
    obtain ⟨ids, usage, wei⟩ := same
    rw [Picked, chargeEvents] at h
    by_cases kind : isKind "charge" event = true
    · rw [List.filter_cons_of_pos kind] at h
      cases h with
      | cons bills rest =>
        rename_i c picks
        rw [if_pos kind, bills.usage, bills.wei] at ha'
        cases ha'
        obtain ⟨hids, husage, hwei⟩ := ih rest account
        refine ⟨?_, ?_, ?_⟩
        · rw [hids]
          simp [itemOr, bills.chargeId, strOf, ids]
        · rw [husage]
          simp [usageOf, usage, Int.add_assoc]
        · rw [hwei]
          simp [weiOf, wei, Int.add_assoc]
    · rw [List.filter_cons_of_neg kind] at h
      rw [if_neg kind] at ha'
      cases ha'
      obtain ⟨hids, husage, hwei⟩ := ih h account
      exact ⟨by rw [hids, ids], by rw [husage, usage], by rw [hwei, wei]⟩

/-! ## What was dropped -/

theorem zero_of_usageOf {charges : List Charge} (usage : usageOf charges = 0) (wei : weiOf charges = 0) :
    ∀ c ∈ charges, c.Zero := by
  intro c hc
  rw [usageOf, List.sum_eq_zero_iff_forall_eq_nat] at usage
  rw [weiOf, List.sum_eq_zero_iff_forall_eq_nat] at wei
  exact ⟨usage _ (List.mem_map_of_mem hc), wei _ (List.mem_map_of_mem hc)⟩

/-- Entries with different charge ids that add up to the ledger leave nothing that is worth something. -/
theorem duplicates_zero {charges : List Charge} (distinct : charges.Nodup) (sub : picks ⊆ charges)
    (ids : (picks.map (·.chargeId)).Nodup) (usage : usageOf charges = usageOf picks) (wei : weiOf charges = weiOf picks) :
    charges.Pairwise fun a b => a.chargeId = b.chargeId → a.Zero ∨ b.Zero := by
  obtain ⟨l, hl, hsub⟩ := List.subperm_of_subset (ids.of_map _) sub
  obtain ⟨rest, happend⟩ := hsub.exists_perm_append
  have split : List.Perm charges (picks ++ rest) := happend.trans (hl.append_right rest)
  have hrest : ∀ c ∈ rest, c.Zero := by
    have husage := (split.map (·.usageUnits)).sum_eq
    have hwei := (split.map (·.chargeWei)).sum_eq
    rw [List.map_append, List.sum_append] at husage hwei
    unfold usageOf at usage
    unfold weiOf at wei
    refine zero_of_usageOf ?_ ?_
    · unfold usageOf
      omega
    · unfold weiOf
      omega
  refine distinct.pairwise_of_forall_ne fun a ha b hb hne same => ?_
  rcases List.mem_append.1 (split.mem_iff.1 ha) with ha | ha
  · rcases List.mem_append.1 (split.mem_iff.1 hb) with hb | hb
    · exact absurd (List.inj_on_of_nodup_map ids ha hb same) hne
    · exact .inr (hrest b hb)
  · exact .inl (hrest a ha)

/-- The journal and the ledger bill the same, as the manifest expects. -/
structure Reconciled (manifest : Dict) (es : List Soak.Event) (charges : List Charge) : Prop where
  /-- The charge ids of the journal are those of the ledger, each once. -/
  chargeIds : ∃ ids : List String, (chargeEvents es).map (item · "chargeId") = ids.map .str ∧ ids.Nodup ∧
    ∀ id, id ∈ ids ↔ id ∈ charges.map (·.chargeId)
  /-- Of the entries with one charge id, only one is worth something. -/
  duplicates : charges.Pairwise fun a b => a.chargeId = b.chargeId → a.Zero ∨ b.Zero
  usageUnits : total "usageUnits" (chargeEvents es) = .ok (usageOf charges : ℤ)
  chargesWei : total "chargeWei" (chargeEvents es) = .ok (weiOf charges : ℤ)
  expected : ∃ expected, item manifest "expected" = .obj expected ∧
    int (item expected "usageUnits") = .ok (usageOf charges : ℤ) ∧ int (item expected "chargesWei") = .ok (weiOf charges : ℤ)

theorem sameSet_iff {a b : List String} : sameSet a b = true ↔ ∀ s, s ∈ a ↔ s ∈ b := by
  simp only [sameSet, Bool.and_eq_true, List.all_eq_true, List.contains_iff_mem]
  exact ⟨fun ⟨ab, ba⟩ s => ⟨ab s, ba s⟩, fun h => ⟨fun s => (h s).1, fun s => (h s).2⟩⟩

/-- What `assert_expected` compares. -/
structure Compared (manifest : Dict) (accounting : JournalAccounting) (charges : List Charge) : Prop where
  chargeIds : ∀ id, id ∈ accounting.chargeIds ↔ id ∈ charges.map (·.chargeId)
  usageUnits : accounting.usageUnits = usageOf charges
  chargesWei : accounting.chargesWei = weiOf charges
  expected : ∃ expected, item manifest "expected" = .obj expected ∧
    int (item expected "usageUnits") = .ok accounting.usageUnits ∧ int (item expected "chargesWei") = .ok accounting.chargesWei

theorem mapM_int_chargeWei {charges : List Charge} (printed : ∀ c ∈ charges, c.Printed) :
    ((charges.map Charge.entry).mapM fun entry => int (.str entry.chargeWei)) =
      .ok (charges.map fun c => (c.chargeWei : ℤ)) := by
  rw [mapM_eq_ok, List.forall₂_map_left_iff, List.forall₂_map_right_iff, List.forall₂_same]
  exact fun c hc => int_toString (printed c hc)

theorem checkAccounting_eq_ok {manifest : Dict} {accounting : JournalAccounting} {charges : List Charge}
    (printed : ∀ c ∈ charges, c.Printed)
    (h : checkAccounting manifest accounting (charges.map Charge.entry) = .ok ()) : Compared manifest accounting charges := by
  unfold checkAccounting at h
  obtain ⟨wei, hwei, h⟩ := bind_eq_ok.1 h
  rw [mapM_int_chargeWei printed] at hwei
  obtain rfl := Except.ok.inj hwei
  have hsum : (charges.map fun c => (c.chargeWei : ℤ)).sum = weiOf charges := by
    rw [weiOf, Nat.cast_list_sum, List.map_map]
    rfl
  have husage : ((charges.map Charge.entry).map (·.usageUnits)).sum = (usageOf charges : ℤ) := by
    rw [usageOf, Nat.cast_list_sum, List.map_map, List.map_map]
    rfl
  have hids : (charges.map Charge.entry).map (·.chargeId) = charges.map (·.chargeId) := by
    rw [List.map_map]
    rfl
  dsimp only at h
  rw [hids, husage, hsum] at h
  split at h
  · cases h
  rename_i ids
  split at h
  · cases h
  rename_i sums
  obtain ⟨value, hvalue, h⟩ := bind_eq_ok.1 h
  obtain ⟨expected, hexpected, h⟩ := bind_eq_ok.1 h
  obtain ⟨usageValue, husageValue, h⟩ := bind_eq_ok.1 h
  obtain ⟨usage, husageInt, h⟩ := bind_eq_ok.1 h
  obtain ⟨weiValue, hweiValue, h⟩ := bind_eq_ok.1 h
  obtain ⟨weiInt, hweiInt, h⟩ := bind_eq_ok.1 h
  split at h
  · cases h
  rename_i match'
  rw [not_or, not_not, not_not] at sums match'
  rw [Bool.not_eq_true', Bool.not_eq_false, sameSet_iff] at ids
  split at hexpected
  · cases hexpected
    refine ⟨fun id => (ids id).symm, sums.1.symm, sums.2.symm, expected, item_of_get (required_eq_ok.1 hvalue), ?_, ?_⟩
    · rw [item_of_get (required_eq_ok.1 husageValue), husageInt, match'.1]
    · rw [item_of_get (required_eq_ok.1 hweiValue), hweiInt, match'.2]
  · cases hexpected

/-! ## Workers -/

variable {base : List Charge} {log : List Entry} {j : Journal} {s : Worker} {w w' : Billing} {a : Audit}

theorem Billing.persistent : Persistent Billing.env Billing.disk := ⟨fun h => h.1, fun h => h.2.1⟩

/-- The operation writes no event. -/
def Op.silent : Op → Bool
  | .write _ => false
  | _ => true

/-- The journal holds a log whose charges are of entries of the ledger, which has grown from a base. -/
structure Audited (base : List Charge) (log : List Entry) (j : Journal) (w : Billing) : Prop where
  grown : base <+: w.ledger.charges
  holds : Holds Sha256.sha256 log ⟨j, w.disk.journal⟩
  billed : Billed w.ledger.charges (events log)

theorem Audited.step {o : Op} {r : Answer o} (h : Audited base log j w) (silent : o.silent = true)
    (step : Billing.env w o r w') : Audited base log j w' := by
  obtain ⟨-, disk, grows, -⟩ := step
  have same : w'.disk.journal = w.disk.journal := by
    rw [disk]
    cases o with
    | write event => cases silent
    | _ => rfl
  exact ⟨h.grown.trans grows, by rw [same]; exact h.holds, h.billed.grows grows⟩

/-- A journal is kept, whoever reads it back. -/
def Billing.Kept (w : Billing) : Prop := ∃ log j, Audited w.ledger.charges log j w

theorem Audited.kept (h : Audited base log j w) : w.Kept := ⟨log, j, List.prefix_rfl, h.holds, h.billed⟩

/-- The operation leaves the journal kept. -/
def Permits (w : Billing) (o : Op) : Prop := ∀ r w', Billing.env w o r w' → w'.Kept

theorem Audited.permits {o : Op} (h : Audited base log j w) (silent : o.silent = true) : Permits w o :=
  fun _ _ step => (h.step silent step).kept

theorem Audited.rebase {base' : List Charge} (h : Audited base log j w) (earlier : base' <+: base) : Audited base' log j w :=
  ⟨earlier.trans h.grown, h.holds, h.billed⟩

theorem keeps_perform_audited {o : Op} (silent : o.silent = true) (h : Audited base log s.journal w) :
    Keeps Billing.env Permits (perform o : Driver (Answer o)) (fun _ s => Audited base log s.journal)
      (fun _ s => Audited base log s.journal) s w :=
  keeps_perform_iff.2 ⟨h.permits silent, fun _ _ step => h.step silent step⟩

theorem keeps_update_audited {f : DriverState → DriverState} (h : Audited base log s.journal w) :
    Keeps Billing.env Permits (update f) (fun _ s => Audited base log s.journal) (fun _ s => Audited base log s.journal) s w :=
  keeps_update_iff.2 ⟨h.permits rfl, fun _ step => h.step rfl step⟩

/-- What a request returns, the ledger has answered. -/
theorem keeps_request_audited {texts : Texts} {r : Request} {expect : List ℕ} {attempts : ℕ} {interval : ℚ}
    (h : Audited base log s.journal w) : Keeps Billing.env Permits (request texts r expect attempts interval)
      (fun answer s w => Audited base log s.journal w ∧ answer.1 ∈ expect ∧
        w.ledger.Answers (.send r) (.answered answer.1 answer.2.1 answer.2.2))
      (fun _ s => Audited base log s.journal) s w := by
  refine keeps_request_answered (fun s w h => ⟨h.permits rfl, fun _ _ => h.step rfl⟩) ?_ ?_ h
  · refine fun s w h => ⟨h.permits rfl, fun reply w' step => ⟨h.step rfl step, fun answer hjudge => ?_⟩⟩
    obtain ⟨rfl, expected⟩ := judge_eq_ok hjudge
    exact ⟨h.step rfl step, expected, step.2.2.2⟩
  · intro s w wait h
    exact keeps_bind_iff.2 (keeps_modify_iff.2 (keeps_perform_audited rfl h))

/-- An entry of a list, as the driver read it. -/
def Read (charges : List Charge) (entry : LedgerEntry) : Prop := ∃ c ∈ charges, c.Printed ∧ entry = c.entry

/-- The call journals no charge, or that of an entry of the list. -/
def Charges (charges : List Charge) (call : Call) : Prop :=
  call.eventKind = "charge" → ∃ entry step, Read charges entry ∧ call = chargeCall entry step

/-- An event that is written is the charge of an entry, if it is a charge. -/
theorem Audited.wrote {call : Call} {event : Soak.Event} {u : Store} {r : Answer (.write event)}
    (h : Audited base log s.journal w) (charges : Charges base call)
    (wrote : Wrote Sha256.sha256 (stored s w.disk) call event u) (step : Billing.env w (.write event) r w') :
    Audited base (log ++ [(call, event)]) u.journal w' := by
  refine ⟨h.grown.trans step.2.2.1, Billing.persistent.wrote h.holds wrote step, fun e he kind => ?_⟩
  rw [events, List.map_append, List.mem_append, List.map_singleton, List.mem_singleton] at he
  rcases he with he | rfl
  · exact h.billed.grows step.2.2.1 e he kind
  rw [isKind_iff, wrote.kind, Option.some_inj, Json.str.injEq] at kind
  obtain ⟨_, step', ⟨c, hc, printed, rfl⟩, rfl⟩ := charges kind
  refine ⟨c, step.2.2.1.subset (h.grown.subset hc), wrote.kind, ?_, ?_, ?_, printed⟩
  · exact wrote.items ("chargeId", .str c.chargeId) (by simp [Call.items, chargeCall, Charge.entry])
  · exact wrote.items ("usageUnits", .int c.usageUnits) (by simp [Call.items, chargeCall, Charge.entry])
  · exact wrote.items ("chargeWei", .str (toString c.chargeWei)) (by simp [Call.items, chargeCall, Charge.entry])

theorem keeps_record_audited {call : Call} (h : Audited base log s.journal w) (charges : Charges base call) :
    Keeps Billing.env Permits (record call) (fun _ s w => ∃ log, Audited base log s.journal w)
      (fun _ s w => ∃ log, Audited base log s.journal w) s w :=
  keeps_record Billing.persistent h.holds (fun _ => ⟨log, h⟩) (fun _ => ⟨log, h⟩)
    (fun _ _ wrote _ _ step => (h.wrote charges wrote step).kept) fun _ _ _ wrote step _ => ⟨_, h.wrote charges wrote step⟩

/-- The driver reads entries of the ledger, and all of them after zero. -/
theorem keeps_ledgerEntries (texts : Texts) (after : ℤ) (h : Audited base log s.journal w) :
    Keeps Billing.env Permits (ledgerEntries texts after)
      (fun entries s w => Audited base log s.journal w ∧ ∃ listed, entries = listed.map Charge.entry ∧ (∀ c ∈ listed, c.Printed) ∧
        List.Subperm listed (w.ledger.since after) ∧ listed.length = min 500 (w.ledger.since after).length)
      (fun _ s => Audited base log s.journal) s w := by
  unfold ledgerEntries
  refine (keeps_request_audited h).bind fun answer s w ⟨h, expected, answered⟩ => keeps_liftExcept_iff.2 ?_
  cases hread : readLedger answer.2.1 with
  | error e => exact h
  | ok entries => exact ⟨h, readLedger_of_lists (answered after rfl (List.mem_singleton.1 expected)) hread⟩

theorem keeps_journalCharges (step : String) {entries : List LedgerEntry} (read : ∀ entry ∈ entries, Read base entry)
    (h : Audited base log s.journal w) : Keeps Billing.env Permits (journalCharges step entries)
      (fun _ s w => ∃ log, Audited base log s.journal w) (fun _ s w => ∃ log, Audited base log s.journal w) s w := by
  induction entries generalizing log s w with
  | nil => exact ⟨log, h⟩
  | cons entry entries ih =>
    unfold journalCharges
    have charges : Charges base (chargeCall entry step) := fun _ => ⟨entry, step, read entry (by simp), rfl⟩
    refine (keeps_record_audited h charges).bind fun _ s w ⟨log, h⟩ => ?_
    exact ih (fun e he => read e (by simp [he])) h

theorem mem_charges_of_since {after : ℤ} {listed : List Charge} (sub : List.Subperm listed (ledger.since after)) :
    listed ⊆ ledger.charges := fun _ hc => (List.mem_filter.1 (sub.subset hc)).1

theorem keeps_summarize {step : String} {expectedCount : Option ℕ} (h : Audited base log s.journal w) :
    Keeps Billing.env Permits (summarize step expectedCount) (fun _ s => Audited base log s.journal)
      (fun _ s => Audited base log s.journal) s w := by
  unfold summarize
  refine keeps_bind_iff.2 (keeps_get_iff.2 (keeps_bind_iff.2 (keeps_raiseIf_iff.2 ⟨fun _ => h, fun _ => ?_⟩)))
  refine keeps_bind_iff.2 (keeps_liftExcept_iff.2 ?_)
  cases total "usageUnits" _ with
  | error e => exact h
  | ok usage =>
    rw [ends_ok]
    refine keeps_bind_iff.2 (keeps_liftExcept_iff.2 ?_)
    cases total "chargeWei" _ with
    | error e => exact h
    | ok wei =>
      rw [ends_ok]
      refine keeps_bind_iff.2 (keeps_liftExcept_iff.2 ?_)
      cases strOfInt wei <;> exact h

/-- The worker keeps some log. -/
abbrev SomeLog (base : List Charge) (s : Worker) (w : Billing) : Prop := ∃ log, Audited base log s.journal w

theorem SomeLog.rebase {base' : List Charge} (h : SomeLog base s w) (earlier : base' <+: base) : SomeLog base' s w := by
  obtain ⟨log, h⟩ := h
  exact ⟨log, h.rebase earlier⟩

/-- A rule for what keeps the log that there is. -/
theorem keeps_someLog {α : Type} {x : Driver α} (h : SomeLog base s w)
    (keeps : ∀ log, Audited base log s.journal w → Keeps Billing.env Permits x
      (fun _ s => Audited base log s.journal) (fun _ s => Audited base log s.journal) s w) :
    Keeps Billing.env Permits x (fun _ => SomeLog base) (fun _ => SomeLog base) s w := by
  obtain ⟨log, h⟩ := h
  exact (keeps log h).mono (fun _ _ h => h) (fun _ _ _ h => ⟨log, h⟩) fun _ _ _ h => ⟨log, h⟩

theorem keeps_emitCharges {texts : Texts} {step : String} {expectedCount : Option ℕ} (h : SomeLog base s w) :
    Keeps Billing.env Permits (emitCharges texts step expectedCount) (fun _ => SomeLog base)
      (fun _ => SomeLog base) s w := by
  obtain ⟨log, h⟩ := h
  unfold emitCharges
  refine keeps_bind_iff.2 (keeps_get_iff.2 ?_)
  refine ((keeps_ledgerEntries _ _ h).mono (fun _ _ h => h) (fun _ _ _ h => h) fun _ _ _ h => ⟨log, h⟩).bind ?_
  rintro entries s w ⟨h, listed, rfl, printed, sub, -⟩
  have read : ∀ entry ∈ listed.map Charge.entry, Read w.ledger.charges entry := by
    intro entry hentry
    obtain ⟨c, hc, rfl⟩ := List.mem_map.1 hentry
    exact ⟨c, mem_charges_of_since sub hc, printed c hc, rfl⟩
  -- What was read is in the ledger from here on.
  have journaled := keeps_journalCharges step read ⟨List.prefix_rfl, h.holds, h.billed⟩
  have journaled := journaled.mono (fun _ _ h => h) (fun _ _ _ h' => SomeLog.rebase h' h.grown) fun _ _ _ h' =>
    SomeLog.rebase h' h.grown
  refine journaled.bind fun _ s w h => ?_
  cases listed.map Charge.entry with
  | nil => exact keeps_someLog h fun _ => keeps_summarize
  | cons entry entries =>
    exact (keeps_someLog h fun _ => keeps_update_audited).bind fun _ s w h => keeps_someLog h fun _ => keeps_summarize

theorem keeps_carry {texts : Texts} (action : Action) (h : SomeLog base s w) :
    Keeps Billing.env Permits (action.carry texts) (fun _ => SomeLog base) (fun _ => SomeLog base) s w := by
  cases action with
  | emitCharges step expectedCount => exact keeps_catching_iff.2 (keeps_emitCharges h)
  | other step free =>
    cases step with
    | request texts r expect attempts interval =>
      refine keeps_catching_iff.2 (keeps_someLog h fun log h => ?_)
      exact (keeps_request_audited h).mono (fun _ _ h => h) (fun _ _ _ h => h.1) fun _ _ _ h => h
    | update f => exact keeps_someLog h fun _ => keeps_update_audited
    | record call open' =>
      obtain ⟨log, h⟩ := h
      exact keeps_catching_iff.2 (keeps_record_audited h fun kind => absurd (beq_iff_eq.2 kind) (ne_true_of_eq_false free))
    | consult => exact h
    | monotonic => exact keeps_someLog h fun _ => keeps_perform_audited rfl
    | sleep seconds => exact keeps_someLog h fun _ => keeps_perform_audited rfl
    | outside effect => exact keeps_someLog h fun _ => keeps_perform_audited rfl

/-! ## The last comparison -/

theorem since_zero (ledger : Ledger) : ledger.since 0 = ledger.charges :=
  List.filter_eq_self.2 fun _ _ => decide_eq_true (.inl rfl)

/-- The whole ledger is read at once. -/
theorem perm_of_since_zero {listed : List Charge} (sub : List.Subperm listed (ledger.since 0))
    (length : listed.length = min 500 (ledger.since 0).length) : List.Perm listed ledger.charges := by
  rw [since_zero] at sub length
  have bounded := ledger.bounded
  exact sub.perm_of_length_le (by omega)

/-- Accounting that agrees with the whole ledger reconciles it with every journal that reads the same. -/
theorem reconciled_of_compared {texts : Texts} {manifest : Dict} {accounting : JournalAccounting} {listed : List Charge}
    (billed : Billed ledger.charges es) (account : journalAccounting texts es = .ok accounting)
    (once : accounting.chargeIds.Nodup) (perm : List.Perm listed ledger.charges)
    (compared : Compared manifest accounting listed) (same : es.map reread = es'.map reread) :
    Reconciled manifest es' ledger.charges := by
  obtain ⟨picks, picked, sub⟩ := billed.picked
  obtain ⟨hids, husage, hwei⟩ := foldlM_accountEvent picked account
  have picked := picked.same same
  rw [List.nil_append] at hids
  rw [zero_add] at husage hwei
  have hlistedUsage : usageOf listed = usageOf ledger.charges := (perm.map _).sum_eq
  have hlistedWei : weiOf listed = weiOf ledger.charges := (perm.map _).sum_eq
  have usage : usageOf ledger.charges = usageOf picks := by
    have := husage.symm.trans compared.usageUnits
    omega
  have wei : weiOf ledger.charges = weiOf picks := by
    have := hwei.symm.trans compared.chargesWei
    omega
  rw [hids] at once
  obtain ⟨expected, hexpected, hexpectedUsage, hexpectedWei⟩ := compared.expected
  refine ⟨⟨picks.map (·.chargeId), ?_, once, fun id => ?_⟩, ?_, ?_, ?_, expected, hexpected, ?_, ?_⟩
  · rw [List.map_map]
    refine List.forall₂_eq_eq_eq ▸ ?_
    rw [List.forall₂_map_left_iff, List.forall₂_map_right_iff]
    exact picked.flip.imp fun _ _ bills => item_of_get bills.chargeId
  · rw [← hids, compared.chargeIds, (perm.map _).mem_iff]
  · exact duplicates_zero (ledger.distinct.of_map _) sub once usage wei
  · rw [usage]
    exact total_usageUnits picked
  · rw [wei]
    exact total_chargeWei picked
  · rw [hexpectedUsage, husage, usage]
  · rw [hexpectedWei, hwei, wei]

theorem keeps_freshIndexer (texts : Texts) (left : ℕ) (last : Dict) (h : Audited base log s.journal w) :
    Keeps Billing.env Permits (freshIndexer texts left last) (fun _ s => Audited base log s.journal)
      (fun _ s => Audited base log s.journal) s w := by
  induction left generalizing last s w with
  | zero => exact h
  | succ left ih =>
    have status : Keeps Billing.env Permits (indexerStatus texts 3) (fun _ s => Audited base log s.journal)
        (fun _ s => Audited base log s.journal) s w := by
      unfold indexerStatus
      refine (keeps_request_audited h).bind fun answer s w ⟨h, _⟩ => ?_
      dsimp only
      split <;> exact h
    unfold freshIndexer
    refine status.bind fun last s w h => ?_
    split
    · exact h
    · exact (keeps_perform_audited rfl h).bind fun _ s w h => ih last h

/-- The ledger at some time from a base on, with which every journal is reconciled that reads like the log. -/
def Settled (manifest : Dict) (base : List Charge) (s : Worker) (w : Billing) : Prop :=
  ∃ (ledger : Ledger) (log : List Entry), base <+: ledger.charges ∧ Audited ledger.charges log s.journal w ∧
    ∀ es, (events log).map reread = es.map reread → Reconciled manifest es ledger.charges

theorem keeps_assertExpected {texts : Texts} {manifest : Dict} (h : Audited base log s.journal w) :
    Keeps Billing.env Permits (assertExpected texts manifest) (fun _ => Settled manifest base)
      (fun _ => SomeLog base) s w := by
  unfold assertExpected
  refine keeps_bind_iff.2 (keeps_get_iff.2 (keeps_bind_iff.2 (keeps_liftExcept_iff.2 ?_)))
  cases account : journalAccounting texts s.journal.events with
  | error e => exact ⟨log, h⟩
  | ok accounting =>
    rw [ends_ok]
    refine keeps_bind_iff.2 (keeps_raiseIf_iff.2 ⟨fun _ => ⟨log, h⟩, fun _ => ?_⟩)
    refine keeps_bind_iff.2 (keeps_raiseIf_iff.2 ⟨fun _ => ⟨log, h⟩, fun once => ?_⟩)
    rw [not_not] at once
    have read := (keeps_ledgerEntries texts 0 h).mono (fun _ _ h => h) (fun _ _ _ h => h)
      fun _ s w h => (⟨log, h⟩ : SomeLog base s w)
    have journaled := h.holds.same
    refine read.bind ?_
    rintro _ s w ⟨h, listed, rfl, printed, sub, length⟩
    refine keeps_bind_iff.2 (keeps_liftExcept_iff.2 ?_)
    cases check : checkAccounting manifest accounting (listed.map Charge.entry) with
    | error e => exact ⟨log, h⟩
    | ok _ =>
      rw [ends_ok]
      have compared := checkAccounting_eq_ok printed check
      have perm := perm_of_since_zero sub length
      have billed := h.billed.same journaled.symm
      have reconciled (es : List Soak.Event) (same : (events log).map reread = es.map reread) :
          Reconciled manifest es w.ledger.charges :=
        reconciled_of_compared billed account once perm compared (journaled.trans same)
      have earlier := h.grown
      have h : Audited w.ledger.charges log s.journal w := ⟨List.prefix_rfl, h.holds, h.billed⟩
      have fresh := (keeps_freshIndexer texts 120 [] h).mono (fun _ _ h => h) (fun _ _ _ h => h)
        fun _ s' w' h => (⟨log, h.rebase earlier⟩ : SomeLog base s' w')
      refine fresh.bind fun status s w h => ?_
      refine keeps_bind_iff.2 (keeps_raiseIf_iff.2 ⟨fun _ => ⟨log, h.rebase earlier⟩, fun _ => ?_⟩)
      refine keeps_bind_iff.2 (keeps_get_iff.2 ?_)
      refine keeps_bind_iff.2 (keeps_raiseIf_iff.2 ⟨fun _ => ⟨log, h.rebase earlier⟩, fun _ => ?_⟩)
      exact ⟨_, log, earlier, h, reconciled⟩

/-! ## Generations -/

theorem keeps_generation (slots : Slots) (h : w.Kept) : Keeps Billing.env Permits (a.generations.serve slots)
    (fun result s w' => result.isSome = true → Settled a.manifest w.ledger.charges s w') (fun _ _ _ => True) s w := by
  obtain ⟨log, j, h⟩ := h
  have keeps (o : Op) (w' : Billing) (silent : o.silent = true) (h : Audited w.ledger.charges log j w') :
      Permits w' o ∧ ∀ r w'', Billing.env w' o r w'' → Audited w.ledger.charges log j w'' :=
    ⟨h.permits silent, fun _ _ => h.step silent⟩
  have boots := keeps_boot Permits a.manifestSha256 (P := Audited w.ledger.charges log j)
    Billing.persistent (fun o w' reads => keeps o w' (by cases o <;> first | rfl | cases reads))
    (fun _ w' _ h => (keeps _ w' rfl h).imp_right fun next w'' => next () w'')
    (fun _ w' _ h => (keeps _ w' rfl h).imp_right fun next w'' => next () w'') h (s := s)
  refine (permitted boots).bind fun opened s w' ⟨h, booted, _⟩ => ?_
  cases opened with
  | false => exact nofun
  | true =>
    have booted := booted rfl
    have holds := h.holds.restart (j := s.journal) (by rw [booted.kept]; exact booted.journal)
    have h : SomeLog w.ledger.charges s w' := ⟨log, h.grown, holds, h.billed⟩
    have worked := Keeps.interpret (h := Action.carry a.texts) (fun action s w => keeps_carry action) slots.run h
    refine (permitted worked).bind fun _ s w' ⟨log, h⟩ => ?_
    refine (permitted (keeps_assertExpected h)).bind fun accounting s w' h => ?_
    exact keeps_pure_iff.2 fun _ => h

section Runs

/-- A generation of workers on a ledger. -/
abbrev Audit.Generation := Interaction.Call Slots Raised Worker Op Answer (Option JournalAccounting) Billing

variable {calls : List Audit.Generation} {c : Audit.Generation}

theorem Billing.Kept.grows (h : w.Kept) (disk : w'.disk = w.disk) (grows : w.Grows w') : w'.Kept := by
  obtain ⟨log, j, h⟩ := h
  exact ⟨log, j, List.prefix_rfl, by rw [disk]; exact h.holds, h.billed.grows grows⟩

theorem billing_kept_of_run (run : a.generations.Run calls s w) : w.Kept := by
  induction run with
  | @start w initial =>
    have empty : w.disk = .empty := initial
    exact ⟨[], .empty, List.prefix_rfl, by rw [empty]; exact holds_start, nofun⟩
  | call _ valid ih => exact (keeps_generation _ ih).leaves (fun _ _ r _ _ permits step => permits r _ step) ih valid.run valid.answered
  | restart _ ih => exact ih
  | drift _ step ih => exact ih.grows step.1 step.2

/-- When `assert_expected` returns, the journal on disk is reconciled with the ledger as it was read, however the
generations were killed and whatever the ledger repeats. -/
theorem billing_reconciled (run : a.generations.Run calls s w) (hc : c ∈ calls) {accounting : JournalAccounting}
    (returned : c.answer = some (some accounting)) :
    ∃ ledger : Ledger, c.before.ledger.charges <+: ledger.charges ∧ ledger.charges <+: c.after.ledger.charges ∧
      ∃ j, Journal.load c.after.disk.journal = .ok j ∧ Reconciled a.manifest j.events ledger.charges := by
  obtain ⟨pre, post, rfl⟩ := List.append_of_mem hc
  obtain ⟨earlier, valid⟩ := run.split
  obtain ⟨s', hout⟩ := Interaction.Call.answer_eq_some returned
  have keeps := keeps_generation (a := a) c.request (billing_kept_of_run earlier) (s := c.memory)
  obtain ⟨ledger, log, before, h, reconciled⟩ := (keeps.of_runs valid.run valid.answered).1 _ _ hout rfl
  obtain ⟨j, hload, same, -⟩ := h.holds.load_eq
  exact ⟨ledger, before, h.grown, j, hload, reconciled _ same.symm⟩

end Runs

/-! ## A ledger that bills twice -/

namespace BilledTwice

/-- A charge, and the same charge for nothing. -/
def twice : Ledger where
  charges := [⟨1, "charge-1", 7, 11⟩, ⟨2, "charge-1", 0, 0⟩]
  distinct := by decide
  bounded := by decide

def audit : Audit where
  texts := ⟨fun _ => "", fun _ => "", fun _ => ""⟩
  manifestSha256 := "digest"
  manifest := [("expected", .obj [("usageUnits", .int 7), ("chargesWei", .str "11")])]

/-- The entries of the ledger, the last one first. -/
def body : Json := .obj [("entries", .arr [
  .obj [("entryId", .int 2), ("chargeId", .str "charge-1"), ("usageUnits", .int 0), ("chargeWei", .str "0")],
  .obj [("entryId", .int 1), ("chargeId", .str "charge-1"), ("usageUnits", .int 7), ("chargeWei", .str "11")]])]

def answer (d : Disk) : (o : Op) → Option (Answer o × Disk)
  | .readJournal => some (d.journal, d)
  | .readState => some (d.state, d)
  | .newRunId => some ("0123456789abcdef", d)
  | .save state => some ((), d.after (.save state))
  | .write event => some ((), d.after (.write event))
  | .monotonic => some (0, d)
  | .sleep _ => some ((), d)
  | .backoff _ => some ((), d)
  | .prepare _ => some (none, d)
  | .send r =>
    if r.path = (ledgerRequest 0).path then some (.answered 200 (some body) [], d)
    else if r.endpoint = "indexer" then
      some (.answered 200 (some (.obj [("indexerHeadMatchesL1", .bool true), ("unresolvedSafetyEvents", .int 0)])) [], d)
    else some (.failed "connection refused", d)
  | .outside _ => none
  | .runSlot _ _ _ => some ((), d)

theorem lists_body : twice.Lists 0 (some body) := by
  refine ⟨_, _, [⟨2, "charge-1", 0, 0⟩, ⟨1, "charge-1", 7, 11⟩], rfl, rfl, .cons ?_ (.cons ?_ .nil), ?_, rfl⟩
  · exact ⟨.inl rfl, rfl, .inl rfl, .inr rfl⟩
  · exact ⟨.inl rfl, rfl, .inl rfl, .inr rfl⟩
  · exact (List.Perm.swap _ _ _).subperm

theorem answer_env : ∀ d o r d', answer d o = some (r, d') → audit.generations.env ⟨d, twice⟩ o r ⟨d', twice⟩ := by
  intro d o r d' h
  cases o with
  | readJournal | readState =>
    cases h
    exact ⟨rfl, rfl, List.prefix_rfl, trivial⟩
  | send request =>
    unfold answer at h
    dsimp only at h
    split at h
    · rename_i whole
      cases h
      refine ⟨trivial, rfl, List.prefix_rfl, fun after same _ => ?_⟩
      obtain rfl : after = 0 := ledgerRequest_injective (by rw [← same]; exact whole)
      exact lists_body
    split at h
    · rename_i indexer
      cases h
      refine ⟨trivial, rfl, List.prefix_rfl, fun after same _ => ?_⟩
      rw [same] at indexer
      have other : "coordinator" = "indexer" := indexer
      exact absurd other (by decide)
    · cases h
      exact ⟨trivial, rfl, List.prefix_rfl, trivial⟩
  | outside => cases h
  | _ =>
    cases h
    exact ⟨trivial, rfl, List.prefix_rfl, trivial⟩

/-- The disk, with the ledger. -/
def view (d : Disk) : Billing := ⟨d, twice⟩

/-- A generation on a disk. -/
def generation (s : Worker) (d : Disk) (slots : Slots) : Audit.Generation := (audit.generations.called answer view slots s d).1

theorem valid_generation (s : Worker) (d : Disk) (slots : Slots) : audit.generations.Valid (generation s d slots) :=
  Service.called_valid view answer_env slots s d

/-- The charges are journaled, and the worker is killed. -/
def killed : Audit.Generation := generation ⟨.fresh "" "", .empty, 0⟩ .empty do
  let _ ← Raising.perform (Action.emitCharges "pulse" (some 1))
  let _ ← Raising.perform (Action.other (.outside "power") rfl)

/-- The next worker closes the run. -/
def audited : Audit.Generation := generation (audit.generations.ended killed) killed.after.disk do
  let _ ← Raising.perform (Action.other (.update fun s => { s with resumeVerified := true }) rfl)

/-- `billing_reconciled` of the second worker. -/
theorem billing_reconciled_twice : ∃ accounting, audited.answer = some (some accounting) ∧
    ∃ ledger : Ledger, twice.charges <+: ledger.charges ∧ ledger.charges <+: twice.charges ∧
      ∃ j, Journal.load audited.after.disk.journal = .ok j ∧ Reconciled audit.manifest j.events ledger.charges := by
  have first : audit.generations.Run ([] ++ [killed]) (audit.generations.ended killed) killed.after :=
    .call (.start rfl) (valid_generation _ _ _)
  have run : audit.generations.Run ([] ++ [killed] ++ [audited]) (audit.generations.ended audited) audited.after :=
    .call first (valid_generation _ _ _)
  have returns : (audited.answer.bind id).isSome = true := by decide +kernel
  obtain ⟨accounting, returned⟩ := Option.isSome_iff_exists.1 returns
  obtain ⟨result, hanswer, hresult⟩ := Option.bind_eq_some_iff.1 returned
  obtain rfl : result = some accounting := hresult
  exact ⟨accounting, hanswer, billing_reconciled run (by simp) hanswer⟩

end BilledTwice

end Zkdeal.OwnerSoak
