import Mathlib.Data.List.Pairwise
import Zkdeal.BackupRestore.Isolation
import Zkdeal.Scripts.ReleaseEligible

/-!
# Authorities of a candidate

The endpoints of a candidate other than the queue, and its two active witnesses, ought to be different
services.  `validate` compares the lower-cased texts of their authorities, so what it accepts has
different services exactly if no two compared URLs write one service in two ways: with an explicit or an
empty port beside none, with leading zeros in a port, with an empty user name, or under the other scheme.
-/

namespace Zkdeal.Scripts

open Interaction Raising Python Json Python.Sha256
open BackupRestore (item follow service SameService)

/-! ## Services of a topology -/

/-- Two fields of a document are URLs that write one service in two ways, apart from letter case. -/
def Alias (value value' : Json) : Prop :=
  ∃ url url' p p' s, value = .str url ∧ value' = .str url' ∧ urlsplit url = some p ∧ urlsplit url' = some p' ∧
    lower p.netloc ≠ lower p'.netloc ∧ service p = some s ∧ service p' = some s

/-- The URL of an endpoint. -/
def endpointUrl (topology : Dict) (name : String) : Json := follow (item topology "endpoints") [name, "url"]

/-- A relation of no two endpoints other than the queue, and not of the two witnesses. -/
structure Avoids (R : Json → Json → Prop) (topology : Dict) : Prop where
  endpoints : ∀ name ∈ endpointNames, ∀ name' ∈ endpointNames, name ≠ "queue" → name' ≠ "queue" → name ≠ name' →
    ¬R (endpointUrl topology name) (endpointUrl topology name')
  witnesses : ∃ first second, item (sectionOf topology "failoverControl") "activeWitnesses" = .arr [first, second] ∧
    ¬R (follow first ["url"]) (follow second ["url"])

/-- No two compared URLs write one service in two ways. -/
def WrittenOnce (topology : Dict) : Prop := Avoids Alias topology

/-! ## What the checks compare -/

/-- Two entries with different authorities, unless one is the queue. -/
def Apart (e e' : String × String) : Prop := e.1 ≠ "queue" → e'.1 ≠ "queue" → authority e.2 ≠ authority e'.2

theorem Apart.symm {e e' : String × String} (h : Apart e e') : Apart e' e := fun he he' => (h he' he).symm

instance : Std.Symm Apart := ⟨fun _ _ => Apart.symm⟩

/-- An authority written as a lower-cased host and its port in decimal digits. -/
def WrittenOut (value : Json) : Prop :=
  ∃ url p s, value = .str url ∧ urlsplit url = some p ∧ service p = some s ∧
    lower p.netloc = s.1.toList ++ ':' :: Nat.toDigits 10 s.2

theorem not_alias_of_writtenOut {value value' : Json} (h : WrittenOut value) (h' : WrittenOut value') :
    ¬Alias value value' := by
  obtain ⟨url, p, s, rfl, hp, hs, text⟩ := h
  obtain ⟨url', p', s', rfl, hp', hs', text'⟩ := h'
  rintro ⟨u, u', q, q', t, hu, hu', hq, hq', differ, ht, ht'⟩
  cases hu
  cases hu'
  cases hp.symm.trans hq
  cases hp'.symm.trans hq'
  have same : s = s' := Option.some.inj ((hs.symm.trans ht).trans (ht'.symm.trans hs'))
  exact differ (by rw [text, text', same])

/-- A topology that writes out every port writes no service in two ways. -/
theorem writtenOnce_of_writtenOut {topology : Dict} {first second : Json}
    (endpoints : ∀ name ∈ endpointNames, name ≠ "queue" → WrittenOut (endpointUrl topology name))
    (pair : item (sectionOf topology "failoverControl") "activeWitnesses" = .arr [first, second])
    (witnesses : WrittenOut (follow first ["url"]) ∧ WrittenOut (follow second ["url"])) : WrittenOnce topology where
  endpoints name hname name' hname' queue queue' _ :=
    not_alias_of_writtenOut (endpoints name hname queue) (endpoints name' hname' queue')
  witnesses := ⟨first, second, pair, not_alias_of_writtenOut witnesses.1 witnesses.2⟩

/-! ## One service under two names -/

namespace TwoNames

open StaticOnly (candidate surroundings images)

/-- The indexer is the coordinator under its default port. -/
def endpoints : Dict := StaticOnly.endpoints.set "indexer" (StaticOnly.endpoint "http://a.svc:80" "indexer")

/-- The second witness is the first one under its default port. -/
def failoverControl : Dict :=
  StaticOnly.failoverControl.set "activeWitnesses"
    (.arr [StaticOnly.endpoint "http://a.svc/hosting/v1/ready" "active-witness-a",
      StaticOnly.endpoint "http://a.svc:80/hosting/v1/ready" "active-witness-b"])

def topology : Dict := (StaticOnly.topology.set "endpoints" (.obj endpoints)).set "failoverControl" (.obj failoverControl)

def normalized : List (String × String) :=
  StaticOnly.normalized.map fun e => if e.1 = "indexer" then (e.1, "http://a.svc:80") else e

def urls : FailoverUrls :=
  { StaticOnly.urls with witnesses := ["http://a.svc/hosting/v1/ready", "http://a.svc:80/hosting/v1/ready"] }

/-- The other items are those of the first topology. -/
theorem item_topology {key : String} (h : key ≠ "endpoints" ∧ key ≠ "failoverControl") :
    item (printed topology) key = item (printed StaticOnly.topology) key := by
  rw [item_printed, item_printed, topology, item_set, if_neg h.2, item_set, if_neg h.1]

theorem sectionOf_topology {key : String} (h : key ≠ "endpoints" ∧ key ≠ "failoverControl") :
    sectionOf (printed topology) key = sectionOf (printed StaticOnly.topology) key := by
  rw [sectionOf, sectionOf, item_topology h]

/-- The parts that are not those of the first topology. -/
theorem parts_spec :
    Dict.hasKeys (printed topology) topologyKeys = true ∧ plain (.obj topology) = true ∧
      ((Schema.object [] [] (some endpointSchema) 11 (some 11)).valid (item (printed topology) "endpoints") = true) ∧
      ((Schema.object failoverControlKeys failoverControlProperties none 0 none).valid
        (item (printed topology) "failoverControl") = true) ∧
      checkEndpoints surroundings (sectionOf (printed topology) "endpoints") = .ok normalized ∧
      expectedImageKeys.mapM (checkEndpointImage (sectionOf (printed topology) "endpoints")
        (sectionOf (printed StaticOnly.topology) "workloads") images "docker") = .ok (List.replicate 9 ()) ∧
      checkProvider (sectionOf (printed topology) "endpoints") (sectionOf (printed StaticOnly.topology) "workloads")
        "l1_rpc_a" = .ok (.str "independent-l1-rpc-a") ∧
      checkProvider (sectionOf (printed topology) "endpoints") (sectionOf (printed StaticOnly.topology) "workloads")
        "l1_rpc_b" = .ok (.str "independent-l1-rpc-b") ∧
      checkFailover surroundings (sectionOf (printed topology) "failoverControl")
        (sectionOf (printed StaticOnly.topology) "workloads") images "docker" = .ok urls ∧
      platformKind (printed StaticOnly.topology) = "docker" := by
  decide

theorem valid_topology : topologySchema.valid (.obj (printed topology)) = true := by
  obtain ⟨keys, -, endpoints, failover, -⟩ := parts_spec
  obtain ⟨_, same, closed⟩ := Schema.closed_of_valid StaticOnly.valid_topology
  obtain rfl := Json.obj.inj same
  have known : (topologyProperties.all fun p => topologyKeys.contains p.1) = true := by decide
  have value (key : String) (schema : Schema) (hp : (key, schema) ∈ topologyProperties)
      (h : key ≠ "endpoints" ∧ key ≠ "failoverControl") : schema.valid (item (printed topology) key) = true := by
    have hkey : key ∈ topologyKeys := by simpa using List.all_eq_true.1 known (key, schema) hp
    rw [item_topology h]
    exact item_of_closed closed hkey hp
  refine StaticOnly.valid_of_properties keys StaticOnly.schema_spec.2.2.2.1 ?_
  unfold topologyProperties at value ⊢
  simp only [List.forall_mem_cons]
  exact ⟨value _ _ (by simp) (by decide), value _ _ (by simp) (by decide), value _ _ (by simp) (by decide),
    value _ _ (by simp) (by decide), value _ _ (by simp) (by decide), value _ _ (by simp) (by decide),
    value _ _ (by simp) (by decide), value _ _ (by simp) (by decide), endpoints, value _ _ (by simp) (by decide),
    value _ _ (by simp) (by decide), failover, nofun⟩

theorem checkBinding_eq : checkBinding (printed candidate) (printed topology) (sha256 (fileOf candidate)) = .ok () := by
  have same := StaticOnly.checkBinding_eq
  unfold checkBinding at same ⊢
  rw [item_topology (by decide), item_topology (by decide), item_topology (by decide)]
  exact same

theorem checkWorkloads_eq : checkWorkloads (sectionOf (printed topology) "endpoints")
    (sectionOf (printed StaticOnly.topology) "workloads") images "docker" = .ok () := by
  obtain ⟨-, -, -, -, -, images_, providerA, providerB, -, kind⟩ := parts_spec
  have before := StaticOnly.checkWorkloads_eq
  rw [kind] at before
  unfold checkWorkloads at before ⊢
  obtain ⟨_, keys, before⟩ := bind_eq_ok.1 before
  obtain ⟨_, each, -⟩ := bind_eq_ok.1 before
  exact bind_eq_ok.2 ⟨_, keys, bind_eq_ok.2 ⟨_, each, bind_eq_ok.2 ⟨_, images_, bind_eq_ok.2 ⟨_, providerA,
    bind_eq_ok.2 ⟨_, providerB, raiseIf_eq_ok.2 (by decide)⟩⟩⟩⟩⟩

theorem checkTopology_eq : ∃ c,
    checkTopology surroundings (printed candidate) (printed topology) (sha256 (fileOf candidate)) = .ok c := by
  obtain ⟨-, -, -, -, endpoints, -, -, -, failover, kind⟩ := parts_spec
  have before := StaticOnly.checkTopology_eq
  unfold checkTopology at before
  obtain ⟨_, -, before⟩ := bind_eq_ok.1 before
  obtain ⟨_, -, before⟩ := bind_eq_ok.1 before
  obtain ⟨images', himages, before⟩ := bind_eq_ok.1 before
  obtain ⟨_, capabilities, before⟩ := bind_eq_ok.1 before
  obtain ⟨_, -, before⟩ := bind_eq_ok.1 before
  obtain ⟨_, -, before⟩ := bind_eq_ok.1 before
  obtain ⟨_, -, before⟩ := bind_eq_ok.1 before
  obtain ⟨_, database, -⟩ := bind_eq_ok.1 before
  obtain rfl : images = images' := Except.ok.inj (StaticOnly.checkImages_eq.symm.trans himages)
  have kind' : platformKind (printed topology) = "docker" := by
    rw [← kind, platformKind, platformKind, item_topology (by decide)]
  rw [kind] at database
  unfold checkTopology
  rw [kind', item_topology (by decide), @sectionOf_topology "workloads" (by decide),
    @sectionOf_topology "databaseHa" (by decide)]
  refine ⟨_, bind_eq_ok.2 ⟨(), raiseIf_eq_ok.2 ?_, bind_eq_ok.2 ⟨(), checkBinding_eq, bind_eq_ok.2 ⟨images, himages,
    bind_eq_ok.2 ⟨_, capabilities, bind_eq_ok.2 ⟨normalized, endpoints, bind_eq_ok.2 ⟨(), checkWorkloads_eq,
    bind_eq_ok.2 ⟨urls, failover, bind_eq_ok.2 ⟨_, database, rfl⟩⟩⟩⟩⟩⟩⟩⟩⟩
  rw [valid_topology]
  decide

theorem topology_file : strictJson (some (fileOf topology)) "candidate topology" = .ok (printed topology) :=
  strictJson_fileOf parts_spec.2.1 _

end TwoNames

end Zkdeal.Scripts
