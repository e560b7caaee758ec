import Navarkos.Rules
import Navarkos.Controller

/-!
# Sampling a member cluster's pods

`getClusterStats` finds (or makes) the cluster's client, then asks the
member cluster for its pod capacity and two pod counts: the pods in phase
`Pending` or `Running` in all namespaces, and the pods of any phase in the
system namespaces `kube-system` and `oracle-bmc`. A failed query returns its
error with no map, except the `oracle-bmc` listing, whose failure counts as
zero pods. A nil client with no error returns neither map nor error.

The member cluster's answers are `ClusterAnswers`: a pod listing per
namespace (the empty string is `api.NamespaceAll`) and the capacity query.
-/

namespace Navarkos

/-- A pod's phase (`api.PodPhase`). -/
inductive PodPhase where
  | pending
  | running
  | succeeded
  | failed
  | unknown
deriving DecidableEq, Repr

/-- A pod, as far as the counts read it. -/
structure Pod where
  podNamespace : String
  phase : PodPhase
deriving DecidableEq, Repr

/-- What a member cluster answers through its client. -/
structure ClusterAnswers where
  /-- `GetClusterPods`: allocatable and total pod capacity. -/
  clusterPods : Except GoError (GoInt × GoInt)
  /-- `Core().Pods(namespace).List`. -/
  pods : String → Except GoError (List Pod)

/-- `api.NamespaceAll`. -/
def namespaceAll : String := ""

/-- `getCountOfUsedPods`: the pods in phase `Pending` or `Running`, all
namespaces. -/
def getCountOfUsedPods (answers : ClusterAnswers) : Except GoError GoInt :=
  match answers.pods namespaceAll with
  | .error err => .error err
  | .ok usedPodsList =>
    .ok (GoInt.ofInt (usedPodsList.countP fun pod =>
      pod.phase = .pending ∨ pod.phase = .running))

/-- `getCountOfUsedPodsSystemNS`: every pod of `kube-system`, plus every pod
of `oracle-bmc` when that listing succeeds. -/
def getCountOfUsedPodsSystemNS (answers : ClusterAnswers) : Except GoError GoInt :=
  match answers.pods "kube-system" with
  | .error err => .error err
  | .ok usedPodsSystemNS =>
    let usedPodsBmcNS : Nat :=
      match answers.pods "oracle-bmc" with
      | .ok usedPodsBmcNSList => usedPodsBmcNSList.length
      | .error _ => 0
    .ok (GoInt.ofInt usedPodsSystemNS.length + GoInt.ofInt usedPodsBmcNS)

/-- `getClusterStats`: the four-entry stats map, or the first error; a nil
client with no error gives the nil map. The client lookup may fill the
cache. -/
def getClusterStats (cc : ClusterController) (answers : ClusterAnswers) (created : ClientResult)
    (cluster : Cluster) : Except GoError ClusterStats × ClusterController :=
  let (clusterClient, cc) := cc.getClusterClient cluster created
  match clusterClient with
  | .error err => (.error err, cc)
  | .ok none => (.ok [], cc)
  | .ok (some _) =>
    match answers.clusterPods with
    | .error err => (.error err, cc)
    | .ok (currentAllocatablePods, currentCapacityPods) =>
      match getCountOfUsedPods answers with
      | .error err => (.error err, cc)
      | .ok currentUsedPods =>
        match getCountOfUsedPodsSystemNS answers with
        | .error err => (.error err, cc)
        | .ok usedSysPods =>
          (.ok (MetricsSnapshot.toStats
            ⟨currentAllocatablePods, currentCapacityPods, currentUsedPods, usedSysPods⟩), cc)

/-- With no cached client, a `NewClusterClientSet` that returns neither a
client nor an error gives the nil map without error, and leaves the
controller as it was. -/
theorem getClusterStats_of_nil_client {cc : ClusterController} {answers : ClusterAnswers}
    {cluster : Cluster} (hnil : cc.clusterKubeClientMap cluster.name = none) :
    getClusterStats cc answers (.ok none) cluster = (.ok [], cc) := by
  simp [getClusterStats, ClusterController.getClusterClient,
    ClusterController.updateClusterClient, hnil]

/-- The client lookup is the only state change of a stats sample. -/
theorem getClusterStats_controller (cc : ClusterController) (answers : ClusterAnswers)
    (created : ClientResult) (cluster : Cluster) :
    (getClusterStats cc answers created cluster).2 = (cc.getClusterClient cluster created).2 := by
  unfold getClusterStats
  obtain ⟨clusterClient, cc'⟩ := cc.getClusterClient cluster created
  dsimp only
  split <;> (try split) <;> (try split) <;> (try split) <;> rfl

/-! ## Counting a pod population -/

/-- The answers of a member cluster whose pod listings all succeed on
`population`. -/
def ClusterAnswers.ofPopulation (clusterPods : GoInt × GoInt) (population : List Pod) :
    ClusterAnswers :=
  ⟨.ok clusterPods, fun ns =>
    .ok (if ns = namespaceAll then population else population.filter (·.podNamespace = ns))⟩

/-- Counting `u` less counting two disjoint `k` and `o`, element by
element. -/
theorem countP_sub_countP_add_countP {α : Type} (u k o : α → Bool)
    (hko : ∀ x, k x = true → o x = false) (l : List α) :
    ((l.countP u : Nat) : Int) - ((l.countP k : Nat) + (l.countP o : Nat)) =
      (l.countP fun x => !k x && !o x && u x) - (l.countP fun x => (k x || o x) && !u x) := by
  have step : ∀ bu bk bo : Bool, (bk = true → bo = false) →
      ((if bu = true then 1 else 0 : Nat) : Int) -
          ((if bk = true then 1 else 0 : Nat) + (if bo = true then 1 else 0 : Nat)) =
        ((if (!bk && !bo && bu) = true then 1 else 0 : Nat) : Int) -
          (if ((bk || bo) && !bu) = true then 1 else 0 : Nat) := by decide
  induction l with
  | nil => simp
  | cons x l ih =>
    have := step (u x) (k x) (o x) (hko x)
    simp only [List.countP_cons, Nat.cast_add]
    omega

section Population

variable (clusterPods : GoInt × GoInt) (population : List Pod)

theorem getCountOfUsedPods_ofPopulation :
    getCountOfUsedPods (.ofPopulation clusterPods population) =
      .ok (GoInt.ofInt (population.countP fun pod => pod.phase = .pending ∨ pod.phase = .running)) :=
  rfl

theorem getCountOfUsedPodsSystemNS_ofPopulation :
    getCountOfUsedPodsSystemNS (.ofPopulation clusterPods population) =
      .ok (GoInt.ofInt (population.countP (·.podNamespace = "kube-system")) +
        GoInt.ofInt (population.countP (·.podNamespace = "oracle-bmc"))) := by
  simp [getCountOfUsedPodsSystemNS, ClusterAnswers.ofPopulation, namespaceAll,
    List.countP_eq_length_filter]

/-- The used count less the system count, in exact arithmetic: the pending
or running pods outside the system namespaces, less the system pods in any
other phase. -/
theorem countP_used_sub_countP_system :
    ((population.countP fun pod => pod.phase = .pending ∨ pod.phase = .running : Nat) : Int) -
        ((population.countP (·.podNamespace = "kube-system") : Nat) +
          (population.countP (·.podNamespace = "oracle-bmc") : Nat)) =
      (population.countP fun pod => pod.podNamespace ≠ "kube-system" ∧
        pod.podNamespace ≠ "oracle-bmc" ∧ (pod.phase = .pending ∨ pod.phase = .running)) -
      (population.countP fun pod => (pod.podNamespace = "kube-system" ∨
        pod.podNamespace = "oracle-bmc") ∧ ¬(pod.phase = .pending ∨ pod.phase = .running)) := by
  have h := countP_sub_countP_add_countP
    (fun pod : Pod => decide (pod.phase = .pending ∨ pod.phase = .running))
    (fun pod => decide (pod.podNamespace = "kube-system"))
    (fun pod => decide (pod.podNamespace = "oracle-bmc"))
    (fun pod h => by simp only [decide_eq_true_eq] at h; simp [h]) population
  simpa only [Bool.decide_and, decide_not, Bool.decide_or, Bool.and_assoc, ne_eq] using h

/-- **What the sample's two counts differ by.** On a population of fewer
than 2^62 pods whose listings all succeed, the used count less the system
count is the number of pending or running pods outside `kube-system` and
`oracle-bmc`, less the number of pods of those namespaces in any other
phase. The second term is there because the system count filters on the
namespace only. -/
theorem usedPods_sub_systemPods_ofPopulation (h : population.length < 2 ^ 62) :
    ∃ usedPods usedSysPods : GoInt,
      getCountOfUsedPods (.ofPopulation clusterPods population) = .ok usedPods ∧
      getCountOfUsedPodsSystemNS (.ofPopulation clusterPods population) = .ok usedSysPods ∧
      usedPods.val - usedSysPods.val =
        (population.countP fun pod => pod.podNamespace ≠ "kube-system" ∧
          pod.podNamespace ≠ "oracle-bmc" ∧ (pod.phase = .pending ∨ pod.phase = .running)) -
        (population.countP fun pod => (pod.podNamespace = "kube-system" ∨
          pod.podNamespace = "oracle-bmc") ∧ ¬(pod.phase = .pending ∨ pod.phase = .running)) := by
  refine ⟨_, _, getCountOfUsedPods_ofPopulation clusterPods population,
    getCountOfUsedPodsSystemNS_ofPopulation clusterPods population, ?_⟩
  have hu := List.countP_le_length (fun pod : Pod => pod.phase = .pending ∨ pod.phase = .running)
    (l := population)
  have hk := List.countP_le_length (fun pod : Pod => pod.podNamespace = "kube-system")
    (l := population)
  have ho := List.countP_le_length (fun pod : Pod => pod.podNamespace = "oracle-bmc")
    (l := population)
  rw [← countP_used_sub_countP_system]
  simp (disch := omega) only [GoInt.ofInt_natCast_add_val, GoInt.ofInt_natCast_val]

end Population

theorem usedPods_sub_systemPods_ofPopulation_of_mixed :
    let population : List Pod :=
      [⟨"kube-system", .succeeded⟩, ⟨"kube-system", .running⟩, ⟨"default", .running⟩]
    population.length < 2 ^ 62 ∧
      ∃ usedPods usedSysPods : GoInt,
        getCountOfUsedPods (.ofPopulation (10, 10) population) = .ok usedPods ∧
        getCountOfUsedPodsSystemNS (.ofPopulation (10, 10) population) = .ok usedSysPods ∧
        usedPods.val - usedSysPods.val =
          (population.countP fun pod => pod.podNamespace ≠ "kube-system" ∧
            pod.podNamespace ≠ "oracle-bmc" ∧ (pod.phase = .pending ∨ pod.phase = .running)) -
          (population.countP fun pod => (pod.podNamespace = "kube-system" ∨
            pod.podNamespace = "oracle-bmc") ∧ ¬(pod.phase = .pending ∨ pod.phase = .running)) :=
  ⟨by decide, usedPods_sub_systemPods_ofPopulation (10, 10) _ (by decide)⟩

/-- A finished pod in `kube-system` and no user pod at all: the sample holds
no used pod and one system pod, so the idle test `usedPods == usedSystemPods`
fails and the scaling rule reads −1 user pods. -/
theorem finished_system_pod_reads_as_user_deficit :
    let population : List Pod := [⟨"kube-system", .succeeded⟩]
    (population.countP fun pod => pod.podNamespace ≠ "kube-system" ∧
        pod.podNamespace ≠ "oracle-bmc" ∧ (pod.phase = .pending ∨ pod.phase = .running)) = 0 ∧
      (getClusterStats (newClusterController false) (.ofPopulation (10, 10) population)
          (.ok (some ⟨0⟩)) ⟨"alpha", none, [], .empty⟩).1 =
        .ok (MetricsSnapshot.toStats ⟨10, 10, 0, 1⟩) :=
  ⟨by decide, rfl⟩

end Navarkos
