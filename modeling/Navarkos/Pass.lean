import Navarkos.Stats

/-!
# The periodic pass `UpdateClusterStatus`, and runs of the controller

A pass lists the clusters of the federation and then runs three loops:

* the add loop (lines 279-283) gives every listed name the controller does
  not know to `addToClusterSet`;
* when the number of known names differs from the number of listed
  clusters, the delete loop (lines 286-295) gives every known name that was
  not listed to `delFromClusterSetByName`; the loop runs over a Go set, in no
  fixed order, so it is a fold over a multiset, which Lean accepts only with
  the proof that the steps commute (`delStep_left_comm`);
* the stats loop (lines 297-359) samples every listed ready cluster, reads it
  back from the store, runs the annotation rules and writes the result back.

A failing list call ends the pass before any change. In the stats loop the
code logs a failed `Get` or `Update` through the returned pointer, which is
nil: that is a nil-pointer panic, and `StepResult` records it together with
the state and the effects up to that point.

The collaborators' answers for one cluster are a `ClusterWorld`; a run of the
controller is a list of `ControllerStep`s, watch events and passes, each
finishing before the next starts.
-/

namespace Navarkos

/-- What the collaborators answer for one cluster during a pass. -/
structure ClusterWorld where
  /-- `NewClusterClientSet` as called by `addToClusterSet` in the add loop. -/
  addClient : ClientResult
  /-- `NewClusterClientSet` as called by `GetClusterClient` in the stats loop. -/
  statsClient : ClientResult
  answers : ClusterAnswers
  /-- `Clusters().Get` of the cluster's name. -/
  refreshed : Except GoError Cluster
  /-- `Clusters().Update`: the store accepts the object, or fails. -/
  updateResult : Except GoError Unit
  /-- The clock during the cluster's iteration, in whole seconds. -/
  now : Int

/-- What the collaborators answer during one pass. -/
structure PassWorld where
  /-- `Clusters().List`. -/
  list : Except GoError (List Cluster)
  cluster : String → ClusterWorld

/-- The state a piece of controller code leaves, the effects it emitted, in
order, and the panic that stopped it, if any. -/
structure StepResult where
  controller : ClusterController
  effects : List Effect
  panic : Option GoPanic

/-- Run `k` after `r` unless `r` panicked. -/
def StepResult.andThen (r : StepResult) (k : ClusterController → StepResult) : StepResult :=
  match r.panic with
  | some _ => r
  | none =>
    let r' := k r.controller
    ⟨r'.controller, r.effects ++ r'.effects, r'.panic⟩

/-! ## The three loops -/

/-- One iteration of the add loop. -/
def addStep (w : PassWorld) (cc : ClusterController) (cluster : Cluster) : ClusterController :=
  if cluster.name ∈ cc.knownClusterSet then cc
  else cc.addToClusterSet cluster (w.cluster cluster.name).addClient

/-- The add loop. -/
def addListed (w : PassWorld) (clusters : List Cluster) (cc : ClusterController) :
    ClusterController :=
  clusters.foldl (addStep w) cc

/-- The names the delete loop visits: the known names that were not listed,
when the counts differ. -/
def unobserved (clusters : List Cluster) (cc : ClusterController) : Finset String :=
  if cc.knownClusterSet.card ≠ clusters.length then
    let observedSet := (clusters.map Cluster.name).toFinset
    cc.knownClusterSet \ observedSet
  else ∅

/-- One iteration of the delete loop, accumulating the effects. -/
def delStep (clusterName : String) (r : ClusterController × List Effect) :
    ClusterController × List Effect :=
  let d := r.1.delFromClusterSetByName clusterName
  (d.1, r.2 ++ d.2)

theorem delFromClusterSetByName_comm (cc : ClusterController) (a b : String) :
    ((cc.delFromClusterSetByName a).1.delFromClusterSetByName b).1 =
      ((cc.delFromClusterSetByName b).1.delFromClusterSetByName a).1 := by
  ext m
  · simp only [ClusterController.delFromClusterSetByName_knownClusterSet, Finset.erase_right_comm]
  · simp only [ClusterController.delFromClusterSetByName_clusterKubeClientMap]
    split_ifs <;> rfl
  · rfl

theorem delStep_left_comm (a b : String) (r : ClusterController × List Effect) :
    delStep a (delStep b r) = delStep b (delStep a r) := by
  simp only [delStep, delFromClusterSetByName_comm, ClusterController.delFromClusterSetByName_effects,
    ClusterController.notifyChange, ClusterController.delFromClusterSetByName_onClusterChange]

instance : LeftCommutative delStep := ⟨delStep_left_comm⟩

/-- The delete loop. -/
def deleteUnobserved (clusters : List Cluster) (cc : ClusterController) :
    ClusterController × List Effect :=
  (unobserved clusters cc).val.foldr delStep (cc, [])

/-- One iteration of the stats loop (lines 298-358). -/
def refreshClusterStats (env : Env) (w : ClusterWorld) (clusterObj : Cluster)
    (cc : ClusterController) : StepResult :=
  if clusterObj.deletionTimestamp.isSome ∨ !isClusterReady clusterObj then ⟨cc, [], none⟩
  else
    let (newStats, cc) := getClusterStats cc w.answers w.statsClient clusterObj
    match newStats with
    | .error _ => ⟨cc, [], none⟩
    | .ok newStats =>
      match w.refreshed with
      | .error _ => ⟨cc, [], some .nilPointerDereference⟩
      | .ok cluster =>
        if !isClusterReady cluster then ⟨cc, [], none⟩
        else
          match decideClusterUpdate env w.now newStats cluster.annotations with
          | .error p => ⟨cc, [], some p⟩
          | .ok (_, false) => ⟨cc, [], none⟩
          | .ok (annotations, true) =>
            match w.updateResult with
            | .error _ => ⟨cc, [], some .nilPointerDereference⟩
            | .ok () => ⟨cc, .updated { cluster with annotations } :: cc.notifyChange, none⟩

/-- The stats loop; a panic ends it. -/
def refreshListed (env : Env) (w : PassWorld) : List Cluster → ClusterController → StepResult
  | [], cc => ⟨cc, [], none⟩
  | cluster :: rest, cc =>
    (refreshClusterStats env (w.cluster cluster.name) cluster cc).andThen
      (refreshListed env w rest)

/-- `UpdateClusterStatus`. -/
def updateClusterStatus (env : Env) (w : PassWorld) (cc : ClusterController) : StepResult :=
  match w.list with
  | .error _ => ⟨cc, [], none⟩
  | .ok clusters =>
    let cc := addListed w clusters cc
    let (cc, deletions) := deleteUnobserved clusters cc
    (StepResult.mk cc deletions none).andThen (refreshListed env w clusters)

/-! ## Runs -/

/-- A step of the controller: a watch handler call, or a whole pass. -/
inductive ControllerStep where
  | watch (e : WatchEvent)
  | updateClusterStatus (w : PassWorld)

/-- The step's effect on the controller. -/
def ClusterController.step (env : Env) (cc : ClusterController) : ControllerStep → StepResult
  | .watch e => ⟨(cc.handle e).1, (cc.handle e).2, none⟩
  | .updateClusterStatus w => updateClusterStatus env w cc

/-- The state after a run of steps. A panic ends the process, so a real run
stops at its first panicking step; runs here go on from the state the panic
left, and results proved for all of them hold for the real ones. -/
def runSteps (env : Env) (cc : ClusterController) (steps : List ControllerStep) :
    ClusterController :=
  steps.foldl (fun cc s => (cc.step env s).controller) cc

theorem runSteps_append_cons (env : Env) (cc : ClusterController) (pre post : List ControllerStep)
    (s : ControllerStep) :
    runSteps env cc (pre ++ s :: post) = runSteps env ((runSteps env cc pre).step env s).controller post :=
  List.foldl_append _ _ _ _

/-! ## One lemma per loop -/

section Lemmas

variable {env : Env} {w : PassWorld} {cc : ClusterController} {clusters : List Cluster}

open ClusterController

/-- A property of every state the continuation can start from carries over
to the whole. -/
theorem StepResult.andThen_controller_of {P : ClusterController → Prop} {r : StepResult}
    {k : ClusterController → StepResult} (hr : P r.controller)
    (hk : P r.controller → P (k r.controller).controller) : P (r.andThen k).controller := by
  unfold StepResult.andThen
  split
  · exact hr
  · exact hk hr

theorem knownClusterSet_addStep (w : PassWorld) (cc : ClusterController) (cluster : Cluster) :
    (addStep w cc cluster).knownClusterSet = insert cluster.name cc.knownClusterSet := by
  unfold addStep
  split_ifs with h
  · exact (Finset.insert_eq_of_mem h).symm
  · obtain ⟨client, hc⟩ := addToClusterSet_eq cc cluster (w.cluster cluster.name).addClient
    simp [hc, recordName]

theorem changesOnly_addStep (w : PassWorld) (cc : ClusterController) (cluster : Cluster) :
    ChangesOnly cc (addStep w cc cluster) cluster.name := by
  unfold addStep
  split_ifs
  · exact changesOnly_refl cc _
  · obtain ⟨client, hc⟩ := addToClusterSet_eq cc cluster (w.cluster cluster.name).addClient
    exact hc ▸ changesOnly_recordName.trans (changesOnly_setClient client)

theorem clientsKnown_addStep (hinv : ClientsKnown cc) (cluster : Cluster) :
    ClientsKnown (addStep w cc cluster) :=
  hinv.of_changesOnly (changesOnly_addStep w cc cluster) fun _ => by simp [knownClusterSet_addStep]

/-- After the add loop every listed name is known. -/
theorem knownClusterSet_addListed (w : PassWorld) (clusters : List Cluster) (cc : ClusterController) :
    (addListed w clusters cc).knownClusterSet =
      cc.knownClusterSet ∪ (clusters.map Cluster.name).toFinset := by
  induction clusters generalizing cc with
  | nil => simp [addListed]
  | cons cluster rest ih =>
    simp only [addListed, List.foldl_cons] at ih ⊢
    rw [ih, knownClusterSet_addStep]
    ext m
    simp [or_comm, or_left_comm]

theorem clientsKnown_addListed (hinv : ClientsKnown cc) : ClientsKnown (addListed w clusters cc) := by
  induction clusters generalizing cc with
  | nil => exact hinv
  | cons cluster rest ih => exact ih (clientsKnown_addStep hinv cluster)

/-- What the delete loop leaves, whatever order it visits the names in. -/
theorem foldr_delStep (s : Multiset String) (r : ClusterController × List Effect) :
    (∀ m, m ∈ (s.foldr delStep r).1.knownClusterSet ↔ m ∈ r.1.knownClusterSet ∧ m ∉ s) ∧
    (∀ m, (s.foldr delStep r).1.clusterKubeClientMap m =
      if m ∈ s then none else r.1.clusterKubeClientMap m) ∧
    (s.foldr delStep r).1.onClusterChange = r.1.onClusterChange ∧
    (s.foldr delStep r).2 = r.2 ++ (List.replicate (Multiset.card s) r.1.notifyChange).flatten := by
  induction s using Multiset.induction_on with
  | empty => simp
  | cons a s ih =>
    obtain ⟨hknown, hmap, hcallback, heffects⟩ := ih
    rw [Multiset.foldr_cons]
    refine ⟨fun m => ?_, fun m => ?_, ?_, ?_⟩
    · simp only [delStep, delFromClusterSetByName_knownClusterSet, Finset.mem_erase, hknown,
        Multiset.mem_cons]
      tauto
    · by_cases hm : m = a <;> simp [delStep, hmap, hm]
    · simp [delStep, hcallback]
    · simp [delStep, heffects, notifyChange, hcallback, List.replicate_succ', List.flatten_append]

/-- A stats iteration changes the controller only through the client
lookup. -/
theorem refreshClusterStats_controller (env : Env) (w : ClusterWorld) (cluster : Cluster)
    (cc : ClusterController) :
    (refreshClusterStats env w cluster cc).controller =
      if cluster.deletionTimestamp.isSome ∨ !isClusterReady cluster then cc
      else (cc.getClusterClient cluster w.statsClient).2 := by
  unfold refreshClusterStats
  split_ifs
  · rfl
  · rw [← getClusterStats_controller cc w.answers]
    obtain ⟨newStats, cc'⟩ := getClusterStats cc w.answers w.statsClient cluster
    dsimp only
    repeat' split
    all_goals rfl

theorem refreshClusterStats_eq (env : Env) (w : ClusterWorld) (cluster : Cluster)
    (cc : ClusterController) : ∃ client,
    (refreshClusterStats env w cluster cc).controller = cc.setClient cluster.name client := by
  rw [refreshClusterStats_controller]
  split_ifs
  · exact ⟨_, (setClient_self cc cluster.name).symm⟩
  · exact getClusterClient_eq cc cluster w.statsClient

/-- An invariant of every stats iteration is one of the stats loop. -/
theorem refreshListed_controller_of {P : ClusterController → Prop}
    (hstep : ∀ cluster ∈ clusters, ∀ cc, P cc →
      P (refreshClusterStats env (w.cluster cluster.name) cluster cc).controller)
    (hcc : P cc) : P (refreshListed env w clusters cc).controller := by
  induction clusters generalizing cc with
  | nil => exact hcc
  | cons cluster rest ih =>
    exact StepResult.andThen_controller_of (hstep cluster (List.mem_cons_self _ _) cc hcc)
      fun h => ih (fun c hc => hstep c (List.mem_cons_of_mem _ hc)) h

theorem knownClusterSet_refreshListed :
    (refreshListed env w clusters cc).controller.knownClusterSet = cc.knownClusterSet :=
  refreshListed_controller_of (P := fun cc' => cc'.knownClusterSet = cc.knownClusterSet)
    (fun cluster _ cc' h => by
      obtain ⟨client, hc⟩ := refreshClusterStats_eq env (w.cluster cluster.name) cluster cc'
      rw [hc, setClient_knownClusterSet, h]) rfl

theorem clientsKnown_refreshListed (hinv : ClientsKnown cc)
    (hlisted : ∀ cluster ∈ clusters, cluster.name ∈ cc.knownClusterSet) :
    ClientsKnown (refreshListed env w clusters cc).controller :=
  (refreshListed_controller_of
    (P := fun cc' => ClientsKnown cc' ∧ cc'.knownClusterSet = cc.knownClusterSet)
    (fun cluster hc cc' ⟨hinv', hk⟩ => by
      obtain ⟨client, h⟩ := refreshClusterStats_eq env (w.cluster cluster.name) cluster cc'
      rw [h]
      exact ⟨hinv'.of_changesOnly (changesOnly_setClient client) fun _ => hk ▸ hlisted cluster hc,
        hk⟩) ⟨hinv, rfl⟩).1

/-- A pass that could not list the clusters changes nothing. -/
theorem updateClusterStatus_of_list_error {err : GoError} (h : w.list = .error err) :
    updateClusterStatus env w cc = ⟨cc, [], none⟩ := by
  simp [updateClusterStatus, h]

/-- After a listing pass the controller is the delete loop's result, with the
clients the stats loop looked up. -/
theorem updateClusterStatus_of_list_ok (h : w.list = .ok clusters) :
    updateClusterStatus env w cc =
      let d := deleteUnobserved clusters (addListed w clusters cc)
      let r := refreshListed env w clusters d.1
      ⟨r.controller, d.2 ++ r.effects, r.panic⟩ := by
  simp [updateClusterStatus, h, StepResult.andThen]

/-- **The known set after a listing pass**: the names known after the add
loop, less those the delete loop visited. -/
theorem mem_knownClusterSet_updateClusterStatus (h : w.list = .ok clusters) (n : String) :
    n ∈ (updateClusterStatus env w cc).controller.knownClusterSet ↔
      n ∈ (addListed w clusters cc).knownClusterSet ∧
        n ∉ unobserved clusters (addListed w clusters cc) := by
  rw [updateClusterStatus_of_list_ok h]
  simp only [knownClusterSet_refreshListed, deleteUnobserved, (foldr_delStep _ _).1,
    Finset.mem_val]

theorem clientsKnown_updateClusterStatus (hinv : ClientsKnown cc) :
    ClientsKnown (updateClusterStatus env w cc).controller := by
  cases h : w.list with
  | error err => rw [updateClusterStatus_of_list_error h]; exact hinv
  | ok clusters =>
    rw [updateClusterStatus_of_list_ok h]
    have hadd : ClientsKnown (addListed w clusters cc) := clientsKnown_addListed hinv
    obtain ⟨hknown, hmap, -, -⟩ := foldr_delStep (unobserved clusters (addListed w clusters cc)).val
      (addListed w clusters cc, [])
    refine clientsKnown_refreshListed (fun m hm => ?_) fun cluster hc => ?_
    · rw [deleteUnobserved, hmap] at hm
      split_ifs at hm with hs
      · simp at hm
      · exact (hknown m).mpr ⟨hadd m hm, hs⟩
    · refine (hknown _).mpr ⟨?_, fun hs => ?_⟩
      · simp [knownClusterSet_addListed, List.mem_map.mpr ⟨cluster, hc, rfl⟩]
      · simp only [unobserved, Finset.mem_val] at hs
        split_ifs at hs
        · simp at hs
          exact hs.2 cluster hc rfl
        · simp at hs

/-- A stats iteration emits nothing, or a store write followed by the
callback. -/
theorem refreshClusterStats_effects (env : Env) (w : ClusterWorld) (cluster : Cluster)
    (cc : ClusterController) :
    (refreshClusterStats env w cluster cc).effects = [] ∨
      ∃ c, (refreshClusterStats env w cluster cc).effects = .updated c :: cc.notifyChange := by
  unfold refreshClusterStats
  split_ifs
  · exact .inl rfl
  · have hcb : (getClusterStats cc w.answers w.statsClient cluster).2.onClusterChange =
        cc.onClusterChange := by
      obtain ⟨client, h⟩ := getClusterClient_eq cc cluster w.statsClient
      rw [getClusterStats_controller, h, setClient_onClusterChange]
    generalize getClusterStats cc w.answers w.statsClient cluster = g at hcb ⊢
    obtain ⟨newStats, cc'⟩ := g
    dsimp only at hcb ⊢
    have hn : cc'.notifyChange = cc.notifyChange := by simp [notifyChange, hcb]
    repeat' split
    all_goals first | exact .inl rfl | exact .inr ⟨_, by rw [hn]⟩

/-- Every store write of the stats loop is followed by the callback, when
one is registered. -/
theorem onClusterChange_mem_refreshListed (hreg : cc.onClusterChange = true) {c : Cluster}
    (h : Effect.updated c ∈ (refreshListed env w clusters cc).effects) :
    Effect.onClusterChange ∈ (refreshListed env w clusters cc).effects := by
  induction clusters generalizing cc with
  | nil => simp [refreshListed] at h
  | cons cluster rest ih =>
    simp only [refreshListed, StepResult.andThen] at h ⊢
    have hcb : (refreshClusterStats env (w.cluster cluster.name) cluster cc).controller.onClusterChange
        = true := by
      obtain ⟨client, hc⟩ := refreshClusterStats_eq env (w.cluster cluster.name) cluster cc
      rw [hc, setClient_onClusterChange, hreg]
    have hfirst : Effect.updated c ∈ (refreshClusterStats env (w.cluster cluster.name) cluster cc).effects →
        Effect.onClusterChange ∈ (refreshClusterStats env (w.cluster cluster.name) cluster cc).effects := by
      rcases refreshClusterStats_effects env (w.cluster cluster.name) cluster cc with he | ⟨c', he⟩ <;>
        simp [he, notifyChange, hreg]
    rcases hp : (refreshClusterStats env (w.cluster cluster.name) cluster cc).panic with _ | p <;>
      simp only [hp] at h ⊢
    · rcases List.mem_append.mp h with h | h
      · exact List.mem_append_left _ (hfirst h)
      · exact List.mem_append_right _ (ih hcb h)
    · exact hfirst h

theorem onClusterChange_addListed :
    (addListed w clusters cc).onClusterChange = cc.onClusterChange := by
  induction clusters generalizing cc with
  | nil => rfl
  | cons cluster rest ih =>
    simp only [addListed, List.foldl_cons] at ih ⊢
    rw [ih, (changesOnly_addStep w cc cluster).callback]

/-- **Notifications of a pass**: a pass that removes a known name, or writes
a cluster to the store, fires the registered callback. -/
theorem onClusterChange_mem_updateClusterStatus (hreg : cc.onClusterChange = true)
    (h : (∃ n ∈ cc.knownClusterSet, n ∉ (updateClusterStatus env w cc).controller.knownClusterSet) ∨
      ∃ c, Effect.updated c ∈ (updateClusterStatus env w cc).effects) :
    Effect.onClusterChange ∈ (updateClusterStatus env w cc).effects := by
  cases hl : w.list with
  | error err => simp [updateClusterStatus_of_list_error hl] at h
  | ok clusters =>
    obtain ⟨-, -, hcb, heff⟩ := foldr_delStep (unobserved clusters (addListed w clusters cc)).val
      (addListed w clusters cc, [])
    have hreg' : (addListed w clusters cc).notifyChange = [.onClusterChange] := by
      simp [notifyChange, onClusterChange_addListed, hreg]
    rcases h with ⟨n, hn, hgone⟩ | ⟨c, hc⟩
    · rw [mem_knownClusterSet_updateClusterStatus hl] at hgone
      have hdel : n ∈ unobserved clusters (addListed w clusters cc) := by
        by_contra hu
        exact hgone ⟨by simp [knownClusterSet_addListed, hn], hu⟩
      rw [updateClusterStatus_of_list_ok hl]
      refine List.mem_append_left _ ?_
      rw [deleteUnobserved, heff, hreg']
      obtain ⟨k, hk⟩ := Nat.exists_eq_succ_of_ne_zero (Finset.card_ne_zero_of_mem hdel)
      simp [Finset.card_val, hk, List.replicate_succ]
    · rw [updateClusterStatus_of_list_ok hl] at hc ⊢
      rcases List.mem_append.mp hc with hc | hc
      · rw [deleteUnobserved, heff, hreg'] at hc
        simp at hc
      · refine List.mem_append_right _ (onClusterChange_mem_refreshListed ?_ hc)
        rw [deleteUnobserved, hcb, onClusterChange_addListed, hreg]

end Lemmas

/-! ## Failed reads and writes in the stats loop

A failed `Get` or `Update` returns no object, and the log line after it
reads the object's name through the nil pointer. -/

section Failures

variable {env : Env} {w : ClusterWorld} {clusterObj : Cluster} {cc : ClusterController}

/-- What the stats iteration does with the rules' decision on the stored
object `cluster`, from the controller its sample left: write the decided map
and fire the callback when the rules report a change, panic when they
panic. -/
def persistDecision (cluster : Cluster) (cc : ClusterController) :
    Except GoPanic (Annotations × Bool) → StepResult
  | .error p => ⟨cc, [], some p⟩
  | .ok (annotations, updateCluster) =>
    ⟨cc, if updateCluster then .updated { cluster with annotations } :: cc.notifyChange else [],
      none⟩

/-- **The stats iteration writes back the rules' decision.** On a cluster
that is ready in the listing and in the store, once its sample is taken and
when the store accepts writes, the iteration runs the rules on the stored
annotations and persists what they decide. -/
theorem refreshClusterStats_of_sampled {cluster : Cluster} {newStats : ClusterStats}
    (hlisted : clusterObj.deletionTimestamp = none ∧ isClusterReady clusterObj = true)
    (hsample : (getClusterStats cc w.answers w.statsClient clusterObj).1 = .ok newStats)
    (hget : w.refreshed = .ok cluster) (hready : isClusterReady cluster = true)
    (hupdate : w.updateResult = .ok ()) :
    refreshClusterStats env w clusterObj cc =
      persistDecision cluster (getClusterStats cc w.answers w.statsClient clusterObj).2
        (decideClusterUpdate env w.now newStats cluster.annotations) := by
  unfold refreshClusterStats
  rw [if_neg (by simp [hlisted.1, hlisted.2])]
  generalize getClusterStats cc w.answers w.statsClient clusterObj = g at hsample ⊢
  obtain ⟨sample, cc'⟩ := g
  cases hsample
  simp only [hget, hready, Bool.not_true, hupdate]
  rcases decideClusterUpdate env w.now newStats cluster.annotations with p | ⟨annotations, _ | _⟩
    <;> rfl

/-- A listed ready cluster whose sample was taken but whose read-back fails
panics, having written nothing. -/
theorem refreshClusterStats_of_refresh_error {newStats : ClusterStats} {err : GoError}
    (hlisted : clusterObj.deletionTimestamp = none ∧ isClusterReady clusterObj = true)
    (hsample : (getClusterStats cc w.answers w.statsClient clusterObj).1 = .ok newStats)
    (hget : w.refreshed = .error err) :
    refreshClusterStats env w clusterObj cc =
      ⟨(getClusterStats cc w.answers w.statsClient clusterObj).2, [], some .nilPointerDereference⟩ := by
  unfold refreshClusterStats
  rw [if_neg (by simp [hlisted.1, hlisted.2])]
  generalize getClusterStats cc w.answers w.statsClient clusterObj = g at hsample ⊢
  obtain ⟨sample, cc'⟩ := g
  cases hsample
  simp only [hget]

/-- A panicking iteration is the last one of the stats loop: the clusters
after it are not visited. -/
theorem refreshListed_cons_of_panic {w : PassWorld} {rest : List Cluster} {p : GoPanic}
    (h : (refreshClusterStats env (w.cluster clusterObj.name) clusterObj cc).panic = some p) :
    refreshListed env w (clusterObj :: rest) cc =
      refreshClusterStats env (w.cluster clusterObj.name) clusterObj cc := by
  simp only [refreshListed, StepResult.andThen, h]

/-- An iteration that does not panic hands its controller to the next one
and puts its effects first. -/
theorem refreshListed_cons_of_panic_eq_none {w : PassWorld} {rest : List Cluster}
    (h : (refreshClusterStats env (w.cluster clusterObj.name) clusterObj cc).panic = none) :
    refreshListed env w (clusterObj :: rest) cc =
      ⟨(refreshListed env w rest
          (refreshClusterStats env (w.cluster clusterObj.name) clusterObj cc).controller).controller,
        (refreshClusterStats env (w.cluster clusterObj.name) clusterObj cc).effects ++
          (refreshListed env w rest
            (refreshClusterStats env (w.cluster clusterObj.name) clusterObj cc).controller).effects,
        (refreshListed env w rest
          (refreshClusterStats env (w.cluster clusterObj.name) clusterObj cc).controller).panic⟩ := by
  simp only [refreshListed, StepResult.andThen, h]

/-- **A failed read-back ends the stats loop.** Whatever clusters are listed
before it, once the loop reaches a listed ready cluster whose sample succeeds
and whose `Get` fails, it panics there: no cluster listed after it is
visited, and the loop's writes and callbacks are those of the clusters
before it. -/
theorem refreshListed_stops_at_refresh_error {w : PassWorld} {pre post : List Cluster}
    {newStats : ClusterStats} {err : GoError}
    (hpre : (refreshListed env w pre cc).panic = none)
    (hlisted : clusterObj.deletionTimestamp = none ∧ isClusterReady clusterObj = true)
    (hsample : (getClusterStats (refreshListed env w pre cc).controller
      (w.cluster clusterObj.name).answers (w.cluster clusterObj.name).statsClient clusterObj).1 =
        .ok newStats)
    (hget : (w.cluster clusterObj.name).refreshed = .error err) :
    refreshListed env w (pre ++ clusterObj :: post) cc =
      ⟨(getClusterStats (refreshListed env w pre cc).controller (w.cluster clusterObj.name).answers
          (w.cluster clusterObj.name).statsClient clusterObj).2,
        (refreshListed env w pre cc).effects, some .nilPointerDereference⟩ := by
  induction pre generalizing cc with
  | nil =>
    dsimp only [refreshListed] at hsample ⊢
    have hr : refreshClusterStats env (w.cluster clusterObj.name) clusterObj cc = _ :=
      refreshClusterStats_of_refresh_error hlisted hsample hget
    rw [hr]
    rfl
  | cons x pre ih =>
    rcases hx : (refreshClusterStats env (w.cluster x.name) x cc).panic with _ | p
    · rw [refreshListed_cons_of_panic_eq_none hx] at hpre hsample ⊢
      rw [List.cons_append, refreshListed_cons_of_panic_eq_none hx, ih hpre hsample]
    · rw [refreshListed_cons_of_panic hx, hx] at hpre
      cases hpre

theorem refreshListed_stops_at_refresh_error_after_beta :
    let env : Env := .ofDefaults 1800 80 20
    let ready : List ClusterCondition := [⟨clusterReady, conditionTrue⟩]
    let alpha : Cluster := ⟨"alpha", none, ready, .empty⟩
    let beta : Cluster := ⟨"beta", none, ready, .empty⟩
    let gamma : Cluster := ⟨"gamma", none, ready, .empty⟩
    let world (refreshed : Except GoError Cluster) : ClusterWorld :=
      ⟨.ok (some ⟨0⟩), .ok (some ⟨0⟩), .ofPopulation (10, 10) [], refreshed, .ok (), 0⟩
    let w : PassWorld := ⟨.ok [beta, alpha, gamma], fun n =>
      if n = "alpha" then world (.error ⟨"not found"⟩) else world (.ok beta)⟩
    let cc := newClusterController true
    let sample := getClusterStats (refreshListed env w [beta] cc).controller
      (w.cluster alpha.name).answers (w.cluster alpha.name).statsClient alpha
    (refreshListed env w [beta] cc).panic = none ∧ sample.1 = .ok (MetricsSnapshot.toStats ⟨10, 10, 0, 0⟩) ∧
      (refreshListed env w [beta] cc).effects ≠ [] ∧
      refreshListed env w ([beta] ++ alpha :: [gamma]) cc =
        ⟨sample.2, (refreshListed env w [beta] cc).effects, some .nilPointerDereference⟩ := by
  intro env ready alpha beta gamma world w cc sample
  have hpre : (refreshListed env w [beta] cc).panic = none := by decide
  have hsample : sample.1 = .ok (MetricsSnapshot.toStats ⟨10, 10, 0, 0⟩) := by
    have h : sample.1.toOption = some (MetricsSnapshot.toStats ⟨10, 10, 0, 0⟩) := by decide
    revert h
    cases sample.1 <;> simp [Except.toOption]
  exact ⟨hpre, hsample, by decide,
    refreshListed_stops_at_refresh_error hpre ⟨rfl, rfl⟩ hsample rfl⟩

/-- One failed read-back aborts the pass. Of two ready listed clusters with
no pods, `alpha` and `beta`, whose samples succeed, `alpha` is visited first
and its `Get` fails: the pass panics before `beta`'s iteration, and the
capacity annotations that a pass writes to `beta` when `alpha`'s `Get`
succeeds are never written. -/
theorem failed_refresh_aborts_pass :
    let ready : List ClusterCondition := [⟨clusterReady, conditionTrue⟩]
    let alpha : Cluster := ⟨"alpha", none, ready, .empty⟩
    let beta : Cluster := ⟨"beta", none, ready, .empty⟩
    let world (refreshed : Except GoError Cluster) : ClusterWorld :=
      ⟨.ok (some ⟨0⟩), .ok (some ⟨0⟩), .ofPopulation (10, 10) [], refreshed, .ok (), 0⟩
    let pass (alphaGet : Except GoError Cluster) : StepResult :=
      updateClusterStatus (.ofDefaults 1800 80 20)
        ⟨.ok [alpha, beta], fun n => if n = "alpha" then world alphaGet else world (.ok beta)⟩
        (newClusterController true)
    let betaWritten := Effect.updated
      { beta with annotations := updateClusterStats .empty (MetricsSnapshot.toStats ⟨10, 10, 0, 0⟩) }
    (pass (.error ⟨"not found"⟩)).panic = some .nilPointerDereference ∧
      betaWritten ∉ (pass (.error ⟨"not found"⟩)).effects ∧
      betaWritten ∈ (pass (.ok alpha)).effects := by
  decide

/-- The same failure makes the pass's outcome depend on the listing's
order: listing `beta` before `alpha` writes `beta`'s capacity annotations
and notifies once before the panic; listing `alpha` first writes nothing. -/
theorem failed_refresh_makes_pass_order_dependent :
    let ready : List ClusterCondition := [⟨clusterReady, conditionTrue⟩]
    let alpha : Cluster := ⟨"alpha", none, ready, .empty⟩
    let beta : Cluster := ⟨"beta", none, ready, .empty⟩
    let world (refreshed : Except GoError Cluster) : ClusterWorld :=
      ⟨.ok (some ⟨0⟩), .ok (some ⟨0⟩), .ofPopulation (10, 10) [], refreshed, .ok (), 0⟩
    let pass (clusters : List Cluster) : StepResult :=
      updateClusterStatus (.ofDefaults 1800 80 20)
        ⟨.ok clusters, fun n => if n = "alpha" then world (.error ⟨"not found"⟩)
          else world (.ok beta)⟩
        (newClusterController true)
    (pass [alpha, beta]).effects = [] ∧
      (pass [beta, alpha]).effects =
        [.updated { beta with
            annotations := updateClusterStats .empty (MetricsSnapshot.toStats ⟨10, 10, 0, 0⟩) },
          .onClusterChange] := by
  decide

/-- **A nil client makes the iteration write an unchanged cluster.** When
the listed cluster has no cached client and `NewClusterClientSet` returns
neither a client nor an error, the sample is the nil map without error. On
a stored object whose capacity annotations are missing, the rules then
report a change that changes nothing: the iteration writes the object back
as it is and fires the callback. -/
theorem nil_client_iteration_writes_unchanged_cluster {cluster : Cluster}
    (hlisted : clusterObj.deletionTimestamp = none ∧ isClusterReady clusterObj = true)
    (hnil : cc.clusterKubeClientMap clusterObj.name = none) (hclient : w.statsClient = .ok none)
    (hget : w.refreshed = .ok cluster) (hready : isClusterReady cluster = true)
    (habsent : isCapacityDataPresent cluster.annotations = false)
    (hupdate : w.updateResult = .ok ()) :
    refreshClusterStats env w clusterObj cc = ⟨cc, .updated cluster :: cc.notifyChange, none⟩ := by
  have hsample : (getClusterStats cc w.answers w.statsClient clusterObj).1 = .ok [] := by
    rw [hclient, getClusterStats_of_nil_client hnil]
  rw [refreshClusterStats_of_sampled hlisted hsample hget hready hupdate, hclient,
    getClusterStats_of_nil_client hnil, decideClusterUpdate_nil_of_absent habsent]
  rfl

theorem nil_client_iteration_writes_unchanged_cluster_of_new_cluster :
    let alpha : Cluster := ⟨"alpha", none, [⟨clusterReady, conditionTrue⟩], .empty⟩
    let w : ClusterWorld := ⟨.ok none, .ok none, .ofPopulation (10, 10) [], .ok alpha, .ok (), 0⟩
    let cc : ClusterController := newClusterController true
    (alpha.deletionTimestamp = none ∧ isClusterReady alpha = true) ∧
      cc.clusterKubeClientMap alpha.name = none ∧ w.statsClient = .ok none ∧
      w.refreshed = .ok alpha ∧ isClusterReady alpha = true ∧
      isCapacityDataPresent alpha.annotations = false ∧ w.updateResult = .ok () ∧
      refreshClusterStats (.ofDefaults 1800 80 20) w alpha cc =
        ⟨cc, .updated alpha :: cc.notifyChange, none⟩ := by
  intro alpha w cc
  refine ⟨⟨?_, ?_⟩, ?_, ?_, ?_, ?_, ?_, ?_,
    nil_client_iteration_writes_unchanged_cluster ⟨?_, ?_⟩ ?_ ?_ ?_ ?_ ?_ ?_⟩ <;> rfl

/-- Samples that `getClusterStats` returns without error although they are
not four counts of succeeded queries. With no cached client, a
`NewClusterClientSet` that returns neither a client nor an error gives the
nil map. With a client, a failing `oracle-bmc` listing gives a system count
that leaves out that namespace's pod (1 where the healthy answers give 2),
and the pass writes that count to the cluster. -/
theorem getClusterStats_succeeds_with_missing_data :
    let alpha : Cluster := ⟨"alpha", none, [⟨clusterReady, conditionTrue⟩], .empty⟩
    let healthy : ClusterAnswers := .ofPopulation (10, 10)
      [⟨"kube-system", .running⟩, ⟨"oracle-bmc", .running⟩, ⟨"default", .running⟩]
    let bmcDown : ClusterAnswers := ⟨healthy.clusterPods,
      fun ns => if ns = "oracle-bmc" then .error ⟨"timeout"⟩ else healthy.pods ns⟩
    let cc : ClusterController := newClusterController true
    (getClusterStats cc healthy (.ok none) alpha).1 = .ok [] ∧
      (getClusterStats cc healthy (.ok (some ⟨0⟩)) alpha).1 =
        .ok (MetricsSnapshot.toStats ⟨10, 10, 3, 2⟩) ∧
      (getClusterStats cc bmcDown (.ok (some ⟨0⟩)) alpha).1 =
        .ok (MetricsSnapshot.toStats ⟨10, 10, 3, 1⟩) ∧
      (updateClusterStatus (.ofDefaults 1800 80 20)
          ⟨.ok [alpha], fun _ => ⟨.ok (some ⟨0⟩), .ok (some ⟨0⟩), bmcDown, .ok alpha, .ok (), 0⟩⟩
          cc).effects =
        [.updated { alpha with
            annotations := updateClusterStats .empty (MetricsSnapshot.toStats ⟨10, 10, 3, 1⟩) },
          .onClusterChange] :=
  ⟨rfl, rfl, rfl, by decide⟩

end Failures

end Navarkos
