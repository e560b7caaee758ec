import Navarkos.Pass

/-!
# Sequential runs: the known set, the client cache and the callback

Runs here are the controller's steps one after another: watch handler calls
and whole passes. Three results hold over all of them.

* The known set is the set of names whose latest observation reports the
  cluster present (`knownClusterSet_eq_latestPresence`), provided listed
  names are distinct. The delete loop is skipped when the known set and the
  listing have the same size; this is sound because after the add loop the
  known set contains the listing, and a finite set of the listing's size
  that contains it is the listing (`knownClusterSet_updateClusterStatus`).
* Every cached client belongs to a known name, and a name a Delete, a
  deleting Update or a pass has dropped keeps no client until a step lists it
  or reports it present again (`clientsKnown_runSteps`). So
  `GetClusterDeployment` reads deployments only from known, ready clusters,
  and refuses every other one with an error naming it
  (`getClusterDeployment_runSteps`). Both rest on one induction over runs
  (`runSteps_preserves`). A cached client is replaced only by the
  add handler of its cluster, which does not look at the cache
  (`cached_client_replaced_only_by_add`): when a pass has recorded a cluster
  before the informer first reports it, the informer's add drops the pass's
  client for a new one.
* A step that forgets a name or writes a cluster to the store fires the
  registered callback, and a step that only records new names does not
  (`onClusterChange_of_removal_or_update`), so the add handler records a
  cluster silently (`addToClusterSet_records_silently`). A
  pass fires it exactly once per name it forgets and once per cluster it
  writes (`updateClusterStatus_notifies_once_per_change`); the delete
  handler, by contrast, fires it even for a name that was not known.
-/

namespace Navarkos

open ClusterController

/-! ## The known set follows the latest observations -/

/-- What each step reports about which clusters exist: a watch event reports
its cluster present or absent; a successful listing reports exactly the
listed names present; a failed one reports nothing. -/
def observe (present : String → Bool) : ControllerStep → String → Bool
  | .watch e => Function.update present e.name e.reportsPresent
  | .updateClusterStatus w =>
    match w.list with
    | .ok clusters => fun n => decide (n ∈ clusters.map Cluster.name)
    | .error _ => present

/-- The presence each name's latest observation reports, after a run from
the start. -/
def latestPresence (steps : List ControllerStep) : String → Bool :=
  steps.foldl observe fun _ => false

/-- The known set is the set of names reported present. -/
def Tracks (cc : ClusterController) (present : String → Bool) : Prop :=
  ∀ n, n ∈ cc.knownClusterSet ↔ present n = true

/-- **The length shortcut is sound**: after a pass whose listing has
distinct names, the known set is the set of listed names, whether or not the
delete loop ran. -/
theorem knownClusterSet_updateClusterStatus {env : Env} {w : PassWorld} {cc : ClusterController}
    {clusters : List Cluster} (h : w.list = .ok clusters) (hd : (clusters.map Cluster.name).Nodup) :
    (updateClusterStatus env w cc).controller.knownClusterSet = (clusters.map Cluster.name).toFinset := by
  set listed := (clusters.map Cluster.name).toFinset
  have hsub : listed ⊆ (addListed w clusters cc).knownClusterSet := by
    rw [knownClusterSet_addListed]; exact Finset.subset_union_right
  have hlen : clusters.length = listed.card := by
    rw [List.toFinset_card_of_nodup hd, List.length_map]
  ext n
  rw [mem_knownClusterSet_updateClusterStatus h, unobserved, hlen]
  split_ifs with hcard
  · simp only [Finset.mem_sdiff, not_and, not_not]
    exact ⟨fun ⟨hk, hl⟩ => hl hk, fun hl => ⟨hsub hl, fun _ => hl⟩⟩
  · have heq := Finset.eq_of_subset_of_card_le hsub (not_not.mp hcard).le
    rw [← heq]
    simp

theorem Tracks.step {env : Env} {cc : ClusterController} {present : String → Bool}
    (h : Tracks cc present) (s : ControllerStep)
    (hs : ∀ w clusters, s = .updateClusterStatus w → w.list = .ok clusters →
      (clusters.map Cluster.name).Nodup) :
    Tracks (cc.step env s).controller (observe present s) := by
  cases s with
  | watch e =>
    intro n
    simp only [ClusterController.step, observe]
    by_cases hn : n = e.name
    · subst hn
      rw [mem_handle_knownClusterSet, Function.update_same]
    · rw [Function.update_noteq hn, ← h n]
      exact (changesOnly_handle cc e).known n hn
  | updateClusterStatus w =>
    cases hl : w.list with
    | error err =>
      simpa [ClusterController.step, observe, hl, updateClusterStatus_of_list_error hl] using h
    | ok clusters =>
      intro n
      simp [ClusterController.step, observe, hl,
        knownClusterSet_updateClusterStatus hl (hs w clusters rfl hl)]

/-- **The known set is the latest observation** (runs with distinct listed
names). Also, a failed listing changes neither the set nor the cache. -/
theorem knownClusterSet_eq_latestPresence (env : Env) (onClusterChange : Bool)
    (steps : List ControllerStep)
    (hdistinct : ∀ w clusters, ControllerStep.updateClusterStatus w ∈ steps →
      w.list = .ok clusters → (clusters.map Cluster.name).Nodup) :
    (∀ n, n ∈ (runSteps env (newClusterController onClusterChange) steps).knownClusterSet ↔
      latestPresence steps n = true) ∧
    ∀ (w : PassWorld) (cc : ClusterController) (err : GoError), w.list = .error err →
      updateClusterStatus env w cc = ⟨cc, [], none⟩ := by
  refine ⟨?_, fun w cc err h => updateClusterStatus_of_list_error h⟩
  suffices ∀ (cc : ClusterController) (present : String → Bool), Tracks cc present →
      Tracks (runSteps env cc steps) (steps.foldl observe present) from
    this _ _ fun n => by simp [newClusterController]
  induction steps with
  | nil => exact fun _ _ h => h
  | cons s rest ih =>
    intro cc present h
    exact ih (fun w clusters hw => hdistinct w clusters (List.mem_cons_of_mem _ hw)) _ _
      (h.step s fun w clusters hs => hdistinct w clusters (hs ▸ List.mem_cons_self _ _))

theorem knownClusterSet_eq_latestPresence_of_listing :
    (∀ w clusters, ControllerStep.updateClusterStatus w ∈
        [.updateClusterStatus ⟨.ok [⟨"alpha", none, [], .empty⟩, ⟨"beta", none, [], .empty⟩],
          fun _ => ⟨.ok none, .ok none, ⟨.error ⟨""⟩, fun _ => .error ⟨""⟩⟩, .error ⟨""⟩, .ok (), 0⟩⟩,
          .watch (.deleted ⟨"beta", none, [], .empty⟩)] →
        w.list = .ok clusters → (clusters.map Cluster.name).Nodup) ∧
    (∀ n, n ∈ (runSteps (.ofDefaults 1800 80 20) (newClusterController false)
        [.updateClusterStatus ⟨.ok [⟨"alpha", none, [], .empty⟩, ⟨"beta", none, [], .empty⟩],
          fun _ => ⟨.ok none, .ok none, ⟨.error ⟨""⟩, fun _ => .error ⟨""⟩⟩, .error ⟨""⟩, .ok (), 0⟩⟩,
          .watch (.deleted ⟨"beta", none, [], .empty⟩)]).knownClusterSet ↔
      latestPresence
        [.updateClusterStatus ⟨.ok [⟨"alpha", none, [], .empty⟩, ⟨"beta", none, [], .empty⟩],
          fun _ => ⟨.ok none, .ok none, ⟨.error ⟨""⟩, fun _ => .error ⟨""⟩⟩, .error ⟨""⟩, .ok (), 0⟩⟩,
          .watch (.deleted ⟨"beta", none, [], .empty⟩)] n = true) := by
  have hdistinct : ∀ w clusters, ControllerStep.updateClusterStatus w ∈
      [.updateClusterStatus ⟨.ok [⟨"alpha", none, [], .empty⟩, ⟨"beta", none, [], .empty⟩],
        fun _ => ⟨.ok none, .ok none, ⟨.error ⟨""⟩, fun _ => .error ⟨""⟩⟩, .error ⟨""⟩, .ok (), 0⟩⟩,
        .watch (.deleted ⟨"beta", none, [], .empty⟩)] →
      w.list = .ok clusters → (clusters.map Cluster.name).Nodup := by
    intro w clusters hw hl
    simp only [List.mem_cons, ControllerStep.updateClusterStatus.injEq, reduceCtorEq,
      List.mem_nil_iff, or_false] at hw
    subst hw
    cases hl
    decide
  exact ⟨hdistinct, (knownClusterSet_eq_latestPresence _ false _ hdistinct).1⟩

/-! ## Every cached client belongs to a known name -/

theorem clientsKnown_step {env : Env} {cc : ClusterController} (hinv : ClientsKnown cc)
    (s : ControllerStep) : ClientsKnown (cc.step env s).controller := by
  cases s with
  | watch e => exact hinv.handle e
  | updateClusterStatus w => exact clientsKnown_updateClusterStatus hinv

/-- A property that every step of a kind keeps holds after every run of
steps of that kind. -/
theorem runSteps_preserves {env : Env} {P : ClusterController → Prop} {Q : ControllerStep → Prop}
    (hstep : ∀ cc s, Q s → P cc → P (cc.step env s).controller) {cc : ClusterController} (h : P cc)
    (steps : List ControllerStep) (hs : ∀ s ∈ steps, Q s) : P (runSteps env cc steps) := by
  induction steps generalizing cc with
  | nil => exact h
  | cons s rest ih =>
    exact ih (hstep cc s (hs s (List.mem_cons_self _ _)) h) fun s' h' => hs s' (List.mem_cons_of_mem _ h')

theorem clientsKnown_runSteps_of_clientsKnown {env : Env} {cc : ClusterController}
    (hinv : ClientsKnown cc) (steps : List ControllerStep) : ClientsKnown (runSteps env cc steps) :=
  runSteps_preserves (P := ClientsKnown) (Q := fun _ => True) (fun _ s _ h => clientsKnown_step h s)
    hinv steps fun _ _ => trivial

/-- **Deployments are read only from known, ready clusters**: in every state
a run reaches, `GetClusterDeployment` answers a deployment only for a ready
cluster whose name is known, and the answer is the member cluster's, read
through the cached client. Otherwise it answers one of its two errors, each
naming the cluster: no cached client, which is the case of every unknown
name, or a cached client for a cluster that is not ready. -/
theorem getClusterDeployment_runSteps {Deployment : Type} (env : Env) (onClusterChange : Bool)
    (steps : List ControllerStep) (cluster : Cluster) (ns name : String)
    (get : ClusterClient → String → String → Except GoError Deployment) :
    let cc := runSteps env (newClusterController onClusterChange) steps
    (∀ d, cc.getClusterDeployment cluster ns name get = .ok d →
      cluster.name ∈ cc.knownClusterSet ∧ isClusterReady cluster = true ∧
        ∃ client, cc.clusterKubeClientMap cluster.name = some client ∧ get client ns name = .ok d) ∧
    (cluster.name ∉ cc.knownClusterSet ∨ cc.clusterKubeClientMap cluster.name = none →
      cc.getClusterDeployment cluster ns name get =
        .error ⟨"Can not get client for cluster " ++ cluster.name⟩) ∧
    ((cc.clusterKubeClientMap cluster.name).isSome → isClusterReady cluster = false →
      cc.getClusterDeployment cluster ns name get =
        .error ⟨"Cluster " ++ cluster.name ++ " is not in ready state, can not get deployments"⟩) := by
  intro cc
  have hinv : ClientsKnown cc :=
    clientsKnown_runSteps_of_clientsKnown (clientsKnown_newClusterController onClusterChange) steps
  rcases getClusterDeployment_cases cc cluster ns name get with
    ⟨hnone, herr⟩ | ⟨client, hc, hcase⟩
  · refine ⟨fun d h => ?_, fun _ => herr, fun hsome => ?_⟩
    · rw [herr] at h; cases h
    · simp [hnone] at hsome
  · have hknown := hinv cluster.name (by simp [hc])
    refine ⟨fun d h => ?_, fun h => ?_, fun _ hr => ?_⟩
    · rcases hcase with ⟨-, herr⟩ | ⟨hr, hok⟩
      · rw [herr] at h; cases h
      · exact ⟨hknown, hr, client, hc, hok ▸ h⟩
    · simp [hknown, hc] at h
    · rcases hcase with ⟨-, herr⟩ | ⟨hr', -⟩
      · exact herr
      · simp [hr] at hr'

theorem getClusterDeployment_runSteps_of_added :
    let alpha : Cluster := ⟨"alpha", none, [⟨clusterReady, conditionTrue⟩], .empty⟩
    let beta : Cluster := ⟨"beta", none, [⟨clusterReady, conditionTrue⟩], .empty⟩
    let get : ClusterClient → String → String → Except GoError String := fun _ _ name => .ok name
    let cc : ClusterController := runSteps (.ofDefaults 1800 80 20) (newClusterController false)
      [.watch (.added alpha (.ok (some ⟨7⟩)))]
    cc.getClusterDeployment alpha "default" "web" get = .ok "web" ∧
      (alpha.name ∈ cc.knownClusterSet ∧ isClusterReady alpha = true ∧
        ∃ client, cc.clusterKubeClientMap alpha.name = some client ∧
          get client "default" "web" = .ok "web") ∧
      beta.name ∉ cc.knownClusterSet ∧
      cc.getClusterDeployment beta "default" "web" get =
        .error ⟨"Can not get client for cluster " ++ beta.name⟩ := by
  intro alpha beta get cc
  have h : cc.getClusterDeployment alpha "default" "web" get = .ok "web" := rfl
  have hbeta : beta.name ∉ cc.knownClusterSet := by decide
  exact ⟨h, (getClusterDeployment_runSteps _ false _ alpha "default" "web" get).1 "web" h, hbeta,
    (getClusterDeployment_runSteps _ false _ beta "default" "web" get).2.1 (.inl hbeta)⟩

/-! ## Which steps replace a cached client -/

section Replacement

variable {env : Env} {w : PassWorld} {cc : ClusterController} {clusters : List Cluster}
  {n : String} {c : ClusterClient}

/-- The update handler keeps a cached client, or drops it. -/
theorem updateCluster_client_of_cached (oldCluster : Cluster) {cluster : Cluster} (created : ClientResult)
    (h : cc.clusterKubeClientMap cluster.name = some c) :
    (cc.updateCluster oldCluster cluster created).1.clusterKubeClientMap cluster.name = some c ∨
      (cc.updateCluster oldCluster cluster created).1.clusterKubeClientMap cluster.name = none := by
  have hc : (cc.recordName cluster.name).clusterKubeClientMap cluster.name = some c := h
  simp only [updateCluster, recordName_of_ite]
  split_ifs
  · exact .inr (by simp)
  split
  · split_ifs
    · simp [hc]
    · simp [hc]
    · exact .inl hc
  · exact .inl hc

/-- The client lookup keeps every cached client. -/
theorem getClusterClient_client_of_cached {cluster : Cluster} {created : ClientResult}
    (h : cc.clusterKubeClientMap n = some c) :
    (cc.getClusterClient cluster created).2.clusterKubeClientMap n = some c := by
  by_cases hn : cluster.name = n
  · subst hn
    simp [getClusterClient, h]
  · obtain ⟨client, hg⟩ := getClusterClient_eq cc cluster created
    simp [hg, Ne.symm hn, h]

/-- The add loop leaves the cache entry of a known name. -/
theorem addListed_client_of_known (hn : n ∈ cc.knownClusterSet) :
    (addListed w clusters cc).clusterKubeClientMap n = cc.clusterKubeClientMap n := by
  induction clusters generalizing cc with
  | nil => rfl
  | cons cluster rest ih =>
    have hn' : n ∈ (addStep w cc cluster).knownClusterSet := by simp [knownClusterSet_addStep, hn]
    refine (ih hn').trans ?_
    by_cases he : n = cluster.name
    · simp [addStep, ← he, hn]
    · exact (changesOnly_addStep w cc cluster).clients n he

/-- The stats loop keeps every cached client. -/
theorem refreshListed_client_of_cached (h : cc.clusterKubeClientMap n = some c) :
    (refreshListed env w clusters cc).controller.clusterKubeClientMap n = some c :=
  refreshListed_controller_of (P := fun cc' => cc'.clusterKubeClientMap n = some c)
    (fun cluster _ cc' h' => by
      rw [refreshClusterStats_controller]
      split_ifs
      · exact h'
      · exact getClusterClient_client_of_cached h') h

/-- The stats loop leaves the cache entry of a name it does not list. -/
theorem refreshListed_client_of_unlisted (hn : ∀ cluster ∈ clusters, cluster.name ≠ n) :
    (refreshListed env w clusters cc).controller.clusterKubeClientMap n = cc.clusterKubeClientMap n :=
  refreshListed_controller_of (P := fun cc' => cc'.clusterKubeClientMap n = cc.clusterKubeClientMap n)
    (fun cluster hc cc' h' => by
      obtain ⟨client, hr⟩ := refreshClusterStats_eq env (w.cluster cluster.name) cluster cc'
      rw [hr, setClient_clusterKubeClientMap, if_neg (Ne.symm (hn cluster hc)), h']) rfl

/-- A pass keeps a cached client, or drops it with its name. -/
theorem updateClusterStatus_client_of_cached (env : Env) (w : PassWorld) (hinv : ClientsKnown cc)
    (h : cc.clusterKubeClientMap n = some c) :
    (updateClusterStatus env w cc).controller.clusterKubeClientMap n = some c ∨
      (updateClusterStatus env w cc).controller.clusterKubeClientMap n = none := by
  cases hl : w.list with
  | error err => exact .inl (by rw [updateClusterStatus_of_list_error hl]; exact h)
  | ok clusters =>
    rw [updateClusterStatus_of_list_ok hl]
    have hadd : (addListed w clusters cc).clusterKubeClientMap n = some c :=
      (addListed_client_of_known (hinv n (by simp [h]))).trans h
    obtain ⟨-, hmap, -, -⟩ := foldr_delStep (unobserved clusters (addListed w clusters cc)).val
      (addListed w clusters cc, [])
    by_cases hu : n ∈ unobserved clusters (addListed w clusters cc)
    · refine .inr ?_
      have hunlisted : ∀ cluster ∈ clusters, cluster.name ≠ n := fun cluster hc he => by
        simp only [unobserved] at hu
        split_ifs at hu
        · exact (Finset.mem_sdiff.mp hu).2 (List.mem_toFinset.mpr (he ▸ List.mem_map_of_mem _ hc))
        · simp at hu
      simp only [refreshListed_client_of_unlisted hunlisted, deleteUnobserved, hmap, Finset.mem_val,
        if_pos hu]
    · refine .inl (refreshListed_client_of_cached ?_)
      simp only [deleteUnobserved, hmap, Finset.mem_val, if_neg hu, hadd]

/-- What a step does to a cached client: keeps it, drops it, or, for an add
event of its cluster, replaces it. -/
theorem step_client_of_cached (hinv : ClientsKnown cc) (h : cc.clusterKubeClientMap n = some c)
    (s : ControllerStep) :
    (cc.step env s).controller.clusterKubeClientMap n = some c ∨
      (cc.step env s).controller.clusterKubeClientMap n = none ∨
      ∃ cluster created, s = .watch (.added cluster created) ∧ cluster.name = n := by
  cases s with
  | watch e =>
    by_cases he : e.name = n
    · subst he
      cases e with
      | added cluster created => exact .inr (.inr ⟨cluster, created, rfl, rfl⟩)
      | modified oldCluster cluster created =>
        rcases updateCluster_client_of_cached oldCluster created h with h' | h'
        · exact .inl h'
        · exact .inr (.inl h')
      | deleted cluster =>
        exact .inr (.inl (by simp [ClusterController.step, handle, delFromClusterSet, WatchEvent.name]))
    · exact .inl (((changesOnly_handle cc e).clients n (Ne.symm he)).trans h)
  | updateClusterStatus w =>
    rcases updateClusterStatus_client_of_cached env w hinv h with h' | h'
    · exact .inl h'
    · exact .inr (.inl h')

end Replacement

/-- **Only an add event replaces a cached client.** In every state a run
reaches, with any answers from the collaborators, a step that leaves a
cluster a client other than the one cached for it is the informer's add
handler for that cluster, which calls `updateClusterClient` without looking
at the cache. Updates, deletions and passes keep a cached client or drop
it; the stats loop and a move into `Ready` only fill a missing one. -/
theorem cached_client_replaced_only_by_add (env : Env) (onClusterChange : Bool)
    (pre : List ControllerStep) (s : ControllerStep) (n : String) (c c' : ClusterClient)
    (h : (runSteps env (newClusterController onClusterChange) pre).clusterKubeClientMap n = some c)
    (h' : ((runSteps env (newClusterController onClusterChange) pre).step env s).controller.clusterKubeClientMap
      n = some c')
    (hne : c' ≠ c) :
    ∃ cluster created, s = .watch (.added cluster created) ∧ cluster.name = n := by
  have hinv : ClientsKnown (runSteps env (newClusterController onClusterChange) pre) :=
    clientsKnown_runSteps_of_clientsKnown (clientsKnown_newClusterController onClusterChange) pre
  rcases step_client_of_cached hinv h s with h'' | h'' | h''
  · exact absurd (Option.some.inj (h'.symm.trans h'')) hne
  · simp [h''] at h'
  · exact h''

theorem cached_client_replaced_only_by_add_of_informer_add :
    let alpha : Cluster := ⟨"alpha", none, [], .empty⟩
    let w : PassWorld := ⟨.ok [alpha], fun _ => ⟨.ok (some ⟨1⟩), .ok none,
      ⟨.error ⟨""⟩, fun _ => .error ⟨""⟩⟩, .error ⟨""⟩, .ok (), 0⟩⟩
    let s : ControllerStep := .watch (.added alpha (.ok (some ⟨2⟩)))
    let cc := runSteps (.ofDefaults 1800 80 20) (newClusterController false) [.updateClusterStatus w]
    cc.clusterKubeClientMap "alpha" = some ⟨1⟩ ∧
      (cc.step (.ofDefaults 1800 80 20) s).controller.clusterKubeClientMap "alpha" = some ⟨2⟩ ∧
      (⟨2⟩ : ClusterClient) ≠ ⟨1⟩ ∧
      ∃ cluster created, s = .watch (.added cluster created) ∧ cluster.name = "alpha" := by
  intro alpha w s cc
  refine ⟨?h, ?h', ?hne,
    cached_client_replaced_only_by_add _ false _ s "alpha" ⟨1⟩ ⟨2⟩ ?h ?h' ?hne⟩ <;> decide

/-! ## Names a step does not mention -/

/-- Whether a step can touch the name `n`: a watch event for it, or a pass
whose listing has it. -/
def ControllerStep.mentions (n : String) : ControllerStep → Bool
  | .watch e => e.name == n
  | .updateClusterStatus w =>
    match w.list with
    | .ok clusters => clusters.any fun cluster => cluster.name == n
    | .error _ => false

section Unmentioned

variable {env : Env} {w : PassWorld} {cc : ClusterController} {clusters : List Cluster} {n : String}

/-- The add loop leaves the cache entry of a name it does not list. -/
theorem addListed_client_of_unlisted (hn : ∀ cluster ∈ clusters, cluster.name ≠ n) :
    (addListed w clusters cc).clusterKubeClientMap n = cc.clusterKubeClientMap n := by
  induction clusters generalizing cc with
  | nil => rfl
  | cons cluster rest ih =>
    exact (ih fun c hc => hn c (List.mem_cons_of_mem _ hc)).trans
      ((changesOnly_addStep w cc cluster).clients n (hn cluster (List.mem_cons_self _ _)).symm)

/-- The delete loop visits only known names. -/
theorem mem_knownClusterSet_of_mem_unobserved {m : String} (h : m ∈ unobserved clusters cc) :
    m ∈ cc.knownClusterSet := by
  unfold unobserved at h
  split_ifs at h
  · exact (Finset.mem_sdiff.mp h).1
  · simp at h

/-- A pass that does not list an unknown name leaves it unknown, with the
cache entry it had. -/
theorem updateClusterStatus_entry_of_unlisted (hn : n ∉ cc.knownClusterSet)
    (hl : ∀ cluster ∈ clusters, cluster.name ≠ n) (hlist : w.list = .ok clusters) :
    n ∉ (updateClusterStatus env w cc).controller.knownClusterSet ∧
      (updateClusterStatus env w cc).controller.clusterKubeClientMap n = cc.clusterKubeClientMap n := by
  have hadd : n ∉ (addListed w clusters cc).knownClusterSet := by
    simpa [knownClusterSet_addListed, hn] using fun c hc => hl c hc
  have hu : n ∉ unobserved clusters (addListed w clusters cc) :=
    fun h => hadd (mem_knownClusterSet_of_mem_unobserved h)
  obtain ⟨-, hmap, -, -⟩ := foldr_delStep (unobserved clusters (addListed w clusters cc)).val
    (addListed w clusters cc, [])
  refine ⟨fun h => hadd ((mem_knownClusterSet_updateClusterStatus hlist n).mp h).1, ?_⟩
  rw [updateClusterStatus_of_list_ok hlist]
  simp only [refreshListed_client_of_unlisted hl, deleteUnobserved, hmap, Finset.mem_val, if_neg hu,
    addListed_client_of_unlisted hl]

/-- A step that does not mention an unknown name leaves it unknown, with the
cache entry it had. -/
theorem step_entry_of_unmentioned (hn : n ∉ cc.knownClusterSet) (s : ControllerStep)
    (hs : s.mentions n = false) :
    n ∉ (cc.step env s).controller.knownClusterSet ∧
      (cc.step env s).controller.clusterKubeClientMap n = cc.clusterKubeClientMap n := by
  cases s with
  | watch e =>
    have he : n ≠ e.name := fun h => by simp [ControllerStep.mentions, h] at hs
    exact ⟨fun h => hn (((changesOnly_handle cc e).known n he).mp h),
      (changesOnly_handle cc e).clients n he⟩
  | updateClusterStatus w =>
    cases hlist : w.list with
    | error err => simpa [ClusterController.step, updateClusterStatus_of_list_error hlist] using hn
    | ok clusters =>
      simp only [ControllerStep.mentions, hlist, List.any_eq_false, beq_iff_eq] at hs
      exact updateClusterStatus_entry_of_unlisted hn hs hlist

/-- A step keeps an unknown name unknown unless it lists the name or reports
the cluster present. -/
theorem step_not_mem_of_absent (hn : n ∉ cc.knownClusterSet) (s : ControllerStep)
    (hs : s.mentions n = true → ∃ e, s = .watch e ∧ e.reportsPresent = false) :
    n ∉ (cc.step env s).controller.knownClusterSet := by
  cases hm : s.mentions n
  · exact (step_entry_of_unmentioned hn s hm).1
  · obtain ⟨e, rfl, hp⟩ := hs hm
    have he : e.name = n := by simpa [ControllerStep.mentions] using hm
    simp [ClusterController.step, ← he, mem_handle_knownClusterSet, hp]

end Unmentioned

/-- **No client without a known name**: in every state a run reaches, with
any answers from the collaborators, each cached client's name is known. In
particular, once a Delete of a name, an Update carrying its deletion
timestamp, or a pass that drops it has run, the name has no client until a
later step lists it or reports its cluster present. -/
theorem clientsKnown_runSteps (env : Env) (onClusterChange : Bool) (steps : List ControllerStep) :
    ClientsKnown (runSteps env (newClusterController onClusterChange) steps) ∧
      ∀ pre s post n, steps = pre ++ s :: post →
        ((∃ e, s = .watch e ∧ e.name = n ∧ e.reportsPresent = false) ∨
          ∃ w, s = .updateClusterStatus w ∧ n ∉ ((runSteps env (newClusterController onClusterChange)
            pre).step env s).controller.knownClusterSet) →
        (∀ s' ∈ post, s'.mentions n = true → ∃ e, s' = .watch e ∧ e.reportsPresent = false) →
        n ∉ (runSteps env (newClusterController onClusterChange) steps).knownClusterSet ∧
          (runSteps env (newClusterController onClusterChange) steps).clusterKubeClientMap n = none := by
  have hinv : ∀ steps, ClientsKnown (runSteps env (newClusterController onClusterChange) steps) :=
    clientsKnown_runSteps_of_clientsKnown (clientsKnown_newClusterController onClusterChange)
  refine ⟨hinv steps, fun pre s post n hsteps hs hpost => ?_⟩
  have hdrop : n ∉ ((runSteps env (newClusterController onClusterChange) pre).step env
      s).controller.knownClusterSet := by
    rcases hs with ⟨e, rfl, rfl, hp⟩ | ⟨w, -, hn⟩
    · simp [ClusterController.step, mem_handle_knownClusterSet, hp]
    · exact hn
  have hn : n ∉ (runSteps env (newClusterController onClusterChange) steps).knownClusterSet := by
    rw [hsteps, runSteps_append_cons]
    exact runSteps_preserves (P := fun cc => n ∉ cc.knownClusterSet)
      (fun _ s' hs' hn' => step_not_mem_of_absent hn' s' hs') hdrop post hpost
  exact ⟨hn, Option.not_isSome_iff_eq_none.mp fun h => hn (hinv steps n h)⟩

theorem clientsKnown_runSteps_of_delete :
    let alpha : Cluster := ⟨"alpha", none, [], .empty⟩
    let beta : Cluster := ⟨"beta", none, [], .empty⟩
    let run := runSteps (.ofDefaults 1800 80 20) (newClusterController false)
    (run [.watch (.added alpha (.ok (some ⟨7⟩)))]).clusterKubeClientMap "alpha" = some ⟨7⟩ ∧
      ClientsKnown (run [.watch (.added alpha (.ok (some ⟨7⟩))), .watch (.deleted alpha),
        .watch (.added beta (.ok (some ⟨8⟩)))]) ∧
      "alpha" ∉ (run [.watch (.added alpha (.ok (some ⟨7⟩))), .watch (.deleted alpha),
        .watch (.added beta (.ok (some ⟨8⟩)))]).knownClusterSet ∧
      (run [.watch (.added alpha (.ok (some ⟨7⟩))), .watch (.deleted alpha),
        .watch (.added beta (.ok (some ⟨8⟩)))]).clusterKubeClientMap "alpha" = none := by
  intro alpha beta run
  have hpost : ∀ s' ∈ [ControllerStep.watch (.added beta (.ok (some ⟨8⟩)))],
      s'.mentions "alpha" = true → ∃ e, s' = .watch e ∧ e.reportsPresent = false := by
    simp [ControllerStep.mentions, WatchEvent.name, beta]
  obtain ⟨hinv, hdrop⟩ := clientsKnown_runSteps (.ofDefaults 1800 80 20) false
    [.watch (.added alpha (.ok (some ⟨7⟩))), .watch (.deleted alpha), .watch (.added beta (.ok (some ⟨8⟩)))]
  exact ⟨by decide, hinv, hdrop [.watch (.added alpha (.ok (some ⟨7⟩)))] (.watch (.deleted alpha))
    [.watch (.added beta (.ok (some ⟨8⟩)))] "alpha" rfl (.inl ⟨_, rfl, rfl, rfl⟩) hpost⟩

/-- Whether an effect is a store write. -/
def Effect.isUpdated : Effect → Bool
  | .updated _ => true
  | .onClusterChange => false

section Count

variable {env : Env} {w : PassWorld} {cc : ClusterController} {clusters : List Cluster}

/-- What the stats loop emits is balanced: one callback per store write,
when a callback is registered, and none otherwise. -/
theorem count_onClusterChange_refreshListed :
    (refreshListed env w clusters cc).effects.count .onClusterChange =
      if cc.onClusterChange then (refreshListed env w clusters cc).effects.countP Effect.isUpdated
      else 0 := by
  induction clusters generalizing cc with
  | nil => simp [refreshListed]
  | cons cluster rest ih =>
    have hcb : (refreshClusterStats env (w.cluster cluster.name) cluster cc).controller.onClusterChange =
        cc.onClusterChange := by
      obtain ⟨client, hc⟩ := refreshClusterStats_eq env (w.cluster cluster.name) cluster cc
      rw [hc, setClient_onClusterChange]
    have hfirst : (refreshClusterStats env (w.cluster cluster.name) cluster cc).effects.count
        .onClusterChange = if cc.onClusterChange then
          (refreshClusterStats env (w.cluster cluster.name) cluster cc).effects.countP Effect.isUpdated
        else 0 := by
      rcases refreshClusterStats_effects env (w.cluster cluster.name) cluster cc with he | ⟨c, he⟩ <;>
        rw [he] <;> cases hreg : cc.onClusterChange <;> simp [notifyChange, hreg, Effect.isUpdated]
    simp only [refreshListed, StepResult.andThen]
    rcases (refreshClusterStats env (w.cluster cluster.name) cluster cc).panic with _ | p
    · simp only [List.count_append, List.countP_append, hfirst, ih, hcb]
      split_ifs <;> rfl
    · exact hfirst

/-- The delete loop visits exactly the names known before the pass that are
not known after it. -/
theorem unobserved_addListed_eq_sdiff (h : w.list = .ok clusters) :
    unobserved clusters (addListed w clusters cc) =
      cc.knownClusterSet \ (updateClusterStatus env w cc).controller.knownClusterSet := by
  ext n
  rw [Finset.mem_sdiff, mem_knownClusterSet_updateClusterStatus h, knownClusterSet_addListed]
  have hknown : n ∈ unobserved clusters (addListed w clusters cc) → n ∈ cc.knownClusterSet := by
    intro hn
    simp only [unobserved] at hn
    split_ifs at hn
    · rw [Finset.mem_sdiff, knownClusterSet_addListed, Finset.mem_union] at hn
      exact hn.1.resolve_right hn.2
    · simp at hn
  exact ⟨fun hn => ⟨hknown hn, fun h' => h'.2 hn⟩,
    fun ⟨hk, hnot⟩ => by_contra fun hn => hnot ⟨Finset.mem_union_left _ hk, hn⟩⟩

/-- A pass that forgets no name and writes no cluster does not fire the
callback. -/
theorem onClusterChange_not_mem_updateClusterStatus
    (hsub : cc.knownClusterSet ⊆ (updateClusterStatus env w cc).controller.knownClusterSet)
    (hupd : ∀ c, Effect.updated c ∉ (updateClusterStatus env w cc).effects) :
    Effect.onClusterChange ∉ (updateClusterStatus env w cc).effects := by
  cases hl : w.list with
  | error err => simp [updateClusterStatus_of_list_error hl]
  | ok clusters =>
    have hu : unobserved clusters (addListed w clusters cc) = ∅ := by
      rw [unobserved_addListed_eq_sdiff hl]
      exact Finset.sdiff_eq_empty_iff_subset.mpr hsub
    rw [updateClusterStatus_of_list_ok hl] at hupd ⊢
    simp only [deleteUnobserved, hu, Finset.empty_val, Multiset.foldr_zero, List.nil_append] at hupd ⊢
    rw [← List.count_eq_zero, count_onClusterChange_refreshListed]
    split_ifs
    · refine List.countP_eq_zero.mpr fun e he hupd' => ?_
      cases e with
      | updated c => exact hupd c he
      | onClusterChange => cases hupd'
    · rfl

end Count

/-! ## The callback -/

/-- **The callback fires on forgetting a name or writing the store, and not
on recording one.** In every step, when a callback is registered: a step that
removes a name from the known set or persists a cluster fires it; a step that
adds a name, removes none and persists nothing does not. -/
theorem onClusterChange_of_removal_or_update (env : Env) (cc : ClusterController)
    (s : ControllerStep) (hreg : cc.onClusterChange = true) :
    ((∃ n ∈ cc.knownClusterSet, n ∉ (cc.step env s).controller.knownClusterSet) ∨
        (∃ c, Effect.updated c ∈ (cc.step env s).effects) →
      Effect.onClusterChange ∈ (cc.step env s).effects) ∧
    ((∃ n ∉ cc.knownClusterSet, n ∈ (cc.step env s).controller.knownClusterSet) →
      cc.knownClusterSet ⊆ (cc.step env s).controller.knownClusterSet →
      (∀ c, Effect.updated c ∉ (cc.step env s).effects) →
      Effect.onClusterChange ∉ (cc.step env s).effects) := by
  cases s with
  | watch e =>
    simp only [ClusterController.step, handle_effects]
    cases hp : e.reportsPresent
    · refine ⟨fun _ => by simp [notifyChange, hreg], fun ⟨n, hn, hn'⟩ _ _ => absurd hn' ?_⟩
      by_cases he : n = e.name
      · rw [he, mem_handle_knownClusterSet, hp]
        exact Bool.false_ne_true
      · exact fun h => hn (((changesOnly_handle cc e).known n he).mp h)
    · refine ⟨fun hchange => ?_, fun _ _ _ => List.not_mem_nil _⟩
      simp only [if_true, List.not_mem_nil, exists_false, or_false] at hchange
      obtain ⟨n, hn, hgone⟩ := hchange
      by_cases he : n = e.name
      · exact absurd ((mem_handle_knownClusterSet cc e).mpr hp) (he ▸ hgone)
      · exact absurd ((changesOnly_handle cc e).known n he |>.mpr hn) hgone
  | updateClusterStatus w =>
    exact ⟨onClusterChange_mem_updateClusterStatus hreg,
      fun _ hsub hupd => onClusterChange_not_mem_updateClusterStatus hsub hupd⟩

theorem onClusterChange_of_removal_or_update_of_delete_and_add :
    let env : Env := .ofDefaults 1800 80 20
    let alpha : Cluster := ⟨"alpha", none, [], .empty⟩
    let cc : ClusterController := ⟨{"alpha"}, fun _ => none, true⟩
    let delete : ControllerStep := .watch (.deleted alpha)
    let add : ControllerStep := .watch (.added { alpha with name := "beta" } (.ok none))
    Effect.onClusterChange ∈ (cc.step env delete).effects ∧
      Effect.onClusterChange ∉ (cc.step env add).effects := by
  intro env alpha cc delete add
  have hreg : cc.onClusterChange = true := rfl
  have hsub : cc.knownClusterSet ⊆ (cc.step env add).controller.knownClusterSet := by
    intro m hm
    simp only [cc, Finset.mem_singleton] at hm
    subst hm
    decide
  have hupd : ∀ c, Effect.updated c ∉ (cc.step env add).effects := fun c => by
    simp [add, ClusterController.step, handle_effects, WatchEvent.reportsPresent]
  exact ⟨(onClusterChange_of_removal_or_update env cc delete hreg).1
      (.inl ⟨"alpha", by decide, by decide⟩),
    (onClusterChange_of_removal_or_update env cc add hreg).2 ⟨"beta", by decide, by decide⟩ hsub hupd⟩

/-- A new name is recorded without firing the callback. -/
theorem addToClusterSet_records_silently :
    "alpha" ∉ (newClusterController true).knownClusterSet ∧
    "alpha" ∈ ((newClusterController true).step (.ofDefaults 1800 80 20)
      (.watch (.added ⟨"alpha", none, [], .empty⟩ (.ok none)))).controller.knownClusterSet ∧
    ((newClusterController true).step (.ofDefaults 1800 80 20)
      (.watch (.added ⟨"alpha", none, [], .empty⟩ (.ok none)))).effects = [] := by
  decide


/-- **A pass notifies exactly once per change.** With a callback registered,
a pass fires it once for every name it forgets and once for every cluster it
writes to the store, and at no other point; with none registered, never. -/
theorem updateClusterStatus_notifies_once_per_change (env : Env) (w : PassWorld)
    (cc : ClusterController) :
    (updateClusterStatus env w cc).effects.count .onClusterChange =
      if cc.onClusterChange then
        (cc.knownClusterSet \ (updateClusterStatus env w cc).controller.knownClusterSet).card +
          (updateClusterStatus env w cc).effects.countP Effect.isUpdated
      else 0 := by
  cases hl : w.list with
  | error err => simp [updateClusterStatus_of_list_error hl]
  | ok clusters =>
    rw [← unobserved_addListed_eq_sdiff hl, updateClusterStatus_of_list_ok hl]
    obtain ⟨-, -, hcb, heff⟩ := foldr_delStep (unobserved clusters (addListed w clusters cc)).val
      (addListed w clusters cc, [])
    simp only [List.count_append, List.countP_append, deleteUnobserved, heff,
      count_onClusterChange_refreshListed, hcb, onClusterChange_addListed]
    cases hreg : cc.onClusterChange <;>
      simp [notifyChange, hreg, onClusterChange_addListed, Effect.isUpdated, List.count_flatten]

end Navarkos
