import Navarkos.Pass

/-!
# The order of the listing

A pass visits the clusters in the order the store lists them. Every
iteration of the add loop and of the stats loop reads and writes the
controller at the visited cluster's name only (`LocalAt`): it keeps every
other name's entry and the callback, and what it leaves at its own name
depends on nothing but what was there. Two such steps at different names
commute (`LocalAt.comm`), and the stats iteration's effects depend only on
the entry and the callback too (`refreshClusterStats_congr`).

So each loop is a fold of commuting steps, and the delete loop already folds
over a set: a pass whose stats iterations cannot panic ends in the same
controller, with the same effects up to order, for every order of a listing
with distinct names (`updateClusterStatus_perm`). A panic breaks this: the
iterations before it have run and those after it have not.
-/

namespace Navarkos

open ClusterController

/-! ## Steps that act at one name -/

/-- What the controller holds for one name: whether it is known, and its
cached client. -/
def ClusterController.entry (cc : ClusterController) (n : String) : Bool × Option ClusterClient :=
  (decide (n ∈ cc.knownClusterSet), cc.clusterKubeClientMap n)

theorem ClusterController.ext_entry {cc cc' : ClusterController}
    (h : ∀ n, cc.entry n = cc'.entry n) (hcb : cc.onClusterChange = cc'.onClusterChange) :
    cc = cc' :=
  ClusterController.ext (Finset.ext fun n => by simpa [entry] using congrArg Prod.fst (h n))
    (funext fun n => congrArg Prod.snd (h n)) hcb

theorem ClusterController.ChangesOnly.entry_eq {cc cc' : ClusterController} {n m : String}
    (h : ChangesOnly cc cc' n) (hm : m ≠ n) : cc'.entry m = cc.entry m := by
  simp [entry, h.known m hm, h.clients m hm]

/-- `f` reads and writes the controller at `n` only. -/
structure LocalAt (f : ClusterController → ClusterController) (n : String) : Prop where
  changes : ∀ cc, ChangesOnly cc (f cc) n
  entry_congr : ∀ cc cc', cc.entry n = cc'.entry n → (f cc).entry n = (f cc').entry n

/-- Steps at two different names commute. -/
theorem LocalAt.comm {f g : ClusterController → ClusterController} {n n' : String}
    (hf : LocalAt f n) (hg : LocalAt g n') (hne : n ≠ n') (cc : ClusterController) :
    f (g cc) = g (f cc) := by
  refine ext_entry (fun m => ?_) ?_
  · by_cases hm : m = n
    · subst hm
      rw [(hg.changes _).entry_eq hne]
      exact hf.entry_congr _ _ ((hg.changes cc).entry_eq hne)
    by_cases hm' : m = n'
    · subst hm'
      rw [(hf.changes _).entry_eq (Ne.symm hne)]
      exact (hg.entry_congr _ _ ((hf.changes cc).entry_eq (Ne.symm hne))).symm
    · rw [(hf.changes _).entry_eq hm, (hg.changes _).entry_eq hm', (hg.changes _).entry_eq hm',
        (hf.changes _).entry_eq hm]
  · rw [(hf.changes _).callback, (hg.changes _).callback, (hg.changes _).callback,
      (hf.changes _).callback]

@[simp] theorem entry_setClient_self (cc : ClusterController) (n : String)
    (client : Option ClusterClient) :
    (cc.setClient n client).entry n = (decide (n ∈ cc.knownClusterSet), client) := by
  simp [entry]

theorem localAt_setClient_of_entry {n : String}
    (client : Bool × Option ClusterClient → Option ClusterClient)
    (f : ClusterController → ClusterController)
    (hf : ∀ cc, f cc = cc.setClient n (client (cc.entry n))) : LocalAt f n where
  changes cc := hf cc ▸ changesOnly_setClient _
  entry_congr cc cc' h := by
    rw [hf, hf, entry_setClient_self, entry_setClient_self, h]
    simp only [entry, Prod.mk.injEq] at h
    rw [h.1]

/-! ## The loops' steps -/

/-- The client a lookup leaves cached: the cached one, or the new one. -/
theorem getClusterClient_snd (cc : ClusterController) (cluster : Cluster) (created : ClientResult) :
    (cc.getClusterClient cluster created).2 = cc.setClient cluster.name
      (match cc.clusterKubeClientMap cluster.name, created with
        | some client, _ => some client
        | none, .ok (some client) => some client
        | none, _ => none) := by
  have hself : ∀ {client}, cc.clusterKubeClientMap cluster.name = client →
      cc = cc.setClient cluster.name client :=
    fun h => (setClient_self cc cluster.name).symm.trans (congrArg _ h)
  unfold getClusterClient updateClusterClient
  rcases h : cc.clusterKubeClientMap cluster.name with _ | client
  · rcases created with _ | _ | client
    all_goals first | rfl | exact hself h
  · exact hself h

theorem getClusterClient_fst_congr {cc cc' : ClusterController} {cluster : Cluster}
    (h : cc.clusterKubeClientMap cluster.name = cc'.clusterKubeClientMap cluster.name)
    (created : ClientResult) :
    (cc.getClusterClient cluster created).1 = (cc'.getClusterClient cluster created).1 := by
  simp only [getClusterClient, h]
  split
  · rfl
  · unfold updateClusterClient
    rcases created with _ | _ | _ <;> rfl

theorem localAt_addStep (w : PassWorld) (cluster : Cluster) :
    LocalAt (addStep w · cluster) cluster.name where
  changes cc := changesOnly_addStep w cc cluster
  entry_congr cc cc' h := by
    simp only [entry, Prod.mk.injEq, decide_eq_decide] at h
    obtain ⟨hk, hm⟩ := h
    by_cases hn : cluster.name ∈ cc.knownClusterSet
    · simp [addStep, entry, hn, hk.mp hn, hm]
    · have hn' : cluster.name ∉ cc'.knownClusterSet := mt hk.mpr hn
      simp only [addStep, hn, hn', if_false, addToClusterSet, updateClusterClient]
      split <;> (try split_ifs) <;> (try split) <;> simp [entry, hm]

theorem localAt_refreshClusterStats (env : Env) (w : ClusterWorld) (cluster : Cluster) :
    LocalAt (fun cc => (refreshClusterStats env w cluster cc).controller) cluster.name := by
  by_cases hskip : cluster.deletionTimestamp.isSome ∨ !isClusterReady cluster
  · refine localAt_setClient_of_entry Prod.snd _ fun cc => ?_
    rw [refreshClusterStats_controller, if_pos hskip]
    exact (setClient_self cc cluster.name).symm
  · refine localAt_setClient_of_entry (fun e => match e.2, w.statsClient with
      | some client, _ => some client
      | none, .ok (some client) => some client
      | none, _ => none) _ fun cc => ?_
    rw [refreshClusterStats_controller, if_neg hskip, getClusterClient_snd]
    rfl

/-- A stats iteration's effects and panic depend on the controller only
through the cluster's cached client and the callback. -/
theorem refreshClusterStats_congr {env : Env} {w : ClusterWorld} {cluster : Cluster}
    {cc cc' : ClusterController}
    (hmap : cc.clusterKubeClientMap cluster.name = cc'.clusterKubeClientMap cluster.name)
    (hcb : cc.onClusterChange = cc'.onClusterChange) :
    (refreshClusterStats env w cluster cc).effects = (refreshClusterStats env w cluster cc').effects ∧
      (refreshClusterStats env w cluster cc).panic = (refreshClusterStats env w cluster cc').panic := by
  unfold refreshClusterStats
  split_ifs
  · exact ⟨rfl, rfl⟩
  have hsample : (getClusterStats cc w.answers w.statsClient cluster).1 =
      (getClusterStats cc' w.answers w.statsClient cluster).1 := by
    unfold getClusterStats
    have hc := getClusterClient_fst_congr hmap w.statsClient
    generalize cc.getClusterClient cluster w.statsClient = p at hc ⊢
    generalize cc'.getClusterClient cluster w.statsClient = p' at hc ⊢
    obtain ⟨r, d⟩ := p
    obtain ⟨r', d'⟩ := p'
    cases hc
    dsimp only
    repeat' split
    all_goals rfl
  have hnotify : (getClusterStats cc w.answers w.statsClient cluster).2.notifyChange =
      (getClusterStats cc' w.answers w.statsClient cluster).2.notifyChange := by
    simp only [getClusterStats_controller, notifyChange, getClusterClient_snd,
      setClient_onClusterChange, hcb]
  generalize getClusterStats cc w.answers w.statsClient cluster = g at hsample hnotify ⊢
  generalize getClusterStats cc' w.answers w.statsClient cluster = g' at hsample hnotify ⊢
  obtain ⟨s, d⟩ := g
  obtain ⟨s', d'⟩ := g'
  cases hsample
  dsimp only at hnotify ⊢
  repeat' split
  all_goals simp only [hnotify, and_self]

/-- An iteration whose read-back and write succeed, on a stored object the
rules cannot panic on, does not panic. -/
theorem refreshClusterStats_panic_eq_none {env : Env} {w : ClusterWorld}
    {clusterObj cluster : Cluster} (hget : w.refreshed = .ok cluster)
    (hupdate : w.updateResult = .ok ())
    (hrules : ∀ newStats p, decideClusterUpdate env w.now newStats cluster.annotations ≠ .error p)
    (cc : ClusterController) : (refreshClusterStats env w clusterObj cc).panic = none := by
  unfold refreshClusterStats
  split_ifs
  · rfl
  generalize getClusterStats cc w.answers w.statsClient clusterObj = g
  obtain ⟨_ | newStats, cc'⟩ := g
  · rfl
  simp only [hget]
  split_ifs
  · rfl
  rcases hd : decideClusterUpdate env w.now newStats cluster.annotations with p | ⟨a, _ | _⟩
  · exact absurd hd (hrules newStats p)
  · rfl
  · simp [hupdate]

/-! ## The loops as folds of commuting steps -/

section Folds

variable {env : Env} {w : PassWorld}

/-- The loops read the per-cluster answers, not the listing. -/
theorem addListed_with_list (l : Except GoError (List Cluster)) :
    addListed { w with list := l } = addListed w := rfl

theorem refreshListed_with_list (l : Except GoError (List Cluster)) :
    refreshListed env { w with list := l } = refreshListed env w := by
  funext clusters
  induction clusters with
  | nil => rfl
  | cons cluster rest ih =>
    funext cc
    simp only [refreshListed, ih]

theorem name_ne_of_nodup {clusters : List Cluster} (h : (clusters.map Cluster.name).Nodup)
    {x y : Cluster} (hx : x ∈ clusters) (hy : y ∈ clusters) (hxy : x ≠ y) : x.name ≠ y.name :=
  fun he => hxy (List.inj_on_of_nodup_map h hx hy he)

theorem addListed_perm {clusters clusters' : List Cluster} (hperm : clusters.Perm clusters')
    (hnodup : (clusters.map Cluster.name).Nodup) (cc : ClusterController) :
    addListed w clusters cc = addListed w clusters' cc := by
  refine hperm.foldl_eq' (fun x hx y hy z => ?_) cc
  by_cases hxy : x = y
  · rw [hxy]
  · exact (localAt_addStep w y).comm (localAt_addStep w x)
      (name_ne_of_nodup hnodup hy hx (Ne.symm hxy)) z

theorem unobserved_perm {clusters clusters' : List Cluster} (hperm : clusters.Perm clusters')
    (cc : ClusterController) : unobserved clusters cc = unobserved clusters' cc := by
  simp only [unobserved, hperm.length_eq, List.toFinset_eq_of_perm _ _ (hperm.map Cluster.name)]

/-- The stats loop's step, with the effects gathered as a multiset. -/
def statsStep (env : Env) (w : PassWorld) (r : ClusterController × Multiset Effect)
    (cluster : Cluster) : ClusterController × Multiset Effect :=
  let s := refreshClusterStats env (w.cluster cluster.name) cluster r.1
  (s.controller, r.2 + s.effects)

theorem statsStep_comm {x y : Cluster} (hne : x.name ≠ y.name)
    (z : ClusterController × Multiset Effect) :
    statsStep env w (statsStep env w z x) y = statsStep env w (statsStep env w z y) x := by
  have hx := localAt_refreshClusterStats env (w.cluster x.name) x
  have hy := localAt_refreshClusterStats env (w.cluster y.name) y
  simp only [statsStep]
  rw [(@refreshClusterStats_congr env (w.cluster y.name) y _ _
      ((hx.changes z.1).clients y.name hne.symm) (hx.changes z.1).callback).1,
    (@refreshClusterStats_congr env (w.cluster x.name) x _ _
      ((hy.changes z.1).clients x.name hne) (hy.changes z.1).callback).1,
    hy.comm hx hne.symm z.1, add_right_comm]

/-- Without a panic, the stats loop is the fold of `statsStep`. -/
theorem foldl_statsStep {clusters : List Cluster}
    (hsafe : ∀ cluster ∈ clusters, ∀ cc,
      (refreshClusterStats env (w.cluster cluster.name) cluster cc).panic = none)
    (cc : ClusterController) (m : Multiset Effect) :
    clusters.foldl (statsStep env w) (cc, m) =
        ((refreshListed env w clusters cc).controller, m + (refreshListed env w clusters cc).effects) ∧
      (refreshListed env w clusters cc).panic = none := by
  induction clusters generalizing cc m with
  | nil => simp [refreshListed]
  | cons cluster rest ih =>
    have hp := hsafe cluster (List.mem_cons_self _ _) cc
    obtain ⟨hfold, hpanic⟩ := ih (fun c hc => hsafe c (List.mem_cons_of_mem _ hc))
      (refreshClusterStats env (w.cluster cluster.name) cluster cc).controller
      (m + (refreshClusterStats env (w.cluster cluster.name) cluster cc).effects)
    simp only [List.foldl_cons, refreshListed, StepResult.andThen, hp]
    exact ⟨by rw [statsStep, hfold, ← Multiset.coe_add, add_assoc], hpanic⟩

/-- Without a panic, the stats loop does not depend on the order of the
listing. -/
theorem refreshListed_perm {clusters clusters' : List Cluster} (hperm : clusters.Perm clusters')
    (hnodup : (clusters.map Cluster.name).Nodup)
    (hsafe : ∀ cluster ∈ clusters, ∀ cc,
      (refreshClusterStats env (w.cluster cluster.name) cluster cc).panic = none)
    (cc : ClusterController) :
    (refreshListed env w clusters cc).controller = (refreshListed env w clusters' cc).controller ∧
      (refreshListed env w clusters cc).effects.Perm (refreshListed env w clusters' cc).effects ∧
      (refreshListed env w clusters cc).panic = none ∧
      (refreshListed env w clusters' cc).panic = none := by
  obtain ⟨h₁, hp₁⟩ := foldl_statsStep hsafe cc 0
  obtain ⟨h₂, hp₂⟩ := foldl_statsStep (fun c hc => hsafe c (hperm.mem_iff.mpr hc)) cc 0
  have hfold := hperm.foldl_eq' (f := statsStep env w) (fun x hx y hy z => by
    by_cases hxy : x = y
    · rw [hxy]
    · exact statsStep_comm (name_ne_of_nodup hnodup hx hy hxy) z) (cc, 0)
  rw [hfold, h₂] at h₁
  simp only [Prod.mk.injEq, zero_add, Multiset.coe_eq_coe] at h₁
  exact ⟨h₁.1.symm, h₁.2.symm, hp₁, hp₂⟩

/-- **A pass does not depend on the order of its listing, unless it panics.**
Take two orders of a listing with distinct names, and collaborators under
which no stats iteration can panic. The pass ends in the same controller,
with the same effects up to their order, and without a panic. -/
theorem updateClusterStatus_perm {clusters clusters' : List Cluster} {cc : ClusterController}
    (hperm : clusters.Perm clusters') (hnodup : (clusters.map Cluster.name).Nodup)
    (hsafe : ∀ cluster ∈ clusters, ∀ cc,
      (refreshClusterStats env (w.cluster cluster.name) cluster cc).panic = none) :
    (updateClusterStatus env { w with list := .ok clusters } cc).controller =
        (updateClusterStatus env { w with list := .ok clusters' } cc).controller ∧
      (updateClusterStatus env { w with list := .ok clusters } cc).effects.Perm
        (updateClusterStatus env { w with list := .ok clusters' } cc).effects ∧
      (updateClusterStatus env { w with list := .ok clusters } cc).panic = none ∧
      (updateClusterStatus env { w with list := .ok clusters' } cc).panic = none := by
  rw [updateClusterStatus_of_list_ok rfl, updateClusterStatus_of_list_ok rfl]
  simp only [addListed_with_list, refreshListed_with_list]
  rw [addListed_perm hperm hnodup cc, deleteUnobserved, deleteUnobserved, unobserved_perm hperm]
  generalize (unobserved clusters' (addListed w clusters' cc)).val.foldr delStep
    (addListed w clusters' cc, []) = d
  obtain ⟨hc, he, hp, hp'⟩ := refreshListed_perm (w := w) hperm hnodup hsafe d.1
  exact ⟨hc, he.append_left d.2, hp, hp'⟩

theorem updateClusterStatus_perm_of_two :
    let ready : List ClusterCondition := [⟨clusterReady, conditionTrue⟩]
    let alpha : Cluster := ⟨"alpha", none, ready, .empty⟩
    let beta : Cluster := ⟨"beta", none, ready, .empty⟩
    let env : Env := .ofDefaults 1800 80 20
    let w : PassWorld := ⟨.ok [], fun n => ⟨.ok (some ⟨0⟩), .ok (some ⟨0⟩),
      .ofPopulation (10, 10) [], .ok ⟨n, none, ready, .empty⟩, .ok (), 0⟩⟩
    let cc := newClusterController true
    [alpha, beta].Perm [beta, alpha] ∧ ([alpha, beta].map Cluster.name).Nodup ∧
      (∀ cluster ∈ [alpha, beta], ∀ cc,
        (refreshClusterStats env (w.cluster cluster.name) cluster cc).panic = none) ∧
      (updateClusterStatus env { w with list := .ok [alpha, beta] } cc).controller =
        (updateClusterStatus env { w with list := .ok [beta, alpha] } cc).controller ∧
      (updateClusterStatus env { w with list := .ok [alpha, beta] } cc).effects.Perm
        (updateClusterStatus env { w with list := .ok [beta, alpha] } cc).effects ∧
      (updateClusterStatus env { w with list := .ok [alpha, beta] } cc).panic = none ∧
      (updateClusterStatus env { w with list := .ok [beta, alpha] } cc).panic = none := by
  intro ready alpha beta env w cc
  have hperm : [alpha, beta].Perm [beta, alpha] := List.Perm.swap _ _ _
  have hnodup : ([alpha, beta].map Cluster.name).Nodup := by decide
  have hsafe : ∀ cluster ∈ [alpha, beta], ∀ cc,
      (refreshClusterStats env (w.cluster cluster.name) cluster cc).panic = none :=
    fun _ _ => refreshClusterStats_panic_eq_none rfl rfl fun _ _ => by
      simp [decideClusterUpdate, isCapacityDataPresent]
  exact ⟨hperm, hnodup, hsafe, updateClusterStatus_perm hperm hnodup hsafe⟩

end Folds

end Navarkos
