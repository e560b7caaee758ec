import Navarkos.Runs

/-!
# A pass interleaved with the watch handlers

`Run` starts the informer and the periodic pass as two goroutines with no
lock between them. At the granularity of whole handler calls, a pass that has
listed the clusters is a sequence of atomic steps (one per add-loop
iteration, the computation of the names to delete, one per deleted name, one
per stats iteration), and handler calls can fall between any two of them.

`Interleaved` is that tagged trace: `watch e` runs a handler, `pass` takes
the pass's next step, and `passDelete n` is the delete loop visiting `n` (the
loop runs over a Go set, so the trace picks the order). A step that is not
enabled leaves the state as it is.

The model is the atomic pass of `Pass.lean` cut at its loop iterations:
scheduled with no watch event in between, it ends where `UpdateClusterStatus`
does, whatever order the delete loop visits its names in
(`runInterleaved_eq_updateClusterStatus`).

The pass works from its listing, not from the events that came after it. An
event the listing contradicts can be undone: a cluster deleted after the
listing, before the add loop reaches it, is added back
(`pass_readds_deleted_cluster`). An event the listing agrees with is never
undone
(`pass_keeps_agreeing_watch_event`): a deletion of an unlisted name, or an
addition of a listed one, holds until the end of the pass.

The same holds of the client cache. Run one step at a time, the controller
keeps every cached client under a known name; interleaved, the stats loop
can make a client for a listed cluster that a watch event deleted after the
listing, and that is the only way a client outlives its name
(`cached_client_known_or_deleted_during_pass`). Nothing collects such a
client afterwards: a run that does not mention its name keeps it
(`runSteps_keeps_unknown_entry`).
-/

namespace Navarkos

open ClusterController

/-- Where a pass that has listed its clusters stands between atomic steps. -/
inductive PassPhase where
  /-- The add loop, with the listed clusters still to visit. -/
  | adding (rest : List Cluster)
  /-- The delete loop, with the names still to visit. -/
  | deleting (pending : Finset String)
  /-- The stats loop, with the listed clusters still to visit. -/
  | refreshing (rest : List Cluster)
deriving DecidableEq

/-- One atomic step of the two goroutines. -/
inductive Interleaved where
  /-- The informer runs a handler. -/
  | watch (e : WatchEvent)
  /-- The pass takes its next step outside the delete loop, or leaves the
  delete loop once it has visited every name. -/
  | pass
  /-- The delete loop visits a name. -/
  | passDelete (clusterName : String)

/-- The effect of one atomic step on the controller and the pass, for a
pass whose listing was `clusters`. -/
def interleavedStep (env : Env) (w : PassWorld) (clusters : List Cluster)
    (s : ClusterController × PassPhase) : Interleaved → ClusterController × PassPhase
  | .watch e => ((s.1.handle e).1, s.2)
  | .pass =>
    match s.2 with
    | .adding (cluster :: rest) => (addStep w s.1 cluster, .adding rest)
    | .adding [] => (s.1, .deleting (unobserved clusters s.1))
    | .deleting pending => if pending = ∅ then (s.1, .refreshing clusters) else s
    | .refreshing (cluster :: rest) =>
      ((refreshClusterStats env (w.cluster cluster.name) cluster s.1).controller, .refreshing rest)
    | .refreshing [] => s
  | .passDelete clusterName =>
    match s.2 with
    | .deleting pending =>
      if clusterName ∈ pending then
        ((s.1.delFromClusterSetByName clusterName).1, .deleting (pending.erase clusterName))
      else s
    | _ => s

/-- The state after an interleaved trace. -/
def runInterleaved (env : Env) (w : PassWorld) (clusters : List Cluster)
    (s : ClusterController × PassPhase) (trace : List Interleaved) : ClusterController × PassPhase :=
  trace.foldl (interleavedStep env w clusters) s

/-- A cluster deleted after the listing, before the add loop reaches it, is
back when the pass ends. -/
theorem pass_readds_deleted_cluster :
    let alpha : Cluster := ⟨"alpha", none, [], .empty⟩
    let final := runInterleaved (.ofDefaults 1800 80 20)
      ⟨.ok [alpha], fun _ => ⟨.ok none, .ok none, ⟨.error ⟨""⟩, fun _ => .error ⟨""⟩⟩,
        .error ⟨""⟩, .ok (), 0⟩⟩ [alpha]
      (⟨{"alpha"}, fun _ => none, false⟩, .adding [alpha])
      [.watch (.deleted alpha), .pass, .pass, .pass, .pass]
    final.2 = .refreshing [] ∧ "alpha" ∈ final.1.knownClusterSet := by
  decide

/-! ## Events the listing agrees with -/

section Agreeing

variable {env : Env} {w : PassWorld} {clusters : List Cluster}

/-- The phase only ever holds listed clusters and unlisted names. -/
def PhaseOK (clusters : List Cluster) : PassPhase → Prop
  | .adding rest => ∀ cluster ∈ rest, cluster ∈ clusters
  | .deleting pending => ∀ n ∈ pending, n ∉ clusters.map Cluster.name
  | .refreshing rest => ∀ cluster ∈ rest, cluster ∈ clusters

theorem phaseOK_unobserved (cc : ClusterController) :
    PhaseOK clusters (.deleting (unobserved clusters cc)) := by
  intro n hn
  simp only [unobserved] at hn
  split_ifs at hn
  · exact (Finset.mem_sdiff.mp hn).2 ∘ List.mem_toFinset.mpr
  · simp at hn

theorem phaseOK_step {s : ClusterController × PassPhase} (h : PhaseOK clusters s.2)
    (a : Interleaved) : PhaseOK clusters (interleavedStep env w clusters s a).2 := by
  obtain ⟨cc, phase⟩ := s
  cases a with
  | watch e => exact h
  | pass =>
    cases phase with
    | adding rest =>
      cases rest with
      | nil => exact phaseOK_unobserved cc
      | cons cluster rest => exact fun c hc => h c (List.mem_cons_of_mem _ hc)
    | deleting pending =>
      simp only [interleavedStep]
      split_ifs
      · exact fun _ hc => hc
      · exact h
    | refreshing rest =>
      cases rest with
      | nil => exact h
      | cons cluster rest => exact fun c hc => h c (List.mem_cons_of_mem _ hc)
  | passDelete n =>
    cases phase with
    | deleting pending =>
      simp only [interleavedStep]
      split_ifs
      · exact fun m hm => h m (Finset.mem_of_mem_erase hm)
      · exact h
    | adding _ => exact h
    | refreshing _ => exact h

theorem phaseOK_run {s : ClusterController × PassPhase} (h : PhaseOK clusters s.2)
    (trace : List Interleaved) : PhaseOK clusters (runInterleaved env w clusters s trace).2 := by
  induction trace generalizing s with
  | nil => exact h
  | cons a rest ih => exact ih (phaseOK_step h a)

/-- From `cc` to `cc'` nothing the listing agrees with about `n` is undone:
an unlisted `n` that is unknown and has no client stays so, and a listed `n`
that is known stays known. -/
def KeepsAgreeing (clusters : List Cluster) (n : String) (cc cc' : ClusterController) : Prop :=
  (n ∉ clusters.map Cluster.name → n ∉ cc.knownClusterSet → cc.clusterKubeClientMap n = none →
      n ∉ cc'.knownClusterSet ∧ cc'.clusterKubeClientMap n = none) ∧
    (n ∈ clusters.map Cluster.name → n ∈ cc.knownClusterSet → n ∈ cc'.knownClusterSet)

theorem keepsAgreeing_refl {n : String} (cc : ClusterController) : KeepsAgreeing clusters n cc cc :=
  ⟨fun _ hk hmap => ⟨hk, hmap⟩, fun _ hk => hk⟩

theorem KeepsAgreeing.trans {n : String} {cc cc' cc'' : ClusterController}
    (h : KeepsAgreeing clusters n cc cc') (h' : KeepsAgreeing clusters n cc' cc'') :
    KeepsAgreeing clusters n cc cc'' :=
  ⟨fun hl hk hmap => h'.1 hl (h.1 hl hk hmap).1 (h.1 hl hk hmap).2, fun hl hk => h'.2 hl (h.2 hl hk)⟩

/-- A step acting at another name `m`, and keeping a listed `n` known, keeps
what the listing agrees with about `n`. -/
theorem keepsAgreeing_of_changesOnly {n m : String} {cc cc' : ClusterController}
    (hc : ChangesOnly cc cc' m) (hne : n ∉ clusters.map Cluster.name → m ≠ n)
    (hkeep : n ∈ clusters.map Cluster.name → n ∈ cc.knownClusterSet → n ∈ cc'.knownClusterSet) :
    KeepsAgreeing clusters n cc cc' :=
  ⟨fun hl hk hmap =>
    ⟨fun hk' => hk ((hc.known n (hne hl).symm).mp hk'), (hc.clients n (hne hl).symm).trans hmap⟩,
    hkeep⟩

/-- A step that is not a handler call for `n` forgets `n` only if the pass
does not list it, and gives `n` a client only if it lists it. -/
theorem keepsAgreeing_step {n : String} {s : ClusterController × PassPhase}
    (h : PhaseOK clusters s.2) (a : Interleaved) (ha : ∀ e, a = .watch e → e.name ≠ n) :
    KeepsAgreeing clusters n s.1 (interleavedStep env w clusters s a).1 := by
  obtain ⟨cc, phase⟩ := s
  cases a with
  | watch e =>
    exact keepsAgreeing_of_changesOnly (changesOnly_handle cc e) (fun _ => ha e rfl)
      fun _ hk => ((changesOnly_handle cc e).known n (ha e rfl).symm).mpr hk
  | pass =>
    cases phase with
    | adding rest =>
      cases rest with
      | nil => exact keepsAgreeing_refl cc
      | cons cluster rest =>
        have hc : cluster ∈ clusters := h cluster (List.mem_cons_self _ _)
        exact keepsAgreeing_of_changesOnly (changesOnly_addStep w cc cluster)
          (fun hl he => hl (he ▸ List.mem_map.mpr ⟨cluster, hc, rfl⟩))
          fun _ hk => by simp [interleavedStep, knownClusterSet_addStep, hk]
    | deleting pending =>
      simp only [interleavedStep]
      split_ifs <;> exact keepsAgreeing_refl cc
    | refreshing rest =>
      cases rest with
      | nil => exact keepsAgreeing_refl cc
      | cons cluster rest =>
        have hc : cluster ∈ clusters := h cluster (List.mem_cons_self _ _)
        obtain ⟨client, hr⟩ := refreshClusterStats_eq env (w.cluster cluster.name) cluster cc
        simp only [interleavedStep, hr]
        exact keepsAgreeing_of_changesOnly (changesOnly_setClient client)
          (fun hl he => hl (he ▸ List.mem_map.mpr ⟨cluster, hc, rfl⟩)) fun _ hk => hk
  | passDelete m =>
    cases phase with
    | deleting pending =>
      simp only [interleavedStep]
      split_ifs with hm
      · refine ⟨fun _ hk hmap => ⟨by simp [hk], by simp [hmap]⟩, fun hl hk => ?_⟩
        have hmn : n ≠ m := fun he => h m hm (he ▸ hl)
        simp [hk, hmn]
      · exact keepsAgreeing_refl cc
    | adding _ => exact keepsAgreeing_refl cc
    | refreshing _ => exact keepsAgreeing_refl cc

theorem keepsAgreeing_run {n : String} {s : ClusterController × PassPhase}
    (h : PhaseOK clusters s.2) (post : List Interleaved)
    (hpost : ∀ e, Interleaved.watch e ∈ post → e.name ≠ n) :
    KeepsAgreeing clusters n s.1 (runInterleaved env w clusters s post).1 := by
  induction post generalizing s with
  | nil => exact keepsAgreeing_refl s.1
  | cons a rest ih =>
    exact (keepsAgreeing_step h a fun e he => hpost e (he ▸ List.mem_cons_self _ _)).trans
      (ih (phaseOK_step h a) fun e he => hpost e (List.mem_cons_of_mem _ he))

end Agreeing

theorem runInterleaved_append_cons (env : Env) (w : PassWorld) (clusters : List Cluster)
    (s : ClusterController × PassPhase) (pre post : List Interleaved) (a : Interleaved) :
    runInterleaved env w clusters s (pre ++ a :: post) =
      runInterleaved env w clusters
        (interleavedStep env w clusters (runInterleaved env w clusters s pre) a) post := by
  simp [runInterleaved, List.foldl_append]

/-- **A pass never undoes a newer event its listing agrees with.** Whatever
happened before, let the handler for `e` run after the pass listed
`clusters`, and no later handler touch `e`'s name. If `e` reports the cluster
gone and the listing does not have it, the name is neither known nor cached
at any later point of the pass; if `e` reports it present and the listing
has it, the name stays known. -/
theorem pass_keeps_agreeing_watch_event (env : Env) (w : PassWorld) (clusters : List Cluster)
    (cc : ClusterController) (pre post : List Interleaved) (e : WatchEvent)
    (hpost : ∀ e', Interleaved.watch e' ∈ post → e'.name ≠ e.name) :
    (e.reportsPresent = false → e.name ∉ clusters.map Cluster.name →
      e.name ∉ (runInterleaved env w clusters (cc, .adding clusters)
        (pre ++ .watch e :: post)).1.knownClusterSet ∧
      (runInterleaved env w clusters (cc, .adding clusters)
        (pre ++ .watch e :: post)).1.clusterKubeClientMap e.name = none) ∧
    (e.reportsPresent = true → e.name ∈ clusters.map Cluster.name →
      e.name ∈ (runInterleaved env w clusters (cc, .adding clusters)
        (pre ++ .watch e :: post)).1.knownClusterSet) := by
  rw [runInterleaved_append_cons]
  set s₀ := runInterleaved env w clusters (cc, .adding clusters) pre
  have hok : PhaseOK clusters s₀.2 :=
    @phaseOK_run env w clusters (cc, .adding clusters) (fun _ hc => hc) pre
  obtain ⟨habsent, hpresent⟩ := @keepsAgreeing_run env w clusters e.name
    (interleavedStep env w clusters s₀ (.watch e)) (phaseOK_step hok (.watch e)) post hpost
  refine ⟨fun hp hl => habsent hl ?_ ?_, fun hp hl => hpresent hl ?_⟩
  · simp [interleavedStep, mem_handle_knownClusterSet, hp]
  · exact handle_clusterKubeClientMap_of_absent s₀.1 e hp
  · exact (mem_handle_knownClusterSet s₀.1 e).mpr hp

theorem pass_keeps_agreeing_watch_event_of_add :
    let alpha : Cluster := ⟨"alpha", none, [], .empty⟩
    let w : PassWorld := ⟨.ok [alpha], fun _ => ⟨.ok none, .ok none,
      ⟨.error ⟨""⟩, fun _ => .error ⟨""⟩⟩, .error ⟨""⟩, .ok (), 0⟩⟩
    (∀ e', Interleaved.watch e' ∈ [.pass, .pass, .pass, .pass] →
      e'.name ≠ (WatchEvent.added alpha (.ok none)).name) ∧
    (WatchEvent.added alpha (.ok none)).reportsPresent = true ∧
    (WatchEvent.added alpha (.ok none)).name ∈ [alpha].map Cluster.name ∧
    (WatchEvent.added alpha (.ok none)).name ∈ (runInterleaved (.ofDefaults 1800 80 20) w [alpha]
      (⟨∅, fun _ => none, false⟩, .adding [alpha])
      ([] ++ .watch (.added alpha (.ok none)) :: [.pass, .pass, .pass, .pass])).1.knownClusterSet := by
  intro alpha w
  have hpost : ∀ e', Interleaved.watch e' ∈ [.pass, .pass, .pass, .pass] →
      e'.name ≠ (WatchEvent.added alpha (.ok none)).name := by simp
  exact ⟨hpost, rfl, by decide, (pass_keeps_agreeing_watch_event _ w [alpha] _ [] _ _ hpost).2 rfl
    (by decide)⟩

/-! ## The pass without interleaving -/

section Refinement

variable {env : Env} {w : PassWorld} {clusters : List Cluster}

theorem runInterleaved_cons (s : ClusterController × PassPhase) (a : Interleaved)
    (trace : List Interleaved) :
    runInterleaved env w clusters s (a :: trace) =
      runInterleaved env w clusters (interleavedStep env w clusters s a) trace := rfl

theorem runInterleaved_append (s : ClusterController × PassPhase) (pre post : List Interleaved) :
    runInterleaved env w clusters s (pre ++ post) =
      runInterleaved env w clusters (runInterleaved env w clusters s pre) post :=
  List.foldl_append _ _ _ _

/-- The add loop takes one step per cluster still to visit. -/
theorem runInterleaved_adding (cc : ClusterController) (rest : List Cluster) :
    runInterleaved env w clusters (cc, .adding rest) (List.replicate rest.length .pass) =
      (addListed w rest cc, .adding []) := by
  induction rest generalizing cc with
  | nil => rfl
  | cons cluster rest ih => exact ih (addStep w cc cluster)

theorem interleavedStep_adding_nil (cc : ClusterController) :
    interleavedStep env w clusters (cc, .adding []) .pass = (cc, .deleting (unobserved clusters cc)) :=
  rfl

theorem interleavedStep_deleting_empty (cc : ClusterController) :
    interleavedStep env w clusters (cc, .deleting ∅) .pass = (cc, .refreshing clusters) := by
  simp [interleavedStep]

/-- The delete loop visits the pending names in the order of `order`. -/
theorem runInterleaved_deleting (cc : ClusterController) (order : List String)
    (pending : Finset String) (h : (order : Multiset String) = pending.val) :
    runInterleaved env w clusters (cc, .deleting pending) (order.map .passDelete) =
      (order.foldl (fun cc n => (cc.delFromClusterSetByName n).1) cc, .deleting ∅) := by
  induction order generalizing cc pending with
  | nil => rw [Finset.val_eq_zero.mp h.symm]; rfl
  | cons n rest ih =>
    have hn : n ∈ pending := by simp [← Finset.mem_val, ← h]
    have hrest : (rest : Multiset String) = (pending.erase n).val := by
      rw [Finset.erase_val, ← h, Multiset.coe_erase, List.erase_cons_head]
    simp only [List.map_cons, runInterleaved, List.foldl_cons, interleavedStep, if_pos hn]
    exact ih _ _ hrest

/-- Visiting the names one by one, in any order, is the delete loop over
the set. -/
theorem foldl_delFromClusterSetByName (cc : ClusterController) (order : List String) :
    order.foldl (fun cc n => (cc.delFromClusterSetByName n).1) cc =
      ((order : Multiset String).foldr delStep (cc, [])).1 := by
  rw [← Multiset.coe_reverse, Multiset.coe_foldr, List.foldr_reverse]
  suffices ∀ r : ClusterController × List Effect,
      order.foldl (fun cc n => (cc.delFromClusterSetByName n).1) r.1 =
        (order.foldl (fun r n => delStep n r) r).1 from this (cc, [])
  induction order with
  | nil => exact fun _ => rfl
  | cons n rest ih => exact fun r => ih (delStep n r)

/-- The stats loop takes one step per cluster still to visit; a step that
panics does not stop it here. -/
theorem runInterleaved_refreshing (cc : ClusterController) (rest : List Cluster) :
    runInterleaved env w clusters (cc, .refreshing rest) (List.replicate rest.length .pass) =
      (rest.foldl (fun cc cluster =>
        (refreshClusterStats env (w.cluster cluster.name) cluster cc).controller) cc,
        .refreshing []) := by
  induction rest generalizing cc with
  | nil => rfl
  | cons cluster rest ih => exact ih _

/-- A stats loop that does not panic visits every cluster. -/
theorem refreshListed_controller_of_panic_eq_none {rest : List Cluster} {cc : ClusterController}
    (h : (refreshListed env w rest cc).panic = none) :
    (refreshListed env w rest cc).controller =
      rest.foldl (fun cc cluster =>
        (refreshClusterStats env (w.cluster cluster.name) cluster cc).controller) cc := by
  induction rest generalizing cc with
  | nil => rfl
  | cons cluster rest ih =>
    simp only [refreshListed, StepResult.andThen] at h ⊢
    rcases hp : (refreshClusterStats env (w.cluster cluster.name) cluster cc).panic with _ | p
    · simp only [hp] at h ⊢
      exact ih h
    · simp [hp] at h

end Refinement

/-- **The interleaved pass refines the atomic one.** Scheduled with no
watch event between its steps, the pass of the interleaved model, visiting
the names to delete in any order, ends with the controller that
`UpdateClusterStatus` leaves, for every listing and all answers of the
collaborators under which the pass does not panic. -/
theorem runInterleaved_eq_updateClusterStatus (env : Env) (w : PassWorld) (clusters : List Cluster)
    (cc : ClusterController) (order : List String) (hlist : w.list = .ok clusters)
    (horder : (order : Multiset String) = (unobserved clusters (addListed w clusters cc)).val)
    (hpanic : (updateClusterStatus env w cc).panic = none) :
    runInterleaved env w clusters (cc, .adding clusters)
        (List.replicate clusters.length .pass ++ .pass :: order.map .passDelete ++
          .pass :: List.replicate clusters.length .pass) =
      ((updateClusterStatus env w cc).controller, .refreshing []) := by
  rw [updateClusterStatus_of_list_ok hlist] at hpanic ⊢
  rw [runInterleaved_append, runInterleaved_append, runInterleaved_adding,
    runInterleaved_cons _ .pass (order.map _), interleavedStep_adding_nil,
    runInterleaved_deleting _ _ _ horder, runInterleaved_cons, interleavedStep_deleting_empty,
    runInterleaved_refreshing, foldl_delFromClusterSetByName, horder,
    refreshListed_controller_of_panic_eq_none hpanic]
  rfl

theorem runInterleaved_eq_updateClusterStatus_of_stale_name :
    let ready : String → Cluster := fun n => ⟨n, none, [⟨clusterReady, conditionTrue⟩], .empty⟩
    let w : PassWorld := ⟨.ok [ready "alpha", ready "beta"], fun n =>
      ⟨.ok (some ⟨1⟩), .ok (some ⟨2⟩), .ofPopulation (10, 10) [], .ok (ready n), .ok (), 0⟩⟩
    let cc : ClusterController := ⟨{"gamma"}, fun _ => none, true⟩
    w.list = .ok [ready "alpha", ready "beta"] ∧
      ((["gamma"] : List String) : Multiset String) =
        (unobserved [ready "alpha", ready "beta"] (addListed w [ready "alpha", ready "beta"] cc)).val ∧
      (updateClusterStatus (.ofDefaults 1800 80 20) w cc).panic = none ∧
      runInterleaved (.ofDefaults 1800 80 20) w [ready "alpha", ready "beta"] (cc, .adding [ready "alpha", ready "beta"])
          ([.pass, .pass] ++ .pass :: [.passDelete "gamma"] ++ .pass :: [.pass, .pass]) =
        ((updateClusterStatus (.ofDefaults 1800 80 20) w cc).controller, .refreshing []) := by
  intro ready w cc
  have hlist : w.list = .ok [ready "alpha", ready "beta"] := rfl
  have horder : ((["gamma"] : List String) : Multiset String) =
      (unobserved [ready "alpha", ready "beta"] (addListed w [ready "alpha", ready "beta"] cc)).val := by
    decide
  have hpanic : (updateClusterStatus (.ofDefaults 1800 80 20) w cc).panic = none := by decide
  exact ⟨hlist, horder, hpanic,
    runInterleaved_eq_updateClusterStatus _ w _ cc ["gamma"] hlist horder hpanic⟩

/-! ## The client cache under interleaving -/

/-- A watch event of the trace reported `n` gone. -/
def DeletedDuring (trace : List Interleaved) (n : String) : Prop :=
  ∃ e, Interleaved.watch e ∈ trace ∧ e.name = n ∧ e.reportsPresent = false

section Race

variable {env : Env} {w : PassWorld} {clusters : List Cluster} {deleted : String → Prop}

/-- What every step keeps about the cache, given names `deleted` that the
watch events may report gone: each listed cluster the add loop has visited
is known or reported gone, and each cached client belongs to a known name
or to a listed name reported gone. -/
structure CacheAccounted (clusters : List Cluster) (deleted : String → Prop)
    (s : ClusterController × PassPhase) : Prop where
  listed : ∀ c ∈ clusters, (∃ rest, s.2 = .adding rest ∧ c ∈ rest) ∨
    c.name ∈ s.1.knownClusterSet ∨ deleted c.name
  clients : ∀ n, (s.1.clusterKubeClientMap n).isSome →
    n ∈ s.1.knownClusterSet ∨ (n ∈ clusters.map Cluster.name ∧ deleted n)

/-- A step that changes the controller at `m` only keeps the cache accounted
for when it keeps `m` accounted for, and each listed cluster the add loop has
visited stays known or reported gone. -/
theorem CacheAccounted.of_changesOnly {cc cc' : ClusterController} {phase phase' : PassPhase}
    {m : String} (h : CacheAccounted clusters deleted (cc, phase)) (hc : ChangesOnly cc cc' m)
    (hadd : ∀ c ∈ clusters, ∀ rest, phase = .adding rest → c ∈ rest →
      (∃ rest', phase' = .adding rest' ∧ c ∈ rest') ∨ c.name ∈ cc'.knownClusterSet)
    (hknown : ∀ c ∈ clusters, c.name ∈ cc.knownClusterSet →
      c.name ∈ cc'.knownClusterSet ∨ deleted c.name)
    (hm : (cc'.clusterKubeClientMap m).isSome →
      m ∈ cc'.knownClusterSet ∨ (m ∈ clusters.map Cluster.name ∧ deleted m)) :
    CacheAccounted clusters deleted (cc', phase') := by
  refine ⟨fun c hc' => ?_, fun n hn => ?_⟩
  · rcases h.listed c hc' with ⟨rest, hr, hcr⟩ | hk | hd
    · exact (hadd c hc' rest hr hcr).imp_right .inl
    · exact .inr (hknown c hc' hk)
    · exact .inr (.inr hd)
  · by_cases hnm : n = m
    · exact hnm ▸ hm (hnm ▸ hn)
    · rcases h.clients n ((hc.clients n hnm) ▸ hn) with hk | hd
      · exact .inl ((hc.known n hnm).mpr hk)
      · exact .inr hd

/-- Out of the add loop the phase plays no part. -/
theorem CacheAccounted.of_phase {cc : ClusterController} {phase phase' : PassPhase}
    (h : CacheAccounted clusters deleted (cc, phase)) (hphase : ∀ rest, phase = .adding rest → rest = []) :
    CacheAccounted clusters deleted (cc, phase') := by
  refine ⟨fun c hc => ?_, h.clients⟩
  rcases h.listed c hc with ⟨rest, hr, hcr⟩ | h' | h'
  · exact absurd (hphase rest hr ▸ hcr) (List.not_mem_nil c)
  · exact .inr (.inl h')
  · exact .inr (.inr h')

theorem CacheAccounted.step {s : ClusterController × PassPhase}
    (h : CacheAccounted clusters deleted s) (hok : PhaseOK clusters s.2) (a : Interleaved)
    (ha : ∀ e, a = .watch e → e.reportsPresent = false → deleted e.name) :
    CacheAccounted clusters deleted (interleavedStep env w clusters s a) := by
  obtain ⟨cc, phase⟩ := s
  cases a with
  | watch e =>
    have hc := changesOnly_handle cc e
    refine h.of_changesOnly hc (fun _ _ rest hr hcr => .inl ⟨rest, hr, hcr⟩) (fun c _ hk => ?_)
      fun hsome => ?_
    · by_cases hn : c.name = e.name
      · cases hp : e.reportsPresent
        · exact .inr (hn ▸ ha e rfl hp)
        · exact .inl (hn ▸ (mem_handle_knownClusterSet cc e).mpr hp)
      · exact .inl ((hc.known _ hn).mpr hk)
    · cases hp : e.reportsPresent
      · simp [handle_clusterKubeClientMap_of_absent cc e hp] at hsome
      · exact .inl ((mem_handle_knownClusterSet cc e).mpr hp)
  | pass =>
    cases phase with
    | adding rest =>
      cases rest with
      | nil => exact h.of_phase fun _ hr => (PassPhase.adding.inj hr).symm
      | cons cluster rest =>
        have hself : cluster.name ∈ (addStep w cc cluster).knownClusterSet := by
          simp [knownClusterSet_addStep]
        refine h.of_changesOnly (changesOnly_addStep w cc cluster) (fun c _ r hr hcr => ?_)
          (fun c _ hk => .inl (by simp [knownClusterSet_addStep, hk])) fun _ => .inl hself
        cases PassPhase.adding.inj hr
        rcases List.mem_cons.mp hcr with rfl | hcr
        · exact .inr hself
        · exact .inl ⟨rest, rfl, hcr⟩
    | deleting pending =>
      simp only [interleavedStep]
      split_ifs
      · exact h.of_phase fun _ hr => by cases hr
      · exact h
    | refreshing rest =>
      cases rest with
      | nil => exact h
      | cons cluster rest =>
        have hc : cluster ∈ clusters := hok cluster (List.mem_cons_self _ _)
        obtain ⟨client, hr⟩ := refreshClusterStats_eq env (w.cluster cluster.name) cluster cc
        simp only [interleavedStep, hr]
        refine h.of_changesOnly (changesOnly_setClient client) (fun _ _ _ hr => by cases hr)
          (fun _ _ hk => .inl hk) fun _ => ?_
        rcases h.listed cluster hc with ⟨r, hr, -⟩ | hk | hd
        · cases hr
        · exact .inl hk
        · exact .inr ⟨List.mem_map.mpr ⟨cluster, hc, rfl⟩, hd⟩
  | passDelete n =>
    cases phase with
    | deleting pending =>
      simp only [interleavedStep]
      split_ifs with hn
      · refine h.of_changesOnly changesOnly_delFromClusterSetByName (fun _ _ _ hr => by cases hr)
          (fun c hc hk => .inl ?_) fun hsome => by simp at hsome
        have hcn : c.name ≠ n := fun he => hok n hn (he ▸ List.mem_map.mpr ⟨c, hc, rfl⟩)
        simp [hk, hcn]
      · exact h
    | adding _ => exact h
    | refreshing _ => exact h

theorem CacheAccounted.run {s : ClusterController × PassPhase}
    (h : CacheAccounted clusters deleted s) (hok : PhaseOK clusters s.2) (trace : List Interleaved)
    (ht : ∀ e, Interleaved.watch e ∈ trace → e.reportsPresent = false → deleted e.name) :
    CacheAccounted clusters deleted (runInterleaved env w clusters s trace) := by
  induction trace generalizing s with
  | nil => exact h
  | cons a rest ih =>
    exact ih (h.step hok a fun e he => ht e (he ▸ List.mem_cons_self _ _)) (phaseOK_step hok a)
      fun e he => ht e (List.mem_cons_of_mem _ he)

end Race

/-- **Only a deletion during the pass leaves a client without a name.**
Start a pass from any state in which every cached client's name is known,
and interleave any watch events with its steps. At every point, a cached
client belongs to a known name, or to a listed cluster that a watch event
of the trace reported gone: the stats loop, working from its listing, makes
a client again for a cluster deleted after the listing, and nothing removes
it until the next event for that name. -/
theorem cached_client_known_or_deleted_during_pass (env : Env) (w : PassWorld)
    (clusters : List Cluster) (cc : ClusterController) (hinv : ClientsKnown cc)
    (trace : List Interleaved) (n : String)
    (h : ((runInterleaved env w clusters (cc, .adding clusters) trace).1.clusterKubeClientMap n).isSome) :
    n ∈ (runInterleaved env w clusters (cc, .adding clusters) trace).1.knownClusterSet ∨
      (n ∈ clusters.map Cluster.name ∧ DeletedDuring trace n) := by
  have h0 : CacheAccounted clusters (DeletedDuring trace) (cc, .adding clusters) :=
    ⟨fun c hc => .inl ⟨clusters, rfl, hc⟩, fun m hm => .inl (hinv m hm)⟩
  exact (h0.run (fun _ hc => hc) trace fun e he hp => ⟨e, he, rfl, hp⟩).clients n h

theorem cached_client_known_or_deleted_during_pass_of_race :
    let alpha : Cluster := ⟨"alpha", none, [⟨clusterReady, conditionTrue⟩], .empty⟩
    let w : PassWorld := ⟨.ok [alpha], fun _ =>
      ⟨.ok (some ⟨1⟩), .ok (some ⟨2⟩), .ofPopulation (10, 10) [], .ok alpha, .ok (), 0⟩⟩
    let cc : ClusterController := ⟨{"alpha"}, fun _ => none, false⟩
    let trace : List Interleaved := [.pass, .pass, .watch (.deleted alpha), .pass, .pass]
    let final := (runInterleaved (.ofDefaults 1800 80 20) w [alpha] (cc, .adding [alpha]) trace).1
    ClientsKnown cc ∧ (final.clusterKubeClientMap "alpha").isSome ∧
      "alpha" ∉ final.knownClusterSet ∧
      ("alpha" ∈ final.knownClusterSet ∨
        ("alpha" ∈ [alpha].map Cluster.name ∧ DeletedDuring trace "alpha")) := by
  intro alpha w cc trace final
  have hinv : ClientsKnown cc := fun _ h => by simp [cc] at h
  have hsome : (final.clusterKubeClientMap "alpha").isSome := by decide
  exact ⟨hinv, hsome, by decide,
    cached_client_known_or_deleted_during_pass _ w [alpha] cc hinv trace "alpha" hsome⟩

/-! ## What becomes of an orphaned client -/

/-- **No run collects an orphaned client.** From any state, a run of steps
none of which mentions an unknown name leaves the name unknown and its cache
entry as it was: the delete loop visits only known names, and the add and
stats loops only listed ones. A client a racing deletion leaves behind stays
until a watch event or a listing names its cluster again. -/
theorem runSteps_keeps_unknown_entry (env : Env) (cc : ClusterController) (n : String)
    (hn : n ∉ cc.knownClusterSet) (steps : List ControllerStep)
    (hs : steps.all (fun s => !s.mentions n) = true) :
    n ∉ (runSteps env cc steps).knownClusterSet ∧
      (runSteps env cc steps).clusterKubeClientMap n = cc.clusterKubeClientMap n := by
  refine runSteps_preserves (P := fun cc' => n ∉ cc'.knownClusterSet ∧
      cc'.clusterKubeClientMap n = cc.clusterKubeClientMap n)
    (fun _ s hs ⟨hn', hc⟩ => ⟨(step_entry_of_unmentioned hn' s hs).1,
      (step_entry_of_unmentioned hn' s hs).2.trans hc⟩) ⟨hn, rfl⟩ steps fun s h => ?_
  simpa using List.all_eq_true.mp hs s h

theorem runSteps_keeps_unknown_entry_of_race :
    let alpha : Cluster := ⟨"alpha", none, [⟨clusterReady, conditionTrue⟩], .empty⟩
    let w : PassWorld := ⟨.ok [alpha], fun _ =>
      ⟨.ok (some ⟨1⟩), .ok (some ⟨2⟩), .ofPopulation (10, 10) [], .ok alpha, .ok (), 0⟩⟩
    let cc : ClusterController := ⟨{"alpha"}, fun _ => none, false⟩
    let trace : List Interleaved := [.pass, .pass, .watch (.deleted alpha), .pass, .pass]
    let orphaned := (runInterleaved (.ofDefaults 1800 80 20) w [alpha] (cc, .adding [alpha]) trace).1
    let later : List ControllerStep := [.updateClusterStatus { w with list := .ok [] },
      .watch (.deleted { alpha with name := "beta" })]
    orphaned.clusterKubeClientMap "alpha" = some ⟨2⟩ ∧ "alpha" ∉ orphaned.knownClusterSet ∧
      later.all (fun s => !s.mentions "alpha") = true ∧
      "alpha" ∉ (runSteps (.ofDefaults 1800 80 20) orphaned later).knownClusterSet ∧
      (runSteps (.ofDefaults 1800 80 20) orphaned later).clusterKubeClientMap "alpha" =
        orphaned.clusterKubeClientMap "alpha" := by
  intro alpha w cc trace orphaned later
  have hn : "alpha" ∉ orphaned.knownClusterSet := by decide
  have hs : later.all (fun s => !s.mentions "alpha") = true := by decide
  exact ⟨by decide, hn, hs, runSteps_keeps_unknown_entry _ orphaned "alpha" hn later hs⟩

end Navarkos
