import Navarkos.Pass

/-!
# Runs of the annotation rules over one cluster

Between two passes nothing but the controller writes a cluster's annotations,
so each pass reads back (`Get`) the map the previous one persisted.
`decisionRun` is that sequence of decisions, one per pass that reached the
rules, each with the clock and the pod counts it sampled; a pass that panics
ends the run. `refreshClusterStats_of_sampled`, in the pass module, ties it
to the stats iteration: a ready cluster whose sample succeeded is written back
with the decided map exactly when the rules report a change.

Because a pass stops at the first rule that fires, it does one of the five
rewrites of `Rewrite` at most. Two measures count what is left to do:

* `changeBound S a`, at most 4, drops with every rewrite of a pass that
  samples `S`, whatever the clock: a run sampling one `S` reports at most four
  changes;
* `changeBoundAt env now S a`, at most 3, drops with every rewrite of a pass
  at clock `now` sampling `S`: of passes that all sample `S` at `now`, the
  fourth reports no change (`fourth_decision_pass_unchanged`), while the
  second need not, although the rules as specified would all run in the
  first (`second_pass_stamps_idle_timer`).

A pass whose sample differs from the annotations writes the sample and stops
there, so it never cancels the idle timer: user pods seen only by such a pass
do not reset it.
-/

namespace Navarkos

open ClusterController

/-- What a pass samples for the cluster: the clock, in whole seconds, and the
pod counts `getClusterStats` returned. -/
structure PassSample where
  now : Int
  stats : MetricsSnapshot

/-- The decisions of successive passes over one ready cluster, each reading
the map the previous one persisted: per pass, the map the store holds after
it and whether it reported a change. A panic ends the run. -/
def decisionRun (env : Env) : Annotations → List PassSample → List (Annotations × Bool)
  | _, [] => []
  | a, sample :: rest =>
    match decideClusterUpdate env sample.now sample.stats.toStats a with
    | .error _ => []
    | .ok (annotations, updateCluster) =>
      let stored := if updateCluster then annotations else a
      (stored, updateCluster) :: decisionRun env stored rest

/-! ## A bound over any clock -/

section Measures

variable {env : Env} {now : Int} {S : MetricsSnapshot} {a a' : Annotations}

/-- The capacity annotations are present and hold the sample. -/
def Synced (S : MetricsSnapshot) (a : Annotations) : Prop :=
  isCapacityDataPresent a = true ∧ isStatsChanged S.toStats a = false

instance (S : MetricsSnapshot) (a : Annotations) : Decidable (Synced S a) :=
  inferInstanceAs (Decidable (_ ∧ _))

theorem synced_updateClusterStats (a : Annotations) (S : MetricsSnapshot) :
    Synced S (updateClusterStats a S.toStats) :=
  ⟨isCapacityDataPresent_updateClusterStats a S, isStatsChanged_updateClusterStats a S⟩

/-- Writes outside the capacity keys keep the sample in place. -/
theorem synced_congr (h : ∀ k, k ≠ .clusterState → k ≠ .shutdownStartTime → a' k = a k) :
    Synced S a' ↔ Synced S a := by
  have h₁ := h .capacityAllocatablePods (by decide) (by decide)
  have h₂ := h .capacityPods (by decide) (by decide)
  have h₃ := h .capacityUsedPods (by decide) (by decide)
  have h₄ := h .capacitySystemPods (by decide) (by decide)
  simp only [Synced, isCapacityDataPresent, isStatsChanged_toStats_eq_false, h₁, h₂, h₃, h₄,
    getAnnotationIntegerValue_congr h₁, getAnnotationIntegerValue_congr h₂,
    getAnnotationIntegerValue_congr h₃, getAnnotationIntegerValue_congr h₄]

/-- In a synced map the idle test reads the sample. -/
theorem synced_idle_iff (hs : Synced S a) :
    getAnnotationIntegerValue a .capacityUsedPods 0 =
        getAnnotationIntegerValue a .capacitySystemPods 0 ↔ S.usedPods = S.systemPods := by
  obtain ⟨-, -, hu, hsys⟩ := (isStatsChanged_toStats_eq_false a S).mp hs.2
  rw [hu, hsys]

theorem isSome_of_ttlExpired (h : ttlExpired env now a = true) : (a .shutdownStartTime).isSome := by
  unfold ttlExpired at h
  split at h
  next hs => simp [hs]
  next => cases h

theorem not_synced_of_stats
    (hs : isCapacityDataPresent a = false ∨ isStatsChanged S.toStats a = true) : ¬Synced S a :=
  fun ⟨hp, hc⟩ => by rcases hs with hs | hs <;> simp_all

/-- After any rewrite the capacity annotations hold the sample. -/
theorem Rewrite.synced (h : Rewrite env now S.toStats a a') : Synced S a' := by
  cases h with
  | stats => exact synced_updateClusterStats a S
  | stamp hp hc => exact (synced_congr fun k _ hk => by simp [hk]).mpr ⟨hp, hc⟩
  | clear hp hc => exact (synced_congr fun k _ hk => by simp [hk]).mpr ⟨hp, hc⟩
  | expire hp hc => exact (synced_congr fun k hk hk' => by simp [hk, hk']).mpr ⟨hp, hc⟩
  | scale _ hp hc => exact (synced_congr fun k hk _ => by simp [hk]).mpr ⟨hp, hc⟩

/-- The rules write no lifecycle state but `Ready` is left for. -/
theorem pending_ne_ready {state : String}
    (h : state = navarkosClusterStatePendingShutdown ∨ state = navarkosClusterStatePendingScaleUp ∨
      state = navarkosClusterStatePendingScaleDown) :
    state ≠ navarkosClusterStateReady := by
  rcases h with rfl | rfl | rfl <;> decide

/-- Every rewrite changes the map: the stats write leaves the sample where it
was missing or stale, the timer rules add or remove the start time, and
the scaling rule leaves `Ready`. -/
theorem Rewrite.ne (h : Rewrite env now S.toStats a a') : a' ≠ a := by
  have hs' := h.synced
  intro heq
  cases h with
  | stats hs => exact not_synced_of_stats hs (heq ▸ hs')
  | stamp _ _ _ ht _ => simpa [ht] using congrFun heq .shutdownStartTime
  | clear _ _ _ ht => simp [← congrFun heq .shutdownStartTime] at ht
  | expire _ _ _ hx =>
    simpa [← congrFun heq .shutdownStartTime] using isSome_of_ttlExpired hx
  | scale state _ _ _ _ hr hstate =>
    have hget : state = a.get .clusterState := by
      simpa [Annotations.get] using congrArg (·.get .clusterState) heq
    exact pending_ne_ready (.inr hstate) (hget.trans hr)

/-- **A pass reports a change exactly when it changes the map.** For every
stored map, every four-count sample and every clock, a pass whose rules
complete reports a change, and so writes the cluster, if and only if the map
it decides differs from the stored one. -/
theorem decideClusterUpdate_reports_change_iff {b : Bool}
    (h : decideClusterUpdate env now S.toStats a = .ok (a', b)) : b = true ↔ a' ≠ a := by
  cases b
  · simp [decideClusterUpdate_unchanged h]
  · simp [(decideClusterUpdate_changed h).ne]

theorem decideClusterUpdate_reports_change_iff_of_new_cluster :
    let S : MetricsSnapshot := ⟨10, 10, 0, 0⟩
    decideClusterUpdate (.ofDefaults 1800 80 20) 0 S.toStats .empty =
        .ok (updateClusterStats .empty S.toStats, true) ∧
      (true = true ↔ updateClusterStats .empty S.toStats ≠ .empty) := by
  intro S
  have h : decideClusterUpdate (.ofDefaults 1800 80 20) 0 S.toStats .empty =
      .ok (updateClusterStats .empty S.toStats, true) := rfl
  exact ⟨h, decideClusterUpdate_reports_change_iff h⟩

/-- How many more changes passes sampling `S` can report, at any clock: the
stats write, leaving `Ready`, and what the idle timer can still do (be
cancelled or consumed once it runs; be started and then consumed while a
ready cluster runs only system pods). -/
def changeBound (S : MetricsSnapshot) (a : Annotations) : Nat :=
  (if Synced S a then 0 else 1) +
    (if a.get .clusterState = navarkosClusterStateReady then 1 else 0) +
    if (a .shutdownStartTime).isSome then 1
    else if a.get .clusterState = navarkosClusterStateReady ∧ S.usedPods = S.systemPods then 2
    else 0

theorem changeBound_le_four (S : MetricsSnapshot) (a : Annotations) : changeBound S a ≤ 4 := by
  show _ + _ + _ ≤ 1 + 1 + 2
  exact Nat.add_le_add (Nat.add_le_add (by split <;> omega) (by split <;> omega))
    (by split_ifs <;> omega)

/-- Every rewrite of a pass that samples `S` lowers `changeBound S`. -/
theorem changeBound_lt_of_rewrite (h : Rewrite env now S.toStats a a') :
    changeBound S a' < changeBound S a := by
  have hs' := h.synced
  cases h with
  | stats hs =>
    simp only [changeBound, if_pos hs', if_neg (not_synced_of_stats hs), Annotations.get,
      updateClusterStats_apply_of_not_capacity a S (.inl rfl),
      updateClusterStats_apply_of_not_capacity a S (.inr (.inl rfl))]
    omega
  | stamp hp hc hu ht hr =>
    simp [changeBound, hs', show Synced S a from ⟨hp, hc⟩, hr, ht, (synced_idle_iff ⟨hp, hc⟩).mp hu]
  | clear hp hc hu ht =>
    simp [changeBound, hs', show Synced S a from ⟨hp, hc⟩, ht, mt (synced_idle_iff ⟨hp, hc⟩).mpr hu]
  | expire hp hc _ hx =>
    simp only [changeBound, hs', show Synced S a from ⟨hp, hc⟩, isSome_of_ttlExpired hx,
      pending_ne_ready (.inl rfl), ↓reduceIte, Annotations.get_erase, Annotations.get_set,
      Annotations.erase_apply, reduceCtorEq, Option.isSome_none, Bool.false_eq_true, false_and,
      add_zero, zero_add, Nat.zero_lt_succ]
  | scale state hp hc _ _ hr hstate =>
    simp [changeBound, hs', show Synced S a from ⟨hp, hc⟩, hr, pending_ne_ready (.inr hstate)]
    split_ifs <;> omega

/-- Passes that all sample `S` report at most `changeBound S a` changes. -/
theorem countP_decisionRun_le (env : Env) (S : MetricsSnapshot) (a : Annotations)
    (times : List Int) :
    (decisionRun env a (times.map fun now => ⟨now, S⟩)).countP (·.2) ≤ changeBound S a := by
  induction times generalizing a with
  | nil => simp [decisionRun]
  | cons now rest ih =>
    simp only [List.map_cons, decisionRun]
    rcases hd : decideClusterUpdate env now S.toStats a with p | ⟨a', _ | _⟩
    · simp
    · simpa using ih a
    · have hlt := changeBound_lt_of_rewrite (decideClusterUpdate_changed hd)
      simp only [if_true, List.countP_cons_of_pos]
      have := ih a'
      omega

/-- **A run sampling one snapshot changes the cluster at most four times.**
Take a ready cluster whose annotations only the controller writes, and
passes that all sample the same pod counts, at any clocks: at most four of
them report a change (write the cluster and fire the callback). -/
theorem decisionRun_changes_le_four (env : Env) (S : MetricsSnapshot) (a : Annotations)
    (times : List Int) :
    (decisionRun env a (times.map fun now => ⟨now, S⟩)).countP (·.2) ≤ 4 :=
  (countP_decisionRun_le env S a times).trans (changeBound_le_four S a)

/-! ## Passes at one clock -/

/-- How many more changes passes at clock `now` sampling `S` can report.
At one clock a timer the pass itself starts has not run out, so a ready
cluster running only system pods can still have its timer started and then
leave `Ready`, or leave `Ready` at once; other clusters can still lose the
timer and leave `Ready`, one change each. -/
def changeBoundAt (env : Env) (now : Int) (S : MetricsSnapshot) (a : Annotations) : Nat :=
  (if Synced S a then 0 else 1) +
    if S.usedPods = S.systemPods then
      if (a .shutdownStartTime).isSome then
        if a.get .clusterState = navarkosClusterStateReady ∨ ttlExpired env now a then 1 else 0
      else if a.get .clusterState = navarkosClusterStateReady then 2 else 0
    else
      (if (a .shutdownStartTime).isSome then 1 else 0) +
        if a.get .clusterState = navarkosClusterStateReady then 1 else 0

theorem changeBoundAt_le_three (env : Env) (now : Int) (S : MetricsSnapshot) (a : Annotations) :
    changeBoundAt env now S a ≤ 3 := by
  show _ + _ ≤ 1 + 2
  exact Nat.add_le_add (by split <;> omega) (by split_ifs <;> omega)

theorem changeBoundAt_pos_of_ready (h : a.get .clusterState = navarkosClusterStateReady) :
    0 < changeBoundAt env now S a := by
  simp only [changeBoundAt, h, true_or, ↓reduceIte]
  split_ifs <;> omega

/-- Every rewrite of a pass at clock `now` sampling `S` lowers
`changeBoundAt env now S`. -/
theorem changeBoundAt_lt_of_rewrite (h : Rewrite env now S.toStats a a') :
    changeBoundAt env now S a' < changeBoundAt env now S a := by
  have hs' := h.synced
  cases h with
  | stats hs =>
    have ht := updateClusterStats_apply_of_not_capacity a S (.inr (.inl rfl))
    have hx : ttlExpired env now (updateClusterStats a S.toStats) = ttlExpired env now a :=
      ttlExpired_congr ht (updateClusterStats_apply_of_not_capacity a S (.inr (.inr (.inl rfl))))
    simp only [changeBoundAt, if_pos hs', if_neg (not_synced_of_stats hs), Annotations.get,
      updateClusterStats_apply_of_not_capacity a S (.inl rfl), ht, hx]
    omega
  | stamp hp hc hu ht hr =>
    simp only [changeBoundAt, hs', show Synced S a from ⟨hp, hc⟩, hr, ht,
      (synced_idle_iff ⟨hp, hc⟩).mp hu, ↓reduceIte, Annotations.set_apply, Annotations.get_set,
      reduceCtorEq, Option.isSome_some, Option.isSome_none, Bool.false_eq_true, true_or, zero_add,
      Nat.lt_add_one]
  | clear hp hc hu ht =>
    simp only [changeBoundAt, hs', show Synced S a from ⟨hp, hc⟩, ht,
      mt (synced_idle_iff ⟨hp, hc⟩).mpr hu, ↓reduceIte, Annotations.erase_apply,
      Annotations.get_erase, reduceCtorEq, Option.isSome_none, Bool.false_eq_true, zero_add,
      Nat.lt_add_left_iff_pos, Nat.lt_add_one]
  | expire hp hc _ hx =>
    simp [changeBoundAt, hs', show Synced S a from ⟨hp, hc⟩, hx, isSome_of_ttlExpired hx,
      pending_ne_ready (.inl rfl)]
    split_ifs <;> omega
  | scale state hp hc _ hx hr hstate =>
    have hx' : ttlExpired env now (a.set .clusterState state) = false :=
      (ttlExpired_congr (by simp) (by simp)).trans hx
    simp [changeBoundAt, hs', show Synced S a from ⟨hp, hc⟩, hr, hx', pending_ne_ready (.inr hstate)]
    split_ifs <;> omega

/-- A map the next pass leaves alone, or one with at most `k + 1` changes
to go, is after one more pass a map the next pass leaves alone, or one with
at most `k` to go. -/
theorem settled_or_le_of_pass {k : Nat} {b : Bool}
    (hk : decideClusterUpdate env now S.toStats a = .ok (a, false) ∨
      changeBoundAt env now S a ≤ k + 1)
    (h : decideClusterUpdate env now S.toStats a = .ok (a', b)) :
    decideClusterUpdate env now S.toStats a' = .ok (a', false) ∨ changeBoundAt env now S a' ≤ k := by
  cases b with
  | false =>
    obtain rfl := decideClusterUpdate_unchanged h
    exact .inl h
  | true =>
    rcases hk with hk | hk
    · cases hk.symm.trans h
    · exact .inr (by have := changeBoundAt_lt_of_rewrite (decideClusterUpdate_changed h); omega)

/-- A map with no change to go is left alone, without a panic. -/
theorem decideClusterUpdate_of_changeBoundAt_zero (h0 : changeBoundAt env now S a = 0) :
    decideClusterUpdate env now S.toStats a = .ok (a, false) := by
  rcases hd : decideClusterUpdate env now S.toStats a with p | ⟨a', _ | _⟩
  · have : 0 < changeBoundAt env now S a :=
      changeBoundAt_pos_of_ready (decideClusterUpdate_error hd).2.2.2.2
    omega
  · rw [decideClusterUpdate_unchanged hd]
  · have := changeBoundAt_lt_of_rewrite (decideClusterUpdate_changed hd)
    omega

/-- **The fourth pass at one clock and sample changes nothing.** Let three
passes at clock `now`, all sampling `S`, each run on the map the previous one
decided, complete without a panic. The fourth pass reports no change and
leaves the map as it is. -/
theorem fourth_decision_pass_unchanged (env : Env) (now : Int) (S : MetricsSnapshot)
    {a₀ a₁ a₂ a₃ : Annotations} {b₁ b₂ b₃ : Bool}
    (h₁ : decideClusterUpdate env now S.toStats a₀ = .ok (a₁, b₁))
    (h₂ : decideClusterUpdate env now S.toStats a₁ = .ok (a₂, b₂))
    (h₃ : decideClusterUpdate env now S.toStats a₂ = .ok (a₃, b₃)) :
    decideClusterUpdate env now S.toStats a₃ = .ok (a₃, false) := by
  have p₁ := settled_or_le_of_pass (k := 2) (.inr (changeBoundAt_le_three env now S a₀)) h₁
  rcases settled_or_le_of_pass (settled_or_le_of_pass p₁ h₂) h₃ with h | h
  · exact h
  · exact decideClusterUpdate_of_changeBoundAt_zero (Nat.le_zero.mp h)

theorem fourth_decision_pass_unchanged_of_idle :
    let env := Env.ofDefaults 1800 80 20
    let S : MetricsSnapshot := ⟨10, 10, 2, 2⟩
    let a₀ := Annotations.empty.set .clusterState navarkosClusterStateReady
    let a₁ := updateClusterStats a₀ S.toStats
    let a₂ := a₁.set .shutdownStartTime "0"
    decideClusterUpdate env 0 S.toStats a₀ = .ok (a₁, true) ∧
      decideClusterUpdate env 0 S.toStats a₁ = .ok (a₂, true) ∧
      decideClusterUpdate env 0 S.toStats a₂ = .ok (a₂, false) ∧
      decideClusterUpdate env 0 S.toStats a₂ = .ok (a₂, false) := by
  refine ⟨?h₁, ?h₂, ?h₃, fourth_decision_pass_unchanged _ 0 _ ?h₁ ?h₂ ?h₃⟩ <;> rfl

/-- A pass whose sample differs from the stored counts writes the counts and
evaluates no rule: `updateCluster || rule(cluster)` skips every rule once the
stats write has set `updateCluster`. At one clock, on a ready, autoscaled
cluster whose stored counts still show user pods but whose sample shows only
system pods, the first pass writes the counts, the second starts the idle
timer that the first skipped, and the third marks the cluster
`PendingScaleDown`. -/
theorem second_pass_stamps_idle_timer :
    let env : Env := .ofDefaults 1800 80 20
    let busy : MetricsSnapshot := ⟨10, 10, 5, 2⟩
    let idle : MetricsSnapshot := ⟨10, 10, 2, 2⟩
    let a₀ := updateClusterStats ((Annotations.empty.set .clusterState
      navarkosClusterStateReady).set .autoScale "true") busy.toStats
    let a₁ := updateClusterStats a₀ idle.toStats
    let a₂ := a₁.set .shutdownStartTime "0"
    isCapacityDataPresent a₀ = true ∧
      decideClusterUpdate env 0 idle.toStats a₀ = .ok (a₁, true) ∧
      decideClusterUpdate env 0 idle.toStats a₁ = .ok (a₂, true) ∧
      decideClusterUpdate env 0 idle.toStats a₂ =
        .ok (a₂.set .clusterState navarkosClusterStatePendingScaleDown, true) :=
  ⟨rfl, rfl, rfl, rfl⟩

end Measures

/-! ## The idle timer -/

/-- Pods seen only by a pass that rewrites the stats do not reset the idle
timer. The timer starts at 0 on a cluster running two system pods; at 50 a
pass sees three user pods, but it only writes the new counts; at 100 a pass
sees the user pods gone and again only writes the counts; the next pass, still
at 100, finds the timer started at 0 run out and sets `PendingShutdown`. -/
theorem idle_timer_outlives_user_pods :
    let env : Env := .ofDefaults 100 80 20
    let idle : MetricsSnapshot := ⟨10, 10, 2, 2⟩
    let busy : MetricsSnapshot := ⟨10, 10, 5, 2⟩
    let a := updateClusterStats (Annotations.empty.set .clusterState navarkosClusterStateReady)
      idle.toStats
    busy.usedPods ≠ busy.systemPods ∧
      (decisionRun env a [⟨0, idle⟩, ⟨50, busy⟩, ⟨100, idle⟩, ⟨100, idle⟩]).map
          (fun r => (r.1 .clusterState, r.1 .shutdownStartTime, r.2)) =
        [(some "Ready", some "0", true), (some "Ready", some "0", true),
          (some "Ready", some "0", true), (some "PendingShutdown", none, true)] := by
  decide

end Navarkos
