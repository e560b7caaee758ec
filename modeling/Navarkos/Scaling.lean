import Navarkos.Lifecycle

/-!
# The scaling rule: when it panics, and how it follows the load

As `Rules.lean` factors it, `markClusterForScalingIfPodsHitThresholds` is
gated on the `autoScale` annotation and on the `Ready` state
(`scalingEnabled`). Behind the gate it
computes `usedOverCapacity`, the user pods times 100 over the user capacity
`capacityPods - usedSysPods`, in wrapping `int` arithmetic with Go's
truncated division (`usedOverCapacity?`, `none` for a zero divisor), and
switches on the two thresholds (`scaleByThresholds`).

* The rule panics exactly behind its gate on a capacity equal to the system
  pod count. A pass reaches it exactly when its sample is already stored,
  neither timer rule fires and the sampled capacity equals the sampled
  system count (`decideClusterUpdate_eq_error_iff`); two passes over a
  ready autoscaled cluster with such a sample are enough
  (`second_pass_divides_by_zero`).
* Every scale request rests on the pass's own sample: a pass that moves the
  state anywhere but `PendingShutdown` found autoscaling on, the cluster
  `Ready` and the sample already stored, and the sample's percentage crossed
  the matching threshold (`scale_request_follows_sample`).
* Ranking the outcomes scale down, no change, scale up (`scalingRank`), the
  decision follows the used pod count when the user capacity is positive
  and the percentage does not overflow
  (`scalingRank_mono_of_positive_user_capacity`). A negative user capacity
  turns the quotient around: more used pods can move a cluster from scale
  up to scale down (`scaling_reverses_on_negative_user_capacity`).
-/

namespace Navarkos

/-! ## Division by zero -/

/-- A zero user capacity is a capacity equal to the system pod count: the
difference of two `int`s never wraps to zero. -/
theorem usedOverCapacity?_eq_none_iff (a : Annotations) :
    usedOverCapacity? a = none ↔
      getAnnotationIntegerValue a .capacityPods 0 =
        getAnnotationIntegerValue a .capacitySystemPods 0 := by
  simp only [usedOverCapacity?, GoInt.div?_eq_none, GoInt.sub_val_eq_zero_iff]

/-- The rule panics exactly behind its gate, on a capacity equal to the
system pod count, and the panic is the division by zero. -/
theorem markClusterForScalingIfPodsHitThresholds_eq_error_iff {env : Env} {a : Annotations}
    {p : GoPanic} :
    markClusterForScalingIfPodsHitThresholds env a = .error p ↔
      p = .integerDivideByZero ∧ scalingEnabled a ∧
        getAnnotationIntegerValue a .capacityPods 0 =
          getAnnotationIntegerValue a .capacitySystemPods 0 := by
  rw [markClusterForScalingIfPodsHitThresholds_eq, ← usedOverCapacity?_eq_none_iff]
  by_cases hon : scalingEnabled a
  · rw [if_pos hon]
    cases usedOverCapacity? a <;> simp [hon, eq_comm]
  · simp [hon]

section Passes

variable {env : Env} {now : Int} {S : MetricsSnapshot} {a a' : Annotations}

/-- When the stored map holds the sample and both timer rules decline, the
pass is the scaling rule. -/
theorem decideClusterUpdate_of_timers_decline (hs : Synced S a)
    (hm : markClusterToShutDownIfNoPods env now a = (a, false))
    (hx : ttlExpired env now a = false) :
    decideClusterUpdate env now S.toStats a = markClusterForScalingIfPodsHitThresholds env a := by
  rw [decideClusterUpdate_of_synced hs.1 hs.2]
  simp [hm, orRule, shutDownClusterIfTTLExpired_of_false hx]

/-- **Exactly the passes that panic.** A pass over the four counts `S`
panics exactly when the stored map already holds `S`, neither timer rule
fires, autoscaling is on for a `Ready` cluster, and `S`'s capacity equals
its system pod count; the panic is the division by zero. -/
theorem decideClusterUpdate_eq_error_iff {p : GoPanic} :
    decideClusterUpdate env now S.toStats a = .error p ↔
      p = .integerDivideByZero ∧ Synced S a ∧
        markClusterToShutDownIfNoPods env now a = (a, false) ∧ ttlExpired env now a = false ∧
        scalingEnabled a ∧ S.capacityPods = S.systemPods := by
  constructor
  · intro h
    obtain ⟨hp, hc, hm, hx, -⟩ := decideClusterUpdate_error h
    obtain ⟨-, hcap, -, hsys⟩ := (isStatsChanged_toStats_eq_false a S).mp hc
    rw [decideClusterUpdate_of_timers_decline ⟨hp, hc⟩ hm hx,
      markClusterForScalingIfPodsHitThresholds_eq_error_iff, hcap, hsys] at h
    exact ⟨h.1, ⟨hp, hc⟩, hm, hx, h.2⟩
  · rintro ⟨rfl, hs, hm, hx, hon, hpods⟩
    obtain ⟨-, hcap, -, hsys⟩ := (isStatsChanged_toStats_eq_false a S).mp hs.2
    rw [decideClusterUpdate_of_timers_decline hs hm hx,
      markClusterForScalingIfPodsHitThresholds_eq_error_iff, hcap, hsys]
    exact ⟨rfl, hon, hpods⟩

/-- The switch changes the map only past a threshold, scale-up tested
first. -/
theorem scaleByThresholds_eq_true {up down q : GoInt}
    (h : scaleByThresholds a up down q = (a', true)) :
    (up ≤ q ∧ a' = a.set .clusterState navarkosClusterStatePendingScaleUp) ∨
      (¬up ≤ q ∧ q ≤ down ∧ a' = a.set .clusterState navarkosClusterStatePendingScaleDown) := by
  unfold scaleByThresholds at h
  split_ifs at h with hup hdown
  · exact .inl ⟨hup, (Prod.mk.inj h).1.symm⟩
  · exact .inr ⟨hup, hdown, (Prod.mk.inj h).1.symm⟩
  · cases h

/-- **Every scale request rests on the pass's own sample.** A pass that
changes the lifecycle state to anything but `PendingShutdown` found
autoscaling on and the cluster `Ready`, found the capacity annotations
holding exactly the counts it sampled, and the user pods' share of the user
capacity in that sample, in whole percent, was at least the scale-up
threshold (the state becomes `PendingScaleUp`), or below it and at most the
scale-down threshold (`PendingScaleDown`). -/
theorem scale_request_follows_sample
    (h : decideClusterUpdate env now S.toStats a = .ok (a', true))
    (hchange : a'.get .clusterState ≠ a.get .clusterState)
    (hnot : a'.get .clusterState ≠ navarkosClusterStatePendingShutdown) :
    scalingEnabled a ∧ Synced S a ∧ ∃ q,
      ((S.usedPods - S.systemPods) * 100).div? (S.capacityPods - S.systemPods) = some q ∧
      ((getAnnotationIntegerValue a .scaleUpCapacityThreshold
          env.navarkosDefaultClusterScaleUpCapacityThreshold ≤ q ∧
        a'.get .clusterState = navarkosClusterStatePendingScaleUp) ∨
      (q < getAnnotationIntegerValue a .scaleUpCapacityThreshold
          env.navarkosDefaultClusterScaleUpCapacityThreshold ∧
        q ≤ getAnnotationIntegerValue a .scaleDownCapacityThreshold
          env.navarkosClusterScaleDownCapacityThreshold ∧
        a'.get .clusterState = navarkosClusterStatePendingScaleDown)) := by
  cases decideClusterUpdate_changed h with
  | stats hs =>
    exact absurd (by simp [Annotations.get, updateClusterStats_apply_of_not_capacity a S (.inl rfl)])
      hchange
  | stamp | clear => exact absurd (by simp) hchange
  | expire => exact absurd (by simp) hnot
  | scale state hp hc hm hx =>
    rw [decideClusterUpdate_of_timers_decline ⟨hp, hc⟩ hm hx,
      markClusterForScalingIfPodsHitThresholds_eq] at h
    obtain ⟨hall, hcap, hused, hsys⟩ := (isStatsChanged_toStats_eq_false a S).mp hc
    by_cases hon : scalingEnabled a
    · rw [if_pos hon] at h
      rcases hq : usedOverCapacity? a with _ | q <;> rw [hq] at h
      · cases h
      refine ⟨hon, ⟨hp, hc⟩, q, by simpa [usedOverCapacity?, hcap, hused, hsys] using hq, ?_⟩
      rcases scaleByThresholds_eq_true (Except.ok.inj h) with ⟨hup, heq⟩ | ⟨hup, hdown, heq⟩ <;>
        rw [heq] at hchange ⊢
      · exact .inl ⟨hup, by simp⟩
      · exact .inr ⟨by rw [GoInt.le_def] at hup; rw [GoInt.lt_def]; omega, hdown, by simp⟩
    · rw [if_neg hon] at h
      simp at h


theorem scale_request_follows_sample_of_busy_cluster :
    let env : Env := .ofDefaults 1800 80 20
    let S : MetricsSnapshot := ⟨10, 10, 9, 1⟩
    let a : Annotations := updateClusterStats
      ((Annotations.empty.set .autoScale "true").set .clusterState navarkosClusterStateReady) S.toStats
    let a' : Annotations := a.set .clusterState navarkosClusterStatePendingScaleUp
    decideClusterUpdate env 0 S.toStats a = .ok (a', true) ∧
      a'.get .clusterState ≠ a.get .clusterState ∧
      a'.get .clusterState ≠ navarkosClusterStatePendingShutdown ∧
      scalingEnabled a ∧ Synced S a ∧ ∃ q,
        ((S.usedPods - S.systemPods) * 100).div? (S.capacityPods - S.systemPods) = some q ∧
        ((getAnnotationIntegerValue a .scaleUpCapacityThreshold
            env.navarkosDefaultClusterScaleUpCapacityThreshold ≤ q ∧
          a'.get .clusterState = navarkosClusterStatePendingScaleUp) ∨
        (q < getAnnotationIntegerValue a .scaleUpCapacityThreshold
            env.navarkosDefaultClusterScaleUpCapacityThreshold ∧
          q ≤ getAnnotationIntegerValue a .scaleDownCapacityThreshold
            env.navarkosClusterScaleDownCapacityThreshold ∧
          a'.get .clusterState = navarkosClusterStatePendingScaleDown)) := by
  intro env S a a'
  have h : decideClusterUpdate env 0 S.toStats a = .ok (a', true) := by
    have h' : (decideClusterUpdate env 0 S.toStats a).toOption = some (a', true) := by decide
    revert h'
    cases decideClusterUpdate env 0 S.toStats a <;> simp [Except.toOption]
  have hchange : a'.get .clusterState ≠ a.get .clusterState := by decide
  have hnot : a'.get .clusterState ≠ navarkosClusterStatePendingShutdown := by decide
  exact ⟨h, hchange, hnot, scale_request_follows_sample h hchange hnot⟩

/-- **A capacity equal to the system pod count crashes the second pass.**
`alpha` is ready, autoscaled and `Ready`, and its member cluster runs two
`kube-system` pods and one other on a capacity of two pods. The first pass
finds no capacity annotations and writes the sample; the second reads the
sample back, and the scaling rule divides by a user capacity of zero. -/
theorem second_pass_divides_by_zero :
    let annotations : Annotations :=
      (Annotations.empty.set .autoScale "true").set .clusterState navarkosClusterStateReady
    let alpha : Cluster := ⟨"alpha", none, [⟨clusterReady, conditionTrue⟩], annotations⟩
    let answers : ClusterAnswers := .ofPopulation (2, 2)
      [⟨"kube-system", .running⟩, ⟨"kube-system", .running⟩, ⟨"default", .running⟩]
    let world (stored : Cluster) (now : Int) : PassWorld :=
      ⟨.ok [stored], fun _ => ⟨.ok (some ⟨0⟩), .ok (some ⟨0⟩), answers, .ok stored, .ok (), now⟩⟩
    let env : Env := .ofDefaults 1800 80 20
    let first := updateClusterStatus env (world alpha 0) (newClusterController true)
    let written : Cluster := { alpha with
      annotations := updateClusterStats annotations (MetricsSnapshot.toStats ⟨2, 2, 3, 2⟩) }
    first.effects = [.updated written, .onClusterChange] ∧ first.panic = none ∧
      (updateClusterStatus env (world written 60) first.controller).panic =
        some .integerDivideByZero := by
  decide

end Passes

/-! ## The decision follows the load -/

/-- The outcomes of the scaling rule in the order of the load that leads to
them: `PendingScaleDown`, no change, `PendingScaleUp`. -/
def scalingRank (r : Annotations × Bool) : Nat :=
  if r.2 then if r.1.get .clusterState = navarkosClusterStatePendingScaleUp then 2 else 0 else 1

/-- The switch's rank is where the percentage falls against the thresholds,
whatever the map. -/
theorem scalingRank_scaleByThresholds (a : Annotations) (up down q : GoInt) :
    scalingRank (scaleByThresholds a up down q) = if up ≤ q then 2 else if q ≤ down then 0 else 1 := by
  unfold scaleByThresholds
  split_ifs <;> rfl

/-- The switch ranks a larger percentage at least as high. -/
theorem scalingRank_scaleByThresholds_le {a a' : Annotations} {up down q q' : GoInt}
    (h : q ≤ q') :
    scalingRank (scaleByThresholds a up down q) ≤ scalingRank (scaleByThresholds a' up down q') := by
  rw [scalingRank_scaleByThresholds, scalingRank_scaleByThresholds]
  simp only [GoInt.le_def] at h ⊢
  split_ifs <;> omega

/-- With a positive user capacity and a product that does not overflow, the
percentage is the truncated quotient of the exact numbers. -/
theorem percentage_eq_tdiv {usedPods usedSysPods capacityPods : GoInt}
    (hcap : 0 < (capacityPods - usedSysPods).val)
    (hlo : -2 ^ 63 ≤ (usedPods.val - usedSysPods.val) * 100)
    (hhi : (usedPods.val - usedSysPods.val) * 100 < 2 ^ 63) :
    ∃ q, ((usedPods - usedSysPods) * 100).div? (capacityPods - usedSysPods) = some q ∧
      q.val = ((usedPods.val - usedSysPods.val) * 100).tdiv (capacityPods - usedSysPods).val := by
  have hd : (usedPods - usedSysPods).val = usedPods.val - usedSysPods.val :=
    GoInt.sub_val (by omega) (by omega)
  have h100 : (100 : GoInt).val = 100 := rfl
  have hn : ((usedPods - usedSysPods) * 100).val = (usedPods.val - usedSysPods.val) * 100 := by
    rw [GoInt.mul_val (by rw [hd, h100]; omega) (by rw [hd, h100]; omega), hd, h100]
  cases hq : ((usedPods - usedSysPods) * 100).div? (capacityPods - usedSysPods) with
  | none => simp only [GoInt.div?_eq_none] at hq; omega
  | some q => exact ⟨q, rfl, by rw [GoInt.div?_val_of_pos hcap hq, hn]⟩

/-- **More used pods never lower the decision while the user capacity is
positive.** Take two maps that differ at most in `capacityUsedPods`, the
second reading at least as many used pods. If the user capacity
`capacityPods - usedSysPods` is positive and `(usedPods - usedSysPods) * 100`
does not overflow for either map, the rule completes on both, and the
second decision ranks at least as high as the first. -/
theorem scalingRank_mono_of_positive_user_capacity {env : Env} {a a' : Annotations}
    (hfix : ∀ k, k ≠ .capacityUsedPods → a' k = a k)
    (hu : getAnnotationIntegerValue a .capacityUsedPods 0 ≤
      getAnnotationIntegerValue a' .capacityUsedPods 0)
    (hcap : 0 < (getAnnotationIntegerValue a .capacityPods 0 -
      getAnnotationIntegerValue a .capacitySystemPods 0).val)
    (hlo : -2 ^ 63 ≤ ((getAnnotationIntegerValue a .capacityUsedPods 0).val -
      (getAnnotationIntegerValue a .capacitySystemPods 0).val) * 100)
    (hhi : ((getAnnotationIntegerValue a' .capacityUsedPods 0).val -
      (getAnnotationIntegerValue a .capacitySystemPods 0).val) * 100 < 2 ^ 63) :
    ∃ x x', markClusterForScalingIfPodsHitThresholds env a = .ok x ∧
      markClusterForScalingIfPodsHitThresholds env a' = .ok x' ∧ scalingRank x ≤ scalingRank x' := by
  have hread : ∀ k, k ≠ .capacityUsedPods → ∀ d,
      getAnnotationIntegerValue a' k d = getAnnotationIntegerValue a k d :=
    fun k hk => getAnnotationIntegerValue_congr (hfix k hk)
  have hen : scalingEnabled a' ↔ scalingEnabled a := by
    simp only [scalingEnabled, Annotations.get, hfix .autoScale (by decide),
      hfix .clusterState (by decide)]
  rw [GoInt.le_def] at hu
  obtain ⟨q, hq, hqv⟩ := percentage_eq_tdiv hcap hlo (by omega)
  obtain ⟨q', hq', hqv'⟩ :=
    @percentage_eq_tdiv (getAnnotationIntegerValue a' .capacityUsedPods 0) _ _ hcap (by omega) hhi
  have hle : q ≤ q' := by
    rw [GoInt.le_def, hqv, hqv']
    exact GoInt.tdiv_le_tdiv_of_pos hcap (by omega)
  rw [markClusterForScalingIfPodsHitThresholds_eq, markClusterForScalingIfPodsHitThresholds_eq]
  by_cases hon : scalingEnabled a
  · have hq₁ : usedOverCapacity? a = some q := hq
    have hq₂ : usedOverCapacity? a' = some q' := by
      simpa only [usedOverCapacity?, hread .capacityPods (by decide),
        hread .capacitySystemPods (by decide)] using hq'
    rw [if_pos hon, if_pos (hen.mpr hon), hq₁, hq₂, hread .scaleUpCapacityThreshold (by decide),
      hread .scaleDownCapacityThreshold (by decide)]
    exact ⟨_, _, rfl, rfl, scalingRank_scaleByThresholds_le hle⟩
  · rw [if_neg hon, if_neg (mt hen.mp hon)]
    exact ⟨_, _, rfl, rfl, le_rfl⟩

theorem scalingRank_mono_of_positive_user_capacity_of_spec_example :
    let a : Annotations := (((Annotations.empty.set .autoScale "true").set .clusterState
      navarkosClusterStateReady).set .capacityPods "100").set .capacitySystemPods "10"
    (∀ k, k ≠ .capacityUsedPods →
      (a.set .capacityUsedPods "91") k = (a.set .capacityUsedPods "19") k) ∧
    getAnnotationIntegerValue (a.set .capacityUsedPods "19") .capacityUsedPods 0 ≤
      getAnnotationIntegerValue (a.set .capacityUsedPods "91") .capacityUsedPods 0 ∧
    0 < (getAnnotationIntegerValue (a.set .capacityUsedPods "19") .capacityPods 0 -
      getAnnotationIntegerValue (a.set .capacityUsedPods "19") .capacitySystemPods 0).val ∧
    -2 ^ 63 ≤ ((getAnnotationIntegerValue (a.set .capacityUsedPods "19") .capacityUsedPods 0).val -
      (getAnnotationIntegerValue (a.set .capacityUsedPods "19") .capacitySystemPods 0).val) * 100 ∧
    ((getAnnotationIntegerValue (a.set .capacityUsedPods "91") .capacityUsedPods 0).val -
      (getAnnotationIntegerValue (a.set .capacityUsedPods "19") .capacitySystemPods 0).val) * 100 <
        2 ^ 63 ∧
    ∃ x x', markClusterForScalingIfPodsHitThresholds (.ofDefaults 1800 80 20)
        (a.set .capacityUsedPods "19") = .ok x ∧
      markClusterForScalingIfPodsHitThresholds (.ofDefaults 1800 80 20)
        (a.set .capacityUsedPods "91") = .ok x' ∧ scalingRank x ≤ scalingRank x' := by
  intro a
  refine ⟨?hfix, ?hu, ?hcap, ?hlo, ?hhi,
    scalingRank_mono_of_positive_user_capacity ?hfix ?hu ?hcap ?hlo ?hhi⟩ <;> decide

/-- With more system pods than capacity the user capacity is negative, and
the truncated quotient falls as the used pods grow. On a capacity of one pod
with two system pods, one used pod reads as 100 % and marks the cluster for
scaling up; two used pods read as 0 % and mark it for scaling down. -/
theorem scaling_reverses_on_negative_user_capacity :
    let a : Annotations := (((Annotations.empty.set .autoScale "true").set .clusterState
      navarkosClusterStateReady).set .capacityPods "1").set .capacitySystemPods "2"
    let env : Env := .ofDefaults 1800 80 20
    scalingEnabled a ∧
      getAnnotationIntegerValue (a.set .capacityUsedPods "1") .capacityUsedPods 0 ≤
        getAnnotationIntegerValue (a.set .capacityUsedPods "2") .capacityUsedPods 0 ∧
      markClusterForScalingIfPodsHitThresholds env (a.set .capacityUsedPods "1") =
        .ok ((a.set .capacityUsedPods "1").set .clusterState navarkosClusterStatePendingScaleUp,
          true) ∧
      markClusterForScalingIfPodsHitThresholds env (a.set .capacityUsedPods "2") =
        .ok ((a.set .capacityUsedPods "2").set .clusterState navarkosClusterStatePendingScaleDown,
          true) ∧
      scalingRank ((a.set .capacityUsedPods "2").set .clusterState
          navarkosClusterStatePendingScaleDown, true) <
        scalingRank ((a.set .capacityUsedPods "1").set .clusterState
          navarkosClusterStatePendingScaleUp, true) :=
  ⟨by decide, by decide, rfl, rfl, by decide⟩

end Navarkos
