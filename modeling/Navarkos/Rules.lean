import Navarkos.Cluster

/-!
# The annotation rules of a stats pass

For a ready cluster whose stats were sampled, `UpdateClusterStatus`
(lines 323-342) decides in one go whether the cluster's annotations change:

1. if a capacity annotation is missing, write all four from the sample and
   stop;
2. otherwise rewrite them when the sample differs (`isStatsChanged`), then
   accumulate `updateCluster = updateCluster || rule(cluster)` over
   `markClusterToShutDownIfNoPods`, `shutDownClusterIfTTLExpired` and
   `markClusterForScalingIfPodsHitThresholds`.

Go's `||` does not evaluate its right operand once the left one is `true`, so
the first rule that changes the map is the last one evaluated in the pass:
`orRule` renders that. `decideClusterUpdate` is the whole decision, with the
integer division of the scaling rule able to panic.

The scaling rule is also written as its gate, percentage and switch
(`scalingEnabled`, `usedOverCapacity?`, `scaleByThresholds`), and
`markClusterForScalingIfPodsHitThresholds_eq` ties them to the rule.

The last section states, once, everything a pass that reports a change can
have done (`decideClusterUpdate_changed`), and that a pass reporting no
change leaves the map alone (`decideClusterUpdate_unchanged`); the results
over runs of passes are derived from these two lemmas.
-/

namespace Navarkos

/-- A `map[string]int` of cluster stats, as its entries in iteration order. -/
def ClusterStats : Type := List (AnnotationKey × GoInt)

instance : DecidableEq ClusterStats := inferInstanceAs (DecidableEq (List (AnnotationKey × GoInt)))

/-- The four numbers `getClusterStats` samples. -/
structure MetricsSnapshot where
  allocatablePods : GoInt
  capacityPods : GoInt
  usedPods : GoInt
  systemPods : GoInt
deriving DecidableEq

/-- The map `getClusterStats` builds from its samples. -/
def MetricsSnapshot.toStats (s : MetricsSnapshot) : ClusterStats :=
  [(.capacityAllocatablePods, s.allocatablePods), (.capacityPods, s.capacityPods),
    (.capacityUsedPods, s.usedPods), (.capacitySystemPods, s.systemPods)]

/-- `isStatsChanged`: some sampled value differs from its annotation. -/
def isStatsChanged (newStats : ClusterStats) (a : Annotations) : Bool :=
  newStats.any fun (metricName, newValue) => getAnnotationIntegerValue a metricName 0 != newValue

/-- `updateClusterStats`: write every sampled value with `strconv.Itoa`. -/
def updateClusterStats (a : Annotations) (stats : ClusterStats) : Annotations :=
  stats.foldl (fun a (metricName, value) => a.set metricName (itoa value)) a

/-- `markClusterToShutDownIfNoPods`: start the idle timer of a ready cluster
that runs only system pods, or cancel a running timer once user pods exist. -/
def markClusterToShutDownIfNoPods (env : Env) (now : Int) (a : Annotations) :
    Annotations × Bool :=
  let usedPods := getAnnotationIntegerValue a .capacityUsedPods 0
  let usedPodsSystemNS := getAnnotationIntegerValue a .capacitySystemPods 0
  if usedPods = usedPodsSystemNS then
    match a .shutdownStartTime with
    | none =>
      if a.get .clusterState = navarkosClusterStateReady then
        (a.set .shutdownStartTime (env.formatUnixDate now), true)
      else (a, false)
    | some _ => (a, false)
  else
    match a .shutdownStartTime with
    | some _ => (a.erase .shutdownStartTime, true)
    | none => (a, false)

/-- Go's `maxDuration`, the longest `time.Duration`: `2^63 - 1` nanoseconds. -/
def maxDuration : Int := 2 ^ 63 - 1

/-- Go's `minDuration`: `-2^63` nanoseconds. -/
def minDuration : Int := -2 ^ 63

/-- `time.Since(start)` on whole-second clocks, in nanoseconds: `Time.Sub`
returns the difference when it fits in a `Duration`, and the nearer extreme
when it does not. -/
def timeSince (now start : Int) : Int :=
  let d := (now - start) * 1000000000
  if d < minDuration then minDuration else if maxDuration < d then maxDuration else d

/-- `int(d.Seconds())`: the duration in whole seconds, the fraction cut off
toward zero. `Seconds` adds the fraction as a `float64`; on the durations
`timeSince` returns, whole seconds or an extreme, that sum truncates to the
quotient. -/
def durationSeconds (d : Int) : Int := d.tdiv 1000000000

/-- The timer test of `shutDownClusterIfTTLExpired`: the start time parses,
the time-to-live is positive, and `int(time.Since(start).Seconds())` has
reached it. -/
def ttlExpired (env : Env) (now : Int) (a : Annotations) : Bool :=
  match a .shutdownStartTime with
  | some clusterShutdownStartTimeInString =>
    match env.parseUnixDate clusterShutdownStartTimeInString with
    | some clusterShutdownStartTime =>
      let clusterTimeToLiveBeforeShutdown := getAnnotationIntegerValue a .timeToLiveBeforeShutdown
        env.navarkosDefaultClusterTimeToLiveBeforeShutdown
      decide (0 < clusterTimeToLiveBeforeShutdown.val ∧
        clusterTimeToLiveBeforeShutdown.val ≤
          durationSeconds (timeSince now clusterShutdownStartTime))
    | none => false
  | none => false

/-- `shutDownClusterIfTTLExpired`: once the timer has run out, mark the
cluster `PendingShutdown` and remove the timer. -/
def shutDownClusterIfTTLExpired (env : Env) (now : Int) (a : Annotations) :
    Annotations × Bool :=
  if ttlExpired env now a then
    ((a.set .clusterState navarkosClusterStatePendingShutdown).erase .shutdownStartTime, true)
  else (a, false)

/-- `markClusterForScalingIfPodsHitThresholds`: for a ready cluster with
autoscaling on, compare the user pods' share of the user capacity (in whole
percent, Go's truncating division) with the two thresholds. -/
def markClusterForScalingIfPodsHitThresholds (env : Env) (a : Annotations) :
    Except GoPanic (Annotations × Bool) :=
  let usedPods := getAnnotationIntegerValue a .capacityUsedPods 0
  let usedSysPods := getAnnotationIntegerValue a .capacitySystemPods 0
  let capacityPods := getAnnotationIntegerValue a .capacityPods 0
  match a .autoScale with
  | none => .ok (a, false)
  | some autoScaleEnabledStr =>
    if parseBool autoScaleEnabledStr ≠ some true then .ok (a, false)
    else if a.get .clusterState = navarkosClusterStateReady then
      let scaleUpCapacityThreshold := getAnnotationIntegerValue a .scaleUpCapacityThreshold
        env.navarkosDefaultClusterScaleUpCapacityThreshold
      let scaleDownCapacityThreshold := getAnnotationIntegerValue a .scaleDownCapacityThreshold
        env.navarkosClusterScaleDownCapacityThreshold
      let userPods := usedPods - usedSysPods
      let userCapacityPods := capacityPods - usedSysPods
      match (userPods * 100).div? userCapacityPods with
      | none => .error .integerDivideByZero
      | some usedOverCapacity =>
        if scaleUpCapacityThreshold ≤ usedOverCapacity then
          .ok (a.set .clusterState navarkosClusterStatePendingScaleUp, true)
        else if usedOverCapacity ≤ scaleDownCapacityThreshold then
          .ok (a.set .clusterState navarkosClusterStatePendingScaleDown, true)
        else .ok (a, false)
    else .ok (a, false)

/-- Lines 329-338 of `UpdateClusterStatus`, the stats step: write the sample
when a capacity annotation is missing or a sampled value differs from its
annotation, and report whether it wrote. -/
def updateStatsIfStale (newStats : ClusterStats) (a : Annotations) : Annotations × Bool :=
  if isCapacityDataPresent a then
    if isStatsChanged newStats a then (updateClusterStats a newStats, true) else (a, false)
  else (updateClusterStats a newStats, true)

/-- Go's `updateCluster = updateCluster || rule(cluster)`: the rule runs only
while nothing has changed. -/
def orRule (r : Annotations × Bool) (rule : Annotations → Annotations × Bool) :
    Annotations × Bool :=
  if r.2 then r else rule r.1

/-- Lines 323-342 of `UpdateClusterStatus`: the new annotation map and the
`updateCluster` flag. -/
def decideClusterUpdate (env : Env) (now : Int) (newStats : ClusterStats) (a : Annotations) :
    Except GoPanic (Annotations × Bool) :=
  if isCapacityDataPresent a then
    let r := if isStatsChanged newStats a then (updateClusterStats a newStats, true) else (a, false)
    let r := orRule r (markClusterToShutDownIfNoPods env now)
    let r := orRule r (shutDownClusterIfTTLExpired env now)
    if r.2 then .ok r else markClusterForScalingIfPodsHitThresholds env r.1
  else .ok (updateClusterStats a newStats, true)

/-! ## The scaling rule, factored

The rule is a gate, a percentage and a switch;
`markClusterForScalingIfPodsHitThresholds_eq` says that it is exactly their
composition. -/

/-- The rule's gate: `autoScale` parses as true and the lifecycle state is
`Ready`. -/
def scalingEnabled (a : Annotations) : Prop :=
  (a .autoScale).bind parseBool = some true ∧ a.get .clusterState = navarkosClusterStateReady

instance (a : Annotations) : Decidable (scalingEnabled a) :=
  inferInstanceAs (Decidable (_ ∧ _))

/-- The rule's `usedOverCapacity`, read from the annotations; `none` is the
division by a zero user capacity. -/
def usedOverCapacity? (a : Annotations) : Option GoInt :=
  let usedPods := getAnnotationIntegerValue a .capacityUsedPods 0
  let usedSysPods := getAnnotationIntegerValue a .capacitySystemPods 0
  let capacityPods := getAnnotationIntegerValue a .capacityPods 0
  ((usedPods - usedSysPods) * 100).div? (capacityPods - usedSysPods)

/-- The rule's `switch` on the two thresholds, scale-up tested first. -/
def scaleByThresholds (a : Annotations)
    (scaleUpCapacityThreshold scaleDownCapacityThreshold usedOverCapacity : GoInt) :
    Annotations × Bool :=
  if scaleUpCapacityThreshold ≤ usedOverCapacity then
    (a.set .clusterState navarkosClusterStatePendingScaleUp, true)
  else if usedOverCapacity ≤ scaleDownCapacityThreshold then
    (a.set .clusterState navarkosClusterStatePendingScaleDown, true)
  else (a, false)

/-! ## The snapshot map -/

section Lemmas

variable {env : Env} {now : Int} {newStats : ClusterStats} {a a' : Annotations}

@[simp] theorem updateClusterStats_toStats (a : Annotations) (S : MetricsSnapshot) :
    updateClusterStats a S.toStats =
      (((a.set .capacityAllocatablePods (itoa S.allocatablePods)).set .capacityPods
        (itoa S.capacityPods)).set .capacityUsedPods (itoa S.usedPods)).set .capacitySystemPods
        (itoa S.systemPods) := rfl

theorem isStatsChanged_toStats_eq_false (a : Annotations) (S : MetricsSnapshot) :
    isStatsChanged S.toStats a = false ↔
      getAnnotationIntegerValue a .capacityAllocatablePods 0 = S.allocatablePods ∧
      getAnnotationIntegerValue a .capacityPods 0 = S.capacityPods ∧
      getAnnotationIntegerValue a .capacityUsedPods 0 = S.usedPods ∧
      getAnnotationIntegerValue a .capacitySystemPods 0 = S.systemPods := by
  simp [isStatsChanged, MetricsSnapshot.toStats]

/-- After the stats write the annotations agree with the sample: the pass
reads back exactly what it wrote. -/
theorem isStatsChanged_updateClusterStats (a : Annotations) (S : MetricsSnapshot) :
    isStatsChanged S.toStats (updateClusterStats a S.toStats) = false := by
  simp [isStatsChanged_toStats_eq_false]

/-- The nil map on a map missing a capacity annotation reports a change and
writes nothing. -/
theorem decideClusterUpdate_nil_of_absent {env : Env} {now : Int} {a : Annotations}
    (h : isCapacityDataPresent a = false) : decideClusterUpdate env now [] a = .ok (a, true) := by
  simp [decideClusterUpdate, h, updateClusterStats]

/-- **The stats step reads back the sample.** Whatever the map and the
sampled `int`s, after the stats step each capacity annotation reads (with
default 0) as the sampled value, whether the step wrote or found the values
current; in particular a written sample never reads as changed, since
`strconv.Atoi` undoes `strconv.Itoa` on every `int`. -/
theorem updateStatsIfStale_reads_back_sample (a : Annotations) (S : MetricsSnapshot) :
    getAnnotationIntegerValue (updateStatsIfStale S.toStats a).1 .capacityAllocatablePods 0 =
        S.allocatablePods ∧
      getAnnotationIntegerValue (updateStatsIfStale S.toStats a).1 .capacityPods 0 =
        S.capacityPods ∧
      getAnnotationIntegerValue (updateStatsIfStale S.toStats a).1 .capacityUsedPods 0 =
        S.usedPods ∧
      getAnnotationIntegerValue (updateStatsIfStale S.toStats a).1 .capacitySystemPods 0 =
        S.systemPods ∧
      isStatsChanged S.toStats (updateClusterStats a S.toStats) = false := by
  have hstep : isStatsChanged S.toStats (updateStatsIfStale S.toStats a).1 = false := by
    unfold updateStatsIfStale
    split_ifs with _ hc
    · exact isStatsChanged_updateClusterStats a S
    · simpa using hc
    · exact isStatsChanged_updateClusterStats a S
  obtain ⟨h₁, h₂, h₃, h₄⟩ := (isStatsChanged_toStats_eq_false _ S).mp hstep
  exact ⟨h₁, h₂, h₃, h₄, isStatsChanged_updateClusterStats a S⟩

theorem isCapacityDataPresent_updateClusterStats (a : Annotations) (S : MetricsSnapshot) :
    isCapacityDataPresent (updateClusterStats a S.toStats) = true := by
  simp [isCapacityDataPresent]

/-- The stats write touches the capacity keys only. -/
theorem updateClusterStats_apply_of_not_capacity (a : Annotations) (S : MetricsSnapshot)
    {k : AnnotationKey} (hk : k = .clusterState ∨ k = .shutdownStartTime ∨
      k = .timeToLiveBeforeShutdown ∨ k = .autoScale ∨ k = .scaleUpCapacityThreshold ∨
      k = .scaleDownCapacityThreshold) :
    updateClusterStats a S.toStats k = a k := by
  rcases hk with rfl | rfl | rfl | rfl | rfl | rfl <;> simp

/-! ## One lemma per rule -/

theorem markClusterToShutDownIfNoPods_cases (env : Env) (now : Int) (a : Annotations) :
    markClusterToShutDownIfNoPods env now a = (a, false) ∨
    (getAnnotationIntegerValue a .capacityUsedPods 0 =
        getAnnotationIntegerValue a .capacitySystemPods 0 ∧
      a .shutdownStartTime = none ∧ a.get .clusterState = navarkosClusterStateReady ∧
      markClusterToShutDownIfNoPods env now a =
        (a.set .shutdownStartTime (env.formatUnixDate now), true)) ∨
    (getAnnotationIntegerValue a .capacityUsedPods 0 ≠
        getAnnotationIntegerValue a .capacitySystemPods 0 ∧
      (a .shutdownStartTime).isSome ∧
      markClusterToShutDownIfNoPods env now a = (a.erase .shutdownStartTime, true)) := by
  unfold markClusterToShutDownIfNoPods
  by_cases hu : getAnnotationIntegerValue a .capacityUsedPods 0 =
      getAnnotationIntegerValue a .capacitySystemPods 0 <;>
    by_cases hr : a.get .clusterState = navarkosClusterStateReady <;>
    cases ht : a .shutdownStartTime <;> simp [hu, hr, ht]

theorem markClusterToShutDownIfNoPods_of_false (h : (markClusterToShutDownIfNoPods env now a).2 = false) :
    markClusterToShutDownIfNoPods env now a = (a, false) := by
  rcases markClusterToShutDownIfNoPods_cases env now a with h' | ⟨-, -, -, h'⟩ | ⟨-, -, h'⟩ <;>
    simp_all

theorem shutDownClusterIfTTLExpired_of_false (h : ttlExpired env now a = false) :
    shutDownClusterIfTTLExpired env now a = (a, false) := by
  simp [shutDownClusterIfTTLExpired, h]

theorem shutDownClusterIfTTLExpired_of_true (h : ttlExpired env now a = true) :
    shutDownClusterIfTTLExpired env now a =
      ((a.set .clusterState navarkosClusterStatePendingShutdown).erase .shutdownStartTime, true) := by
  simp [shutDownClusterIfTTLExpired, h]

/-- The scaling rule is its gate, then the percentage, then the switch; the
percentage's `none` is the division-by-zero panic. -/
theorem markClusterForScalingIfPodsHitThresholds_eq (env : Env) (a : Annotations) :
    markClusterForScalingIfPodsHitThresholds env a =
      if scalingEnabled a then
        match usedOverCapacity? a with
        | none => .error .integerDivideByZero
        | some usedOverCapacity =>
          .ok (scaleByThresholds a
            (getAnnotationIntegerValue a .scaleUpCapacityThreshold
              env.navarkosDefaultClusterScaleUpCapacityThreshold)
            (getAnnotationIntegerValue a .scaleDownCapacityThreshold
              env.navarkosClusterScaleDownCapacityThreshold)
            usedOverCapacity)
      else .ok (a, false) := by
  unfold markClusterForScalingIfPodsHitThresholds
  split
  next hauto => rw [if_neg (by simp [scalingEnabled, hauto])]
  next autoScaleEnabledStr hauto =>
    by_cases hon : parseBool autoScaleEnabledStr ≠ some true
    · rw [if_pos hon, if_neg fun h => hon (by simpa [hauto] using h.1)]
    by_cases hready : a.get .clusterState = navarkosClusterStateReady
    · have hen : scalingEnabled a := ⟨by simpa [hauto] using hon, hready⟩
      rw [if_neg hon, if_pos hready, if_pos hen]
      rcases hq : usedOverCapacity? a with _ | usedOverCapacity <;>
        simp only [usedOverCapacity?] at hq <;> simp only [hq, scaleByThresholds]
      split_ifs <;> rfl
    · rw [if_neg hon, if_neg hready, if_neg fun h => hready h.2]

/-- Everything the scaling rule can do: nothing, or, on a ready cluster, mark
it for scaling up or down, or panic. -/
theorem markClusterForScalingIfPodsHitThresholds_cases (env : Env) (a : Annotations) :
    markClusterForScalingIfPodsHitThresholds env a = .ok (a, false) ∨
      a.get .clusterState = navarkosClusterStateReady ∧
        ((∃ state, (state = navarkosClusterStatePendingScaleUp ∨
            state = navarkosClusterStatePendingScaleDown) ∧
          markClusterForScalingIfPodsHitThresholds env a = .ok (a.set .clusterState state, true)) ∨
        markClusterForScalingIfPodsHitThresholds env a = .error .integerDivideByZero) := by
  rw [markClusterForScalingIfPodsHitThresholds_eq]
  by_cases hon : scalingEnabled a
  · rw [if_pos hon]
    cases usedOverCapacity? a with
    | none => exact .inr ⟨hon.2, .inr rfl⟩
    | some usedOverCapacity =>
      dsimp only [scaleByThresholds]
      split_ifs
      · exact .inr ⟨hon.2, .inl ⟨_, .inl rfl, rfl⟩⟩
      · exact .inr ⟨hon.2, .inl ⟨_, .inr rfl, rfl⟩⟩
      · exact .inl rfl
  · rw [if_neg hon]
    exact .inl rfl

theorem markClusterForScalingIfPodsHitThresholds_of_false
    (h : markClusterForScalingIfPodsHitThresholds env a = .ok (a', false)) : a' = a := by
  rcases markClusterForScalingIfPodsHitThresholds_cases env a with
    h' | ⟨-, ⟨_, -, h'⟩ | h'⟩ <;> rw [h'] at h <;> cases h
  rfl

theorem markClusterForScalingIfPodsHitThresholds_of_true
    (h : markClusterForScalingIfPodsHitThresholds env a = .ok (a', true)) :
    a.get .clusterState = navarkosClusterStateReady ∧ ∃ state,
      (state = navarkosClusterStatePendingScaleUp ∨ state = navarkosClusterStatePendingScaleDown) ∧
      a' = a.set .clusterState state := by
  rcases markClusterForScalingIfPodsHitThresholds_cases env a with
    h' | ⟨hready, ⟨state, hs, h'⟩ | h'⟩ <;> rw [h'] at h <;> cases h
  exact ⟨hready, state, hs, rfl⟩

/-- The scaling rule panics only on a ready cluster. -/
theorem markClusterForScalingIfPodsHitThresholds_of_error {p : GoPanic}
    (h : markClusterForScalingIfPodsHitThresholds env a = .error p) :
    a.get .clusterState = navarkosClusterStateReady := by
  rcases markClusterForScalingIfPodsHitThresholds_cases env a with
    h' | ⟨hready, ⟨_, -, h'⟩ | -⟩ <;> first | exact hready | (rw [h'] at h; cases h)

theorem durationSeconds_maxDuration : durationSeconds maxDuration = 9223372036 := by decide

theorem durationSeconds_minDuration : durationSeconds minDuration = -9223372036 := by decide

/-- The seconds since `start` are the clock difference, held within about
292 years either way. -/
theorem durationSeconds_timeSince (now start : Int) :
    durationSeconds (timeSince now start) =
      max (durationSeconds minDuration) (min (now - start) (durationSeconds maxDuration)) := by
  rw [durationSeconds_maxDuration, durationSeconds_minDuration]
  dsimp only [timeSince]
  split_ifs with h₁ h₂
  · rw [durationSeconds_minDuration]; simp only [minDuration] at h₁; omega
  · rw [durationSeconds_maxDuration]; simp only [maxDuration] at h₂; omega
  · rw [durationSeconds, Int.mul_tdiv_cancel _ (by decide)]
    simp only [minDuration, maxDuration] at h₁ h₂; omega

/-- The timer test reads the start time and the time-to-live only. -/
theorem ttlExpired_congr (h₁ : a' .shutdownStartTime = a .shutdownStartTime)
    (h₂ : a' .timeToLiveBeforeShutdown = a .timeToLiveBeforeShutdown) :
    ttlExpired env now a' = ttlExpired env now a := by
  simp only [ttlExpired, h₁, getAnnotationIntegerValue_congr h₂]

/-! ## What a pass can do -/

/-- Everything a pass that reports a change can have done to the map, with
the guards under which it does it. -/
inductive Rewrite (env : Env) (now : Int) (newStats : ClusterStats) (a : Annotations) :
    Annotations → Prop
  /-- Capacity annotations missing or stale: all four rewritten. -/
  | stats : (isCapacityDataPresent a = false ∨ isStatsChanged newStats a = true) →
      Rewrite env now newStats a (updateClusterStats a newStats)
  /-- Only system pods run on a ready cluster: the idle timer starts. -/
  | stamp : isCapacityDataPresent a = true → isStatsChanged newStats a = false →
      getAnnotationIntegerValue a .capacityUsedPods 0 =
        getAnnotationIntegerValue a .capacitySystemPods 0 →
      a .shutdownStartTime = none → a.get .clusterState = navarkosClusterStateReady →
      Rewrite env now newStats a (a.set .shutdownStartTime (env.formatUnixDate now))
  /-- User pods run: the idle timer is cancelled. -/
  | clear : isCapacityDataPresent a = true → isStatsChanged newStats a = false →
      getAnnotationIntegerValue a .capacityUsedPods 0 ≠
        getAnnotationIntegerValue a .capacitySystemPods 0 →
      (a .shutdownStartTime).isSome = true →
      Rewrite env now newStats a (a.erase .shutdownStartTime)
  /-- The idle timer ran out: shutdown is pending. -/
  | expire : isCapacityDataPresent a = true → isStatsChanged newStats a = false →
      markClusterToShutDownIfNoPods env now a = (a, false) → ttlExpired env now a = true →
      Rewrite env now newStats a
        ((a.set .clusterState navarkosClusterStatePendingShutdown).erase .shutdownStartTime)
  /-- A threshold was hit: scaling is pending. -/
  | scale (state : String) : isCapacityDataPresent a = true → isStatsChanged newStats a = false →
      markClusterToShutDownIfNoPods env now a = (a, false) → ttlExpired env now a = false →
      a.get .clusterState = navarkosClusterStateReady →
      (state = navarkosClusterStatePendingScaleUp ∨ state = navarkosClusterStatePendingScaleDown) →
      Rewrite env now newStats a (a.set .clusterState state)

/-- With the capacity annotations present and current, the pass is the rule
chain. -/
theorem decideClusterUpdate_of_synced (hp : isCapacityDataPresent a = true)
    (hc : isStatsChanged newStats a = false) :
    decideClusterUpdate env now newStats a =
      let r := orRule (markClusterToShutDownIfNoPods env now a) (shutDownClusterIfTTLExpired env now)
      if r.2 then .ok r else markClusterForScalingIfPodsHitThresholds env r.1 := by
  simp [decideClusterUpdate, hp, hc, orRule]

theorem decideClusterUpdate_changed
    (h : decideClusterUpdate env now newStats a = .ok (a', true)) :
    Rewrite env now newStats a a' := by
  cases hp : isCapacityDataPresent a
  · simp only [decideClusterUpdate, hp] at h
    cases h
    exact .stats (.inl hp)
  cases hc : isStatsChanged newStats a
  case true =>
    simp only [decideClusterUpdate, hp, hc, orRule, if_true] at h
    cases h
    exact .stats (.inr hc)
  rw [decideClusterUpdate_of_synced hp hc] at h
  rcases markClusterToShutDownIfNoPods_cases env now a with hm | ⟨hu, ht, hr, hm⟩ | ⟨hu, ht, hm⟩
  · cases hx : ttlExpired env now a
    · simp only [hm, orRule, shutDownClusterIfTTLExpired_of_false hx] at h
      obtain ⟨hr, state, hs, rfl⟩ := markClusterForScalingIfPodsHitThresholds_of_true h
      exact .scale state hp hc hm hx hr hs
    · simp only [hm, orRule, shutDownClusterIfTTLExpired_of_true hx] at h
      cases h
      exact .expire hp hc hm hx
  · simp only [hm, orRule, if_true] at h
    cases h
    exact .stamp hp hc hu ht hr
  · simp only [hm, orRule, if_true] at h
    cases h
    exact .clear hp hc hu ht

/-- A pass that reports no change leaves the map as it was. -/
theorem decideClusterUpdate_unchanged
    (h : decideClusterUpdate env now newStats a = .ok (a', false)) : a' = a := by
  cases hp : isCapacityDataPresent a
  · simp [decideClusterUpdate, hp] at h
  cases hc : isStatsChanged newStats a
  case true => simp [decideClusterUpdate, hp, hc, orRule] at h
  rw [decideClusterUpdate_of_synced hp hc] at h
  rcases markClusterToShutDownIfNoPods_cases env now a with hm | ⟨-, -, -, hm⟩ | ⟨-, -, hm⟩
  · cases hx : ttlExpired env now a
    · simp only [hm, orRule, shutDownClusterIfTTLExpired_of_false hx] at h
      exact markClusterForScalingIfPodsHitThresholds_of_false h
    · simp [hm, orRule, shutDownClusterIfTTLExpired_of_true hx] at h
  all_goals simp [hm, orRule] at h

/-- A pass panics only in the scaling rule: on a ready cluster whose
capacity annotations hold the sample, when neither timer rule fired. -/
theorem decideClusterUpdate_error {p : GoPanic}
    (h : decideClusterUpdate env now newStats a = .error p) :
    isCapacityDataPresent a = true ∧ isStatsChanged newStats a = false ∧
      markClusterToShutDownIfNoPods env now a = (a, false) ∧ ttlExpired env now a = false ∧
      a.get .clusterState = navarkosClusterStateReady := by
  cases hp : isCapacityDataPresent a
  · simp [decideClusterUpdate, hp] at h
  cases hc : isStatsChanged newStats a
  case true => simp [decideClusterUpdate, hp, hc, orRule] at h
  rw [decideClusterUpdate_of_synced hp hc] at h
  rcases markClusterToShutDownIfNoPods_cases env now a with hm | ⟨-, -, -, hm⟩ | ⟨-, -, hm⟩
  · cases hx : ttlExpired env now a
    · simp only [hm, orRule, shutDownClusterIfTTLExpired_of_false hx] at h
      exact ⟨rfl, rfl, hm, rfl, markClusterForScalingIfPodsHitThresholds_of_error h⟩
    · simp [hm, orRule, shutDownClusterIfTTLExpired_of_true hx] at h
  all_goals simp [hm, orRule] at h

end Lemmas

end Navarkos
