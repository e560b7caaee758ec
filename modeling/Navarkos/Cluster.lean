import Mathlib.Tactic.DeriveFintype
import Mathlib.Logic.Function.Basic
import Navarkos.GoInt

/-!
# Clusters and their annotations

A federated cluster, as far as the controller reads it: its name, the
deletion timestamp (only whether it is set matters), the condition list that
decides readiness, and the annotation map. Annotations are the only lifecycle
state the controller persists.

The annotation keys and lifecycle-state values are string constants of the
package `common`, which is not part of the sources. Each key the controller
reads or writes is a constructor of `AnnotationKey`; the map is a total
function from keys to optional values, so that writing `m[k] = v` is
`Function.update m k (some v)` and `delete(m, k)` is
`Function.update m k none`. Annotations under other keys are never read or
written by the controller and are left out.

`Env` collects what the rules read besides the cluster: the default
time-to-live and thresholds of `common`, and the `time.UnixDate` text format,
of which the rules rely on one law only: parsing a formatted whole-second
instant gives it back.
-/

namespace Navarkos

/-- Modelled from the spec: the annotation keys of package `common`, one
constructor per distinct key string. -/
inductive AnnotationKey where
  | clusterState
  | capacityAllocatablePods
  | capacityPods
  | capacityUsedPods
  | capacitySystemPods
  | shutdownStartTime
  | timeToLiveBeforeShutdown
  | autoScale
  | scaleUpCapacityThreshold
  | scaleDownCapacityThreshold
deriving DecidableEq, Fintype, Repr

/-! ## Lifecycle states

Modelled from the spec: the values of the lifecycle-state annotation. -/

def navarkosClusterStateReady : String := "Ready"
def navarkosClusterStateOffline : String := "Offline"
def navarkosClusterStatePendingScaleUp : String := "PendingScaleUp"
def navarkosClusterStateScalingUp : String := "ScalingUp"
def navarkosClusterStatePendingScaleDown : String := "PendingScaleDown"
def navarkosClusterStateScalingDown : String := "ScalingDown"
def navarkosClusterStatePendingShutdown : String := "PendingShutdown"

/-- A cluster's annotation map. -/
def Annotations : Type := AnnotationKey → Option String

instance : DecidableEq Annotations := inferInstanceAs (DecidableEq (AnnotationKey → Option String))

namespace Annotations

/-- `m[k] = v`. -/
def set (m : Annotations) (k : AnnotationKey) (v : String) : Annotations :=
  Function.update m k (some v)

/-- `delete(m, k)`. -/
def erase (m : Annotations) (k : AnnotationKey) : Annotations :=
  Function.update m k none

/-- `m[k]`, which reads `""` for an absent key. -/
def get (m : Annotations) (k : AnnotationKey) : String := (m k).getD ""

/-- The empty map. -/
def empty : Annotations := fun _ => none

@[simp] theorem set_apply (m : Annotations) (k k' : AnnotationKey) (v : String) :
    m.set k v k' = if k' = k then some v else m k' := by
  simp [set, Function.update_apply]

@[simp] theorem erase_apply (m : Annotations) (k k' : AnnotationKey) :
    m.erase k k' = if k' = k then none else m k' := by
  simp [erase, Function.update_apply]

@[simp] theorem empty_apply (k : AnnotationKey) : empty k = none := rfl

@[ext] theorem ext {m m' : Annotations} (h : ∀ k, m k = m' k) : m = m' := funext h

@[simp] theorem get_set (m : Annotations) (k k' : AnnotationKey) (v : String) :
    (m.set k v).get k' = if k' = k then v else m.get k' := by
  by_cases h : k' = k <;> simp [get, h]

@[simp] theorem get_erase (m : Annotations) (k k' : AnnotationKey) :
    (m.erase k).get k' = if k' = k then "" else m.get k' := by
  by_cases h : k' = k <;> simp [get, h]

end Annotations

/-- One entry of a cluster's condition list (`v1beta1.ClusterCondition`). -/
structure ClusterCondition where
  conditionType : String
  status : String
deriving DecidableEq, Repr

/-- Modelled from the spec: `v1beta1.ClusterReady`. -/
def clusterReady : String := "Ready"

/-- Modelled from the spec: `apiv1.ConditionTrue`. -/
def conditionTrue : String := "True"

/-- A federated cluster object (`v1beta1.Cluster`). -/
structure Cluster where
  name : String
  deletionTimestamp : Option Int
  conditions : List ClusterCondition
  annotations : Annotations
deriving DecidableEq

/-- `isClusterReady`: some condition of type `ClusterReady` has status
`True`. -/
def isClusterReady (cluster : Cluster) : Bool :=
  cluster.conditions.any fun c => c.conditionType == clusterReady && c.status == conditionTrue

/-- `getAnnotationIntegerValue`: the annotation read with `strconv.Atoi`, or
the default when it is absent, empty or not an `int`. -/
def getAnnotationIntegerValue (a : Annotations) (annotationName : AnnotationKey)
    (defaultValue : GoInt) : GoInt :=
  match a annotationName with
  | some v => if v ≠ "" then (atoi v).getD defaultValue else defaultValue
  | none => defaultValue

/-- `IsCapacityDataPresent`: all four capacity annotations are set. -/
def isCapacityDataPresent (a : Annotations) : Bool :=
  (a .capacityAllocatablePods).isSome && (a .capacityPods).isSome &&
    (a .capacityUsedPods).isSome && (a .capacitySystemPods).isSome

/-- `IsClusterScaling`: the lifecycle state is one of the pending or running
scale states. -/
def isClusterScaling (cluster : Cluster) : Bool :=
  match cluster.annotations .clusterState with
  | none => false
  | some s =>
    s == navarkosClusterStatePendingScaleUp || s == navarkosClusterStatePendingScaleDown ||
      s == navarkosClusterStateScalingDown || s == navarkosClusterStateScalingUp

/-- A value written by `itoa` reads back exactly. -/
@[simp] theorem getAnnotationIntegerValue_set_itoa (a : Annotations) (k : AnnotationKey)
    (x d : GoInt) : getAnnotationIntegerValue (a.set k (itoa x)) k d = x := by
  simp [getAnnotationIntegerValue, itoa_ne_empty, atoi_itoa]

@[simp] theorem getAnnotationIntegerValue_set_ne (a : Annotations) {k k' : AnnotationKey}
    (h : k' ≠ k) (v : String) (d : GoInt) :
    getAnnotationIntegerValue (a.set k v) k' d = getAnnotationIntegerValue a k' d := by
  simp [getAnnotationIntegerValue, h]

@[simp] theorem getAnnotationIntegerValue_erase_ne (a : Annotations) {k k' : AnnotationKey}
    (h : k' ≠ k) (d : GoInt) :
    getAnnotationIntegerValue (a.erase k) k' d = getAnnotationIntegerValue a k' d := by
  simp [getAnnotationIntegerValue, h]

/-- Writing or deleting another key does not change the value read. -/
theorem getAnnotationIntegerValue_congr {a a' : Annotations} {k : AnnotationKey}
    (h : a k = a' k) (d : GoInt) :
    getAnnotationIntegerValue a k d = getAnnotationIntegerValue a' k d := by
  simp only [getAnnotationIntegerValue, h]

/-- The configuration the decision rules read: the defaults of package
`common` and the `time.UnixDate` format at whole seconds. Go's layout prints a
four-digit year and `time.Parse` reads back years 0 to 9999 only, so
`parse_format` is Go's round trip for clocks in those years. -/
structure Env where
  navarkosDefaultClusterTimeToLiveBeforeShutdown : GoInt
  navarkosDefaultClusterScaleUpCapacityThreshold : GoInt
  navarkosClusterScaleDownCapacityThreshold : GoInt
  formatUnixDate : Int → String
  parseUnixDate : String → Option Int
  parse_format : ∀ t, parseUnixDate (formatUnixDate t) = some t

/-- A configuration whose clock text is the decimal count of seconds. -/
def Env.ofDefaults (timeToLive scaleUp scaleDown : GoInt) : Env where
  navarkosDefaultClusterTimeToLiveBeforeShutdown := timeToLive
  navarkosDefaultClusterScaleUpCapacityThreshold := scaleUp
  navarkosClusterScaleDownCapacityThreshold := scaleDown
  formatUnixDate := formatDecimal
  parseUnixDate := parseDecimal
  parse_format := parseDecimal_formatDecimal

end Navarkos
