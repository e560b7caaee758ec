import Mathlib.Data.Finset.Card
import Navarkos.Cluster

/-!
# The controller's state and its watch handlers

`ClusterController` keeps the set of cluster names it has observed and a
cache of per-cluster clients; `OnClusterChange` is the callback a dependent
controller registers. The informer calls `addToClusterSet`, `updateCluster`
and `delFromClusterSet` for each watch event; the periodic pass of
`Pass.lean` calls them too. `GetClusterDeployment`, the dependent
controller's read of a member cluster, goes through the same cache.

Calls into collaborators are answers carried by the call: `created` is what
`NewClusterClientSet` returns if the code reaches it. What the controller
does that others can see is a list of `Effect`s: the callback firing, and
cluster objects accepted by the federation store.

Two facts are proved for every handler here, once, and used by every result
over runs: the *frame* (a handler changes the set and the cache at its own
cluster's name only), and the invariant `ClientsKnown` (every cached client
belongs to a known cluster).
-/

namespace Navarkos

/-- A client handle made by `NewClusterClientSet`. -/
structure ClusterClient where
  handle : Nat
deriving DecidableEq, Repr

/-- A Go `error` value. -/
structure GoError where
  message : String
deriving DecidableEq, Repr

/-- What `NewClusterClientSet` answers: an error, or a client pointer that
may be nil. -/
def ClientResult : Type := Except GoError (Option ClusterClient)

/-- What others observe of the controller. -/
inductive Effect where
  /-- `OnClusterChange` was called. -/
  | onClusterChange
  /-- The federation store accepted this cluster object from `Update`. -/
  | updated (cluster : Cluster)
deriving DecidableEq

/-- The fields of `ClusterController` the controller logic reads and writes. -/
@[ext] structure ClusterController where
  knownClusterSet : Finset String
  clusterKubeClientMap : String → Option ClusterClient
  /-- Whether `OnClusterChange` is non-nil. -/
  onClusterChange : Bool

/-- `newClusterController`: nothing known, no clients. -/
def newClusterController (onClusterChange : Bool) : ClusterController :=
  ⟨∅, fun _ => none, onClusterChange⟩

namespace ClusterController

/-- `if cc.OnClusterChange != nil { cc.OnClusterChange() }`. -/
def notifyChange (cc : ClusterController) : List Effect :=
  if cc.onClusterChange then [.onClusterChange] else []

/-- `cc.clusterKubeClientMap[clusterName] = client`, or `delete` for
`none`. -/
def setClient (cc : ClusterController) (clusterName : String) (client : Option ClusterClient) :
    ClusterController :=
  { cc with clusterKubeClientMap := Function.update cc.clusterKubeClientMap clusterName client }

/-- `delFromClusterSetByName`: forget the name and its client, then fire the
callback. -/
def delFromClusterSetByName (cc : ClusterController) (clusterName : String) :
    ClusterController × List Effect :=
  ({ cc.setClient clusterName none with
      knownClusterSet := cc.knownClusterSet.erase clusterName }, cc.notifyChange)

/-- `delFromClusterSet`, the informer's delete handler. -/
def delFromClusterSet (cc : ClusterController) (cluster : Cluster) :
    ClusterController × List Effect :=
  cc.delFromClusterSetByName cluster.name

/-- `updateClusterClient`: cache the client `NewClusterClientSet` made; an
error or a nil client caches nothing. -/
def updateClusterClient (cc : ClusterController) (cluster : Cluster) (created : ClientResult) :
    ClientResult × ClusterController :=
  match created with
  | .ok (some client) => (.ok (some client), cc.setClient cluster.name (some client))
  | .ok none => (.ok none, cc)
  | .error err => (.error err, cc)

/-- `GetClusterClient`: the cached client, or a new one. -/
def getClusterClient (cc : ClusterController) (cluster : Cluster) (created : ClientResult) :
    ClientResult × ClusterController :=
  match cc.clusterKubeClientMap cluster.name with
  | some clusterClient => (.ok (some clusterClient), cc)
  | none => cc.updateClusterClient cluster created

/-- `addToClusterSet`, the informer's add handler: record the name, and make
a client unless the lifecycle state is set to something other than
`Ready`. -/
def addToClusterSet (cc : ClusterController) (cluster : Cluster) (created : ClientResult) :
    ClusterController :=
  let cc := { cc with knownClusterSet := insert cluster.name cc.knownClusterSet }
  match cluster.annotations .clusterState with
  | some clusterStatus =>
    if clusterStatus = navarkosClusterStateReady then (cc.updateClusterClient cluster created).2
    else cc
  | none => (cc.updateClusterClient cluster created).2

/-- `updateCluster`, the informer's update handler: record the name; a
deletion timestamp deletes it; a move into `Ready` makes a missing client, a
move into `Offline` drops it. -/
def updateCluster (cc : ClusterController) (oldCluster cluster : Cluster)
    (created : ClientResult) : ClusterController × List Effect :=
  let cc := if cluster.name ∈ cc.knownClusterSet then cc
    else { cc with knownClusterSet := insert cluster.name cc.knownClusterSet }
  let oldClusterStatus := oldCluster.annotations.get .clusterState
  if cluster.deletionTimestamp.isSome then cc.delFromClusterSetByName cluster.name
  else
    match cluster.annotations .clusterState with
    | some newClusterStatus =>
      if oldClusterStatus ≠ navarkosClusterStateReady ∧
          newClusterStatus = navarkosClusterStateReady then
        match cc.clusterKubeClientMap cluster.name with
        | none => ((cc.updateClusterClient cluster created).2, [])
        | some _ => (cc, [])
      else if newClusterStatus = navarkosClusterStateOffline then
        match cc.clusterKubeClientMap cluster.name with
        | some _ => (cc.setClient cluster.name none, [])
        | none => (cc, [])
      else (cc, [])
    | none => (cc, [])

/-- `GetClusterDeployment`: deployment `name` of namespace `ns`, read through
the cluster's cached client; `get` is the member cluster's answer to that
client's `Get`. -/
def getClusterDeployment {Deployment : Type} (cc : ClusterController) (cluster : Cluster)
    (ns name : String) (get : ClusterClient → String → String → Except GoError Deployment) :
    Except GoError Deployment :=
  match cc.clusterKubeClientMap cluster.name with
  | none => .error ⟨"Can not get client for cluster " ++ cluster.name⟩
  | some clusterClient =>
    if !isClusterReady cluster then
      .error ⟨"Cluster " ++ cluster.name ++ " is not in ready state, can not get deployments"⟩
    else get clusterClient ns name

/-- A deployment is answered only for a ready cluster, by its cached client;
every refusal is one of the two errors, each naming the cluster. -/
theorem getClusterDeployment_cases {Deployment : Type} (cc : ClusterController) (cluster : Cluster)
    (ns name : String) (get : ClusterClient → String → String → Except GoError Deployment) :
    (cc.clusterKubeClientMap cluster.name = none ∧
      cc.getClusterDeployment cluster ns name get =
        .error ⟨"Can not get client for cluster " ++ cluster.name⟩) ∨
    (∃ client, cc.clusterKubeClientMap cluster.name = some client ∧
      (isClusterReady cluster = false ∧ cc.getClusterDeployment cluster ns name get =
        .error ⟨"Cluster " ++ cluster.name ++ " is not in ready state, can not get deployments"⟩ ∨
       isClusterReady cluster = true ∧
        cc.getClusterDeployment cluster ns name get = get client ns name)) := by
  unfold getClusterDeployment
  split
  · exact .inl ⟨‹_›, rfl⟩
  · rename_i client h
    cases hr : isClusterReady cluster
    · exact .inr ⟨client, h, .inl ⟨rfl, rfl⟩⟩
    · exact .inr ⟨client, h, .inr ⟨rfl, rfl⟩⟩

theorem getClusterDeployment_eq_ok {Deployment : Type} {cc : ClusterController} {cluster : Cluster}
    {ns name : String} {get : ClusterClient → String → String → Except GoError Deployment}
    {d : Deployment} (h : cc.getClusterDeployment cluster ns name get = .ok d) :
    isClusterReady cluster = true ∧
      ∃ client, cc.clusterKubeClientMap cluster.name = some client ∧ get client ns name = .ok d := by
  rcases getClusterDeployment_cases cc cluster ns name get with
    ⟨-, h'⟩ | ⟨client, hc, ⟨-, h'⟩ | ⟨hr, h'⟩⟩ <;> rw [h'] at h
  · cases h
  · cases h
  · exact ⟨hr, client, hc, h⟩

end ClusterController

/-- `GetReadyClusters`: the informer store's ready clusters. -/
def getReadyClusters (items : List Cluster) : List Cluster := items.filter isClusterReady

/-- `GetUnreadyClusters`: the informer store's other clusters. -/
def getUnreadyClusters (items : List Cluster) : List Cluster :=
  items.filter fun cluster => !isClusterReady cluster

/-- A watch event as the informer delivers it, with the answer
`NewClusterClientSet` would give its handler. -/
inductive WatchEvent where
  | added (cluster : Cluster) (created : ClientResult)
  | modified (oldCluster cluster : Cluster) (created : ClientResult)
  | deleted (cluster : Cluster)

namespace WatchEvent

/-- The name of the cluster the handler acts on. -/
def name : WatchEvent → String
  | .added cluster _ => cluster.name
  | .modified _ cluster _ => cluster.name
  | .deleted cluster => cluster.name

/-- Whether the event reports the cluster present: an add, or an update
without a deletion timestamp. -/
def reportsPresent : WatchEvent → Bool
  | .added _ _ => true
  | .modified _ cluster _ => cluster.deletionTimestamp.isNone
  | .deleted _ => false

end WatchEvent

/-- The handler the informer runs for an event. -/
def ClusterController.handle (cc : ClusterController) : WatchEvent → ClusterController × List Effect
  | .added cluster created => (cc.addToClusterSet cluster created, [])
  | .modified oldCluster cluster created => cc.updateCluster oldCluster cluster created
  | .deleted cluster => cc.delFromClusterSet cluster

/-! ## Frames -/

namespace ClusterController

/-- `cc'` differs from `cc` at most at the name `n`, and keeps the
callback. -/
structure ChangesOnly (cc cc' : ClusterController) (n : String) : Prop where
  known : ∀ m, m ≠ n → (m ∈ cc'.knownClusterSet ↔ m ∈ cc.knownClusterSet)
  clients : ∀ m, m ≠ n → cc'.clusterKubeClientMap m = cc.clusterKubeClientMap m
  callback : cc'.onClusterChange = cc.onClusterChange

theorem changesOnly_refl (cc : ClusterController) (n : String) : ChangesOnly cc cc n :=
  ⟨fun _ _ => Iff.rfl, fun _ _ => rfl, rfl⟩

theorem ChangesOnly.trans {cc cc' cc'' : ClusterController} {n : String}
    (h : ChangesOnly cc cc' n) (h' : ChangesOnly cc' cc'' n) : ChangesOnly cc cc'' n :=
  ⟨fun m hm => (h'.known m hm).trans (h.known m hm),
    fun m hm => (h'.clients m hm).trans (h.clients m hm), h'.callback.trans h.callback⟩

variable {cc : ClusterController} {cluster : Cluster} {created : ClientResult} {n : String}

@[simp] theorem setClient_knownClusterSet (client : Option ClusterClient) :
    (cc.setClient n client).knownClusterSet = cc.knownClusterSet := rfl

@[simp] theorem setClient_clusterKubeClientMap (client : Option ClusterClient) (m : String) :
    (cc.setClient n client).clusterKubeClientMap m =
      if m = n then client else cc.clusterKubeClientMap m := by
  simp [setClient, Function.update_apply]

@[simp] theorem setClient_onClusterChange (client : Option ClusterClient) :
    (cc.setClient n client).onClusterChange = cc.onClusterChange := rfl

theorem changesOnly_setClient (client : Option ClusterClient) :
    ChangesOnly cc (cc.setClient n client) n :=
  ⟨fun _ _ => Iff.rfl, fun m hm => by simp [hm], rfl⟩

@[simp] theorem delFromClusterSetByName_knownClusterSet :
    (cc.delFromClusterSetByName n).1.knownClusterSet = cc.knownClusterSet.erase n := rfl

@[simp] theorem delFromClusterSetByName_clusterKubeClientMap (m : String) :
    (cc.delFromClusterSetByName n).1.clusterKubeClientMap m =
      if m = n then none else cc.clusterKubeClientMap m := by
  simp [delFromClusterSetByName, setClient, Function.update_apply]

@[simp] theorem delFromClusterSetByName_onClusterChange :
    (cc.delFromClusterSetByName n).1.onClusterChange = cc.onClusterChange := rfl

@[simp] theorem delFromClusterSetByName_effects :
    (cc.delFromClusterSetByName n).2 = cc.notifyChange := rfl

theorem changesOnly_delFromClusterSetByName :
    ChangesOnly cc (cc.delFromClusterSetByName n).1 n :=
  ⟨fun m hm => by simp [hm], fun m hm => by simp [hm], rfl⟩

theorem setClient_self (cc : ClusterController) (n : String) :
    cc.setClient n (cc.clusterKubeClientMap n) = cc := by
  simp [setClient, Function.update_eq_self]

/-- `updateClusterClient` writes at most the cluster's own cache entry. -/
theorem updateClusterClient_eq (cc : ClusterController) (cluster : Cluster)
    (created : ClientResult) : ∃ client,
    (cc.updateClusterClient cluster created).2 = cc.setClient cluster.name client := by
  unfold updateClusterClient
  split
  · exact ⟨_, rfl⟩
  all_goals exact ⟨_, (setClient_self cc cluster.name).symm⟩

theorem changesOnly_updateClusterClient :
    ChangesOnly cc (cc.updateClusterClient cluster created).2 cluster.name := by
  obtain ⟨client, h⟩ := updateClusterClient_eq cc cluster created
  exact h ▸ changesOnly_setClient client

@[simp] theorem updateClusterClient_knownClusterSet :
    (cc.updateClusterClient cluster created).2.knownClusterSet = cc.knownClusterSet := by
  obtain ⟨client, h⟩ := updateClusterClient_eq cc cluster created
  rw [h, setClient_knownClusterSet]

theorem getClusterClient_eq (cc : ClusterController) (cluster : Cluster) (created : ClientResult) :
    ∃ client, (cc.getClusterClient cluster created).2 = cc.setClient cluster.name client := by
  unfold getClusterClient
  split
  · exact ⟨_, (setClient_self cc cluster.name).symm⟩
  · exact updateClusterClient_eq cc cluster created

/-! ## Handlers -/

/-- The state with the name recorded. -/
def recordName (cc : ClusterController) (clusterName : String) : ClusterController :=
  { cc with knownClusterSet := insert clusterName cc.knownClusterSet }

theorem changesOnly_recordName : ChangesOnly cc (cc.recordName n) n :=
  ⟨fun m hm => by simp [recordName, hm], fun _ _ => rfl, rfl⟩

/-- `if !Has(n) { Insert(n) }` is `Insert(n)`. -/
theorem recordName_of_ite :
    (if n ∈ cc.knownClusterSet then cc
      else { cc with knownClusterSet := insert n cc.knownClusterSet }) = cc.recordName n := by
  split_ifs with hm
  · simp [recordName, Finset.insert_eq_of_mem hm]
  · rfl

theorem addToClusterSet_eq (cc : ClusterController) (cluster : Cluster) (created : ClientResult) :
    ∃ client, cc.addToClusterSet cluster created =
      (cc.recordName cluster.name).setClient cluster.name client := by
  unfold addToClusterSet
  split
  · split_ifs
    · exact updateClusterClient_eq _ cluster created
    · exact ⟨_, (setClient_self _ cluster.name).symm⟩
  · exact updateClusterClient_eq _ cluster created

theorem updateCluster_of_deleting {oldCluster : Cluster} (h : cluster.deletionTimestamp.isSome) :
    cc.updateCluster oldCluster cluster created =
      (cc.recordName cluster.name).delFromClusterSetByName cluster.name := by
  simp only [updateCluster, recordName_of_ite, h, if_true]

theorem updateCluster_of_not_deleting {oldCluster : Cluster}
    (h : cluster.deletionTimestamp = none) : ∃ client,
    cc.updateCluster oldCluster cluster created =
      ((cc.recordName cluster.name).setClient cluster.name client, []) := by
  simp only [updateCluster, recordName_of_ite, h, Option.isSome_none, Bool.false_eq_true, if_false]
  have hself := (setClient_self (cc.recordName cluster.name) cluster.name).symm
  split
  · split_ifs
    · split
      · obtain ⟨client, hc⟩ := updateClusterClient_eq (cc.recordName cluster.name) cluster created
        exact ⟨client, by rw [hc]⟩
      · exact ⟨_, by rw [← hself]⟩
    · split
      · exact ⟨none, rfl⟩
      · exact ⟨_, by rw [← hself]⟩
    · exact ⟨_, by rw [← hself]⟩
  · exact ⟨_, by rw [← hself]⟩

/-- **What a handler does**: an event reporting the cluster present records
its name and writes at most the name's cache entry, silently; any other
event deletes the name, from a state that differs at most at the name. -/
theorem handle_eq (cc : ClusterController) (e : WatchEvent) :
    (e.reportsPresent = true ∧ ∃ client,
      cc.handle e = ((cc.recordName e.name).setClient e.name client, [])) ∨
    (e.reportsPresent = false ∧ ∃ cc₀, ChangesOnly cc cc₀ e.name ∧
      cc.handle e = cc₀.delFromClusterSetByName e.name) := by
  cases e with
  | added cluster created =>
    obtain ⟨client, h⟩ := addToClusterSet_eq cc cluster created
    exact .inl ⟨rfl, client, by rw [handle, h]; rfl⟩
  | modified oldCluster cluster created =>
    cases hd : cluster.deletionTimestamp with
    | none =>
      obtain ⟨client, h⟩ : ∃ client, cc.updateCluster oldCluster cluster created =
          ((cc.recordName cluster.name).setClient cluster.name client, []) :=
        updateCluster_of_not_deleting hd
      exact .inl ⟨by simp [WatchEvent.reportsPresent, hd], client, h⟩
    | some t =>
      exact .inr ⟨by simp [WatchEvent.reportsPresent, hd], _, changesOnly_recordName,
        updateCluster_of_deleting (by simp [hd])⟩
  | deleted cluster => exact .inr ⟨rfl, cc, changesOnly_refl cc _, rfl⟩

theorem changesOnly_handle (cc : ClusterController) (e : WatchEvent) :
    ChangesOnly cc (cc.handle e).1 e.name := by
  rcases handle_eq cc e with ⟨-, client, h⟩ | ⟨-, cc₀, h₀, h⟩ <;> rw [h]
  · exact changesOnly_recordName.trans (changesOnly_setClient client)
  · exact h₀.trans changesOnly_delFromClusterSetByName

/-- **The handlers' membership semantics**: an event reporting the cluster
present records its name, any other event forgets it. -/
theorem mem_handle_knownClusterSet (cc : ClusterController) (e : WatchEvent) :
    e.name ∈ (cc.handle e).1.knownClusterSet ↔ e.reportsPresent = true := by
  rcases handle_eq cc e with ⟨hp, client, h⟩ | ⟨hp, cc₀, -, h⟩ <;> simp [h, hp, recordName]

/-- An event reporting the cluster absent leaves it no client. -/
theorem handle_clusterKubeClientMap_of_absent (cc : ClusterController) (e : WatchEvent)
    (hp : e.reportsPresent = false) : (cc.handle e).1.clusterKubeClientMap e.name = none := by
  rcases handle_eq cc e with ⟨hp', -⟩ | ⟨-, cc₀, -, h⟩
  · simp [hp] at hp'
  · simp [h]

/-- Only the events that forget a cluster fire the callback. -/
theorem handle_effects (cc : ClusterController) (e : WatchEvent) :
    (cc.handle e).2 = if e.reportsPresent then [] else cc.notifyChange := by
  rcases handle_eq cc e with ⟨hp, client, h⟩ | ⟨hp, cc₀, h₀, h⟩ <;> rw [h, hp]
  · rfl
  · simp [notifyChange, h₀.callback]

/-! ## Every cached client belongs to a known cluster -/

/-- The invariant of the client cache. -/
def ClientsKnown (cc : ClusterController) : Prop :=
  ∀ n, (cc.clusterKubeClientMap n).isSome → n ∈ cc.knownClusterSet

theorem clientsKnown_newClusterController (onClusterChange : Bool) :
    ClientsKnown (newClusterController onClusterChange) := by
  simp [ClientsKnown, newClusterController]

/-- A write at a known name, or a change at `n` that leaves `n` known or
without a client, keeps the invariant. -/
theorem ClientsKnown.of_changesOnly {cc' : ClusterController} (hinv : ClientsKnown cc)
    (h : ChangesOnly cc cc' n)
    (hn : (cc'.clusterKubeClientMap n).isSome → n ∈ cc'.knownClusterSet) : ClientsKnown cc' := by
  intro m hm
  by_cases hmn : m = n
  · exact hmn ▸ hn (hmn ▸ hm)
  · exact (h.known m hmn).mpr (hinv m ((h.clients m hmn) ▸ hm))

theorem ClientsKnown.handle (hinv : ClientsKnown cc) (e : WatchEvent) :
    ClientsKnown (cc.handle e).1 := by
  refine hinv.of_changesOnly (changesOnly_handle cc e) fun hsome => ?_
  cases hp : e.reportsPresent
  · simp [handle_clusterKubeClientMap_of_absent cc e hp] at hsome
  · exact (mem_handle_knownClusterSet cc e).mpr hp

theorem ClientsKnown.delFromClusterSetByName (hinv : ClientsKnown cc) :
    ClientsKnown (cc.delFromClusterSetByName n).1 :=
  hinv.of_changesOnly changesOnly_delFromClusterSetByName (by simp)

theorem ClientsKnown.getClusterClient (hinv : ClientsKnown cc) (hn : cluster.name ∈ cc.knownClusterSet) :
    ClientsKnown (cc.getClusterClient cluster created).2 := by
  obtain ⟨client, h⟩ := getClusterClient_eq cc cluster created
  rw [h]
  exact hinv.of_changesOnly (changesOnly_setClient client) fun _ => hn

end ClusterController

end Navarkos
