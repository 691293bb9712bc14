import WorkspaceAccess.Access.Binding

/-!
# Rebuilt Bindings

A sweep does not mend a binding, it makes it anew: the role, the subjects and the marks of this
controller are written in full, and only what others have put on the binding, their labels, their
annotations and all other metadata, is taken over from the binding that is there. This module says
what such a rebuild makes, as a predicate of the result (`IsRebuilt`) that names every record, key
and value for itself. It does not mention the function that builds the binding nor the constants it
is built from, so that a slip in one of those would not go unnoticed: the role is that of the
administrators of a cluster, every subject is a user of the RBAC API group, the number of subjects
is written in decimal, and so on.

The predicate is about content alone. It leaves open how the labels and annotations are kept and
what the other metadata are, since a binding that a server has stored has a new version, and one
that was written to a store in memory has a new name; the callers say what they know of these.

## Main results

* `desired_isRebuilt`: the binding that is written is rebuilt from the existing one, or from nothing
  but a name, whatever the existing one holds.
* `desired_unmarked`: apart from the labels and the annotations it has the metadata of the existing
  one.
* `IsRebuilt.subjectNames`, `IsRebuilt.staffCount`: a rebuilt binding names exactly the subjects,
  and says how many they are.
* `IsRebuilt.congr`: whether a binding is rebuilt depends on its role, its subjects, its labels and
  its annotations only.
-/

namespace WorkspaceAccess

namespace SortedMap

variable {κ ν : Type} [KeyOrder κ]

/-- Adding a list leaves the keys alone that are not in it. -/
theorem get?_insertAll_of_notMem {l : List (κ × ν)} {k : κ} (h : k ∉ l.map (·.1))
    (m : SortedMap κ ν) : (m.insertAll l).get? k = m.get? k := by
  induction l generalizing m with
  | nil => rfl
  | cons e rest ih =>
    rw [insertAll, List.foldl_cons, ← insertAll, ih (List.not_mem_of_not_mem_cons h),
      get?_insert_of_ne (List.ne_of_not_mem_cons h)]

/-- Adding a list without repeated keys gives each of them its value. -/
theorem get?_insertAll_of_mem {l : List (κ × ν)} (hdistinct : (l.map (·.1)).Nodup) {e : κ × ν}
    (h : e ∈ l) (m : SortedMap κ ν) : (m.insertAll l).get? e.1 = some e.2 := by
  induction l generalizing m with
  | nil => cases h
  | cons first rest ih =>
    obtain ⟨hfirst, hrest⟩ := List.nodup_cons.mp hdistinct
    rw [insertAll, List.foldl_cons, ← insertAll]
    rcases List.mem_cons.mp h with rfl | hmem
    · rw [get?_insertAll_of_notMem hfirst, get?_insert_self]
    · exact ih hrest hmem _

end SortedMap

/-- The metadata without the labels and annotations, which is the part that a rebuild must not
touch. -/
def ObjectMeta.unmarked (m : ObjectMeta) : ObjectMeta :=
  { m with labels := none, annotations := none }

namespace AccessBinding

/-- The annotations that a rebuild writes, by their keys. Others under other keys are kept. -/
def markKeys : List String :=
  ["maintainer-d.cncf.io/last-synced", "maintainer-d.cncf.io/staff-count",
    "maintainer-d.cncf.io/managed-by", "maintainer-d.cncf.io/source-namespace"]

/-- The binding grants the role to exactly the subjects and is marked for them; its other labels
and annotations are those of the old metadata. The records, keys and values are written out here, so
that the predicate does not depend on how a binding is built. -/
structure IsRebuilt (old : ObjectMeta) (subjects : List String) (sourceNamespace : String)
    (now : Timestamp) (b : ClusterRoleBinding) : Prop where
  /-- The role is that of the administrators of the cluster. -/
  role : b.roleRef =
    { apiGroup := "rbac.authorization.k8s.io", kind := "ClusterRole", name := "cluster-admin" }
  /-- The subjects are RBAC users of exactly these names, in this order. -/
  granted : b.subjects = some (subjects.map fun name =>
    { apiGroup := some "rbac.authorization.k8s.io", kind := "User", name, ns := none })
  /-- The binding is labelled as one that this controller manages. -/
  managed : b.metadata.labelsD.get? "app.kubernetes.io/managed-by" =
    some "maintainerd-access-controller"
  /-- The labels under all other keys are the old ones. -/
  labels : ∀ k, k ≠ "app.kubernetes.io/managed-by" →
    b.metadata.labelsD.get? k = old.labelsD.get? k
  /-- The binding says when it was rebuilt, by the calendar. -/
  synced : b.metadata.annotationsD.get? "maintainer-d.cncf.io/last-synced" = some now.render
  /-- It says how many subjects it has, in decimal. -/
  counted : b.metadata.annotationsD.get? "maintainer-d.cncf.io/staff-count" =
    some (toString subjects.length)
  /-- It says which controller it belongs to. -/
  owned : b.metadata.annotationsD.get? "maintainer-d.cncf.io/managed-by" =
    some "maintainerd-access-controller"
  /-- It says which namespace the subjects come from. -/
  origin : b.metadata.annotationsD.get? "maintainer-d.cncf.io/source-namespace" =
    some sourceNamespace
  /-- The annotations under all other keys are the old ones. -/
  annotations : ∀ k, k ∉ markKeys → b.metadata.annotationsD.get? k = old.annotationsD.get? k

variable {old : ObjectMeta} {subjects : List String} {sourceNamespace : String} {now : Timestamp}
  {b : ClusterRoleBinding}

/-- The names of the subjects are the ones that were asked for, in the order in which they were
given and as often as they were given. -/
theorem IsRebuilt.subjectNames (h : IsRebuilt old subjects sourceNamespace now b) :
    b.subjectNames = subjects := by
  rw [ClusterRoleBinding.subjectNames, h.granted, Option.getD_some, List.map_map]
  exact List.map_id _

/-- The binding says how many subjects it has, under the key that others know for it. -/
theorem IsRebuilt.staffCount (h : IsRebuilt old subjects sourceNamespace now b) :
    b.metadata.annotationsD.get? Annotations.staffCount = some (toString subjects.length) :=
  h.counted

/-- Only the role, the subjects, the labels and the annotations of a rebuilt binding matter. -/
theorem IsRebuilt.congr (h : IsRebuilt old subjects sourceNamespace now b)
    {c : ClusterRoleBinding} (hrole : c.roleRef = b.roleRef) (hsubjects : c.subjects = b.subjects)
    (hlabels : c.metadata.labels = b.metadata.labels)
    (hannotations : c.metadata.annotations = b.metadata.annotations) :
    IsRebuilt old subjects sourceNamespace now c := by
  have hlabelsD : c.metadata.labelsD = b.metadata.labelsD := congrArg (Option.getD · _) hlabels
  have hannotationsD : c.metadata.annotationsD = b.metadata.annotationsD :=
    congrArg (Option.getD · _) hannotations
  exact {
    role := hrole.trans h.role
    granted := hsubjects.trans h.granted
    managed := hlabelsD ▸ h.managed
    labels := hlabelsD ▸ h.labels
    synced := hannotationsD ▸ h.synced
    counted := hannotationsD ▸ h.counted
    owned := hannotationsD ▸ h.owned
    origin := hannotationsD ▸ h.origin
    annotations := hannotationsD ▸ h.annotations }

/-- The metadata that a rebuild takes over: those of the existing binding, or nothing but the
name. -/
def oldMetadata (existing : Option ClusterRoleBinding) : ObjectMeta :=
  (existing.map (·.metadata)).getD { name := some "cncf-staff-access" }

variable (existing : Option ClusterRoleBinding) (subjects : List String)
  (sourceNamespace : String) (now : Timestamp)

/-- They are the metadata that the desired binding is built on. -/
theorem oldMetadata_eq : oldMetadata existing = (existing.getD blank).metadata := by
  cases existing with
  | none => rfl
  | some b => rfl

/-- Each mark is written, since no two of them have the same key. -/
theorem get?_mark {key value : String} (h : (key, value) ∈ marks subjects sourceNamespace now) :
    (desired existing subjects sourceNamespace now).metadata.annotationsD.get? key =
      some value := by
  have hdistinct : ((marks subjects sourceNamespace now).map (·.1)).Nodup := by
    show markKeys.Nodup
    decide
  exact SortedMap.get?_insertAll_of_mem hdistinct h _

/-- The label of this controller is merged into the labels that are there, and wins. -/
theorem get?_label (k : String) :
    (desired existing subjects sourceNamespace now).metadata.labelsD.get? k =
      (Annotations.managedLabels.get? k).or
        ((oldMetadata existing).labelsD.get? k) := by
  rw [oldMetadata_eq]
  exact SortedMap.get?_merge _ _ _

/-- The desired binding is rebuilt from the existing one, or from nothing but a name. -/
theorem desired_isRebuilt :
    IsRebuilt (oldMetadata existing) subjects sourceNamespace now
      (desired existing subjects sourceNamespace now) where
  role := rfl
  granted := rfl
  managed := by
    rw [get?_label]
    rfl
  labels k hk := by
    have hother : Annotations.managedLabels.get? k = none := SortedMap.get?_insert_of_ne hk
    rw [get?_label, hother, Option.none_or]
  synced := get?_mark _ _ _ _ (by simp [marks, Annotations.lastSynced])
  counted := get?_mark _ _ _ _ (by simp [marks, Annotations.staffCount])
  owned := get?_mark _ _ _ _ (by simp [marks, Annotations.managedBy, Annotations.operatorId])
  origin := get?_mark _ _ _ _ (by simp [marks, Annotations.sourceNamespace])
  annotations k hk := by
    rw [oldMetadata_eq]
    exact SortedMap.get?_insertAll_of_notMem hk _

/-- The desired binding keeps all other metadata: the name, the version, the owners and whatever
else there is. -/
theorem desired_unmarked :
    (desired existing subjects sourceNamespace now).metadata.unmarked =
      (oldMetadata existing).unmarked := by
  rw [oldMetadata_eq]
  rfl

end AccessBinding

end WorkspaceAccess
