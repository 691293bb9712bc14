import WorkspaceAccess.Proofs.Access.Rebuild

/-!
# The Last Rebuild Wins

Every sweep rebuilds the binding of every workspace from what is there, and what is there was
mostly built by an earlier sweep. If a rebuild kept a trace of the one before it, the bindings would
depend on how often they have been rebuilt, and a subject or a mark that was written once could stay
for ever. This module shows that nothing of the kind happens.

Two things are shown for it. A rebuild leaves nothing open: `IsBuiltOn` adds to the content of a
rebuilt binding (`IsRebuilt`) that there are labels and annotations and that all other metadata are
the old ones, and there is just one binding of which that holds (`IsBuiltOn.unique`). And whatever a
rebuild writes is written by the next one too, while what it takes over it leaves as it was: so what
is built on a binding that was built itself is built on what that one was built on
(`IsBuiltOn.absorb`). Together these make the functions equal, not only what they say of a binding.

## Main results

* `eq_desired_iff`: a binding is the desired one just when it is built on the existing binding, or
  on nothing but a name. The right side names all records, keys and values, so this is a
  specification of the whole binding.
* `desired_desired`: a rebuild of what was rebuilt before is the rebuild of what was there at first.
* `desired_foldl_rebuilt`: so it is with any number of rebuilds before, for whatever subjects, from
  whatever source and at whatever times.
* `bindings_are_rebuilt_exactly`: all of these, with the names of the subjects in order and the
  metadata of a new binding.
* `crowded_is_rebuilt_exactly`: a binding on which others have put labels and annotations, and which
  grants another role to another subject, rebuilt twice.
-/

namespace WorkspaceAccess

/-- Two values that are there are the same when they stand in for a default alike. -/
theorem eq_of_getD_eq {α : Type} {o o' : Option α} {default : α} (ho : o.isSome = true)
    (ho' : o'.isSome = true) (h : o.getD default = o'.getD default) : o = o' := by
  obtain ⟨x, rfl⟩ := Option.isSome_iff_exists.mp ho
  obtain ⟨x', rfl⟩ := Option.isSome_iff_exists.mp ho'
  exact congrArg some h

/-- Metadata consist of the labels, the annotations and the rest. -/
theorem ObjectMeta.eq_of_unmarked {m m' : ObjectMeta} (hrest : m.unmarked = m'.unmarked)
    (hlabels : m.labels = m'.labels) (hannotations : m.annotations = m'.annotations) : m = m' := by
  have hsplit (m : ObjectMeta) :
      m = { m.unmarked with labels := m.labels, annotations := m.annotations } := rfl
  rw [hsplit m, hsplit m', hrest, hlabels, hannotations]

namespace AccessBinding

/-! ### What a rebuild leaves open -/

/-- The binding is rebuilt with labels and annotations, and all other metadata is the old one. -/
structure IsBuiltOn (old : ObjectMeta) (subjects : List String) (sourceNamespace : String)
    (now : Timestamp) (b : ClusterRoleBinding) : Prop
    extends IsRebuilt old subjects sourceNamespace now b where
  /-- It has labels, also where there were none before. -/
  labelled : b.metadata.labels.isSome = true
  /-- It has annotations, also where there were none before. -/
  annotated : b.metadata.annotations.isSome = true
  /-- The other metadata is the old one, field by field. -/
  kept : b.metadata.unmarked = old.unmarked

variable {old : ObjectMeta} {subjects : List String} {sourceNamespace : String} {now : Timestamp}
  {b c : ClusterRoleBinding}

/-- Two bindings that are rebuilt from the same metadata have the same labels. -/
theorem IsRebuilt.labelsD_eq (hb : IsRebuilt old subjects sourceNamespace now b)
    (hc : IsRebuilt old subjects sourceNamespace now c) :
    b.metadata.labelsD = c.metadata.labelsD := by
  refine SortedMap.ext fun k => ?_
  by_cases hk : k = "app.kubernetes.io/managed-by"
  · rw [hk, hb.managed, hc.managed]
  · rw [hb.labels k hk, hc.labels k hk]

/-- Two rebuilds of one binding have the same annotations, since each key is either one of the four
that are written or one that is kept. -/
theorem IsRebuilt.annotationsD_eq (hb : IsRebuilt old subjects sourceNamespace now b)
    (hc : IsRebuilt old subjects sourceNamespace now c) :
    b.metadata.annotationsD = c.metadata.annotationsD := by
  refine SortedMap.ext fun k => ?_
  by_cases hk : k ∈ markKeys
  · simp only [markKeys, List.mem_cons, List.not_mem_nil, or_false] at hk
    rcases hk with rfl | rfl | rfl | rfl
    · rw [hb.synced, hc.synced]
    · rw [hb.counted, hc.counted]
    · rw [hb.owned, hc.owned]
    · rw [hb.origin, hc.origin]
  · rw [hb.annotations k hk, hc.annotations k hk]

namespace IsBuiltOn

/-- Being built on a binding leaves nothing open: two bindings that are, for the same subjects and
at the same time, are equal. -/
theorem unique (hb : IsBuiltOn old subjects sourceNamespace now b)
    (hc : IsBuiltOn old subjects sourceNamespace now c) : b = c := by
  have hlabels : b.metadata.labels = c.metadata.labels :=
    eq_of_getD_eq hb.labelled hc.labelled (hb.labelsD_eq hc.toIsRebuilt)
  have hannotations : b.metadata.annotations = c.metadata.annotations :=
    eq_of_getD_eq hb.annotated hc.annotated (hb.annotationsD_eq hc.toIsRebuilt)
  have hmetadata : b.metadata = c.metadata :=
    ObjectMeta.eq_of_unmarked (hb.kept.trans hc.kept.symm) hlabels hannotations
  have hrole : b.roleRef = c.roleRef := hb.role.trans hc.role.symm
  have hsubjects : b.subjects = c.subjects := hb.granted.trans hc.granted.symm
  calc b = ⟨b.metadata, b.roleRef, b.subjects⟩ := rfl
    _ = ⟨c.metadata, c.roleRef, c.subjects⟩ := by rw [hmetadata, hrole, hsubjects]
    _ = c := rfl

/-- What is built on a binding that was built itself is built on what that one was built on. -/
theorem absorb {subjects' : List String} {sourceNamespace' : String} {now' : Timestamp}
    (hb : IsBuiltOn old subjects' sourceNamespace' now' b)
    (hc : IsBuiltOn b.metadata subjects sourceNamespace now c) :
    IsBuiltOn old subjects sourceNamespace now c where
  role := hc.role
  granted := hc.granted
  managed := hc.managed
  labels k hk := (hc.labels k hk).trans (hb.labels k hk)
  synced := hc.synced
  counted := hc.counted
  owned := hc.owned
  origin := hc.origin
  annotations k hk := (hc.annotations k hk).trans (hb.annotations k hk)
  labelled := hc.labelled
  annotated := hc.annotated
  kept := hc.kept.trans hb.kept

end IsBuiltOn

/-! ### Desired bindings -/

variable (existing : Option ClusterRoleBinding)

/-- The binding that is wished for is built on the one that exists: it is rebuilt, and all that does
not concern this controller is kept. -/
theorem desired_isBuiltOn (subjects : List String) (sourceNamespace : String) (now : Timestamp) :
    IsBuiltOn (oldMetadata existing) subjects sourceNamespace now
      (desired existing subjects sourceNamespace now) where
  toIsRebuilt := desired_isRebuilt existing subjects sourceNamespace now
  labelled := rfl
  annotated := rfl
  kept := desired_unmarked existing subjects sourceNamespace now

/-- The desired binding is the one that is built on the existing one, or on nothing but a name. -/
theorem eq_desired_iff {existing : Option ClusterRoleBinding} :
    b = desired existing subjects sourceNamespace now ↔
      IsBuiltOn (oldMetadata existing) subjects sourceNamespace now b := by
  have hdesired := desired_isBuiltOn existing subjects sourceNamespace now
  constructor
  · rintro rfl
    exact hdesired
  · intro hb
    exact hb.unique hdesired

/-- A rebuild leaves nothing of the one before it, since both are built on the same binding in the
end and there is just one that is built on it. -/
theorem desired_desired (subjects' : List String) (sourceNamespace' : String) (now' : Timestamp)
    (subjects : List String) (sourceNamespace : String) (now : Timestamp) :
    desired (some (desired existing subjects' sourceNamespace' now')) subjects sourceNamespace now =
      desired existing subjects sourceNamespace now := by
  have hfirst := desired_isBuiltOn existing subjects' sourceNamespace' now'
  have hsecond := desired_isBuiltOn (some (desired existing subjects' sourceNamespace' now'))
    subjects sourceNamespace now
  exact eq_desired_iff.mpr (hfirst.absorb hsecond)

/-- What a binding is rebuilt for. -/
structure Purpose where
  /-- The subjects that are granted the role, in order. -/
  subjects : List String
  /-- The namespace of the roster that they come from. -/
  sourceNamespace : String
  /-- The time of the rebuild, by the calendar. -/
  now : Timestamp

/-- The binding after a rebuild for a purpose, as the server keeps it: there is one whether or not
there was one before. -/
def rebuilt (existing : Option ClusterRoleBinding) (p : Purpose) : Option ClusterRoleBinding :=
  some (desired existing p.subjects p.sourceNamespace p.now)

/-- The last of any number of rebuilds does it all. -/
theorem desired_foldl_rebuilt (earlier : List Purpose) (subjects : List String)
    (sourceNamespace : String) (now : Timestamp) :
    desired (earlier.foldl rebuilt existing) subjects sourceNamespace now =
      desired existing subjects sourceNamespace now := by
  induction earlier generalizing existing with
  | nil => rfl
  | cons p earlier ih => rw [List.foldl_cons, ih, rebuilt, desired_desired]

/-- A binding is rebuilt exactly. It grants the role of the administrators to the subjects, as RBAC
users and in their order, and is marked for them; its other labels and annotations, and all other
metadata, are those of the existing binding, or there is nothing else but the name; and any rebuilds
before are as if they had not been. -/
theorem bindings_are_rebuilt_exactly (subjects : List String) (sourceNamespace : String)
    (now : Timestamp) :
    (∀ b, b = desired existing subjects sourceNamespace now ↔
      IsBuiltOn (oldMetadata existing) subjects sourceNamespace now b) ∧
    (desired existing subjects sourceNamespace now).subjectNames = subjects ∧
    (desired none subjects sourceNamespace now).metadata.unmarked =
      { name := some "cncf-staff-access" } ∧
    (∀ subjects' sourceNamespace' now',
      desired (some (desired existing subjects' sourceNamespace' now'))
        subjects sourceNamespace now = desired existing subjects sourceNamespace now) ∧
    (∀ earlier : List Purpose,
      desired (earlier.foldl rebuilt existing) subjects sourceNamespace now =
        desired existing subjects sourceNamespace now) := by
  refine ⟨fun b => eq_desired_iff, ?_, rfl, ?_, ?_⟩
  · exact (desired_isRebuilt existing subjects sourceNamespace now).subjectNames
  · intro subjects' sourceNamespace' now'
    exact desired_desired existing subjects' sourceNamespace' now' subjects sourceNamespace now
  · intro earlier
    exact desired_foldl_rebuilt existing earlier subjects sourceNamespace now

/-- A binding of another role for another subject, on which others have put a label and an
annotation, and which has an identity and a stale count. -/
def crowded : ClusterRoleBinding where
  metadata := {
    name := some "cncf-staff-access"
    uid := some "4711"
    labels := some (.ofList [
      ("app.kubernetes.io/managed-by", "helm"), ("team", "platform")])
    annotations := some (.ofList [
      ("example.com/note", "keep me"), ("maintainer-d.cncf.io/staff-count", "17")]) }
  roleRef := { apiGroup := "rbac.authorization.k8s.io", kind := "ClusterRole", name := "view" }
  subjects := some [{ apiGroup := none, kind := "ServiceAccount", name := "ci", ns := some "ci" }]

/-- The crowded binding, rebuilt for two users, written out in full: what others put into it is
kept, and everything of the controller's own is new. -/
def crowdedRebuilt : ClusterRoleBinding where
  metadata := {
    name := some "cncf-staff-access"
    uid := some "4711"
    labels := some (.ofList [
      ("app.kubernetes.io/managed-by", "maintainerd-access-controller"), ("team", "platform")])
    annotations := some (.ofList [
      ("example.com/note", "keep me"),
      ("maintainer-d.cncf.io/last-synced", "1970-01-01T00:00:00Z"),
      ("maintainer-d.cncf.io/managed-by", "maintainerd-access-controller"),
      ("maintainer-d.cncf.io/source-namespace", "maintainerd"),
      ("maintainer-d.cncf.io/staff-count", "2")]) }
  roleRef :=
    { apiGroup := "rbac.authorization.k8s.io", kind := "ClusterRole", name := "cluster-admin" }
  subjects := some [
    { apiGroup := some "rbac.authorization.k8s.io", kind := "User", name := "oidc:bob@x.io"
      ns := none },
    { apiGroup := some "rbac.authorization.k8s.io", kind := "User", name := "oidc:ann@x.io"
      ns := none }]

/-- The note, the other label and the identity are kept, everything else is made anew; and a rebuild
for a third user in between leaves nothing behind. -/
theorem crowded_is_rebuilt_exactly :
    IsBuiltOn crowded.metadata ["oidc:bob@x.io", "oidc:ann@x.io"] "maintainerd" .epoch
      crowdedRebuilt ∧
    crowdedRebuilt.subjectNames = ["oidc:bob@x.io", "oidc:ann@x.io"] ∧
    desired (some (desired (some crowded) ["oidc:eve@x.io"] "elsewhere" .epoch))
      ["oidc:bob@x.io", "oidc:ann@x.io"] "maintainerd" .epoch = crowdedRebuilt := by
  obtain ⟨hbuilt, hnames, -, hagain, -⟩ := bindings_are_rebuilt_exactly (some crowded)
    ["oidc:bob@x.io", "oidc:ann@x.io"] "maintainerd" .epoch
  have hdesired : crowdedRebuilt =
      desired (some crowded) ["oidc:bob@x.io", "oidc:ann@x.io"] "maintainerd" .epoch := by
    rfl
  refine ⟨(hbuilt crowdedRebuilt).mp hdesired, ?_, ?_⟩
  · rw [hdesired]
    exact hnames
  · rw [hdesired]
    exact hagain _ _ _

end AccessBinding

end WorkspaceAccess
