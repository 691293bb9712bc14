import WorkspaceAccess.Proofs.Remote.FaultFree

/-!
# A Plain Server

A server that keeps every object as it was asked for, and assigns nothing. What it keeps has no
numbers and no times in it, so that all of it can be shown.

It is there to show that the hypotheses about servers without faults (`FaultFree`) can be met, and
met by a server that does what a server does: it reads the method, the address and the path of a
request, finds the workspace whose address that is, decodes the content, and replies with a text. It
is a function from requests and states to replies and states, and each kind of request that a
session sends is shown to be answered as it should be.

A workspace is found by its address. The addresses of different workspaces are different when the
root path of the session is plain, and otherwise they need not be, in which case no server can tell
the bindings of two workspaces apart. So this is what is assumed of the session.

## Main results

* `Workspace.decode_ofJson`, `ClusterRoleBinding.decode_ofJson`, `Collection.decode_listOf`: what is
  kept is understood when it is shown.
* `workspaceAt_of_workspaceUrl`: the address of a workspace tells its name.
* `serve_lookup`, `serve_listing`, `serve_creation`, `serve_read`, `serve_write`: how each kind of
  request is answered.
* `stores`: what is written is stored.
* `PlainStore.faultFree`: for every session whose root path is plain it is a server without faults.
-/

namespace WorkspaceAccess

open WorkspaceName (IsLabel isPathChar_of_isLabelChar)
open PathAndQuery (IsPlain)

/-! ### Metadata that nothing is assigned to -/

namespace ObjectMeta

variable {m : ObjectMeta}

/-- Nothing of what servers assign is in the metadata. -/
def IsUnassigned (m : ObjectMeta) : Prop := m.unassigned = m

/-- Without what a server assigns nothing is assigned, so the operation need not be repeated. -/
theorem isUnassigned_unassigned (m : ObjectMeta) : m.unassigned.IsUnassigned := rfl

/-- Such metadata can be written down: there are no times and no numbers in them. -/
theorem IsUnassigned.isWritable (h : m.IsUnassigned) : m.IsWritable := by
  rw [← h]
  constructor
  all_goals
    intro _ h
    cases h

/-- They have no numbers in them, so their text reads back exactly. -/
theorem IsUnassigned.isWorded (h : m.IsUnassigned) {n : Nat} : Json.IsWorded (n + 3) m.toJson := by
  rw [← h]
  exact isWorded_toJson rfl rfl rfl

end ObjectMeta

/-- A workspace that nothing is assigned to is understood when it is shown. -/
theorem Workspace.decode_ofJson {ws : Workspace} (h : ws.metadata.IsUnassigned) :
    (Reply.ofJson 200 ws.toJson).decode ofJson? = .ok ws :=
  Reply.decode_ofJson (isWorded_toJson (n := 0) h.isWorded) (by decide) rfl
    (ofJson?_toJson h.isWritable)

/-- So is a binding understood when it is replied. -/
theorem ClusterRoleBinding.decode_ofJson {b : ClusterRoleBinding} (h : b.metadata.IsUnassigned) :
    (Reply.ofJson 200 b.toJson).decode ofJson? = .ok b :=
  Reply.decode_ofJson (isWorded_toJson (n := 0) h.isWorded) (by decide) rfl
    (ofJson?_toJson h.isWritable)

namespace Collection

variable {α : Type}

/-- A list as a value, with nothing in it but the items. -/
def listOf (encode : α → Json) (l : List α) : Json :=
  .object [("items", .array (l.map encode))]

/-- A list is understood when its items are, as long as they are not too deep. -/
theorem decode_listOf {encode : α → Json} {decode : Json → Option α} {l : List α} {n : Nat}
    (hworded : ∀ a ∈ l, Json.IsWorded n (encode a)) (hdepth : n + 2 ≤ Json.Reader.depthLimit)
    (h : ∀ a ∈ l, decode (encode a) = some a) :
    (Reply.ofJson 200 (listOf encode l)).decode (objects? decode) = .ok l := by
  have hlist : Json.IsWorded (n + 2) (listOf encode l) := by
    refine .object fun m hm => ?_
    rw [List.mem_singleton.mp hm]
    refine .array fun j hj => ?_
    obtain ⟨a, ha, rfl⟩ := List.mem_map.mp hj
    exact hworded a ha
  refine Reply.decode_ofJson hlist hdepth rfl ?_
  show Json.list? decode (.array (l.map encode)) = some l
  exact Json.list?_map h

end Collection

/-! ### What the server keeps -/

/-- What a server keeps that assigns nothing. -/
structure PlainStore extends RemoteStore where
  /-- Workspaces have the names that they are kept under. -/
  workspaces_named : ∀ name ws, workspaces.get? name = some ws → ws.metadata.name = some name
  /-- Nothing is assigned to workspaces: no version, no identifier and no time. -/
  workspaces_plain : ∀ name ws, workspaces.get? name = some ws → ws.metadata.IsUnassigned
  /-- Bindings have the name of the access binding. -/
  bindings_named : ∀ workspace b, bindings.get? workspace = some b →
    b.metadata.name = some AccessBinding.name
  /-- Nothing is assigned to bindings: no version, no identifier and no time. -/
  bindings_plain : ∀ workspace b, bindings.get? workspace = some b → b.metadata.IsUnassigned

/-- What holds of a new value and of all the old ones holds of all values. -/
theorem SortedMap.forall_insert {κ ν : Type} [KeyOrder κ] {m : SortedMap κ ν} {k : κ} {x : ν}
    {P : κ → ν → Prop} (hnew : P k x) (hold : ∀ j y, m.get? j = some y → P j y) :
    ∀ j y, (m.insert k x).get? j = some y → P j y := by
  intro j y hget
  by_cases hk : j = k
  · rw [hk, get?_insert_self] at hget
    cases hget
    exact hk ▸ hnew
  · rw [get?_insert_of_ne hk] at hget
    exact hold j y hget

namespace PlainStore

/-- There is nothing yet on the server. -/
def empty : PlainStore where
  workspaces := SortedMap.empty
  bindings := SortedMap.empty
  workspaces_named _ _ h := by cases h
  workspaces_plain _ _ h := by cases h
  bindings_named _ _ h := by cases h
  bindings_plain _ _ h := by cases h

/-- The workspace is kept under its name, in place of an earlier one. -/
def insertWorkspace (s : PlainStore) (name : String) (ws : Workspace)
    (hname : ws.metadata.name = some name) : PlainStore :=
  { s with
    workspaces := s.workspaces.insert name ws.unassigned
    workspaces_named := SortedMap.forall_insert hname s.workspaces_named
    workspaces_plain :=
      SortedMap.forall_insert (ObjectMeta.isUnassigned_unassigned _) s.workspaces_plain }

/-- The binding is kept for the workspace, in place of an earlier one. -/
def insertBinding (s : PlainStore) (workspace : String) (b : ClusterRoleBinding)
    (hname : b.metadata.name = some AccessBinding.name) : PlainStore :=
  { s with
    bindings := s.bindings.insert workspace b.unassigned
    bindings_named := SortedMap.forall_insert hname s.bindings_named
    bindings_plain :=
      SortedMap.forall_insert (ObjectMeta.isUnassigned_unassigned _) s.bindings_plain }

/-- What the server keeps has the right names, and its bindings can be written down. -/
theorem sound (s : PlainStore) : s.Sound where
  workspaces := s.workspaces_named
  bindings := s.bindings_named
  writable workspace b hget := (s.bindings_plain workspace b hget).isWritable

/-! ### How the server answers -/

/-- The object as a reply, or a refusal that says that there is none. -/
def shown {α : Type} (encode : α → Json) : Option α → Reply
  | some a => .ofJson 200 (encode a)
  | none => BindingUpdate.refusal 404 "NotFound"

/-- What the content of a request describes, if it can be read. -/
def body? {α : Type} (decode : Json → Option α) (r : Request) : Option α :=
  r.content.bind fun content => decode content.value

/-- How requests about workspaces are answered: a look-up, a listing or a creation, told apart by
method and path. -/
def answerWorkspaces (r : Request) (s : PlainStore) : Reply × PlainStore :=
  match r.method, r.target.query with
  | .get, none =>
    let name := String.ofList (r.target.path.drop (RemoteSession.workspacesPath.length + 1))
    (shown Workspace.toJson (s.workspaces.get? name), s)
  | .get, some _ => (.ofJson 200 (Collection.listOf Workspace.toJson s.workspaces.values), s)
  | _, _ =>
    match body? Workspace.ofJson? r with
    | none => (BindingUpdate.refusal 400 "BadRequest", s)
    | some ws =>
      match hname : ws.metadata.name with
      | none => (BindingUpdate.refusal 422 "Invalid", s)
      | some name =>
        if s.workspaces.contains name then (BindingUpdate.refusal 409 "AlreadyExists", s)
        else (.ofJson 200 ws.unassigned.toJson, s.insertWorkspace name ws hname)

/-- How requests about the binding of a workspace are answered. -/
def answerBindings (workspace : String) (r : Request) (s : PlainStore) : Reply × PlainStore :=
  match r.method with
  | .get => (shown ClusterRoleBinding.toJson (s.bindings.get? workspace), s)
  | _ =>
    match body? ClusterRoleBinding.ofJson? r with
    | none => (BindingUpdate.refusal 400 "BadRequest", s)
    | some b =>
      if hname : b.metadata.name = some AccessBinding.name then
        (.ofJson 200 b.unassigned.toJson, s.insertBinding workspace b hname)
      else (BindingUpdate.refusal 422 "Invalid", s)

/-- The workspace whose address is the one of a logical cluster. -/
def workspaceAt (session : RemoteSession) : Server → String
  | .localCluster => ""
  | .logicalCluster address => String.ofList (address.path.drop
      ((LogicalCluster.base session.root).length + session.rootPath.length + 1))

/-- How the requests of a session are answered, those about workspaces and those about bindings. -/
def serve (session : RemoteSession) (r : Request) (s : PlainStore) : Reply × PlainStore :=
  if RemoteSession.workspacesPath.toList.isPrefixOf r.target.path then s.answerWorkspaces r
  else s.answerBindings (workspaceAt session r.server) r

/-- The server of a session, which answers every request. -/
def network (session : RemoteSession) : Network PlainStore where
  answer r s := (some (serve session r s).1, (serve session r s).2)
  wall _ := .epoch

section

variable {session : RemoteSession} {name workspace : String} {address : Uri} {s : PlainStore}

/-- The address of a workspace tells its name, where the root path is plain. -/
theorem workspaceAt_of_workspaceUrl (hproper : session.root.target.IsProper)
    (hplain : IsPlain session.rootPath.toList) (h : IsLabel workspace)
    (haddress : session.workspaceUrl workspace = .ok address) :
    workspaceAt session (.logicalCluster address) = workspace := by
  have hlabel : IsPlain workspace.toList :=
    PathAndQuery.isPlain_of_isPathChar fun c hc => isPathChar_of_isLabelChar (h.chars c hc)
  have hpath := LogicalCluster.path_of_clusterUrl hproper haddress
  rw [PathAndQuery.pathPart_eq_self_iff.mpr (LogicalCluster.isPlain_path hplain hlabel),
    LogicalCluster.path, String.toList_append, ← List.append_assoc] at hpath
  have hlength : (LogicalCluster.base session.root).length + session.rootPath.length + 1 =
      (LogicalCluster.base session.root ++ (session.rootPath ++ ":").toList).length := by
    rw [List.length_append, String.length_toList, String.length_append, Nat.add_assoc]
    rfl
  rw [workspaceAt, hpath, hlength, List.drop_left, String.ofList_toList]

/-- A workspace is looked up by its name, and nothing changes by that. -/
theorem serve_lookup (session : RemoteSession) (name : String) (s : PlainStore) :
    serve session (session.lookup name) s =
      (shown Workspace.toJson (s.workspaces.get? name), s) := by
  have hpath : (session.lookup name).target.path =
      (RemoteSession.workspacesPath ++ "/").toList ++ name.toList := by
    show (RemoteSession.workspacePath name).toList = _
    rw [RemoteSession.workspacePath, String.toList_append]
  have hprefix : RemoteSession.workspacesPath.toList.isPrefixOf
      (session.lookup name).target.path = true := by
    rw [hpath, List.isPrefixOf_iff_prefix, String.toList_append, List.append_assoc]
    exact List.prefix_append _ _
  have hname : String.ofList ((session.lookup name).target.path.drop
      (RemoteSession.workspacesPath.length + 1)) = name := by
    have hlength : RemoteSession.workspacesPath.length + 1 =
        (RemoteSession.workspacesPath ++ "/").toList.length := by decide
    rw [hpath, hlength, List.drop_left, String.ofList_toList]
  rw [serve, if_pos hprefix]
  show (shown Workspace.toJson (s.workspaces.get? (String.ofList _)), s) = _
  rw [hname]

/-- Workspaces are listed by their names, whatever labels are asked for. -/
theorem serve_listing (session : RemoteSession) (s : PlainStore) :
    serve session session.listing s =
      (.ofJson 200 (Collection.listOf Workspace.toJson s.workspaces.values), s) := by
  have hprefix :
      RemoteSession.workspacesPath.toList.isPrefixOf session.listing.target.path = true :=
    List.isPrefixOf_iff_prefix.mpr (List.prefix_refl _)
  rw [serve, if_pos hprefix]
  rfl

/-- A workspace is created, or refused where there is one. -/
theorem serve_creation (session : RemoteSession) (s : PlainStore) {object : Json} {ws : Workspace}
    (hbody : Workspace.ofJson? object = some ws) (hname : ws.metadata.name = some name) :
    serve session (session.creation object) s =
      if s.workspaces.contains name then (BindingUpdate.refusal 409 "AlreadyExists", s)
      else (.ofJson 200 ws.unassigned.toJson, s.insertWorkspace name ws hname) := by
  have hprefix : RemoteSession.workspacesPath.toList.isPrefixOf
      (session.creation object).target.path = true :=
    List.isPrefixOf_iff_prefix.mpr (List.prefix_refl _)
  have hread : body? Workspace.ofJson? (session.creation object) = some ws := hbody
  rw [serve, if_pos hprefix, answerWorkspaces, hread]
  dsimp only [RemoteSession.creation]
  split
  · rename_i hnone
    rw [hname] at hnone
    cases hnone
  · rename_i told htold
    obtain rfl : name = told := Option.some.inj (hname.symm.trans htold)
    rfl

/-- Bindings are not asked for under the path of workspaces. -/
theorem isPrefixOf_bindingPath : RemoteSession.workspacesPath.toList.isPrefixOf
    BindingUpdate.bindingPath.toList = false := by decide

/-- Neither are they asked for as a whole under the path of workspaces. -/
theorem isPrefixOf_bindingsPath : RemoteSession.workspacesPath.toList.isPrefixOf
    BindingUpdate.bindingsPath.toList = false := by decide

/-- The binding of a workspace is looked up by the address of the workspace. -/
theorem serve_read (h : workspaceAt session (.logicalCluster address) = workspace) :
    serve session (BindingUpdate.readRequest address) s =
      (shown ClusterRoleBinding.toJson (s.bindings.get? workspace), s) := by
  have hprefix : RemoteSession.workspacesPath.toList.isPrefixOf
      (BindingUpdate.readRequest address).target.path = false := isPrefixOf_bindingPath
  rw [serve, hprefix, if_neg Bool.false_ne_true, answerBindings, ← h]
  rfl

/-- The binding of a workspace is stored, whether it is created or replaced. -/
theorem serve_write {r : Request} {object : Json} {b : ClusterRoleBinding} (s : PlainStore)
    (hserver : workspaceAt session r.server = workspace) (hmethod : r.method ≠ .get)
    (hpath : RemoteSession.workspacesPath.toList.isPrefixOf r.target.path = false)
    (hcontent : r.content = some (.object object))
    (hbody : ClusterRoleBinding.ofJson? object = some b)
    (hname : b.metadata.name = some AccessBinding.name) :
    serve session r s = (.ofJson 200 b.unassigned.toJson, s.insertBinding workspace b hname) := by
  have hread : body? ClusterRoleBinding.ofJson? r = some b := by
    rw [body?, hcontent]
    exact hbody
  rw [serve, hpath, if_neg Bool.false_ne_true, answerBindings, hserver, hread]
  split
  · contradiction
  · dsimp only
    rw [dif_pos hname]

/-! ### What the server says -/

/-- A refusal is read as an error, with what it says of itself. -/
theorem refused_of_refusal {α : Type} (decode : Json → Option α) {code : Nat} {reason : String}
    (h : (BindingUpdate.refusal code reason).isFailure = true) :
    (BindingUpdate.refusal code reason).decode decode =
      .error (.refused (.ofReply (BindingUpdate.refusal code reason))) := by
  rw [Reply.decode, if_pos h]

/-- What is shown tells whether there is an object. -/
theorem tells_shown {α : Type} {encode : α → Json} {decode : Json → Option α} {x : Option α}
    (h : ∀ a, x = some a → (Reply.ofJson 200 (encode a)).decode decode = .ok a) :
    Tells x ((shown encode x).decode decode) := by
  cases x with
  | none =>
    rw [shown, refused_of_refusal decode rfl]
    exact .missing (by decide +kernel) (by decide +kernel)
  | some a =>
    rw [shown, h a rfl]
    exact .found a

/-- What is written is stored, and the rest of the store stays as it was. -/
theorem stores {r : Request} {object : Json} {b : ClusterRoleBinding} (s : PlainStore)
    (initial : RemoteStore) (hserver : workspaceAt session r.server = workspace)
    (hmethod : r.method ≠ .get)
    (hpath : RemoteSession.workspacesPath.toList.isPrefixOf r.target.path = false)
    (hcontent : r.content = some (.object object))
    (hbody : ClusterRoleBinding.ofJson? object = some b)
    (hname : b.metadata.name = some AccessBinding.name) :
    ∃ stored, (network session).told ClusterRoleBinding.ofJson? r s = .ok stored ∧
      stored.unassigned = b.unassigned ∧
      ((network session).after r s).Holds
        { s.toRemoteStore with bindings := s.bindings.insert workspace stored } initial := by
  have hserve := serve_write s hserver hmethod hpath hcontent hbody hname
  dsimp only [Network.told, Network.after, network]
  rw [hserve]
  exact ⟨b.unassigned, ClusterRoleBinding.decode_ofJson (ObjectMeta.isUnassigned_unassigned _), rfl,
    .refl _ _⟩

/-- The server has no faults, if the root path of the session is plain, so that every workspace has
an address of its own. -/
theorem faultFree (hproper : session.root.target.IsProper)
    (hplain : IsPlain session.rootPath.toList) (initial : RemoteStore) :
    FaultFree session initial (network session) PlainStore.toRemoteStore where
  sound := sound
  lookup s name _ := by
    have hserve := serve_lookup session name s
    dsimp only [Network.told, Network.after, network]
    rw [hserve]
    exact ⟨.refl _ _,
      tells_shown fun ws hws => Workspace.decode_ofJson (s.workspaces_plain _ ws hws)⟩
  created s object ws name hbody hname _ hnone := by
    have hserve := serve_creation session s hbody hname
    rw [SortedMap.contains_eq_false_iff.mpr hnone, if_neg Bool.false_ne_true] at hserve
    dsimp only [Network.told, Network.after, network]
    rw [hserve]
    exact ⟨ws.unassigned, Workspace.decode_ofJson (ObjectMeta.isUnassigned_unassigned _), rfl,
      SortedMap.get?_insert_self _ _ _, .refl _ _⟩
  taken s object ws name old hbody hname _ hsome := by
    have hserve := serve_creation session s hbody hname
    rw [SortedMap.contains_of_get?_eq_some hsome, if_pos rfl] at hserve
    dsimp only [Network.told, Network.after, network]
    rw [hserve]
    exact ⟨⟨_, refused_of_refusal _ rfl, by decide +kernel⟩, .refl _ _⟩
  listing s := by
    have hserve := serve_listing session s
    dsimp only [Network.told, Network.after, network]
    rw [hserve]
    have hplain : ∀ ws ∈ s.workspaces.values, ws.metadata.IsUnassigned := by
      intro ws hws
      obtain ⟨name, hget⟩ := SortedMap.exists_get?_of_mem_values hws
      exact s.workspaces_plain name ws hget
    exact ⟨.refl _ _, s.workspaces.values, Collection.decode_listOf
      (fun ws hws => Workspace.isWorded_toJson (n := 0) (hplain ws hws).isWorded) (by decide)
      fun ws hws => Workspace.ofJson?_toJson (hplain ws hws).isWritable, .inl rfl⟩
  read s workspace address h haddress := by
    have hserve := serve_read (s := s) (workspaceAt_of_workspaceUrl hproper hplain h haddress)
    dsimp only [Network.told, Network.after, network]
    rw [hserve]
    exact ⟨.refl _ _,
      tells_shown fun b hb => ClusterRoleBinding.decode_ofJson (s.bindings_plain _ b hb)⟩
  stored s workspace address object b h haddress hbody hname _ :=
    stores (r := BindingUpdate.createRequest address object) s initial
      (workspaceAt_of_workspaceUrl hproper hplain h haddress) (show Method.post ≠ .get by decide)
      isPrefixOf_bindingsPath rfl hbody hname
  replaced s workspace address object b old h haddress hbody hname _ _ :=
    stores (r := BindingUpdate.replaceRequest address object) s initial
      (workspaceAt_of_workspaceUrl hproper hplain h haddress) (show Method.put ≠ .get by decide)
      isPrefixOf_bindingPath rfl hbody hname

end

end PlainStore

end WorkspaceAccess
