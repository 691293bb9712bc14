import WorkspaceAccess.Proofs.Api.Transcript
import WorkspaceAccess.Proofs.Remote.Retarget
import WorkspaceAccess.Proofs.Workspace.Label

/-!
# Requests about Workspaces

Every operation of a session on workspaces is made up of requests of three kinds: one looks up a
workspace by its name, one creates a workspace from an object, and one lists the workspaces with the
labels of this controller. A name that is a label stands in the path of the request as it is.

A request is built from a path and a query as texts, which are put together and read as an address,
and it is not sent where that fails. So each kind of request has a lemma that its path is read as it
is, and with it the operation is shown to be that one request and the reading of its reply. A name
that is no label may make another path, and nothing is said about it.

The addresses of the workspaces themselves are built in another way, from the address of the
session. There is one for every workspace that is named by a label, whatever the settings of the
session are: the name is put behind a colon at the end of the path, or of the query where the path
of the root workspace had a question mark in it, and may stand in both.

## Main results

* `exists_pathPart_append`, `exists_queryPart?_append`, `IsProper.append`: what is put behind a text
  that is read as a path and query.
* `exists_workspaceUrl`: in a session that settings lead to, every workspace that is named by a
  label has an address.
* `workspaces_get_eq`, `workspaces_create_eq`, `workspaces_list_eq`: what the operations send.
-/

namespace WorkspaceAccess

open WorkspaceName (IsLabel isPathChar_of_isLabelChar isQueryChar_of_isLabelChar)

namespace PathAndQuery

variable {front s t : List Char}

/-! ### What is put behind a text -/

/-- The beginning of a text that passes a test ends within the first part of the text, or goes on
into the other part. -/
theorem exists_takeWhile_append (p : Char → Bool) (s t : List Char) :
    ∃ more, more <+: t ∧ (s ++ t).takeWhile p = s.takeWhile p ++ more := by
  by_cases hall : (s.takeWhile p).length = s.length
  · refine ⟨t.takeWhile p, List.takeWhile_prefix p, ?_⟩
    rw [List.takeWhile_append, if_pos hall, (List.takeWhile_prefix p).eq_of_length hall]
  · refine ⟨[], List.nil_prefix, ?_⟩
    rw [List.takeWhile_append, if_neg hall, List.append_nil]

/-- A path goes on into what is put behind it, or it does not. -/
theorem exists_pathPart_append (s t : List Char) :
    ∃ more, more <+: t ∧ pathPart (s ++ t) = pathPart s ++ more := by
  obtain ⟨kept, hkept, hfragment⟩ := exists_takeWhile_append (· ≠ '#') s t
  obtain ⟨more, hmore, hpath⟩ := exists_takeWhile_append (· ≠ '?') (withoutFragment s) kept
  refine ⟨more, hmore.trans hkept, ?_⟩
  rw [pathPart, withoutFragment, hfragment]
  exact hpath

/-- So does a query, and none begins where there is no question mark. -/
theorem exists_queryPart?_append (s : List Char) (ht : IsPlain t) :
    ∃ more, more <+: t ∧ queryPart? (s ++ t) = (queryPart? s).map (· ++ more) := by
  obtain ⟨more, hmore, hfragment⟩ := exists_takeWhile_append (· ≠ '#') s t
  refine ⟨more, hmore, ?_⟩
  have hplain : more.dropWhile (· ≠ '?') = [] := by
    rw [List.dropWhile_eq_nil_iff]
    intro c hc
    simpa using (ht c (hmore.subset hc)).1
  have hread : withoutFragment (s ++ t) = withoutFragment s ++ more := hfragment
  rw [queryPart?, hread, List.dropWhile_append, hplain, queryPart?]
  cases (withoutFragment s).dropWhile (· ≠ '?') <;> rfl

/-- What is put behind a text that is read as a proper path and query leaves them proper, if it may
stand in a path and in a query. -/
theorem IsProper.append (h : IsProper ⟨front ++ pathPart s, queryPart? s⟩)
    (hstart : isPathStart (front ++ pathPart (s ++ t)) = true)
    (hpath : ∀ c ∈ t, isPathChar c = true) (hquery : ∀ c ∈ t, isQueryChar c = true) :
    IsProper ⟨front ++ pathPart (s ++ t), queryPart? (s ++ t)⟩ := by
  refine ⟨fun c hc => ?_, fun c hc => ?_, hstart⟩
  · obtain ⟨more, hmore, hpart⟩ := exists_pathPart_append s t
    dsimp only at hc
    rw [hpart, ← List.append_assoc] at hc
    rcases List.mem_append.mp hc with hc | hc
    · exact h.path c hc
    · exact hpath c (hmore.subset hc)
  · obtain ⟨more, hmore, hpart⟩ := exists_queryPart?_append s (isPlain_of_isPathChar hpath)
    have hold := h.query
    dsimp only at hc hold
    rw [hpart] at hc
    cases hs : queryPart? s with
    | none =>
      rw [hs] at hc
      exact absurd hc List.not_mem_nil
    | some query =>
      rw [hs] at hc hold
      rcases List.mem_append.mp hc with hc | hc
      · exact hold c hc
      · exact hquery c (hmore.subset hc)

end PathAndQuery

/-- A path that starts with a slash and holds only characters of paths is read as it is. -/
theorem Uri.parse?_path {path : String}
    (hchars : ∀ c ∈ path.toList, PathAndQuery.isPathChar c = true)
    (hslash : path.toList.head? = some '/') (hsize : path.utf8ByteSize ≤ maxLength) :
    parse? path = some ⟨none, "", ⟨path.toList, none⟩⟩ := by
  have hplain := PathAndQuery.isPlain_of_isPathChar hchars
  have hread : PathAndQuery.ofChars? path.toList = some ⟨path.toList, none⟩ := by
    refine PathAndQuery.ofChars?_eq_some_iff.mpr ⟨?_, hchars, ?_, ?_⟩
    · rw [PathAndQuery.pathPart_eq_self_iff.mpr hplain, PathAndQuery.queryPart?_of_isPlain hplain]
    · exact fun c hc => absurd hc List.not_mem_nil
    · simp [PathAndQuery.isPathStart, hslash]
  rw [parse?, if_pos hsize]
  cases hpath : path.toList with
  | nil =>
    rw [hpath] at hslash
    cases hslash
  | cons c rest =>
    rw [hpath] at hslash hread
    obtain rfl : c = '/' := Option.some.inj hslash
    rw [ofChars?.eq_def]
    simp only [hread, Option.map_some]

namespace RemoteSession

variable {s : RemoteSession} {name : String}

/-! ### The addresses of workspaces -/

/-- The name of a workspace may stand in a path and in a query, behind the colon that joins it to
the path of its parent. -/
theorem isPathChar_of_mem_joined (h : IsLabel name) :
    ∀ c ∈ ':' :: name.toList, PathAndQuery.isPathChar c = true :=
  List.forall_mem_cons.mpr ⟨by decide, fun c hc => isPathChar_of_isLabelChar (h.chars c hc)⟩

/-- Neither does it contain anything that may not stand in a query. -/
theorem isQueryChar_of_mem_joined (h : IsLabel name) :
    ∀ c ∈ ':' :: name.toList, PathAndQuery.isQueryChar c = true :=
  List.forall_mem_cons.mpr ⟨by decide, fun c hc => isQueryChar_of_isLabelChar (h.chars c hc)⟩

/-- In a session that settings lead to, a workspace that is named by a label has an address. -/
theorem exists_workspaceUrl {config : RemoteConfig} {ns : String}
    (h : ofConfig config ns = .ok s) (hname : IsLabel name) :
    ∃ address, s.workspaceUrl name = .ok address := by
  obtain ⟨target, htarget, hroot, hfields⟩ := ofConfig_eq_ok_iff.mp h
  have hrootPath : s.rootPath = config.rootPath := by rw [hfields]
  obtain ⟨text, hread⟩ := RemoteConfig.exists_parse?_of_target htarget
  have hserver := Uri.isProper_of_parse? hread
  have hproper := LogicalCluster.isProper_of_clusterUrl hserver hroot
  -- The root workspace itself has an address in the session, and its name goes on with the label.
  obtain ⟨again, hagain⟩ := LogicalCluster.exists_clusterUrl_of_clusterUrl hserver hroot hroot
  obtain ⟨htakes, hvalid, hagain⟩ := (LogicalCluster.clusterUrl_eq_ok_iff hproper).mp hagain
  rw [hagain] at hvalid
  have hpath : (LogicalCluster.path s.rootPath name).toList =
      config.rootPath.toList ++ ':' :: name.toList := by
    rw [LogicalCluster.path, String.toList_append, String.toList_append, hrootPath,
      List.append_assoc]
    rfl
  refine ⟨_, (LogicalCluster.clusterUrl_eq_ok_iff hproper).mpr ⟨htakes, ?_, rfl⟩⟩
  rw [hpath]
  refine hvalid.append ?_ (isPathChar_of_mem_joined hname) (isQueryChar_of_mem_joined hname)
  exact (LogicalCluster.isPathStart_base_append_iff hproper _).mpr
    ((LogicalCluster.isPathStart_base_append_iff hproper _).mp hvalid.start)

/-! ### What is sent -/

/-- The path of the workspaces, on the logical cluster of the root workspace. -/
def workspacesPath : String := ObjectKind.workspace.path none

/-- The path of a workspace, by its name. -/
def workspacePath (name : String) : String := workspacesPath ++ "/" ++ name

/-- Looks a workspace up, by its name alone. -/
def lookup (s : RemoteSession) (name : String) : Request :=
  ⟨.logicalCluster s.root, .get, ⟨(workspacePath name).toList, none⟩, none⟩

/-- Creates a workspace from an object that carries its name. -/
def creation (s : RemoteSession) (object : Json) : Request :=
  ⟨.logicalCluster s.root, .post, ⟨workspacesPath.toList, some []⟩, some (.object object)⟩

/-- The query that asks for the labels of this controller. -/
def managedQuery : String := Form.render [("labelSelector", managedSelector)]

/-- Lists the workspaces, those with the label of this controller. -/
def listing (s : RemoteSession) : Request :=
  ⟨.logicalCluster s.root, .get, ⟨workspacesPath.toList, some managedQuery.toList⟩, none⟩

/-- The path of a workspace that is named by a label is read as it is. -/
theorem uri_workspacePath (h : IsLabel name) :
    Uri.parse? (workspacePath name) = some ⟨none, "", ⟨(workspacePath name).toList, none⟩⟩ := by
  have hpath : (workspacePath name).toList = workspacesPath.toList ++ '/' :: name.toList := by
    rw [workspacePath, String.toList_append, String.toList_append, List.append_assoc]
    rfl
  refine Uri.parse?_path (fun c hc => ?_) ?_ ?_
  · rw [hpath] at hc
    have hfront : workspacesPath.toList.all PathAndQuery.isPathChar = true := by decide
    rcases List.mem_append.mp hc with hc | hc
    · exact List.all_eq_true.mp hfront c hc
    · rcases List.mem_cons.mp hc with rfl | hc
      · decide
      · exact isPathChar_of_isLabelChar (h.chars c hc)
  · have hslash : workspacesPath.toList.head? = some '/' := by decide
    rw [hpath, List.head?_append, hslash, Option.some_or]
  · have hbytes := h.utf8ByteSize_le
    have hfront : (workspacesPath ++ "/").utf8ByteSize ≤ 100 := by decide
    rw [workspacePath, String.utf8ByteSize_append]
    have hmax : 100 + 4 * WorkspaceName.maxLength ≤ Uri.maxLength := by decide
    omega

/-- The path of the workspaces is read as it is in front of an empty query. -/
theorem uri_workspacesPath_query :
    Uri.parse? (workspacesPath ++ "?" ++ Form.render []) =
      some ⟨none, "", ⟨workspacesPath.toList, some []⟩⟩ := by
  decide +kernel

/-- So it is in front of the query that asks for the labels. -/
theorem uri_workspacesPath_managed :
    Uri.parse? (workspacesPath ++ "?" ++ managedQuery) =
      some ⟨none, "", ⟨workspacesPath.toList, some managedQuery.toList⟩⟩ := by
  decide +kernel

/-- A workspace is looked up by one request, if its name is a label. -/
theorem workspaces_get_eq (s : RemoteSession) (h : IsLabel name) :
    s.workspaces.get name =
      .send (s.lookup name) fun reply => .done (Exchange.answer Workspace.ofJson? reply) := by
  have hpath : s.workspaces.pathOf? name = some (workspacePath name) := if_neg h.nonempty
  rw [Collection.get, hpath, Option.bind_some, Request.ofTarget?, uri_workspacePath h,
    Option.map_some, Exchange.request_some]
  rfl

/-- A workspace is created by one request, whatever the object is. -/
theorem workspaces_create_eq (s : RemoteSession) (object : Json) :
    s.workspaces.create object =
      .send (s.creation object) fun reply => .done (Exchange.answer Workspace.ofJson? reply) := by
  have hpath : s.workspaces.path = workspacesPath := rfl
  rw [Collection.create, hpath, Request.ofPath?, Request.ofTarget?, uri_workspacesPath_query,
    Option.map_some, Exchange.request_some]
  rfl

/-- The workspaces are listed by one request, with the label as a parameter. -/
theorem workspaces_list_eq (s : RemoteSession) :
    s.workspaces.list (some managedSelector) =
      .send s.listing fun reply =>
        .done (Exchange.answer (Collection.objects? Workspace.ofJson?) reply) := by
  have hpath : s.workspaces.path = workspacesPath := rfl
  have hread : Request.ofPath? s.workspaces.server .get workspacesPath
      [("labelSelector", managedSelector)] none = some s.listing := by
    rw [Request.ofPath?, Request.ofTarget?, ← managedQuery, uri_workspacesPath_managed,
      Option.map_some]
    rfl
  rw [Collection.list, hpath, Option.map_some, Option.toList_some, hread, Exchange.request_some]
  rfl

end RemoteSession

end WorkspaceAccess
