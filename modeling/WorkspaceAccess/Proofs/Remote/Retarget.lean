import WorkspaceAccess.Proofs.Remote.Address
import WorkspaceAccess.Remote.Session

/-!
# A Session and Its Workspaces on One Server

A session points its server at the root workspace, and the address that comes out of that at each of
the other workspaces. That leads to where the server itself would be pointed at, unless the root of
the server's path ends like a marker without its last slash: there that end and the marker behind it
make up an earlier one, and the next logical path takes the place of the marker, too.

So the exact condition is one on the root of the server's path. What stands in front of logical
paths is what two servers with the same scheme and authority have to agree on
(`clusterUrl_congr_iff`), and it stays when a server is pointed at a logical path just when the root
does not end in that way (`base_of_clusterUrl_iff`). Where it does, the address that comes out is
known as well: that end is missing in it.

The first part goes from the settings of a program to its session. The server is the one that is
set, or else the one of the client configuration, and both are read from a text, so that they are
proper addresses.

## Main results

* `RemoteSession.ofConfig_eq_ok_iff`: which session settings lead to.
* `clusterUrl_congr_iff`, `base_of_clusterUrl_iff`: when servers have the same addresses, and when
  pointing a server at a logical path leaves what stands in front of it.
* `clusterUrl_of_clusterUrl`: the address of a server that was pointed at a logical path before.
* `workspaces_are_on_the_server_of_their_session`: the exact condition under which a session and its
  workspaces are on one server.
* `zot_is_on_the_server_of_its_session`, `workspaces_leave_the_server`: a server on which they are,
  and one on which they are not.
-/

namespace WorkspaceAccess

/-! ### The server of a session -/

section Success

variable {ε ε' α β : Type} {x : Except ε α}

/-- Two steps succeed when the first one does and the second one does with what came of it. -/
theorem bind_eq_ok {f : α → Except ε β} {b : β} :
    (x >>= f) = .ok b ↔ ∃ a, x = .ok a ∧ f a = .ok b := by
  cases x <;> simp [bind, Except.bind]

/-- A step succeeds whatever its error would have been turned into. -/
theorem mapError_eq_ok {f : ε → ε'} {a : α} : x.mapError f = .ok a ↔ x = .ok a := by
  cases x <;> simp [Except.mapError]

end Success

/-- The address of the server in a client configuration is read from a text. -/
theorem Kubeconfig.exists_parse?_of_target {config : Kubeconfig} {target : Target}
    (h : config.target = .ok target) : ∃ text, Uri.parse? text = some target.url := by
  rw [Kubeconfig.target] at h
  split at h
  · split at h
    · split at h
      · extract_lets credentials connect at h
        have hconnect : connect () = .ok target := by
          split at h
          · obtain ⟨-, -, h⟩ := bind_eq_ok.mp h
            exact h
          · exact h
        dsimp only [connect] at hconnect
        split at hconnect
        · split at hconnect
          · rename_i hread
            obtain ⟨certificates, -, h⟩ := bind_eq_ok.mp hconnect
            obtain ⟨proxy, -, h⟩ := bind_eq_ok.mp h
            cases h
            exact ⟨_, hread⟩
          · cases hconnect
        · cases hconnect
      · cases h
    · cases h
  · cases h

/-- So is the one that is set in its place. -/
theorem RemoteConfig.exists_parse?_of_target {config : RemoteConfig} {target : Target}
    (h : config.target = .ok target) : ∃ text, Uri.parse? text = some target.url := by
  obtain ⟨parsed, -, h⟩ := bind_eq_ok.mp h
  obtain ⟨configured, hconfigured, h⟩ := bind_eq_ok.mp h
  split at h
  · cases h
    exact Kubeconfig.exists_parse?_of_target (mapError_eq_ok.mp hconfigured)
  · split at h
    · rename_i hread
      cases h
      exact ⟨_, hread⟩
    · cases h

/-- A server that is set takes the place of the one in the client configuration. -/
theorem RemoteConfig.target_of_server {rootPath workspaceType kubeconfig server : String}
    {target : Target} {url : Uri}
    (h : RemoteConfig.target ⟨rootPath, workspaceType, none, kubeconfig⟩ = .ok target)
    (hread : Uri.parse? server = some url) :
    RemoteConfig.target ⟨rootPath, workspaceType, some server, kubeconfig⟩ =
      .ok { target with url } := by
  obtain ⟨parsed, hparsed, h⟩ := bind_eq_ok.mp h
  obtain ⟨configured, hconfigured, h⟩ := bind_eq_ok.mp h
  cases h
  refine bind_eq_ok.mpr ⟨parsed, hparsed, bind_eq_ok.mpr ⟨target, hconfigured, ?_⟩⟩
  dsimp only
  rw [hread]

/-- Settings lead to a session if the server that they tell has an address for the root workspace,
which is the one of the session. -/
theorem RemoteSession.ofConfig_eq_ok_iff {config : RemoteConfig} {ns : String}
    {session : RemoteSession} :
    ofConfig config ns = .ok session ↔
      ∃ target, config.target = .ok target ∧
        clusterUrl target.url config.rootPath = .ok session.root ∧
          session = ⟨config.rootPath, config.workspaceType, session.root, ns⟩ := by
  constructor
  · intro h
    obtain ⟨root, hroot, h⟩ := bind_eq_ok.mp h
    cases h
    obtain ⟨target, htarget, hroot⟩ := bind_eq_ok.mp hroot
    exact ⟨target, htarget, hroot, rfl⟩
  · rintro ⟨target, htarget, hroot, hsession⟩
    rw [hsession]
    exact bind_eq_ok.mpr ⟨_, bind_eq_ok.mpr ⟨target, htarget, hroot⟩, rfl⟩

namespace LogicalCluster

open PathAndQuery (isPathChar pathPart)

variable {server other u v : Uri} {p q : String}

/-! ### Addresses as servers -/

/-- Two servers with the same scheme and authority have the same address for a logical path just
when the same stands in front of it. -/
theorem clusterUrl_congr_iff (hserver : server.target.IsProper) (hother : other.target.IsProper)
    (hscheme : other.scheme = server.scheme) (hauthority : other.authority = server.authority)
    (hv : clusterUrl server q = .ok v) : clusterUrl other q = .ok v ↔ base other = base server := by
  constructor
  · intro hsame
    have hpath := (path_of_clusterUrl hother hsame).symm.trans (path_of_clusterUrl hserver hv)
    exact List.append_cancel_right hpath
  · intro hbase
    rw [clusterUrl_eq_ok_iff hother, hscheme, hauthority, hbase, ← clusterUrl_eq_ok_iff hserver]
    exact hv

/-- What stands in front of logical paths stays when a server is pointed at one of them, unless the
root ends like a marker without its last slash. -/
theorem base_of_clusterUrl_iff (hserver : server.target.IsProper)
    (hu : clusterUrl server p = .ok u) : base u = base server ↔ ¬stem <:+ root server.path := by
  rw [base, path_of_clusterUrl hserver hu, base, List.append_left_inj]
  exact root_append_marker_iff (isRoot_root server.path) _

/-- A server that was pointed at a logical path has an address for every one that the server itself
has an address for. -/
theorem exists_clusterUrl_of_clusterUrl (hserver : server.target.IsProper)
    (hu : clusterUrl server p = .ok u) (hv : clusterUrl server q = .ok v) :
    ∃ w, clusterUrl u q = .ok w := by
  have hproper := isProper_of_clusterUrl hserver hu
  obtain ⟨htakes, hvalid, hv⟩ := (clusterUrl_eq_ok_iff hserver).mp hv
  rw [hv] at hvalid
  rw [← scheme_of_clusterUrl hserver hu, ← authority_of_clusterUrl hserver hu] at htakes
  have hstar : u.path ≠ ['*'] := by
    intro hpath
    have hlength := congrArg List.length ((path_of_clusterUrl hserver hu).symm.trans hpath)
    have hmarker : marker.length = 10 := rfl
    rw [base, List.length_append, List.length_append, hmarker, List.length_singleton] at hlength
    omega
  refine ⟨_, (clusterUrl_eq_ok_iff hproper).mpr ⟨htakes, ?_, rfl⟩⟩
  refine ⟨fun c hc => ?_, hvalid.query, ?_⟩
  · rcases List.mem_append.mp hc with hbase | hpath
    · exact isPathChar_of_mem_base hproper c hbase
    · exact hvalid.path c (List.mem_append_right _ hpath)
  · exact (isPathStart_base_append_iff hproper _).mpr hstar

/-- A server that was pointed at a logical path is pointed at another one. The address is that of
the server itself just when the root does not end like a marker without its last slash; otherwise
that end is missing in it. -/
theorem clusterUrl_of_clusterUrl (hserver : server.target.IsProper)
    (hu : clusterUrl server p = .ok u) (hv : clusterUrl server q = .ok v) :
    ∃ w, clusterUrl u q = .ok w ∧ (w = v ↔ ¬stem <:+ root server.path) ∧
      ∀ front, root server.path = front ++ stem →
        v.path = front ++ stem ++ marker ++ pathPart q.toList ∧
        w.path = front ++ marker ++ pathPart q.toList := by
  have hproper := isProper_of_clusterUrl hserver hu
  obtain ⟨w, hw⟩ := exists_clusterUrl_of_clusterUrl hserver hu hv
  refine ⟨w, hw, ?_, fun front hfront => ⟨?_, ?_⟩⟩
  · calc w = v ↔ clusterUrl u q = .ok v := by rw [hw, Except.ok.injEq]
      _ ↔ base u = base server := clusterUrl_congr_iff hserver hproper
          (scheme_of_clusterUrl hserver hu) (authority_of_clusterUrl hserver hu) hv
      _ ↔ ¬stem <:+ root server.path := base_of_clusterUrl_iff hserver hu
  · rw [path_of_clusterUrl hserver hv, base, hfront]
  · have hroot : IsRoot server.path (front ++ stem) := hfront ▸ isRoot_root server.path
    rw [path_of_clusterUrl hproper hw, base, path_of_clusterUrl hserver hu, base, hfront,
      root_append_marker_of_stem hroot]

/-- On a server that is proper, as every address that is read is, pointing an address at another
logical path leads to where the server itself would be pointed at just when the root of the server's
path does not end like a marker without its last slash. A session points its server at the root
workspace and the outcome at the others: on such a server, and on no other, the address that it has
for a workspace is the one of the workspace on the server. -/
theorem workspaces_are_on_the_server_of_their_session (server : Uri) (config : RemoteConfig)
    (ns : String) :
    (server.target.IsProper → ∀ p q u v, clusterUrl server p = .ok u → clusterUrl server q = .ok v →
      ∃ w, clusterUrl u q = .ok w ∧ (w = v ↔ ¬stem <:+ root server.path) ∧
        ∀ front, root server.path = front ++ stem →
          v.path = front ++ stem ++ marker ++ pathPart q.toList ∧
          w.path = front ++ marker ++ pathPart q.toList) ∧
    ∀ session, RemoteSession.ofConfig config ns = .ok session →
      ∃ target, config.target = .ok target ∧ target.url.target.IsProper ∧
        base target.url <+: session.root.path ∧
        ∀ workspace w, session.workspaceUrl workspace = .ok w →
          (clusterUrl target.url (LogicalCluster.path config.rootPath workspace) = .ok w ↔
            ¬stem <:+ root target.url.path) ∧
          (¬stem <:+ root target.url.path → base target.url <+: w.path) := by
  refine ⟨fun hserver p q u v hu hv => clusterUrl_of_clusterUrl hserver hu hv,
    fun session hsession => ?_⟩
  obtain ⟨target, htarget, hroot, hfields⟩ := RemoteSession.ofConfig_eq_ok_iff.mp hsession
  have hpath : session.rootPath = config.rootPath := by rw [hfields]
  obtain ⟨text, hread⟩ := RemoteConfig.exists_parse?_of_target htarget
  have hserver := Uri.isProper_of_parse? hread
  have hproper := isProper_of_clusterUrl hserver hroot
  refine ⟨target, htarget, hserver, ?_, fun workspace w hw => ⟨?_, fun hstem => ?_⟩⟩
  · rw [path_of_clusterUrl hserver hroot]
    exact List.prefix_append _ _
  · rw [RemoteSession.workspaceUrl, hpath] at hw
    rw [clusterUrl_congr_iff hproper hserver (scheme_of_clusterUrl hserver hroot).symm
      (authority_of_clusterUrl hserver hroot).symm hw, eq_comm]
    exact base_of_clusterUrl_iff hserver hroot
  · rw [RemoteSession.workspaceUrl] at hw
    rw [path_of_clusterUrl hproper hw, (base_of_clusterUrl_iff hserver hroot).mpr hstem]
    exact List.prefix_append _ _

/-! ### Two servers -/

/-- Settings with a client configuration, and perhaps another server. -/
def settings (server : Option String) : RemoteConfig where
  rootPath := "root"
  workspaceType := "project"
  server
  kubeconfig :=
    "clusters:\n- name: kcp\n  cluster:\n    server: https://kcp.test/kcp\n" ++
    "contexts:\n- name: kcp\n  context:\n    cluster: kcp\n" ++
    "current-context: kcp\n"

/-- A session with the address of its root workspace. -/
def sessionAt (path : String) : RemoteSession := ⟨"root", "project", urlOf path, "maintainerd"⟩

/-- The client configuration is read, and leads to the server that is written in it. -/
theorem exists_target_of_settings :
    ∃ target, (settings none).target = .ok target ∧ target.url = urlOf "/kcp" := by
  have hurl : (settings none).target.map (·.url) = .ok (urlOf "/kcp") := by decide +kernel
  cases htarget : (settings none).target with
  | error e =>
    rw [htarget] at hurl
    cases hurl
  | ok target =>
    rw [htarget] at hurl
    exact ⟨target, rfl, Except.ok.inj hurl⟩

/-- The server of the client configuration ends in another way, so that a workspace is on it. -/
theorem zot_is_on_the_server_of_its_session :
    RemoteSession.ofConfig (settings none) "maintainerd" = .ok (sessionAt "/kcp/clusters/root") ∧
    (sessionAt "/kcp/clusters/root").workspaceUrl "zot" = .ok (urlOf "/kcp/clusters/root:zot") ∧
    clusterUrl (urlOf "/kcp") "root:zot" = .ok (urlOf "/kcp/clusters/root:zot") ∧
    clusterUrl (urlOf "/kcp/clusters/root") "root:zot" = .ok (urlOf "/kcp/clusters/root:zot") := by
  have hread : Uri.parse? "https://kcp.test/kcp" = some (urlOf "/kcp") := by decide
  obtain ⟨told, htold, hurl⟩ := exists_target_of_settings
  have hsession : RemoteSession.ofConfig (settings none) "maintainerd" =
      .ok (sessionAt "/kcp/clusters/root") := by
    refine RemoteSession.ofConfig_eq_ok_iff.mpr ⟨told, htold, ?_, rfl⟩
    rw [hurl]
    rfl
  have hworkspace : (sessionAt "/kcp/clusters/root").workspaceUrl "zot" =
      .ok (urlOf "/kcp/clusters/root:zot") := rfl
  obtain ⟨hlaw, hsessions⟩ :=
    workspaces_are_on_the_server_of_their_session (urlOf "/kcp") (settings none) "maintainerd"
  obtain ⟨target, htarget, -, -, hworkspaces⟩ := hsessions _ hsession
  obtain rfl : told = target := Except.ok.inj (htold.symm.trans htarget)
  have hzot : clusterUrl (urlOf "/kcp") "root:zot" = .ok (urlOf "/kcp/clusters/root:zot") := by
    have hiff := (hworkspaces "zot" _ hworkspace).1
    rw [hurl] at hiff
    exact hiff.mpr (by decide)
  obtain ⟨w, hw, hsame, -⟩ :=
    hlaw (Uri.isProper_of_parse? hread) "root" "root:zot" _ _ rfl hzot
  rw [hsame.mpr (by decide)] at hw
  exact ⟨hsession, hworkspace, hzot, hw⟩

/-- On a server whose path ends like a marker without its last slash, the session addresses the root
workspace behind two markers and every other one behind one. -/
theorem workspaces_leave_the_server :
    RemoteSession.ofConfig (settings (some "https://kcp.test/clusters")) "maintainerd" =
        .ok (sessionAt "/clusters/clusters/root") ∧
      clusterUrl (urlOf "/clusters") "root" = .ok (urlOf "/clusters/clusters/root") ∧
      clusterUrl (urlOf "/clusters") "root:zot" = .ok (urlOf "/clusters/clusters/root:zot") ∧
      clusterUrl (urlOf "/clusters/clusters/root") "root:zot" = .ok (urlOf "/clusters/root:zot") ∧
      (sessionAt "/clusters/clusters/root").workspaceUrl "zot" =
        .ok (urlOf "/clusters/root:zot") := by
  have hread : Uri.parse? "https://kcp.test/clusters" = some (urlOf "/clusters") := by decide
  obtain ⟨told, htold, -⟩ := exists_target_of_settings
  have hroot : clusterUrl (urlOf "/clusters") "root" = .ok (urlOf "/clusters/clusters/root") := rfl
  have htarget : (settings (some "https://kcp.test/clusters")).target =
      .ok { told with url := urlOf "/clusters" } := RemoteConfig.target_of_server htold hread
  exact ⟨RemoteSession.ofConfig_eq_ok_iff.mpr ⟨_, htarget, hroot, rfl⟩, hroot, rfl, rfl, rfl⟩

end LogicalCluster

end WorkspaceAccess
