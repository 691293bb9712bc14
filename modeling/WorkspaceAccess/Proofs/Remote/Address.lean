import WorkspaceAccess.Proofs.Remote.LogicalCluster

/-!
# Addresses of Logical Clusters Are Exact

The address of a logical path on a server has the scheme and the authority of the server, and its
path is the root of the server's path, a marker and the logical path. That holds of every logical
path that is plain, which is to say that it has neither a question mark nor a hash sign in it, and
of no other one: a question mark would begin a query, and what follows a hash sign is dropped, so
that different logical paths may come to the same address.

An address is put together as a text and then read. So what is to be shown is how a text is read
whose parts are known: the path ends at the first question mark or hash sign, a query begins behind
a question mark, and both are refused when they hold a character that may not stand there. The
addresses that are read, and those of logical clusters, are proper in this sense
(`PathAndQuery.IsProper`), so that a server may be pointed at one logical cluster after another.

Some servers have no address for any logical path: an authority alone, which has no path at all, and
the star.

## Main results

* `ofChars?_eq_some_iff`: a text is read as its parts, if they are proper.
* `pathPart_eq_self_iff`: a text is read as a path as it is just when it is plain.
* `withTarget?_eq_some_iff`, `clusterUrl_eq_ok_iff`: when there is an address, and which it is.
* `scheme_of_clusterUrl`, `authority_of_clusterUrl`, `query_of_clusterUrl`, `path_of_clusterUrl`:
  the parts of the address.
* `isExact_iff`, `eq_of_clusterUrl`, `exists_clusterUrl_iff`: exactness, injectivity and existence.
* `plain_paths_are_addressed_exactly`: all of it, for every proper server.
* `zot_is_addressed_exactly`, `hashed_workspaces_share_an_address`: a plain path, and two that are
  not.
-/

namespace WorkspaceAccess

namespace PathAndQuery

variable {s front : List Char} {t : PathAndQuery}

/-- The part of a text that is read as a path: it ends at a question mark or a hash sign. -/
def pathPart (s : List Char) : List Char := (withoutFragment s).takeWhile (· ≠ '?')

/-- The part of a text that is read as a query: it begins behind a question mark. -/
def queryPart? (s : List Char) : Option (List Char) :=
  match (withoutFragment s).dropWhile (· ≠ '?') with
  | [] => none
  | _ :: query => some query

/-- The path and the query hold only characters that may stand there, and the path begins as paths
do. -/
structure IsProper (t : PathAndQuery) : Prop where
  /-- The path has only characters that may stand in one. -/
  path : ∀ c ∈ t.path, isPathChar c = true
  /-- The query, if there is one, has only characters that may stand in one. -/
  query : ∀ c ∈ t.query.getD [], isQueryChar c = true
  /-- The path begins as a path may begin. -/
  start : isPathStart t.path = true

/-- The empty path without a query is proper, as there is nothing wrong in it. -/
theorem isProper_empty : empty.IsProper :=
  ⟨List.all_eq_true.mp rfl, List.all_eq_true.mp rfl, rfl⟩

/-- So is the star, which stands for the server as a whole. -/
theorem isProper_star : IsProper ⟨['*'], none⟩ :=
  ⟨List.all_eq_true.mp rfl, List.all_eq_true.mp rfl, rfl⟩

/-- A text is read as its parts, if they are proper. -/
theorem ofChars?_eq_some_iff :
    ofChars? s = some t ↔ t = ⟨pathPart s, queryPart? s⟩ ∧ t.IsProper := by
  have hread : ofChars? s =
      if (pathPart s).all isPathChar && ((queryPart? s).getD []).all isQueryChar &&
          isPathStart (pathPart s) then
        some ⟨pathPart s, queryPart? s⟩
      else none := rfl
  rw [hread]
  split
  · rename_i hproper
    simp only [Bool.and_eq_true, List.all_eq_true] at hproper
    obtain ⟨⟨hpath, hquery⟩, hstart⟩ := hproper
    constructor
    · intro h
      cases h
      exact ⟨rfl, hpath, hquery, hstart⟩
    · rintro ⟨rfl, -⟩
      rfl
  · rename_i himproper
    constructor
    · intro h
      cases h
    · rintro ⟨rfl, hpath, hquery, hstart⟩
      refine absurd ?_ himproper
      simp only [Bool.and_eq_true, List.all_eq_true]
      exact ⟨⟨hpath, hquery⟩, hstart⟩

/-- A text has neither a question mark nor a hash sign in it. -/
def IsPlain (s : List Char) : Prop := ∀ c ∈ s, c ≠ '?' ∧ c ≠ '#'

/-- Characters that may stand in paths make plain texts, neither of the two that end a path being
among them. -/
theorem isPlain_of_isPathChar (h : ∀ c ∈ s, isPathChar c = true) : IsPlain s := by
  intro c hc
  constructor
  · rintro rfl
    exact absurd (h _ hc) (by decide)
  · rintro rfl
    exact absurd (h _ hc) (by decide)

/-- Nothing is dropped from what is plain, whatever is put behind it. -/
theorem withoutFragment_append (h : IsPlain front) (s : List Char) :
    withoutFragment (front ++ s) = front ++ withoutFragment s :=
  List.takeWhile_append_of_pos fun c hc => by simpa using (h c hc).2

/-- What is plain stays in the path, whatever follows it. -/
theorem pathPart_append (h : IsPlain front) (s : List Char) :
    pathPart (front ++ s) = front ++ pathPart s := by
  rw [pathPart, withoutFragment_append h]
  exact List.takeWhile_append_of_pos fun c hc => by simpa using (h c hc).1

/-- What is plain is not in the query, whatever follows it. -/
theorem queryPart?_append (h : IsPlain front) (s : List Char) :
    queryPart? (front ++ s) = queryPart? s := by
  have hdrop : (front ++ withoutFragment s).dropWhile (· ≠ '?') =
      (withoutFragment s).dropWhile (· ≠ '?') :=
    List.dropWhile_append_of_pos fun c hc => by simpa using (h c hc).1
  rw [queryPart?, withoutFragment_append h, hdrop, queryPart?]

/-- A text is read as a path as it is just when it is plain. -/
theorem pathPart_eq_self_iff : pathPart s = s ↔ IsPlain s := by
  constructor
  · intro h c hc
    have hpath : c ∈ (withoutFragment s).takeWhile (· ≠ '?') := by
      rw [← h] at hc
      exact hc
    have hmark := List.mem_takeWhile_imp hpath
    have hhash := List.mem_takeWhile_imp (List.takeWhile_subset _ hpath)
    exact ⟨by simpa using hmark, by simpa using hhash⟩
  · intro h
    have happend := pathPart_append h []
    rwa [List.append_nil, show pathPart [] = [] from rfl, List.append_nil] at happend

/-- Of a plain text nothing is read as a query. -/
theorem queryPart?_of_isPlain (h : IsPlain s) : queryPart? s = none := by
  have happend := queryPart?_append h []
  rwa [List.append_nil, show queryPart? [] = none from rfl] at happend

end PathAndQuery

namespace Uri

variable {u later : Uri} {t : PathAndQuery}

/-- What is read from a text is proper: every address that was read has a path and a query that
could be read again. -/
theorem isProper_of_parse? {text : String} (h : parse? text = some u) : u.target.IsProper := by
  have htarget : ∀ {s : List Char} {scheme : Option String} {authority : String},
      (PathAndQuery.ofChars? s).map (⟨scheme, authority, ·⟩) = some u → u.target.IsProper := by
    intro s scheme authority hmap
    obtain ⟨t, ht, rfl⟩ := Option.map_eq_some_iff.mp hmap
    exact (PathAndQuery.ofChars?_eq_some_iff.mp ht).2
  rw [parse?] at h
  split at h
  · rw [ofChars?.eq_def] at h
    split at h
    · cases h
    · cases h
      exact PathAndQuery.isProper_star
    · exact htarget h
    · obtain ⟨⟨scheme, rest⟩, -, h⟩ := Option.bind_eq_some_iff.mp h
      dsimp only at h
      split at h
      · split at h
        · split at h
          · cases h
            exact PathAndQuery.isProper_empty
          · cases h
        · split at h
          · cases h
          · exact htarget h
      · cases h
  · cases h

/-- The path of an address is the one that is written, if one is. -/
theorem path_of_target (h : u.target.path ≠ []) : u.path = u.target.path := by
  have hpath : u.hasPath = true := by simp [hasPath, PathAndQuery.isEmpty, h]
  simp [path, hpath, h]

/-- Otherwise it is a slash, where a path is called for. -/
theorem path_cases (u : Uri) : u.path = [] ∨ u.path = ['/'] ∨ u.path = u.target.path := by
  rw [path]
  split
  · split
    · exact .inr (.inl rfl)
    · exact .inr (.inr rfl)
  · exact .inl rfl

/-- A proper address has only characters of paths in its path. -/
theorem isPathChar_of_mem_path (h : u.target.IsProper) :
    ∀ c ∈ u.path, PathAndQuery.isPathChar c = true := by
  rcases u.path_cases with hpath | hpath | hpath <;> rw [hpath]
  · exact fun c hc => absurd hc List.not_mem_nil
  · exact List.all_eq_true.mp rfl
  · exact h.path

/-- An address takes another path unless it is an authority alone. -/
theorem withTarget?_eq_some_iff :
    u.withTarget? t = some later ↔
      (u.scheme.isSome = true ∨ u.authority = "") ∧ later = ⟨u.scheme, u.authority, t⟩ := by
  rw [withTarget?]
  cases u.scheme <;> by_cases hauthority : u.authority = "" <;>
    simp [hauthority, eq_comm (a := later)]

end Uri

namespace LogicalCluster

open PathAndQuery (IsPlain isPathChar pathPart queryPart?)

variable {server u : Uri} {path : String}

/-- The path of a server in front of a logical path. -/
def base (server : Uri) : List Char := root server.path ++ marker

/-- The path of a server in front of a logical path is never empty: a marker ends it. -/
theorem base_ne_nil (server : Uri) : base server ≠ [] :=
  List.append_ne_nil_of_right_ne_nil _ (by decide)

/-- A proper server has only characters of paths in front of logical paths. -/
theorem isPathChar_of_mem_base (hserver : server.target.IsProper) :
    ∀ c ∈ base server, isPathChar c = true := by
  intro c hc
  rcases List.mem_append.mp hc with hroot | hmarker
  · exact server.isPathChar_of_mem_path hserver c ((isRoot_root server.path).isPrefix.subset hroot)
  · have hall : marker.all isPathChar = true := by decide
    exact List.all_eq_true.mp hall c hmarker

/-- The address of a logical path is the one of the server with the parts of the path behind its
base, if that is an address. -/
theorem clusterUrl_eq_ok_iff (hserver : server.target.IsProper) :
    clusterUrl server path = .ok u ↔
      (server.scheme.isSome = true ∨ server.authority = "") ∧ u.target.IsProper ∧
        u = ⟨server.scheme, server.authority,
          ⟨base server ++ pathPart path.toList, queryPart? path.toList⟩⟩ := by
  have hplain := PathAndQuery.isPlain_of_isPathChar (isPathChar_of_mem_base hserver)
  have hok : clusterUrl server path = .ok u ↔
      (PathAndQuery.ofChars? (base server ++ path.toList)).bind server.withTarget? = some u := by
    rw [clusterUrl, base]
    split <;> rename_i hread <;> rw [hread] <;> simp
  rw [hok, Option.bind_eq_some_iff]
  simp only [PathAndQuery.ofChars?_eq_some_iff, Uri.withTarget?_eq_some_iff,
    PathAndQuery.pathPart_append hplain, PathAndQuery.queryPart?_append hplain]
  constructor
  · rintro ⟨t, ⟨rfl, hproper⟩, htakes, rfl⟩
    exact ⟨htakes, hproper, rfl⟩
  · rintro ⟨htakes, hproper, rfl⟩
    exact ⟨_, ⟨rfl, hproper⟩, htakes, rfl⟩

/-- The address of a logical path is proper again. -/
theorem isProper_of_clusterUrl (hserver : server.target.IsProper)
    (h : clusterUrl server path = .ok u) : u.target.IsProper :=
  ((clusterUrl_eq_ok_iff hserver).mp h).2.1

/-- The address of a logical cluster is one on its server. -/
theorem scheme_of_clusterUrl (hserver : server.target.IsProper)
    (h : clusterUrl server path = .ok u) : u.scheme = server.scheme := by
  obtain ⟨-, -, rfl⟩ := (clusterUrl_eq_ok_iff hserver).mp h
  rfl

/-- It is on the same host and port as the server. -/
theorem authority_of_clusterUrl (hserver : server.target.IsProper)
    (h : clusterUrl server path = .ok u) : u.authority = server.authority := by
  obtain ⟨-, -, rfl⟩ := (clusterUrl_eq_ok_iff hserver).mp h
  rfl

/-- Its query is what was read as a query. -/
theorem query_of_clusterUrl (hserver : server.target.IsProper)
    (h : clusterUrl server path = .ok u) : u.target.query = queryPart? path.toList := by
  obtain ⟨-, -, rfl⟩ := (clusterUrl_eq_ok_iff hserver).mp h
  rfl

/-- Its path is the base of the server and what was read as a path. -/
theorem path_of_clusterUrl (hserver : server.target.IsProper) (h : clusterUrl server path = .ok u) :
    u.path = base server ++ pathPart path.toList := by
  obtain ⟨-, -, rfl⟩ := (clusterUrl_eq_ok_iff hserver).mp h
  exact Uri.path_of_target fun hnil => base_ne_nil server (List.append_eq_nil_iff.mp hnil).1

/-- The address of a logical path is exact: it is one on the server, without a query, and its path
is what stands in front of the logical clusters of the server, a marker and the logical path. -/
structure IsExact (server : Uri) (path : String) (u : Uri) : Prop where
  /-- The scheme is that of the server. -/
  scheme : u.scheme = server.scheme
  /-- The authority is that of the server, its port included. -/
  authority : u.authority = server.authority
  /-- There is no query, whatever the server has. -/
  query : u.target.query = none
  /-- The logical path stands behind a marker, after the root of the server. -/
  path : ∃ r, IsRoot server.path r ∧ u.path = r ++ marker ++ path.toList

/-- Just the plain paths are addressed exactly, whatever the server is. -/
theorem isExact_iff (hserver : server.target.IsProper) (h : clusterUrl server path = .ok u) :
    IsExact server path u ↔ IsPlain path.toList := by
  have hpath := path_of_clusterUrl hserver h
  constructor
  · rintro ⟨-, -, -, r, hr, hexact⟩
    rw [hpath, base, hr.root_eq] at hexact
    exact PathAndQuery.pathPart_eq_self_iff.mp (List.append_cancel_left hexact)
  · intro hplain
    rw [PathAndQuery.pathPart_eq_self_iff.mpr hplain] at hpath
    have hquery := query_of_clusterUrl hserver h
    rw [PathAndQuery.queryPart?_of_isPlain hplain] at hquery
    exact ⟨scheme_of_clusterUrl hserver h, authority_of_clusterUrl hserver h, hquery,
      root server.path, isRoot_root server.path, hpath⟩

/-- Different plain paths have different addresses on one server. -/
theorem eq_of_clusterUrl {p q : String} (hserver : server.target.IsProper) (hp : IsPlain p.toList)
    (hq : IsPlain q.toList) (hpu : clusterUrl server p = .ok u)
    (hqu : clusterUrl server q = .ok u) : p = q := by
  have hsame := (path_of_clusterUrl hserver hpu).symm.trans (path_of_clusterUrl hserver hqu)
  rw [PathAndQuery.pathPart_eq_self_iff.mpr hp, PathAndQuery.pathPart_eq_self_iff.mpr hq] at hsame
  exact String.toList_injective (List.append_cancel_left hsame)

/-- A workspace under a root has a plain path when the root and its name are plain. -/
theorem isPlain_path {parent workspace : String} (hparent : IsPlain parent.toList)
    (hworkspace : IsPlain workspace.toList) :
    IsPlain (LogicalCluster.path parent workspace).toList := by
  intro c hc
  rw [LogicalCluster.path, String.toList_append, String.toList_append] at hc
  rcases List.mem_append.mp hc with hc | hc
  · rcases List.mem_append.mp hc with hc | hc
    · exact hparent c hc
    · rw [show ":".toList = [':'] from rfl, List.mem_singleton] at hc
      rw [hc]
      decide
  · exact hworkspace c hc

/-- A base is the beginning of a path unless the path of the server is a star. -/
theorem isPathStart_base_append_iff (hserver : server.target.IsProper) (s : List Char) :
    PathAndQuery.isPathStart (base server ++ s) = true ↔ server.path ≠ ['*'] := by
  obtain ⟨rest, hrest⟩ := (isRoot_root server.path).isPrefix
  constructor
  · intro hstart hstar
    have hbase : base server = '*' :: marker := by rw [base, hstar]; decide
    have hne : marker ++ s ≠ [] := List.append_ne_nil_of_left_ne_nil (by decide) _
    rw [hbase] at hstart
    simp [PathAndQuery.isPathStart, hne] at hstart
  · intro hstar
    have hslash : (base server ++ s).head? = some '/' := by
      rw [base]
      cases hroot : root server.path with
      | nil => rfl
      | cons c r =>
        rw [hroot] at hrest
        have hhead : server.path.head? = some c := by rw [← hrest]; rfl
        rcases Uri.path_cases server with hpath | hpath | hpath
        · rw [hpath] at hhead
          cases hhead
        · rw [hpath] at hhead
          cases hhead
          rfl
        · have hstart := hserver.start
          rw [← hpath] at hstart
          have hnil : server.path ≠ [] := fun hnil => by
            rw [hnil] at hhead
            cases hhead
          have hhead' : server.path.head? = some '/' := by
            simpa [PathAndQuery.isPathStart, hstar, hnil] using hstart
          rw [hhead] at hhead'
          cases hhead'
          rfl
    simp [PathAndQuery.isPathStart, hslash]

/-- A plain path has an address on every server that is not an authority alone or a star, if it
holds only characters of paths. -/
theorem exists_clusterUrl_iff (hserver : server.target.IsProper) (hplain : IsPlain path.toList) :
    (∃ u, clusterUrl server path = .ok u) ↔
      (server.scheme.isSome = true ∨ server.authority = "") ∧ server.path ≠ ['*'] ∧
        ∀ c ∈ path.toList, isPathChar c = true := by
  simp only [clusterUrl_eq_ok_iff hserver, PathAndQuery.pathPart_eq_self_iff.mpr hplain,
    PathAndQuery.queryPart?_of_isPlain hplain]
  constructor
  · rintro ⟨u, htakes, hproper, rfl⟩
    exact ⟨htakes, (isPathStart_base_append_iff hserver _).mp hproper.start,
      fun c hc => hproper.path c (List.mem_append_right _ hc)⟩
  · rintro ⟨htakes, hstar, hpath⟩
    refine ⟨_, htakes, ⟨fun c hc => ?_, fun c hc => absurd hc List.not_mem_nil, ?_⟩, rfl⟩
    · rcases List.mem_append.mp hc with hc | hc
      · exact isPathChar_of_mem_base hserver c hc
      · exact hpath c hc
    · exact (isPathStart_base_append_iff hserver _).mpr hstar

/-- On a server that is proper, as every address that is read is, just the plain logical paths are
addressed exactly. Each of them has an address if it holds only characters of paths and the server
is no authority alone and no star. Different ones have different addresses, and so have different
workspaces under one root. -/
theorem plain_paths_are_addressed_exactly {server : Uri} (hserver : server.target.IsProper) :
    (∀ path u, clusterUrl server path = .ok u →
      (u.scheme = server.scheme ∧ u.authority = server.authority) ∧
        (IsExact server path u ↔ IsPlain path.toList)) ∧
    (∀ path, IsPlain path.toList → ((∃ u, clusterUrl server path = .ok u) ↔
      (server.scheme.isSome = true ∨ server.authority = "") ∧ server.path ≠ ['*'] ∧
        ∀ c ∈ path.toList, isPathChar c = true)) ∧
    (∀ p q u, IsPlain p.toList → IsPlain q.toList → clusterUrl server p = .ok u →
      clusterUrl server q = .ok u → p = q) ∧
    ∀ parent a b u, IsPlain parent.toList → IsPlain a.toList → IsPlain b.toList →
      clusterUrl server (LogicalCluster.path parent a) = .ok u →
      clusterUrl server (LogicalCluster.path parent b) = .ok u → a = b := by
  refine ⟨fun path u h => ⟨⟨scheme_of_clusterUrl hserver h, authority_of_clusterUrl hserver h⟩,
      isExact_iff hserver h⟩,
    fun path hplain => exists_clusterUrl_iff hserver hplain,
    fun p q u hp hq hpu hqu => eq_of_clusterUrl hserver hp hq hpu hqu,
    fun parent a b u hparent ha hb hau hbu => ?_⟩
  have hpaths :=
    eq_of_clusterUrl hserver (isPlain_path hparent ha) (isPlain_path hparent hb) hau hbu
  exact (String.append_right_inj _).mp hpaths

/-! ### A server -/

/-- An address on a server, by its path and without a query. -/
def urlOf (path : String) : Uri := ⟨some "https", "kcp.test", ⟨path.toList, none⟩⟩

/-- The logical cluster of the server is replaced by the one that is asked for, behind the server's
own path. -/
theorem zot_is_addressed_exactly :
    Uri.parse? "https://kcp.test/kcp/clusters/root:old" = some (urlOf "/kcp/clusters/root:old") ∧
    clusterUrl (urlOf "/kcp/clusters/root:old") "root:zot" = .ok (urlOf "/kcp/clusters/root:zot") ∧
    IsExact (urlOf "/kcp/clusters/root:old") "root:zot" (urlOf "/kcp/clusters/root:zot") := by
  have hread : Uri.parse? "https://kcp.test/kcp/clusters/root:old" =
      some (urlOf "/kcp/clusters/root:old") := by decide
  have hplain : IsPlain "root:zot".toList :=
    PathAndQuery.isPlain_of_isPathChar (List.all_eq_true.mp rfl)
  obtain ⟨hexact, -⟩ := plain_paths_are_addressed_exactly (Uri.isProper_of_parse? hread)
  exact ⟨hread, rfl, (hexact _ _ rfl).2.mpr hplain⟩

/-- What follows a hash sign is dropped, so that all workspaces under such a root are addressed at
the same place, which is the one of another logical path. -/
theorem hashed_workspaces_share_an_address :
    clusterUrl (urlOf "/kcp") (LogicalCluster.path "root#kdp" "zot") =
        .ok (urlOf "/kcp/clusters/root") ∧
      clusterUrl (urlOf "/kcp") (LogicalCluster.path "root#kdp" "argo") =
        .ok (urlOf "/kcp/clusters/root") ∧
      clusterUrl (urlOf "/kcp") "root" = .ok (urlOf "/kcp/clusters/root") :=
  ⟨rfl, rfl, rfl⟩

end LogicalCluster

end WorkspaceAccess
