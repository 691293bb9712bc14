import WorkspaceAccess.Proofs.Access.Rebuild
import WorkspaceAccess.Proofs.Object.Wire
import WorkspaceAccess.Proofs.Remote.Protocol

/-!
# No Update of a Binding Is Lost

A server with optimistic concurrency stores a binding in place of another one only when the writer
names the version that is stored, and gives every stored binding a version that none before it had.
`Shelf` is where such a server keeps the binding of a workspace, `Serves` says how it answers the
requests of an update, and `Served` is an update in between which other clients store and remove
bindings at will.

The server may show a version that is no longer stored, and may refuse a write for any reason. What
is stored can be written down: a server writes times to the second. Nothing else is assumed of it,
nor of the other clients, which may be any number and act any number of times between two requests
of the update.

An accepted write is remembered with what it replaced (`Acceptance`). The argument is about
versions. What is read is or was stored; a replacement names the version that was read, so that,
when it is accepted, the stored binding has this version; and since no two stored bindings ever had
the same version, it is the one that was read. So what was rebuilt is what is replaced.

## Main results

* `Step.sound`, `Served.of_cons`: other clients leave a sound shelf behind.
* `Serves.of_read`, `Serves.of_error`, `Serves.of_replace`, `Serves.of_create`: what each kind of
  request is answered.
* `Serves.isRebuild`: a write that is accepted after a read has rebuilt what it replaced.
* `Course.accepted_writes`: the write of the last attempt is accepted if the course succeeds, and
  none is otherwise.
* `no_update_is_lost`: an update that succeeds has had one write accepted, which rebuilt the version
  that it replaced, and an update that fails has had none.
* `note_in_between_is_kept`: an update that loses one race and wins the next one.
-/

namespace WorkspaceAccess

/-- The binding in a version, and otherwise as it is. -/
def ClusterRoleBinding.inVersion (b : ClusterRoleBinding) (version : String) :
    ClusterRoleBinding :=
  { b with metadata := { b.metadata with resourceVersion := some version } }

/-- A binding can be written down in any version when it can in its own. -/
theorem ClusterRoleBinding.isWritable_inVersion {b : ClusterRoleBinding}
    (h : b.metadata.IsWritable) (version : String) : (b.inVersion version).metadata.IsWritable :=
  ⟨h.creation, h.deletion, h.gracePeriod, h.generation, h.managed⟩

/-- What a client says of a new binding; the server adds the rest. -/
def ClusterRoleBinding.content (b : ClusterRoleBinding) :
    Option String × Option Annotations × Option Annotations × RoleRef × Option (List Subject) :=
  (b.metadata.name, b.metadata.labels, b.metadata.annotations, b.roleRef, b.subjects)

namespace BindingUpdate

/-! ### The server -/

/-- Where a server keeps the binding of a workspace. -/
structure Shelf where
  /-- The binding that is stored, if there is one. -/
  current : Option ClusterRoleBinding
  /-- All that was ever stored, the latest first. -/
  versions : List ClusterRoleBinding

namespace Shelf

/-- A binding is stored, in place of the one that is there, and remembered among the versions. -/
def put (shelf : Shelf) (b : ClusterRoleBinding) : Shelf := ⟨some b, b :: shelf.versions⟩

/-- What is stored is removed; what was stored is still remembered. -/
def clear (shelf : Shelf) : Shelf := { shelf with current := none }

/-- Nothing was ever stored in the version, so a new binding may get it. -/
def IsFresh (shelf : Shelf) (version : String) : Prop :=
  ∀ b ∈ shelf.versions, b.metadata.resourceVersion ≠ some version

/-- Where nothing was ever stored every version is fresh. -/
@[simp] theorem isFresh_empty (version : String) : IsFresh ⟨none, []⟩ version := by
  simp [IsFresh]

/-- A version is fresh when it is neither that of the binding that is stored now nor an older
one. -/
@[simp] theorem isFresh_put {shelf : Shelf} {b : ClusterRoleBinding} {version : String} :
    (shelf.put b).IsFresh version ↔
      b.metadata.resourceVersion ≠ some version ∧ shelf.IsFresh version :=
  List.forall_mem_cons

/-- What other clients do. -/
inductive Step (shelf : Shelf) : Shelf → Prop
  /-- A binding is created or replaced, and gets a version that is new to all of them. -/
  | store {b : ClusterRoleBinding} {version : String} (hfresh : shelf.IsFresh version)
      (hwritable : b.metadata.IsWritable) : Step shelf (shelf.put (b.inVersion version))
  /-- The binding is deleted, but what was stored is remembered. -/
  | remove : Step shelf shelf.clear

/-- Whatever was stored has a version of its own and can be written down. -/
structure Sound (shelf : Shelf) : Prop where
  /-- What is stored was stored at some time. -/
  current : ∀ b, shelf.current = some b → b ∈ shelf.versions
  /-- Everything that was stored has a version of its own. -/
  versioned : ∀ b ∈ shelf.versions, ∃ version, b.metadata.resourceVersion = some version
  /-- No version was given twice, not even after a deletion. -/
  distinct : ∀ b ∈ shelf.versions, ∀ c ∈ shelf.versions,
    b.metadata.resourceVersion = c.metadata.resourceVersion → b = c
  /-- Everything that was stored can be written down. -/
  writable : ∀ b ∈ shelf.versions, b.metadata.IsWritable

/-- Where nothing was ever stored, all is well with the versions. -/
theorem sound_empty : Sound ⟨none, []⟩ where
  current b hb := by cases hb
  versioned b hb := by cases hb
  distinct b hb := by cases hb
  writable b hb := by cases hb

/-- Other clients leave a sound shelf behind, with all that was ever stored there. -/
theorem Step.sound {shelf later : Shelf} (h : Step shelf later) (sound : shelf.Sound) :
    later.Sound ∧ shelf.versions ⊆ later.versions := by
  cases h with
  | @store b version hfresh hwritable =>
    refine ⟨⟨?_, ?_, ?_, ?_⟩, List.subset_cons_self _ _⟩
    · rintro c hc
      exact Option.some.inj hc ▸ List.mem_cons_self
    · rintro c hc
      rcases List.mem_cons.mp hc with rfl | hold
      · exact ⟨version, rfl⟩
      · exact sound.versioned c hold
    · rintro c hc d hd heq
      rcases List.mem_cons.mp hc with rfl | hc <;> rcases List.mem_cons.mp hd with rfl | hd
      · rfl
      · exact absurd heq.symm (hfresh d hd)
      · exact absurd heq (hfresh c hc)
      · exact sound.distinct c hc d hd heq
    · rintro c hc
      rcases List.mem_cons.mp hc with rfl | hold
      · exact ClusterRoleBinding.isWritable_inVersion hwritable version
      · exact sound.writable c hold
  | remove =>
    refine ⟨⟨fun b hb => ?_, sound.versioned, sound.distinct, sound.writable⟩, List.Subset.refl _⟩
    cases hb

end Shelf

/-- A write that a server has accepted. -/
structure Acceptance where
  /-- The binding that was stored before, if there was one. -/
  replaced : Option ClusterRoleBinding
  /-- The binding that is stored since the write. -/
  stored : ClusterRoleBinding

/-- How a server answers a request for the binding, and which write it accepts thereby. -/
inductive Serves (address : Uri) :
    Request → Shelf → Option Reply → Option Acceptance → Shelf → Prop
  /-- A binding that is shown is or was stored. -/
  | read {shelf : Shelf} {reply : Option Reply}
      (hshown : ∀ b, written reply = .ok b → b ∈ shelf.versions) :
      Serves address (readRequest address) shelf reply none shelf
  /-- A binding takes the place of the one whose version it names. -/
  | replaced {shelf : Shelf} {old body : ClusterRoleBinding} {object : Json} {version : String}
      {reply : Option Reply} (hcurrent : shelf.current = some old)
      (hbody : ClusterRoleBinding.ofJson? object = some body)
      (hversion : body.metadata.resourceVersion = old.metadata.resourceVersion)
      (hfresh : shelf.IsFresh version)
      (hreply : written reply = .ok (body.inVersion version)) :
      Serves address (replaceRequest address object) shelf reply
        (some ⟨some old, body.inVersion version⟩) (shelf.put (body.inVersion version))
  /-- A binding is created where there is none. -/
  | created {shelf : Shelf} {body stored : ClusterRoleBinding} {object : Json} {version : String}
      {reply : Option Reply} (habsent : shelf.current = none)
      (hbody : ClusterRoleBinding.ofJson? object = some body)
      (hcontent : stored.content = body.content) (hfresh : shelf.IsFresh version)
      (hreply : written reply = .ok (stored.inVersion version)) :
      Serves address (createRequest address object) shelf reply
        (some ⟨none, stored.inVersion version⟩) (shelf.put (stored.inVersion version))
  /-- A request that is refused changes nothing, whatever the reason. -/
  | refused {request : Request} {shelf : Shelf} {reply : Option Reply} {e : ApiError}
      (herror : written reply = .error e) : Serves address request shelf reply none shelf

/-- The requests of an update, served in between what other clients do, and the writes among them
that are accepted. -/
inductive Served (address : Uri) : Shelf → Transcript → List Acceptance → Shelf → Prop
  /-- Nothing more is asked for, and nothing more is written. -/
  | done {shelf : Shelf} : Served address shelf [] [] shelf
  /-- Other clients do something between two requests. -/
  | others {shelf next later : Shelf} {log : Transcript} {writes : List Acceptance}
      (hstep : shelf.Step next) (hrest : Served address next log writes later) :
      Served address shelf log writes later
  /-- A request is served, and its write counts if it is accepted. -/
  | request {shelf next later : Shelf} {request : Request} {reply : Option Reply}
      {write : Option Acceptance} {log : Transcript} {writes : List Acceptance}
      (hserves : Serves address request shelf reply write next)
      (hrest : Served address next log writes later) :
      Served address shelf ((request, reply) :: log) (write.toList ++ writes) later

variable {address : Uri} {shelf next later : Shelf} {request : Request} {reply : Option Reply}
  {write : Option Acceptance} {log : Transcript} {writes : List Acceptance}

/-- A request is served, and no write is accepted. -/
theorem Served.unwritten (hserves : Serves address request shelf reply none next)
    (hrest : Served address next log writes later) :
    Served address shelf ((request, reply) :: log) writes later :=
  .request hserves hrest

/-- A write is accepted, and is the latest of the writes that were. -/
theorem Served.accept {w : Acceptance} (hserves : Serves address request shelf reply (some w) next)
    (hrest : Served address next log writes later) :
    Served address shelf ((request, reply) :: log) (w :: writes) later :=
  .request hserves hrest

/-- A read accepts no write and shows what is or was stored. -/
theorem Serves.of_read (h : Serves address request shelf reply write next)
    (hrequest : request = readRequest address) :
    write = none ∧ next = shelf ∧ ∀ b, written reply = .ok b → b ∈ shelf.versions := by
  cases h with
  | read hshown => exact ⟨rfl, rfl, hshown⟩
  | replaced => cases congrArg Request.method hrequest
  | created => cases congrArg Request.method hrequest
  | refused herror =>
    refine ⟨rfl, rfl, fun b hb => ?_⟩
    rw [herror] at hb
    cases hb

/-- A write that is answered with an error is not accepted. -/
theorem Serves.of_error (h : Serves address request shelf reply write next) {e : ApiError}
    (herror : written reply = .error e) : write = none ∧ next = shelf := by
  cases h with
  | read => exact ⟨rfl, rfl⟩
  | refused => exact ⟨rfl, rfl⟩
  | replaced _ _ _ _ hreply | created _ _ _ _ hreply =>
    rw [herror] at hreply
    cases hreply

/-- A replacement that is not answered with an error has taken the place of the version that it
names. -/
theorem Serves.of_replace (h : Serves address request shelf reply write next) {object : Json}
    (hrequest : request = replaceRequest address object) {b body : ClusterRoleBinding}
    (hreply : written reply = .ok b) (hbody : ClusterRoleBinding.ofJson? object = some body) :
    ∃ old version, shelf.current = some old ∧
      body.metadata.resourceVersion = old.metadata.resourceVersion ∧
      write = some ⟨some old, body.inVersion version⟩ := by
  cases h with
  | read => cases congrArg Request.method hrequest
  | created => cases congrArg Request.method hrequest
  | @replaced _ old body' object' version _ hcurrent hbody' hversion =>
    obtain rfl : object' = object := by simpa [replaceRequest, Content.object] using hrequest
    obtain rfl : body' = body := Option.some.inj (hbody'.symm.trans hbody)
    exact ⟨old, version, hcurrent, hversion, rfl⟩
  | refused herror =>
    rw [herror] at hreply
    cases hreply

/-- A new binding that is not answered with an error has its content stored. -/
theorem Serves.of_create (h : Serves address request shelf reply write next) {object : Json}
    (hrequest : request = createRequest address object) {b body : ClusterRoleBinding}
    (hreply : written reply = .ok b) (hbody : ClusterRoleBinding.ofJson? object = some body) :
    ∃ (stored : ClusterRoleBinding) (version : String), stored.content = body.content ∧
      write = some ⟨none, stored.inVersion version⟩ := by
  cases h with
  | read => cases congrArg Request.method hrequest
  | replaced => cases congrArg Request.method hrequest
  | @created _ body' stored object' version _ _ hbody' hcontent =>
    obtain rfl : object' = object := by simpa [createRequest, Content.object] using hrequest
    obtain rfl : body' = body := Option.some.inj (hbody'.symm.trans hbody)
    exact ⟨stored, version, hcontent, rfl⟩
  | refused herror =>
    rw [herror] at hreply
    cases hreply

/-- When all requests are served, no more writes are accepted. -/
theorem Served.of_nil (h : Served address shelf [] writes later) : writes = [] := by
  generalize hlog : ([] : Transcript) = log at h
  induction h with
  | done => rfl
  | others _ _ ih => exact ih hlog
  | request => cases hlog

/-- Before the first request is served, other clients leave a sound shelf behind. -/
theorem Served.of_cons (h : Served address shelf ((request, reply) :: log) writes later)
    (sound : shelf.Sound) :
    ∃ mid write next rest, mid.Sound ∧ shelf.versions ⊆ mid.versions ∧
      Serves address request mid reply write next ∧ Served address next log rest later ∧
      writes = write.toList ++ rest := by
  generalize hlog : (request, reply) :: log = all at h
  induction h with
  | done => cases hlog
  | others hstep _ ih =>
    obtain ⟨hsound, hversions⟩ := hstep.sound sound
    obtain ⟨mid, write, next, rest, hmid, hmore, hserved⟩ := ih hsound hlog
    exact ⟨mid, write, next, rest, hmid, List.Subset.trans hversions hmore, hserved⟩
  | request hserves hrest _ =>
    cases hlog
    exact ⟨_, _, _, _, sound, List.Subset.refl _, hserves, hrest, rfl⟩

/-- A read shows a binding just when its reply does. -/
theorem written_of_seen {b : ClusterRoleBinding} (h : seen reply = .ok (some b)) :
    written reply = .ok b := by
  cases hw : written reply with
  | ok c =>
    rw [seen, hw] at h
    cases h
    rfl
  | error e =>
    rw [seen, hw, Collection.unlessAbsent] at h
    split at h <;> cases h

/-- When a read and the request after it are served, what was read is or was stored. -/
theorem Served.of_attempt {echo : Option Reply}
    (h : Served address shelf ((readRequest address, reply) :: (request, echo) :: log) writes later)
    (sound : shelf.Sound) :
    ∃ mid write next rest, mid.Sound ∧ (∀ b, seen reply = .ok (some b) → b ∈ mid.versions) ∧
      Serves address request mid echo write next ∧ Served address next log rest later ∧
      writes = write.toList ++ rest := by
  obtain ⟨first, read, after, _, hfirst, -, hread, hrest, rfl⟩ := h.of_cons sound
  obtain ⟨rfl, rfl, hshown⟩ := hread.of_read rfl
  obtain ⟨mid, write, next, rest, hmid, hmore, hserves, hlater, rfl⟩ := hrest.of_cons hfirst
  exact ⟨mid, write, next, rest, hmid, fun b hb => hmore (hshown b (written_of_seen hb)), hserves,
    hlater, rfl⟩

/-! ### The update -/

/-- An accepted write stored the binding that it replaced, rebuilt for the subjects, or a new one
where there was none. -/
structure Acceptance.IsRebuild (subjects : List String) (sourceNamespace : String)
    (w : Acceptance) : Prop where
  /-- The binding is rebuilt from the one that was replaced. -/
  rebuilt : ∃ now, AccessBinding.IsRebuilt (AccessBinding.oldMetadata w.replaced) subjects
    sourceNamespace now w.stored
  /-- Its subjects have exactly the given names, in the given order. -/
  subjectNames : w.stored.subjectNames = subjects
  /-- All other metadata but the version are those of the one that was replaced. -/
  kept : ∀ old, w.replaced = some old → ∃ version,
    w.stored.metadata.unmarked = { old.metadata.unmarked with resourceVersion := some version }
  /-- A new binding has the name that bindings of the controller have. -/
  named : w.replaced = none → w.stored.metadata.name = some "cncf-staff-access"

section

variable {existing : Option ClusterRoleBinding} {subjects : List String}
  {sourceNamespace : String} {now : Timestamp}

/-- The desired binding can be written down if the one that it is built on can. -/
theorem desired_isWritable (h : ∀ b, existing = some b → b.metadata.IsWritable) :
    (AccessBinding.desired existing subjects sourceNamespace now).metadata.IsWritable := by
  cases existing with
  | none =>
    constructor
    all_goals
      intro _ h
      cases h
  | some b =>
    obtain ⟨creation, deletion, gracePeriod, generation, managed⟩ := h b rfl
    exact ⟨creation, deletion, gracePeriod, generation, managed⟩

/-- A write that is accepted after a read has rebuilt what it replaced: what was read, since it
still has the version that was read. -/
theorem Serves.isRebuild (sound : shelf.Sound) {b : ClusterRoleBinding}
    (hserves : Serves address (writeRequest address existing
      (AccessBinding.desired existing subjects sourceNamespace now)) shelf reply write next)
    (hread : ∀ b, existing = some b → b ∈ shelf.versions) (hreply : written reply = .ok b) :
    ∃ w, write = some w ∧ w.IsRebuild subjects sourceNamespace := by
  have hwritable : (AccessBinding.desired existing subjects sourceNamespace
      now).metadata.IsWritable := desired_isWritable fun b hb => sound.writable b (hread b hb)
  have hbody := ClusterRoleBinding.ofJson?_toJson hwritable
  have hrebuilt := AccessBinding.desired_isRebuilt existing subjects sourceNamespace now
  cases existing with
  | none =>
    obtain ⟨stored, version, hcontent, rfl⟩ := hserves.of_create rfl hreply hbody
    simp only [ClusterRoleBinding.content, Prod.mk.injEq] at hcontent
    obtain ⟨hname, hlabels, hannotations, hrole, hsubjects⟩ := hcontent
    have hstored := hrebuilt.congr (c := stored.inVersion version) hrole hsubjects hlabels
      hannotations
    refine ⟨_, rfl, ⟨now, hstored⟩, hstored.subjectNames, fun _ hold => ?_, fun _ => hname⟩
    cases hold
  | some b =>
    obtain ⟨old, version, hcurrent, hversion, rfl⟩ := hserves.of_replace rfl hreply hbody
    -- The write names the version that was read, which only one binding ever had.
    obtain rfl : b = old :=
      sound.distinct b (hread b rfl) old (sound.current old hcurrent) hversion
    have hstored := hrebuilt.congr
      (c := (AccessBinding.desired (some b) subjects sourceNamespace now).inVersion version)
      rfl rfl rfl rfl
    refine ⟨_, rfl, ⟨now, hstored⟩, hstored.subjectNames, fun _ hold => ?_, fun hnone => ?_⟩
    · cases hold
      exact ⟨version, rfl⟩
    · cases hnone

end

/-- In a course of attempts that are served, the write of the last one is accepted if the course
succeeds, and none is otherwise. -/
theorem Course.accepted_writes {session : RemoteSession} {workspace : String}
    {subjects : List String} {n : Nat} {result : Except RemoteError Unit}
    (h : Course session address workspace subjects n log result) (sound : shelf.Sound)
    (hserved : Served address shelf log writes later) :
    (result = .ok () → ∃ w, writes = [w] ∧ w.IsRebuild subjects session.sourceNamespace) ∧
      (∀ e, result = .error e → writes = []) := by
  induction h generalizing shelf writes with
  | exhausted => exact ⟨nofun, fun _ _ => hserved.of_nil⟩
  | unread hread =>
    obtain ⟨mid, write, next, rest, -, -, hserves, hrest, rfl⟩ := hserved.of_cons sound
    obtain ⟨rfl, -, -⟩ := hserves.of_read rfl
    exact ⟨nofun, fun _ _ => hrest.of_nil⟩
  | accepted hread hwrite =>
    obtain ⟨mid, write, next, rest, hmid, hshown, hserves, hrest, rfl⟩ := hserved.of_attempt sound
    obtain ⟨w, rfl, hw⟩ := hserves.isRebuild hmid (fun b hb => hshown b (by rw [hread, hb])) hwrite
    exact ⟨fun _ => ⟨w, by rw [hrest.of_nil]; rfl, hw⟩, nofun⟩
  | refused hread hwrite =>
    obtain ⟨mid, write, next, rest, -, -, hserves, hrest, rfl⟩ := hserved.of_attempt sound
    obtain ⟨rfl, -⟩ := hserves.of_error hwrite
    exact ⟨nofun, fun _ _ => hrest.of_nil⟩
  | lost hread hwrite _ _ ih =>
    obtain ⟨mid, write, next, rest, hmid, -, hserves, hrest, rfl⟩ := hserved.of_attempt sound
    obtain ⟨rfl, rfl⟩ := hserves.of_error hwrite
    exact ih hmid hrest

variable {s : Type}

/-- Whatever other clients do in between the requests of an update, and whatever the server
refuses: if the update succeeds, exactly one of its writes was accepted, and what that write stored
is the binding that it replaced, rebuilt for the subjects. If it fails, none was. -/
theorem no_update_is_lost (net : Network s) (state : s) {session : RemoteSession} {address : Uri}
    {workspace : String} (subjects : List String) {shelf later : Shelf}
    {writes : List Acceptance} (sound : shelf.Sound)
    (haddress : ∀ a, session.workspaceUrl workspace = .ok a → a = address)
    (hserved : Served address shelf
      ((session.writeBinding workspace subjects).transcript net state) writes later) :
    let result := ((session.writeBinding workspace subjects).run net state).1
    (result = .ok () → ∃ w, writes = [w] ∧ w.IsRebuild subjects session.sourceNamespace) ∧
      (∀ e, result = .error e → writes = []) := by
  cases hurl : session.workspaceUrl workspace with
  | error e =>
    rw [RemoteSession.writeBinding, hurl] at hserved ⊢
    refine ⟨fun hok => ?_, fun _ _ => hserved.of_nil⟩
    cases hok
  | ok a =>
    obtain rfl := haddress a hurl
    exact (course_of_run net state subjects hurl).accepted_writes sound hserved

/-! ### An update in between which a note is written -/

/-- A binding without numbers is understood when it is shown. -/
theorem written_ofJson {b : ClusterRoleBinding} (hwritable : b.metadata.IsWritable)
    (hgrace : b.metadata.deletionGracePeriodSeconds = none)
    (hgeneration : b.metadata.generation = none) (hmanaged : b.metadata.managedFields = none) :
    written (some (.ofJson 200 b.toJson)) = .ok b := by
  have hworded : Json.IsWorded 4 b.toJson := ClusterRoleBinding.isWorded_toJson
    (ObjectMeta.isWorded_toJson hgrace hgeneration hmanaged)
  have hsuccess : (Reply.ofJson 200 b.toJson).isFailure = false := rfl
  exact Reply.decode_ofJson hworded (by decide) hsuccess
    (ClusterRoleBinding.ofJson?_toJson hwritable)

/-- A binding with a note of another client in its annotations. -/
def noted (note : String) : ClusterRoleBinding :=
  { metadata := { name := some AccessBinding.name
                  annotations := some (.ofList [("example.com/note", note)]) } }

/-- The binding with a note, rebuilt for a subject. -/
def rebuiltNoted (note version : String) : ClusterRoleBinding :=
  AccessBinding.desired (some ((noted note).inVersion version)) ["oidc:ann@x.io"] "maintainerd"
    .epoch

/-- A binding with a note can be written down: it has no times. -/
theorem noted_isWritable (note : String) : (noted note).metadata.IsWritable := by
  constructor
  all_goals
    intro _ h
    cases h

/-- The binding with a note is understood in every version. -/
theorem written_noted (note version : String) :
    written (some (.ofJson 200 ((noted note).inVersion version).toJson)) =
      .ok ((noted note).inVersion version) :=
  written_ofJson (ClusterRoleBinding.isWritable_inVersion (noted_isWritable note) version)
    rfl rfl rfl

/-- So can what is rebuilt from it, in every version. -/
theorem rebuiltNoted_isWritable (note version : String) :
    (rebuiltNoted note version).metadata.IsWritable := by
  refine desired_isWritable fun b hb => ?_
  cases hb
  exact ClusterRoleBinding.isWritable_inVersion (noted_isWritable note) version

/-- So is what is rebuilt from it, in the version that the server gives to it. -/
theorem written_rebuiltNoted (note version next : String) :
    written (some (.ofJson 200 ((rebuiltNoted note version).inVersion next).toJson)) =
      .ok ((rebuiltNoted note version).inVersion next) :=
  written_ofJson
    (ClusterRoleBinding.isWritable_inVersion (rebuiltNoted_isWritable note version) next)
    rfl rfl rfl

/-- An update that loses the first race and wins the second one. -/
theorem transcript_of_conflict {session : RemoteSession} {address : Uri} {workspace : String}
    (subjects : List String) (wall : Timestamp) {first lost second won : Reply}
    {b c d : ClusterRoleBinding} {e : ApiError}
    (haddress : session.workspaceUrl workspace = .ok address)
    (hfirst : written (some first) = .ok b) (hlost : written (some lost) = .error e)
    (hconflict : e.isConflict = true) (hsecond : written (some second) = .ok c)
    (hwon : written (some won) = .ok d) :
    (session.writeBinding workspace subjects).transcript (.scripted wall)
        [first, lost, second, won] =
      [(readRequest address, some first),
        (replaceRequest address
          (AccessBinding.desired (some b) subjects session.sourceNamespace wall).toJson, some lost),
        (readRequest address, some second),
        (replaceRequest address
          (AccessBinding.desired (some c) subjects session.sourceNamespace wall).toJson,
            some won)] ∧
    ((session.writeBinding workspace subjects).run (.scripted wall)
      [first, lost, second, won]).1 = .ok () := by
  simp [RemoteSession.writeBinding, haddress, RemoteSession.maxAttempts,
    RemoteSession.attemptBinding, get?_eq, storeBinding_eq, writeRequest, Exchange.bind,
    Network.scripted, seen, Collection.unlessAbsent, hfirst, hlost, hconflict, hsecond, hwon]

/-- A binding is read; its note is changed before it is replaced, and then it is read again. -/
def crossed : List Reply :=
  [.ofJson 200 ((noted "old").inVersion "6").toJson, ⟨409, ""⟩,
    .ofJson 200 ((noted "kept").inVersion "7").toJson,
    .ofJson 200 ((rebuiltNoted "kept" "7").inVersion "8").toJson]

/-- The binding is created before the update, and its note is changed after the first read. -/
theorem crossed_served :
    let update := rootSession.writeBinding "zot" ["oidc:ann@x.io"]
    (update.run (.scripted .epoch) crossed).1 = .ok () ∧
    ∃ later, Served zotAddress ⟨none, []⟩ (update.transcript (.scripted .epoch) crossed)
      [⟨some ((noted "kept").inVersion "7"), (rebuiltNoted "kept" "7").inVersion "8"⟩] later := by
  have hconflict : written (some ⟨409, ""⟩) = .error _ := rfl
  obtain ⟨hlog, hresult⟩ := transcript_of_conflict ["oidc:ann@x.io"] .epoch workspaceUrl_zot
    (written_noted "old" "6") hconflict (by decide) (written_noted "kept" "7")
    (written_rebuiltNoted "kept" "7" "8")
  have hshown (note version : String) {b : ClusterRoleBinding}
      (hb : written (some (.ofJson 200 ((noted note).inVersion version).toJson)) = .ok b) :
      b = (noted note).inVersion version :=
    (Except.ok.inj ((written_noted note version).symm.trans hb)).symm
  dsimp only [crossed]
  rw [hlog]
  let old : Shelf := (⟨none, []⟩ : Shelf).put ((noted "old").inVersion "6")
  let kept : Shelf := old.put ((noted "kept").inVersion "7")
  have hold : Shelf.Step ⟨none, []⟩ old := .store (by simp) (noted_isWritable _)
  have hkept : Shelf.Step old kept :=
    .store (by simp [old, ClusterRoleBinding.inVersion]) (noted_isWritable _)
  have hfresh : kept.IsFresh "8" := by simp [kept, old, ClusterRoleBinding.inVersion]
  refine ⟨hresult, _, .others hold (.unwritten (.read fun b hb => ?_) (.others hkept
    (.unwritten (.refused hconflict) (.unwritten (.read fun b hb => ?_) (.accept (.replaced rfl
      (ClusterRoleBinding.ofJson?_toJson (rebuiltNoted_isWritable "kept" "7")) rfl hfresh
      (written_rebuiltNoted "kept" "7" "8")) .done)))))⟩
  · rw [hshown _ _ hb]
    exact List.mem_cons_self
  · rw [hshown _ _ hb]
    exact List.mem_cons_self

/-- The note that is written in between is still there when the update has succeeded. -/
theorem note_in_between_is_kept :
    let update := rootSession.writeBinding "zot" ["oidc:ann@x.io"]
    ∃ writes later,
      Served zotAddress ⟨none, []⟩ (update.transcript (.scripted .epoch) crossed) writes later ∧
      (update.run (.scripted .epoch) crossed).1 = .ok () ∧
      ∃ w, writes = [w] ∧ w.IsRebuild ["oidc:ann@x.io"] "maintainerd" ∧
        w.replaced = some ((noted "kept").inVersion "7") := by
  obtain ⟨hresult, later, hserved⟩ := crossed_served
  have haddress : ∀ a, rootSession.workspaceUrl "zot" = .ok a → a = zotAddress :=
    fun _ ha => Except.ok.inj (ha.symm.trans workspaceUrl_zot)
  obtain ⟨w, hw, hrebuild⟩ := (no_update_is_lost (.scripted .epoch) crossed ["oidc:ann@x.io"]
    Shelf.sound_empty haddress hserved).1 hresult
  refine ⟨_, later, hserved, hresult, w, hw, hrebuild, ?_⟩
  cases hw
  rfl

end BindingUpdate

end WorkspaceAccess
