import WorkspaceAccess.Proofs.Access.Rebuild
import WorkspaceAccess.Proofs.Remote.Attempts

/-!
# The Protocol of a Binding Update

Whatever a server replies, an update reads the binding and writes it in turns, at most three times.
`Attempt` holds what one turn was replied, `Attempt.requests` what it sends, and `FollowsProtocol`
says which attempts an update makes and what it ends with.

The protocol is stated about a list of attempts, as one would describe it: each attempt reads, and
writes what it has to for what it has read (`WritesAsRead`), in place of the binding and in its
version, or as a new one; every attempt but the last one is lost to another writer; and the last one
decides. The update succeeds when its write was accepted, gives up when it was the third and was
lost too, and fails otherwise with the error of its read or of its write.

It is proved from the courses of attempts by induction. A lost attempt in front of a list of
attempts that follow the protocol makes one that does, with one attempt more
(`FollowsProtocol.cons`), and the other courses are those of a single attempt.

## Main results

* `writesAsRead_unread`, `writesAsRead_desired`: an attempt writes what it has to.
* `FollowsProtocol.single`, `FollowsProtocol.cons`: a single attempt that ends the update, and a
  lost attempt before the others.
* `Course.followsProtocol`: the attempts of a course follow the protocol.
* `every_update_follows_the_protocol`: every update does, in every network.
* `overtaken_update_is_tried_again`: an update that is overtaken once.
-/

namespace WorkspaceAccess

namespace BindingUpdate

/-- An attempt: what the read was replied, and the write with its reply, if there was one. -/
structure Attempt where
  /-- What the read of the binding was replied, if there was a reply. -/
  read : Option Reply
  /-- The write and what it was replied, if the attempt came to a write. -/
  write : Option (Request × Option Reply)

namespace Attempt

/-- What an attempt sends and what it is replied. -/
def requests (address : Uri) (a : Attempt) : Transcript :=
  (readRequest address, a.read) :: a.write.toList

/-- The write of the attempt is accepted, which is the case when its reply shows the stored
binding. -/
def IsAccepted (a : Attempt) : Prop :=
  ∃ w ∈ a.write, ∃ stored, written w.2 = .ok stored

/-- The write of the attempt fails because another writer was there first. -/
def IsLost (a : Attempt) : Prop :=
  ∃ w ∈ a.write, ∃ e, written w.2 = .error e ∧ IsLostRace e

/-- The read of the attempt fails, or its write fails for another reason. -/
def FailsWith (a : Attempt) (e : ApiError) : Prop :=
  seen a.read = .error e ∨ ∃ w ∈ a.write, written w.2 = .error e ∧ ¬IsLostRace e

/-- The attempt writes what it has to: nothing when it cannot read, the object that it has read
with the given subjects in its place and in its version, or a new object with these subjects. -/
structure WritesAsRead (address : Uri) (sourceNamespace : String) (subjects : List String)
    (a : Attempt) : Prop where
  /-- Nothing is written just when the read fails. -/
  nothing : a.write = none ↔ ∃ e, seen a.read = .error e
  /-- An object that was read is replaced, at its own address and version. -/
  replaces : ∀ b, seen a.read = .ok (some b) → ∃ reply body now,
    a.write = some (replaceRequest address body.toJson, reply) ∧
    body = AccessBinding.desired (some b) subjects sourceNamespace now ∧
    body.metadata.resourceVersion = b.metadata.resourceVersion ∧ body.subjectNames = subjects
  /-- Where there is no object, one is created. -/
  creates : seen a.read = .ok none → ∃ reply body now,
    a.write = some (createRequest address body.toJson, reply) ∧
    body = AccessBinding.desired none subjects sourceNamespace now ∧ body.subjectNames = subjects

end Attempt

/-- The attempts that an update makes and what it ends with. -/
structure FollowsProtocol (address : Uri) (sourceNamespace workspace : String)
    (subjects : List String) (limit : Nat) (attempts : List Attempt)
    (result : Except RemoteError Unit) : Prop where
  /-- There are at most as many attempts as are allowed. -/
  length_le : attempts.length ≤ limit
  /-- There is one if there may be one. -/
  first : 0 < limit → attempts ≠ []
  /-- Each attempt writes what it has to after what it read. -/
  each : ∀ a ∈ attempts, a.WritesAsRead address sourceNamespace subjects
  /-- Another one follows just when the last one was lost and there may be one more. -/
  further : ∀ k a, attempts[k]? = some a →
    (k + 1 < attempts.length ↔ a.IsLost ∧ k + 1 < limit)
  /-- The update succeeds just when the write of the last one is accepted. -/
  ok_iff : result = .ok () ↔ ∃ a, attempts.getLast? = some a ∧ a.IsAccepted
  /-- It gives up just when all that there may be were lost. -/
  contended_iff : result = .error (.contended workspace) ↔
    attempts.length = limit ∧ ∀ a ∈ attempts, a.IsLost
  /-- It fails just when the last one fails, which no one before it does. -/
  api_iff : ∀ e, result = .error (.api e) ↔ ∃ a, attempts.getLast? = some a ∧ a.FailsWith e
  /-- There is no other end than success, contention or an error of the server. -/
  ends : result = .ok () ∨ result = .error (.contended workspace) ∨ ∃ e, result = .error (.api e)

namespace Attempt

variable {address : Uri} {ns : String} {subjects : List String} {a : Attempt}

/-- A write that was made is accepted when its reply shows what was stored. -/
@[simp] theorem isAccepted_some {reply echo : Option Reply} {request : Request} :
    IsAccepted ⟨reply, some (request, echo)⟩ ↔ ∃ stored, written echo = .ok stored := by
  simp [IsAccepted]

/-- A write that was made is lost when its reply says that another writer was there first. -/
@[simp] theorem isLost_some {reply echo : Option Reply} {request : Request} :
    IsLost ⟨reply, some (request, echo)⟩ ↔ ∃ e, written echo = .error e ∧ IsLostRace e := by
  simp [IsLost]

/-- An attempt with a write fails with the error of its read, or with one of its write that is no
race. -/
@[simp] theorem failsWith_some {reply echo : Option Reply} {request : Request} {e : ApiError} :
    FailsWith ⟨reply, some (request, echo)⟩ e ↔
      seen reply = .error e ∨ (written echo = .error e ∧ ¬IsLostRace e) := by
  simp [FailsWith]

/-- Where nothing was written nothing was accepted, whatever was read. -/
@[simp] theorem not_isAccepted_none (reply : Option Reply) : ¬IsAccepted ⟨reply, none⟩ := by
  simp [IsAccepted]

/-- Where nothing was written no race was lost, whatever was read. -/
@[simp] theorem not_isLost_none (reply : Option Reply) : ¬IsLost ⟨reply, none⟩ := by
  simp [IsLost]

/-- An attempt without a write fails with the error of its read. -/
@[simp] theorem failsWith_none {reply : Option Reply} {e : ApiError} :
    FailsWith ⟨reply, none⟩ e ↔ seen reply = .error e := by
  simp [FailsWith]

/-- An attempt that cannot read writes nothing, as the protocol wants it. -/
theorem writesAsRead_unread {reply : Option Reply} {e : ApiError} (h : seen reply = .error e) :
    WritesAsRead address ns subjects ⟨reply, none⟩ := by
  refine ⟨⟨fun _ => ⟨e, h⟩, fun _ => rfl⟩, fun b hb => ?_, fun hnone => ?_⟩
  · rw [h] at hb
    cases hb
  · rw [h] at hnone
    cases hnone

/-- An attempt that can read writes the binding that it builds on what it has read. -/
theorem writesAsRead_desired {reply : Option Reply} {existing : Option ClusterRoleBinding}
    (h : seen reply = .ok existing) (now : Timestamp) (echo : Option Reply) :
    WritesAsRead address ns subjects ⟨reply, some (writeRequest address existing
      (AccessBinding.desired existing subjects ns now), echo)⟩ := by
  have hnames : (AccessBinding.desired existing subjects ns now).subjectNames = subjects :=
    (AccessBinding.desired_isRebuilt existing subjects ns now).subjectNames
  refine ⟨⟨nofun, ?_⟩, fun b hb => ?_, fun hnone => ?_⟩
  · rintro ⟨e, he⟩
    rw [h] at he
    cases he
  · rw [h] at hb
    cases hb
    exact ⟨echo, _, now, rfl, rfl, rfl, hnames⟩
  · rw [h] at hnone
    cases hnone
    exact ⟨echo, _, now, rfl, rfl, hnames⟩

end Attempt

/-- What does not hold of the first attempt holds of the last one just when it holds of the last one
of the others. -/
theorem exists_getLast?_cons_iff {P : Attempt → Prop} {a : Attempt} (ha : ¬P a)
    (rest : List Attempt) :
    (∃ x, (a :: rest).getLast? = some x ∧ P x) ↔ ∃ x, rest.getLast? = some x ∧ P x := by
  cases rest with
  | nil => simp [ha]
  | cons b rest => rw [List.getLast?_cons_cons]

section

variable {session : RemoteSession} {address : Uri} {workspace : String} {subjects : List String}
  {n : Nat} {a : Attempt} {attempts : List Attempt} {result : Except RemoteError Unit}

/-- A single attempt that ends the update follows the protocol: either it is accepted, or it fails
with an error of its own. -/
theorem FollowsProtocol.single
    (hwrites : a.WritesAsRead address session.sourceNamespace subjects) (hlost : ¬a.IsLost)
    (hok : result = .ok () ↔ a.IsAccepted) (hapi : ∀ e, result = .error (.api e) ↔ a.FailsWith e)
    (hends : result = .ok () ∨ ∃ e, result = .error (.api e)) :
    FollowsProtocol address session.sourceNamespace workspace subjects (n + 1) [a] result where
  length_le := by simp
  first _ := by simp
  each := by simpa using hwrites
  further k b hb := by
    obtain ⟨hk, rfl⟩ := List.getElem?_eq_some_iff.mp hb
    simp [hlost]
  ok_iff := by simpa using hok
  contended_iff := by
    have hne : result ≠ .error (.contended workspace) := by
      rintro rfl
      rcases hends with h | ⟨e, h⟩ <;> cases h
    simp [hne, hlost]
  api_iff e := by simpa using hapi e
  ends := hends.imp_right .inr

/-- A lost attempt before the attempts of an update that may make one less. -/
theorem FollowsProtocol.cons
    (h : FollowsProtocol address session.sourceNamespace workspace subjects n attempts result)
    (hwrites : a.WritesAsRead address session.sourceNamespace subjects) (hlost : a.IsLost)
    (haccepted : ¬a.IsAccepted) (hfails : ∀ e, ¬a.FailsWith e) :
    FollowsProtocol address session.sourceNamespace workspace subjects (n + 1) (a :: attempts)
      result where
  length_le := Nat.succ_le_succ h.length_le
  first _ := List.cons_ne_nil _ _
  each := by
    intro b hb
    rcases List.mem_cons.mp hb with rfl | hb
    · exact hwrites
    · exact h.each b hb
  further k b hb := by
    cases k with
    | zero =>
      obtain rfl := Option.some.inj hb
      have hlength : 0 < attempts.length ↔ 0 < n :=
        ⟨fun hpos => Nat.lt_of_lt_of_le hpos h.length_le,
          fun hn => List.length_pos_iff.mpr (h.first hn)⟩
      simpa [hlost] using hlength
    | succ k =>
      have hk := h.further k b (by simpa using hb)
      simpa using hk
  ok_iff := h.ok_iff.trans (exists_getLast?_cons_iff haccepted attempts).symm
  contended_iff := by
    rw [h.contended_iff]
    simp [hlost]
  api_iff e := (h.api_iff e).trans
    (exists_getLast?_cons_iff (hfails e) attempts).symm
  ends := h.ends

end

/-- The attempts of a course follow the protocol, by induction on the course. -/
theorem Course.followsProtocol {session : RemoteSession} {address : Uri} {workspace : String}
    {subjects : List String} {n : Nat} {log : Transcript} {result : Except RemoteError Unit}
    (h : Course session address workspace subjects n log result) :
    ∃ attempts : List Attempt, log = attempts.flatMap (Attempt.requests address) ∧
      FollowsProtocol address session.sourceNamespace workspace subjects n attempts result := by
  induction h with
  | exhausted => exact ⟨[], rfl, by constructor <;> simp⟩
  | @unread n reply e hread =>
    refine ⟨[⟨reply, none⟩], rfl, .single (Attempt.writesAsRead_unread hread) (by simp) (by simp)
      ?_ (.inr ⟨e, rfl⟩)⟩
    simp [hread]
  | @accepted n reply echo existing now stored hread hwrite =>
    refine ⟨[⟨reply, some (_, echo)⟩], rfl,
      .single (Attempt.writesAsRead_desired hread now echo) ?_ ?_ ?_ (.inl rfl)⟩
    · simp [hwrite]
    · simp [hwrite]
    · simp [hread, hwrite]
  | @refused n reply echo existing now e hread hwrite hrace =>
    refine ⟨[⟨reply, some (_, echo)⟩], rfl,
      .single (Attempt.writesAsRead_desired hread now echo) ?_ ?_ ?_ (.inr ⟨e, rfl⟩)⟩
    · simp [hwrite, hrace]
    · simp [hwrite]
    · intro e'
      have hother : e = e' → ¬IsLostRace e' := fun h => h ▸ hrace
      simpa [hread, hwrite] using hother
  | @lost n reply echo existing now e rest result hread hwrite hrace hrest ih =>
    obtain ⟨attempts, hlog, hprotocol⟩ := ih
    refine ⟨⟨reply, some (_, echo)⟩ :: attempts, by rw [hlog]; rfl,
      hprotocol.cons (Attempt.writesAsRead_desired hread now echo) ?_ ?_ ?_⟩
    · simp [hwrite, hrace]
    · simp [hwrite]
    · intro e'
      rw [Attempt.failsWith_some, hread, hwrite]
      rintro (h | ⟨h, hother⟩)
      · cases h
      · cases h
        exact hother hrace

variable {s : Type}

/-- Whatever a server replies, an update of the binding of a workspace sends and receives what at
most three attempts do, each of which reads the binding and writes what it has to, and another one
follows just when the write was lost to another writer. The update succeeds just when the last
write is accepted, gives up when all three were lost, and fails otherwise with the first error
that is no lost race, after which nothing is sent. -/
theorem every_update_follows_the_protocol (net : Network s) (state : s)
    {session : RemoteSession} {address : Uri} {workspace : String} (subjects : List String)
    (h : session.workspaceUrl workspace = .ok address) :
    let update := session.writeBinding workspace subjects
    ∃ attempts : List Attempt,
      update.transcript net state = attempts.flatMap (Attempt.requests address) ∧
      FollowsProtocol address session.sourceNamespace workspace subjects 3 attempts
        (update.run net state).1 :=
  (course_of_run net state subjects h).followsProtocol

/-! ### An update that is overtaken -/

/-- A session with a root workspace, for the runs below. -/
def rootSession : RemoteSession :=
  ⟨"root", "project", ⟨some "https", "kcp.test", ⟨"/clusters/root".toList, none⟩⟩, "maintainerd"⟩

/-- The address of one of the workspaces below the root. -/
def zotAddress : Uri := ⟨some "https", "kcp.test", ⟨"/clusters/root:zot".toList, none⟩⟩

/-- The workspace of the example has this address, computed from that of the root. -/
theorem workspaceUrl_zot : rootSession.workspaceUrl "zot" = .ok zotAddress := rfl

/-- A reply that refuses a request with a code and a reason. -/
def refusal (code : Nat) (reason : String) : Reply :=
  .ofJson code (.object
    [("status", .string "Failure"), ("reason", .string reason), ("code", .integer code)])

/-- A reply that shows the binding in a version. -/
def shown (version : String) : Reply :=
  .ofJson 200 (.object [("metadata", .object
    [("name", .string AccessBinding.name), ("resourceVersion", .string version)])])

/-- There is no binding, then another writer creates it first, and then it is replaced. -/
def overtaken : List Reply :=
  [refusal 404 "NotFound", refusal 409 "AlreadyExists", shown "7", shown "8"]

/-- The update reads, creates, reads again and replaces, in two attempts. -/
theorem overtaken_update_is_tried_again :
    let update := rootSession.writeBinding "zot" ["oidc:ann@x.io"]
    rootSession.workspaceUrl "zot" = .ok zotAddress ∧
    (update.transcript (.scripted .epoch) overtaken).map (·.1.method) =
      [.get, .post, .get, .put] ∧
    ∃ attempts : List Attempt,
      update.transcript (.scripted .epoch) overtaken =
        attempts.flatMap (Attempt.requests zotAddress) ∧
      FollowsProtocol zotAddress "maintainerd" "zot" ["oidc:ann@x.io"] 3 attempts
        (update.run (.scripted .epoch) overtaken).1 :=
  ⟨workspaceUrl_zot, by decide +kernel,
    every_update_follows_the_protocol (.scripted .epoch) overtaken ["oidc:ann@x.io"]
      workspaceUrl_zot⟩

end BindingUpdate

end WorkspaceAccess
