import WorkspaceAccess.Proofs.Reconcile.Passage
import WorkspaceAccess.Workspace.Lifecycle

/-!
# The Legs of a Reconcile of a Project

A reconcile of a project looks the project up, connects, looks the recorded workspace up or asks for
the one that belongs to the name of the project, and records what it got. Each of its calls is a leg
(`Lifecycle.Leg`), between which other activities take their turns. What it knows on a leg is what
the project was like when it was looked up, and the workspace that it was given.

The program is an activity under a deadline, and every call of it may be given up. `Leg.Move` lists
what can happen at each leg: the call is answered, and the reconcile goes to the next leg or to its
end, or it is given up, which is the end. There are as many cases as there are answers that the
program tells apart; a project that is gone ends the reconcile with nothing to do, and a workspace
that is recorded and gone is asked for under the name that is derived from the project.

Invariants over reconciles that overlap have a case for each move, and statements about a single
reconcile among others follow it from leg to leg (`exists_of_passage`).

## Main results

* `rest_obtained`, `rest_connected`: what is left of the reconcile at a leg.
* `Move.view`: a move in a world is one in the world that it holds.
* `move_of_turn`, `Move.turn`: a turn of what is left of a reconcile is a move, and a move in which
  a call is answered is a turn.
* `exists_of_passage`: on its way a reconcile is at a leg, of which everything is known that is kept
  by its moves and by the others.
* `eq_ended_of_rest`: only at its end is nothing left of a reconcile.
-/

namespace WorkspaceAccess

namespace Lifecycle

variable {σ ω : Type}

/-- A place on the way of a reconcile of a project. -/
inductive Leg (σ : Type) where
  /-- It looks the project up, which is its first call. -/
  | fetching
  /-- It connects to the remote, knowing the annotations of the project. -/
  | connecting (current : Annotations)
  /-- It looks the workspace up that the annotations record. -/
  | looking (session : σ) (current : Annotations) (name : String)
  /-- It asks for the workspace that belongs to the name of the project. -/
  | creating (session : σ) (current : Annotations)
  /-- It records the workspace in the annotations of the project. -/
  | recording (ws : WorkspaceInfo)
  /-- It has ended with a result, and makes no more calls. -/
  | ended (result : Except Failure Action)

namespace Leg

/-- What is left to do once a workspace is recorded. -/
def actionOf (config : Config) (ws : WorkspaceInfo) : Action :=
  actionFor config (Phase.ofText? ((desiredAnnotations ws).get? Annotations.workspacePhase))

/-- The workspace that was obtained is recorded, if it was. -/
def recordObtained (config : Config) (id : ResourceId) (current : Annotations) :
    Except RemoteError WorkspaceInfo → Activity σ (Except Failure Action)
  | .error e => .done (.error (.remote e))
  | .ok ws => record config id current ws

/-- What is left while the recorded workspace is looked up. -/
def look (session : σ) (id : ResourceId) (name : String) :
    Activity σ (Except RemoteError WorkspaceInfo) :=
  .await (.getWorkspace session name) fun
    | .error e => .done (.error e)
    | .ok (some ws) => .done (ws.claim id.name)
    | .ok none => create session id

/-- What is left once the project was looked up. -/
def connectFor (config : Config) (id : ResourceId) (current : Annotations) :
    Activity σ (Except Failure Action) :=
  .await .connect fun
    | .error e => .done (.error (.remote e))
    | .ok session => (obtain session id current).bind (recordObtained config id current)

/-- What is left while a workspace is recorded: the answer of the patch decides. -/
def patch (config : Config) (id : ResourceId) (ws : WorkspaceInfo) :
    Activity σ (Except Failure Action) :=
  .await (.patchProject id (desiredAnnotations ws)) fun
    | .error e => .done (.error (.store e))
    | .ok false => .done (.ok .done)
    | .ok true => .done (.ok (actionOf config ws))

/-- An activity with a deadline, after which it has failed. -/
def bounded (deadline : Instant) (a : Activity σ (Except Failure Action)) :
    Activity σ (Except Failure Action) :=
  (a.within deadline).map fun
    | some result => result
    | none => .error .timeout

/-- The activity that is left of a reconcile on each of its legs, within its deadline. -/
def rest (config : Config) (id : ResourceId) (deadline : Instant) :
    Leg σ → Activity σ (Except Failure Action)
  | fetching => reconcile config id deadline
  | connecting current => bounded deadline (connectFor config id current)
  | looking session current name =>
    bounded deadline ((look session id name).bind (recordObtained config id current))
  | creating session current =>
    bounded deadline ((create session id).bind (recordObtained config id current))
  | recording ws => bounded deadline (patch config id ws)
  | ended result => .done result

/-- Where a reconcile goes when it has connected: to the workspace that is recorded, or to a new
one. -/
def connected (session : σ) (current : Annotations) : Leg σ :=
  match current.get? Annotations.workspaceName with
  | none => creating session current
  | some name => looking session current name

/-- Where a reconcile goes with the workspace that it obtained, or without. -/
def obtained (config : Config) (current : Annotations) :
    Except RemoteError WorkspaceInfo → Leg σ
  | .error e => ended (.error (.remote e))
  | .ok ws =>
    if isRecorded (desiredAnnotations ws) current then ended (.ok (actionOf config ws))
    else recording ws

/-- Where a reconcile goes when it has looked the recorded workspace up. -/
def looked (config : Config) (id : ResourceId) (session : σ) (current : Annotations) :
    Except RemoteError (Option WorkspaceInfo) → Leg σ
  | .error e => ended (.error (.remote e))
  | .ok none => creating session current
  | .ok (some ws) => obtained config current (ws.claim id.name)

/-- Where a reconcile goes when it has patched the project. -/
def patched (config : Config) (ws : WorkspaceInfo) : Except ApiError Bool → Leg σ
  | .error e => ended (.error (.store e))
  | .ok found => ended (.ok (if found then actionOf config ws else .done))

/-- The call that a reconcile waits for on each of its legs, until it has ended. -/
def call? (id : ResourceId) : Leg σ → Option (Call σ)
  | fetching => some (.getProject id)
  | connecting _ => some .connect
  | looking session _ name => some (.getWorkspace session name)
  | creating session _ => some (.createWorkspace session (workspaceName id.name) id.name)
  | recording ws => some (.patchProject id (desiredAnnotations ws))
  | ended _ => none

/-- What a reconcile of a project can do from a leg in a world: what it does, where it is then, and
the world afterwards. -/
inductive Move (host : Host σ ω) (config : Config) (id : ResourceId) (now : Instant) (world : ω) :
    Leg σ → Deed σ → Leg σ → ω → Prop
  /-- The project is there, and the reconcile goes on to connect. -/
  | fetch {project : Project} {later : ω}
      (h : host.answer (.getProject id) (host.clock now) world = (.ok (some project), later)) :
      Move host config id now world fetching (.answered (.getProject id) (.ok (some project)))
        (connecting project.annotations) later
  /-- The project is gone, and there is nothing to be done. -/
  | fetchNothing {later : ω}
      (h : host.answer (.getProject id) (host.clock now) world = (.ok none, later)) :
      Move host config id now world fetching (.answered (.getProject id) (.ok none))
        (ended (.ok .done)) later
  /-- The project cannot be read, which ends the reconcile. -/
  | fetchFails {e : ApiError} {later : ω}
      (h : host.answer (.getProject id) (host.clock now) world = (.error e, later)) :
      Move host config id now world fetching (.answered (.getProject id) (.error e))
        (ended (.error (.store e))) later
  /-- It has connected, and looks the recorded workspace up or asks for one. -/
  | connect {current : Annotations} {session : σ} {later : ω}
      (h : host.answer .connect (host.clock now) world = (.ok session, later)) :
      Move host config id now world (connecting current) (.answered .connect (.ok session))
        (connected session current) later
  /-- It cannot connect, which ends the reconcile. -/
  | connectFails {current : Annotations} {e : RemoteError} {later : ω}
      (h : host.answer .connect (host.clock now) world = (.error e, later)) :
      Move host config id now world (connecting current) (.answered .connect (.error e))
        (ended (.error (.remote e))) later
  /-- It has looked the recorded workspace up, and goes on by what it was told. -/
  | look {session : σ} {current : Annotations} {name : String}
      {answer : Except RemoteError (Option WorkspaceInfo)} {later : ω}
      (h : host.answer (.getWorkspace session name) (host.clock now) world = (answer, later)) :
      Move host config id now world (looking session current name)
        (.answered (.getWorkspace session name) answer) (looked config id session current answer)
        later
  /-- It has asked for the workspace that belongs to the name of the project. -/
  | create {session : σ} {current : Annotations} {answer : Except RemoteError WorkspaceInfo}
      {later : ω}
      (h : host.answer (.createWorkspace session (workspaceName id.name) id.name)
        (host.clock now) world = (answer, later)) :
      Move host config id now world (creating session current)
        (.answered (.createWorkspace session (workspaceName id.name) id.name) answer)
        (obtained config current answer) later
  /-- It has patched the project, which ends the reconcile. -/
  | patch {ws : WorkspaceInfo} {answer : Except ApiError Bool} {later : ω}
      (h : host.answer (.patchProject id (desiredAnnotations ws)) (host.clock now) world =
        (answer, later)) :
      Move host config id now world (recording ws)
        (.answered (.patchProject id (desiredAnnotations ws)) answer) (patched config ws answer)
        later
  /-- The deadline passes while it waits, which ends the reconcile. -/
  | giveUp {leg : Leg σ} {call : Call σ} (h : leg.call? id = some call) :
      Move host config id now world leg (.gaveUp call) (ended (.error .timeout)) world

variable {config : Config} {id : ResourceId} {deadline : Instant}

/-- What is left with the workspace that was obtained. -/
theorem rest_obtained (current : Annotations) (answer : Except RemoteError WorkspaceInfo) :
    bounded deadline (recordObtained config id current answer) =
      (obtained config current answer : Leg σ).rest config id deadline := by
  cases answer with
  | error e => rfl
  | ok ws =>
    rw [recordObtained, record, obtained]
    split
    · rfl
    · refine congrArg (Activity.awaitUntil deadline _ · _) (funext fun answer => ?_)
      rcases answer with e | ⟨_ | _⟩ <;> rfl

/-- What is left once the session is open is the leg that the annotations decide on. -/
theorem rest_connected (session : σ) (current : Annotations) :
    bounded deadline ((obtain session id current).bind (recordObtained config id current)) =
      (connected session current).rest config id deadline := by
  rw [obtain, connected]
  cases current.get? Annotations.workspaceName with
  | none => rfl
  | some name =>
    refine congrArg (Activity.awaitUntil deadline _ · _) (funext fun answer => ?_)
    rcases answer with e | ⟨_ | _⟩ <;> rfl

/-- A move in a world is one in the world that it holds. -/
theorem Move.view {υ : Type} {host : Host σ ω} {inner : Host σ υ} {view : ω → υ}
    (hviews : host.Views inner view) {now : Instant} {world later : ω} {leg next : Leg σ}
    {deed : Deed σ} (h : Move host config id now world leg deed next later) :
    Move inner config id now (view world) leg deed next (view later) := by
  cases h with
  | fetch h => exact .fetch (hviews.answered h)
  | fetchNothing h => exact .fetchNothing (hviews.answered h)
  | fetchFails h => exact .fetchFails (hviews.answered h)
  | connect h => exact .connect (hviews.answered h)
  | connectFails h => exact .connectFails (hviews.answered h)
  | look h => exact .look (hviews.answered h)
  | create h => exact .create (hviews.answered h)
  | patch h => exact .patch (hviews.answered h)
  | giveUp h => exact .giveUp h

/-- A turn of what is left of a reconcile is a move. -/
theorem move_of_turn {host : Host σ ω} {now : Instant} {inTime : Bool} {world later : ω}
    {leg : Leg σ} {a : Activity σ (Except Failure Action)} {deed : Deed σ}
    (h : (leg.rest config id deadline).turn? host now inTime world = some (a, deed, later)) :
    ∃ next : Leg σ, a = next.rest config id deadline ∧
      Move host config id now world leg deed next later := by
  cases leg with
  | fetching =>
    rcases Activity.turn?_awaitUntil h with ⟨answer, hanswer, rfl, rfl⟩ | ⟨rfl, rfl, rfl⟩
    · rcases answer with e | ⟨_ | project⟩
      · exact ⟨_, rfl, .fetchFails hanswer⟩
      · exact ⟨_, rfl, .fetchNothing hanswer⟩
      · exact ⟨.connecting project.annotations, rfl, .fetch hanswer⟩
    · exact ⟨_, rfl, .giveUp rfl⟩
  | connecting current =>
    rcases Activity.turn?_awaitUntil h with ⟨answer, hanswer, rfl, rfl⟩ | ⟨rfl, rfl, rfl⟩
    · cases answer with
      | error e => exact ⟨.ended (.error (.remote e)), rfl, .connectFails hanswer⟩
      | ok session => exact ⟨_, rest_connected session current, .connect hanswer⟩
    · exact ⟨.ended (.error .timeout), rfl, .giveUp rfl⟩
  | looking session current name =>
    rcases Activity.turn?_awaitUntil h with ⟨answer, hanswer, rfl, rfl⟩ | ⟨rfl, rfl, rfl⟩
    · refine ⟨looked config id session current answer, ?_, .look hanswer⟩
      rcases answer with e | ⟨_ | ws⟩
      · rfl
      · rfl
      · exact rest_obtained current (ws.claim id.name)
    · exact ⟨.ended (.error .timeout), rfl, .giveUp rfl⟩
  | creating session current =>
    rcases Activity.turn?_awaitUntil h with ⟨answer, hanswer, rfl, rfl⟩ | ⟨rfl, rfl, rfl⟩
    · exact ⟨_, rest_obtained current answer, .create hanswer⟩
    · exact ⟨.ended (.error .timeout), rfl, .giveUp rfl⟩
  | recording ws =>
    rcases Activity.turn?_awaitUntil h with ⟨answer, hanswer, rfl, rfl⟩ | ⟨rfl, rfl, rfl⟩
    · refine ⟨patched config ws answer, ?_, .patch hanswer⟩
      rcases answer with e | ⟨_ | _⟩ <;> rfl
    · exact ⟨.ended (.error .timeout), rfl, .giveUp rfl⟩
  | ended result => cases h

/-- A move in which a call is answered is a turn of what is left. -/
theorem Move.turn {host : Host σ ω} {now : Instant} {world later : ω} {leg next : Leg σ}
    {deed : Deed σ} (h : Move host config id now world leg deed next later)
    (hanswered : ∀ call, deed ≠ .gaveUp call) (deadline : Instant) :
    (leg.rest config id deadline).turn? host now true world =
      some (next.rest config id deadline, deed, later) := by
  cases h with
  | fetch h | fetchNothing h | fetchFails h | connectFails h => exact Activity.turn?_of_answer h
  | @connect current session _ h =>
    exact (Activity.turn?_of_answer h).trans
      (congrArg (fun a => some (a, _, _)) (rest_connected session current))
  | @look session current name answer _ h =>
    refine (Activity.turn?_of_answer h).trans (congrArg (fun a => some (a, _, _)) ?_)
    rcases answer with e | ⟨_ | ws⟩
    · rfl
    · rfl
    · exact rest_obtained current (ws.claim id.name)
  | @create _ current answer _ h =>
    exact (Activity.turn?_of_answer h).trans
      (congrArg (fun a => some (a, _, _)) (rest_obtained current answer))
  | @patch _ answer _ h =>
    refine (Activity.turn?_of_answer h).trans (congrArg (fun a => some (a, _, _)) ?_)
    rcases answer with e | ⟨_ | _⟩ <;> rfl
  | giveUp => exact absurd rfl (hanswered _)

/-- On its way a reconcile is at a leg, of which everything is known that is kept by its moves and
by the others. -/
theorem exists_of_passage {host : Host σ ω} {MayChange : ω → ω → Prop}
    (I : List (Deed σ) → Leg σ → ω → Prop) {world later : ω} {deeds : List (Deed σ)}
    {a : Activity σ (Except Failure Action)}
    (h : Passage host MayChange (reconcile config id deadline) world deeds a later)
    (hstart : I [] fetching world)
    (hmove : ∀ {deeds deed leg next now world later}, I deeds leg world →
      Move host config id now world leg deed next later → I (deed :: deeds) next later)
    (hchange : ∀ {deeds leg world later}, I deeds leg world → MayChange world later →
      I deeds leg later) :
    ∃ leg : Leg σ, a = leg.rest config id deadline ∧ I deeds leg later := by
  induction h with
  | start => exact ⟨.fetching, rfl, hstart⟩
  | turn _ now inTime hturn ih =>
    obtain ⟨leg, rfl, hleg⟩ := ih
    obtain ⟨next, rfl, hnext⟩ := move_of_turn hturn
    exact ⟨next, rfl, hmove hleg hnext⟩
  | change _ hothers ih =>
    obtain ⟨leg, rfl, hleg⟩ := ih
    exact ⟨leg, rfl, hchange hleg hothers⟩

/-- Only at its end is nothing left of a reconcile. -/
theorem eq_ended_of_rest {leg : Leg σ} {result : Except Failure Action}
    (h : leg.rest config id deadline = .done result) : leg = ended result := by
  cases leg with
  | ended => exact congrArg _ (Activity.done.inj h)
  | fetching | connecting | looking | creating | recording => cases h

end Leg

end Lifecycle

end WorkspaceAccess
