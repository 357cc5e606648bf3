/-
Snapshots that fail.

A snapshot does more than to show a board, it binds elements and lets moves take effect, so
one that gave up half way would leave something behind.  None does.  The surface is
asked for first, and whether it can be had depends on the size and the budget alone
(`snapshot_eq_error_iff`); without one nothing has happened yet, neither to the board nor
to the frame that the server shows.

Snapshots that fail can therefore be taken out of a history, and nothing that is seen
later differs (`failed_snapshot_unseen`).
-/
import DrawingBoard.Proofs.Drawing.Painting
import DrawingBoard.Proofs.Scene.Recording
import DrawingBoard.Proofs.Transcript
import DrawingBoard.Server.Basic

namespace DrawingBoard

/-- A snapshot fails exactly if its size is refused. -/
theorem Scene.snapshot_eq_error_iff {s : Scene} {budget : UInt64} {size : Size}
    {e : SurfaceError} :
    (s.snapshot (Canvas.screen budget) size).1 = .error e ↔ Canvas.Refuses budget size e := by
  rw [← Canvas.newSurface_eq_error_iff]
  cases hnew : (Canvas.screen budget).newSurface size with
  | ok surface => simp [snapshot_eq hnew]
  | error e' => simp [snapshot, hnew]

namespace Server

/-- What can be done to the board of a server by hand. -/
inductive Action where
  | apply (op : Operation)
  | nudge (id : FigureId) (d : Point)
  /-- Take a snapshot of any size and hand it out. -/
  | snapshot (size : Size)
  /-- Take the snapshot that becomes the latest frame. -/
  | refresh
deriving DecidableEq

/-- What is answered to an action. -/
inductive Answer where
  | done
  | nudged (present : Bool)
  | pictured (outcome : Except SurfaceError Canvas)
  | refreshed (outcome : Except SurfaceError Unit)

def act (s : Server) : Action → Answer × Server
  | .apply op => (.done, { s with scene := s.scene.apply op })
  | .nudge id d =>
    let (present, scene) := s.scene.nudge id d
    (.nudged present, { s with scene })
  | .snapshot size =>
    let (outcome, scene) := s.scene.snapshot (Canvas.screen s.budget) size
    (.pictured outcome, { s with scene })
  | .refresh =>
    let (outcome, s) := s.refresh
    (.refreshed outcome, s)

/-- Is this the answer to a snapshot that failed? -/
def Answer.fails : Answer → Bool
  | .pictured (.error _) | .refreshed (.error _) => true
  | _ => false

/-- A failed refresh leaves the board and the latest frame as they were. -/
theorem refresh_of_error {s : Server} {e : SurfaceError} (h : s.refresh.1 = .error e) :
    s.refresh.2 = s := by
  unfold refresh at h ⊢
  cases hsnapshot : s.scene.snapshot (Canvas.screen s.budget) s.frameSize with
  | mk outcome scene =>
      rw [hsnapshot] at h
      cases outcome with
      | ok frame => simp at h
      | error e' =>
          have hscene := Scene.snapshot_of_error s.scene (congrArg Prod.fst hsnapshot)
          rw [hsnapshot] at hscene
          subst hscene
          rfl

/-- An action that fails changes nothing. -/
theorem act_of_fails {s : Server} {action : Action} (h : (s.act action).1.fails = true) :
    (s.act action).2 = s := by
  cases action with
  | apply op => simp [act, Answer.fails] at h
  | nudge id d => simp [act, Answer.fails] at h
  | snapshot size =>
      cases houtcome : (s.scene.snapshot (Canvas.screen s.budget) size).1 with
      | ok canvas => simp [act, houtcome, Answer.fails] at h
      | error e => simp only [act, Scene.snapshot_of_error s.scene houtcome]
  | refresh =>
      cases houtcome : s.refresh.1 with
      | ok _ => simp [act, houtcome, Answer.fails] at h
      | error e => simp only [act, refresh_of_error houtcome]

/--
**A snapshot that fails leaves no trace.**

A snapshot of a board fails exactly if its size has no pixels or has more of them, counted
exactly, than the budget allows, and the error says which.  If it fails, the board is
what it was before.  If the snapshot for the latest frame of a server fails, the whole
server is what it was before, the frame included.  And if the snapshots that failed
are taken out of a history of operations, nudges and snapshots of any sizes, everything
else is answered as before and leaves the same server behind, one by one and in the end.
-/
theorem failed_snapshot_unseen (scene : Scene) (budget : UInt64) (size : Size) (s : Server)
    (actions : List Action) :
    size.area.toNat = size.width.toNat * size.height.toNat ∧
      (∀ e, (scene.snapshot (Canvas.screen budget) size).1 = .error e ↔
        Canvas.Refuses budget size e) ∧
      (∀ e, (scene.snapshot (Canvas.screen budget) size).1 = .error e →
        (scene.snapshot (Canvas.screen budget) size).2 = scene) ∧
      (∀ e, s.refresh.1 = .error e → s.refresh.2 = s) ∧
      transcript act s (accepted Answer.fails act s actions)
        = unrefused Answer.fails (transcript act s actions) ∧
      stateAfter act s (accepted Answer.fails act s actions) = stateAfter act s actions :=
  ⟨size.toNat_area, fun _ => Scene.snapshot_eq_error_iff,
    fun _ => Scene.snapshot_of_error scene, fun _ => refresh_of_error,
    transcript_accepted (fun _ _ => act_of_fails) actions s⟩

/-- A server with frames that are too large for it, on whose board there is a figure and a move
waits. -/
def overtaxed : Server where
  scene := Scene.empty.applyAll [.figure { center := ⟨0.5, 0.5⟩ }, .move ⟨0.25, 0⟩]
  budget := 64
  frameSize := ⟨9, 8⟩

/-- Every way to fail, between a snapshot that succeeds and one more. -/
def trials : List Action :=
  [.snapshot ⟨0, 8⟩, .refresh, .snapshot ⟨8, 8⟩, .nudge 0 ⟨Coord.clamp 1, 0⟩, .snapshot ⟨65, 1⟩,
    .refresh, .snapshot ⟨4, 4⟩]

/-- Three errors, and the figure is bound and moved by the snapshot that could be taken. -/
theorem failed_snapshot_unseen_trials :
    (overtaxed.scene.snapshot (Canvas.screen 64) ⟨0, 8⟩).1 = .error (.empty ⟨0, 8⟩) ∧
      (overtaxed.scene.snapshot (Canvas.screen 64) ⟨0, 8⟩).2 = overtaxed.scene ∧
      (overtaxed.scene.snapshot (Canvas.screen 64) ⟨65, 1⟩).1
        = .error (.tooLarge ⟨65, 1⟩ 64) ∧
      overtaxed.refresh.1 = .error (.tooLarge ⟨9, 8⟩ 64) ∧ overtaxed.refresh.2 = overtaxed ∧
      transcript act overtaxed
          [.snapshot ⟨8, 8⟩, .nudge 0 ⟨Coord.clamp 1, 0⟩, .snapshot ⟨4, 4⟩]
        = unrefused Answer.fails (transcript act overtaxed trials) ∧
      (stateAfter act overtaxed trials).scene.figures.map (·.frame)
        = [some ((Size.bounds ⟨8, 8⟩).translate ⟨Coord.clamp 3, 0⟩)] := by
  have haccepted : accepted Answer.fails act overtaxed trials
      = [.snapshot ⟨8, 8⟩, .nudge 0 ⟨Coord.clamp 1, 0⟩, .snapshot ⟨4, 4⟩] := by decide +kernel
  obtain ⟨-, hempty, hscene, hserver, hhistory, hafter⟩ :=
    failed_snapshot_unseen overtaxed.scene 64 ⟨0, 8⟩ overtaxed trials
  obtain ⟨-, hlarge, -⟩ := failed_snapshot_unseen overtaxed.scene 64 ⟨65, 1⟩ overtaxed []
  have hrefresh : overtaxed.refresh.1 = .error (.tooLarge ⟨9, 8⟩ 64) := rfl
  rw [haccepted] at hhistory hafter
  have herror := (hempty _).mpr (.empty (.inl rfl))
  refine ⟨herror, hscene _ herror, (hlarge _).mpr (.tooLarge (by decide)), hrefresh,
    hserver _ hrefresh, hhistory, ?_⟩
  rw [← hafter]
  decide +kernel

end Server

end DrawingBoard
