/-
What a snapshot paints, and what it leaves of the scene.

A snapshot makes two things of a scene.  The scene itself is settled: every element
has a frame and no move waits (`settle`).  The surface gets a sequence of fills:
one for each background, one for the bounding box, two for each figure, in that
order (`calls`).  `snapshot_eq` says that nothing else happens, on any surface.

The fills come out in the order in which they are recorded because the scene
records its elements from the lowest layer up, so that the stable sort of the draw
list has nothing to do.
-/
import DrawingBoard.Proofs.Drawing.PaintOrder
import DrawingBoard.Scene.Snapshot

namespace DrawingBoard

namespace DrawList

/-! ### Recording item by item -/

/-- The second list is the first with new items at the end, and its order is kept as well. -/
structure Records (l l' : DrawList) (new : List DrawItem) : Prop where
  items : l'.items.toList = l.items.toList ++ new
  coherent : l.Coherent → l'.Coherent

namespace Records

theorem refl (l : DrawList) : Records l l [] := ⟨(List.append_nil _).symm, id⟩

theorem trans {l l' l'' : DrawList} {new new' : List DrawItem} (h : Records l l' new)
    (h' : Records l' l'' new') : Records l l'' (new ++ new') :=
  ⟨by rw [h'.items, h.items, List.append_assoc], fun hl => h'.coherent (h.coherent hl)⟩

theorem push (l : DrawList) (layer : Layer) (stroke : Stroke) :
    Records l (l.push layer stroke) [⟨layer, stroke⟩] :=
  ⟨by simp [DrawList.push], fun _ => coherent_push l layer stroke⟩

/-- A fold of steps that each record something records all of it. -/
theorem foldl {α : Type} {step : DrawList → α → DrawList} {new : α → List DrawItem}
    (hstep : ∀ l a, Records l (step l a) (new a)) :
    ∀ (xs : List α) (l : DrawList), Records l (xs.foldl step l) (xs.flatMap new) := by
  intro xs
  induction xs with
  | nil => intro l; exact refl l
  | cons x rest ih =>
      intro l
      rw [List.flatMap_cons]
      exact (hstep l x).trans (ih _)

end Records

end DrawList

/-! ### The strokes of a scene -/

/-- The bars of a figure in its frame; a figure that was never drawn has none. -/
def PlacedFigure.bars (f : PlacedFigure) : List Rect :=
  match f.frame with
  | some frame => (f.figure.cross frame).bars
  | none => []

/-- The pixels of a bounding box in its frame; a box that was never drawn has none. -/
def PlacedBox.area? (b : PlacedBox) : Option Rect := b.frame.map b.box.area

/-- Strokes on one layer. -/
def Layer.items (layer : Layer) (strokes : List Stroke) : List DrawItem :=
  strokes.map fun stroke => ⟨layer, stroke⟩

theorem Layer.of_mem_items {layer : Layer} {strokes : List Stroke} {item : DrawItem}
    (h : item ∈ layer.items strokes) : item.layer = layer := by
  obtain ⟨stroke, -, rfl⟩ := List.mem_map.mp h
  rfl

/-- Records the figure, if it has a frame. -/
def PlacedFigure.record (f : PlacedFigure) (l : DrawList) : DrawList :=
  match f.frame with
  | some frame => l.pushFigure f.figure frame
  | none => l

theorem PlacedFigure.records (f : PlacedFigure) (l : DrawList) :
    DrawList.Records l (f.record l)
      (Layer.figures.items (f.bars.map fun bar => .rect bar f.figure.color)) := by
  unfold record bars
  cases f.frame with
  | none => exact .refl l
  | some frame =>
      rw [Layer.items, List.map_map, List.map_eq_flatMap]
      exact DrawList.Records.foldl
        (fun l bar => .push l Layer.figures (.rect bar f.figure.color)) _ l

namespace Scene

/-- The stroke of the bounding box, if there is one and it has a frame. -/
def boxStroke? (s : Scene) : Option Stroke :=
  s.boundingBox.bind fun b => b.area?.map fun area => .rect area b.box.color

/-- The strokes of the figures, from the lowest figure up. -/
def figureStrokes (s : Scene) : List Stroke :=
  s.figures.flatMap fun f => f.bars.map fun bar => .rect bar f.figure.color

/-- What a scene records, from the lowest layer up. -/
def strokes (s : Scene) : List DrawItem :=
  Layer.background.items (s.backgrounds.map .clear) ++
    (Layer.boundingBox.items s.boxStroke?.toList ++ Layer.figures.items s.figureStrokes)

/-- Records the bounding box, if there is one and it has a frame. -/
def recordBox (s : Scene) (l : DrawList) : DrawList :=
  match s.boundingBox with
  | some { box, frame := some frame } => l.pushBoundingBox box frame
  | _ => l

theorem records_backgrounds (s : Scene) (l : DrawList) :
    DrawList.Records l (s.backgrounds.foldl DrawList.pushFill l)
      (Layer.background.items (s.backgrounds.map .clear)) := by
  rw [Layer.items, List.map_map, List.map_eq_flatMap]
  exact DrawList.Records.foldl (fun l color => .push l Layer.background (.clear color)) _ l

theorem records_box (s : Scene) (l : DrawList) :
    DrawList.Records l (s.recordBox l) (Layer.boundingBox.items s.boxStroke?.toList) := by
  unfold recordBox boxStroke? PlacedBox.area?
  rcases s.boundingBox with _ | ⟨box, _ | frame⟩
  · exact .refl l
  · exact .refl l
  · exact .push l Layer.boundingBox (.rect (box.area frame) box.color)

theorem records_figures (s : Scene) (l : DrawList) :
    DrawList.Records l (s.figures.foldl (fun l f => f.record l) l)
      (Layer.figures.items s.figureStrokes) := by
  rw [figureStrokes, Layer.items, List.map_flatMap]
  exact DrawList.Records.foldl (fun l f => f.records l) _ l

theorem records_drawList (s : Scene) : DrawList.Records DrawList.empty s.drawList s.strokes :=
  (s.records_backgrounds DrawList.empty).trans ((s.records_box _).trans (s.records_figures _))

/-- The layers of the recorded strokes ascend. -/
theorem pairwise_strokes (s : Scene) : s.strokes.Pairwise DrawItem.Under := by
  have hsame : ∀ (layer : Layer) (strokes : List Stroke),
      (layer.items strokes).Pairwise DrawItem.Under := by
    intro layer strokes
    refine List.pairwise_of_forall_mem_list fun a ha b hb => ?_
    rw [DrawItem.Under, Layer.of_mem_items ha, Layer.of_mem_items hb]
  refine List.pairwise_append.mpr ⟨hsame _ _, List.pairwise_append.mpr ⟨hsame _ _, hsame _ _, ?_⟩, ?_⟩
  · intro a ha b hb
    rw [DrawItem.Under, Layer.of_mem_items ha, Layer.of_mem_items hb]
    decide
  · intro a ha b hb
    rw [DrawItem.Under, Layer.of_mem_items ha]
    rcases List.mem_append.mp hb with hb | hb
    · rw [Layer.of_mem_items hb]; decide
    · rw [Layer.of_mem_items hb]; decide

/-- Recording from the lowest layer up leaves nothing to sort. -/
theorem inPaintOrder_drawList (s : Scene) : s.drawList.inPaintOrder.1 = s.strokes := by
  have hrecords := s.records_drawList
  have hitems : s.drawList.items.toList = s.strokes := hrecords.items
  rw [DrawList.inPaintOrder_of_pairwise (hrecords.coherent DrawList.coherent_empty)
    (hitems ▸ s.pairwise_strokes), hitems]

/-! ### The fills of a snapshot -/

/-- The fills that show a scene on a surface with the given bounds. -/
def calls (s : Scene) (bounds : Rect) : List (Rect × Color) :=
  s.backgrounds.map (fun color => (bounds, color)) ++
    ((s.boundingBox.bind fun b => b.area?.map fun area => (area, b.box.color)).toList ++
      s.figures.flatMap fun f => f.bars.map fun bar => (bar, f.figure.color))

theorem fills_strokes (s : Scene) (bounds : Rect) :
    Surface.fills bounds s.strokes = s.calls bounds := by
  simp only [Surface.fills, strokes, calls, List.map_append, Layer.items, List.map_map]
  congr 1
  congr 1
  · cases hbox : s.boundingBox with
    | none => simp [boxStroke?, hbox]
    | some b => cases harea : b.area? <;> simp [boxStroke?, hbox, harea, Stroke.area, Stroke.color]
  · simp only [figureStrokes, List.map_flatMap, List.map_map]
    rfl

/-- Binds all elements and lets all moves take effect: what a snapshot does to the scene. -/
def settle (s : Scene) (bounds : Rect) : Scene := (s.bind bounds).drain bounds

theorem record_eq (s : Scene) (bounds : Rect) :
    s.record bounds = ((s.settle bounds).drawList, s.settle bounds) := rfl

/-- **A snapshot settles the scene and shows it by its fills.** -/
theorem snapshot_eq {σ : Type} [Surface σ] {screen : Screen σ} {size : Size} {surface : σ}
    (h : screen.newSurface size = .ok surface) (s : Scene) :
    s.snapshot screen size =
      (.ok (Surface.fillAll surface
        ((s.settle (Surface.bounds surface)).calls (Surface.bounds surface))),
        s.settle (Surface.bounds surface)) := by
  simp only [snapshot, h, record_eq, inPaintOrder_drawList, Surface.paint, fills_strokes]

/-- A snapshot that fails leaves the scene as it was. -/
theorem snapshot_of_error {σ : Type} [Surface σ] {screen : Screen σ} {size : Size}
    {e : SurfaceError} (s : Scene) (h : (s.snapshot screen size).1 = .error e) :
    (s.snapshot screen size).2 = s := by
  cases hnew : screen.newSurface size with
  | ok surface => rw [snapshot_eq hnew] at h; simp at h
  | error e' => simp only [snapshot, hnew]

end Scene

end DrawingBoard
