import DrawingBoard.Main
import DrawingBoard.Proofs.Execution.Delivery
import DrawingBoard.Proofs.Execution.Lifecycle
import DrawingBoard.Proofs.Scene.Barrier
import DrawingBoard.Proofs.Scene.Extents
import DrawingBoard.Proofs.Scene.HitTesting
import DrawingBoard.Proofs.Scene.Layers
import DrawingBoard.Proofs.Scene.Redrawing
import DrawingBoard.Proofs.Scene.Telescoping
import DrawingBoard.Proofs.Script.Boundaries
import DrawingBoard.Proofs.Script.Grammar
import DrawingBoard.Proofs.Script.Layout
import DrawingBoard.Proofs.Server.Refusals
import DrawingBoard.Proofs.Drawing.Reuse
import DrawingBoard.Proofs.Drawing.Crosses
import DrawingBoard.Proofs.Scene.RigidMotion
import DrawingBoard.Proofs.Server.FailedSnapshots
import DrawingBoard.Proofs.Drawing.Filling
