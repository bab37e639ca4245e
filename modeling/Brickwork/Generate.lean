import Brickwork.Sketch.Items

/-!
# Generation

From a model to the text of its firmware.
-/

namespace Brickwork

/-- Makes the sketch of an app, or reports why there is none: errors of the model, or else the error
of the allocation of pins. -/
def generate (app : App) (options : Options) : Except Diagnostics String :=
  match app.resolve with
  | .error errors => .error ⟨"Model error", errors⟩
  | .ok program =>
    match allocate app.bricks options.board with
    | .error error => .error ⟨"Allocation error", [error]⟩
    | .ok pins =>
      match Plan.items ⟨program, pins, options⟩ with
      | .error error => .error ⟨"Code generation error", [error]⟩
      | .ok items => .ok (Code.render items)

/-- What is logged while a sketch is made. -/
def generateLog (app : App) (options : Options) : List LogLine :=
  match app.resolve with
  | .error _ => []
  | .ok program =>
    let run := AllocationRun.ofBricks app.bricks options.board
    let start : LogLine := ⟨.info, "Generating `" ++ app.name ++ "` in " ++ program.mode.name
      ++ " mode for board " ++ options.board.name⟩
    program.log :: start :: run.log ++ if run.error.isNone then program.loopLog else []

end Brickwork
