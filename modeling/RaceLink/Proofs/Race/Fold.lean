import RaceLink.Race.Model

/-!
# Models as folds

A model is what is left of all that was ever applied to it, in order.

* `Input` — a frame, or a reset of the laps; `Model.take` applies one.
* `Model.after` — the model after some inputs; for frames alone it is `Model.replay`.
* `Model.changes` — the changes that some inputs make, each with the model right after it.
-/

set_option autoImplicit false

namespace RaceLink

/-- Something that changes a model. -/
inductive Input where
  | frame (f : Frame)
  | reset
  deriving DecidableEq, Repr

namespace Model

/-- The model after one input, and the part of it that changed. -/
def take (m : Model) : Input → Model × Option Change
  | .frame f => m.apply f
  | .reset => m.reset

/-- The model after some inputs. -/
def after (m : Model) (inputs : List Input) : Model := inputs.foldl (fun m i => (m.take i).1) m

/-- The changes that some inputs make, each with the model right after it. -/
def changes (m : Model) : List Input → List (Change × Model)
  | [] => []
  | i :: rest => (m.take i).2.toList.map (·, (m.take i).1) ++ (m.take i).1.changes rest

@[simp] theorem after_cons (m : Model) (i : Input) (rest : List Input) :
    m.after (i :: rest) = (m.take i).1.after rest :=
  rfl

theorem after_append (m : Model) (as bs : List Input) :
    m.after (as ++ bs) = (m.after as).after bs :=
  List.foldl_append

theorem changes_append (m : Model) (as bs : List Input) :
    m.changes (as ++ bs) = m.changes as ++ (m.after as).changes bs := by
  induction as generalizing m with
  | nil => rfl
  | cons a as ih => simp [changes, ih, List.append_assoc]

/-- Without resets, the model is the replay of the frames. -/
theorem after_frames (frames : List Frame) : empty.after (frames.map .frame) = replay frames := by
  rw [after, replay, List.foldl_map]
  rfl

end Model
end RaceLink
