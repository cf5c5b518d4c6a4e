/-
This file keeps the picture of a workspace fresh. Every run of the gate makes the tree anew from the
model as it is at that moment and hands it over; a workspace whose projects cannot be listed gives
no tree, but its run counts like any other.
-/

import CodeNavigator.Gate.Timeline
import CodeNavigator.Navigator.Tree

namespace CodeNavigator

/-- A refresher: the gate with its clock, and what trees are made from. -/
structure Refresher where
  timeline : Timeline
  model : Model
  workspaceRoot : Path
  depth : Option Nat

/-- A tree that was handed over, and when. -/
structure Rendering where
  time : Nat
  tree : Tree

namespace Refresher

/-- A refresher that has made no tree yet. -/
def ofModel (delay : Nat) (model : Model) (workspaceRoot : Path) (depth : Option Nat) : Refresher :=
  ⟨.ofScripts delay [], model, workspaceRoot, depth⟩

/-- The tree that a run hands over. -/
def rendering? (refresher : Refresher) (run : Run) : Option Rendering :=
  match refresher.model.tree refresher.workspaceRoot refresher.depth with
  | .ok tree => some ⟨run.start, tree⟩
  | .error _ => none

/-- One step of the gate, with the trees that its runs hand over. -/
def perform (refresher : Refresher) (step : Timeline.Step) :
    Timeline.Reply × List Rendering × Refresher :=
  let (reply, timeline) := refresher.timeline.perform step
  let started := timeline.log.drop refresher.timeline.log.length
  (reply, started.filterMap refresher.rendering?, { refresher with timeline := timeline })

/-- The workspace has changed. -/
def setModel (refresher : Refresher) (model : Model) : Refresher :=
  { refresher with model := model }

end Refresher

end CodeNavigator
