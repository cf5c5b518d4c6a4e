/-
This file proves that the picture of a workspace is never left stale. A refresher is watched
together with the trees that it has handed over, while requests, cancellations, changes of the
workspace and the clock come in any order.

Every step lets one whole run pass or starts none. A request leaves a run waiting or has started
one, and what is waiting goes on waiting until it runs or is cancelled. The run that comes of it
makes its tree from the workspace as it is then, and as long as the workspace does not change, every
later run hands over the same tree. So when the gate is idle again, the last tree is the tree of the
workspace as it is. A run that cannot list the projects adds no tree, and is a run like any other in
all else.
-/

import CodeNavigator.Engine
import CodeNavigator.Proofs.Gate.SelfContained
import CodeNavigator.Proofs.Navigator.Unfolding
import CodeNavigator.Refresher

namespace CodeNavigator

namespace Refresher

/-! ### The steps of a refresher -/

/-- What happens to a refresher from outside. A request that blocks is made from another thread, and
is the same request. -/
inductive Step
  | request
  | requestBlocking
  | finish
  | cancel
  | advance (duration : Nat)
  | change (model : Model)

/-- The step that is taken at the gate. -/
def Step.atGate? : Step → Option Timeline.Step
  | .request | .requestBlocking => some .request
  | .finish => some .finish
  | .cancel => some .cancel
  | .advance duration => some (.advance duration)
  | .change _ => none

/-- Whether a step asks for a new tree. -/
def Step.isRequest : Step → Bool
  | .request | .requestBlocking => true
  | _ => false

theorem Step.atGate?_ne_drop {step : Step} {taken : Timeline.Step}
    (atGate : step.atGate? = some taken) : taken ≠ .drop := by
  rintro rfl
  cases step <;> cases atGate

/-- A refresher, and all trees that it has handed over. -/
structure Display where
  refresher : Refresher
  renderings : List Rendering

namespace Display

/-- A refresher for the workspace of an engine that has handed over nothing yet. -/
def ofEngine (delay : Nat) (engine : Engine) (depth : Option Nat) : Display :=
  ⟨.ofModel delay engine.model engine.settings.workspaceRoot depth, []⟩

/-- A step at the gate, with what the gate answers. -/
def performAtGate (display : Display) (taken : Timeline.Step) : Timeline.Reply × Display :=
  let (reply, handed, refresher) := display.refresher.perform taken
  (reply, ⟨refresher, display.renderings ++ handed⟩)

/-- A step, with what the gate answers. -/
def perform (display : Display) : Step → Timeline.Reply × Display
  | .request | .requestBlocking => display.performAtGate .request
  | .finish => display.performAtGate .finish
  | .cancel => display.performAtGate .cancel
  | .advance duration => display.performAtGate (.advance duration)
  | .change model => (.nothing, { display with refresher := display.refresher.setModel model })

def after (display : Display) (steps : List Step) : Display :=
  steps.foldl (fun display step => (display.perform step).2) display

/-- What the gate answers to some steps. -/
def replies : Display → List Step → List Timeline.Reply
  | _, [] => []
  | display, step :: rest => (display.perform step).1 :: replies (display.perform step).2 rest

/-- The text that is shown: that of the last tree. -/
def text? (display : Display) : Option String :=
  display.renderings.getLast?.map fun rendering => rendering.tree.render

/-! ### What a step can do -/

theorem perform_cases (display : Display) (step : Step) :
    (∃ taken, step.atGate? = some taken ∧ display.perform step = display.performAtGate taken) ∨
      ∃ model, step = .change model ∧ display.perform step =
        (.nothing, { display with refresher := display.refresher.setModel model }) := by
  cases step with
  | change model => exact Or.inr ⟨model, rfl, rfl⟩
  | _ => exact Or.inl ⟨_, rfl, rfl⟩

theorem model_perform {display : Display} {step : Step} (keeps : ∀ model, step ≠ .change model) :
    (display.perform step).2.refresher.model = display.refresher.model := by
  rcases display.perform_cases step with ⟨taken, _, same⟩ | ⟨model, changes, _⟩
  · rw [same]
    rfl
  · exact absurd changes (keeps model)

theorem model_after {display : Display} {steps : List Step}
    (keeps : ∀ model, .change model ∉ steps) :
    (display.after steps).refresher.model = display.refresher.model := by
  induction steps generalizing display with
  | nil => rfl
  | cons step rest inductionHypothesis =>
    have later (model : Model) : Step.change model ∉ rest := fun changes =>
      keeps model (List.mem_cons_of_mem _ changes)
    refine (inductionHypothesis later).trans (model_perform fun model changes => ?_)
    exact keeps model (changes ▸ List.mem_cons_self)

/-- What a run hands over: the tree of the workspace as it is, if there is one. -/
def handedOver (refresher : Refresher) (time : Nat) : List Rendering :=
  match refresher.model.tree refresher.workspaceRoot refresher.depth with
  | .ok tree => [⟨time, tree⟩]
  | .error _ => []

/-- A step in which one whole run passes. -/
structure RunsWhole (first last : Display) (time : Nat) (phase : Phase) : Prop where
  notBefore : first.refresher.timeline.now ≤ time
  notAfter : time ≤ last.refresher.timeline.now
  timeline : last.refresher.timeline =
    { first.refresher.timeline.runWhole time phase with now := last.refresher.timeline.now }
  renderings : last.renderings = first.renderings ++ handedOver first.refresher time

/-- A step at the gate lets one whole run pass, or starts none. -/
theorem performAtGate_cases {display : Display}
    (contained : display.refresher.timeline.SelfContained) {taken : Timeline.Step}
    (kept : taken ≠ .drop) :
    (∃ time phase, RunsWhole display (display.performAtGate taken).2 time phase) ∨
      (Timeline.Rests display.refresher.timeline (display.performAtGate taken).1
          (display.performAtGate taken).2.refresher.timeline ∧
        (display.performAtGate taken).2.renderings = display.renderings) := by
  rcases contained.perform_cases kept with ⟨time, phase, notBefore, notAfter, same⟩ | rests
  · refine Or.inl ⟨time, phase, notBefore, notAfter, same, ?_⟩
    have logged : (display.refresher.timeline.perform taken).2.log =
        display.refresher.timeline.log ++ [⟨time, phase, []⟩] := by
      rw [same]
      rfl
    simp only [performAtGate, Refresher.perform, logged, List.drop_left, List.filterMap_cons,
      List.filterMap_nil, rendering?, handedOver]
    cases display.refresher.model.tree display.refresher.workspaceRoot display.refresher.depth <;>
      rfl
  · refine Or.inr ⟨rests, ?_⟩
    have logged : (display.refresher.timeline.perform taken).2.log =
        display.refresher.timeline.log := rests.log
    simp only [performAtGate, Refresher.perform, logged, List.drop_length, List.filterMap_nil,
      List.append_nil]

/-! ### What never changes -/

/-- The gate is used by the steps alone, and all trees are made from the directory of the engine and
to the same depth. -/
structure Sound (engine : Engine) (depth : Option Nat) (display : Display) : Prop where
  contained : display.refresher.timeline.SelfContained
  workspaceRoot : display.refresher.workspaceRoot = engine.settings.workspaceRoot
  depth : display.refresher.depth = depth

variable {engine : Engine} {depth : Option Nat} {display : Display}

theorem sound_ofEngine (delay : Nat) (engine : Engine) (depth : Option Nat) :
    (ofEngine delay engine depth).Sound engine depth :=
  ⟨Timeline.selfContained_ofScripts delay nofun, rfl, rfl⟩

theorem Sound.make (sound : display.Sound engine depth) (step : Step) :
    (display.perform step).2.Sound engine depth := by
  rcases display.perform_cases step with ⟨taken, atGate, same⟩ | ⟨model, _, same⟩
  · rw [same]
    exact ⟨sound.contained.contained_perform (Step.atGate?_ne_drop atGate), sound.workspaceRoot,
      sound.depth⟩
  · rw [same]
    exact ⟨sound.contained, sound.workspaceRoot, sound.depth⟩

theorem Sound.makeAll (sound : display.Sound engine depth) (steps : List Step) :
    (display.after steps).Sound engine depth := by
  induction steps generalizing display with
  | nil => exact sound
  | cons step rest inductionHypothesis => exact inductionHypothesis (sound.make step)

/-- The engine with the workspace as it is now. -/
def current (display : Display) (engine : Engine) : Engine :=
  { engine with model := display.refresher.model }

theorem Sound.tree_current (sound : display.Sound engine depth) :
    (display.current engine).tree depth =
      display.refresher.model.tree display.refresher.workspaceRoot display.refresher.depth := by
  rw [sound.workspaceRoot, sound.depth]
  rfl

theorem Sound.handedOver_of_tree (sound : display.Sound engine depth) {tree : Tree}
    (listed : (display.current engine).tree depth = .ok tree) (time : Nat) :
    handedOver display.refresher time = [⟨time, tree⟩] := by
  rw [sound.tree_current] at listed
  rw [handedOver, listed]

theorem handedOver_of_error {refresher : Refresher} {failure : Failure}
    (unlisted : refresher.model.projects = .error failure) (time : Nat) :
    handedOver refresher time = [] := by
  simp only [handedOver, Model.tree, Model.tree?, Model.roots, unlisted, Except.map,
    Option.getD_some]

theorem exists_tree_of_projects (engine : Engine) (depth : Option Nat) {projects : List Project}
    (listed : display.refresher.model.projects = .ok projects) :
    ∃ tree, (display.current engine).tree depth = .ok tree ∧
      ((display.current engine).model.Finishes depth →
        (display.current engine).tree? depth = some (.ok tree)) := by
  have roots : (display.current engine).model.roots = .ok (projects.map .project) := by
    rw [current, Model.roots, listed]
    rfl
  obtain ⟨tree, made⟩ := Engine.exists_tree_of_roots _ roots depth
  exact ⟨tree, made, fun finishes => made ▸ Engine.tree?_of_finishes finishes⟩

/-! ### What becomes of a request -/

/-- The last run has started since some moment, and the last tree is the one that this run has made
of the workspace as it is now. -/
def IsFreshSince (origin display : Display) (engine : Engine) (depth : Option Nat) : Prop :=
  ∃ runs run,
    display.refresher.timeline.log = origin.refresher.timeline.log ++ runs ++ [run] ∧
    origin.refresher.timeline.now ≤ run.start ∧
    ∀ tree, (display.current engine).tree depth = .ok tree →
      ∃ others, display.renderings = origin.renderings ++ others ++ [⟨run.start, tree⟩]

/-- What a request leads to, as long as it is not cancelled and the workspace does not change: a run
is waiting, or the display is fresh. -/
structure Answers (origin display : Display) (engine : Engine) (depth : Option Nat) : Prop where
  now : origin.refresher.timeline.now ≤ display.refresher.timeline.now
  log : origin.refresher.timeline.log <+: display.refresher.timeline.log
  renderings : origin.renderings <+: display.renderings
  outcome : (∃ timer, display.refresher.timeline.gate.phase = .scheduled timer) ∨
    IsFreshSince origin display engine depth

variable {origin first last : Display}

/-- A run that passes makes the display fresh. -/
theorem RunsWhole.answers {time : Nat} {phase : Phase} (passes : RunsWhole first last time phase)
    (sound : first.Sound engine depth) (same : last.refresher.model = first.refresher.model)
    (now : origin.refresher.timeline.now ≤ first.refresher.timeline.now)
    (log : origin.refresher.timeline.log <+: first.refresher.timeline.log)
    (renderings : origin.renderings <+: first.renderings) :
    Answers origin last engine depth := by
  obtain ⟨runs, log⟩ := log
  obtain ⟨others, renderings⟩ := renderings
  have logged : last.refresher.timeline.log =
      origin.refresher.timeline.log ++ runs ++ [⟨time, phase, []⟩] := by
    rw [passes.timeline, log]
    rfl
  have current : last.current engine = first.current engine := by
    rw [Display.current, same]
    rfl
  refine
    { now := Nat.le_trans now (Nat.le_trans passes.notBefore passes.notAfter)
      log := ⟨runs ++ [⟨time, phase, []⟩], by rw [logged, List.append_assoc]⟩
      renderings := ⟨others ++ handedOver first.refresher time, by
        rw [passes.renderings, ← renderings, List.append_assoc]⟩
      outcome := Or.inr ⟨runs, _, logged, Nat.le_trans now passes.notBefore, ?_⟩ }
  intro tree listed
  rw [current] at listed
  refine ⟨others, ?_⟩
  rw [passes.renderings, ← renderings, sound.handedOver_of_tree listed]

/-- A request starts a run, or leaves one waiting. -/
theorem Sound.answers_request (sound : display.Sound engine depth) {asking : Step}
    (asks : asking.isRequest = true) :
    Answers display (display.perform asking).2 engine depth := by
  have same : display.perform asking = display.performAtGate .request := by
    cases asking <;> first | rfl | cases asks
  rw [same]
  have kept : Timeline.Step.request ≠ .drop := nofun
  rcases performAtGate_cases sound.contained kept with ⟨time, phase, passes⟩ | ⟨rests, handed⟩
  · exact passes.answers sound rfl (Nat.le_refl _) (List.prefix_refl _) (List.prefix_refl _)
  · have waiting := sound.contained.perform_request rests.log
    exact ⟨rests.now, rests.log ▸ List.prefix_refl _, handed ▸ List.prefix_refl _, Or.inl waiting⟩

/-- The answer to a request survives every step that does not change the workspace or cancel a
run. -/
theorem Answers.perform {step : Step} (answers : Answers origin display engine depth)
    (sound : display.Sound engine depth) (keeps : ∀ model, step ≠ .change model)
    (uncancelled : (display.perform step).1 ≠ .cancelled true) :
    Answers origin (display.perform step).2 engine depth := by
  rcases display.perform_cases step with ⟨taken, atGate, same⟩ | ⟨model, changes, _⟩
  · rw [same] at uncancelled ⊢
    rcases performAtGate_cases sound.contained (Step.atGate?_ne_drop atGate) with
      ⟨time, phase, passes⟩ | ⟨rests, handed⟩
    · exact passes.answers sound rfl answers.now answers.log answers.renderings
    · refine ⟨Nat.le_trans answers.now rests.now, ?_, ?_, ?_⟩
      · rw [rests.log]
        exact answers.log
      · rw [handed]
        exact answers.renderings
      · rcases answers.outcome with ⟨timer, waiting⟩ | fresh
        · have still := (rests.waiting timer waiting).resolve_right uncancelled
          exact Or.inl ⟨timer, still⟩
        · refine Or.inr ?_
          unfold IsFreshSince at fresh ⊢
          rw [rests.log, handed]
          exact fresh
  · exact absurd changes (keeps model)

theorem Answers.after {steps : List Step} (answers : Answers origin display engine depth)
    (sound : display.Sound engine depth) (keeps : ∀ model, .change model ∉ steps)
    (uncancelled : .cancelled true ∉ display.replies steps) :
    Answers origin (display.after steps) engine depth := by
  induction steps generalizing display with
  | nil => exact answers
  | cons step rest inductionHypothesis =>
    rw [replies, List.mem_cons, not_or] at uncancelled
    have keepsNow (model : Model) : step ≠ .change model := fun changes =>
      keeps model (changes ▸ List.mem_cons_self)
    have keepsLater (model : Model) : Step.change model ∉ rest := fun changes =>
      keeps model (List.mem_cons_of_mem _ changes)
    have now := answers.perform sound keepsNow (Ne.symm uncancelled.1)
    exact inductionHypothesis now (sound.make step) keepsLater uncancelled.2

/-! ### Runs that fail -/

/-- The steps that are taken at the gate decide all that becomes of it, whether runs fail or not. -/
theorem timeline_after (display : Display) (steps : List Step) :
    (display.after steps).refresher.timeline =
      display.refresher.timeline.after (steps.filterMap Step.atGate?) := by
  induction steps generalizing display with
  | nil => rfl
  | cons step rest inductionHypothesis =>
    have later := inductionHypothesis (display.perform step).2
    cases step <;> exact later

/-- The scripts of runs of which some fail. -/
def scripts (fails : List Bool) : List (List Action) :=
  fails.map fun fails => if fails then [.fail] else []

/-- A gate whose runs fail as they like goes through the same states. -/
theorem withoutScripts_after_ofScripts (delay : Nat) (engine : Engine) (depth : Option Nat)
    (fails : List Bool) (steps : List Step) :
    ((Timeline.ofScripts delay (scripts fails)).after
        (steps.filterMap Step.atGate?)).withoutScripts =
      ((ofEngine delay engine depth).after steps).refresher.timeline := by
  have ends (script : List Action) (member : script ∈ scripts fails) :
      script = [] ∨ script = [.fail] := by
    obtain ⟨fail, _, rfl⟩ := List.mem_map.mp member
    cases fail
    · exact Or.inl rfl
    · exact Or.inr rfl
  have kept (taken : Timeline.Step) (member : taken ∈ steps.filterMap Step.atGate?) :
      taken ≠ .drop := by
    obtain ⟨step, _, atGate⟩ := List.mem_filterMap.mp member
    exact Step.atGate?_ne_drop atGate
  rw [timeline_after, ← (Timeline.selfContained_ofScripts delay ends).after_withoutScripts kept]
  rfl

/-! ### Freshness -/

/-- The display is never left stale, whatever the delay, the depth and the workspace.

Take a request, with no change of the workspace and no cancellation of a run after it. Whenever the
gate is idle again, a run has started since the request, and if the projects can be listed, the last
tree was handed over since the request too, was made by the last run, and is the tree of the
workspace as it is, if its levels come to an end.

A run whose listing fails hands over nothing. It is counted and opens a window like every run, and
the gate goes through the same states however many runs fail. -/
theorem fresh_when_idle (delay : Nat) (engine : Engine) (depth : Option Nat) :
    (∀ (earlier later : List Step) (asking : Step),
      let before := (ofEngine delay engine depth).after earlier
      let asked := (before.perform asking).2
      let last := asked.after later
      asking.isRequest = true →
      (∀ model, .change model ∉ later) →
      .cancelled true ∉ asked.replies later →
      last.refresher.timeline.gate.phase = .idle →
      ∃ runs run,
        last.refresher.timeline.log = before.refresher.timeline.log ++ runs ++ [run] ∧
        before.refresher.timeline.now ≤ run.start ∧
        ∀ projects, last.refresher.model.projects = .ok projects →
          ∃ tree others, (last.current engine).tree depth = .ok tree ∧
            ((last.current engine).model.Finishes depth →
              (last.current engine).tree? depth = some (.ok tree)) ∧
            last.renderings = before.renderings ++ others ++ [⟨run.start, tree⟩] ∧
            last.text? = some tree.render) ∧
    (∀ (steps : List Step) (step : Step),
      let display := (ofEngine delay engine depth).after steps
      let next := (display.perform step).2
      (next.refresher.timeline.log = display.refresher.timeline.log ∧
        next.refresher.timeline.gate.runs = display.refresher.timeline.gate.runs ∧
        next.renderings = display.renderings) ∨
      ∃ run,
        next.refresher.timeline.log = display.refresher.timeline.log ++ [run] ∧
        next.refresher.timeline.gate =
          { display.refresher.timeline.gate with
            phase := .idle
            lastRun := some run.start
            runs := display.refresher.timeline.gate.runs + 1 } ∧
        (∀ tree, (display.current engine).tree depth = .ok tree →
          next.renderings = display.renderings ++ [⟨run.start, tree⟩]) ∧
        ∀ failure, display.refresher.model.projects = .error failure →
          next.renderings = display.renderings) ∧
    ∀ (fails : List Bool) (steps : List Step),
      ((Timeline.ofScripts delay (scripts fails)).after
          (steps.filterMap Step.atGate?)).withoutScripts =
        ((ofEngine delay engine depth).after steps).refresher.timeline := by
  have initial := sound_ofEngine delay engine depth
  refine ⟨?_, ?_, withoutScripts_after_ofScripts delay engine depth⟩
  · intro earlier later asking before asked last asks keeps uncancelled idle
    have sound : before.Sound engine depth := initial.makeAll earlier
    have answers : Answers before last engine depth :=
      (sound.answers_request asks).after (sound.make asking) keeps uncancelled
    rcases answers.outcome with ⟨timer, waiting⟩ | ⟨runs, run, logged, since, fresh⟩
    · rw [idle] at waiting
      cases waiting
    · refine ⟨runs, run, logged, since, fun projects listed => ?_⟩
      obtain ⟨tree, made, ended⟩ := exists_tree_of_projects engine depth listed
      obtain ⟨others, handed⟩ := fresh tree made
      refine ⟨tree, others, made, ended, handed, ?_⟩
      rw [text?, handed, List.getLast?_concat]
      rfl
  · intro steps step display next
    have sound : display.Sound engine depth := initial.makeAll steps
    rcases display.perform_cases step with ⟨taken, atGate, same⟩ | ⟨model, _, same⟩
    · have same : next = (display.performAtGate taken).2 := congrArg Prod.snd same
      rw [same]
      rcases performAtGate_cases sound.contained (Step.atGate?_ne_drop atGate) with
        ⟨time, phase, passes⟩ | ⟨rests, handed⟩
      · refine Or.inr ⟨⟨time, phase, []⟩, ?_, ?_, fun tree listed => ?_, fun failure unlisted => ?_⟩
        · rw [passes.timeline]
          rfl
        · rw [passes.timeline]
          rfl
        · rw [passes.renderings, sound.handedOver_of_tree listed]
        · rw [passes.renderings, handedOver_of_error unlisted, List.append_nil]
      · exact Or.inl ⟨rests.log, rests.runs, handed⟩
    · have same : next = _ := congrArg Prod.snd same
      rw [same]
      exact Or.inl ⟨rfl, rfl, rfl⟩

/-- Two requests in the window of an earlier run, after a change of the workspace. One run answers
both, and hands over the tree of the changed workspace. -/
theorem fresh_after_change :
    let project : Project := ⟨"lib", ⟨"/w/lib"⟩⟩
    let empty : Model := ⟨.ok [], fun _ => true, fun _ _ => .ok [], fun _ => .ok [], fun _ => []⟩
    let changed : Model := { empty with projects := .ok [project] }
    let engine : Engine := ⟨.standard, fun _ => .broken, empty⟩
    let before := (ofEngine 100 engine (some 0)).after [.request, .advance 30, .change changed]
    let asked := (before.perform .requestBlocking).2
    let last := asked.after [.request, .advance 100]
    before.refresher.timeline.now = 30 ∧ before.text? = some "" ∧
    (∀ model, Step.change model ∉ [.request, .advance 100]) ∧
    .cancelled true ∉ asked.replies [.request, .advance 100] ∧
    last.refresher.timeline.gate.phase = .idle ∧
    last.refresher.model.projects = .ok [project] ∧
    ∃ runs run,
      last.refresher.timeline.log = before.refresher.timeline.log ++ runs ++ [run] ∧
      30 ≤ run.start ∧
      ∃ tree others, (last.current engine).tree (some 0) = .ok tree ∧
        (last.current engine).tree? (some 0) = some (.ok tree) ∧
        last.renderings = before.renderings ++ others ++ [⟨run.start, tree⟩] ∧
        last.text? = some tree.render := by
  intro project empty changed engine
  have served := (fresh_when_idle 100 engine (some 0)).1
    [.request, .advance 30, .change changed] [.request, .advance 100] .requestBlocking
  dsimp only at served ⊢
  have keeps (model : Model) : Step.change model ∉ [.request, .advance 100] := by simp
  obtain ⟨runs, run, logged, since, fresh⟩ := served rfl keeps (by decide) (by decide)
  have listed : ((((ofEngine 100 engine (some 0)).after
      [.request, .advance 30, .change changed]).perform .requestBlocking).2.after
        [.request, .advance 100]).refresher.model.projects = .ok [project] := by
    have kept (model : Model) : Step.requestBlocking ≠ .change model := nofun
    rw [model_after keeps, model_perform kept]
    rfl
  obtain ⟨tree, others, made, ended, handed⟩ := fresh [project] listed
  exact ⟨by decide, by decide, keeps, by decide, by decide, listed, runs, run, logged, since,
    tree, others, made, ended nofun, handed⟩

end Display

end Refresher

end CodeNavigator
