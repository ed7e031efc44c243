import Blueprints.Proofs.Flow.Reading
import Blueprints.Evaluator

namespace Blueprints.Flow

open Build Library Step Evaluator

/-- Reading the default values of a function's parameters and then its body, as a dag is built
    from them, gives a well-shaped gather. -/
theorem visit_wellShaped {r : Runtime} {ctx : VisitCtx} {n : Nat} {defaults : List Expr}
    {body : List Stmt} {s s' : Session} {g : Gather}
    (h : Runs (visitExprs r ctx n {} defaults >>= fun g => visitBlock r ctx n g body) s g s') :
    WellShaped ctx.isRunbook g := by
  refine (visit_reads h).wellShaped ⟨?_, by simp⟩
  cases ctx.isRunbook with
  | true => exact RunShape.nil
  | false => simp [ReadShape]

/-- The dag that a body is laid out into reaches one of its tasks from another exactly when the
    body runs the first before the second, and, in an action, no step between them is empty. The
    tasks are those of the steps read off the body, all different. -/
theorem dag_reach_iff_before (r : Runtime) (ctx : VisitCtx) (n m : Nat) (defaults : List Expr)
    (body : List Stmt) {s s₁ s₂ : Session} {g : Gather} {layout : Layout}
    (hread : Runs (visitExprs r ctx n {} defaults >>= fun g => visitBlock r ctx n g body) s g s₁)
    (hlayout : Runs (createEdges (refOf r) m {} g.steps none) s₁ layout s₂)
    (hdistinct : (tasksOf g.steps).Nodup) (u v : Value) :
    Reach layout.resolve.edges u v ↔
      Before g.steps u v ∧ (ctx.isRunbook = false → ¬ Parted g.steps u v) := by
  have hwell := visit_wellShaped hread
  have hshape := hwell.shape
  have hplan : createEdges (m := Except Fault) pure m {} g.steps none = .ok layout.resolve :=
    createEdges_resolve r m {} g.steps none s₁ layout s₂ hwell.classes (by simp) hlayout
  cases hrunbook : ctx.isRunbook with
  | true =>
    rw [hrunbook] at hshape
    simpa using reach_plan_runShape_iff hshape hdistinct hplan
  | false =>
    rw [hrunbook] at hshape
    -- an action's steps are flat: its dag is the chain of its steps
    cases m with
    | zero => simp [createEdges] at hplan
    | succ m =>
      rw [plan_flat hshape] at hplan
      injection hplan with hresolve
      have hnodup : (g.steps.map Step.tasks).flatten.Nodup := by rwa [← tasksOf_eq_flatten]
      rw [← hresolve]
      simpa [← linked_iff_before hshape hdistinct] using reach_chainPairs_iff hnodup

/-- A runtime in which calling a value gives the value back and no attribute is set: a name
    bound to a task, called, reads as that task. -/
def echoRuntime : Runtime where
  call f _ _ := pure f
  attr _ _ := pure .none
  compile _ _ := throw .tooDeep
  encode _ _ _ := throw .tooDeep

/-- A task class with a name and nothing else. -/
def taskNamed (name : String) : Value := .entity (.mk .task name none [] [])

/-- Two tasks, the parallel block and a call that makes no task, bound by name. -/
def cutLocals : List (String × Value) :=
  [("t1", taskNamed "t1"), ("t2", taskNamed "t2"), ("parallel", .builtin ["parallel"]),
   ("note", .none)]

/-- An action body that runs `t1`, then a parallel block whose only call makes no task, then
    `t2`. -/
def cutBody : List Stmt :=
  [.expr (.call (.name "t1") [] []),
   .withBlock (.call (.name "parallel") [] []) none [.expr (.call (.name "note") [] [])],
   .expr (.call (.name "t2") [] [])]

/-- The dag of an action that runs `t1`, an empty parallel block and then `t2` does not reach
    `t2` from `t1`, although the body runs `t1` first: the empty block parts them. -/
theorem dag_unreached_across_empty_parallel :
    Runs (visitExprs echoRuntime { locals := cutLocals } 8 {} [] >>= fun g =>
      visitBlock echoRuntime { locals := cutLocals } 8 g cutBody) default
      { steps := [.task (taskNamed "t1"), .group [], .task (taskNamed "t2")],
        tasks := [taskNamed "t1", taskNamed "t2"] } default ∧
    Runs (createEdges (refOf echoRuntime) 4 {}
      [.task (taskNamed "t1"), .group [], .task (taskNamed "t2")] none) default
      { children := [taskNamed "t1", taskNamed "t2"] } default ∧
    Before [.task (taskNamed "t1"), .group [], .task (taskNamed "t2")] (taskNamed "t1")
      (taskNamed "t2") ∧
    ¬ Reach ({ children := [taskNamed "t1", taskNamed "t2"] } : Layout).resolve.edges
      (taskNamed "t1") (taskNamed "t2") := by
  have hread : Runs (visitExprs echoRuntime { locals := cutLocals } 8 {} [] >>= fun g =>
      visitBlock echoRuntime { locals := cutLocals } 8 g cutBody) default
      { steps := [.task (taskNamed "t1"), .group [], .task (taskNamed "t2")],
        tasks := [taskNamed "t1", taskNamed "t2"] } default := rfl
  have hlayout : Runs (createEdges (refOf echoRuntime) 4 {}
      [.task (taskNamed "t1"), .group [], .task (taskNamed "t2")] none) default
      { children := [taskNamed "t1", taskNamed "t2"] } default := rfl
  have hreach := dag_reach_iff_before echoRuntime { locals := cutLocals } 8 4 [] cutBody hread
    hlayout (by simp [taskNamed]) (taskNamed "t1") (taskNamed "t2")
  have hbefore : Before [.task (taskNamed "t1"), .group [], .task (taskNamed "t2")]
      (taskNamed "t1") (taskNamed "t2") :=
    .across (i := 0) (j := 2) (by decide) rfl rfl (by simp) (by simp)
  -- the empty block sits between the two tasks
  have hparted : Parted [.task (taskNamed "t1"), .group [], .task (taskNamed "t2")]
      (taskNamed "t1") (taskNamed "t2") :=
    ⟨0, 2, 1, _, _, _, by decide, by decide, rfl, rfl, rfl, by simp, by simp, rfl⟩
  exact ⟨hread, hlayout, hbefore, fun h => (hreach.1 h).2 rfl hparted⟩

end Blueprints.Flow
