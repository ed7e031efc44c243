import Blueprints.Proofs.Flow.Dag
import Blueprints.Proofs.Source.Topological
import Mathlib.Data.List.Perm.Basic

namespace Blueprints.Source

open Build Library Library.Tasks Blueprints.Flow Step

section Library

/-- The edges of a dag given as pairs become, in order, dictionaries from the first member of
    each pair to the second: the checks of the references can only fail. -/
theorem dagEdges_pairs {r : Runtime} {ps : List (Value × Value)} {s s' : Session}
    {es : List Value}
    (h : Runs (dagEdges r (.list (ps.map fun (a, b) => .tuple [a, b]))) s es s') :
    es = ps.map fun (a, b) => textDict [("from_task_reference", a), ("to_task_reference", b)] := by
  simp only [dagEdges] at h
  induction ps generalizing s es s' with
  | nil => exact (runs_pure.1 h).1.symm
  | cons p ps ih =>
    simp only [List.map_cons, List.mapM_cons] at h
    obtain ⟨e, s₁, he, h⟩ := runs_bind.1 h
    obtain ⟨es', s₂, hes, h⟩ := runs_bind.1 h
    obtain ⟨rfl, -⟩ := runs_pure.1 h
    obtain ⟨a, b⟩ := p
    -- a pair of two passes the count, and the checks of its two references only throw
    simp only [pure_bind, List.length_cons, List.length_nil, bne_self_eq_false,
      Bool.false_eq_true, if_false] at he
    obtain ⟨_, s₃, -, he⟩ := runs_bind.1 he
    obtain ⟨rfl, -⟩ := runs_pure.1 he
    simp [ih hes]

/-- A task made from attributes that name it by a value other than none is a class made from
    exactly those attributes, less a `__name__`. -/
theorem taskCreate_named {kw : List (String × Value)} {s s' : Session} {v n : Value}
    (h : Runs (taskCreate kw) s v s')
    (hname : (kw.filter (·.1 != "__name__")).find? (·.1 == "name") = some ("name", n))
    (hn : n ≠ .none) :
    ∃ d s₁, v = .entity d ∧ Runs (makeClass .task n [] (kw.filter (·.1 != "__name__"))) s₁ d s' := by
  -- a name other than none is kept, and the attributes are left as they are; the match on the
  -- name is settled by `hn`, which the discharger of `simp` takes from the context
  simp only [taskCreate, hname] at h
  obtain ⟨n', s₁, hn', h⟩ := runs_bind.1 h
  obtain ⟨rfl, rfl⟩ := runs_pure.1 hn'
  obtain ⟨d, s₂, hd, h⟩ := runs_bind.1 h
  obtain ⟨rfl, rfl⟩ := runs_pure.1 h
  exact ⟨d, s, rfl, hd⟩

/-- A group task is a task class that keeps its type and the `attrs` it is given. -/
theorem groupTask_keeps {r : Runtime} {type_ suffix : String} {name children target attrs : Value}
    {s s' : Session} {v : Value}
    (h : Runs (groupTask r type_ suffix name children [("attrs", attrs)] target) s v s')
    (hname : name.truthy = true) (hattrs : ∃ es, attrs = .dict es) :
    ∃ d : Entity, v = .entity d ∧ d.kind = .task ∧ d.ownAttr? "type" = some (.str type_) ∧
      d.ownAttr? "attrs" = some attrs := by
  simp only [groupTask, hname, if_true, pure_bind] at h
  obtain ⟨refs, s₁, -, h⟩ := runs_bind.1 h
  -- with a target or without, the attributes name the task and give its type and `attrs` once
  obtain ⟨kw, ⟨hplain, hfind, htype, hattrs'⟩, h⟩ : ∃ kw : List (String × Value),
      (kw.filter (·.1 != "__name__") = kw ∧ kw.find? (·.1 == "name") = some ("name", name) ∧
        kw.filter (·.1 == "type") = [("type", .str type_)] ∧
        kw.filter (·.1 == "attrs") = [("attrs", attrs)]) ∧ Runs (taskCreate kw) s₁ v s' := by
    split at h <;> refine ⟨_, ?_, h⟩ <;>
    · simp only [List.cons_append, List.nil_append, List.filter_cons, List.find?_cons, bne_iff_ne,
        ne_eq]
      simp
  have hn : name ≠ .none := by
    rintro rfl
    simp [Value.truthy] at hname
  obtain ⟨d, s₂, rfl, hd⟩ := taskCreate_named h (by rw [hplain]; exact hfind) hn
  rw [hplain] at hd
  obtain ⟨hkind, htype'⟩ := createClass_keeps hd "type" htype (by decide) (by simp [isDunder])
    (task_type_keeps · type_)
  obtain ⟨es, rfl⟩ := hattrs
  obtain ⟨-, hattrs''⟩ := createClass_keeps hd "attrs" hattrs' (by decide) (by simp [isDunder])
    (task_attrs_keeps · es)
  exact ⟨d, rfl, hkind, htype', hattrs''⟩

end Library

section References

/-- A reference that sees through to a class is a class named by the class's display name. -/
theorem taskKey_of_namedTarget {x : Value} {e : Entity} (h : namedTarget x = .entity e) :
    ∃ c, x = .entity c ∧ taskKey c = displayName e := by
  cases x with
  | entity c =>
    refine ⟨c, rfl, ?_⟩
    simp only [namedTarget] at h
    split at h
    · rename_i e' n _ hname
      split at h
      · rename_i hcond
        cases h
        simp only [Bool.and_eq_true, beq_iff_eq] at hcond
        simp [taskKey, attrOf, hname, hcond.2, Value.toText]
      · cases h
    · cases h
  | _ => simp [namedTarget] at h

/-- Edges between references that see through to classes are edges between reference classes,
    whose names are the display names of the classes they see. -/
theorem links_of_namedTarget {ps : List (Value × Value)} {pairs : List (Entity × Entity)}
    (h : ps.map (fun p => (namedTarget p.1, namedTarget p.2)) =
      pairs.map fun p => (.entity p.1, .entity p.2)) :
    ∃ links : List (Entity × Entity), ps = links.map (fun p => (.entity p.1, .entity p.2)) ∧
      edgeNames links = pairs.map fun p => (displayName p.1, displayName p.2) := by
  induction ps generalizing pairs with
  | nil =>
    cases pairs with
    | nil => exact ⟨[], rfl, rfl⟩
    | cons _ _ => simp at h
  | cons p ps ih =>
    cases pairs with
    | nil => simp at h
    | cons q pairs =>
      simp only [List.map_cons, List.cons.injEq, Prod.mk.injEq] at h
      obtain ⟨⟨h₁, h₂⟩, h⟩ := h
      obtain ⟨c₁, hc₁, hk₁⟩ := taskKey_of_namedTarget h₁
      obtain ⟨c₂, hc₂, hk₂⟩ := taskKey_of_namedTarget h₂
      obtain ⟨links, rfl, hlinks⟩ := ih h
      refine ⟨(c₁, c₂) :: links, ?_, ?_⟩
      · simp [← hc₁, ← hc₂]
      · simp only [edgeNames, List.map_cons] at hlinks ⊢
        rw [hk₁, hk₂, hlinks]

/-- A task named by a non-empty text is displayed by that name. -/
theorem displayName_eq_taskKey {e : Entity} {n : String} (hn : n ≠ "")
    (h : e.lookup? "name" = some (.str n)) : displayName e = taskKey e := by
  simp [displayName, taskKey, attrOf, h, Value.toText, hn]

end References

section Reading

/-- A read of a body that returns is the visitor's run over the parameters' defaults and the
    body: a fault while reading ends the command, so it never returns. -/
theorem runs_readBody {r : Runtime} {f : Function} {ctx : VisitCtx} {s s' : Session} {g : Gather}
    (h : Runs (readBody r f ctx) s g s') :
    Runs (visitExprs r ctx VisitCtx.depth {} (f.defn.params.filterMap (·.default)) >>= fun g =>
      visitBlock r ctx VisitCtx.depth g f.defn.body) s g s' := by
  unfold readBody at h
  refine runs_tryCatch_of_fails (fun e s₁ b s₂ hrun => ?_) h
  split at hrun
  · exact not_runs_throw hrun
  · obtain ⟨_, _, -, hrun⟩ := runs_bind.1 hrun
    exact not_runs_throw hrun

/-- Reading an action's body gives flat steps of tasks, and a task list that is a permutation of
    the steps' tasks keeping each step's order. -/
theorem readBody_action {r : Runtime} {f : Function} {target : Value} {s s' : Session}
    {g : Gather} (h : Runs (readBody r f (bodyContext f target false)) s g s') :
    WellShaped false g ∧ Tallied g := by
  have hreads : Reads false false {} g := visit_reads (runs_readBody h)
  exact ⟨hreads.wellShaped ⟨by simp [ReadShape], by simp⟩, hreads.tallied Tallied.empty⟩

theorem exists_map_entity {xs : List Value} (h : ∀ x ∈ xs, isTask x = true) :
    ∃ es : List Entity, xs = es.map .entity := by
  induction xs with
  | nil => exact ⟨[], rfl⟩
  | cons x xs ih =>
    obtain ⟨e, rfl⟩ := IsClass.of_isTask (h x (by simp))
    obtain ⟨es, rfl⟩ := ih fun y hy => h y (by simp [hy])
    exact ⟨e :: es, rfl⟩

theorem sublist_of_map_entity {a b : List Entity}
    (h : (a.map Value.entity).Sublist (b.map .entity)) : a.Sublist b := by
  obtain ⟨l, hl, heq⟩ := List.sublist_map_iff.1 h
  rwa [List.map_injective_iff.2 (fun _ _ h => Value.entity.inj h) heq]

end Reading

/-- The runbook built from a body lists the dag task first and then the body's tasks; the dag is
    a task of type `DAG` whose `attrs` hold the edges that laying the steps out gives. -/
theorem dagRunbook_tasks {r : Runtime} {f : Function} {owner : Option Entity} {isRunbook : Bool}
    {target : Value} {g : Gather} {s s' : Session} {f' : Function} {rbv : Value}
    (h : Runs (dagRunbook r f owner isRunbook target g) s (f', rbv) s')
    (htasks : ∀ t ∈ g.tasks, isTask t = true) :
    ∃ (layout : Layout) (edges : List Value) (dag rb : Entity),
      (∃ s₁, Runs (createEdges (refOf r) VisitCtx.depth {} g.steps none) s layout s₁) ∧
      (∃ s₁ s₂, Runs (dagEdges r (.list (layout.edges.map fun p => .tuple [p.1, p.2]))) s₁
        edges s₂) ∧
      (attrOf dag "type").isText "DAG" = true ∧ attrOf dag "attrs" = textDict [("edges", .list edges)] ∧
      rbv = .entity rb ∧ attrOf rb "tasks" = .list (.entity dag :: g.tasks) := by
  simp only [dagRunbook] at h
  obtain ⟨layout, s₁, hlayout, h⟩ := runs_bind.1 h
  obtain ⟨edges, s₂, hedges, h⟩ := runs_bind.1 h
  obtain ⟨dagv, s₃, hdag, h⟩ := runs_bind.1 h
  obtain ⟨rb₀, s₄, hrb₀, h⟩ := runs_bind.1 h
  obtain ⟨mref, s₅, -, h⟩ := runs_bind.1 h
  obtain ⟨rb₁, s₆, hrb₁, h⟩ := runs_bind.1 h
  obtain ⟨rb₂, s₇, hrb₂, h⟩ := runs_bind.1 h
  obtain ⟨rb₃, s₈, hrb₃, h⟩ := runs_bind.1 h
  obtain ⟨hpair, -⟩ := runs_pure.1 h
  -- the dag: a task of type DAG, whose `attrs` hold the edges
  obtain ⟨dag, rfl, hdkind, htype, hattrs⟩ := groupTask_keeps hdag (by simp [Value.truthy]) ⟨_, rfl⟩
  -- the runbook: made a runbook, then given its main reference, its tasks and its variables
  have hkind : rb₀.kind = .runbook := (createClass_attr hrb₀ (List.filter_eq_self.2 (by simp))).1
  obtain ⟨vref, -, rfl⟩ := setChecked_attr hrb₁
  -- the dag and the body's tasks are all tasks, so the runbook's check keeps them
  have hall : ∀ x ∈ Value.entity dag :: g.tasks, x.isKind .task = true := by
    intro x hx
    rcases List.mem_cons.1 hx with rfl | hx
    · simp [Value.isKind, hdkind, Kind.isA]
    · exact htasks x hx
  have htasks' : rb₂ = (rb₀.setAttr "main_task_local_reference" vref).setAttr "tasks"
      (.list (.entity dag :: g.tasks)) :=
    setChecked_keeps hrb₂ (by decide) (by simp [isDunder])
      (by simpa [hkind] using (runbook_tasks_keeps · hall))
  subst htasks'
  obtain ⟨_, -, rfl⟩ := setChecked_attr hrb₃
  simp only [Prod.mk.injEq] at hpair
  refine ⟨layout, edges, dag, _, ⟨s₁, hlayout⟩, ⟨s₁, s₂, hedges⟩, ?_, ?_, hpair.2.symm, ?_⟩
  · simp [attrOf, Entity.lookup?_of_ownAttr? htype, Value.isText]
  · simp [attrOf, Entity.lookup?_of_ownAttr? hattrs]
  · rw [attrOf, Entity.lookup?_of_ownAttr?]
    · rfl
    · rw [Entity.ownAttr?_setAttr_of_ne _ (by decide), Entity.ownAttr?_setAttr_self]

/-- Laid out and read through the references' names, the edges of the dag of flat steps that are
    the levels `levels` of tasks named by non-empty texts chain the levels by the tasks' names. -/
theorem dagEdges_chain {r : Runtime} {g : Gather} {levels : List (List Entity)} {layout : Layout}
    {edges : List Value} {s s₁ s₂ s₃ : Session} (hwell : WellShaped false g)
    (hsteps : g.steps.map Step.tasks = levels.map (·.map .entity))
    (hnamed : ∀ e ∈ levels.flatten, ∃ n, n ≠ "" ∧ e.lookup? "name" = some (.str n))
    (hlayout : Runs (createEdges (refOf r) VisitCtx.depth {} g.steps none) s layout s₁)
    (hedges : Runs (dagEdges r (.list (layout.edges.map fun p => .tuple [p.1, p.2]))) s₂ edges s₃) :
    ∃ links : List (Entity × Entity), edges = links.map (fun p => edgeValue p.1 p.2) ∧
      edgeNames links = chainPairs (levels.map (·.map taskKey)) := by
  have hplan := createEdges_resolveBy r (namedTarget_seesRefs r) VisitCtx.depth {} g.steps none
    _ layout _ hwell.classes (by simp) hlayout
  rw [show VisitCtx.depth = 511 + 1 from rfl, plan_flat hwell.shape] at hplan
  -- seen through the references, the layout's edges are the chain of the levels' tasks
  have hresolved : layout.edges.map (fun p => (namedTarget p.1, namedTarget p.2)) =
      (chainPairs levels).map fun p => (.entity p.1, .entity p.2) := by
    have hedges' := congrArg Layout.edges (Except.ok.inj hplan)
    simp only [Layout.resolveBy] at hedges'
    rw [← chainPairs_map, ← hsteps]
    simpa using hedges'.symm
  obtain ⟨links, hlinksEq, hnames⟩ := links_of_namedTarget hresolved
  -- the references are named by the tasks' display names, which are the tasks' names
  have hdisplay : levels.map (·.map displayName) = levels.map (·.map taskKey) := by
    refine List.map_congr_left fun a ha => List.map_congr_left fun e he => ?_
    obtain ⟨n, hn, hname⟩ := hnamed e (List.mem_flatten.2 ⟨a, ha, he⟩)
    exact displayName_eq_taskKey hn hname
  refine ⟨links, ?_, by rw [hnames, ← hdisplay, chainPairs_map]⟩
  rw [dagEdges_pairs hedges, hlinksEq]
  simp [edgeValue, Function.comp_def]

/-- The task list of an action whose steps are the levels `levels`: the levels' tasks, in
    another order perhaps, and the first level in its own. -/
theorem levels_of_tallied {g : Gather} {levels : List (List Entity)} {tasks : List Entity}
    (htally : Tallied g) (hsteps : g.steps.map Step.tasks = levels.map (·.map .entity))
    (htasks : g.tasks = tasks.map .entity) :
    tasks.Perm levels.flatten ∧ (levels.headD []).Sublist tasks := by
  have hflatten : tasksOf g.steps = levels.flatten.map .entity := by
    rw [tasksOf_eq_flatten, hsteps, List.map_flatten]
  refine ⟨?_, ?_⟩
  · rw [← List.map_perm_map_iff (f := Value.entity) (fun _ _ h => Value.entity.inj h), ← htasks,
      ← hflatten]
    exact htally.perm
  · cases levels with
    | nil => simp
    | cons a rest =>
      cases hg : g.steps with
      | nil => simp [hg] at hsteps
      | cons st steps =>
        rw [hg, List.map_cons, List.map_cons, List.cons.injEq] at hsteps
        have hsub := htally.sublist st (by simp [hg])
        rw [hsteps.1, htasks] at hsub
        exact sublist_of_map_entity hsub

/-- Reading back the levels of the runbook that an action compiles to gives the action's steps:
    where the steps read off the body are non-empty levels of different tasks, each named by a
    non-empty text, the runbook lists the dag and then tasks whose levels are those steps, each
    in its written order. The dag's edges name their ends through references, by the tasks'
    display names, and reading back names tasks by their `name`: the two agree for such tasks. -/
theorem taskLevels_of_compiled_action (r : Runtime) (f : Function) (owner : Option Entity)
    {s s₁ s₂ s' : Session} {target : Value} {g : Gather} {f' : Function} {rbv : Value}
    (htarget : Runs (bodyTarget r f owner) s target s₁)
    (hread : Runs (readBody r f (bodyContext f target false)) s₁ g s₂)
    (levels : List (List Entity)) (hsteps : g.steps.map Step.tasks = levels.map (·.map .entity))
    (hne : ∀ a ∈ levels, a ≠ [])
    (hnamed : ∀ e ∈ levels.flatten, ∃ n, n ≠ "" ∧ e.lookup? "name" = some (.str n))
    (hdistinct : (levels.flatten.map taskKey).Nodup)
    (hrun : Runs (buildRunbook r f owner false) s (f', rbv) s') :
    ∃ rb dag tasks, rbv = .entity rb ∧
      attrOf rb "tasks" = .list (.entity dag :: tasks.map .entity) ∧
      taskLevels (dag :: tasks) = pure levels := by
  -- the build reads the body as `hread` does, then builds the dag and the runbook from it
  simp only [buildRunbook] at hrun
  obtain ⟨target', s₃, htarget', hrun⟩ := runs_bind.1 hrun
  obtain ⟨rfl, rfl⟩ := Runs.unique htarget' htarget
  obtain ⟨g', s₄, hread', hrun⟩ := runs_bind.1 hrun
  obtain ⟨rfl, rfl⟩ := Runs.unique hread' hread
  obtain ⟨hwell, htally⟩ := readBody_action hread
  have htasks : ∀ t ∈ g'.tasks, isTask t = true := fun t ht =>
    hwell.tasks t (htally.perm.subset ht)
  obtain ⟨tasks, htasksEq⟩ := exists_map_entity htasks
  obtain ⟨layout, edges, dag, rb, ⟨s₅, hlayout⟩, ⟨s₆, s₇, hedges⟩, htype, hattrs, rfl, hrbTasks⟩ :=
    dagRunbook_tasks hrun htasks
  refine ⟨rb, dag, tasks, rfl, by rw [hrbTasks, htasksEq], ?_⟩
  obtain ⟨links, hedgesEq, hchain⟩ := dagEdges_chain hwell hsteps hnamed hlayout hedges
  obtain ⟨hperm, hfirst⟩ := levels_of_tallied htally hsteps htasksEq
  exact taskLevels_chain dag levels tasks links [(.str "edges", .list edges)] htype
    (by rw [hattrs]; rfl) (by simp [dictGet?, Value.isText, hedgesEq]) hchain hne hdistinct hperm
    hfirst

/-- A runtime in which calling a value gives the value back, and a class's kind is the kind the
    server knows it by. -/
def kindRuntime : Runtime where
  call f _ _ := pure f
  attr v name := match v, name with
    | .entity e, "__kind__" => pure (.str e.kind.apiKind)
    | _, _ => pure .none
  compile _ _ := throw .tooDeep
  encode _ _ _ := throw .tooDeep

/-- Three named tasks and the parallel block, bound by name. -/
def forkSession : Session :=
  { globals := [("t1", .entity (namedTask "t1")), ("t2", .entity (namedTask "t2")),
      ("t3", .entity (namedTask "t3")), ("parallel", .builtin ["parallel"])] }

/-- An action that runs `t1` and then `t2` and `t3` side by side. -/
def forkAction : Function :=
  .mk .action { name := "act", params := [], doc := none, body := [
    .expr (.call (.name "t1") [] []),
    .withBlock (.call (.name "parallel") [] []) none
      [.expr (.call (.name "t2") [] []), .expr (.call (.name "t3") [] [])]] } [] []

/-- An action that runs `t1` and then `t2` and `t3` side by side reads back from its runbook as
    `t1`, then `t2` and `t3` in their written order. -/
theorem taskLevels_of_compiled_fork :
    Runs (bodyTarget kindRuntime forkAction none) forkSession .none forkSession ∧
    Runs (readBody kindRuntime forkAction (bodyContext forkAction .none false)) forkSession
      { steps := [.task (.entity (namedTask "t1")),
          .group [.task (.entity (namedTask "t2")), .task (.entity (namedTask "t3"))]],
        tasks := [.entity (namedTask "t1"), .entity (namedTask "t2"), .entity (namedTask "t3")] }
      forkSession ∧
    ∃ f' rbv s', Runs (buildRunbook kindRuntime forkAction none false) forkSession (f', rbv) s' ∧
      ∃ rb dag tasks, rbv = .entity rb ∧
        attrOf rb "tasks" = .list (.entity dag :: tasks.map .entity) ∧
        taskLevels (dag :: tasks) = pure [[namedTask "t1"], [namedTask "t2", namedTask "t3"]] := by
  have htarget : Runs (bodyTarget kindRuntime forkAction none) forkSession .none forkSession := rfl
  have hread : Runs (readBody kindRuntime forkAction (bodyContext forkAction .none false))
      forkSession
      { steps := [.task (.entity (namedTask "t1")),
          .group [.task (.entity (namedTask "t2")), .task (.entity (namedTask "t3"))]],
        tasks := [.entity (namedTask "t1"), .entity (namedTask "t2"), .entity (namedTask "t3")] }
      forkSession := rfl
  have hreturns : Returns (buildRunbook kindRuntime forkAction none false) forkSession = true := by
    decide +kernel
  obtain ⟨⟨f', rbv⟩, s', hrun⟩ := returns_iff.1 hreturns
  refine ⟨htarget, hread, f', rbv, s', hrun, taskLevels_of_compiled_action kindRuntime forkAction
    none htarget hread _ (by simp) (by simp) (fun e he => ?_) (by decide) hrun⟩
  simp only [List.flatten_cons, List.flatten_nil, List.cons_append, List.nil_append,
    List.mem_cons, List.not_mem_nil, or_false] at he
  rcases he with rfl | rfl | rfl <;> exact ⟨_, by decide, rfl⟩

end Blueprints.Source
