import Blueprints.Proofs.Flow.Branches

namespace Blueprints.Flow

open Build Library Step

/-- The gather with the tasks `ts` added in order, each both as a step and among all tasks. -/
def Gather.addTasks (g : Gather) (ts : List Value) : Gather :=
  { g with steps := g.steps ++ ts.map .task, tasks := g.tasks ++ ts }

@[simp] theorem Gather.addTasks_nil (g : Gather) : g.addTasks [] = g := by
  simp [Gather.addTasks]

theorem Gather.addTasks_cons (g : Gather) (t : Value) (ts : List Value) :
    g.addTasks (t :: ts) = (g.addTask t).addTasks ts := by
  simp [Gather.addTasks, Gather.addTask]

theorem Gather.addTasks_append (g : Gather) (xs ys : List Value) :
    g.addTasks (xs ++ ys) = (g.addTasks xs).addTasks ys := by
  simp [Gather.addTasks]

/-- `g'` is `g` with tasks added, as searching expressions for calls grows a gather. -/
def AddsTasks (g g' : Gather) : Prop :=
  ∃ ts : List Value, (∀ t ∈ ts, isTask t = true) ∧ g' = g.addTasks ts

namespace AddsTasks

theorem refl (g : Gather) : AddsTasks g g := ⟨[], by simp, by simp⟩

theorem trans {g₁ g₂ g₃ : Gather} (h₁ : AddsTasks g₁ g₂) (h₂ : AddsTasks g₂ g₃) :
    AddsTasks g₁ g₃ := by
  obtain ⟨xs, hxs, rfl⟩ := h₁
  obtain ⟨ys, hys, rfl⟩ := h₂
  refine ⟨xs ++ ys, fun t ht => ?_, (Gather.addTasks_append _ _ _).symm⟩
  rcases List.mem_append.1 ht with ht | ht
  · exact hxs t ht
  · exact hys t ht

theorem addTask (g : Gather) {t : Value} (ht : isTask t = true) : AddsTasks g (g.addTask t) :=
  ⟨[t], by simp [ht], by simp [Gather.addTasks, Gather.addTask]⟩

end AddsTasks

/-- `g'` is the gather `g` grown by the constructs a body may hold, read for a runbook or an
    action, and inside a decision or loop or not. A parallel block of an action adds the tasks
    of its calls as one group, after the tasks that the calls' arguments make, each a step of its
    own; all of them join the task list as they are made, in the order `mix`. -/
inductive Reads : Bool → Bool → Gather → Gather → Prop
  | refl {isRunbook isMeta : Bool} {g : Gather} : Reads isRunbook isMeta g g
  | task {isRunbook isMeta : Bool} {g g' : Gather} {t : Value} (h : Reads isRunbook isMeta g g')
      (ht : isTask t = true) : Reads isRunbook isMeta g (g'.addTask t)
  | group {isMeta : Bool} {g g' : Gather} {inner ts mix : List Value}
      (h : Reads false isMeta g g') (hinner : ∀ t ∈ inner, isTask t = true)
      (hts : ∀ t ∈ ts, isTask t = true) (hmix : mix.Perm (inner ++ ts)) (horder : ts.Sublist mix) :
      Reads false isMeta g { g' with
        steps := g'.steps ++ inner.map .task ++ [.group (ts.map .task)], tasks := g'.tasks ++ mix }
  | parallel {g g' : Gather} {inners : List Gather} (h : Reads true false g g')
      (hreads : ∀ i ∈ inners, Reads true false {} i) (hsteps : ∀ i ∈ inners, i.steps ≠ [])
      (hne : inners ≠ []) :
      Reads true false g { inners.foldl Gather.addBranch g' with
        steps := g'.steps ++ [.group (inners.map fun i => .group i.steps)] }
  | metaTask {isMeta : Bool} {g g' : Gather} {m : Value} {inner : Gather}
      (h : Reads true isMeta g g') (hinner : Reads true true {} inner) :
      Reads true isMeta g (g'.addMeta m inner)
  | declare {isRunbook isMeta : Bool} {g g' : Gather} {name : String} {v : Value}
      (h : Reads isRunbook isMeta g g') :
      Reads isRunbook isMeta g { g' with declaredVars := g'.declaredVars ++ [(name, v)] }

namespace Reads

variable {isRunbook isMeta : Bool}

theorem trans {g₁ g₂ g₃ : Gather} (h₁ : Reads isRunbook isMeta g₁ g₂)
    (h₂ : Reads isRunbook isMeta g₂ g₃) : Reads isRunbook isMeta g₁ g₃ := by
  induction h₂ with
  | refl => exact h₁
  | task _ ht ih => exact .task (ih h₁) ht
  | group _ hinner hts hmix horder ih => exact .group (ih h₁) hinner hts hmix horder
  | parallel _ hreads hsteps hne ih => exact .parallel (ih h₁) hreads hsteps hne
  | metaTask _ hinner ih => exact .metaTask (ih h₁) hinner
  | declare _ ih => exact .declare (ih h₁)

end Reads

/-- Adding tasks is a read of any kind of body. -/
theorem AddsTasks.reads {isRunbook isMeta : Bool} {g g' : Gather} (h : AddsTasks g g') :
    Reads isRunbook isMeta g g' := by
  obtain ⟨ts, hts, rfl⟩ := h
  induction ts generalizing g with
  | nil => simpa using Reads.refl
  | cons t ts ih =>
    rw [Gather.addTasks_cons]
    exact (Reads.task .refl (hts t (by simp))).trans (ih fun u hu => hts u (by simp [hu]))

theorem IsClass.of_isTask {v : Value} (h : isTask v = true) : IsClass v := by
  unfold isTask Value.isKind at h
  split at h
  · exact ⟨_, rfl⟩
  · cases h

/-- The shape that reading a body of each kind gives its steps: groups of branches in a runbook,
    flat steps in an action. -/
def ReadShape : Bool → List Step → Prop
  | true, steps => RunShape steps
  | false, steps => ∀ s ∈ steps, s.IsFlat

/-- A gather whose steps have the shape of a body of the kind, and whose steps' tasks are
    tasks. -/
structure WellShaped (isRunbook : Bool) (g : Gather) : Prop where
  shape : ReadShape isRunbook g.steps
  tasks : ∀ t ∈ tasksOf g.steps, isTask t = true

theorem WellShaped.classes {isRunbook : Bool} {g : Gather} (h : WellShaped isRunbook g) :
    ∀ t ∈ tasksOf g.steps, IsClass t :=
  fun t ht => IsClass.of_isTask (h.tasks t ht)

/-- Being well shaped depends on the steps only. -/
theorem WellShaped.of_steps_eq {isRunbook : Bool} {g g' : Gather} (h : WellShaped isRunbook g)
    (heq : g'.steps = g.steps) : WellShaped isRunbook g' :=
  ⟨heq ▸ h.shape, heq ▸ h.tasks⟩

theorem RunShape.append {xs ys : List Step} (hx : RunShape xs) (hy : RunShape ys) :
    RunShape (xs ++ ys) := by
  induction hx with
  | nil => exact hy
  | task t _ ih => exact .task t ih
  | branches bs hne hsteps hb _ _ ih => exact .branches bs hne hsteps hb ih

theorem ReadShape.append_task {isRunbook : Bool} {steps : List Step} (h : ReadShape isRunbook steps)
    (t : Value) : ReadShape isRunbook (steps ++ [.task t]) := by
  cases isRunbook with
  | true => exact RunShape.append h (.task t .nil)
  | false =>
    intro s hs
    rcases List.mem_append.1 hs with hs | hs
    · exact h s hs
    · simp only [List.mem_singleton] at hs
      subst hs
      trivial

@[simp] theorem Gather.foldl_addBranch_steps (g : Gather) (inners : List Gather) :
    (inners.foldl Gather.addBranch g).steps = g.steps := by
  induction inners generalizing g with
  | nil => rfl
  | cons i rest ih => simp [ih, Gather.addBranch]

/-- Every construct keeps the steps of a gather in the shape of its body, with tasks for
    tasks. -/
theorem Reads.wellShaped {isRunbook isMeta : Bool} {g g' : Gather}
    (h : Reads isRunbook isMeta g g') (hg : WellShaped isRunbook g) : WellShaped isRunbook g' := by
  induction h with
  | refl => exact hg
  | task _ ht ih =>
    obtain ⟨hshape, htasks⟩ := ih hg
    refine ⟨hshape.append_task _, fun t hmem => ?_⟩
    simp only [Gather.addTask, tasksOf_append, tasksOf_cons, tasks_task, tasksOf_nil,
      List.append_nil, List.mem_append, List.mem_singleton] at hmem
    rcases hmem with hmem | rfl
    · exact htasks t hmem
    · exact ht
  | group _ hinner hts _ _ ih =>
    obtain ⟨hshape, htasks⟩ := ih hg
    refine ⟨fun s hs => ?_, fun t hmem => ?_⟩
    · simp only [List.mem_append, List.mem_map, List.mem_singleton] at hs
      rcases hs with (hs | ⟨t, -, rfl⟩) | rfl
      · exact hshape s hs
      · trivial
      · intro i hi
        obtain ⟨t, _, rfl⟩ := List.mem_map.1 hi
        exact ⟨t, rfl⟩
    · simp only [tasksOf_append, tasksOf_map_task, tasksOf_cons, tasks_group, tasksOf_nil,
        List.append_nil, List.mem_append] at hmem
      rcases hmem with (hmem | hmem) | hmem
      · exact htasks t hmem
      · exact hinner t hmem
      · exact hts t hmem
  | @parallel _ _ inners _ hreads hsteps hne ih ihinner =>
    obtain ⟨hshape, htasks⟩ := ih hg
    have hinner (i : Gather) (hi : i ∈ inners) : WellShaped true i :=
      ihinner i hi ⟨RunShape.nil, by simp⟩
    refine ⟨?_, fun t hmem => ?_⟩
    · -- the group holds one branch per inner read, each a runbook shape
      have hgroup : RunShape [.group (inners.map fun i => .group i.steps)] := by
        have hbranches := RunShape.branches (inners.map (·.steps)) (by simpa using hne)
          (fun b hb => by
            obtain ⟨i, hi, rfl⟩ := List.mem_map.1 hb
            exact hsteps i hi)
          (fun b hb => by
            obtain ⟨i, hi, rfl⟩ := List.mem_map.1 hb
            exact (hinner i hi).shape) RunShape.nil
        simpa [List.map_map, Function.comp_def] using hbranches
      exact RunShape.append hshape hgroup
    · simp only [tasksOf_append, tasksOf_cons, tasks_group, tasksOf_nil, List.append_nil,
        List.mem_append] at hmem
      rcases hmem with hmem | hmem
      · exact htasks t hmem
      · obtain ⟨s, hs, ht⟩ := mem_tasksOf.1 hmem
        obtain ⟨i, hi, rfl⟩ := List.mem_map.1 hs
        exact (hinner i hi).tasks t (by simpa using ht)
  | metaTask _ _ ih _ => exact (ih hg).of_steps_eq rfl
  | declare _ ih => exact (ih hg).of_steps_eq rfl

/-- What reading an action keeps: its task list is a permutation of its steps' tasks, and the
    tasks of each step stand in the task list in the step's order. -/
structure Tallied (g : Gather) : Prop where
  perm : g.tasks.Perm (tasksOf g.steps)
  sublist : ∀ st ∈ g.steps, st.tasks.Sublist g.tasks

theorem Tallied.empty : Tallied {} := ⟨by simp, by simp⟩

/-- Every construct of an action keeps its tasks tallied with its steps: a parallel block's
    tasks join the task list in the order they are made, which keeps the group's own order. -/
theorem Reads.tallied {isMeta : Bool} {g g' : Gather} (h : Reads false isMeta g g')
    (hg : Tallied g) : Tallied g' := by
  generalize hrunbook : false = isRunbook at h
  induction h with
  | refl => exact hg
  | task _ _ ih =>
    obtain ⟨hperm, hsub⟩ := ih hg hrunbook
    refine ⟨by simpa [Gather.addTask] using hperm.append_right _, fun st hst => ?_⟩
    simp only [Gather.addTask, List.mem_append, List.mem_singleton] at hst
    rcases hst with hst | rfl
    · exact (hsub st hst).trans (List.sublist_append_left _ _)
    · simp [Gather.addTask]
  | @group _ _ _ inner ts mix _ _ _ hmix horder ih =>
    obtain ⟨hperm, hsub⟩ := ih hg hrunbook
    refine ⟨by simpa using hperm.append hmix, fun st hst => ?_⟩
    simp only [List.mem_append, List.mem_map, List.mem_singleton] at hst
    rcases hst with (hst | ⟨t, ht, rfl⟩) | rfl
    · exact (hsub st hst).trans (List.sublist_append_left _ _)
    · simpa using Or.inr (hmix.mem_iff.2 (List.mem_append_left _ ht))
    · simpa using horder.trans (List.sublist_append_right _ _)
  | parallel => cases hrunbook
  | metaTask => cases hrunbook
  | declare _ ih =>
    obtain ⟨hperm, hsub⟩ := ih hg hrunbook
    exact ⟨hperm, hsub⟩

/-- Giving a task the target of its body keeps it a task. -/
theorem withTarget_isTask {r : Runtime} {ctx : VisitCtx} {v w : Value} {s s' : Session}
    (h : Runs (withTarget r ctx v) s w s') (hv : isTask v = true) : isTask w = true := by
  obtain ⟨e, rfl⟩ := IsClass.of_isTask hv
  unfold withTarget at h
  split at h
  · rwa [← (runs_pure.1 h).1]
  · obtain ⟨_, s₁, -, h⟩ := runs_bind.1 h
    split at h
    · rwa [← (runs_pure.1 h).1]
    · obtain ⟨e', s₂, he', h⟩ := runs_bind.1 h
      obtain ⟨rfl, -⟩ := runs_pure.1 h
      obtain ⟨_, -, rfl⟩ := setChecked_attr he'
      simpa [isTask, Value.isKind] using hv

theorem isTask_withFlows {context : Value} (h : isTask context = true) (sref fref : Value) :
    isTask (withFlows context sref fref) = true := by
  obtain ⟨e, rfl⟩ := IsClass.of_isTask h
  simpa [withFlows, isTask, Value.isKind] using h

theorem isTask_withBody {context : Value} (h : isTask context = true) (mref : Value) :
    isTask (withBody context mref) = true := by
  obtain ⟨e, rfl⟩ := IsClass.of_isTask h
  simpa [withBody, isTask, Value.isKind] using h

section Expressions

variable (r : Runtime) (ctx : VisitCtx)

/-- Searching expressions for calls only adds the tasks that the calls make; a call asked to
    return its task returns a task. -/
theorem visitExprs_addsTasks (n : Nat) :
    (∀ g e s g' s', Runs (visitExpr r ctx n g e) s g' s' → AddsTasks g g') ∧
    (∀ g es s g' s', Runs (visitExprs r ctx n g es) s g' s' → AddsTasks g g') ∧
    (∀ g e returnTask s g' o s', Runs (visitCall r ctx n g e returnTask) s (g', o) s' →
      AddsTasks g g' ∧ ∀ t, o = some t → isTask t = true) := by
  induction n with
  | zero =>
    refine ⟨fun g e s g' s' h => ?_, fun g es s g' s' h => ?_, fun g e rt s g' o s' h => ?_⟩ <;>
      simp [visitExpr, visitExprs, visitCall] at h
  | succ n ih =>
    obtain ⟨hexpr, hexprs, hcall⟩ := ih
    refine ⟨fun g e s g' s' h => ?_, fun g es s g' s' h => ?_, fun g e rt s g' o s' h => ?_⟩
    · simp only [visitExpr] at h
      split at h
      · obtain ⟨⟨g₁, o⟩, s₁, h₁, h⟩ := runs_bind.1 h
        obtain ⟨rfl, -⟩ := runs_pure.1 h
        exact (hcall _ _ _ _ _ _ _ h₁).1
      · exact hexprs _ _ _ _ _ h
    · cases es with
      | nil =>
        simp only [visitExprs] at h
        obtain ⟨rfl, -⟩ := runs_pure.1 h
        exact .refl g
      | cons e es =>
        simp only [visitExprs] at h
        obtain ⟨g₁, s₁, h₁, h⟩ := runs_bind.1 h
        exact (hexpr _ _ _ _ _ h₁).trans (hexprs _ _ _ _ _ h)
    · simp only [visitCall] at h
      split at h
      · obtain ⟨_, s₁, -, h⟩ := runs_bind.1 h
        obtain ⟨_, s₂, -, h⟩ := runs_bind.1 h
        obtain ⟨v, s₃, -, h⟩ := runs_bind.1 h
        split at h
        · -- the call made a task: it is returned, or added
          rename_i htask
          obtain ⟨task, s₄, htarget, h⟩ := runs_bind.1 h
          have htask' := withTarget_isTask htarget htask
          split at h
          · obtain ⟨hpair, -⟩ := runs_pure.1 h
            simp only [Prod.mk.injEq] at hpair
            obtain ⟨rfl, rfl⟩ := hpair
            exact ⟨.refl _, fun t ht => by cases ht; exact htask'⟩
          · obtain ⟨hpair, -⟩ := runs_pure.1 h
            simp only [Prod.mk.injEq] at hpair
            obtain ⟨rfl, rfl⟩ := hpair
            exact ⟨.addTask _ htask', fun t ht => by cases ht⟩
        · obtain ⟨g₁, s₄, h₁, h⟩ := runs_bind.1 h
          obtain ⟨hpair, -⟩ := runs_pure.1 h
          simp only [Prod.mk.injEq] at hpair
          obtain ⟨rfl, rfl⟩ := hpair
          exact ⟨hexprs _ _ _ _ _ h₁, fun t ht => by cases ht⟩
      · obtain ⟨g₁, s₁, h₁, h⟩ := runs_bind.1 h
        obtain ⟨hpair, -⟩ := runs_pure.1 h
        simp only [Prod.mk.injEq] at hpair
        obtain ⟨rfl, rfl⟩ := hpair
        exact ⟨hexpr _ _ _ _ _ h₁, fun t ht => by cases ht⟩

end Expressions

/-- Every run of `x` grows the gather `g` into one that `Reads` allows. -/
def ReadsFrom (isRunbook isMeta : Bool) (g : Gather) (x : Build Gather) : Prop :=
  ∀ s g' s', Runs x s g' s' → Reads isRunbook isMeta g g'

section Constructs

variable {r : Runtime} {isMeta : Bool}

/-- The calls of a parallel block of an action: the task of each call joins the group and the
    task list; the tasks that a call's arguments make are steps of their own and join the task
    list too, as they are made. -/
theorem parallelCalls_tasks {call : Gather → Expr → Build (Gather × Option Value)}
    (hcall : ∀ g e s g' o s', Runs (call g e) s (g', o) s' →
      AddsTasks g g' ∧ ∀ t, o = some t → isTask t = true)
    {body : List Stmt} {g g' : Gather} {group group' : List Step} {s s' : Session}
    (h : Runs (parallelCalls call g group body) s (g', group') s') :
    ∃ inner ts mix : List Value, (∀ t ∈ inner, isTask t = true) ∧ (∀ t ∈ ts, isTask t = true) ∧
      mix.Perm (inner ++ ts) ∧ ts.Sublist mix ∧ group' = group ++ ts.map .task ∧
      g' = { g with steps := g.steps ++ inner.map .task, tasks := g.tasks ++ mix } := by
  induction body generalizing g group s with
  | nil =>
    obtain ⟨hpair, -⟩ := runs_pure.1 h
    cases hpair
    exact ⟨[], [], [], by simp, by simp, by simp, by simp, by simp, by simp⟩
  | cons st ss ih =>
    simp only [parallelCalls] at h
    obtain ⟨value, s₁, -, h⟩ := runs_bind.1 h
    split at h
    · obtain ⟨⟨g₁, o⟩, s₂, h₁, h⟩ := runs_bind.1 h
      obtain ⟨⟨xs, hxs, rfl⟩, ho⟩ := hcall _ _ _ _ _ _ h₁
      -- the tasks of the call's arguments come first, both as steps and in the task list
      have hfirst (inner : List Value) (hinner : ∀ t ∈ inner, isTask t = true) :
          ∀ t ∈ xs ++ inner, isTask t = true := fun t ht => by
        rcases List.mem_append.1 ht with ht | ht
        · exact hxs t ht
        · exact hinner t ht
      cases o with
      | none =>
        obtain ⟨inner, ts, mix, hinner, hts, hmix, horder, rfl, rfl⟩ := ih h
        refine ⟨xs ++ inner, ts, xs ++ mix, hfirst inner hinner, hts, ?_, horder.trans
          (List.sublist_append_right _ _), rfl, by simp [Gather.addTasks]⟩
        simpa using hmix.append_left xs
      | some t =>
        obtain ⟨inner, ts, mix, hinner, hts, hmix, horder, rfl, rfl⟩ := ih h
        have ht := ho t rfl
        refine ⟨xs ++ inner, t :: ts, xs ++ t :: mix, hfirst inner hinner, fun u hu => ?_, ?_,
          (horder.cons_cons t).trans (List.sublist_append_right _ _), by simp, by
            simp [Gather.addTasks]⟩
        · rcases List.mem_cons.1 hu with rfl | hu
          · exact ht
          · exact hts u hu
        · -- the call's own task is made before the tasks of the later calls
          simpa using ((hmix.cons t).trans List.perm_middle.symm).append_left xs
    · simp at h

theorem actionParallel_reads {call : Gather → Expr → Build (Gather × Option Value)}
    (hcall : ∀ g e s g' o s', Runs (call g e) s (g', o) s' →
      AddsTasks g g' ∧ ∀ t, o = some t → isTask t = true) (g : Gather) (body : List Stmt) :
    ReadsFrom false isMeta g (actionParallel call g body) := by
  intro s g' s' h
  obtain ⟨⟨g₁, group⟩, s₁, h₁, h⟩ := runs_bind.1 h
  obtain ⟨rfl, -⟩ := runs_pure.1 h
  obtain ⟨inner, ts, mix, hinner, hts, hmix, horder, rfl, rfl⟩ := parallelCalls_tasks hcall h₁
  simpa using Reads.group (g := g) .refl hinner hts hmix horder

theorem parallelBranches_reads {locals : List (String × Value)} {var : String}
    {block : List Stmt → Build Gather} (hblock : ∀ body, ReadsFrom true false {} (block body))
    {body : List Stmt} {g g' : Gather} {branches branches' : List Step} {s s' : Session}
    (h : Runs (parallelBranches r locals var block g branches body) s (g', branches') s') :
    ∃ inners : List Gather, (∀ i ∈ inners, Reads true false {} i) ∧
      (∀ i ∈ inners, i.steps ≠ []) ∧ g' = inners.foldl Gather.addBranch g ∧
      branches' = branches ++ inners.map fun i => .group i.steps := by
  induction body generalizing g branches s with
  | nil =>
    obtain ⟨hpair, -⟩ := runs_pure.1 h
    cases hpair
    exact ⟨[], by simp, by simp, rfl, by simp⟩
  | cons st ss ih =>
    simp only [parallelBranches] at h
    split at h
    · obtain ⟨_, s₁, -, h⟩ := runs_bind.1 h
      obtain ⟨_, s₂, -, h⟩ := runs_bind.1 h
      split at h
      · simp at h
      · obtain ⟨inner, s₃, hinner, h⟩ := runs_bind.1 h
        split at h
        · simp at h
        · rename_i hne
          obtain ⟨inners, hreads, hsteps, rfl, rfl⟩ := ih h
          refine ⟨inner :: inners, fun i hi => ?_, fun i hi => ?_, rfl, by simp⟩
          · rcases List.mem_cons.1 hi with rfl | hi
            · exact hblock _ _ _ _ hinner
            · exact hreads i hi
          · rcases List.mem_cons.1 hi with rfl | hi
            · simpa using hne
            · exact hsteps i hi
    · simp at h

theorem runbookParallel_reads {ctx : VisitCtx} {asName : Option String}
    {block : List Stmt → Build Gather} (hblock : ∀ body, ReadsFrom true false {} (block body))
    (g : Gather) (body : List Stmt) :
    ReadsFrom true ctx.isMeta g (runbookParallel r ctx asName block g body) := by
  intro s g' s' h
  unfold runbookParallel at h
  split at h
  · simp at h
  · rename_i hmeta
    simp only [Bool.not_eq_true] at hmeta
    rw [hmeta]
    split at h
    · simp at h
    · obtain ⟨⟨g₁, branches⟩, s₁, h₁, h⟩ := runs_bind.1 h
      obtain ⟨inners, hreads, hsteps, rfl, rfl⟩ := parallelBranches_reads hblock h₁
      dsimp only at h
      split at h
      · rename_i hempty
        obtain ⟨rfl, -⟩ := runs_pure.1 h
        have hnil : inners = [] := by simpa using hempty
        subst hnil
        exact .refl
      · rename_i hne
        obtain ⟨rfl, -⟩ := runs_pure.1 h
        simpa using Reads.parallel (g := g) .refl hreads hsteps (by simpa using hne)

theorem decisionPaths_reads {cname var : String} {stmt : Stmt → Build Gather}
    {block : List Stmt → Build Gather} (hstmt : ∀ st, ReadsFrom true true {} (stmt st))
    (hblock : ∀ body, ReadsFrom true true {} (block body)) {body : List Stmt} {g g' : Gather}
    {success failure success' failure' : Option Value} {s s' : Session}
    (h : Runs (decisionPaths r cname var stmt block g success failure body) s
      (g', success', failure') s') : Reads true isMeta g g' := by
  -- each flow read adds its meta task and the tasks of the flow
  have hflow {read : Build Gather} (hread : ReadsFrom true true {} read) {taken : Option Value}
      {again pfx : String} {g g' : Gather} {m : Value} {s s' : Session}
      (h : Runs (decisionFlow r read taken again pfx g) s (g', m) s') : Reads true isMeta g g' := by
    unfold decisionFlow at h
    split at h
    · simp at h
    · obtain ⟨inner, s₁, hinner, h⟩ := runs_bind.1 h
      obtain ⟨m', s₂, -, h⟩ := runs_bind.1 h
      obtain ⟨hpair, -⟩ := runs_pure.1 h
      simp only [Prod.mk.injEq] at hpair
      obtain ⟨rfl, -⟩ := hpair
      exact .metaTask .refl (hread _ _ _ hinner)
  induction body generalizing g success failure s with
  | nil =>
    obtain ⟨hpair, -⟩ := runs_pure.1 h
    cases hpair
    exact .refl
  | cons st ss ih =>
    simp only [decisionPaths] at h
    split at h
    · -- a test of the exit code: one flow, after the checks of the test
      obtain ⟨⟨obj, field⟩, s₁, -, h⟩ := runs_bind.1 h
      obtain ⟨_, s₂, -, h⟩ := runs_bind.1 h
      dsimp only at h
      split at h
      · simp at h
      split at h
      · simp at h
      split at h
      · simp at h
      split at h <;>
      · obtain ⟨⟨g₁, m⟩, s₃, h₁, h⟩ := runs_bind.1 h
        exact (hflow (hstmt _) h₁).trans (ih h)
    · -- a test of success: its flow, and the flow of its else branch when there is one
      obtain ⟨_, s₁, -, h⟩ := runs_bind.1 h
      split at h
      · simp at h
      · obtain ⟨⟨g₁, m⟩, s₂, h₁, h⟩ := runs_bind.1 h
        dsimp only at h
        split at h
        · exact (hflow (hblock _) h₁).trans (ih h)
        · obtain ⟨⟨g₂, m'⟩, s₃, h₂, h⟩ := runs_bind.1 h
          exact ((hflow (hblock _) h₁).trans (hflow (hblock _) h₂)).trans (ih h)
    · obtain ⟨_, s₁, -, h⟩ := runs_bind.1 h
      simp at h
    · simp at h

theorem decisionTask_reads {context : Value} {var : String} {stmt : Stmt → Build Gather}
    {block : List Stmt → Build Gather} (hstmt : ∀ st, ReadsFrom true true {} (stmt st))
    (hblock : ∀ body, ReadsFrom true true {} (block body)) (htask : isTask context = true)
    (g : Gather) (body : List Stmt) :
    ReadsFrom true isMeta g (decisionTask r context var stmt block g body) := by
  intro s g' s' h
  obtain ⟨_, s₁, -, h⟩ := runs_bind.1 h
  obtain ⟨⟨g₁, success, failure⟩, s₂, h₁, h⟩ := runs_bind.1 h
  dsimp only at h
  split at h
  · obtain ⟨sref, s₃, -, h⟩ := runs_bind.1 h
    obtain ⟨fref, s₄, -, h⟩ := runs_bind.1 h
    obtain ⟨rfl, -⟩ := runs_pure.1 h
    exact .task (decisionPaths_reads hstmt hblock h₁) (isTask_withFlows htask sref fref)
  · simp at h

theorem loopTask_reads {context : Value} {block : List Stmt → Build Gather}
    (hblock : ∀ body, ReadsFrom true true {} (block body)) (htask : isTask context = true)
    (g : Gather) (body : List Stmt) : ReadsFrom true isMeta g (loopTask r context block g body) := by
  intro s g' s' h
  obtain ⟨_, s₁, -, h⟩ := runs_bind.1 h
  obtain ⟨inner, s₂, hinner, h⟩ := runs_bind.1 h
  obtain ⟨m, s₃, -, h⟩ := runs_bind.1 h
  obtain ⟨mref, s₄, -, h⟩ := runs_bind.1 h
  obtain ⟨rfl, -⟩ := runs_pure.1 h
  exact .task (.metaTask .refl (hblock _ _ _ _ hinner)) (isTask_withBody htask mref)

theorem taskContext_reads {isRunbook : Bool} {context : Value} {asName : Option String}
    {stmt : Stmt → Build Gather} {block : List Stmt → Build Gather}
    (hstmt : ∀ st, ReadsFrom true true {} (stmt st))
    (hblock : ∀ body, ReadsFrom true true {} (block body)) (g : Gather) (body : List Stmt) :
    ReadsFrom isRunbook isMeta g (taskContext r isRunbook context asName stmt block g body) := by
  intro s g' s' h
  obtain ⟨contextType, s₁, htype, h⟩ := runs_bind.1 h
  -- a decision or a loop has a task as its context
  have htask {v : Value} (hv : contextType = some v) : isTask context = true := by
    unfold contextTypeOf at htype
    split at htype
    · assumption
    · obtain ⟨rfl, -⟩ := runs_pure.1 htype
      cases hv
  split at h
  · rename_i hdecision
    obtain ⟨hrunbook, hany⟩ := Bool.and_eq_true_iff.1 hdecision
    obtain ⟨v, hv, -⟩ := (Option.any_eq_true _ _).1 hany
    rw [hrunbook]
    split at h
    · exact decisionTask_reads hstmt hblock (htask hv) g body _ _ _ h
    · simp at h
  · split at h
    · rename_i hloop
      obtain ⟨hrunbook, hany⟩ := Bool.and_eq_true_iff.1 hloop
      obtain ⟨v, hv, -⟩ := (Option.any_eq_true _ _).1 hany
      rw [hrunbook]
      exact loopTask_reads hblock (htask hv) g body _ _ _ h
    · simp at h

theorem declareVariable_reads {isRunbook : Bool} {locals : List (String × Value)}
    {generic : Build Gather} {g : Gather} (hgeneric : ReadsFrom isRunbook isMeta g generic)
    (targets : List Expr) (value : Expr) :
    ReadsFrom isRunbook isMeta g (declareVariable r locals generic g targets value) := by
  intro s g' s' h
  unfold declareVariable at h
  split at h
  · obtain ⟨_, s₁, -, h⟩ := runs_bind.1 h
    obtain ⟨_, s₂, -, h⟩ := runs_bind.1 h
    obtain ⟨_, s₃, -, h⟩ := runs_bind.1 h
    split at h
    · exact hgeneric _ _ _ h
    split at h
    · simp at h
    obtain ⟨_, s₄, -, h⟩ := runs_bind.1 h
    split at h
    · simp at h
    obtain ⟨_, s₅, -, h⟩ := runs_bind.1 h
    split at h
    · split at h
      · obtain ⟨_, s₆, -, h⟩ := runs_bind.1 h
        obtain ⟨rfl, -⟩ := runs_pure.1 h
        exact .declare .refl
      · exact hgeneric _ _ _ h
    · exact hgeneric _ _ _ h
  · exact hgeneric _ _ _ h

theorem forIn_reads {isRunbook : Bool} {f : Gather → List Stmt → Build Gather}
    (hf : ∀ g b, ReadsFrom isRunbook isMeta g (f g b)) (blocks : List (List Stmt)) (g : Gather) :
    ReadsFrom isRunbook isMeta g (forIn blocks g fun b acc => do
      let g ← f acc b
      pure (ForInStep.yield g)) := by
  induction blocks generalizing g with
  | nil =>
    intro s g' s' h
    obtain ⟨rfl, -⟩ := runs_pure.1 h
    exact .refl
  | cons b bs ih =>
    intro s g' s' h
    simp only [List.forIn_cons, bind_assoc, pure_bind] at h
    obtain ⟨g₁, s₁, h₁, h⟩ := runs_bind.1 h
    exact (hf g b _ _ _ h₁).trans (ih g₁ _ _ _ h)

end Constructs

/-- Every read of a block, a statement, an assignment or a `with` block, at any depth, grows the
    gather as `Reads` allows for the kind of body it reads. -/
theorem visitBlock_reads (r : Runtime) (n : Nat) :
    (∀ ctx g body, ReadsFrom ctx.isRunbook ctx.isMeta g (visitBlock r ctx n g body)) ∧
    (∀ ctx g st, ReadsFrom ctx.isRunbook ctx.isMeta g (visitStmt r ctx n g st)) ∧
    (∀ ctx g targets value,
      ReadsFrom ctx.isRunbook ctx.isMeta g (visitAssign r ctx n g targets value)) ∧
    (∀ ctx g cexpr asName body,
      ReadsFrom ctx.isRunbook ctx.isMeta g (visitWith r ctx n g cexpr asName body)) := by
  induction n with
  | zero =>
    refine ⟨fun _ _ _ => ?_, fun _ _ _ => ?_, fun _ _ _ _ => ?_, fun _ _ _ _ _ => ?_⟩ <;>
      intro s g' s' h <;> simp [visitBlock, visitStmt, visitAssign, visitWith] at h
  | succ n ih =>
    obtain ⟨hblock, hstmt, hassign, hwith⟩ := ih
    refine ⟨fun ctx g body => ?_, fun ctx g st => ?_, fun ctx g targets value => ?_,
      fun ctx g cexpr asName body => ?_⟩ <;> intro s g' s' h
    · cases body with
      | nil =>
        simp only [visitBlock] at h
        obtain ⟨rfl, -⟩ := runs_pure.1 h
        exact .refl
      | cons st ss =>
        simp only [visitBlock] at h
        obtain ⟨g₁, s₁, h₁, h⟩ := runs_bind.1 h
        exact (hstmt ctx g st _ _ _ h₁).trans (hblock ctx g₁ ss _ _ _ h)
    · have hexprs := visitExprs_addsTasks r ctx n
      simp only [visitStmt] at h
      split at h
      · exact (hexprs.1 _ _ _ _ _ h).reads
      · obtain ⟨rfl, -⟩ := runs_pure.1 h
        exact .refl
      · obtain ⟨g₁, s₁, h₁, h⟩ := runs_bind.1 h
        obtain ⟨g₂, s₂, h₂, h⟩ := runs_bind.1 h
        exact ((hexprs.1 _ _ _ _ _ h₁).reads.trans (hblock ctx g₁ _ _ _ _ h₂)).trans
          (hblock ctx g₂ _ _ _ _ h)
      · exact hassign ctx g _ _ _ _ _ h
      · exact hwith ctx g _ _ _ _ _ _ h
      · obtain ⟨g₁, s₁, h₁, h⟩ := runs_bind.1 h
        obtain ⟨g₂, s₂, h₂, h⟩ := runs_bind.1 h
        obtain ⟨rfl, -⟩ := runs_pure.1 h
        exact (hexprs.2.1 _ _ _ _ _ h₁).reads.trans (forIn_reads (hblock ctx) _ g₁ _ _ _ h₂)
    · have hexprs := visitExprs_addsTasks r ctx n
      simp only [visitAssign] at h
      refine declareVariable_reads (fun s g' s' h => ?_) targets value _ _ _ h
      obtain ⟨g₁, s₁, h₁, h⟩ := runs_bind.1 h
      exact ((hexprs.2.1 _ _ _ _ _ h₁).trans (hexprs.1 _ _ _ _ _ h)).reads
    · simp only [visitWith] at h
      obtain ⟨context, s₁, -, h⟩ := runs_bind.1 h
      split at h
      · -- a parallel block of an action
        rename_i hparallel
        have hrunbook : ctx.isRunbook = false := by simpa using (Bool.and_eq_true_iff.1 hparallel).1
        rw [hrunbook]
        exact actionParallel_reads (fun g e s g' o s' h => (visitExprs_addsTasks r ctx n).2.2 _ _ _ _ _ _ _ h)
          g body _ _ _ h
      split at h
      · -- a parallel block of a runbook, whose branches are read as runbook bodies
        rename_i hparallel
        have hrunbook : ctx.isRunbook = true := (Bool.and_eq_true_iff.1 hparallel).1
        rw [hrunbook]
        refine runbookParallel_reads (fun body => ?_) g body _ _ _ h
        have hbranch := hblock { ctx with target := .none, isMeta := false } {} body
        simpa [hrunbook] using hbranch
      · -- a decision or a loop, whose flows are read under a decision or loop
        exact taskContext_reads (fun st => hstmt _ {} st) (fun body => hblock _ {} body) g body
          _ _ _ h

/-- Reading the default values of a function's parameters and then its body, from an empty
    gather, is a read of the body's kind. -/
theorem visit_reads {r : Runtime} {ctx : VisitCtx} {n : Nat} {defaults : List Expr}
    {body : List Stmt} {s s' : Session} {g : Gather}
    (h : Runs (visitExprs r ctx n {} defaults >>= fun g => visitBlock r ctx n g body) s g s') :
    Reads ctx.isRunbook ctx.isMeta {} g := by
  obtain ⟨g₀, s₀, h₀, h⟩ := runs_bind.1 h
  exact ((visitExprs_addsTasks r ctx n).2.1 _ _ _ _ _ h₀).reads.trans
    ((visitBlock_reads r n).1 ctx g₀ body _ _ _ h)

end Blueprints.Flow
