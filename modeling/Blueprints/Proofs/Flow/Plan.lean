import Blueprints.Flow.Descriptor
import Blueprints.Proofs.Build
import Blueprints.Proofs.Entity.Making
import Blueprints.Proofs.Flow.Steps

namespace Blueprints.Flow

open Build Library

/-- The layout of a sequence of steps with each task standing for its own reference, so that
    each edge holds the two tasks it joins. -/
def plan (n : Nat) (l : Layout) (steps : List Step) (fromTask : Option Value) :
    Except Fault Layout :=
  createEdges (m := Except Fault) pure n l steps fromTask

/-- The task that a reference refers to: the class whose `get_ref` made it. -/
def refTarget : Value → Value
  | .entity e => (e.ownAttr? "__self__").getD .none
  | _ => .none

/-- A layout with each edge given by the tasks its references refer to. -/
def Layout.resolve (l : Layout) : Layout :=
  { l with edges := l.edges.map fun (x, y) => (refTarget x, refTarget y) }

/-- A value that is a class, as tasks are. -/
def IsClass (v : Value) : Prop := ∃ e, v = .entity e

@[simp] theorem Layout.resolve_children (l : Layout) : l.resolve.children = l.children := rfl

@[simp] theorem Layout.resolve_addChild (l : Layout) (t : Value) :
    (l.addChild t).resolve = l.resolve.addChild t := rfl

/-- A layout with each edge given by what `view` makes of its two references. -/
def Layout.resolveBy (view : Value → Value) (l : Layout) : Layout :=
  { l with edges := l.edges.map fun (x, y) => (view x, view y) }

theorem Layout.resolve_eq_resolveBy (l : Layout) : l.resolve = l.resolveBy refTarget := rfl

@[simp] theorem Layout.resolveBy_children (view : Value → Value) (l : Layout) :
    (l.resolveBy view).children = l.children := rfl

@[simp] theorem Layout.resolveBy_addChild (view : Value → Value) (l : Layout) (t : Value) :
    (l.addChild t).resolveBy view = (l.resolveBy view).addChild t := rfl

/-- `view` sees through the library's references: it takes what `refOf` makes for a class back
    to that class. -/
def SeesRefs (r : Runtime) (view : Value → Value) : Prop :=
  ∀ {t x : Value} {s s' : Session}, IsClass t → Runs (refOf r t) s x s' → view x = t

/-- A reference made by `get_ref` refers to the class it was made from. -/
theorem refTarget_of_runs_getRef {e : Entity} {kind : Option String} {s s' : Session}
    {x : Value} (h : Runs (getRef e kind) s x s') : refTarget x = .entity e := by
  simp only [getRef] at h
  obtain ⟨cls, _, _, h⟩ := runs_bind.1 h
  obtain ⟨rfl, -⟩ := runs_pure.1 h
  simp [refTarget, Entity.ownAttr?_setAttr_self]

theorem refTarget_of_runs_refOf {r : Runtime} {t x : Value} {s s' : Session}
    (ht : IsClass t) (h : Runs (refOf r t) s x s') : refTarget x = t := by
  obtain ⟨e, rfl⟩ := ht
  exact refTarget_of_runs_getRef h

theorem refTarget_seesRefs (r : Runtime) : SeesRefs r refTarget := refTarget_of_runs_refOf

/-- The task a reference refers to, where the reference is a reference class that carries the
    task's display name, the name by which a dag's edges name their ends; nothing otherwise. -/
def namedTarget : Value → Value
  | .entity c =>
    match c.ownAttr? "__self__", c.lookup? "name" with
    | some (.entity e), some (.str n) =>
      if c.kind == .ref && n == displayName e then .entity e else .none
    | _, _ => .none
  | _ => .none

/-- A reference made by `get_ref` is a reference class named by the display name of the class
    it was made from. -/
theorem namedTarget_of_runs_getRef {e : Entity} {kind : Option String} {s s' : Session}
    {x : Value} (h : Runs (getRef e kind) s x s') : namedTarget x = .entity e := by
  simp only [getRef, Entity.create] at h
  obtain ⟨cls, s₁, hcls, h⟩ := runs_bind.1 h
  obtain ⟨rfl, -⟩ := runs_pure.1 h
  obtain ⟨hkind, hname⟩ := createClass_keeps hcls "name" (by simp) (by decide) (by simp [isDunder])
    (ref_name_keeps · (displayName e))
  have hlookup : (cls.setAttr "__self__" (.entity e)).lookup? "name" =
      some (.str (displayName e)) :=
    Entity.lookup?_of_ownAttr? (by rw [Entity.ownAttr?_setAttr_of_ne _ (by decide), hname])
  simp [namedTarget, Entity.ownAttr?_setAttr_self, hlookup, hkind]

theorem namedTarget_seesRefs (r : Runtime) : SeesRefs r namedTarget := by
  intro t x s s' ht h
  obtain ⟨e, rfl⟩ := ht
  exact namedTarget_of_runs_getRef h

/-- Adding an edge with the library's references adds the edge between the two tasks, as any
    view that sees through the references sees it. -/
theorem link_resolve {r : Runtime} {view : Value → Value} (hview : SeesRefs r view)
    {l l' : Layout} {a b : Value} {s s' : Session}
    (ha : IsClass a) (hb : IsClass b) (h : Runs (Layout.link (refOf r) l a b) s l' s') :
    Layout.link (m := Except Fault) pure (l.resolveBy view) a b = pure (l'.resolveBy view) := by
  simp only [Layout.link] at h
  obtain ⟨x, s₁, hx, h⟩ := runs_bind.1 h
  obtain ⟨y, s₂, hy, h⟩ := runs_bind.1 h
  obtain ⟨rfl, -⟩ := runs_pure.1 h
  simp [Layout.link, Layout.resolveBy, hview ha hx, hview hb hy]

section Shift

variable {m : Type → Type} [Monad m] [LawfulMonad m] [MonadExceptOf Fault m]
  (ref : Value → m Value) (recur : Layout → List Step → Option Value → m Layout)

/-- Joining a single task to the items of the next step is entering those items from it. -/
theorem joinItems_single (t : Value) (l : Layout) (targets : List Step) :
    joinItems ref recur [.task t] l targets = enterItems ref recur l targets (some t) := by
  induction targets generalizing l with
  | nil => simp [joinItems, enterItems]
  | cons target rest ih =>
    cases target with
    | task tt => simp [joinItems, enterItems, joinTarget, ih]
    | group items => simp [joinItems, enterItems, joinTarget, ih]

/-- A sequence that starts with a task is that task, joined from the task before, followed by
    the rest of the sequence laid out from it. -/
theorem createEdges_task_cons (n : Nat) (l : Layout) (t : Value) (rest : List Step)
    (fromTask : Option Value) :
    createEdges ref (n + 1) l (.task t :: rest) fromTask =
      enterItems ref (createEdges ref n) l [.task t] fromTask >>= fun l =>
        createEdges ref (n + 1) l rest (some t) := by
  cases rest with
  | nil => simp [createEdges, joinSteps, Step.items]
  | cons b rest' =>
    simp only [createEdges, joinSteps, Step.items, joinItems_single]

end Shift

/-- Two ways of laying out a sequence agree: where the first, with the library's references,
    succeeds on steps whose tasks are classes, the second makes the same layout with each edge
    between the tasks that the references refer to. -/
def Resolves (view : Value → Value) (recur : Layout → List Step → Option Value → Build Layout)
    (recur' : Layout → List Step → Option Value → Except Fault Layout) : Prop :=
  ∀ l steps fromTask s l' s', (∀ t ∈ Step.tasksOf steps, IsClass t) →
    (∀ w, fromTask = some w → IsClass w) → Runs (recur l steps fromTask) s l' s' →
    recur' (l.resolveBy view) steps fromTask = pure (l'.resolveBy view)

section Simulation

variable {r : Runtime} {view : Value → Value} (hview : SeesRefs r view)
  {recur : Layout → List Step → Option Value → Build Layout}
  {recur' : Layout → List Step → Option Value → Except Fault Layout}

include hview

theorem enterItems_resolve (hrec : Resolves view recur recur') {items : List Step}
    {fromTask : Option Value} (hitems : ∀ t ∈ Step.tasksOf items, IsClass t)
    (hfrom : ∀ w, fromTask = some w → IsClass w) {l l' : Layout} {s s' : Session}
    (h : Runs (enterItems (refOf r) recur l items fromTask) s l' s') :
    enterItems (m := Except Fault) pure recur' (l.resolveBy view) items fromTask = pure (l'.resolveBy view) := by
  induction items generalizing l s with
  | nil =>
    obtain ⟨rfl, -⟩ := runs_pure.1 h
    rfl
  | cons item rest ih =>
    have hrest : ∀ t ∈ Step.tasksOf rest, IsClass t := fun t ht =>
      hitems t (by simp [ht])
    cases item with
    | group sub =>
      simp only [enterItems] at h ⊢
      obtain ⟨l₁, s₁, h₁, h⟩ := runs_bind.1 h
      have hsub : ∀ t ∈ Step.tasksOf sub, IsClass t := fun t ht => hitems t (by simp [ht])
      rw [hrec l sub fromTask s l₁ s₁ hsub hfrom h₁, pure_bind]
      exact ih hrest h
    | task t =>
      have htask : IsClass t := hitems t (by simp)
      cases fromTask with
      | none =>
        simp only [enterItems, pure_bind] at h ⊢
        simpa using ih hrest h
      | some w =>
        simp only [enterItems] at h ⊢
        obtain ⟨l₁, s₁, h₁, h⟩ := runs_bind.1 h
        rw [← Layout.resolveBy_addChild, link_resolve hview (hfrom w rfl) htask h₁, pure_bind]
        exact ih hrest h

theorem joinTarget_resolve (hrec : Resolves view recur recur') {single : Bool} {target : Step}
    {froms : List Step} (htarget : ∀ t ∈ target.tasks, IsClass t)
    (hfroms : ∀ t ∈ Step.tasksOf froms, IsClass t) {l l' : Layout} {s s' : Session}
    (h : Runs (joinTarget (refOf r) recur single target l froms) s l' s') :
    joinTarget (m := Except Fault) pure recur' single target (l.resolveBy view) froms = pure (l'.resolveBy view) := by
  induction froms generalizing l s with
  | nil =>
    obtain ⟨rfl, -⟩ := runs_pure.1 h
    rfl
  | cons f rest ih =>
    have hrest : ∀ t ∈ Step.tasksOf rest, IsClass t := fun t ht => hfroms t (by simp [ht])
    cases f with
    | group _ => simp [joinTarget] at h
    | task ft =>
      have hft : IsClass ft := hfroms ft (by simp)
      cases target with
      | group items =>
        cases single with
        | true =>
          simp only [joinTarget, if_true] at h ⊢
          obtain ⟨l₁, s₁, h₁, h⟩ := runs_bind.1 h
          rw [hrec l items (some ft) s l₁ s₁ (by simpa using htarget)
            (fun w hw => by cases hw; exact hft) h₁, pure_bind]
          exact ih hrest h
        | false =>
          simp only [joinTarget, Bool.false_eq_true, if_false] at h
          obtain ⟨_, _, _, h⟩ := runs_bind.1 h
          obtain ⟨_, _, h, _⟩ := runs_bind.1 h
          simp at h
      | task tt =>
        simp only [joinTarget] at h ⊢
        obtain ⟨l₁, s₁, h₁, h⟩ := runs_bind.1 h
        rw [link_resolve hview hft (htarget tt (by simp)) h₁, pure_bind]
        exact ih hrest h

theorem joinItems_resolve (hrec : Resolves view recur recur') {froms targets : List Step}
    (hfroms : ∀ t ∈ Step.tasksOf froms, IsClass t)
    (htargets : ∀ t ∈ Step.tasksOf targets, IsClass t) {l l' : Layout} {s s' : Session}
    (h : Runs (joinItems (refOf r) recur froms l targets) s l' s') :
    joinItems (m := Except Fault) pure recur' froms (l.resolveBy view) targets = pure (l'.resolveBy view) := by
  induction targets generalizing l s with
  | nil =>
    obtain ⟨rfl, -⟩ := runs_pure.1 h
    rfl
  | cons target rest ih =>
    have hrest : ∀ t ∈ Step.tasksOf rest, IsClass t := fun t ht => htargets t (by simp [ht])
    have htarget : ∀ t ∈ target.tasks, IsClass t := fun t ht => htargets t (by simp [ht])
    cases target with
    | task t =>
      simp only [joinItems] at h ⊢
      obtain ⟨l₁, s₁, h₁, h⟩ := runs_bind.1 h
      rw [← Layout.resolveBy_addChild, joinTarget_resolve hview hrec htarget hfroms h₁, pure_bind]
      exact ih hrest h
    | group items =>
      simp only [joinItems] at h ⊢
      obtain ⟨l₁, s₁, h₁, h⟩ := runs_bind.1 h
      rw [joinTarget_resolve hview hrec htarget hfroms h₁, pure_bind]
      exact ih hrest h

theorem joinSteps_resolve (hrec : Resolves view recur recur') {steps : List Step}
    (hsteps : ∀ t ∈ Step.tasksOf steps, IsClass t) {l l' : Layout} {s s' : Session}
    (h : Runs (joinSteps (refOf r) recur l steps) s l' s') :
    joinSteps (m := Except Fault) pure recur' (l.resolveBy view) steps = pure (l'.resolveBy view) := by
  induction steps generalizing l s with
  | nil =>
    obtain ⟨rfl, -⟩ := runs_pure.1 (by simpa [joinSteps] using h)
    simp [joinSteps]
  | cons a rest ih =>
    cases rest with
    | nil =>
      obtain ⟨rfl, -⟩ := runs_pure.1 (by simpa [joinSteps] using h)
      simp [joinSteps]
    | cons b rest' =>
      simp only [joinSteps] at h ⊢
      obtain ⟨l₁, s₁, h₁, h⟩ := runs_bind.1 h
      have ha : ∀ t ∈ Step.tasksOf a.items, IsClass t := fun t ht =>
        hsteps t (by simp [← Step.tasks_eq_tasksOf_items] at ht ⊢; simp [ht])
      have hb : ∀ t ∈ Step.tasksOf b.items, IsClass t := fun t ht =>
        hsteps t (by simp [← Step.tasks_eq_tasksOf_items] at ht ⊢; simp [ht])
      rw [joinItems_resolve hview hrec ha hb h₁, pure_bind]
      exact ih (fun t ht => hsteps t (by simp at ht ⊢; exact Or.inr ht)) h

end Simulation

/-- Where the library lays steps out, the plan lays them out with the same tasks taking part,
    and with each edge read back through any view that sees through the library's references. -/
theorem createEdges_resolveBy (r : Runtime) {view : Value → Value} (hview : SeesRefs r view)
    (n : Nat) : Resolves view (createEdges (refOf r) n) (createEdges (m := Except Fault) pure n) := by
  induction n with
  | zero =>
    intro l steps fromTask s l' s' _ _ h
    simp [createEdges] at h
  | succ n ih =>
    intro l steps fromTask s l' s' hsteps hfrom h
    cases steps with
    | nil =>
      obtain ⟨rfl, -⟩ := runs_pure.1 (by simpa [createEdges] using h)
      simp [createEdges]
    | cons first rest =>
      simp only [createEdges] at h
      obtain ⟨l₁, s₁, h₁, h⟩ := runs_bind.1 h
      have hfirst : ∀ t ∈ Step.tasksOf first.items, IsClass t := fun t ht =>
        hsteps t (by simp [← Step.tasks_eq_tasksOf_items] at ht ⊢; simp [ht])
      simp only [createEdges]
      rw [enterItems_resolve hview ih hfirst hfrom h₁, pure_bind]
      exact joinSteps_resolve hview ih hsteps h

/-- With the references' own targets as the view: each edge is between the tasks that the
    library's references refer to. -/
theorem createEdges_resolve (r : Runtime) (n : Nat) :
    Resolves refTarget (createEdges (refOf r) n) (createEdges (m := Except Fault) pure n) :=
  createEdges_resolveBy r (refTarget_seesRefs r) n

end Blueprints.Flow
