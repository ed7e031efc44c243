import Blueprints.Proofs.Flow.Chain

namespace Blueprints.Flow

open Step

/-- In the plain `Except` monad, a computation followed by another returns exactly when both
    return. -/
theorem except_bind_eq_ok {ε α β : Type} {x : Except ε α} {f : α → Except ε β} {b : β} :
    (x >>= f) = .ok b ↔ ∃ a, x = .ok a ∧ f a = .ok b := by
  cases x with
  | error e => simp [bind, Except.bind]
  | ok a => simp [bind, Except.bind]

/-- What laying out a sequence from `fromTask` adds as the edges `E`: each edge goes forward,
    from the task the sequence is entered from or from a task to one it comes before; every task
    is reached from the task the sequence is entered from; and every ordered pair is joined by a
    path. -/
structure Planned (steps : List Step) (fromTask : Option Value) (E : List (Value × Value)) :
    Prop where
  forward : ∀ x y, (x, y) ∈ E → y ∈ tasksOf steps ∧ (fromTask = some x ∨ Before steps x y)
  entered : ∀ w, fromTask = some w → ∀ y ∈ tasksOf steps, Reach E w y
  ordered : ∀ x y, Before steps x y → Reach E x y

/-- A way of laying out a sequence plans it from `fromTask`: where it returns, it added the
    tasks of the sequence and edges as `Planned` says. -/
def Plans (recur : Layout → List Step → Option Value → Except Fault Layout) (steps : List Step)
    (fromTask : Option Value) : Prop :=
  ∀ l l', recur l steps fromTask = .ok l' →
    ∃ E, l' = { children := l.children ++ tasksOf steps, edges := l.edges ++ E } ∧
      Planned steps fromTask E

namespace Planned

variable {fromTask : Option Value}

theorem nil : Planned [] fromTask [] where
  forward := by simp
  entered := by simp
  ordered _ _ h := absurd h Before.not_nil

/-- A task followed by a sequence planned from it. -/
theorem task_cons {t : Value} {rest : List Step} {E : List (Value × Value)}
    (h : Planned rest (some t) E) :
    Planned (.task t :: rest) fromTask ((fromTask.map fun w => (w, t)).toList ++ E) where
  forward x y hxy := by
    rcases List.mem_append.1 hxy with hfrom | hE
    · cases fromTask with
      | none => simp at hfrom
      | some w =>
        simp only [Option.map_some, Option.toList_some, List.mem_singleton, Prod.mk.injEq] at hfrom
        obtain ⟨rfl, rfl⟩ := hfrom
        exact ⟨by simp, .inl rfl⟩
    · obtain ⟨hy, hfwd⟩ := h.forward x y hE
      refine ⟨by simp [hy], .inr (Before.cons_iff.2 ?_)⟩
      rcases hfwd with hx | hbefore
      · cases hx
        exact .inl ⟨by simp, hy⟩
      · exact .inr (.inr hbefore)
  entered w hw y hy := by
    subst hw
    have hedge : Reach ((some w |>.map fun w => (w, t)).toList ++ E) w t := .single (by simp)
    rcases List.mem_cons.1 (by simpa using hy) with rfl | hrest
    · exact hedge
    · exact .trans hedge ((h.entered t rfl y hrest).mono fun e he => by simp [he])
  ordered x y hxy := by
    rcases Before.cons_iff.1 hxy with ⟨hx, hy⟩ | ⟨branch, hbranch, _⟩ | hrest
    · simp only [tasks_task, List.mem_singleton] at hx
      subst hx
      exact (h.entered x rfl y hy).mono fun e he => by simp [he]
    · simp [Step.items] at hbranch
    · exact (h.ordered x y hrest).mono fun e he => by simp [he]

theorem before_group_iff {items : List Step} {u v : Value} :
    Before [.group items] u v ↔ ∃ branch, Step.group branch ∈ items ∧ Before branch u v := by
  simp [Before.cons_iff, Before.not_nil, Step.items]

theorem group_nil : Planned [.group []] fromTask [] where
  forward := by simp
  entered := by simp
  ordered _ _ h := by simp [before_group_iff] at h

/-- A group of branches, each planned from the same task. -/
theorem group_cons {b : List Step} {bs : List (List Step)} {E₁ E₂ : List (Value × Value)}
    (h₁ : Planned b fromTask E₁) (h₂ : Planned [.group (bs.map .group)] fromTask E₂) :
    Planned [.group ((b :: bs).map .group)] fromTask (E₁ ++ E₂) where
  forward x y hxy := by
    rcases List.mem_append.1 hxy with hE | hE
    · obtain ⟨hy, hfwd⟩ := h₁.forward x y hE
      refine ⟨by simp [hy], hfwd.imp_right fun hbefore => before_group_iff.2 ⟨b, by simp, hbefore⟩⟩
    · obtain ⟨hy, hfwd⟩ := h₂.forward x y hE
      refine ⟨by simp at hy ⊢; simp [hy], hfwd.imp_right fun hbefore => ?_⟩
      obtain ⟨branch, hbranch, hb⟩ := before_group_iff.1 hbefore
      exact before_group_iff.2 ⟨branch, List.mem_cons_of_mem _ hbranch, hb⟩
  entered w hw y hy := by
    rcases List.mem_append.1 (by simpa using hy) with hy₁ | hy₂
    · exact (h₁.entered w hw y hy₁).mono fun e he => List.mem_append_left _ he
    · exact (h₂.entered w hw y (by simpa using hy₂)).mono fun e he => List.mem_append_right _ he
  ordered x y hxy := by
    obtain ⟨branch, hbranch, hb⟩ := before_group_iff.1 hxy
    rcases List.mem_cons.1 hbranch with heq | hmem
    · cases heq
      exact (h₁.ordered x y hb).mono fun e he => List.mem_append_left _ he
    · exact (h₂.ordered x y (before_group_iff.2 ⟨branch, hmem, hb⟩)).mono
        fun e he => List.mem_append_right _ he

end Planned

section Layout

variable (recur : Layout → List Step → Option Value → Except Fault Layout)

theorem enterItems_task (l : Layout) (t : Value) (fromTask : Option Value) :
    enterItems (m := Except Fault) pure recur l [.task t] fromTask =
      pure { children := l.children ++ [t],
             edges := l.edges ++ (fromTask.map fun w => (w, t)).toList } := by
  cases fromTask <;> simp [enterItems, Layout.addChild, Layout.link]

/-- Entering the branches of a group, each planned from the task before the group, plans the
    group. -/
theorem enterItems_branches {bs : List (List Step)} {fromTask : Option Value}
    (hrec : ∀ b ∈ bs, Plans recur b fromTask) :
    Plans (fun l _ f => enterItems (m := Except Fault) pure recur l (bs.map .group) f)
      [.group (bs.map .group)] fromTask := by
  induction bs with
  | nil =>
    intro l l' h
    simp only [List.map_nil, enterItems] at h
    cases h
    exact ⟨[], by simp, Planned.group_nil⟩
  | cons b bs ih =>
    intro l l' h
    simp only [List.map_cons, enterItems] at h
    obtain ⟨l₁, h₁, h⟩ := except_bind_eq_ok.1 h
    obtain ⟨E₁, rfl, hE₁⟩ := hrec b (by simp) l l₁ h₁
    obtain ⟨E₂, rfl, hE₂⟩ := ih (fun b' hb' => hrec b' (by simp [hb'])) _ l' h
    exact ⟨E₁ ++ E₂, by simp, hE₁.group_cons hE₂⟩

/-- No step can follow a group of branches: joining a branch to what comes next fails. -/
theorem joinItems_after_branch (branch : List Step) (more : List Step) (l : Layout)
    (target : Step) (targets : List Step) :
    ∃ e, joinItems (m := Except Fault) pure recur (.group branch :: more) l (target :: targets) =
      .error e := by
  cases target <;> exact ⟨_, by simp [joinItems, joinTarget]; rfl⟩

end Layout

/-- Laying out a runbook shape plans it, from any task, with any fuel. -/
theorem plan_runShape {steps : List Step} (h : RunShape steps) :
    ∀ n fromTask, Plans (createEdges (m := Except Fault) pure n) steps fromTask := by
  induction h with
  | nil =>
    intro n fromTask l l' hl
    cases n with
    | zero => simp [createEdges] at hl
    | succ n =>
      simp only [createEdges] at hl
      cases hl
      exact ⟨[], by simp, Planned.nil⟩
  | task t _ ih =>
    intro n fromTask l l' hl
    cases n with
    | zero => simp [createEdges] at hl
    | succ n =>
      rw [createEdges_task_cons, enterItems_task, pure_bind] at hl
      obtain ⟨E, rfl, hE⟩ := ih (n + 1) (some t) _ l' hl
      exact ⟨_, by simp, hE.task_cons⟩
  | @branches bs rest hne _ _ hrest ihb _ =>
    intro n fromTask l l' hl
    cases n with
    | zero => simp [createEdges] at hl
    | succ n =>
      rw [createEdges] at hl
      obtain ⟨l₁, h₁, hl⟩ := except_bind_eq_ok.1 hl
      cases rest with
      | nil =>
        simp only [joinSteps] at hl
        cases hl
        exact enterItems_branches _ (fun b hb => ihb b hb n fromTask) l _ h₁
      | cons next rest =>
        -- the group is followed by a step, which cannot be joined to its branches
        obtain ⟨b, bs', rfl⟩ := List.exists_cons_of_ne_nil hne
        obtain ⟨target, targets, htargets⟩ : ∃ target targets, next.items = target :: targets := by
          cases hrest with
          | task t _ => exact ⟨_, _, rfl⟩
          | branches bs'' hne'' _ _ _ =>
            obtain ⟨b'', bs''', rfl⟩ := List.exists_cons_of_ne_nil hne''
            exact ⟨_, _, rfl⟩
        obtain ⟨e, he⟩ := joinItems_after_branch (createEdges pure n) b
          (bs'.map .group) l₁ target targets
        rw [joinSteps, htargets] at hl
        simp only [Step.items, List.map_cons] at hl
        rw [he] at hl
        cases hl

/-- The order of a runbook shape whose tasks are all different is transitive. -/
theorem RunShape.before_trans {steps : List Step} (h : RunShape steps)
    (hnodup : (tasksOf steps).Nodup) {x y z : Value} (hxy : Before steps x y)
    (hyz : Before steps y z) : Before steps x z := by
  induction h generalizing x y z with
  | nil => exact absurd hxy Before.not_nil
  | @task t rest _ ih =>
    have hrest : (tasksOf rest).Nodup := by
      simp only [tasksOf_cons, tasks_task, List.singleton_append, List.nodup_cons] at hnodup
      exact hnodup.2
    refine Before.trans_cons hnodup (fun x y z => ih hrest) ?_ hxy hyz
    intro b hb
    simp [Step.items] at hb
  | @branches bs rest _ _ _ _ ihb ih =>
    have hsplit := List.nodup_append.1 (by simpa using hnodup)
    refine Before.trans_cons hnodup (fun x y z => ih hsplit.2.1) ?_ hxy hyz
    intro b hb x y z
    obtain ⟨b, hbs, rfl⟩ : ∃ b', b' ∈ bs ∧ b' = b := by simpa [Step.items] using hb
    have hgroup : (tasksOf (bs.map .group)).Nodup := by simpa using hsplit.1
    exact ihb b hbs (by simpa using hgroup.sublist (tasks_sublist_tasksOf (List.mem_map_of_mem hbs)))

/-- Laid out from no task, a runbook shape whose tasks are all different gets a dag that reaches
    one task from another exactly when the runbook orders them. -/
theorem reach_plan_runShape_iff {steps : List Step} (h : RunShape steps)
    (hnodup : (tasksOf steps).Nodup) {n : Nat} {l : Layout}
    (hl : createEdges (m := Except Fault) pure n {} steps none = .ok l) {u v : Value} :
    Reach l.edges u v ↔ Before steps u v := by
  obtain ⟨E, rfl, hE⟩ := plan_runShape h n none {} l hl
  have hforward {x y : Value} (hedge : (x, y) ∈ E) : Before steps x y :=
    (hE.forward x y hedge).2.resolve_left (by simp)
  simp only [List.nil_append]
  constructor
  · intro hreach
    induction hreach with
    | single hedge => exact hforward hedge
    | tail _ hedge ih => exact h.before_trans hnodup ih (hforward hedge)
  · exact hE.ordered u v

end Blueprints.Flow
