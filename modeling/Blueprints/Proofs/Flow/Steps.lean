import Blueprints.Flow.Visitor
import Mathlib.Logic.Relation

namespace Blueprints.Flow

mutual
/-- The tasks of a step, in the order in which they are written. -/
def Step.tasks : Step → List Value
  | .task t => [t]
  | .group items => Step.tasksOf items

/-- The tasks of a sequence of steps, in the order in which they are written. -/
def Step.tasksOf : List Step → List Value
  | [] => []
  | s :: rest => s.tasks ++ Step.tasksOf rest
end

namespace Step

@[simp] theorem tasks_task (t : Value) : (Step.task t).tasks = [t] := by
  simp [Step.tasks]

@[simp] theorem tasks_group (items : List Step) : (Step.group items).tasks = tasksOf items := by
  simp [Step.tasks]

@[simp] theorem tasksOf_nil : tasksOf [] = [] := by
  simp [Step.tasksOf]

@[simp] theorem tasksOf_cons (s : Step) (rest : List Step) :
    tasksOf (s :: rest) = s.tasks ++ tasksOf rest := by
  simp [Step.tasksOf]

@[simp] theorem tasksOf_append (xs ys : List Step) :
    tasksOf (xs ++ ys) = tasksOf xs ++ tasksOf ys := by
  induction xs with
  | nil => simp
  | cons s rest ih => simp [ih]

@[simp] theorem tasksOf_map_task (ts : List Value) : tasksOf (ts.map .task) = ts := by
  induction ts with
  | nil => simp
  | cons t ts ih => simp [ih]

theorem tasksOf_eq_flatMap (ss : List Step) : tasksOf ss = ss.flatMap Step.tasks := by
  induction ss with
  | nil => simp
  | cons s rest ih => simp [ih]

theorem tasksOf_eq_flatten (ss : List Step) : tasksOf ss = (ss.map Step.tasks).flatten := by
  induction ss with
  | nil => simp
  | cons s rest ih => simp [ih]

theorem tasks_eq_tasksOf_items (s : Step) : s.tasks = tasksOf s.items := by
  cases s <;> simp [Step.items]

theorem mem_tasksOf {ss : List Step} {t : Value} : t ∈ tasksOf ss ↔ ∃ s ∈ ss, t ∈ s.tasks := by
  simp [tasksOf_eq_flatMap]

theorem tasks_sublist_tasksOf {ss : List Step} {s : Step} (h : s ∈ ss) :
    List.Sublist s.tasks (tasksOf ss) := by
  induction ss with
  | nil => simp at h
  | cons a rest ih =>
    rcases List.mem_cons.1 h with rfl | h
    · simp
    · exact (ih h).trans (by simp)

/-- The tasks of a branch of a step are tasks of the step. -/
theorem mem_tasks_of_branch {s : Step} {branch : List Step} (hbranch : Step.group branch ∈ s.items)
    {t : Value} (ht : t ∈ tasksOf branch) : t ∈ s.tasks := by
  rw [tasks_eq_tasksOf_items]
  exact mem_tasksOf.2 ⟨_, hbranch, by simpa using ht⟩

/-- In a sequence whose tasks are all different, a task is written in one step only. -/
theorem eq_of_mem_tasks {ss : List Step} (hnodup : (tasksOf ss).Nodup) {a b : Step}
    (ha : a ∈ ss) (hb : b ∈ ss) {t : Value} (hta : t ∈ a.tasks) (htb : t ∈ b.tasks) : a = b := by
  induction ss with
  | nil => simp at ha
  | cons s rest ih =>
    rw [tasksOf_cons, List.nodup_append] at hnodup
    obtain ⟨_, hrest, hdisj⟩ := hnodup
    rcases List.mem_cons.1 ha with rfl | ha' <;> rcases List.mem_cons.1 hb with rfl | hb'
    · rfl
    · exact absurd rfl (hdisj t hta t (mem_tasksOf.2 ⟨b, hb', htb⟩))
    · exact absurd rfl (hdisj t htb t (mem_tasksOf.2 ⟨a, ha', hta⟩))
    · exact ih hrest ha' hb'

end Step

/-- The order that a sequence of steps puts on its tasks: `u` is written in an earlier step than
    `v`, or both are written in one branch of a group, `u` first there. Two tasks of one group
    that are not in one branch are not ordered. -/
inductive Before : List Step → Value → Value → Prop
  | across {seq : List Step} {i j : Nat} {a b : Step} {u v : Value} (hij : i < j)
      (ha : seq[i]? = some a) (hb : seq[j]? = some b) (hu : u ∈ a.tasks) (hv : v ∈ b.tasks) :
      Before seq u v
  | within {seq : List Step} {i : Nat} {a : Step} {branch : List Step} {u v : Value}
      (ha : seq[i]? = some a) (hbranch : Step.group branch ∈ a.items) (h : Before branch u v) :
      Before seq u v

namespace Before

open Step

theorem not_nil {u v : Value} : ¬ Before [] u v := by
  intro h
  cases h with
  | across _ ha => simp at ha
  | within ha => simp at ha

/-- Both tasks of an ordered pair are tasks of the sequence. -/
theorem mem {seq : List Step} {u v : Value} (h : Before seq u v) :
    u ∈ tasksOf seq ∧ v ∈ tasksOf seq := by
  induction h with
  | across _ ha hb hu hv =>
    exact ⟨mem_tasksOf.2 ⟨_, List.mem_of_getElem? ha, hu⟩,
      mem_tasksOf.2 ⟨_, List.mem_of_getElem? hb, hv⟩⟩
  | within ha hbranch _ ih =>
    have hsub {t : Value} (ht : t ∈ tasksOf _) : t ∈ tasksOf _ :=
      mem_tasksOf.2 ⟨_, List.mem_of_getElem? ha, mem_tasks_of_branch hbranch ht⟩
    exact ⟨hsub ih.1, hsub ih.2⟩

/-- The order of a sequence, read off its first step: a task of the first step comes before every
    task of the rest, two tasks of a branch of the first step are ordered as the branch orders
    them, and the rest is ordered as it is alone. -/
theorem cons_iff {s : Step} {rest : List Step} {u v : Value} :
    Before (s :: rest) u v ↔ (u ∈ s.tasks ∧ v ∈ tasksOf rest) ∨
      (∃ branch, Step.group branch ∈ s.items ∧ Before branch u v) ∨ Before rest u v := by
  constructor
  · intro h
    cases h with
    | @across _ i j a b _ _ hij ha hb hu hv =>
      cases i with
      | zero =>
        obtain ⟨j, rfl⟩ : ∃ j', j = j' + 1 := ⟨j - 1, by omega⟩
        simp only [List.getElem?_cons_zero, Option.some.injEq, List.getElem?_cons_succ] at ha hb
        subst ha
        exact .inl ⟨hu, mem_tasksOf.2 ⟨b, List.mem_of_getElem? hb, hv⟩⟩
      | succ i =>
        obtain ⟨j, rfl⟩ : ∃ j', j = j' + 1 := ⟨j - 1, by omega⟩
        simp only [List.getElem?_cons_succ] at ha hb
        exact .inr (.inr (.across (by omega) ha hb hu hv))
    | @within _ i a branch _ _ ha hbranch h =>
      cases i with
      | zero =>
        simp only [List.getElem?_cons_zero, Option.some.injEq] at ha
        subst ha
        exact .inr (.inl ⟨branch, hbranch, h⟩)
      | succ i =>
        simp only [List.getElem?_cons_succ] at ha
        exact .inr (.inr (.within ha hbranch h))
  · rintro (⟨hu, hv⟩ | ⟨branch, hbranch, h⟩ | h)
    · obtain ⟨b, hb, hvb⟩ := mem_tasksOf.1 hv
      obtain ⟨j, hj, rfl⟩ := List.getElem_of_mem hb
      exact .across (i := 0) (j := j + 1) (by omega) rfl (by simp [hj]) hu hvb
    · exact .within (i := 0) rfl hbranch h
    · cases h with
      | across hij ha hb hu hv =>
        exact .across (Nat.succ_lt_succ hij) (by simpa using ha) (by simpa using hb) hu hv
      | @within _ i _ _ _ _ ha hbranch h => exact .within (i := i + 1) (by simpa using ha) hbranch h

/-- The order of a sequence is transitive when it is transitive on the rest and on each branch of
    the first step, and the tasks are all different: a task in the middle of two ordered pairs
    sits in one place only. -/
theorem trans_cons {s : Step} {rest : List Step} (hnodup : (tasksOf (s :: rest)).Nodup)
    (hrest : ∀ x y z, Before rest x y → Before rest y z → Before rest x z)
    (hbranch : ∀ b, Step.group b ∈ s.items → ∀ x y z, Before b x y → Before b y z → Before b x z)
    {x y z : Value} (hxy : Before (s :: rest) x y) (hyz : Before (s :: rest) y z) :
    Before (s :: rest) x z := by
  have hs : (tasksOf s.items).Nodup := by
    rw [← tasks_eq_tasksOf_items]
    exact (List.nodup_append.1 (by simpa using hnodup)).1
  have hsplit : y ∈ s.tasks → y ∈ tasksOf rest → False := fun h₁ h₂ =>
    (List.nodup_append.1 (by simpa using hnodup)).2.2 y h₁ y h₂ rfl
  rcases cons_iff.1 hxy with ⟨hx, hy⟩ | ⟨b, hb, hxyb⟩ | hxyr <;>
    rcases cons_iff.1 hyz with ⟨hy', hz⟩ | ⟨b', hb', hyzb⟩ | hyzr
  · exact (hsplit hy' hy).elim
  · exact (hsplit (mem_tasks_of_branch hb' hyzb.mem.1) hy).elim
  · exact cons_iff.2 (.inl ⟨hx, hyzr.mem.2⟩)
  · exact cons_iff.2 (.inl ⟨mem_tasks_of_branch hb hxyb.mem.1, hz⟩)
  · -- the middle task sits in one branch only
    have hbb : Step.group b = Step.group b' :=
      eq_of_mem_tasks hs hb hb' (by simpa using hxyb.mem.2) (by simpa using hyzb.mem.1)
    cases hbb
    exact cons_iff.2 (.inr (.inl ⟨b, hb, hbranch b hb x y z hxyb hyzb⟩))
  · exact (hsplit (mem_tasks_of_branch hb hxyb.mem.2) hyzr.mem.1).elim
  · exact (hsplit hy' hxyr.mem.2).elim
  · exact (hsplit (mem_tasks_of_branch hb' hyzb.mem.1) hxyr.mem.2).elim
  · exact cons_iff.2 (.inr (.inr (hrest x y z hxyr hyzr)))

end Before

/-- `v` is reached from `u` along a non-empty path of edges. -/
def Reach {α : Type} (edges : List (α × α)) : α → α → Prop :=
  Relation.TransGen fun u v => (u, v) ∈ edges

/-- A path along some edges is a path along any edges that include them. -/
theorem Reach.mono {α : Type} {edges edges' : List (α × α)} (hsub : ∀ e ∈ edges, e ∈ edges')
    {u v : α} (h : Reach edges u v) : Reach edges' u v :=
  Relation.TransGen.mono (fun _ _ he => hsub _ he) u v h

/-- A step of an action: a task, or a group whose items are all tasks. -/
def Step.IsFlat : Step → Prop
  | .task _ => True
  | .group items => ∀ i ∈ items, ∃ t, i = .task t

/-- A sequence of steps as a runbook reads it: tasks, and groups of branches, each branch a
    sequence of the same kind that runs at least one step; a group holds at least one branch. -/
inductive RunShape : List Step → Prop
  | nil : RunShape []
  | task (t : Value) {rest : List Step} (h : RunShape rest) : RunShape (.task t :: rest)
  | branches (bs : List (List Step)) {rest : List Step} (hne : bs ≠ [])
      (hsteps : ∀ b ∈ bs, b ≠ []) (hb : ∀ b ∈ bs, RunShape b) (h : RunShape rest) :
      RunShape (.group (bs.map .group) :: rest)

end Blueprints.Flow
