import Blueprints.Proofs.Flow.Plan

namespace Blueprints.Flow

open Step

/-- The edges of a chain of levels: from each member of a level to each member of the next,
    grouped by the later member. -/
def chainPairs {α : Type} : List (List α) → List (α × α)
  | a :: b :: rest => (b.flatMap fun y => a.map fun x => (x, y)) ++ chainPairs (b :: rest)
  | _ => []

/-- `u` is a member of an earlier level than `v`, and each level strictly between them has a
    member. -/
def Linked {α : Type} (levels : List (List α)) (u v : α) : Prop :=
  ∃ (i j : Nat) (a b : List α), i < j ∧ levels[i]? = some a ∧ levels[j]? = some b ∧ u ∈ a ∧
    v ∈ b ∧ ∀ (k : Nat) (c : List α), i < k → k < j → levels[k]? = some c → c ≠ []

theorem Step.IsFlat.items_eq {s : Step} (h : s.IsFlat) : s.items = s.tasks.map .task := by
  cases s with
  | task t => simp [Step.items]
  | group items =>
    simp only [Step.items, tasks_group]
    induction items with
    | nil => simp
    | cons i rest ih =>
      obtain ⟨t, rfl⟩ := h i (by simp)
      have hrest := ih (fun j hj => h j (by simp [hj]))
      simp only [tasksOf_cons, tasks_task, List.singleton_append, List.map_cons]
      exact congrArg _ hrest

section Flat

variable (recur : Layout → List Step → Option Value → Except Fault Layout)

theorem enterItems_tasks_none (l : Layout) (ts : List Value) :
    enterItems (m := Except Fault) pure recur l (ts.map .task) none =
      pure { l with children := l.children ++ ts } := by
  induction ts generalizing l with
  | nil => simp [enterItems]
  | cons t ts ih => simp [enterItems, ih, Layout.addChild]

theorem joinTarget_tasks (single : Bool) (y : Value) (l : Layout) (xs : List Value) :
    joinTarget (m := Except Fault) pure recur single (.task y) l (xs.map .task) =
      pure { l with edges := l.edges ++ xs.map fun x => (x, y) } := by
  induction xs generalizing l with
  | nil => simp [joinTarget]
  | cons x xs ih => simp [joinTarget, Layout.link, ih]

theorem joinItems_tasks (xs : List Value) (l : Layout) (ys : List Value) :
    joinItems (m := Except Fault) pure recur (xs.map .task) l (ys.map .task) =
      pure { children := l.children ++ ys,
             edges := l.edges ++ ys.flatMap fun y => xs.map fun x => (x, y) } := by
  induction ys generalizing l with
  | nil => simp [joinItems]
  | cons y ys ih => simp [joinItems, joinTarget_tasks, ih, Layout.addChild]

theorem joinSteps_flat {steps : List Step} (hflat : ∀ s ∈ steps, s.IsFlat) (l : Layout) :
    joinSteps (m := Except Fault) pure recur l steps =
      pure { children := l.children ++ tasksOf steps.tail, edges := l.edges ++ chainPairs (steps.map Step.tasks) } := by
  induction steps generalizing l with
  | nil => simp [joinSteps, chainPairs]
  | cons a rest ih =>
    cases rest with
    | nil => simp [joinSteps, chainPairs]
    | cons b rest' =>
      have ha := (hflat a (by simp)).items_eq
      have hb := (hflat b (by simp)).items_eq
      simp only [joinSteps, ha, hb, joinItems_tasks, pure_bind]
      rw [ih (fun s hs => hflat s (List.mem_cons_of_mem a hs))]
      simp [chainPairs]

end Flat

/-- Laying out a flat sequence from no task makes each of its tasks take part, in order, and
    joins exactly the consecutive steps. -/
theorem plan_flat {steps : List Step} (hflat : ∀ s ∈ steps, s.IsFlat) (n : Nat) (l : Layout) :
    createEdges (m := Except Fault) pure (n + 1) l steps none =
      pure { children := l.children ++ tasksOf steps, edges := l.edges ++ chainPairs (steps.map Step.tasks) } := by
  cases steps with
  | nil => simp [createEdges, chainPairs]
  | cons first rest =>
    have hfirst := (hflat first (by simp)).items_eq
    simp only [createEdges, hfirst, enterItems_tasks_none, pure_bind]
    rw [joinSteps_flat _ hflat]
    simp

section Levels

variable {α : Type}

/-- Renaming the members of the levels renames the ends of the chain's edges. -/
theorem chainPairs_map {β : Type} (f : α → β) (levels : List (List α)) :
    chainPairs (levels.map (·.map f)) = (chainPairs levels).map fun p => (f p.1, f p.2) := by
  induction levels with
  | nil => simp [chainPairs]
  | cons a rest ih =>
    cases rest with
    | nil => simp [chainPairs]
    | cons b rest =>
      simp only [List.map_cons] at ih ⊢
      simp [chainPairs, ih, List.map_flatMap, List.flatMap_map, Function.comp_def]

theorem mem_chainPairs {levels : List (List α)} {x y : α} :
    (x, y) ∈ chainPairs levels ↔
      ∃ k a b, levels[k]? = some a ∧ levels[k + 1]? = some b ∧ x ∈ a ∧ y ∈ b := by
  induction levels with
  | nil => simp [chainPairs]
  | cons a rest ih =>
    cases rest with
    | nil => simp [chainPairs]
    | cons b rest' =>
      simp only [chainPairs, List.mem_append, List.mem_flatMap, List.mem_map, Prod.mk.injEq, ih]
      constructor
      · rintro (⟨y', hy, x', hx, rfl, rfl⟩ | ⟨k, a', b', ha, hb, hx, hy⟩)
        · exact ⟨0, a, b, rfl, rfl, hx, hy⟩
        · exact ⟨k + 1, a', b', ha, hb, hx, hy⟩
      · rintro ⟨k, a', b', ha, hb, hx, hy⟩
        cases k with
        | zero =>
          simp only [List.getElem?_cons_zero, Option.some.injEq, Nat.zero_add,
            List.getElem?_cons_succ] at ha hb
          subst ha hb
          exact .inl ⟨y, hy, x, hx, rfl, rfl⟩
        | succ k => exact .inr ⟨k, a', b', ha, hb, hx, hy⟩

/-- In levels whose members are all different, a member belongs to one level only. -/
theorem index_unique {levels : List (List α)} (hnodup : levels.flatten.Nodup) {i j : Nat}
    {a b : List α} {x : α} (ha : levels[i]? = some a) (hb : levels[j]? = some b)
    (hxa : x ∈ a) (hxb : x ∈ b) : i = j := by
  induction levels generalizing i j with
  | nil => simp at ha
  | cons s rest ih =>
    rw [List.flatten_cons, List.nodup_append] at hnodup
    obtain ⟨_, hrest, hdisj⟩ := hnodup
    have later {k : Nat} {c : List α} (hc : rest[k]? = some c) (hx : x ∈ c) : x ∈ rest.flatten :=
      List.mem_flatten.2 ⟨c, List.mem_of_getElem? hc, hx⟩
    cases i with
    | zero =>
      cases j with
      | zero => rfl
      | succ j =>
        simp only [List.getElem?_cons_zero, Option.some.injEq] at ha
        subst ha
        exact absurd rfl (hdisj x hxa x (later hb hxb))
    | succ i =>
      cases j with
      | zero =>
        simp only [List.getElem?_cons_zero, Option.some.injEq] at hb
        subst hb
        exact absurd rfl (hdisj x hxb x (later ha hxa))
      | succ j => exact congrArg (· + 1) (ih hrest ha hb)

/-- In a chain of levels whose members are all different, one member reaches another exactly
    when it belongs to an earlier level and no level between them is empty. -/
theorem reach_chainPairs_iff {levels : List (List α)} (hnodup : levels.flatten.Nodup) {u v : α} :
    Reach (chainPairs levels) u v ↔ Linked levels u v := by
  constructor
  · intro hreach
    induction hreach with
    | single hedge =>
      obtain ⟨k, a, b, ha, hb, hx, hy⟩ := mem_chainPairs.1 hedge
      exact ⟨k, k + 1, a, b, by omega, ha, hb, hx, hy, fun k' c h₁ h₂ _ => absurd h₂ (by omega)⟩
    | tail _ hedge ih =>
      obtain ⟨i, j, a, b, hij, ha, hb, hu, hx, hgap⟩ := ih
      obtain ⟨k, b', c, hb', hc, hx', hv⟩ := mem_chainPairs.1 hedge
      have hjk : j = k := index_unique hnodup hb hb' hx hx'
      subst hjk
      refine ⟨i, j + 1, a, c, by omega, ha, hc, hu, hv, fun k' c' h₁ h₂ hc' => ?_⟩
      rcases Nat.lt_or_ge k' j with hk' | hk'
      · exact hgap k' c' h₁ hk' hc'
      · have hk : k' = j := by omega
        subst hk
        rw [hb] at hc'
        cases hc'
        exact List.ne_nil_of_mem hx
  · rintro ⟨i, j, a, b, hij, ha, hb, hu, hv, hgap⟩
    -- the path steps through one member of each level in between
    obtain ⟨d, rfl⟩ : ∃ d, j = i + 1 + d := ⟨j - (i + 1), by omega⟩
    induction d generalizing i a u with
    | zero => exact .single (mem_chainPairs.2 ⟨i, a, b, ha, hb, hu, hv⟩)
    | succ d ih =>
      have hlen : i + 1 < levels.length := by
        have := (List.getElem?_eq_some_iff.1 hb).1
        omega
      obtain ⟨c, hc⟩ : ∃ c, levels[i + 1]? = some c := ⟨levels[i + 1], by simp [hlen]⟩
      obtain ⟨w, hw⟩ := List.exists_mem_of_ne_nil _ (hgap (i + 1) c (by omega) (by omega) hc)
      have hedge : (u, w) ∈ chainPairs levels := mem_chainPairs.2 ⟨i, a, c, ha, hc, hu, hw⟩
      have hb' : levels[i + 1 + 1 + d]? = some b := by
        rw [show i + 1 + 1 + d = i + 1 + (d + 1) by omega]
        exact hb
      have hrest : Reach (chainPairs levels) w v :=
        ih (i + 1) c hc hw (by omega) hb'
          (fun k c' h₁ h₂ hc' => hgap k c' (by omega) (by omega) hc')
      exact .head hedge hrest

end Levels

/-- Some step strictly between the steps that write `u` and `v` runs no task. -/
def Parted (steps : List Step) (u v : Value) : Prop :=
  ∃ (i j k : Nat) (a b c : Step), i < k ∧ k < j ∧ steps[i]? = some a ∧ steps[j]? = some b ∧
    steps[k]? = some c ∧ u ∈ a.tasks ∧ v ∈ b.tasks ∧ c.tasks = []

theorem getElem?_map_tasks {steps : List Step} {i : Nat} {ts : List Value} :
    (steps.map Step.tasks)[i]? = some ts ↔ ∃ s, steps[i]? = some s ∧ s.tasks = ts := by
  simp [List.getElem?_map]

theorem Step.IsFlat.not_group_mem {s : Step} (h : s.IsFlat) (branch : List Step) :
    Step.group branch ∉ s.items := by
  intro hmem
  cases s with
  | task t => simp [Step.items] at hmem
  | group items =>
    obtain ⟨t, ht⟩ := h _ hmem
    cases ht

/-- In a flat sequence whose tasks are all different, the chain of its steps links two tasks
    exactly when the sequence orders them and no step between them is empty. -/
theorem linked_iff_before {steps : List Step} (hflat : ∀ s ∈ steps, s.IsFlat)
    (hnodup : (tasksOf steps).Nodup) {u v : Value} :
    Linked (steps.map Step.tasks) u v ↔ Before steps u v ∧ ¬ Parted steps u v := by
  rw [tasksOf_eq_flatten] at hnodup
  constructor
  · rintro ⟨i, j, ta, tb, hij, hta, htb, hu, hv, hgap⟩
    obtain ⟨a, ha, rfl⟩ := getElem?_map_tasks.1 hta
    obtain ⟨b, hb, rfl⟩ := getElem?_map_tasks.1 htb
    refine ⟨.across hij ha hb hu hv, ?_⟩
    rintro ⟨i', j', k, a', b', c, hik, hkj, ha', hb', hc, hu', hv', hempty⟩
    have hi : i' = i := index_unique hnodup (getElem?_map_tasks.2 ⟨a', ha', rfl⟩) hta hu' hu
    have hj : j' = j := index_unique hnodup (getElem?_map_tasks.2 ⟨b', hb', rfl⟩) htb hv' hv
    subst hi hj
    exact hgap k c.tasks hik hkj (getElem?_map_tasks.2 ⟨c, hc, rfl⟩) hempty
  · rintro ⟨hbefore, hparted⟩
    cases hbefore with
    | @across _ i j a b _ _ hij ha hb hu hv =>
      refine ⟨i, j, a.tasks, b.tasks, hij, getElem?_map_tasks.2 ⟨a, ha, rfl⟩,
        getElem?_map_tasks.2 ⟨b, hb, rfl⟩, hu, hv, fun k tc hik hkj htc hempty => ?_⟩
      obtain ⟨c, hc, rfl⟩ := getElem?_map_tasks.1 htc
      exact hparted ⟨i, j, k, a, b, c, hik, hkj, ha, hb, hc, hu, hv, hempty⟩
    | within ha hbranch =>
      exact absurd hbranch ((hflat _ (List.mem_of_getElem? ha)).not_group_mem _)

end Blueprints.Flow
