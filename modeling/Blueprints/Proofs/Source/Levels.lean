import Blueprints.Proofs.Flow.Chain
import Blueprints.Source.Actions
import Mathlib.Data.List.Nodup

namespace Blueprints.Source

open Library Blueprints.Flow

section Tables

variable {α : Type}

/-- The association list that gives each key of `keys`, in order, its value under `f`. -/
def table (keys : List String) (f : String → α) : List (String × α) :=
  keys.map fun k => (k, f k)

@[simp] theorem table_nil (f : String → α) : table [] f = [] := rfl

/-- A list keyed by `key` is looked up by the first member with the key. -/
theorem lookup_map_key {β : Type} (key : β → String) (f : β → α) (xs : List β) (k : String) :
    lookup (xs.map fun x => (key x, f x)) k = (xs.find? (key · == k)).map f := by
  simp [lookup, List.find?_map, Function.comp_def]

/-- In a list whose keys are all different, each member is found by its key. -/
theorem lookup_map_key_self {β : Type} (key : β → String) {xs : List β}
    (hnodup : (xs.map key).Nodup) {x : β} (hx : x ∈ xs) :
    lookup (xs.map fun x => (key x, x)) (key x) = some x := by
  rw [lookup_map_key]
  induction xs with
  | nil => simp at hx
  | cons y xs ih =>
    simp only [List.map_cons, List.nodup_cons, List.mem_map] at hnodup
    by_cases hy : y = x
    · simp [hy]
    · have hx' : x ∈ xs := by simpa [Ne.symm hy] using hx
      have hkey : key y ≠ key x := fun h => hnodup.1 ⟨x, hx', h.symm⟩
      simp [hkey, ih hnodup.2 hx']

@[simp] theorem lookup_table (keys : List String) (f : String → α) (k : String) :
    lookup (table keys f) k = if k ∈ keys then some (f k) else none := by
  rw [table, lookup_map_key]
  induction keys with
  | nil => rfl
  | cons k' keys ih =>
    by_cases h : k' = k
    · simp [h]
    · simp [h, ih, Ne.symm h]

/-- Setting a key of a table sets the value of its function there. -/
theorem assoc_table {keys : List String} (f : String → α) {k : String} (hk : k ∈ keys) (v : α) :
    assoc (table keys f) k v = table keys fun k' => if k' = k then v else f k' := by
  have hany : (table keys f).any (·.1 == k) = true := by simpa [table] using hk
  rw [assoc, if_pos hany]
  simp only [table, List.map_map]
  congr 1
  funext k'
  by_cases h : k' = k <;> simp [h]

/-- Setting fresh keys one after another appends them in order. -/
theorem foldl_assoc_fresh {β : Type} (key : β → String) (val : β → α) {xs : List β}
    (hnodup : (xs.map key).Nodup) (acc : List (String × α))
    (hfresh : ∀ x ∈ xs, ∀ p ∈ acc, p.1 ≠ key x) :
    xs.foldl (fun acc x => assoc acc (key x) (val x)) acc =
      acc ++ xs.map fun x => (key x, val x) := by
  induction xs generalizing acc with
  | nil => simp
  | cons x xs ih =>
    simp only [List.map_cons, List.nodup_cons, List.mem_map] at hnodup
    have hnew : (acc.any (·.1 == key x)) = false := by
      simpa using hfresh x (by simp)
    rw [List.foldl_cons, assoc, hnew, if_neg (by simp), ih hnodup.2]
    · simp
    · intro y hy p hp
      rcases List.mem_append.1 hp with hp | hp
      · exact hfresh y (by simp [hy]) p hp
      · simp only [List.mem_singleton] at hp
        subst hp
        exact fun h => hnodup.1 ⟨y, hy, h.symm⟩

end Tables

/-- The value of an edge of a dag as reading a blueprint back makes it: a dictionary of
    references to its two tasks. -/
def edgeValue (x y : Entity) : Value :=
  textDict [("from_task_reference", .entity x), ("to_task_reference", .entity y)]

/-- The names of the two ends of each edge. -/
def edgeNames (links : List (Entity × Entity)) : List (String × String) :=
  links.map fun p => (taskKey p.1, taskKey p.2)

def inCount (edges : List (String × String)) (k : String) : Nat :=
  edges.countP (·.2 == k)

/-- The ends of the edges out of `k`, in order. -/
def successors (edges : List (String × String)) (k : String) : List String :=
  (edges.filter (·.1 == k)).map (·.2)

@[simp] theorem inCount_nil (k : String) : inCount [] k = 0 := rfl

@[simp] theorem inCount_cons (e : String × String) (edges : List (String × String)) (k : String) :
    inCount (e :: edges) k = inCount edges k + if e.2 = k then 1 else 0 := by
  simp [inCount, List.countP_cons]

@[simp] theorem inCount_append (xs ys : List (String × String)) (k : String) :
    inCount (xs ++ ys) k = inCount xs k + inCount ys k := by
  simp [inCount, List.countP_append]

@[simp] theorem successors_nil (k : String) : successors [] k = [] := rfl

@[simp] theorem successors_cons (e : String × String) (edges : List (String × String))
    (k : String) :
    successors (e :: edges) k = (if e.1 = k then [e.2] else []) ++ successors edges k := by
  by_cases h : e.1 = k <;> simp [successors, h]

@[simp] theorem successors_append (xs ys : List (String × String)) (k : String) :
    successors (xs ++ ys) k = successors xs k ++ successors ys k := by
  simp [successors, List.filter_append]

@[simp] theorem refName_entity (x : Entity) : refName (.entity x) = pure (taskKey x) := rfl

theorem item_edgeValue_from (x y : Entity) :
    item (edgeValue x y) "from_task_reference" = pure (.entity x) := by
  simp [item, edgeValue, textDict, entries, dictGet?, Value.isText]

theorem item_edgeValue_to (x y : Entity) :
    item (edgeValue x y) "to_task_reference" = pure (.entity y) := by
  simp [item, edgeValue, textDict, entries, dictGet?, Value.isText]

/-- Counting edges between known tasks adds, to each task's count, the edges into it, and to its
    successors the ends of the edges out of it. -/
theorem countEdges_table (keys : List String) (c : String → Nat) (nx : String → List String)
    (links : List (Entity × Entity))
    (hmem : ∀ p ∈ links, taskKey p.1 ∈ keys ∧ taskKey p.2 ∈ keys) :
    countEdges (table keys c) (table keys nx) (links.map fun p => edgeValue p.1 p.2) =
      pure (table keys fun k => c k + inCount (edgeNames links) k,
        table keys fun k => nx k ++ successors (edgeNames links) k) := by
  induction links generalizing c nx with
  | nil => simp [countEdges, edgeNames]
  | cons p links ih =>
    obtain ⟨hx, hy⟩ := hmem p (by simp)
    simp only [List.map_cons, countEdges, item_edgeValue_from, item_edgeValue_to, pure_bind,
      refName_entity, lookup_table, hx, hy, if_true]
    rw [assoc_table _ hy, assoc_table _ hx, ih _ _ (fun q hq => hmem q (by simp [hq]))]
    -- the edge adds one to the count of its end and its end to the successors of its start
    have hcount : (fun k => (if k = taskKey p.2 then c (taskKey p.2) + 1 else c k) +
        inCount (edgeNames links) k) = fun k => c k + inCount (edgeNames (p :: links)) k := by
      funext k
      by_cases hk : k = taskKey p.2
      · simp [edgeNames, hk]
        omega
      · simp [edgeNames, hk, Ne.symm hk]
    have hnext : (fun k => (if k = taskKey p.1 then nx (taskKey p.1) ++ [taskKey p.2] else nx k) ++
        successors (edgeNames links) k) = fun k => nx k ++ successors (edgeNames (p :: links)) k := by
      funext k
      by_cases hk : k = taskKey p.1 <;> simp [edgeNames, hk, eq_comm]
    rw [hcount, hnext]

/-- With the dag listed first and its edges `links` counted into the tables `indegree` and
    `next`, the levels are those Kahn's algorithm reads from the tables, with fuel for every
    task and edge. -/
theorem taskLevels_dag_cons {dag : Entity} {rest : List Entity} {links : List (Entity × Entity)}
    {attrs : List (Value × Value)} {indegree : List (String × Nat)}
    {next : List (String × List String)}
    (hdag : (attrOf dag "type").isText "DAG" = true) (hattrs : attrOf dag "attrs" = .dict attrs)
    (hedges : dictGet? attrs "edges" = some (.list (links.map fun p => edgeValue p.1 p.2)))
    (hcount : countEdges (rest.foldl (fun acc t => assoc acc (taskKey t) 0) [])
      (rest.foldl (fun acc t => assoc acc (taskKey t) []) [])
      (links.map fun p => edgeValue p.1 p.2) = pure (indegree, next)) :
    taskLevels (dag :: rest) =
      pure (kahnLevels (rest.foldl (fun acc t => assoc acc (taskKey t) t) []) next
        (rest.length + links.length + 1) indegree ((indegree.filter (·.2 == 0)).map (·.1))) := by
  have hfind : (dag :: rest).find? (fun t => (attrOf t "type").isText "DAG") = some dag :=
    List.find?_cons_of_pos hdag
  have hidx : (dag :: rest).findIdx (fun t => (attrOf t "type").isText "DAG") = 0 := by
    simp [List.findIdx_cons, hdag]
  have hitem : item (attrOf dag "attrs") "edges" =
      pure (.list (links.map fun p => edgeValue p.1 p.2)) := by
    simp [hattrs, item, entries, hedges]
  simp only [taskLevels, hfind, hidx, List.eraseIdx_zero, List.tail_cons, hitem, pure_bind,
    iterate, liftM_pure, hcount, List.length_map]

section Chain

variable {a : List String} {rest : List (List String)} {k : String}

theorem successors_eq_nil {edges : List (String × String)} (h : ∀ e ∈ edges, e.1 ≠ k) :
    successors edges k = [] := by
  simpa [successors, List.filter_eq_nil_iff] using h

theorem inCount_eq_zero {edges : List (String × String)} (h : ∀ e ∈ edges, e.2 ≠ k) :
    inCount edges k = 0 := by
  simpa [inCount, List.countP_eq_zero] using h

theorem fst_mem_of_mem_chainPairs {levels : List (List String)} {x y : String}
    (h : (x, y) ∈ chainPairs levels) : x ∈ levels.flatten := by
  obtain ⟨_, a, _, ha, _, hx, _⟩ := mem_chainPairs.1 h
  exact List.mem_flatten.2 ⟨a, List.mem_of_getElem? ha, hx⟩

theorem snd_mem_of_mem_chainPairs {levels : List (List String)} {x y : String}
    (h : (x, y) ∈ chainPairs levels) : y ∈ levels.tail.flatten := by
  obtain ⟨_, _, b, _, hb, _, hy⟩ := mem_chainPairs.1 h
  exact List.mem_flatten.2 ⟨b, List.mem_of_getElem? (by rwa [List.getElem?_tail]), hy⟩

/-- From each member of a level of different members, the edges to the next level lead to each
    of its members once, in order. -/
theorem successors_block (ha : a.Nodup) (b : List String) (k : String) :
    successors (b.flatMap fun y => a.map fun x => (x, y)) k = if k ∈ a then b else [] := by
  induction b with
  | nil => simp
  | cons y b ih =>
    have hone : successors (a.map fun x => (x, y)) k = if k ∈ a then [y] else [] := by
      by_cases hk : k ∈ a
      · simp [successors, List.filter_map, Function.comp_def, List.filter_beq,
          List.count_eq_one_of_mem ha hk, hk]
      · simp [successors, List.filter_map, Function.comp_def, List.filter_beq,
          List.count_eq_zero_of_not_mem hk, hk]
    rw [List.flatMap_cons, successors_append, ih, hone]
    split <;> simp

/-- Into each member of a level of different members, the edges from the level before come
    once from each of its members. -/
theorem inCount_block {b : List String} (hb : b.Nodup) (a : List String) (k : String) :
    inCount (b.flatMap fun y => a.map fun x => (x, y)) k = if k ∈ b then a.length else 0 := by
  induction b with
  | nil => simp
  | cons y b ih =>
    simp only [List.nodup_cons] at hb
    have hone : inCount (a.map fun x => (x, y)) k = if y = k then a.length else 0 := by
      by_cases hy : y = k <;> simp [inCount, List.countP_map, Function.comp_def, hy]
    rw [List.flatMap_cons, inCount_append, ih hb.2, hone]
    by_cases hy : y = k
    · subst hy
      simp [hb.1]
    · by_cases hk : k ∈ b <;> simp [hy, hk, Ne.symm hy]

theorem successors_chainPairs_head (hnodup : (a :: rest).flatten.Nodup) (hk : k ∈ a) :
    successors (chainPairs (a :: rest)) k = rest.headD [] := by
  rw [List.flatten_cons, List.nodup_append] at hnodup
  cases rest with
  | nil => simp [chainPairs]
  | cons b rest =>
    have hout : ∀ e ∈ chainPairs (b :: rest), e.1 ≠ k := fun e he h =>
      hnodup.2.2 k hk k (h ▸ fst_mem_of_mem_chainPairs (x := e.1) (y := e.2) he) rfl
    rw [chainPairs, successors_append, successors_block hnodup.1, if_pos hk,
      successors_eq_nil hout]
    simp

theorem successors_chainPairs_cons (hnodup : (a :: rest).flatten.Nodup) (hk : k ∉ a) :
    successors (chainPairs (a :: rest)) k = successors (chainPairs rest) k := by
  rw [List.flatten_cons, List.nodup_append] at hnodup
  cases rest with
  | nil => simp [chainPairs]
  | cons b rest => simp [chainPairs, successors_block hnodup.1, hk]

theorem inCount_chainPairs_next (hnodup : (a :: rest).flatten.Nodup) (hk : k ∈ rest.headD []) :
    inCount (chainPairs (a :: rest)) k = a.length := by
  cases rest with
  | nil => simp at hk
  | cons b rest =>
    rw [List.flatten_cons, List.nodup_append, List.flatten_cons, List.nodup_append] at hnodup
    have hout : ∀ e ∈ chainPairs (b :: rest), e.2 ≠ k := fun e he h =>
      hnodup.2.1.2.2 k hk k (h ▸ snd_mem_of_mem_chainPairs (x := e.1) (y := e.2) he) rfl
    have hb : k ∈ b := hk
    rw [chainPairs, inCount_append, inCount_block hnodup.2.1.1, if_pos hb, inCount_eq_zero hout]
    simp

theorem inCount_chainPairs_cons (hnodup : (a :: rest).flatten.Nodup) (hk : k ∉ rest.headD []) :
    inCount (chainPairs (a :: rest)) k = inCount (chainPairs rest) k := by
  cases rest with
  | nil => simp [chainPairs]
  | cons b rest =>
    rw [List.flatten_cons, List.nodup_append, List.flatten_cons, List.nodup_append] at hnodup
    have hb : k ∉ b := hk
    simp [chainPairs, inCount_block hnodup.2.1.1, hb]

/-- Only the members of the first level have no edge into them. -/
theorem inCount_chainPairs_pos {levels : List (List String)} (hne : ∀ a ∈ levels, a ≠ [])
    (hnodup : levels.flatten.Nodup) (hk : k ∈ levels.tail.flatten) :
    0 < inCount (chainPairs levels) k := by
  induction levels with
  | nil => simp at hk
  | cons a rest ih =>
    by_cases hnext : k ∈ rest.headD []
    · rw [inCount_chainPairs_next hnodup hnext]
      exact List.length_pos_iff.2 (hne a (by simp))
    · rw [inCount_chainPairs_cons hnodup hnext]
      cases rest with
      | nil => simp at hk
      | cons b rest =>
        have hb : k ∉ b := hnext
        rw [List.flatten_cons, List.nodup_append] at hnodup
        exact ih (fun c hc => hne c (by simp [hc])) hnodup.2.1 (by simpa [hb] using hk)

theorem inCount_chainPairs_head (hnodup : (a :: rest).flatten.Nodup) (hk : k ∈ a) :
    inCount (chainPairs (a :: rest)) k = 0 := by
  rw [List.flatten_cons, List.nodup_append] at hnodup
  exact inCount_eq_zero fun e he h =>
    hnodup.2.2 k hk k (h ▸ snd_mem_of_mem_chainPairs (x := e.1) (y := e.2) he) rfl

end Chain

section Kahn

variable {keys : List String}

/-- Taking away one edge into each of the different tasks `B`, whose counts are all `m + 1`,
    leaves them `m`; they are ready when that is zero. -/
theorem dropEdges_table (c : String → Nat) {B : List String} (hB : ∀ k ∈ B, k ∈ keys)
    (hnodup : B.Nodup) (m : Nat) (hc : ∀ k ∈ B, c k = m + 1) (ready : List String) :
    dropEdges (table keys c) ready B =
      (table keys fun k => if k ∈ B then m else c k, if m = 0 then ready ++ B else ready) := by
  induction B generalizing c ready with
  | nil => simp [dropEdges]
  | cons t B ih =>
    rw [List.nodup_cons] at hnodup
    have ht : t ∈ keys := hB t (by simp)
    have hcB : ∀ k ∈ B, (if k = t then m else c k) = m + 1 := fun k hk => by
      simp [hc k (by simp [hk]), show k ≠ t from fun h => hnodup.1 (h ▸ hk)]
    simp only [dropEdges, lookup_table, if_pos ht, Option.getD_some, hc t (by simp),
      Nat.add_sub_cancel, assoc_table _ ht]
    rw [ih _ (fun k hk => hB k (by simp [hk])) hnodup.2 hcB]
    have htable : (fun k => if k ∈ B then m else if k = t then m else c k) =
        fun k => if k ∈ t :: B then m else c k := by
      funext k
      by_cases hk : k = t <;> simp [hk]
    rw [htable]
    by_cases hm : m = 0 <;> simp [hm]

/-- Releasing a level whose tasks each lead to exactly the different tasks `B`, whose counts
    are the level's size plus `j`, leaves those counts at `j`; once the whole level is released
    and `j` is zero, `B` is ready, in its order. -/
theorem releaseLevel_table (next : List (String × List String)) (c : String → Nat)
    {A B : List String} (hnext : ∀ k ∈ A, lookup next k = some B) (hB : ∀ k ∈ B, k ∈ keys)
    (hnodup : B.Nodup) (j : Nat) (hc : ∀ k ∈ B, c k = A.length + j) (ready : List String) :
    releaseLevel next (table keys c) ready A =
      (table keys fun k => if k ∈ B then j else c k,
        if A ≠ [] ∧ j = 0 then ready ++ B else ready) := by
  induction A generalizing c ready with
  | nil =>
    have htable : (fun k => if k ∈ B then j else c k) = c := by
      funext k
      by_cases hk : k ∈ B <;> simp [hk, hc]
    simp [releaseLevel, htable]
  | cons cur A ih =>
    rw [releaseLevel, hnext cur (by simp), Option.getD_some,
      dropEdges_table c hB hnodup (A.length + j) (fun k hk => by simp [hc k hk]; omega)]
    dsimp only
    rw [ih _ (fun k hk => hnext k (by simp [hk])) (fun k hk => by simp [hk])]
    have htable : (fun k => if k ∈ B then j else if k ∈ B then A.length + j else c k) =
        fun k => if k ∈ B then j else c k := by
      funext k
      by_cases hk : k ∈ B <;> simp [hk]
    rw [htable]
    cases A with
    | nil => by_cases hj : j = 0 <;> simp [hj]
    | cons _ _ => simp

theorem mem_flatten_of_mem_headD {levels : List (List String)} {k : String}
    (hk : k ∈ levels.headD []) : k ∈ levels.flatten := by
  cases levels <;> simp_all

theorem mem_flatten_of_mem_tail {levels : List (List String)} {k : String}
    (hk : k ∈ levels.tail.flatten) : k ∈ levels.flatten := by
  cases levels <;> simp_all

theorem nodup_headD {levels : List (List String)} (hnodup : levels.flatten.Nodup) :
    (levels.headD []).Nodup := by
  cases levels with
  | nil => simp
  | cons a rest => exact (List.nodup_append.1 hnodup).1

theorem not_mem_headD_of_mem_tail {levels : List (List String)} (hnodup : levels.flatten.Nodup)
    {k : String} (hk : k ∈ levels.tail.flatten) : k ∉ levels.headD [] := by
  cases levels with
  | nil => simp at hk
  | cons a rest => exact fun ha => (List.nodup_append.1 hnodup).2.2 k ha k hk rfl

/-- Kahn's levels of a chain of levels of different tasks, from the state in which the first
    level is queued, each task leads to the tasks of the next level and each task past the next
    level waits for every edge from the level before it. -/
theorem kahnLevels_chain (byName : List (String × Entity)) (nx : String → List String)
    (levels : List (List String)) (c : String → Nat) (fuel : Nat) (hfuel : levels.length ≤ fuel)
    (hne : ∀ a ∈ levels, a ≠ []) (hnodup : levels.flatten.Nodup)
    (hkeys : ∀ k ∈ levels.flatten, k ∈ keys)
    (hbyName : ∀ k ∈ levels.flatten, (lookup byName k).isSome)
    (hnext : ∀ k ∈ levels.flatten, nx k = successors (chainPairs levels) k)
    (hcount : ∀ k ∈ levels.tail.flatten, c k = inCount (chainPairs levels) k) :
    kahnLevels byName (table keys nx) fuel (table keys c) (levels.headD []) =
      levels.map (·.filterMap (lookup byName)) := by
  induction levels generalizing c fuel with
  | nil => cases fuel <;> simp [kahnLevels]
  | cons a rest ih =>
    obtain ⟨fuel, rfl⟩ : ∃ f, fuel = f + 1 := ⟨fuel - 1, by simp at hfuel; omega⟩
    have hsplit := List.nodup_append.1 (List.flatten_cons ▸ hnodup)
    obtain ⟨x, hx⟩ := List.exists_mem_of_ne_nil a (hne a (by simp))
    have hlevel : (a.filterMap (lookup byName)).isEmpty = false := by
      obtain ⟨e, he⟩ := Option.isSome_iff_exists.1 (hbyName x (by simp [hx]))
      exact List.isEmpty_eq_false_iff_exists_mem.2 ⟨e, List.mem_filterMap.2 ⟨x, hx, he⟩⟩
    -- releasing this level makes exactly the next one ready
    have hrelease : releaseLevel (table keys nx) (table keys c) [] a =
        (table keys fun k => if k ∈ rest.headD [] then 0 else c k, rest.headD []) := by
      have h := releaseLevel_table (table keys nx) c (A := a) (B := rest.headD [])
        (fun k hk => by
          rw [lookup_table, if_pos (hkeys k (by simp [hk])), hnext k (by simp [hk]),
            successors_chainPairs_head hnodup hk])
        (fun k hk => hkeys k (by simp [mem_flatten_of_mem_headD hk]))
        (nodup_headD hsplit.2.1) 0
        (fun k hk => by
          rw [hcount k (mem_flatten_of_mem_headD hk), inCount_chainPairs_next hnodup hk]; rfl)
        []
      simpa [hne a (by simp)] using h
    have hrest := ih (fun k => if k ∈ rest.headD [] then 0 else c k) fuel
      (by simpa using hfuel) (fun b hb => hne b (by simp [hb])) hsplit.2.1
      (fun k hk => hkeys k (by simp [hk])) (fun k hk => hbyName k (by simp [hk]))
      (fun k hk => by
        rw [hnext k (by simp [hk]), successors_chainPairs_cons hnodup
          (fun ha => hsplit.2.2 k ha k hk rfl)])
      (fun k hk => by
        have hhead := not_mem_headD_of_mem_tail hsplit.2.1 hk
        rw [if_neg hhead, hcount k (by cases rest <;> simp_all),
          inCount_chainPairs_cons hnodup hhead])
    have hqueue : a.isEmpty = false := List.isEmpty_eq_false_iff_exists_mem.2 ⟨x, hx⟩
    rw [kahnLevels]
    simp only [List.headD_cons, hqueue, hlevel, hrelease, Bool.false_eq_true, if_false]
    rw [hrest]
    rfl

/-- In a list of different members, keeping the members of a sublist gives the sublist. -/
theorem filter_mem_of_sublist {l₁ l₂ : List String} (h : l₁.Sublist l₂) (hnodup : l₂.Nodup) :
    l₂.filter (fun k => decide (k ∈ l₁)) = l₁ := by
  induction h with
  | slnil => rfl
  | @cons l₁ l₂ a h ih =>
    rw [List.nodup_cons] at hnodup
    have ha : a ∉ l₁ := fun ha => hnodup.1 (h.subset ha)
    simp [ha, ih hnodup.2]
  | @cons_cons l₁ l₂ a h ih =>
    rw [List.nodup_cons] at hnodup
    -- past its head, the list holds `a` no more, so `a` changes nothing of what is kept
    have hcongr : ∀ x ∈ l₂, decide (x ∈ a :: l₁) = decide (x ∈ l₁) := by
      intro x hx
      have hxa : x ≠ a := fun hxa => hnodup.1 (hxa ▸ hx)
      simp [hxa]
    rw [List.filter_cons_of_pos (by simp), List.filter_congr hcongr, ih hnodup.2]

/-- The tasks of a chain of levels that no edge leads into are those of its first level, in
    the order of any list of the chain's tasks that keeps the first level's order. -/
theorem ready_chainPairs {levels : List (List String)} {keys : List String}
    (hne : ∀ a ∈ levels, a ≠ []) (hnodup : levels.flatten.Nodup) (hperm : keys.Perm levels.flatten)
    (hfirst : (levels.headD []).Sublist keys) :
    ((table keys (inCount (chainPairs levels))).filter (·.2 == 0)).map (·.1) =
      levels.headD [] := by
  simp only [table, List.filter_map, List.map_map, Function.comp_def, List.map_id']
  -- a task has no edge into it exactly when it is of the first level
  have hzero : ∀ k ∈ keys,
      (inCount (chainPairs levels) k == 0) = decide (k ∈ levels.headD []) := by
    intro k hk
    cases levels with
    | nil => simp at hperm; simp [hperm] at hk
    | cons a rest =>
      by_cases ha : k ∈ a
      · simp [inCount_chainPairs_head hnodup ha, ha]
      · have hpos := inCount_chainPairs_pos hne hnodup (k := k)
          (by simpa [ha] using hperm.mem_iff.1 hk)
        simp only [List.headD_cons, ha, decide_false, beq_eq_false_iff_ne]
        omega
  rw [List.filter_congr hzero]
  exact filter_mem_of_sublist hfirst (hperm.nodup_iff.2 hnodup)

end Kahn

/-- Levels that are all non-empty are no more than their members. -/
theorem length_le_length_flatten {α : Type} {levels : List (List α)}
    (hne : ∀ a ∈ levels, a ≠ []) : levels.length ≤ levels.flatten.length := by
  induction levels with
  | nil => simp
  | cons a rest ih =>
    have ha := List.length_pos_iff.2 (hne a (by simp))
    have hrest := ih fun b hb => hne b (by simp [hb])
    simp only [List.length_cons, List.flatten_cons, List.length_append]
    omega

/-- Reading back the levels of a dag whose edges lead from each task of a level to each task of
    the next, in the order the dag writes them, gives the levels back, each in its written order.
    The levels are non-empty and of different tasks, and the tasks listed beside the dag are those
    of the levels, in any order that keeps the first level's. -/
theorem taskLevels_chain (dag : Entity) (levels : List (List Entity)) (rest : List Entity)
    (links : List (Entity × Entity)) (attrs : List (Value × Value))
    (hdag : (attrOf dag "type").isText "DAG" = true) (hattrs : attrOf dag "attrs" = .dict attrs)
    (hedges : dictGet? attrs "edges" = some (.list (links.map fun p => edgeValue p.1 p.2)))
    (hlinks : edgeNames links = chainPairs (levels.map (·.map taskKey)))
    (hne : ∀ a ∈ levels, a ≠ []) (hnames : (levels.flatten.map taskKey).Nodup)
    (hperm : rest.Perm levels.flatten) (hfirst : (levels.headD []).Sublist rest) :
    taskLevels (dag :: rest) = pure levels := by
  set K := levels.map (·.map taskKey) with hK
  have hflat : K.flatten = levels.flatten.map taskKey := List.map_flatten.symm
  have hnodup : K.flatten.Nodup := hflat ▸ hnames
  have hkeys : (rest.map taskKey).Perm K.flatten := hflat ▸ hperm.map taskKey
  have hrest : (rest.map taskKey).Nodup := hkeys.nodup_iff.2 hnodup
  have hmem : ∀ p ∈ links, taskKey p.1 ∈ rest.map taskKey ∧ taskKey p.2 ∈ rest.map taskKey := by
    intro p hp
    have hpair : (taskKey p.1, taskKey p.2) ∈ chainPairs K :=
      hlinks ▸ List.mem_map_of_mem (f := fun p => (taskKey p.1, taskKey p.2)) hp
    exact ⟨hkeys.mem_iff.2 (fst_mem_of_mem_chainPairs hpair),
      hkeys.mem_iff.2 (mem_flatten_of_mem_tail (snd_mem_of_mem_chainPairs hpair))⟩
  have hbyName : rest.foldl (fun acc t => assoc acc (taskKey t) t) [] =
      rest.map fun t => (taskKey t, t) := by
    simpa using foldl_assoc_fresh taskKey id hrest [] (by simp)
  have hindeg : rest.foldl (fun acc t => assoc acc (taskKey t) 0) [] =
      table (rest.map taskKey) fun _ => 0 := by
    rw [foldl_assoc_fresh taskKey (fun _ => 0) hrest [] (by simp)]
    simp [table, Function.comp_def]
  have hsucc : rest.foldl (fun acc t => assoc acc (taskKey t) ([] : List String)) [] =
      table (rest.map taskKey) fun _ => [] := by
    rw [foldl_assoc_fresh taskKey (fun _ => ([] : List String)) hrest [] (by simp)]
    simp [table, Function.comp_def]
  have hcount := countEdges_table (rest.map taskKey) (fun _ => 0) (fun _ => []) links hmem
  simp only [Nat.zero_add, List.nil_append, hlinks] at hcount
  rw [← hindeg, ← hsucc] at hcount
  have hneK : ∀ a ∈ K, a ≠ [] := by simpa [K] using hne
  have hfirstK : (K.headD []).Sublist (rest.map taskKey) := by
    cases levels with
    | nil => simp [K]
    | cons a _ => simpa [K] using hfirst.map taskKey
  -- every level is non-empty, so there are no more levels than tasks
  have hfuel : K.length ≤ rest.length + links.length + 1 := by
    have hlen := length_le_length_flatten hne
    rw [hperm.length_eq]
    simp only [K, List.length_map]
    omega
  have hlevels : K.map (·.filterMap (lookup (rest.map fun t => (taskKey t, t)))) = levels := by
    simp only [K, List.map_map]
    conv => rhs; rw [← List.map_id levels]
    refine List.map_congr_left fun a ha => ?_
    simp only [Function.comp, List.filterMap_map, id]
    conv => rhs; rw [← List.filterMap_some (l := a)]
    exact List.filterMap_congr fun x hx =>
      lookup_map_key_self taskKey hrest (hperm.mem_iff.2 (List.mem_flatten.2 ⟨a, ha, hx⟩))
  rw [taskLevels_dag_cons hdag hattrs hedges hcount, hbyName,
    ready_chainPairs hneK hnodup hkeys hfirstK]
  rw [kahnLevels_chain _ _ K _ _ hfuel hneK hnodup (fun _ hk => hkeys.mem_iff.2 hk)
    (fun k hk => ?_) (fun _ _ => rfl) (fun _ _ => rfl), hlevels]
  obtain ⟨x, hx, rfl⟩ := List.mem_map.1 (hflat ▸ hk)
  rw [lookup_map_key_self taskKey hrest (hperm.mem_iff.2 hx)]
  rfl

/-- A task that leads to two others, side by side, listed after them: the dag reads back as
    the task, then the two in their written order. -/
example :
    taskLevels [.mk .task "dag" none [("type", .str "DAG"), ("attrs", .dict [(.str "edges",
        .list [edgeValue (.mk .task "a" none [("name", .str "a")] [])
            (.mk .task "b" none [("name", .str "b")] []),
          edgeValue (.mk .task "a" none [("name", .str "a")] [])
            (.mk .task "c" none [("name", .str "c")] [])])])] [],
      .mk .task "b" none [("name", .str "b")] [], .mk .task "a" none [("name", .str "a")] [],
      .mk .task "c" none [("name", .str "c")] []] =
    pure [[.mk .task "a" none [("name", .str "a")] []],
      [.mk .task "b" none [("name", .str "b")] [], .mk .task "c" none [("name", .str "c")] []]] :=
  rfl

end Blueprints.Source
