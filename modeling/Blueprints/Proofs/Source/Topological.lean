import Blueprints.Proofs.Source.Levels
import Mathlib.Data.Fintype.Sets
import Mathlib.Data.Fintype.EquivFin
import Mathlib.Data.List.GetD

namespace Blueprints.Source

open Library Relation

section Graph

variable (E : List (String × String))

def Edge (u v : String) : Prop := (u, v) ∈ E

def BehindCycle (k : String) : Prop := ∃ u, TransGen (Edge E) u u ∧ ReflTransGen (Edge E) u k

/-- Levels in which every task comes after each task with an edge into it and, past the first
    level, just after one of them: a task's level is the first when no edge leads into it, and
    else one past the greatest level of the tasks its edges come from. -/
def Layered (levels : List (List String)) : Prop :=
  ∀ i k, k ∈ levels.getD i [] → (∀ u, Edge E u k → ∃ j < i, u ∈ levels.getD j []) ∧
    (0 < i → ∃ u, Edge E u k ∧ u ∈ levels.getD (i - 1) [])

/-- What reading the levels of a graph on the tasks `keys` gives: layered levels of different
    tasks of `keys`, and into each task left out an edge from another task left out. -/
structure Sorted (keys : List String) (levels : List (List String)) : Prop where
  layered : Layered E levels
  nodup : levels.flatten.Nodup
  sub : ∀ k ∈ levels.flatten, k ∈ keys
  stuck : ∀ k ∈ keys, k ∉ levels.flatten → ∃ u ∉ levels.flatten, Edge E u k

variable {E}

theorem mem_flatten_iff_getD {levels : List (List String)} {k : String} :
    k ∈ levels.flatten ↔ ∃ i, k ∈ levels.getD i [] := by
  rw [List.mem_flatten]
  constructor
  · rintro ⟨l, hl, hk⟩
    obtain ⟨i, hi⟩ := List.mem_iff_getElem?.1 hl
    exact ⟨i, by simpa [List.getD_eq_getElem?_getD, hi] using hk⟩
  · rintro ⟨i, hk⟩
    cases hi : levels[i]? with
    | none => simp [List.getD_eq_getElem?_getD, hi] at hk
    | some l => exact ⟨l, List.mem_of_getElem? hi, by simpa [List.getD_eq_getElem?_getD, hi] using hk⟩

namespace Layered

variable {levels : List (List String)} (h : Layered E levels)
include h

/-- Whatever leads to a task of the levels comes at an earlier level. -/
theorem earlier {u v : String} (huv : TransGen (Edge E) u v) {i : Nat}
    (hv : v ∈ levels.getD i []) : ∃ j < i, u ∈ levels.getD j [] := by
  induction huv generalizing i with
  | single he => exact (h i _ hv).1 _ he
  | tail _ he ih =>
    obtain ⟨j, hj, hw⟩ := (h i _ hv).1 _ he
    obtain ⟨j', hj', hu⟩ := ih hw
    exact ⟨j', by omega, hu⟩

/-- Whatever leads to a task of the levels is in the levels. -/
theorem mem_of_reach {u k : String} (huk : ReflTransGen (Edge E) u k)
    (hk : k ∈ levels.flatten) : u ∈ levels.flatten := by
  induction huk using ReflTransGen.head_induction_on with
  | refl => exact hk
  | head he _ ih =>
    obtain ⟨i, hi⟩ := mem_flatten_iff_getD.1 ih
    obtain ⟨j, -, hj⟩ := (h i _ hi).1 _ he
    exact mem_flatten_iff_getD.2 ⟨j, hj⟩

theorem not_mem_of_cycle {u : String} (hu : TransGen (Edge E) u u) : u ∉ levels.flatten := by
  intro hmem
  obtain ⟨i, hi⟩ := mem_flatten_iff_getD.1 hmem
  induction i using Nat.strong_induction_on with
  | _ i ih =>
    obtain ⟨j, hj, hu'⟩ := h.earlier hu hi
    exact ih j hj hu'

end Layered

/-- A level after layered levels keeps them layered when every edge into its tasks comes from the
    levels and, past the first level, one comes from the last. -/
theorem layered_snoc {levels : List (List String)} {l : List String} (h : Layered E levels)
    (hpred : ∀ k ∈ l, ∀ u, Edge E u k → u ∈ levels.flatten)
    (hlast : ∀ k ∈ l, 0 < levels.length →
      ∃ u, Edge E u k ∧ u ∈ levels.getD (levels.length - 1) []) :
    Layered E (levels ++ [l]) := by
  intro i k hk
  rcases Nat.lt_trichotomy i levels.length with hi | rfl | hi
  · rw [List.getD_append _ _ _ _ hi] at hk
    obtain ⟨hbefore, hprev⟩ := h i k hk
    refine ⟨fun u hu => ?_, fun hpos => ?_⟩
    · obtain ⟨j, hj, hu⟩ := hbefore u hu
      exact ⟨j, hj, by rwa [List.getD_append _ _ _ _ (by omega)]⟩
    · obtain ⟨u, hu, hmem⟩ := hprev hpos
      exact ⟨u, hu, by rwa [List.getD_append _ _ _ _ (by omega)]⟩
  · rw [List.getD_append_right _ _ _ _ le_rfl, Nat.sub_self] at hk
    refine ⟨fun u hu => ?_, fun hpos => ?_⟩
    · obtain ⟨j, hj⟩ := mem_flatten_iff_getD.1 (hpred k (by simpa using hk) u hu)
      have hlen : j < levels.length := by
        by_contra hout
        rw [List.getD_eq_default _ _ (Nat.le_of_not_lt hout)] at hj
        simp at hj
      exact ⟨j, hlen, by rwa [List.getD_append _ _ _ _ hlen]⟩
    · obtain ⟨u, hu, hmem⟩ := hlast k (by simpa using hk) hpos
      exact ⟨u, hu, by rwa [List.getD_append _ _ _ _ (by omega)]⟩
  · rw [List.getD_append_right _ _ _ _ hi.le,
      List.getD_eq_default [l] [] (show [l].length ≤ i - levels.length by simp; omega)] at hk
    simp at hk

namespace Sorted

variable {keys : List String} {levels : List (List String)} (h : Sorted E keys levels)
include h

/-- When every edge starts at a task of the graph, a task is read exactly when no cycle leads
    to it. -/
theorem mem_iff_not_behindCycle (hsources : ∀ e ∈ E, e.1 ∈ keys) {k : String} (hk : k ∈ keys) :
    k ∈ levels.flatten ↔ ¬BehindCycle E k := by
  constructor
  · rintro hmem ⟨u, hu, huk⟩
    exact h.layered.not_mem_of_cycle hu (h.layered.mem_of_reach huk hmem)
  · intro hfree
    -- among the tasks that lead to `k`, leading to is well founded; a task left out has an
    -- edge from another task left out, so a first one left out cannot exist
    let r : {u // u ∈ keys} → {u // u ∈ keys} → Prop := fun a b =>
      TransGen (Edge E) a b ∧ ReflTransGen (Edge E) b k
    have : IsTrans _ r := ⟨fun _ _ _ hab hbc => ⟨hab.1.trans hbc.1, hbc.2⟩⟩
    have : Std.Irrefl r := ⟨fun a ha => hfree ⟨a, ha.1, ha.2⟩⟩
    suffices ∀ u : {u // u ∈ keys}, ReflTransGen (Edge E) u k → u.1 ∈ levels.flatten from
      this ⟨k, hk⟩ .refl
    intro u
    induction u using (Finite.wellFounded_of_trans_of_irrefl r).induction with
    | _ u ih =>
      intro huk
      by_contra hout
      obtain ⟨v, hv, hvu⟩ := h.stuck u u.2 hout
      exact hv (ih ⟨v, hsources _ hvu⟩ ⟨.single hvu, huk⟩ (.head hvu huk))

end Sorted

end Graph

section Assoc

variable {α β : Type} (key : β → String)

/-- Setting each member of `xs` under its key, from a table, gives the table over the keys in the
    order they first come, each key set to the last member with it. -/
theorem foldl_assoc_table (val : β → α) (xs : List β) (ks : List String) (g : String → α) :
    xs.foldl (fun acc x => assoc acc (key x) (val x)) (table ks g) =
      table (xs.foldl (fun ks x => if key x ∈ ks then ks else ks ++ [key x]) ks)
        fun k => ((xs.reverse.find? (key · == k)).map val).getD (g k) := by
  induction xs generalizing ks g with
  | nil => simp
  | cons x xs ih =>
    have hstep : assoc (table ks g) (key x) (val x) =
        table (if key x ∈ ks then ks else ks ++ [key x]) fun k =>
          if k = key x then val x else g k := by
      by_cases hx : key x ∈ ks
      · rw [if_pos hx, assoc_table _ hx]
      · rw [if_neg hx, assoc, if_neg (by simpa [table] using hx)]
        simp only [table, List.map_append, List.map_cons, List.map_nil, if_true]
        congr 1
        exact List.map_congr_left fun k hk => by rw [if_neg fun h : k = key x => hx (h ▸ hk)]
    rw [List.foldl_cons, List.foldl_cons, hstep, ih]
    congr 1
    funext k
    rw [List.reverse_cons, List.find?_append]
    cases xs.reverse.find? (key · == k) with
    | some y => rfl
    | none =>
      by_cases hk : key x = k
      · simp [hk]
      · simp [hk, Ne.symm hk]

/-- The keys of `xs`, each once, in the order they first come. -/
theorem foldl_firstKeys (xs : List β) {ks : List String} (hks : ks.Nodup) :
    (xs.foldl (fun ks x => if key x ∈ ks then ks else ks ++ [key x]) ks).Nodup ∧
      ∀ k, k ∈ xs.foldl (fun ks x => if key x ∈ ks then ks else ks ++ [key x]) ks ↔
        k ∈ ks ∨ k ∈ xs.map key := by
  induction xs generalizing ks with
  | nil => simp [hks]
  | cons x xs ih =>
    rw [List.foldl_cons]
    split
    · obtain ⟨hnodup, hmem⟩ := ih hks
      refine ⟨hnodup, fun k => ?_⟩
      rw [hmem]
      by_cases hk : k = key x <;> simp_all
    · rename_i hx
      obtain ⟨hnodup, hmem⟩ :=
        ih (hks.append (List.nodup_singleton _) (List.disjoint_singleton.2 hx))
      refine ⟨hnodup, fun k => ?_⟩
      rw [hmem]
      simp only [List.mem_append, List.map_cons, List.mem_cons]
      tauto

/-- Names that each find a member with that name are read back from the members they find. -/
theorem map_filterMap_lookup {byName : List (String × β)} {l : List String}
    (h : ∀ k ∈ l, ∃ x, lookup byName k = some x ∧ key x = k) :
    (l.filterMap (lookup byName)).map key = l := by
  induction l with
  | nil => rfl
  | cons k l ih =>
    obtain ⟨x, hx, hkx⟩ := h k (by simp)
    simp only [List.filterMap_cons, hx, List.map_cons, hkx, ih fun k hk => h k (by simp [hk])]

end Assoc

section Kahn

variable {E : List (String × String)} {keys : List String}

/-- The number of edges into `k` from tasks that satisfy `p`. -/
def edgesInto (E : List (String × String)) (p : String → Prop) [DecidablePred p] (k : String) :
    Nat :=
  E.countP fun e => p e.1 ∧ e.2 = k

theorem edgesInto_congr {p q : String → Prop} [DecidablePred p] [DecidablePred q]
    (h : ∀ u, p u ↔ q u) (k : String) : edgesInto E p k = edgesInto E q k :=
  List.countP_congr fun e _ => by simp [h]

/-- Edges from two kinds of tasks that no task is of both are counted apart. -/
theorem edgesInto_or {p q : String → Prop} [DecidablePred p] [DecidablePred q]
    (h : ∀ u, p u → ¬q u) (k : String) :
    edgesInto E (fun u => p u ∨ q u) k = edgesInto E p k + edgesInto E q k := by
  induction E with
  | nil => rfl
  | cons e E ih =>
    simp only [edgesInto, List.countP_cons] at ih ⊢
    rw [ih]
    have := h e.1
    by_cases hp : p e.1 <;> by_cases hq : q e.1 <;> simp_all <;> omega

theorem count_successors (u k : String) :
    (successors E u).count k = edgesInto E (· = u) k := by
  simp only [successors, edgesInto, List.count, List.countP_map, List.countP_filter,
    Function.comp_def]
  exact List.countP_congr fun e _ => by simp [and_comm]

/-- The edges out of the different tasks `queue` lead into `k` as often as `k` is among their
    ends. -/
theorem count_flatMap_successors {queue : List String} (hnodup : queue.Nodup) (k : String) :
    (queue.flatMap (successors E)).count k = edgesInto E (· ∈ queue) k := by
  induction queue with
  | nil => simp [edgesInto]
  | cons u queue ih =>
    rw [List.nodup_cons] at hnodup
    rw [List.flatMap_cons, List.count_append, ih hnodup.2, count_successors,
      edgesInto_congr (fun _ => List.mem_cons) k,
      edgesInto_or (p := (· = u)) (fun v hv hmem => hnodup.1 (hv ▸ hmem))]

theorem dropEdges_append (indegree : List (String × Nat)) (ready xs ys : List String) :
    dropEdges indegree ready (xs ++ ys) =
      dropEdges (dropEdges indegree ready xs).1 (dropEdges indegree ready xs).2 ys := by
  induction xs generalizing indegree ready with
  | nil => rfl
  | cons t xs ih => simp only [List.cons_append, dropEdges, ih]

/-- Releasing a level takes away, in order, the edges out of each of its tasks. -/
theorem releaseLevel_eq_dropEdges (next : List (String × List String))
    (indegree : List (String × Nat)) (ready level : List String) :
    releaseLevel next indegree ready level =
      dropEdges indegree ready (level.flatMap fun cur => (lookup next cur).getD []) := by
  induction level generalizing indegree ready with
  | nil => rfl
  | cons cur level ih => simp only [releaseLevel, ih, List.flatMap_cons, dropEdges_append]

/-- Taking away one edge into each of `ts`, tasks of `keys` none of which loses more edges than
    lead into it, lowers each count by the edges taken away; the tasks whose count reaches zero
    join the ready ones, each once. -/
theorem dropEdges_counts (c : String → Nat) {ts : List String} (hts : ∀ k ∈ ts, k ∈ keys)
    (hle : ∀ k, ts.count k ≤ c k) (ready : List String) :
    ∃ D, dropEdges (table keys c) ready ts = (table keys fun k => c k - ts.count k, ready ++ D) ∧
      D.Nodup ∧ ∀ k, k ∈ D ↔ k ∈ ts ∧ ts.count k = c k := by
  induction ts generalizing c ready with
  | nil => exact ⟨[], by simp [dropEdges], .nil, by simp⟩
  | cons t ts ih =>
    have ht : t ∈ keys := hts t (by simp)
    have hct : ts.count t + 1 ≤ c t := by simpa using hle t
    obtain ⟨D, hD, hnodup, hmem⟩ := ih (fun k => if k = t then c t - 1 else c k)
      (fun k hk => hts k (by simp [hk]))
      (fun k => by
        by_cases hk : k = t
        · subst hk
          simp only [if_true]
          omega
        · simpa [hk, List.count_cons, Ne.symm hk] using hle k)
      (if c t - 1 == 0 then ready ++ [t] else ready)
    have htable : (fun k => (if k = t then c t - 1 else c k) - ts.count k) =
        fun k => c k - (t :: ts).count k := by
      funext k
      by_cases hk : k = t
      · subst hk; simp; omega
      · simp [hk, Ne.symm hk]
    refine ⟨(if c t - 1 = 0 then [t] else []) ++ D, ?_, ?_, fun k => ?_⟩
    · simp only [dropEdges, lookup_table, if_pos ht, Option.getD_some, assoc_table _ ht, hD,
        htable]
      by_cases h0 : c t - 1 = 0 <;> simp [h0]
    · by_cases h0 : c t - 1 = 0
      · have htD : t ∉ D := fun h => by
          obtain ⟨hin, hcount⟩ := (hmem t).1 h
          simp only [if_true, h0] at hcount
          exact List.count_eq_zero.1 hcount hin
        simpa [h0] using ⟨htD, hnodup⟩
      · simpa [h0] using hnodup
    · by_cases hk : k = t
      · subst hk
        by_cases hin : k ∈ ts
        · have := List.count_pos_iff.2 hin
          by_cases h0 : c k - 1 = 0 <;> simp [h0, hmem, hin] <;> omega
        · have := List.count_eq_zero_of_not_mem hin
          by_cases h0 : c k - 1 = 0 <;> simp [h0, hmem, hin] <;> omega
      · simp [hmem, hk, Ne.symm hk]

theorem mem_successors {u k : String} : k ∈ successors E u ↔ Edge E u k := by
  simp [successors, Edge]

/-- The state of reading levels once the tasks `done` are read: `queue` is to be read next and
    `c` counts, for each task of the graph, the edges into it not yet taken away. -/
structure Reading (E : List (String × String)) (keys done queue : List String)
    (c : String → Nat) : Prop where
  sub : ∀ k ∈ done, k ∈ keys
  nodup : done.Nodup
  count : ∀ k ∈ keys, c k = edgesInto E (· ∉ done) k
  closed : ∀ u k, Edge E u k → k ∈ done → u ∈ done
  ready : ∀ k, k ∈ queue ↔ k ∈ keys ∧ k ∉ done ∧ c k = 0
  ready_nodup : queue.Nodup

namespace Reading

variable {done queue : List String} {c : String → Nat} (h : Reading E keys done queue c)
include h

/-- A task ready to be read has no edge into it but from tasks already read. -/
theorem mem_done_of_edge {k : String} (hk : k ∈ queue) {u : String} (hu : Edge E u k) :
    u ∈ done := by
  obtain ⟨hkeys, -, h0⟩ := (h.ready k).1 hk
  rw [h.count k hkeys, edgesInto, List.countP_eq_zero] at h0
  by_contra hout
  exact h0 (u, k) hu (by simp [hout])

/-- Reading the ready tasks takes away the edges out of them: the tasks whose last edge goes
    are ready next, each with an edge from a task just read. -/
theorem step (htargets : ∀ e ∈ E, e.2 ∈ keys) {next : List (String × List String)}
    (hnext : ∀ k ∈ keys, (lookup next k).getD [] = successors E k) :
    ∃ c' following, releaseLevel next (table keys c) [] queue = (table keys c', following) ∧
      Reading E keys (done ++ queue) following c' ∧ ∀ k ∈ following, ∃ u ∈ queue, Edge E u k := by
  have hqueue : ∀ k ∈ queue, k ∈ keys := fun k hk => ((h.ready k).1 hk).1
  have hdisj : ∀ k ∈ queue, k ∉ done := fun k hk => ((h.ready k).1 hk).2.1
  have hflat : queue.flatMap (fun cur => (lookup next cur).getD []) =
      queue.flatMap (successors E) :=
    List.flatMap_congr fun cur hcur => hnext cur (hqueue cur hcur)
  have hts : ∀ k, k ∈ queue.flatMap (successors E) ↔ ∃ u ∈ queue, Edge E u k := by
    simp [mem_successors]
  have hcount := count_flatMap_successors (E := E) h.ready_nodup
  -- the edges from tasks not read split into those from the queue and the rest
  have hsplit : ∀ k, edgesInto E (· ∉ done) k =
      edgesInto E (· ∉ done ++ queue) k + edgesInto E (· ∈ queue) k := fun k => by
    rw [← edgesInto_or (fun u hu hq => hu (List.mem_append_right _ hq))]
    exact edgesInto_congr (fun u => by by_cases hq : u ∈ queue <;> simp [hq, hdisj u]) k
  have hle : ∀ k, (queue.flatMap (successors E)).count k ≤ c k := fun k => by
    by_cases hk : k ∈ keys
    · rw [hcount, h.count k hk, hsplit]
      omega
    · rw [List.count_eq_zero_of_not_mem fun hmem => by
        obtain ⟨u, -, hu⟩ := (hts k).1 hmem
        exact hk (htargets _ hu)]
      omega
  obtain ⟨D, hD, hnodup, hmem⟩ := dropEdges_counts c (fun k hmem => by
    obtain ⟨u, -, hu⟩ := (hts k).1 hmem
    exact htargets _ hu) hle []
  refine ⟨_, D, by rw [releaseLevel_eq_dropEdges, hflat, hD, List.nil_append], ⟨?_, ?_, ?_, ?_, ?_,
    hnodup⟩, fun k hk => (hts k).1 ((hmem k).1 hk).1⟩
  · intro k hk
    rcases List.mem_append.1 hk with hk | hk
    exacts [h.sub k hk, hqueue k hk]
  · exact List.nodup_append.2 ⟨h.nodup, h.ready_nodup, fun a ha b hb hab =>
      hdisj b hb (hab ▸ ha)⟩
  · intro k hk
    rw [h.count k hk, hcount, hsplit]
    omega
  · intro u k hu hk
    rcases List.mem_append.1 hk with hk | hk
    · exact List.mem_append_left _ (h.closed u k hu hk)
    · exact List.mem_append_left _ (h.mem_done_of_edge hk hu)
  · intro k
    constructor
    · intro hk
      obtain ⟨hin, heq⟩ := (hmem k).1 hk
      obtain ⟨u, hu, huk⟩ := (hts k).1 hin
      refine ⟨htargets _ huk, fun hdone => ?_, by omega⟩
      rcases List.mem_append.1 hdone with hdone | hdone
      · exact hdisj u hu (h.closed u k huk hdone)
      · exact hdisj u hu (h.mem_done_of_edge hdone huk)
    · rintro ⟨hk, hout, h0⟩
      have hc : c k ≠ 0 := fun hc => hout (List.mem_append_right _
        ((h.ready k).2 ⟨hk, fun hd => hout (List.mem_append_left _ hd), hc⟩))
      have hpos : 0 < (queue.flatMap (successors E)).count k := by have := hle k; omega
      exact (hmem k).2 ⟨List.count_pos_iff.1 hpos, by have := hle k; omega⟩

end Reading

/-- Reading levels from any state reads, within fuel for the tasks left, sorted levels after
    those read before: each level the tasks ready, looked up by name. -/
theorem kahnLevels_sorted {α : Type} (byName : List (String × α))
    (hbyName : ∀ k ∈ keys, (lookup byName k).isSome) (htargets : ∀ e ∈ E, e.2 ∈ keys)
    {next : List (String × List String)}
    (hnext : ∀ k ∈ keys, (lookup next k).getD [] = successors E k) (fuel : Nat)
    (done : List (List String)) (queue : List String) (c : String → Nat)
    (h : Reading E keys done.flatten queue c) (hlayered : Layered E done)
    (hlast : ∀ k ∈ queue, 0 < done.length →
      ∃ u, Edge E u k ∧ u ∈ done.getD (done.length - 1) [])
    (hfuel : keys.length < fuel + done.flatten.length) :
    ∃ levels, kahnLevels byName next fuel (table keys c) queue =
      levels.map (·.filterMap (lookup byName)) ∧ Sorted E keys (done ++ levels) := by
  induction fuel generalizing done queue c with
  | zero =>
    have := (h.nodup.subperm h.sub).length_le
    omega
  | succ fuel ih =>
    by_cases hq : queue = []
    · subst hq
      refine ⟨[], by simp [kahnLevels], ?_⟩
      rw [List.append_nil]
      refine ⟨hlayered, h.nodup, h.sub, fun k hk hout => ?_⟩
      -- nothing is ready, so an edge from a task left out leads into each task left out
      have hc : c k ≠ 0 := fun h0 => by simpa using (h.ready k).2 ⟨hk, hout, h0⟩
      rw [h.count k hk, edgesInto] at hc
      obtain ⟨e, he, hprop⟩ := List.countP_pos_iff.1 (Nat.pos_of_ne_zero hc)
      rw [decide_eq_true_eq] at hprop
      obtain ⟨hout', rfl⟩ := hprop
      exact ⟨e.1, hout', he⟩
    · obtain ⟨c', following, hrelease, hstep, hfrom⟩ := h.step htargets hnext
      obtain ⟨k, hk⟩ := List.exists_mem_of_ne_nil queue hq
      have hlevel : (queue.filterMap (lookup byName)).isEmpty = false := by
        obtain ⟨x, hx⟩ := Option.isSome_iff_exists.1 (hbyName k ((h.ready k).1 hk).1)
        exact List.isEmpty_eq_false_iff_exists_mem.2 ⟨x, List.mem_filterMap.2 ⟨k, hk, hx⟩⟩
      obtain ⟨levels, hlevels, hsorted⟩ := ih (done ++ [queue]) following c'
        (by simpa using hstep)
        (layered_snoc hlayered (fun k hk u hu => h.mem_done_of_edge hk hu) hlast)
        (fun k hk _ => by
          obtain ⟨u, hu, huk⟩ := hfrom k hk
          exact ⟨u, huk, by simpa using hu⟩)
        (by
          have := List.length_pos_iff.2 hq
          simp only [List.flatten_append, List.length_append, List.flatten_singleton]
          omega)
      refine ⟨queue :: levels, ?_, by simpa using hsorted⟩
      rw [kahnLevels, if_neg (by simpa using hq)]
      simp only [hrelease, hlevel, hlevels, Bool.false_eq_true, if_false]
      rfl

/-- Kahn's levels of any graph on the different tasks `keys`, whose edges lead into tasks of
    `keys`, from the tasks no edge leads into, are sorted. -/
theorem kahnLevels_sorted_start (hkeys : keys.Nodup) {α : Type} (byName : List (String × α))
    (hbyName : ∀ k ∈ keys, (lookup byName k).isSome) (htargets : ∀ e ∈ E, e.2 ∈ keys)
    (next : List (String × List String))
    (hnext : ∀ k ∈ keys, (lookup next k).getD [] = successors E k) (fuel : Nat)
    (hfuel : keys.length < fuel) :
    ∃ levels, kahnLevels byName next fuel (table keys (inCount E))
        (keys.filter fun k => inCount E k == 0) =
      levels.map (·.filterMap (lookup byName)) ∧ Sorted E keys levels := by
  have hstart : Reading E keys [] (keys.filter fun k => inCount E k == 0) (inCount E) :=
    { sub := by simp
      nodup := .nil
      count := fun k _ => List.countP_congr fun e _ => by simp
      closed := by simp
      ready := by simp
      ready_nodup := hkeys.filter _ }
  simpa using kahnLevels_sorted byName hbyName htargets hnext fuel [] _ _ hstart
    (by simp [Layered]) (by simp) (by simpa using hfuel)

end Kahn

section Dag

/-- The levels read from the dag of an action, for any edges between the names of its tasks,
    repeated names and cycles allowed: each level holds tasks of the action and no name comes
    twice; a task's name is read exactly when no cycle leads to it; and each task's level is the
    first when no edge leads into it, else one past the greatest level of the tasks its edges
    come from. -/
theorem taskLevels_topological (dag : Entity) (tasks : List Entity)
    (links : List (Entity × Entity)) (attrs : List (Value × Value))
    (hdag : (attrOf dag "type").isText "DAG" = true) (hattrs : attrOf dag "attrs" = .dict attrs)
    (hedges : dictGet? attrs "edges" = some (.list (links.map fun p => edgeValue p.1 p.2)))
    (hends : ∀ p ∈ links, taskKey p.1 ∈ tasks.map taskKey ∧ taskKey p.2 ∈ tasks.map taskKey) :
    ∃ levels, taskLevels (dag :: tasks) = pure levels ∧ (∀ t ∈ levels.flatten, t ∈ tasks) ∧
      (levels.flatten.map taskKey).Nodup ∧
      (∀ t ∈ tasks, taskKey t ∈ levels.flatten.map taskKey ↔
        ¬BehindCycle (edgeNames links) (taskKey t)) ∧
      Layered (edgeNames links) (levels.map (·.map taskKey)) := by
  set E := edgeNames links
  set K := tasks.foldl (fun ks t => if taskKey t ∈ ks then ks else ks ++ [taskKey t]) []
  set byName := tasks.foldl (fun acc t => assoc acc (taskKey t) t) []
  obtain ⟨hK, hmemK⟩ := foldl_firstKeys taskKey tasks List.nodup_nil
  have hKiff : ∀ k, k ∈ K ↔ k ∈ tasks.map taskKey := by simpa using hmemK
  have hends' : ∀ p ∈ links, taskKey p.1 ∈ K ∧ taskKey p.2 ∈ K := fun p hp => by
    simpa [hKiff] using hends p hp
  have hE : ∀ e ∈ E, e.1 ∈ K ∧ e.2 ∈ K := by
    intro e he
    obtain ⟨p, hp, rfl⟩ := List.mem_map.1 he
    exact hends' p hp
  -- the tables the dag is read into
  have hconst : ∀ {β : Type} (v : β),
      tasks.foldl (fun acc t => assoc acc (taskKey t) v) [] = table K fun _ => v := fun v => by
    rw [← table_nil fun _ => v, foldl_assoc_table]
    congr 1
    funext k
    cases tasks.reverse.find? (taskKey · == k) <;> rfl
  have hcount := countEdges_table K (fun _ => 0) (fun _ => []) links hends'
  simp only [Nat.zero_add, List.nil_append] at hcount
  rw [← hconst 0, ← hconst ([] : List String)] at hcount
  have hqueue : ((table K (inCount E)).filter (·.2 == 0)).map (·.1) =
      K.filter fun k => inCount E k == 0 := by
    simp [table, List.filter_map, Function.comp_def]
  -- each name finds the last task of that name
  have htable : byName = table K fun k =>
      ((tasks.reverse.find? (taskKey · == k)).map id).getD dag := by
    exact foldl_assoc_table taskKey id tasks [] fun _ => dag
  have hsome : ∀ k ∈ K, (lookup byName k).isSome := fun k hk => by simp [htable, hk]
  have hbyName : ∀ k x, lookup byName k = some x → x ∈ tasks ∧ taskKey x = k := by
    intro k x hx
    rw [htable, lookup_table] at hx
    split at hx
    · obtain ⟨t, ht, rfl⟩ := List.mem_map.1 ((hKiff k).1 (by assumption))
      have hfound : (tasks.reverse.find? (taskKey · == taskKey t)).isSome :=
        List.find?_isSome.2 ⟨t, List.mem_reverse.2 ht, beq_self_eq_true _⟩
      obtain ⟨y, hy⟩ := Option.isSome_iff_exists.1 hfound
      rw [hy] at hx
      cases hx
      exact ⟨List.mem_reverse.1 (List.mem_of_find?_eq_some hy), by simpa using List.find?_some hy⟩
    · cases hx
  obtain ⟨levels, hrun, hsorted⟩ := kahnLevels_sorted_start hK byName hsome
    (fun e he => (hE e he).2) (table K (successors E))
    (fun k hk => by rw [lookup_table, if_pos (show k ∈ K from hk)]; rfl)
    (tasks.length + links.length + 1)
    (by
      have := (hK.subperm fun k hk => (hKiff k).1 hk).length_le
      simp at this
      omega)
  -- every name read finds a task of that name
  have hnames : (levels.map (·.filterMap (lookup byName))).map (·.map taskKey) = levels := by
    rw [List.map_map]
    refine (List.map_congr_left fun l hl => map_filterMap_lookup taskKey fun k hk => ?_).trans
      (List.map_id levels)
    obtain ⟨x, hx⟩ := Option.isSome_iff_exists.1
      (hsome k (hsorted.sub k (List.mem_flatten.2 ⟨l, hl, hk⟩)))
    exact ⟨x, hx, (hbyName k x hx).2⟩
  have hflat : (levels.map (·.filterMap (lookup byName))).flatten.map taskKey = levels.flatten := by
    rw [List.map_flatten, hnames]
  refine ⟨levels.map (·.filterMap (lookup byName)), ?_, ?_, ?_, ?_, ?_⟩
  · rw [taskLevels_dag_cons hdag hattrs hedges hcount]
    show pure (kahnLevels byName (table K (successors E)) _ (table K (inCount E))
      (((table K (inCount E)).filter (·.2 == 0)).map (·.1))) = _
    rw [hqueue, hrun]
  · intro t ht
    obtain ⟨l, hl, ht⟩ := List.mem_flatten.1 ht
    obtain ⟨l', -, rfl⟩ := List.mem_map.1 hl
    obtain ⟨k, -, hk⟩ := List.mem_filterMap.1 ht
    exact (hbyName k t hk).1
  · rw [hflat]
    exact hsorted.nodup
  · intro t ht
    have hk : taskKey t ∈ K := (hKiff _).2 (List.mem_map_of_mem ht)
    rw [hflat, hsorted.mem_iff_not_behindCycle (fun e he => (hE e he).1) hk]
  · rw [hnames]
    exact hsorted.layered

/-- A task class named by its `name` attribute. -/
def namedTask (name : String) : Entity := .mk .task name none [("name", .str name)] []

/-- The dag task of an action whose edges are `links`. -/
def dagOf (links : List (Entity × Entity)) : Entity :=
  .mk .task "dag" none [("type", .str "DAG"), ("attrs", .dict [
    (.str "edges", .list (links.map fun p => edgeValue p.1 p.2))])] []

/-- Edges `a → b`, `a → c` and `b → c`: three levels, `c` behind both others. -/
def diamondLinks : List (Entity × Entity) :=
  [(namedTask "a", namedTask "b"), (namedTask "a", namedTask "c"), (namedTask "b", namedTask "c")]

/-- Three tasks listed backwards with edges `a → b`, `a → c` and `b → c` are read in three levels
    of one task each, `c` one past `b` and not just past `a`; a task with an edge to itself is
    held back, so nothing is read. -/
theorem taskLevels_topological_layers_and_loop :
    (taskLevels [dagOf diamondLinks, namedTask "c", namedTask "b", namedTask "a"] =
        pure [[namedTask "a"], [namedTask "b"], [namedTask "c"]] ∧
      Layered (edgeNames diamondLinks) [["a"], ["b"], ["c"]]) ∧
    taskLevels [dagOf [(namedTask "a", namedTask "a")], namedTask "a"] = pure [] ∧
      BehindCycle (edgeNames [(namedTask "a", namedTask "a")]) "a" := by
  obtain ⟨levels, hrun, -, -, -, hlayered⟩ := taskLevels_topological (dagOf diamondLinks)
    [namedTask "c", namedTask "b", namedTask "a"] diamondLinks _ rfl rfl rfl (by decide)
  have hread : taskLevels [dagOf diamondLinks, namedTask "c", namedTask "b", namedTask "a"] =
      pure [[namedTask "a"], [namedTask "b"], [namedTask "c"]] := rfl
  -- the two runs agree from any start, so they read the same levels
  have hlevels : levels = [[namedTask "a"], [namedTask "b"], [namedTask "c"]] := by
    have h : (Except.ok (levels, default) : Except Fault _) =
        .ok ([[namedTask "a"], [namedTask "b"], [namedTask "c"]], default) :=
      congrArg (fun w => (Id.run ((w default).run.run default)).1) (hrun.symm.trans hread)
    simpa using h
  subst hlevels
  obtain ⟨held, hheld, -, -, hkept, -⟩ := taskLevels_topological
    (dagOf [(namedTask "a", namedTask "a")]) [namedTask "a"] [(namedTask "a", namedTask "a")] _
    rfl rfl rfl (by decide)
  have hloop : taskLevels [dagOf [(namedTask "a", namedTask "a")], namedTask "a"] = pure [] := rfl
  have hheld' : held = [] := by
    have h : (Except.ok (held, default) : Except Fault _) = .ok ([], default) :=
      congrArg (fun w => (Id.run ((w default).run.run default)).1) (hheld.symm.trans hloop)
    simpa using h
  subst hheld'
  have hbehind : BehindCycle (edgeNames [(namedTask "a", namedTask "a")])
      (taskKey (namedTask "a")) := by
    simpa using (hkept (namedTask "a") (by simp)).not
  exact ⟨⟨hread, hlayered⟩, hloop, hbehind⟩

end Dag

end Blueprints.Source
