import Blueprints.Schema.Validate

namespace Blueprints.Schema

/-- `w` extends `v`: the entries of a dictionary keep their keys and places with extended values,
    and new entries may follow them; the items of a list are extended one by one; any other value
    stays as it is. -/
inductive Extends : Value → Value → Prop
  | refl (v : Value) : Extends v v
  | dict {es : List (Value × Value)} (f : Value → Value → Value) (extra : List (Value × Value))
      (grow : ∀ k x, (k, x) ∈ es → Extends x (f k x)) :
      Extends (.dict es) (.dict (es.map (fun e => (e.1, f e.1 e.2)) ++ extra))
  | list {xs : List Value} (f : Value → Value) (grow : ∀ x ∈ xs, Extends x (f x)) :
      Extends (.list xs) (.list (xs.map f))

theorem Extends.trans {u v w : Value} (huv : Extends u v) (hvw : Extends v w) : Extends u w := by
  induction huv generalizing w with
  | refl => exact hvw
  | @dict es f extra grow ih =>
    cases hvw with
    | refl => exact .dict f extra grow
    | dict g extra' grow' =>
      -- the entries of `es` are mapped twice, the entries added first once
      have h := @Extends.dict es (fun k x => g k (f k x))
        ((extra.map fun e => (e.1, g e.1 e.2)) ++ extra') fun k x hx =>
          ih k x hx (grow' k (f k x) (List.mem_append_left _ (List.mem_map.2 ⟨(k, x), hx, rfl⟩)))
      simpa [Function.comp_def] using h
  | @list xs f grow ih =>
    cases hvw with
    | refl => exact .list f grow
    | list g grow' =>
      have h := @Extends.list xs (fun x => g (f x)) fun x hx =>
        ih x hx (grow' (f x) (List.mem_map_of_mem hx))
      simpa [Function.comp_def] using h

/-- `es` has an entry under the key `name`. -/
def HasKey (es : List (Value × Value)) (name : String) : Prop := ∃ x, (.str name, x) ∈ es

/-- A value that extends a dictionary is a dictionary with every key of it. -/
theorem Extends.hasKey {es : List (Value × Value)} {w : Value} {name : String}
    (h : Extends (.dict es) w) (hk : HasKey es name) : ∃ fs, w = .dict fs ∧ HasKey fs name := by
  obtain ⟨x, hx⟩ := hk
  cases h with
  | refl => exact ⟨es, rfl, x, hx⟩
  | dict f extra _ =>
    exact ⟨_, rfl, f _ x, List.mem_append_left _ (List.mem_map.2 ⟨(.str name, x), hx, rfl⟩)⟩

/-- One step down into a value: the entry under a key of an object, or an item of a list. -/
inductive Descent
  | key (name : String)
  | item (i : Nat)

/-- `Inside path v w`: the steps of `path`, taken one by one from `v`, lead to `w`. -/
inductive Inside : List Descent → Value → Value → Prop
  | here (v : Value) : Inside [] v v
  | key {name : String} {path : List Descent} {es : List (Value × Value)} {x w : Value}
      (hx : (.str name, x) ∈ es) (next : Inside path x w) : Inside (.key name :: path) (.dict es) w
  | item {i : Nat} {path : List Descent} {xs : List Value} {x w : Value}
      (hx : xs[i]? = some x) (next : Inside path x w) : Inside (.item i :: path) (.list xs) w

/-- Where a path leads in a value, it leads in every extension of the value to an extension. -/
theorem Extends.inside {path : List Descent} {v v' w : Value} (h : Extends v v')
    (hw : Inside path v w) : ∃ w', Inside path v' w' ∧ Extends w w' := by
  induction hw generalizing v' with
  | here => exact ⟨v', .here v', h⟩
  | @key name path es x w hx next ih =>
    cases h with
    | refl => exact ⟨w, .key hx next, .refl w⟩
    | dict f extra grow =>
      obtain ⟨w', hw', hgrow⟩ := ih (grow _ x hx)
      exact ⟨w', .key (List.mem_append_left _ (List.mem_map.2 ⟨(.str name, x), hx, rfl⟩)) hw', hgrow⟩
  | @item i path xs x w hx next ih =>
    cases h with
    | refl => exact ⟨w, .item hx next, .refl w⟩
    | list f grow =>
      obtain ⟨w', hw', hgrow⟩ := ih (grow x (List.mem_of_getElem? hx))
      exact ⟨w', .item (by simp [hx]) hw', hgrow⟩

theorem Value.equal_str_iff (k : Value) (n : String) : k.equal (.str n) = true ↔ k = .str n := by
  cases k <;> simp [Value.equal, Value.numeric?]

section Steps

variable {chk : Schema → Value → Value × List String} {props : List (String × Schema)}
  {t : SchemaTable}

/-- `chk` returns an extension of every value it checks. -/
def Grows (chk : Schema → Value → Value × List String) : Prop := ∀ s v, Extends v (chk s v).1

theorem fillDefaults_cons (name : String) (p : Schema) (es : List (Value × Value)) :
    fillDefaults ((name, p) :: props) t es = fillDefaults props t
      (match (p.resolve t).default with
        | some d => if es.any (fun e => e.1.equal (.str name)) then es
          else es ++ [(.str name, Value.ofJson d)]
        | none => es) := rfl

theorem fillDefaults_eq_append (props : List (String × Schema)) (t : SchemaTable)
    (es : List (Value × Value)) :
    ∃ extra, fillDefaults props t es = es ++ extra := by
  induction props generalizing es with
  | nil => exact ⟨[], (List.append_nil es).symm⟩
  | cons p ps ih =>
    obtain ⟨name, p⟩ := p
    rw [fillDefaults_cons]
    split
    next d _ =>
      split
      · exact ih es
      · obtain ⟨extra, h⟩ := ih (es ++ [(.str name, Value.ofJson d)])
        exact ⟨_ :: extra, by rw [h, List.append_assoc, List.singleton_append]⟩
    next => exact ih es

/-- After the defaults are filled in, every property with a default has an entry. -/
theorem fillDefaults_hasKey {name : String} {p : Schema} {d : Json} (hp : (name, p) ∈ props)
    (hd : (p.resolve t).default = some d) (es : List (Value × Value)) :
    HasKey (fillDefaults props t es) name := by
  induction props generalizing es with
  | nil => simp at hp
  | cons q qs ih =>
    obtain ⟨n, q⟩ := q
    rw [fillDefaults_cons]
    rcases List.mem_cons.1 hp with heq | hmem
    · obtain ⟨rfl, rfl⟩ := Prod.mk.inj heq
      -- the step for `name` leaves it with an entry, and later steps only append
      have hstep : HasKey (if es.any (fun e => e.1.equal (.str name)) then es
          else es ++ [(.str name, Value.ofJson d)]) name := by
        split
        · obtain ⟨⟨k, x⟩, he, hk⟩ := List.any_eq_true.1 ‹_›
          rw [Value.equal_str_iff] at hk
          exact ⟨x, hk ▸ he⟩
        · exact ⟨Value.ofJson d, by simp⟩
      obtain ⟨extra, h⟩ := fillDefaults_eq_append qs t
        (if es.any (fun e => e.1.equal (.str name)) then es else es ++ [(.str name, Value.ofJson d)])
      obtain ⟨x, hx⟩ := hstep
      simp only [hd, h]
      exact ⟨x, List.mem_append_left _ hx⟩
    · exact ih hmem _

theorem checkEach_fst {α : Type} (c : α → α × List String) (xs : List α) :
    (checkEach c xs).1 = xs.map fun x => (c x).1 := by
  induction xs with
  | nil => rfl
  | cons x xs ih => simp [checkEach, ih]

theorem checkEach_snd {α : Type} (c : α → α × List String) (xs : List α) :
    (checkEach c xs).2 = (xs.map fun x => (c x).2).flatten := by
  induction xs with
  | nil => rfl
  | cons x xs ih => simp [checkEach, ih]

theorem checkEntries_fst (es : List (Value × Value)) :
    (checkEach (checkKeyed chk props) es).1 =
      es.map fun e => (e.1, (checkEntry chk props e.1 e.2).1) :=
  checkEach_fst _ es

theorem checkEntries_snd (es : List (Value × Value)) :
    (checkEach (checkKeyed chk props) es).2 =
      (es.map fun e => (checkEntry chk props e.1 e.2).2).flatten :=
  checkEach_snd _ es

theorem checkEntry_grows (hchk : Grows chk) (k w : Value) :
    Extends w (checkEntry chk props k w).1 := by
  unfold checkEntry
  split
  · split
    · exact hchk _ _
    · exact .refl _
  · exact .refl _

theorem checkProperties_grows (hchk : Grows chk) (s : Schema) (v : Value) :
    Extends v (checkProperties chk t s v).1 := by
  unfold checkProperties
  split
  next props es _ =>
    obtain ⟨extra, hfill⟩ := fillDefaults_eq_append props t es
    simp only [checkEntries_fst, hfill, List.map_append]
    exact .dict (fun k w => (checkEntry chk props k w).1) _ fun k x _ => checkEntry_grows hchk k x
  next => exact .refl _

theorem checkItemsOf_grows (hchk : Grows chk) (s : Schema) (v : Value) :
    Extends v (checkItemsOf chk s v).1 := by
  unfold checkItemsOf
  split
  next q xs _ =>
    simp only [checkEach_fst]
    exact .list _ fun x _ => hchk q x
  next => exact .refl _

theorem checkAnyOf_grows (hchk : Grows chk) (alts : List Schema) (v : Value) (seen : List String) :
    Extends v (checkAnyOf chk alts v seen).1 := by
  induction alts generalizing v seen with
  | nil => exact .refl _
  | cons alt alts ih =>
    simp only [checkAnyOf]
    split
    · exact hchk alt v
    · exact (hchk alt v).trans (ih _ _)

theorem checkAlternatives_grows (hchk : Grows chk) (s : Schema) (v : Value) :
    Extends v (checkAlternatives chk s v).1 := by
  unfold checkAlternatives
  split
  · exact checkAnyOf_grows hchk _ _ _
  · exact .refl _

/-- The violations of `anyOf` are none or the one message that no alternative holds: those of
    the alternatives tried are not reported. -/
theorem checkAnyOf_errors (alts : List Schema) (v : Value) (seen : List String) :
    (checkAnyOf chk alts v seen).2 = [] ∨
      ∃ w : Value, (checkAnyOf chk alts v seen).2 = [w.repr ++ " is not valid under any of the given schemas"] := by
  induction alts generalizing v seen with
  | nil => exact .inr ⟨v, rfl⟩
  | cons alt alts ih =>
    simp only [checkAnyOf]
    split
    · exact .inl rfl
    · exact ih _ _

theorem checkProperties_of_not_dict {s : Schema} {v : Value} (hv : ∀ es, v ≠ .dict es) :
    checkProperties chk t s v = (v, []) := by
  unfold checkProperties
  split <;> simp_all

theorem checkItemsOf_of_not_list {s : Schema} {v : Value} (hv : ∀ xs, v ≠ .list xs) :
    checkItemsOf chk s v = (v, []) := by
  unfold checkItemsOf
  split <;> simp_all

theorem checkProperties_dict {s : Schema} (hprops : s.properties = some props)
    (es : List (Value × Value)) :
    checkProperties chk t s (.dict es) =
      (.dict (checkEach (checkKeyed chk props) (fillDefaults props t es)).1,
        (checkEach (checkKeyed chk props) (fillDefaults props t es)).2) := by
  simp [checkProperties, hprops]

theorem checkProperties_hasKey {s : Schema} {es : List (Value × Value)} {name : String}
    {p : Schema} {d : Json} (hprops : s.properties = some props) (hp : (name, p) ∈ props)
    (hd : (p.resolve t).default = some d) :
    ∃ fs, (checkProperties chk t s (.dict es)).1 = .dict fs ∧ HasKey fs name := by
  obtain ⟨x, hx⟩ := fillDefaults_hasKey hp hd es
  rw [checkProperties_dict hprops, checkEntries_fst]
  exact ⟨_, rfl, _, List.mem_map.2 ⟨(.str name, x), hx, rfl⟩⟩

theorem checkEntry_undeclared {k w : Value} (hk : ∀ n, k = .str n → n ∉ props.map Prod.fst) :
    (checkEntry chk props k w).2 = ["Additional properties are not allowed : " ++ k.repr] := by
  unfold checkEntry
  split
  next name =>
    have hnone : props.find? (fun p => p.1 == name) = none := by
      rw [List.find?_eq_none]
      intro p hp heq
      exact hk name rfl (List.mem_map.2 ⟨p, hp, by simpa using heq⟩)
    simp [hnone]
  next => rfl

/-- For the schemas that `ok` allows, `chk` returns what it returned without a violation again,
    unchanged and without a violation. -/
def Settles (chk : Schema → Value → Value × List String) (ok : Schema → Prop) : Prop :=
  ∀ s v, ok s → (chk s v).2 = [] → chk s (chk s v).1 = ((chk s v).1, [])

/-- An entry checked without a violation is declared, and is checked by its property's schema. -/
theorem checkEntry_declared {k w : Value} (h : (checkEntry chk props k w).2 = []) :
    ∃ name p, k = .str name ∧ p ∈ props ∧ ∀ w', checkEntry chk props k w' = chk p.2 w' := by
  unfold checkEntry at h
  split at h
  next name =>
    split at h
    next n q hfind =>
      exact ⟨name, (n, q), rfl, List.mem_of_find?_eq_some hfind, fun w' => by simp [checkEntry, hfind]⟩
    next => simp at h
  next => simp at h

theorem checkEntry_settles (hchk : Settles chk (· ∈ props.map Prod.snd)) {k w : Value}
    (h : (checkEntry chk props k w).2 = []) :
    checkEntry chk props k (checkEntry chk props k w).1 = ((checkEntry chk props k w).1, []) := by
  obtain ⟨name, p, rfl, hp, hchecked⟩ := checkEntry_declared h
  rw [hchecked, hchecked]
  rw [hchecked] at h
  exact hchk p.2 w (List.mem_map_of_mem hp) h

theorem checkKeyed_settles (hchk : Settles chk (· ∈ props.map Prod.snd)) {e : Value × Value}
    (h : (checkKeyed chk props e).2 = []) :
    checkKeyed chk props (checkKeyed chk props e).1 = ((checkKeyed chk props e).1, []) := by
  simp only [checkKeyed] at h ⊢
  rw [checkEntry_settles hchk h]

/-- Checking each of a list settles when checking one does. -/
theorem checkEach_settles {α : Type} {c : α → α × List String}
    (hc : ∀ x, (c x).2 = [] → c (c x).1 = ((c x).1, [])) {xs : List α}
    (h : (checkEach c xs).2 = []) : checkEach c (checkEach c xs).1 = ((checkEach c xs).1, []) := by
  have hok : ∀ x ∈ xs, (c x).2 = [] := by
    intro x hx
    rw [checkEach_snd, List.flatten_eq_nil_iff] at h
    exact h _ (List.mem_map_of_mem hx)
  refine Prod.ext ?_ ?_
  · simp only [checkEach_fst, List.map_map]
    exact List.map_congr_left fun x hx => by simp [hc x (hok x hx)]
  · simp only [checkEach_snd, checkEach_fst, List.map_map, List.flatten_eq_nil_iff]
    simp only [List.mem_map, Function.comp_apply, forall_exists_index, and_imp]
    intro l x hx hl
    rw [← hl, hc x (hok x hx)]

/-- Filling in defaults adds nothing when every property with a default has an entry. -/
theorem fillDefaults_of_hasKey {es : List (Value × Value)}
    (h : ∀ name p, (name, p) ∈ props → (p.resolve t).default.isSome → HasKey es name) :
    fillDefaults props t es = es := by
  induction props with
  | nil => rfl
  | cons q qs ih =>
    obtain ⟨n, q⟩ := q
    have hrest := ih fun name p hp => h name p (List.mem_cons_of_mem _ hp)
    rw [fillDefaults_cons]
    split
    next d hd =>
      obtain ⟨x, hx⟩ := h n q List.mem_cons_self (by simp [hd])
      have hany : es.any (fun e => e.1.equal (.str n)) = true :=
        List.any_eq_true.2 ⟨_, hx, by simp [Value.equal]⟩
      rw [if_pos hany, hrest]
    next => exact hrest

theorem checkProperties_settles {s : Schema} {v : Value}
    (hchk : ∀ props, s.properties = some props → Settles chk (· ∈ props.map Prod.snd))
    (h : (checkProperties chk t s v).2 = []) :
    checkProperties chk t s (checkProperties chk t s v).1 = ((checkProperties chk t s v).1, []) := by
  cases hprops : s.properties with
  | none => simp [checkProperties, hprops]
  | some props =>
    by_cases hv : ∃ es, v = .dict es
    · obtain ⟨es, rfl⟩ := hv
      rw [checkProperties_dict hprops] at h ⊢
      rw [checkProperties_dict hprops]
      -- the entries already hold every default, so the second check fills in nothing
      have hfill : fillDefaults props t (checkEach (checkKeyed chk props) (fillDefaults props t es)).1 =
          (checkEach (checkKeyed chk props) (fillDefaults props t es)).1 := by
        refine fillDefaults_of_hasKey fun name p hp hd => ?_
        obtain ⟨d, hd⟩ := Option.isSome_iff_exists.1 hd
        obtain ⟨x, hx⟩ := fillDefaults_hasKey hp hd es
        rw [checkEntries_fst]
        exact ⟨_, List.mem_map.2 ⟨(.str name, x), hx, rfl⟩⟩
      rw [hfill, checkEach_settles (fun _ he => checkKeyed_settles (hchk props hprops) he) h]
    · have hv' : ∀ es, v ≠ .dict es := fun es h => hv ⟨es, h⟩
      rw [checkProperties_of_not_dict hv', checkProperties_of_not_dict hv']

theorem checkItemsOf_list {s q : Schema} (hq : s.items = some q) (xs : List Value) :
    checkItemsOf chk s (.list xs) = (.list (checkEach (chk q) xs).1, (checkEach (chk q) xs).2) := by
  simp [checkItemsOf, hq]

variable (chk) in
/-- A declared entry of an object is checked by its property's schema: what that check returns
    stands under the entry's key, and its violations are the object's. -/
theorem checkProperties_entry {s : Schema} {es : List (Value × Value)} {name n : String}
    {p : Schema} {w : Value} (hprops : s.properties = some props)
    (hfind : props.find? (fun q => q.1 == name) = some (n, p))
    (hentry : (.str name, w) ∈ fillDefaults props t es) :
    (∃ fs, (checkProperties chk t s (.dict es)).1 = .dict fs ∧ (.str name, (chk p w).1) ∈ fs) ∧
      (chk p w).2 ⊆ (checkProperties chk t s (.dict es)).2 := by
  have hcheck : checkEntry chk props (.str name) w = chk p w := by simp [checkEntry, hfind]
  rw [checkProperties_dict hprops, checkEntries_fst, checkEntries_snd]
  refine ⟨⟨_, rfl, List.mem_map.2 ⟨(.str name, w), hentry, by rw [hcheck]⟩⟩, fun e he => ?_⟩
  exact List.mem_flatten.2 ⟨_, List.mem_map.2 ⟨(.str name, w), hentry, rfl⟩, hcheck ▸ he⟩

variable (chk) in
/-- An item of a list is checked by the `items` schema: what that check returns stands at the
    item's place, and its violations are the list's. -/
theorem checkItemsOf_item {s q : Schema} {xs : List Value} {i : Nat} {x : Value}
    (hq : s.items = some q) (hx : xs[i]? = some x) :
    (∃ ys, (checkItemsOf chk s (.list xs)).1 = .list ys ∧ ys[i]? = some (chk q x).1) ∧
      (chk q x).2 ⊆ (checkItemsOf chk s (.list xs)).2 := by
  rw [checkItemsOf_list hq, checkEach_fst, checkEach_snd]
  refine ⟨⟨_, rfl, by simp [hx]⟩, fun e he => ?_⟩
  exact List.mem_flatten.2 ⟨_, List.mem_map.2 ⟨x, List.mem_of_getElem? hx, rfl⟩, he⟩

theorem checkItemsOf_settles {s : Schema} {v : Value}
    (hchk : ∀ q, s.items = some q → Settles chk (· = q))
    (h : (checkItemsOf chk s v).2 = []) :
    checkItemsOf chk s (checkItemsOf chk s v).1 = ((checkItemsOf chk s v).1, []) := by
  cases hitems : s.items with
  | none => simp [checkItemsOf, hitems]
  | some q =>
    by_cases hv : ∃ xs, v = .list xs
    · obtain ⟨xs, rfl⟩ := hv
      rw [checkItemsOf_list hitems] at h ⊢
      rw [checkItemsOf_list hitems, checkEach_settles (fun w hw => hchk q hitems q w rfl hw) h]
    · have hv' : ∀ xs, v ≠ .list xs := fun xs h => hv ⟨xs, h⟩
      rw [checkItemsOf_of_not_list hv', checkItemsOf_of_not_list hv']

theorem hasType_of_extends {v w : Value} (h : Extends v w) : hasType w = hasType v := by
  cases h with
  | refl => rfl
  | dict => funext ty; unfold hasType; split <;> rfl
  | list => funext ty; unfold hasType; split <;> rfl

/-- The keywords that only read a value find nothing in an extension of a value in which they
    found nothing, when `enum`, which compares whole values, sees the same value. -/
theorem keywordErrors_of_extends {s : Schema} {v w : Value} (hvw : Extends v w)
    (henum : s.enum.isSome → w = v) (h : keywordErrors s v = []) : keywordErrors s w = [] := by
  cases he : s.enum with
  | some _ => rw [henum (by simp [he])]; exact h
  | none =>
    have hty := hasType_of_extends hvw
    cases hvw with
    | refl => exact h
    | @dict es f extra grow =>
      cases hr : s.required <;> cases hm : s.maxLength <;> cases hmin : s.minimum <;>
        simp_all [keywordErrors, belowMinimum, List.filterMap_eq_nil_iff]
    | list f grow =>
      cases hr : s.required <;> cases hm : s.maxLength <;> cases hmin : s.minimum <;>
        simp_all [keywordErrors, belowMinimum]

end Steps

theorem check_succ_fst (t : SchemaTable) (fuel : Nat) (s : Schema) (v : Value) :
    (check t (fuel + 1) s v).1 = (checkAlternatives (check t fuel) (s.resolve t)
      (checkItemsOf (check t fuel) (s.resolve t)
        (checkProperties (check t fuel) t (s.resolve t) v).1).1).1 := rfl

theorem check_succ_snd (t : SchemaTable) (fuel : Nat) (s : Schema) (v : Value) :
    (check t (fuel + 1) s v).2 = keywordErrors (s.resolve t) v ++
      (checkProperties (check t fuel) t (s.resolve t) v).2 ++
      (checkItemsOf (check t fuel) (s.resolve t) (checkProperties (check t fuel) t (s.resolve t) v).1).2 ++
      (checkAlternatives (check t fuel) (s.resolve t) (checkItemsOf (check t fuel) (s.resolve t)
        (checkProperties (check t fuel) t (s.resolve t) v).1).1).2 := rfl

/-- Checking returns an extension of the value checked. -/
theorem check_extends (t : SchemaTable) (fuel : Nat) : Grows (check t fuel) := by
  induction fuel with
  | zero => exact fun _ v => .refl v
  | succ fuel ih =>
    intro s v
    simp only [check]
    exact ((checkProperties_grows ih _ _).trans (checkItemsOf_grows ih _ _)).trans
      (checkAlternatives_grows ih _ _)

/-- The rest of a check extends what its `properties` step returns, and reports what that step
    reports. -/
theorem check_succ_of_properties (t : SchemaTable) (fuel : Nat) (s : Schema) (v : Value) :
    Extends (checkProperties (check t fuel) t (s.resolve t) v).1 (check t (fuel + 1) s v).1 ∧
      (checkProperties (check t fuel) t (s.resolve t) v).2 ⊆ (check t (fuel + 1) s v).2 := by
  refine ⟨?_, fun e he => ?_⟩
  · rw [check_succ_fst]
    exact (checkItemsOf_grows (check_extends t fuel) _ _).trans
      (checkAlternatives_grows (check_extends t fuel) _ _)
  · rw [check_succ_snd]
    simp [he]

/-- On a list the `properties` step does nothing, so the rest of a check extends what its `items`
    step returns, and reports what that step reports. -/
theorem check_succ_of_items (t : SchemaTable) (fuel : Nat) (s : Schema) (xs : List Value) :
    Extends (checkItemsOf (check t fuel) (s.resolve t) (.list xs)).1 (check t (fuel + 1) s (.list xs)).1 ∧
      (checkItemsOf (check t fuel) (s.resolve t) (.list xs)).2 ⊆ (check t (fuel + 1) s (.list xs)).2 := by
  have hprops : checkProperties (check t fuel) t (s.resolve t) (.list xs) = (.list xs, []) :=
    checkProperties_of_not_dict (by simp)
  refine ⟨?_, fun e he => ?_⟩
  · rw [check_succ_fst, hprops]
    exact checkAlternatives_grows (check_extends t fuel) _ _
  · rw [check_succ_snd, hprops]
    simp [he]

/-- After a node with `properties` is checked, each property with a default has an entry. -/
theorem check_hasKey_default {t : SchemaTable} {fuel : Nat} {s : Schema}
    {props : List (String × Schema)} {es : List (Value × Value)} {name : String} {p : Schema}
    {d : Json} (hprops : (s.resolve t).properties = some props) (hp : (name, p) ∈ props)
    (hd : (p.resolve t).default = some d) :
    ∃ fs, (check t (fuel + 1) s (.dict es)).1 = .dict fs ∧ HasKey fs name := by
  obtain ⟨fs, hfs, hk⟩ : ∃ fs, (checkProperties (check t fuel) t (s.resolve t) (.dict es)).1 =
      .dict fs ∧ HasKey fs name := checkProperties_hasKey hprops hp hd
  have hgrow := (check_succ_of_properties t fuel s (.dict es)).1
  rw [hfs] at hgrow
  exact hgrow.hasKey hk

/-- A node with `properties` reports each entry whose key it does not declare. -/
theorem check_reports_undeclared {t : SchemaTable} {fuel : Nat} {s : Schema}
    {props : List (String × Schema)} {es : List (Value × Value)} {k x : Value}
    (hprops : (s.resolve t).properties = some props) (hx : (k, x) ∈ es)
    (hk : ∀ n, k = .str n → n ∉ props.map Prod.fst) :
    ("Additional properties are not allowed : " ++ k.repr) ∈ (check t (fuel + 1) s (.dict es)).2 := by
  obtain ⟨extra, hfill⟩ := fillDefaults_eq_append props t es
  apply (check_succ_of_properties t fuel s (.dict es)).2
  rw [checkProperties_dict hprops, checkEntries_snd, hfill]
  exact List.mem_flatten.2 ⟨_, List.mem_map.2 ⟨(k, x), List.mem_append_left _ hx, rfl⟩,
    by rw [checkEntry_undeclared hk]; exact List.mem_singleton_self _⟩

/-- The nested checks of a check: `Visits t fuel s v path fuel' q u` says that checking `v` against
    `s` at depth `fuel` checks `u` against `q` at depth `fuel'`, at the place `path` leads to. An
    entry is checked after its object's defaults are filled in, so the defaults filled there are
    visited too. -/
inductive Visits (t : SchemaTable) :
    Nat → Schema → Value → List Descent → Nat → Schema → Value → Prop
  | here (fuel : Nat) (s : Schema) (v : Value) : Visits t fuel s v [] fuel s v
  | property {fuel : Nat} {s : Schema} {props : List (String × Schema)} {es : List (Value × Value)}
      {name n : String} {p : Schema} {w : Value} {path : List Descent} {fuel' : Nat} {q : Schema}
      {u : Value} (hprops : (s.resolve t).properties = some props)
      (hfind : props.find? (fun r => r.1 == name) = some (n, p))
      (hentry : (.str name, w) ∈ fillDefaults props t es)
      (next : Visits t fuel p w path fuel' q u) :
      Visits t (fuel + 1) s (.dict es) (.key name :: path) fuel' q u
  | item {fuel : Nat} {s p : Schema} {xs : List Value} {i : Nat} {x : Value} {path : List Descent}
      {fuel' : Nat} {q : Schema} {u : Value} (hitems : (s.resolve t).items = some p)
      (hx : xs[i]? = some x) (next : Visits t fuel p x path fuel' q u) :
      Visits t (fuel + 1) s (.list xs) (.item i :: path) fuel' q u

/-- What a nested check returns stands, extended, where its path leads in what the whole check
    returns, and its violations are the whole check's. -/
theorem Visits.checked {t : SchemaTable} {fuel fuel' : Nat} {s q : Schema} {v u : Value}
    {path : List Descent} (h : Visits t fuel s v path fuel' q u) :
    (∃ w, Inside path (check t fuel s v).1 w ∧ Extends (check t fuel' q u).1 w) ∧
      (check t fuel' q u).2 ⊆ (check t fuel s v).2 := by
  induction h with
  | here => exact ⟨⟨_, .here _, .refl _⟩, List.Subset.refl _⟩
  | @property fuel s props es name n p w path fuel' q u hprops hfind hentry _ ih =>
    obtain ⟨⟨w1, hin, hgrow⟩, hsub⟩ := ih
    obtain ⟨⟨fs, hfs, hmem⟩, hsub'⟩ := checkProperties_entry (check t fuel) hprops hfind hentry
    obtain ⟨hext, hsub''⟩ := check_succ_of_properties t fuel s (.dict es)
    -- the entry stands in the object that the `properties` step returns, which the rest extends
    rw [hfs] at hext
    obtain ⟨w2, hin2, hgrow2⟩ := hext.inside (.key hmem hin)
    exact ⟨⟨w2, hin2, hgrow.trans hgrow2⟩,
      List.Subset.trans hsub (List.Subset.trans hsub' hsub'')⟩
  | @item fuel s p xs i x path fuel' q u hitems hx _ ih =>
    obtain ⟨⟨w1, hin, hgrow⟩, hsub⟩ := ih
    obtain ⟨⟨ys, hys, hget⟩, hsub'⟩ := checkItemsOf_item (check t fuel) hitems hx
    obtain ⟨hext, hsub''⟩ := check_succ_of_items t fuel s xs
    rw [hys] at hext
    obtain ⟨w2, hin2, hgrow2⟩ := hext.inside (.item hget hin)
    exact ⟨⟨w2, hin2, hgrow.trans hgrow2⟩,
      List.Subset.trans hsub (List.Subset.trans hsub' hsub'')⟩

/-- Whether every node that a check of depth `fuel` reaches has no `anyOf`, and `enum` only where
    it has neither `properties` nor `items`. -/
def plainAt (t : SchemaTable) : Nat → Schema → Bool
  | 0, _ => true
  | fuel + 1, s0 =>
    let s := s0.resolve t
    s.anyOf.isNone && (s.enum.isNone || s.properties.isNone && s.items.isNone) &&
      (s.properties.getD []).all (fun p => plainAt t fuel p.2) && s.items.all (plainAt t fuel)

theorem Extends.not_dict {v w : Value} (h : Extends v w) (hv : ∀ es, v ≠ .dict es) :
    ∀ es, w ≠ .dict es := by
  cases h with
  | refl => exact hv
  | dict => exact absurd rfl (hv _)
  | list => simp

/-- On the nodes where it is plain, a check gives back unchanged and without a violation what it
    returned without one. -/
theorem check_settles (t : SchemaTable) (fuel : Nat) :
    Settles (check t fuel) (plainAt t fuel · = true) := by
  induction fuel with
  | zero => intro s v _ _; rfl
  | succ fuel ih =>
    intro s v hplain h
    simp only [plainAt, Bool.and_eq_true, Bool.or_eq_true, Option.isNone_iff_eq_none,
      List.all_eq_true] at hplain
    obtain ⟨⟨⟨hany, henum⟩, hprops⟩, hitems⟩ := hplain
    have hP : ∀ props, (s.resolve t).properties = some props →
        Settles (check t fuel) (· ∈ props.map Prod.snd) := by
      intro props hp q w hq hw
      obtain ⟨p, hmem, rfl⟩ := List.mem_map.1 hq
      exact ih p.2 w (hprops p (by simp [hp, hmem])) hw
    have hI : ∀ q, (s.resolve t).items = some q → Settles (check t fuel) (· = q) := by
      intro q hq q' w hq' hw
      subst hq'
      exact ih q' w (by simpa [hq] using hitems) hw
    have hA : ∀ w, checkAlternatives (check t fuel) (s.resolve t) w = (w, []) := by
      intro w
      simp [checkAlternatives, hany]
    rw [check_succ_snd, hA] at h
    simp only [List.append_nil, List.append_eq_nil_iff] at h
    obtain ⟨⟨hkw, hp⟩, hi⟩ := h
    rw [check_succ_fst, hA]
    -- the value after the `properties` step and the `items` step
    generalize hv1 : (checkProperties (check t fuel) t (s.resolve t) v).1 = v1 at hi
    generalize hw : (checkItemsOf (check t fuel) (s.resolve t) v1).1 = w
    have hgrow : Extends v w := hw ▸ hv1 ▸
      (checkProperties_grows (check_extends t fuel) _ _).trans (checkItemsOf_grows (check_extends t fuel) _ _)
    -- each step gives the value back unchanged
    have hsteps : checkProperties (check t fuel) t (s.resolve t) w = (w, []) ∧
        checkItemsOf (check t fuel) (s.resolve t) w = (w, []) := by
      by_cases hv : ∃ es, v = .dict es
      · obtain ⟨es, rfl⟩ := hv
        have hnl : ∀ xs, v1 ≠ .list xs := by
          have hgrow : Extends (.dict es) (checkProperties (check t fuel) t (s.resolve t) (.dict es)).1 :=
            checkProperties_grows (check_extends t fuel) _ _
          rw [hv1] at hgrow
          cases hgrow <;> simp
        rw [checkItemsOf_of_not_list hnl] at hw
        subst hw hv1
        exact ⟨checkProperties_settles hP hp, checkItemsOf_of_not_list hnl⟩
      · have hnd : ∀ es, v ≠ .dict es := fun es h => hv ⟨es, h⟩
        rw [checkProperties_of_not_dict hnd] at hv1
        subst hv1 hw
        exact ⟨checkProperties_of_not_dict (hgrow.not_dict hnd), checkItemsOf_settles hI hi⟩
    -- `enum` sees the value unchanged: a node with `enum` has no step that changes it
    have hsame : (s.resolve t).enum.isSome → w = v := by
      intro he
      obtain ⟨hnp, hni⟩ := henum.resolve_left (Option.isSome_iff_ne_none.1 he)
      subst hw hv1
      simp [checkProperties, checkItemsOf, hnp, hni]
    have hkw' := keywordErrors_of_extends hgrow hsame hkw
    refine Prod.ext ?_ ?_
    · rw [check_succ_fst, hsteps.1, hsteps.2, hA]
    · rw [check_succ_snd, hsteps.1, hsteps.2, hA, hkw']
      rfl

theorem validate_eq_ok_iff {t : SchemaTable} {s : Schema} {v v' : Value} :
    validate t s v = .ok v' ↔ (check t 1000 s v).1 = v' ∧ (check t 1000 s v).2 = [] := by
  rcases h : check t 1000 s v with ⟨w, _ | ⟨e, rest⟩⟩ <;> simp [validate, h]

theorem validate_eq_error_iff {t : SchemaTable} {s : Schema} {v : Value} {e : String} :
    validate t s v = .error e ↔ ∃ rest, (check t 1000 s v).2 = e :: rest := by
  rcases h : check t 1000 s v with ⟨w, _ | ⟨e', rest⟩⟩ <;> simp [validate, h]

/-- Checking a node fills defaults monotonically and strictly. The value comes back extended; at
    every object node that the check visits through `properties` and `items` and checks in its
    turn, every property with a default has an entry in what the check returns at that place, and
    every entry the node does not declare is reported; and where the schema is plain, a value
    checked without a violation is checked again unchanged and without one. -/
theorem check_fills_defaults_strictly (t : SchemaTable) (fuel : Nat) (s : Schema) (v : Value) :
    Extends v (check t (fuel + 1) s v).1 ∧
    (∀ path fuel' q u props es, Visits t (fuel + 1) s v path (fuel' + 1) q u →
      (q.resolve t).properties = some props → u = .dict es →
      (∀ name p d, (name, p) ∈ props → (p.resolve t).default = some d →
        ∃ fs, Inside path (check t (fuel + 1) s v).1 (.dict fs) ∧ HasKey fs name) ∧
      (∀ k x, (k, x) ∈ es → (∀ n, k = .str n → n ∉ props.map Prod.fst) →
        ("Additional properties are not allowed : " ++ k.repr) ∈ (check t (fuel + 1) s v).2)) ∧
    (plainAt t (fuel + 1) s = true → (check t (fuel + 1) s v).2 = [] →
      check t (fuel + 1) s (check t (fuel + 1) s v).1 = ((check t (fuel + 1) s v).1, [])) := by
  refine ⟨check_extends t (fuel + 1) s v, ?_, check_settles t (fuel + 1) s v⟩
  rintro path fuel' q u props es hvisit hprops rfl
  obtain ⟨⟨w, hin, hgrow⟩, hsub⟩ := hvisit.checked
  refine ⟨fun name p d hp hd => ?_, fun k x hx hk => hsub (check_reports_undeclared hprops hx hk)⟩
  -- the nested check fills the default in, and the rest of the check keeps the key
  obtain ⟨fs, hfs, hkey⟩ : ∃ fs, (check t (fuel' + 1) q (.dict es)).1 = .dict fs ∧ HasKey fs name :=
    check_hasKey_default hprops hp hd
  rw [hfs] at hgrow
  obtain ⟨gs, rfl, hkey'⟩ := hgrow.hasKey hkey
  exact ⟨gs, hin, hkey'⟩

def noDefinitions : SchemaTable := ⟨fun _ => none⟩

/-- Declares `c`, whose own property `d` defaults to `5`. -/
def fillsInner : Schema :=
  { properties := some [("c", { properties := some [("d", { default := some (.int 5) })] })] }

/-- Declares `k`, and `c` with the empty object as its default. -/
def fillsOuter : Schema := { properties := some [("k", {}), ("c", { default := some (.obj []) })] }

def fillsEither : Schema := { anyOf := some [fillsInner, fillsOuter] }

/-- Inside `anyOf` an undeclared entry is reported only through `anyOf`'s own message, and an
    alternative that fails still fills its defaults: validating the filled value again fills
    `d` into `c`. -/
theorem anyOf_hides_undeclared_and_refills :
    validate noDefinitions fillsInner (.dict [(.str "k", .int 1)]) =
      .error ("Additional properties are not allowed : " ++ (Value.str "k").repr) ∧
    validate noDefinitions { anyOf := some [fillsInner] } (.dict [(.str "k", .int 1)]) =
      .error ((Value.dict [(.str "k", .int 1)]).repr ++ " is not valid under any of the given schemas") ∧
    validate noDefinitions fillsEither (.dict [(.str "k", .int 1)]) =
      .ok (.dict [(.str "k", .int 1), (.str "c", .dict [])]) ∧
    validate noDefinitions fillsEither (.dict [(.str "k", .int 1), (.str "c", .dict [])]) =
      .ok (.dict [(.str "k", .int 1), (.str "c", .dict [(.str "d", .int 5)])]) := by
  simp only [validate_eq_ok_iff, validate_eq_error_iff, check_succ_fst, check_succ_snd]
  simp [checkProperties, checkItemsOf, checkAlternatives, checkAnyOf, checkEach, checkKeyed, checkEntry,
    fillDefaults, keywordErrors, fillsEither, fillsInner, fillsOuter, noDefinitions, Schema.resolve,
    Value.equal, Value.ofJson, check_succ_fst, check_succ_snd]

end Blueprints.Schema
