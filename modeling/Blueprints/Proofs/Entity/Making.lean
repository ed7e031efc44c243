import Blueprints.Entity.Object
import Blueprints.Proofs.Build

namespace Blueprints

open Build

/-- The attributes `acc` with `key` set to `v`: in its place when it is there, else last. This is
    how a class keeps its own attributes and how making a class gathers the ones it is given. -/
def setIn (acc : List (String × Value)) (key : String) (v : Value) : List (String × Value) :=
  if (acc.any fun y => y.fst == key) = true then
    acc.map fun y => if (y.fst == key) = true then (y.fst, v) else (y.fst, y.snd)
  else acc ++ [(key, v)]

theorem find?_setIn_self {acc : List (String × Value)} {key : String}
    (hnone : acc.find? (·.1 == key) = none) (v : Value) :
    (setIn acc key v).find? (·.1 == key) = some (key, v) := by
  have hany : (acc.any fun y => y.fst == key) = false := by
    rw [List.find?_eq_none] at hnone
    simpa using hnone
  simp [setIn, hany, List.find?_append, hnone]

/-- Setting one key leaves the entry found under any other as it was. -/
theorem find?_setIn_of_ne (acc : List (String × Value)) {key key' : String} (hne : key' ≠ key)
    (v : Value) : (setIn acc key' v).find? (·.1 == key) = acc.find? (·.1 == key) := by
  unfold setIn
  split
  · rw [List.find?_map]
    -- the replaced entries are not under `key`, and no entry changes its key
    have hpred : ((fun y : String × Value => y.1 == key) ∘
        fun y : String × Value => if (y.fst == key') = true then (y.fst, v) else (y.fst, y.snd)) =
        fun y => y.1 == key := by
      funext y
      simp only [Function.comp]
      split <;> rfl
    rw [hpred]
    cases hfind : acc.find? (fun y => y.1 == key) with
    | none => rfl
    | some y =>
      obtain ⟨a, b⟩ := y
      have ha : a = key := by simpa using List.find?_some hfind
      subst ha
      simp [Ne.symm hne]
  · simp [List.find?_append, hne]

namespace Entity

@[simp] theorem kind_setAttr (e : Entity) (key : String) (v : Value) :
    (e.setAttr key v).kind = e.kind := by
  unfold setAttr
  split <;> rfl

theorem ownAttr?_mk (k : Kind) (name : String) (doc : Option String)
    (attrs : List (String × Value)) (bases : List Entity) (key : String) :
    (Entity.mk k name doc attrs bases).ownAttr? key = (attrs.find? (·.1 == key)).map (·.2) := rfl

theorem setAttr_eq (e : Entity) (key : String) (v : Value) :
    e.setAttr key v = e.withAttrs (setIn e.attrs key v) := by
  unfold setAttr setIn
  split <;> rfl

theorem ownAttr?_withAttrs (e : Entity) (attrs : List (String × Value)) (key : String) :
    (e.withAttrs attrs).ownAttr? key = (attrs.find? (·.1 == key)).map (·.2) := rfl

theorem ownAttr?_setAttr_self (e : Entity) (key : String) (v : Value) :
    (e.setAttr key v).ownAttr? key = some v := by
  rw [setAttr_eq, ownAttr?_withAttrs]
  by_cases hany : (e.attrs.any fun y => y.fst == key) = true
  · -- the key is there, and the first entry under it now holds `v`
    obtain ⟨y, hy, hyk⟩ := List.any_eq_true.1 hany
    have hsome : (e.attrs.find? (·.1 == key)).isSome := List.find?_isSome.2 ⟨y, hy, hyk⟩
    obtain ⟨z, hz⟩ := Option.isSome_iff_exists.1 hsome
    have hzk : z.1 = key := by simpa using List.find?_some hz
    have hpred : ((fun y : String × Value => y.1 == key) ∘
        fun y : String × Value => if (y.fst == key) = true then (y.fst, v) else (y.fst, y.snd)) =
        fun y => y.1 == key := by
      funext y
      simp only [Function.comp]
      split <;> rfl
    simp only [setIn, hany, if_true, List.find?_map, hpred, hz]
    simp [hzk]
  · have hnone : e.attrs.find? (·.1 == key) = none := by
      rw [List.find?_eq_none]
      intro y hy hyk
      exact hany (List.any_eq_true.2 ⟨y, hy, hyk⟩)
    rw [find?_setIn_self hnone]
    rfl

theorem ownAttr?_setAttr_of_ne (e : Entity) {key key' : String} (hne : key' ≠ key) (v : Value) :
    (e.setAttr key' v).ownAttr? key = e.ownAttr? key := by
  rw [setAttr_eq, ownAttr?_withAttrs, find?_setIn_of_ne _ hne]
  rfl

/-- A class finds its own attributes before those of the classes it derives from. -/
theorem lookup?_of_ownAttr? {e : Entity} {key : String} {v : Value}
    (h : e.ownAttr? key = some v) : e.lookup? key = some v := by
  obtain ⟨k, name, doc, attrs, bases⟩ := e
  simp [lookup?, lineage, h]

theorem hasAttr_of_ownAttr? {e : Entity} {key : String} {v : Value}
    (h : e.ownAttr? key = some v) : e.hasAttr key = true := by
  simp [hasAttr, lookup?_of_ownAttr? h]

end Entity

theorem runs_kindSpecs {k : Kind} {s s' : Session} {specs : List AttrSpec} :
    Runs (kindSpecs k) s specs s' ↔ specs = k.attrSpecs s.version ∧ s' = s := by
  constructor
  · intro h
    obtain ⟨s₁, s₂, h₁, h⟩ := runs_bind.1 h
    obtain ⟨rfl, rfl⟩ := runs_get.1 h₁
    obtain ⟨rfl, rfl⟩ := runs_pure.1 h
    exact ⟨rfl, rfl⟩
  · rintro ⟨rfl, rfl⟩
    exact runs_bind.2 ⟨_, _, runs_get.2 ⟨rfl, rfl⟩, runs_pure.2 ⟨rfl, rfl⟩⟩

section Loops

variable {γ α : Type}

/-- A loop whose every step keeps `P` of what it carries ends in `P`. -/
theorem runs_forIn_invariant {xs : List γ} {f : γ → α → Build (ForInStep α)} (P : α → Prop)
    (hstep : ∀ x ∈ xs, ∀ a s b s', P a → Runs (f x a) s b s' → P b.value) :
    ∀ {a : α} {s : Session} {b : α} {s' : Session}, P a → Runs (forIn xs a f) s b s' → P b := by
  induction xs with
  | nil =>
    intro a s b s' ha h
    obtain ⟨rfl, -⟩ := runs_pure.1 h
    exact ha
  | cons x xs ih =>
    intro a s b s' ha h
    rw [List.forIn_cons] at h
    obtain ⟨r, s₁, h₁, h⟩ := runs_bind.1 h
    have hr := hstep x (by simp) a s r s₁ ha h₁
    cases r with
    | done c =>
      obtain ⟨rfl, -⟩ := runs_pure.1 h
      exact hr
    | yield c => exact ih (fun y hy => hstep y (by simp [hy])) hr h

/-- The loop in which making a class gathers the attributes it is given, each checked by `step`:
    a key given once ends with what its check returned. -/
theorem runs_forIn_setIn {step : String × Value → Build Value}
    {attrs own own' : List (String × Value)} {s s' : Session} {key : String} {v : Value}
    (h : Runs (forIn attrs own fun x acc => do
      let v' ← step x
      pure (ForInStep.yield (setIn acc x.fst v'))) s own' s')
    (hkey : attrs.filter (·.1 == key) = [(key, v)]) (hown : own.find? (·.1 == key) = none) :
    ∃ v', (∃ s₁ s₂, Runs (step (key, v)) s₁ v' s₂) ∧ own'.find? (·.1 == key) = some (key, v') := by
  induction attrs generalizing own s with
  | nil => simp at hkey
  | cons x xs ih =>
    rw [List.forIn_cons] at h
    obtain ⟨r, s₁, h₁, h⟩ := runs_bind.1 h
    obtain ⟨w, s₂, hw, h₁⟩ := runs_bind.1 h₁
    obtain ⟨rfl, rfl⟩ := runs_pure.1 h₁
    by_cases hx : x.1 = key
    · -- `x` is the one entry under `key`, and the steps after it leave that entry alone
      have hxs : x = (key, v) ∧ ∀ a b, (a, b) ∈ xs → ¬a = key := by
        simpa [List.filter_cons, hx] using hkey
      obtain ⟨rfl, hrest⟩ := hxs
      refine ⟨w, ⟨_, _, hw⟩, ?_⟩
      refine runs_forIn_invariant (fun acc => acc.find? (·.1 == key) = some (key, w))
        (fun y hy a s₃ b s₄ ha hb => ?_) (find?_setIn_self hown w) h
      obtain ⟨u, s₅, -, hb⟩ := runs_bind.1 hb
      obtain ⟨rfl, -⟩ := runs_pure.1 hb
      have hyk : y.1 ≠ key := hrest y.1 y.2 hy
      rw [ForInStep.value, find?_setIn_of_ne a hyk, ha]
    · have hrest : xs.filter (·.1 == key) = [(key, v)] := by
        simpa [List.filter_cons, hx] using hkey
      exact ih h hrest (by rw [find?_setIn_of_ne own hx, hown])

end Loops

/-- Making a class gives it its kind and, for an attribute given once, what checking that
    attribute against the kind's attributes returned. -/
theorem createClass_attr {fuel : Nat} {k : Kind} {name : Value} {bases : List Entity}
    {doc : Option String} {attrs : List (String × Value)} {s s' : Session} {cls : Entity}
    (h : Runs (createClass (fuel + 1) k name bases doc attrs) s cls s') {key : String} {v : Value}
    (hkey : attrs.filter (·.1 == key) = [(key, v)]) :
    cls.kind = k ∧ ∃ v', cls.ownAttr? key = some v' ∧ ∃ s₁ s₂,
      Runs (if (k.attrSpecs s.version).isEmpty then pure v
        else assignChecked fuel (some k) (k.attrSpecs s.version) key v) s₁ v' s₂ := by
  simp only [createClass] at h
  obtain ⟨specs, s₁, hspecs, h⟩ := runs_bind.1 h
  obtain ⟨rfl, rfl⟩ := runs_kindSpecs.1 hspecs
  obtain ⟨own, s₂, hown, h⟩ := runs_bind.1 h
  obtain ⟨v', hcheck, hfind⟩ := runs_forIn_setIn hown hkey rfl
  obtain ⟨finalName, s₃, -, h⟩ := runs_bind.1 h
  obtain ⟨c, s₄, hc, h⟩ := runs_bind.1 h
  obtain ⟨rfl, -⟩ := runs_pure.1 h
  -- filling the defaults in sets only attributes the class lacks
  have hkeep := runs_forIn_invariant (fun c => c.kind = k ∧ c.ownAttr? key = some v')
    (fun x _ a s₅ b s₆ ha hb => ?_) ⟨rfl, by simp [Entity.ownAttr?_mk, hfind]⟩ hc
  · exact ⟨hkeep.1, v', hkeep.2, hcheck⟩
  · obtain ⟨hkind, hown⟩ := ha
    split at hb
    · rename_i hlacks
      obtain ⟨d, s₇, -, hb⟩ := runs_bind.1 hb
      obtain ⟨rfl, -⟩ := runs_pure.1 hb
      have hne : x.1 ≠ key := by
        rintro rfl
        simp [Entity.hasAttr_of_ownAttr? hown] at hlacks
      exact ⟨by simp [hkind], by rw [ForInStep.value, Entity.ownAttr?_setAttr_of_ne _ hne, hown]⟩
    · obtain ⟨rfl, -⟩ := runs_pure.1 hb
      exact ⟨hkind, hown⟩

/-- Setting an attribute of a class sets it to what checking it against the kind's attributes
    returned. -/
theorem setChecked_attr {fuel : Nat} {e e' : Entity} {key : String} {v : Value} {s s' : Session}
    (h : Runs (setChecked (fuel + 1) e key v) s e' s') :
    ∃ v', (∃ s₁ s₂, Runs (assignChecked fuel (some e.kind) (e.kind.attrSpecs s.version) key v)
      s₁ v' s₂) ∧ e' = e.setAttr key v' := by
  simp only [setChecked] at h
  obtain ⟨specs, s₁, hspecs, h⟩ := runs_bind.1 h
  obtain ⟨rfl, rfl⟩ := runs_kindSpecs.1 hspecs
  obtain ⟨v', s₂, hv', h⟩ := runs_bind.1 h
  obtain ⟨rfl, -⟩ := runs_pure.1 h
  exact ⟨v', ⟨_, _, hv'⟩, rfl⟩

/-- A check of a class kind keeps a class of that kind. -/
theorem checkItem_of_isKind {k : Kind} {v : Value} (hv : v.isKind k = true) :
    checkItem (.entity k) v = pure v := by
  unfold checkItem
  split <;> simp [hv]

/-- A list check of a class kind keeps a list of classes of that kind. -/
theorem checkValue_list_of_isKind {k : Kind} {xs : List Value}
    (hxs : ∀ x ∈ xs, x.isKind k = true) : checkValue (.entity k) true (.list xs) = pure (.list xs) := by
  have hmap : xs.mapM (checkItem (.entity k)) = pure xs := by
    induction xs with
    | nil => rfl
    | cons x xs ih =>
      simp only [List.mapM_cons, checkItem_of_isKind (hxs x (by simp)),
        ih fun y hy => hxs y (by simp [hy]), pure_bind]
  simp [checkValue, hmap]

/-- An attribute whose check is no group and keeps the value given is assigned that value. -/
theorem assignChecked_keeps {fuel : Nat} {owner : Option Kind} {specs : List AttrSpec}
    {key : String} {spec : AttrSpec} {v v' : Value} {s s' : Session}
    (h : Runs (assignChecked (fuel + 1) owner specs key v) s v' s')
    (hprobe : key ≠ "readiness_probe") (hdunder : isDunder key = false)
    (hspec : specs.find? (·.name == key) = some spec) (hgroup : ∀ shape, spec.check ≠ .group shape)
    (hkeep : checkValue spec.check spec.isArray v = pure v) : v' = v := by
  simp only [assignChecked] at h
  -- only a substrate's readiness probe is made into a class before it is checked
  split at h
  · exact absurd rfl hprobe
  · simp only [pure_bind, hdunder, hspec, Bool.false_eq_true, if_false] at h
    rw [hkeep] at h
    exact (runs_pure.1 h).1.symm

/-- Making a class of kind `k` keeps an attribute given once whose check, at every server
    version, is no group and keeps the value given. -/
theorem createClass_keeps {fuel : Nat} {k : Kind} {name : Value} {bases : List Entity}
    {doc : Option String} {attrs : List (String × Value)} {s s' : Session} {cls : Entity}
    (h : Runs (createClass (fuel + 2) k name bases doc attrs) s cls s') (key : String) {v : Value}
    (hkey : attrs.filter (·.1 == key) = [(key, v)]) (hprobe : key ≠ "readiness_probe")
    (hdunder : isDunder key = false)
    (hspec : ∀ version, ∃ spec, (k.attrSpecs version).find? (·.name == key) = some spec ∧
      (∀ shape, spec.check ≠ .group shape) ∧ checkValue spec.check spec.isArray v = pure v) :
    cls.kind = k ∧ cls.ownAttr? key = some v := by
  obtain ⟨hkind, v', hown, s₁, s₂, hcheck⟩ := createClass_attr h hkey
  refine ⟨hkind, ?_⟩
  split at hcheck
  · rw [hown, (runs_pure.1 hcheck).1]
  · obtain ⟨spec, hfind, hgroup, hkeep⟩ := hspec s.version
    rw [hown, assignChecked_keeps hcheck hprobe hdunder hfind hgroup hkeep]

/-- Setting an attribute whose check, at every server version, is no group and keeps the value
    given sets that value. -/
theorem setChecked_keeps {fuel : Nat} {e e' : Entity} {key : String} {v : Value}
    {s s' : Session} (h : Runs (setChecked (fuel + 2) e key v) s e' s')
    (hprobe : key ≠ "readiness_probe") (hdunder : isDunder key = false)
    (hspec : ∀ version, ∃ spec, (e.kind.attrSpecs version).find? (·.name == key) = some spec ∧
      (∀ shape, spec.check ≠ .group shape) ∧ checkValue spec.check spec.isArray v = pure v) :
    e' = e.setAttr key v := by
  obtain ⟨v', ⟨s₁, s₂, hcheck⟩, rfl⟩ := setChecked_attr h
  obtain ⟨spec, hfind, hgroup, hkeep⟩ := hspec s.version
  rw [assignChecked_keeps hcheck hprobe hdunder hfind hgroup hkeep]

@[simp] theorem checkValue_text (t : String) : checkValue .text false (.str t) = pure (.str t) := by
  simp [checkValue, checkItem]

@[simp] theorem checkValue_mapping (es : List (Value × Value)) :
    checkValue .mapping false (.dict es) = pure (.dict es) := by
  simp [checkValue, checkItem]

section Specs

/-! The attributes that building a dag sets, as the schemas give them at every server version:
each is checked by no group and keeps the value that building gives it. A reference's name and a
task's type are texts, a task's `attrs` a mapping, and a runbook's tasks a list of tasks. -/

variable (version : String)

theorem ref_name_keeps (t : String) :
    ∃ spec, (Kind.ref.attrSpecs version).find? (·.name == "name") = some spec ∧
      (∀ shape, spec.check ≠ .group shape) ∧ checkValue spec.check spec.isArray (.str t) =
        pure (.str t) :=
  ⟨_, rfl, fun _ h => (by cases h), checkValue_text t⟩

theorem task_type_keeps (t : String) :
    ∃ spec, (Kind.task.attrSpecs version).find? (·.name == "type") = some spec ∧
      (∀ shape, spec.check ≠ .group shape) ∧ checkValue spec.check spec.isArray (.str t) =
        pure (.str t) :=
  ⟨_, rfl, fun _ h => (by cases h), checkValue_text t⟩

theorem task_attrs_keeps (es : List (Value × Value)) :
    ∃ spec, (Kind.task.attrSpecs version).find? (·.name == "attrs") = some spec ∧
      (∀ shape, spec.check ≠ .group shape) ∧ checkValue spec.check spec.isArray (.dict es) =
        pure (.dict es) :=
  ⟨_, rfl, fun _ h => (by cases h), checkValue_mapping es⟩

theorem runbook_tasks_keeps {xs : List Value} (hxs : ∀ x ∈ xs, x.isKind .task = true) :
    ∃ spec, (Kind.runbook.attrSpecs version).find? (·.name == "tasks") = some spec ∧
      (∀ shape, spec.check ≠ .group shape) ∧ checkValue spec.check spec.isArray (.list xs) =
        pure (.list xs) :=
  ⟨_, rfl, fun _ h => (by cases h), checkValue_list_of_isKind hxs⟩

end Specs

end Blueprints
