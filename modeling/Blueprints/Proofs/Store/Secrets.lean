import Blueprints.Store.Secret

namespace Blueprints.SecretStore

section Keyed

variable {α : Type} (key : α → String)

/-- Searching rows by key after the rows of one key are dropped finds nothing of that key and
    the row found before for any other. -/
theorem find?_filter_key (l : List α) (a n : String) :
    (l.filter (key · != a)).find? (key · == n) = if n = a then none else l.find? (key · == n) := by
  rw [List.find?_filter]
  by_cases h : n = a
  · simp [h, List.find?_eq_none]
  · -- a row of key `n` is not one of those dropped
    simp only [h, if_false]
    congr 1
    funext x
    by_cases hx : key x = n <;> simp [hx, h]

/-- Changing rows without changing their keys changes the row that a search by key finds the
    same way. -/
theorem find?_map_key {f : α → α} (hf : ∀ x, key (f x) = key x) (l : List α) (n : String) :
    (l.map f).find? (key · == n) = (l.find? (key · == n)).map f := by
  rw [List.find?_map]
  congr 2
  funext x
  simp [hf]

/-- A search by key finds nothing among rows none of which has that key. -/
theorem find?_key_eq_none {l : List α} {n : String} (h : n ∉ l.map key) :
    l.find? (key · == n) = none := by
  rw [List.find?_eq_none]
  intro x hx hkey
  exact h (List.mem_map.2 ⟨x, hx, by simpa using hkey⟩)

end Keyed

/-- What a name holds in the store read as a map: the uuid it was stored under, its value and the
    pass phrase that seals it. -/
structure Entry where
  uuid : String
  value : String
  passPhrase : String

/-- An operation on the local store. -/
inductive Op where
  | create (name uuid value passPhrase : String)
  | update (name value : String)
  | delete (name : String)
  | clear

section Ops

variable {σ : Type} (c : Cipher σ)

def Op.apply (store : SecretStore σ) : Op → Except Fault (SecretStore σ)
  | .create name uuid value passPhrase => store.create c name uuid value passPhrase
  | .update name value => store.update c name value
  | .delete name => store.delete name
  | .clear => .ok {}

/-- The store after an operation; a refused one leaves it as it was. -/
def Op.step (store : SecretStore σ) (op : Op) : SecretStore σ :=
  match op.apply c store with
  | .ok store' => store'
  | .error _ => store

/-- The store that a sequence of operations leaves from the empty one. -/
def run (ops : List Op) : SecretStore σ := ops.foldl (Op.step c) {}

end Ops

/-- Whether the map `held` refuses an operation. -/
def Op.refused (held : String → Option Entry) : Op → Bool
  | .create name .. => (held name).isSome
  | .update name _ | .delete name => (held name).isNone
  | .clear => false

def Op.next (held : String → Option Entry) (op : Op) (n : String) : Option Entry :=
  if op.refused held then held n else
  match op with
  | .create name uuid value passPhrase =>
    if n = name then some ⟨uuid, value, passPhrase⟩ else held n
  | .update name value => if n = name then (held n).map ({ · with value }) else held n
  | .delete name => if n = name then none else held n
  | .clear => none

/-- Each name's entry after a sequence of operations: that of the latest create or update of the
    name since it was last deleted or the store cleared, if any. -/
def held (ops : List Op) : String → Option Entry := ops.foldl Op.next fun _ => none

theorem Op.next_of_refused {held : String → Option Entry} {op : Op}
    (h : op.refused held = true) : op.next held = held := by
  funext n
  simp [Op.next, h]

section Holds

variable {σ : Type} {c : Cipher σ}

variable (c) in
/-- The tables hold the map `held`: the secret table has one row for each name the map holds,
    with its uuid; the data rows follow the secret rows one for one, and the first data row of a
    name seals the held value under the held pass phrase. -/
structure Holds (store : SecretStore σ) (held : String → Option Entry) : Prop where
  aligned : store.data.map (·.secretRef) = store.secrets.map (·.name)
  nodup : (store.secrets.map (·.name)).Nodup
  row : ∀ n, store.secrets.find? (·.name == n) = (held n).map fun e => ⟨n, e.uuid⟩
  data : ∀ n e, held n = some e →
    store.data.find? (·.secretRef == n) = some ⟨n, c.encrypt e.value e.passPhrase, e.passPhrase⟩

variable {store : SecretStore σ} {held : String → Option Entry}

theorem Holds.empty : Holds c {} fun _ => none :=
  ⟨rfl, List.nodup_nil, fun _ => rfl, fun _ _ h => nomatch h⟩

theorem Holds.mem_names_iff (h : Holds c store held) (n : String) :
    n ∈ store.secrets.map (·.name) ↔ (held n).isSome := by
  have hrow := congrArg Option.isSome (h.row n)
  rw [Option.isSome_map] at hrow
  rw [← hrow, List.find?_isSome]
  simp

theorem Holds.stored_eq (h : Holds c store held) (n : String) :
    store.stored n = (held n).isSome := by
  rw [Bool.eq_iff_iff, ← h.mem_names_iff]
  simp [stored]

/-- A name the map does not hold has no data row either. -/
theorem Holds.data_find?_eq_none (h : Holds c store held) {n : String} (hfree : held n = none) :
    store.data.find? (·.secretRef == n) = none := by
  apply find?_key_eq_none
  rw [h.aligned, h.mem_names_iff, hfree]
  simp

theorem Holds.lookup_eq (h : Holds c store held) (n : String) :
    store.lookup n = match held n with
      | some e => .ok ⟨n, e.uuid⟩
      | none => .error (.badValue "Entity not found !!!") := by
  unfold lookup
  rw [h.row n]
  cases held n <;> rfl

/-- A name is found as the map holds it: its value, opened with the pass phrase given or, when
    that is empty, with the one it is sealed under. -/
theorem Holds.find_eq (h : Holds c store held) (n p : String) :
    store.find c n p = match held n with
      | none => .error (.badValue "Entity not found !!!")
      | some e =>
        match c.decrypt (c.encrypt e.value e.passPhrase) (if p.isEmpty then e.passPhrase else p) with
        | some value => .ok value
        | none => .error (.badValue "MAC check failed") := by
  unfold find
  rw [h.lookup_eq]
  cases hn : held n with
  | none => rfl
  | some e =>
    have hdata : store.dataOf n = .ok ⟨n, c.encrypt e.value e.passPhrase, e.passPhrase⟩ := by
      rw [dataOf, h.data n e hn]
    simp only [bind, Except.bind, hdata]
    cases c.decrypt (c.encrypt e.value e.passPhrase) (if p.isEmpty then e.passPhrase else p) <;>
      rfl

/-- Creating a name the map does not hold adds a row to each table and the entry to the map. -/
theorem Holds.create (h : Holds c store held) {name : String} (hfree : held name = none)
    (uuid value passPhrase : String) :
    Holds c { secrets := store.secrets ++ [⟨name, uuid⟩],
              data := store.data ++ [⟨name, c.encrypt value passPhrase, passPhrase⟩] }
      fun n => if n = name then some ⟨uuid, value, passPhrase⟩ else held n where
  aligned := by simp [h.aligned]
  nodup := by
    have hnew : name ∉ store.secrets.map (·.name) := by simp [h.mem_names_iff, hfree]
    simpa [List.nodup_append, h.nodup] using hnew
  row n := by
    rw [List.find?_append]
    by_cases hn : n = name
    · subst hn
      rw [h.row, hfree]
      simp
    · cases hrow : store.secrets.find? (·.name == n) with
      | some r => simp [hn, ← h.row, hrow]
      | none => simp [hn, ← h.row, hrow, Ne.symm hn]
  data n e he := by
    rw [List.find?_append]
    by_cases hn : n = name
    · subst hn
      simp only [if_true, Option.some.injEq] at he
      subst he
      simp [h.data_find?_eq_none hfree]
    · simp only [hn, if_false] at he
      simp [h.data n e he]

/-- Updating a name the map holds seals the new value under the pass phrase it had. -/
theorem Holds.update (h : Holds c store held) {name : String} {e : Entry} (he : held name = some e)
    (value : String) :
    Holds c { store with data := store.data.map fun d =>
        if d.secretRef == name then { d with sealed := c.encrypt value e.passPhrase,
                                             passPhrase := e.passPhrase }
        else d }
      fun n => if n = name then some { e with value } else held n where
  aligned := by
    rw [← h.aligned, List.map_map]
    congr 1
    funext d
    by_cases hd : d.secretRef = name <;> simp [hd]
  nodup := h.nodup
  row n := by
    by_cases hn : n = name
    · subst hn
      simp [h.row, he]
    · simp [hn, h.row]
  data n e' he' := by
    rw [find?_map_key DataRow.secretRef (fun d => by split <;> rfl)]
    by_cases hn : n = name
    · subst hn
      simp only [if_true, Option.some.injEq] at he'
      subst he'
      simp [h.data n e he]
    · simp only [hn, if_false] at he'
      simp [h.data n e' he', hn]

/-- Deleting a name drops its rows from both tables and the name from the map. -/
theorem Holds.delete (h : Holds c store held) (name : String) :
    Holds c { secrets := store.secrets.filter (·.name != name),
              data := store.data.filter (·.secretRef != name) }
      fun n => if n = name then none else held n where
  aligned := by
    have hkeys := congrArg (List.filter (· != name)) h.aligned
    simpa only [List.filter_map, Function.comp_def] using hkeys
  nodup := h.nodup.sublist ((List.filter_sublist (l := store.secrets)).map _)
  row n := by
    rw [find?_filter_key SecretRow.name]
    by_cases hn : n = name <;> simp [hn, h.row]
  data n e he := by
    by_cases hn : n = name
    · simp [hn] at he
    · simp only [hn, if_false] at he
      rw [find?_filter_key DataRow.secretRef, if_neg hn, h.data n e he]

/-- One operation changes the map as `Op.next` says and fails exactly when the map refuses it. -/
theorem Holds.step (h : Holds c store held) (op : Op) :
    Holds c (op.step c store) (op.next held) ∧
      ((∃ e, op.apply c store = .error e) ↔ op.refused held = true) := by
  cases op with
  | create name uuid value passPhrase =>
    cases hn : held name with
    | some e =>
      have hstored : store.stored name = true := by rw [h.stored_eq, hn]; rfl
      have hrefused : (Op.create name uuid value passPhrase).refused held = true := by
        simp [Op.refused, hn]
      simp [Op.step, Op.apply, SecretStore.create, hstored, Op.next_of_refused hrefused,
        hrefused, h]
    | none =>
      have hstored : store.stored name = false := by rw [h.stored_eq, hn]; rfl
      have hnext : Op.next held (.create name uuid value passPhrase) =
          fun n => if n = name then some ⟨uuid, value, passPhrase⟩ else held n := by
        funext n
        simp [Op.next, Op.refused, hn]
      simp only [Op.step, Op.apply, SecretStore.create, hstored, hnext]
      exact ⟨h.create hn uuid value passPhrase, by simp [Op.refused, hn]⟩
  | update name value =>
    cases hn : held name with
    | none =>
      have hlookup := h.lookup_eq name
      rw [hn] at hlookup
      have hrefused : (Op.update name value).refused held = true := by simp [Op.refused, hn]
      simp [Op.step, Op.apply, SecretStore.update, hlookup, bind, Except.bind,
        Op.next_of_refused hrefused, hrefused, h]
    | some e =>
      have hlookup := h.lookup_eq name
      rw [hn] at hlookup
      have hdata : store.dataOf name = .ok ⟨name, c.encrypt e.value e.passPhrase, e.passPhrase⟩ := by
        rw [dataOf, h.data name e hn]
      have hnext : Op.next held (.update name value) =
          fun n => if n = name then some { e with value } else held n := by
        funext n
        by_cases h' : n = name <;> simp [Op.next, Op.refused, hn, h']
      simp only [Op.step, Op.apply, SecretStore.update, hlookup, hdata, bind, Except.bind, pure,
        Except.pure, hnext]
      exact ⟨h.update hn value, by simp [Op.refused, hn]⟩
  | delete name =>
    have hlookup := h.lookup_eq name
    cases hn : held name with
    | none =>
      rw [hn] at hlookup
      have hrefused : (Op.delete name).refused held = true := by simp [Op.refused, hn]
      simp [Op.step, Op.apply, SecretStore.delete, hlookup, bind, Except.bind,
        Op.next_of_refused hrefused, hrefused, h]
    | some e =>
      rw [hn] at hlookup
      have hnext : Op.next held (.delete name) = fun n => if n = name then none else held n := by
        funext n
        simp [Op.next, Op.refused, hn]
      simp only [Op.step, Op.apply, SecretStore.delete, hlookup, bind, Except.bind, pure,
        Except.pure, hnext]
      exact ⟨h.delete name, by simp [Op.refused, hn]⟩
  | clear =>
    have hnext : Op.next held .clear = fun _ => none := by
      funext n
      simp [Op.next, Op.refused]
    simp only [Op.step, Op.apply, hnext]
    exact ⟨Holds.empty, by simp [Op.refused]⟩

/-- A run keeps the tables holding the map that the operations build. -/
theorem Holds.foldl (h : Holds c store held) (ops : List Op) :
    Holds c (ops.foldl (Op.step c) store) (ops.foldl Op.next held) := by
  induction ops generalizing store held with
  | nil => exact h
  | cons op ops ih => exact ih (h.step op).1

end Holds

variable {σ : Type} (c : Cipher σ)

/-- The local store behaves as a map from names to values, for any cipher that opens what it
    seals under the same pass phrase and nothing under another. After any sequence of operations
    from the empty store, the data rows follow the secret rows one for one and the secret table
    lists each name it holds once; an operation fails exactly when the map refuses it; and a name
    is found, with no pass phrase or its own, as the map holds it, and with any other pass phrase
    fails. -/
theorem run_acts_as_map (hopen : ∀ v p, c.decrypt (c.encrypt v p) p = some v)
    (hother : ∀ v p q, q ≠ p → c.decrypt (c.encrypt v p) q = none) (ops : List Op) (n p : String) :
    ((run c ops).data.map (·.secretRef) = (run c ops).secrets.map (·.name) ∧
      ((run c ops).secrets.map (·.name)).Nodup ∧
      (n ∈ (run c ops).secrets.map (·.name) ↔ (held ops n).isSome)) ∧
    (∀ op : Op, (∃ e, op.apply c (run c ops) = .error e) ↔ op.refused (held ops) = true) ∧
    (run c ops).find c n p = match held ops n with
      | none => .error (.badValue "Entity not found !!!")
      | some e => if p.isEmpty || p == e.passPhrase then .ok e.value
        else .error (.badValue "MAC check failed") := by
  have h : Holds c (run c ops) (held ops) := Holds.empty.foldl ops
  refine ⟨⟨h.aligned, h.nodup, h.mem_names_iff n⟩, fun op => (h.step op).2, ?_⟩
  rw [h.find_eq]
  cases held ops n with
  | none => rfl
  | some e =>
    -- an empty pass phrase stands for the one the value is sealed under
    by_cases hp : p.isEmpty || p == e.passPhrase
    · have hkey : (if p.isEmpty then e.passPhrase else p) = e.passPhrase := by
        by_cases he : p.isEmpty <;> simp_all
      simp only [hkey, hopen, hp, if_true]
    · have hkey : (if p.isEmpty then e.passPhrase else p) = p := by simp_all
      have hne : p ≠ e.passPhrase := by simp_all
      simp only [hkey, hother _ _ _ hne, hp]
      rfl

/-- A cipher that keeps the value beside the pass phrase and gives it back under that one only. -/
def plainCipher : Cipher (String × String) where
  encrypt value passPhrase := (value, passPhrase)
  decrypt s passPhrase := if passPhrase = s.2 then some s.1 else none

/-- Under the plain cipher, a secret stored and updated is listed once and refuses a second
    create, and a pass phrase other than its own fails to open it. -/
theorem run_acts_as_map_plain :
    (∀ v p, plainCipher.decrypt (plainCipher.encrypt v p) p = some v) ∧
    (∀ v p q, q ≠ p → plainCipher.decrypt (plainCipher.encrypt v p) q = none) ∧
    ((run plainCipher [.create "s1" "u1" "v1" "dslp4ssw0rd", .update "s1" "v2"]).data.map
        (·.secretRef) =
        (run plainCipher [.create "s1" "u1" "v1" "dslp4ssw0rd", .update "s1" "v2"]).secrets.map
          (·.name) ∧
      ((run plainCipher [.create "s1" "u1" "v1" "dslp4ssw0rd", .update "s1" "v2"]).secrets.map
        (·.name)).Nodup ∧
      ("s1" ∈ (run plainCipher [.create "s1" "u1" "v1" "dslp4ssw0rd",
          .update "s1" "v2"]).secrets.map (·.name) ↔
        (held [.create "s1" "u1" "v1" "dslp4ssw0rd", .update "s1" "v2"] "s1").isSome)) ∧
    (∀ op : Op, (∃ e, op.apply plainCipher (run plainCipher [.create "s1" "u1" "v1" "dslp4ssw0rd",
        .update "s1" "v2"]) = .error e) ↔
      op.refused (held [.create "s1" "u1" "v1" "dslp4ssw0rd", .update "s1" "v2"]) = true) ∧
    (run plainCipher [.create "s1" "u1" "v1" "dslp4ssw0rd", .update "s1" "v2"]).find plainCipher
        "s1" "other" =
      match held [.create "s1" "u1" "v1" "dslp4ssw0rd", .update "s1" "v2"] "s1" with
      | none => .error (.badValue "Entity not found !!!")
      | some e => if ("other" : String).isEmpty || "other" == e.passPhrase then .ok e.value
        else .error (.badValue "MAC check failed") := by
  have hopen : ∀ v p, plainCipher.decrypt (plainCipher.encrypt v p) p = some v := by
    simp [plainCipher]
  have hother : ∀ v p q, q ≠ p → plainCipher.decrypt (plainCipher.encrypt v p) q = none := by
    intro v p q hq
    simp [plainCipher, hq]
  exact ⟨hopen, hother, run_acts_as_map plainCipher hopen hother
    [.create "s1" "u1" "v1" "dslp4ssw0rd", .update "s1" "v2"] "s1" "other"⟩

/-- An empty pass phrase counts as none given: it opens a value sealed under another. -/
theorem find_empty_pass_phrase_opens : ("" : String) ≠ "dslp4ssw0rd" ∧
    (run plainCipher [.create "s1" "u" "value1" "dslp4ssw0rd"]).find plainCipher "s1" "" =
      .ok "value1" :=
  ⟨by decide, rfl⟩

end Blueprints.SecretStore
