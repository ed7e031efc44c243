import Blueprints.Library.Variables
import Blueprints.Source.Actions
import Blueprints.Proofs.Build

namespace Blueprints.Library.Variables

open Build Source

theorem Value.str_equal_iff (t : String) (v : Value) : (Value.str t).equal v = true ↔ v = .str t := by
  cases v <;> simp [Value.equal, Value.numeric?, @eq_comm _ t]

/-- Among texts, a value equal to a choice is one. -/
theorem mem_of_any_equal {choices : List Value} {v : Value}
    (htexts : ∀ c ∈ choices, ∃ t, c = .str t) (h : choices.any (·.equal v) = true) :
    v ∈ choices := by
  obtain ⟨c, hc, heq⟩ := List.any_eq_true.1 h
  obtain ⟨t, rfl⟩ := htexts c hc
  rwa [(Value.str_equal_iff t v).1 heq]

theorem patternMatches_runs {pattern c : Value} {s s' : Session} {b : Bool}
    (h : Runs (patternMatches pattern c) s b s') : s' = s := by
  unfold patternMatches at h
  simp only [pure_bind] at h
  repeat' split at h
  all_goals simp_all [eq_comm]

/-- A fault whose message names the variable stops the run. -/
theorem not_runs_nameText_throw {α β : Type} {name : Value} {f : String → Fault}
    {g : α → Build β} {s s' : Session} {b : β} :
    ¬ Runs (do let x ← nameText name; throw (f x) >>= g) s b s' := by
  intro h
  obtain ⟨_, _, -, h⟩ := runs_bind.1 h
  exact not_runs_throw_bind h

/-- The choices come back as given, each a text, and one that the pattern matches when values
    are validated. -/
theorem predefinedChoices_runs {name pattern : Value} {validated : Bool} {s s' : Session} :
    ∀ {items choices : List Value}, Runs (predefinedChoices name pattern validated items) s choices s' →
      s' = s ∧ choices = items ∧
        ∀ c ∈ choices, ∃ t, c = .str t ∧ (validated = true → Runs (patternMatches pattern c) s true s)
  | [], choices, h => by
    obtain ⟨rfl, rfl⟩ := runs_pure.1 h
    simp
  | choice :: rest, choices, h => by
    unfold predefinedChoices at h
    simp only at h
    split at h
    next t =>
      -- the pattern is tried on the choice only when values are validated
      have hchecked : validated = true → Runs (patternMatches pattern (.str t)) s true s ∧
          Runs (do let r ← predefinedChoices name pattern validated rest; pure (.str t :: r))
            s choices s' := by
        rintro rfl
        obtain ⟨b, s₁, hb, h⟩ := runs_bind.1 h
        obtain rfl := patternMatches_runs hb
        cases b with
        | false => exact absurd h not_runs_throw_bind
        | true => exact ⟨hb, h⟩
      have hrun : Runs (do let r ← predefinedChoices name pattern validated rest; pure (.str t :: r))
          s choices s' := by
        cases validated with
        | false => simpa using h
        | true => exact (hchecked rfl).2
      obtain ⟨r, s₁, hr, h⟩ := runs_bind.1 hrun
      obtain ⟨rfl, rfl⟩ := runs_pure.1 h
      obtain ⟨rfl, rfl, hrest⟩ := predefinedChoices_runs hr
      refine ⟨rfl, rfl, ?_⟩
      rintro c (_ | ⟨_, hc⟩)
      · exact ⟨t, rfl, fun hv => (hchecked hv).1⟩
      · exact hrest c hc
    next => exact absurd h not_runs_nameText_throw

/-- Every default that passes is a text equal to a choice. -/
theorem checkListDefaults_runs {name : Value} {choices : List Value} {s s' : Session} {u : Unit} :
    ∀ {vals : List Value}, Runs (checkListDefaults name choices vals) s u s' →
      s' = s ∧ ∀ v ∈ vals, (∃ t, v = .str t) ∧ choices.any (·.equal v) = true
  | [], h => by
    obtain ⟨-, rfl⟩ := runs_pure.1 h
    simp
  | v :: rest, h => by
    unfold checkListDefaults at h
    simp only at h
    split at h
    next t =>
      split at h
      next => exact absurd h not_runs_nameText_throw
      next hany =>
        obtain ⟨rfl, hrest⟩ := checkListDefaults_runs h
        refine ⟨rfl, ?_⟩
        rintro w (_ | ⟨_, hw⟩)
        · exact ⟨⟨t, rfl⟩, by simpa using hany⟩
        · exact hrest w hw
    next => exact absurd h not_runs_nameText_throw

/-- The value before the check: the joined defaults of a `LIST` variable given a list of them,
    each a text equal to a choice, and otherwise the value as given. -/
theorem predefinedValue_runs {name : Value} {dataType : String} {choices : List Value}
    {value v : Value} {s s' : Session} (h : Runs (predefinedValue name dataType choices value) s v s') :
    s' = s ∧ (dataType ≠ "LIST" → v = value) ∧
      ∀ vals, dataType = "LIST" → value = .list vals →
        v = joinDefaults vals ∧ ∀ w ∈ vals, (∃ t, w = .str t) ∧ choices.any (·.equal w) = true := by
  unfold predefinedValue at h
  split at h
  next vals =>
    by_cases hlist : dataType = "LIST"
    · subst hlist
      simp only [beq_self_eq_true, if_true] at h
      obtain ⟨u, s₁, hc, hjoin⟩ := runs_bind.1 h
      obtain ⟨rfl, hvals⟩ := checkListDefaults_runs hc
      obtain ⟨rfl, rfl⟩ := runs_pure.1 hjoin
      exact ⟨rfl, fun hne => absurd rfl hne, fun _ _ heq => by cases heq; exact ⟨rfl, hvals⟩⟩
    · rw [if_neg (by simpa using hlist)] at h
      obtain ⟨rfl, rfl⟩ := runs_pure.1 h
      exact ⟨rfl, fun _ => rfl, fun _ hl => absurd hl hlist⟩
  next hnot =>
    obtain ⟨rfl, rfl⟩ := runs_pure.1 h
    exact ⟨rfl, fun _ => rfl, fun vals _ heq => absurd heq (hnot vals)⟩

/-- The decoder splits the characters of the text at every comma. -/
theorem splitDefaults_eq (s : String) :
    splitDefaults s = (s.toList.splitOn ',').map String.ofList :=
  String.toList_split_char

/-- Splitting joined texts at the commas gives them back when there are some and none holds a
    comma. -/
theorem splitDefaults_intercalate {texts : List String} (hne : texts ≠ [])
    (hcomma : ∀ t ∈ texts, ',' ∉ t.toList) : splitDefaults (",".intercalate texts) = texts := by
  have h := String.toList_split_intercalate hcomma
  rw [if_neg hne] at h
  exact h

/-- No piece of a list split at a separator holds the separator. -/
theorem not_mem_of_mem_splitOn {α : Type} [BEq α] [LawfulBEq α] {a : α} :
    ∀ {xs piece : List α}, piece ∈ xs.splitOn a → a ∉ piece
  | [], piece, h => by simp_all
  | x :: xs, piece, h => by
    rw [List.splitOn_cons_eq_if_modifyHead] at h
    have ih : ∀ p ∈ xs.splitOn a, a ∉ p := fun p hp => not_mem_of_mem_splitOn hp
    split at h
    next =>
      rcases List.mem_cons.1 h with rfl | h
      · simp
      · exact ih piece h
    next hx =>
      -- the first piece gains `x`, which is not the separator
      obtain ⟨first, rest, hsplit⟩ := List.exists_cons_of_ne_nil (List.splitOn_ne_nil a xs)
      rw [hsplit, List.modifyHead_cons] at h
      rcases List.mem_cons.1 h with rfl | h
      · have hfirst := ih first (by simp [hsplit])
        simp only [List.mem_cons, not_or]
        exact ⟨fun hxa => hx (by simp [← hxa]), hfirst⟩
      · exact ih piece (by simp [hsplit, h])

/-- Splitting a text at the commas gives at least one text, and none of them holds a comma. -/
theorem splitDefaults_comma_free (s : String) :
    splitDefaults s ≠ [] ∧ ∀ t ∈ splitDefaults s, ',' ∉ t.toList := by
  rw [splitDefaults_eq]
  refine ⟨by simp, fun t ht => ?_⟩
  obtain ⟨piece, hpiece, rfl⟩ := List.mem_map.1 ht
  simpa using not_mem_of_mem_splitOn hpiece

/-- Predefined options keep their default among the choices, and reading the variable back
    inverts the joining of list defaults. From a run that returns the choices and the value: the
    choices are the options as given, each a text that the pattern matches when values are
    validated; a variable other than a `LIST` one has a choice as its value, the first when none is
    given; and a `LIST` variable with a list of defaults, each a choice, has them joined by commas,
    which splitting at the commas gives back exactly when there are some and none holds a
    comma. -/
theorem predefinedOptions_keeps_choices {name pattern value value' : Value} {validated : Bool}
    {dataType : String} {items choices : List Value} {s s' : Session}
    (h : Runs (predefinedOptions name pattern validated dataType items value) s (choices, value') s') :
    s' = s ∧ choices = items ∧
    (∀ c ∈ choices, ∃ t, c = .str t ∧ (validated = true → Runs (patternMatches pattern c) s true s)) ∧
    (dataType ≠ "LIST" → value' ∈ choices ∧ (value = .none → choices.head? = some value')) ∧
    ∀ vals, dataType = "LIST" → value = .list vals →
      (∀ v ∈ vals, v ∈ choices) ∧ value' = joinDefaults vals ∧
      (splitDefaults value'.toText = vals.map Value.toText ↔
        vals ≠ [] ∧ ∀ v ∈ vals, ',' ∉ v.toText.toList) := by
  unfold predefinedOptions at h
  obtain ⟨cs, s₁, hcs, hvalue⟩ := runs_bind.1 h
  obtain ⟨rfl, hitems, hchoices⟩ := predefinedChoices_runs hcs
  subst hitems
  have htexts : ∀ c ∈ cs, ∃ t, c = Value.str t := fun c hc => (hchoices c hc).imp fun _ h => h.1
  obtain ⟨v₁, s₂, hv₁, hcheck⟩ := runs_bind.1 hvalue
  obtain ⟨rfl, hother, hlist⟩ := predefinedValue_runs hv₁
  simp only at hcheck
  -- the value checked: the first choice in place of a missing one
  generalize hv₂ : (if (v₁.isNone && !cs.isEmpty) = true then cs.head! else v₁) = v₂ at hcheck
  split at hcheck
  next => exact absurd hcheck not_runs_nameText_throw
  next hpassed =>
    obtain ⟨heq, rfl⟩ := runs_pure.1 hcheck
    obtain ⟨hc, hv⟩ := Prod.mk.inj heq
    subst hc hv
    refine ⟨rfl, rfl, hchoices, fun hne => ?_, fun vals hl hv => ?_⟩
    · -- a value other than a `LIST` one passed the check, so it equals a choice
      have hany : cs.any (·.equal v₂) = true := by simpa [hne] using hpassed
      refine ⟨mem_of_any_equal htexts hany, fun hnone => ?_⟩
      cases cs with
      | nil => simp at hany
      | cons c cs =>
        rw [← hv₂, hother hne, hnone]
        simp [Value.isNone, List.head!]
    · obtain ⟨rfl, hvals⟩ := hlist vals hl hv
      have hjoined : v₂ = joinDefaults vals := by simp [← hv₂, joinDefaults, Value.isNone]
      subst hjoined
      refine ⟨fun v hv => mem_of_any_equal htexts (hvals v hv).2, rfl, ⟨fun hsplit => ?_,
        fun ⟨hne, hcomma⟩ => ?_⟩⟩
      · -- what the split gives is never empty and holds no comma
        obtain ⟨hne, hcomma⟩ := splitDefaults_comma_free (joinDefaults vals).toText
        rw [hsplit] at hne hcomma
        exact ⟨by simpa using hne, fun v hv => hcomma _ (List.mem_map_of_mem hv)⟩
      · exact splitDefaults_intercalate (by simpa using hne) (by simpa using hcomma)

/-- A `LIST` variable with the choices `a` and `b` and the default `[b]` keeps the choices, and
    its value `b` is read back as the default. -/
theorem predefinedOptions_keeps_list_default :
    Runs (predefinedOptions (.str "V") .none false "LIST" [.str "a", .str "b"] (.list [.str "b"]))
      ({} : Session) ([.str "a", .str "b"], .str "b") {} ∧
    splitDefaults (Value.str "b").toText = ["b"] := by
  have h : Runs (predefinedOptions (.str "V") .none false "LIST" [.str "a", .str "b"]
      (.list [.str "b"])) ({} : Session) ([.str "a", .str "b"], .str "b") {} := by
    simp [Runs, predefinedOptions, predefinedChoices, predefinedValue, checkListDefaults,
      joinDefaults, Value.equal, Value.isNone, Value.toText]
  refine ⟨h, ?_⟩
  have hread := ((predefinedOptions_keeps_choices h).2.2.2.2 [.str "b"] rfl rfl).2.2
  exact hread.2 ⟨by simp, by simp [Value.toText]⟩

/-- A choice that holds a comma is accepted as a list default and read back in two, and an empty
    list of defaults is read back as one empty text. -/
theorem list_defaults_read_back_apart :
    Runs (predefinedOptions (.str "V") .none false "LIST" [.str "a,b", .str "c"] (.list [.str "a,b"]))
      ({} : Session) ([.str "a,b", .str "c"], .str "a,b") {} ∧ splitDefaults "a,b" = ["a", "b"] ∧
    Runs (predefinedOptions (.str "V") .none false "LIST" [.str "c"] (.list [])) ({} : Session)
      ([.str "c"], .str "") {} ∧ splitDefaults "" = [""] := by
  refine ⟨?_, ?_, ?_, ?_⟩
  · simp [Runs, predefinedOptions, predefinedChoices, predefinedValue, checkListDefaults,
      joinDefaults, Value.equal, Value.isNone, Value.toText]
  · rw [splitDefaults_eq]
    decide
  · simp [Runs, predefinedOptions, predefinedChoices, predefinedValue, checkListDefaults,
      joinDefaults, Value.isNone]
  · rw [splitDefaults_eq]
    decide

end Blueprints.Library.Variables
