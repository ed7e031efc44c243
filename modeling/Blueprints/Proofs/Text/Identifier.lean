import Mathlib
import Blueprints.Text.Identifier

namespace Blueprints.Text

namespace rangesOfSteps

theorem numbers_ne_nil (l : List Char) (n : Nat) : numbers l n ≠ [] := by
  fun_induction numbers l n <;> simp_all

/-- Reading past a first part of a text gives the complete numbers of that part first. -/
theorem numbers_append (l r : List Char) (n : Nat) :
    ∃ m, numbers (l ++ r) n = (numbers l n).dropLast ++ numbers r m := by
  induction l generalizing n with
  | nil => exact ⟨n, by simp [numbers]⟩
  | cons c cs ih =>
    by_cases hc : c = ' '
    · subst hc
      obtain ⟨m, hm⟩ := ih 0
      refine ⟨m, ?_⟩
      simp [numbers, hm, List.dropLast_cons_of_ne_nil (numbers_ne_nil cs 0)]
    · obtain ⟨m, hm⟩ := ih (10 * n + (c.toNat - 48))
      exact ⟨m, by simp [numbers, hm]⟩

/-- Reading steps only adds ranges after those already read. -/
theorem go_extends (l : List Nat) (last : Nat) (acc : Array (Nat × Nat)) :
    ∃ more, go l last acc = acc ++ more := by
  fun_induction go l last acc with
  | case1 gap len rest last acc ih =>
    obtain ⟨more, h⟩ := ih
    exact ⟨#[(last + gap, last + gap + len)] ++ more,
      by rw [h, Array.push_eq_append, Array.append_assoc]⟩
  | case2 => exact ⟨#[], by simp⟩

/-- The ranges of a first part of the steps begin the ranges of all of them. -/
theorem go_append (p t : List Nat) (last : Nat) (acc : Array (Nat × Nat)) :
    ∃ more, go (p ++ t) last acc = go p last acc ++ more := by
  fun_induction go p last acc with
  | case1 gap len rest last acc ih => simpa [go] using ih
  | case2 p last acc hp =>
    -- a first part of fewer than two steps adds no range of its own
    exact go_extends (p ++ t) last acc

end rangesOfSteps

open rangesOfSteps in
/-- The complete numbers of a first part of a text give ranges of the text. -/
theorem mem_rangesOfSteps_append {s t : String} {r : Nat × Nat}
    (h : r ∈ go (numbers s.toList 0).dropLast 0 #[]) : r ∈ rangesOfSteps (s ++ t) := by
  obtain ⟨m, hm⟩ := numbers_append s.toList t.toList 0
  obtain ⟨more, hmore⟩ := go_append (numbers s.toList 0).dropLast (numbers t.toList m) 0 #[]
  rw [rangesOfSteps, String.toList_append, hm, hmore]
  exact Array.mem_append_left more h

/-- The ASCII letters may begin an identifier. -/
theorem ascii_letters_mem_startRanges : (65, 90) ∈ startRanges ∧ (97, 122) ∈ startRanges := by
  unfold startRanges
  -- only the first literal piece of the table is evaluated; the whole table is too large
  simp only [String.append_assoc]
  constructor <;> apply mem_rangesOfSteps_append <;> decide +kernel

/-- The ASCII digits and the underscore may continue an identifier but not begin one. -/
theorem ascii_digits_underscore_mem_continueOnlyRanges :
    (48, 57) ∈ continueOnlyRanges ∧ (95, 95) ∈ continueOnlyRanges := by
  unfold continueOnlyRanges
  simp only [String.append_assoc]
  constructor <;> apply mem_rangesOfSteps_append <;> decide +kernel

theorem inRanges_of_mem {ranges : Array (Nat × Nat)} {r : Nat × Nat} {n : Nat}
    (hr : r ∈ ranges) (hlo : r.1 ≤ n) (hhi : n ≤ r.2) : inRanges ranges n = true :=
  Array.any_eq_true'.2 ⟨r, hr, by simp [hlo, hhi]⟩

/-- Every character that `validIdentifier` keeps may continue an identifier. -/
theorem isIdentContinue_of_isWordChar {c : Char} (h : isWordChar c = true) :
    isIdentContinue c = true := by
  obtain ⟨hupper, hlower⟩ := ascii_letters_mem_startRanges
  obtain ⟨hdigit, hunder⟩ := ascii_digits_underscore_mem_continueOnlyRanges
  simp only [isWordChar, Char.isAlphanum, Char.isAlpha, Char.isUpper, Char.isLower, Char.isDigit,
    Bool.or_eq_true, Bool.and_eq_true, decide_eq_true_eq, beq_iff_eq, UInt32.le_iff_toNat_le,
    ge_iff_le] at h
  -- the bounds of each ASCII class as code points
  simp only [Char.toNat_val, Char.reduceToNat] at h
  rcases h with ((h | h) | h) | rfl
  · simp [isIdentContinue, inRanges_of_mem hupper h.1 h.2]
  · simp [isIdentContinue, inRanges_of_mem hlower h.1 h.2]
  · simp [isIdentContinue, inRanges_of_mem hdigit h.1 h.2]
  · simp [isIdentContinue, inRanges_of_mem hunder (Nat.le_refl 95) (Nat.le_refl 95)]

/-- An underscore before characters that may continue an identifier makes one. -/
theorem isIdentifier_underscore_append {s : String} (h : s.toList.all isIdentContinue = true) :
    isIdentifier ("_" ++ s) = true := by
  simp [isIdentifier, h]

/-- What `validIdentifier` makes of a non-empty text is an identifier. -/
theorem isIdentifier_validIdentifier {s : String} (hs : s ≠ "") :
    isIdentifier (validIdentifier s) = true := by
  unfold validIdentifier
  split
  · next hkeep => simpa [hs] using hkeep
  · -- the characters kept are ASCII letters, digits and underscores
    have hkept : (String.ofList (s.toList.filter isWordChar)).toList.all isIdentContinue := by
      simp only [String.toList_ofList, List.all_eq_true, List.mem_filter]
      exact fun c hc => isIdentContinue_of_isWordChar hc.2
    dsimp only
    split
    · assumption
    · exact isIdentifier_underscore_append hkept

/-- `validIdentifier` makes an identifier of every non-empty text, keeps exactly the identifiers,
    and a second pass changes nothing. -/
theorem validIdentifier_idempotent_fixing_identifiers {s : String} (hs : s ≠ "") :
    isIdentifier (validIdentifier s) = true ∧
      validIdentifier (validIdentifier s) = validIdentifier s ∧
      (validIdentifier s = s ↔ isIdentifier s = true) := by
  have hid := isIdentifier_validIdentifier hs
  exact ⟨hid, validIdentifier_of_isIdentifier hid,
    fun h => h ▸ hid, validIdentifier_of_isIdentifier⟩

theorem validIdentifier_idempotent_fixing_dashed_name :
    ("a-b" : String) ≠ "" ∧ isIdentifier (validIdentifier "a-b") = true ∧
      validIdentifier (validIdentifier "a-b") = validIdentifier "a-b" ∧
      (validIdentifier "a-b" = "a-b" ↔ isIdentifier "a-b" = true) :=
  ⟨by decide, validIdentifier_idempotent_fixing_identifiers (by decide)⟩

end Blueprints.Text
