import Mathlib.Data.List.Induction
import Blueprints.Proofs.Api.Paging

namespace Blueprints.Api

open Http Library Text

theorem Value.equal_str_eq_isText (k : Value) (n : String) : k.equal (.str n) = k.isText n := by
  cases k <;> simp [Value.equal, Value.isText, Value.numeric?]

/-- Under a text name, adding a uuid sets that name's entry of the dictionary. -/
theorem addUuid_str (m : List (Value × Value)) (n : String) (u : Value) :
    addUuid m (.str n) u = match dictGet? m n with
      | some (.str f) => dictPut m n (.list ((splitBlanks f).map .str ++ [u]))
      | some (.list us) => dictPut m n (.list (us ++ [u]))
      | some _ => m
      | none => dictPut m n u := by
  simp only [addUuid, dictGet?, dictPut, Value.equal_str_eq_isText]
  cases h : m.find? (·.1.isText n) with
  | none =>
    have hany : m.any (·.1.isText n) = false := List.any_eq_false.2 (List.find?_eq_none.1 h)
    simp [hany]
  | some e =>
    have hany : m.any (·.1.isText n) = true :=
      List.any_eq_true.2 ⟨e, List.mem_of_find?_eq_some h, by simpa using List.find?_some h⟩
    obtain ⟨k, v⟩ := e
    cases v <;> simp [hany]

/-- The entry of a name after one more uuid of that name, as `addUuid` leaves it. -/
def extendEntry : Option Value → Value → Option Value
  | some (.str f), u => some (.list ((splitBlanks f).map .str ++ [u]))
  | some (.list us), u => some (.list (us ++ [u]))
  | some v, _ => some v
  | none, u => some u

/-- One more entity changes the entry of its own name, by `extendEntry`, and no other. -/
theorem dictGet?_addUuid (m : List (Value × Value)) (n k : String) (u : Value) :
    dictGet? (addUuid m (.str n) u) k =
      if k = n then extendEntry (dictGet? m n) u else dictGet? m k := by
  rw [addUuid_str]
  by_cases hk : k = n
  · subst hk
    split <;> simp_all [extendEntry]
  · have hne : n ≠ k := Ne.symm hk
    split <;> simp [hk, dictGet?_dictPut_of_ne hne]

/-- The uuids listed for `name`, in their order. -/
def uuidsOf (pairs : List (String × String)) (name : String) : List String :=
  (pairs.filter (·.1 = name)).map (·.2)

/-- The entry of a name listed with `uuids`: none for no entity, its uuid for one, and for more
    the words of the first uuid, then the other uuids. -/
def groupedEntry : List String → Option Value
  | [] => none
  | [u] => some (.str u)
  | u :: us => some (.list ((splitBlanks u ++ us).map .str))

theorem groupedEntry_append (us : List String) (u : String) :
    groupedEntry (us ++ [u]) = extendEntry (groupedEntry us) (.str u) := by
  rcases us with _ | ⟨v, _ | ⟨w, ws⟩⟩ <;> simp [groupedEntry, extendEntry]

theorem groupUuids_append (pairs : List (Value × Value)) (n u : Value) :
    groupUuids (pairs ++ [(n, u)]) = addUuid (groupUuids pairs) n u := by
  simp [groupUuids, List.foldl_append]

/-- The map of uuids by name, for entities with text names and uuids: each name looks up the
    entry that its uuids give, in the order of the entities. -/
theorem dictGet?_groupUuids (pairs : List (String × String)) (name : String) :
    dictGet? (groupUuids (pairs.map fun (n, u) => (.str n, .str u))) name =
      groupedEntry (uuidsOf pairs name) := by
  induction pairs using List.reverseRecOn with
  | nil => rfl
  | append_singleton ps p ih =>
    obtain ⟨n, u⟩ := p
    rw [List.map_append, List.map_singleton, groupUuids_append, dictGet?_addUuid]
    by_cases hn : name = n
    · subst hn
      simp [ih, uuidsOf, groupedEntry_append]
    · rw [if_neg hn, ih]
      simp [uuidsOf, Ne.symm hn]

-- two entities of one name give three uuids: the first uuid is split at its blank
example : dictGet? (groupUuids [(.str "x", .str "a b"), (.str "x", .str "c")]) "x" =
    some (.list [.str "a", .str "b", .str "c"]) := by
  cbv

/-- Reading characters without a blank only gathers them into one word. -/
theorem splitBlanks_go_of_no_blank (cs acc : List Char) (h : cs.all (!isBlankChar ·)) :
    splitBlanks.go cs acc =
      if (acc.reverse ++ cs).isEmpty then [] else [String.ofList (acc.reverse ++ cs)] := by
  induction cs generalizing acc with
  | nil => simp [splitBlanks.go]
  | cons c cs ih =>
    simp only [List.all_cons, Bool.and_eq_true, Bool.not_eq_eq_eq_not, Bool.not_true] at h
    rw [splitBlanks.go, if_neg (by simp [h.1]), ih (c :: acc) h.2]
    simp

/-- A nonempty text without blanks is one word. -/
theorem splitBlanks_of_no_blank {s : String} (hs : s ≠ "") (h : s.toList.all (!isBlankChar ·)) :
    splitBlanks s = [s] := by
  have hne : s.toList ≠ [] := fun h' => hs (String.toList_eq_nil_iff.1 h')
  simp [splitBlanks, splitBlanks_go_of_no_blank _ _ h, hne]

/-- With uuids that are nonempty and have no blanks, as the server's are, a name of one entity
    maps to its uuid and a name of several to the list of their uuids, in order. -/
theorem dictGet?_groupUuids_of_plain (pairs : List (String × String))
    (hplain : ∀ p ∈ pairs, p.2 ≠ "" ∧ p.2.toList.all (!isBlankChar ·)) (name : String) :
    dictGet? (groupUuids (pairs.map fun (n, u) => (.str n, .str u))) name =
      match uuidsOf pairs name with
      | [] => none
      | [u] => some (.str u)
      | us => some (.list (us.map .str)) := by
  rw [dictGet?_groupUuids]
  have hfirst : ∀ u ∈ uuidsOf pairs name, splitBlanks u = [u] := by
    intro u hu
    obtain ⟨p, hp, rfl⟩ := List.mem_map.1 hu
    have hplain' := hplain p (List.mem_filter.1 hp).1
    exact splitBlanks_of_no_blank hplain'.1 hplain'.2
  rcases h : uuidsOf pairs name with _ | ⟨u, _ | ⟨v, vs⟩⟩
  · rfl
  · rfl
  · simp [groupedEntry, hfirst u (by simp [h])]

theorem dictGet?_groupUuids_of_plain_repeated :
    dictGet? (groupUuids ([("x", "a1"), ("y", "d4"), ("x", "c3")].map fun (n, u) =>
      ((.str n : Value), (.str u : Value)))) "x" = some (.list [.str "a1", .str "c3"]) := by
  rw [dictGet?_groupUuids_of_plain _ (by decide)]
  rfl

end Blueprints.Api
