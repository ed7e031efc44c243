import Blueprints.Api.Resource
import Blueprints.Proofs.Build

namespace Blueprints.Api

open Http Library

section Dict

theorem dictGet?_cons_of_not {k : String} {key x : Value} {rest : List (Value × Value)}
    (h : key.isText k = false) : dictGet? ((key, x) :: rest) k = dictGet? rest k := by
  simp [dictGet?, h]

theorem dictPut_cons_of_not {k : String} {key x v : Value} {rest : List (Value × Value)}
    (h : key.isText k = false) : dictPut ((key, x) :: rest) k v = (key, x) :: dictPut rest k v := by
  by_cases hrest : rest.any (·.1.isText k) = true
  · simp [dictPut, h, hrest]
  · simp only [Bool.not_eq_true] at hrest
    simp [dictPut, h, hrest]

theorem dictPut_cons_of_isText {k : String} {key x v : Value} {rest : List (Value × Value)}
    (h : key.isText k = true) : dictPut ((key, x) :: rest) k v =
      (key, v) :: (if rest.any (·.1.isText k) then dictPut rest k v else rest) := by
  by_cases hrest : rest.any (·.1.isText k) = true
  · simp [dictPut, h, hrest]
  · -- no later entry names `k`, so replacing its value leaves each of them as it is
    have hnone : rest.any (·.1.isText k) = false := by simpa using hrest
    simp only [dictPut, List.any_cons, h, hnone, Bool.true_or, if_true, List.map_cons,
      Bool.false_eq_true, if_false, List.cons.injEq, true_and]
    rw [List.any_eq_false] at hnone
    exact (List.map_congr_left fun e he => by simp [hnone e he]).trans (List.map_id rest)

@[simp] theorem dictGet?_dictPut_self (es : List (Value × Value)) (k : String) (v : Value) :
    dictGet? (dictPut es k v) k = some v := by
  induction es with
  | nil => simp [dictPut, dictGet?, Value.isText]
  | cons e rest ih =>
    obtain ⟨key, x⟩ := e
    cases h : key.isText k with
    | true => simp [dictPut, dictGet?, h]
    | false =>
      rw [dictPut_cons_of_not h]
      simpa [dictGet?, h] using ih

theorem dictGet?_dictPut_of_ne {k k' : String} (hne : k ≠ k') (es : List (Value × Value))
    (v : Value) : dictGet? (dictPut es k v) k' = dictGet? es k' := by
  induction es with
  | nil => simp [dictPut, dictGet?, Value.isText, hne]
  | cons e rest ih =>
    obtain ⟨key, x⟩ := e
    cases h : key.isText k with
    | true =>
      -- the entry names `k`, so it is not the one named `k'`
      have h' : key.isText k' = false := by
        cases key <;> simp_all [Value.isText]
      rw [dictPut_cons_of_isText h, dictGet?_cons_of_not h', dictGet?_cons_of_not h']
      split
      · exact ih
      · rfl
    | false =>
      rw [dictPut_cons_of_not h]
      by_cases h' : key.isText k' = true
      · simp [dictGet?, h']
      · simpa [dictGet?, h'] using ih

/-- The parameters of a listing ask for the page length they were given. -/
@[simp] theorem dictGet?_listParams_length (base : List (Value × Value)) (length : Value) :
    dictGet? (listParams base length) "length" = some length := by
  simp only [listParams]
  repeat' split
  all_goals simp [dictGet?_dictPut_of_ne]

end Dict

/-- The items of a list from a position on, at most `b` of them, as a slice of it takes them. -/
theorem sliceItems_natCast {α : Type} (xs : List α) (a b : Nat) :
    sliceItems xs a (a + b) = (xs.drop a).take b := by
  have hmin : ∀ m : Nat, (min (m : Int) (xs.length : Int)).toNat = min m xs.length := by
    intro m
    omega
  have hdrop : xs.drop (min a xs.length) = xs.drop a := by
    rcases Nat.le_total a xs.length with h | h
    · rw [Nat.min_eq_left h]
    · rw [Nat.min_eq_right h, List.drop_length, List.drop_eq_nil_of_le h]
  have hcast : ((a : Int) + b) = ((a + b : Nat) : Int) := by omega
  unfold sliceItems
  simp only [hcast, Int.natCast_nonneg, Int.not_lt.mpr, if_false, hmin, hdrop]
  rw [List.take_eq_take_iff, List.length_drop]
  omega

/-- The answer of a server that lists `E`, for the page at offset `o` of length `l`: the slice
    `E[o : o + l]`, with the length of `E` as the number of matches. -/
def slicePage (E : List Json) (o l : Int) : Outcome :=
  let page := listAnswer (sliceItems E o (o + l)) (some E.length)
  ⟨some { status := 200, content := .json page, url := "" }, none⟩

/-- `call` answers every request for the page at offset `o` of length `l` with
    `slicePage E o l`, leaving the session as `next` records the request. -/
def ListsSlices (call : Value → Build Outcome) (E : List Json) (next : Session → Value → Session) :
    Prop :=
  ∀ (p : List (Value × Value)) (o l : Int) (s : Session),
    dictGet? p "offset" = some (.int o) → dictGet? p "length" = some (.int l) →
      Id.run ((call (.dict p)).run.run s) = (.ok (slicePage E o l), next s (.dict p))

/-- The pages that hold `n` entities, `l` a page: `⌈n / l⌉`, and at least one. -/
def pageCount (n l : Nat) : Nat := max 1 ((n + l - 1) / l)

/-- `pageCount n l` is the least positive number of pages of length `l` that hold `n` entities. -/
theorem le_mul_iff_pageCount_le {n l j : Nat} (hl : 0 < l) (hj : 0 < j) :
    n ≤ j * l ↔ pageCount n l ≤ j := by
  have hdiv : (n + l - 1) / l < j + 1 ↔ n + l - 1 < (j + 1) * l := Nat.div_lt_iff_lt_mul hl
  rw [Nat.add_mul, Nat.one_mul] at hdiv
  unfold pageCount
  rw [Nat.max_le]
  omega

/-- The request for the page with index `i` of a listing with pages of length `l`. -/
def pageRequest (params : List (Value × Value)) (l : Int) (i : Nat) : Value :=
  .dict (dictPut params "offset" (.int (i * l)))

variable {call : Value → Build Outcome} {E : List Json} {next : Session → Value → Session}
  {params : List (Value × Value)} {ignoreError : Bool}

/-- One round of reading: the page at offset `o` is read and its entities follow those found. -/
theorem readPages_succ (hE : ListsSlices call E next) {l o : Int}
    (hlen : dictGet? params "length" = some (.int l)) (fuel : Nat) (found : List Value)
    (s : Session) :
    Id.run ((readPages call params (.int l) ignoreError (fuel + 1) (.int o) found).run.run s) =
      if (E.length : Int) ≤ l + o then
        (.ok (if ignoreError then .tuple [.list (found ++ (sliceItems E o (o + l)).map Value.ofJson),
          .none] else .list (found ++ (sliceItems E o (o + l)).map Value.ofJson)),
          next s (.dict (dictPut params "offset" (.int o))))
      else Id.run ((readPages call params (.int l) ignoreError fuel (.int (o + l))
          (found ++ (sliceItems E o (o + l)).map Value.ofJson)).run.run
        (next s (.dict (dictPut params "offset" (.int o))))) := by
  have hcall := hE (dictPut params "offset" (.int o)) o l s (by simp)
    (by rw [dictGet?_dictPut_of_ne (by decide)]; exact hlen)
  simp only [readPages]
  rw [Build.Runs.run_bind hcall]
  simp [slicePage, Outcome.json, Response.json, at!, path!, subscript, iterate, listAnswer,
    Value.ofJson, Value.equal, compareValues, Value.numeric?, arith]
  split <;> rfl

/-- The entities of `E` before the page with index `i + 1`: those before the page with index `i`,
    then that page's slice. -/
theorem take_succ_mul_eq (E : List Json) (i m : Nat) :
    (E.take (i * m)).map Value.ofJson ++ (sliceItems E (i * m) (i * m + m)).map Value.ofJson =
      (E.take ((i + 1) * m)).map Value.ofJson := by
  have hcast : ((i : Int) * m) = ((i * m : Nat) : Int) := by push_cast; rfl
  rw [hcast, sliceItems_natCast, ← List.map_append, ← List.take_add, Nat.succ_mul]

/-- From the page with index `i` on, the listing reads each page to the last and gives `E` whole
    when the fuel lasts that long, and otherwise uses the fuel up. -/
theorem readPages_lists (hE : ListsSlices call E next) {m : Nat} (hm : 0 < m)
    (hlen : dictGet? params "length" = some (.int m)) :
    ∀ (fuel i : Nat) (s : Session), i < pageCount E.length m →
      Id.run ((readPages call params (.int m) ignoreError fuel (.int (i * m))
        ((E.take (i * m)).map Value.ofJson)).run.run s) =
      if pageCount E.length m ≤ i + fuel then
        (.ok (if ignoreError then .tuple [.list (E.map Value.ofJson), .none]
          else .list (E.map Value.ofJson)),
          ((List.range' i (pageCount E.length m - i)).map (pageRequest params m)).foldl next s)
      else (.error .endless, ((List.range' i fuel).map (pageRequest params m)).foldl next s) := by
  intro fuel
  induction fuel with
  | zero =>
    intro i s hi
    simp [readPages, hi]
  | succ fuel ih =>
    intro i s hi
    rw [readPages_succ hE hlen, take_succ_mul_eq]
    -- the page ends the listing exactly when it is the last
    have hlast : ((E.length : Int) ≤ m + i * m) ↔ pageCount E.length m ≤ i + 1 := by
      rw [← le_mul_iff_pageCount_le hm (Nat.succ_pos i), Nat.succ_mul]
      omega
    by_cases hend : pageCount E.length m ≤ i + 1
    · have hk : pageCount E.length m - i = 1 := by omega
      have hall : E.take ((i + 1) * m) = E := by
        exact List.take_of_length_le ((le_mul_iff_pageCount_le hm (Nat.succ_pos i)).2 hend)
      simp [hlast.2 hend, hall, hk, show pageCount E.length m ≤ i + (fuel + 1) by omega,
        pageRequest]
    · have hoffset : (i : Int) * m + m = ((i + 1 : Nat) : Int) * m := by
        push_cast
        rw [Int.add_mul, Int.one_mul]
      rw [if_neg (mt hlast.1 hend), hoffset, ih (i + 1) _ (by omega)]
      have hk : pageCount E.length m - i = (pageCount E.length m - (i + 1)) + 1 := by omega
      simp only [show i + 1 + fuel = i + (fuel + 1) by omega, hk, List.range'_succ,
        List.map_cons, List.foldl_cons]
      rfl

/-- With a length that is not positive the offset never grows, so no page of a nonempty `E`
    ends the listing. -/
theorem readPages_endless (hE : ListsSlices call E next) {l : Int} (hl : l ≤ 0) (hne : E ≠ [])
    (hlen : dictGet? params "length" = some (.int l)) :
    ∀ (fuel : Nat) (o : Int) (found : List Value) (s : Session), o ≤ 0 →
      ∃ s', Id.run ((readPages call params (.int l) ignoreError fuel (.int o) found).run.run s) =
        (.error .endless, s') := by
  have hpos : 0 < E.length := List.length_pos_iff.mpr hne
  intro fuel
  induction fuel with
  | zero => exact fun o found s _ => ⟨s, by simp [readPages]⟩
  | succ fuel ih =>
    intro o found s ho
    rw [readPages_succ hE hlen, if_neg (by omega)]
    exact ih (o + l) _ _ (by omega)

theorem pageCount_pos (n l : Nat) : 0 < pageCount n l :=
  Nat.lt_of_lt_of_le Nat.one_pos (Nat.le_max_left _ _)

/-- Listing everything from a server that lists `E` a slice at a time. With a positive page
    length `l` it asks for the pages at offsets `0, l, 2l, …` below `|E|`, each once, in order and
    at least one, and gives `E` whole and in order; fuel below that page count is used up first.
    With a length that is not positive and `E` not empty, every bound on the pages is used up. -/
theorem listAllWith_lists_each_entity_once (hE : ListsSlices call E next) {apiLimit : Value}
    {base : List (Value × Value)} {l : Int}
    (hlength : (dictGet? base "length").getD apiLimit = .int l) (fuel : Nat) (s : Session) :
    (0 < l → Id.run ((listAllWith call fuel apiLimit (.dict base) ignoreError).run.run s) =
      if pageCount E.length l.toNat ≤ fuel then
        (.ok (if ignoreError then .tuple [.list (E.map Value.ofJson), .none]
          else .list (E.map Value.ofJson)),
          ((List.range (pageCount E.length l.toNat)).map
            (pageRequest (listParams base (.int l)) l)).foldl next s)
      else (.error .endless,
        ((List.range fuel).map (pageRequest (listParams base (.int l)) l)).foldl next s)) ∧
    (l ≤ 0 → E ≠ [] → ∃ s', Id.run ((listAllWith call fuel apiLimit (.dict base)
      ignoreError).run.run s) = (.error .endless, s')) := by
  have hrun : listAllWith call fuel apiLimit (.dict base) ignoreError =
      readPages call (listParams base (.int l)) (.int l) ignoreError fuel (.int 0) [] := by
    simp [listAllWith, hlength]
  rw [hrun]
  refine ⟨fun hl => ?_, fun hl hne => ?_⟩
  · obtain ⟨m, rfl⟩ := Int.eq_ofNat_of_zero_le (Int.le_of_lt hl)
    have hfirst := @readPages_lists call E next (listParams base (.int m)) ignoreError hE m
      (by omega) (dictGet?_listParams_length base _) fuel 0 s (pageCount_pos _ _)
    have hzero : ((0 : Nat) : Int) * (m : Int) = 0 := Int.zero_mul _
    simp only [hzero, Nat.zero_mul, List.take_zero, List.map_nil, Nat.zero_add,
      Nat.sub_zero] at hfirst
    simp only [hfirst, Int.toNat_natCast, List.range_eq_range']
  · exact readPages_endless hE hl hne (dictGet?_listParams_length base _) fuel 0 [] s (Int.le_refl 0)

/-- A server of the listing of `E` that answers each request naming an offset and a length. -/
def sliceServer (E : List Json) (p : Value) : Build Outcome :=
  match p with
  | .dict ps =>
    match dictGet? ps "offset", dictGet? ps "length" with
    | some (.int o), some (.int l) => pure (slicePage E o l)
    | _, _ => throw (.badRequest "no page asked for")
  | _ => throw (.badRequest "no page asked for")

theorem sliceServer_lists (E : List Json) : ListsSlices (sliceServer E) E (fun s _ => s) := by
  intro p o l s ho hl
  simp [sliceServer, ho, hl]

/-- Three entities, two at a time: two pages give all three. -/
theorem listAllWith_lists_three_in_two_pages :
    ListsSlices (sliceServer [.int 1, .int 2, .int 3]) [.int 1, .int 2, .int 3] (fun s _ => s) ∧
    Id.run ((listAllWith (sliceServer [.int 1, .int 2, .int 3]) 2 (.int 250)
      (.dict [(.str "length", .int 2)]) false).run.run {}) =
        (.ok (.list [.int 1, .int 2, .int 3]), {}) := by
  refine ⟨sliceServer_lists _, ?_⟩
  rw [(listAllWith_lists_each_entity_once (sliceServer_lists _) (l := 2) rfl 2 {}).1 (by decide)]
  have hpages : pageCount [Json.int 1, Json.int 2, Json.int 3].length (Int.toNat 2) = 2 := by
    decide
  simp only [hpages, Nat.le_refl, if_true, Bool.false_eq_true, if_false, List.map_cons,
    List.map_nil, Value.ofJson, List.foldl_map]
  rfl

end Blueprints.Api
