/-
# Laws of maps in insertion order

The distinct elements of a list stand in the order of their first occurrence, and
grouping gives each distinct key exactly the values paired with it, in their
order.  Both functions work through a list from the left, so their laws are
stated for one more element at the end.
-/
import ClientGen.Ordered
import Mathlib.Algebra.GroupWithZero.Nat
import Mathlib.Data.List.Induction

namespace ClientGen.Ordered

variable {κ α : Type} [DecidableEq κ]

/-! ## Distinct elements -/

/-- Distinct elements are the elements. -/
theorem mem_distinct {l : List κ} {a : κ} : a ∈ distinct l ↔ a ∈ l := by
  induction l with
  | nil => exact Iff.rfl
  | cons b rest ih =>
      rw [distinct, List.mem_cons, List.mem_filter, List.mem_cons, ih]
      by_cases h : a = b
      · simp [h]
      · simp [h]

/-- No element stands twice among the distinct ones. -/
theorem nodup_distinct (l : List κ) : (distinct l).Nodup := by
  induction l with
  | nil => exact List.nodup_nil
  | cons b rest ih =>
      rw [distinct, List.nodup_cons]
      refine ⟨?_, ih.filter _⟩
      intro h
      simpa using (List.mem_filter.mp h).2

/-- One more element at the end counts unless it has occurred. -/
theorem distinct_concat (l : List κ) (a : κ) :
    distinct (l ++ [a]) = if a ∈ l then distinct l else distinct l ++ [a] := by
  induction l with
  | nil => rfl
  | cons b rest ih =>
      rw [List.cons_append, distinct, distinct, ih]
      by_cases h : a = b
      · subst h
        by_cases later : a ∈ rest
        · simp [later]
        · simp [later, List.filter_append]
      · by_cases later : a ∈ rest
        · simp [later]
        · simp [later, h, List.filter_append]

/-- The distinct elements that a second list adds to a first. -/
def added (l m : List κ) : List κ := (distinct m).filter (· ∉ l)

/-- What a second list adds is of it, and the first lacks it. -/
theorem mem_added {l m : List κ} {a : κ} : a ∈ added l m ↔ a ∈ m ∧ a ∉ l := by
  rw [added, List.mem_filter, mem_distinct, decide_eq_true_eq]

/-- What a second list adds depends on the elements of the first alone. -/
theorem added_congr {l l' : List κ} (m : List κ) (h : ∀ a, a ∈ l ↔ a ∈ l') :
    added l m = added l' m := by
  apply List.filter_congr
  intro a _
  rw [decide_eq_decide, h a]

/-- The distinct elements of two lists one after the other: those of the first, and
those that the second adds. -/
theorem distinct_append (l m : List κ) : distinct (l ++ m) = distinct l ++ added l m := by
  induction l with
  | nil =>
      rw [List.nil_append, distinct, List.nil_append, added, List.filter_eq_self.mpr]
      simp
  | cons a rest ih =>
      rw [List.cons_append, distinct, ih, List.filter_append, added, List.filter_filter, distinct,
        List.cons_append, added]
      congr 2
      apply List.filter_congr
      intro b _
      simp [not_or]

/-! ## Grouping -/

/-- The values paired with a key, in order. -/
def valuesOf (key : κ) (pairs : List (κ × α)) : List α := (pairs.filter (·.1 = key)).map (·.2)

/-- One more pair at the end adds a value to its own key alone. -/
theorem valuesOf_concat (key k : κ) (v : α) (pairs : List (κ × α)) :
    valuesOf key (pairs ++ [(k, v)]) =
      if k = key then valuesOf key pairs ++ [v] else valuesOf key pairs := by
  rw [valuesOf, List.filter_append]
  by_cases h : k = key
  · simp [h, valuesOf]
  · simp [h, valuesOf]

/-- A key without a pair has no values. -/
theorem valuesOf_eq_nil {key : κ} {pairs : List (κ × α)} (h : key ∉ pairs.map (·.1)) :
    valuesOf key pairs = [] := by
  rw [valuesOf, List.map_eq_nil_iff, List.filter_eq_nil_iff]
  intro pair among equal
  have : pair.1 = key := by simpa using equal
  exact h (this ▸ List.mem_map_of_mem among)

/-- Appending to a key, in a map that gives each of its keys a list: the key's
list grows if there is one, else the key goes to the end. -/
theorem append_map (key : κ) (value : α) (keys : List κ) (lists : κ → List α)
    (once : keys.Nodup) :
    append key value (keys.map fun k => (k, lists k)) =
      if key ∈ keys then keys.map fun k => (k, if key = k then lists k ++ [value] else lists k)
      else keys.map (fun k => (k, lists k)) ++ [(key, [value])] := by
  induction keys with
  | nil => rfl
  | cons k rest ih =>
      obtain ⟨new, later⟩ := List.nodup_cons.mp once
      rw [List.map_cons, append]
      by_cases h : k = key
      · subst h
        have others : ∀ x ∈ rest, (x, if k = x then lists x ++ [value] else lists x) =
            (x, lists x) := by
          intro x hx
          have different : k ≠ x := fun same => new (same ▸ hx)
          rw [if_neg different]
        rw [if_pos rfl, if_pos List.mem_cons_self, List.map_cons, if_pos rfl,
          List.map_congr_left others]
      · have h' : ¬ key = k := fun same => h same.symm
        rw [if_neg h, ih later]
        by_cases among : key ∈ rest
        · simp [among, h']
        · simp [among, h']

/-- Grouping takes the pairs one by one. -/
theorem groups_concat (pairs : List (κ × α)) (k : κ) (v : α) :
    groups (pairs ++ [(k, v)]) = append k v (groups pairs) := by
  rw [groups, List.foldl_append]
  rfl

/-- The groups of a list of pairs: its distinct keys in the order of their first
occurrence, each with the values paired with it. -/
theorem groups_eq (pairs : List (κ × α)) :
    groups pairs = (distinct (pairs.map (·.1))).map fun k => (k, valuesOf k pairs) := by
  induction pairs using List.reverseRecOn with
  | nil => rfl
  | append_singleton pairs pair ih =>
      obtain ⟨k, v⟩ := pair
      rw [groups_concat, ih, append_map _ _ _ _ (nodup_distinct _), List.map_append,
        List.map_singleton, distinct_concat]
      by_cases known : k ∈ pairs.map (·.1)
      · rw [if_pos (mem_distinct.mpr known), if_pos known]
        apply List.map_congr_left
        intro key _
        rw [valuesOf_concat]
      · rw [if_neg (fun h => known (mem_distinct.mp h)), if_neg known, List.map_append,
          List.map_singleton, valuesOf_concat, if_pos rfl, valuesOf_eq_nil known, List.nil_append]
        congr 1
        apply List.map_congr_left
        intro key among
        have different : ¬ k = key := fun same => known (same ▸ mem_distinct.mp among)
        rw [valuesOf_concat, if_neg different]

/-- Grouping keeps every value: the groups together hold as many as there are
pairs. -/
theorem sum_length_groups (pairs : List (κ × α)) :
    ((groups pairs).map (·.2.length)).sum = pairs.length := by
  induction pairs using List.reverseRecOn with
  | nil => rfl
  | append_singleton pairs pair ih =>
      obtain ⟨k, v⟩ := pair
      have grows : ∀ m : List (κ × List α),
          ((append k v m).map (·.2.length)).sum = (m.map (·.2.length)).sum + 1 := by
        intro m
        induction m with
        | nil => rfl
        | cons entry rest step =>
            obtain ⟨key, values⟩ := entry
            rw [append]
            by_cases h : key = k
            · simp [h]
              omega
            · simp [h, step]
              omega
      rw [groups_concat, grows, ih, List.length_append]
      rfl

/-! ## Putting -/

variable {β : Type}

/-- Values may be changed before they are put in or after it. -/
theorem put_map (f : α → β) (key : κ) (value : α) (m : List (κ × α)) :
    put key (f value) (m.map (Prod.map id f)) = (put key value m).map (Prod.map id f) := by
  induction m with
  | nil => rfl
  | cons entry rest ih =>
      rw [List.map_cons, put, Prod.map, id, put]
      split
      · rfl
      · rw [ih]
        rfl

/-- A key is looked up in the first part, and then in the second. -/
theorem get?_append (key : κ) (front back : List (κ × α)) :
    get? key (front ++ back) = (get? key front).or (get? key back) := by
  induction front with
  | nil => rfl
  | cons entry rest ih =>
      rw [List.cons_append, get?, get?, ih]
      split <;> rfl

/-- A key that does not occur has no value. -/
theorem get?_eq_none {key : κ} {m : List (κ × α)} (absent : key ∉ m.map (·.1)) :
    get? key m = none := by
  induction m with
  | nil => rfl
  | cons entry rest ih =>
      obtain ⟨other, absent⟩ := not_or.mp (mt List.mem_cons.mpr absent)
      rw [get?, if_neg (Ne.symm other), ih absent]

/-- What a map gives for a key after putting. -/
theorem get?_put (key k : κ) (value : α) (m : List (κ × α)) :
    get? k (put key value m) = if key = k then some value else get? k m := by
  induction m with
  | nil => rfl
  | cons entry rest ih =>
      obtain ⟨k', v⟩ := entry
      rw [put]
      by_cases same : k' = key
      · subst same
        rw [if_pos rfl, get?, get?]
        split <;> rfl
      · rw [if_neg same, get?, get?, ih]
        by_cases here : k' = k
        · subst here
          rw [if_pos rfl, if_pos rfl, if_neg fun h => same h.symm]
        · rw [if_neg here, if_neg here]

/-- Where no key occurs twice, a map gives for a key just the value paired with it. -/
theorem get?_eq_some_iff {m : List (κ × α)} (distinct : (m.map (·.1)).Nodup) {key : κ} {value : α} :
    get? key m = some value ↔ (key, value) ∈ m := by
  induction m with
  | nil => simp [get?]
  | cons entry rest ih =>
      obtain ⟨k, v⟩ := entry
      obtain ⟨new, later⟩ := List.nodup_cons.mp distinct
      rw [get?, List.mem_cons, Prod.mk.injEq]
      by_cases same : k = key
      · subst same
        have absent : (k, value) ∉ rest := fun among => new (List.mem_map_of_mem (f := (·.1)) among)
        simp [absent, eq_comm]
      · rw [if_neg same, ih later]
        simp [Ne.symm same]

/-- Putting what a map gives already changes nothing. -/
theorem put_eq_self {key : κ} {value : α} {m : List (κ × α)} (h : get? key m = some value) :
    put key value m = m := by
  induction m with
  | nil => cases h
  | cons entry rest ih =>
      rw [get?] at h
      rw [put]
      split at h
      · rename_i same
        rw [if_pos same, ← same, ← Option.some.inj h]
      · rename_i different
        rw [if_neg different, ih h]

/-- Of two values put for one key, the second counts. -/
theorem put_put (key : κ) (first second : α) (m : List (κ × α)) :
    put key second (put key first m) = put key second m := by
  induction m with
  | nil => simp [put]
  | cons entry rest ih =>
      rw [put]
      by_cases same : entry.1 = key
      · rw [if_pos same, put, put, if_pos rfl, if_pos same]
      · rw [if_neg same, put, put, if_neg same, if_neg same, ih]

/-- Values for two keys that a map has may be put in either order. -/
theorem put_comm {key key' : κ} (different : key ≠ key') (value value' : α) {m : List (κ × α)}
    (known : (get? key m).isSome) (known' : (get? key' m).isSome) :
    put key value (put key' value' m) = put key' value' (put key value m) := by
  induction m with
  | nil => cases known
  | cons entry rest ih =>
      rw [get?] at known known'
      by_cases first : entry.1 = key
      · have second : ¬ entry.1 = key' := fun same => different (first.symm.trans same)
        simp [put, first, different]
      · by_cases second : entry.1 = key'
        · simp [put, second, different.symm]
        · rw [if_neg first] at known
          rw [if_neg second] at known'
          simp [put, first, second, ih known known']

/-- What stands in a map after putting stood in it before or was put. -/
theorem mem_put {key : κ} {value : α} {m : List (κ × α)} {entry : κ × α}
    (h : entry ∈ put key value m) : entry = (key, value) ∨ entry ∈ m := by
  induction m with
  | nil => exact Or.inl (List.mem_singleton.mp h)
  | cons first rest ih =>
      rw [put] at h
      split at h
      · exact (List.mem_cons.mp h).imp_right (List.mem_cons_of_mem _)
      · rcases List.mem_cons.mp h with rfl | later
        · exact Or.inr List.mem_cons_self
        · exact (ih later).imp_right (List.mem_cons_of_mem _)

/-- Putting keeps the keys, and a new key goes to the end. -/
theorem keys_put (key : κ) (value : α) (m : List (κ × α)) :
    (put key value m).map (·.1) =
      if key ∈ m.map (·.1) then m.map (·.1) else m.map (·.1) ++ [key] := by
  induction m with
  | nil => rfl
  | cons entry rest ih =>
      rw [put]
      by_cases same : entry.1 = key
      · simp [same]
      · rw [if_neg same, List.map_cons, ih, List.map_cons]
        by_cases later : key ∈ rest.map (·.1)
        · rw [if_pos later, if_pos (List.mem_cons_of_mem _ later)]
        · rw [if_neg later, if_neg (List.not_mem_cons_of_ne_of_not_mem (Ne.symm same) later)]
          rfl

/-- Where the keys are the distinct elements of a list, putting a value for one more element
keeps this. -/
theorem keys_put_of_keys_eq {m : List (κ × α)} {l : List κ} (keys : m.map (·.1) = distinct l)
    (key : κ) (value : α) : (put key value m).map (·.1) = distinct (l ++ [key]) := by
  rw [keys_put, keys, distinct_concat]
  simp only [mem_distinct]

theorem ofPairs_concat (pairs : List (κ × α)) (key : κ) (value : α) :
    ofPairs (pairs ++ [(key, value)]) = put key value (ofPairs pairs) := by
  rw [ofPairs, List.foldl_append]
  rfl

/-- A map of pairs holds only the pairs. -/
theorem mem_of_mem_ofPairs {pairs : List (κ × α)} {entry : κ × α} (h : entry ∈ ofPairs pairs) :
    entry ∈ pairs := by
  induction pairs using List.reverseRecOn with
  | nil => cases h
  | append_singleton pairs pair ih =>
      rw [ofPairs_concat] at h
      rcases mem_put h with rfl | earlier
      · exact List.mem_append_right _ List.mem_cons_self
      · exact List.mem_append_left _ (ih earlier)

/-- A map of pairs has the distinct keys of the pairs, in the order of their first
occurrence. -/
theorem keys_ofPairs (pairs : List (κ × α)) :
    (ofPairs pairs).map (·.1) = distinct (pairs.map (·.1)) := by
  induction pairs using List.reverseRecOn with
  | nil => rfl
  | append_singleton pairs pair ih =>
      obtain ⟨key, value⟩ := pair
      rw [ofPairs_concat, keys_put_of_keys_eq ih, List.map_append, List.map_singleton]

/-- A map of pairs gives for a key the last of the values paired with it. -/
theorem get?_ofPairs (key : κ) (pairs : List (κ × α)) :
    get? key (ofPairs pairs) = (valuesOf key pairs).getLast? := by
  induction pairs using List.reverseRecOn with
  | nil => rfl
  | append_singleton pairs pair ih =>
      obtain ⟨k, value⟩ := pair
      rw [ofPairs_concat, get?_put, valuesOf_concat]
      split
      · rw [List.getLast?_concat]
      · exact ih

/-- A pair stands in a map of pairs exactly if it is the last one with its key. -/
theorem mem_ofPairs_iff {pairs : List (κ × α)} {key : κ} {value : α} :
    (key, value) ∈ ofPairs pairs ↔ (valuesOf key pairs).getLast? = some value := by
  have once : ((ofPairs pairs).map (·.1)).Nodup := by
    rw [keys_ofPairs]
    exact nodup_distinct _
  rw [← get?_eq_some_iff once, get?_ofPairs]

end ClientGen.Ordered
