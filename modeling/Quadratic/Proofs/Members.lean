/-
Quadratic.Proofs.Members — rows of members in the order of first
assignment, with no key twice.

A row is only ever changed by assignment (`Value.put`). An assignment to
a key that is there keeps the place of the key, any other one adds the
key at the end; what that does to the keys is all that is needed to see
that they stay distinct.

* `nodup_keys_putAll` — a row of assignments keeps the keys distinct.
* `keys_putAll` — and adds those that are new at the end.
* `putAll_putAll` — assignments that were collected in a row of their own
  come to the same as the assignments one by one.
* `putAll_append` — keys that are new come after the others.
-/
import Quadratic.Value

namespace Quadratic

namespace Value

variable {α : Type}

/-- The keys of a row of members. -/
abbrev keys (ms : List (String × α)) : List String := ms.map Prod.fst

/-! ## 1. One assignment -/

theorem keys_put (key : String) (x : α) (ms : List (String × α)) :
    keys (put key x ms) = if key ∈ keys ms then keys ms else keys ms ++ [key] := by
  induction ms with
  | nil => rfl
  | cons m ms ih =>
    rw [put]
    by_cases hm : m.1 = key
    · subst hm
      simp [keys]
    · rw [if_neg hm]
      have hm' : ¬ key = m.1 := fun h => hm h.symm
      simp only [keys, List.map_cons, List.mem_cons, hm', false_or] at ih ⊢
      rw [ih]
      split <;> rfl

theorem mem_keys_put {key k : String} {x : α} {ms : List (String × α)} :
    k ∈ keys (put key x ms) ↔ k = key ∨ k ∈ keys ms := by
  rw [keys_put]
  split
  · rename_i h
    constructor
    · exact .inr
    · rintro (rfl | hk)
      · exact h
      · exact hk
  · rw [List.mem_append, List.mem_singleton, or_comm]

theorem nodup_keys_put {key : String} {x : α} {ms : List (String × α)} (h : (keys ms).Nodup) :
    (keys (put key x ms)).Nodup := by
  rw [keys_put]
  split
  · exact h
  · rename_i hkey
    exact List.nodup_append.mpr ⟨h, List.nodup_cons.mpr ⟨List.not_mem_nil, .nil⟩, fun a ha b hb hab =>
      hkey (List.mem_singleton.mp hb ▸ hab ▸ ha)⟩

/-- A new key comes after the others. -/
theorem put_append {key : String} {x : α} {ms : List (String × α)} (h : key ∉ keys ms)
    (ns : List (String × α)) : put key x (ms ++ ns) = ms ++ put key x ns := by
  induction ms with
  | nil => rfl
  | cons m ms ih =>
    obtain ⟨hm, hms⟩ := not_or.mp (fun h' => h (List.mem_cons.mpr h'))
    rw [List.cons_append, put, if_neg (fun h' => hm h'.symm), ih hms, List.cons_append]

theorem put_put (key : String) (x y : α) (ms : List (String × α)) :
    put key x (put key y ms) = put key x ms := by
  induction ms with
  | nil => simp [put]
  | cons m ms ih =>
    by_cases hm : m.1 = key <;> simp [put, hm, ih]

/-- Assignments to two keys can change places if one of the keys is there
already. -/
theorem put_comm {key k : String} (hne : key ≠ k) (x y : α) {ms : List (String × α)}
    (hkey : key ∈ keys ms) : put key x (put k y ms) = put k y (put key x ms) := by
  induction ms with
  | nil => cases hkey
  | cons m ms ih =>
    by_cases hm : m.1 = key
    · simp [put, hm, hne]
    · by_cases hk : m.1 = k
      · simp [put, hk, hne.symm]
      · have hkey' : key ∈ keys ms := (List.mem_cons.mp hkey).resolve_left fun h => hm h.symm
        simp [put, hm, hk, ih hkey']

theorem lookup?_cons (key k : String) (x : α) (ms : List (String × α)) :
    lookup? key ((k, x) :: ms) = if k = key then some x else lookup? key ms := by
  unfold lookup?
  by_cases h : k = key <;> simp [h]

theorem lookup?_put (key k : String) (x : α) (ms : List (String × α)) :
    lookup? key (put k x ms) = if k = key then some x else lookup? key ms := by
  induction ms with
  | nil => rw [put, lookup?_cons]
  | cons m ms ih =>
    rw [put]
    by_cases hm : m.1 = k
    · rw [if_pos hm, lookup?_cons, lookup?_cons, hm]
      split <;> rfl
    · rw [if_neg hm, lookup?_cons, ih, lookup?_cons]
      by_cases hk : k = key
      · rw [if_pos hk, if_pos hk, if_neg (hk ▸ hm)]
      · rw [if_neg hk, if_neg hk]

/-- In a row without a key twice, every member is found by its key. -/
theorem lookup?_of_mem {key : String} {x : α} {ms : List (String × α)} (hms : (keys ms).Nodup)
    (h : (key, x) ∈ ms) : lookup? key ms = some x := by
  induction ms with
  | nil => cases h
  | cons m ms ih =>
    obtain ⟨hm, hms'⟩ := List.nodup_cons.mp hms
    rw [lookup?_cons]
    rcases List.mem_cons.mp h with rfl | h
    · rw [if_pos rfl]
    · have hne : ¬ m.1 = key := fun heq => hm (heq ▸ List.mem_map_of_mem h)
      rw [if_neg hne, ih hms' h]

/-! ## 2. Rows of assignments -/

@[simp]
theorem putAll_cons (m : String × α) (as ms : List (String × α)) :
    putAll (m :: as) ms = putAll as (put m.1 m.2 ms) := rfl

theorem nodup_keys_putAll (as : List (String × α)) {ms : List (String × α)}
    (h : (keys ms).Nodup) : (keys (putAll as ms)).Nodup := by
  induction as generalizing ms with
  | nil => exact h
  | cons m as ih => exact ih (nodup_keys_put h)

theorem mem_keys_putAll {k : String} (as ms : List (String × α)) :
    k ∈ keys (putAll as ms) ↔ k ∈ keys as ∨ k ∈ keys ms := by
  induction as generalizing ms with
  | nil => exact (or_iff_right List.not_mem_nil).symm
  | cons m as ih =>
    rw [putAll_cons, ih, mem_keys_put]
    simp only [keys, List.map_cons, List.mem_cons, or_assoc, or_left_comm]

/-- Keys that are new come after the others. -/
theorem putAll_append {as ms : List (String × α)} (h : ∀ m ∈ as, m.1 ∉ keys ms)
    (ns : List (String × α)) : putAll as (ms ++ ns) = ms ++ putAll as ns := by
  induction as generalizing ns with
  | nil => rfl
  | cons m as ih =>
    rw [putAll_cons, put_append (h m (List.mem_cons_self ..)),
      ih (fun n hn => h n (List.mem_cons_of_mem _ hn)), putAll_cons]

theorem lookup?_putAll_of_not_mem {key : String} {as : List (String × α)} (h : key ∉ keys as)
    (ms : List (String × α)) : lookup? key (putAll as ms) = lookup? key ms := by
  induction as generalizing ms with
  | nil => rfl
  | cons m as ih =>
    obtain ⟨hm, has⟩ := not_or.mp (fun h' => h (List.mem_cons.mpr h'))
    rw [putAll_cons, ih has, lookup?_put, if_neg (fun h' => hm h'.symm)]

/-- The keys that a row of assignments adds to others: those that are new, in
the order in which each is assigned first. -/
def newKeys (as : List (String × α)) (ks : List String) : List String :=
  ((keys as).filter fun key => key ∉ ks).eraseDups

theorem newKeys_cons (m : String × α) (as : List (String × α)) (ks : List String) :
    newKeys (m :: as) ks =
      if m.1 ∈ ks then newKeys as ks else m.1 :: newKeys as (ks ++ [m.1]) := by
  rw [newKeys, keys, List.map_cons, List.filter_cons]
  by_cases hm : m.1 ∈ ks
  · rw [if_neg (by simp [hm]), if_pos hm]
    rfl
  · -- A later assignment to the same key does not add it once more.
    have hlater : ∀ key, (decide (key ∉ ks ++ [m.1])) = (!key == m.1 && decide (key ∉ ks)) := by
      intro key
      rw [Bool.eq_iff_iff]
      simp [and_comm]
    rw [if_pos (by simp [hm]), if_neg hm, List.eraseDups_cons, List.filter_filter, newKeys]
    simp only [hlater]

theorem mem_keys_of_mem_newKeys {as : List (String × α)} {ks : List String} {key : String}
    (h : key ∈ newKeys as ks) : key ∈ keys as :=
  (List.mem_filter.mp (List.mem_eraseDups.mp h)).1

/-- The keys of members after a row of assignments. -/
theorem keys_putAll (as ms : List (String × α)) :
    keys (putAll as ms) = keys ms ++ newKeys as (keys ms) := by
  induction as generalizing ms with
  | nil => exact (List.append_nil _).symm
  | cons m as ih =>
    rw [putAll_cons, ih, keys_put, newKeys_cons]
    by_cases hm : m.1 ∈ keys ms
    · rw [if_pos hm, if_pos hm]
    · rw [if_neg hm, if_neg hm, List.append_assoc, List.singleton_append]

/-- A key has the value of the last assignment to it. -/
theorem lookup?_putAll_of_last {key : String} {after : List (String × α)} (hafter : key ∉ keys after)
    (before : List (String × α)) (x : α) (ms : List (String × α)) :
    lookup? key (putAll (before ++ (key, x) :: after) ms) = some x := by
  have hsplit : putAll (before ++ (key, x) :: after) ms =
      putAll after (put key x (putAll before ms)) := by
    rw [putAll, List.foldl_append, List.foldl_cons]
    rfl
  rw [hsplit, lookup?_putAll_of_not_mem hafter, lookup?_put, if_pos rfl]

/-! ## 3. Assignments that were collected -/

theorem putAll_put_of_mem {key : String} {as : List (String × α)} (has : key ∉ keys as) (x : α)
    {ms : List (String × α)} (hms : key ∈ keys ms) :
    putAll as (put key x ms) = put key x (putAll as ms) := by
  induction as generalizing ms with
  | nil => rfl
  | cons m as ih =>
    obtain ⟨hm, has'⟩ := not_or.mp (fun h' => has (List.mem_cons.mpr h'))
    rw [putAll_cons, putAll_cons, ← put_comm hm x m.2 hms,
      ih has' (mem_keys_put.mpr (.inr hms))]

/-- An assignment in the row of collected assignments counts as one that
comes after them. -/
theorem putAll_put (key : String) (x : α) {as : List (String × α)} (has : (keys as).Nodup)
    (ms : List (String × α)) : putAll (put key x as) ms = put key x (putAll as ms) := by
  induction as generalizing ms with
  | nil => rfl
  | cons m as ih =>
    obtain ⟨hm, has'⟩ := List.nodup_cons.mp has
    rw [put]
    by_cases hkey : m.1 = key
    · -- The key is assigned first and again at the end: once is enough.
      subst hkey
      have hmem : m.1 ∈ keys (put m.1 m.2 ms) := mem_keys_put.mpr (.inl rfl)
      rw [if_pos rfl, putAll_cons, putAll_cons, ← putAll_put_of_mem hm x hmem, put_put]
    · rw [if_neg hkey, putAll_cons, putAll_cons, ih has']

/-- Assignments that were collected in a row come to the same as the
assignments one by one. -/
theorem putAll_putAll (as : List (String × α)) {bs : List (String × α)} (hbs : (keys bs).Nodup)
    (ms : List (String × α)) : putAll (putAll as bs) ms = putAll as (putAll bs ms) := by
  induction as generalizing bs with
  | nil => rfl
  | cons m as ih => rw [putAll_cons, ih (nodup_keys_put hbs), putAll_put _ _ hbs, putAll_cons]

end Value

end Quadratic
