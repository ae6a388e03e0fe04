import Mathlib

/-!
# Finite dictionaries and dictionaries of dictionaries

A dictionary is an association list without duplicate keys (`AList`).  Two-level dictionaries
`Dict κ (Dict ι ν)` are read through `lookup₂`, which does not tell an absent inner dictionary
from an empty one; `put₂`, `remove₂`, `prune₂` and `removeEach` change one inner entry, or the entry
of one inner key in several inner dictionaries.
-/

/-- A finite map from `κ` to `ν`. -/
abbrev Dict (κ ν : Type) := AList (fun _ : κ => ν)

namespace Dict

variable {κ ι ν : Type} [DecidableEq κ] [DecidableEq ι]

theorem lookup_insert (d : Dict κ ν) (k k' : κ) (v : ν) :
    (d.insert k v).lookup k' = if k' = k then some v else d.lookup k' := by
  split_ifs with h
  · subst h; exact AList.lookup_insert d
  · exact AList.lookup_insert_ne h

theorem lookup_erase (d : Dict κ ν) (k k' : κ) :
    (d.erase k).lookup k' = if k' = k then none else d.lookup k' := by
  split_ifs with h
  · subst h; exact AList.lookup_erase k' d
  · exact AList.lookup_erase_ne h

omit [DecidableEq κ] in
theorem list_lookup_of_notMem [BEq κ] [LawfulBEq κ] {l : List (κ × ν)} {k : κ}
    (h : k ∉ l.map Prod.fst) :
    l.lookup k = none := by
  rw [List.lookup_eq_none_iff]
  intro x hx
  have hne : k ≠ x.1 := fun heq => h (List.mem_map.2 ⟨x, hx, heq.symm⟩)
  simpa using hne

/-- The values of the dictionary, one for each key. -/
def values (d : Dict κ ν) : List ν := d.entries.map Sigma.snd

theorem mem_values {d : Dict κ ν} {v : ν} : v ∈ values d ↔ ∃ k, d.lookup k = some v := by
  simp only [values, List.mem_map]
  constructor
  · rintro ⟨⟨k, w⟩, hmem, rfl⟩
    exact ⟨k, AList.mem_lookup_iff.2 hmem⟩
  · rintro ⟨k, hk⟩
    exact ⟨⟨k, v⟩, AList.mem_lookup_iff.1 hk, rfl⟩

theorem lookup_isSome_of_mem_keys {d : Dict κ ν} {k : κ} (h : k ∈ d.keys) :
    ∃ v, d.lookup k = some v :=
  Option.isSome_iff_exists.1 (AList.lookup_isSome.2 h)

/-- Entries with different keys, written one after the other, are all found; `get` and `put` may be
those of any table. -/
theorem get_foldl [BEq κ] [LawfulBEq κ] {τ : Type*} (get : τ → κ → Option ν)
    {put : τ → κ × ν → τ} (hput : ∀ t x k, get (put t x) k = if k = x.1 then some x.2 else get t k)
    {l : List (κ × ν)} (hnodup : (l.map Prod.fst).Nodup) (t : τ) (k : κ) :
    get (l.foldl put t) k = (l.lookup k).or (get t k) := by
  induction l generalizing t with
  | nil => simp
  | cons x l ih =>
    obtain ⟨hnew, hnodup⟩ := List.nodup_cons.1 hnodup
    rw [List.foldl_cons, ih hnodup, hput]
    obtain ⟨key, v⟩ := x
    by_cases hkey : k = key
    · subst hkey
      simp [list_lookup_of_notMem hnew]
    · have hbeq : (k == key) = false := by simpa using hkey
      simp [List.lookup_cons, hbeq, hkey]

/-- The value of the last entry with the key. -/
def latest [BEq κ] (l : List (κ × ν)) (k : κ) : Option ν := l.reverse.lookup k

omit [DecidableEq κ] in
theorem list_lookup_map {μ : Type} [BEq κ] (f : ν → μ) (l : List (κ × ν)) (k : κ) :
    (l.map (Prod.map id f)).lookup k = (l.lookup k).map f := by
  induction l with
  | nil => rfl
  | cons x l ih =>
    obtain ⟨key, v⟩ := x
    simp only [List.map_cons, Prod.map_apply, id_eq, List.lookup_cons, ih]
    cases k == key with
    | true => rfl
    | false => rfl

omit [DecidableEq κ] in
theorem latest_map {μ : Type} [BEq κ] (f : ν → μ) (l : List (κ × ν)) (k : κ) :
    latest (l.map (Prod.map id f)) k = (latest l k).map f := by
  rw [latest, ← List.map_reverse, list_lookup_map, latest]

omit [DecidableEq κ] in
theorem latest_append [BEq κ] (l l' : List (κ × ν)) (k : κ) :
    latest (l ++ l') k = (latest l' k).or (latest l k) := by
  rw [latest, List.reverse_append, List.lookup_append, latest, latest]

omit [DecidableEq κ] in
/-- Lists with the same latest values, one after the other, have the same latest values. -/
theorem latest_flatMap_congr [BEq κ] {α β : Type*} {as : List α} {bs : List β}
    {f : α → List (κ × ν)} {g : β → List (κ × ν)} {k : κ}
    (h : List.Forall₂ (fun a b => latest (f a) k = latest (g b) k) as bs) :
    latest (as.flatMap f) k = latest (bs.flatMap g) k := by
  induction h with
  | nil => rfl
  | cons hab _ ih =>
    rw [List.flatMap_cons, List.flatMap_cons, latest_append, latest_append, ih, hab]

omit [DecidableEq κ] in
/-- Where every key stands once, its value is found. -/
theorem list_lookup_eq_some_iff [BEq κ] [LawfulBEq κ] {l : List (κ × ν)} {k : κ} {v : ν}
    (hnodup : (l.map Prod.fst).Nodup) : l.lookup k = some v ↔ (k, v) ∈ l := by
  induction l with
  | nil => simp
  | cons x l ih =>
    obtain ⟨key, w⟩ := x
    obtain ⟨hnew, hnodup⟩ := List.nodup_cons.1 hnodup
    by_cases hkey : k = key
    · subst hkey
      have hnone : (k, v) ∉ l := fun hmem => hnew (List.mem_map.2 ⟨_, hmem, rfl⟩)
      simp [hnone, eq_comm]
    · have hbeq : (k == key) = false := by simpa using hkey
      simp [List.lookup_cons, hbeq, hkey, ih hnodup]

omit [DecidableEq κ] in
theorem latest_eq_some_iff [BEq κ] [LawfulBEq κ] {l : List (κ × ν)} {k : κ} {v : ν}
    (hnodup : (l.map Prod.fst).Nodup) : latest l k = some v ↔ (k, v) ∈ l := by
  rw [latest, list_lookup_eq_some_iff (by rwa [List.map_reverse, List.nodup_reverse]),
    List.mem_reverse]

/-- Of entries written one after the other, the last one with a key is found. -/
theorem get_foldl_latest [BEq κ] [LawfulBEq κ] {τ : Type*} (get : τ → κ → Option ν)
    {put : τ → κ × ν → τ} (hput : ∀ t x k, get (put t x) k = if k = x.1 then some x.2 else get t k)
    (l : List (κ × ν)) (t : τ) (k : κ) :
    get (l.foldl put t) k = (latest l k).or (get t k) := by
  unfold latest
  induction l using List.reverseRecOn with
  | nil => simp
  | append_singleton l x ih =>
    obtain ⟨key, v⟩ := x
    rw [List.foldl_concat, hput, List.reverse_concat, List.lookup_cons]
    by_cases hkey : k = key
    · simp [hkey]
    · have hbeq : (k == key) = false := by simpa using hkey
      simp [hbeq, hkey, ih]

/-- Set the entry of `k` if it has none. -/
def insertNew (d : Dict κ ν) (k : κ) (v : ν) : Dict κ ν :=
  if (d.lookup k).isSome then d else d.insert k v

/-- The number of keys. -/
def size (d : Dict κ ν) : ℕ := d.keys.length

theorem insertNew_of_none {d : Dict κ ν} {k : κ} (h : d.lookup k = none) (v : ν) :
    d.insertNew k v = d.insert k v := by
  simp [insertNew, h]

theorem insertNew_of_some {d : Dict κ ν} {k : κ} {w : ν} (h : d.lookup k = some w) (v : ν) :
    d.insertNew k v = d := by
  simp [insertNew, h]

theorem size_insert_of_none {d : Dict κ ν} {k : κ} (h : d.lookup k = none) (v : ν) :
    size (d.insert k v) = size d + 1 := by
  have hk : k ∉ d.keys := AList.lookup_eq_none.1 h
  simp [size, AList.keys_insert, List.erase_of_not_mem hk]

/-! ### Two levels -/

/-- The entry of the outer key `a` and the inner key `b`. -/
def lookup₂ (d : Dict κ (Dict ι ν)) (a : κ) (b : ι) : Option ν :=
  (d.lookup a).bind fun m => m.lookup b

/-- Set the entry of `a` and `b`, in a fresh inner dictionary when `a` has none. -/
def put₂ (d : Dict κ (Dict ι ν)) (a : κ) (b : ι) (v : ν) : Dict κ (Dict ι ν) :=
  d.insert a (((d.lookup a).getD ∅).insert b v)

/-- Remove the entry of `a` and `b`; the inner dictionary stays, empty or not. -/
def remove₂ (d : Dict κ (Dict ι ν)) (a : κ) (b : ι) : Dict κ (Dict ι ν) :=
  match d.lookup a with
  | some m => d.insert a (m.erase b)
  | none => d

/-- Remove the entry of `a` and `b`, and the inner dictionary with it when it was the last one. -/
def prune₂ (d : Dict κ (Dict ι ν)) (a : κ) (b : ι) : Dict κ (Dict ι ν) :=
  match d.lookup a with
  | some m =>
    if (m.erase b).keys.length = 0 then (d.insert a (m.erase b)).erase a
    else d.insert a (m.erase b)
  | none => d

/-- Remove the entries of the inner key `b` in the inner dictionaries of `as`. -/
def removeEach (d : Dict κ (Dict ι ν)) (as : List κ) (b : ι) : Dict κ (Dict ι ν) :=
  as.foldl (fun d a => remove₂ d a b) d

theorem lookup₂_of_lookup {d : Dict κ (Dict ι ν)} {a : κ} {m : Dict ι ν}
    (h : d.lookup a = some m) (b : ι) : lookup₂ d a b = m.lookup b := by
  simp [lookup₂, h]

@[simp] theorem lookup₂_empty (a : κ) (b : ι) : lookup₂ (∅ : Dict κ (Dict ι ν)) a b = none := by
  simp [lookup₂]

theorem lookup₂_insert (d : Dict κ (Dict ι ν)) (a a' : κ) (m : Dict ι ν) (b : ι) :
    lookup₂ (d.insert a m) a' b = if a' = a then m.lookup b else lookup₂ d a' b := by
  unfold lookup₂
  rw [lookup_insert]
  split_ifs <;> rfl

/-- An empty inner dictionary for a new outer key adds no entry. -/
theorem lookup₂_insert_empty {d : Dict κ (Dict ι ν)} {a : κ} (h : d.lookup a = none) (a' : κ)
    (b : ι) : lookup₂ (d.insert a ∅) a' b = lookup₂ d a' b := by
  rw [lookup₂_insert]
  split_ifs with ha
  · subst ha; simp [lookup₂, h]
  · rfl

theorem lookup₂_put₂ (d : Dict κ (Dict ι ν)) (a a' : κ) (b b' : ι) (v : ν) :
    lookup₂ (put₂ d a b v) a' b' = if a' = a ∧ b' = b then some v else lookup₂ d a' b' := by
  rw [put₂, lookup₂_insert, lookup_insert]
  by_cases ha : a' = a
  · subst ha
    cases h : d.lookup a' <;> simp [lookup₂, h]
  · simp [ha]

theorem lookup_put₂ (d : Dict κ (Dict ι ν)) (a a' : κ) (b : ι) (v : ν) :
    (put₂ d a b v).lookup a' =
      if a' = a then some (((d.lookup a).getD ∅).insert b v) else d.lookup a' :=
  lookup_insert d a a' _

theorem lookup₂_remove₂ (d : Dict κ (Dict ι ν)) (a a' : κ) (b b' : ι) :
    lookup₂ (remove₂ d a b) a' b' = if a' = a ∧ b' = b then none else lookup₂ d a' b' := by
  unfold remove₂
  cases h : d.lookup a with
  | none =>
    by_cases ha : a' = a
    · subst ha; simp [lookup₂, h]
    · simp [ha]
  | some m =>
    simp only [lookup₂_insert, lookup_erase]
    by_cases ha : a' = a
    · subst ha; simp [lookup₂, h]
    · simp [ha]

theorem lookup_remove₂_isSome (d : Dict κ (Dict ι ν)) (a a' : κ) (b : ι) :
    ((remove₂ d a b).lookup a').isSome = (d.lookup a').isSome := by
  unfold remove₂
  cases h : d.lookup a with
  | none => rfl
  | some m =>
    simp only [lookup_insert]
    by_cases ha : a' = a
    · subst ha; simp [h]
    · simp [ha]

theorem lookup_eq_none_of_keys_length {m : Dict ι ν} (h : m.keys.length = 0) (b : ι) :
    m.lookup b = none := by
  refine AList.lookup_eq_none.2 fun hb => ?_
  rw [AList.mem_keys, List.length_eq_zero_iff.1 h] at hb
  exact List.not_mem_nil hb

theorem lookup₂_prune₂ (d : Dict κ (Dict ι ν)) (a a' : κ) (b b' : ι) :
    lookup₂ (prune₂ d a b) a' b' = if a' = a ∧ b' = b then none else lookup₂ d a' b' := by
  rw [← lookup₂_remove₂]
  unfold prune₂ remove₂
  cases h : d.lookup a with
  | none => rfl
  | some m =>
    by_cases hlast : (m.erase b).keys.length = 0
    · have hnone := lookup_eq_none_of_keys_length hlast b'
      rw [lookup_erase] at hnone
      simp only [hlast, if_true, lookup₂, lookup_erase, lookup_insert]
      split_ifs with ha
      · simp [lookup_erase, hnone]
      · rfl
    · simp only [hlast, if_false]

theorem lookup₂_removeEach (d : Dict κ (Dict ι ν)) (as : List κ) (a : κ) (b b' : ι) :
    lookup₂ (removeEach d as b) a b' = if a ∈ as ∧ b' = b then none else lookup₂ d a b' := by
  induction as generalizing d with
  | nil => simp [removeEach]
  | cons a₀ as ih =>
    have hrec := ih (remove₂ d a₀ b)
    simp only [removeEach, List.foldl_cons] at hrec ⊢
    rw [hrec, lookup₂_remove₂]
    by_cases hb : b' = b
    · by_cases ha : a = a₀ <;> simp [hb, ha]
    · simp [hb]

theorem lookup_removeEach_isSome (d : Dict κ (Dict ι ν)) (as : List κ) (a : κ) (b : ι) :
    ((removeEach d as b).lookup a).isSome = (d.lookup a).isSome := by
  induction as generalizing d with
  | nil => rfl
  | cons a₀ as ih => exact (ih (remove₂ d a₀ b)).trans (lookup_remove₂_isSome d a₀ a b)

/-- The same keys with other values. -/
def mapValues {μ : Type} (f : ν → μ) (d : Dict κ ν) : Dict κ μ where
  entries := d.entries.map (Sigma.map id fun _ => f)
  nodupKeys := List.NodupKeys.map₂ _ _ d.nodupKeys

theorem lookup_mapValues {μ : Type} (f : ν → μ) (d : Dict κ ν) (k : κ) :
    (mapValues f d).lookup k = (d.lookup k).map f :=
  List.dlookup_map₂ k

theorem lookup₂_mapValues {μ : Type} (f : ν → μ) (d : Dict κ (Dict ι ν)) (a : κ) (b : ι) :
    lookup₂ (mapValues (mapValues f) d) a b = (lookup₂ d a b).map f := by
  unfold lookup₂
  rw [lookup_mapValues]
  cases d.lookup a with
  | none => rfl
  | some m => exact lookup_mapValues f m b

/-- The values of both levels. -/
def values₂ (d : Dict κ (Dict ι ν)) : List ν := (values d).flatMap values

theorem mem_values₂ {d : Dict κ (Dict ι ν)} {v : ν} :
    v ∈ values₂ d ↔ ∃ a b, lookup₂ d a b = some v := by
  simp only [values₂, List.mem_flatMap, mem_values, lookup₂, Option.bind_eq_some_iff]
  constructor
  · rintro ⟨m, ⟨a, ha⟩, b, hb⟩
    exact ⟨a, b, m, ha, hb⟩
  · rintro ⟨a, b, m, ha, hb⟩
    exact ⟨m, ⟨a, ha⟩, b, hb⟩

/-- A value that stands at one key only is listed once. -/
theorem nodup_values {d : Dict κ ν}
    (h : ∀ {a b v}, d.lookup a = some v → d.lookup b = some v → a = b) : (values d).Nodup := by
  refine List.Nodup.map_on ?_ d.nodupKeys.nodup
  rintro ⟨a, v⟩ ha ⟨b, w⟩ hb heq
  obtain rfl : v = w := heq
  obtain rfl := h (AList.mem_lookup_iff.2 ha) (AList.mem_lookup_iff.2 hb)
  rfl

theorem nodup_values₂ {d : Dict κ (Dict ι ν)}
    (h : ∀ {a b a' b' v}, lookup₂ d a b = some v → lookup₂ d a' b' = some v → a = a' ∧ b = b') :
    (values₂ d).Nodup := by
  have hat {a : κ} {m : Dict ι ν} (ha : ⟨a, m⟩ ∈ d.entries) (b : ι) : lookup₂ d a b = m.lookup b :=
    lookup₂_of_lookup (AList.mem_lookup_iff.2 ha) b
  rw [values₂, List.nodup_flatMap]
  constructor
  · intro m hm
    obtain ⟨⟨a, m⟩, ha, rfl⟩ := List.mem_map.1 hm
    exact nodup_values fun hb hb' => (h ((hat ha _).trans hb) ((hat ha _).trans hb')).2
  · have hkeys := List.nodupKeys_iff_pairwise.1 d.nodupKeys
    refine List.pairwise_map.2 (hkeys.imp_of_mem ?_)
    rintro ⟨a, m⟩ ⟨a', m'⟩ ha ha' hne v hv hv'
    obtain ⟨b, hb⟩ := mem_values.1 hv
    obtain ⟨b', hb'⟩ := mem_values.1 hv'
    exact hne (h ((hat ha b).trans hb) ((hat ha' b').trans hb')).1

end Dict
