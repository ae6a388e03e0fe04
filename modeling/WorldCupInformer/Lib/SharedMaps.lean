import WorldCupInformer.Lib.Dictionary

/-!
# A map of maps shared by threads

The values of the outer map are references to inner maps, which are changed in place; a thread can
hold a reference that the outer map has lost.  An inner map is named by how it came about: it was
there under its outer key in the beginning, or a thread has created it.  Every thread creates one
inner map at most.

* `entry`: what is found under an outer and an inner key;
* `entry_putNew_self`, `entry_put`: a fresh inner map hides the entries of its outer key, an entry
  that is put into an inner map is found if the outer map still holds it;
* `entry_put_initial`, `entry_put_created`: a thread that is not interrupted does what `Dict.put₂`
  does.
-/

/-- The name of an inner map. -/
inductive MapRef (ι κ : Type)
  | initial (key : κ)
  | created (thread : ι)
  deriving DecidableEq

/-- The outer map, and the contents of the inner maps. -/
structure MapOfMaps (ι κ μ ν : Type) where
  table : κ → Option (MapRef ι κ)
  contents : MapRef ι κ → μ → Option ν

namespace MapOfMaps

variable {ι κ μ ν : Type}

/-- The entry of an outer and an inner key. -/
def entry (m : MapOfMaps ι κ μ ν) (key : κ) (inner : μ) : Option ν :=
  (m.table key).bind fun r => m.contents r inner

theorem entry_eq {m : MapOfMaps ι κ μ ν} {key : κ} {r : MapRef ι κ} (h : m.table key = some r)
    (inner : μ) : m.entry key inner = m.contents r inner := by
  simp [entry, h]

variable [DecidableEq κ] [DecidableEq μ]

/-- A dictionary of dictionaries as the shared maps in the beginning. -/
def ofDict (d : Dict κ (Dict μ ν)) : MapOfMaps ι κ μ ν where
  table key := (d.lookup key).map fun _ => .initial key
  contents
    | .initial key, inner => Dict.lookup₂ d key inner
    | .created _, _ => none

theorem entry_ofDict (d : Dict κ (Dict μ ν)) (key : κ) (inner : μ) :
    (ofDict d : MapOfMaps ι κ μ ν).entry key inner = Dict.lookup₂ d key inner := by
  cases h : d.lookup key <;> simp [entry, ofDict, Dict.lookup₂, h]

variable [DecidableEq ι]

/-- Put an entry into an inner map. -/
def put (m : MapOfMaps ι κ μ ν) (r : MapRef ι κ) (inner : μ) (v : ν) : MapOfMaps ι κ μ ν :=
  { m with
    contents := Function.update m.contents r (Function.update (m.contents r) inner (some v)) }

variable (m : MapOfMaps ι κ μ ν) (r r' : MapRef ι κ) (inner inner' : μ) (v : ν)

@[simp] theorem table_put (key : κ) : (m.put r inner v).table key = m.table key := rfl

theorem contents_put : (m.put r inner v).contents r' inner' =
    if r' = r ∧ inner' = inner then some v else m.contents r' inner' := by
  simp only [put, Function.update_apply]
  by_cases hr : r' = r
  · simp [hr, Function.update_apply]
  · simp [hr]

/-- An entry is found where the outer map holds the inner map it has been put into. -/
theorem entry_put (key : κ) : (m.put r inner v).entry key inner' =
    if m.table key = some r ∧ inner' = inner then some v else m.entry key inner' := by
  unfold entry
  rw [table_put]
  cases hr : m.table key with
  | none => simp
  | some r' => simp [contents_put]

omit [DecidableEq μ]

/-- Put a new inner map under the key. -/
def putNew (m : MapOfMaps ι κ μ ν) (i : ι) (key : κ) : MapOfMaps ι κ μ ν where
  table := Function.update m.table key (some (.created i))
  contents := Function.update m.contents (.created i) fun _ => none

variable {m} {i : ι} (key key' : κ)

@[simp] theorem table_putNew : (m.putNew i key).table key' =
    if key' = key then some (.created i) else m.table key' :=
  Function.update_apply ..

theorem contents_putNew : (m.putNew i key).contents r inner =
    if r = .created i then none else m.contents r inner := by
  simp only [putNew, Function.update_apply]
  split_ifs <;> rfl

/-- A fresh inner map hides the entries of its outer key. -/
theorem entry_putNew_self : (m.putNew i key).entry key inner = none := by
  simp [entry, contents_putNew]

theorem entry_putNew_of_ne (hkey : key' ≠ key) (hnew : m.table key' ≠ some (.created i)) :
    (m.putNew i key).entry key' inner = m.entry key' inner := by
  unfold entry
  rw [table_putNew, if_neg hkey]
  cases hr : m.table key' with
  | none => rfl
  | some r =>
    have hne : r ≠ .created i := fun heq => hnew (heq ▸ hr)
    simp [contents_putNew, hne]

/-! ### Putting an entry without interruption -/

variable [DecidableEq μ] {d : Dict κ (Dict μ ν)}

/-- The reference to the inner map of a key it has. -/
theorem entry_put_initial (hkey : d.lookup key ≠ none) :
    ((ofDict d : MapOfMaps ι κ μ ν).put (.initial key) inner v).entry key' inner' =
      Dict.lookup₂ (Dict.put₂ d key inner v) key' inner' := by
  have htable : (ofDict d : MapOfMaps ι κ μ ν).table key' = some (.initial key) ↔ key' = key := by
    constructor
    · intro h
      obtain ⟨_, -, heq⟩ := Option.map_eq_some_iff.1 h
      exact MapRef.initial.inj heq
    · rintro rfl
      obtain ⟨inners, h⟩ := Option.ne_none_iff_exists'.1 hkey
      simp [ofDict, h]
  rw [entry_put, Dict.lookup₂_put₂, entry_ofDict]
  simp only [htable]

/-- A fresh inner map for a key it does not have. -/
theorem entry_put_created (hkey : d.lookup key = none) :
    (((ofDict d : MapOfMaps ι κ μ ν).putNew i key).put (.created i) inner v).entry key' inner' =
      Dict.lookup₂ (Dict.put₂ d key inner v) key' inner' := by
  have hnew : ∀ key', (ofDict d : MapOfMaps ι κ μ ν).table key' ≠ some (.created i) :=
    fun key' h => by
    obtain ⟨_, -, heq⟩ := Option.map_eq_some_iff.1 h
    cases heq
  rw [entry_put, Dict.lookup₂_put₂, table_putNew]
  by_cases h : key' = key
  · subst h
    simp [entry, contents_putNew, Dict.lookup₂, hkey]
  · rw [entry_putNew_of_ne _ _ _ h (hnew key'), entry_ofDict]
    simp [h, hnew key']

end MapOfMaps
