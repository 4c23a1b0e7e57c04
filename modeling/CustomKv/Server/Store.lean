import CustomKv.Basic

/-!
# The key/value store of one version

The KV server keeps every committed version of a sorted map from keys to values (spec §4.1:
"Binary-safe keys/values with lexicographic key ordering"). A `Store` is the map of one
version: its entries strictly increase in key, which the structure carries, so that a range
read returns keys in ascending order without a further argument.
-/

namespace CustomKv

/-- Strictly increasing in key. -/
def Sorted (m : List (Bytes × Bytes)) : Prop := m.Pairwise (fun a b => a.1 < b.1)

/-- Modelled from the spec: put a binding into a sorted entry list, in key order, replacing the
binding of the same key. -/
def insertEntry (k v : Bytes) : List (Bytes × Bytes) → List (Bytes × Bytes)
  | [] => [(k, v)]
  | e :: es =>
    if k < e.1 then (k, v) :: e :: es
    else if k = e.1 then (k, v) :: es
    else e :: insertEntry k v es

theorem mem_insertEntry {k v : Bytes} {es : List (Bytes × Bytes)} {x : Bytes × Bytes}
    (h : x ∈ insertEntry k v es) : x.1 = k ∨ x ∈ es := by
  induction es with
  | nil => simp [insertEntry] at h; simp [h]
  | cons e es ih =>
    simp only [insertEntry] at h
    split_ifs at h with h₁ h₂
    · rcases List.mem_cons.mp h with rfl | h <;> simp_all
    · rcases List.mem_cons.mp h with rfl | h <;> simp_all
    · rcases List.mem_cons.mp h with rfl | h
      · simp
      · rcases ih h with h | h <;> simp_all

theorem Sorted.insertEntry {k v : Bytes} {es : List (Bytes × Bytes)} (h : Sorted es) :
    Sorted (insertEntry k v es) := by
  induction es with
  | nil => simp [Sorted, CustomKv.insertEntry]
  | cons e es ih =>
    simp only [Sorted, List.pairwise_cons] at h
    simp only [CustomKv.insertEntry]
    split_ifs with h₁ h₂
    · exact List.Pairwise.cons (fun x hx => by
        rcases List.mem_cons.mp hx with rfl | hx
        exacts [h₁, lt_trans h₁ (h.1 x hx)]) (List.Pairwise.cons h.1 h.2)
    · exact List.Pairwise.cons (fun x hx => h₂ ▸ h.1 x hx) h.2
    · have he : e.1 < k := lt_of_le_of_ne (not_lt.mp h₁) (Ne.symm h₂)
      exact List.Pairwise.cons (fun x hx => by
        rcases mem_insertEntry hx with hx | hx
        exacts [hx ▸ he, h.1 x hx]) (ih h.2)

/-- The value bound to a key in an entry list. -/
def lookupEntry (k : Bytes) : List (Bytes × Bytes) → Option Bytes
  | [] => none
  | e :: es => if k = e.1 then some e.2 else lookupEntry k es

theorem lookupEntry_insertEntry (k v k' : Bytes) (es : List (Bytes × Bytes)) :
    lookupEntry k' (insertEntry k v es) = if k' = k then some v else lookupEntry k' es := by
  induction es with
  | nil => simp [insertEntry, lookupEntry]
  | cons e es ih =>
    simp only [insertEntry]
    split_ifs with h₁ h₂ <;> simp only [lookupEntry, ih] <;> by_cases hk : k' = k <;>
      simp_all

/-- In a sorted entry list the key of each entry is bound to the entry's value. -/
theorem lookupEntry_of_mem {es : List (Bytes × Bytes)} (hs : Sorted es) {k v : Bytes}
    (h : (k, v) ∈ es) : lookupEntry k es = some v := by
  induction es with
  | nil => cases h
  | cons e es ih =>
    rw [Sorted, List.pairwise_cons] at hs
    rcases List.mem_cons.mp h with rfl | h
    · simp [lookupEntry]
    · rw [lookupEntry, if_neg (ne_of_gt (hs.1 _ h)), ih hs.2 h]

/-- The map of one version of the store. -/
structure Store where
  entries : List (Bytes × Bytes)
  sorted : Sorted entries

namespace Store

def empty : Store := ⟨[], List.Pairwise.nil⟩

def get (s : Store) (k : Bytes) : Option Bytes := lookupEntry k s.entries

def set (s : Store) (k v : Bytes) : Store := ⟨insertEntry k v s.entries, s.sorted.insertEntry⟩

def clear (s : Store) (k : Bytes) : Store :=
  ⟨s.entries.filter (·.1 ≠ k), s.sorted.filter _⟩

/-- A write as the store applies it: a value to set, or `none` to clear the key. -/
def write (s : Store) : Bytes × Option Bytes → Store
  | (k, some v) => s.set k v
  | (k, none) => s.clear k

/-- Apply writes in order. -/
def writeAll (s : Store) (ws : List (Bytes × Option Bytes)) : Store := ws.foldl write s

@[simp] theorem get_empty (k : Bytes) : empty.get k = none := rfl

@[simp] theorem get_set (s : Store) (k v k' : Bytes) :
    (s.set k v).get k' = if k' = k then some v else s.get k' :=
  lookupEntry_insertEntry k v k' s.entries

theorem lookupEntry_filter_ne (k k' : Bytes) (es : List (Bytes × Bytes)) :
    lookupEntry k' (es.filter (·.1 ≠ k)) = if k' = k then none else lookupEntry k' es := by
  induction es with
  | nil => simp [lookupEntry]
  | cons e es ih =>
    by_cases ha : e.1 = k <;> by_cases hk : k' = k <;> simp_all [List.filter_cons, lookupEntry]
    exact Ne.symm ha

@[simp] theorem get_clear (s : Store) (k k' : Bytes) :
    (s.clear k).get k' = if k' = k then none else s.get k' :=
  lookupEntry_filter_ne k k' s.entries

@[simp] theorem get_write (s : Store) (w : Bytes × Option Bytes) (k : Bytes) :
    (s.write w).get k = if k = w.1 then w.2 else s.get k := by
  obtain ⟨k', _ | v⟩ := w <;> simp [write]

@[simp] theorem writeAll_nil (s : Store) : s.writeAll [] = s := rfl

@[simp] theorem writeAll_cons (s : Store) (w : Bytes × Option Bytes) (ws) :
    s.writeAll (w :: ws) = (s.write w).writeAll ws := rfl

/-- Writes to other keys leave a key's value alone. -/
theorem get_writeAll_of_not_mem (s : Store) (ws : List (Bytes × Option Bytes)) (k : Bytes)
    (h : ∀ w ∈ ws, w.1 ≠ k) : (s.writeAll ws).get k = s.get k := by
  induction ws generalizing s with
  | nil => rfl
  | cons w ws ih =>
    rw [writeAll_cons, ih _ fun w' hw' => h w' (List.mem_cons_of_mem _ hw'), get_write,
      if_neg (Ne.symm (h w (List.mem_cons_self _ _)))]

/-- A key's value after writes is that of its last write, or else the value before them. -/
theorem get_writeAll (s : Store) (ws : List (Bytes × Option Bytes)) (k : Bytes) :
    (s.writeAll ws).get k = ((ws.reverse.find? (·.1 = k)).map (·.2)).getD (s.get k) := by
  induction ws generalizing s with
  | nil => rfl
  | cons w ws ih =>
    rw [writeAll_cons, ih, List.reverse_cons, List.find?_append]
    cases ws.reverse.find? (·.1 = k) with
    | some x => rfl
    | none =>
      by_cases h : k = w.1
      · simp [h]
      · simp [h, Ne.symm h]

/-- Batches of writes to other keys leave a key's value alone. -/
theorem get_foldl_writeAll_of_not_mem (s : Store) (wss : List (List (Bytes × Option Bytes)))
    (k : Bytes) (h : ∀ ws ∈ wss, ∀ w ∈ ws, w.1 ≠ k) :
    (wss.foldl writeAll s).get k = s.get k := by
  induction wss generalizing s with
  | nil => rfl
  | cons ws wss ih =>
    rw [List.foldl_cons, ih _ fun ws' h' => h ws' (.tail _ h'),
      get_writeAll_of_not_mem _ _ _ (h ws (.head _))]

end Store

end CustomKv
