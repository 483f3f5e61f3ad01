/-! Finite maps from names, held as entries in ascending name order. -/
namespace FeatureFlow

abbrev KeyMap (α : Type) := List (String × α)

namespace KeyMap

variable {α β : Type}

def get? : KeyMap α → String → Option α
  | [], _ => none
  | (k, v) :: m, name => if k = name then some v else get? m name

def contains (m : KeyMap α) (name : String) : Bool := (get? m name).isSome

/-- Replaces the entry of that name, or puts a new one before the first larger name. -/
def insert : KeyMap α → String → α → KeyMap α
  | [], name, v => [(name, v)]
  | (k, w) :: m, name, v =>
    if name < k then (name, v) :: (k, w) :: m
    else if k = name then (name, v) :: m
    else (k, w) :: insert m name v

def erase (m : KeyMap α) (name : String) : KeyMap α := m.filter (·.1 ≠ name)

def insertAll (m : KeyMap α) (entries : List (String × α)) : KeyMap α :=
  entries.foldl (fun m e => insert m e.1 e.2) m

/-- Of two entries with one name the later counts. -/
def ofList (entries : List (String × α)) : KeyMap α := insertAll [] entries

def names (m : KeyMap α) : List String := m.map (·.1)

/-- Names ascend strictly, so no name occurs twice. -/
def Ordered (m : KeyMap α) : Prop := m.Pairwise (·.1 < ·.1)

@[simp] theorem get?_nil (name : String) : get? ([] : KeyMap α) name = none := rfl

theorem get?_insert (m : KeyMap α) (name other : String) (v : α) :
    get? (insert m name v) other = if name = other then some v else get? m other := by
  induction m with
  | nil => simp [insert, get?]
  | cons e m ih =>
    obtain ⟨k, w⟩ := e
    unfold insert
    split
    · simp [get?]
    · split
      · subst k
        by_cases h : name = other <;> simp [get?, h]
      · rename_i hk
        by_cases h : k = other
        · subst other
          have : name ≠ k := fun he => hk he.symm
          simp [get?, this]
        · simp [get?, h, ih]

theorem get?_insert_self (m : KeyMap α) (name : String) (v : α) :
    get? (insert m name v) name = some v := by simp [get?_insert]

theorem get?_insertAll_const {m : KeyMap α} {name : String} {names : List String} {v : α} :
    (m.insertAll (names.map (·, v))).get? name = if name ∈ names then some v else m.get? name := by
  induction names generalizing m with
  | nil => rfl
  | cons n names ih =>
    have hs : m.insertAll ((n :: names).map (·, v)) = (m.insert n v).insertAll (names.map
        (·, v)) := rfl
    rw [hs, ih, get?_insert]
    by_cases hn : name = n
    · simp [hn]
    · simp [hn, Ne.symm hn]

theorem get?_insertAll_of_forall_ne {m : KeyMap α} {entries : List (String × α)} {name : String}
    (h : ∀ e ∈ entries, e.1 ≠ name) : (m.insertAll entries).get? name = m.get? name := by
  induction entries generalizing m with
  | nil => rfl
  | cons e entries ih =>
    have he : e.1 ≠ name := h e (by simp)
    have hs : m.insertAll (e :: entries) = (m.insert e.1 e.2).insertAll entries := rfl
    rw [hs, ih fun e' he' => h e' (List.mem_cons_of_mem e he'), get?_insert, if_neg he]

/-- Of several entries with one name the last counts. -/
theorem get?_insertAll (m : KeyMap α) (entries : List (String × α)) (name : String) :
    (m.insertAll entries).get? name = ((entries.filter (·.1 = name)).getLast?.map (·.2)).or
      (m.get? name) := by
  induction entries generalizing m with
  | nil => rfl
  | cons e entries ih =>
    have hs : m.insertAll (e :: entries) = (m.insert e.1 e.2).insertAll entries := rfl
    rw [hs, ih, get?_insert, List.filter_cons]
    by_cases he : e.1 = name
    · simp only [he, decide_true, if_true, List.getLast?_cons]
      cases (entries.filter (·.1 = name)).getLast? <;> rfl
    · simp [he]

theorem get?_ofList (entries : List (String × α)) (name : String) :
    (ofList entries).get? name = (entries.filter (·.1 = name)).getLast?.map (·.2) := by
  rw [ofList, get?_insertAll, get?_nil, Option.or_none]

end KeyMap

end FeatureFlow
