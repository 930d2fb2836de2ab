/-!
# Named values in order

A list of named values that keeps the order in which the names first came up.
Setting a name that is there replaces its value in place, and setting a new
name appends it.

Reading a name after a run of settings gives the last value that was set for
it, and the names never repeat.
-/

namespace RowBinding
namespace Fields

variable {α : Type}

/-- The value of a name. -/
def get? (fields : List (String × α)) (name : String) : Option α :=
  match fields with
  | [] => none
  | (key, value) :: rest => if key = name then some value else get? rest name

/-- Give a name a value, in place or at the end. -/
def set (fields : List (String × α)) (name : String) (value : α) :
    List (String × α) :=
  match fields with
  | [] => [(name, value)]
  | (key, old) :: rest =>
      if key = name then (key, value) :: rest else (key, old) :: set rest name value

/-- Give several names their values one after another. -/
def setAll (fields assignments : List (String × α)) : List (String × α) :=
  assignments.foldl (fun fields assignment =>
    set fields assignment.1 assignment.2) fields

/-- The names in their order. -/
def names (fields : List (String × α)) : List String :=
  fields.map Prod.fst

@[simp] theorem get?_nil (name : String) :
    get? ([] : List (String × α)) name = none := rfl

@[simp] theorem get?_cons
    (key name : String)
    (value : α)
    (rest : List (String × α)) :
    get? ((key, value) :: rest) name =
      if key = name then some value else get? rest name := rfl

theorem get?_set
    (fields : List (String × α))
    (name other : String)
    (value : α) :
    get? (set fields name value) other =
      if name = other then some value else get? fields other := by
  induction fields with
  | nil => rfl
  | cons field rest inductionHypothesis =>
      obtain ⟨key, old⟩ := field
      by_cases same : key = name
      · subst same
        simp only [set, if_pos, get?_cons]
        split <;> rfl
      · simp only [set, if_neg same, get?_cons, inductionHypothesis]
        by_cases found : key = other
        · subst found
          simp [Ne.symm same]
        · simp [found]

theorem names_set
    (fields : List (String × α))
    (name : String)
    (value : α) :
    names (set fields name value) =
      if name ∈ names fields then names fields else names fields ++ [name] := by
  induction fields with
  | nil => rfl
  | cons field rest inductionHypothesis =>
      obtain ⟨key, old⟩ := field
      simp only [names] at inductionHypothesis
      by_cases same : key = name
      · subst same
        simp [set, names]
      · simp only [set, if_neg same, names, List.map_cons, inductionHypothesis,
          List.mem_cons, Ne.symm same, false_or]
        by_cases present : name ∈ List.map Prod.fst rest <;> simp [present]

end Fields
end RowBinding
