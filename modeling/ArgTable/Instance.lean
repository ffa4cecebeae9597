-- Instances. An instance is one supplied value of an argument, and it knows the argument by
-- name. Two arguments with the same literals have different names, so their instances are
-- never mixed up.

namespace ArgTable

structure Instance (ι : Type) where
  name : ι
  value : String
  deriving DecidableEq, Repr

namespace Instance

variable {ι : Type} [DecidableEq ι]

/-- Some instance is of the argument. -/
def supplied (name : ι) (instances : List (Instance ι)) : Bool :=
  instances.any (·.name = name)

/-- The value of the first instance of the argument. -/
def value? (name : ι) (instances : List (Instance ι)) : Option String :=
  (instances.find? (·.name = name)).map (·.value)

/-- The values of all instances of the argument, in order. -/
def values (name : ι) (instances : List (Instance ι)) : List String :=
  (instances.filter (·.name = name)).map (·.value)

theorem value?_eq_head?_values (name : ι) (instances : List (Instance ι)) :
    value? name instances = (values name instances).head? := by
  simp [value?, values, List.head?_filter]

theorem supplied_eq_isSome_value? (name : ι) (instances : List (Instance ι)) :
    supplied name instances = (value? name instances).isSome := by
  simp only [supplied, value?, Option.isSome_map, List.isSome_find?]

end Instance

end ArgTable
