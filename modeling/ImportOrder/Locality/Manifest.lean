import ImportOrder.Ordering.Sorter

/-! Local modules by the dependencies of a project: what is no dependency is local. -/

namespace ImportOrder

/-- Whether a module is given by a path from the importing file. -/
def isRelative (specifier : String) : Bool := specifier.toList.head? == some '.'

/-- The relative modules are those that start with a dot. -/
theorem isRelative_iff {specifier : String} :
    isRelative specifier = true ↔ ['.'] <+: specifier.toList := by
  unfold isRelative
  cases specifier.toList with
  | nil => simp
  | cons c rest =>
    rw [List.cons_prefix_cons, List.head?_cons, beq_iff_eq, Option.some.injEq]
    exact ⟨fun same => ⟨same.symm, List.nil_prefix⟩, fun starts => starts.1.symm⟩

namespace Manifest

/-- Whether a module is a dependency or lies inside one. -/
def names (dependency specifier : String) : Bool :=
  specifier == dependency || Text.startsWith specifier.toList (dependency.toList ++ ['/'])

/-- Whether a module is local: every module is if there are no dependencies. -/
def isLocal (dependencies : List String) (specifier : String) : Bool :=
  isRelative specifier || dependencies.isEmpty ||
    !dependencies.any fun dependency => names dependency specifier

/-- The classifier of a list of dependencies. -/
def classifier (dependencies : List String) : Classifier :=
  ⟨isLocal dependencies, extensionOf⟩

end Manifest

end ImportOrder
