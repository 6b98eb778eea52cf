import SchemaCodegen.Generation.Context

/-!
# The relationships that a template sees

The context of a table has the relationships in which the table is the child, and those in which it
is the parent, in the order of the snapshot. A relationship of a table to itself is among the first
only, so the second are all those of the parent exactly where the table does not refer to itself
(`parents_children_build`).
-/

namespace SchemaCodegen.TableContext

variable {rules : Convention.Resolver} {s : Snapshot} {t : Table}

theorem parents_build :
    (build rules s t).parents = s.relationships.filter (·.childTable == t.name) := by
  simp only [build, List.partition_eq_filter_filter, Snapshot.relationshipsFor, List.filter_filter]
  refine List.filter_congr fun r _ => ?_
  cases r.childTable == t.name <;> simp

theorem children_build :
    (build rules s t).children =
      s.relationships.filter fun r => r.parentTable == t.name && r.childTable != t.name := by
  simp only [build, List.partition_eq_filter_filter, Snapshot.relationshipsFor, List.filter_filter]
  refine List.filter_congr fun r _ => ?_
  cases hchild : r.childTable == t.name with
  | false => simp [bne, hchild]
  | true => simp [bne, hchild]

/-- A part of a list is a smaller part exactly if nothing of the list is left out. -/
theorem filter_and_eq_filter_iff {α : Type} {p q : α → Bool} {as : List α} :
    (as.filter fun a => p a && q a) = as.filter p ↔ ∀ a ∈ as, p a = true → q a = true := by
  constructor
  · intro h a ha hp
    have hmem : a ∈ as.filter fun a => p a && q a := h ▸ List.mem_filter.2 ⟨ha, hp⟩
    exact (Bool.and_eq_true _ _ ▸ (List.mem_filter.1 hmem).2 : _ ∧ _).2
  · intro h
    refine List.filter_congr fun a ha => ?_
    cases hp : p a with
    | false => rfl
    | true => exact h a ha hp

/-- The parents are all relationships of the child, the children all those of the parent but for
relationships of the table to itself. So each relationship between two tables is seen from both
ends, and one of a table to itself as one of the child only. -/
theorem parents_children_build (rules : Convention.Resolver) (s : Snapshot) (t : Table) :
    (build rules s t).parents = s.relationships.filter (·.childTable == t.name) ∧
    ((build rules s t).children =
      s.relationships.filter fun r => r.parentTable == t.name && r.childTable != t.name) ∧
    ((build rules s t).children = s.relationships.filter (·.parentTable == t.name) ↔
      ∀ r ∈ s.relationships, r.parentTable = t.name → r.childTable ≠ t.name) := by
  refine ⟨parents_build, children_build, ?_⟩
  rw [children_build, filter_and_eq_filter_iff]
  simp

/-! ### A table that refers to itself -/

namespace Hierarchy

def employee : Table :=
  ⟨"Employee", "dbo", [], [], []⟩

/-- Employees report to employees. -/
def reportsTo : Relationship :=
  ⟨"FK_Manager", "Employee", "ID", "Employee", "ManagerID", .oneToMany, "NoAction", "NoAction"⟩

def snapshot : Snapshot :=
  ⟨"db", "server", "1", default, [employee], [reportsTo]⟩

/-- The table is the parent of a relationship, but its context has no children. -/
theorem reportsTo_not_seen : snapshot.defect? = none ∧ employee ∈ snapshot.tables ∧
    (build .standard snapshot employee).parents = [reportsTo] ∧
    (build .standard snapshot employee).children = [] ∧
    snapshot.relationships.filter (·.parentTable == employee.name) = [reportsTo] := by
  decide

end Hierarchy

end SchemaCodegen.TableContext
