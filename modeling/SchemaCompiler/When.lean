/-
**Items that stand under a condition.**

`when condition item` is the list of the item when the condition holds, and empty otherwise:

* `mem_when` — what is in the list.
-/

namespace SchemaCompiler

/-- The item as a list when a condition holds. -/
def when {α : Type} (condition : Bool) (item : α) : List α :=
  if condition then [item] else []

@[simp] theorem mem_when {α : Type} {condition : Bool} {item other : α} :
    other ∈ when condition item ↔ condition = true ∧ other = item := by
  cases condition <;> simp [when]

end SchemaCompiler
