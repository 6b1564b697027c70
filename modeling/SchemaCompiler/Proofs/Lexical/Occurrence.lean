/-
**Texts within texts.**

A statement is put together from parts, and each part stands in it as it was written.

* `Occurs.after`, `Occurs.before`, `Occurs.intercalate`, `Occurs.join` — where a part still stands.
-/

namespace SchemaCompiler

/-- A text stands somewhere in another one. -/
def Occurs (part text : String) : Prop :=
  ∃ before after, text = before ++ part ++ after

theorem occurs_self (text : String) : Occurs text text :=
  ⟨"", "", by rw [String.empty_append, String.append_empty]⟩

namespace Occurs

variable {part text : String}

theorem after (occurs : Occurs part text) (front : String) : Occurs part (front ++ text) := by
  obtain ⟨before, after, rfl⟩ := occurs
  exact ⟨front ++ before, after, by simp only [String.append_assoc]⟩

theorem before (occurs : Occurs part text) (back : String) : Occurs part (text ++ back) := by
  obtain ⟨before, after, rfl⟩ := occurs
  exact ⟨before, after ++ back, by simp only [String.append_assoc]⟩

theorem intercalate (occurs : Occurs part text) (separator : String) {parts : List String}
    (isPart : text ∈ parts) : Occurs part (separator.intercalate parts) := by
  induction parts with
  | nil => cases isPart
  | cons first rest ih =>
    cases rest with
    | nil => simpa [List.mem_singleton.mp isPart] using occurs
    | cons second rest =>
      rw [String.intercalate_cons_cons]
      rcases List.mem_cons.mp isPart with rfl | inRest
      · exact (occurs.before _).before _
      · exact (ih inRest).after _

theorem join (occurs : Occurs part text) {parts : List String} (isPart : text ∈ parts) :
    Occurs part (String.join parts) := by
  induction parts with
  | nil => cases isPart
  | cons first rest ih =>
    rw [String.join_cons]
    rcases List.mem_cons.mp isPart with rfl | inRest
    · exact occurs.before _
    · exact (ih inRest).after _

end Occurs

end SchemaCompiler
