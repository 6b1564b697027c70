/-
**Quoted text.**

A text is put between two copies of a quote character, and the quote characters inside it are
written twice.

* `unquote_quote` — reading what was written gives the text back.
-/

namespace SchemaCompiler.Text.Quoted

/-- Every copy of the quote character written twice. -/
def double (quote : Char) : List Char → List Char
  | [] => []
  | c :: rest => if c = quote then quote :: quote :: double quote rest else c :: double quote rest

/-- The text whose quote characters were written twice; nothing when one stands alone. -/
def halve (quote : Char) : List Char → Option (List Char)
  | [] => some []
  | [c] => if c = quote then none else some [c]
  | c :: d :: rest =>
    if c = quote then
      if d = quote then (halve quote rest).map (quote :: ·) else none
    else (halve quote (d :: rest)).map (c :: ·)

/-- A text between quotes. -/
def quote (quote : Char) (text : String) : String :=
  String.ofList (quote :: double quote text.toList ++ [quote])

/-- What stands between two quotes at the ends, which must not be the same character. -/
def inner? (quote : Char) (text : List Char) : Option (List Char) :=
  match text with
  | [] => none
  | first :: rest =>
    if first = quote ∧ rest.getLast? = some quote then some rest.dropLast else none

/-- The text that was quoted; nothing when it is not the quoted form of any text. -/
def unquote? (quote : Char) (text : String) : Option String :=
  ((inner? quote text.toList).bind (halve quote)).map String.ofList

theorem halve_double (quote : Char) (text : List Char) :
    halve quote (double quote text) = some text := by
  induction text with
  | nil => rfl
  | cons c rest ih =>
    by_cases same : c = quote
    · simp [double, halve, same, ih]
    · cases rest with
      | nil => simp [double, halve, same]
      | cons d rest =>
        by_cases next : d = quote
        · simp only [double, if_neg same, next, if_true] at ih ⊢
          rw [halve]
          simp [same, ih]
        · simp only [double, if_neg same, if_neg next] at ih ⊢
          rw [halve]
          simp [same, ih]

theorem toList_quote (mark : Char) (text : String) :
    (quote mark text).toList = mark :: (double mark text.toList ++ [mark]) := by
  rw [quote, String.toList_ofList, List.cons_append]

theorem unquote_quote (mark : Char) (text : String) :
    unquote? mark (quote mark text) = some text := by
  simp [unquote?, quote, inner?, halve_double]

end SchemaCompiler.Text.Quoted
