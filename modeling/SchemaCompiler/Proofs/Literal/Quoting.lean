/-
**Texts in single quotes.**

A user writes a text between single quotes, with the quotes inside it doubled, so that it is taken as
it is. Reading such a literal gives the text back, whatever it holds, and a literal is no number and no
truth value.

* `halveQuotes_double`, `unquote_quote` — what is read from a quoted text.
* `isDecimal_quote`, `sameName_quote` — a quoted text is nothing but a text.
-/

import SchemaCompiler.Literal
import SchemaCompiler.Text.Quoted

namespace SchemaCompiler.Literal

open Text.Quoted (double quote toList_quote)

/-! ### Reading quotes -/

theorem halveQuotes_cons_of_ne {c : Char} (other : c ≠ '\'') (rest : List Char) :
    halveQuotes (c :: rest) = c :: halveQuotes rest := by
  rw [halveQuotes]
  exact fun _ isQuote _ => other isQuote

/-- Quotes that were doubled are read as they were. -/
theorem halveQuotes_double (text : List Char) : halveQuotes (double '\'' text) = text := by
  induction text with
  | nil => rfl
  | cons c rest ih =>
    by_cases isQuote : c = '\''
    · rw [double, if_pos isQuote, halveQuotes, ih, isQuote]
    · rw [double, if_neg isQuote, halveQuotes_cons_of_ne isQuote, ih]

theorem mem_double_iff {c mark : Char} {text : List Char} : c ∈ double mark text ↔ c ∈ text := by
  induction text with
  | nil => rfl
  | cons first rest ih =>
    rw [double]
    split
    · rename_i isMark
      simp [ih, isMark]
    · simp [ih]

theorem quote_ne_empty (text : String) : quote '\'' text ≠ "" := by
  intro empty
  have chars := toList_quote '\'' text
  rw [empty] at chars
  cases chars

/-- A quoted text has no blanks at its ends. -/
theorem trimmed_quote (text : String) :
    Text.trimmed (quote '\'' text).toList = (quote '\'' text).toList := by
  rw [toList_quote]
  refine Text.trimmed_eq_self (fun c isFirst => ?_) fun c isLast => ?_
  · cases isFirst
    decide
  · rw [← List.cons_append, List.getLast?_concat] at isLast
    cases isLast
    decide

/-- **What is read from a quoted text** is the text. -/
theorem unquote_quote (text : String) : unquote (quote '\'' text) = text := by
  rw [unquote, trimmed_quote, toList_quote]
  simp only [List.getLast?_concat, if_true, List.dropLast_concat, halveQuotes_double,
    String.ofList_toList]

/-- What is read from a text has no characters of its own. -/
theorem mem_of_mem_halveQuotes {c : Char} {text : List Char} (member : c ∈ halveQuotes text) :
    c ∈ text := by
  fun_induction halveQuotes text with
  | case1 rest ih =>
    rcases List.mem_cons.mp member with isQuote | inRest
    · exact List.mem_cons.mpr (.inl isQuote)
    · exact List.mem_cons_of_mem _ (List.mem_cons_of_mem _ (ih inRest))
  | case2 first rest _ ih =>
    rcases List.mem_cons.mp member with isFirst | inRest
    · exact List.mem_cons.mpr (.inl isFirst)
    · exact List.mem_cons_of_mem _ (ih inRest)
  | case3 => cases member

theorem mem_of_mem_unquote {c : Char} {text : String} (member : c ∈ (unquote text).toList) :
    c ∈ text.toList := by
  refine Text.mem_of_mem_trimmed ?_
  rw [unquote, String.toList_ofList] at member
  split at member
  · rename_i rest starts
    split at member
    · rw [starts]
      exact List.mem_cons_of_mem _ (List.dropLast_subset _ (mem_of_mem_halveQuotes member))
    · rwa [starts]
  · exact member

/-! ### Neither numbers nor truth values -/

theorem isDecimal_quote (text : String) : isDecimal (quote '\'' text) = false := by
  rw [isDecimal, toList_quote]
  rfl

/-- A text that starts with a quote is no word that does not. -/
theorem sameName_of_quote (word : String) (unquoted : (Text.lowerAscii word).toList.head? ≠ some '\'')
    {text : String} (starts : text.toList.head? = some '\'') : Text.sameName text word = false := by
  rw [Text.sameName, beq_eq_false_iff_ne]
  intro same
  apply unquoted
  rw [← same, Text.lowerAscii, String.toList_ofList, List.head?_map, starts]
  rfl

theorem sameName_quote (word : String) (unquoted : (Text.lowerAscii word).toList.head? ≠ some '\'')
    (text : String) : Text.sameName (quote '\'' text) word = false :=
  sameName_of_quote word unquoted (by rw [toList_quote]; rfl)

end SchemaCompiler.Literal
