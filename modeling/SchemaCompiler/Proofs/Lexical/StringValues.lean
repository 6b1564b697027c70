/-
**Strings as an engine reads them.**

An engine reads a string from its opening quote to the first quote that stands alone. Two quotes are one.
In MySQL a backslash takes its meaning from the character behind it; the meanings are the engine's own, and
all that is known of them is that a backslash behind a backslash is a backslash. In PostgreSQL and SQLite a
backslash is a character like any other.

Every string that is written is read back as the text that it was written for, in front of any text that
does not start with a quote, and the reader stops where that text begins. A quote right behind a string
would belong to it.

* `Dialect.readBody?_stringChar`, `Dialect.readBody?_append` — one character, and a text.
* `Dialect.readString?_stringLiteral` — strings with a text behind them.
* `Dialect.readString?_stringLiteral_iff` — when they are read back.
-/

import SchemaCompiler.Proofs.Lexical.Scan

namespace SchemaCompiler

/-- What the characters behind a backslash stand for in a string. -/
structure Escapes where
  meaning : Char → List Char
  meaning_backslash : meaning '\\' = ['\\']

/-- What was read, with a text in front of its value. -/
def valueAfter (front : List Char) :
    Option (List Char × List Char) → Option (List Char × List Char) :=
  Option.map fun (value, rest) => (front ++ value, rest)

namespace Dialect

/-! ### The reader -/

/-- The value of a string from behind its opening quote, and what stands behind the closing one; none
where no quote closes the string. -/
def readBody? (d : Dialect) (escapes : Escapes) : List Char → Option (List Char × List Char)
  | [] => none
  | [c] => if c = '\'' then some ([], []) else none
  | c :: next :: rest =>
    if c = '\'' then
      if next = '\'' then valueAfter ['\''] (d.readBody? escapes rest) else some ([], next :: rest)
    else if c = '\\' ∧ d = .mysql then
      valueAfter (escapes.meaning next) (d.readBody? escapes rest)
    else valueAfter [c] (d.readBody? escapes (next :: rest))

/-- The value of the string at the start of a text, and what stands behind it. -/
def readString? (d : Dialect) (escapes : Escapes) (text : String) : Option (String × String) :=
  match text.toList with
  | '\'' :: body =>
    (d.readBody? escapes body).map fun (value, rest) => (String.ofList value, String.ofList rest)
  | _ => none

end Dialect

@[simp] theorem valueAfter_nil (found : Option (List Char × List Char)) :
    valueAfter [] found = found := by
  cases found <;> rfl

@[simp] theorem valueAfter_valueAfter (front back : List Char)
    (found : Option (List Char × List Char)) :
    valueAfter front (valueAfter back found) = valueAfter (front ++ back) found := by
  cases found <;> simp [valueAfter]

namespace Dialect

variable {d : Dialect} {escapes : Escapes}

/-! ### Characters and texts -/

/-- A character that is neither a quote nor escapes another one stands for itself. -/
theorem readBody?_cons {c : Char} (noQuote : c ≠ '\'') (plain : ¬ (c = '\\' ∧ d = .mysql))
    (rest : List Char) :
    d.readBody? escapes (c :: rest) = valueAfter [c] (d.readBody? escapes rest) := by
  cases rest with
  | nil => simp [readBody?, noQuote, valueAfter]
  | cons next rest => rw [readBody?, if_neg noQuote, if_neg plain]

/-- **A character as it is written** is read as one character. -/
theorem readBody?_stringChar (c : Char) (rest : List Char) :
    d.readBody? escapes (d.stringChar c ++ rest) = valueAfter [c] (d.readBody? escapes rest) := by
  unfold stringChar
  split
  · rename_i quote
    rw [quote, List.cons_append, List.singleton_append, readBody?, if_pos rfl, if_pos rfl]
  · rename_i noQuote
    split
    · rename_i backslash
      obtain ⟨rfl, rfl⟩ := backslash
      rw [List.cons_append, List.singleton_append, readBody?, if_neg noQuote, if_pos ⟨rfl, rfl⟩,
        escapes.meaning_backslash]
    · rename_i plain
      rw [List.singleton_append, readBody?_cons noQuote plain]

/-- **A text as it is written** is read in front of whatever is read behind it. -/
theorem readBody?_append (text rest : List Char) :
    d.readBody? escapes (text.flatMap d.stringChar ++ rest) =
      valueAfter text (d.readBody? escapes rest) := by
  induction text with
  | nil => simp
  | cons c text ih =>
    rw [List.flatMap_cons, List.append_assoc, readBody?_stringChar, ih, valueAfter_valueAfter,
      List.singleton_append]

/-! ### The end of a string -/

/-- A quote that stands alone ends the string. -/
theorem readBody?_quote {rest : List Char} (ends : rest.head? ≠ some '\'') :
    d.readBody? escapes ('\'' :: rest) = some ([], rest) := by
  cases rest with
  | nil => simp [readBody?]
  | cons next rest =>
    have other : next ≠ '\'' := by simpa using ends
    rw [readBody?, if_pos rfl, if_neg other]

/-- What is read of a string with a text behind it. -/
theorem readString?_append (text rest : String) :
    d.readString? escapes (d.stringLiteral text ++ rest) =
      (valueAfter text.toList (d.readBody? escapes ('\'' :: rest.toList))).map
        fun (value, rest) => (String.ofList value, String.ofList rest) := by
  have chars : (d.stringLiteral text ++ rest).toList =
      '\'' :: (text.toList.flatMap d.stringChar ++ '\'' :: rest.toList) := by
    rw [String.toList_append, toList_stringLiteral]
    simp
  simp only [readString?, chars, readBody?_append]

/-- **A string is read back** in front of a text that does not start with a quote, and nothing of that text
is read. -/
theorem readString?_stringLiteral {rest : String} (ends : rest.toList.head? ≠ some '\'')
    (text : String) :
    d.readString? escapes (d.stringLiteral text ++ rest) = some (text, rest) := by
  rw [readString?_append, readBody?_quote ends]
  simp [valueAfter]

/-- **When strings are read back**: whatever a string holds and whatever stands behind it, unless that
starts with a quote. -/
theorem readString?_stringLiteral_iff (d : Dialect) (escapes : Escapes) (text rest : String) :
    d.readString? escapes (d.stringLiteral text ++ rest) = some (text, rest) ↔
      rest.toList.head? ≠ some '\'' := by
  refine ⟨fun read starts => ?_, fun ends => readString?_stringLiteral ends text⟩
  -- A quote behind the string is a character of what is read, which the text is too short for.
  obtain ⟨others, chars⟩ : ∃ others, rest.toList = '\'' :: others :=
    List.head?_eq_some_iff.mp starts
  have doubled : d.readBody? escapes ('\'' :: '\'' :: others) =
      valueAfter ['\''] (d.readBody? escapes others) := by
    rw [readBody?, if_pos rfl, if_pos rfl]
  rw [readString?_append, chars, doubled, valueAfter_valueAfter] at read
  obtain ⟨_, found, same⟩ := Option.map_eq_some_iff.mp read
  obtain ⟨⟨value, _⟩, -, rfl⟩ := Option.map_eq_some_iff.mp found
  have texts := congrArg (fun found => found.1.toList.length) same
  simp at texts

/-! ### A path -/

/-- The escapes that MySQL has. The wildcards of LIKE keep their backslash. -/
def standardEscapes : Escapes where
  meaning
    | '0' => ['\x00']
    | 'b' => ['\x08']
    | 'n' => ['\n']
    | 'r' => ['\r']
    | 't' => ['\t']
    | 'Z' => ['\x1a']
    | '%' => ['\\', '%']
    | '_' => ['\\', '_']
    | c => [c]
  meaning_backslash := rfl

/-- A path with backslashes in front of letters, of a quote and at its end. -/
theorem readString?_stringLiteral_path :
    mysql.stringLiteral "C:\\new\\'%'\\" = "'C:\\\\new\\\\''%''\\\\'" ∧
      mysql.readString? standardEscapes (mysql.stringLiteral "C:\\new\\'%'\\" ++ ", 'D:'") =
        some ("C:\\new\\'%'\\", ", 'D:'") := by
  refine ⟨by decide +kernel, ?_⟩
  exact (readString?_stringLiteral_iff mysql standardEscapes _ _).mpr (by decide)

end Dialect

end SchemaCompiler
