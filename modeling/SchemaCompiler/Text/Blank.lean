/-
**Blank characters and trimming.**

A character is blank when it has the White_Space property. Trimming removes the blank characters
at both ends of a text and nothing else:

* `trim_eq_empty_iff` — a text trims to nothing exactly when all its characters are blank.
* `trim_trim` — a trimmed text has no blanks at its ends.
-/

namespace SchemaCompiler.Text

/-- The characters with the White_Space property. -/
def isBlank (c : Char) : Bool :=
  let code := c.toNat
  (0x09 ≤ code && code ≤ 0x0D) || code == 0x20 || code == 0x85 || code == 0xA0 ||
    code == 0x1680 || (0x2000 ≤ code && code ≤ 0x200A) || code == 0x2028 || code == 0x2029 ||
    code == 0x202F || code == 0x205F || code == 0x3000

/-- A list of characters without its leading blanks. -/
def dropBlanks (text : List Char) : List Char :=
  text.dropWhile isBlank

/-- A list of characters without its blanks at both ends. -/
def trimmed (text : List Char) : List Char :=
  (dropBlanks (dropBlanks text).reverse).reverse

/-- A text without its blanks at both ends. -/
def trim (text : String) : String :=
  String.ofList (trimmed text.toList)

/-- A text of blanks only, the empty text included. -/
def allBlank (text : String) : Bool :=
  trim text == ""

/-- The trimmed text, when one is given and it is not blank. -/
def trim? (text : Option String) : Option String :=
  (text.map trim).filter (· ≠ "")

theorem dropBlanks_eq_nil_iff {text : List Char} :
    dropBlanks text = [] ↔ ∀ c ∈ text, isBlank c := by
  induction text with
  | nil => simp [dropBlanks]
  | cons c rest ih =>
    by_cases blank : isBlank c
    · rw [dropBlanks, List.dropWhile_cons_of_pos blank, ← dropBlanks, ih, List.forall_mem_cons]
      exact ⟨fun others => ⟨blank, others⟩, And.right⟩
    · simp [dropBlanks, blank]

theorem dropBlanks_dropBlanks (text : List Char) :
    dropBlanks (dropBlanks text) = dropBlanks text := by
  induction text with
  | nil => rfl
  | cons c rest ih =>
    by_cases blank : isBlank c
    · simpa [dropBlanks, blank] using ih
    · simp [dropBlanks, blank]

theorem trimmed_eq_nil_iff {text : List Char} :
    trimmed text = [] ↔ ∀ c ∈ text, isBlank c := by
  rw [← dropBlanks_eq_nil_iff]
  constructor
  · intro empty
    have blank : ∀ c ∈ dropBlanks text, isBlank c := by
      have reversed : dropBlanks (dropBlanks text).reverse = [] := by simpa [trimmed] using empty
      simpa using dropBlanks_eq_nil_iff.mp reversed
    rw [← dropBlanks_dropBlanks]
    exact dropBlanks_eq_nil_iff.mpr blank
  · intro empty
    rw [trimmed, empty]
    rfl

theorem trim_eq_empty_iff {text : String} :
    trim text = "" ↔ ∀ c ∈ text.toList, isBlank c := by
  rw [← trimmed_eq_nil_iff, ← String.toList_inj]
  simp [trim]

/-- Blanks in front of a text are trimmed away. -/
theorem trimmed_append_of_blank {blanks : List Char} (blank : ∀ c ∈ blanks, isBlank c)
    (text : List Char) : trimmed (blanks ++ text) = trimmed text := by
  have dropped : dropBlanks (blanks ++ text) = dropBlanks text :=
    List.dropWhile_append_of_pos blank
  rw [trimmed, trimmed, dropped]

theorem dropBlanks_eq_self {text : List Char} (first : ∀ c ∈ text.head?, isBlank c = false) :
    dropBlanks text = text := by
  cases text with
  | nil => rfl
  | cons c rest =>
    have notBlank : ¬ isBlank c = true := by simp [first c rfl]
    rw [dropBlanks, List.dropWhile_cons_of_neg notBlank]

/-- A text that neither starts nor ends with a blank is trimmed. -/
theorem trimmed_eq_self {text : List Char} (first : ∀ c ∈ text.head?, isBlank c = false)
    (last : ∀ c ∈ text.getLast?, isBlank c = false) : trimmed text = text := by
  rw [trimmed, dropBlanks_eq_self first, dropBlanks_eq_self (by simpa using last),
    List.reverse_reverse]

/-- What is left without leading blanks starts with none. -/
theorem isBlank_head?_dropBlanks (text : List Char) :
    ∀ c ∈ (dropBlanks text).head?, isBlank c = false := by
  intro c isFirst
  have first := List.head?_dropWhile_not isBlank text
  rw [show (text.dropWhile isBlank).head? = some c from isFirst] at first
  exact first

/-- A trimmed text starts with no blank. -/
theorem isBlank_head?_trimmed (text : List Char) :
    ∀ c ∈ (trimmed text).head?, isBlank c = false := by
  intro c isFirst
  -- Without the blanks behind it the text still starts as it did, if anything is left of it.
  obtain ⟨blanks, whole⟩ : dropBlanks (dropBlanks text).reverse <:+ (dropBlanks text).reverse :=
    List.dropWhile_suffix isBlank
  have isLast : (dropBlanks (dropBlanks text).reverse).getLast? = some c := by
    rwa [trimmed, List.head?_reverse] at isFirst
  have wasFirst : (dropBlanks text).head? = some c := by
    rw [← List.getLast?_reverse, ← whole, List.getLast?_append, isLast, Option.some_or]
  exact isBlank_head?_dropBlanks text c wasFirst

/-- A trimmed text ends with no blank. -/
theorem isBlank_getLast?_trimmed (text : List Char) :
    ∀ c ∈ (trimmed text).getLast?, isBlank c = false := by
  rw [trimmed, List.getLast?_reverse]
  exact isBlank_head?_dropBlanks _

/-- What is left of a trimmed text was there before. -/
theorem mem_of_mem_trimmed {c : Char} {text : List Char} (member : c ∈ trimmed text) :
    c ∈ text := by
  have inReverse : c ∈ (dropBlanks text).reverse :=
    (List.dropWhile_sublist isBlank).subset (List.mem_reverse.mp member)
  exact (List.dropWhile_sublist isBlank).subset (List.mem_reverse.mp inReverse)

/-- Trimming a trimmed text changes none of its characters. -/
theorem trimmed_trim (text : String) : trimmed (trim text).toList = trimmed text.toList := by
  rw [trim, String.toList_ofList,
    trimmed_eq_self (isBlank_head?_trimmed _) (isBlank_getLast?_trimmed _)]

/-- A text is trimmed once. -/
theorem trim_trim (text : String) : trim (trim text) = trim text :=
  congrArg String.ofList (trimmed_trim text)

/-- No visible ASCII character is blank. -/
theorem isBlank_eq_false_of_visible {c : Char} (above : 0x20 < c.toNat) (below : c.toNat < 0x7F) :
    isBlank c = false := by
  simp only [isBlank, Bool.or_eq_false_iff, Bool.and_eq_false_iff, decide_eq_false_iff_not,
    beq_eq_false_iff_ne]
  omega

end SchemaCompiler.Text
