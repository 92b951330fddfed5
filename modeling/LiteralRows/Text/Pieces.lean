/-!
# Pieces of text

Cutting, searching and quoting on lists of characters.  Every reader of this library works on the
characters that remain, so these are the only string operations it needs.

* `cutAt`: the text before the first occurrence of a separator and the text after it.
* `splitOn`: all pieces between separators, empty ones included.
* `occursIn`: whether one text stands somewhere inside another.
* `doubling`: a text with every occurrence of one character written twice, which is how SQL
  protects the closing mark of a literal or of a quoted identifier.
-/

namespace LiteralRows.Text

/-- The text before the first character that satisfies `p`, and the text after that character. -/
def cutWhere (p : Char → Bool) : List Char → Option (List Char × List Char)
  | [] => none
  | c :: cs =>
    if p c then some ([], cs) else (cutWhere p cs).map fun (before, after) => (c :: before, after)

/-- The text before the first `sep`, and the text after it. -/
def cutAt (sep : Char) : List Char → Option (List Char × List Char) :=
  cutWhere (· == sep)

/-- The text before the last `sep`, and the text after it. -/
def cutAtLast (sep : Char) (s : List Char) : Option (List Char × List Char) :=
  (cutAt sep s.reverse).map fun (after, before) => (before.reverse, after.reverse)

/-- The pieces of a text between occurrences of `sep`.  There is always at least one piece. -/
def splitOn (sep : Char) : List Char → List (List Char)
  | [] => [[]]
  | c :: cs =>
    if c = sep then [] :: splitOn sep cs
    else match splitOn sep cs with
      | [] => [[c]]
      | piece :: pieces => (c :: piece) :: pieces

@[simp] theorem splitOn_nil (sep : Char) : splitOn sep [] = [[]] := rfl

theorem splitOn_ne_nil (sep : Char) (s : List Char) : splitOn sep s ≠ [] := by
  cases s with
  | nil => simp [splitOn]
  | cons c cs =>
    unfold splitOn
    split
    · simp
    · split <;> simp

/-- Whether `needle` stands somewhere inside the text.  The empty text stands in every text. -/
def occursIn (needle : List Char) : List Char → Bool
  | [] => needle.isEmpty
  | c :: cs => needle.isPrefixOf (c :: cs) || occursIn needle cs

/-- The text with every `mark` written twice. -/
def doubling (mark : Char) : List Char → List Char
  | [] => []
  | c :: cs => if c = mark then mark :: mark :: doubling mark cs else c :: doubling mark cs

/-- A text without the mark is unchanged. -/
theorem doubling_eq_self {mark : Char} {s : List Char} (h : mark ∉ s) : doubling mark s = s := by
  induction s with
  | nil => rfl
  | cons c cs ih =>
    simp only [List.mem_cons, not_or] at h
    simp [doubling, Ne.symm h.1, ih h.2]

/-- The rest of a text after the given beginning. -/
def after? (start s : List Char) : Option (List Char) :=
  start.isPrefixOf? s

/-- The rest of a text before the given end. -/
def before? (ending s : List Char) : Option (List Char) :=
  (ending.reverse.isPrefixOf? s.reverse).map List.reverse

/-- A text with its ASCII letters in lower case. -/
def lowerAscii (s : String) : String :=
  String.ofList (s.toList.map Char.toLower)

/-- The pieces with `sep` between them. -/
def joined (sep : String) (pieces : List String) : String :=
  String.intercalate sep pieces

end LiteralRows.Text
