namespace LoginGate.Words

/-!
# Words of a line

A line falls into words at its ASCII blanks. Other blanks, such as U+000B and
U+00A0, belong to words.
-/

/-- The ASCII blanks: space, tab, line feed, form feed and carriage return. -/
def isBlank (character : Char) : Bool :=
  character = ' ' || character = '\t' || character = '\n' || character = '\x0c' ||
    character = '\r'

/-- The parts of a line between its blanks, empty ones included. -/
def parts : List Char → List (List Char)
  | [] =>
      [[]]
  | character :: rest =>
      if isBlank character then
        [] :: parts rest
      else
        match parts rest with
        | [] =>
            [[character]]
        | first :: others =>
            (character :: first) :: others

/-- The words of a line, from the front. -/
def ofLine (line : String) : List String :=
  ((parts line.toList).filter (· ≠ [])).map String.ofList

end LoginGate.Words
