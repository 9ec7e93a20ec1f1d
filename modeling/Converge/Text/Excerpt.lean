import Converge.Text.Basic
import Converge.Text.Utf8

set_option autoImplicit false

namespace Converge.Text.Excerpt

def maxLineLength : Nat := 200

def maxSize : Nat := 1000

def cutMark : List Char := "...".toList

def sizeMark : List Char := "...[truncated]".toList

def lineMark : List Char := "\n...[additional output truncated]".toList

def shorten (line : List Char) : List Char :=
  if maxLineLength < line.length then line.take maxLineLength ++ cutMark else line

def append (kept line : List Char) : List Char :=
  if kept.isEmpty then line else kept ++ '\n' :: line

-- The first line that does not fit ends the text.
def keep : List Char → List (List Char) → List Char
  | kept, [] => kept
  | kept, line :: rest =>
    if maxSize < Utf8.size kept + Utf8.size line then kept ++ sizeMark
    else keep (append kept line) rest

def ofLines (limit : Nat) (ls : List (List Char)) : List Char :=
  keep [] ((ls.take limit).map shorten) ++ if limit < ls.length then lineMark else []

end Excerpt

def excerpt (limit : Nat) (s : List Char) : List Char := Excerpt.ofLines limit (lines s)

end Converge.Text
