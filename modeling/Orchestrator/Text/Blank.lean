/-!
Blank characters and the cuts made at them.

A character is blank when it has the Unicode property White_Space. Trimming and splitting into
words are stated on character lists; the `String` forms only convert.
-/

namespace Orchestrator.Text

/-- The Unicode property White_Space: twenty-five characters, the zero-width space and the
byte-order mark not among them. -/
def isBlank (c : Char) : Bool :=
  let n := c.toNat
  (0x09 ≤ n && n ≤ 0x0D) || n == 0x20 || n == 0x85 || n == 0xA0 || n == 0x1680 ||
    (0x2000 ≤ n && n ≤ 0x200A) || n == 0x2028 || n == 0x2029 || n == 0x202F || n == 0x205F ||
    n == 0x3000

/-- Blanks removed from the front of a character list. -/
def skipBlank (cs : List Char) : List Char := cs.dropWhile isBlank

/-- Removes every character that satisfies `p` from the end of a list. -/
def dropEndWhile (p : Char → Bool) (cs : List Char) : List Char :=
  (cs.reverse.dropWhile p).reverse

/-- Removes the characters that satisfy `p` from both ends of a list. -/
def stripBoth (p : Char → Bool) (cs : List Char) : List Char :=
  dropEndWhile p (cs.dropWhile p)

/-- Blanks removed from both ends of a character list. -/
def trimChars (cs : List Char) : List Char :=
  stripBoth isBlank cs

/-- Blanks removed from both ends of a text. -/
def trim (s : String) : String :=
  String.ofList (trimChars s.toList)

/-- Whether a text holds nothing but blanks. -/
def isBlankText (s : String) : Bool :=
  s.toList.all isBlank

/-- The maximal runs of characters that satisfy `p`. The accumulator holds the run that is being
read, in reverse. -/
def runsOf (p : Char → Bool) : List Char → List Char → List (List Char)
  | [], [] => []
  | [], acc => [acc.reverse]
  | c :: cs, acc =>
    if p c then runsOf p cs (c :: acc)
    else match acc with
      | [] => runsOf p cs []
      | _ => acc.reverse :: runsOf p cs []

/-- The maximal runs of non-blank characters, in order. -/
def wordsOf (cs : List Char) : List (List Char) :=
  runsOf (fun c => !isBlank c) cs []

/-- The words of a text: its maximal runs of non-blank characters. -/
def words (s : String) : List String :=
  (wordsOf s.toList).map String.ofList

/-- Cuts a character list at every occurrence of one character, keeping empty pieces: a list with
`n` separators has `n + 1` pieces. -/
def splitAt (sep : Char) : List Char → List (List Char)
  | [] => [[]]
  | c :: cs =>
    if c = sep then [] :: splitAt sep cs
    else match splitAt sep cs with
      | [] => [[c]]
      | piece :: pieces => (c :: piece) :: pieces

/-- Cuts a character list at the first occurrence of one character; `none` when it does not
occur. -/
def cutAt? (sep : Char) : List Char → Option (List Char × List Char)
  | [] => none
  | c :: cs =>
    if c = sep then some ([], cs)
    else (cutAt? sep cs).map fun (before, after) => (c :: before, after)

/-- ASCII capital letters lowered, all else unchanged. -/
def lowerAscii (s : String) : String :=
  String.ofList (s.toList.map Char.toLower)

end Orchestrator.Text
