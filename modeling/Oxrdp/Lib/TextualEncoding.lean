import Oxrdp.Lib.Base64
import Oxrdp.Lib.Str

/-!
# Textual encodings

Data between a line that begins it and a line that ends it, both with its label, in lines of
base64.  To read it, the two boundaries are taken away, the lines are joined, and what they
make together is decoded.
-/

namespace TextualEncoding

/-- The line in front of the data. -/
def preeb (label : List Char) : List Char := "-----BEGIN ".toList ++ label ++ "-----".toList

/-- The line behind the data. -/
def posteb (label : List Char) : List Char := "-----END ".toList ++ label ++ "-----".toList

/-- The lines between the boundaries. -/
def bodyLines (label text : List Char) : Option (List (List Char)) :=
  let header := preeb label ++ ['\n']
  let footer := posteb label ++ ['\n']
  if header <+: text then
    let rest := text.drop header.length
    if footer <:+ rest then some (Str.lines (rest.take (rest.length - footer.length))) else none
  else none

def decode (label text : List Char) : Option (List UInt8) :=
  (bodyLines label text).bind fun lines => Base64.decode lines.flatten

/-- Lines between boundaries. -/
def encapsulate (label : List Char) (lines : List (List Char)) : List Char :=
  preeb label ++ ['\n'] ++ ((lines.flatMap fun line => line ++ ['\n']) ++ (posteb label ++ ['\n']))

/-- The lines without the first and the last. -/
def stripped (text : List Char) : List (List Char) := (Str.lines text).tail.dropLast

variable {label : List Char} {lines : List (List Char)}

/-- Lines are told apart if they contain no line ends. -/
theorem lines_flatMap (hplain : ∀ line ∈ lines, '\n' ∉ line ∧ '\r' ∉ line) (rest : List Char) :
    Str.lines ((lines.flatMap fun line => line ++ ['\n']) ++ rest) = lines ++ Str.lines rest := by
  induction lines with
  | nil => rfl
  | cons line lines ih =>
      obtain ⟨hfeed, hreturn⟩ := hplain line List.mem_cons_self
      have hlast : line.getLast? ≠ some '\r' := fun h => hreturn (List.mem_of_getLast? h)
      rw [List.flatMap_cons, List.append_assoc, List.append_assoc, List.singleton_append,
        Str.lines_line hfeed hlast, ih fun l hl => hplain l (List.mem_cons_of_mem line hl),
        List.cons_append]

theorem bodyLines_encapsulate (hplain : ∀ line ∈ lines, '\n' ∉ line ∧ '\r' ∉ line) :
    bodyLines label (encapsulate label lines) = some lines := by
  have hlines := lines_flatMap hplain []
  rw [List.append_nil, Str.lines, List.append_nil] at hlines
  have hbody : ∀ body footer : List Char,
      (body ++ footer).take ((body ++ footer).length - footer.length) = body := by
    intro body footer
    rw [List.length_append, Nat.add_sub_cancel, List.take_left]
  unfold bodyLines encapsulate
  dsimp only
  rw [if_pos (List.prefix_append _ _), List.drop_left, if_pos (List.suffix_append _ _), hbody,
    hlines]

/-- The boundaries are lines of their own if the label is on one line. -/
theorem lines_encapsulate (hlabel : '\n' ∉ label)
    (hplain : ∀ line ∈ lines, '\n' ∉ line ∧ '\r' ∉ line) :
    Str.lines (encapsulate label lines) = preeb label :: (lines ++ [posteb label]) := by
  have hboundary : ∀ front : List Char, '\n' ∉ front →
      '\n' ∉ front ++ label ++ "-----".toList := by
    intro front hfront h
    rcases List.mem_append.mp h with h | h
    · exact (List.mem_append.mp h).elim hfront hlabel
    · exact absurd h (by decide)
  have hpreeb : '\n' ∉ preeb label := hboundary _ (by decide)
  have hposteb : '\n' ∉ posteb label := hboundary _ (by decide)
  have hlast : ∀ front : List Char, (front ++ "-----".toList).getLast? ≠ some '\r' := by
    intro front
    have hdash : "-----".toList.getLast? = some '-' := by decide
    rw [List.getLast?_append, hdash, Option.some_or]
    decide
  have hfooter := Str.lines_line hposteb (hlast _) []
  unfold encapsulate
  rw [List.append_assoc, List.singleton_append, Str.lines_line hpreeb (hlast _),
    lines_flatMap hplain, hfooter, Str.lines]

/-- Then the boundaries are the first and the last line. -/
theorem stripped_encapsulate (hlabel : '\n' ∉ label)
    (hplain : ∀ line ∈ lines, '\n' ∉ line ∧ '\r' ∉ line) :
    stripped (encapsulate label lines) = lines := by
  rw [stripped, lines_encapsulate hlabel hplain, List.tail_cons, List.dropLast_concat]

end TextualEncoding
