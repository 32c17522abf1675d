import TypedCatalog.Text.Basic

/-! White space of all scripts, and the words that it separates. -/
namespace TypedCatalog.Text

/-- The code points of white space, as ranges with both ends. -/
def blankRanges : List (Nat × Nat) :=
  [(0x9, 0xd), (0x1c, 0x20), (0x85, 0x85), (0xa0, 0xa0), (0x1680, 0x1680), (0x2000, 0x200a),
   (0x2028, 0x2029), (0x202f, 0x202f), (0x205f, 0x205f), (0x3000, 0x3000)]

def isBlank (c : Char) : Bool := inRanges blankRanges c.toNat

/-- The text without white space at its ends. -/
def trim (text : Text) : Text := trimBy isBlank text

/-- The maximal runs of characters outside a class. -/
def wordsBy (separates : Char → Bool) : Text → List Text
  | [] => []
  | c :: rest =>
    if separates c then wordsBy separates rest
    else match rest with
      | [] => [[c]]
      | next :: _ =>
        if separates next then [c] :: wordsBy separates rest
        else match wordsBy separates rest with
          | [] => [[c]]
          | word :: words => (c :: word) :: words

/-- The words between white space. -/
def words (text : Text) : List Text := wordsBy isBlank text

end TypedCatalog.Text
