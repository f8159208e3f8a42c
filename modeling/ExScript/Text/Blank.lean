set_option autoImplicit false

namespace ExScript

-- Whether a character is white space: the twenty-five characters of the Unicode property.
def isBlank (c : Char) : Bool :=
  let n := c.toNat
  (9 ≤ n && n ≤ 13) || n == 0x20 || n == 0x85 || n == 0xA0 || n == 0x1680 ||
    (0x2000 ≤ n && n ≤ 0x200A) || n == 0x2028 || n == 0x2029 || n == 0x202F || n == 0x205F || n == 0x3000

def dropBlanks (s : List Char) : List Char := s.dropWhile isBlank

def dropBlanksEnd (s : List Char) : List Char := (s.reverse.dropWhile isBlank).reverse

theorem take_while_append_drop_blanks (s : List Char) : s.takeWhile isBlank ++ dropBlanks s = s :=
  List.takeWhile_append_dropWhile

theorem drop_blanks_end_append (s : List Char) :
    dropBlanksEnd s ++ (s.reverse.takeWhile isBlank).reverse = s := by
  rw [dropBlanksEnd, ← List.reverse_append, List.takeWhile_append_dropWhile, List.reverse_reverse]

end ExScript
