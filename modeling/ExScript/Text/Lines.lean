set_option autoImplicit false

namespace ExScript

-- A carriage return right before a line feed belongs to the line end.
def physicalLines : List Char → List (List Char)
  | [] => []
  | '\r' :: '\n' :: rest => [] :: physicalLines rest
  | '\n' :: rest => [] :: physicalLines rest
  | c :: rest =>
      match physicalLines rest with
      | [] => [[c]]
      | line :: lines => (c :: line) :: lines

end ExScript
