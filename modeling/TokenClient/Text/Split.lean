/-! Cutting a text at marks and putting it together again. -/
namespace TokenClient.Text

variable {α : Type}

/-- The parts between the marks; there is one more of them than there are marks. -/
def splitOn (isMark : α → Bool) : List α → List (List α)
  | [] => [[]]
  | c :: rest =>
    if isMark c then [] :: splitOn isMark rest
    else
      match splitOn isMark rest with
      | part :: parts => (c :: part) :: parts
      | [] => [[c]]

def join (mark : α) : List (List α) → List α
  | [] => []
  | [part] => part
  | part :: rest => part ++ mark :: join mark rest

end TokenClient.Text
