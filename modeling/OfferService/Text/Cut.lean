/-
  OfferService.Text.Cut

  Cutting texts at separators.
-/
namespace OfferService.Text

/-- A text before and after the first separator; nothing comes after if there is none. -/
def cutAt (sep : Char) (s : List Char) : List Char × Option (List Char) :=
  match s.dropWhile (· ≠ sep) with
  | [] => (s, none)
  | _ :: after => (s.takeWhile (· ≠ sep), some after)

/-- The parts of a text between separators. -/
def splitAt (sep : Char) (s : List Char) : List (List Char) :=
  s.foldr
    (fun c parts =>
      if c = sep then [] :: parts
      else
        match parts with
        | [] => [[c]]
        | part :: rest => (c :: part) :: rest)
    [[]]

end OfferService.Text
