import OfferService.Proofs.Json.Numbers
import OfferService.Proofs.Json.Strings

/-
  OfferService.Proofs.Json.Lexing

  The lexer finds the tokens that a text spells. Each token is read from where the lexer stands
  between tokens (`Lexer.ready`), and leaves it there again, but for a number: that is closed by
  what comes next. The induction is on the writing of the text.
-/
namespace OfferService.Json

namespace Lexer

variable {before : List Token}

/-! ## Tokens -/

/-- Every token is read from its bytes. -/
theorem holds_of_spells {t : Token} {bs : List UInt8} (spells : Spells t bs) :
    Holds before t (bs.foldl step (ready before)) := by
  cases spells with
  | number number => exact holds_number number
  | @string ps bs pieces =>
    have hfold := foldl_pieces before (s := {}) pieces rfl nofun
    rw [StringState.outcome_empty] at hfold
    rw [List.foldl_cons]
    show Holds _ _ ((bs ++ [0x22]).foldl step (inside before {}))
    rw [hfold]
    exact .token
  | openObject | closeObject | openArray | closeArray | comma | colon | null | true | false =>
    exact .token

/-! ## Texts -/

theorem isBlank_of_mem {b : UInt8} (mem : b ∈ blanks) : isBlank b = true := by
  simp only [blanks, List.mem_cons, List.not_mem_nil, or_false] at mem
  rcases mem with rfl | rfl | rfl | rfl <;> rfl

theorem finish_of_writing {ts : List Token} {text : List UInt8} (writing : Writing ts text) :
    (text.foldl step (ready before)).finish = before.reverse ++ ts := by
  induction writing generalizing before with
  | nil => exact (List.append_nil _).symm
  | @blank ts b text isBlank rest ih =>
    have hstay : step (ready before) b = ready before := by
      show start (ready before) b = _
      rw [start, if_pos (isBlank_of_mem isBlank)]
      rfl
    rw [List.foldl_cons, hstay, ih]
  | @token t ts bs text first rest apart ih =>
    rw [List.foldl_append, (holds_of_spells first).finish_foldl apart, ih, List.reverse_cons,
      List.append_assoc, List.singleton_append]

end Lexer

/-- The tokens of a text are those that it spells. -/
theorem tokens_of_writing {ts : List Token} {text : List UInt8} (writing : Writing ts text) :
    tokens text = ts :=
  Lexer.finish_of_writing writing

end OfferService.Json
