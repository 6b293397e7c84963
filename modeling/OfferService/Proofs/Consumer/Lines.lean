import OfferService.Consumer.Basic
import OfferService.Proofs.Text.Trim
import OfferService.Proofs.Text.Utf8

/-
  OfferService.Proofs.Consumer.Lines

  Messages from a text, one a line. `Framed ps text` says, without reading anything, that the
  payloads `ps` stand on the lines of `text` in this order: each on a line of its own with white
  space around it, other lines blank, and all lines ended in one of two ways but for the last one,
  which needs no end. Every text is framed in exactly one way: its payloads are its trimmed lines
  that are not blank.

  Reading works on bytes. A line feed is a byte of no other character, so cutting the bytes at that
  byte cuts the text at its line feeds; each piece is then text of its own.
-/
namespace OfferService.Lines

open Text

/-! ## Texts in lines -/

/-- What a line can hold: it is not blank, and there is no white space at its ends. -/
structure IsPayload (p : List Char) : Prop where
  oneLine : '\n' ∉ p
  notBlank : ¬ Blank p
  tight : Tight p

/-- White space within a line. -/
structure IsPadding (cs : List Char) : Prop where
  oneLine : '\n' ∉ cs
  blank : Blank cs

/-- What stands on a line: one payload with white space around it, or white space only. -/
inductive OnLine : List (List Char) → List Char → Prop
  | nothing {cs} (padding : IsPadding cs) : OnLine [] cs
  | payload {before p after} (left : IsPadding before) (payload : IsPayload p)
      (right : IsPadding after) : OnLine [p] (before ++ p ++ after)

/-- How a line may end. -/
def lineEnds : List (List Char) := [['\n'], ['\r', '\n']]

/-- The payloads that stand on the lines of a text, in their order. The last line needs no end; it
    may be empty. -/
inductive Framed : List (List Char) → List Char → Prop
  | last {ps cs} (line : OnLine ps cs) : Framed ps cs
  | line {ps cs ending qs text} (line : OnLine ps cs) (ended : ending ∈ lineEnds)
      (rest : Framed qs text) : Framed (ps ++ qs) (cs ++ ending ++ text)

/-- The lines of a text that are not blank, without the white space around them. -/
def payloads (text : List Char) : List (List Char) :=
  ((text.splitOn '\n').map trim).filter fun p => !p.isEmpty

variable {cs after text ending : List Char} {ps : List (List Char)}

/-! ## Every text is framed in one way -/

/-- What is kept of a line. -/
def kept (cs : List Char) : List (List Char) := [trim cs].filter fun p => !p.isEmpty

theorem kept_eq (cs : List Char) : kept cs = if trim cs = [] then [] else [trim cs] := by
  rw [kept]
  cases trim cs with
  | nil => rfl
  | cons => rfl

theorem kept_of_blank (h : Blank cs) : kept cs = [] := by
  rw [kept_eq, if_pos (trim_of_blank h)]

theorem kept_of_notBlank (h : ¬ Blank cs) : kept cs = [trim cs] := by
  rw [kept_eq, if_neg]
  intro htrim
  obtain ⟨left, right, hleft, hright, hcs⟩ := exists_trim cs
  rw [htrim, List.append_nil] at hcs
  exact h (hcs ▸ hleft.append hright)

/-- A carriage return before the end of a line is white space. -/
theorem kept_append (h : Blank after) (cs : List Char) : kept (cs ++ after) = kept cs := by
  rw [kept, trim_append_blank h, kept]

/-- A text is a last line, or a line and a line feed and more text. -/
theorem lines_induction {P : List Char → Prop} (last : ∀ cs, '\n' ∉ cs → P cs)
    (line : ∀ cs text, '\n' ∉ cs → P text → P (cs ++ '\n' :: text)) (text : List Char) :
    P text := by
  -- The line that has begun grows until a line feed comes.
  suffices h : ∀ cs, '\n' ∉ cs → P (cs ++ text) from h [] List.not_mem_nil
  induction text with
  | nil =>
    intro cs hcs
    rw [List.append_nil]
    exact last cs hcs
  | cons c text ih =>
    intro cs hcs
    by_cases hfeed : c = '\n'
    · rw [hfeed]
      exact line cs text hcs (ih [] List.not_mem_nil)
    · rw [List.append_cons]
      refine ih (cs ++ [c]) fun hmem => ?_
      rcases List.mem_append.mp hmem with hmem | hmem
      · exact hcs hmem
      · exact hfeed (List.mem_singleton.mp hmem).symm

theorem payloads_last (h : '\n' ∉ cs) : payloads cs = kept cs := by
  rw [payloads, List.splitOn_eq_singleton h]
  rfl

theorem payloads_line (h : '\n' ∉ cs) (text : List Char) :
    payloads (cs ++ '\n' :: text) = kept cs ++ payloads text := by
  have hsplit : (cs ++ '\n' :: text).splitOn '\n' = cs :: text.splitOn '\n' := by
    calc (cs ++ '\n' :: text).splitOn '\n' = cs.splitOn '\n' ++ text.splitOn '\n' :=
          List.splitOnP_append_cons cs text (beq_self_eq_true '\n')
      _ = cs :: text.splitOn '\n' := by rw [List.splitOn_eq_singleton h, List.singleton_append]
  rw [payloads, hsplit, List.map_cons, ← List.singleton_append, List.filter_append]
  rfl

/-- What stands on a line is what is kept of it. -/
theorem OnLine.eq_kept (h : OnLine ps cs) : ps = kept cs ∧ '\n' ∉ cs := by
  cases h with
  | nothing padding => exact ⟨(kept_of_blank padding.blank).symm, padding.oneLine⟩
  | @payload before p after left payload right =>
    have hnotBlank : ¬ Blank (before ++ p ++ after) := fun h =>
      payload.notBlank fun c hc => h c (by simp [hc])
    refine ⟨?_, ?_⟩
    · rw [kept_of_notBlank hnotBlank, trim_append left.blank payload.tight right.blank]
    · rw [List.mem_append, List.mem_append]
      exact fun h => h.elim (fun h => h.elim left.oneLine payload.oneLine) right.oneLine

theorem onLine_kept (h : '\n' ∉ cs) : OnLine (kept cs) cs := by
  by_cases hblank : Blank cs
  · rw [kept_of_blank hblank]
    exact .nothing ⟨h, hblank⟩
  · obtain ⟨left, right, hleft, hright, hcs⟩ := exists_trim cs
    have hparts : '\n' ∉ left ++ trim cs ++ right := hcs ▸ h
    rw [List.mem_append, List.mem_append, not_or, not_or] at hparts
    obtain ⟨⟨hinLeft, hinside⟩, hinRight⟩ := hparts
    have hnotBlank : ¬ Blank (trim cs) := fun hinside =>
      hblank (hcs ▸ (hleft.append hinside).append hright)
    have honLine := OnLine.payload ⟨hinLeft, hleft⟩ ⟨hinside, hnotBlank, tight_trim cs⟩
      ⟨hinRight, hright⟩
    rw [kept_of_notBlank hblank]
    rwa [← hcs] at honLine

/-- An end of a line is a line feed after white space. -/
theorem exists_of_mem_lineEnds (h : ending ∈ lineEnds) :
    ∃ gap, IsPadding gap ∧ ending = gap ++ ['\n'] := by
  rcases List.mem_cons.mp h with rfl | h
  · exact ⟨[], ⟨List.not_mem_nil, nofun⟩, rfl⟩
  · obtain rfl := List.mem_singleton.mp h
    refine ⟨['\r'], ⟨by decide, fun c hc => ?_⟩, rfl⟩
    obtain rfl := List.mem_singleton.mp hc
    rfl

/-- The payloads of a text are its trimmed lines that are not blank, and no others. -/
theorem framed_iff : Framed ps text ↔ ps = payloads text := by
  constructor
  · intro h
    induction h with
    | last line =>
      obtain ⟨hps, hcs⟩ := line.eq_kept
      rw [payloads_last hcs, hps]
    | @line ps cs ending qs text line ended rest ih =>
      obtain ⟨hps, hcs⟩ := line.eq_kept
      obtain ⟨gap, hgap, rfl⟩ := exists_of_mem_lineEnds ended
      have hfeed : '\n' ∉ cs ++ gap := by
        rw [List.mem_append]
        exact fun h => h.elim hcs hgap.oneLine
      have htext : cs ++ (gap ++ ['\n']) ++ text = (cs ++ gap) ++ '\n' :: text := by simp
      rw [htext, payloads_line hfeed, kept_append hgap.blank, ← hps, ih]
  · rintro rfl
    induction text using lines_induction with
    | last cs hcs =>
      rw [payloads_last hcs]
      exact .last (onLine_kept hcs)
    | line cs text hcs ih =>
      rw [payloads_line hcs, List.append_cons]
      exact .line (onLine_kept hcs) List.mem_cons_self ih

/-! ## Reading bytes -/

/-- The bytes of a text. -/
def bytes (cs : List Char) : List UInt8 := cs.flatMap String.utf8EncodeChar

theorem bytes_append (cs text : List Char) : bytes (cs ++ text) = bytes cs ++ bytes text :=
  List.flatMap_append

/-- A line feed is a byte of no other character. -/
theorem lineFeed_not_mem (h : '\n' ∉ cs) : lineFeed ∉ bytes cs := by
  intro hmem
  obtain ⟨c, hc, hbyte⟩ := List.mem_flatMap.mp hmem
  have hnumber : lineFeed.toNat = 10 := rfl
  by_cases hsmall : c.toNat < 128
  · rw [Utf8.utf8EncodeChar_of_lt hsmall, List.mem_singleton] at hbyte
    have hten : c.toNat = 10 := by
      rw [hbyte, UInt8.toNat_ofNat_of_lt' (Nat.lt_trans hsmall (by decide))] at hnumber
      exact hnumber
    have hfeed : c = '\n' := by rw [← Char.ofNat_toNat c, hten]
    exact h (hfeed ▸ hc)
  · have hlarge := Utf8.le_of_mem_utf8EncodeChar (Nat.le_of_not_lt hsmall) hbyte
    omega

theorem cutLine_line {front : List UInt8} (h : lineFeed ∉ front) (before rest : List UInt8) :
    cutLine before (front ++ lineFeed :: rest) = (lineFeed :: (front.reverse ++ before), rest) := by
  induction front generalizing before with
  | nil => rfl
  | cons b front ih =>
    obtain ⟨hb, hfront⟩ := List.ne_and_not_mem_of_not_mem_cons h
    rw [List.cons_append, cutLine, if_neg (Ne.symm hb), ih hfront, List.reverse_cons,
      List.append_assoc, List.singleton_append]

theorem cutLine_last {front : List UInt8} (h : lineFeed ∉ front) (before : List UInt8) :
    cutLine before front = (front.reverse ++ before, []) := by
  induction front generalizing before with
  | nil => rfl
  | cons b front ih =>
    obtain ⟨hb, hfront⟩ := List.ne_and_not_mem_of_not_mem_cons h
    rw [cutLine, if_neg (Ne.symm hb), ih hfront, List.reverse_cons, List.append_assoc,
      List.singleton_append]

theorem payload_bytes (cs : List Char) : payload (bytes cs) = .ok (trim cs) := by
  rw [payload, bytes, Utf8.decode_flatMap]
  rfl

/-- The next message is on the first line, unless that is blank. -/
theorem nextPayload_of_cut {all rest : List UInt8} (more : all ≠ [])
    (cut : cutLine [] all = ((bytes cs).reverse, rest)) :
    nextPayload all = if trim cs = [] then nextPayload rest else .ok (some (trim cs), rest) := by
  cases all with
  | nil => exact absurd rfl more
  | cons b more =>
    rw [nextPayload]
    simp only [cut, List.reverse_reverse, payload_bytes]
    cases trim cs with
    | nil => rfl
    | cons => rfl

theorem nextPayload_nil : nextPayload [] = .ok (none, []) := by rw [nextPayload]

theorem nextPayload_last (h : '\n' ∉ cs) :
    nextPayload (bytes cs) = .ok ((kept cs).head?, []) := by
  rw [kept_eq]
  by_cases hnone : bytes cs = []
  · -- Nothing is left to read, so there is nothing on the line either.
    have hpayload := payload_bytes cs
    rw [hnone] at hpayload
    have htrim : trim cs = [] := (Except.ok.inj hpayload).symm
    rw [hnone, if_pos htrim, nextPayload_nil]
    rfl
  · have hcut := cutLine_last (lineFeed_not_mem h) []
    rw [List.append_nil] at hcut
    rw [nextPayload_of_cut hnone hcut]
    split
    · exact nextPayload_nil
    · rfl

theorem nextPayload_line (h : '\n' ∉ cs) (text : List Char) :
    nextPayload (bytes (cs ++ '\n' :: text)) =
      if trim cs = [] then nextPayload (bytes text) else .ok (some (trim cs), bytes text) := by
  have hbytes : bytes (cs ++ '\n' :: text) = bytes cs ++ lineFeed :: bytes text :=
    bytes_append cs ('\n' :: text)
  have hline : lineFeed :: (bytes cs).reverse = (bytes (cs ++ ['\n'])).reverse := by
    rw [bytes_append, List.reverse_append]
    rfl
  have hcut := cutLine_line (lineFeed_not_mem h) [] (bytes text)
  rw [List.append_nil, hline] at hcut
  have hblank : Blank ['\n'] := fun c hc => by
    rw [List.mem_singleton.mp hc]
    rfl
  rw [hbytes, nextPayload_of_cut (List.append_ne_nil_of_right_ne_nil _ (List.cons_ne_nil _ _)) hcut,
    trim_append_blank hblank]

/-- The next message of a text is the first of its payloads, and the others are those of what is
    left. -/
theorem nextPayload_bytes (text : List Char) :
    ∃ rest, nextPayload (bytes text) = .ok ((payloads text).head?, bytes rest) ∧
      payloads rest = (payloads text).tail := by
  induction text using lines_induction with
  | last cs hcs =>
    refine ⟨[], ?_, ?_⟩
    · rw [payloads_last hcs]
      exact nextPayload_last hcs
    · rw [payloads_last hcs, kept_eq]
      split <;> rfl
  | line cs text hcs ih =>
    rw [payloads_line hcs, nextPayload_line hcs, kept_eq]
    split
    · exact ih
    · exact ⟨text, rfl, rfl⟩

/-! ## All messages -/

/-- A message of a source. -/
def envelope (topic : String) (p : List Char) : Envelope :=
  { topic, key := topic, payload := String.ofList p }

/-- The answers to so many calls, one after another. -/
def answers (l : Lines) : Nat → Except Utf8Fault (List (Option Envelope))
  | 0 => .ok []
  | n + 1 => do
    let (answer, l) ← l.next
    return answer :: (← answers l n)

theorem next_bytes (topic : String) (text : List Char) :
    ∃ rest, next { topic, rest := bytes text } =
        .ok ((payloads text).head?.map (envelope topic), { topic, rest := bytes rest }) ∧
      payloads rest = (payloads text).tail := by
  obtain ⟨rest, hnext, hrest⟩ := nextPayload_bytes text
  refine ⟨rest, ?_, hrest⟩
  rw [next, hnext]
  rfl

/-- The answers are the messages in their order, and then there are none. -/
theorem answers_bytes (topic : String) (text : List Char) (n : Nat) :
    answers { topic, rest := bytes text } n =
      .ok ((List.range n).map fun i => (payloads text)[i]?.map (envelope topic)) := by
  induction n generalizing text with
  | zero => rfl
  | succ n ih =>
    obtain ⟨rest, hnext, hrest⟩ := next_bytes topic text
    have hlater : (List.range n).map (fun i => (payloads rest)[i]?.map (envelope topic)) =
        ((List.range n).map Nat.succ).map fun i => (payloads text)[i]?.map (envelope topic) := by
      rw [hrest, List.map_map]
      simp only [List.getElem?_tail]
      rfl
    rw [answers, hnext, List.range_succ_eq_map, List.map_cons, ← hlater,
      ← List.head?_eq_getElem?]
    show (answers { topic, rest := bytes rest } n >>= fun later => _) = _
    rw [ih]
    rfl

theorem length_payloads_le (text : List Char) : (payloads text).length ≤ (bytes text).length := by
  have hkept (cs : List Char) : (kept cs).length ≤ 1 := List.length_filter_le _ _
  induction text using lines_induction with
  | last cs hcs =>
    rw [payloads_last hcs]
    by_cases hnone : bytes cs = []
    · have hlast := nextPayload_last hcs
      rw [hnone, nextPayload_nil] at hlast
      have hfirst : (kept cs).head? = none := congrArg Prod.fst (Except.ok.inj hlast).symm
      rw [List.head?_eq_none_iff.mp hfirst]
      exact Nat.zero_le _
    · exact Nat.le_trans (hkept cs) (List.length_pos_iff.mpr hnone)
  | line cs text hcs ih =>
    have hone := hkept cs
    rw [payloads_line hcs, List.length_append, List.append_cons, bytes_append, bytes_append,
      List.length_append, List.length_append]
    have hfeed : (bytes ['\n']).length = 1 := rfl
    omega

theorem ofLines_go (topic : String) (fuel : Nat) (text : List Char) :
    Consumer.ofLines.go fuel { topic, rest := bytes text } =
      ((payloads text).take fuel).map fun p => .message (envelope topic p) := by
  induction fuel generalizing text with
  | zero => rfl
  | succ fuel ih =>
    obtain ⟨rest, hnext, hrest⟩ := next_bytes topic text
    rw [Consumer.ofLines.go, hnext]
    cases hpayloads : payloads text with
    | nil => rfl
    | cons p ps =>
      have hps : payloads rest = ps := by rw [hrest, hpayloads, List.tail_cons]
      rw [List.take_succ_cons, List.map_cons, ← hps, ← ih]
      rfl

/-- A source that is read to its end gives its messages: there are no more of them than bytes. -/
theorem ofLines_bytes (topic : String) (text : List Char) :
    Consumer.ofLines topic (bytes text) =
      (payloads text).map fun p => .message (envelope topic p) := by
  rw [Consumer.ofLines, ofLines_go, List.take_of_length_le (length_payloads_le text)]

/-! ## Reading is framing -/

theorem Framed.isPayload (h : Framed ps text) : ∀ p ∈ ps, IsPayload p := by
  have honLine {ps cs} (h : OnLine ps cs) : ∀ p ∈ ps, IsPayload p := by
    cases h with
    | nothing => exact fun p hp => nomatch hp
    | payload _ payload _ => exact fun p hp => List.mem_singleton.mp hp ▸ payload
  induction h with
  | last line => exact honLine line
  | line line _ _ ih => exact fun p hp => (List.mem_append.mp hp).elim (honLine line p) (ih p)

/-- Where payloads stand on the lines of a text, calls for the next message give just these in their
    order, each as a message of the source, and nothing from then on. Payloads stand on the lines of
    every text, in one way only: they are its trimmed lines that are not blank. So a consumer takes
    these from it, and no others. -/
theorem next_gives_payloads (topic : String) :
    (∀ (ps : List (List Char)) (text : String), Framed ps text.toList → ∀ n,
      answers { topic, rest := Utf8.encode text } n =
        .ok ((List.range n).map fun i => ps[i]?.map (envelope topic))) ∧
    ∀ text : String,
      (∀ n, answers { topic, rest := Utf8.encode text } n =
        .ok ((List.range n).map fun i => (payloads text.toList)[i]?.map (envelope topic))) ∧
      (∀ ps, Framed ps text.toList ↔ ps = payloads text.toList) ∧
      (∀ p ∈ payloads text.toList, IsPayload p) ∧
      Consumer.ofLines topic (Utf8.encode text) =
        (payloads text.toList).map fun p => .message (envelope topic p) := by
  have hbytes (text : String) : Utf8.encode text = bytes text.toList := Utf8.encode_eq text
  have hanswers (text : String) (n : Nat) :
      answers { topic, rest := Utf8.encode text } n =
        .ok ((List.range n).map fun i => (payloads text.toList)[i]?.map (envelope topic)) := by
    rw [hbytes, answers_bytes]
  refine ⟨fun ps text framed n => ?_, fun text => ⟨hanswers text, fun ps => framed_iff, ?_, ?_⟩⟩
  · rw [framed_iff.mp framed]
    exact hanswers text n
  · exact (framed_iff.mpr rfl).isPayload
  · rw [hbytes, ofLines_bytes]

/-- Two payloads, the second one without an end of its line, with a return inside and wide white
    space around it. -/
theorem next_gives_payloads_two :
    let text := " [1]\r\n\u2003\n\tb\r c\u00a0"
    Framed ["[1]".toList, "b\r c".toList] text.toList ∧
      answers { topic := "t", rest := Utf8.encode text } 4 =
        .ok [some { topic := "t", key := "t", payload := "[1]" },
          some { topic := "t", key := "t", payload := "b\r c" }, none, none] := by
  intro text
  have hframed : Framed ["[1]".toList, "b\r c".toList] text.toList :=
    framed_iff.mpr (by decide +kernel)
  exact ⟨hframed, (next_gives_payloads "t").1 _ text hframed 4⟩

end OfferService.Lines
