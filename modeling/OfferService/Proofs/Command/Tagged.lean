import OfferService.Command
import OfferService.Proofs.Json.Choices
import OfferService.Proofs.Offer.RoundTrip

/-
  OfferService.Proofs.Command.Tagged

  Tag and content of a command may come in either order. The two ways to read them meet in the
  readers of the variants, which take the same from a text and from what was set aside; the content
  of a command that was written is never nested so deeply that it could not be set aside.
-/
namespace OfferService

open OfferService.Json

/-! ## Readers of the variants -/

theorem Offer.settled_reader : Settled Offer.reader := by
  refine Shape.settled_read ?_
  intro m hm d
  simp only [Offer.shape, List.mem_cons, List.not_mem_nil, or_false] at hm
  rcases hm with rfl | rfl | rfl | rfl | rfl
  · exact Member.settled_field settled_word64 _ _ _ d
  · exact Member.settled_field settled_word64 _ _ _ d
  · exact Member.settled_field settled_word64 _ _ _ d
  · exact Member.settled_field settled_word64 _ _ _ d
  · exact Member.settled_field settled_boolean _ _ _ d

namespace Command

theorem settled_deleteShape : Settled deleteShape.read := by
  refine Shape.settled_read ?_
  intro m hm d
  obtain rfl := List.mem_singleton.mp hm
  exact Member.settled_field settled_word64 _ _ _ d

theorem settled_variants : ∀ v ∈ choice.variants, Settled v.2 := by
  intro v hv
  simp only [choice, List.mem_cons, List.not_mem_nil, or_false] at hv
  rcases hv with rfl | rfl | rfl | rfl
  · exact Offer.settled_reader.map _
  · exact Offer.settled_reader.sequence.map _
  · exact Offer.settled_reader.map _
  · exact settled_deleteShape.map _

theorem hasKeys_choice : choice.HasKeys := by
  simp [Choice.HasKeys, choice]

/-! ## Contents -/

theorem fits_content (c : Command) : c.content.Fits := by
  cases c with
  | create o | update o => exact Offer.fits_toJson o
  | multiCreate os =>
    exact Value.itemsFit_of_forall (List.forall_mem_map.mpr fun o _ => Offer.fits_toJson o)
  | delete id => exact ⟨Offer.le_maxSignificand id, trivial⟩

theorem itemTokens_map (os : List Offer) :
    Value.itemTokens (os.map Offer.toJson) = os.map fun o => recordTokens o.members := by
  induction os with
  | nil => rfl
  | cons o os ih =>
    rw [List.map_cons, List.map_cons, Value.itemTokens, ih]
    rfl

theorem tokens_multiCreate (os : List Offer) : (multiCreate os).content.tokens =
    arrayTokens (os.map fun o => recordTokens o.members) :=
  congrArg arrayTokens (itemTokens_map os)

theorem isValue_members (o : Offer) : IsValue 1 (recordTokens o.members) :=
  .object (List.forall_mem_map.mpr fun _ mem => Offer.isValue_member mem)

/-- The content of a command opens two containers in one another at most. -/
theorem isValue_content (c : Command) : ∃ depth, depth ≤ 2 ∧ IsValue depth c.content.tokens := by
  cases c with
  | create o | update o => exact ⟨1, by decide, isValue_members o⟩
  | multiCreate os =>
    rw [tokens_multiCreate]
    exact ⟨2, by decide, .array (List.forall_mem_map.mpr fun o _ => isValue_members o)⟩
  | delete id => exact ⟨1, by decide, .object (List.forall_mem_singleton.mpr .number)⟩

/-- The content of a command is short enough to be set aside. -/
theorem keepValue_content (c : Command) (rest : List Token) :
    keepValue keptDepth (c.content.tokens ++ rest) = .ok (c.content.tokens, rest) := by
  obtain ⟨depth, hdepth, hvalue⟩ := isValue_content c
  exact keepValue_append hvalue (Value.check_tokens _ _) (Nat.le_trans hdepth (by decide)) rest

theorem reads_members (o : Offer) (origin : Origin) :
    Reads (Offer.reader origin) (recordTokens o.members) o :=
  Offer.reads_of_tells (Offer.tells_members o) origin

theorem reads_delete (id : UInt64) (origin : Origin) :
    Reads (deleteShape.read origin) (delete id).content.tokens id := by
  have hread : Reads (word64.map fun v => some v) [.number (.natural id.toNat)] (some id) :=
    (reads_word64 id).map _
  exact Shape.reads_object (.known rfl rfl hread .nil)
    (List.forall_mem_singleton.mpr ⟨0, .number⟩) rfl

/-- The content of a command is read back under the command's name. -/
theorem reads_content (c : Command) : ∃ r, choice.variant c.name = .ok r ∧
    ∀ origin, Reads (r origin) c.content.tokens c := by
  cases c with
  | create o => exact ⟨_, rfl, fun origin => (reads_members o origin).map _⟩
  | multiCreate os =>
    rw [tokens_multiCreate]
    refine ⟨_, rfl, fun origin => (reads_sequence ?_ ?_).map _⟩
    · exact List.forall_mem_map.mpr fun o _ => ⟨1, isValue_members o⟩
    · exact List.forall₂_map_left_iff.mpr (List.forall₂_same.mpr fun o _ => reads_members o origin)
  | update o => exact ⟨_, rfl, fun origin => (reads_members o origin).map _⟩
  | delete id => exact ⟨_, rfl, fun origin => (reads_delete id origin).map _⟩

/-! ## Objects -/

/-- The members of an object that tells a command: its tag and its content in either order, and any
    others. -/
structure Tells (ms : List (String × List Token)) (c : Command) : Prop where
  values : ∀ m ∈ ms, ∃ depth, IsValue depth m.2
  known : (ms.filter fun m => m.1 ∈ ["type", "value"]) =
      [("type", [.string (.ok c.name)]), ("value", c.content.tokens)] ∨
    (ms.filter fun m => m.1 ∈ ["type", "value"]) =
      [("value", c.content.tokens), ("type", [.string (.ok c.name)])]

/-- Two members that matter, and what stands before, between and after them. -/
theorem exists_append_of_filter {p : β → Bool} {l : List β} {a b : β} (h : l.filter p = [a, b]) :
    ∃ xs ys zs, l = xs ++ a :: (ys ++ b :: zs) ∧ (∀ x ∈ xs, ¬ p x) ∧ (∀ y ∈ ys, ¬ p y) ∧
      ∀ z ∈ zs, ¬ p z := by
  obtain ⟨xs, rest, rfl, hxs, -, hrest⟩ := List.filter_eq_cons_iff.mp h
  obtain ⟨ys, zs, rfl, hys, -, hzs⟩ := List.filter_eq_cons_iff.mp hrest
  exact ⟨xs, ys, zs, rfl, hxs, hys, List.filter_eq_nil_iff.mp hzs⟩

/-- Members with other names than tag and content are passed over. -/
theorem isOther_of_mem {xs : List (String × List Token)}
    (others : ∀ m ∈ xs, ¬ decide (m.1 ∈ ["type", "value"]) = true)
    (values : ∀ m ∈ xs, ∃ depth, IsValue depth m.2) : ∀ m ∈ xs.map named, choice.IsOther m := by
  refine List.forall_mem_map.mpr fun m hm => ⟨⟨m.1, rfl, fun role heq => ?_⟩, values m hm⟩
  refine others m hm (decide_eq_true ?_)
  rw [← heq]
  cases role <;> simp [Choice.key, choice]

/-- An object that tells a command is read as the command. -/
theorem reads_of_tells {ms : List (String × List Token)} {c : Command} (tells : Tells ms c) :
    Reads choice.read (recordTokens ms) c := by
  obtain ⟨r, hvariant, hcontent⟩ := reads_content c
  have htag := Choice.reads_tag .name hvariant
  rcases tells.known with known | known
  all_goals
    obtain ⟨xs, ys, zs, rfl, hxs, hys, hzs⟩ := exists_append_of_filter known
    have hvalues := tells.values
    simp only [List.forall_mem_append, List.forall_mem_cons] at hvalues
    obtain ⟨hvalX, -, hvalY, -, hvalZ⟩ := hvalues
    have othersX := isOther_of_mem hxs hvalX
    have othersY := isOther_of_mem hys hvalY
    have othersZ := isOther_of_mem hzs hvalZ
  -- in place, or once its content was set aside
  · have hreads := Choice.reads_tagFirst hasKeys_choice othersX othersY othersZ htag (hcontent .text)
    simpa [Choice.tagFirst, recordTokens, named, Choice.key, choice] using hreads
  · obtain ⟨depth, -, hvalue⟩ := isValue_content c
    have hreads := Choice.reads_contentFirst hasKeys_choice othersX othersY othersZ hvalue
      (keepValue_content c) htag (hcontent .kept)
    simpa [Choice.contentFirst, recordTokens, named, Choice.key, choice] using hreads

/-! ## Texts -/

/-- The text of an object with a command's content before its tag. -/
def contentFirstText (content tag : List UInt8) : List UInt8 :=
  Text.Utf8.encode "\x7b\"value\":" ++ content ++ Text.Utf8.encode ",\"type\":" ++ tag ++
    Text.Utf8.encode "\x7d"

/-- The text of an object with a command's tag before its content. -/
def tagFirstText (content tag : List UInt8) : List UInt8 :=
  Text.Utf8.encode "\x7b\"type\":" ++ tag ++ Text.Utf8.encode ",\"value\":" ++ content ++
    Text.Utf8.encode "\x7d"

section

variable {vs ts : List Token} {V T : List UInt8}

theorem writing_contentFirstText (content : Writing vs V) (tag : Writing ts T) :
    Writing (recordTokens [("value", vs), ("type", ts)]) (contentFirstText V T) :=
  writing_pair "value" "type" content tag

theorem writing_tagFirstText (content : Writing vs V) (tag : Writing ts T) :
    Writing (recordTokens [("type", ts), ("value", vs)]) (tagFirstText V T) :=
  writing_pair "type" "value" tag content

/-- A command that is read with its content first is also read with its tag first. -/
theorem ofText_tagFirst (content : IsText vs V) (tag : IsText ts T) {c : Command}
    (h : ofText (contentFirstText V T) = .ok c) : ofText (tagFirstText V T) = .ok c := by
  obtain ⟨hcontent, depthV, valueV⟩ := content
  obtain ⟨htag, depthT, valueT⟩ := tag
  have none : ∀ m ∈ ([] : List (Except Break String × List Token)), choice.IsOther m := nofun
  have hread := eq_ok_of_read (writing_contentFirstText hcontent htag) h
  rw [← List.append_nil (recordTokens _)] at hread
  obtain ⟨-, r, htagReads, hreads⟩ := Choice.reads_of_contentFirst hasKeys_choice none none none
    settled_variants valueT valueV hread
  exact read_of_reads (writing_tagFirstText hcontent htag)
    (Choice.reads_tagFirst hasKeys_choice none none none htagReads (hreads .text))

end

/-- The order of tag and content makes no difference: what is read with the content first is read
    the same with the tag first, and every command is read back from either order. -/
theorem tag_order_is_free :
    (∀ (vs ts : List Token) (V T : List UInt8), IsText vs V → IsText ts T →
      ∀ c, ofText (contentFirstText V T) = .ok c → ofText (tagFirstText V T) = .ok c) ∧
    (∀ c : Command, ofText (Text.Utf8.encode c.toJson.render) = .ok c ∧
      ofText (Text.Utf8.encode c.toJsonContentFirst.render) = .ok c) ∧
    ∀ (c : Command) (ms : List (String × List Token)) (text : List UInt8),
      Tells ms c → Writing (recordTokens ms) text → ofText text = .ok c := by
  have htells : ∀ (c : Command) (ms : List (String × List Token)) (text : List UInt8),
      Tells ms c → Writing (recordTokens ms) text → ofText text = .ok c :=
    fun c ms text tells writing => read_of_reads writing (reads_of_tells tells)
  refine ⟨fun _ _ _ _ content tag _ h => ofText_tagFirst content tag h, fun c => ?_, htells⟩
  obtain ⟨depth, -, hvalue⟩ := isValue_content c
  have hcontent : ∃ depth, IsValue depth c.content.tokens := ⟨depth, hvalue⟩
  have htag : ∃ depth, IsValue depth [.string (.ok c.name)] := ⟨0, .string⟩
  constructor
  · have hfits : c.toJson.Fits := ⟨trivial, fits_content c, trivial⟩
    refine htells c [("type", _), ("value", _)] _ ⟨?_, .inl rfl⟩ (writing_render hfits)
    exact List.forall_mem_cons.mpr ⟨htag, List.forall_mem_singleton.mpr hcontent⟩
  · have hfits : c.toJsonContentFirst.Fits := ⟨fits_content c, trivial, trivial⟩
    refine htells c [("value", _), ("type", _)] _ ⟨?_, .inr rfl⟩ (writing_render hfits)
    exact List.forall_mem_cons.mpr ⟨hcontent, List.forall_mem_singleton.mpr htag⟩

theorem tag_order_is_free_create :
    ofText (tagFirstText (Text.Utf8.encode (Offer.fresh 2 3 4).toText)
      (Text.Utf8.encode "\"create\"")) = .ok (.create (Offer.fresh 2 3 4)) := by
  have hcontent := Offer.writing_toText (Offer.fresh 2 3 4)
  have htag : Writing [.string (.ok "create")] (Text.Utf8.encode "\"create\"") :=
    writing_render (v := .string "create") trivial
  have htells : Tells [("value", recordTokens (Offer.fresh 2 3 4).members),
      ("type", [.string (.ok "create")])] (.create (Offer.fresh 2 3 4)) :=
    ⟨List.forall_mem_cons.mpr ⟨⟨1, isValue_members _⟩, List.forall_mem_singleton.mpr ⟨0, .string⟩⟩,
      .inr rfl⟩
  exact tag_order_is_free.1 _ _ _ _ ⟨hcontent, 1, isValue_members _⟩ ⟨htag, 0, .string⟩ _
    (tag_order_is_free.2.2 _ _ _ htells (writing_contentFirstText hcontent htag))

end Command

end OfferService
