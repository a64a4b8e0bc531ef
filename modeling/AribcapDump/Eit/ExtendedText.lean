import AribcapDump.Eit.EitParser

/-!
# Extended text and how it is split

A broadcaster cuts the values of an extended event's items, and its trailing
text, over entries and descriptors.  `ParseDescriptors` puts them together
again, wherever the cuts are.

* `searchLoop_eq`: the search loop visits the descriptors with the tag, in order.
* `foldl_push_cut`: the fold over the entries gives the items back.
* `formatExtendedText_eq`: the text is the newline-join of its non-empty parts.
* `extendedText_split`: split or not, the text is the same.
-/

namespace AribcapDump

/-! ## The descriptors visited -/

section
variable [TSDuck] (hsearch : SearchSpec)
include hsearch

theorem filter_drop_search (descriptors : DescriptorList) (tag : UInt8) {start : ℕ}
    (hstart : start ≤ descriptors.length) :
    (descriptors.drop start).filter (·.tag == tag) =
      if h : descriptors.search tag start < descriptors.length then
        descriptors[descriptors.search tag start] ::
          (descriptors.drop (descriptors.search tag start + 1)).filter (·.tag == tag)
      else [] := by
  have hleast := hsearch.least descriptors tag start hstart
  have hfound := hsearch.found descriptors tag start hstart
  generalize descriptors.search tag start = found at hleast hfound ⊢
  split
  · next h =>
    obtain ⟨hforward, htag⟩ := hfound h
    have hcut : descriptors.drop start = (descriptors.drop start).take (found - start) ++ descriptors.drop found := by
      have hrest : descriptors.drop found = (descriptors.drop start).drop (found - start) := by
        rw [List.drop_drop, Nat.add_sub_cancel' hforward]
      rw [hrest, List.take_append_drop]
    have hbefore : ((descriptors.drop start).take (found - start)).filter (·.tag == tag) = [] := by
      rw [List.filter_eq_nil_iff]
      intro descriptor hmem heq
      obtain ⟨i, hi, rfl⟩ := List.mem_iff_getElem.mp hmem
      rw [List.length_take, List.length_drop] at hi
      rw [List.getElem_take, List.getElem_drop] at heq
      exact hleast ⟨start + i, by omega⟩ (Nat.le_add_right _ _) (show start + i < found by omega) (eq_of_beq heq)
    rw [hcut, List.filter_append, hbefore, List.nil_append, List.drop_eq_getElem_cons h, List.filter_cons,
      if_pos (beq_iff_eq.mpr htag)]
  · next h =>
    rw [List.filter_eq_nil_iff]
    intro descriptor hmem heq
    obtain ⟨i, hi, rfl⟩ := List.mem_iff_getElem.mp hmem
    rw [List.length_drop] at hi
    rw [List.getElem_drop] at heq
    exact hleast ⟨start + i, by omega⟩ (Nat.le_add_right _ _) (show start + i < found by omega) (eq_of_beq heq)

/-- **The search loop is a fold over the descriptors with the tag.** -/
theorem searchLoop_eq {α : Type} (descriptors : DescriptorList) (tag : UInt8) (body : α → Descriptor → α)
    {start : ℕ} (hstart : start ≤ descriptors.length) (acc : α) :
    searchLoop descriptors tag body (descriptors.search tag start) acc =
      ((descriptors.drop start).filter (·.tag == tag)).foldl body acc := by
  rw [filter_drop_search hsearch descriptors tag hstart, searchLoop]
  split
  · next h =>
    have hforward : start ≤ descriptors.search tag start := TSDuck.le_search descriptors tag hstart
    rw [List.foldl_cons, searchLoop_eq descriptors tag body h]
  · rfl
termination_by descriptors.length - start

end

/-- The valid extended event descriptors, in order. -/
def extendedEvents (descriptors : DescriptorList) : List ExtendedEventDescriptor :=
  (descriptors.filter (·.tag == DID_DVB_EXTENDED_EVENT)).filterMap Descriptor.extendedEvent

def pushEntry (items : List ParsedExtendedEventItem) (entry : ExtendedEventEntry) : List ParsedExtendedEventItem :=
  pushParsedExtendedEventItem items entry.itemDescription entry.item

/-- The entries are folded as if they stood in one descriptor, and the texts are joined. -/
theorem foldl_pushExtendedEvent (descriptors : List Descriptor) (items : List ParsedExtendedEventItem) (text : Bytes) :
    descriptors.foldl pushExtendedEvent (items, text) =
      (((descriptors.filterMap Descriptor.extendedEvent).flatMap ExtendedEventDescriptor.entries).foldl pushEntry items,
        text ++ (descriptors.filterMap Descriptor.extendedEvent).flatMap ExtendedEventDescriptor.text) := by
  induction descriptors generalizing items text with
  | nil => simp
  | cons descriptor descriptors ih =>
    rw [List.foldl_cons, List.filterMap_cons, pushExtendedEvent]
    cases descriptor.extendedEvent with
    | none => exact ih items text
    | some extendedEvent =>
      show descriptors.foldl pushExtendedEvent (extendedEvent.entries.foldl pushEntry items, _) = _
      rw [ih, List.flatMap_cons, List.flatMap_cons, List.foldl_append, List.append_assoc]

theorem extendedText_eq [TSDuck] (hsearch : SearchSpec) (descriptors : DescriptorList) :
    (parseDescriptors descriptors).extendedText =
      formatExtendedText (((extendedEvents descriptors).flatMap ExtendedEventDescriptor.entries).foldl pushEntry [])
        ((extendedEvents descriptors).flatMap ExtendedEventDescriptor.text) := by
  unfold parseDescriptors extendedEvents
  simp only [searchLoop_eq hsearch descriptors _ _ (Nat.zero_le _), List.drop_zero, foldl_pushExtendedEvent,
    List.nil_append]

/-! ## Cuts -/

/-- The entries carry the value of the item in fragments, the first of them with its description. -/
def IsCut (item : ParsedExtendedEventItem) (entries : List ExtendedEventEntry) : Prop :=
  ∃ (fragment : Bytes) (fragments : List Bytes), entries = ⟨item.description, fragment⟩ :: fragments.map (⟨[], ·⟩) ∧
    item.value = fragment ++ fragments.flatten

/-- Fragments without a description continue the last item. -/
theorem foldl_push_fragments (items : List ParsedExtendedEventItem) (description value : Bytes)
    (fragments : List Bytes) :
    (fragments.map fun fragment => (⟨[], fragment⟩ : ExtendedEventEntry)).foldl pushEntry
        (items ++ [⟨description, value⟩]) =
      items ++ [⟨description, value ++ fragments.flatten⟩] := by
  induction fragments generalizing value with
  | nil => simp
  | cons fragment fragments ih =>
    have hpush : pushEntry (items ++ [⟨description, value⟩]) ⟨[], fragment⟩ =
        items ++ [⟨description, value ++ fragment⟩] := by
      simp [pushEntry, pushParsedExtendedEventItem]
    rw [List.map_cons, List.foldl_cons, hpush, ih, List.flatten_cons, List.append_assoc]

/-- The entries of an item that is named, or is the first, add that item. -/
theorem foldl_push_isCut {items : List ParsedExtendedEventItem} {item : ParsedExtendedEventItem}
    {entries : List ExtendedEventEntry} (hcut : IsCut item entries) (hitem : item.description ≠ [] ∨ items = []) :
    entries.foldl pushEntry items = items ++ [item] := by
  obtain ⟨fragment, fragments, rfl, hvalue⟩ := hcut
  have hpush : pushEntry items ⟨item.description, fragment⟩ = items ++ [⟨item.description, fragment⟩] := by
    unfold pushEntry pushParsedExtendedEventItem
    rcases hitem with hnamed | rfl
    · split
      · rw [if_neg hnamed]
      · rfl
    · rfl
  rw [List.foldl_cons, hpush, foldl_push_fragments, ← hvalue]

/-- Every item but the first is named. -/
def AllButFirstNamed (items : List ParsedExtendedEventItem) : Prop := ∀ item ∈ items.tail, item.description ≠ []

theorem foldl_push_named {items : List ParsedExtendedEventItem} {pieces : List (List ExtendedEventEntry)}
    (hcuts : List.Forall₂ IsCut items pieces) (hnamed : ∀ item ∈ items, item.description ≠ [])
    (before : List ParsedExtendedEventItem) : pieces.flatten.foldl pushEntry before = before ++ items := by
  induction hcuts generalizing before with
  | nil => simp
  | cons hcut hcuts ih =>
    have hfirst := hnamed _ List.mem_cons_self
    rw [List.flatten_cons, List.foldl_append, foldl_push_isCut hcut (.inl hfirst),
      ih fun item h => hnamed item (List.mem_cons_of_mem _ h),
      List.append_assoc, List.singleton_append]

/-- **The fold gives the items back**, wherever their values are cut. -/
theorem foldl_push_cut {items : List ParsedExtendedEventItem} {pieces : List (List ExtendedEventEntry)}
    (hcuts : List.Forall₂ IsCut items pieces) (hnamed : AllButFirstNamed items) :
    pieces.flatten.foldl pushEntry [] = items := by
  cases hcuts with
  | nil => rfl
  | cons hcut hcuts =>
    rw [List.flatten_cons, List.foldl_append, foldl_push_isCut hcut (.inr rfl),
      foldl_push_named hcuts hnamed]
    rfl

/-! ## The text -/

/-- What an item contributes: `description newline value`, or the bare value if there is one. -/
def itemPart (item : ParsedExtendedEventItem) : Option Bytes :=
  if item.description = [] then
    if item.value = [] then none else some item.value
  else some (item.description ++ [10] ++ item.value)

/-- The parts of the text. -/
def extendedParts (items : List ParsedExtendedEventItem) (trailingText : Bytes) : List Bytes :=
  items.filterMap itemPart ++ if trailingText = [] then [] else [trailingText]

theorem itemPart_ne_nil {item : ParsedExtendedEventItem} {part : Bytes} (h : itemPart item = some part) :
    part ≠ [] := by
  unfold itemPart at h
  split at h
  · split at h
    · cases h
    · next hvalue =>
      cases h
      exact hvalue
  · cases h
    simp

theorem extendedParts_ne_nil {items : List ParsedExtendedEventItem} {trailingText : Bytes} :
    ∀ part ∈ extendedParts items trailingText, part ≠ [] := by
  intro part hpart
  rcases List.mem_append.mp hpart with hitem | htrailing
  · obtain ⟨item, -, hpart⟩ := List.mem_filterMap.mp hitem
    exact itemPart_ne_nil hpart
  · split at htrailing
    · cases htrailing
    · next hne =>
      rw [List.mem_singleton] at htrailing
      rw [htrailing]
      exact hne

/-- A separator that depends on the output so far is the join of parts that are not empty. -/
theorem foldl_appendPart {parts : List Bytes} (hparts : ∀ part ∈ parts, part ≠ []) :
    parts.foldl appendPart [] = List.intercalate [10] parts := by
  have hmore : ∀ (parts : List Bytes) (out : Bytes), out ≠ [] →
      parts.foldl appendPart out = out ++ parts.flatMap ([10] ++ ·) := by
    intro parts
    induction parts with
    | nil => simp
    | cons part parts ih =>
      intro out hout
      rw [List.foldl_cons, ih _ (by simp [appendPart, hout]), appendPart, if_neg hout, List.flatMap_cons]
      simp only [List.append_assoc]
  cases parts with
  | nil => rfl
  | cons part parts =>
    have hpart : part ≠ [] := hparts part List.mem_cons_self
    rw [List.foldl_cons, appendPart, if_pos rfl, List.nil_append, hmore parts part hpart]
    clear hparts hpart
    induction parts generalizing part with
    | nil => simp [List.intercalate]
    | cons next parts ih =>
      rw [List.flatMap_cons, List.intercalate_cons_cons, ← ih]
      simp only [List.append_assoc]

theorem foldl_items (items : List ParsedExtendedEventItem) (out : Bytes) :
    items.foldl (fun out item =>
      if item.description = [] then
        if item.value = [] then out else appendPart out item.value
      else appendPart out (item.description ++ [10] ++ item.value)) out =
      (items.filterMap itemPart).foldl appendPart out := by
  induction items generalizing out with
  | nil => rfl
  | cons item items ih =>
    rw [List.foldl_cons, ih, List.filterMap_cons]
    unfold itemPart
    by_cases hdescription : item.description = []
    · by_cases hvalue : item.value = [] <;> simp [hdescription, hvalue]
    · simp [hdescription]

/-- **The text is the newline-join of its parts.** -/
theorem formatExtendedText_eq (items : List ParsedExtendedEventItem) (trailingText : Bytes) :
    formatExtendedText items trailingText = List.intercalate [10] (extendedParts items trailingText) := by
  rw [← foldl_appendPart extendedParts_ne_nil]
  unfold formatExtendedText extendedParts
  rw [foldl_items, List.foldl_append]
  split <;> rfl

/-! ## Top theorem -/

/-- The descriptors carry the items, each cut into fragments, and the trailing text; how the entries and the text
are spread over the descriptors, and what other descriptors stand between them, is left open. -/
structure CarriesText (descriptors : DescriptorList) (items : List ParsedExtendedEventItem) (trailingText : Bytes) :
    Prop where
  entries : ∃ pieces, List.Forall₂ IsCut items pieces ∧
    (extendedEvents descriptors).flatMap ExtendedEventDescriptor.entries = pieces.flatten
  text : (extendedEvents descriptors).flatMap ExtendedEventDescriptor.text = trailingText

/-- The items, not cut, and the trailing text in one descriptor. -/
def unsplit (items : List ParsedExtendedEventItem) (trailingText : Bytes) : DescriptorList :=
  [⟨DID_DVB_EXTENDED_EVENT, none, none,
    some ⟨items.map fun item => ⟨item.description, item.value⟩, trailingText⟩⟩]

theorem carriesText_unsplit (items : List ParsedExtendedEventItem) (trailingText : Bytes) :
    CarriesText (unsplit items trailingText) items trailingText := by
  have hone : extendedEvents (unsplit items trailingText) =
      [⟨items.map fun item => ⟨item.description, item.value⟩, trailingText⟩] := rfl
  refine ⟨⟨items.map fun item => [⟨item.description, item.value⟩], ?_, ?_⟩, ?_⟩
  · induction items with
    | nil => exact .nil
    | cons item items ih => exact .cons ⟨item.value, [], rfl, by simp⟩ (ih rfl)
  · rw [hone, List.flatMap_singleton, ← List.flatMap_def, List.map_eq_flatMap]
  · rw [hone, List.flatMap_singleton]

/-- **Splitting an extended event text never changes it.** -/
theorem extendedText_split [TSDuck] (hsearch : SearchSpec) {items : List ParsedExtendedEventItem}
    (hnamed : AllButFirstNamed items) {trailingText : Bytes} {descriptors : DescriptorList}
    (hcarries : CarriesText descriptors items trailingText) :
    (parseDescriptors descriptors).extendedText = (parseDescriptors (unsplit items trailingText)).extendedText ∧
    (parseDescriptors descriptors).extendedText = List.intercalate [10] (extendedParts items trailingText) := by
  have hjoin : ∀ {descriptors : DescriptorList}, CarriesText descriptors items trailingText →
      (parseDescriptors descriptors).extendedText = List.intercalate [10] (extendedParts items trailingText) := by
    intro descriptors hcarries
    obtain ⟨⟨pieces, hcuts, hentries⟩, htext⟩ := hcarries
    rw [extendedText_eq hsearch, hentries, foldl_push_cut hcuts hnamed, htext, formatExtendedText_eq]
  exact ⟨(hjoin hcarries).trans (hjoin (carriesText_unsplit items trailingText)).symm, hjoin hcarries⟩

/-- An unnamed value, a named item cut in three (one fragment is empty) and a trailing text, in two descriptors. -/
def splitInTwo : DescriptorList :=
  [⟨DID_DVB_EXTENDED_EVENT, none, none, some ⟨[⟨[], [65]⟩, ⟨[66], [67]⟩], [69]⟩⟩,
    ⟨DID_DVB_EXTENDED_EVENT, none, none, some ⟨[⟨[], []⟩, ⟨[], [68]⟩], [70]⟩⟩]

theorem extendedText_split_inTwo :
    letI := TSDuck.documented
    (parseDescriptors splitInTwo).extendedText =
      (parseDescriptors (unsplit [⟨[], [65]⟩, ⟨[66], [67, 68]⟩] [69, 70])).extendedText ∧
    (parseDescriptors splitInTwo).extendedText = [65, 10, 66, 10, 67, 68, 10, 69, 70] := by
  have hnamed : AllButFirstNamed [⟨[], [65]⟩, ⟨[66], [67, 68]⟩] := by
    unfold AllButFirstNamed
    decide
  have hcarries : CarriesText splitInTwo [⟨[], [65]⟩, ⟨[66], [67, 68]⟩] [69, 70] := by
    refine ⟨⟨[[⟨[], [65]⟩], [⟨[66], [67]⟩, ⟨[], []⟩, ⟨[], [68]⟩]], ?_, rfl⟩, rfl⟩
    exact .cons ⟨[65], [], rfl, rfl⟩ (.cons ⟨[67], [[], [68]], rfl, rfl⟩ .nil)
  exact @extendedText_split TSDuck.documented searchSpec_documented _ hnamed _ _ hcarries

end AribcapDump
